import Moadian.Mock.Reports
import Moadian.Mock.Uuids
import Moadian.Submission.Matching
import Moadian.Submission.Reported

/-! A batch from the client to the server: what is built, posted under a fresh token and
taken apart again is recorded as it was meant, and each result finds its own invoice. -/
namespace Moadian.Mock
open Codec Crypto Wire Fallible

/-! What the server reads of the bytes the client writes. -/

section Loads
variable {py : Python}

theorem detectsObject (rest : Bytes) : detectEncoding (0x5B :: 0x7B :: rest) = .utf8 := by
  cases rest with
  | nil => rfl
  | cons a rest => cases rest <;> rfl

theorem loadsText {text : List Char} {v : Json} (charset : detectEncoding (encodeUtf8 text) = .utf8) (read : raw py.floats text = .ok v) :
    loads py (encodeUtf8 text) = .ok v := by
  simp only [loads,charset,decodeEncoded,read]

theorem loadsLegible {k : String} {v : Json} {rest : Dict} (legible : Legible py.floats (.obj ((k,v) :: rest))) :
    loads py (encodeUtf8 (dumps py.floats .canonical (.obj ((k,v) :: rest)))) = .ok (.obj ((k,v) :: rest)) := by
  refine loadsText ?_ (rawLegible py.floats .canonical legible)
  have shape : ∃ t, dumps py.floats .canonical (.obj ((k,v) :: rest)) = '{' :: '"' :: t := by
    simp only [dumps,dump,Style.newline,Style.canonical,quoted,List.cons_append,List.nil_append,List.append_assoc]
    exact ⟨_,rfl⟩
  obtain ⟨t,shape⟩ := shape
  rw [shape]
  exact detectsUtf8 (encodeUtf8 t)

theorem batchLoaded {packets : List Wire.Packet} (some_ : packets ≠ []) :
    loads py (batchBytes py.floats packets) = .ok (.arr (packets.map Wire.Packet.modelDump)) := by
  obtain ⟨p,rest,rfl⟩ := List.exists_cons_of_ne_nil some_
  have plain : PlainItems ((p :: rest).map Wire.Packet.modelDump) := by
    clear some_
    induction p :: rest with
    | nil => exact True.intro
    | cons q later ih => exact ⟨⟨by simp,True.intro,⟨by simp,True.intro,True.intro,True.intro⟩,True.intro⟩,ih⟩
  refine loadsText ?_ (rawDumps py.floats .canonical plain)
  have shape : ∃ t, dumps py.floats .canonical (.arr ((p :: rest).map Wire.Packet.modelDump)) = '[' :: '{' :: t := by
    simp only [List.map_cons,Wire.Packet.modelDump,dumps,dump,Style.newline,Style.canonical,List.cons_append,List.nil_append,List.append_assoc]
    exact ⟨_,rfl⟩
  obtain ⟨t,shape⟩ := shape
  rw [shape]
  exact detectsObject (encodeUtf8 t)

end Loads

/-! What is signed of an invoice, as the server looks into it. -/

section Document
variable {sheet : Sheet}

variable (sheet) in
theorem documentMember {key : String} {v : Json} (own : (key,some v) ∈ sheet.complete.fields) (filled : Json.isEmpty v = false) :
    ∃ w, sheet.document.lookup key = some w := by
  have member : (key,Json.cleaned v) ∈ sheet.document := by
    rw [Sheet.document,Json.cleanedMembersEq]
    refine List.mem_map.mpr ⟨(key,v),List.mem_filter.mpr ⟨?_,by simp [filled]⟩,rfl⟩
    exact List.mem_filterMap.mpr ⟨(key,some v),own,rfl⟩
  have known : ¬ (sheet.document.lookup key = none) := by
    intro absent
    exact absurd rfl (bne_iff_ne.mp (List.lookup_eq_none_iff.mp absent _ member))
  exact Option.ne_none_iff_exists'.mp known

variable (sheet) in
theorem documentBody : ∃ lines, sheet.document.lookup "body" = some lines :=
  documentMember sheet (List.mem_cons_of_mem _ List.mem_cons_self) rfl

theorem documentTaxid (ink : Json.isBlank sheet.complete.header.taxid = false) :
    ∃ header, sheet.document.lookup "header" = some (.obj header) ∧ header.lookup "taxid" = some (.str sheet.complete.header.taxid) := by
  have signed := Submission.signedTaxid sheet.complete
  have whole : sheet.complete.toWireDict.stripNulls = .obj sheet.document := Json.twoPasses _
  rw [whole,ink,if_neg Bool.false_ne_true,Submission.headerOf] at signed
  obtain ⟨h,named,inner⟩ := Option.bind_eq_some_iff.mp signed
  cases h with
  | obj header => exact ⟨header,named,inner⟩
  | null | bool b | int n | float f | str t | arr items => cases inner

theorem documentLoaded {py : Python} {signed : Bytes} (loaded : Loaded py.floats (.obj sheet.complete.modelDump))
    (canonical : canonicalBytes py.floats sheet.complete.toWireDict = .ok signed) : loads py signed = .ok (.obj sheet.document) := by
  obtain ⟨writable,rfl⟩ := (canonicalBytesOf py.floats sheet.complete).mp canonical
  have legible := cleanedLegible py.floats _ loaded writable
  have whole : Json.cleaned (.obj sheet.complete.modelDump) = .obj sheet.document := rfl
  rw [whole] at legible ⊢
  obtain ⟨w,found⟩ := documentBody sheet
  cases shape : sheet.document with
  | nil =>
    rw [shape] at found
    cases found
  | cons m rest =>
    obtain ⟨k,v⟩ := m
    rw [shape] at legible
    exact loadsLegible legible

end Document

/-! One packet. -/

structure Recorded (floats : Floats) (signerDer : Bytes) (clientId fiscalId : String) (minted : Minted) (sheet : Sheet)
    (a : StoredSubmission) : Prop where
  uid : a.uid = sheet.uid
  referenceNumber : a.referenceNumber = minted.uuid
  fiscalId : a.fiscalId = fiscalId
  clientId : a.clientId = clientId
  taxId : a.taxId = some sheet.complete.header.taxid
  invoice : a.invoice = sheet.document
  invoiceBytes : canonicalBytes floats sheet.complete.toWireDict = .ok a.invoiceBytes
  signerDer : a.signerDer = signerDer
  receivedAt : a.receivedAt = minted.receivedAt
  status : a.status = .success

-- An invoice that `json.loads` reads back, under a tax id that is not blank.
structure Sendable (floats : Floats) (sheet : Sheet) : Prop where
  loaded : Loaded floats (.obj sheet.complete.modelDump)
  ink : Json.isBlank sheet.complete.header.taxid = false

section Packet
variable {lib : Library} {py : Python} {state : MockState lib} {credentials : SigningCredentials lib} {encryptor : JweEncryptor lib}
  {fiscalId : String}

theorem packetParts {sheet : Sheet} {packet : Wire.Packet} (built : sheet.packet py.floats credentials encryptor fiscalId = .ok packet) :
    (∃ signed, canonicalBytes py.floats sheet.complete.toWireDict = .ok signed) ∧ packet.header = ⟨sheet.uid,fiscalId⟩ := by
  obtain ⟨signed,canonical,built⟩ := bindOk.mp built
  obtain ⟨jws,_,built⟩ := bindOk.mp built
  obtain ⟨jwe,_,built⟩ := bindOk.mp built
  cases built
  refine ⟨⟨signed,canonical⟩,?_⟩
  have named : traceId "" (some sheet.uid) = sheet.uid := by
    unfold traceId
    split
    · rename_i no
      cases no
    · rename_i empty
      exact absurd (Option.some.inj empty) (uuidNamed sheet.uuid)
    · rename_i same
      exact (Option.some.inj same).symm
  rw [named]

theorem nothingOpened : ∀ jws, decryptJwe py state [] ≠ .ok jws := by
  intro jws opened
  cases opened

theorem acceptBuilt (inverts : lib.Inverts) (matched : credentials.Matched)
    (known : encryptor.serverKey = ⟨state.keyId,state.publicKeyB64⟩) (filed : fiscalId ≠ "") (auth : AuthContext lib) {minted : Minted}
    (trusted : Trusted state minted.verifiedAt credentials) {sheet : Sheet} (sound : Sendable py.floats sheet) {packet : Wire.Packet}
    (built : sheet.packet py.floats credentials encryptor fiscalId = .ok packet) :
    ∃ a, accept py state auth minted packet.modelDump = .ok (sheet.uid,a) ∧
      Recorded py.floats credentials.der auth.clientId fiscalId minted sheet a := by
  obtain ⟨⟨signed,canonical⟩,header⟩ := packetParts built
  have undone := packetUnpacked inverts py matched trusted known sheet.clock sheet.drawn canonical fiscalId (some sheet.uid) ""
  obtain ⟨jws,shown,opened,verified⟩ := undone.parts packet built
  have payload : String.ofList packet.payload ≠ "" := by
    intro empty
    have none_ : packet.payload = [] := by simpa using congrArg String.toList empty
    rw [none_] at opened
    exact nothingOpened jws opened
  obtain ⟨head,named,taxid⟩ := documentTaxid sound.ink
  obtain ⟨lines,body⟩ := documentBody sheet
  have loaded := documentLoaded sound.loaded canonical
  have some_ : sheet.complete.header.taxid ≠ "" := by
    intro empty
    have ink := sound.ink
    rw [empty] at ink
    cases ink
  have uuid : isUuid sheet.uid = true := uuidIsUuid sheet.uuid
  have outer : member [("payload",.str (String.ofList packet.payload)),
      ("header",.obj [("requestTraceId",.str sheet.uid),("fiscalId",.str fiscalId)])] "header" =
        .obj [("requestTraceId",.str sheet.uid),("fiscalId",.str fiscalId)] := rfl
  have filled : ∀ {text : String}, text ≠ "" → nonEmpty (.str text) = some text := fun other => if_neg other
  have text : nonEmpty (member [("payload",.str (String.ofList packet.payload)),
      ("header",.obj [("requestTraceId",.str sheet.uid),("fiscalId",.str fiscalId)])] "payload") = some (String.ofList packet.payload) :=
    filled payload
  have traced : nonEmpty (member [("requestTraceId",.str sheet.uid),("fiscalId",.str fiscalId)] "requestTraceId") = some sheet.uid :=
    filled (uuidNamed sheet.uuid)
  have fiscal : nonEmpty (member [("requestTraceId",.str sheet.uid),("fiscalId",.str fiscalId)] "fiscalId") = some fiscalId :=
    filled filed
  have inside : member sheet.document "header" = .obj head := by rw [member,named,Option.getD_some]
  have taxId : nonEmpty (member head "taxid") = some sheet.complete.header.taxid := by
    rw [member,taxid,Option.getD_some]
    exact filled some_
  rw [Packet.modelDump,header,accept]
  simp only [outer,text,traced,fiscal,uuid,Bool.not_true,Bool.false_eq_true,if_false,String.toList_ofList,opened,verified,restating,
    bind,Except.bind,loaded,named,body,Option.isSome_some,Bool.and_self,if_true,inside,taxId]
  exact ⟨_,rfl,rfl,rfl,rfl,rfl,rfl,rfl,canonical,rfl,rfl,rfl⟩

def RecordedAll (floats : Floats) (signerDer : Bytes) (clientId fiscalId : String) (minted : Nat → Minted) (i : Nat) (sheets : List Sheet)
    (accepted : List StoredSubmission) : Prop :=
  List.Forall₂ (fun numbered a => Recorded floats signerDer clientId fiscalId (minted numbered.2) numbered.1 a) (sheets.zipIdx i) accepted

theorem acceptEach (inverts : lib.Inverts) (matched : credentials.Matched)
    (known : encryptor.serverKey = ⟨state.keyId,state.publicKeyB64⟩) (filed : fiscalId ≠ "") (auth : AuthContext lib) {minted : Nat → Minted}
    (trusted : ∀ i, Trusted state (minted i).verifiedAt credentials) {sheets : List Sheet} {packets : List Wire.Packet}
    (sound : ∀ sheet ∈ sheets, Sendable py.floats sheet)
    (built : List.Forall₂ (fun sheet packet => sheet.packet py.floats credentials encryptor fiscalId = .ok packet) sheets packets)
    (i : Nat) : ∃ accepted, List.Forall₂ (fun p a => accept py state auth (minted p.2) p.1 = .ok (a.uid,a))
        ((packets.map Wire.Packet.modelDump).zipIdx i) accepted ∧
      RecordedAll py.floats credentials.der auth.clientId fiscalId minted i sheets accepted := by
  induction built generalizing i with
  | nil => exact ⟨[],.nil,.nil⟩
  | @cons sheet packet sheets packets one later ih =>
    obtain ⟨a,taken,recorded⟩ := acceptBuilt inverts matched known filed auth (trusted i) (sound sheet List.mem_cons_self) one
    obtain ⟨more,rest,each⟩ := ih (fun other member => sound other (List.mem_cons_of_mem sheet member)) (i + 1)
    rw [← recorded.uid] at taken
    exact ⟨a :: more,.cons taken rest,.cons recorded each⟩

end Packet

/-! The batch. -/

theorem consumeMade {lib : Library} {state : MockState lib} {n : String} {now : Int} {record : NonceRecord}
    (issued : state.nonces.lookup n = some record) (unused : record.used = false) (early : now < record.expiresAt) :
    ∃ spent burned, consumeNonce state n now = .ok (spent,burned) ∧ burned.keyId = state.keyId ∧
      burned.publicKeyB64 = state.publicKeyB64 ∧ burned.trustedDer = state.trustedDer := by
  unfold consumeNonce
  rw [issued]
  dsimp only
  rw [unused,if_neg Bool.false_ne_true,if_neg (Int.not_le.mpr early)]
  exact ⟨_,_,rfl,rfl,rfl,rfl⟩

/- A client and a server that know each other: its certificate is good whenever the server
looks at it, and it encrypts to the server's key. -/
structure Acquainted {lib : Library} (state : MockState lib) (client : NonceAuthenticator lib) (encryptor : JweEncryptor lib)
    (post : Post) : Prop where
  matched : client.credentials.Matched
  named : client.clientId ≠ ""
  trusted : Trusted state post.now client.credentials
  trustedEach : ∀ i, Trusted state (post.minted i).verifiedAt client.credentials
  serverKey : encryptor.serverKey = ⟨state.keyId,state.publicKeyB64⟩

/- A request that posts the packets of these invoices, under a token for a nonce that the
server has issued and not yet seen. -/
structure Posts {lib : Library} (py : Python) (s : Registry lib) (client : NonceAuthenticator lib) (encryptor : JweEncryptor lib)
    (fiscalId : String) (sheets : List Sheet) (post : Post) : Prop where
  token : ∃ n clock record, n ≠ "" ∧ Wire.bearerToken py.floats client clock n = .ok post.authorization ∧
    s.nonces.lookup n = some record ∧ record.used = false ∧ post.now < record.expiresAt
  body : ∃ packets, buildPackets py.floats client.credentials encryptor fiscalId sheets = .ok packets ∧
    batchBody py.floats packets = .ok post.body
  some_ : sheets ≠ []
  few : sheets.length ≤ maxPackets
  filed : fiscalId ≠ ""
  sendable : ∀ sheet ∈ sheets, Sendable py.floats sheet
  distinct : (sheets.map Sheet.uid).Nodup
  new : ∀ sheet ∈ sheets, sheet.uid ∉ s.uids

structure Delivered {lib : Library} (py : Python) (s : Registry lib) (client : NonceAuthenticator lib) (fiscalId : String)
    (sheets : List Sheet) (post : Post) (accepted : List StoredSubmission) : Prop where
  recorded : RecordedAll py.floats client.credentials.der client.clientId fiscalId post.minted 0 sheets accepted
  answer : (s.invoice py post).1 = .ok ⟨py.millis post.answeredAt,accepted.map StoredSubmission.result⟩
  stored : (s.invoice py post).2.submissions.entries = s.submissions.entries ++ accepted.map (fun a => (a.referenceNumber,a))
  own : ∀ i sheet, sheets[i]? = some sheet →
    (InvoicePipeline.byUid (accepted.map StoredSubmission.result) sheet.uid).bind (·.referenceNumber) = some (post.minted i).uuid

section Batch
variable {lib : Library} {py : Python} {s : Registry lib} {client : NonceAuthenticator lib} {encryptor : JweEncryptor lib}
  {fiscalId : String} {sheets : List Sheet} {post : Post}

theorem recordedUids {floats : Floats} {der : Bytes} {clientId : String} {minted : Nat → Minted} {i : Nat}
    {accepted : List StoredSubmission} (recorded : RecordedAll floats der clientId fiscalId minted i sheets accepted) :
    accepted.map StoredSubmission.uid = sheets.map Sheet.uid := by
  unfold RecordedAll at recorded
  induction sheets generalizing i accepted with
  | nil =>
    cases recorded
    rfl
  | cons sheet rest ih =>
    cases recorded with
    | cons one later => rw [List.map_cons,List.map_cons,one.uid,ih later]

theorem recordedAt {floats : Floats} {der : Bytes} {clientId : String} {minted : Nat → Minted} {i : Nat}
    {accepted : List StoredSubmission} (recorded : RecordedAll floats der clientId fiscalId minted i sheets accepted) {k : Nat}
    {sheet : Sheet} (here : sheets[k]? = some sheet) :
    ∃ a ∈ accepted, Recorded floats der clientId fiscalId (minted (i + k)) sheet a := by
  unfold RecordedAll at recorded
  induction sheets generalizing i accepted k with
  | nil => cases here
  | cons first rest ih =>
    cases recorded with
    | @cons _ a _ more one later =>
      cases k with
      | zero =>
        cases here
        exact ⟨a,List.mem_cons_self,one⟩
      | succ k =>
        obtain ⟨b,member,own⟩ := ih later here
        exact ⟨b,List.mem_cons_of_mem a member,by rw [Nat.add_succ,← Nat.succ_add]; exact own⟩

theorem builtEach {credentials : SigningCredentials lib} {packets : List Wire.Packet}
    (built : buildPackets py.floats credentials encryptor fiscalId sheets = .ok packets) :
    List.Forall₂ (fun sheet packet => Sheet.packet py.floats credentials encryptor fiscalId sheet = .ok packet) sheets packets := by
  unfold buildPackets at built
  refine eachOk ?_ built
  intro i sheet _ packet one
  exact one

theorem delivered (inverts : lib.Inverts) (acquainted : Acquainted s.toMockState client encryptor post) (fresh : s.Fresh post)
    (posts : Posts py s client encryptor fiscalId sheets post) : ∃ accepted, Delivered py s client fiscalId sheets post accepted := by
  obtain ⟨n,clock,record,some_,bearer,issued,unused,early⟩ := posts.token
  obtain ⟨packets,built,written⟩ := posts.body
  obtain ⟨jws,d,signature,parts⟩ := bearerParts bearer
  obtain ⟨header,passes⟩ := bearsAuthenticated inverts acquainted.matched acquainted.trusted ⟨some_,clock,jws,d,signature,parts⟩
  obtain ⟨spent,burned,consumed,keyId,publicKey,trustedDer⟩ := consumeMade issued unused early
  rw [if_neg acquainted.named,consumed,Except.map] at passes
  have body : post.body = batchBytes py.floats packets := by
    rw [batchCanonical] at written
    exact (Except.ok.inj written).symm
  have each := builtEach built
  have long : packets.length = sheets.length := each.length_eq.symm
  have filled : packets ≠ [] := by
    rintro rfl
    exact posts.some_ (List.eq_nil_of_length_eq_zero long.symm)
  have trusted : ∀ i, Trusted burned (post.minted i).verifiedAt client.credentials := fun i =>
    ⟨(acquainted.trustedEach i).opened,(acquainted.trustedEach i).open_,fun t own => (acquainted.trustedEach i).known t (trustedDer ▸ own)⟩
  have serverKey : encryptor.serverKey = ⟨burned.keyId,burned.publicKeyB64⟩ := by
    rw [keyId,publicKey]
    exact acquainted.serverKey
  obtain ⟨accepted,taken,recorded⟩ := acceptEach inverts acquainted.matched serverKey posts.filed
    ⟨client.clientId,n,client.credentials.certificate,header⟩ trusted posts.sendable each 0
  have named := recordedUids recorded
  have added : Added py burned ⟨client.clientId,n,client.credentials.certificate,header⟩ post.minted
      (packets.map Wire.Packet.modelDump) 0 s.uids accepted := by
    refine ⟨taken,fun a member => ?_,named ▸ posts.distinct⟩
    obtain ⟨sheet,listed,own⟩ := List.mem_map.mp (named ▸ List.mem_map_of_mem member)
    rw [← own]
    exact posts.new sheet listed
  have step := Registry.invoiceAccepts passes (by rw [body]; exact batchLoaded filled) (by simpa using filled)
    (by rw [List.length_map,long]; exact posts.few) added
  refine ⟨accepted,recorded,congrArg Prod.fst step,?_,?_⟩
  · rw [step]
    exact Registry.stored fresh added
  · intro i sheet here
    obtain ⟨a,member,own⟩ := recordedAt recorded here
    have uids : (accepted.map StoredSubmission.result).map (·.uid) = sheets.map Sheet.uid := by
      rw [List.map_map,← recordedUids recorded]
      rfl
    have found := Submission.byUidFound (uids ▸ posts.distinct) (List.mem_map_of_mem member)
    have named : a.result.uid = sheet.uid := own.uid
    rw [← named,found]
    show some a.referenceNumber = _
    rw [own.referenceNumber,Nat.zero_add]

end Batch

/-! Asking for what became of it. -/

theorem slicesFilled {α : Type} {size : Nat} (positive : 0 < size) {xs : List α} : ∀ chunk ∈ slices size xs, chunk ≠ [] := by
  intro chunk member empty
  obtain ⟨i,small,rfl⟩ := List.mem_map.mp member
  have count := List.mem_range.mp small
  have inside : i * size < xs.length := by
    have most := Nat.mul_le_of_le_div _ _ _ (Nat.succ_le_of_lt count)
    rw [Nat.succ_mul] at most
    omega
  have long := congrArg List.length empty
  rw [List.length_take,List.length_drop,List.length_nil] at long
  omega

def inquire {lib : Library} (py : Python) (served : Nat → MockServer lib) (asking : Nat → Asking) (references : List String) :
    Except Refusal (List InquiryResult) :=
  (each (fun i chunk => (served i).inquiryByReferenceId py (asking i) chunk) 0 (slices maxInquiryIds references)).map List.flatten

-- Asked without bounds, within a day of the batch.
structure Soon (post : Post) (asking : Nat → Asking) : Prop where
  start : ∀ i, (asking i).start = none
  end_ : ∀ i, (asking i).end_ = none
  early : ∀ i j, (asking i).lookedAt - dayMicros ≤ (post.minted j).receivedAt

section Asking
variable {lib : Library} {py : Python} {post : Post} {asking : Nat → Asking}

theorem soonValid (soon : Soon post asking) (i : Nat) : (asking i).Valid py := by
  refine ⟨none,none,?_,?_,rfl⟩
  · rw [soon.start i]
    rfl
  · rw [soon.end_ i]
    rfl

theorem soonCovers (soon : Soon post asking) (i : Nat) {a : StoredSubmission} {j : Nat} (received : a.receivedAt = (post.minted j).receivedAt) :
    (asking i).covers py a = true := by
  have early := soon.early i j
  rw [← received] at early
  simp only [Asking.covers,soon.start i,soon.end_ i,bound,parseTimestamp,Except.map]
  simpa [within] using early

theorem authenticateKey {state burned : MockState lib} {now : Int} {authorization : List Char} {auth : AuthContext lib}
    (passed : authenticate py state now authorization = .ok (auth,burned)) : burned.privateKey = state.privateKey := by
  obtain ⟨record,consumed⟩ := passedBurns passed
  unfold consumeNonce at consumed
  split at consumed
  · cases consumed
  · split at consumed
    · cases consumed
    · split at consumed
      · cases consumed
      · cases consumed
        rfl

theorem handleKey (s : MockServer lib) (a : Arrival) : (s.handle py a).2.privateKey = s.privateKey := by
  cases a with
  | nonce now uuid timeToLive => rfl
  | invoice post =>
    show (s.toRegistry.invoice py post).2.privateKey = s.privateKey
    unfold Registry.invoice
    split
    · rfl
    · rename_i auth burned passed
      have same := authenticateKey passed
      dsimp only
      repeat' split
      all_goals exact same
  | guarded now authorization route =>
    simp only [MockServer.handle]
    split
    · rfl
    · rename_i auth burned passed
      have same := authenticateKey passed
      obtain ⟨_,kept | ⟨_,p,_,_,paid⟩⟩ := MockServer.dispatchCases py { s with toMockState := burned } now auth route
      · rw [kept]
        exact same
      · rw [paid]
        exact same

theorem runKey (s : MockServer lib) (arrivals : List Arrival) : (s.run py arrivals).privateKey = s.privateKey := by
  induction arrivals generalizing s with
  | nil => rfl
  | cons a rest ih => exact (ih _).trans (handleKey s a)

structure Serves (py : Python) (accepted : List StoredSubmission) (s : MockServer lib) : Prop where
  coherent : s.Coherent
  signs : Signs s.toMockState
  holds : accepted ⊆ s.recorded

theorem walkServes {served : Nat → MockServer lib} {between : Nat → List Arrival} (walk : MockServer.Walk py served between)
    {accepted : List StoredSubmission} (start : Serves py accepted (served 0)) (i : Nat) : Serves py accepted (served i) := by
  induction i with
  | zero => exact start
  | succ i ih =>
    rw [walk.next i]
    obtain ⟨more,_,grown,_⟩ := MockServer.runExtends (walk.fresh i)
    refine ⟨MockServer.runCoherent (walk.fresh i) ih.coherent,fun data => ?_,fun a member => MockServer.recordedMore grown (ih.holds member)⟩
    rw [runKey]
    exact ih.signs data

def Finds (accepted : List StoredSubmission) (id : String) (r : InquiryResult) : Prop :=
  ∀ a ∈ accepted, a.referenceNumber = id → ∃ sign, r = reportOf a sign

theorem inquireFinds {served : Nat → MockServer lib} {accepted : List StoredSubmission} (serves : ∀ i, Serves py accepted (served i))
    (valid : ∀ i, (asking i).Valid py) (covers : ∀ i, ∀ a ∈ accepted, (asking i).covers py a = true) (references : List String) :
    ∃ rs, inquire py served asking references = .ok rs ∧ List.Forall₂ (Finds accepted) references rs := by
  have one : ∀ i, ∀ chunk ∈ slices maxInquiryIds references, ∃ rs, (served i).inquiryByReferenceId py (asking i) chunk = .ok rs := by
    intro i chunk member
    have some_ := slicesFilled (show 0 < maxInquiryIds by decide) chunk member
    exact ((MockServer.inquired py (serves i).coherent).ready (serves i).signs (asking i) (valid i) chunk some_
      (slicesShort _ _ chunk member)).1
  obtain ⟨chunks,asked⟩ := eachMade one 0
  have each : List.Forall₂ (List.Forall₂ (Finds accepted)) (slices maxInquiryIds references) chunks := by
    refine eachOk ?_ asked
    intro i chunk _ rs answered
    refine ((MockServer.inquired py (serves i).coherent).byReference (asking i) chunk rs answered).imp ?_
    intro id r reported a member same
    exact reported.own a (List.mem_filter.mpr ⟨(serves i).holds member,covers i a member⟩) same
  have joined := List.rel_flatten each
  rw [slicesFlatten (by decide)] at joined
  exact ⟨chunks.flatten,by rw [inquire,asked]; rfl,joined⟩

theorem findsOwn {accepted : List StoredSubmission} {rs : List InquiryResult}
    (found : List.Forall₂ (Finds accepted) (accepted.map StoredSubmission.referenceNumber) rs) :
    List.Forall₂ (fun a r => ∃ sign, r = reportOf a sign) accepted rs := by
  have paired := (List.forall₂_and_left accepted rs).mpr ⟨fun a (member : a ∈ accepted) => member,List.forall₂_map_left_iff.mp found⟩
  refine paired.imp ?_
  rintro a r ⟨member,finds⟩
  exact finds a member rfl

theorem recordedReceived {floats : Floats} {der : Bytes} {clientId fiscalId : String} {minted : Nat → Minted} {i : Nat}
    {sheets : List Sheet} {accepted : List StoredSubmission} (recorded : RecordedAll floats der clientId fiscalId minted i sheets accepted) :
    ∀ a ∈ accepted, ∃ j, a.receivedAt = (minted j).receivedAt := by
  unfold RecordedAll at recorded
  generalize sheets.zipIdx i = numbered at recorded
  intro a member
  induction recorded with
  | nil => cases member
  | @cons first b _ _ one later ih =>
    obtain rfl | inside := List.mem_cons.mp member
    · exact ⟨first.2,one.receivedAt⟩
    · exact ih inside

end Asking

/- What a client posts is recorded whole, and whatever the server deals with afterwards, the
references it answered with bring back the report of each invoice, in order. -/
theorem batchReported {lib : Library} (inverts : lib.Inverts) (py : Python) {s : MockServer lib} (coherent : s.Coherent)
    (signs : Signs s.toMockState) {client : NonceAuthenticator lib} {encryptor : JweEncryptor lib} {fiscalId : String}
    {sheets : List Sheet} {post : Post} (acquainted : Acquainted s.toMockState client encryptor post) (fresh : s.toRegistry.Fresh post)
    (posts : Posts py s.toRegistry client encryptor fiscalId sheets post) :
    ∃ accepted, Delivered py s.toRegistry client fiscalId sheets post accepted ∧
      ∀ served between, MockServer.Walk py served between → served 0 = (s.handle py (.invoice post)).2 →
        ∀ asking, Soon post asking → ∃ results,
          inquire py served asking (accepted.map StoredSubmission.referenceNumber) = .ok results ∧
          List.Forall₂ (fun a r => ∃ sign, r = reportOf a sign) accepted results := by
  obtain ⟨accepted,done⟩ := delivered inverts acquainted fresh posts
  refine ⟨accepted,done,fun served between walk start asking soon => ?_⟩
  have first : Serves py accepted (served 0) := by
    rw [start]
    refine ⟨MockServer.handleCoherent fresh coherent,fun data => ?_,fun a member => ?_⟩
    · rw [handleKey]
      exact signs data
    · have held : (a.referenceNumber,a) ∈ (s.toRegistry.invoice py post).2.submissions.entries := by
        rw [done.stored]
        exact List.mem_append_right _ (List.mem_map_of_mem member)
      exact List.mem_map_of_mem held
  have covers : ∀ i, ∀ a ∈ accepted, (asking i).covers py a = true := by
    intro i a member
    obtain ⟨j,received⟩ := recordedReceived done.recorded a member
    exact soonCovers soon i received
  obtain ⟨results,asked,found⟩ := inquireFinds (walkServes walk first) (soonValid soon) covers (accepted.map StoredSubmission.referenceNumber)
  exact ⟨results,asked,findsOwn found⟩

/-! Two invoices of one line each, posted under the nonce that was issued last. -/
namespace Example

def numbered (taxid sstid : String) : Invoice where
  header := { taxid := taxid, indatim := 1742544000000, ins := 1 }
  body := [{ sstid := sstid, prdis := some 20000 }]

def sheets : List Sheet := [
  ⟨numbered "A111" "2710000138624",0x123456781234567812345678123456781234#128,utcNoon,drawn⟩,
  ⟨numbered "A112" "2720000114542",0x876543218765432187654321876543218765#128,utcNoon,drawn⟩]

def batch (packets : List Wire.Packet) : Post := { opening with body := batchBytes py.floats packets }

theorem numberedDump (taxid sstid : String) : Json.obj (numbered taxid sstid).modelDump = .obj [
    ("header",.obj [("taxid",.str taxid),("indatim",.int 1742544000000),("ins",.int 1)]),
    ("body",.arr [.obj [("sstid",.str sstid),("prdis",.int 20000)]]),("payments",.arr [])] := rfl

theorem sheetsNumbered : ∀ sheet ∈ sheets, ∃ taxid sstid, sheet.complete = numbered taxid sstid ∧
    Json.isBlank taxid = false ∧ sheet.clock = utcNoon := by
  simp only [sheets,List.forall_mem_cons,List.not_mem_nil,false_implies,implies_true,and_true]
  exact ⟨⟨_,_,rfl,by decide⟩,⟨_,_,rfl,by decide⟩⟩

theorem sheetsWritable : ∀ sheet ∈ sheets, Json.unwritable (.obj sheet.complete.modelDump) = none := by decide +kernel

theorem sheetsBuilt : ∃ packets, buildPackets py.floats taxpayer encryptor "A11111" sheets = .ok packets := by
  refine eachMade (fun i sheet member => ?_) 0
  obtain ⟨_,_,_,_,clock⟩ := sheetsNumbered sheet member
  obtain ⟨signed,canonical⟩ : ∃ signed, canonicalBytes py.floats sheet.complete.toWireDict = .ok signed :=
    ⟨_,(canonicalBytesOf py.floats sheet.complete).mpr ⟨sheetsWritable sheet member,rfl⟩⟩
  have known : encryptor.serverKey = ⟨server.keyId,server.publicKeyB64⟩ := rfl
  have undone := packetUnpacked packageInverts py (rfl : taxpayer.Matched) trusted known sheet.clock sheet.drawn canonical
    "A11111" (some sheet.uid) ""
  cases made : sheet.packet py.floats taxpayer encryptor "A11111" with
  | ok packet => exact ⟨packet,rfl⟩
  | error e =>
    rw [clock] at undone
    obtain no | ⟨_,_,no⟩ | ⟨_,no⟩ | ⟨_,_,_,no⟩ := undone.unmade e (by rw [← clock]; exact made)
    all_goals cases no

theorem numberedSendable : ∀ sheet ∈ sheets, Sendable py.floats sheet := by
  intro sheet member
  obtain ⟨taxid,sstid,own,ink,_⟩ := sheetsNumbered sheet member
  refine ⟨?_,by rw [own]; exact ink⟩
  rw [own,numberedDump]
  have small : ∀ n : Int, n.natAbs < 10 ^ 13 → n.natAbs < 10 ^ maxDigits := fun n few =>
    Nat.lt_of_lt_of_le few (Nat.pow_le_pow_right (by decide) (by decide))
  simp only [Loaded,LoadedMembers,LoadedItems]
  exact ⟨by simp,⟨by simp,True.intro,small _ (by decide),small 1 (by decide),True.intro⟩,
    ⟨⟨by simp,True.intro,small _ (by decide),True.intro⟩,True.intro⟩,True.intro,True.intro⟩

theorem known : ∃ n clock record, n ≠ "" ∧ Wire.bearerToken py.floats authenticator clock n = .ok (bearer first) ∧
    issuedTwo.nonces.lookup n = some record ∧ record.used = false ∧ opening.now < record.expiresAt := by
  obtain ⟨authorization,made⟩ := bearerMade first
  have shown : bearer first = authorization := by
    rw [bearer,made]
    rfl
  refine ⟨first,utcNoon,⟨first,expiry 1742544000000000 30,false⟩,textNamed "a" 1742544000000000,shown ▸ made,?_,rfl,by decide⟩
  rw [issuedTwo,issuedLookup]
  exact if_pos rfl

theorem batchPosts {packets : List Wire.Packet} (built : buildPackets py.floats taxpayer encryptor "A11111" sheets = .ok packets) :
    Posts py office.toRegistry authenticator encryptor "A11111" sheets (batch packets) where
  token := known
  body := ⟨packets,built,batchCanonical py.floats packets⟩
  some_ := by simp [sheets]
  few := by decide
  filed := by decide
  sendable := numberedSendable
  distinct := by decide +kernel
  new := fun _ _ => List.not_mem_nil

theorem batchAcquainted (packets : List Wire.Packet) : Acquainted office.toMockState authenticator encryptor (batch packets) where
  matched := rfl
  named := by decide
  trusted := ⟨trusted.opened,trusted.open_,trusted.known⟩
  trustedEach := fun _ => ⟨trusted.opened,trusted.open_,trusted.known⟩
  serverKey := rfl

end Example

theorem batchReportedBoth : ∃ packets accepted,
    Delivered Example.py Example.office.toRegistry Example.authenticator "A11111" Example.sheets (Example.batch packets) accepted ∧
      ∀ served between, MockServer.Walk Example.py served between →
        served 0 = (Example.office.handle Example.py (.invoice (Example.batch packets))).2 →
        ∀ asking, Soon (Example.batch packets) asking → ∃ results,
          inquire Example.py served asking (accepted.map StoredSubmission.referenceNumber) = .ok results ∧
          List.Forall₂ (fun a r => ∃ sign, r = reportOf a sign) accepted results := by
  obtain ⟨packets,built⟩ := Example.sheetsBuilt
  exact ⟨packets,batchReported Example.packageInverts Example.py Example.officeCoherent (Example.packageSigns _)
    (Example.batchAcquainted packets) Example.postsFresh.1 (Example.batchPosts built)⟩

end Moadian.Mock
