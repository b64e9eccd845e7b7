import Moadian.Submission.Ledger
import Moadian.TaxId.Decoding

/-! What is left to do for an invoice once its serial is drawn: the day of its tax
id, its wire form and its canonical JSON. The engine looks at none of them. -/
namespace Moadian.Submission
open Resumption Handler Json

def building (pipeline : InvoicePipeline) (invoice : Invoice) (w : World) (answers : List (Oracle service)) :
    Task service Exc (List Packet × List (String × String)) :=
  (solo w (Task.start service (pipeline.buildPackets [invoice])) answers).2

/- What the interpreter can write: a value of at most `limit` levels, as deep as it
recurses, whose texts have no lone surrogate, a character that UTF-8 has no bytes for.
The characters that stand for one here are `lone`. -/
structure Interpreter where
  limit : Nat
  lone : Char → Bool
  ascii : ∀ c : Char, c.toNat < 128 → lone c = false

def Interpreter.encodes (py : Interpreter) (text : String) : Bool := text.toList.all (fun c => !py.lone c)

def Interpreter.writes (py : Interpreter) (document : Json) : Bool :=
  decide (document.depth ≤ py.limit) && document.stripNulls.texts.all py.encodes

structure Helpful (py : Interpreter) (orc : Oracle service) : Prop where
  serial : ∀ memoryId, ∃ n : Int, 1 ≤ n ∧ n ≤ TaxId.maxSerial ∧ orc (.serialSource memoryId) = Except.ok n
  written : ∀ document : Json, py.writes document = true → ∃ payload : String, orc (.signAndEncrypt document) = Except.ok payload
  refused : ∀ document : Json, py.writes document = false → ∃ e : Exc, orc (.signAndEncrypt document) = Except.error e

def CannotFail (py : Interpreter) (pipeline : InvoicePipeline) (invoice : Invoice) : Prop :=
  ∀ w answers, (∀ orc ∈ answers, Helpful py orc) →
    (∀ e, (building pipeline invoice w answers).prog.outcome ≠ some (.error e)) ∧
    (3 ≤ answers.length → (building pipeline invoice w answers).prog.Returned)

def unidentified (invoice : Invoice) : Invoice :=
  { invoice with header := { invoice.header with taxid := "", inno := none } }

structure Sendable (py : Interpreter) (invoice : Invoice) : Prop where
  dated : 0 ≤ invoice.header.indatim ∧ invoice.header.indatim < TaxId.endOfDays
  writable : unwritable (.obj invoice.modelDump) = none
  shallow : depth (.obj invoice.modelDump) ≤ py.limit
  encoded : ∀ text ∈ texts (stripNulls (unidentified invoice).toWireDict), py.encodes text = true

/-! The steps after the draw. -/

def identified (memoryId : String) (serial : Int) (invoice : Invoice) : Handler Invoice := do
  let issuedAt ← ofExcept (TaxId.issuedAt invoice.header.indatim)
  let taxid ← ofExcept (TaxId.generateTaxId memoryId serial issuedAt)
  let inno ← ofExcept (TaxId.invoiceSerialHex serial)
  pure { invoice with header := { invoice.header with taxid := taxid, inno := some inno } }

def sealing (memoryId : String) (complete : Invoice) : Handler (List Packet × List (String × String)) := do
  let uid : String ← perform .uuid4
  let packet ← buildPacket complete.toWireDict memoryId uid
  pure ([packet],[(uid,complete.header.taxid)])

theorem buildingSteps {pipeline : InvoicePipeline} {invoice : Invoice} (ok : accepts pipeline invoice)
    (blank : invoice.header.taxid = "") : pipeline.buildPackets [invoice] =
      .op (.serialSource pipeline.memoryId) (fun drawn : Except Exc Int => ofExcept drawn >>= fun serial =>
        identified pipeline.memoryId serial invoice >>= sealing pipeline.memoryId) := by
  have passed : (pipeline.rules.validate invoice).ok = true := ok
  have drawing : pipeline.withIdentity invoice = (perform (.serialSource pipeline.memoryId) >>=
      fun drawn : Except Exc Int => ofExcept drawn >>= fun serial => identified pipeline.memoryId serial invoice) := by
    rw [InvoicePipeline.withIdentity,if_neg (by simpa using blank)]
    rfl
  have grouped : (pipeline.withIdentity invoice >>= sealing pipeline.memoryId) =
      .op (.serialSource pipeline.memoryId) (fun drawn : Except Exc Int => ofExcept drawn >>= fun serial =>
        identified pipeline.memoryId serial invoice >>= sealing pipeline.memoryId) := by
    rw [drawing]
    refine (Prog.bindAssoc _ _ _).trans ?_
    exact congrArg (Prog.bind _) (funext fun drawn => Prog.bindAssoc _ _ _)
  rw [← grouped]
  unfold InvoicePipeline.buildPackets
  simp only [InvoicePipeline.raiseIfInvalid,passed,if_true]
  split <;> rfl

theorem identifiedCases {memoryId : String} {memory : List Char} (valid : TaxId.validateMemoryId memoryId = .ok memory)
    {serial : Int} (positive : 0 ≤ serial) (small : serial ≤ TaxId.maxSerial) (invoice : Invoice)
    (blank : invoice.header.taxid = "") :
    ((0 ≤ invoice.header.indatim ∧ invoice.header.indatim < TaxId.endOfDays) ∧ ∃ complete,
      identified memoryId serial invoice = Prog.ret complete ∧ Completes memoryId invoice (some serial) complete) ∨
    (¬ (0 ≤ invoice.header.indatim ∧ invoice.header.indatim < TaxId.endOfDays) ∧ ∃ e,
      identified memoryId serial invoice = Prog.raise e) := by
  have hex : TaxId.invoiceSerialHex serial =
      .ok (String.ofList (TaxId.padded 10 (TaxId.hexDigits serial.toNat))) := by
    simp only [TaxId.invoiceSerialHex,TaxId.serialOk positive small]
    rfl
  have mints : (∃ issued taxid, TaxId.issuedAt invoice.header.indatim = .ok issued ∧
      TaxId.generateTaxId memoryId serial issued = .ok taxid) ↔
      0 ≤ invoice.header.indatim ∧ invoice.header.indatim < TaxId.endOfDays := TaxId.mintsOn valid positive small
  cases instant : TaxId.issuedAt invoice.header.indatim with
  | error e =>
    refine .inr ⟨fun inside => ?_,e,ofError instant⟩
    obtain ⟨_,_,same,_⟩ := mints.mpr inside
    rw [instant] at same
    cases same
  | ok issued =>
    cases generated : TaxId.generateTaxId memoryId serial issued with
    | error e =>
      refine .inr ⟨fun inside => ?_,e,(ofOk instant).trans (ofError generated)⟩
      obtain ⟨_,_,same,other⟩ := mints.mpr inside
      rw [instant] at same
      cases Except.ok.inj same
      rw [generated] at other
      cases other
    | ok taxid =>
      exact .inl ⟨mints.mp ⟨issued,taxid,instant,generated⟩,_,
        (ofOk instant).trans ((ofOk generated).trans (ofOk hex)),.minted blank instant generated hex⟩

theorem sealingSteps (memoryId : String) (complete : Invoice) : sealing memoryId complete =
    .op .uuid4 (fun uid : String => ofExcept complete.toWireDict.canonicalJson >>= fun _ =>
      .op (.signAndEncrypt complete.toWireDict) (fun sealed : Except Exc String => ofExcept sealed >>= fun payload =>
        pure ([⟨payload,complete.toWireDict,uid,memoryId⟩],[(uid,complete.header.taxid)]))) := by
  refine congrArg (Prog.op (E := effects) Op.uuid4) (funext fun uid => ?_)
  change ((ofExcept complete.toWireDict.canonicalJson >>= _) >>= _) = _
  refine (Prog.bindAssoc _ _ _).trans (congrArg (Prog.bind _) (funext fun _ => ?_))
  refine congrArg (Prog.op (E := effects) (Op.signAndEncrypt complete.toWireDict)) (funext fun sealed => ?_)
  cases sealed <;> rfl

section Step
variable {α : Type} {w : World} {tr : Trace} {orc : Oracle service} {rest : List (Oracle service)}

theorem soloDraw {memoryId : String} {k : Except Exc Int → Handler α} :
    solo (M := service) w ⟨.op (E := effects) (.serialSource memoryId) k,tr⟩ (orc :: rest) =
      solo w ⟨k (orc (.serialSource memoryId)),tr ++ [⟨.serialSource memoryId,orc (.serialSource memoryId),
        orc (.serialSource memoryId)⟩]⟩ rest := soloOp rfl rest

theorem soloUuid {k : String → Handler α} :
    solo (M := service) w ⟨.op (E := effects) .uuid4 k,tr⟩ (orc :: rest) =
      solo w ⟨k (uuidText (orc .uuid4)),tr ++ [⟨.uuid4,orc .uuid4,uuidText (orc .uuid4)⟩]⟩ rest := soloOp rfl rest

theorem soloSign {document : Json} {k : Except Exc String → Handler α} :
    solo (M := service) w ⟨.op (E := effects) (.signAndEncrypt document) k,tr⟩ (orc :: rest) =
      solo w ⟨k (orc (.signAndEncrypt document)),tr ++ [⟨.signAndEncrypt document,orc (.signAndEncrypt document),
        orc (.signAndEncrypt document)⟩]⟩ rest := soloOp rfl rest

end Step

section Sealing
variable {py : Interpreter} {memoryId : String} {complete : Invoice} {w : World} {tr : Trace}

theorem sealingReturns (writable : unwritable complete.toWireDict = none) (written : py.writes complete.toWireDict = true)
    {answers : List (Oracle service)} (helpful : ∀ orc ∈ answers, Helpful py orc) :
    (∀ e, (solo w ⟨sealing memoryId complete,tr⟩ answers).2.prog.outcome ≠ some (.error e)) ∧
      (2 ≤ answers.length → (solo w ⟨sealing memoryId complete,tr⟩ answers).2.prog.Returned) := by
  obtain ⟨signed,canonical⟩ := canonicalOk.mpr writable
  rw [sealingSteps]
  cases answers with
  | nil => exact ⟨fun e same => by simp [solo,Prog.outcome] at same,by simp⟩
  | cons first rest =>
    rw [soloUuid,ofOk canonical]
    cases rest with
    | nil => exact ⟨fun e same => by simp [solo,Prog.outcome] at same,by simp⟩
    | cons second rest =>
      obtain ⟨payload,given⟩ := (helpful second (by simp)).written _ written
      rw [soloSign,ofOk given,soloEnded (Prog.endedRet _)]
      exact ⟨fun e same => by simp [Prog.outcome] at same,fun _ => trivial⟩

theorem sealingFails (broken : unwritable complete.toWireDict ≠ none ∨ py.writes complete.toWireDict = false)
    {first second : Oracle service} (helpful : Helpful py second) :
    ∃ e, (solo w ⟨sealing memoryId complete,tr⟩ [first,second]).2.prog.outcome = some (.error e) := by
  rw [sealingSteps,soloUuid]
  cases canonical : complete.toWireDict.canonicalJson with
  | error e =>
    rw [ofError rfl,soloEnded (Prog.endedRaise _)]
    exact ⟨e,rfl⟩
  | ok signed =>
    have writable := canonicalOk.mp ⟨signed,canonical⟩
    obtain ⟨e,given⟩ := helpful.refused _ (broken.resolve_left (fun other => other writable))
    rw [ofOk rfl,soloSign,ofError given]
    exact ⟨e,rfl⟩

end Sealing

/-! The identity changes two texts of the header. -/

theorem identityFields (h : InvoiceHeader) : ∃ before after, ∀ taxid inno,
    InvoiceHeader.fields { h with taxid := taxid, inno := inno } =
      ("taxid",some (.str taxid)) :: (before ++ ("inno",inno.map .str) :: after) :=
  ⟨(h.fields.drop 1).take 5,h.fields.drop 7,fun _ _ => rfl⟩

theorem identityWritable (h : InvoiceHeader) (taxid inno : String) :
    unwritableMembers (InvoiceHeader.modelDump { h with taxid := taxid, inno := some inno }) =
      unwritableMembers h.modelDump ∧
    depthMembers (InvoiceHeader.modelDump { h with taxid := taxid, inno := some inno }) = depthMembers h.modelDump := by
  obtain ⟨before,after,fields⟩ := identityFields h
  have old : h.fields = _ := fields h.taxid h.inno
  have new : InvoiceHeader.fields { h with taxid := taxid, inno := some inno } =
    ("taxid",some (.str taxid)) :: (before ++ ("inno",some (.str inno)) :: after) := fields taxid (some inno)
  have writable : (h.inno.map Json.str).bind unwritable = none := by cases h.inno <;> rfl
  have flat : ((h.inno.map Json.str).map depth).getD 0 = 0 := by cases h.inno <;> rfl
  have text : ∀ s : String, (some (Json.str s)).bind unwritable = none := fun _ => rfl
  have leaf : ∀ s : String, ((some (Json.str s)).map depth).getD 0 = 0 := fun _ => rfl
  simp only [InvoiceHeader.modelDump,unwritablePresent,depthPresent,old,new,List.findSome?_cons,List.findSome?_append,
    List.map_cons,List.map_append,List.foldr_cons,List.foldr_append,text,leaf,writable,flat,and_self]

theorem completesWritable {memoryId : String} {invoice complete : Invoice} {serial : Option Int}
    (h : Completes memoryId invoice serial complete) :
    unwritable complete.toWireDict = unwritable (.obj invoice.modelDump) ∧
      depth complete.toWireDict = depth (.obj invoice.modelDump) := by
  have stripped := withoutBlanksSame (.obj complete.modelDump)
  rw [Invoice.toWireDict,stripped.1,stripped.2]
  cases h with
  | given => exact ⟨rfl,rfl⟩
  | @minted _ _ taxid inno =>
    obtain ⟨writable,flat⟩ := identityWritable invoice.header taxid inno
    simp only [unwritable,depth,Invoice.modelDump,Invoice.fields,unwritablePresent,depthPresent,List.findSome?_cons,
      List.map_cons,List.foldr_cons,Option.bind_some,Option.map_some,writable,flat,and_self]

section Texts
variable {py : Interpreter}

theorem wireTexts (invoice : Invoice) : texts (stripNulls invoice.toWireDict) =
    invoice.fields.flatMap (fun f => (f.2.map (fun v => memberTexts (f.1,v))).getD []) := by
  rw [Invoice.toWireDict,withoutBlanks,stripNulls,texts,textsMembersStripped,Invoice.modelDump,textsPresent]

theorem headerTexts (h : InvoiceHeader) : memberTexts ("header",.obj h.modelDump) =
    "header" :: h.fields.flatMap (fun f => (f.2.map (fun v => memberTexts (f.1,v))).getD []) := by
  rw [memberTexts,if_neg (by simp [blankString,isNull]),withoutBlanks,stripNulls,texts,textsMembersStripped,
    InvoiceHeader.modelDump,textsPresent]

-- What is minted has an encoding, so the others decide.
theorem completesTexts {memoryId : String} {invoice complete : Invoice} {serial : Int}
    (h : Completes memoryId invoice (some serial) complete) :
    (∀ text ∈ texts (stripNulls complete.toWireDict), py.encodes text = true) ↔
      ∀ text ∈ texts (stripNulls (unidentified invoice).toWireDict), py.encodes text = true := by
  cases h with
  | @minted _ issued taxid inno blank instant generated hex =>
    have ascii : ∀ text : String, (∀ c ∈ text.toList, c.toNat < 128) → py.encodes text = true :=
      fun text all => List.all_eq_true.mpr (fun c member => by rw [py.ascii c (all c member)]; rfl)
    have minted : ∀ key text : String, key.toList.all (fun c => c.toNat < 128) = true → (∀ c ∈ text.toList, c.toNat < 128) →
        ∀ t ∈ memberTexts (key,.str text), py.encodes t = true := by
      intro key text plain all t member
      rw [memberTexts] at member
      split at member
      · cases member
      · rcases List.mem_cons.mp member with rfl | member
        · exact ascii t (fun c inside => of_decide_eq_true (List.all_eq_true.mp plain c inside))
        · cases List.mem_singleton.mp (show t ∈ [text] from member)
          exact ascii text all
    have ids := minted "taxid" taxid (by decide) (TaxId.generatedAscii generated)
    have innos := minted "inno" inno (by decide) (TaxId.serialHexAscii hex)
    obtain ⟨before,after,fields⟩ := identityFields invoice.header
    have new := fields taxid (some inno)
    have old := fields "" none
    have none_ : memberTexts ("taxid",.str "") = [] := rfl
    simp only [wireTexts,Invoice.fields,unidentified,List.flatMap_cons,Option.map_some,Option.getD_some,headerTexts,new,old,
      List.flatMap_append,Option.map_none,Option.getD_none,none_,List.nil_append,List.cons_append,List.forall_mem_cons,
      List.forall_mem_append]
    exact ⟨fun all => by tauto,fun all => by tauto⟩

end Texts

def helper (py : Interpreter) : Oracle service
  | .serialSource _ => .ok 1
  | .signAndEncrypt document => if py.writes document then .ok "jwe" else .error (.valueError "unwritten")
  | o => Example.smooth 1 [] o

theorem helperHelps (py : Interpreter) : Helpful py (helper py) where
  serial := fun _ => ⟨1,by decide,by decide,rfl⟩
  written := fun document fine => ⟨"jwe",if_pos fine⟩
  refused := fun document bad => ⟨_,if_neg (by rw [bad]; decide)⟩

theorem writesIff {py : Interpreter} {memoryId : String} {invoice complete : Invoice} {serial : Int}
    (h : Completes memoryId invoice (some serial) complete) : py.writes complete.toWireDict = true ↔
      depth (.obj invoice.modelDump) ≤ py.limit ∧
        ∀ text ∈ texts (stripNulls (unidentified invoice).toWireDict), py.encodes text = true := by
  rw [Interpreter.writes,Bool.and_eq_true,decide_eq_true_eq,List.all_eq_true,(completesWritable h).2,completesTexts h]

def undated : Invoice := { Example.invoice with header := { Example.header with indatim := 10 ^ 18 } }

-- A thousand levels; U+FFFD stands for a lone surrogate.
def Example.python : Interpreter where
  limit := 1000
  lone := fun c => c == '\uFFFD'
  ascii := fun c small => by
    rw [beq_eq_false_iff_ne]
    rintro rfl
    exact absurd small (by decide)

end Moadian.Submission
