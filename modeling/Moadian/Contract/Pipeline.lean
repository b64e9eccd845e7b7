import Moadian.Contract.Trace

/-! What the client and the pipeline do, whatever the network answers. Up to its
one `POST` a submission is quiet; what it returns is matched by the uid it chose. -/
namespace Moadian
open Resumption Handler

def Op.connects : Op → Bool
  | getNonce | signToken _ | getServerInformation | jweEncryptor _ => true
  | _ => false

theorem connectsQuiet {o : Op} (h : o.connects = true) : o.quiet = true := by
  cases o <;> first | rfl | simp [Op.connects] at h

section Client
variable {α : Type} {allowed : Op → Bool}

theorem withinExchange (method url : String) {send : Handler (HttpReply α)}
    (h : Within allowed (fun _ => True) send) : Within allowed (fun _ => True) (exchange method url send) := by
  refine withinBind h (fun reply _ => ?_) (fun _ _ => trivial)
  cases reply with
  | failed reason => trivial
  | response r =>
    simp only [raiseForApiError]
    split <;> trivial

theorem withinDecode (model : String) (r : Response α) :
    Within allowed (fun _ => True) (decodeModel model r) := by
  unfold decodeModel
  split <;> trivial

theorem connectsBearerToken (client : MoadianClient) : Within Op.connects (fun _ => True) (bearerToken client) := by
  have nonce : Within Op.connects (fun _ => True) (fetchNonce client) :=
    withinBind (withinExchange _ _ (withinCall (o := .getNonce) rfl))
      (fun r _ => withinDecode _ r) (fun _ _ => trivial)
  refine withinBind nonce (fun n _ => ?_) (fun _ _ => trivial)
  exact withinBind (withinCall (o := .signToken n.nonce) rfl)
    (fun signed _ => withinOfExcept signed trivial) (fun _ _ => trivial)

theorem connectsServerKey (pipeline : InvoicePipeline) :
    Within Op.connects (fun _ => True) pipeline.serverKey := by
  have asked : Within Op.connects (fun _ => True)
      (request pipeline.client "GET" "server-information" (perform .getServerInformation)) :=
    withinBind (connectsBearerToken _)
      (fun _ _ => withinExchange _ _ (withinCall (o := .getServerInformation) rfl)) (fun _ _ => trivial)
  have information : Within Op.connects (fun _ => True) (getServerInformation pipeline.client) :=
    withinBind asked (fun r _ => withinDecode _ r) (fun _ _ => trivial)
  refine withinBind information (fun i _ => ?_) (fun _ _ => trivial)
  split <;> trivial

theorem quietBearerToken (client : MoadianClient) : Quietly (fun _ => True) (bearerToken client) :=
  withinMono (connectsBearerToken client) (fun _ h => connectsQuiet h) (fun _ h => h)

theorem quietServerKey (pipeline : InvoicePipeline) : Quietly (fun _ => True) pipeline.serverKey :=
  withinMono (connectsServerKey pipeline) (fun _ h => connectsQuiet h) (fun _ h => h)

end Client

/-! Building the packets of one request. -/

inductive Identified (memoryId : String) (invoice : Invoice) : Invoice → Prop where
  | given (own : invoice.header.taxid ≠ "") : Identified memoryId invoice invoice
  | minted {serial issuedAt : Int} {taxid inno : String} (blank : invoice.header.taxid = "")
      (instant : TaxId.issuedAt invoice.header.indatim = .ok issuedAt)
      (generated : TaxId.generateTaxId memoryId serial issuedAt = .ok taxid)
      (hex : TaxId.invoiceSerialHex serial = .ok inno) :
      Identified memoryId invoice
        { invoice with header := { invoice.header with taxid := taxid, inno := some inno } }

structure Built (memoryId : String) (invoice : Invoice) (packet : Packet) (taxId : String) : Prop where
  sealed : ∃ complete, Identified memoryId invoice complete ∧
    packet.document = complete.toWireDict ∧ taxId = complete.header.taxid
  uid : ∃ bits, packet.requestTraceId = uuidText bits

inductive BuiltAll (memoryId : String) : List Invoice → List Packet → List (String × String) → Prop where
  | nil : BuiltAll memoryId [] [] []
  | cons {invoice packet taxId invoices packets identities} (first : Built memoryId invoice packet taxId)
      (later : BuiltAll memoryId invoices packets identities) :
      BuiltAll memoryId (invoice :: invoices) (packet :: packets)
        ((packet.requestTraceId,taxId) :: identities)

theorem quietWithIdentity (pipeline : InvoicePipeline) (invoice : Invoice) :
    Quietly (fun out => ∀ complete, out = .ok complete → Identified pipeline.memoryId invoice complete)
      (pipeline.withIdentity invoice) := by
  unfold InvoicePipeline.withIdentity
  split
  · rename_i own
    intro complete same
    cases Except.ok.inj same
    exact .given own
  · rename_i blank
    have blank : invoice.header.taxid = "" := by simpa using blank
    refine quietlyBind (quietCall (o := .serialSource pipeline.memoryId) rfl) (fun drawn _ => ?_) (fun _ _ => by simp)
    refine quietlyBind (quietlyOfExcept (Q := fun _ => True) drawn trivial) (fun serial _ => ?_) (fun _ _ => by simp)
    refine quietlyBind (quietlyOfExcept (Q := fun out => TaxId.issuedAt invoice.header.indatim = out) _ rfl)
      (fun issuedAt instant => ?_) (fun _ _ => by simp)
    refine quietlyBind (quietlyOfExcept (Q := fun out => TaxId.generateTaxId pipeline.memoryId serial issuedAt = out)
      _ rfl) (fun taxid generated => ?_) (fun _ _ => by simp)
    refine quietlyBind (quietlyOfExcept (Q := fun out => TaxId.invoiceSerialHex serial = out) _ rfl)
      (fun inno hex => ?_) (fun _ _ => by simp)
    intro complete same
    cases Except.ok.inj same
    exact .minted blank instant generated hex

theorem quietBuildPacket (document : Json) (fiscalId uid : String) :
    Quietly (fun out => ∀ packet, out = .ok packet → packet.document = document ∧ packet.requestTraceId = uid)
      (buildPacket document fiscalId uid) := by
  refine quietlyBind (quietlyOfExcept (Q := fun _ => True) _ trivial) (fun _ _ => ?_) (fun _ _ => by simp)
  refine quietlyBind (quietCall (o := .signAndEncrypt document) rfl) (fun sealed _ => ?_) (fun _ _ => by simp)
  refine quietlyBind (quietlyOfExcept (Q := fun _ => True) sealed trivial) (fun payload _ => ?_) (fun _ _ => by simp)
  intro packet same
  cases Except.ok.inj same
  exact ⟨rfl,rfl⟩

theorem quietBuildPackets (pipeline : InvoicePipeline) (invoices : List Invoice) :
    Quietly (fun out => ∀ built, out = .ok built → BuiltAll pipeline.memoryId invoices built.1 built.2)
      (pipeline.buildPackets invoices) := by
  induction invoices with
  | nil =>
    intro built same
    cases Except.ok.inj same
    exact .nil
  | cons invoice rest ih =>
    have building : Quietly (fun out => ∀ built, out = .ok built →
        BuiltAll pipeline.memoryId (invoice :: rest) built.1 built.2) (do
          let complete ← pipeline.withIdentity invoice
          let uid : String ← perform .uuid4
          let packet ← buildPacket complete.toWireDict pipeline.memoryId uid
          let later ← pipeline.buildPackets rest
          pure (packet :: later.1,(uid,complete.header.taxid) :: later.2)) := by
      refine quietlyBind (quietWithIdentity pipeline invoice) (fun complete identified => ?_) (fun _ _ => by simp)
      refine quietlyBind (quietlyPerform (o := .uuid4) (Q := fun out => ∀ uid, out = .ok uid →
        ∃ bits, uid = uuidText bits) rfl ?_) (fun uid drawn => ?_) (fun _ _ => by simp)
      · intro inp a possible uid same
        obtain ⟨w,w',answered⟩ := possible
        cases Except.ok.inj same
        cases Option.some.inj answered
        exact ⟨inp,rfl⟩
      refine quietlyBind (quietBuildPacket _ _ uid) (fun packet sealed => ?_) (fun _ _ => by simp)
      refine quietlyBind ih (fun later built => ?_) (fun _ _ => by simp)
      intro all same
      cases Except.ok.inj same
      obtain ⟨document,named⟩ := sealed packet rfl
      have first : Built pipeline.memoryId invoice packet complete.header.taxid :=
        ⟨⟨complete,identified complete rfl,document,rfl⟩,named ▸ drawn uid rfl⟩
      rw [← named]
      exact .cons first (built later rfl)
    unfold InvoicePipeline.buildPackets
    split
    · unfold InvoicePipeline.raiseIfInvalid
      split
      · exact building
      · intro built same
        cases same
    · exact building

/-! One invoice submitted: the packet that was posted, and what came of it. -/

def Sent (memoryId : String) (body : Invoice) (tr : Trace) (s : InvoiceSubmission) : Prop :=
  ∃ packet taxId delivery response, Built memoryId body packet taxId ∧
    Trace.posts tr = [([packet],delivery)] ∧ Trace.parsed delivery.reply = some response ∧
    s = InvoicePipeline.submission response.result (packet.requestTraceId,taxId)

def Unanswered (tr : Trace) : Prop :=
  Trace.posts tr = [] ∨ ∃ packet delivery, Trace.posts tr = [([packet],delivery)] ∧
    Trace.parsed delivery.reply = none

def SubmitMay (touched : Trace) (tr : Trace) (o : Op) : Prop :=
  Trace.touched tr = touched ∧
    (o.quiet = true ∨ Trace.posts tr = [] ∧ ∃ packet, o = .postInvoice [packet])

def SubmitEnds (memoryId : String) (body : Invoice) (touched : Trace) (tr : Trace) :
    Except Exc (List InvoiceSubmission) → Prop
  | .ok submissions => Trace.touched tr = touched ∧ ∃ s, submissions = [s] ∧ Sent memoryId body tr s
  | .error _ => Trace.touched tr = touched ∧ Unanswered tr

theorem exchangePost {packet : Packet} {method url : String} {tr : Trace} (before : Trace.posts tr = []) :
    Obeys (M := service) (SubmitMay (Trace.touched tr)) (fun tr' out => Trace.touched tr' = Trace.touched tr ∧
      ∃ delivery, Trace.posts tr' = [([packet],delivery)] ∧ match out with
        | .ok r => delivery.reply = .response r ∧ r.isSuccess = true
        | .error _ => Trace.parsed delivery.reply = none)
      tr (exchange method url (perform (.postInvoice [packet]))) := by
  refine performThen ⟨rfl,.inr ⟨before,packet,rfl⟩⟩ (fun delivery reply possible => ?_)
  have same : reply = Op.Delivery.reply delivery := by
    obtain ⟨w,w',answered⟩ := possible
    cases Option.some.inj answered
    rfl
  subst same
  have touched : Trace.touched (tr ++ [⟨Op.postInvoice [packet],delivery,Op.Delivery.reply delivery⟩]) =
      Trace.touched tr := by simp [Trace.touchedSnoc,Op.isStore]
  have posts : Trace.posts (tr ++ [⟨Op.postInvoice [packet],delivery,Op.Delivery.reply delivery⟩]) =
      [([packet],delivery)] := by
    rw [Trace.postsSnoc,before]
    rfl
  cases heard : Op.Delivery.reply delivery with
  | failed reason => exact ⟨heard ▸ touched,delivery,heard ▸ posts,by rw [heard]; rfl⟩
  | response r =>
    simp only [raiseForApiError]
    split
    · rename_i success
      exact ⟨heard ▸ touched,delivery,heard ▸ posts,heard,success⟩
    · rename_i failure
      exact ⟨heard ▸ touched,delivery,heard ▸ posts,by rw [heard]; simp [Trace.parsed,failure]⟩

theorem submitInvoicesObeys (client : MoadianClient) (packet : Packet) {tr : Trace}
    (before : Trace.posts tr = []) :
    Obeys (M := service) (SubmitMay (Trace.touched tr)) (fun tr' out => Trace.touched tr' = Trace.touched tr ∧
      match out with
      | .ok response => ∃ delivery, Trace.posts tr' = [([packet],delivery)] ∧
          Trace.parsed delivery.reply = some response
      | .error _ => Unanswered tr')
      tr (submitInvoices client [packet]) := by
  have small : ¬ maxPackets < [packet].length := by simp [maxPackets]
  simp only [submitInvoices,if_neg small,request,Prog.bindAssoc]
  refine quietThen (s := tr) (quietBearerToken client) rfl (fun tr' o same quiet => ?_) (fun tr' _ same _ => ?_)
    (fun tr' _ same _ => ?_)
  · exact ⟨congrArg (·.1) same,.inl quiet⟩
  · have touched : Trace.touched tr' = Trace.touched tr := congrArg (·.1) same
    have posts : Trace.posts tr' = [] := (congrArg (·.2.1) same).trans before
    refine obeysBind (touched ▸ exchangePost posts) (fun tr'' r held => ?_) (fun tr'' e held => ?_)
    · obtain ⟨kept,delivery,posted,heard,success⟩ := held
      unfold decodeModel
      cases body : r.body with
      | parsed value => exact ⟨kept,delivery,posted,by rw [heard]; simp [Trace.parsed,success,body]⟩
      | notJson reason => exact ⟨kept,.inr ⟨packet,delivery,posted,by rw [heard]; simp [Trace.parsed,body]⟩⟩
      | notArray => exact ⟨kept,.inr ⟨packet,delivery,posted,by rw [heard]; simp [Trace.parsed,body]⟩⟩
      | mismatch reason => exact ⟨kept,.inr ⟨packet,delivery,posted,by rw [heard]; simp [Trace.parsed,body]⟩⟩
    · obtain ⟨kept,delivery,posted,unheard⟩ := held
      exact ⟨kept,.inr ⟨packet,delivery,posted,unheard⟩⟩
  · exact ⟨congrArg (·.1) same,.inl ((congrArg (·.2.1) same).trans before)⟩

theorem submitBatchObeys (pipeline : InvoicePipeline) (body : Invoice) {tr : Trace}
    (before : Trace.posts tr = []) :
    Obeys (M := service) (SubmitMay (Trace.touched tr)) (SubmitEnds pipeline.memoryId body (Trace.touched tr)) tr
      (pipeline.submitBatch [body]) := by
  refine quietThen (s := tr) (quietBuildPackets pipeline [body]) rfl (fun tr' o same quiet => ?_)
    (fun tr' built same held => ?_) (fun tr' _ same _ => ?_)
  · exact ⟨congrArg (·.1) same,.inl quiet⟩
  · obtain ⟨packets,identities⟩ := built
    have all := held _ rfl
    cases all with
    | cons first later =>
      cases later
      rename_i packet taxId
      have touched : Trace.touched tr' = Trace.touched tr := congrArg (·.1) same
      have posts : Trace.posts tr' = [] := (congrArg (·.2.1) same).trans before
      refine obeysBind (touched ▸ submitInvoicesObeys pipeline.client packet posts)
        (fun tr'' response held => ?_) (fun tr'' e held => held)
      obtain ⟨kept,delivery,posted,heard⟩ := held
      exact ⟨kept,_,rfl,packet,taxId,delivery,response,first,posted,heard,rfl⟩
  · exact ⟨congrArg (·.1) same,.inl ((congrArg (·.2.1) same).trans before)⟩

theorem submitObeys (pipeline : InvoicePipeline) (body : Invoice) {tr : Trace} (before : Trace.posts tr = []) :
    Obeys (M := service) (SubmitMay (Trace.touched tr)) (SubmitEnds pipeline.memoryId body (Trace.touched tr)) tr
      (pipeline.submit [body]) := by
  have allowed : ∀ tr' o, Trace.view tr' = Trace.view tr → Op.quiet o = true →
      SubmitMay (Trace.touched tr) tr' o := fun tr' o same quiet => ⟨congrArg (·.1) same,.inl quiet⟩
  have failed : ∀ tr' (e : Exc), Trace.view tr' = Trace.view tr →
      SubmitEnds pipeline.memoryId body (Trace.touched tr) tr' (.error e) :=
    fun tr' e same => ⟨congrArg (·.1) same,.inl ((congrArg (·.2.1) same).trans before)⟩
  have one : slices maxPackets [body] = [[body]] := by simp [slices,maxPackets]
  unfold InvoicePipeline.submit
  rw [if_neg (by simp),one]
  refine quietThen (s := tr) (quietServerKey pipeline) rfl allowed (fun tr' key same _ => ?_)
    (fun tr' e same _ => failed tr' e same)
  refine quietThen (s := tr) (quietCall (o := .jweEncryptor key) rfl) same
    (fun tr'' o kept => allowed tr'' o (kept.trans same)) (fun tr' ready same _ => ?_)
    (fun tr' e same _ => failed tr' e same)
  refine quietThen (s := tr) (quietlyOfExcept (Q := fun _ => True) ready trivial) same
    (fun tr'' o kept => allowed tr'' o (kept.trans same)) (fun tr' _ same _ => ?_)
    (fun tr' e same _ => failed tr' e same)
  have touched : Trace.touched tr' = Trace.touched tr := congrArg (·.1) same
  have posts : Trace.posts tr' = [] := (congrArg (·.2.1) same).trans before
  refine obeysBind (touched ▸ submitBatchObeys pipeline body posts) (fun tr'' submissions held => ?_)
    (fun tr'' e held => held)
  change SubmitEnds pipeline.memoryId body (Trace.touched tr) tr'' (.ok (submissions ++ []))
  rw [List.append_nil]
  exact held

end Moadian
