import Moadian.Contract.Pipeline
import Moadian.Resumption.Solo

/-! A submission of any number of invoices. What it spends is said of its traces
line by line: the serial drawn for an invoice, the document sealed for it, and the
requests the packets go out in. -/
namespace Moadian
open Resumption Handler

inductive Spend where
  | draw (serial : Except Exc Int)
  | seal (document : Json)
  | post (packets : List Packet) (delivery : Op.Delivery)

def Op.isDraw : Op → Bool
  | serialSource _ => true
  | _ => false

namespace Trace

def spendOf : Event service → Option Spend
  | ⟨.serialSource _,_,drawn⟩ => some (.draw drawn)
  | ⟨.signAndEncrypt document,_,_⟩ => some (.seal document)
  | ⟨.postInvoice packets,delivery,_⟩ => some (.post packets delivery)
  | _ => none

def spends (tr : Trace) : List Spend := tr.filterMap spendOf

def failureOf : Event service → Option Exc
  | ⟨.fromProfile _,_,.error e⟩ => some e
  | ⟨.signToken _,_,.error e⟩ => some e
  | ⟨.jweEncryptor _,_,.error e⟩ => some e
  | ⟨.serialSource _,_,.error e⟩ => some e
  | ⟨.signAndEncrypt _,_,.error e⟩ => some e
  | _ => none

end Trace

def Exc.refusal : Exc → Bool
  | invoiceValidation _ => true
  | _ => false

-- Only the rule engine refuses an invoice: no counter, key or encryptor raises its exception.
def Ordinary (tr : Trace) : Prop := ∀ e ∈ tr, ∀ failure ∈ Trace.failureOf e, failure.refusal = false

instance (tr : Trace) : Decidable (Ordinary tr) :=
  inferInstanceAs (Decidable (∀ e ∈ tr, ∀ failure ∈ Trace.failureOf e, failure.refusal = false))

theorem spendsSnoc (tr : Trace) (e : Event service) :
    Trace.spends (tr ++ [e]) = Trace.spends tr ++ (Trace.spendOf e).toList := by
  simp only [Trace.spends,List.filterMap_append,List.append_cancel_left_eq]
  cases h : Trace.spendOf e <;> simp [h]

/- A program that spends what `P` says when it returns, and when it ends with a
refusal that is the engine's own. -/
def Pays {α : Type} (P : List Spend → Except Exc α → Prop) (p : Handler α) : Prop :=
  ∀ tr, Obeys (M := service) (fun _ _ => True) (fun tr' out => ∃ s, Trace.spends tr' = Trace.spends tr ++ s ∧
    ((∀ e, out = .error e → e.refusal = true ∧ Ordinary tr') → P s out)) tr p

section Pays
variable {α β γ : Type}

theorem paysRet {P : List Spend → Except Exc α → Prop} {a : α} (h : P [] (.ok a)) : Pays P (pure a) :=
  fun _ => ⟨[],by simp,fun _ => h⟩

theorem paysRaise {P : List Spend → Except Exc α → Prop} {e : Exc} (h : e.refusal = true → P [] (.error e)) :
    Pays P (raise e) :=
  fun _ => ⟨[],by simp,fun own => h (own e rfl).1⟩

theorem paysBind {P : List Spend → Except Exc α → Prop} {Q : List Spend → Except Exc β → Prop} {p : Handler α}
    {f : α → Handler β} (first : Pays P p) (ok : ∀ s a, P s (.ok a) → Pays (fun s' out => Q (s ++ s') out) (f a))
    (error : ∀ s e, P s (.error e) → Q s (.error e)) : Pays Q (p >>= f) := by
  intro tr
  refine obeysBind (first tr) (fun tr' a held => ?_) (fun tr' e held => ?_)
  · obtain ⟨s,paid,held⟩ := held
    refine obeysMono (fun tr'' out later => ?_) (ok s a (held (by simp)) tr')
    obtain ⟨s',paid',held'⟩ := later
    exact ⟨s ++ s',by rw [paid',paid,List.append_assoc],held'⟩
  · obtain ⟨s,paid,held⟩ := held
    refine ⟨s,paid,fun own => error s e (held (fun e' same => ?_))⟩
    cases Except.error.inj same
    exact own e rfl

theorem paysPerform {o : Op} {P : List Spend → Except Exc o.Ans → Prop}
    (h : ∀ inp a, Possible service o inp a → P (Trace.spendOf ⟨o,inp,a⟩).toList (.ok a)) : Pays P (perform o) :=
  fun tr => ⟨trivial,fun inp a possible => ⟨_,spendsSnoc tr _,fun _ => h inp a possible⟩⟩

theorem paysOfExcept {P : List Spend → Except Exc β → Prop} (x : Except Exc α) {f : α → Handler β}
    (foreign : ∀ e, x = .error e → e.refusal = false) (ok : ∀ a, x = .ok a → Pays P (f a)) :
    Pays P (ofExcept x >>= f) := by
  cases x with
  | ok a => exact ok a rfl
  | error e => exact paysRaise (fun refusal => by rw [foreign e rfl] at refusal; contradiction)

theorem paysAsk {o : Op} (outcome : o.Ans → Except Exc β) {P : List Spend → Except Exc β → Prop}
    (fails : ∀ inp a e, outcome a = .error e → Trace.failureOf ⟨o,inp,a⟩ = some e)
    (ok : ∀ inp a b, outcome a = .ok b → P (Trace.spendOf ⟨o,inp,a⟩).toList (.ok b)) :
    Pays P (perform o >>= fun a => ofExcept (outcome a)) := by
  refine fun tr => performThen trivial (fun inp a _ => ?_)
  cases gave : outcome a with
  | ok b => exact ⟨_,spendsSnoc tr _,fun _ => ok inp a b gave⟩
  | error e =>
    refine ⟨_,spendsSnoc tr _,fun own => ?_⟩
    obtain ⟨refusal,ordinary⟩ := own e rfl
    have foreign := ordinary _ (List.mem_append_right _ List.mem_cons_self) e (fails inp a e gave)
    rw [foreign] at refusal
    contradiction

theorem paysAskThen {o : Op} (outcome : o.Ans → Except Exc β) {f : β → Handler γ} {Q : List Spend → Except Exc γ → Prop}
    (fails : ∀ inp a e, outcome a = .error e → Trace.failureOf ⟨o,inp,a⟩ = some e)
    (next : ∀ inp a b, outcome a = .ok b → Pays (fun s out => Q ((Trace.spendOf ⟨o,inp,a⟩).toList ++ s) out) (f b)) :
    Pays Q (perform o >>= fun a => ofExcept (outcome a) >>= f) := by
  have asked : Pays (fun s out => ∃ inp a b, out = .ok b ∧ outcome a = .ok b ∧ s = (Trace.spendOf ⟨o,inp,a⟩).toList)
      (perform o >>= fun a => ofExcept (outcome a)) :=
    paysAsk outcome fails (fun inp a b gave => ⟨inp,a,b,rfl,gave,rfl⟩)
  have grouped : (perform o >>= fun a => ofExcept (outcome a) >>= f) =
      ((perform o >>= fun a => ofExcept (outcome a)) >>= f) := (Prog.bindAssoc _ _ _).symm
  rw [grouped]
  refine paysBind asked (fun s b held => ?_) (fun s e held => ?_)
  · obtain ⟨inp,a,b',same,gave,rfl⟩ := held
    cases Except.ok.inj same
    exact next inp a b gave
  · obtain ⟨_,_,_,same,_⟩ := held
    contradiction

end Pays

/-! Reaching the organization spends nothing and refuses nothing. -/

def Free {α : Type} (p : Handler α) : Prop := Pays (fun s out => s = [] ∧ ∃ a, out = .ok a) p

section Free
variable {α β : Type}

theorem freeThen {Q : List Spend → Except Exc β → Prop} {p : Handler α} {f : α → Handler β} (first : Free p)
    (next : ∀ a, Pays Q (f a)) : Pays Q (p >>= f) := by
  refine paysBind first (fun s a held => ?_) (fun s e held => ?_)
  · cases held.1
    exact next a
  · obtain ⟨_,_,same⟩ := held
    contradiction

theorem freePerform {o : Op} (free : ∀ inp a, Trace.spendOf ⟨o,inp,a⟩ = none) : Free (perform o) :=
  paysPerform (fun inp a _ => ⟨by rw [free]; rfl,a,rfl⟩)

theorem freeAsk {o : Op} (outcome : o.Ans → Except Exc β)
    (fails : ∀ inp a e, outcome a = .error e → Trace.failureOf ⟨o,inp,a⟩ = some e)
    (free : ∀ inp a, Trace.spendOf ⟨o,inp,a⟩ = none) : Free (perform o >>= fun a => ofExcept (outcome a)) :=
  paysAsk outcome fails (fun inp a b _ => ⟨by rw [free]; rfl,b,rfl⟩)

theorem freeRaise {e : Exc} (foreign : e.refusal = false) : Free (raise e : Handler α) :=
  paysRaise (fun refusal => by rw [foreign] at refusal; contradiction)

theorem apiFailureForeign (r : Response α) : (apiFailure r).refusal = false := by
  simp only [apiFailure]
  split
  · rfl
  · cases r.envelope <;> rfl

theorem freeExchange (method url : String) {send : Handler (HttpReply α)} (h : Free send) :
    Free (exchange method url send) := by
  refine freeThen h (fun reply => ?_)
  cases reply with
  | failed reason => exact freeRaise rfl
  | response r =>
    simp only [raiseForApiError]
    split
    · exact paysRet ⟨rfl,r,rfl⟩
    · exact freeRaise (apiFailureForeign r)

theorem freeDecode (model : String) (r : Response α) : Free (decodeModel model r) := by
  unfold decodeModel
  split
  · exact freeRaise rfl
  · exact freeRaise rfl
  · exact freeRaise rfl
  · rename_i value _
    exact paysRet ⟨rfl,value,rfl⟩

theorem freeBearerToken (client : MoadianClient) : Free (bearerToken client) := by
  have nonce : Free (fetchNonce client) :=
    freeThen (freeExchange _ _ (freePerform (o := .getNonce) (fun _ _ => rfl))) (fun r => freeDecode _ r)
  refine freeThen nonce (fun n => ?_)
  exact freeAsk (o := .signToken n.nonce) id (fun _ _ _ gave => by cases gave; rfl) (fun _ _ => rfl)

theorem freeServerKey (pipeline : InvoicePipeline) : Free pipeline.serverKey := by
  have asked : Free (request pipeline.client "GET" "server-information" (perform .getServerInformation)) :=
    freeThen (freeBearerToken _) (fun _ => freeExchange _ _ (freePerform (o := .getServerInformation) (fun _ _ => rfl)))
  have information : Free (getServerInformation pipeline.client) := freeThen asked (fun r => freeDecode _ r)
  refine freeThen information (fun i => ?_)
  split
  · exact freeRaise rfl
  · exact paysRet ⟨rfl,_,rfl⟩

end Free

/-! One invoice: the serial drawn for it, the document sealed, and its packet. -/

structure Line where
  invoice : Invoice
  serial : Option Int
  complete : Invoice
  packet : Packet

inductive Completes (memoryId : String) (invoice : Invoice) : Option Int → Invoice → Prop where
  | given (own : invoice.header.taxid ≠ "") : Completes memoryId invoice none invoice
  | minted {serial issuedAt : Int} {taxid inno : String} (blank : invoice.header.taxid = "")
      (instant : TaxId.issuedAt invoice.header.indatim = .ok issuedAt)
      (generated : TaxId.generateTaxId memoryId serial issuedAt = .ok taxid)
      (hex : TaxId.invoiceSerialHex serial = .ok inno) : Completes memoryId invoice (some serial)
        { invoice with header := { invoice.header with taxid := taxid, inno := some inno } }

namespace Line

def identity (l : Line) : String × String := (l.packet.requestTraceId,l.complete.header.taxid)

def draw (serial : Option Int) : List Spend := (serial.map (fun n => Spend.draw (.ok n))).toList

def spends (l : Line) : List Spend := draw l.serial ++ [.seal l.complete.toWireDict]

structure Sound (memoryId : String) (l : Line) : Prop where
  completes : Completes memoryId l.invoice l.serial l.complete
  document : l.packet.document = l.complete.toWireDict
  canonical : l.complete.toWireDict.canonicalJson = .ok l.complete.toWireDict.stripNulls

end Line

namespace TaxId

theorem errorBind {α β : Type} {x : Except Exc α} {f : α → Except Exc β} {e : Exc} (h : (x >>= f) = .error e) :
    x = .error e ∨ ∃ a, x = .ok a ∧ f a = .error e := by
  cases x with
  | error e' => cases h; exact .inl rfl
  | ok a => exact .inr ⟨a,rfl,h⟩

theorem issuedForeign {indatim : Int} {e : Exc} (h : issuedAt indatim = .error e) : e.refusal = false := by
  simp only [issuedAt] at h
  split_ifs at h <;> cases Except.error.inj h <;> rfl

theorem serialForeign {serial : Int} {e : Exc} (h : validateSerial serial = .error e) : e.refusal = false := by
  unfold validateSerial at h
  split at h
  · cases Except.error.inj h; rfl
  · split at h
    · cases Except.error.inj h; rfl
    · cases h

theorem hexForeign {serial : Int} {e : Exc} (h : invoiceSerialHex serial = .error e) : e.refusal = false := by
  rcases errorBind h with broken | ⟨_,_,same⟩
  · exact serialForeign broken
  · cases same

theorem digitForeign {number : List Char} {e : Exc} (h : Verhoeff.checkDigit number = .error e) :
    e.refusal = false := by
  unfold Verhoeff.checkDigit Verhoeff.reversedDigits at h
  split at h
  · cases Except.error.inj h; rfl
  · split at h
    · cases Except.error.inj h; rfl
    · cases h

theorem generatedForeign {memoryId : String} {serial issued : Int} {e : Exc}
    (h : generateTaxId memoryId serial issued = .error e) : e.refusal = false := by
  unfold generateTaxId at h
  rcases errorBind h with broken | ⟨memory,_,h⟩
  · unfold validateMemoryId at broken
    split at broken
    · cases broken
    · cases Except.error.inj broken; rfl
  rcases errorBind h with broken | ⟨n,_,h⟩
  · exact serialForeign broken
  rcases errorBind h with broken | ⟨day,_,h⟩
  · unfold dayRange at broken
    split at broken
    · cases Except.error.inj broken; rfl
    · cases broken
  split at h
  · cases Except.error.inj h; rfl
  · rcases errorBind h with broken | ⟨_,_,same⟩
    · exact digitForeign broken
    · cases same

end TaxId

theorem paysWithIdentity (pipeline : InvoicePipeline) (invoice : Invoice) :
    Pays (fun s out => ∃ serial complete, out = .ok complete ∧ s = Line.draw serial ∧
      Completes pipeline.memoryId invoice serial complete) (pipeline.withIdentity invoice) := by
  unfold InvoicePipeline.withIdentity
  split
  · rename_i own
    exact paysRet ⟨none,invoice,rfl,rfl,.given own⟩
  · rename_i blank
    have blank : invoice.header.taxid = "" := by simpa using blank
    refine paysAskThen (o := .serialSource pipeline.memoryId) id (fun _ _ _ gave => by cases gave; rfl)
      (fun inp drawn serial gave => ?_)
    cases (show drawn = .ok serial from gave)
    refine paysOfExcept _ (fun e broken => TaxId.issuedForeign broken) (fun issuedAt instant => ?_)
    refine paysOfExcept _ (fun e broken => TaxId.generatedForeign broken) (fun taxid generated => ?_)
    refine paysOfExcept _ (fun e broken => TaxId.hexForeign broken) (fun inno hex => ?_)
    exact paysRet ⟨some serial,_,rfl,rfl,.minted blank instant generated hex⟩

theorem canonicalForeign {v : Json} {e : Exc} (h : v.canonicalJson = .error e) : e.refusal = false := by
  unfold Json.canonicalJson at h
  split at h
  · cases Except.error.inj h; rfl
  · cases h

theorem paysBuildPacket (document : Json) (fiscalId uid : String) :
    Pays (fun s out => ∃ packet, out = .ok packet ∧ s = [.seal document] ∧ packet.document = document ∧
      packet.requestTraceId = uid ∧ document.canonicalJson = .ok document.stripNulls)
      (buildPacket document fiscalId uid) := by
  refine paysOfExcept _ (fun e broken => canonicalForeign broken) (fun signed canonical => ?_)
  cases Json.canonicalStripped canonical
  refine paysAskThen (o := .signAndEncrypt document) id (fun _ _ _ gave => by cases gave; rfl)
    (fun _ _ payload _ => ?_)
  exact paysRet ⟨_,rfl,rfl,rfl,rfl,canonical⟩

/-! The packets of one request, and where the engine stops the building of them. -/

def accepts (pipeline : InvoicePipeline) (invoice : Invoice) : Prop := (pipeline.rules.validate invoice).ok = true

instance (pipeline : InvoicePipeline) (invoice : Invoice) : Decidable (accepts pipeline invoice) :=
  inferInstanceAs (Decidable (_ = _))

structure BuiltLines (pipeline : InvoicePipeline) (invoices : List Invoice) (s : List Spend) (lines : List Line) : Prop where
  own : lines.map Line.invoice = invoices
  spent : s = lines.flatMap Line.spends
  sound : ∀ l ∈ lines, l.Sound pipeline.memoryId
  passed : pipeline.validate = true → ∀ i ∈ invoices, accepts pipeline i

structure StoppedAt (pipeline : InvoicePipeline) (invoices : List Invoice) (s : List Spend) (before : List Invoice) : Prop where
  built : ∃ lines, BuiltLines pipeline before s lines
  validated : pipeline.validate = true
  refused : ∃ bad after, invoices = before ++ bad :: after ∧ ¬ accepts pipeline bad

def BuildEnds (pipeline : InvoicePipeline) (invoices : List Invoice) (s : List Spend) :
    Except Exc (List Packet × List (String × String)) → Prop
  | .ok built => ∃ lines, BuiltLines pipeline invoices s lines ∧ built = (lines.map Line.packet,lines.map Line.identity)
  | .error _ => ∃ before, StoppedAt pipeline invoices s before

theorem builtNil (pipeline : InvoicePipeline) : BuiltLines pipeline [] [] [] :=
  ⟨rfl,rfl,fun _ member => by simp at member,fun _ _ member => by simp at member⟩

theorem BuiltLines.cons {pipeline : InvoicePipeline} {invoices : List Invoice} {s : List Spend} {lines : List Line}
    (later : BuiltLines pipeline invoices s lines) {l : Line} (sound : l.Sound pipeline.memoryId)
    (passed : pipeline.validate = true → accepts pipeline l.invoice) :
    BuiltLines pipeline (l.invoice :: invoices) (l.spends ++ s) (l :: lines) where
  own := by rw [List.map_cons,later.own]
  spent := by rw [List.flatMap_cons,later.spent]
  sound := by
    intro l' member
    rcases List.mem_cons.mp member with rfl | inside
    · exact sound
    · exact later.sound l' inside
  passed := by
    intro validated i member
    rcases List.mem_cons.mp member with rfl | inside
    · exact passed validated
    · exact later.passed validated i inside

theorem paysBuildPackets (pipeline : InvoicePipeline) (invoices : List Invoice) :
    Pays (BuildEnds pipeline invoices) (pipeline.buildPackets invoices) := by
  induction invoices with
  | nil => exact paysRet ⟨[],builtNil pipeline,rfl⟩
  | cons invoice rest ih =>
    have building : (pipeline.validate = true → accepts pipeline invoice) →
        Pays (BuildEnds pipeline (invoice :: rest)) (do
          let complete ← pipeline.withIdentity invoice
          let uid : String ← perform .uuid4
          let packet ← buildPacket complete.toWireDict pipeline.memoryId uid
          let later ← pipeline.buildPackets rest
          pure (packet :: later.1,(uid,complete.header.taxid) :: later.2)) := by
      intro passed
      refine paysBind (paysWithIdentity pipeline invoice) (fun s complete held => ?_) (fun s e held => by
        obtain ⟨_,_,same,_⟩ := held; contradiction)
      obtain ⟨serial,_,same,rfl,completes⟩ := held
      cases Except.ok.inj same
      refine freeThen (freePerform (o := .uuid4) (fun _ _ => rfl)) (fun uid => ?_)
      refine paysBind (paysBuildPacket _ _ uid) (fun s packet held => ?_) (fun s e held => by
        obtain ⟨_,same,_⟩ := held; contradiction)
      obtain ⟨_,same,rfl,document,named,canonical⟩ := held
      cases Except.ok.inj same
      have line : Line.Sound pipeline.memoryId ⟨invoice,serial,complete,packet⟩ := ⟨completes,document,canonical⟩
      refine paysBind ih (fun s later held => ?_) (fun s e held => ?_)
      · obtain ⟨lines,built,rfl⟩ := held
        refine paysRet ⟨⟨invoice,serial,complete,packet⟩ :: lines,?_,?_⟩
        · simpa [Line.spends] using built.cons line passed
        · simp [Line.identity,named]
      · obtain ⟨before,⟨lines,built⟩,validated,bad,after,rfl,refused⟩ := held
        refine ⟨invoice :: before,⟨⟨invoice,serial,complete,packet⟩ :: lines,?_⟩,validated,bad,after,rfl,refused⟩
        simpa [Line.spends] using built.cons line passed
    unfold InvoicePipeline.buildPackets
    split
    · rename_i validated
      unfold InvoicePipeline.raiseIfInvalid
      split
      · rename_i ok
        exact building (fun _ => ok)
      · rename_i refused
        exact paysRaise (fun _ => ⟨[],⟨[],builtNil pipeline⟩,validated,invoice,rest,rfl,refused⟩)
    · rename_i unvalidated
      exact building (fun validated => absurd validated unvalidated)

/-! One request, and all of them. -/

structure Sending where
  lines : List Line
  delivery : Op.Delivery
  response : BatchResponse

namespace Sending

def invoices (x : Sending) : List Invoice := x.lines.map Line.invoice

def spends (x : Sending) : List Spend := x.lines.flatMap Line.spends ++ [.post (x.lines.map Line.packet) x.delivery]

def submissions (x : Sending) : List InvoiceSubmission :=
  x.lines.map (fun l => InvoicePipeline.submission x.response.result l.identity)

structure Sound (pipeline : InvoicePipeline) (x : Sending) : Prop where
  built : BuiltLines pipeline x.invoices (x.lines.flatMap Line.spends) x.lines
  heard : Trace.parsed x.delivery.reply = some x.response
  small : x.lines.length ≤ maxPackets

end Sending

theorem paysExchangePost (method url : String) (packets : List Packet) :
    Pays (fun s out => ∃ delivery r, out = .ok r ∧ s = [.post packets delivery] ∧
      delivery.reply = .response r ∧ r.isSuccess = true) (exchange method url (perform (.postInvoice packets))) := by
  have sent : Pays (fun s out => ∃ delivery : Op.Delivery, out = .ok delivery.reply ∧ s = [.post packets delivery])
      (perform (.postInvoice packets)) := by
    refine paysPerform (fun delivery reply possible => ⟨delivery,?_,rfl⟩)
    obtain ⟨w,w',answered⟩ := possible
    cases Option.some.inj answered
    rfl
  refine paysBind sent (fun s reply held => ?_) (fun s e held => by obtain ⟨_,same,_⟩ := held; contradiction)
  obtain ⟨delivery,same,rfl⟩ := held
  cases Except.ok.inj same
  cases heard : delivery.reply with
  | failed reason => exact paysRaise (fun refusal => by simp [Exc.refusal] at refusal)
  | response r =>
    simp only [raiseForApiError]
    split
    · rename_i success
      exact paysRet ⟨delivery,r,rfl,by simp,heard,success⟩
    · exact paysRaise (fun refusal => by rw [apiFailureForeign] at refusal; contradiction)

theorem paysSubmitInvoices (client : MoadianClient) (packets : List Packet) :
    Pays (fun s out => ∃ delivery response, out = .ok response ∧ s = [.post packets delivery] ∧
      Trace.parsed delivery.reply = some response ∧ packets.length ≤ maxPackets) (submitInvoices client packets) := by
  unfold submitInvoices
  split
  · exact paysRaise (fun refusal => by simp [Exc.refusal] at refusal)
  · rename_i small
    have asked : Pays (fun s out => ∃ delivery r, out = .ok r ∧ s = [.post packets delivery] ∧
        delivery.reply = .response r ∧ r.isSuccess = true)
        (request client "POST" "invoice" (perform (.postInvoice packets))) :=
      freeThen (freeBearerToken client) (fun _ => paysExchangePost _ _ packets)
    refine paysBind asked (fun s r held => ?_) (fun s e held => by obtain ⟨_,_,same,_⟩ := held; contradiction)
    obtain ⟨delivery,_,same,rfl,heard,success⟩ := held
    cases Except.ok.inj same
    unfold decodeModel
    cases body : r.body with
    | parsed value =>
      refine paysRet ⟨delivery,value,rfl,by simp,?_,by omega⟩
      rw [heard]
      simp [Trace.parsed,success,body]
    | notJson reason => exact paysRaise (fun refusal => by simp [Exc.refusal,notJson] at refusal)
    | notArray => exact paysRaise (fun refusal => by simp [Exc.refusal,mismatch] at refusal)
    | mismatch reason => exact paysRaise (fun refusal => by simp [Exc.refusal,Moadian.mismatch] at refusal)

def BatchEnds (pipeline : InvoicePipeline) (invoices : List Invoice) (s : List Spend) :
    Except Exc (List InvoiceSubmission) → Prop
  | .ok submissions => ∃ x : Sending, x.Sound pipeline ∧ x.invoices = invoices ∧ s = x.spends ∧ submissions = x.submissions
  | .error _ => ∃ before, StoppedAt pipeline invoices s before

theorem paysSubmitBatch (pipeline : InvoicePipeline) (invoices : List Invoice) :
    Pays (BatchEnds pipeline invoices) (pipeline.submitBatch invoices) := by
  refine paysBind (paysBuildPackets pipeline invoices) (fun s built held => ?_) (fun s e held => held)
  obtain ⟨lines,lined,rfl⟩ := held
  refine paysBind (paysSubmitInvoices pipeline.client _) (fun s' response held => ?_)
    (fun s' e held => by obtain ⟨_,_,same,_⟩ := held; contradiction)
  obtain ⟨delivery,_,same,rfl,heard,small⟩ := held
  cases Except.ok.inj same
  refine paysRet ⟨⟨lines,delivery,response⟩,⟨?_,heard,by simpa using small⟩,lined.own,?_,?_⟩
  · have spent := lined.spent
    subst spent
    simpa [Sending.invoices,lined.own] using lined
  · simp [Sending.spends,lined.spent]
  · simp [Sending.submissions]

def SlicesEnd (pipeline : InvoicePipeline) (chunks : List (List Invoice)) (s : List Spend) :
    Except Exc (List InvoiceSubmission) → Prop
  | .ok submissions => ∃ xs : List Sending, (∀ x ∈ xs, x.Sound pipeline) ∧ xs.map Sending.invoices = chunks ∧
      s = xs.flatMap Sending.spends ∧ submissions = xs.flatMap Sending.submissions
  | .error _ => ∃ (xs : List Sending) (chunk : List Invoice) (later : List (List Invoice)) (s' : List Spend)
      (before : List Invoice), (∀ x ∈ xs, x.Sound pipeline) ∧ chunks = xs.map Sending.invoices ++ chunk :: later ∧
      s = xs.flatMap Sending.spends ++ s' ∧ StoppedAt pipeline chunk s' before

theorem paysSubmitSlices (pipeline : InvoicePipeline) (chunks : List (List Invoice)) :
    Pays (SlicesEnd pipeline chunks) (pipeline.submitSlices chunks) := by
  induction chunks with
  | nil => exact paysRet ⟨[],by simp,rfl,rfl,rfl⟩
  | cons chunk rest ih =>
    refine paysBind (paysSubmitBatch pipeline chunk) (fun s first held => ?_) (fun s e held => ?_)
    · obtain ⟨x,sound,rfl,rfl,rfl⟩ := held
      refine paysBind ih (fun s' later held => ?_) (fun s' e held => ?_)
      · obtain ⟨xs,sounds,rfl,rfl,rfl⟩ := held
        exact paysRet ⟨x :: xs,by simpa using ⟨sound,sounds⟩,rfl,by simp,by simp⟩
      · obtain ⟨xs,chunk,later,s'',before,sounds,rfl,rfl,stopped⟩ := held
        exact ⟨x :: xs,chunk,later,s'',before,by simpa using ⟨sound,sounds⟩,rfl,by simp,stopped⟩
    · obtain ⟨before,stopped⟩ := held
      exact ⟨[],chunk,rest,s,before,by simp,rfl,rfl,stopped⟩

theorem paysSubmit (pipeline : InvoicePipeline) (invoices : List Invoice) :
    Pays (SlicesEnd pipeline (slices maxPackets invoices)) (pipeline.submit invoices) := by
  unfold InvoicePipeline.submit
  split
  · rename_i empty
    have none_ : invoices = [] := by simpa using empty
    subst none_
    rw [slicesNil]
    exact paysRet ⟨[],by simp,rfl,rfl,rfl⟩
  · refine freeThen (freeServerKey pipeline) (fun key => ?_)
    refine paysAskThen (o := .jweEncryptor key) id (fun _ _ _ gave => by cases gave; rfl) (fun _ _ _ _ => ?_)
    exact paysSubmitSlices pipeline _

/-! One call of `submit`, which may stop after any of its steps. -/

def submitting (pipeline : InvoicePipeline) (invoices : List Invoice) (w : World) (answers : List (Oracle service)) :
    Task service Exc (List InvoiceSubmission) :=
  (solo w (Task.start service (pipeline.submit invoices)) answers).2

section Submitting
variable {pipeline : InvoicePipeline} {invoices : List Invoice} {w : World} {answers : List (Oracle service)}

theorem submittingEnds {out : Except Exc (List InvoiceSubmission)}
    (ended : (submitting pipeline invoices w answers).prog.outcome = some out) :
    ∃ s, Trace.spends (submitting pipeline invoices w answers).trace = s ∧
      ((∀ e, out = .error e → e.refusal = true ∧ Ordinary (submitting pipeline invoices w answers).trace) →
        SlicesEnd pipeline (slices maxPackets invoices) s out) := by
  have obeyed := soloObeys (w := w) (t := Task.start service (pipeline.submit invoices))
    (paysSubmit pipeline invoices []) answers
  obtain ⟨s,spent,held⟩ := obeysEnds obeyed ended
  exact ⟨s,spent.trans (List.nil_append s),held⟩

theorem submittingReturns {submissions : List InvoiceSubmission}
    (returned : (submitting pipeline invoices w answers).prog.outcome = some (.ok submissions)) :
    SlicesEnd pipeline (slices maxPackets invoices) (Trace.spends (submitting pipeline invoices w answers).trace)
      (.ok submissions) := by
  obtain ⟨s,rfl,held⟩ := submittingEnds returned
  exact held (fun e same => by cases same)

end Submitting
end Moadian
