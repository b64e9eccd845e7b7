import Moadian.Filing.Overlap
import Moadian.Resumption.Solo

/-! One submission alone, and what is on record of it when it has ended, whatever
came of the exchange with the organization. -/
namespace Moadian
open Resumption Handler Trace

def Packet.taxId (packet : Packet) : Option String :=
  match (packet.document.get "header").bind (·.get "taxid") with
  | some (.str s) => some s
  | _ => none

namespace Filing

/-! A row that names the packet, in a state that no submission passes. -/
def Remembers (packet : Packet) (row : InvoiceColumns) : Prop :=
  row.state.editable = false ∧
    (row.uid = some packet.requestTraceId ∨ (packet.taxId.isSome = true ∧ row.taxId = packet.taxId))

def remembered (w : World) (packet : Packet) : Prop := ∃ r ∈ w.invoices.rows, Remembers packet r.2

instance (packet : Packet) (row : InvoiceColumns) : Decidable (Remembers packet row) := by
  unfold Remembers; infer_instance

instance (w : World) (packet : Packet) : Decidable (remembered w packet) := by
  unfold remembered; infer_instance

def submitting (engine : RuleEngine) (profile : Profile) (body : Invoice) (recordId : Option Int) (w : World)
    (orcs : List (Oracle service)) : World × Task service Exc Reply :=
  solo w (Task.start service (Api.submitInvoice engine profile body recordId)) orcs

def AllRemembered (w : World) (tr : Trace) : Prop :=
  ∀ p ∈ posts tr, p.2.accepted = true → ∀ packet ∈ p.1, remembered w packet

def heard (tr : Trace) : Bool := (posts tr).all (fun p => (parsed p.2.reply).isSome)

instance (w : World) (tr : Trace) : Decidable (AllRemembered w tr) := by
  unfold AllRemembered; infer_instance

/-! What the store is, after `tr` of a submission that began in `w`. -/
structure Along (w : World) (w' : World) (tr : Trace) : Prop where
  same : recorded tr = false → w'.invoices = w.invoices
  seen : ∀ id found, read id found ∈ touched tr → found = w.invoices.getInvoice id
  saved : ∀ before record after, tr = before ++ [wrote record after] → recorded before = false →
    after = (w.invoices.saveInvoice record).1 ∧ w'.invoices = (w.invoices.saveInvoice record).2

section Outcome
variable {engine : RuleEngine} {profile : Profile} {body : Invoice} {recordId : Option Int}

theorem notRecorded {tr : Trace} {taken : Option InvoiceRecord} (took : Took profile recordId (touched tr) taken) :
    recorded tr = false := by
  rw [← recordedTouched]
  cases recordId with
  | none => rw [took.1]; rfl
  | some id =>
    obtain ⟨row,seen,_⟩ := took
    rw [seen.1]
    rfl

theorem recordsOnce {tr : Trace} {o : Op} (may : FileMay engine profile body recordId tr o) :
    recorded tr = false := by
  cases may with
  | read first named => rw [first]; rfl
  | refuse why => obtain ⟨_,_,_,took,_⟩ := why; exact notRecorded took
  | file why => obtain ⟨_,_,took,_⟩ := why; exact notRecorded took
  | post once guard => exact notRecorded guard
  | quiet quiet guard => exact notRecorded guard

theorem alongStep {w w1 w2 : World} {tr : Trace} {o : Op} {inp : o.Input} {a : o.Ans} (along : Along w w1 tr)
    (may : FileMay engine profile body recordId tr o) (answered : respond o inp w1 = some (a,w2)) :
    Along w w2 (tr ++ [⟨o,inp,a⟩]) := by
  have before := recordsOnce may
  have still := along.same before
  refine ⟨fun none_ => ?_,fun id found member => ?_,fun tr' record after last _ => ?_⟩
  · rw [recordedSnoc,before] at none_
    exact (keepsInvoices none_ answered).trans still
  · rw [touchedSnoc] at member
    rcases List.mem_append.mp member with old | new
    · exact along.seen id found old
    · split at new <;> try contradiction
      have op : Op.getInvoice id = o := congrArg Event.op (List.mem_singleton.mp new)
      subst op
      have answer : found = a := by
        injection List.mem_singleton.mp new
      rw [answer,(readAnswered answered).1,still]
  · obtain ⟨_,same⟩ := List.append_inj' last rfl
    have event := List.head_eq_of_cons_eq same
    have op : o = .saveInvoice record := congrArg Event.op event
    subst op
    have answer : a = after := by
      injection event
    cases Option.some.inj answered
    rw [← answer,still]
    exact ⟨rfl,rfl⟩

theorem submittingRun (w : World) (orcs : List (Oracle service)) {out : Except Exc Reply}
    (ended : (submitting engine profile body recordId w orcs).2.prog.outcome = some out) :
    Along w (submitting engine profile body recordId w orcs).1
        (submitting engine profile body recordId w orcs).2.trace ∧
      FileEnds engine profile body recordId (submitting engine profile body recordId w orcs).2.trace out := by
  have alone : Alone (fun _ _ _ => True) (fun _ _ => True)
      (fun w' tr out => Along w w' tr ∧ FileEnds engine profile body recordId tr out) w []
      (Api.submitInvoice engine profile body recordId) :=
    aloneOfObeys (J := Along w) (fun w1 tr o inp a w2 along may answered _ => ⟨trivial,alongStep along may answered⟩)
      ⟨fun _ => rfl,by simp,by simp⟩ (submitInvoiceObeys engine profile body recordId)
  exact aloneEnds (aloneSolo (t := Task.start service _) alone (soloMeetsAlways (fun _ _ _ => trivial) _ _ orcs)) ended

/-! The row under which a successful submission left its packet. -/
structure FiledRow (profile : Profile) (body : Invoice) (w : World) (tr : Trace) (id : Int) (packet : Packet)
    (taxId : String) (row : InvoiceColumns) : Prop where
  built : Built profile.memoryId body packet taxId
  posted : ∃ delivery, posts tr = [([packet],delivery)] ∧ (parsed delivery.reply).isSome = true
  stored : w.invoices.get id = some row
  sent : row.state = .sent
  payload : row.payload = body.wireDict
  named : row.taxId = some taxId ∧ row.uid = some packet.requestTraceId

theorem takenStored {w : World} {tr : Trace} {taken : Option InvoiceRecord}
    (seen : ∀ id found, read id found ∈ touched tr → found = w.invoices.getInvoice id) (took : Took profile recordId (touched tr) taken) (s : InvoiceSubmission) (id : Int)
    (key : (Api.filed engine profile taken body s).id = some id) : ∃ row, w.invoices.get id = some row := by
  cases recordId with
  | none =>
    obtain ⟨_,rfl⟩ := took
    cases key
  | some r =>
    obtain ⟨row,looked,_,rfl⟩ := took
    have same : row.id = some id := key
    have found := seen r (some row) (by rw [looked.1]; exact List.mem_cons_self)
    obtain ⟨columns,stored,rfl⟩ := RecordStore.getCases found.symm
    cases Option.some.inj same
    exact ⟨columns,stored⟩

theorem filedRow {w : World} {orcs : List (Oracle service)} {reply : Reply}
    (done : (submitting engine profile body recordId w orcs).2.prog.outcome = some (.ok reply)) :
    ∃ id packet taxId row, FiledRow profile body (submitting engine profile body recordId w orcs).1
        (submitting engine profile body recordId w orcs).2.trace id packet taxId row ∧
      ∃ reference, reply = .submitted (some id) .sent taxId packet.requestTraceId reference := by
  obtain ⟨along,before,record,after,s,last,⟨sent,taken,took,rfl⟩,rfl⟩ := submittingRun w orcs done
  obtain ⟨packet,taxId,delivery,response,built,posted,answer,rfl⟩ := sent
  obtain ⟨saved,store⟩ := along.saved before _ after last (notRecorded took)
  have seen : ∀ id found, read id found ∈ touched before → found = w.invoices.getInvoice id := by
    intro id found member
    refine along.seen id found ?_
    rw [last,touchedSnoc]
    exact List.mem_append_left _ member
  obtain ⟨id,own,key,stored⟩ := RecordStore.saveStored (takenStored seen took
    (InvoicePipeline.submission response.result (packet.requestTraceId,taxId)))
  rw [← saved] at key
  rw [← store] at stored
  refine ⟨id,packet,taxId,_,⟨built,⟨delivery,?_,?_⟩,stored,rfl,rfl,rfl,rfl⟩,
    (InvoicePipeline.submission response.result (packet.requestTraceId,taxId)).referenceNumber,?_⟩
  · rw [last,postsSnoc,posted]
    rfl
  · rw [answer]
    rfl
  · rw [key]
    rfl

theorem filedRemembered {w : World} {tr : Trace} {id : Int} {packet : Packet} {taxId : String}
    {row : InvoiceColumns} (filed : FiledRow profile body w tr id packet taxId row) :
    heard tr = true ∧ AllRemembered w tr := by
  obtain ⟨delivery,posted,answer⟩ := filed.posted
  have there : remembered w packet :=
    ⟨(id,row),(w.invoices.memGet id row).mpr filed.stored,by rw [filed.sent]; rfl,.inl filed.named.2⟩
  refine ⟨by simp [heard,posted,answer],fun p member _ packet' member' => ?_⟩
  rw [posted] at member
  cases List.mem_singleton.mp member
  cases List.mem_singleton.mp member'
  exact there

theorem forgottenUnheard {w w' : World} {tr : Trace} {e : Exc} (along : Along w w' tr)
    (ends : FileEnds engine profile body recordId tr (.error e)) :
    posts tr = [] ∨ (heard tr = false ∧ w'.invoices = w.invoices) := by
  rcases ends with none_ | ⟨none_ | ⟨packet,delivery,posted,silent⟩,taken,took⟩
  · exact .inl none_
  · exact .inl none_
  · exact .inr ⟨by simp [heard,posted,silent],along.same (notRecorded took)⟩

theorem acceptedRemembered (engine : RuleEngine) (profile : Profile) (body : Invoice) (recordId : Option Int)
    (w : World) (orcs : List (Oracle service))
    (ended : (submitting engine profile body recordId w orcs).2.prog.Ended) :
    AllRemembered (submitting engine profile body recordId w orcs).1
        (submitting engine profile body recordId w orcs).2.trace ↔
      heard (submitting engine profile body recordId w orcs).2.trace = true ∨
        AllRemembered w (submitting engine profile body recordId w orcs).2.trace := by
  obtain ⟨out,done⟩ := Prog.outcomeOfEnded ended
  obtain ⟨along,ends⟩ := submittingRun w orcs done
  cases out with
  | ok reply =>
    obtain ⟨id,packet,taxId,row,filed,_⟩ := filedRow done
    obtain ⟨answered,all⟩ := filedRemembered filed
    exact ⟨fun _ => .inl answered,fun _ => all⟩
  | error e =>
    rcases forgottenUnheard along ends with none_ | ⟨silent,same⟩
    · simp [AllRemembered,heard,none_]
    · simp [AllRemembered,remembered,silent,same]

theorem acceptedRememberedOnce :
    AllRemembered (submitting Patterns.engine Example.profile Example.invoice (some 1) Example.drafted
        (List.replicate 13 (Example.smooth 1 []))).1
      (submitting Patterns.engine Example.profile Example.invoice (some 1) Example.drafted
        (List.replicate 13 (Example.smooth 1 []))).2.trace :=
  (acceptedRemembered Patterns.engine Example.profile Example.invoice (some 1) Example.drafted _
    (by decide +kernel)).mpr (.inl (by decide +kernel))

theorem acceptedForgotten :
    (submitting Patterns.engine Example.profile Example.invoice (some 1) Example.drafted
        (List.replicate 12 (Example.unheard 1))).2.prog.Ended ∧
      ¬ AllRemembered (submitting Patterns.engine Example.profile Example.invoice (some 1) Example.drafted
          (List.replicate 12 (Example.unheard 1))).1
        (submitting Patterns.engine Example.profile Example.invoice (some 1) Example.drafted
          (List.replicate 12 (Example.unheard 1))).2.trace := by decide +kernel

/-! The payload on record and the document that was signed. -/

def sentRow (w : World) (t : Task service Exc Reply) : Option InvoiceColumns :=
  match t.prog with
  | .ret (.submitted (some id) _ _ _ _) => (w.invoices.get id).filter (fun row => row.state = .sent)
  | _ => none

def signed (tr : Trace) : Option Json := ((posts tr).head?.bind (·.1.head?)).map (·.document)

def RecordIsSigned (w : World) (t : Task service Exc Reply) : Prop :=
  ∃ row, sentRow w t = some row ∧ signed t.trace = some row.payload.json

theorem mintedDiffers {memoryId : String} {complete : Invoice} (identified : Identified memoryId body complete) :
    complete.toWireDict = body.toWireDict ↔ body.header.taxid ≠ "" := by
  cases identified with
  | given own => exact ⟨fun _ => own,fun _ => rfl⟩
  | @minted serial issuedAt taxid inno blank instant generated hex =>
    refine ⟨fun same => ?_,fun own => absurd blank own⟩
    have header := congrArg (fun document => (document.get "header").bind (·.get "taxid")) same
    have there := (taxidOnWire _).symm.trans (header.trans (taxidOnWire body))
    rw [if_neg (by simp [TaxId.generatedNotBlank generated]),if_pos (by rw [blank]; rfl)] at there
    contradiction

theorem recordSigned (engine : RuleEngine) (profile : Profile) (body : Invoice) (recordId : Option Int)
    (w : World) (orcs : List (Oracle service))
    (success : (submitting engine profile body recordId w orcs).2.prog.Returned) :
    RecordIsSigned (submitting engine profile body recordId w orcs).1
        (submitting engine profile body recordId w orcs).2 ↔ body.header.taxid ≠ "" := by
  obtain ⟨reply,done⟩ := Prog.retOfReturned success
  have out : (submitting engine profile body recordId w orcs).2.prog.outcome = some (.ok reply) := by
    rw [done]; rfl
  obtain ⟨id,packet,taxId,row,filed,reference,rfl⟩ := filedRow out
  obtain ⟨delivery,posted,_⟩ := filed.posted
  obtain ⟨complete,identified,document,_⟩ := filed.built.sealed
  have kept : sentRow (submitting engine profile body recordId w orcs).1
      (submitting engine profile body recordId w orcs).2 = some row := by
    unfold sentRow
    rw [done]
    simp only [filed.stored,Option.filter_some,filed.sent,decide_true,if_true]
  have sent : signed (submitting engine profile body recordId w orcs).2.trace = some packet.document := by
    unfold signed
    rw [posted]
    rfl
  rw [← mintedDiffers identified,RecordIsSigned,kept,sent]
  constructor
  · rintro ⟨row',own,same⟩
    cases Option.some.inj own
    rw [document,filed.payload] at same
    exact Option.some.inj same
  · intro same
    refine ⟨row,rfl,?_⟩
    rw [document,filed.payload,same]
    rfl

/-! One draft, filed under the caller's tax id and under a minted one. -/
def filing (body : Invoice) : World × Task service Exc Reply :=
  submitting Patterns.engine Example.profile body (some 1) Example.drafted (List.replicate 13 (Example.smooth 1 []))

theorem recordSignedUnder :
    RecordIsSigned (filing (Example.under "A1121604C220002F095011")).1
      (filing (Example.under "A1121604C220002F095011")).2 :=
  (recordSigned Patterns.engine Example.profile _ (some 1) Example.drafted _ (by decide +kernel)).mpr (by decide)

theorem recordUnsigned :
    (filing Example.invoice).2.prog.Ended ∧ (sentRow (filing Example.invoice).1 (filing Example.invoice).2).isSome = true ∧
      ¬ RecordIsSigned (filing Example.invoice).1 (filing Example.invoice).2 := by
  have run : (filing Example.invoice).2.prog.Ended ∧
      (sentRow (filing Example.invoice).1 (filing Example.invoice).2).isSome = true ∧
      (((signed (filing Example.invoice).2.trace).bind (·.get "header")).bind (·.get "taxid")).isSome = true ∧
      ((((sentRow (filing Example.invoice).1 (filing Example.invoice).2).map (·.payload.json)).bind
        (·.get "header")).bind (·.get "taxid")).isSome = false := by decide +kernel
  obtain ⟨ended,stored,minted,blank⟩ := run
  refine ⟨ended,stored,?_⟩
  rintro ⟨row,kept,sent⟩
  have named : ((signed (filing Example.invoice).2.trace).bind (·.get "header")).bind (·.get "taxid") =
      (((sentRow (filing Example.invoice).1 (filing Example.invoice).2).map (·.payload.json)).bind
        (·.get "header")).bind (·.get "taxid") := by
    rw [kept,sent]
    rfl
  rw [named,blank] at minted
  contradiction

end Outcome
end Filing
end Moadian
