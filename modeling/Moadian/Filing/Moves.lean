import Moadian.Contract.Inquiry
import Moadian.Resumption.Solo

/-! What one step of a request, alone in the world, does to the store. -/
namespace Moadian.Filing
open Resumption Handler Trace

def SameFiling (a b : InvoiceColumns) : Prop :=
  a.profile = b.profile ∧ a.payload = b.payload ∧ a.taxId = b.taxId ∧ a.uid = b.uid ∧
    a.referenceNumber = b.referenceNumber

/-! `ok` is what is known of the reference numbers the organization gives. -/
inductive Moves (ok : Option String → Prop) (store : RecordStore) : RecordStore → Prop where
  | keep : Moves ok store store
  | draft {record : InvoiceRecord} (new : record.id = none) (open_ : record.state.editable = true)
      (bare : record.referenceNumber = none) : Moves ok store (store.saveInvoice record).2
  | redraft {record : InvoiceRecord} {id : Int} {row : InvoiceColumns} (key : record.id = some id)
      (there : store.get id = some row) (was : row.state.editable = true)
      (open_ : record.state.editable = true) (kept : record.referenceNumber = row.referenceNumber) :
      Moves ok store (store.saveInvoice record).2
  | file {record : InvoiceRecord}
      (own : ∀ id, record.id = some id → ∃ row, store.get id = some row ∧ row.state.editable = true)
      (sent : record.state = .sent) (named : truthy record.taxId = true ∧ truthy record.uid = true)
      (given : ok record.referenceNumber) : Moves ok store (store.saveInvoice record).2
  | judge {record : InvoiceRecord} {id : Int} {row : InvoiceColumns} (key : record.id = some id)
      (there : store.get id = some row) (same : SameFiling record.toInvoiceColumns row)
      (handle : truthy row.referenceNumber = true)
      (closed : row.state.editable = false → record.state.editable = false) :
      Moves ok store (store.saveInvoice record).2
  | void {record : InvoiceRecord} {id : Int} {row : InvoiceColumns} (key : record.id = some id)
      (there : store.get id = some row) (same : SameFiling record.toInvoiceColumns row)
      (cancelled : record.state = .cancelled) : Moves ok store (store.saveInvoice record).2
  | delete {id : Int} {row : InvoiceColumns} (there : store.get id = some row)
      (was : row.state.editable = true) : Moves ok store (store.deleteInvoice id).2

/-! What the organization answers to a packet it is posted. -/
def Answered (ok : Option String → Prop) (_ : World) (_ : Trace) (e : Event service) : Prop :=
  ∀ p ∈ postOf e, ∀ response ∈ parsed p.2.reply, ∀ packet ∈ p.1,
    ok ((InvoicePipeline.byUid response.result packet.requestTraceId).bind (·.referenceNumber))

instance (ok : Option String → Prop) [DecidablePred ok] (w : World) (tr : Trace) (e : Event service) :
    Decidable (Answered ok w tr e) := by
  unfold Answered; infer_instance

def Step (ok : Option String → Prop) (w w' : World) : Prop := Moves ok w.invoices w'.invoices

-- Until a request has written, what it has read is what the store holds.
def Current (w : World) (tr : Trace) : Prop :=
  recorded tr = false → ∀ id found, read id found ∈ touched tr → found = w.invoices.getInvoice id

theorem currentStep {w w' : World} {tr : Trace} {o : Op} {inp : o.Input} {a : o.Ans} (current : Current w tr)
    (answered : respond o inp w = some (a,w')) : Current w' (tr ++ [⟨o,inp,a⟩]) := by
  intro unwritten id found member
  rw [recordedSnoc,Bool.or_eq_false_iff] at unwritten
  have same := keepsInvoices unwritten.2 answered
  rw [touchedSnoc] at member
  rcases List.mem_append.mp member with old | new
  · rw [same]; exact current unwritten.1 id found old
  · split at new <;> try contradiction
    have event := List.mem_singleton.mp new
    have op : Op.getInvoice id = o := congrArg Event.op event
    subst op
    have answer : found = a := by injection event
    rw [answer,(readAnswered answered).1,same]

theorem currentRow {w : World} {tr : Trace} {profile : Profile} {id : Int} {row : InvoiceRecord}
    (current : Current w tr) (seen : ReadAs profile id (touched tr) row) :
    recorded tr = false ∧ ∃ columns, w.invoices.get id = some columns ∧ row = RecordStore.invoice (id,columns) := by
  have unwritten : recorded tr = false := by rw [← recordedTouched,seen.1]; rfl
  have found := current unwritten id (some row) (by rw [seen.1]; exact List.mem_cons_self)
  exact ⟨unwritten,RecordStore.getCases found.symm⟩

theorem stepKeep {ok : Option String → Prop} {o : Op} {inp : o.Input} {a : o.Ans} {w w' : World}
    (still : o.writes = false) (answered : respond o inp w = some (a,w')) : Step ok w w' := by
  unfold Step
  rw [keepsInvoices still answered]
  exact .keep

section Requests
variable {ok : Option String → Prop} {engine : RuleEngine} {profile : Profile} {body : Invoice}

def Acts (ok : Option String → Prop) (w : World) (p : Handler Reply) : Prop :=
  Alone (M := service) (Answered ok) (Step ok) (fun _ _ _ => True) w [] p

theorem actsOf {may : Trace → Op → Prop} {ends : Trace → Except Exc Reply → Prop} {J : World → Trace → Prop}
    {w : World} {p : Handler Reply} (contract : Obeys (M := service) may ends [] p) (init : J w [])
    (keep : ∀ w tr o inp a w', J w tr → may tr o → respond o inp w = some (a,w') →
      Answered ok w tr ⟨o,inp,a⟩ → Step ok w w' ∧ J w' (tr ++ [⟨o,inp,a⟩])) : Acts ok w p :=
  aloneMono (fun _ _ _ _ => trivial) (aloneOfObeys keep init contract)

theorem currentStart (w : World) : Current w [] := fun _ _ _ member => by simp at member

theorem draftEditable (report : VerificationResult) : (Api.draftState report).editable = true := by
  unfold Api.draftState
  split <;> rfl

theorem saveActs (w : World) : Acts ok w (Api.saveInvoice engine profile body) := by
  refine actsOf (J := fun _ _ => True) (saveObeys engine profile body) trivial ?_
  rintro w tr o inp a w' _ ⟨_,rfl⟩ answered _
  cases Option.some.inj answered
  exact ⟨.draft rfl (draftEditable _) rfl,trivial⟩

theorem updateActs (id : Int) (w : World) : Acts ok w (Api.updateInvoice engine profile id body) := by
  refine actsOf (updateObeys engine profile id body) (currentStart w) ?_
  rintro w tr o inp a w' current may answered _
  refine ⟨?_,currentStep current answered⟩
  rcases may with ⟨_,rfl⟩ | ⟨row,seen,draft,rfl⟩
  · exact stepKeep rfl answered
  · have own : ReadAs profile id (touched tr) row := by rw [seen.1]; exact ⟨rfl,seen.2⟩
    obtain ⟨_,columns,stored,rfl⟩ := currentRow current own
    cases Option.some.inj answered
    exact .redraft rfl stored draft (draftEditable _) rfl

theorem deleteActs (id : Int) (w : World) : Acts ok w (Api.deleteInvoice profile id) := by
  refine actsOf (deleteObeys profile id) (currentStart w) ?_
  rintro w tr o inp a w' current may answered _
  refine ⟨?_,currentStep current answered⟩
  rcases may with ⟨_,rfl⟩ | ⟨row,seen,draft,rfl⟩
  · exact stepKeep rfl answered
  · have own : ReadAs profile id (touched tr) row := by rw [seen.1]; exact ⟨rfl,seen.2⟩
    obtain ⟨_,columns,stored,rfl⟩ := currentRow current own
    cases Option.some.inj answered
    exact .delete stored draft

/-! A submission. -/

def Told (ok : Option String → Prop) (tr : Trace) : Prop :=
  ∀ p ∈ posts tr, ∀ response, parsed p.2.reply = some response → ∀ packet ∈ p.1,
    ok ((InvoicePipeline.byUid response.result packet.requestTraceId).bind (·.referenceNumber))

theorem toldStep {w : World} {tr : Trace} {e : Event service} (told : Told ok tr) (answered : Answered ok w tr e) :
    Told ok (tr ++ [e]) := by
  intro p member
  rw [postsSnoc] at member
  rcases List.mem_append.mp member with old | new
  · exact told p old
  · exact answered p (Option.mem_toList.mp new)

theorem identifiedNamed {memoryId : String} {complete : Invoice} (h : Identified memoryId body complete) :
    complete.header.taxid ≠ "" := by
  cases h with
  | given own => exact own
  | minted blank instant generated hex =>
    intro same
    have ink := TaxId.generatedNotBlank generated
    simp only at same
    rw [same] at ink
    contradiction

theorem uuidNamed (bits : BitVec 128) : uuidText bits ≠ "" := by
  intro same
  have empty := congrArg String.toList same
  simp [uuidText] at empty

theorem submitActs (recordId : Option Int) (w : World) :
    Acts ok w (Api.submitInvoice engine profile body recordId) := by
  refine actsOf (J := fun w tr => Current w tr ∧ Told ok tr) (submitInvoiceObeys engine profile body recordId)
    ⟨currentStart w,by simp [Told]⟩ ?_
  rintro w tr o inp a w' ⟨current,told⟩ may answered reply
  refine ⟨?_,currentStep current answered,toldStep told reply⟩
  cases may with
  | read first named => exact stepKeep rfl answered
  | refuse why =>
    obtain ⟨_,_,taken,took,rfl⟩ := why
    cases Option.some.inj answered
    cases recordId with
    | none =>
      obtain ⟨_,rfl⟩ := took
      exact .draft rfl rfl rfl
    | some id =>
      obtain ⟨row,seen,draft,rfl⟩ := took
      obtain ⟨_,columns,stored,rfl⟩ := currentRow current seen
      exact .redraft rfl stored draft rfl rfl
  | file why =>
    obtain ⟨⟨packet,taxId,delivery,response,built,posted,heard,rfl⟩,taken,took,rfl⟩ := why
    cases Option.some.inj answered
    obtain ⟨complete,identified,_,rfl⟩ := built.sealed
    obtain ⟨bits,uid⟩ := built.uid
    have given := told _ (by rw [posted]; exact List.mem_singleton_self _) response heard packet
      (List.mem_singleton_self _)
    have names : truthy (some complete.header.taxid) = true ∧ truthy (some packet.requestTraceId) = true :=
      ⟨(truthySome _).mpr (identifiedNamed identified),(truthySome _).mpr (uid ▸ uuidNamed bits)⟩
    refine .file (fun id key => ?_) rfl names given
    cases recordId with
    | none =>
      obtain ⟨_,rfl⟩ := took
      cases key
    | some r =>
      obtain ⟨row,seen,draft,rfl⟩ := took
      obtain ⟨_,columns,stored,rfl⟩ := currentRow current seen
      cases Option.some.inj key
      exact ⟨columns,stored,draft⟩
  | post once guard => exact stepKeep rfl answered
  | quiet quiet guard => exact stepKeep (writesNone (quietParts quiet).1) answered

end Requests

/-! An inquiry. What it read is still what the store holds of those records, but
for the state and the detail it has itself given them since. -/

def Decided (tr : Trace) (copy : InvoiceRecord) : Prop :=
  recorded tr = true ∧ ∃ result, Api.byReference (answers tr) copy.referenceNumber = some result ∧
    (Api.verdict result.status).isSome = true

structure StandsFor (w : World) (tr : Trace) (copy : InvoiceRecord) (id : Int) (row : InvoiceColumns) : Prop where
  key : copy.id = some id
  stored : w.invoices.get id = some row
  same : SameFiling copy.toInvoiceColumns row
  closed : copy.state.editable = false → row.state.editable = false
  open_ : copy.state.editable = true → row.state.editable = true ∨ Decided tr copy

structure Fresh (w : World) (tr : Trace) : Prop where
  known : ∀ copy ∈ copies tr, ∃ id row, StandsFor w tr copy id row
  single : ∀ copy ∈ copies tr, copy.state.editable = true → copies tr = [copy]
  found : ∀ before profile taxId target, touched tr = before ++ [looked profile taxId target] →
    target = w.invoices.findByTaxId profile taxId

section Inquiry
variable {profile : Profile} {w w' : World} {tr : Trace}

theorem sameRefl (row : InvoiceColumns) : SameFiling row row := ⟨rfl,rfl,rfl,rfl,rfl⟩

theorem freshStart (w : World) : Fresh w [] :=
  ⟨by simp [copies],by simp [copies],by simp⟩

theorem freshFrame {tr' : Trace} (fresh : Fresh w tr) (same : w'.invoices = w.invoices)
    (copied : copies tr' = copies tr) (decided : ∀ copy, Decided tr copy → Decided tr' copy)
    (last : ∀ before profile taxId target, touched tr' = before ++ [looked profile taxId target] →
      target = w.invoices.findByTaxId profile taxId) : Fresh w' tr' := by
  refine ⟨fun copy member => ?_,fun copy member => ?_,by rw [same]; exact last⟩
  · rw [copied] at member
    obtain ⟨id,row,stands⟩ := fresh.known copy member
    exact ⟨id,row,stands.key,by rw [same]; exact stands.stored,stands.same,stands.closed,
      fun open_ => (stands.open_ open_).imp_right (decided copy)⟩
  · rw [copied] at member ⊢
    exact fresh.single copy member

theorem decidedSnoc {copy : InvoiceRecord} {e : Event service} (silent : answerOf e = [])
    (decided : Decided tr copy) : Decided (tr ++ [e]) copy := by
  obtain ⟨begun,result,answer,verdict⟩ := decided
  refine ⟨by rw [recordedSnoc,begun]; rfl,result,?_,verdict⟩
  rw [answersSnoc,silent,List.append_nil]
  exact answer

theorem freshOther {e : Event service} (fresh : Fresh w tr) (same : w'.invoices = w.invoices)
    (other : Op.isStore e.op = false) (decided : ∀ copy, Decided tr copy → Decided (tr ++ [e]) copy) :
    Fresh w' (tr ++ [e]) := by
  have kept : touched (tr ++ [e]) = touched tr := by
    rw [touchedSnoc,if_neg (by simp [other]),List.append_nil]
  refine freshFrame fresh same (by unfold copies; rw [kept]) decided (fun before p t target last => ?_)
  rw [kept] at last
  exact fresh.found before p t target last

theorem freshRead {e : Event service} (store : Op.isStore e.op = true)
    (other : ∀ p t target, e ≠ looked p t target)
    (known : ∀ copy ∈ copiesOf e, ∃ id row, w.invoices.get id = some row ∧ copy = RecordStore.invoice (id,row))
    (single : ∀ copy ∈ copiesOf e, copy.state.editable = true → copiesOf e = [copy]) : Fresh w [e] := by
  have own : copies [e] = copiesOf e := copiesOne store
  refine ⟨fun copy member => ?_,fun copy member => ?_,fun before p t target last => ?_⟩
  · rw [own] at member
    obtain ⟨id,row,stored,rfl⟩ := known copy member
    exact ⟨id,row,rfl,stored,sameRefl row,fun shut => shut,fun open_ => .inl open_⟩
  · rw [own] at member ⊢
    exact single copy member
  · have one : touched [e] = [e] := by simp [touched,store]
    rw [one] at last
    have ends : [] ++ [e] = before ++ [looked p t target] := last
    obtain ⟨_,same⟩ := List.append_inj' ends rfl
    exact absurd (List.head_eq_of_cons_eq same) (other p t target)

theorem freshSave {record saved : InvoiceRecord} {id : Int} {row : InvoiceColumns} (fresh : Fresh w tr)
    (answered : respond (.saveInvoice record) () w = some (saved,w')) (key : record.id = some id)
    (there : w.invoices.get id = some row) (same : SameFiling record.toInvoiceColumns row)
    (mine : ∀ copy ∈ copies tr, copy.id = some id →
      (copy.state.editable = false → record.state.editable = false) ∧
      (copy.state.editable = true → record.state.editable = true ∨ Decided (tr ++ [wrote record saved]) copy)) :
    Fresh w' (tr ++ [wrote record saved]) := by
  have copied : copies (tr ++ [wrote record saved]) = copies tr := by
    rw [copiesSnoc]
    exact List.append_nil _
  have store : w'.invoices = (w.invoices.saveInvoice record).2 := by
    cases Option.some.inj answered
    rfl
  refine ⟨fun copy member => ?_,fun copy member => ?_,fun before p t target last => ?_⟩
  · rw [copied] at member
    obtain ⟨j,row',stands⟩ := fresh.known copy member
    by_cases here : j = id
    · subst here
      obtain ⟨closed,open_⟩ := mine copy member stands.key
      have both : row' = row := Option.some.inj (stands.stored.symm.trans there)
      subst both
      obtain ⟨profile,payload,taxId,uid,reference⟩ := stands.same
      obtain ⟨_,payload',taxId',uid',reference'⟩ := same
      exact ⟨j,{ RecordStore.columns record with profile := row'.profile },stands.key,
        by rw [store]; exact RecordStore.savedSame there key,⟨profile,payload.trans payload'.symm,taxId.trans taxId'.symm,uid.trans uid'.symm,
          reference.trans reference'.symm⟩,closed,open_⟩
    · have other : record.id ≠ some j := fun own => here (Option.some.inj (own.symm.trans key))
      exact ⟨j,row',stands.key,by rw [store]; exact RecordStore.savedOther stands.stored other,stands.same,
        stands.closed,fun open_ => (stands.open_ open_).imp_right (decidedSnoc rfl)⟩
  · rw [copied] at member ⊢
    exact fresh.single copy member
  · rw [touchedSnoc] at last
    obtain ⟨_,same⟩ := List.append_inj' last rfl
    have op := congrArg Event.op (List.head_eq_of_cons_eq same)
    contradiction

theorem verdictClosed {status : Option StatusField} {state : InvoiceState} (h : Api.verdict status = some state) :
    state.editable = false := by
  unfold Api.verdict at h
  split at h <;> try contradiction
  · cases Option.some.inj h; rfl
  · cases Option.some.inj h; rfl

theorem judgedState (copy : InvoiceRecord) (result : InquiryResult) (block : Json) :
    ((Api.judged copy result block).state.editable = false ∧ (Api.verdict result.status).isSome = true) ∨
      ((Api.judged copy result block).state = copy.state ∧ Api.verdict result.status = none) := by
  have state : (Api.judged copy result block).state = (Api.verdict result.status).getD copy.state := rfl
  cases verdict : Api.verdict result.status with
  | none => exact .inr ⟨by rw [state,verdict]; rfl,rfl⟩
  | some s => exact .inl ⟨by rw [state,verdict]; exact verdictClosed verdict,rfl⟩

theorem judgeStep {ok : Option String → Prop} {copy saved : InvoiceRecord} {result : InquiryResult} {block : Json}
    (fresh : Fresh w tr) (member : copy ∈ copies tr) (handle : truthy copy.referenceNumber = true)
    (answer : Api.byReference (answers tr) copy.referenceNumber = some result)
    (answered : respond (.saveInvoice (Api.judged copy result block)) () w = some (saved,w')) :
    Step ok w w' ∧ Fresh w' (tr ++ [wrote (Api.judged copy result block) saved]) := by
  obtain ⟨id,row,stands⟩ := fresh.known copy member
  have key : (Api.judged copy result block).id = some id := stands.key
  have same : SameFiling (Api.judged copy result block).toInvoiceColumns row := stands.same
  refine ⟨?_,freshSave fresh answered key stands.stored same (fun other there own => ⟨fun shut => ?_,fun open_ => ?_⟩)⟩
  · cases Option.some.inj answered
    refine .judge key stands.stored same (stands.same.2.2.2.2 ▸ handle) (fun shut => ?_)
    rcases judgedState copy result block with ⟨closed,_⟩ | ⟨stays,none_⟩
    · exact closed
    · rw [stays]
      cases open_ : copy.state.editable
      · rfl
      · rcases stands.open_ open_ with still | ⟨_,result',answer',verdict⟩
        · rw [shut] at still; contradiction
        · rw [answer] at answer'
          cases Option.some.inj answer'
          rw [none_] at verdict
          contradiction
  · rcases judgedState copy result block with ⟨closed,_⟩ | ⟨stays,_⟩
    · exact closed
    · rw [stays]
      cases open_ : copy.state.editable
      · rfl
      · rw [fresh.single copy member open_] at there
        cases List.mem_singleton.mp there
        rw [open_] at shut
        contradiction
  · rw [fresh.single other there open_] at member
    cases List.mem_singleton.mp member
    rcases judgedState copy result block with ⟨_,verdict⟩ | ⟨stays,_⟩
    · refine .inr ⟨by rw [recordedSnoc]; exact Bool.or_true _,result,?_,verdict⟩
      rw [answersSnoc]
      exact (congrArg (Api.byReference · copy.referenceNumber) (List.append_nil _)).trans answer
    · exact .inl (by rw [stays]; exact open_)

theorem voidStep {ok : Option String → Prop} {copy target saved K : InvoiceRecord} {taxId : String} {at_ : Moment}
    {before : Trace} (fresh : Fresh w tr) (member : copy ∈ copies tr)
    (last : touched tr = before ++ [looked profile.name taxId (some target)]) (other : target.id ≠ copy.id)
    (answered : respond (.saveInvoice (Api.voided target K at_)) () w = some (saved,w')) :
    Step ok w w' ∧ Fresh w' (tr ++ [wrote (Api.voided target K at_) saved]) := by
  obtain ⟨id,row,stored,rfl,_⟩ := RecordStore.findCases (fresh.found before _ _ _ last).symm
  refine ⟨?_,freshSave fresh answered rfl stored (sameRefl row) (fun c there own => ⟨fun _ => rfl,fun open_ => ?_⟩)⟩
  · cases Option.some.inj answered
    exact .void rfl stored (sameRefl row) rfl
  · rw [fresh.single c there open_] at member
    cases List.mem_singleton.mp member
    exact absurd own.symm other

theorem inquireStep {ok : Option String → Prop} {o : Op} {inp : o.Input} {a : o.Ans} (fresh : Fresh w tr)
    (may : InquireMay profile tr o) (answered : respond o inp w = some (a,w')) :
    Step ok w w' ∧ Fresh w' (tr ++ [⟨o,inp,a⟩]) := by
  cases may with
  | @read id first =>
    subst first
    refine ⟨stepKeep rfl answered,?_⟩
    obtain ⟨looked,rfl⟩ := readAnswered answered
    refine freshRead rfl (fun p t target same => ?_) (fun copy member => ?_) (fun copy member _ => ?_)
    · have op := congrArg Event.op same
      contradiction
    · obtain ⟨row,stored,rfl⟩ := RecordStore.getCases (looked.symm.trans (Option.mem_toList.mp member))
      exact ⟨id,row,stored,rfl⟩
    · have found : a = some copy := Option.mem_toList.mp member
      unfold copiesOf
      rw [found]
      rfl
  | @list limit first =>
    subst first
    have same : w'.invoices = w.invoices := keepsInvoices rfl answered
    have rows : copiesOf ⟨Op.listAwaitingInquiry profile.name limit,inp,a⟩ =
        w.invoices.listAwaitingInquiry profile.name limit :=
      (congrArg Prod.fst (Option.some.inj answered)).symm
    refine ⟨stepKeep rfl answered,freshRead rfl (fun p t target event => ?_) (fun copy member => ?_)
      (fun copy member open_ => ?_)⟩
    · have op := congrArg Event.op event
      contradiction
    · rw [rows] at member
      obtain ⟨id,row,stored,own,_⟩ := RecordStore.memAwaiting member
      exact ⟨id,row,by rw [same]; exact stored,own⟩
    · rw [rows] at member
      obtain ⟨id,row,_,rfl,holds⟩ := RecordStore.memAwaiting member
      have sent : row.state = .sent := by
        simp only [RecordStore.awaiting,Bool.and_eq_true,decide_eq_true_eq] at holds
        exact holds.1.2
      rw [show (RecordStore.invoice (id,row)).state = .sent from sent] at open_
      contradiction
  | ask unwritten =>
    refine ⟨stepKeep rfl answered,freshOther fresh (keepsInvoices rfl answered) rfl (fun copy decided => ?_)⟩
    obtain ⟨begun,_⟩ := decided
    rw [unwritten] at begun
    contradiction
  | quiet quiet =>
    obtain ⟨store,_,inquiry⟩ := quietParts quiet
    have still := writesNone store
    exact ⟨stepKeep still answered,freshOther fresh (keepsInvoices still answered) store
      (fun copy decided => decidedSnoc (answerNone inquiry inp a) decided)⟩
  | judge member handle answer => exact judgeStep fresh member handle answer answered
  | @find copy result block taxId member confirmed names =>
    have same : w'.invoices = w.invoices := keepsInvoices rfl answered
    have found : a = w.invoices.findByTaxId profile.name taxId := (congrArg Prod.fst (Option.some.inj answered)).symm
    refine ⟨stepKeep rfl answered,freshFrame fresh same ?_ (fun copy decided => decidedSnoc rfl decided) ?_⟩
    · rw [copiesSnoc]
      exact List.append_nil _
    · intro before p t target last
      rw [touchedSnoc] at last
      obtain ⟨_,event⟩ := List.append_inj' last rfl
      have event := List.head_eq_of_cons_eq event
      have op : Op.findByTaxId profile.name taxId = .findByTaxId p t := congrArg Event.op event
      injection op with named under
      subst named under
      have answer : a = target := by injection event
      rw [← answer,found]
  | void member names last other stands => exact voidStep fresh member last other answered

end Inquiry

theorem requestActs {ok : Option String → Prop} (engine : RuleEngine) (request : Request) (w : World) :
    Acts ok w (request.handle engine) := by
  have inquiry : ∀ {profile : Profile} {p : Handler Reply},
      Obeys (M := service) (InquireMay profile) (fun _ _ => True) [] p → Acts ok w p := fun contract =>
    actsOf contract (freshStart w) (fun _ _ _ _ _ _ fresh may answered _ => inquireStep fresh may answered)
  cases request with
  | save profile body => exact saveActs w
  | update profile invoiceId body => exact updateActs invoiceId w
  | delete profile invoiceId => exact deleteActs invoiceId w
  | submit profile body recordId => exact submitActs recordId w
  | inquirePending profile limit => exact inquiry (inquirePendingObeys profile limit)
  | inquireOne profile invoiceId => exact inquiry (inquireOneObeys profile invoiceId)
  | referring profile invoiceId subject =>
    refine actsOf (J := fun _ _ => True) (referringObeys profile invoiceId subject) trivial ?_
    exact fun _ _ _ _ _ _ _ still answered _ => ⟨stepKeep still.1 answered,trivial⟩

end Moadian.Filing
