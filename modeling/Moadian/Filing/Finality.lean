import Moadian.Filing.Lifecycle
import Moadian.Resumption.Pool

/-! Any number of inquiries, in every order of their steps, and the records one of
them has marked cancelled. -/
namespace Moadian.Filing
open Resumption Handler Trace

inductive Inquiry where
  | pending (profile : Profile) (limit : Int)
  | one (profile : Profile) (invoiceId : Int)

def Inquiry.handle : Inquiry → Handler Reply
  | pending profile limit => Api.inquirePending profile limit
  | one profile invoiceId => Api.inquireOne profile invoiceId

def inquiring (w : World) (inquiries : List Inquiry) : Pool service Exc Reply :=
  Pool.start w (inquiries.map Inquiry.handle)

def stateOf (w : World) (id : Int) : Option InvoiceState := (w.invoices.get id).map (·.state)

def recordSaved : Op → Option InvoiceRecord
  | .saveInvoice record => some record
  | _ => none

/-! An inquiry that writes to a cancelled record has read it as cancelled, and has
been given no verdict on it. -/
def UpToDate (w : World) (tr : Trace) (copy : InvoiceRecord) : Prop :=
  copy.id.bind (stateOf w) = some .cancelled → copy.state = .cancelled ∧
    ∀ result ∈ Api.byReference (answers tr) copy.referenceNumber, Api.verdict result.status = none

instance (w : World) (tr : Trace) (copy : InvoiceRecord) : Decidable (UpToDate w tr copy) := by
  unfold UpToDate; infer_instance

def Abreast (q : Pool service Exc Reply) (i : Nat) (_ : Oracle service) : Prop :=
  ∀ t ∈ q.tasks[i]?, ∀ record ∈ t.prog.next.bind recordSaved, ∀ copy ∈ copies t.trace,
    copy.id = record.id → UpToDate q.world t.trace copy

instance (q : Pool service Exc Reply) (i : Nat) (orc : Oracle service) : Decidable (Abreast q i orc) := by
  unfold Abreast; infer_instance

section Finality
variable {w w' : World} {id : Int}

def InquiringMay (_ : Nat) (tr : Trace) (o : Op) : Prop := ∃ profile, InquireMay profile tr o

def Inquiring (q : Pool service Exc Reply) : Prop := q.Obey (M := service) InquiringMay (fun _ _ _ => True)

theorem inquiringObey (w : World) (inquiries : List Inquiry) : Inquiring (inquiring w inquiries) := by
  refine Pool.obeyStart (fun i p found => ?_)
  rw [List.getElem?_map] at found
  obtain ⟨inquiry,_,rfl⟩ := Option.map_eq_some_iff.mp found
  cases inquiry with
  | pending profile limit => exact obeysMay (fun _ _ may => ⟨profile,may⟩) (inquirePendingObeys profile limit)
  | one profile invoiceId => exact obeysMay (fun _ _ may => ⟨profile,may⟩) (inquireOneObeys profile invoiceId)

theorem stateOfSome {state : InvoiceState} (h : stateOf w id = some state) :
    ∃ row, w.invoices.get id = some row ∧ row.state = state := Option.map_eq_some_iff.mp h

theorem cancelledSave {record saved : InvoiceRecord} (stands : stateOf w id = some .cancelled)
    (own : record.id = some id → record.state = .cancelled)
    (answered : respond (.saveInvoice record) () w = some (saved,w')) : stateOf w' id = some .cancelled := by
  obtain ⟨row,stored,state⟩ := stateOfSome stands
  cases Option.some.inj answered
  unfold stateOf
  by_cases key : record.id = some id
  · rw [RecordStore.savedSame stored key]
    exact congrArg some (own key)
  · rw [RecordStore.savedOther stored key]
    exact congrArg some state

theorem cancelledStep {q : Pool service Exc Reply} {i : Nat} {orc : Oracle service} {t : Task service Exc Reply}
    {o : Op} {k : o.Ans → Handler Reply} {a : o.Ans} (stands : stateOf q.world id = some .cancelled)
    (abreast : Abreast q i orc) (found : q.tasks[i]? = some t) (at_ : t.prog = .op o k)
    (may : InquiringMay i t.trace o) (answered : respond o (orc o) q.world = some (a,w')) :
    stateOf w' id = some .cancelled := by
  obtain ⟨profile,may⟩ := may
  have still : o.writes = false → stateOf w' id = some .cancelled := fun still => by
    unfold stateOf at stands ⊢
    rw [keepsInvoices still answered]
    exact stands
  cases may with
  | read first => exact still rfl
  | list first => exact still rfl
  | ask unwritten => exact still rfl
  | quiet quiet => exact still (writesNone (quietParts quiet).1)
  | find member confirmed names => exact still rfl
  | @judge copy result block member handle answer =>
    refine cancelledSave stands (fun key => ?_) answered
    have here : copy.id.bind (stateOf q.world) = some .cancelled := by
      rw [show copy.id = some id from key]
      exact stands
    obtain ⟨read,none_⟩ := abreast t found (Api.judged copy result block) (by rw [at_]; rfl) copy member rfl here
    have state : (Api.judged copy result block).state = (Api.verdict result.status).getD copy.state := rfl
    rw [state,none_ result answer,read]
    rfl
  | void member names last other stands' => exact cancelledSave stands (fun _ => rfl) answered

theorem cancelledFinal (w : World) (inquiries : List Inquiry) (moves later : Schedule service)
    (met : Pool.Throughout Abreast (inquiring w inquiries) (moves ++ later)) (id : Int)
    (cancelled : stateOf ((inquiring w inquiries).run moves).world id = some .cancelled) :
    stateOf ((inquiring w inquiries).run (moves ++ later)).world id = some .cancelled := by
  obtain ⟨before,after⟩ := Pool.throughoutAppend met
  have obeys : Inquiring ((inquiring w inquiries).run moves) :=
    Pool.runInvariant (fun q i orc t o k a w' obeys _ found at_ answered =>
      (Pool.obeyMove obeys found at_ answered).2) (inquiringObey w inquiries) before
  rw [Pool.runAppend]
  refine (Pool.runInvariant (I := fun q => Inquiring q ∧ stateOf q.world id = some .cancelled) ?_
    ⟨obeys,cancelled⟩ after).2
  rintro q i orc t o k a w' ⟨obeys,stands⟩ abreast found at_ answered
  obtain ⟨may,moved⟩ := Pool.obeyMove obeys found at_ answered
  exact ⟨moved,cancelledStep stands abreast found at_ may answered⟩

/-! An original and its ابطالی, filed one after the other, and an inquiry about each:
the second confirms the ابطالی, the first is then answered in two ways. -/
def original : String := "A1121604C220002F095011"

def filedPair : List (Request × List (Oracle service)) := [
  (.submit Example.profile (Example.under original) none,List.replicate 12 (Example.smooth 1 [])),
  (.submit Example.profile (Example.cancellationOf original "") none,List.replicate 12 (Example.smooth 2 []))]

def afterPair : World := serial nothing (session Patterns.engine filedPair)

def bothAsked : Pool service Exc Reply :=
  inquiring afterPair [.one Example.profile 2,.one Example.profile 1]

def voiding : Schedule service := List.replicate 10 (0,Example.smooth 3 [Example.ruling "ref-2" .success])

def ruled (status : RequestStatus) : Schedule service :=
  List.replicate 7 (1,Example.smooth 4 [Example.ruling "ref-1" status])

theorem cancelledFinalInProgress :
    stateOf (bothAsked.run (voiding ++ ruled .inProgress)).world 1 = some .cancelled :=
  cancelledFinal afterPair _ voiding (ruled .inProgress) (by decide +kernel) 1 (by decide +kernel)

theorem cancelledConfirmed : stateOf (bothAsked.run voiding).world 1 = some .cancelled ∧
    ¬ stateOf (bothAsked.run (voiding ++ ruled .success)).world 1 = some .cancelled := by decide +kernel

end Finality
end Moadian.Filing
