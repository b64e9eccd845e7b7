import Moadian.Filing.Overlap

/-! One submission of a stored record among any number of edits and deletions of
it, in every order of their steps. -/
namespace Moadian.Filing
open Resumption Handler Trace

inductive Edit where
  | update (profile : Profile) (body : Invoice)
  | delete (profile : Profile)

def Edit.handle (engine : RuleEngine) (r : Int) : Edit → Handler Reply
  | update profile body => Api.updateInvoice engine profile r body
  | delete profile => Api.deleteInvoice profile r

def amongEdits (engine : RuleEngine) (r : Int) (profile : Profile) (body : Invoice) (edits : List Edit) :
    List (Handler Reply) :=
  Api.submitInvoice engine profile body (some r) :: edits.map (Edit.handle engine r)

structure Handles where
  taxId : Option String
  uid : Option String
  referenceNumber : Option String
  deriving DecidableEq

def handles (row : InvoiceColumns) : Handles := ⟨row.taxId,row.uid,row.referenceNumber⟩

def returned (t : Task service Exc Reply) : Option Handles :=
  match t.prog with
  | .ret (.submitted _ _ taxId uid referenceNumber) => some ⟨some taxId,some uid,referenceNumber⟩
  | _ => none

def onRecord (w : World) (r : Int) (filed : Handles) : Prop :=
  ∃ row ∈ w.invoices.get r, row.state = .sent ∧ handles row = filed

def FilingKept (r : Int) (q : Requests) : Prop :=
  q.Ended → ∀ t ∈ q.tasks[0]?, ∀ filed ∈ returned t, onRecord q.world r filed

instance (w : World) (r : Int) (filed : Handles) : Decidable (onRecord w r filed) := by
  unfold onRecord; infer_instance

instance (r : Int) (q : Requests) : Decidable (FilingKept r q) := by
  unfold FilingKept; infer_instance

def Op.files : Op → Bool
  | .saveInvoice record => record.state = .sent
  | _ => false

/-! The submission finds the record still stored when it writes what it filed, and
an edit or a deletion finds it gone or still a draft when it makes its write. -/
def Undisturbed (r : Int) (q : Requests) (i : Nat) (_ : Oracle service) : Prop :=
  ∀ t ∈ q.tasks[i]?, ∀ o ∈ t.prog.next,
    if i = 0 then Op.files o = true → (q.world.invoices.get r).isSome = true
    else Op.writes o = true → (q.world.invoices.get r).all (fun row => row.state.editable) = true

instance (r : Int) (q : Requests) (i : Nat) (orc : Oracle service) : Decidable (Undisturbed r q i orc) := by
  unfold Undisturbed; infer_instance

section Edited
variable {engine : RuleEngine} {r : Int} {profile : Profile} {body : Invoice}

def EditedMay (engine : RuleEngine) (r : Int) (profile : Profile) (body : Invoice) : Nat → Trace → Op → Prop
  | 0 => FileMay engine profile body (some r)
  | _ + 1 => fun _ _ => True

def EditedEnds (engine : RuleEngine) (r : Int) (profile : Profile) (body : Invoice) :
    Nat → Trace → Except Exc Reply → Prop
  | 0 => FileEnds engine profile body (some r)
  | _ + 1 => fun _ _ => True

def Editing (engine : RuleEngine) (r : Int) (profile : Profile) (body : Invoice) (q : Requests) : Prop :=
  q.Obey (M := service) (EditedMay engine r profile body) (EditedEnds engine r profile body)

theorem editsObey (w : World) (edits : List Edit) :
    Editing engine r profile body (Pool.start w (amongEdits engine r profile body edits)) := by
  refine Pool.obeyStart (fun i p found => ?_)
  cases i with
  | zero =>
    cases Option.some.inj found
    exact submitInvoiceObeys engine profile body (some r)
  | succ i => exact obeysAny _ _

-- What the submission has filed, the row holds.
def Held (r : Int) (q : Requests) : Prop :=
  ∀ t, q.tasks[0]? = some t → ∀ before record saved, t.trace = before ++ [wrote record saved] →
    record.state = .sent → onRecord q.world r (handles record.toInvoiceColumns)

theorem heldByFiling {w w' : World} {tr : Trace} {record saved : InvoiceRecord} {inp : Unit}
    (may : FileMay engine profile body (some r) tr (.saveInvoice record)) (sent : record.state = .sent)
    (stored : (w.invoices.get r).isSome = true)
    (answered : respond (.saveInvoice record) inp w = some (saved,w')) :
    onRecord w' r (handles record.toInvoiceColumns) := by
  obtain ⟨row,there⟩ := Option.isSome_iff_exists.mp stored
  have key : record.id = some r := by
    cases may with
    | refuse why =>
      obtain ⟨_,_,_,_,rfl⟩ := why
      cases sent
    | file why =>
      obtain ⟨_,_,⟨_,seen,_,rfl⟩,rfl⟩ := why
      exact seen.2.1
    | quiet quiet => cases quiet
  cases Option.some.inj answered
  refine ⟨{ RecordStore.columns record with profile := row.profile },?_,sent,rfl⟩
  rw [Option.mem_def,RecordStore.getSave,key]
  simp only [if_pos,there,Option.map_some]

theorem heldStep {q : Requests} {i : Nat} {orc : Oracle service} {t : Task service Exc Reply} {o : Op}
    {k : o.Ans → Handler Reply} {a : o.Ans} {w' : World} (held : Held r q)
    (calm : Undisturbed r q i orc) (found : q.tasks[i]? = some t) (at_ : t.prog = .op o k)
    (may : EditedMay engine r profile body i t.trace o)
    (answered : respond o (orc o) q.world = some (a,w')) :
    Held r ⟨w',q.tasks.set i ⟨k a,t.trace ++ [⟨o,orc o,a⟩]⟩⟩ := by
  have about := calm t found o (by rw [at_]; rfl)
  intro t' found' before record saved last sent
  obtain ⟨first,rfl⟩ | ⟨other,old⟩ := Pool.setCases found found'
  · subst first
    obtain ⟨_,same⟩ := List.append_inj' last rfl
    have op : o = .saveInvoice record := congrArg Event.op (List.head_eq_of_cons_eq same)
    subst op
    rw [if_pos rfl] at about
    exact heldByFiling may sent (about (by simp [Op.files,sent])) answered
  · have there := held t' old before record saved last sent
    rw [if_neg (fun same => other same.symm)] at about
    cases write : Op.writes o
    · have same := keepsInvoices write answered
      unfold onRecord at *
      rw [same]
      exact there
    · obtain ⟨row,stored,state,_⟩ := there
      have free := about write
      rw [Option.mem_def.mp stored] at free
      simp [state,InvoiceState.editable] at free

theorem filingKept (engine : RuleEngine) (r : Int) (profile : Profile) (body : Invoice) (edits : List Edit)
    (w : World) (moves : Schedule service)
    (met : Pool.Throughout (Undisturbed r) (Pool.start w (amongEdits engine r profile body edits)) moves) :
    FilingKept r ((Pool.start w (amongEdits engine r profile body edits)).run moves) := by
  have init : Editing engine r profile body (Pool.start w (amongEdits engine r profile body edits)) ∧
      Held r (Pool.start w (amongEdits engine r profile body edits)) := by
    refine ⟨editsObey w edits,fun t found before record saved last _ => ?_⟩
    cases Option.some.inj found
    simp [Task.start] at last
  have kept := Pool.runInvariant (I := fun q => Editing engine r profile body q ∧ Held r q) (by
    rintro q i orc t o k a w' ⟨obeys,held⟩ calm found at_ answered
    obtain ⟨may,moved⟩ := Pool.obeyMove obeys found at_ answered
    exact ⟨moved,heldStep held calm found at_ may answered⟩) init met
  intro _ t found filed out
  have ends := kept.1 0 t found
  unfold returned at out
  split at out <;> try contradiction
  rename_i id state taxId uid referenceNumber done
  rw [done] at ends
  obtain ⟨before,record,saved,s,last,⟨_,taken,_,rfl⟩,reply⟩ := ends
  cases Option.some.inj out
  cases reply
  exact kept.2 t found before _ saved last rfl

/-! One edit of the draft that is being filed: made before the submission begins,
and made on what it read before the submission was recorded. -/
def withOneEdit : Requests :=
  Pool.start Example.drafted (amongEdits Patterns.engine 1 Example.profile Example.invoice
    [.update Example.profile Example.invoice])

def editFirst : Schedule service :=
  List.replicate 2 (1,Example.smooth 1 []) ++ List.replicate 13 (0,Example.smooth 1 [])

def editAround : Schedule service :=
  (1,Example.smooth 1 []) :: List.replicate 13 (0,Example.smooth 1 []) ++ [(1,Example.smooth 1 [])]

theorem keptAfterEdit : (withOneEdit.run editFirst).Ended ∧ FilingKept 1 (withOneEdit.run editFirst) :=
  ⟨by decide +kernel,filingKept Patterns.engine 1 Example.profile Example.invoice _ Example.drafted editFirst
    (by decide +kernel)⟩

theorem lostToEdit : ¬ FilingKept 1 (withOneEdit.run editAround) := by decide +kernel

end Edited
end Moadian.Filing
