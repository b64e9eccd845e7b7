import Moadian.Api.Example
import Moadian.Contract.Filing

/-! Any number of submissions of one stored record, in every order of their steps. -/
namespace Moadian.Filing
open Resumption Handler Trace

abbrev Requests := Pool service Exc Reply

def submits (engine : RuleEngine) (r : Int) (requests : List (Profile × Invoice)) : List (Handler Reply) :=
  requests.map (fun s => Api.submitInvoice engine s.1 s.2 (some r))

def rowOpen (w : World) (r : Int) : Bool := (w.invoices.get r).any (fun row => row.state.editable)

def Idle (t : Task service Exc Reply) : Prop := t.trace = [] ∨ t.prog.Ended

instance (t : Task service Exc Reply) : Decidable (Idle t) := inferInstanceAs (Decidable (_ ∨ _))

/-! A submission reads the open record only while no other has begun and not ended,
and only when what the organization has taken before is on record. -/
def Orderly (r : Int) (q : Requests) (i : Nat) (_ : Oracle service) : Prop :=
  ∀ t ∈ q.tasks[i]?, t.trace = [] → rowOpen q.world r = true →
    ∀ j < q.tasks.length, j ≠ i → ∀ t' ∈ q.tasks[j]?,
      Idle t' ∧ (delivered t'.trace = true → recorded t'.trace = true)

instance (r : Int) (q : Requests) (i : Nat) (orc : Oracle service) : Decidable (Orderly r q i orc) := by
  unfold Orderly; infer_instance

def OneFiling (w : World) (q : Requests) : Prop := q.world.received.length ≤ w.received.length + 1

instance (w : World) (q : Requests) : Decidable (OneFiling w q) := Nat.decLe _ _

theorem guarded {engine : RuleEngine} {profile : Profile} {body : Invoice} {r : Int} {tr : Trace} {o : Op}
    (may : FileMay engine profile body (some r) tr o) :
    (tr = [] ∧ o = .getInvoice r) ∨ ∃ row, touched tr = [read r (some row)] ∧ row.state.editable = true := by
  have through : ∀ taken, Took profile (some r) (touched tr) taken →
      ∃ row, touched tr = [read r (some row)] ∧ row.state.editable = true := by
    rintro taken ⟨row,seen,draft,_⟩
    exact ⟨row,seen.1,draft⟩
  cases may with
  | read first named => cases Option.some.inj named; exact .inl ⟨first,rfl⟩
  | refuse why => obtain ⟨_,_,taken,took,_⟩ := why; exact .inr (through taken took)
  | file why => obtain ⟨_,taken,took,_⟩ := why; exact .inr (through taken took)
  | post once guard => exact .inr (through _ guard)
  | quiet quiet guard => exact .inr (through _ guard)

theorem refusedAtOnce {engine : RuleEngine} {profile : Profile} {body : Invoice} {r : Int}
    {found : Option InvoiceRecord} {ends : Trace → Except Exc Reply → Prop} {p : Handler Reply}
    (shut : ∀ row, found = some row → row.state.editable = false)
    (h : Obeys (M := service) (FileMay engine profile body (some r)) ends [read r found] p) : p.Ended := by
  cases p with
  | ret a => trivial
  | raise e => trivial
  | op o k =>
    obtain ⟨first,_⟩ | ⟨row,seen,draft⟩ := guarded h.1
    · exact absurd first (by simp)
    · have same : read r found = read r (some row) := List.head_eq_of_cons_eq seen
      have found : found = some row := by
        injection same
      rw [shut row found] at draft
      contradiction

/- What one operation past the guard does. -/
theorem pastGuard {engine : RuleEngine} {profile : Profile} {body : Invoice} {r : Int} {tr : Trace} {o : Op}
    {inp : o.Input} {w w' : World} {a : o.Ans} (may : FileMay engine profile body (some r) tr o)
    (begun : tr ≠ []) (answered : respond o inp w = some (a,w')) :
    recorded tr = false ∧
    ((delivered (tr ++ [⟨o,inp,a⟩]) = delivered tr ∧ w'.received = w.received) ∨
      (delivered tr = false ∧ delivered (tr ++ [⟨o,inp,a⟩]) = true ∧
        w'.received.length = w.received.length + 1)) ∧
    (delivered (tr ++ [⟨o,inp,a⟩]) = true → recorded (tr ++ [⟨o,inp,a⟩]) = true → rowOpen w' r = false) := by
  have unwritten : recorded tr = false := by
    obtain ⟨first,_⟩ | ⟨row,seen,_⟩ := guarded may
    · exact absurd first begun
    · rw [← recordedTouched,seen]; rfl
  have unsent : posts tr = [] → delivered tr = false := fun none_ => by simp [delivered,none_]
  refine ⟨unwritten,?_⟩
  cases may with
  | read first named => exact absurd first begun
  | @refuse record why =>
    have same : delivered (tr ++ [⟨Op.saveInvoice record,inp,a⟩]) = delivered tr := by
      rw [deliveredSnoc]; simp [postOf]
    refine ⟨.inl ⟨same,keepsReceived (by simp) answered⟩,fun sent => ?_⟩
    rw [same,unsent why.2.1] at sent
    contradiction
  | @file record s why =>
    have same : delivered (tr ++ [⟨Op.saveInvoice record,inp,a⟩]) = delivered tr := by
      rw [deliveredSnoc]; simp [postOf]
    refine ⟨.inl ⟨same,keepsReceived (by simp) answered⟩,fun _ _ => ?_⟩
    obtain ⟨_,taken,⟨row,seen,_,rfl⟩,rfl⟩ := why
    cases Option.some.inj answered
    have key : (Api.filed engine profile (some row) body s).id = some r := seen.2.1
    unfold rowOpen
    rw [RecordStore.getSave]
    simp only [key,if_pos]
    cases w.invoices.get r <;> rfl
  | @post packet taken once guard =>
    have still : recorded (tr ++ [⟨Op.postInvoice [packet],inp,a⟩]) = false := by
      rw [recordedSnoc,unwritten]; rfl
    refine ⟨?_,fun _ written => by rw [still] at written; contradiction⟩
    cases Option.some.inj answered
    cases took : Op.Delivery.accepted inp
    · refine .inl ⟨?_,by simp⟩
      rw [deliveredSnoc]
      simp [postOf,took]
    · refine .inr ⟨unsent once,?_,by simp⟩
      rw [deliveredSnoc]
      simp [postOf,took]
  | quiet quiet guard =>
    obtain ⟨store,post,_⟩ := quietParts quiet
    have still : recorded (tr ++ [⟨o,inp,a⟩]) = false := by
      rw [recordedSnoc,unwritten,writesNone store]; rfl
    refine ⟨.inl ⟨?_,keepsReceived ?_ answered⟩,fun _ written => by rw [still] at written; contradiction⟩
    · rw [deliveredSnoc,postNone post]
      simp
    · rintro packets rfl
      simp [Op.isPost] at post

/-! At most one submission is under way, or has delivered, at any time. -/
structure Single (r : Int) (base : Nat) (q : Requests) (i : Nat) : Prop where
  others : ∀ j t, j ≠ i → q.tasks[j]? = some t → Idle t ∧ delivered t.trace = false
  closed : ∀ t, q.tasks[i]? = some t → delivered t.trace = true → recorded t.trace = true →
    rowOpen q.world r = false
  atMost : q.world.received.length ≤ base + 1
  untouched : (∀ t, q.tasks[i]? = some t → delivered t.trace = false) → q.world.received.length = base

section Overlap
variable {engine : RuleEngine} {r : Int} {requests : List (Profile × Invoice)}

def SubmitsMay (engine : RuleEngine) (r : Int) (requests : List (Profile × Invoice)) (i : Nat) (tr : Trace)
    (o : Op) : Prop :=
  ∃ s, requests[i]? = some s ∧ FileMay engine s.1 s.2 (some r) tr o

def Submitting (engine : RuleEngine) (r : Int) (requests : List (Profile × Invoice)) (q : Requests) : Prop :=
  q.Obey (M := service) (SubmitsMay engine r requests) (fun _ _ _ => True)

theorem submitsObey (w : World) : Submitting engine r requests (Pool.start w (submits engine r requests)) := by
  refine Pool.obeyStart (fun i p found => ?_)
  rw [submits,List.getElem?_map] at found
  obtain ⟨⟨profile,body⟩,asked,rfl⟩ := Option.map_eq_some_iff.mp found
  exact obeysMono (fun _ _ _ => trivial)
    (obeysMay (fun _ _ may => ⟨_,asked,may⟩) (submitInvoiceObeys engine profile body (some r)))

theorem singleSame {base i : Nat} {q : Requests} {t : Task service Exc Reply} {o : Op} {k : o.Ans → Handler Reply}
    {inp : o.Input} {a : o.Ans} {w' : World} (single : Single r base q i) (found : q.tasks[i]? = some t)
    (may : SubmitsMay engine r requests i t.trace o) (answered : respond o inp q.world = some (a,w')) :
    Single r base ⟨w',q.tasks.set i ⟨k a,t.trace ++ [⟨o,inp,a⟩]⟩⟩ i := by
  obtain ⟨s,_,may⟩ := may
  have own : ∀ t', (q.tasks.set i ⟨k a,t.trace ++ [⟨o,inp,a⟩]⟩)[i]? = some t' →
      t' = ⟨k a,t.trace ++ [⟨o,inp,a⟩]⟩ := by
    intro t' found'
    obtain ⟨_,same⟩ | ⟨other,_⟩ := Pool.setCases found found'
    · exact same
    · exact absurd rfl other
  have unsent : delivered t.trace = false → q.world.received.length = base := fun none_ =>
    single.untouched (fun t' found' => by rw [found] at found'; cases Option.some.inj found'; exact none_)
  have others : ∀ j t', j ≠ i → (q.tasks.set i ⟨k a,t.trace ++ [⟨o,inp,a⟩]⟩)[j]? = some t' →
      Idle t' ∧ delivered t'.trace = false := by
    intro j t' other found'
    rw [List.getElem?_set_ne (Ne.symm other)] at found'
    exact single.others j t' other found'
  by_cases begun : t.trace = []
  · obtain ⟨_,rfl⟩ | ⟨row,seen,_⟩ := guarded may
    · obtain ⟨_,rfl⟩ := readAnswered answered
      have silent : delivered (t.trace ++ [⟨Op.getInvoice r,inp,a⟩]) = false := by rw [begun]; rfl
      refine ⟨others,fun t' found' sent => ?_,single.atMost,fun _ => unsent (by rw [begun]; rfl)⟩
      rw [own t' found',silent] at sent
      contradiction
    · rw [begun] at seen
      cases seen
  · obtain ⟨_,effect,shut⟩ := pastGuard may begun answered
    refine ⟨others,fun t' found' => ?_,?_,fun none_ => ?_⟩
    · rw [own t' found']; exact shut
    · change w'.received.length ≤ base + 1
      rcases effect with ⟨_,same⟩ | ⟨before,_,more⟩
      · rw [same]; exact single.atMost
      · have counted := unsent before
        omega
    · have here := none_ _ (List.getElem?_set_self (List.getElem?_eq_some_iff.mp found).1)
      rcases effect with ⟨kept,same⟩ | ⟨_,sent,_⟩
      · change w'.received.length = base
        rw [same]; exact unsent (kept ▸ here)
      · rw [here] at sent
        contradiction

-- Another one begins: it takes over when it finds the record open, and is over when it does not.
theorem singleOther {base i j : Nat} {q : Requests} {t : Task service Exc Reply} {o : Op} {k : o.Ans → Handler Reply}
    {orc : Oracle service} {a : o.Ans} {w' : World} (single : Single r base q i)
    (orderly : Orderly r q j orc) (other : j ≠ i) (found : q.tasks[j]? = some t) (at_ : t.prog = .op o k)
    (may : SubmitsMay engine r requests j t.trace o)
    (next : Obeys (M := service) (SubmitsMay engine r requests j) (fun _ _ => True)
      (t.trace ++ [⟨o,orc o,a⟩]) (k a))
    (answered : respond o (orc o) q.world = some (a,w')) :
    ∃ i', Single r base ⟨w',q.tasks.set j ⟨k a,t.trace ++ [⟨o,orc o,a⟩]⟩⟩ i' := by
  obtain ⟨s,asked,may⟩ := may
  have begins : t.trace = [] := by
    rcases (single.others j t other found).1 with first | ended
    · exact first
    · rw [at_] at ended; exact ended.elim
  obtain ⟨_,rfl⟩ | ⟨row,seen,_⟩ := guarded may
  · obtain ⟨looked,rfl⟩ := readAnswered answered
    have silent : delivered (t.trace ++ [⟨Op.getInvoice r,orc (Op.getInvoice r),a⟩]) = false := by rw [begins]; rfl
    cases open_ : rowOpen q.world r
    · have shut : ∀ row : InvoiceRecord, a = some row → row.state.editable = false := by
        intro row same
        obtain ⟨columns,stored,rfl⟩ := RecordStore.getCases (looked.symm.trans same)
        simp only [rowOpen,stored,Option.any_some] at open_
        exact open_
      have alone : Obeys (M := service) (FileMay engine s.1 s.2 (some r)) (fun _ _ => True)
          [read r a] (k a) := by
        rw [begins] at next
        refine obeysMay (fun _ _ allowed => ?_) next
        obtain ⟨s',asked',may'⟩ := allowed
        rw [asked] at asked'
        cases Option.some.inj asked'
        exact may'
      have ended := refusedAtOnce shut alone
      refine ⟨i,fun l t' different found' => ?_,fun t' found' => ?_,single.atMost,fun none_ => ?_⟩
      · obtain ⟨_,rfl⟩ | ⟨_,old⟩ := Pool.setCases found found'
        · exact ⟨.inr ended,silent⟩
        · exact single.others l t' different old
      · rw [List.getElem?_set_ne other] at found'
        exact single.closed t' found'
      · refine single.untouched (fun t' found' => none_ t' ?_)
        rw [List.getElem?_set_ne other]
        exact found'
    · have free : ∀ t', q.tasks[i]? = some t' → Idle t' ∧ delivered t'.trace = false := by
        intro t' found'
        obtain ⟨idle,told⟩ := orderly t found begins open_ i (List.getElem?_eq_some_iff.mp found').1
          (Ne.symm other) t' found'
        refine ⟨idle,?_⟩
        cases sent : delivered t'.trace
        · rfl
        · have shut := single.closed t' found' sent (told sent)
          rw [open_] at shut
          contradiction
      have base_ := single.untouched (fun t' found' => (free t' found').2)
      refine ⟨j,fun l t' different found' => ?_,fun t' found' sent => ?_,single.atMost,fun _ => base_⟩
      · rw [List.getElem?_set_ne (Ne.symm different)] at found'
        by_cases same : l = i
        · subst same; exact free t' found'
        · exact single.others l t' same found'
      · obtain ⟨_,rfl⟩ | ⟨different,_⟩ := Pool.setCases found found'
        · rw [silent] at sent; contradiction
        · exact absurd rfl different
  · rw [begins] at seen
    cases seen

theorem singleStart (w : World) :
    Single r w.received.length (Pool.start w (submits engine r requests)) 0 := by
  have fresh : ∀ (j : Nat) (t : Task service Exc Reply),
      (Pool.start (M := service) w (submits engine r requests)).tasks[j]? = some t → t.trace = [] := by
    intro j t found
    obtain ⟨p,_,rfl⟩ := Option.map_eq_some_iff.mp (List.getElem?_map.symm.trans found)
    rfl
  refine ⟨fun j t _ found => ⟨.inl (fresh j t found),by rw [fresh j t found]; rfl⟩,fun t found sent => ?_,
    Nat.le_succ _,fun _ => rfl⟩
  rw [fresh 0 t found] at sent
  contradiction

theorem singleRun {w : World} {moves : Schedule service}
    (met : Pool.Throughout (Orderly r) (Pool.start w (submits engine r requests)) moves) :
    ∃ i, Single r w.received.length ((Pool.start w (submits engine r requests)).run moves) i := by
  have init : Submitting engine r requests (Pool.start w (submits engine r requests)) ∧
      ∃ i, Single r w.received.length (Pool.start w (submits engine r requests)) i :=
    ⟨submitsObey w,0,singleStart w⟩
  refine (Pool.runInvariant (I := fun q => Submitting engine r requests q ∧
    ∃ i, Single r w.received.length q i) ?_ init met).2
  rintro q j orc t o k a w' ⟨obeys,i,single⟩ orderly found at_ answered
  obtain ⟨may,moved⟩ := Pool.obeyMove obeys found at_ answered
  refine ⟨moved,?_⟩
  by_cases same : j = i
  · subst same
    exact ⟨j,singleSame single found may answered⟩
  · exact singleOther single orderly same found at_ may
      (moved j _ (List.getElem?_set_self (List.getElem?_eq_some_iff.mp found).1)) answered

theorem filedOnce (engine : RuleEngine) (r : Int) (requests : List (Profile × Invoice)) (w : World)
    (moves : Schedule service)
    (met : Pool.Throughout (Orderly r) (Pool.start w (submits engine r requests)) moves) :
    OneFiling w ((Pool.start w (submits engine r requests)).run moves) := by
  obtain ⟨_,single⟩ := singleRun met
  exact single.atMost

/-! Two submissions of one draft: the second after the first, and both past their
guards before either has posted. -/
def twice : Requests :=
  Pool.start Example.drafted (submits Patterns.engine 1 [(Example.profile,Example.invoice),
    (Example.profile,Example.invoice)])

def inTurn : Schedule service :=
  List.replicate 13 (0,Example.smooth 1 []) ++ List.replicate 13 (1,Example.smooth 2 [])

def racing : Schedule service :=
  [(0,Example.smooth 1 []),(1,Example.smooth 2 [])] ++ inTurn

theorem filedOnceInTurn : OneFiling Example.drafted (twice.run inTurn) :=
  filedOnce Patterns.engine 1 _ Example.drafted inTurn (by decide +kernel)

theorem filedTwice : ¬ OneFiling Example.drafted (twice.run racing) := by decide +kernel

end Overlap
end Moadian.Filing
