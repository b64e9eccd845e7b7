import Moadian.Resumption.Solo
import Moadian.Serial.Runs

/-! Serials given out by one counter file. -/
namespace Moadian.Serial
open Resumption
open TaxId (maxSerial)

def ran (file : Option Content) (ps : List Participant) (moves : Schedule machine) : System :=
  (launch file ps).run moves

def outcomeOf (q : System) (i : Nat) : Option (Except Error Outcome) := (q.tasks[i]?).bind (fun t => t.prog.outcome)

def Returned (q : System) (i n : Nat) : Prop := outcomeOf q i = some (.ok (.serial n))

instance (q : System) (i n : Nat) : Decidable (Returned q i n) := inferInstanceAs (Decidable (_ = _))

def Refused (q : System) (i : Nat) (why : Refusal) : Prop := outcomeOf q i = some (.error (.refused why))

def Before (q : System) (i j : Nat) : Prop := [i,j].Sublist q.world.order

variable {ps : List Participant} {q : System} {i j : Nat}

theorem soundEnds (h : Sound ps q) {out : Except Error Outcome} (ended : outcomeOf q i = some out) :
    Ends (cast ps i) (stageOf q i) out := by
  obtain ⟨t,found,ended⟩ := Option.bind_eq_some_iff.mp ended
  rw [stageFound found]
  exact obeysEnds (h.obey i t found) ended

theorem orderedSerials (h : Sound ps q) {m n : Nat} (before : Before q i j) (left : Returned q i m)
    (right : Returned q j n) : m < n := by
  obtain ⟨draws,_,durable,_,last,read,rfl⟩ := soundEnds h left
  obtain ⟨draws',_,_,_,last',read',rfl⟩ := soundEnds h right
  have below := h.values.ordered i j last last' before ⟨draws,durable,read⟩ draws' read'
  omega

theorem serialsApart (h : Sound ps q) {m n : Nat} (other : i ≠ j) (left : Returned q i m) (right : Returned q j n) :
    (Before q i j ∧ m < n) ∨ (Before q j i ∧ n < m) := by
  have first := (h.locking.turns i).mp (soundEnds h left).2.1
  have second := (h.locking.turns j).mp (soundEnds h right).2.1
  rcases eitherBefore first second other with before | before
  · exact .inl ⟨before,orderedSerials h before left right⟩
  · exact .inr ⟨before,orderedSerials h before right left⟩

theorem noTool (tools : ∀ process args, .tool process args ∉ ps) (i : Nat) (process : Nat) (args : Args) :
    cast ps i ≠ .tool process args := by
  intro own
  rw [cast,List.getD_eq_getElem?_getD] at own
  cases found : ps[i]? with
  | none => rw [found] at own; cases own
  | some p => rw [found] at own; cases own; exact tools process args (List.mem_of_getElem? found)

theorem counterRun {file : Option Content} (tools : ∀ process args, .tool process args ∉ ps) (moves : Schedule machine) :
    Sound ps (ran file ps moves) ∧
      Frozen (cast ps) (stageOf (ran file ps moves)) (ran file ps moves).world := by
  let I : System → Prop := fun q => Sound ps q ∧ Frozen (cast ps) (stageOf q) q.world
  have init : I (launch file ps) := by
    have stages : stageOf (launch file ps) = fun _ => {} := stagesStart file ps
    refine ⟨soundStart file ps,?_⟩
    rw [stages]
    exact ⟨fun i _ locked => (by cases locked),fun i gave => (by cases gave)⟩
  refine Pool.runInvariant (I := I) (C := fun _ _ _ => True) ?_ init (Pool.throughoutTrue _ _)
  intro q i orc t o k a w' held _ found at_ answered
  obtain ⟨sound,frozen⟩ := held
  have counter := noTool tools i
  have fitting : Fitting ps q i orc := countersFit sound counter
  exact ⟨soundStep sound fitting found at_ answered,frozenStep sound frozen counter found at_ answered⟩

theorem serialsNeverRepeat (file : Option Content) (ps : List Participant) (moves : Schedule machine)
    (tools : ∀ process args, .tool process args ∉ ps) :
    (∀ i j m n, i ≠ j → Returned (ran file ps moves) i m → Returned (ran file ps moves) j n →
      (Before (ran file ps moves) i j ∧ m < n) ∨ (Before (ran file ps moves) j i ∧ n < m)) ∧
    (ran file ps moves).world.order.Nodup ∧
    (∀ i n, Returned (ran file ps moves) i n → n ≤ maxSerial) ∧
    (∀ i why, Refused (ran file ps moves) i why → ∃ content,
      (i,content) ∈ (ran file ps moves).world.acquired ∧
      (i,content) ∈ (ran file ps moves).world.released) := by
  obtain ⟨sound,frozen⟩ := counterRun tools moves
  refine ⟨?_,sound.locking.once,?_,?_⟩
  · exact fun i j m n other left right => serialsApart sound other left right
  · intro i n returned
    obtain ⟨_,_,_,small,_⟩ := soundEnds sound returned
    exact small
  · intro i why refused
    obtain ⟨_,gave,still⟩ := soundEnds sound refused
    exact frozen.left i gave still

/-! Two processes draw from a file that is not there yet. The second waits for the lock
while the first writes; the third participant is the end of the first process. -/

def fine : Oracle machine := fun _ => {}

def turnsOf (l : List (Nat × Nat)) : Schedule machine := l.flatMap (fun m => List.replicate m.2 (m.1,fine))

def twoDraws : List Participant := [.draw 0 0,.draw 1 0,.crash 0]

def twoTurns : Schedule machine := turnsOf [(0,5),(1,4),(0,11),(2,1),(1,13)]

theorem serialsApartOnce : (Before (ran none twoDraws twoTurns) 0 1 ∧ 1 < 2) ∨
    (Before (ran none twoDraws twoTurns) 1 0 ∧ 2 < 1) :=
  (serialsNeverRepeat none twoDraws twoTurns (by simp [twoDraws])).1 0 1 1 2 (by decide) (by decide +kernel)
    (by decide +kernel)

end Moadian.Serial
