import Mathlib.Data.List.Basic

/-! A machine seen from outside: what was asked of it and what it answered. An account
kept of the answers alone can follow the state. -/
namespace Moadian.Observed
variable {S C A B : Type}

def after (run : C → S → A × S) (s : S) (calls : List C) : S := calls.foldl (fun s c => (run c s).2) s

def answers (run : C → S → A × S) : S → List C → List (C × A)
  | _,[] => []
  | s,c :: rest => (c,(run c s).1) :: answers run (run c s).2 rest

variable {run : C → S → A × S}

theorem afterKeeps {I : S → Prop} (keeps : ∀ c s, I s → I (run c s).2) {s : S} (held : I s) (calls : List C) :
    I (after run s calls) := by
  induction calls generalizing s with
  | nil => exact held
  | cons c rest ih => exact ih (keeps c s held)

theorem accountFollows {I : S → Prop} (keeps : ∀ c s, I s → I (run c s).2) {abs : S → B} {noted : B → C × A → B}
    (step : ∀ c s, I s → noted (abs s) (c,(run c s).1) = abs (run c s).2) {s : S} (held : I s) (calls : List C) :
    (answers run s calls).foldl noted (abs s) = abs (after run s calls) := by
  induction calls generalizing s with
  | nil => rfl
  | cons c rest ih =>
    rw [answers,List.foldl_cons,step c s held]
    exact ih (keeps c s held)

-- Marks that the state only moves past stand in the answers in their order.
theorem marksRise {I : S → Prop} (keeps : ∀ c s, I s → I (run c s).2) {next : S → Int} {mark : C × A → Option Int}
    (step : ∀ c s, I s → next s ≤ next (run c s).2 ∧ ∀ n, mark (c,(run c s).1) = some n → next s ≤ n ∧ n < next (run c s).2)
    {s : S} (held : I s) (calls : List C) :
    ((answers run s calls).filterMap mark).Pairwise (· < ·) ∧ ∀ n ∈ (answers run s calls).filterMap mark, next s ≤ n := by
  induction calls generalizing s with
  | nil => exact ⟨List.Pairwise.nil,by rintro n ⟨⟩⟩
  | cons c rest ih =>
    obtain ⟨rising,later⟩ := ih (keeps c s held)
    obtain ⟨onward,here⟩ := step c s held
    rw [answers]
    cases marked : mark (c,(run c s).1) with
    | none =>
      rw [List.filterMap_cons_none marked]
      exact ⟨rising,fun n member => Int.le_trans onward (later n member)⟩
    | some n =>
      obtain ⟨low,high⟩ := here n marked
      rw [List.filterMap_cons_some marked]
      refine ⟨List.pairwise_cons.mpr ⟨fun m member => Int.lt_of_lt_of_le high (later m member),rising⟩,fun m member => ?_⟩
      rcases List.mem_cons.mp member with rfl | member
      · exact low
      · exact Int.le_trans onward (later m member)

end Moadian.Observed
