import Mathlib.Data.List.Forall2

/-! Computations that may be refused: one after the other, and one for each element of a
list. -/
namespace Moadian.Fallible
variable {ε α β : Type}

theorem bindOk {x : Except ε α} {f : α → Except ε β} {b : β} : x >>= f = .ok b ↔ ∃ a, x = .ok a ∧ f a = .ok b := by
  cases x with
  | error e => exact iff_of_false (fun no => by cases no) (fun no => by obtain ⟨a,no,_⟩ := no; cases no)
  | ok a =>
    refine ⟨fun rest => ⟨a,rfl,rest⟩,fun both => ?_⟩
    obtain ⟨_,same,rest⟩ := both
    cases same
    exact rest

theorem mapOk {x : Except ε α} {f : α → β} {b : β} : x.map f = .ok b ↔ ∃ a, x = .ok a ∧ f a = b := by
  cases x with
  | error e => exact iff_of_false (fun no => by cases no) (fun no => by obtain ⟨a,no,_⟩ := no; cases no)
  | ok a =>
    refine ⟨fun same => ⟨a,rfl,Except.ok.inj same⟩,fun both => ?_⟩
    obtain ⟨_,same,own⟩ := both
    cases same
    exact congrArg _ own

-- The elements are numbered from `i`; the first that is refused ends it.
def each (f : Nat → α → Except ε β) : Nat → List α → Except ε (List β)
  | _,[] => .ok []
  | i,x :: rest => do
    let first ← f i x
    let later ← each f (i + 1) rest
    .ok (first :: later)

variable {f : Nat → α → Except ε β}

theorem eachOk {R : α → β → Prop} {xs : List α} (own : ∀ i, ∀ x ∈ xs, ∀ y, f i x = .ok y → R x y) {i : Nat} {ys : List β}
    (done : each f i xs = .ok ys) : List.Forall₂ R xs ys := by
  induction xs generalizing i ys with
  | nil =>
    cases done
    exact .nil
  | cons x rest ih =>
    obtain ⟨first,here,done⟩ := bindOk.mp done
    obtain ⟨later,others,done⟩ := bindOk.mp done
    cases done
    exact .cons (own i x List.mem_cons_self first here)
      (ih (fun j y member => own j y (List.mem_cons_of_mem x member)) others)

theorem eachMade {xs : List α} (makes : ∀ i, ∀ x ∈ xs, ∃ y, f i x = .ok y) (i : Nat) : ∃ ys, each f i xs = .ok ys := by
  induction xs generalizing i with
  | nil => exact ⟨[],rfl⟩
  | cons x rest ih =>
    obtain ⟨first,here⟩ := makes i x List.mem_cons_self
    obtain ⟨later,others⟩ := ih (fun j y member => makes j y (List.mem_cons_of_mem x member)) (i + 1)
    exact ⟨first :: later,bindOk.mpr ⟨first,here,bindOk.mpr ⟨later,others,rfl⟩⟩⟩

end Moadian.Fallible
