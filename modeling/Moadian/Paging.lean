import Mathlib.Data.List.Basic

/-! Reading a list page by page, while it may grow at its end. -/
namespace Moadian.Paging
variable {α : Type}

def page (size i : Nat) (xs : List α) : List α := (xs.drop (i * size)).take size

theorem pageFull {size i : Nat} {xs : List α} (full : (page size i xs).length = size) (positive : 0 < size) :
    (i + 1) * size ≤ xs.length := by
  rw [page,List.length_take,List.length_drop] at full
  rw [Nat.succ_mul]
  omega

theorem takeSucc (size i : Nat) (xs : List α) : xs.take (i * size) ++ page size i xs = xs.take ((i + 1) * size) := by
  rw [page,Nat.succ_mul,List.take_add]

theorem takeGrown {xs ys : List α} (grows : xs <+: ys) {n : Nat} (inside : n ≤ xs.length) : ys.take n = xs.take n := by
  obtain ⟨more,rfl⟩ := grows
  rw [List.take_append_of_le_length inside]

/- Each page read of the list as it then is; as long as the pages are full, together they
are the front of it as it is at the last. -/
theorem pagesGrow {size : Nat} (positive : 0 < size) {xs : Nat → List α} (grows : ∀ i, xs i <+: xs (i + 1)) (k : Nat)
    (full : ∀ i < k, (page size i (xs i)).length = size) :
    (List.range (k + 1)).flatMap (fun i => page size i (xs i)) = (xs k).take ((k + 1) * size) := by
  induction k with
  | zero => simp [page]
  | succ k ih =>
    have last := pageFull (full k (Nat.lt_succ_self k)) positive
    rw [List.range_succ,List.flatMap_append,ih (fun i small => full i (Nat.lt_succ_of_lt small)),← takeGrown (grows k) last,
      ← takeSucc size (k + 1) (xs (k + 1))]
    simp

theorem pagesEnd {size k : Nat} {xs : List α} (short : (page size k xs).length < size) : xs.take ((k + 1) * size) = xs := by
  rw [page,List.length_take,List.length_drop] at short
  refine List.take_of_length_le ?_
  rw [Nat.succ_mul]
  omega

end Moadian.Paging
