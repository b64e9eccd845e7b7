import Mathlib.Data.List.Basic

/-! Positions in a list of which some elements are marked, told by how many marked ones
stand before them. -/
namespace Moadian.Marked
variable {α : Type} (p : α → Bool)

-- Just after the `k`-th marked element, or at the end.
def offset : List α → Nat → Nat
  | _,0 => 0
  | [],_ + 1 => 0
  | x :: rest,k + 1 => (if p x then offset rest k else offset rest (k + 1)) + 1

theorem offsetLe (xs : List α) (k : Nat) : offset p xs k ≤ xs.length := by
  induction xs generalizing k with
  | nil => cases k <;> exact Nat.le_refl 0
  | cons x rest ih =>
    cases k with
    | zero => exact Nat.zero_le _
    | succ k =>
      rw [offset,List.length_cons]
      split
      · exact Nat.succ_le_succ (ih k)
      · exact Nat.succ_le_succ (ih (k + 1))

theorem offsetCount (xs : List α) (k : Nat) : (xs.take (offset p xs k)).countP p = min k (xs.countP p) := by
  induction xs generalizing k with
  | nil => cases k <;> rfl
  | cons x rest ih =>
    cases k with
    | zero => simp [offset]
    | succ k =>
      rw [offset]
      cases marked : p x with
      | true => rw [if_pos rfl,List.take_succ_cons,List.countP_cons_of_pos marked,List.countP_cons_of_pos marked,ih]; omega
      | false =>
        have plain : ¬ p x = true := by simp [marked]
        rw [if_neg (by simp),List.take_succ_cons,List.countP_cons_of_neg plain,List.countP_cons_of_neg plain,ih]

theorem offsetTight {xs : List α} {k : Nat} (enough : k ≤ xs.countP p) (after : k ≠ 0) :
    ∃ x, (xs.take (offset p xs k)).getLast? = some x ∧ p x = true := by
  induction xs generalizing k with
  | nil => exact absurd (Nat.le_zero.mp enough) after
  | cons x rest ih =>
    cases k with
    | zero => exact absurd rfl after
    | succ k =>
      rw [offset]
      cases marked : p x with
      | true =>
        rw [if_pos rfl,List.take_succ_cons]
        rw [List.countP_cons_of_pos marked] at enough
        by_cases last : k = 0
        · subst last
          exact ⟨x,by simp [offset],marked⟩
        · obtain ⟨y,found,good⟩ := ih (Nat.le_of_succ_le_succ enough) last
          exact ⟨y,by rw [List.getLast?_cons,found]; rfl,good⟩
      | false =>
        rw [if_neg (by simp),List.take_succ_cons]
        rw [List.countP_cons_of_neg (by simp [marked])] at enough
        obtain ⟨y,found,good⟩ := ih enough (Nat.succ_ne_zero k)
        exact ⟨y,by rw [List.getLast?_cons,found]; rfl,good⟩

theorem offsetEnd {xs : List α} {k : Nat} (beyond : xs.countP p < k) : offset p xs k = xs.length := by
  induction xs generalizing k with
  | nil => cases k <;> rfl
  | cons x rest ih =>
    obtain ⟨m,rfl⟩ : ∃ m, k = m + 1 := ⟨k - 1,by omega⟩
    rw [offset,List.length_cons]
    cases marked : p x with
    | true =>
      rw [List.countP_cons_of_pos marked] at beyond
      rw [if_pos rfl,ih (by omega)]
    | false =>
      rw [List.countP_cons_of_neg (by simp [marked])] at beyond
      rw [if_neg (by simp),ih beyond]

theorem filterTake (xs : List α) (i : Nat) : (xs.take i).filter p = (xs.filter p).take ((xs.take i).countP p) := by
  have whole : (xs.take i).filter p ++ (xs.drop i).filter p = xs.filter p := by
    rw [← List.filter_append,List.take_append_drop]
  rw [← whole,List.countP_eq_length_filter,List.take_left]

theorem filterDrop (xs : List α) (i : Nat) : (xs.drop i).filter p = (xs.filter p).drop ((xs.take i).countP p) := by
  have whole : (xs.take i).filter p ++ (xs.drop i).filter p = xs.filter p := by
    rw [← List.filter_append,List.take_append_drop]
  rw [← whole,List.countP_eq_length_filter,List.drop_left]

theorem countTakeMono (xs : List α) {i j : Nat} (le : i ≤ j) : (xs.take i).countP p ≤ (xs.take j).countP p :=
  (List.take_prefix_take_left le).sublist.countP_le

theorem countTakeSucc (xs : List α) (i : Nat) : (xs.take (i + 1)).countP p ≤ (xs.take i).countP p + 1 := by
  rw [List.take_add,List.countP_append]
  have one : ((xs.drop i).take 1).countP p ≤ ((xs.drop i).take 1).length := List.countP_le_length
  have short : ((xs.drop i).take 1).length ≤ 1 := List.length_take_le _ _
  omega

end Moadian.Marked
