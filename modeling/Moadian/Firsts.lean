import Mathlib.Data.List.Induction

/-! What a list keeps when an element is left out for one before it that is the same.
Sameness need be neither reflexive nor symmetric. -/
namespace Moadian
variable {α : Type} (same : α → α → Bool)

def firsts (xs : List α) : List α :=
  (xs.zipIdx.filter (fun p => !(xs.take p.2).any (fun y => same y p.1))).map Prod.fst

theorem firstsSnoc (xs : List α) (x : α) : firsts same (xs ++ [x]) =
    firsts same xs ++ (if xs.any (fun y => same y x) then [] else [x]) := by
  have front : xs.zipIdx.filter (fun p => !((xs ++ [x]).take p.2).any (fun y => same y p.1)) =
      xs.zipIdx.filter (fun p => !(xs.take p.2).any (fun y => same y p.1)) := by
    refine List.filter_congr (fun p member => ?_)
    have short : p.2 ≤ xs.length := Nat.le_of_lt (List.snd_lt_of_mem_zipIdx member)
    rw [List.take_append_of_le_length short]
  unfold firsts
  rw [List.zipIdx_append,List.filter_append,List.map_append,front]
  congr 1
  cases met : xs.any (fun y => same y x) <;> simp [met]

theorem memFirsts {xs : List α} {x : α} : x ∈ firsts same xs ↔
    ∃ before after, xs = before ++ x :: after ∧ ∀ y ∈ before, same y x = false := by
  unfold firsts
  constructor
  · intro member
    obtain ⟨⟨a,i⟩,kept,rfl⟩ := List.mem_map.mp member
    obtain ⟨place,alone⟩ := List.mem_filter.mp kept
    obtain ⟨inside,here⟩ := List.mem_zipIdx' place
    refine ⟨xs.take i,xs.drop (i+1),?_,by simpa using alone⟩
    rw [here,List.getElem_cons_drop,List.take_append_drop]
  · intro shown
    obtain ⟨before,after,whole,alone⟩ := shown
    refine List.mem_map.mpr ⟨(x,before.length),List.mem_filter.mpr ⟨?_,?_⟩,rfl⟩
    · rw [List.mem_zipIdx_iff_getElem?,whole]
      simp
    · rw [whole,List.take_left]
      simpa using alone

-- Against what was kept a newcomer fares as against the whole list.
theorem firstsAny (trans : ∀ {x y z}, same x y = true → same y z = true → same x z = true) (xs : List α) (x : α) :
    (firsts same xs).any (fun y => same y x) = xs.any (fun y => same y x) := by
  induction xs using List.reverseRecOn with
  | nil => rfl
  | append_singleton xs z ih =>
    rw [firstsSnoc,List.any_append,List.any_append,ih]
    cases met : xs.any (fun y => same y z) with
    | false => rw [if_neg Bool.false_ne_true]
    | true =>
      obtain ⟨y,member,left⟩ := List.any_eq_true.mp met
      cases right : same z x with
      | false => simp [right]
      | true =>
        have there : xs.any (fun y => same y x) = true := List.any_eq_true.mpr ⟨y,member,trans left right⟩
        rw [there]
        rfl

end Moadian
