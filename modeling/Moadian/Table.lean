import Mathlib.Data.List.Basic
import Mathlib.Data.List.Pairwise

/-! A table whose integer key counts up and is never reused, as `INTEGER PRIMARY
KEY AUTOINCREMENT` has it. The rows stand in the order of their keys. -/
namespace Moadian

structure Table (α : Type) where
  rows : List (Int × α)
  next : Int
  sorted : rows.Pairwise (fun a b => a.1 < b.1)
  fresh : ∀ r ∈ rows, r.1 < next

namespace Table
variable {α : Type}

def empty : Table α := ⟨[],1,List.Pairwise.nil,by simp⟩

def get (t : Table α) (id : Int) : Option α := (t.rows.find? (fun r => r.1 == id)).map Prod.snd

def insert (t : Table α) (a : α) : Table α where
  rows := t.rows ++ [(t.next,a)]
  next := t.next + 1
  sorted := List.pairwise_append.mpr ⟨t.sorted,List.pairwise_singleton _ _,by
    intro x hx y hy
    cases List.mem_singleton.mp hy
    exact t.fresh x hx⟩
  fresh := by
    intro r member
    rcases List.mem_append.mp member with old | new
    · have below := t.fresh r old; omega
    · cases List.mem_singleton.mp new; exact Int.lt_succ t.next

-- A row that is refused has used up its key.
def skip (t : Table α) : Table α where
  rows := t.rows
  next := t.next + 1
  sorted := t.sorted
  fresh := by
    intro r member
    have below := t.fresh r member
    omega

def updateRow (id : Int) (f : α → α) (r : Int × α) : Int × α := if r.1 = id then (r.1,f r.2) else r

@[simp] theorem updateRowFst (id : Int) (f : α → α) (r : Int × α) : (updateRow id f r).1 = r.1 := by
  unfold updateRow
  split <;> rfl

def update (t : Table α) (id : Int) (f : α → α) : Table α where
  rows := t.rows.map (updateRow id f)
  next := t.next
  sorted := List.pairwise_map.mpr (t.sorted.imp (by simp))
  fresh := by
    intro r member
    obtain ⟨old,mem,rfl⟩ := List.mem_map.mp member
    simpa using t.fresh old mem

-- An UPDATE without a key: each row is told its own.
def updateEach (t : Table α) (f : Int → α → α) : Table α where
  rows := t.rows.map (fun r => (r.1,f r.1 r.2))
  next := t.next
  sorted := List.pairwise_map.mpr t.sorted
  fresh := by
    intro r member
    obtain ⟨old,mem,rfl⟩ := List.mem_map.mp member
    exact t.fresh old mem

def delete (t : Table α) (id : Int) : Table α where
  rows := t.rows.filter (fun r => r.1 ≠ id)
  next := t.next
  sorted := t.sorted.filter _
  fresh := fun r member => t.fresh r (List.mem_filter.mp member).1

-- A DELETE without a key: the count goes on.
def deleteAll (t : Table α) : Table α := ⟨[],t.next,List.Pairwise.nil,by simp⟩

def newest (t : Table α) (p : α → Bool) : Option (Int × α) := (t.rows.filter (fun r => p r.2)).getLast?

def select (t : Table α) (p : α → Bool) : List (Int × α) := t.rows.filter (fun r => p r.2)

theorem sortedUnique {rows : List (Int × α)} (sorted : rows.Pairwise (fun a b => a.1 < b.1))
    {id : Int} {a b : α} (left : (id,a) ∈ rows) (right : (id,b) ∈ rows) : a = b := by
  induction rows with
  | nil => cases left
  | cons r rest ih =>
    obtain ⟨below,tail⟩ := List.pairwise_cons.mp sorted
    rcases List.mem_cons.mp left with same | left <;> rcases List.mem_cons.mp right with same' | right
    · rw [← same'] at same; exact congrArg Prod.snd same
    · have := below _ right; rw [← same] at this; exact absurd this (Int.lt_irrefl id)
    · have := below _ left; rw [← same'] at this; exact absurd this (Int.lt_irrefl id)
    · exact ih tail left right

theorem memGet (t : Table α) (id : Int) (a : α) : (id,a) ∈ t.rows ↔ t.get id = some a := by
  unfold get
  constructor
  · intro member
    cases found : t.rows.find? (fun r => r.1 == id) with
    | none => simpa using List.find?_eq_none.mp found _ member
    | some r =>
      obtain ⟨j,b⟩ := r
      have same : j = id := by simpa using List.find?_some found
      subst same
      exact congrArg some (sortedUnique t.sorted (List.mem_of_find?_eq_some found) member)
  · intro found
    obtain ⟨r,hr,rfl⟩ := Option.map_eq_some_iff.mp found
    obtain ⟨j,b⟩ := r
    have same : j = id := by simpa using List.find?_some hr
    subst same
    exact List.mem_of_find?_eq_some hr

theorem getNext (t : Table α) : t.get t.next = none := by
  cases found : t.get t.next with
  | none => rfl
  | some a => exact absurd (t.fresh _ ((t.memGet _ a).mpr found)) (Int.lt_irrefl _)

@[simp] theorem getEmpty (id : Int) : (empty : Table α).get id = none := rfl

theorem getInsert (t : Table α) (a : α) (id : Int) :
    (t.insert a).get id = if id = t.next then some a else t.get id := by
  simp only [get,insert,List.find?_append,List.find?_singleton]
  by_cases h : id = t.next
  · subst h
    have none := t.getNext
    simp only [get,Option.map_eq_none_iff] at none
    simp [none]
  · cases found : t.rows.find? (fun r => r.1 == id) with
    | none => simp [h,Ne.symm h]
    | some r => simp [h]

theorem getUpdate (t : Table α) (id : Int) (f : α → α) (j : Int) :
    (t.update id f).get j = if j = id then (t.get j).map f else t.get j := by
  simp only [get,update,List.find?_map]
  have same : ((fun r => r.1 == j) ∘ updateRow id f) = fun r : Int × α => r.1 == j := by
    funext r; simp
  rw [same]
  cases found : t.rows.find? (fun r => r.1 == j) with
  | none => simp
  | some r =>
    have key : r.1 = j := by simpa using List.find?_some found
    by_cases h : j = id <;> simp [updateRow,key,h]

theorem getDelete (t : Table α) (id j : Int) :
    (t.delete id).get j = if j = id then none else t.get j := by
  simp only [get,delete,List.find?_filter]
  by_cases h : j = id
  · subst h
    simp
  · rw [if_neg h]
    congr 2
    funext r
    by_cases key : r.1 = j <;> simp [key,h]

theorem memSelect (t : Table α) (p : α → Bool) (id : Int) (a : α) :
    (id,a) ∈ t.select p ↔ t.get id = some a ∧ p a = true := by
  simp [select,List.mem_filter,memGet]

theorem newestSome {t : Table α} {p : α → Bool} {id : Int} {a : α} (h : t.newest p = some (id,a)) :
    t.get id = some a ∧ p a = true :=
  (t.memSelect p id a).mp (List.mem_of_getLast? h)

theorem newestUpdate (t : Table α) (id : Int) (f : α → α) (p : α → Bool)
    (same : ∀ a, (id,a) ∈ t.rows → p (f a) = p a) : (t.update id f).newest p = (t.newest p).map (updateRow id f) := by
  unfold newest update
  rw [List.filter_map,List.getLast?_map]
  congr 2
  refine List.filter_congr (fun r member => ?_)
  obtain ⟨j,a⟩ := r
  by_cases key : j = id
  · subst key
    simpa [updateRow] using same a member
  · simp [updateRow,key]

end Table
end Moadian
