import Mathlib.Algebra.Ring.Nat
import Mathlib.Data.Rat.Defs

/-! JSON values as Python holds them: an integer and a float are different
values, a float may be no number at all, an object keeps the order of its keys. -/
namespace Moadian

inductive PyFloat where
  | finite (value : ℚ)
  | nan
  | infinite (negative : Bool)
  deriving DecidableEq, Repr

inductive Json where
  | null
  | bool (value : Bool)
  | int (value : Int)
  | float (value : PyFloat)
  | str (value : String)
  | arr (items : List Json)
  | obj (members : List (String × Json))
  deriving Repr, Inhabited

abbrev Dict := List (String × Json)

namespace Json

def get (key : String) : Json → Option Json
  | obj members => members.lookup key
  | _ => none

def isSpace (c : Char) : Bool :=
  let n := c.toNat
  (9 ≤ n && n ≤ 13) || (28 ≤ n && n ≤ 32) || n == 0x85 || n == 0xA0 || n == 0x1680 ||
  (0x2000 ≤ n && n ≤ 0x200A) || n == 0x2028 || n == 0x2029 || n == 0x202F || n == 0x205F || n == 0x3000

def isBlank (s : String) : Bool := s.toList.all isSpace

def blankString : Json → Bool
  | str s => isBlank s
  | _ => false

def isNull : Json → Bool
  | null => true
  | _ => false

mutual
/- Empty and whitespace-only strings are dropped from objects at every depth;
list elements are never dropped. -/
def withoutBlanks : Json → Json
  | obj members => obj (withoutBlanksMembers members)
  | arr items => arr (withoutBlanksItems items)
  | v => v

def withoutBlanksMembers : List (String × Json) → List (String × Json)
  | [] => []
  | (k,v) :: rest =>
    if blankString v then withoutBlanksMembers rest
    else (k,withoutBlanks v) :: withoutBlanksMembers rest

def withoutBlanksItems : List Json → List Json
  | [] => []
  | v :: rest => withoutBlanks v :: withoutBlanksItems rest
end

mutual
def stripNulls : Json → Json
  | obj members => obj (stripNullsMembers members)
  | arr items => arr (stripNullsItems items)
  | v => v

def stripNullsMembers : List (String × Json) → List (String × Json)
  | [] => []
  | (k,v) :: rest =>
    if isNull v then stripNullsMembers rest else (k,stripNulls v) :: stripNullsMembers rest

def stripNullsItems : List Json → List Json
  | [] => []
  | v :: rest => stripNulls v :: stripNullsItems rest
end

-- The members an object dump keeps under `exclude_none`.
def present (fields : List (String × Option Json)) : Dict :=
  fields.filterMap (fun f => f.2.map (f.1,·))

def setMember (key : String) (value : Json) (d : Dict) : Dict :=
  if d.any (fun m => m.1 == key) then d.map (fun m => if m.1 == key then (key,value) else m)
  else d ++ [(key,value)]

/-! A dump has each key once, so a look-up in it is a look-up of the field. -/

theorem lookupNone {β : Type} {key : String} {members : List (String × β)}
    (h : key ∉ members.map Prod.fst) : members.lookup key = none := by
  induction members with
  | nil => rfl
  | cons m rest ih =>
    obtain ⟨k,v⟩ := m
    simp only [List.map_cons,List.mem_cons,not_or] at h
    have other : (key == k) = false := by simpa using h.1
    simp only [List.lookup_cons,other]
    exact ih h.2

theorem lookupMem {α β : Type} [BEq α] [LawfulBEq α] {key : α} {v : β} {members : List (α × β)}
    (found : members.lookup key = some v) : (key,v) ∈ members := by
  obtain ⟨before,after,whole,_⟩ := List.lookup_eq_some_iff.mp found
  simp [whole]

theorem lookupOwn {α β : Type} [BEq α] [LawfulBEq α] {key : α} {v : β} {members : List (α × β)}
    (nodup : (members.map Prod.fst).Nodup) (own : (key,v) ∈ members) : members.lookup key = some v := by
  induction members with
  | nil => cases own
  | cons m rest ih =>
    obtain ⟨k,w⟩ := m
    obtain ⟨absent,tail⟩ := List.nodup_cons.mp nodup
    rw [List.lookup_cons]
    rcases List.mem_cons.mp own with same | later
    · cases same
      simp
    · have differ : (key == k) = false := by
        rw [beq_eq_false_iff_ne]
        intro equal
        exact absent (List.mem_map.mpr ⟨(key,v),later,equal⟩)
      rw [differ]
      exact ih tail later

theorem presentKeys (fields : List (String × Option Json)) :
    ((present fields).map Prod.fst).Sublist (fields.map Prod.fst) := by
  induction fields with
  | nil => exact List.Sublist.refl _
  | cons f rest ih =>
    obtain ⟨k,v⟩ := f
    cases v with
    | none => exact ih.cons k
    | some v => exact ih.cons_cons k

theorem lookupPresent {key : String} {fields : List (String × Option Json)}
    (nodup : (fields.map Prod.fst).Nodup) : (present fields).lookup key = (fields.lookup key).join := by
  induction fields with
  | nil => rfl
  | cons f rest ih =>
    obtain ⟨k,v⟩ := f
    obtain ⟨absent,tail⟩ := List.nodup_cons.mp nodup
    have later := ih tail
    simp only [List.lookup_cons]
    cases same : key == k with
    | false =>
      cases v with
      | none => exact later
      | some v => simpa [present,List.lookup_cons,same] using later
    | true =>
      have eq : key = k := by simpa using same
      subst eq
      cases v with
      | none =>
        have gone : (present rest).lookup key = none :=
          lookupNone (fun member => absent ((presentKeys rest).subset member))
        exact gone
      | some v => simp [present]

theorem withoutBlanksKeys (members : Dict) :
    ((withoutBlanksMembers members).map Prod.fst).Sublist (members.map Prod.fst) := by
  induction members with
  | nil => exact List.Sublist.refl _
  | cons m rest ih =>
    obtain ⟨k,v⟩ := m
    simp only [withoutBlanksMembers]
    split
    · exact ih.cons k
    · exact ih.cons_cons k

theorem lookupWithoutBlanks {key : String} {members : Dict} (nodup : (members.map Prod.fst).Nodup) :
    (withoutBlanksMembers members).lookup key =
      (members.lookup key).bind (fun v => if blankString v then none else some (withoutBlanks v)) := by
  induction members with
  | nil => rfl
  | cons m rest ih =>
    obtain ⟨k,v⟩ := m
    obtain ⟨absent,tail⟩ := List.nodup_cons.mp nodup
    have later := ih tail
    simp only [withoutBlanksMembers,List.lookup_cons]
    cases same : key == k with
    | false =>
      by_cases blank : blankString v = true
      · rw [if_pos blank]; exact later
      · simpa [blank,List.lookup_cons,same] using later
    | true =>
      have eq : key = k := by simpa using same
      subst eq
      by_cases blank : blankString v = true
      · have gone : (withoutBlanksMembers rest).lookup key = none :=
          lookupNone (fun member => absent ((withoutBlanksKeys rest).subset member))
        simp [blank,gone]
      · simp [blank]

end Json
end Moadian
