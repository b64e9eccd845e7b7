import Moadian.Errors
import Moadian.Json

/-! `canonical_json`: what is signed is the dictionary without its nulls. A float
that is no number and an integer too long to print have no JSON form here. -/
namespace Moadian
namespace Json

def maxStrDigits : Nat := 4300

mutual
-- Why `json.dumps(…, allow_nan=False)` refuses a value, at the first part it cannot write.
def unwritable : Json → Option String
  | float (.finite _) => none
  | float _ => some "Out of range float values are not JSON compliant"
  | int n => if 10 ^ maxStrDigits ≤ n.natAbs then
      some ("Exceeds the limit (4300 digits) for integer string conversion; " ++
        "use sys.set_int_max_str_digits() to increase the limit") else none
  | obj members => unwritableMembers members
  | arr items => unwritableItems items
  | _ => none

def unwritableMembers : List (String × Json) → Option String
  | [] => none
  | (_,v) :: rest => match unwritable v with
    | some reason => some reason
    | none => unwritableMembers rest

def unwritableItems : List Json → Option String
  | [] => none
  | v :: rest => match unwritable v with
    | some reason => some reason
    | none => unwritableItems rest
end

def canonicalJson (v : Json) : Except Exc Json :=
  match unwritable v.stripNulls with
  | some reason => .error (.cryptography
      ("payload cannot be canonicalised to valid JSON and must not be signed: " ++ reason))
  | none => .ok v.stripNulls

theorem canonicalStripped {v signed : Json} (h : canonicalJson v = .ok signed) : signed = v.stripNulls := by
  unfold canonicalJson at h
  split at h
  · cases h
  · exact (Except.ok.inj h).symm

theorem stripNullsKeys (members : Dict) :
    ((stripNullsMembers members).map Prod.fst).Sublist (members.map Prod.fst) := by
  induction members with
  | nil => exact List.Sublist.refl _
  | cons m rest ih =>
    obtain ⟨k,v⟩ := m
    simp only [stripNullsMembers]
    split
    · exact ih.cons k
    · exact ih.cons_cons k

theorem lookupStripNulls {key : String} {members : Dict} (nodup : (members.map Prod.fst).Nodup) :
    (stripNullsMembers members).lookup key =
      (members.lookup key).bind (fun v => if isNull v then none else some v.stripNulls) := by
  induction members with
  | nil => rfl
  | cons m rest ih =>
    obtain ⟨k,v⟩ := m
    obtain ⟨absent,tail⟩ := List.nodup_cons.mp nodup
    have later := ih tail
    simp only [stripNullsMembers,List.lookup_cons]
    cases same : key == k with
    | false =>
      by_cases null : isNull v = true
      · rw [if_pos null]; exact later
      · simpa [null,List.lookup_cons,same] using later
    | true =>
      have eq : key = k := by simpa using same
      subst eq
      by_cases null : isNull v = true
      · have gone : (stripNullsMembers rest).lookup key = none :=
          lookupNone (fun member => absent ((stripNullsKeys rest).subset member))
        simp [null,gone]
      · simp [null]

mutual
-- How many objects and lists are open at once: what a recursive walk has to nest.
def depth : Json → Nat
  | obj members => depthMembers members + 1
  | arr items => depthItems items + 1
  | _ => 0

def depthMembers : List (String × Json) → Nat
  | [] => 0
  | (_,v) :: rest => max (depth v) (depthMembers rest)

def depthItems : List Json → Nat
  | [] => 0
  | v :: rest => max (depth v) (depthItems rest)
end

mutual
def texts : Json → List String
  | str text => [text]
  | obj members => textsMembers members
  | arr items => textsItems items
  | _ => []

def textsMembers : List (String × Json) → List String
  | [] => []
  | (k,v) :: rest => k :: (texts v ++ textsMembers rest)

def textsItems : List Json → List String
  | [] => []
  | v :: rest => texts v ++ textsItems rest
end

/-! Neither stripping takes away anything that cannot be written, or a level. -/

theorem blankWritable {v : Json} (blank : blankString v = true) : unwritable v = none ∧ depth v = 0 := by
  cases v <;> simp [blankString] at blank
  exact ⟨rfl,rfl⟩

theorem nullWritable {v : Json} (null : isNull v = true) : unwritable v = none ∧ depth v = 0 := by
  cases v <;> simp [isNull] at null
  exact ⟨rfl,rfl⟩

mutual
theorem withoutBlanksSame : (v : Json) → unwritable (withoutBlanks v) = unwritable v ∧ depth (withoutBlanks v) = depth v
  | obj members => by
    obtain ⟨same,deep⟩ := withoutBlanksMembersSame members
    simp only [withoutBlanks,unwritable,depth,same,deep,and_self]
  | arr items => by
    obtain ⟨same,deep⟩ := withoutBlanksItemsSame items
    simp only [withoutBlanks,unwritable,depth,same,deep,and_self]
  | null | bool _ | int _ | float _ | str _ => ⟨rfl,rfl⟩

theorem withoutBlanksMembersSame : (members : Dict) →
    unwritableMembers (withoutBlanksMembers members) = unwritableMembers members ∧
      depthMembers (withoutBlanksMembers members) = depthMembers members
  | [] => ⟨rfl,rfl⟩
  | (k,v) :: rest => by
    obtain ⟨same,deep⟩ := withoutBlanksMembersSame rest
    obtain ⟨here,level⟩ := withoutBlanksSame v
    simp only [withoutBlanksMembers]
    split
    · rename_i blank
      obtain ⟨writable,flat⟩ := blankWritable blank
      simp [unwritableMembers,depthMembers,writable,flat,same,deep]
    · simp only [unwritableMembers,depthMembers,here,level,same,deep,and_self]

theorem withoutBlanksItemsSame : (items : List Json) →
    unwritableItems (withoutBlanksItems items) = unwritableItems items ∧
      depthItems (withoutBlanksItems items) = depthItems items
  | [] => ⟨rfl,rfl⟩
  | v :: rest => by
    obtain ⟨same,deep⟩ := withoutBlanksItemsSame rest
    obtain ⟨here,level⟩ := withoutBlanksSame v
    simp only [withoutBlanksItems,unwritableItems,depthItems,here,level,same,deep,and_self]
end

mutual
theorem stripNullsWritable : (v : Json) → unwritable v.stripNulls = unwritable v
  | obj members => by simp only [stripNulls,unwritable,stripNullsMembersWritable members]
  | arr items => by simp only [stripNulls,unwritable,stripNullsItemsWritable items]
  | null | bool _ | int _ | float _ | str _ => rfl

theorem stripNullsMembersWritable : (members : Dict) →
    unwritableMembers (stripNullsMembers members) = unwritableMembers members
  | [] => rfl
  | (k,v) :: rest => by
    simp only [stripNullsMembers]
    split
    · rename_i null
      simp only [unwritableMembers,(nullWritable null).1,stripNullsMembersWritable rest]
    · simp only [unwritableMembers,stripNullsWritable v,stripNullsMembersWritable rest]

theorem stripNullsItemsWritable : (items : List Json) →
    unwritableItems (stripNullsItems items) = unwritableItems items
  | [] => rfl
  | v :: rest => by simp only [stripNullsItems,unwritableItems,stripNullsWritable v,stripNullsItemsWritable rest]
end

theorem canonicalOk {v : Json} : (∃ signed, v.canonicalJson = .ok signed) ↔ unwritable v = none := by
  unfold canonicalJson
  rw [stripNullsWritable]
  cases unwritable v <;> simp

theorem unwritablePresent (fields : List (String × Option Json)) :
    unwritableMembers (present fields) = fields.findSome? (fun f => f.2.bind unwritable) := by
  induction fields with
  | nil => rfl
  | cons f rest ih =>
    obtain ⟨k,v⟩ := f
    rw [List.findSome?_cons,← ih]
    cases v with
    | none => rfl
    | some v =>
      simp only [present,List.filterMap_cons,Option.map_some,unwritableMembers,Option.bind_some]
      cases unwritable v <;> rfl

theorem depthPresent (fields : List (String × Option Json)) :
    depthMembers (present fields) = (fields.map (fun f => (f.2.map depth).getD 0)).foldr max 0 := by
  induction fields with
  | nil => rfl
  | cons f rest ih =>
    obtain ⟨k,v⟩ := f
    rw [List.map_cons,List.foldr_cons,← ih]
    cases v with
    | none => simp [present]
    | some v => rfl

def memberTexts (m : String × Json) : List String :=
  if blankString m.2 || isNull m.2 then [] else m.1 :: texts (stripNulls (withoutBlanks m.2))

theorem textsMembersStripped (members : Dict) :
    textsMembers (stripNullsMembers (withoutBlanksMembers members)) = members.flatMap memberTexts := by
  induction members with
  | nil => rfl
  | cons m rest ih =>
    obtain ⟨k,v⟩ := m
    rw [List.flatMap_cons,← ih]
    have same : isNull (withoutBlanks v) = isNull v := by cases v <;> rfl
    cases blank : blankString v with
    | true => simp [withoutBlanksMembers,memberTexts,blank]
    | false => cases null : isNull v <;> simp [withoutBlanksMembers,stripNullsMembers,textsMembers,memberTexts,blank,same,null]

theorem textsPresent (fields : List (String × Option Json)) : (present fields).flatMap memberTexts =
    fields.flatMap (fun f => (f.2.map (fun v => memberTexts (f.1,v))).getD []) := by
  induction fields with
  | nil => rfl
  | cons f rest ih =>
    obtain ⟨k,v⟩ := f
    rw [List.flatMap_cons,← ih]
    cases v <;> rfl

end Json
end Moadian
