import Moadian.Client.Packet
import Moadian.Codec.JsonTrip
import Moadian.Models.Invoice

/-! What is signed of an invoice: its JSON value with the empty members left out, in
objects at every depth and nowhere else. -/
namespace Moadian
namespace Json

def isEmpty (v : Json) : Bool := isNull v || blankString v

mutual
-- What is meant: each member that is empty is left out, and the others are cleaned.
def cleaned : Json → Json
  | obj members => obj (cleanedMembers members)
  | arr items => arr (cleanedItems items)
  | v => v

def cleanedMembers : List (String × Json) → List (String × Json)
  | [] => []
  | (k,v) :: rest => if isEmpty v then cleanedMembers rest else (k,cleaned v) :: cleanedMembers rest

def cleanedItems : List Json → List Json
  | [] => []
  | v :: rest => cleaned v :: cleanedItems rest
end

mutual
def Filled : Json → Prop
  | obj members => FilledMembers members
  | arr items => FilledItems items
  | _ => True

def FilledMembers : List (String × Json) → Prop
  | [] => True
  | (_,v) :: rest => (isNull v = false ∧ blankString v = false) ∧ Filled v ∧ FilledMembers rest

def FilledItems : List Json → Prop
  | [] => True
  | v :: rest => Filled v ∧ FilledItems rest
end

theorem cleanedMembersEq (members : Dict) :
    cleanedMembers members = (members.filter (fun m => !isEmpty m.2)).map (fun m => (m.1,cleaned m.2)) := by
  induction members with
  | nil => rfl
  | cons m rest ih =>
    obtain ⟨k,v⟩ := m
    rw [cleanedMembers,List.filter_cons]
    cases isEmpty v with
    | true => simpa using ih
    | false => simpa using ih

theorem cleanedItemsEq (items : List Json) : cleanedItems items = items.map cleaned := by
  induction items with
  | nil => rfl
  | cons v rest ih => rw [cleanedItems,ih,List.map_cons]

theorem notEmpty {v : Json} : isEmpty v = false ↔ isNull v = false ∧ blankString v = false := by
  rw [isEmpty,Bool.or_eq_false_iff]

/-! Each pass keeps what kind of value it is given, so the second finds what the first left. -/

theorem withoutBlanksKind (v : Json) : isNull (withoutBlanks v) = isNull v := by
  cases v <;> rfl

theorem cleanedKind (v : Json) : isNull (cleaned v) = isNull v ∧ blankString (cleaned v) = blankString v := by
  cases v <;> exact ⟨rfl,rfl⟩

mutual
theorem twoPasses : (v : Json) → stripNulls (withoutBlanks v) = cleaned v
  | obj members => by rw [withoutBlanks,stripNulls,cleaned,twoPassesMembers members]
  | arr items => by rw [withoutBlanks,stripNulls,cleaned,twoPassesItems items]
  | null | bool _ | int _ | float _ | str _ => rfl

theorem twoPassesMembers : (members : Dict) → stripNullsMembers (withoutBlanksMembers members) = cleanedMembers members
  | [] => rfl
  | (k,v) :: rest => by
    have later := twoPassesMembers rest
    have here := twoPasses v
    have kind := withoutBlanksKind v
    rw [withoutBlanksMembers,cleanedMembers,isEmpty]
    cases blank : blankString v with
    | true => rw [if_pos rfl,Bool.or_true,if_pos rfl,later]
    | false =>
      rw [if_neg Bool.false_ne_true,stripNullsMembers,kind,Bool.or_false,later,here]

theorem twoPassesItems : (items : List Json) → stripNullsItems (withoutBlanksItems items) = cleanedItems items
  | [] => rfl
  | v :: rest => by rw [withoutBlanksItems,stripNullsItems,cleanedItems,twoPasses v,twoPassesItems rest]
end

mutual
theorem cleanedFilled : (v : Json) → Filled (cleaned v)
  | obj members => cleanedMembersFilled members
  | arr items => cleanedItemsFilled items
  | null | bool _ | int _ | float _ | str _ => True.intro

theorem cleanedMembersFilled : (members : Dict) → FilledMembers (cleanedMembers members)
  | [] => True.intro
  | (k,v) :: rest => by
    have later := cleanedMembersFilled rest
    rw [cleanedMembers]
    cases empty : isEmpty v with
    | true => exact later
    | false =>
      obtain ⟨null,blank⟩ := notEmpty.mp empty
      obtain ⟨same,same'⟩ := cleanedKind v
      exact ⟨⟨same.trans null,same'.trans blank⟩,cleanedFilled v,later⟩

theorem cleanedItemsFilled : (items : List Json) → FilledItems (cleanedItems items)
  | [] => True.intro
  | v :: rest => ⟨cleanedFilled v,cleanedItemsFilled rest⟩
end

mutual
theorem filledSame : (v : Json) → Filled v → cleaned v = v
  | obj members,filled => by rw [cleaned,filledMembersSame members filled]
  | arr items,filled => by rw [cleaned,filledItemsSame items filled]
  | null,_ | bool _,_ | int _,_ | float _,_ | str _,_ => rfl

theorem filledMembersSame : (members : Dict) → FilledMembers members → cleanedMembers members = members
  | [],_ => rfl
  | (k,v) :: rest,⟨some_,here,later⟩ => by
    rw [cleanedMembers,notEmpty.mpr some_,if_neg Bool.false_ne_true,filledSame v here,filledMembersSame rest later]

theorem filledItemsSame : (items : List Json) → FilledItems items → cleanedItems items = items
  | [],_ => rfl
  | v :: rest,⟨here,later⟩ => by rw [cleanedItems,filledSame v here,filledItemsSame rest later]
end

theorem cleanedKeys (members : Dict) : ((cleanedMembers members).map Prod.fst).Sublist (members.map Prod.fst) := by
  rw [cleanedMembersEq,List.map_map]
  exact List.filter_sublist.map Prod.fst

end Json

namespace Codec

/-! A value that `json.loads` answers: each object has a key once, an integer is no longer
than `int` reads, and a finite float is the one its text stands for. -/

mutual
def Loaded (floats : Floats) : Json → Prop
  | .float (.finite q) => FloatLegible floats (.finite q)
  | .int n => n.natAbs < 10 ^ maxDigits
  | .arr items => LoadedItems floats items
  | .obj members => (members.map Prod.fst).Nodup ∧ LoadedMembers floats members
  | _ => True

def LoadedItems (floats : Floats) : List Json → Prop
  | [] => True
  | v :: rest => Loaded floats v ∧ LoadedItems floats rest

def LoadedMembers (floats : Floats) : List (String × Json) → Prop
  | [] => True
  | (_,v) :: rest => Loaded floats v ∧ LoadedMembers floats rest
end

open Json (cleaned cleanedMembers cleanedItems unwritable unwritableMembers unwritableItems)

theorem memberWritable {k : String} {v : Json} {rest : Dict} (h : unwritableMembers ((k,v) :: rest) = none) :
    unwritable v = none ∧ unwritableMembers rest = none := by
  rw [unwritableMembers] at h
  split at h
  · cases h
  · rename_i here
    exact ⟨here,h⟩

theorem itemWritable {v : Json} {rest : List Json} (h : unwritableItems (v :: rest) = none) :
    unwritable v = none ∧ unwritableItems rest = none := by
  rw [unwritableItems] at h
  split at h
  · cases h
  · rename_i here
    exact ⟨here,h⟩

theorem loadedLeaf {floats : Floats} {v : Json} (loaded : Loaded floats v) (writable : unwritable v = none)
    (list : ∀ items, v ≠ .arr items) (object : ∀ members, v ≠ .obj members) : Legible floats v := by
  cases v with
  | float f => cases f with
    | finite q => simpa only [Loaded,Legible] using loaded
    | nan => simp only [unwritable,reduceCtorEq] at writable
    | infinite negative => simp only [unwritable,reduceCtorEq] at writable
  | int n => simpa only [Loaded,Legible] using loaded
  | arr items => exact absurd rfl (list items)
  | obj members => exact absurd rfl (object members)
  | null => simp only [Legible]
  | bool b => simp only [Legible]
  | str t => simp only [Legible]

theorem objectLegible {floats : Floats} {members : Dict} (loaded : Loaded floats (.obj members))
    (writable : unwritable (.obj members) = none) (later : LoadedMembers floats members → unwritableMembers members = none →
      LegibleMembers floats (cleanedMembers members)) : Legible floats (cleaned (.obj members)) := by
  rw [Loaded] at loaded
  rw [unwritable] at writable
  rw [cleaned,Legible]
  exact ⟨(Json.cleanedKeys members).nodup loaded.1,later loaded.2 writable⟩

theorem listLegible {floats : Floats} {items : List Json} (loaded : Loaded floats (.arr items))
    (writable : unwritable (.arr items) = none) (later : LoadedItems floats items → unwritableItems items = none →
      LegibleItems floats (cleanedItems items)) : Legible floats (cleaned (.arr items)) := by
  rw [Loaded] at loaded
  rw [unwritable] at writable
  rw [cleaned,Legible]
  exact later loaded writable

mutual
theorem cleanedLegible (floats : Floats) : (v : Json) → Loaded floats v → unwritable v = none → Legible floats (cleaned v)
  | .obj members => fun loaded writable => objectLegible loaded writable (cleanedMembersLegible floats members)
  | .arr items => fun loaded writable => listLegible loaded writable (cleanedItemsLegible floats items)
  | .null | .bool _ | .str _ | .int _ | .float _ => fun loaded writable => loadedLeaf loaded writable nofun nofun

theorem cleanedMembersLegible (floats : Floats) : (members : Dict) → LoadedMembers floats members →
    unwritableMembers members = none → LegibleMembers floats (cleanedMembers members)
  | [] => fun _ _ => True.intro
  | (k,v) :: rest => fun loaded writable => by
    obtain ⟨here,later⟩ := memberWritable writable
    rw [cleanedMembers]
    split
    · exact cleanedMembersLegible floats rest loaded.2 later
    · exact ⟨cleanedLegible floats v loaded.1 here,cleanedMembersLegible floats rest loaded.2 later⟩

theorem cleanedItemsLegible (floats : Floats) : (items : List Json) → LoadedItems floats items →
    unwritableItems items = none → LegibleItems floats (cleanedItems items)
  | [] => fun _ _ => True.intro
  | v :: rest => fun loaded writable => by
    obtain ⟨here,later⟩ := itemWritable writable
    exact ⟨cleanedLegible floats v loaded.1 here,cleanedItemsLegible floats rest loaded.2 later⟩
end

end Codec

namespace Wire
open Codec Json

def Denotes (floats : Floats) (data : Bytes) (v : Json) : Prop :=
  ∃ text, decodeUtf8 data = some text ∧ raw floats text = .ok v

theorem wireWritable (inv : Invoice) : unwritable inv.toWireDict = unwritable (.obj inv.modelDump) :=
  (withoutBlanksSame _).1

theorem canonicalBytesOf (floats : Floats) (inv : Invoice) {data : Bytes} :
    canonicalBytes floats inv.toWireDict = .ok data ↔ unwritable (.obj inv.modelDump) = none ∧
      data = encodeUtf8 (dumps floats .canonical (cleaned (.obj inv.modelDump))) := by
  have passes : inv.toWireDict.stripNulls = cleaned (.obj inv.modelDump) := twoPasses _
  unfold canonicalBytes canonicalJson
  rw [stripNullsWritable,wireWritable,passes]
  cases unwritable (.obj inv.modelDump) with
  | some reason => simp [Except.mapError,Except.map]
  | none =>
    simp only [Except.mapError,Except.map,Except.ok.injEq,true_and]
    exact eq_comm

theorem canonicalDenotes {floats : Floats} {inv : Invoice} (loaded : Loaded floats (.obj inv.modelDump)) {data : Bytes}
    (canonical : canonicalBytes floats inv.toWireDict = .ok data) :
    Denotes floats data (cleaned (.obj inv.modelDump)) ∧
      ∀ w, Denotes floats data w → w = cleaned (.obj inv.modelDump) := by
  obtain ⟨writable,rfl⟩ := (canonicalBytesOf floats inv).mp canonical
  have read := rawLegible floats .canonical (cleanedLegible floats _ loaded writable)
  refine ⟨⟨_,decodeEncoded _,read⟩,?_⟩
  rintro w ⟨text,decoded,other⟩
  rw [decodeEncoded] at decoded
  cases decoded
  exact Except.ok.inj (other.symm.trans read)

theorem canonicalDropsEmpty (floats : Floats) (inv : Invoice) (loaded : Loaded floats (.obj inv.modelDump)) :
    (unwritable (.obj inv.modelDump) = none → ∃ data, canonicalBytes floats inv.toWireDict = .ok data) ∧
      (∀ data, canonicalBytes floats inv.toWireDict = .ok data →
        ∃ v, Denotes floats data v ∧ (∀ w, Denotes floats data w → w = v) ∧
          v = cleaned (.obj inv.modelDump) ∧ Filled v ∧ cleaned v = v) ∧
      (∀ members, cleaned (.obj members) =
        .obj ((members.filter (fun m => !isEmpty m.2)).map (fun m => (m.1,cleaned m.2)))) ∧
      (∀ items, cleaned (.arr items) = .arr (items.map cleaned)) ∧
      ∀ v, (∀ members, v ≠ .obj members) → (∀ items, v ≠ .arr items) → cleaned v = v := by
  have filled := cleanedFilled (.obj inv.modelDump)
  refine ⟨fun writable => ⟨_,(canonicalBytesOf floats inv).mpr ⟨writable,rfl⟩⟩,fun data canonical => ?_,fun members => ?_,
    fun items => ?_,fun v object list => ?_⟩
  · obtain ⟨denotes,only⟩ := canonicalDenotes loaded canonical
    exact ⟨_,denotes,only,rfl,filled,filledSame _ filled⟩
  · rw [cleaned,cleanedMembersEq]
  · rw [cleaned,cleanedItemsEq]
  · cases v with
    | obj members => exact absurd rfl (object members)
    | arr items => exact absurd rfl (list items)
    | null | bool b | int n | float f | str t => rfl

namespace Example

def half : Floats where
  repr q := if q = 1 / 2 then "0.5".toList else "0.0".toList
  read text := if text = "0.5".toList then .finite (1 / 2) else .finite 0

def extended : Invoice where
  header := { indatim := 0, ins := 1, inno := some " " }
  body := []
  extension := some [[("a",.null),("b",.arr [.null,.str " ",.obj [("c",.str ""),("d",.float (.finite (1 / 2)))]])]]

theorem extendedLoaded : Loaded half (.obj extended.modelDump) := by
  have dump : Json.obj extended.modelDump = .obj [("header",.obj [("taxid",.str ""),("indatim",.int 0),("ins",.int 1),
    ("inno",.str " ")]),("body",.arr []),("payments",.arr []),("extension",.arr [.obj [("a",.null),
    ("b",.arr [.null,.str " ",.obj [("c",.str ""),("d",.float (.finite (1 / 2)))]])]])] := rfl
  have small : ∀ n : Int, n.natAbs < 10 ^ 1 → n.natAbs < 10 ^ maxDigits := fun n few =>
    Nat.lt_of_lt_of_le few (Nat.pow_le_pow_right (by decide) (by decide))
  have read : FloatLegible half (.finite (1 / 2)) := by
    refine ⟨⟨false,['0'],['.','5'],[],?_,.inl rfl,.inr ⟨'5',[],rfl,by simp⟩,.inl rfl,by decide⟩,?_⟩ <;> simp [half,signText]
  rw [dump]
  simp only [Loaded,LoadedMembers,LoadedItems]
  exact ⟨by decide,⟨by decide,True.intro,small 0 (by decide),small 1 (by decide),True.intro,True.intro⟩,True.intro,True.intro,
    ⟨⟨by decide,True.intro,⟨True.intro,True.intro,⟨by decide,True.intro,read,True.intro⟩,True.intro⟩,True.intro⟩,True.intro⟩,
    True.intro⟩

end Example

theorem extendedDropsEmpty : ∃ data, canonicalBytes Example.half Example.extended.toWireDict = .ok data ∧
    Denotes Example.half data (.obj [("header",.obj [("indatim",.int 0),("ins",.int 1)]),("body",.arr []),("payments",.arr []),
      ("extension",.arr [.obj [("b",.arr [.null,.str " ",.obj [("d",.float (.finite (1 / 2)))]])]])]) := by
  have drops := canonicalDropsEmpty Example.half Example.extended Example.extendedLoaded
  obtain ⟨data,canonical⟩ := drops.1 (by decide +kernel)
  obtain ⟨v,denotes,_,rfl,_⟩ := drops.2.1 data canonical
  exact ⟨data,canonical,denotes⟩

end Wire
end Moadian
