import Moadian.Store.Upgrade

/-! What an interrupted `_migrate` leaves of the two catalogues. -/
namespace Moadian.Migration

section Rows
variable {α : Type} {key : α → String} {t : Table (Scoped α)}

def Oldest (key : α → String) (t : Table (Scoped α)) (a : α) : Prop :=
  ∃ id, (id,a) ∈ unscoped t ∧ ∀ r ∈ unscoped t, key r.2 = key a → id ≤ r.1

theorem existsOldest {r : Int × α} (member : r ∈ unscoped t) : ∃ a, key a = key r.2 ∧ Oldest key t a := by
  cases least : (((unscoped t).filter (fun q => key q.2 = key r.2)).map Prod.fst).min? with
  | none =>
    have empty := List.map_eq_nil_iff.mp (List.min?_eq_none_iff.mp least)
    exact absurd (rfl : key r.2 = key r.2) (by simpa using List.filter_eq_nil_iff.mp empty r member)
  | some id =>
    obtain ⟨own,below⟩ := List.min?_eq_some_iff.mp least
    obtain ⟨⟨j,a⟩,found,rfl⟩ := List.mem_map.mp own
    obtain ⟨there,same⟩ := List.mem_filter.mp found
    have same : key a = key r.2 := by simpa using same
    refine ⟨a,same,j,there,fun q hq eq => below q.1 ?_⟩
    exact List.mem_map.mpr ⟨q,List.mem_filter.mpr ⟨hq,by simpa using eq.trans same⟩,rfl⟩

theorem oldestUnique {a b : α} (left : Oldest key t a) (right : Oldest key t b) (same : key a = key b) : a = b := by
  obtain ⟨i,ha,first⟩ := left
  obtain ⟨j,hb,second⟩ := right
  have below := first _ hb same.symm
  have above := second _ ha same
  have : i = j := by simp only at below above; omega
  subst this
  exact Table.sortedUnique (unscopedSorted t) ha hb

def Survives (key : α → String) (t : Table (Scoped α)) (entries : List α) : Prop :=
  ∀ r ∈ unscoped t, ∃ a ∈ entries, key a = key r.2 ∧ Oldest key t a

theorem mergedSurvives : Survives key t ((merged key t).rows.map Prod.snd) := by
  intro r member
  obtain ⟨a,same,oldest⟩ := existsOldest member
  exact ⟨a,memMerged.mpr oldest,same,oldest⟩

theorem survivesNone : Survives key t [] ↔ t.rows = [] := by
  constructor
  · intro all
    cases rows : t.rows with
    | nil => rfl
    | cons r rest =>
      obtain ⟨a,none,_⟩ := all (r.1,r.2.row) (by simp [unscoped,rows])
      cases none
  · intro empty r member
    simp [unscoped,empty] at member

theorem mergedIds {i j : Int} {a : α} (left : (i,a) ∈ (merged key t).rows) (right : (j,a) ∈ (merged key t).rows) :
    i = j := by
  have apart : (merged key t).rows.Pairwise (fun a b => key a.2 ≠ key b.2) := by
    have entries : ((merged key t).rows.map Prod.snd).Pairwise (fun a b => key a ≠ key b) := by
      rw [mergedEntries]
      exact keptApart (unscopedSorted t)
    exact entries.of_map Prod.snd (fun _ _ off => off)
  have symm : Std.Symm (fun a b : Int × α => key a.2 ≠ key b.2) := ⟨fun _ _ => Ne.symm⟩
  by_contra off
  exact apart.forall left right (by simpa using off) rfl

end Rows

def SoleDefault (t : Table (Scoped GoodsColumns)) : Prop :=
  ∀ g h, Oldest GoodsColumns.stuffId t g → Oldest GoodsColumns.stuffId t h →
    g.isDefault = 1 → h.isDefault ≠ 0 → g = h

section Goods
variable {t : Table (Scoped GoodsColumns)}

theorem memMergedGoods {a : GoodsColumns} : a ∈ (mergedGoods t).rows.map Prod.snd ↔
    ∃ id g, (id,g) ∈ (merged GoodsColumns.stuffId t).rows ∧
      demoted (firstDefault (merged GoodsColumns.stuffId t).rows) id g = a := by
  simp [mergedGoods,Table.updateEach]

theorem firstSome {rows : List (Int × GoodsColumns)} {m : Int} (first : firstDefault rows = some m) :
    ∃ g, (m,g) ∈ rows ∧ g.isDefault = 1 := by
  obtain ⟨⟨j,g⟩,found,rfl⟩ := List.mem_map.mp (List.min?_eq_some_iff.mp first).1
  obtain ⟨member,flagged⟩ := List.mem_filter.mp found
  exact ⟨g,member,by simpa using flagged⟩

theorem firstNone {rows : List (Int × GoodsColumns)} (first : firstDefault rows = none) {r : Int × GoodsColumns}
    (member : r ∈ rows) : r.2.isDefault ≠ 1 := by
  have empty := List.map_eq_nil_iff.mp (List.min?_eq_none_iff.mp first)
  simpa using List.filter_eq_nil_iff.mp empty r member

theorem flaggedFirst {m : Int} (first : firstDefault (merged GoodsColumns.stuffId t).rows = some m)
    (all : Survives GoodsColumns.stuffId t ((mergedGoods t).rows.map Prod.snd)) {g : GoodsColumns}
    (oldest : Oldest GoodsColumns.stuffId t g) (flagged : g.isDefault ≠ 0) :
    (m,g) ∈ (merged GoodsColumns.stuffId t).rows := by
  obtain ⟨i,there,_⟩ := id oldest
  obtain ⟨a,found,same,again⟩ := all _ there
  have eq := oldestUnique again oldest same
  subst eq
  obtain ⟨j,h,stored,made⟩ := memMergedGoods.mp found
  rw [first] at made
  simp only [demoted] at made
  split at made
  · rename_i own
    subst own made
    exact stored
  · subst made
    exact absurd rfl flagged

theorem goodsSurvive : Survives GoodsColumns.stuffId t ((mergedGoods t).rows.map Prod.snd) ↔ SoleDefault t := by
  constructor
  · intro all g h hg hh one flagged
    obtain ⟨⟨i,x⟩,member,same⟩ := List.mem_map.mp (memMerged.mpr hg)
    simp only at same
    subst same
    cases first : firstDefault (merged GoodsColumns.stuffId t).rows with
    | none => exact absurd one (firstNone first member)
    | some m =>
      have left := flaggedFirst first all hg (by omega)
      have right := flaggedFirst first all hh flagged
      exact Table.sortedUnique (merged GoodsColumns.stuffId t).sorted left right
  · intro sole r member
    obtain ⟨a,same,oldest⟩ := existsOldest member
    obtain ⟨⟨i,x⟩,stored,eq⟩ := List.mem_map.mp (memMerged.mpr oldest)
    simp only at eq
    subst eq
    refine ⟨x,memMergedGoods.mpr ⟨i,x,stored,?_⟩,same,oldest⟩
    cases first : firstDefault (merged GoodsColumns.stuffId t).rows with
    | none => rfl
    | some m =>
      simp only [demoted]
      split
      · rfl
      · rename_i off
        obtain ⟨y,top,one⟩ := firstSome first
        by_cases flagged : x.isDefault = 0
        · rw [← flagged]
        · have eq := sole y x (memMerged.mp (List.mem_map.mpr ⟨_,top,rfl⟩)) oldest one flagged
          subst eq
          exact absurd (mergedIds stored top) off

theorem goodsSurviveApart : ∀ r ∈ unscoped t, ∃ a ∈ (mergedGoods t).rows.map Prod.snd, ∃ g,
    g.stuffId = r.2.stuffId ∧ Oldest GoodsColumns.stuffId t g ∧ { a with isDefault := g.isDefault } = g := by
  intro r member
  obtain ⟨g,same,oldest⟩ := existsOldest member
  obtain ⟨⟨i,x⟩,stored,eq⟩ := List.mem_map.mp (memMerged.mpr oldest)
  simp only at eq
  subst eq
  refine ⟨_,memMergedGoods.mpr ⟨i,x,stored,rfl⟩,x,same,oldest,?_⟩
  unfold demoted
  split
  · rfl
  · split <;> rfl

end Goods

def Carried (v : V1) (d : Database) : Prop :=
  Survives BuyerColumns.nationalId v.buyers d.buyers.entries ∧
    Survives GoodsColumns.stuffId v.goods d.goods.entries

def CarriedApart (v : V1) (d : Database) : Prop :=
  Survives BuyerColumns.nationalId v.buyers d.buyers.entries ∧
    ∀ r ∈ unscoped v.goods, ∃ a ∈ d.goods.entries, ∃ g, g.stuffId = r.2.stuffId ∧
      Oldest GoodsColumns.stuffId v.goods g ∧ { a with isDefault := g.isDefault } = g

theorem buyersSurvive (v : V1) (k : Nat) :
    Survives BuyerColumns.nationalId v.buyers (reopened v k).buyers.entries ↔
      k = 0 ∨ 9 ≤ k ∨ v.buyers.rows = [] := by
  rcases reopenedCases v k with ⟨whole,same⟩ | ⟨cut,same⟩ <;> rw [same]
  · have all : Survives BuyerColumns.nationalId v.buyers v.upgraded.buyers.entries := mergedSurvives
    simp only [all,true_iff]
    tauto
  · change Survives BuyerColumns.nationalId v.buyers [] ↔ _
    rw [survivesNone]
    constructor
    · exact fun empty => Or.inr (Or.inr empty)
    · rintro (start | done | empty)
      · omega
      · omega
      · exact empty

theorem goodsEntries (v : V1) (k : Nat) :
    (reopened v k).goods.entries = (mergedGoods v.goods).rows.map Prod.snd := by
  rcases reopenedCases v k with ⟨_,same⟩ | ⟨_,same⟩ <;> rw [same] <;> rfl

theorem interruptedUpgrade (v : V1) (k : Nat) :
    (CarriedApart v (reopened v k) ↔ k = 0 ∨ 9 ≤ k ∨ v.buyers.rows = []) ∧
      (Carried v (reopened v k) ↔ (k = 0 ∨ 9 ≤ k ∨ v.buyers.rows = []) ∧ SoleDefault v.goods) := by
  unfold CarriedApart Carried
  rw [buyersSurvive,goodsEntries,goodsSurvive]
  exact ⟨and_iff_left goodsSurviveApart,Iff.rfl⟩

def oneBuyer : V1 :=
  ⟨Table.empty.insert ⟨"main",{ name := "A", nationalId := "10100302746", createdAt := "2026-01-01" }⟩,
    .empty,none,some "1"⟩

theorem buyerLost : ¬ Carried oneBuyer (reopened oneBuyer 1) := by
  have none : (reopened oneBuyer 1).buyers.entries = [] := rfl
  intro carried
  rw [Carried,none,survivesNone] at carried
  cases carried.1

end Moadian.Migration
