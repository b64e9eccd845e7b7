import Moadian.Store.Interruption

/-! What the completed upgrade has made of the v1 catalogues: one row for each
identifier, that of the oldest v1 row. -/
namespace Moadian.Migration

section Rows
variable {α : Type} {key : α → String} {t : Table (Scoped α)}

theorem mergedApart {r q : Int × α} (left : r ∈ (merged key t).rows) (right : q ∈ (merged key t).rows)
    (same : key r.2 = key q.2) : r = q := by
  obtain ⟨i,a⟩ := r
  obtain ⟨j,b⟩ := q
  have eq : a = b := oldestUnique (memMerged.mp (List.mem_map.mpr ⟨_,left,rfl⟩))
    (memMerged.mp (List.mem_map.mpr ⟨_,right,rfl⟩)) same
  subst eq
  rw [mergedIds left right]

structure MergedInto (key : α → String) (t : Table (Scoped α)) (rows : List (Int × α)) (from_ : α → α → Prop) : Prop where
  one : ∀ r ∈ unscoped t, ∃! row, row ∈ rows ∧ key row.2 = key r.2
  oldest : ∀ row ∈ rows, ∃ a, Oldest key t a ∧ key a = key row.2 ∧ from_ a row.2

theorem mergedInto : MergedInto key t (merged key t).rows (fun a b => b = a) where
  one := by
    intro r member
    obtain ⟨a,found,same,_⟩ := mergedSurvives r member
    obtain ⟨row,stored,rfl⟩ := List.mem_map.mp found
    exact ⟨row,⟨stored,same⟩,fun q other => mergedApart other.1 stored (other.2.trans same.symm)⟩
  oldest := by
    intro row stored
    exact ⟨row.2,memMerged.mp (List.mem_map.mpr ⟨row,stored,rfl⟩),rfl,rfl⟩

end Rows

def Demoted (g h : GoodsColumns) : Prop := h = g ∨ h = { g with isDefault := 0 }

section Goods
variable {t : Table (Scoped GoodsColumns)}

theorem demotedIs (first : Option Int) (id : Int) (g : GoodsColumns) : Demoted g (demoted first id g) := by
  unfold demoted Demoted
  split
  · exact Or.inl rfl
  · split
    · exact Or.inl rfl
    · exact Or.inr rfl

theorem demotedKey {g h : GoodsColumns} (demoted : Demoted g h) : h.stuffId = g.stuffId := by
  rcases demoted with rfl | rfl <;> rfl

theorem goodsRow {row : Int × GoodsColumns} : row ∈ (mergedGoods t).rows ↔
    ∃ g, (row.1,g) ∈ (merged GoodsColumns.stuffId t).rows ∧
      demoted (firstDefault (merged GoodsColumns.stuffId t).rows) row.1 g = row.2 := by
  obtain ⟨i,h⟩ := row
  simp [mergedGoods,Table.updateEach]

theorem mergedGoodsInto : MergedInto GoodsColumns.stuffId t (mergedGoods t).rows Demoted where
  one := by
    intro r member
    have merges : MergedInto GoodsColumns.stuffId t (merged GoodsColumns.stuffId t).rows (fun a b => b = a) := mergedInto
    obtain ⟨row,⟨stored,same⟩,only⟩ := merges.one r member
    have key := demotedKey (demotedIs (firstDefault (merged GoodsColumns.stuffId t).rows) row.1 row.2)
    refine ⟨(row.1,demoted (firstDefault (merged GoodsColumns.stuffId t).rows) row.1 row.2),
      ⟨goodsRow.mpr ⟨row.2,stored,rfl⟩,key.trans same⟩,?_⟩
    rintro ⟨j,h⟩ ⟨other,own⟩
    obtain ⟨g,found,made⟩ := goodsRow.mp other
    simp only at found made own
    have eq := only (j,g) ⟨found,(demotedKey (made ▸ demotedIs _ _ _)).symm.trans own⟩
    subst eq
    rw [made]
  oldest := by
    intro row stored
    obtain ⟨g,found,made⟩ := goodsRow.mp stored
    have demoted : Demoted g row.2 := made ▸ demotedIs _ _ _
    exact ⟨g,memMerged.mp (List.mem_map.mpr ⟨_,found,rfl⟩),(demotedKey demoted).symm,demoted⟩

theorem flaggedAlone {row : Int × GoodsColumns} (stored : row ∈ (mergedGoods t).rows) (flag : row.2.isDefault = 1) :
    firstDefault (merged GoodsColumns.stuffId t).rows = some row.1 := by
  obtain ⟨g,found,made⟩ := goodsRow.mp stored
  cases first : firstDefault (merged GoodsColumns.stuffId t).rows with
  | none =>
    rw [first] at made
    have same : g = row.2 := made
    exact absurd (same ▸ flag) (firstNone first found)
  | some m =>
    rw [first] at made
    simp only [demoted] at made
    split at made
    · rename_i own
      rw [own]
    · rw [← made] at flag
      cases flag

end Goods

/- At most one goods row is a default, and none is only if no surviving row was one. -/
structure OneDefault (t : Table (Scoped GoodsColumns)) (rows : List (Int × GoodsColumns)) : Prop where
  atMost : ∀ r ∈ rows, ∀ q ∈ rows, r.2.isDefault = 1 → q.2.isDefault = 1 → r = q
  kept : (∃ g, Oldest GoodsColumns.stuffId t g ∧ g.isDefault = 1) → ∃ r ∈ rows, r.2.isDefault = 1

theorem oneDefault (t : Table (Scoped GoodsColumns)) : OneDefault t (mergedGoods t).rows where
  atMost := by
    rintro ⟨i,g⟩ left ⟨j,h⟩ right flag flag'
    have same := (flaggedAlone left flag).symm.trans (flaggedAlone right flag')
    cases Option.some.inj same
    rw [Table.sortedUnique (mergedGoods t).sorted left right]
  kept := by
    rintro ⟨g,oldest,flag⟩
    obtain ⟨row,stored,rfl⟩ := List.mem_map.mp (memMerged.mpr oldest)
    cases first : firstDefault (merged GoodsColumns.stuffId t).rows with
    | none => exact absurd flag (firstNone first stored)
    | some m =>
      obtain ⟨h,top,one⟩ := firstSome first
      exact ⟨(m,h),goodsRow.mpr ⟨h,top,by rw [first]; simp [demoted]⟩,one⟩

def Catalogue.rows {α : Type} (c : Catalogue α) : List (Int × α) :=
  match c.table with
  | none => []
  | some t => t.rows

theorem completedUpgrade (v : V1) :
    let d := openStore v.database 9
    MergedInto BuyerColumns.nationalId v.buyers d.buyers.rows (fun a b => b = a) ∧
    MergedInto GoodsColumns.stuffId v.goods d.goods.rows Demoted ∧ OneDefault v.goods d.goods.rows ∧
    (∀ store, v.invoices = some store → d.invoices = some store) ∧ ∀ left, openStore d left = d := by
  have whole := openWhole v (Nat.le_refl 9)
  simp only [whole]
  refine ⟨mergedInto,mergedGoodsInto,oneDefault v.goods,?_,fun _ => rfl⟩
  intro store there
  simp [V1.upgraded,there]

end Moadian.Migration
