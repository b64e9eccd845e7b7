import Moadian.Store.Migration

/-! What `_migrate` makes of a v1 database, run whole or cut at any statement. -/
namespace Moadian.Migration
open Connection

section Merge
variable {α : Type} {key : α → String} {rows : List (Int × α)}

theorem memMinIds {id : Int} : id ∈ minIds key rows ↔ ∃ r ∈ rows,
    (∃ q ∈ rows, key q.2 = key r.2 ∧ q.1 = id) ∧ ∀ q ∈ rows, key q.2 = key r.2 → id ≤ q.1 := by
  simp only [minIds,List.mem_filterMap,List.min?_eq_some_iff,List.mem_map,List.mem_filter,decide_eq_true_eq]
  constructor
  · rintro ⟨r,hr,⟨q,⟨hq,same⟩,own⟩,least⟩
    exact ⟨r,hr,⟨q,hq,same,own⟩,fun p hp eq => least _ ⟨p,⟨hp,eq⟩,rfl⟩⟩
  · rintro ⟨r,hr,⟨q,hq,same,own⟩,least⟩
    refine ⟨r,hr,⟨q,⟨hq,same⟩,own⟩,?_⟩
    rintro b ⟨p,⟨hp,eq⟩,rfl⟩
    exact least p hp eq

theorem memKept (sorted : rows.Pairwise (fun a b => a.1 < b.1)) {id : Int} {a : α} :
    (id,a) ∈ kept key rows ↔ (id,a) ∈ rows ∧ ∀ r ∈ rows, key r.2 = key a → id ≤ r.1 := by
  simp only [kept,List.mem_filter,decide_eq_true_eq,memMinIds]
  constructor
  · rintro ⟨member,r,_,⟨⟨j,b⟩,hq,same,own⟩,least⟩
    simp only at own same
    subst own
    have eq := Table.sortedUnique sorted member hq
    subst eq
    exact ⟨member,fun p hp eq => least p hp (eq.trans same)⟩
  · rintro ⟨member,least⟩
    exact ⟨member,(id,a),member,⟨(id,a),member,rfl,rfl⟩,least⟩

theorem keptApart (sorted : rows.Pairwise (fun a b => a.1 < b.1)) :
    ((kept key rows).map Prod.snd).Pairwise (fun a b => key a ≠ key b) := by
  refine List.pairwise_map.mpr ((sorted.sublist List.filter_sublist).imp_of_mem ?_)
  rintro ⟨i,a⟩ ⟨j,b⟩ left right below same
  have least := ((memKept sorted).mp right).2 (i,a) ((memKept sorted).mp left).1 same
  simp only at below least
  omega

theorem insertedRows (as : List α) (t : Table α) :
    (as.foldl Table.insert t).rows.map Prod.snd = t.rows.map Prod.snd ++ as := by
  induction as generalizing t with
  | nil => simp
  | cons a rest ih =>
    rw [List.foldl_cons,ih]
    simp [Table.insert]

theorem insertAll {as : List α} {t : Table α} (apart : as.Pairwise (fun a b => key a ≠ key b))
    (fresh : ∀ r ∈ t.rows, ∀ a ∈ as, key r.2 ≠ key a) :
    as.foldlM (insertRow key) t = .ok (as.foldl Table.insert t) := by
  induction as generalizing t with
  | nil => rfl
  | cons a rest ih =>
    obtain ⟨off,apart⟩ := List.pairwise_cons.mp apart
    have unused : t.rows.any (fun r => key r.2 = key a) = false := by
      simp only [List.any_eq_false,decide_eq_true_eq]
      exact fun r hr => fresh r hr a List.mem_cons_self
    simp only [List.foldlM_cons,insertRow,unused,List.foldl_cons]
    refine ih apart ?_
    intro r member b hb
    rcases List.mem_append.mp member with old | new
    · exact fresh r old b (List.mem_cons_of_mem _ hb)
    · cases List.mem_singleton.mp new; exact off b hb

end Merge

section Tables
variable {α : Type}

theorem unscopedSorted (t : Table (Scoped α)) : (unscoped t).Pairwise (fun a b => a.1 < b.1) :=
  List.pairwise_map.mpr t.sorted

def merged (key : α → String) (t : Table (Scoped α)) : Table α :=
  ((kept key (unscoped t)).map Prod.snd).foldl Table.insert .empty

theorem copied (key : α → String) (t : Table (Scoped α)) :
    copy key ⟨some (.v2 .empty),some (.v1 t)⟩ = .ok ⟨some (.v2 (merged key t)),some (.v1 t)⟩ := by
  have all : ((kept key (unscoped t)).map Prod.snd).foldlM (insertRow key) Table.empty = .ok (merged key t) :=
    insertAll (keptApart (unscopedSorted t)) (by intro r member; cases member)
  simp only [copy,Layout.insertRows,Layout.rows,all]
  rfl

theorem mergedEntries (key : α → String) (t : Table (Scoped α)) :
    (merged key t).rows.map Prod.snd = (kept key (unscoped t)).map Prod.snd := by
  rw [merged,insertedRows]
  rfl

theorem memMerged {key : α → String} {t : Table (Scoped α)} {a : α} :
    a ∈ (merged key t).rows.map Prod.snd ↔ ∃ id, (id,a) ∈ unscoped t ∧
      ∀ r ∈ unscoped t, key r.2 = key a → id ≤ r.1 := by
  rw [mergedEntries]
  simp only [List.mem_map,Prod.exists,exists_eq_right,memKept (unscopedSorted t)]

end Tables

section Runs
variable {b : Table (Scoped BuyerColumns)} {g : Table (Scoped GoodsColumns)}

def mergedGoods (g : Table (Scoped GoodsColumns)) : Table GoodsColumns :=
  (merged GoodsColumns.stuffId g).updateEach (demoted (firstDefault (merged GoodsColumns.stuffId g).rows))

theorem buyersReplay {d : Database} (old : d.buyers = ⟨some (.v1 b),none⟩) :
    replay buyerStatements d = .ok { d with buyers := ⟨some (.v2 (merged BuyerColumns.nationalId b)),none⟩ } := by
  have made := copied BuyerColumns.nationalId b
  obtain ⟨buyers,goods,invoices,version⟩ := d
  subst old
  simp only [replay,buyerStatements,List.foldlM_cons,List.foldlM_nil,onBuyers,rename,create,created,drop,
    Except.map,bind,Except.bind,made]
  rfl

theorem goodsReplay {d : Database} (old : d.goods = ⟨some (.v1 g),none⟩) :
    replay goodsStatements d = .ok { d with goods := ⟨some (.v2 (mergedGoods g)),none⟩ } := by
  have made := copied GoodsColumns.stuffId g
  obtain ⟨buyers,goods,invoices,version⟩ := d
  subst old
  simp only [replay,goodsStatements,List.foldlM_cons,List.foldlM_nil,onGoods,rename,create,created,drop,demote,
    Except.map,bind,Except.bind,made]
  rfl

-- The test on `goods` sees what the statements on `buyers` left.
theorem migrateBoth {c : Connection Database} (buyers : c.seen.buyers = ⟨some (.v1 b),none⟩)
    (goods : c.seen.goods = ⟨some (.v1 g),none⟩) :
    migrate c = executeAll (buyerStatements ++ goodsStatements) c := by
  rw [executeAllAppend]
  change migrateBuyers c >>= migrateGoods = _
  rw [migrateBuyers,if_pos (by rw [buyers]; rfl)]
  cases first : executeAll buyerStatements c with
  | error stop => rfl
  | ok d =>
    have left := runSeen first
    rw [buyersReplay buyers] at left
    have same : d.seen.goods = ⟨some (.v1 g),none⟩ := by rw [← Except.ok.inj left]; exact goods
    change migrateGoods d = executeAll goodsStatements d
    rw [migrateGoods,if_pos (by rw [same]; rfl)]

theorem bothReplay {d : Database} (buyers : d.buyers = ⟨some (.v1 b),none⟩)
    (goods : d.goods = ⟨some (.v1 g),none⟩) : replay (buyerStatements ++ goodsStatements) d =
      .ok { d with buyers := ⟨some (.v2 (merged BuyerColumns.nationalId b)),none⟩,
                   goods := ⟨some (.v2 (mergedGoods g)),none⟩ } := by
  rw [replayAppend,buyersReplay buyers]
  exact goodsReplay goods

end Runs

def V1.upgraded (v : V1) : Database :=
  ⟨⟨some (.v2 (merged BuyerColumns.nationalId v.buyers)),none⟩,⟨some (.v2 (mergedGoods v.goods)),none⟩,
    some (v.invoices.getD .empty),some "2"⟩

-- The first two statements are committed before the third opens the transaction.
def V1.cut (v : V1) : Nat → Database
  | 0 => v.database
  | 1 => { v.database with buyers := ⟨none,some (.v1 v.buyers)⟩ }
  | _ => { v.database with buyers := ⟨some (.v2 .empty),some (.v1 v.buyers)⟩ }

theorem openWhole (v : V1) {k : Nat} (enough : 9 ≤ k) : openStore v.database k = v.upgraded := by
  have ok := bothReplay (d := v.database) rfl rfl
  obtain ⟨c,ran,last⟩ := runWhole (c := ⟨v.database,none,k⟩) ok enough
  rw [openStore,migrateBoth (b := v.buyers) (g := v.goods) rfl rfl,ran]
  simp only [last]
  rfl

theorem openCut (v : V1) {k : Nat} (short : k < 9) : openStore v.database k = v.cut k := by
  have ok := bothReplay (d := v.database) rfl rfl
  obtain ⟨stop,s,ran,leading⟩ := cutDurable (c := ⟨v.database,none,k⟩) rfl ok short
  rw [openStore,migrateBoth (b := v.buyers) (g := v.goods) rfl rfl,ran]
  match k,leading with
  | 0,leading => exact (Except.ok.inj leading).symm
  | 1,leading => exact (Except.ok.inj leading).symm
  | 2,leading => exact (Except.ok.inj leading).symm
  | k+3,leading => exact (Except.ok.inj leading).symm

theorem openGoods {d : Database} {g : Table (Scoped GoodsColumns)} (buyers : d.buyers.scoped = false)
    (goods : d.goods = ⟨some (.v1 g),none⟩) :
    openStore d 9 = schema { d with goods := ⟨some (.v2 (mergedGoods g)),none⟩ } := by
  obtain ⟨c,ran,last⟩ := runWhole (c := ⟨d,none,9⟩) (goodsReplay goods)
    (by simp [goodsStatements])
  have skipped : migrate ⟨d,none,9⟩ = .ok c := by
    change migrateBuyers _ >>= migrateGoods = _
    rw [migrateBuyers,if_neg (by simpa [seen] using buyers)]
    change migrateGoods _ = _
    rw [migrateGoods,if_pos (by simp [seen,goods,Catalogue.scoped])]
    exact ran
  rw [openStore,skipped]
  simp only [last]
  rfl

theorem openTwice (v : V1) : openStore v.upgraded 9 = v.upgraded := rfl

theorem reopenedCases (v : V1) (k : Nat) :
    (k = 0 ∨ 9 ≤ k) ∧ reopened v k = v.upgraded ∨
      (0 < k ∧ k < 9) ∧ reopened v k = { v.upgraded with buyers := ⟨some (.v2 .empty),some (.v1 v.buyers)⟩ } := by
  unfold reopened
  by_cases short : k < 9
  · rw [openCut v short]
    match k with
    | 0 => exact Or.inl ⟨Or.inl rfl,openWhole v (Nat.le_refl 9)⟩
    | 1 => exact Or.inr ⟨⟨by omega,short⟩,openGoods rfl rfl⟩
    | k+2 => exact Or.inr ⟨⟨by omega,short⟩,openGoods rfl rfl⟩
  · rw [openWhole v (by omega)]
    exact Or.inl ⟨Or.inr (by omega),openTwice v⟩

end Moadian.Migration
