import Moadian.Firsts
import Moadian.Store.Catalogue

/-! `replace_all`, whatever the iterator and the database do: all of it or nothing, and
the index entry for entry the table. -/
namespace Moadian.Catalogue
open Block
variable {E : Type} (u : Persian.Spelling)

structure Replaced (rows : List CatalogueRow) (d : Database) : Prop where
  stored : d.catalogue.rows.map Prod.snd = firsts clash (rows.map bind)
  index : d.index = d.catalogue.rows.map (fun r => (r.1,indexed u r.2))

theorem clashTrans {p q r : CatalogueRow} (left : clash p q = true) (right : clash q r = true) : clash p r = true := by
  simp only [clash,Bool.and_eq_true,decide_eq_true_eq] at left right ⊢
  obtain ⟨⟨code,date⟩,rate⟩ := left
  obtain ⟨⟨code',date'⟩,rate'⟩ := right
  refine ⟨⟨code.trans code',?_⟩,Sqlite.sameSomeTrans Sqlite.sameReal Sqlite.sameRealTrans rate rate'⟩
  refine Sqlite.sameSomeTrans _ (fun {x y z} first second => ?_) date date'
  rw [decide_eq_true_eq] at first second ⊢
  exact first.trans second

theorem insertedRows (row : CatalogueRow) {t : Table CatalogueRow} {rows : List CatalogueRow}
    (stored : t.rows.map Prod.snd = firsts clash rows) :
    (insertOrIgnore row t).rows.map Prod.snd = firsts clash (rows ++ [row]) := by
  have met : t.rows.any (fun q => clash q.2 row) = rows.any (fun q => clash q row) := by
    rw [← firstsAny clash clashTrans rows row,← stored,List.any_map]
    rfl
  rw [firstsSnoc,← stored,insertOrIgnore,met]
  cases rows.any (fun q => clash q row) with
  | true => simp [Table.skip]
  | false => simp [Table.insert]

def Inserting (seen : List (Except E CatalogueRow)) (d : Database) : Prop :=
  ∃ rows : List CatalogueRow, seen = rows.map .ok ∧ d.catalogue.rows.map Prod.snd = firsts clash (rows.map bind) ∧ d.index = []

theorem insertEnds (items : List (Except E CatalogueRow)) :
    Ends (Inserting ([] : List (Except E CatalogueRow))) (forEach insertItem items) (fun _ => Inserting items) := by
  refine endsForEach Inserting (fun seen item => ?_) []
  cases item with
  | error e => exact endsThrow e
  | ok row =>
    show Ends (Inserting seen) (statement (insertRow row)) _
    refine endsStatement (fun d a after before made => ?_)
    obtain ⟨rows,same,stored,bare⟩ := before
    cases made
    refine ⟨rows ++ [row],by rw [same,List.map_append]; rfl,?_,bare⟩
    rw [List.map_append]
    exact insertedRows (bind row) stored

-- While they are indexed, the table stands still.
def Indexing (t : Table CatalogueRow) (seen : List (Int × CatalogueRow)) (d : Database) : Prop :=
  d.catalogue = t ∧ d.index = seen.map (fun r => (r.1,indexed u r.2))

theorem batchEnds (t : Table CatalogueRow) (seen batch : List (Int × CatalogueRow)) :
    Ends (E := E) (Indexing u t seen) (forEach (fun row => statement (insertIndex u row)) batch)
      (fun _ => Indexing u t (seen ++ batch)) := by
  refine endsForEach (Indexing u t) (fun seen row => endsStatement (fun d a after before made => ?_)) seen
  obtain ⟨still,index⟩ := before
  cases made
  exact ⟨still,by rw [index,List.map_append]; rfl⟩

theorem indexEnds (t : Table CatalogueRow) (batches : List (List (Int × CatalogueRow))) :
    Ends (E := E) (Indexing u t []) (forEach (forEach (fun row => statement (insertIndex u row))) batches)
      (fun _ => Indexing u t batches.flatten) := by
  refine endsForEach (fun seen => Indexing u t seen.flatten) (fun seen batch => ?_) []
  rw [List.flatten_append,List.flatten_singleton]
  exact batchEnds u t seen.flatten batch

theorem sameEnds {A : Type} {P : Table CatalogueRow → List (Int × String) → Prop}
    {effect : Database → Except E (A × Database)}
    (still : ∀ d, ∃ a after, effect d = .ok (a,after) ∧ after.catalogue = d.catalogue ∧ after.index = d.index) :
    Ends (fun d => P d.catalogue d.index) (statement effect) (fun _ d => P d.catalogue d.index) := by
  refine endsStatement (fun d a after held made => ?_)
  obtain ⟨_,_,ended,table,index⟩ := still d
  rw [ended] at made
  cases made
  rw [table,index]
  exact held

theorem replaceEnds (now source : String) (items : List (Except E CatalogueRow)) :
    Ends (fun _ => True) (replaceBody u now source items)
      (fun _ d => ∃ rows, items = rows.map .ok ∧ Replaced u rows d) := by
  let Done (t : Table CatalogueRow) (index : List (Int × String)) : Prop :=
    ∃ rows : List CatalogueRow, items = rows.map .ok ∧ t.rows.map Prod.snd = firsts clash (rows.map bind) ∧
      index = t.rows.map (fun r => (r.1,indexed u r.2))
  refine endsBind (Q := fun _ d => d.index = []) (endsStatement ?_) (fun _ => ?_)
  · intro d a after _ made
    cases made
    rfl
  refine endsBind (Q := fun _ => Inserting ([] : List (Except E CatalogueRow))) (endsStatement ?_) (fun _ => ?_)
  · intro d a after bare made
    cases made
    exact ⟨[],rfl,rfl,bare⟩
  refine endsBind (insertEnds items) (fun _ => ?_)
  refine endsBind (Q := fun reader d => Inserting items d ∧ reader = d.catalogue.rows) (endsStatement ?_)
    (fun reader => ?_)
  · intro d a after inserted made
    cases made
    exact ⟨inserted,rfl⟩
  refine endsBind (Q := fun _ d => Done d.catalogue d.index) ?_ (fun _ => ?_)
  · intro d faults a after later read ran
    obtain ⟨⟨rows,same,stored,bare⟩,all⟩ := read
    obtain ⟨still,index⟩ := indexEnds u d.catalogue (slices 5000 reader) d faults a after later ⟨rfl,bare⟩ ran
    rw [slicesFlatten (by decide),all] at index
    exact ⟨rows,same,by rw [still]; exact stored,by rw [still]; exact index⟩
  refine endsBind (sameEnds (P := Done) (fun d => ⟨_,_,rfl,rfl,rfl⟩)) (fun _ => ?_)
  refine endsBind (sameEnds (P := Done) (fun d => ⟨_,_,rfl,rfl,rfl⟩)) (fun n => ?_)
  refine endsBind (sameEnds (P := Done) (fun d => ⟨_,_,rfl,rfl,rfl⟩)) (fun _ => ?_)
  refine endsBind (sameEnds (P := Done) (fun d => ⟨_,_,rfl,rfl,rfl⟩)) (fun _ => ?_)
  refine endsPure (fun d done => ?_)
  obtain ⟨rows,same,stored,index⟩ := done
  exact ⟨rows,same,stored,index⟩

theorem replacedWhole (faults : Faults E) (now source : String) (items : List (Except E CatalogueRow)) (d : Database) :
    (∀ e, (replaceAll u faults now source items d).1 = .error e → (replaceAll u faults now source items d).2 = d) ∧
      ∀ n, (replaceAll u faults now source items d).1 = .ok n →
        ∃ rows, items = rows.map .ok ∧ Replaced u rows (replaceAll u faults now source items d).2 :=
  ⟨fun _ raised => writeRaised raised,fun _ returned => writeEnds faults (replaceEnds u now source items) True.intro returned⟩

end Moadian.Catalogue
