import Moadian.Store.Export

/-! Which codes of an import are still current once it is stored: those that have a
current row before every other row of its code, date and rate. -/
namespace Moadian.Catalogue
open Block
variable (u : Persian.Spelling) (float : String → Option UInt64)

def Ascii (text : String) : Prop := ∀ c ∈ text.toList, c.toNat < 128

instance (text : String) : Decidable (Ascii text) :=
  decidable_of_iff (text.toList.all (fun c => c.toNat < 128) = true) (by simp [Ascii])

def Current (rows : List CatalogueRow) (s : String) : Prop := ∃ r ∈ rows, r.stuffId = s ∧ r.isCurrent = 1

def Leads (rows : List CatalogueRow) (s : String) : Prop :=
  ∃ before r later, rows = before ++ r :: later ∧ r.stuffId = s ∧ r.isCurrent = 1 ∧
    ∀ q ∈ before, clash (bind q) (bind r) = false

def Offered (d : Database) (s : String) : Prop :=
  Current (d.catalogue.rows.map Prod.snd) s ∧ ∃ e, get u.toUnicode d s = some e ∧ e.isCurrent = true

def imported (now source : String) (rows : List CatalogueRow) (d : Database) : Database :=
  (replaceAll u (quiet : Faults ImportError) now source (rows.map .ok) d).2

theorem replaceRuns (now source : String) (rows : List CatalogueRow) :
    Runs (replaceBody u now source (rows.map .ok) : Block Database ImportError Nat) := by
  have one : ∀ effect : Database → Except ImportError (Unit × Database), (∀ d, ∃ a after, effect d = .ok (a,after)) →
      Runs (statement effect) := fun _ works => runsStatement works
  refine runsBind (one _ (fun d => ⟨_,_,rfl⟩)) (fun _ => runsBind (one _ (fun d => ⟨_,_,rfl⟩)) (fun _ => ?_))
  refine runsBind (runsForEach ?_) (fun _ => runsBind (runsStatement (fun d => ⟨_,_,rfl⟩)) (fun reader => ?_))
  · intro item member
    obtain ⟨row,_,rfl⟩ := List.mem_map.mp member
    exact runsStatement (fun d => ⟨_,_,rfl⟩)
  refine runsBind (runsForEach (fun batch _ => runsForEach (fun row _ => runsStatement (fun d => ⟨_,_,rfl⟩)))) (fun _ => ?_)
  refine runsBind (one _ (fun d => ⟨_,_,rfl⟩)) (fun _ => runsBind (runsStatement (fun d => ⟨_,_,rfl⟩)) (fun n => ?_))
  exact runsBind (one _ (fun d => ⟨_,_,rfl⟩)) (fun _ => runsBind (one _ (fun d => ⟨_,_,rfl⟩)) (fun _ => runsPure n))

theorem importedRows (now source : String) (rows : List CatalogueRow) (d : Database) :
    (imported u now source rows d).catalogue.rows.map Prod.snd = firsts clash (rows.map bind) := by
  obtain ⟨n,returned⟩ := writeRuns (replaceRuns u now source rows) d
  obtain ⟨rows',same,replaced⟩ := writeEnds quiet (replaceEnds u now source (rows.map .ok)) True.intro returned
  have own : rows = rows' := List.map_injective_iff.mpr (fun a b eq => Except.ok.inj eq) same
  subst own
  exact replaced.stored

theorem currentImported (now source : String) (rows : List CatalogueRow) (d : Database) (s : String) :
    Current ((imported u now source rows d).catalogue.rows.map Prod.snd) s ↔ Leads rows s := by
  rw [importedRows]
  constructor
  · intro current
    obtain ⟨r,member,code,flag⟩ := current
    obtain ⟨before,later,whole,alone⟩ := (memFirsts clash).mp member
    obtain ⟨front,back,rfl,rfl,rest⟩ := List.map_eq_append_iff.mp whole
    obtain ⟨own,tail,rfl,rfl,rfl⟩ := List.map_eq_cons_iff.mp rest
    exact ⟨front,own,tail,rfl,code,flag,fun q inside => alone (bind q) (List.mem_map_of_mem inside)⟩
  · intro leads
    obtain ⟨before,r,later,rfl,code,flag,alone⟩ := leads
    refine ⟨bind r,(memFirsts clash).mpr ⟨before.map bind,later.map bind,by simp,?_⟩,code,flag⟩
    intro q member
    obtain ⟨own,inside,rfl⟩ := List.mem_map.mp member
    exact alone own inside

theorem leadingMost {rows : List CatalogueRow} {r : CatalogueRow} (member : r ∈ rows) :
    ∃ b, leading rows = some b ∧ b ∈ rows ∧ r.isCurrent ≤ b.isCurrent := by
  suffices whole : (rows = [] ∧ leading rows = none) ∨
      ∃ b, leading rows = some b ∧ b ∈ rows ∧ ∀ r ∈ rows, r.isCurrent ≤ b.isCurrent by
    obtain ⟨rfl,_⟩ | ⟨b,found,inside,most⟩ := whole
    · cases member
    · exact ⟨b,found,inside,most r member⟩
  clear member
  induction rows using List.reverseRecOn with
  | nil => exact .inl ⟨rfl,rfl⟩
  | append_singleton rows x ih =>
    right
    obtain ⟨rfl,_⟩ | ⟨b,found,inside,most⟩ := ih
    · exact ⟨x,rfl,by simp,by simp⟩
    · have last : leading (rows ++ [x]) = if ahead x b then some x else some b := by
        unfold leading at found ⊢
        rw [List.foldl_append,found]
        rfl
      rw [last]
      cases over_ : ahead x b with
      | true =>
        refine ⟨x,rfl,by simp,fun r there => ?_⟩
        simp only [ahead,Bool.or_eq_true,Bool.and_eq_true,decide_eq_true_eq] at over_
        obtain old | new := List.mem_append.mp there
        · have := most r old; omega
        · rw [List.mem_singleton.mp new]
      | false =>
        refine ⟨b,rfl,List.mem_append_left _ inside,fun r there => ?_⟩
        simp only [ahead,Bool.or_eq_false_iff,decide_eq_false_iff_not] at over_
        obtain old | new := List.mem_append.mp there
        · exact most r old
        · rw [List.mem_singleton.mp new]; omega

theorem plainDigits {s : String} (ascii : Ascii s) (ends : stripped s = s) : Persian.foldDigits u.toUnicode s = s := by
  have kept : ∀ c ∈ s.toList, Persian.digit c = c := by
    intro c member
    have small := ascii c member
    unfold Persian.digit
    rw [if_neg (by omega),if_neg (by omega)]
  unfold Persian.foldDigits
  split
  · rename_i blank; exact blank.symm
  · rw [u.plain s ascii,Persian.translated,List.map_congr_left kept,List.map_id',String.ofList_toList]
    exact ends

structure Read (r : CatalogueRow) : Prop where
  ends : stripped r.stuffId = r.stuffId
  flag : r.isCurrent = 0 ∨ r.isCurrent = 1

theorem readRowRead {row : DictRow} {r : CatalogueRow} (made : readRow float row = some r) : Read r := by
  unfold readRow at made
  dsimp only at made
  split at made
  · cases made
  · cases made
    refine ⟨?_,?_⟩
    · show String.ofList (RuleEngine.strip (stripped _)) = _
      exact congrArg String.ofList (Persian.stripTwice _)
    · show (if _ then (0 : Int) else 1) = 0 ∨ (if _ then (0 : Int) else 1) = 1
      split
      · exact .inl rfl
      · exact .inr rfl

theorem offeredCurrent {d : Database} {s : String} (ascii : Ascii s)
    (sound : ∀ r ∈ d.catalogue.rows.map Prod.snd, Read r) :
    Offered u d s ↔ Current (d.catalogue.rows.map Prod.snd) s := by
  constructor
  · intro offered
    exact offered.1
  · intro current
    obtain ⟨r,member,code,flag⟩ := current
    refine ⟨⟨r,member,code,flag⟩,?_⟩
    have same : Persian.foldDigits u.toUnicode s = s := plainDigits u ascii (code ▸ (sound r member).ends)
    obtain ⟨⟨id,own⟩,stored,rfl⟩ := List.mem_map.mp member
    have selected : own ∈ (d.catalogue.select (fun row => row.stuffId = s)).map Prod.snd :=
      List.mem_map.mpr ⟨(id,own),List.mem_filter.mpr ⟨stored,decide_eq_true code⟩,rfl⟩
    obtain ⟨b,found,inside,most⟩ := leadingMost selected
    refine ⟨entry b,?_,?_⟩
    · rw [get,same,found]
      rfl
    · have positive : b.isCurrent ≠ 0 := by
        have one : own.isCurrent = 1 := flag
        omega
      exact decide_eq_true positive

theorem importedRead (now source : String) (csv : List DictRow) (d : Database) :
    ∀ r ∈ (imported u now source (csv.filterMap (readRow float)) d).catalogue.rows.map Prod.snd, Read r := by
  intro r member
  rw [importedRows] at member
  obtain ⟨before,later,whole,_⟩ := (memFirsts clash).mp member
  have there : r ∈ (csv.filterMap (readRow float)).map bind := by rw [whole]; simp
  obtain ⟨own,inside,rfl⟩ := List.mem_map.mp there
  obtain ⟨row,_,made⟩ := List.mem_filterMap.mp inside
  have read := readRowRead float made
  exact ⟨read.ends,read.flag⟩

theorem currentCodesKept (now source : String) (csv : List DictRow) (d : Database) :
    (∀ s, Ascii s → Current (csv.filterMap (readRow float)) s →
        Offered u (imported u now source (csv.filterMap (readRow float)) d) s) ↔
      ∀ s, Ascii s → Current (csv.filterMap (readRow float)) s → Leads (csv.filterMap (readRow float)) s := by
  have each : ∀ s, Ascii s → (Offered u (imported u now source (csv.filterMap (readRow float)) d) s ↔
      Leads (csv.filterMap (readRow float)) s) := fun s ascii =>
    (offeredCurrent u ascii (importedRead u float now source csv d)).trans (currentImported u now source _ d s)
  constructor
  · intro offers s ascii current
    exact (each s ascii).mp (offers s ascii current)
  · intro leads s ascii current
    exact (each s ascii).mpr (leads s ascii current)

namespace Example

def superseded : DictRow :=
  [("ID",some "2330009999999"),("DescriptionOfID",some "خدمات مشاوره مدیریت"),("Vat",some "9"),("Taxable",some "مشمول"),
    ("RunDate",some "1403-09-04"),("ExpirationDate",some "1405-07-01"),("Type",some "شناسه اختصاصی خدمت")]

def inForce : DictRow :=
  [("ID",some "2330009999999"),("DescriptionOfID",some "خدمات مشاوره مدیریت/سایر"),("Vat",some "9"),
    ("Taxable",some "مشمول"),("RunDate",some "1403-09-04"),("ExpirationDate",some ""),("Type",some "شناسه اختصاصی خدمت")]

def nine (text : String) : Option UInt64 := if text = "9" then some 0x4022000000000000 else none

def unloaded : Database := ⟨.empty,[],none,none⟩

end Example

open Moadian.Catalogue.Example in
theorem currentCodeLost : ¬ ∀ (u : Persian.Spelling) (float : String → Option UInt64) (now source : String)
    (csv : List DictRow) (d : Database) (s : String), Ascii s → Current (csv.filterMap (readRow float)) s →
      Offered u (imported u now source (csv.filterMap (readRow float)) d) s := by
  intro claim
  have current : Current ([superseded,inForce].filterMap (readRow nine)) "2330009999999" := by
    unfold Current
    decide +kernel
  have offered := (claim Persian.Example.verbatim nine "" "" [superseded,inForce] unloaded "2330009999999"
    (by decide +kernel) current).1
  rw [importedRows] at offered
  revert offered
  unfold Current
  decide +kernel

end Moadian.Catalogue
