import Moadian.Csv
import Moadian.Store.CurrentCodes
import Moadian.Store.Search

/-! `tools/import_catalogue.py`, from the text of the export to what the catalogue offers. -/
namespace Moadian.Catalogue
open Block

def fieldSizeLimit : Nat := 10 * 1024 * 1024

-- A row of a `DictReader`: of two columns of one name the later counts, and a short row leaves the last without a value.
def dictRow (fieldnames cells : List String) : DictRow :=
  ((fieldnames.zip cells).map (fun p : String × String => (p.1,some p.2)) ++ (fieldnames.drop cells.length).map (fun name => (name,none))).reverse

def withoutMark : List Char → List Char
  | '\uFEFF' :: rest => rest
  | text => text

def record : Except String (List (List Char)) → Except ImportError (List String)
  | .error e => .error (.reading e)
  | .ok cells => .ok (cells.map String.ofList)

def dictItem (fieldnames : List String) : Except ImportError (List String) → Option (Except ImportError DictRow)
  | .error e => some (.error e)
  | .ok [] => none
  | .ok cells => some (.ok (dictRow fieldnames cells))

def openFile (name text : String) : ExportFile :=
  match (Csv.parse fieldSizeLimit (withoutMark text.toList)).map record with
  | [] => ⟨name,.ok none,[]⟩
  | .error e :: _ => ⟨name,.error e,[]⟩
  | .ok fieldnames :: rest => ⟨name,.ok (some fieldnames),rest.filterMap (dictItem fieldnames)⟩

structure Status where
  total : Nat
  current : Nat
  superseded : Nat
  importedAt : Option String
  source : Option String
  empty : Bool
  deriving DecidableEq, Repr

def status (d : Database) : Status :=
  let total := d.catalogue.rows.length
  let current := (d.catalogue.select (fun row => row.isCurrent = 1)).length
  ⟨total,current,total - current,d.importedAt,d.source.filter (· ≠ ""),total = 0⟩

structure Argument where
  name : String
  text : Option String

inductive Ended where
  | exit (code : Nat)
  | raised (e : ImportError)
  deriving DecidableEq, Repr

def main (u : Persian.Spelling) (float : String → Option UInt64) (ranked : Fts5.Query → List (Int × String) → List Int)
    (faults : Faults ImportError) (now : String) (csv : List Argument) (d : Database) : Ended × Database :=
  if csv.any (fun path => path.text.isNone) then (.exit 1,d)
  else
    let rows := read float (csv.map (fun path => openFile path.name (path.text.getD "")))
    match replaceAll u faults now (", ".intercalate (csv.map Argument.name)) rows d with
    | (.error e,after) => (.raised e,after)
    | (.ok written,after) =>
      if written = 0 then (.exit 1,after)
      else match search u ranked after "خدمات" 1 with
        | .error e => (.raised (.database e),after)
        | .ok sample => (.exit (if sample = [] then 1 else 0),after)

/-! A part of the export, as whoever writes it has it: the names of its columns, and rows. -/

structure Sheet where
  name : String
  header : List String
  rows : List (List String)

def cells (row : List String) : List (List Char) := row.map String.toList

structure Sheet.Saved (sheet : Sheet) (text : String) : Prop where
  written : Csv.Written ((sheet.header :: sheet.rows).map cells) (withoutMark text.toList)
  short : ∀ row ∈ sheet.header :: sheet.rows, ∀ cell ∈ row, cell.length ≤ fieldSizeLimit

def Sheet.Complete (sheet : Sheet) : Prop := ∀ name ∈ required, name ∈ sheet.header

def Sheet.described (float : String → Option UInt64) (sheet : Sheet) : List CatalogueRow :=
  (sheet.rows.map (dictRow sheet.header)).filterMap (readRow float)

structure Part where
  sheet : Sheet
  text : String
  saved : sheet.Saved text

def Part.argument (part : Part) : Argument := ⟨part.sheet.name,some part.text⟩

def described (float : String → Option UInt64) (parts : List Part) : List CatalogueRow :=
  parts.flatMap (fun part => part.sheet.described float)

/-! Reading the parts. -/

section Reading
variable {float : String → Option UInt64}

theorem recordCells (row : List String) : record (.ok (cells row)) = .ok row := by
  rw [record,cells,List.map_map]
  congr 1
  exact List.map_id'' (fun text => String.ofList_toList) row

theorem dictItems (fieldnames : List String) {rows : List (List String)} (some_ : ∀ row ∈ rows, row ≠ []) :
    (rows.map .ok).filterMap (dictItem fieldnames) = rows.map (fun row => .ok (dictRow fieldnames row)) := by
  induction rows with
  | nil => rfl
  | cons row rest ih =>
    have item : dictItem fieldnames (.ok row) = some (.ok (dictRow fieldnames row)) := by
      cases row with
      | nil => exact absurd rfl (some_ [] List.mem_cons_self)
      | cons first later => rfl
    rw [List.map_cons,List.filterMap_cons_some item,List.map_cons,ih (fun r member => some_ r (List.mem_cons_of_mem _ member))]

theorem openPart (part : Part) : openFile part.sheet.name part.text =
    ⟨part.sheet.name,.ok (some part.sheet.header),part.sheet.rows.map (fun row => .ok (dictRow part.sheet.header row))⟩ := by
  obtain ⟨sheet,text,written,short⟩ := part
  have parsed : (Csv.parse fieldSizeLimit (withoutMark text.toList)).map record = (sheet.header :: sheet.rows).map .ok := by
    rw [Csv.parseWritten written,List.map_map,List.map_map]
    · exact List.map_congr_left (fun row _ => recordCells row)
    · intro row member cell inside
      obtain ⟨own,there,rfl⟩ := List.mem_map.mp member
      obtain ⟨field,here,rfl⟩ := List.mem_map.mp inside
      exact short own there field here
  have some_ : ∀ row ∈ sheet.rows, row ≠ [] := by
    rintro row member rfl
    exact Csv.writtenSome written [] (List.mem_map.mpr ⟨[],List.mem_cons_of_mem _ member,rfl⟩) rfl
  rw [openFile,parsed,List.map_cons]
  show ExportFile.mk sheet.name (.ok (some sheet.header)) ((sheet.rows.map .ok).filterMap (dictItem sheet.header)) = _
  rw [dictItems sheet.header some_]

theorem requiredFound (part : Part) : required.filter (fun name => name ∉ part.sheet.header) ≠ [] ↔ ¬ part.sheet.Complete := by
  simp only [ne_eq,List.filter_eq_nil_iff,Sheet.Complete,decide_eq_true_eq,not_not]

theorem readComplete {part : Part} (complete : part.sheet.Complete) :
    readFile float (openFile part.sheet.name part.text) = (part.sheet.described float).map .ok := by
  rw [openPart,readFile]
  dsimp only [Option.getD_some]
  have clear : ¬ required.filter (fun name => name ∉ part.sheet.header) ≠ [] := by
    rw [requiredFound,not_not]
    exact complete
  rw [if_neg clear,Sheet.described,List.filterMap_map,List.filterMap_map,List.map_filterMap]
  refine List.filterMap_congr (fun row _ => ?_)
  simp only [Function.comp_apply,readItem]

variable (float) in
theorem readIncomplete {part : Part} (missing : ¬ part.sheet.Complete) :
    ∃ e, readFile float (openFile part.sheet.name part.text) = [.error e] := by
  rw [openPart,readFile]
  dsimp only [Option.getD_some]
  rw [if_pos ((requiredFound part).mpr missing)]
  exact ⟨_,rfl⟩

theorem readParts {parts : List Part} (complete : ∀ part ∈ parts, part.sheet.Complete) :
    read float (parts.map (fun part => openFile part.sheet.name part.text)) = (described float parts).map .ok := by
  rw [read,described,List.flatMap_map,List.map_flatMap]
  exact List.flatMap_congr (fun part member => readComplete (complete part member))

variable (float) in
theorem readMissing {parts : List Part} {part : Part} (member : part ∈ parts) (missing : ¬ part.sheet.Complete) :
    ∃ e, .error e ∈ read float (parts.map (fun part => openFile part.sheet.name part.text)) := by
  obtain ⟨e,stopped⟩ := readIncomplete float missing
  refine ⟨e,List.mem_flatMap.mpr ⟨_,List.mem_map_of_mem member,?_⟩⟩
  rw [stopped]
  exact List.mem_singleton_self _

end Reading

theorem searchAnswers (u : Persian.Spelling) (ranked : Fts5.Query → List (Int × String) → List Int) (d : Database) {query : String}
    (plain : Char.ofNat 0 ∉ query.toList) (limit : Int) : ∃ found, search u ranked d query limit = .ok found := by
  unfold search
  dsimp only
  split
  · exact ⟨_,rfl⟩
  · split
    · exact ⟨_,rfl⟩
    · split
      · exact ⟨_,rfl⟩
      · rename_i some_
        have wordy : Persian.words (Persian.fold u query) ≠ [] := fun none => some_ (if_pos none)
        have parsed := Fts5.parseJoined wordy (fun word inside nul => Persian.foldNul u plain (Persian.wordsPart inside _ nul))
        rw [ftsJoined wordy,parsed]
        exact ⟨_,rfl⟩

/-! The import. -/

structure Holds (u : Persian.Spelling) (rows : List CatalogueRow) (d : Database) : Prop where
  replaced : Replaced u rows d
  counted : (status d).current = ((firsts clash (rows.map bind)).filter (fun row => row.isCurrent = 1)).length ∧
    (status d).current + (status d).superseded = (firsts clash (rows.map bind)).length
  offered : ∀ s, Ascii s → (Offered u d s ↔ Leads rows s)

section Import
variable {u : Persian.Spelling} {float : String → Option UInt64} {parts : List Part}

theorem describedRead (row : CatalogueRow) (member : row ∈ described float parts) : Read row := by
  obtain ⟨part,_,inside⟩ := List.mem_flatMap.mp member
  obtain ⟨cells,_,made⟩ := List.mem_filterMap.mp inside
  exact readRowRead float made

theorem holds {d : Database} (replaced : Replaced u (described float parts) d) : Holds u (described float parts) d := by
  have stored := replaced.stored
  have long := congrArg List.length stored
  rw [List.length_map] at long
  have current : (status d).current = ((firsts clash ((described float parts).map bind)).filter (fun row => row.isCurrent = 1)).length := by
    rw [← stored,List.filter_map,List.length_map]
    rfl
  refine ⟨replaced,⟨current,?_⟩,fun s ascii => ?_⟩
  · have within : (status d).current ≤ d.catalogue.rows.length := List.length_filter_le _ _
    show (status d).current + (d.catalogue.rows.length - (status d).current) = _
    omega
  · have sound : ∀ r ∈ d.catalogue.rows.map Prod.snd, Read r := by
      intro r member
      rw [stored] at member
      obtain ⟨before,later,whole,_⟩ := (memFirsts clash).mp member
      have there : r ∈ (described float parts).map bind := by rw [whole]; simp
      obtain ⟨own,inside,rfl⟩ := List.mem_map.mp there
      exact ⟨(describedRead own inside).ends,(describedRead own inside).flag⟩
    rw [offeredCurrent u ascii sound,stored,← importedRows u "" "" (described float parts) d,currentImported]

variable {ranked : Fts5.Query → List (Int × String) → List Int} {faults : Faults ImportError} {now : String} {d : Database}

def rowsOf (float : String → Option UInt64) (parts : List Part) : List (Except ImportError CatalogueRow) :=
  read float (parts.map (fun part => openFile part.sheet.name part.text))

def replacedBy (u : Persian.Spelling) (float : String → Option UInt64) (faults : Faults ImportError) (now : String)
    (parts : List Part) (d : Database) : Except ImportError Nat × Database :=
  replaceAll u faults now (", ".intercalate (parts.map (fun part => part.sheet.name))) (rowsOf float parts) d

theorem mainIs : main u float ranked faults now (parts.map Part.argument) d =
    match replacedBy u float faults now parts d with
    | (.error e,after) => (.raised e,after)
    | (.ok written,after) =>
      if written = 0 then (.exit 1,after)
      else match search u ranked after "خدمات" 1 with
        | .error e => (.raised (.database e),after)
        | .ok sample => (.exit (if sample = [] then 1 else 0),after) := by
  have files : (parts.map Part.argument).any (fun path => path.text.isNone) = false := by
    simp [Part.argument]
  rw [main,files,if_neg Bool.false_ne_true,List.map_map,List.map_map]
  rfl

theorem mainCases (ran : Ended × Database) (is_ : main u float ranked faults now (parts.map Part.argument) d = ran) :
    (∃ e, ran = (.raised e,d) ∧ (replacedBy u float faults now parts d).1 = .error e) ∨
      (∀ part ∈ parts, part.sheet.Complete) ∧ (∃ code, ran.1 = .exit code) ∧ Replaced u (described float parts) ran.2 := by
  subst is_
  rw [mainIs]
  cases ended : replacedBy u float faults now parts d with
  | mk answer after =>
    cases answer with
    | error e =>
      have same : after = d := by
        have kept := writeRaised (congrArg Prod.fst ended)
        rw [show write faults _ d = _ from ended] at kept
        exact kept
      subst same
      exact .inl ⟨e,rfl,rfl⟩
    | ok written =>
      obtain ⟨rows,whole,replaced⟩ := writeEnds faults (replaceEnds u now _ (rowsOf float parts)) True.intro (congrArg Prod.fst ended)
      rw [show write faults _ d = _ from ended] at replaced
      have complete : ∀ part ∈ parts, part.sheet.Complete := by
        intro part member
        by_contra missing
        obtain ⟨e,stopped⟩ := readMissing float member missing
        rw [← rowsOf,whole] at stopped
        obtain ⟨row,_,same⟩ := List.mem_map.mp stopped
        cases same
      have own : rows = described float parts :=
        List.map_injective_iff.mpr (fun a b eq => Except.ok.inj eq) (whole.symm.trans (readParts complete))
      subst own
      obtain ⟨sample,answered⟩ := searchAnswers u ranked after (by decide : Char.ofNat 0 ∉ "خدمات".toList) 1
      refine .inr ⟨complete,?_,?_⟩
      · dsimp only
        rw [answered]
        split <;> exact ⟨_,rfl⟩
      · dsimp only
        rw [answered]
        split <;> exact replaced

end Import

/- The export however it is quoted: a part that lacks a column, or anything the database refuses,
leaves the catalogue as it was; otherwise it is the rows of all parts. -/
theorem exportImported (u : Persian.Spelling) (float : String → Option UInt64)
    (ranked : Fts5.Query → List (Int × String) → List Int) (faults : Faults ImportError) (now : String) (parts : List Part) (d : Database) :
    ((∃ e, main u float ranked faults now (parts.map Part.argument) d = (.raised e,d)) ∨
      (∃ code, (main u float ranked faults now (parts.map Part.argument) d).1 = .exit code) ∧ (∀ part ∈ parts, part.sheet.Complete) ∧
        Holds u (described float parts) (main u float ranked faults now (parts.map Part.argument) d).2) ∧
    ((∀ part ∈ parts, part.sheet.Complete) →
      ∃ code, (main u float ranked quiet now (parts.map Part.argument) d).1 = .exit code) := by
  refine ⟨?_,fun complete => ?_⟩
  · obtain ⟨e,raised,_⟩ | ⟨complete,ended,replaced⟩ := mainCases (main u float ranked faults now (parts.map Part.argument) d) rfl
    · exact .inl ⟨e,raised⟩
    · exact .inr ⟨ended,complete,holds replaced⟩
  · obtain ⟨e,_,stopped⟩ | ⟨_,ended,_⟩ := mainCases (main u float ranked quiet now (parts.map Part.argument) d) rfl
    · obtain ⟨n,returned⟩ := writeRuns (replaceRuns u now (", ".intercalate (parts.map (fun part => part.sheet.name))) (described float parts)) d
      rw [← readParts complete,← rowsOf] at returned
      exact absurd (stopped.symm.trans returned) (by rintro ⟨⟩)
    · exact ended

namespace Example
open Csv

def row : List String := ["2330004567413","خدمات, مجوز","10","مشمول","1405-07-01","","خدمت"]

def sheet : Sheet := ⟨"p1.csv",required,[row]⟩

def saved : String := "\uFEFFID,DescriptionOfID,Vat,Taxable,RunDate,ExpirationDate,Type\n" ++
  "2330004567413,\"خدمات, مجوز\",10,مشمول,1405-07-01,,خدمت"

theorem savedSheet : sheet.Saved saved := by
  have lines : withoutMark saved.toList = line (cells required) ++ ['\n'] ++ line (cells row) := by decide +kernel
  refine ⟨?_,by decide +kernel⟩
  rw [lines]
  exact .line (recordLine (by decide)) (by decide +kernel) .lf (.last (recordLine (by decide)) (by decide +kernel))

def part : Part := ⟨sheet,saved,savedSheet⟩

example : (described nine [part]).map CatalogueRow.description = ["خدمات, مجوز"] := by decide +kernel

end Example

end Moadian.Catalogue
