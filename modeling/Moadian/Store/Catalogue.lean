import Moadian.Folding
import Moadian.Pipeline
import Moadian.Store.Values
import Moadian.Table
import Moadian.Write

/-! `CatalogueStore`: the published catalogue and the full-text index beside it,
replaced as one. -/
namespace Moadian.Catalogue
open Block

structure CatalogueRow where
  stuffId : String
  description : String
  vatRate : Option UInt64
  taxable : Option String
  runDate : Option String
  expirationDate : Option String
  kind : Option String
  pricing : Option String
  isCurrent : Int
  deriving DecidableEq, Repr

-- `index` is `catalogue_fts`: a rowid, and the text that was indexed for it.
structure Database where
  catalogue : Table CatalogueRow
  index : List (Int × String)
  importedAt : Option String
  source : Option String

def bind (row : CatalogueRow) : CatalogueRow := { row with vatRate := Sqlite.bindReal row.vatRate }

-- `UNIQUE (stuff_id, run_date, vat_rate)`
def clash (q r : CatalogueRow) : Bool :=
  q.stuffId = r.stuffId && Sqlite.sameSome (fun x y => x = y) q.runDate r.runDate &&
    Sqlite.sameSome Sqlite.sameReal q.vatRate r.vatRate

section Write
variable {E : Type}

def deleteIndex (d : Database) : Except E (Unit × Database) := .ok ((),{ d with index := [] })

def deleteRows (d : Database) : Except E (Unit × Database) := .ok ((),{ d with catalogue := d.catalogue.deleteAll })

def insertOrIgnore (row : CatalogueRow) (t : Table CatalogueRow) : Table CatalogueRow :=
  if t.rows.any (fun q => clash q.2 row) then t.skip else t.insert row

def insertRow (row : CatalogueRow) (d : Database) : Except E (Unit × Database) :=
  .ok ((),{ d with catalogue := insertOrIgnore (bind row) d.catalogue })

-- What the iterator comes up with next: a row, or what it raises instead.
def insertItem : Except E CatalogueRow → Block Database E Unit
  | .error e => throw e
  | .ok row => statement (insertRow row)

def selectRows (d : Database) : Except E (List (Int × CatalogueRow) × Database) := .ok (d.catalogue.rows,d)

def indexed (u : Persian.Spelling) (row : CatalogueRow) : String := row.stuffId ++ " " ++ Persian.fold u row.description

def insertIndex (u : Persian.Spelling) (row : Int × CatalogueRow) (d : Database) : Except E (Unit × Database) :=
  .ok ((),{ d with index := d.index ++ [(row.1,indexed u row.2)] })

-- `VALUES ('optimize')` merges what is in the index, and leaves it as it is.
def optimize (d : Database) : Except E (Unit × Database) := .ok ((),d)

def countRows (d : Database) : Except E (Nat × Database) := .ok (d.catalogue.rows.length,d)

def setImportedAt (now : String) (d : Database) : Except E (Unit × Database) := .ok ((),{ d with importedAt := some now })

def setSource (source : String) (d : Database) : Except E (Unit × Database) := .ok ((),{ d with source := some source })

def replaceBody (u : Persian.Spelling) (now source : String) (rows : List (Except E CatalogueRow)) :
    Block Database E Nat := do
  statement deleteIndex
  statement deleteRows
  forEach insertItem rows
  let reader ← statement selectRows
  forEach (forEach (fun row => statement (insertIndex u row))) (slices 5000 reader)
  statement optimize
  let written ← statement countRows
  statement (setImportedAt now)
  statement (setSource source)
  pure written

def replaceAll (u : Persian.Spelling) (faults : Faults E) (now source : String) (rows : List (Except E CatalogueRow)) :
    Database → Except E Nat × Database :=
  write faults (replaceBody u now source rows)

end Write

structure CatalogueEntry where
  stuffId : String
  description : String
  vatRate : Option UInt64
  taxable : Option String
  runDate : Option String
  expirationDate : Option String
  kind : Option String
  pricing : Option String
  isCurrent : Bool
  deriving DecidableEq, Repr

def entry (row : CatalogueRow) : CatalogueEntry where
  stuffId := row.stuffId
  description := row.description
  vatRate := row.vatRate
  taxable := row.taxable
  runDate := row.runDate
  expirationDate := row.expirationDate
  kind := row.kind
  pricing := row.pricing
  isCurrent := row.isCurrent ≠ 0

def ahead (a b : CatalogueRow) : Bool :=
  b.isCurrent < a.isCurrent || (a.isCurrent = b.isCurrent && Sqlite.after a.runDate b.runDate)

-- `LIMIT 1`; of two that neither is ahead, the one that was met first.
def leading (rows : List CatalogueRow) : Option CatalogueRow :=
  rows.foldl (fun best row => match best with
    | none => some row
    | some b => if ahead row b then some row else some b) none

def get (u : Persian.Unicode) (d : Database) (stuffId : String) : Option CatalogueEntry :=
  (leading ((d.catalogue.select (fun row => row.stuffId = Persian.foldDigits u stuffId)).map Prod.snd)).map entry

end Moadian.Catalogue
