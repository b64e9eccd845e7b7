import Moadian.Store.Replacement

/-! `import_catalogue.read`: the rows of the published export, each with whether it is
still in force. What `float` makes of a text is taken as given. -/
namespace Moadian.Catalogue

inductive ImportError where
  | systemExit (message : String)
  | reading (message : String)
  | database (message : String)
  deriving DecidableEq, Repr

-- A row of a `DictReader`; a field a short row has not is none.
abbrev DictRow := List (String × Option String)

structure ExportFile where
  name : String
  fieldnames : Except ImportError (Option (List String))
  rows : List (Except ImportError DictRow)

def column (row : DictRow) (name : String) : Option String := (row.lookup name).getD none

def required : List String := ["ID","DescriptionOfID","Vat","Taxable","RunDate","ExpirationDate","Type"]

def stripped (text : String) : String := String.ofList (RuleEngine.strip text)

def number (float : String → Option UInt64) (value : Option String) : Option UInt64 :=
  match value with
  | none => none
  | some text => if stripped text = "" then none else float (stripped text)

def clean (value : Option String) : Option String :=
  match value with
  | none => none
  | some text => if stripped text = "" then none else some (stripped text)

def readRow (float : String → Option UInt64) (row : DictRow) : Option CatalogueRow :=
  let stuffId := stripped ((column row "ID").getD "")
  let description := stripped ((column row "DescriptionOfID").getD "")
  if stuffId = "" ∨ description = "" then none
  else some {
    stuffId := stuffId
    description := description
    vatRate := number float (column row "Vat")
    taxable := clean (column row "Taxable")
    runDate := clean (column row "RunDate")
    expirationDate := clean (column row "ExpirationDate")
    kind := clean (column row "Type")
    pricing := clean (column row "PricingDescription")
    isCurrent := if (clean (column row "ExpirationDate")).isSome then 0 else 1 }

def readItem (float : String → Option UInt64) : Except ImportError DictRow → Option (Except ImportError CatalogueRow)
  | .error e => some (.error e)
  | .ok row => (readRow float row).map .ok

def readFile (float : String → Option UInt64) (file : ExportFile) : List (Except ImportError CatalogueRow) :=
  match file.fieldnames with
  | .error e => [.error e]
  | .ok fieldnames =>
    let found := fieldnames.getD []
    let missing := required.filter (fun name => name ∉ found)
    if missing ≠ [] then [.error (.systemExit (file.name ++ ": missing column(s) " ++ ", ".intercalate missing ++ ".\n" ++
      "Found: " ++ ", ".intercalate (if found = [] then ["(nothing)"] else found) ++ "\n" ++
      "This does not look like a product/service export."))]
    else file.rows.filterMap (readItem float)

-- Nobody asks a generator for what would come after the exception it ended with.
def read (float : String → Option UInt64) (files : List ExportFile) : List (Except ImportError CatalogueRow) :=
  files.flatMap (readFile float)

end Moadian.Catalogue
