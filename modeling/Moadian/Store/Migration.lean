import Moadian.Store.Records
import Moadian.Transaction

/-! `RecordStore.__init__` and `_migrate`: buyers and goods lose their `profile`
column, one statement at a time. -/
namespace Moadian.Migration

structure BuyerColumns where
  name : String
  nationalId : String
  economicCode : Option String := none
  personType : Int := 2
  postalCode : Option String := none
  branchCode : Option String := none
  note : Option String := none
  createdAt : String
  deriving DecidableEq, Repr

-- A REAL is kept as its bits: the migration only copies it.
structure GoodsColumns where
  stuffId : String
  description : String
  unit : Option String := none
  vatRate : Option UInt64 := none
  defaultFee : Option UInt64 := none
  isDefault : Int := 0
  createdAt : String
  deriving DecidableEq, Repr

structure Scoped (α : Type) where
  profile : String
  row : α
  deriving DecidableEq, Repr

inductive Layout (α : Type) where
  | v1 (rows : Table (Scoped α))
  | v2 (rows : Table α)

structure Catalogue (α : Type) where
  table : Option (Layout α)
  old : Option (Layout α)

structure Database where
  buyers : Catalogue BuyerColumns
  goods : Catalogue GoodsColumns
  invoices : Option RecordStore
  version : Option String

inductive SqlError where
  | noSuchTable | tableExists | notNull | unique
  deriving DecidableEq, Repr

section Catalogue
variable {α : Type}

def unscoped (t : Table (Scoped α)) : List (Int × α) := t.rows.map (fun r => (r.1,r.2.row))

def Layout.rows : Layout α → List (Int × α)
  | .v1 t => unscoped t
  | .v2 t => t.rows

def Catalogue.scoped : Catalogue α → Bool
  | ⟨some (.v1 _),_⟩ => true
  | _ => false

def Catalogue.entries (c : Catalogue α) : List α :=
  match c.table with
  | none => []
  | some t => t.rows.map Prod.snd

def rename : Catalogue α → Except SqlError (Catalogue α)
  | ⟨none,_⟩ => .error .noSuchTable
  | ⟨some _,some _⟩ => .error .tableExists
  | ⟨some t,none⟩ => .ok ⟨none,some t⟩

def created : Catalogue α → Catalogue α
  | ⟨none,old⟩ => ⟨some (.v2 .empty),old⟩
  | c => c

def create (c : Catalogue α) : Except SqlError (Catalogue α) := .ok (created c)

-- `SELECT MIN(id) … GROUP BY key`, with a group as often as it has rows.
def minIds (key : α → String) (rows : List (Int × α)) : List Int :=
  rows.filterMap (fun r => ((rows.filter (fun q => key q.2 = key r.2)).map Prod.fst).min?)

def kept (key : α → String) (rows : List (Int × α)) : List (Int × α) :=
  rows.filter (fun r => r.1 ∈ minIds key rows)

def insertRow (key : α → String) (t : Table α) (a : α) : Except SqlError (Table α) :=
  if t.rows.any (fun r => key r.2 = key a) then .error .unique else .ok (t.insert a)

def Layout.insertRows (key : α → String) (as : List α) : Layout α → Except SqlError (Layout α)
  | .v1 t => if as.isEmpty then .ok (.v1 t) else .error .notNull
  | .v2 t => (as.foldlM (insertRow key) t).map .v2

def copy (key : α → String) : Catalogue α → Except SqlError (Catalogue α)
  | ⟨some t,some old⟩ =>
    (t.insertRows key ((kept key old.rows).map Prod.snd)).map (fun t => ⟨some t,some old⟩)
  | _ => .error .noSuchTable

def drop : Catalogue α → Except SqlError (Catalogue α)
  | ⟨_,none⟩ => .error .noSuchTable
  | ⟨t,some _⟩ => .ok ⟨t,none⟩

def Layout.update (f : Int → α → α) : Layout α → Layout α
  | .v1 t => .v1 (t.updateEach (fun id r => { r with row := f id r.row }))
  | .v2 t => .v2 (t.updateEach f)

end Catalogue

def firstDefault (rows : List (Int × GoodsColumns)) : Option Int :=
  ((rows.filter (fun r => r.2.isDefault = 1)).map Prod.fst).min?

-- `id NOT IN (NULL)` is never true.
def demoted (first : Option Int) (id : Int) (g : GoodsColumns) : GoodsColumns :=
  match first with
  | none => g
  | some m => if id = m then g else { g with isDefault := 0 }

def demote : Catalogue GoodsColumns → Except SqlError (Catalogue GoodsColumns)
  | ⟨none,_⟩ => .error .noSuchTable
  | ⟨some t,old⟩ => .ok ⟨some (t.update (demoted (firstDefault t.rows))),old⟩

def onBuyers (opens : Bool) (f : Catalogue BuyerColumns → Except SqlError (Catalogue BuyerColumns)) :
    Statement Database SqlError := ⟨opens,fun d => (f d.buyers).map (fun c => { d with buyers := c })⟩

def onGoods (opens : Bool) (f : Catalogue GoodsColumns → Except SqlError (Catalogue GoodsColumns)) :
    Statement Database SqlError := ⟨opens,fun d => (f d.goods).map (fun c => { d with goods := c })⟩

def buyerStatements : List (Statement Database SqlError) :=
  [onBuyers false rename,onBuyers false create,onBuyers true (copy BuyerColumns.nationalId),onBuyers false drop]

def goodsStatements : List (Statement Database SqlError) :=
  [onGoods false rename,onGoods false create,onGoods true (copy GoodsColumns.stuffId),onGoods false drop,
    onGoods true demote]

open Connection in
def migrateBuyers (c : Connection Database) : Except (Stop SqlError × Database) (Connection Database) :=
  if c.seen.buyers.scoped then executeAll buyerStatements c else .ok c

open Connection in
def migrateGoods (c : Connection Database) : Except (Stop SqlError × Database) (Connection Database) :=
  if c.seen.goods.scoped then executeAll goodsStatements c else .ok c

def migrate (c : Connection Database) : Except (Stop SqlError × Database) (Connection Database) := do
  let c ← migrateBuyers c
  migrateGoods c

def schema (d : Database) : Database :=
  ⟨created d.buyers,created d.goods,some (d.invoices.getD .empty),some "2"⟩

/- What is durable once `RecordStore(path)` has returned or stopped. The body of the
`with` ended, so its transaction is committed before the script runs. -/
def openStore (d : Database) (left : Nat) : Database :=
  match migrate ⟨d,none,left⟩ with
  | .error (_,s) => s
  | .ok c => schema c.seen

structure V1 where
  buyers : Table (Scoped BuyerColumns)
  goods : Table (Scoped GoodsColumns)
  invoices : Option RecordStore
  version : Option String

def V1.database (v : V1) : Database :=
  ⟨⟨some (.v1 v.buyers),none⟩,⟨some (.v1 v.goods),none⟩,v.invoices,v.version⟩

def reopened (v : V1) (k : Nat) : Database := openStore (openStore v.database k) 9

end Moadian.Migration
