import Moadian.Rules.Engine
import Moadian.Store.Migration
import Moadian.Store.Values
import Moadian.Write

/-! The goods catalogue of `RecordStore`: `add_goods`, `set_default_goods` and
`delete_goods`, each one `with self._write()`. -/
namespace Moadian.Goods
open Block Migration

structure GoodsService where
  stuffId : String
  description : String
  unit : Option String := none
  vatRate : Option UInt64 := none
  defaultFee : Option UInt64 := none
  isDefault : Bool := false
  id : Option Int := none
  createdAt : Option String := none
  deriving DecidableEq, Repr

inductive GoodsError where
  | configuration (message : String)
  | overflow (message : String)
  | integrity
  | database (message : String)
  deriving DecidableEq, Repr

-- `x < 0`, of the bits of a float: below minus zero and no NaN.
def negative (x : UInt64) : Bool := 0x8000000000000001 ≤ x ∧ x ≤ 0xFFF0000000000000

def GoodsService.validate (item : GoodsService) : Except GoodsError Unit :=
  if (RuleEngine.strip item.stuffId).isEmpty then
    .error (.configuration "stuff_id (شناسه کالا/خدمت) must not be empty")
  else if (RuleEngine.strip item.description).isEmpty then
    .error (.configuration "description (شرح کالا/خدمت) must not be empty")
  else if item.vatRate.any negative then .error (.configuration "vat_rate must not be negative")
  else .ok ()

def bindInteger (n : Int) : Except GoodsError Unit :=
  if Sqlite.fits n then .ok ()
  else .error (.overflow "Python int too large to convert to SQLite INTEGER")

def columns (item : GoodsService) (created : String) : GoodsColumns where
  stuffId := item.stuffId
  description := item.description
  unit := item.unit
  vatRate := Sqlite.bindReal item.vatRate
  defaultFee := Sqlite.bindReal item.defaultFee
  isDefault := item.isDefault.toInt
  createdAt := created

def clearDefault (t : Table GoodsColumns) : Except GoodsError (Nat × Table GoodsColumns) :=
  .ok (t.rows.length,t.updateEach (fun _ row => { row with isDefault := 0 }))

def insertGoods (item : GoodsService) (created : String) (t : Table GoodsColumns) :
    Except GoodsError (Int × Table GoodsColumns) :=
  match insertRow GoodsColumns.stuffId t (columns item created) with
  | .error _ => .error .integrity
  | .ok after => .ok (t.next,after)

def rowcount (id : Int) (t : Table GoodsColumns) : Nat := if (t.get id).isSome then 1 else 0

def setDefault (id : Int) (t : Table GoodsColumns) : Except GoodsError (Nat × Table GoodsColumns) := do
  bindInteger id
  pure (rowcount id t,t.update id (fun row => { row with isDefault := 1 }))

def deleteRow (id : Int) (t : Table GoodsColumns) : Except GoodsError (Nat × Table GoodsColumns) := do
  bindInteger id
  pure (rowcount id t,t.delete id)

def addBody (created : String) (item : GoodsService) : Block (Table GoodsColumns) GoodsError Int := do
  if item.isDefault then
    let _ ← statement clearDefault
  statement (insertGoods item created)

def addGoods (faults : Faults GoodsError) (created : String) (item : GoodsService) (t : Table GoodsColumns) :
    Except GoodsError GoodsService × Table GoodsColumns :=
  match item.validate with
  | .error e => (.error e,t)
  | .ok () =>
    match write faults (addBody created item) t with
    | (.error .integrity,after) =>
      (.error (.configuration ("شناسه کالا/خدمت " ++ item.stuffId ++ " از پیش ثبت شده است")),after)
    | (.error e,after) => (.error e,after)
    | (.ok id,after) => (.ok { item with id := some id, createdAt := some created },after)

def missing (id : Int) (rowcount : Nat) : Block (Table GoodsColumns) GoodsError Unit :=
  if rowcount = 0 then throw (.configuration ("no goods " ++ toString id)) else pure ()

def setDefaultBody (id : Int) : Block (Table GoodsColumns) GoodsError Unit := do
  let _ ← statement clearDefault
  let rowcount ← statement (setDefault id)
  missing id rowcount

def setDefaultGoods (faults : Faults GoodsError) (id : Int) :
    Table GoodsColumns → Except GoodsError Unit × Table GoodsColumns :=
  write faults (setDefaultBody id)

def deleteBody (id : Int) : Block (Table GoodsColumns) GoodsError Unit := do
  let rowcount ← statement (deleteRow id)
  missing id rowcount

def deleteGoods (faults : Faults GoodsError) (id : Int) :
    Table GoodsColumns → Except GoodsError Unit × Table GoodsColumns :=
  write faults (deleteBody id)

end Moadian.Goods
