import Moadian.Errors
import Moadian.Models.Invoice
import Moadian.Table

/-! The invoice table of `RecordStore`. Each function is one statement, made
under the store's lock. The time stamps of a row are left out: nothing reads them. -/
namespace Moadian

inductive InvoiceState where
  | draft | invalid | sent | confirmed | rejected | cancelled
  deriving DecidableEq, Repr

def InvoiceState.editable : InvoiceState → Bool
  | draft => true
  | invalid => true
  | _ => false

structure InvoiceColumns where
  profile : String
  state : InvoiceState
  payload : WireDict
  taxId : Option String := none
  uid : Option String := none
  referenceNumber : Option String := none
  detail : Option Dict := none

structure InvoiceRecord extends InvoiceColumns where
  id : Option Int := none

abbrev RecordStore := Table InvoiceColumns

def truthy : Option String → Bool
  | none => false
  | some s => s ≠ ""

@[simp] theorem truthySome (s : String) : truthy (some s) = true ↔ s ≠ "" := by simp [truthy]

@[simp] theorem truthyNone : truthy none = false := rfl

namespace RecordStore

def dumpDetail : Option Dict → Option Dict
  | some [] => none
  | detail => detail

def columns (record : InvoiceRecord) : InvoiceColumns :=
  { record.toInvoiceColumns with detail := dumpDetail record.detail }

/- The UPDATE names every column but `profile`, and does not ask whether it found a row. -/
def saveInvoice (store : RecordStore) (record : InvoiceRecord) : InvoiceRecord × RecordStore :=
  match record.id with
  | none => ({ record with id := some store.next },store.insert (columns record))
  | some id => (record,store.update id (fun row => { columns record with profile := row.profile }))

def invoice (row : Int × InvoiceColumns) : InvoiceRecord := { row.2 with id := some row.1 }

def awaiting (profile : String) (row : InvoiceColumns) : Bool :=
  row.profile = profile && row.state = .sent && truthy row.referenceNumber

def limited {α : Type} (limit : Int) (rows : List α) : List α :=
  if limit < 0 then rows else rows.take limit.toNat

def listAwaitingInquiry (store : RecordStore) (profile : String) (limit : Int) : List InvoiceRecord :=
  (limited limit (store.select (awaiting profile))).map invoice

def carries (profile taxId : String) (row : InvoiceColumns) : Bool :=
  row.profile = profile && row.taxId = some taxId

def findByTaxId (store : RecordStore) (profile taxId : String) : Option InvoiceRecord :=
  (store.newest (carries profile taxId)).map invoice

def getInvoice (store : RecordStore) (id : Int) : Option InvoiceRecord :=
  (store.get id).map (fun row => invoice (id,row))

def deleteInvoice (store : RecordStore) (id : Int) : Except Exc Unit × RecordStore :=
  match store.get id with
  | none => (.error (.configuration ("no invoice " ++ toString id)),store)
  | some _ => (.ok (),store.delete id)

theorem memAwaiting {store : RecordStore} {profile : String} {limit : Int} {record : InvoiceRecord}
    (h : record ∈ store.listAwaitingInquiry profile limit) :
    ∃ id row, store.get id = some row ∧ record = invoice (id,row) ∧ awaiting profile row = true := by
  obtain ⟨⟨id,row⟩,member,rfl⟩ := List.mem_map.mp h
  have selected : (id,row) ∈ store.select (awaiting profile) := by
    unfold limited at member
    split at member
    · exact member
    · exact List.mem_of_mem_take member
  obtain ⟨found,holds⟩ := (store.memSelect _ id row).mp selected
  exact ⟨id,row,found,rfl,holds⟩

theorem findCases {store : RecordStore} {profile taxId : String} {record : InvoiceRecord}
    (h : store.findByTaxId profile taxId = some record) :
    ∃ id row, store.get id = some row ∧ record = invoice (id,row) ∧ carries profile taxId row = true := by
  obtain ⟨⟨id,row⟩,newest,rfl⟩ := Option.map_eq_some_iff.mp h
  obtain ⟨found,holds⟩ := Table.newestSome newest
  exact ⟨id,row,found,rfl,holds⟩

theorem getCases {store : RecordStore} {id : Int} {record : InvoiceRecord}
    (h : store.getInvoice id = some record) :
    ∃ row, store.get id = some row ∧ record = invoice (id,row) := by
  obtain ⟨row,found,rfl⟩ := Option.map_eq_some_iff.mp h
  exact ⟨row,found,rfl⟩

theorem getSave (store : RecordStore) (record : InvoiceRecord) (j : Int) :
    (store.saveInvoice record).2.get j = match record.id with
      | none => if j = store.next then some (columns record) else store.get j
      | some id => if j = id then (store.get j).map (fun row => { columns record with profile := row.profile })
          else store.get j := by
  unfold saveInvoice
  cases record.id with
  | none => exact store.getInsert _ j
  | some id => exact store.getUpdate id _ j

theorem saveStored {store : RecordStore} {record : InvoiceRecord}
    (there : ∀ id, record.id = some id → ∃ row, store.get id = some row) :
    ∃ id p, (store.saveInvoice record).1 = { record with id := some id } ∧
      (store.saveInvoice record).2.get id = some { columns record with profile := p } := by
  obtain ⟨row,id⟩ := record
  cases id with
  | none =>
    refine ⟨store.next,row.profile,rfl,?_⟩
    rw [getSave]
    exact if_pos rfl
  | some id =>
    obtain ⟨old,stored⟩ := there id rfl
    refine ⟨id,old.profile,rfl,?_⟩
    rw [getSave]
    simp only [if_pos,stored,Option.map_some]

section Save
variable {store : RecordStore} {record : InvoiceRecord} {j : Int} {row : InvoiceColumns}

theorem savedCases (h : (store.saveInvoice record).2.get j = some row) :
    store.get j = some row ∨ ∃ p, row = { columns record with profile := p } ∧
      ((record.id = none ∧ j = store.next) ∨ record.id = some j) := by
  rw [getSave] at h
  cases key : record.id with
  | none =>
    simp only [key] at h
    split at h
    · rename_i new
      exact .inr ⟨_,(Option.some.inj h).symm,.inl ⟨rfl,new⟩⟩
    · exact .inl h
  | some id =>
    simp only [key] at h
    split at h
    · rename_i same
      obtain ⟨old,_,rfl⟩ := Option.map_eq_some_iff.mp h
      exact .inr ⟨_,rfl,.inr (by rw [same])⟩
    · exact .inl h

theorem savedOther (there : store.get j = some row) (other : record.id ≠ some j) :
    (store.saveInvoice record).2.get j = some row := by
  rw [getSave]
  cases key : record.id with
  | none =>
    have old : j ≠ store.next := fun same => by rw [same,store.getNext] at there; contradiction
    simp only [if_neg old,there]
  | some id =>
    have different : j ≠ id := fun same => other (by rw [key,same])
    simp only [if_neg different,there]

theorem savedSame (there : store.get j = some row) (key : record.id = some j) :
    (store.saveInvoice record).2.get j = some { columns record with profile := row.profile } := by
  rw [getSave,key]
  simp only [if_pos,there,Option.map_some]

end Save

theorem deletedOther {store : RecordStore} {id j : Int} {row : InvoiceColumns} (there : store.get j = some row)
    (other : j ≠ id) : (store.deleteInvoice id).2.get j = some row := by
  unfold deleteInvoice
  split
  · exact there
  · rw [Table.getDelete,if_neg other,there]

theorem getDeleted (store : RecordStore) (id j : Int) (row : InvoiceColumns)
    (h : (store.deleteInvoice id).2.get j = some row) : store.get j = some row := by
  unfold deleteInvoice at h
  split at h
  · exact h
  · rw [Table.getDelete] at h
    split at h
    · contradiction
    · exact h

end RecordStore
end Moadian
