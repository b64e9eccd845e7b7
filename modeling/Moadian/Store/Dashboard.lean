import Mathlib.Data.List.Dedup
import Moadian.Dictionary
import Moadian.Store.Records

/-! What the lists and the cards of the dashboard are read from: the invoices of a
profile, newest first, and how many there are in each state. -/
namespace Moadian

namespace InvoiceState

def value : InvoiceState → String
  | draft => "draft"
  | invalid => "invalid"
  | sent => "sent"
  | confirmed => "confirmed"
  | rejected => "rejected"
  | cancelled => "cancelled"

def all : List InvoiceState := [draft,invalid,sent,confirmed,rejected,cancelled]

theorem inAll (state : InvoiceState) : state ∈ all := by cases state <;> decide

end InvoiceState

namespace RecordStore

/-! Queries. -/

-- `if state:` leaves the empty text out too.
def inState (state : Option String) (row : InvoiceColumns) : Bool := !truthy state || state == some row.state.value

def listed (profile : String) (state : Option String) (row : InvoiceColumns) : Bool := row.profile = profile && inState state row

def listInvoices (store : RecordStore) (profile : String) (state : Option String) (limit : Int) : List InvoiceRecord :=
  (limited limit (store.select (listed profile state)).reverse).map invoice

def statesOf (store : RecordStore) (profile : String) : List String :=
  (store.select (fun row => row.profile = profile)).map (fun r => r.2.state.value)

def grouped (store : RecordStore) (profile : String) : List (String × Nat) :=
  (store.statesOf profile).dedup.map (fun state => (state,(store.statesOf profile).count state))

def zeros : Dictionary String Nat := (InvoiceState.all.map InvoiceState.value).foldl (fun counts state => counts.put state 0) .empty

def counted (store : RecordStore) (profile : String) : Dictionary String Nat :=
  (store.grouped profile).foldl (fun counts row => counts.put row.1 row.2) zeros

def countsByState (store : RecordStore) (profile : String) : Dictionary String Nat :=
  (store.counted profile).put "total" ((InvoiceState.all.map (fun state => ((store.counted profile).get state.value).getD 0)).sum)

/-! The counts. -/

section Counts
variable {store : RecordStore} {profile : String}

theorem foldGet (rows : List (String × Nat)) (counts : Dictionary String Nat) (key : String)
    (distinct : (rows.map Prod.fst).Nodup) : (rows.foldl (fun counts row => counts.put row.1 row.2) counts).get key =
      ((rows.lookup key).or (counts.get key)) := by
  induction rows generalizing counts with
  | nil => rfl
  | cons row rest ih =>
    obtain ⟨apart,others⟩ := List.nodup_cons.mp distinct
    rw [List.foldl_cons,ih _ others,Dictionary.getPut,List.lookup_cons]
    by_cases same : key = row.1
    · subst same
      have absent : rest.lookup row.1 = none := by
        refine List.lookup_eq_none_iff.mpr (fun other member => ?_)
        have differs : row.1 ≠ other.1 := fun own => apart (own ▸ List.mem_map_of_mem member)
        simpa using differs
      rw [absent,if_pos rfl,beq_self_eq_true]
      rfl
    · have other : (key == row.1) = false := by simpa using same
      rw [if_neg same,other]

theorem foldKeys (rows : List (String × Nat)) (counts : Dictionary String Nat) (known : ∀ row ∈ rows, row.1 ∈ counts.keys) :
    (rows.foldl (fun counts row => counts.put row.1 row.2) counts).keys = counts.keys := by
  induction rows generalizing counts with
  | nil => rfl
  | cons row rest ih =>
    have kept : (counts.put row.1 row.2).keys = counts.keys := by
      rw [Dictionary.keys,Dictionary.put]
      simp only [if_pos (known row List.mem_cons_self),List.map_map]
      exact List.map_congr_left (fun e _ => Dictionary.setEntryKey _ _ e)
    rw [List.foldl_cons,ih _ (fun other member => kept ▸ known other (List.mem_cons_of_mem row member)),kept]

theorem groupedNames : (store.grouped profile).map Prod.fst = (store.statesOf profile).dedup := by
  rw [grouped,List.map_map]
  exact List.map_id _

theorem groupedLookup (name : String) : (store.grouped profile).lookup name =
    if name ∈ store.statesOf profile then some ((store.statesOf profile).count name) else none := by
  have each : ∀ names : List String, (names.map (fun state => (state,(store.statesOf profile).count state))).lookup name =
      if name ∈ names then some ((store.statesOf profile).count name) else none := by
    intro names
    induction names with
    | nil => rfl
    | cons first rest ih =>
      rw [List.map_cons,List.lookup_cons,ih]
      by_cases same : name = first
      · subst same
        simp
      · have other : (name == first) = false := by simpa using same
        rw [other]
        simp [same]
  rw [grouped,each]
  simp only [List.mem_dedup]

theorem zerosGet (state : InvoiceState) : zeros.get state.value = some 0 := by
  cases state <;> decide

theorem zerosKeys : zeros.keys = InvoiceState.all.map InvoiceState.value := by decide

theorem stateNamed {name : String} (member : name ∈ store.statesOf profile) : name ∈ InvoiceState.all.map InvoiceState.value := by
  obtain ⟨r,_,rfl⟩ := List.mem_map.mp member
  exact List.mem_map_of_mem (InvoiceState.inAll r.2.state)

theorem countedGet (state : InvoiceState) :
    (store.counted profile).get state.value = some ((store.statesOf profile).count state.value) := by
  have distinct : ((store.grouped profile).map Prod.fst).Nodup := groupedNames ▸ List.nodup_dedup _
  rw [counted,foldGet _ _ _ distinct,groupedLookup,zerosGet]
  split
  · rfl
  · rename_i absent
    rw [List.count_eq_zero.mpr absent]
    rfl

theorem countedKeys : (store.counted profile).keys = InvoiceState.all.map InvoiceState.value := by
  rw [counted,foldKeys,zerosKeys]
  intro row member
  rw [zerosKeys]
  have named : row.1 ∈ (store.grouped profile).map Prod.fst := List.mem_map_of_mem member
  rw [groupedNames,List.mem_dedup] at named
  exact stateNamed named

theorem countsSum (states : List InvoiceState) :
    (InvoiceState.all.map (fun state => (states.map InvoiceState.value).count state.value)).sum = states.length := by
  induction states with
  | nil => rfl
  | cons first rest ih =>
    have one : (InvoiceState.all.map (fun state => if first.value == state.value then 1 else 0)).sum = 1 := by
      cases first <;> decide
    simp only [List.map_cons,List.count_cons]
    rw [List.sum_map_add,ih,one,List.length_cons]

theorem statesValues : store.statesOf profile =
    ((store.select (fun row => row.profile = profile)).map (fun r => r.2.state)).map InvoiceState.value := by
  rw [statesOf,List.map_map]
  rfl

theorem listedState (state : InvoiceState) :
    (store.select (listed profile (some state.value))).length = (store.statesOf profile).count state.value := by
  have named : truthy (some state.value) = true := by cases state <;> decide
  rw [statesOf,List.count_eq_countP,List.countP_map,List.countP_eq_length_filter,Table.select,Table.select,List.filter_filter]
  congr 1
  refine List.filter_congr (fun r _ => ?_)
  simp only [listed,inState,named,Bool.not_true,Bool.false_or,Function.comp_apply]
  rw [Bool.and_comm]
  congr 1
  rw [Bool.eq_iff_iff,beq_iff_eq,beq_iff_eq,Option.some_inj]
  exact eq_comm

theorem listedAll : (store.select (listed profile none)).length = (store.statesOf profile).length := by
  rw [statesOf,List.length_map]
  congr 2
  funext row
  simp [listed,inState]

theorem lengthAll (state : Option String) : (store.listInvoices profile state (-1)).length = (store.select (listed profile state)).length := by
  simp [listInvoices,limited]

end Counts

/- The cards: one for each state and their total, and each is the number of invoices that
the list of it shows. -/
structure Shown (store : RecordStore) (profile : String) : Prop where
  keys : (store.countsByState profile).keys = InvoiceState.all.map InvoiceState.value ++ ["total"]
  each : ∀ state : InvoiceState, (store.countsByState profile).get state.value =
    some (store.listInvoices profile (some state.value) (-1)).length
  total : (store.countsByState profile).get "total" = some (store.listInvoices profile none (-1)).length
  whole : ∀ state record, record ∈ store.listInvoices profile state (-1) ↔
    ∃ id row, store.get id = some row ∧ record = invoice (id,row) ∧ listed profile state row = true
  newest : ∀ state limit, (store.listInvoices profile state limit).Pairwise (fun a b => ∃ i j, a.id = some i ∧ b.id = some j ∧ j < i)

section Shown
variable (store : RecordStore) (profile : String)

theorem totalApart (state : InvoiceState) : state.value ≠ "total" := by cases state <;> decide

theorem shown : Shown store profile where
  keys := by
    have apart : "total" ∉ (store.counted profile).keys := by
      rw [countedKeys]
      decide
    have placed : (store.countsByState profile).entries = (store.counted profile).entries ++ [("total",_)] := if_neg apart
    rw [Dictionary.keys,placed,List.map_append,← Dictionary.keys,countedKeys]
    rfl
  each := by
    intro state
    rw [countsByState,Dictionary.getPut,if_neg (totalApart state),countedGet,lengthAll,listedState]
  total := by
    rw [countsByState,Dictionary.getPut,if_pos rfl,lengthAll,listedAll]
    simp only [countedGet,Option.getD_some]
    rw [statesValues,countsSum,List.length_map,List.length_map,List.length_map]
  whole := by
    intro state record
    rw [listInvoices,limited,if_pos (by decide)]
    simp only [List.mem_map,List.mem_reverse]
    constructor
    · rintro ⟨⟨id,row⟩,member,rfl⟩
      obtain ⟨found,holds⟩ := (store.memSelect _ id row).mp member
      exact ⟨id,row,found,rfl,holds⟩
    · rintro ⟨id,row,found,rfl,holds⟩
      exact ⟨(id,row),(store.memSelect _ id row).mpr ⟨found,holds⟩,rfl⟩
  newest := by
    intro state limit
    have falling : (store.select (listed profile state)).reverse.Pairwise (fun a b => b.1 < a.1) :=
      List.pairwise_reverse.mpr (store.sorted.filter _)
    have front : (limited limit (store.select (listed profile state)).reverse).Pairwise (fun a b => b.1 < a.1) := by
      unfold limited
      split
      · exact falling
      · exact falling.sublist (List.take_sublist _ _)
    exact List.pairwise_map.mpr (front.imp (fun below => ⟨_,_,rfl,rfl,below⟩))

end Shown
end RecordStore
end Moadian
