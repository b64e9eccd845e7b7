import Mathlib.Data.Finmap
import Mathlib.Data.Finset.Sort

/-! A dictionary as Python has it: each key stands once, in the order the keys were
first set. Forgetting that order leaves a finite map. -/
namespace Moadian

structure Dictionary (α β : Type) where
  entries : List (α × β)
  nodup : (entries.map Prod.fst).Nodup

namespace Dictionary
variable {α β γ : Type}

def empty : Dictionary α β := ⟨[],List.nodup_nil⟩

def keys (d : Dictionary α β) : List α := d.entries.map Prod.fst

def map (f : β → γ) (d : Dictionary α β) : Dictionary α γ where
  entries := d.entries.map (fun e => (e.1,f e.2))
  nodup := by simpa [Function.comp_def] using d.nodup

def sorted [LinearOrder α] (d : Dictionary α β) : List α := d.keys.mergeSort (· ≤ ·)

def toFinmap (d : Dictionary α β) : Finmap (fun _ : α => β) where
  entries := d.entries.map Prod.toSigma
  nodupKeys := by
    have same : (d.entries.map Prod.toSigma).keys = d.entries.map Prod.fst := by simp [List.keys,Function.comp_def]
    exact (show (d.entries.map Prod.toSigma).keys.Nodup from same ▸ d.nodup)

section Keyed
variable [DecidableEq α]

def get (d : Dictionary α β) (key : α) : Option β := d.entries.lookup key

def setEntry (key : α) (value : β) (e : α × β) : α × β := if e.1 = key then (key,value) else e

@[simp] theorem setEntryKey (key : α) (value : β) (e : α × β) : (setEntry key value e).1 = e.1 := by
  unfold setEntry
  split
  · rename_i same; exact same.symm
  · rfl

def put (d : Dictionary α β) (key : α) (value : β) : Dictionary α β where
  entries := if key ∈ d.keys then d.entries.map (setEntry key value) else d.entries ++ [(key,value)]
  nodup := by
    split
    · have same : (d.entries.map (setEntry key value)).map Prod.fst = d.entries.map Prod.fst := by
        simp [Function.comp_def]
      exact same ▸ d.nodup
    · rename_i new
      rw [List.map_append,List.nodup_append]
      refine ⟨d.nodup,List.nodup_singleton _,?_⟩
      rintro a old b last rfl
      rw [List.mem_singleton.mp last] at old
      exact new old

def del (d : Dictionary α β) (key : α) : Dictionary α β where
  entries := d.entries.filter (fun e => e.1 ≠ key)
  nodup := d.nodup.sublist (List.filter_sublist.map _)

theorem getNone {d : Dictionary α β} {key : α} : d.get key = none ↔ key ∉ d.keys := by
  simp only [get,keys,List.lookup_eq_none_iff,bne_iff_ne,List.mem_map,not_exists,not_and]
  exact ⟨fun h e member same => h e member same.symm,fun h e member same => h e member same.symm⟩

theorem getSome {d : Dictionary α β} {key : α} : (d.get key).isSome ↔ key ∈ d.keys := by
  rw [Option.isSome_iff_ne_none,ne_eq,getNone,not_not]

@[simp] theorem getEmpty (key : α) : (empty : Dictionary α β).get key = none := rfl

theorem lookupSet (entries : List (α × β)) (key k : α) (value : β) : (entries.map (setEntry key value)).lookup k =
    if k = key then (entries.lookup k).map (fun _ => value) else entries.lookup k := by
  induction entries with
  | nil => simp
  | cons e rest ih =>
    obtain ⟨a,b⟩ := e
    by_cases own : a = key
    · subst own
      by_cases same : k = a
      · subst same; simp [setEntry]
      · have other : (k == a) = false := by simpa using same
        simpa [setEntry,List.lookup_cons,other,same] using ih
    · by_cases same : k = a
      · subst same; simp [setEntry,own]
      · have other : (k == a) = false := by simpa using same
        simpa [setEntry,List.lookup_cons,other,own] using ih

theorem getPut (d : Dictionary α β) (key k : α) (value : β) :
    (d.put key value).get k = if k = key then some value else d.get k := by
  by_cases there : key ∈ d.keys
  · simp only [get,put,if_pos there,lookupSet]
    by_cases same : k = key
    · subst same
      obtain ⟨old,found⟩ := Option.isSome_iff_exists.mp (getSome.mpr there)
      rw [get] at found
      simp [found]
    · simp [same]
  · have absent : d.entries.lookup key = none := getNone.mpr there
    simp only [get,put,if_neg there,List.lookup_append]
    by_cases same : k = key
    · subst same; simp [absent]
    · have other : (k == key) = false := by simpa using same
      simp [List.lookup_cons,other,same]

theorem getDel (d : Dictionary α β) (key k : α) : (d.del key).get k = if k = key then none else d.get k := by
  obtain ⟨entries,nodup⟩ := d
  simp only [get,del]
  clear nodup
  induction entries with
  | nil => simp
  | cons e rest ih =>
    obtain ⟨a,b⟩ := e
    by_cases own : a = key
    · subst own
      rw [List.filter_cons_of_neg (by simp),ih]
      by_cases same : k = a
      · simp [same]
      · have other : (k == a) = false := by simpa using same
        simp [List.lookup_cons,other]
    · rw [List.filter_cons_of_pos (by simpa using own),List.lookup_cons,List.lookup_cons,ih]
      by_cases same : k = a
      · subst same; simp [own]
      · have other : (k == a) = false := by simpa using same
        simp [other]

/-! What each operation is on the finite map. -/

theorem lookupFinmap (d : Dictionary α β) (key : α) : d.toFinmap.lookup key = d.get key := by
  have listed : d.toFinmap.lookup key = (d.entries.map Prod.toSigma).dlookup key := rfl
  rw [listed,get]
  induction d.entries with
  | nil => rfl
  | cons e rest ih =>
    obtain ⟨a,b⟩ := e
    by_cases same : key = a
    · subst same; simp [List.dlookup_cons_eq]
    · have other : (key == a) = false := by simpa using same
      rw [List.lookup_cons,other,← ih]
      exact List.dlookup_cons_ne _ (⟨a,b⟩ : Σ _ : α, β) same

theorem finmapPut (d : Dictionary α β) (key : α) (value : β) : (d.put key value).toFinmap = d.toFinmap.insert key value := by
  refine Finmap.ext_lookup fun k => ?_
  rw [lookupFinmap,getPut]
  by_cases same : k = key
  · rw [if_pos same,same,Finmap.lookup_insert]
  · rw [if_neg same,Finmap.lookup_insert_of_ne _ same,lookupFinmap]

theorem finmapDel (d : Dictionary α β) (key : α) : (d.del key).toFinmap = d.toFinmap.erase key := by
  refine Finmap.ext_lookup fun k => ?_
  rw [lookupFinmap,getDel]
  by_cases same : k = key
  · rw [if_pos same,same,Finmap.lookup_erase]
  · rw [if_neg same,Finmap.lookup_erase_ne same,lookupFinmap]

theorem finmapMem (d : Dictionary α β) (key : α) : key ∈ d.toFinmap ↔ key ∈ d.keys := by
  rw [Finmap.mem_iff,lookupFinmap,← getSome,Option.isSome_iff_exists]

end Keyed

theorem finmapSorted [LinearOrder α] (d : Dictionary α β) : d.toFinmap.keys.sort = d.sorted := by
  have same : d.toFinmap.keys.val = (d.keys : Multiset α) := by
    simp [toFinmap,Finmap.keys,Multiset.keys,keys,Function.comp_def]
  rw [Finset.sort,same,Multiset.coe_sort]
  rfl

end Dictionary
end Moadian
