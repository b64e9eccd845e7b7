import Mathlib.Data.List.Perm.Subperm
import Moadian.Filing.Lifecycle
import Moadian.Store.Dashboard

/-! The dashboard along a run of the invoice endpoints: at every moment its cards agree
with the lists, and what has been handed over never becomes fewer. -/
namespace Moadian.Filing
open Resumption RecordStore

def handedOver (counts : Dictionary String Nat) : Nat :=
  ([InvoiceState.sent,.confirmed,.rejected,.cancelled].map (fun state => (counts.get state.value).getD 0)).sum

def closedOf (profile : String) (row : InvoiceColumns) : Bool := row.profile = profile && !row.state.editable

section Cards
variable {store : RecordStore} {profile : String}

theorem closedSum (states : List InvoiceState) :
    ([InvoiceState.sent,.confirmed,.rejected,.cancelled].map (fun state => (states.map InvoiceState.value).count state.value)).sum =
      (states.filter (fun state => !state.editable)).length := by
  induction states with
  | nil => rfl
  | cons first rest ih =>
    have one : ([InvoiceState.sent,.confirmed,.rejected,.cancelled].map (fun state => if first.value == state.value then 1 else 0)).sum =
        if !first.editable then 1 else 0 := by
      cases first <;> decide
    have each : ∀ state : InvoiceState, ((first :: rest).map InvoiceState.value).count state.value =
        (rest.map InvoiceState.value).count state.value + if first.value == state.value then 1 else 0 := by
      intro state
      rw [List.map_cons,List.count_cons]
    simp only [each]
    rw [List.sum_map_add,ih,one,List.filter_cons]
    split <;> simp

theorem handedOverIs : handedOver (store.countsByState profile) = (store.select (closedOf profile)).length := by
  have each : ∀ state : InvoiceState, ((store.countsByState profile).get state.value).getD 0 =
      (((store.select (fun row => row.profile = profile)).map (fun r => r.2.state)).map InvoiceState.value).count state.value := by
    intro state
    rw [countsByState,Dictionary.getPut,if_neg (totalApart state),countedGet,statesValues]
    rfl
  simp only [handedOver,each]
  rw [closedSum,List.filter_map,List.length_map,Table.select,Table.select,List.filter_filter]
  congr 1
  refine List.filter_congr (fun r _ => ?_)
  rw [closedOf,Bool.and_comm]
  rfl

end Cards

theorem handedOverGrows {w w' : World} (frozen : Frozen w w') (profile : String) :
    handedOver (w.invoices.countsByState profile) ≤ handedOver (w'.invoices.countsByState profile) := by
  rw [handedOverIs,handedOverIs]
  have distinct : ((w.invoices.select (closedOf profile)).map Prod.fst).Nodup := by
    have rising : (w.invoices.select (closedOf profile)).Pairwise (fun a b => a.1 < b.1) := w.invoices.sorted.filter _
    exact List.pairwise_map.mpr (rising.imp (fun below => Int.ne_of_lt below))
  have kept : (w.invoices.select (closedOf profile)).map Prod.fst ⊆ (w'.invoices.select (closedOf profile)).map Prod.fst := by
    intro id member
    obtain ⟨⟨_,row⟩,inside,rfl⟩ := List.mem_map.mp member
    obtain ⟨stored,holds⟩ := (w.invoices.memSelect _ _ row).mp inside
    simp only [closedOf,Bool.and_eq_true,decide_eq_true_eq,Bool.not_eq_true'] at holds
    obtain ⟨row',stored',closed',same⟩ := frozen _ row stored holds.2
    refine List.mem_map.mpr ⟨(_,row'),(w'.invoices.memSelect _ _ row').mpr ⟨stored',?_⟩,rfl⟩
    simp only [closedOf,Bool.and_eq_true,decide_eq_true_eq,Bool.not_eq_true']
    exact ⟨same.1.trans holds.1,closed'⟩
  have fewer := (List.subperm_of_subset distinct kept).length_le
  rwa [List.length_map,List.length_map] at fewer

theorem dashboardSteady (engine : RuleEngine) (calls : List (Request × List (Oracle service))) (w : World) :
    (∀ v ∈ visited w (session engine calls), ∀ profile, Shown v.invoices profile) ∧
    (visited w (session engine calls)).Pairwise (fun v v' => ∀ profile,
      handedOver (v.invoices.countsByState profile) ≤ handedOver (v'.invoices.countsByState profile)) := by
  refine ⟨fun v _ profile => shown v.invoices profile,?_⟩
  have always : Meets (Answered (fun _ => True)) w (session engine calls) :=
    meetsAlways (M := service) (fun _ _ _ _ _ _ _ _ _ => True.intro) w _
  have frozen : (visited w (session engine calls)).Pairwise Frozen :=
    List.isChain_iff_pairwise.mp ((sessionChain always).imp (fun _ _ step => frozenStep step))
  exact frozen.imp (fun kept profile => handedOverGrows kept profile)

end Moadian.Filing
