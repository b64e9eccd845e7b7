import Moadian.Api.Example
import Moadian.Filing.Moves

/-! Runs of the invoice endpoints, one request after the other, each stopped after
any of its steps. What `Moves` keeps is kept by every such run. -/
namespace Moadian.Filing
open Resumption Handler Trace

def session (engine : RuleEngine) (calls : List (Request × List (Oracle service))) : List (Call service Exc Reply) :=
  calls.map (fun c => ⟨c.1.handle engine,c.2⟩)

def nothing : World := ⟨Table.empty,[]⟩

section Session
variable {ok : Option String → Prop} {engine : RuleEngine} {calls : List (Request × List (Oracle service))}
  {w : World}

theorem sessionChain (met : Meets (Answered ok) w (session engine calls)) :
    (visited w (session engine calls)).IsChain (Step ok) := by
  refine aloneChain (Q := fun _ _ _ => True) (fun c member w => ?_) met
  obtain ⟨⟨request,orcs⟩,_,rfl⟩ := List.mem_map.mp member
  exact requestActs engine request w

theorem sessionKeeps {I : World → Prop} (met : Meets (Answered ok) w (session engine calls))
    (keep : ∀ w w', Step ok w w' → I w → I w') (init : I w) : ∀ w' ∈ visited w (session engine calls), I w' := by
  refine (sessionChain met).induction I _ (fun w w' step holds => keep w w' step holds) (fun some_ => ?_)
  have head := visitedHead w (session engine calls)
  rw [List.head?_eq_some_head some_] at head
  rw [Option.some.inj head]
  exact init

end Session

/-! A record that is no draft. -/

def Frozen (w w' : World) : Prop :=
  ∀ id row, w.invoices.get id = some row → row.state.editable = false →
    ∃ row', w'.invoices.get id = some row' ∧ row'.state.editable = false ∧ SameFiling row' row

section Frozen
variable {store : RecordStore} {record : InvoiceRecord} {id j : Int} {row row' : InvoiceColumns}

theorem savedElsewhere (stored : store.get id = some row) (closed : row.state.editable = false)
    (key : record.id = some j) (there : store.get j = some row') (was : row'.state.editable = true) :
    (store.saveInvoice record).2.get id = some row := by
  refine RecordStore.savedOther stored (fun own => ?_)
  rw [key] at own
  cases Option.some.inj own
  rw [there] at stored
  cases Option.some.inj stored
  rw [was] at closed
  contradiction

theorem savedOver (stored : store.get id = some row) (closed : row.state.editable = false)
    (key : record.id = some j) (there : store.get j = some row') (same : SameFiling record.toInvoiceColumns row')
    (shut : row'.state.editable = false → record.state.editable = false) :
    ∃ after, (store.saveInvoice record).2.get id = some after ∧ after.state.editable = false ∧ SameFiling after row := by
  by_cases here : id = j
  · subst here
    rw [there] at stored
    cases Option.some.inj stored
    exact ⟨_,RecordStore.savedSame there key,shut closed,rfl,same.2⟩
  · refine ⟨row,RecordStore.savedOther stored (fun own => ?_),closed,sameRefl row⟩
    rw [key] at own
    exact here (Option.some.inj own).symm

end Frozen

theorem frozenStep {ok : Option String → Prop} {w w' : World} (step : Step ok w w') : Frozen w w' := by
  intro id row stored closed
  unfold Step at step
  generalize w'.invoices = store at step ⊢
  cases step with
  | keep => exact ⟨row,stored,closed,sameRefl row⟩
  | draft new open_ bare =>
    exact ⟨row,RecordStore.savedOther stored (by rw [new]; simp),closed,sameRefl row⟩
  | redraft key there was open_ kept =>
    exact ⟨row,savedElsewhere stored closed key there was,closed,sameRefl row⟩
  | @file record own sent named given =>
    cases key : record.id with
    | none => exact ⟨row,RecordStore.savedOther stored (by rw [key]; simp),closed,sameRefl row⟩
    | some j =>
      obtain ⟨row',there,was⟩ := own j key
      exact ⟨row,savedElsewhere stored closed key there was,closed,sameRefl row⟩
  | judge key there same handle shut => exact savedOver stored closed key there same shut
  | void key there same cancelled =>
    exact savedOver stored closed key there same (fun _ => by rw [cancelled]; rfl)
  | @delete j row' there was =>
    refine ⟨row,RecordStore.deletedOther stored (fun same => ?_),closed,sameRefl row⟩
    subst same
    rw [there] at stored
    cases Option.some.inj stored
    rw [was] at closed
    contradiction

theorem Frozen.trans {a b c : World} (first : Frozen a b) (later : Frozen b c) : Frozen a c := by
  intro id row stored closed
  obtain ⟨row',stored',closed',p,d,t,u,n⟩ := first id row stored closed
  obtain ⟨row'',stored'',closed'',p',d',t',u',n'⟩ := later id row' stored' closed'
  exact ⟨row'',stored'',closed'',p'.trans p,d'.trans d,t'.trans t,u'.trans u,n'.trans n⟩

instance : Trans Frozen Frozen Frozen := ⟨Frozen.trans⟩

theorem filedForever (engine : RuleEngine) (calls : List (Request × List (Oracle service))) (w : World) :
    (visited w (session engine calls)).Pairwise Frozen := by
  have always : Meets (Answered (fun _ => True)) w (session engine calls) :=
    meetsAlways (M := service) (fun _ _ _ _ _ _ _ _ _ => trivial) w _
  exact List.isChain_iff_pairwise.mp ((sessionChain always).imp (fun _ _ step => frozenStep step))

/-! What every record of such a run has of the organization. -/

structure Sound (ok : Option String → Prop) (row : InvoiceColumns) : Prop where
  draft : row.state.editable = true → truthy row.referenceNumber = false
  named : truthy row.referenceNumber = true → truthy row.taxId = true ∧ truthy row.uid = true
  sent : row.state = .sent → truthy row.taxId = true ∧ truthy row.uid = true ∧ ok row.referenceNumber
  judged : row.state = .confirmed ∨ row.state = .rejected → truthy row.referenceNumber = true

def AllSound (ok : Option String → Prop) (w : World) : Prop := ∀ id row, w.invoices.get id = some row → Sound ok row

theorem soundDraft {ok : Option String → Prop} {row : InvoiceColumns} (open_ : row.state.editable = true)
    (bare : truthy row.referenceNumber = false) : Sound ok row := by
  refine ⟨fun _ => bare,fun handle => ?_,fun sent => ?_,fun verdict => ?_⟩
  · rw [bare] at handle; contradiction
  · rw [sent] at open_; contradiction
  · rcases verdict with same | same <;> rw [same] at open_ <;> contradiction

theorem soundClosed {ok : Option String → Prop} {row : InvoiceColumns} (closed : row.state.editable = false)
    (handle : truthy row.referenceNumber = true) (given : ok row.referenceNumber)
    (named : truthy row.taxId = true ∧ truthy row.uid = true) : Sound ok row := by
  refine ⟨fun open_ => ?_,fun _ => named,fun _ => ⟨named.1,named.2,given⟩,fun _ => handle⟩
  rw [closed] at open_
  contradiction

theorem Sound.closed {ok : Option String → Prop} {row : InvoiceColumns} (sound : Sound ok row)
    (handle : truthy row.referenceNumber = true) : row.state.editable = false := by
  cases open_ : row.state.editable
  · rfl
  · rw [sound.draft open_] at handle; contradiction

theorem soundStep {ok : Option String → Prop} (accepts : ∀ reference, truthy reference = true → ok reference)
    {w w' : World} (step : Step ok w w') (sound : AllSound ok w) : AllSound ok w' := by
  intro id row stored
  unfold Step at step
  generalize w'.invoices = store at step stored
  have saved : ∀ {record : InvoiceRecord}, (w.invoices.saveInvoice record).2.get id = some row →
      Sound ok record.toInvoiceColumns → Sound ok row := by
    intro record stored new
    rcases RecordStore.savedCases stored with old | ⟨p,rfl,_⟩
    · exact sound id row old
    · exact ⟨new.draft,new.named,new.sent,new.judged⟩
  cases step with
  | keep => exact sound id row stored
  | draft new open_ bare => exact saved stored (soundDraft open_ (by rw [bare]; rfl))
  | redraft key there was open_ kept =>
    exact saved stored (soundDraft open_ (by rw [kept]; exact (sound _ _ there).draft was))
  | file own sent named given =>
    refine saved stored ⟨fun open_ => ?_,fun _ => named,fun _ => ⟨named.1,named.2,given⟩,fun verdict => ?_⟩
    · rw [sent] at open_; contradiction
    · rw [sent] at verdict; simp at verdict
  | judge key there same handle shut =>
    obtain ⟨_,_,taxId,uid,reference⟩ := same
    have before := sound _ _ there
    refine saved stored (soundClosed (shut (before.closed handle)) ?_ ?_ ?_)
    · rw [reference]; exact handle
    · rw [reference]; exact accepts _ handle
    · rw [taxId,uid]; exact before.named handle
  | void key there same cancelled =>
    obtain ⟨_,_,taxId,uid,reference⟩ := same
    refine saved stored ⟨fun open_ => ?_,fun handle => ?_,fun sent => ?_,fun verdict => ?_⟩
    · rw [cancelled] at open_; contradiction
    · rw [taxId,uid]
      exact (sound _ _ there).named (by rw [← reference]; exact handle)
    · rw [cancelled] at sent; contradiction
    · rw [cancelled] at verdict; simp at verdict
  | delete there was => exact sound id row (RecordStore.getDeleted _ _ _ _ stored)

theorem soundSession {ok : Option String → Prop} (accepts : ∀ reference, truthy reference = true → ok reference)
    {engine : RuleEngine} {calls : List (Request × List (Oracle service))}
    (met : Meets (Answered ok) nothing (session engine calls)) :
    ∀ w ∈ visited nothing (session engine calls), AllSound ok w :=
  sessionKeeps met (fun _ _ step sound => soundStep accepts step sound) (fun _ _ stored => by
    rw [show nothing.invoices = Table.empty from rfl,Table.getEmpty] at stored
    contradiction)

/-! A record that the organization has: it has all the handles of it, and while it
is sent an inquiry finds it. -/

def Accepted (row : InvoiceColumns) : Prop :=
  row.state = .sent ∨ row.state = .confirmed ∨ row.state = .rejected →
    truthy row.taxId = true ∧ truthy row.uid = true ∧ truthy row.referenceNumber = true

instance (row : InvoiceColumns) : Decidable (Accepted row) := by
  unfold Accepted; infer_instance

def Inquirable (w : World) (r : Int × InvoiceColumns) : Prop :=
  r.2.state = .sent → ∀ limit : Int, limit < 0 ∨ (w.invoices.rows.length : Int) ≤ limit →
    RecordStore.invoice r ∈ w.invoices.listAwaitingInquiry r.2.profile limit

def InOrder (w : World) : Prop := ∀ r ∈ w.invoices.rows, Accepted r.2 ∧ Inquirable w r

theorem acceptedOf {row : InvoiceColumns} (sound : Sound (fun reference => truthy reference = true) row) :
    Accepted row := by
  rintro (sent | verdict)
  · exact sound.sent sent
  · have handle := sound.judged verdict
    exact ⟨(sound.named handle).1,(sound.named handle).2,handle⟩

theorem inquirable {w : World} {r : Int × InvoiceColumns} (stored : r ∈ w.invoices.rows)
    (accepted : Accepted r.2) : Inquirable w r := by
  intro sent limit enough
  obtain ⟨_,_,handle⟩ := accepted (.inl sent)
  have waits : RecordStore.awaiting r.2.profile r.2 = true := by
    simp [RecordStore.awaiting,sent,handle]
  have selected : r ∈ w.invoices.select (RecordStore.awaiting r.2.profile) :=
    List.mem_filter.mpr ⟨stored,waits⟩
  refine List.mem_map_of_mem ?_
  unfold RecordStore.limited
  split
  · exact selected
  · have few : (w.invoices.select (RecordStore.awaiting r.2.profile)).length ≤ limit.toNat := by
      have filtered : (w.invoices.select (RecordStore.awaiting r.2.profile)).length ≤ w.invoices.rows.length :=
        List.length_filter_le _ _
      omega
    rw [List.take_of_length_le few]
    exact selected

theorem sentAccepted (engine : RuleEngine) (calls : List (Request × List (Oracle service)))
    (met : Meets (Answered (fun reference => truthy reference = true)) nothing (session engine calls)) :
    ∀ w ∈ visited nothing (session engine calls), InOrder w := by
  intro w member r stored
  have sound := soundSession (fun _ handle => handle) met w member r.1 r.2 ((w.invoices.memGet _ _).mp stored)
  exact ⟨acceptedOf sound,inquirable stored (acceptedOf sound)⟩

/-! One submission, whose packet the answer names, and does not. -/
def filedBy (orc : Oracle service) : List (Request × List (Oracle service)) :=
  [(.submit Example.profile Example.invoice none,List.replicate 12 orc)]

theorem sentAcceptedOnce :
    InOrder (serial nothing (session Patterns.engine (filedBy (Example.smooth 1 [])))) :=
  sentAccepted Patterns.engine _ (by decide +kernel) _ (serialVisited _ _)

theorem sentUnaccepted : ∃ w ∈ visited nothing (session Patterns.engine (filedBy (Example.unlisted 1))), ¬ InOrder w := by
  refine ⟨_,serialVisited _ _,fun order => ?_⟩
  have accepted : ∀ r ∈ (serial nothing (session Patterns.engine (filedBy (Example.unlisted 1)))).invoices.rows,
      Accepted r.2 := fun r member => (order r member).1
  revert accepted
  decide +kernel

end Moadian.Filing
