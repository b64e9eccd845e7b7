import Mathlib.Data.List.Nodup
import Mathlib.Data.List.TakeWhile
import Moadian.Filing.Asking

/-! What an inquiry makes of the records. They are judged one after the other, each
by the answer about its own number, and stand in the store until it is their turn. -/
namespace Moadian.Filing
open Resumption Handler Trace

/-! What no judgement changes: which rows there are, what each was filed as, and the
record that a tax id finds. -/
structure Unmoved (s s' : RecordStore) : Prop where
  rows : ∀ i row, s.get i = some row → ∃ row', s'.get i = some row' ∧ SameFiling row row'
  found : ∀ name taxId, (s'.findByTaxId name taxId).bind (·.id) = (s.findByTaxId name taxId).bind (·.id)

theorem unmovedRefl (s : RecordStore) : Unmoved s s := ⟨fun _ row stored => ⟨row,stored,sameRefl row⟩,fun _ _ => rfl⟩

theorem sameTrans {a b c : InvoiceColumns} (h : SameFiling a b) (h' : SameFiling b c) : SameFiling a c :=
  ⟨h.1.trans h'.1,h.2.1.trans h'.2.1,h.2.2.1.trans h'.2.2.1,h.2.2.2.1.trans h'.2.2.2.1,h.2.2.2.2.trans h'.2.2.2.2⟩

theorem sameSymm {a b : InvoiceColumns} (h : SameFiling a b) : SameFiling b a :=
  ⟨h.1.symm,h.2.1.symm,h.2.2.1.symm,h.2.2.2.1.symm,h.2.2.2.2.symm⟩

theorem Unmoved.trans {a b c : RecordStore} (h : Unmoved a b) (h' : Unmoved b c) : Unmoved a c := by
  refine ⟨fun i row stored => ?_,fun name taxId => (h'.found name taxId).trans (h.found name taxId)⟩
  obtain ⟨row',stored',same⟩ := h.rows i row stored
  obtain ⟨row'',stored'',same'⟩ := h'.rows i row' stored'
  exact ⟨row'',stored'',sameTrans same same'⟩

theorem unmovedSave {store : RecordStore} (record : InvoiceRecord) {i : Int} {row : InvoiceColumns}
    (key : record.id = some i) (there : store.get i = some row) (same : SameFiling row record.toInvoiceColumns) :
    Unmoved store (store.saveInvoice record).2 := by
  constructor
  · intro j other stored
    by_cases here : j = i
    · subst here
      cases Option.some.inj (there.symm.trans stored)
      exact ⟨_,RecordStore.savedSame there key,rfl,same.2⟩
    · exact ⟨other,RecordStore.savedOther stored (fun own => here (Option.some.inj (own.symm.trans key))),sameRefl other⟩
  · intro name taxId
    unfold RecordStore.saveInvoice RecordStore.findByTaxId
    simp only [key]
    rw [Table.newestUpdate]
    · cases store.newest (RecordStore.carries name taxId) <;> simp [RecordStore.invoice]
    · intro a member
      cases Option.some.inj (there.symm.trans ((store.memGet i a).mp member))
      simp only [RecordStore.carries,RecordStore.columns,same.2.2.1]
      rfl

/-! One record against its answer. -/

def ruledState (status : Option StatusField) (before : InvoiceState) : InvoiceState :=
  if status.map StatusField.value = some "SUCCESS" then .confirmed
  else if status.map StatusField.value = some "FAILED" then .rejected
  else before

theorem verdictRuled (status : Option StatusField) (before : InvoiceState) :
    (Api.verdict status).getD before = ruledState status before := by
  unfold Api.verdict ruledState
  generalize status.map StatusField.value = text
  split
  · rfl
  · rfl
  · rename_i success failed
    rw [if_neg success,if_neg failed]
    rfl

-- `list(data.get("error") or [])` and the same of `"warning"` are made without a TypeError.
def listed (result : InquiryResult) : Bool :=
  !isError (Api.listOf ((result.data.elim [] InquiryData.modelDump).lookup "error")) &&
    !isError (Api.listOf ((result.data.elim [] InquiryData.modelDump).lookup "warning"))

def readable (results : List InquiryResult) (record : InvoiceRecord) : Bool :=
  (Api.byReference results record.referenceNumber).all listed

def named (s : RecordStore) (profile : Profile) (K : InvoiceRecord) : Option Int :=
  (Api.voids K).bind (fun taxId => (s.findByTaxId profile.name taxId).bind (·.id))

def IsTarget (s : RecordStore) (profile : Profile) (results : List InquiryResult) (batch : List InvoiceRecord) (i : Int) : Prop :=
  ∃ K ∈ batch, ∃ result, Api.byReference results K.referenceNumber = some result ∧
    ruledState result.status K.state = .confirmed ∧ named s profile K = some i ∧ K.id ≠ some i

def StandsAs (s : RecordStore) (record : InvoiceRecord) : Prop :=
  ∃ i row, record.id = some i ∧ s.get i = some row ∧ SameFiling row record.toInvoiceColumns

theorem blockAlone (result : InquiryResult) (w : World) (tr : Trace) :
    Runs (fun w' tr' out => Onward tr tr' ∧ w' = w ∧ isError out = !listed result) w tr (Api.inquiryBlock result) := by
  have whole : Api.inquiryBlock result = (perform .now >>= fun checkedAt : Moment =>
      ofExcept (Api.listOf ((result.data.elim [] InquiryData.modelDump).lookup "error")) >>= fun errors =>
        ofExcept (Api.listOf ((result.data.elim [] InquiryData.modelDump).lookup "warning")) >>= fun warnings =>
          pure (.obj [("status",Api.nullable (result.status.map StatusField.value)), ("checkedAt",.str checkedAt.isoformat),
            ("referenceNumber",Api.nullable result.referenceNumber), ("uid",Api.nullable result.uid),
            ("errors",.arr errors), ("warnings",.arr warnings)])) := by
    unfold Api.inquiryBlock
    cases result.data <;> rfl
  rw [whole]
  refine aloneRead rfl (fun inp at_ _ => ?_)
  have before := onwardSnoc (onwardRefl tr) (e := ⟨Op.now,inp,at_⟩) rfl
  unfold listed
  cases Api.listOf ((result.data.elim [] InquiryData.modelDump).lookup "error") with
  | error e => exact ⟨before,rfl,rfl⟩
  | ok errors =>
    cases Api.listOf ((result.data.elim [] InquiryData.modelDump).lookup "warning") with
    | error e => exact ⟨before,rfl,rfl⟩
    | ok warnings => exact ⟨before,rfl,rfl⟩

/-! What a record's turn leaves of the store: its own row with the state its answer
gives it, and all others but the one it cancels. -/
structure Turn (profile : Profile) (results : List InquiryResult) (record : InvoiceRecord) (s s' : RecordStore) : Prop where
  moved : Unmoved s s'
  other : ∀ i, record.id ≠ some i → ¬ IsTarget s profile results [record] i → s'.get i = s.get i
  silent : Api.byReference results record.referenceNumber = none → s' = s
  own : ∀ i result, record.id = some i → Api.byReference results record.referenceNumber = some result →
    (s'.get i).map (·.state) = some (ruledState result.status record.state)

theorem getOther {store : RecordStore} (record : InvoiceRecord) {i j : Int} (key : record.id = some i) (other : j ≠ i) :
    (store.saveInvoice record).2.get j = store.get j := by
  rw [RecordStore.getSave,key]
  exact if_neg other

theorem effectCases {w w' : World} {profile : Profile} {taxId : String} {K : InvoiceRecord}
    (effect : Effect w profile taxId K w') : w'.invoices = w.invoices ∨
      ∃ j row at_, w.invoices.findByTaxId profile.name taxId = some (RecordStore.invoice (j,row)) ∧
        w.invoices.get j = some row ∧ K.id ≠ some j ∧
        w'.invoices = (w.invoices.saveInvoice (Api.voided (RecordStore.invoice (j,row)) K at_)).2 := by
  unfold Effect at effect
  cases looked : w.invoices.findByTaxId profile.name taxId with
  | none =>
    simp only [looked] at effect
    exact .inl effect
  | some target =>
    obtain ⟨j,row,there,rfl,_⟩ := RecordStore.findCases looked
    simp only [looked] at effect
    split at effect
    · exact .inl effect
    · rename_i go
      obtain ⟨at_,saved⟩ := effect
      exact .inr ⟨j,row,at_,rfl,there,fun own => go (.inl own.symm),saved⟩

-- Its own row is written first; the row it names is read after that.
theorem turnOf {profile : Profile} {results : List InquiryResult} {record : InvoiceRecord} {result : InquiryResult}
    {block : Json} {w w1 w' : World} (stands : StandsAs w.invoices record)
    (answer : Api.byReference results record.referenceNumber = some result)
    (saved : w1.invoices = (w.invoices.saveInvoice (Api.judged record result block)).2)
    (after : w'.invoices = w1.invoices ∨ ((Api.judged record result block).state = .confirmed ∧
      ∃ taxId, Api.voids record = some taxId ∧ Effect w1 profile taxId (Api.judged record result block) w')) :
    Turn profile results record w.invoices w'.invoices := by
  obtain ⟨i,row,key,there,same⟩ := stands
  have moved : Unmoved w.invoices w1.invoices := saved ▸ unmovedSave (Api.judged record result block) key there same
  have state : (Api.judged record result block).state = ruledState result.status record.state := verdictRuled _ _
  have mine : w1.invoices.get i = some { RecordStore.columns (Api.judged record result block) with profile := row.profile } := by
    rw [saved]
    exact RecordStore.savedSame there key
  have turn : Turn profile results record w.invoices w1.invoices := by
    refine ⟨moved,fun j other _ => ?_,fun none_ => ?_,fun j given own answer' => ?_⟩
    · rw [saved]
      exact getOther (Api.judged record result block) key (fun here => other (here ▸ key))
    · rw [none_] at answer
      contradiction
    · cases Option.some.inj (key.symm.trans own)
      cases Option.some.inj (answer.symm.trans answer')
      rw [mine,← state]
      rfl
  rcases after with same' | ⟨confirmed,taxId,names,effect⟩
  · rw [same']
    exact turn
  · rcases effectCases effect with same' | ⟨j,target,at_,found,there',apart,wrote⟩
    · rw [same']
      exact turn
    · have here : named w.invoices profile record = some j := by
        unfold named
        rw [names,Option.bind_some,← moved.found,found]
        rfl
      have aimed : IsTarget w.invoices profile results [record] j :=
        ⟨record,by simp,result,answer,state.symm.trans confirmed,here,apart⟩
      rw [wrote]
      refine ⟨moved.trans (unmovedSave (Api.voided (RecordStore.invoice (j,target)) _ at_) rfl there' (sameRefl target)),
        fun k other spared => ?_,fun none_ => ?_,fun k given own answer' => ?_⟩
      · rw [getOther (Api.voided (RecordStore.invoice (j,target)) _ at_) (i := j) rfl (fun here : k = j => spared (here ▸ aimed))]
        exact turn.other k other spared
      · exact absurd (none_.symm.trans answer) (by simp)
      · have elsewhere : k ≠ j := fun here => apart (here ▸ own)
        rw [getOther (Api.voided (RecordStore.invoice (j,target)) _ at_) (i := j) rfl elsewhere]
        exact turn.own k given own answer'

theorem onwardTrans {a b c : Trace} (h : Onward a b) (h' : Onward b c) : Onward a c := by
  obtain ⟨more,rfl,all⟩ := h
  obtain ⟨more',rfl,all'⟩ := h'
  refine ⟨more ++ more',by simp,fun e member => ?_⟩
  rcases List.mem_append.mp member with old | new
  · exact all e old
  · exact all' e new

theorem turnAlone {profile : Profile} {results : List InquiryResult} {record : InvoiceRecord} {w : World}
    (stands : StandsAs w.invoices record) (tr : Trace) :
    Runs (fun w' tr' out => Onward tr tr' ∧ isError out = !readable results record ∧
      (isError out = true → w'.invoices = w.invoices) ∧
      (isError out = false → Turn profile results record w.invoices w'.invoices)) w tr
      (Api.reconcileRecord profile results record) := by
  unfold Api.reconcileRecord
  cases answer : Api.byReference results record.referenceNumber with
  | none =>
    refine ⟨onwardRefl tr,by simp [readable,answer,isError],fun _ => rfl,fun _ => ?_⟩
    exact ⟨unmovedRefl _,fun _ _ _ => rfl,fun _ => rfl,fun i result _ answer' => by rw [answer] at answer'; contradiction⟩
  | some result =>
    have open_ : readable results record = listed result := by rw [readable,answer]; rfl
    rw [open_]
    refine aloneBind (blockAlone result w tr) (fun w1 tr1 block heard => ?_) (fun w1 tr1 e heard => ?_)
    · obtain ⟨onward,rfl,fine⟩ := heard
      refine alonePerform (fun inp saved w2 answered => ⟨True.intro,?_⟩)
      have wrote : w2.invoices = (w1.invoices.saveInvoice (Api.judged record result block)).2 := by
        cases Option.some.inj answered
        rfl
      have onward2 := onwardSnoc onward (e := ⟨Op.saveInvoice (Api.judged record result block),inp,saved⟩) rfl
      split
      · rename_i confirmed
        cases names : Api.voids record with
        | none =>
          have idle : Api.applyCancellation (Api.judged record result block) profile = pure none := by
            unfold Api.applyCancellation
            rw [show Api.voids (Api.judged record result block) = none from names]
          rw [idle]
          exact ⟨onward2,fine,(fun never => by cases never),fun _ => turnOf stands answer wrote (.inl rfl)⟩
        | some taxId =>
          refine aloneBind (@cancellingAlone _ profile taxId (Api.judged record result block) names _)
            (fun w3 tr3 cancelled held => ?_) (fun w3 tr3 e held => ?_)
          · obtain ⟨effect,onward3,_⟩ := held
            exact ⟨onwardTrans onward2 onward3,fine,(fun never => by cases never),
              fun _ => turnOf stands answer wrote (.inr ⟨confirmed,taxId,names,effect⟩)⟩
          · obtain ⟨_,_,voided,never⟩ := held
            cases never
      · exact ⟨onward2,fine,(fun never => by cases never),fun _ => turnOf stands answer wrote (.inl rfl)⟩
    · obtain ⟨onward,rfl,fault⟩ := heard
      exact ⟨onward,fault,fun _ => rfl,fun never => by cases never⟩

theorem standsMoved {s s' : RecordStore} (moved : Unmoved s s') {record : InvoiceRecord} (stands : StandsAs s record) :
    StandsAs s' record := by
  obtain ⟨i,row,key,there,same⟩ := stands
  obtain ⟨row',there',same'⟩ := moved.rows i row there
  exact ⟨i,row',key,there',sameTrans (sameSymm same') same⟩

/-! The whole loop, by induction on the records: it stops at the first answer that
cannot be read. -/
structure Passed (profile : Profile) (results : List InquiryResult) (done : List InvoiceRecord) (s s' : RecordStore) : Prop where
  moved : Unmoved s s'
  other : ∀ i, ¬ IsTarget s profile results done i →
    (∀ c ∈ done, c.id = some i → Api.byReference results c.referenceNumber = none) → s'.get i = s.get i
  own : ∀ c ∈ done, ∀ i result, c.id = some i → Api.byReference results c.referenceNumber = some result →
    ¬ IsTarget s profile results done i → (s'.get i).map (·.state) = some (ruledState result.status c.state)

theorem targetMoved {s s' : RecordStore} (moved : Unmoved s s') {profile : Profile} {results : List InquiryResult}
    {batch : List InvoiceRecord} {i : Int} (target : IsTarget s' profile results batch i) :
    IsTarget s profile results batch i := by
  obtain ⟨K,member,result,answer,confirmed,names,apart⟩ := target
  refine ⟨K,member,result,answer,confirmed,?_,apart⟩
  unfold named at names ⊢
  rw [← names]
  exact congrArg _ (funext fun taxId => (moved.found profile.name taxId).symm)

theorem targetMore {s : RecordStore} {profile : Profile} {results : List InquiryResult} {batch more : List InvoiceRecord}
    (sub : ∀ c ∈ batch, c ∈ more) {i : Int} (target : IsTarget s profile results batch i) : IsTarget s profile results more i := by
  obtain ⟨K,member,rest⟩ := target
  exact ⟨K,sub K member,rest⟩

theorem passedNil (profile : Profile) (results : List InquiryResult) (s : RecordStore) : Passed profile results [] s s :=
  ⟨unmovedRefl s,fun _ _ _ => rfl,fun c member => by simp at member⟩

theorem passedCons {profile : Profile} {results : List InquiryResult} {record : InvoiceRecord} {done : List InvoiceRecord}
    {s s' s'' : RecordStore} (turn : Turn profile results record s s') (later : Passed profile results done s' s'')
    (apart : ∀ c ∈ done, c.id ≠ record.id) : Passed profile results (record :: done) s s'' := by
  have first : ∀ {i}, ¬ IsTarget s profile results (record :: done) i → ¬ IsTarget s profile results [record] i :=
    fun spared target => spared (targetMore (by simp) target)
  have rest : ∀ {i}, ¬ IsTarget s profile results (record :: done) i → ¬ IsTarget s' profile results done i :=
    fun spared target => spared (targetMore (fun c => List.mem_cons_of_mem _) (targetMoved turn.moved target))
  refine ⟨turn.moved.trans later.moved,fun i spared unanswered => ?_,fun c member i result key answer spared => ?_⟩
  · rw [later.other i (rest spared) (fun c member => unanswered c (List.mem_cons_of_mem _ member))]
    by_cases mine : record.id = some i
    · rw [turn.silent (unanswered record List.mem_cons_self mine)]
    · exact turn.other i mine (first spared)
  · rcases List.mem_cons.mp member with rfl | member
    · rw [later.other i (rest spared) (fun c' member' own => absurd (own.trans key.symm) (apart c' member'))]
      exact turn.own i result key answer
    · exact later.own c member i result key answer (rest spared)

theorem loopAlone {profile : Profile} {results : List InquiryResult} (pending : List InvoiceRecord) {w : World}
    (stands : ∀ c ∈ pending, StandsAs w.invoices c) (apart : pending.Pairwise (fun a b => a.id ≠ b.id)) (tr : Trace) :
    Runs (fun w' tr' _ => Onward tr tr' ∧
      Passed profile results (pending.takeWhile (readable results)) w.invoices w'.invoices) w tr
      (Api.reconcileRecords profile results pending) := by
  induction pending generalizing w tr with
  | nil => exact ⟨onwardRefl tr,passedNil profile results w.invoices⟩
  | cons record rest ih =>
    obtain ⟨differs,apart⟩ := List.pairwise_cons.mp apart
    refine aloneBind (turnAlone (stands record List.mem_cons_self) tr) (fun w1 tr1 first held => ?_) (fun w1 tr1 e held => ?_)
    · obtain ⟨onward,fine,_,turn⟩ := held
      have turn := turn rfl
      have read : readable results record = true := by simpa [isError] using fine
      have still : ∀ c ∈ rest, StandsAs w1.invoices c := fun c member =>
        standsMoved turn.moved (stands c (List.mem_cons_of_mem _ member))
      rw [List.takeWhile_cons_of_pos read]
      refine aloneBind (ih still apart tr1) (fun w2 tr2 later held => ?_) (fun w2 tr2 e held => ?_)
      all_goals
        obtain ⟨onward',passed⟩ := held
        refine ⟨onwardTrans onward onward',passedCons turn passed (fun c member => ?_)⟩
        exact (differs c ((List.takeWhile_sublist _).subset member)).symm
    · obtain ⟨onward,fault,same,_⟩ := held
      have unread : readable results record = false := by simpa [isError] using fault
      rw [List.takeWhile_cons_of_neg (by simp [unread]),same rfl]
      exact ⟨onward,passedNil profile results w.invoices⟩

/-! The inquiry as a whole. -/

def pendingOf (records : List InvoiceRecord) : List InvoiceRecord := records.filter (fun r => truthy r.referenceNumber)

def reconciling (records : List InvoiceRecord) (profile : Profile) (w : World) (orcs : List (Oracle service)) :
    World × Task service Exc (Nat × Nat × List Report) :=
  solo w (Task.start service (Api.reconcile records profile)) orcs

structure Asks (pending : List InvoiceRecord) (tr : Trace) : Prop where
  short : ∀ request ∈ asked tr, request.length ≤ Api.maxInquiryIds
  once : ∀ reference, (asked tr).flatten.count reference ≤ if reference ∈ numbers pending then 1 else 0
  all : failed tr = false → ∀ reference ∈ numbers pending, (asked tr).flatten.count reference = 1

def GivesVerdicts (w w' : World) (profile : Profile) (results : List InquiryResult) (pending : List InvoiceRecord) : Prop :=
  ∀ c ∈ pending, ∀ i, c.id = some i → ¬ IsTarget w.invoices profile results pending i →
    match Api.byReference results c.referenceNumber with
    | none => w'.invoices.get i = w.invoices.get i
    | some result => stateOf w' i = some (ruledState result.status c.state)

structure Reconciles (w w' : World) (profile : Profile) (pending : List InvoiceRecord) (tr : Trace) : Prop where
  asks : Asks pending tr
  nothing : failed tr = true → w'.invoices = w.invoices
  verdicts : failed tr = false → GivesVerdicts w w' profile (answers tr) pending
  kept : ∀ i row, w.invoices.get i = some row → ∃ row', w'.invoices.get i = some row' ∧ SameFiling row row'

/-! No request failed, and the loop has come to every record whose state its answer
changes: up to it, each answer has lists of errors and warnings, or none. -/
def Reached (w : World) (profile : Profile) (results : List InquiryResult) (pending : List InvoiceRecord) : Prop :=
  ∀ c ∈ pending, ∀ i, c.id = some i → ¬ IsTarget w.invoices profile results pending i →
    ∀ result, Api.byReference results c.referenceNumber = some result → ruledState result.status c.state ≠ c.state →
      c ∈ pending.takeWhile (readable results)

section Reconciling
variable {profile : Profile} {records : List InvoiceRecord} {w : World}

theorem standsOf {record : InvoiceRecord} {i : Int} (stored : w.invoices.getInvoice i = some record) :
    record.id = some i ∧ StandsAs w.invoices record := by
  obtain ⟨row,there,rfl⟩ := RecordStore.getCases stored
  exact ⟨rfl,i,row,rfl,there,sameRefl row⟩

theorem numbersFilled {pending : List InvoiceRecord} (filled : ∀ c ∈ pending, truthy c.referenceNumber = true) :
    (numbers pending).map some = pending.map (·.referenceNumber) := by
  induction pending with
  | nil => rfl
  | cons c rest ih =>
    obtain ⟨reference,given⟩ : ∃ reference, c.referenceNumber = some reference := by
      cases given : c.referenceNumber with
      | none => simpa [given] using filled c List.mem_cons_self
      | some reference => exact ⟨reference,rfl⟩
    have later := ih (fun c' member => filled c' (List.mem_cons_of_mem _ member))
    unfold numbers at later ⊢
    simp only [List.filterMap_cons,given,List.map_cons,later]

theorem pendingFilled : ∀ c ∈ pendingOf records, truthy c.referenceNumber = true :=
  fun _ member => (List.mem_filter.mp member).2

theorem pendingApart (stored : ∀ r ∈ records, ∃ i, w.invoices.getInvoice i = some r)
    (distinct : (numbers (pendingOf records)).Nodup) : (pendingOf records).Pairwise (fun a b => a.id ≠ b.id) := by
  have distinct : ((pendingOf records).map (·.referenceNumber)).Nodup := by
    rw [← numbersFilled pendingFilled]
    exact List.Nodup.map (Option.some_injective String) distinct
  refine (List.pairwise_map.mp distinct).imp_of_mem (fun {a b} left right differs same => differs ?_)
  obtain ⟨i,there⟩ := stored a (List.mem_filter.mp left).1
  obtain ⟨j,there'⟩ := stored b (List.mem_filter.mp right).1
  have key : i = j := Option.some.inj ((standsOf there).1.symm.trans (same.trans (standsOf there').1))
  subst key
  exact congrArg (·.referenceNumber) (Option.some.inj (there.symm.trans there'))

theorem clientAlone (profile : Profile) (w : World) (tr : Trace) : Runs (Quick w tr) w tr (Api.fromProfile profile) := by
  unfold Api.fromProfile
  refine aloneRead rfl (fun inp client _ => ?_)
  cases client with
  | ok client =>
    refine ⟨rfl,?_,?_,?_⟩
    · rw [askedSnoc]
      exact List.append_nil _
    · rw [answersSnoc]
      exact List.append_nil _
    · rw [failedSnoc]
      exact Bool.or_false _
  | error e =>
    refine ⟨rfl,?_,?_⟩
    · rw [askedSnoc]
      exact List.append_nil _
    · rw [failedSnoc]
      exact Bool.or_true _

def Ends (w : World) (profile : Profile) (pending : List InvoiceRecord) (w' : World) (tr : Trace) : Prop :=
  (failed tr = true ∧ w'.invoices = w.invoices ∧ asked tr <+: (slices Api.maxInquiryIds pending).map numbers) ∨
    (failed tr = false ∧ asked tr = (slices Api.maxInquiryIds pending).map numbers ∧
      Passed profile (answers tr) (pending.takeWhile (readable (answers tr))) w.invoices w'.invoices)

theorem reconcileAlone (stored : ∀ r ∈ records, ∃ i, w.invoices.getInvoice i = some r)
    (distinct : (numbers (pendingOf records)).Nodup) :
    Runs (fun w' tr' _ => Ends w profile (pendingOf records) w' tr') w [] (Api.reconcile records profile) := by
  have stands : ∀ c ∈ pendingOf records, StandsAs w.invoices c := fun c member => by
    obtain ⟨i,there⟩ := stored c (List.mem_filter.mp member).1
    exact (standsOf there).2
  unfold Api.reconcile
  change Runs _ w [] (if (pendingOf records).isEmpty = true then _ else _)
  split
  · rename_i none_
    rw [List.isEmpty_iff.mp none_]
    exact .inr ⟨rfl,by rw [slicesNil]; rfl,passedNil profile _ w.invoices⟩
  · refine aloneBind (clientAlone profile w []) (fun w1 tr1 client made => ?_) (fun w1 tr1 e made => ?_)
    · obtain ⟨rfl,silent⟩ := made
      refine aloneBind (inquireHeard client _ w1 tr1) (fun w2 tr2 results heard => ?_) (fun w2 tr2 e heard => ?_)
      · obtain ⟨rfl,asks,told,fine⟩ := heard
        rw [silent.asked] at asks
        rw [silent.answers] at told
        have told : answers tr2 = results := told
        refine aloneBind (@loopAlone profile results _ _ stands (pendingApart stored distinct) tr2)
          (fun w3 tr3 reported held => ?_) (fun w3 tr3 e held => ?_)
        all_goals
          obtain ⟨onward,passed⟩ := held
          have later := onwardSilent onward
          rw [← told,← later.answers] at passed
          exact .inr ⟨later.failed.trans (fine.trans silent.failed),later.asked.trans asks,passed⟩
      · obtain ⟨rfl,⟨made,initial,asks⟩,fault⟩ := heard
        rw [silent.asked] at asks
        exact .inl ⟨fault,rfl,by rw [asks]; exact initial⟩
    · obtain ⟨rfl,asks,fault⟩ := made
      exact .inl ⟨fault,rfl,by rw [asks]; exact List.nil_prefix⟩

theorem slicesNumbers (pending : List InvoiceRecord) :
    ((slices Api.maxInquiryIds pending).map numbers).flatten = numbers pending := by
  have whole := slicesFlatten (show 0 < Api.maxInquiryIds by decide) pending
  generalize slices Api.maxInquiryIds pending = chunks at whole
  subst whole
  unfold numbers
  rw [List.filterMap_flatten]

theorem asksOnce {pending : List InvoiceRecord} {tr : Trace} (distinct : (numbers pending).Nodup)
    (initial : asked tr <+: (slices Api.maxInquiryIds pending).map numbers)
    (all : failed tr = false → asked tr = (slices Api.maxInquiryIds pending).map numbers) : Asks pending tr := by
  refine ⟨fun request member => ?_,fun reference => ?_,fun fine reference member => ?_⟩
  · obtain ⟨chunk,part,rfl⟩ := List.mem_map.mp (initial.subset member)
    exact (List.length_filterMap_le _ chunk).trans (slicesShort _ pending chunk part)
  · have sub : (asked tr).flatten.Sublist (numbers pending) := by
      obtain ⟨more,whole⟩ := initial
      rw [← slicesNumbers,← whole,List.flatten_append]
      exact List.sublist_append_left _ _
    split
    · exact (List.nodup_iff_count_le_one.mp (distinct.sublist sub)) reference
    · rename_i missing
      exact (List.count_eq_zero_of_not_mem (fun there => missing (sub.subset there))).le
  · rw [all fine,slicesNumbers]
    exact List.count_eq_one_of_mem distinct member

theorem keptOf {pending : List InvoiceRecord} {w' : World} {tr : Trace} (ends : Ends w profile pending w' tr) :
    Unmoved w.invoices w'.invoices := by
  rcases ends with ⟨_,same,_⟩ | ⟨_,_,passed⟩
  · rw [same]
    exact unmovedRefl _
  · exact passed.moved

-- A record the loop has not come to is as it was.
theorem untouched {pending : List InvoiceRecord} {results : List InquiryResult} {w' : World}
    (apart : pending.Pairwise (fun a b => a.id ≠ b.id))
    (passed : Passed profile results (pending.takeWhile (readable results)) w.invoices w'.invoices) {c : InvoiceRecord}
    (member : c ∈ pending) {i : Int} (key : c.id = some i) (spared : ¬ IsTarget w.invoices profile results pending i)
    (idle : c ∈ pending.takeWhile (readable results) → Api.byReference results c.referenceNumber = none) :
    w'.invoices.get i = w.invoices.get i := by
  have sub := List.takeWhile_sublist (l := pending) (readable results)
  refine passed.other i (fun target => spared (targetMore sub.subset target)) (fun c' done own => ?_)
  by_cases same : c' = c
  · subst same
    exact idle done
  · have symm : Std.Symm (fun a b : InvoiceRecord => a.id ≠ b.id) := ⟨fun _ _ differs => differs.symm⟩
    exact absurd (own.trans key.symm) (apart.forall (sub.subset done) member same)

theorem verdictsReached {pending : List InvoiceRecord} {results : List InquiryResult} {w' : World}
    (stored : ∀ c ∈ pending, ∃ i, w.invoices.getInvoice i = some c) (apart : pending.Pairwise (fun a b => a.id ≠ b.id))
    (passed : Passed profile results (pending.takeWhile (readable results)) w.invoices w'.invoices) :
    GivesVerdicts w w' profile results pending ↔ Reached w profile results pending := by
  have before : ∀ c ∈ pending, ∀ i, c.id = some i → stateOf w i = some c.state := fun c member i key => by
    obtain ⟨j,there⟩ := stored c member
    obtain ⟨row,there',rfl⟩ := RecordStore.getCases there
    cases Option.some.inj key
    rw [stateOf,there']
    rfl
  have sub := List.takeWhile_sublist (l := pending) (readable results)
  constructor
  · intro verdicts c member i key spared result answer changes
    by_contra late
    have given := verdicts c member i key spared
    rw [answer] at given
    have same := untouched apart passed member key spared (fun done => absurd done late)
    have old : stateOf w' i = some c.state := (congrArg (Option.map _) same).trans (before c member i key)
    exact changes (Option.some.inj (given.symm.trans old))
  · intro reached c member i key spared
    cases answer : Api.byReference results c.referenceNumber with
    | none => exact untouched apart passed member key spared (fun _ => answer)
    | some result =>
      by_cases done : c ∈ pending.takeWhile (readable results)
      · exact passed.own c done i result key answer (fun target => spared (targetMore sub.subset target))
      · have same := untouched apart passed member key spared (fun there => absurd there done)
        have unchanged : ruledState result.status c.state = c.state := by
          by_contra changes
          exact done (reached c member i key spared result answer changes)
        exact ((congrArg (Option.map _) same).trans (before c member i key)).trans (congrArg some unchanged.symm)

/-! The two filed records, asked about at once, and the organization's two answers; then
the first of these with an `error` that is no list. -/
theorem reachedAll {pending : List InvoiceRecord} {results : List InquiryResult}
    (all : ∀ c ∈ pending, readable results c = true) : Reached w profile results pending := by
  intro c member i key spared result answer changes
  rw [List.takeWhile_eq_self_iff.mpr all]
  exact member

def bothFiled : List InvoiceRecord := afterPair.invoices.listAwaitingInquiry Example.profile.name 100

def bothAnswered (data : InquiryData) : List (Oracle service) :=
  List.replicate 9 (Example.smooth 3 [Example.ruling "ref-2" .failed,
    { Example.ruling "ref-1" .success with data := some data }])

def answered : InquiryData := .detail { success := true }

def garbled : InquiryData := .dict [("error",.int 5)]

theorem bothStored : ∀ r ∈ bothFiled, ∃ i, afterPair.invoices.getInvoice i = some r := by
  intro r member
  obtain ⟨i,row,there,rfl,_⟩ := RecordStore.memAwaiting member
  refine ⟨i,?_⟩
  unfold RecordStore.getInvoice
  rw [there]
  rfl

theorem reconciles (records : List InvoiceRecord) (profile : Profile) (w : World) (orcs : List (Oracle service))
    (stored : ∀ r ∈ records, ∃ i, w.invoices.getInvoice i = some r) (distinct : (numbers (pendingOf records)).Nodup)
    (ended : (reconciling records profile w orcs).2.prog.Ended) :
    Reconciles w (reconciling records profile w orcs).1 profile (pendingOf records) (reconciling records profile w orcs).2.trace ↔
      (failed (reconciling records profile w orcs).2.trace = true ∨
        Reached w profile (answers (reconciling records profile w orcs).2.trace) (pendingOf records)) := by
  obtain ⟨out,done⟩ := Prog.outcomeOfEnded ended
  have ends : Ends w profile (pendingOf records) (reconciling records profile w orcs).1
      (reconciling records profile w orcs).2.trace := aloneEnds (aloneSolo (t := Task.start service _)
    (@reconcileAlone profile records w stored distinct) (soloMeetsAlways (fun _ _ _ => True.intro) _ _ orcs)) done
  have kept := (keptOf ends).rows
  have held : ∀ c ∈ pendingOf records, ∃ i, w.invoices.getInvoice i = some c := fun c member =>
    stored c (List.mem_filter.mp member).1
  rcases ends with ⟨fault,same,initial⟩ | ⟨fine,all,passed⟩
  · refine ⟨fun _ => .inl fault,fun _ => ⟨?_,fun _ => same,fun fine => ?_,kept⟩⟩
    · exact asksOnce distinct initial (fun fine => by rw [fault] at fine; contradiction)
    · rw [fault] at fine
      contradiction
  · have exactly := verdictsReached held (pendingApart stored distinct) passed
    constructor
    · exact fun reconciled => .inr (exactly.mp (reconciled.verdicts fine))
    · rintro (fault | reached)
      · rw [fine] at fault
        contradiction
      · refine ⟨asksOnce distinct (all ▸ List.prefix_rfl) (fun _ => all),fun fault => ?_,fun _ => exactly.mpr reached,kept⟩
        rw [fine] at fault
        contradiction

theorem reconcilesBoth : Reconciles afterPair (reconciling bothFiled Example.profile afterPair (bothAnswered answered)).1
    Example.profile (pendingOf bothFiled) (reconciling bothFiled Example.profile afterPair (bothAnswered answered)).2.trace :=
  (reconciles bothFiled Example.profile afterPair (bothAnswered answered) bothStored (by decide +kernel) (by decide +kernel)).mpr
    (.inr (reachedAll (by decide +kernel)))

theorem verdictLost : ¬ Reconciles afterPair (reconciling bothFiled Example.profile afterPair (bothAnswered garbled)).1
    Example.profile (pendingOf bothFiled) (reconciling bothFiled Example.profile afterPair (bothAnswered garbled)).2.trace := by
  intro reconciled
  have met : failed (reconciling bothFiled Example.profile afterPair (bothAnswered garbled)).2.trace = false ∧
      (∀ K ∈ pendingOf bothFiled, named afterPair.invoices Example.profile K ≠ some 2) ∧
      ∃ c ∈ pendingOf bothFiled, c.id = some 2 ∧ (Api.byReference
        (answers (reconciling bothFiled Example.profile afterPair (bothAnswered garbled)).2.trace) c.referenceNumber).map
          (fun result => ruledState result.status c.state) = some .rejected ∧
        stateOf (reconciling bothFiled Example.profile afterPair (bothAnswered garbled)).1 2 = some .sent := by
    decide +kernel
  obtain ⟨fine,unnamed,c,member,key,rejected,sent⟩ := met
  obtain ⟨result,answer,rejected⟩ := Option.map_eq_some_iff.mp rejected
  have given := reconciled.verdicts fine c member 2 key (fun target => by
    obtain ⟨K,among,_,_,_,names,_⟩ := target
    exact unnamed K among names)
  rw [answer] at given
  have moved := sent.symm.trans given
  rw [rejected] at moved
  contradiction

end Reconciling
end Moadian.Filing
