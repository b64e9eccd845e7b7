import Moadian.Filing.Finality

/-! What a confirmed ابطالی does to the other records, in every store that requests
reach, in the middle of one or between two. -/
namespace Moadian.Filing
open Resumption Handler Trace

def during (engine : RuleEngine) (calls : List (Request × List (Oracle service))) (request : Request)
    (orcs : List (Oracle service)) : World × Task service Exc Reply :=
  solo (serial nothing (session engine calls)) (Task.start service (request.handle engine)) orcs

def cancelling (record : InvoiceRecord) (profile : Profile) (w : World) (orcs : List (Oracle service)) :
    World × Task service Exc (Option String) :=
  solo w (Task.start service (Api.applyCancellation record profile)) orcs

def filedUnder (profile : Profile) (taxId : String) (row : InvoiceColumns) : Bool :=
  RecordStore.carries profile.name taxId row && truthy row.referenceNumber

/-! What was filed under the tax id is cancelled; nothing else changes state, and no
draft is ever cancelled. -/
def VoidsExactly (w w' : World) (profile : Profile) (taxId : String) : Prop :=
  ∀ r ∈ w.invoices.rows,
    stateOf w' r.1 = some (if filedUnder profile taxId r.2 = true then .cancelled else r.2.state) ∧
      (r.2.state.editable = true → stateOf w' r.1 ≠ some .cancelled)

instance (w w' : World) (profile : Profile) (taxId : String) : Decidable (VoidsExactly w w' profile taxId) := by
  unfold VoidsExactly; infer_instance

def isTarget (w : World) (profile : Profile) (taxId : String) (id : Option Int) (r : Int × InvoiceColumns) : Bool :=
  (w.invoices.findByTaxId profile.name taxId).any (fun target => target.id = some r.1 && target.id ≠ id)

/-! The newest record under the tax id was filed under it, or is cancelled already,
and so is every other one that was filed under it. -/
def Unambiguous (w : World) (profile : Profile) (taxId : String) (id : Option Int) : Prop :=
  ∀ r ∈ w.invoices.rows, r.2.state = .cancelled ∨ isTarget w profile taxId id r = filedUnder profile taxId r.2

instance (w : World) (profile : Profile) (taxId : String) (id : Option Int) :
    Decidable (Unambiguous w profile taxId id) := by
  unfold Unambiguous; infer_instance

section Voiding
variable {w w' : World} {profile : Profile} {taxId : String} {K : InvoiceRecord}

theorem duringSound (engine : RuleEngine) (calls : List (Request × List (Oracle service))) (request : Request)
    (orcs : List (Oracle service)) : AllSound (fun _ => True) (during engine calls request orcs).1 := by
  have always : Meets (Answered (fun _ => True)) nothing (session engine (calls ++ [(request,orcs)])) :=
    meetsAlways (M := service) (fun _ _ _ _ _ _ _ _ _ => trivial) nothing _
  have here : (during engine calls request orcs).1 ∈ visited nothing (session engine (calls ++ [(request,orcs)])) := by
    have last := serialVisited nothing (session engine (calls ++ [(request,orcs)]))
    have same : serial nothing (session engine (calls ++ [(request,orcs)])) = (during engine calls request orcs).1 := by
      rw [session,List.map_append,serialAppend]
      rfl
    rw [same] at last
    exact last
  exact soundSession (fun _ _ => trivial) always _ here

/-! The steps of `_apply_cancellation`. -/

def Effect (w : World) (profile : Profile) (taxId : String) (K : InvoiceRecord) (w' : World) : Prop :=
  match w.invoices.findByTaxId profile.name taxId with
  | none => w'.invoices = w.invoices
  | some target => if target.id = K.id ∨ target.state = .cancelled then w'.invoices = w.invoices
      else ∃ at_, w'.invoices = (w.invoices.saveInvoice (Api.voided target K at_)).2

theorem alonePerform {α : Type} {C : World → Trace → Event service → Prop} {R : World → World → Prop}
    {Q : World → Trace → Except Exc α → Prop} {tr : Trace} {o : Op} {f : o.Ans → Handler α}
    (next : ∀ inp a w', respond o inp w = some (a,w') →
      R w w' ∧ Alone (M := service) C R Q w' (tr ++ [⟨o,inp,a⟩]) (f a)) :
    Alone (M := service) C R Q w tr (perform o >>= f) := fun inp a w' answered _ => next inp a w' answered

def reads : Op → Bool
  | .saveInvoice _ | .deleteInvoice _ | .postInvoice _ => false
  | _ => true

theorem readsKeep {o : Op} (read : reads o = true) {inp : o.Input} {a : o.Ans} {w w' : World}
    (answered : respond o inp w = some (a,w')) : w' = w := by
  cases o <;> first | contradiction | exact (congrArg Prod.snd (Option.some.inj answered)).symm

theorem aloneRead {α : Type} {C : World → Trace → Event service → Prop}
    {Q : World → Trace → Except Exc α → Prop} {tr : Trace} {o : Op} {f : o.Ans → Handler α} (read : reads o = true)
    (next : ∀ inp a, respond o inp w = some (a,w) →
      Alone (M := service) C (fun _ _ => True) Q w (tr ++ [⟨o,inp,a⟩]) (f a)) :
    Alone (M := service) C (fun _ _ => True) Q w tr (perform o >>= f) := by
  refine alonePerform (fun inp a w' answered => ⟨True.intro,?_⟩)
  have same := readsKeep read answered
  subst same
  exact next inp a answered

def here : Op → Bool
  | .getInvoice _ | .saveInvoice _ | .deleteInvoice _ | .listAwaitingInquiry _ _ | .findByTaxId _ _ | .now => true
  | _ => false

def Onward (tr tr' : Trace) : Prop := Beyond (M := service) (fun o => here o = true) tr tr'

theorem onwardRefl (tr : Trace) : Onward tr tr := ⟨[],by simp⟩

theorem onwardSnoc {tr tr' : Trace} (h : Onward tr tr') {e : Event service} (local_ : here e.op = true) :
    Onward tr (tr' ++ [e]) := by
  obtain ⟨more,rfl,all⟩ := h
  refine ⟨more ++ [e],by simp,fun x member => ?_⟩
  rcases List.mem_append.mp member with old | new
  · exact all x old
  · cases List.mem_singleton.mp new
    exact local_

theorem cancellingAlone (names : Api.voids K = some taxId) (tr : Trace) :
    Alone (M := service) (fun _ _ _ => True) (fun _ _ => True)
      (fun w' tr' out => Effect w profile taxId K w' ∧ Onward tr tr' ∧ ∃ voided, out = .ok voided) w tr
      (Api.applyCancellation K profile) := by
  unfold Api.applyCancellation
  simp only [names]
  refine aloneRead rfl (fun inp found answered => ?_)
  have looked : w.invoices.findByTaxId profile.name taxId = found := congrArg Prod.fst (Option.some.inj answered)
  have first := onwardSnoc (onwardRefl tr) (e := ⟨Op.findByTaxId profile.name taxId,inp,found⟩) rfl
  cases found with
  | none =>
    refine ⟨?_,first,_,rfl⟩
    simp only [Effect,looked]
  | some target =>
    simp only
    split
    · rename_i skip
      refine ⟨?_,first,_,rfl⟩
      simp only [Effect,looked,if_pos skip]
    · rename_i go
      refine aloneRead rfl (fun clock at_ _ => ?_)
      refine alonePerform (fun inp saved w2 answered => ⟨trivial,?_⟩)
      refine ⟨?_,onwardSnoc (onwardSnoc first rfl) rfl,_,rfl⟩
      simp only [Effect,looked,if_neg go]
      cases Option.some.inj answered
      exact ⟨at_,rfl⟩

theorem cancellingEffect (names : Api.voids K = some taxId) {orcs : List (Oracle service)}
    (ended : (cancelling K profile w orcs).2.prog.Ended) : Effect w profile taxId K (cancelling K profile w orcs).1 := by
  obtain ⟨out,done⟩ := Prog.outcomeOfEnded ended
  exact (aloneEnds (aloneSolo (t := Task.start service _) (cancellingAlone names [])
    (soloMeetsAlways (fun _ _ _ => trivial) _ _ orcs)) done).1

theorem stateAfter (effect : Effect w profile taxId K w') {r : Int × InvoiceColumns} (stored : r ∈ w.invoices.rows) :
    stateOf w' r.1 = some (if isTarget w profile taxId K.id r = true then .cancelled else r.2.state) := by
  have before : w.invoices.get r.1 = some r.2 := (w.invoices.memGet _ _).mp stored
  have untouched : w'.invoices = w.invoices → stateOf w' r.1 = some r.2.state := fun same => by
    unfold stateOf
    rw [same,before]
    rfl
  unfold Effect at effect
  unfold isTarget
  cases looked : w.invoices.findByTaxId profile.name taxId with
  | none =>
    rw [looked] at effect
    exact untouched effect
  | some target =>
    obtain ⟨id,row,there,rfl,_⟩ := RecordStore.findCases looked
    simp only [looked] at effect
    simp only [Option.any_some,Bool.and_eq_true,decide_eq_true_eq]
    split at effect
    · rename_i skip
      rw [untouched effect]
      split
      · rename_i target
        obtain ⟨here,other⟩ := target
        cases Option.some.inj here
        rw [before] at there
        cases Option.some.inj there
        rcases skip with same | cancelled
        · exact absurd same other
        · exact congrArg some cancelled
      · rfl
    · rename_i go
      obtain ⟨at_,same⟩ := effect
      unfold stateOf
      rw [same]
      by_cases here : id = r.1
      · subst here
        rw [RecordStore.savedSame there rfl,if_pos ⟨rfl,(not_or.mp go).1⟩]
        rfl
      · have other : (Api.voided (RecordStore.invoice (id,row)) K at_).id ≠ some r.1 :=
          fun own => here (Option.some.inj own)
        rw [RecordStore.savedOther before other,if_neg (fun target => other target.1)]
        rfl

theorem voidsRow {ok : Option String → Prop} {row : InvoiceColumns} (sound : Sound ok row) (target : Bool) :
    (some (if target = true then .cancelled else row.state) =
          some (if filedUnder profile taxId row = true then .cancelled else row.state) ∧
        (row.state.editable = true →
          some (if target = true then .cancelled else row.state) ≠ some InvoiceState.cancelled)) ↔
      (row.state = .cancelled ∨ target = filedUnder profile taxId row) := by
  have closed : filedUnder profile taxId row = true → row.state.editable = false := fun filed =>
    sound.closed (Bool.and_eq_true_iff.mp filed).2
  have draft : row.state.editable = true → row.state ≠ .cancelled := fun open_ cancelled => by
    rw [cancelled] at open_
    contradiction
  cases filed : filedUnder profile taxId row <;> cases target
  · simpa using draft
  · constructor
    · rintro ⟨same,_⟩
      exact .inl (Option.some.inj same).symm
    · rintro (cancelled | never)
      · exact ⟨congrArg some cancelled.symm,fun open_ => absurd cancelled (draft open_)⟩
      · contradiction
  · constructor
    · rintro ⟨same,_⟩
      exact .inl (Option.some.inj same)
    · rintro (cancelled | never)
      · exact ⟨congrArg some cancelled,fun open_ => absurd cancelled (draft open_)⟩
      · contradiction
  · simp [closed filed]

theorem voidsExactly (engine : RuleEngine) (calls : List (Request × List (Oracle service))) (request : Request)
    (orcs more : List (Oracle service)) (K : InvoiceRecord) (profile : Profile) (taxId : String)
    (names : Api.voids K = some taxId)
    (ended : (cancelling K profile (during engine calls request orcs).1 more).2.prog.Ended) :
    VoidsExactly (during engine calls request orcs).1
        (cancelling K profile (during engine calls request orcs).1 more).1 profile taxId ↔
      Unambiguous (during engine calls request orcs).1 profile taxId K.id := by
  have effect := cancellingEffect names ended
  have sound := duringSound engine calls request orcs
  refine forall₂_congr (fun r stored => ?_)
  rw [stateAfter effect stored]
  exact voidsRow (sound r.1 r.2 ((Table.memGet _ _ _).mp stored)) _

/-! An original and its ابطالی, filed, without and with a later draft that was saved
under the same tax id; then an inquiry up to the confirmation of the ابطالی. -/
def lastSaved (tr : Trace) : Option InvoiceRecord := tr.getLast?.bind (fun e => recordSaved e.op)

def withDraft : List (Request × List (Oracle service)) :=
  filedPair ++ [(.save Example.profile (Example.under original),[Example.smooth 3 []])]

def confirming (calls : List (Request × List (Oracle service))) : World × Task service Exc Reply :=
  during Patterns.engine calls (.inquireOne Example.profile 2)
    (List.replicate 7 (Example.smooth 4 [Example.ruling "ref-2" .success]))

theorem voidsFiled : ∃ K ∈ lastSaved (confirming filedPair).2.trace, K.state = .confirmed ∧
    VoidsExactly (confirming filedPair).1
      (cancelling K Example.profile (confirming filedPair).1 (List.replicate 3 (Example.smooth 5 []))).1
      Example.profile original := by
  have met : ∃ K ∈ lastSaved (confirming filedPair).2.trace, K.state = .confirmed ∧
      Api.voids K = some original ∧
      (cancelling K Example.profile (confirming filedPair).1 (List.replicate 3 (Example.smooth 5 []))).2.prog.Ended ∧
      Unambiguous (confirming filedPair).1 Example.profile original K.id := by decide +kernel
  obtain ⟨K,saved,confirmed,names,ended,clear⟩ := met
  exact ⟨K,saved,confirmed,(voidsExactly Patterns.engine filedPair _ _ _ K Example.profile original names ended).mpr clear⟩

theorem voidsDraft : ∃ K ∈ lastSaved (confirming withDraft).2.trace, K.state = .confirmed ∧
    Api.voids K = some original ∧
    (cancelling K Example.profile (confirming withDraft).1 (List.replicate 3 (Example.smooth 5 []))).2.prog.Ended ∧
    ¬ VoidsExactly (confirming withDraft).1
      (cancelling K Example.profile (confirming withDraft).1 (List.replicate 3 (Example.smooth 5 []))).1
      Example.profile original := by decide +kernel

end Voiding
end Moadian.Filing
