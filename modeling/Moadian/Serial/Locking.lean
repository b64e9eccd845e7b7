import Mathlib.Logic.Function.Basic
import Moadian.Serial.Moves

/-! Who holds the lock, in what order it was taken, and whose the temporary files are. -/
namespace Moadian.Serial
open Resumption

variable {P : Nat → Participant} {σ τ : Nat → Stage} {w w' : Host} {i j : Nat} {s : Stage}

def callerOf (P : Nat → Participant) (i : Nat) : Caller := (P i).caller i

@[simp] theorem callerId (P : Nat → Participant) (i : Nat) : (callerOf P i).id = i := by
  unfold callerOf
  cases P i <;> rfl

theorem callerInjective (same : callerOf P i = callerOf P j) : i = j := by
  have ids := congrArg Caller.id same
  simpa using ids

def Alive (P : Nat → Participant) (w : Host) (i : Nat) : Prop := (callerOf P i).process ∉ w.dead

instance (P : Nat → Participant) (w : Host) (i : Nat) : Decidable (Alive P w i) :=
  inferInstanceAs (Decidable (_ ∉ w.dead))

def Host.order (w : Host) : List Nat := w.acquired.map Prod.fst

-- The one whose turn is on holds the lock; every turn was taken once, by a process that had started.
structure Locking (P : Nat → Participant) (σ : Nat → Stage) (w : Host) : Prop where
  holder : ∀ c, w.flock = some c → ∃ i, c = callerOf P i ∧ (σ i).locked = true ∧ Alive P w i
  locked : ∀ i, (σ i).locked = true → Alive P w i → w.flock = some (callerOf P i)
  inTurn : ∀ i, (σ i).locked = true → (σ i).turn = true
  turns : ∀ i, (σ i).turn = true ↔ i ∈ w.order
  once : w.order.Nodup
  newest : ∀ i, w.flock = some (callerOf P i) → w.order.getLast? = some i
  begun : ∀ i, (σ i).turn = true → (callerOf P i).process ∈ w.started

theorem Locking.frame (h : Locking P σ w) (stages : ∀ i, (τ i).turn = (σ i).turn ∧ (τ i).locked = (σ i).locked)
    (flock : w'.flock = w.flock) (dead : w'.dead = w.dead) (acquired : w'.acquired = w.acquired)
    (started : w.started ⊆ w'.started) : Locking P τ w' := by
  have order : w'.order = w.order := by rw [Host.order,acquired]; rfl
  have alive : ∀ i, Alive P w' i ↔ Alive P w i := fun i => by rw [Alive,dead]; rfl
  constructor
  · intro c held
    obtain ⟨i,own,locked,up⟩ := h.holder c (flock ▸ held)
    exact ⟨i,own,(stages i).2.trans locked,(alive i).mpr up⟩
  · intro i locked up
    rw [flock]
    exact h.locked i ((stages i).2.symm.trans locked) ((alive i).mp up)
  · exact fun i locked => (stages i).1.trans (h.inTurn i ((stages i).2.symm.trans locked))
  · exact fun i => by rw [(stages i).1,order]; exact h.turns i
  · rw [order]; exact h.once
  · exact fun i held => by rw [order]; exact h.newest i (flock ▸ held)
  · exact fun i turn => started (h.begun i ((stages i).1.symm.trans turn))

theorem updateSame {β : Type} (f : Stage → β) (same : f s = f (σ i)) (j : Nat) :
    f (Function.update σ i s j) = f (σ j) := by
  by_cases own : j = i
  · subst own; simpa using same
  · simp [Function.update_of_ne own]

theorem Locking.take (h : Locking P σ w) (alive : Alive P w i) (up : (callerOf P i).process ∈ w.started)
    (free : w.flock = none) (fresh : σ i = {}) :
    Locking P (Function.update σ i { turn := true, locked := true })
      { w with flock := some (callerOf P i), acquired := w.acquired ++ [((callerOf P i).id,w.file)] } := by
  have unlocked : ∀ j, Alive P w j → (σ j).locked = false := by
    intro j up
    cases locked : (σ j).locked with
    | false => rfl
    | true => have held := h.locked j locked up; rw [free] at held; cases held
  have new : i ∉ w.order := fun old => by have turn := (h.turns i).mpr old; rw [fresh] at turn; cases turn
  have order : Host.order { w with flock := some (callerOf P i)
                                   acquired := w.acquired ++ [((callerOf P i).id,w.file)] } = w.order ++ [i] := by
    simp [Host.order]
  constructor
  · intro c held
    cases held
    exact ⟨i,rfl,by simp,alive⟩
  · intro j locked up
    by_cases own : j = i
    · subst own; rfl
    · rw [Function.update_of_ne own,unlocked j up] at locked; cases locked
  · intro j locked
    by_cases own : j = i
    · subst own; simp
    · rw [Function.update_of_ne own] at locked ⊢; exact h.inTurn j locked
  · intro j
    rw [order]
    by_cases own : j = i
    · subst own; simp
    · rw [Function.update_of_ne own,h.turns j]; simp [own]
  · rw [order]
    exact List.nodup_append.mpr ⟨h.once,by simp,by
      intro a old b last; cases List.mem_singleton.mp last; rintro rfl; exact new old⟩
  · intro j held
    rw [order,← callerInjective (Option.some.inj held)]
    simp
  · intro j turn
    by_cases own : j = i
    · subst own; exact up
    · rw [Function.update_of_ne own] at turn; exact h.begun j turn

theorem Locking.give (h : Locking P σ w) (off : s.locked = false) (turn : s.turn = (σ i).turn)
    (flock : w'.flock = (w.letGo (callerOf P i)).flock) (dead : w'.dead = w.dead)
    (acquired : w'.acquired = w.acquired) (started : w'.started = w.started) :
    Locking P (Function.update σ i s) w' := by
  have order : w'.order = w.order := by rw [Host.order,acquired]; rfl
  have alive : ∀ i, Alive P w' i ↔ Alive P w i := fun i => by rw [Alive,dead]; rfl
  have turns : ∀ j, (Function.update σ i s j).turn = (σ j).turn := updateSame Stage.turn turn
  have others : ∀ j, (Function.update σ i s j).locked = true → j ≠ i ∧ (σ j).locked = true := by
    intro j locked
    by_cases own : j = i
    · subst own; simp [off] at locked
    · rw [Function.update_of_ne own] at locked; exact ⟨own,locked⟩
  have kept : ∀ c, w'.flock = some c → w.flock = some c ∧ c ≠ callerOf P i := by
    intro c held
    rw [flock] at held
    simp only [Host.letGo] at held
    split at held
    · cases held
    · rename_i other; exact ⟨held,fun same => other (same ▸ held)⟩
  constructor
  · intro c held
    obtain ⟨old,other⟩ := kept c held
    obtain ⟨j,rfl,locked,up⟩ := h.holder c old
    have off : j ≠ i := fun same => other (congrArg _ same)
    exact ⟨j,rfl,by rw [Function.update_of_ne off]; exact locked,(alive j).mpr up⟩
  · intro j locked up
    obtain ⟨other,locked⟩ := others j locked
    have held := h.locked j locked ((alive j).mp up)
    rw [flock,← held]
    refine if_neg (fun same => ?_)
    rw [held] at same
    exact other (callerInjective (Option.some.inj same))
  · intro j locked
    rw [turns]
    exact h.inTurn j (others j locked).2
  · exact fun j => by rw [turns,order]; exact h.turns j
  · rw [order]; exact h.once
  · exact fun j held => by rw [order]; exact h.newest j (kept _ held).1
  · exact fun j turn => by rw [started]; exact h.begun j (turns j ▸ turn)

theorem Locking.moved (h : Locking P σ w) (alive : Alive P w i) (up : (callerOf P i).process ∈ w.started)
    (move : Moved (P i) (callerOf P i) (σ i) w s w') : Locking P (Function.update σ i s) w' := by
  cases move with
  | take free fresh => exact h.take alive up free fresh
  | give held => exact h.give rfl rfl rfl rfl rfl rfl
  | close => exact h.give rfl rfl rfl rfl rfl rfl
  | _ => exact h.frame (fun j => ⟨updateSame Stage.turn (by rfl) j,updateSame Stage.locked (by rfl) j⟩) rfl rfl rfl (fun _ member => member)

theorem Locking.crashed (h : Locking P σ w) (p : Nat) : Locking P σ (w.crashed p) := by
  have alive : ∀ i, Alive P (w.crashed p) i ↔ (callerOf P i).process ≠ p ∧ Alive P w i := by
    intro i
    simp [Alive,Host.crashed]
  constructor
  · intro c held
    obtain ⟨held,other⟩ := Option.filter_eq_some_iff.mp held
    obtain ⟨i,rfl,locked,up⟩ := h.holder c held
    exact ⟨i,rfl,locked,(alive i).mpr ⟨by simpa using other,up⟩⟩
  · intro i locked up
    obtain ⟨other,up⟩ := (alive i).mp up
    exact Option.filter_eq_some_iff.mpr ⟨h.locked i locked up,by simpa using other⟩
  · exact h.inTurn
  · exact h.turns
  · exact h.once
  · exact fun i held => h.newest i (Option.filter_eq_some_iff.mp held).1
  · exact h.begun

theorem Locking.nobody (h : Locking P σ w) (k : Nat) (i : Nat) (locked : (σ i).locked = true) :
    ¬ Alive P (w.darkened k) i :=
  fun up => up (List.mem_append_left _ (h.begun i (h.inTurn i locked)))

theorem Locking.darkened (h : Locking P σ w) (k : Nat) : Locking P σ (w.darkened k) where
  holder := fun c held => by cases held
  locked := fun i locked up => absurd up (h.nobody k i locked)
  inTurn := h.inTurn
  turns := h.turns
  once := h.once
  newest := fun i held => by cases held
  begun := h.begun

structure Drafts (σ : Nat → Stage) (w : Host) : Prop where
  below : ∀ i t, (σ i).temp = some t → t < w.nextTemp
  apart : ∀ i j t, (σ i).temp = some t → (σ j).temp = some t → i = j
  filled : ∀ i t x, (σ i).temp = some t → (σ i).text = some x → (σ i).moved = false →
    ∃ f, w.temps t = some f ∧ f.text = x ∧ ((σ i).flushed = true → f.synced = true)

def Stage.draft (s : Stage) : Option Nat × Option Content × Bool × Bool := (s.temp,s.text,s.moved,s.flushed)

theorem Drafts.frame (h : Drafts σ w) (same : s.draft = (σ i).draft) (temps : w'.temps = w.temps)
    (next : w'.nextTemp = w.nextTemp) : Drafts (Function.update σ i s) w' := by
  have stages : ∀ j, (Function.update σ i s j).temp = (σ j).temp ∧ (Function.update σ i s j).text = (σ j).text ∧
      (Function.update σ i s j).moved = (σ j).moved ∧ (Function.update σ i s j).flushed = (σ j).flushed := by
    intro j
    have parts := updateSame Stage.draft same j
    simpa only [Stage.draft,Prod.mk.injEq] using parts
  constructor
  · intro j t temp
    rw [next]
    exact h.below j t ((stages j).1 ▸ temp)
  · intro j k t left right
    exact h.apart j k t ((stages j).1 ▸ left) ((stages k).1 ▸ right)
  · intro j t x temp text still
    obtain ⟨f,there,written,synced⟩ :=
      h.filled j t x ((stages j).1 ▸ temp) ((stages j).2.1 ▸ text) ((stages j).2.2.1 ▸ still)
    exact ⟨f,by rw [temps]; exact there,written,fun flushed => synced ((stages j).2.2.2 ▸ flushed)⟩

theorem Drafts.change (h : Drafts σ w) {t : Nat} (temp : (σ i).temp = some t) (same : s.temp = some t)
    (next : w'.nextTemp = w.nextTemp) (others : ∀ t', t' ≠ t → w'.temps t' = w.temps t')
    (own : ∀ x, s.text = some x → s.moved = false →
      ∃ f, w'.temps t = some f ∧ f.text = x ∧ (s.flushed = true → f.synced = true)) :
    Drafts (Function.update σ i s) w' := by
  have temps : ∀ j, (Function.update σ i s j).temp = (σ j).temp := updateSame Stage.temp (same.trans temp.symm)
  constructor
  · exact fun j t' held => by rw [next]; exact h.below j t' (temps j ▸ held)
  · exact fun j k t' left right => h.apart j k t' (temps j ▸ left) (temps k ▸ right)
  · intro j t' x held text still
    by_cases mine : j = i
    · subst mine
      rw [Function.update_self] at held text still ⊢
      cases held.symm.trans same
      exact own x text still
    · rw [temps] at held
      rw [Function.update_of_ne mine] at text still ⊢
      rw [others t' (fun same => mine (h.apart j i t' held (same ▸ temp)))]
      exact h.filled j t' x held text still

theorem Drafts.moved {p : Participant} {c : Caller} (h : Drafts σ w) (move : Moved p c (σ i) w s w') :
    Drafts (Function.update σ i s) w' := by
  cases move with
  | take free fresh => exact h.frame (by simp [Stage.draft,fresh]) rfl rfl
  | make noTemp noText =>
    constructor
    · intro j t temp
      by_cases own : j = i
      · subst own
        simp only [Function.update_self,Option.some.injEq] at temp
        simp [← temp]
      · rw [Function.update_of_ne own] at temp
        exact Nat.lt_succ_of_lt (h.below j t temp)
    · have fresh : ∀ j t, j ≠ i → (Function.update σ i { σ i with temp := some w.nextTemp } j).temp = some t →
          t ≠ w.nextTemp := by
        intro j t other temp same
        rw [Function.update_of_ne other] at temp
        have := h.below j t temp
        omega
      intro j k t left right
      by_cases first : j = i <;> by_cases second : k = i
      · exact first.trans second.symm
      · subst first
        simp only [Function.update_self,Option.some.injEq] at left
        exact absurd left.symm (fresh k t second right)
      · subst second
        simp only [Function.update_self,Option.some.injEq] at right
        exact absurd right.symm (fresh j t first left)
      · rw [Function.update_of_ne first] at left
        rw [Function.update_of_ne second] at right
        exact h.apart j k t left right
    · intro j t x temp text still
      by_cases own : j = i
      · subst own; simp [noText] at text
      · rw [Function.update_of_ne own] at temp text still ⊢
        obtain ⟨f,there,written⟩ := h.filled j t x temp text still
        have other : t ≠ w.nextTemp := by have := h.below j t temp; omega
        exact ⟨f,by simp [Host.setTemp,other,there],written⟩
  | fill t x temp still =>
    refine h.change temp temp rfl (fun t' other => by simp [Host.setTemp,other]) (fun y text _ => ?_)
    exact ⟨⟨x,false⟩,by simp [Host.setTemp],Option.some.inj text,fun flushed => by cases flushed⟩
  | flush t temp still =>
    refine h.change temp temp rfl (fun t' other => by simp [Host.setTemp,other]) (fun y text _ => ?_)
    obtain ⟨f,there,written,_⟩ := h.filled i t y temp text still
    exact ⟨{ f with synced := true },by simp [Host.setTemp,there],written,fun _ => rfl⟩
  | swap t n f temp still flushed small text may there =>
    exact h.change temp temp rfl (fun t' other => by simp [Host.renamed,Host.setTemp,other])
      (fun y _ still => by cases still)
  | drop t temp =>
    exact h.change temp temp rfl (fun t' other => by simp [Host.setTemp,other]) (fun y text => by cases text)
  | _ => exact h.frame rfl rfl rfl

end Moadian.Serial
