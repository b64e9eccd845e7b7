import Mathlib.Data.List.Chain
import Moadian.Resumption.Contract

/-! One program alone in the world, and calls made one after the other. A call
may stop after any of its operations: the oracles given to it are used up, the
rest of the program never happens. -/
namespace Moadian.Resumption

variable {E : Effects} {M : Machine E} {ε α β : Type}

def Prog.outcome : Prog E ε α → Option (Except ε α)
  | .ret a => some (.ok a)
  | .raise e => some (.error e)
  | .op _ _ => none

theorem Prog.outcomeOfEnded {p : Prog E ε α} (ended : p.Ended) : ∃ out, p.outcome = some out := by
  cases p with
  | ret a => exact ⟨_,rfl⟩
  | raise e => exact ⟨_,rfl⟩
  | op o k => exact ended.elim

theorem Prog.outcomeOfReturned {p : Prog E ε α} (returned : p.Returned) : ∃ a, p.outcome = some (.ok a) := by
  obtain ⟨a,rfl⟩ := retOfReturned returned
  exact ⟨a,rfl⟩

def solo (w : M.World) (t : Task M ε α) : List (Oracle M) → M.World × Task M ε α
  | [] => (w,t)
  | orc :: rest => match t.step orc w with
    | some (w',t') => solo w' t' rest
    | none => solo w t rest

theorem soloEnded {w : M.World} {t : Task M ε α} (ended : t.prog.Ended) (orcs : List (Oracle M)) :
    solo w t orcs = (w,t) := by
  have still : ∀ orc, t.step orc w = none := by
    intro orc
    unfold Task.step
    cases here : t.prog with
    | ret a => rfl
    | raise e => rfl
    | op o k => rw [here] at ended; exact ended.elim
  induction orcs with
  | nil => rfl
  | cons orc rest ih => simp only [solo,still,ih]

theorem soloOp {w w' : M.World} {o : E.Op} {k : E.Ans o → Prog E ε α} {tr : List (Event M)} {orc : Oracle M}
    {a : E.Ans o} (answered : M.respond o (orc o) w = some (a,w')) (rest : List (Oracle M)) :
    solo w ⟨.op o k,tr⟩ (orc :: rest) = solo w' ⟨k a,tr ++ [⟨o,orc o,a⟩]⟩ rest := by
  simp only [solo,Task.step,answered]

theorem soloObeys {may : List (Event M) → E.Op → Prop} {ends : List (Event M) → Except ε α → Prop} {w : M.World}
    {t : Task M ε α} (h : Obeys may ends t.trace t.prog) (orcs : List (Oracle M)) :
    Obeys may ends (solo w t orcs).2.trace (solo w t orcs).2.prog := by
  induction orcs generalizing w t with
  | nil => exact h
  | cons orc rest ih =>
    cases stepped : t.step orc w with
    | none => simpa only [solo,stepped] using ih h
    | some next =>
      obtain ⟨w',t'⟩ := next
      obtain ⟨o,k,a,hp,answered,rfl⟩ := taskStepCases stepped
      simp only [solo,stepped]
      rw [hp] at h
      exact ih (h.2 (orc o) a ⟨w,w',answered⟩)

theorem soloKeeps {may : List (Event M) → E.Op → Prop} {ends : List (Event M) → Except ε α → Prop}
    {J : M.World → List (Event M) → Prop}
    (keep : ∀ w tr o inp a w', J w tr → may tr o → M.respond o inp w = some (a,w') → J w' (tr ++ [⟨o,inp,a⟩]))
    {w : M.World} {t : Task M ε α} (init : J w t.trace) (h : Obeys may ends t.trace t.prog) (orcs : List (Oracle M)) :
    J (solo w t orcs).1 (solo w t orcs).2.trace := by
  induction orcs generalizing w t with
  | nil => exact init
  | cons orc rest ih =>
    cases stepped : t.step orc w with
    | none => simpa only [solo,stepped] using ih init h
    | some next =>
      obtain ⟨w',t'⟩ := next
      obtain ⟨o,k,a,hp,answered,rfl⟩ := taskStepCases stepped
      simp only [solo,stepped]
      rw [hp] at h
      exact ih (keep _ _ _ _ _ _ init h.1 answered) (h.2 (orc o) a ⟨w,w',answered⟩)

/-! A program run to its end, each operation with what the oracle has for it. -/

def finish (orc : Oracle M) (w : M.World) : Prog E ε α → Option (Except ε α × M.World)
  | .ret a => some (.ok a,w)
  | .raise e => some (.error e,w)
  | .op o k => match M.respond o (orc o) w with
    | none => none
    | some (a,w') => finish orc w' (k a)

section Finish
variable {orc : Oracle M} {w w' : M.World}

theorem finishOp {o : E.Op} {k : E.Ans o → Prog E ε α} {a : E.Ans o} (answered : M.respond o (orc o) w = some (a,w')) :
    finish orc w (.op o k) = finish orc w' (k a) := by
  simp only [finish,answered]

theorem finishEnds (total : ∀ (o : E.Op) w, ∃ a w', M.respond o (orc o) w = some (a,w')) (w : M.World) (p : Prog E ε α) :
    ∃ out w', finish orc w p = some (out,w') := by
  induction p generalizing w with
  | ret a => exact ⟨_,w,rfl⟩
  | raise e => exact ⟨_,w,rfl⟩
  | op o k ih =>
    obtain ⟨a,w',answered⟩ := total o w
    rw [finishOp answered]
    exact ih a w'

theorem finishBind {p : Prog E ε α} {a : α} (f : α → Prog E ε β) (first : finish orc w p = some (.ok a,w')) :
    finish orc w (p >>= f) = finish orc w' (f a) := by
  induction p generalizing w with
  | ret b => cases first; rfl
  | raise e => cases first
  | op o k ih =>
    rw [Prog.bindOp]
    cases answered : M.respond o (orc o) w with
    | none => simp only [finish,answered] at first; cases first
    | some next =>
      obtain ⟨b,w''⟩ := next
      rw [finishOp answered] at first ⊢
      exact ih b first

theorem finishBindError {p : Prog E ε α} {e : ε} (f : α → Prog E ε β) (first : finish orc w p = some (.error e,w')) :
    finish orc w (p >>= f) = some (.error e,w') := by
  induction p generalizing w with
  | ret b => cases first
  | raise e' => cases first; rfl
  | op o k ih =>
    rw [Prog.bindOp]
    cases answered : M.respond o (orc o) w with
    | none => simp only [finish,answered] at first; cases first
    | some next =>
      obtain ⟨b,w''⟩ := next
      rw [finishOp answered] at first ⊢
      exact ih b first

end Finish

theorem obeysEnds {may : List (Event M) → E.Op → Prop} {ends : List (Event M) → Except ε α → Prop}
    {tr : List (Event M)} {p : Prog E ε α} {out : Except ε α} (h : Obeys may ends tr p)
    (ended : p.outcome = some out) : ends tr out := by
  cases p with
  | ret a => cases Option.some.inj ended; exact h
  | raise e => cases Option.some.inj ended; exact h
  | op o k => simp [Prog.outcome] at ended

def soloVisited (w : M.World) (t : Task M ε α) : List (Oracle M) → List M.World
  | [] => []
  | orc :: rest => match t.step orc w with
    | some (w',t') => w :: soloVisited w' t' rest
    | none => soloVisited w t rest

def SoloMeets (C : M.World → List (Event M) → Event M → Prop) (w : M.World) (t : Task M ε α) :
    List (Oracle M) → Prop
  | [] => True
  | orc :: rest => match t.step orc w with
    | some (w',t') => (∀ e ∈ t'.trace.getLast?, C w t.trace e) ∧ SoloMeets C w' t' rest
    | none => SoloMeets C w t rest

structure Call (M : Machine E) (ε α : Type) where
  program : Prog E ε α
  oracles : List (Oracle M)

def Call.perform (c : Call M ε α) (w : M.World) : M.World × Task M ε α :=
  solo w (Task.start M c.program) c.oracles

def serial (w : M.World) (calls : List (Call M ε α)) : M.World :=
  calls.foldl (fun w c => (c.perform w).1) w

def visited : M.World → List (Call M ε α) → List M.World
  | w, [] => [w]
  | w, c :: rest => soloVisited w (Task.start M c.program) c.oracles ++ visited (c.perform w).1 rest

def Meets (C : M.World → List (Event M) → Event M → Prop) : M.World → List (Call M ε α) → Prop
  | _, [] => True
  | w, c :: rest => SoloMeets C w (Task.start M c.program) c.oracles ∧ Meets C (c.perform w).1 rest

section Decide
variable {C : M.World → List (Event M) → Event M → Prop} [∀ w tr e, Decidable (C w tr e)]

instance decideSoloMeets : (w : M.World) → (t : Task M ε α) → (orcs : List (Oracle M)) → Decidable (SoloMeets C w t orcs)
  | _, _, [] => isTrue trivial
  | w, t, orc :: rest => by
    unfold SoloMeets
    cases t.step orc w with
    | none => exact decideSoloMeets w t rest
    | some next => exact @instDecidableAnd _ _ _ (decideSoloMeets next.1 next.2 rest)

instance decideMeets : (w : M.World) → (calls : List (Call M ε α)) → Decidable (Meets C w calls)
  | _, [] => isTrue trivial
  | w, c :: rest => @instDecidableAnd _ _ (decideSoloMeets w _ _) (decideMeets (c.perform w).1 rest)

end Decide

@[simp] theorem serialNil (w : M.World) : serial w ([] : List (Call M ε α)) = w := rfl

@[simp] theorem serialCons (w : M.World) (c : Call M ε α) (rest : List (Call M ε α)) :
    serial w (c :: rest) = serial (c.perform w).1 rest := rfl

theorem serialAppend (w : M.World) (xs ys : List (Call M ε α)) :
    serial w (xs ++ ys) = serial (serial w xs) ys := List.foldl_append

section Always
variable {C : M.World → List (Event M) → Event M → Prop} (always : ∀ w tr e, C w tr e)
include always

theorem soloMeetsAlways (w : M.World) (t : Task M ε α) (orcs : List (Oracle M)) : SoloMeets C w t orcs := by
  induction orcs generalizing w t with
  | nil => trivial
  | cons orc rest ih =>
    unfold SoloMeets
    split
    · exact ⟨fun _ _ => always _ _ _,ih _ _⟩
    · exact ih _ _

theorem meetsAlways (w : M.World) (calls : List (Call M ε α)) : Meets C w calls := by
  induction calls generalizing w with
  | nil => trivial
  | cons c rest ih => exact ⟨soloMeetsAlways always _ _ _,ih _⟩

end Always

theorem serialVisited (w : M.World) (calls : List (Call M ε α)) : serial w calls ∈ visited w calls := by
  induction calls generalizing w with
  | nil => exact List.mem_singleton_self w
  | cons c rest ih => exact List.mem_append_right _ (ih _)

/- Running alone from `w` after `tr`, making only operations that meet `C`: every
step is related by `R` to the state before it, and the end is as `Q` says. -/
def Alone (C : M.World → List (Event M) → Event M → Prop) (R : M.World → M.World → Prop)
    (Q : M.World → List (Event M) → Except ε α → Prop) :
    M.World → List (Event M) → Prog E ε α → Prop
  | w, tr, .ret a => Q w tr (.ok a)
  | w, tr, .raise e => Q w tr (.error e)
  | w, tr, .op o k => ∀ inp a w', M.respond o inp w = some (a,w') → C w tr ⟨o,inp,a⟩ →
      R w w' ∧ Alone C R Q w' (tr ++ [⟨o,inp,a⟩]) (k a)

section Alone
variable {C : M.World → List (Event M) → Event M → Prop} {R : M.World → M.World → Prop}

/- A program that keeps its contract is known alone through what each operation
the contract allows does to the world. -/
theorem aloneOfObeys {may : List (Event M) → E.Op → Prop}
    {ends : List (Event M) → Except ε α → Prop} {J : M.World → List (Event M) → Prop}
    (keep : ∀ w tr o inp a w', J w tr → may tr o → M.respond o inp w = some (a,w') →
      C w tr ⟨o,inp,a⟩ → R w w' ∧ J w' (tr ++ [⟨o,inp,a⟩]))
    {w : M.World} {tr : List (Event M)} {p : Prog E ε α} (init : J w tr)
    (h : Obeys may ends tr p) : Alone C R (fun w tr out => J w tr ∧ ends tr out) w tr p := by
  induction p generalizing w tr with
  | ret a => exact ⟨init,h⟩
  | raise e => exact ⟨init,h⟩
  | op o k ih =>
    intro inp a w' answered met
    obtain ⟨related,kept⟩ := keep w tr o inp a w' init h.1 answered met
    exact ⟨related,ih a kept (h.2 inp a ⟨w,w',answered⟩)⟩

theorem aloneMono {P Q : M.World → List (Event M) → Except ε α → Prop}
    (weaken : ∀ w tr out, P w tr out → Q w tr out) {w : M.World} {tr : List (Event M)} {p : Prog E ε α}
    (h : Alone C R P w tr p) : Alone C R Q w tr p := by
  induction p generalizing w tr with
  | ret a => exact weaken _ _ _ h
  | raise e => exact weaken _ _ _ h
  | op o k ih =>
    intro inp a w' answered met
    obtain ⟨related,left⟩ := h inp a w' answered met
    exact ⟨related,ih a left⟩

theorem aloneBind {P : M.World → List (Event M) → Except ε α → Prop} {Q : M.World → List (Event M) → Except ε β → Prop}
    {w : M.World} {tr : List (Event M)} {p : Prog E ε α} {f : α → Prog E ε β} (first : Alone C R P w tr p)
    (ok : ∀ w' tr' a, P w' tr' (.ok a) → Alone C R Q w' tr' (f a))
    (error : ∀ w' tr' e, P w' tr' (.error e) → Q w' tr' (.error e)) : Alone C R Q w tr (p >>= f) := by
  induction p generalizing w tr with
  | ret a => exact ok _ _ _ first
  | raise e => exact error _ _ _ first
  | op o k ih =>
    intro inp a w' answered met
    obtain ⟨related,left⟩ := first inp a w' answered met
    exact ⟨related,ih a left⟩

theorem aloneSolo {Q : M.World → List (Event M) → Except ε α → Prop} {w : M.World}
    {t : Task M ε α} (h : Alone C R Q w t.trace t.prog) {orcs : List (Oracle M)}
    (met : SoloMeets C w t orcs) :
    Alone C R Q (solo w t orcs).1 (solo w t orcs).2.trace (solo w t orcs).2.prog := by
  induction orcs generalizing w t with
  | nil => exact h
  | cons orc rest ih =>
    cases stepped : t.step orc w with
    | none =>
      simp only [SoloMeets,stepped] at met
      simpa only [solo,stepped] using ih h met
    | some next =>
      obtain ⟨w',t'⟩ := next
      obtain ⟨o,k,a,hp,answered,rfl⟩ := taskStepCases stepped
      simp only [SoloMeets,stepped] at met
      simp only [solo,stepped]
      rw [hp] at h
      exact ih (h (orc o) a w' answered (met.1 _ List.getLast?_concat)).2 met.2

theorem aloneEnds {Q : M.World → List (Event M) → Except ε α → Prop} {w : M.World}
    {tr : List (Event M)} {p : Prog E ε α} {out : Except ε α} (h : Alone C R Q w tr p)
    (ended : p.outcome = some out) : Q w tr out := by
  cases p with
  | ret a => cases Option.some.inj ended; exact h
  | raise e => cases Option.some.inj ended; exact h
  | op o k => simp [Prog.outcome] at ended

theorem visitedHead (w : M.World) (calls : List (Call M ε α)) : (visited w calls).head? = some w := by
  have stays : ∀ (w : M.World) (t : Task M ε α) orcs (later : List M.World),
      later.head? = some (solo w t orcs).1 → (soloVisited w t orcs ++ later).head? = some w := by
    intro w t orcs later h
    induction orcs generalizing w t with
    | nil => exact h
    | cons orc rest ih =>
      cases stepped : t.step orc w with
      | none => simpa only [soloVisited,stepped] using ih w t (by simpa only [solo,stepped] using h)
      | some next => simp [soloVisited,stepped]
  induction calls generalizing w with
  | nil => rfl
  | cons c rest ih => exact stays _ _ _ _ (ih _)

theorem aloneSoloChain {Q : M.World → List (Event M) → Except ε α → Prop} {w : M.World}
    {t : Task M ε α} (h : Alone C R Q w t.trace t.prog) {orcs : List (Oracle M)}
    (met : SoloMeets C w t orcs) {later : List M.World}
    (start : later.head? = some (solo w t orcs).1) (chain : later.IsChain R) :
    (soloVisited w t orcs ++ later).IsChain R ∧ (soloVisited w t orcs ++ later).head? = some w := by
  induction orcs generalizing w t with
  | nil => exact ⟨chain,start⟩
  | cons orc rest ih =>
    cases stepped : t.step orc w with
    | none =>
      simp only [SoloMeets,stepped] at met
      simpa only [soloVisited,stepped] using ih h met (by simpa only [solo,stepped] using start)
    | some next =>
      obtain ⟨w',t'⟩ := next
      obtain ⟨o,k,a,hp,answered,rfl⟩ := taskStepCases stepped
      simp only [SoloMeets,stepped] at met
      simp only [solo,stepped] at start
      simp only [soloVisited,stepped,List.cons_append,List.head?_cons,and_true]
      rw [hp] at h
      obtain ⟨related,left⟩ := h (orc o) a w' answered (met.1 _ List.getLast?_concat)
      obtain ⟨rest,head⟩ := ih left met.2 start
      exact List.isChain_cons.mpr ⟨fun b hb => by
        rw [head] at hb
        exact Option.mem_some.mp hb ▸ related,rest⟩

theorem aloneChain {Q : M.World → List (Event M) → Except ε α → Prop} {w : M.World}
    {calls : List (Call M ε α)} (h : ∀ c ∈ calls, ∀ w, Alone C R Q w [] c.program)
    (met : Meets C w calls) : (visited w calls).IsChain R := by
  induction calls generalizing w with
  | nil => exact List.isChain_singleton w
  | cons c rest ih =>
    have later := ih (fun c' mem => h c' (List.mem_cons_of_mem _ mem)) met.2
    exact (aloneSoloChain (t := Task.start M c.program) (h c List.mem_cons_self w) met.1
      (visitedHead _ _) later).1

end Alone
end Moadian.Resumption
