import Moadian.Resumption.Contract

/-! A contract told by stages. The stage of a program is what its operations and
their answers have made of it; whether an operation is allowed depends on the stage
alone. -/
namespace Moadian.Resumption

structure Stages (E : Effects) (S : Type) where
  allowed : S → E.Op → Prop
  next : S → (o : E.Op) → E.Ans o → S

variable {E : Effects} {M : Machine E} {ε α β S : Type} {T : Stages E S}

def Along (T : Stages E S) (Q : S → Except ε α → Prop) : S → Prog E ε α → Prop
  | s, .ret a => Q s (.ok a)
  | s, .raise e => Q s (.error e)
  | s, .op o k => T.allowed s o ∧ ∀ a, Along T Q (T.next s o a) (k a)

def Stages.reached (T : Stages E S) (start : S) (tr : List (Event M)) : S :=
  tr.foldl (fun s e => T.next s e.op e.ans) start

theorem reachedSnoc (start : S) (tr : List (Event M)) (e : Event M) :
    T.reached start (tr ++ [e]) = T.next (T.reached start tr) e.op e.ans := by
  simp [Stages.reached]

theorem alongObeys {Q : S → Except ε α → Prop} {start : S} {tr : List (Event M)} {p : Prog E ε α}
    (h : Along T Q (T.reached start tr) p) :
    Obeys (fun tr o => T.allowed (T.reached start tr) o) (fun tr out => Q (T.reached start tr) out) tr p := by
  induction p generalizing tr with
  | ret a => exact h
  | raise e => exact h
  | op o k ih =>
    refine ⟨h.1,fun inp a _ => ih a ?_⟩
    rw [reachedSnoc]
    exact h.2 a

theorem alongBind {P : S → Except ε α → Prop} {Q : S → Except ε β → Prop} {s : S} {p : Prog E ε α}
    {f : α → Prog E ε β} (first : Along T P s p) (ok : ∀ s a, P s (.ok a) → Along T Q s (f a))
    (error : ∀ s e, P s (.error e) → Q s (.error e)) : Along T Q s (p >>= f) := by
  induction p generalizing s with
  | ret a => exact ok _ _ first
  | raise e => exact error _ _ first
  | op o k ih => exact ⟨first.1,fun a => ih a (first.2 a)⟩

-- How a `finally` clause ends: its own error takes the place of what came before it.
def afterwards (out : Except ε α) : Except ε Unit → Except ε α
  | .ok _ => out
  | .error e => .error e

theorem alongEnsuring {P Q : S → Except ε α → Prop} {s : S} {p : Prog E ε α} {last : Prog E ε Unit}
    (first : Along T P s p)
    (then_ : ∀ s out, P s out → Along T (fun s done => Q s (afterwards out done)) s last) :
    Along T Q s (p.ensuring last) := by
  induction p generalizing s with
  | ret a => exact alongBind (then_ _ _ first) (fun _ _ h => h) (fun _ _ h => h)
  | raise e => exact alongBind (then_ _ _ first) (fun _ _ h => h) (fun _ _ h => h)
  | op o k ih => exact ⟨first.1,fun a => ih a (first.2 a)⟩

theorem alongOnRaise {P Q : S → Except ε α → Prop} {s : S} {p : Prog E ε α} {cleanup : Prog E ε Unit}
    (first : Along T P s p) (ok : ∀ s a, P s (.ok a) → Q s (.ok a))
    (error : ∀ s e, P s (.error e) → Along T (fun s done => Q s (afterwards (.error e) done)) s cleanup) :
    Along T Q s (p.onRaise cleanup) := by
  induction p generalizing s with
  | ret a => exact ok _ _ first
  | raise e => exact alongBind (error _ _ first) (fun _ _ h => h) (fun _ _ h => h)
  | op o k ih => exact ⟨first.1,fun a => ih a (first.2 a)⟩

theorem alongAttempt {P : S → Except ε α → Prop} {Q : S → Except ε (Except ε α) → Prop} {s : S} {p : Prog E ε α}
    (first : Along T P s p) (caught : ∀ s out, P s out → Q s (.ok out)) : Along T Q s p.attempt := by
  induction p generalizing s with
  | ret a => exact caught _ _ first
  | raise e => exact caught _ _ first
  | op o k ih => exact ⟨first.1,fun a => ih a (first.2 a)⟩

end Moadian.Resumption
