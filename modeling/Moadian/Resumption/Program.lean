import Mathlib.Data.List.Basic

/-! Programs as resumptions. A program either has ended, with a value or with an
error, or is about to perform one operation and continues with its answer. Only
whole operations are observable, so a schedule interleaves exactly at them. -/
namespace Moadian.Resumption

structure Effects where
  Op : Type
  Ans : Op → Type

inductive Prog (E : Effects) (ε α : Type) where
  | ret (value : α)
  | raise (error : ε)
  | op (o : E.Op) (next : E.Ans o → Prog E ε α)

variable {E : Effects} {ε α β γ : Type}

namespace Prog

def bind : Prog E ε α → (α → Prog E ε β) → Prog E ε β
  | ret a, f => f a
  | raise e, _ => raise e
  | op o k, f => op o (fun a => (k a).bind f)

instance : Monad (Prog E ε) where
  pure := ret
  bind := bind

def call (o : E.Op) : Prog E ε (E.Ans o) := op o ret

-- The `finally` clause: `last` is performed on every way out.
def ensuring (p : Prog E ε α) (last : Prog E ε Unit) : Prog E ε α :=
  match p with
  | ret a => last.bind (fun _ => ret a)
  | raise e => last.bind (fun _ => raise e)
  | op o k => op o (fun a => (k a).ensuring last)

-- The `except BaseException: ...; raise` clause.
def onRaise (p : Prog E ε α) (cleanup : Prog E ε Unit) : Prog E ε α :=
  match p with
  | ret a => ret a
  | raise e => cleanup.bind (fun _ => raise e)
  | op o k => op o (fun a => (k a).onRaise cleanup)

-- The `try` of a `try ... except`: what was raised is handed on as a value.
def attempt : Prog E ε α → Prog E ε (Except ε α)
  | ret a => ret (.ok a)
  | raise e => ret (.error e)
  | op o k => op o (fun a => (k a).attempt)

def mapError (f : ε → ε) : Prog E ε α → Prog E ε α
  | ret a => ret a
  | raise e => raise (f e)
  | op o k => op o (fun a => (k a).mapError f)

def next : Prog E ε α → Option E.Op
  | op o _ => some o
  | _ => none

theorem nextSome {p : Prog E ε α} {o : E.Op} (h : p.next = some o) : ∃ k, p = op o k := by
  cases p with
  | ret a => cases h
  | raise e => cases h
  | op o' k => cases Option.some.inj h; exact ⟨k,rfl⟩

def Returned : Prog E ε α → Prop
  | ret _ => True
  | _ => False

instance : (p : Prog E ε α) → Decidable p.Returned
  | ret _ => isTrue trivial
  | raise _ => isFalse id
  | op _ _ => isFalse id

def Raised : Prog E ε α → Prop
  | raise _ => True
  | _ => False

instance : (p : Prog E ε α) → Decidable p.Raised
  | ret _ => isFalse id
  | raise _ => isTrue trivial
  | op _ _ => isFalse id

theorem retOfReturned {p : Prog E ε α} (h : p.Returned) : ∃ a, p = ret a := by
  cases p with
  | ret a => exact ⟨a,rfl⟩
  | raise e => exact h.elim
  | op o k => exact h.elim

def Ended : Prog E ε α → Prop
  | op _ _ => False
  | _ => True

instance : (p : Prog E ε α) → Decidable p.Ended
  | ret _ => isTrue trivial
  | raise _ => isTrue trivial
  | op _ _ => isFalse id

@[simp] theorem pureRet (a : α) : (pure a : Prog E ε α) = ret a := rfl

@[simp] theorem bindRet (a : α) (f : α → Prog E ε β) : (ret a >>= f) = f a := rfl

@[simp] theorem bindRaise (e : ε) (f : α → Prog E ε β) : (raise e >>= f) = raise e := rfl

@[simp] theorem bindOp (o : E.Op) (k : E.Ans o → Prog E ε α) (f : α → Prog E ε β) :
    (op o k >>= f) = op o (fun a => k a >>= f) := rfl

@[simp] theorem bindCall (o : E.Op) (f : E.Ans o → Prog E ε β) : (call o >>= f) = op o f := rfl

@[simp] theorem bindAssoc (p : Prog E ε α) (f : α → Prog E ε β) (g : β → Prog E ε γ) :
    ((p >>= f) >>= g) = (p >>= fun a => f a >>= g) := by
  induction p with
  | ret a => rfl
  | raise e => rfl
  | op o k ih => exact congrArg (op o) (funext fun a => ih a)

@[simp] theorem endedRet (a : α) : (ret a : Prog E ε α).Ended := trivial

@[simp] theorem endedRaise (e : ε) : (raise e : Prog E ε α).Ended := trivial

@[simp] theorem notEndedOp (o : E.Op) (k : E.Ans o → Prog E ε α) : ¬ (op o k).Ended := id

end Prog

/-! The world that performs the operations. `respond` is `none` while the
operation is blocked; `Input` is what the environment decides about it. -/
structure Machine (E : Effects) where
  World : Type
  Input : E.Op → Type
  respond : (o : E.Op) → Input o → World → Option (E.Ans o × World)

abbrev Oracle (M : Machine E) := (o : E.Op) → M.Input o

structure Event (M : Machine E) where
  op : E.Op
  input : M.Input op
  ans : E.Ans op

def Possible (M : Machine E) (o : E.Op) (inp : M.Input o) (a : E.Ans o) : Prop :=
  ∃ w w', M.respond o inp w = some (a,w')

structure Task (M : Machine E) (ε α : Type) where
  prog : Prog E ε α
  trace : List (Event M)

def Task.start (M : Machine E) (p : Prog E ε α) : Task M ε α := ⟨p,[]⟩

def Task.step {M : Machine E} (orc : Oracle M) (w : M.World) (t : Task M ε α) :
    Option (M.World × Task M ε α) :=
  match t.prog with
  | .op o k => match M.respond o (orc o) w with
    | some (a,w') => some (w',⟨k a,t.trace ++ [⟨o,orc o,a⟩]⟩)
    | none => none
  | _ => none

theorem taskStepCases {M : Machine E} {orc : Oracle M} {w w' : M.World} {t t' : Task M ε α}
    (h : t.step orc w = some (w',t')) :
    ∃ o k a, t.prog = .op o k ∧ M.respond o (orc o) w = some (a,w') ∧
      t' = ⟨k a,t.trace ++ [⟨o,orc o,a⟩]⟩ := by
  unfold Task.step at h
  cases hp : t.prog with
  | ret a => simp [hp] at h
  | raise e => simp [hp] at h
  | op o k =>
    simp only [hp] at h
    split at h <;> try contradiction
    rename_i a w'' answered
    cases Option.some.inj h
    exact ⟨o,k,a,rfl,answered,rfl⟩

end Moadian.Resumption
