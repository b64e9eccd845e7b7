import Moadian.Resumption.Program

/-! What a program may do, whatever it is answered. A contract says it of every
operation from the trace of those before it, and of the way the program ends;
it is proved once along the program and holds of every run of it. -/
namespace Moadian.Resumption

variable {E : Effects} {M : Machine E} {ε α β : Type}
variable {may : List (Event M) → E.Op → Prop}

def Obeys (may : List (Event M) → E.Op → Prop) (ends : List (Event M) → Except ε α → Prop) :
    List (Event M) → Prog E ε α → Prop
  | tr, .ret a => ends tr (.ok a)
  | tr, .raise e => ends tr (.error e)
  | tr, .op o k => may tr o ∧ ∀ inp a, Possible M o inp a → Obeys may ends (tr ++ [⟨o,inp,a⟩]) (k a)

theorem obeysMono {P Q : List (Event M) → Except ε α → Prop} (weaken : ∀ tr out, P tr out → Q tr out)
    {tr : List (Event M)} {p : Prog E ε α} (h : Obeys may P tr p) : Obeys may Q tr p := by
  induction p generalizing tr with
  | ret a => exact weaken _ _ h
  | raise e => exact weaken _ _ h
  | op o k ih => exact ⟨h.1,fun inp a possible => ih a (h.2 inp a possible)⟩

theorem obeysMay {may' : List (Event M) → E.Op → Prop} {Q : List (Event M) → Except ε α → Prop}
    (weaken : ∀ tr o, may tr o → may' tr o) {tr : List (Event M)} {p : Prog E ε α}
    (h : Obeys may Q tr p) : Obeys may' Q tr p := by
  induction p generalizing tr with
  | ret a => exact h
  | raise e => exact h
  | op o k ih => exact ⟨weaken _ _ h.1,fun inp a possible => ih a (h.2 inp a possible)⟩

theorem obeysAny (tr : List (Event M)) (p : Prog E ε α) :
    Obeys (fun _ _ => True) (fun _ _ => True) tr p := by
  induction p generalizing tr with
  | ret a => trivial
  | raise e => trivial
  | op o k ih => exact ⟨trivial,fun inp a _ => ih a _⟩

theorem obeysBind {P : List (Event M) → Except ε α → Prop} {Q : List (Event M) → Except ε β → Prop}
    {tr : List (Event M)} {p : Prog E ε α} {f : α → Prog E ε β} (first : Obeys may P tr p)
    (ok : ∀ tr' a, P tr' (.ok a) → Obeys may Q tr' (f a))
    (error : ∀ tr' e, P tr' (.error e) → Q tr' (.error e)) : Obeys may Q tr (p >>= f) := by
  induction p generalizing tr with
  | ret a => exact ok _ _ first
  | raise e => exact error _ _ first
  | op o k ih => exact ⟨first.1,fun inp a possible => ih a (first.2 inp a possible)⟩

theorem obeysAnd {may' : List (Event M) → E.Op → Prop} {P Q : List (Event M) → Except ε α → Prop}
    {tr : List (Event M)} {p : Prog E ε α} (left : Obeys may P tr p) (right : Obeys may' Q tr p) :
    Obeys (fun tr o => may tr o ∧ may' tr o) (fun tr out => P tr out ∧ Q tr out) tr p := by
  induction p generalizing tr with
  | ret a => exact ⟨left,right⟩
  | raise e => exact ⟨left,right⟩
  | op o k ih =>
    exact ⟨⟨left.1,right.1⟩,fun inp a possible => ih a (left.2 inp a possible) (right.2 inp a possible)⟩

theorem obeysMapError {P Q : List (Event M) → Except ε α → Prop} {f : ε → ε} {tr : List (Event M)} {p : Prog E ε α}
    (h : Obeys may P tr p) (ok : ∀ tr a, P tr (.ok a) → Q tr (.ok a))
    (error : ∀ tr e, P tr (.error e) → Q tr (.error (f e))) : Obeys may Q tr (p.mapError f) := by
  induction p generalizing tr with
  | ret a => exact ok _ _ h
  | raise e => exact error _ _ h
  | op o k ih => exact ⟨h.1,fun inp a possible => ih a (h.2 inp a possible)⟩

theorem obeysIf {c : Prop} [Decidable c] {Q : List (Event M) → Except ε α → Prop} {tr : List (Event M)}
    {p q : Prog E ε α} (then_ : c → Obeys may Q tr p) (else_ : ¬ c → Obeys may Q tr q) :
    Obeys may Q tr (if c then p else q) := by
  by_cases h : c
  · rw [if_pos h]; exact then_ h
  · rw [if_neg h]; exact else_ h

/- A contract that says nothing of the trace holds after every trace, and what its
operations keep of the trace is kept along it. -/
theorem obeysKeep {allowed : E.Op → Prop} {P : Except ε α → Prop} {J : List (Event M) → Prop}
    (keep : ∀ tr o inp a, J tr → allowed o → J (tr ++ [⟨o,inp,a⟩])) {s tr : List (Event M)} {p : Prog E ε α}
    (h : Obeys (fun _ o => allowed o) (fun _ out => P out) s p) (init : J tr) :
    Obeys (fun tr o => allowed o ∧ J tr) (fun tr out => J tr ∧ P out) tr p := by
  induction p generalizing s tr with
  | ret a => exact ⟨init,h⟩
  | raise e => exact ⟨init,h⟩
  | op o k ih =>
    exact ⟨⟨h.1,init⟩,fun inp a possible => ih a (h.2 inp a possible) (keep tr o inp a init h.1)⟩

def Beyond (allowed : E.Op → Prop) (tr tr' : List (Event M)) : Prop :=
  ∃ more, tr' = tr ++ more ∧ ∀ e ∈ more, allowed e.op

def Performs (allowed : E.Op → Prop) : Prog E ε α → Prop
  | .ret _ => True
  | .raise _ => True
  | .op o k => allowed o ∧ ∀ a, Performs allowed (k a)

section Performs
variable {allowed : E.Op → Prop}

theorem performsMono {wider : E.Op → Prop} (weaken : ∀ o, allowed o → wider o) {p : Prog E ε α}
    (h : Performs allowed p) : Performs wider p := by
  induction p with
  | ret a => trivial
  | raise e => trivial
  | op o k ih => exact ⟨weaken o h.1,fun a => ih a (h.2 a)⟩

theorem performsAny (p : Prog E ε α) : Performs (fun _ => True) p := by
  induction p with
  | ret a => trivial
  | raise e => trivial
  | op o k ih => exact ⟨trivial,fun a => ih a⟩

theorem performsBind {p : Prog E ε α} {f : α → Prog E ε β} (first : Performs allowed p)
    (next : ∀ a, Performs allowed (f a)) : Performs allowed (p >>= f) := by
  induction p with
  | ret a => exact next a
  | raise e => trivial
  | op o k ih => exact ⟨first.1,fun a => ih a (first.2 a)⟩

theorem performsMapError {f : ε → ε} {p : Prog E ε α} (h : Performs allowed p) : Performs allowed (p.mapError f) := by
  induction p with
  | ret a => trivial
  | raise e => trivial
  | op o k ih => exact ⟨h.1,fun a => ih a (h.2 a)⟩

theorem performsIf {c : Prop} [Decidable c] {p q : Prog E ε α} (then_ : c → Performs allowed p)
    (else_ : ¬ c → Performs allowed q) : Performs allowed (if c then p else q) := by
  by_cases h : c
  · rw [if_pos h]; exact then_ h
  · rw [if_neg h]; exact else_ h

theorem obeysPerforms {Q : List (Event M) → Except ε α → Prop} {tr : List (Event M)} {p : Prog E ε α}
    (h : Performs allowed p) (may_ : ∀ tr' o, Beyond allowed tr tr' → allowed o → may tr' o)
    (ends : ∀ tr' out, Beyond allowed tr tr' → Q tr' out) : Obeys may Q tr p := by
  have along : ∀ tr', Beyond allowed tr tr' → Obeys may Q tr' p := by
    induction p with
    | ret a => exact fun tr' beyond => ends tr' _ beyond
    | raise e => exact fun tr' beyond => ends tr' _ beyond
    | op o k ih =>
      refine fun tr' beyond => ⟨may_ tr' o beyond h.1,fun inp a _ => ih a (h.2 a) _ ?_⟩
      obtain ⟨more,rfl,all⟩ := beyond
      refine ⟨more ++ [⟨o,inp,a⟩],by simp,fun e member => ?_⟩
      rcases List.mem_append.mp member with old | new
      · exact all e old
      · cases List.mem_singleton.mp new
        exact h.1
  exact along tr ⟨[],by simp⟩

end Performs
end Moadian.Resumption
