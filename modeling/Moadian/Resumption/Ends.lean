import Moadian.Resumption.Contract

/-! A program alone, from the world it begins in to the world it ends in. What the
environment decides is anything that is `fit` for the operation. -/
namespace Moadian.Resumption

variable {E : Effects} {M : Machine E} {ε α β : Type}

inductive Ends (M : Machine E) (fit : (o : E.Op) → M.Input o → Prop) :
    M.World → Prog E ε α → Except ε α → M.World → Prop where
  | ret (w : M.World) (a : α) : Ends M fit w (.ret a) (.ok a) w
  | raise (w : M.World) (e : ε) : Ends M fit w (.raise e) (.error e) w
  | op {w w' w'' : M.World} {o : E.Op} {k : E.Ans o → Prog E ε α} {inp : M.Input o} {a : E.Ans o} {out : Except ε α}
      (fits : fit o inp) (answered : M.respond o inp w = some (a,w')) (rest : Ends M fit w' (k a) out w'') :
      Ends M fit w (.op o k) out w''

variable {fit : (o : E.Op) → M.Input o → Prop} {w w' w'' : M.World}

@[simp] theorem endsRet {a : α} {out : Except ε α} :
    Ends M fit w (.ret a) out w' ↔ out = .ok a ∧ w' = w := by
  constructor
  · intro h
    cases h
    exact ⟨rfl,rfl⟩
  · rintro ⟨rfl,rfl⟩
    exact .ret _ a

@[simp] theorem endsRaise {e : ε} {out : Except ε α} :
    Ends M fit w (.raise e) out w' ↔ out = .error e ∧ w' = w := by
  constructor
  · intro h
    cases h
    exact ⟨rfl,rfl⟩
  · rintro ⟨rfl,rfl⟩
    exact .raise _ e

theorem endsOp {o : E.Op} {k : E.Ans o → Prog E ε α} {out : Except ε α} : Ends M fit w (.op o k) out w'' ↔
    ∃ inp a w', fit o inp ∧ M.respond o inp w = some (a,w') ∧ Ends M fit w' (k a) out w'' := by
  constructor
  · intro h
    cases h with
    | op fits answered rest => exact ⟨_,_,_,fits,answered,rest⟩
  · rintro ⟨inp,a,w',fits,answered,rest⟩
    exact .op fits answered rest

theorem endsBind {p : Prog E ε α} {f : α → Prog E ε β} {out : Except ε β} : Ends M fit w (p >>= f) out w'' ↔
    (∃ e, Ends M fit w p (.error e) w'' ∧ out = .error e) ∨
      ∃ a w', Ends M fit w p (.ok a) w' ∧ Ends M fit w' (f a) out w'' := by
  induction p generalizing w with
  | ret a => simp [and_assoc]
  | raise e => simp [and_comm,and_assoc]
  | op o k ih =>
    rw [Prog.bindOp,endsOp]
    constructor
    · rintro ⟨inp,a,w',fits,answered,rest⟩
      rcases (ih a).mp rest with ⟨e,failed,last⟩ | ⟨b,w₁,first,last⟩
      · exact .inl ⟨e,.op fits answered failed,last⟩
      · exact .inr ⟨b,w₁,.op fits answered first,last⟩
    · rintro (⟨e,failed,last⟩ | ⟨b,w₁,first,last⟩)
      · obtain ⟨inp,a,w',fits,answered,rest⟩ := endsOp.mp failed
        exact ⟨inp,a,w',fits,answered,(ih a).mpr (.inl ⟨e,rest,last⟩)⟩
      · obtain ⟨inp,a,w',fits,answered,rest⟩ := endsOp.mp first
        exact ⟨inp,a,w',fits,answered,(ih a).mpr (.inr ⟨b,w₁,rest,last⟩)⟩

theorem endsMapError {f : ε → ε} {p : Prog E ε α} {out : Except ε α} : Ends M fit w (p.mapError f) out w' ↔
    ∃ out', Ends M fit w p out' w' ∧ out = out'.mapError f := by
  induction p generalizing w with
  | ret a => simp [Prog.mapError,and_comm,Except.mapError]
  | raise e => simp [Prog.mapError,and_comm,Except.mapError]
  | op o k ih =>
    rw [Prog.mapError,endsOp]
    constructor
    · rintro ⟨inp,a,w₁,fits,answered,rest⟩
      obtain ⟨out',ended,same⟩ := (ih a).mp rest
      exact ⟨out',.op fits answered ended,same⟩
    · rintro ⟨out',ended,same⟩
      obtain ⟨inp,a,w₁,fits,answered,rest⟩ := endsOp.mp ended
      exact ⟨inp,a,w₁,fits,answered,(ih a).mpr ⟨out',rest,same⟩⟩

theorem endsKeep {allowed : E.Op → Prop} {J : M.World → Prop}
    (keep : ∀ w o inp a w', J w → allowed o → M.respond o inp w = some (a,w') → J w') {p : Prog E ε α}
    {out : Except ε α} (performs : Performs allowed p) (start : J w) (ended : Ends M fit w p out w') : J w' := by
  induction ended with
  | ret w a => exact start
  | raise w e => exact start
  | op fits answered rest ih => exact ih (performs.2 _) (keep _ _ _ _ _ start performs.1 answered)

theorem endsSome (answers : ∀ o w, ∃ inp a w', fit o inp ∧ M.respond o inp w = some (a,w')) (w : M.World)
    (p : Prog E ε α) : ∃ out w', Ends M fit w p out w' := by
  induction p generalizing w with
  | ret a => exact ⟨_,_,.ret w a⟩
  | raise e => exact ⟨_,_,.raise w e⟩
  | op o k ih =>
    obtain ⟨inp,a,w',fits,answered⟩ := answers o w
    obtain ⟨out,w'',rest⟩ := ih a w'
    exact ⟨out,w'',.op fits answered rest⟩

end Moadian.Resumption
