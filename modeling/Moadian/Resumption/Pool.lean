import Moadian.Resumption.Contract

/-! Any number of programs over one shared world, in every order of their
operations. A schedule names the task of each move and what the environment
decides there; a move of an ended or blocked task changes nothing. -/
namespace Moadian.Resumption

variable {E : Effects} {M : Machine E} {ε α : Type}

structure Pool (M : Machine E) (ε α : Type) where
  world : M.World
  tasks : List (Task M ε α)

abbrev Schedule (M : Machine E) := List (Nat × Oracle M)

namespace Pool

def start (w : M.World) (programs : List (Prog E ε α)) : Pool M ε α :=
  ⟨w,programs.map (Task.start M)⟩

def step (q : Pool M ε α) (i : Nat) (orc : Oracle M) : Pool M ε α :=
  match q.tasks[i]? with
  | none => q
  | some t => match t.step orc q.world with
    | none => q
    | some (w,t') => ⟨w,q.tasks.set i t'⟩

def run (q : Pool M ε α) (moves : Schedule M) : Pool M ε α :=
  moves.foldl (fun q m => q.step m.1 m.2) q

def Throughout (C : Pool M ε α → Nat → Oracle M → Prop) : Pool M ε α → Schedule M → Prop
  | _, [] => True
  | q, m :: rest => C q m.1 m.2 ∧ Throughout C (q.step m.1 m.2) rest

instance decideThroughout {C : Pool M ε α → Nat → Oracle M → Prop} [∀ q i orc, Decidable (C q i orc)] :
    (q : Pool M ε α) → (moves : Schedule M) → Decidable (Throughout C q moves)
  | _, [] => isTrue trivial
  | q, m :: rest => match decideThroughout (q.step m.1 m.2) rest with
    | isTrue later => decidable_of_iff (C q m.1 m.2) ⟨fun now => ⟨now,later⟩,And.left⟩
    | isFalse broken => isFalse (fun h => broken h.2)

def Ended (q : Pool M ε α) : Prop := ∀ t ∈ q.tasks, t.prog.Ended

instance (q : Pool M ε α) : Decidable q.Ended := inferInstanceAs (Decidable (∀ t ∈ q.tasks, t.prog.Ended))

@[simp] theorem runNil (q : Pool M ε α) : q.run [] = q := rfl

@[simp] theorem runCons (q : Pool M ε α) (m : Nat × Oracle M) (rest : Schedule M) :
    q.run (m :: rest) = (q.step m.1 m.2).run rest := rfl

theorem runAppend (q : Pool M ε α) (xs ys : Schedule M) : q.run (xs ++ ys) = (q.run xs).run ys :=
  List.foldl_append

theorem throughoutAppend {C : Pool M ε α → Nat → Oracle M → Prop} {q : Pool M ε α}
    {xs ys : Schedule M} (h : Throughout C q (xs ++ ys)) :
    Throughout C q xs ∧ Throughout C (q.run xs) ys := by
  induction xs generalizing q with
  | nil => exact ⟨trivial,h⟩
  | cons m rest ih =>
    obtain ⟨left,right⟩ := ih h.2
    exact ⟨⟨h.1,left⟩,right⟩

theorem throughoutTrue (q : Pool M ε α) (moves : Schedule M) :
    Throughout (fun _ _ _ => True) q moves := by
  induction moves generalizing q with
  | nil => trivial
  | cons m rest ih => exact ⟨trivial,ih _⟩

theorem stepCases (q : Pool M ε α) (i : Nat) (orc : Oracle M) :
    q.step i orc = q ∨ ∃ t o k a w', q.tasks[i]? = some t ∧ t.prog = .op o k ∧
      M.respond o (orc o) q.world = some (a,w') ∧
      q.step i orc = ⟨w',q.tasks.set i ⟨k a,t.trace ++ [⟨o,orc o,a⟩]⟩⟩ := by
  unfold step
  cases ht : q.tasks[i]? with
  | none => exact .inl rfl
  | some t =>
    cases hs : t.step orc q.world with
    | none => exact .inl (by simp only [hs])
    | some next =>
      obtain ⟨w',t'⟩ := next
      obtain ⟨o,k,a,hp,answered,rfl⟩ := taskStepCases hs
      exact .inr ⟨t,o,k,a,w',rfl,hp,answered,by simp only [hs]⟩

theorem stepMoved {q : Pool M ε α} {i : Nat} {orc : Oracle M} {t : Task M ε α} {o : E.Op} {k : E.Ans o → Prog E ε α}
    {a : E.Ans o} {w' : M.World} (found : q.tasks[i]? = some t) (at_ : t.prog = .op o k)
    (answered : M.respond o (orc o) q.world = some (a,w')) :
    q.step i orc = ⟨w',q.tasks.set i ⟨k a,t.trace ++ [⟨o,orc o,a⟩]⟩⟩ := by
  simp only [step,Task.step,found,at_,answered]

theorem runInvariant {I : Pool M ε α → Prop} {C : Pool M ε α → Nat → Oracle M → Prop}
    (keep : ∀ q i orc t o k a w', I q → C q i orc → q.tasks[i]? = some t → t.prog = .op o k →
      M.respond o (orc o) q.world = some (a,w') →
      I ⟨w',q.tasks.set i ⟨k a,t.trace ++ [⟨o,orc o,a⟩]⟩⟩)
    {q : Pool M ε α} {moves : Schedule M} (init : I q) (met : Throughout C q moves) :
    I (q.run moves) := by
  induction moves generalizing q with
  | nil => exact init
  | cons m rest ih =>
    rw [runCons]
    refine ih ?_ met.2
    obtain same | ⟨t,o,k,a,w',ht,hp,answered,after⟩ := stepCases q m.1 m.2
    · rw [same]; exact init
    · rw [after]; exact keep q m.1 m.2 t o k a w' init met.1 ht hp answered

def Obey (may : Nat → List (Event M) → E.Op → Prop) (ends : Nat → List (Event M) → Except ε α → Prop)
    (q : Pool M ε α) : Prop :=
  ∀ i t, q.tasks[i]? = some t → Obeys (may i) (ends i) t.trace t.prog

variable {may : Nat → List (Event M) → E.Op → Prop} {ends : Nat → List (Event M) → Except ε α → Prop}

theorem obeyStart {w : M.World} {programs : List (Prog E ε α)}
    (h : ∀ i p, programs[i]? = some p → Obeys (may i) (ends i) [] p) : (start w programs).Obey may ends := by
  intro i t found
  obtain ⟨p,hp,rfl⟩ := List.getElem?_map.symm.trans found |> Option.map_eq_some_iff.mp
  exact h i p hp

theorem setCases {q : Pool M ε α} {i j : Nat} {t new t' : Task M ε α} (found : q.tasks[i]? = some t)
    (h : (q.tasks.set i new)[j]? = some t') : (j = i ∧ t' = new) ∨ (j ≠ i ∧ q.tasks[j]? = some t') := by
  by_cases same : j = i
  · subst same
    rw [List.getElem?_set_self (List.getElem?_eq_some_iff.mp found).1] at h
    exact .inl ⟨rfl,(Option.some.inj h).symm⟩
  · rw [List.getElem?_set_ne (Ne.symm same)] at h
    exact .inr ⟨same,h⟩

theorem obeyMove {q : Pool M ε α} {i : Nat} {orc : Oracle M} {t : Task M ε α} {o : E.Op}
    {k : E.Ans o → Prog E ε α} {a : E.Ans o} {w' : M.World} (h : q.Obey may ends)
    (found : q.tasks[i]? = some t) (at_ : t.prog = .op o k)
    (answered : M.respond o (orc o) q.world = some (a,w')) :
    may i t.trace o ∧ Obey may ends ⟨w',q.tasks.set i ⟨k a,t.trace ++ [⟨o,orc o,a⟩]⟩⟩ := by
  have here := h i t found
  rw [at_] at here
  refine ⟨here.1,fun j t' found' => ?_⟩
  obtain ⟨rfl,rfl⟩ | ⟨_,old⟩ := setCases found found'
  · exact here.2 (orc o) a ⟨q.world,w',answered⟩
  · exact h j t' old

theorem obeyOne {w : M.World} {programs : List (Prog E ε α)} {i : Nat} {p : Prog E ε α}
    {may : List (Event M) → E.Op → Prop} {ends : List (Event M) → Except ε α → Prop} {J : List (Event M) → Prop}
    (there : programs[i]? = some p) (h : Obeys may ends [] p) (init : J [])
    (keep : ∀ tr o inp a, J tr → may tr o → J (tr ++ [⟨o,inp,a⟩])) {moves : Schedule M} {t : Task M ε α}
    (found : ((start w programs).run moves).tasks[i]? = some t) : Obeys may ends t.trace t.prog ∧ J t.trace := by
  refine runInvariant (I := fun q => ∀ t, q.tasks[i]? = some t → Obeys may ends t.trace t.prog ∧ J t.trace) ?_ ?_
    (throughoutTrue _ moves) t found
  · intro q j orc t' o k a w' held _ here at_ answered t found
    obtain ⟨rfl,rfl⟩ | ⟨_,old⟩ := setCases here found
    · obtain ⟨before,kept⟩ := held t' here
      rw [at_] at before
      exact ⟨before.2 (orc o) a ⟨q.world,w',answered⟩,keep _ _ _ _ kept before.1⟩
    · exact held t old
  · intro t found
    obtain ⟨p',same,rfl⟩ := Option.map_eq_some_iff.mp (List.getElem?_map.symm.trans found)
    cases Option.some.inj (there.symm.trans same)
    exact ⟨h,init⟩

-- What is true of an answer when it is given, and never undone, is true of every answer.
theorem eventsRun {F : M.World → Event M → Prop}
    (given : ∀ w o inp a w', M.respond o inp w = some (a,w') → F w' ⟨o,inp,a⟩)
    (lasts : ∀ w e o inp a w', F w e → M.respond o inp w = some (a,w') → F w' e)
    {w : M.World} {programs : List (Prog E ε α)} (moves : Schedule M) :
    ∀ t ∈ ((start w programs).run moves).tasks, ∀ e ∈ t.trace, F ((start w programs).run moves).world e := by
  refine runInvariant (I := fun q => ∀ t ∈ q.tasks, ∀ e ∈ t.trace, F q.world e) ?_ ?_ (throughoutTrue _ moves)
  · intro q i orc t o k a w' held _ found _ answered t' member e seen
    rcases List.mem_or_eq_of_mem_set member with old | rfl
    · exact lasts _ _ _ _ _ _ (held t' old e seen) answered
    · rcases List.mem_append.mp seen with before | last
      · exact lasts _ _ _ _ _ _ (held t (List.mem_of_getElem? found) e before) answered
      · rw [List.mem_singleton.mp last]
        exact given _ _ _ _ _ answered
  · intro t member e seen
    obtain ⟨p,_,rfl⟩ := List.mem_map.mp member
    cases seen

theorem unbegun {w : M.World} {programs : List (Prog E ε α)} {moves : Schedule M} {i : Nat} {t : Task M ε α}
    (found : ((start w programs).run moves).tasks[i]? = some t) (fresh : t.trace = []) :
    ∃ p, programs[i]? = some p ∧ t = Task.start M p := by
  refine runInvariant (I := fun q => ∀ i t, q.tasks[i]? = some t → t.trace = [] →
    ∃ p, programs[i]? = some p ∧ t = Task.start M p) ?_ ?_ (throughoutTrue _ moves) i t found fresh
  · intro q j orc t' o k a w' held _ here _ _ i t found fresh
    obtain ⟨rfl,rfl⟩ | ⟨_,old⟩ := setCases here found
    · exact absurd fresh (List.append_ne_nil_of_right_ne_nil _ (List.cons_ne_nil _ _))
    · exact held i t old fresh
  · intro i t found _
    obtain ⟨p,there,rfl⟩ := Option.map_eq_some_iff.mp (List.getElem?_map.symm.trans found)
    exact ⟨p,there,rfl⟩

theorem endedStays {q : Pool M ε α} {i : Nat} {t : Task M ε α} (found : q.tasks[i]? = some t) (ended : t.prog.Ended)
    (moves : Schedule M) : (q.run moves).tasks[i]? = some t := by
  refine runInvariant (I := fun q => q.tasks[i]? = some t) ?_ found (throughoutTrue q moves)
  intro q j orc t' o k a w' here _ other at_ _
  by_cases same : j = i
  · subst same
    cases Option.some.inj (here.symm.trans other)
    rw [at_] at ended
    exact ended.elim
  · rw [List.getElem?_set_ne same]
    exact here

theorem performsRun {allowed : E.Op → Prop} {J : M.World → Prop}
    (keep : ∀ w o inp a w', J w → allowed o → M.respond o inp w = some (a,w') → J w') {w : M.World}
    {programs : List (Prog E ε α)} (performs : ∀ p ∈ programs, Performs allowed p) (start_ : J w) (moves : Schedule M) :
    J ((start w programs).run moves).world := by
  have contract : (start w programs).Obey (fun _ _ o => allowed o) (fun _ _ _ => True) :=
    obeyStart (fun i p there => obeysPerforms (performs p (List.mem_of_getElem? there)) (fun _ _ _ ok => ok)
      (fun _ _ _ => True.intro))
  refine (runInvariant (I := fun q => J q.world ∧ q.Obey (fun _ _ o => allowed o) (fun _ _ _ => True)) ?_
    ⟨start_,contract⟩ (throughoutTrue _ moves)).1
  rintro q i orc t o k a w' ⟨held,obey⟩ _ found at_ answered
  obtain ⟨ok,still⟩ := obeyMove obey found at_ answered
  exact ⟨keep _ _ _ _ _ held ok answered,still⟩

end Pool
end Moadian.Resumption
