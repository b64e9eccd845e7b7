import Mathlib.Data.List.Basic

/-! A connection under legacy transaction control. A statement that changes rows
first opens a transaction if none is open. A statement that changes the schema
opens none, so outside a transaction it is committed at once. -/
namespace Moadian

structure Statement (S E : Type) where
  opens : Bool
  effect : S → Except E S

-- `left` is how many more statements the process gets to.
structure Connection (S : Type) where
  committed : S
  pending : Option S := none
  left : Nat

inductive Stop (E : Type) where
  | interrupted
  | failed (e : E)
  deriving DecidableEq, Repr

namespace Connection
variable {S E : Type}

def seen (c : Connection S) : S := c.pending.getD c.committed

def execute (c : Connection S) (s : Statement S E) : Except (Stop E × S) (Connection S) :=
  match c.left with
  | 0 => .error (.interrupted,c.committed)
  | left+1 =>
    match s.effect c.seen with
    | .error e => .error (.failed e,c.committed)
    | .ok next =>
      if s.opens || c.pending.isSome then .ok ⟨c.committed,some next,left⟩ else .ok ⟨next,none,left⟩

def executeAll (l : List (Statement S E)) (c : Connection S) : Except (Stop E × S) (Connection S) :=
  l.foldlM execute c

def replay (l : List (Statement S E)) (s : S) : Except E S := l.foldlM (fun s t => t.effect s) s

theorem executeCases {c d : Connection S} {s : Statement S E} (ok : c.execute s = .ok d) :
    s.effect c.seen = .ok d.seen ∧ d.left + 1 = c.left ∧
      ((s.opens || c.pending.isSome) = true ∧ d.committed = c.committed ∧ d.pending = some d.seen ∨
        (s.opens || c.pending.isSome) = false ∧ d.committed = d.seen ∧ d.pending = none) := by
  unfold execute at ok
  split at ok
  · cases ok
  · rename_i left count
    split at ok
    · cases ok
    · rename_i next made
      split at ok
      · rename_i opened
        cases ok
        exact ⟨made,count.symm,Or.inl ⟨opened,rfl,rfl⟩⟩
      · rename_i closed
        cases ok
        exact ⟨made,count.symm,Or.inr ⟨by simpa using closed,rfl,rfl⟩⟩

theorem executeSome {c : Connection S} {s : Statement S E} {next : S}
    (made : s.effect c.seen = .ok next) (more : 0 < c.left) : ∃ d, c.execute s = .ok d ∧ d.seen = next := by
  obtain ⟨left,count⟩ : ∃ left, c.left = left + 1 := ⟨c.left - 1,by omega⟩
  simp only [execute,count,made]
  split
  · exact ⟨_,rfl,rfl⟩
  · exact ⟨_,rfl,rfl⟩

theorem executeStops {c : Connection S} {s : Statement S E} {stop : Stop E × S}
    (stopped : c.execute s = .error stop) : stop.2 = c.committed := by
  unfold execute at stopped
  split at stopped
  · cases stopped; rfl
  · split at stopped
    · cases stopped; rfl
    · split at stopped <;> cases stopped

theorem executeAllCons (s : Statement S E) (l : List (Statement S E)) (c : Connection S) :
    executeAll (s::l) c = c.execute s >>= executeAll l := rfl

theorem replayCons (s : Statement S E) (l : List (Statement S E)) (x : S) :
    replay (s::l) x = s.effect x >>= replay l := rfl

theorem executeAllAppend (l m : List (Statement S E)) (c : Connection S) :
    executeAll (l ++ m) c = executeAll l c >>= executeAll m := List.foldlM_append

theorem replayAppend (l m : List (Statement S E)) (x : S) :
    replay (l ++ m) x = replay l x >>= replay m := List.foldlM_append

theorem runSeen {l : List (Statement S E)} {c d : Connection S} (ok : executeAll l c = .ok d) :
    replay l c.seen = .ok d.seen := by
  induction l generalizing c with
  | nil => cases ok; rfl
  | cons s rest ih =>
    rw [executeAllCons] at ok
    cases first : c.execute s with
    | error stop => rw [first] at ok; cases ok
    | ok b =>
      rw [first] at ok
      rw [replayCons,(executeCases first).1]
      exact ih ok

theorem runWhole {l : List (Statement S E)} {c : Connection S} {final : S}
    (ok : replay l c.seen = .ok final) (enough : l.length ≤ c.left) :
    ∃ d, executeAll l c = .ok d ∧ d.seen = final := by
  induction l generalizing c with
  | nil => cases ok; exact ⟨c,rfl,rfl⟩
  | cons s rest ih =>
    rw [replayCons] at ok
    cases made : s.effect c.seen with
    | error e => rw [made] at ok; cases ok
    | ok next =>
      rw [made] at ok
      simp only [List.length_cons] at enough
      obtain ⟨b,first,same⟩ := executeSome made (by omega)
      have count := (executeCases first).2.1
      subst same
      obtain ⟨d,whole,last⟩ := ih ok (by omega)
      exact ⟨d,by rw [executeAllCons,first]; exact whole,last⟩

theorem cutPending {l : List (Statement S E)} {c : Connection S} (opened : c.pending.isSome = true)
    (short : c.left < l.length) : ∃ stop, executeAll l c = .error (stop,c.committed) := by
  induction l generalizing c with
  | nil => simp at short
  | cons s rest ih =>
    rw [executeAllCons]
    cases first : c.execute s with
    | error stop => exact ⟨stop.1,by rw [← executeStops first]; rfl⟩
    | ok d =>
      obtain ⟨_,count,⟨_,kept,still⟩ | ⟨closed,_⟩⟩ := executeCases first
      · simp only [List.length_cons] at short
        rw [← kept]
        exact ih (by rw [still]; rfl) (by omega)
      · simp [opened] at closed

-- Outside one it also leaves the schema statements that stand before the first change of rows.
theorem cutDurable {l : List (Statement S E)} {c : Connection S} {final : S} (closed : c.pending = none)
    (ok : replay l c.committed = .ok final) (short : c.left < l.length) :
    ∃ stop s, executeAll l c = .error (stop,s) ∧
      replay ((l.take c.left).takeWhile (fun s => !s.opens)) c.committed = .ok s := by
  induction l generalizing c with
  | nil => simp at short
  | cons s rest ih =>
    have shown : c.seen = c.committed := by rw [seen,closed]; rfl
    rw [executeAllCons]
    cases count : c.left with
    | zero => exact ⟨.interrupted,c.committed,by simp only [execute,count]; rfl,rfl⟩
    | succ left =>
      rw [replayCons] at ok
      cases made : s.effect c.committed with
      | error e => rw [made] at ok; cases ok
      | ok next =>
        rw [made] at ok
        obtain ⟨d,first,same⟩ := executeSome (shown ▸ made) (by omega)
        subst same
        obtain ⟨_,less,⟨opened,kept,still⟩ | ⟨plain,now,still⟩⟩ := executeCases first
        · have opens : s.opens = true := by simpa [closed] using opened
          simp only [List.length_cons] at short
          have shorter : d.left < rest.length := by omega
          obtain ⟨stop,cut⟩ := cutPending (by rw [still]; rfl) shorter
          exact ⟨stop,d.committed,by rw [first]; exact cut,by simp [opens,kept,replay,pure,Except.pure]⟩
        · have schema : s.opens = false := by simpa [closed] using plain
          simp only [List.length_cons] at short
          obtain ⟨stop,s',cut,left'⟩ := ih still (by rw [now]; exact ok) (by omega)
          refine ⟨stop,s',by rw [first]; exact cut,?_⟩
          have same : d.left = left := by omega
          rw [same] at left'
          simp only [List.take_succ_cons,schema,List.takeWhile_cons,Bool.not_false,if_true,replayCons,made]
          rw [now] at left'
          exact left'

end Connection
end Moadian
