/-! A block of statements on a connection used as a context manager: what they wrote
stays when the block ends and its commit goes through, and otherwise nothing of it does. -/
namespace Moadian

abbrev Faults (E : Type) := Nat → Option E

abbrev Block (S E : Type) := StateT (S × Faults E) (Except E)

namespace Block
variable {S E A B : Type}

def statement (effect : S → Except E (A × S)) : Block S E A := fun (s,faults) =>
  match faults 0 with
  | some e => .error e
  | none =>
    match effect s with
    | .error e => .error e
    | .ok (a,after) => .ok (a,after,fun n => faults (n+1))

-- `with connection:`; the commit is the statement after the last.
def write (faults : Faults E) (body : Block S E A) (s : S) : Except E A × S :=
  match body (s,faults) with
  | .error e => (.error e,s)
  | .ok (a,after,later) =>
    match later 0 with
    | some e => (.error e,s)
    | none => (.ok a,after)

def forEach (body : B → Block S E Unit) : List B → Block S E Unit
  | [] => pure ()
  | x :: rest => do
    body x
    forEach body rest

theorem writeCases (faults : Faults E) (body : Block S E A) (s : S) :
    (∃ e, write faults body s = (.error e,s)) ∨
      ∃ a after later, body (s,faults) = .ok (a,after,later) ∧ write faults body s = (.ok a,after) := by
  unfold write
  cases ran : body (s,faults) with
  | error e => exact .inl ⟨e,rfl⟩
  | ok ended =>
    obtain ⟨a,after,later⟩ := ended
    cases commit : later 0 with
    | some e => exact .inl ⟨e,by simp only [commit]⟩
    | none => exact .inr ⟨a,after,later,rfl,by simp only [commit]⟩

def Ends (P : S → Prop) (body : Block S E A) (Q : A → S → Prop) : Prop :=
  ∀ s faults a after later, P s → body (s,faults) = .ok (a,after,later) → Q a after

variable {P : S → Prop} {Q : A → S → Prop} {R : B → S → Prop}

theorem endsPure {a : A} (held : ∀ s, P s → Q a s) : Ends P (pure a : Block S E A) Q := by
  intro s faults b after later start ran
  cases ran
  exact held s start

theorem endsThrow (e : E) : Ends P (throw e : Block S E A) Q := by
  intro s faults a after later start ran
  cases ran

theorem endsBind {body : Block S E A} {rest : A → Block S E B} (first : Ends P body Q)
    (second : ∀ a, Ends (Q a) (rest a) R) : Ends P (body >>= rest) R := by
  intro s faults b after later start ran
  simp only [bind,StateT.bind,Except.bind] at ran
  cases middle : body (s,faults) with
  | error e => rw [middle] at ran; cases ran
  | ok ended =>
    rw [middle] at ran
    exact second ended.1 _ _ b after later (first s faults ended.1 ended.2.1 ended.2.2 start middle) ran

theorem endsStatement {effect : S → Except E (A × S)}
    (held : ∀ s a after, P s → effect s = .ok (a,after) → Q a after) : Ends P (statement effect) Q := by
  intro s faults a after later start ran
  simp only [statement] at ran
  split at ran
  · cases ran
  · split at ran
    · cases ran
    · rename_i made
      cases ran
      exact held s a after start made

theorem endsForEach {body : B → Block S E Unit} (I : List B → S → Prop) {xs : List B}
    (step : ∀ seen x, Ends (I seen) (body x) (fun _ => I (seen ++ [x]))) :
    ∀ seen, Ends (I seen) (forEach body xs) (fun _ => I (seen ++ xs)) := by
  induction xs with
  | nil =>
    intro seen
    rw [List.append_nil]
    exact endsPure (fun _ held => held)
  | cons x rest ih =>
    intro seen
    have later := ih (seen ++ [x])
    rw [List.append_assoc,List.singleton_append] at later
    exact endsBind (step seen x) (fun _ => later)

theorem writeEnds {body : Block S E A} (faults : Faults E) (ends : Ends P body Q) {s : S} (start : P s) {a : A}
    (returned : (write faults body s).1 = .ok a) : Q a (write faults body s).2 := by
  obtain ⟨e,raised⟩ | ⟨b,after,later,ran,ended⟩ := writeCases faults body s
  · rw [raised] at returned; cases returned
  · rw [ended] at returned ⊢
    cases returned
    exact ends s faults a after later start ran

theorem writeRaised {body : Block S E A} {faults : Faults E} {s : S} {e : E}
    (raised : (write faults body s).1 = .error e) : (write faults body s).2 = s := by
  obtain ⟨e,stopped⟩ | ⟨a,after,later,ran,ended⟩ := writeCases faults body s
  · rw [stopped]
  · rw [ended] at raised; cases raised

theorem writeKeeps {body : Block S E A} (faults : Faults E) (keeps : Ends P body (fun _ => P)) {s : S} (start : P s) :
    P (write faults body s).2 := by
  cases ended : (write faults body s).1 with
  | error e => rw [writeRaised ended]; exact start
  | ok a => exact writeEnds faults keeps start ended

def quiet : Faults E := fun _ => none

def Runs (body : Block S E A) : Prop := ∀ s, ∃ a after, body (s,quiet) = .ok (a,after,quiet)

theorem runsPure (a : A) : Runs (pure a : Block S E A) := fun s => ⟨a,s,rfl⟩

theorem runsStatement {effect : S → Except E (A × S)} (works : ∀ s, ∃ a after, effect s = .ok (a,after)) :
    Runs (statement effect) := by
  intro s
  obtain ⟨a,after,made⟩ := works s
  refine ⟨a,after,?_⟩
  simp only [statement,quiet,made]
  rfl

theorem runsBind {body : Block S E A} {rest : A → Block S E B} (first : Runs body) (second : ∀ a, Runs (rest a)) :
    Runs (body >>= rest) := by
  intro s
  obtain ⟨a,middle,ran⟩ := first s
  obtain ⟨b,after,ended⟩ := second a middle
  refine ⟨b,after,?_⟩
  simp only [bind,StateT.bind,Except.bind,ran,ended]

theorem runsForEach {body : B → Block S E Unit} {xs : List B} (each : ∀ x ∈ xs, Runs (body x)) :
    Runs (forEach body xs) := by
  induction xs with
  | nil => exact runsPure ()
  | cons x rest ih =>
    exact runsBind (each x (List.mem_cons_self ..)) (fun _ => ih (fun y later => each y (List.mem_cons_of_mem x later)))

theorem writeRuns {body : Block S E A} (runs : Runs body) (s : S) : ∃ a, (write quiet body s).1 = .ok a := by
  obtain ⟨a,after,ran⟩ := runs s
  exact ⟨a,by simp only [write,ran,quiet]⟩

end Block
end Moadian
