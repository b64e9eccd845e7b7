import Moadian.Serial.Values

/-! Runs of any number of calls, crashes and power failures over one counter file. -/
namespace Moadian.Serial
open Resumption
open TaxId (maxSerial)

-- Past the end there is nobody; a crash that never comes is as good as nobody.
def cast (ps : List Participant) : Nat → Participant := fun i => ps.getD i (.crash 0)

def stageAt (tr : List (Event machine)) : Stage := tr.foldl (fun s e => s.after e.op e.ans) {}

def stageOf (q : System) (i : Nat) : Stage :=
  match q.tasks[i]? with
  | none => {}
  | some t => stageAt t.trace

def mayOf (ps : List Participant) (i : Nat) (tr : List (Event machine)) (o : Op) : Prop :=
  allowed (cast ps i) (callerOf (cast ps) i) (stageAt tr) o

def endsOf (ps : List Participant) (i : Nat) (tr : List (Event machine)) (out : Except Error Outcome) : Prop :=
  Ends (cast ps i) (stageAt tr) out

def replacing (q : System) (i : Nat) : Option Nat :=
  match (q.tasks[i]?).bind (fun t => t.prog.next) with
  | some (.replace _ temp) => (q.world.temps temp).bind (fun f => stored (some f.text))
  | _ => none

def underway (ps : List Participant) (q : System) (j : Nat) : Option Nat :=
  if (cast ps j).draws = true ∧ Alive (cast ps) q.world j ∧ (stageOf q j).locked = true ∧
    (stageOf q j).moved = false then (stageOf q j).last else none

/- When a participant that is not a draw replaces the file, nothing above what it writes
is stored, and no draw under way is about to write less. -/
def Fitting (ps : List Participant) (q : System) (i : Nat) (_ : Oracle machine) : Prop :=
  (cast ps i).draws = false → ∀ n ∈ replacing q i, (∀ u ∈ stored q.world.file, u ≤ n) ∧
    ∀ j < ps.length, ∀ last ∈ underway ps q j, n ≤ last + 1

instance (ps : List Participant) (q : System) (i : Nat) (orc : Oracle machine) : Decidable (Fitting ps q i orc) := by
  unfold Fitting
  infer_instance

structure Sound (ps : List Participant) (q : System) : Prop where
  obey : q.Obey (mayOf ps) (endsOf ps)
  locking : Locking (cast ps) (stageOf q) q.world
  drafts : Drafts (stageOf q) q.world
  values : Values (cast ps) (stageOf q) q.world

variable {ps : List Participant} {q : System} {i : Nat} {w w' : Host}

theorem stageSnoc (tr : List (Event machine)) (e : Event machine) :
    stageAt (tr ++ [e]) = (stageAt tr).after e.op e.ans := by
  simp [stageAt]

theorem stageSet {t t' : Task machine Error Outcome} (found : q.tasks[i]? = some t) :
    stageOf ⟨w',q.tasks.set i t'⟩ = Function.update (stageOf q) i (stageAt t'.trace) := by
  funext j
  by_cases own : j = i
  · subst own
    rw [Function.update_self,stageOf,List.getElem?_set_self (List.getElem?_eq_some_iff.mp found).1]
  · rw [Function.update_of_ne own,stageOf,List.getElem?_set_ne (Ne.symm own)]
    rfl

theorem stageFound {t : Task machine Error Outcome} (found : q.tasks[i]? = some t) : stageOf q i = stageAt t.trace := by
  rw [stageOf,found]

theorem allowedCaller {p : Participant} {c : Caller} {s : Stage} {o : Op} (may : allowed p c s o) :
    o.caller = some c ∨ (∃ process, o = .crash process) ∨ o = .blackout := by
  cases o with
  | crash process => exact .inr (.inl ⟨process,rfl⟩)
  | blackout => exact .inr (.inr rfl)
  | flock c' | unflock c' | readText c' | mkstemp c' | writeTemp c' | syncTemp c' | replace c' | syncDir c' | unlink c' =>
    exact .inl (congrArg some may.1)
  | _ => exact .inl may

theorem movedReplace {s : Stage} {o : Op} {a : Except Fault o.Answer} (still : s.moved = false)
    (moved : (s.after o a).moved = true) : ∃ c t, o = .replace c t := by
  cases o with
  | replace c t => exact ⟨c,t,rfl⟩
  | readText c =>
    cases a with
    | ok bytes => simp [Stage.after,still] at moved
    | error e => cases e <;> simp [Stage.after,still] at moved
  | _ => cases a <;> simp [Stage.after,still] at moved

section Begun
variable {P : Nat → Participant} {σ : Nat → Stage}

theorem Locking.start (h : Locking P σ w) (c : Caller) : Locking P σ (w.begun c) :=
  h.frame (fun _ => ⟨rfl,rfl⟩) rfl rfl rfl (fun _ member => List.mem_cons_of_mem _ member)

theorem Drafts.start (h : Drafts σ w) (c : Caller) : Drafts σ (w.begun c) := ⟨h.below,h.apart,h.filled⟩

theorem Values.start (h : Values P σ w) (c : Caller) : Values P σ (w.begun c) :=
  h.frame (fun _ => ⟨id,rfl,rfl,rfl⟩) (fun _ gone => gone) rfl rfl rfl

theorem Frozen.start (h : Frozen P σ w) (c : Caller) : Frozen P σ (w.begun c) := ⟨h.found,h.left⟩

end Begun

section Step
variable {t : Task machine Error Outcome} {o : Op} {k : Except Fault o.Answer → Call Outcome}
variable {a : Except Fault o.Answer} {orc : Oracle machine}

/- What a move of task `i` does: either it is the end of a process or of all of them, or
the caller of `i` is alive and does one of the moves of a call. -/
theorem moveCases (h : Sound ps q) (found : q.tasks[i]? = some t) (at_ : t.prog = .op o k)
    (answered : q.world.respond o (orc o) = some (a,w')) :
    ((stageOf q i).after o a = stageOf q i ∧
      ((∃ p, w' = q.world.crashed p) ∨ (cast ps i = .blackout ∧ ∃ n, w' = q.world.darkened n))) ∨
    (Alive (cast ps) q.world i ∧ Moved (cast ps i) (callerOf (cast ps) i) (stageOf q i)
      (q.world.begun (callerOf (cast ps) i)) ((stageOf q i).after o a) w') := by
  have may := (Pool.obeyMove h.obey found at_ answered).1
  rw [mayOf,← stageFound found] at may
  rcases allowedCaller may with own | ⟨process,rfl⟩ | rfl
  · exact .inr (respondMoved own may answered)
  · cases answered; exact .inl ⟨rfl,.inl ⟨process,rfl⟩⟩
  · cases answered; exact .inl ⟨rfl,.inr ⟨may,_,rfl⟩⟩

theorem fittingFits (h : Sound ps q) (fitting : Fitting ps q i orc) (found : q.tasks[i]? = some t)
    (at_ : t.prog = .op o k) (still : (stageOf q i).moved = false) (moved : ((stageOf q i).after o a).moved = true)
    (draws : (cast ps i).draws = false) (temp : Nat) (f : Temp) (n : Nat) (own : (stageOf q i).temp = some temp)
    (there : q.world.temps temp = some f) (value : stored (some f.text) = some n) :
    Fits (cast ps) (stageOf q) q.world i n := by
  obtain ⟨c,temp',rfl⟩ := movedReplace still moved
  have obeys := h.obey i t found
  rw [at_] at obeys
  have may := obeys.1
  rw [mayOf,← stageFound found] at may
  have same : temp' = temp := Option.some.inj (may.2.1.symm.trans own)
  subst same
  have next : replacing q i = some n := by simp only [replacing,found,at_,Option.bind_some,Prog.next,there,value]
  obtain ⟨below,others⟩ := fitting draws n next
  refine ⟨below,?_⟩
  rintro j last _ ⟨draws',up,locked,read⟩ still'
  have inside : j < ps.length := by
    by_contra outside
    rw [cast,List.getD_eq_getElem?_getD,List.getElem?_eq_none (by omega)] at draws'
    cases draws'
  exact others j inside last (by rw [underway,if_pos ⟨draws',up,locked,still'⟩]; exact read)

theorem soundStep (h : Sound ps q) (fitting : Fitting ps q i orc) (found : q.tasks[i]? = some t)
    (at_ : t.prog = .op o k) (answered : q.world.respond o (orc o) = some (a,w')) :
    Sound ps ⟨w',q.tasks.set i ⟨k a,t.trace ++ [⟨o,orc o,a⟩]⟩⟩ := by
  have obey := (Pool.obeyMove h.obey found at_ answered).2
  have stages : stageOf ⟨w',q.tasks.set i ⟨k a,t.trace ++ [⟨o,orc o,a⟩]⟩⟩ =
      Function.update (stageOf q) i ((stageOf q i).after o a) := by
    rw [stageSet found,stageSnoc,stageFound found]
  refine ⟨obey,?_,?_,?_⟩ <;> rw [stages]
  · rcases moveCases h found at_ answered with ⟨same,⟨p,rfl⟩ | ⟨_,n,rfl⟩⟩ | ⟨up,move⟩
    · rw [same,Function.update_eq_self]; exact h.locking.crashed p
    · rw [same,Function.update_eq_self]; exact h.locking.darkened n
    · exact (h.locking.start _).moved up List.mem_cons_self move
  · rcases moveCases h found at_ answered with ⟨same,⟨p,rfl⟩ | ⟨_,n,rfl⟩⟩ | ⟨up,move⟩
    · rw [same,Function.update_eq_self]; exact ⟨h.drafts.below,h.drafts.apart,h.drafts.filled⟩
    · rw [same,Function.update_eq_self]; exact ⟨h.drafts.below,h.drafts.apart,h.drafts.filled⟩
    · exact (h.drafts.start _).moved move
  · rcases moveCases h found at_ answered with ⟨same,⟨p,rfl⟩ | ⟨_,n,rfl⟩⟩ | ⟨up,move⟩
    · rw [same,Function.update_eq_self]; exact h.values.crashed p
    · rw [same,Function.update_eq_self]; exact h.values.darkened h.locking n
    · refine (h.values.start _).moved (h.locking.start _) (h.drafts.start _) up ?_ move
      exact fittingFits h fitting found at_

theorem risesStep (h : Sound ps q) (fitting : Fitting ps q i orc) (calm : cast ps i ≠ .blackout)
    (found : q.tasks[i]? = some t) (at_ : t.prog = .op o k)
    (answered : q.world.respond o (orc o) = some (a,w')) : Rises q.world.file w'.file := by
  rcases moveCases h found at_ answered with ⟨_,⟨p,rfl⟩ | ⟨dark,_⟩⟩ | ⟨up,move⟩
  · exact risesSame _
  · exact absurd dark calm
  · exact (h.values.start _).rises (h.locking.start _) (h.drafts.start _) up (fittingFits h fitting found at_) move

theorem frozenStep (h : Sound ps q) (frozen : Frozen (cast ps) (stageOf q) q.world)
    (counter : ∀ process args, cast ps i ≠ .tool process args) (found : q.tasks[i]? = some t)
    (at_ : t.prog = .op o k) (answered : q.world.respond o (orc o) = some (a,w')) :
    Frozen (cast ps) (stageOf ⟨w',q.tasks.set i ⟨k a,t.trace ++ [⟨o,orc o,a⟩]⟩⟩) w' := by
  rw [stageSet found,stageSnoc,← stageFound found]
  rcases moveCases h found at_ answered with ⟨same,⟨p,rfl⟩ | ⟨_,n,rfl⟩⟩ | ⟨up,move⟩
  · rw [same,Function.update_eq_self]; exact frozen.crashed p
  · rw [same,Function.update_eq_self]; exact frozen.darkened h.locking n
  · exact (frozen.start _).moved (h.locking.start _) up counter move

theorem countersFit (h : Sound ps q) (counter : ∀ process args, cast ps i ≠ .tool process args) :
    Fitting ps q i orc := by
  intro draws n next
  unfold replacing at next
  split at next
  · rename_i c temp about
    obtain ⟨t,found,about⟩ := Option.bind_eq_some_iff.mp about
    obtain ⟨k,at_⟩ := Prog.nextSome about
    have obeys := h.obey i t found
    rw [at_] at obeys
    obtain ⟨_,_,_,_,m,_,_,may⟩ := obeys.1
    cases own : cast ps i with
    | draw process k => rw [own] at draws; cases draws
    | tool process args => exact absurd own (counter process args)
    | _ => rw [own] at may; exact may.elim
  · cases next

end Step

theorem stagesStart (file : Option Content) (ps : List Participant) : stageOf (launch file ps) = fun _ => {} := by
  funext j
  unfold stageOf
  cases found : (launch file ps).tasks[j]? with
  | none => rfl
  | some t =>
    obtain ⟨p,_,rfl⟩ := Option.map_eq_some_iff.mp (List.getElem?_map.symm.trans found)
    rfl

theorem soundStart (file : Option Content) (ps : List Participant) : Sound ps (launch file ps) := by
  have stages := stagesStart file ps
  refine ⟨?_,?_,?_,?_⟩
  · refine Pool.obeyStart (fun j p started => ?_)
    obtain ⟨⟨participant,id⟩,there,rfl⟩ := Option.map_eq_some_iff.mp (List.getElem?_map.symm.trans started)
    obtain ⟨same,place⟩ : ps[j]? = some participant ∧ id = j := by
      simp only [List.getElem?_zipIdx,Option.map_eq_some_iff,Prod.mk.injEq] at there
      obtain ⟨_,there,rfl,rfl⟩ := there
      exact ⟨there,by omega⟩
    subst place
    have own : cast ps id = participant := by rw [cast,List.getD_eq_getElem?_getD,same]; rfl
    have along : Along (steps participant (participant.caller id)) (Ends participant)
        ((steps participant (participant.caller id)).reached {} ([] : List (Event machine)))
        (participant.program id) := participantAlong participant id
    have obeys := alongObeys along
    rw [← own] at obeys ⊢
    exact obeys
  · rw [stages]
    exact ⟨fun c held => (by cases held),fun i held => (by cases held),fun i held => (by cases held),
      fun i => ⟨fun held => (by cases held),fun held => (by cases held)⟩,List.nodup_nil,
      fun i held => (by cases held),fun i held => (by cases held)⟩
  · rw [stages]
    exact ⟨fun i t held => (by cases held),fun i j t held => (by cases held),fun i t x held => (by cases held)⟩
  · rw [stages]
    exact ⟨fun i last own => (by cases own.2.2.1),fun i last own => (by cases own.2.2.1),List.mem_cons_self,
      fun i last own => (by cases own.2.1),fun i j last last' before own => (by cases own.2.1)⟩

theorem soundRun {file : Option Content} {moves : Schedule machine}
    (met : Pool.Throughout (Fitting ps) (launch file ps) moves) : Sound ps ((launch file ps).run moves) :=
  Pool.runInvariant (I := Sound ps) (fun _ _ _ _ _ _ _ _ sound fitting found at_ answered =>
    soundStep sound fitting found at_ answered) (soundStart file ps) met

end Moadian.Serial
