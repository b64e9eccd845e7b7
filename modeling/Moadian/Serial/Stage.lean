import Moadian.Resumption.Stages
import Moadian.Serial.Counter

/-! How far a call has come, and what each operation of it has behind it. -/
namespace Moadian.Serial
open Resumption
open TaxId (maxSerial)

structure Stage where
  turn : Bool := false
  locked : Bool := false
  released : Bool := false
  -- The value it has read, and its temporary file with what it has written there.
  last : Option Nat := none
  temp : Option Nat := none
  text : Option Content := none
  flushed : Bool := false
  moved : Bool := false
  durable : Bool := false

def Stage.after (s : Stage) : (o : Op) → Except Fault o.Answer → Stage
  | .flock _, .ok _ => { s with turn := true, locked := true }
  | .unflock _, .ok _ => { s with locked := false, released := true }
  | .closeLock _, _ => { s with locked := false }
  | .readText _, .ok bytes => { s with last := (parse bytes).toOption }
  | .readText _, .error .notFound => { s with last := some 0 }
  | .mkstemp _, .ok t => { s with temp := some t }
  | .writeTemp _ _ text, .ok _ => { s with text := some text, flushed := false }
  | .syncTemp _ _, .ok _ => { s with flushed := true }
  | .replace _ _, .ok _ => { s with moved := true }
  | .syncDir _, .ok _ => { s with durable := s.moved }
  | .unlink _ _, .ok _ => { s with text := none }
  | _, _ => s

-- What a participant may write: a draw the serial after the one it read under the lock.
def Participant.writes (p : Participant) (s : Stage) (n : Nat) : Prop :=
  match p with
  | draw _ _ => s.locked = true ∧ ∃ last, s.last = some last ∧ n = last + 1
  | tool _ _ => True
  | _ => False

def Participant.draws : Participant → Bool
  | draw _ _ => true
  | _ => false

def allowed (p : Participant) (c : Caller) (s : Stage) : Op → Prop
  | .flock c' => c' = c ∧ s = {}
  | .unflock c' => c' = c ∧ s.locked = true
  | .readText c' => c' = c ∧ s = { turn := true, locked := true }
  | .mkstemp c' => c' = c ∧ s.temp = none ∧ s.text = none
  | .writeTemp c' t _ => c' = c ∧ s.temp = some t ∧ s.moved = false
  | .syncTemp c' t => c' = c ∧ s.temp = some t ∧ s.moved = false
  | .replace c' t => c' = c ∧ s.temp = some t ∧ s.moved = false ∧ s.flushed = true ∧
      ∃ n ≤ maxSerial, s.text = some (render n) ∧ p.writes s n
  | .syncDir c' => c' = c ∧ s.moved = true ∧ s.durable = false ∧ (p.draws = true → s.locked = true)
  | .unlink c' t => c' = c ∧ s.temp = some t
  | .crash process => p = .crash process
  | .blackout => p = .blackout
  | o => o.caller = some c

def steps (p : Participant) (c : Caller) : Stages effects Stage := ⟨allowed p c,Stage.after⟩

section Calls
variable {p : Participant} {c : Caller} {α : Type}

theorem alongPerform {β : Type} {Q : Stage → Except Error β → Prop} {s : Stage} {o : Op} {f : o.Answer → Call β}
    (may : allowed p c s o) (error : ∀ e, Q (s.after o (.error e)) (.error (.os e)))
    (ok : ∀ a, Along (steps p c) Q (s.after o (.ok a)) (f a)) : Along (steps p c) Q s (perform o >>= f) := by
  refine ⟨may,fun answer => ?_⟩
  cases answer with
  | error e => exact error e
  | ok a => exact ok a

theorem alongLast {o : Op} {Q : Stage → Except Error o.Answer → Prop} {s : Stage} (may : allowed p c s o)
    (error : ∀ e, Q (s.after o (.error e)) (.error (.os e))) (ok : ∀ a, Q (s.after o (.ok a)) (.ok a)) :
    Along (steps p c) Q s (perform o) := by
  refine ⟨may,fun answer => ?_⟩
  cases answer with
  | error e => exact error e
  | ok a => exact ok a

def Stage.Same (s s' : Stage) : Prop :=
  s'.turn = s.turn ∧ s'.locked = s.locked ∧ s'.released = s.released ∧ s'.last = s.last

def Wrote (s s' : Stage) : Except Error Unit → Prop
  | .ok _ => s.Same s' ∧ s'.durable = true
  | .error e => s.Same s' ∧ ∃ fault, e = .os fault

def Filled (s : Stage) (t n : Nat) (s' : Stage) (out : Except Error Unit) : Prop :=
  s.Same s' ∧ s'.temp = some t ∧ s'.moved = false ∧ s'.durable = false ∧
    match out with
    | .ok _ => s'.text = some (render n) ∧ s'.flushed = true
    | .error e => ∃ fault, e = .os fault

theorem fillAlong {s s' : Stage} {t n : Nat} (same : s.Same s') (temp : s'.temp = some t)
    (still : s'.moved = false) (volatile : s'.durable = false) :
    Along (steps p c) (Filled s t n) s' (Prog.ensuring (do
      perform (.writeTemp c t (render n))
      perform (.syncTemp c t)) (perform (.closeTemp c))) := by
  refine alongEnsuring (P := Filled s t n) ?_ ?_
  · refine alongPerform ⟨rfl,temp,still⟩ (fun e => ⟨same,temp,still,volatile,e,rfl⟩) (fun _ => ?_)
    exact alongLast ⟨rfl,temp,still⟩ (fun e => ⟨same,temp,still,volatile,e,rfl⟩)
      (fun _ => ⟨same,temp,still,volatile,rfl,rfl⟩)
  · intro s' out filled
    exact alongLast rfl (fun e => ⟨filled.1,filled.2.1,filled.2.2.1,filled.2.2.2.1,e,rfl⟩) (fun _ => filled)

theorem syncAlong {s s' : Stage} {t : Nat} (same : s.Same s') (temp : s'.temp = some t) (moved : s'.moved = true)
    (volatile : s'.durable = false) (held : p.draws = true → s.locked = true) :
    Along (steps p c) (fun s' out => s'.temp = some t ∧ Wrote s s' out) s'
      ((perform (.syncDir c)).ensuring (perform (.closeDir c))) := by
  refine alongEnsuring (P := fun s' out => s'.temp = some t ∧ Wrote s s' out) ?_ ?_
  · refine alongLast ⟨rfl,moved,volatile,fun draws => same.2.1.trans (held draws)⟩
      (fun e => ⟨temp,same,e,rfl⟩) (fun _ => ⟨temp,same,moved⟩)
  · intro s' out wrote
    refine alongLast rfl (fun e => ⟨wrote.1,?_,e,rfl⟩) (fun _ => wrote)
    cases out with
    | ok _ => exact wrote.2.1
    | error e => exact wrote.2.1

theorem writeAlong {s : Stage} {n : Nat} (fresh : s.temp = none ∧ s.text = none ∧ s.moved = false ∧ s.durable = false)
    (held : p.draws = true → s.locked = true) (small : n ≤ maxSerial) (may : ∀ s', s.Same s' → p.writes s' n) :
    Along (steps p c) (Wrote s) s (write c n) := by
  obtain ⟨noTemp,noText,still,volatile⟩ := fresh
  refine alongPerform ⟨rfl,noTemp,noText⟩ (fun e => ⟨⟨rfl,rfl,rfl,rfl⟩,e,rfl⟩) (fun t => ?_)
  refine alongOnRaise (P := fun s' out => s'.temp = some t ∧ Wrote s s' out) ?_ (fun s' a h => h.2) ?_
  · refine alongBind (fillAlong ⟨rfl,rfl,rfl,rfl⟩ rfl still volatile) ?_
      (fun s' e filled => ⟨filled.2.1,filled.1,filled.2.2.2.2⟩)
    rintro s' _ ⟨same,temp,still,volatile,text,flushed⟩
    refine alongPerform ⟨rfl,temp,still,flushed,n,small,text,may s' same⟩ (fun e => ⟨temp,same,e,rfl⟩) (fun _ => ?_)
    refine alongPerform rfl (fun e => ⟨temp,same,e,rfl⟩) (fun _ => ?_)
    exact syncAlong same temp rfl volatile held
  · rintro s' e ⟨temp,same,fault⟩
    refine alongPerform rfl (fun e => ⟨same,e,rfl⟩) (fun there => ?_)
    cases there with
    | false => exact ⟨same,fault⟩
    | true => exact alongLast ⟨rfl,temp⟩ (fun e => ⟨same,e,rfl⟩) (fun _ => ⟨same,fault⟩)

-- What a call knows of the file when it ends; `Q` must not ask whether the lock is held.
theorem exclusiveAlong {P Q : Stage → Except Error α → Prop} {body : Call α}
    (inside : Along (steps p c) (fun s out => s.locked = true ∧ P s out) { turn := true, locked := true } body)
    (early : ∀ fault, Q {} (.error (.os fault)))
    (kept : ∀ s out, P s out → Q { s with locked := false, released := true } out)
    (lost : ∀ s out released fault, P s out → Q { s with locked := false, released := released } (.error (.os fault))) :
    Along (steps p c) Q {} (exclusive c body) := by
  refine alongPerform rfl early (fun _ => alongPerform rfl early (fun _ => ?_))
  let R : Stage → Except Error α → Prop := fun s out =>
    Q { s with locked := false } out ∧ ∀ fault, Q { s with locked := false } (.error (.os fault))
  refine alongEnsuring (P := R) ?_ ?_
  · refine alongPerform ⟨rfl,rfl⟩ (fun e => ⟨early e,early⟩) (fun _ => ?_)
    refine alongEnsuring inside ?_
    intro s out inside
    obtain ⟨locked,held⟩ := inside
    exact alongLast ⟨rfl,locked⟩ (fun e => ⟨lost s out s.released e held,fun e => lost s out s.released e held⟩)
      (fun _ => ⟨kept s out held,fun e => lost s out true e held⟩)
  · intro s out ended
    exact alongLast rfl (fun e => ended.2 e) (fun _ => ended.1)

theorem withThreadAlong {Q : Stage → Except Error α → Prop} {body : Call α} (inside : Along (steps p c) Q {} body)
    (early : ∀ fault, Q {} (.error (.os fault))) (lost : ∀ s out fault, Q s out → Q s (.error (.os fault))) :
    Along (steps p c) Q {} (withThread c body) := by
  refine alongPerform rfl early (fun _ => alongEnsuring inside ?_)
  intro s out ended
  exact alongLast rfl (fun e => lost s out e ended) (fun _ => ended)

def Looked (s : Stage) : Except Error Nat → Prop
  | .ok last => s = { turn := true, locked := true, last := some last }
  | .error (.refused _) => s.turn = true ∧ s.moved = false
  | .error _ => True

theorem readAlong : Along (steps p c) (fun s out => s.locked = true ∧ Looked s out)
    { turn := true, locked := true } (read c) := by
  refine ⟨⟨rfl,rfl⟩,fun answer => ?_⟩
  match answer with
  | .error .notFound => exact ⟨rfl,rfl⟩
  | .error (.os reason) => exact ⟨rfl,trivial⟩
  | .ok bytes =>
    cases read : parse bytes with
    | error why => simp only [read]; exact ⟨rfl,rfl,rfl⟩
    | ok value =>
      have last : (parse bytes).toOption = some value := by rw [read]; rfl
      simp only [read]
      refine ⟨rfl,?_⟩
      change ({ turn := true, locked := true, last := (parse bytes).toOption } : Stage) = _
      rw [last]

def Shown (s : Stage) : Except Error Nat → Prop
  | .ok last => s = { turn := true, released := true, last := some last }
  | .error (.refused _) => s.turn = true ∧ s.released = true ∧ s.moved = false
  | .error _ => True

theorem currentAlong : Along (steps p c) Shown {} (current c) := by
  refine withThreadAlong (exclusiveAlong readAlong (fun _ => trivial) ?_ (fun _ _ _ _ _ => trivial))
    (fun _ => trivial) (fun _ _ _ _ => trivial)
  intro s out looked
  match out with
  | .ok last => cases looked; exact rfl
  | .error (.refused why) => exact ⟨looked.1,rfl,looked.2⟩
  | .error (.os fault) => trivial
  | .error (.unreadable reason) => trivial

def Issued (s : Stage) (n : Nat) : Prop :=
  s.turn = true ∧ s.durable = true ∧ n ≤ maxSerial ∧ ∃ last, s.last = some last ∧ n = last + 1

def Drawing (s : Stage) : Except Error Nat → Prop
  | .ok n => Issued s n
  | .error (.refused _) => s.turn = true ∧ s.moved = false
  | .error _ => True

def Drawn (s : Stage) : Except Error Nat → Prop
  | .ok n => Issued s n
  | .error (.refused _) => s.turn = true ∧ s.released = true ∧ s.moved = false
  | .error _ => True

theorem drawAlong {process counter : Nat} : Along (steps (.draw process counter) c) Drawn {} (draw c) := by
  refine withThreadAlong (exclusiveAlong (P := Drawing) ?_ (fun _ => trivial) ?_ (fun _ _ _ _ _ => trivial))
    (fun _ => trivial) (fun _ _ _ _ => trivial)
  · refine alongBind readAlong ?_ ?_
    · intro s last looked
      cases looked.2
      split
      · exact ⟨rfl,rfl,rfl⟩
      · rename_i fits
        refine alongBind (writeAlong ⟨rfl,rfl,rfl,rfl⟩ (fun _ => rfl) (by omega)
          (fun s' same => ⟨same.2.1,last,same.2.2.2,rfl⟩)) ?_ ?_
        · intro s' _ wrote
          exact ⟨wrote.1.2.1,wrote.1.1,wrote.2,by omega,last,wrote.1.2.2.2,rfl⟩
        · rintro s' _ ⟨same,fault,rfl⟩
          exact ⟨same.2.1,trivial⟩
    · intro s e looked
      match e with
      | .refused why => exact looked
      | .os fault => exact ⟨looked.1,trivial⟩
      | .unreadable reason => exact ⟨looked.1,trivial⟩
  · intro s out drawing
    match out with
    | .ok n => exact drawing
    | .error (.refused why) => exact ⟨drawing.1,rfl,drawing.2⟩
    | .error (.os fault) => trivial
    | .error (.unreadable reason) => trivial

def Ends (p : Participant) (s : Stage) : Except Error Outcome → Prop
  | .ok (.serial n) => p.draws = true ∧ Issued s n
  | .error (.refused _) => s.turn = true ∧ s.released = true ∧ s.moved = false
  | _ => True

theorem toolAlong {process : Nat} {args : Args} : Along (steps (.tool process args) c)
    (fun s out => Ends (.tool process args) s (out.map .exit)) {} (tool c args) := by
  unfold tool
  split
  · trivial
  · refine alongBind (P := fun s out => ∃ last, out = .ok last ∧ Shown s last)
      (alongAttempt currentAlong (fun s out shown => ⟨out,rfl,shown⟩)) ?_ ?_
    · rintro s last ⟨_,same,shown⟩
      cases same
      match last with
      | .error e =>
        simp only
        split
        · trivial
        · match e with
          | .refused why => exact shown
          | .os fault => trivial
          | .unreadable reason => trivial
      | .ok last =>
        cases shown
        refine alongPerform rfl (fun _ => trivial) (fun _ => ?_)
        split
        · trivial
        · trivial
        · rename_i goal _
          unfold repair
          split
          · trivial
          split
          · trivial
          split
          · trivial
          rename_i within _ _
          refine alongBind (writeAlong ⟨rfl,rfl,rfl,rfl⟩ (fun draws => by cases draws) (by omega)
            (fun _ _ => trivial)) (fun _ _ _ => trivial) ?_
          rintro s' _ ⟨_,fault,rfl⟩
          trivial
    · rintro s e ⟨_,same,_⟩
      cases same

end Calls

theorem participantAlong (p : Participant) (id : Nat) :
    Along (steps p (p.caller id)) (Ends p) {} (p.program id) := by
  cases p with
  | draw process counter =>
    refine alongBind drawAlong (fun s n drawn => ⟨rfl,drawn⟩) (fun s e drawn => ?_)
    match e with
    | .refused why => exact drawn
    | .os fault => trivial
    | .unreadable reason => trivial
  | current process counter =>
    refine alongBind currentAlong (fun s n shown => trivial) (fun s e shown => ?_)
    match e with
    | .refused why => exact shown
    | .os fault => trivial
    | .unreadable reason => trivial
  | tool process args => exact alongBind toolAlong (fun s code ended => trivial) (fun s e ended => ended)
  | crash process => exact alongPerform rfl (fun _ => trivial) (fun _ => trivial)
  | blackout => exact alongPerform rfl (fun _ => trivial) (fun _ => trivial)

end Moadian.Serial
