import Moadian.Serial.Stage

/-! What one operation does to the host and to the stage of the call that makes it. -/
namespace Moadian.Serial
open Resumption
open TaxId (maxSerial)

def Host.begun (w : Host) (c : Caller) : Host := { w with started := c.process :: w.started }

inductive Moved (p : Participant) (c : Caller) (s : Stage) (w : Host) : Stage → Host → Prop where
  | idle (threads : List (Nat × Nat)) : Moved p c s w s { w with threads := threads }
  | take (free : w.flock = none) (fresh : s = {}) :
      Moved p c s w { turn := true, locked := true }
        { w with flock := some c, acquired := w.acquired ++ [(c.id,w.file)] }
  | give (held : s.locked = true) : Moved p c s w { s with locked := false, released := true }
      { w.letGo c with released := w.released ++ [(c.id,w.file)] }
  | close : Moved p c s w { s with locked := false } (w.letGo c)
  | look (held : s = { turn := true, locked := true }) : Moved p c s w { s with last := stored w.file } w
  | make (noTemp : s.temp = none) (noText : s.text = none) : Moved p c s w { s with temp := some w.nextTemp }
      { w.setTemp w.nextTemp (some ⟨[],true⟩) with nextTemp := w.nextTemp + 1 }
  | fill (t : Nat) (x : Content) (temp : s.temp = some t) (still : s.moved = false) :
      Moved p c s w { s with text := some x, flushed := false } (w.setTemp t (some ⟨x,false⟩))
  | flush (t : Nat) (temp : s.temp = some t) (still : s.moved = false) : Moved p c s w { s with flushed := true }
      (w.setTemp t ((w.temps t).map (fun temp => { temp with synced := true })))
  | swap (t n : Nat) (f : Temp) (temp : s.temp = some t) (still : s.moved = false) (flushed : s.flushed = true)
      (small : n ≤ maxSerial) (text : s.text = some (render n)) (may : p.writes s n) (there : w.temps t = some f) :
      Moved p c s w { s with moved := true } (w.renamed t f)
  | settle (moved : s.moved = true) (volatile : s.durable = false) (held : p.draws = true → s.locked = true) :
      Moved p c s w { s with durable := true } { w with survivors := [w.file] }
  | drop (t : Nat) (temp : s.temp = some t) : Moved p c s w { s with text := none } (w.setTemp t none)

section Respond
variable {p : Participant} {c : Caller} {s : Stage} {w w' : Host}

theorem performMoved {o : Op} {a : Except Fault o.Answer} (caller : o.caller = some c) (may : allowed p c s o)
    (answered : w.perform o = some (a,w')) : Moved p c s w (s.after o a) w' := by
  cases o with
  | lockThread c' =>
    simp only [Host.perform] at answered
    split at answered
    · cases answered
    · cases answered; exact .idle _
  | unlockThread c' => cases answered; exact .idle _
  | mkdir c' => cases answered; exact .idle _
  | openLock c' => cases answered; exact .idle _
  | flock c' =>
    obtain ⟨rfl,rfl⟩ := may
    simp only [Host.perform] at answered
    split at answered
    · cases answered
    · rename_i free; cases answered; exact .take free rfl
  | unflock c' => obtain ⟨rfl,held⟩ := may; cases answered; exact .give held
  | closeLock c' => cases caller; cases answered; exact .close
  | readText c' =>
    obtain ⟨rfl,rfl⟩ := may
    simp only [Host.perform] at answered
    have look := Moved.look (p := p) (c := c') (w := w) rfl
    split at answered
    · rename_i missing; cases answered; rw [missing] at look; exact look
    · rename_i text found; cases answered; rw [found] at look; exact look
  | pathExists c' => cases answered; exact .idle _
  | mkstemp c' => obtain ⟨_,noTemp,noText⟩ := may; cases answered; exact .make noTemp noText
  | writeTemp c' t x => obtain ⟨_,temp,still⟩ := may; cases answered; exact .fill t x temp still
  | syncTemp c' t => obtain ⟨_,temp,still⟩ := may; cases answered; exact .flush t temp still
  | closeTemp c' => cases answered; exact .idle _
  | replace c' t =>
    obtain ⟨_,temp,still,flushed,n,small,text,may⟩ := may
    simp only [Host.perform] at answered
    split at answered
    · cases answered; exact .idle _
    · rename_i f there; cases answered; exact .swap t n f temp still flushed small text may there
  | openDir c' => cases answered; exact .idle _
  | syncDir c' =>
    obtain ⟨_,moved,volatile,held⟩ := may
    cases answered
    have settle := Moved.settle (p := p) (c := c) (w := w) moved volatile held
    rw [← moved] at settle
    exact settle
  | closeDir c' => cases answered; exact .idle _
  | tempExists c' t => cases answered; exact .idle _
  | unlink c' t =>
    simp only [Host.perform] at answered
    split at answered
    · cases answered; exact .idle _
    · cases answered; exact .drop t may.2
  | crash process => cases caller
  | blackout => cases caller

theorem failedMoved {o : Op} {reason : String} (caller : o.caller = some c) :
    Moved p c s w (s.after o (.error (.os reason))) (w.failed o) := by
  cases o with
  | closeLock c' => cases caller; exact .close
  | _ => exact .idle _

theorem respondMoved {o : Op} {d : Decision} {a : Except Fault o.Answer} (caller : o.caller = some c)
    (may : allowed p c s o) (answered : w.respond o d = some (a,w')) :
    c.process ∉ w.dead ∧ Moved p c s (w.begun c) (s.after o a) w' := by
  unfold Host.respond at answered
  simp only [caller] at answered
  split at answered
  · cases answered
  · rename_i alive
    refine ⟨alive,?_⟩
    split at answered
    · cases answered; exact failedMoved caller
    · exact performMoved caller may answered

end Respond

end Moadian.Serial
