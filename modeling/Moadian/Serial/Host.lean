import Moadian.Resumption.Pool
import Moadian.Serial.Text

/-! One host with a counter file, its lock file and the processes that use them. -/
namespace Moadian.Serial
open Resumption

structure Caller where
  id : Nat
  process : Nat
  counter : Nat
  deriving DecidableEq, Repr

inductive Fault where
  | notFound
  | os (reason : String)
  deriving DecidableEq, Repr

inductive Op where
  | lockThread (c : Caller)
  | unlockThread (c : Caller)
  | mkdir (c : Caller)
  | openLock (c : Caller)
  | flock (c : Caller)
  | unflock (c : Caller)
  | closeLock (c : Caller)
  | readText (c : Caller)
  | pathExists (c : Caller)
  | mkstemp (c : Caller)
  | writeTemp (c : Caller) (temp : Nat) (text : Content)
  | syncTemp (c : Caller) (temp : Nat)
  | closeTemp (c : Caller)
  | replace (c : Caller) (temp : Nat)
  | openDir (c : Caller)
  | syncDir (c : Caller)
  | closeDir (c : Caller)
  | tempExists (c : Caller) (temp : Nat)
  | unlink (c : Caller) (temp : Nat)
  | crash (process : Nat)
  | blackout
  deriving DecidableEq, Repr

def Op.caller : Op → Option Caller
  | lockThread c | unlockThread c | mkdir c | openLock c | flock c | unflock c | closeLock c | readText c
  | pathExists c | mkstemp c | writeTemp c _ _ | syncTemp c _ | closeTemp c | replace c _ | openDir c
  | syncDir c | closeDir c | tempExists c _ | unlink c _ => some c
  | crash _ | blackout => none

def Op.Answer : Op → Type
  | readText _ => Content
  | mkstemp _ => Nat
  | pathExists _ | tempExists _ _ => Bool
  | _ => Unit

abbrev effects : Effects := ⟨Op,fun o => Except Fault o.Answer⟩

structure Temp where
  text : Content
  synced : Bool

/- `survivors` are what the counter file may hold after a power failure: what it held
when its directory was last synced, and whatever has replaced that since. -/
structure Host where
  file : Option Content
  survivors : List (Option Content)
  temps : Nat → Option Temp := fun _ => none
  nextTemp : Nat := 0
  threads : List (Nat × Nat) := []
  flock : Option Caller := none
  started : List Nat := []
  dead : List Nat := []
  -- What the file held as each call took the lock, and as it gave the lock back.
  acquired : List (Nat × Option Content) := []
  released : List (Nat × Option Content) := []

-- The environment may fail an operation; a power failure leaves one survivor.
structure Decision where
  fault : Option String := none
  survivor : Nat := 0

namespace Host

def setTemp (w : Host) (t : Nat) (temp : Option Temp) : Host :=
  { w with temps := fun t' => if t' = t then temp else w.temps t' }

-- Closing the lock file gives up the lock that came with it.
def letGo (w : Host) (c : Caller) : Host := { w with flock := if w.flock = some c then none else w.flock }

-- A file replaced by one that was never synced may come back empty.
def renamed (w : Host) (t : Nat) (temp : Temp) : Host :=
  { w.setTemp t none with
    file := some temp.text
    survivors := w.survivors ++ some temp.text :: if temp.synced then [] else [some []] }

def crashed (w : Host) (p : Nat) : Host :=
  { w with dead := p :: w.dead
           threads := w.threads.filter (fun l => l.1 ≠ p)
           flock := w.flock.filter (fun c => c.process ≠ p) }

def darkened (w : Host) (k : Nat) : Host :=
  { w with file := w.survivors.getD k w.file
           survivors := [w.survivors.getD k w.file]
           threads := []
           flock := none
           dead := w.started ++ w.dead }

-- `none` while the operation waits.
def perform (w : Host) : (o : Op) → Option (Except Fault o.Answer × Host)
  | .lockThread c => if (c.process,c.counter) ∈ w.threads then none
      else some (.ok (),{ w with threads := (c.process,c.counter) :: w.threads })
  | .unlockThread c => some (.ok (),{ w with threads := w.threads.erase (c.process,c.counter) })
  | .flock c => match w.flock with
    | some _ => none
    | none => some (.ok (),{ w with flock := some c, acquired := w.acquired ++ [(c.id,w.file)] })
  | .unflock c => some (.ok (),{ w.letGo c with released := w.released ++ [(c.id,w.file)] })
  | .closeLock c => some (.ok (),w.letGo c)
  | .readText _ => match w.file with
    | none => some (.error .notFound,w)
    | some text => some (.ok text,w)
  | .pathExists _ => some (.ok w.file.isSome,w)
  | .mkstemp _ => some (.ok w.nextTemp,{ w.setTemp w.nextTemp (some ⟨[],true⟩) with nextTemp := w.nextTemp + 1 })
  | .writeTemp _ t text => some (.ok (),w.setTemp t (some ⟨text,false⟩))
  | .syncTemp _ t => some (.ok (),w.setTemp t ((w.temps t).map (fun temp => { temp with synced := true })))
  | .replace _ t => match w.temps t with
    | none => some (.error .notFound,w)
    | some temp => some (.ok (),w.renamed t temp)
  | .syncDir _ => some (.ok (),{ w with survivors := [w.file] })
  | .tempExists _ t => some (.ok (w.temps t).isSome,w)
  | .unlink _ t => match w.temps t with
    | none => some (.error .notFound,w)
    | some _ => some (.ok (),w.setTemp t none)
  | .mkdir _ | .openLock _ | .closeTemp _ | .openDir _ | .closeDir _ | .crash _ | .blackout => some (.ok (),w)

-- An operation that fails does nothing, but a lock file that fails to close is closed.
def failed (w : Host) : Op → Host
  | .closeLock c => w.letGo c
  | _ => w

def respond (o : Op) (d : Decision) (w : Host) : Option (Except Fault o.Answer × Host) :=
  match o.caller with
  | some c =>
    if c.process ∈ w.dead then none
    else
      let w := { w with started := c.process :: w.started }
      match d.fault with
      | some reason => some (.error (.os reason),w.failed o)
      | none => w.perform o
  | none => match o with
    | .crash p => some (.ok (),w.crashed p)
    | .blackout => some (.ok (),w.darkened d.survivor)
    | _ => none

end Host

abbrev machine : Machine effects where
  World := Host
  Input := fun _ => Decision
  respond := Host.respond

def Host.up (file : Option Content) : Host := { file := file, survivors := [file] }

end Moadian.Serial
