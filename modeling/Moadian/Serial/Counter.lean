import Moadian.Serial.Host

/-! `MonotonicSerialCounter`, and `tools/serial.py`. -/
namespace Moadian.Serial
open Resumption
open TaxId (maxSerial)

inductive Error where
  | os (fault : Fault)
  | unreadable (reason : String)
  | refused (why : Refusal)
  deriving DecidableEq, Repr

-- Whether it is a `MoadianError`: text that is not ASCII is a `UnicodeDecodeError`.
def Error.moadian : Error → Bool
  | os _ => false
  | unreadable _ => true
  | refused .undecodable => false
  | refused _ => true

abbrev Call (α : Type) := Prog effects Error α

def perform (o : Op) : Call o.Answer :=
  .op o (fun | .ok a => .ret a | .error e => .raise (.os e))

def refuse {α : Type} (why : Refusal) : Call α := .raise (.refused why)

def withThread {α : Type} (c : Caller) (body : Call α) : Call α := do
  perform (.lockThread c)
  body.ensuring (perform (.unlockThread c))

def exclusive {α : Type} (c : Caller) (body : Call α) : Call α := do
  perform (.mkdir c)
  perform (.openLock c)
  Prog.ensuring (do
    perform (.flock c)
    body.ensuring (perform (.unflock c))) (perform (.closeLock c))

def read (c : Caller) : Call Nat :=
  .op (.readText c) fun
    | .error .notFound => .ret 0
    | .error (.os reason) => .raise (.unreadable reason)
    | .ok bytes => match parse bytes with
      | .error why => refuse why
      | .ok value => .ret value

def write (c : Caller) (serial : Nat) : Call Unit := do
  let t ← perform (.mkstemp c)
  Prog.onRaise (do
    Prog.ensuring (do
      perform (.writeTemp c t (render serial))
      perform (.syncTemp c t)) (perform (.closeTemp c))
    perform (.replace c t)
    perform (.openDir c)
    (perform (.syncDir c)).ensuring (perform (.closeDir c))) (do
      let there : Bool ← perform (.tempExists c t)
      if there then perform (.unlink c t) else .ret ())

def draw (c : Caller) : Call Nat := withThread c (exclusive c (do
  let last ← read c
  if maxSerial < last + 1 then refuse (.exhausted (last + 1))
  else do
    write c (last + 1)
    .ret (last + 1)))

def current (c : Caller) : Call Nat := withThread c (exclusive c (read c))

/- The command line of the tool. `fromTaxid` holds what `serial_of` made of each tax
id given: its fiscal memory and serial, or the reason it was refused. -/
structure Args where
  memoryId : String
  set : Option Int := none
  fromTaxid : List (Except String (String × Nat)) := []
  force : Bool := false

def highest (memoryId : String) : List (Except String (String × Nat)) → Nat → Option Nat
  | [], best => some best
  | .error _ :: _, _ => none
  | .ok (memory,serial) :: rest, best =>
    if memory = memoryId then highest memoryId rest (max best serial) else none

-- `none` ends the run with exit code 1, `some none` with 0.
def target (args : Args) : Option (Option Int) :=
  if args.fromTaxid = [] then some args.set
  else (highest args.memoryId args.fromTaxid 0).map (fun best => some (best : Int))

def repair (c : Caller) (args : Args) (last : Nat) (goal : Int) : Call Nat :=
  if goal < 0 ∨ (maxSerial : Int) < goal then .ret 1
  else if goal = last then .ret 0
  else if goal < last ∧ args.force = false then .ret 1
  else do
    write c goal.toNat
    .ret 0

def tool (c : Caller) (args : Args) : Call Nat :=
  if args.set.isSome ∧ args.fromTaxid ≠ [] then .ret 2
  else do
    let last ← (current c).attempt
    match last with
    | .error e => if e.moadian then .ret 1 else .raise e
    | .ok last =>
      let _ ← perform (.pathExists c)
      match target args with
      | none => .ret 1
      | some none => .ret 0
      | some (some goal) => repair c args last goal

inductive Participant where
  | draw (process counter : Nat)
  | current (process counter : Nat)
  | tool (process : Nat) (args : Args)
  | crash (process : Nat)
  | blackout

inductive Outcome where
  | serial (n : Nat)
  | shown (n : Nat)
  | exit (code : Nat)
  | over
  deriving DecidableEq, Repr

def Participant.caller (id : Nat) : Participant → Caller
  | draw p k | current p k => ⟨id,p,k⟩
  | tool p _ => ⟨id,p,0⟩
  | crash p => ⟨id,p,0⟩
  | blackout => ⟨id,0,0⟩

def Participant.program (id : Nat) : Participant → Call Outcome
  | draw p k => do let n ← Serial.draw ⟨id,p,k⟩; .ret (.serial n)
  | current p k => do let n ← Serial.current ⟨id,p,k⟩; .ret (.shown n)
  | tool p args => do let code ← Serial.tool ⟨id,p,0⟩ args; .ret (.exit code)
  | crash p => do perform (.crash p); .ret .over
  | blackout => do perform .blackout; .ret .over

abbrev System := Pool machine Error Outcome

def launch (file : Option Content) (participants : List Participant) : System :=
  Pool.start (M := machine) (Host.up file) (participants.zipIdx.map (fun p => p.1.program p.2))

end Moadian.Serial
