import Mathlib.Data.String.Basic
import Moadian.Config.Envelope
import Moadian.Resumption.Program

/-! The calls of a `ProfileStore`, and the file they act on. A call looks whether the
file is there, reads it whole, and puts a new one in its place. -/
namespace Moadian.Config
open Codec Crypto Resumption

inductive ReadFault where
  | os (text : String)
  | undecodable (text : String)
  deriving DecidableEq, Repr

inductive Op where
  | pathExists
  | readText
  | tokenBytes (n : Nat)
  | atomicWrite (data : Bytes)
  deriving DecidableEq

def Op.Ans : Op → Type
  | pathExists => Except String Bool
  | readText => Except ReadFault (List Char)
  | tokenBytes n => { data : Bytes // data.length = n }
  | atomicWrite _ => Except String Unit

abbrev effects : Effects := ⟨Op,Op.Ans⟩

def ask (o : Op) : Prog effects Fail o.Ans := Prog.op o Prog.ret

def lift {α : Type} : Except Fail α → Prog effects Fail α
  | .ok a => .ret a
  | .error f => .raise f

def osError (text : String) : Fail := .escaped (.other text)

def unreadable (store : ProfileStore) (text : String) : Fail :=
  configuration ("profile store " ++ store.path ++ " is unreadable: " ++ text)

section Store
variable (pk : Package) (store : ProfileStore)

def noProfile (name : String) : Fail :=
  configuration ("no profile named " ++ pk.repr (.str name) ++ " in " ++ store.path)

def afterRead : Except ReadFault (List Char) → Except Fail Profiles
  | .error (.os text) => .error (unreadable store text)
  | .error (.undecodable text) => .error (.escaped (.valueError text))
  | .ok doc => opened pk store doc

def readAll : Prog effects Fail Profiles := do
  match ← ask .pathExists with
  | .error text => Prog.raise (osError text)
  | .ok false => Prog.ret .empty
  | .ok true =>
    let read ← ask .readText
    lift (afterRead pk store read)

def writeAll (profiles : Profiles) : Prog effects Fail Unit := do
  let salt ← ask (.tokenBytes saltLength)
  let nonce ← ask (.tokenBytes nonceLength)
  let data ← lift (sealed pk store salt.val nonce.val profiles)
  let written ← ask (.atomicWrite data)
  lift (written.mapError osError)

inductive Request where
  | save (profile : Profile)
  | load (name : String)
  | delete (name : String)
  | listNames
  deriving DecidableEq, Repr

inductive Answer where
  | done
  | profile (found : Profile)
  | names (names : List String)
  deriving DecidableEq, Repr

def save (profile : Profile) : Prog effects Fail Unit := do
  lift ((profile.validate pk.repr).mapError Fail.error)
  let profiles ← readAll pk store
  writeAll pk store (profiles.put profile.name profile)

def load (name : String) : Prog effects Fail Profile := do
  let profiles ← readAll pk store
  match profiles.get name with
  | some profile => Prog.ret profile
  | none => Prog.raise (noProfile pk store name)

def delete (name : String) : Prog effects Fail Unit := do
  let profiles ← readAll pk store
  if (profiles.get name).isNone then Prog.raise (noProfile pk store name)
  else writeAll pk store (profiles.del name)

def listNames : Prog effects Fail (List String) := do
  let profiles ← readAll pk store
  Prog.ret profiles.sorted

def perform : Request → Prog effects Fail Answer
  | .save profile => do
    save pk store profile
    Prog.ret .done
  | .load name => do
    let found ← load pk store name
    Prog.ret (.profile found)
  | .delete name => do
    delete pk store name
    Prog.ret .done
  | .listNames => do
    let names ← listNames pk store
    Prog.ret (.names names)

end Store

/-! The directory of the store. -/

inductive Site where
  | mkdir | mkstemp | write | flush | fsync | replace | unlink
  deriving DecidableEq, Repr

structure Disk where
  file : Option Bytes := none
  temps : List (Nat × Bytes) := []
  nextTemp : Nat := 0
  deriving DecidableEq, Repr

abbrev Faults := Site → Option String

namespace Disk

def mkstemp (disk : Disk) : Disk := { disk with temps := (disk.nextTemp,[]) :: disk.temps, nextTemp := disk.nextTemp + 1 }

def write (disk : Disk) (temp : Nat) (data : Bytes) : Disk :=
  { disk with temps := disk.temps.map (fun t => if t.1 = temp then (temp,data) else t) }

def unlink (disk : Disk) (temp : Nat) : Disk := { disk with temps := disk.temps.filter (fun t => t.1 ≠ temp) }

-- `os.replace`: the file is the old one or the whole of the new one.
def replace (disk : Disk) (temp : Nat) : Disk := { disk.unlink temp with file := (disk.temps.lookup temp).or disk.file }

def cleanUp (disk : Disk) (faults : Faults) (temp : Nat) (text : String) : Except String Unit × Disk :=
  match faults .unlink with
  | some other => (.error other,disk)
  | none => (.error text,disk.unlink temp)

/- The temporary file has a name of its own, so other calls see of this only that the
file is replaced. -/
def atomicWrite (faults : Faults) (data : Bytes) (disk : Disk) : Except String Unit × Disk :=
  match (faults .mkdir).or (faults .mkstemp) with
  | some text => (.error text,disk)
  | none =>
    let temp := disk.nextTemp
    let made := disk.mkstemp
    match faults .write with
    | some text => made.cleanUp faults temp text
    | none =>
      let written := made.write temp data
      match ((faults .flush).or (faults .fsync)).or (faults .replace) with
      | some text => written.cleanUp faults temp text
      | none => (.ok (),written.replace temp)

theorem cleanUpKeeps (disk : Disk) (faults : Faults) (temp : Nat) (text : String) : ∃ raised site,
    (disk.cleanUp faults temp text).1 = .error raised ∧ (raised = text ∨ faults site = some raised) ∧
      (disk.cleanUp faults temp text).2.file = disk.file := by
  unfold cleanUp
  cases gone : faults .unlink with
  | none => exact ⟨text,.unlink,rfl,.inl rfl,rfl⟩
  | some other => exact ⟨other,.unlink,rfl,.inr gone,rfl⟩

theorem orSome {a b : Option String} {text : String} (h : a.or b = some text) : a = some text ∨ b = some text := by
  cases a with
  | none => exact .inr h
  | some t => exact .inl h

-- Either the file holds just the new data, or something was refused and it is as it was.
theorem atomicWriteCases (faults : Faults) (data : Bytes) (disk : Disk) :
    ((atomicWrite faults data disk).1 = .ok () ∧ (atomicWrite faults data disk).2.file = some data) ∨
    (∃ text site, (atomicWrite faults data disk).1 = .error text ∧ faults site = some text ∧
      (atomicWrite faults data disk).2.file = disk.file) := by
  have cleaned : ∀ (made : Disk) temp text site, made.file = disk.file → faults site = some text →
      ∃ raised site, (made.cleanUp faults temp text).1 = .error raised ∧ faults site = some raised ∧
        (made.cleanUp faults temp text).2.file = disk.file := by
    intro made temp text site same refused
    obtain ⟨raised,site',ends,why,file⟩ := made.cleanUpKeeps faults temp text
    rcases why with rfl | why
    · exact ⟨raised,site,ends,refused,file.trans same⟩
    · exact ⟨raised,site',ends,why,file.trans same⟩
  simp only [atomicWrite]
  cases opening : (faults .mkdir).or (faults .mkstemp) with
  | some text =>
    rcases orSome opening with refused | refused
    · exact .inr ⟨text,_,rfl,refused,rfl⟩
    · exact .inr ⟨text,_,rfl,refused,rfl⟩
  | none =>
    cases writing : faults .write with
    | some text => exact .inr (cleaned _ _ _ .write rfl writing)
    | none =>
      cases ending : ((faults .flush).or (faults .fsync)).or (faults .replace) with
      | some text =>
        rcases orSome ending with refused | refused
        · rcases orSome refused with refused | refused
          · exact .inr (cleaned _ _ _ _ rfl refused)
          · exact .inr (cleaned _ _ _ _ rfl refused)
        · exact .inr (cleaned _ _ _ _ rfl refused)
      | none => exact .inl ⟨rfl,by simp [replace,write,mkstemp]⟩

end Disk

def Op.Input : Op → Type
  | pathExists => Option String
  | readText => Option String
  | tokenBytes n => { data : Bytes // data.length = n }
  | atomicWrite _ => Faults

def Disk.readText (pk : Package) (fault : Option String) (disk : Disk) : Except ReadFault (List Char) :=
  match fault,disk.file with
  | some text,_ => .error (.os text)
  | none,none => .error (.os "No such file or directory")
  | none,some data => match fileText data with
    | none => .error (.undecodable (pk.undecodable data))
    | some doc => .ok doc

def Disk.respond (pk : Package) : (o : Op) → o.Input → Disk → Option (o.Ans × Disk)
  | .pathExists,fault,disk => some (fault.elim (.ok disk.file.isSome) .error,disk)
  | .readText,fault,disk => some (disk.readText pk fault,disk)
  | .tokenBytes _,drawn,disk => some (drawn,disk)
  | .atomicWrite data,faults,disk => some (disk.atomicWrite faults data)

abbrev machine (pk : Package) : Machine effects where
  World := Disk
  Input := Op.Input
  respond := Disk.respond pk

end Moadian.Config
