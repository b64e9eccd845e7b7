import Moadian.Config.Vault
import Moadian.Mock.Unpacked
import Moadian.Resumption.Solo

/-! A profile store is a finite map from names to profiles that is owned by the
passphrase it was first written under. -/
namespace Moadian.Config
open Codec Crypto Resumption

structure Held where
  owner : Option String
  profiles : Finmap (fun _ : String => Profile)

def Request.checked (pk : Package) : Request → Except Fail Unit
  | .save profile => (profile.validate pk.repr).mapError Fail.error
  | _ => .ok ()

namespace Held

def nothing : Held := ⟨none,∅⟩

def locked (held : Held) (passphrase : String) : Bool := held.owner.any (· ≠ passphrase)

def found (held : Held) (pk : Package) (store : ProfileStore) : Request → Except Fail Answer
  | .save _ => .ok .done
  | .load name => match held.profiles.lookup name with
    | some profile => .ok (.profile profile)
    | none => .error (noProfile pk store name)
  | .delete name => if name ∈ held.profiles then .ok .done else .error (noProfile pk store name)
  | .listNames => .ok (.names held.profiles.keys.sort)

def answer (held : Held) (pk : Package) (store : ProfileStore) (request : Request) : Except Fail Answer :=
  match request.checked pk with
  | .error f => .error f
  | .ok _ => if held.locked store.passphrase then .error (couldNotDecrypt store) else held.found pk store request

def after (held : Held) (passphrase : String) (request : Request) : Except Fail Answer → Held
  | .error _ => held
  | .ok _ => match request with
    | .save profile => ⟨some passphrase,held.profiles.insert profile.name profile⟩
    | .delete name => ⟨some passphrase,held.profiles.erase name⟩
    | _ => held

end Held

section Store
variable {pk : Package} {store : ProfileStore} {held : Held} {disk after : Disk} {orc : Oracle (machine pk)}

/- What the operating system refuses a call that reads, or the package as it derives a key
of the salt in the file. -/
inductive ReadRefused (pk : Package) (store : ProfileStore) (orc : Oracle (machine pk)) (disk : Disk) : Fail → Prop where
  | exists_ {text : String} (refused : orc Op.pathExists = (some text : Option String)) : ReadRefused pk store orc disk (osError text)
  | read {text : String} (there : disk.file.isSome = true) (refused : orc Op.readText = (some text : Option String)) :
      ReadRefused pk store orc disk (unreadable store text)
  | derive {salt nonce ciphertext : Bytes} {raised : Raised} (file : disk.file = some (fileOf pk salt nonce ciphertext))
      (refused : derived pk store.passphrase salt = .error raised) : ReadRefused pk store orc disk (.escaped raised)

def drawn (orc : Oracle (machine pk)) (n : Nat) : Bytes := (orc (Op.tokenBytes n) : { data : Bytes // data.length = n }).val

-- What refuses a call that writes these profiles, with the salt and the nonce it drew.
inductive WriteRefused (pk : Package) (store : ProfileStore) (orc : Oracle (machine pk)) (profiles : Profiles) : Fail → Prop where
  | seal_ {raised : Raised} (refused : Unsealed pk store.passphrase (drawn orc saltLength) (drawn orc nonceLength) profiles raised) :
      WriteRefused pk store orc profiles (.escaped raised)
  | write {data : Bytes} {site : Site} {text : String}
      (made : sealed pk store (drawn orc saltLength) (drawn orc nonceLength) profiles = .ok data)
      (refused : (orc (Op.atomicWrite data) : Faults) site = some text) : WriteRefused pk store orc profiles (osError text)

/- A call is disturbed in reading, or in writing the very profiles it would have left: these
are no matter of what the store holds. -/
inductive Disturbed (pk : Package) (store : ProfileStore) (orc : Oracle (machine pk)) (held : Held) (disk : Disk)
    (request : Request) (f : Fail) : Prop where
  | reading (checked : request.checked pk = .ok ()) (refused : ReadRefused pk store orc disk f)
  | writing {profiles : Profiles} (answered : held.answer pk store request = .ok .done)
      (new : profiles.toFinmap = (held.after store.passphrase request (.ok .done)).profiles)
      (refused : WriteRefused pk store orc profiles f)

inductive Represents (pk : Package) : Held → Disk → Prop where
  | missing {disk : Disk} (none_ : disk.file = none) : Represents pk .nothing disk
  | written {disk : Disk} {store : ProfileStore} {salt nonce data : Bytes} {profiles : Profiles}
      (made : sealed pk store salt nonce profiles = .ok data) (file : disk.file = some data) :
      Represents pk ⟨some store.passphrase,profiles.toFinmap⟩ disk

theorem Represents.frame (rep : Represents pk held disk) (same : after.file = disk.file) : Represents pk held after := by
  cases rep with
  | missing none_ => exact .missing (same.trans none_)
  | written made file => exact .written made (same.trans file)

theorem sealedSame {reader : ProfileStore} (same : store.passphrase = reader.passphrase) (salt nonce : Bytes)
    (profiles : Profiles) : sealed pk store salt nonce profiles = sealed pk reader salt nonce profiles := by
  simp only [sealed,deriveKey,same]

theorem finishRead (store : ProfileStore) (orc : Oracle (machine pk)) (disk : Disk) : finish orc disk (readAll pk store) =
    some (match (orc Op.pathExists : Option String) with
      | some text => .error (osError text)
      | none => if disk.file.isSome then afterRead pk store (disk.readText pk (orc Op.readText)) else .ok .empty,disk) := by
  have asked : finish orc disk (readAll pk store) = finish orc disk (match (orc Op.pathExists : Option String) with
      | some text => Prog.raise (osError text)
      | none => if disk.file.isSome then .op Op.readText (fun read => lift (afterRead pk store read)) else Prog.ret .empty) := by
    simp only [readAll,ask]
    rw [Prog.bindOp,finishOp rfl]
    cases (orc Op.pathExists : Option String) with
    | some text => rfl
    | none => cases disk.file <;> rfl
  rw [asked]
  cases (orc Op.pathExists : Option String) with
  | some text => rfl
  | none =>
    cases there : disk.file.isSome with
    | false => rfl
    | true =>
      simp only [if_true]
      rw [finishOp rfl]
      cases afterRead pk store (disk.readText pk (orc Op.readText)) <;> rfl

theorem lockedOther {own : String} (other : own ≠ store.passphrase) (profiles : Finmap (fun _ : String => Profile)) :
    Held.locked ⟨some own,profiles⟩ store.passphrase = true := by
  simp [Held.locked,other]

/- A reading comes to the map the store stands for, is refused for the passphrase, or is
disturbed. -/
theorem readCases (store : ProfileStore) (orc : Oracle (machine pk)) (inverts : pk.lib.Inverts) (rep : Represents pk held disk)
    (apart : held.locked store.passphrase = true → Wrong pk disk.file store.passphrase) :
    ∃ out, finish orc disk (readAll pk store) = some (out,disk) ∧
      ((∃ profiles, out = .ok profiles ∧ held.locked store.passphrase = false ∧ profiles.toFinmap = held.profiles) ∨
       (out = .error (couldNotDecrypt store) ∧ held.locked store.passphrase = true) ∨
       ∃ f, out = .error f ∧ ReadRefused pk store orc disk f) := by
  refine ⟨_,finishRead store orc disk,?_⟩
  cases looked : (orc Op.pathExists : Option String) with
  | some text => exact .inr (.inr ⟨_,rfl,.exists_ looked⟩)
  | none =>
    cases rep with
    | missing none_ =>
      simp only [none_,Option.isSome_none]
      exact .inl ⟨.empty,rfl,rfl,rfl⟩
    | @written _ writer salt nonce data profiles made file =>
      simp only [file,Option.isSome_some,if_true,Disk.readText]
      cases read : (orc Op.readText : Option String) with
      | some text => exact .inr (.inr ⟨_,rfl,.read (by rw [file]; rfl) read⟩)
      | none =>
        by_cases own : writer.passphrase = store.passphrase
        · obtain ⟨doc,text,opens⟩ := sealedOpens inverts ((sealedSame own salt nonce profiles).symm.trans made)
          simp only [text,afterRead]
          exact .inl ⟨profiles,opens,by simp [Held.locked,own],rfl⟩
        · have other := lockedOther own profiles.toFinmap
          obtain ⟨doc,text,opens⟩ := sealedRejected (file ▸ apart other) made
          simp only [text,afterRead]
          rcases opens with refused | ⟨ciphertext,raised,rfl,refused,failed⟩
          · exact .inr (.inl ⟨refused,other⟩)
          · exact .inr (.inr ⟨_,failed,.derive file refused⟩)

theorem writeCases (store : ProfileStore) (orc : Oracle (machine pk)) (disk : Disk) (profiles : Profiles) :
    ∃ out after, finish orc disk (writeAll pk store profiles) = some (out,after) ∧
      ((out = .ok () ∧ ∃ salt nonce data, sealed pk store salt nonce profiles = .ok data ∧ after.file = some data) ∨
       ∃ f, out = .error f ∧ WriteRefused pk store orc profiles f ∧ after.file = disk.file) := by
  have steps : finish orc disk (writeAll pk store profiles) =
      finish orc disk (lift (sealed pk store (drawn orc saltLength) (drawn orc nonceLength) profiles) >>= fun data =>
        ask (.atomicWrite data) >>= fun written => lift (written.mapError osError)) := rfl
  rw [steps]
  cases made : sealed pk store (drawn orc saltLength) (drawn orc nonceLength) profiles with
  | error f =>
    obtain ⟨raised,rfl,unsealed⟩ := sealedFails made
    exact ⟨_,disk,rfl,.inr ⟨_,rfl,.seal_ unsealed,rfl⟩⟩
  | ok data =>
    let faults : Faults := orc (Op.atomicWrite data)
    refine ⟨(disk.atomicWrite faults data).1.mapError osError,(disk.atomicWrite faults data).2,?_,?_⟩
    · have written : finish orc disk (lift (.ok data) >>= fun data => ask (.atomicWrite data) >>= fun written =>
          lift (written.mapError osError)) =
            finish orc (disk.atomicWrite faults data).2 (lift ((disk.atomicWrite faults data).1.mapError osError)) := rfl
      rw [written]
      cases (disk.atomicWrite faults data).1 <;> rfl
    · rcases disk.atomicWriteCases faults data with ⟨ok,file⟩ | ⟨text,site,failed,refused,file⟩
      · exact .inl ⟨by rw [ok]; rfl,_,_,data,made,file⟩
      · exact .inr ⟨osError text,by rw [failed]; rfl,.write made refused,file⟩

structure Served (pk : Package) (store : ProfileStore) (orc : Oracle (machine pk)) (held : Held) (disk : Disk)
    (request : Request) (out : Except Fail Answer) (after : Disk) : Prop where
  answer : out = held.answer pk store request ∨ ∃ f, out = .error f ∧ Disturbed pk store orc held disk request f
  unchanged : ∀ f, out = .error f → after.file = disk.file
  represents : Represents pk (held.after store.passphrase request out) after

variable {request : Request}

theorem servedError {f : Fail} (rep : Represents pk held disk)
    (why : held.answer pk store request = .error f ∨ Disturbed pk store orc held disk request f) (same : after.file = disk.file) :
    Served pk store orc held disk request (.error f) after where
  answer := why.imp Eq.symm (fun disturbed => ⟨f,rfl,disturbed⟩)
  unchanged _ _ := same
  represents := rep.frame same

theorem servedRead {a : Answer} (rep : Represents pk held disk) (answered : held.answer pk store request = .ok a)
    (still : held.after store.passphrase request (.ok a) = held) :
    Served pk store orc held disk request (.ok a) disk where
  answer := .inl answered.symm
  unchanged _ failed := by cases failed
  represents := still.symm ▸ rep

theorem servedWrite (rep : Represents pk held disk) (answered : held.answer pk store request = .ok .done)
    {profiles : Profiles} (changed : held.after store.passphrase request (.ok .done) = ⟨some store.passphrase,profiles.toFinmap⟩) :
    ∃ out after, finish orc disk (writeAll pk store profiles >>= fun _ => Prog.ret .done) = some (out,after) ∧
      Served pk store orc held disk request out after := by
  have new : profiles.toFinmap = (held.after store.passphrase request (.ok .done)).profiles := by rw [changed]
  obtain ⟨out,after,written,⟨rfl,salt,nonce,data,made,file⟩ | ⟨f,rfl,refused,file⟩⟩ := writeCases store orc disk profiles
  · refine ⟨.ok .done,after,(finishBind _ written).trans rfl,.inl answered.symm,?_,?_⟩
    · rintro f ⟨⟩
    · rw [changed]
      exact .written made file
  · exact ⟨.error f,after,finishBindError _ written,servedError rep (.inr (.writing answered new refused)) file⟩

theorem answerLocked (checked : request.checked pk = .ok ()) (locked : held.locked store.passphrase = true) :
    held.answer pk store request = .error (couldNotDecrypt store) := by
  simp only [Held.answer,checked,locked,if_true]

theorem answerFound (checked : request.checked pk = .ok ()) (unlocked : held.locked store.passphrase = false) :
    held.answer pk store request = held.found pk store request := by
  simp only [Held.answer,checked,unlocked,Bool.false_eq_true,if_false]

/- What a call does with the profiles it has read, for every reading that comes to
what the store stands for. -/
theorem readServed (inverts : pk.lib.Inverts) (rep : Represents pk held disk)
    (apart : held.locked store.passphrase = true → Wrong pk disk.file store.passphrase)
    (checked : request.checked pk = .ok ()) (next : Profiles → Prog effects Fail Answer)
    (served : ∀ profiles, profiles.toFinmap = held.profiles → held.answer pk store request = held.found pk store request →
      ∃ out after, finish orc disk (next profiles) = some (out,after) ∧ Served pk store orc held disk request out after) :
    ∃ out after, finish orc disk (readAll pk store >>= next) = some (out,after) ∧
      Served pk store orc held disk request out after := by
  obtain ⟨out,read,cases⟩ := readCases store orc inverts rep apart
  rcases cases with ⟨profiles,rfl,unlocked,same⟩ | ⟨rfl,locked⟩ | ⟨f,rfl,refused⟩
  · rw [finishBind next read]
    exact served profiles same (answerFound checked unlocked)
  · exact ⟨_,disk,finishBindError next read,servedError rep (.inl (answerLocked checked locked)) rfl⟩
  · exact ⟨_,disk,finishBindError next read,servedError rep (.inr (.reading checked refused)) rfl⟩

theorem performServed (orc : Oracle (machine pk)) (inverts : pk.lib.Inverts) (rep : Represents pk held disk)
    (apart : held.locked store.passphrase = true → Wrong pk disk.file store.passphrase) (request : Request) : ∃ out after, finish orc disk (perform pk store request) = some (out,after) ∧
      Served pk store orc held disk request out after := by
  cases request with
  | save profile =>
    have whole : perform pk store (.save profile) = (lift ((profile.validate pk.repr).mapError Fail.error) >>= fun _ =>
        readAll pk store >>= fun profiles => writeAll pk store (profiles.put profile.name profile) >>= fun _ => Prog.ret .done) := by
      simp only [perform,save,Prog.bindAssoc]
    rw [whole]
    cases valid : (profile.validate pk.repr).mapError Fail.error with
    | error f =>
      have answered : held.answer pk store (.save profile) = .error f := by simp only [Held.answer,Request.checked,valid]
      exact ⟨.error f,disk,rfl,servedError rep (.inl answered) rfl⟩
    | ok _ =>
      have checked : (Request.save profile).checked pk = .ok () := valid
      refine readServed inverts rep apart checked _ fun profiles same found => servedWrite rep found ?_
      rw [Dictionary.finmapPut,same]
      rfl
  | load name =>
    have whole : perform pk store (.load name) = (readAll pk store >>= fun profiles => match profiles.get name with
        | some profile => Prog.ret (.profile profile)
        | none => Prog.raise (noProfile pk store name)) := by
      simp only [perform,load,Prog.bindAssoc]
      refine congrArg _ (funext fun profiles => ?_)
      cases profiles.get name <;> rfl
    rw [whole]
    refine readServed inverts rep apart rfl _ fun profiles same found => ?_
    rw [Held.found,← same,Dictionary.lookupFinmap] at found
    cases there : profiles.get name with
    | some profile => exact ⟨_,_,rfl,servedRead rep (by rw [found,there]) rfl⟩
    | none => exact ⟨_,_,rfl,servedError rep (.inl (by rw [found,there])) rfl⟩
  | delete name =>
    have whole : perform pk store (.delete name) = (readAll pk store >>= fun profiles =>
        if (profiles.get name).isNone then Prog.raise (noProfile pk store name)
        else writeAll pk store (profiles.del name) >>= fun _ => Prog.ret .done) := by
      simp only [perform,delete,Prog.bindAssoc]
      refine congrArg _ (funext fun profiles => ?_)
      cases (profiles.get name).isNone <;> rfl
    rw [whole]
    refine readServed inverts rep apart rfl _ fun profiles same found => ?_
    rw [Held.found,← same] at found
    cases there : (profiles.get name).isNone with
    | true =>
      have absent : name ∉ profiles.toFinmap := by
        rw [Dictionary.finmapMem,← Dictionary.getNone]
        exact Option.isNone_iff_eq_none.mp there
      rw [if_neg absent] at found
      exact ⟨_,_,rfl,servedError rep (.inl found) rfl⟩
    | false =>
      have present : name ∈ profiles.toFinmap := by
        rw [Dictionary.finmapMem,← Dictionary.getSome]
        simpa using there
      rw [if_pos present] at found
      refine servedWrite rep found ?_
      rw [Dictionary.finmapDel,same]
      rfl
  | listNames =>
    have whole : perform pk store .listNames = (readAll pk store >>= fun profiles => Prog.ret (.names profiles.sorted)) := by
      simp only [perform,listNames,Prog.bindAssoc,Prog.bindRet]
    rw [whole]
    refine readServed inverts rep apart rfl _ fun profiles same found => ?_
    rw [Held.found,← same,Dictionary.finmapSorted] at found
    exact ⟨_,_,rfl,servedRead rep found rfl⟩

end Store

/-! Calls one after the other, each of a store that is opened for it. -/

structure Call (pk : Package) where
  passphrase : String
  request : Request
  oracle : Oracle (machine pk)

structure Turn (pk : Package) where
  call : Call pk
  before : Disk
  answer : Except Fail Answer
  after : Disk

section Calls
variable (pk : Package) (path : String)

def Call.program {pk : Package} (path : String) (call : Call pk) : Prog effects Fail Answer :=
  match ProfileStore.at_ path call.passphrase with
  | .error f => .raise f
  | .ok store => perform pk store call.request

def turns (disk : Disk) : List (Call pk) → List (Turn pk)
  | [] => []
  | call :: rest => match finish call.oracle disk (call.program path) with
    | some (answer,after) => ⟨call,disk,answer,after⟩ :: turns after rest
    | none => []

def Held.expected (held : Held) (call : Call pk) : Except Fail Answer :=
  match ProfileStore.at_ path call.passphrase with
  | .error f => .error f
  | .ok store => held.answer pk store call.request

def CallDisturbed (held : Held) (turn : Turn pk) (f : Fail) : Prop :=
  ∃ store, ProfileStore.at_ path turn.call.passphrase = .ok store ∧
    Disturbed pk store turn.call.oracle held turn.before turn.call.request f

/- Turn by turn, the answer is that of the map so far, unless the call was disturbed; and
a call that failed has left the file as it was. -/
def AsMap : Held → List (Turn pk) → Prop
  | _,[] => True
  | held,turn :: rest =>
    (turn.answer = held.expected pk path turn.call ∨ ∃ f, turn.answer = .error f ∧ CallDisturbed pk path held turn f) ∧
    (∀ f, turn.answer = .error f → turn.after.file = turn.before.file) ∧
    AsMap (held.after turn.call.passphrase turn.call.request turn.answer) rest

-- A passphrase that is not the owner's is wrong for what is in the file when it is tried.
def WrongRejected : Held → List (Turn pk) → Prop
  | _,[] => True
  | held,turn :: rest =>
    (held.locked turn.call.passphrase = true → Wrong pk turn.before.file turn.call.passphrase) ∧
    WrongRejected (held.after turn.call.passphrase turn.call.request turn.answer) rest

variable {pk path}

theorem openedAs {passphrase : String} {store : ProfileStore} (opens : ProfileStore.at_ path passphrase = .ok store) :
    store.passphrase = passphrase := by
  unfold ProfileStore.at_ at opens
  split at opens
  · cases opens
  · cases opens; rfl

theorem turnServed (path : String) (inverts : pk.lib.Inverts) {held : Held} {disk : Disk} (rep : Represents pk held disk) (call : Call pk)
    (apart : held.locked call.passphrase = true → Wrong pk disk.file call.passphrase) :
    ∃ out after, finish call.oracle disk (call.program path) = some (out,after) ∧
      (out = held.expected pk path call ∨ ∃ f, out = .error f ∧ CallDisturbed pk path held ⟨call,disk,out,after⟩ f) ∧
      (∀ f, out = .error f → after.file = disk.file) ∧ Represents pk (held.after call.passphrase call.request out) after := by
  cases opens : ProfileStore.at_ path call.passphrase with
  | error f =>
    refine ⟨.error f,disk,by simp only [Call.program,opens]; rfl,.inl ?_,fun _ _ => rfl,rep⟩
    simp only [Held.expected,opens]
  | ok store =>
    have same := openedAs opens
    obtain ⟨out,after,made,served⟩ := performServed call.oracle inverts rep (same ▸ apart) call.request
    refine ⟨out,after,by simpa only [Call.program,opens] using made,?_,served.unchanged,same ▸ served.represents⟩
    rcases served.answer with answered | ⟨f,failed,disturbed⟩
    · exact .inl (by rw [answered]; simp only [Held.expected,opens])
    · exact .inr ⟨f,failed,store,opens,disturbed⟩

theorem turnsCons (path : String) (disk : Disk) (call : Call pk) (rest : List (Call pk)) :
    ∃ out after, finish call.oracle disk (call.program path) = some (out,after) ∧
      turns pk path disk (call :: rest) = ⟨call,disk,out,after⟩ :: turns pk path after rest := by
  have total : ∀ o disk, ∃ a after, (machine pk).respond o (call.oracle o) disk = some (a,after) := by
    intro o disk
    cases o <;> exact ⟨_,_,rfl⟩
  obtain ⟨out,after,ended⟩ := finishEnds total disk (call.program path)
  exact ⟨out,after,ended,by simp only [turns,ended]⟩

theorem turnsAsMap (inverts : pk.lib.Inverts) {held : Held} {disk : Disk} (rep : Represents pk held disk)
    (calls : List (Call pk)) (apart : WrongRejected pk held (turns pk path disk calls)) :
    (turns pk path disk calls).map Turn.call = calls ∧ AsMap pk path held (turns pk path disk calls) := by
  induction calls generalizing held disk with
  | nil => exact ⟨rfl,True.intro⟩
  | cons call rest ih =>
    obtain ⟨out,after,made,whole⟩ := turnsCons path disk call rest
    rw [whole] at apart ⊢
    obtain ⟨out',after',made',answered,unchanged,next⟩ := turnServed path inverts rep call apart.1
    obtain ⟨rfl,rfl⟩ := Prod.mk.inj (Option.some.inj (made.symm.trans made'))
    obtain ⟨same,later⟩ := ih next apart.2
    exact ⟨congrArg _ same,answered,unchanged,later⟩

theorem ownerAfter (held : Held) (call : Call pk) (out : Except Fail Answer) {own : String}
    (owned : (held.after call.passphrase call.request out).owner = some own) :
    held.owner = some own ∨ own = call.passphrase := by
  cases out with
  | error f => exact .inl owned
  | ok a =>
    cases hr : call.request with
    | save profile => rw [hr] at owned; exact .inr (Option.some.inj owned).symm
    | delete name => rw [hr] at owned; exact .inr (Option.some.inj owned).symm
    | load name => rw [hr] at owned; exact .inl owned
    | listNames => rw [hr] at owned; exact .inl owned

theorem lockedWrong {held : Held} {disk : Disk} (rep : Represents pk held disk) {passphrase : String}
    (rejects : ∀ own, held.owner = some own → own ≠ passphrase → Rejects pk own passphrase)
    (locked : held.locked passphrase = true) : Wrong pk disk.file passphrase := by
  cases rep with
  | missing none_ => cases locked
  | written made file =>
    rw [file]
    exact rejectsWrong (rejects _ rfl (by simpa [Held.locked] using locked)) made

-- It is so in every run if no two of its passphrases fit each other's tags.
theorem rejectedApart (inverts : pk.lib.Inverts) {held : Held} {disk : Disk} (rep : Represents pk held disk)
    (calls : List (Call pk))
    (owner : ∀ own, held.owner = some own → ∀ call ∈ calls, own ≠ call.passphrase → Rejects pk own call.passphrase)
    (apart : ∀ a ∈ calls, ∀ b ∈ calls, a.passphrase ≠ b.passphrase → Rejects pk a.passphrase b.passphrase) :
    WrongRejected pk held (turns pk path disk calls) := by
  induction calls generalizing held disk with
  | nil => exact True.intro
  | cons call rest ih =>
    obtain ⟨out,after,made,whole⟩ := turnsCons path disk call rest
    have first := lockedWrong rep (fun own owned other => owner own owned call List.mem_cons_self other)
    obtain ⟨out',after',made',_,_,next⟩ := turnServed path inverts rep call first
    obtain ⟨rfl,rfl⟩ := Prod.mk.inj (Option.some.inj (made.symm.trans made'))
    rw [whole]
    refine ⟨first,ih next ?_ (fun a ha b hb => apart a (List.mem_cons_of_mem _ ha) b (List.mem_cons_of_mem _ hb))⟩
    intro own owned other member differs
    rcases ownerAfter held call out owned with old | rfl
    · exact owner own old other (List.mem_cons_of_mem _ member) differs
    · exact apart call List.mem_cons_self other (List.mem_cons_of_mem _ member) differs

/- Calls on a file that is not there yet answer as the map does, each with a store of its
own, as far as the environment does not refuse a call what it needs. -/
theorem storeRefinesMap (inverts : pk.lib.Inverts) (disk : Disk) (fresh : disk.file = none) (calls : List (Call pk))
    (wrong : WrongRejected pk .nothing (turns pk path disk calls)) :
    (turns pk path disk calls).map Turn.call = calls ∧ AsMap pk path .nothing (turns pk path disk calls) :=
  turnsAsMap inverts (.missing fresh) calls wrong

end Calls

/-! A package whose key is the sum of the passphrase: what is encrypted under one sum is
rejected under another. -/
namespace Example

def sum (data : Bytes) : UInt8 := data.foldl (· + ·) 0

def pk : Package where
  floats := ⟨fun _ => ['0','.','5'],fun _ => .finite (1 / 2)⟩
  repr _ := "value"
  int _ := none
  undecodable _ := "invalid start byte"
  lib := Mock.Example.package
  scrypt password _ _ _ _ _ := .ok [sum password]

theorem rejects {own other : String} (apart : sum (encodeUtf8 own.toList) ≠ sum (encodeUtf8 other.toList)) :
    Rejects pk own other := by
  rintro salt key key' ⟨⟩ ⟨⟩ nonce plaintext ciphertext ⟨⟩
  have long : (plaintext ++ Mock.Example.sumTag ([sum (encodeUtf8 own.toList)] ++ nonce ++ plaintext ++ [])).length - 16 =
      plaintext.length := by simp [Mock.Example.sumTag]
  have shift : ∀ (a : UInt8) (l : Bytes), l.foldl (· + ·) a = a + l.foldl (· + ·) 0 := by
    intro a l
    induction l generalizing a with
    | nil => simp
    | cons b rest ih => rw [List.foldl_cons,ih,List.foldl_cons,ih (0 + b),UInt8.zero_add,UInt8.add_assoc]
  have differ : Mock.Example.sumTag ([sum (encodeUtf8 own.toList)] ++ nonce ++ plaintext ++ []) ≠
      Mock.Example.sumTag ([sum (encodeUtf8 other.toList)] ++ nonce ++ plaintext ++ []) := by
    intro same
    have heads := List.cons.inj same
    simp only [List.cons_append,List.nil_append,List.foldl_cons,UInt8.zero_add] at heads
    rw [shift,shift (sum (encodeUtf8 other.toList))] at heads
    exact apart ((UInt8.add_left_inj _).mp heads.1)
  simp only [pk,Mock.Example.package,long,List.take_left,List.drop_left]
  rw [if_neg differ]

def calm : Oracle (machine pk)
  | .pathExists => (none : Option String)
  | .readText => (none : Option String)
  | .tokenBytes n => (⟨List.replicate n 1,List.length_replicate⟩ : { data : Bytes // data.length = n })
  | .atomicWrite _ => ((fun _ => none) : Faults)

def shop : Profile := { name := "shop", memoryId := "A11111", environment := .sandbox }

def branch : Profile := { name := "branch", memoryId := "A2B3C4", environment := .production, economicCode := some "411" }

def under (passphrase : String) (request : Request) : Call pk := ⟨passphrase,request,calm⟩

def calls : List (Call pk) := [
  under "a" (.save shop),under "a" (.load "shop"),under "b" (.load "shop"),under "a" (.save { shop with name := " " }),
  under "a" (.delete "branch"),under "a" (.save branch),under "a" .listNames,under "a" (.delete "shop")]

theorem callsApart : ∀ a ∈ calls, ∀ b ∈ calls, a.passphrase ≠ b.passphrase → Rejects pk a.passphrase b.passphrase := by
  have two : ∀ c ∈ calls, c.passphrase = "a" ∨ c.passphrase = "b" := by simp [calls,under]
  intro a ha b hb differ
  rcases two a ha with left | left <;> rcases two b hb with right | right <;> rw [left,right] at differ ⊢
  · exact absurd rfl differ
  · exact rejects (by decide +kernel)
  · exact rejects (by decide +kernel)
  · exact absurd rfl differ

end Example

theorem storeRefinesMapTwo : (turns Example.pk "profiles.enc" {} Example.calls).map Turn.call = Example.calls ∧
    AsMap Example.pk "profiles.enc" .nothing (turns Example.pk "profiles.enc" {} Example.calls) :=
  storeRefinesMap Mock.Example.packageInverts {} rfl Example.calls
    (rejectedApart Mock.Example.packageInverts (.missing rfl) Example.calls (by rintro own ⟨⟩) Example.callsApart)

end Moadian.Config
