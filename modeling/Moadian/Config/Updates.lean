import Moadian.Config.Refinement
import Moadian.Resumption.Pool

/-! Saves and deletes of one store in several threads. Each call reads the file, changes
what it has read, and replaces the file; nothing keeps the others out meanwhile. -/
namespace Moadian.Config
open Codec Crypto Resumption

inductive Update where
  | save (profile : Profile)
  | delete (name : String)
  deriving DecidableEq, Repr

namespace Update

def name : Update → String
  | save profile => profile.name
  | delete name => name

def request : Update → Request
  | save profile => .save profile
  | delete name => .delete name

def apply (profiles : Profiles) : Update → Profiles
  | save profile => profiles.put profile.name profile
  | delete name => profiles.del name

def result : Update → Option Profile
  | save profile => some profile
  | delete _ => none

theorem getApply (u : Update) (profiles : Profiles) (name : String) :
    (u.apply profiles).get name = if name = u.name then u.result else profiles.get name := by
  cases u with
  | save profile => exact profiles.getPut profile.name name profile
  | delete other => exact profiles.getDel other name

end Update

section Store
variable (pk : Package) (store : ProfileStore)

abbrev System (pk : Package) := Pool (machine pk) Fail Answer

def launch (disk : Disk) (updates : List Update) : System pk :=
  Pool.start disk (updates.map (fun u => perform pk store u.request))

def contents (disk : Disk) : Option Profiles :=
  match disk.file with
  | none => some .empty
  | some data => (fileText data).bind (fun doc => (opened pk store doc).toOption)

def reading (e : Event (machine pk)) : Option Profiles :=
  match e with
  | ⟨.pathExists,_,.ok false⟩ => some .empty
  | ⟨.readText,_,.ok doc⟩ => (opened pk store doc).toOption
  | _ => none

def readBy (tr : List (Event (machine pk))) : Option Profiles := tr.findSome? (reading pk store)

def Succeeded {pk : Package} (q : System pk) (i : Nat) : Prop := ∃ t, q.tasks[i]? = some t ∧ t.prog.Returned

def Kept (updates : List Update) (q : System pk) : Prop :=
  ∀ i u, updates[i]? = some u → Succeeded q i →
    ∃ profiles, contents pk store q.world = some profiles ∧ profiles.get u.name = u.result

/- Where a call replaces the file, the file holds what the call has read of it, under each
name that another call has changed by then. -/
def Unchanged (updates : List Update) (q : System pk) (i : Nat) (orc : Oracle (machine pk)) : Prop :=
  ∀ t data, q.tasks[i]? = some t → t.prog.next = some (Op.atomicWrite data) →
    (q.world.atomicWrite (orc (Op.atomicWrite data)) data).1 = .ok () →
    ∀ j v, updates[j]? = some v → Succeeded q j →
      ∀ seen now, readBy pk store t.trace = some seen → contents pk store q.world = some now → now.get v.name = seen.get v.name

/-! The contract of a call: what it puts in the file is what it has read, changed. -/

def May (u : Update) (tr : List (Event (machine pk))) : Op → Prop
  | .atomicWrite data => ∃ seen salt nonce, readBy pk store tr = some seen ∧ sealed pk store salt nonce (u.apply seen) = .ok data
  | _ => True

def Ends {pk : Package} (tr : List (Event (machine pk))) : Except Fail Answer → Prop
  | .ok _ => ∃ data faults, tr.getLast? = some ⟨Op.atomicWrite data,faults,(.ok () : Except String Unit)⟩
  | .error _ => True

variable {pk store}

theorem readByNext {tr : List (Event (machine pk))} {e : Event (machine pk)} (before : readBy pk store tr = none) :
    readBy pk store (tr ++ [e]) = reading pk store e := by
  rw [readBy,List.findSome?_append,← readBy,before]
  simp [List.findSome?_cons]
  cases reading pk store e <;> rfl

theorem readByKept {tr : List (Event (machine pk))} {seen : Profiles} (e : Event (machine pk))
    (before : readBy pk store tr = some seen) : readBy pk store (tr ++ [e]) = some seen := by
  rw [readBy,List.findSome?_append,← readBy,before]
  rfl

theorem writeObeys (u : Update) {tr : List (Event (machine pk))} {seen : Profiles} (read : readBy pk store tr = some seen) :
    Obeys (May pk store u) Ends tr (writeAll pk store (u.apply seen) >>= fun _ => Prog.ret .done) := by
  refine ⟨True.intro,fun saltDrawn (salt : { data : Bytes // data.length = saltLength }) _ =>
    ⟨True.intro,fun nonceDrawn (nonce : { data : Bytes // data.length = nonceLength }) _ => ?_⟩⟩
  change Obeys _ _ _ ((lift (sealed pk store salt.val nonce.val (u.apply seen)) >>= fun data =>
    ask (.atomicWrite data) >>= fun written => lift (written.mapError osError)) >>= fun _ => Prog.ret Answer.done)
  cases made : sealed pk store salt.val nonce.val (u.apply seen) with
  | error f => exact True.intro
  | ok data =>
    refine ⟨⟨seen,salt.val,nonce.val,readByKept _ (readByKept _ read),made⟩,fun faults written _ => ?_⟩
    cases (written : Except String Unit) with
    | error text => exact True.intro
    | ok _ => exact ⟨data,faults,List.getLast?_concat⟩

theorem readObeys (u : Update) (next : Profiles → Prog effects Fail Answer)
    (rest : ∀ tr seen, readBy pk store tr = some seen → Obeys (May pk store u) Ends tr (next seen)) :
    Obeys (May pk store u) Ends [] (readAll pk store >>= next) := by
  refine ⟨True.intro,fun fault there _ => ?_⟩
  match there with
  | .error text => exact True.intro
  | .ok false => exact rest _ _ (readByNext rfl)
  | .ok true =>
    refine ⟨True.intro,fun fault' read _ => ?_⟩
    have before : readBy pk store [⟨Op.pathExists,fault,(.ok true : Except String Bool)⟩] = none := rfl
    match read with
    | .error (.os text) => exact True.intro
    | .error (.undecodable text) => exact True.intro
    | .ok doc =>
      change Obeys _ _ _ (lift (opened pk store doc) >>= next)
      cases opens : opened pk store doc with
      | error f => exact True.intro
      | ok seen =>
        refine rest _ _ ((readByNext before).trans ?_)
        simp only [reading,opens]
        rfl

theorem performObeys (u : Update) : Obeys (M := machine pk) (May pk store u) Ends [] (perform pk store u.request) := by
  cases u with
  | save profile =>
    have whole : perform pk store (Update.save profile).request = (lift ((profile.validate pk.repr).mapError Fail.error) >>=
        fun _ => readAll pk store >>= fun profiles => writeAll pk store ((Update.save profile).apply profiles) >>=
          fun _ => Prog.ret .done) := by
      simp only [Update.request,Update.apply,perform,save,Prog.bindAssoc]
    rw [whole]
    cases (profile.validate pk.repr).mapError Fail.error with
    | error f => exact True.intro
    | ok _ => exact readObeys _ _ fun tr seen read => writeObeys _ read
  | delete name =>
    have whole : perform pk store (Update.delete name).request = (readAll pk store >>= fun profiles =>
        if (profiles.get name).isNone then Prog.raise (noProfile pk store name)
        else writeAll pk store ((Update.delete name).apply profiles) >>= fun _ => Prog.ret .done) := by
      simp only [Update.request,Update.apply,perform,delete,Prog.bindAssoc]
      refine congrArg _ (funext fun profiles => ?_)
      cases (profiles.get name).isNone <;> rfl
    rw [whole]
    refine readObeys _ _ fun tr seen read => ?_
    exact obeysIf (fun _ => True.intro) (fun _ => writeObeys _ read)

structure Sound (pk : Package) (store : ProfileStore) (updates : List Update) (q : System pk) : Prop where
  sized : q.tasks.length = updates.length
  obey : q.Obey (fun i tr o => ∀ u, updates[i]? = some u → May pk store u tr o) (fun _ => Ends)

variable {updates : List Update} {q : System pk} {i : Nat} {orc : Oracle (machine pk)} {t : Task (machine pk) Fail Answer}
  {o : Op} {k : o.Ans → Prog effects Fail Answer} {a : o.Ans} {w : Disk}

theorem soundStart (pk : Package) (store : ProfileStore) (disk : Disk) (updates : List Update) :
    Sound pk store updates (launch pk store disk updates) where
  sized := by simp [launch,Pool.start]
  obey := by
    refine Pool.obeyStart fun i p there => ?_
    obtain ⟨u,found,rfl⟩ := Option.map_eq_some_iff.mp (List.getElem?_map.symm.trans there)
    refine obeysMay (fun tr o may v other => ?_) (performObeys u)
    exact Option.some.inj (found.symm.trans other) ▸ may

theorem contentsWritten (inverts : pk.lib.Inverts) {disk : Disk} {data salt nonce : Bytes} {profiles : Profiles}
    (made : sealed pk store salt nonce profiles = .ok data) (file : disk.file = some data) :
    contents pk store disk = some profiles := by
  obtain ⟨doc,text,opens⟩ := sealedOpens inverts made
  simp only [contents,file,text,Option.bind_some,opens]
  rfl

/- A move leaves the file alone and lets no call succeed, or it is the one with which a
call puts what it has read, changed, in the file. -/
theorem moveCases (inverts : pk.lib.Inverts) (sound : Sound pk store updates q) (found : q.tasks[i]? = some t)
    (at_ : t.prog = .op o k) (answered : (machine pk).respond o (orc o) q.world = some (a,w)) :
    (w.file = q.world.file ∧ ¬(k a).Returned ∧ ∀ data, t.prog.next = some (.atomicWrite data) →
      (q.world.atomicWrite (orc (Op.atomicWrite data)) data).1 ≠ .ok ()) ∨ ∃ u data seen, updates[i]? = some u ∧ t.prog.next = some (.atomicWrite data) ∧
      (q.world.atomicWrite (orc (Op.atomicWrite data)) data).1 = .ok () ∧ readBy pk store t.trace = some seen ∧
      contents pk store w = some (u.apply seen) := by
  obtain ⟨may,after⟩ := Pool.obeyMove sound.obey found at_ answered
  have bound := (List.getElem?_eq_some_iff.mp found).1
  have here := after i ⟨k a,t.trace ++ [⟨o,orc o,a⟩]⟩ (List.getElem?_set_self bound)
  obtain ⟨u,own⟩ : ∃ u, updates[i]? = some u := ⟨_,List.getElem?_eq_getElem (sound.sized ▸ bound)⟩
  have last : (k a).Returned → ∃ data faults, (⟨o,orc o,a⟩ : Event (machine pk)) = ⟨Op.atomicWrite data,faults,(.ok () : Except String Unit)⟩ := by
    intro returned
    obtain ⟨b,ends⟩ := Prog.retOfReturned returned
    rw [ends] at here
    obtain ⟨data,faults,same⟩ := here
    exact ⟨data,faults,Option.some.inj (List.getLast?_concat.symm.trans same)⟩
  have idle : w.file = q.world.file → (∀ data, o ≠ .atomicWrite data) → w.file = q.world.file ∧ ¬(k a).Returned ∧
      ∀ data, t.prog.next = some (.atomicWrite data) →
        (q.world.atomicWrite (orc (Op.atomicWrite data)) data).1 ≠ .ok () := by
    intro still never
    refine ⟨still,fun returned => ?_,fun data next => ?_⟩
    · obtain ⟨data,_,same⟩ := last returned
      exact never data (congrArg Event.op same)
    · rw [at_] at next
      exact absurd (Option.some.inj next) (never data)
  cases o with
  | pathExists =>
    cases answered
    exact .inl (idle rfl (fun data other => by cases other))
  | readText =>
    cases answered
    exact .inl (idle rfl (fun data other => by cases other))
  | tokenBytes n =>
    cases answered
    exact .inl (idle rfl (fun data other => by cases other))
  | atomicWrite data =>
    have done : q.world.atomicWrite (orc (Op.atomicWrite data)) data = (a,w) := Option.some.inj answered
    obtain ⟨seen,salt,nonce,read,made⟩ := may u own
    rcases q.world.atomicWriteCases (orc (Op.atomicWrite data)) data with ⟨ok,file⟩ | ⟨text,site,failed,_,file⟩
    · rw [done] at file
      exact .inr ⟨u,data,seen,own,by rw [at_]; rfl,ok,read,contentsWritten inverts made file⟩
    · rw [done] at failed file
      refine .inl ⟨file,fun returned => ?_,fun data' next => ?_⟩
      · obtain ⟨_,_,same⟩ := last returned
        have answer : a = (.ok () : Except String Unit) := by cases same; rfl
        rw [answer] at failed
        cases failed
      · rw [at_] at next
        cases next
        rw [done,failed]
        rintro ⟨⟩

theorem contentsSame {disk after : Disk} (same : after.file = disk.file) : contents pk store after = contents pk store disk := by
  simp only [contents,same]

theorem soundStep (sound : Sound pk store updates q) (i : Nat) (orc : Oracle (machine pk)) :
    Sound pk store updates (q.step i orc) := by
  rcases Pool.stepCases q i orc with same | ⟨t,o,k,a,w,found,at_,answered,after⟩
  · rw [same]; exact sound
  · rw [after]
    exact ⟨by simpa using sound.sized,(Pool.obeyMove sound.obey found at_ answered).2⟩

theorem succeededLasts {j : Nat} (succeeded : Succeeded q j) (i : Nat) (orc : Oracle (machine pk)) : Succeeded (q.step i orc) j := by
  obtain ⟨t,found,returned⟩ := succeeded
  obtain ⟨b,ends⟩ := Prog.retOfReturned returned
  exact ⟨t,Pool.endedStays found (ends ▸ Prog.endedRet b) [(i,orc)],returned⟩

theorem namesApart (apart : (updates.map Update.name).Nodup) {j : Nat} {u v : Update} (mine : updates[i]? = some u)
    (other : updates[j]? = some v) (differ : j ≠ i) : v.name ≠ u.name := by
  intro same
  have left : (updates.map Update.name)[i]? = some u.name := by rw [List.getElem?_map,mine]; rfl
  have right : (updates.map Update.name)[j]? = some u.name := by rw [List.getElem?_map,other,← same]; rfl
  have bound := (List.getElem?_eq_some_iff.mp right).1
  exact differ ((List.getElem?_inj bound apart).mp (right.trans left.symm))

theorem keptStep (inverts : pk.lib.Inverts) (apart : (updates.map Update.name).Nodup) (sound : Sound pk store updates q)
    (kept : Kept pk store updates q) (unchanged : Unchanged pk store updates q i orc) :
    Kept pk store updates (q.step i orc) := by
  rcases Pool.stepCases q i orc with same | ⟨t,o,k,a,w,found,at_,answered,after⟩
  · rw [same]; exact kept
  intro j v there succeeded
  rw [after] at succeeded ⊢
  obtain ⟨t',found',returned⟩ := succeeded
  rcases moveCases inverts sound found at_ answered with ⟨same,running,_⟩ | ⟨u,data,seen,own,next,ok,read,now⟩
  · obtain ⟨rfl,rfl⟩ | ⟨_,old⟩ := Pool.setCases found found'
    · exact absurd returned running
    · obtain ⟨profiles,held,result⟩ := kept j v there ⟨t',old,returned⟩
      exact ⟨profiles,(contentsSame same).trans held,result⟩
  · refine ⟨_,now,?_⟩
    rw [u.getApply]
    obtain ⟨rfl,rfl⟩ | ⟨differ,old⟩ := Pool.setCases found found'
    · cases Option.some.inj (own.symm.trans there)
      exact if_pos rfl
    · obtain ⟨profiles,held,result⟩ := kept j v there ⟨t',old,returned⟩
      rw [if_neg (namesApart apart own there differ),← result]
      exact (unchanged t data found next ok j v there ⟨t',old,returned⟩ seen profiles read held).symm

theorem unchangedStep (inverts : pk.lib.Inverts) (apart : (updates.map Update.name).Nodup) (sound : Sound pk store updates q)
    (kept : Kept pk store updates q) (later : Kept pk store updates (q.step i orc)) : Unchanged pk store updates q i orc := by
  intro t data found next ok j v there succeeded seen now read held
  obtain ⟨k,at_⟩ := Prog.nextSome next
  have answered : (machine pk).respond (Op.atomicWrite data) (orc (Op.atomicWrite data)) q.world =
      some (q.world.atomicWrite (orc (Op.atomicWrite data)) data) := rfl
  have after := Pool.stepMoved found at_ answered
  have differ : j ≠ i := by
    rintro rfl
    obtain ⟨t',found',returned⟩ := succeeded
    cases Option.some.inj (found.symm.trans found')
    rw [at_] at returned
    exact returned
  obtain ⟨profiles,held',result⟩ := kept j v there succeeded
  obtain ⟨profiles',held'',result'⟩ := later j v there (succeededLasts succeeded i orc)
  cases Option.some.inj (held.symm.trans held')
  rw [after] at held''
  rcases moveCases inverts sound found at_ answered with ⟨_,_,fails⟩ | ⟨u,data',seen',own,_,_,read',now'⟩
  · exact absurd ok (fails data next)
  · cases Option.some.inj (read.symm.trans read')
    cases Option.some.inj (now'.symm.trans held'')
    rw [u.getApply,if_neg (namesApart apart own there differ)] at result'
    rw [result,result']

theorem keptStart (disk : Disk) (updates : List Update) : Kept pk store updates (launch pk store disk updates) := by
  intro i u there ⟨t,found,returned⟩
  obtain ⟨p,_,rfl⟩ := Option.map_eq_some_iff.mp (List.getElem?_map.symm.trans found)
  have here := (soundStart pk store disk updates).obey i _ found
  obtain ⟨b,ends⟩ := Prog.retOfReturned returned
  rw [ends] at here
  obtain ⟨_,_,last⟩ := here
  cases last

theorem keptExactly (inverts : pk.lib.Inverts) (apart : (updates.map Update.name).Nodup) (sound : Sound pk store updates q)
    (kept : Kept pk store updates q) (moves : Schedule (machine pk)) :
    (∀ n, Kept pk store updates (q.run (moves.take n))) ↔ Pool.Throughout (Unchanged pk store updates) q moves := by
  induction moves generalizing q with
  | nil => exact ⟨fun _ => True.intro,fun _ n => by simpa using kept⟩
  | cons m rest ih =>
    constructor
    · intro always
      have next : Kept pk store updates (q.step m.1 m.2) := by simpa using always 1
      refine ⟨unchangedStep inverts apart sound kept next,(ih (soundStep sound _ _) next).mp fun n => ?_⟩
      simpa using always (n + 1)
    · rintro ⟨now,later⟩ n
      have next := keptStep inverts apart sound kept now
      cases n with
      | zero => simpa using kept
      | succ n => simpa using (ih (soundStep sound _ _) next).mpr later n

-- In every state of a run, exactly where each call replaces a file that is as it has read it.
theorem updatesKept (inverts : pk.lib.Inverts) (disk : Disk) (updates : List Update) (apart : (updates.map Update.name).Nodup)
    (moves : Schedule (machine pk)) :
    (∀ n, Kept pk store updates ((launch pk store disk updates).run (moves.take n))) ↔
      Pool.Throughout (Unchanged pk store updates) (launch pk store disk updates) moves :=
  keptExactly inverts apart (soundStart pk store disk updates) (keptStart disk updates) moves

end Store

/-! Two saves that both find no file: the second replaces what the first has written. -/
namespace Example

def store : ProfileStore := ⟨"profiles.enc","a",by decide⟩

def saves : List Update := [.save shop,.save branch]

def overlapping : Schedule (machine pk) := [0,1,0,0,0,1,1,1].map (·,calm)

def oneByOne : Schedule (machine pk) := [0,0,0,0,1,1,1,1,1].map (·,calm)

def final (moves : Schedule (machine pk)) : System pk := (launch pk store {} saves).run moves

theorem bothSucceed : Succeeded (final overlapping) 0 ∧ Succeeded (final overlapping) 1 :=
  ⟨⟨_,rfl,True.intro⟩,⟨_,rfl,True.intro⟩⟩

theorem secondSealed : ∃ data, sealed pk store (List.replicate 16 1) (List.replicate 12 1) ((Update.save branch).apply .empty) = .ok data ∧
    (final overlapping).world.file = some data := ⟨_,rfl,rfl⟩

end Example

theorem updateLost : ¬∀ (disk : Disk) (updates : List Update) (moves : Schedule (machine Example.pk)),
    (updates.map Update.name).Nodup → ((launch Example.pk Example.store disk updates).run moves).Ended →
      Kept Example.pk Example.store updates ((launch Example.pk Example.store disk updates).run moves) := by
  intro always
  have kept := always {} Example.saves Example.overlapping (by decide) (by decide +kernel)
  obtain ⟨data,made,file⟩ := Example.secondSealed
  obtain ⟨profiles,held,result⟩ := kept 0 (.save Example.shop) rfl Example.bothSucceed.1
  have now := contentsWritten Mock.Example.packageInverts made file
  cases Option.some.inj (held.symm.trans now)
  rw [Update.getApply] at result
  cases result

theorem updatesKeptInTurn : (∀ n, Kept Example.pk Example.store Example.saves
    ((launch Example.pk Example.store {} Example.saves).run (Example.oneByOne.take n))) ↔
      Pool.Throughout (Unchanged Example.pk Example.store Example.saves) (launch Example.pk Example.store {} Example.saves)
        Example.oneByOne :=
  updatesKept Mock.Example.packageInverts {} Example.saves (by decide) Example.oneByOne

end Moadian.Config
