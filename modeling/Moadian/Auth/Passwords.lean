import Moadian.Auth.Issued

/-! A password that is set ends the sessions that the one before it has opened. A login
presents the password in force when it reads the hash it is checked against. -/
namespace Moadian.Auth
open Resumption

def Op.resets : Op → Option Int
  | .setPassword id _ => some id
  | _ => none

def Request.isLogin : Request → Bool
  | .login .. => true
  | _ => false

def Op.reads : Op → Option Int
  | .passwordHash id => some id
  | _ => none

def HasRead (id : Int) (tr : Trace) : Prop := ∃ e ∈ tr, e.op.reads = some id

instance (id : Int) (tr : Trace) : Decidable (HasRead id tr) := inferInstanceAs (Decidable (∃ e ∈ tr, e.op.reads = some id))

def opened : Handler Reply → Option Token
  | .ret (.session token _) => some token
  | _ => none

def Resets (q : Requests) (i : Nat) (id : Int) : Prop := ∃ t ∈ q.tasks[i]?, ∃ o ∈ t.prog.next, o.resets = some id

instance (q : Requests) (i : Nat) (id : Int) : Decidable (Resets q i id) :=
  inferInstanceAs (Decidable (∃ t ∈ q.tasks[i]?, ∃ o ∈ t.prog.next, o.resets = some id))

def Opens (requests : List Request) (q q' : Requests) (id : Int) (token : Token) : Prop :=
  ∃ j : Nat, (∃ r ∈ requests[j]?, r.isLogin = true) ∧ (∃ t ∈ q.tasks[j]?, HasRead id t.trace) ∧
    ∃ t ∈ q'.tasks[j]?, opened t.prog = some token

-- Whenever a password is set, what the logins before it open lets no request in that begins after it.
def OldSessionsEnd (settings : Settings) (w : World) (requests : List Request) (moves : Schedule machine) : Prop :=
  ∀ before i orc after, moves = before ++ (i,orc) :: after →
    ∀ id, Resets ((serve settings w requests).run before) i id → ∀ token,
      Opens requests ((serve settings w requests).run before) ((serve settings w requests).run moves) id token →
        ¬ Accepted requests ((serve settings w requests).run before) ((serve settings w requests).run moves) token

def Closed (requests : List Request) (q : Requests) (id : Int) (time : Nat) : Prop :=
  ∀ j < requests.length, (∃ r ∈ requests[j]?, r.isLogin = true) → ∀ t ∈ q.tasks[j]?, HasRead id t.trace →
    t.prog.Ended ∧ ∀ token ∈ opened t.prog, token.iat < time

instance (requests : List Request) (q : Requests) (id : Int) (time : Nat) : Decidable (Closed requests q id time) :=
  inferInstanceAs (Decidable (∀ j < requests.length, (∃ r ∈ requests[j]?, r.isLogin = true) → ∀ t ∈ q.tasks[j]?,
    HasRead id t.trace → t.prog.Ended ∧ ∀ token ∈ opened t.prog, token.iat < time))

-- A password is set when what the one before it opens is closed.
def Settled (requests : List Request) (q : Requests) (i : Nat) (orc : Oracle machine) : Prop :=
  ∀ t ∈ q.tasks[i]?, ∀ o ∈ t.prog.next, ∀ id ∈ o.resets, Closed requests q id (q.world.clock + (orc o).elapsed)

instance (requests : List Request) (q : Requests) (i : Nat) (orc : Oracle machine) : Decidable (Settled requests q i orc) :=
  inferInstanceAs (Decidable (∀ t ∈ q.tasks[i]?, ∀ o ∈ t.prog.next, ∀ id ∈ o.resets,
    Closed requests q id (q.world.clock + (orc o).elapsed)))

section Login
variable {settings : Settings}

def ReadsShown (tr : Trace) (o : Op) : Prop := ∀ id, o.reads = some id → ∃ user, Shown tr user ∧ user.id = id

def OpensRead (tr : Trace) (out : Except Error Reply) : Prop :=
  ∀ token user, out = .ok (.session token user) → ∀ id, HasRead id tr → token.sub = id

theorem readBefore {id : Int} {tr tr' : Trace} (beyond : Beyond (fun o : Op => o.reads = none) tr tr')
    (read : HasRead id tr') : HasRead id tr := by
  obtain ⟨more,rfl,none⟩ := beyond
  obtain ⟨e,member,own⟩ := read
  rcases List.mem_append.mp member with old | new
  · exact ⟨e,old,own⟩
  · rw [none e new] at own
    cases own

theorem openedOwn {tr : Trace} {p : Handler Reply} {token : Token} {id : Int} (obeys : Obeys ReadsShown OpensRead tr p)
    (opens : opened p = some token) (read : HasRead id tr) : token.sub = id := by
  cases p with
  | ret reply =>
    cases reply with
    | session token' user => cases Option.some.inj opens; exact obeys token user rfl id read
    | _ => cases opens
  | raise e => cases opens
  | op o k => cases opens

theorem resetsIs {o : Op} {id : Int} (resets : o.resets = some id) : ∃ hash, o = .setPassword id hash := by
  cases o with
  | setPassword j hash => cases Option.some.inj resets; exact ⟨hash,rfl⟩
  | _ => cases resets

theorem loginObeys (username password : String) :
    Obeys ReadsShown OpensRead [] (login settings username password) := by
  have opens : ∀ tr (user : User), (∀ id, HasRead id tr → user.id = id) → Obeys ReadsShown OpensRead tr
      (if !user.isActive then (refuse 403 "این حساب غیرفعال شده است — با مدیر سامانه تماس بگیرید" : Handler Reply)
        else makeToken settings user >>= fun token => Prog.ret (.session token user)) := by
    intro tr user own
    refine obeysIf (fun _ _ _ no => by cases no) (fun _ => ?_)
    refine performThen (fun _ no => by cases no) (fun d token possible => ?_)
    intro token' user' same id read
    cases same
    obtain ⟨w,w',answered⟩ := possible
    have minted : token = (w.tick d.elapsed).token user settings.ttlHours :=
      (congrArg Prod.fst (Option.some.inj answered)).symm
    rw [minted]
    refine own id (readBefore ⟨_,rfl,fun e member => ?_⟩ read)
    cases List.mem_singleton.mp member
    rfl
  have verified : ∀ tr stored (f : Bool → Handler Reply),
      (∀ tr' b, Beyond (fun o : Op => o.reads = none) tr tr' → Obeys ReadsShown OpensRead tr' (f b)) →
      Obeys ReadsShown OpensRead tr (verifyPassword settings password stored >>= f) := by
    intro tr stored f next
    refine obeysBind (P := fun tr' _ => Beyond (fun o : Op => o.reads = none) tr tr') ?_
      (fun tr' b beyond => next tr' b beyond) (fun _ _ _ _ _ no => by cases no)
    refine obeysPerforms (performsMono (fun _ only => by rw [only]; rfl) (verifyPerforms settings password stored)) ?_
      (fun _ _ beyond => beyond)
    intro _ o _ (never : o.reads = none) id same
    rw [never] at same
    cases same
  unfold login
  refine performThen (fun _ no => by cases no) (fun d (user : Option User) _ => ?_)
  cases user with
  | none => exact verified _ _ _ (fun _ _ _ => obeysIf (fun _ _ _ no => by cases no) (fun _ _ _ no => by cases no))
  | some user =>
    refine performThen (fun id same => ?_) (fun d' stored _ => verified _ _ _ (fun tr' _ beyond => ?_))
    · cases same
      exact ⟨user,⟨_,List.mem_singleton_self _,rfl⟩,rfl⟩
    · refine obeysIf (fun _ _ _ no => by cases no) (fun _ => opens tr' user (fun id read => ?_))
      obtain ⟨e,member,own⟩ := readBefore beyond read
      rcases List.mem_append.mp member with first | second
      · cases List.mem_singleton.mp first
        cases own
      · cases List.mem_singleton.mp second
        cases own
        rfl

end Login

structure Ousted (token : Token) (w : World) : Prop where
  numbered : token.sub < w.accounts.next
  past : token.iat < w.clock
  cut : ∀ row ∈ w.accounts.get token.sub, ∃ T ∈ row.sessionsValidFrom, token.iat < T

section Ousted
variable {token : Token} {w w' : World} {o : Op} {d : Decision} {a : o.Ans}

theorem oustedMove (answered : World.respond o d w = some (a,w')) (ousted : Ousted token w) : Ousted token w' := by
  have s := stepped answered
  have past : token.iat < w'.clock := by
    have := ousted.past
    rw [s.clock]
    omega
  refine ⟨Int.lt_of_lt_of_le ousted.numbered s.next,past,fun row' there => ?_⟩
  obtain ⟨row,was,became⟩ := s.came ousted.numbered there
  rcases stampedAfter became with ⟨same,_⟩ | ⟨now,_⟩
  · rw [same]
    exact ousted.cut row was
  · rw [now]
    exact ⟨_,rfl,past⟩

theorem oustedSet {hash : String} {a : Unit} (answered : World.respond (.setPassword token.sub hash) d w = some (a,w'))
    (numbered : token.sub < w.accounts.next) (before : token.iat < w.clock + d.elapsed) : Ousted token w' := by
  have s := stepped answered
  have past : token.iat < w'.clock := by rw [s.clock]; exact before
  refine ⟨Int.lt_of_lt_of_le numbered s.next,past,fun row' there => ?_⟩
  obtain ⟨row,_,became⟩ := s.came numbered there
  cases Option.some.inj became
  rw [if_pos rfl]
  exact ⟨_,rfl,past⟩

end Ousted

section Ended
variable {settings : Settings} {w : World} {requests : List Request}

theorem loginsObey {moves : Schedule machine} {j : Nat} {r : Request} {t : Task machine Error Reply}
    (asked : requests[j]? = some r) (isLogin : r.isLogin = true)
    (found : ((serve settings w requests).run moves).tasks[j]? = some t) :
    Obeys ReadsShown OpensRead t.trace t.prog ∧ ∀ id, HasRead id t.trace → ∃ user, Shown t.trace user ∧ user.id = id := by
  have there : (requests.map (Request.handle settings))[j]? = some (r.handle settings) := by
    rw [List.getElem?_map,asked]
    rfl
  cases r with
  | login username password =>
    refine Pool.obeyOne (J := fun tr => ∀ id, HasRead id tr → ∃ user, Shown tr user ∧ user.id = id) there
      (loginObeys username password) ?_ ?_ found
    · rintro id ⟨e,no,_⟩
      cases no
    · rintro tr o d a held reads id ⟨e,member,own⟩
      have known : ∃ user, Shown tr user ∧ user.id = id := by
        rcases List.mem_append.mp member with old | last
        · exact held id ⟨e,old,own⟩
        · cases List.mem_singleton.mp last
          exact reads id own
      obtain ⟨user,shown,same⟩ := known
      exact ⟨user,shownSnoc shown _,same⟩
  | _ => cases isLogin

theorem oldSessionsEnd {moves : Schedule machine}
    (met : Pool.Throughout (Settled requests) (serve settings w requests) moves) :
    OldSessionsEnd settings w requests moves := by
  rintro before i orc after rfl id ⟨t,here,o,next,resets⟩ token ⟨j,⟨r,asked,isLogin⟩,⟨s,logged,read⟩,s',handed,opens⟩
    ⟨k,waits,⟨v,waiting,fresh⟩,v',arrived,returned⟩
  obtain ⟨_,now⟩ := Pool.throughoutAppend met
  -- The login had ended, and its token was older than the cut-off that is set.
  obtain ⟨ended,older⟩ := now.1 t here o next id resets j (List.getElem?_eq_some_iff.mp asked).1 ⟨r,asked,isLogin⟩ s logged read
  have unmoved := Pool.endedStays logged ended ((i,orc) :: after)
  rw [← Pool.runAppend] at unmoved
  cases Option.some.inj (unmoved.symm.trans handed)
  obtain ⟨obeys,shown⟩ := loginsObey asked isLogin logged
  have own : token.sub = id := openedOwn obeys opens read
  subst own
  have numbered : token.sub < ((serve settings w requests).run before).world.accounts.next := by
    obtain ⟨user,⟨e,member,shown⟩,same⟩ := shown _ read
    rw [← same]
    exact Pool.eventsRun (F := Numbered) (fun _ _ _ _ _ answered => numberedGiven answered)
      (fun _ _ _ _ _ _ held answered => numberedLasts held answered) before s (List.mem_of_getElem? logged) e member user shown
  -- The request has yet to begin when the password has been set.
  have start : v = Task.start machine (me (some token)) := servedAs waits waiting fresh
  subst start
  obtain ⟨hash,rfl⟩ : ∃ hash, o = .setPassword token.sub hash := resetsIs resets
  obtain ⟨rest,at_⟩ := Prog.nextSome next
  have other : i ≠ k := by
    rintro rfl
    cases Option.some.inj (here.symm.trans waiting)
    cases next
  have moved : ((serve settings w requests).run before).step i orc = _ := Pool.stepMoved here at_ rfl
  rw [Pool.runAppend,Pool.runCons,moved] at arrived
  refine refusedOut (I := fun q => Ousted token q.world) (E := fun _ => False) (C := fun _ _ _ => True) ?_ (fun _ ousted => .inl (fun row there =>
    .inr (ousted.cut row there))) (fun _ no => no.elim) (oustedSet rfl numbered (older token opens)) ?_
    (Pool.throughoutTrue _ after) v' arrived returned
  · exact fun q i orc t o k a w' ousted _ _ _ answered => ⟨oustedMove answered ousted,False.elim⟩
  · exact (List.getElem?_set_ne other).trans waiting

end Ended

/-! A login and a change of the password: the login before it, and the login past the old
hash when the new one is written. -/
namespace Example

def clerk : Account where
  username := "ali"
  passwordHash := "pbkdf2$00$secret-one00"
  displayName := ""
  role := "user"
  createdAt := 0

def store : World where
  accounts := Table.empty.insert clerk
  clock := 10

def hashing : Settings where
  pbkdf2 := fun password salt => some (password ++ salt)

def change : PasswordChange where
  currentPassword := "secret-one"
  newPassword := "secret-two"
  long := by decide +kernel

def minted (iat : Nat) : Token := ⟨1,"ali","user",iat,43200⟩

def resetting (iat caller : Nat) : List Request :=
  [.login "ali" "secret-one",.login "ali" "secret-one",.changePassword (some (minted caller)) change,.me (some (minted iat))]

def ticking : Oracle machine := fun _ => { elapsed := 1, hex := "00" }

def ticks (i : Nat) (n : Nat) : Schedule machine := List.replicate n (i,ticking)

end Example

theorem oldSessionsEndInTurn :
    OldSessionsEnd Example.hashing Example.store (Example.resetting 13 16)
      (Example.ticks 0 3 ++ Example.ticks 1 3 ++ Example.ticks 2 8 ++ Example.ticks 3 3) :=
  oldSessionsEnd (by decide +kernel)

theorem oldSessionLives :
    ¬ OldSessionsEnd Example.hashing Example.store (Example.resetting 24 13)
      (Example.ticks 1 3 ++ Example.ticks 0 2 ++ Example.ticks 2 8 ++ Example.ticks 0 1 ++ Example.ticks 3 3) := by
  intro ends
  refine ends (Example.ticks 1 3 ++ Example.ticks 0 2 ++ Example.ticks 2 5) 2 Example.ticking
    (Example.ticks 2 2 ++ Example.ticks 0 1 ++ Example.ticks 3 3) rfl 1 ?_ (Example.minted 24) ⟨0,?_⟩ ⟨3,rfl,?_⟩
  all_goals decide +kernel

end Moadian.Auth
