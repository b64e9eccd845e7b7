import Moadian.Auth.Alone
import Moadian.Auth.Deactivation
import Moadian.Resumption.Solo

/-! Calls made one after the other: a token is accepted for as long as its account is
there and active and nothing has cut it off. -/
namespace Moadian.Auth
open Resumption

def after (settings : Settings) (w : World) (calls : List (Request × List (Oracle machine))) : World :=
  serial w (calls.map (fun c => ⟨c.1.handle settings,c.2⟩))

def admits (w : World) (token : Token) (x y z : Oracle machine) : Option (Except Error User) :=
  (solo w (Task.start machine (currentUser (some token))) [x,y,z]).2.prog.outcome

def Live (w : World) (token : Token) (x : Oracle machine) : Prop :=
  ((w.clock + (x (.decode token)).elapsed : Nat) : Int) < token.exp * microsPerSecond

-- Its account is there, active, and no cut-off of it or of all is later than the token.
def Standing (w : World) (token : Token) (user : User) : Prop :=
  ∃ row, w.accounts.get token.sub = some row ∧ row.isActive = true ∧ user = row.user token.sub ∧
    ∀ T, .cutOff (some token.sub) T ∈ w.log ∨ .cutOff none T ∈ w.log → T ≤ token.iat

def Reply.replacement : Reply → Option Token
  | .passwordChanged token => some token
  | .everyoneOut _ token => some token
  | .signedOut token => token
  | _ => none

structure Exact (settings : Settings) (w : World) (calls : List (Request × List (Oracle machine))) : Prop where
  accepts : ∀ token user x y z, admits (after settings w calls) token x y z = some (.ok user) ↔
    .minted token ∈ (after settings w calls).log ∧ Live (after settings w calls) token x ∧
      Standing (after settings w calls) token user
  replaced : ∀ r orcs reply token,
    (solo (after settings w calls) (Task.start machine (Request.handle settings r)) orcs).2.prog.outcome = some (.ok reply) →
      reply.replacement = some token → ∀ x y z, Live (after settings w (calls ++ [(r,orcs)])) token x →
        ∃ user, admits (after settings w (calls ++ [(r,orcs)])) token x y z = some (.ok user)
  removed : ∀ token, .minted token ∈ (after settings w calls).log →
    (after settings w calls).accounts.get token.sub = none → ∀ more x y z user,
      admits (after settings w (calls ++ more)) token x y z ≠ some (.ok user)

/- Every cut-off is recorded: the epoch is the latest of all, and the stamp of an account
turns away every token that one of the account's does. -/
structure Recorded (w : World) : Prop extends Sound w where
  cutPast : ∀ whom T, .cutOff whom T ∈ w.log → T ≤ w.clock
  epochMarked : ∀ T ∈ w.epoch, .cutOff none T ∈ w.log
  epochLatest : ∀ T, .cutOff none T ∈ w.log → T ≤ w.epoch.getD 0
  rowMarked : ∀ id, ∀ row ∈ w.accounts.get id, ∀ T ∈ row.sessionsValidFrom, .cutOff (some id) T ∈ w.log
  rowLatest : ∀ token, .minted token ∈ w.log → ∀ T, .cutOff (some token.sub) T ∈ w.log → token.iat < T →
    ∀ row ∈ w.accounts.get token.sub, ∃ S ∈ row.sessionsValidFrom, token.iat < S

theorem recordedSeeded {w : World} (seeded : w.Seeded) : Recorded w where
  toSound := soundSeeded seeded
  cutPast := fun whom T member => by rw [seeded.log] at member; cases member
  epochMarked := fun T set_ => by rw [seeded.epoch] at set_; cases set_
  epochLatest := fun T member => by rw [seeded.log] at member; cases member
  rowMarked := fun id row there T from_ => by
    rw [seeded.uncut _ ((w.accounts.memGet id row).mpr there)] at from_
    cases from_
  rowLatest := fun token member => by rw [seeded.log] at member; cases member

section Admits
variable {w : World} {token : Token} {user : User} {x y z : Oracle machine}

def resolve (valid : Bool) (found : Option User) (epoch iat : Nat) : Except Error User :=
  if !valid then .error (.http 401 "نشست نامعتبر یا منقضی است — دوباره وارد شوید")
  else match found with
    | none => .error (.http 401 "کاربر یافت نشد")
    | some user =>
      if !user.isActive then .error (.http 401 "حساب کاربری غیرفعال شده است")
      else if expelled epoch user iat then .error (.http 401 "نشست شما پایان یافته است — دوباره وارد شوید")
      else .ok user

theorem admitsResolves : admits w token x y z = some (resolve ((w.tick (x (.decode token)).elapsed).verifies token)
    (w.get token.sub) (w.epoch.getD 0) token.iat) := by
  let swept : User → Nat → Handler User := fun user epoch =>
    if expelled epoch user token.iat then refuse 401 "نشست شما پایان یافته است — دوباره وارد شوید" else Prog.ret user
  let lookedUp : Option User → Handler User := fun found => match found with
    | none => refuse 401 "کاربر یافت نشد"
    | some user =>
      if !user.isActive then refuse 401 "حساب کاربری غیرفعال شده است" else perform .authEpoch >>= fun epoch => swept user epoch
  let decoded : Bool → Handler User := fun valid =>
    if !valid then refuse 401 "نشست نامعتبر یا منقضی است — دوباره وارد شوید" else perform (.getUser token.sub) >>= lookedUp
  have first : ∃ w₁ tr₁, w₁.get = w.get ∧ w₁.epoch = w.epoch ∧ admits w token x y z =
      (solo w₁ (⟨decoded ((w.tick (x (.decode token)).elapsed).verifies token),tr₁⟩ : Task machine Error User)
        [y,z]).2.prog.outcome := ⟨w.tick (x (.decode token)).elapsed,_,rfl,rfl,rfl⟩
  obtain ⟨w₁,tr₁,same,sameEpoch,first⟩ := first
  rw [first]
  unfold resolve
  cases (w.tick (x (.decode token)).elapsed).verifies token with
  | false => rfl
  | true =>
    have second : ∃ w₂ tr₂, w₂.epoch = w.epoch ∧ (solo w₁ (⟨decoded true,tr₁⟩ : Task machine Error User) [y,z]).2.prog.outcome =
        (solo w₂ (⟨lookedUp (w.get token.sub),tr₂⟩ : Task machine Error User) [z]).2.prog.outcome :=
      ⟨w₁.tick (y (.getUser token.sub)).elapsed,_,sameEpoch,by rw [← same]; rfl⟩
    obtain ⟨w₂,tr₂,sameEpoch,second⟩ := second
    rw [second]
    cases w.get token.sub with
    | none => rfl
    | some user =>
      have checked : (solo w₂ (⟨lookedUp (some user),tr₂⟩ : Task machine Error User) [z]).2.prog.outcome =
          if !user.isActive then some (.error (.http 401 "حساب کاربری غیرفعال شده است"))
          else (swept user (w₂.epoch.getD 0)).outcome := by
        cases active : user.isActive <;> simp only [lookedUp,active] <;> rfl
      rw [checked,sameEpoch]
      simp only [swept]
      split
      · rfl
      · split <;> rfl

theorem expelledIff (recorded : Recorded w) (minted : .minted token ∈ w.log) {row : Account}
    (there : w.accounts.get token.sub = some row) : expelled (w.epoch.getD 0) (row.user token.sub) token.iat = false ↔
      ∀ T, .cutOff (some token.sub) T ∈ w.log ∨ .cutOff none T ∈ w.log → T ≤ token.iat := by
  constructor
  · intro stays T mark
    by_contra before
    have before : token.iat < T := Nat.lt_of_not_le before
    rcases mark with own | all
    · obtain ⟨S,from_,later⟩ := recorded.rowLatest token minted T own before row there
      have expels : expelled (w.epoch.getD 0) (row.user token.sub) token.iat = true := expelledBy from_ later
      rw [expels] at stays
      cases stays
    · rw [expelledAll (Nat.lt_of_lt_of_le before (recorded.epochLatest T all))] at stays
      cases stays
  · intro none
    have latest : cutoff (w.epoch.getD 0) (row.user token.sub) ≤ token.iat := by
      have global : w.epoch.getD 0 ≤ token.iat := by
        cases set_ : w.epoch with
        | none => exact Nat.zero_le _
        | some e => exact none e (.inr (recorded.epochMarked e set_))
      unfold cutoff
      split
      · exact global
      · rename_i T from_
        split
        · exact global
        · exact Nat.max_le.mpr ⟨global,none T (.inl (recorded.rowMarked _ row there T from_))⟩
    simp only [expelled,Bool.and_eq_false_imp,decide_eq_false_iff_not]
    exact fun _ => Nat.not_lt.mpr latest

theorem resolveOk {valid : Bool} {found : Option User} {epoch iat : Nat} : resolve valid found epoch iat = .ok user ↔
    valid = true ∧ found = some user ∧ user.isActive = true ∧ expelled epoch user iat = false := by
  cases valid with
  | false => simp [resolve]
  | true =>
    cases found with
    | none => simp [resolve]
    | some u =>
      simp only [resolve,Bool.not_true,Bool.false_eq_true,if_false,true_and,Option.some.injEq]
      constructor
      · intro ok
        split at ok
        · cases ok
        · split at ok
          · cases ok
          · rename_i active stays
            cases ok
            exact ⟨rfl,by simpa using active,by simpa using stays⟩
      · rintro ⟨rfl,active,stays⟩
        simp [active,stays]

theorem acceptsIff (recorded : Recorded w) : admits w token x y z = some (.ok user) ↔
    .minted token ∈ w.log ∧ Live w token x ∧ Standing w token user := by
  rw [admitsResolves,Option.some.injEq,resolveOk]
  have verified : (w.tick (x (.decode token)).elapsed).verifies token = true ↔ .minted token ∈ w.log ∧ Live w token x := by
    rw [World.verifies,Bool.and_eq_true,Bool.and_eq_true,decide_eq_true_iff,decide_eq_true_iff,decide_eq_true_iff]
    refine ⟨fun valid => valid.1,fun valid => ⟨valid,?_⟩⟩
    have past := recorded.past token valid.1
    exact Nat.le_trans (Nat.div_mul_le_self _ _) (Nat.le_trans past (Nat.le_add_right _ _))
  constructor
  · rintro ⟨valid,got,active,stays⟩
    obtain ⟨minted,live⟩ := verified.mp valid
    obtain ⟨row,there,rfl⟩ := Option.map_eq_some_iff.mp got
    exact ⟨minted,live,row,there,active,rfl,(expelledIff recorded minted there).mp stays⟩
  · rintro ⟨minted,live,row,there,active,rfl,standing⟩
    exact ⟨verified.mpr ⟨minted,live⟩,Option.map_eq_some_iff.mpr ⟨row,there,rfl⟩,active,
      (expelledIff recorded minted there).mpr standing⟩

end Admits

section Step
variable {w w' : World} {o : Op} {d : Decision} {a : o.Ans} {tr : Trace}

theorem cutAfter (answered : World.respond o d w = some (a,w')) {whom : Option Int} {T : Nat} :
    .cutOff whom T ∈ w'.log ↔ .cutOff whom T ∈ w.log ∨ (∃ id, o.cuts = some id ∧ whom = some id ∧ T = w'.clock) ∨
      (o = .setAuthEpoch T ∧ whom = none) := by
  have s := stepped answered
  rw [s.log,s.clock,List.mem_append]
  refine or_congr_right ?_
  cases o with
  | updateUser id c =>
    have silent : Mark.cutOff whom T ∉ Op.marks (w.tick d.elapsed) (.updateUser id c) := by
      rw [Op.marks]
      split <;> simp
    simp [silent,Op.cuts]
  | setPassword id hash => simp [Op.marks,Op.cuts,World.tick]
  | revokeUserSessions id => simp [Op.marks,Op.cuts,World.tick]
  | setAuthEpoch epoch => simp [Op.marks,Op.cuts,and_comm,eq_comm]
  | _ => simp [Op.marks,Op.cuts]

theorem recordedMove (answered : World.respond o d w = some (a,w')) (recorded : Recorded w)
    (known : ∀ user ttl, o = .mint user ttl → user.id < w.accounts.next)
    (read : ∀ epoch, o = .setAuthEpoch epoch → epoch ≤ w.clock ∧ ∀ T, .cutOff none T ∈ w.log → T ≤ epoch) : Recorded w' := by
  have s := stepped answered
  have later : w.clock ≤ w'.clock := by rw [s.clock]; exact Nat.le_add_right _ _
  have cutPast : ∀ whom T, .cutOff whom T ∈ w'.log → T ≤ w'.clock := by
    intro whom T cut
    rcases (cutAfter answered).mp cut with old | ⟨id,_,_,rfl⟩ | ⟨rfl,_⟩
    · exact Nat.le_trans (recorded.cutPast whom T old) later
    · exact Nat.le_refl _
    · exact Nat.le_trans (read T rfl).1 later
  refine ⟨soundMove answered recorded.toSound known,cutPast,fun T set_ => ?_,fun T cut => ?_,fun id row' there T from_ => ?_,
    fun token minted T cut before row' there => ?_⟩
  · rw [s.epoch] at set_
    refine (cutAfter answered).mpr ?_
    cases o with
    | setAuthEpoch epoch => cases set_; exact .inr (.inr ⟨rfl,rfl⟩)
    | _ => exact .inl (recorded.epochMarked T set_)
  · rw [s.epoch]
    rcases (cutAfter answered).mp cut with old | ⟨id,_,no,_⟩ | ⟨rfl,_⟩
    · cases o with
      | setAuthEpoch epoch => exact (read epoch rfl).2 T old
      | _ => exact recorded.epochLatest T old
    · cases no
    · exact Nat.le_refl _
  · refine (cutAfter answered).mpr ?_
    by_cases old : id < w.accounts.next
    · obtain ⟨row,was,became⟩ := s.came old there
      rcases stampedAfter became with ⟨same,_⟩ | ⟨now,cuts⟩
      · rw [same] at from_
        exact .inl (recorded.rowMarked id row was T from_)
      · rw [now] at from_
        cases from_
        exact .inr (.inl ⟨id,cuts,rfl,rfl⟩)
    · rw [s.new id old row' there] at from_
      cases from_
  · rcases mintedAfter answered minted with old | ⟨_,_,_,_,now⟩
    · obtain ⟨row,was,became⟩ := s.came (recorded.numbered token old) there
      rcases stampedAfter became with ⟨same,uncut⟩ | ⟨now,_⟩
      · rcases (cutAfter answered).mp cut with was_ | ⟨id,cuts,own,_⟩ | ⟨_,no⟩
        · obtain ⟨S,from_,after_⟩ := recorded.rowLatest token old T was_ before row was
          exact ⟨S,same.trans from_,after_⟩
        · rw [← own] at cuts
          exact absurd cuts uncut
        · cases no
      · exact ⟨w'.clock,now,Nat.lt_of_lt_of_le before (cutPast _ T cut)⟩
    · rw [now] at before
      exact absurd (cutPast _ T cut) (Nat.not_le.mpr before)

end Step
/- One request alone after some of its operations: what is recorded, whom it was shown, and
what the time it has just read or the token it has just minted are. -/
structure Current (w : World) (tr : Trace) : Prop where
  recorded : Recorded w
  numbered : ∀ e ∈ tr, Numbered w e
  read : ∀ d (epoch : Nat), tr.getLast? = some ⟨.now,d,epoch⟩ → epoch ≤ w.clock ∧ ∀ T, .cutOff none T ∈ w.log → T ≤ epoch
  minted : ∀ user ttl d (token : Token), tr.getLast? = some ⟨.mint user ttl,d,token⟩ →
    .minted token ∈ w.log ∧ token.sub = user.id ∧ ∀ whom T, .cutOff whom T ∈ w.log → T ≤ token.iat

theorem currentStart {w : World} (recorded : Recorded w) : Current w [] where
  recorded := recorded
  numbered := fun _ no => by cases no
  read := fun _ _ no => by cases no
  minted := fun _ _ _ _ no => by cases no

theorem currentMove {w w' : World} {tr : Trace} {o : Op} {d : Decision} {a : o.Ans} (current : Current w tr)
    (proper : Proper tr o) (answered : World.respond o d w = some (a,w')) : Current w' (tr ++ [⟨o,d,a⟩]) := by
  have recorded : Recorded w' := by
    refine recordedMove answered current.recorded (fun user ttl same => ?_) (fun epoch same => ?_)
    · subst same
      obtain ⟨e,member,shown⟩ := (proper : Shown tr user)
      exact current.numbered e member user shown
    · subst same
      obtain ⟨d',last⟩ := (proper : ∃ d', tr.getLast? = some ⟨.now,d',epoch⟩)
      exact current.read d' epoch last
  have s := stepped answered
  refine ⟨recorded,fun e member => ?_,fun d' epoch last => ?_,fun user ttl d' token last => ?_⟩
  · rcases List.mem_append.mp member with old | new
    · exact numberedLasts (current.numbered e old) answered
    · rw [List.mem_singleton.mp new]
      exact numberedGiven answered
  · rw [List.getLast?_concat] at last
    cases last
    have time : epoch = w'.clock := by
      rw [s.clock]
      exact (congrArg Prod.fst (Option.some.inj answered)).symm
    rw [time]
    exact ⟨Nat.le_refl _,fun T cut => recorded.cutPast none T cut⟩
  · rw [List.getLast?_concat] at last
    cases last
    have made : token = (w.tick d.elapsed).token user ttl := (congrArg Prod.fst (Option.some.inj answered)).symm
    have time : token.iat = w'.clock := by rw [made,s.clock]; rfl
    refine ⟨?_,by rw [made]; rfl,fun whom T cut => ?_⟩
    · rw [s.log,made]
      exact List.mem_append_right _ (List.mem_singleton_self _)
    · rw [time]
      exact recorded.cutPast whom T cut

section Calls
variable {settings : Settings} {w : World}

theorem currentCall (recorded : Recorded w) (r : Request) (orcs : List (Oracle machine)) :
    Current (solo w (Task.start machine (r.handle settings)) orcs).1
      (solo w (Task.start machine (r.handle settings)) orcs).2.trace :=
  soloKeeps (J := Current) (fun _ _ _ _ _ _ current proper answered => currentMove current proper answered)
    (currentStart recorded) (properObeys settings r) orcs

theorem recordedAfter (recorded : Recorded w) (calls : List (Request × List (Oracle machine))) :
    Recorded (after settings w calls) := by
  induction calls generalizing w with
  | nil => exact recorded
  | cons c rest ih => exact ih (currentCall recorded c.1 c.2).recorded

theorem afterAppend (xs ys : List (Request × List (Oracle machine))) :
    after settings w (xs ++ ys) = after settings (after settings w xs) ys := by
  rw [after,List.map_append,serialAppend]
  rfl

-- The number of an account that is gone is never given again.
def Gone (id : Int) (w : World) : Prop := id < w.accounts.next ∧ w.accounts.get id = none

theorem goneMove {w' : World} {id : Int} {o : Op} {d : Decision} {a : o.Ans} (gone : Gone id w)
    (answered : World.respond o d w = some (a,w')) : Gone id w' := by
  have s := stepped answered
  refine ⟨Int.lt_of_lt_of_le gone.1 s.next,?_⟩
  rw [s.row id gone.1,gone.2]
  rfl

theorem goneAfter {id : Int} (gone : Gone id w) (calls : List (Request × List (Oracle machine))) :
    Gone id (after settings w calls) := by
  induction calls generalizing w with
  | nil => exact gone
  | cons c rest ih =>
    have kept : ∀ w (tr : Trace) o inp a w', Gone id w → True → World.respond o inp w = some (a,w') → Gone id w' :=
      fun _ _ _ _ _ _ gone _ answered => goneMove gone answered
    exact ih (soloKeeps (J := fun w _ => Gone id w) kept gone (obeysAny [] (c.1.handle settings)) c.2)

end Calls

section Replaced
variable {settings : Settings} {w w' : World} {tr : Trace} {o : Op} {d : Decision} {a : o.Ans}

def Alive (w : World) (id : Int) : Prop := ∃ row, w.accounts.get id = some row ∧ row.isActive = true

def Op.keeps (o : Op) : Prop :=
  ∀ time id row, ∃ row', o.after time id row = some row' ∧ row'.isActive = row.isActive

theorem quietKeeps (quiet : o.quiet) : o.keeps := by
  intro time id row
  cases o <;> first | exact ⟨row,rfl,rfl⟩ | exact quiet.elim

theorem foundNow (answered : World.respond o d w = some (a,w')) {user : User} (shown : found o a = some user)
    (active : user.isActive = true) : Alive w user.id := by
  have as : a = ((w.tick d.elapsed).perform d.hex o).1 := (congrArg Prod.fst (Option.some.inj answered)).symm
  subst as
  cases o with
  | getUser id =>
    obtain ⟨row,there,rfl⟩ := Option.map_eq_some_iff.mp shown
    exact ⟨row,there,active⟩
  | byUsername username =>
    obtain ⟨r,chosen,rfl⟩ := Option.map_eq_some_iff.mp shown
    exact ⟨r.2,(w.accounts.memGet r.1 r.2).mp (List.mem_of_find?_eq_some chosen),active⟩
  | _ => cases shown

theorem aliveMove {id : Int} (keeps : o.keeps) (answered : World.respond o d w = some (a,w')) (alive : Alive w id) :
    Alive w' id := by
  obtain ⟨row,there,active⟩ := alive
  obtain ⟨row',became,same⟩ := keeps w'.clock id row
  exact ⟨row',((stepped answered).kept there).trans became,same.trans active⟩

def AllAlive (w : World) (tr : Trace) : Prop := ∀ user, Shown tr user → user.isActive = true → Alive w user.id

theorem allAliveMove (keeps : o.keeps) (answered : World.respond o d w = some (a,w')) (alive : AllAlive w tr) :
    AllAlive w' (tr ++ [⟨o,d,a⟩]) := by
  rintro user ⟨e,member,shown⟩ active
  refine aliveMove keeps answered ?_
  rcases List.mem_append.mp member with old | last
  · exact alive user ⟨e,old,shown⟩ active
  · cases List.mem_singleton.mp last
    exact foundNow answered shown active

/- A request that hands its caller a token has minted it last, for an account that it was
shown to be active. -/
def Replaces (tr : Trace) (out : Except Error Reply) : Prop :=
  ∀ reply token, out = .ok reply → reply.replacement = some token →
    ∃ user ttl d, tr.getLast? = some ⟨.mint user ttl,d,token⟩ ∧
      ∃ caller, Shown tr caller ∧ caller.isActive = true ∧ caller.id = user.id

theorem replacesNone {reply : Reply} (none_ : reply.replacement = none) : Replaces tr (.ok reply) := by
  intro reply' token same replacement
  cases same
  rw [none_] at replacement
  cases replacement

theorem replacesError {e : Error} : Replaces tr (.error e) := fun _ _ no => by cases no

theorem replacesMinted {user caller : User} {ttl : Int} {token : Token} {reply : Reply} (shown : Shown tr caller)
    (active : caller.isActive = true) (own : caller.id = user.id) (hands : reply.replacement = some token) :
    Replaces (tr ++ [⟨.mint user ttl,d,token⟩]) (.ok reply) := by
  intro reply' token' same replacement
  cases same
  cases Option.some.inj (hands.symm.trans replacement)
  exact ⟨user,ttl,d,List.getLast?_concat,caller,shownSnoc shown _,active,own⟩

def ShownActive (tr : Trace) (out : Except Error User) : Prop :=
  ∀ user, out = .ok user → Shown tr user ∧ user.isActive = true

theorem currentActive (token : Option Token) :
    Obeys (fun _ _ => True) ShownActive [] (currentUser token) := by
  cases token with
  | none => exact fun _ no => by cases no
  | some token =>
    refine obeysMono (fun tr out letIn user same => ?_) (obeysMay (fun _ _ _ => True.intro) (currentUserObeys token))
    obtain ⟨⟨e,member,shown⟩,active,_⟩ := letIn user same
    exact ⟨⟨e,member,lookedFound shown⟩,active⟩

theorem adminActive (token : Option Token) :
    Obeys (fun _ _ => True) ShownActive [] (adminUser token) := by
  refine obeysBind (currentActive token) (fun tr user shown => obeysIf (fun _ u same => ?_) (fun _ _ no => by cases no))
    (fun _ _ _ _ no => by cases no)
  cases same
  exact shown user rfl

section Endpoints
variable (settings)

theorem replacesThen {α : Type} (tr : Trace) (p : Handler α) (f : α → Handler Reply)
    (next : ∀ tr' a, Obeys (fun _ _ => True) Replaces tr' (f a)) : Obeys (fun _ _ => True) Replaces tr (p >>= f) :=
  obeysBind (obeysAny tr p) (fun tr' a _ => next tr' a) (fun _ _ _ => replacesError)

theorem loginReplaces (username password : String) :
    Obeys (fun _ _ => True) Replaces [] (login settings username password) := by
  have after_ : ∀ tr (user : Option User) (stored : String), Obeys (fun _ _ => True) Replaces tr
      (verifyPassword settings password stored >>= letIn settings user) := by
    refine fun tr user stored => replacesThen tr _ _ (fun tr' verified => obeysIf (fun _ => replacesError) (fun _ => ?_))
    cases user with
    | none => exact replacesError
    | some user => exact obeysIf (fun _ => replacesError) (fun _ => replacesThen _ _ _ (fun _ _ => replacesNone rfl))
  refine performThen True.intro (fun d (user : Option User) _ => ?_)
  cases user with
  | none => exact after_ _ none _
  | some user => exact performThen True.intro (fun d' stored _ => after_ _ (some user) _)

theorem changePasswordReplaces (token : Option Token) (body : PasswordChange) :
    Obeys (fun _ _ => True) Replaces [] (changePassword settings token body) := by
  refine obeysBind (currentActive token) (fun tr user caller => performThen True.intro (fun d (stored : Option String) _ => ?_))
    (fun _ _ _ => replacesError)
  obtain ⟨shown,active⟩ := caller user rfl
  refine aheadThen (verifyPerforms settings _ _) (fun _ _ _ => True.intro) (fun _ _ => replacesError) (fun tr' _ still => ?_)
  refine obeysIf (fun _ => replacesError) (fun _ => ?_)
  refine aheadThen (performsMapError (setPasswordPerforms settings user.id body.newPassword)) (fun _ _ _ => True.intro)
    (fun _ _ => replacesError) (fun tr'' _ still' => performThen True.intro (fun d' (refreshed : Option User) possible => ?_))
  cases refreshed with
  | none => exact replacesError
  | some refreshed =>
    obtain ⟨w,w',answered⟩ := possible
    have own : refreshed.id = user.id := gotId (congrArg Prod.fst (Option.some.inj answered))
    refine performThen True.intro (fun d'' (token : Token) _ => ?_)
    exact replacesMinted (shownSnoc (still' user (still user (shownSnoc shown _))) _) active own.symm rfl

theorem createUserReplaces (token : Option Token) (body : UserCreate) :
    Obeys (fun _ _ => True) Replaces [] (createUser settings token body) := by
  refine replacesThen _ _ _ (fun _ _ => replacesThen _ _ _ (fun _ taken => obeysIf (fun _ => replacesError) (fun _ => ?_)))
  exact replacesThen _ _ _ (fun _ _ => replacesNone rfl)

theorem updateUserReplaces (token : Option Token) (id : Int) (body : UserUpdate) :
    Obeys (fun _ _ => True) Replaces [] (updateUser settings token id body) := by
  rw [updateUserParts]
  refine replacesThen _ _ _ (fun _ me => performThen True.intro (fun _ (found : Option User) _ => ?_))
  cases found with
  | none => exact replacesError
  | some target =>
    refine replacesThen _ _ _ (fun _ _ => ?_)
    refine replacesThen _ _ _ (fun _ _ => replacesThen _ _ _ (fun _ _ => replacesThen _ _ _ (fun _ updated => ?_)))
    cases updated with
    | none => exact replacesError
    | some updated => exact replacesNone rfl

theorem deleteUserReplaces (token : Option Token) (id : Int) (hard : Bool) :
    Obeys (fun _ _ => True) Replaces [] (deleteUser token id hard) := by
  refine replacesThen _ _ _ (fun _ me => performThen True.intro (fun _ (found : Option User) _ => ?_))
  cases found with
  | none => exact replacesError
  | some target =>
    refine obeysIf (fun _ => replacesError) (fun _ => replacesThen _ _ _ (fun _ _ => ?_))
    refine obeysIf (fun _ => performThen True.intro (fun _ _ _ => replacesNone rfl)) (fun _ => replacesThen _ _ _ (fun _ _ => ?_))
    refine performThen True.intro (fun _ _ _ => performThen True.intro (fun _ (updated : Option User) _ => ?_))
    cases updated with
    | none => exact replacesError
    | some updated => exact replacesNone rfl

theorem revokeAllReplaces (token : Option Token) :
    Obeys (fun _ _ => True) Replaces [] (revokeAll settings token) := by
  refine obeysBind (adminActive token) (fun tr me caller => performThen True.intro (fun d (epoch : Nat) _ => ?_))
    (fun _ _ _ => replacesError)
  obtain ⟨shown,active⟩ := caller me rfl
  refine performThen True.intro (fun d' _ _ => performThen True.intro (fun d'' (token : Token) _ => ?_))
  exact replacesMinted (shownSnoc (shownSnoc shown _) _) active rfl rfl

theorem revokeOneReplaces (token : Option Token) (id : Int) :
    Obeys (fun _ _ => True) Replaces [] (revokeOne settings token id) := by
  refine obeysBind (adminActive token) (fun tr me caller => performThen True.intro (fun d (found : Option User) _ => ?_))
    (fun _ _ _ => replacesError)
  obtain ⟨shown,active⟩ := caller me rfl
  cases found with
  | none => exact replacesError
  | some target =>
    refine performThen True.intro (fun d' _ _ => obeysIf (fun _ => ?_) (fun _ => replacesNone rfl))
    refine performThen True.intro (fun d'' (token : Token) _ => ?_)
    exact replacesMinted (shownSnoc (shownSnoc shown _) _) active rfl rfl

end Endpoints

theorem handleReplaces (r : Request) : Obeys (fun _ _ => True) Replaces [] (r.handle settings) := by
  cases r with
  | login username password => exact loginReplaces settings username password
  | me token => exact replacesThen _ _ _ (fun _ _ => replacesNone rfl)
  | changePassword token body => exact changePasswordReplaces settings token body
  | createUser token body => exact createUserReplaces settings token body
  | updateUser token id body => exact updateUserReplaces settings token id body
  | deleteUser token id hard => exact deleteUserReplaces token id hard
  | revokeAll token => exact revokeAllReplaces settings token
  | revokeOne token id => exact revokeOneReplaces settings token id

theorem mintingKeeps {r : Request} {user : User} {ttl : Int} (mints : r.writes (.mint user ttl))
    (may : o.quiet ∨ r.writes o) : o.keeps := by
  rcases may with quiet | write
  · exact quietKeeps quiet
  · intro time id row
    cases r <;> first | exact mints.elim | skip
    all_goals
      cases o with
      | setPassword j hash =>
        refine ⟨_,rfl,?_⟩
        split <;> rfl
      | revokeUserSessions j =>
        refine ⟨_,rfl,?_⟩
        split <;> rfl
      | _ => first | exact ⟨row,rfl,rfl⟩ | exact write.elim

theorem soloWithin (r : Request) (orcs : List (Oracle machine)) :
    ∀ e ∈ (solo w (Task.start machine (r.handle settings)) orcs).2.trace, e.op.quiet ∨ r.writes e.op := by
  have within : Obeys (M := machine) (fun _ o => o.quiet ∨ r.writes o) (fun _ _ => True) [] (r.handle settings) :=
    obeysPerforms (handlePerforms settings r) (fun _ _ _ may => may) (fun _ _ _ => True.intro)
  have kept : ∀ w (tr : Trace) o inp a w', (∀ e ∈ tr, e.op.quiet ∨ r.writes e.op) → o.quiet ∨ r.writes o →
      World.respond o inp w = some (a,w') → ∀ e ∈ tr ++ [⟨o,inp,a⟩], e.op.quiet ∨ r.writes e.op := by
    intro w tr o inp a w' held may _ e member
    rcases List.mem_append.mp member with old | last
    · exact held e old
    · rw [List.mem_singleton.mp last]
      exact may
  exact soloKeeps (J := fun _ (tr : Trace) => ∀ e ∈ tr, e.op.quiet ∨ r.writes e.op)
    (t := Task.start machine (r.handle settings)) kept (fun _ no => by cases no) within orcs

theorem soloAlive {r : Request} {user : User} {ttl : Int} (mints : r.writes (.mint user ttl)) (orcs : List (Oracle machine)) :
    AllAlive (solo w (Task.start machine (r.handle settings)) orcs).1
      (solo w (Task.start machine (r.handle settings)) orcs).2.trace := by
  have within : Obeys (M := machine) (fun _ o => o.quiet ∨ r.writes o) (fun _ _ => True) [] (r.handle settings) :=
    obeysPerforms (handlePerforms settings r) (fun _ _ _ may => may) (fun _ _ _ => True.intro)
  refine soloKeeps (J := AllAlive) (t := Task.start machine (r.handle settings))
    (fun _ _ _ _ _ _ alive may answered => allAliveMove (mintingKeeps mints may) answered alive) ?_ within orcs
  rintro user ⟨e,no,_⟩
  cases no

theorem replacedStands (recorded : Recorded w) (r : Request) (orcs : List (Oracle machine)) {reply : Reply} {token : Token}
    (ended : (solo w (Task.start machine (r.handle settings)) orcs).2.prog.outcome = some (.ok reply))
    (replacement : reply.replacement = some token) :
    .minted token ∈ (solo w (Task.start machine (r.handle settings)) orcs).1.log ∧
      ∃ user, Standing (solo w (Task.start machine (r.handle settings)) orcs).1 token user := by
  have current : Current (solo w (Task.start machine (r.handle settings)) orcs).1 _ := currentCall recorded r orcs
  have replaces := obeysEnds (soloObeys (w := w) (t := Task.start machine (r.handle settings)) (handleReplaces r) orcs) ended
  obtain ⟨user,ttl,d,last,caller,shown,active,own⟩ := replaces reply token rfl replacement
  obtain ⟨minted,sub,older⟩ := current.minted user ttl d token last
  refine ⟨minted,?_⟩
  have wrote : (Op.mint user ttl).quiet ∨ r.writes (.mint user ttl) := soloWithin r orcs _ (List.mem_of_getLast? last)
  have mints : r.writes (.mint user ttl) := wrote.resolve_left id
  obtain ⟨row,there,on⟩ := soloAlive mints orcs caller shown active
  rw [own,← sub] at there
  exact ⟨_,row,there,on,rfl,fun T cut => cut.elim (older _ T) (older _ T)⟩

end Replaced

/-! A request that ends sessions, once it is answered, has set its cut-off. -/

def Request.ends : Request → Option (Option Int)
  | .changePassword token _ => token.map (fun token => some token.sub)
  | .revokeAll _ => some none
  | .revokeOne _ id => some (some id)
  | _ => none

def CutSince (w : World) (whom : Option Int) (w' : World) : Prop := ∃ T, w.clock ≤ T ∧ .cutOff whom T ∈ w'.log

section CutOffs
variable {α : Type} {settings : Settings} {w w' w₁ : World} {whom : Option Int}

theorem onward {p : Handler α} {out : Except Error α} (ended : Auth.Alone w p out w') :
    w.clock ≤ w'.clock ∧ ∀ m ∈ w.log, m ∈ w'.log := by
  refine endsKeep (M := machine) (J := fun w' : World => w.clock ≤ w'.clock ∧ ∀ m ∈ w.log, m ∈ w'.log)
    (fun w₁ o d a w₂ before _ answered => ?_) (performsAny p) ⟨Nat.le_refl _,fun _ member => member⟩ ended
  have step := stepped answered
  obtain ⟨later,marks⟩ := before
  refine ⟨?_,fun m member => ?_⟩
  · rw [step.clock]
    exact Nat.le_trans later (Nat.le_add_right _ _)
  · rw [step.log]
    exact List.mem_append_left _ (marks m member)

theorem cutFrom {w₂ : World} (later : w.clock ≤ w₁.clock) (cut : CutSince w₁ whom w₂) : CutSince w whom w₂ := by
  obtain ⟨T,after_,member⟩ := cut
  exact ⟨T,Nat.le_trans later after_,member⟩

theorem cutKept {p : Handler α} {out : Except Error α} (cut : CutSince w whom w₁) (ended : Auth.Alone w₁ p out w') :
    CutSince w whom w' := by
  obtain ⟨T,later,member⟩ := cut
  exact ⟨T,later,(onward ended).2 _ member⟩

theorem setPasswordCuts {id : Int} {password : String}
    (ended : Auth.Alone w (UserStore.setPassword settings id password) (.ok ()) w') : CutSince w (some id) w' := by
  unfold UserStore.setPassword at ended
  split at ended
  · simp [Auth.Alone] at ended
  · rcases endsBind.mp ended with ⟨e,_,no⟩ | ⟨hash,w₁,first,last⟩
    · cases no
    · refine cutFrom (onward first).1 ?_
      obtain ⟨d,a,w₂,_,answered,rest⟩ := endsOp.mp last
      cases Option.some.inj answered
      obtain ⟨_,rfl⟩ := endsRet.mp rest
      exact ⟨w₁.clock + d.elapsed,Nat.le_add_right _ _,List.mem_append_right _ (List.mem_singleton_self _)⟩

theorem changePasswordCuts {token : Token} {body : PasswordChange} {reply : Reply}
    (ended : Auth.Alone w (changePassword settings (some token) body) (.ok reply) w') : CutSince w (some token.sub) w' := by
  rcases endsBind.mp ended with ⟨e,_,no⟩ | ⟨user,w₁,current,ended⟩
  · cases no
  obtain ⟨t,given,found,_⟩ := currentAlone current
  cases given
  obtain ⟨d,_,ended⟩ := aloneThen.mp ended
  rcases endsBind.mp ended with ⟨e,_,no⟩ | ⟨verified,w₂,checked,ended⟩
  · cases no
  split at ended
  · simp [refuse] at ended
  rcases endsBind.mp ended with ⟨e,_,no⟩ | ⟨_,w₃,set,ended⟩
  · cases no
  obtain ⟨out,set,same⟩ := endsMapError.mp set
  cases out with
  | error e => cases same
  | ok _ =>
    rw [gotId found] at set
    have later : w.clock ≤ w₂.clock :=
      Nat.le_trans (onward current).1 (Nat.le_trans (Nat.le_add_right _ _) (onward checked).1)
    exact cutKept (cutFrom later (setPasswordCuts set)) ended

theorem revokeAllCuts {token : Option Token} {reply : Reply}
    (ended : Auth.Alone w (revokeAll settings token) (.ok reply) w') : CutSince w none w' := by
  rcases endsBind.mp ended with ⟨e,_,no⟩ | ⟨me,w₁,admin,ended⟩
  · cases no
  obtain ⟨d,_,ended⟩ := aloneThen.mp ended
  obtain ⟨d',_,ended⟩ := aloneThen.mp ended
  refine cutKept ⟨w₁.clock + d.elapsed,?_,List.mem_append_right _ (List.mem_singleton_self _)⟩ ended
  exact Nat.le_trans (onward admin).1 (Nat.le_add_right _ _)

theorem revokeOneCuts {token : Option Token} {id : Int} {reply : Reply}
    (ended : Auth.Alone w (revokeOne settings token id) (.ok reply) w') : CutSince w (some id) w' := by
  rcases endsBind.mp ended with ⟨e,_,no⟩ | ⟨me,w₁,admin,ended⟩
  · cases no
  obtain ⟨d,_,ended⟩ := aloneThen.mp ended
  change Auth.Alone (w₁.tick d.elapsed) (match (w₁.tick d.elapsed).get id with
    | none => notFound
    | some target => _) (.ok reply) w' at ended
  split at ended
  · simp [notFound,refuse,Auth.Alone] at ended
  · obtain ⟨d',_,ended⟩ := aloneThen.mp ended
    refine cutKept ⟨w₁.clock + d.elapsed + d'.elapsed,?_,List.mem_append_right _ (List.mem_singleton_self _)⟩ ended
    exact Nat.le_trans (onward admin).1 (by omega)

/- Whatever was set before it: a request that ends sessions is answered only once the
cut-off of now, or of later, is set. -/
theorem answeredCuts {r : Request} {reply : Reply} (revokes : r.ends = some whom)
    (answered : Auth.Alone w (r.handle settings) (.ok reply) w') : CutSince w whom w' := by
  cases r with
  | changePassword token body =>
    obtain ⟨token,rfl,rfl⟩ := Option.map_eq_some_iff.mp revokes
    exact changePasswordCuts answered
  | revokeAll token =>
    cases revokes
    exact revokeAllCuts answered
  | revokeOne token id =>
    cases revokes
    exact revokeOneCuts answered
  | _ => cases revokes

end CutOffs

theorem sessionsExact {settings : Settings} {w : World} (seeded : w.Seeded)
    (calls : List (Request × List (Oracle machine))) : Exact settings w calls where
  accepts := fun _ _ _ _ _ => acceptsIff (recordedAfter (recordedSeeded seeded) calls)
  replaced := by
    intro r orcs reply token ended replacement x y z live
    have recorded : Recorded (after settings w calls) := recordedAfter (recordedSeeded seeded) calls
    obtain ⟨minted,user,standing⟩ := replacedStands recorded r orcs ended replacement
    refine ⟨user,(acceptsIff (recordedAfter (recordedSeeded seeded) _)).mpr ⟨?_,live,?_⟩⟩
    · rw [afterAppend]; exact minted
    · rw [afterAppend]; exact standing
  removed := by
    intro token minted none_ more x y z user accepted
    have recorded : Recorded (after settings w calls) := recordedAfter (recordedSeeded seeded) calls
    have gone : Gone token.sub (after settings (after settings w calls) more) :=
      goneAfter ⟨recorded.numbered token minted,none_⟩ more
    rw [← afterAppend] at gone
    obtain ⟨_,_,row,there,_⟩ := (acceptsIff (recordedAfter (recordedSeeded seeded) (calls ++ more))).mp accepted
    rw [gone.2] at there
    cases there

theorem sessionsExactOffice :
    Exact Example.hashing Example.office [(.login "modir" "secret-one",List.replicate 3 Example.ticking),
      (.revokeAll Example.caller,List.replicate 6 Example.ticking)] :=
  sessionsExact Example.officeSeeded _

end Moadian.Auth
