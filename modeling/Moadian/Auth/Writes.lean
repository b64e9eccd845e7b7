import Moadian.Auth.Steps

/-! What each request may write, whatever it is answered. -/
namespace Moadian.Auth
open Resumption

def Op.quiet : Op → Prop
  | .getUser _ | .byUsername _ | .passwordHash _ | .activeAdminCount _ | .authEpoch | .now | .tokenHex | .decode _ => True
  | _ => False

def Request.writes : Request → Op → Prop
  | .login .., .mint .. => True
  | .changePassword .., .setPassword .. => True
  | .changePassword .., .mint .. => True
  | .createUser .., .insertUser .. => True
  | .updateUser .., .setPassword .. => True
  | .updateUser .., .updateUser .. => True
  | .deleteUser .., .deleteUser _ => True
  | .deleteUser .., .updateUser .. => True
  | .deleteUser .., .revokeUserSessions _ => True
  | .revokeAll _, .setAuthEpoch _ => True
  | .revokeAll _, .mint .. => True
  | .revokeOne .., .revokeUserSessions _ => True
  | .revokeOne .., .mint .. => True
  | _, _ => False

abbrev Does {α : Type} (allowed : Op → Prop) (p : Handler α) : Prop := Performs allowed p

section Parts
variable {α : Type}

theorem performsThen {allowed : Op → Prop} {o : Op} {f : o.Ans → Handler α} (ok : allowed o)
    (next : ∀ a, Does allowed (f a)) : Does allowed (perform o >>= f) := ⟨ok,next⟩

variable (settings : Settings)

theorem hashPerforms (password salt : String) : Does (· = .tokenHex) (hashPassword settings password salt) := by
  unfold hashPassword
  split
  · refine ⟨rfl,fun salt => ?_⟩
    dsimp only [Prog.bind]
    cases settings.pbkdf2 password salt <;> exact True.intro
  · dsimp only [Prog.bindRet]
    cases settings.pbkdf2 password salt <;> exact True.intro

def letIn (user : Option User) (verified : Bool) : Handler Reply :=
  if !verified then refuse 401 "نام کاربری یا گذرواژه نادرست است"
  else match user with
    | none => Prog.raise .assertionError
    | some user =>
      if !user.isActive then refuse 403 "این حساب غیرفعال شده است — با مدیر سامانه تماس بگیرید"
      else makeToken settings user >>= fun token => Prog.ret (.session token user)

theorem verifyPerforms (password stored : String) : Does (· = .tokenHex) (verifyPassword settings password stored) := by
  unfold verifyPassword
  split
  · exact performsBind (hashPerforms settings _ _) (fun _ => True.intro)
  · exact True.intro

theorem currentPerforms (token : Option Token) : Does Op.quiet (currentUser token) := by
  unfold currentUser
  split
  · exact True.intro
  · refine ⟨True.intro,fun valid => performsIf (fun _ => True.intro) (fun _ => ⟨True.intro,fun found => ?_⟩)⟩
    cases found with
    | none => exact True.intro
    | some user =>
      exact performsIf (fun _ => True.intro) (fun _ => ⟨True.intro,fun _ => performsIf (fun _ => True.intro) (fun _ => True.intro)⟩)

theorem adminPerforms (token : Option Token) : Does Op.quiet (adminUser token) :=
  performsBind (currentPerforms token) (fun _ => performsIf (fun _ => True.intro) (fun _ => True.intro))

theorem guardLastPerforms (target : User) : Does Op.quiet (guardLastAdmin target) := by
  unfold guardLastAdmin
  exact performsIf (fun _ => performsThen True.intro (fun (others : Nat) => performsIf (fun _ => True.intro) (fun _ => True.intro)))
    (fun _ => True.intro)

theorem guardRolePerforms (me target : User) (role : Option String) : Does Op.quiet (guardRole me target role) := by
  cases role with
  | none => exact True.intro
  | some role =>
    unfold guardRole
    refine performsIf (fun _ => True.intro) (fun _ => performsIf (fun _ => True.intro) (fun _ => ?_))
    exact performsIf (fun _ => True.intro) (fun _ => performsIf (fun _ => guardLastPerforms target) (fun _ => True.intro))

theorem guardActivePerforms (me target : User) (active : Option Bool) : Does Op.quiet (guardActive me target active) := by
  cases active with
  | none => exact True.intro
  | some active =>
    unfold guardActive
    refine performsIf (fun _ => True.intro) (fun _ => performsIf (fun _ => True.intro) (fun _ => ?_))
    exact performsIf (fun _ => guardLastPerforms target) (fun _ => True.intro)

theorem setPasswordPerforms (id : Int) (password : String) :
    Does (fun o => o = .tokenHex ∨ ∃ hash, o = .setPassword id hash) (UserStore.setPassword settings id password) := by
  unfold UserStore.setPassword
  refine performsIf (fun _ => True.intro) (fun _ => ?_)
  exact performsBind (performsMono (fun _ => .inl) (hashPerforms settings _ _)) (fun hash => ⟨.inr ⟨hash,rfl⟩,fun _ => True.intro⟩)

theorem createPerforms (username password displayName role : String) :
    Does (fun o => o.quiet ∨ ∃ u h d r, o = .insertUser u h d r)
      (UserStore.create settings username password displayName role) := by
  unfold UserStore.create
  refine performsIf (fun _ => True.intro) (fun _ => performsIf (fun _ => True.intro) (fun _ => ?_))
  refine performsIf (fun _ => True.intro) (fun _ => ?_)
  refine performsBind (performsMono (fun _ only => .inl (only ▸ True.intro)) (hashPerforms settings _ _)) (fun hash => ?_)
  refine ⟨.inr ⟨_,_,_,_,rfl⟩,fun inserted => ?_⟩
  cases inserted with
  | none => exact True.intro
  | some id =>
    refine ⟨.inl True.intro,fun user => ?_⟩
    cases user <;> exact True.intro

theorem updateRowPerforms (id : Int) (displayName : Option Codec.PyText) (role : Option String) (isActive : Option Bool)
    (disabledAt : Option Nat) : Does (fun o => o.quiet ∨ ∃ changes, o = .updateUser id changes)
      (UserStore.updateRow id displayName role isActive disabledAt) := by
  unfold UserStore.updateRow
  refine performsIf (fun _ => ⟨.inl True.intro,fun _ => True.intro⟩) (fun _ => ?_)
  split
  · exact True.intro
  · exact ⟨.inr ⟨_,rfl⟩,fun _ => ⟨.inl True.intro,fun _ => True.intro⟩⟩

theorem updatePerforms (id : Int) (displayName : Option Codec.PyText) (role : Option String) (isActive : Option Bool) :
    Does (fun o => o.quiet ∨ ∃ changes, o = .updateUser id changes) (UserStore.update id displayName role isActive) := by
  unfold UserStore.update
  refine performsIf (fun _ => True.intro) (fun _ => ?_)
  by_cases off : isActive = some false
  · rw [if_pos off]
    exact ⟨.inl True.intro,fun time => updateRowPerforms _ _ _ _ _⟩
  · rw [if_neg off]
    exact updateRowPerforms _ _ _ _ none

end Parts

def afterPassword (me target : User) (id : Int) (body : UserUpdate) : Handler Reply := do
  guardRole me target body.role
  guardActive me target body.isActive
  let updated ← (UserStore.update id body.displayName body.role body.isActive).mapError Error.refusal
  match updated with
  | none => Prog.raise .assertionError
  | some updated => Prog.ret (.account updated)

def settingPassword (settings : Settings) (id : Int) : Option String → Handler Unit
  | none => Prog.ret ()
  | some password => (UserStore.setPassword settings id password).mapError Error.refusal

def updating (settings : Settings) (me : User) (id : Int) (body : UserUpdate) : Option User → Handler Reply
  | none => notFound
  | some target => settingPassword settings id body.password >>= fun _ => afterPassword me target id body

theorem updateUserParts (token : Option Token) (id : Int) (body : UserUpdate) : updateUser settings token id body =
    adminUser token >>= fun me => perform (.getUser id) >>= updating settings me id body := by
  unfold updateUser
  congr 1
  funext me
  congr 1
  funext found
  cases found with
  | none => rfl
  | some target =>
    unfold updating settingPassword
    cases body.password <;> rfl

section Endpoints
variable {α : Type} {r : Request} (settings : Settings)

abbrev Request.May (r : Request) (o : Op) : Prop := o.quiet ∨ r.writes o

theorem mayQuietly {p : Handler α} (quiet : Does Op.quiet p) : Does r.May p := performsMono (fun _ => .inl) quiet

theorem mayHex {p : Handler α} (hex : Does (· = .tokenHex) p) : Does r.May p :=
  performsMono (fun _ only => .inl (only ▸ True.intro)) hex

theorem loginPerforms (username password : String) :
    Does (Request.May (.login username password)) (login settings username password) := by
  have after : ∀ (user : Option User) (stored : String), Does (Request.May (.login username password))
      (verifyPassword settings password stored >>= letIn settings user) := by
    intro user stored
    refine performsBind (mayHex (verifyPerforms settings password stored)) (fun _ => performsIf (fun _ => True.intro) (fun _ => ?_))
    cases user with
    | none => exact True.intro
    | some user => exact performsIf (fun _ => True.intro) (fun _ => ⟨.inr True.intro,fun _ => True.intro⟩)
  refine ⟨.inl True.intro,fun user => ?_⟩
  cases user with
  | none => exact after none _
  | some user => exact ⟨.inl True.intro,fun stored => after (some user) _⟩

theorem changePasswordPerforms (token : Option Token) (body : PasswordChange) :
    Does (Request.May (.changePassword token body)) (changePassword settings token body) := by
  refine performsBind (mayQuietly (currentPerforms token)) (fun user => performsThen (.inl True.intro) (fun stored => ?_))
  refine performsBind (mayHex (verifyPerforms settings _ _)) (fun _ => performsIf (fun _ => True.intro) (fun _ => ?_))
  refine performsBind (performsMapError (performsMono ?_ (setPasswordPerforms settings user.id _)))
    (fun _ => ⟨.inl True.intro,fun refreshed => ?_⟩)
  · rintro o (rfl | ⟨hash,rfl⟩)
    · exact .inl True.intro
    · exact .inr True.intro
  · cases refreshed with
    | none => exact True.intro
    | some refreshed => exact ⟨.inr True.intro,fun _ => True.intro⟩

theorem createUserPerforms (token : Option Token) (body : UserCreate) :
    Does (Request.May (.createUser token body)) (createUser settings token body) := by
  refine performsBind (mayQuietly (adminPerforms token)) (fun _ => ⟨.inl True.intro,fun taken => ?_⟩)
  refine performsIf (fun _ => True.intro) (fun _ => ?_)
  refine performsBind (performsMapError (performsMono ?_ (createPerforms settings _ _ _ _))) (fun _ => True.intro)
  rintro o (quiet | ⟨u,h,d,r,rfl⟩)
  · exact .inl quiet
  · exact .inr True.intro

theorem afterPasswordPerforms (token : Option Token) (me target : User) (id : Int) (body : UserUpdate) :
    Does (Request.May (.updateUser token id body)) (afterPassword me target id body) := by
  refine performsBind (mayQuietly (guardRolePerforms me target _)) (fun _ => ?_)
  refine performsBind (mayQuietly (guardActivePerforms me target _)) (fun _ => ?_)
  refine performsBind (performsMapError (performsMono ?_ (updatePerforms id _ _ _))) (fun updated => ?_)
  · rintro o (quiet | ⟨changes,rfl⟩)
    · exact .inl quiet
    · exact .inr True.intro
  · cases updated <;> exact True.intro

theorem updateUserPerforms (token : Option Token) (id : Int) (body : UserUpdate) :
    Does (Request.May (.updateUser token id body)) (updateUser settings token id body) := by
  rw [updateUserParts]
  refine performsBind (mayQuietly (adminPerforms token)) (fun me => performsThen (.inl True.intro) (fun (found : Option User) => ?_))
  cases found with
  | none => exact True.intro
  | some target =>
    refine performsBind ?_ (fun _ => afterPasswordPerforms token me target id body)
    unfold settingPassword
    cases body.password with
    | none => exact True.intro
    | some password =>
      refine performsMapError (performsMono ?_ (setPasswordPerforms settings id password))
      rintro o (rfl | ⟨hash,rfl⟩)
      · exact .inl True.intro
      · exact .inr True.intro

theorem deleteUserPerforms (token : Option Token) (id : Int) (hard : Bool) :
    Does (Request.May (.deleteUser token id hard)) (deleteUser token id hard) := by
  refine performsBind (mayQuietly (adminPerforms token)) (fun me => ⟨.inl True.intro,fun found => ?_⟩)
  cases found with
  | none => exact True.intro
  | some target =>
    refine performsIf (fun _ => True.intro) (fun _ => performsBind (mayQuietly (guardLastPerforms target)) (fun _ => ?_))
    refine performsIf (fun _ => ⟨.inr True.intro,fun _ => True.intro⟩) (fun _ => ?_)
    refine performsBind (performsMono ?_ (updatePerforms id _ _ _)) (fun _ => ⟨.inr True.intro,fun _ => ⟨.inl True.intro,fun updated => ?_⟩⟩)
    · rintro o (quiet | ⟨changes,rfl⟩)
      · exact .inl quiet
      · exact .inr True.intro
    · cases updated <;> exact True.intro

theorem revokeAllPerforms (token : Option Token) :
    Does (Request.May (.revokeAll token)) (revokeAll settings token) := by
  unfold revokeAll
  exact performsBind (mayQuietly (adminPerforms token)) (fun _ => ⟨.inl True.intro,fun _ => ⟨.inr True.intro,fun _ =>
    ⟨.inr True.intro,fun _ => True.intro⟩⟩⟩)

theorem revokeOnePerforms (token : Option Token) (id : Int) :
    Does (Request.May (.revokeOne token id)) (revokeOne settings token id) := by
  unfold revokeOne
  refine performsBind (mayQuietly (adminPerforms token)) (fun _ => ⟨.inl True.intro,fun found => ?_⟩)
  cases found with
  | none => exact True.intro
  | some target =>
    exact ⟨.inr True.intro,fun _ => performsIf (fun _ => ⟨.inr True.intro,fun _ => True.intro⟩) (fun _ => True.intro)⟩

theorem handlePerforms (r : Request) : Does (fun o => o.quiet ∨ r.writes o) (r.handle settings) := by
  cases r with
  | login username password => exact loginPerforms settings username password
  | me token => exact performsBind (mayQuietly (currentPerforms token)) (fun _ => True.intro)
  | changePassword token body => exact changePasswordPerforms settings token body
  | createUser token body => exact createUserPerforms settings token body
  | updateUser token id body => exact updateUserPerforms settings token id body
  | deleteUser token id hard => exact deleteUserPerforms token id hard
  | revokeAll token => exact revokeAllPerforms settings token
  | revokeOne token id => exact revokeOnePerforms settings token id

end Endpoints
end Moadian.Auth
