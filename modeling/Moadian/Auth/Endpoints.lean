import Moadian.Auth.Accounts
import Moadian.Codec.Split
import Moadian.Codec.Surrogates

/-! The account endpoints. Who calls is resolved anew for every request. -/
namespace Moadian.Auth
open Resumption
open Codec (PyText scalars)

inductive Error where
  | http (status : Nat) (detail : String)
  | valueError (message : String)
  | integrityError
  | assertionError
  deriving DecidableEq, Repr

abbrev Handler (α : Type) := Prog effects Error α

def perform (o : Op) : Handler o.Ans := Prog.call (E := effects) o

def refuse {α : Type} (status : Nat) (detail : String) : Handler α := Prog.raise (.http status detail)

def Error.refusal : Error → Error
  | .valueError message => .http 422 message
  | .integrityError => .http 409 "این نام کاربری قبلاً ثبت شده است"
  | e => e

/- `pbkdf2` is `pbkdf2_hmac` of a password and a salt in hexadecimal digits; it fails on
a salt that is none. -/
structure Settings where
  ttlHours : Int := 12
  pbkdf2 : String → String → Option String

@[irreducible] def strip (s : String) : String :=
  String.ofList ((s.toList.dropWhile Json.isSpace).reverse.dropWhile Json.isSpace).reverse

-- An empty salt is no salt.
def hashPassword (settings : Settings) (password salt : String) : Handler String := do
  let salt : String ← if salt = "" then perform .tokenHex else Prog.ret salt
  match settings.pbkdf2 password salt with
  | none => Prog.raise (.valueError "non-hexadecimal number found in fromhex() arg")
  | some digest => Prog.ret ("pbkdf2$" ++ salt ++ "$" ++ digest)

def verifyPassword (settings : Settings) (password stored : String) : Handler Bool :=
  match Codec.split '$' stored.toList with
  | [_,salt,digest] => do
    let candidate ← hashPassword settings password (String.ofList salt)
    Prog.ret ((Codec.split '$' candidate.toList)[2]? == some digest)
  | _ => Prog.ret false

def makeToken (settings : Settings) (user : User) : Handler Token := perform (.mint user settings.ttlHours)

-- The later of the two cut-offs; a cut-off of zero counts as none.
def cutoff (epoch : Nat) (user : User) : Nat :=
  match user.sessionsValidFrom with
  | none => epoch
  | some time => if time = 0 then epoch else max epoch time

def expelled (epoch : Nat) (user : User) (issued : Nat) : Bool :=
  cutoff epoch user != 0 && decide (issued < cutoff epoch user)

def currentUser (token : Option Token) : Handler User :=
  match token with
  | none => refuse 401 "برای ادامه وارد شوید"
  | some token => do
    let valid : Bool ← perform (.decode token)
    if !valid then refuse 401 "نشست نامعتبر یا منقضی است — دوباره وارد شوید"
    else do
      let found : Option User ← perform (.getUser token.sub)
      match found with
      | none => refuse 401 "کاربر یافت نشد"
      | some user =>
        if !user.isActive then refuse 401 "حساب کاربری غیرفعال شده است"
        else do
          let epoch : Nat ← perform .authEpoch
          if expelled epoch user token.iat then refuse 401 "نشست شما پایان یافته است — دوباره وارد شوید"
          else Prog.ret user

def adminUser (token : Option Token) : Handler User := do
  let user ← currentUser token
  if user.role = "admin" then Prog.ret user
  else refuse 403 "این بخش تنها برای مدیر سامانه در دسترس است"

namespace UserStore

def shortPassword : String := "گذرواژه باید دست‌کم 8 نویسه باشد"

def unknownRole : String := "نقش باید یکی از ('user', 'admin') باشد"

-- `^[a-zA-Z0-9._-]{3,64}$`, of a text that ends in no line break.
def usernameMatches (username : String) : Bool :=
  decide (3 ≤ username.length) && decide (username.length ≤ 64) && username.toList.all (fun c =>
    ('a' ≤ c && c ≤ 'z') || ('A' ≤ c && c ≤ 'Z') || ('0' ≤ c && c ≤ '9') || c == '.' || c == '_' || c == '-')

def first128 (s : String) : String := String.ofList (s.toList.take 128)

def create (settings : Settings) (username password displayName role : String) : Handler User :=
  let username := strip username
  if !usernameMatches username then
    Prog.raise (.valueError "نام کاربری: ۳ تا ۶۴ نویسه از حروف و ارقام انگلیسی و . _ -")
  else if (strip password).length < minPassword then Prog.raise (.valueError shortPassword)
  else if role ∉ roles then Prog.raise (.valueError unknownRole)
  else do
    let hash ← hashPassword settings (strip password) ""
    let shown := if strip displayName = "" then username else strip displayName
    let inserted : Option Int ← perform (.insertUser username hash (first128 shown) role)
    match inserted with
    | none => Prog.raise .integrityError
    | some id => do
      let user : Option User ← perform (.getUser id)
      match user with
      | none => Prog.raise .assertionError
      | some user => Prog.ret user

def setPassword (settings : Settings) (id : Int) (password : String) : Handler Unit :=
  if (strip password).length < minPassword then Prog.raise (.valueError shortPassword)
  else do
    let hash ← hashPassword settings (strip password) ""
    perform (.setPassword id hash)

def shownName (name : PyText) : PyText := (PyText.strip Json.isSpace name).take 128

-- The statement is run when there is something to set; a name is bound as UTF-8.
def updateRow (id : Int) (displayName : Option PyText) (role : Option String) (isActive : Option Bool)
    (disabledAt : Option Nat) : Handler (Option User) :=
  if displayName.isNone ∧ role.isNone ∧ isActive.isNone then perform (.getUser id)
  else match displayName.mapM (fun name => scalars (shownName name)) with
    | .error message => Prog.raise (.valueError message)
    | .ok name => do
      perform (.updateUser id ⟨name.map String.ofList,role,isActive,disabledAt⟩)
      perform (.getUser id)

-- The clock is read for an account that is deactivated, before the lock is taken.
def update (id : Int) (displayName : Option PyText) (role : Option String) (isActive : Option Bool) :
    Handler (Option User) := do
  if role.any (fun role => role ∉ roles) then Prog.raise (.valueError unknownRole)
  else do
    let disabledAt : Option Nat ←
      if isActive = some false then do
        let time : Nat ← perform .now
        Prog.ret (some (time / microsPerSecond))
      else Prog.ret none
    updateRow id displayName role isActive disabledAt

end UserStore

structure PasswordChange where
  currentPassword : String
  newPassword : String
  long : minPassword ≤ newPassword.length

structure UserCreate where
  username : String
  password : String
  displayName : String := ""
  role : String := "user"

structure UserUpdate where
  displayName : Option PyText := none
  role : Option String := none
  password : Option String := none
  isActive : Option Bool := none

inductive Reply where
  | session (token : Token) (user : User)
  | account (user : User)
  | passwordChanged (token : Token)
  | deleted
  | deactivated (user : User)
  | everyoneOut (epoch : Nat) (token : Token)
  | signedOut (token : Option Token)
  deriving DecidableEq, Repr

def notFound {α : Type} : Handler α := refuse 404 "کاربر یافت نشد"

section Endpoints
variable (settings : Settings)

def login (username password : String) : Handler Reply := do
  let user : Option User ← perform (.byUsername (strip username))
  let stored : Option String ← match user with
    | some user => perform (.passwordHash user.id)
    | none => Prog.ret none
  let stored := match stored with
    | some hash => if hash = "" then "pbkdf2$00$00" else hash
    | none => "pbkdf2$00$00"
  let verified ← verifyPassword settings password stored
  if !verified then refuse 401 "نام کاربری یا گذرواژه نادرست است"
  else match user with
    | none => Prog.raise .assertionError
    | some user =>
      if !user.isActive then refuse 403 "این حساب غیرفعال شده است — با مدیر سامانه تماس بگیرید"
      else do
        let token ← makeToken settings user
        Prog.ret (.session token user)

def me (token : Option Token) : Handler Reply := do
  let user ← currentUser token
  Prog.ret (.account user)

def changePassword (token : Option Token) (body : PasswordChange) : Handler Reply := do
  let user ← currentUser token
  let stored : Option String ← perform (.passwordHash user.id)
  let verified ← verifyPassword settings body.currentPassword (stored.getD "")
  if !verified then refuse 400 "گذرواژه فعلی نادرست است"
  else do
    (UserStore.setPassword settings user.id body.newPassword).mapError Error.refusal
    let refreshed : Option User ← perform (.getUser user.id)
    match refreshed with
    | none => Prog.raise .assertionError
    | some refreshed => do
      let token ← makeToken settings refreshed
      Prog.ret (.passwordChanged token)

def guardLastAdmin (target : User) : Handler Unit :=
  if target.role = "admin" ∧ target.isActive = true then do
    let others : Nat ← perform (.activeAdminCount target.id)
    if others = 0 then refuse 400 "این تنها مدیر فعال سامانه است — ابتدا مدیر دیگری تعریف کنید"
    else Prog.ret ()
  else Prog.ret ()

def createUser (token : Option Token) (body : UserCreate) : Handler Reply := do
  let _ ← adminUser token
  let taken : Option User ← perform (.byUsername (strip body.username))
  if taken.isSome then refuse 409 "این نام کاربری قبلاً ثبت شده است"
  else do
    let user ← (UserStore.create settings body.username body.password body.displayName body.role).mapError Error.refusal
    Prog.ret (.account user)

def guardRole (me target : User) : Option String → Handler Unit
  | none => Prog.ret ()
  | some role =>
    if role = target.role then Prog.ret ()
    else if role ∉ roles then refuse 422 UserStore.unknownRole
    else if target.id = me.id then refuse 400 "نمی‌توانید نقش حساب خودتان را تغییر دهید"
    else if target.role = "admin" then guardLastAdmin target
    else Prog.ret ()

def guardActive (me target : User) : Option Bool → Handler Unit
  | none => Prog.ret ()
  | some active =>
    if active = target.isActive then Prog.ret ()
    else if target.id = me.id then refuse 400 "نمی‌توانید حساب خودتان را غیرفعال کنید"
    else if !active then guardLastAdmin target
    else Prog.ret ()

def updateUser (token : Option Token) (id : Int) (body : UserUpdate) : Handler Reply := do
  let me ← adminUser token
  let found : Option User ← perform (.getUser id)
  match found with
  | none => notFound
  | some target => do
    match body.password with
    | none => Prog.ret ()
    | some password => (UserStore.setPassword settings id password).mapError Error.refusal
    guardRole me target body.role
    guardActive me target body.isActive
    let updated ← (UserStore.update id body.displayName body.role body.isActive).mapError Error.refusal
    match updated with
    | none => Prog.raise .assertionError
    | some updated => Prog.ret (.account updated)

def deleteUser (token : Option Token) (id : Int) (hard : Bool) : Handler Reply := do
  let me ← adminUser token
  let found : Option User ← perform (.getUser id)
  match found with
  | none => notFound
  | some target =>
    if target.id = me.id then refuse 400 "نمی‌توانید حساب خودتان را حذف کنید"
    else do
      guardLastAdmin target
      if hard then do
        perform (.deleteUser id)
        Prog.ret .deleted
      else do
        let _ ← UserStore.update id none none (some false)
        perform (.revokeUserSessions id)
        let updated : Option User ← perform (.getUser id)
        match updated with
        | none => Prog.raise .assertionError
        | some updated => Prog.ret (.deactivated updated)

-- The clock is read before the lock is taken.
def revokeAll (token : Option Token) : Handler Reply := do
  let me ← adminUser token
  let epoch : Nat ← perform .now
  perform (.setAuthEpoch epoch)
  let token ← makeToken settings me
  Prog.ret (.everyoneOut epoch token)

def revokeOne (token : Option Token) (id : Int) : Handler Reply := do
  let me ← adminUser token
  let found : Option User ← perform (.getUser id)
  match found with
  | none => notFound
  | some target => do
    perform (.revokeUserSessions id)
    if target.id = me.id then do
      let token ← makeToken settings me
      Prog.ret (.signedOut (some token))
    else Prog.ret (.signedOut none)

inductive Request where
  | login (username password : String)
  | me (token : Option Token)
  | changePassword (token : Option Token) (body : PasswordChange)
  | createUser (token : Option Token) (body : UserCreate)
  | updateUser (token : Option Token) (id : Int) (body : UserUpdate)
  | deleteUser (token : Option Token) (id : Int) (hard : Bool)
  | revokeAll (token : Option Token)
  | revokeOne (token : Option Token) (id : Int)

def Request.handle : Request → Handler Reply
  | login username password => Auth.login settings username password
  | me token => Auth.me token
  | changePassword token body => Auth.changePassword settings token body
  | createUser token body => Auth.createUser settings token body
  | updateUser token id body => Auth.updateUser settings token id body
  | deleteUser token id hard => Auth.deleteUser token id hard
  | revokeAll token => Auth.revokeAll settings token
  | revokeOne token id => Auth.revokeOne settings token id

end Endpoints
end Moadian.Auth
