import Moadian.Json
import Moadian.Resumption.Program
import Moadian.Table

/-! The account store, the clock and the bearer tokens. A statement of the store is one
operation, under its lock; a statement that stamps a row reads the clock under the same
lock, so that the two are one. -/
namespace Moadian.Auth
open Resumption

def roles : List String := ["user","admin"]

def minPassword : Nat := 8

def microsPerSecond : Nat := 1000000

-- Times are microseconds since the epoch; `disabled_at` and `created_at` hold whole seconds.
structure Account where
  username : String
  passwordHash : String
  displayName : String
  role : String
  isActive : Bool := true
  disabledAt : Option Nat := none
  sessionsValidFrom : Option Nat := none
  createdAt : Nat
  deriving DecidableEq, Repr

structure User where
  id : Int
  username : String
  displayName : String
  role : String
  isActive : Bool
  createdAt : Nat
  disabledAt : Option Nat
  sessionsValidFrom : Option Nat
  deriving DecidableEq, Repr

def Account.user (id : Int) (row : Account) : User where
  id := id
  username := row.username
  displayName := if row.displayName = "" then row.username else row.displayName
  role := row.role
  isActive := row.isActive
  createdAt := row.createdAt
  disabledAt := row.disabledAt
  sessionsValidFrom := row.sessionsValidFrom

structure Token where
  sub : Int
  username : String
  role : String
  iat : Nat
  exp : Int
  deriving DecidableEq, Repr

structure Changes where
  displayName : Option String := none
  role : Option String := none
  isActive : Option Bool := none
  disabledAt : Option Nat := none
  deriving DecidableEq, Repr

def Changes.apply (c : Changes) (row : Account) : Account :=
  let row := match c.displayName with
    | none => row
    | some name => { row with displayName := name }
  let row := match c.role with
    | none => row
    | some role => { row with role := role }
  match c.isActive with
    | none => row
    | some active => { row with isActive := active, disabledAt := c.disabledAt }

inductive Op where
  | getUser (id : Int)
  | byUsername (username : String)
  | passwordHash (id : Int)
  | activeAdminCount (excluding : Int)
  | authEpoch
  | insertUser (username passwordHash displayName role : String)
  | setPassword (id : Int) (passwordHash : String)
  | updateUser (id : Int) (changes : Changes)
  | deleteUser (id : Int)
  | revokeUserSessions (id : Int)
  | setAuthEpoch (epoch : Nat)
  | now
  | tokenHex
  | mint (user : User) (ttlHours : Int)
  | decode (token : Token)
  deriving DecidableEq, Repr

-- An `INSERT` may meet the name of another account: an `IntegrityError`.
def Op.Ans : Op → Type
  | getUser _ | byUsername _ => Option User
  | passwordHash _ => Option String
  | activeAdminCount _ | authEpoch | now => Nat
  | insertUser .. => Option Int
  | setPassword .. | updateUser .. | deleteUser _ | revokeUserSessions _ | setAuthEpoch _ => Unit
  | tokenHex => String
  | mint .. => Token
  | decode _ => Bool

abbrev effects : Effects := ⟨Op,Op.Ans⟩

/- What has been done to sessions: a token signed, a cut-off set for one account or for
all, an account deactivated. -/
inductive Mark where
  | minted (token : Token)
  | cutOff (account : Option Int) (time : Nat)
  | deactivated (account : Int)
  deriving DecidableEq, Repr

structure World where
  accounts : Table Account
  epoch : Option Nat := none
  clock : Nat
  log : List Mark := []

structure Decision where
  elapsed : Nat := 0
  hex : String := ""

namespace World

def tick (w : World) (elapsed : Nat) : World := { w with clock := w.clock + elapsed }

def mark (w : World) (m : Mark) : World := { w with log := w.log ++ [m] }

def get (w : World) (id : Int) : Option User := (w.accounts.get id).map (Account.user id)

def isActiveAdmin (row : Account) : Bool := row.role == "admin" && row.isActive

def otherAdmins (w : World) (excluding : Int) : Nat :=
  ((w.accounts.select isActiveAdmin).filter (fun r => r.1 ≠ excluding)).length

def expiry (w : World) (ttlHours : Int) : Int := ((w.clock : Int) + ttlHours * 3600 * microsPerSecond) / microsPerSecond

def token (w : World) (user : User) (ttlHours : Int) : Token :=
  ⟨user.id,user.username,user.role,w.clock,w.expiry ttlHours⟩

def verifies (w : World) (t : Token) : Bool :=
  decide (Mark.minted t ∈ w.log) && decide ((w.clock : Int) < t.exp * microsPerSecond) &&
    decide (t.iat / microsPerSecond * microsPerSecond ≤ w.clock)

def update (w : World) (id : Int) (f : Account → Account) : World := { w with accounts := w.accounts.update id f }

def perform (w : World) (hex : String) : (o : Op) → o.Ans × World
  | .getUser id => (w.get id,w)
  | .byUsername name => ((w.accounts.rows.find? (fun r => r.2.username == name)).map (fun r => r.2.user r.1),w)
  | .passwordHash id => ((w.accounts.get id).map (·.passwordHash),w)
  | .activeAdminCount id => (w.otherAdmins id,w)
  | .authEpoch => (w.epoch.getD 0,w)
  | .insertUser username hash displayName role =>
    if w.accounts.rows.any (fun r => r.2.username == username) then (none,w)
    else (some w.accounts.next,{ w with accounts := w.accounts.insert {
      username := username, passwordHash := hash, displayName := displayName, role := role
      createdAt := w.clock / microsPerSecond } })
  | .setPassword id hash => ((),
      (w.update id (fun row => { row with passwordHash := hash, sessionsValidFrom := some w.clock })).mark
        (.cutOff (some id) w.clock))
  | .updateUser id changes => ((),
      let w := w.update id changes.apply
      if changes.isActive = some false then w.mark (.deactivated id) else w)
  | .deleteUser id => ((),{ w with accounts := w.accounts.delete id })
  | .revokeUserSessions id => ((),
      (w.update id (fun row => { row with sessionsValidFrom := some w.clock })).mark (.cutOff (some id) w.clock))
  | .setAuthEpoch epoch => ((),{ w with epoch := some epoch }.mark (.cutOff none epoch))
  | .now => (w.clock,w)
  | .tokenHex => (hex,w)
  | .mint user ttlHours => (w.token user ttlHours,w.mark (.minted (w.token user ttlHours)))
  | .decode token => (w.verifies token,w)

def respond (o : Op) (d : Decision) (w : World) : Option (o.Ans × World) := some ((w.tick d.elapsed).perform d.hex o)

end World

abbrev machine : Machine effects where
  World := World
  Input := fun _ => Decision
  respond := World.respond

end Moadian.Auth
