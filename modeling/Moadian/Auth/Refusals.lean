import Moadian.Auth.Administrators
import Moadian.Auth.Alone

/-! An update of an account that is refused: the password is set before the role and the
activity are looked at. -/
namespace Moadian.Auth
open Resumption

structure Editable where
  passwordHash : String
  sessionsValidFrom : Option Nat
  displayName : String
  role : String
  isActive : Bool
  deriving DecidableEq, Repr

def Account.editable (row : Account) : Editable :=
  ⟨row.passwordHash,row.sessionsValidFrom,row.displayName,row.role,row.isActive⟩

def editableAt (w : World) (id : Int) : Option Editable := (w.accounts.get id).map Account.editable

-- However the request ends with an error, the account is as it was.
def AtomicOnRefusal (settings : Settings) (w : World) (token : Option Token) (id : Int) (body : UserUpdate) : Prop :=
  ∀ e w', Alone w (updateUser settings token id body) (.error e) w' → editableAt w' id = editableAt w id

/- What is looked at once the password is set: the role must be one there is,
administrators leave their own role and activity alone, and the name that is shown has to
have an encoding. -/
def LaterRefused (me target : User) (body : UserUpdate) : Prop :=
  (∃ role ∈ body.role, role ∉ roles ∨ (role ≠ target.role ∧ target.id = me.id)) ∨
    (∃ active ∈ body.isActive, active ≠ target.isActive ∧ target.id = me.id) ∨
    ∃ name ∈ body.displayName, ¬ Codec.Encodable (UserStore.shownName name)

instance (me target : User) (body : UserUpdate) : Decidable (LaterRefused me target body) := by
  unfold LaterRefused
  infer_instance

structure Beside (w : World) (me target : User) : Prop where
  there : (w.accounts.get target.id).isSome
  other : target.id ≠ me.id → w.otherAdmins target.id ≠ 0

section Guards
variable {w w' : World} {me target : User}

theorem besideOf (active : me.isActive = true) (admin : me.role = "admin") {id : Int} (mine : w.get id = some me)
    (there : (w.accounts.get target.id).isSome) : Beside w me target := by
  refine ⟨there,fun other => ?_⟩
  obtain ⟨row,own,rfl⟩ := gotUser.mp mine
  have role : row.role = "admin" := admin
  have on : row.isActive = true := active
  exact otherAdmins.mpr ⟨id,row,fun same => other same.symm,own,by simp [World.isActiveAdmin,role,on]⟩

theorem besideKept (beside : Beside w me target) (same : w'.accounts = w.accounts) : Beside w' me target := by
  obtain ⟨there,other⟩ := beside
  unfold World.otherAdmins at other
  rw [← same] at there other
  exact ⟨there,other⟩

theorem besideSet (beside : Beside w me target) {f : Account → Account}
    (same : w'.accounts = w.accounts.update target.id f) : Beside w' me target := by
  constructor
  · rw [same,Table.getUpdate,if_pos rfl,Option.isSome_map]
    exact beside.there
  · intro away
    obtain ⟨j,row,other,own,rights⟩ := otherAdmins.mp (beside.other away)
    exact otherAdmins.mpr ⟨j,row,other,by rw [same,Table.getUpdate,if_neg other]; exact own,rights⟩

theorem guardLastAlone {out : Except Error Unit} (others : w.otherAdmins target.id ≠ 0)
    (ended : Alone w (guardLastAdmin target) out w') : out = .ok () := by
  unfold guardLastAdmin at ended
  split at ended
  · obtain ⟨d,_,ended⟩ := aloneThen.mp ended
    split at ended
    · rename_i none_
      exact absurd none_ others
    · exact (endsRet.mp ended).1
  · exact (endsRet.mp ended).1

theorem guardIfAlone {p : Prop} [Decidable p] {out : Except Error Unit} (others : w.otherAdmins target.id ≠ 0)
    (ended : Alone w (if p then guardLastAdmin target else Prog.ret ()) out w') : out = .ok () := by
  split at ended
  · exact guardLastAlone others ended
  · exact (endsRet.mp ended).1

theorem guardRoleAlone {role : Option String} {out : Except Error Unit} (beside : Beside w me target)
    (ended : Alone w (guardRole me target role) out w') :
    (∃ e, out = .error e) ↔ ∃ r ∈ role, r ≠ target.role ∧ (r ∉ roles ∨ target.id = me.id) := by
  cases role with
  | none =>
    obtain ⟨rfl,_⟩ := endsRet.mp ended
    simp
  | some role =>
    simp only [Option.mem_some_iff,exists_eq_left']
    simp only [guardRole] at ended
    split at ended
    · rename_i same
      obtain ⟨rfl,_⟩ := endsRet.mp ended
      simp [same]
    · rename_i changed
      split at ended
      · rename_i unknown
        obtain ⟨rfl,_⟩ := endsRaise.mp ended
        simp [changed,unknown]
      · rename_i known
        split at ended
        · rename_i own
          obtain ⟨rfl,_⟩ := endsRaise.mp ended
          simp [changed,own]
        · rename_i other
          have passes := guardIfAlone (beside.other other) ended
          simp [passes,known,other]

theorem guardActiveAlone {active : Option Bool} {out : Except Error Unit} (beside : Beside w me target)
    (ended : Alone w (guardActive me target active) out w') :
    (∃ e, out = .error e) ↔ ∃ a ∈ active, a ≠ target.isActive ∧ target.id = me.id := by
  cases active with
  | none =>
    obtain ⟨rfl,_⟩ := endsRet.mp ended
    simp
  | some active =>
    simp only [Option.mem_some_iff,exists_eq_left']
    simp only [guardActive] at ended
    split at ended
    · rename_i same
      obtain ⟨rfl,_⟩ := endsRet.mp ended
      simp [same]
    · rename_i changed
      split at ended
      · rename_i own
        obtain ⟨rfl,_⟩ := endsRaise.mp ended
        simp [changed,own]
      · rename_i other
        have passes := guardIfAlone (beside.other other) ended
        simp [passes,other]

end Guards

section Rest
variable {settings : Settings} {w w' : World} {me target : User}

theorem readBack {id : Int} {out : Except Error (Option User)} (there : (w.accounts.get id).isSome)
    (ended : Alone w (perform (.getUser id)) out w') : ∃ user, out = .ok (some user) := by
  obtain ⟨d,a,w₁,_,answered,rest⟩ := endsOp.mp ended
  cases Option.some.inj answered
  obtain ⟨rfl,_⟩ := endsRet.mp rest
  obtain ⟨row,own⟩ := Option.isSome_iff_exists.mp there
  exact ⟨row.user id,congrArg Except.ok (gotUser.mpr ⟨row,own,rfl⟩)⟩

theorem nameBinds (displayName : Option Codec.PyText) :
    (∃ e, displayName.mapM (fun name => Codec.scalars (UserStore.shownName name)) = .error e) ↔
      ∃ name ∈ displayName, ¬ Codec.Encodable (UserStore.shownName name) := by
  cases displayName with
  | none =>
    have bound : (none : Option Codec.PyText).mapM (fun name => Codec.scalars (UserStore.shownName name)) = .ok none := rfl
    simp [bound]
  | some name =>
    have bound : (some name).mapM (fun name => Codec.scalars (UserStore.shownName name)) =
        (Codec.scalars (UserStore.shownName name)).map some := rfl
    rw [bound]
    simp only [Option.mem_def,Option.some.injEq,exists_eq_left',← Codec.scalarsEncodable]
    cases Codec.scalars (UserStore.shownName name) <;> simp [Except.map]

theorem updateRowAlone {id : Int} {displayName : Option Codec.PyText} {role : Option String} {isActive : Option Bool}
    {disabledAt : Option Nat} {out : Except Error (Option User)} (there : (w.accounts.get id).isSome)
    (ended : Alone w (UserStore.updateRow id displayName role isActive disabledAt) out w') :
    if ∃ name ∈ displayName, ¬ Codec.Encodable (UserStore.shownName name) then (∃ e, out = .error e) ∧ w'.accounts = w.accounts
    else ∃ user, out = .ok (some user) := by
  by_cases empty : displayName.isNone ∧ role.isNone ∧ isActive.isNone
  · have reads : UserStore.updateRow id displayName role isActive disabledAt = perform (.getUser id) := if_pos empty
    rw [reads] at ended
    rw [Option.isNone_iff_eq_none.mp empty.1,if_neg (by simp)]
    exact readBack there ended
  have writes : UserStore.updateRow id displayName role isActive disabledAt = _ := if_neg empty
  rw [writes] at ended
  split at ended
  · rename_i message failed
    rw [if_pos ((nameBinds displayName).mp ⟨message,failed⟩)]
    obtain ⟨same,rfl⟩ := endsRaise.mp ended
    exact ⟨⟨_,same⟩,rfl⟩
  · rename_i name binds
    rw [if_neg (fun no => by obtain ⟨e,failed⟩ := (nameBinds displayName).mpr no; rw [binds] at failed; cases failed)]
    obtain ⟨d,_,ended⟩ := aloneThen.mp ended
    refine readBack ?_ ended
    obtain ⟨row,own⟩ := Option.isSome_iff_exists.mp there
    have after : ∀ changes : Changes, (w.accounts.update id changes.apply).get id = some (changes.apply row) := by
      intro changes
      rw [Table.getUpdate,if_pos rfl,own]
      rfl
    dsimp only [World.perform]
    split
    · exact Option.isSome_iff_exists.mpr ⟨_,after _⟩
    · exact Option.isSome_iff_exists.mpr ⟨_,after _⟩

theorem updateAlone {id : Int} {displayName : Option Codec.PyText} {role : Option String} {isActive : Option Bool}
    {out : Except Error (Option User)} (there : (w.accounts.get id).isSome)
    (ended : Alone w (UserStore.update id displayName role isActive) out w') :
    if (∃ r ∈ role, r ∉ roles) ∨ ∃ name ∈ displayName, ¬ Codec.Encodable (UserStore.shownName name) then
      (∃ e, out = .error e) ∧ w'.accounts = w.accounts
    else ∃ user, out = .ok (some user) := by
  unfold UserStore.update at ended
  by_cases unknown : ∃ r ∈ role, r ∉ roles
  · rw [if_pos (.inl unknown)]
    have any : role.any (fun role => role ∉ roles) = true := by
      obtain ⟨r,rfl,outside⟩ := unknown
      simpa using outside
    rw [if_pos any] at ended
    obtain ⟨same,rfl⟩ := endsRaise.mp ended
    exact ⟨⟨_,same⟩,rfl⟩
  · have any : ¬ role.any (fun role => role ∉ roles) = true := by
      intro any
      obtain ⟨r,rfl⟩ : ∃ r, role = some r := by
        cases role with
        | none => cases any
        | some r => exact ⟨r,rfl⟩
      exact unknown ⟨r,rfl,by simpa using any⟩
    rw [if_neg any] at ended
    simp only [unknown,false_or]
    dsimp only at ended
    split at ended
    · obtain ⟨d,_,ended⟩ := aloneThen.mp ended
      exact updateRowAlone (w := ((w.tick d.elapsed).perform d.hex .now).2) there ended
    · exact updateRowAlone there ended

theorem afterPasswordAlone {id : Int} {body : UserUpdate} {out : Except Error Reply} (beside : Beside w me target)
    (own : target.id = id) (ended : Alone w (afterPassword me target id body) out w') :
    ((∃ e, out = .error e) ↔ LaterRefused me target body) ∧ ((∃ e, out = .error e) → w'.accounts = w.accounts) := by
  unfold afterPassword at ended
  unfold LaterRefused
  rcases endsBind.mp ended with ⟨e,failed,rfl⟩ | ⟨_,w₁,role,ended⟩
  · obtain ⟨r,asked,changed,refused⟩ := (guardRoleAlone beside failed).mp ⟨e,rfl⟩
    refine ⟨⟨fun _ => .inl ⟨r,asked,refused.imp_right (fun same => ⟨changed,same⟩)⟩,fun _ => ⟨e,rfl⟩⟩,fun _ => ?_⟩
    exact quietly (guardRolePerforms me target body.role) failed
  · have same := quietly (guardRolePerforms me target body.role) role
    have passed := mt (guardRoleAlone beside role).mpr (by simp)
    have beside₀ := beside
    have beside := besideKept beside same
    rcases endsBind.mp ended with ⟨e,failed,rfl⟩ | ⟨_,w₂,active,ended⟩
    · obtain ⟨a,asked,refused⟩ := (guardActiveAlone beside failed).mp ⟨e,rfl⟩
      refine ⟨⟨fun _ => .inr (.inl ⟨a,asked,refused⟩),fun _ => ⟨e,rfl⟩⟩,fun _ => ?_⟩
      exact (quietly (guardActivePerforms me target body.isActive) failed).trans same
    · have same := (quietly (guardActivePerforms me target body.isActive) active).trans same
      have passed' := mt (guardActiveAlone beside active).mpr (by simp)
      have there : (w₂.accounts.get id).isSome := by
        rw [← own]
        exact (besideKept beside₀ same).there
      -- What the two guards let pass leaves the roles that nobody knows, and the name.
      have left : ((∃ r ∈ body.role, r ∉ roles ∨ (r ≠ target.role ∧ target.id = me.id)) ∨
          (∃ a ∈ body.isActive, a ≠ target.isActive ∧ target.id = me.id) ∨
          ∃ name ∈ body.displayName, ¬ Codec.Encodable (UserStore.shownName name)) ↔
          (∃ r ∈ body.role, r ∉ roles) ∨ ∃ name ∈ body.displayName, ¬ Codec.Encodable (UserStore.shownName name) := by
        constructor
        · rintro (⟨r,asked,unknown | ⟨changed,mine⟩⟩ | other | unnamed)
          · exact .inl ⟨r,asked,unknown⟩
          · exact absurd ⟨r,asked,changed,.inr mine⟩ passed
          · exact absurd other passed'
          · exact .inr unnamed
        · rintro (⟨r,asked,unknown⟩ | unnamed)
          · exact .inl ⟨r,asked,.inl unknown⟩
          · exact .inr (.inr unnamed)
      rw [left]
      have last := endsBind.mp ended
      rcases last with ⟨e,failed,rfl⟩ | ⟨updated,w₃,done,ended⟩
      · obtain ⟨out',ended,same'⟩ := endsMapError.mp failed
        have result := updateAlone there ended
        split at result
        · rename_i unknown
          exact ⟨⟨fun _ => unknown,fun _ => ⟨e,rfl⟩⟩,fun _ => result.2.trans same⟩
        · obtain ⟨user,rfl⟩ := result
          cases same'
      · obtain ⟨out',done,same'⟩ := endsMapError.mp done
        have result := updateAlone there done
        split at result
        · obtain ⟨⟨e,rfl⟩,_⟩ := result
          cases same'
        · rename_i known
          obtain ⟨user,rfl⟩ := result
          cases same'
          obtain ⟨rfl,_⟩ := endsRet.mp ended
          have fine : ¬ ∃ e, (Except.ok (.account user) : Except Error Reply) = .error e := by simp
          exact ⟨⟨fun no => absurd no fine,fun unknown => absurd unknown known⟩,fun no => absurd no fine⟩

theorem settingAlone {id : Int} {password : Option String} {out : Except Error Unit}
    (ended : Alone w (settingPassword settings id password) out w') :
    w'.accounts = w.accounts ∨ (out = .ok () ∧ ∃ pw ∈ password, minPassword ≤ (strip pw).length ∧
      ∃ hash time, w'.accounts = w.accounts.update id (Account.reset hash time)) := by
  cases password with
  | none =>
    obtain ⟨_,rfl⟩ := endsRet.mp ended
    exact .inl rfl
  | some pw =>
    obtain ⟨out',set,rfl⟩ := endsMapError.mp ended
    rcases setPasswordAlone set with ⟨same,_⟩ | ⟨long,rfl,salt,digest,time,_,_,set⟩
    · exact .inl same
    · exact .inr ⟨rfl,pw,rfl,long,_,time,set⟩

end Rest

section Refused
variable {settings : Settings} {w w' w₁ : World} {token : Option Token} {me target : User}

theorem editableSame (same : w'.accounts = w.accounts) (id : Int) : editableAt w' id = editableAt w id := by
  unfold editableAt
  rw [same]

theorem adminSame {me' : User} {w₂ : World} (admitted : Alone w (adminUser token) (.ok me) w₁)
    (admitted' : Alone w (adminUser token) (.ok me') w₂) : me' = me := by
  obtain ⟨t,rfl,found,_⟩ := adminAlone admitted
  obtain ⟨t',given,found',_⟩ := adminAlone admitted'
  cases given
  rw [found] at found'
  exact (Option.some.inj found').symm

theorem besideAdmin (admitted : Alone w (adminUser token) (.ok me) w₁) (there : w.get target.id = some target) :
    Beside w me target := by
  obtain ⟨t,_,mine,active,admin⟩ := adminAlone admitted
  obtain ⟨row,own,_⟩ := gotUser.mp there
  exact besideOf active admin mine (own ▸ rfl)

theorem updatingKeeps {id : Int} {body : UserUpdate} {e : Error} (beside : Beside w me target) (own : target.id = id)
    (spared : ∀ password ∈ body.password, minPassword ≤ (strip password).length → ¬ LaterRefused me target body)
    (ended : Alone w (updating settings me id body (some target)) (.error e) w') : w'.accounts = w.accounts := by
  rcases endsBind.mp ended with ⟨e',failed,_⟩ | ⟨_,w₁,setting,rest⟩
  · rcases settingAlone failed with same | ⟨no,_⟩
    · exact same
    · cases no
  · rcases settingAlone setting with same | ⟨_,password,asked,long,hash,time,set⟩
    · exact ((afterPasswordAlone (besideKept beside same) own rest).2 ⟨e,rfl⟩).trans same
    · rw [← own] at set
      exact absurd ((afterPasswordAlone (besideSet beside set) own rest).1.mp ⟨e,rfl⟩) (spared password asked long)

theorem updatingLoses (hashes : settings.Hashes) {body : UserUpdate} (beside : Beside w me target)
    {password : String} (asked : body.password = some password) (long : minPassword ≤ (strip password).length)
    (refused : LaterRefused me target body) : ∃ e w', Alone w (updating settings me target.id body (some target)) (.error e) w' ∧
      editableAt w' target.id ≠ editableAt w target.id := by
  obtain ⟨row,there⟩ := Option.isSome_iff_exists.mp beside.there
  have later : w.clock ≤ w.clock + row.sessionsValidFrom.getD 0 + 1 := by omega
  obtain ⟨hash,w₁,set,stored⟩ := setPasswordMay hashes target.id long later
  obtain ⟨out,w₂,rest⟩ := aloneEnds w₁ (afterPassword me target target.id body)
  obtain ⟨ends,keeps⟩ := afterPasswordAlone (besideSet beside stored) rfl rest
  obtain ⟨e,rfl⟩ := ends.mpr refused
  have setting : Alone w (settingPassword settings target.id body.password) (.ok ()) w₁ := by
    rw [asked]
    exact endsMapError.mpr ⟨.ok (),set,rfl⟩
  refine ⟨e,w₂,endsBind.mpr (.inr ⟨(),w₁,setting,rest⟩),?_⟩
  unfold editableAt
  rw [keeps ⟨e,rfl⟩,stored,Table.getUpdate,if_pos rfl,there]
  intro same
  have cutoff := congrArg Editable.sessionsValidFrom (Option.some.inj same)
  have given : some (w.clock + row.sessionsValidFrom.getD 0 + 1) = row.sessionsValidFrom := cutoff
  have read := congrArg (Option.getD · 0) given
  simp only [Option.getD_some] at read
  omega

theorem updatesAs (admitted : Alone w (adminUser token) (.ok me) w₁) (there : w.get target.id = some target) :
    Beside (w₁.tick 0) me target ∧ ∀ body out w', Alone (w₁.tick 0) (updating settings me target.id body (some target)) out w' →
      Alone w (updateUser settings token target.id body) out w' := by
  have same := quietly (adminPerforms token) admitted
  have found : (w₁.tick 0).get target.id = some target := by
    unfold World.get
    rw [← there]
    exact congrArg (fun accounts : Table Account => (accounts.get target.id).map (Account.user target.id)) same
  refine ⟨besideKept (besideAdmin admitted there) same,fun body out w' ended => ?_⟩
  rw [updateUserParts]
  refine endsBind.mpr (.inr ⟨me,w₁,admitted,aloneThen.mpr ⟨{},True.intro,?_⟩⟩)
  change Alone (w₁.tick 0) (updating settings me target.id body ((w₁.tick 0).get target.id)) out w'
  rw [found]
  exact ended

theorem updateLoses (hashes : settings.Hashes) (admitted : Alone w (adminUser token) (.ok me) w₁) {body : UserUpdate}
    (there : w.get target.id = some target) {password : String} (asked : body.password = some password)
    (long : minPassword ≤ (strip password).length) (refused : LaterRefused me target body) :
    ¬ AtomicOnRefusal settings w token target.id body := by
  intro atomic
  have same := quietly (adminPerforms token) admitted
  obtain ⟨beside,updates⟩ := @updatesAs settings _ _ _ _ _ admitted there
  obtain ⟨e,w',ended,lost⟩ := updatingLoses hashes beside asked long refused
  exact lost ((atomic e w' (updates body _ _ ended)).trans (editableSame same target.id).symm)

end Refused

namespace Example

def ali : User := (row "ali" "admin").user 1

theorem admitted : Alone seeded (adminUser (some (session 1 "ali" "admin"))) (.ok ali) seeded := by
  refine endsBind.mpr (.inr ⟨ali,seeded,?_,?_⟩)
  · refine aloneThen.mpr ⟨{},True.intro,?_⟩
    refine aloneThen.mpr ⟨{},True.intro,?_⟩
    refine aloneThen.mpr ⟨{},True.intro,?_⟩
    exact endsRet.mpr ⟨rfl,rfl⟩
  · exact endsRet.mpr ⟨rfl,rfl⟩

theorem hashes : settings.Hashes := fun password salt _ => ⟨password ++ salt,rfl⟩

end Example

end Moadian.Auth
