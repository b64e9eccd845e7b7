import Moadian.Auth.Refusals
import Moadian.Auth.Registered
import Moadian.Codec.Base64
import Moadian.Codec.Encoding

/-! A password that a request has set, and the login that presents it: the store keeps
the hash of the password without the white space around it. -/
namespace Moadian.Auth
open Resumption

/-! A hash that is stored, and what is verified against it. -/

structure Settings.Exact (settings : Settings) : Prop where
  hashes : ∀ password salt, HexText salt → ∃ digest, settings.pbkdf2 password salt = some digest ∧ '$' ∉ digest.toList
  injective : ∀ p q salt digest, HexText salt → settings.pbkdf2 p salt = some digest → settings.pbkdf2 q salt = some digest →
    p = q

theorem Settings.Exact.plain {settings : Settings} (exact_ : settings.Exact) {password salt digest : String} (hex : HexText salt)
    (hashed : settings.pbkdf2 password salt = some digest) : '$' ∉ digest.toList := by
  obtain ⟨digest',own,plain⟩ := exact_.hashes password salt hex
  cases hashed.symm.trans own
  exact plain

section Verify
variable {settings : Settings} {w w' : World}

theorem hexNever {salt : String} (hex : HexText salt) : '$' ∉ salt.toList ∧ salt ≠ "" := by
  obtain ⟨long,digits⟩ := hex
  constructor
  · intro member
    exact absurd (digits _ member) (by decide)
  · rintro rfl
    cases long

theorem hashParts {salt digest : String} (hex : HexText salt) (plain : '$' ∉ digest.toList) :
    Codec.split '$' (hashText salt digest).toList = ["pbkdf2".toList,salt.toList,digest.toList] := by
  have text : (hashText salt digest).toList = "pbkdf2".toList ++ '$' :: (salt.toList ++ '$' :: digest.toList) := by
    simp [hashText]
  rw [text,Codec.splitAt (by decide),Codec.splitAt (hexNever hex).1,Codec.splitNever plain]

theorem verifyAlone (exact_ : settings.Exact) {stored presented salt digest : String} {out : Except Error Bool} (hex : HexText salt)
    (hashed : settings.pbkdf2 stored salt = some digest)
    (ended : Alone w (verifyPassword settings presented (hashText salt digest)) out w') :
    out = .ok (decide (presented = stored)) ∧ w' = w := by
  have plain := exact_.plain hex hashed
  obtain ⟨other,hashed',plain'⟩ := exact_.hashes presented salt hex
  have same : other = digest ↔ presented = stored := by
    constructor
    · intro equal
      rw [equal] at hashed'
      exact exact_.injective _ _ salt digest hex hashed' hashed
    · intro equal
      rw [equal,hashed] at hashed'
      exact (Option.some.inj hashed').symm
  unfold verifyPassword at ended
  rw [hashParts hex plain] at ended
  have candidate : hashPassword settings presented salt = Prog.ret (hashText salt other) := by
    unfold hashPassword
    rw [if_neg (hexNever hex).2]
    simp only [Prog.bindRet,hashed']
    rfl
  simp only [String.ofList_toList,candidate,Prog.bindRet,hashParts hex plain'] at ended
  obtain ⟨rfl,rfl⟩ := endsRet.mp ended
  have compared : (other.toList == digest.toList) = decide (presented = stored) := by
    rw [Bool.eq_iff_iff,beq_iff_eq,String.toList_inj,same,decide_eq_true_iff]
  exact ⟨congrArg Except.ok compared,rfl⟩

theorem loginAlone (exact_ : settings.Exact) (registered : Registered w) {id : Int} {row : Account}
    (there : w.accounts.get id = some row) {name presented stored salt digest : String} (named : strip name = row.username)
    (active : row.isActive = true) (hex : HexText salt) (hashed : settings.pbkdf2 stored salt = some digest)
    (hash : row.passwordHash = hashText salt digest) {out : Except Error Reply}
    (ended : Alone w (login settings name presented) out w') :
    (∃ token user, out = .ok (.session token user) ∧ user.id = id) ↔ presented = stored := by
  unfold login at ended
  obtain ⟨d,_,ended⟩ := aloneThen.mp ended
  have found : ((w.tick d.elapsed).perform d.hex (.byUsername (strip name))).1 = some (row.user id) := by
    have own := byName registered there
    rw [← named] at own
    exact congrArg (Option.map (fun r : Int × Account => r.2.user r.1)) own
  simp only [found] at ended
  obtain ⟨d',_,ended⟩ := aloneThen.mp ended
  have kept : ((((w.tick d.elapsed).perform d.hex (.byUsername (strip name))).2.tick d'.elapsed).perform d'.hex
      (.passwordHash (row.user id).id)).1 = some (hashText salt digest) := by
    rw [← hash]
    exact congrArg (Option.map (·.passwordHash)) there
  have some_ : hashText salt digest ≠ "" := by
    intro none_
    have parts := hashParts hex (exact_.plain hex hashed)
    rw [none_] at parts
    cases parts
  simp only [kept,if_neg some_] at ended
  have on : (!(row.user id).isActive) = false := by
    rw [show (row.user id).isActive = row.isActive from rfl,active]
    rfl
  rcases endsBind.mp ended with ⟨e,failed,_⟩ | ⟨verified,w₁,checked,ended⟩
  · cases (verifyAlone exact_ hex hashed failed).1
  · obtain ⟨same,rfl⟩ := verifyAlone exact_ hex hashed checked
    cases same
    by_cases right : presented = stored
    · simp only [right,decide_true,Bool.not_true,Bool.false_eq_true,if_false,on] at ended
      obtain ⟨d'',_,ended⟩ := aloneThen.mp ended
      obtain ⟨rfl,_⟩ := endsRet.mp ended
      simp only [right,iff_true]
      exact ⟨_,_,rfl,rfl⟩
    · simp only [right,decide_false,Bool.not_false,if_true] at ended
      obtain ⟨rfl,_⟩ := endsRaise.mp ended
      simp [right]

end Verify

/-! The requests that set a password, and what they store. -/

def Request.sets : Request → Reply → Option (Int × String)
  | .createUser _ body, .account user => some (user.id,body.password)
  | .changePassword (some token) body, _ => some (token.sub,body.newPassword)
  | .updateUser _ id body, _ => body.password.map (fun password => (id,password))
  | _, _ => none

def Accepts (settings : Settings) (w : World) (r : Request) (w₁ : World) (id : Int) (password : String) : Prop :=
  ∃ reply, Alone w (r.handle settings) (.ok reply) w₁ ∧ r.sets reply = some (id,password)

def Request.names (r : Request) (row : Account) (name : String) : Prop := match r with
  | .createUser _ body => name = body.username
  | _ => name = row.username

structure Stores (settings : Settings) (w : World) (id : Int) (password : String) : Prop where
  intro ::
  hash : ∃ row salt digest, w.accounts.get id = some row ∧ HexText salt ∧
    settings.pbkdf2 (strip password) salt = some digest ∧ row.passwordHash = hashText salt digest

def Op.keepsHash (o : Op) : Prop := o.quiet ∨ (∃ id changes, o = .updateUser id changes) ∨ ∃ user ttl, o = .mint user ttl

section Stored
variable {settings : Settings} {w w' : World}

theorem storesKept {α : Type} {p : Handler α} {out : Except Error α} {id : Int} {password : String}
    (keeps : Does Op.keepsHash p) (stores : Stores settings w id password) (ended : Alone w p out w') :
    Stores settings w' id password := by
  refine endsKeep (M := machine) (J := fun w => Stores settings w id password) (fun v o d a v' held keeps answered => ?_)
    keeps stores ended
  have world : ((v.tick d.elapsed).perform d.hex o).2 = v' := congrArg Prod.snd (Option.some.inj answered)
  subst world
  obtain ⟨row,salt,digest,there,known⟩ := held
  rcases keeps with quiet | ⟨j,changes,rfl⟩ | ⟨user,ttl,rfl⟩
  · have same : ((v.tick d.elapsed).perform d.hex o).2.accounts = v.accounts := by
      cases o <;> first | rfl | exact quiet.elim
    exact ⟨row,salt,digest,by rw [same]; exact there,known⟩
  · have hash : ∀ row, (changes.apply row).passwordHash = row.passwordHash := by
      intro row
      unfold Changes.apply
      cases changes.displayName <;> cases changes.role <;> cases changes.isActive <;> rfl
    have after : ((v.accounts.update j changes.apply).get id) = some (if id = j then changes.apply row else row) := by
      rw [Table.getUpdate,there]
      split <;> rfl
    refine ⟨_,salt,digest,?_,known.1,known.2.1,(?_ : (if id = j then changes.apply row else row).passwordHash = _)⟩
    · dsimp only [World.perform]
      split <;> exact after
    · split
      · rw [hash]
        exact known.2.2
      · exact known.2.2
  · exact ⟨row,salt,digest,there,known⟩

theorem storesSet {id : Int} {password : String} {row : Account} (there : w.accounts.get id = some row)
    (ended : Alone w (UserStore.setPassword settings id password) (.ok ()) w') : Stores settings w' id password := by
  rcases setPasswordAlone ended with ⟨_,e,no⟩ | ⟨_,_,salt,digest,time,hex,hashed,set⟩
  · cases no
  · exact ⟨_,salt,digest,by rw [set,Table.getUpdate,if_pos rfl,there]; rfl,hex,hashed,rfl⟩

theorem aloneUnless {α : Type} {c : Prop} [Decidable c] {e : Error} {p : Handler α} {a : α}
    (ended : Alone w (if c then Prog.raise e else p) (.ok a) w') : Alone w p (.ok a) w' := by
  by_cases refused : c
  · rw [if_pos refused] at ended
    exact absurd (endsRaise.mp ended).1 (by simp)
  · rwa [if_neg refused] at ended

theorem createStores {username password displayName role : String} {user : User}
    (ended : Alone w (UserStore.create settings username password displayName role) (.ok user) w') :
    Stores settings w' user.id password ∧ ∀ row ∈ w'.accounts.get user.id, row.username = strip username := by
  unfold UserStore.create at ended
  have ended := aloneUnless (aloneUnless (aloneUnless ended))
  rcases endsBind.mp ended with ⟨e,_,no⟩ | ⟨hash,w₁,hashing,ended⟩
  · cases no
  · obtain ⟨_,⟨e,no⟩ | ⟨salt,digest,hex,hashed,same⟩⟩ := hashAlone hashing
    · cases no
    · cases same
      obtain ⟨d,_,ended⟩ := aloneThen.mp ended
      dsimp only [World.perform] at ended
      split at ended
      · exact absurd (endsRaise.mp ended).1 (by simp)
      · obtain ⟨d',_,ended⟩ := aloneThen.mp ended
        dsimp only [World.perform,World.get,World.tick] at ended
        rw [Table.getInsert,if_pos rfl] at ended
        obtain ⟨same,rfl⟩ := endsRet.mp ended
        cases same
        refine ⟨⟨_,salt,digest,(Table.getInsert _ _ _).trans (if_pos rfl),hex,hashed,rfl⟩,?_⟩
        intro row there
        cases Option.some.inj (there.symm.trans ((Table.getInsert _ _ _).trans (if_pos rfl)))
        rfl

theorem changeStores {token : Token} {body : PasswordChange} {reply : Reply}
    (ended : Alone w (changePassword settings (some token) body) (.ok reply) w') :
    Stores settings w' token.sub body.newPassword := by
  unfold changePassword at ended
  rcases endsBind.mp ended with ⟨e,_,no⟩ | ⟨user,w₁,current,ended⟩
  · cases no
  · obtain ⟨t,given,found,_⟩ := currentAlone current
    cases given
    have own := gotId found
    obtain ⟨row,there,_⟩ := gotUser.mp found
    have same := quietly (currentPerforms (some token)) current
    obtain ⟨d,_,ended⟩ := aloneThen.mp ended
    rcases endsBind.mp ended with ⟨e,_,no⟩ | ⟨verified,w₂,checked,ended⟩
    · cases no
    · have same₂ := quietly (performsMono (fun _ only => only ▸ True.intro) (verifyPerforms settings _ _)) checked
      split at ended
      · simp [refuse] at ended
      · rcases endsBind.mp ended with ⟨e,_,no⟩ | ⟨_,w₃,set,ended⟩
        · cases no
        · obtain ⟨out,set,same'⟩ := endsMapError.mp set
          have fine : out = .ok () := by
            cases out with
            | error e => cases same'
            | ok _ => rfl
          rw [fine,own] at set
          have still : w₂.accounts.get token.sub = some row := by
            rw [same₂]
            exact (congrArg (·.get token.sub) same).trans there
          have stores := storesSet still set
          refine storesKept ?_ stores ended
          refine performsThen (.inl True.intro) (fun (refreshed : Option User) => ?_)
          cases refreshed with
          | none => exact True.intro
          | some refreshed => exact ⟨.inr (.inr ⟨_,_,rfl⟩),fun _ => True.intro⟩

theorem updateStores {token : Option Token} {id : Int} {body : UserUpdate} {reply : Reply} {password : String}
    (asked : body.password = some password) (ended : Alone w (updateUser settings token id body) (.ok reply) w') :
    Stores settings w' id password := by
  rw [updateUserParts] at ended
  rcases endsBind.mp ended with ⟨e,_,no⟩ | ⟨me,w₁,_,ended⟩
  · cases no
  · obtain ⟨d,_,ended⟩ := aloneThen.mp ended
    change Alone (w₁.tick d.elapsed) (updating settings me id body ((w₁.tick d.elapsed).get id)) (.ok reply) w' at ended
    cases found : (w₁.tick d.elapsed).get id with
    | none =>
      rw [found] at ended
      exact absurd (endsRaise.mp ended).1 (by simp)
    | some target =>
      rw [found] at ended
      obtain ⟨row,there,_⟩ := gotUser.mp found
      rcases endsBind.mp ended with ⟨e,_,no⟩ | ⟨_,w₂,set,ended⟩
      · cases no
      · rw [asked] at set
        obtain ⟨out,set,same⟩ := endsMapError.mp set
        have fine : out = .ok () := by
          cases out with
          | error e => cases same
          | ok _ => rfl
        rw [fine] at set
        refine storesKept ?_ (storesSet there set) ended
        refine performsBind (performsMono (fun _ => .inl) (guardRolePerforms me target body.role)) (fun _ => ?_)
        refine performsBind (performsMono (fun _ => .inl) (guardActivePerforms me target body.isActive)) (fun _ => ?_)
        refine performsBind (performsMapError (performsMono (fun o may => ?_) (updatePerforms id _ _ _))) (fun updated => ?_)
        · exact may.imp_right (fun ⟨changes,own⟩ => .inl ⟨id,changes,own⟩)
        · cases updated <;> exact True.intro

theorem acceptedStores {r : Request} {id : Int} {password : String} (accepts : Accepts settings w r w' id password) :
    Stores settings w' id password ∧ ∀ row ∈ w'.accounts.get id, ∀ name, r.names row name → Registered w →
      strip name = row.username := by
  obtain ⟨reply,ended,sets⟩ := accepts
  have own : Registered w → ∀ row ∈ w'.accounts.get id, strip row.username = row.username := by
    intro registered row there
    exact (registeredAlone registered ended).stripped _ ((w'.accounts.memGet id row).mpr there)
  cases r with
  | createUser token body =>
    cases reply with
    | account user =>
      cases Option.some.inj sets
      unfold Request.handle createUser at ended
      rcases endsBind.mp ended with ⟨e,_,no⟩ | ⟨_,w₁,_,ended⟩
      · cases no
      · obtain ⟨d,_,ended⟩ := aloneThen.mp ended
        have ended := aloneUnless ended
        rcases endsBind.mp ended with ⟨e,_,no⟩ | ⟨user',w₂,made,ended⟩
        · cases no
        · obtain ⟨same,rfl⟩ := endsRet.mp ended
          cases same
          obtain ⟨out,made,same⟩ := endsMapError.mp made
          have fine : out = .ok user := by
            cases out with
            | error e => cases same
            | ok _ => cases same; rfl
          rw [fine] at made
          obtain ⟨stores,named⟩ := createStores made
          refine ⟨stores,fun row there name names _ => ?_⟩
          rw [names]
          exact (named row there).symm
    | _ => cases sets
  | changePassword token body =>
    cases token with
    | none => cases reply <;> cases sets
    | some token =>
      cases Option.some.inj sets
      exact ⟨changeStores ended,fun row there name names registered => names ▸ own registered row there⟩
  | updateUser token id' body =>
    obtain ⟨password',asked,same⟩ := Option.map_eq_some_iff.mp sets
    cases same
    exact ⟨updateStores asked ended,fun row there name names registered => names ▸ own registered row there⟩
  | _ => cases reply <;> cases sets

end Stored

section Claimed
variable {settings : Settings} {w w₁ : World} {r : Request} {id : Int} {password name : String} {row₁ row₂ : Account}

theorem laterLogin (exact_ : settings.Exact) (registered : Registered w) (accepts : Accepts settings w r w₁ id password)
    (stored : w₁.accounts.get id = some row₁) (named : r.names row₁ name) (requests : List Request) (moves : Schedule machine)
    (there : ((serve settings w₁ requests).run moves).world.accounts.get id = some row₂) (active : row₂.isActive = true)
    (unchanged : row₂.passwordHash = row₁.passwordHash) {out : Except Error Reply} {w' : World}
    (run : Alone ((serve settings w₁ requests).run moves).world (login settings name password) out w') :
    (∃ token user, out = .ok (.session token user) ∧ user.id = id) ↔ password = strip password := by
  obtain ⟨⟨row,salt,digest,own,hex,hashed,hash⟩,names⟩ := acceptedStores accepts
  cases Option.some.inj (own.symm.trans stored)
  obtain ⟨reply,ended,_⟩ := accepts
  have registered₂ := registeredServe settings (registeredAlone registered ended) requests moves
  have same : strip name = row₂.username := by
    rw [namesKept stored requests moves there]
    exact names row₁ stored name named registered
  exact loginAlone exact_ registered₂ there same active hex hashed (unchanged.trans hash) run

/- A password that a request has set logs the account in, for as long as the account is
active and has the hash that was set, exactly when there is no white space around it. -/
theorem acceptedLogsIn (exact_ : settings.Exact) (registered : Registered w) (accepts : Accepts settings w r w₁ id password)
    (stored : w₁.accounts.get id = some row₁) (named : r.names row₁ name) (requests : List Request) (moves : Schedule machine)
    (there : ((serve settings w₁ requests).run moves).world.accounts.get id = some row₂) (active : row₂.isActive = true)
    (unchanged : row₂.passwordHash = row₁.passwordHash) :
    (∀ out w', Alone ((serve settings w₁ requests).run moves).world (login settings name password) out w' →
      ∃ token user, out = .ok (.session token user) ∧ user.id = id) ↔ strip password = password := by
  have logs := fun out w' (run : Alone ((serve settings w₁ requests).run moves).world (login settings name password) out w') =>
    laterLogin exact_ registered accepts stored named requests moves there active unchanged run
  constructor
  · intro all
    obtain ⟨out,w',run⟩ := aloneEnds ((serve settings w₁ requests).run moves).world (login settings name password)
    exact ((logs out w' run).mp (all out w' run)).symm
  · intro plain out w' run
    exact (logs out w' run).mpr plain.symm

theorem updateAccepts (hashes : settings.Hashes) {token : Option Token} {me target : User}
    (admitted : Alone w (adminUser token) (.ok me) w₁) (there : w.get target.id = some target)
    (long : minPassword ≤ (strip password).length) :
    ∃ w₂ hash time, Accepts settings w (.updateUser token target.id { password := some password }) w₂ target.id password ∧
      w₂.accounts = w.accounts.update target.id (Account.reset hash time) := by
  let body : UserUpdate := { password := some password }
  obtain ⟨beside,updates⟩ := @updatesAs settings _ _ _ _ _ admitted there
  obtain ⟨hash,w₂,set,stored⟩ := setPasswordMay hashes target.id long (Nat.le_refl (w₁.tick 0).clock)
  have setting : Alone (w₁.tick 0) (settingPassword settings target.id body.password) (.ok ()) w₂ :=
    endsMapError.mpr ⟨.ok (),set,rfl⟩
  obtain ⟨out,w₃,rest⟩ := aloneEnds w₂ (afterPassword me target target.id body)
  have never : ¬ LaterRefused me target body := by
    rintro (⟨role,no,_⟩ | ⟨active,no,_⟩ | ⟨name,no,_⟩) <;> cases no
  have fine := mt (afterPasswordAlone (besideSet beside stored) rfl rest).1.mp never
  have run := updates body out w₃ (endsBind.mpr (.inr ⟨(),w₂,setting,rest⟩))
  cases out with
  | error e => exact absurd ⟨e,rfl⟩ fine
  | ok reply =>
    have quiet : Does Op.quiet (afterPassword me target target.id body) :=
      ⟨True.intro,fun updated => by cases updated <;> exact True.intro⟩
    refine ⟨w₃,hash,(w₁.tick 0).clock,⟨reply,run,rfl⟩,(quietly quiet rest).trans (stored.trans ?_)⟩
    exact congrArg (fun accounts : Table Account => accounts.update target.id _) (quietly (adminPerforms token) admitted)

end Claimed

/-! A password with a blank in front, set by an administrator: accepted, and no login
with it. -/
namespace Example

-- A digest that nothing else has, without a `$`.
def encoding : Settings where
  pbkdf2 := fun password _ => some (String.ofList (Codec.unpadded (Codec.encodeUtf8 password.toList)))

theorem encodingExact : encoding.Exact where
  hashes := by
    intro password salt _
    refine ⟨_,rfl,?_⟩
    rw [String.toList_ofList]
    intro member
    obtain ⟨n,small,same⟩ := Codec.unpaddedChars _ _ member
    exact absurd same (by revert n; decide)
  injective := by
    intro p q salt digest _ left right
    have same := Option.some.inj (left.trans right.symm)
    have texts := String.ofList_injective same
    have data := (Codec.repaddedUnpadded (Codec.encodeUtf8 p.toList)).symm.trans
      ((congrArg Codec.repadded texts).trans (Codec.repaddedUnpadded (Codec.encodeUtf8 q.toList)))
    have back := congrArg Codec.decodeUtf8 (Except.ok.inj data)
    rw [Codec.decodeEncoded,Codec.decodeEncoded] at back
    exact String.toList_inj.mp (Option.some.inj back)

def zahra : User := (row "zahra" "admin").user 2

theorem registered : Registered seeded := by
  have rows : seeded.accounts.rows = [(1,row "ali" "admin"),(2,row "zahra" "admin")] := rfl
  have plain : strip "ali" = "ali" ∧ strip "zahra" = "zahra" := by
    unfold strip
    exact ⟨by decide +kernel,by decide +kernel⟩
  constructor
  · rw [rows]
    simp [row,plain]
  · rw [rows]
    simp [row]

theorem long : minPassword ≤ (strip "secret-two").length ∧ minPassword ≤ (strip " secret-two").length := by
  unfold strip
  exact ⟨by decide +kernel,by decide +kernel⟩

theorem hashing_ : encoding.Hashes := fun password salt hex => by
  obtain ⟨digest,hashed,_⟩ := encodingExact.hashes password salt hex
  exact ⟨digest,hashed⟩

def resets (password : String) : Request :=
  .updateUser (some (session 1 "ali" "admin")) 2 { password := some password }

theorem reset_ {password : String} (fits : minPassword ≤ (strip password).length) : ∃ w₁ row₁,
    Accepts encoding seeded (resets password) w₁ 2 password ∧ w₁.accounts.get 2 = some row₁ ∧ row₁.isActive = true ∧
      row₁.username = "zahra" := by
  obtain ⟨w₁,hash,time,accepts,set⟩ := updateAccepts hashing_ admitted (show seeded.get zahra.id = some zahra from rfl) fits
  refine ⟨w₁,Account.reset hash time (row "zahra" "admin"),accepts,?_,rfl,rfl⟩
  rw [set]
  rfl

end Example

theorem acceptedLogsInReset : ∃ w₁, Accepts Example.encoding Example.seeded (Example.resets "secret-two") w₁ 2 "secret-two" ∧
    ∀ out w', Alone w₁ (login Example.encoding "zahra" "secret-two") out w' →
      ∃ token user, out = .ok (.session token user) ∧ user.id = 2 := by
  obtain ⟨w₁,row₁,accepts,stored,active,name⟩ := Example.reset_ Example.long.1
  have plain : strip "secret-two" = "secret-two" := by
    unfold strip
    decide +kernel
  exact ⟨w₁,accepts,(acceptedLogsIn Example.encodingExact Example.registered accepts stored name.symm [] [] stored active
    rfl).mpr plain⟩

theorem paddedNeverLogsIn : ∃ w₁, Accepts Example.encoding Example.seeded (Example.resets " secret-two") w₁ 2 " secret-two" ∧
    (∃ row ∈ w₁.accounts.get 2, row.isActive = true ∧ row.username = "zahra") ∧
    ∀ out w', Alone w₁ (login Example.encoding "zahra" " secret-two") out w' →
      ¬ ∃ token user, out = .ok (.session token user) ∧ user.id = 2 := by
  obtain ⟨w₁,row₁,accepts,stored,active,name⟩ := Example.reset_ Example.long.2
  refine ⟨w₁,accepts,⟨row₁,stored,active,name⟩,fun out w' run logged => ?_⟩
  have plain := (laterLogin Example.encodingExact Example.registered accepts stored name.symm [] [] stored active rfl run).mp logged
  have padded : " secret-two" ≠ strip " secret-two" := by
    unfold strip
    decide +kernel
  exact padded plain

end Moadian.Auth
