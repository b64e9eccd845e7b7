import Moadian.Auth.Writes
import Moadian.Resumption.Ends

/-! A request alone: what its parts read of the store, and what they leave of it. -/
namespace Moadian.Auth
open Resumption

def isHexDigit (c : Char) : Bool := ('0' ≤ c && c ≤ '9') || ('a' ≤ c && c ≤ 'f')

def HexText (text : String) : Prop := text.length = 32 ∧ ∀ c ∈ text.toList, isHexDigit c = true

def drawn : (o : Op) → Decision → Prop
  | .tokenHex, d => HexText d.hex
  | _, _ => True

abbrev Alone {α : Type} (w : World) (p : Handler α) (out : Except Error α) (w' : World) : Prop :=
  Ends machine drawn w p out w'

def Settings.Hashes (settings : Settings) : Prop :=
  ∀ password salt, HexText salt → ∃ digest, settings.pbkdf2 password salt = some digest

def hashText (salt digest : String) : String := "pbkdf2$" ++ salt ++ "$" ++ digest

def Account.reset (hash : String) (time : Nat) (row : Account) : Account :=
  { row with passwordHash := hash, sessionsValidFrom := some time }

section Parts
variable {α : Type} {settings : Settings} {w w' w'' : World}

theorem aloneThen {o : Op} {f : o.Ans → Handler α} {out : Except Error α} : Alone w (perform o >>= f) out w'' ↔
    ∃ d, drawn o d ∧ Alone ((w.tick d.elapsed).perform d.hex o).2 (f ((w.tick d.elapsed).perform d.hex o).1) out w'' := by
  unfold perform
  rw [Prog.bindCall,Alone,endsOp]
  constructor
  · rintro ⟨d,a,w₁,fits,answered,rest⟩
    have same : (w.tick d.elapsed).perform d.hex o = (a,w₁) := Option.some.inj answered
    refine ⟨d,fits,?_⟩
    rw [same]
    exact rest
  · rintro ⟨d,fits,rest⟩
    exact ⟨d,_,_,fits,rfl,rest⟩

theorem aloneEnds (w : World) (p : Handler α) : ∃ out w', Alone w p out w' := by
  refine endsSome (M := machine) (fun o w => ?_) w p
  refine ⟨{ hex := String.ofList (List.replicate 32 '0') },_,_,?_,rfl⟩
  cases o with
  | tokenHex => exact ⟨by decide +kernel,by simp [isHexDigit]⟩
  | _ => exact True.intro

theorem quietly {p : Handler α} {out : Except Error α} (quiet : Does Op.quiet p) (ended : Alone w p out w') :
    w'.accounts = w.accounts := by
  refine endsKeep (M := machine) (J := fun w' : World => w'.accounts = w.accounts)
    (fun w₁ o d a w₂ same quiet answered => ?_) quiet rfl ended
  have world : ((w₁.tick d.elapsed).perform d.hex o).2 = w₂ := congrArg Prod.snd (Option.some.inj answered)
  rw [← same,← world]
  cases o <;> first | rfl | exact quiet.elim

theorem gotUser {id : Int} {user : User} : w.get id = some user ↔ ∃ row, w.accounts.get id = some row ∧ user = row.user id := by
  rw [World.get,Option.map_eq_some_iff]
  constructor
  · rintro ⟨row,there,same⟩
    exact ⟨row,there,same.symm⟩
  · rintro ⟨row,there,same⟩
    exact ⟨row,there,same.symm⟩

theorem currentAlone {token : Option Token} {user : User} (ended : Alone w (currentUser token) (.ok user) w') :
    ∃ t, token = some t ∧ w.get t.sub = some user ∧ user.isActive = true := by
  unfold currentUser at ended
  cases token with
  | none => simp [refuse,Alone] at ended
  | some t =>
    refine ⟨t,rfl,?_⟩
    obtain ⟨d,_,ended⟩ := aloneThen.mp ended
    split at ended
    · simp [refuse] at ended
    · obtain ⟨d',_,ended⟩ := aloneThen.mp ended
      split at ended
      · simp [refuse] at ended
      · rename_i found
        split at ended
        · simp [refuse] at ended
        · rename_i active
          obtain ⟨d'',_,ended⟩ := aloneThen.mp ended
          split at ended
          · simp [refuse] at ended
          · obtain ⟨same,_⟩ := endsRet.mp ended
            cases same
            exact ⟨found,by simpa using active⟩

theorem adminAlone {token : Option Token} {me : User} (ended : Alone w (adminUser token) (.ok me) w') :
    ∃ t, token = some t ∧ w.get t.sub = some me ∧ me.isActive = true ∧ me.role = "admin" := by
  unfold adminUser at ended
  rcases endsBind.mp ended with ⟨e,_,no⟩ | ⟨user,w₁,first,last⟩
  · cases no
  · split at last
    · rename_i admin
      obtain ⟨same,_⟩ := endsRet.mp last
      cases same
      obtain ⟨t,given,found,active⟩ := currentAlone first
      exact ⟨t,given,found,active,admin⟩
    · simp [refuse] at last

theorem hashAlone {password : String} {out : Except Error String}
    (ended : Alone w (hashPassword settings password "") out w') : w'.accounts = w.accounts ∧
      ((∃ e, out = .error e) ∨ ∃ salt digest, HexText salt ∧ settings.pbkdf2 password salt = some digest ∧
        out = .ok (hashText salt digest)) := by
  refine ⟨quietly (performsMono (fun _ only => only ▸ True.intro) (hashPerforms settings password "")) ended,?_⟩
  unfold hashPassword at ended
  rw [if_pos rfl] at ended
  obtain ⟨d,fits,ended⟩ := aloneThen.mp ended
  dsimp only [World.perform] at ended
  cases hashed : settings.pbkdf2 password d.hex with
  | none =>
    simp only [hashed] at ended
    exact .inl ⟨_,(endsRaise.mp ended).1⟩
  | some digest =>
    simp only [hashed] at ended
    exact .inr ⟨d.hex,digest,fits,hashed,(endsRet.mp ended).1⟩

theorem hashMay (hashes : settings.Hashes) (w : World) (password : String) :
    ∃ hash w', Alone w (hashPassword settings password "") (.ok hash) w' ∧ w'.accounts = w.accounts ∧ w'.clock = w.clock := by
  let salt := String.ofList (List.replicate 32 '0')
  have fits : HexText salt := ⟨by decide +kernel,by simp [salt,isHexDigit]⟩
  obtain ⟨digest,hashed⟩ := hashes password salt fits
  refine ⟨hashText salt digest,w.tick 0,?_,rfl,rfl⟩
  unfold hashPassword
  rw [if_pos rfl]
  refine aloneThen.mpr ⟨{ hex := salt },fits,?_⟩
  dsimp only [World.perform]
  simp only [hashed]
  exact endsRet.mpr ⟨rfl,rfl⟩

theorem setPasswordAlone {id : Int} {password : String} {out : Except Error Unit}
    (ended : Alone w (UserStore.setPassword settings id password) out w') :
    (w'.accounts = w.accounts ∧ ∃ e, out = .error e) ∨
    (minPassword ≤ (strip password).length ∧ out = .ok () ∧ ∃ salt digest time, HexText salt ∧
      settings.pbkdf2 (strip password) salt = some digest ∧
      w'.accounts = w.accounts.update id (Account.reset (hashText salt digest) time)) := by
  unfold UserStore.setPassword at ended
  split at ended
  · obtain ⟨same,rfl⟩ := endsRaise.mp ended
    exact .inl ⟨rfl,_,same⟩
  · rename_i long
    rcases endsBind.mp ended with ⟨e,failed,same⟩ | ⟨hash,w₁,first,last⟩
    · exact .inl ⟨(hashAlone failed).1,e,same⟩
    · obtain ⟨kept,⟨e,no⟩ | ⟨salt,digest,fits,hashed,same⟩⟩ := hashAlone first
      · cases no
      · cases same
        obtain ⟨d,a,w₂,_,answered,rest⟩ := endsOp.mp last
        cases Option.some.inj answered
        obtain ⟨rfl,rfl⟩ := endsRet.mp rest
        refine .inr ⟨by omega,rfl,salt,digest,(w₁.tick d.elapsed).clock,fits,hashed,?_⟩
        rw [← kept]
        rfl

theorem setPasswordMay (hashes : settings.Hashes) (id : Int) {password : String}
    (long : minPassword ≤ (strip password).length) {time : Nat} (later : w.clock ≤ time) :
    ∃ hash w', Alone w (UserStore.setPassword settings id password) (.ok ()) w' ∧
      w'.accounts = w.accounts.update id (Account.reset hash time) := by
  obtain ⟨hash,w₁,first,kept,clock⟩ := hashMay hashes w (strip password)
  let d : Decision := { elapsed := time - w₁.clock }
  have at_ : (w₁.tick d.elapsed).clock = time := by
    have sum : (w₁.tick d.elapsed).clock = w₁.clock + (time - w₁.clock) := rfl
    omega
  refine ⟨hash,((w₁.tick d.elapsed).perform d.hex (.setPassword id hash)).2,?_,?_⟩
  · unfold UserStore.setPassword
    rw [if_neg (by omega)]
    refine endsBind.mpr (.inr ⟨hash,w₁,first,endsOp.mpr ⟨d,(),_,True.intro,rfl,endsRet.mpr ⟨rfl,rfl⟩⟩⟩)
  · rw [← kept,← at_]
    rfl

end Parts
end Moadian.Auth
