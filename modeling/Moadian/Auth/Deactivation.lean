import Moadian.Auth.Passwords

/-! Deactivation, by a PATCH or by a soft DELETE, and the tokens minted before it. -/
namespace Moadian.Auth
open Resumption

def retired : List Mark → List Token
  | [] => []
  | .minted token :: rest => if .deactivated token.sub ∈ rest then token :: retired rest else retired rest
  | _ :: rest => retired rest

-- Wherever a run is cut: no token retired by then lets a request in that begins afterwards.
def RetiredForGood (settings : Settings) (w : World) (requests : List Request) (moves : Schedule machine) : Prop :=
  ∀ before after, moves = before ++ after →
    ∀ token ∈ retired ((serve settings w requests).run before).world.log,
      ¬ Accepted requests ((serve settings w requests).run before) ((serve settings w requests).run moves) token

def CutOff (token : Token) (w : World) : Prop :=
  (∀ row ∈ w.accounts.get token.sub, ∃ T ∈ row.sessionsValidFrom, token.iat < T) ∨ token.iat < w.epoch.getD 0

instance (token : Token) (w : World) : Decidable (CutOff token w) :=
  inferInstanceAs (Decidable ((∀ row ∈ w.accounts.get token.sub, ∃ T ∈ row.sessionsValidFrom, token.iat < T) ∨
    token.iat < w.epoch.getD 0))

def Op.spares (w : World) : Op → Prop
  | .updateUser id changes => changes.isActive = some true → ∀ token ∈ retired w.log, token.sub = id → CutOff token w
  | .setAuthEpoch epoch => ∀ token ∈ retired w.log, token.iat < w.epoch.getD 0 → token.iat < epoch
  | _ => True

instance (w : World) (o : Op) : Decidable (o.spares w) := by
  cases o with
  | updateUser id changes =>
    exact inferInstanceAs (Decidable (changes.isActive = some true → ∀ token ∈ retired w.log, token.sub = id → CutOff token w))
  | setAuthEpoch epoch =>
    exact inferInstanceAs (Decidable (∀ token ∈ retired w.log, token.iat < w.epoch.getD 0 → token.iat < epoch))
  | _ => exact inferInstanceAs (Decidable True)

/- An account is activated again only with its retired tokens cut off, and the epoch never
goes back behind a retired token. -/
def Sparing (q : Requests) (i : Nat) (_ : Oracle machine) : Prop :=
  ∀ t ∈ q.tasks[i]?, ∀ o ∈ t.prog.next, Op.spares q.world o

instance (q : Requests) (i : Nat) (orc : Oracle machine) : Decidable (Sparing q i orc) :=
  inferInstanceAs (Decidable (∀ t ∈ q.tasks[i]?, ∀ o ∈ t.prog.next, Op.spares q.world o))

section Retired
variable {token : Token} {log : List Mark}

theorem retiredSnoc {m : Mark} : token ∈ retired (log ++ [m]) ↔
    token ∈ retired log ∨ (m = .deactivated token.sub ∧ .minted token ∈ log) := by
  induction log with
  | nil => cases m <;> simp [retired]
  | cons first rest ih =>
    cases first with
    | minted t =>
      have later : .deactivated t.sub ∈ rest ++ [m] ↔ .deactivated t.sub ∈ rest ∨ m = .deactivated t.sub := by
        rw [List.mem_append,List.mem_singleton]
        exact or_congr_right eq_comm
      simp only [List.cons_append,retired,List.mem_cons,Mark.minted.injEq,later]
      by_cases old : .deactivated t.sub ∈ rest
      · rw [if_pos (.inl old),if_pos old,List.mem_cons,List.mem_cons,ih]
        grind
      · by_cases last : m = .deactivated t.sub
        · rw [if_pos (.inr last),if_neg old,List.mem_cons,ih]
          grind
        · rw [if_neg (fun both => both.elim old last),if_neg old,ih]
          grind
    | cutOff whom time => simpa [retired] using ih
    | deactivated id => simpa [retired] using ih

end Retired

def Shut (w : World) : Prop := ∀ token ∈ retired w.log, Barred token w ∨ token.iat < w.epoch.getD 0

section Step
variable {w w' : World} {o : Op} {d : Decision} {a : o.Ans} {token : Token}

theorem marksCases (w : World) (o : Op) : o.marks w = [] ∨ ∃ m, o.marks w = [m] ∧ ∀ id, m = .deactivated id →
    ∃ changes, o = .updateUser id changes ∧ changes.isActive = some false := by
  cases o with
  | updateUser id changes =>
    by_cases off : changes.isActive = some false
    · exact .inr ⟨_,if_pos off,fun j same => by cases same; exact ⟨changes,rfl,off⟩⟩
    · exact .inl (if_neg off)
  | setPassword id hash => exact .inr ⟨_,rfl,fun j same => by cases same⟩
  | revokeUserSessions id => exact .inr ⟨_,rfl,fun j same => by cases same⟩
  | setAuthEpoch epoch => exact .inr ⟨_,rfl,fun j same => by cases same⟩
  | mint user ttl => exact .inr ⟨_,rfl,fun j same => by cases same⟩
  | _ => exact .inl rfl

theorem retiredAfter (answered : World.respond o d w = some (a,w')) : token ∈ retired w'.log ↔ token ∈ retired w.log ∨
    .minted token ∈ w.log ∧ ∃ changes, o = .updateUser token.sub changes ∧ changes.isActive = some false := by
  rw [(stepped answered).log]
  constructor
  · intro now
    rcases marksCases (w.tick d.elapsed) o with none | ⟨m,one,off⟩
    · rw [none,List.append_nil] at now
      exact .inl now
    · rw [one,retiredSnoc] at now
      exact now.imp_right (fun last => ⟨last.2,off _ last.1⟩)
  · rintro (old | ⟨minted,changes,rfl,off⟩)
    · rcases marksCases (w.tick d.elapsed) o with none | ⟨m,one,_⟩
      · rw [none,List.append_nil]
        exact old
      · rw [one,retiredSnoc]
        exact .inl old
    · rw [Op.marks,if_pos off,retiredSnoc]
      exact .inr ⟨rfl,minted⟩

theorem sweptAfter (answered : World.respond o d w = some (a,w')) (spares : o.spares w) (old : token ∈ retired w.log)
    (swept : token.iat < w.epoch.getD 0) : token.iat < w'.epoch.getD 0 := by
  rw [(stepped answered).epoch]
  cases o with
  | setAuthEpoch epoch => exact spares token old swept
  | _ => exact swept

theorem activeAfter {time : Nat} {id : Int} {row row' : Account} (became : o.after time id row = some row')
    (active : row'.isActive = true) :
    row.isActive = true ∨ ∃ changes, o = .updateUser id changes ∧ changes.isActive = some true := by
  cases o with
  | updateUser j c =>
    cases Option.some.inj became
    split at active
    · rename_i own
      rw [applyActive] at active
      cases on : c.isActive with
      | none => rw [on] at active; exact .inl active
      | some b => rw [on] at active; exact .inr ⟨c,by rw [own],by rw [on,← active]; rfl⟩
    · exact .inl active
  | deleteUser j =>
    simp only [Op.after] at became
    split at became
    · cases became
    · cases Option.some.inj became; exact .inl active
  | setPassword j hash =>
    cases Option.some.inj became
    split at active <;> exact .inl active
  | revokeUserSessions j =>
    cases Option.some.inj became
    split at active <;> exact .inl active
  | _ => cases Option.some.inj became; exact .inl active

theorem barredAfter (answered : World.respond o d w = some (a,w')) (sound : Sound w) (minted : .minted token ∈ w.log)
    (barred : Barred token w) (idle : ¬ ∃ changes, o = .updateUser token.sub changes ∧ changes.isActive = some true) :
    Barred token w' := by
  have s := stepped answered
  intro row' there
  obtain ⟨row,was,became⟩ := s.came (sound.numbered token minted) there
  rcases barred row was with off | ⟨T,from_,before⟩
  · refine .inl (Bool.eq_false_iff.mpr (fun active => ?_))
    rcases activeAfter became active with on | activated
    · rw [off] at on
      cases on
    · exact idle activated
  · rcases stampedAfter became with ⟨same,_⟩ | ⟨now,_⟩
    · exact .inr ⟨T,same.trans from_,before⟩
    · have past := sound.stamped token.sub row was T from_
      refine .inr ⟨w'.clock,now,?_⟩
      rw [s.clock]
      omega

theorem revivedAfter {changes : Changes} {a : Unit} (answered : World.respond (.updateUser token.sub changes) d w = some (a,w'))
    (sound : Sound w) (minted : .minted token ∈ w.log) (cut : CutOff token w) :
    Barred token w' ∨ token.iat < w'.epoch.getD 0 := by
  have s := stepped answered
  rcases cut with stamped | swept
  · refine .inl (fun row' there => .inr ?_)
    obtain ⟨row,was,became⟩ := s.came (sound.numbered token minted) there
    cases Option.some.inj became
    rw [if_pos rfl,applySessions]
    exact stamped row was
  · rw [s.epoch]
    exact .inr swept

theorem retiredMinted {log : List Mark} (old : token ∈ retired log) : .minted token ∈ log := by
  induction log with
  | nil => cases old
  | cons first rest ih =>
    cases first with
    | minted t =>
      simp only [retired] at old
      split at old
      · rcases List.mem_cons.mp old with rfl | old
        · exact List.mem_cons_self
        · exact List.mem_cons_of_mem _ (ih old)
      · exact List.mem_cons_of_mem _ (ih old)
    | _ => exact List.mem_cons_of_mem _ (ih old)

theorem shutMove (answered : World.respond o d w = some (a,w')) (sound : Sound w) (spares : o.spares w) (shut : Shut w) :
    Shut w' := by
  have s := stepped answered
  intro token now
  rcases (retiredAfter answered).mp now with old | ⟨minted,changes,rfl,off⟩
  · have minted := retiredMinted old
    rcases shut token old with barred | swept
    · by_cases revived : ∃ changes, o = .updateUser token.sub changes ∧ changes.isActive = some true
      · obtain ⟨changes,rfl,on⟩ := revived
        exact revivedAfter answered sound minted (spares on token old rfl)
      · exact .inl (barredAfter answered sound minted barred revived)
    · exact .inr (sweptAfter answered spares old swept)
  · refine .inl (fun row' there => .inl ?_)
    obtain ⟨row,_,became⟩ := s.came (sound.numbered token minted) there
    cases Option.some.inj became
    rw [if_pos rfl,applyActive,off]
    rfl

end Step

theorem retiredForGood {settings : Settings} {w : World} (seeded : w.Seeded) {requests : List Request}
    {moves : Schedule machine} (met : Pool.Throughout Sparing (serve settings w requests) moves) :
    RetiredForGood settings w requests moves := by
  rintro before after rfl token old ⟨k,asked,⟨t,waiting,fresh⟩,t',arrived,returned⟩
  have held : ∀ q i orc t o k a w', Running q ∧ Shut q.world → Sparing q i orc → q.tasks[i]? = some t → t.prog = .op o k →
      World.respond o (orc o) q.world = some (a,w') →
      Running ⟨w',q.tasks.set i ⟨k a,t.trace ++ [⟨o,orc o,a⟩]⟩⟩ ∧ Shut w' := by
    rintro q i orc t o k a w' ⟨running,shut⟩ sparing found at_ answered
    exact ⟨runningMove running found at_ answered,
      shutMove answered running.sound (sparing t found o (by rw [at_]; rfl)) shut⟩
  obtain ⟨then_,now⟩ := Pool.throughoutAppend met
  have reached := Pool.runInvariant (I := fun q => Running q ∧ Shut q.world) held
    ⟨runningStart seeded requests,fun token none => by rw [show (serve settings w requests).world.log = [] from seeded.log] at none; cases none⟩ then_
  rw [Pool.runAppend] at arrived
  have start : t = Task.start machine (me (some token)) := servedAs asked waiting fresh
  subst start
  refine refusedOut (I := fun q => (Running q ∧ Shut q.world) ∧ token ∈ retired q.world.log)
    (E := fun w => token ∈ retired w.log ∧ token.iat < w.epoch.getD 0) ?_ ?_ (fun _ swept => swept.2) ⟨reached,old⟩ waiting now
    t' arrived returned
  · rintro q i orc t o k a w' ⟨⟨running,shut⟩,old⟩ sparing found at_ answered
    have still : token ∈ retired w'.log := (retiredAfter answered).mpr (.inl old)
    exact ⟨⟨held q i orc t o k a w' ⟨running,shut⟩ sparing found at_ answered,still⟩,fun swept =>
      ⟨still,sweptAfter answered (sparing t found o (by rw [at_]; rfl)) old swept.2⟩⟩
  · rintro q ⟨⟨_,shut⟩,old⟩
    exact (shut token old).imp_right (fun swept => ⟨old,swept⟩)

/-! An account deactivated and activated again, with its sessions revoked in between and
without. -/
namespace Example

def manager : Account where
  username := "modir"
  passwordHash := "pbkdf2$00$secret-one00"
  displayName := ""
  role := "admin"
  createdAt := 0

def office : World where
  accounts := (Table.empty.insert manager).insert clerk
  clock := 10

theorem officeSeeded : office.Seeded := ⟨rfl,rfl,by decide +kernel⟩

def caller : Option Token := some ⟨1,"modir","admin",13,43200⟩

def leaving : Token := ⟨2,"ali","user",16,43200⟩

def returning : List Request :=
  [.login "modir" "secret-one",.login "ali" "secret-one",.updateUser caller 2 { isActive := some false },
    .revokeOne caller 2,.updateUser caller 2 { isActive := some true },.me (some leaving)]

end Example

theorem retiredForGoodRevoked :
    RetiredForGood Example.hashing Example.office Example.returning (Example.ticks 0 3 ++ Example.ticks 1 3 ++
      Example.ticks 2 7 ++ Example.ticks 3 5 ++ Example.ticks 4 6 ++ Example.ticks 5 3) :=
  retiredForGood Example.officeSeeded (by decide +kernel)

theorem retiredReturns : Example.office.Seeded ∧
    ¬ RetiredForGood Example.hashing Example.office Example.returning (Example.ticks 0 3 ++ Example.ticks 1 3 ++
      Example.ticks 2 7 ++ Example.ticks 4 6 ++ Example.ticks 5 3) := by
  refine ⟨Example.officeSeeded,fun forGood => ?_⟩
  refine forGood (Example.ticks 0 3 ++ Example.ticks 1 3 ++ Example.ticks 2 7) (Example.ticks 4 6 ++ Example.ticks 5 3)
    rfl Example.leaving ?_ ⟨5,rfl,?_⟩
  all_goals decide +kernel

end Moadian.Auth
