import Moadian.Auth.Sessions

/-! Tokens are minted for accounts that were shown, and the epoch is the time just read:
what follows of every token and every stamp. -/
namespace Moadian.Auth
open Resumption

def Proper (tr : Trace) : Op → Prop
  | .mint user _ => Shown tr user
  | .setAuthEpoch epoch => ∃ d, tr.getLast? = some ⟨.now,d,epoch⟩
  | _ => True

section Proper
variable {α : Type} {Q : Trace → Except Error α → Prop} {tr : Trace}

theorem quietProper {o : Op} (quiet : o.quiet) (tr : Trace) : Proper tr o := by
  cases o <;> first | exact True.intro | exact quiet.elim

theorem currentShown (token : Option Token) :
    Obeys Proper (fun tr out => ∀ user, out = .ok user → Shown tr user) [] (currentUser token) := by
  cases token with
  | none => exact fun _ no => by cases no
  | some token =>
    have quiet : Obeys Proper (fun _ _ => True) [] (currentUser (some token)) :=
      obeysPerforms (currentPerforms (some token)) (fun tr' o _ quiet => quietProper quiet tr') (fun _ _ _ => True.intro)
    refine obeysMono (fun tr out both user same => ?_) (obeysMay (fun _ _ both => both.1) (obeysAnd quiet (currentUserObeys token)))
    obtain ⟨e,member,shown⟩ := (both.2 user same).looked
    exact ⟨e,member,lookedFound shown⟩

theorem adminShown (token : Option Token) :
    Obeys Proper (fun tr out => ∀ user, out = .ok user → Shown tr user) [] (adminUser token) := by
  refine obeysBind (currentShown token) (fun tr user shown => obeysIf (fun _ u same => ?_) (fun _ _ no => by cases no))
    (fun _ _ _ _ no => by cases no)
  cases same
  exact shown user rfl

theorem aheadThen {β : Type} {may : Trace → Op → Prop} {p : Handler β} {f : β → Handler α} {allowed : Op → Prop}
    (does : Does allowed p) (ok : ∀ tr o, allowed o → may tr o) (raised : ∀ tr e, Q tr (.error e))
    (next : ∀ tr' b, (∀ user, Shown tr user → Shown tr' user) → Obeys may Q tr' (f b)) : Obeys may Q tr (p >>= f) := by
  refine obeysBind (P := fun tr' _ => ∀ user, Shown tr user → Shown tr' user) ?_ next (fun tr' e _ => raised tr' e)
  exact obeysPerforms does (fun tr' o _ may_ => ok tr' o may_) (fun _ _ beyond _ shown => shownBeyond beyond shown)

end Proper

theorem properObeys (settings : Settings) (r : Request) : Obeys Proper (fun _ _ => True) [] (r.handle settings) := by
  have never : (∀ tr o, r.writes o → Proper tr o) → Obeys Proper (fun _ _ => True) [] (r.handle settings) := by
    intro writes
    refine obeysPerforms (handlePerforms settings r) (fun tr' o _ may => ?_) (fun _ _ _ => True.intro)
    rcases may with quiet | write
    · exact quietProper quiet tr'
    · exact writes tr' o write
  have hexOnly : ∀ tr o, o = Op.tokenHex → Proper tr o := fun _ _ only => only ▸ True.intro
  cases r with
  | login username password =>
    have after : ∀ tr (user : Option User) (stored : String), (∀ u ∈ user, Shown tr u) → Obeys Proper (fun _ _ => True) tr
        (verifyPassword settings password stored >>= letIn settings user) := by
      intro tr user stored shown
      refine aheadThen (verifyPerforms settings password stored) hexOnly (fun _ _ => True.intro) (fun tr' _ still => ?_)
      refine obeysIf (fun _ => True.intro) (fun _ => ?_)
      cases user with
      | none => exact True.intro
      | some user =>
        exact obeysIf (fun _ => True.intro) (fun _ => performThen (still user (shown user rfl)) (fun _ _ _ => True.intro))
    refine performThen True.intro (fun d (user : Option User) _ => ?_)
    cases user with
    | none => exact after _ none _ (fun _ no => by cases no)
    | some user =>
      refine performThen True.intro (fun d' stored _ => after _ (some user) _ (fun u same => ?_))
      cases same
      exact ⟨_,List.mem_append_left _ (List.mem_singleton_self _),rfl⟩
  | changePassword token body =>
    refine obeysBind (currentShown token) (fun tr user _ => performThen True.intro (fun d (stored : Option String) _ => ?_))
      (fun _ _ _ => True.intro)
    refine aheadThen (verifyPerforms settings _ _) hexOnly (fun _ _ => True.intro) (fun tr' verified _ => ?_)
    refine obeysIf (fun _ => True.intro) (fun _ => ?_)
    refine aheadThen (performsMapError (setPasswordPerforms settings user.id body.newPassword)) ?_ (fun _ _ => True.intro)
      (fun tr'' _ _ => performThen True.intro (fun d (refreshed : Option User) _ => ?_))
    · rintro tr o (rfl | ⟨hash,rfl⟩) <;> exact True.intro
    · cases refreshed with
      | none => exact True.intro
      | some refreshed =>
        exact performThen ⟨_,List.mem_append_right _ (List.mem_singleton_self _),rfl⟩ (fun _ _ _ => True.intro)
  | revokeAll token =>
    refine obeysBind (adminShown token) (fun tr me shown => performThen True.intro (fun d (epoch : Nat) _ => ?_))
      (fun _ _ _ => True.intro)
    refine performThen ⟨d,List.getLast?_concat⟩ (fun d' _ _ => ?_)
    exact performThen (shownSnoc (shownSnoc (shown me rfl) _) _) (fun _ _ _ => True.intro)
  | revokeOne token id =>
    refine obeysBind (adminShown token) (fun tr me shown => performThen True.intro (fun d (found : Option User) _ => ?_))
      (fun _ _ _ => True.intro)
    cases found with
    | none => exact True.intro
    | some target =>
      refine performThen True.intro (fun d' _ _ => obeysIf (fun _ => ?_) (fun _ => True.intro))
      exact performThen (shownSnoc (shownSnoc (shown me rfl) _) _) (fun _ _ _ => True.intro)
  | _ => exact never (fun tr o write => by cases o <;> first | exact True.intro | exact write.elim)

-- The tokens and the stamps are of the past, and a token is of an account that was there.
structure Sound (w : World) : Prop where
  numbered : ∀ token, .minted token ∈ w.log → token.sub < w.accounts.next
  past : ∀ token, .minted token ∈ w.log → token.iat ≤ w.clock
  stamped : ∀ id, ∀ row ∈ w.accounts.get id, ∀ T ∈ row.sessionsValidFrom, T ≤ w.clock

theorem soundSeeded {w : World} (seeded : w.Seeded) : Sound w where
  numbered := fun token member => by rw [seeded.log] at member; cases member
  past := fun token member => by rw [seeded.log] at member; cases member
  stamped := fun id row there T from_ => by
    rw [seeded.uncut _ ((w.accounts.memGet id row).mpr there)] at from_
    cases from_

@[simp] theorem applySessions (c : Changes) (row : Account) :
    (c.apply row).sessionsValidFrom = row.sessionsValidFrom := by
  obtain ⟨name,role,active,time⟩ := c
  cases name <;> cases role <;> cases active <;> rfl

@[simp] theorem applyActive (c : Changes) (row : Account) : (c.apply row).isActive = c.isActive.getD row.isActive := by
  obtain ⟨name,role,active,time⟩ := c
  cases name <;> cases role <;> cases active <;> rfl

section Sound
variable {w w' : World} {o : Op} {d : Decision} {a : o.Ans}

def Op.cuts : Op → Option Int
  | .setPassword id _ => some id
  | .revokeUserSessions id => some id
  | _ => none

theorem stampedIf {time : Nat} {id j : Int} {row cut : Account} (stamp : cut.sessionsValidFrom = some time) :
    (if id = j then cut else row).sessionsValidFrom = row.sessionsValidFrom ∧ some j ≠ some id ∨
      (if id = j then cut else row).sessionsValidFrom = some time ∧ some j = some id := by
  split
  · rename_i own
    exact .inr ⟨stamp,congrArg some own.symm⟩
  · rename_i other
    exact .inl ⟨rfl,fun own => other (Option.some.inj own).symm⟩

theorem stampedAfter {time : Nat} {id : Int} {row row' : Account} (became : o.after time id row = some row') :
    row'.sessionsValidFrom = row.sessionsValidFrom ∧ o.cuts ≠ some id ∨
      row'.sessionsValidFrom = some time ∧ o.cuts = some id := by
  cases o with
  | setPassword j hash =>
    cases Option.some.inj became
    exact stampedIf rfl
  | revokeUserSessions j =>
    cases Option.some.inj became
    exact stampedIf rfl
  | updateUser j c =>
    cases Option.some.inj became
    refine .inl ⟨?_,fun no => by cases no⟩
    split
    · exact applySessions c row
    · rfl
  | deleteUser j =>
    simp only [Op.after] at became
    split at became
    · cases became
    · cases Option.some.inj became; exact .inl ⟨rfl,fun no => by cases no⟩
  | _ => cases Option.some.inj became; exact .inl ⟨rfl,fun no => by cases no⟩

theorem mintedAfter (answered : World.respond o d w = some (a,w')) {token : Token} (minted : .minted token ∈ w'.log) :
    .minted token ∈ w.log ∨ ∃ user ttl, o = .mint user ttl ∧ token.sub = user.id ∧ token.iat = w'.clock := by
  have s := stepped answered
  rw [s.log] at minted
  rcases List.mem_append.mp minted with old | new
  · exact .inl old
  · cases o with
    | mint user ttl =>
      cases List.mem_singleton.mp new
      exact .inr ⟨user,ttl,rfl,rfl,s.clock.symm⟩
    | updateUser id c =>
      simp only [Op.marks] at new
      split at new
      · cases List.mem_singleton.mp new
      · cases new
    | setPassword id hash => cases List.mem_singleton.mp new
    | revokeUserSessions id => cases List.mem_singleton.mp new
    | setAuthEpoch epoch => cases List.mem_singleton.mp new
    | _ => cases new

theorem soundMove (answered : World.respond o d w = some (a,w')) (sound : Sound w)
    (known : ∀ user ttl, o = .mint user ttl → user.id < w.accounts.next) : Sound w' := by
  have s := stepped answered
  have later : w.clock ≤ w'.clock := by rw [s.clock]; exact Nat.le_add_right _ _
  refine ⟨fun token minted => ?_,fun token minted => ?_,fun id row' there T from_ => ?_⟩
  · rcases mintedAfter answered minted with old | ⟨user,ttl,rfl,own,_⟩
    · exact Int.lt_of_lt_of_le (sound.numbered token old) s.next
    · rw [own]
      exact Int.lt_of_lt_of_le (known user ttl rfl) s.next
  · rcases mintedAfter answered minted with old | ⟨_,_,_,_,now⟩
    · exact Nat.le_trans (sound.past token old) later
    · exact Nat.le_of_eq now
  · by_cases old : id < w.accounts.next
    · obtain ⟨row,was,became⟩ := s.came old there
      rcases stampedAfter became with ⟨same,_⟩ | ⟨now,_⟩
      · rw [same] at from_
        exact Nat.le_trans (sound.stamped id row was T from_) later
      · rw [now] at from_
        cases from_
        exact Nat.le_refl _
    · rw [s.new id old row' there] at from_
      cases from_

end Sound
/- Requests under way: each has its contract before it, and what they were shown and
what has been minted is sound. -/
structure Running (q : Requests) : Prop where
  obeys : q.Obey (fun _ => Proper) (fun _ _ _ => True)
  numbered : ∀ t ∈ q.tasks, ∀ e ∈ t.trace, Numbered q.world e
  sound : Sound q.world

theorem runningStart {settings : Settings} {w : World} (seeded : w.Seeded) (requests : List Request) :
    Running (serve settings w requests) where
  obeys := Pool.obeyStart (fun i p found => by
    obtain ⟨r,_,rfl⟩ := Option.map_eq_some_iff.mp (List.getElem?_map.symm.trans found)
    exact properObeys settings r)
  numbered := by
    intro t member e seen
    obtain ⟨p,_,rfl⟩ := List.mem_map.mp member
    cases seen
  sound := soundSeeded seeded

theorem runningMove {q : Requests} {i : Nat} {orc : Oracle machine} {t : Task machine Error Reply} {o : Op}
    {k : o.Ans → Handler Reply} {a : o.Ans} {w' : World} (running : Running q) (found : q.tasks[i]? = some t)
    (at_ : t.prog = .op o k) (answered : World.respond o (orc o) q.world = some (a,w')) :
    Running ⟨w',q.tasks.set i ⟨k a,t.trace ++ [⟨o,orc o,a⟩]⟩⟩ := by
  obtain ⟨proper,obeys⟩ := Pool.obeyMove running.obeys found at_ answered
  refine ⟨obeys,fun t' member e seen => ?_,soundMove answered running.sound (fun user ttl same => ?_)⟩
  · rcases List.mem_or_eq_of_mem_set member with old | rfl
    · exact numberedLasts (running.numbered t' old e seen) answered
    · rcases List.mem_append.mp seen with before | last
      · exact numberedLasts (running.numbered t (List.mem_of_getElem? found) e before) answered
      · rw [List.mem_singleton.mp last]
        exact numberedGiven answered
  · subst same
    obtain ⟨e,member,shown⟩ := (proper : Shown t.trace user)
    exact running.numbered t (List.mem_of_getElem? found) e member user shown

end Moadian.Auth
