import Moadian.Auth.Writes

/-! The last administrator: what a request knows of its target when it takes rights away,
and any number of requests at once. -/
namespace Moadian.Auth
open Resumption

def User.rights (u : User) : Bool := u.role == "admin" && u.isActive

def Op.takes : Op → Option Int
  | .updateUser id c => if c.role.any (· ≠ "admin") || c.isActive == some false then some id else none
  | .deleteUser id => some id
  | _ => none

structure Known where
  user : Int → Option User := fun _ => none
  others : Int → Option Nat := fun _ => none

def Known.learn (s : Known) : (o : Op) → o.Ans → Known
  | .getUser id, found => { s with user := fun i => if i = id then found else s.user i }
  | .activeAdminCount id, n => { s with others := fun i => if i = id then some n else s.others i }
  | _, _ => s

def known (tr : Trace) : Known := tr.foldl (fun s e => s.learn e.op e.ans) {}

theorem knownSnoc (tr : Trace) (e : Event machine) : known (tr ++ [e]) = (known tr).learn e.op e.ans := by
  simp [known]

-- It takes rights away only after it has counted another administrator.
def Guarded (s : Known) (id : Int) : Prop :=
  ∃ target, s.user id = some target ∧ (target.rights = true → ∃ n, s.others id = some n ∧ n ≠ 0)

def TakesGuarded (tr : Trace) (o : Op) : Prop := ∀ id ∈ o.takes, Guarded (known tr) id

def Op.aside (o : Op) : Prop := o = .tokenHex ∨ ∃ id hash, o = .setPassword id hash

section Contract
variable {α : Type} {Q : Trace → Except Error α → Prop} {tr : Trace}

theorem asideNever {o : Op} (aside : o.aside) : o.takes = none := by
  rcases aside with rfl | ⟨id,hash,rfl⟩ <;> rfl

theorem learnAside {o : Op} (aside : o.aside) (s : Known) (a : o.Ans) : s.learn o a = s := by
  rcases aside with rfl | ⟨id,hash,rfl⟩ <;> rfl

theorem asideKnown {tr' : Trace} (beyond : Beyond Op.aside tr tr') : known tr' = known tr := by
  obtain ⟨more,rfl,all⟩ := beyond
  unfold known
  rw [List.foldl_append]
  generalize tr.foldl (fun s e => s.learn e.op e.ans) ({} : Known) = s
  induction more with
  | nil => rfl
  | cons e rest ih =>
    rw [List.foldl_cons,learnAside (all e List.mem_cons_self)]
    exact ih (fun e member => all e (List.mem_cons_of_mem _ member))

theorem asideThen {β : Type} {p : Handler β} {f : β → Handler α} (aside : Does Op.aside p)
    (next : ∀ tr' b, known tr' = known tr → Obeys TakesGuarded Q tr' (f b)) (raised : ∀ tr' e, Q tr' (.error e)) :
    Obeys TakesGuarded Q tr (p >>= f) := by
  refine obeysBind (P := fun tr' _ => known tr' = known tr) ?_ (fun tr' b same => next tr' b same)
    (fun tr' e _ => raised tr' e)
  refine obeysPerforms aside (fun _ o _ ok id taken => ?_) (fun _ _ beyond => asideKnown beyond)
  rw [asideNever ok] at taken
  cases taken

theorem freely {p : Handler α} (h : Does (fun o => o.takes = none) p) (all : ∀ tr' out, Q tr' out) :
    Obeys TakesGuarded Q tr p := by
  refine obeysPerforms h (fun _ o _ never id taken => ?_) (fun tr' out _ => all tr' out)
  rw [never] at taken
  cases taken

theorem quietNever {o : Op} (quiet : o.quiet) : o.takes = none := by
  cases o <;> first | rfl | exact quiet.elim

theorem adminFreely (token : Option Token) : Does (fun o => o.takes = none) (adminUser token) :=
  performsMono (fun _ quiet => quietNever quiet) (adminPerforms token)

end Contract

section Guards
variable {target : User} {tr : Trace}

def Read (target : User) (tr : Trace) : Prop := (known tr).user target.id = some target

theorem readNow (tr : Trace) (d : Decision) : Read target (tr ++ [⟨.getUser target.id,d,some target⟩]) := by
  unfold Read
  rw [knownSnoc]
  simp [Known.learn]

def Counted (target : User) (tr : Trace) : Prop :=
  target.rights = true → ∃ n, (known tr).others target.id = some n ∧ n ≠ 0

theorem guardLastObeys (read : Read target tr) :
    Obeys TakesGuarded (fun tr' out => Read target tr' ∧ (out = .ok () → Counted target tr')) tr (guardLastAdmin target) := by
  unfold guardLastAdmin
  refine obeysIf (fun _ => ?_) (fun plain => ?_)
  · refine performThen (by intro id taken; cases taken) (fun d (others : Nat) _ => ?_)
    have kept : Read target (tr ++ [⟨.activeAdminCount target.id,d,others⟩]) := by
      unfold Read at read ⊢
      rw [knownSnoc]
      exact read
    refine obeysIf (fun _ => ⟨kept,fun ok => by cases ok⟩) (fun some_ => ⟨kept,fun _ _ => ⟨others,?_,some_⟩⟩)
    rw [knownSnoc]
    simp [Known.learn]
  · refine ⟨read,fun _ rights => ?_⟩
    simp only [User.rights,Bool.and_eq_true,beq_iff_eq] at rights
    exact absurd rights plain

theorem guardRoleObeys (me : User) {role : Option String} (read : Read target tr) :
    Obeys TakesGuarded (fun tr' out => Read target tr' ∧
      (out = .ok () → ∀ r ∈ role, r ≠ "admin" → Counted target tr')) tr (guardRole me target role) := by
  cases role with
  | none => exact ⟨read,fun _ r member => by cases member⟩
  | some role =>
    unfold guardRole
    refine obeysIf (fun same => ⟨read,fun _ r member other rights => ?_⟩) (fun _ => ?_)
    · cases member
      simp only [User.rights,Bool.and_eq_true,beq_iff_eq] at rights
      exact absurd (same.trans rights.1) other
    refine obeysIf (fun _ => ⟨read,fun ok => by cases ok⟩) (fun _ => ?_)
    refine obeysIf (fun _ => ⟨read,fun ok => by cases ok⟩) (fun _ => ?_)
    refine obeysIf (fun _ => ?_) (fun plain => ⟨read,fun _ r _ _ rights => ?_⟩)
    · exact obeysMono (fun _ _ h => ⟨h.1,fun ok _ _ _ => h.2 ok⟩) (guardLastObeys read)
    · simp only [User.rights,Bool.and_eq_true,beq_iff_eq] at rights
      exact absurd rights.1 plain

theorem guardActiveObeys (me : User) {active : Option Bool} (read : Read target tr) :
    Obeys TakesGuarded (fun tr' out => Read target tr' ∧ (out = .ok () →
      (Counted target tr → Counted target tr') ∧ (active = some false → Counted target tr'))) tr
      (guardActive me target active) := by
  cases active with
  | none => exact ⟨read,fun _ => ⟨id,fun no => by cases no⟩⟩
  | some active =>
    unfold guardActive
    refine obeysIf (fun same => ⟨read,fun _ => ⟨id,fun off rights => ?_⟩⟩) (fun _ => ?_)
    · cases off
      simp only [User.rights,Bool.and_eq_true,← same] at rights
      cases rights.2
    refine obeysIf (fun _ => ⟨read,fun ok => by cases ok⟩) (fun _ => ?_)
    refine obeysIf (fun _ => ?_) (fun on => ⟨read,fun _ => ⟨id,fun off => ?_⟩⟩)
    · exact obeysMono (fun _ _ h => ⟨h.1,fun ok => ⟨fun _ => h.2 ok,fun _ => h.2 ok⟩⟩) (guardLastObeys read)
    · cases off
      exact absurd rfl on

theorem updateObeys {α : Type} {Q : Trace → Except Error α → Prop} {displayName : Option Codec.PyText}
    {role : Option String} {active : Option Bool} {f : Option User → Handler α} (read : Read target tr)
    (counted : (∃ r ∈ role, r ≠ "admin") ∨ active = some false → Counted target tr)
    (next : ∀ tr' a, Obeys TakesGuarded Q tr' (f a)) (raised : ∀ tr' e, Q tr' (.error e)) (g : Error → Error) :
    Obeys TakesGuarded Q tr ((UserStore.update target.id displayName role active).mapError g >>= f) := by
  refine obeysBind (P := fun _ _ => True) (obeysMapError (P := fun _ _ => True) ?_ (fun _ _ _ => True.intro)
    (fun _ _ _ => True.intro)) (fun tr' a _ => next tr' a) (fun tr' e _ => raised tr' e)
  have writes : ∀ tr' at_, known tr' = known tr → Obeys TakesGuarded (fun _ _ => True) tr'
      (UserStore.updateRow target.id displayName role active at_) := by
    intro tr' at_ same
    unfold UserStore.updateRow
    refine obeysIf (fun _ => ⟨(by intro id taken; cases taken),fun _ _ _ => True.intro⟩) (fun _ => ?_)
    split
    · exact True.intro
    refine performThen ?_ (fun _ _ _ => ⟨(by intro id taken; cases taken),fun _ _ _ => True.intro⟩)
    intro id taken
    simp only [Op.takes] at taken
    split at taken
    · rename_i takes
      cases taken
      rw [same]
      refine ⟨target,read,counted ?_⟩
      simp only [Bool.or_eq_true,Option.any_eq_true,decide_eq_true_eq,beq_iff_eq] at takes
      simpa only [Option.mem_def] using takes
    · cases taken
  unfold UserStore.update
  refine obeysIf (fun _ => True.intro) (fun _ => ?_)
  by_cases off : active = some false
  · rw [if_pos off]
    refine performThen (by intro id taken; cases taken) (fun d time _ => writes _ _ ?_)
    rw [knownSnoc]
    rfl
  · rw [if_neg off]
    exact writes _ _ rfl

end Guards

section Requests
variable (settings : Settings)

def shown : Option User → Handler Reply
  | none => Prog.raise .assertionError
  | some updated => Prog.ret (.account updated)

theorem updateUserObeys (token : Option Token) (id : Int) (body : UserUpdate) :
    Obeys TakesGuarded (fun _ _ => True) [] (updateUser settings token id body) := by
  unfold updateUser
  refine obeysBind (freely (adminFreely token) (fun _ _ => True.intro)) (fun tr me _ => ?_) (fun _ _ _ => True.intro)
  refine performThen (by intro id taken; cases taken) (fun d found possible => ?_)
  cases found with
  | none => exact True.intro
  | some target =>
    obtain ⟨w,w',answered⟩ := possible
    have own : target.id = id := gotId (congrArg Prod.fst (Option.some.inj answered))
    subst own
    have read : Read target _ := readNow tr d
    have guarded : ∀ tr, Read target tr → Obeys TakesGuarded (fun _ _ => True) tr
        (guardRole me target body.role >>= fun _ => guardActive me target body.isActive >>= fun _ =>
          (UserStore.update target.id body.displayName body.role body.isActive).mapError Error.refusal >>= shown) := by
      intro tr read
      refine obeysBind (guardRoleObeys me read) (fun tr' _ role => ?_) (fun _ _ _ => True.intro)
      refine obeysBind (guardActiveObeys me role.1) (fun tr'' _ active => ?_) (fun _ _ _ => True.intro)
      obtain ⟨keeps,off⟩ := active.2 rfl
      refine updateObeys active.1 ?_ (fun _ updated => ?_) (fun _ _ => True.intro) _
      · rintro (⟨r,asked,other⟩ | disabled)
        · exact keeps (role.2 rfl r asked other)
        · exact off disabled
      · cases updated <;> exact True.intro
    cases body.password with
    | none => exact guarded _ read
    | some password =>
      refine asideThen (performsMapError (performsMono ?_ (setPasswordPerforms settings target.id password)))
        (fun tr' _ same => guarded tr' ?_) (fun _ _ => True.intro)
      · rintro o (rfl | ⟨hash,rfl⟩)
        · exact .inl rfl
        · exact .inr ⟨_,_,rfl⟩
      unfold Read at read ⊢
      rw [same]
      exact read

theorem deleteUserObeys (token : Option Token) (id : Int) (hard : Bool) :
    Obeys TakesGuarded (fun _ _ => True) [] (deleteUser token id hard) := by
  unfold deleteUser
  refine obeysBind (freely (adminFreely token) (fun _ _ => True.intro)) (fun tr me _ => ?_) (fun _ _ _ => True.intro)
  refine performThen (by intro id taken; cases taken) (fun d found possible => ?_)
  cases found with
  | none => exact True.intro
  | some target =>
    obtain ⟨w,w',answered⟩ := possible
    have own : target.id = id := gotId (congrArg Prod.fst (Option.some.inj answered))
    subst own
    have read : Read target _ := readNow tr d
    refine obeysIf (fun _ => True.intro) (fun _ => ?_)
    refine obeysBind (guardLastObeys read) (fun tr' _ last => ?_) (fun _ _ _ => True.intro)
    refine obeysIf (fun _ => ?_) (fun _ => ?_)
    · refine performThen ?_ (fun _ _ _ => True.intro)
      rintro id taken
      cases taken
      exact ⟨target,last.1,last.2 rfl⟩
    · have whole : UserStore.update target.id none none (some false) =
        (UserStore.update target.id none none (some false)).mapError id := rfl
      rw [whole]
      refine updateObeys last.1 (fun _ => last.2 rfl) (fun _ _ => ?_) (fun _ _ => True.intro) id
      refine performThen (by intro id taken; cases taken) (fun _ _ _ => ?_)
      refine performThen (by intro id taken; cases taken) (fun _ updated _ => ?_)
      cases updated <;> exact True.intro

theorem requestObeys (r : Request) : Obeys TakesGuarded (fun _ _ => True) [] (r.handle settings) := by
  have never : (∀ o, r.writes o → o.takes = none) → Obeys TakesGuarded (fun _ _ => True) [] (r.handle settings) := by
    intro writes
    refine freely (performsMono (fun o may => ?_) (handlePerforms settings r)) (fun _ _ => True.intro)
    rcases may with quiet | write
    · exact quietNever quiet
    · exact writes o write
  cases r with
  | updateUser token id body => exact updateUserObeys settings token id body
  | deleteUser token id hard => exact deleteUserObeys token id hard
  | _ => exact never (fun o write => by cases o <;> first | rfl | exact write.elim)

end Requests

def Administered (w : World) : Prop := ∃ r ∈ w.accounts.rows, World.isActiveAdmin r.2 = true

instance (w : World) : Decidable (Administered w) :=
  inferInstanceAs (Decidable (∃ r ∈ w.accounts.rows, World.isActiveAdmin r.2 = true))

/- When a request takes rights away, it knows whether the account has any, and the number
of other active administrators it has counted is still right. -/
def Undisturbed (q : Requests) (i : Nat) (_ : Oracle machine) : Prop :=
  ∀ t ∈ q.tasks[i]?, ∀ o ∈ t.prog.next, ∀ id ∈ o.takes,
    (∀ u ∈ (known t.trace).user id, (q.world.get id).any User.rights = true → u.rights = true) ∧
      ∀ n ∈ (known t.trace).others id, n = q.world.otherAdmins id

instance (q : Requests) (i : Nat) (orc : Oracle machine) : Decidable (Undisturbed q i orc) :=
  inferInstanceAs (Decidable (∀ t ∈ q.tasks[i]?, ∀ o ∈ t.prog.next, ∀ id ∈ o.takes,
    (∀ u ∈ (known t.trace).user id, (q.world.get id).any User.rights = true → u.rights = true) ∧
      ∀ n ∈ (known t.trace).others id, n = q.world.otherAdmins id))

section Kept
variable {w : World}

theorem administered : Administered w ↔ ∃ id row, w.accounts.get id = some row ∧ World.isActiveAdmin row = true := by
  simp only [Administered,Prod.exists,Table.memGet]

theorem rightsGet {id : Int} {row : Account} (there : w.accounts.get id = some row) :
    (w.get id).any User.rights = World.isActiveAdmin row := by
  rw [World.get,there]
  rfl

theorem keptElsewhere {o : Op} {d : Decision} {a : o.Ans} {w' : World} {j : Int} {row : Account}
    (answered : World.respond o d w = some (a,w')) (there : w.accounts.get j = some row)
    (elsewhere : o.takes ≠ some j) (rights : World.isActiveAdmin row = true) :
    ∃ row', w'.accounts.get j = some row' ∧ World.isActiveAdmin row' = true := by
  rw [(stepped answered).kept there]
  cases o with
  | updateUser id c =>
    refine ⟨_,rfl,?_⟩
    split
    · rename_i own
      subst own
      simp only [Op.takes] at elsewhere
      split at elsewhere
      · exact absurd rfl elsewhere
      · rename_i harmless
        obtain ⟨name,role,active,time⟩ := c
        simp only [World.isActiveAdmin,Bool.and_eq_true,beq_iff_eq] at rights ⊢
        cases name <;> cases role <;> cases active <;> simp_all [Changes.apply]
    · exact rights
  | deleteUser id =>
    have other : j ≠ id := fun own => elsewhere (by rw [own]; rfl)
    exact ⟨row,if_neg other,rights⟩
  | setPassword id hash =>
    refine ⟨_,rfl,?_⟩
    split <;> exact rights
  | revokeUserSessions id =>
    refine ⟨_,rfl,?_⟩
    split <;> exact rights
  | _ => exact ⟨row,rfl,rights⟩

end Kept

theorem administratorKept {settings : Settings} {w : World} (start : Administered w) (requests : List Request)
    {moves : Schedule machine}
    (met : Pool.Throughout Undisturbed (Pool.start w (requests.map (Request.handle settings))) moves) :
    Administered ((Pool.start w (requests.map (Request.handle settings))).run moves).world := by
  let I : Requests → Prop := fun q => Administered q.world ∧
    q.Obey (fun _ => TakesGuarded) (fun _ _ _ => True)
  suffices held : I ((Pool.start w (requests.map (Request.handle settings))).run moves) from held.1
  refine Pool.runInvariant (I := I) ?_ ⟨start,?_⟩ met
  · intro q i orc t o k a w' inv undisturbed found here answered
    obtain ⟨may,obey⟩ := Pool.obeyMove inv.2 found here answered
    refine ⟨?_,obey⟩
    have clear := undisturbed t found o (by rw [here]; rfl)
    obtain ⟨j,row,there,rights⟩ := administered.mp inv.1
    by_cases taken : o.takes = some j
    · obtain ⟨target,read,counted⟩ := may j taken
      obtain ⟨asRead,asCounted⟩ := clear j taken
      have had : target.rights = true := asRead target read (by rw [rightsGet there]; exact rights)
      obtain ⟨n,count,some_⟩ := counted had
      rw [asCounted n count] at some_
      obtain ⟨j',row',other,there',rights'⟩ := otherAdmins.mp some_
      have elsewhere : o.takes ≠ some j' := by rw [taken]; exact fun same => other (Option.some.inj same).symm
      obtain ⟨row'',kept⟩ := keptElsewhere answered there' elsewhere rights'
      exact administered.mpr ⟨j',row'',kept⟩
    · obtain ⟨row',kept⟩ := keptElsewhere answered there taken rights
      exact administered.mpr ⟨j,row',kept⟩
  · refine Pool.obeyStart (fun i p found => ?_)
    obtain ⟨r,_,rfl⟩ := List.getElem?_map.symm.trans found |> Option.map_eq_some_iff.mp
    exact requestObeys settings r

/-! Two administrators who deactivate each other: one after the other, and both past
the count before either has written. -/
namespace Example

def row (username role : String) : Account where
  username := username
  passwordHash := "pbkdf2$00$00"
  displayName := ""
  role := role
  createdAt := 0

def session (id : Int) (username role : String) : Token := ⟨id,username,role,5,43205⟩

def seeded : World where
  accounts := (Table.empty.insert (row "ali" "admin")).insert (row "zahra" "admin")
  clock := 10
  log := [.minted (session 1 "ali" "admin"),.minted (session 2 "zahra" "admin")]

def settings : Settings where
  pbkdf2 := fun password salt => some (password ++ salt)

def deactivate (caller : Token) (id : Int) : Request := .updateUser (some caller) id { isActive := some false }

def each : List Request :=
  [deactivate (session 1 "ali" "admin") 2,deactivate (session 2 "zahra" "admin") 1]

def moves (i : Nat) (n : Nat) : Schedule machine := List.replicate n (i,fun _ => {})

def inTurn : Schedule machine := moves 0 8 ++ moves 1 8

def crossing : Schedule machine := moves 0 5 ++ moves 1 8 ++ moves 0 3

end Example

theorem administratorKeptInTurn :
    Administered ((Pool.start Example.seeded (Example.each.map (Request.handle Example.settings))).run Example.inTurn).world :=
  administratorKept (by decide +kernel) Example.each (by decide +kernel)

theorem administratorLost : Administered Example.seeded ∧
    ¬ Administered ((Pool.start Example.seeded (Example.each.map (Request.handle Example.settings))).run
      Example.crossing).world := by
  decide +kernel

end Moadian.Auth
