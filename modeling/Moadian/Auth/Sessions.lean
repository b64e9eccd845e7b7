import Moadian.Auth.Writes

/-! Who a token is accepted from: what a request that is let in has read, and a token
that is shut out while the request is on its way. -/
namespace Moadian.Auth
open Resumption

structure World.Seeded (w : World) : Prop where
  log : w.log = []
  epoch : w.epoch = none
  uncut : ∀ r ∈ w.accounts.rows, r.2.sessionsValidFrom = none

def serve (settings : Settings) (w : World) (requests : List Request) : Requests :=
  Pool.start w (requests.map (Request.handle settings))

-- Between `q` and `q'` a request begins with the token and is let in.
def Accepted (requests : List Request) (q q' : Requests) (token : Token) : Prop :=
  ∃ k : Nat, requests[k]? = some (.me (some token)) ∧ (∃ t ∈ q.tasks[k]?, t.trace = []) ∧
    ∃ t ∈ q'.tasks[k]?, t.prog.Returned

theorem servedAs {settings : Settings} {w : World} {requests : List Request} {moves : Schedule machine} {k : Nat} {r : Request} {t : Task machine Error Reply}
    (asked : requests[k]? = some r) (found : ((serve settings w requests).run moves).tasks[k]? = some t)
    (fresh : t.trace = []) : t = Task.start machine (r.handle settings) := by
  obtain ⟨p,there,rfl⟩ := Pool.unbegun found fresh
  rw [List.getElem?_map,asked] at there
  rw [← Option.some.inj there]

section Contract
variable {token : Token}

def looked (id : Int) : (o : Op) → o.Ans → Option User
  | .getUser j, user => if j = id then user else none
  | _, _ => none

def swept : (o : Op) → o.Ans → Option Nat
  | .authEpoch, epoch => some epoch
  | _, _ => none

theorem lookedFound {id : Int} {o : Op} {a : o.Ans} {user : User} (shown : looked id o a = some user) :
    found o a = some user := by
  cases o with
  | getUser j =>
    have own : ∀ a : Option User, (if j = id then a else none) = some user → a = some user := by
      intro a shown
      split at shown
      · exact shown
      · cases shown
    exact own a shown
  | _ => cases shown

def Looked (token : Token) (tr : Trace) (user : User) : Prop := ∃ e ∈ tr, looked token.sub e.op e.ans = some user

def Swept (tr : Trace) (epoch : Nat) : Prop := ∃ e ∈ tr, swept e.op e.ans = some epoch

def InOrder (tr : Trace) (o : Op) : Prop := (∃ id, o = .getUser id) → ∀ epoch, ¬ Swept tr epoch

structure LetIn (token : Token) (tr : Trace) (user : User) : Prop where
  looked : Looked token tr user
  active : user.isActive = true
  swept : ∃ epoch, Swept tr epoch ∧ expelled epoch user token.iat = false

theorem currentUserObeys (token : Token) :
    Obeys InOrder (fun tr out => ∀ user, out = .ok user → LetIn token tr user) [] (currentUser (some token)) := by
  unfold currentUser
  refine ⟨fun get => ?_,fun _ valid _ => obeysIf (fun _ _ no => by cases no) (fun _ => ⟨?_,fun d shown _ => ?_⟩)⟩
  · obtain ⟨id,no⟩ := get
    cases no
  · rintro _ epoch ⟨e,member,no⟩
    cases List.mem_singleton.mp member
    cases no
  cases shown with
  | none => exact fun _ no => by cases no
  | some user =>
    refine obeysIf (fun _ _ no => by cases no) (fun active => ⟨fun get => ?_,fun d' epoch _ => ?_⟩)
    · obtain ⟨id,no⟩ := get
      cases no
    · refine obeysIf (fun _ _ no => by cases no) (fun stays u same => ?_)
      cases same
      refine ⟨⟨⟨.getUser token.sub,d,some user⟩,?_,if_pos rfl⟩,by simpa using active,epoch,⟨⟨.authEpoch,d',epoch⟩,?_,rfl⟩,
        by simpa using stays⟩
      · exact List.mem_append_left _ (List.mem_append_right _ (List.mem_singleton_self _))
      · exact List.mem_append_right _ (List.mem_singleton_self _)

theorem meObeys (token : Token) :
    Obeys InOrder (fun tr out => (∃ reply, out = .ok reply) → ∃ user, LetIn token tr user) [] (me (some token)) := by
  refine obeysBind (currentUserObeys token) (fun _ user in_ _ => ⟨user,in_ user rfl⟩) (fun _ _ _ no => ?_)
  obtain ⟨reply,no⟩ := no
  cases no

end Contract

theorem expelledBy {epoch T iat : Nat} {user : User} (from_ : user.sessionsValidFrom = some T) (before : iat < T) :
    expelled epoch user iat = true := by
  have positive : T ≠ 0 := by omega
  simp only [expelled,cutoff,from_,if_neg positive,Bool.and_eq_true,bne_iff_ne,decide_eq_true_eq]
  omega

theorem expelledAll {epoch iat : Nat} {user : User} (before : iat < epoch) : expelled epoch user iat = true := by
  have latest : epoch ≤ cutoff epoch user := by
    unfold cutoff
    split
    · exact Nat.le_refl _
    · split
      · exact Nat.le_refl _
      · exact Nat.le_max_left _ _
  simp only [expelled,Bool.and_eq_true,bne_iff_ne,decide_eq_true_eq]
  omega

def Barred (token : Token) (w : World) : Prop :=
  ∀ row ∈ w.accounts.get token.sub, row.isActive = false ∨ ∃ T ∈ row.sessionsValidFrom, token.iat < T

instance (token : Token) (w : World) : Decidable (Barred token w) :=
  inferInstanceAs (Decidable (∀ row ∈ w.accounts.get token.sub, row.isActive = false ∨
    ∃ T ∈ row.sessionsValidFrom, token.iat < T))

section Refused
variable {token : Token} {I : Requests → Prop} {E : World → Prop} {C : Requests → Nat → Oracle machine → Prop}

/- Where the account or the epoch turns a token away in every state, a request that has
not begun is refused: the account when it is looked up, or from then on the epoch. -/
def Refusing (E : World → Prop) (token : Token) (w : World) (tr : Trace) : Prop :=
  (∀ user, Looked token tr user → user.isActive = false ∨ ∃ T ∈ user.sessionsValidFrom, token.iat < T) ∨
    (E w ∧ ∀ epoch, Swept tr epoch → token.iat < epoch)

theorem refusingOut {w : World} {tr : Trace} {user : User} (refusing : Refusing E token w tr) : ¬ LetIn token tr user := by
  rintro ⟨looked,active,epoch,swept,stays⟩
  rcases refusing with away | ⟨_,away⟩
  · rcases away user looked with off | ⟨T,from_,before⟩
    · rw [active] at off
      cases off
    · rw [expelledBy from_ before] at stays
      cases stays
  · rw [expelledAll (away epoch swept)] at stays
    cases stays

theorem seenSnoc {tr : Trace} {e : Event machine} {P : Event machine → Prop} (seen : ∃ e' ∈ tr ++ [e], P e') :
    (∃ e' ∈ tr, P e') ∨ P e := by
  obtain ⟨e',member,shown⟩ := seen
  rcases List.mem_append.mp member with old | last
  · exact .inl ⟨e',old,shown⟩
  · cases List.mem_singleton.mp last
    exact .inr shown

theorem lookedSnoc {tr : Trace} {e : Event machine} {user : User} (seen : Looked token (tr ++ [e]) user) :
    Looked token tr user ∨ looked token.sub e.op e.ans = some user :=
  seenSnoc seen

theorem sweptSnoc {tr : Trace} {e : Event machine} {epoch : Nat} (seen : Swept (tr ++ [e]) epoch) :
    Swept tr epoch ∨ swept e.op e.ans = some epoch :=
  seenSnoc seen

section Move
variable {w w' : World} {o : Op} {d : Decision} {a : o.Ans}

theorem lookedNow {user : User} (answered : World.respond o d w = some (a,w')) (shown : looked token.sub o a = some user) :
    o = .getUser token.sub ∧ ∃ row, w.accounts.get token.sub = some row ∧ user = row.user token.sub := by
  have as : a = ((w.tick d.elapsed).perform d.hex o).1 := (congrArg Prod.fst (Option.some.inj answered)).symm
  subst as
  cases o with
  | getUser id =>
    have shown : (if id = token.sub then w.get id else none) = some user := shown
    split at shown
    · rename_i own
      subst own
      obtain ⟨row,there,same⟩ := Option.map_eq_some_iff.mp shown
      exact ⟨rfl,row,there,same.symm⟩
    · cases shown
  | _ => cases shown

theorem sweptNow {epoch : Nat} (answered : World.respond o d w = some (a,w')) (shown : swept o a = some epoch) :
    epoch = w.epoch.getD 0 := by
  have as : a = ((w.tick d.elapsed).perform d.hex o).1 := (congrArg Prod.fst (Option.some.inj answered)).symm
  subst as
  cases o with
  | authEpoch => exact (Option.some.inj shown).symm
  | _ => cases shown

theorem refusingMove {tr : Trace} (bars : Barred token w ∨ E w) (sweeps : E w → token.iat < w.epoch.getD 0)
    (lasts : E w → E w') (inOrder : InOrder tr o) (answered : World.respond o d w = some (a,w'))
    (refusing : Refusing E token w tr) : Refusing E token w' (tr ++ [⟨o,d,a⟩]) := by
  rcases refusing with away | ⟨swept,away⟩
  · by_cases look : o = .getUser token.sub
    · rcases bars with barred | swept
      · refine .inl (fun user seen => ?_)
        rcases lookedSnoc seen with old | now
        · exact away user old
        · obtain ⟨_,row,there,rfl⟩ := lookedNow answered now
          exact barred row there
      · -- From here on the epoch turns the token away, and it has not been read yet.
        refine .inr ⟨lasts swept,fun epoch seen => ?_⟩
        rcases sweptSnoc seen with old | now
        · exact absurd old (inOrder ⟨_,look⟩ epoch)
        · rw [sweptNow answered now]
          exact sweeps swept
    · refine .inl (fun user seen => ?_)
      rcases lookedSnoc seen with old | now
      · exact away user old
      · exact absurd (lookedNow answered now).1 look
  · refine .inr ⟨lasts swept,fun epoch seen => ?_⟩
    rcases sweptSnoc seen with old | now
    · exact away epoch old
    · rw [sweptNow answered now]
      exact sweeps swept

end Move

theorem refusedOut {q : Requests} {moves : Schedule machine} {k : Nat}
    (keep : ∀ q i orc t o k a w', I q → C q i orc → q.tasks[i]? = some t → t.prog = .op o k →
      World.respond o (orc o) q.world = some (a,w') →
      I ⟨w',q.tasks.set i ⟨k a,t.trace ++ [⟨o,orc o,a⟩]⟩⟩ ∧ (E q.world → E w'))
    (bars : ∀ q, I q → Barred token q.world ∨ E q.world) (sweeps : ∀ w, E w → token.iat < w.epoch.getD 0) (init : I q)
    (waiting : q.tasks[k]? = some (Task.start machine (me (some token)))) (met : Pool.Throughout C q moves) :
    ∀ t ∈ (q.run moves).tasks[k]?, ¬ t.prog.Returned := by
  let J : Requests → Prop := fun q => I q ∧ ∃ t, q.tasks[k]? = some t ∧
    Obeys InOrder (fun tr out => (∃ reply, out = .ok reply) → ∃ user, LetIn token tr user) t.trace t.prog ∧
    Refusing E token q.world t.trace
  have start : J q := ⟨init,_,waiting,meObeys token,.inl (fun user none => by obtain ⟨e,no,_⟩ := none; cases no)⟩
  obtain ⟨_,t,found,obeys,refusing⟩ := Pool.runInvariant (I := J) (by
    rintro q i orc t' o next a w' ⟨held,t,found,obeys,refusing⟩ now here at_ answered
    obtain ⟨held',lasts⟩ := keep q i orc t' o next a w' held now here at_ answered
    refine ⟨held',?_⟩
    by_cases same : i = k
    · subst same
      cases Option.some.inj (found.symm.trans here)
      rw [at_] at obeys
      exact ⟨_,List.getElem?_set_self (List.getElem?_eq_some_iff.mp found).1,obeys.2 _ a ⟨_,_,answered⟩,
        refusingMove (bars _ held) (sweeps _) lasts obeys.1 answered refusing⟩
    · refine ⟨t,(List.getElem?_set_ne same).trans found,obeys,?_⟩
      rcases refusing with away | ⟨swept,away⟩
      · exact .inl away
      · exact .inr ⟨lasts swept,away⟩) start met
  intro t' here returned
  cases Option.some.inj (found.symm.trans here)
  obtain ⟨reply,ended⟩ := Prog.retOfReturned returned
  rw [ended] at obeys
  obtain ⟨user,in_⟩ := obeys ⟨reply,rfl⟩
  exact refusingOut refusing in_

end Refused
end Moadian.Auth
