import Moadian.Auth.Endpoints
import Moadian.Resumption.Pool

/-! What one operation leaves of an account, of the epoch and of the log. -/
namespace Moadian.Auth
open Resumption

abbrev Trace := List (Event machine)

abbrev Requests := Pool machine Error Reply

def Op.after (time : Nat) (id : Int) (row : Account) : Op → Option Account
  | .setPassword j hash =>
    some (if id = j then { row with passwordHash := hash, sessionsValidFrom := some time } else row)
  | .updateUser j changes => some (if id = j then changes.apply row else row)
  | .deleteUser j => if id = j then none else some row
  | .revokeUserSessions j => some (if id = j then { row with sessionsValidFrom := some time } else row)
  | _ => some row

def Op.epochAfter (epoch : Option Nat) : Op → Option Nat
  | .setAuthEpoch e => some e
  | _ => epoch

def Op.marks (w : World) : Op → List Mark
  | .setPassword id _ | .revokeUserSessions id => [.cutOff (some id) w.clock]
  | .updateUser id changes => if changes.isActive = some false then [.deactivated id] else []
  | .setAuthEpoch epoch => [.cutOff none epoch]
  | .mint user ttlHours => [.minted (w.token user ttlHours)]
  | _ => []

structure Stepped (o : Op) (elapsed : Nat) (w w' : World) : Prop where
  clock : w'.clock = w.clock + elapsed
  next : w.accounts.next ≤ w'.accounts.next
  row : ∀ id < w.accounts.next, w'.accounts.get id = (w.accounts.get id).bind (fun row => o.after w'.clock id row)
  new : ∀ id, ¬ id < w.accounts.next → ∀ row ∈ w'.accounts.get id, row.sessionsValidFrom = none
  epoch : w'.epoch = o.epochAfter w.epoch
  log : w'.log = w.log ++ o.marks (w.tick elapsed)

section Step
variable {w w' : World} {o : Op} {d : Decision} {a : o.Ans}

theorem stepped (answered : World.respond o d w = some (a,w')) : Stepped o d.elapsed w w' := by
  have absent : ∀ {j : Int}, ¬ j < w.accounts.next → w.accounts.get j = none := by
    intro j new
    cases there : w.accounts.get j with
    | none => rfl
    | some row => exact absurd (w.accounts.fresh _ ((w.accounts.memGet j row).mpr there)) new
  have updated : ∀ (id j : Int) (f : Account → Account),
      (w.accounts.update id f).get j = (w.accounts.get j).bind (fun row => some (if j = id then f row else row)) := by
    intro id j f
    rw [Table.getUpdate]
    split <;> cases w.accounts.get j <;> rfl
  have same : ∀ j, w.accounts.get j = (w.accounts.get j).bind (fun row => some row) := fun j => by
    cases w.accounts.get j <;> rfl
  have newSame : ∀ j, ¬ j < w.accounts.next → ∀ row ∈ w.accounts.get j, row.sessionsValidFrom = none := by
    intro j new row there
    rw [absent new] at there
    cases there
  have newUpdated : ∀ (id : Int) (f : Account → Account), ∀ j, ¬ j < w.accounts.next →
      ∀ row ∈ (w.accounts.update id f).get j, row.sessionsValidFrom = none := by
    intro id f j new row there
    rw [updated,absent new] at there
    cases there
  have as : w' = ((w.tick d.elapsed).perform d.hex o).2 := (congrArg Prod.snd (Option.some.inj answered)).symm
  subst as
  cases o with
  | setPassword id hash => exact ⟨rfl,Int.le_refl _,fun j _ => updated id j _,newUpdated id _,rfl,rfl⟩
  | revokeUserSessions id => exact ⟨rfl,Int.le_refl _,fun j _ => updated id j _,newUpdated id _,rfl,rfl⟩
  | updateUser id changes =>
    simp only [World.perform]
    by_cases off : changes.isActive = some false
    · rw [if_pos off]
      exact ⟨rfl,Int.le_refl _,fun j _ => updated id j _,newUpdated id _,rfl,by rw [Op.marks,if_pos off]; rfl⟩
    · rw [if_neg off]
      exact ⟨rfl,Int.le_refl _,fun j _ => updated id j _,newUpdated id _,rfl,
        by rw [Op.marks,if_neg off]; exact (List.append_nil _).symm⟩
  | deleteUser id =>
    refine ⟨rfl,Int.le_refl _,fun j _ => ?_,fun j new row there => ?_,rfl,(List.append_nil _).symm⟩
    · simp only [World.perform,World.tick,Table.getDelete,Op.after]
      split
      · cases w.accounts.get j <;> rfl
      · exact same j
    · simp only [World.perform,World.tick,Table.getDelete,absent new,ite_self] at there
      cases there
  | insertUser username hash displayName role =>
    simp only [World.perform]
    split
    · exact ⟨rfl,Int.le_refl _,fun j _ => same j,newSame,rfl,(List.append_nil _).symm⟩
    · refine ⟨rfl,Int.le_of_lt (Int.lt_succ _),fun j old => ?_,fun j new row there => ?_,rfl,(List.append_nil _).symm⟩
      · simp only [World.tick,Table.getInsert,if_neg (Int.ne_of_lt old)]
        exact same j
      · simp only [World.tick,Table.getInsert,absent new] at there
        split at there
        · cases there
          rfl
        · cases there
  | setAuthEpoch epoch => exact ⟨rfl,Int.le_refl _,fun j _ => same j,newSame,rfl,rfl⟩
  | mint user ttlHours => exact ⟨rfl,Int.le_refl _,fun j _ => same j,newSame,rfl,rfl⟩
  | getUser _ | byUsername _ | passwordHash _ | activeAdminCount _ | authEpoch | now | tokenHex | decode _ =>
    exact ⟨rfl,Int.le_refl _,fun j _ => same j,newSame,rfl,(List.append_nil _).symm⟩

theorem Stepped.kept (s : Stepped o d.elapsed w w') {id : Int} {row : Account} (there : w.accounts.get id = some row) :
    w'.accounts.get id = o.after w'.clock id row := by
  rw [s.row id (w.accounts.fresh _ ((w.accounts.memGet id row).mpr there)),there]
  rfl

theorem Stepped.came (s : Stepped o d.elapsed w w') {id : Int} (old : id < w.accounts.next) {row' : Account}
    (there : w'.accounts.get id = some row') :
    ∃ row, w.accounts.get id = some row ∧ o.after w'.clock id row = some row' := by
  rw [s.row id old] at there
  exact Option.bind_eq_some_iff.mp there

end Step

section Facts

def found : (o : Op) → o.Ans → Option User
  | .getUser _, user => user
  | .byUsername _, user => user
  | _, _ => none

def Shown (tr : Trace) (user : User) : Prop := ∃ e ∈ tr, found e.op e.ans = some user

theorem shownSnoc {tr : Trace} {user : User} (shown : Shown tr user) (e : Event machine) : Shown (tr ++ [e]) user := by
  obtain ⟨e',member,same⟩ := shown
  exact ⟨e',List.mem_append_left _ member,same⟩

theorem shownBeyond {tr tr' : Trace} {allowed : Op → Prop} {user : User} (beyond : Beyond allowed tr tr')
    (shown : Shown tr user) : Shown tr' user := by
  obtain ⟨more,rfl,_⟩ := beyond
  obtain ⟨e,member,same⟩ := shown
  exact ⟨e,List.mem_append_left _ member,same⟩

def Numbered (w : World) (e : Event machine) : Prop := ∀ user, found e.op e.ans = some user → user.id < w.accounts.next

theorem otherAdmins {w : World} {id : Int} : w.otherAdmins id ≠ 0 ↔
    ∃ j row, j ≠ id ∧ w.accounts.get j = some row ∧ World.isActiveAdmin row = true := by
  constructor
  · intro some_
    obtain ⟨⟨j,row⟩,member⟩ := List.exists_mem_of_length_pos (Nat.pos_of_ne_zero some_)
    obtain ⟨chosen,other⟩ := List.mem_filter.mp member
    obtain ⟨there,rights⟩ := (w.accounts.memSelect World.isActiveAdmin j row).mp chosen
    exact ⟨j,row,by simpa using other,there,rights⟩
  · rintro ⟨j,row,other,there,rights⟩
    refine Nat.ne_of_gt (List.length_pos_of_mem (a := (j,row)) (List.mem_filter.mpr ⟨?_,by simpa using other⟩))
    exact (w.accounts.memSelect World.isActiveAdmin j row).mpr ⟨there,rights⟩

theorem gotId {w : World} {id : Int} {u : User} (got : w.get id = some u) : u.id = id := by
  obtain ⟨row,_,rfl⟩ := Option.map_eq_some_iff.mp got
  rfl

theorem numberedGiven {o : Op} {d : Decision} {a : o.Ans} {w w' : World}
    (answered : World.respond o d w = some (a,w')) : Numbered w' ⟨o,d,a⟩ := by
  intro user shown
  have as : a = ((w.tick d.elapsed).perform d.hex o).1 := (congrArg Prod.fst (Option.some.inj answered)).symm
  refine Int.lt_of_lt_of_le ?_ (stepped answered).next
  subst as
  cases o with
  | getUser id =>
    obtain ⟨row,there,rfl⟩ := Option.map_eq_some_iff.mp shown
    exact w.accounts.fresh _ ((w.accounts.memGet id row).mpr there)
  | byUsername username =>
    obtain ⟨r,chosen,rfl⟩ := Option.map_eq_some_iff.mp shown
    exact w.accounts.fresh r (List.mem_of_find?_eq_some chosen)
  | _ => cases shown

theorem numberedLasts {e : Event machine} {o : Op} {d : Decision} {a : o.Ans} {w w' : World} (numbered : Numbered w e)
    (answered : World.respond o d w = some (a,w')) : Numbered w' e :=
  fun user shown => Int.lt_of_lt_of_le (numbered user shown) (stepped answered).next

end Facts

theorem performThen {α : Type} {Q : Trace → Except Error α → Prop} {tr : Trace} {may : Trace → Op → Prop} {o : Op}
    {f : o.Ans → Handler α} (ok : may tr o)
    (next : ∀ d a, Possible machine o d a → Obeys may Q (tr ++ [⟨o,d,a⟩]) (f a)) :
    Obeys may Q tr (perform o >>= f) := ⟨ok,next⟩

end Moadian.Auth
