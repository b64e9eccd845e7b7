import Moadian.Auth.Alone
import Moadian.Auth.Sessions
import Moadian.Persian

/-! The user names of a table: what the `UNIQUE` of the schema and `create` keep of them,
in whatever order the requests are served. -/
namespace Moadian.Auth
open Resumption

theorem stripStrip (text : String) : strip (strip text) = strip text := by
  unfold strip
  exact congrArg String.ofList (Persian.stripTwice text)

structure Registered (w : World) : Prop where
  stripped : ∀ r ∈ w.accounts.rows, strip r.2.username = r.2.username
  unique : ∀ r ∈ w.accounts.rows, ∀ s ∈ w.accounts.rows, r.2.username = s.2.username → r = s

def Op.registers : Op → Prop
  | .insertUser username _ _ _ => strip username = username
  | _ => True

section Registered
variable {w w' : World}

theorem registeredUpdate (registered : Registered w) (id : Int) {f : Account → Account}
    (same : ∀ row, (f row).username = row.username) (accounts : w'.accounts = w.accounts.update id f) : Registered w' := by
  have back : ∀ r ∈ w'.accounts.rows, ∃ old ∈ w.accounts.rows, r = Table.updateRow id f old ∧
      r.2.username = old.2.username := by
    intro r member
    rw [accounts] at member
    obtain ⟨old,there,rfl⟩ := List.mem_map.mp member
    refine ⟨old,there,rfl,?_⟩
    unfold Table.updateRow
    split
    · exact same old.2
    · rfl
  constructor
  · intro r member
    obtain ⟨old,there,_,name⟩ := back r member
    rw [name]
    exact registered.stripped old there
  · intro r member s member' names
    obtain ⟨old,there,rfl,name⟩ := back r member
    obtain ⟨old',there',rfl,name'⟩ := back s member'
    rw [registered.unique old there old' there' (by rw [← name,← name']; exact names)]

theorem registeredSame (registered : Registered w) (same : w'.accounts = w.accounts) : Registered w' := by
  obtain ⟨stripped,unique⟩ := registered
  rw [← same] at stripped unique
  exact ⟨stripped,unique⟩

theorem registeredMove {o : Op} {d : Decision} {a : o.Ans} (registered : Registered w) (registers : o.registers)
    (answered : World.respond o d w = some (a,w')) : Registered w' := by
  have world : ((w.tick d.elapsed).perform d.hex o).2 = w' := congrArg Prod.snd (Option.some.inj answered)
  subst world
  cases o with
  | insertUser username hash displayName role =>
    dsimp only [World.perform]
    split
    · exact registeredSame registered rfl
    · rename_i free
      have taken : ∀ r ∈ w.accounts.rows, r.2.username ≠ username := by
        intro r member same
        refine free (List.any_eq_true.mpr ⟨r,member,?_⟩)
        simpa using same
      constructor
      · intro r member
        rcases List.mem_append.mp member with old | new
        · exact registered.stripped r old
        · cases List.mem_singleton.mp new
          exact registers
      · intro r member s member' names
        rcases List.mem_append.mp member with old | new
        · rcases List.mem_append.mp member' with old' | new'
          · exact registered.unique r old s old' names
          · cases List.mem_singleton.mp new'
            exact absurd names (taken r old)
        · cases List.mem_singleton.mp new
          rcases List.mem_append.mp member' with old' | new'
          · exact absurd names.symm (taken s old')
          · cases List.mem_singleton.mp new'
            rfl
  | setPassword id hash =>
    exact registeredUpdate registered id (f := Account.reset hash (w.tick d.elapsed).clock) (fun _ => rfl) rfl
  | revokeUserSessions id =>
    exact registeredUpdate registered id
      (f := fun row => { row with sessionsValidFrom := some (w.tick d.elapsed).clock }) (fun _ => rfl) rfl
  | updateUser id changes =>
    have same : ∀ row, (changes.apply row).username = row.username := by
      intro row
      unfold Changes.apply
      cases changes.displayName <;> cases changes.role <;> cases changes.isActive <;> rfl
    dsimp only [World.perform]
    split
    · exact registeredUpdate registered id same rfl
    · exact registeredUpdate registered id same rfl
  | deleteUser id =>
    constructor
    · intro r member
      exact registered.stripped r (List.mem_filter.mp member).1
    · intro r member s member'
      exact registered.unique r (List.mem_filter.mp member).1 s (List.mem_filter.mp member').1
  | _ => exact registeredSame registered rfl

theorem createRegisters (settings : Settings) (username password displayName role : String) :
    Does Op.registers (UserStore.create settings username password displayName role) := by
  unfold UserStore.create
  refine performsIf (fun _ => True.intro) (fun _ => performsIf (fun _ => True.intro) (fun _ => ?_))
  refine performsIf (fun _ => True.intro) (fun _ => ?_)
  refine performsBind (performsMono (fun _ only => only ▸ True.intro) (hashPerforms settings _ _)) (fun hash => ?_)
  refine ⟨stripStrip username,fun inserted => ?_⟩
  cases inserted with
  | none => exact True.intro
  | some id =>
    refine ⟨True.intro,fun user => ?_⟩
    cases user <;> exact True.intro

theorem handleRegisters (settings : Settings) (r : Request) : Does Op.registers (r.handle settings) := by
  have quiet : ∀ {o : Op}, o.quiet → o.registers := by
    intro o quiet
    cases o <;> first | exact True.intro | exact quiet.elim
  have others : (∀ o, r.writes o → o.registers) → Does Op.registers (r.handle settings) :=
    fun writes => performsMono (fun o may => may.elim quiet (writes o)) (handlePerforms settings r)
  cases r with
  | createUser token body =>
    refine performsBind (performsMono (fun _ => quiet) (adminPerforms token)) (fun _ => ?_)
    refine performsThen True.intro (fun (taken : Option User) => performsIf (fun _ => True.intro) (fun _ => ?_))
    exact performsBind (performsMapError (createRegisters settings _ _ _ _)) (fun _ => True.intro)
  | _ => exact others (fun o may => by cases o <;> first | exact True.intro | exact may.elim)

theorem registeredAlone {settings : Settings} {r : Request} {out : Except Error Reply} (registered : Registered w)
    (ended : Alone w (r.handle settings) out w') : Registered w' :=
  endsKeep (M := machine) (J := Registered) (fun _ _ _ _ _ held ok answered => registeredMove held ok answered)
    (handleRegisters settings r) registered ended

theorem registeredServe (settings : Settings) (registered : Registered w) (requests : List Request)
    (moves : Schedule machine) : Registered ((serve settings w requests).run moves).world := by
  refine Pool.performsRun (J := Registered) (fun _ _ _ _ _ held ok answered => registeredMove held ok answered)
    (fun p member => ?_) registered moves
  obtain ⟨r,_,rfl⟩ := List.mem_map.mp member
  exact handleRegisters settings r

theorem byName {id : Int} {row : Account} (registered : Registered w) (there : w.accounts.get id = some row) :
    w.accounts.rows.find? (fun r => r.2.username == row.username) = some (id,row) := by
  have member := (w.accounts.memGet id row).mpr there
  cases found : w.accounts.rows.find? (fun r => r.2.username == row.username) with
  | none => simpa using List.find?_eq_none.mp found _ member
  | some r =>
    have same : r.2.username = row.username := by simpa using List.find?_some found
    rw [registered.unique r (List.mem_of_find?_eq_some found) _ member same]

theorem usernameAfter {o : Op} {time : Nat} {id : Int} {row row' : Account} (became : o.after time id row = some row') :
    row'.username = row.username := by
  have changed : ∀ changes : Changes, (changes.apply row).username = row.username := by
    intro changes
    unfold Changes.apply
    cases changes.displayName <;> cases changes.role <;> cases changes.isActive <;> rfl
  cases o with
  | setPassword j hash | revokeUserSessions j =>
    cases Option.some.inj became
    split <;> rfl
  | updateUser j changes =>
    cases Option.some.inj became
    split
    · exact changed changes
    · rfl
  | deleteUser j =>
    simp only [Op.after] at became
    split at became
    · cases became
    · cases became
      rfl
  | _ =>
    cases Option.some.inj became
    rfl

theorem namesKept {id : Int} {row row' : Account} {settings : Settings} (there : w.accounts.get id = some row) (requests : List Request)
    (moves : Schedule machine) (there' : ((serve settings w requests).run moves).world.accounts.get id = some row') :
    row'.username = row.username := by
  let Named : World → Prop := fun v => id < v.accounts.next ∧ ∀ row' ∈ v.accounts.get id, row'.username = row.username
  have performs : ∀ p ∈ requests.map (Request.handle settings), Does (fun _ => True) p := fun p _ => performsAny p
  have first : Named w := by
    refine ⟨w.accounts.fresh _ ((w.accounts.memGet id row).mpr there),fun row'' there'' => ?_⟩
    cases Option.some.inj (there.symm.trans there'')
    rfl
  have last : Named ((serve settings w requests).run moves).world := by
    refine Pool.performsRun (J := Named) (fun v o d a v' held _ answered => ?_) performs first moves
    have s := stepped answered
    refine ⟨Int.lt_of_lt_of_le held.1 s.next,fun row'' there'' => ?_⟩
    obtain ⟨before,was,became⟩ := s.came held.1 there''
    rw [usernameAfter became]
    exact held.2 before was
  exact last.2 row' there'

end Registered

end Moadian.Auth
