import Moadian.Store.Goods

/-! The goods table over any run of calls: one default at most, no two rows of one
stuff id, and nothing left behind by a call that raises. -/
namespace Moadian.Goods
open Block Migration

structure Sound (t : Table GoodsColumns) : Prop where
  single : ∀ r ∈ t.rows, ∀ q ∈ t.rows, r.2.isDefault ≠ 0 → q.2.isDefault ≠ 0 → r = q
  unique : ∀ r ∈ t.rows, ∀ q ∈ t.rows, r.2.stuffId = q.2.stuffId → r = q

-- Between the two statements of a change of default.
def Cleared (t : Table GoodsColumns) : Prop := Sound t ∧ ∀ r ∈ t.rows, r.2.isDefault = 0

theorem soundEmpty : Sound .empty := ⟨by simp [Table.empty],by simp [Table.empty]⟩

theorem sameRow {t : Table GoodsColumns} {r q : Int × GoodsColumns} (left : r ∈ t.rows) (right : q ∈ t.rows)
    (same : r.1 = q.1) : r = q := by
  obtain ⟨id,a⟩ := r
  obtain ⟨j,b⟩ := q
  cases same
  rw [Table.sortedUnique t.sorted left right]

theorem clearSound {t : Table GoodsColumns} (sound : Sound t) :
    Cleared (t.updateEach (fun _ row => { row with isDefault := 0 })) := by
  refine ⟨⟨?_,?_⟩,?_⟩
  · intro r left q right flagged
    obtain ⟨old,member,rfl⟩ := List.mem_map.mp left
    exact absurd rfl flagged
  · intro r left q right same
    obtain ⟨a,memberA,rfl⟩ := List.mem_map.mp left
    obtain ⟨b,memberB,rfl⟩ := List.mem_map.mp right
    rw [sound.unique a memberA b memberB same]
  · intro r member
    obtain ⟨old,_,rfl⟩ := List.mem_map.mp member
    rfl

theorem insertSound {t after : Table GoodsColumns} {a : GoodsColumns} (sound : Sound t)
    (alone : a.isDefault ≠ 0 → ∀ r ∈ t.rows, r.2.isDefault = 0)
    (made : insertRow GoodsColumns.stuffId t a = .ok after) : Sound after := by
  unfold insertRow at made
  split at made
  · cases made
  · rename_i new
    cases made
    have apart : ∀ r ∈ t.rows, r.2.stuffId ≠ a.stuffId := by simpa using new
    have cases_ : ∀ r ∈ (t.insert a).rows, r ∈ t.rows ∨ r = (t.next,a) := by simp [Table.insert]
    constructor
    · intro r left q right flagged flagged'
      obtain old | rfl := cases_ r left <;> obtain old' | rfl := cases_ q right
      · exact sound.single r old q old' flagged flagged'
      · exact absurd (alone flagged' r old) flagged
      · exact absurd (alone flagged q old') flagged'
      · rfl
    · intro r left q right same
      obtain old | rfl := cases_ r left <;> obtain old' | rfl := cases_ q right
      · exact sound.unique r old q old' same
      · exact absurd same (apart r old)
      · exact absurd same.symm (apart q old')
      · rfl

theorem promoteSound {t : Table GoodsColumns} (cleared : Cleared t) (id : Int) :
    Sound (t.update id (fun row => { row with isDefault := 1 })) := by
  have key : ∀ r ∈ (t.update id (fun row => { row with isDefault := 1 })).rows,
      ∃ old ∈ t.rows, r.1 = old.1 ∧ r.2.stuffId = old.2.stuffId ∧ (r.2.isDefault ≠ 0 → r.1 = id) := by
    intro r member
    obtain ⟨old,stored,rfl⟩ := List.mem_map.mp member
    refine ⟨old,stored,Table.updateRowFst _ _ _,?_,?_⟩
    · unfold Table.updateRow
      split <;> rfl
    · intro flagged
      unfold Table.updateRow at flagged ⊢
      split at flagged
      · rename_i same; rw [if_pos same]; exact same
      · exact absurd (cleared.2 old stored) flagged
  constructor
  · intro r left q right flagged flagged'
    obtain ⟨_,_,_,_,mine⟩ := key r left
    obtain ⟨_,_,_,_,yours⟩ := key q right
    exact sameRow left right ((mine flagged).trans (yours flagged').symm)
  · intro r left q right same
    obtain ⟨a,memberA,idA,stuffA,_⟩ := key r left
    obtain ⟨b,memberB,idB,stuffB,_⟩ := key q right
    have one := cleared.1.unique a memberA b memberB (by rw [← stuffA,← stuffB,same])
    exact sameRow left right (by rw [idA,idB,one])

theorem deleteSound {t : Table GoodsColumns} (sound : Sound t) (id : Int) : Sound (t.delete id) where
  single := fun r left q right => sound.single r (List.mem_filter.mp left).1 q (List.mem_filter.mp right).1
  unique := fun r left q right => sound.unique r (List.mem_filter.mp left).1 q (List.mem_filter.mp right).1

theorem clearEnds : Ends Sound (statement clearDefault) (fun _ => Cleared) := by
  refine endsStatement (fun t n after sound made => ?_)
  cases made
  exact clearSound sound

theorem insertEnds (item : GoodsService) (created : String)
    {P : Table GoodsColumns → Prop} (sound : ∀ t, P t → Sound t)
    (alone : ∀ t, P t → item.isDefault = true → ∀ r ∈ t.rows, r.2.isDefault = 0) :
    Ends P (statement (insertGoods item created)) (fun _ => Sound) := by
  refine endsStatement (fun t n after start made => ?_)
  unfold insertGoods at made
  split at made
  · cases made
  · rename_i next inserted
    cases made
    refine insertSound (sound t start) (fun flagged => alone t start ?_) inserted
    cases flag : item.isDefault with
    | true => rfl
    | false => exact absurd (by simp [columns,flag]) flagged

theorem addEnds (created : String) (item : GoodsService) :
    Ends Sound (addBody created item) (fun _ => Sound) := by
  unfold addBody
  cases flag : item.isDefault with
  | true =>
    exact endsBind clearEnds (fun _ => insertEnds item created (fun t cleared => cleared.1)
      (fun t cleared _ => cleared.2))
  | false =>
    refine insertEnds item created (fun t sound => sound) (fun t _ flagged => ?_)
    rw [flag] at flagged
    cases flagged

theorem missingEnds (P : Table GoodsColumns → Prop) (id : Int) (rowcount : Nat) :
    Ends P (missing id rowcount) (fun _ => P) := by
  unfold missing
  split
  · exact endsThrow _
  · exact endsPure (fun _ held => held)

theorem boundMade {α : Type} {id : Int} {r a : α} (made : (do bindInteger id; pure r) = Except.ok a) : a = r := by
  cases bound : bindInteger id with
  | error e => rw [bound] at made; cases made
  | ok _ => rw [bound] at made; cases made; rfl

theorem setDefaultEnds (id : Int) : Ends Sound (setDefaultBody id) (fun _ => Sound) := by
  refine endsBind clearEnds (fun _ => endsBind (Q := fun _ => Sound) ?_ (fun n => missingEnds Sound id n))
  refine endsStatement (fun t n after cleared made => ?_)
  cases boundMade made
  exact promoteSound cleared id

theorem deleteEnds (id : Int) : Ends Sound (deleteBody id) (fun _ => Sound) := by
  refine endsBind (Q := fun _ => Sound) ?_ (fun n => missingEnds Sound id n)
  refine endsStatement (fun t n after sound made => ?_)
  cases boundMade made
  exact deleteSound sound id

theorem addCases (faults : Faults GoodsError) (created : String) (item : GoodsService) (t : Table GoodsColumns) :
    (∃ e, addGoods faults created item t = (.error e,t)) ∨
      ∃ added, addGoods faults created item t = (.ok added,(write faults (addBody created item) t).2) := by
  unfold addGoods
  cases item.validate with
  | error e => exact .inl ⟨e,rfl⟩
  | ok _ =>
    obtain ⟨e,raised⟩ | ⟨id,after,_,_,ended⟩ := writeCases faults (addBody created item) t
    · rw [raised]
      cases e <;> exact .inl ⟨_,rfl⟩
    · rw [ended]; exact .inr ⟨_,rfl⟩

inductive Request where
  | add (created : String) (item : GoodsService)
  | setDefault (id : Int)
  | delete (id : Int)

structure Call where
  request : Request
  faults : Faults GoodsError := quiet

def Call.run (c : Call) (t : Table GoodsColumns) : Except GoodsError (Option GoodsService) × Table GoodsColumns :=
  match c.request with
  | .add created item => ((addGoods c.faults created item t).1.map some,(addGoods c.faults created item t).2)
  | .setDefault id => ((setDefaultGoods c.faults id t).1.map (fun _ => none),(setDefaultGoods c.faults id t).2)
  | .delete id => ((deleteGoods c.faults id t).1.map (fun _ => none),(deleteGoods c.faults id t).2)

def served (t : Table GoodsColumns) (calls : List Call) : Table GoodsColumns :=
  calls.foldl (fun t c => (c.run t).2) t

theorem runSound {t : Table GoodsColumns} (sound : Sound t) (c : Call) : Sound (c.run t).2 := by
  obtain ⟨request,faults⟩ := c
  cases request with
  | add created item =>
    show Sound (addGoods faults created item t).2
    obtain ⟨e,raised⟩ | ⟨added,ended⟩ := addCases faults created item t
    · rw [raised]; exact sound
    · rw [ended]; exact writeKeeps _ (addEnds created item) sound
  | setDefault id => exact writeKeeps _ (setDefaultEnds id) sound
  | delete id => exact writeKeeps _ (deleteEnds id) sound

theorem mapRaised {α β : Type} {r : Except GoodsError α} {f : α → β} {e : GoodsError} (raised : r.map f = .error e) :
    r = .error e := by
  cases r with
  | error other => cases raised; rfl
  | ok a => cases raised

theorem runRaised {t : Table GoodsColumns} {c : Call} {e : GoodsError} (raised : (c.run t).1 = .error e) :
    (c.run t).2 = t := by
  obtain ⟨request,faults⟩ := c
  cases request with
  | add created item =>
    show (addGoods faults created item t).2 = t
    obtain ⟨e',stopped⟩ | ⟨added,ended⟩ := addCases faults created item t
    · rw [stopped]
    · have failed := mapRaised raised
      rw [ended] at failed
      cases failed
  | setDefault id => exact writeRaised (mapRaised raised)
  | delete id => exact writeRaised (mapRaised raised)

theorem servedSound {t : Table GoodsColumns} (sound : Sound t) (calls : List Call) : Sound (served t calls) := by
  induction calls generalizing t with
  | nil => exact sound
  | cons c rest ih => exact ih (runSound sound c)

theorem atMostOneDefault {t : Table GoodsColumns} (sound : Sound t) (calls : List Call) :
    Sound (served t calls) ∧
      ∀ (c : Call) (e : GoodsError), (c.run (served t calls)).1 = .error e →
        (c.run (served t calls)).2 = served t calls :=
  ⟨servedSound sound calls,fun _ _ raised => runRaised raised⟩

namespace Example

def tea : GoodsService := { stuffId := "2710000138624", description := "چای", isDefault := true }
def rice : GoodsService := { tea with stuffId := "2710000142676", description := "برنج" }

def day : List Call :=
  [⟨.add "2026-01-01T00:00:00+00:00" tea,quiet⟩,⟨.add "2026-01-01T00:01:00+00:00" rice,quiet⟩,
    ⟨.add "2026-01-01T00:02:00+00:00" tea,quiet⟩,
    ⟨.add "2026-01-01T00:03:00+00:00" { rice with description := " " },quiet⟩]

end Example

open Moadian.Goods.Example in
theorem atMostOneDefaultDay : (served .empty day).rows.map (fun r => (r.1,r.2.isDefault)) = [(1,0),(2,1)] ∧
    Sound (served .empty day) ∧ (Call.run ⟨.setDefault 7,quiet⟩ (served .empty day)).2 = served .empty day :=
  ⟨by decide +kernel,(atMostOneDefault soundEmpty day).1,
    (atMostOneDefault soundEmpty day).2 _ (.configuration "no goods 7") (by decide +kernel)⟩

end Moadian.Goods
