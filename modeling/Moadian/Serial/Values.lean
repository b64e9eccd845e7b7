import Moadian.Serial.Locking

/-! The value in the file, along every run: what a call has read is still there when it
writes, and no serial given out is above what a reader can find. -/
namespace Moadian.Serial
open Resumption
open TaxId (maxSerial)

variable {P : Nat → Participant} {σ τ : Nat → Stage} {w w' : Host} {i j : Nat} {s : Stage}

section Order
variable {a b : Nat} {l : List Nat}

theorem beforeSnoc (h : [a,b].Sublist (l ++ [i])) (other : b ≠ i) : [a,b].Sublist l := by
  induction l with
  | nil => have short := h.length_le; simp at short
  | cons x rest ih =>
    cases h with
    | cons _ later => exact (ih later).cons x
    | cons_cons _ tail =>
      have member := List.singleton_sublist.mp tail
      rcases List.mem_append.mp member with old | new
      · exact (List.singleton_sublist.mpr old).cons_cons _
      · exact absurd (List.mem_singleton.mp new) other

theorem notBeforeLast (once : l.Nodup) (last : l.getLast? = some a) : ¬ [a,b].Sublist l := by
  intro before
  obtain ⟨front,rfl⟩ := List.getLast?_eq_some_iff.mp last
  have apart : a ≠ b := by have two := once.sublist before; simpa using two
  have early := (beforeSnoc before (Ne.symm apart)).subset List.mem_cons_self
  exact (List.nodup_append.mp once).2.2 a early a List.mem_cons_self rfl

theorem eitherBefore (left : a ∈ l) (right : b ∈ l) (other : a ≠ b) :
    [a,b].Sublist l ∨ [b,a].Sublist l := by
  induction l with
  | nil => cases left
  | cons x rest ih =>
    rcases List.mem_cons.mp left with rfl | inLeft <;> rcases List.mem_cons.mp right with rfl | inRight
    · exact absurd rfl other
    · exact .inl ((List.singleton_sublist.mpr inRight).cons_cons _)
    · exact .inr ((List.singleton_sublist.mpr inLeft).cons_cons _)
    · exact (ih inLeft inRight).imp (fun h => h.cons x) (fun h => h.cons x)

end Order

def Busy (P : Nat → Participant) (σ : Nat → Stage) (w : Host) (i last : Nat) : Prop :=
  (P i).draws = true ∧ Alive P w i ∧ (σ i).locked = true ∧ (σ i).last = some last

def Given (P : Nat → Participant) (σ : Nat → Stage) (i last : Nat) : Prop :=
  (P i).draws = true ∧ (σ i).durable = true ∧ (σ i).last = some last

structure Values (P : Nat → Participant) (σ : Nat → Stage) (w : Host) : Prop where
  reading : ∀ i last, Busy P σ w i last → (σ i).moved = false →
    ∃ u, stored w.file = some u ∧ last ≤ u ∧ u ≤ last + 1
  placed : ∀ i last, Busy P σ w i last → (σ i).moved = true → ∃ u, stored w.file = some u ∧ last + 1 ≤ u
  survives : w.file ∈ w.survivors
  given : ∀ i last, Given P σ i last → ∀ f ∈ w.survivors, ∃ u, stored f = some u ∧ last + 1 ≤ u
  ordered : ∀ i j last last', [i,j].Sublist w.order → Given P σ i last → (P j).draws = true →
    (σ j).last = some last' → last + 1 ≤ last'

/- What makes a write of `n` safe: nothing above it is stored, and no other draw is about
to write something below it. -/
def Fits (P : Nat → Participant) (σ : Nat → Stage) (w : Host) (i n : Nat) : Prop :=
  (∀ u, stored w.file = some u → u ≤ n) ∧
    ∀ j last, j ≠ i → Busy P σ w j last → (σ j).moved = false → n ≤ last + 1

section Frame

def Stage.Tells (s s' : Stage) : Prop :=
  (s'.locked = true → s.locked = true) ∧ s'.last = s.last ∧ s'.moved = s.moved ∧ s'.durable = s.durable

theorem Values.frame (h : Values P σ w) (stages : ∀ j, (σ j).Tells (τ j)) (dead : w.dead ⊆ w'.dead)
    (file : w'.file = w.file) (survivors : w'.survivors = w.survivors) (order : w'.order = w.order) :
    Values P τ w' := by
  have busy : ∀ j last, Busy P τ w' j last → Busy P σ w j last := by
    rintro j last ⟨draws,up,locked,read⟩
    exact ⟨draws,fun gone => up (dead gone),(stages j).1 locked,(stages j).2.1 ▸ read⟩
  have given : ∀ j last, Given P τ j last → Given P σ j last := by
    rintro j last ⟨draws,durable,read⟩
    exact ⟨draws,(stages j).2.2.2 ▸ durable,(stages j).2.1 ▸ read⟩
  constructor
  · intro j last own still
    rw [file]
    exact h.reading j last (busy j last own) ((stages j).2.2.1 ▸ still)
  · intro j last own moved
    rw [file]
    exact h.placed j last (busy j last own) ((stages j).2.2.1 ▸ moved)
  · rw [file,survivors]; exact h.survives
  · intro j last own
    rw [survivors]
    exact h.given j last (given j last own)
  · intro j k last last' before own draws read
    exact h.ordered j k last last' (order ▸ before) (given j last own) draws ((stages k).2.1 ▸ read)

theorem tellsUpdate (same : (σ i).Tells s) (j : Nat) : (σ j).Tells (Function.update σ i s j) := by
  by_cases own : j = i
  · subst own; simpa using same
  · simp [Function.update_of_ne own,Stage.Tells]

end Frame

theorem Values.take (h : Values P σ w) (fresh : σ i = {}) :
    Values P (Function.update σ i { turn := true, locked := true })
      { w with flock := some (callerOf P i), acquired := w.acquired ++ [((callerOf P i).id,w.file)] } := by
  have others : ∀ j last, (Function.update σ i { turn := true, locked := true } j).last = some last → j ≠ i := by
    rintro j last read rfl
    simp at read
  constructor
  · rintro j last ⟨draws,up,locked,read⟩ still
    have other := others j last read
    rw [Function.update_of_ne other] at locked read still
    exact h.reading j last ⟨draws,up,locked,read⟩ still
  · rintro j last ⟨draws,up,locked,read⟩ moved
    have other := others j last read
    rw [Function.update_of_ne other] at locked read moved
    exact h.placed j last ⟨draws,up,locked,read⟩ moved
  · exact h.survives
  · rintro j last ⟨draws,durable,read⟩
    have other := others j last read
    rw [Function.update_of_ne other] at durable read
    exact h.given j last ⟨draws,durable,read⟩
  · rintro j k last last' before ⟨draws,durable,read⟩ draws' read'
    have other := others j last read
    have other' := others k last' read'
    rw [Function.update_of_ne other] at durable read
    rw [Function.update_of_ne other'] at read'
    simp only [Host.order,List.map_append,List.map_cons,List.map_nil,callerId] at before
    exact h.ordered j k last last' (beforeSnoc before other') ⟨draws,durable,read⟩ draws' read'

theorem Values.look (h : Values P σ w) (held : σ i = { turn := true, locked := true }) :
    Values P (Function.update σ i { σ i with last := stored w.file }) w := by
  have durable : (Function.update σ i { σ i with last := stored w.file } i).durable = false := by simp [held]
  constructor
  · rintro j last ⟨draws,up,locked,read⟩ still
    by_cases own : j = i
    · subst own
      rw [Function.update_self] at read
      exact ⟨last,read,Nat.le_refl _,Nat.le_succ _⟩
    · rw [Function.update_of_ne own] at locked read still
      exact h.reading j last ⟨draws,up,locked,read⟩ still
  · rintro j last ⟨draws,up,locked,read⟩ moved
    by_cases own : j = i
    · subst own; simp [held] at moved
    · rw [Function.update_of_ne own] at locked read moved
      exact h.placed j last ⟨draws,up,locked,read⟩ moved
  · exact h.survives
  · rintro j last ⟨draws,given,read⟩
    by_cases own : j = i
    · subst own; rw [durable] at given; cases given
    · rw [Function.update_of_ne own] at given read
      exact h.given j last ⟨draws,given,read⟩
  · rintro j k last last' before ⟨draws,given,read⟩ draws' read'
    have other : j ≠ i := by rintro rfl; rw [durable] at given; cases given
    rw [Function.update_of_ne other] at given read
    by_cases own : k = i
    · subst own
      -- It reads what every serial given out so far is at most.
      rw [Function.update_self] at read'
      obtain ⟨u,value,above⟩ := h.given j last ⟨draws,given,read⟩ w.file h.survives
      cases value.symm.trans read'
      exact above
    · rw [Function.update_of_ne own] at read'
      exact h.ordered j k last last' before ⟨draws,given,read⟩ draws' read'

theorem Values.swap (h : Values P σ w) {t n : Nat} {f : Temp} (still : (σ i).moved = false) (small : n ≤ maxSerial)
    (text : f.text = render n) (synced : f.synced = true) (fits : Fits P σ w i n)
    (own : ∀ last, (P i).draws = true → (σ i).last = some last → n = last + 1) :
    Values P (Function.update σ i { σ i with moved := true }) (w.renamed t f) := by
  have value : stored (some f.text) = some n := by rw [text]; exact storedRender small
  have survivors : (w.renamed t f).survivors = w.survivors ++ [some f.text] := by simp [Host.renamed,synced]
  have durable : ∀ m, (Function.update σ i { σ i with moved := true } m).durable = (σ m).durable :=
    updateSame Stage.durable rfl
  have lasts : ∀ m, (Function.update σ i { σ i with moved := true } m).last = (σ m).last :=
    updateSame Stage.last rfl
  constructor
  · rintro j last ⟨draws,up,locked,read⟩ waits
    have other : j ≠ i := by rintro rfl; simp at waits
    rw [Function.update_of_ne other] at locked read waits
    obtain ⟨u,now,low,_⟩ := h.reading j last ⟨draws,up,locked,read⟩ waits
    exact ⟨n,value,Nat.le_trans low (fits.1 u now),fits.2 j last other ⟨draws,up,locked,read⟩ waits⟩
  · rintro j last ⟨draws,up,locked,read⟩ moved
    by_cases mine : j = i
    · subst mine
      rw [Function.update_self] at read
      exact ⟨n,value,Nat.le_of_eq (own last draws read).symm⟩
    · rw [Function.update_of_ne mine] at locked read moved
      obtain ⟨u,now,low⟩ := h.placed j last ⟨draws,up,locked,read⟩ moved
      exact ⟨n,value,Nat.le_trans low (fits.1 u now)⟩
  · rw [survivors]
    exact List.mem_append_right _ List.mem_cons_self
  · rintro j last ⟨draws,given,read⟩ g member
    have before : Given P σ j last := ⟨draws,durable j ▸ given,lasts j ▸ read⟩
    rw [survivors] at member
    rcases List.mem_append.mp member with old | new
    · exact h.given j last before g old
    · cases List.mem_singleton.mp new
      obtain ⟨u,now,low⟩ := h.given j last before w.file h.survives
      exact ⟨n,value,Nat.le_trans low (fits.1 u now)⟩
  · intro j k last last' before own draws' read'
    obtain ⟨draws,given,read⟩ := own
    exact h.ordered j k last last' before ⟨draws,durable j ▸ given,lasts j ▸ read⟩ draws' (lasts k ▸ read')

theorem Values.settle (h : Values P σ w) (lock : Locking P σ w) (up : Alive P w i) (moved : (σ i).moved = true)
    (held : (P i).draws = true → (σ i).locked = true) :
    Values P (Function.update σ i { σ i with durable := true }) { w with survivors := [w.file] } := by
  have last : ∀ m, (Function.update σ i { σ i with durable := true } m).last = (σ m).last :=
    updateSame Stage.last rfl
  have held' : ∀ m, (Function.update σ i { σ i with durable := true } m).locked = (σ m).locked :=
    updateSame Stage.locked rfl
  have busy : ∀ j last, Busy P (Function.update σ i { σ i with durable := true }) w j last → Busy P σ w j last := by
    rintro j v ⟨draws,up,locked,read⟩
    exact ⟨draws,up,held' j ▸ locked,last j ▸ read⟩
  have still : ∀ m, (Function.update σ i { σ i with durable := true } m).moved = (σ m).moved :=
    updateSame Stage.moved rfl
  constructor
  · exact fun j v own waits => h.reading j v (busy j v own) (still j ▸ waits)
  · exact fun j v own moved => h.placed j v (busy j v own) (still j ▸ moved)
  · exact List.mem_cons_self
  · rintro j v ⟨draws,given,read⟩ g member
    cases List.mem_singleton.mp member
    rw [last] at read
    by_cases mine : j = i
    · subst mine; exact h.placed j v ⟨draws,up,held draws,read⟩ moved
    · rw [Function.update_of_ne mine] at given
      exact h.given j v ⟨draws,given,read⟩ w.file h.survives
  · rintro j k v v' before ⟨draws,given,read⟩ draws' read'
    rw [last] at read read'
    by_cases mine : j = i
    · subst mine
      -- It still holds the lock, so its turn is the newest.
      exact absurd before (notBeforeLast lock.once (lock.newest j (lock.locked j (held draws) up)))
    · rw [Function.update_of_ne mine] at given
      exact h.ordered j k v v' before ⟨draws,given,read⟩ draws' read'

-- A draw that writes holds the lock, so its own reading makes the write safe.
theorem drawFits (h : Values P σ w) (lock : Locking P σ w) (up : Alive P w i) (draws : (P i).draws = true) {n : Nat}
    (still : (σ i).moved = false) (may : (P i).writes (σ i) n) : Fits P σ w i n := by
  obtain ⟨locked,last,read,rfl⟩ : (σ i).locked = true ∧ ∃ last, (σ i).last = some last ∧ n = last + 1 := by
    cases own : P i with
    | draw process counter => rw [own] at may; exact may
    | _ => rw [own] at draws; cases draws
  refine ⟨?_,?_⟩
  · intro u now
    obtain ⟨u',now',_,high⟩ := h.reading i last ⟨draws,up,locked,read⟩ still
    cases now.symm.trans now'
    exact high
  · rintro j last' other ⟨_,up',locked',_⟩ _
    have same := (lock.locked i locked up).symm.trans (lock.locked j locked' up')
    exact absurd (callerInjective (Option.some.inj same)).symm other

theorem swapFits (h : Values P σ w) (lock : Locking P σ w) (drafts : Drafts σ w) (up : Alive P w i)
    (fits : (P i).draws = false → ∀ t f n, (σ i).temp = some t → w.temps t = some f → stored (some f.text) = some n →
      Fits P σ w i n) {t n : Nat} {f : Temp} (temp : (σ i).temp = some t) (still : (σ i).moved = false)
    (flushed : (σ i).flushed = true) (small : n ≤ maxSerial) (text : (σ i).text = some (render n))
    (may : (P i).writes (σ i) n) (there : w.temps t = some f) :
    f.text = render n ∧ f.synced = true ∧ Fits P σ w i n := by
  obtain ⟨g,same,written,synced⟩ := drafts.filled i t (render n) temp text still
  cases same.symm.trans there
  refine ⟨written,synced flushed,?_⟩
  cases draws : (P i).draws with
  | true => exact drawFits h lock up draws still may
  | false => exact fits draws t f n temp there (by rw [written]; exact storedRender small)

theorem Values.moved (h : Values P σ w) (lock : Locking P σ w) (drafts : Drafts σ w) (up : Alive P w i)
    (fits : (σ i).moved = false → s.moved = true → (P i).draws = false → ∀ t f n, (σ i).temp = some t →
      w.temps t = some f → stored (some f.text) = some n → Fits P σ w i n)
    (move : Moved (P i) (callerOf P i) (σ i) w s w') : Values P (Function.update σ i s) w' := by
  cases move with
  | take free fresh => exact h.take fresh
  | look held => exact h.look held
  | swap t n f temp still flushed small text may there =>
    obtain ⟨written,synced,fits⟩ := swapFits h lock drafts up (fits still rfl) temp still flushed small text may there
    refine h.swap still small written synced fits (fun last draws read => ?_)
    cases own : P i with
    | draw process counter =>
      rw [own] at may
      obtain ⟨_,last',read',rfl⟩ := may
      cases read.symm.trans read'
      rfl
    | _ => rw [own] at draws; cases draws
  | settle moved volatile held => exact h.settle lock up moved held
  | give held => exact h.frame (tellsUpdate ⟨(by intro off; cases off),rfl,rfl,rfl⟩) (fun _ m => m) rfl rfl rfl
  | close => exact h.frame (tellsUpdate ⟨(by intro off; cases off),rfl,rfl,rfl⟩) (fun _ m => m) rfl rfl rfl
  | _ => exact h.frame (tellsUpdate ⟨id,rfl,rfl,rfl⟩) (fun _ m => m) rfl rfl rfl

def Rises (before after : Option Content) : Prop :=
  ∀ u, stored before = some u → ∃ v, stored after = some v ∧ u ≤ v

theorem risesSame (file : Option Content) : Rises file file := fun u now => ⟨u,now,Nat.le_refl u⟩

theorem Values.rises (h : Values P σ w) (lock : Locking P σ w) (drafts : Drafts σ w) (up : Alive P w i)
    (fits : (σ i).moved = false → s.moved = true → (P i).draws = false → ∀ t f n, (σ i).temp = some t →
      w.temps t = some f → stored (some f.text) = some n → Fits P σ w i n)
    (move : Moved (P i) (callerOf P i) (σ i) w s w') : Rises w.file w'.file := by
  cases move with
  | swap t n f temp still flushed small text may there =>
    obtain ⟨written,_,fits⟩ := swapFits h lock drafts up (fits still rfl) temp still flushed small text may there
    intro u now
    refine ⟨n,?_,fits.1 u now⟩
    change stored (some f.text) = some n
    rw [written]
    exact storedRender small
  | _ => exact risesSame w.file

theorem Values.crashed (h : Values P σ w) (p : Nat) : Values P σ (w.crashed p) :=
  h.frame (fun _ => ⟨id,rfl,rfl,rfl⟩) (fun _ gone => List.mem_cons_of_mem p gone) rfl rfl rfl

theorem Values.darkened (h : Values P σ w) (lock : Locking P σ w) (k : Nat) : Values P σ (w.darkened k) := by
  have survivor : w.survivors.getD k w.file ∈ w.survivors := by
    rw [List.getD_eq_getElem?_getD]
    cases found : w.survivors[k]? with
    | none => exact h.survives
    | some f => exact List.mem_of_getElem? found
  constructor
  · exact fun j last own => absurd own.2.1 (lock.nobody k j own.2.2.1)
  · exact fun j last own => absurd own.2.1 (lock.nobody k j own.2.2.1)
  · exact List.mem_cons_self
  · intro j last given f member
    cases List.mem_singleton.mp member
    exact h.given j last given _ survivor
  · exact h.ordered

/- What each call finds in the file when it takes the lock is there when it gives it
back, unless it has replaced it. This needs that nobody writes without the lock. -/
structure Frozen (P : Nat → Participant) (σ : Nat → Stage) (w : Host) : Prop where
  found : ∀ i, Alive P w i → (σ i).locked = true → (σ i).moved = false → (i,w.file) ∈ w.acquired
  left : ∀ i, (σ i).released = true → (σ i).moved = false →
    ∃ content, (i,content) ∈ w.acquired ∧ (i,content) ∈ w.released

theorem Frozen.frame (h : Frozen P σ w) (stages : ∀ j, ((τ j).locked = true → (σ j).locked = true) ∧
      ((τ j).moved = false → (σ j).moved = false) ∧ (τ j).released = (σ j).released)
    (dead : w.dead ⊆ w'.dead) (file : w'.file = w.file) (acquired : w'.acquired = w.acquired)
    (released : w'.released = w.released) : Frozen P τ w' where
  found := fun j up locked still => by
    rw [file,acquired]
    exact h.found j (fun gone => up (dead gone)) ((stages j).1 locked) ((stages j).2.1 still)
  left := fun j gave still => by
    rw [acquired,released]
    exact h.left j ((stages j).2.2 ▸ gave) ((stages j).2.1 still)

theorem Frozen.moved (h : Frozen P σ w) (lock : Locking P σ w) (up : Alive P w i)
    (counter : ∀ process args, P i ≠ .tool process args)
    (move : Moved (P i) (callerOf P i) (σ i) w s w') : Frozen P (Function.update σ i s) w' := by
  have same : s.locked = (σ i).locked → s.released = (σ i).released → (s.moved = false → (σ i).moved = false) →
      ∀ j, ((Function.update σ i s j).locked = true → (σ j).locked = true) ∧
        ((Function.update σ i s j).moved = false → (σ j).moved = false) ∧
        (Function.update σ i s j).released = (σ j).released := by
    intro locked released moved j
    by_cases own : j = i
    · subst own; simpa [locked,released] using moved
    · simp [Function.update_of_ne own]
  cases move with
  | take free fresh =>
    constructor
    · intro j alive locked still
      by_cases own : j = i
      · subst own; simp
      · rw [Function.update_of_ne own] at locked still
        exact List.mem_append_left _ (h.found j alive locked still)
    · intro j gave still
      by_cases own : j = i
      · subst own; simp at gave
      · rw [Function.update_of_ne own] at gave still
        obtain ⟨content,before,after⟩ := h.left j gave still
        exact ⟨content,List.mem_append_left _ before,after⟩
  | give held =>
    constructor
    · intro j alive locked still
      by_cases own : j = i
      · subst own; simp at locked
      · rw [Function.update_of_ne own] at locked still
        exact h.found j alive locked still
    · intro j gave still
      by_cases own : j = i
      · subst own
        rw [Function.update_self] at still
        exact ⟨w.file,h.found j up held still,List.mem_append_right _ (by simp)⟩
      · rw [Function.update_of_ne own] at gave still
        obtain ⟨content,before,after⟩ := h.left j gave still
        exact ⟨content,before,List.mem_append_left _ after⟩
  | close =>
    refine h.frame (fun j => ?_) (fun _ m => m) rfl rfl rfl
    by_cases own : j = i
    · subst own; simp
    · simp [Function.update_of_ne own]
  | swap t n f temp still flushed small text may there =>
    have held : (σ i).locked = true := by
      cases own : P i with
      | draw process k => rw [own] at may; exact may.1
      | tool process args => exact absurd own (counter process args)
      | _ => rw [own] at may; exact may.elim
    constructor
    · intro j alive locked waits
      have own : j = i := by
        by_contra other
        rw [Function.update_of_ne other] at locked
        have both := (lock.locked i held up).symm.trans (lock.locked j locked alive)
        exact other (callerInjective (Option.some.inj both)).symm
      subst own
      simp at waits
    · intro j gave waits
      have other : j ≠ i := by rintro rfl; simp at waits
      rw [Function.update_of_ne other] at gave waits
      exact h.left j gave waits
  | _ => exact h.frame (same rfl rfl id) (fun _ m => m) rfl rfl rfl

theorem Frozen.crashed (h : Frozen P σ w) (p : Nat) : Frozen P σ (w.crashed p) :=
  h.frame (fun _ => ⟨id,id,rfl⟩) (fun _ gone => List.mem_cons_of_mem p gone) rfl rfl rfl

theorem Frozen.darkened (h : Frozen P σ w) (lock : Locking P σ w) (k : Nat) : Frozen P σ (w.darkened k) where
  found := fun j up locked => absurd up (lock.nobody k j locked)
  left := h.left

end Moadian.Serial
