import Mathlib.Data.List.Basic

/-! A check sum that goes through a text symbol by symbol: what is seen at a place is
read there as an element, and multiplied on. What such a sum tells apart. -/
namespace Moadian.CheckSum

variable {S A : Type}

/- Two texts apart by one slip: a symbol that is another, or two unequal neighbours
the other way round. -/
inductive Slip (D : A → Prop) : List A → List A → Prop where
  | changed {before after : List A} {a b : A} (symbol : D b) (other : a ≠ b) :
      Slip D (before ++ a :: after) (before ++ b :: after)
  | swapped {before after : List A} {a b : A} (other : a ≠ b) : Slip D (before ++ a :: b :: after) (before ++ b :: a :: after)

theorem Slip.long {D : A → Prop} {xs ys : List A} (h : Slip D xs ys) : ys.length = xs.length := by
  cases h <;> simp

theorem Slip.apart {D : A → Prop} {xs ys : List A} (h : Slip D xs ys) : xs ≠ ys := by
  cases h with
  | changed _ other => exact fun same => other (List.cons.inj (List.append_cancel_left same)).1
  | swapped other => exact fun same => other (List.cons.inj (List.append_cancel_left same)).1

theorem Slip.all {D : A → Prop} {xs ys : List A} (h : Slip D xs ys) (all : ∀ a ∈ xs, D a) : ∀ a ∈ ys, D a := by
  intro c member
  cases h with
  | changed symbol _ =>
    simp only [List.mem_append,List.mem_cons] at member
    rcases member with own | rfl | own
    · exact all c (List.mem_append_left _ own)
    · exact symbol
    · exact all c (List.mem_append_right _ (List.mem_cons_of_mem _ own))
  | swapped _ =>
    refine all c ?_
    simp only [List.mem_append,List.mem_cons] at member ⊢
    tauto

theorem Slip.followed {D : A → Prop} {xs ys : List A} (h : Slip D xs ys) (before after : List A) :
    Slip D (before ++ xs ++ after) (before ++ ys ++ after) := by
  cases h with
  | @changed first last a b symbol other =>
    have around : ∀ c, before ++ (first ++ c :: last) ++ after = (before ++ first) ++ c :: (last ++ after) := by simp
    rw [around,around]
    exact .changed symbol other
  | @swapped first last a b other =>
    have around : ∀ c d, before ++ (first ++ c :: d :: last) ++ after = (before ++ first) ++ c :: d :: (last ++ after) := by
      simp
    rw [around,around]
    exact .swapped other

def run (op : S → S → S) (g : Nat → A → S) : Nat → S → List A → S
  | _,s,[] => s
  | i,s,a :: rest => run op g (i + 1) (op s (g i a)) rest

/- `P` are the elements and `D` the symbols. Multiplying can be undone on either side,
different symbols are different elements at each place, and no two symbols at
neighbouring places can be swapped. -/
structure Tells (P : S → Prop) (D : A → Prop) (op : S → S → S) (g : Nat → A → S) : Prop where
  closed : ∀ s t, P s → P t → P (op s t)
  read : ∀ i a, D a → P (g i a)
  right : ∀ s t u, P s → P t → P u → op s u = op t u → s = t
  left : ∀ s t u, P s → P t → P u → op s t = op s u → t = u
  symbol : ∀ i a b, D a → D b → g i a = g i b → a = b
  swap : ∀ i s a b, P s → D a → D b → op (op s (g i a)) (g (i + 1) b) = op (op s (g i b)) (g (i + 1) a) → a = b

variable {P : S → Prop} {D : A → Prop} {op : S → S → S} {g : Nat → A → S}

theorem runAppend (i : Nat) (s : S) (xs ys : List A) :
    run op g i s (xs ++ ys) = run op g (i + xs.length) (run op g i s xs) ys := by
  induction xs generalizing i s with
  | nil => rfl
  | cons a xs ih =>
    rw [List.cons_append,run,ih,List.length_cons,Nat.add_assoc,Nat.add_comm 1]
    rfl

-- Where multiplying is associative, what the sum starts from comes in front.
theorem runFrom {e : S} (unit : ∀ s, P s → op s e = s) (start : P e)
    (assoc : ∀ s t u, P s → P t → P u → op (op s t) u = op s (op t u)) (unitLeft : ∀ s, P s → op e s = s)
    (read : ∀ i a, D a → P (g i a)) (closed : ∀ s t, P s → P t → P (op s t)) {i : Nat} {s : S} (from_ : P s) {xs : List A}
    (all : ∀ a ∈ xs, D a) : run op g i s xs = op s (run op g i e xs) ∧ P (run op g i e xs) := by
  induction xs generalizing i s with
  | nil => exact ⟨(unit s from_).symm,start⟩
  | cons a xs ih =>
    have rest : ∀ b ∈ xs, D b := fun b member => all b (List.mem_cons_of_mem _ member)
    have here := read i a (all a List.mem_cons_self)
    have one := ih (i := i + 1) (closed s _ from_ here) rest
    have two := ih (i := i + 1) here rest
    rw [run,run,unitLeft _ here,one.1,two.1]
    exact ⟨assoc _ _ _ from_ here one.2,closed _ _ here one.2⟩

section Tells
variable (tells : Tells P D op g)
include tells

theorem runClosed {i : Nat} {s : S} (from_ : P s) {xs : List A} (all : ∀ a ∈ xs, D a) : P (run op g i s xs) := by
  induction xs generalizing i s with
  | nil => exact from_
  | cons a xs ih =>
    exact ih (tells.closed _ _ from_ (tells.read i a (all a List.mem_cons_self)))
      (fun b member => all b (List.mem_cons_of_mem _ member))

theorem runInjective {i : Nat} {s t : S} (left : P s) (right : P t) {xs : List A} (all : ∀ a ∈ xs, D a)
    (same : run op g i s xs = run op g i t xs) : s = t := by
  induction xs generalizing i s t with
  | nil => exact same
  | cons a xs ih =>
    have here := tells.read i a (all a List.mem_cons_self)
    have before := ih (tells.closed _ _ left here) (tells.closed _ _ right here)
      (fun b member => all b (List.mem_cons_of_mem _ member)) same
    exact tells.right _ _ _ left right here before

variable {i : Nat} {s : S} {before after : List A} {a b : A} (from_ : P s) (all : ∀ c ∈ before ++ after, D c)
  (first : D a) (second : D b)
include from_ all first second

theorem oneChanged (same : run op g i s (before ++ a :: after) = run op g i s (before ++ b :: after)) : a = b := by
  rw [runAppend,runAppend,run,run] at same
  have start := runClosed tells (i := i) from_ (fun c member => all c (List.mem_append_left _ member))
  have left := tells.read (i + before.length) a first
  have right := tells.read (i + before.length) b second
  have rest := runInjective tells (tells.closed _ _ start left) (tells.closed _ _ start right)
    (fun c member => all c (List.mem_append_right _ member)) same
  exact tells.symbol _ _ _ first second (tells.left _ _ _ start left right rest)

theorem twoSwapped (same : run op g i s (before ++ a :: b :: after) = run op g i s (before ++ b :: a :: after)) : a = b := by
  rw [runAppend,runAppend,run,run,run,run] at same
  have start := runClosed tells (i := i) from_ (fun c member => all c (List.mem_append_left _ member))
  have here := fun c (symbol : D c) => tells.read (i + before.length) c symbol
  have next := fun c (symbol : D c) => tells.read (i + before.length + 1) c symbol
  have rest := runInjective tells (tells.closed _ _ (tells.closed _ _ start (here a first)) (next b second))
    (tells.closed _ _ (tells.closed _ _ start (here b second)) (next a first))
    (fun c member => all c (List.mem_append_right _ member)) same
  exact tells.swap _ _ _ _ start first second rest

end Tells
end Moadian.CheckSum
