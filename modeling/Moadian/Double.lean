import Mathlib.Data.Int.Log
import Mathlib.Data.Rat.Floor
import Mathlib.Tactic.Linarith
import Mathlib.Tactic.Positivity
import Mathlib.Tactic.Ring

/-! Doubles: the numbers of IEEE 754 binary64 as exact values. An operation is the exact
one, rounded to the nearest double and to the even one of two. The two zeros are one. -/
namespace Moadian

def halfEven (q : ℚ) : Int :=
  if q - ⌊q⌋ < 1 / 2 then ⌊q⌋
  else if 1 / 2 < q - ⌊q⌋ then ⌊q⌋ + 1
  else if ⌊q⌋ % 2 = 0 then ⌊q⌋ else ⌊q⌋ + 1

theorem halfEvenNear (q : ℚ) : |(halfEven q : ℚ) - q| ≤ 1 / 2 := by
  have below := Int.floor_le q
  have above := Int.lt_floor_add_one q
  unfold halfEven
  rw [abs_le]
  split_ifs <;> push_cast <;> constructor <;> linarith

theorem halfEvenInt (n : Int) : halfEven n = n := by simp [halfEven]

theorem halfEvenSmall {q : ℚ} {n : Int} (small : |q| ≤ n) : |halfEven q| ≤ n := by
  obtain ⟨low,high⟩ := abs_le.mp small
  obtain ⟨left,right⟩ := abs_le.mp (halfEvenNear q)
  rw [abs_le]
  constructor
  · have : (-n : ℚ) < halfEven q + 1 := by linarith
    have : -n < halfEven q + 1 := by exact_mod_cast this
    omega
  · have : (halfEven q : ℚ) < n + 1 := by linarith
    have : halfEven q < n + 1 := by exact_mod_cast this
    omega

namespace Double

/- The exponent of the last of 53 binary places, of which a subnormal number has fewer. -/
def place (q : ℚ) : Int := max (Int.log 2 |q| - 52) (-1074)

def nearest (q : ℚ) : ℚ := halfEven (q / 2 ^ place q) * 2 ^ place q

theorem placeSmall (q : ℚ) : |q| < 2 ^ (place q + 53) := by
  have below : |q| < 2 ^ (Int.log 2 |q| + 1) := by exact_mod_cast Int.lt_zpow_succ_log_self (b := 2) (by decide) |q|
  refine below.trans_le (zpow_le_zpow_right₀ (by norm_num) ?_)
  have := le_max_left (Int.log 2 |q| - 52) (-1074)
  unfold place
  omega

theorem placeFits {q : ℚ} {k : Int} (normal : -1074 ≤ k) (small : |q| < 2 ^ (k + 53)) (some_ : q ≠ 0) : place q ≤ k := by
  have log : Int.log 2 |q| < k + 53 :=
    (Int.lt_zpow_iff_log_lt (b := 2) (by decide) (abs_pos.mpr some_)).mp (by exact_mod_cast small)
  exact max_le (by omega) normal

theorem nearestZero : nearest 0 = 0 := by simp [nearest,halfEven]

theorem powerPos (k : Int) : (0 : ℚ) < 2 ^ k := zpow_pos (by norm_num) k

theorem nearestMultiple {q : ℚ} {m k : Int} (own : q = m * 2 ^ k) (fits : place q ≤ k) : nearest q = q := by
  obtain ⟨n,rfl⟩ := Int.le.dest fits
  have shifted : q / 2 ^ place q = ((m * 2 ^ n : Int) : ℚ) := by
    rw [div_eq_iff (powerPos _).ne']
    conv_lhs => rw [own]
    push_cast
    rw [zpow_add₀ (by norm_num),zpow_natCast]
    ring
  rw [nearest,shifted,halfEvenInt,← shifted,div_mul_cancel₀ _ (powerPos _).ne']

theorem sizeOf {m k : Int} {n : Nat} (small : |m| < 2 ^ n) : |(m : ℚ) * 2 ^ k| < 2 ^ (k + n) := by
  rw [abs_mul,abs_of_pos (powerPos k),zpow_add₀ (by norm_num),mul_comm,zpow_natCast]
  refine mul_lt_mul_of_pos_left ?_ (powerPos k)
  exact_mod_cast small

theorem nearestSelf {m k : Int} (normal : -1074 ≤ k) (small : |m| < 2 ^ 53) : nearest (m * 2 ^ k) = m * 2 ^ k := by
  by_cases none_ : m = 0
  · rw [none_,Int.cast_zero,zero_mul,nearestZero]
  · exact nearestMultiple rfl (placeFits normal (sizeOf small) (mul_ne_zero (Int.cast_ne_zero.mpr none_) (powerPos k).ne'))

-- What is rounded has at most 53 places, or it is a power of two.
theorem nearestTwice (q : ℚ) : nearest (nearest q) = nearest q := by
  have scaled : |q / 2 ^ place q| < ((2 ^ 53 : Int) : ℚ) := by
    rw [abs_div,abs_of_pos (powerPos _),div_lt_iff₀ (powerPos _)]
    have small := placeSmall q
    rw [zpow_add₀ (by norm_num),mul_comm] at small
    exact_mod_cast small
  have few := halfEvenSmall scaled.le
  have normal : -1074 ≤ place q := le_max_right _ _
  have own : nearest q = halfEven (q / 2 ^ place q) * 2 ^ place q := rfl
  rw [own]
  generalize halfEven (q / 2 ^ place q) = m at few
  rcases lt_or_eq_of_le few with less | same
  · exact nearestSelf normal less
  · have even : m = m / 2 ^ 52 * 2 ^ 52 ∧ |m / 2 ^ 52 * 2 ^ 51| < 2 ^ 53 := by
      rcases abs_eq (by norm_num) |>.mp same with rfl | rfl <;> decide
    have halved : (m : ℚ) * 2 ^ place q = ((m / 2 ^ 52 * 2 ^ 51 : Int) : ℚ) * 2 ^ (place q + 1) := by
      conv_lhs => rw [even.1]
      push_cast
      rw [zpow_add₀ (by norm_num)]
      ring
    rw [halved]
    exact nearestSelf (by omega) even.2

def Representable (q : ℚ) : Prop := nearest q = q ∧ |q| < 2 ^ 1024

end Double

inductive Double where
  | finite (value : ℚ) (own : Double.Representable value)
  | nan
  | infinite (negative : Bool)

namespace Double

-- The nearest double of a number; from 2 ^ 1024 on it is infinite.
def ofRat (q : ℚ) : Double :=
  if small : |nearest q| < 2 ^ 1024 then finite (nearest q) ⟨nearestTwice q,small⟩ else infinite (decide (q < 0))

def isFinite : Double → Bool
  | finite .. => true
  | _ => false

def add : Double → Double → Double
  | finite x _, finite y _ => ofRat (x + y)
  | infinite a, infinite b => if a = b then infinite a else nan
  | infinite a, finite .. | finite .., infinite a => infinite a
  | _, _ => nan

def sub : Double → Double → Double
  | finite x _, finite y _ => ofRat (x - y)
  | infinite a, infinite b => if a = b then nan else infinite a
  | infinite a, finite .. => infinite a
  | finite .., infinite a => infinite (!a)
  | _, _ => nan

def mul : Double → Double → Double
  | finite x _, finite y _ => ofRat (x * y)
  | infinite a, infinite b => infinite (a != b)
  | infinite a, finite x _ | finite x _, infinite a => if x = 0 then nan else infinite (a != decide (x < 0))
  | _, _ => nan

-- By a number other than zero.
def divide : Double → ℚ → Double
  | finite x _, y => ofRat (x / y)
  | infinite a, y => infinite (a != decide (y < 0))
  | nan, _ => nan

def abs : Double → Double
  | finite x _ => ofRat |x|
  | infinite _ => infinite false
  | nan => nan

-- No comparison holds of what is no number.
def less : Double → Double → Bool
  | finite x _, finite y _ => decide (x < y)
  | infinite a, infinite b => a && !b
  | infinite a, finite .. => a
  | finite .., infinite a => !a
  | _, _ => false

def atMost : Double → Double → Bool
  | finite x _, finite y _ => decide (x ≤ y)
  | infinite a, infinite b => a || !b
  | infinite a, finite .. => a
  | finite .., infinite a => !a
  | _, _ => false

def same : Double → Double → Bool
  | finite x _, finite y _ => decide (x = y)
  | infinite a, infinite b => a == b
  | _, _ => false

/- How a list is added up: one after the other, or with the part each addition loses kept
apart and added at the end. -/
inductive Summation where
  | plain
  | compensated
  deriving DecidableEq, Repr

-- The sum so far, and what it lacks.
def compensate (s : Double × Double) (x : Double) : Double × Double :=
  let total := add s.1 x
  (total,add s.2 (if atMost (abs x) (abs s.1) then add (sub s.1 total) x else add (sub x total) s.1))

def sum : Summation → List Double → Double
  | .plain, xs => xs.foldl add (ofRat 0)
  | .compensated, xs =>
    let (total,lost) := xs.foldl compensate (ofRat 0,ofRat 0)
    if lost.isFinite then add total lost else total

def converts (n : Int) : Bool := (ofRat n).isFinite

def toInt : Double → Option Int
  | finite x _ => some (halfEven x)
  | _ => none

theorem ofRatFinite {q : ℚ} : (ofRat q).isFinite = true ↔ |nearest q| < 2 ^ 1024 := by
  unfold ofRat
  split
  · rename_i small
    exact ⟨fun _ => small,fun _ => rfl⟩
  · rename_i large
    exact ⟨fun no => (by cases no),fun small => absurd small large⟩

theorem toIntConverts {x : Double} {n : Int} (h : x.toInt = some n) : converts n = true := by
  cases x with
  | nan => cases h
  | infinite _ => cases h
  | finite x own =>
    cases Option.some.inj h
    obtain ⟨self,bound⟩ := own
    rw [converts,ofRatFinite]
    rcases le_or_gt 0 (place x) with whole | parts
    · obtain ⟨n,same⟩ := Int.eq_ofNat_of_zero_le whole
      have integer : ((halfEven (x / 2 ^ place x) * 2 ^ n : Int) : ℚ) = x := by
        conv_rhs => rw [← self,nearest]
        rw [same]
        push_cast
        rfl
      rw [← integer,halfEvenInt,integer,self]
      exact bound
    · have small : |x| < ((2 ^ 52 : Int) : ℚ) := by
        refine (placeSmall x).trans_le ?_
        have : (2 : ℚ) ^ (place x + 53) ≤ 2 ^ (52 : Int) := zpow_le_zpow_right₀ (by norm_num) (by omega)
        exact_mod_cast this
      have few := halfEvenSmall small.le
      have one := nearestSelf (m := halfEven x) (k := 0) (by decide) (lt_of_le_of_lt few (by norm_num))
      rw [zpow_zero,mul_one] at one
      rw [one]
      have close : |(halfEven x : ℚ)| ≤ 2 ^ 52 := by exact_mod_cast few
      exact close.trans_lt (pow_lt_pow_right₀ (by norm_num) (by norm_num))

/-! How large a result can be. -/

inductive Below (m k : Nat) : Double → Prop where
  | finite {x : ℚ} {own : Representable x} (most : |x| ≤ m * 2 ^ k) : Below m k (.finite x own)

section Below
variable {a b c j k l : Nat} {x y : Double}

-- A multiple of the last place bounds what is rounded too.
theorem nearestBelow {q : ℚ} (few : a < 2 ^ 53) (most : |q| ≤ a * 2 ^ k) : |nearest q| ≤ a * 2 ^ k := by
  by_cases none_ : q = 0
  · rw [none_,nearestZero,abs_zero]
    positivity
  · have small : |q| < 2 ^ ((k : Int) + 53) := by
      refine most.trans_lt ?_
      rw [zpow_add₀ (by norm_num),mul_comm,zpow_natCast]
      refine mul_lt_mul_of_pos_left ?_ (by positivity)
      exact_mod_cast few
    obtain ⟨n,whole⟩ := Int.le.dest (placeFits (by omega) small none_)
    have scaled : (2 : ℚ) ^ k = 2 ^ n * 2 ^ place q := by
      rw [← zpow_natCast,← whole,add_comm,zpow_add₀ (by norm_num),zpow_natCast]
    have shifted : |q / 2 ^ place q| ≤ ((a * 2 ^ n : Int) : ℚ) := by
      rw [abs_div,abs_of_pos (powerPos _),div_le_iff₀ (powerPos _)]
      push_cast
      rw [mul_assoc,← scaled]
      exact most
    have rounded : |(halfEven (q / 2 ^ place q) : ℚ)| ≤ a * 2 ^ n := by exact_mod_cast halfEvenSmall shifted
    rw [nearest,abs_mul,abs_of_pos (powerPos _),scaled,← mul_assoc]
    exact mul_le_mul_of_nonneg_right rounded (powerPos _).le

theorem ofRatBelow {q : ℚ} (few : a < 2 ^ 53) (range : k ≤ 970) (most : |q| ≤ a * 2 ^ k) : Below a k (ofRat q) := by
  have below := nearestBelow few most
  have small : |nearest q| < 2 ^ 1024 := by
    have one : (a : ℚ) < 2 ^ 53 := by exact_mod_cast few
    have two : (2 : ℚ) ^ k ≤ 2 ^ 970 := pow_le_pow_right₀ (by norm_num) range
    calc |nearest q| ≤ a * 2 ^ k := below
      _ ≤ 2 ^ 53 * 2 ^ 970 := mul_le_mul one.le two (by positivity) (by positivity)
      _ = 2 ^ 1023 := by rw [← pow_add]
      _ < 2 ^ 1024 := pow_lt_pow_right₀ (by norm_num) (by norm_num)
  rw [ofRat,dif_pos small]
  exact .finite below

theorem belowFinite (below : Below a k x) : x.isFinite = true := by
  cases below
  rfl

theorem scaleMore (more : a ≤ b) (higher : j ≤ k) : (a : ℚ) * 2 ^ j ≤ b * 2 ^ k :=
  mul_le_mul (by exact_mod_cast more) (pow_le_pow_right₀ (by norm_num) higher) (by positivity) (by positivity)

theorem belowMore (below : Below a j x) (more : a ≤ b) (higher : j ≤ k) : Below b k x := by
  obtain @⟨x,own,most⟩ := below
  exact .finite (most.trans (scaleMore more higher))

theorem addBelow (left : Below a k x) (right : Below b k y) (sum : a + b ≤ c) (few : c < 2 ^ 53) (range : k ≤ 970) :
    Below c k (add x y) := by
  obtain @⟨x,_,most⟩ := left
  obtain @⟨y,_,most'⟩ := right
  refine ofRatBelow few range ?_
  calc |x + y| ≤ |x| + |y| := abs_add_le x y
    _ ≤ a * 2 ^ k + b * 2 ^ k := add_le_add most most'
    _ = (a + b : Nat) * 2 ^ k := by push_cast; ring
    _ ≤ c * 2 ^ k := scaleMore sum le_rfl

theorem subBelow (left : Below a k x) (right : Below b k y) (sum : a + b ≤ c) (few : c < 2 ^ 53) (range : k ≤ 970) :
    Below c k (sub x y) := by
  obtain @⟨x,_,most⟩ := left
  obtain @⟨y,_,most'⟩ := right
  refine ofRatBelow few range ?_
  calc |x - y| ≤ |x| + |y| := abs_sub x y
    _ ≤ a * 2 ^ k + b * 2 ^ k := add_le_add most most'
    _ = (a + b : Nat) * 2 ^ k := by push_cast; ring
    _ ≤ c * 2 ^ k := scaleMore sum le_rfl

theorem mulBelow (left : Below a j x) (right : Below b k y) (product : a * b ≤ c) (power : j + k ≤ l) (few : c < 2 ^ 53)
    (range : l ≤ 970) : Below c l (mul x y) := by
  obtain @⟨x,_,most⟩ := left
  obtain @⟨y,_,most'⟩ := right
  refine ofRatBelow few range ?_
  calc |x * y| = |x| * |y| := abs_mul x y
    _ ≤ (a * 2 ^ j) * (b * 2 ^ k) := mul_le_mul most most' (abs_nonneg y) (by positivity)
    _ = (a * b : Nat) * 2 ^ (j + k) := by push_cast; ring
    _ ≤ c * 2 ^ l := scaleMore product power

theorem divideBelow {q : ℚ} (one : 1 ≤ |q|) (below : Below a k x) (few : a < 2 ^ 53) (range : k ≤ 970) : Below a k (divide x q) := by
  obtain @⟨x,_,most⟩ := below
  refine ofRatBelow few range ?_
  rw [abs_div]
  exact (div_le_self (abs_nonneg x) one).trans most

-- What is rounded to an integer is as large at most, read as a double again.
theorem toIntBelow (below : Below a k x) (few : a < 2 ^ 53) (range : k ≤ 970) : Below a k (ofRat ((toInt x).getD 0 : Int)) := by
  obtain @⟨x,_,most⟩ := below
  have whole : |x| ≤ ((a * 2 ^ k : Int) : ℚ) := by push_cast; exact most
  refine ofRatBelow few range ?_
  exact_mod_cast halfEvenSmall whole

theorem foldBelow {xs : List Double} (start : Below b k x) (each : ∀ y ∈ xs, Below a k y) (few : b + a * xs.length < 2 ^ 53)
    (range : k ≤ 970) : Below (b + a * xs.length) k (xs.foldl add x) := by
  induction xs generalizing x b with
  | nil => exact start
  | cons y rest ih =>
    rw [List.length_cons,Nat.mul_succ] at few
    have one : Below (b + a) k (add x y) := addBelow start (each y List.mem_cons_self) le_rfl (by omega) range
    have all := ih one (fun y member => each y (List.mem_cons_of_mem _ member)) (by omega)
    rw [List.length_cons,Nat.mul_succ]
    exact belowMore all (by omega) le_rfl

theorem compensateBelow {s : Double × Double} (start : Below b k s.1) (lost : Below c k s.2) (next : Below a k x)
    (few : c + 2 * (b + a) < 2 ^ 53) (range : k ≤ 970) :
    Below (b + a) k (compensate s x).1 ∧ Below (c + 2 * (b + a)) k (compensate s x).2 := by
  have total : Below (b + a) k (add s.1 x) := addBelow start next le_rfl (by omega) range
  refine ⟨total,?_⟩
  have part : Below (2 * (b + a)) k (if atMost (abs x) (abs s.1) then add (sub s.1 (add s.1 x)) x
      else add (sub x (add s.1 x)) s.1) := by
    split
    · have gap : Below (b + (b + a)) k (sub s.1 (add s.1 x)) := subBelow start total le_rfl (by omega) range
      exact addBelow gap next (by omega) (by omega) range
    · have gap : Below (a + (b + a)) k (sub x (add s.1 x)) := subBelow next total le_rfl (by omega) range
      exact addBelow gap start (by omega) (by omega) range
  exact addBelow lost part le_rfl few range

theorem compensatedBelow {bound : Nat} {s : Double × Double} {xs : List Double} (start : Below b k s.1) (lost : Below c k s.2)
    (each : ∀ y ∈ xs, Below a k y) (inside : b + a * xs.length ≤ bound) (few : c + 2 * bound * xs.length < 2 ^ 53) (range : k ≤ 970) :
    Below (b + a * xs.length) k (xs.foldl compensate s).1 ∧ Below (c + 2 * bound * xs.length) k (xs.foldl compensate s).2 := by
  induction xs generalizing s b c with
  | nil => exact ⟨start,lost⟩
  | cons y rest ih =>
    rw [List.length_cons,Nat.mul_succ] at inside few
    obtain ⟨total,part⟩ := compensateBelow start lost (each y List.mem_cons_self) (by omega) range
    have part' : Below (c + 2 * bound) k (compensate s y).2 := belowMore part (by omega) le_rfl
    obtain ⟨left,right⟩ := ih total part' (fun y member => each y (List.mem_cons_of_mem _ member)) (by omega) (by omega)
    rw [List.length_cons,Nat.mul_succ,Nat.mul_succ]
    exact ⟨belowMore left (by omega) le_rfl,belowMore right (by omega) le_rfl⟩

/- A sum is no larger than its length allows, whichever way it is made. -/
theorem sumBelow (s : Summation) {xs : List Double} (each : ∀ y ∈ xs, Below a k y)
    (few : a * xs.length + 2 * (a * xs.length) * xs.length < 2 ^ 53) (range : k ≤ 970) :
    Below (a * xs.length + 2 * (a * xs.length) * xs.length) k (sum s xs) := by
  have zero : Below 0 k (ofRat 0) := ofRatBelow (by norm_num) range (by simp)
  cases s with
  | plain =>
    have all := foldBelow zero each (by omega) range
    exact belowMore all (by omega) le_rfl
  | compensated =>
    have both := @compensatedBelow a 0 0 k (a * xs.length) (ofRat 0,ofRat 0) xs zero zero each (Nat.le_of_eq (Nat.zero_add _))
      (by omega) range
    simp only [Nat.zero_add] at both
    have made : sum .compensated xs = add (xs.foldl compensate (ofRat 0,ofRat 0)).1 (xs.foldl compensate (ofRat 0,ofRat 0)).2 :=
      if_pos (belowFinite both.2)
    rw [made]
    exact addBelow both.1 both.2 le_rfl few range

end Below
end Double
end Moadian
