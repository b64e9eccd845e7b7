import Mathlib.Data.List.Induction
import Moadian.Codec.Datetime
import Moadian.TaxId

/-! `int(text, 16)`: blanks around it, a sign, the mark `0x` and an underscore between two
digits are all allowed, and the decimal digits of any script are. -/
namespace Moadian.Codec
open TaxId (isDigit digitValue)

def asciiOf (c : Char) : Char :=
  if c.toNat < 127 then c
  else if Json.isSpace c then ' '
  else match decimalDigit c with
    | some n => n.digitChar
    | none => '?'

def cSpace (c : Char) : Bool := (9 ≤ c.toNat && c.toNat ≤ 13) || c.toNat == 32

def trimmed (text : List Char) : List Char := ((text.dropWhile cSpace).reverse.dropWhile cSpace).reverse

def hexDigit (c : Char) : Option Nat :=
  if isDigit c then some (c.toNat - 48)
  else if 'A' ≤ c ∧ c ≤ 'F' then some (c.toNat - 55)
  else if 'a' ≤ c ∧ c ≤ 'f' then some (c.toNat - 87)
  else none

def hexFrom (n : Nat) : List Char → Option Nat
  | [] => some n
  | '_' :: c :: rest => (hexDigit c).bind (fun d => hexFrom (16 * n + d) rest)
  | c :: rest => (hexDigit c).bind (fun d => hexFrom (16 * n + d) rest)

-- The first is a digit, never an underscore.
def hexAll : List Char → Option Nat
  | [] => none
  | c :: rest => (hexDigit c).bind (fun d => hexFrom d rest)

def afterMark : List Char → List Char
  | '_' :: rest => rest
  | rest => rest

def unmarked : List Char → List Char
  | '0' :: c :: rest => if c = 'x' ∨ c = 'X' then afterMark rest else '0' :: c :: rest
  | text => text

def natural16 (text : List Char) : Option Nat := hexAll (unmarked text)

def int16 (text : List Char) : Option Int :=
  match trimmed (text.map asciiOf) with
  | '+' :: rest => (natural16 rest).map Int.ofNat
  | '-' :: rest => (natural16 rest).map (fun n => -(n : Int))
  | rest => (natural16 rest).map Int.ofNat

example : int16 "0X_1F".toList = some 31 := by decide
example : int16 "-000۱".toList = some (-1) := by decide
example : int16 "00__1".toList = none := by decide

/-! Plain digits are read for what they are worth. -/

def isHex (c : Char) : Bool := isDigit c || ('A' ≤ c && c ≤ 'F')

theorem hexRange {c : Char} : isHex c = true ↔ (48 ≤ c.toNat ∧ c.toNat ≤ 57) ∨ (65 ≤ c.toNat ∧ c.toNat ≤ 70) := by
  simp only [isHex,isDigit,Bool.or_eq_true,Bool.and_eq_true,decide_eq_true_eq,TaxId.charLe]
  exact Iff.rfl

theorem hexDigitOf {c : Char} (hex : isHex c = true) : hexDigit c = some (digitValue c) := by
  unfold isHex at hex
  unfold hexDigit digitValue
  by_cases digit : isDigit c = true
  · rw [if_pos digit,if_pos digit]
  · have letter : 'A' ≤ c ∧ c ≤ 'F' := by simpa [digit] using hex
    rw [if_neg digit,if_neg digit,if_pos letter]

theorem hexPlain {c : Char} (hex : isHex c = true) :
    asciiOf c = c ∧ cSpace c = false ∧ c ≠ '_' ∧ c ≠ '+' ∧ c ≠ '-' ∧ c ≠ 'x' ∧ c ≠ 'X' := by
  have range := hexRange.mp hex
  refine ⟨if_pos (by omega),?_,?_,?_,?_,?_,?_⟩
  · simp only [cSpace,Bool.or_eq_false_iff,Bool.and_eq_false_iff,decide_eq_false_iff_not,beq_eq_false_iff_ne]
    omega
  all_goals rintro rfl; revert range; decide

theorem hexFromDigits {text : List Char} (all : ∀ c ∈ text, isHex c = true) (n : Nat) :
    hexFrom n text = some (text.foldl (fun n c => 16 * n + digitValue c) n) := by
  induction text generalizing n with
  | nil => rfl
  | cons c rest ih =>
    have hex := all c List.mem_cons_self
    have later := ih (fun d member => all d (List.mem_cons_of_mem _ member))
    rw [hexFrom]
    · rw [hexDigitOf hex]
      exact later (16 * n + digitValue c)
    · intro d tail same
      exact absurd same (hexPlain hex).2.2.1

theorem trimmedDigits {text : List Char} (all : ∀ c ∈ text, isHex c = true) : trimmed text = text := by
  have stays : ∀ xs : List Char, (∀ c ∈ xs, isHex c = true) → xs.dropWhile cSpace = xs := by
    intro xs hex
    cases xs with
    | nil => rfl
    | cons c rest => exact List.dropWhile_cons_of_neg (by simp [(hexPlain (hex c List.mem_cons_self)).2.1])
  rw [trimmed,stays text all,stays _ (fun c member => all c (List.mem_reverse.mp member)),List.reverse_reverse]

theorem natural16Digits {text : List Char} (some_ : text ≠ []) (all : ∀ c ∈ text, isHex c = true) :
    natural16 text = some (TaxId.hexValue text) := by
  obtain ⟨c,rest,rfl⟩ := List.exists_cons_of_ne_nil some_
  have plain : unmarked (c :: rest) = c :: rest := by
    unfold unmarked
    split
    · rename_i d tail same
      cases same
      have other := (hexPlain (all d (by simp))).2.2.2.2.2
      exact if_neg (by simp [other.1,other.2])
    · rfl
  rw [natural16,plain,hexAll,hexDigitOf (all c List.mem_cons_self),Option.bind_some,
    hexFromDigits (fun d member => all d (List.mem_cons_of_mem _ member)),TaxId.hexValue,List.foldl_cons,Nat.mul_zero,Nat.zero_add]

theorem int16Digits {text : List Char} (some_ : text ≠ []) (all : ∀ c ∈ text, isHex c = true) :
    int16 text = some (TaxId.hexValue text : Int) := by
  have same : text.map asciiOf = text := by
    rw [List.map_congr_left (fun c member => (hexPlain (all c member)).1),List.map_id']
  obtain ⟨c,rest,rfl⟩ := List.exists_cons_of_ne_nil some_
  have plain := hexPlain (all c List.mem_cons_self)
  rw [int16,same,trimmedDigits all]
  split
  · rename_i tail same
    cases same
    exact absurd rfl plain.2.2.2.1
  · rename_i tail same
    cases same
    exact absurd rfl plain.2.2.2.2.1
  · rw [natural16Digits some_ all]
    rfl

theorem digitValueSmall {c : Char} (hex : isHex c = true) : digitValue c < 16 := by
  have range := hexRange.mp hex
  unfold digitValue
  split
  · rename_i digit
    have bounds : 48 ≤ c.toNat ∧ c.toNat ≤ 57 := by
      simp only [isDigit,Bool.and_eq_true,decide_eq_true_eq] at digit
      exact digit
    omega
  · omega

theorem digitValueInjective {a b : Char} (first : isHex a = true) (second : isHex b = true)
    (same : digitValue a = digitValue b) : a = b := by
  have left := hexRange.mp first
  have right := hexRange.mp second
  have digit : ∀ c : Char, isDigit c = true ↔ 48 ≤ c.toNat ∧ c.toNat ≤ 57 := by
    intro c
    simp only [isDigit,Bool.and_eq_true,decide_eq_true_eq]
    exact Iff.rfl
  refine Char.toNat_inj.mp ?_
  unfold digitValue at same
  simp only [digit] at same
  split_ifs at same <;> omega

theorem hexValueInjective {xs ys : List Char} (left : ∀ c ∈ xs, isHex c = true) (right : ∀ c ∈ ys, isHex c = true)
    (long : xs.length = ys.length) (same : TaxId.hexValue xs = TaxId.hexValue ys) : xs = ys := by
  induction xs using List.reverseRecOn generalizing ys with
  | nil => exact (List.eq_nil_of_length_eq_zero long.symm).symm
  | append_singleton xs a ih =>
    have some_ : ys ≠ [] := by rintro rfl; simp at long
    obtain ⟨zs,b,rfl⟩ : ∃ zs b, ys = zs ++ [b] := ⟨_,_,(List.dropLast_append_getLast some_).symm⟩
    have first := left a (by simp)
    have second := right b (by simp)
    have small := digitValueSmall first
    have small' := digitValueSmall second
    rw [TaxId.hexValueSnoc,TaxId.hexValueSnoc] at same
    have last := digitValueInjective first second (by omega)
    have before := ih (fun c member => left c (List.mem_append_left _ member)) (fun c member => right c (List.mem_append_left _ member))
      (by simpa using long) (by omega)
    rw [before,last]

end Moadian.Codec
