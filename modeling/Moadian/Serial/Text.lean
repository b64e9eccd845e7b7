import Moadian.Crypto.Canonical
import Moadian.TaxId

/-! The text of a counter file: what `int(path.read_text("ascii").strip())` makes of
it, and what `_write` puts there. A byte is the character with its code. -/
namespace Moadian.Serial
open TaxId (isDigit decimal maxSerial)
open Json (maxStrDigits)

abbrev Content := List Char

inductive Refusal where
  | undecodable
  | notInteger (raw : List Char)
  | negative (value : Int)
  | exhausted (serial : Nat)
  deriving DecidableEq, Repr

def ascii (c : Char) : Bool := c.toNat < 128

def space (c : Char) : Bool :=
  (9 ≤ c.toNat && c.toNat ≤ 13) || (28 ≤ c.toNat && c.toNat ≤ 32)

def strip (text : List Char) : List Char := ((text.dropWhile space).reverse.dropWhile space).reverse

-- Digits, where one underscore may stand between two of them.
def digitsAfter : List Char → Option (List Char)
  | [] => some []
  | '_' :: c :: rest => if isDigit c then (digitsAfter rest).map (c :: ·) else none
  | c :: rest => if isDigit c then (digitsAfter rest).map (c :: ·) else none

def digits : List Char → Option (List Char)
  | [] => none
  | c :: rest => if isDigit c then (digitsAfter rest).map (c :: ·) else none

def valueOf (ds : List Char) : Nat := ds.foldl (fun n c => 10 * n + (c.toNat - 48)) 0

def natural (text : List Char) : Option Nat :=
  match digits text with
  | none => none
  | some ds => if ds.length ≤ maxStrDigits then some (valueOf ds) else none

def int : List Char → Option Int
  | '+' :: rest => (natural rest).map Int.ofNat
  | '-' :: rest => (natural rest).map (fun n => -(n : Int))
  | text => (natural text).map Int.ofNat

def parse (bytes : Content) : Except Refusal Nat :=
  if bytes.all ascii then
    match int (strip bytes) with
    | none => .error (.notInteger (strip bytes))
    | some value => if value < 0 then .error (.negative value) else .ok value.toNat
  else .error .undecodable

def render (serial : Nat) : Content := decimal serial ++ ['\n']

-- The value a counter file stands for; a missing file counts as zero.
def stored : Option Content → Option Nat
  | none => some 0
  | some bytes => (parse bytes).toOption

theorem digitFacts {c : Char} (digit : isDigit c = true) :
    ascii c = true ∧ space c = false ∧ c ≠ '_' ∧ c ≠ '+' ∧ c ≠ '-' := by
  have bounds : 48 ≤ c.toNat ∧ c.toNat ≤ 57 := by
    simp only [isDigit,Bool.and_eq_true,decide_eq_true_eq] at digit
    exact digit
  refine ⟨?_,?_,?_,?_,?_⟩
  · simp only [ascii,decide_eq_true_eq]; omega
  · simp only [space,Bool.or_eq_false_iff,Bool.and_eq_false_iff,decide_eq_false_iff_not]; omega
  all_goals rintro rfl; revert bounds; decide

theorem digitsAfterAll {ds : List Char} (all : ∀ c ∈ ds, isDigit c = true) : digitsAfter ds = some ds := by
  induction ds with
  | nil => rfl
  | cons c rest ih =>
    have digit := all c List.mem_cons_self
    have later := ih (fun c member => all c (List.mem_cons_of_mem _ member))
    have plain := (digitFacts digit).2.2.1
    rw [digitsAfter]
    · simp [digit,later]
    · intro d tail same
      exact absurd same plain

theorem decimalShape (n : Nat) : ∃ c rest, decimal n = c :: rest ∧ ∀ d ∈ decimal n, isDigit d = true := by
  have all : ∀ d ∈ decimal n, isDigit d = true := fun d => TaxId.decimalDigits
  cases shape : decimal n with
  | nil => exact absurd shape (by simp [decimal])
  | cons c rest => exact ⟨c,rest,rfl,by rw [← shape]; exact all⟩

theorem valueSnoc (ds : List Char) (c : Char) : valueOf (ds ++ [c]) = 10 * valueOf ds + (c.toNat - 48) := by
  simp [valueOf]

theorem valueDecimal (n : Nat) : valueOf (decimal n) = n := by
  have one : ∀ {k : Nat}, k < 10 → k.digitChar.toNat - 48 = k := by decide
  induction n using Nat.strongRecOn with
  | ind n ih =>
    by_cases small : n < 10
    · simp only [decimal,Nat.toDigits_of_lt_base small]
      simp [valueOf,one small]
    · have fewer := ih (n / 10) (by omega)
      simp only [decimal] at fewer ⊢
      rw [Nat.toDigits_of_base_le (by decide) (by omega),valueSnoc,fewer,one (Nat.mod_lt n (by decide))]
      omega

theorem stripRender (n : Nat) : strip (render n) = decimal n := by
  obtain ⟨c,rest,shape,all⟩ := decimalShape n
  have head : (decimal n ++ ['\n']).dropWhile space = decimal n ++ ['\n'] := by
    rw [shape]
    have digit := all c (by rw [shape]; exact List.mem_cons_self)
    simp [(digitFacts digit).2.1]
  have ends : (decimal n).reverse.dropWhile space = (decimal n).reverse := by
    cases back : (decimal n).reverse with
    | nil => rfl
    | cons d tail =>
      have member : d ∈ decimal n := List.mem_reverse.mp (by rw [back]; exact List.mem_cons_self)
      simp [(digitFacts (all d member)).2.1]
  rw [strip,render,head,List.reverse_append,List.reverse_singleton,List.singleton_append,List.dropWhile_cons]
  rw [if_pos (by decide),ends,List.reverse_reverse]

theorem parseRender {n : Nat} (small : n ≤ maxSerial) : parse (render n) = .ok n := by
  obtain ⟨c,rest,shape,all⟩ := decimalShape n
  have plain : (render n).all ascii = true := by
    rw [render,List.all_append,Bool.and_eq_true]
    exact ⟨List.all_eq_true.mpr (fun d member => (digitFacts (all d member)).1),by decide⟩
  have short : (decimal n).length ≤ maxStrDigits := by
    have bound : (Nat.toDigits 10 n).length ≤ 13 :=
      (Nat.length_toDigits_le_iff (by decide) (by decide)).mpr (by simp only [maxSerial] at small; omega)
    exact Nat.le_trans bound (by decide)
  have whole : digits (decimal n) = some (decimal n) := by
    rw [shape] at all ⊢
    have later := digitsAfterAll (fun d member => all d (List.mem_cons_of_mem c member))
    simp [digits,all c List.mem_cons_self,later]
  have value : int (decimal n) = some (n : Int) := by
    have first := digitFacts (all c (by rw [shape]; exact List.mem_cons_self))
    have made : natural (decimal n) = some n := by rw [natural,whole]; simp [short,valueDecimal]
    rw [shape] at made ⊢
    rw [int]
    · rw [made]; rfl
    · intro tail same; exact absurd (List.cons.inj same).1 first.2.2.2.1
    · intro tail same; exact absurd (List.cons.inj same).1 first.2.2.2.2
  rw [parse,if_pos plain,stripRender,value]
  simp

@[simp] theorem storedRender {n : Nat} (small : n ≤ maxSerial) : stored (some (render n)) = some n := by
  rw [stored,parseRender small]; rfl

end Moadian.Serial
