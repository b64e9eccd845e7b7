import Moadian.Codec.JsonText
import Mathlib.Data.List.TakeWhile

/-! Numbers as `json` scans them: the text of an integer, and of a float in the form its
`repr` has, are read to their end and no further. -/
namespace Moadian.Codec

def Ends (tail : List Char) : Prop := ∀ c ∈ tail.head?, c.isDigit = false ∧ c ≠ '.' ∧ c ≠ 'e' ∧ c ≠ 'E'

theorem endsCons {c : Char} {tail : List Char} (digit : c.isDigit = false) (dot : c ≠ '.') (small : c ≠ 'e') (large : c ≠ 'E') :
    Ends (c :: tail) := by
  rintro d ⟨⟩
  exact ⟨digit,dot,small,large⟩

theorem digitsAll {n : Nat} : ∀ c ∈ Nat.toDigits 10 n, c.isDigit = true :=
  fun _ => Nat.isDigit_of_mem_toDigits (by decide) (by decide)

theorem leadingDigit {n : Nat} (positive : 0 < n) : ∃ c rest, Nat.toDigits 10 n = c :: rest ∧ c ≠ '0' := by
  induction n using Nat.strongRecOn with
  | ind n ih =>
    by_cases small : n < 10
    · have nonzero : ∀ n < 10, 0 < n → n.digitChar ≠ '0' := by decide
      exact ⟨_,[],Nat.toDigits_of_lt_base small,nonzero n small positive⟩
    · obtain ⟨c,rest,shape,leading⟩ := ih (n / 10) (by omega) (by omega)
      refine ⟨c,rest ++ [(n % 10).digitChar],?_,leading⟩
      rw [Nat.toDigits_of_base_le (by decide) (by omega),shape]
      rfl

/- The parts of a number: digits that do not begin with a needless zero, and after them
a fraction, an exponent, or both. -/

def Whole (whole : List Char) : Prop :=
  whole = ['0'] ∨ ∃ c rest, whole = c :: rest ∧ c ≠ '0' ∧ ∀ d ∈ c :: rest, d.isDigit = true

def Fraction (fraction : List Char) : Prop :=
  fraction = [] ∨ ∃ c rest, fraction = '.' :: c :: rest ∧ ∀ d ∈ c :: rest, d.isDigit = true

def Exponent (exponent : List Char) : Prop :=
  exponent = [] ∨ ∃ sign c rest, exponent = 'e' :: (sign ++ c :: rest) ∧ (sign = [] ∨ sign = ['+'] ∨ sign = ['-']) ∧
    ∀ d ∈ c :: rest, d.isDigit = true

def signText (negative : Bool) : List Char := if negative then ['-'] else []

structure FloatText (text : List Char) : Prop where
  parts : ∃ negative whole fraction exponent, text = signText negative ++ whole ++ fraction ++ exponent ∧
    Whole whole ∧ Fraction fraction ∧ Exponent exponent ∧ ¬ (fraction = [] ∧ exponent = [])

def Stops (tail : List Char) : Prop := ∀ c ∈ tail.head?, c.isDigit = false

theorem stopsScan {digits tail : List Char} (all : ∀ d ∈ digits, d.isDigit = true) (stops : Stops tail) :
    (digits ++ tail).takeWhile Char.isDigit = digits ∧ (digits ++ tail).dropWhile Char.isDigit = tail := by
  have ended : tail.takeWhile Char.isDigit = [] ∧ tail.dropWhile Char.isDigit = tail := by
    cases tail with
    | nil => exact ⟨rfl,rfl⟩
    | cons c tail => simp [stops c rfl]
  rw [List.takeWhile_append_of_pos all,List.dropWhile_append_of_pos all,ended.1,ended.2,List.append_nil]
  exact ⟨rfl,rfl⟩

theorem endsStops {tail : List Char} (ends : Ends tail) : Stops tail := fun c head => (ends c head).1

theorem wholeScan {whole tail : List Char} (digits : Whole whole) (stops : Stops tail) :
    wholePart (whole ++ tail) = some (whole,tail) := by
  rcases digits with rfl | ⟨c,rest,rfl,leading,all⟩
  · simp [wholePart]
  · have later := stopsScan (fun d member => all d (List.mem_cons_of_mem _ member)) stops
    rw [List.cons_append,wholePart,if_neg leading,if_pos (all c List.mem_cons_self),later.1,later.2]

theorem wholeDigits (n : Nat) : Whole (Nat.toDigits 10 n) := by
  rcases Nat.eq_zero_or_pos n with zero | positive
  · subst zero
    exact .inl (by simp)
  · obtain ⟨c,rest,shape,leading⟩ := leadingDigit positive
    exact .inr ⟨c,rest,shape,leading,fun d member => digitsAll d (shape ▸ member)⟩

theorem wholeBack (n : Nat) {tail : List Char} (ends : Ends tail) :
    wholePart (Nat.toDigits 10 n ++ tail) = some (Nat.toDigits 10 n,tail) :=
  wholeScan (wholeDigits n) (endsStops ends)

theorem noFraction {tail : List Char} (ends : Ends tail) : fractionPart tail = none ∧ exponentPart tail = none := by
  cases tail with
  | nil => exact ⟨rfl,rfl⟩
  | cons c tail =>
    obtain ⟨_,dot,small,large⟩ := ends c rfl
    constructor
    · unfold fractionPart
      split
      · rename_i same
        cases same
        exact absurd rfl dot
      · rfl
    · rw [exponentPart,if_neg (fun e => e.elim small large)]

theorem exponentEnds {exponent tail : List Char} (form : Exponent exponent) (ends : Ends tail) :
    Stops (exponent ++ tail) ∧ (exponent ++ tail).head? ≠ some '.' := by
  rcases form with rfl | ⟨sign,c,rest,rfl,_,_⟩
  · refine ⟨endsStops ends,fun dot => ?_⟩
    exact (ends '.' dot).2.1 rfl
  · refine ⟨?_,by simp⟩
    rintro d ⟨⟩
    rfl

theorem fractionEnds {fraction exponent tail : List Char} (form : Fraction fraction) (after : Exponent exponent)
    (ends : Ends tail) : Stops (fraction ++ (exponent ++ tail)) := by
  rcases form with rfl | ⟨c,rest,rfl,_⟩
  · exact (exponentEnds after ends).1
  · rintro d ⟨⟩
    rfl

theorem fractionScan {fraction exponent tail : List Char} (form : Fraction fraction) (after : Exponent exponent)
    (ends : Ends tail) : (fractionPart (fraction ++ (exponent ++ tail))).getD ([],fraction ++ (exponent ++ tail)) =
      (fraction,exponent ++ tail) := by
  obtain ⟨stops,noDot⟩ := exponentEnds after ends
  rcases form with rfl | ⟨c,rest,rfl,all⟩
  · have none_ : fractionPart (exponent ++ tail) = none := by
      unfold fractionPart
      split
      · rename_i same
        exact absurd (by rw [same]; rfl) noDot
      · rfl
    rw [List.nil_append,none_]
    rfl
  · have later := stopsScan (fun d member => all d (List.mem_cons_of_mem _ member)) stops
    rw [List.cons_append,List.cons_append,fractionPart,if_pos (all c List.mem_cons_self),later.1,later.2]
    rfl

theorem exponentScan {exponent tail : List Char} (form : Exponent exponent) (ends : Ends tail) :
    (exponentPart (exponent ++ tail)).getD ([],exponent ++ tail) = (exponent,tail) := by
  rcases form with rfl | ⟨sign,c,rest,rfl,signed,all⟩
  · rw [List.nil_append,(noFraction ends).2]
    rfl
  · have scanned := stopsScan all (endsStops ends)
    have digit := all c List.mem_cons_self
    have unsigned : ¬ (c = '+' ∨ c = '-') := by
      rintro (rfl | rfl) <;> exact absurd digit (by decide)
    have sign_ : ((sign ++ (c :: rest ++ tail)).take 1).filter (fun c => c = '+' ∨ c = '-') = sign := by
      rcases signed with rfl | rfl | rfl
      · simp [unsigned]
      · rfl
      · rfl
    have shape : 'e' :: (sign ++ c :: rest) ++ tail = 'e' :: (sign ++ (c :: rest ++ tail)) := by simp
    rw [shape,exponentPart,if_pos (.inl rfl)]
    simp only [sign_,List.drop_left,scanned.1,scanned.2,List.cons_ne_nil,if_false]
    rfl

theorem readDigits (negative : Bool) {n : Nat} (short : n < 10 ^ maxDigits) : readInt negative (Nat.toDigits 10 n) =
    .ok (.int (if negative then -(n : Int) else n)) := by
  have fits : ¬maxDigits < (Nat.toDigits 10 n).length := by
    rw [Nat.not_lt,Nat.length_toDigits_le_iff (by decide) (by decide)]
    exact short
  rw [readInt,if_neg fits,Nat.ofDigitChars_ten_toDigits]

theorem numberBack (floats : Floats) {n : Int} (short : n.natAbs < 10 ^ maxDigits) {tail : List Char} (ends : Ends tail) :
    scanNumber floats (intText n ++ tail) = .ok (.int n,tail) := by
  obtain ⟨fraction,exponent⟩ := noFraction ends
  have read := wholeBack n.natAbs ends
  unfold intText
  split
  · rename_i negative
    have value : -(n.natAbs : Int) = n := by omega
    simp only [scanNumber,List.cons_append,List.head?_cons,List.drop_succ_cons,List.drop_zero,beq_self_eq_true,if_true,read,
      fraction,exponent,Option.getD_none,and_self,readDigits true short,value]
    rfl
  · rename_i positive
    have value : (n.natAbs : Int) = n := by omega
    have sign : ((Nat.toDigits 10 n.natAbs ++ tail).head? == some '-') = false := by
      cases shape : Nat.toDigits 10 n.natAbs with
      | nil => exact absurd shape Nat.toDigits_ne_nil
      | cons c rest =>
        have digit := digitsAll c (by rw [shape]; exact List.mem_cons_self)
        simp only [List.cons_append,List.head?_cons,beq_eq_false_iff_ne,ne_eq,Option.some.injEq]
        rintro rfl
        exact absurd digit (by decide)
    simp only [scanNumber,sign,Bool.false_eq_true,if_false,read,fraction,exponent,Option.getD_none,and_self,if_true,
      readDigits false short,value]
    rfl

theorem floatBack (floats : Floats) {text : List Char} (form : FloatText text) {tail : List Char} (ends : Ends tail) :
    scanNumber floats (text ++ tail) = .ok (.float (floats.read text),tail) := by
  obtain ⟨negative,whole,fraction,exponent,rfl,digits,dot,mark,some_⟩ := form.parts
  have first := wholeScan digits (fractionEnds dot mark ends)
  have second := fractionScan dot mark ends
  have third := exponentScan mark ends
  have sign : ((whole ++ (fraction ++ (exponent ++ tail))).head? == some '-') = false := by
    rcases digits with rfl | ⟨c,rest,rfl,_,all⟩
    · rfl
    · have digit := all c List.mem_cons_self
      simp only [List.cons_append,List.head?_cons,beq_eq_false_iff_ne,ne_eq,Option.some.injEq]
      rintro rfl
      exact absurd digit (by decide)
  cases negative with
  | false =>
    simp only [signText,Bool.false_eq_true,if_false,List.nil_append,List.append_assoc,scanNumber,sign,first,second,third]
    rw [if_neg some_]
  | true =>
    simp only [signText,if_true,List.cons_append,List.nil_append,List.append_assoc,scanNumber,List.head?_cons,
      beq_self_eq_true,List.drop_succ_cons,List.drop_zero,first,second,third]
    rw [if_neg some_]

theorem floatBegins {text : List Char} (form : FloatText text) : ∃ c rest, text = c :: rest ∧
    (c.isDigit = true ∨ c = '-' ∧ ∃ d more, rest = d :: more ∧ d.isDigit = true) := by
  obtain ⟨negative,whole,fraction,exponent,rfl,digits,_⟩ := form.parts
  have leading : ∃ c rest, whole = c :: rest ∧ c.isDigit = true := by
    rcases digits with rfl | ⟨c,rest,rfl,_,all⟩
    · exact ⟨_,_,rfl,rfl⟩
    · exact ⟨c,rest,rfl,all c List.mem_cons_self⟩
  obtain ⟨c,rest,rfl,digit⟩ := leading
  cases negative with
  | false => exact ⟨_,_,rfl,.inl digit⟩
  | true => exact ⟨_,_,rfl,.inr ⟨rfl,_,_,rfl,digit⟩⟩

end Moadian.Codec
