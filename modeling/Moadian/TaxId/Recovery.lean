import Moadian.Codec.Integer
import Moadian.TaxId.Detection

/-! The serial read back out of a tax id, as the repair tool does before it sets a
counter: the text is trimmed and put into capitals, cut at fixed places, and its last
character compared with the check digit of what was read. -/
namespace Moadian.TaxId
open Codec (int16 isHex hexRange)

-- What `str` does with characters beyond ASCII.
structure Str where
  upper : Char → List Char
  repr : List Char → String
  ascii : ∀ c : Char, c.toNat < 128 → upper c = [TaxId.upper c]

def serialStart : Nat := 11

def serialEnd : Nat := 21

def dayField (text : List Char) : List Char := (text.drop 6).take (serialStart - 6)

def serialField (text : List Char) : List Char := (text.drop serialStart).take (serialEnd - serialStart)

def zeroPadded (width : Nat) (value : Int) : List Char :=
  if value < 0 then '-' :: padded (width - 1) (decimal value.natAbs) else padded width (decimal value.toNat)

def controlText (memoryId : List Char) (day serial : Int) : List Char :=
  decimalise memoryId ++ zeroPadded 6 day ++ zeroPadded 12 serial

def strip (text : List Char) : List Char :=
  ((text.dropWhile Json.isSpace).reverse.dropWhile Json.isSpace).reverse

def Str.capitals (str : Str) (text : List Char) : List Char := (strip text).flatMap str.upper

def Str.int (str : Str) (text : List Char) : Except String Int :=
  match int16 text with
  | some value => .ok value
  | none => .error ("invalid literal for int() with base 16: " ++ str.repr text)

def serialOf (str : Str) (taxId : List Char) : Except Exc (List Char × Int) := do
  let taxId := str.capitals taxId
  if taxId.length ≠ taxIdLength then
    throw (.valueError (str.repr taxId ++ " is " ++ toString taxId.length ++ " characters; a tax id is " ++
      toString taxIdLength))
  let memoryId := taxId.take 6
  let parse := fun text => (str.int text).mapError (fun exc =>
    Exc.valueError (str.repr taxId ++ " does not parse as a tax id: " ++ exc))
  let day ← parse (dayField taxId)
  let serial ← parse (serialField taxId)
  let expected ← Verhoeff.checkDigit (controlText memoryId day serial)
  if taxId.drop (taxId.length - 1) ≠ decimal expected then
    throw (.valueError (str.repr taxId ++ " fails its check digit (got " ++
      String.ofList (taxId.drop (taxId.length - 1)) ++ ", expected " ++ String.ofList (decimal expected) ++
      "). Re-read it from the source — a mistyped tax id here could set the counter to the wrong number."))
  return (memoryId,serial)

/- The text reads as this day and serial, and its last character is their check digit. -/
structure Passes (text : List Char) (day serial : Nat) : Prop where
  long : text.length = taxIdLength
  readsDay : int16 (dayField text) = some (day : Int)
  readsSerial : int16 (serialField text) = some (serial : Int)
  digit : ∃ digit, Verhoeff.checkDigit (controlText (text.take 6) day serial) = .ok digit ∧ text.drop 21 = decimal digit

theorem checkedNatural {memoryId : List Char} {day serial : Int} {digit : Nat}
    (h : Verhoeff.checkDigit (controlText memoryId day serial) = .ok digit) : 0 ≤ day ∧ 0 ≤ serial := by
  have digits : ∀ c ∈ controlText memoryId day serial, isDigit c = true := by
    unfold Verhoeff.checkDigit at h
    cases read : Verhoeff.reversedDigits (controlText memoryId day serial) with
    | error e => rw [read] at h; cases h
    | ok digits => exact (Verhoeff.reversedDigitsOk read).2
  have sign : '-' ∉ controlText memoryId day serial := fun member => absurd (digits '-' member) (by decide)
  simp only [controlText,List.mem_append,not_or] at sign
  constructor
  · by_contra negative
    exact sign.1.2 (by rw [zeroPadded,if_pos (by omega)]; exact List.mem_cons_self)
  · by_contra negative
    exact sign.2 (by rw [zeroPadded,if_pos (by omega)]; exact List.mem_cons_self)

theorem intOk {str : Str} {text : List Char} {f : String → Exc} {value : Int} :
    (str.int text).mapError f = .ok value ↔ int16 text = some value := by
  unfold Str.int
  cases int16 text with
  | none => simp [Except.mapError]
  | some read => simp [Except.mapError]

theorem acceptedIff (str : Str) (taxId : List Char) (memoryId : List Char) (serial : Int) :
    serialOf str taxId = .ok (memoryId,serial) ↔ ∃ day n : Nat, Passes (str.capitals taxId) day n ∧
      memoryId = (str.capitals taxId).take 6 ∧ serial = n := by
  constructor
  · intro h
    simp only [serialOf] at h
    split at h
    · cases h
    · rename_i long
      have whole : (str.capitals taxId).length = taxIdLength := by simpa using long
      obtain ⟨day,readDay,h⟩ := okBind h
      obtain ⟨n,readSerial,h⟩ := okBind h
      obtain ⟨digit,check,h⟩ := okBind h
      split at h
      · cases h
      · rename_i last
        cases Except.ok.inj h
        have natural := checkedNatural check
        rw [whole] at last
        refine ⟨day.toNat,serial.toNat,⟨whole,?_,?_,digit,?_,not_not.mp last⟩,rfl,
          (Int.toNat_of_nonneg natural.2).symm⟩
        · rw [intOk.mp readDay,Int.toNat_of_nonneg natural.1]
        · rw [intOk.mp readSerial,Int.toNat_of_nonneg natural.2]
        · rw [Int.toNat_of_nonneg natural.1,Int.toNat_of_nonneg natural.2]
          exact check
  · rintro ⟨day,n,passes,rfl,rfl⟩
    obtain ⟨digit,check,last⟩ := passes.digit
    simp only [serialOf]
    rw [if_neg (by simp [passes.long]),intOk.mpr passes.readsDay]
    simp only [bind,Except.bind,intOk.mpr passes.readsSerial,check]
    have end_ : (str.capitals taxId).drop (taxIdLength - 1) = decimal digit := last
    rw [passes.long,if_neg (not_not.mpr end_)]
    rfl

/-! Whatever is refused is refused with a `ValueError`. -/

def OnlyValue {α : Type} (x : Except Exc α) : Prop := ∀ e, x = .error e → ∃ message, e = .valueError message

theorem OnlyValue.ok {α : Type} (a : α) : OnlyValue (.ok a : Except Exc α) := fun _ h => by cases h

theorem OnlyValue.raise {α : Type} (message : String) : OnlyValue (.error (.valueError message) : Except Exc α) :=
  fun _ h => ⟨message,(Except.error.inj h).symm⟩

theorem OnlyValue.bind {α β : Type} {x : Except Exc α} {f : α → Except Exc β} (first : OnlyValue x)
    (rest : ∀ a, OnlyValue (f a)) : OnlyValue (x >>= f) := by
  cases x with
  | error e => exact fun _ h => first _ (congrArg Except.error (Except.error.inj h))
  | ok a => exact rest a

theorem OnlyValue.digit (number : List Char) : OnlyValue (Verhoeff.checkDigit number) := by
  have read : OnlyValue (Verhoeff.reversedDigits number) := by
    unfold Verhoeff.reversedDigits
    split
    · exact .raise _
    · split
      · exact .raise _
      · exact .ok _
  intro e h
  unfold Verhoeff.checkDigit at h
  cases back : Verhoeff.reversedDigits number with
  | ok digits => rw [back] at h; cases h
  | error refused => rw [back] at h; cases Except.error.inj h; exact read _ back

theorem OnlyValue.int (str : Str) (text : List Char) (f : String → String) :
    OnlyValue ((str.int text).mapError (fun exc => Exc.valueError (f exc))) := by
  unfold Str.int
  split
  · exact .ok _
  · exact .raise _

theorem OnlyValue.serialOf (str : Str) (taxId : List Char) : OnlyValue (serialOf str taxId) := by
  simp only [TaxId.serialOf]
  split
  · exact .raise _
  · refine .bind (.int str _ _) (fun day => .bind (.int str _ _) (fun serial => .bind (.digit _) (fun expected => ?_)))
    split
    · exact .raise _
    · exact .ok _

/-! What was minted passes, and what passes and is spelt as minted ones are was minted. -/

def isCapital (c : Char) : Bool := isDigit c || ('A' ≤ c && c ≤ 'Z')

structure Minted (text memory : List Char) (day serial digit : Nat) : Prop where
  text : text = memory ++ (padded 5 (hexDigits day) ++ (padded 10 (hexDigits serial) ++ decimal digit))
  six : memory.length = 6
  capital : ∀ c ∈ memory, isCapital c = true
  dayFits : (day : Int) ≤ maxDayRange
  serialFits : serial ≤ maxSerial
  checked : Verhoeff.checkDigit (controlText memory day serial) = .ok digit

structure Clean (text : List Char) : Prop where
  memory : ∀ c ∈ text.take 6, isCapital c = true
  day : ∀ c ∈ dayField text, isHex c = true
  serial : ∀ c ∈ serialField text, isHex c = true

theorem capitalRange {c : Char} :
    isCapital c = true ↔ (48 ≤ c.toNat ∧ c.toNat ≤ 57) ∨ (65 ≤ c.toNat ∧ c.toNat ≤ 90) := by
  simp only [isCapital,isDigit,Bool.or_eq_true,Bool.and_eq_true,decide_eq_true_eq,charLe]
  exact Iff.rfl

theorem upperCapital {c : Char} (capital : isCapital c = true) : upper c = c := by
  have range := capitalRange.mp capital
  refine if_neg (fun lower => ?_)
  simp only [Bool.and_eq_true,decide_eq_true_eq,charLe] at lower
  have bounds : 97 ≤ c.toNat ∧ c.toNat ≤ 122 := lower
  omega

theorem capitalAlphanumeric {c : Char} (capital : isCapital c = true) : isAlphanumeric c = true := by
  unfold isCapital at capital
  unfold isAlphanumeric
  rw [capital,Bool.true_or]

theorem hexDigitsHex (n : Nat) : ∀ c ∈ hexDigits n, isHex c = true := by
  have one : ∀ d < 16, isHex (upper d.digitChar) = true := by decide
  induction n using Nat.strongRecOn with
  | ind n ih =>
    intro c member
    by_cases small : n < 16
    · rw [hexDigits,Nat.toDigits_of_lt_base small] at member
      rw [List.mem_singleton.mp member]
      exact one n small
    · rw [hexDigits,Nat.toDigits_of_base_le (by decide) (by omega),List.map_append,List.mem_append] at member
      rcases member with before | last
      · exact ih (n / 16) (by omega) c before
      · rw [List.mem_singleton.mp last]
        exact one _ (Nat.mod_lt n (by decide))

theorem paddedHex {width n : Nat} : ∀ c ∈ padded width (hexDigits n), isHex c = true := by
  intro c member
  rcases List.mem_append.mp member with zero | own
  · rw [List.eq_of_mem_replicate zero]
    rfl
  · exact hexDigitsHex n c own

theorem hexValueSmall {text : List Char} (all : ∀ c ∈ text, isHex c = true) : hexValue text < 16 ^ text.length := by
  induction text using List.reverseRecOn with
  | nil => decide
  | append_singleton text c ih =>
    have before := ih (fun d member => all d (List.mem_append_left _ member))
    have last := Codec.digitValueSmall (all c (by simp))
    rw [hexValueSnoc,List.length_append,List.length_singleton,Nat.pow_succ]
    omega

theorem fieldOfValue {width : Nat} (some_ : 0 < width) {text : List Char} (long : text.length = width)
    (all : ∀ c ∈ text, isHex c = true) : padded width (hexDigits (hexValue text)) = text := by
  have small := hexValueSmall all
  rw [long] at small
  refine Codec.hexValueInjective paddedHex all ?_ ?_
  · rw [hexLength some_ small,long]
  · rw [paddedValue,hexDigitsValue]

theorem fieldRead {width n : Nat} (some_ : 0 < width) (small : n < 16 ^ width) :
    int16 (padded width (hexDigits n)) = some (n : Int) := by
  have filled : padded width (hexDigits n) ≠ [] := fun none_ => by
    have long := hexLength some_ small
    rw [none_] at long
    simp at long
    omega
  rw [Codec.int16Digits filled paddedHex,paddedValue,hexDigitsValue]

section Minted
variable {text memory : List Char} {day serial digit : Nat}

theorem Minted.dayLong (h : Minted text memory day serial digit) : (padded 5 (hexDigits day)).length = 5 := by
  refine hexLength (by decide) ?_
  have := h.dayFits
  simp only [maxDayRange] at this
  omega

theorem Minted.serialLong (h : Minted text memory day serial digit) : (padded 10 (hexDigits serial)).length = 10 := by
  refine hexLength (by decide) ?_
  have := h.serialFits
  simp only [maxSerial] at this
  omega

theorem Minted.fields (h : Minted text memory day serial digit) : text.take 6 = memory ∧
    dayField text = padded 5 (hexDigits day) ∧ serialField text = padded 10 (hexDigits serial) ∧
      text.drop 21 = decimal digit := by
  have days : text.drop 6 = padded 5 (hexDigits day) ++ (padded 10 (hexDigits serial) ++ decimal digit) := by
    rw [h.text,List.drop_left' h.six]
  have serials : text.drop 11 = padded 10 (hexDigits serial) ++ decimal digit := by
    have split : text.drop 11 = (text.drop 6).drop 5 := by rw [List.drop_drop]
    rw [split,days,List.drop_left' h.dayLong]
  refine ⟨by rw [h.text,List.take_left' h.six],?_,?_,?_⟩
  · exact (congrArg (List.take 5) days).trans (List.take_left' h.dayLong)
  · exact (congrArg (List.take 10) serials).trans (List.take_left' h.serialLong)
  · have split : text.drop 21 = (text.drop 11).drop 10 := by rw [List.drop_drop]
    rw [split,serials,List.drop_left' h.serialLong]

theorem decimalOne {digit : Nat} (small : digit < 10) : decimal digit = [digit.digitChar] :=
  Nat.toDigits_of_lt_base small

theorem digitSmall {number : List Char} (h : Verhoeff.checkDigit number = .ok digit) : digit < 10 := by
  have digits : number ≠ [] ∧ ∀ c ∈ number, isDigit c = true := by
    unfold Verhoeff.checkDigit at h
    cases read : Verhoeff.reversedDigits number with
    | error e => rw [read] at h; cases h
    | ok digits => exact Verhoeff.reversedDigitsOk read
  rw [Verhoeff.checkDigitOf digits.1 digits.2] at h
  cases Except.ok.inj h
  exact (Verhoeff.inverse _ (Verhoeff.foldSmall 1 digits.2)).1

theorem Minted.long (h : Minted text memory day serial digit) : text.length = taxIdLength := by
  rw [h.text,List.length_append,List.length_append,List.length_append,h.six,h.dayLong,h.serialLong,
    decimalOne (digitSmall h.checked)]
  rfl

theorem Minted.passes (h : Minted text memory day serial digit) : Passes text day serial := by
  obtain ⟨memories,days,serials,last⟩ := h.fields
  have most := h.dayFits
  have most' := h.serialFits
  simp only [maxDayRange] at most
  simp only [maxSerial] at most'
  refine ⟨h.long,?_,?_,digit,?_,last⟩
  · rw [days,fieldRead (by decide) (by omega)]
  · rw [serials,fieldRead (by decide) (by omega)]
  · rw [memories]
    exact h.checked

theorem Minted.clean (h : Minted text memory day serial digit) : Clean text := by
  obtain ⟨memories,days,serials,_⟩ := h.fields
  exact ⟨memories ▸ h.capital,days ▸ paddedHex,serials ▸ paddedHex⟩

theorem Passes.minted (passes : Passes text day serial) (clean : Clean text) :
    ∃ digit, Minted text (text.take 6) day serial digit := by
  obtain ⟨digit,check,last⟩ := passes.digit
  have long : text.length = 22 := passes.long
  have five : (dayField text).length = 5 := by
    simp only [dayField,serialStart,List.length_take,List.length_drop,long]
    rfl
  have ten : (serialField text).length = 10 := by
    simp only [serialField,serialStart,serialEnd,List.length_take,List.length_drop,long]
    rfl
  have some5 : dayField text ≠ [] := fun none_ => by rw [none_] at five; cases five
  have some10 : serialField text ≠ [] := fun none_ => by rw [none_] at ten; cases ten
  have days := passes.readsDay
  have serials := passes.readsSerial
  rw [Codec.int16Digits some5 clean.day,Option.some.injEq,Int.ofNat_inj] at days
  rw [Codec.int16Digits some10 clean.serial,Option.some.injEq,Int.ofNat_inj] at serials
  have small := hexValueSmall clean.day
  have small' := hexValueSmall clean.serial
  rw [five,days] at small
  rw [ten,serials] at small'
  refine ⟨digit,?_,by rw [List.length_take,long]; rfl,clean.memory,?_,?_,check⟩
  · rw [← days,← serials,fieldOfValue (by decide) five clean.day,fieldOfValue (by decide) ten clean.serial,← last]
    have first : text = text.take 6 ++ text.drop 6 := (List.take_append_drop 6 text).symm
    have second : text.drop 6 = dayField text ++ (text.drop 6).drop 5 := (List.take_append_drop 5 _).symm
    have third : text.drop 11 = serialField text ++ (text.drop 11).drop 10 := (List.take_append_drop 10 _).symm
    rw [List.drop_drop] at second third
    rw [← third,← second]
    exact first
  · simp only [maxDayRange]
    omega
  · simp only [maxSerial]
    omega

end Minted

end Moadian.TaxId
