import Moadian.TaxId.Decoding

/-! A slip of a tax id. Where it is one slip of the control text too, the check digit
sees it. Elsewhere the mistyped text can be another tax id. -/
namespace Moadian.TaxId
open Codec (int16 isHex)
open CheckSum (Slip)

def Slips (text mistyped : List Char) : Prop := Slip (isCapital · = true) text mistyped

-- A field that reads `0X...` counts as hexadecimal digits without its first two.
def Marked (text : List Char) : Prop := (dayField text).take 2 = ['0','X'] ∨ (serialField text).take 2 = ['0','X']

theorem capitalsPlain (str : Str) {text : List Char} (some_ : text ≠ []) (all : ∀ c ∈ text, isCapital c = true) :
    str.capitals text = text := by
  have none_ : ∀ c ∈ ([] : List Char), Json.isSpace c = true := fun c member => by cases member
  have plain := capitalsOf str none_ none_ (fun c member => capitalAlphanumeric (all c member)) some_
  rw [List.nil_append,List.append_nil] at plain
  rw [plain,List.map_congr_left (fun c member => upperCapital (all c member)),List.map_id']

theorem capitalPlain {c : Char} (capital : isCapital c = true) :
    Codec.asciiOf c = c ∧ Codec.cSpace c = false ∧ c ≠ '_' ∧ c ≠ '+' ∧ c ≠ '-' ∧ c ≠ 'x' := by
  have range := capitalRange.mp capital
  refine ⟨if_pos (by omega),?_,?_,?_,?_,?_⟩
  · simp only [Codec.cSpace,Bool.or_eq_false_iff,Bool.and_eq_false_iff,decide_eq_false_iff_not,beq_eq_false_iff_ne]
    omega
  all_goals rintro rfl; revert range; decide

theorem capitalHex {c : Char} (capital : isCapital c = true) {n : Nat} (digit : Codec.hexDigit c = some n) :
    isHex c = true := by
  have range := capitalRange.mp capital
  unfold Codec.hexDigit at digit
  unfold isHex
  split at digit
  · rename_i own
    rw [own,Bool.true_or]
  · split at digit
    · rename_i letter
      simp [letter.1,letter.2]
    · split at digit
      · rename_i small
        simp only [charLe] at small
        have low : 97 ≤ c.toNat := small.1
        omega
      · cases digit

theorem hexFromHex {text : List Char} (all : ∀ c ∈ text, isCapital c = true) {n v : Nat}
    (read : Codec.hexFrom n text = some v) : ∀ c ∈ text, isHex c = true := by
  induction text generalizing n with
  | nil => exact fun c member => by cases member
  | cons c rest ih =>
    rw [Codec.hexFrom] at read
    · obtain ⟨d,digit,later⟩ := Option.bind_eq_some_iff.mp read
      intro b member
      rcases List.mem_cons.mp member with rfl | own
      · exact capitalHex (all b List.mem_cons_self) digit
      · exact ih (fun b member => all b (List.mem_cons_of_mem _ member)) later b own
    · intro d tail same
      exact absurd same (capitalPlain (all c List.mem_cons_self)).2.2.1

theorem natural16Hex {text : List Char} (all : ∀ c ∈ text, isCapital c = true) (unmarked : text.take 2 ≠ ['0','X']) {v : Nat}
    (read : Codec.natural16 text = some v) : ∀ c ∈ text, isHex c = true := by
  have plain : Codec.unmarked text = text := by
    unfold Codec.unmarked
    split
    · rename_i c rest
      have small := (capitalPlain (all c (by simp))).2.2.2.2.2
      refine if_neg (fun mark => ?_)
      rcases mark with low | high
      · exact small low
      · exact unmarked (by rw [high]; rfl)
    · rfl
  rw [Codec.natural16,plain] at read
  cases text with
  | nil => exact fun c member => by cases member
  | cons c rest =>
    obtain ⟨d,digit,later⟩ := Option.bind_eq_some_iff.mp read
    intro b member
    rcases List.mem_cons.mp member with rfl | own
    · exact capitalHex (all b List.mem_cons_self) digit
    · exact hexFromHex (fun b member => all b (List.mem_cons_of_mem _ member)) later b own

theorem int16Hex {text : List Char} (all : ∀ c ∈ text, isCapital c = true) (unmarked : text.take 2 ≠ ['0','X']) {v : Int}
    (read : int16 text = some v) : ∀ c ∈ text, isHex c = true := by
  have same : text.map Codec.asciiOf = text := by
    rw [List.map_congr_left (fun c member => (capitalPlain (all c member)).1),List.map_id']
  have stays : ∀ xs : List Char, (∀ c ∈ xs, isCapital c = true) → xs.dropWhile Codec.cSpace = xs := by
    intro xs capital
    cases xs with
    | nil => rfl
    | cons c rest => exact List.dropWhile_cons_of_neg (by simp [(capitalPlain (capital c List.mem_cons_self)).2.1])
  have trim : Codec.trimmed text = text := by
    rw [Codec.trimmed,stays text all,stays _ (fun c member => all c (List.mem_reverse.mp member)),List.reverse_reverse]
  rw [int16,same,trim] at read
  split at read
  · exact absurd rfl (capitalPlain (all '+' List.mem_cons_self)).2.2.2.1
  · exact absurd rfl (capitalPlain (all '-' List.mem_cons_self)).2.2.2.2.1
  · obtain ⟨n,natural,_⟩ := Option.map_eq_some_iff.mp read
    exact natural16Hex all unmarked natural

theorem Passes.clean {text : List Char} {day serial : Nat} (passes : Passes text day serial)
    (all : ∀ c ∈ text, isCapital c = true) (unmarked : ¬ Marked text) : Clean text := by
  have part : ∀ k n : Nat, ∀ c ∈ (text.drop k).take n, isCapital c = true := fun k n c member =>
    all c (List.mem_of_mem_drop (List.mem_of_mem_take member))
  exact ⟨fun c member => all c (List.mem_of_mem_take member),
    int16Hex (part _ _) (fun mark => unmarked (.inl mark)) passes.readsDay,
    int16Hex (part _ _) (fun mark => unmarked (.inr mark)) passes.readsSerial⟩

/-! The slips the check digit sees. -/

/- Only the check digit is another; or the check digit is the same, and the control text
of what the mistyped text reads as is one slip from that of the tax id. -/
def Caught (text mistyped : List Char) : Prop :=
  mistyped.take 21 = text.take 21 ∨
    mistyped.drop 21 = text.drop 21 ∧ ∀ day serial day' serial' : Nat,
      int16 (dayField text) = some (day : Int) → int16 (serialField text) = some (serial : Int) →
      int16 (dayField mistyped) = some (day' : Int) → int16 (serialField mistyped) = some (serial' : Int) →
      Slip (isDigit · = true) (controlText (text.take 6) day serial) (controlText (mistyped.take 6) day' serial')

theorem checkedValid {number : List Char} {digit : Nat} (h : Verhoeff.checkDigit number = .ok digit) :
    Verhoeff.validate (number ++ decimal digit) = .ok true := by
  have digits : number ≠ [] ∧ ∀ c ∈ number, isDigit c = true := by
    unfold Verhoeff.checkDigit at h
    cases read : Verhoeff.reversedDigits number with
    | error e => rw [read] at h; cases h
    | ok digits => exact Verhoeff.reversedDigitsOk read
  have text : ∀ k < 10, isDigit (Nat.digitChar k) = true ∧ Verhoeff.digitAt (Nat.digitChar k) = k := by decide
  have small := digitSmall h
  rw [decimalOne small,Verhoeff.checked digits.1 digits.2 (text digit small).1,(text digit small).2]
  exact h

theorem sameFields {text mistyped : List Char} (same : mistyped.take 21 = text.take 21) :
    mistyped.take 6 = text.take 6 ∧ dayField mistyped = dayField text ∧ serialField mistyped = serialField text := by
  have part : ∀ k n, k + n ≤ 21 → (mistyped.drop k).take n = (text.drop k).take n := by
    intro k n inside
    have cut : ∀ xs : List Char, (xs.drop k).take n = ((xs.take 21).drop k).take n := by
      intro xs
      rw [List.drop_take,List.take_take,Nat.min_eq_left (by omega)]
    rw [cut,cut text,same]
  exact ⟨part 0 6 (by decide),part 6 5 (by decide),part 11 10 (by decide)⟩

theorem Minted.notCaught {text memory mistyped : List Char} {day serial digit day' serial' : Nat}
    (h : Minted text memory day serial digit) (passes : Passes mistyped day' serial') (other : text ≠ mistyped) :
    ¬ Caught text mistyped := by
  obtain ⟨memories,days,serials,last⟩ := h.fields
  have own := h.passes
  obtain ⟨digit',check,last'⟩ := passes.digit
  rintro (same | ⟨lasts,slip⟩)
  · obtain ⟨memories',days',serials'⟩ := sameFields same
    have sameDay := passes.readsDay
    have sameSerial := passes.readsSerial
    rw [days',own.readsDay,Option.some.injEq] at sameDay
    rw [serials',own.readsSerial,Option.some.injEq] at sameSerial
    rw [memories',memories,← sameDay,← sameSerial,h.checked,Except.ok.injEq] at check
    refine other ?_
    rw [← List.take_append_drop 21 text,← List.take_append_drop 21 mistyped,same,last,last',check]
  · have apart := slip day serial day' serial' own.readsDay own.readsSerial passes.readsDay passes.readsSerial
    have valid := checkedValid h.checked
    have valid' := checkedValid check
    rw [← last',lasts,last] at valid'
    have rejected := Verhoeff.slipRejected valid ((memories ▸ apart).followed [] (decimal digit))
    rw [List.nil_append,valid'] at rejected
    cases rejected

-- In the memory a digit stands for itself, so its slips are slips of the control text.
theorem decimaliseAppend (xs ys : List Char) : decimalise (xs ++ ys) = decimalise xs ++ decimalise ys := by
  simp [decimalise]

theorem decimaliseDigit {c : Char} (digit : isDigit c = true) (rest : List Char) :
    decimalise (c :: rest) = c :: decimalise rest := by
  simp [decimalise,digit]

theorem memoryCaught {text mistyped : List Char} (memory : Slip (isDigit · = true) (decimalise (text.take 6))
    (decimalise (mistyped.take 6))) (rest : mistyped.drop 6 = text.drop 6) : Caught text mistyped := by
  have later : ∀ k n, (mistyped.drop (6 + k)).take n = (text.drop (6 + k)).take n := by
    intro k n
    rw [← List.drop_drop,← List.drop_drop,rest]
  have day : dayField mistyped = dayField text := later 0 5
  have serial : serialField mistyped = serialField text := later 5 10
  refine .inr ⟨?_,fun d s d' s' readDay readSerial readDay' readSerial' => ?_⟩
  · have cut : ∀ xs : List Char, xs.drop 21 = (xs.drop 6).drop 15 := fun xs => by rw [List.drop_drop]
    rw [cut,cut text,rest]
  · rw [day,readDay,Option.some.injEq] at readDay'
    rw [serial,readSerial,Option.some.injEq] at readSerial'
    rw [← readDay',← readSerial']
    have ended := memory.followed [] (zeroPadded 6 d ++ zeroPadded 12 s)
    simpa only [controlText,List.nil_append,List.append_assoc] using ended

theorem digitCaught {before after : List Char} {a b : Char} (inside : before.length < 6) (first : isDigit a = true)
    (second : isDigit b = true) (other : a ≠ b) : Caught (before ++ a :: after) (before ++ b :: after) := by
  have cut : ∀ c, isDigit c = true → decimalise ((before ++ c :: after).take 6) =
      decimalise before ++ c :: decimalise (after.take (5 - before.length)) := by
    intro c digit
    have few : 6 - before.length = (5 - before.length) + 1 := by omega
    rw [List.take_append,List.take_of_length_le (by omega),few,List.take_succ_cons,decimaliseAppend,decimaliseDigit digit]
  have rest : ∀ c : Char, (before ++ c :: after).drop 6 = after.drop (5 - before.length) := by
    intro c
    have few : 6 - before.length = (5 - before.length) + 1 := by omega
    rw [List.drop_append,List.drop_of_length_le (by omega),few,List.drop_succ_cons,List.nil_append]
  refine memoryCaught ?_ ((rest b).trans (rest a).symm)
  rw [cut a first,cut b second]
  exact .changed second other

theorem digitsCaught {before after : List Char} {a b : Char} (inside : before.length < 5) (first : isDigit a = true)
    (second : isDigit b = true) (other : a ≠ b) : Caught (before ++ a :: b :: after) (before ++ b :: a :: after) := by
  have few : 6 - before.length = (4 - before.length) + 1 + 1 := by omega
  have cut : ∀ c d, isDigit c = true → isDigit d = true → decimalise ((before ++ c :: d :: after).take 6) =
      decimalise before ++ c :: d :: decimalise (after.take (4 - before.length)) := by
    intro c d digit digit'
    rw [List.take_append,List.take_of_length_le (by omega),few,List.take_succ_cons,List.take_succ_cons,decimaliseAppend,
      decimaliseDigit digit,decimaliseDigit digit']
  have rest : ∀ c d : Char, (before ++ c :: d :: after).drop 6 = after.drop (4 - before.length) := by
    intro c d
    rw [List.drop_append,List.drop_of_length_le (by omega),few,List.drop_succ_cons,List.drop_succ_cons,List.nil_append]
  refine memoryCaught ?_ ((rest b a).trans (rest a b).symm)
  rw [cut a b first second,cut b a second first]
  exact .swapped other

def Refused (str : Str) (text : List Char) : Prop := ∃ message, serialOf str text = .error (.valueError message)

theorem refusedOrRead (str : Str) (text : List Char) :
    Refused str text ∨ ∃ memory serial, serialOf str text = .ok (memory,serial) := by
  cases read : serialOf str text with
  | ok pair => exact .inr ⟨pair.1,pair.2,rfl⟩
  | error e =>
    obtain ⟨message,rfl⟩ := OnlyValue.serialOf str text e read
    exact .inl ⟨message,read⟩

theorem mistypedAccepted : ¬ ∀ (str : Str) (memoryId taxid : String) (serial issued : Int) (mistyped : List Char),
    generateTaxId memoryId serial issued = .ok taxid → Slips taxid.toList mistyped → Refused str mistyped := by
  intro refused
  have slip : Slips "A11216050F000000001F42".toList "A11216050F000000001F22".toList :=
    @Slip.changed _ _ "A11216050F000000001F".toList ['2'] '4' '2' (by decide) (by decide)
  obtain ⟨message,error⟩ := refused Example.ascii "A11216" "A11216050F000000001F42" 500 1790208000 _ (okOf (by decide +kernel)) slip
  have read : serialOf Example.ascii "A11216050F000000001F22".toList = .ok ("A11216".toList,498) := okOf (by decide +kernel)
  rw [read] at error
  cases error

theorem slipsRefused (str : Str) {memoryId taxid : String} {serial issued : Int} {mistyped : List Char}
    (generated : generateTaxId memoryId serial issued = .ok taxid) (slip : Slips taxid.toList mistyped) :
    (¬ Marked mistyped → (Refused str mistyped ↔ ¬ ∃ memoryId' serial' issued',
      generateTaxId memoryId' serial' issued' = .ok (String.ofList mistyped))) ∧
      (Caught taxid.toList mistyped → Refused str mistyped) ∧
      (serialField mistyped = serialField taxid.toList →
        ∀ memory n, serialOf str mistyped = .ok (memory,n) → n = serial) := by
  obtain ⟨day,n,digit,minted,number,_⟩ := generatedMinted generated
  have all := slip.all minted.capital_
  have some_ : mistyped ≠ [] := fun none_ => by
    have long := slip.long
    rw [none_,minted.long] at long
    cases long
  have plain := capitalsPlain str some_ all
  have reads : ∀ {memory k}, serialOf str mistyped = .ok (memory,k) → ∃ day' n' : Nat, Passes mistyped day' n' ∧ k = n' := by
    intro memory k accepted
    obtain ⟨day',n',passes,_,same⟩ := (acceptedIff str mistyped _ _).mp accepted
    exact ⟨day',n',plain ▸ passes,same⟩
  refine ⟨fun unmarked => ⟨?_,?_⟩,?_,?_⟩
  · rintro ⟨message,error⟩ ⟨memoryId',serial',issued',again⟩
    obtain ⟨day',n',digit',minted',_,_⟩ := generatedMinted again
    rw [String.toList_ofList] at minted'
    have accepted := (acceptedIff str mistyped _ _).mpr ⟨day',n',plain.symm ▸ minted'.passes,rfl,rfl⟩
    rw [accepted] at error
    cases error
  · intro other
    refine (refusedOrRead str mistyped).resolve_right ?_
    rintro ⟨memory,k,accepted⟩
    obtain ⟨day',n',passes,_⟩ := reads accepted
    obtain ⟨digit',minted'⟩ := passes.minted (passes.clean all unmarked)
    exact other ⟨_,_,_,minted'.generates⟩
  · intro caught
    refine (refusedOrRead str mistyped).resolve_right ?_
    rintro ⟨memory,k,accepted⟩
    obtain ⟨day',n',passes,_⟩ := reads accepted
    exact minted.notCaught passes slip.apart caught
  · intro same memory k accepted
    obtain ⟨day',n',passes,own⟩ := reads accepted
    have left := minted.passes.readsSerial
    rw [← same,passes.readsSerial,Option.some.injEq] at left
    omega

theorem slipsRefusedHere : Refused Example.ascii "A12116050F000000001F42".toList ∧
    ¬ Refused Example.ascii "A11216050F000000001F22".toList := by
  have generated : generateTaxId "A11216" 500 1790208000 = .ok "A11216050F000000001F42" := okOf (by decide +kernel)
  have another : generateTaxId "A11216" 498 1790208000 = .ok "A11216050F000000001F22" := okOf (by decide +kernel)
  have swapped : Slips "A11216050F000000001F42".toList "A12116050F000000001F42".toList :=
    @Slip.swapped _ _ ['A','1'] "16050F000000001F42".toList '1' '2' (by decide)
  have changed : Slips "A11216050F000000001F42".toList "A11216050F000000001F22".toList :=
    @Slip.changed _ _ "A11216050F000000001F".toList ['2'] '4' '2' (by decide) (by decide)
  have caught : Caught "A11216050F000000001F42".toList "A12116050F000000001F42".toList :=
    @digitsCaught ['A','1'] "16050F000000001F42".toList '1' '2' (by decide)
      (by decide) (by decide) (by decide)
  refine ⟨(slipsRefused Example.ascii generated swapped).2.1 caught,fun refused => ?_⟩
  exact ((slipsRefused Example.ascii generated changed).1 (by unfold Marked; decide)).mp refused ⟨_,_,_,another⟩

end Moadian.TaxId
