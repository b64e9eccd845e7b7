import Moadian.TaxId.Recovery

/-! Tax ids are told apart by what they are made of, and the tool reads it back. It
reads other texts too: those that pass and are not spelt as tax ids are. -/
namespace Moadian.TaxId
open Codec (isHex)

theorem controlNatural (memory : List Char) (day serial : Nat) :
    controlText memory day serial = decimalise memory ++ padded 6 (decimal day) ++ padded 12 (decimal serial) := by
  have plain : ∀ width n : Nat, zeroPadded width n = padded width (decimal n) := by
    intro width n
    rw [zeroPadded,if_neg (by omega),Int.toNat_natCast]
  rw [controlText,plain,plain]

theorem capitalOfUpper {c : Char} (h : isAlphanumeric c = true) : isCapital (upper c) = true :=
  capitalRange.mpr (upperRange h)

theorem memoryCapital {memoryId : String} {memory : List Char} (h : validateMemoryId memoryId = .ok memory) :
    ∀ c ∈ memory, isCapital c = true := by
  have own := (validMemory h).1
  unfold validateMemoryId at h
  split at h <;> try contradiction
  rename_i valid
  intro c member
  rw [own] at member
  obtain ⟨d,inside,rfl⟩ := List.mem_map.mp member
  exact capitalOfUpper (List.all_eq_true.mp valid.2 d inside)

theorem generatedMinted {memoryId : String} {serial issued : Int} {taxid : String}
    (h : generateTaxId memoryId serial issued = .ok taxid) :
    ∃ day n digit : Nat, Minted taxid.toList (memoryId.toList.map upper) day n digit ∧ serial = n ∧
      issued / secondsPerDay = day := by
  have days := generatedIn h
  unfold generateTaxId at h
  obtain ⟨memory,valid,h⟩ := okBind h
  obtain ⟨n,counted,h⟩ := okBind h
  obtain ⟨day,ranged,h⟩ := okBind h
  have same : day = issued / secondsPerDay := by
    unfold dayRange at ranged
    split at ranged
    · cases ranged
    · exact (Except.ok.inj ranged).symm
  obtain ⟨own,six⟩ := validMemory valid
  obtain ⟨number,few⟩ := validSerial counted
  split at h
  · cases h
  · obtain ⟨digit,checked,h⟩ := okBind h
    cases Except.ok.inj h
    refine ⟨day.toNat,n,digit,⟨?_,own ▸ six,own ▸ memoryCapital valid,by omega,few,?_⟩,number,by omega⟩
    · rw [String.toList_ofList,own]
      simp only [List.append_assoc]
    · rw [controlNatural,← own]
      exact checked

theorem hexAscii {c : Char} (hex : isHex c = true) : c.toNat < 128 := by
  have range := Codec.hexRange.mp hex
  omega

theorem generatedAscii {memoryId : String} {serial issued : Int} {taxid : String}
    (h : generateTaxId memoryId serial issued = .ok taxid) : ∀ c ∈ taxid.toList, c.toNat < 128 := by
  obtain ⟨day,n,digit,minted,_⟩ := generatedMinted h
  intro c member
  rw [minted.text,List.mem_append,List.mem_append,List.mem_append] at member
  rcases member with memory | ofDay | ofSerial | check
  · have range := capitalRange.mp (minted.capital c memory)
    omega
  · exact hexAscii (paddedHex c ofDay)
  · exact hexAscii (paddedHex c ofSerial)
  · have one := decimalDigits check
    exact hexAscii (by unfold isHex; rw [one,Bool.true_or])

theorem serialHexAscii {serial : Int} {inno : String} (h : invoiceSerialHex serial = .ok inno) :
    ∀ c ∈ inno.toList, c.toNat < 128 := by
  unfold invoiceSerialHex at h
  obtain ⟨n,_,h⟩ := okBind h
  cases Except.ok.inj h
  rw [String.toList_ofList]
  exact fun c member => hexAscii (paddedHex c member)

theorem capitalMemory {memory : List Char} (six : memory.length = 6) (capital : ∀ c ∈ memory, isCapital c = true) :
    validateMemoryId (String.ofList memory) = .ok memory := by
  unfold validateMemoryId
  rw [String.toList_ofList,if_pos ⟨by rw [← String.length_toList,String.toList_ofList,six],
    List.all_eq_true.mpr (fun c member => capitalAlphanumeric (capital c member))⟩]
  exact congrArg Except.ok ((List.map_congr_left (fun c member => upperCapital (capital c member))).trans (List.map_id' _))

theorem Minted.generates {text memory : List Char} {day n digit : Nat} (h : Minted text memory day n digit) :
    generateTaxId (String.ofList memory) n (day * secondsPerDay) = .ok (String.ofList text) := by
  have most := h.dayFits
  have fits := h.serialFits
  have number : validateSerial n = .ok n := serialOk (by omega) (by omega)
  have whole : (day : Int) * secondsPerDay / secondsPerDay = day := Int.mul_ediv_cancel _ (by decide)
  have ranged : dayRange (day * secondsPerDay) = .ok (day : Int) := by
    unfold dayRange
    rw [if_neg,whole]
    simp only [maxDayRange] at most
    simp only [lastInTehran,secondsPerDay]
    omega
  have check := h.checked
  rw [controlNatural] at check
  have inside : ¬ ((day : Int) < 0 ∨ maxDayRange < day) := by omega
  have shape : text = memory ++ padded 5 (hexDigits day) ++ padded 10 (hexDigits n) ++ decimal digit := by
    rw [h.text]
    simp only [List.append_assoc]
  rw [shape]
  simp only [generateTaxId,capitalMemory h.six h.capital,number,ranged,bind,Except.bind,if_neg inside,Int.toNat_natCast,
    check,pure,Except.pure]

theorem Minted.parts {text memory memory' : List Char} {day day' serial serial' digit digit' : Nat}
    (h : Minted text memory day serial digit) (h' : Minted text memory' day' serial' digit') :
    memory = memory' ∧ day = day' ∧ serial = serial' := by
  have left := h.passes
  have right := h'.passes
  have days := Option.some.inj (left.readsDay.symm.trans right.readsDay)
  have serials := Option.some.inj (left.readsSerial.symm.trans right.readsSerial)
  exact ⟨h.fields.1.symm.trans h'.fields.1,by omega,by omega⟩

/-! What surrounds a tax id, and the case it is written in, is taken off again. -/

theorem alphanumericInk {c : Char} (h : isAlphanumeric c = true) : Json.isSpace c = false := by
  have classes := alphanumericRange h
  simp only [Json.isSpace,Bool.or_eq_false_iff,Bool.and_eq_false_iff,decide_eq_false_iff_not,beq_eq_false_iff_ne]
  omega

theorem stripPadded {left shown right : List Char} (before : ∀ c ∈ left, Json.isSpace c = true)
    (after : ∀ c ∈ right, Json.isSpace c = true) (ink : ∀ c ∈ shown, Json.isSpace c = false) (some_ : shown ≠ []) :
    strip (left ++ shown ++ right) = shown := by
  have stays : ∀ xs ys : List Char, xs ≠ [] → (∀ c ∈ xs, Json.isSpace c = false) →
      (xs ++ ys).dropWhile Json.isSpace = xs ++ ys := by
    intro xs ys filled inks
    obtain ⟨c,rest,rfl⟩ := List.exists_cons_of_ne_nil filled
    exact List.dropWhile_cons_of_neg (by simp [inks c List.mem_cons_self])
  have first : (left ++ shown ++ right).dropWhile Json.isSpace = shown ++ right := by
    rw [List.append_assoc,List.dropWhile_append_of_pos before,stays shown right some_ ink]
  have second : (shown ++ right).reverse.dropWhile Json.isSpace = shown.reverse := by
    have front := stays shown.reverse [] (by simpa using some_) (fun c member => ink c (List.mem_reverse.mp member))
    rw [List.append_nil] at front
    rw [List.reverse_append,List.dropWhile_append_of_pos (fun c member => after c (List.mem_reverse.mp member)),front]
  rw [strip,first,second,List.reverse_reverse]

theorem capitalsOf (str : Str) {left shown right : List Char} (before : ∀ c ∈ left, Json.isSpace c = true)
    (after : ∀ c ∈ right, Json.isSpace c = true) (all : ∀ c ∈ shown, isAlphanumeric c = true) (some_ : shown ≠ []) :
    str.capitals (left ++ shown ++ right) = shown.map upper := by
  have each : ∀ c ∈ shown, str.upper c = [upper c] := by
    intro c member
    have bounds := alphanumericRange (all c member)
    exact str.ascii c (by omega)
  rw [Str.capitals,stripPadded before after (fun c member => alphanumericInk (all c member)) some_]
  clear all some_
  induction shown with
  | nil => rfl
  | cons c rest ih =>
    rw [List.flatMap_cons,each c List.mem_cons_self,ih (fun d member => each d (List.mem_cons_of_mem _ member)),
      List.map_cons]
    rfl

theorem loweredCapital {c : Char} (capital : isCapital c = true) :
    upper c.toLower = c ∧ isAlphanumeric c.toLower = true := by
  have few : ∀ k < 91, isCapital (Char.ofNat k) = true →
      upper (Char.ofNat k).toLower = Char.ofNat k ∧ isAlphanumeric (Char.ofNat k).toLower = true := by decide +kernel
  have range := capitalRange.mp capital
  have own := few c.toNat (by omega)
  rw [Char.ofNat_toNat] at own
  exact own capital

theorem Minted.capital_ {text memory : List Char} {day n digit : Nat} (h : Minted text memory day n digit) :
    ∀ c ∈ text, isCapital c = true := by
  have wide : ∀ c : Char, isHex c = true → isCapital c = true := by
    intro c hex
    have range := Codec.hexRange.mp hex
    exact capitalRange.mpr (by omega)
  intro c member
  rw [h.text] at member
  simp only [List.mem_append] at member
  rcases member with own | day | serial | last
  · exact h.capital c own
  · exact wide c (paddedHex c day)
  · exact wide c (paddedHex c serial)
  · unfold isCapital
    rw [decimalDigits last,Bool.true_or]

theorem Minted.shown {text memory : List Char} {day n digit : Nat} (h : Minted text memory day n digit) {shown : List Char}
    (written : shown = text ∨ shown = text.map Char.toLower) :
    shown ≠ [] ∧ (∀ c ∈ shown, isAlphanumeric c = true) ∧ shown.map upper = text := by
  have some_ : text ≠ [] := fun none_ => by
    have long := h.long
    rw [none_] at long
    cases long
  rcases written with rfl | rfl
  · exact ⟨some_,fun c member => capitalAlphanumeric (h.capital_ c member),
      (List.map_congr_left (fun c member => upperCapital (h.capital_ c member))).trans (List.map_id' _)⟩
  · refine ⟨by simpa using some_,?_,?_⟩
    · intro c member
      obtain ⟨d,inside,rfl⟩ := List.mem_map.mp member
      exact (loweredCapital (h.capital_ d inside)).2
    · rw [List.map_map]
      exact (List.map_congr_left (fun c member => (loweredCapital (h.capital_ c member)).1)).trans (List.map_id' _)

theorem taxIdsDecode (str : Str) (memoryId : String) (serial issued : Int)
    (memory : memoryId.length = 6 ∧ memoryId.toList.all isAlphanumeric = true)
    (counted : 0 ≤ serial ∧ serial ≤ maxSerial)
    (day : 0 ≤ issued / secondsPerDay ∧ issued / secondsPerDay ≤ maxDayRange) :
    ∃ taxid inno, generateTaxId memoryId serial issued = .ok taxid ∧ taxid.length = 22 ∧
      invoiceSerialHex serial = .ok inno ∧ (taxid.toList.drop 11).take 10 = inno.toList ∧
      (∀ left right shown : List Char, (∀ c ∈ left ++ right, Json.isSpace c = true) →
        (shown = taxid.toList ∨ shown = taxid.toList.map Char.toLower) →
        serialOf str (left ++ shown ++ right) = .ok (memoryId.toList.map upper,serial)) ∧
      ∀ memoryId' serial' issued', generateTaxId memoryId' serial' issued' = .ok taxid →
        memoryId'.toList.map upper = memoryId.toList.map upper ∧ serial' = serial ∧
          issued' / secondsPerDay = issued / secondsPerDay := by
  have valid : validateMemoryId memoryId = .ok (memoryId.toList.map upper) := if_pos memory
  have early : issued ≤ lastInTehran := by
    have late := day.2
    simp only [maxDayRange,secondsPerDay] at late
    simp only [lastInTehran]
    omega
  obtain ⟨taxid,generated⟩ := generatesIn valid counted.1 counted.2 early day.1 day.2
  obtain ⟨days,n,digit,minted,number,ranged⟩ := generatedMinted generated
  have hex : invoiceSerialHex serial = .ok (String.ofList (padded 10 (hexDigits serial.toNat))) := by
    simp only [invoiceSerialHex,serialOk counted.1 counted.2,bind,Except.bind]
    rfl
  refine ⟨taxid,_,generated,?_,hex,?_,?_,?_⟩
  · rw [← String.length_toList]
    exact minted.long
  · exact (generatedSerial generated hex).symm
  · intro left right shown blank written
    obtain ⟨some_,all,back⟩ := minted.shown written
    have capitals := capitalsOf str (fun c member => blank c (List.mem_append_left _ member))
      (fun c member => blank c (List.mem_append_right _ member)) all some_
    refine (acceptedIff str _ _ _).mpr ⟨days,n,?_,?_,number⟩
    · rw [capitals,back]
      exact minted.passes
    · rw [capitals,back,minted.fields.1]
  · intro memoryId' serial' issued' generated'
    obtain ⟨days',n',digit',minted',number',ranged'⟩ := generatedMinted generated'
    obtain ⟨memories,sameDay,sameSerial⟩ := minted'.parts minted
    exact ⟨memories,by omega,by omega⟩

namespace Example

def ascii : Str := ⟨fun c => [upper c],String.ofList,fun _ _ => rfl⟩

end Example

theorem taxIdsDecodeOne : ∃ taxid inno, generateTaxId "a11216" 500 1790208000 = .ok taxid ∧ taxid.length = 22 ∧
    invoiceSerialHex 500 = .ok inno ∧ (taxid.toList.drop 11).take 10 = inno.toList ∧
    (∀ left right shown : List Char, (∀ c ∈ left ++ right, Json.isSpace c = true) →
      (shown = taxid.toList ∨ shown = taxid.toList.map Char.toLower) →
      serialOf Example.ascii (left ++ shown ++ right) = .ok ("a11216".toList.map upper,500)) ∧
    ∀ memoryId' serial' issued', generateTaxId memoryId' serial' issued' = .ok taxid →
      memoryId'.toList.map upper = "a11216".toList.map upper ∧ serial' = 500 ∧
        issued' / secondsPerDay = 1790208000 / secondsPerDay :=
  taxIdsDecode Example.ascii "a11216" 500 1790208000 (by decide) (by decide) (by decide)

/-! What is accepted was minted, exactly unless it passes in another spelling. -/

theorem acceptedAreTaxIds (str : Str) (text : List Char) :
    ((∀ memory serial, serialOf str text = .ok (memory,serial) →
        ∃ issued, generateTaxId (String.ofList memory) serial issued = .ok (String.ofList (str.capitals text))) ∧
      ∀ e, serialOf str text = .error e → ∃ message, e = .valueError message) ↔
    ∀ day serial, Passes (str.capitals text) day serial → Clean (str.capitals text) := by
  constructor
  · rintro ⟨outputs,_⟩ day serial passes
    obtain ⟨issued,generated⟩ := outputs _ _ ((acceptedIff str text _ _).mpr ⟨day,serial,passes,rfl,rfl⟩)
    obtain ⟨_,_,_,minted,_,_⟩ := generatedMinted generated
    rw [String.toList_ofList] at minted
    exact minted.clean
  · intro clean
    refine ⟨fun memory serial accepted => ?_,fun e => OnlyValue.serialOf str text e⟩
    obtain ⟨day,n,passes,rfl,rfl⟩ := (acceptedIff str text _ _).mp accepted
    obtain ⟨digit,minted⟩ := passes.minted (clean day n passes)
    exact ⟨day * secondsPerDay,minted.generates⟩

theorem okOf {α : Type} {x : Except Exc α} {a : α} (h : x.toOption = some a) : x = .ok a := by
  cases x with
  | error e => cases h
  | ok b => exact congrArg Except.ok (Option.some.inj h)

theorem acceptedOther : ¬ ∀ (str : Str) (text memory : List Char) (serial : Int),
    serialOf str text = .ok (memory,serial) →
      ∃ issued, generateTaxId (String.ofList memory) serial issued = .ok (String.ofList (str.capitals text)) := by
  intro outputs
  obtain ⟨issued,generated⟩ := outputs Example.ascii "A112160X12300000001F46".toList "A11216".toList 500
    (okOf (by decide +kernel))
  obtain ⟨day,n,digit,minted,_,_⟩ := generatedMinted generated
  rw [String.toList_ofList] at minted
  exact absurd (minted.clean.day 'X' (by decide)) (by decide)

end Moadian.TaxId
