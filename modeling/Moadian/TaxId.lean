import Moadian.Errors

/-! The tax id and the serial baked into it: six characters of the fiscal memory,
five hex digits of the day, ten of the serial, and one Verhoeff check digit. -/
namespace Moadian

-- `repr` of a text; what is not ASCII is taken to be printable.
def reprText (text : String) : String :=
  let quote := if Char.ofNat 39 ∈ text.toList ∧ '"' ∉ text.toList then '"' else Char.ofNat 39
  let escaped (c : Char) : List Char :=
    if c = quote ∨ c = '\\' then ['\\',c]
    else if c = '\n' then ['\\','n']
    else if c = '\r' then ['\\','r']
    else if c = '\t' then ['\\','t']
    else if c.toNat < 16 then ['\\','x','0'] ++ Nat.toDigits 16 c.toNat
    else if c.toNat < 32 ∨ c.toNat = 127 then ['\\','x'] ++ Nat.toDigits 16 c.toNat
    else [c]
  String.ofList (quote :: text.toList.flatMap escaped ++ [quote])

namespace Verhoeff

def d : List (List Nat) := [
  [0,1,2,3,4,5,6,7,8,9], [1,2,3,4,0,6,7,8,9,5], [2,3,4,0,1,7,8,9,5,6], [3,4,0,1,2,8,9,5,6,7],
  [4,0,1,2,3,9,5,6,7,8], [5,9,8,7,6,0,4,3,2,1], [6,5,9,8,7,1,0,4,3,2], [7,6,5,9,8,2,1,0,4,3],
  [8,7,6,5,9,3,2,1,0,4], [9,8,7,6,5,4,3,2,1,0]]

def p : List (List Nat) := [
  [0,1,2,3,4,5,6,7,8,9], [1,5,7,6,2,8,3,0,9,4], [5,8,0,3,7,9,6,1,4,2], [8,9,1,6,0,4,3,5,2,7],
  [9,4,5,3,1,2,6,8,7,0], [4,2,8,6,5,7,3,9,0,1], [2,7,9,3,8,0,6,4,1,5], [7,0,4,6,9,1,3,2,5,8]]

def inv : List Nat := [0,4,3,2,1,5,6,7,8,9]

def at_ (table : List (List Nat)) (i j : Nat) : Nat := (table.getD i []).getD j 0

def fold (start : Nat) (digits : List Nat) : Nat :=
  (digits.zipIdx start).foldl (fun c (digit,i) => at_ d c (at_ p (i % 8) digit)) 0

def reversedDigits (number : List Char) : Except Exc (List Nat) :=
  if number.isEmpty then .error (.valueError "number must not be empty")
  else match number.find? (fun c => !('0' ≤ c && c ≤ '9')) with
    | some bad => .error (.valueError ("number must be ASCII digits only, found " ++ reprText bad.toString))
    | none => .ok (number.reverse.map (fun c => c.toNat - 48))

def checkDigit (number : List Char) : Except Exc Nat :=
  (reversedDigits number).map (fun digits => inv.getD (fold 1 digits) 0)

def validate (number : List Char) : Except Exc Bool :=
  (reversedDigits number).map (fun digits => fold 0 digits == 0)

end Verhoeff

namespace TaxId

def maxSerial : Nat := 0xFFFFFFFFFF

def maxDayRange : Int := 0xFFFFF

def taxIdLength : Nat := 22

def secondsPerDay : Int := 86400

def isDigit (c : Char) : Bool := '0' ≤ c && c ≤ '9'

def isAlphanumeric (c : Char) : Bool := isDigit c || ('A' ≤ c && c ≤ 'Z') || ('a' ≤ c && c ≤ 'z')

def upper (c : Char) : Char := if 'a' ≤ c && c ≤ 'z' then Char.ofNat (c.toNat - 32) else c

def decimal (n : Nat) : List Char := Nat.toDigits 10 n

def hexDigits (n : Nat) : List Char := (Nat.toDigits 16 n).map upper

def padded (width : Nat) (text : List Char) : List Char := List.replicate (width - text.length) '0' ++ text

def decimalise (memoryId : List Char) : List Char :=
  (memoryId.map (fun c => if isDigit c then [c] else decimal c.toNat)).flatten

def validateMemoryId (memoryId : String) : Except Exc (List Char) :=
  if memoryId.length = 6 ∧ memoryId.toList.all isAlphanumeric then .ok (memoryId.toList.map upper)
  else .error (.invalidTaxId ("memory_id must be 6 alphanumeric ASCII characters, got " ++ reprText memoryId))

def validateSerial (serial : Int) : Except Exc Nat :=
  if serial < 0 then .error (.invalidTaxId ("serial must be non-negative, got " ++ toString serial))
  else if (maxSerial : Int) < serial then
    .error (.invalidTaxId ("serial must fit 10 hex digits (<= " ++ toString maxSerial ++ "), got " ++
      toString serial))
  else .ok serial.toNat

/- Whole seconds since the epoch of `indatim` milliseconds, as `datetime` holds
them: the years 1 to 9999, and in Tehran still the year 9999. Further out the calendar of
the platform ends, and then its `time_t`. -/
def issuedAt (indatim : Int) : Except Exc Int :=
  let seconds := indatim / 1000
  if seconds < -9223372036854775808 ∨ 9223372036854775808 ≤ seconds then
    .error (.overflowError "timestamp out of range for platform time_t")
  else if seconds < -67768040609740800 ∨ 67768036191676799 < seconds then
    .error (.osError "[Errno 75] Value too large for defined data type")
  else if seconds < -62135596800 ∨ 253402300799 < seconds then .error (.valueError "year is out of range")
  else .ok seconds

def lastInTehran : Int := 253402300799 - 12600

def dayRange (issued : Int) : Except Exc Int :=
  if lastInTehran < issued then .error (.overflowError "date value out of range")
  else .ok (issued / secondsPerDay)

def generateTaxId (memoryId : String) (serial : Int) (issued : Int) : Except Exc String := do
  let memory ← validateMemoryId memoryId
  let n ← validateSerial serial
  let day ← dayRange issued
  if day < 0 ∨ maxDayRange < day then
    throw (.invalidTaxId ("issued_at is outside the representable range (day_range=" ++ toString day ++ ")"))
  let control := decimalise memory ++ padded 6 (decimal day.toNat) ++ padded 12 (decimal n)
  let digit ← Verhoeff.checkDigit control
  return String.ofList (memory ++ padded 5 (hexDigits day.toNat) ++ padded 10 (hexDigits n) ++ decimal digit)

def invoiceSerialHex (serial : Int) : Except Exc String := do
  return String.ofList (padded 10 (hexDigits (← validateSerial serial)))

/-! The memory alone keeps a generated tax id from being blank. -/

theorem charLe {a b : Char} : a ≤ b ↔ a.toNat ≤ b.toNat := Iff.rfl

theorem alphanumericRange {c : Char} (h : isAlphanumeric c = true) :
    ((48 ≤ c.toNat ∧ c.toNat ≤ 57) ∨ (65 ≤ c.toNat ∧ c.toNat ≤ 90)) ∨ (97 ≤ c.toNat ∧ c.toNat ≤ 122) := by
  simp only [isAlphanumeric,isDigit,Bool.or_eq_true,Bool.and_eq_true,decide_eq_true_eq,charLe] at h
  exact h

theorem upperRange {c : Char} (h : isAlphanumeric c = true) :
    (48 ≤ (upper c).toNat ∧ (upper c).toNat ≤ 57) ∨ (65 ≤ (upper c).toNat ∧ (upper c).toNat ≤ 90) := by
  have classes := alphanumericRange h
  unfold upper
  split
  · rename_i lower
    have range : 97 ≤ c.toNat ∧ c.toNat ≤ 122 := by
      simp only [Bool.and_eq_true,decide_eq_true_eq,charLe] at lower
      exact lower
    have code : (Char.ofNat (c.toNat - 32)).toNat = c.toNat - 32 := by
      have valid : (c.toNat - 32).isValidChar := .inl (by omega)
      rw [Char.ofNat,dif_pos valid]
      rfl
    omega
  · rename_i other
    have out : ¬ (97 ≤ c.toNat ∧ c.toNat ≤ 122) := by
      simp only [Bool.and_eq_true,decide_eq_true_eq,charLe] at other
      exact other
    omega

theorem upperNotSpace {c : Char} (h : isAlphanumeric c = true) : Json.isSpace (upper c) = false := by
  have range := upperRange h
  simp only [Json.isSpace,Bool.or_eq_false_iff,Bool.and_eq_false_iff,decide_eq_false_iff_not,beq_eq_false_iff_ne]
  omega

theorem memoryNotBlank {memoryId : String} {memory : List Char} (h : validateMemoryId memoryId = .ok memory) :
    ∃ c ∈ memory, Json.isSpace c = false := by
  unfold validateMemoryId at h
  split at h <;> try contradiction
  rename_i valid
  cases Except.ok.inj h
  have some_ : memoryId.toList ≠ [] := by
    intro none_
    have empty : memoryId.length = 0 := by rw [← String.length_toList,none_]; rfl
    omega
  obtain ⟨c,rest,same⟩ := List.exists_cons_of_ne_nil some_
  have own : c ∈ memoryId.toList := by rw [same]; exact List.mem_cons_self
  exact ⟨upper c,List.mem_map_of_mem own,upperNotSpace (List.all_eq_true.mp valid.2 c own)⟩

theorem okBind {α β : Type} {x : Except Exc α} {f : α → Except Exc β} {b : β} (h : (x >>= f) = .ok b) :
    ∃ a, x = .ok a ∧ f a = .ok b := by
  cases x with
  | error e => cases h
  | ok a => exact ⟨a,rfl,h⟩

theorem generatedNotBlank {memoryId : String} {serial issued : Int} {taxid : String}
    (h : generateTaxId memoryId serial issued = .ok taxid) : Json.isBlank taxid = false := by
  unfold generateTaxId at h
  obtain ⟨memory,valid,h⟩ := okBind h
  obtain ⟨c,own,ink⟩ := memoryNotBlank valid
  obtain ⟨n,_,h⟩ := okBind h
  obtain ⟨day,_,h⟩ := okBind h
  split at h
  · cases h
  · obtain ⟨digit,_,h⟩ := okBind h
    cases Except.ok.inj h
    unfold Json.isBlank
    rw [String.toList_ofList,List.all_eq_false]
    exact ⟨c,by simp [own],by simp [ink]⟩

/-! The segments have fixed widths, so each part can be read back. -/

def digitValue (c : Char) : Nat := if isDigit c then c.toNat - 48 else c.toNat - 55

def hexValue (text : List Char) : Nat := text.foldl (fun n c => 16 * n + digitValue c) 0

theorem hexDigitValue {n : Nat} (h : n < 16) : digitValue (upper n.digitChar) = n := by
  revert n
  decide

theorem hexValueSnoc (text : List Char) (c : Char) : hexValue (text ++ [c]) = 16 * hexValue text + digitValue c := by
  simp [hexValue]

theorem hexDigitsValue (n : Nat) : hexValue (hexDigits n) = n := by
  induction n using Nat.strongRecOn with
  | ind n ih =>
    by_cases small : n < 16
    · simp only [hexDigits,Nat.toDigits_of_lt_base small,List.map_cons,List.map_nil]
      have value : hexValue [upper n.digitChar] = digitValue (upper n.digitChar) := by simp [hexValue]
      rw [value,hexDigitValue small]
    · have fewer := ih (n / 16) (by omega)
      simp only [hexDigits] at fewer ⊢
      rw [Nat.toDigits_of_base_le (by decide) (by omega),List.map_append,List.map_cons,List.map_nil,hexValueSnoc,
        fewer,hexDigitValue (Nat.mod_lt n (by decide))]
      omega

theorem paddedValue (width : Nat) (text : List Char) : hexValue (padded width text) = hexValue text := by
  have zeros : ∀ k, (List.replicate k '0').foldl (fun n c => 16 * n + digitValue c) 0 = 0 := by
    intro k
    induction k with
    | zero => rfl
    | succ k ih => rw [List.replicate_succ',List.foldl_append,ih]; rfl
  simp [hexValue,padded,zeros]

theorem paddedLength {width : Nat} {text : List Char} (fits : text.length ≤ width) :
    (padded width text).length = width := by
  simp only [padded,List.length_append,List.length_replicate]
  omega

theorem hexLength {width n : Nat} (some_ : 0 < width) (fits : n < 16 ^ width) :
    (padded width (hexDigits n)).length = width := by
  refine paddedLength ?_
  rw [hexDigits,List.length_map]
  exact (Nat.length_toDigits_le_iff (by decide) some_).mpr fits

theorem validMemory {memoryId : String} {memory : List Char} (h : validateMemoryId memoryId = .ok memory) :
    memory = memoryId.toList.map upper ∧ memory.length = 6 := by
  unfold validateMemoryId at h
  split at h <;> try contradiction
  rename_i valid
  cases Except.ok.inj h
  exact ⟨rfl,by rw [List.length_map,String.length_toList]; exact valid.1⟩

theorem validSerial {serial : Int} {n : Nat} (h : validateSerial serial = .ok n) :
    serial = n ∧ n ≤ maxSerial := by
  unfold validateSerial at h
  split at h <;> try contradiction
  split at h <;> try contradiction
  cases Except.ok.inj h
  omega

structure Layout (taxid : String) (memory day serial : List Char) : Prop where
  text : ∃ rest, taxid.toList = memory ++ (day ++ (serial ++ rest))
  memory : memory.length = 6
  day : day.length = 5
  serial : serial.length = 10

theorem generatedLayout {memoryId : String} {serial issued : Int} {taxid : String}
    (h : generateTaxId memoryId serial issued = .ok taxid) :
    ∃ day n, serial = (n : Nat) ∧ n ≤ maxSerial ∧
      Layout taxid (memoryId.toList.map upper) day (padded 10 (hexDigits n)) := by
  unfold generateTaxId at h
  obtain ⟨memory,valid,h⟩ := okBind h
  obtain ⟨n,counted,h⟩ := okBind h
  obtain ⟨day,_,h⟩ := okBind h
  obtain ⟨own,six⟩ := validMemory valid
  obtain ⟨same,few⟩ := validSerial counted
  split at h
  · cases h
  · rename_i inside
    obtain ⟨digit,_,h⟩ := okBind h
    cases Except.ok.inj h
    have days : day.toNat < 16 ^ 5 := by simp only [maxDayRange] at inside; omega
    have serials : n < 16 ^ 10 := by simp only [maxSerial] at few; omega
    refine ⟨_,n,same,few,⟨decimal digit,?_⟩,own ▸ six,hexLength (by decide) days,hexLength (by decide) serials⟩
    rw [String.toList_ofList,own]
    simp only [List.append_assoc]

def memorySegment (taxid : String) : List Char := taxid.toList.take 6

def serialSegment (taxid : String) : List Char := (taxid.toList.drop 11).take 10

theorem Layout.memorySegment {taxid : String} {memory day serial : List Char} (h : Layout taxid memory day serial) :
    TaxId.memorySegment taxid = memory := by
  obtain ⟨rest,text⟩ := h.text
  rw [TaxId.memorySegment,text,List.take_left' h.memory]

theorem Layout.serialSegment {taxid : String} {memory day serial : List Char} (h : Layout taxid memory day serial) :
    TaxId.serialSegment taxid = serial := by
  obtain ⟨rest,text⟩ := h.text
  have before : (memory ++ day).length = 11 := by rw [List.length_append,h.memory,h.day]
  rw [TaxId.serialSegment,text,← List.append_assoc,List.drop_left' before,List.take_left' h.serial]

theorem generatedMemory {memoryId : String} {serial issued : Int} {taxid : String}
    (h : generateTaxId memoryId serial issued = .ok taxid) : memorySegment taxid = memoryId.toList.map upper := by
  obtain ⟨_,_,_,_,layout⟩ := generatedLayout h
  exact layout.memorySegment

theorem generatedSerial {memoryId : String} {serial issued : Int} {taxid inno : String}
    (h : generateTaxId memoryId serial issued = .ok taxid) (hex : invoiceSerialHex serial = .ok inno) :
    inno.toList = serialSegment taxid := by
  obtain ⟨_,n,same,_,layout⟩ := generatedLayout h
  unfold invoiceSerialHex at hex
  obtain ⟨m,counted,hex⟩ := okBind hex
  cases Except.ok.inj hex
  have equal : m = n := by
    have := (validSerial counted).1
    omega
  rw [String.toList_ofList,layout.serialSegment,equal]

theorem generatedInjective {memoryId memoryId' : String} {serial serial' issued issued' : Int} {taxid : String}
    (h : generateTaxId memoryId serial issued = .ok taxid)
    (h' : generateTaxId memoryId' serial' issued' = .ok taxid) : serial = serial' := by
  obtain ⟨_,n,same,_,layout⟩ := generatedLayout h
  obtain ⟨_,m,same',_,layout'⟩ := generatedLayout h'
  have text := layout.serialSegment.symm.trans layout'.serialSegment
  have value := congrArg hexValue text
  rw [paddedValue,paddedValue,hexDigitsValue,hexDigitsValue] at value
  rw [same,same',value]

theorem hexInk (n : Nat) : ∃ c ∈ hexDigits n, Json.isSpace c = false := by
  have ink : ∀ d < 16, Json.isSpace (upper d.digitChar) = false := by decide
  by_cases small : n < 16
  · exact ⟨_,by rw [hexDigits,Nat.toDigits_of_lt_base small]; exact List.mem_singleton_self _,ink n small⟩
  · refine ⟨upper (n % 16).digitChar,?_,ink _ (Nat.mod_lt n (by decide))⟩
    rw [hexDigits,Nat.toDigits_of_base_le (by decide) (by omega),List.map_append]
    exact List.mem_append_right _ (List.mem_singleton_self _)

theorem serialHexInk {serial : Int} {inno : String} (h : invoiceSerialHex serial = .ok inno) :
    Json.isBlank inno = false := by
  obtain ⟨n,_,h⟩ := okBind h
  cases Except.ok.inj h
  obtain ⟨c,own,ink⟩ := hexInk n
  unfold Json.isBlank
  rw [String.toList_ofList,List.all_eq_false]
  exact ⟨c,List.mem_append_right _ own,by simp [ink]⟩

/-! Of a valid memory and a serial in range a tax id is minted exactly on the days
its five hex digits can count. -/

theorem decimalDigits {n : Nat} {c : Char} (h : c ∈ decimal n) : isDigit c = true := by
  have digit := Nat.isDigit_of_mem_toDigits (by decide) (by decide) h
  simp only [Char.isDigit,Bool.and_eq_true,decide_eq_true_eq] at digit
  simp only [isDigit,Bool.and_eq_true,decide_eq_true_eq,charLe]
  exact digit

theorem paddedDigits {width : Nat} {text : List Char} (digits : ∀ c ∈ text, isDigit c = true) :
    ∀ c ∈ padded width text, isDigit c = true := by
  intro c member
  rcases List.mem_append.mp member with zero | own
  · rw [List.eq_of_mem_replicate zero]
    rfl
  · exact digits c own

theorem decimaliseDigits {memoryId : List Char} : ∀ c ∈ decimalise memoryId, isDigit c = true := by
  intro c member
  obtain ⟨part,inside,own⟩ := List.mem_flatten.mp member
  obtain ⟨d,_,rfl⟩ := List.mem_map.mp inside
  split at own
  · rename_i digit
    rw [List.mem_singleton.mp own]
    exact digit
  · exact decimalDigits own

theorem checkDigitOk {number : List Char} (some_ : number ≠ []) (digits : ∀ c ∈ number, isDigit c = true) :
    ∃ digit, Verhoeff.checkDigit number = .ok digit := by
  have none_ : number.find? (fun c => !('0' ≤ c && c ≤ '9')) = none := by
    refine List.find?_eq_none.mpr (fun c member => ?_)
    have digit := digits c member
    unfold isDigit at digit
    simp [digit]
  refine ⟨Verhoeff.inv.getD (Verhoeff.fold 1 (number.reverse.map (fun c => c.toNat - 48))) 0,?_⟩
  rw [Verhoeff.checkDigit,Verhoeff.reversedDigits,if_neg (by simpa using some_)]
  simp only [none_]
  rfl

theorem serialOk {serial : Int} (positive : 0 ≤ serial) (small : serial ≤ maxSerial) :
    validateSerial serial = .ok serial.toNat := by
  unfold validateSerial
  rw [if_neg (by omega),if_neg (by omega)]

-- The first millisecond past the last day.
def endOfDays : Int := (maxDayRange + 1) * secondsPerDay * 1000

theorem issuedIn {indatim issued : Int} (h : issuedAt indatim = .ok issued) : issued = indatim / 1000 := by
  simp only [issuedAt] at h
  split_ifs at h
  exact (Except.ok.inj h).symm

theorem generatedIn {memoryId : String} {serial issued : Int} {taxid : String}
    (h : generateTaxId memoryId serial issued = .ok taxid) :
    0 ≤ issued / secondsPerDay ∧ issued / secondsPerDay ≤ maxDayRange := by
  unfold generateTaxId at h
  obtain ⟨_,_,h⟩ := okBind h
  obtain ⟨_,_,h⟩ := okBind h
  obtain ⟨day,ranged,h⟩ := okBind h
  unfold dayRange at ranged
  split at ranged
  · cases ranged
  · cases Except.ok.inj ranged
    split at h
    · cases h
    · omega

theorem generatesIn {memoryId : String} {memory : List Char} (valid : validateMemoryId memoryId = .ok memory)
    {serial : Int} (positive : 0 ≤ serial) (small : serial ≤ maxSerial) {issued : Int} (early : issued ≤ lastInTehran)
    (first : 0 ≤ issued / secondsPerDay) (last : issued / secondsPerDay ≤ maxDayRange) :
    ∃ taxid, generateTaxId memoryId serial issued = .ok taxid := by
  have ranged : dayRange issued = .ok (issued / secondsPerDay) := if_neg (by omega)
  have control : ∀ c ∈ decimalise memory ++ padded 6 (decimal (issued / secondsPerDay).toNat) ++
      padded 12 (decimal serial.toNat), isDigit c = true := by
    intro c member
    simp only [List.mem_append] at member
    rcases member with (own | day) | number
    · exact decimaliseDigits c own
    · exact paddedDigits (fun _ => decimalDigits) c day
    · exact paddedDigits (fun _ => decimalDigits) c number
  have some_ : decimalise memory ++ padded 6 (decimal (issued / secondsPerDay).toNat) ++
      padded 12 (decimal serial.toNat) ≠ [] := by
    simp [padded,decimal,Nat.toDigits_ne_nil]
  obtain ⟨digit,checked⟩ := checkDigitOk some_ control
  refine ⟨String.ofList (memory ++ padded 5 (hexDigits (issued / secondsPerDay).toNat) ++
    padded 10 (hexDigits serial.toNat) ++ decimal digit),?_⟩
  simp only [generateTaxId,valid,serialOk positive small,ranged,bind,Except.bind]
  rw [if_neg (by omega)]
  simp only [checked,pure,Except.pure]

theorem mintsOn {memoryId : String} {memory : List Char} (valid : validateMemoryId memoryId = .ok memory)
    {serial : Int} (positive : 0 ≤ serial) (small : serial ≤ maxSerial) {indatim : Int} :
    (∃ issued taxid, issuedAt indatim = .ok issued ∧ generateTaxId memoryId serial issued = .ok taxid) ↔
      0 ≤ indatim ∧ indatim < endOfDays := by
  have days : endOfDays = (maxDayRange + 1) * 86400 * 1000 := rfl
  have day : secondsPerDay = 86400 := rfl
  have most : maxDayRange = 0xFFFFF := rfl
  constructor
  · rintro ⟨issued,taxid,instant,generated⟩
    have seconds := issuedIn instant
    have inside := generatedIn generated
    rw [day] at inside
    omega
  · rintro ⟨first,last⟩
    have tehran : lastInTehran = 253402300799 - 12600 := rfl
    have instant : issuedAt indatim = .ok (indatim / 1000) := by
      simp only [issuedAt]
      rw [if_neg (by omega),if_neg (by omega),if_neg (by omega)]
    obtain ⟨taxid,generated⟩ := generatesIn valid positive small (by omega : indatim / 1000 ≤ lastInTehran)
      (by rw [day]; omega) (by rw [day]; omega)
    exact ⟨_,taxid,instant,generated⟩

end TaxId
end Moadian
