import Mathlib.Tactic.IntervalCases
import Mathlib.Data.List.Basic

/-! `datetime`: the calendar, the reading of an aware clock in UTC, and
`strftime` and `strptime` under "%Y-%m-%dT%H:%M:%SZ". -/
namespace Moadian.Codec

def isLeap (year : Nat) : Bool := year % 4 == 0 && (year % 100 != 0 || year % 400 == 0)

def daysInMonth (year month : Nat) : Nat :=
  if month = 2 then if isLeap year then 29 else 28
  else if month = 4 ∨ month = 6 ∨ month = 9 ∨ month = 11 then 30 else 31

def ValidDate (year month day : Nat) : Prop :=
  1 ≤ year ∧ year ≤ 9999 ∧ 1 ≤ month ∧ month ≤ 12 ∧ 1 ≤ day ∧ day ≤ daysInMonth year month
instance (year month day : Nat) : Decidable (ValidDate year month day) := by unfold ValidDate; infer_instance

def ValidTime (hour minute second : Nat) : Prop := hour < 24 ∧ minute < 60 ∧ second < 60
instance (hour minute second : Nat) : Decidable (ValidTime hour minute second) := by unfold ValidTime; infer_instance

structure Datetime where
  year : Nat
  month : Nat
  day : Nat
  hour : Nat
  minute : Nat
  second : Nat
  date : ValidDate year month day
  time : ValidTime hour minute second
  deriving DecidableEq, Repr

def daysBeforeYear (year : Nat) : Nat := (year - 1) * 365 + (year - 1) / 4 - (year - 1) / 100 + (year - 1) / 400

def daysBeforeMonth (year month : Nat) : Nat := ((List.range (month - 1)).map (fun m => daysInMonth year (m + 1))).sum

def toOrdinal (d : Datetime) : Nat := daysBeforeYear d.year + daysBeforeMonth d.year d.month + d.day

-- The year of a day: a guess that is never too late, and at most one year too early.
def yearOf (ordinal : Nat) : Nat :=
  let guess := (ordinal - 1) * 400 / 146097 + 1
  if ordinal ≤ daysBeforeYear guess then guess - 1
  else if daysBeforeYear (guess + 1) < ordinal then guess + 1 else guess

def monthOf (year dayOfYear : Nat) : Nat :=
  ((List.range 12).filter (fun m => daysBeforeMonth year (m + 1) < dayOfYear)).length

def ofSeconds (seconds : Int) : Option Datetime :=
  let ordinal := (seconds / 86400).toNat
  let rest := (seconds % 86400).toNat
  let year := yearOf ordinal
  let month := monthOf year (ordinal - daysBeforeYear year)
  let day := ordinal - daysBeforeYear year - daysBeforeMonth year month
  if date : ValidDate year month day then
    if time : ValidTime (rest / 3600) (rest / 60 % 60) (rest % 60) then some ⟨year,month,day,_,_,_,date,time⟩ else none
  else none

structure Clock where
  reading : Datetime
  utcoffset : Option Int

def astimezoneUtc (d : Datetime) (offset : Int) : Option Datetime :=
  ofSeconds ((toOrdinal d : Int) * 86400 + (d.hour * 3600 + d.minute * 60 + d.second : Nat) - offset)

def Clock.utc (c : Clock) : Option Datetime := match c.utcoffset with
  | none => some c.reading
  | some offset => astimezoneUtc c.reading offset

/-! Writing. -/

def digits2 (n : Nat) : List Char := [(n / 10).digitChar,(n % 10).digitChar]
def digits4 (n : Nat) : List Char :=
  [(n / 1000).digitChar,(n / 100 % 10).digitChar,(n / 10 % 10).digitChar,(n % 10).digitChar]

def sigtFormat : String := "%Y-%m-%dT%H:%M:%SZ"

def strftime (d : Datetime) : List Char :=
  digits4 d.year ++ '-' :: digits2 d.month ++ '-' :: digits2 d.day ++ 'T' :: digits2 d.hour ++ ':' :: digits2 d.minute ++
    ':' :: digits2 d.second ++ ['Z']

/-! Reading: a field is the first of its patterns that fits. No shorter one would
do after it, for what must follow is not a digit. -/

-- The zeros of the decimal digits of Unicode.
def decimalZeros : List Nat := [
  0x30,0x660,0x6F0,0x7C0,0x966,0x9E6,0xA66,0xAE6,0xB66,0xBE6,0xC66,0xCE6,0xD66,0xDE6,0xE50,0xED0,0xF20,0x1040,0x1090,
  0x17E0,0x1810,0x1946,0x19D0,0x1A80,0x1A90,0x1B50,0x1BB0,0x1C40,0x1C50,0xA620,0xA8D0,0xA900,0xA9D0,0xA9F0,0xAA50,0xABF0,
  0xFF10,0x104A0,0x10D30,0x11066,0x110F0,0x11136,0x111D0,0x112F0,0x11450,0x114D0,0x11650,0x116C0,0x11730,0x118E0,0x11950,
  0x11C50,0x11D50,0x11DA0,0x16A60,0x16AC0,0x16B50,0x1D7CE,0x1D7D8,0x1D7E2,0x1D7EC,0x1D7F6,0x1E140,0x1E2F0,0x1E950,0x1FBF0]

def decimalDigit (c : Char) : Option Nat :=
  decimalZeros.findSome? (fun z => if z ≤ c.toNat ∧ c.toNat < z + 10 then some (c.toNat - z) else none)

abbrev Class := Char → Option Nat

def among (low high : Char) : Class := fun c => if low ≤ c ∧ c ≤ high then some (c.toNat - 48) else none
def only (c : Char) : Class := among c c
def blank : Class := fun c => if c = ' ' then some 0 else none

def matchClasses : List Class → Nat → List Char → Option (Nat × List Char)
  | [],n,text => some (n,text)
  | _ :: _,_,[] => none
  | p :: ps,n,c :: text => match p c with
    | none => none
    | some d => matchClasses ps (10 * n + d) text

def field (patterns : List (List Class)) (text : List Char) : Option (Nat × List Char) :=
  patterns.findSome? (fun p => matchClasses p 0 text)

def yearField : List (List Class) := [[decimalDigit,decimalDigit,decimalDigit,decimalDigit]]
def monthField : List (List Class) := [[only '1',among '0' '2'],[only '0',among '1' '9'],[among '1' '9']]
def dayField : List (List Class) := [[only '3',among '0' '1'],[among '1' '2',decimalDigit],[only '0',among '1' '9'],
  [among '1' '9'],[blank,among '1' '9']]
def hourField : List (List Class) := [[only '2',among '0' '3'],[among '0' '1',decimalDigit],[decimalDigit]]
def minuteField : List (List Class) := [[among '0' '5',decimalDigit],[decimalDigit]]
def secondField : List (List Class) := [[only '6',among '0' '1'],[among '0' '5',decimalDigit],[decimalDigit]]

-- A letter of the format stands for both cases.
def letter (upper : Char) : List Char → Option (List Char)
  | c :: text => if c = upper ∨ c = upper.toLower then some text else none
  | [] => none

def matchFormat (text : List Char) : Option ((Nat × Nat × Nat) × (Nat × Nat × Nat) × List Char) := do
  let (year,text) ← field yearField text
  let text ← letter '-' text
  let (month,text) ← field monthField text
  let text ← letter '-' text
  let (day,text) ← field dayField text
  let text ← letter 'T' text
  let (hour,text) ← field hourField text
  let text ← letter ':' text
  let (minute,text) ← field minuteField text
  let text ← letter ':' text
  let (second,text) ← field secondField text
  let text ← letter 'Z' text
  some ((year,month,day),(hour,minute,second),text)

def strptime (shown : String) (text : List Char) : Except String Datetime :=
  match matchFormat text with
  | none => .error ("time data " ++ shown ++ " does not match format '" ++ sigtFormat ++ "'")
  | some ((year,month,day),(hour,minute,second),rest) =>
    if rest ≠ [] then .error ("unconverted data remains: " ++ String.ofList rest)
    else if year = 0 then .error "year 0 is out of range"
    else if date : ValidDate year month day then
      if time : ValidTime hour minute second then .ok ⟨year,month,day,hour,minute,second,date,time⟩
      else .error "second must be in 0..59"
    else .error "day is out of range for month"

/-! What was written is read back. -/

theorem decimalBack : ∀ n < 10, decimalDigit n.digitChar = some n := by decide

theorem yearBack {n : Nat} (small : n ≤ 9999) (rest : List Char) : field yearField (digits4 n ++ rest) = some (n,rest) := by
  have value : 10 * (10 * (10 * (10 * 0 + n / 1000) + n / 100 % 10) + n / 10 % 10) + n % 10 = n := by omega
  simp only [field,yearField,List.findSome?_cons,digits4,List.cons_append,List.nil_append,matchClasses,
    decimalBack (n / 1000) (by omega),decimalBack (n / 100 % 10) (by omega),decimalBack (n / 10 % 10) (by omega),
    decimalBack (n % 10) (by omega),value]

theorem monthBack {n : Nat} (positive : 1 ≤ n) (small : n ≤ 12) (rest : List Char) :
    field monthField (digits2 n ++ rest) = some (n,rest) := by
  interval_cases n <;> rfl

theorem dayBack {n : Nat} (positive : 1 ≤ n) (small : n ≤ 31) (rest : List Char) :
    field dayField (digits2 n ++ rest) = some (n,rest) := by
  interval_cases n <;> rfl

theorem hourBack {n : Nat} (small : n < 24) (rest : List Char) : field hourField (digits2 n ++ rest) = some (n,rest) := by
  interval_cases n <;> rfl

theorem minuteBack {n : Nat} (small : n < 60) (rest : List Char) : field minuteField (digits2 n ++ rest) = some (n,rest) := by
  interval_cases n <;> rfl

theorem secondBack {n : Nat} (small : n < 60) (rest : List Char) : field secondField (digits2 n ++ rest) = some (n,rest) := by
  interval_cases n <;> rfl

theorem letterBack (upper : Char) (text : List Char) : letter upper (upper :: text) = some text := by
  rw [letter,if_pos (.inl rfl)]

theorem daysFew (year month : Nat) : daysInMonth year month ≤ 31 := by
  unfold daysInMonth
  split_ifs <;> decide

theorem strptimeStrftime (shown : String) (d : Datetime) : strptime shown (strftime d) = .ok d := by
  obtain ⟨year,month,day,hour,minute,second,date,time⟩ := d
  have valid := date
  obtain ⟨first,last,january,december,one,days⟩ := valid
  have few := daysFew year month
  have read : matchFormat (strftime ⟨year,month,day,hour,minute,second,date,time⟩) =
      some ((year,month,day),(hour,minute,second),[]) := by
    simp only [matchFormat,strftime,List.append_assoc,List.cons_append,bind]
    simp only [yearBack last,Option.bind_some,letterBack]
    simp only [monthBack january december,Option.bind_some,letterBack]
    simp only [dayBack one (Nat.le_trans days few),Option.bind_some,letterBack]
    simp only [hourBack time.1,Option.bind_some,letterBack]
    simp only [minuteBack time.2.1,Option.bind_some,letterBack]
    simp only [secondBack time.2.2,Option.bind_some,letterBack]
  simp only [strptime,read,ne_eq,not_true_eq_false,if_false]
  rw [if_neg (by omega),dif_pos date,dif_pos time]

end Moadian.Codec
