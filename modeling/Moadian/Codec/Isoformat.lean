import Moadian.Codec.Datetime

/-! `datetime` with microseconds and a zone, and `datetime.fromisoformat`: every ISO 8601
format but ordinal dates, dates of less than a day and fractions of an hour or a minute. -/
namespace Moadian.Codec

def dayMicros : Int := 86400000000

abbrev Offset := { n : Int // -dayMicros < n ∧ n < dayMicros }

def utc : Offset := ⟨0,by decide⟩

-- A zone is known by its offset at this moment, which it may decline to give.
structure Moment where
  reading : Datetime
  microsecond : Nat
  fits : microsecond < 1000000
  tzinfo : Option (Option Offset)

def Moment.instant (m : Moment) : Option Int := match m.tzinfo with
  | some (some offset) =>
    let d := m.reading
    some (((toOrdinal d : Int) * 86400 + (d.hour * 3600 + d.minute * 60 + d.second : Nat)) * 1000000 + m.microsecond - offset.val)
  | _ => none

def timedeltaRepr (micros : Int) : String :=
  let rest := micros % dayMicros
  let parts := [("days",micros / dayMicros),("seconds",rest / 1000000),("microseconds",rest % 1000000)].filter (fun p => p.2 ≠ 0)
  if parts = [] then "datetime.timedelta(0)"
  else "datetime.timedelta(" ++ String.intercalate ", " (parts.map (fun p => p.1 ++ "=" ++ toString p.2)) ++ ")"

/-! Fields. -/

def asciiDigit : Class := among '0' '9'

def number (digits : Nat) (text : List Char) : Option (Nat × List Char) :=
  matchClasses (List.replicate digits asciiDigit) 0 text

-- A separator stands everywhere or nowhere.
def separated (present : Bool) (sep : Char) (text : List Char) : Option (List Char) :=
  match text with
  | c :: rest => if c = sep then (if present then some rest else none) else if present then none else some text
  | [] => if present then none else some []

def ofOrdinal (ordinal : Nat) : Nat × Nat × Nat :=
  let year := yearOf ordinal
  let month := monthOf year (ordinal - daysBeforeYear year)
  (year,month,ordinal - daysBeforeYear year - daysBeforeMonth year month)

-- The week with the year's first Thursday is its first.
def ofWeek (year week day : Nat) : Option (Nat × Nat × Nat) :=
  let first := daysBeforeYear year + 1
  let long := first % 7 = 4 ∨ first % 7 = 3 ∧ isLeap year
  let weekday := (first + 6) % 7
  let monday := if 3 < weekday then first - weekday + 7 else first - weekday
  if 1 ≤ year ∧ 1 ≤ week ∧ (week ≤ 52 ∨ week = 53 ∧ long) ∧ 1 ≤ day ∧ day ≤ 7 then
    some (ofOrdinal (monday + (week - 1) * 7 + (day - 1)))
  else none

def separatorAt (text : List Char) : Option Nat :=
  if text.length < 7 then none
  else if text.length = 7 then some 7
  else if text[4]? = some '-' then
    if text[5]? = some 'W' then
      if text[8]? = some '-' then
        if text.length = 9 then none else if (text[10]?.bind asciiDigit).isSome then some 8 else some 10
      else some 8
    else some 10
  else if text[4]? = some 'W' then
    let last := 7 + ((text.drop 7).takeWhile (fun c => (asciiDigit c).isSome)).length
    if last < 9 then some last else if last % 2 = 0 then some 7 else some 8
  else some 8

def isoDate (text : List Char) : Option (Nat × Nat × Nat) := do
  let (year,text) ← number 4 text
  let dashed := text.head? == some '-'
  let text ← separated dashed '-' text
  if text.head? = some 'W' then
    let (week,text) ← number 2 (text.drop 1)
    if text = [] then ofWeek year week 1
    else do
      let text ← separated dashed '-' text
      let (day,_) ← number 1 text
      ofWeek year week day
  else do
    let (month,text) ← number 2 text
    let text ← separated dashed '-' text
    let (day,_) ← number 2 text
    some (year,month,day)

-- The digits behind the point, of which six count.
def fraction (text : List Char) : Option Nat :=
  let counted := text.take 6
  if text ≠ [] ∧ text.all (fun c => (asciiDigit c).isSome) then
    (number counted.length counted).map (fun read => read.1 * 10 ^ (6 - counted.length))
  else none

def clockFields (text : List Char) : Option (Nat × Nat × Nat × Nat) := do
  let (hour,text) ← number 2 text
  if text = [] then some (hour,0,0,0)
  else do
    let colons := text.head? == some ':'
    let text ← separated colons ':' text
    let (minute,text) ← number 2 text
    if text = [] then some (hour,minute,0,0)
    else do
      let text ← separated colons ':' text
      let (second,text) ← number 2 text
      match text with
      | [] => some (hour,minute,second,0)
      | c :: digits => if c = '.' ∨ c = ',' then (fraction digits).map (fun micros => (hour,minute,second,micros)) else none

def zoneMark (c : Char) : Bool := c == '+' || c == '-' || c == 'Z'

def isoTime (text : List Char) : Option ((Nat × Nat × Nat × Nat) × Option Int) := do
  let fields ← clockFields (text.takeWhile (fun c => !zoneMark c))
  match text.dropWhile (fun c => !zoneMark c) with
  | [] => some (fields,none)
  | 'Z' :: rest => if rest = [] then some (fields,some 0) else none
  | sign :: rest => do
    let (hour,minute,second,micros) ← clockFields rest
    let offset : Int := ((hour * 3600 + minute * 60 + second : Nat) * 1000000 + micros : Nat)
    some (fields,some (if sign = '-' then -offset else offset))

def datetime (year month day hour minute second : Nat) : Except String Datetime :=
  if date : ValidDate year month day then
    if time : ValidTime hour minute second then .ok ⟨year,month,day,hour,minute,second,date,time⟩
    else if 24 ≤ hour then .error "hour must be in 0..23"
    else if 60 ≤ minute then .error "minute must be in 0..59"
    else .error "second must be in 0..59"
  else if year = 0 ∨ 9999 < year then .error ("year " ++ toString year ++ " is out of range")
  else if month = 0 ∨ 12 < month then .error "month must be in 1..12"
  else .error "day is out of range for month"

def timezone (offset : Int) : Except String Offset :=
  if inside : -dayMicros < offset ∧ offset < dayMicros then .ok ⟨offset,inside⟩
  else .error ("offset must be a timedelta strictly between -timedelta(hours=24) and timedelta(hours=24), not " ++
    timedeltaRepr offset ++ ".")

def isoFields (text : List Char) : Option ((Nat × Nat × Nat) × (Nat × Nat × Nat × Nat) × Option Int) := do
  let cut ← separatorAt text
  let date ← isoDate (text.take cut)
  if text.drop (cut + 1) = [] then some (date,(0,0,0,0),none)
  else do
    let (time,offset) ← isoTime (text.drop (cut + 1))
    some (date,time,offset)

def fromisoformat (shown : String) (text : List Char) : Except String Moment :=
  match isoFields text with
  | none => .error ("Invalid isoformat string: " ++ shown)
  | some ((year,month,day),(hour,minute,second,micros),offset) => do
    let tzinfo ← match offset with
      | none => .ok none
      | some n => (timezone n).map (fun o => some (some o))
    let reading ← datetime year month day hour minute second
    if fits : micros < 1000000 then .ok ⟨reading,micros,fits,tzinfo⟩ else .error "microsecond must be in 0..999999"

example : (fromisoformat "" "20230514T100000,5Z".toList).toOption.map (fun m => (m.reading.month,m.reading.hour,m.microsecond)) =
    some (5,10,500000) := by decide
example : (fromisoformat "" "2020-W53-5 23:59-03:30".toList).toOption.map (fun m => (m.reading.year,m.reading.day,m.reading.minute)) =
    some (2021,1,59) := by decide

/-! Fields that were written with as many digits as they are read by. -/

def digits6 (n : Nat) : List Char := digits2 (n / 10000) ++ digits4 (n % 10000)

def clockText (d : Datetime) : List Char := digits2 d.hour ++ ':' :: digits2 d.minute ++ ':' :: digits2 d.second

theorem asciiBack : ∀ n < 10, asciiDigit n.digitChar = some n := by decide

theorem number2 {n : Nat} (small : n < 100) (rest : List Char) : number 2 (digits2 n ++ rest) = some (n,rest) := by
  have value : 10 * (10 * 0 + n / 10) + n % 10 = n := by omega
  simp only [number,List.replicate,digits2,List.cons_append,List.nil_append,matchClasses,asciiBack (n / 10) (by omega),
    asciiBack (n % 10) (by omega),value]

theorem number4 {n : Nat} (small : n ≤ 9999) (rest : List Char) : number 4 (digits4 n ++ rest) = some (n,rest) := by
  have value : 10 * (10 * (10 * (10 * 0 + n / 1000) + n / 100 % 10) + n / 10 % 10) + n % 10 = n := by omega
  simp only [number,List.replicate,digits4,List.cons_append,List.nil_append,matchClasses,asciiBack (n / 1000) (by omega),
    asciiBack (n / 100 % 10) (by omega),asciiBack (n / 10 % 10) (by omega),asciiBack (n % 10) (by omega),value]

def plainDigit (c : Char) : Prop := ∃ n < 10, c = n.digitChar

theorem plain2 {n : Nat} (small : n < 100) : ∀ c ∈ digits2 n, plainDigit c := by
  intro c member
  simp only [digits2,List.mem_cons,List.not_mem_nil,or_false] at member
  obtain rfl | rfl := member
  · exact ⟨_,by omega,rfl⟩
  · exact ⟨_,by omega,rfl⟩

theorem plain4 {n : Nat} (small : n ≤ 9999) : ∀ c ∈ digits4 n, plainDigit c := by
  intro c member
  simp only [digits4,List.mem_cons,List.not_mem_nil,or_false] at member
  obtain rfl | rfl | rfl | rfl := member
  · exact ⟨_,by omega,rfl⟩
  · exact ⟨_,by omega,rfl⟩
  · exact ⟨_,by omega,rfl⟩
  · exact ⟨_,by omega,rfl⟩

theorem plain6 {n : Nat} (small : n < 1000000) : ∀ c ∈ digits6 n, plainDigit c := by
  intro c member
  obtain high | low := List.mem_append.mp member
  · exact plain2 (by omega) c high
  · exact plain4 (by omega) c low

theorem plainFacts {c : Char} (plain : plainDigit c) :
    (decimalDigit c).isSome = true ∧ (asciiDigit c).isSome = true ∧ c ≠ '.' ∧ zoneMark c = false := by
  have all : ∀ n < 10, (decimalDigit n.digitChar).isSome = true ∧ (asciiDigit n.digitChar).isSome = true ∧
      n.digitChar ≠ '.' ∧ zoneMark n.digitChar = false := by decide
  obtain ⟨n,small,rfl⟩ := plain
  exact all n small

theorem number6 {n : Nat} (small : n < 1000000) : fraction (digits6 n) = some n := by
  have digits : (digits6 n).all (fun c => (asciiDigit c).isSome) = true :=
    List.all_eq_true.mpr (fun c member => (plainFacts (plain6 small c member)).2.1)
  have counted : (digits6 n).take 6 = digits6 n := rfl
  have long : (digits6 n).length = 6 := rfl
  have read : number 6 (digits6 n) = some (n,[]) := by
    have value : 10 * (10 * (10 * (10 * (10 * (10 * 0 + n / 10000 / 10) + n / 10000 % 10) + n % 10000 / 1000) +
        n % 10000 / 100 % 10) + n % 10000 / 10 % 10) + n % 10000 % 10 = n := by omega
    simp only [number,List.replicate,digits6,digits2,digits4,List.cons_append,List.nil_append,matchClasses,
      asciiBack (n / 10000 / 10) (by omega),asciiBack (n / 10000 % 10) (by omega),asciiBack (n % 10000 / 1000) (by omega),
      asciiBack (n % 10000 / 100 % 10) (by omega),asciiBack (n % 10000 / 10 % 10) (by omega),
      asciiBack (n % 10000 % 10) (by omega),value]
  rw [fraction,counted,long,read,if_pos ⟨by simp [digits6,digits2],digits⟩]
  exact congrArg some (Nat.mul_one n)

theorem separatedBack (sep : Char) (text : List Char) : separated true sep (sep :: text) = some text := by
  rw [separated,if_pos rfl,if_pos rfl]

theorem isoDateBack (d : Datetime) :
    isoDate (digits4 d.year ++ '-' :: digits2 d.month ++ '-' :: digits2 d.day) = some (d.year,d.month,d.day) := by
  obtain ⟨_,last,_,december,_,days⟩ := d.date
  have few := daysFew d.year d.month
  have dash : ∀ text : List Char, (('-' :: text).head? == some '-') = true := fun _ => rfl
  have week : ((digits2 d.month ++ '-' :: digits2 d.day).head? = some 'W') = False := by
    have apart : ∀ n < 10, n.digitChar ≠ 'W' := by decide
    simp only [digits2,List.cons_append,List.head?_cons,Option.some.injEq]
    exact eq_false (apart _ (by omega))
  have bare := number2 (n := d.day) (by omega) []
  rw [List.append_nil] at bare
  simp only [isoDate,List.append_assoc,List.cons_append,number4 last,bind,Option.bind_some,dash,separatedBack,week,if_false,
    number2 (n := d.month) (by omega),bare]

theorem clockBack (d : Datetime) {micros : Nat} (small : micros < 1000000) :
    clockFields (clockText d ++ '.' :: digits6 micros) = some (d.hour,d.minute,d.second,micros) := by
  obtain ⟨day,hour,minute⟩ := d.time
  have colon : ∀ text : List Char, ((':' :: text).head? == some ':') = true := fun _ => rfl
  simp only [clockFields,clockText,List.append_assoc,List.cons_append,bind,Option.bind_some,number2 (n := d.hour) (by omega),
    number2 (n := d.minute) (by omega),number2 (n := d.second) (by omega),colon,separatedBack,reduceCtorEq,if_false,true_or,
    if_true,number6 small,Option.map_some]

theorem zoneBack {hours minutes : Nat} (short : hours < 100) (few : minutes < 100) :
    clockFields (digits2 hours ++ ':' :: digits2 minutes) = some (hours,minutes,0,0) := by
  have colon : ∀ text : List Char, ((':' :: text).head? == some ':') = true := fun _ => rfl
  have bare := number2 few []
  rw [List.append_nil] at bare
  simp only [clockFields,bind,Option.bind_some,number2 short,colon,separatedBack,reduceCtorEq,if_false,bare,if_true]

theorem isoTimeBack {fields : Nat × Nat × Nat × Nat} {text : List Char} (unmarked : ∀ c ∈ text, zoneMark c = false)
    (read : clockFields text = some fields) {sign : Char} (signs : sign = '-' ∨ sign = '+') (hours minutes : Nat)
    (short : hours < 100) (few : minutes < 100) :
    isoTime (text ++ (sign :: digits2 hours ++ ':' :: digits2 minutes)) =
      some (fields,some (if sign = '-' then -((hours * 3600 + minutes * 60 : Nat) * 1000000 : Int)
        else ((hours * 3600 + minutes * 60 : Nat) * 1000000 : Int))) := by
  have marked : zoneMark sign = true := by
    obtain rfl | rfl := signs
    · rfl
    · rfl
  have plain : ∀ c ∈ text, (!zoneMark c) = true := fun c member => by rw [unmarked c member]; rfl
  have front : (text ++ sign :: (digits2 hours ++ ':' :: digits2 minutes)).takeWhile (fun c => !zoneMark c) = text := by
    rw [List.takeWhile_append_of_pos plain,List.takeWhile_cons_of_neg (by simp [marked]),List.append_nil]
  have back : (text ++ sign :: (digits2 hours ++ ':' :: digits2 minutes)).dropWhile (fun c => !zoneMark c) =
      sign :: (digits2 hours ++ ':' :: digits2 minutes) := by
    rw [List.dropWhile_append_of_pos plain,List.dropWhile_cons_of_neg (by simp [marked])]
  rw [List.cons_append]
  unfold isoTime
  rw [front,back,read]
  obtain rfl | rfl := signs
  · simp [zoneBack short few,bind]
  · simp [zoneBack short few,bind]

end Moadian.Codec
