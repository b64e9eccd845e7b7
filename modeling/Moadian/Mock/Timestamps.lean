import Moadian.Codec.Isoformat
import Moadian.Mock.Unpacked

/-! The bounds of an inquiry: the client writes them with nine digits behind the point, and
the server cuts these back to six before it reads them. -/
namespace Moadian
open Codec

-- `%Y`: whether a year before 1000 is padded is the platform's.
structure Strftime where
  year : Nat → List Char
  long : ∀ n, 1000 ≤ n → n ≤ 9999 → year n = digits4 n

-- A naive moment is one in Tehran.
def formatQueryDatetime (platform : Strftime) (tehran : Datetime → Offset) (moment : Moment) : List Char :=
  let anchored := match moment.tzinfo with
    | some zone => zone
    | none => some (tehran moment.reading)
  let offset : Int := match anchored with
    | some offset => offset.val
    | none => 0
  let totalMinutes := offset / 60000000
  let sign := if totalMinutes < 0 then '-' else '+'
  let hours := totalMinutes.natAbs / 60
  let minutes := totalMinutes.natAbs % 60
  let d := moment.reading
  platform.year d.year ++ '-' :: digits2 d.month ++ '-' :: digits2 d.day ++ 'T' :: digits2 d.hour ++ ':' :: digits2 d.minute ++
    ':' :: digits2 d.second ++ '.' :: digits6 moment.microsecond ++ "000".toList ++ sign :: digits2 hours ++ ':' :: digits2 minutes

namespace Mock

-- `_FRACTION.sub(r"\1", …)`, of which the first count is what is still to be dropped.
def cutFraction : Nat → List Char → List Char
  | _,[] => []
  | n + 1,_ :: rest => cutFraction n rest
  | 0,c :: rest =>
    let digits := rest.takeWhile (fun d => (decimalDigit d).isSome)
    if c = '.' ∧ 7 ≤ digits.length then '.' :: digits.take 6 ++ cutFraction digits.length rest else c :: cutFraction 0 rest

def parseTimestamp (py : Python) (value : Option String) (name : String) : Except Refusal (Option Moment) :=
  match value with
  | none => .ok none
  | some value =>
    let text := cutFraction 0 value.toList
    match fromisoformat (py.repr (.str (String.ofList text))) text with
    | .error message => reject 400 "4147" (name ++ " is not ISO-8601: " ++ message)
    | .ok moment => .ok (some (if moment.tzinfo = none then { moment with tzinfo := some (some utc) } else moment))

end Mock

/-! What is written. -/

section Written
variable (platform : Strftime) (tehran : Datetime → Offset)

def dateText (d : Datetime) : List Char := platform.year d.year ++ '-' :: digits2 d.month ++ '-' :: digits2 d.day

def zoneText (offset : Int) : List Char :=
  let totalMinutes := offset / 60000000
  (if totalMinutes < 0 then '-' else '+') :: digits2 (totalMinutes.natAbs / 60) ++ ':' :: digits2 (totalMinutes.natAbs % 60)

theorem formatParts {moment : Moment} {offset : Offset} (aware : moment.tzinfo = some (some offset)) :
    formatQueryDatetime platform tehran moment = dateText platform moment.reading ++ 'T' :: clockText moment.reading ++
      '.' :: digits6 moment.microsecond ++ "000".toList ++ zoneText offset.val := by
  unfold formatQueryDatetime dateText clockText zoneText
  rw [aware]
  simp only [List.append_assoc,List.cons_append]

end Written

namespace Mock

theorem cutPlain {before : List Char} (none_ : ∀ c ∈ before, c ≠ '.') (rest : List Char) :
    cutFraction 0 (before ++ rest) = before ++ cutFraction 0 rest := by
  induction before with
  | nil => rfl
  | cons c before ih =>
    have other := none_ c (List.mem_cons_self ..)
    rw [List.cons_append,cutFraction,if_neg (fun both => other both.1),ih (fun d member => none_ d (List.mem_cons_of_mem c member))]
    rfl

theorem cutSkip (digits rest : List Char) : cutFraction digits.length (digits ++ rest) = cutFraction 0 rest := by
  induction digits with
  | nil => rfl
  | cons c digits ih => exact ih

theorem cutNine {digits rest : List Char} {mark : Char} (all : ∀ c ∈ digits, (decimalDigit c).isSome = true)
    (long : 7 ≤ digits.length) (ends : (decimalDigit mark).isSome = false) :
    cutFraction 0 ('.' :: digits ++ mark :: rest) = '.' :: digits.take 6 ++ cutFraction 0 (mark :: rest) := by
  have run : (digits ++ mark :: rest).takeWhile (fun d => (decimalDigit d).isSome) = digits := by
    rw [List.takeWhile_append_of_pos all,List.takeWhile_cons_of_neg (by rw [ends]; exact Bool.false_ne_true),List.append_nil]
  rw [List.cons_append,cutFraction,run,if_pos ⟨rfl,long⟩,cutSkip]

end Mock

/-! What is read. -/

theorem offsetBack {offset : Offset} (minutes : offset.val % 60000000 = 0) {fields : Nat × Nat × Nat × Nat} {text : List Char}
    (unmarked : ∀ c ∈ text, Codec.zoneMark c = false) (read : clockFields text = some fields) :
    isoTime (text ++ zoneText offset.val) = some (fields,some offset.val) := by
  obtain ⟨n,low,high⟩ := offset
  simp only [dayMicros] at low high minutes
  unfold zoneText
  dsimp only
  by_cases west : n / 60000000 < 0
  · rw [if_pos west]
    rw [isoTimeBack unmarked read (.inl rfl) ((n / 60000000).natAbs / 60) ((n / 60000000).natAbs % 60) (by omega) (by omega),
      if_pos rfl]
    congr 3
    omega
  · rw [if_neg west]
    rw [isoTimeBack unmarked read (.inr rfl) ((n / 60000000).natAbs / 60) ((n / 60000000).natAbs % 60) (by omega) (by omega),
      if_neg (by decide)]
    congr 3
    omega

-- No mark of a zone stands before the zone, and no point before the fraction.
theorem clockPlain (d : Datetime) : ∀ c ∈ clockText d, c = ':' ∨ plainDigit c := by
  obtain ⟨hour,minute,second⟩ := d.time
  intro c member
  simp only [clockText,List.append_assoc,List.cons_append,List.mem_append,List.mem_cons] at member
  obtain own | colon | own | colon | own := member
  · exact .inr (plain2 (by omega) c own)
  · exact .inl colon
  · exact .inr (plain2 (by omega) c own)
  · exact .inl colon
  · exact .inr (plain2 (by omega) c own)

theorem timeUnmarked (d : Datetime) {micros : Nat} (small : micros < 1000000) :
    ∀ c ∈ clockText d ++ '.' :: digits6 micros, Codec.zoneMark c = false := by
  intro c member
  obtain own | rest := List.mem_append.mp member
  · obtain rfl | plain := clockPlain d c own
    · rfl
    · exact (plainFacts plain).2.2.2
  · obtain rfl | own := List.mem_cons.mp rest
    · rfl
    · exact (plainFacts (plain6 small c own)).2.2.2

theorem dateLong (platform : Strftime) (d : Datetime) (late : 1000 ≤ d.year) :
    dateText platform d = digits4 d.year ++ '-' :: digits2 d.month ++ '-' :: digits2 d.day := by
  rw [dateText,platform.long d.year late d.date.2.1]

theorem isoFieldsBack (platform : Strftime) {d : Datetime} (late : 1000 ≤ d.year) {text : List Char}
    {time : (Nat × Nat × Nat × Nat) × Option Int} (read : isoTime text = some time) (some_ : text ≠ []) :
    isoFields (dateText platform d ++ 'T' :: text) = some ((d.year,d.month,d.day),time) := by
  rw [dateLong platform d late]
  have date := isoDateBack d
  have apart : ∀ n < 10, n.digitChar ≠ 'W' := by decide
  have small : d.month / 10 < 10 := by
    have few := d.date.2.2.2.1
    omega
  have week := apart _ small
  have ends : separatorAt (digits4 d.year ++ '-' :: digits2 d.month ++ '-' :: digits2 d.day ++ 'T' :: text) = some 10 := by
    simp [separatorAt,digits4,digits2,week]
  have front : (digits4 d.year ++ '-' :: digits2 d.month ++ '-' :: digits2 d.day ++ 'T' :: text).take 10 =
      digits4 d.year ++ '-' :: digits2 d.month ++ '-' :: digits2 d.day := rfl
  have back : (digits4 d.year ++ '-' :: digits2 d.month ++ '-' :: digits2 d.day ++ 'T' :: text).drop (10 + 1) = text := rfl
  simp only [isoFields,ends,bind,Option.bind_some,front,date,back,if_neg some_,read]

theorem fromisoformatBack (platform : Strftime) (shown : String) {m : Moment} {offset : Offset} (aware : m.tzinfo = some (some offset))
    (late : 1000 ≤ m.reading.year) (minutes : offset.val % 60000000 = 0) :
    fromisoformat shown (dateText platform m.reading ++ 'T' :: (clockText m.reading ++ '.' :: digits6 m.microsecond ++
      zoneText offset.val)) = .ok m := by
  obtain ⟨d,micros,fits,zone⟩ := m
  have fields := isoFieldsBack platform late (offsetBack minutes (timeUnmarked d fits) (clockBack d fits)) ?_
  · have zoned : timezone offset.val = .ok offset := dif_pos offset.property
    have dated : datetime d.year d.month d.day d.hour d.minute d.second = .ok d := by
      rw [datetime,dif_pos d.date,dif_pos d.time]
    rw [show zone = some (some offset) from aware]
    simp only [fromisoformat,fields,zoned,dated,Except.map,bind,Except.bind,dif_pos fits]
  · simp [clockText,digits2]

theorem datePoint (platform : Strftime) {d : Datetime} (late : 1000 ≤ d.year) : ∀ c ∈ dateText platform d, c ≠ '.' := by
  obtain ⟨_,last,_,december,_,days⟩ := d.date
  have few := daysFew d.year d.month
  intro c member
  rw [dateLong platform d late] at member
  simp only [List.append_assoc,List.cons_append,List.mem_append,List.mem_cons] at member
  obtain own | rfl | own | rfl | own := member
  · exact (plainFacts (plain4 last c own)).2.2.1
  · decide
  · exact (plainFacts (plain2 (by omega) c own)).2.2.1
  · decide
  · exact (plainFacts (plain2 (by omega) c own)).2.2.1

theorem zonePoint {offset : Int} (inside : -dayMicros < offset ∧ offset < dayMicros) : ∃ sign zone, zoneText offset = sign :: zone ∧
    (decimalDigit sign).isSome = false ∧ ∀ c ∈ sign :: zone, c ≠ '.' := by
  simp only [dayMicros] at inside
  refine ⟨_,_,rfl,?_,?_⟩
  · split
    · decide
    · decide
  · intro c member
    obtain rfl | rest := List.mem_cons.mp member
    · split
      · decide
      · decide
    · obtain own | rest := List.mem_append.mp (show c ∈ digits2 _ ++ ':' :: digits2 _ from rest)
      · exact (plainFacts (plain2 (by omega) c own)).2.2.1
      · obtain rfl | own := List.mem_cons.mp rest
        · decide
        · exact (plainFacts (plain2 (by omega) c own)).2.2.1

theorem cutWritten (platform : Strftime) {d : Datetime} (late : 1000 ≤ d.year) {micros : Nat} (small : micros < 1000000) {offset : Int}
    (inside : -dayMicros < offset ∧ offset < dayMicros) :
    Mock.cutFraction 0 (dateText platform d ++ 'T' :: clockText d ++ '.' :: digits6 micros ++ "000".toList ++ zoneText offset) =
      dateText platform d ++ 'T' :: (clockText d ++ '.' :: digits6 micros ++ zoneText offset) := by
  have front : ∀ c ∈ dateText platform d ++ 'T' :: clockText d, c ≠ '.' := by
    intro c member
    obtain own | rest := List.mem_append.mp member
    · exact datePoint platform late c own
    · obtain rfl | own := List.mem_cons.mp rest
      · decide
      · obtain rfl | plain := clockPlain d c own
        · decide
        · exact (plainFacts plain).2.2.1
  have decimals : ∀ c ∈ digits6 micros ++ "000".toList, (decimalDigit c).isSome = true := by
    intro c member
    obtain own | zero := List.mem_append.mp member
    · exact (plainFacts (plain6 small c own)).1
    · have same : c = '0' := by simpa using zero
      rw [same]
      decide
  obtain ⟨sign,zone,shape,ends,points⟩ := zonePoint inside
  have six : (digits6 micros ++ "000".toList).take 6 = digits6 micros := rfl
  have left_ : dateText platform d ++ 'T' :: clockText d ++ '.' :: digits6 micros ++ "000".toList ++ zoneText offset =
      (dateText platform d ++ 'T' :: clockText d) ++ ('.' :: (digits6 micros ++ "000".toList) ++ sign :: zone) := by
    rw [shape]
    simp only [List.append_assoc,List.cons_append]
  have tail := Mock.cutPlain points []
  rw [List.append_nil,Mock.cutFraction,List.append_nil] at tail
  rw [left_,Mock.cutPlain front,Mock.cutNine decimals (show 7 ≤ 9 by decide) ends,six,tail,← shape]
  simp only [List.append_assoc,List.cons_append]

/- Every aware moment from the year 1000 on whose offset is of whole minutes comes back as
it was written. -/
theorem queryTimestamp (platform : Strftime) (tehran : Datetime → Offset) (py : Mock.Python) (name : String) (m : Moment)
    (offset : Offset) (aware : m.tzinfo = some (some offset)) (late : 1000 ≤ m.reading.year)
    (minutes : offset.val % 60000000 = 0) :
    ∃ back instant, Mock.parseTimestamp py (some (String.ofList (formatQueryDatetime platform tehran m))) name = .ok (some back) ∧
      m.instant = some instant ∧ back.instant = some instant := by
  have read : Mock.parseTimestamp py (some (String.ofList (formatQueryDatetime platform tehran m))) name = .ok (some m) := by
    simp only [Mock.parseTimestamp,String.toList_ofList,formatParts platform tehran aware,cutWritten platform late m.fits offset.property,
      fromisoformatBack platform _ aware late minutes]
    rw [if_neg (by rw [aware]; exact Option.some_ne_none _)]
  have instant : ∃ n, m.instant = some n := by
    unfold Moment.instant
    rw [aware]
    exact ⟨_,rfl⟩
  obtain ⟨n,at_⟩ := instant
  exact ⟨m,n,read,at_,at_⟩

namespace Mock.Example

def behind : Offset := ⟨-34200000000,by decide⟩

def evening : Moment := ⟨⟨2024,2,29,23,59,59,by decide,by decide⟩,999999,by decide,some (some behind)⟩

def padding : Strftime := ⟨digits4,fun _ _ _ => rfl⟩

def tehranTime (_ : Datetime) : Offset := ⟨12600000000,by decide⟩

end Mock.Example

example : formatQueryDatetime Mock.Example.padding Mock.Example.tehranTime Mock.Example.evening =
    "2024-02-29T23:59:59.999999000-09:30".toList := by decide

theorem queryTimestampEvening : ∃ back instant, Mock.parseTimestamp Mock.Example.py
      (some (String.ofList (formatQueryDatetime Mock.Example.padding Mock.Example.tehranTime Mock.Example.evening))) "start" =
        .ok (some back) ∧
      Mock.Example.evening.instant = some instant ∧ back.instant = some instant :=
  queryTimestamp Mock.Example.padding Mock.Example.tehranTime Mock.Example.py "start" Mock.Example.evening Mock.Example.behind rfl
    (by decide) (by decide)

end Moadian
