import Mathlib.Data.List.Basic

/-! Reading comma-separated text, as the `csv` module does with its default dialect: a state
machine over the characters of one line after the other, quoted fields running on over
line ends. -/
namespace Moadian.Csv

abbrev Text := List Char

inductive State where
  | startRecord | startField | inField | inQuotedField | quoteInQuotedField | eatCrnl
  deriving DecidableEq, Repr

structure Reader where
  state : State := .startRecord
  field : Text := []
  fields : List Text := []
  deriving DecidableEq, Repr

namespace Reader

def save (r : Reader) (state : State) : Reader := ⟨state,[],r.fields ++ [r.field]⟩

def add (limit : Nat) (r : Reader) (state : State) (c : Char) : Except String Reader :=
  if r.field.length < limit then .ok ⟨state,r.field ++ [c],r.fields⟩
  else .error ("field larger than field limit (" ++ toString limit ++ ")")

def lineEnd (c : Char) : Bool := c = '\n' || c = '\r'

def startField (limit : Nat) (r : Reader) (c : Char) : Except String Reader :=
  if lineEnd c then .ok (r.save .eatCrnl)
  else if c = '"' then .ok { r with state := .inQuotedField }
  else if c = ',' then .ok (r.save .startField)
  else r.add limit .inField c

-- `parse_process_char`
def char (limit : Nat) (r : Reader) (c : Char) : Except String Reader :=
  match r.state with
  | .startRecord => if lineEnd c then .ok { r with state := .eatCrnl } else r.startField limit c
  | .startField => r.startField limit c
  | .inField =>
    if lineEnd c then .ok (r.save .eatCrnl)
    else if c = ',' then .ok (r.save .startField)
    else r.add limit .inField c
  | .inQuotedField => if c = '"' then .ok { r with state := .quoteInQuotedField } else r.add limit .inQuotedField c
  | .quoteInQuotedField =>
    if c = '"' then r.add limit .inQuotedField c
    else if c = ',' then .ok (r.save .startField)
    else if lineEnd c then .ok (r.save .eatCrnl)
    else r.add limit .inField c
  | .eatCrnl =>
    if lineEnd c then .ok r
    else .error "new-line character seen in unquoted field - do you need to open the file in universal-newline mode?"

def endLine (r : Reader) : Reader :=
  match r.state with
  | .startRecord => r
  | .startField | .inField | .quoteInQuotedField => r.save .startRecord
  | .inQuotedField => r
  | .eatCrnl => { r with state := .startRecord }

def finish (r : Reader) : List (Except String (List Text)) :=
  if r.field ≠ [] ∨ r.state = .inQuotedField then [.ok (r.fields ++ [r.field])] else []

end Reader

def ends (c : Char) (rest : Text) : Bool := c = '\n' || (c = '\r' && rest.head? ≠ some '\n')

-- The rows a reader comes up with one by one, the last of them perhaps an error; `pending` while a line is begun.
def readRows (limit : Nat) : Text → Reader → Bool → List (Except String (List Text))
  | [],r,pending =>
    if pending then
      let r := r.endLine
      if r.state = .startRecord then [.ok r.fields] else r.finish
    else r.finish
  | c :: rest,r,_ =>
    match r.char limit c with
    | .error e => [.error e]
    | .ok r =>
      if ends c rest then
        let r := r.endLine
        if r.state = .startRecord then .ok r.fields :: readRows limit rest {} false else readRows limit rest r false
      else readRows limit rest r true

def parse (limit : Nat) (text : Text) : List (Except String (List Text)) := readRows limit text {} false

example : parse 99 "a,\"b\"\"\n,c\"\r\n\r\n,".toList = [.ok [['a'],"b\"\n,c".toList],.ok [],.ok [[],[]]] := by decide

/-! Writing: each field in quotes or, where nothing in it asks for them, without; each record
on a line of its own. -/

def special (c : Char) : Bool := c = ',' || c = '"' || c = '\n' || c = '\r'

def escape (cell : Text) : Text := cell.flatMap (fun c => if c = '"' then ['"','"'] else [c])

inductive Field : Text → Text → Prop
  | plain {cell : Text} (simple : ∀ c ∈ cell, special c = false) : Field cell cell
  | quoted (cell : Text) : Field cell ('"' :: escape cell ++ ['"'])

inductive Record : List Text → Text → Prop
  | one {cell text : Text} (written : Field cell text) : Record [cell] text
  | more {cell text : Text} {cells : List Text} {later : Text} (written : Field cell text) (rest : Record cells later) :
      Record (cell :: cells) (text ++ ',' :: later)

inductive LineEnd : Text → Prop
  | lf : LineEnd ['\n']
  | crlf : LineEnd ['\r','\n']
  | cr : LineEnd ['\r']

-- A line of nothing would be no record; the last may do without an end.
inductive Written : List (List Text) → Text → Prop
  | none : Written [] []
  | last {cells : List Text} {text : Text} (record : Record cells text) (some_ : text ≠ []) : Written [cells] text
  | line {cells : List Text} {text end_ later : Text} {rows : List (List Text)} (record : Record cells text)
      (some_ : text ≠ []) (ended : LineEnd end_) (rest : Written rows later) :
      Written (cells :: rows) (text ++ end_ ++ later)

def quoted (cell : Text) : Text := if cell.all (fun c => !special c) then cell else '"' :: escape cell ++ ['"']

def line (cells : List Text) : Text := [','].intercalate (cells.map quoted)

theorem fieldQuoted (cell : Text) : Field cell (quoted cell) := by
  unfold quoted
  split
  · rename_i simple
    exact .plain (by simpa using simple)
  · exact .quoted cell

theorem recordLine {cells : List Text} (some_ : cells ≠ []) : Record cells (line cells) := by
  induction cells with
  | nil => exact absurd rfl some_
  | cons cell rest ih =>
    cases rest with
    | nil =>
      have alone : line [cell] = quoted cell := by simp [line]
      rw [alone]
      exact .one (fieldQuoted cell)
    | cons next later =>
      have joined : line (cell :: next :: later) = quoted cell ++ ',' :: line (next :: later) := by simp [line,List.intercalate]
      rw [joined]
      exact .more (fieldQuoted cell) (ih (List.cons_ne_nil _ _))

/-! Reading what was written. -/

section Read
variable {limit : Nat}

structure Open (r : Reader) (saved : List Text) (cell : Text) : Prop where
  before : r.fields = saved
  own : r.field = cell
  state : (r.state = .startField ∧ cell = []) ∨ r.state = .inField ∨ r.state = .quoteInQuotedField

theorem openComma {r : Reader} {saved : List Text} {cell : Text} (opened : Open r saved cell) :
    r.char limit ',' = .ok ⟨.startField,[],saved ++ [cell]⟩ := by
  obtain ⟨rfl,rfl,⟨start,_⟩ | inside | closed⟩ := opened
  · simp only [Reader.char,start]
    rfl
  · simp only [Reader.char,inside]
    rfl
  · simp only [Reader.char,closed]
    rfl

theorem openLine {r : Reader} {saved : List Text} {cell : Text} (opened : Open r saved cell) {c : Char}
    (ended : Reader.lineEnd c = true) : r.char limit c = .ok ⟨.eatCrnl,[],saved ++ [cell]⟩ := by
  have apart : c ≠ '"' ∧ c ≠ ',' := by
    constructor <;> rintro rfl <;> exact absurd ended (by decide)
  obtain ⟨rfl,rfl,⟨start,_⟩ | inside | closed⟩ := opened
  · simp only [Reader.char,start,Reader.startField,ended,if_true]
    rfl
  · simp only [Reader.char,inside,ended,if_true]
    rfl
  · simp only [Reader.char,closed,ended,if_true,if_neg apart.1,if_neg apart.2]
    rfl

theorem openEnd {r : Reader} {saved : List Text} {cell : Text} (opened : Open r saved cell) :
    r.endLine = ⟨.startRecord,[],saved ++ [cell]⟩ := by
  obtain ⟨rfl,rfl,⟨start,_⟩ | inside | closed⟩ := opened
  · simp only [Reader.endLine,start]
    rfl
  · simp only [Reader.endLine,inside]
    rfl
  · simp only [Reader.endLine,closed]
    rfl

theorem addRoom {r : Reader} (room : r.field.length < limit) (state : State) (c : Char) :
    r.add limit state c = .ok ⟨state,r.field ++ [c],r.fields⟩ := if_pos room

theorem readChar {r after : Reader} {c : Char} {rest : Text} {pending : Bool} (stepped : r.char limit c = .ok after)
    (inside : ends c rest = false) : readRows limit (c :: rest) r pending = readRows limit rest after true := by
  rw [readRows,stepped]
  simp only [inside,if_neg Bool.false_ne_true]

structure Simple (c : Char) : Prop where
  comma : c ≠ ','
  quote : c ≠ '"'
  line : Reader.lineEnd c = false
  inside : ∀ rest, ends c rest = false

theorem simpleOf {c : Char} (simple : special c = false) : Simple c := by
  simp only [special,Bool.or_eq_false_iff,decide_eq_false_iff_not] at simple
  obtain ⟨⟨⟨comma,quote⟩,lf⟩,cr⟩ := simple
  exact ⟨comma,quote,by simp [Reader.lineEnd,lf,cr],fun rest => by simp [ends,lf,cr]⟩

theorem plainInside {cell : Text} (simple : ∀ c ∈ cell, special c = false) (t front : Text) (saved : List Text)
    (short : (front ++ cell).length ≤ limit) :
    readRows limit (cell ++ t) ⟨.inField,front,saved⟩ true = readRows limit t ⟨.inField,front ++ cell,saved⟩ true := by
  induction cell generalizing front with
  | nil => rw [List.nil_append,List.append_nil]
  | cons c rest ih =>
    have plain := simpleOf (simple c List.mem_cons_self)
    have room : front.length < limit := by
      rw [List.length_append,List.length_cons] at short
      omega
    have stepped : (Reader.mk .inField front saved).char limit c = .ok ⟨.inField,front ++ [c],saved⟩ := by
      simp only [Reader.char,plain.line,if_neg Bool.false_ne_true,if_neg plain.comma]
      exact addRoom room _ _
    have later := ih (fun d member => simple d (List.mem_cons_of_mem c member)) (front ++ [c]) (by simpa using short)
    rw [List.cons_append,readChar stepped (plain.inside _),later,List.append_assoc,List.singleton_append]

theorem quotedInside (cell t front : Text) (saved : List Text) (pending : Bool) (short : (front ++ cell).length ≤ limit) :
    readRows limit (escape cell ++ '"' :: t) ⟨.inQuotedField,front,saved⟩ pending =
      readRows limit t ⟨.quoteInQuotedField,front ++ cell,saved⟩ true := by
  induction cell generalizing front pending with
  | nil =>
    rw [escape,List.flatMap_nil,List.nil_append,List.append_nil]
    exact readChar rfl rfl
  | cons c rest ih =>
    have room : front.length < limit := by
      rw [List.length_append,List.length_cons] at short
      omega
    have later : ∀ p, readRows limit (escape rest ++ '"' :: t) ⟨.inQuotedField,front ++ [c],saved⟩ p =
        readRows limit t ⟨.quoteInQuotedField,front ++ c :: rest,saved⟩ true := by
      intro p
      rw [ih (front ++ [c]) p (by simpa using short),List.append_assoc,List.singleton_append]
    by_cases quote : c = '"'
    · subst quote
      have second : (Reader.mk .quoteInQuotedField front saved).char limit '"' = .ok ⟨.inQuotedField,front ++ ['"'],saved⟩ :=
        addRoom room _ _
      show readRows limit ('"' :: '"' :: (escape rest ++ '"' :: t)) _ _ = _
      rw [readChar rfl rfl,readChar second rfl,later]
    · have one : escape (c :: rest) = c :: escape rest := by rw [escape,List.flatMap_cons,if_neg quote]; rfl
      have stepped : (Reader.mk .inQuotedField front saved).char limit c = .ok ⟨.inQuotedField,front ++ [c],saved⟩ := by
        simp only [Reader.char,if_neg quote]
        exact addRoom room _ _
      rw [one,List.cons_append,readRows,stepped]
      dsimp only
      split
      · exact later false
      · exact later true

theorem fieldRead {cell text : Text} (written : Field cell text) (t : Text) (saved : List Text) (pending : Bool)
    (short : cell.length ≤ limit) : ∃ r, Open r saved cell ∧
      readRows limit (text ++ t) ⟨.startField,[],saved⟩ pending = readRows limit t r (pending || !text.isEmpty) := by
  cases written with
  | plain simple =>
    cases cell with
    | nil => exact ⟨⟨.startField,[],saved⟩,⟨rfl,rfl,.inl ⟨rfl,rfl⟩⟩,by simp⟩
    | cons c rest =>
      have plain := simpleOf (simple c List.mem_cons_self)
      have stepped : (Reader.mk .startField [] saved).char limit c = .ok ⟨.inField,[c],saved⟩ := by
        simp only [Reader.char,Reader.startField,plain.line,if_neg Bool.false_ne_true,if_neg plain.comma,if_neg plain.quote]
        exact addRoom (Nat.lt_of_lt_of_le (Nat.succ_pos _) short) _ _
      refine ⟨⟨.inField,c :: rest,saved⟩,⟨rfl,rfl,.inr (.inl rfl)⟩,?_⟩
      rw [List.cons_append,readChar stepped (plain.inside _),
        plainInside (fun d member => simple d (List.mem_cons_of_mem c member)) t [c] saved short]
      simp
  | quoted =>
    refine ⟨⟨.quoteInQuotedField,cell,saved⟩,⟨rfl,rfl,.inr (.inr rfl)⟩,?_⟩
    have first : (Reader.mk .startField [] saved).char limit '"' = .ok ⟨.inQuotedField,[],saved⟩ := rfl
    show readRows limit ('"' :: ((escape cell ++ ['"']) ++ t)) _ _ = _
    rw [readChar first rfl,List.append_assoc,List.singleton_append,quotedInside cell t [] saved true short]
    simp

theorem recordRead {cells : List Text} {text : Text} (record : Record cells text) (t : Text) (saved : List Text) (pending : Bool)
    (short : ∀ cell ∈ cells, cell.length ≤ limit) : ∃ r before cell, before ++ [cell] = saved ++ cells ∧ Open r before cell ∧
      readRows limit (text ++ t) ⟨.startField,[],saved⟩ pending = readRows limit t r (pending || !text.isEmpty) := by
  induction record generalizing saved pending with
  | one written =>
    obtain ⟨r,opened,read⟩ := fieldRead written t saved pending (short _ List.mem_cons_self)
    exact ⟨r,saved,_,rfl,opened,read⟩
  | @more cell text cells later written rest ih =>
    obtain ⟨r,opened,read⟩ := fieldRead written (',' :: later ++ t) saved pending (short _ List.mem_cons_self)
    obtain ⟨r',before,last,whole,opened',read'⟩ := ih (saved ++ [cell]) true (fun c member => short c (List.mem_cons_of_mem cell member))
    refine ⟨r',before,last,by rw [whole,List.append_assoc,List.singleton_append],opened',?_⟩
    have full : (text ++ ',' :: later).isEmpty = false := by cases text <;> rfl
    rw [List.append_assoc,read,List.cons_append,readChar (openComma opened) rfl,read',full]
    simp

theorem recordFirst {cells : List Text} {text : Text} (record : Record cells text) (some_ : text ≠ []) :
    ∃ c rest, text = c :: rest ∧ Reader.lineEnd c = false := by
  have field : ∀ {cell text : Text}, Field cell text → text ≠ [] → ∃ c rest, text = c :: rest ∧ Reader.lineEnd c = false := by
    intro cell text written nonempty
    cases written with
    | plain simple =>
      cases cell with
      | nil => exact absurd rfl nonempty
      | cons c rest => exact ⟨c,rest,rfl,(simpleOf (simple c List.mem_cons_self)).line⟩
    | quoted => exact ⟨_,_,rfl,rfl⟩
  cases record with
  | one written => exact field written some_
  | @more cell text cells later written rest =>
    cases text with
    | nil => exact ⟨_,_,rfl,rfl⟩
    | cons c tail =>
      obtain ⟨d,tail',same,plain⟩ := field written (List.cons_ne_nil c tail)
      cases same
      exact ⟨_,_,rfl,plain⟩

theorem startRead {c : Char} (plain : Reader.lineEnd c = false) (rest : Text) :
    readRows limit (c :: rest) {} false = readRows limit (c :: rest) ⟨.startField,[],[]⟩ false := by
  have same : ({} : Reader).char limit c = (Reader.mk .startField [] []).char limit c := by
    simp only [Reader.char,plain,if_neg Bool.false_ne_true]
    simp only [Reader.startField,plain,if_neg Bool.false_ne_true]
    rfl
  rw [readRows,readRows,same]

theorem lineRead {end_ later : Text} (ended : LineEnd end_) (apart : later.head? ≠ some '\n') {r : Reader} {saved : List Text}
    {cell : Text} (opened : Open r saved cell) (pending : Bool) :
    readRows limit (end_ ++ later) r pending = .ok (saved ++ [cell]) :: readRows limit later {} false := by
  cases ended with
  | lf =>
    rw [List.singleton_append,readRows,openLine opened rfl]
    rfl
  | cr =>
    have ends_ : ends '\r' later = true := by simp [ends,apart]
    rw [List.singleton_append,readRows,openLine opened rfl]
    simp only [ends_,if_true]
    rfl
  | crlf =>
    show readRows limit ('\r' :: '\n' :: later) r pending = _
    rw [readChar (openLine opened rfl) rfl,readRows]
    rfl

theorem writtenFirst {rows : List (List Text)} {text : Text} (written : Written rows text) : text.head? ≠ some '\n' := by
  have first : ∀ {cells : List Text} {text : Text}, Record cells text → text ≠ [] → ∀ t : Text, (text ++ t).head? ≠ some '\n' := by
    intro cells text record some_ t
    obtain ⟨c,rest,rfl,plain⟩ := recordFirst record some_
    rintro same
    cases Option.some.inj same
    exact absurd plain (by decide)
  cases written with
  | none => exact Option.some_ne_none _ ∘ Eq.symm
  | last record some_ => simpa using first record some_ []
  | line record some_ ended rest => rw [List.append_assoc]; exact first record some_ _

theorem writtenSome {rows : List (List Text)} {text : Text} (written : Written rows text) : ∀ cells ∈ rows, cells ≠ [] := by
  have some_ : ∀ {cells : List Text} {text : Text}, Record cells text → cells ≠ [] := by
    intro cells text record
    cases record <;> exact List.cons_ne_nil _ _
  induction written with
  | none => rintro cells ⟨⟩
  | last record => exact fun cells member => List.mem_singleton.mp member ▸ some_ record
  | line record _ _ _ ih =>
    intro cells member
    rcases List.mem_cons.mp member with rfl | later
    · exact some_ record
    · exact ih cells later

/- Whatever is put in quotes, and however the lines end, what is read is what was written. -/
theorem parseWritten {rows : List (List Text)} {text : Text} (written : Written rows text)
    (short : ∀ cells ∈ rows, ∀ cell ∈ cells, cell.length ≤ limit) : parse limit text = rows.map .ok := by
  unfold parse
  induction written with
  | none => rfl
  | @last cells text record some_ =>
    obtain ⟨c,rest,rfl,plain⟩ := recordFirst record some_
    obtain ⟨r,saved,cell,whole,opened,read⟩ := recordRead record [] [] false (short cells List.mem_cons_self)
    rw [List.append_nil] at read
    rw [startRead plain,read,readRows]
    simp only [List.isEmpty_cons,openEnd opened,whole]
    rfl
  | @line cells text end_ later rows record some_ ended rest ih =>
    obtain ⟨c,tail,rfl,plain⟩ := recordFirst record some_
    obtain ⟨r,saved,cell,whole,opened,read⟩ := recordRead record (end_ ++ later) [] false (short cells List.mem_cons_self)
    have later_ := ih (fun cells member => short cells (List.mem_cons_of_mem _ member))
    rw [List.append_assoc,List.cons_append,startRead plain,← List.cons_append,read,lineRead ended (writtenFirst rest) opened,later_,whole]
    rfl

end Read
end Moadian.Csv
