import Mathlib.Data.Nat.Digits.Lemmas
import Moadian.Marked

/-! The amount cell of the invoice form: a text grouped anew at every keystroke, with the
caret put back by counting digits. -/
namespace Moadian.MoneyCell

/-- A text by its UTF-16 code units, as positions in it are counted. -/
abbrev Text := List UInt16

def persian (c : UInt16) : Bool := 0x6F0 ≤ c && c ≤ 0x6F9

def arabic (c : UInt16) : Bool := 0x660 ≤ c && c ≤ 0x669

def ascii (c : UInt16) : Bool := 0x30 ≤ c && c ≤ 0x39

def toAscii (text : Text) : Text :=
  (text.map (fun c => if persian c then 0x30 + (c - 0x6F0) else c)).map (fun c => if arabic c then 0x30 + (c - 0x660) else c)

def digitsOf (text : Text) : List Nat := ((toAscii text).filter ascii).map (fun c => c.toNat - 0x30)

def countDigits (text : Text) : Nat := ((toAscii text).filter ascii).length

-- `Number(digits)`, and 0 of no digits; beyond 2^53 a number no longer holds every integer.
def number (digits : List Nat) : Option Nat :=
  let n := digits.foldl (fun n d => 10 * n + d) 0
  if n < 2^53 then some n else none

def decimal (n : Nat) : List Nat := if n = 0 then [0] else (Nat.digits 10 n).reverse

def grouped : List Nat → Text
  | [] => []
  | d :: rest => (0x6F0 + d.toUInt16) :: (if rest ≠ [] ∧ rest.length % 3 = 0 then [0x66C] else []) ++ grouped rest

def group (n : Nat) : Text := grouped (decimal n)

def scan (count : Nat) : Text → Nat → Nat → Nat
  | [],index,_ => index
  | c :: rest,index,seen =>
    if ascii c then
      if seen + 1 = count then index + 1 else scan count rest (index + 1) (seen + 1)
    else scan count rest (index + 1) seen

def offsetAfterDigits (text : Text) (count : Nat) : Nat := if count = 0 then 0 else scan count (toAscii text) 0 0

/-! The cell in the browser: what it shows, and the selection in it. -/

structure Cell where
  value : Option Nat
  left : Nat
  right : Nat
  deriving DecidableEq, Repr

def Cell.text (c : Cell) : Text := c.value.elim [] group

inductive Key where
  | select (a b : Nat)
  | type (text : Text)
  | backspace
  | delete
  deriving DecidableEq, Repr

def Cell.range (c : Cell) : Key → Nat × Nat × Text
  | .select a b => (a,b,[])
  | .type text => (c.left,c.right,text)
  | .backspace => if c.left < c.right then (c.left,c.right,[]) else (c.left - 1,c.left,[])
  | .delete => if c.left < c.right then (c.left,c.right,[]) else (c.left,c.left + 1,[])

-- `onChange`, of what stands in the field and where the caret is in it; then the effect that lays the caret in.
def Cell.change (raw : Text) (position : Nat) : Option Cell := do
  let digitsBefore := countDigits (raw.take position)
  let n ← number (digitsOf raw)
  let caret := offsetAfterDigits (group n) digitsBefore
  pure ⟨some n,caret,caret⟩

def Cell.press (c : Cell) : Key → Option Cell
  | .select a b =>
    let first := min a c.text.length
    some ⟨c.value,first,max first (min b c.text.length)⟩
  | key =>
    let (l,r,typed) := c.range key
    let raw := c.text.take l ++ typed ++ c.text.drop r
    let position := l + typed.length
    if raw = c.text then some ⟨c.value,position,position⟩ else Cell.change raw position

example : (Cell.press ⟨some 1234567,1,1⟩ (.type [0x35])).map Cell.text = some (group 15234567) := by decide
example : Cell.press ⟨some 1234567,2,2⟩ .backspace = some ⟨some 1234567,1,1⟩ := by decide

/-! A plain number being edited: its digits alone, and a selection among them. -/

structure Plain where
  digits : List Nat
  left : Nat
  right : Nat
  deriving DecidableEq, Repr

inductive PlainKey where
  | select (a b : Nat)
  | type (digits : List Nat)
  | backspace
  | delete
  deriving DecidableEq, Repr

def tidy (digits : List Nat) : List Nat :=
  match digits.dropWhile (· = 0) with
  | [] => [0]
  | d :: rest => d :: rest

def Plain.replace (p : Plain) (l r : Nat) (typed : List Nat) : Plain :=
  let digits := tidy (p.digits.take l ++ typed ++ p.digits.drop r)
  let caret := min (l + typed.length) digits.length
  ⟨digits,caret,caret⟩

def Plain.press (p : Plain) : PlainKey → Plain
  | .select a b => ⟨p.digits,a,b⟩
  | .type typed => p.replace p.left p.right typed
  | .backspace => if p.left < p.right then p.replace p.left p.right [] else p.replace (p.left - 1) p.left []
  | .delete => if p.left < p.right then p.replace p.left p.right [] else p.replace p.left (p.left + 1) []

/-! What of the cell is the number, and what of a key is meant for it. -/

def Cell.plain (c : Cell) : Plain where
  digits := c.value.elim [] decimal
  left := countDigits (c.text.take c.left)
  right := countDigits (c.text.take c.right)

-- A key that takes away separators only types nothing; one that leaves the text as it is moves the caret at most.
def Cell.heard (c : Cell) (key : Key) : PlainKey :=
  let (l,r,typed) := c.range key
  let raw := c.text.take l ++ typed ++ c.text.drop r
  let before := countDigits (c.text.take l)
  let caret := before + countDigits typed
  let taken := countDigits (c.text.take r) - before
  match key with
  | .select a b =>
    let first := min a c.text.length
    .select (countDigits (c.text.take first)) (countDigits (c.text.take (max first (min b c.text.length))))
  | .type _ => if raw = c.text then .select caret caret else .type (digitsOf typed)
  | .backspace => if raw = c.text then .select caret caret else if taken = 0 then .type [] else .backspace
  | .delete => if raw = c.text then .select caret caret else if taken = 0 then .type [] else .delete

/-! Texts. -/

def ascii1 (c : UInt16) : UInt16 :=
  let d := if persian c then 0x30 + (c - 0x6F0) else c
  if arabic d then 0x30 + (d - 0x660) else d

def marked (c : UInt16) : Bool := ascii (ascii1 c)

def digit (c : UInt16) : Nat := (ascii1 c).toNat - 0x30

theorem toAsciiMap (text : Text) : toAscii text = text.map ascii1 := List.map_map

theorem countMarked (text : Text) : countDigits text = text.countP marked := by
  rw [countDigits,toAsciiMap,← List.countP_eq_length_filter,List.countP_map]
  rfl

theorem digitsMarked (text : Text) : digitsOf text = (text.filter marked).map digit := by
  rw [digitsOf,toAsciiMap,List.filter_map,List.map_map]
  rfl

theorem digitsLength (text : Text) : (digitsOf text).length = countDigits text := List.length_map _

theorem digitsAppend (a b : Text) : digitsOf (a ++ b) = digitsOf a ++ digitsOf b := by
  simp only [digitsMarked,List.filter_append,List.map_append]

theorem countAppend (a b : Text) : countDigits (a ++ b) = countDigits a + countDigits b := by
  simp only [countMarked,List.countP_append]

theorem digitsTake (text : Text) (i : Nat) : digitsOf (text.take i) = (digitsOf text).take (countDigits (text.take i)) := by
  rw [digitsMarked,digitsMarked,countMarked,Marked.filterTake,List.map_take]

theorem digitsDrop (text : Text) (i : Nat) : digitsOf (text.drop i) = (digitsOf text).drop (countDigits (text.take i)) := by
  rw [digitsMarked,digitsMarked,countMarked,Marked.filterDrop,List.map_drop]

theorem digitsSmall (text : Text) : ∀ d ∈ digitsOf text, d < 10 := by
  intro d member
  obtain ⟨c,kept,rfl⟩ := List.mem_map.mp member
  have small := (List.mem_filter.mp kept).2
  simp only [ascii,Bool.and_eq_true,decide_eq_true_eq,UInt16.le_iff_toNat_le] at small
  have high : c.toNat ≤ 0x39 := small.2
  omega

theorem scanOffset {count : Nat} (text : Text) (index seen : Nat) (short : seen < count) :
    scan count text index seen = index + Marked.offset ascii text (count - seen) := by
  induction text generalizing index seen with
  | nil =>
    obtain ⟨k,left⟩ : ∃ k, count - seen = k + 1 := ⟨count - seen - 1,by omega⟩
    rw [left]
    rfl
  | cons c rest ih =>
    obtain ⟨k,left⟩ : ∃ k, count - seen = k + 1 := ⟨count - seen - 1,by omega⟩
    rw [scan,left,Marked.offset]
    split
    · split
      · have none : k = 0 := by omega
        subst none
        cases rest <;> rfl
      · rw [ih (index + 1) (seen + 1) (by omega),show count - (seen + 1) = k by omega]
        omega
    · rw [ih (index + 1) seen short,left]
      omega

theorem offsetMap (text : Text) (k : Nat) : Marked.offset ascii (text.map ascii1) k = Marked.offset marked text k := by
  induction text generalizing k with
  | nil => cases k <;> rfl
  | cons c rest ih =>
    cases k with
    | zero => rfl
    | succ k =>
      rw [List.map_cons,Marked.offset,Marked.offset,ih,ih]
      rfl

theorem offsetIs (text : Text) (k : Nat) : offsetAfterDigits text k = Marked.offset marked text k := by
  unfold offsetAfterDigits
  split
  · rename_i none
    subst none
    cases text <;> rfl
  · rw [scanOffset _ _ _ (by omega),toAsciiMap,offsetMap,Nat.zero_add,Nat.sub_zero]

/-! Numbers. -/

theorem markedDigit {d : Nat} (small : d < 10) : marked (0x6F0 + d.toUInt16) = true ∧ digit (0x6F0 + d.toUInt16) = d := by
  interval_cases d <;> decide

theorem digitsGrouped {digits : List Nat} (small : ∀ d ∈ digits, d < 10) : digitsOf (grouped digits) = digits := by
  induction digits with
  | nil => rfl
  | cons d rest ih =>
    have here := markedDigit (small d List.mem_cons_self)
    have later := ih (fun e member => small e (List.mem_cons_of_mem d member))
    have separator : digitsOf [0x66C] = [] := by decide
    have head : digitsOf [0x6F0 + d.toUInt16] = [d] := by
      rw [digitsMarked,List.filter_cons_of_pos here.1,List.filter_nil,List.map_cons,here.2,List.map_nil]
    rw [grouped,List.cons_append,← List.singleton_append,digitsAppend,digitsAppend,later,head]
    split
    · rw [separator]; rfl
    · rfl

theorem groupedLast {digits : List Nat} (small : ∀ d ∈ digits, d < 10) (some_ : digits ≠ []) :
    ∃ x, (grouped digits).getLast? = some x ∧ marked x = true := by
  induction digits with
  | nil => exact absurd rfl some_
  | cons d rest ih =>
    have here := markedDigit (small d List.mem_cons_self)
    by_cases last : rest = []
    · subst last
      exact ⟨_,rfl,here.1⟩
    · obtain ⟨x,found,good⟩ := ih (fun e member => small e (List.mem_cons_of_mem d member)) last
      refine ⟨x,?_,good⟩
      rw [grouped,List.getLast?_append,found]
      rfl

theorem decimalSmall (n : Nat) : ∀ d ∈ decimal n, d < 10 := by
  intro d member
  unfold decimal at member
  split at member
  · rw [List.mem_singleton.mp member]; decide
  · exact Nat.digits_lt_base (by decide) (List.mem_reverse.mp member)

theorem decimalSome (n : Nat) : decimal n ≠ [] := by
  unfold decimal
  split
  · exact List.cons_ne_nil _ _
  · rename_i positive
    exact fun none => positive (Nat.digits_eq_nil_iff_eq_zero.mp (List.reverse_eq_nil_iff.mp none))

theorem digitsGroup (n : Nat) : digitsOf (group n) = decimal n := digitsGrouped (decimalSmall n)

theorem numberDecimal {digits : List Nat} {n : Nat} (small : ∀ d ∈ digits, d < 10) (read : number digits = some n) :
    decimal n = tidy digits := by
  have worth : n = Nat.ofDigits 10 digits.reverse := by
    dsimp only [number] at read
    split at read
    · cases read
      rw [Nat.ofDigits_eq_foldr,List.foldr_reverse]
      congr 1
      funext m d
      exact Nat.add_comm _ _
    · cases read
  have kept : ∀ ds : List Nat, Nat.ofDigits 10 (ds.dropWhile (· = 0)).reverse = Nat.ofDigits 10 ds.reverse := by
    intro ds
    induction ds with
    | nil => rfl
    | cons d rest ih =>
      rw [List.dropWhile_cons]
      split
      · rename_i zero
        rw [ih,of_decide_eq_true zero,List.reverse_cons,Nat.ofDigits_append]
        simp
      · rfl
  rw [worth,← kept]
  unfold tidy decimal
  cases left : digits.dropWhile (· = 0) with
  | nil => rfl
  | cons d rest =>
    have first : d ≠ 0 := by
      have head := List.head_dropWhile_not (p := fun e : Nat => decide (e = 0)) (l := digits) (w := by rw [left]; exact List.cons_ne_nil _ _)
      simpa [left] using head
    have small' : ∀ e ∈ (d :: rest).reverse, e < 10 := fun e member =>
      small e ((List.dropWhile_suffix _).subset (left ▸ List.mem_reverse.mp member))
    have digits_ := Nat.digits_ofDigits 10 (by decide) (d :: rest).reverse small' (by
      intro some_
      rw [List.getLast_reverse]
      exact first)
    have positive : Nat.ofDigits 10 (d :: rest).reverse ≠ 0 := by
      intro zero
      rw [zero,Nat.digits_zero] at digits_
      exact List.cons_ne_nil d rest (List.reverse_eq_nil_iff.mp digits_.symm)
    rw [if_neg positive,digits_,List.reverse_reverse]

/-! One key. -/

structure Cell.Held (c : Cell) : Prop where
  order : c.left ≤ c.right
  inside : c.right ≤ c.text.length

def Cell.Settled (c : Cell) : Prop :=
  c.left = c.right ∧ (c.left = 0 ∨ ∃ x, (c.text.take c.left).getLast? = some x ∧ marked x = true)

section Key
variable {c after : Cell}

theorem plainDigits (c : Cell) : c.plain.digits = digitsOf c.text := by
  rcases value : c.value with _ | n
  · simp only [Cell.plain,Cell.text,value,Option.elim]
    rfl
  · simp only [Cell.plain,Cell.text,value,Option.elim]
    exact (digitsGroup n).symm

theorem changeMade {raw : Text} {position : Nat} (made : Cell.change raw position = some after) :
    (∃ n, after.value = some n ∧ decimal n = tidy (digitsOf raw)) ∧ after.Held ∧ after.Settled ∧
      after.plain = ⟨tidy (digitsOf raw),min (countDigits (raw.take position)) (tidy (digitsOf raw)).length,
        min (countDigits (raw.take position)) (tidy (digitsOf raw)).length⟩ := by
  simp only [Cell.change,bind,Option.bind_eq_some_iff,pure,Option.some.injEq] at made
  obtain ⟨n,read,rfl⟩ := made
  have same := numberDecimal (digitsSmall raw) read
  have total : (group n).countP marked = (tidy (digitsOf raw)).length := by
    rw [← countMarked,← digitsLength,digitsGroup,same]
  refine ⟨⟨n,rfl,same⟩,⟨Nat.le_refl _,?_⟩,⟨rfl,?_⟩,?_⟩
  · rw [offsetIs]
    exact Marked.offsetLe marked _ _
  · refine (Nat.eq_zero_or_pos (countDigits (raw.take position))).imp (fun none => ?_) (fun positive => ?_)
    · rw [none]
      rfl
    · show ∃ x, ((group n).take (offsetAfterDigits (group n) (countDigits (raw.take position)))).getLast? = some x ∧ marked x = true
      rw [offsetIs]
      by_cases enough : countDigits (raw.take position) ≤ (group n).countP marked
      · exact Marked.offsetTight marked enough (by omega)
      · rw [Marked.offsetEnd marked (by omega),List.take_length]
        exact groupedLast (decimalSmall n) (decimalSome n)
  · simp only [Cell.plain,Cell.text,Option.elim,same,offsetIs,countMarked,Marked.offsetCount,total]

theorem rangeHeld (held : c.Held) (key : Key) (plain : ∀ a b, key ≠ .select a b) :
    (c.range key).1 ≤ c.text.length ∧ (c.range key).1 ≤ (c.range key).2.1 := by
  obtain ⟨order,inside⟩ := held
  cases key with
  | select a b => exact absurd rfl (plain a b)
  | type text => exact ⟨Nat.le_trans order inside,order⟩
  | backspace =>
    simp only [Cell.range]
    split <;> constructor <;> simp only <;> omega
  | delete =>
    simp only [Cell.range]
    split <;> constructor <;> simp only <;> omega

section Replaced
variable {l r : Nat} {typed : Text}

theorem replacedDigits : digitsOf (c.text.take l ++ typed ++ c.text.drop r) =
    c.plain.digits.take (countDigits (c.text.take l)) ++ digitsOf typed ++ c.plain.digits.drop (countDigits (c.text.take r)) := by
  rw [digitsAppend,digitsAppend,digitsTake,digitsDrop,plainDigits]

theorem replacedCaret (c : Cell) (r : Nat) (typed : Text) (inside : l ≤ c.text.length) :
    countDigits ((c.text.take l ++ typed ++ c.text.drop r).take (l + typed.length)) =
      countDigits (c.text.take l) + (digitsOf typed).length := by
  have front : (c.text.take l ++ typed).length = l + typed.length := by
    rw [List.length_append,List.length_take,Nat.min_eq_left inside]
  rw [← front,List.take_left,countAppend,digitsLength]

theorem replaceFollows (inside : l ≤ c.text.length)
    (made : Cell.change (c.text.take l ++ typed ++ c.text.drop r) (l + typed.length) = some after) :
    after.plain = c.plain.replace (countDigits (c.text.take l)) (countDigits (c.text.take r)) (digitsOf typed) := by
  rw [(changeMade made).2.2.2,replacedCaret c r typed inside,replacedDigits]
  rfl

end Replaced

def Cell.raw (c : Cell) (key : Key) : Text :=
  c.text.take (c.range key).1 ++ (c.range key).2.2 ++ c.text.drop (c.range key).2.1

theorem pressOther {key : Key} (plain : ∀ a b, key ≠ .select a b) : c.press key =
    if c.raw key = c.text then
      some ⟨c.value,(c.range key).1 + (c.range key).2.2.length,(c.range key).1 + (c.range key).2.2.length⟩
    else Cell.change (c.raw key) ((c.range key).1 + (c.range key).2.2.length) := by
  cases key with
  | select a b => exact absurd rfl (plain a b)
  | _ => rfl

theorem pressHeld (held : c.Held) {key : Key} (pressed : c.press key = some after) : after.Held := by
  by_cases moved : ∃ a b, key = .select a b
  · obtain ⟨a,b,rfl⟩ := moved
    cases pressed
    have first : min a c.text.length ≤ c.text.length := Nat.min_le_right _ _
    exact ⟨Nat.le_max_left _ _,Nat.max_le.mpr ⟨first,Nat.min_le_right _ _⟩⟩
  · have plain : ∀ a b, key ≠ .select a b := fun a b same => moved ⟨a,b,same⟩
    rw [pressOther plain] at pressed
    split at pressed
    · rename_i unchanged
      cases pressed
      refine ⟨Nat.le_refl _,?_⟩
      have inside := (rangeHeld held key plain).1
      have long := congrArg List.length unchanged
      simp only [Cell.raw,List.length_append,List.length_take,Nat.min_eq_left inside] at long
      show (c.range key).1 + (c.range key).2.2.length ≤ c.text.length
      omega
    · exact (changeMade pressed).2.1

theorem stayFollows (held : c.Held) {key : Key} (plain : ∀ a b, key ≠ .select a b) (same : c.raw key = c.text)
    (pressed : c.press key = some after) :
    after.plain = ⟨c.plain.digits,countDigits (c.text.take (c.range key).1) + countDigits (c.range key).2.2,
      countDigits (c.text.take (c.range key).1) + countDigits (c.range key).2.2⟩ := by
  rw [pressOther plain,if_pos same] at pressed
  cases pressed
  have caret := replacedCaret c (c.range key).2.1 (c.range key).2.2 (rangeHeld held key plain).1
  rw [← Cell.raw,same,digitsLength] at caret
  show Plain.mk _ (countDigits (c.text.take _)) (countDigits (c.text.take _)) = _
  rw [caret]
  rfl

theorem changeFollows (held : c.Held) {key : Key} (plain : ∀ a b, key ≠ .select a b) (other : c.raw key ≠ c.text)
    (pressed : c.press key = some after) :
    after.plain = c.plain.replace (countDigits (c.text.take (c.range key).1)) (countDigits (c.text.take (c.range key).2.1))
      (digitsOf (c.range key).2.2) := by
  rw [pressOther plain,if_neg other] at pressed
  exact replaceFollows (rangeHeld held key plain).1 pressed

theorem countMono {i j : Nat} (le : i ≤ j) : countDigits (c.text.take i) ≤ countDigits (c.text.take j) := by
  rw [countMarked,countMarked]
  exact Marked.countTakeMono marked _ le

theorem countSucc (i : Nat) : countDigits (c.text.take (i + 1)) ≤ countDigits (c.text.take i) + 1 := by
  rw [countMarked,countMarked]
  exact Marked.countTakeSucc marked _ _

theorem chosenFollows {key : PlainKey} (order : c.left ≤ c.right)
    (takes : c.plain.left < c.plain.right → c.plain.press key = c.plain.replace c.plain.left c.plain.right []) :
    c.plain.replace (countDigits (c.text.take c.left)) (countDigits (c.text.take c.right)) (digitsOf []) =
      c.plain.press (if countDigits (c.text.take c.right) - countDigits (c.text.take c.left) = 0 then .type [] else key) := by
  have mono := countMono (c := c) order
  split
  · rfl
  · have apart : c.plain.left < c.plain.right := by simp only [Cell.plain]; omega
    exact (takes apart).symm

theorem backspaceFollows (held : c.Held) (other : c.raw .backspace ≠ c.text) (pressed : c.press .backspace = some after) :
    after.plain = c.plain.press (c.heard .backspace) := by
  have made := changeFollows held (by rintro a b ⟨⟩) other pressed
  have heard : c.heard .backspace = if countDigits (c.text.take (c.range .backspace).2.1) -
      countDigits (c.text.take (c.range .backspace).1) = 0 then .type [] else .backspace := if_neg other
  obtain ⟨order,inside⟩ := held
  rw [made,heard]
  by_cases chosen : c.left < c.right
  · have range : c.range .backspace = (c.left,c.right,[]) := if_pos chosen
    rw [range]
    exact chosenFollows order (fun apart => if_pos apart)
  · have range : c.range .backspace = (c.left - 1,c.left,[]) := if_neg chosen
    have same : c.right = c.left := by omega
    have one : c.plain.right = c.plain.left := by simp only [Cell.plain,same]
    have mono := countMono (c := c) (Nat.sub_le c.left 1)
    rw [range]
    dsimp only
    split
    · have equal : countDigits (c.text.take (c.left - 1)) = countDigits (c.text.take c.left) := by omega
      rw [Plain.press,one,equal]
      rfl
    · have step : countDigits (c.text.take c.left) ≤ countDigits (c.text.take (c.left - 1)) + 1 := by
        cases left : c.left with
        | zero => exact Nat.le_succ _
        | succ i => exact countSucc i
      have before : countDigits (c.text.take (c.left - 1)) = c.plain.left - 1 := by simp only [Cell.plain]; omega
      rw [Plain.press,if_neg (by omega),before]
      rfl

theorem deleteFollows (held : c.Held) (other : c.raw .delete ≠ c.text) (pressed : c.press .delete = some after) :
    after.plain = c.plain.press (c.heard .delete) := by
  have made := changeFollows held (by rintro a b ⟨⟩) other pressed
  have heard : c.heard .delete = if countDigits (c.text.take (c.range .delete).2.1) -
      countDigits (c.text.take (c.range .delete).1) = 0 then .type [] else .delete := if_neg other
  obtain ⟨order,inside⟩ := held
  rw [made,heard]
  by_cases chosen : c.left < c.right
  · have range : c.range .delete = (c.left,c.right,[]) := if_pos chosen
    rw [range]
    exact chosenFollows order (fun apart => if_pos apart)
  · have range : c.range .delete = (c.left,c.left + 1,[]) := if_neg chosen
    have same : c.right = c.left := by omega
    have one : c.plain.right = c.plain.left := by simp only [Cell.plain,same]
    have mono : countDigits (c.text.take c.left) ≤ countDigits (c.text.take (c.left + 1)) := countMono (Nat.le_add_right c.left 1)
    rw [range]
    dsimp only
    split
    · have equal : countDigits (c.text.take (c.left + 1)) = countDigits (c.text.take c.left) := by omega
      rw [Plain.press,one,equal]
      rfl
    · have step := countSucc (c := c) c.left
      have after_ : countDigits (c.text.take (c.left + 1)) = c.plain.left + 1 := by simp only [Cell.plain]; omega
      rw [Plain.press,if_neg (by omega),after_]
      rfl

theorem pressFollows (held : c.Held) {key : Key} (pressed : c.press key = some after) :
    after.plain = c.plain.press (c.heard key) := by
  cases key with
  | select a b =>
    cases pressed
    rfl
  | type text =>
    have plain : ∀ a b, Key.type text ≠ .select a b := by rintro a b ⟨⟩
    by_cases same : c.raw (.type text) = c.text
    · rw [stayFollows held plain same pressed,show c.heard (.type text) = _ from if_pos same]
      rfl
    · rw [changeFollows held plain same pressed,show c.heard (.type text) = _ from if_neg same]
      rfl
  | backspace =>
    by_cases same : c.raw .backspace = c.text
    · rw [stayFollows held (by rintro a b ⟨⟩) same pressed,show c.heard .backspace = _ from if_pos same]
      rfl
    · exact backspaceFollows held same pressed
  | delete =>
    by_cases same : c.raw .delete = c.text
    · rw [stayFollows held (by rintro a b ⟨⟩) same pressed,show c.heard .delete = _ from if_pos same]
      rfl
    · exact deleteFollows held same pressed

end Key

/-! Keys one after the other. -/

def Cell.pressAll (c : Cell) : List Key → Option Cell
  | [] => some c
  | key :: rest => (c.press key).bind (fun after => after.pressAll rest)

def Cell.heardAll (c : Cell) : List Key → List PlainKey
  | [] => []
  | key :: rest => c.heard key :: ((c.press key).elim [] (fun after => after.heardAll rest))

theorem cellFollows {c after : Cell} {keys : List Key} (held : c.Held) (pressed : c.pressAll keys = some after) :
    after.plain = (c.heardAll keys).foldl Plain.press c.plain ∧
      ∀ key changed, after.press key = some changed → changed.value ≠ after.value → changed.Settled := by
  induction keys generalizing c with
  | nil =>
    cases pressed
    refine ⟨rfl,fun key changed made other => ?_⟩
    by_cases moved : ∃ a b, key = .select a b
    · obtain ⟨a,b,rfl⟩ := moved
      cases made
      exact absurd rfl other
    · rw [pressOther (fun a b same => moved ⟨a,b,same⟩)] at made
      split at made
      · cases made
        exact absurd rfl other
      · exact (changeMade made).2.2.1
  | cons key rest ih =>
    obtain ⟨middle,first,later⟩ := Option.bind_eq_some_iff.mp pressed
    obtain ⟨follows,settled⟩ := ih (pressHeld held first) later
    refine ⟨?_,settled⟩
    rw [follows,pressFollows held first,Cell.heardAll,first]
    rfl

namespace Example

def empty : Cell := ⟨none,0,0⟩

def typing : List Key := [.type [0x31,0x6F2,0x663,0x34,0x35],.select 3 3,.delete,.type [0x41,0x39]]

end Example

open Moadian.MoneyCell.Example in
theorem cellFollowsTyping : empty.pressAll typing = some ⟨some 12945,4,4⟩ ∧
    empty.heardAll typing = [.type [1,2,3,4,5],.select 2 2,.delete,.type [9]] ∧
    (Cell.mk (some 12945) 4 4).plain = (empty.heardAll typing).foldl Plain.press empty.plain :=
  ⟨by decide,by decide,(cellFollows (c := empty) ⟨Nat.le_refl 0,Nat.le_refl 0⟩ (by decide)).1⟩

end Moadian.MoneyCell
