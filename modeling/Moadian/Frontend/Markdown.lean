import Mathlib.Data.List.DropRight
import Moadian.Codec.Split

/-! The Markdown subset of the bundled guides: lines are taken into blocks from the top, and
the text of a block is cut into its inline pieces. React's keys are left out. -/
namespace Moadian.Markdown
open Codec

/-- The text between two newlines. -/
abbrev Line := List Char

/-! Characters, as a regular expression without flags has them. -/

def blank (c : Char) : Bool :=
  let n := c.toNat
  (9 ≤ n && n ≤ 13) || n == 0x20 || n == 0xA0 || n == 0x1680 || (0x2000 ≤ n && n ≤ 0x200A) || n == 0x2028 || n == 0x2029 ||
    n == 0x202F || n == 0x205F || n == 0x3000 || n == 0xFEFF

def terminator (c : Char) : Bool := c.toNat == 10 || c.toNat == 13 || c.toNat == 0x2028 || c.toNat == 0x2029

def ruling (c : Char) : Bool := blank c || c == ':' || c == '|' || c == '-'

def trim (text : Line) : Line := (text.dropWhile blank).rdropWhile blank

def join (sep : Char) : List Line → Line
  | [] => []
  | text :: later => text ++ later.flatMap (fun t => sep :: t)

/-! Inline pieces. -/

inductive Node where
  | text (s : Line)
  | code (s : Line)
  | strong (s : Line)
  deriving DecidableEq, Repr

def Node.written : Node → Line
  | text s => s
  | code s => '`' :: s ++ ['`']
  | strong s => '*' :: '*' :: s ++ ['*','*']

def written (nodes : List Node) : Line := nodes.flatMap Node.written

def token : Line → Option (Node × Line)
  | '`' :: rest => match rest.takeWhile (· ≠ '`'),rest.dropWhile (· ≠ '`') with
    | c :: s,'`' :: later => some (.code (c :: s),later)
    | _,_ => none
  | '*' :: '*' :: rest => match rest.takeWhile (· ≠ '*'),rest.dropWhile (· ≠ '*') with
    | c :: s,'*' :: '*' :: later => some (.strong (c :: s),later)
    | _,_ => none
  | _ => none

theorem tokenSplit {text later : Line} {node : Node} (found : token text = some (node,later)) :
    text = node.written ++ later ∧ node.written ≠ [] := by
  unfold token at found
  split at found
  · rename_i rest
    split at found
    · rename_i c s tail before after
      cases found
      refine ⟨?_,List.cons_ne_nil _ _⟩
      rw [← List.takeWhile_append_dropWhile (p := (· ≠ '`')) (l := rest),before,after]
      simp [Node.written]
    · cases found
  · rename_i rest
    split at found
    · rename_i c s tail before after
      cases found
      refine ⟨?_,List.cons_ne_nil _ _⟩
      rw [← List.takeWhile_append_dropWhile (p := (· ≠ '*')) (l := rest),before,after]
      simp [Node.written]
    · cases found
  · cases found

def plain (before : Line) : List Node := if before = [] then [] else [.text before]

def inlineFrom (before : Line) (text : Line) : List Node :=
  match _found : token text with
  | some (node,later) => plain before ++ node :: inlineFrom [] later
  | none => match text with
    | [] => plain before
    | c :: rest => inlineFrom (before ++ [c]) rest
termination_by text.length
decreasing_by
  · obtain ⟨rfl,some_⟩ := tokenSplit _found
    have long := List.length_pos_iff.mpr some_
    rw [List.length_append]
    omega
  · exact Nat.lt_succ_self _

def inline (text : Line) : List Node := inlineFrom [] text

/-! Lines. -/

def unled : Line → Line
  | '|' :: rest => rest
  | line => line

def unbarred (line : Line) : Line :=
  let line := unled line
  if line.getLast? = some '|' then line.dropLast else line

def splitRow (line : Line) : List Line := (split '|' (unbarred line)).map trim

def fence (line : Line) : Bool := "```".toList.isPrefixOf line

def quoted (line : Line) : Bool := line.head? == some '>'

def unquoted (line : Line) : Line := match line.drop 1 with
  | c :: rest => if blank c then rest else c :: rest
  | [] => []

def heading (line : Line) : Option (Nat × Line) :=
  let hashes := line.takeWhile (· = '#')
  let after := line.dropWhile (· = '#')
  let text := after.dropWhile blank
  if 1 ≤ hashes.length ∧ hashes.length ≤ 4 ∧ after.takeWhile blank ≠ [] ∧ text.all (fun c => !terminator c) then
    some (hashes.length,text)
  else none

-- `/^\|?[\s:|-]+\|/`: of the characters of the class that the line begins with, a bar that is not the first.
def separator (line : Line) : Bool := ((line.takeWhile ruling).drop 1).contains '|'

def item (line : Line) : Bool := match line.dropWhile blank with
  | m :: c :: _ => (m == '-' || m == '*') && blank c
  | _ => false

def itemText (line : Line) : Line := ((line.dropWhile blank).drop 1).dropWhile blank

def continues (line : Line) : Bool :=
  trim line ≠ [] && !(line.head?.any (fun c => c == '#' || c == '>' || c == '`' || c == '|')) && !item line

inductive Block where
  | pre (body : Line)
  | heading (level : Nat) (nodes : List Node)
  | blockquote (nodes : List Node)
  | table (head : List (List Node)) (rows : List (List (List Node)))
  | ul (items : List (List Node))
  | p (nodes : List Node)
  deriving DecidableEq, Repr

/-! The loop. -/

inductive Kind where
  | blank | fence
  | heading (level : Nat) (text : Line)
  | quote | table | list | paragraph
  deriving DecidableEq, Repr

def kind (line : Line) (rest : List Line) : Kind :=
  if trim line = [] then .blank
  else if fence line then .fence
  else match heading line with
    | some (level,text) => .heading level text
    | none =>
      if quoted line then .quote
      else if line.contains '|' && rest.head?.any separator then .table
      else if item line then .list
      else .paragraph

def row (line : Line) : List (List Node) := (splitRow line).map inline

def turn (line : Line) (rest : List Line) : Option Block × List Line :=
  match kind line rest with
  | .blank => (none,rest)
  | .fence => (some (.pre (join '\n' (rest.takeWhile (fun l => !fence l)))),(rest.dropWhile (fun l => !fence l)).drop 1)
  | .heading level text => (some (.heading level (inline text)),rest)
  | .quote =>
    let body := (line :: rest).takeWhile quoted
    (some (.blockquote (inline (join ' ' (body.map unquoted)))),(line :: rest).dropWhile quoted)
  | .table =>
    let rows := (rest.drop 1).takeWhile (·.contains '|')
    (some (.table (row line) (rows.map row)),(rest.drop 1).dropWhile (·.contains '|'))
  | .list =>
    let items := (line :: rest).takeWhile item
    (some (.ul (items.map (fun l => inline (itemText l)))),(line :: rest).dropWhile item)
  | .paragraph =>
    let paragraph := line :: rest.takeWhile continues
    (some (.p (inline (join ' ' paragraph))),rest.dropWhile continues)

structure Turn where
  ahead : List Line
  block : Option Block
  left : List Line
  deriving DecidableEq, Repr

def Turn.consumed (t : Turn) : List Line := t.ahead.take (t.ahead.length - t.left.length)

-- None, where the turns run out before the lines do.
def turns : Nat → List Line → Option (List Turn)
  | _,[] => some []
  | 0,_ :: _ => none
  | n + 1,line :: rest =>
    let (block,left) := turn line rest
    (turns n left).map (fun later => ⟨line :: rest,block,left⟩ :: later)

def lines (source : String) : List Line := split '\n' source.toList

def blocks (taken : List Turn) : List Block := taken.filterMap Turn.block

end Moadian.Markdown
