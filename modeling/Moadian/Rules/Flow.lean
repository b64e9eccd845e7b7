import Moadian.Rules.Document

/-! Documents of block mappings with everything below them in flow style: the text, and
what `yaml.safe_load` is to make of it. -/
namespace Moadian.Document

inductive Flow where
  | int (n : Int)
  | word (s : String)
  | quoted (s : String)
  | seq (items : List Flow)
  | map (members : List (Flow × Flow))

inductive Node where
  | flow (f : Flow)
  | block (members : List (Flow × Node))

structure Doc where
  comments : List String
  members : List (Flow × Node)

def quote (s : String) : String :=
  "\"" ++ String.ofList (s.toList.flatMap (fun c => if c = '"' then ['\\','"'] else [c])) ++ "\""

mutual
def Flow.text : Flow → String
  | .int n => toString n
  | .word s => s
  | .quoted s => quote s
  | .seq items => "[" ++ ", ".intercalate (Flow.texts items) ++ "]"
  | .map members => "\x7b" ++ ", ".intercalate (Flow.pairTexts members) ++ "\x7d"

def Flow.texts : List Flow → List String
  | [] => []
  | f :: rest => f.text :: Flow.texts rest

def Flow.pairTexts : List (Flow × Flow) → List String
  | [] => []
  | (k,v) :: rest => (k.text ++ ": " ++ v.text) :: Flow.pairTexts rest
end

def indent (depth : Nat) : String := String.ofList (List.replicate (2 * depth) ' ')

mutual
def Node.lines (depth : Nat) (key : Flow) : Node → List String
  | .flow f => [indent depth ++ key.text ++ ": " ++ f.text]
  | .block members => (indent depth ++ key.text ++ ":") :: Node.blockLines (depth + 1) members

def Node.blockLines (depth : Nat) : List (Flow × Node) → List String
  | [] => []
  | (k,n) :: rest => Node.lines depth k n ++ Node.blockLines depth rest
end

def Doc.text (d : Doc) : String := "\n".intercalate (d.comments ++ Node.blockLines 0 d.members) ++ "\n"

/-! The meaning. `unquoted` is what is read of a text between quotes. -/

section Value
variable (unquoted : String → String)

mutual
def Flow.value : Flow → Yaml
  | .int n => .int n
  | .word s => .str s
  | .quoted s => .str (unquoted s)
  | .seq items => .list (Flow.values items)
  | .map members => .dict (Flow.pairValues members)

def Flow.values : List Flow → List Yaml
  | [] => []
  | f :: rest => f.value :: Flow.values rest

def Flow.pairValues : List (Flow × Flow) → List (Yaml × Yaml)
  | [] => []
  | (k,v) :: rest => (k.value,v.value) :: Flow.pairValues rest
end

-- A key with nothing below it has null for its value.
mutual
def Node.value : Node → Yaml
  | .flow f => f.value unquoted
  | .block [] => .null
  | .block (m :: rest) => .dict (Node.pairValues (m :: rest))

def Node.pairValues : List (Flow × Node) → List (Yaml × Yaml)
  | [] => []
  | (k,n) :: rest => (k.value unquoted,n.value) :: Node.pairValues rest
end

def Doc.value (d : Doc) : Yaml := (Node.block d.members).value unquoted

end Value

/-! What a scalar without quotes has to be like to be read as a string, and one in quotes
to be read at all. -/

def reserved : List String := ["yes","no","true","false","on","off","null"]

def isWord (s : String) : Bool :=
  s.toList.all (fun c => c.isLower || c.isDigit || c = '_') && (s.toList.head?.any Char.isLower) && !reserved.contains s

def quotable (s : String) : Bool := !s.toList.contains '\\'

def oneLine (s : String) : Bool :=
  s.toList.all (fun c => c ≠ '\n' && c ≠ '\r' && c.toNat ≠ 0x85 && c.toNat ≠ 0x2028 && c.toNat ≠ 0x2029)

mutual
def Flow.plain : Flow → Bool
  | .int _ => true
  | .word s => isWord s
  | .quoted s => quotable s
  | .seq items => Flow.plains items
  | .map members => Flow.plainPairs members

def Flow.plains : List Flow → Bool
  | [] => true
  | f :: rest => f.plain && Flow.plains rest

def Flow.plainPairs : List (Flow × Flow) → Bool
  | [] => true
  | (k,v) :: rest => k.plain && v.plain && Flow.plainPairs rest
end

mutual
def Node.plain : Node → Bool
  | .flow f => f.plain
  | .block members => Node.plainPairs members

def Node.plainPairs : List (Flow × Node) → Bool
  | [] => true
  | (k,n) :: rest => k.plain && n.plain && Node.plainPairs rest
end

def Doc.plain (d : Doc) : Bool := d.comments.all (fun c => c.toList.head? = some '#') && Node.plainPairs d.members

-- `safe_load`, and what it reads of a text between quotes: that text, unless its lines are folded.
structure YamlLibrary where
  safeLoad : String → Except String Yaml
  unquoted : String → String
  verbatim : ∀ s, quotable s = true → oneLine s = true → unquoted s = s

namespace YamlLibrary

def Reads (yaml : YamlLibrary) (d : Doc) : Prop := d.plain = true → yaml.safeLoad d.text = .ok (d.value yaml.unquoted)

def source (yaml : YamlLibrary) (text : String) : Source :=
  match yaml.safeLoad text with
  | .ok raw => .read raw
  | .error reason => .notYaml reason

end YamlLibrary

/-! What the walks over a list do, in one word. -/

theorem textsMap (items : List Flow) : Flow.texts items = items.map Flow.text := by
  induction items with
  | nil => rfl
  | cons f rest ih => rw [Flow.texts,ih,List.map_cons]

theorem pairTextsMap (members : List (Flow × Flow)) :
    Flow.pairTexts members = members.map (fun m => m.1.text ++ ": " ++ m.2.text) := by
  induction members with
  | nil => rfl
  | cons m rest ih => rw [Flow.pairTexts,ih,List.map_cons]

theorem blockLinesMap (depth : Nat) (members : List (Flow × Node)) :
    Node.blockLines depth members = members.flatMap (fun m => m.2.lines depth m.1) := by
  induction members with
  | nil => rfl
  | cons m rest ih => rw [Node.blockLines,ih,List.flatMap_cons]

theorem valuesMap (unquoted : String → String) (items : List Flow) :
    Flow.values unquoted items = items.map (Flow.value unquoted) := by
  induction items with
  | nil => rfl
  | cons f rest ih => rw [Flow.values,ih,List.map_cons]

theorem pairValuesMap (unquoted : String → String) (members : List (Flow × Flow)) :
    Flow.pairValues unquoted members = members.map (fun m => (m.1.value unquoted,m.2.value unquoted)) := by
  induction members with
  | nil => rfl
  | cons m rest ih => rw [Flow.pairValues,ih,List.map_cons]

theorem blockValuesMap (unquoted : String → String) (members : List (Flow × Node)) :
    Node.pairValues unquoted members = members.map (fun m => (m.1.value unquoted,m.2.value unquoted)) := by
  induction members with
  | nil => rfl
  | cons m rest ih => rw [Node.pairValues,ih,List.map_cons]

theorem plainsAll (items : List Flow) : Flow.plains items = items.all Flow.plain := by
  induction items with
  | nil => rfl
  | cons f rest ih => rw [Flow.plains,ih,List.all_cons]

theorem plainPairsAll (members : List (Flow × Flow)) :
    Flow.plainPairs members = members.all (fun m => m.1.plain && m.2.plain) := by
  induction members with
  | nil => rfl
  | cons m rest ih => rw [Flow.plainPairs,ih,List.all_cons]

theorem plainBlockAll (members : List (Flow × Node)) :
    Node.plainPairs members = members.all (fun m => m.1.plain && m.2.plain) := by
  induction members with
  | nil => rfl
  | cons m rest ih => rw [Node.plainPairs,ih,List.all_cons]

theorem blockItems (unquoted : String → String) (members : List (Flow × Node)) :
    ((Node.block members).value unquoted).items = .ok (Node.pairValues unquoted members) := by
  cases members with
  | nil => rfl
  | cons m rest => rfl

end Moadian.Document
