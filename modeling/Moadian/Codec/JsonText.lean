import Moadian.Codec.Encoding
import Moadian.Json

/-! `json.dumps` and `json.loads` on text. How a float is written and read is a
parameter; a faulty text is refused with what stands at the place of the fault. -/
namespace Moadian.Codec

structure Floats where
  repr : ℚ → List Char
  read : List Char → PyFloat

/- `ensure_ascii`, the blanks after the comma and the colon of `separators`, and `indent`. -/
structure Style where
  ensureAscii : Bool
  itemGap : Nat
  keyGap : Nat
  indent : Option Nat
  deriving DecidableEq, Repr

namespace Style

def compact : Style := ⟨true,0,0,none⟩
def canonical : Style := ⟨false,0,0,none⟩
def indented (n : Nat) : Style := ⟨true,0,1,some n⟩

def newline (s : Style) (level : Nat) : List Char := match s.indent with
  | none => []
  | some n => '\n' :: List.replicate (n * level) ' '

def comma (s : Style) : List Char := ',' :: List.replicate s.itemGap ' '
def colon (s : Style) : List Char := ':' :: List.replicate s.keyGap ' '

end Style

/-! Writing. -/

def hex4 (n : Nat) : List Char :=
  [(n / 4096).digitChar,(n / 256 % 16).digitChar,(n / 16 % 16).digitChar,(n % 16).digitChar]

def escapeUnit (n : Nat) : List Char := '\\' :: 'u' :: hex4 n

def escape (ensureAscii : Bool) (c : Char) : List Char :=
  if c = '"' then ['\\','"'] else if c = '\\' then ['\\','\\'] else if c = '\n' then ['\\','n']
  else if c = '\r' then ['\\','r'] else if c = '\t' then ['\\','t'] else if c = '\x0c' then ['\\','f']
  else if c = '\x08' then ['\\','b'] else if c.toNat < 32 then escapeUnit c.toNat
  else if ensureAscii ∧ 126 < c.toNat then
    if c.toNat < 0x10000 then escapeUnit c.toNat
    else escapeUnit (0xD800 + (c.toNat - 0x10000) / 1024) ++ escapeUnit (0xDC00 + (c.toNat - 0x10000) % 1024)
  else [c]

def quoted (ensureAscii : Bool) (text : List Char) : List Char := '"' :: text.flatMap (escape ensureAscii) ++ ['"']

def intText (n : Int) : List Char :=
  if n < 0 then '-' :: Nat.toDigits 10 n.natAbs else Nat.toDigits 10 n.natAbs

def floatText (floats : Floats) : PyFloat → List Char
  | .finite value => floats.repr value
  | .nan => "NaN".toList
  | .infinite false => "Infinity".toList
  | .infinite true => "-Infinity".toList

mutual
def dump (floats : Floats) (s : Style) (level : Nat) : Json → List Char
  | .null => "null".toList
  | .bool true => "true".toList
  | .bool false => "false".toList
  | .int n => intText n
  | .float f => floatText floats f
  | .str t => quoted s.ensureAscii t.toList
  | .arr [] => ['[',']']
  | .arr (v :: rest) => '[' :: s.newline (level + 1) ++ dump floats s (level + 1) v ++
      dumpItems floats s (level + 1) rest ++ s.newline level ++ [']']
  | .obj [] => ['{','}']
  | .obj ((k,v) :: rest) => '{' :: s.newline (level + 1) ++ quoted s.ensureAscii k.toList ++ s.colon ++
      dump floats s (level + 1) v ++ dumpMembers floats s (level + 1) rest ++ s.newline level ++ ['}']

def dumpItems (floats : Floats) (s : Style) (level : Nat) : List Json → List Char
  | [] => []
  | v :: rest => s.comma ++ s.newline level ++ dump floats s level v ++ dumpItems floats s level rest

def dumpMembers (floats : Floats) (s : Style) (level : Nat) : List (String × Json) → List Char
  | [] => []
  | (k,v) :: rest => s.comma ++ s.newline level ++ quoted s.ensureAscii k.toList ++ s.colon ++
      dump floats s level v ++ dumpMembers floats s level rest
end

def dumps (floats : Floats) (s : Style) (v : Json) : List Char := dump floats s 0 v

/-! Reading. -/

inductive Fault where
  | decode (message : String) (here : List Char)
  | value (message : String)
  deriving DecidableEq, Repr

def isBlank (c : Char) : Bool := c == ' ' || c == '\t' || c == '\n' || c == '\r'

def skip (text : List Char) : List Char := text.dropWhile isBlank

def hexValue (c : Char) : Option Nat :=
  if '0' ≤ c ∧ c ≤ '9' then some (c.toNat - 48) else if 'a' ≤ c ∧ c ≤ 'f' then some (c.toNat - 87)
  else if 'A' ≤ c ∧ c ≤ 'F' then some (c.toNat - 55) else none

def hexUnit : List Char → Option (Nat × List Char)
  | a :: b :: c :: d :: rest => do
    let a ← hexValue a
    let b ← hexValue b
    let c ← hexValue c
    let d ← hexValue d
    some (a * 4096 + b * 256 + c * 16 + d,rest)
  | _ => none

def isHigh (n : Nat) : Bool := 0xD800 ≤ n && n < 0xDC00
def isLow (n : Nat) : Bool := 0xDC00 ≤ n && n < 0xE000

-- A surrogate that stands alone has no character of its own here: it is read as U+FFFD.
def unitChar (n : Nat) : Char := if isHigh n || isLow n then Char.ofNat 0xFFFD else Char.ofNat n

def readUnicode (here : List Char) : Except Fault (Char × List Char) :=
  let bad := Fault.decode "Invalid \\uXXXX escape" here
  if here.length ≤ 5 then .error bad
  else match hexUnit (here.drop 1) with
    | none => .error bad
    | some (n,rest) =>
      if isHigh n ∧ 6 < rest.length ∧ rest.take 2 = ['\\','u'] then
        match hexUnit (rest.drop 2) with
        | none => .error (.decode "Invalid \\uXXXX escape" (rest.drop 1))
        | some (low,after) =>
          if isLow low then .ok (Char.ofNat (0x10000 + (n - 0xD800) * 1024 + (low - 0xDC00)),after)
          else .ok (unitChar n,rest)
      else .ok (unitChar n,rest)

-- `here` starts at the backslash, `quote` at the quotation mark the string begins with.
def readEscape (quote here : List Char) : Except Fault (Char × List Char) :=
  match here.drop 1 with
  | [] => .error (.decode "Unterminated string starting at" quote)
  | c :: rest =>
    if c = 'u' then readUnicode (c :: rest)
    else if c = '"' ∨ c = '\\' ∨ c = '/' then .ok (c,rest)
    else if c = 'b' then .ok ('\x08',rest) else if c = 'f' then .ok ('\x0c',rest)
    else if c = 'n' then .ok ('\n',rest) else if c = 'r' then .ok ('\r',rest) else if c = 't' then .ok ('\t',rest)
    else .error (.decode "Invalid \\escape" here)

-- The fuel is never used up: every character read takes one of it.
def scanString (quote : List Char) : Nat → List Char → Except Fault (List Char × List Char)
  | fuel + 1,c :: rest =>
    if c = '"' then .ok ([],rest)
    else if c = '\\' then do
      let (d,after) ← readEscape quote (c :: rest)
      let (text,after) ← scanString quote fuel after
      .ok (d :: text,after)
    else if c.toNat < 32 then .error (.decode "Invalid control character at" (c :: rest))
    else do
      let (text,after) ← scanString quote fuel rest
      .ok (c :: text,after)
  | _,_ => .error (.decode "Unterminated string starting at" quote)

def wholePart : List Char → Option (List Char × List Char)
  | c :: rest =>
    if c = '0' then some ([c],rest)
    else if c.isDigit then some (c :: rest.takeWhile Char.isDigit,rest.dropWhile Char.isDigit) else none
  | [] => none

def fractionPart : List Char → Option (List Char × List Char)
  | '.' :: c :: rest => if c.isDigit then some ('.' :: c :: rest.takeWhile Char.isDigit,rest.dropWhile Char.isDigit) else none
  | _ => none

def exponentPart : List Char → Option (List Char × List Char)
  | e :: rest =>
    if e = 'e' ∨ e = 'E' then
      let sign := rest.take 1 |>.filter (fun c => c = '+' ∨ c = '-')
      let digits := (rest.drop sign.length).takeWhile Char.isDigit
      if digits = [] then none else some (e :: sign ++ digits,(rest.drop sign.length).dropWhile Char.isDigit)
    else none
  | [] => none

def maxDigits : Nat := 4300

def readInt (negative : Bool) (digits : List Char) : Except Fault Json :=
  if maxDigits < digits.length then .error (.value ("Exceeds the limit (4300 digits) for integer string conversion: value has " ++
    toString digits.length ++ " digits; use sys.set_int_max_str_digits() to increase the limit"))
  else .ok (.int (if negative then -(Nat.ofDigitChars 10 digits 0 : Int) else Nat.ofDigitChars 10 digits 0))

def scanNumber (floats : Floats) (here : List Char) : Except Fault (Json × List Char) :=
  let negative := here.head? == some '-'
  match wholePart (if negative then here.drop 1 else here) with
  | none => .error (.decode "Expecting value" here)
  | some (whole,rest) =>
    let (fraction,rest) := (fractionPart rest).getD ([],rest)
    let (exponent,rest) := (exponentPart rest).getD ([],rest)
    if fraction = [] ∧ exponent = [] then (readInt negative whole).map (·,rest)
    else .ok (.float (floats.read ((if negative then ['-'] else []) ++ whole ++ fraction ++ exponent)),rest)

def literals : List (List Char × Json) := [
  ("null".toList,.null),("true".toList,.bool true),("false".toList,.bool false),("NaN".toList,.float .nan),
  ("Infinity".toList,.float (.infinite false)),("-Infinity".toList,.float (.infinite true))]

def scanLiteral (here : List Char) : Option (Json × List Char) :=
  literals.findSome? (fun l => if l.1 <+: here then some (l.2,here.drop l.1.length) else none)

mutual
def scanValue (floats : Floats) : Nat → List Char → Except Fault (Json × List Char)
  | fuel + 1,c :: rest =>
    if c = '"' then do
      let (text,after) ← scanString (c :: rest) (rest.length + 1) rest
      .ok (.str (String.ofList text),after)
    else if c = '{' then
      match skip rest with
      | '}' :: after => .ok (.obj [],after)
      | first => scanMembers floats fuel [] first
    else if c = '[' then
      match skip rest with
      | ']' :: after => .ok (.arr [],after)
      | first => scanItems floats fuel [] first
    else match scanLiteral (c :: rest) with
      | some found => .ok found
      | none => scanNumber floats (c :: rest)
  | _,here => .error (.decode "Expecting value" here)

def scanItems (floats : Floats) : Nat → List Json → List Char → Except Fault (Json × List Char)
  | 0,_,here => .error (.decode "Expecting value" here)
  | fuel + 1,done,here => do
    let (v,after) ← scanValue floats fuel here
    match skip after with
    | ']' :: after => .ok (.arr (done ++ [v]),after)
    | ',' :: after => scanItems floats fuel (done ++ [v]) (skip after)
    | other => .error (.decode "Expecting ',' delimiter" other)

def scanMembers (floats : Floats) : Nat → Dict → List Char → Except Fault (Json × List Char)
  | fuel + 1,done,'"' :: rest => do
    let (key,after) ← scanString ('"' :: rest) (rest.length + 1) rest
    match skip after with
    | ':' :: after =>
      let (v,after) ← scanValue floats fuel (skip after)
      match skip after with
      | '}' :: after => .ok (.obj (Json.setMember (String.ofList key) v done),after)
      | ',' :: after => scanMembers floats fuel (Json.setMember (String.ofList key) v done) (skip after)
      | other => .error (.decode "Expecting ',' delimiter" other)
    | other => .error (.decode "Expecting ':' delimiter" other)
  | _,_,here => .error (.decode "Expecting property name enclosed in double quotes" here)
end

def raw (floats : Floats) (doc : List Char) : Except Fault Json := do
  let (v,after) ← scanValue floats (doc.length + 1) (skip doc)
  match skip after with
  | [] => .ok v
  | extra => .error (.decode "Extra data" extra)

def faultText (doc : List Char) : Fault → String
  | .value message => message
  | .decode message here =>
    let before := doc.take (doc.length - here.length)
    let line := before.count '\n' + 1
    let column := (before.reverse.takeWhile (· ≠ '\n')).length + 1
    message ++ ": line " ++ toString line ++ " column " ++ toString column ++ " (char " ++ toString before.length ++ ")"

inductive Charset where
  | utf8 | utf8Sig | utf16 | utf16Be | utf16Le | utf32 | utf32Be | utf32Le
  deriving DecidableEq, Repr

def detectEncoding : Bytes → Charset
  | 0x00 :: 0x00 :: 0xFE :: 0xFF :: _ => .utf32
  | 0xFF :: 0xFE :: 0x00 :: 0x00 :: _ => .utf32
  | 0xFE :: 0xFF :: _ => .utf16
  | 0xFF :: 0xFE :: _ => .utf16
  | 0xEF :: 0xBB :: 0xBF :: _ => .utf8Sig
  | a :: b :: c :: d :: _ =>
    if a = 0 then if b = 0 then .utf32Be else .utf16Be
    else if b = 0 then if c = 0 ∧ d = 0 then .utf32Le else .utf16Le
    else .utf8
  | [a,b] => if a = 0 then .utf16Be else if b = 0 then .utf16Le else .utf8
  | _ => .utf8

end Moadian.Codec
