import Mathlib.Data.List.Basic

/-! The query language of FTS5: its tokens, and the expressions they make. A quoted
string stands for itself, with a quote in it written twice; a star makes it a prefix. -/
namespace Moadian.Fts5

inductive Token where
  | quoted (text : List Char)
  | bare (text : List Char)
  | and | or | not
  | lparen | rparen | lbrace | rbrace | colon | comma | plus | star | minus | caret
  deriving DecidableEq, Repr

def isSpace (c : Char) : Bool := c = ' ' || c = '\t' || c = '\n' || c = '\r'

def isBareword (c : Char) : Bool :=
  0x80 ≤ c.toNat || c.isAlphanum || c = '_' || c.toNat = 0x1A

def punctuation : Char → Option Token
  | '(' => some .lparen
  | ')' => some .rparen
  | '{' => some .lbrace
  | '}' => some .rbrace
  | ':' => some .colon
  | ',' => some .comma
  | '+' => some .plus
  | '*' => some .star
  | '-' => some .minus
  | '^' => some .caret
  | _ => none

def keyword (word : List Char) : Token :=
  if word = ['A','N','D'] then .and
  else if word = ['O','R'] then .or
  else if word = ['N','O','T'] then .not
  else .bare word

-- A word is kept back to front; `closing` has read a quote that may yet be the first of two.
inductive Mode where
  | plain
  | word (back : List Char)
  | quote (back : List Char)
  | closing (back : List Char)

def Mode.done : Mode → Option (List Token)
  | plain => some []
  | word back => some [keyword back.reverse]
  | quote _ => none
  | closing back => some [.quoted back.reverse]

def start (c : Char) : Option (List Token × Mode) :=
  if isSpace c then some ([],.plain)
  else if c = '"' then some ([],.quote [])
  else match punctuation c with
    | some t => some ([t],.plain)
    | none => if isBareword c then some ([],.word [c]) else none

def step : Mode → Char → Option (List Token × Mode)
  | .plain,c => start c
  | .word back,c =>
    if isBareword c then some ([],.word (c :: back))
    else (start c).map (fun p => (keyword back.reverse :: p.1,p.2))
  | .quote back,c => if c = '"' then some ([],.closing back) else some ([],.quote (c :: back))
  | .closing back,c =>
    if c = '"' then some ([],.quote ('"' :: back))
    else (start c).map (fun p => (.quoted back.reverse :: p.1,p.2))

def lex : Mode → List Char → Option (List Token)
  | mode,[] => mode.done
  | mode,c :: rest =>
    match step mode c with
    | none => none
    | some (tokens,next) => (lex next rest).map (fun later => tokens ++ later)

-- The text is handed over as a C string.
def tokens (text : List Char) : Option (List Token) := lex .plain (text.takeWhile (fun c => c ≠ Char.ofNat 0))

abbrev Term := List Char × Bool

inductive Query where
  | phrase (terms : List Term)
  | initial (terms : List Term)
  | near (phrases : List (List Term)) (distance : Nat)
  | columns (except : Bool) (names : List (List Char)) (query : Query)
  | and (queries : List Query)
  | or (queries : List Query)
  | not (left right : Query)

namespace Query

def conjuncts : Query → List Query
  | and queries => queries
  | q => [q]

def disjuncts : Query → List Query
  | or queries => queries
  | q => [q]

def conj (p q : Query) : Query := and (p.conjuncts ++ q.conjuncts)

def disj (p q : Query) : Query := or (p.disjuncts ++ q.disjuncts)

end Query

abbrev Parser (α : Type) := List Token → Option (α × List Token)

def string : Parser (List Char)
  | .quoted text :: rest => some (text,rest)
  | .bare text :: rest => some (text,rest)
  | _ => none

def term : Parser Term := fun ts => do
  let (text,rest) ← string ts
  match rest with
  | .star :: rest => some ((text,true),rest)
  | rest => some ((text,false),rest)

def chain {α : Type} (more : Token) (next : Parser α) (join : α → α → α) : Nat → α → Parser α
  | 0,a,ts => some (a,ts)
  | n+1,a,ts =>
    match ts with
    | [] => some (a,[])
    | t :: rest => if t = more then do
        let (b,rest) ← next rest
        chain more next join n (join a b) rest
      else some (a,t :: rest)

def level {α : Type} (more : Token) (next : Parser α) (join : α → α → α) : Parser α := fun ts => do
  let (a,rest) ← next ts
  chain more next join rest.length a rest

def phrase : Parser (List Term) :=
  level .plus (fun ts => (term ts).map (fun p => ([p.1],p.2))) (fun xs ys => xs ++ ys)

def many {α : Type} (next : Parser α) : Nat → Parser (List α)
  | 0,_ => none
  | n+1,ts => do
    let (a,rest) ← next ts
    match many next n rest with
    | some (as,rest) => some (a :: as,rest)
    | none => some ([a],rest)

def number (text : List Char) : Option Nat :=
  if text.all Char.isDigit then some (text.foldl (fun n c => 10 * n + (c.toNat - 0x30)) 0) else none

def distance : Parser Nat
  | .comma :: rest => do
    let (text,rest) ← string rest
    let n ← number text
    some (n,rest)
  | rest => some (10,rest)

def nearset : Parser Query := fun ts =>
  match ts with
  | .caret :: rest => (phrase rest).map (fun p => (.initial p.1,p.2))
  | .bare name :: .lparen :: rest =>
    if name = ['N','E','A','R'] then do
      let (phrases,rest) ← many phrase rest.length rest
      let (n,rest) ← distance rest
      match rest with
      | .rparen :: rest => some (.near phrases n,rest)
      | _ => none
    else none
  | .quoted _ :: .lparen :: _ => none
  | ts => (phrase ts).map (fun p => (.phrase p.1,p.2))

def colset (ts : List Token) : Option ((Bool × List (List Char)) × List Token) :=
  let (except,ts) := match ts with
    | .minus :: rest => (true,rest)
    | ts => (false,ts)
  let named : Option (List (List Char) × List Token) := match ts with
    | .lbrace :: rest => do
      let (names,rest) ← many string rest.length rest
      match rest with
      | .rbrace :: rest => some (names,rest)
      | _ => none
    | ts => (string ts).map (fun p => ([p.1],p.2))
  match named with
  | some (names,.colon :: rest) => some ((except,names),rest)
  | _ => none

def parenthesized (inner : Parser Query) : Parser Query := fun ts =>
  match ts with
  | .lparen :: rest =>
    match inner rest with
    | some (q,.rparen :: rest) => some (q,rest)
    | _ => none
  | _ => none

def cnearset : Parser Query := fun ts =>
  match colset ts with
  | some ((except,names),rest) => (nearset rest).map (fun p => (.columns except names p.1,p.2))
  | none => nearset ts

-- Phrases that merely follow one another are a conjunction.
def exprlist : Parser Query := fun ts => do
  let (queries,rest) ← many cnearset ts.length ts
  match queries with
  | [] => none
  | q :: more => some (more.foldl Query.conj q,rest)

def unit (inner : Parser Query) : Parser Query := fun ts =>
  match ts with
  | .lparen :: _ => parenthesized inner ts
  | ts =>
    match colset ts with
    | some ((except,names),.lparen :: rest) =>
      (parenthesized inner (.lparen :: rest)).map (fun p => (.columns except names p.1,p.2))
    | _ => exprlist ts

-- NOT binds before AND, and AND before OR.
def expr : Nat → Parser Query
  | 0 => fun _ => none
  | n+1 => level .or (level .and (level .not (unit (expr n)) .not) .conj) .disj

def parse (text : List Char) : Option Query := do
  let ts ← tokens text
  match expr (ts.length + 1) ts with
  | some (q,[]) => some q
  | _ => none

end Moadian.Fts5
