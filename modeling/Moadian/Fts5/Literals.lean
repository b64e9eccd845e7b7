import Mathlib.Data.List.TakeWhile
import Mathlib.Tactic.Tauto
import Moadian.Fts5.Query

/-! Texts of which none is read as anything but itself: quoted, and joined by AND. -/
namespace Moadian.Fts5

def doubled (c : Char) : List Char := if c = '"' then ['"','"'] else [c]

def literal (text : List Char) : List Char := '"' :: (text.flatMap doubled ++ ['"','*'])

def joined (texts : List (List Char)) : List Char := [' ','A','N','D',' '].intercalate (texts.map literal)

def prefixed (text : List Char) : Query := .phrase [(text,true)]

def conjunction : List Query → Query
  | [q] => q
  | qs => .and qs

def further : List (List Char) → List Token
  | [] => []
  | text :: texts => .and :: .quoted text :: .star :: further texts

theorem lexQuote (text back rest : List Char) :
    lex (.quote back) (text.flatMap doubled ++ rest) = lex (.quote (text.reverse ++ back)) rest := by
  induction text generalizing back with
  | nil => rfl
  | cons c text ih =>
    have one : lex (.quote back) (doubled c ++ (text.flatMap doubled ++ rest)) =
        lex (.quote (c :: back)) (text.flatMap doubled ++ rest) := by
      unfold doubled
      split
      · rename_i quote
        subst quote
        simp [lex,step]
      · rename_i other
        simp [lex,step,other]
    rw [List.flatMap_cons,List.append_assoc,one,ih,List.reverse_cons,List.append_assoc]
    rfl

theorem lexLiteral (text rest : List Char) : lex .plain (literal text ++ rest) =
    (lex .plain rest).map (fun later => .quoted text :: .star :: later) := by
  have opens : lex .plain (literal text ++ rest) = lex (.quote []) (text.flatMap doubled ++ '"' :: '*' :: rest) := by
    rw [literal,List.cons_append,List.append_assoc]
    simp [lex,step,start,isSpace]
  rw [opens,lexQuote,List.append_nil]
  cases later : lex .plain rest <;> simp [lex,step,start,isSpace,punctuation,later]

theorem joinedCons (text next : List Char) (texts : List (List Char)) :
    joined (text :: next :: texts) = literal text ++ ([' ','A','N','D',' '] ++ joined (next :: texts)) := by
  simp [joined,List.intercalate]

theorem lexAnd (rest : List Char) : lex .plain ([' ','A','N','D',' '] ++ rest) =
    (lex .plain rest).map (fun later => .and :: later) := by
  cases later : lex .plain rest <;> simp [lex,step,start,isSpace,punctuation,isBareword,keyword,later]

theorem lexJoined (text : List Char) (texts : List (List Char)) :
    lex .plain (joined (text :: texts)) = some (.quoted text :: .star :: further texts) := by
  induction texts generalizing text with
  | nil =>
    have whole := lexLiteral text []
    rw [List.append_nil] at whole
    rw [joined,List.map_singleton,List.intercalate_singleton,whole]
    rfl
  | cons next texts ih =>
    rw [joinedCons,lexLiteral,lexAnd,ih]
    rfl

theorem chainEnds {α : Type} {more : Token} {next : Parser α} {join : α → α → α} {rest : List Token}
    (other : ∀ t ts, rest = t :: ts → t ≠ more) (n : Nat) (a : α) : chain more next join n a rest = some (a,rest) := by
  cases n with
  | zero => rfl
  | succ n =>
    cases rest with
    | nil => rfl
    | cons t ts => rw [chain,if_neg (other t ts rfl)]

def Follows (rest : List Token) : Prop := rest = [] ∨ ∃ later, rest = .and :: later

theorem followsHead {rest : List Token} (follows : Follows rest) {t : Token} {ts : List Token} (same : rest = t :: ts) :
    t = .and := by
  obtain rfl | ⟨later,rfl⟩ := follows
  · cases same
  · cases same; rfl

theorem phraseLiteral (text : List Char) {rest : List Token} (follows : Follows rest) :
    phrase (.quoted text :: .star :: rest) = some ([(text,true)],rest) := by
  have stops : chain .plus (fun ts => (term ts).map (fun p => ([p.1],p.2))) (fun xs ys => xs ++ ys) rest.length
      [(text,true)] rest = some ([(text,true)],rest) :=
    chainEnds (fun t ts same => by rw [followsHead follows same]; decide) rest.length [(text,true)]
  exact stops

theorem noMore {rest : List Token} (follows : Follows rest) : cnearset rest = none := by
  obtain rfl | ⟨later,rfl⟩ := follows <;> rfl

theorem manyNone {α : Type} {next : Parser α} {rest : List Token} (last : next rest = none) (n : Nat) :
    many next n rest = none := by
  cases n with
  | zero => rfl
  | succ n => rw [many,last]; rfl

theorem manyOne {α : Type} {next : Parser α} {ts rest : List Token} {a : α} (first : next ts = some (a,rest))
    (last : next rest = none) (n : Nat) : many next (n+1) ts = some ([a],rest) := by
  simp only [many,first,bind,Option.bind,manyNone last n]

theorem unitLiteral (inner : Parser Query) (text : List Char) {rest : List Token} (follows : Follows rest) :
    unit inner (.quoted text :: .star :: rest) = some (prefixed text,rest) := by
  have one : cnearset (.quoted text :: .star :: rest) = some (prefixed text,rest) := by
    show (phrase (.quoted text :: .star :: rest)).map (fun p => (Query.phrase p.1,p.2)) = _
    rw [phraseLiteral text follows]
    rfl
  have list : many cnearset (rest.length + 2) (.quoted text :: .star :: rest) = some ([prefixed text],rest) :=
    manyOne one (noMore follows) (rest.length + 1)
  show exprlist (.quoted text :: .star :: rest) = _
  rw [exprlist,show (Token.quoted text :: Token.star :: rest).length = rest.length + 2 from rfl,list]
  rfl

theorem furtherFollows (texts : List (List Char)) : Follows (further texts) := by
  cases texts with
  | nil => exact .inl rfl
  | cons text texts => exact .inr ⟨_,rfl⟩

theorem notLiteral (inner : Parser Query) (text : List Char) {rest : List Token} (follows : Follows rest) :
    level .not (unit inner) .not (.quoted text :: .star :: rest) = some (prefixed text,rest) := by
  unfold level
  rw [unitLiteral inner text follows]
  exact chainEnds (fun t ts same => by rw [followsHead follows same]; decide) rest.length (prefixed text)

theorem andChain (inner : Parser Query) (texts : List (List Char)) (q : Query) (n : Nat)
    (enough : (further texts).length ≤ n) :
    chain .and (level .not (unit inner) .not) .conj n q (further texts) =
      some ((texts.map prefixed).foldl Query.conj q,[]) := by
  induction texts generalizing q n with
  | nil => cases n <;> rfl
  | cons text texts ih =>
    cases n with
    | zero => simp [further] at enough
    | succ n =>
      have short : (further texts).length ≤ n := by
        simp only [further,List.length_cons] at enough
        omega
      rw [further,chain,if_pos rfl,notLiteral inner text (furtherFollows texts)]
      exact ih (q.conj (prefixed text)) n short

theorem conjAll (qs : List Query) (texts : List (List Char)) :
    (texts.map prefixed).foldl Query.conj (Query.and qs) = .and (qs ++ texts.map prefixed) := by
  induction texts generalizing qs with
  | nil => simp
  | cons text texts ih =>
    have one : Query.conj (.and qs) (prefixed text) = .and (qs ++ [prefixed text]) := rfl
    rw [List.map_cons,List.foldl_cons,one,ih,List.append_assoc]
    rfl

theorem conjoined (text : List Char) (texts : List (List Char)) :
    (texts.map prefixed).foldl Query.conj (prefixed text) = conjunction ((text :: texts).map prefixed) := by
  cases texts with
  | nil => rfl
  | cons next texts =>
    have two : Query.conj (prefixed text) (prefixed next) = .and [prefixed text,prefixed next] := rfl
    rw [List.map_cons,List.foldl_cons,two,conjAll]
    rfl

theorem exprLiterals (n : Nat) (text : List Char) (texts : List (List Char)) :
    expr (n+1) (.quoted text :: .star :: further texts) = some (conjunction ((text :: texts).map prefixed),[]) := by
  have ands : level .and (level .not (unit (expr n)) .not) .conj (.quoted text :: .star :: further texts) =
      some (conjunction ((text :: texts).map prefixed),[]) := by
    rw [level,notLiteral (expr n) text (furtherFollows texts),← conjoined text texts]
    exact andChain (expr n) texts (prefixed text) _ (Nat.le_refl _)
  rw [expr,level,ands]
  rfl

theorem doubledPart {c d : Char} (member : d ∈ doubled c) : d = c := by
  unfold doubled at member
  split at member
  · rename_i quote
    rw [quote]
    simpa using member
  · exact List.mem_singleton.mp member

theorem joinedPart {texts : List (List Char)} {c : Char} (member : c ∈ joined texts) :
    c ∈ [' ','A','N','D','"','*'] ∨ ∃ text ∈ texts, c ∈ text := by
  induction texts with
  | nil => cases member
  | cons text texts ih =>
    have inLiteral : c ∈ literal text → c ∈ [' ','A','N','D','"','*'] ∨ c ∈ text := by
      intro there
      simp only [literal,List.mem_cons,List.mem_append,List.mem_flatMap,List.not_mem_nil,or_false] at there
      obtain rfl | ⟨d,own,same⟩ | rfl | rfl := there
      · simp
      · exact .inr (doubledPart same ▸ own)
      · simp
      · simp
    cases texts with
    | nil =>
      rw [joined,List.map_singleton,List.intercalate_singleton] at member
      obtain fixed | own := inLiteral member
      · exact .inl fixed
      · exact .inr ⟨text,by simp,own⟩
    | cons next texts =>
      rw [joinedCons] at member
      obtain first | rest := List.mem_append.mp member
      · obtain fixed | own := inLiteral first
        · exact .inl fixed
        · exact .inr ⟨text,by simp,own⟩
      · obtain between | later := List.mem_append.mp rest
        · left
          simp only [List.mem_cons,List.not_mem_nil,or_false] at between ⊢
          tauto
        · obtain fixed | ⟨t,inside,own⟩ := ih later
          · exact .inl fixed
          · exact .inr ⟨t,List.mem_cons_of_mem text inside,own⟩

theorem parseJoined {texts : List (List Char)} (some_ : texts ≠ []) (plain : ∀ text ∈ texts, Char.ofNat 0 ∉ text) :
    parse (joined texts) = some (conjunction (texts.map prefixed)) := by
  have whole : (joined texts).takeWhile (fun c => c ≠ Char.ofNat 0) = joined texts := by
    refine List.takeWhile_eq_self_iff.mpr (fun c member => ?_)
    rw [decide_eq_true_eq]
    intro nul
    obtain fixed | ⟨text,inside,own⟩ := joinedPart member
    · rw [nul] at fixed
      exact absurd fixed (by decide)
    · exact plain text inside (nul ▸ own)
  cases texts with
  | nil => exact absurd rfl some_
  | cons text texts =>
    have read : tokens (joined (text :: texts)) = some (.quoted text :: .star :: further texts) := by
      rw [tokens,whole,lexJoined]
    rw [parse,read]
    simp only [bind,Option.bind,exprLiterals]

end Moadian.Fts5
