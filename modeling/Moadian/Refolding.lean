import Mathlib.Data.List.Chain
import Moadian.Folding

/-! Folding what `fold` has folded. A second pass finds the same words, and what it does to
each of them is to compose it and fold its case once more. -/
namespace Moadian.Persian

def Untouched (c : Char) : Prop := respelled c = [c] ∧ mark c = false

/- What Unicode says of composing and of case folding: a space is a boundary on both
sides; neither empties a text nor makes a character that the tables above look for out
of others; white space has no case, and nothing folds to white space. -/
structure Apart (u : Spelling) : Prop where
  boundary : ∀ before after, u.nfc (before ++ " " ++ after) = u.nfc before ++ " " ++ u.nfc after
  filled : ∀ text, u.nfc text = "" → text = ""
  composed : ∀ text, (∀ c ∈ text.toList, Untouched c ∧ Json.isSpace c = false) →
    ∀ c ∈ (u.nfc text).toList, Untouched c ∧ Json.isSpace c = false
  caseUntouched : ∀ c, Untouched c → ∀ d ∈ u.casefold c, Untouched d
  caseWord : ∀ c, Json.isSpace c = false → u.casefold c ≠ [] ∧ ∀ d ∈ u.casefold c, Json.isSpace d = false
  caseSpace : ∀ c, Json.isSpace c = true → u.casefold c = [c]

def left (u : Spelling) (text : String) : List Char :=
  ((u.nfc text).toList.flatMap respelled).filter (fun c => !mark c)

def recased (u : Spelling) (w : List Char) : List Char := (u.nfc (String.ofList w)).toList.flatMap u.casefold

def joined : List (List Char) → List Char
  | [] => []
  | w :: later => w ++ later.flatMap (fun v => ' ' :: v)

def Word (w : List Char) : Prop := w ≠ [] ∧ ∀ c ∈ w, Json.isSpace c = false

theorem joinedCons (w v : List Char) (later : List (List Char)) :
    joined (w :: v :: later) = w ++ ' ' :: joined (v :: later) := rfl

theorem joinedMap {f : Char → List Char} (space : f ' ' = [' ']) (ws : List (List Char)) :
    (joined ws).flatMap f = joined (ws.map (fun w => w.flatMap f)) := by
  cases ws with
  | nil => rfl
  | cons w later =>
    simp only [joined,List.map_cons,List.flatMap_append,List.flatMap_map]
    congr 1
    induction later with
    | nil => rfl
    | cons v later ih =>
      simp only [List.flatMap_cons,List.flatMap_append,List.cons_append,ih,space,List.nil_append]

theorem memJoined {ws : List (List Char)} {c : Char} (member : c ∈ joined ws) : c = ' ' ∨ ∃ w ∈ ws, c ∈ w := by
  cases ws with
  | nil => cases member
  | cons w later =>
    obtain here | there := List.mem_append.mp member
    · exact .inr ⟨w,List.mem_cons_self ..,here⟩
    · obtain ⟨v,inside,own⟩ := List.mem_flatMap.mp there
      obtain space | own := List.mem_cons.mp own
      · exact .inl space
      · exact .inr ⟨v,List.mem_cons_of_mem _ inside,own⟩

theorem partsSome (text : List Char) : ∃ w later, parts text = w :: later := by
  cases text with
  | nil => exact ⟨[],[],rfl⟩
  | cons c rest =>
    unfold parts
    split
    · exact ⟨_,_,rfl⟩
    · split
      · exact ⟨_,_,rfl⟩
      · exact ⟨_,_,rfl⟩

theorem partsLetter {c : Char} (letter : Json.isSpace c = false) {rest w : List Char} {later : List (List Char)}
    (split_ : parts rest = w :: later) : parts (c :: rest) = (c :: w) :: later := by
  rw [parts,letter,split_]
  rfl

theorem partsFront {made rest w : List Char} {later : List (List Char)} (solid : ∀ c ∈ made, Json.isSpace c = false)
    (split_ : parts rest = w :: later) : parts (made ++ rest) = (made ++ w) :: later := by
  induction made with
  | nil => exact split_
  | cons c made ih =>
    exact partsLetter (solid c (List.mem_cons_self ..)) (ih (fun d member => solid d (List.mem_cons_of_mem c member)))

-- Everything about the parts of a joined text follows from this.
theorem partsSpace {w : List Char} (solid : ∀ c ∈ w, Json.isSpace c = false) {space : Char}
    (blank : Json.isSpace space = true) (rest : List Char) : parts (w ++ space :: rest) = w :: parts rest := by
  have front := partsFront solid (show parts (space :: rest) = [] :: parts rest by rw [parts,if_pos blank])
  rwa [List.append_nil] at front

theorem partsWord {w : List Char} (solid : ∀ c ∈ w, Json.isSpace c = false) : parts w = [w] := by
  have front := partsFront solid (show parts [] = [] :: [] from rfl)
  rwa [List.append_nil] at front

theorem partsSolid {text w : List Char} (inside : w ∈ parts text) : ∀ c ∈ w, Json.isSpace c = false := by
  induction text generalizing w with
  | nil =>
    rw [List.mem_singleton.mp inside]
    intro c member
    cases member
  | cons d rest ih =>
    cases space : Json.isSpace d with
    | true =>
      rw [parts,if_pos space] at inside
      obtain rfl | later := List.mem_cons.mp inside
      · intro c member
        cases member
      · exact ih later
    | false =>
      obtain ⟨v,later,whole⟩ := partsSome rest
      rw [partsLetter space whole] at inside
      rw [whole] at ih
      obtain rfl | other := List.mem_cons.mp inside
      · intro c member
        obtain rfl | own := List.mem_cons.mp member
        · exact space
        · exact ih (List.mem_cons_self ..) c own
      · exact ih (List.mem_cons_of_mem v other)

theorem wordsWord {text : String} {w : List Char} (inside : w ∈ words text) : Word w := by
  obtain ⟨part,some_⟩ := List.mem_filter.mp inside
  refine ⟨?_,partsSolid part⟩
  rintro rfl
  cases some_

theorem partsJoined {w : List Char} {later : List (List Char)} (all : ∀ v ∈ w :: later, Word v) :
    parts (joined (w :: later)) = w :: later := by
  induction later generalizing w with
  | nil =>
    rw [joined,List.flatMap_nil,List.append_nil]
    exact partsWord (all w (List.mem_singleton_self w)).2
  | cons v later ih =>
    rw [joinedCons,partsSpace (all w (List.mem_cons_self ..)).2 (by decide),
      ih (fun x member => all x (List.mem_cons_of_mem w member))]

theorem wordsJoined {ws : List (List Char)} (all : ∀ w ∈ ws, Word w) : words (String.ofList (joined ws)) = ws := by
  cases ws with
  | nil => rfl
  | cons w later =>
    rw [words,String.toList_ofList,partsJoined all,List.filter_eq_self]
    intro v member
    cases v with
    | nil => exact absurd rfl (all [] member).1
    | cons c v => rfl

theorem rdropLetter {c : Char} (letter : Json.isSpace c = false) (text : List Char) :
    (c :: text).rdropWhile Json.isSpace = c :: text.rdropWhile Json.isSpace := by
  unfold List.rdropWhile
  rw [List.reverse_cons,List.dropWhile_append]
  split
  · rename_i gone
    rw [List.isEmpty_iff.mp gone,List.dropWhile_cons_of_neg (by rw [letter]; exact Bool.false_ne_true)]
    rfl
  · rw [List.reverse_append]
    rfl

theorem rdropSpace {c : Char} (space : Json.isSpace c = true) (text : List Char) :
    (c :: text).rdropWhile Json.isSpace =
      if text.rdropWhile Json.isSpace = [] then [] else c :: text.rdropWhile Json.isSpace := by
  unfold List.rdropWhile
  rw [List.reverse_cons,List.dropWhile_append]
  by_cases gone : text.reverse.dropWhile Json.isSpace = []
  · rw [gone,List.isEmpty_nil,if_pos rfl,List.reverse_nil,if_pos rfl,List.dropWhile_cons_of_pos space]
    rfl
  · rw [if_neg (by rw [List.isEmpty_iff]; exact gone),List.reverse_append,
      if_neg (fun empty => gone (List.reverse_eq_nil_iff.mp empty))]
    rfl

theorem joinedBlank {ws : List (List Char)} (all : ∀ w ∈ ws, Word w) : joined ws = [] ↔ ws = [] := by
  cases ws with
  | nil => exact ⟨fun _ => rfl,fun _ => rfl⟩
  | cons w later =>
    refine ⟨fun blank => ?_,fun none_ => by cases none_⟩
    exact absurd (List.append_eq_nil_iff.mp blank).1 (all w (List.mem_cons_self ..)).1

theorem gathered {text : List Char} {w : List Char} (inside : w ∈ (parts text).filter (fun v => !v.isEmpty)) : Word w := by
  have word : w ∈ words (String.ofList text) := by rwa [words,String.toList_ofList]
  exact wordsWord word

/- A run of white space is left or entered character by character: inside one the next
word is still to come, behind a letter its own word goes on. -/
theorem spacedParts (text : List Char) :
    (spaced true text).rdropWhile Json.isSpace = joined ((parts text).filter (fun w => !w.isEmpty)) ∧
    ∀ w later, parts text = w :: later → (spaced false text).rdropWhile Json.isSpace =
      w ++ (later.filter (fun v => !v.isEmpty)).flatMap (fun v => ' ' :: v) := by
  induction text with
  | nil =>
    refine ⟨rfl,fun w later split_ => ?_⟩
    cases split_
    rfl
  | cons c rest ih =>
    obtain ⟨inside,outside⟩ := ih
    cases space : Json.isSpace c with
    | true =>
      have cut : parts (c :: rest) = [] :: parts rest := by rw [parts,if_pos space]
      refine ⟨by simpa [spaced,space,cut] using inside,fun w later split_ => ?_⟩
      obtain ⟨rfl,rfl⟩ := List.cons.inj (cut.symm.trans split_)
      have entered : spaced false (c :: rest) = ' ' :: spaced true rest := by simp [spaced,space]
      rw [entered,rdropSpace (by decide),inside]
      generalize own : (parts rest).filter (fun v => !v.isEmpty) = ws
      have all : ∀ w ∈ ws, Word w := fun w member => gathered (by rw [own]; exact member)
      simp only [joinedBlank all]
      cases ws with
      | nil => rfl
      | cons v ws => rfl
    | false =>
      obtain ⟨w,later,whole⟩ := partsSome rest
      have cut := partsLetter space whole
      have kept : ∀ run, (spaced run (c :: rest)).rdropWhile Json.isSpace = c :: (spaced false rest).rdropWhile Json.isSpace := by
        intro run
        rw [← rdropLetter space]
        simp [spaced,space]
      rw [kept,kept,outside w later whole,cut]
      refine ⟨rfl,fun v others split_ => ?_⟩
      cases split_
      rfl

theorem dropSpaced (text : List Char) (run : Bool) :
    (spaced run text).dropWhile Json.isSpace = spaced true text := by
  induction text generalizing run with
  | nil => rfl
  | cons c rest ih =>
    cases space : Json.isSpace c with
    | true =>
      have blank : Json.isSpace ' ' = true := by decide
      cases run with
      | true => simpa [spaced,space] using ih true
      | false => simpa [spaced,space,blank] using ih true
    | false => simp [spaced,space]

theorem spacedWords (text : List Char) :
    RuleEngine.strip (String.ofList (spaced false text)) = joined (words (String.ofList text)) := by
  have strips : ∀ t : String, RuleEngine.strip t = (t.toList.dropWhile Json.isSpace).rdropWhile Json.isSpace := fun _ => rfl
  rw [strips,String.toList_ofList,dropSpaced,(spacedParts text).1,words,String.toList_ofList]

theorem foldWords (u : Spelling) (text : String) :
    fold u text = String.ofList (joined (words (String.ofList ((left u text).flatMap u.casefold)))) := by
  unfold fold
  split
  · rename_i empty
    rw [empty,left,u.plain "" (fun c member => by cases member)]
    rfl
  · exact congrArg String.ofList (spacedWords _)

theorem partsCase {u : Spelling} (laws : Apart u) (text : List Char) :
    parts (text.flatMap u.casefold) = (parts text).map (fun w => w.flatMap u.casefold) := by
  induction text with
  | nil => rfl
  | cons c rest ih =>
    rw [List.flatMap_cons]
    cases space : Json.isSpace c with
    | true =>
      rw [laws.caseSpace c space,List.singleton_append,parts,if_pos space,parts,if_pos space,ih]
      rfl
    | false =>
      obtain ⟨w,later,whole⟩ := partsSome rest
      rw [whole,List.map_cons] at ih
      rw [partsFront (laws.caseWord c space).2 ih,partsLetter space whole]
      rfl

theorem wordsCase {u : Spelling} (laws : Apart u) (text : List Char) :
    words (String.ofList (text.flatMap u.casefold)) = (words (String.ofList text)).map (fun w => w.flatMap u.casefold) := by
  have empty : ∀ w ∈ parts text, (w.flatMap u.casefold).isEmpty = w.isEmpty := by
    intro w inside
    cases w with
    | nil => rfl
    | cons c w =>
      obtain ⟨d,made,first⟩ := List.exists_cons_of_ne_nil (laws.caseWord c (partsSolid inside c (List.mem_cons_self ..))).1
      rw [List.flatMap_cons,first]
      rfl
  rw [words,words,String.toList_ofList,String.toList_ofList,partsCase laws,List.filter_map]
  refine congrArg _ (List.filter_congr (fun w inside => ?_))
  rw [Function.comp_apply,empty w inside]

theorem leftUntouched (u : Spelling) (text : String) : ∀ c ∈ left u text, Untouched c := by
  intro c member
  obtain ⟨made,unmarked⟩ := List.mem_filter.mp member
  obtain ⟨d,_,own⟩ := List.mem_flatMap.mp made
  refine ⟨?_,by simpa using unmarked⟩
  obtain gone | kept | ⟨k,listed,other⟩ := respelledCases d
  · rw [gone] at own
    cases own
  · rw [kept] at own
    obtain rfl := List.mem_singleton.mp own
    obtain same | ⟨k,small,ascii⟩ := digitCases d
    · rw [same] at kept ⊢
      exact kept
    · have digits : ∀ k < 10, respelled (Char.ofNat (k + 0x30)) = [Char.ofNat (k + 0x30)] := by decide
      rw [ascii]
      exact digits k small
  · have letters : ∀ k ∈ [0x06CC,0x06A9,0x0627,0x0647,0x0648,0x20], respelled (Char.ofNat k) = [Char.ofNat k] := by decide
    rw [other] at own
    rw [List.mem_singleton.mp own]
    exact letters k listed

theorem flatMapOwn {f : Char → List Char} {text : List Char} (own : ∀ c ∈ text, f c = [c]) : text.flatMap f = text := by
  induction text with
  | nil => rfl
  | cons c rest ih =>
    rw [List.flatMap_cons,own c (List.mem_cons_self ..),ih (fun d member => own d (List.mem_cons_of_mem c member))]
    rfl

theorem nfcJoined {u : Spelling} (laws : Apart u) (ws : List (List Char)) :
    (u.nfc (String.ofList (joined ws))).toList = joined (ws.map (fun w => (u.nfc (String.ofList w)).toList)) := by
  cases ws with
  | nil =>
    have empty := u.plain "" (fun c member => by cases member)
    exact congrArg String.toList empty
  | cons w later =>
    induction later generalizing w with
    | nil => simp [joined]
    | cons v later ih =>
      have cut : String.ofList (joined (w :: v :: later)) = String.ofList w ++ " " ++ String.ofList (joined (v :: later)) := by
        refine String.toList_inj.mp ?_
        simp [joinedCons]
      rw [cut,laws.boundary,String.toList_append,String.toList_append,ih v]
      simp [joinedCons]

theorem composedWord {u : Spelling} (laws : Apart u) {w : List Char} (word : Word w) (own : ∀ c ∈ w, Untouched c) :
    Word (u.nfc (String.ofList w)).toList ∧ ∀ c ∈ (u.nfc (String.ofList w)).toList, Untouched c := by
  have kept := laws.composed (String.ofList w) (fun c member => by
    rw [String.toList_ofList] at member
    exact ⟨own c member,word.2 c member⟩)
  refine ⟨⟨fun gone => word.1 ?_,fun c member => (kept c member).2⟩,fun c member => (kept c member).1⟩
  have empty := laws.filled (String.ofList w) (String.toList_inj.mp gone)
  have none_ := congrArg String.toList empty
  rwa [String.toList_ofList] at none_

theorem recasedWord {u : Spelling} (laws : Apart u) {w : List Char} (word : Word w) (own : ∀ c ∈ w, Untouched c) :
    Word (recased u w) := by
  obtain ⟨⟨some_,solid⟩,_⟩ := composedWord laws word own
  unfold recased
  refine ⟨fun gone => ?_,fun c member => ?_⟩
  · obtain ⟨c,rest,first⟩ := List.exists_cons_of_ne_nil some_
    rw [first] at gone solid
    exact (laws.caseWord c (solid c (List.mem_cons_self ..))).1 (List.append_eq_nil_iff.mp gone).1
  · obtain ⟨d,inside,made⟩ := List.mem_flatMap.mp member
    exact (laws.caseWord d (solid d inside)).2 c made

-- The second pass goes word by word.
theorem foldJoined {u : Spelling} (laws : Apart u) {ws : List (List Char)} (all : ∀ w ∈ ws, Word w ∧ ∀ c ∈ w, Untouched c) :
    fold u (String.ofList (joined ws)) = String.ofList (joined (ws.map (recased u))) := by
  have stands : ∀ c ∈ (u.nfc (String.ofList (joined ws))).toList, Untouched c := by
    intro c member
    rw [nfcJoined laws] at member
    obtain rfl | ⟨v,inside,own⟩ := memJoined member
    · exact ⟨by decide,by decide⟩
    · obtain ⟨w,there,rfl⟩ := List.mem_map.mp inside
      exact (composedWord laws (all w there).1 (all w there).2).2 c own
  have same : left u (String.ofList (joined ws)) = joined (ws.map (fun w => (u.nfc (String.ofList w)).toList)) := by
    rw [left,flatMapOwn (fun c member => (stands c member).1),List.filter_eq_self.mpr,nfcJoined laws]
    intro c member
    rw [(stands c member).2]
    rfl
  have back : ∀ v ∈ ws.map (recased u), Word v := by
    intro v member
    obtain ⟨w,there,rfl⟩ := List.mem_map.mp member
    exact recasedWord laws (all w there).1 (all w there).2
  rw [foldWords,same,joinedMap (laws.caseSpace ' ' (by decide)),List.map_map]
  exact congrArg (fun vs => String.ofList (joined vs)) (wordsJoined back)

/- Folding twice is folding once exactly when every word the tables leave of the normalised
text has a case folding that composing and folding again give back. -/
theorem foldAgain (u : Spelling) (laws : Apart u) (text : String) :
    fold u (fold u text) = fold u text ↔
      ∀ w ∈ words (String.ofList (left u text)), recased u (w.flatMap u.casefold) = w.flatMap u.casefold := by
  have all : ∀ v ∈ words (String.ofList ((left u text).flatMap u.casefold)), Word v ∧ ∀ c ∈ v, Untouched c := by
    intro v member
    refine ⟨wordsWord member,fun c own => ?_⟩
    have inside := wordsPart member c own
    rw [String.toList_ofList] at inside
    obtain ⟨d,kept,made⟩ := List.mem_flatMap.mp inside
    exact laws.caseUntouched d (leftUntouched u text d kept) c made
  have injective : ∀ {vs ws : List (List Char)}, (∀ v ∈ vs, Word v) → (∀ w ∈ ws, Word w) →
      String.ofList (joined vs) = String.ofList (joined ws) → vs = ws := by
    intro vs ws left_ right_ same
    rw [← wordsJoined left_,same,wordsJoined right_]
  rw [foldWords u text,foldJoined laws all,wordsCase laws]
  rw [wordsCase laws] at all
  constructor
  · intro same w member
    have maps := injective (fun v made => by
      obtain ⟨x,inside,rfl⟩ := List.mem_map.mp made
      exact recasedWord laws (all x inside).1 (all x inside).2) (fun x inside => (all x inside).1) same
    rw [List.map_map] at maps
    exact List.map_inj_left.mp maps w member
  · intro settled
    rw [List.map_map]
    exact congrArg (fun vs => String.ofList (joined vs)) (List.map_congr_left settled)

/- Characters that neither compose nor come apart, and whose case folding is final. -/
structure Inert (u : Spelling) (Plain : Char → Prop) : Prop where
  composed : ∀ text : String, (∀ c ∈ text.toList, Plain c) → u.nfc text = text
  respelled : ∀ c, Plain c → ∀ d ∈ respelled c, Plain d
  folded : ∀ c, Plain c → ∀ d ∈ u.casefold c, Plain d ∧ u.casefold d = [d]

/- A text of such characters alone is folded for good, whatever is deleted from it. -/
theorem inertSettles {u : Spelling} {Plain : Char → Prop} (inert : Inert u Plain) {text : String}
    (plain : ∀ c ∈ text.toList, Plain c) :
    ∀ w ∈ words (String.ofList (left u text)), recased u (w.flatMap u.casefold) = w.flatMap u.casefold := by
  intro w member
  have kept : ∀ c ∈ w, Plain c := by
    intro c own
    have inside := wordsPart member c own
    rw [String.toList_ofList,left,inert.composed text plain] at inside
    obtain ⟨d,here,made⟩ := List.mem_flatMap.mp (List.mem_of_mem_filter inside)
    exact inert.respelled d (plain d here) c made
  have final : ∀ c ∈ w.flatMap u.casefold, Plain c ∧ u.casefold c = [c] := by
    intro c own
    obtain ⟨d,here,made⟩ := List.mem_flatMap.mp own
    exact inert.folded d (kept d here) c made
  rw [recased,inert.composed _ (fun c own => (final c (by simpa using own)).1),String.toList_ofList,
    List.flatMap_congr (fun c own => (final c own).2),List.flatMap_singleton']

/- The one composition `e` + U+0301 = `é`, read from the left, in an alphabet without
capitals. -/
def Example.compose : List Char → List Char
  | c :: d :: rest =>
    if c = 'e' ∧ d = Char.ofNat 0x301 then Char.ofNat 0xE9 :: compose rest else c :: compose (d :: rest)
  | text => text

def Example.Uncomposed (c d : Char) : Prop := ¬ (c = 'e' ∧ d = Char.ofNat 0x301)

open Moadian.Persian.Example in
theorem composeSame {text : List Char} (stays : List.IsChain Uncomposed text) : compose text = text := by
  fun_induction compose text with
  | case1 c d rest pair ih => exact absurd pair (List.isChain_cons_cons.mp stays).1
  | case2 c d rest other ih => rw [ih (List.isChain_cons_cons.mp stays).2]
  | case3 text short => rfl

open Moadian.Persian.Example in
theorem composeChain (text : List Char) :
    List.IsChain Uncomposed (compose text) ∧ ∀ c ∈ (compose text).head?, c = Char.ofNat 0xE9 ∨ c ∈ text.head? := by
  fun_induction compose text with
  | case1 c d rest pair ih =>
    refine ⟨List.isChain_cons.mpr ⟨fun x _ => ?_,ih.1⟩,fun x first => .inl (Option.mem_some.mp first).symm⟩
    exact fun both => absurd both.1 (by decide)
  | case2 c d rest other ih =>
    refine ⟨List.isChain_cons.mpr ⟨fun x first => ?_,ih.1⟩,fun x first => .inr first⟩
    obtain rfl | own := ih.2 x first
    · exact fun both => absurd both.2 (by decide)
    · rw [← Option.mem_some.mp own]
      exact other
  | case3 text short =>
    refine ⟨?_,fun x first => .inr first⟩
    cases text with
    | nil => exact List.isChain_nil
    | cons c rest =>
      cases rest with
      | nil => exact List.isChain_singleton c
      | cons d rest => exact absurd rfl (short c d rest)

open Moadian.Persian.Example in
theorem composeTwice (text : List Char) : compose (compose text) = compose text := composeSame (composeChain text).1

open Moadian.Persian.Example in
theorem memCompose {text : List Char} {c : Char} (member : c ∈ compose text) : c = Char.ofNat 0xE9 ∨ c ∈ text := by
  fun_induction compose text with
  | case1 d x rest pair ih =>
    obtain here | there := List.mem_cons.mp member
    · exact .inl here
    · exact (ih there).imp_right (fun own => List.mem_cons_of_mem d (List.mem_cons_of_mem x own))
  | case2 d x rest other ih =>
    obtain rfl | there := List.mem_cons.mp member
    · exact .inr (List.mem_cons_self ..)
    · exact (ih there).imp_right (fun own => List.mem_cons_of_mem d own)
  | case3 text short => exact .inr member

open Moadian.Persian.Example in
theorem composeSpace (before after : List Char) :
    compose (before ++ ' ' :: after) = compose before ++ ' ' :: compose after := by
  have space : compose (' ' :: after) = ' ' :: compose after := by
    cases after with
    | nil => rfl
    | cons d rest => exact if_neg (fun both => absurd both.1 (by decide))
  fun_induction compose before with
  | case1 c d rest pair ih =>
    rw [List.cons_append,List.cons_append,compose,if_pos pair,ih]
    rfl
  | case2 c d rest other ih =>
    rw [List.cons_append,List.cons_append,compose,if_neg other]
    exact congrArg (List.cons c) ih
  | case3 text short =>
    cases text with
    | nil => exact space
    | cons c rest =>
      cases rest with
      | nil =>
        rw [List.singleton_append,compose,if_neg (fun both => absurd both.2 (by decide)),space]
        rfl
      | cons d rest => exact absurd rfl (short c d rest)

open Moadian.Persian.Example in
theorem composeText {text : String} (same : String.ofList (compose text.toList) = text) :
    List.IsChain Uncomposed text.toList := by
  have stays := congrArg String.toList same
  rw [String.toList_ofList] at stays
  rw [← stays]
  exact (composeChain text.toList).1

open Moadian.Persian.Example in
theorem translatedChain {text : String} (stays : List.IsChain Uncomposed text.toList) :
    List.IsChain Uncomposed (translated text).toList := by
  have digits : List.IsChain Uncomposed (text.toList.map digit) :=
    List.isChain_map_of_isChain digit (fun c d other both => other
      ⟨digitOther both.1 (by decide),digitOther both.2 (by decide)⟩) stays
  have strips : ∀ t : String, RuleEngine.strip t = (t.toList.dropWhile Json.isSpace).rdropWhile Json.isSpace := fun _ => rfl
  rw [translated,String.toList_ofList,strips,String.toList_ofList]
  rw [← List.takeWhile_append_dropWhile (p := Json.isSpace) (l := text.toList.map digit)] at digits
  have inner := digits.right_of_append
  rw [← List.rdropWhile_append_rtakeWhile (p := Json.isSpace) (l := (text.toList.map digit).dropWhile Json.isSpace)] at inner
  exact inner.left_of_append

open Moadian.Persian.Example in
theorem absentChain {text : List Char} (absent : ∀ c ∈ text, c ≠ Char.ofNat 0x301) : List.IsChain Uncomposed text := by
  induction text with
  | nil => exact .nil
  | cons c rest ih =>
    refine List.isChain_cons.mpr ⟨fun d first both => ?_,ih (fun d member => absent d (List.mem_cons_of_mem c member))⟩
    exact absent d (List.mem_cons_of_mem c (List.mem_of_mem_head? first)) both.2

theorem asciiAbsent {c : Char} (ascii : c.toNat < 128) : c ≠ Char.ofNat 0x301 := by
  rintro rfl
  exact absurd ascii (by decide)

theorem aloneNul (c : Char) (other : c ≠ Char.ofNat 0) : Char.ofNat 0 ∉ [c] := by
  rw [List.mem_singleton]
  exact Ne.symm other

theorem aloneLetter (c : Char) (letter : Json.isSpace c = false) : ∃ d ∈ [c], Json.isSpace d = false :=
  ⟨c,List.mem_singleton_self c,letter⟩

open Moadian.Persian.Example in
def Example.acute : Spelling where
  nfc := fun text => String.ofList (compose text.toList)
  twice := fun text => by rw [String.toList_ofList,composeTwice]
  parts := fun text same => by rw [composeSame (translatedChain (composeText same)),String.ofList_toList]
  casefold := fun c => [c]
  plain := fun text ascii => by rw [composeSame (absentChain (fun c own => asciiAbsent (ascii c own))),String.ofList_toList]
  nfcNul := fun text absent member => by
    rw [String.toList_ofList] at member
    obtain accent | own := memCompose member
    · exact absurd accent (by decide)
    · exact absent own
  casefoldNul := aloneNul
  letters := aloneLetter

theorem acuteApart : Apart Example.acute where
  boundary := fun before after => by
    refine String.toList_inj.mp ?_
    have space : " ".toList = [' '] := rfl
    simpa [Example.acute,space] using composeSpace before.toList after.toList
  filled := fun text gone => by
    have empty := congrArg String.toList gone
    simp only [Example.acute,String.toList_ofList] at empty
    refine String.toList_inj.mp ?_
    revert empty
    fun_induction Example.compose text.toList with
    | case1 c d rest pair ih => exact fun never => by cases never
    | case2 c d rest other ih => exact fun never => by cases never
    | case3 text short => exact id
  composed := fun text own c member => by
    simp only [Example.acute,String.toList_ofList] at member
    obtain rfl | there := memCompose member
    · exact ⟨⟨by decide,by decide⟩,by decide⟩
    · exact own c there
  caseUntouched := fun c own d member => by rwa [List.mem_singleton.mp member]
  caseWord := fun c letter => ⟨List.cons_ne_nil c [],fun d member => by rwa [List.mem_singleton.mp member]⟩
  caseSpace := fun _ _ => rfl

-- `e`, a tatweel and U+0301: the tatweel gone, the second pass composes what is left.
def Example.parted : String := String.ofList ['e',Char.ofNat 0x640,Char.ofNat 0x301]

theorem foldParted : ¬ ∀ text, fold Example.acute (fold Example.acute text) = fold Example.acute text := by
  intro all
  exact absurd (all Example.parted) (by decide +kernel)

-- Without the mark nothing composes, a tatweel in it or not.
theorem acuteInert : Inert Example.acute (fun c => c ≠ Char.ofNat 0x301) where
  composed := fun text plain => by
    refine String.toList_inj.mp ?_
    rw [Example.acute,String.toList_ofList,composeSame (absentChain plain)]
  respelled := fun c plain d made => by
    rintro rfl
    exact plain (respelledOther made (by decide) (by decide))
  folded := fun c plain d own => by
    rw [List.mem_singleton.mp own]
    exact ⟨plain,rfl⟩

def Example.stretched : String := String.ofList ['c','a','f',Char.ofNat 0xE9,Char.ofNat 0x640,Char.ofNat 0x640,' ',Char.ofNat 0x06F1]

theorem foldAgainStretched : fold Example.acute (fold Example.acute Example.stretched) = fold Example.acute Example.stretched :=
  (foldAgain Example.acute acuteApart Example.stretched).mpr (inertSettles acuteInert (by simp [Example.stretched]))

end Moadian.Persian
