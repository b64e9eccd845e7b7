import Moadian.Config.Profile
import Moadian.Persian

/-! `fold`: one spelling for text that is to be indexed or searched, and the words
`str.split()` makes of it. -/
namespace Moadian.Persian

/- What is relied on of `unicodedata.normalize` and `str.casefold`, which folds one
character at a time: neither makes a NUL, ASCII is composed already, and no character
that is not white space becomes nothing but white space. -/
structure Spelling extends Unicode where
  casefold : Char → List Char
  plain : ∀ text : String, (∀ c ∈ text.toList, c.toNat < 128) → nfc text = text
  nfcNul : ∀ text : String, Char.ofNat 0 ∉ text.toList → Char.ofNat 0 ∉ (nfc text).toList
  casefoldNul : ∀ c, c ≠ Char.ofNat 0 → Char.ofNat 0 ∉ casefold c
  letters : ∀ c, Json.isSpace c = false → ∃ d ∈ casefold c, Json.isSpace d = false

def respelled (c : Char) : List Char :=
  let n := c.toNat
  if n = 0x064A ∨ n = 0x0649 ∨ n = 0x06D2 ∨ n = 0x0626 then [Char.ofNat 0x06CC]
  else if n = 0x0643 then [Char.ofNat 0x06A9]
  else if n = 0x0622 ∨ n = 0x0623 ∨ n = 0x0625 ∨ n = 0x0671 then [Char.ofNat 0x0627]
  else if n = 0x0629 then [Char.ofNat 0x0647]
  else if n = 0x0624 then [Char.ofNat 0x0648]
  else if 0x200C ≤ n ∧ n ≤ 0x200F then [' ']
  else if n = 0x0640 then []
  else [digit c]

def mark (c : Char) : Bool := (0x064B ≤ c.toNat && c.toNat ≤ 0x0655) || c.toNat == 0x0670

-- `_WHITESPACE.sub(" ", …)`: `inside` a run, its space is written.
def spaced : Bool → List Char → List Char
  | _,[] => []
  | inside,c :: rest =>
    if Json.isSpace c then (if inside then spaced true rest else ' ' :: spaced true rest)
    else c :: spaced false rest

def fold (u : Spelling) (text : String) : String :=
  if text = "" then ""
  else
    let text := (u.nfc text).toList.flatMap respelled
    let text := text.filter (fun c => !mark c)
    let text := text.flatMap u.casefold
    String.ofList (RuleEngine.strip (String.ofList (spaced false text)))

def parts : List Char → List (List Char)
  | [] => [[]]
  | c :: rest =>
    if Json.isSpace c then [] :: parts rest
    else match parts rest with
      | [] => [[c]]
      | word :: later => (c :: word) :: later

def words (text : String) : List (List Char) := (parts text.toList).filter (fun w => !w.isEmpty)

def isDigits (u : Spelling) (text : String) : Bool :=
  Config.allDigits (String.ofList ((foldDigits u.toUnicode text).toList.filter (fun c => c ≠ ' ')))

theorem partsMem {text : List Char} {c : Char} (letter : Json.isSpace c = false) (member : c ∈ text) :
    ∃ w ∈ parts text, c ∈ w := by
  induction text with
  | nil => cases member
  | cons d rest ih =>
    unfold parts
    split
    · rename_i space
      obtain rfl | later := List.mem_cons.mp member
      · rw [letter] at space; cases space
      · obtain ⟨w,inside,own⟩ := ih later
        exact ⟨w,List.mem_cons_of_mem _ inside,own⟩
    · split
      · rename_i bare
        obtain rfl | later := List.mem_cons.mp member
        · exact ⟨[c],by simp,by simp⟩
        · obtain ⟨w,inside,_⟩ := ih later
          rw [bare] at inside
          cases inside
      · rename_i word later whole
        obtain rfl | there := List.mem_cons.mp member
        · exact ⟨c :: word,by simp,by simp⟩
        · obtain ⟨w,inside,own⟩ := ih there
          rw [whole] at inside
          obtain rfl | other := List.mem_cons.mp inside
          · exact ⟨d :: w,by simp,List.mem_cons_of_mem d own⟩
          · exact ⟨w,List.mem_cons_of_mem _ other,own⟩

theorem partsPart {text w : List Char} (inside : w ∈ parts text) : ∀ c ∈ w, c ∈ text := by
  induction text generalizing w with
  | nil =>
    rw [List.mem_singleton.mp inside]
    intro c member
    cases member
  | cons d rest ih =>
    unfold parts at inside
    split at inside
    · obtain rfl | later := List.mem_cons.mp inside
      · intro c member
        cases member
      · exact fun c member => List.mem_cons_of_mem d (ih later c member)
    · split at inside
      · rw [List.mem_singleton.mp inside]
        intro c member
        rw [List.mem_singleton.mp member]
        exact List.mem_cons_self ..
      · rename_i word later whole
        obtain rfl | other := List.mem_cons.mp inside
        · intro c member
          obtain rfl | own := List.mem_cons.mp member
          · exact List.mem_cons_self ..
          · exact List.mem_cons_of_mem d (ih (by rw [whole]; exact List.mem_cons_self ..) c own)
        · exact fun c member => List.mem_cons_of_mem d (ih (by rw [whole]; exact List.mem_cons_of_mem _ other) c member)

theorem wordsSome {text : String} {c : Char} (letter : Json.isSpace c = false) (member : c ∈ text.toList) :
    words text ≠ [] := by
  obtain ⟨w,inside,own⟩ := partsMem letter member
  exact List.ne_nil_of_mem (List.mem_filter.mpr ⟨inside,by cases w with
    | nil => cases own
    | cons d w => rfl⟩)

theorem wordsPart {text : String} {w : List Char} (inside : w ∈ words text) : ∀ c ∈ w, c ∈ text.toList :=
  partsPart (List.mem_filter.mp inside).1

theorem memSpaced {text : List Char} {c : Char} (letter : Json.isSpace c = false) (member : c ∈ text) (inside : Bool) :
    c ∈ spaced inside text := by
  induction text generalizing inside with
  | nil => cases member
  | cons d rest ih =>
    unfold spaced
    obtain rfl | later := List.mem_cons.mp member
    · rw [letter]
      exact List.mem_cons_self ..
    · split
      · split
        · exact ih later true
        · exact List.mem_cons_of_mem _ (ih later true)
      · exact List.mem_cons_of_mem _ (ih later false)

theorem spacedPart {text : List Char} {inside : Bool} {c : Char} (member : c ∈ spaced inside text) : c = ' ' ∨ c ∈ text := by
  induction text generalizing inside with
  | nil => cases member
  | cons d rest ih =>
    have later : ∀ {b}, c ∈ spaced b rest → c = ' ' ∨ c ∈ d :: rest := by
      intro b there
      obtain space | own := ih there
      · exact .inl space
      · exact .inr (List.mem_cons_of_mem d own)
    unfold spaced at member
    split at member
    · split at member
      · exact later member
      · obtain space | there := List.mem_cons.mp member
        · exact .inl space
        · exact later there
    · obtain rfl | there := List.mem_cons.mp member
      · exact .inr (List.mem_cons_self ..)
      · exact later there

theorem memDropWhile {p : Char → Bool} {text : List Char} {c : Char} (other : p c = false) (member : c ∈ text) :
    c ∈ text.dropWhile p := by
  induction text with
  | nil => cases member
  | cons d rest ih =>
    obtain rfl | later := List.mem_cons.mp member
    · rw [List.dropWhile_cons_of_neg (by rw [other]; exact Bool.false_ne_true)]
      exact List.mem_cons_self ..
    · rw [List.dropWhile_cons]
      split
      · exact ih later
      · exact member

theorem memStrip {text : String} {c : Char} (letter : Json.isSpace c = false) (member : c ∈ text.toList) :
    c ∈ RuleEngine.strip text :=
  List.mem_reverse.mpr (memDropWhile letter (List.mem_reverse.mpr (memDropWhile letter member)))

theorem noDigit (low high : Nat) (apart : Config.digitRanges.all (fun r => r.2 < low || high < r.1) = true) {c : Char}
    (between : low ≤ c.toNat ∧ c.toNat ≤ high) : Config.isDigit c = false := by
  refine List.any_eq_false.mpr (fun r member inside => ?_)
  have beside := List.all_eq_true.mp apart r member
  simp only [Bool.or_eq_true,Bool.and_eq_true,decide_eq_true_eq] at beside inside
  omega

theorem digitMark {c : Char} (own : Config.isDigit c = true) : mark c = false := by
  cases marked : mark c with
  | false => rfl
  | true =>
    simp only [mark,Bool.or_eq_true,Bool.and_eq_true,decide_eq_true_eq,beq_iff_eq] at marked
    obtain between | same := marked
    · rw [noDigit 0x064B 0x0655 (by decide) between] at own
      cases own
    · rw [noDigit 0x0670 0x0670 (by decide) (by omega)] at own
      cases own

theorem digitLetter {c : Char} (own : Config.isDigit c = true) : Json.isSpace c = false := by
  cases space : Json.isSpace c with
  | false => rfl
  | true =>
    exfalso
    simp only [Json.isSpace,Bool.or_eq_true,Bool.and_eq_true,decide_eq_true_eq,beq_iff_eq] at space
    have low : ¬ c.toNat ≤ 0x2F := fun small => by
      rw [noDigit 0 0x2F (by decide) ⟨Nat.zero_le _,small⟩] at own
      cases own
    have latin : ¬ (0x80 ≤ c.toNat ∧ c.toNat ≤ 0xA0) := fun between => by
      rw [noDigit 0x80 0xA0 (by decide) between] at own
      cases own
    have ogham : ¬ (0x1680 ≤ c.toNat ∧ c.toNat ≤ 0x1680) := fun between => by
      rw [noDigit 0x1680 0x1680 (by decide) between] at own
      cases own
    have general : ¬ (0x2000 ≤ c.toNat ∧ c.toNat ≤ 0x205F) := fun between => by
      rw [noDigit 0x2000 0x205F (by decide) between] at own
      cases own
    have ideographic : ¬ (0x3000 ≤ c.toNat ∧ c.toNat ≤ 0x3000) := fun between => by
      rw [noDigit 0x3000 0x3000 (by decide) between] at own
      cases own
    omega

theorem digitSame {c : Char} (other : ¬ (0x0660 ≤ c.toNat ∧ c.toNat ≤ 0x0669)) (other' : ¬ (0x06F0 ≤ c.toNat ∧ c.toNat ≤ 0x06F9)) :
    digit c = c := by
  unfold digit
  rw [if_neg other',if_neg other]

theorem digitRespelled {c : Char} (own : Config.isDigit (digit c) = true) : respelled c = [digit c] := by
  have apart : ∀ low high, ¬ (low ≤ 0x0669 ∧ 0x0660 ≤ high) → ¬ (low ≤ 0x06F9 ∧ 0x06F0 ≤ high) →
      Config.digitRanges.all (fun r => r.2 < low || high < r.1) = true → ¬ (low ≤ c.toNat ∧ c.toNat ≤ high) := by
    intro low high left right all between
    rw [digitSame (by omega) (by omega),noDigit low high all between] at own
    cases own
  have alefs := apart 0x0622 0x064A (by decide) (by decide) (by decide)
  have wasla := apart 0x0671 0x0671 (by decide) (by decide) (by decide)
  have barree := apart 0x06D2 0x06D2 (by decide) (by decide) (by decide)
  have joiners := apart 0x200C 0x200F (by decide) (by decide) (by decide)
  unfold respelled
  rw [if_neg (by omega),if_neg (by omega),if_neg (by omega),if_neg (by omega),if_neg (by omega),if_neg (by omega),
    if_neg (by omega)]

theorem respelledCases (c : Char) : respelled c = [] ∨ respelled c = [digit c] ∨
    ∃ k ∈ [0x06CC,0x06A9,0x0627,0x0647,0x0648,0x20], respelled c = [Char.ofNat k] := by
  unfold respelled
  dsimp only
  split_ifs
  · exact .inr (.inr ⟨0x06CC,by decide,rfl⟩)
  · exact .inr (.inr ⟨0x06A9,by decide,rfl⟩)
  · exact .inr (.inr ⟨0x0627,by decide,rfl⟩)
  · exact .inr (.inr ⟨0x0647,by decide,rfl⟩)
  · exact .inr (.inr ⟨0x0648,by decide,rfl⟩)
  · exact .inr (.inr ⟨0x20,by decide,rfl⟩)
  · exact .inl rfl
  · exact .inr (.inl rfl)

theorem digitOther {c d : Char} (same : digit c = d) (other : ∀ k < 10, Char.ofNat (k + 0x30) ≠ d) : c = d := by
  obtain own | ⟨k,small,ascii⟩ := digitCases c
  · exact own.symm.trans same
  · exact absurd (ascii.symm.trans same) (other k small)

theorem respelledOther {c d : Char} (made : d ∈ respelled c) (ascii : ∀ k < 10, Char.ofNat (k + 0x30) ≠ d)
    (letters : ∀ k ∈ [0x06CC,0x06A9,0x0627,0x0647,0x0648,0x20], Char.ofNat k ≠ d) : c = d := by
  obtain gone | kept | ⟨k,listed,other⟩ := respelledCases c
  · rw [gone] at made
    cases made
  · rw [kept] at made
    exact digitOther (List.mem_singleton.mp made).symm ascii
  · rw [other] at made
    exact absurd (List.mem_singleton.mp made).symm (letters k listed)

theorem foldNul (u : Spelling) {text : String} (absent : Char.ofNat 0 ∉ text.toList) :
    Char.ofNat 0 ∉ (fold u text).toList := by
  unfold fold
  split
  · intro member
    cases member
  · intro member
    rw [String.toList_ofList] at member
    have there := stripPart _ _ member
    rw [String.toList_ofList] at there
    obtain space | folded := spacedPart there
    · exact absurd space (by decide)
    · obtain ⟨c,kept,own⟩ := List.mem_flatMap.mp folded
      have same : c = Char.ofNat 0 := by
        by_contra other
        exact u.casefoldNul c other own
      obtain ⟨d,inside,made⟩ := List.mem_flatMap.mp (List.mem_filter.mp kept).1
      rw [same] at made
      exact u.nfcNul text absent (respelledOther made (by decide) (by decide) ▸ inside)

theorem digitsFold (u : Spelling) {text : String} (number : isDigits u text = true) : words (fold u text) ≠ [] := by
  unfold isDigits Config.allDigits at number
  rw [Bool.and_eq_true,decide_eq_true_eq,String.toList_ofList] at number
  obtain ⟨some_,all⟩ := number
  obtain ⟨d,kept⟩ := List.exists_mem_of_ne_nil _ some_
  have own := List.all_eq_true.mp all d kept
  have member := (List.mem_filter.mp kept).1
  unfold foldDigits at member
  split at member
  · cases member
  · rename_i filled
    rw [translated,String.toList_ofList] at member
    have there := stripPart _ _ member
    rw [String.toList_ofList] at there
    obtain ⟨c,inside,rfl⟩ := List.mem_map.mp there
    obtain ⟨l,made,letter⟩ := u.letters (digit c) (digitLetter own)
    refine wordsSome letter ?_
    rw [fold,if_neg filled,String.toList_ofList]
    refine memStrip letter ?_
    rw [String.toList_ofList]
    refine memSpaced letter (List.mem_flatMap.mpr ⟨digit c,List.mem_filter.mpr ⟨?_,?_⟩,made⟩) false
    · exact List.mem_flatMap.mpr ⟨c,inside,by rw [digitRespelled own]; exact List.mem_singleton_self _⟩
    · rw [digitMark own]
      rfl

theorem idTwice (text : String) : id (id text) = id text := rfl

theorem idParts (text : String) (_ : id text = text) : id (translated text) = translated text := rfl

def Example.verbatim : Spelling where
  nfc := id
  twice := idTwice
  parts := idParts
  casefold := fun c => [c]
  plain := fun _ _ => rfl
  nfcNul := fun _ absent => absent
  casefoldNul := fun c other => by simpa using Ne.symm other
  letters := fun c letter => ⟨c,by simp,letter⟩

end Moadian.Persian
