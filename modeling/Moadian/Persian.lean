import Mathlib.Data.List.DropRight
import Moadian.Rules.Engine

/-! Persian and Arabic-Indic digits onto ASCII. What `unicodedata.normalize` does to a
text is a parameter: a text it leaves alone is left alone with its digits folded and its
ends stripped, since no digit composes and every part of a composed text is composed. -/

namespace Moadian.Persian

def digit (c : Char) : Char :=
  if 0x06F0 ≤ c.toNat ∧ c.toNat ≤ 0x06F9 then Char.ofNat (c.toNat - 0x06F0 + 0x30)
  else if 0x0660 ≤ c.toNat ∧ c.toNat ≤ 0x0669 then Char.ofNat (c.toNat - 0x0660 + 0x30)
  else c

def translated (text : String) : String := String.ofList (RuleEngine.strip (String.ofList (text.toList.map digit)))

structure Unicode where
  nfc : String → String
  twice : ∀ text, nfc (nfc text) = nfc text
  parts : ∀ text, nfc text = text → nfc (translated text) = translated text

def foldDigits (u : Unicode) (text : String) : String := if text = "" then "" else translated (u.nfc text)

theorem digitCases (c : Char) : digit c = c ∨ ∃ k < 10, digit c = Char.ofNat (k + 0x30) := by
  unfold digit
  split
  · exact .inr ⟨_,by omega,rfl⟩
  · split
    · exact .inr ⟨_,by omega,rfl⟩
    · exact .inl rfl

theorem digitTwice (c : Char) : digit (digit c) = digit c := by
  have ascii : ∀ k < 10, digit (Char.ofNat (k + 0x30)) = Char.ofNat (k + 0x30) := by decide
  rcases digitCases c with same | ⟨k,small,same⟩
  · rw [same,same]
  · rw [same,ascii k small]

theorem stripTwice (text : String) : RuleEngine.strip (String.ofList (RuleEngine.strip text)) = RuleEngine.strip text := by
  have strips : ∀ t : String, RuleEngine.strip t = (t.toList.dropWhile Json.isSpace).rdropWhile Json.isSpace := fun _ => rfl
  have front : ((text.toList.dropWhile Json.isSpace).rdropWhile Json.isSpace).dropWhile Json.isSpace =
      (text.toList.dropWhile Json.isSpace).rdropWhile Json.isSpace := by
    generalize kept : text.toList.dropWhile Json.isSpace = xs
    have start := List.dropWhile_idempotent (p := Json.isSpace) (l := text.toList)
    rw [kept] at start
    rw [List.dropWhile_eq_self_iff] at start ⊢
    intro some_
    have initial := List.rdropWhile_prefix Json.isSpace xs
    have long : 0 < xs.length := Nat.lt_of_lt_of_le some_ initial.length_le
    have head := start long
    rwa [initial.getElem some_]
  rw [strips,strips,String.toList_ofList,front,List.rdropWhile_idempotent]

theorem stripPart (text : String) : ∀ c ∈ RuleEngine.strip text, c ∈ text.toList := by
  intro c member
  have inner := (List.dropWhile_sublist _).subset (List.mem_reverse.mp member)
  exact (List.dropWhile_sublist _).subset (List.mem_reverse.mp inner)

theorem translatedTwice (text : String) : translated (translated text) = translated text := by
  have folded : ∀ c ∈ RuleEngine.strip (String.ofList (text.toList.map digit)), digit c = c := by
    intro c member
    have there := stripPart _ c member
    rw [String.toList_ofList] at there
    obtain ⟨before,_,rfl⟩ := List.mem_map.mp there
    exact digitTwice before
  unfold translated
  rw [String.toList_ofList,List.map_congr_left folded,List.map_id',stripTwice]

theorem foldTwice (u : Unicode) (text : String) : foldDigits u (foldDigits u text) = foldDigits u text := by
  by_cases blank : text = ""
  · simp [foldDigits,blank]
  · have once : foldDigits u text = translated (u.nfc text) := if_neg blank
    rw [once]
    by_cases gone : translated (u.nfc text) = ""
    · rw [gone]
      rfl
    · rw [foldDigits,if_neg gone,u.parts _ (u.twice text),translatedTwice]

end Moadian.Persian
