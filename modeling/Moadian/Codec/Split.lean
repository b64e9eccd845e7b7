import Mathlib.Data.List.Basic

/-! `str.split(sep)` for a separator of one character: the parts between its
occurrences, empty ones included. -/
namespace Moadian.Codec

def split (sep : Char) : List Char → List (List Char)
  | [] => [[]]
  | c :: rest =>
    if c = sep then [] :: split sep rest
    else match split sep rest with
      | [] => [[c]]
      | part :: parts => (c :: part) :: parts

theorem splitNever {sep : Char} {text : List Char} (absent : sep ∉ text) : split sep text = [text] := by
  induction text with
  | nil => rfl
  | cons c rest ih =>
    obtain ⟨other,later⟩ := List.ne_and_not_mem_of_not_mem_cons absent
    rw [split,if_neg (Ne.symm other),ih later]

theorem splitAt {sep : Char} {part : List Char} (absent : sep ∉ part) (rest : List Char) :
    split sep (part ++ sep :: rest) = part :: split sep rest := by
  induction part with
  | nil => simp [split]
  | cons c part ih =>
    obtain ⟨other,later⟩ := List.ne_and_not_mem_of_not_mem_cons absent
    rw [List.cons_append,split,if_neg (Ne.symm other),ih later]

end Moadian.Codec
