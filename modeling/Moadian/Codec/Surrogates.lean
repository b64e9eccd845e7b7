import Moadian.Codec.Encoding

/-! A text of Python. It may hold lone surrogates, U+D800 and up, which UTF-8 has no
bytes for. -/
namespace Moadian.Codec

inductive PyChar where
  | scalar (c : Char)
  | surrogate (n : Fin 0x800)
  deriving DecidableEq, Repr

abbrev PyText := List PyChar

def PyChar.toChar : PyChar → Option Char
  | scalar c => some c
  | surrogate _ => none

def PyText.of (text : String) : PyText := text.toList.map .scalar

def PyText.strip (isSpace : Char → Bool) (text : PyText) : PyText :=
  let blank := fun (c : PyChar) => c.toChar.any isSpace
  ((text.dropWhile blank).reverse.dropWhile blank).reverse

-- The text of a `UnicodeEncodeError`: the first surrogate, or the first run of them.
def surrogatesText (text : PyText) : String :=
  let first := (text.takeWhile (fun c => c.toChar.isSome)).length
  let where_ := match (text.drop first).takeWhile (fun c => c.toChar.isNone) with
    | [.surrogate n] => "character '\\u" ++ String.ofList (Nat.toDigits 16 (0xD800 + n.val)) ++ "' in position " ++ toString first
    | run => "characters in position " ++ toString first ++ "-" ++ toString (first + run.length - 1)
  "'utf-8' codec can't encode " ++ where_ ++ ": surrogates not allowed"

def scalars (text : PyText) : Except String (List Char) :=
  match text.mapM PyChar.toChar with
  | some chars => .ok chars
  | none => .error (surrogatesText text)

def Encodable (text : PyText) : Prop := ∀ c ∈ text, c.toChar.isSome

instance (text : PyText) : Decidable (Encodable text) := by
  unfold Encodable
  infer_instance

theorem scalarsEncodable {text : PyText} : (∃ chars, scalars text = .ok chars) ↔ Encodable text := by
  have whole : (∃ chars, text.mapM PyChar.toChar = some chars) ↔ Encodable text := by
    induction text with
    | nil => simp [Encodable]
    | cons c rest ih =>
      rw [Encodable,List.forall_mem_cons,← Encodable,← ih,List.mapM_cons]
      cases c.toChar with
      | none => simp
      | some char => cases rest.mapM PyChar.toChar <;> simp
  rw [← whole,scalars]
  cases text.mapM PyChar.toChar <;> simp

end Moadian.Codec
