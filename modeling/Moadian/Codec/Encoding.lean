import Moadian.Codec.Base64

/-! A text and its bytes. -/
namespace Moadian.Codec

def encodeUtf8 (text : List Char) : Bytes := text.flatMap String.utf8EncodeChar

def decodeUtf8 (data : Bytes) : Option (List Char) := data.toByteArray.utf8Decode?.map Array.toList

def encodeAscii (text : List Char) : Option Bytes :=
  if text.all (·.toNat < 128) then some (text.map (fun c => UInt8.ofNat c.toNat)) else none

theorem decodeEncoded (text : List Char) : decodeUtf8 (encodeUtf8 text) = some text := by
  have same : (encodeUtf8 text).toByteArray = text.utf8Encode := rfl
  rw [decodeUtf8,same,List.utf8Decode?_utf8Encode,Option.map_some]

theorem asciiEncoded {text : List Char} (ascii : ∀ c ∈ text, c.toNat < 128) :
    encodeAscii text = some (text.map (fun c => UInt8.ofNat c.toNat)) := by
  rw [encodeAscii,if_pos (List.all_eq_true.mpr fun c member => decide_eq_true (ascii c member))]

end Moadian.Codec
