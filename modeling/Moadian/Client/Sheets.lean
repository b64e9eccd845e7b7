import Moadian.Client.Cleaning
import Moadian.Fallible
import Moadian.Service

/-! One request's worth of invoices on its way out: the packets that are built of
completed invoices, and the bytes they are posted as. -/
namespace Moadian.Wire
open Codec Crypto Fallible

def Packet.modelDump (p : Packet) : Json := .obj [
  ("payload",.str (String.ofList p.payload)),
  ("header",.obj [("requestTraceId",.str p.header.requestTraceId),("fiscalId",.str p.header.fiscalId)])]

def batchBody (floats : Floats) (packets : List Packet) : Except Fail Bytes :=
  canonicalBytes floats (.arr (packets.map Packet.modelDump))

def batchBytes (floats : Floats) (packets : List Packet) : Bytes :=
  encodeUtf8 (dumps floats .canonical (.arr (packets.map Packet.modelDump)))

theorem batchCanonical (floats : Floats) (packets : List Packet) : batchBody floats packets = .ok (batchBytes floats packets) := by
  have whole : Json.stripNullsItems (packets.map Packet.modelDump) = packets.map Packet.modelDump ∧
      Json.unwritableItems (packets.map Packet.modelDump) = none := by
    induction packets with
    | nil => exact ⟨rfl,rfl⟩
    | cons p rest ih => exact ⟨by rw [List.map_cons,Json.stripNullsItems,ih.1]; rfl,ih.2⟩
  simp only [batchBody,canonicalBytes,Json.canonicalJson,Json.stripNulls,Json.unwritable,whole.1,whole.2]
  rfl

structure Sheet where
  complete : Invoice
  uuid : BitVec 128
  clock : Clock
  drawn : Drawn

namespace Sheet

def uid (sheet : Sheet) : String := uuidText sheet.uuid

def document (sheet : Sheet) : Dict := Json.cleanedMembers sheet.complete.modelDump

end Sheet

section Build
variable {lib : Library} (floats : Floats) (credentials : SigningCredentials lib) (encryptor : JweEncryptor lib) (fiscalId : String)

def Sheet.packet (sheet : Sheet) : Except Fail Packet :=
  buildPacket floats credentials sheet.clock encryptor sheet.drawn (Json.withoutBlanksMembers sheet.complete.modelDump) fiscalId
    (some sheet.uid) ""

def buildPackets (sheets : List Sheet) : Except Fail (List Packet) :=
  each (fun _ sheet => sheet.packet floats credentials encryptor fiscalId) 0 sheets

end Build

/-! A `uuid4` as it is written. -/

def uuidBits (bits : BitVec 128) : BitVec 128 :=
  (bits &&& ~~~(0xC000#128 <<< 48) ||| 0x8000#128 <<< 48) &&& ~~~(0xF000#128 <<< 64) ||| 0x4000#128 <<< 64

def uuidDigits (bits : BitVec 128) : List Char :=
  List.replicate (32 - (Nat.toDigits 16 (uuidBits bits).toNat).length) '0' ++ Nat.toDigits 16 (uuidBits bits).toNat

theorem uuidShape (bits : BitVec 128) : (uuidText bits).toList = (uuidDigits bits).take 8 ++ '-' :: ((uuidDigits bits).drop 8).take 4 ++
    '-' :: ((uuidDigits bits).drop 12).take 4 ++ '-' :: ((uuidDigits bits).drop 16).take 4 ++ '-' :: (uuidDigits bits).drop 20 :=
  String.toList_ofList

theorem base16Digits (n : Nat) : ∀ c ∈ Nat.toDigits 16 n, ∃ d < 16, c = d.digitChar := by
  induction n using Nat.strongRecOn with
  | ind n ih =>
    by_cases small : n < 16
    · rw [Nat.toDigits_of_lt_base small]
      rintro c member
      exact ⟨n,small,List.mem_singleton.mp member⟩
    · rw [Nat.toDigits_of_base_le (by decide) (Nat.not_lt.mp small)]
      intro c member
      obtain front | last := List.mem_append.mp member
      · exact ih (n / 16) (by omega) c front
      · exact ⟨n % 16,Nat.mod_lt _ (by decide),List.mem_singleton.mp last⟩

theorem uuidHex (bits : BitVec 128) : ∀ c ∈ uuidDigits bits, ∃ d < 16, c = d.digitChar := by
  intro c member
  obtain zero | own := List.mem_append.mp member
  · exact ⟨0,by decide,(List.mem_replicate.mp zero).2⟩
  · exact base16Digits _ c own

theorem uuidLong (bits : BitVec 128) : (uuidDigits bits).length = 32 := by
  have short : (Nat.toDigits 16 (uuidBits bits).toNat).length ≤ 32 :=
    (Nat.length_toDigits_le_iff (by decide) (by decide)).mpr (uuidBits bits).isLt
  rw [uuidDigits,List.length_append,List.length_replicate]
  omega

theorem uuidChars (bits : BitVec 128) : ∀ c ∈ (uuidText bits).toList, c = '-' ∨ ∃ d < 16, c = d.digitChar := by
  intro c member
  rw [uuidShape] at member
  simp only [List.mem_append,List.mem_cons] at member
  obtain (((a | b | a) | b | a) | b | a) | b | a := member
  all_goals first
    | exact .inl b
    | exact .inr (uuidHex bits c (List.mem_of_mem_drop (List.mem_of_mem_take a)))
    | exact .inr (uuidHex bits c (List.mem_of_mem_drop a))
    | exact .inr (uuidHex bits c (List.mem_of_mem_take a))

theorem uuidNamed (bits : BitVec 128) : uuidText bits ≠ "" := by
  intro empty
  have shape := uuidShape bits
  rw [empty] at shape
  simp at shape

end Moadian.Wire
