import Moadian.Codec.Datetime
import Moadian.Codec.JsonTrip
import Moadian.Crypto.Keys

/-! Compact JWS signing: a protected header of four keys, the payload, and the
signature over both. -/
namespace Moadian.Crypto
open Codec

def b64url (data : Bytes) : List Char := unpadded data

def b64urlDecode (text : List Char) : Except String Bytes := repadded text

theorem b64urlBack (data : Bytes) : b64urlDecode (b64url data) = .ok data := repaddedUnpadded data

def dotted (a b : List Char) : List Char := a ++ '.' :: b

-- `text.encode("ascii")`, of a text that has an ASCII form.
def asciiBytes (text : List Char) : Except Fail Bytes := match encodeAscii text with
  | some data => .ok data
  | none => .error (.escaped (.valueError "'ascii' codec can't encode characters"))

section Sign
variable {lib : Library} (floats : Floats) (credentials : SigningCredentials lib) (now : Clock)

def sigTime : Except Fail (List Char) := match now.utc with
  | some moment => .ok (strftime moment)
  | none => .error (.escaped (.other "date value out of range"))

def jwsHeader (sigT : List Char) : Dict := [
  ("crit",.arr [.str "sigT"]),("sigT",.str (String.ofList sigT)),
  ("x5c",.arr [.str (String.ofList (b64encode credentials.der))]),("alg",.str "RS256")]

def protectedHeader : Except Fail Bytes := do
  let sigT ← sigTime now
  .ok (encodeUtf8 (dumps floats .compact (.obj (jwsHeader credentials sigT))))

def signing : Raised → Fail
  | .unsupportedAlgorithm text | .valueError text | .typeError text => cryptography ("JWS signing failed: " ++ text)
  | .other text => .escaped (.other text)

def sign (payload : Bytes) : Except Fail (List Char) := do
  let header ← protectedHeader floats credentials now
  let signingInput ← asciiBytes (dotted (b64url header) (b64url payload))
  let signature ← (lib.sign credentials.privateKey signingInput).mapError signing
  .ok (dotted (dotted (b64url header) (b64url payload)) (b64url signature))

end Sign

/-! A token that was signed: its three parts, and the signature over the first two. -/

theorem dottedAscii (a b : Bytes) : ∀ c ∈ dotted (b64url a) (b64url b), c.toNat < 128 := by
  intro c member
  rcases List.mem_append.mp member with first | second
  · exact unpaddedAscii a c first
  · rcases List.mem_cons.mp second with rfl | later
    · decide
    · exact unpaddedAscii b c later

def signingBytes (header payload : Bytes) : Bytes :=
  (dotted (b64url header) (b64url payload)).map (fun c => UInt8.ofNat c.toNat)

theorem signingAscii (header payload : Bytes) :
    encodeAscii (dotted (b64url header) (b64url payload)) = some (signingBytes header payload) :=
  asciiEncoded (dottedAscii header payload)

theorem signingEncoded (header payload : Bytes) :
    asciiBytes (dotted (b64url header) (b64url payload)) = .ok (signingBytes header payload) := by
  rw [asciiBytes,signingAscii]

section Signed
variable {lib : Library} {floats : Floats} {credentials : SigningCredentials lib} {now : Clock} {payload : Bytes}

def headerBytes (floats : Floats) (credentials : SigningCredentials lib) (d : Datetime) : Bytes :=
  encodeUtf8 (dumps floats .compact (.obj (jwsHeader credentials (strftime d))))

theorem signSteps : sign floats credentials now payload = match now.utc with
    | none => .error (.escaped (.other "date value out of range"))
    | some d => match lib.sign credentials.privateKey (signingBytes (headerBytes floats credentials d) payload) with
      | .error raised => .error (signing raised)
      | .ok signature =>
        .ok (dotted (dotted (b64url (headerBytes floats credentials d)) (b64url payload)) (b64url signature)) := by
  unfold sign protectedHeader sigTime headerBytes
  cases now.utc with
  | none => rfl
  | some d =>
    simp only [bind,Except.bind,signingEncoded]
    generalize encodeUtf8 (dumps floats .compact (.obj (jwsHeader credentials (strftime d)))) = header
    cases lib.sign credentials.privateKey (signingBytes header payload) <;> rfl

structure Signed (floats : Floats) (credentials : SigningCredentials lib) (now : Clock) (payload : Bytes) (token : List Char)
    (d : Datetime) (signature : Bytes) : Prop where
  moment : now.utc = some d
  signed : lib.sign credentials.privateKey (signingBytes (headerBytes floats credentials d) payload) = .ok signature
  parts : token = dotted (dotted (b64url (headerBytes floats credentials d)) (b64url payload)) (b64url signature)

theorem signedParts {token : List Char} (made : sign floats credentials now payload = .ok token) :
    ∃ d signature, Signed floats credentials now payload token d signature := by
  rw [signSteps] at made
  split at made
  · cases made
  · rename_i d moment
    split at made
    · cases made
    · rename_i signature signed
      exact ⟨d,signature,moment,signed,(Except.ok.inj made).symm⟩

theorem signFails {e : Fail} (failed : sign floats credentials now payload = .error e) :
    now.utc = none ∨ ∃ input raised, lib.sign credentials.privateKey input = .error raised := by
  rw [signSteps] at failed
  split at failed
  · rename_i moment
    exact .inl moment
  · split at failed
    · rename_i raised answer
      exact .inr ⟨_,raised,answer⟩
    · cases failed

end Signed
end Moadian.Crypto
