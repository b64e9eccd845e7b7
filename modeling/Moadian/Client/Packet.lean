import Moadian.Crypto.Canonical
import Moadian.Crypto.Encryptor

/-! An invoice dictionary on its way out: canonicalised, signed, encrypted. -/
namespace Moadian.Wire
open Codec Crypto

def canonicalBytes (floats : Floats) (v : Json) : Except Fail Bytes :=
  (v.canonicalJson.mapError Fail.error).map (fun stripped => encodeUtf8 (dumps floats .canonical stripped))

structure PacketHeader where
  requestTraceId : String
  fiscalId : String
  deriving DecidableEq, Repr

structure Packet where
  payload : List Char
  header : PacketHeader
  deriving DecidableEq, Repr

def traceId (fresh : String) : Option String → String
  | none | some "" => fresh
  | some id => id

-- `fresh` is what `uuid4` answers.
def buildPacket {lib : Library} (floats : Floats) (credentials : SigningCredentials lib) (now : Clock)
    (encryptor : JweEncryptor lib) (drawn : Drawn) (invoice : Dict) (fiscalId : String)
    (requestTraceId : Option String) (fresh : String) : Except Fail Packet := do
  let payload ← canonicalBytes floats (.obj invoice)
  let jws ← sign floats credentials now payload
  let jwe ← encrypt floats encryptor drawn jws
  .ok ⟨jwe,⟨traceId fresh requestTraceId,fiscalId⟩⟩

end Moadian.Wire
