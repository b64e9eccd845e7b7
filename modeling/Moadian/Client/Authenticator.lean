import Moadian.Client.Packet

/-! The client's authenticator: one bearer token for each request, signed over a
nonce fetched for it alone. It holds no state between calls. -/
namespace Moadian.Wire
open Codec Crypto

def minTimeToLive : Int := 10
def maxTimeToLive : Int := 200

structure NonceAuthenticator (lib : Library) where
  credentials : SigningCredentials lib
  clientId : String
  timeToLive : Int
  bounded : minTimeToLive ≤ timeToLive ∧ timeToLive ≤ maxTimeToLive

def tokenClaims (nonce clientId : String) : Dict := [("nonce",.str nonce),("clientId",.str clientId)]

section Token
variable {lib : Library} (floats : Floats) (authenticator : NonceAuthenticator lib) (now : Clock) (nonce : String)

def bearerToken : Except Fail (List Char) := do
  let payload ← canonicalBytes floats (.obj (tokenClaims nonce authenticator.clientId))
  let jws ← sign floats authenticator.credentials now payload
  .ok ("Bearer ".toList ++ jws)

end Token

def claimsBytes (floats : Floats) (nonce clientId : String) : Bytes :=
  encodeUtf8 (dumps floats .canonical (.obj (tokenClaims nonce clientId)))

theorem claimsCanonical (floats : Floats) (nonce clientId : String) :
    canonicalBytes floats (.obj (tokenClaims nonce clientId)) = .ok (claimsBytes floats nonce clientId) := rfl

theorem bearerParts {lib : Library} {floats : Floats} {authenticator : NonceAuthenticator lib} {now : Clock} {nonce : String}
    {authorization : List Char} (made : bearerToken floats authenticator now nonce = .ok authorization) :
    ∃ jws d signature, authorization = "Bearer ".toList ++ jws ∧
      Signed floats authenticator.credentials now (claimsBytes floats nonce authenticator.clientId) jws d signature := by
  simp only [bearerToken,claimsCanonical,bind,Except.bind] at made
  split at made
  · cases made
  · rename_i jws signed
    obtain ⟨d,signature,parts⟩ := signedParts signed
    exact ⟨jws,d,signature,(Except.ok.inj made).symm,parts⟩

end Moadian.Wire
