import Moadian.Codec.Encoding
import Moadian.Errors

/-! The `cryptography` package as the client and the server call it, and the
credentials a taxpayer signs with. -/
namespace Moadian.Crypto
open Codec (Bytes)

inductive Raised where
  | valueError (text : String)
  | typeError (text : String)
  | unsupportedAlgorithm (text : String)
  | other (text : String)
  deriving DecidableEq, Repr

inductive Fail where
  | error (e : Exc)
  | escaped (raised : Raised)
  deriving Repr

def cryptography (message : String) : Fail := .error (.cryptography message)

inductive LoadedKey (PublicKey : Type) where
  | rsa (key : PublicKey)
  | other (className : String)

structure Library where
  PrivateKey : Type
  PublicKey : Type
  Certificate : Type
  publicKey : PrivateKey → PublicKey
  -- PKCS #1 v1.5 over SHA-256
  sign : PrivateKey → Bytes → Except Raised Bytes
  verify : PublicKey → Bytes → Bytes → Bool
  -- OAEP over SHA-256, with the bytes its padding is drawn from
  oaepEncrypt : PublicKey → Bytes → Bytes → Except Raised Bytes
  oaepDecrypt : PrivateKey → Bytes → Except String Bytes
  -- AES-GCM: key, nonce, data, associated data; nothing comes back past a bad tag
  gcmEncrypt : Bytes → Bytes → Bytes → Bytes → Except Raised Bytes
  gcmDecrypt : Bytes → Bytes → Bytes → Bytes → Option Bytes
  spki : PublicKey → Bytes
  loadPublicKey : Bytes → Except String (LoadedKey PublicKey)
  certificateDer : Certificate → Bytes
  loadCertificate : Bytes → Except String Certificate
  certificateKey : Certificate → LoadedKey PublicKey
  -- the validity window, in microseconds
  notValidBefore : Certificate → Int
  notValidAfter : Certificate → Int

/- What one half of each pair makes under a key, the other half undoes under the
key that matches it. -/
structure Library.Inverts (lib : Library) : Prop where
  signed : ∀ k m s, lib.sign k m = .ok s → lib.verify (lib.publicKey k) s m = true
  encrypted : ∀ k seed m c, lib.oaepEncrypt (lib.publicKey k) seed m = .ok c → lib.oaepDecrypt k c = .ok m
  authenticated : ∀ k iv m aad c, lib.gcmEncrypt k iv m aad = .ok c → lib.gcmDecrypt k iv c aad = some m
  spki : ∀ p, lib.loadPublicKey (lib.spki p) = .ok (.rsa p)
  certificate : ∀ c, lib.loadCertificate (lib.certificateDer c) = .ok c

structure SigningCredentials (lib : Library) where
  certificate : lib.Certificate
  privateKey : lib.PrivateKey

namespace SigningCredentials
variable {lib : Library}

def der (credentials : SigningCredentials lib) : Bytes := lib.certificateDer credentials.certificate

def Matched (credentials : SigningCredentials lib) : Prop :=
  lib.certificateKey credentials.certificate = .rsa (lib.publicKey credentials.privateKey)

end SigningCredentials
end Moadian.Crypto
