import Moadian.Crypto.Signatory

/-! Compact JWE encryption to one server key: RSA-OAEP-256 around a fresh content
key, A256GCM over the text. -/
namespace Moadian.Crypto
open Codec

structure ServerKey where
  id : String
  key : List Char

def ServerKey.publicKey (lib : Library) (server : ServerKey) (shown : String) : Except Fail lib.PublicKey :=
  match b64decode true server.key with
  | .error text => .error (cryptography ("server key " ++ shown ++ " is not valid base64: " ++ text))
  | .ok der => match lib.loadPublicKey der with
    | .error text => .error (cryptography ("server key " ++ shown ++ " is not a DER SPKI key: " ++ text))
    | .ok (.other className) => .error (cryptography ("server key " ++ shown ++ " must be RSA, got " ++ className))
    | .ok (.rsa key) => .ok key

structure JweEncryptor (lib : Library) where
  serverKey : ServerKey
  publicKey : lib.PublicKey
  loaded : ∃ shown, serverKey.publicKey lib shown = .ok publicKey

structure Drawn where
  cek : Bytes
  iv : Bytes
  seed : Bytes
  cekBytes : cek.length = 32
  ivBytes : iv.length = 12

def tagBytes : Nat := 16

section Encrypt
variable {lib : Library} (floats : Floats) (encryptor : JweEncryptor lib) (drawn : Drawn)

def jweHeader : Dict := [
  ("alg",.str "RSA-OAEP-256"),("enc",.str "A256GCM"),("kid",.str encryptor.serverKey.id)]

def encrypting : Raised → Fail
  | .valueError text | .typeError text => cryptography ("JWE encryption failed: " ++ text)
  | raised => .escaped raised

def encrypt (plaintext : List Char) : Except Fail (List Char) := do
  let header := b64url (encodeUtf8 (dumps floats .compact (.obj (jweHeader encryptor))))
  let encryptedKey ← (lib.oaepEncrypt encryptor.publicKey drawn.seed drawn.cek).mapError encrypting
  let aad ← asciiBytes header
  let sealed ← (lib.gcmEncrypt drawn.cek drawn.iv (encodeUtf8 plaintext) aad).mapError encrypting
  -- `sealed[:-16], sealed[-16:]`
  let ciphertext := sealed.take (sealed.length - tagBytes)
  let tag := sealed.drop (sealed.length - tagBytes)
  .ok (dotted header (dotted (b64url encryptedKey) (dotted (b64url drawn.iv) (dotted (b64url ciphertext) (b64url tag)))))

end Encrypt

/-! A text that was encrypted: its five parts. -/

section Encrypted
variable {lib : Library} {floats : Floats} {encryptor : JweEncryptor lib} {drawn : Drawn} {plaintext : List Char}

def jweHeaderBytes (floats : Floats) (encryptor : JweEncryptor lib) : Bytes :=
  encodeUtf8 (dumps floats .compact (.obj (jweHeader encryptor)))

def aadBytes (header : Bytes) : Bytes := (b64url header).map (fun c => UInt8.ofNat c.toNat)

theorem aadAscii (header : Bytes) : encodeAscii (b64url header) = some (aadBytes header) :=
  asciiEncoded (unpaddedAscii header)

theorem aadEncoded (header : Bytes) : asciiBytes (b64url header) = .ok (aadBytes header) := by
  rw [asciiBytes,aadAscii]

def jweParts (header encryptedKey iv sealed : Bytes) : List Char :=
  dotted (b64url header) (dotted (b64url encryptedKey) (dotted (b64url iv)
    (dotted (b64url (sealed.take (sealed.length - tagBytes))) (b64url (sealed.drop (sealed.length - tagBytes))))))

theorem encryptSteps : encrypt floats encryptor drawn plaintext =
    match lib.oaepEncrypt encryptor.publicKey drawn.seed drawn.cek with
    | .error raised => .error (encrypting raised)
    | .ok key =>
      match lib.gcmEncrypt drawn.cek drawn.iv (encodeUtf8 plaintext) (aadBytes (jweHeaderBytes floats encryptor)) with
      | .error raised => .error (encrypting raised)
      | .ok sealed => .ok (jweParts (jweHeaderBytes floats encryptor) key drawn.iv sealed) := by
  unfold encrypt jweHeaderBytes
  simp only [bind,Except.bind,aadEncoded]
  generalize encodeUtf8 (dumps floats .compact (.obj (jweHeader encryptor))) = header
  cases lib.oaepEncrypt encryptor.publicKey drawn.seed drawn.cek with
  | error raised => rfl
  | ok key =>
    simp only [Except.mapError]
    cases lib.gcmEncrypt drawn.cek drawn.iv (encodeUtf8 plaintext) (aadBytes header) <;> rfl

structure Encrypted (floats : Floats) (encryptor : JweEncryptor lib) (drawn : Drawn) (plaintext jwe : List Char)
    (wrapped sealed : Bytes) : Prop where
  key : lib.oaepEncrypt encryptor.publicKey drawn.seed drawn.cek = .ok wrapped
  closed : lib.gcmEncrypt drawn.cek drawn.iv (encodeUtf8 plaintext) (aadBytes (jweHeaderBytes floats encryptor)) = .ok sealed
  parts : jwe = jweParts (jweHeaderBytes floats encryptor) wrapped drawn.iv sealed

theorem encryptedParts {jwe : List Char} (made : encrypt floats encryptor drawn plaintext = .ok jwe) :
    ∃ key sealed, Encrypted floats encryptor drawn plaintext jwe key sealed := by
  rw [encryptSteps] at made
  split at made
  · cases made
  · rename_i key wrapped
    split at made
    · cases made
    · rename_i sealed closed
      exact ⟨key,sealed,wrapped,closed,(Except.ok.inj made).symm⟩

theorem encryptFails {e : Fail} (failed : encrypt floats encryptor drawn plaintext = .error e) :
    (∃ raised, lib.oaepEncrypt encryptor.publicKey drawn.seed drawn.cek = .error raised) ∨
      ∃ data aad raised, lib.gcmEncrypt drawn.cek drawn.iv data aad = .error raised := by
  rw [encryptSteps] at failed
  split at failed
  · rename_i raised answer
    exact .inl ⟨raised,answer⟩
  · split at failed
    · rename_i raised answer
      exact .inr ⟨_,_,raised,answer⟩
    · cases failed

end Encrypted
end Moadian.Crypto
