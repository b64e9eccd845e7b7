import Moadian.Codec.Split
import Moadian.Crypto.Encryptor

/-! The mock of the tax API: what it holds, and how it takes a token apart. -/
namespace Moadian.Mock
open Codec Crypto

/-! Refusals. -/

def errorCodes : List (String × String) := [
  ("4101","ساختار payload در توکن JWT فرستاده شده مطابق با ساختار \x7b\"nonce\":\"string\",\"clientId\":\"string\"\x7d نمی‌باشد."),
  ("4102","چالش تصادفی امضا شده در توکن JWT معتبر نمی‌باشد (قبلا استفاده شده یا زمان استفاده آن گذشته است)."),
  ("4110","شناسه کلاینت (شناسه حافظه) وارد شده در توکن JWT یافت نشد."),
  ("4130","ساختار توکن JWT فرستاده شده صحیح نیست."),
  ("4131","امضای توکن JWT یا گواهی امضای فرستاده شده معتبر نمی‌باشد."),
  ("4132","کلید عمومی معتبر یافت نشد."),
  ("4133","امضا نامعتبر است."),
  ("4134","Encoding برابر با UTF-8 نیست."),
  ("4135","گواهی امضایی در فیلد x5c یافت نشد."),
  ("4136","فرمت گواهی امضای ارسالی در فیلد x5c معتبر نمی‌باشد."),
  ("04130","ساختار بسته‌ی صورتحساب (encrypted payload) امضا شده صحیح نیست."),
  ("04131","امضای صورتحساب ارسالی یا گواهی امضایی که صورتحساب با آن امضا شده معتبر نمی‌باشد."),
  ("04150","بسته‌ی JWE صورتحساب ارسالی از نظر ساختاری معتبر نمی‌باشد و امکان رمزگشایی آن وجود ندارد."),
  ("04152","الگوریتم مورد استفاده برای رمزنگاری معتبر نمی‌باشد."),
  ("04153","طول فیلد IV باید 96 بیت باشد."),
  ("4143","در یک درخواست نمی‌توانید بیشتر از 1000 صورتحساب ارسال نمایید."),
  ("4144","بدنه‌ی درخواست ارسالی خالی است یا از نظر ساختار JSON معتبر نیست."),
  ("4145","در بدنه‌ی درخواست ارسالی، بعضی از فیلدهای ضروری خالی است (برای هر صورتحساب باید payload، requestTraceId و fiscalId موجود باشد)."),
  ("4147","فرمت ورودی‌های درخواست نادرست می‌باشد."),
  ("4162","شناسه درخواست (requestTraceId) داخل درخواست معتبر نمی‌باشد."),
  ("4163","در درخواست ارسالی شناسه درخواست تکراری وجود دارد."),
  ("04148","شناسه یکتای ارسالی نامعتبر است.")]

def describe (code : String) : Option String := errorCodes.lookup code

structure Rejection where
  statusCode : Nat
  code : String
  message : String
  deriving DecidableEq, Repr

def Rejection.restated (r : Rejection) (statusCode : Nat) : Rejection := { r with statusCode }

-- How a request is refused: with a rejection, or with an exception nobody catches.
inductive Refusal where
  | rejected (r : Rejection)
  | escaped (text : String)
  deriving DecidableEq, Repr

def reject {α : Type} (status : Nat) (code detail : String) : Except Refusal α :=
  .error (.rejected ⟨status,code,(describe code).getD "خطای غیر منتظره‌ای در انجام درخواست رخ داد." ++ " (" ++ detail ++ ")"⟩)

def rejecting {α : Type} (status : Nat) (code what : String) : Except String α → Except Refusal α
  | .ok a => .ok a
  | .error text => reject status code (what ++ text)

/-! What Python does with a value and with bytes that are not UTF-8. -/

structure Python where
  floats : Floats
  repr : Json → String
  decode : Charset → Bytes → Except String (List Char)
  undecodable : Bytes → String
  -- `int(moment.timestamp() * 1000)`
  millis : Int → Int

inductive LoadsError where
  | decode (text : String)
  | value (text : String)
  deriving DecidableEq, Repr

def LoadsError.text : LoadsError → String
  | decode text | value text => text

def loads (py : Python) (data : Bytes) : Except LoadsError Json :=
  let text : Except String (List Char) := match detectEncoding data,decodeUtf8 data with
    | .utf8,some text => .ok text
    | charset,_ => py.decode charset data
  match text with
  | .error text => .error (.decode text)
  | .ok doc => match raw py.floats doc with
    | .ok v => .ok v
    | .error (.value message) => .error (.value message)
    | .error fault => .error (.decode (faultText doc fault))

def typeName : Json → String
  | .null => "NoneType"
  | .bool _ => "bool"
  | .int _ => "int"
  | .float _ => "float"
  | .str _ => "str"
  | .arr _ => "list"
  | .obj _ => "dict"

def isText (text : String) : Json → Bool
  | .str t => t == text
  | _ => false

/-! What the server holds. -/

structure NonceRecord where
  nonce : String
  expiresAt : Int
  used : Bool := false
  deriving DecidableEq, Repr

structure MockState (lib : Library) where
  privateKey : lib.PrivateKey
  keyId : String
  nonces : List (String × NonceRecord) := []
  trustedDer : Option (List Bytes) := none

def MockState.publicKeyB64 {lib : Library} (state : MockState lib) : List Char :=
  b64encode (lib.spki (lib.publicKey state.privateKey))

/-! A JWS. -/

def jwsHeaderKeys : List String := ["crit","sigT","x5c","alg"]

section Jws
variable (lib : Library) (py : Python)

def decodeCertificate (entry : Json) (code : String) : Except Refusal lib.Certificate :=
  match entry with
  | .str text => do
    let der ← rejecting 401 code "x5c is not standard base64: " (b64decode true text.toList)
    rejecting 401 code "x5c is not a DER certificate: " (lib.loadCertificate der)
  | _ => reject 401 code "x5c entry is not a string"

def strptimeValue : Json → Except String Datetime
  | .str text => strptime (py.repr (.str text)) text.toList
  | v => .error ("strptime() argument 1 must be str, not " ++ typeName v)

def checkProtectedHeader (header : Dict) (code : String) : Except Refusal Json := do
  if header.map Prod.fst ≠ jwsHeaderKeys then
    reject 401 code ("protected header must be exactly ['crit', 'sigT', 'x5c', 'alg'] in order, got " ++
      py.repr (.arr (header.map (fun m => .str m.1))))
  let member (key : String) : Json := (header.lookup key).getD .null
  if !isText "RS256" (member "alg") then reject 401 code ("alg must be RS256, got " ++ py.repr (member "alg"))
  match member "crit" with
  | .arr [one] => if !isText "sigT" one then reject 401 code ("crit must be ['sigT'], got " ++ py.repr (member "crit"))
  | other => reject 401 code ("crit must be ['sigT'], got " ++ py.repr other)
  match member "x5c" with
  | .arr (first :: _) =>
    let _ ← rejecting 401 code ("sigT must be '" ++ sigtFormat ++ "': ") (strptimeValue py (member "sigT"))
    .ok first
  | _ => reject 401 "4135" "x5c is empty"

structure Codes where
  structureCode : String
  signatureCode : String
  certCode : String
  deriving DecidableEq, Repr

variable {lib} in
def verifyJws (state : MockState lib) (now : Int) (codes : Codes) (token : List Char) :
    Except Refusal (Dict × Bytes × lib.Certificate) := do
  match split '.' token with
  | [protectedB64,payloadB64,signatureB64] =>
    let undecodable := "undecodable JWS segments: "
    let rawHeader ← rejecting 401 codes.structureCode undecodable (b64urlDecode protectedB64)
    let header ← rejecting 401 codes.structureCode undecodable ((loads py rawHeader).mapError LoadsError.text)
    let payload ← rejecting 401 codes.structureCode undecodable (b64urlDecode payloadB64)
    let signature ← rejecting 401 codes.structureCode undecodable (b64urlDecode signatureB64)
    match header with
    | .obj header =>
      let entry ← checkProtectedHeader py header codes.structureCode
      let certificate ← decodeCertificate lib entry "4136"
      if ¬(lib.notValidBefore certificate ≤ now ∧ now ≤ lib.notValidAfter certificate) then
        reject 401 codes.certCode "signing certificate is outside its validity window"
      else if state.trustedDer.any (fun trusted => !trusted.contains (lib.certificateDer certificate)) then
        reject 401 codes.certCode "signing certificate is not trusted"
      else match lib.certificateKey certificate with
        | .other _ => reject 401 "4132" "signing certificate does not carry an RSA key"
        | .rsa publicKey => match encodeAscii (dotted protectedB64 payloadB64) with
          | none => .error (.escaped "'ascii' codec can't encode characters")
          | some signed =>
            if lib.verify publicKey signature signed then .ok (header,payload,certificate)
            else reject 401 codes.signatureCode "signature does not verify"
    | _ => reject 401 codes.structureCode "protected header is not a JSON object"
  | parts => reject 401 codes.structureCode ("expected 3 JWS segments, got " ++ toString parts.length)

end Jws

/-! A JWE. -/

section Jwe
variable {lib : Library} (py : Python) (state : MockState lib)

def decryptJwe (token : List Char) : Except Refusal (List Char) := do
  match split '.' token with
  | [protectedB64,keyB64,ivB64,ciphertextB64,tagB64] =>
    let undecodable := "undecodable JWE segments: "
    let rawHeader ← rejecting 400 "04150" undecodable (b64urlDecode protectedB64)
    let header ← rejecting 400 "04150" undecodable ((loads py rawHeader).mapError LoadsError.text)
    let encryptedKey ← rejecting 400 "04150" undecodable (b64urlDecode keyB64)
    let iv ← rejecting 400 "04150" undecodable (b64urlDecode ivB64)
    let ciphertext ← rejecting 400 "04150" undecodable (b64urlDecode ciphertextB64)
    let tag ← rejecting 400 "04150" undecodable (b64urlDecode tagB64)
    match header with
    | .obj header =>
      let member (key : String) : Json := (header.lookup key).getD .null
      if !isText "RSA-OAEP-256" (member "alg") || !isText "A256GCM" (member "enc") then
        reject 400 "04152" ("expected RSA-OAEP-256/A256GCM, got " ++ py.repr (member "alg") ++ "/" ++ py.repr (member "enc"))
      else if !isText state.keyId (member "kid") then reject 400 "04150" ("unknown kid " ++ py.repr (member "kid"))
      else if iv.length ≠ 12 then reject 400 "04153" ("IV must be 96 bits, got " ++ toString (iv.length * 8))
      else do
        let cek ← rejecting 400 "04150" "could not unwrap the content key: " (lib.oaepDecrypt state.privateKey encryptedKey)
        if cek.length ≠ 32 then reject 400 "04152" ("A256GCM needs a 256-bit CEK, got " ++ toString (cek.length * 8))
        else match encodeAscii protectedB64 with
          | none => .error (.escaped "'ascii' codec can't encode characters")
          | some aad => match lib.gcmDecrypt cek iv (ciphertext ++ tag) aad with
            | none => reject 400 "04150" "AEAD tag mismatch: ciphertext or header was altered"
            | some plaintext => match decodeUtf8 plaintext with
              | some text => .ok text
              | none => reject 400 "4134" ("plaintext is not UTF-8: " ++ py.undecodable plaintext)
    | _ => reject 400 "04150" "protected header is not a JSON object"
  | parts => reject 400 "04150" ("expected 5 JWE segments, got " ++ toString parts.length)

def packetCodes : Codes := ⟨"04130","04131","04131"⟩

-- What is done with the payload of a submitted packet; a JWS is refused with 400 here.
def openPacket (now : Int) (payload : List Char) : Except Refusal (Dict × Bytes × lib.Certificate) := do
  let jws ← decryptJwe py state payload
  match verifyJws py state now packetCodes jws with
  | .error (.rejected r) => .error (.rejected (r.restated 400))
  | result => result

end Jwe
end Moadian.Mock
