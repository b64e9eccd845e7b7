import Mathlib.Data.Nat.Size
import Moadian.Codec.Datetime
import Moadian.Codec.Surrogates
import Moadian.Config.Settings
import Moadian.Crypto.Keys

/-! The signing material of an environment: its two files, how they are read and
paired for signing, and the report the admin panel shows of them. -/
namespace Moadian.Keyring
open Codec (Bytes Datetime PyText encodeUtf8 scalars b64decode digits2 digits4 toOrdinal)
open Config (Path Environment Settings)
open Crypto (Raised)

/-! What the parsers of the `cryptography` package return. -/

structure PublicNumbers where
  n : Nat
  e : Nat
  deriving DecidableEq, Repr

/- A public key. Those of DSA and of elliptic curves have a `key_size` too; those of
Ed25519, Ed448, X25519 and X448 have none. -/
inductive PublicKey where
  | rsa (numbers : PublicNumbers)
  | sized (className : String) (keySize : Nat) (spki : Bytes)
  | unsized (className : String) (spki : Bytes)
  deriving DecidableEq, Repr

namespace PublicKey

def className : PublicKey → String
  | rsa _ => "RSAPublicKey"
  | sized name _ _ | unsized name _ => name

def keySize : PublicKey → Except Raised Nat
  | rsa numbers => .ok numbers.n.size
  | sized _ size _ => .ok size
  | unsized name _ => .error (.other ("'" ++ name ++ "' object has no attribute 'key_size'"))

end PublicKey

structure RsaPrivateKey where
  publicNumbers : PublicNumbers
  d : Nat
  deriving DecidableEq, Repr

inductive PrivateKey where
  | rsa (key : RsaPrivateKey)
  | other (className : String)
  deriving DecidableEq, Repr

structure Certificate where
  publicKey : PublicKey
  subject : String
  issuer : String
  serialNumber : Int
  nationalIds : List String
  notValidBefore : Datetime
  notValidAfter : Datetime
  deriving DecidableEq, Repr

structure Parsers where
  pemCertificate : Bytes → Except Raised Certificate
  derCertificate : Bytes → Except Raised Certificate
  pemPrivateKey : Bytes → Option Bytes → Except Raised PrivateKey
  spki : PublicNumbers → Bytes
  sha256 : Bytes → Bytes

-- The files as they are found: no `OSError`, or its text.
structure Files where
  isFile : Path → Except String Bool
  readBytes : Path → Except String Bytes

structure Moment where
  reading : Datetime
  microsecond : Nat
  small : microsecond < 1000000
  deriving DecidableEq, Repr

def instant (d : Datetime) : Int :=
  ((toOrdinal d : Int) * 86400 + (d.hour * 3600 + d.minute * 60 + d.second : Nat)) * 1000000

def Moment.instant (now : Moment) : Int := Keyring.instant now.reading + now.microsecond

structure Host where
  parsers : Parsers
  files : Files
  configured : Option PyText
  environ : Option PyText
  now : Moment

inductive Thrown where
  | configuration (message : String)
  | certificate (message : String)
  | osError (text : String)
  | raised (raised : Raised)
  deriving DecidableEq, Repr

def encodeText (text : PyText) : Except Thrown Bytes :=
  match scalars text with
  | .ok chars => .ok (encodeUtf8 chars)
  | .error message => .error (.raised (.valueError message))

def nonEmpty : Option PyText → Option PyText
  | some text => if text = [] then none else some text
  | none => none

def passphraseText (host : Host) : Option PyText := nonEmpty ((nonEmpty host.configured).or host.environ)

def passphrase (host : Host) : Except Thrown (Option Bytes) :=
  match passphraseText host with
  | some value => (encodeText value).map some
  | none => .ok none

def Thrown.text : Thrown → String
  | configuration text | certificate text | osError text => text
  | raised (.valueError text) | raised (.typeError text) | raised (.unsupportedAlgorithm text) | raised (.other text) => text

def Thrown.caught : Thrown → Bool
  | certificate _ | osError _ => true
  | configuration _ | raised _ => false

/-! Texts. -/

def Path.text (path : Path) : String :=
  if path.root = "" ∧ path.parts = [] then "." else path.root ++ "/".intercalate path.parts

def dateText (d : Datetime) : String :=
  String.ofList (digits4 d.year ++ '-' :: digits2 d.month ++ '-' :: digits2 d.day)

def isoText (d : Datetime) (fraction : List Char) : String :=
  dateText d ++ "T" ++ String.ofList (digits2 d.hour ++ ':' :: digits2 d.minute ++ ':' :: digits2 d.second ++ fraction) ++
    "+00:00"

def Moment.isoText (now : Moment) : String :=
  Keyring.isoText now.reading (if now.microsecond = 0 then [] else
    '.' :: (List.replicate (6 - (Nat.toDigits 10 now.microsecond).length) '0' ++ Nat.toDigits 10 now.microsecond))

def hexText (n : Int) : String :=
  (if n < 0 then "-" else "") ++ String.ofList (Nat.toDigits 16 n.natAbs)

def hexDigest (data : Bytes) : List Char :=
  data.flatMap (fun byte => [(byte.toNat / 16).digitChar,(byte.toNat % 16).digitChar])

def chunks {α : Type} (size : Nat) (text : List α) : List (List α) :=
  (List.range ((text.length + size - 1) / size)).map (fun i => (text.drop (i * size)).take size)

def contains {α : Type} [BEq α] (text part : List α) : Bool := text.tails.any (fun tail => part.isPrefixOf tail)

/-! `moadian.crypto.keys` -/

def isBlankByte (byte : UInt8) : Bool := byte = 32 || (9 ≤ byte && byte ≤ 13)

def ascii (text : String) : Bytes := encodeUtf8 text.toList

def armour (data : Bytes) : Option Bytes :=
  let body := data.filter (fun byte => !isBlankByte byte)
  if body = [] then none
  else match b64decode true (body.map (fun byte => Char.ofNat byte.toNat)) with
    | .error _ => none
    | .ok _ => some (ascii "-----BEGIN CERTIFICATE-----\n" ++ (ascii "\n").intercalate (chunks 64 body) ++
        ascii "\n-----END CERTIFICATE-----\n")

def unparsed (text : String) : Thrown := .certificate ("could not parse certificate: " ++ text)

def loadCertificate (parsers : Parsers) (data : Bytes) : Except Thrown Certificate :=
  match (if contains data (ascii "-----BEGIN") then parsers.pemCertificate data else parsers.derCertificate data) with
  | .ok certificate => .ok certificate
  | .error (.valueError derError) => match armour data with
    | none => .error (unparsed derError)
    | some armoured => match parsers.pemCertificate armoured with
      | .ok certificate => .ok certificate
      | .error (.valueError text) => .error (unparsed text)
      | .error raised => .error (.raised raised)
  | .error raised => .error (.raised raised)

def loadPrivateKey (parsers : Parsers) (data : Bytes) (password : Option Bytes) : Except Thrown RsaPrivateKey :=
  match parsers.pemPrivateKey data password with
  | .ok (.rsa key) => .ok key
  | .ok (.other className) => .error (.certificate ("signing key must be RSA, got " ++ className))
  | .error (.valueError text) | .error (.typeError text) =>
    .error (.certificate ("could not parse private key: " ++ text))
  | .error raised => .error (.raised raised)

structure SigningCredentials where
  certificate : Certificate
  privateKey : RsaPrivateKey
  deriving DecidableEq, Repr

def SigningCredentials.fromFiles (host : Host) (certPath keyPath : Path) (keyPassword : Option Bytes) :
    Except Thrown SigningCredentials := do
  let reading := fun text => Thrown.certificate ("could not read credentials: " ++ text)
  let certBytes ← (host.files.readBytes certPath).mapError reading
  let keyBytes ← (host.files.readBytes keyPath).mapError reading
  let certificate ← loadCertificate host.parsers certBytes
  let privateKey ← loadPrivateKey host.parsers keyBytes keyPassword
  return ⟨certificate,privateKey⟩

def SigningCredentials.assertUsable (credentials : SigningCredentials) (moment : Moment) : Except Thrown Unit :=
  let certificate := credentials.certificate
  if moment.instant < instant certificate.notValidBefore then
    .error (.certificate ("certificate is not valid until " ++ isoText certificate.notValidBefore [] ++
      " (now " ++ moment.isoText ++ ")"))
  else if instant certificate.notValidAfter < moment.instant then
    .error (.certificate ("certificate expired at " ++ isoText certificate.notValidAfter [] ++
      " (now " ++ moment.isoText ++ ")"))
  else match certificate.publicKey with
    | .rsa numbers =>
      if numbers ≠ credentials.privateKey.publicNumbers then
        .error (.certificate "private key does not match the certificate public key")
      else .ok ()
    | key => .error (.certificate ("certificate public key must be RSA, got " ++ key.className))

/-! `moadian.config.keyring` -/

structure SigningMaterial where
  environment : Environment
  certificatePath : Option Path
  privateKeyPath : Option Path
  deriving DecidableEq, Repr

def signingMaterial (settings : Settings) : Environment → SigningMaterial
  | .production => ⟨.production,settings.productionCertificatePath.or settings.certificatePath,
      settings.productionPrivateKeyPath.or settings.privateKeyPath⟩
  | .sandbox => ⟨.sandbox,settings.sandboxCertificatePath.or settings.certificatePath,
      settings.sandboxPrivateKeyPath.or settings.privateKeyPath⟩

namespace SigningMaterial

def env : Environment → String
  | .sandbox => "SANDBOX"
  | .production => "PRODUCTION"

def present (material : SigningMaterial) (files : Files) (label : String) (path : Path) : Except Thrown Unit :=
  match files.isFile path with
  | .error text => .error (.osError text)
  | .ok true => .ok ()
  | .ok false => .error (.configuration ("the " ++ label ++ " configured for " ++ material.environment.value ++
      " is not present at " ++ Path.text path ++ ". Place it there on the server; it is never uploaded."))

def require (material : SigningMaterial) (files : Files) : Except Thrown (Path × Path) :=
  match material.certificatePath,material.privateKeyPath with
  | none,_ => .error (.configuration ("no certificate configured for " ++ material.environment.value ++
      ". Set MOADIAN_CERTIFICATE_PATH or MOADIAN_" ++ env material.environment ++ "_CERTIFICATE_PATH."))
  | some _,none => .error (.configuration ("no private key configured for " ++ material.environment.value ++
      ". Set MOADIAN_PRIVATE_KEY_PATH or MOADIAN_" ++ env material.environment ++ "_PRIVATE_KEY_PATH."))
  | some certificate,some privateKey => do
    material.present files "certificate" certificate
    material.present files "private key" privateKey
    return (certificate,privateKey)

def load (host : Host) (material : SigningMaterial) : Except Thrown SigningCredentials := do
  let paths ← material.require host.files
  let keyPassword ← passphrase host
  let credentials ← SigningCredentials.fromFiles host paths.1 paths.2 keyPassword
  credentials.assertUsable host.now
  return credentials

end SigningMaterial

structure Summary where
  subject : String
  issuer : String
  serialNumber : String
  notBefore : String
  notAfter : String
  nationalId : Option String
  keySize : Nat
  publicKeyFingerprint : String
  deriving DecidableEq, Repr

structure Report where
  environment : String
  environmentLabel : String
  certificatePath : Option String
  privateKeyPath : Option String
  keyPassphraseSet : Bool
  ok : Bool := false
  matches_ : Option Bool := none
  certificate : Option Summary := none
  message : String := ""
  deriving DecidableEq, Repr

def label : Environment → String
  | .production => "عملیاتی"
  | .sandbox => "آزمایشی"

def keysMatch (certificate : Certificate) (privateKey : RsaPrivateKey) : Bool :=
  match certificate.publicKey with
  | .rsa numbers => numbers == privateKey.publicNumbers
  | _ => false

def publicDer (parsers : Parsers) : PublicKey → Bytes
  | .rsa numbers => parsers.spki numbers
  | .sized _ _ spki | .unsized _ spki => spki

def fingerprint (parsers : Parsers) (key : PublicKey) : String :=
  ":".intercalate ((chunks 4 ((hexDigest (parsers.sha256 (publicDer parsers key))).take 32)).map String.ofList)

def certificateSummary (parsers : Parsers) (certificate : Certificate) : Except Thrown Summary := do
  let keySize ← certificate.publicKey.keySize.mapError .raised
  return {
    subject := certificate.subject
    issuer := certificate.issuer
    serialNumber := hexText certificate.serialNumber
    notBefore := isoText certificate.notValidBefore []
    notAfter := isoText certificate.notValidAfter []
    nationalId := certificate.nationalIds.head?
    keySize
    publicKeyFingerprint := fingerprint parsers certificate.publicKey }

def mentions (text part : String) : Bool := contains text.toList part.toList

def persianKeyError (text : String) (path : Path) : String :=
  if mentions text "Password was not given" then
    "کلید خصوصی (" ++ Path.text path ++ ") رمزگذاری‌شده است و گذرواژه‌ای برای آن تنظیم نشده. " ++
      "مقدار MOADIAN_KEY_PASSPHRASE را در فایل .env سرور قرار دهید و سرویس را دوباره راه‌اندازی کنید."
  else if mentions text "Incorrect password" || mentions text "Bad decrypt" then
    "گذرواژه‌ی MOADIAN_KEY_PASSPHRASE کلید خصوصی (" ++ Path.text path ++ ") را باز نکرد. " ++
      "همان گذرواژه‌ای لازم است که هنگام ساخت یا استخراج کلید تعیین شده."
  else "کلید خصوصی (" ++ Path.text path ++ ") خوانده یا تفسیر نشد: " ++ text

def persianMaterialError (text : String) : String :=
  if mentions text "no certificate configured" then
    "مسیر گواهی امضا تنظیم نشده است. MOADIAN_CERTIFICATE_PATH را در فایل .env سرور مقدار دهید."
  else if mentions text "no private key configured" then
    "مسیر کلید خصوصی تنظیم نشده است. MOADIAN_PRIVATE_KEY_PATH را در فایل .env سرور مقدار دهید."
  else "فایل تنظیم‌شده در دسترس نیست: " ++ text

namespace SigningMaterial

def emptyReport (material : SigningMaterial) (password : Option Bytes) : Report where
  environment := material.environment.value
  environmentLabel := label material.environment
  certificatePath := material.certificatePath.map Path.text
  privateKeyPath := material.privateKeyPath.map Path.text
  keyPassphraseSet := password.isSome

def readCertificate (host : Host) (path : Path) : Except Thrown Certificate := do
  loadCertificate host.parsers (← (host.files.readBytes path).mapError .osError)

def readPrivateKey (host : Host) (path : Path) : Except Thrown RsaPrivateKey := do
  let data ← (host.files.readBytes path).mapError .osError
  loadPrivateKey host.parsers data (← passphrase host)

def unmatchedText (paths : Path × Path) : String :=
  "کلید خصوصی با گواهی مطابقت ندارد. کلید عمومیِ استخراج‌شده از فایل گواهی (" ++ Path.text paths.1 ++
    ") با کلید خصوصی (" ++ Path.text paths.2 ++
    ") یک زوج نیستند؛ امضا تولید می‌شود ولی سامانه مودیان آن را رد می‌کند. " ++
    "معمولاً یعنی یکی از دو فایل مربوط به درخواست صدور دیگری است."

def judge (now : Moment) (paths : Path × Path) (certificate : Certificate) (privateKey : RsaPrivateKey)
    (report : Report) : Report :=
  let report := { report with matches_ := some (keysMatch certificate privateKey) }
  let notBefore := certificate.notValidBefore
  let notAfter := certificate.notValidAfter
  let days := (instant notAfter - now.instant) / 86400000000
  if !keysMatch certificate privateKey then { report with message := unmatchedText paths }
  else if now.instant < instant notBefore then
    { report with message := "کلید و گواهی زوج هستند، ولی گواهی تا " ++ dateText notBefore ++ " معتبر نمی‌شود." }
  else if instant notAfter < now.instant then
    { report with message := "کلید و گواهی زوج هستند، ولی گواهی در " ++ dateText notAfter ++ " منقضی شده است." }
  else { report with ok := true, message := "کلید خصوصی با گواهی مطابقت دارد. گواهی معتبر است و " ++
                       toString days ++ " روز تا انقضا باقی مانده است." }

def verifyWith (host : Host) (material : SigningMaterial) (report : Report) : Except Thrown Report :=
  match material.require host.files with
  | .error (.configuration text) => .ok { report with message := persianMaterialError text }
  | .error thrown => .error thrown
  | .ok paths => match readCertificate host paths.1 with
    | .error thrown =>
      if thrown.caught then
        .ok { report with message := "فایل گواهی (" ++ Path.text paths.1 ++ ") خوانده یا تفسیر نشد: " ++ thrown.text }
      else .error thrown
    | .ok certificate => match certificateSummary host.parsers certificate with
      | .error thrown => .error thrown
      | .ok summary =>
        let report := { report with certificate := some summary }
        match readPrivateKey host paths.2 with
        | .error thrown =>
          if thrown.caught then .ok { report with message := persianKeyError thrown.text paths.2 }
          else .error thrown
        | .ok privateKey => .ok (judge host.now paths certificate privateKey report)

def verify (host : Host) (material : SigningMaterial) : Except Thrown Report := do
  material.verifyWith host (material.emptyReport (← passphrase host))

end SigningMaterial
end Moadian.Keyring
