import Moadian.Config.Keyring

/-! The report on the signing material against the signing path: what either makes of
the same files at the same instant. -/
namespace Moadian.Keyring
open Config (Path)
open Codec (Bytes PyText scalars)

section Reading
variable {host : Host} {material : SigningMaterial}

structure SigningMaterial.Parsed (host : Host) (material : SigningMaterial) (certificate : Certificate)
    (privateKey : RsaPrivateKey) : Prop where
  intro ::
  read : ∃ paths, material.require host.files = .ok paths ∧ readCertificate host paths.1 = .ok certificate ∧
    readPrivateKey host paths.2 = .ok privateKey

def InForce (now : Moment) (certificate : Certificate) : Prop :=
  instant certificate.notValidBefore ≤ now.instant ∧ now.instant ≤ instant certificate.notValidAfter

theorem usable {credentials : SigningCredentials} {now : Moment} : credentials.assertUsable now = .ok () ↔
    InForce now credentials.certificate ∧
      credentials.certificate.publicKey = .rsa credentials.privateKey.publicNumbers := by
  unfold SigningCredentials.assertUsable InForce
  dsimp only
  split
  · simp only [reduceCtorEq,false_iff]
    omega
  · split
    · simp only [reduceCtorEq,false_iff]
      omega
    · split
      · rename_i numbers own
        split
        · rename_i other
          simp only [reduceCtorEq,own,PublicKey.rsa.injEq,false_iff]
          exact fun both => other both.2
        · rename_i same
          simp only [own,true_iff,PublicKey.rsa.injEq]
          exact ⟨⟨by omega,by omega⟩,by simpa using same⟩
      · rename_i other
        simp only [reduceCtorEq,false_iff]
        exact fun both => other _ both.2

theorem bindOk {ε α β : Type} {x : Except ε α} {f : α → Except ε β} {b : β} :
    (x >>= f) = .ok b ↔ ∃ a, x = .ok a ∧ f a = .ok b := by
  cases x with
  | error e => simp [bind,Except.bind]
  | ok a => simp [bind,Except.bind]

theorem mapErrorOk {ε ε' α : Type} {x : Except ε α} {f : ε → ε'} {a : α} : x.mapError f = .ok a ↔ x = .ok a := by
  cases x with
  | error e => simp [Except.mapError]
  | ok a => simp [Except.mapError]

theorem fromFilesOk {certPath keyPath : Path} {credentials : SigningCredentials} {password : Option Bytes}
    (given : passphrase host = .ok password) :
    SigningCredentials.fromFiles host certPath keyPath password = .ok credentials ↔
      SigningMaterial.readCertificate host certPath = .ok credentials.certificate ∧
      SigningMaterial.readPrivateKey host keyPath = .ok credentials.privateKey := by
  unfold SigningCredentials.fromFiles SigningMaterial.readCertificate SigningMaterial.readPrivateKey
  simp only [bindOk,mapErrorOk,given,Except.ok.injEq,exists_eq_left']
  constructor
  · rintro ⟨certBytes,readCert,keyBytes,readKey,certificate,parsed,privateKey,parsed',made⟩
    cases made
    exact ⟨⟨certBytes,readCert,parsed⟩,⟨keyBytes,readKey,parsed'⟩⟩
  · rintro ⟨⟨certBytes,readCert,parsed⟩,⟨keyBytes,readKey,parsed'⟩⟩
    exact ⟨certBytes,readCert,keyBytes,readKey,credentials.certificate,parsed,credentials.privateKey,parsed',rfl⟩

theorem keyPassword {keyPath : Path} {privateKey : RsaPrivateKey}
    (read : SigningMaterial.readPrivateKey host keyPath = .ok privateKey) : ∃ password, passphrase host = .ok password := by
  obtain ⟨_,_,rest⟩ := bindOk.mp read
  obtain ⟨password,given,_⟩ := bindOk.mp rest
  exact ⟨password,given⟩

theorem loadOk {credentials : SigningCredentials} : material.load host = .ok credentials ↔
    material.Parsed host credentials.certificate credentials.privateKey ∧ InForce host.now credentials.certificate ∧
      credentials.certificate.publicKey = .rsa credentials.privateKey.publicNumbers := by
  rw [← usable]
  unfold SigningMaterial.load
  simp only [bindOk]
  constructor
  · rintro ⟨paths,required,password,given,credentials',made,_,checked,last⟩
    cases last
    exact ⟨⟨paths,required,(fromFilesOk given).mp made⟩,checked⟩
  · rintro ⟨⟨paths,required,read⟩,checked⟩
    obtain ⟨password,given⟩ := keyPassword read.2
    exact ⟨paths,required,password,given,credentials,(fromFilesOk given).mpr read,(),checked,rfl⟩

theorem matched {certificate : Certificate} {privateKey : RsaPrivateKey} : keysMatch certificate privateKey = true ↔
    certificate.publicKey = .rsa privateKey.publicNumbers := by
  unfold keysMatch
  split
  · rename_i numbers own
    rw [own,beq_iff_eq,PublicKey.rsa.injEq]
  · rename_i other
    simp only [Bool.false_eq_true,false_iff]
    exact other _

theorem judged (paths : Path × Path) (certificate : Certificate) (privateKey : RsaPrivateKey) (report : Report)
    (before : report.ok = false) :
    let judged := SigningMaterial.judge host.now paths certificate privateKey report
    (judged.ok = true ↔ InForce host.now certificate ∧ certificate.publicKey = .rsa privateKey.publicNumbers) ∧
      judged.matches_ = some (keysMatch certificate privateKey) := by
  rw [← matched]
  unfold SigningMaterial.judge InForce
  dsimp only
  split
  · rename_i other
    simp_all
  · rename_i own
    split
    · simp only [before,Bool.false_eq_true,false_iff,and_true]
      omega
    · split
      · simp only [before,Bool.false_eq_true,false_iff,and_true]
        omega
      · simp only [true_iff,and_true]
        exact ⟨⟨by omega,by omega⟩,by simpa using own⟩

end Reading

/-! What a report is asked to say, and when there is one. -/

structure Agrees (host : Host) (material : SigningMaterial) (report : Report) : Prop where
  ok : report.ok = true ↔ ∃ credentials, material.load host = .ok credentials
  matches_ : report.matches_ = some false ↔ ∃ certificate privateKey, material.Parsed host certificate privateKey ∧
    certificate.publicKey ≠ .rsa privateKey.publicNumbers

def PublicKey.HasKeySize : PublicKey → Prop
  | rsa _ | sized _ _ _ => True
  | unsized _ _ => False

/- The passphrase in force has no lone surrogate, looking for the files raises nothing, no
parser that is reached raises more than the errors its caller catches, and the certificate,
if it is read, has a public key with a `key_size`. -/
structure Reportable (host : Host) (material : SigningMaterial) : Prop where
  passphrase : ∀ value, passphraseText host = some value → Codec.Encodable value
  found : ∀ text, material.require host.files ≠ .error (.osError text)
  certificate : ∀ paths raised, material.require host.files = .ok paths →
    SigningMaterial.readCertificate host paths.1 ≠ .error (.raised raised)
  keySize : ∀ paths certificate, material.require host.files = .ok paths →
    SigningMaterial.readCertificate host paths.1 = .ok certificate → certificate.publicKey.HasKeySize
  privateKey : ∀ paths certificate raised, material.require host.files = .ok paths →
    SigningMaterial.readCertificate host paths.1 = .ok certificate →
    SigningMaterial.readPrivateKey host paths.2 ≠ .error (.raised raised)

section Verdict
variable {host : Host} {material : SigningMaterial}

theorem summarised {certificate : Certificate} :
    (∃ summary, certificateSummary host.parsers certificate = .ok summary) ↔ certificate.publicKey.HasKeySize := by
  unfold certificateSummary
  cases certificate.publicKey with
  | rsa numbers => simp [PublicKey.keySize,PublicKey.HasKeySize,Except.mapError,bind,Except.bind,pure,Except.pure]
  | sized name size spki => simp [PublicKey.keySize,PublicKey.HasKeySize,Except.mapError,bind,Except.bind,pure,Except.pure]
  | unsized name spki => simp [PublicKey.keySize,PublicKey.HasKeySize,Except.mapError,bind,Except.bind]

theorem encoded {text : PyText} : (∃ data, encodeText text = .ok data) ↔ Codec.Encodable text := by
  rw [← Codec.scalarsEncodable,encodeText]
  cases scalars text <;> simp

theorem passphraseGiven : (∃ password, passphrase host = .ok password) ↔
    ∀ value, passphraseText host = some value → Codec.Encodable value := by
  unfold passphrase
  cases passphraseText host with
  | none => simp
  | some value =>
    simp only [Option.some.injEq,forall_eq',← encoded]
    cases encodeText value <;> simp [Except.map]

theorem passphraseThrows {thrown : Thrown} (failed : passphrase host = .error thrown) : ∃ raised, thrown = .raised raised := by
  unfold passphrase at failed
  split at failed
  · rename_i value _
    unfold encodeText at failed
    split at failed
    · cases failed
    · cases failed
      exact ⟨_,rfl⟩
  · cases failed

theorem requireThrows {thrown : Thrown} (h : material.require host.files = .error thrown) :
    (∃ text, thrown = .configuration text) ∨ ∃ text, thrown = .osError text := by
  have present : ∀ label path thrown, material.present host.files label path = .error thrown →
      (∃ text, thrown = .configuration text) ∨ ∃ text, thrown = .osError text := by
    intro label path thrown h
    unfold SigningMaterial.present at h
    split at h
    · cases h
      exact .inr ⟨_,rfl⟩
    · cases h
    · cases h
      exact .inl ⟨_,rfl⟩
  unfold SigningMaterial.require at h
  split at h
  · cases h
    exact .inl ⟨_,rfl⟩
  · cases h
    exact .inl ⟨_,rfl⟩
  · rename_i certificate privateKey _ _
    simp only [bind,Except.bind] at h
    split at h
    · rename_i failed
      cases h
      exact present _ _ _ failed
    · split at h
      · rename_i failed
        cases h
        exact present _ _ _ failed
      · cases h

-- What a file's reader throws: caught, or an exception of the package.
def Read (thrown : Thrown) : Prop := thrown.caught = true ∨ ∃ raised, thrown = .raised raised

theorem readThrown {α : Type} {files : Files} {path : Path} {parse : Bytes → Except Thrown α} {thrown : Thrown}
    (parses : ∀ data thrown, parse data = .error thrown → Read thrown)
    (h : ((files.readBytes path).mapError Thrown.osError >>= parse) = .error thrown) : Read thrown := by
  cases read : files.readBytes path with
  | error text =>
    rw [read] at h
    cases h
    exact .inl rfl
  | ok data =>
    rw [read] at h
    exact parses data thrown h

theorem certificateThrows {path : Path} {thrown : Thrown}
    (h : SigningMaterial.readCertificate host path = .error thrown) : Read thrown := by
  refine readThrown (fun data thrown h => ?_) h
  unfold loadCertificate at h
  split at h
  · cases h
  · split at h
    · cases h
      exact .inl rfl
    · split at h
      · cases h
      · cases h
        exact .inl rfl
      · cases h
        exact .inr ⟨_,rfl⟩
  · cases h
    exact .inr ⟨_,rfl⟩

theorem privateKeyThrows {path : Path} {thrown : Thrown}
    (h : SigningMaterial.readPrivateKey host path = .error thrown) : Read thrown := by
  refine readThrown (fun data thrown h => ?_) h
  cases given : passphrase host with
  | error other =>
    simp only [given,bind,Except.bind] at h
    cases h
    exact .inr (passphraseThrows given)
  | ok password =>
    simp only [given,bind,Except.bind] at h
    unfold loadPrivateKey at h
    split at h
    · cases h
    · cases h
      exact .inl rfl
    · cases h
      exact .inl rfl
    · cases h
      exact .inl rfl
    · cases h
      exact .inr ⟨_,rfl⟩

theorem parsedWith {paths : Path × Path} (required : material.require host.files = .ok paths) {c : Certificate}
    {k : RsaPrivateKey} : material.Parsed host c k ↔
      SigningMaterial.readCertificate host paths.1 = .ok c ∧ SigningMaterial.readPrivateKey host paths.2 = .ok k := by
  constructor
  · rintro ⟨paths',own,read⟩
    rw [required] at own
    cases Except.ok.inj own
    exact read
  · intro read
    exact ⟨paths,required,read⟩

theorem agreesUnparsed {report : Report} (unparsed : ∀ c k, ¬ material.Parsed host c k) (refused : report.ok = false)
    (unmatched : report.matches_ = none) : Agrees host material report where
  ok := by
    simp only [refused,Bool.false_eq_true,false_iff]
    rintro ⟨credentials,loaded⟩
    exact unparsed _ _ (loadOk.mp loaded).1
  matches_ := by
    simp only [unmatched,reduceCtorEq,false_iff]
    rintro ⟨c,k,parsed,_⟩
    exact unparsed c k parsed

theorem agreesJudged {paths : Path × Path} {certificate : Certificate} {privateKey : RsaPrivateKey} {report : Report}
    (required : material.require host.files = .ok paths)
    (readC : SigningMaterial.readCertificate host paths.1 = .ok certificate)
    (readK : SigningMaterial.readPrivateKey host paths.2 = .ok privateKey) (before : report.ok = false) :
    Agrees host material (SigningMaterial.judge host.now paths certificate privateKey report) := by
  obtain ⟨verdict,compared⟩ := @judged host paths certificate privateKey report before
  have parsed : material.Parsed host certificate privateKey := (parsedWith required).mpr ⟨readC,readK⟩
  have only : ∀ c k, material.Parsed host c k → c = certificate ∧ k = privateKey := by
    intro c k other
    obtain ⟨ownC,ownK⟩ := (parsedWith required).mp other
    rw [readC] at ownC
    rw [readK] at ownK
    exact ⟨(Except.ok.inj ownC).symm,(Except.ok.inj ownK).symm⟩
  constructor
  · rw [verdict]
    constructor
    · intro both
      exact ⟨⟨certificate,privateKey⟩,loadOk.mpr ⟨parsed,both⟩⟩
    · rintro ⟨credentials,loaded⟩
      obtain ⟨own,both⟩ := loadOk.mp loaded
      obtain ⟨sameC,sameK⟩ := only _ _ own
      rw [← sameC,← sameK]
      exact both
  · rw [compared,Option.some.injEq,← Bool.not_eq_true,matched]
    constructor
    · intro other
      exact ⟨certificate,privateKey,parsed,other⟩
    · rintro ⟨c,k,own,other⟩
      obtain ⟨rfl,rfl⟩ := only c k own
      exact other

theorem reportableWith {paths : Path × Path} (required : material.require host.files = .ok paths)
    (given : ∃ password, passphrase host = .ok password) :
    Reportable host material ↔ (∀ raised, SigningMaterial.readCertificate host paths.1 ≠ .error (.raised raised)) ∧
      ∀ certificate, SigningMaterial.readCertificate host paths.1 = .ok certificate →
        certificate.publicKey.HasKeySize ∧ ∀ raised, SigningMaterial.readPrivateKey host paths.2 ≠ .error (.raised raised) := by
  constructor
  · intro r
    exact ⟨fun raised => r.certificate paths raised required,fun c read => ⟨r.keySize paths c required read,
      fun raised => r.privateKey paths c raised required read⟩⟩
  · rintro ⟨certificate,rest⟩
    have own : ∀ {paths'}, material.require host.files = .ok paths' → paths' = paths := by
      intro paths' same
      rw [required] at same
      exact (Except.ok.inj same).symm
    constructor
    · exact passphraseGiven.mp given
    · intro text failed
      rw [required] at failed
      cases failed
    · rintro paths' raised same
      exact own same ▸ certificate raised
    · rintro paths' c same read
      exact (rest c (own same ▸ read)).1
    · rintro paths' c raised same read
      exact own same ▸ (rest c (own same ▸ read)).2 raised

theorem reportableMissing {thrown : Thrown} (required : material.require host.files = .error thrown)
    (given : ∃ password, passphrase host = .ok password) :
    Reportable host material ↔ ∀ text, thrown ≠ .osError text := by
  have never : ∀ {paths}, material.require host.files ≠ .ok paths := by
    intro paths own
    rw [required] at own
    cases own
  constructor
  · rintro r text rfl
    exact r.found text required
  · intro other
    refine ⟨passphraseGiven.mp given,?_,fun _ _ own => absurd own never,fun _ _ own => absurd own never,fun _ _ _ own => absurd own never⟩
    intro text same
    rw [required] at same
    exact other text (Except.error.inj same)

theorem verifyWithAgrees (password : Option Bytes) (given : passphrase host = .ok password) :
    (∃ report, material.verifyWith host (material.emptyReport password) = .ok report ∧ Agrees host material report) ↔
      Reportable host material := by
  unfold SigningMaterial.verifyWith
  cases required : material.require host.files with
  | error thrown =>
    have unparsed : ∀ c k, ¬ material.Parsed host c k := by
      rintro c k ⟨paths,own,_⟩
      rw [required] at own
      cases own
    rw [reportableMissing required ⟨password,given⟩]
    rcases requireThrows required with ⟨text,rfl⟩ | ⟨text,rfl⟩
    · simp only [ne_eq,reduceCtorEq,not_false_eq_true,implies_true,iff_true]
      exact ⟨_,rfl,agreesUnparsed unparsed rfl rfl⟩
    · simp
  | ok paths =>
    rw [reportableWith required ⟨password,given⟩]
    dsimp only
    cases readC : SigningMaterial.readCertificate host paths.1 with
    | error thrown =>
      have unparsed : ∀ c k, ¬ material.Parsed host c k := by
        intro c k parsed
        have own := ((parsedWith required).mp parsed).1
        rw [readC] at own
        cases own
      rcases certificateThrows readC with caught | ⟨raised,rfl⟩
      · have quiet : ∀ raised, thrown ≠ .raised raised := by
          rintro raised rfl
          cases caught
        simp only [caught,if_true,ne_eq,Except.error.injEq,reduceCtorEq,false_implies,implies_true,and_true]
        exact ⟨fun _ => quiet,fun _ => ⟨_,rfl,agreesUnparsed unparsed rfl rfl⟩⟩
      · simp [Thrown.caught]
    | ok certificate =>
      simp only [ne_eq,reduceCtorEq,not_false_eq_true,implies_true,true_and,Except.ok.injEq,forall_eq']
      cases summary : certificateSummary host.parsers certificate with
      | error thrown =>
        have small : ¬ certificate.publicKey.HasKeySize := by
          intro size
          obtain ⟨summary',made⟩ := (@summarised host certificate).mpr size
          rw [summary] at made
          cases made
        simp [small]
      | ok summary' =>
        have size : certificate.publicKey.HasKeySize := summarised.mp ⟨summary',summary⟩
        dsimp only
        cases readK : SigningMaterial.readPrivateKey host paths.2 with
        | error thrown =>
          have unparsed : ∀ c k, ¬ material.Parsed host c k := by
            intro c k parsed
            have own := ((parsedWith required).mp parsed).2
            rw [readK] at own
            cases own
          rcases privateKeyThrows readK with caught | ⟨raised,rfl⟩
          · have quiet : ∀ raised, thrown ≠ .raised raised := by
              rintro raised rfl
              cases caught
            simp only [caught,if_true,Except.error.injEq]
            exact ⟨fun _ => ⟨size,quiet⟩,fun _ => ⟨_,rfl,agreesUnparsed unparsed rfl rfl⟩⟩
          · simp [Thrown.caught]
        | ok privateKey =>
          simp only [reduceCtorEq,not_false_eq_true,implies_true,and_true]
          exact ⟨fun _ => size,fun _ => ⟨_,rfl,agreesJudged required readC readK rfl⟩⟩

/- The report is there, and agrees with the signing path, exactly when nothing that no
caller catches is raised under it. -/
theorem verifyAgrees (host : Host) (material : SigningMaterial) :
    (∃ report, material.verify host = .ok report ∧ Agrees host material report) ↔ Reportable host material := by
  cases given : passphrase host with
  | error thrown =>
    have raises : material.verify host = .error thrown := by
      unfold SigningMaterial.verify
      rw [given]
      rfl
    refine iff_of_false ?_ fun r => ?_
    · rintro ⟨report,returned,_⟩
      rw [raises] at returned
      cases returned
    · obtain ⟨password,own⟩ := passphraseGiven.mpr r.passphrase
      rw [given] at own
      cases own
  | ok password =>
    have with_ : material.verify host = material.verifyWith host (material.emptyReport password) := by
      unfold SigningMaterial.verify
      rw [given]
      rfl
    rw [with_]
    exact verifyWithAgrees password given

end Verdict

/-! A certificate of an Ed25519 key: the file is there and is read, and its summary
asks for a `key_size`. -/

namespace Example

def day (year : Nat) (date : Codec.ValidDate year 1 1) : Codec.Datetime :=
  ⟨year,1,1,0,0,0,date,by decide⟩

def certificate : Certificate where
  publicKey := .unsized "Ed25519PublicKey" [48,42,48,5,6,3,43,101,112,3,33,0]
  subject := "CN=test,2.5.4.5=10100302746"
  issuer := "CN=test"
  serialNumber := 1
  nationalIds := ["10100302746"]
  notValidBefore := day 2024 (by decide)
  notValidAfter := day 2030 (by decide)

def host : Host where
  parsers := {
    pemCertificate := fun _ => .ok certificate
    derCertificate := fun _ => .error (.valueError "error parsing asn1 value")
    pemPrivateKey := fun _ _ => .ok (.rsa ⟨⟨3233,17⟩,2753⟩)
    spki := fun _ => []
    sha256 := fun data => data }
  files := { isFile := fun _ => .ok true, readBytes := fun _ => .ok (ascii "-----BEGIN CERTIFICATE-----\n") }
  configured := none
  environ := none
  now := ⟨day 2025 (by decide),0,by decide⟩

def settings : Config.Settings where
  instanceDir := ⟨"",["instance"]⟩
  certificatePath := some ⟨"/",["cert.crt"]⟩
  privateKeyPath := some ⟨"/",["key.pem"]⟩

def material : SigningMaterial := signingMaterial settings .sandbox

end Example

theorem unsizedKeyRaises : Example.material.verify Example.host =
      .error (.raised (.other "'Ed25519PublicKey' object has no attribute 'key_size'")) ∧
    ¬ ∃ report, Example.material.verify Example.host = .ok report ∧ Agrees Example.host Example.material report := by
  have raised : Example.material.verify Example.host =
      .error (.raised (.other "'Ed25519PublicKey' object has no attribute 'key_size'")) := by rfl
  refine ⟨raised,?_⟩
  rintro ⟨report,returned,_⟩
  rw [raised] at returned
  cases returned

end Moadian.Keyring
