import Moadian.Codec.JsonTrip
import Moadian.Config.Profile
import Moadian.Crypto.Keys
import Moadian.Dictionary

/-! What the store's file holds: the profiles as one ciphertext, under a key that is
derived from the passphrase, and beside it what the key was derived with. -/
namespace Moadian.Config
open Codec Crypto

/- Python and the `cryptography` package, as the store uses them. `scrypt` is of a
password, a salt, a length, and the parameters n, r and p. -/
structure Package where
  floats : Floats
  repr : Json → String
  -- `int` of a text
  int : String → Option Int
  undecodable : Bytes → String
  lib : Library
  scrypt : Bytes → Bytes → Nat → Int → Int → Int → Except Raised Bytes

abbrev Profiles := Dictionary String Profile

def configuration (message : String) : Fail := .error (.configuration message)

def fileVersion : Int := 1
def scryptN : Int := 2 ^ 15
def scryptR : Int := 8
def scryptP : Int := 1
def keyLength : Nat := 32
def saltLength : Nat := 16
def nonceLength : Nat := 12

structure ProfileStore where
  path : String
  passphrase : String
  unlocked : passphrase ≠ ""

def ProfileStore.at_ (path masterPassphrase : String) : Except Fail ProfileStore :=
  if empty : masterPassphrase = "" then .error (configuration "master passphrase must not be empty")
  else .ok ⟨path,masterPassphrase,empty⟩

section Store
variable (pk : Package) (store : ProfileStore)

def deriveKey (salt : Bytes) (n r p : Int) : Except Fail Bytes :=
  (pk.scrypt (encodeUtf8 store.passphrase.toList) salt keyLength n r p).mapError Fail.escaped

/-! Writing. -/

def payload (profiles : Profiles) : Json :=
  .obj [("profiles",.obj (profiles.entries.map (fun e => (e.1,e.2.toJson))))]

def envelope (salt nonce ciphertext : Bytes) : Json := .obj [
  ("version",.int fileVersion),
  ("kdf",.obj [("name",.str "scrypt"),("n",.int scryptN),("r",.int scryptR),("p",.int scryptP),("length",.int keyLength)]),
  ("salt",.str (String.ofList (b64encode salt))),("nonce",.str (String.ofList (b64encode nonce))),
  ("ciphertext",.str (String.ofList (b64encode ciphertext)))]

def plaintextOf (profiles : Profiles) : Bytes := encodeUtf8 (dumps pk.floats .canonical (payload profiles))

def fileOf (salt nonce ciphertext : Bytes) : Bytes :=
  encodeUtf8 (dumps pk.floats (.indented 2) (envelope salt nonce ciphertext))

def sealed (salt nonce : Bytes) (profiles : Profiles) : Except Fail Bytes := do
  let key ← deriveKey pk store salt scryptN scryptR scryptP
  let ciphertext ← (pk.lib.gcmEncrypt key nonce (plaintextOf pk profiles) []).mapError Fail.escaped
  .ok (fileOf pk salt nonce ciphertext)

/-! Reading. -/

-- Reading as text turns every line end into a line feed.
def universalNewlines : List Char → List Char
  | '\r' :: '\n' :: rest => '\n' :: universalNewlines rest
  | '\r' :: rest => '\n' :: universalNewlines rest
  | c :: rest => c :: universalNewlines rest
  | [] => []

def loads (doc : List Char) : Except Codec.Fault Json :=
  if doc.head? = some '\uFEFF' then .error (.decode "Unexpected UTF-8 BOM (decode using utf-8-sig)" doc)
  else raw pk.floats doc

def escapedFault (doc : List Char) (fault : Codec.Fault) : Fail := .escaped (.valueError (faultText doc fault))

def isOne : Json → Bool
  | .int n => n == 1
  | .bool b => b
  | .float (.finite q) => q == 1
  | _ => false

-- `int(v)`: an infinite float is refused with an error that is not looked for.
def asInt (malformed : Fail) : Json → Except Fail Int
  | .int n => .ok n
  | .bool b => .ok (if b then 1 else 0)
  | .float (.finite q) => .ok (q.num.tdiv q.den)
  | .float (.infinite _) => .error (.escaped (.other "cannot convert float infinity to integer"))
  | .str text => (pk.int text).elim (.error malformed) .ok
  | _ => .error malformed

-- Whatever is no dict, or an empty one, has no parameters.
def kdfParam (malformed : Fail) (kdf : Json) (name : String) : Except Fail Int :=
  match kdf.get name with
  | some v => asInt pk malformed v
  | none => .error malformed

def unb64 (envelope : Dict) (field : String) : Except Fail Bytes :=
  let bad := configuration ("profile store field '" ++ field ++ "' is not valid base64")
  match (envelope.lookup field).getD (.str "") with
  | .str text => (b64decode true text.toList).mapError (fun _ => bad)
  | _ => .error bad

def Profile.Malformed.fail : Profile.Malformed → Fail
  | .configuration message => .error (.configuration message)
  | .typeError message => .escaped (.typeError message)
  | .untyped field => .escaped (.other ("stored profile is mistyped at " ++ field))

def fromMembers (profiles : Profiles) : Dict → Except Fail Profiles
  | [] => .ok profiles
  | (name,data) :: rest => do
    let profile ← (Profile.fromJson pk.repr data).mapError Profile.Malformed.fail
    fromMembers (profiles.put name profile) rest

def fromPayload : Json → Except Fail Profiles
  | .obj members => match (members.lookup "profiles").getD (.obj []) with
    | .obj stored => fromMembers pk .empty stored
    | _ => .error (.escaped (.other "no attribute 'items'"))
  | _ => .error (.escaped (.other "no attribute 'get'"))

def couldNotDecrypt : Fail :=
  configuration ("could not decrypt " ++ store.path ++ ": wrong master passphrase or corrupted file")

def fromPlaintext (plaintext : Bytes) : Except Fail Profiles :=
  match decodeUtf8 plaintext with
  | none => .error (.escaped (.valueError (pk.undecodable plaintext)))
  | some doc => match loads pk doc with
    | .error fault => .error (escapedFault doc fault)
    | .ok v => fromPayload pk v

def fromEnvelope (members : Dict) : Except Fail Profiles := do
  let malformed := configuration ("profile store " ++ store.path ++ " has malformed kdf params")
  let version := (members.lookup "version").getD .null
  if !isOne version then
    throw (configuration ("profile store " ++ store.path ++ " has version " ++ pk.repr version ++ ", expected 1"))
  let kdf := (members.lookup "kdf").getD .null
  let n ← kdfParam pk malformed kdf "n"
  let r ← kdfParam pk malformed kdf "r"
  let p ← kdfParam pk malformed kdf "p"
  let salt ← unb64 members "salt"
  let nonce ← unb64 members "nonce"
  let ciphertext ← unb64 members "ciphertext"
  let key ← deriveKey pk store salt n r p
  match pk.lib.gcmDecrypt key nonce ciphertext [] with
  | none => throw (couldNotDecrypt store)
  | some plaintext => fromPlaintext pk plaintext

def opened (doc : List Char) : Except Fail Profiles :=
  match loads pk doc with
  | .error (.value message) => .error (.escaped (.valueError message))
  | .error fault => .error (configuration ("profile store " ++ store.path ++ " is unreadable: " ++ faultText doc fault))
  | .ok (.obj members) => fromEnvelope pk store members
  | .ok _ => .error (configuration ("profile store " ++ store.path ++ " is not a JSON object"))

/-! What is read back is what was written. -/

theorem newlinesKept {doc : List Char} (none_ : '\r' ∉ doc) : universalNewlines doc = doc := by
  induction doc with
  | nil => rfl
  | cons c rest ih =>
    rw [List.mem_cons,not_or] at none_
    rw [universalNewlines.eq_3 _ _ (fun _ same _ => none_.1 same.symm) (fun same => none_.1 same.symm),ih none_.2]

theorem loadsDumps {s : Style} {v : Json} (plain : Plain v) (first : (dumps pk.floats s v).head? ≠ some '\uFEFF') :
    loads pk (dumps pk.floats s v) = .ok v := by
  rw [loads,if_neg first,rawDumps pk.floats s plain]

theorem fromMembersOf (entries : List (String × Profile)) (profiles : Profiles)
    (nodup : ((profiles.entries ++ entries).map Prod.fst).Nodup) :
    ∃ all, fromMembers pk profiles (entries.map (fun e => (e.1,e.2.toJson))) = .ok all ∧
      all.entries = profiles.entries ++ entries := by
  induction entries generalizing profiles with
  | nil => exact ⟨profiles,rfl,(List.append_nil _).symm⟩
  | cons e rest ih =>
    have fresh : e.1 ∉ profiles.keys := by
      rw [List.map_append,List.map_cons] at nodup
      exact fun old => (List.nodup_append.mp nodup).2.2 _ old _ List.mem_cons_self rfl
    have grown : (profiles.put e.1 e.2).entries = profiles.entries ++ [e] := if_neg fresh
    obtain ⟨all,made,same⟩ := ih (profiles.put e.1 e.2) (by rw [grown,List.append_assoc]; exact nodup)
    refine ⟨all,?_,by rw [same,grown,List.append_assoc]; rfl⟩
    simp only [List.map_cons,fromMembers,Profile.fromToJson,Except.mapError,bind,Except.bind]
    exact made

theorem fromPayloadOf (profiles : Profiles) : fromPayload pk (payload profiles) = .ok profiles := by
  obtain ⟨all,made,same⟩ := fromMembersOf pk profiles.entries .empty profiles.nodup
  have whole : all = profiles := by
    obtain ⟨entries,nodup⟩ := all
    obtain ⟨entries',nodup'⟩ := profiles
    simp only [Dictionary.empty,List.nil_append] at same
    subst same
    rfl
  simpa [fromPayload,payload,whole] using made

theorem optionalPlain (text : Option String) : Plain (Profile.optional text) := by
  cases text <;> exact True.intro

theorem profilePlain (profile : Profile) : Plain profile.toJson :=
  ⟨by simp,True.intro,True.intro,True.intro,optionalPlain _,optionalPlain _,True.intro⟩

theorem payloadPlain (profiles : Profiles) : Plain (payload profiles) := by
  have members : ∀ entries : List (String × Profile), PlainMembers (entries.map (fun e => (e.1,e.2.toJson))) := by
    intro entries
    induction entries with
    | nil => exact True.intro
    | cons e rest ih => exact ⟨profilePlain e.2,ih⟩
  refine ⟨by simp,⟨?_,members _⟩,True.intro⟩
  simpa [Function.comp_def] using profiles.nodup

theorem smallInt {n : Int} (small : n.natAbs < 10 ^ 5) : Plain (.int n) :=
  Nat.lt_of_lt_of_le small (Nat.pow_le_pow_right (by decide) (by decide))

theorem envelopePlain (salt nonce ciphertext : Bytes) : Plain (envelope salt nonce ciphertext) :=
  ⟨by simp,smallInt (by decide),
    ⟨by simp,True.intro,smallInt (by decide),smallInt (by decide),smallInt (by decide),smallInt (by decide),True.intro⟩,
    True.intro,True.intro,True.intro,True.intro⟩

theorem objectHead (s : Style) (members : Dict) : (dumps pk.floats s (.obj members)).head? = some '\x7b' := by
  cases members with
  | nil => rfl
  | cons m rest => rfl

theorem fromPlaintextOf (profiles : Profiles) :
    fromPlaintext pk (plaintextOf pk profiles) = .ok profiles := by
  have read := loadsDumps pk (s := .canonical) (payloadPlain profiles) (by rw [payload,objectHead]; decide)
  simp only [plaintextOf,fromPlaintext,decodeEncoded,read]
  exact fromPayloadOf pk profiles

/- A store under any passphrase comes to the ciphertext of what was written, with the key
of its own passphrase. -/
theorem openedEnvelope (salt nonce ciphertext : Bytes) :
    opened pk store (dumps pk.floats (.indented 2) (envelope salt nonce ciphertext)) =
      (deriveKey pk store salt scryptN scryptR scryptP).bind (fun key => match pk.lib.gcmDecrypt key nonce ciphertext [] with
        | none => .error (couldNotDecrypt store)
        | some plaintext => fromPlaintext pk plaintext) := by
  have read := loadsDumps pk (s := .indented 2) (envelopePlain salt nonce ciphertext) (by rw [envelope,objectHead]; decide)
  rw [opened,read]
  simp only [envelope,fromEnvelope,List.lookup_cons]
  simp [isOne,fileVersion,kdfParam,Json.get,List.lookup_cons,asInt,unb64,decodeEncode,Except.mapError,bind,Except.bind]
  rfl

variable {pk store} {salt nonce data : Bytes} {profiles : Profiles}

theorem sealedParts (made : sealed pk store salt nonce profiles = .ok data) :
    ∃ key ciphertext, deriveKey pk store salt scryptN scryptR scryptP = .ok key ∧
      pk.lib.gcmEncrypt key nonce (plaintextOf pk profiles) [] = .ok ciphertext ∧ data = fileOf pk salt nonce ciphertext := by
  simp only [sealed,bind,Except.bind] at made
  cases derived : deriveKey pk store salt scryptN scryptR scryptP with
  | error f => simp [derived] at made
  | ok key =>
    cases encrypted : pk.lib.gcmEncrypt key nonce (plaintextOf pk profiles) [] with
    | error r => simp [derived,encrypted,Except.mapError] at made
    | ok ciphertext =>
      simp only [derived,encrypted,Except.mapError,Except.ok.injEq] at made
      exact ⟨key,ciphertext,rfl,encrypted,made.symm⟩

def derived (pk : Package) (passphrase : String) (salt : Bytes) : Except Raised Bytes :=
  pk.scrypt (encodeUtf8 passphrase.toList) salt keyLength scryptN scryptR scryptP

theorem deriveKeyDerived : deriveKey pk store salt scryptN scryptR scryptP =
    (derived pk store.passphrase salt).mapError Fail.escaped := rfl

/- The package refuses to derive a key of the salt that was drawn, or to encrypt these
profiles with that key and the nonce that was drawn. -/
inductive Unsealed (pk : Package) (passphrase : String) (salt nonce : Bytes) (profiles : Profiles) : Raised → Prop where
  | derive {raised : Raised} (refused : derived pk passphrase salt = .error raised) : Unsealed pk passphrase salt nonce profiles raised
  | encrypt {key : Bytes} {raised : Raised} (own : derived pk passphrase salt = .ok key)
      (refused : pk.lib.gcmEncrypt key nonce (plaintextOf pk profiles) [] = .error raised) :
      Unsealed pk passphrase salt nonce profiles raised

theorem sealedFails {f : Fail} (failed : sealed pk store salt nonce profiles = .error f) :
    ∃ raised, f = .escaped raised ∧ Unsealed pk store.passphrase salt nonce profiles raised := by
  simp only [sealed,bind,Except.bind,deriveKeyDerived] at failed
  cases made : derived pk store.passphrase salt with
  | error raised =>
    simp only [made,Except.mapError] at failed
    exact ⟨raised,(Except.error.inj failed).symm,.derive made⟩
  | ok key =>
    cases encrypted : pk.lib.gcmEncrypt key nonce (plaintextOf pk profiles) [] with
    | error raised =>
      simp only [made,encrypted,Except.mapError] at failed
      exact ⟨raised,(Except.error.inj failed).symm,.encrypt made encrypted⟩
    | ok ciphertext => simp [made,encrypted,Except.mapError] at failed

def fileText (data : Bytes) : Option (List Char) := (decodeUtf8 data).map universalNewlines

theorem fileOfText (salt nonce ciphertext : Bytes) :
    fileText (fileOf pk salt nonce ciphertext) = some (dumps pk.floats (.indented 2) (envelope salt nonce ciphertext)) := by
  have lines : '\r' ∉ dumps pk.floats (.indented 2) (envelope salt nonce ciphertext) :=
    dumpNoReturn pk.floats (.indented 2) 0 _ (envelopePlain salt nonce ciphertext)
  rw [fileText,fileOf,decodeEncoded,Option.map_some,newlinesKept lines]

theorem sealedOpens (inverts : pk.lib.Inverts) (made : sealed pk store salt nonce profiles = .ok data) :
    ∃ doc, fileText data = some doc ∧ opened pk store doc = .ok profiles := by
  obtain ⟨key,ciphertext,own,encrypted,rfl⟩ := sealedParts made
  refine ⟨_,fileOfText salt nonce ciphertext,?_⟩
  rw [openedEnvelope,own]
  simp only [Except.bind,inverts.authenticated _ _ _ _ _ encrypted]
  exact fromPlaintextOf pk profiles

/- A passphrase is wrong for a file: the key it derives of the salt in the file does not
fit the tag of the ciphertext in the file. -/
def Wrong (pk : Package) (file : Option Bytes) (passphrase : String) : Prop :=
  ∀ salt nonce ciphertext key, file = some (fileOf pk salt nonce ciphertext) → derived pk passphrase salt = .ok key →
    pk.lib.gcmDecrypt key nonce ciphertext [] = none

theorem sealedRejected {reader : ProfileStore} (wrong : Wrong pk (some data) reader.passphrase)
    (made : sealed pk store salt nonce profiles = .ok data) :
    ∃ doc, fileText data = some doc ∧ (opened pk reader doc = .error (couldNotDecrypt reader) ∨
      ∃ ciphertext raised, data = fileOf pk salt nonce ciphertext ∧ derived pk reader.passphrase salt = .error raised ∧
        opened pk reader doc = .error (.escaped raised)) := by
  obtain ⟨_,ciphertext,_,_,rfl⟩ := sealedParts made
  refine ⟨_,fileOfText salt nonce ciphertext,?_⟩
  rw [openedEnvelope,deriveKeyDerived]
  cases other : derived pk reader.passphrase salt with
  | error raised => exact .inr ⟨ciphertext,raised,rfl,rfl,rfl⟩
  | ok key => exact .inl (by simp only [Except.mapError,Except.bind,wrong salt nonce ciphertext key rfl other])

/- Where the keys of two passphrases never fit each other's tags, each is wrong for what
the other has written. -/
def Rejects (pk : Package) (own other : String) : Prop :=
  ∀ salt key key', derived pk own salt = .ok key → derived pk other salt = .ok key' →
    ∀ nonce plaintext ciphertext, pk.lib.gcmEncrypt key nonce plaintext [] = .ok ciphertext →
      pk.lib.gcmDecrypt key' nonce ciphertext [] = none

theorem fileOfInjective {salt' nonce' ciphertext ciphertext' : Bytes}
    (same : fileOf pk salt nonce ciphertext = fileOf pk salt' nonce' ciphertext') :
    salt = salt' ∧ nonce = nonce' ∧ ciphertext = ciphertext' := by
  have read : ∀ salt nonce ciphertext : Bytes,
      loads pk (dumps pk.floats (.indented 2) (envelope salt nonce ciphertext)) = .ok (envelope salt nonce ciphertext) :=
    fun salt nonce ciphertext => loadsDumps pk (envelopePlain salt nonce ciphertext) (by rw [envelope,objectHead]; decide)
  have text := congrArg fileText same
  rw [fileOfText,fileOfText] at text
  have whole := (read salt nonce ciphertext).symm.trans ((congrArg (loads pk) (Option.some.inj text)).trans (read _ _ _))
  simp only [envelope,Except.ok.injEq,Json.obj.injEq,List.cons.injEq,Prod.mk.injEq,Json.str.injEq,true_and,and_true,
    String.ofList_inj] at whole
  have back : ∀ {a b : Bytes}, b64encode a = b64encode b → a = b := fun {a b} encoded => by
    have decoded := congrArg (b64decode true) encoded
    rw [decodeEncode,decodeEncode] at decoded
    exact Except.ok.inj decoded
  exact ⟨back whole.1,back whole.2.1,back whole.2.2⟩

theorem rejectsWrong {other : String} (rejects : Rejects pk store.passphrase other)
    (made : sealed pk store salt nonce profiles = .ok data) : Wrong pk (some data) other := by
  obtain ⟨key,ciphertext,own,encrypted,rfl⟩ := sealedParts made
  rw [deriveKeyDerived] at own
  intro salt' nonce' ciphertext' key' file other
  obtain ⟨rfl,rfl,rfl⟩ := fileOfInjective (Option.some.inj file)
  cases first : derived pk store.passphrase salt with
  | error raised => rw [first] at own; cases own
  | ok key'' => exact rejects salt key key' (by rw [first] at own; exact first.trans (congrArg _ (Except.ok.inj own))) other nonce _ ciphertext encrypted

end Store
end Moadian.Config
