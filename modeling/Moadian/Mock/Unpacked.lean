import Moadian.Client.Packet
import Moadian.Mock.Server

/-! The packet a client builds is taken apart by the server that holds the
matching key: what comes out is what was signed. -/
namespace Moadian.Mock
open Codec Crypto Wire

/-! Headers. -/

theorem detectsUtf8 (rest : Bytes) : detectEncoding (0x7B :: 0x22 :: rest) = .utf8 := by
  cases rest with
  | nil => rfl
  | cons a rest => cases rest <;> rfl

theorem loadsObject (py : Python) {style : Style} (flat : style.indent = none) {k : String} {v : Json} {rest : Dict}
    (plain : Plain (.obj ((k,v) :: rest))) :
    loads py (encodeUtf8 (dumps py.floats style (.obj ((k,v) :: rest)))) = .ok (.obj ((k,v) :: rest)) := by
  have read := rawDumps py.floats style plain
  have shape : ∃ t, dumps py.floats style (.obj ((k,v) :: rest)) = '{' :: '"' :: t := by
    simp only [dumps,dump,Style.newline,flat,quoted,List.cons_append,List.nil_append,List.append_assoc]
    exact ⟨_,rfl⟩
  obtain ⟨t,shape⟩ := shape
  rw [shape] at read ⊢
  have first : encodeUtf8 ('{' :: '"' :: t) = 0x7B :: 0x22 :: encodeUtf8 t := rfl
  simp only [loads,first,detectsUtf8]
  rw [← first,decodeEncoded]
  simp only [read]

variable {lib : Library}

theorem headerChecked (py : Python) (credentials : SigningCredentials lib) (d : Datetime) (code : String) :
    checkProtectedHeader py (jwsHeader credentials (strftime d)) code =
      .ok (.str (String.ofList (b64encode credentials.der))) := by
  have time : strptimeValue py (.str (String.ofList (strftime d))) = .ok d := by
    rw [strptimeValue,String.toList_ofList,strptimeStrftime]
  have keys : (jwsHeader credentials (strftime d)).map Prod.fst = jwsHeaderKeys := rfl
  have alg : (jwsHeader credentials (strftime d)).lookup "alg" = some (.str "RS256") := rfl
  have crit : (jwsHeader credentials (strftime d)).lookup "crit" = some (.arr [.str "sigT"]) := rfl
  have chain : (jwsHeader credentials (strftime d)).lookup "x5c" =
      some (.arr [.str (String.ofList (b64encode credentials.der))]) := rfl
  have sigT : (jwsHeader credentials (strftime d)).lookup "sigT" = some (.str (String.ofList (strftime d))) := rfl
  simp only [checkProtectedHeader,keys,alg,crit,chain,sigT]
  simp [isText,time,rejecting,bind,Except.bind]

theorem certificateDecoded (inverts : lib.Inverts) (credentials : SigningCredentials lib) (code : String) :
    decodeCertificate lib (.str (String.ofList (b64encode credentials.der))) code = .ok credentials.certificate := by
  simp only [decodeCertificate,String.toList_ofList,decodeEncode,rejecting,bind,Except.bind]
  rw [SigningCredentials.der,inverts.certificate]

/-! Parts. -/

theorem splitDotted (a : Bytes) (rest : List Char) : split '.' (dotted (b64url a) rest) = b64url a :: split '.' rest :=
  splitAt (unpaddedNoDot a) rest

theorem splitLast (a : Bytes) : split '.' (b64url a) = [b64url a] := splitNever (unpaddedNoDot a)

theorem dottedLeft (a b c : List Char) : dotted (dotted a b) c = dotted a (dotted b c) := by
  simp [dotted]

theorem jwsHeaderPlain (credentials : SigningCredentials lib) (d : Datetime) :
    Plain (.obj (jwsHeader credentials (strftime d))) :=
  ⟨by simp [jwsHeader],⟨True.intro,True.intro⟩,True.intro,⟨True.intro,True.intro⟩,True.intro,True.intro⟩

theorem jweHeaderPlain (encryptor : JweEncryptor lib) : Plain (.obj (jweHeader encryptor)) :=
  ⟨by simp [jweHeader],True.intro,True.intro,True.intro,True.intro⟩

structure Trusted (state : MockState lib) (now : Int) (credentials : SigningCredentials lib) : Prop where
  opened : lib.notValidBefore credentials.certificate ≤ now
  open_ : now ≤ lib.notValidAfter credentials.certificate
  known : ∀ trusted, state.trustedDer = some trusted → credentials.der ∈ trusted

theorem jwsVerified (inverts : lib.Inverts) (py : Python) {state : MockState lib} {credentials : SigningCredentials lib}
    (matched : credentials.Matched) {now : Int} (trusted : Trusted state now credentials) (codes : Codes) {clock : Clock}
    {payload : Bytes} {token : List Char} {d : Datetime} {signature : Bytes}
    (signed : Signed py.floats credentials clock payload token d signature) :
    verifyJws py state now codes token = .ok (jwsHeader credentials (strftime d),payload,credentials.certificate) := by
  have loaded : loads py (headerBytes py.floats credentials d) = .ok (.obj (jwsHeader credentials (strftime d))) :=
    loadsObject py rfl (jwsHeaderPlain credentials d)
  have known : state.trustedDer.any (fun t => !t.contains (lib.certificateDer credentials.certificate)) = false := by
    cases shape : state.trustedDer with
    | none => rfl
    | some t =>
      have inside : lib.certificateDer credentials.certificate ∈ t := trusted.known t shape
      simpa using inside
  have ofKey : lib.certificateKey credentials.certificate = .rsa (lib.publicKey credentials.privateKey) := matched
  have verifies := inverts.signed _ _ _ signed.signed
  rw [verifyJws,signed.parts,dottedLeft,splitDotted,splitDotted,splitLast]
  simp only [b64urlBack,rejecting,bind,Except.bind,loaded,Except.mapError,headerChecked,certificateDecoded inverts,
    trusted.opened,trusted.open_,and_self,not_true_eq_false,if_false,known,Bool.false_eq_true,ofKey,signingAscii,verifies,
    if_true]

theorem jweOpened (inverts : lib.Inverts) (py : Python) {state : MockState lib} {encryptor : JweEncryptor lib}
    (known : encryptor.serverKey = ⟨state.keyId,state.publicKeyB64⟩) {drawn : Drawn} {plaintext jwe : List Char}
    {key sealed : Bytes} (encrypted : Encrypted py.floats encryptor drawn plaintext jwe key sealed) :
    decryptJwe py state jwe = .ok plaintext := by
  have loaded : loads py (jweHeaderBytes py.floats encryptor) = .ok (.obj (jweHeader encryptor)) :=
    loadsObject py rfl (jweHeaderPlain encryptor)
  have matching : encryptor.publicKey = lib.publicKey state.privateKey := by
    obtain ⟨shown,read⟩ := encryptor.loaded
    rw [known] at read
    simp only [ServerKey.publicKey,MockState.publicKeyB64,decodeEncode,inverts.spki] at read
    exact (Except.ok.inj read).symm
  have unwrapped := inverts.encrypted _ _ _ _ (matching ▸ encrypted.key)
  have opened := inverts.authenticated _ _ _ _ _ encrypted.closed
  have whole : sealed.take (sealed.length - tagBytes) ++ sealed.drop (sealed.length - tagBytes) = sealed :=
    List.take_append_drop _ _
  have kid : encryptor.serverKey.id = state.keyId := by rw [known]
  rw [decryptJwe,encrypted.parts,jweParts,splitDotted,splitDotted,splitDotted,splitDotted,splitLast]
  simp only [b64urlBack,rejecting,bind,Except.bind,loaded,Except.mapError,drawn.ivBytes,drawn.cekBytes,unwrapped,whole,
    aadAscii,opened,decodeEncoded]
  simp [jweHeader,List.lookup_cons,isText,kid]

/-! The packet. -/

def Unmade (credentials : SigningCredentials lib) (clock : Clock) (encryptor : JweEncryptor lib) (drawn : Drawn) : Prop :=
  clock.utc = none ∨ (∃ input raised, lib.sign credentials.privateKey input = .error raised) ∨
    (∃ raised, lib.oaepEncrypt encryptor.publicKey drawn.seed drawn.cek = .error raised) ∨
    ∃ data aad raised, lib.gcmEncrypt drawn.cek drawn.iv data aad = .error raised

structure Undone (py : Python) (state : MockState lib) (now : Int) (credentials : SigningCredentials lib) (clock : Clock)
    (encryptor : JweEncryptor lib) (drawn : Drawn) (signed : Bytes) (built : Except Fail Packet) : Prop where
  coding : ∀ data, b64urlDecode (b64url data) = .ok data
  parts : ∀ packet, built = .ok packet → ∃ jws header, decryptJwe py state packet.payload = .ok jws ∧
    verifyJws py state now packetCodes jws = .ok (header,signed,credentials.certificate)
  opened : ∀ packet, built = .ok packet → ∃ header, header.map Prod.fst = jwsHeaderKeys ∧
    openPacket py state now packet.payload = .ok (header,signed,credentials.certificate)
  unmade : ∀ e, built = .error e → Unmade credentials clock encryptor drawn

theorem packetUnpacked (inverts : lib.Inverts) (py : Python) {state : MockState lib} {credentials : SigningCredentials lib}
    (matched : credentials.Matched) {now : Int} (trusted : Trusted state now credentials) {encryptor : JweEncryptor lib}
    (known : encryptor.serverKey = ⟨state.keyId,state.publicKeyB64⟩) (clock : Clock) (drawn : Drawn) {invoice : Dict}
    {signed : Bytes} (canonical : canonicalBytes py.floats (.obj invoice) = .ok signed) (fiscalId : String)
    (requestTraceId : Option String) (fresh : String) :
    Undone py state now credentials clock encryptor drawn signed
      (buildPacket py.floats credentials clock encryptor drawn invoice fiscalId requestTraceId fresh) := by
  have steps : buildPacket py.floats credentials clock encryptor drawn invoice fiscalId requestTraceId fresh =
      match sign py.floats credentials clock signed with
      | .error e => .error e
      | .ok jws => match encrypt py.floats encryptor drawn jws with
        | .error e => .error e
        | .ok jwe => .ok ⟨jwe,⟨traceId fresh requestTraceId,fiscalId⟩⟩ := by
    simp only [buildPacket,canonical,bind,Except.bind]
    cases sign py.floats credentials clock signed with
    | error e => rfl
    | ok jws =>
      simp only
      cases encrypt py.floats encryptor drawn jws <;> rfl
  rw [steps]
  cases made : sign py.floats credentials clock signed with
  | error e => exact ⟨b64urlBack,fun _ no => (by cases no),fun _ no => (by cases no),fun _ _ => (signFails made).imp_right .inl⟩
  | ok jws =>
    cases closed : encrypt py.floats encryptor drawn jws with
    | error e =>
      simp only [closed]
      exact ⟨b64urlBack,fun _ no => (by cases no),fun _ no => (by cases no),fun _ _ => .inr (.inr (encryptFails closed))⟩
    | ok jwe =>
      obtain ⟨d,signature,parts⟩ := signedParts made
      obtain ⟨key,sealed,encrypted⟩ := encryptedParts closed
      have opened : decryptJwe py state jwe = .ok jws := jweOpened inverts py known encrypted
      have verified := jwsVerified inverts py matched trusted packetCodes parts
      have taken : openPacket py state now jwe = .ok (jwsHeader credentials (strftime d),signed,credentials.certificate) := by
        simp only [openPacket,opened,bind,Except.bind,verified]
      simp only [closed]
      refine ⟨b64urlBack,?_,?_,fun _ no => (by cases no)⟩
      · rintro packet ⟨⟩
        exact ⟨jws,_,opened,verified⟩
      · rintro packet ⟨⟩
        exact ⟨jwsHeader credentials (strftime d),rfl,taken⟩

/-! A package with one-byte keys: signatures and tags are sums, and the key is added to what it encrypts. -/
namespace Example

def sumTag (data : Bytes) : Bytes := List.replicate 16 (data.foldl (· + ·) 0)

def package : Library where
  PrivateKey := UInt8
  PublicKey := UInt8
  Certificate := UInt8
  publicKey k := k
  sign k m := .ok (sumTag (k :: m))
  verify p s m := s == sumTag (p :: m)
  oaepEncrypt p _ m := .ok (m.map (· + p))
  oaepDecrypt k c := .ok (c.map (· - k))
  gcmEncrypt key iv m aad := .ok (m ++ sumTag (key ++ iv ++ m ++ aad))
  gcmDecrypt key iv c aad :=
    let m := c.take (c.length - 16)
    if c.drop (c.length - 16) = sumTag (key ++ iv ++ m ++ aad) then some m else none
  spki p := [p]
  loadPublicKey
    | [p] => .ok (.rsa p)
    | _ => .error "Could not deserialize key data"
  certificateDer c := [c]
  loadCertificate
    | [c] => .ok c
    | _ => .error "error parsing asn1 value"
  certificateKey c := .rsa c
  notValidBefore _ := 0
  notValidAfter _ := 4102444800000000

theorem packageInverts : package.Inverts where
  signed := by
    rintro k m s ⟨⟩
    exact beq_self_eq_true _
  encrypted := by
    rintro k seed m c ⟨⟩
    simp only [package,List.map_map,Except.ok.injEq]
    refine (List.map_congr_left fun b _ => ?_).trans (List.map_id m)
    exact UInt8.add_sub_cancel b k
  authenticated := by
    rintro k iv m aad c ⟨⟩
    have long : (m ++ sumTag (k ++ iv ++ m ++ aad)).length - 16 = m.length := by simp [sumTag]
    simp only [package,long,List.take_left,List.drop_left,if_true]
  spki _ := rfl
  certificate _ := rfl

def py : Python where
  floats := ⟨fun _ => ['0','.','5'],fun _ => .finite (1 / 2)⟩
  repr _ := "value"
  decode _ _ := .error "invalid start byte"
  undecodable _ := "invalid start byte"
  millis now := now / 1000

def server : MockState package := { privateKey := (7 : UInt8), keyId := "kid-1", trustedDer := some [[3]] }

def taxpayer : SigningCredentials package := ⟨(3 : UInt8),(3 : UInt8)⟩

def encryptor : JweEncryptor package := ⟨⟨"kid-1",server.publicKeyB64⟩,(7 : UInt8),"",rfl⟩

def noon : Clock := ⟨⟨2025,3,21,12,0,0,by decide,by decide⟩,some 12600⟩

def drawn : Drawn := ⟨List.replicate 32 1,List.replicate 12 2,[],rfl,rfl⟩

def invoice : Dict := [("header",.obj [("taxid",.str "A111"),("note",.null)]),("body",.arr [])]

theorem trusted : Trusted server 1742544000000000 taxpayer where
  opened := by decide
  open_ := by decide
  known := by
    rintro t ⟨⟩
    decide

end Example

theorem packetUnpackedInvoice : Undone Example.py Example.server 1742544000000000 Example.taxpayer Example.noon
    Example.encryptor Example.drawn (encodeUtf8 "\x7b\"header\":\x7b\"taxid\":\"A111\"\x7d,\"body\":[]\x7d".toList)
    (buildPacket Example.py.floats Example.taxpayer Example.noon Example.encryptor Example.drawn Example.invoice "A11111"
      (some "uid") "fresh") :=
  packetUnpacked Example.packageInverts Example.py (rfl : Example.taxpayer.Matched) Example.trusted rfl Example.noon Example.drawn (by rfl) "A11111"
    (some "uid") "fresh"

end Moadian.Mock
