import Moadian.Client.Authenticator
import Moadian.Mock.SingleUse
import Moadian.Mock.Unpacked
import Mathlib.Data.List.Nodup

/-! Any number of protected requests of any clients against the mock. Each fetches a
nonce, signs it and presents it; its messages may be delayed, overtaken or lost. -/
namespace Moadian.Mock
open Codec Crypto Wire

inductive Phase (lib : Library) where
  | start
  | asking
  | answered (nonce : String)
  | presenting (authorization : List Char)
  | passed (authorization : List Char) (context : AuthContext lib)
  | refused (authorization : List Char) (r : Refusal)
  | failed

def Phase.presented {lib : Library} : Phase lib → Option (List Char)
  | presenting authorization | passed authorization _ | refused authorization _ => some authorization
  | _ => none

/- A move of one request: the message under way is lost, or it arrives and is dealt
with, at the server's time or by the client's clock. -/
structure Move where
  request : Nat
  lost : Bool := false
  now : Int := 0
  uuid : String := ""
  clock : Clock

structure System (lib : Library) where
  server : MockState lib
  phases : List (Phase lib)
  -- which request got which nonce, in the order they were issued
  issued : List (Nat × String) := []

namespace System
variable {lib : Library} (py : Python) (clients : List (NonceAuthenticator lib))

def start (server : MockState lib) : System lib := { server, phases := clients.map (fun _ => .start) }

def set (s : System lib) (i : Nat) (phase : Phase lib) : System lib := { s with phases := s.phases.set i phase }

def step (s : System lib) (m : Move) : System lib :=
  match clients[m.request]?,s.phases[m.request]? with
  | some client,some phase => match phase with
    | .start => s.set m.request .asking
    | .asking =>
      if m.lost then s.set m.request .failed
      else
        let (record,server) := issueNonce py s.server m.uuid m.now client.timeToLive
        { s with server, issued := s.issued ++ [(m.request,record.nonce)] }.set m.request (.answered record.nonce)
    | .answered nonce =>
      if m.lost then s.set m.request .failed
      else match bearerToken py.floats client m.clock nonce with
        | .ok authorization => s.set m.request (.presenting authorization)
        | .error _ => s.set m.request .failed
    | .presenting authorization =>
      if m.lost then s.set m.request .failed
      else match authenticate py s.server m.now authorization with
        | .ok (context,server) => { s with server }.set m.request (.passed authorization context)
        | .error r => s.set m.request (.refused authorization r)
    | .passed _ _ | .refused _ _ | .failed => s
  | _,_ => s

def run (s : System lib) (moves : List Move) : System lib := moves.foldl (step py clients) s

/- Every nonce is issued new; what a request presents has not expired and its
certificate is a valid one. -/
def Granted (s : System lib) (m : Move) : Prop :=
  ∀ client phase, clients[m.request]? = some client → s.phases[m.request]? = some phase → match phase with
    | .asking => s.server.nonces.lookup (nonceText py m.uuid m.now) = none
    | .presenting _ => Trusted s.server m.now client.credentials ∧
        ∀ n record, (m.request,n) ∈ s.issued → s.server.nonces.lookup n = some record → m.now < record.expiresAt
    | _ => True

def Throughout : System lib → List Move → Prop
  | _,[] => True
  | s,m :: rest => s.Granted py clients m ∧ Throughout (s.step py clients m) rest

end System

/-! The nonce a request carries, as its claims have it. -/

def claimedNonce (py : Python) (authorization : List Char) : Option String :=
  match split '.' (strip ((authorization.dropWhile (· ≠ ' ')).drop 1)) with
  | [_,payload,_] => match b64urlDecode payload with
    | .ok data => match loads py data with
      | .ok (.obj claims) => nonEmpty ((claims.lookup "nonce").getD .null)
      | _ => none
    | .error _ => none
  | _ => none

theorem b64urlNoSpace (data : Bytes) : ∀ c ∈ b64url data, Json.isSpace c = false := by
  have none_ : ∀ n < 64, Json.isSpace (toUrl (sextetChar n)) = false := by decide
  intro c member
  obtain ⟨n,small,rfl⟩ := unpaddedChars data c member
  exact none_ n small

theorem dottedNoSpace {a b : List Char} (left : ∀ c ∈ a, Json.isSpace c = false) (right : ∀ c ∈ b, Json.isSpace c = false) :
    ∀ c ∈ dotted a b, Json.isSpace c = false := by
  intro c member
  rcases List.mem_append.mp member with first | second
  · exact left c first
  · rcases List.mem_cons.mp second with rfl | later
    · decide
    · exact right c later

theorem stripNone {text : List Char} (none_ : ∀ c ∈ text, Json.isSpace c = false) : strip text = text := by
  have stays : ∀ {t : List Char}, (∀ c ∈ t, Json.isSpace c = false) → t.dropWhile Json.isSpace = t := by
    intro t none_
    cases t with
    | nil => rfl
    | cons c rest => rw [List.dropWhile_cons_of_neg (by simp [none_ c List.mem_cons_self])]
  have back : ∀ c ∈ text.reverse, Json.isSpace c = false := fun c member => none_ c (List.mem_reverse.mp member)
  rw [strip,stays none_,stays back,List.reverse_reverse]

structure Bears {lib : Library} (py : Python) (client : NonceAuthenticator lib) (n : String) (authorization : List Char) : Prop where
  named : n ≠ ""
  made : ∃ clock jws d signature, authorization = "Bearer ".toList ++ jws ∧
    Signed py.floats client.credentials clock (claimsBytes py.floats n client.clientId) jws d signature

section Bearer
variable {lib : Library} {py : Python} {client : NonceAuthenticator lib} {n : String} {authorization : List Char}

theorem bearerSplit {jws : List Char} : ("Bearer ".toList ++ jws).takeWhile (· ≠ ' ') = "Bearer".toList ∧
    (("Bearer ".toList ++ jws).dropWhile (· ≠ ' ')).drop 1 = jws := ⟨rfl,rfl⟩

theorem signedNoSpace {credentials : SigningCredentials lib} {clock : Clock} {payload : Bytes} {jws : List Char} {d : Datetime}
    {signature : Bytes} (signed : Signed py.floats credentials clock payload jws d signature) :
    strip jws = jws ∧ jws ≠ [] := by
  rw [signed.parts]
  refine ⟨stripNone (dottedNoSpace (dottedNoSpace (b64urlNoSpace _) (b64urlNoSpace _)) (b64urlNoSpace _)),?_⟩
  simp [dotted]

theorem claimsLoaded (n clientId : String) :
    loads py (claimsBytes py.floats n clientId) = .ok (.obj (tokenClaims n clientId)) :=
  loadsObject py rfl ⟨by simp,True.intro,True.intro,True.intro⟩

theorem bearsClaims (bears : Bears py client n authorization) : claimedNonce py authorization = some n := by
  obtain ⟨clock,jws,d,signature,rfl,signed⟩ := bears.made
  rw [claimedNonce,bearerSplit.2,(signedNoSpace signed).1,signed.parts,dottedLeft,splitDotted,splitDotted,splitLast]
  simp only [b64urlBack,claimsLoaded]
  simp [tokenClaims,nonEmpty,bears.named]

theorem bearsAuthenticated (inverts : lib.Inverts) (matched : client.credentials.Matched) {state : MockState lib} {now : Int}
    (trusted : Trusted state now client.credentials) (bears : Bears py client n authorization) :
    ∃ header, authenticate py state now authorization =
      if client.clientId = "" then reject 401 "4110" "clientId is empty"
      else (consumeNonce state n now).map (fun burned => (⟨client.clientId,n,client.credentials.certificate,header⟩,burned.2)) := by
  obtain ⟨clock,jws,d,signature,rfl,signed⟩ := bears.made
  obtain ⟨same,some_⟩ := signedNoSpace signed
  have verified := jwsVerified inverts py matched trusted authCodes signed
  refine ⟨jwsHeader client.credentials (strftime d),?_⟩
  have plain : ¬("Bearer".toList.map Char.toLower ≠ "bearer".toList ∨ jws = []) := by simp [some_]
  simp only [authenticate,bearerSplit.1,bearerSplit.2,same]
  rw [if_neg plain]
  simp only [verified,bind,Except.bind,claimsLoaded]
  simp only [tokenClaims,List.map_cons,List.map_nil,List.lookup_cons]
  by_cases empty : client.clientId = ""
  · simp [empty,nonEmpty,reject]
  · cases consumed : consumeNonce state n now <;> simp [empty,nonEmpty,bears.named,consumed,Except.map]

end Bearer

/-! What holds of every request in every state that is reached. -/

def Unused {lib : Library} (server : MockState lib) (n : String) : Prop :=
  ∃ record, server.nonces.lookup n = some record ∧ record.used = false

def noClientId : Refusal := .rejected ⟨401,"4110",(describe "4110").getD "خطای غیر منتظره‌ای در انجام درخواست رخ داد." ++
  " (" ++ "clientId is empty" ++ ")"⟩

section Invariant
variable {lib : Library} (py : Python) (clients : List (NonceAuthenticator lib)) (base : MockState lib)

def Holds (s : System lib) (i : Nat) (client : NonceAuthenticator lib) : Phase lib → Prop
  | .answered n => n ≠ "" ∧ (i,n) ∈ s.issued ∧ Unused s.server n
  | .presenting a => ∃ n, Bears py client n a ∧ (i,n) ∈ s.issued ∧ Unused s.server n
  | .passed a context => ∃ n, Bears py client n a ∧ (i,n) ∈ s.issued ∧ context.nonce = n
  | .refused a r => ∃ n, Bears py client n a ∧ (i,n) ∈ s.issued ∧ client.clientId = "" ∧ r = noClientId
  | .start | .asking | .failed => True

structure Sound (s : System lib) : Prop where
  fresh : ∀ i n, (i,n) ∈ s.issued → base.nonces.lookup n = none ∧ s.server.nonces.lookup n ≠ none
  distinct : (s.issued.map Prod.snd).Nodup
  remembered : ∀ n, s.server.nonces.lookup n = none → base.nonces.lookup n = none
  paired : ∀ (i : Nat) phase, s.phases[i]? = some phase → ∃ client, clients[i]? = some client
  holds : ∀ i client phase, clients[i]? = some client → s.phases[i]? = some phase → Holds py s i client phase

variable {py clients base} {s s' : System lib} {i : Nat}

theorem issuedOnce (sound : Sound py clients base s) {j : Nat} {n : String} (mine : (i,n) ∈ s.issued) (other : (j,n) ∈ s.issued) :
    i = j :=
  congrArg Prod.fst (List.inj_on_of_nodup_map sound.distinct mine other rfl)

theorem holdsLasts {client : NonceAuthenticator lib} {phase : Phase lib} (grow : s.issued ⊆ s'.issued)
    (spares : ∀ n, (i,n) ∈ s.issued → Unused s.server n → Unused s'.server n) (held : Holds py s i client phase) :
    Holds py s' i client phase := by
  cases phase with
  | start => exact True.intro
  | asking => exact True.intro
  | failed => exact True.intro
  | answered n =>
    obtain ⟨named,mine,unused⟩ := held
    exact ⟨named,grow mine,spares n mine unused⟩
  | presenting a =>
    obtain ⟨n,bears,mine,unused⟩ := held
    exact ⟨n,bears,grow mine,spares n mine unused⟩
  | passed a context =>
    obtain ⟨n,bears,mine,same⟩ := held
    exact ⟨n,bears,grow mine,same⟩
  | refused a r =>
    obtain ⟨n,bears,mine,why⟩ := held
    exact ⟨n,bears,grow mine,why⟩

theorem phaseCases {phase phase' : Phase lib} {j : Nat} (found : (s.phases.set i phase')[j]? = some phase) :
    (j = i ∧ phase = phase') ∨ (j ≠ i ∧ s.phases[j]? = some phase) := by
  by_cases same : j = i
  · subst same
    rw [List.getElem?_set] at found
    split at found
    · split at found
      · exact .inl ⟨rfl,(Option.some.inj found).symm⟩
      · cases found
    · exact absurd rfl ‹_›
  · rw [List.getElem?_set_ne (Ne.symm same)] at found
    exact .inr ⟨same,found⟩

theorem pairedSet (sound : Sound py clients base s) {phase : Phase lib} (j : Nat) (phase' : Phase lib)
    (found : (s.phases.set i phase)[j]? = some phase') : ∃ client, clients[j]? = some client := by
  have inside : j < s.phases.length := by
    have := (List.getElem?_eq_some_iff.mp found).1
    rwa [List.length_set] at this
  exact sound.paired j _ (List.getElem?_eq_getElem inside)

theorem soundSet (sound : Sound py clients base s) {phase : Phase lib}
    (mine : ∀ client, clients[i]? = some client → Holds py s i client phase) : Sound py clients base (s.set i phase) where
  fresh := sound.fresh
  distinct := sound.distinct
  remembered := sound.remembered
  paired := pairedSet sound
  holds := by
    intro j client phase' here found
    rcases phaseCases found with ⟨rfl,rfl⟩ | ⟨_,old⟩
    · exact mine client here
    · exact sound.holds j client phase' here old

theorem textNamed (uuid : String) (now : Int) : nonceText py uuid now ≠ "" := by
  intro empty
  have long := congrArg String.length empty
  simp [nonceText,String.length_append] at long

theorem soundIssue (sound : Sound py clients base s) {uuid : String} {now timeToLive : Int}
    (new : s.server.nonces.lookup (nonceText py uuid now) = none) :
    Sound py clients base ((⟨(issueNonce py s.server uuid now timeToLive).2,s.phases,
      s.issued ++ [(i,nonceText py uuid now)]⟩ : System lib).set i (.answered (nonceText py uuid now))) where
  fresh := by
    intro j n member
    simp only [System.set,issuedLookup]
    rcases List.mem_append.mp member with old | last
    · obtain ⟨absent,known⟩ := sound.fresh j n old
      refine ⟨absent,?_⟩
      split
      · simp
      · exact known
    · cases List.mem_singleton.mp last
      exact ⟨sound.remembered _ new,by simp⟩
  distinct := by
    simp only [System.set,List.map_append,List.map_cons,List.map_nil]
    refine List.nodup_append.mpr ⟨sound.distinct,List.nodup_singleton _,?_⟩
    intro n old m last same
    rw [List.mem_singleton.mp last] at same
    obtain ⟨⟨j,k⟩,member,rfl⟩ := List.mem_map.mp old
    exact (sound.fresh j k member).2 (by rw [show k = _ from same]; exact new)
  remembered := by
    intro n absent
    simp only [System.set,issuedLookup] at absent
    split at absent
    · cases absent
    · exact sound.remembered n absent
  paired := pairedSet sound
  holds := by
    intro j client phase here found
    rcases phaseCases (s := s) found with ⟨rfl,rfl⟩ | ⟨_,old⟩
    · refine ⟨textNamed uuid now,List.mem_append_right _ (List.mem_singleton.mpr rfl),
        ⟨nonceText py uuid now,expiry now timeToLive,false⟩,?_,rfl⟩
      simp only [System.set,issuedLookup,if_true]
    · refine holdsLasts (List.subset_append_left _ _) ?_ (sound.holds j client phase here old)
      rintro n mine ⟨record,known,unused⟩
      refine ⟨record,?_,unused⟩
      simp only [System.set,issuedLookup]
      rw [if_neg]
      · exact known
      · rintro rfl
        exact (sound.fresh j _ mine).2 new

theorem soundPass (sound : Sound py clients base s) {n : String} {now : Int} {record : NonceRecord} {server : MockState lib}
    (mine : (i,n) ∈ s.issued) (burned : consumeNonce s.server n now = .ok (record,server)) {phase : Phase lib}
    (own : ∀ client, clients[i]? = some client → Holds py { s with server } i client phase) :
    Sound py clients base ({ s with server }.set i phase) := by
  obtain ⟨old,known,_,_,after⟩ := consumeCases burned
  refine ⟨?_,sound.distinct,?_,pairedSet sound,?_⟩
  · intro j m member
    obtain ⟨absent,there⟩ := sound.fresh j m member
    refine ⟨absent,?_⟩
    simp only [System.set,after]
    split
    · simp
    · exact there
  · intro m absent
    simp only [System.set,after] at absent
    split at absent
    · cases absent
    · exact sound.remembered m absent
  · intro j client phase' here found
    rcases phaseCases (s := s) found with ⟨rfl,rfl⟩ | ⟨other,before⟩
    · exact own client here
    · refine holdsLasts (s := s) (fun _ => id) ?_ (sound.holds j client phase' here before)
      rintro m theirs ⟨record,kept,unused⟩
      refine ⟨record,?_,unused⟩
      simp only [System.set,after]
      rw [if_neg]
      · exact kept
      · rintro rfl
        exact other (issuedOnce sound theirs mine)

theorem unusedBurns {server : MockState lib} {n : String} {now : Int} (unused : Unused server n)
    (inTime : ∀ record, server.nonces.lookup n = some record → now < record.expiresAt) :
    ∃ record server', consumeNonce server n now = .ok (record,server') := by
  obtain ⟨record,known,unused⟩ := unused
  have early := inTime record known
  simp only [consumeNonce,known,unused,Bool.false_eq_true,if_false,if_neg (Int.not_le.mpr early)]
  exact ⟨_,_,rfl⟩

theorem soundStep (inverts : lib.Inverts) (matched : ∀ client ∈ clients, client.credentials.Matched)
    (sound : Sound py clients base s) {m : Move} (granted : s.Granted py clients m) :
    Sound py clients base (s.step py clients m) := by
  unfold System.step
  split
  · rename_i client phase here found
    have granted := granted client phase here found
    have held := sound.holds m.request client phase here found
    have own : ∀ {other}, clients[m.request]? = some other → other = client := fun same => Option.some.inj (same.symm.trans here)
    have ends : Sound py clients base (s.set m.request .failed) := soundSet sound (fun _ _ => True.intro)
    cases phase with
    | start => exact soundSet sound (fun _ _ => True.intro)
    | asking =>
      simp only
      split
      · exact ends
      · exact soundIssue sound granted
    | answered n =>
      simp only
      split
      · exact ends
      · obtain ⟨named,mine,unused⟩ := held
        split
        · rename_i authorization signed
          obtain ⟨jws,d,signature,parts⟩ := bearerParts signed
          refine soundSet sound (fun other same => ?_)
          cases own same
          exact ⟨n,⟨named,m.clock,jws,d,signature,parts⟩,mine,unused⟩
        · exact ends
    | presenting authorization =>
      simp only
      split
      · exact ends
      · obtain ⟨n,bears,mine,unused⟩ := held
        obtain ⟨trusted,inTime⟩ := granted
        obtain ⟨header,answer⟩ := bearsAuthenticated inverts (matched client (List.mem_of_getElem? here)) trusted bears
        obtain ⟨record,server,burned⟩ := unusedBurns unused (inTime n · mine)
        by_cases empty : client.clientId = ""
        · rw [if_pos empty] at answer
          simp only [answer,reject]
          refine soundSet sound (fun other same => ?_)
          cases own same
          exact ⟨n,bears,mine,empty,rfl⟩
        · rw [if_neg empty,burned] at answer
          simp only [answer,Except.map]
          refine soundPass sound mine burned (fun other same => ?_)
          cases own same
          exact ⟨n,bears,mine,rfl⟩
    | passed authorization context => exact sound
    | refused authorization r => exact sound
    | failed => exact sound
  · exact sound

theorem soundRun (inverts : lib.Inverts) (matched : ∀ client ∈ clients, client.credentials.Matched)
    (sound : Sound py clients base s) {moves : List Move} (granted : s.Throughout py clients moves) :
    Sound py clients base (s.run py clients moves) := by
  induction moves generalizing s with
  | nil => exact sound
  | cons m rest ih => exact ih (soundStep inverts matched sound granted.1) granted.2

theorem soundStart (base : MockState lib) : Sound py clients base (System.start clients base) where
  fresh := by simp [System.start]
  distinct := List.nodup_nil
  remembered _ absent := absent
  paired := by
    intro i phase found
    simp only [System.start,List.getElem?_map,Option.map_eq_some_iff] at found
    obtain ⟨client,here,_⟩ := found
    exact ⟨client,here⟩
  holds := by
    intro i client phase _ found
    simp only [System.start,List.getElem?_map,Option.map_eq_some_iff] at found
    obtain ⟨_,_,rfl⟩ := found
    exact True.intro

end Invariant

/-! The claims of it. -/

section Claims
variable {lib : Library} (py : Python) (clients : List (NonceAuthenticator lib)) (base : MockState lib)

/- Whatever is presented carries a nonce that was issued for it, new to the server and
carried by no other request; nothing is refused for its nonce. -/
structure OwnNonces (s : System lib) : Prop where
  own : ∀ i client phase authorization, clients[i]? = some client → s.phases[i]? = some phase →
    phase.presented = some authorization → ∃ n, claimedNonce py authorization = some n ∧ (i,n) ∈ s.issued ∧
      base.nonces.lookup n = none ∧
      ∀ (j : Nat) other phase' authorization', clients[j]? = some other → s.phases[j]? = some phase' →
        phase'.presented = some authorization' → claimedNonce py authorization' = some n → j = i
  issuedOnce : (s.issued.map Prod.snd).Nodup
  neverNonce : ∀ (i : Nat) authorization r, s.phases[i]? = some (Phase.refused authorization r) →
    ∀ status message, r ≠ .rejected ⟨status,"4102",message⟩
  passes : ∀ (i : Nat) (client : NonceAuthenticator lib) authorization r, clients[i]? = some client →
    s.phases[i]? = some (Phase.refused authorization r) → client.clientId = ""

variable {py clients base}

theorem presentedBears {s : System lib} (sound : Sound py clients base s) {i : Nat} {client : NonceAuthenticator lib}
    {phase : Phase lib} {authorization : List Char} (here : clients[i]? = some client) (found : s.phases[i]? = some phase)
    (presented : phase.presented = some authorization) : ∃ n, claimedNonce py authorization = some n ∧ (i,n) ∈ s.issued := by
  have held := sound.holds i client phase here found
  cases phase with
  | presenting a =>
    obtain ⟨n,bears,mine,_⟩ := held
    cases presented
    exact ⟨n,bearsClaims bears,mine⟩
  | passed a context =>
    obtain ⟨n,bears,mine,_⟩ := held
    cases presented
    exact ⟨n,bearsClaims bears,mine⟩
  | refused a r =>
    obtain ⟨n,bears,mine,_⟩ := held
    cases presented
    exact ⟨n,bearsClaims bears,mine⟩
  | start | asking | answered n | failed => cases presented

theorem ownNonces {s : System lib} (sound : Sound py clients base s) : OwnNonces py clients base s where
  own := by
    intro i client phase authorization here found presented
    obtain ⟨n,claims,mine⟩ := presentedBears sound here found presented
    refine ⟨n,claims,mine,(sound.fresh i n mine).1,?_⟩
    intro j other phase' authorization' here' found' presented' same
    obtain ⟨k,claims',theirs⟩ := presentedBears sound here' found' presented'
    cases Option.some.inj (same.symm.trans claims')
    exact issuedOnce sound theirs mine
  issuedOnce := sound.distinct
  neverNonce := by
    intro i authorization r found status message same
    obtain ⟨client,here⟩ := sound.paired i _ found
    obtain ⟨_,_,_,_,why⟩ := sound.holds i client _ here found
    rw [why,noClientId] at same
    have codes : "4110" = "4102" := (Rejection.mk.inj (Refusal.rejected.inj same)).2.1
    exact absurd codes (by decide)
  passes := by
    intro i client authorization r here found
    obtain ⟨_,_,_,empty,_⟩ := sound.holds i client _ here found
    exact empty

end Claims

theorem noncesSingleUse {lib : Library} (inverts : lib.Inverts) (py : Python) :
    (∀ (clients : List (NonceAuthenticator lib)) (server : MockState lib) (moves : List Move),
      (∀ client ∈ clients, client.credentials.Matched) →
      (System.start clients server).Throughout py clients moves →
      OwnNonces py clients server ((System.start clients server).run py clients moves)) ∧
    ∀ (server : MockState lib) (calls : List Call), server.nonces = [] → SingleUse ((⟨server,[]⟩ : Served lib).run py calls).log :=
  ⟨fun _ server _ matched granted => ownNonces (soundRun inverts matched (soundStart server) granted),
    fun _ calls none_ => (keptRun (keptStart none_) calls).single⟩

/-! Two requests of one taxpayer at once, the second overtaking the first on its way to the server. -/
namespace Example

def authenticator : NonceAuthenticator package := ⟨taxpayer,"A11111",30,by decide⟩

def clients : List (NonceAuthenticator package) := [authenticator,authenticator]

def utcNoon : Clock := ⟨noon.reading,none⟩

def arrives (request : Nat) (uuid : String) : Move := { request, now := 1742544000000000, uuid, clock := utcNoon }

def moves : List Move := [arrives 0 "",arrives 1 "",arrives 1 "b",arrives 0 "a",arrives 0 "",arrives 1 "",arrives 1 ""]

def first : String := nonceText py "a" 1742544000000000
def second : String := nonceText py "b" 1742544000000000

def issuedTwo : MockState package :=
  (issueNonce py (issueNonce py server "b" 1742544000000000 30).2 "a" 1742544000000000 30).2

def phases (a b : Phase package) : System package := ⟨issuedTwo,[a,b],[(1,second),(0,first)]⟩

theorem bearerMade (nonce : String) : ∃ authorization, bearerToken py.floats authenticator utcNoon nonce = .ok authorization := by
  have utc : utcNoon.utc = some noon.reading := rfl
  have signs : ∀ m, package.sign authenticator.credentials.privateKey m =
      .ok (sumTag (authenticator.credentials.privateKey :: m)) := fun _ => rfl
  simp only [bearerToken,claimsCanonical,bind,Except.bind,signSteps,utc,signs]
  exact ⟨_,rfl⟩

theorem soonEnough {n : String} {record : NonceRecord} (known : issuedTwo.nonces.lookup n = some record) :
    1742544000000000 < record.expiresAt := by
  have late : (1742544000000000 : Int) < expiry 1742544000000000 30 := by decide
  rw [issuedTwo,issuedLookup,issuedLookup] at known
  split at known
  · cases known
    exact late
  · split at known
    · cases known
      exact late
    · cases known

theorem grantedCons {s t : System package} {m : Move} {rest : List Move} (granted : s.Granted py clients m)
    (next : s.step py clients m = t) (later : t.Throughout py clients rest) : s.Throughout py clients (m :: rest) :=
  ⟨granted,next ▸ later⟩

theorem movesGranted : (System.start clients server).Throughout py clients moves := by
  obtain ⟨a,signedFirst⟩ := bearerMade first
  obtain ⟨b,signedSecond⟩ := bearerMade second
  have trusted : ∀ st : MockState package, st.trustedDer = some [[3]] → Trusted st 1742544000000000 taxpayer := by
    intro st known
    refine ⟨by decide,by decide,fun t some_ => ?_⟩
    cases known.symm.trans some_
    decide
  have signs : ∀ {i : Nat} {n : String} {authorization : List Char} {s s' : System package},
      bearerToken py.floats authenticator utcNoon n = .ok authorization → clients[i]? = some authenticator →
      s.phases[i]? = some (.answered n) → s.set i (.presenting authorization) = s' →
      s.step py clients (arrives i "") = s' := by
    intro i n authorization s s' signed client phase result
    simp only [System.step,arrives,client,phase,Bool.false_eq_true,if_false,signed,result]
  refine grantedCons (t := ⟨server,[.asking,.start],[]⟩) ?_ rfl ?_
  · rintro client phase ⟨⟩ ⟨⟩
    exact True.intro
  refine grantedCons (t := ⟨server,[.asking,.asking],[]⟩) ?_ rfl ?_
  · rintro client phase ⟨⟩ ⟨⟩
    exact True.intro
  refine grantedCons (t := ⟨(issueNonce py server "b" 1742544000000000 30).2,[.asking,.answered second],[(1,second)]⟩) ?_ rfl ?_
  · rintro client phase ⟨⟩ ⟨⟩
    rfl
  refine grantedCons (t := phases (.answered first) (.answered second)) ?_ rfl ?_
  · rintro client phase ⟨⟩ ⟨⟩
    rfl
  refine grantedCons (t := phases (.presenting a) (.answered second)) ?_ (signs signedFirst rfl rfl rfl) ?_
  · rintro client phase ⟨⟩ ⟨⟩
    exact True.intro
  refine grantedCons (t := phases (.presenting a) (.presenting b)) ?_ (signs signedSecond rfl rfl rfl) ?_
  · rintro client phase ⟨⟩ ⟨⟩
    exact True.intro
  refine ⟨?_,True.intro⟩
  rintro client phase ⟨⟩ ⟨⟩
  exact ⟨trusted issuedTwo rfl,fun _ _ _ known => soonEnough known⟩

end Example

theorem noncesSingleUseTwo :
    OwnNonces Example.py Example.clients Example.server ((System.start Example.clients Example.server).run Example.py
      Example.clients Example.moves) ∧
    SingleUse ((⟨Example.server,[]⟩ : Served Example.package).run Example.py [⟨0,.nonce "a" 30⟩,⟨1,.guarded []⟩]).log := by
  have matched : ∀ client ∈ Example.clients, client.credentials.Matched := by
    intro client member
    have same : client = Example.authenticator := by simpa [Example.clients] using member
    rw [same]
    exact (rfl : Example.taxpayer.Matched)
  exact ⟨(noncesSingleUse Example.packageInverts Example.py).1 _ _ _ matched Example.movesGranted,
    (noncesSingleUse Example.packageInverts Example.py).2 _ _ rfl⟩

end Moadian.Mock
