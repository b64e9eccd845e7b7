import Moadian.Mock.Server

/-! The server's nonces: each is issued with an expiry, and burned by the first
protected request that presents it in time. -/
namespace Moadian.Mock
open Codec Crypto

def nonceTtlMin : Int := 10
def nonceTtlMax : Int := 200

def seconds (n : Int) : Int := n * 1000000

def expiry (now timeToLive : Int) : Int := now + seconds (max nonceTtlMin (min nonceTtlMax timeToLive))

def nonceText (py : Python) (uuid : String) (now : Int) : String := uuid ++ "-" ++ toString (py.millis now)

-- What a nonce maps to; the order of the entries is never read.
def setNonce (nonces : List (String × NonceRecord)) (n : String) (record : NonceRecord) : List (String × NonceRecord) :=
  (n,record) :: nonces.filter (fun m => m.1 ≠ n)

theorem lookupSet (nonces : List (String × NonceRecord)) (n : String) (record : NonceRecord) (m : String) :
    (setNonce nonces n record).lookup m = if m = n then some record else nonces.lookup m := by
  by_cases same : m = n
  · rw [if_pos same,same,setNonce,List.lookup_cons_self]
  · have differs : (m == n) = false := by simpa using same
    rw [if_neg same,setNonce,List.lookup_cons,differs]
    simp only
    induction nonces with
    | nil => rfl
    | cons entry rest ih =>
      obtain ⟨k,r⟩ := entry
      by_cases gone : k = n
      · have other : (m == k) = false := by rw [gone]; exact differs
        rw [List.filter_cons_of_neg (by simpa using gone),ih,List.lookup_cons,other]
      · rw [List.filter_cons_of_pos (by simpa using gone),List.lookup_cons,List.lookup_cons,ih]

section State
variable {lib : Library} (py : Python) (state : MockState lib)

def issueNonce (uuid : String) (now timeToLive : Int) : NonceRecord × MockState lib :=
  let record : NonceRecord := ⟨nonceText py uuid now,expiry now timeToLive,false⟩
  (record,{ state with nonces := setNonce state.nonces record.nonce record })

def consumeNonce (nonce : String) (now : Int) : Except Refusal (NonceRecord × MockState lib) :=
  match state.nonces.lookup nonce with
  | none => reject 401 "4102" "nonce was never issued by this server"
  | some record =>
    if record.used then reject 401 "4102" "nonce already used"
    else if record.expiresAt ≤ now then reject 401 "4102" "nonce expired"
    else
      let burned := { record with used := true }
      .ok (burned,{ state with nonces := setNonce state.nonces nonce burned })

structure AuthContext (lib : Library) where
  clientId : String
  nonce : String
  certificate : lib.Certificate
  header : Dict

def authCodes : Codes := ⟨"4130","4133","4131"⟩

def strip (text : List Char) : List Char := ((text.dropWhile Json.isSpace).reverse.dropWhile Json.isSpace).reverse

def nonEmpty : Json → Option String
  | .str text => if text = "" then none else some text
  | _ => none

def authenticate (now : Int) (authorization : List Char) : Except Refusal (AuthContext lib × MockState lib) := do
  let scheme := authorization.takeWhile (· ≠ ' ')
  let token := (authorization.dropWhile (· ≠ ' ')).drop 1
  if scheme.map Char.toLower ≠ "bearer".toList ∨ strip token = [] then
    reject 401 "4130" "missing or malformed Authorization: Bearer header"
  else do
    let (header,payload,certificate) ← verifyJws py state now authCodes (strip token)
    match loads py payload with
    | .error (.decode text) => reject 401 "4101" ("payload is not JSON: " ++ text)
    | .error (.value text) => .error (.escaped text)
    | .ok (.obj claims) =>
      if claims.map Prod.fst ⊆ ["nonce","clientId"] ∧ ["nonce","clientId"] ⊆ claims.map Prod.fst then
        match nonEmpty ((claims.lookup "clientId").getD .null) with
        | none => reject 401 "4110" "clientId is empty"
        | some clientId => match nonEmpty ((claims.lookup "nonce").getD .null) with
          | none => reject 401 "4102" "nonce is empty"
          | some nonce => do
            let (_,burned) ← consumeNonce state nonce now
            .ok (⟨clientId,nonce,certificate,header⟩,burned)
      else reject 401 "4101" ("payload must be exactly nonce+clientId, got " ++
        py.repr (.arr (((claims.map Prod.fst).mergeSort (· ≤ ·)).map .str)))
    | .ok v => reject 401 "4101" ("payload must be exactly nonce+clientId, got " ++ typeName v)

end State

/-! What the nonces have to do with what is served. -/

section Serve
variable {lib : Library} {py : Python} {state state' : MockState lib}

theorem issuedLookup (uuid : String) (now timeToLive : Int) (n : String) :
    (issueNonce py state uuid now timeToLive).2.nonces.lookup n =
      if n = nonceText py uuid now then some ⟨n,expiry now timeToLive,false⟩ else state.nonces.lookup n := by
  rw [issueNonce,lookupSet]
  split
  · rename_i same
    rw [same]
  · rfl

-- A nonce is burned when it is known, unused and in time, and then only it changes.
theorem consumeCases {nonce : String} {now : Int} {record : NonceRecord}
    (burned : consumeNonce state nonce now = .ok (record,state')) :
    ∃ old, state.nonces.lookup nonce = some old ∧ old.used = false ∧ now < old.expiresAt ∧
      ∀ n, state'.nonces.lookup n = if n = nonce then some { old with used := true } else state.nonces.lookup n := by
  unfold consumeNonce at burned
  split at burned
  · cases burned
  · rename_i old known
    split at burned
    · cases burned
    · rename_i unused
      split at burned
      · cases burned
      · rename_i late
        cases burned
        exact ⟨old,known,by simpa using unused,Int.not_le.mp late,lookupSet _ _ _⟩

theorem passedBurns {now : Int} {authorization : List Char} {context : AuthContext lib}
    (passed : authenticate py state now authorization = .ok (context,state')) :
    ∃ record, consumeNonce state context.nonce now = .ok (record,state') := by
  unfold authenticate at passed
  simp only [bind,Except.bind] at passed
  split at passed
  · cases passed
  · split at passed
    · cases passed
    · split at passed
      · cases passed
      · cases passed
      · split at passed
        · split at passed
          · cases passed
          · split at passed
            · cases passed
            · rename_i nonce named
              split at passed
              · cases passed
              · rename_i burned consumed
                cases passed
                exact ⟨burned.1,consumed⟩
        · cases passed
      · cases passed

end Serve
end Moadian.Mock
