import Moadian.Codec.Integer
import Moadian.Dictionary
import Moadian.Mock.Nonces
import Moadian.Models.Responses

/-! `POST /invoice`: every packet is decrypted, verified and parsed before any of them is
stored. -/
namespace Moadian.Mock
open Codec Crypto

def maxPackets : Nat := 1000

/-! `uuid.UUID`. -/

-- `text.replace(mark, "")`, of which the first count is what is still to be dropped.
def without (mark : List Char) : Nat → List Char → List Char
  | _,[] => []
  | n + 1,_ :: rest => without mark n rest
  | 0,c :: rest => if mark.isPrefixOf (c :: rest) then without mark (mark.length - 1) rest else c :: without mark 0 rest

def brace (c : Char) : Bool := c == '{' || c == '}'

def isUuid (text : String) : Bool :=
  let hex := without "uuid:".toList 0 (without "urn:".toList 0 text.toList)
  let hex := ((hex.dropWhile brace).rdropWhile brace).filter (· ≠ '-')
  hex.length == 32 && match int16 hex with
    | some (.ofNat n) => n < 1 <<< 128
    | _ => false

example : isUuid "urn:uuid:\x7b12345678-1234-5678-1234-56781234567A\x7d" = true := by decide
example : isUuid "12345678123456781234567812345678 " = false := by decide

structure StoredSubmission where
  referenceNumber : String
  uid : String
  fiscalId : String
  clientId : String
  taxId : Option String
  invoice : Dict
  invoiceBytes : Bytes
  jws : List Char
  signerDer : Bytes
  receivedAt : Int
  status : RequestStatus := .success

structure Registry (lib : Library) extends MockState lib where
  submissions : Dictionary String StoredSubmission := .empty

structure Minted where
  verifiedAt : Int
  receivedAt : Int
  uuid : String
  deriving DecidableEq, Repr

structure Post where
  now : Int
  authorization : List Char
  body : Bytes
  minted : Nat → Minted
  answeredAt : Int

-- Same checks, but on a 400.
def restating {α : Type} : Except Refusal α → Except Refusal α
  | .error (.rejected r) => .error (.rejected (r.restated 400))
  | result => result

def member (d : Dict) (key : String) : Json := (d.lookup key).getD .null

section Accept
variable {lib : Library} (py : Python) (state : MockState lib) (auth : AuthContext lib)

def accept (minted : Minted) (packet : Json) : Except Refusal (String × StoredSubmission) :=
  match packet with
  | .obj packet => match member packet "header",nonEmpty (member packet "payload") with
    | .obj header,some payload => match nonEmpty (member header "requestTraceId"),nonEmpty (member header "fiscalId") with
      | some uid,some fiscalId =>
        if !isUuid uid then reject 400 "4162" ("requestTraceId " ++ py.repr (.str uid) ++ " is not a uuid")
        else do
          let jws ← decryptJwe py state payload.toList
          let (_,invoiceBytes,certificate) ← restating (verifyJws py state minted.verifiedAt packetCodes jws)
          match loads py invoiceBytes with
          | .error (.decode text) => reject 400 "04130" ("invoice payload is not JSON: " ++ text)
          | .error (.value text) => .error (.escaped text)
          | .ok (.obj invoice) =>
            if (invoice.lookup "header").isSome && (invoice.lookup "body").isSome then
              let taxId := match member invoice "header" with
                | .obj header => nonEmpty (member header "taxid")
                | _ => none
              match taxId with
              | some taxId => .ok (uid,{
                  referenceNumber := minted.uuid
                  uid, fiscalId
                  clientId := auth.clientId
                  taxId := some taxId
                  invoice, invoiceBytes, jws
                  signerDer := lib.certificateDer certificate
                  receivedAt := minted.receivedAt })
              | none => reject 400 "04148" "invoice header carries no taxid"
            else reject 400 "04130" "invoice needs a header object and a body array"
          | .ok _ => reject 400 "04130" "invoice needs a header object and a body array"
      | _,_ => reject 400 "4145" "header needs requestTraceId and fiscalId"
    | _,_ => reject 400 "4145" "packet needs a string payload and an object header"
  | _ => reject 400 "4144" "packet is not a JSON object"

def acceptAll (minted : Nat → Minted) (already : List String) :
    (packets : List Json) → (i : Nat) → (seen : List String) → (accepted : List StoredSubmission) →
    Except Refusal (List StoredSubmission)
  | [],_,_,accepted => .ok accepted
  | packet :: rest,i,seen,accepted => do
    let (uid,submission) ← accept py state auth (minted i) packet
    if uid ∈ seen ∨ uid ∈ already then reject 400 "4163" ("duplicate requestTraceId " ++ py.repr (.str uid))
    else acceptAll minted already rest (i + 1) (uid :: seen) (accepted ++ [submission])

end Accept

def StoredSubmission.result (s : StoredSubmission) : SubmitResult :=
  { uid := s.uid, referenceNumber := some s.referenceNumber }

namespace Registry
variable {lib : Library} (py : Python)

def uids (s : Registry lib) : List String := s.submissions.entries.map (·.2.uid)

def store (s : Registry lib) (accepted : List StoredSubmission) : Registry lib :=
  { s with submissions := accepted.foldl (fun held a => held.put a.referenceNumber a) s.submissions }

def invoice (s : Registry lib) (post : Post) : Except Refusal BatchResponse × Registry lib :=
  match authenticate py s.toMockState post.now post.authorization with
  | .error r => (.error r,s)
  | .ok (auth,burned) =>
    let s := { s with toMockState := burned }
    match loads py post.body with
    | .error (.decode text) => (reject 400 "4144" ("body is not JSON: " ++ text),s)
    | .error (.value text) => (.error (.escaped text),s)
    | .ok (.arr packets) =>
      if packets = [] then (reject 400 "4144" "body must be a non-empty JSON array of packets",s)
      else if maxPackets < packets.length then (reject 400 "4143" (toString packets.length ++ " packets in one request"),s)
      else match acceptAll py burned auth post.minted s.uids packets 0 [] [] with
        | .error r => (.error r,s)
        | .ok accepted => (.ok ⟨py.millis post.answeredAt,accepted.map StoredSubmission.result⟩,s.store accepted)
    | .ok _ => (reject 400 "4144" "body must be a non-empty JSON array of packets",s)

def run (s : Registry lib) (posts : List Post) : Registry lib := posts.foldl (fun s post => (s.invoice py post).2) s

def Fresh (s : Registry lib) (post : Post) : Prop :=
  (∀ i, (post.minted i).uuid ∉ s.submissions.keys) ∧ ∀ i j, (post.minted i).uuid = (post.minted j).uuid → i = j

def Throughout : Registry lib → List Post → Prop
  | _,[] => True
  | s,post :: rest => s.Fresh post ∧ Throughout (s.invoice py post).2 rest

end Registry
end Moadian.Mock
