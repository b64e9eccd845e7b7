import Moadian.Errors

/-! What the tax API answers. The parsing itself is the model library's: a body
is no JSON, not of the documented shape, or the value it denotes. -/
namespace Moadian

structure ApiError where
  code : String
  message : String := ""
  errorType : Option String := none
  deriving DecidableEq, Repr

def ApiError.modelDump (e : ApiError) : Json := .obj (Json.present [
  ("code",some (.str e.code)), ("message",some (.str e.message)), ("errorType",e.errorType.map .str)])

structure ErrorEnvelope where
  timestamp : Option Int := none
  requestTraceId : Option String := none
  errors : List ApiError := []
  deriving DecidableEq, Repr

structure NonceResponse where
  nonce : String
  expDate : String
  deriving DecidableEq, Repr

structure PublicKey where
  key : String
  id : String
  algorithm : Option String := none
  purpose : Option Int := none
  deriving DecidableEq, Repr

structure ServerInformation where
  serverTime : Int
  publicKeys : List PublicKey := []
  deriving DecidableEq, Repr

structure SubmitResult where
  uid : String
  packetType : Option String := none
  referenceNumber : Option String := none
  data : Option String := none
  deriving DecidableEq, Repr

structure BatchResponse where
  timestamp : Int
  result : List SubmitResult := []
  deriving DecidableEq, Repr

inductive RequestStatus where
  | inProgress | success | failed | timeout | notFound
  deriving DecidableEq, Repr

def RequestStatus.value : RequestStatus → String
  | inProgress => "IN_PROGRESS"
  | success => "SUCCESS"
  | failed => "FAILED"
  | timeout => "TIMEOUT"
  | notFound => "NOT_FOUND"

/- A documented status parses to the enumeration, any other text stays itself. -/
inductive StatusField where
  | status (s : RequestStatus)
  | text (s : String)
  deriving DecidableEq, Repr

def StatusField.value : StatusField → String
  | status s => s.value
  | text s => s

structure ValidationDetail where
  error : List ApiError := []
  warning : List ApiError := []
  success : Bool
  deriving DecidableEq, Repr

inductive InquiryData where
  | detail (d : ValidationDetail)
  | dict (members : Dict)
  deriving Repr

def InquiryData.modelDump : InquiryData → Dict
  | detail d => [("error",.arr (d.error.map ApiError.modelDump)),
      ("warning",.arr (d.warning.map ApiError.modelDump)), ("success",.bool d.success)]
  | dict members => members

structure InquiryResult where
  referenceNumber : Option String := none
  uid : Option String := none
  status : Option StatusField := none
  data : Option InquiryData := none
  packetType : Option String := none
  fiscalId : Option String := none
  sign : Option String := none
  deriving Repr

inductive Body (α : Type) where
  | notJson (reason : String)
  | notArray
  | mismatch (reason : String)
  | parsed (value : α)

structure Response (α : Type) where
  status : Nat
  text : String
  envelope : Option ErrorEnvelope := none
  body : Body α

def Response.isSuccess {α : Type} (r : Response α) : Bool := 200 ≤ r.status && r.status < 300

-- `failed`: whatever the HTTP library raises before a status line exists.
inductive HttpReply (α : Type) where
  | failed (reason : String)
  | response (r : Response α)

/- `POST /invoice`: one signed and encrypted invoice. `document` is what the
payload seals, the dictionary that was canonicalised and signed. -/
structure Packet where
  payload : String
  document : Json
  requestTraceId : String
  fiscalId : String
  deriving Repr

end Moadian
