import Moadian.Fallible
import Moadian.Mock.Submissions
import Moadian.Mock.Timestamps

/-! `GET /inquiry*`: what the server says of the packets it has recorded. Nothing is
written here. -/
namespace Moadian.Mock
open Codec Crypto Fallible

def maxInquiryIds : Nat := 100
def packetType : String := "receive_invoice_confirm"

def inquiryCodes : List (String × String) := [
  ("4140","زمان شروع بازه‌ی استعلام باید قبل از زمان پایان آن باشد."),
  ("4141","نمی‌توانید در یک درخواست وضعیت بیش از 100 صورتحساب را استعلام بگیرید."),
  ("4142","مقدار status وارد شده نامعتبر است. مقادیر مجاز: [SUCCESS, FAILED, IN_PROGRESS, TIMEOUT]"),
  ("4148","شناسه یکتای ارسالی نامعتبر است."),
  ("4171","شماره اقتصادی وارد شده از نظر طول معتبر نیست.")]

def refuse {α : Type} (status : Nat) (code detail : String) : Except Refusal α :=
  .error (.rejected ⟨status,code,((errorCodes ++ inquiryCodes).lookup code).getD "خطای غیر منتظره‌ای در انجام درخواست رخ داد." ++
    " (" ++ detail ++ ")"⟩)

/-! The server's own signature, of two header keys. -/

def epoch : Int := 719163 * dayMicros

def digits3 (n : Nat) : List Char := (n / 100).digitChar :: digits2 (n % 100)

-- `received_at.isoformat(timespec="milliseconds")`, with "Z" for "+00:00"; no clock is out of range.
def receivedDate (receivedAt : Int) : List Char :=
  match ofSeconds ((epoch + receivedAt) / 1000000) with
  | none => []
  | some d => digits4 d.year ++ '-' :: digits2 d.month ++ '-' :: digits2 d.day ++ 'T' :: clockText d ++
      '.' :: digits3 (receivedAt % 1000000 / 1000).toNat ++ ['Z']

def resultHeader (now : Int) : Dict := [
  ("alg",.str "RS256"),("sigT",.str (String.ofList (((ofSeconds ((epoch + now) / 1000000)).map strftime).getD [])))]

def resultPayload (s : StoredSubmission) : Dict := [
  ("referenceNumber",.str s.referenceNumber),("clientId",.str s.clientId),("taxId",s.taxId.elim .null .str),
  ("receivedDate",.str (String.ofList (receivedDate s.receivedAt)))]

section Results
variable {lib : Library} (py : Python) (state : MockState lib)

def raisedText : Raised → String
  | .valueError text | .typeError text | .unsupportedAlgorithm text | .other text => text

def signResult (now : Int) (s : StoredSubmission) : Except Refusal String :=
  let encoded (d : Dict) : List Char := b64url (encodeUtf8 (dumps py.floats .compact (.obj d)))
  let signed := dotted (encoded (resultHeader now)) (encoded (resultPayload s))
  match encodeAscii signed with
  | none => .error (.escaped "'ascii' codec can't encode characters")
  | some data => match lib.sign state.privateKey data with
    | .error raised => .error (.escaped (raisedText raised))
    | .ok signature => .ok (String.ofList (dotted signed (b64url signature)))

def reportOf (s : StoredSubmission) (sign : String) : InquiryResult where
  referenceNumber := some s.referenceNumber
  uid := some s.uid
  status := some (.status s.status)
  data := some (.detail ⟨[],[],s.status = .success⟩)
  packetType := some packetType
  fiscalId := some s.fiscalId
  sign := some sign

def inquiryResult (now : Int) (s : StoredSubmission) : Except Refusal InquiryResult :=
  if s.status = .success then (signResult py state now s).map (reportOf s) else .ok (reportOf s "")

def notFound (identifier : String) (byUid : Bool) : InquiryResult where
  referenceNumber := if byUid then none else some identifier
  uid := if byUid then some identifier else none
  status := some (.status .notFound)
  data := some (.dict [])
  sign := some ""

def bound (value : Option String) (name : String) : Except Refusal (Option Int) :=
  (parseTimestamp py value name).map (fun m => m.bind (fun m => m.instant.map (fun n => n - epoch)))

-- Without a bound, the last 24 hours.
def within (now : Int) (start end_ : Option Int) (s : StoredSubmission) : Bool :=
  let start := if start = none ∧ end_ = none then some (now - dayMicros) else start
  start.all (fun a => a ≤ s.receivedAt) && end_.all (fun b => s.receivedAt ≤ b)

def crossed (start end_ : Option Int) : Bool := start.any (fun a => end_.any (fun b => b < a))

def window (now : Int) (submissions : List StoredSubmission) (start end_ : Option Int) : Except Refusal (List StoredSubmission) :=
  if crossed start end_ then refuse 400 "4140" "start must precede end"
  else .ok (submissions.filter (within now start end_))

-- Of one identifier; `{key(s): s for s in found}` keeps the last of a key.
def answer (key : StoredSubmission → String) (byUid : Bool) (found : List StoredSubmission) (now : Int) (id : String) :
    Except Refusal InquiryResult :=
  match found.reverse.find? (fun s => key s == id) with
  | some s => inquiryResult py state now s
  | none => .ok (notFound id byUid)

end Results

structure Asking where
  start : Option String := none
  end_ : Option String := none
  lookedAt : Int
  signedAt : Nat → Int

structure InvoiceStatusResult where
  taxId : Option String := none
  invoiceStatus : Option String := none
  article6Status : Option String := none
  error : Option String := none
  deriving DecidableEq, Repr

namespace Registry
variable {lib : Library} (py : Python) (s : Registry lib)

def recorded : List StoredSubmission := s.submissions.entries.map Prod.snd

def inquiryByReferenceId (asking : Asking) (referenceIds : List String) : Except Refusal (List InquiryResult) :=
  if referenceIds = [] then refuse 400 "4147" "referenceIds is required"
  else if maxInquiryIds < referenceIds.length then refuse 400 "4141" (toString referenceIds.length ++ " ids in one request")
  else do
    let start ← bound py asking.start "start"
    let end_ ← bound py asking.end_ "end"
    let found ← window asking.lookedAt s.recorded start end_
    each (fun i id => answer py s.toMockState StoredSubmission.referenceNumber false found (asking.signedAt i) id) 0 referenceIds

def inquiryByUid (asking : Asking) (uidList : List String) (fiscalId : Option String) : Except Refusal (List InquiryResult) :=
  if uidList = [] then refuse 400 "4147" "uidList is required"
  else if maxInquiryIds < uidList.length then refuse 400 "4141" (toString uidList.length ++ " ids in one request")
  else do
    let start ← bound py asking.start "start"
    let end_ ← bound py asking.end_ "end"
    let found ← window asking.lookedAt (s.recorded.filter (fun a => fiscalId.all (fun f => a.fiscalId == f))) start end_
    each (fun i id => answer py s.toMockState StoredSubmission.uid true found (asking.signedAt i) id) 0 uidList

def inquiryStatuses : List String := [RequestStatus.success,.failed,.inProgress,.timeout].map RequestStatus.value

def inquiry (asking : Asking) (pageNumber pageSize : Int) (status : Option String) : Except Refusal (List InquiryResult) :=
  if pageNumber < 1 ∨ ¬(1 ≤ pageSize ∧ pageSize ≤ 100) then refuse 400 "4147" "pageNumber >= 1 and pageSize in 1..100"
  else if status.any (fun text => text ∉ inquiryStatuses) then
    refuse 400 "4142" ("unknown status " ++ py.repr (status.elim .null .str))
  else do
    let start ← bound py asking.start "start"
    let end_ ← bound py asking.end_ "end"
    let found ← window asking.lookedAt (s.recorded.filter (fun a => status.all (fun text => a.status.value == text))) start end_
    each (fun i a => inquiryResult py s.toMockState (asking.signedAt i) a) 0
      ((found.drop ((pageNumber - 1) * pageSize).toNat).take pageSize.toNat)

def knownTaxIds : List String := s.recorded.filterMap (fun a => a.taxId.filter (fun taxId => taxId ≠ ""))

def inquiryInvoiceStatus (taxIds : List String) : Except Refusal (List InvoiceStatusResult) :=
  if taxIds = [] then refuse 400 "4147" "taxIds is required"
  else .ok (taxIds.map (fun taxId =>
    if taxId ∈ s.knownTaxIds then ⟨some taxId,some "SYSTEMIC_APPROVED",some "NOT_EXCEEDED",none⟩
    else ⟨some taxId,none,none,some "NOT_FOUND"⟩))

end Registry
end Moadian.Mock
