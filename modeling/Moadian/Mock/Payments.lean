import Moadian.Mock.Inquiries

/-! `POST /invoice-payment`, and the whole server: every route, and what a sequence of
requests makes of it. -/
namespace Moadian.Mock
open Codec Crypto

inductive PaymentMethod where
  | cheque | barter | cash | pos | internet | card | transfer | other
  deriving DecidableEq, Repr

def PaymentMethod.value : PaymentMethod → String
  | cheque => "CHEQUE"
  | barter => "BARTER"
  | cash => "CASH"
  | pos => "POS"
  | internet => "INTERNET"
  | card => "CARD"
  | transfer => "TRANSFER"
  | other => "OTHER"

def PaymentMethod.all : List PaymentMethod := [cheque,barter,cash,pos,internet,card,transfer,other]

structure StoredPayment where
  taxId : String
  paidAmount : Int
  paymentDate : Int
  paymentMethod : String
  terminalNumber : Option String
  referenceNumber : Option String
  clientId : String
  recordedAt : Int
  deriving DecidableEq, Repr

def isTaxId (text : String) : Bool :=
  text.length == 22 && text.toList.all (fun c => ('0' ≤ c && c ≤ '9') || ('A' ≤ c && c ≤ 'Z'))

section Fields
variable (py : Python) (body : Dict)

def requiredInt (name : String) : Except Refusal Int :=
  match member body name with
  | .int n => if n < 0 then reject 400 "4147" (name ++ " must not be negative, got " ++ toString n) else .ok n
  | v => reject 400 "4147" (name ++ " must be an integer, got " ++ py.repr v)

def optionalStr (name : String) : Except Refusal (Option String) :=
  match member body name with
  | .null => .ok none
  | .str text => .ok (some text)
  | v => reject 400 "4147" (name ++ " must be a string, got " ++ typeName v)

def namedTaxId : Json := (body.lookup "taxid").getD (member body "taxId")

def allowedMethods : List String := (PaymentMethod.all.map PaymentMethod.value).mergeSort (· ≤ ·)

def acceptPayment (clientId : String) (recordedAt : Int) : Except Refusal StoredPayment :=
  match namedTaxId body with
  | .str taxId =>
    if !isTaxId taxId then reject 400 "4147" ("taxid must be 22 uppercase alphanumerics: " ++ py.repr (.str taxId))
    else do
      let paidAmount ← requiredInt py body "paidAmount"
      if paidAmount = 0 then reject 400 "4147" "paidAmount must be greater than zero"
      else do
        let paymentDate ← requiredInt py body "paymentDate"
        match member body "paymentMethod" with
        | .str method =>
          if method ∉ allowedMethods then
            reject 400 "4147" ("paymentMethod must be one of " ++ py.repr (.arr (allowedMethods.map .str)) ++ ", got " ++ py.repr (.str method))
          else do
            let terminalNumber ← optionalStr body "terminalNumber"
            let referenceNumber ← optionalStr body "referenceNumber"
            .ok ⟨taxId,paidAmount,paymentDate,method,terminalNumber,referenceNumber,clientId,recordedAt⟩
        | v => reject 400 "4147" ("paymentMethod must be one of " ++ py.repr (.arr (allowedMethods.map .str)) ++ ", got " ++ py.repr v)
  | v => reject 400 "4147" ("taxid must be 22 uppercase alphanumerics: " ++ py.repr v)

end Fields

structure PaymentAnswer where
  requestStatus : RequestStatus
  error : List ApiError
  deriving DecidableEq, Repr

structure MockServer (lib : Library) extends Registry lib where
  payments : List StoredPayment := []

/-! The taxpayer look-ups, which read nothing of the state. -/

structure TaxpayerResult where
  nameTrade : Option String := none
  taxpayerStatus : Option String := none
  nationalId : Option String := none
  taxpayerType : Option String := none
  postalcodeTaxpayer : Option String := none
  addressTaxpayer : Option String := none
  deriving DecidableEq, Repr

structure FiscalInformationResult where
  nameTrade : Option String := none
  fiscalStatus : Option String := none
  nationalId : Option String := none
  economicCode : Option String := none
  deriving DecidableEq, Repr

def checkEconomicCode (economicCode : String) : Except Refusal Unit :=
  if economicCode.length < 10 then refuse 404 "4171" ("economicCode is " ++ toString economicCode.length ++ " characters")
  else .ok ()

def taxpayer (economicCode : String) : Except Refusal TaxpayerResult := do
  checkEconomicCode economicCode
  .ok { nameTrade := some "شرکت آزمایشی مودیان", taxpayerStatus := some "ACTIVE", nationalId := some economicCode }

def taxpayerInfo (economicCode : String) : Except Refusal TaxpayerResult := do
  let named ← taxpayer economicCode
  .ok { named with
    taxpayerType := some "LEGAL"
    postalcodeTaxpayer := some "1994844121"
    addressTaxpayer := some "تهران، خیابان آزمایشی، پلاک ۱" }

def article6VatCeiling : Int := 200000000

def taxpayerArticle6Status (economicCode : String) (vatValue period : Int) : Except Refusal Bool := do
  checkEconomicCode economicCode
  if vatValue < 0 then reject 400 "4147" ("vatValue must not be negative, got " ++ toString vatValue)
  else if period < 1 then reject 400 "4147" ("period must be positive, got " ++ toString period)
  else .ok (decide (vatValue ≤ article6VatCeiling))

def fiscalInformation (py : Python) (memoryId : String) : Except Refusal FiscalInformationResult :=
  if memoryId.length == 6 && memoryId.toList.all (fun c => ('0' ≤ c && c ≤ '9') || ('A' ≤ c && c ≤ 'Z')) then
    .ok ⟨some memoryId,some "ACTIVE",some "14003778990",some "14003778990"⟩
  else refuse 400 "4148" ("memoryId must be 6 uppercase alphanumerics: " ++ py.repr (.str memoryId))

inductive Route where
  | serverInformation
  | inquiryByReferenceId (asking : Asking) (referenceIds : List String)
  | inquiryByUid (asking : Asking) (uidList : List String) (fiscalId : Option String)
  | inquiry (asking : Asking) (pageNumber pageSize : Int) (status : Option String)
  | inquiryInvoiceStatus (taxIds : List String)
  | taxpayer (economicCode : String)
  | taxpayerInfo (economicCode : String)
  | taxpayerArticle6Status (economicCode : String) (vatValue period : Int)
  | invoicePayment (body : Bytes) (recordedAt : Int)
  | fiscalInformation (memoryId : String)

inductive Answer where
  | nonce (response : NonceResponse)
  | serverInformation (information : ServerInformation)
  | batch (response : BatchResponse)
  | inquired (results : List InquiryResult)
  | statuses (results : List InvoiceStatusResult)
  | taxpayer (result : TaxpayerResult)
  | article6 (remains : Bool)
  | payment (answer : PaymentAnswer)
  | fiscal (result : FiscalInformationResult)

inductive Arrival where
  | nonce (now : Int) (uuid : String) (timeToLive : Int)
  | invoice (post : Post)
  | guarded (now : Int) (authorization : List Char) (route : Route)

def isoNanos (moment : Int) : List Char :=
  match ofSeconds ((epoch + moment) / 1000000) with
  | none => []
  | some d => digits4 d.year ++ '-' :: digits2 d.month ++ '-' :: digits2 d.day ++ 'T' :: clockText d ++
      '.' :: digits6 (moment % 1000000).toNat ++ "000Z".toList

namespace MockServer
variable {lib : Library} (py : Python) (s : MockServer lib)

def invoicePayment (auth : AuthContext lib) (body : Bytes) (recordedAt : Int) : Except Refusal PaymentAnswer × MockServer lib :=
  match loads py body with
  | .error (.decode text) => (reject 400 "4144" ("body is not JSON: " ++ text),s)
  | .error (.value text) => (.error (.escaped text),s)
  | .ok (.obj body) => match acceptPayment py body auth.clientId recordedAt with
    | .error r => (.error r,s)
    | .ok payment =>
      if some payment.taxId ∉ s.recorded.map StoredSubmission.taxId then
        (.ok ⟨.failed,[{
          code := "4147"
          message := (describe "4147").getD "None" ++ " (no invoice with taxid " ++ py.repr (.str payment.taxId) ++
            " was submitted to this server)" }]⟩,s)
      else (.ok ⟨.success,[]⟩,{ s with payments := s.payments ++ [payment] })
  | .ok _ => (reject 400 "4144" "body must be a JSON object",s)

def dispatch (now : Int) (auth : AuthContext lib) : Route → Except Refusal Answer × MockServer lib
  | .serverInformation => (.ok (.serverInformation ⟨py.millis now,[⟨String.ofList s.publicKeyB64,s.keyId,some "RSA",some 1⟩]⟩),s)
  | .inquiryByReferenceId asking referenceIds => ((s.inquiryByReferenceId py asking referenceIds).map .inquired,s)
  | .inquiryByUid asking uidList fiscalId => ((s.inquiryByUid py asking uidList fiscalId).map .inquired,s)
  | .inquiry asking pageNumber pageSize status => ((s.inquiry py asking pageNumber pageSize status).map .inquired,s)
  | .inquiryInvoiceStatus taxIds => ((s.inquiryInvoiceStatus taxIds).map .statuses,s)
  | .taxpayer economicCode => ((Mock.taxpayer economicCode).map .taxpayer,s)
  | .taxpayerInfo economicCode => ((Mock.taxpayerInfo economicCode).map .taxpayer,s)
  | .taxpayerArticle6Status economicCode vatValue period => ((Mock.taxpayerArticle6Status economicCode vatValue period).map .article6,s)
  | .invoicePayment body recordedAt =>
    let (answer,after) := s.invoicePayment py auth body recordedAt
    (answer.map .payment,after)
  | .fiscalInformation memoryId => ((Mock.fiscalInformation py memoryId).map .fiscal,s)

def handle : Arrival → Except Refusal Answer × MockServer lib
  | .nonce now uuid timeToLive =>
    let (record,after) := issueNonce py s.toMockState uuid now timeToLive
    (.ok (.nonce ⟨record.nonce,String.ofList (isoNanos record.expiresAt)⟩),{ s with toMockState := after })
  | .invoice post =>
    let (answer,after) := s.toRegistry.invoice py post
    (answer.map .batch,{ s with toRegistry := after })
  | .guarded now authorization route => match authenticate py s.toMockState now authorization with
    | .error r => (.error r,s)
    | .ok (auth,burned) => ({ s with toMockState := burned } : MockServer lib).dispatch py now auth route

def run (s : MockServer lib) (arrivals : List Arrival) : MockServer lib := arrivals.foldl (fun s a => (s.handle py a).2) s

end MockServer
end Moadian.Mock
