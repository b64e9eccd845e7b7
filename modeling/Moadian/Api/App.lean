import Moadian.Pipeline

/-! The invoice endpoints. A request runs as the profile its path names; what it
reads of the store it keeps as a copy, and writes back whole. -/
namespace Moadian
open Handler

structure Report where
  id : Option Int
  taxId : Option String
  referenceNumber : Option String
  previousState : InvoiceState
  state : InvoiceState
  inquiry : Json
  cancelledTaxId : Option String

inductive Reply where
  | saved (id : Option Int) (state : InvoiceState) (verification : Dict)
  | deleted
  | submitted (id : Option Int) (state : InvoiceState) (taxId uid : String) (referenceNumber : Option String)
  | reconciled (checked updated : Nat) (records : List Report)
  | inquired (record : Report)
  | referring (id : Option Int) (taxId : Option String) (state : InvoiceState) (subject : Int) (invoice : Json)

namespace Api

def http {α : Type} (status : Nat) (detail : String) : Handler α := raise (.http status (.str detail))

def notFound {α : Type} : Handler α := http 404 "صورتحساب یافت نشد"

-- A number that SQLite has no integer for is refused before the statement is made.
def bindInteger (n : Int) : Handler Unit :=
  if -(2^63) ≤ n ∧ n < 2^63 then pure ()
  else raise (.overflowError "Python int too large to convert to SQLite INTEGER")

/- `store.get_invoice(...)`, and the 404 of every endpoint that names a record. -/
def recordOf (profile : Profile) (id : Int) : Handler InvoiceRecord := do
  bindInteger id
  let found : Option InvoiceRecord ← perform (.getInvoice id)
  match found with
  | none => notFound
  | some record => if record.profile ≠ profile.name then notFound else pure record

def draftState (report : VerificationResult) : InvoiceState := if report.ok then .draft else .invalid

def givenTaxId (invoice : Invoice) : Option String :=
  if invoice.header.taxid = "" then none else some invoice.header.taxid

def draftOf (engine : RuleEngine) (profile : Profile) (body : Invoice) : InvoiceRecord where
  profile := profile.name
  state := draftState (engine.verify body)
  payload := body.wireDict
  taxId := givenTaxId body
  detail := some (engine.verify body).asDict

def redraft (engine : RuleEngine) (record : InvoiceRecord) (body : Invoice) : InvoiceRecord :=
  { record with
    state := draftState (engine.verify body)
    payload := body.wireDict
    taxId := givenTaxId body
    detail := some (engine.verify body).asDict }

def saveInvoice (engine : RuleEngine) (profile : Profile) (body : Invoice) : Handler Reply := do
  let record : InvoiceRecord ← perform (.saveInvoice (draftOf engine profile body))
  pure (.saved record.id record.state (engine.verify body).asDict)

def updateInvoice (engine : RuleEngine) (profile : Profile) (invoiceId : Int) (body : Invoice) :
    Handler Reply := do
  let record ← recordOf profile invoiceId
  if !record.state.editable then
    http 409 ("تنها پیش‌نویس قابل ویرایش است. برای اصلاح صورتحساب ارسال‌شده، " ++ "صورتحساب اصلاحی صادر کنید.")
  else do
    let saved : InvoiceRecord ← perform (.saveInvoice (redraft engine record body))
    pure (.saved saved.id saved.state (engine.verify body).asDict)

def deleteInvoice (profile : Profile) (invoiceId : Int) : Handler Reply := do
  let record ← recordOf profile invoiceId
  if !record.state.editable then
    http 409 ("تنها پیش‌نویس قابل حذف است. صورتحساب ارسال‌شده در سامانه ثبت شده " ++
      "است؛ برای بی‌اعتبار کردن آن صورتحساب ابطالی صادر کنید.")
  else do
    let gone : Except Exc Unit ← perform (.deleteInvoice invoiceId)
    ofExcept gone
    pure .deleted

/-! Filing. -/

def draftToSend (profile : Profile) : Option Int → Handler (Option InvoiceRecord)
  | none => pure none
  | some recordId => do
    let record ← recordOf profile recordId
    if !record.state.editable then
      http 409 ("این صورتحساب قبلاً ارسال شده است؛ ارسال دوباره آن را برای بار " ++
        "دوم ثبت می‌کند. برای اصلاح، صورتحساب اصلاحی صادر کنید.")
    else pure (some record)

def freshRecord (profile : Profile) (state : InvoiceState) (body : Invoice) : InvoiceRecord where
  profile := profile.name
  state := state
  payload := body.wireDict

def refused (engine : RuleEngine) (profile : Profile) (record : Option InvoiceRecord) (body : Invoice) :
    InvoiceRecord :=
  { record.getD (freshRecord profile .invalid body) with
    state := .invalid
    payload := body.wireDict
    detail := some (engine.verify body).asDict }

def filed (engine : RuleEngine) (profile : Profile) (record : Option InvoiceRecord) (body : Invoice)
    (submission : InvoiceSubmission) : InvoiceRecord :=
  { record.getD (freshRecord profile .sent body) with
    state := .sent
    payload := body.wireDict
    taxId := some submission.taxId
    uid := some submission.uid
    referenceNumber := submission.referenceNumber
    detail := some (engine.verify body).asDict }

def fromProfile (profile : Profile) : Handler MoadianClient := do
  let client : Except Exc MoadianClient ← perform (.fromProfile profile)
  ofExcept client

def pipelineFor (engine : RuleEngine) (profile : Profile) (client : MoadianClient) : InvoicePipeline where
  client := client
  memoryId := profile.memoryId
  rules := engine

def submitInvoice (engine : RuleEngine) (profile : Profile) (body : Invoice) (recordId : Option Int) :
    Handler Reply := do
  let record ← draftToSend profile recordId
  if !(engine.verify body).ok then do
    let _ ← perform (.saveInvoice (refused engine profile record body))
    raise (.http 422 (.obj (engine.verify body).asDict))
  else do
    let client ← fromProfile profile
    let submissions ← (pipelineFor engine profile client).submit [body]
    match submissions with
    | [] => raise (.valueError "list index out of range")
    | submission :: _ => do
      let saved : InvoiceRecord ← perform (.saveInvoice (filed engine profile record body submission))
      pure (.submitted saved.id saved.state submission.taxId submission.uid submission.referenceNumber)

/-! Inquiry. -/

def verdict (status : Option StatusField) : Option InvoiceState :=
  match status.map StatusField.value with
  | some "SUCCESS" => some .confirmed
  | some "FAILED" => some .rejected
  | _ => none

def listOf : Option Json → Except Exc (List Json)
  | none => .ok []
  | some .null => .ok []
  | some (.arr items) => .ok items
  | some (.str s) => .ok (s.toList.map (fun c => .str c.toString))
  | some (.obj members) => .ok (members.map (fun m => .str m.1))
  | some (.bool true) => .error (.typeError "'bool' object is not iterable")
  | some (.bool false) => .ok []
  | some (.int n) => if n = 0 then .ok [] else .error (.typeError "'int' object is not iterable")
  | some (.float (.finite q)) => if q = 0 then .ok [] else .error (.typeError "'float' object is not iterable")
  | some (.float _) => .error (.typeError "'float' object is not iterable")

def nullable : Option String → Json
  | none => .null
  | some s => .str s

def inquiryBlock (result : InquiryResult) : Handler Json := do
  let data := match result.data with
    | none => []
    | some data => data.modelDump
  let checkedAt : Moment ← perform .now
  let errors ← ofExcept (listOf (data.lookup "error"))
  let warnings ← ofExcept (listOf (data.lookup "warning"))
  pure (.obj [
    ("status",nullable (result.status.map StatusField.value)), ("checkedAt",.str checkedAt.isoformat),
    ("referenceNumber",nullable result.referenceNumber), ("uid",nullable result.uid),
    ("errors",.arr errors), ("warnings",.arr warnings)])

def number : Option Int → Json
  | none => .null
  | some n => .int n

def voided (target record : InvoiceRecord) (at_ : Moment) : InvoiceRecord :=
  { target with
    state := .cancelled
    detail := some (Json.setMember "cancelledBy" (.obj [("id",number record.id),
      ("taxId",nullable record.taxId), ("at",.str at_.isoformat)]) (target.detail.getD [])) }

/- The tax id an ابطالی names, when the record is one. -/
def voids (record : InvoiceRecord) : Option String :=
  match record.payload.header "ins" with
  | some (.int 3) => match record.payload.text "irtaxid" with
    | some reference => if reference = "" then none else some reference
    | none => none
  | _ => none

def applyCancellation (record : InvoiceRecord) (profile : Profile) : Handler (Option String) :=
  match voids record with
  | none => pure none
  | some reference => do
    let found : Option InvoiceRecord ← perform (.findByTaxId profile.name reference)
    match found with
    | none => pure none
    | some target =>
      if target.id = record.id ∨ target.state = .cancelled then pure none
      else do
        let at_ : Moment ← perform .now
        let _ ← perform (.saveInvoice (voided target record at_))
        pure (some reference)

-- The answer about one reference number: the last one of it.
def byReference (results : List InquiryResult) (reference : Option String) : Option InquiryResult :=
  results.reverse.find? (fun result => truthy result.referenceNumber && result.referenceNumber == reference)

def judged (record : InvoiceRecord) (result : InquiryResult) (block : Json) : InvoiceRecord :=
  { record with
    state := (verdict result.status).getD record.state
    detail := some (Json.setMember "inquiry" block (record.detail.getD [])) }

def reconcileRecord (profile : Profile) (results : List InquiryResult) (record : InvoiceRecord) :
    Handler (Option Report) :=
  match byReference results record.referenceNumber with
  | none => pure none
  | some result => do
    let block ← inquiryBlock result
    let _ ← perform (.saveInvoice (judged record result block))
    let cancelled ← if (judged record result block).state = .confirmed
      then applyCancellation (judged record result block) profile else pure none
    pure (some ⟨record.id,record.taxId,record.referenceNumber,record.state,
      (judged record result block).state,block,cancelled⟩)

def reconcileRecords (profile : Profile) (results : List InquiryResult) :
    List InvoiceRecord → Handler (List Report)
  | [] => pure []
  | record :: rest => do
    let first ← reconcileRecord profile results record
    let later ← reconcileRecords profile results rest
    pure (first.toList ++ later)

def maxInquiryIds : Nat := 100

def inquire (client : MoadianClient) : List (List InvoiceRecord) → Handler (List InquiryResult)
  | [] => pure []
  | chunk :: rest => do
    let first ← inquiryByReferenceId client (chunk.filterMap (·.referenceNumber))
    let later ← inquire client rest
    pure (first ++ later)

def reconcile (records : List InvoiceRecord) (profile : Profile) : Handler (Nat × Nat × List Report) := do
  let pending := records.filter (fun r => truthy r.referenceNumber)
  if pending.isEmpty then pure (0,0,[])
  else do
    let client ← fromProfile profile
    let results ← inquire client (slices maxInquiryIds pending)
    let reported ← reconcileRecords profile results pending
    pure (pending.length,(reported.filter (fun r => r.state ≠ r.previousState)).length,reported)

def inquirePending (profile : Profile) (limit : Int) : Handler Reply := do
  bindInteger limit
  let records : List InvoiceRecord ← perform (.listAwaitingInquiry profile.name limit)
  let (checked,updated,reported) ← reconcile records profile
  pure (.reconciled checked updated reported)

def inquireOne (profile : Profile) (invoiceId : Int) : Handler Reply := do
  let record ← recordOf profile invoiceId
  if !truthy record.referenceNumber then
    http 400 "این صورتحساب شماره پیگیری ندارد؛ تنها صورتحساب پذیرفته‌شده قابل استعلام است."
  else do
    let (_,_,reported) ← reconcile [record] profile
    match reported with
    | [] => http 502 "سامانه پاسخی برای این شماره پیگیری بازنگرداند."
    | report :: _ => pure (.inquired report)

/-! The draft of a correction, a cancellation or a return. -/

def referringDraft (record : InvoiceRecord) (subject millis : Int) : Json :=
  let header := record.payload.header
  let body := match record.payload.json.get "body" with
    | some (.arr items) => items
    | _ => []
  .obj [
    ("header",.obj (List.filter (fun m => !m.2.isNull) [
      ("inty",(header "inty").getD (.int 1)), ("inp",(header "inp").getD (.int 1)), ("ins",.int subject),
      ("irtaxid",nullable record.taxId), ("indatim",.int millis), ("tins",(header "tins").getD .null),
      ("tob",(header "tob").getD .null), ("bid",(header "bid").getD .null),
      ("tinb",(header "tinb").getD .null), ("bpc",(header "bpc").getD .null),
      ("setm",(header "setm").getD .null)])),
    ("body",.arr (if subject = 3 then [] else body)),
    ("payments",.arr [])]

def referringInvoice (profile : Profile) (invoiceId subject : Int) : Handler Reply := do
  if subject ∉ [2,3,4] then
    http 400 "موضوع باید اصلاحی (۲)، ابطالی (۳) یا برگشت از فروش (۴) باشد"
  else do
    let record ← recordOf profile invoiceId
    if !truthy record.taxId then
      http 400 "این صورتحساب هنوز شماره مالیاتی ندارد؛ تنها صورتحساب ارسال‌شده مرجع می‌شود."
    else do
      let now : Moment ← perform .now
      pure (.referring record.id record.taxId record.state subject (referringDraft record subject now.millis))

end Api

inductive Request where
  | save (profile : Profile) (body : Invoice)
  | update (profile : Profile) (invoiceId : Int) (body : Invoice)
  | delete (profile : Profile) (invoiceId : Int)
  | submit (profile : Profile) (body : Invoice) (recordId : Option Int)
  | inquirePending (profile : Profile) (limit : Int)
  | inquireOne (profile : Profile) (invoiceId : Int)
  | referring (profile : Profile) (invoiceId subject : Int)

def Request.handle (engine : RuleEngine) : Request → Handler Reply
  | save profile body => Api.saveInvoice engine profile body
  | update profile invoiceId body => Api.updateInvoice engine profile invoiceId body
  | delete profile invoiceId => Api.deleteInvoice profile invoiceId
  | submit profile body recordId => Api.submitInvoice engine profile body recordId
  | inquirePending profile limit => Api.inquirePending profile limit
  | inquireOne profile invoiceId => Api.inquireOne profile invoiceId
  | referring profile invoiceId subject => Api.referringInvoice profile invoiceId subject

end Moadian
