import Moadian.Crypto.Canonical
import Moadian.Service

/-! The API client: one token minted for each authenticated call, and every reply
turned into a value or into the exception that says what went wrong. -/
namespace Moadian
open Handler

def buildUrl (baseUrl endpoint : String) : String :=
  String.ofList (baseUrl.toList.reverse.dropWhile (· == '/')).reverse ++ "/api/v2/" ++
    String.ofList (endpoint.toList.dropWhile (· == '/'))

def snippetLimit : Nat := 1000

def snippet {α : Type} (r : Response α) : String :=
  if r.text.length ≤ snippetLimit then r.text else String.ofList (r.text.toList.take snippetLimit) ++ "…"

def apiFailure {α : Type} (r : Response α) : Exc :=
  let errors := match r.envelope with
    | none => []
    | some envelope => envelope.errors.map (fun e => (e.code,e.message))
  let traceId := r.envelope.bind (·.requestTraceId)
  if r.status = 401 ∨ r.status = 403 then
    .authentication {
      message := match r.envelope with
        | some _ => "the tax API rejected the bearer token"
        | none => "the tax API rejected the bearer token; body: " ++ snippet r
      statusCode := some r.status, errors := errors, requestTraceId := traceId }
  else match r.envelope with
    | none => .unknownResponse {
        message := "HTTP " ++ toString r.status ++ " with an unparseable body: " ++ snippet r
        statusCode := some r.status }
    | some _ => .taxApi {
        message := "the tax API rejected the request"
        statusCode := some r.status, errors := errors, requestTraceId := traceId }

def raiseForApiError {α : Type} (r : Response α) : Handler Unit :=
  if r.isSuccess then pure () else raise (apiFailure r)

def notJson {α : Type} (r : Response α) (reason : String) : Exc := .unknownResponse {
  message := "response body is not JSON (" ++ reason ++ "): " ++ snippet r, statusCode := some r.status }

def mismatch {α : Type} (r : Response α) (model reason : String) : Exc := .unknownResponse {
  message := "response does not match " ++ model ++ " (" ++ reason ++ "): " ++ snippet r
  statusCode := some r.status }

def decodeModel {α : Type} (model : String) (r : Response α) : Handler α :=
  match r.body with
  | .notJson reason => raise (notJson r reason)
  | .notArray => raise (mismatch r model "not an object")
  | .mismatch reason => raise (mismatch r model reason)
  | .parsed value => pure value

def decodeModelList {α : Type} (model : String) (r : Response (List α)) : Handler (List α) :=
  match r.body with
  | .notJson reason => raise (notJson r reason)
  | .notArray => raise (.unknownResponse {
      message := "expected a JSON array of " ++ model ++ ": " ++ snippet r, statusCode := some r.status })
  | .mismatch reason => raise (mismatch r ("list[" ++ model ++ "]") reason)
  | .parsed values => pure values

-- What is sent is performed by `send`; only a failure of it is a transport failure.
def exchange {α : Type} (method url : String) (send : Handler (HttpReply α)) : Handler (Response α) := do
  match ← send with
  | .failed reason => raise (.transport (method ++ " " ++ url ++ " failed: " ++ reason))
  | .response r => do
    raiseForApiError r
    pure r

def fetchNonce (client : MoadianClient) : Handler NonceResponse := do
  let r ← exchange "GET" (buildUrl client.baseUrl "nonce") (perform .getNonce)
  decodeModel "NonceResponse" r

def bearerToken (client : MoadianClient) : Handler Unit := do
  let nonce ← fetchNonce client
  let signed : Except Exc Unit ← perform (.signToken nonce.nonce)
  ofExcept signed

def request {α : Type} (client : MoadianClient) (method endpoint : String)
    (send : Handler (HttpReply α)) : Handler (Response α) := do
  bearerToken client
  exchange method (buildUrl client.baseUrl endpoint) send

def maxPackets : Nat := 1000

def getServerInformation (client : MoadianClient) : Handler ServerInformation := do
  let r ← request client "GET" "server-information" (perform .getServerInformation)
  decodeModel "ServerInformation" r

def submitInvoices (client : MoadianClient) (packets : List Packet) : Handler BatchResponse := do
  if maxPackets < packets.length then
    raise (.taxApi {
      message := "cannot submit more than " ++ toString maxPackets ++ " packets in one request, got " ++
        toString packets.length
      errors := [("4143","در یک درخواست نمی‌توانید بیشتر از 1000 صورتحساب ارسال نمایید.")] })
  let r ← request client "POST" "invoice" (perform (.postInvoice packets))
  decodeModel "BatchResponse" r

def inquiryByReferenceId (client : MoadianClient) (references : List String) :
    Handler (List InquiryResult) := do
  let r ← request client "GET" "inquiry-by-reference-id" (perform (.getInquiryByReferenceId references))
  decodeModelList "InquiryResult" r

/- Canonicalise, sign, encrypt. What has no JSON form is refused before it is
signed. -/
def buildPacket (document : Json) (fiscalId requestTraceId : String) : Handler Packet := do
  let _ ← ofExcept document.canonicalJson
  let sealed : Except Exc String ← perform (.signAndEncrypt document)
  let payload ← ofExcept sealed
  pure ⟨payload,document,requestTraceId,fiscalId⟩

end Moadian
