import Moadian.Client.Client
import Moadian.Rules.Engine
import Moadian.TaxId

/-! `InvoicePipeline`: identities are minted one request's worth at a time, right
before it is sent, and results are matched by the uid chosen here. -/
namespace Moadian
open Handler

def slices {α : Type} (size : Nat) (xs : List α) : List (List α) :=
  (List.range ((xs.length + size - 1) / size)).map (fun i => (xs.drop (i * size)).take size)

theorem slicesNil {α : Type} (size : Nat) : slices size ([] : List α) = [] := by
  have none_ : (([] : List α).length + size - 1) / size = 0 := by
    cases size <;> simp
  rw [slices,none_]
  rfl

theorem slicesCons {α : Type} {size : Nat} (positive : 0 < size) {xs : List α} (some_ : xs ≠ []) :
    slices size xs = xs.take size :: slices size (xs.drop size) := by
  have long : 0 < xs.length := List.length_pos_of_ne_nil some_
  have count : (xs.length + size - 1) / size = ((xs.drop size).length + size - 1) / size + 1 := by
    rw [List.length_drop]
    by_cases more : size ≤ xs.length
    · have moved : xs.length + size - 1 = (xs.length - size + size - 1) + size := by omega
      rw [moved,Nat.add_div_right _ positive]
    · have last : xs.length - size + size - 1 < size := by omega
      have first : xs.length + size - 1 = (xs.length - 1) + size := by omega
      rw [Nat.div_eq_of_lt last,first,Nat.add_div_right _ positive,Nat.div_eq_of_lt (by omega)]
  unfold slices
  rw [count,List.range_succ_eq_map]
  simp only [List.map_cons,List.map_map,Nat.zero_mul,List.drop_zero,List.cons.injEq,true_and]
  refine List.map_congr_left (fun i _ => ?_)
  simp only [Function.comp_apply,List.drop_drop]
  rw [Nat.succ_mul,Nat.add_comm]

theorem slicesFlatten {α : Type} {size : Nat} (positive : 0 < size) (xs : List α) : (slices size xs).flatten = xs := by
  induction h : xs.length using Nat.strongRecOn generalizing xs with
  | ind n ih =>
    by_cases some_ : xs = []
    · rw [some_,slicesNil]
      rfl
    · have long := List.length_pos_of_ne_nil some_
      have shorter : (xs.drop size).length < n := by
        rw [List.length_drop]
        omega
      rw [slicesCons positive some_,List.flatten_cons,ih _ shorter _ rfl,List.take_append_drop]

theorem slicesShort {α : Type} (size : Nat) (xs : List α) : ∀ chunk ∈ slices size xs, chunk.length ≤ size := by
  intro chunk member
  obtain ⟨i,_,rfl⟩ := List.mem_map.mp member
  exact List.length_take_le _ _

structure InvoiceSubmission where
  uid : String
  taxId : String
  referenceNumber : Option String
  raw : Option SubmitResult

structure InvoicePipeline where
  client : MoadianClient
  memoryId : String
  rules : RuleEngine
  validate : Bool := true

namespace InvoicePipeline
variable (pipeline : InvoicePipeline)

def serverKey : Handler ServerKey := do
  let information ← getServerInformation pipeline.client
  match information.publicKeys with
  | [] => raise (.unknownResponse {
      message := "GET /server-information returned no public keys; invoices cannot be encrypted" })
  | chosen :: _ => pure ⟨chosen.id,chosen.key,
      if truthy chosen.algorithm then chosen.algorithm.getD "" else "RSA",chosen.purpose.getD 1⟩

def raiseIfInvalid (report : ValidationReport) : Handler Unit :=
  if report.ok then pure () else raise (.invoiceValidation report.errors)

def withIdentity (invoice : Invoice) : Handler Invoice :=
  if invoice.header.taxid ≠ "" then pure invoice
  else do
    let drawn : Except Exc Int ← perform (.serialSource pipeline.memoryId)
    let serial ← ofExcept drawn
    let issuedAt ← ofExcept (TaxId.issuedAt invoice.header.indatim)
    let taxid ← ofExcept (TaxId.generateTaxId pipeline.memoryId serial issuedAt)
    let inno ← ofExcept (TaxId.invoiceSerialHex serial)
    pure { invoice with header := { invoice.header with taxid := taxid, inno := some inno } }

def buildPackets : List Invoice → Handler (List Packet × List (String × String))
  | [] => pure ([],[])
  | invoice :: rest => do
    if pipeline.validate then raiseIfInvalid (pipeline.rules.validate invoice)
    let complete ← pipeline.withIdentity invoice
    let uid : String ← perform .uuid4
    let packet ← buildPacket complete.toWireDict pipeline.memoryId uid
    let (packets,identities) ← buildPackets rest
    pure (packet :: packets,(uid,complete.header.taxid) :: identities)

-- `{result.uid: result for result in results}.get(uid)`: the last one of that uid.
def byUid (results : List SubmitResult) (uid : String) : Option SubmitResult :=
  results.reverse.find? (fun result => result.uid == uid)

def submission (results : List SubmitResult) (identity : String × String) : InvoiceSubmission where
  uid := identity.1
  taxId := identity.2
  referenceNumber := (byUid results identity.1).bind (·.referenceNumber)
  raw := byUid results identity.1

def submitBatch (invoices : List Invoice) : Handler (List InvoiceSubmission) := do
  let (packets,identities) ← pipeline.buildPackets invoices
  let response ← submitInvoices pipeline.client packets
  pure (identities.map (submission response.result))

def submitSlices : List (List Invoice) → Handler (List InvoiceSubmission)
  | [] => pure []
  | chunk :: rest => do
    let first ← pipeline.submitBatch chunk
    let later ← submitSlices rest
    pure (first ++ later)

def submit (invoices : List Invoice) : Handler (List InvoiceSubmission) := do
  if invoices.isEmpty then pure []
  else do
    let key ← pipeline.serverKey
    let encryptor : Except Exc Unit ← perform (.jweEncryptor key)
    ofExcept encryptor
    pipeline.submitSlices (slices maxPackets invoices)

end InvoicePipeline
end Moadian
