import Moadian.Api.Example
import Moadian.Contract.Batch

/-! The ledger of a call of `submit` that returned: one entry for each invoice, in
the order of the invoices, with what was drawn, sealed, posted, heard and returned
for it. -/
namespace Moadian
open Resumption

namespace Spend

def sealed_ : Spend → Option Json
  | .seal document => some document
  | _ => none

def drawn : Spend → Option Int
  | draw (.ok serial) => some serial
  | _ => none

def posted : Spend → Option (List Packet × Op.Delivery)
  | post packets delivery => some (packets,delivery)
  | _ => none

end Spend

namespace Trace

def seals (tr : Trace) : List Json := (spends tr).filterMap Spend.sealed_

def serials (tr : Trace) : List Int := (spends tr).filterMap Spend.drawn

def results (delivery : Op.Delivery) : List SubmitResult := ((parsed delivery.reply).map (·.result)).getD []

def carried (tr : Trace) : List (Packet × List SubmitResult) :=
  (posts tr).flatMap (fun p => p.1.map (fun packet => (packet,results p.2)))

theorem postsSpent (tr : Trace) : posts tr = (spends tr).filterMap Spend.posted := by
  rw [posts,spends,List.filterMap_filterMap]
  refine List.filterMap_congr (fun e _ => ?_)
  obtain ⟨o,inp,a⟩ := e
  cases o <;> rfl

end Trace

namespace Submission

structure Entry where
  line : Line
  heard : List SubmitResult

def Entry.submission (x : Entry) : InvoiceSubmission := InvoicePipeline.submission x.heard x.line.identity

structure Ledger (memoryId : String) (invoices : List Invoice) (tr : Trace) (submissions : List InvoiceSubmission)
    (entries : List Entry) : Prop where
  sound : ∀ x ∈ entries, x.line.Sound memoryId
  invoices : entries.map (·.line.invoice) = invoices
  seals : Trace.seals tr = entries.map (·.line.complete.toWireDict)
  serials : Trace.serials tr = entries.filterMap (·.line.serial)
  carried : Trace.carried tr = entries.map (fun x => (x.line.packet,x.heard))
  submissions : submissions = entries.map Entry.submission

def entriesOf (x : Sending) : List Entry := x.lines.map (fun l => ⟨l,x.response.result⟩)

section Line
variable (l : Line)

theorem lineSeals : l.spends.filterMap Spend.sealed_ = [l.complete.toWireDict] := by
  cases drawn : l.serial <;> simp only [Line.spends,Line.draw,drawn] <;> rfl

theorem lineSerials : l.spends.filterMap Spend.drawn = l.serial.toList := by
  cases drawn : l.serial <;> simp only [Line.spends,Line.draw,drawn] <;> rfl

theorem linePosts : l.spends.filterMap Spend.posted = [] := by
  cases drawn : l.serial <;> simp only [Line.spends,Line.draw,drawn] <;> rfl

end Line

section Sending
variable {pipeline : InvoicePipeline} {x : Sending}

theorem sendingInvoices (x : Sending) : x.invoices = (entriesOf x).map (·.line.invoice) := by
  simp [Sending.invoices,entriesOf]

theorem sendingPick {κ : Type} (pick : Spend → Option κ) (x : Sending) : x.spends.filterMap pick =
    x.lines.flatMap (fun l => l.spends.filterMap pick) ++
      [Spend.post (x.lines.map Line.packet) x.delivery].filterMap pick := by
  rw [Sending.spends,List.filterMap_append,List.filterMap_flatMap]

theorem sendingSeals (x : Sending) :
    x.spends.filterMap Spend.sealed_ = (entriesOf x).map (·.line.complete.toWireDict) := by
  calc x.spends.filterMap Spend.sealed_
      _ = x.lines.flatMap (fun l => l.spends.filterMap Spend.sealed_) := by rw [sendingPick]; exact List.append_nil _
      _ = x.lines.flatMap (fun l => [l.complete.toWireDict]) := List.flatMap_congr (fun l _ => lineSeals l)
      _ = x.lines.map (·.complete.toWireDict) := List.map_eq_flatMap.symm
      _ = (entriesOf x).map (·.line.complete.toWireDict) := by rw [entriesOf,List.map_map]; rfl

theorem sendingSerials (x : Sending) : x.spends.filterMap Spend.drawn = (entriesOf x).filterMap (·.line.serial) := by
  calc x.spends.filterMap Spend.drawn
      _ = x.lines.flatMap (fun l => l.spends.filterMap Spend.drawn) := by rw [sendingPick]; exact List.append_nil _
      _ = x.lines.flatMap (fun l => l.serial.toList) := List.flatMap_congr (fun l _ => lineSerials l)
      _ = x.lines.filterMap (·.serial) := (List.filterMap_eq_flatMap_toList _ _).symm
      _ = (entriesOf x).filterMap (·.line.serial) := by rw [entriesOf,List.filterMap_map]; rfl

theorem sendingPosted (x : Sending) : x.spends.filterMap Spend.posted = [(x.lines.map Line.packet,x.delivery)] := by
  have none_ : x.lines.flatMap (fun l => l.spends.filterMap Spend.posted) = [] :=
    List.flatMap_eq_nil_iff.mpr (fun l _ => linePosts l)
  rw [sendingPick,none_]
  rfl

theorem sendingCarried (sound : x.Sound pipeline) :
    (x.lines.map Line.packet).map (fun packet => (packet,Trace.results x.delivery)) =
      (entriesOf x).map (fun e => (e.line.packet,e.heard)) := by
  simp [Trace.results,sound.heard,entriesOf]

theorem sendingSubmissions (x : Sending) : x.submissions = (entriesOf x).map Entry.submission := by
  simp [Sending.submissions,entriesOf,Entry.submission]

end Sending

theorem ledgerOf {pipeline : InvoicePipeline} {invoices : List Invoice} {w : World} {answers : List (Oracle service)}
    {submissions : List InvoiceSubmission}
    (returned : (submitting pipeline invoices w answers).prog.outcome = some (.ok submissions)) :
    ∃ entries, Ledger pipeline.memoryId invoices (submitting pipeline invoices w answers).trace submissions entries := by
  obtain ⟨xs,sound,own,spent,rfl⟩ := submittingReturns returned
  refine ⟨xs.flatMap entriesOf,?_,?_,?_,?_,?_,?_⟩
  · intro x member
    obtain ⟨sending,inside,here⟩ := List.mem_flatMap.mp member
    obtain ⟨l,mem,rfl⟩ := List.mem_map.mp here
    exact (sound sending inside).built.sound l mem
  · have whole : (xs.map Sending.invoices).flatten = invoices := by rw [own,slicesFlatten (by decide)]
    rw [← whole,List.map_flatMap,List.flatMap]
    exact congrArg List.flatten (List.map_congr_left (fun x _ => (sendingInvoices x).symm))
  · rw [Trace.seals,spent,List.filterMap_flatMap,List.map_flatMap]
    exact List.flatMap_congr (fun x _ => sendingSeals x)
  · rw [Trace.serials,spent,List.filterMap_flatMap,List.filterMap_flatMap]
    exact List.flatMap_congr (fun x _ => sendingSerials x)
  · rw [Trace.carried,Trace.postsSpent,spent,List.filterMap_flatMap,List.map_flatMap,List.flatMap_assoc]
    refine List.flatMap_congr (fun x member => ?_)
    rw [sendingPosted,List.flatMap_singleton]
    exact sendingCarried (sound x member)
  · rw [List.map_flatMap]
    exact List.flatMap_congr (fun x _ => sendingSubmissions x)

structure Ledger.At (memoryId : String) (tr : Trace) (submissions : List InvoiceSubmission) (i : Nat) (x : Entry) : Prop where
  sound : x.line.Sound memoryId
  sealed_ : (Trace.seals tr)[i]? = some x.line.complete.toWireDict
  carried : (Trace.carried tr)[i]? = some (x.line.packet,x.heard)
  submission : submissions[i]? = some x.submission

theorem Ledger.find {memoryId : String} {invoices : List Invoice} {tr : Trace} {submissions : List InvoiceSubmission}
    {entries : List Entry} (ledger : Ledger memoryId invoices tr submissions entries) {i : Nat} {invoice : Invoice}
    (found : invoices[i]? = some invoice) :
    ∃ x, x.line.invoice = invoice ∧ Ledger.At memoryId tr submissions i x := by
  have own : (entries.map (·.line.invoice))[i]? = some invoice := by rw [ledger.invoices,found]
  rw [List.getElem?_map] at own
  obtain ⟨x,here,same⟩ := Option.map_eq_some_iff.mp own
  refine ⟨x,same,ledger.sound x (List.mem_of_getElem? here),?_,?_,?_⟩
  · rw [ledger.seals,List.getElem?_map,here]
    rfl
  · rw [ledger.carried,List.getElem?_map,here]
    rfl
  · rw [ledger.submissions,List.getElem?_map,here]
    rfl

end Submission
end Moadian
