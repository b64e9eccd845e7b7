import Mathlib.Data.List.Nodup
import Moadian.Submission.Ledger

/-! Results matched to invoices. A request is answered in any order, and not for
every packet; the uid chosen for a packet says whose each result is. -/
namespace Moadian.Submission
open Resumption

/- What one invoice came to: the packet built of it, and the submission returned for
it out of what its request was answered with. -/
structure Matches (memoryId : String) (invoice : Invoice) (packet : Packet) (heard : List SubmitResult)
    (s : InvoiceSubmission) : Prop where
  built : ∃ serial complete, Completes memoryId invoice serial complete ∧ packet.document = complete.toWireDict ∧
    s.taxId = complete.header.taxid
  uid : s.uid = packet.requestTraceId
  given : ∀ result ∈ heard, result.uid = s.uid → s.raw = some result ∧ s.referenceNumber = result.referenceNumber
  silent : (∀ result ∈ heard, result.uid ≠ s.uid) → s.raw = none ∧ s.referenceNumber = none

def minted (invoices : List Invoice) (submissions : List InvoiceSubmission) : List String :=
  ((invoices.zip submissions).filter (fun p => p.1.header.taxid == "")).map (fun p => p.2.taxId)

theorem byUidFound {results : List SubmitResult} (distinct : (results.map (·.uid)).Nodup) {result : SubmitResult}
    (member : result ∈ results) : InvoicePipeline.byUid results result.uid = some result := by
  have unique : ∀ other ∈ results, other.uid = result.uid → other = result := by
    intro other inside same
    exact List.inj_on_of_nodup_map distinct inside member same
  unfold InvoicePipeline.byUid
  cases found : results.reverse.find? (fun other => other.uid == result.uid) with
  | none =>
    have missed := List.find?_eq_none.mp found result (List.mem_reverse.mpr member)
    simp at missed
  | some other =>
    have inside : other ∈ results := List.mem_reverse.mp (List.mem_of_find?_eq_some found)
    have same : other.uid = result.uid := by simpa using List.find?_some found
    rw [unique other inside same]

theorem byUidMissed {results : List SubmitResult} {uid : String} (none_ : ∀ result ∈ results, result.uid ≠ uid) :
    InvoicePipeline.byUid results uid = none := by
  refine List.find?_eq_none.mpr (fun result member => ?_)
  simpa using none_ result (List.mem_reverse.mp member)

theorem entryMatches {memoryId : String} {x : Entry} (sound : x.line.Sound memoryId)
    (distinct : (x.heard.map (·.uid)).Nodup) :
    Matches memoryId x.line.invoice x.line.packet x.heard x.submission where
  built := ⟨x.line.serial,x.line.complete,sound.completes,sound.document,rfl⟩
  uid := rfl
  given := by
    intro result member same
    have found : InvoicePipeline.byUid x.heard x.line.packet.requestTraceId = some result := by
      rw [show x.line.packet.requestTraceId = result.uid from same.symm]
      exact byUidFound distinct member
    simp [Entry.submission,InvoicePipeline.submission,Line.identity,found]
  silent := by
    intro none_
    have missed : InvoicePipeline.byUid x.heard x.line.packet.requestTraceId = none := byUidMissed none_
    simp [Entry.submission,InvoicePipeline.submission,Line.identity,missed]

theorem postedSmall {pipeline : InvoicePipeline} {invoices : List Invoice} {w : World} {answers : List (Oracle service)}
    {submissions : List InvoiceSubmission}
    (returned : (submitting pipeline invoices w answers).prog.outcome = some (.ok submissions)) :
    ∀ post ∈ Trace.posts (submitting pipeline invoices w answers).trace, post.1.length ≤ maxPackets := by
  obtain ⟨xs,sound,_,spent,_⟩ := submittingReturns returned
  intro post member
  rw [Trace.postsSpent,spent,List.filterMap_flatMap] at member
  obtain ⟨x,inside,here⟩ := List.mem_flatMap.mp member
  rw [sendingPosted,List.mem_singleton] at here
  rw [here,List.length_map]
  exact (sound x inside).small

theorem completesSerial {memoryId : String} {invoice complete : Invoice} {serial : Option Int}
    (h : Completes memoryId invoice serial complete) : invoice.header.taxid = "" →
      ∃ n issued, serial = some n ∧ TaxId.generateTaxId memoryId n issued = .ok complete.header.taxid := by
  intro blank
  cases h with
  | given own => exact absurd blank own
  | minted _ instant generated hex => exact ⟨_,_,rfl,generated⟩

theorem mintedEntries {memoryId : String} {invoices : List Invoice} {tr : Trace} {submissions : List InvoiceSubmission}
    {entries : List Entry} (ledger : Ledger memoryId invoices tr submissions entries) : minted invoices submissions =
      (entries.filter (fun x => x.line.invoice.header.taxid == "")).map (fun x => x.submission.taxId) := by
  rw [minted,← ledger.invoices,ledger.submissions,List.zip_map',List.filter_map,List.map_map]
  rfl

theorem mintedDistinct {memoryId : String} {invoices : List Invoice} {tr : Trace} {submissions : List InvoiceSubmission}
    {entries : List Entry} (ledger : Ledger memoryId invoices tr submissions entries)
    (fresh : (Trace.serials tr).Nodup) : (minted invoices submissions).Nodup := by
  rw [ledger.serials,List.Nodup,List.pairwise_filterMap] at fresh
  rw [mintedEntries ledger,List.Nodup,List.pairwise_map,List.pairwise_filter]
  refine fresh.imp_of_mem (fun {x y} inside inside' differ blank blank' same => ?_)
  obtain ⟨n,issued,drawn,generated⟩ := completesSerial (ledger.sound x inside).completes (by simpa using blank)
  obtain ⟨m,issued',drawn',generated'⟩ := completesSerial (ledger.sound y inside').completes (by simpa using blank')
  have taxid : x.line.complete.header.taxid = y.line.complete.header.taxid := same
  rw [← taxid] at generated'
  exact differ n drawn m drawn' (TaxId.generatedInjective generated generated')

/- Whatever a call returned: one submission and one packet for each invoice, in the
order of the invoices, each with the result given for its uid. -/
structure Accounted (memoryId : String) (invoices : List Invoice) (tr : Trace) (submissions : List InvoiceSubmission) :
    Prop where
  returned : submissions.length = invoices.length
  packed : (Trace.carried tr).length = invoices.length
  requests : ∀ post ∈ Trace.posts tr, post.1.length ≤ maxPackets
  each : ∀ (i : Nat) invoice, invoices[i]? = some invoice → ∃ packet heard s,
    (Trace.carried tr)[i]? = some (packet,heard) ∧ submissions[i]? = some s ∧ Matches memoryId invoice packet heard s
  unrepeated : (Trace.serials tr).Nodup → (minted invoices submissions).Nodup

theorem batchAccounted (pipeline : InvoicePipeline) (invoices : List Invoice) (w : World)
    (answers : List (Oracle service)) {submissions : List InvoiceSubmission}
    (returned : (submitting pipeline invoices w answers).prog.outcome = some (.ok submissions))
    (distinct : ∀ post ∈ Trace.posts (submitting pipeline invoices w answers).trace,
      ((Trace.results post.2).map (·.uid)).Nodup) :
    Accounted pipeline.memoryId invoices (submitting pipeline invoices w answers).trace submissions := by
  obtain ⟨entries,ledger⟩ := ledgerOf returned
  refine ⟨?_,?_,postedSmall returned,?_,mintedDistinct ledger⟩
  · rw [ledger.submissions,← congrArg List.length ledger.invoices,List.length_map,List.length_map]
  · rw [ledger.carried,← congrArg List.length ledger.invoices,List.length_map,List.length_map]
  · intro i invoice found
    obtain ⟨x,rfl,here⟩ := ledger.find found
    have carried : (x.line.packet,x.heard) ∈ Trace.carried (submitting pipeline invoices w answers).trace :=
      List.mem_of_getElem? here.carried
    obtain ⟨post,member,inside⟩ := List.mem_flatMap.mp carried
    obtain ⟨packet,_,same⟩ := List.mem_map.mp inside
    have heard : x.heard = Trace.results post.2 := (congrArg Prod.snd same).symm
    exact ⟨_,_,x.submission,here.carried,here.submission,entryMatches here.sound (heard ▸ distinct post member)⟩

/-! Three invoices, the middle one under a tax id of its own; the answer lists the
packets backwards and leaves out the last. -/

def backwards (n : Nat) : Oracle service
  | .postInvoice packets => ⟨true,Example.reply ⟨1683997837988,
      (packets.dropLast.map (fun p => ⟨p.requestTraceId,none,some p.requestTraceId,none⟩)).reverse⟩⟩
  | o => Example.smooth n [] o

def three : Task service Exc (List InvoiceSubmission) :=
  submitting Example.pipeline [Example.invoice,Example.under "A11216",Example.invoice] Example.drafted
    ((List.range 24).map backwards)

theorem threeAccounted : ∃ submissions, Accounted Example.pipeline.memoryId
    [Example.invoice,Example.under "A11216",Example.invoice] three.trace submissions := by
  obtain ⟨submissions,returned⟩ := Prog.outcomeOfReturned (p := three.prog) (by decide +kernel)
  exact ⟨submissions,batchAccounted Example.pipeline _ _ _ returned (by decide +kernel)⟩

end Moadian.Submission
