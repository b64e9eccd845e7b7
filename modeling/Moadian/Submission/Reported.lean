import Moadian.Submission.Ledger

/-! The tax id a submission reports, against the one under the signature. To the
pipeline a tax id is missing when it is empty; to the wire also when it is spaces. -/
namespace Moadian.Submission
open Resumption Json

def headerOf (document : Json) (name : String) : Option Json := (document.get "header").bind (·.get name)

structure Agrees (invoice : Invoice) (signed : Json) (s : InvoiceSubmission) : Prop where
  taxid : headerOf signed "taxid" = some (.str s.taxId)
  ink : isBlank s.taxId = false
  inno : invoice.header.taxid = "" →
    headerOf signed "inno" = some (.str (String.ofList (TaxId.serialSegment s.taxId)))

def OnlySpaces (taxid : String) : Prop := taxid ≠ "" ∧ isBlank taxid = true

instance (taxid : String) : Decidable (OnlySpaces taxid) := inferInstanceAs (Decidable (_ ∧ _))

theorem signedHeader (inv : Invoice) (name : String) : headerOf inv.toWireDict.stripNulls name =
    (inv.wireDict.header name).bind (fun v => if isNull v then none else some v.stripNulls) := by
  have outer : ((withoutBlanksMembers inv.modelDump).map Prod.fst).Nodup := by
    have fields : (inv.fields.map Prod.fst).Nodup := by
      simp only [Invoice.fields,List.map_cons,List.map_nil]
      decide
    exact (withoutBlanksKeys _).nodup ((presentKeys _).nodup fields)
  have inner : ((withoutBlanksMembers inv.header.modelDump).map Prod.fst).Nodup :=
    (withoutBlanksKeys _).nodup ((presentKeys _).nodup (headerKeys inv.header))
  have header : inv.toWireDict.stripNulls.get "header" =
      some (.obj (stripNullsMembers (withoutBlanksMembers inv.header.modelDump))) := by
    have found : (withoutBlanksMembers inv.modelDump).lookup "header" =
        some (.obj (withoutBlanksMembers inv.header.modelDump)) := by
      simpa [Invoice.toWireDict,withoutBlanks,Json.get] using wireHeader inv
    change (stripNullsMembers (withoutBlanksMembers inv.modelDump)).lookup "header" = _
    rw [lookupStripNulls outer,found]
    rfl
  have wire : inv.wireDict.header name = (withoutBlanksMembers inv.header.modelDump).lookup name := by
    unfold WireDict.header
    rw [show inv.wireDict.json = inv.toWireDict from rfl,wireHeader]
    rfl
  rw [headerOf,header,wire]
  exact lookupStripNulls inner

theorem signedTaxid (inv : Invoice) : headerOf inv.toWireDict.stripNulls "taxid" =
    if isBlank inv.header.taxid then none else some (.str inv.header.taxid) := by
  rw [signedHeader,taxidOnWire]
  cases blank : isBlank inv.header.taxid <;> simp [isNull,stripNulls]

theorem signedInno (inv : Invoice) {inno : String} (own : inv.header.inno = some inno) (ink : isBlank inno = false) :
    headerOf inv.toWireDict.stripNulls "inno" = some (.str inno) := by
  have field : inv.header.fields.lookup "inno" = some (some (.str inno)) := by
    simp [InvoiceHeader.fields,List.lookup_cons,own]
  rw [signedHeader,headerOnWire,field]
  simp [blankString,ink,isNull,stripNulls,withoutBlanks]

theorem entryAgrees {memoryId : String} {x : Entry} (sound : x.line.Sound memoryId) :
    Agrees x.line.invoice x.line.complete.toWireDict.stripNulls x.submission ↔ ¬ OnlySpaces x.line.invoice.header.taxid := by
  obtain ⟨⟨invoice,serial,complete,packet⟩,heard⟩ := x
  have completes : Completes memoryId invoice serial complete := sound.completes
  have reported : (Entry.submission ⟨⟨invoice,serial,complete,packet⟩,heard⟩).taxId = complete.header.taxid := rfl
  cases completes with
  | given own =>
    constructor
    · intro agrees spaces
      have ink := agrees.ink
      rw [reported,spaces.2] at ink
      contradiction
    · intro clean
      have ink : isBlank invoice.header.taxid = false := by
        cases blank : isBlank invoice.header.taxid
        · rfl
        · exact absurd ⟨own,blank⟩ clean
      exact ⟨by rw [signedTaxid,ink]; rfl,ink,fun blank => absurd blank own⟩
  | minted blank instant generated hex =>
    refine iff_of_true ⟨?_,TaxId.generatedNotBlank generated,fun _ => ?_⟩ (fun spaces => spaces.1 blank)
    · rw [signedTaxid,TaxId.generatedNotBlank generated]
      rfl
    · rw [signedInno _ rfl (TaxId.serialHexInk hex)]
      have same := TaxId.generatedSerial generated hex
      rw [reported,← same,String.ofList_toList]

/- Whatever a call returned: each document it signed carries the tax id reported for
its invoice, unless the caller's own is nothing but spaces. -/
theorem reportedIsSigned (pipeline : InvoicePipeline) (invoices : List Invoice) (w : World)
    (answers : List (Oracle service)) {submissions : List InvoiceSubmission}
    (returned : (submitting pipeline invoices w answers).prog.outcome = some (.ok submissions)) :
    ∀ (i : Nat) invoice, invoices[i]? = some invoice → ∃ (document signed : Json) (s : InvoiceSubmission),
      (Trace.seals (submitting pipeline invoices w answers).trace)[i]? = some document ∧
      document.canonicalJson = .ok signed ∧ submissions[i]? = some s ∧
      (Agrees invoice signed s ↔ ¬ OnlySpaces invoice.header.taxid) := by
  intro i invoice found
  obtain ⟨entries,ledger⟩ := ledgerOf returned
  obtain ⟨x,rfl,here⟩ := ledger.find found
  exact ⟨_,_,x.submission,here.sealed_,here.sound.canonical,here.submission,entryAgrees here.sound⟩

/-! One submission under no tax id, and one under a space. -/

def alone (invoice : Invoice) : Task service Exc (List InvoiceSubmission) :=
  submitting Example.pipeline [invoice] Example.drafted (List.replicate 12 (Example.smooth 1 []))

theorem reportedIsSignedOnce : ∃ (document signed : Json) (s : InvoiceSubmission),
    (Trace.seals (alone Example.invoice).trace)[0]? = some document ∧ document.canonicalJson = .ok signed ∧
      (Agrees Example.invoice signed s ↔ ¬ OnlySpaces Example.invoice.header.taxid) := by
  obtain ⟨submissions,returned⟩ := Prog.outcomeOfReturned (p := (alone Example.invoice).prog) (by decide +kernel)
  obtain ⟨document,signed,s,here,canonical,_,agrees⟩ :=
    reportedIsSigned Example.pipeline [Example.invoice] _ _ returned 0 Example.invoice rfl
  exact ⟨document,signed,s,here,canonical,agrees⟩

theorem spacesUnsigned : ∃ (document : Json) (s : InvoiceSubmission),
    (Trace.seals (alone (Example.under " ")).trace)[0]? = some document ∧
      (alone (Example.under " ")).prog.outcome = some (.ok [s]) ∧ ¬ Agrees (Example.under " ") document.stripNulls s := by
  obtain ⟨submissions,returned⟩ :=
    Prog.outcomeOfReturned (p := (alone (Example.under " ")).prog) (by decide +kernel)
  obtain ⟨entries,ledger⟩ := ledgerOf returned
  obtain ⟨x,same,here⟩ := ledger.find (i := 0) rfl
  have spaces : OnlySpaces x.line.invoice.header.taxid := by
    rw [same]
    decide
  have one : submissions = [x.submission] := by
    have long := congrArg List.length ledger.invoices
    rw [ledger.submissions]
    cases entries with
    | nil => simp at long
    | cons y rest =>
      cases rest with
      | nil =>
        have first := here.submission
        rw [ledger.submissions] at first
        exact congrArg (fun s => [s]) (Option.some.inj first)
      | cons z rest => simp at long
  refine ⟨_,x.submission,here.sealed_,one ▸ returned,fun agrees => ?_⟩
  rw [← same] at agrees
  exact (entryAgrees here.sound).mp agrees spaces

end Moadian.Submission
