import Moadian.Api.Referring
import Moadian.Filing.Asking
import Moadian.Models.Reposting
import Moadian.Rules.Refilled

/-! The draft of a correction or a return, read back, filled in and checked: what its
reference had that it does not. Its amounts are exact here. -/
namespace Moadian.Correcting
open Resumption Handler Json RuleEngine Arithmetic Obligations

def correcting (profile : Profile) (invoiceId subject : Int) (w : World) (answers : List (Oracle service)) :
    Task service Exc Reply := (solo w (Task.start service (Api.referringInvoice profile invoiceId subject)) answers).2

def missingRules : List String := ["obligation.required","obligation.conditional","settlement.split_required"]

def Complete (invoice : Invoice) : Prop := ∀ v ∈ (Patterns.engine.validate invoice).errors, v.rule ∉ missingRules

def Corrects (p : Conversions) (u : Persian.Unicode) (r : Rounding) (document : Json) (source : Invoice) : Prop :=
  ∃ draft, Invoice.modelValidate p u document = .ok draft ∧ draft.body = source.body ∧
    Complete (recompute r draft (patternNumber draft))

/-! What the endpoint replies, of the record that is stored. -/

def Replies (w : World) (invoiceId subject : Int) : Except Exc Reply → Prop
  | .ok reply => ∃ record millis, w.invoices.getInvoice invoiceId = some record ∧
      reply = .referring record.id record.taxId record.state subject (Api.referringDraft record subject millis)
  | .error _ => True

theorem recordAlone (profile : Profile) (invoiceId : Int) (w : World) :
    Filing.Runs (fun _ _ out => ∀ record, out = .ok record → w.invoices.getInvoice invoiceId = some record) w []
      (Api.recordOf profile invoiceId) := by
  unfold Api.recordOf Api.bindInteger
  split
  · refine Filing.aloneRead rfl (fun inp found answered => ?_)
    have looked : w.invoices.getInvoice invoiceId = found := congrArg Prod.fst (Option.some.inj answered)
    cases found with
    | none => exact fun record never => by cases never
    | some row =>
      simp only
      split
      · exact fun record never => by cases never
      · intro record same
        cases same
        exact looked
  · exact fun record never => by cases never

theorem referringAlone (profile : Profile) (invoiceId subject : Int) (w : World) :
    Filing.Runs (fun _ _ out => Replies w invoiceId subject out) w [] (Api.referringInvoice profile invoiceId subject) := by
  unfold Api.referringInvoice
  split
  · exact True.intro
  · refine aloneBind (recordAlone profile invoiceId w) (fun w1 tr1 record looked => ?_) (fun _ _ _ _ => True.intro)
    split
    · exact True.intro
    · exact Filing.aloneRead rfl (fun clock now _ => ⟨record,now.millis,looked record rfl,rfl⟩)

theorem correctingReplies {profile : Profile} {invoiceId subject : Int} {w : World} {answers : List (Oracle service)}
    {reply : Reply} (returned : (correcting profile invoiceId subject w answers).prog.outcome = some (.ok reply)) :
    ∃ record millis, w.invoices.getInvoice invoiceId = some record ∧
      reply = .referring record.id record.taxId record.state subject (Api.referringDraft record subject millis) :=
  aloneEnds (aloneSolo (t := Task.start service _) (referringAlone profile invoiceId subject w)
    (soloMeetsAlways (fun _ _ _ => True.intro) _ _ answers)) returned

/-! The draft as an invoice: a part of the header, and every line. -/

def corrected (source : Invoice) (taxId : Option String) (subject millis : Int) : Invoice where
  header := {
    indatim := millis, ins := subject, inty := some (source.header.inty.getD 1), inp := some (source.header.inp.getD 1)
    irtaxid := taxId, tins := source.header.tins, tob := source.header.tob, bid := source.header.bid
    tinb := source.header.tinb, bpc := source.header.bpc, setm := source.header.setm }
  body := source.body

section Read
open Checked
variable {p : Conversions} {u : Persian.Unicode}

theorem partsRead {d : Dict} {inv : Invoice} (read : Invoice.modelValidate p u (.obj d) = .ok inv) :
    field d "header" (InvoiceHeader.validate p) = .ok inv.header ∧
      field d "body" (listOf (InvoiceBodyItem.validate p u)) = .ok inv.body := by
  obtain ⟨_,extension,paid,_,rfl⟩ := seqCases (recordBuilt read)
  obtain ⟨_,payments,lined,_,rfl⟩ := seqCases paid
  obtain ⟨_,body,headed,lines,rfl⟩ := seqCases lined
  obtain ⟨header,own,rfl⟩ := mapCases headed
  exact ⟨own,lines⟩

theorem sourceHeader {inv source : Invoice} (read : Invoice.modelValidate p u inv.toWireDict = .ok source) :
    source.header = inv.header.inked := by
  rw [Invoice.toWireDict,Invoice.modelDump,wirePresent] at read
  have own := (partsRead read).1
  rw [field,wireLookup (invoiceKeys inv) (v := some (.obj inv.header.modelDump)) (by simp [Invoice.fields])] at own
  have back := headerBack p inv.header
  have same : InvoiceHeader.validate p (withoutBlanks (.obj inv.header.modelDump)) = .ok source.header := underOk.mp own
  exact Checked.ok.inj (same.symm.trans back)

theorem draftRead {record : InvoiceRecord} {source : Invoice} {subject : Int} (millis : Int) (kept : subject ≠ 3)
    (read : Invoice.modelValidate p u record.payload.json = .ok source) :
    Invoice.modelValidate p u (Api.referringDraft record subject millis) =
      .ok (corrected source record.taxId subject millis) := by
  obtain ⟨inv,wire⟩ := record.payload.wire
  have payload : record.payload = inv.wireDict := by
    cases same : record.payload with
    | mk json own =>
      rw [same] at wire
      cases wire
      rfl
  have json : record.payload.json = inv.toWireDict := wire
  rw [json] at read
  have same := sourceHeader read
  obtain ⟨d,header,known,own⟩ := Referring.draftShows payload subject millis
  have unset : ∀ name, name ∉ Referring.seeded ++ Referring.copied → d.lookup name = none := by
    intro name other
    refine lookupNone (fun member => ?_)
    obtain ⟨m,inside,rfl⟩ := List.mem_map.mp member
    exact other (known m inside).1
  have head : InvoiceHeader.validate p (.obj d) = .ok (corrected source record.taxId subject millis).header := by
    refine recordOk (InvoiceHeader.built (fun name v member other => ?_) ?_ ?_ ?_) (fun m member => List.mem_append_left _ ?_)
    · refine own name v ?_ (fun taxid => other (by simp [taxid,InvoiceHeader.apart]))
      rw [corrected,same] at member
      exact member
    · exact fieldOrDefault (unset "taxid" (by decide))
    · exact fieldOrDefault (unset "sg" (by decide))
    · rw [InvoiceHeader.aliased,unset "in" (by decide)]
      exact fieldOrDefault (unset "in_" (by decide))
    · exact (show ∀ name ∈ Referring.seeded ++ Referring.copied, name ∈ keys (InvoiceHeader.fields { indatim := 0, ins := 0 })
        by decide) _ (known m member).1
  have lines : listOf (InvoiceBodyItem.validate p u)
      (.arr (inv.body.map (fun item => withoutBlanks (.obj item.modelDump)))) = .ok source.body := by
    rw [Invoice.toWireDict,Invoice.modelDump,wirePresent] at read
    have own := (partsRead read).2
    rw [field,wireLookup (invoiceKeys inv) (v := some (.arr (inv.body.map (fun item => .obj item.modelDump))))
      (by simp [Invoice.fields]),onWireItems] at own
    exact underOk.mp own
  have body : (Api.referringDraft record subject millis).get "body" =
      some (.arr (inv.body.map (fun item => withoutBlanks (.obj item.modelDump)))) := by
    have carried : record.payload.json.get "body" = some (.arr (inv.body.map (fun item => withoutBlanks (.obj item.modelDump)))) :=
      json ▸ wireBody inv
    unfold Api.referringDraft
    simp only [carried,if_neg kept]
    rfl
  refine recordOk (seqOk (seqOk (seqOk (mapOk _ (fieldOk header head)) (fieldOk body lines)) ?_) ?_) (fun m member => ?_)
  · exact fieldOrOk (v := .arr []) rfl rfl
  · exact fieldOrDefault rfl
  · have named : m.1 ∈ ["header","body","payments"] := List.mem_map_of_mem member
    exact (show ∀ name ∈ ["header","body","payments"], name ∈ ["header","body","payments","extension"] by decide) _ named

end Read

/-! What the filled-in draft has. -/

section Has
variable {r : Rounding} {source : Invoice} {taxId : Option String} {subject millis pattern : Int} {name : String}

def supplied : List String := "taxid" :: Referring.seeded ++ derivedTotals

theorem suppliedHas (filed : truthy taxId = true) (own : name ∈ supplied) :
    (recompute r (corrected source taxId subject millis) pattern).header.modelDump.has name = true := by
  by_cases derived : name ∈ derivedTotals
  · exact Numbers.totalsSet derived
  · rw [hasKept derived,InvoiceHeader.hasField]
    have seeded : name ∈ "taxid" :: Referring.seeded := (List.mem_append.mp own).resolve_right derived
    simp only [Referring.seeded,List.mem_cons,List.not_mem_nil,or_false] at seeded
    cases taxId with
    | none => cases filed
    | some t => rcases seeded with rfl | rfl | rfl | rfl | rfl | rfl <;> rfl

theorem copiedHas (own : name ∈ Referring.copied) :
    (recompute r (corrected source taxId subject millis) pattern).header.modelDump.has name =
      source.header.modelDump.has name := by
  rw [hasKept (by revert name; decide),InvoiceHeader.hasField,InvoiceHeader.hasField]
  simp only [Referring.copied,List.mem_cons,List.not_mem_nil,or_false] at own
  rcases own with rfl | rfl | rfl | rfl | rfl | rfl <;> rfl

theorem elseLacks (other : name ∉ supplied ++ Referring.copied) :
    (recompute r (corrected source taxId subject millis) pattern).header.modelDump.has name = false := by
  have kept : name ∉ derivedTotals := fun derived => other (by simp [supplied,derived])
  rw [hasKept kept,InvoiceHeader.hasField]
  have unset : ∀ f ∈ (corrected source taxId subject millis).header.fields, f.1 ∉ supplied ++ Referring.copied → f.2 = none := by
    simp only [InvoiceHeader.fields,List.forall_mem_cons]
    and_intros <;> first | exact fun _ => rfl | exact fun never => absurd (by decide) never | simp
  cases found : (corrected source taxId subject millis).header.fields.lookup name with
  | none => rfl
  | some v =>
    have v_ : v = none := unset _ (lookupMem found) other
    rw [v_]
    rfl

theorem settledSame : (recompute r (corrected source taxId subject millis) pattern).header.modelDump.int "setm" =
    source.header.setm := by
  rw [intKept (by decide)]
  unfold Dict.int InvoiceHeader.modelDump
  rw [lookupPresent (headerKeys _)]
  have own : (corrected source taxId subject millis).header.fields.lookup "setm" = some (source.header.setm.map .int) := rfl
  rw [own]
  cases source.header.setm <;> rfl

end Has

/-! The matrix of every encoded pattern against what is copied. -/

-- A number of the bill, the flight or the policy; a contract; the whole of a waybill.
def uncopied : List Int := [4,5,6,8,13]

structure Copying (spec : PatternSpec) : Prop where
  typed : ∃ rule ∈ spec.header, rule.name = "inty" ∧ rule.obligation = .required ∧ rule.byType = []
  lacking : spec.number ∈ uncopied → ∃ rule ∈ spec.header,
    rule.name ∉ supplied ++ Referring.copied ∧ rule.obligation = .required ∧ rule.byType = []
  enough : spec.number ∉ uncopied ++ [7,11] →
    ∀ rule ∈ spec.header, ∀ o ∈ rule.obligation :: rule.byType.map Prod.snd,
      (o = .required → rule.name ∈ supplied ++ Referring.copied) ∧
      (o = .conditional → rule.name ∈ supplied ∨ rule.obligation = .conditional ∧
        rule.condition ∈ [some Spec.unspecified,some "setm == 3",some "insr == 1"])

set_option synthInstance.maxSize 512 in
theorem copying : ∀ spec ∈ Patterns.rules.patterns, Copying spec := by
  have facts : ∀ spec ∈ Patterns.rules.patterns,
      (∃ rule ∈ spec.header, rule.name = "inty" ∧ rule.obligation = .required ∧ rule.byType = []) ∧
      (spec.number ∈ uncopied → ∃ rule ∈ spec.header,
        rule.name ∉ supplied ++ Referring.copied ∧ rule.obligation = .required ∧ rule.byType = []) ∧
      (spec.number ∉ uncopied ++ [7,11] → ∀ rule ∈ spec.header, ∀ o ∈ rule.obligation :: rule.byType.map Prod.snd,
        (o = .required → rule.name ∈ supplied ++ Referring.copied) ∧
        (o = .conditional → rule.name ∈ supplied ∨ rule.obligation = .conditional ∧
          rule.condition ∈ [some Spec.unspecified,some "setm == 3",some "insr == 1"])) := by
    decide +kernel
  intro spec member
  obtain ⟨typed,lacking,enough⟩ := facts spec member
  exact ⟨typed,lacking,enough⟩

theorem forTypeUntyped {rule : FieldRule} (untyped : rule.byType = []) (invoiceType : Option Int) :
    rule.forType invoiceType = rule.obligation := by
  rcases forTypeFrom rule invoiceType with same | ⟨entry,member,_⟩
  · exact same
  · rw [untyped] at member
    cases member

theorem forTypeStated (rule : FieldRule) (invoiceType : Option Int) :
    rule.forType invoiceType ∈ rule.obligation :: rule.byType.map Prod.snd := by
  rcases forTypeFrom rule invoiceType with same | ⟨entry,member,same⟩
  · exact List.mem_cons.mpr (.inl same)
  · exact List.mem_cons_of_mem _ (same ▸ List.mem_map_of_mem member)

theorem neverApplies {header : Dict} {rule : FieldRule} (stated : rule.obligation = .conditional)
    (condition : rule.condition ∈ [some Spec.unspecified,some "setm == 3",some "insr == 1"])
    (unsplit : header.int "setm" ≠ some 3) (prompt : header.int "insr" ≠ some 1) : rule.applies header = false := by
  simp only [List.mem_cons,List.not_mem_nil,or_false] at condition
  rcases condition with same | same | same
  · simp [FieldRule.applies,stated,same]
  · simp [FieldRule.applies,stated,same,Spec.conditions,Spec.unspecified,unsplit]
  · simp [FieldRule.applies,stated,same,Spec.conditions,Spec.unspecified,List.lookup_cons,prompt]

/-! What is reported as missing. -/

theorem otherPresent : ∀ rule ∈ otherRules, rule ∉ missingRules := by decide

theorem fieldPresent {header : Dict} {invoiceType : Option Int} {rule : FieldRule}
    (required : rule.forType invoiceType = .required → header.has rule.name = true)
    (conditional : rule.forType invoiceType = .conditional → rule.applies header = true → header.has rule.name = true) :
    ∀ v ∈ checkHeaderField header invoiceType rule, v.rule ∉ missingRules := by
  unfold checkHeaderField
  cases obligation : rule.forType invoiceType with
  | required => simp [required obligation]
  | optional => simp
  | conditional =>
    have given := conditional obligation
    cases applies : rule.applies header with
    | false => simp
    | true => simp [given applies]
  | notApplicable => cases header.has rule.name <;> simp [notApplicable,missingRules]

theorem linePresent {fields : Dict} {invoiceType : Option Int} {fieldPrefix : String} {index : Nat} {rules : List FieldRule}
    (set_ : ∀ rule ∈ rules, rule.forType invoiceType = .required → fields.has rule.name = true) :
    ∀ v ∈ checkLineFields fields invoiceType fieldPrefix index rules, v.rule ∉ missingRules := by
  rw [metLine.mpr set_]
  simp

theorem settlementPresent {invoice : Invoice} (unsplit : invoice.header.setm ≠ some 3) :
    ∀ v ∈ exact.checkSettlement invoice, v.rule ∉ missingRules := by
  unfold Numbers.checkSettlement
  split
  · simp
  · rename_i setm given
    have other : setm ≠ 3 := fun same => unsplit (given.trans (congrArg some same))
    rw [if_pos other]
    split
    · simp [missingRules]
    · simp

theorem splitMissing {invoice : Invoice} (split_ : invoice.header.setm = some 3) (unset : invoice.header.cap = none) :
    ∃ v ∈ exact.checkSettlement invoice, v.rule = "settlement.split_required" := by
  have asked : ∃ v ∈ exact.checkSplit invoice.header, v.rule = "settlement.split_required" := by
    unfold Numbers.checkSplit Numbers.splitRequired
    split <;> simp only [someAppend,wheneverSome] <;> simp [unset]
  have same : exact.checkSettlement invoice = exact.checkSplit invoice.header := by
    unfold Numbers.checkSettlement
    rw [split_]
    rfl
  rw [same]
  exact asked

/- What is wanted of a filled-in draft, once each field of the header and each line has what is wanted of it. -/
theorem completeOf {invoice : Invoice} {spec : PatternSpec} (pattern : Patterns.rules.pattern (patternNumber invoice) = some spec)
    (header : ∀ rule ∈ spec.header, ∀ v ∈ checkHeaderField invoice.header.modelDump invoice.header.inty rule,
      v.rule ∉ missingRules)
    (goods : invoice.header.sg = none)
    (lines : ∀ item ∈ invoice.body, ∀ rule ∈ spec.body, rule.forType invoice.header.inty = .required →
      item.modelDump.has rule.name = true)
    (unsplit : invoice.header.setm ≠ some 3) : Complete invoice := by
  intro v member
  have encoded : Patterns.engine.rules.pattern (patternNumber invoice) = some spec := pattern
  rcases reported encoded v (List.mem_filter.mp member).1 with inside | settled | other
  · simp only [checkObligations,goods,List.mem_append,List.mem_flatten,List.mem_map] at inside
    rcases inside with ((⟨_,⟨rule,own,rfl⟩,inside⟩ | inside) | ⟨_,⟨good,own,rfl⟩,inside⟩) | ⟨_,⟨⟨item,index⟩,own,rfl⟩,inside⟩
    · exact header rule own v inside
    · split at inside
      · cases List.mem_singleton.mp inside
        simp [missingRules]
      · cases inside
    · cases own
    · exact linePresent (lines item (List.fst_mem_of_mem_zipIdx own)) v inside
  · exact settlementPresent unsplit v settled
  · exact otherPresent _ other

section Complete
variable {r : Rounding} {source : Invoice} {spec : PatternSpec} {taxId : Option String} {subject millis pattern : Int}

theorem numberKept : patternNumber (recompute r (corrected source taxId subject millis) pattern) = patternNumber source := by
  unfold patternNumber recompute Numbers.recompute corrected
  cases source.header.inp <;> rfl

theorem typeKept (member : spec ∈ Patterns.rules.patterns) (held : Passed source spec) :
    (recompute r (corrected source taxId subject millis) pattern).header.inty = source.header.inty := by
  obtain ⟨rule,inside,name,required,untyped⟩ := (copying spec member).typed
  have met := held.header rule inside
  rw [Met,forTypeUntyped untyped,required,name,InvoiceHeader.hasField] at met
  cases given : source.header.inty with
  | none => simp [InvoiceHeader.fields,List.lookup_cons,given] at met
  | some invoiceType => simp [Numbers.recompute,corrected,given]

theorem totalRequired (member : spec ∈ Patterns.rules.patterns) (held : Passed source spec)
    (valid : (Patterns.engine.validate source).ok = true) : spec.number ∉ [7,11] := by
  intro number
  obtain ⟨rule,inside,name,excluded,untyped⟩ := (derives spec member).excluded number
  have met := held.header rule inside
  rw [Met,forTypeUntyped untyped,excluded,name] at met
  rw [unsetRefused exactZero ((headerUnset source.header).1.mp met)] at valid
  cases valid

theorem fieldsPresent (member : spec ∈ Patterns.rules.patterns) (number : spec.number ∉ uncopied ++ [7,11])
    (filed : truthy taxId = true) (held : Passed source spec) (unsplit : source.header.setm ≠ some 3) :
    ∀ rule ∈ spec.header, ∀ v ∈ checkHeaderField
      (recompute r (corrected source taxId subject millis) pattern).header.modelDump
      (recompute r (corrected source taxId subject millis) pattern).header.inty rule, v.rule ∉ missingRules := by
  intro rule inside
  rw [typeKept member held]
  obtain ⟨required,conditional⟩ := (copying spec member).enough number rule inside _
    (forTypeStated rule source.header.inty)
  refine fieldPresent (fun stated => ?_) (fun stated applies => ?_)
  · rcases List.mem_append.mp (required stated) with own | own
    · exact suppliedHas filed own
    · have met := held.header rule inside
      rw [Met,stated] at met
      rw [copiedHas own]
      exact met
  · rcases conditional stated with own | ⟨whole,condition⟩
    · exact suppliedHas filed own
    · have prompt : (recompute r (corrected source taxId subject millis) pattern).header.modelDump.int "insr" ≠ some 1 := by
        have lacks : (recompute r (corrected source taxId subject millis) pattern).header.modelDump.has "insr" = false :=
          elseLacks (by decide)
        rw [Dict.hasLookup,Option.isSome_eq_false_iff,Option.isNone_iff_eq_none] at lacks
        simp [Dict.int,lacks]
      have never := neverApplies whole condition (settledSame ▸ unsplit) prompt
      rw [never] at applies
      cases applies

theorem draftComplete (member : spec ∈ Patterns.rules.patterns)
    (encoded : Patterns.rules.pattern (patternNumber source) = some spec) (number : spec.number ∉ uncopied ++ [7,11])
    (filed : truthy taxId = true) (held : Passed source spec) (unsplit : source.header.setm ≠ some 3) :
    Complete (recompute r (corrected source taxId subject millis) pattern) := by
  refine completeOf (by rw [numberKept]; exact encoded) (fieldsPresent member number filed held unsplit) rfl ?_ unsplit
  intro item own rule inside required
  rw [typeKept member held] at required
  obtain ⟨old,there,rfl⟩ := List.mem_map.mp own
  exact Numbers.lineGrows (held.lines old there rule inside required)

theorem splitIncomplete (split_ : source.header.setm = some 3) :
    ¬ Complete (recompute r (corrected source taxId subject millis) pattern) := by
  intro complete
  obtain ⟨v,member,own⟩ := @splitMissing (recompute r (corrected source taxId subject millis) pattern) split_ rfl
  refine complete v ?_ (by rw [own]; decide)
  simp only [ValidationReport.errors,List.mem_filter,report,Numbers.checkArithmetic,List.mem_append,(settlementOwn _ v member).1]
  exact ⟨.inr (.inr member),rfl⟩

theorem uncopiedIncomplete (member : spec ∈ Patterns.rules.patterns)
    (encoded : Patterns.rules.pattern (patternNumber source) = some spec) (number : spec.number ∈ uncopied) :
    ¬ Complete (recompute r (corrected source taxId subject millis) pattern) := by
  intro complete
  obtain ⟨rule,inside,other,required,untyped⟩ := (copying spec member).lacking number
  have lacks : (recompute r (corrected source taxId subject millis) pattern).header.modelDump.has rule.name = false :=
    elseLacks other
  have asked : missing rule "obligation.required" rule.name none ∈
      checkObligations (recompute r (corrected source taxId subject millis) pattern) spec := by
    simp only [checkObligations,List.mem_append,List.mem_flatten,List.mem_map]
    refine .inl (.inl (.inl ⟨_,⟨rule,inside,rfl⟩,?_⟩))
    simp [checkHeaderField,forTypeUntyped untyped,required,lacks]
  have after : Patterns.engine.rules.pattern
      (patternNumber (recompute r (corrected source taxId subject millis) pattern)) = some spec := by
    rw [numberKept]
    exact encoded
  have reported_ := ((reportedBy (F := exact) after).mpr asked).1
  exact complete _ (List.mem_filter.mpr ⟨reported_,rfl⟩) (by simp [missing,missingRules])

end Complete

/- A correction or a return lacks nothing its reference had, but where its reference was
settled partly in cash, or is of a pattern whose own required fields are not copied. -/
theorem correctionComplete (p : Conversions) (u : Persian.Unicode) (r : Rounding) (profile : Profile)
    (invoiceId subject : Int) (w : World) (answers : List (Oracle service)) {reply : Reply} {record : InvoiceRecord}
    {source : Invoice} {spec : PatternSpec} (corrects : subject ∈ [2,4])
    (stored : w.invoices.getInvoice invoiceId = some record) (filed : truthy record.taxId = true)
    (read : Invoice.modelValidate p u record.payload.json = .ok source)
    (valid : (Patterns.engine.validate source).ok = true)
    (encoded : Patterns.rules.pattern (patternNumber source) = some spec)
    (returned : (correcting profile invoiceId subject w answers).prog.outcome = some (.ok reply)) :
    ∃ document, reply = .referring record.id record.taxId record.state subject document ∧
      (Corrects p u r document source ↔ source.header.setm ≠ some 3 ∧ patternNumber source ∉ [4,5,6,8,13]) := by
  obtain ⟨found,millis,looked,rfl⟩ := correctingReplies returned
  have same : found = record := Option.some.inj (looked.symm.trans stored)
  subst same
  have kept : subject ≠ 3 := by
    rintro rfl
    simp at corrects
  have whole := draftRead millis kept read
  have member : spec ∈ Patterns.rules.patterns := List.mem_of_find?_eq_some encoded
  have number : spec.number = patternNumber source := by simpa using List.find?_some encoded
  have held : Passed source spec := passedOfOk (show Patterns.engine.rules.pattern _ = _ from encoded) valid
  refine ⟨_,rfl,?_⟩
  constructor
  · rintro ⟨draft,own,_,complete⟩
    cases Checked.ok.inj (own.symm.trans whole)
    refine ⟨fun split_ => splitIncomplete split_ complete,fun among => ?_⟩
    exact uncopiedIncomplete member encoded (number ▸ among) complete
  · rintro ⟨unsplit,apart_⟩
    have free : spec.number ∉ uncopied ++ [7,11] := by
      rw [List.mem_append,not_or]
      exact ⟨number ▸ apart_,totalRequired member held valid⟩
    exact ⟨_,whole,rfl,draftComplete member encoded free filed held unsplit⟩

/-! A sale on credit, and the same settled partly in cash. -/

def storedAs (invoice : Invoice) : InvoiceRecord where
  profile := "sandbox"
  state := .sent
  payload := invoice.wireDict
  taxId := some "A1121604C220002F095011"
  uid := some "uid"
  referenceNumber := some "ref-1"
  id := some 1

def holding (invoice : Invoice) : World := ⟨(RecordStore.saveInvoice Table.empty { storedAs invoice with id := none }).2,[]⟩

def partlyPaid : Invoice :=
  { Example.invoice with header := { Example.header with setm := some 3, cap := some 10000, insp := some 9500 } }

theorem correctionCompleteSale : ∃ document,
    Reply.referring (some 1) (some "A1121604C220002F095011") .sent 2
      (Api.referringDraft (storedAs Example.invoice) 2 1683997837988) =
        .referring (some 1) (some "A1121604C220002F095011") .sent 2 document ∧
    (Corrects Example.strict Example.composed .halfEven document Example.invoice ↔
      Example.invoice.header.setm ≠ some 3 ∧ patternNumber Example.invoice ∉ [4,5,6,8,13]) :=
  @correctionComplete Example.strict Example.composed .halfEven Example.profile 1 2 (holding Example.invoice)
    (List.replicate 2 (Example.smooth 1 [])) _ (storedAs Example.invoice) Example.invoice Patterns.pattern1
    (by decide) rfl rfl rfl (by decide +kernel) rfl rfl

theorem partlyPaidUncorrected : (Patterns.engine.validate partlyPaid).ok = true ∧
    (correcting Example.profile 1 2 (holding partlyPaid) (List.replicate 2 (Example.smooth 1 []))).prog.outcome =
      some (.ok (.referring (some 1) (some "A1121604C220002F095011") .sent 2
        (Api.referringDraft (storedAs partlyPaid) 2 1683997837988))) ∧
    ¬ Corrects Example.strict Example.composed .halfEven (Api.referringDraft (storedAs partlyPaid) 2 1683997837988) partlyPaid := by
  refine ⟨by decide +kernel,rfl,?_⟩
  rintro ⟨draft,read,_,complete⟩
  have whole := @draftRead Example.strict Example.composed (storedAs partlyPaid) partlyPaid 2 1683997837988 (by decide) rfl
  cases Checked.ok.inj (read.symm.trans whole)
  exact splitIncomplete rfl complete

end Moadian.Correcting
