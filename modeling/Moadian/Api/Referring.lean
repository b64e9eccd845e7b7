import Moadian.Api.Example
import Moadian.Contract.Filing
import Moadian.Rules.Concord

/-! The draft of a cancellation, read back as the invoice it would be submitted as. -/
namespace Moadian.Referring
open Resumption Json RuleEngine

def ReadsFields (defaults : Dict) (fields : List (String × Option Json)) (document : Json) : Prop :=
  ∀ name ∈ fields.map Prod.fst, (fields.lookup name).join = ((document.get name).filter (fun v => !v.isNull)).or
    (defaults.lookup name)

/- What `Invoice.model_validate` makes of a document. -/
structure Reads (document : Json) (invoice : Invoice) : Prop where
  header : ∃ h, document.get "header" = some h ∧ ReadsFields [("taxid",.str "")] invoice.header.fields h
  body : ∃ items, document.get "body" = some (.arr items) ∧
    List.Forall₂ (fun (item : InvoiceBodyItem) h => ReadsFields [] item.fields h) invoice.body items
  payments : ∃ items, (document.get "payments").getD (.arr []) = .arr items ∧
    List.Forall₂ (fun (p : InvoicePayment) h => ReadsFields [] p.fields h) invoice.payments items
  extension : invoice.extension.map (fun xs => Json.arr (xs.map .obj)) = document.get "extension"

def totals : List String := ["tprdis","tdis","tadis","tvam","tbill","todam"]

/- Nothing is held against the draft for want of a body, neither that there is none
nor what a total of it should be. -/
def Fileable (engine : RuleEngine) (draft : Invoice) : Prop :=
  ∀ v ∈ (engine.validate draft).errors, v.rule ≠ "obligation.body_not_empty" ∧ v.field ∉ totals

def drafting (profile : Profile) (invoiceId : Int) (w : World) (answers : List (Oracle service)) : Task service Exc Reply :=
  (solo w (Task.start service (Api.referringInvoice profile invoiceId 3)) answers).2

/-! What the endpoint replies. -/

def Drafted (subject : Int) : Except Exc Reply → Prop
  | .ok (.referring _ _ _ _ document) => ∃ record millis, document = Api.referringDraft record subject millis
  | _ => True

theorem referringDrafts (profile : Profile) (id subject : Int) :
    Obeys (M := service) (fun _ _ => True) (fun _ out => Drafted subject out) [] (Api.referringInvoice profile id subject) := by
  unfold Api.referringInvoice
  split
  · trivial
  · refine recordOfThen trivial (fun tr row _ => ?_) (fun _ _ _ => trivial)
    split
    · trivial
    · exact performThen trivial (fun _ now _ => ⟨row,now.millis,rfl⟩)

theorem draftingDrafts {profile : Profile} {invoiceId : Int} {w : World} {answers : List (Oracle service)} {id : Option Int}
    {taxId : Option String} {state : InvoiceState} {subject : Int} {document : Json}
    (returned : (drafting profile invoiceId w answers).prog.outcome =
      some (.ok (.referring id taxId state subject document))) :
    ∃ record millis, document = Api.referringDraft record 3 millis := by
  have obeyed := soloObeys (w := w) (t := Task.start service (Api.referringInvoice profile invoiceId 3))
    (referringDrafts profile invoiceId 3) answers
  exact obeysEnds obeyed returned

/-! The draft as an invoice: what is left of the reference is its header's identity. -/

-- A text that is blank was not on the wire.
def ink (s : Option String) : Option String := s.filter (fun s => !isBlank s)

def draftOf (source : Invoice) (taxId : Option String) (millis : Int) : Invoice where
  header := {
    indatim := millis, ins := 3, inty := some (source.header.inty.getD 1), inp := some (source.header.inp.getD 1)
    irtaxid := taxId, tins := ink source.header.tins, tob := source.header.tob, bid := ink source.header.bid
    tinb := ink source.header.tinb, bpc := ink source.header.bpc, setm := source.header.setm }
  body := []

theorem wireInt {source : Invoice} {name : String} {n : Option Int}
    (field : source.header.fields.lookup name = some (n.map .int)) : source.wireDict.header name = n.map .int := by
  rw [headerOnWire,field]
  cases n <;> rfl

theorem wireText {source : Invoice} {name : String} {s : Option String}
    (field : source.header.fields.lookup name = some (s.map .str)) : source.wireDict.header name = (ink s).map .str := by
  rw [headerOnWire,field]
  cases s with
  | none => rfl
  | some s => cases blank : isBlank s <;> simp [ink,blankString,blank,withoutBlanks,Option.filter]

theorem lookupKept {key : String} {members : Dict} (nodup : (members.map Prod.fst).Nodup) :
    (members.filter (fun m => !m.2.isNull)).lookup key = (members.lookup key).filter (fun v => !v.isNull) := by
  induction members with
  | nil => rfl
  | cons m rest ih =>
    obtain ⟨k,v⟩ := m
    obtain ⟨absent,tail⟩ := List.nodup_cons.mp nodup
    have later := ih tail
    rw [List.filter_cons,List.lookup_cons]
    cases same : key == k with
    | false =>
      cases v.isNull with
      | true => exact later
      | false => simpa [List.lookup_cons,same] using later
    | true =>
      have eq : key = k := by simpa using same
      subst eq
      cases isNull : v.isNull with
      | true =>
        have gone : rest.lookup key = none := lookupNone absent
        rw [gone] at later
        exact later.trans (by simp [Option.filter,isNull])
      | false => simp [Option.filter,isNull]

theorem keptInt (n : Int) : (some (Json.int n)).filter (fun v => !v.isNull) = some (.int n) := rfl

theorem keptInts (n : Option Int) : (some ((n.map Json.int).getD .null)).filter (fun v => !v.isNull) = n.map .int := by
  cases n <;> rfl

theorem keptTexts (s : Option String) : (some ((s.map Json.str).getD .null)).filter (fun v => !v.isNull) = s.map .str := by
  cases s <;> rfl

theorem keptNullable (s : Option String) : (some (Api.nullable s)).filter (fun v => !v.isNull) = s.map .str := by
  cases s <;> rfl

def seeded : List String := ["inty","inp","ins","irtaxid","indatim"]

def copied : List String := ["tins","tob","bid","tinb","bpc","setm"]

theorem draftHeader (record : InvoiceRecord) (subject millis : Int) : ∃ d : Dict,
    (Api.referringDraft record subject millis).get "header" = some (.obj d) ∧
    (∀ m ∈ d, m.1 ∈ seeded ++ copied ∧ m.2.isNull = false) ∧
    ∀ name, d.lookup name = (List.lookup name [
      ("inty",(record.payload.header "inty").getD (.int 1)), ("inp",(record.payload.header "inp").getD (.int 1)),
      ("ins",.int subject), ("irtaxid",Api.nullable record.taxId), ("indatim",.int millis),
      ("tins",(record.payload.header "tins").getD .null), ("tob",(record.payload.header "tob").getD .null),
      ("bid",(record.payload.header "bid").getD .null), ("tinb",(record.payload.header "tinb").getD .null),
      ("bpc",(record.payload.header "bpc").getD .null), ("setm",(record.payload.header "setm").getD .null)]).filter
        (fun v => !v.isNull) :=
  ⟨_,rfl,fun m member => ⟨List.mem_map_of_mem (List.mem_filter.mp member).1,by simpa using (List.mem_filter.mp member).2⟩,
    fun _ => lookupKept (by simp only [List.map_cons,List.map_nil]; decide)⟩

theorem draftShows {record : InvoiceRecord} {source : Invoice} (payload : record.payload = source.wireDict)
    (subject millis : Int) : ∃ d : Dict, (Api.referringDraft record subject millis).get "header" = some (.obj d) ∧
    (∀ m ∈ d, m.1 ∈ seeded ++ copied ∧ m.2.isNull = false) ∧
    ∀ name v, (name,v) ∈ InvoiceHeader.fields { (draftOf source record.taxId millis).header with ins := subject } →
      name ≠ "taxid" → d.lookup name = v := by
  have inty : source.wireDict.header "inty" = source.header.inty.map .int :=
    wireInt (by simp [InvoiceHeader.fields,List.lookup_cons])
  have inp : source.wireDict.header "inp" = source.header.inp.map .int :=
    wireInt (by simp [InvoiceHeader.fields,List.lookup_cons])
  have tob : source.wireDict.header "tob" = source.header.tob.map .int :=
    wireInt (by simp [InvoiceHeader.fields,List.lookup_cons])
  have setm : source.wireDict.header "setm" = source.header.setm.map .int :=
    wireInt (by simp [InvoiceHeader.fields,List.lookup_cons])
  have tins : source.wireDict.header "tins" = (ink source.header.tins).map .str :=
    wireText (by simp [InvoiceHeader.fields,List.lookup_cons])
  have bid : source.wireDict.header "bid" = (ink source.header.bid).map .str :=
    wireText (by simp [InvoiceHeader.fields,List.lookup_cons])
  have tinb : source.wireDict.header "tinb" = (ink source.header.tinb).map .str :=
    wireText (by simp [InvoiceHeader.fields,List.lookup_cons])
  have bpc : source.wireDict.header "bpc" = (ink source.header.bpc).map .str :=
    wireText (by simp [InvoiceHeader.fields,List.lookup_cons])
  obtain ⟨d,header,known,own⟩ := draftHeader record subject millis
  refine ⟨d,header,known,fun name v member other => ?_⟩
  rw [own,payload,inty,inp,tob,setm,tins,bid,tinb,bpc]
  have each : ∀ f ∈ InvoiceHeader.fields { (draftOf source record.taxId millis).header with ins := subject },
      f.1 ≠ "taxid" → (List.lookup f.1 [
        ("inty",(source.header.inty.map Json.int).getD (.int 1)), ("inp",(source.header.inp.map Json.int).getD (.int 1)),
        ("ins",.int subject), ("irtaxid",Api.nullable record.taxId), ("indatim",.int millis),
        ("tins",((ink source.header.tins).map Json.str).getD .null), ("tob",(source.header.tob.map Json.int).getD .null),
        ("bid",((ink source.header.bid).map Json.str).getD .null), ("tinb",((ink source.header.tinb).map Json.str).getD .null),
        ("bpc",((ink source.header.bpc).map Json.str).getD .null), ("setm",(source.header.setm.map Json.int).getD .null)]).filter
          (fun v => !v.isNull) = f.2 := by
    simp only [InvoiceHeader.fields,List.forall_mem_cons]
    and_intros <;> simp [draftOf,List.lookup_cons,keptInt,keptInts,keptTexts,keptNullable]
  exact each _ member other

theorem draftReads {record : InvoiceRecord} {source : Invoice} (payload : record.payload = source.wireDict) (millis : Int) :
    Reads (Api.referringDraft record 3 millis) (draftOf source record.taxId millis) := by
  obtain ⟨d,header,known,own⟩ := draftShows payload 3 millis
  refine ⟨⟨_,header,fun name member => ?_⟩,⟨[],rfl,.nil⟩,⟨[],rfl,.nil⟩,rfl⟩
  change _ = ((d.lookup name).filter _).or _
  by_cases other : name = "taxid"
  · subst other
    have unset : d.lookup "taxid" = none := lookupNone (fun member => by
      obtain ⟨m,inside,same⟩ := List.mem_map.mp member
      exact absurd (same ▸ (known m inside).1) (by decide))
    rw [unset]
    rfl
  · obtain ⟨⟨k,v⟩,inside,rfl⟩ := List.mem_map.mp member
    have shown := own _ v inside other
    have set_ : v.filter (fun v => !v.isNull) = v := by
      cases v with
      | none => rfl
      | some v => simp [Option.filter,(known _ (lookupMem shown)).2]
    have unseeded : [("taxid",Json.str "")].lookup k = none := lookupNone (by simpa using other)
    rw [lookupOwn (headerKeys _) inside,shown,set_,unseeded]
    simp

/-! Whatever is read from it has no body and no totals, and the engine asks for both. -/

theorem readsTotals {record : InvoiceRecord} {millis : Int} {draft : Invoice}
    (reads : Reads (Api.referringDraft record 3 millis) draft) : draft.header.tprdis = none ∧ draft.body = [] := by
  constructor
  · obtain ⟨d,header,_,own⟩ := draftHeader record 3 millis
    obtain ⟨other,same,fields⟩ := reads.header
    rw [header] at same
    cases Option.some.inj same
    have total := fields "tprdis" (by simp [InvoiceHeader.fields])
    change _ = ((d.lookup "tprdis").filter _).or _ at total
    rw [own] at total
    simpa [InvoiceHeader.fields,List.lookup_cons] using total
  · obtain ⟨items,found,each⟩ := reads.body
    have empty : items = [] := by
      have none_ : (Api.referringDraft record 3 millis).get "body" = some (.arr []) := rfl
      rw [none_] at found
      cases found
      rfl
    subst empty
    exact List.forall₂_nil_right_iff.mp each

theorem totalRefused {engine : RuleEngine} {draft : Invoice} (unset : draft.header.tprdis = none) :
    ∃ v ∈ (engine.validate draft).errors, v.field = "tprdis" := by
  obtain ⟨v,member,own⟩ := Arithmetic.blamesTprdis Arithmetic.exactZero unset
  refine ⟨v,?_,own⟩
  simp only [ValidationReport.errors,List.mem_filter,report,Numbers.checkArithmetic,List.mem_append,
    (Arithmetic.totalsOwn draft v member).1]
  exact ⟨.inr (.inl (.inr member)),rfl⟩

theorem bodyRefused {engine : RuleEngine} {draft : Invoice} {spec : PatternSpec}
    (pattern : engine.rules.pattern (patternNumber draft) = some spec) (empty : draft.body = []) :
    ∃ v ∈ (engine.validate draft).errors, v.rule = "obligation.body_not_empty" := by
  refine ⟨{
    field := "body", rule := "obligation.body_not_empty"
    message := "صورتحساب باید دست‌کم یک قلم کالا/خدمت داشته باشد."
    reference := "RC_IITP §7" },?_,rfl⟩
  simp only [ValidationReport.errors,List.mem_filter,report,checkPattern,pattern,checkObligations,empty,List.mem_append]
  simp

/- No draft of a cancellation can be filed, whatever record it refers to: a total is
asked for, and under an encoded pattern a body. -/
theorem cancellationRefused (engine : RuleEngine) (profile : Profile) (invoiceId : Int) (w : World)
    (answers : List (Oracle service)) {id : Option Int} {taxId : Option String} {state : InvoiceState} {document : Json}
    (returned : (drafting profile invoiceId w answers).prog.outcome = some (.ok (.referring id taxId state 3 document))) :
    (∃ draft, Reads document draft) ∧ ∀ draft, Reads document draft → ¬ Fileable engine draft ∧
      (∀ spec, engine.rules.pattern (patternNumber draft) = some spec →
        ∃ v ∈ (engine.validate draft).errors, v.rule = "obligation.body_not_empty") := by
  obtain ⟨record,millis,rfl⟩ := draftingDrafts returned
  constructor
  · obtain ⟨source,wire⟩ := record.payload.wire
    have payload : record.payload = source.wireDict := by
      cases same : record.payload with
      | mk json own =>
        rw [same] at wire
        cases wire
        rfl
    exact ⟨_,draftReads payload millis⟩
  · intro draft reads
    obtain ⟨unset,empty⟩ := readsTotals reads
    refine ⟨fun fileable => ?_,fun spec pattern => bodyRefused pattern empty⟩
    obtain ⟨v,member,own⟩ := totalRefused unset
    exact (fileable v member).2 (by rw [own]; decide)

/-! An invoice filed in due form, and its cancellation. -/

def reference : InvoiceRecord where
  profile := "sandbox"
  state := .sent
  payload := (Example.under "A1121604C220002F095011").wireDict
  taxId := some "A1121604C220002F095011"
  uid := some "uid"
  referenceNumber := some "ref-1"

def filed : World := ⟨(RecordStore.saveInvoice Table.empty reference).2,[]⟩

def drafted : Json := Api.referringDraft reference 3 1683997837988

def cancelling : Task service Exc Reply := drafting Example.profile 1 filed (List.replicate 2 (Example.smooth 1 []))

theorem cancellationDrafted :
    cancelling.prog.outcome = some (.ok (.referring (some 1) reference.taxId .sent 3 drafted)) := rfl

theorem cancellationRefusedOnce : (∃ draft, Reads drafted draft) ∧ ∀ draft, Reads drafted draft →
    ¬ Fileable Patterns.engine draft ∧ (∀ spec, Patterns.rules.pattern (patternNumber draft) = some spec →
      ∃ v ∈ (Patterns.engine.validate draft).errors, v.rule = "obligation.body_not_empty") :=
  cancellationRefused Patterns.engine Example.profile 1 filed _ cancellationDrafted

theorem validCancelled : (Patterns.engine.validate (Example.under "A1121604C220002F095011")).ok = true ∧
    cancelling.prog.outcome = some (.ok (.referring (some 1) reference.taxId .sent 3 drafted)) ∧
    ∃ draft, Reads drafted draft ∧ ¬ Fileable Patterns.engine draft := by
  have reads := draftReads (show reference.payload = _ from rfl) 1683997837988
  refine ⟨by decide +kernel,rfl,_,reads,fun fileable => ?_⟩
  obtain ⟨v,member,own⟩ := totalRefused (readsTotals reads).1
  exact (fileable v member).2 (by rw [own]; decide)

end Moadian.Referring
