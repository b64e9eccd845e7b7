import Moadian.Api.Example
import Moadian.Rules.Concord

/-! A field that is no part of a pattern, section by section. The traversal looks for
one in the header alone; goods carried are kept out by the header's own `sg`. -/
namespace Moadian.Obligations
open RuleEngine Arithmetic
open Double (Summation)

def Confined (rules : List FieldRule) (invoiceType : Int) (fields : Dict) : Prop :=
  ∀ name ∈ names .notApplicable rules invoiceType, fields.has name = false

instance (rules : List FieldRule) (invoiceType : Int) (fields : Dict) : Decidable (Confined rules invoiceType fields) :=
  inferInstanceAs (Decidable (∀ name ∈ _, _))

structure Everywhere (spec : PatternSpec) (invoiceType : Int) (invoice : Invoice) : Prop where
  header : Confined spec.header invoiceType invoice.header.modelDump
  lines : ∀ item ∈ invoice.body, Confined spec.body invoiceType item.modelDump
  goods : ∀ g ∈ invoice.header.sg.getD [], Confined spec.sg invoiceType g.modelDump
  payments : ∀ p ∈ invoice.payments, Confined spec.payment invoiceType p.modelDump

theorem confinedHeader {invoice : Invoice} {spec : PatternSpec} {invoiceType : Int}
    (typed : invoice.header.inty = some invoiceType) (held : Passed invoice spec) :
    Confined spec.header invoiceType invoice.header.modelDump := by
  intro name member
  obtain ⟨r,inside,excluded,rfl⟩ := memNames.mp member
  have met := held.header r inside
  rw [Met,typed,excluded] at met
  exact met

theorem goodsExcluded : ∀ spec ∈ Patterns.rules.patterns, ∀ invoiceType ∈ spec.types,
    "sg" ∈ names .notApplicable spec.header invoiceType ∨ names .notApplicable spec.sg invoiceType = [] := by
  decide +kernel

theorem goodsSet {h : InvoiceHeader} : h.modelDump.has "sg" = h.sg.isSome := by
  rw [h.hasField]
  have field : h.fields.lookup "sg" = some (h.sg.map (fun goods => .arr (goods.map (fun g => .obj g.modelDump)))) := by
    simp [InvoiceHeader.fields,List.lookup_cons]
  rw [field]
  cases h.sg <;> rfl

theorem confinedGoods {invoice : Invoice} {spec : PatternSpec} {invoiceType : Int}
    (encoded : Encoded Patterns.rules invoice spec invoiceType) (held : Passed invoice spec) :
    ∀ g ∈ invoice.header.sg.getD [], Confined spec.sg invoiceType g.modelDump := by
  intro g member
  rcases goodsExcluded spec (List.mem_of_find?_eq_some encoded.pattern) invoiceType encoded.known with excluded | free
  · have unset := confinedHeader encoded.typed held "sg" excluded
    rw [goodsSet] at unset
    cases own : invoice.header.sg with
    | none => simp [own] at member
    | some goods => simp [own] at unset
  · intro name inside
    rw [free] at inside
    cases inside

/-! Under which patterns the whole matrix holds of what is accepted. -/

theorem paymentsFree : ∀ spec ∈ Patterns.rules.patterns, spec.number ∉ [7,11] → ∀ invoiceType ∈ spec.types,
    names .notApplicable spec.payment invoiceType = [] := by
  decide +kernel

-- The pattern's own invoice, in a type of it, each line with a customs value that only an export has.
def straying (pattern invoiceType : Int) : Invoice := { obeying pattern with
  header := { (obeying pattern).header with inty := some invoiceType, setm := if invoiceType = 2 then none else some 1 }
  body := (obeying pattern).body.map (fun item => { item with ssrv := some 5 }) }

theorem strayingAccepted (s : Summation) : ∀ spec ∈ Patterns.rules.patterns, spec.number ∉ [7,11] → ∀ invoiceType ∈ spec.types,
    patternNumber (straying spec.number invoiceType) = spec.number ∧ Accepted s (straying spec.number invoiceType) ∧
    ∃ item ∈ (straying spec.number invoiceType).body, ¬ Confined spec.body invoiceType item.modelDump := by
  cases s <;> decide +kernel

theorem strayingEncoded {spec : PatternSpec} (member : spec ∈ Patterns.rules.patterns) {invoiceType : Int}
    (known : invoiceType ∈ spec.types) (same : patternNumber (straying spec.number invoiceType) = spec.number) :
    Encoded Patterns.rules (straying spec.number invoiceType) spec invoiceType :=
  ⟨by rw [same]; exact encodedSelf spec member,rfl,known⟩

/- Where the matrix is enforced. Of the patterns 7 and 11 nothing is accepted at all; of
every other, and in every type, some invoice with a stray line is, though the header, the
goods and the payments never stray. -/
structure Enforced (s : Summation) (spec : PatternSpec) (invoiceType : Int) : Prop where
  everywhere : (∀ invoice, Encoded Patterns.rules invoice spec invoiceType → Accepted s invoice →
    Everywhere spec invoiceType invoice) ↔ spec.number ∈ [7,11]
  nothing : spec.number ∈ [7,11] → ∀ invoice, Encoded Patterns.rules invoice spec invoiceType → ¬ Accepted s invoice
  others : ∀ invoice, Encoded Patterns.rules invoice spec invoiceType → Accepted s invoice →
    Confined spec.header invoiceType invoice.header.modelDump ∧
    (∀ g ∈ invoice.header.sg.getD [], Confined spec.sg invoiceType g.modelDump) ∧
    ∀ p ∈ invoice.payments, Confined spec.payment invoiceType p.modelDump

theorem matrixSections (s : Summation) (spec : PatternSpec) (member : spec ∈ Patterns.rules.patterns) (invoiceType : Int)
    (known : invoiceType ∈ spec.types) : Enforced s spec invoiceType where
  everywhere := by
    constructor
    · intro all_
      by_contra number
      obtain ⟨same,ok,item,here,stray⟩ := strayingAccepted s spec member number invoiceType known
      exact stray ((all_ _ (strayingEncoded member known same) ok).lines item here)
    · intro number invoice encoded ok
      exact absurd ok (neverAccepted member number encoded)
  nothing := fun number _ encoded => neverAccepted member number encoded
  others := by
    intro invoice encoded ok
    have held := acceptedPassed encoded ok
    refine ⟨confinedHeader encoded.typed held,confinedGoods encoded held,fun p _ name inside => ?_⟩
    have number : spec.number ∉ [7,11] := fun number => neverAccepted member number encoded ok
    rw [paymentsFree spec member number invoiceType known] at inside
    cases inside

theorem matrixSectionsSale : Enforced .compensated Patterns.pattern1 1 :=
  matrixSections .compensated Patterns.pattern1 (by simp [Patterns.rules]) 1 (by decide)

def customs : Invoice := { Example.invoice with body := [{ Example.line with ssrv := some 5 }] }

theorem customsAccepted : Encoded Patterns.rules customs Patterns.pattern1 1 ∧ Accepted .compensated customs ∧
    ¬ Everywhere Patterns.pattern1 1 customs := by
  refine ⟨⟨rfl,rfl,by decide⟩,by decide +kernel,fun all_ => ?_⟩
  have unset := all_.lines { Example.line with ssrv := some 5 } (by simp [customs]) "ssrv" (by decide +kernel)
  exact absurd unset (by decide +kernel)

end Moadian.Obligations
