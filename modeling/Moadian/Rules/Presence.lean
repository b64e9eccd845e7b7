import Moadian.Api.Example
import Moadian.Rules.Obligations

/-! Two notions of a field that is there: the engine counts whatever is not null, the
wire leaves out texts that are blank. -/
namespace Moadian
open Json

namespace WireDict

def item (i : Nat) : Json → Option Json
  | .arr items => items[i]?
  | _ => none

def line (d : WireDict) (i : Nat) (name : String) : Option Json :=
  ((d.json.get "body").bind (item i)).bind (·.get name)

def good (d : WireDict) (i : Nat) (name : String) : Option Json :=
  ((d.header "sg").bind (item i)).bind (·.get name)

end WireDict

theorem withoutBlanksItemsMap (items : List Json) : withoutBlanksItems items = items.map withoutBlanks := by
  induction items with
  | nil => rfl
  | cons v rest ih => rw [withoutBlanksItems,ih,List.map_cons]

/-! What is left of an object is what is set and not blank. -/

theorem objectOnWire {fields : List (String × Option Json)} (nodup : (fields.map Prod.fst).Nodup) (name : String) :
    ((withoutBlanks (.obj (present fields))).get name).isSome =
      ((present fields).has name && !(present fields).blank name) := by
  have keys : ((present fields).map Prod.fst).Nodup := (presentKeys _).nodup nodup
  change ((withoutBlanksMembers (present fields)).lookup name).isSome = _
  rw [lookupWithoutBlanks keys,Dict.hasLookup,Dict.blank]
  cases (present fields).lookup name with
  | none => rfl
  | some v => cases blank : blankString v <;> simp [blank]

theorem headerShown (inv : Invoice) (name : String) : (inv.wireDict.header name).isSome =
    (inv.header.modelDump.has name && !inv.header.modelDump.blank name) := by
  refine Eq.trans ?_ (objectOnWire (headerKeys inv.header) name)
  rw [WireDict.header,show inv.wireDict.json = inv.toWireDict from rfl,wireHeader]
  rfl

theorem wireBody (inv : Invoice) : inv.toWireDict.get "body" =
    some (.arr (inv.body.map (fun item => withoutBlanks (.obj item.modelDump)))) := by
  simp [Invoice.toWireDict,Invoice.modelDump,Invoice.fields,present,withoutBlanks,withoutBlanksMembers,
    blankString,Json.get,List.lookup_cons,withoutBlanksItemsMap]

theorem lineShown {inv : Invoice} {i : Nat} {item : InvoiceBodyItem} (found : inv.body[i]? = some item) (name : String) :
    (inv.wireDict.line i name).isSome = (item.modelDump.has name && !item.modelDump.blank name) := by
  refine Eq.trans ?_ (objectOnWire (bodyKeys item) name)
  rw [WireDict.line,show inv.wireDict.json = inv.toWireDict from rfl,wireBody,Option.bind_some,WireDict.item,
    List.getElem?_map,found]
  rfl

theorem wireGoods {inv : Invoice} {goods : List ShippingGood} (own : inv.header.sg = some goods) :
    inv.wireDict.header "sg" = some (.arr (goods.map (fun g => withoutBlanks (.obj g.modelDump)))) := by
  have field : inv.header.fields.lookup "sg" = some (some (.arr (goods.map (fun g => .obj g.modelDump)))) := by
    simp [InvoiceHeader.fields,List.lookup_cons,own]
  rw [headerOnWire,field]
  simp [blankString,withoutBlanks,withoutBlanksItemsMap]

theorem goodShown {inv : Invoice} {goods : List ShippingGood} (own : inv.header.sg = some goods) {i : Nat}
    {g : ShippingGood} (found : goods[i]? = some g) (name : String) :
    (inv.wireDict.good i name).isSome = (g.modelDump.has name && !g.modelDump.blank name) := by
  refine Eq.trans ?_ (objectOnWire (goodKeys g) name)
  rw [WireDict.good,wireGoods own,Option.bind_some,WireDict.item,List.getElem?_map,found]
  rfl

namespace Obligations
open RuleEngine

/- Every field the matrix requires is on the wire; a tax id is minted later on. -/
structure Carried (spec : PatternSpec) (invoiceType : Int) (invoice : Invoice) : Prop where
  header : ∀ name ∈ names .required spec.header invoiceType, name ≠ "taxid" →
    (invoice.wireDict.header name).isSome = true
  lines : ∀ i < invoice.body.length, ∀ name ∈ names .required spec.body invoiceType,
    (invoice.wireDict.line i name).isSome = true
  goods : ∀ i < (invoice.header.sg.getD []).length, ∀ name ∈ names .required spec.sg invoiceType,
    (invoice.wireDict.good i name).isSome = true

structure Inked (spec : PatternSpec) (invoiceType : Int) (invoice : Invoice) : Prop where
  header : ∀ name ∈ names .required spec.header invoiceType, name ≠ "taxid" →
    invoice.header.modelDump.blank name = false
  lines : ∀ item ∈ invoice.body, ∀ name ∈ names .required spec.body invoiceType, item.modelDump.blank name = false
  goods : ∀ g ∈ invoice.header.sg.getD [], ∀ name ∈ names .required spec.sg invoiceType,
    g.modelDump.blank name = false

def Shown (engine : RuleEngine) (invoice : Invoice) : Prop :=
  ∀ v ∈ (engine.validate invoice).violations, v.rule = "obligation.not_applicable" →
    (invoice.wireDict.header v.field).isSome = true

theorem carried {spec : PatternSpec} {invoiceType : Int} {invoice : Invoice} (typed : invoice.header.inty = some invoiceType)
    (held : Passed invoice spec) : Carried spec invoiceType invoice ↔ Inked spec invoiceType invoice := by
  have header : ∀ name ∈ names .required spec.header invoiceType, invoice.header.modelDump.has name = true := by
    intro name member
    obtain ⟨r,inside,required,rfl⟩ := memNames.mp member
    have met := held.header r inside
    rw [Met,typed,required] at met
    exact met
  have lines : ∀ item ∈ invoice.body, ∀ name ∈ names .required spec.body invoiceType,
      item.modelDump.has name = true := by
    intro item own name member
    obtain ⟨r,inside,required,rfl⟩ := memNames.mp member
    exact held.lines item own r inside (typed ▸ required)
  have goods : ∀ g ∈ invoice.header.sg.getD [], ∀ name ∈ names .required spec.sg invoiceType,
      g.modelDump.has name = true := by
    intro g own name member
    obtain ⟨r,inside,required,rfl⟩ := memNames.mp member
    exact held.goods g own r inside (typed ▸ required)
  have goodAt : ∀ i g, (invoice.header.sg.getD [])[i]? = some g → ∀ name,
      (invoice.wireDict.good i name).isSome = (g.modelDump.has name && !g.modelDump.blank name) := by
    intro i g found name
    cases own : invoice.header.sg with
    | none => simp [own] at found
    | some all_ =>
      rw [own] at found
      exact goodShown own found name
  constructor
  · intro carried
    refine ⟨?_,?_,?_⟩
    · intro name member other
      have shown := carried.header name member other
      rw [headerShown,header name member] at shown
      simpa using shown
    · intro item own name member
      obtain ⟨i,found⟩ := List.mem_iff_getElem?.mp own
      have shown := carried.lines i (List.getElem?_eq_some_iff.mp found).1 name member
      rw [lineShown found,lines item own name member] at shown
      simpa using shown
    · intro g own name member
      obtain ⟨i,found⟩ := List.mem_iff_getElem?.mp own
      have shown := carried.goods i (List.getElem?_eq_some_iff.mp found).1 name member
      rw [goodAt i g found,goods g own name member] at shown
      simpa using shown
  · intro inked
    refine ⟨?_,?_,?_⟩
    · intro name member other
      rw [headerShown,header name member,inked.header name member other]
      rfl
    · intro i small name member
      have found : invoice.body[i]? = some invoice.body[i] := List.getElem?_eq_getElem small
      have own := List.getElem_mem small
      rw [lineShown found,lines _ own name member,inked.lines _ own name member]
      rfl
    · intro i small name member
      have found := List.getElem?_eq_getElem small
      have own := List.getElem_mem small
      rw [goodAt i _ found,goods _ own name member,inked.goods _ own name member]
      rfl

theorem superfluous {invoice : Invoice} {spec : PatternSpec} {v : Violation} :
    v ∈ checkObligations invoice spec ∧ v.rule = "obligation.not_applicable" ↔
      ∃ r ∈ spec.header, r.forType invoice.header.inty = .notApplicable ∧
        invoice.header.modelDump.has r.name = true ∧ v = notApplicable r := by
  constructor
  · rintro ⟨member,own⟩
    simp only [checkObligations,List.mem_append,List.mem_flatten,List.mem_map] at member
    rcases member with ((⟨_,⟨r,here,rfl⟩,inside⟩ | inside) | ⟨_,⟨g,_,rfl⟩,inside⟩) | ⟨_,⟨item,_,rfl⟩,inside⟩
    · unfold checkHeaderField at inside
      split at inside
      · rename_i excluded
        split at inside
        · rename_i set_
          exact ⟨r,here,excluded,set_,List.mem_singleton.mp inside⟩
        · cases inside
      · cases inside
      · split at inside
        · cases List.mem_singleton.mp inside
          simp [missing] at own
        · cases inside
      · split at inside
        · cases inside
        · cases List.mem_singleton.mp inside
          simp [missing] at own
    · split at inside
      · cases List.mem_singleton.mp inside
        simp at own
      · cases inside
    · obtain ⟨r,_,rfl⟩ := List.mem_map.mp inside
      simp [missing] at own
    · obtain ⟨r,_,rfl⟩ := List.mem_map.mp inside
      simp [missing] at own
  · rintro ⟨r,here,excluded,set_,rfl⟩
    refine ⟨?_,rfl⟩
    simp only [checkObligations,List.mem_append,List.mem_flatten,List.mem_map]
    refine .inl (.inl (.inl ⟨_,⟨r,here,rfl⟩,?_⟩))
    simp [checkHeaderField,excluded,set_]

theorem shown {engine : RuleEngine} {invoice : Invoice} {spec : PatternSpec} {invoiceType : Int}
    (encoded : Encoded engine.rules invoice spec invoiceType) : Shown engine invoice ↔
      ∀ name ∈ names .notApplicable spec.header invoiceType, invoice.header.modelDump.blank name = false := by
  have blankSet : ∀ name, invoice.header.modelDump.blank name = true → invoice.header.modelDump.has name = true := by
    intro name blank
    rw [Dict.hasLookup]
    unfold Dict.blank at blank
    cases found : invoice.header.modelDump.lookup name with
    | none => simp [found] at blank
    | some v => rfl
  constructor
  · intro shown name member
    obtain ⟨r,here,excluded,rfl⟩ := memNames.mp member
    cases blank : invoice.header.modelDump.blank r.name with
    | false => rfl
    | true =>
      have found := superfluous.mpr ⟨r,here,encoded.typed ▸ excluded,blankSet _ blank,rfl⟩
      have seen := shown _ ((reportedBy encoded.pattern).mpr found.1).1 rfl
      rw [headerShown,show (notApplicable r).field = r.name from rfl,blank] at seen
      simp at seen
  · intro inked v member own
    have reported := (reportedBy encoded.pattern).mp ⟨member,by simp [own,rules]⟩
    obtain ⟨r,here,excluded,set_,rfl⟩ := superfluous.mp ⟨reported,own⟩
    have ink := inked r.name (memNames.mpr ⟨r,here,encoded.typed ▸ excluded,rfl⟩)
    rw [headerShown,show (notApplicable r).field = r.name from rfl,set_,ink]
    rfl

/- The two readings of a field agree except on blank texts: what is required and
counted as set is sent, and what is found superfluous is sent. -/
theorem presenceAgrees (engine : RuleEngine) (invoice : Invoice) (spec : PatternSpec) (invoiceType : Int)
    (encoded : Encoded engine.rules invoice spec invoiceType) :
    (errors (engine.validate invoice) = [] → (Carried spec invoiceType invoice ↔ Inked spec invoiceType invoice)) ∧
    (Shown engine invoice ↔
      ∀ name ∈ names .notApplicable spec.header invoiceType, invoice.header.modelDump.blank name = false) :=
  ⟨fun clean => carried encoded.typed ((errorsPassed encoded.pattern).mp clean),shown encoded⟩

theorem presenceAgreesOnce :
    (errors (Patterns.engine.validate Example.invoice) = [] →
      (Carried Patterns.pattern1 1 Example.invoice ↔ Inked Patterns.pattern1 1 Example.invoice)) ∧
    (Shown Patterns.engine Example.invoice ↔
      ∀ name ∈ names .notApplicable Patterns.pattern1.header 1, Example.invoice.header.modelDump.blank name = false) :=
  presenceAgrees Patterns.engine Example.invoice Patterns.pattern1 1 ⟨rfl,rfl,by decide⟩

/-! A seller's number of one space is there for the engine and gone on the wire; a
superfluous note of one space is reported and not sent. -/

def unsold : Invoice := { Example.invoice with header := { Example.header with tins := some " " } }

def noted : Invoice := { Example.invoice with header := { Example.header with an := some " " } }

theorem blankCounts : (Patterns.engine.validate unsold).ok = true ∧ ¬ Carried Patterns.pattern1 1 unsold ∧
    ¬ Shown Patterns.engine noted := by
  refine ⟨by decide +kernel,?_,?_⟩
  · intro carried
    have sent := carried.header "tins" (by decide +kernel) (by decide)
    rw [headerShown] at sent
    exact absurd sent (by decide +kernel)
  · intro shown
    have encoded : Encoded Patterns.engine.rules noted Patterns.pattern1 1 := ⟨rfl,rfl,by decide⟩
    have clean := (Obligations.shown encoded).mp shown "an" (by decide +kernel)
    exact absurd clean (by decide +kernel)

end Obligations
end Moadian
