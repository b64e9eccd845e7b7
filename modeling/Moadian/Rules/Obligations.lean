import Moadian.Rules.Engine

/-! The obligation matrix as a statement about an invoice, and what the engine's
traversal of it says when it finds nothing. -/
namespace Moadian

def Dict.blank (fields : Dict) (name : String) : Bool := (fields.lookup name).any Json.blankString

theorem Dict.hasLookup (fields : Dict) (name : String) : fields.has name = (fields.lookup name).isSome := by
  induction fields with
  | nil => rfl
  | cons f rest ih =>
    obtain ⟨k,v⟩ := f
    have tail : Dict.has ((k,v) :: rest) name = (k == name || Dict.has rest name) := rfl
    rw [tail,ih,List.lookup_cons]
    cases same : name == k with
    | true =>
      have eq : name = k := by simpa using same
      simp [eq]
    | false =>
      have other : (k == name) = false := by
        have differ : name ≠ k := by simpa using same
        simpa using differ.symm
      rw [other]
      rfl

theorem InvoiceHeader.hasField (h : InvoiceHeader) (name : String) :
    h.modelDump.has name = (h.fields.lookup name).join.isSome := by
  rw [Dict.hasLookup,modelDump,Json.lookupPresent (headerKeys h)]

theorem InvoiceBodyItem.hasField (item : InvoiceBodyItem) (name : String) :
    item.modelDump.has name = (item.fields.lookup name).join.isSome := by
  rw [Dict.hasLookup,modelDump,Json.lookupPresent (bodyKeys item)]

namespace Obligations
open RuleEngine Arithmetic

def names (obligation : Obligation) (rules : List FieldRule) (invoiceType : Int) : List String :=
  (rules.filter (fun r => r.forType (some invoiceType) = obligation)).map FieldRule.name

theorem memNames {obligation : Obligation} {rules : List FieldRule} {invoiceType : Int} {name : String} :
    name ∈ names obligation rules invoiceType ↔
      ∃ r ∈ rules, r.forType (some invoiceType) = obligation ∧ r.name = name := by
  simp [names,and_assoc]

/- An invoice under the rules of its pattern, with one of the types it has. -/
structure Encoded (rules : RuleSet) (invoice : Invoice) (spec : PatternSpec) (invoiceType : Int) : Prop where
  pattern : rules.pattern (patternNumber invoice) = some spec
  typed : invoice.header.inty = some invoiceType
  known : invoiceType ∈ spec.types

def Met (header fields : Dict) (invoiceType : Option Int) (r : FieldRule) : Prop :=
  match r.forType invoiceType with
  | .required => fields.has r.name = true
  | .conditional => r.applies header = true → fields.has r.name = true
  | .notApplicable => fields.has r.name = false
  | .optional => True

instance (header fields : Dict) (invoiceType : Option Int) (r : FieldRule) :
    Decidable (Met header fields invoiceType r) := by
  unfold Met
  split <;> infer_instance

theorem metHeader {header : Dict} {invoiceType : Option Int} {r : FieldRule} :
    checkHeaderField header invoiceType r = [] ↔ Met header header invoiceType r := by
  unfold checkHeaderField Met
  cases r.forType invoiceType with
  | required => cases header.has r.name <;> simp
  | optional => simp
  | conditional => cases header.has r.name <;> simp
  | notApplicable => cases header.has r.name <;> simp

theorem metLine {fields : Dict} {invoiceType : Option Int} {fieldPrefix : String} {index : Nat} {rules : List FieldRule} :
    checkLineFields fields invoiceType fieldPrefix index rules = [] ↔
      ∀ r ∈ rules, r.forType invoiceType = .required → fields.has r.name = true := by
  simp [checkLineFields]

theorem zipIdxNil {α β : Type} {f : α × Nat → List β} {p : α → Prop} (same : ∀ a i, f (a,i) = [] ↔ p a) {xs : List α} :
    (xs.zipIdx.map f).flatten = [] ↔ ∀ a ∈ xs, p a := by
  simp only [List.flatten_eq_nil_iff,List.forall_mem_map]
  constructor
  · intro none_ a member
    obtain ⟨i,here⟩ := List.mem_iff_getElem?.mp member
    exact (same a i).mp (none_ (a,i) (List.mem_zipIdx_iff_getElem?.mpr here))
  · rintro all_ ⟨a,i⟩ member
    exact (same a i).mpr (all_ a (List.mem_of_getElem? (List.mem_zipIdx_iff_getElem?.mp member)))

/- What finding nothing means: every section has its required fields, and the
header alone is held to the whole matrix. -/
structure Passed (invoice : Invoice) (spec : PatternSpec) : Prop where
  header : ∀ r ∈ spec.header, Met invoice.header.modelDump invoice.header.modelDump invoice.header.inty r
  nonempty : invoice.body ≠ []
  goods : ∀ g ∈ invoice.header.sg.getD [], ∀ r ∈ spec.sg, r.forType invoice.header.inty = .required →
    g.modelDump.has r.name = true
  lines : ∀ item ∈ invoice.body, ∀ r ∈ spec.body, r.forType invoice.header.inty = .required →
    item.modelDump.has r.name = true

theorem passed {invoice : Invoice} {spec : PatternSpec} : checkObligations invoice spec = [] ↔ Passed invoice spec := by
  have body : (if invoice.body.isEmpty then [({
      field := "body", rule := "obligation.body_not_empty"
      message := "صورتحساب باید دست‌کم یک قلم کالا/خدمت داشته باشد."
      reference := "RC_IITP §7" } : Violation)] else []) = [] ↔ invoice.body ≠ [] := by
    cases invoice.body <;> simp
  have header : (spec.header.map (checkHeaderField invoice.header.modelDump invoice.header.inty)).flatten = [] ↔
      ∀ r ∈ spec.header, Met invoice.header.modelDump invoice.header.modelDump invoice.header.inty r := by
    simp only [List.flatten_eq_nil_iff,List.forall_mem_map]
    exact forall₂_congr (fun _ _ => metHeader)
  unfold checkObligations
  rw [List.append_eq_nil_iff,List.append_eq_nil_iff,List.append_eq_nil_iff,header,body,
    zipIdxNil (fun _ _ => metLine),zipIdxNil (fun _ _ => metLine)]
  exact ⟨fun ⟨⟨⟨h,b⟩,g⟩,l⟩ => ⟨h,b,g,l⟩,fun h => ⟨⟨⟨h.header,h.nonempty⟩,h.goods⟩,h.lines⟩⟩

/-! The traversal inside the whole report: no other check speaks in its name. -/

def rules : List String :=
  ["obligation.required","obligation.conditional","obligation.not_applicable","obligation.body_not_empty"]

def errors (report : ValidationReport) : List Violation := report.errors.filter (fun v => v.rule ∈ rules)

def Breaks (v : Violation) : Prop := v.severity = .error ∧ v.rule ∈ rules

theorem breaksHeaderField {header : Dict} {invoiceType : Option Int} {r : FieldRule} :
    ∀ v ∈ checkHeaderField header invoiceType r, Breaks v := by
  unfold checkHeaderField
  split <;> try split
  all_goals simp [Breaks,rules,notApplicable,missing]

theorem breaksLineFields {fields : Dict} {invoiceType : Option Int} {fieldPrefix : String} {index : Nat}
    {rules : List FieldRule} : ∀ v ∈ checkLineFields fields invoiceType fieldPrefix index rules, Breaks v := by
  intro v member
  obtain ⟨r,_,rfl⟩ := List.mem_map.mp member
  exact ⟨rfl,by simp [Obligations.rules,missing]⟩

theorem breaks {invoice : Invoice} {spec : PatternSpec} : ∀ v ∈ checkObligations invoice spec, Breaks v := by
  intro v member
  simp only [checkObligations,List.mem_append,List.mem_flatten,List.mem_map] at member
  rcases member with ((⟨_,⟨r,_,rfl⟩,inside⟩ | inside) | ⟨_,⟨g,_,rfl⟩,inside⟩) | ⟨_,⟨item,_,rfl⟩,inside⟩
  · exact breaksHeaderField v inside
  · split at inside
    · cases List.mem_singleton.mp inside
      exact ⟨rfl,by simp [rules]⟩
    · cases inside
  · exact breaksLineFields v inside
  · exact breaksLineFields v inside

-- What the other checks report under; the settlement is apart.
def otherRules : List String :=
  ["coverage.partial","enum.out_of_range","length.sstt","format.mu","format.mu_unverified",
    "arithmetic.prdis","arithmetic.prdis.positive","arithmetic.dis.non_negative","arithmetic.dis.at_most_prdis",
    "arithmetic.adis","arithmetic.adis.non_negative","arithmetic.vra.non_negative","arithmetic.vra.zero_for_pattern",
    "arithmetic.vam","arithmetic.tsstam","arithmetic.tprdis","arithmetic.tdis","arithmetic.tadis","arithmetic.tvam",
    "arithmetic.tbill","arithmetic.todam","arithmetic.tprdis.positive"]

theorem otherAside : ∀ rule ∈ otherRules, rule ∉ rules := by decide

section Traversal
variable {N : Type} {F : Numbers N}

theorem lineOther (item : InvoiceBodyItem) (index : Nat) (pattern : Int) :
    ∀ v ∈ F.checkLine item index pattern, v.rule ∈ otherRules := by
  unfold Numbers.checkLine
  split <;> simp only [List.forall_mem_append,wheneverAll,List.forall_mem_singleton] <;> simp [otherRules]

theorem totalsOther (invoice : Invoice) : ∀ v ∈ F.checkTotals invoice, v.rule ∈ otherRules := by
  simp only [Numbers.checkTotals,Numbers.checkTotal,List.forall_mem_append,wheneverAll]
  simp [otherRules]

theorem settlementAside (invoice : Invoice) : ∀ v ∈ F.checkSettlement invoice, v.rule ∉ rules := by
  unfold Numbers.checkSettlement
  split
  · simp
  · split
    · simp [rules]
    · split
      · simp
      · unfold Numbers.checkSplit Numbers.splitRequired
        split <;> simp only [List.forall_mem_append,wheneverAll] <;> simp [rules]

theorem enumsOther (all : RuleSet) (invoice : Invoice) : ∀ v ∈ checkEnums F all invoice, v.rule ∈ otherRules := by
  intro v member
  simp only [checkEnums,List.mem_flatten,List.mem_map] at member
  obtain ⟨_,⟨r,_,rfl⟩,inside⟩ := member
  split at inside
  · cases inside
  · split at inside
    · cases inside
    · cases List.mem_singleton.mp inside
      simp [otherRules]

theorem ssttOther (item : InvoiceBodyItem) (index : Nat) : ∀ v ∈ checkSstt item index, v.rule ∈ otherRules := by
  unfold checkSstt
  split <;> try split
  all_goals simp [otherRules]

theorem muOther (item : InvoiceBodyItem) (index : Nat) : ∀ v ∈ checkMu item index, v.rule ∈ otherRules := by
  unfold checkMu
  split
  · simp
  · dsimp only
    split
    · simp
    · split <;> try split
      all_goals simp [otherRules]

theorem lengthsOther (invoice : Invoice) : ∀ v ∈ checkLengths invoice, v.rule ∈ otherRules := by
  intro v member
  simp only [checkLengths,List.mem_flatten,List.mem_map] at member
  obtain ⟨_,⟨item,_,rfl⟩,inside⟩ := member
  rcases List.mem_append.mp inside with described | measured
  · exact ssttOther _ _ v described
  · exact muOther _ _ v measured

theorem reported {engine : RuleEngine} {invoice : Invoice} {spec : PatternSpec}
    (pattern : engine.rules.pattern (patternNumber invoice) = some spec) :
    ∀ v ∈ (engine.report F invoice).violations,
      v ∈ checkObligations invoice spec ∨ v ∈ F.checkSettlement invoice ∨ v.rule ∈ otherRules := by
  intro v member
  simp only [report,checkPattern,pattern,Numbers.checkArithmetic,List.mem_append,List.mem_flatten,List.mem_map] at member
  rcases member with (((inside | partial_) | enums) | lengths) | (⟨_,⟨item,_,rfl⟩,inside⟩ | totals) | settlement
  · exact .inl inside
  · split at partial_
    · cases partial_
    · cases List.mem_singleton.mp partial_
      exact .inr (.inr (by simp [otherRules]))
  · exact .inr (.inr (enumsOther _ _ v enums))
  · exact .inr (.inr (lengthsOther _ v lengths))
  · exact .inr (.inr (lineOther _ _ _ v inside))
  · exact .inr (.inr (totalsOther _ v totals))
  · exact .inr (.inl settlement)

/- The findings of a report under one of the matrix's rules are those of the
traversal. -/
theorem reportedBy {engine : RuleEngine} {invoice : Invoice} {spec : PatternSpec}
    (pattern : engine.rules.pattern (patternNumber invoice) = some spec) {v : Violation} :
    v ∈ (engine.report F invoice).violations ∧ v.rule ∈ rules ↔ v ∈ checkObligations invoice spec := by
  constructor
  · rintro ⟨member,own⟩
    rcases reported pattern v member with inside | settlement | other
    · exact inside
    · exact absurd own (settlementAside invoice v settlement)
    · exact absurd own (otherAside _ other)
  · intro member
    simp only [report,checkPattern,pattern,List.mem_append]
    exact ⟨.inl (.inl (.inl (.inl member))),(breaks v member).2⟩

theorem errorsPassed {engine : RuleEngine} {invoice : Invoice} {spec : PatternSpec}
    (pattern : engine.rules.pattern (patternNumber invoice) = some spec) :
    errors (engine.report F invoice) = [] ↔ Passed invoice spec := by
  rw [← passed,List.eq_nil_iff_forall_not_mem,List.eq_nil_iff_forall_not_mem]
  refine forall_congr' (fun v => not_congr ?_)
  rw [← reportedBy (F := F) pattern]
  simp only [errors,ValidationReport.errors,List.mem_filter,decide_eq_true_eq]
  constructor
  · rintro ⟨⟨member,_⟩,own⟩
    exact ⟨member,own⟩
  · rintro ⟨member,own⟩
    exact ⟨⟨member,(breaks v ((reportedBy pattern).mp ⟨member,own⟩)).1⟩,own⟩

theorem passedOfOk {engine : RuleEngine} {invoice : Invoice} {spec : PatternSpec}
    (pattern : engine.rules.pattern (patternNumber invoice) = some spec)
    (ok : (engine.report F invoice).ok = true) : Passed invoice spec := by
  have none_ : (engine.report F invoice).errors = [] := by simpa [ValidationReport.ok] using ok
  exact (errorsPassed pattern).mp (by rw [errors,none_]; rfl)

end Traversal
end Obligations
end Moadian
