import Moadian.Rules.Concord

/-! What `recompute` does to the matrix: it sets every derived field, so what it adds
is never missing, and is out of place wherever the pattern has no such field. -/
namespace Moadian

def derivedTotals : List String := ["tprdis","tdis","tadis","tvam","todam","tbill"]

theorem lookupKept (fields fields' : List (String × Option Json)) (changed : List String)
    (same : fields'.filter (fun f => f.1 ∉ changed) = fields.filter (fun f => f.1 ∉ changed)) {name : String}
    (kept : name ∉ changed) : fields'.lookup name = fields.lookup name := by
  have apart : ∀ all : List (String × Option Json), (all.filter (fun f => f.1 ∉ changed)).lookup name = all.lookup name := by
    intro all
    induction all with
    | nil => rfl
    | cons f rest ih =>
      obtain ⟨k,v⟩ := f
      by_cases out : k ∈ changed
      · have differ : (name == k) = false := by
          rw [beq_eq_false_iff_ne]
          rintro rfl
          exact kept out
        rw [List.filter_cons_of_neg (by simp [out]),List.lookup_cons,differ,ih]
      · rw [List.filter_cons_of_pos (by simp [out]),List.lookup_cons,List.lookup_cons,ih]
  rw [← apart fields',same,apart fields]

namespace Numbers
variable {N : Type} {F : Numbers N} {round : N → Int} {invoice : Invoice} {pattern : Int} {item : InvoiceBodyItem} {name : String}

theorem totalsSet (derived : name ∈ derivedTotals) : (F.recompute round invoice pattern).header.modelDump.has name = true := by
  rw [InvoiceHeader.hasField]
  simp only [derivedTotals,List.mem_cons,List.not_mem_nil,or_false] at derived
  rcases derived with rfl | rfl | rfl | rfl | rfl | rfl <;> rfl

theorem headerKept (kept : name ∉ derivedTotals) :
    (F.recompute round invoice pattern).header.fields.lookup name = invoice.header.fields.lookup name :=
  lookupKept invoice.header.fields (F.recompute round invoice pattern).header.fields derivedTotals rfl kept

theorem lineGrows (set_ : item.modelDump.has name = true) : (F.recomputeLine round pattern item).modelDump.has name = true := by
  rw [InvoiceBodyItem.hasField] at set_ ⊢
  by_cases derived : name ∈ ["prdis","adis","vam","tsstam"]
  · simp only [List.mem_cons,List.not_mem_nil,or_false] at derived
    rcases derived with rfl | rfl | rfl | rfl <;> rfl
  · rw [lookupKept item.fields (F.recomputeLine round pattern item).fields ["prdis","adis","vam","tsstam"] rfl derived]
    exact set_

end Numbers

namespace Obligations
open RuleEngine Arithmetic Numbers
open Double (Summation)

/-! The matrix of every encoded pattern, for every type. -/

structure Derives (spec : PatternSpec) : Prop where
  numbered : spec.number ≠ 0
  applicable : spec.number ∉ [7,11] → ∀ r ∈ spec.header, r.name ∈ derivedTotals →
    r.obligation ≠ .notApplicable ∧ ∀ entry ∈ r.byType, entry.2 ≠ .notApplicable
  excluded : spec.number ∈ [7,11] → ∃ r ∈ spec.header,
    r.name = "tprdis" ∧ r.obligation = .notApplicable ∧ r.byType = []

set_option synthInstance.maxSize 512 in
theorem derives : ∀ spec ∈ Patterns.rules.patterns, Derives spec := by
  have facts : ∀ spec ∈ Patterns.rules.patterns, spec.number ≠ 0 ∧
      (spec.number ∉ [7,11] → ∀ r ∈ spec.header, r.name ∈ derivedTotals →
        r.obligation ≠ .notApplicable ∧ ∀ entry ∈ r.byType, entry.2 ≠ .notApplicable) ∧
      (spec.number ∈ [7,11] → ∃ r ∈ spec.header, r.name = "tprdis" ∧ r.obligation = .notApplicable ∧ r.byType = []) := by
    decide +kernel
  intro spec member
  obtain ⟨numbered,applicable,excluded⟩ := facts spec member
  exact ⟨numbered,applicable,excluded⟩

theorem forTypeFrom (r : FieldRule) (invoiceType : Option Int) :
    r.forType invoiceType = r.obligation ∨ ∃ entry ∈ r.byType, r.forType invoiceType = entry.2 := by
  cases invoiceType with
  | none => exact .inl rfl
  | some t =>
    cases found : r.byType.lookup t with
    | none => exact .inl (by rw [FieldRule.forType,found]; rfl)
    | some o =>
      exact .inr ⟨(t,o),Json.lookupMem found,by rw [FieldRule.forType,found]; rfl⟩

-- A condition reads the settlement, the subject or the kind of the invoice, which stay.
theorem appliesKept {header header' : Dict} (same : ∀ name ∈ ["setm","insr","ins"], header'.int name = header.int name)
    (r : FieldRule) : r.applies header' = r.applies header := by
  have conditions : ∀ w, ∀ p ∈ Spec.conditions.lookup w, p header' = p header := by
    intro w p found
    have member : (w,p) ∈ Spec.conditions := Json.lookupMem (Option.mem_def.mp found)
    simp only [Spec.conditions,List.mem_cons,List.not_mem_nil,or_false,Prod.mk.injEq] at member
    rcases member with ⟨_,rfl⟩ | ⟨_,rfl⟩ | ⟨_,rfl⟩ <;> simp [same]
  unfold FieldRule.applies
  split
  · rfl
  · split
    · rfl
    · split
      · rfl
      · split
        · rfl
        · rename_i p found
          exact conditions _ p found

section Refilled
variable {N : Type} {F : Numbers N} {round : N → Int} {invoice : Invoice} {pattern : Int} {spec : PatternSpec}

theorem hasKept {name : String} (kept : name ∉ derivedTotals) :
    (F.recompute round invoice pattern).header.modelDump.has name = invoice.header.modelDump.has name := by
  rw [InvoiceHeader.hasField,InvoiceHeader.hasField,headerKept kept]

theorem hasGrows {name : String} (set_ : invoice.header.modelDump.has name = true) :
    (F.recompute round invoice pattern).header.modelDump.has name = true := by
  by_cases derived : name ∈ derivedTotals
  · exact totalsSet derived
  · rw [hasKept derived]
    exact set_

theorem intKept {name : String} (kept : name ∉ derivedTotals) :
    (F.recompute round invoice pattern).header.modelDump.int name = invoice.header.modelDump.int name := by
  unfold Dict.int InvoiceHeader.modelDump
  rw [Json.lookupPresent (headerKeys _),Json.lookupPresent (headerKeys _),headerKept kept]

theorem metKept {rule : FieldRule} (applicable : rule.name ∈ derivedTotals →
      rule.obligation ≠ .notApplicable ∧ ∀ entry ∈ rule.byType, entry.2 ≠ .notApplicable)
    (met : Met invoice.header.modelDump invoice.header.modelDump invoice.header.inty rule) :
    Met (F.recompute round invoice pattern).header.modelDump (F.recompute round invoice pattern).header.modelDump
      (F.recompute round invoice pattern).header.inty rule := by
  have typed : (F.recompute round invoice pattern).header.inty = invoice.header.inty := rfl
  unfold Met at met ⊢
  rw [typed]
  cases obligation : rule.forType invoice.header.inty with
  | required =>
    rw [obligation] at met
    exact hasGrows met
  | optional => exact True.intro
  | conditional =>
    rw [obligation] at met
    intro applies
    rw [appliesKept (fun name member => intKept (by revert name; decide))] at applies
    exact hasGrows (met applies)
  | notApplicable =>
    rw [obligation] at met
    have kept : rule.name ∉ derivedTotals := by
      intro derived
      obtain ⟨stated,typed⟩ := applicable derived
      rcases forTypeFrom rule invoice.header.inty with same | ⟨entry,member,same⟩
      · exact stated (same.symm.trans obligation)
      · exact typed entry member (same.symm.trans obligation)
    exact (hasKept kept).trans met

theorem passedKept (member : spec ∈ Patterns.rules.patterns) (number : spec.number ∉ [7,11]) (held : Passed invoice spec) :
    Passed (F.recompute round invoice pattern) spec := by
  refine ⟨fun rule inside => ?_,fun empty => ?_,held.goods,fun item member' rule inside required => ?_⟩
  · exact metKept ((derives spec member).applicable number rule inside) (held.header rule inside)
  · exact held.nonempty (List.map_eq_nil_iff.mp empty)
  · obtain ⟨old,own,rfl⟩ := List.mem_map.mp member'
    exact lineGrows (held.lines old own rule inside required)

theorem notPassed (member : spec ∈ Patterns.rules.patterns) (number : spec.number ∈ [7,11]) :
    ¬ Passed (F.recompute round invoice pattern) spec := by
  intro held
  obtain ⟨rule,inside,name,excluded,untyped⟩ := (derives spec member).excluded number
  have stated : rule.forType (F.recompute round invoice pattern).header.inty = .notApplicable := by
    rcases forTypeFrom rule (F.recompute round invoice pattern).header.inty with same | ⟨entry,there,_⟩
    · exact same.trans excluded
    · rw [untyped] at there
      cases there
  have met := held.header rule inside
  rw [Met,stated,name,totalsSet (by decide)] at met
  contradiction

end Refilled

/-! What is read of the invoice that comes out. -/

theorem dueConverts {x : Double} (finite : x.isFinite = true) : Double.converts (nearestInt x) = true := by
  cases x with
  | finite value own => exact Double.toIntConverts (x := .finite value own) rfl
  | nan => cases finite
  | infinite _ => cases finite

theorem inputsRead {invoice : Invoice} {pattern : Int} (read : convert (reads invoice pattern) = true) :
    ∀ item ∈ invoice.body, convert (inputReads pattern item) = true := by
  intro item member
  simp only [convert,List.all_eq_true] at read ⊢
  intro value inside
  refine read value (List.mem_append_left _ (List.mem_append_left _ (List.mem_flatMap.mpr ⟨item,member,?_⟩)))
  rcases List.mem_append.mp inside with own | special
  · simp only [List.mem_cons,List.not_mem_nil,or_false] at own
    rcases own with rfl | rfl | rfl <;> simp [lineReads]
  · exact List.mem_append_right _ special

section Read
variable {s : Summation} {invoice : Invoice} {pattern : Int}

theorem lineReadsConvert {item : InvoiceBodyItem} (read : convert (lineReads pattern item) = true)
    (fits : ∀ x ∈ (doubles s).lineDues nearestInt pattern item, x.isFinite = true) :
    convert (lineReads pattern ((doubles s).recomputeLine nearestInt pattern item)) = true := by
  have due : ∀ x ∈ (doubles s).lineDues nearestInt pattern item, Double.converts (nearestInt x) = true :=
    fun x member => dueConverts (fits x member)
  simp only [lineDues,List.forall_mem_cons] at due
  obtain ⟨prdis,adis,vam,tsstam,_⟩ := due
  obtain ⟨own,special⟩ := convertAppend.mp read
  refine convertAppend.mpr ⟨?_,special⟩
  simp only [convert,List.all_cons,List.all_nil,Bool.and_true,Bool.and_eq_true] at own ⊢
  obtain ⟨_,dis,_,_,odam,olam,_⟩ := own
  exact ⟨prdis,dis,adis,vam,odam,olam,tsstam⟩

theorem readsConvert (read : convert (reads invoice pattern) = true) (fits : Fits s invoice pattern) :
    convert (reads ((doubles s).recompute nearestInt invoice pattern) pattern) = true := by
  obtain ⟨stated,settlement⟩ := convertAppend.mp read
  obtain ⟨lines,_⟩ := convertAppend.mp stated
  refine convertAppend.mpr ⟨convertAppend.mpr ⟨?_,?_⟩,settlement⟩
  · simp only [convert,List.all_eq_true,List.mem_flatMap] at lines ⊢
    rintro value ⟨item,member,inside⟩
    obtain ⟨old,there,rfl⟩ := List.mem_map.mp member
    have whole := @lineReadsConvert s pattern old (List.all_eq_true.mpr (fun value inside => lines value ⟨old,there,inside⟩))
      (fun x due => fits x (List.mem_append_left _ (List.mem_flatMap.mpr ⟨old,there,due⟩)))
    exact List.all_eq_true.mp whole value inside
  · have due := fun x member => dueConverts (fits x (List.mem_append_right _ member))
    simp only [List.forall_mem_cons] at due
    obtain ⟨tprdis,tdis,tadis,tvam,todam,tbill,_⟩ := due
    simp only [convert,List.all_cons,List.all_nil,Bool.and_true,Bool.and_eq_true]
    exact ⟨tprdis,tdis,tadis,tvam,tbill,todam⟩

end Read

theorem enumsKept {N : Type} {F : Numbers N} {round : N → Int} {invoice : Invoice} {pattern : Int} :
    enumReads Patterns.rules (F.recompute round invoice pattern) = enumReads Patterns.rules invoice := by
  have apart : ∀ r ∈ Patterns.rules.enums, r.name ∉ derivedTotals := by decide
  refine List.map_congr_left (fun r member => ?_)
  rw [intKept (apart r member)]

theorem validated {s : Summation} {invoice : Invoice} {pattern : Int} (own : patternNumber invoice = pattern) :
    Patterns.engine.validateDoubles s invoice =
      if convert (enumReads Patterns.rules invoice ++ reads invoice pattern) then
        some (Patterns.engine.report (doubles s) invoice)
      else none := by
  subst own
  rfl

-- A quantity and a price that are doubles, and their product is none.
example : ¬ Fits .compensated { plain 1 with body := [{ plainLine with am := some (10 ^ 200), fee := some (10 ^ 200) }] } 1 := by
  decide +kernel

end Obligations
end Moadian
