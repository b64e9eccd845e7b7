import Moadian.Rules.Doubles
import Moadian.Rules.Obligations
import Moadian.Rules.Patterns

/-! The matrix against the arithmetic: what the money rules hold against a field that
the matrix keeps out and the invoice leaves out. -/
namespace Moadian

namespace Arithmetic

theorem wheneverSome {P : Violation → Prop} {broken : Bool} {x : Violation} :
    (∃ v ∈ whenever broken x, P v) ↔ broken = true ∧ P x := by
  cases broken <;> simp [whenever]

theorem someAppend {P : Violation → Prop} {xs ys : List Violation} :
    (∃ v ∈ xs ++ ys, P v) ↔ (∃ v ∈ xs, P v) ∨ ∃ v ∈ ys, P v := by
  simp only [List.mem_append,or_and_right,exists_or]

section Subjects
variable {N : Type} {F : Numbers N}

/-! Whose findings they are. -/

theorem lineOwn (item : InvoiceBodyItem) (index : Nat) (pattern : Int) :
    ∀ v ∈ F.checkLine item index pattern, v.severity = .error ∧ v.line = some index := by
  unfold Numbers.checkLine
  split <;> simp only [List.forall_mem_append,wheneverAll,List.forall_mem_singleton] <;> simp

theorem totalsOwn (invoice : Invoice) : ∀ v ∈ F.checkTotals invoice, v.severity = .error ∧ v.line = none := by
  simp only [Numbers.checkTotals,Numbers.checkTotal,List.forall_mem_append,wheneverAll]
  simp

theorem splitOwn (header : InvoiceHeader) : ∀ v ∈ F.checkSplit header, v.severity = .error ∧ v.line = none := by
  unfold Numbers.checkSplit Numbers.splitRequired
  split <;> simp only [List.forall_mem_append,wheneverAll] <;> simp

theorem settlementOwn (invoice : Invoice) : ∀ v ∈ F.checkSettlement invoice, v.severity = .error ∧ v.line = none := by
  unfold Numbers.checkSettlement
  split
  · simp
  · split
    · simp
    · split
      · simp
      · exact splitOwn invoice.header

/-! The subjects of a line, of the totals and of the settlement. -/

def lineFields : List String := ["prdis","dis","adis","vra","vam","tsstam"]

def totalFields : List String := ["tprdis","tdis","tadis","tvam","tbill","todam"]

theorem lineSubjects {item : InvoiceBodyItem} {index : Nat} {pattern : Int} :
    ∀ v ∈ F.checkLine item index pattern, v.field ∈ lineFields := by
  unfold Numbers.checkLine
  split <;> simp only [List.forall_mem_append,wheneverAll,List.forall_mem_singleton] <;> simp [lineFields]

theorem totalsSubjects {invoice : Invoice} : ∀ v ∈ F.checkTotals invoice, v.field ∈ totalFields := by
  simp only [Numbers.checkTotals,Numbers.checkTotal,List.forall_mem_append,wheneverAll]
  simp [totalFields]

theorem blamesTprdis (zero : F.atMost F.zero F.zero = true) {invoice : Invoice} (unset : invoice.header.tprdis = none) :
    ∃ v ∈ F.checkTotals invoice, v.field = "tprdis" := by
  have nothing : F.rial invoice.header.tprdis = F.zero := by rw [unset]; rfl
  simp only [Numbers.checkTotals,Numbers.checkTotal,someAppend,wheneverSome]
  simp [nothing,zero]

theorem splitSubjects {header : InvoiceHeader} : ∀ v ∈ F.checkSplit header, v.field ∈ ["cap","insp"] := by
  unfold Numbers.checkSplit Numbers.splitRequired
  split <;> simp only [List.forall_mem_append,wheneverAll] <;> simp

theorem blamesSplit {header : InvoiceHeader} :
    (header.cap = none → ∃ v ∈ F.checkSplit header, v.field = "cap") ∧
    (header.insp = none → ∃ v ∈ F.checkSplit header, v.field = "insp") := by
  unfold Numbers.checkSplit Numbers.splitRequired
  constructor
  · intro unset
    split <;> simp only [someAppend,wheneverSome] <;> simp [unset]
  · intro unset
    split <;> simp only [someAppend,wheneverSome] <;> simp [unset]

-- The split is asked for under one method only, and the method itself is blamed when it is set.
theorem settlementSplit {invoice : Invoice} {name : String} (other : name ≠ "setm") :
    (∃ v ∈ F.checkSettlement invoice, v.field = name) ↔
      invoice.header.setm = some 3 ∧ ∃ v ∈ F.checkSplit invoice.header, v.field = name := by
  unfold Numbers.checkSettlement
  split
  · rename_i unset
    simp [unset]
  · rename_i setm given
    rw [given]
    split
    · rename_i unknown
      have known : setm ≠ 3 := by
        rintro rfl
        simp at unknown
      simp [known,other.symm]
    · split
      · rename_i known
        simp [known]
      · rename_i split_
        have same : setm = 3 := not_not.mp split_
        simp [same]

theorem settlementSubjects {invoice : Invoice} :
    ∀ v ∈ F.checkSettlement invoice, v.field = "setm" ∧ invoice.header.setm ≠ none ∨ v.field ∈ ["cap","insp"] := by
  unfold Numbers.checkSettlement
  split
  · simp
  · rename_i setm given
    split
    · simp [given]
    · split
      · simp
      · exact fun v member => .inr (splitSubjects v member)

end Subjects

theorem exactZero : exact.atMost exact.zero exact.zero = true := by decide +kernel

theorem doublesZero (s : Double.Summation) : (doubles s).atMost (doubles s).zero (doubles s).zero = true := by
  cases s <;> decide +kernel

end Arithmetic

namespace Obligations
open RuleEngine Arithmetic
open Double (Summation)

/-! A field left out as the matrix wants it, and blamed all the same. -/

def HeaderBlamed (vs : List Violation) (name : String) : Prop :=
  ∃ v ∈ vs, v.severity = .error ∧ v.line = none ∧ v.field = name

def LineBlamed (vs : List Violation) (index : Nat) (name : String) : Prop :=
  ∃ v ∈ vs, v.severity = .error ∧ v.line = some index ∧ v.field = name

structure NeverBlamed (s : Summation) (spec : PatternSpec) (invoiceType : Int) (invoice : Invoice) : Prop where
  header : ∀ vs, checkDoubles s invoice spec.number = some vs →
    ∀ name ∈ names .notApplicable spec.header invoiceType, invoice.header.modelDump.has name = false → ¬ HeaderBlamed vs name
  lines : ∀ vs, checkDoubles s invoice spec.number = some vs → ∀ (index : Nat) item, invoice.body[index]? = some item →
    ∀ name ∈ names .notApplicable spec.body invoiceType, item.modelDump.has name = false → ¬ LineBlamed vs index name

theorem headerUnset (h : InvoiceHeader) :
    (h.modelDump.has "tprdis" = false ↔ h.tprdis = none) ∧ (h.modelDump.has "cap" = false ↔ h.cap = none) ∧
    (h.modelDump.has "insp" = false ↔ h.insp = none) ∧ (h.modelDump.has "setm" = false ↔ h.setm = none) := by
  simp [InvoiceHeader.hasField,InvoiceHeader.fields,List.lookup_cons]

section Blamed
variable {N : Type} {F : Numbers N} {invoice : Invoice} {pattern : Int} {name : String}

theorem headerBlamed : HeaderBlamed (F.checkArithmetic invoice pattern) name ↔
    (∃ v ∈ F.checkTotals invoice, v.field = name) ∨ ∃ v ∈ F.checkSettlement invoice, v.field = name := by
  constructor
  · rintro ⟨v,member,_,whole,own⟩
    simp only [Numbers.checkArithmetic,List.mem_append,List.mem_flatten,List.mem_map] at member
    rcases member with (⟨_,⟨⟨item,index⟩,_,rfl⟩,inside⟩ | inside) | inside
    · rw [(lineOwn item index pattern v inside).2] at whole
      cases whole
    · exact .inl ⟨v,inside,own⟩
    · exact .inr ⟨v,inside,own⟩
  · rintro (⟨v,inside,own⟩ | ⟨v,inside,own⟩)
    · obtain ⟨severe,whole⟩ := totalsOwn invoice v inside
      exact ⟨v,by simp [Numbers.checkArithmetic,inside],severe,whole,own⟩
    · obtain ⟨severe,whole⟩ := settlementOwn invoice v inside
      exact ⟨v,by simp [Numbers.checkArithmetic,inside],severe,whole,own⟩

theorem lineBlamed {index : Nat} (blamed : LineBlamed (F.checkArithmetic invoice pattern) index name) : name ∈ lineFields := by
  obtain ⟨v,member,_,here,rfl⟩ := blamed
  simp only [Numbers.checkArithmetic,List.mem_append,List.mem_flatten,List.mem_map] at member
  rcases member with (⟨_,⟨⟨item,i⟩,_,rfl⟩,inside⟩ | inside) | inside
  · exact lineSubjects v inside
  · rw [(totalsOwn invoice v inside).2] at here
    cases here
  · rw [(settlementOwn invoice v inside).2] at here
    cases here

theorem unsetBlamed (zero : F.atMost F.zero F.zero = true) (unset : invoice.header.tprdis = none) :
    HeaderBlamed (F.checkArithmetic invoice pattern) "tprdis" :=
  headerBlamed.mpr (.inl (blamesTprdis zero unset))

theorem splitBlamed (split_ : invoice.header.setm = some 3) (asked : name ∈ ["cap","insp"])
    (unset : invoice.header.modelDump.has name = false) : HeaderBlamed (F.checkArithmetic invoice pattern) name := by
  obtain ⟨_,cap,insp,_⟩ := headerUnset invoice.header
  simp only [List.mem_cons,List.not_mem_nil,or_false] at asked
  rcases asked with rfl | rfl
  · exact headerBlamed.mpr (.inr ((settlementSplit (by decide)).mpr ⟨split_,blamesSplit.1 (cap.mp unset)⟩))
  · exact headerBlamed.mpr (.inr ((settlementSplit (by decide)).mpr ⟨split_,blamesSplit.2 (insp.mp unset)⟩))

theorem blamedSplit (unset : invoice.header.modelDump.has name = false) (other : name ∉ totalFields)
    (blamed : HeaderBlamed (F.checkArithmetic invoice pattern) name) :
    name ∈ ["cap","insp"] ∧ invoice.header.setm = some 3 := by
  obtain ⟨_,_,_,setm⟩ := headerUnset invoice.header
  rcases headerBlamed.mp blamed with ⟨v,member,rfl⟩ | settled
  · exact absurd (totalsSubjects v member) other
  · have subject : name ∈ ["cap","insp"] := by
      obtain ⟨v,member,rfl⟩ := settled
      rcases settlementSubjects v member with ⟨same,given⟩ | split_
      · rw [same] at unset
        exact absurd (setm.mp unset) given
      · exact split_
    exact ⟨subject,((settlementSplit (by rintro rfl; simp at subject)).mp settled).1⟩

end Blamed

/- Outside the patterns 7 and 11 the matrix keeps out no amount that the rules speak of,
the split of the settlement apart. -/
theorem amountsApplicable : ∀ spec ∈ Patterns.rules.patterns, spec.number ∉ [7,11] → ∀ invoiceType ∈ spec.types,
    (∀ name ∈ totalFields, name ∉ names .notApplicable spec.header invoiceType) ∧
    ∀ name ∈ lineFields, name ∉ names .notApplicable spec.body invoiceType := by
  decide +kernel

theorem tprdisExcluded : ∀ spec ∈ Patterns.rules.patterns, spec.number ∈ [7,11] → ∀ invoiceType ∈ spec.types,
    "tprdis" ∈ names .notApplicable spec.header invoiceType := by
  decide +kernel

theorem checked {s : Summation} {invoice : Invoice} {pattern : Int} {vs : List Violation}
    (found : checkDoubles s invoice pattern = some vs) : vs = (doubles s).checkArithmetic invoice pattern := by
  unfold checkDoubles at found
  split at found
  · exact (Option.some.inj found).symm
  · cases found

def SplitSet (spec : PatternSpec) (invoiceType : Int) (invoice : Invoice) : Prop :=
  invoice.header.setm = some 3 → ∀ name ∈ ["cap","insp"], name ∈ names .notApplicable spec.header invoiceType →
    invoice.header.modelDump.has name = true

/-! An invoice that obeys the matrix in every section. -/

def Obeys (spec : PatternSpec) (invoiceType : Int) (invoice : Invoice) : Prop :=
  (∀ r ∈ spec.header, Met invoice.header.modelDump invoice.header.modelDump (some invoiceType) r) ∧
  (∀ item ∈ invoice.body, ∀ r ∈ spec.body, Met invoice.header.modelDump item.modelDump (some invoiceType) r) ∧
  (∀ g ∈ invoice.header.sg.getD [], ∀ r ∈ spec.sg, Met invoice.header.modelDump g.modelDump (some invoiceType) r) ∧
  ∀ p ∈ invoice.payments, ∀ r ∈ spec.payment, Met invoice.header.modelDump p.modelDump (some invoiceType) r

instance (spec : PatternSpec) (invoiceType : Int) (invoice : Invoice) : Decidable (Obeys spec invoiceType invoice) := by
  unfold Obeys
  infer_instance

/- No discount and no tax, so that the same amounts serve a quantity of one under
every formula; what a pattern wants beside them is added to it. -/
def plainLine : InvoiceBodyItem := {
  sstid := "2710000138624", am := some 1, fee := some 20000, prdis := some 20000, dis := some 0, adis := some 20000
  vra := some 0, vam := some 0, tsstam := some 20000 }

def plainHeader (pattern : Int) : InvoiceHeader := {
  indatim := 1683997837988, ins := 1, inty := some 1, inp := some pattern, tins := some "14003778990", tob := some 2
  tprdis := some 20000, tadis := some 20000, tvam := some 0, todam := some 0, tbill := some 20000, setm := some 1 }

def plain (pattern : Int) : Invoice := ⟨plainHeader pattern,[plainLine],[],none⟩

def currency : Invoice := { plain 2 with body := [{
  plainLine with am := none, fee := none, cfee := some 2, cut := some "USD", exr := some 10000, cpr := some 1
                 sovat := some 0 }] }

def gold : Invoice :=
  { plain 3 with body := [{ plainLine with consfee := some 0, spro := some 0, bros := some 0, tcpbs := some 0 }] }

def waybill : Invoice := { plain 8 with header := {
  plainHeader 8 with lno := some "1", ocu := some "IR", dco := some "IR", tid := some "1", lt := some 1
                     cno := some "1", sg := some [⟨some "1",some "1"⟩] } }

def obeying : Int → Invoice
  | 2 => currency
  | 3 => gold
  | 4 => { plain 4 with header := { plainHeader 4 with crn := some "1" } }
  | 5 => { plain 5 with header := { plainHeader 5 with billid := some "1" } }
  | 6 => { plain 6 with header := { plainHeader 6 with ft := some 1 } }
  | 8 => waybill
  | 13 => { plain 13 with header := { plainHeader 13 with in_ := some "1" } }
  | 14 => { plain 14 with header := { plainHeader 14 with tinb := some "1" } }
  | pattern => plain pattern

theorem encodedSelf : ∀ spec ∈ Patterns.rules.patterns, Patterns.rules.pattern spec.number = some spec := by
  simp only [Patterns.rules,List.forall_mem_cons]
  exact ⟨rfl,rfl,rfl,rfl,rfl,rfl,rfl,rfl,rfl,rfl,rfl,rfl,List.forall_mem_nil _⟩

theorem numbered : ∀ spec ∈ Patterns.rules.patterns, spec.number ≠ 0 := by decide

def Accepted (s : Summation) (invoice : Invoice) : Prop :=
  (Patterns.engine.validateDoubles s invoice).any ValidationReport.ok = true

instance (s : Summation) (invoice : Invoice) : Decidable (Accepted s invoice) := inferInstanceAs (Decidable (_ = true))

theorem accepted {s : Summation} {invoice : Invoice} (ok : Accepted s invoice) :
    (Patterns.engine.report (doubles s) invoice).ok = true := by
  unfold Accepted RuleEngine.validateDoubles at ok
  dsimp only at ok
  split at ok
  · exact ok
  · cases ok

theorem obeyingAccepted (s : Summation) : ∀ spec ∈ Patterns.rules.patterns, spec.number ∉ [7,11] →
    patternNumber (obeying spec.number) = spec.number ∧ (obeying spec.number).header.inty = some 1 ∧ 1 ∈ spec.types ∧
    Obeys spec 1 (obeying spec.number) ∧ Accepted s (obeying spec.number) := by
  cases s <;> decide +kernel

theorem unsetRefused {N : Type} {F : Numbers N} (zero : F.atMost F.zero F.zero = true) {engine : RuleEngine}
    {invoice : Invoice} (unset : invoice.header.tprdis = none) : (engine.report F invoice).ok = false := by
  obtain ⟨v,member,_⟩ := blamesTprdis zero unset
  have severe := (totalsOwn invoice v member).1
  have reported : v ∈ (engine.report F invoice).errors := by
    simp only [ValidationReport.errors,List.mem_filter,report,Numbers.checkArithmetic,List.mem_append,severe]
    exact ⟨.inr (.inl (.inr member)),rfl⟩
  cases ok : (engine.report F invoice).ok with
  | false => rfl
  | true =>
    have none_ : (engine.report F invoice).errors = [] := by simpa [ValidationReport.ok] using ok
    rw [none_] at reported
    cases reported

theorem acceptedPassed {s : Summation} {spec : PatternSpec} {invoiceType : Int} {invoice : Invoice}
    (encoded : Encoded Patterns.rules invoice spec invoiceType) (ok : Accepted s invoice) : Passed invoice spec :=
  passedOfOk (F := doubles s) encoded.pattern (accepted ok)

-- Set, the total is out of place; unset, it is not positive.
theorem neverAccepted {s : Summation} {spec : PatternSpec} (member : spec ∈ Patterns.rules.patterns)
    (number : spec.number ∈ [7,11]) {invoiceType : Int} {invoice : Invoice}
    (encoded : Encoded Patterns.rules invoice spec invoiceType) : ¬ Accepted s invoice := by
  intro ok
  obtain ⟨r,inside,excluded,own⟩ := memNames.mp (tprdisExcluded spec member number invoiceType encoded.known)
  have met := (acceptedPassed encoded ok).header r inside
  rw [Met,encoded.typed,excluded] at met
  have refused := @unsetRefused _ _ (doublesZero s) Patterns.engine _ ((headerUnset invoice.header).1.mp (own ▸ met))
  rw [accepted ok] at refused
  cases refused

/-! An invoice of next to nothing: the arithmetic reads it without raising, and blames it. -/

def bare (pattern invoiceType : Int) (setm : Option Int) : Invoice :=
  ⟨{ indatim := 0, ins := 1, inty := some invoiceType, inp := some pattern, setm := setm },[],[],none⟩

theorem bareEncoded {spec : PatternSpec} (member : spec ∈ Patterns.rules.patterns) {invoiceType : Int}
    (known : invoiceType ∈ spec.types) (setm : Option Int) :
    Encoded Patterns.rules (bare spec.number invoiceType setm) spec invoiceType := by
  refine ⟨?_,rfl,known⟩
  have number : patternNumber (bare spec.number invoiceType setm) = spec.number := if_neg (numbered spec member)
  rw [number]
  exact encodedSelf spec member

theorem bareChecked (s : Summation) (pattern invoiceType : Int) {setm : Option Int} (small : setm ∈ [none,some 3]) :
    checkDoubles s (bare pattern invoiceType setm) pattern =
      some ((doubles s).checkArithmetic (bare pattern invoiceType setm) pattern) := by
  have zero : Double.converts 0 = true := by decide +kernel
  refine if_pos ?_
  simp only [List.mem_cons,List.not_mem_nil,or_false] at small
  rcases small with rfl | rfl <;> simp [convert,reads,settlementReads,bare,zero]

/- The matrix and the arithmetic: for which patterns and types no excluded field is ever
blamed for being left out, what decides outside the patterns 7 and 11, what is blamed in
them, and for which patterns both can be had at once. -/
structure Concord (s : Summation) (spec : PatternSpec) : Prop where
  ever : ∀ invoiceType ∈ spec.types,
    (∀ invoice, Encoded Patterns.rules invoice spec invoiceType → NeverBlamed s spec invoiceType invoice) ↔
      spec.number ∉ [7,11] ∧ ∀ name ∈ ["cap","insp"], name ∉ names .notApplicable spec.header invoiceType
  outside : spec.number ∉ [7,11] → ∀ invoiceType invoice vs, Encoded Patterns.rules invoice spec invoiceType →
    checkDoubles s invoice spec.number = some vs →
      (NeverBlamed s spec invoiceType invoice ↔ SplitSet spec invoiceType invoice)
  within : spec.number ∈ [7,11] → ∀ invoiceType invoice vs, Encoded Patterns.rules invoice spec invoiceType →
    checkDoubles s invoice spec.number = some vs → invoice.header.tprdis = none → ¬ NeverBlamed s spec invoiceType invoice
  acceptable : (∃ invoiceType invoice, Encoded Patterns.rules invoice spec invoiceType ∧ Obeys spec invoiceType invoice ∧
    Accepted s invoice) ↔ spec.number ∉ [7,11]

section Spec
variable {s : Summation} {spec : PatternSpec} {invoiceType : Int} {invoice : Invoice} {vs : List Violation}

theorem splitSpared (member : spec ∈ Patterns.rules.patterns) (number : spec.number ∉ [7,11])
    (known : invoiceType ∈ spec.types) (set_ : SplitSet spec invoiceType invoice) : NeverBlamed s spec invoiceType invoice := by
  obtain ⟨totals,amounts⟩ := amountsApplicable spec member number invoiceType known
  refine ⟨fun vs found name excluded unset blamed => ?_,fun vs found index item _ name excluded _ blamed => ?_⟩
  · rw [checked found] at blamed
    obtain ⟨asked,split_⟩ := blamedSplit unset (fun total => totals name total excluded) blamed
    rw [set_ split_ name asked excluded] at unset
    cases unset
  · rw [checked found] at blamed
    exact amounts name (lineBlamed blamed) excluded

theorem splitNeeded (found : checkDoubles s invoice spec.number = some vs) (never : NeverBlamed s spec invoiceType invoice) :
    SplitSet spec invoiceType invoice := by
  intro split_ name asked excluded
  cases set_ : invoice.header.modelDump.has name with
  | true => rfl
  | false =>
    refine absurd ?_ (never.header vs found name excluded set_)
    rw [checked found]
    exact splitBlamed split_ asked set_

theorem unsetBlames (member : spec ∈ Patterns.rules.patterns) (number : spec.number ∈ [7,11])
    (known : invoiceType ∈ spec.types) (found : checkDoubles s invoice spec.number = some vs)
    (unset : invoice.header.tprdis = none) : ¬ NeverBlamed s spec invoiceType invoice := by
  intro never
  refine never.header vs found "tprdis" (tprdisExcluded spec member number invoiceType known)
    ((headerUnset invoice.header).1.mpr unset) ?_
  rw [checked found]
  exact unsetBlamed (doublesZero s) unset

end Spec

theorem matrixArithmetic (s : Summation) (spec : PatternSpec) (member : spec ∈ Patterns.rules.patterns) : Concord s spec where
  ever := by
    intro invoiceType known
    constructor
    · intro never
      refine ⟨fun number => ?_,fun name asked excluded => ?_⟩
      · exact unsetBlames member number known (bareChecked s spec.number invoiceType (by simp)) rfl
          (never _ (bareEncoded member known none))
      · have found := @bareChecked s spec.number invoiceType (some 3) (by simp)
        have set_ := splitNeeded found (never _ (bareEncoded member known (some 3))) rfl name asked excluded
        simp only [List.mem_cons,List.not_mem_nil,or_false] at asked
        rcases asked with rfl | rfl <;> cases set_
    · rintro ⟨number,applicable⟩ invoice encoded
      exact splitSpared member number known (fun _ name asked excluded => absurd excluded (applicable name asked))
  outside := fun number _ _ _ encoded found => ⟨splitNeeded found,splitSpared member number encoded.known⟩
  within := fun number _ _ _ encoded found unset => unsetBlames member number encoded.known found unset
  acceptable := by
    constructor
    · rintro ⟨invoiceType,invoice,encoded,_,ok⟩ number
      exact neverAccepted member number encoded ok
    · intro number
      obtain ⟨pattern,typed,known,obeys,ok⟩ := obeyingAccepted s spec member number
      exact ⟨1,obeying spec.number,⟨by rw [pattern]; exact encodedSelf spec member,typed,known⟩,obeys,ok⟩

theorem matrixArithmeticSale : Concord .compensated Patterns.pattern1 :=
  matrixArithmetic .compensated Patterns.pattern1 (by simp [Patterns.rules])

/-! An export as the matrix wants it: blamed for the totals it must not state. -/

def exported : Invoice where
  header := {
    indatim := 1683997837988, ins := 1, inty := some 1, inp := some 7, tins := some "14003778990", tvam := some 0
    todam := some 0, tbill := some 20000, torv := some 20000, tocv := some 2, setm := some 1 }
  body := [{
    sstid := "2710000138624", am := some 1, cut := some "USD", exr := some 10000, ssrv := some 20000, sscv := some 2
    vra := some 0, vam := some 0, tsstam := some 20000 }]

theorem exportBlamed : Encoded Patterns.rules exported Patterns.pattern7 1 ∧ Obeys Patterns.pattern7 1 exported ∧
    ¬ NeverBlamed .compensated Patterns.pattern7 1 exported ∧
    ¬ ∃ invoiceType invoice, Encoded Patterns.rules invoice Patterns.pattern7 invoiceType ∧
      Obeys Patterns.pattern7 invoiceType invoice ∧ Accepted .compensated invoice := by
  have member : Patterns.pattern7 ∈ Patterns.rules.patterns := by simp [Patterns.rules]
  have found : checkDoubles .compensated exported 7 = some ((doubles .compensated).checkArithmetic exported 7) :=
    if_pos (by decide +kernel)
  refine ⟨⟨rfl,rfl,by decide⟩,by decide +kernel,unsetBlames member (by decide) (by decide) found rfl,?_⟩
  rintro ⟨invoiceType,invoice,encoded,_,ok⟩
  exact neverAccepted member (by decide) encoded ok

end Obligations
end Moadian
