import Mathlib.Data.List.Nodup
import Moadian.Rules.Document
import Moadian.Rules.Obligations

/-! When a conditional obligation is reported: whatever document the rules come from,
and where an override makes a field conditional that by itself is not. -/
namespace Moadian.Document
open RuleEngine Obligations

theorem bindOk {α β : Type} {x : Except LoadError α} {f : α → Except LoadError β} {b : β} (h : x >>= f = .ok b) :
    ∃ a, x = .ok a ∧ f a = .ok b := by
  cases x with
  | error e => cases h
  | ok a => exact ⟨a,rfl,h⟩

theorem foldKeeps {α β : Type} {P : β → Prop} {step : β → α → Except LoadError β}
    (keeps : ∀ b a b', P b → step b a = .ok b' → P b') {xs : List α} {b b' : β} (start : P b)
    (ran : xs.foldlM step b = .ok b') : P b' := by
  induction xs generalizing b with
  | nil => cases ran; exact start
  | cons x rest ih =>
    obtain ⟨middle,first,later⟩ := bindOk ran
    exact ih (keeps b x middle start first) later

def Apart (rules : List FieldRule) : Prop := (rules.map FieldRule.name).Nodup

theorem apartOne {rules : List FieldRule} (apart : Apart rules) {r q : FieldRule} (left : r ∈ rules) (right : q ∈ rules)
    (same : r.name = q.name) : r = q :=
  List.inj_on_of_nodup_map apart left right same

theorem setRuleApart {rules : List FieldRule} (apart : Apart rules) (rule : FieldRule) : Apart (setRule rules rule) := by
  unfold setRule
  split
  · have names : (rules.map (fun r => if r.name = rule.name then rule else r)).map FieldRule.name =
        rules.map FieldRule.name := by
      rw [List.map_map]
      refine List.map_congr_left (fun r _ => ?_)
      simp only [Function.comp]
      split
      · rename_i same; exact same.symm
      · rfl
    rw [Apart,names]
    exact apart
  · rename_i new
    rw [Apart,List.map_append,List.map_singleton,List.nodup_append]
    refine ⟨apart,List.nodup_singleton _,fun name member own last same => new ?_⟩
    obtain ⟨r,inside,rfl⟩ := List.mem_map.mp member
    rw [List.mem_singleton.mp last] at same
    exact List.any_eq_true.mpr ⟨r,inside,decide_eq_true same⟩

section Load
variable {py : Python}

theorem fieldRulesApart {raw defaultReference : Yaml} {section_ : String} {pattern : Int} {rules : List FieldRule}
    (read : fieldRules py raw section_ pattern defaultReference = .ok rules) : Apart rules := by
  obtain ⟨members,_,ran⟩ := bindOk read
  refine foldKeeps (fun before m after apart step => ?_) (show Apart [] from List.nodup_nil) ran
  obtain ⟨rule,_,set⟩ := bindOk step
  cases set
  exact setRuleApart apart rule

theorem excludeFromApart {reference names : Yaml} {rules after : List FieldRule} (apart : Apart rules)
    (read : excludeFrom py reference rules names = .ok after) : Apart after := by
  obtain ⟨wires,_,ran⟩ := bindOk read
  refine foldKeeps (fun before wire next held step => ?_) apart ran
  split at step
  · cases step
    exact setRuleApart held _
  · cases step

theorem excludeApart {reference : Yaml} {s after : Sections} {m : Yaml × Yaml} (apart : Apart s.header)
    (read : exclude py reference s m = .ok after) : Apart after.header := by
  unfold exclude at read
  split at read
  · cases excluded : excludeFrom py reference s.header m.2 with
    | error e => rw [excluded] at read; cases read
    | ok rules => rw [excluded] at read; cases read; exact excludeFromApart apart excluded
  · have kept : ∀ {x : Except LoadError (List FieldRule)} {f : List FieldRule → Sections},
        x.map f = .ok after → (∀ rules, (f rules).header = s.header) → Apart after.header := by
      intro x f mapped same
      cases x with
      | error e => cases mapped
      | ok rules => cases mapped; rw [same]; exact apart
    split at read
    · exact kept read (fun _ => rfl)
    · split at read
      · exact kept read (fun _ => rfl)
      · split at read
        · exact kept read (fun _ => rfl)
        · cases read; exact apart

theorem sectionsApart {spec : Yaml} {number : Int} {s : Sections} (read : sections py spec number = .ok s) :
    Apart s.header := by
  obtain ⟨header,first,read⟩ := bindOk read
  obtain ⟨_,_,read⟩ := bindOk read
  obtain ⟨_,_,read⟩ := bindOk read
  obtain ⟨_,_,read⟩ := bindOk read
  obtain ⟨_,_,read⟩ := bindOk read
  obtain ⟨_,_,read⟩ := bindOk read
  obtain ⟨_,_,read⟩ := bindOk read
  obtain ⟨_,_,first⟩ := bindOk first
  obtain ⟨_,_,first⟩ := bindOk first
  exact foldKeeps (P := fun s => Apart s.header) (fun before m after held step => excludeApart held step)
    (fieldRulesApart first) read

theorem patternSpecApart {key raw : Yaml} {spec : PatternSpec} (read : patternSpec py key raw = .ok spec) :
    Apart spec.header := by
  obtain ⟨number,_,read⟩ := bindOk read
  obtain ⟨s,made,read⟩ := bindOk read
  obtain ⟨_,_,read⟩ := bindOk read
  obtain ⟨_,_,read⟩ := bindOk read
  obtain ⟨_,_,read⟩ := bindOk read
  obtain ⟨_,_,read⟩ := bindOk read
  obtain ⟨_,_,read⟩ := bindOk read
  obtain ⟨_,_,read⟩ := bindOk read
  obtain ⟨_,_,read⟩ := bindOk read
  cases read
  exact sectionsApart made

theorem loadedApart {path : String} {source : Source} {rules : RuleSet} (accepted : loadRules py path source = .ok rules) :
    ∀ spec ∈ rules.patterns, Apart spec.header := by
  cases source with
  | unreadable reason => cases accepted
  | notYaml reason => cases accepted
  | read raw =>
    cases raw with
    | dict members =>
      obtain ⟨_,_,accepted⟩ := bindOk accepted
      obtain ⟨_,_,accepted⟩ := bindOk accepted
      obtain ⟨patterns,made,accepted⟩ := bindOk accepted
      obtain ⟨_,_,accepted⟩ := bindOk accepted
      obtain ⟨_,_,accepted⟩ := bindOk accepted
      obtain ⟨_,_,accepted⟩ := bindOk accepted
      obtain ⟨_,_,accepted⟩ := bindOk accepted
      obtain ⟨_,_,accepted⟩ := bindOk accepted
      obtain ⟨_,_,accepted⟩ := bindOk accepted
      obtain ⟨_,_,accepted⟩ := bindOk accepted
      obtain ⟨_,_,accepted⟩ := bindOk accepted
      cases accepted
      refine foldKeeps (P := fun patterns => ∀ spec ∈ patterns, Apart spec.header) (fun before m after held step => ?_)
        (by simp) made
      obtain ⟨spec,read,set⟩ := bindOk step
      cases set
      intro other member
      unfold setPattern at member
      split at member
      · obtain ⟨own,inside,rfl⟩ := List.mem_map.mp member
        split
        · exact patternSpecApart read
        · exact held own inside
      · obtain old | new := List.mem_append.mp member
        · exact held other old
        · rw [List.mem_singleton.mp new]
          exact patternSpecApart read
    | null => cases accepted
    | bool b => cases accepted
    | int n => cases accepted
    | str s => cases accepted
    | list items => cases accepted
    | other text true_ => cases accepted

end Load

def conditionalRule : String := "obligation.conditional"

def Holds (r : FieldRule) (header : Dict) : Prop :=
  ∃ w p, r.condition = some w ∧ Spec.conditions.lookup w = some p ∧ p header = true

def Bites (rules : RuleSet) (invoice : Invoice) (v : Violation) : Prop :=
  ∃ spec r, rules.pattern (patternNumber invoice) = some spec ∧ r ∈ spec.header ∧ r.name = v.field ∧
    r.forType invoice.header.inty = .conditional ∧ Holds r invoice.header.modelDump

structure Lawful (rules : RuleSet) (invoice : Invoice) : Prop where
  bites : ∀ v ∈ (validate ⟨rules⟩ invoice).violations, v.rule = conditionalRule → Bites rules invoice v
  spares : ∀ spec, rules.pattern (patternNumber invoice) = some spec → ∀ r ∈ spec.header,
    r.forType invoice.header.inty = .conditional → r.condition = none ∨ r.condition = some Spec.unspecified →
      ∀ v ∈ (validate ⟨rules⟩ invoice).violations, v.rule = conditionalRule → v.field ≠ r.name

/- No field that is missing is conditional by an override alone, unless its condition holds
all the same. -/
def Covered (rules : RuleSet) (invoice : Invoice) : Prop :=
  ∀ spec, rules.pattern (patternNumber invoice) = some spec → ∀ r ∈ spec.header,
    r.forType invoice.header.inty = .conditional → r.obligation ≠ .conditional →
      invoice.header.modelDump.has r.name = false → Holds r invoice.header.modelDump

theorem unencoded {rules : RuleSet} {invoice : Invoice} (pattern : rules.pattern (patternNumber invoice) = none) :
    ∀ v ∈ (validate ⟨rules⟩ invoice).violations, v.rule ≠ conditionalRule := by
  have other : ∀ rule ∈ otherRules, rule ≠ conditionalRule := by decide
  intro v member
  simp only [report,checkPattern,pattern,Numbers.checkArithmetic,List.mem_append,List.mem_flatten,List.mem_map] at member
  rcases member with ((coverage | enums) | lengths) | (⟨_,⟨item,_,rfl⟩,inside⟩ | totals) | settlement
  · rw [List.mem_singleton.mp coverage]
    show "coverage.pattern_not_encoded" ≠ conditionalRule
    decide
  · exact other _ (enumsOther _ _ v enums)
  · exact other _ (lengthsOther _ v lengths)
  · exact other _ (lineOther _ _ _ v inside)
  · exact other _ (totalsOther _ v totals)
  · intro same
    exact settlementAside invoice v settlement (by rw [same]; decide)

theorem conditionalFound {rules : RuleSet} {invoice : Invoice} {spec : PatternSpec}
    (pattern : rules.pattern (patternNumber invoice) = some spec) {v : Violation} :
    v ∈ (validate ⟨rules⟩ invoice).violations ∧ v.rule = conditionalRule ↔
      ∃ r ∈ spec.header, r.forType invoice.header.inty = .conditional ∧ r.applies invoice.header.modelDump = true ∧
        invoice.header.modelDump.has r.name = false ∧ v = missing r conditionalRule r.name none := by
  constructor
  · intro found
    obtain ⟨member,own⟩ := found
    have inside := (@reportedBy _ Arithmetic.exact ⟨rules⟩ invoice spec pattern v).mp ⟨member,by rw [own]; decide⟩
    simp only [checkObligations,List.mem_append,List.mem_flatten,List.mem_map] at inside
    rcases inside with ((⟨_,⟨r,stored,rfl⟩,here⟩ | body) | ⟨_,⟨g,_,rfl⟩,goods⟩) | ⟨_,⟨item,_,rfl⟩,line⟩
    · refine ⟨r,stored,?_⟩
      unfold checkHeaderField at here
      cases type : r.forType invoice.header.inty with
      | notApplicable =>
        rw [type] at here
        dsimp only at here
        split at here
        · rw [List.mem_singleton.mp here] at own
          exact absurd own (by show "obligation.not_applicable" ≠ conditionalRule; decide)
        · cases here
      | optional => rw [type] at here; cases here
      | required =>
        rw [type] at here
        dsimp only at here
        split at here
        · cases here
        · rw [List.mem_singleton.mp here] at own
          exact absurd own (by show "obligation.required" ≠ conditionalRule; decide)
      | conditional =>
        rw [type] at here
        dsimp only at here
        split at here
        · rename_i both
          rw [Bool.and_eq_true,Bool.not_eq_true'] at both
          exact ⟨rfl,both.1,both.2,List.mem_singleton.mp here⟩
        · cases here
    · split at body
      · rw [List.mem_singleton.mp body] at own
        exact absurd own (by show "obligation.body_not_empty" ≠ conditionalRule; decide)
      · cases body
    · obtain ⟨r,_,rfl⟩ := List.mem_map.mp goods
      exact absurd own (by show "obligation.required" ≠ conditionalRule; decide)
    · obtain ⟨r,_,rfl⟩ := List.mem_map.mp line
      exact absurd own (by show "obligation.required" ≠ conditionalRule; decide)
  · intro found
    obtain ⟨r,stored,type,applies,absent,rfl⟩ := found
    refine ⟨((@reportedBy _ Arithmetic.exact ⟨rules⟩ invoice spec pattern _).mpr ?_).1,rfl⟩
    simp only [checkObligations,List.mem_append,List.mem_flatten,List.mem_map]
    refine .inl (.inl (.inl ⟨_,⟨r,stored,rfl⟩,?_⟩))
    unfold checkHeaderField
    rw [type]
    simp only [applies,absent,Bool.not_false,Bool.and_self,if_true]
    exact List.mem_singleton_self _

theorem appliesHolds {r : FieldRule} {header : Dict} (base : r.obligation = .conditional) :
    r.applies header = true ↔ Holds r header := by
  unfold FieldRule.applies
  rw [if_neg (by rw [base]; decide)]
  constructor
  · intro applies
    cases given : r.condition with
    | none => rw [given] at applies; cases applies
    | some w =>
      rw [given] at applies
      dsimp only at applies
      split at applies
      · cases applies
      · cases known : Spec.conditions.lookup w with
        | none => rw [known] at applies; cases applies
        | some p => rw [known] at applies; exact ⟨w,p,given,known,applies⟩
  · intro holds
    obtain ⟨w,p,given,known,true_⟩ := holds
    have named : w ≠ Spec.unspecified := by
      intro same
      rw [same] at known
      cases known
    rw [given]
    dsimp only
    rw [if_neg named,known]
    exact true_

theorem lawfulCovered {rules : RuleSet} (apart : ∀ spec ∈ rules.patterns, Apart spec.header) (invoice : Invoice) :
    Lawful rules invoice ↔ Covered rules invoice := by
  constructor
  · intro lawful spec pattern r stored type base absent
    have applies : r.applies invoice.header.modelDump = true := if_pos base
    obtain ⟨member,own⟩ := (conditionalFound pattern).mpr ⟨r,stored,type,applies,absent,rfl⟩
    obtain ⟨spec',r',pattern',stored',same,_,holds⟩ := lawful.bites _ member own
    have one : spec' = spec := Option.some.inj (pattern'.symm.trans pattern)
    subst one
    have alike : r' = r := apartOne (apart spec' (List.mem_of_find?_eq_some pattern)) stored' stored same
    exact alike ▸ holds
  · intro covered
    have bites : ∀ v ∈ (validate ⟨rules⟩ invoice).violations, v.rule = conditionalRule → Bites rules invoice v := by
      intro v member own
      cases pattern : rules.pattern (patternNumber invoice) with
      | none => exact absurd own (unencoded pattern v member)
      | some spec =>
        obtain ⟨r,stored,type,applies,absent,rfl⟩ := (conditionalFound pattern).mp ⟨member,own⟩
        refine ⟨spec,r,pattern,stored,rfl,type,?_⟩
        by_cases base : r.obligation = .conditional
        · exact (appliesHolds base).mp applies
        · exact covered spec pattern r stored type base absent
    refine ⟨bites,fun spec pattern r stored type idle v member own same => ?_⟩
    obtain ⟨spec',r',pattern',stored',named,_,w,p,given,known,_⟩ := bites v member own
    have one : spec' = spec := Option.some.inj (pattern'.symm.trans pattern)
    subst one
    have alike : r' = r :=
      apartOne (apart spec' (List.mem_of_find?_eq_some pattern)) stored' stored (named.trans same)
    rw [alike] at given
    obtain none_ | sentinel := idle
    · rw [none_] at given
      cases given
    · rw [sentinel] at given
      cases Option.some.inj given
      cases known

theorem conditionalBites {py : Python} {path : String} {source : Source} {rules : RuleSet}
    (accepted : loadRules py path source = .ok rules) (invoice : Invoice) :
    Lawful rules invoice ↔ Covered rules invoice :=
  lawfulCovered (loadedApart accepted) invoice

namespace Example

def ints : Python where
  int := fun y => match y with
    | .int n => .ok n
    | _ => .error .valueError
  str := fun y => match y with
    | .str s => s
    | _ => ""
  repr := fun y => match y with
    | .str s => "'" ++ s ++ "'"
    | _ => ""

def overridden : Yaml :=
  .dict [(.str "patterns",.dict [(.int 1,.dict [(.str "name",.str "فروش"),(.str "types",.list [.int 1,.int 2]),
    (.str "header",.dict [(.str "cap",.dict [(.str "obligation",.str "optional"),
      (.str "by_type",.dict [(.int 2,.str "conditional")])])])])])]

def second : Invoice where
  header := { indatim := 1683997837988, ins := 1, inty := some 2 }
  body := [{ sstid := "2710000138624" }]

end Example

open Moadian.Document.Example in
theorem conditionalBitesOverridden : ∃ rules, loadRules ints "patterns.yaml" (.read overridden) = .ok rules ∧
    (Lawful rules second ↔ Covered rules second) :=
  ⟨_,rfl,@conditionalBites ints "patterns.yaml" (.read overridden) _ rfl second⟩

open Moadian.Document.Example in
theorem overrideBites : ¬ ∀ (py : Python) (path : String) (source : Source) (rules : RuleSet),
    loadRules py path source = .ok rules → ∀ invoice, Lawful rules invoice := by
  intro claim
  have lawful := claim ints "patterns.yaml" (.read overridden) _ rfl second
  have covered := (lawfulCovered (@loadedApart ints "patterns.yaml" (.read overridden) _ rfl) second).mp lawful
  obtain ⟨w,p,given,_⟩ := covered _ rfl _ (List.mem_cons_self ..) rfl (by decide) (by decide)
  cases given

end Moadian.Document
