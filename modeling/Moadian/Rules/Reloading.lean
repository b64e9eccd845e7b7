import Moadian.Rules.Conditions
import Moadian.Rules.Emission

/-! What `load_rules` makes of the matrix that `emit_yaml` has written. -/
namespace Moadian.Extract
open Document

-- `int` of an integer and `str` of a string.
structure Builtin (py : Python) : Prop where
  int : ∀ n, py.int (.int n) = .ok n
  str : ∀ s, py.str (.str s) = s

theorem okBind {α β : Type} {a : α} {f : α → Except LoadError β} : (Except.ok a >>= f) = f a := rfl

theorem setRuleNew {rules : List FieldRule} {rule : FieldRule} (new : ∀ r ∈ rules, r.name ≠ rule.name) :
    setRule rules rule = rules ++ [rule] := by
  refine if_neg (fun met => ?_)
  obtain ⟨r,member,same⟩ := List.any_eq_true.mp met
  exact new r member (decide_eq_true_eq.mp same)

theorem foldRules {α : Type} {step : List FieldRule → α → Except LoadError (List FieldRule)} {rule : α → FieldRule}
    {xs : List α} (each : ∀ rules, ∀ x ∈ xs, step rules x = .ok (setRule rules (rule x))) {rules : List FieldRule}
    (apart : Apart (rules ++ xs.map rule)) : xs.foldlM step rules = .ok (rules ++ xs.map rule) := by
  induction xs generalizing rules with
  | nil => simp [pure,Except.pure]
  | cons x rest ih =>
    have new : ∀ r ∈ rules, r.name ≠ (rule x).name := by
      intro r member same
      rw [Apart,List.map_append,List.nodup_append] at apart
      exact apart.2.2 _ (List.mem_map_of_mem member) _ (by simp) same
    have whole : rules ++ (x :: rest).map rule = (rules ++ [rule x]) ++ rest.map rule := by simp
    rw [whole] at apart ⊢
    rw [List.foldlM_cons,each rules x (List.mem_cons_self ..),setRuleNew new]
    exact ih (fun rules y later => each rules y (List.mem_cons_of_mem x later)) apart

theorem setTypeNew {byType : List (Int × Obligation)} {t : Int} {o : Obligation} (new : ∀ p ∈ byType, p.1 ≠ t) :
    setType byType t o = byType ++ [(t,o)] := by
  refine if_neg (fun met => ?_)
  obtain ⟨p,member,same⟩ := List.any_eq_true.mp met
  exact new p member (decide_eq_true_eq.mp same)

theorem obligationRead (o : Obligation) : obligationOf (.str (obligationText o)) = some o := by
  cases o <;> rfl

/-! What a mapping has under a key, part by part. -/

theorem memberAppend (left right : List (Yaml × Yaml)) (key : String) :
    Yaml.member (left ++ right) key = (Yaml.member left key).or (Yaml.member right key) := by
  unfold Yaml.member
  rw [List.find?_append]
  cases left.find? (fun m => m.1.isStr key) <;> rfl

theorem memberOwn (key : String) (v : Yaml) (rest : List (Yaml × Yaml)) : Yaml.member ((.str key,v) :: rest) key = some v := by
  simp [Yaml.member,Yaml.isStr]

theorem memberOther {name key : String} (other : name ≠ key) (v : Yaml) (rest : List (Yaml × Yaml)) :
    Yaml.member ((.str name,v) :: rest) key = Yaml.member rest key := by
  simp [Yaml.member,Yaml.isStr,other]

section Row
variable {py : Python} (builtin : Builtin py) (yaml : YamlLibrary) (pattern : Int) (types : List Int)

include builtin in
theorem byTypeRead {listed : List (Int × Obligation)} {byType : List (Int × Obligation)}
    (apart : ((byType ++ listed).map Prod.fst).Nodup) :
    (listed.map (fun o => (Yaml.int o.1,Yaml.str (obligationText o.2)))).foldlM (fun byType m => do
      let t ← py.int m.1
      let o ← obligation m.2
      pure (setType byType t o)) byType = .ok (byType ++ listed) := by
  induction listed generalizing byType with
  | nil => simp [pure,Except.pure]
  | cons entry rest ih =>
    obtain ⟨t,o⟩ := entry
    have new : ∀ p ∈ byType, p.1 ≠ t := by
      intro p member same
      rw [List.map_append,List.nodup_append] at apart
      exact apart.2.2 _ (List.mem_map_of_mem member) _ (by simp) same
    have whole : byType ++ (t,o) :: rest = (byType ++ [(t,o)]) ++ rest := by simp
    rw [whole] at apart ⊢
    rw [List.map_cons,List.foldlM_cons]
    simp only [builtin.int,obligation,obligationRead,bind,Except.bind,pure,Except.pure,setTypeNew new]
    exact ih apart

theorem conditionRead (wire : String) :
    yaml.unquoted ((knownConditions.lookup wire).getD ("unspecified","")).1 =
      ((knownConditions.lookup wire).getD ("unspecified","")).1 := by
  have listed : ∀ e ∈ knownConditions, oneLine e.2.1 = true := by decide +kernel
  refine yaml.verbatim _ (conditionQuotable wire).1 ?_
  cases found : knownConditions.lookup wire with
  | some own => exact listed _ (Json.lookupMem found)
  | none => decide +kernel

theorem conditionKnown (wire place : String) (py : Python) :
    let condition : Yaml := .str ((knownConditions.lookup wire).getD ("unspecified","")).1
    condition.isStr Spec.unspecified = false → checkCondition py place condition = .ok () := by
  intro condition named
  have listed : ∀ e ∈ knownConditions, (Spec.conditions.any (fun c => (Yaml.str e.2.1).isStr c.1)) = true ∧ e.2.1 ≠ "" := by
    decide +kernel
  have own : Spec.conditions.any (fun c => condition.isStr c.1) = true ∧ condition.truthy = true := by
    cases found : knownConditions.lookup wire with
    | some own =>
      have member := listed _ (Json.lookupMem found)
      simp only [condition,found,Option.getD_some]
      exact ⟨member.1,decide_eq_true member.2⟩
    | none =>
      simp only [condition,found,Option.getD_none] at named
      exact absurd named (by decide +kernel)
  rw [checkCondition,own.1,own.2]
  rfl

structure RowSays (yaml : YamlLibrary) (wire : String) (o : Obligation) (overrides : List (Int × Obligation)) (row : Yaml) : Prop where
  obligation : row.item "obligation" = .ok (.str (obligationText o))
  condition : row.get "when" .null =
    .ok (if o = .conditional then .str ((knownConditions.lookup wire).getD ("unspecified","")).1 else .null)
  rest : ∀ key ∈ ["reference","condition_reference","message","title"], ∀ default, ∃ v, row.get key default = .ok v
  byType : ∃ v, row.get "by_type" .null = .ok v ∧
    v.items = .ok (overrides.map (fun o => (Yaml.int o.1,Yaml.str (obligationText o.2))))

theorem rowSays (e : String × Meta) : RowSays yaml e.1 (e.2.primary pattern types) (e.2.overrides pattern types)
    ((rowFlow pattern types e.1 e.2).value yaml.unquoted) := by
  unfold rowFlow
  simp only [Flow.value,pairValuesMap,List.map_append,List.map_cons,List.map_nil,apply_ite (List.map _),conditionRead,
    List.map_map,Function.comp_def]
  generalize e.2.overrides pattern types = overrides
  generalize e.2.primary pattern types = o
  constructor
  · simp [Yaml.item,memberOwn]
  · simp only [Yaml.get,memberAppend]
    split <;> split <;> simp [Yaml.member,Yaml.isStr]
  · intro key _ default
    exact ⟨_,rfl⟩
  · refine ⟨_,rfl,?_⟩
    by_cases clause : ((knownConditions.lookup e.1).getD ("unspecified","")).2 = "" <;> by_cases none_ : overrides = [] <;>
      by_cases conditional : o = .conditional <;>
      simp [Yaml.member,Yaml.isStr,Yaml.items,Yaml.truthy,clause,none_,conditional]

include builtin in
theorem rowRead (section_ : String) (reference : Yaml) (e : String × Meta)
    (apart : ((e.2.overrides pattern types).map Prod.fst).Nodup) :
    ∃ rule, fieldRule py section_ pattern reference (.str e.1) ((rowFlow pattern types e.1 e.2).value yaml.unquoted) = .ok rule ∧
      rule.name = e.1 ∧ rule.obligation = e.2.primary pattern types ∧ rule.byType = e.2.overrides pattern types := by
  have told := rowSays yaml pattern types e
  generalize (rowFlow pattern types e.1 e.2).value yaml.unquoted = row at told
  obtain ⟨reference_,first⟩ := told.rest "reference" (by decide) .null
  obtain ⟨clause,second⟩ := told.rest "condition_reference" (by decide) .null
  obtain ⟨message,third⟩ := told.rest "message" (by decide) (.str "")
  obtain ⟨title,fourth⟩ := told.rest "title" (by decide) (.str "")
  obtain ⟨overrides,fifth,members⟩ := told.byType
  have byType : byTypeOf py (List.map (fun o => (Yaml.int o.1,Yaml.str (obligationText o.2))) (e.2.overrides pattern types)) =
      .ok (e.2.overrides pattern types) := @byTypeRead py builtin (e.2.overrides pattern types) [] (by simpa using apart)
  unfold fieldRule ruleObligation
  simp only [told.obligation,obligationRead,told.condition,first,second,third,fourth,fifth,members,byType,okBind]
  by_cases conditional : e.2.primary pattern types = .conditional
  · simp only [conditional,if_true,true_and]
    split
    · rename_i named
      rw [conditionKnown e.1 _ py named]
      exact ⟨_,rfl,builtin.str e.1,rfl,rfl⟩
    · exact ⟨_,rfl,builtin.str e.1,rfl,rfl⟩
  · simp only [conditional,false_and,if_false]
    exact ⟨_,rfl,builtin.str e.1,rfl,rfl⟩

end Row

section Spec
variable (yaml : YamlLibrary) (matrix : Matrix) (pattern : Int) (types : List Int)

def specValue : Yaml := (Node.block (patternMembers matrix pattern types)).value yaml.unquoted

theorem specMembers : specValue yaml matrix pattern types =
    .dict (Node.pairValues yaml.unquoted (heads pattern types) ++
      sectionNames.flatMap (fun s => Node.pairValues yaml.unquoted (sectionNode matrix pattern types s)) ++
      Node.pairValues yaml.unquoted (excludedNode matrix pattern types)) := by
  have whole : specValue yaml matrix pattern types = .dict (Node.pairValues yaml.unquoted (patternMembers matrix pattern types)) := rfl
  rw [whole,patternMembers]
  simp only [blockValuesMap,List.map_append,List.map_flatMap]

theorem sectionMember (s key : String) :
    Yaml.member (Node.pairValues yaml.unquoted (sectionNode matrix pattern types s)) key =
      if s = key ∧ rowNodes matrix pattern types s ≠ [] then
        some ((Node.block (rowNodes matrix pattern types s)).value yaml.unquoted) else none := by
  unfold sectionNode
  by_cases none_ : rowNodes matrix pattern types s = []
  · simp [none_,Node.pairValues,Yaml.member]
  · simp only [if_pos none_,Node.pairValues,Flow.value]
    by_cases same : s = key
    · rw [same,memberOwn,if_pos ⟨rfl,by rw [← same]; exact none_⟩]
    · rw [memberOther same,if_neg (fun both => same both.1)]
      rfl

theorem emptyMember {rows : List (Flow × Node)} (none_ : rows = []) : (Node.block rows).value yaml.unquoted = .null := by
  rw [none_]
  rfl

theorem sectionGet {s : String} (named : s ∈ sectionNames) :
    (specValue yaml matrix pattern types).get s .null = .ok ((Node.block (rowNodes matrix pattern types s)).value yaml.unquoted) := by
  rw [specMembers,Yaml.get,memberAppend,memberAppend]
  have first : Yaml.member (Node.pairValues yaml.unquoted (heads pattern types)) s = none := by
    revert s
    simp [sectionNames,heads,Node.pairValues,Flow.value,Yaml.member,Yaml.isStr]
  have last : Yaml.member (Node.pairValues yaml.unquoted (excludedNode matrix pattern types)) s = none := by
    have other : "excluded" ≠ s := by
      intro same
      rw [← same] at named
      exact absurd named (by decide)
    unfold excludedNode
    split
    · rw [Node.pairValues,Flow.value,memberOther other]
      rfl
    · rfl
  have middle : Yaml.member (sectionNames.flatMap (fun s => Node.pairValues yaml.unquoted (sectionNode matrix pattern types s))) s =
      if rowNodes matrix pattern types s ≠ [] then
        some ((Node.block (rowNodes matrix pattern types s)).value yaml.unquoted) else none := by
    simp only [sectionNames,List.mem_cons,List.not_mem_nil,or_false] at named
    simp only [sectionNames,List.flatMap_cons,List.flatMap_nil,List.append_nil,memberAppend,sectionMember]
    obtain rfl | rfl | rfl | rfl := named <;> simp
  rw [first,middle,last]
  split
  · rfl
  · rename_i none_
    rw [emptyMember yaml (not_not.mp none_)]
    rfl

theorem excludedGet : (specValue yaml matrix pattern types).get "excluded" .null =
    .ok ((Node.block ((leftOut matrix pattern types).map (fun e => (.word e.1,.flow (namesFlow e.2))))).value yaml.unquoted) := by
  rw [specMembers,Yaml.get,memberAppend,memberAppend]
  have first : Yaml.member (Node.pairValues yaml.unquoted (heads pattern types)) "excluded" = none := by
    simp [heads,Node.pairValues,Flow.value,Yaml.member,Yaml.isStr]
  have middle : Yaml.member (sectionNames.flatMap (fun s => Node.pairValues yaml.unquoted (sectionNode matrix pattern types s)))
      "excluded" = none := by
    simp [sectionNames,memberAppend,sectionMember]
  rw [first,middle]
  unfold excludedNode
  split
  · rw [Node.pairValues,Flow.value,memberOwn]
    rfl
  · rename_i none_
    rw [not_not.mp none_]
    rfl

theorem typesGet : (specValue yaml matrix pattern types).get "types" .null = .ok (.list ((supported types).map Yaml.int)) := by
  rw [specMembers,Yaml.get,memberAppend,memberAppend]
  have first : Yaml.member (Node.pairValues yaml.unquoted (heads pattern types)) "types" =
      some (.list ((supported types).map Yaml.int)) := by
    simp [heads,Node.pairValues,Flow.value,Yaml.member,Yaml.isStr,Node.value,valuesMap]
  rw [first]
  rfl

theorem typesTruthy : (Yaml.list ((supported types).map Yaml.int)).truthy = true := by
  unfold supported
  cases types <;> rfl

theorem anyGet (key : String) (default : Yaml) : ∃ v, (specValue yaml matrix pattern types).get key default = .ok v := by
  rw [specMembers]
  exact ⟨_,rfl⟩

end Spec

/-! The rules of a pattern. -/

section Pattern
variable {py : Python} (builtin : Builtin py) (yaml : YamlLibrary) (matrix : Matrix) (pattern : Int) (types : List Int)

def kept (section_ : String) : List (String × Meta) := (entries matrix section_).filter (fun e => !e.2.excluded pattern types)

theorem entriesApart (section_ : String) : ((entries matrix section_).map Prod.fst).Nodup :=
  matrix.nodup.sublist (List.filter_sublist.map _)

theorem overridesApart (entry : Meta) (alone : types.Nodup) : ((entry.overrides pattern types).map Prod.fst).Nodup := by
  unfold Meta.overrides
  refine ((List.mergeSort_perm _ _).map Prod.fst).nodup_iff.mpr ?_
  rw [List.map_map]
  exact (List.map_id _).symm ▸ alone.filter _

theorem namesApart {rule : String × Meta → FieldRule} (own : ∀ e, (rule e).name = e.1) {xs : List (String × Meta)} :
    (xs.map rule).map FieldRule.name = xs.map Prod.fst := by
  rw [List.map_map]
  exact List.map_congr_left (fun e _ => own e)

include builtin in
theorem sectionRead {s : String} (named : s ∈ sectionNames) (alone : types.Nodup) : ∃ rule : String × Meta → FieldRule,
    (∀ e, (rule e).name = e.1 ∧ (rule e).obligation = e.2.primary pattern types ∧ (rule e).byType = e.2.overrides pattern types) ∧
    sectionRules py (specValue yaml matrix pattern types) pattern s = .ok ((kept matrix pattern types s).map rule) := by
  obtain ⟨reference,given⟩ := anyGet yaml matrix pattern types "reference" (.str "")
  have each : ∀ e : String × Meta, ∃ rule, fieldRule py s pattern reference (.str e.1)
      ((rowFlow pattern types e.1 e.2).value yaml.unquoted) = .ok rule ∧
      rule.name = e.1 ∧ rule.obligation = e.2.primary pattern types ∧ rule.byType = e.2.overrides pattern types := by
    intro e
    exact rowRead builtin yaml pattern types s reference e (overridesApart pattern types e.2 alone)
  choose rule made own using each
  refine ⟨rule,own,?_⟩
  rw [sectionRules,sectionGet yaml matrix pattern types named,okBind,given,okBind,fieldRules,blockItems,okBind,blockValuesMap,
    rowNodes,List.map_map,List.foldlM_map]
  have ran := @foldRules (String × Meta) (fun rules e => do
    let rule ← fieldRule py s pattern reference (.str e.1) ((rowFlow pattern types e.1 e.2).value yaml.unquoted)
    pure (setRule rules rule)) rule (kept matrix pattern types s) (fun rules e _ => by rw [made e]; rfl) [] ?_
  · exact ran
  · rw [Apart,List.nil_append,namesApart (fun e => (own e).1)]
    exact (entriesApart matrix s).sublist (List.filter_sublist.map _)

theorem excludeRead {reference : Yaml} {rules : List FieldRule} {names : List String}
    (apart : Apart (rules ++ (names.mergeSort (· ≤ ·)).map (fun wire => excludedRule py reference (.str wire)))) :
    excludeFrom py reference rules ((namesFlow names).value yaml.unquoted) =
      .ok (rules ++ (names.mergeSort (· ≤ ·)).map (fun wire => excludedRule py reference (.str wire))) := by
  have listed : (namesFlow names).value yaml.unquoted = .list ((names.mergeSort (· ≤ ·)).map Yaml.str) := by
    rw [namesFlow,Flow.value,valuesMap,List.map_map]
    rfl
  rw [excludeFrom,listed,Yaml.iterate,okBind,List.foldlM_map]
  exact foldRules (fun rules wire _ => rfl) apart

theorem excludeSection (reference : Yaml) (s : Sections) (v : Yaml) :
    exclude py reference s (.str "header",v) = (excludeFrom py reference s.header v).map (fun rules => { s with header := rules }) ∧
    exclude py reference s (.str "body",v) = (excludeFrom py reference s.body v).map (fun rules => { s with body := rules }) ∧
    exclude py reference s (.str "payment",v) = (excludeFrom py reference s.payment v).map (fun rules => { s with payment := rules }) ∧
    exclude py reference s (.str "sg",v) = (excludeFrom py reference s.sg v).map (fun rules => { s with sg := rules }) := by
  simp [exclude,Yaml.isStr]

theorem excludeNone (reference : Yaml) (s : Sections) (key : Yaml) : exclude py reference s (key,.list []) = .ok s := by
  have none_ : ∀ rules, excludeFrom py reference rules (.list []) = .ok rules := fun _ => rfl
  unfold exclude
  simp only [none_,Except.map]
  split_ifs <;> rfl

theorem foldFilter {α β : Type} {step : β → α → Except LoadError β} {p : α → Bool} {xs : List α}
    (idle : ∀ x ∈ xs, p x = false → ∀ s, step s x = .ok s) (s : β) : (xs.filter p).foldlM step s = xs.foldlM step s := by
  induction xs generalizing s with
  | nil => rfl
  | cons x rest ih =>
    have later := ih (fun y member => idle y (List.mem_cons_of_mem x member))
    cases kept_ : p x with
    | false =>
      rw [List.filter_cons_of_neg (by rw [kept_]; exact Bool.false_ne_true),List.foldlM_cons,
        idle x (List.mem_cons_self ..) kept_ s]
      exact later s
    | true =>
      rw [List.filter_cons_of_pos kept_,List.foldlM_cons,List.foldlM_cons]
      exact congrArg _ (funext later)

structure Loaded (section_ : String) (rules : List FieldRule) (rule : String × Meta → FieldRule)
    (excluded : String → FieldRule) : Prop where
  whole : rules = (kept matrix pattern types section_).map rule ++
    ((left matrix pattern types section_).mergeSort (· ≤ ·)).map excluded
  named : ∀ e, (rule e).name = e.1
  obligation : ∀ e, (rule e).obligation = e.2.primary pattern types
  byType : ∀ e, (rule e).byType = e.2.overrides pattern types
  spared : ∀ wire, (excluded wire).name = wire ∧ (excluded wire).obligation = .notApplicable ∧ (excluded wire).byType = []

variable {matrix pattern types}

theorem loadedNames {s : String} {rules : List FieldRule} {rule : String × Meta → FieldRule} {excluded : String → FieldRule}
    (loaded : Loaded matrix pattern types s rules rule excluded) :
    rules.map FieldRule.name = (kept matrix pattern types s).map Prod.fst ++ (left matrix pattern types s).mergeSort (· ≤ ·) := by
  rw [loaded.whole,List.map_append,namesApart loaded.named,List.map_map]
  refine congrArg _ ?_
  exact (List.map_congr_left (fun wire _ => (loaded.spared wire).1)).trans (List.map_id _)

variable (matrix pattern types) in
theorem namesNodup (s : String) :
    ((kept matrix pattern types s).map Prod.fst ++ (left matrix pattern types s).mergeSort (· ≤ ·)).Nodup := by
  have apart := entriesApart matrix s
  refine List.nodup_append.mpr ⟨apart.sublist (List.filter_sublist.map _),?_,?_⟩
  · exact (List.mergeSort_perm _ _).nodup_iff.mpr (apart.sublist (List.filter_sublist.map _))
  · intro a inside b out same
    obtain ⟨e,stays,rfl⟩ := List.mem_map.mp inside
    obtain ⟨e',goes,rfl⟩ := List.mem_map.mp (List.mem_mergeSort.mp out)
    obtain ⟨first,no⟩ := List.mem_filter.mp stays
    obtain ⟨second,yes⟩ := List.mem_filter.mp goes
    rw [List.inj_on_of_nodup_map apart first second same,yes] at no
    cases no

theorem rulesApart {s : String} {rules : List FieldRule} {rule : String × Meta → FieldRule} {excluded : String → FieldRule}
    (loaded : Loaded matrix pattern types s rules rule excluded) : Apart rules := by
  rw [Apart,loadedNames loaded]
  exact namesNodup matrix pattern types s

variable (matrix pattern types)

include builtin in
theorem sectionsRead (alone : types.Nodup) : ∃ s, sections py (specValue yaml matrix pattern types) pattern = .ok s ∧
    ∀ named ∈ [("header",s.header),("body",s.body),("payment",s.payment),("sg",s.sg)],
      ∃ rule excluded, Loaded matrix pattern types named.1 named.2 rule excluded := by
  obtain ⟨header,ownHeader,first⟩ := sectionRead builtin yaml matrix pattern types (s := "header") (by decide) alone
  obtain ⟨body,ownBody,second⟩ := sectionRead builtin yaml matrix pattern types (s := "body") (by decide) alone
  obtain ⟨payment,ownPayment,third⟩ := sectionRead builtin yaml matrix pattern types (s := "payment") (by decide) alone
  obtain ⟨sg,ownSg,fourth⟩ := sectionRead builtin yaml matrix pattern types (s := "sg") (by decide) alone
  obtain ⟨reference,given⟩ := anyGet yaml matrix pattern types "reference" (.str "")
  have loaded : ∀ s (rule : String × Meta → FieldRule), (∀ e, (rule e).name = e.1 ∧
      (rule e).obligation = e.2.primary pattern types ∧ (rule e).byType = e.2.overrides pattern types) →
      Loaded matrix pattern types s ((kept matrix pattern types s).map rule ++
        ((left matrix pattern types s).mergeSort (· ≤ ·)).map (fun wire => excludedRule py reference (.str wire))) rule
        (fun wire => excludedRule py reference (.str wire)) := fun s rule own =>
    ⟨rfl,fun e => (own e).1,fun e => (own e).2.1,fun e => (own e).2.2,fun wire => ⟨builtin.str wire,rfl,rfl⟩⟩
  have step : ∀ s (rule : String × Meta → FieldRule), (∀ e, (rule e).name = e.1 ∧
      (rule e).obligation = e.2.primary pattern types ∧ (rule e).byType = e.2.overrides pattern types) →
      excludeFrom py reference ((kept matrix pattern types s).map rule) ((namesFlow (left matrix pattern types s)).value yaml.unquoted) =
        .ok ((kept matrix pattern types s).map rule ++
          ((left matrix pattern types s).mergeSort (· ≤ ·)).map (fun wire => excludedRule py reference (.str wire))) :=
    fun s rule own => excludeRead yaml (rulesApart (loaded s rule own))
  rw [sections,first,okBind,second,okBind,third,okBind,fourth,okBind,excludedGet,okBind,blockItems,okBind,given,okBind,
    blockValuesMap,List.map_map,List.foldlM_map,leftOut,foldFilter]
  · simp only [sectionNames,List.map_cons,List.map_nil,List.foldlM_cons,List.foldlM_nil,Function.comp,Flow.value,Node.value]
    rw [(excludeSection reference _ _).1,step _ _ ownHeader,Except.map,okBind,(excludeSection reference _ _).2.1,step _ _ ownBody,
      Except.map,okBind,(excludeSection reference _ _).2.2.1,step _ _ ownPayment,Except.map,okBind,
      (excludeSection reference _ _).2.2.2,step _ _ ownSg,Except.map,okBind]
    refine ⟨_,rfl,?_⟩
    simp only [List.mem_cons,List.not_mem_nil,or_false]
    rintro named (rfl | rfl | rfl | rfl)
    · exact ⟨_,_,loaded _ _ ownHeader⟩
    · exact ⟨_,_,loaded _ _ ownBody⟩
    · exact ⟨_,_,loaded _ _ ownPayment⟩
    · exact ⟨_,_,loaded _ _ ownSg⟩
  · intro e listed none_ s
    obtain ⟨name,_,rfl⟩ := List.mem_map.mp listed
    have bare : left matrix pattern types name = [] := by simpa using none_
    have empty : (namesFlow []).value yaml.unquoted = .list [] := by simp [namesFlow,Flow.value,Flow.values]
    simp only [Function.comp,bare,Node.value,empty]
    exact excludeNone reference s _

include builtin in
theorem intsRead (listed : List Int) : (listed.map Yaml.int).mapM py.int = .ok listed := by
  induction listed with
  | nil => rfl
  | cons n rest ih =>
    rw [List.map_cons,List.mapM_cons,builtin.int,okBind,ih,okBind]
    rfl

include builtin in
theorem specRead (alone : types.Nodup) : ∃ spec, patternSpec py (.int pattern) (specValue yaml matrix pattern types) = .ok spec ∧
    spec.number = pattern ∧ spec.types = supported types ∧
    ∀ named ∈ [("header",spec.header),("body",spec.body),("payment",spec.payment),("sg",spec.sg)],
      ∃ rule excluded, Loaded matrix pattern types named.1 named.2 rule excluded := by
  obtain ⟨s,read,loaded⟩ := sectionsRead builtin yaml matrix pattern types alone
  obtain ⟨name,first⟩ := anyGet yaml matrix pattern types "name" (.str "")
  obtain ⟨nameEn,second⟩ := anyGet yaml matrix pattern types "name_en" (.str "")
  obtain ⟨reference,third⟩ := anyGet yaml matrix pattern types "reference" (.str "")
  obtain ⟨coverage,fourth⟩ := anyGet yaml matrix pattern types "coverage" (.str "partial")
  have ints := intsRead builtin (supported types)
  rw [patternSpec,builtin.int,okBind,read,okBind,first,okBind,second,okBind,typesGet,okBind,Yaml.or,typesTruthy,if_pos rfl,
    Yaml.iterate,okBind,ints,okBind,third,okBind,fourth,okBind]
  exact ⟨_,rfl,rfl,rfl,loaded⟩

end Pattern

/-! The whole of it. -/

section Lookup
variable {matrix : Matrix} {pattern : Int} {types : List Int}

theorem ruleFound {rules : List FieldRule} (apart : Apart rules) {r : FieldRule} (member : r ∈ rules) :
    rules.find? (fun q => q.name = r.name) = some r := by
  have some_ : (rules.find? (fun q => q.name = r.name)).isSome = true :=
    List.find?_isSome.mpr ⟨r,member,decide_eq_true rfl⟩
  obtain ⟨q,found⟩ := Option.isSome_iff_exists.mp some_
  have same : q.name = r.name := by simpa using List.find?_some found
  rw [found,apartOne apart (List.mem_of_find?_eq_some found) member same]

theorem overrideMember (entry : Meta) {t : Int} {o : Obligation} : (t,o) ∈ entry.overrides pattern types ↔
    (t ∈ types ∧ entry.patterns.get (t,pattern) ≠ some (entry.primary pattern types)) ∧ entry.at_ pattern t = o := by
  unfold Meta.overrides
  rw [List.mem_mergeSort,List.mem_map]
  constructor
  · intro made
    obtain ⟨u,inside,same⟩ := made
    cases same
    obtain ⟨listed,differs⟩ := List.mem_filter.mp inside
    exact ⟨⟨listed,of_decide_eq_true differs⟩,rfl⟩
  · intro stated
    obtain ⟨⟨listed,differs⟩,rfl⟩ := stated
    exact ⟨t,List.mem_filter.mpr ⟨listed,decide_eq_true differs⟩,rfl⟩

-- An override is what the matrix has; where there is none, the matrix has what the first type has.
theorem overrideLookup (alone : types.Nodup) (entry : Meta) {t : Int} (listed : t ∈ supported types) :
    ((entry.overrides pattern types).lookup t).getD (entry.primary pattern types) = entry.at_ pattern t := by
  have apart := overridesApart pattern types entry alone
  cases found : (entry.overrides pattern types).lookup t with
  | some o => exact (overrideMember entry).mp (Json.lookupMem found) |>.2.symm
  | none =>
    show entry.primary pattern types = entry.at_ pattern t
    by_cases bare : types = []
    · have first : t = 1 := by simpa [supported,bare] using listed
      rw [Meta.primary,bare,first]
      rfl
    · rw [supported,if_neg bare] at listed
      by_contra differs
      have member : (t,entry.at_ pattern t) ∈ entry.overrides pattern types := by
        refine (overrideMember entry).mpr ⟨⟨listed,fun same => differs ?_⟩,rfl⟩
        rw [Meta.at_,same]
        rfl
      rw [Json.lookupOwn apart member] at found
      cases found

theorem loadedFound (alone : types.Nodup) {rules : List FieldRule} {rule : String × Meta → FieldRule}
    {excluded : String → FieldRule} {e : String × Meta} (member : e ∈ matrix.entries)
    (loaded : Loaded matrix pattern types e.2.section_ rules rule excluded) :
    ∃ r, rules.find? (fun q => q.name = e.1) = some r ∧ ∀ t ∈ supported types, r.forType (some t) = e.2.at_ pattern t := by
  have apart := rulesApart loaded
  have own : e ∈ entries matrix e.2.section_ := List.mem_filter.mpr ⟨member,decide_eq_true rfl⟩
  cases out : e.2.excluded pattern types with
  | false =>
    have inside : rule e ∈ rules := by
      rw [loaded.whole]
      exact List.mem_append_left _ (List.mem_map_of_mem (List.mem_filter.mpr ⟨own,by rw [out]; rfl⟩))
    refine ⟨rule e,?_,fun t listed => ?_⟩
    · rw [← loaded.named e]
      exact ruleFound apart inside
    · rw [FieldRule.forType,loaded.byType,loaded.obligation]
      exact overrideLookup alone e.2 listed
  | true =>
    have inside : excluded e.1 ∈ rules := by
      rw [loaded.whole]
      refine List.mem_append_right _ (List.mem_map_of_mem (List.mem_mergeSort.mpr ?_))
      exact List.mem_map_of_mem (List.mem_filter.mpr ⟨own,out⟩)
    obtain ⟨name,none_,bare⟩ := loaded.spared e.1
    obtain ⟨first,empty⟩ := Bool.and_eq_true_iff.mp out
    have lookup := fun t listed => @overrideLookup pattern types alone e.2 t listed
    rw [List.isEmpty_iff.mp empty,of_decide_eq_true first] at lookup
    refine ⟨excluded e.1,?_,fun t listed => ?_⟩
    · have found := ruleFound apart inside
      rwa [name] at found
    · rw [FieldRule.forType,bare,none_]
      exact lookup t listed

end Lookup

section Whole
variable {py : Python} (builtin : Builtin py) (yaml : YamlLibrary) (matrix : Matrix)

theorem sortedNodup (xs : List Int) : (xs.dedup.mergeSort (· ≤ ·)).Nodup :=
  (List.mergeSort_perm _ _).nodup_iff.mpr (List.nodup_dedup xs)

theorem setPatternNew {patterns : List PatternSpec} {spec : PatternSpec} (new : ∀ p ∈ patterns, p.number ≠ spec.number) :
    setPattern patterns spec = patterns ++ [spec] := by
  refine if_neg (fun met => ?_)
  obtain ⟨p,member,same⟩ := List.any_eq_true.mp met
  exact new p member (decide_eq_true_eq.mp same)

theorem foldPatterns {step : List PatternSpec → Int → Except LoadError (List PatternSpec)} {spec : Int → PatternSpec}
    (numbered : ∀ p, (spec p).number = p) (each : ∀ before p, step before p = .ok (setPattern before (spec p)))
    {numbers before : List Int} (apart : (before ++ numbers).Nodup) :
    numbers.foldlM step (before.map spec) = .ok ((before ++ numbers).map spec) := by
  induction numbers generalizing before with
  | nil => simp [pure,Except.pure]
  | cons p rest ih =>
    have new : ∀ q ∈ before.map spec, q.number ≠ (spec p).number := by
      intro q member same
      obtain ⟨number,own,rfl⟩ := List.mem_map.mp member
      rw [numbered,numbered] at same
      exact (List.nodup_append.mp apart).2.2 _ own _ (List.mem_cons_self ..) same
    have whole : before ++ p :: rest = (before ++ [p]) ++ rest := by simp
    have one : before.map spec ++ [spec p] = (before ++ [p]).map spec := by simp
    rw [whole] at apart ⊢
    rw [List.foldlM_cons,each,okBind,setPatternNew new,one]
    exact ih apart

include builtin in
theorem rulesRead (path : String) (read : yaml.safeLoad (document matrix).text = .ok ((document matrix).value yaml.unquoted)) :
    ∃ spec : Int → PatternSpec,
      (∀ p, (spec p).number = p ∧ (spec p).types = supported (types matrix p) ∧
        ∀ named ∈ [("header",(spec p).header),("body",(spec p).body),("payment",(spec p).payment),("sg",(spec p).sg)],
          ∃ rule excluded, Loaded matrix p (types matrix p) named.1 named.2 rule excluded) ∧
      loadRules py path (yaml.source (emitYaml matrix)) = .ok ⟨(patterns matrix).map spec,[]⟩ := by
  have each : ∀ p, ∃ spec, patternSpec py (.int p) (specValue yaml matrix p (types matrix p)) = .ok spec ∧
      spec.number = p ∧ spec.types = supported (types matrix p) ∧
      ∀ named ∈ [("header",spec.header),("body",spec.body),("payment",spec.payment),("sg",spec.sg)],
        ∃ rule excluded, Loaded matrix p (types matrix p) named.1 named.2 rule excluded :=
    fun p => specRead builtin yaml matrix p (types matrix p) (sortedNodup _)
  choose spec made own using each
  refine ⟨spec,own,?_⟩
  have members : (document matrix).value yaml.unquoted = .dict [(.str "patterns",(Node.block ((patterns matrix).map
      (fun p => (.int p,.block (patternMembers matrix p (types matrix p)))))).value yaml.unquoted)] := rfl
  have ran := @foldPatterns (fun before p => do
    let spec ← patternSpec py (.int p) (specValue yaml matrix p (types matrix p))
    pure (setPattern before spec)) spec (fun p => (own p).1) (fun before p => by rw [made p]; rfl) (patterns matrix) []
    (sortedNodup _)
  have given : ((document matrix).value yaml.unquoted).get "patterns" .null = .ok ((Node.block ((patterns matrix).map
      (fun p => (.int p,.block (patternMembers matrix p (types matrix p)))))).value yaml.unquoted) := by
    rw [members,Yaml.get,memberOwn]
    rfl
  have absent : ∀ key, "patterns" ≠ key → ∀ default, ((document matrix).value yaml.unquoted).get key default = .ok default := by
    intro key other default
    rw [members,Yaml.get,memberOther other]
    rfl
  have loaded : loadRules py path (yaml.source (emitYaml matrix)) = ruleSet py ((document matrix).value yaml.unquoted) := by
    rw [emitted,YamlLibrary.source,read,members]
    rfl
  have folded : (patterns matrix).foldlM (fun before p => do
      let spec ← patternSpec py (.int p) (specValue yaml matrix p (types matrix p))
      pure (setPattern before spec)) [] = .ok ((patterns matrix).map spec) := ran
  rw [loaded,ruleSet,given,okBind,blockItems,okBind,blockValuesMap,List.map_map,List.foldlM_map]
  refine (congrArg (· >>= _) folded).trans ?_
  rw [okBind,absent "enums" (by decide),okBind,absent "defaults" (by decide),absent "version" (by decide)]
  show (py.int (.int 1) >>= fun _ => _) = _
  rw [builtin.int]
  rfl

structure Survives (rules : RuleSet) (e : String × Meta) (pattern : Int) : Prop where
  rule : ∃ spec listed r, rules.pattern pattern = some spec ∧ spec.section_ e.2.section_ = some listed ∧
    listed.find? (fun q => q.name = e.1) = some r ∧ (∀ t ∈ types matrix pattern, t ∈ spec.types) ∧
    ∀ t ∈ spec.types, r.forType (some t) = (e.2.patterns.get (t,pattern)).getD .notApplicable

include builtin in
theorem matrixSurvives (known : Known matrix) (reads : yaml.Reads (document matrix)) (path : String) :
    ∃ rules, loadRules py path (yaml.source (emitYaml matrix)) = .ok rules ∧
      ∀ e ∈ matrix.entries, ∀ pattern ∈ patterns matrix, Survives matrix rules e pattern := by
  obtain ⟨spec,own,loaded⟩ := rulesRead builtin yaml matrix path (reads (documentPlain known))
  refine ⟨_,loaded,fun e member pattern listed => ⟨?_⟩⟩
  obtain ⟨numbered,typed,sections⟩ := own pattern
  have found : RuleSet.pattern ⟨(patterns matrix).map spec,[]⟩ pattern = some (spec pattern) := by
    have some_ : (((patterns matrix).map spec).find? (fun p => p.number == pattern)).isSome = true :=
      List.find?_isSome.mpr ⟨spec pattern,List.mem_map_of_mem listed,beq_iff_eq.mpr numbered⟩
    obtain ⟨q,found⟩ := Option.isSome_iff_exists.mp some_
    have same : q.number = pattern := by simpa using List.find?_some found
    obtain ⟨p,_,rfl⟩ := List.mem_map.mp (List.mem_of_find?_eq_some found)
    rw [(own p).1] at same
    rw [RuleSet.pattern,found,same]
  have covered : ∀ t ∈ types matrix pattern, t ∈ supported (types matrix pattern) := by
    intro t inside
    rw [supported,if_neg (List.ne_nil_of_mem inside)]
    exact inside
  obtain ⟨rules,section_,stored⟩ : ∃ rules, (spec pattern).section_ e.2.section_ = some rules ∧
      (e.2.section_,rules) ∈ [("header",(spec pattern).header),("body",(spec pattern).body),
        ("payment",(spec pattern).payment),("sg",(spec pattern).sg)] := by
    have named := (fieldWord _ (known.listed e member)).2
    simp only [sectionNames,List.mem_cons,List.not_mem_nil,or_false] at named
    obtain same | same | same | same := named <;> rw [same] <;> exact ⟨_,rfl,by simp⟩
  obtain ⟨rule,excluded,whole⟩ := sections _ stored
  obtain ⟨r,met,agrees⟩ := loadedFound (sortedNodup _) member whole
  exact ⟨spec pattern,rules,r,found,section_,met,by rw [typed]; exact covered,by rw [typed]; exact agrees⟩

end Whole

namespace Example

theorem builtin : Builtin Document.Example.ints := ⟨fun _ => rfl,fun _ => rfl⟩

def table : Matrix where
  entries := [
    ("cap",{ section_ := "header", title := "مبلغ پرداختي نقدي", patterns := ⟨[((2,1),.optional),((1,1),.conditional)],by decide⟩ }),
    ("in",{ section_ := "header", title := "شناسه \"يکتا\"", patterns := ⟨[((2,1),.required)],by decide⟩ }),
    ("sgid",{ section_ := "sg", title := "شناسه كاالي حمل شده", patterns := ⟨[((2,1),.notApplicable),((1,1),.notApplicable)],by decide⟩ })]
  nodup := by decide

theorem tableKnown : Known table where
  listed := by decide +kernel
  titled := by decide +kernel

def library : YamlLibrary where
  safeLoad := fun text => if text = (document table).text then .ok ((document table).value id) else .error "unread"
  unquoted := id
  verbatim := fun _ _ _ => rfl

end Example

open Moadian.Extract.Example in
theorem matrixSurvivesTable : ∃ rules, loadRules Document.Example.ints "patterns.yaml" (library.source (emitYaml table)) = .ok rules ∧
    ∀ e ∈ table.entries, ∀ pattern ∈ patterns table, Survives table rules e pattern :=
  matrixSurvives builtin library table tableKnown (fun _ => if_pos rfl) "patterns.yaml"

end Moadian.Extract
