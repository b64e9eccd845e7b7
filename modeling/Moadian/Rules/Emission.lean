import Moadian.Rules.Extract
import Moadian.Rules.Flow

/-! The document that `emit_yaml` writes: its text is what is written, and it is plain. -/
namespace Moadian.Extract
open Document

section Pattern
variable (matrix : Matrix) (pattern : Int) (types : List Int)

def rowFlow (wire : String) (entry : Meta) : Flow :=
  let known := (knownConditions.lookup wire).getD ("unspecified","")
  .map ([(.word "obligation",.word (obligationText (entry.primary pattern types)))] ++
    (if entry.primary pattern types = .conditional then
      [(.word "when",.quoted known.1)] ++
      (if known.2 ≠ "" then [(.word "condition_reference",.quoted known.2)] else [])
    else []) ++
    (if entry.overrides pattern types ≠ [] then
      [(.word "by_type",.map ((entry.overrides pattern types).map (fun o => (.int o.1,.word (obligationText o.2)))))]
    else []) ++
    [(.word "title",.quoted entry.title)])

def rowNodes (section_ : String) : List (Flow × Node) :=
  ((entries matrix section_).filter (fun e => !e.2.excluded pattern types)).map
    (fun e => (.word e.1,.flow (rowFlow pattern types e.1 e.2)))

def sectionNode (section_ : String) : List (Flow × Node) :=
  if rowNodes matrix pattern types section_ ≠ [] then
    [(.word section_,.block (rowNodes matrix pattern types section_))]
  else []

def namesFlow (names : List String) : Flow := .seq ((names.mergeSort (· ≤ ·)).map Flow.word)

def leftOut : List (String × List String) :=
  (sectionNames.map (fun s => (s,left matrix pattern types s))).filter (fun e => e.2 ≠ [])

def excludedNode : List (Flow × Node) :=
  if leftOut matrix pattern types ≠ [] then
    [(.word "excluded",.block ((leftOut matrix pattern types).map (fun e => (.word e.1,.flow (namesFlow e.2)))))]
  else []

def supported : List Int := if types = [] then [1] else types

def reference : String := "RC_IITP_IS_V7_9_1 جدول شماره ۱"

def heads : List (Flow × Node) := [
  (.word "name",.flow (.quoted (names pattern).1)),
  (.word "name_en",.flow (.quoted (names pattern).2)),
  (.word "coverage",.flow (.word "complete")),
  (.word "types",.flow (.seq ((supported types).map Flow.int))),
  (.word "reference",.flow (.quoted reference))]

def patternMembers : List (Flow × Node) :=
  heads pattern types ++ sectionNames.flatMap (sectionNode matrix pattern types) ++ excludedNode matrix pattern types

end Pattern

def comments : List String := [
  "# GENERATED by tools/extract_table1.py from RC_IITP_IS_V7_9_1 جدول شماره ۱ (p.14).",
  "# Verified against the §8 per-field tables by the tool's --check anchors.",
  "# Edit the tool and regenerate; hand edits here will be overwritten."]

def document (matrix : Matrix) : Doc where
  comments := comments
  members := [(.word "patterns",.block ((patterns matrix).map
    (fun p => (.int p,.block (patternMembers matrix p (types matrix p))))))]

/-! The text. -/

section Text
variable (matrix : Matrix) (pattern : Int) (types : List Int)

theorem quoteScalar (s : String) : quote s = yamlScalar s := rfl

theorem braced (key x : String) : key ++ ("\x7b" ++ x ++ "\x7d") = key ++ "\x7b" ++ x ++ "\x7d" := by
  rw [← String.append_assoc,← String.append_assoc]

theorem keyed : "obligation" ++ ": " = "obligation: " ∧ "when" ++ ": " = "when: " ∧
    "condition_reference" ++ ": " = "condition_reference: " ∧ "by_type" ++ ": " ++ "\x7b" = "by_type: \x7b" ∧
    "title" ++ ": " = "title: " := by decide +kernel

theorem partsText (wire : String) (entry : Meta) :
    (rowFlow pattern types wire entry).text = "\x7b" ++ join (parts pattern types wire entry) ++ "\x7d" := by
  obtain ⟨obligation,when_,reference,byType,title⟩ := keyed
  unfold rowFlow parts
  rw [Flow.text,pairTextsMap]
  congr 3
  simp only [List.map_append,List.map_cons,List.map_nil,Flow.text,pairTextsMap,quoteScalar,apply_ite (List.map _),join,
    List.map_map,Function.comp_def,braced,obligation,when_,reference,byType,title]

theorem rowLines (section_ : String) :
    Node.blockLines 3 (rowNodes matrix pattern types section_) = rows matrix pattern types section_ := by
  have three : indent 3 = "      " := rfl
  have apart : ": \x7b" = ": " ++ "\x7b" := by decide +kernel
  rw [blockLinesMap,rowNodes,rows,List.flatMap_map,List.map_eq_flatMap]
  refine List.flatMap_congr (fun e _ => ?_)
  rw [Node.lines,partsText,braced,three,apart,← String.append_assoc]
  rfl

theorem sectionLines (section_ : String) : Node.blockLines 2 (sectionNode matrix pattern types section_) =
    (let rows := rows matrix pattern types section_; if rows ≠ [] then ("    " ++ section_ ++ ":") :: rows else []) := by
  have same : rowNodes matrix pattern types section_ = [] ↔ rows matrix pattern types section_ = [] := by
    simp [rowNodes,rows]
  unfold sectionNode
  by_cases none_ : rows matrix pattern types section_ = []
  · rw [if_neg (by simpa using same.mpr none_)]
    simp [none_,Node.blockLines]
  · have some_ : rowNodes matrix pattern types section_ ≠ [] := fun gone => none_ (same.mp gone)
    rw [if_pos some_]
    simp only [Node.blockLines,Node.lines,List.append_nil]
    rw [if_pos none_,rowLines]
    rfl

theorem namesText (names : List String) : (namesFlow names).text = "[" ++ join (names.mergeSort (· ≤ ·)) ++ "]" := by
  rw [namesFlow,Flow.text,textsMap,List.map_map]
  have words : List.map (Flow.text ∘ Flow.word) (names.mergeSort (· ≤ ·)) = names.mergeSort (· ≤ ·) :=
    (List.map_congr_left (fun s _ => rfl)).trans (List.map_id _)
  rw [words,join]

theorem excludedLines : Node.blockLines 2 (excludedNode matrix pattern types) =
    (if leftOut matrix pattern types ≠ [] then
      "    excluded:" :: (leftOut matrix pattern types).map (fun e => "      " ++ e.1 ++ ": [" ++ join (e.2.mergeSort (· ≤ ·)) ++ "]")
    else []) := by
  have apart : ": [" = ": " ++ "[" := by decide +kernel
  have key : indent 2 ++ (Flow.word "excluded").text ++ ":" = "    excluded:" := by decide +kernel
  unfold excludedNode
  split
  · rw [Node.blockLines,Node.lines,blockLinesMap,List.flatMap_map,List.map_eq_flatMap,key,Node.blockLines,List.append_nil]
    refine congrArg _ (List.flatMap_congr (fun e _ => ?_))
    rw [Node.lines,namesText,apart]
    simp only [← String.append_assoc]
    rfl
  · rfl

theorem shownSome (n : Int) : toString n ≠ "" := by
  cases n with
  | ofNat n => exact Nat.repr_ne_empty
  | negSucc n => exact fun gone => Nat.repr_ne_empty (String.append_eq_empty_iff.mp gone).2

theorem joinSome {t : String} {rest : List String} (some_ : t ≠ "") : join (t :: rest) ≠ "" := by
  cases rest with
  | nil => simpa [join] using some_
  | cons u rest =>
    intro gone
    rw [join,String.intercalate_cons_cons,String.append_eq_empty_iff,String.append_eq_empty_iff] at gone
    exact some_ gone.1.1

theorem typesText : (Flow.seq ((supported types).map Flow.int)).text =
    "[" ++ (let listed := join (types.map toString); if listed = "" then "1" else listed) ++ "]" := by
  rw [Flow.text,textsMap,List.map_map]
  have shown : List.map (Flow.text ∘ Flow.int) (supported types) = (supported types).map toString := rfl
  rw [shown,supported]
  cases types with
  | nil => decide +kernel
  | cons t rest =>
    rw [if_neg (List.cons_ne_nil t rest)]
    have some_ : join (List.map toString (t :: rest)) ≠ "" := joinSome (shownSome t)
    show _ = "[" ++ (if join (List.map toString (t :: rest)) = "" then "1" else join (List.map toString (t :: rest))) ++ "]"
    rw [if_neg some_,join]

theorem headLines : Node.blockLines 2 (heads pattern types) = [
    "    name: " ++ yamlScalar (names pattern).1,
    "    name_en: " ++ yamlScalar (names pattern).2,
    "    coverage: complete",
    "    types: [" ++ (let listed := join (types.map toString); if listed = "" then "1" else listed) ++ "]",
    "    reference: \"RC_IITP_IS_V7_9_1 جدول شماره ۱\""] := by
  have keys : indent 2 ++ "name" ++ ": " = "    name: " ∧ indent 2 ++ "name_en" ++ ": " = "    name_en: " ∧
      indent 2 ++ "coverage" ++ ": " ++ "complete" = "    coverage: complete" ∧
      indent 2 ++ "types" ++ ": " ++ "[" = "    types: [" ∧
      indent 2 ++ "reference" ++ ": " ++ quote reference = "    reference: \"RC_IITP_IS_V7_9_1 جدول شماره ۱\"" := by
    decide +kernel
  obtain ⟨name,nameEn,coverage,listed,referenced⟩ := keys
  unfold heads
  simp only [Node.blockLines,Node.lines,typesText,List.nil_append,List.cons_append]
  simp only [Flow.text,quoteScalar,name,nameEn,coverage,← String.append_assoc,listed]
  rw [← referenced]
  rfl

theorem appendLines (depth : Nat) (left right : List (Flow × Node)) :
    Node.blockLines depth (left ++ right) = Node.blockLines depth left ++ Node.blockLines depth right := by
  simp only [blockLinesMap,List.flatMap_append]

theorem patternText : Node.lines 1 (.int pattern) (.block (patternMembers matrix pattern (Extract.types matrix pattern))) =
    patternLines matrix pattern := by
  have each : Node.blockLines 2 (sectionNames.flatMap (sectionNode matrix pattern (Extract.types matrix pattern))) =
      sectionNames.flatMap (fun s => let rows := rows matrix pattern (Extract.types matrix pattern) s;
        if rows ≠ [] then ("    " ++ s ++ ":") :: rows else []) := by
    rw [blockLinesMap,List.flatMap_assoc]
    refine List.flatMap_congr (fun s _ => ?_)
    rw [← blockLinesMap]
    exact sectionLines matrix pattern _ s
  rw [Node.lines,patternMembers,appendLines,appendLines,headLines,each,excludedLines]
  rfl

theorem emitted : emitYaml matrix = (document matrix).text := by
  have key : indent 0 ++ (Flow.word "patterns").text ++ ":" = "patterns:" := by decide +kernel
  have below : Node.blockLines 1 ((patterns matrix).map (fun p => (.int p,.block (patternMembers matrix p (types matrix p))))) =
      (patterns matrix).flatMap (patternLines matrix) := by
    rw [blockLinesMap,List.flatMap_map]
    exact List.flatMap_congr (fun p _ => patternText matrix p)
  unfold emitYaml Doc.text document
  simp only [Node.blockLines,Node.lines,below,key,List.append_nil]
  rfl

end Text

/-! Nothing in it needs quotes that has none. -/

structure Known (matrix : Matrix) : Prop where
  listed : ∀ e ∈ matrix.entries, (e.1,e.2.section_) ∈ fields
  titled : ∀ e ∈ matrix.entries, quotable e.2.title = true

section Plain
variable {matrix : Matrix}

theorem fieldWord : ∀ f ∈ fields, isWord f.1 = true ∧ f.2 ∈ sectionNames := by decide +kernel

theorem obligationWord (o : Obligation) : isWord (obligationText o) = true := by
  cases o <;> decide +kernel

theorem quotableAbsent {s : String} : quotable s = true ↔ '\\' ∉ s.toList := by
  simp [quotable]

theorem quotableAppend {s t : String} (left : quotable s = true) (right : quotable t = true) : quotable (s ++ t) = true := by
  rw [quotableAbsent] at left right ⊢
  rw [String.toList_append,List.mem_append]
  exact fun member => member.elim left right

theorem shownQuotable (n : Int) : quotable (toString n) = true := by
  have digits : ∀ m : Nat, '\\' ∉ m.repr.toList := by
    intro m member
    rw [Nat.repr_eq_ofList_toDigits,String.toList_ofList] at member
    exact absurd (Nat.isDigit_of_mem_toDigits (by decide) (by decide) member) (by decide)
  have absent : '\\' ∉ (toString n).toList := by
    cases n with
    | ofNat m => exact digits m
    | negSucc m =>
      show '\\' ∉ ("-" ++ (m+1).repr).toList
      rw [String.toList_append,List.mem_append]
      exact fun member => member.elim (by decide) (digits (m+1))
  exact quotableAbsent.mpr absent

theorem namesQuotable (pattern : Int) : quotable (names pattern).1 = true ∧ quotable (names pattern).2 = true := by
  have listed : ∀ e ∈ patternNames, quotable e.2.1 = true ∧ quotable e.2.2 = true := by decide +kernel
  unfold names
  cases found : patternNames.lookup pattern with
  | some own => exact listed _ (Json.lookupMem found)
  | none => exact ⟨quotableAppend (by decide +kernel) (shownQuotable pattern),quotableAppend (by decide +kernel) (shownQuotable pattern)⟩

theorem conditionQuotable (wire : String) :
    quotable ((knownConditions.lookup wire).getD ("unspecified","")).1 = true ∧
      quotable ((knownConditions.lookup wire).getD ("unspecified","")).2 = true := by
  have listed : ∀ e ∈ knownConditions, quotable e.2.1 = true ∧ quotable e.2.2 = true := by decide +kernel
  cases found : knownConditions.lookup wire with
  | some own => exact listed _ (Json.lookupMem found)
  | none => exact ⟨by decide +kernel,by decide +kernel⟩

theorem rowPlain (known : Known matrix) {e : String × Meta} (member : e ∈ matrix.entries) (pattern : Int) (types : List Int) :
    (rowFlow pattern types e.1 e.2).plain = true := by
  have words : isWord "obligation" = true ∧ isWord "when" = true ∧ isWord "condition_reference" = true ∧
      isWord "by_type" = true ∧ isWord "title" = true := by decide +kernel
  obtain ⟨obligation,when_,reference,byType,title⟩ := words
  obtain ⟨condition,clause⟩ := conditionQuotable e.1
  have inner : ∀ overrides : List (Int × Obligation),
      Flow.plainPairs (overrides.map (fun o => (.int o.1,.word (obligationText o.2)))) = true := by
    intro overrides
    rw [plainPairsAll,List.all_map,List.all_eq_true]
    exact fun o _ => obligationWord o.2
  unfold rowFlow
  rw [Flow.plain,plainPairsAll]
  simp only [List.all_append,Bool.and_eq_true]
  refine ⟨⟨⟨?_,?_⟩,?_⟩,?_⟩
  · simp [Flow.plain,obligation,obligationWord]
  · split
    · rw [List.all_append,Bool.and_eq_true]
      refine ⟨by simp [Flow.plain,when_,condition],?_⟩
      split
      · simp [Flow.plain,reference,clause]
      · rfl
    · rfl
  · split
    · simp [Flow.plain,byType,inner]
    · rfl
  · simp [Flow.plain,title,known.titled e member]

theorem wirePlain (known : Known matrix) {e : String × Meta} (member : e ∈ matrix.entries) : isWord e.1 = true :=
  (fieldWord _ (known.listed e member)).1

theorem plainAppend (left right : List (Flow × Node)) :
    Node.plainPairs (left ++ right) = (Node.plainPairs left && Node.plainPairs right) := by
  simp only [plainBlockAll,List.all_append]

theorem sectionPlain (known : Known matrix) (pattern : Int) (types : List Int) {s : String} (named : s ∈ sectionNames) :
    Node.plainPairs (sectionNode matrix pattern types s) = true := by
  have word : ∀ s ∈ sectionNames, isWord s = true := by decide +kernel
  unfold sectionNode
  split
  · rw [plainBlockAll]
    simp only [List.all_cons,List.all_nil,Bool.and_true,Flow.plain,word s named,Bool.true_and,Node.plain]
    rw [plainBlockAll,rowNodes,List.all_map,List.all_eq_true]
    intro e kept
    have member := (List.mem_filter.mp (List.mem_filter.mp kept).1).1
    simp only [Function.comp,Flow.plain,Node.plain,wirePlain known member,rowPlain known member,Bool.and_self]
  · rfl

theorem excludedPlain (known : Known matrix) (pattern : Int) (types : List Int) :
    Node.plainPairs (excludedNode matrix pattern types) = true := by
  have word : isWord "excluded" = true ∧ ∀ s ∈ sectionNames, isWord s = true := by decide +kernel
  unfold excludedNode
  split
  · rw [plainBlockAll]
    simp only [List.all_cons,List.all_nil,Bool.and_true,Flow.plain,word.1,Bool.true_and,Node.plain]
    rw [plainBlockAll,List.all_map,List.all_eq_true]
    intro e kept
    obtain ⟨s,named,rfl⟩ := List.mem_map.mp (List.mem_filter.mp kept).1
    simp only [Function.comp,Flow.plain,Node.plain,word.2 s named,Bool.true_and,namesFlow,plainsAll]
    rw [List.all_map,List.all_eq_true]
    intro wire listed
    obtain ⟨e,inside,rfl⟩ := List.mem_map.mp (List.mem_mergeSort.mp listed)
    exact wirePlain known (List.mem_filter.mp (List.mem_filter.mp inside).1).1
  · rfl

theorem headsPlain (pattern : Int) (types : List Int) : Node.plainPairs (heads pattern types) = true := by
  have words : isWord "name" = true ∧ isWord "name_en" = true ∧ isWord "coverage" = true ∧ isWord "complete" = true ∧
      isWord "types" = true ∧ isWord "reference" = true ∧ quotable reference = true := by decide +kernel
  obtain ⟨name,nameEn,coverage,complete,types_,reference_,quoted⟩ := words
  obtain ⟨fa,en⟩ := namesQuotable pattern
  simp [heads,plainBlockAll,Flow.plain,Node.plain,plainsAll,name,nameEn,coverage,complete,types_,reference_,quoted,fa,en]

theorem documentPlain (known : Known matrix) : (document matrix).plain = true := by
  have marked : comments.all (fun c => c.toList.head? = some '#') = true := by decide +kernel
  have word : isWord "patterns" = true := by decide +kernel
  rw [Doc.plain,show (document matrix).comments = comments from rfl,marked,Bool.true_and,document,plainBlockAll]
  simp only [List.all_cons,List.all_nil,Bool.and_true,Flow.plain,word,Bool.true_and,Node.plain]
  rw [plainBlockAll,List.all_map,List.all_eq_true]
  intro p _
  simp only [Function.comp,Flow.plain,Node.plain,Bool.true_and,patternMembers,plainAppend,headsPlain,excludedPlain known,
    Bool.and_true]
  rw [plainBlockAll,List.all_flatMap,List.all_eq_true]
  intro s named
  rw [← plainBlockAll]
  exact sectionPlain known p _ named

end Plain
end Moadian.Extract
