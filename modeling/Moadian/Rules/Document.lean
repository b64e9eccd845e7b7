import Moadian.Rules.Spec

/-! `load_rules`: the matrix out of what `yaml.safe_load` has read. Python's `int`, `str`
and `repr` of a value are taken as given. -/
namespace Moadian.Document

-- `other` is a float, a date and the like, with its text and whether it is true.
inductive Yaml where
  | null
  | bool (b : Bool)
  | int (n : Int)
  | str (s : String)
  | list (items : List Yaml)
  | dict (members : List (Yaml × Yaml))
  | other (text : String) (true_ : Bool)

inductive LoadError where
  | configuration (message : String)
  | attributeError
  | keyError (key : String)
  | typeError
  | valueError

structure Python where
  int : Yaml → Except LoadError Int
  str : Yaml → String
  repr : Yaml → String

inductive Source where
  | unreadable (reason : String)
  | notYaml (reason : String)
  | read (raw : Yaml)

namespace Yaml

def truthy : Yaml → Bool
  | null => false
  | bool b => b
  | int n => n ≠ 0
  | str s => s ≠ ""
  | list items => !items.isEmpty
  | dict members => !members.isEmpty
  | other _ true_ => true_

def isStr (text : String) : Yaml → Bool
  | str s => s = text
  | _ => false

def hashable : Yaml → Bool
  | list _ => false
  | dict _ => false
  | _ => true

def member (members : List (Yaml × Yaml)) (key : String) : Option Yaml :=
  (members.find? (fun m => m.1.isStr key)).map Prod.snd

def get (y : Yaml) (key : String) (default : Yaml) : Except LoadError Yaml :=
  match y with
  | dict members => .ok ((member members key).getD default)
  | _ => .error .attributeError

def item (y : Yaml) (key : String) : Except LoadError Yaml :=
  match y with
  | dict members =>
    match member members key with
    | some v => .ok v
    | none => .error (.keyError key)
  | _ => .error .typeError

def items : Yaml → Except LoadError (List (Yaml × Yaml))
  | dict members => .ok members
  | y => if y.truthy then .error .attributeError else .ok []

def iterate : Yaml → Except LoadError (List Yaml)
  | list items => .ok items
  | dict members => .ok (members.map Prod.fst)
  | str s => .ok (s.toList.map (fun c => .str (String.singleton c)))
  | _ => .error .typeError

def or (y default : Yaml) : Yaml := if y.truthy then y else default

end Yaml

open Yaml

section Load
variable (py : Python)

-- A text that is false is shown nowhere.
def text (y : Yaml) : String := if y.truthy then py.str y else ""

def obligationOf : Yaml → Option Obligation
  | .str "required" => some .required
  | .str "optional" => some .optional
  | .str "conditional" => some .conditional
  | .str "not_applicable" => some .notApplicable
  | _ => none

def obligation (value : Yaml) : Except LoadError Obligation :=
  match obligationOf value with
  | some o => .ok o
  | none => .error .valueError

def setRule (rules : List FieldRule) (rule : FieldRule) : List FieldRule :=
  if rules.any (fun r => r.name = rule.name) then rules.map (fun r => if r.name = rule.name then rule else r)
  else rules ++ [rule]

def setType (byType : List (Int × Obligation)) (t : Int) (o : Obligation) : List (Int × Obligation) :=
  if byType.any (fun p => p.1 = t) then byType.map (fun p => if p.1 = t then (t,o) else p) else byType ++ [(t,o)]

def byTypeOf (members : List (Yaml × Yaml)) : Except LoadError (List (Int × Obligation)) :=
  members.foldlM (fun byType m => do
    let t ← py.int m.1
    let o ← obligation m.2
    pure (setType byType t o)) []

def ruleObligation (place : String) (spec : Yaml) : Except LoadError Obligation :=
  match spec.item "obligation" with
  | .error (.keyError key) => .error (.configuration (place ++ " has an invalid obligation: " ++ py.repr (.str key)))
  | .error e => .error e
  | .ok value =>
    match obligationOf value with
    | some o => .ok o
    | none => .error (.configuration
        (place ++ " has an invalid obligation: " ++ py.repr value ++ " is not a valid Obligation"))

def knownConditions : String := "['ins in (2, 3, 4)', 'insr == 1', 'setm == 3']"

def checkCondition (place : String) (condition : Yaml) : Except LoadError Unit :=
  if !condition.truthy then .error (.configuration (place ++ " is conditional but names no 'when'"))
  else if !condition.hashable then .error .typeError
  else if Spec.conditions.any (fun c => condition.isStr c.1) then .ok ()
  else .error (.configuration (place ++ " uses an unknown condition " ++ py.repr condition ++
    "; known conditions are " ++ knownConditions))

def conditionText : Yaml → Option String
  | .str s => some s
  | _ => none

def fieldRule (section_ : String) (pattern : Int) (defaultReference name spec : Yaml) : Except LoadError FieldRule := do
  let place := "pattern " ++ toString pattern ++ "." ++ section_ ++ "." ++ py.str name
  let o ← ruleObligation py place spec
  let condition ← spec.get "when" .null
  if o = .conditional ∧ condition.isStr Spec.unspecified = false then checkCondition py place condition else pure ()
  let reference ← spec.get "reference" .null
  let conditionReference ← spec.get "condition_reference" .null
  let message ← spec.get "message" (.str "")
  let title ← spec.get "title" (.str "")
  let overrides ← spec.get "by_type" .null
  let members ← overrides.items
  let byType ← byTypeOf py members
  pure {
    name := py.str name
    obligation := o
    reference := text py (reference.or (conditionReference.or defaultReference))
    message := text py message
    condition := conditionText condition
    title := text py title
    byType := byType }

def fieldRules (raw : Yaml) (section_ : String) (pattern : Int) (defaultReference : Yaml) :
    Except LoadError (List FieldRule) := do
  let members ← raw.items
  members.foldlM (fun rules m => do
    let rule ← fieldRule py section_ pattern defaultReference m.1 m.2
    pure (setRule rules rule)) []

structure Sections where
  header : List FieldRule
  body : List FieldRule
  payment : List FieldRule
  sg : List FieldRule

def excludedRule (reference wire : Yaml) : FieldRule where
  name := py.str wire
  obligation := .notApplicable
  reference := text py reference

def excludeFrom (reference : Yaml) (rules : List FieldRule) (names : Yaml) : Except LoadError (List FieldRule) := do
  let wires ← names.iterate
  wires.foldlM (fun rules wire =>
    if wire.hashable then .ok (setRule rules (excludedRule py reference wire)) else .error .typeError) rules

def exclude (reference : Yaml) (s : Sections) (m : Yaml × Yaml) : Except LoadError Sections :=
  if m.1.isStr "header" then (excludeFrom py reference s.header m.2).map (fun rules => { s with header := rules })
  else if m.1.isStr "body" then (excludeFrom py reference s.body m.2).map (fun rules => { s with body := rules })
  else if m.1.isStr "payment" then (excludeFrom py reference s.payment m.2).map (fun rules => { s with payment := rules })
  else if m.1.isStr "sg" then (excludeFrom py reference s.sg m.2).map (fun rules => { s with sg := rules })
  else .ok s

def sectionRules (spec : Yaml) (number : Int) (name : String) : Except LoadError (List FieldRule) := do
  let raw ← spec.get name .null
  let reference ← spec.get "reference" (.str "")
  fieldRules py raw name number reference

def sections (spec : Yaml) (number : Int) : Except LoadError Sections := do
  let header ← sectionRules py spec number "header"
  let body ← sectionRules py spec number "body"
  let payment ← sectionRules py spec number "payment"
  let sg ← sectionRules py spec number "sg"
  let excluded ← spec.get "excluded" .null
  let members ← excluded.items
  let reference ← spec.get "reference" (.str "")
  members.foldlM (exclude py reference) ⟨header,body,payment,sg⟩

def patternSpec (key spec : Yaml) : Except LoadError PatternSpec := do
  let number ← py.int key
  let s ← sections py spec number
  let name ← spec.get "name" (.str "")
  let nameEn ← spec.get "name_en" (.str "")
  let typed ← spec.get "types" .null
  let listed ← (typed.or (.list [.int 1])).iterate
  let types ← listed.mapM py.int
  let reference ← spec.get "reference" (.str "")
  let coverage ← spec.get "coverage" (.str "partial")
  pure {
    number := number
    name := text py name
    nameEn := text py nameEn
    header := s.header
    body := s.body
    payment := s.payment
    sg := s.sg
    types := types
    reference := text py reference
    coverage := text py coverage }

def setPattern (patterns : List PatternSpec) (spec : PatternSpec) : List PatternSpec :=
  if patterns.any (fun p => p.number = spec.number) then
    patterns.map (fun p => if p.number = spec.number then spec else p)
  else patterns ++ [spec]

def enumRule (name spec : Yaml) : Except LoadError EnumRule := do
  let values ← spec.item "values"
  let listed ← values.iterate
  let ints ← listed.mapM py.int
  let message ← spec.get "message" (.str ("مقدار فیلد " ++ py.str name ++ " مجاز نیست."))
  let reference ← spec.get "reference" (.str "")
  pure { name := py.str name, values := ints, message := text py message, reference := text py reference }

def ruleSet (raw : Yaml) : Except LoadError RuleSet := do
  let given ← raw.get "patterns" .null
  let members ← given.items
  let patterns ← members.foldlM (fun patterns m => do
    let spec ← patternSpec py m.1 m.2
    pure (setPattern patterns spec)) []
  let enums ← raw.get "enums" .null
  let named ← enums.items
  let enumRules ← named.mapM (fun m => enumRule py m.1 m.2)
  let defaults ← raw.get "defaults" .null
  let optional ← (defaults.or (.dict [])).get "obligation" (.str "optional")
  let _ ← obligation optional
  let version ← raw.get "version" (.int 1)
  let _ ← py.int version
  pure { patterns := patterns, enums := enumRules }

def loadRules (path : String) : Source → Except LoadError RuleSet
  | .unreadable reason => .error (.configuration ("cannot read rule spec " ++ path ++ ": " ++ reason))
  | .notYaml reason => .error (.configuration ("rule spec " ++ path ++ " is not valid YAML: " ++ reason))
  | .read (.dict members) => ruleSet py (.dict members)
  | .read _ => .error (.configuration ("rule spec " ++ path ++ " must be a mapping"))

end Load
end Moadian.Document
