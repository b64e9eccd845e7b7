import Moadian.Rules.Violations

/-! The obligation matrix, as `load_rules` leaves it. -/
namespace Moadian

def Dict.has (fields : Dict) (name : String) : Bool := fields.any (fun f => f.1 == name)

def Dict.int (fields : Dict) (name : String) : Option Int :=
  match fields.lookup name with
  | some (.int n) => some n
  | _ => none

namespace Spec

def conditions : List (String × (Dict → Bool)) := [
  ("setm == 3",fun h => h.int "setm" == some 3),
  ("insr == 1",fun h => h.int "insr" == some 1),
  ("ins in (2, 3, 4)",fun h => (h.int "ins").any (· ∈ [2,3,4]))]

def unspecified : String := "unspecified"

end Spec

structure FieldRule where
  name : String
  obligation : Obligation
  reference : String := ""
  message : String := ""
  condition : Option String := none
  title : String := ""
  byType : List (Int × Obligation) := []
  deriving Repr

namespace FieldRule

def forType (r : FieldRule) : Option Int → Obligation
  | none => r.obligation
  | some invoiceType => (r.byType.lookup invoiceType).getD r.obligation

def applies (r : FieldRule) (header : Dict) : Bool :=
  if r.obligation ≠ .conditional then true
  else match r.condition with
    | none => false
    | some w =>
      if w = Spec.unspecified then false
      else match Spec.conditions.lookup w with
        | none => false
        | some predicate => predicate header

def label (r : FieldRule) : String := if r.title ≠ "" then r.title else r.name

def defaultMessage (r : FieldRule) : String :=
  if r.message ≠ "" then r.message
  else if r.obligation = .conditional then "در این حالت، ثبت «" ++ r.label ++ "» اجباری است."
  else "ثبت «" ++ r.label ++ "» اجباری است."

end FieldRule

structure PatternSpec where
  number : Int
  name : String
  nameEn : String
  header : List FieldRule
  body : List FieldRule
  payment : List FieldRule := []
  sg : List FieldRule := []
  types : List Int := [1]
  reference : String := ""
  coverage : String := "partial"
  deriving Repr

-- `PatternSpec.section`; a name that is no section's raises.
def PatternSpec.section_ (p : PatternSpec) (name : String) : Option (List FieldRule) :=
  [("header",p.header),("body",p.body),("payment",p.payment),("sg",p.sg)].lookup name

def PatternSpec.isComplete (p : PatternSpec) : Bool := p.coverage == "complete"

structure EnumRule where
  name : String
  values : List Int
  message : String
  reference : String
  deriving Repr

structure RuleSet where
  patterns : List PatternSpec
  enums : List EnumRule
  deriving Repr

def RuleSet.pattern (rules : RuleSet) (number : Int) : Option PatternSpec :=
  rules.patterns.find? (fun p => p.number == number)

end Moadian
