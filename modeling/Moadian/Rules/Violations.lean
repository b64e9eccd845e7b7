import Moadian.Json

/-! What a rule check produces. A finding that blocks submission is an error; a
warning is shown and does not block. -/
namespace Moadian

inductive Severity where
  | error | warning
  deriving DecidableEq, Repr

inductive Obligation where
  | required | optional | conditional | notApplicable
  deriving DecidableEq, Repr

structure Violation where
  field : String
  rule : String
  message : String
  reference : String
  severity : Severity := .error
  expected : Option PyFloat := none
  actual : Option PyFloat := none
  line : Option Nat := none
  context : Dict := []
  deriving Repr

structure ValidationReport where
  violations : List Violation
  deriving Repr

namespace ValidationReport

def errors (r : ValidationReport) : List Violation :=
  r.violations.filter (fun v => v.severity = .error)

def warnings (r : ValidationReport) : List Violation :=
  r.violations.filter (fun v => v.severity = .warning)

def ok (r : ValidationReport) : Bool := r.errors.isEmpty

end ValidationReport

structure VerificationResult where
  ok : Bool
  summary : String
  errors : List Json
  warnings : List Json
  pattern : Option Int
  patternName : String

namespace VerificationResult

def optional {α : Type} (f : α → Json) : Option α → Json
  | none => .null
  | some a => f a

def render (titles : List (String × String)) (v : Violation) : Json :=
  let title := (titles.lookup v.field).getD ""
  .obj [
    ("field",.str v.field),
    ("title",if title ≠ "" then .str title else (v.context.lookup "title").getD (.str "")),
    ("line",optional (fun n => .int n) v.line),
    ("rule",.str v.rule),
    ("message",.str v.message),
    ("reference",.str v.reference),
    ("expected",optional .float v.expected),
    ("actual",optional .float v.actual)]

def summaryOf : List Violation → List Violation → String
  | [], [] => "صورتحساب معتبر است."
  | [], warnings => "صورتحساب معتبر است." ++ " (" ++ toString warnings.length ++ " هشدار)"
  | [v], _ => "یک خطا یافت شد: " ++ v.message
  | errors, _ => toString errors.length ++ " خطا در صورتحساب یافت شد."

def fromReport (report : ValidationReport) (titles : List (String × String))
    (pattern : Option (Int × String)) : VerificationResult where
  ok := report.errors.isEmpty
  summary := summaryOf report.errors report.warnings
  errors := report.errors.map (render titles)
  warnings := report.warnings.map (render titles)
  pattern := pattern.map Prod.fst
  patternName := (pattern.map Prod.snd).getD ""

def asDict (r : VerificationResult) : Dict := [
  ("ok",.bool r.ok),
  ("summary",.str r.summary),
  ("pattern",optional (fun n => .int n) r.pattern),
  ("patternName",.str r.patternName),
  ("errors",.arr r.errors),
  ("warnings",.arr r.warnings)]

end VerificationResult
end Moadian
