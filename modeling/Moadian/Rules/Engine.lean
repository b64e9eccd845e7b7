import Moadian.Rules.Arithmetic
import Moadian.Rules.Spec
import Moadian.Units

/-! `RuleEngine`: every finding about one invoice, reported at once. -/
namespace Moadian

structure RuleEngine where
  rules : RuleSet

namespace RuleEngine

def defaultPattern : Int := 1

def maxSsttLength : Nat := 400

def maxMuLength : Nat := 8

def patternNumber (invoice : Invoice) : Int :=
  match invoice.header.inp with
  | none => defaultPattern
  | some n => if n = 0 then defaultPattern else n

def notApplicable (r : FieldRule) : Violation where
  field := r.name
  rule := "obligation.not_applicable"
  message := "فیلد «" ++ r.label ++ "» جزو اقلام این الگو نیست و نباید ارسال شود."
  reference := r.reference
  context := [("title",.str r.title)]

def missing (r : FieldRule) (rule : String) (field : String) (line : Option Nat) : Violation where
  field := field
  line := line
  rule := rule
  message := r.defaultMessage
  reference := r.reference
  context := [("title",.str r.title)]

def checkHeaderField (header : Dict) (invoiceType : Option Int) (r : FieldRule) : List Violation :=
  match r.forType invoiceType with
  | .notApplicable => if header.has r.name then [notApplicable r] else []
  | .optional => []
  | .conditional =>
    if r.applies header && !header.has r.name then [missing r "obligation.conditional" r.name none] else []
  | .required => if header.has r.name then [] else [missing r "obligation.required" r.name none]

def checkLineFields (present : Dict) (invoiceType : Option Int) (fieldPrefix : String) (index : Nat)
    (rules : List FieldRule) : List Violation :=
  (rules.filter (fun r => r.forType invoiceType = .required && !present.has r.name)).map
    (fun r => missing r "obligation.required" (fieldPrefix ++ r.name) (some index))

def checkObligations (invoice : Invoice) (spec : PatternSpec) : List Violation :=
  let header : Dict := invoice.header.modelDump
  let invoiceType := invoice.header.inty
  (spec.header.map (checkHeaderField header invoiceType)).flatten ++
  (if invoice.body.isEmpty then [{
    field := "body", rule := "obligation.body_not_empty"
    message := "صورتحساب باید دست‌کم یک قلم کالا/خدمت داشته باشد."
    reference := "RC_IITP §7" }] else []) ++
  ((invoice.header.sg.getD []).zipIdx.map (fun (shipped,index) =>
    checkLineFields shipped.modelDump invoiceType "sg." index spec.sg)).flatten ++
  (invoice.body.zipIdx.map (fun (item,index) =>
    checkLineFields item.modelDump invoiceType "" index spec.body)).flatten

-- Every enumerated field is an integer field of the header.
def checkEnums {N : Type} (F : Numbers N) (rules : RuleSet) (invoice : Invoice) : List Violation :=
  let header : Dict := invoice.header.modelDump
  (rules.enums.map (fun r => match header.int r.name with
    | none => []
    | some value => if value ∈ r.values then [] else [{
        field := r.name, rule := "enum.out_of_range", message := r.message, reference := r.reference
        actual := some (F.shown (F.ofInt value)), context := [("allowed",.arr (r.values.map .int))] }])).flatten

def isAsciiDigit (c : Char) : Bool := '0' ≤ c && c ≤ '9'

def strip (s : String) : List Char :=
  ((s.toList.dropWhile Json.isSpace).reverse.dropWhile Json.isSpace).reverse

def checkSstt (item : InvoiceBodyItem) (index : Nat) : List Violation :=
  match item.sstt with
  | none => []
  | some sstt => if sstt.length ≤ maxSsttLength then [] else [{
      field := "sstt", rule := "length.sstt"
      message := "شرح کالا/خدمت حداکثر " ++ toString maxSsttLength ++ " نویسه است؛ " ++
        toString sstt.length ++ " نویسه وارد شده. آن را کوتاه کنید."
      reference := "RC_IITP §8-28، جدول ۳۰"
      expected := some (.finite maxSsttLength), actual := some (.finite sstt.length), line := some index }]

def checkMu (item : InvoiceBodyItem) (index : Nat) : List Violation :=
  match item.mu with
  | none => []
  | some raw =>
    let mu := strip raw
    if mu.isEmpty then []
    else if !mu.all isAsciiDigit || maxMuLength < mu.length then [{
      field := "mu", rule := "format.mu"
      message := "واحد اندازه‌گیری باید کد عددی حداکثر " ++ toString maxMuLength ++
        " رقمی از جدول واحدهای اندازه‌گیری سازمان باشد؛ «" ++ String.ofList mu ++
        "» وارد شده. خالی گذاشتن آن مجاز است."
      reference := "RC_IITP §8-30، جدول ۳۲", line := some index }]
    else if String.ofList mu ∉ units then [{
      field := "mu", rule := "format.mu_unverified"
      message := "کد واحد اندازه‌گیری «" ++ String.ofList mu ++ "» در جدول واحدهای اندازه‌گیری این نسخه (" ++
        toString units.length ++ " کد) نیست. اگر مطمئن نیستید، از فهرست انتخاب کنید؛ کد نامعتبر با " ++
        "خطای ۰۱۰۳۵۰۲ رد می‌شود."
      reference := "RC_IITP §8-30، جدول ۳۲", severity := .warning, line := some index }]
    else []

def checkLengths (invoice : Invoice) : List Violation :=
  (invoice.body.zipIdx.map (fun (item,index) => checkSstt item index ++ checkMu item index)).flatten

def checkPattern (rules : RuleSet) (invoice : Invoice) : List Violation :=
  let number := patternNumber invoice
  match rules.pattern number with
  | none => [{
      field := "inp", rule := "coverage.pattern_not_encoded"
      message := "قواعد الگوی " ++ toString number ++ " هنوز در این نسخه پیاده‌سازی نشده " ++
        "است؛ تنها قواعد عمومی بررسی شد."
      reference := "rules/patterns.yaml", severity := .warning, context := [("pattern",.int number)] }]
  | some spec =>
    checkObligations invoice spec ++
    (if spec.isComplete then [] else [{
      field := "inp", rule := "coverage.partial"
      message := "ماتریس قواعد الگوی " ++ toString number ++ " ناقص است؛ نبود خطا به " ++
        "معنای تأیید کامل نیست."
      reference := if spec.reference ≠ "" then spec.reference else "rules/patterns.yaml"
      severity := .warning
      context := [("pattern",.int number), ("coverage",.str spec.coverage)] }])

def report (engine : RuleEngine) {N : Type} (F : Numbers N) (invoice : Invoice) : ValidationReport where
  violations := checkPattern engine.rules invoice ++ checkEnums F engine.rules invoice ++
    checkLengths invoice ++ F.checkArithmetic invoice (patternNumber invoice)

abbrev validate (engine : RuleEngine) (invoice : Invoice) : ValidationReport := engine.report Arithmetic.exact invoice

def titles (spec : Option PatternSpec) : List (String × String) :=
  match spec with
  | none => []
  | some p => ((p.header ++ p.body ++ p.payment).filter (fun r => r.title ≠ "")).map (fun r => (r.name,r.title))

def verify (engine : RuleEngine) (invoice : Invoice) : VerificationResult :=
  let spec := engine.rules.pattern (patternNumber invoice)
  .fromReport (engine.validate invoice) (titles spec) (spec.map (fun p => (p.number,p.name)))

end RuleEngine
end Moadian
