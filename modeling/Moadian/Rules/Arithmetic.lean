import Mathlib.Algebra.Order.Group.Abs
import Mathlib.Algebra.Order.Ring.Rat
import Moadian.Models.Invoice
import Moadian.Rules.Violations

/-! The cross-field money rules, over any numbers. Each line rule and each total rule
yields at most one finding, in the order of the source. -/
namespace Moadian

structure Numbers (N : Type) where
  ofInt : Int → N
  ofFloat : ℚ → N
  add : N → N → N
  sub : N → N → N
  mul : N → N → N
  percent : N → N
  abs : N → N
  less : N → N → Bool
  atMost : N → N → Bool
  same : N → N → Bool
  sum : List N → N
  shown : N → PyFloat

def toleranceRial : Int := 1

def zeroVatPatterns : List Int := [7,11,14]

def whenever (broken : Bool) (v : Violation) : List Violation := if broken then [v] else []

theorem wheneverAll {P : Violation → Prop} {broken : Bool} {x : Violation} :
    (∀ v ∈ whenever broken x, P v) ↔ (broken = true → P x) := by
  cases broken <;> simp [whenever]

namespace Numbers
variable {N : Type} (F : Numbers N)

-- Absent money is zero.
def rial (value : Option Int) : N := F.ofInt (value.getD 0)

def amount (value : Option ℚ) : N := F.ofFloat (value.getD 0)

def zero : N := F.ofInt 0

def off (actual expected : N) : Bool := F.less (F.ofInt toleranceRial) (F.abs (F.sub actual expected))

def lineTotal (item : InvoiceBodyItem) (pattern : Int) : N :=
  let base := if pattern = 7 then F.rial item.ssrv else F.rial item.adis
  F.add (F.add (F.add base (F.rial item.vam)) (F.rial item.odam)) (F.rial item.olam)

def preDiscount (item : InvoiceBodyItem) (pattern : Int) : N :=
  if pattern = 2 then F.mul (F.amount item.cfee) (F.rial item.exr)
  else if pattern = 6 then F.amount item.fee
  else F.mul (F.amount item.am) (F.amount item.fee)

def afterDiscount (item : InvoiceBodyItem) (pattern : Int) : N :=
  let base := F.preDiscount item pattern
  F.sub (if pattern = 3 then F.add base (F.rial item.tcpbs) else base) (F.rial item.dis)

def vat (item : InvoiceBodyItem) (pattern : Int) : N :=
  let rate := F.amount item.vra
  if pattern = 3 then
    F.add (F.percent (F.mul (F.rial item.tcpbs) (F.ofInt 10))) (F.percent (F.mul (F.preDiscount item pattern) rate))
  else if pattern = 2 then F.percent (F.mul (F.rial item.sovat) rate)
  else F.percent (F.mul (F.rial item.adis) rate)

def checkLine (item : InvoiceBodyItem) (index : Nat) (pattern : Int) : List Violation :=
  whenever (F.off (F.rial item.prdis) (F.preDiscount item pattern)) {
    field := "prdis", line := some index, rule := "arithmetic.prdis"
    message := "مبلغ قبل از تخفیف باید برابر حاصل‌ضرب تعداد در مبلغ واحد باشد."
    reference := "§8-38، جدول ۴۰، ردیف ۱"
    expected := some (F.shown (F.preDiscount item pattern)), actual := some (F.shown (F.rial item.prdis)) } ++
  whenever (F.atMost (F.rial item.prdis) F.zero) {
    field := "prdis", line := some index, rule := "arithmetic.prdis.positive"
    message := "مبلغ قبل از تخفیف باید بزرگ‌تر از صفر باشد."
    reference := "§8-38، جدول ۴۰، ردیف ۲"
    actual := some (F.shown (F.rial item.prdis)) } ++
  (if F.less (F.rial item.dis) F.zero then [{
    field := "dis", line := some index, rule := "arithmetic.dis.non_negative"
    message := "مبلغ تخفیف نمی‌تواند منفی باشد."
    reference := "§8-39، جدول ۴۱، ردیف ۲"
    actual := some (F.shown (F.rial item.dis)) }]
  else whenever (F.less (F.add (F.rial item.prdis) (F.ofInt toleranceRial)) (F.rial item.dis)) {
    field := "dis", line := some index, rule := "arithmetic.dis.at_most_prdis"
    message := "مبلغ تخفیف نمی‌تواند از مبلغ قبل از تخفیف بیشتر باشد."
    reference := "§8-39، جدول ۴۱، ردیف ۳"
    expected := some (F.shown (F.rial item.prdis)), actual := some (F.shown (F.rial item.dis)) }) ++
  whenever (F.off (F.rial item.adis) (F.afterDiscount item pattern)) {
    field := "adis", line := some index, rule := "arithmetic.adis"
    message := "مبلغ بعد از تخفیف باید برابر مبلغ قبل از تخفیف منهای تخفیف باشد."
    reference := "§8-40، جدول ۴۲، ردیف ۱"
    expected := some (F.shown (F.afterDiscount item pattern)), actual := some (F.shown (F.rial item.adis)) } ++
  whenever (F.less (F.rial item.adis) F.zero) {
    field := "adis", line := some index, rule := "arithmetic.adis.non_negative"
    message := "مبلغ بعد از تخفیف نمی‌تواند منفی باشد."
    reference := "§8-40، جدول ۴۲، ردیف ۳"
    actual := some (F.shown (F.rial item.adis)) } ++
  whenever (F.less (F.amount item.vra) F.zero) {
    field := "vra", line := some index, rule := "arithmetic.vra.non_negative"
    message := "نرخ مالیات بر ارزش افزوده نمی‌تواند منفی باشد."
    reference := "§8-41، جدول ۴۳، ردیف ۶"
    actual := some (F.shown (F.amount item.vra)) } ++
  whenever (decide (pattern ∈ zeroVatPatterns) && !F.same (F.amount item.vra) F.zero) {
    field := "vra", line := some index, rule := "arithmetic.vra.zero_for_pattern"
    message := "در الگوهای صادرات، بورس اوراق بهادار مبتنی بر کالا و فروش زنجیره‌ای " ++
      "نرخ مالیات بر ارزش افزوده باید صفر باشد."
    reference := "§8-41، جدول ۴۳، ردیف ۵"
    expected := some (F.shown F.zero), actual := some (F.shown (F.amount item.vra)), context := [("pattern",.int pattern)] } ++
  whenever (F.off (F.rial item.vam) (F.vat item pattern)) {
    field := "vam", line := some index, rule := "arithmetic.vam"
    message := "مبلغ مالیات بر ارزش افزوده باید برابر مبلغ بعد از تخفیف ضرب در نرخ باشد."
    reference := "§8-42، جدول ۴۴، ردیف ۱"
    expected := some (F.shown (F.vat item pattern)), actual := some (F.shown (F.rial item.vam)) } ++
  whenever (F.off (F.rial item.tsstam) (F.lineTotal item pattern)) {
    field := "tsstam", line := some index, rule := "arithmetic.tsstam"
    message := "مبلغ کل کالا/خدمت باید برابر مجموع مبلغ بعد از تخفیف، مالیات بر ارزش " ++
      "افزوده و سایر مالیات و وجوه قانونی باشد."
    reference := "§8-51، جدول ۵۳، ردیف ۱"
    expected := some (F.shown (F.lineTotal item pattern)), actual := some (F.shown (F.rial item.tsstam)) }

def sumOf (items : List InvoiceBodyItem) (attr : InvoiceBodyItem → Option Int) : N :=
  F.sum (items.map (fun item => F.rial (attr item)))

def checkTotal (wireName : String) (total : Option Int) (expected : N) (reference message : String) :
    List Violation :=
  whenever (F.off (F.rial total) expected) {
    field := wireName, rule := "arithmetic." ++ wireName, message := message, reference := reference
    expected := some (F.shown expected), actual := some (F.shown (F.rial total)) }

def checkTotals (invoice : Invoice) : List Violation :=
  let body := invoice.body
  let header := invoice.header
  F.checkTotal "tprdis" header.tprdis (F.sumOf body (·.prdis)) "§8-13، جدول ۱۵، ردیف ۱"
    "مجموع مبلغ قبل از کسر تخفیف باید برابر جمع مبالغ قبل از تخفیف اقلام باشد." ++
  F.checkTotal "tdis" header.tdis (F.sumOf body (·.dis)) "§8-14، جدول ۱۶، ردیف ۱"
    "مجموع تخفیفات باید برابر جمع مبالغ تخفیف اقلام باشد." ++
  F.checkTotal "tadis" header.tadis (F.sumOf body (·.adis)) "§8-15، جدول ۱۷، ردیف ۱"
    "مجموع مبلغ پس از کسر تخفیف باید برابر جمع مبالغ پس از تخفیف اقلام باشد." ++
  F.checkTotal "tvam" header.tvam (F.sumOf body (·.vam)) "§8-16، جدول ۱۸، ردیف ۱"
    "مجموع مالیات بر ارزش افزوده باید برابر جمع مالیات اقلام باشد." ++
  F.checkTotal "tbill" header.tbill (F.sumOf body (·.tsstam)) "§8-18، جدول ۲۰، ردیف ۱"
    "مجموع صورتحساب باید برابر جمع مبالغ کل کالا/خدمت باشد." ++
  F.checkTotal "todam" header.todam (F.add (F.sumOf body (·.odam)) (F.sumOf body (·.olam))) "§8-17، جدول ۱۹، ردیف ۱"
    ("مجموع سایر مالیات، عوارض و وجوه قانونی باید برابر جمع سایر مالیات و " ++
      "عوارض و سایر وجوه قانونی اقلام باشد.") ++
  whenever (F.atMost (F.rial header.tprdis) F.zero) {
    field := "tprdis", rule := "arithmetic.tprdis.positive"
    message := "مجموع مبلغ قبل از کسر تخفیف باید بزرگ‌تر از صفر باشد."
    reference := "§8-13، جدول ۱۵، ردیف ۲"
    actual := some (F.shown (F.rial header.tprdis)) }

def splitRequired (wireName label : String) (value : Option Int) : List Violation :=
  whenever value.isNone {
    field := wireName, rule := "settlement.split_required"
    message := "در روش تسویه نقدی/نسیه ثبت " ++ label ++ " اجباری است."
    reference := "§8-22، جدول ۲۴، ردیف ۳" }

def checkSplit (header : InvoiceHeader) : List Violation :=
  let cap := F.rial header.cap
  let insp := F.rial header.insp
  let tbill := F.rial header.tbill
  let expectedCap := F.sub (F.sub (F.sub tbill (F.rial header.todam)) (F.rial header.tvam)) insp
  splitRequired "cap" "مبلغ پرداختی نقدی" header.cap ++
  splitRequired "insp" "مبلغ نسیه" header.insp ++
  whenever (header.cap.isSome && F.atMost cap F.zero) {
    field := "cap", rule := "settlement.cap.positive"
    message := "مبلغ پرداختی نقدی باید بزرگ‌تر از صفر باشد."
    reference := "§8-23، جدول ۲۵، ردیف ۳", actual := some (F.shown cap) } ++
  whenever (header.insp.isSome && F.atMost insp F.zero) {
    field := "insp", rule := "settlement.insp.positive"
    message := "مبلغ نسیه باید بزرگ‌تر از صفر باشد."
    reference := "§8-24، جدول ۲۶، ردیف ۳", actual := some (F.shown insp) } ++
  (if header.cap.isSome && header.insp.isSome then
    whenever (F.off cap expectedCap) {
      field := "cap", rule := "settlement.split_balances"
      message := "مجموع مبلغ نقدی و نسیه به همراه مالیات و عوارض باید با مجموع " ++ "صورتحساب برابر باشد."
      reference := "§8-23، جدول ۲۵، ردیف ۲", expected := some (F.shown expectedCap), actual := some (F.shown cap) } ++
    whenever (F.atMost tbill cap) {
      field := "cap", rule := "settlement.cap.below_total"
      message := "مبلغ پرداختی نقدی باید از مجموع صورتحساب کمتر باشد."
      reference := "§8-23، جدول ۲۵، ردیف ۱", expected := some (F.shown tbill), actual := some (F.shown cap) } ++
    whenever (F.atMost tbill insp) {
      field := "insp", rule := "settlement.insp.below_total"
      message := "مبلغ نسیه باید از مجموع صورتحساب کمتر باشد."
      reference := "§8-24، جدول ۲۶، ردیف ۱", expected := some (F.shown tbill), actual := some (F.shown insp) }
  else [])

def checkSettlement (invoice : Invoice) : List Violation :=
  match invoice.header.setm with
  | none => []
  | some setm =>
    if setm ∉ [1,2,3] then [{
      field := "setm", rule := "settlement.method"
      message := "روش تسویه باید نقدی (۱)، نسیه (۲) یا نقدی/نسیه (۳) باشد."
      reference := "§8-22، جدول ۲۴، ردیف ۱", actual := some (F.shown (F.ofInt setm)) }]
    else if setm ≠ 3 then []
    else F.checkSplit invoice.header

def checkArithmetic (invoice : Invoice) (pattern : Int) : List Violation :=
  (invoice.body.zipIdx.map (fun (item,index) => F.checkLine item index pattern)).flatten ++
  F.checkTotals invoice ++ F.checkSettlement invoice

end Numbers

/-! The rules over exact rationals. -/
namespace Arithmetic

def exact : Numbers ℚ where
  ofInt n := n
  ofFloat q := q
  add a b := a + b
  sub a b := a - b
  mul a b := a * b
  percent a := a / 100
  abs a := |a|
  less a b := decide (a < b)
  atMost a b := decide (a ≤ b)
  same a b := decide (a = b)
  sum xs := xs.sum
  shown := .finite

abbrev rial (value : Option Int) : ℚ := exact.rial value

abbrev checkArithmetic (invoice : Invoice) (pattern : Int) : List Violation := exact.checkArithmetic invoice pattern

theorem exactOff {actual expected : ℚ} : exact.off actual expected = false ↔ |actual - expected| ≤ 1 := by
  simp [Numbers.off,exact,toleranceRial]

theorem exactLineTotal (item : InvoiceBodyItem) (pattern : Int) : exact.lineTotal item pattern =
    (if pattern = 7 then rial item.ssrv else rial item.adis) + rial item.vam + rial item.odam + rial item.olam := rfl

theorem exactSum (items : List InvoiceBodyItem) (attr : InvoiceBodyItem → Option Int) :
    exact.sumOf items attr = (items.map (fun item => rial (attr item))).sum := rfl

end Arithmetic
end Moadian
