import Moadian.Rules.Engine
import Moadian.Rules.Recompute

/-! The rules as they run, over doubles. An integer too large for a double raises where
it is read, and an amount that is no number where it is rounded. -/
namespace Moadian
open Double (Summation)

def Double.toPyFloat : Double → PyFloat
  | .finite value _ => .finite value
  | .nan => .nan
  | .infinite negative => .infinite negative

namespace Arithmetic

def doubles (s : Summation) : Numbers Double where
  ofInt n := .ofRat n
  ofFloat q := .ofRat q
  add := .add
  sub := .sub
  mul := .mul
  percent x := x.divide 100
  abs := .abs
  less := Double.less
  atMost := Double.atMost
  same := Double.same
  sum := .sum s
  shown := Double.toPyFloat

-- What the line rules read as money, whatever they find.
def lineReads (pattern : Int) (item : InvoiceBodyItem) : List (Option Int) :=
  [item.prdis,item.dis,item.adis,item.vam,item.odam,item.olam,item.tsstam] ++
  (if pattern = 2 then [item.exr,item.sovat] else if pattern = 3 then [item.tcpbs]
  else if pattern = 7 then [item.ssrv] else [])

def settlementReads (header : InvoiceHeader) : List (Option Int) :=
  if header.setm = some 3 then [header.cap,header.insp]
  else if header.setm.all (· ∈ [1,2,3]) then [] else [header.setm]

def reads (invoice : Invoice) (pattern : Int) : List (Option Int) :=
  let header := invoice.header
  invoice.body.flatMap (lineReads pattern) ++
  [header.tprdis,header.tdis,header.tadis,header.tvam,header.tbill,header.todam] ++ settlementReads header

-- An enumerated field out of range is shown as a double.
def enumReads (rules : RuleSet) (invoice : Invoice) : List (Option Int) :=
  rules.enums.map (fun r => (invoice.header.modelDump.int r.name).filter (· ∉ r.values))

def convert (values : List (Option Int)) : Bool := values.all (fun value => Double.converts (value.getD 0))

def checkDoubles (s : Summation) (invoice : Invoice) (pattern : Int) : Option (List Violation) :=
  if convert (reads invoice pattern) then some ((doubles s).checkArithmetic invoice pattern) else none

def nearestInt (x : Double) : Int := x.toInt.getD 0

def inputReads (pattern : Int) (item : InvoiceBodyItem) : List (Option Int) :=
  [item.dis,item.odam,item.olam] ++
  (if pattern = 2 then [item.exr,item.sovat] else if pattern = 3 then [item.tcpbs]
  else if pattern = 7 then [item.ssrv] else [])

-- `round` raises when an amount is no number.
def recomputeLineDoubles (s : Summation) (pattern : Int) (item : InvoiceBodyItem) : Option InvoiceBodyItem :=
  if convert (inputReads pattern item) then do
    let item := { item with prdis := some (← ((doubles s).preDiscount item pattern).toInt) }
    let item := { item with adis := some (← ((doubles s).afterDiscount item pattern).toInt) }
    let item := { item with vam := some (← ((doubles s).vat item pattern).toInt) }
    return { item with tsstam := some (← ((doubles s).lineTotal item pattern).toInt) }
  else none

def recomputeDoubles (s : Summation) (invoice : Invoice) (pattern : Int) : Option Invoice := do
  let body ← invoice.body.mapM (recomputeLineDoubles s pattern)
  return { invoice with
    body := body
    header := { invoice.header with
      tprdis := some (← ((doubles s).sumOf body (·.prdis)).toInt)
      tdis := some (← ((doubles s).sumOf body (·.dis)).toInt)
      tadis := some (← ((doubles s).sumOf body (·.adis)).toInt)
      tvam := some (← ((doubles s).sumOf body (·.vam)).toInt)
      todam := some (← ((doubles s).add ((doubles s).sumOf body (·.odam)) ((doubles s).sumOf body (·.olam))).toInt)
      tbill := some (← ((doubles s).sumOf body (·.tsstam)).toInt) } }

end Arithmetic

namespace Numbers
variable {N : Type} (F : Numbers N) (round : N → Int)

/- What §8 makes of the inputs, before it is rounded: each amount of a line from the inputs
and the amounts before it, and the totals from the lines. -/
def lineDues (pattern : Int) (item : InvoiceBodyItem) : List N :=
  let updated := F.recomputeLine round pattern item
  [F.preDiscount item pattern,F.afterDiscount item pattern,F.vat updated pattern,F.lineTotal updated pattern]

def dues (invoice : Invoice) (pattern : Int) : List N :=
  let body := invoice.body.map (F.recomputeLine round pattern)
  invoice.body.flatMap (F.lineDues round pattern) ++
  [F.sumOf body (·.prdis),F.sumOf body (·.dis),F.sumOf body (·.adis),F.sumOf body (·.vam),
    F.add (F.sumOf body (·.odam)) (F.sumOf body (·.olam)),F.sumOf body (·.tsstam)]

end Numbers

namespace Arithmetic

-- No amount that is due overflows.
def Fits (s : Summation) (invoice : Invoice) (pattern : Int) : Prop :=
  ∀ x ∈ (doubles s).dues nearestInt invoice pattern, x.isFinite = true

instance (s : Summation) (invoice : Invoice) (pattern : Int) : Decidable (Fits s invoice pattern) :=
  inferInstanceAs (Decidable (∀ x ∈ _, _))

theorem toIntSome {x : Double} {n : Int} : x.toInt = some n ↔ x.isFinite = true ∧ nearestInt x = n := by
  cases x with
  | finite x own => simp [Double.toInt,Double.isFinite,nearestInt]
  | nan => simp [Double.toInt,Double.isFinite]
  | infinite _ => simp [Double.toInt,Double.isFinite]

section Recompute
variable {s : Summation} {pattern : Int}

theorem recomputeLineSome {item updated : InvoiceBodyItem} : recomputeLineDoubles s pattern item = some updated ↔
    (convert (inputReads pattern item) = true ∧ ∀ x ∈ (doubles s).lineDues nearestInt pattern item, x.isFinite = true) ∧
      (doubles s).recomputeLine nearestInt pattern item = updated := by
  unfold recomputeLineDoubles
  simp only [Option.ite_none_right_eq_some,Option.bind_eq_bind,Option.bind_eq_some_iff,toIntSome,Numbers.lineDues,
    List.forall_mem_cons,Option.pure_def,Option.some.injEq]
  constructor
  · rintro ⟨read,_,⟨prdis,rfl⟩,_,⟨adis,rfl⟩,_,⟨vam,rfl⟩,_,⟨tsstam,rfl⟩,rfl⟩
    exact ⟨⟨read,prdis,adis,vam,tsstam,fun x never => by cases never⟩,rfl⟩
  · rintro ⟨⟨read,prdis,adis,vam,tsstam,_⟩,rfl⟩
    exact ⟨read,_,⟨prdis,rfl⟩,_,⟨adis,rfl⟩,_,⟨vam,rfl⟩,_,⟨tsstam,rfl⟩,rfl⟩

theorem recomputeLinesSome {body updated : List InvoiceBodyItem} : body.mapM (recomputeLineDoubles s pattern) = some updated ↔
    (∀ item ∈ body, convert (inputReads pattern item) = true ∧
      ∀ x ∈ (doubles s).lineDues nearestInt pattern item, x.isFinite = true) ∧
      body.map ((doubles s).recomputeLine nearestInt pattern) = updated := by
  induction body generalizing updated with
  | nil => simp
  | cons item rest ih =>
    simp only [List.mapM_cons,Option.bind_eq_bind,Option.bind_eq_some_iff,recomputeLineSome,ih,Option.pure_def,Option.some.injEq,
      List.forall_mem_cons,List.map_cons]
    constructor
    · rintro ⟨_,⟨one,rfl⟩,_,⟨all,rfl⟩,rfl⟩
      exact ⟨⟨one,all⟩,rfl⟩
    · rintro ⟨⟨one,all⟩,rfl⟩
      exact ⟨_,⟨one,rfl⟩,_,⟨all,rfl⟩,rfl⟩

/- Recomputing ends when every input converts and every amount fits, and then it is what it
is over any numbers. -/
theorem recomputeSome {invoice updated : Invoice} : recomputeDoubles s invoice pattern = some updated ↔
    ((∀ item ∈ invoice.body, convert (inputReads pattern item) = true) ∧ Fits s invoice pattern) ∧
      (doubles s).recompute nearestInt invoice pattern = updated := by
  unfold recomputeDoubles Fits
  simp only [Option.bind_eq_bind,Option.bind_eq_some_iff,recomputeLinesSome,toIntSome,Numbers.dues,List.forall_mem_append,
    List.forall_mem_cons,List.mem_flatMap,Option.pure_def,Option.some.injEq]
  constructor
  · rintro ⟨_,⟨lines,rfl⟩,_,⟨tprdis,rfl⟩,_,⟨tdis,rfl⟩,_,⟨tadis,rfl⟩,_,⟨tvam,rfl⟩,_,⟨todam,rfl⟩,_,⟨tbill,rfl⟩,rfl⟩
    refine ⟨⟨fun item member => (lines item member).1,?_,tprdis,tdis,tadis,tvam,todam,tbill,fun x never => by cases never⟩,rfl⟩
    rintro x ⟨item,member,due⟩
    exact (lines item member).2 x due
  · rintro ⟨⟨read,lines,tprdis,tdis,tadis,tvam,todam,tbill,_⟩,rfl⟩
    exact ⟨_,⟨fun item member => ⟨read item member,fun x due => lines x ⟨item,member,due⟩⟩,rfl⟩,_,⟨tprdis,rfl⟩,_,⟨tdis,rfl⟩,
      _,⟨tadis,rfl⟩,_,⟨tvam,rfl⟩,_,⟨todam,rfl⟩,_,⟨tbill,rfl⟩,rfl⟩

end Recompute

theorem convertAppend {xs ys : List (Option Int)} : convert (xs ++ ys) = true ↔ convert xs = true ∧ convert ys = true := by
  rw [convert,List.all_append,Bool.and_eq_true,convert,convert]

end Arithmetic

def RuleEngine.validateDoubles (engine : RuleEngine) (s : Summation) (invoice : Invoice) : Option ValidationReport :=
  let number := RuleEngine.patternNumber invoice
  if Arithmetic.convert (Arithmetic.enumReads engine.rules invoice ++ Arithmetic.reads invoice number) then
    some (engine.report (Arithmetic.doubles s) invoice)
  else none

namespace Arithmetic

/-! Inputs that are not gigantic fit. -/

structure Modest (item : InvoiceBodyItem) : Prop where
  rates : ∀ q ∈ [item.am,item.fee,item.cfee,item.vra], |q.getD 0| ≤ 10 ^ 90
  rials : ∀ n ∈ [item.dis,item.odam,item.olam,item.tcpbs,item.exr,item.sovat,item.ssrv], |n.getD 0| ≤ 10 ^ 90

section Modest
open Double
variable {s : Summation} {pattern : Int} {item : InvoiceBodyItem}

theorem binary : (10 : ℚ) ^ 90 ≤ (1 : Nat) * 2 ^ 300 := by
  calc (10 : ℚ) ^ 90 = (10 ^ 3) ^ 30 := by rw [← pow_mul]
    _ ≤ (2 ^ 10) ^ 30 := pow_le_pow_left₀ (by norm_num) (by norm_num) 30
    _ = (1 : Nat) * 2 ^ 300 := by rw [← pow_mul,Nat.cast_one,one_mul]

theorem rialBelow {n : Option Int} (most : |n.getD 0| ≤ 10 ^ 90) : Below 1 300 ((doubles s).rial n) := by
  refine ofRatBelow (by decide) (by decide) ?_
  have cast : |((n.getD 0 : Int) : ℚ)| ≤ 10 ^ 90 := by exact_mod_cast most
  exact cast.trans binary

theorem amountBelow {q : Option ℚ} (most : |q.getD 0| ≤ 10 ^ 90) : Below 1 300 ((doubles s).amount q) :=
  ofRatBelow (by decide) (by decide) (most.trans binary)

theorem percentBelow {x : Double} {a k : Nat} (below : Below a k x) (few : a < 2 ^ 53) (range : k ≤ 970) :
    Below a k ((doubles s).percent x) := divideBelow (by norm_num) below few range

theorem preDiscountBelow (modest : Modest item) : Below 1 600 ((doubles s).preDiscount item pattern) := by
  have am : Below 1 300 ((doubles s).amount item.am) := amountBelow (modest.rates item.am (by simp))
  have fee : Below 1 300 ((doubles s).amount item.fee) := amountBelow (modest.rates item.fee (by simp))
  have cfee : Below 1 300 ((doubles s).amount item.cfee) := amountBelow (modest.rates item.cfee (by simp))
  have exr : Below 1 300 ((doubles s).rial item.exr) := rialBelow (modest.rials item.exr (by simp))
  unfold Numbers.preDiscount
  split
  · exact mulBelow cfee exr (by decide) (by decide) (by decide) (by decide)
  · split
    · exact belowMore fee (by decide) (by decide)
    · exact mulBelow am fee (by decide) (by decide) (by decide) (by decide)

theorem afterDiscountBelow (modest : Modest item) : Below 3 600 ((doubles s).afterDiscount item pattern) := by
  have base : Below 1 600 ((doubles s).preDiscount item pattern) := preDiscountBelow modest
  have tcpbs : Below 1 600 ((doubles s).rial item.tcpbs) := belowMore (rialBelow (modest.rials item.tcpbs (by simp))) (by decide) (by decide)
  have dis : Below 1 600 ((doubles s).rial item.dis) := belowMore (rialBelow (modest.rials item.dis (by simp))) (by decide) (by decide)
  have whole : Below 2 600 (if pattern = 3 then (doubles s).add ((doubles s).preDiscount item pattern) ((doubles s).rial item.tcpbs)
      else (doubles s).preDiscount item pattern) := by
    split
    · exact addBelow base tcpbs (by decide) (by decide) (by decide)
    · exact belowMore base (by decide) (by decide)
  exact subBelow whole dis (by decide) (by decide) (by decide)

theorem vatBelow (modest : Modest item) (adis : Below 3 600 ((doubles s).rial item.adis)) :
    Below 11 900 ((doubles s).vat item pattern) := by
  have rate : Below 1 300 ((doubles s).amount item.vra) := amountBelow (modest.rates item.vra (by simp))
  have ten : Below 10 0 ((doubles s).ofInt 10) := ofRatBelow (by decide) (by decide) (by norm_num)
  have tcpbs : Below 1 300 ((doubles s).rial item.tcpbs) := rialBelow (modest.rials item.tcpbs (by simp))
  have sovat : Below 1 300 ((doubles s).rial item.sovat) := rialBelow (modest.rials item.sovat (by simp))
  have base : Below 1 600 ((doubles s).preDiscount item pattern) := preDiscountBelow modest
  unfold Numbers.vat
  dsimp only
  split
  · have left : Below 10 900 ((doubles s).mul ((doubles s).rial item.tcpbs) ((doubles s).ofInt 10)) :=
      mulBelow tcpbs ten (by decide) (by decide) (by decide) (by decide)
    have right : Below 1 900 ((doubles s).mul ((doubles s).preDiscount item pattern) ((doubles s).amount item.vra)) :=
      mulBelow base rate (by decide) (by decide) (by decide) (by decide)
    exact addBelow (percentBelow left (by decide) (by decide)) (percentBelow right (by decide) (by decide)) (by decide) (by decide)
      (by decide)
  · split
    · exact percentBelow (mulBelow sovat rate (by decide) (by decide) (by decide) (by decide)) (by decide) (by decide)
    · exact percentBelow (mulBelow adis rate (by decide) (by decide) (by decide) (by decide)) (by decide) (by decide)

theorem lineTotalBelow (modest : Modest item) (adis : Below 3 600 ((doubles s).rial item.adis))
    (vam : Below 11 900 ((doubles s).rial item.vam)) : Below 16 900 ((doubles s).lineTotal item pattern) := by
  have odam : Below 1 900 ((doubles s).rial item.odam) := belowMore (rialBelow (modest.rials item.odam (by simp))) (by decide) (by decide)
  have olam : Below 1 900 ((doubles s).rial item.olam) := belowMore (rialBelow (modest.rials item.olam (by simp))) (by decide) (by decide)
  have ssrv : Below 1 300 ((doubles s).rial item.ssrv) := rialBelow (modest.rials item.ssrv (by simp))
  have base : Below 3 900 (if pattern = 7 then (doubles s).rial item.ssrv else (doubles s).rial item.adis) := by
    split
    · exact belowMore ssrv (by decide) (by decide)
    · exact belowMore adis (by decide) (by decide)
  have taxed : Below 14 900 ((doubles s).add (if pattern = 7 then (doubles s).rial item.ssrv else (doubles s).rial item.adis)
      ((doubles s).rial item.vam)) := addBelow base vam (by decide) (by decide) (by decide)
  have some_ : Below 15 900 ((doubles s).add ((doubles s).add (if pattern = 7 then (doubles s).rial item.ssrv
      else (doubles s).rial item.adis) ((doubles s).rial item.vam)) ((doubles s).rial item.odam)) :=
    addBelow taxed odam (by decide) (by decide) (by decide)
  exact addBelow some_ olam (by decide) (by decide) (by decide)

structure Filled (s : Summation) (item : InvoiceBodyItem) : Prop where
  prdis : Below 1 600 ((doubles s).rial item.prdis)
  adis : Below 3 600 ((doubles s).rial item.adis)
  vam : Below 11 900 ((doubles s).rial item.vam)
  tsstam : Below 16 900 ((doubles s).rial item.tsstam)

theorem filledLine (modest : Modest item) : Filled s ((doubles s).recomputeLine nearestInt pattern item) := by
  have updated : Modest ((doubles s).recomputeLine nearestInt pattern item) := ⟨modest.rates,modest.rials⟩
  have prdis : Below 1 600 ((doubles s).preDiscount item pattern) := preDiscountBelow modest
  have adis : Below 3 600 ((doubles s).afterDiscount item pattern) := afterDiscountBelow modest
  have adis' : Below 3 600 ((doubles s).rial ((doubles s).recomputeLine nearestInt pattern item).adis) :=
    toIntBelow adis (by decide) (by decide)
  have vam : Below 11 900 ((doubles s).vat ((doubles s).recomputeLine nearestInt pattern item) pattern) := vatBelow updated adis'
  have vam' : Below 11 900 ((doubles s).rial ((doubles s).recomputeLine nearestInt pattern item).vam) :=
    toIntBelow vam (by decide) (by decide)
  have tsstam : Below 16 900 ((doubles s).lineTotal ((doubles s).recomputeLine nearestInt pattern item) pattern) :=
    lineTotalBelow updated adis' vam'
  exact ⟨toIntBelow prdis (by decide) (by decide),adis',vam',toIntBelow tsstam (by decide) (by decide)⟩

theorem lineFits (modest : Modest item) : ∀ x ∈ (doubles s).lineDues nearestInt pattern item, x.isFinite = true := by
  have updated : Modest ((doubles s).recomputeLine nearestInt pattern item) := ⟨modest.rates,modest.rials⟩
  have filled : Filled s ((doubles s).recomputeLine nearestInt pattern item) := filledLine modest
  simp only [Numbers.lineDues,List.forall_mem_cons]
  exact ⟨belowFinite (preDiscountBelow modest),belowFinite (afterDiscountBelow modest),belowFinite (vatBelow updated filled.adis),
    belowFinite (lineTotalBelow updated filled.adis filled.vam),fun x never => by cases never⟩

theorem columnBelow {body : List InvoiceBodyItem} (few : body.length ≤ 2 ^ 20) {attr : InvoiceBodyItem → Option Int}
    (each : ∀ item ∈ body, Below 16 900 ((doubles s).rial (attr item))) : Below (2 ^ 50) 900 ((doubles s).sumOf body attr) := by
  have all : ∀ y ∈ body.map (fun item => (doubles s).rial (attr item)), Below 16 900 y := List.forall_mem_map.mpr each
  have squared : body.length * body.length ≤ 2 ^ 20 * 2 ^ 20 := Nat.mul_le_mul few few
  have size : 16 * body.length + 2 * (16 * body.length) * body.length ≤ 2 ^ 50 := by
    calc 16 * body.length + 2 * (16 * body.length) * body.length = 16 * body.length + 32 * (body.length * body.length) := by ring
      _ ≤ 2 ^ 50 := by omega
  refine belowMore (sumBelow s all ?_ (by decide)) ?_ le_rfl
  · rw [List.length_map]
    exact lt_of_le_of_lt size (by decide)
  · rw [List.length_map]
    exact size

/- Whatever the pattern, up to a million lines of amounts up to 10 ^ 90 fit. -/
theorem modestFits {invoice : Invoice} (few : invoice.body.length ≤ 2 ^ 20) (modest : ∀ item ∈ invoice.body, Modest item) :
    Fits s invoice pattern := by
  have column : ∀ attr : InvoiceBodyItem → Option Int,
      (∀ item ∈ invoice.body, Below 16 900 ((doubles s).rial (attr ((doubles s).recomputeLine nearestInt pattern item)))) →
      Below (2 ^ 50) 900 ((doubles s).sumOf (invoice.body.map ((doubles s).recomputeLine nearestInt pattern)) attr) :=
    fun attr each => columnBelow (by rw [List.length_map]; exact few) (List.forall_mem_map.mpr each)
  have filled : ∀ item ∈ invoice.body, Filled s ((doubles s).recomputeLine nearestInt pattern item) :=
    fun item member => filledLine (modest item member)
  have stated : ∀ item ∈ invoice.body, ∀ n ∈ [item.dis,item.odam,item.olam,item.tcpbs,item.exr,item.sovat,item.ssrv],
      Below 16 900 ((doubles s).rial n) :=
    fun item member n listed => belowMore (rialBelow ((modest item member).rials n listed)) (by decide) (by decide)
  have odam := column (·.odam) (fun item member => stated item member item.odam (by simp))
  have olam := column (·.olam) (fun item member => stated item member item.olam (by simp))
  have other : Below (2 ^ 51) 900 ((doubles s).add ((doubles s).sumOf (invoice.body.map ((doubles s).recomputeLine nearestInt pattern)) (·.odam))
      ((doubles s).sumOf (invoice.body.map ((doubles s).recomputeLine nearestInt pattern)) (·.olam))) :=
    addBelow odam olam (by decide) (by decide) (by decide)
  intro x due
  rcases List.mem_append.mp due with line | total
  · obtain ⟨item,member,inside⟩ := List.mem_flatMap.mp line
    exact lineFits (modest item member) x inside
  · simp only [List.mem_cons,List.not_mem_nil,or_false] at total
    rcases total with rfl | rfl | rfl | rfl | rfl | rfl
    · exact belowFinite (column (·.prdis) (fun item member => belowMore (filled item member).prdis (by decide) (by decide)))
    · exact belowFinite (column (·.dis) (fun item member => stated item member item.dis (by simp)))
    · exact belowFinite (column (·.adis) (fun item member => belowMore (filled item member).adis (by decide) (by decide)))
    · exact belowFinite (column (·.vam) (fun item member => belowMore (filled item member).vam (by decide) (by decide)))
    · exact belowFinite other
    · exact belowFinite (column (·.tsstam) (fun item member => (filled item member).tsstam))

end Modest

end Arithmetic
end Moadian
