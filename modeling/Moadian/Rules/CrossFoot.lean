import Mathlib.Tactic.Linarith
import Mathlib.Tactic.Ring
import Moadian.Rules.Arithmetic

/-! The totals an accepted invoice carries cross-foot: each line may be off by the
tolerance, and each header total once more. -/
namespace Moadian.Arithmetic

theorem sumsApart {α : Type} {f g : α → ℚ} {t : ℚ} {xs : List α} (close : ∀ x ∈ xs, |f x - g x| ≤ t) :
    |(xs.map f).sum - (xs.map g).sum| ≤ xs.length * t := by
  induction xs with
  | nil => simp
  | cons x xs ih =>
    have first := close x List.mem_cons_self
    have rest := ih (fun y member => close y (List.mem_cons_of_mem _ member))
    have split : f x + (xs.map f).sum - (g x + (xs.map g).sum) = (f x - g x) + ((xs.map f).sum - (xs.map g).sum) := by
      ring
    rw [List.map_cons,List.map_cons,List.sum_cons,List.sum_cons,split,List.length_cons,Nat.cast_succ,add_mul,one_mul,
      add_comm (xs.length * t)]
    exact (abs_add_le _ _).trans (add_le_add first rest)

def Clear (vs : List Violation) : Prop := ∀ v ∈ vs, v.severity ≠ .error

theorem clearWhenever {broken : Bool} {v : Violation} (severe : v.severity = .error) (h : Clear (whenever broken v)) :
    broken = false := by
  cases broken with
  | false => rfl
  | true => exact absurd severe (h v List.mem_cons_self)

theorem clearAppend {xs ys : List Violation} : Clear (xs ++ ys) ↔ Clear xs ∧ Clear ys := List.forall_mem_append

theorem lineFoots {item : InvoiceBodyItem} {index : Nat} {pattern : Int} (h : Clear (exact.checkLine item index pattern)) :
    |rial item.tsstam - exact.lineTotal item pattern| ≤ 1 :=
  exactOff.mp (clearWhenever rfl (clearAppend.mp h).2)

theorem totalFoots {wireName reference message : String} {total : Option Int} {expected : ℚ}
    (h : Clear (exact.checkTotal wireName total expected reference message)) : |rial total - expected| ≤ 1 :=
  exactOff.mp (clearWhenever rfl h)

structure TotalsFoot (inv : Invoice) : Prop where
  tadis : |rial inv.header.tadis - exact.sumOf inv.body (·.adis)| ≤ 1
  tvam : |rial inv.header.tvam - exact.sumOf inv.body (·.vam)| ≤ 1
  tbill : |rial inv.header.tbill - exact.sumOf inv.body (·.tsstam)| ≤ 1
  todam : |rial inv.header.todam - (exact.sumOf inv.body (·.odam) + exact.sumOf inv.body (·.olam))| ≤ 1

theorem totalsFoot {inv : Invoice} (h : Clear (exact.checkTotals inv)) : TotalsFoot inv := by
  simp only [Numbers.checkTotals,clearAppend] at h
  obtain ⟨⟨⟨⟨⟨⟨_,_⟩,tadis⟩,tvam⟩,tbill⟩,todam⟩,_⟩ := h
  exact ⟨totalFoots tadis,totalFoots tvam,totalFoots tbill,totalFoots todam⟩

theorem splitFoots {header : InvoiceHeader} (cap : header.cap.isSome = true) (insp : header.insp.isSome = true)
    (h : Clear (exact.checkSplit header)) :
    |rial header.cap - (rial header.tbill - rial header.todam - rial header.tvam - rial header.insp)| ≤ 1 := by
  simp only [Numbers.checkSplit,cap,insp,Bool.and_self,if_true,clearAppend] at h
  exact exactOff.mp (clearWhenever rfl h.2.1.1)

theorem lineTotals {pattern : Int} (notExport : pattern ≠ 7) (items : List InvoiceBodyItem) :
    (items.map (fun item => exact.lineTotal item pattern)).sum =
      exact.sumOf items (·.adis) + exact.sumOf items (·.vam) + (exact.sumOf items (·.odam) + exact.sumOf items (·.olam)) := by
  induction items with
  | nil => simp [exactSum]
  | cons item items ih =>
    have one : exact.lineTotal item pattern = rial item.adis + rial item.vam + rial item.odam + rial item.olam := by
      rw [exactLineTotal,if_neg notExport]
    simp only [exactSum] at ih
    simp only [exactSum,List.map_cons,List.sum_cons,ih,one]
    ring

theorem linesFoot {inv : Invoice} {pattern : Int} (notExport : pattern ≠ 7) (h : Clear (checkArithmetic inv pattern)) :
    |exact.sumOf inv.body (·.tsstam) - (exact.sumOf inv.body (·.adis) + exact.sumOf inv.body (·.vam) +
      (exact.sumOf inv.body (·.odam) + exact.sumOf inv.body (·.olam)))| ≤ inv.body.length := by
  have lines := (clearAppend.mp (clearAppend.mp h).1).1
  have each : ∀ item ∈ inv.body, |rial item.tsstam - exact.lineTotal item pattern| ≤ 1 := by
    intro item member
    obtain ⟨index,found⟩ := List.mem_iff_getElem?.mp member
    have placed : (item,index) ∈ inv.body.zipIdx := List.mk_mem_zipIdx_iff_getElem?.mpr found
    have checked : exact.checkLine item index pattern ∈ inv.body.zipIdx.map (fun x => exact.checkLine x.1 x.2 pattern) :=
      List.mem_map.mpr ⟨(item,index),placed,rfl⟩
    have own : Clear (exact.checkLine item index pattern) := fun v member =>
      lines v (List.mem_flatten_of_mem checked member)
    exact lineFoots own
  have summed := sumsApart each
  rw [mul_one,lineTotals notExport] at summed
  exact summed

theorem crossFoots (inv : Invoice) {pattern : Int} (notExport : pattern ≠ 7)
    (noErrors : ∀ v ∈ checkArithmetic inv pattern, v.severity ≠ .error) :
    |rial inv.header.tbill - (rial inv.header.tadis + rial inv.header.tvam + rial inv.header.todam)| ≤
        inv.body.length + 4 ∧
      (inv.header.setm = some 3 → inv.header.cap.isSome = true → inv.header.insp.isSome = true →
        |rial inv.header.cap + rial inv.header.insp - rial inv.header.tadis| ≤ inv.body.length + 5) := by
  have lines := abs_le.mp (linesFoot notExport noErrors)
  obtain ⟨rest,settled⟩ := clearAppend.mp noErrors
  have totals := totalsFoot (clearAppend.mp rest).2
  have tadis := abs_le.mp totals.tadis
  have tvam := abs_le.mp totals.tvam
  have tbill := abs_le.mp totals.tbill
  have todam := abs_le.mp totals.todam
  refine ⟨abs_le.mpr ⟨by linarith,by linarith⟩,fun split cap insp => ?_⟩
  have balanced := abs_le.mp (splitFoots cap insp (by simpa [Numbers.checkSettlement,split] using settled))
  exact abs_le.mpr ⟨by linarith,by linarith⟩

namespace Example

-- Two lines, each a rial more than what it adds up to.
def line : InvoiceBodyItem := {
  sstid := "1", am := some 1, fee := some 100, prdis := some 100, adis := some 100, vra := some 10, vam := some 10
  tsstam := some 111 }

def credit : Invoice where
  header := {
    indatim := 0, ins := 1, setm := some 3, cap := some 150, insp := some 52, tprdis := some 200, tadis := some 200
    tvam := some 20, tbill := some 222 }
  body := [line,line]

end Example

theorem creditFoots : |rial (some 222) - (rial (some 200) + rial (some 20) + rial none)| ≤ ((2 : Nat) : ℚ) + 4 ∧
    |rial (some 150) + rial (some 52) - rial (some 200)| ≤ ((2 : Nat) : ℚ) + 5 :=
  have foots := crossFoots Example.credit (by decide : (1 : Int) ≠ 7) (by decide +kernel)
  ⟨foots.1,foots.2 rfl rfl rfl⟩

end Moadian.Arithmetic
