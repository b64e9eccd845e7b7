import Moadian.Double
import Moadian.Rules.Arithmetic

/-! `recompute`: every derived money field from its inputs. How `round` breaks a tie
is left open. -/
namespace Moadian

namespace Numbers
variable {N : Type} (F : Numbers N) (round : N → Int)

def recomputeLine (pattern : Int) (item : InvoiceBodyItem) : InvoiceBodyItem :=
  let item := { item with prdis := some (round (F.preDiscount item pattern)) }
  let item := { item with adis := some (round (F.afterDiscount item pattern)) }
  let item := { item with vam := some (round (F.vat item pattern)) }
  { item with tsstam := some (round (F.lineTotal item pattern)) }

def recompute (invoice : Invoice) (pattern : Int) : Invoice :=
  let body := invoice.body.map (F.recomputeLine round pattern)
  { invoice with
    body := body
    header := { invoice.header with
      tprdis := some (round (F.sumOf body (·.prdis)))
      tdis := some (round (F.sumOf body (·.dis)))
      tadis := some (round (F.sumOf body (·.adis)))
      tvam := some (round (F.sumOf body (·.vam)))
      todam := some (round (F.add (F.sumOf body (·.odam)) (F.sumOf body (·.olam))))
      tbill := some (round (F.sumOf body (·.tsstam))) } }

end Numbers

namespace Arithmetic

structure Rounding where
  round : ℚ → Int
  near : ∀ q, |(round q : ℚ) - q| ≤ 1 / 2

namespace Rounding

-- Python's own: a tie goes to the even neighbour.
def halfEven : Rounding := ⟨Moadian.halfEven,halfEvenNear⟩

theorem roundedNear (r : Rounding) (q : ℚ) : exact.off (r.round q) q = false :=
  exactOff.mpr ((r.near q).trans (by norm_num))

end Rounding

abbrev recomputeLine (r : Rounding) (pattern : Int) (item : InvoiceBodyItem) : InvoiceBodyItem :=
  exact.recomputeLine r.round pattern item

abbrev recompute (r : Rounding) (invoice : Invoice) (pattern : Int) : Invoice := exact.recompute r.round invoice pattern

def equalities : List String :=
  ["arithmetic.prdis","arithmetic.adis","arithmetic.vam","arithmetic.tsstam","arithmetic.tprdis",
    "arithmetic.tdis","arithmetic.tadis","arithmetic.tvam","arithmetic.todam","arithmetic.tbill"]

variable {r : Rounding}

theorem lineAgrees (item : InvoiceBodyItem) (index : Nat) (pattern : Int) :
    ∀ v ∈ exact.checkLine (recomputeLine r pattern item) index pattern, v.rule ∉ equalities := by
  have prdis : exact.off (rial (recomputeLine r pattern item).prdis) (exact.preDiscount (recomputeLine r pattern item) pattern) =
    false := r.roundedNear _
  have adis : exact.off (rial (recomputeLine r pattern item).adis) (exact.afterDiscount (recomputeLine r pattern item) pattern) =
    false := r.roundedNear _
  have vam : exact.off (rial (recomputeLine r pattern item).vam) (exact.vat (recomputeLine r pattern item) pattern) = false :=
    r.roundedNear _
  have tsstam : exact.off (rial (recomputeLine r pattern item).tsstam) (exact.lineTotal (recomputeLine r pattern item) pattern) =
    false := r.roundedNear _
  simp only [Numbers.checkLine,prdis,adis,vam,tsstam,List.forall_mem_append,wheneverAll,reduceCtorEq,false_implies,true_and,
    and_true]
  refine ⟨⟨⟨⟨?_,?_⟩,?_⟩,?_⟩,?_⟩
  · exact fun _ => by decide
  · split
    · simp only [List.forall_mem_singleton]; decide
    · simp only [wheneverAll]; exact fun _ => by decide
  all_goals exact fun _ => by decide

theorem totalAgrees (name reference message : String) (expected : ℚ) :
    exact.checkTotal name (some (r.round expected)) expected reference message = [] := by
  have near : exact.off (rial (some (r.round expected))) expected = false := r.roundedNear expected
  simp only [Numbers.checkTotal,near,whenever,Bool.false_eq_true,if_false]

theorem totalsAgree (invoice : Invoice) (pattern : Int) :
    ∀ v ∈ exact.checkTotals (recompute r invoice pattern), v.rule ∉ equalities := by
  simp only [Numbers.checkTotals,Numbers.recompute,totalAgrees,List.nil_append,wheneverAll]
  exact fun _ => by decide

theorem settlementApart (invoice : Invoice) : ∀ v ∈ exact.checkSettlement invoice, v.rule ∉ equalities := by
  unfold Numbers.checkSettlement
  split
  · simp
  · split
    · simp only [List.forall_mem_singleton]; decide
    · split
      · simp
      · simp only [Numbers.checkSplit,Numbers.splitRequired,List.forall_mem_append,wheneverAll]
        refine ⟨⟨⟨⟨?_,?_⟩,?_⟩,?_⟩,?_⟩
        on_goal 5 =>
          split
          · simp only [List.forall_mem_append,wheneverAll]
            refine ⟨⟨?_,?_⟩,?_⟩ <;> exact fun _ => by decide
          · simp
        all_goals exact fun _ => by decide

theorem lineTwice (pattern : Int) (item : InvoiceBodyItem) :
    recomputeLine r pattern (recomputeLine r pattern item) = recomputeLine r pattern item := rfl

def lineInputs (item : InvoiceBodyItem) : InvoiceBodyItem :=
  { item with prdis := none, adis := none, vam := none, tsstam := none }

def inputs (invoice : Invoice) : Invoice :=
  { invoice with
    body := invoice.body.map lineInputs
    header := { invoice.header with
      tprdis := none, tdis := none, tadis := none, tvam := none, todam := none, tbill := none } }

theorem recomputed (r : Rounding) (invoice : Invoice) (pattern : Int) :
    (∀ v ∈ checkArithmetic (recompute r invoice pattern) pattern, v.rule ∉ equalities) ∧
      recompute r (recompute r invoice pattern) pattern = recompute r invoice pattern ∧
      inputs (recompute r invoice pattern) = inputs invoice := by
  refine ⟨?_,?_,?_⟩
  · simp only [Numbers.checkArithmetic,List.forall_mem_append]
    refine ⟨⟨?_,totalsAgree invoice pattern⟩,settlementApart _⟩
    intro v member
    obtain ⟨found,inside,here⟩ := List.mem_flatten.mp member
    obtain ⟨⟨item,index⟩,listed,rfl⟩ := List.mem_map.mp inside
    obtain ⟨old,_,rfl⟩ := List.mem_map.mp (List.fst_mem_of_mem_zipIdx listed)
    exact lineAgrees old index pattern v here
  · simp only [Numbers.recompute,List.map_map]
    have twice : recomputeLine r pattern ∘ recomputeLine r pattern = recomputeLine r pattern :=
      funext (lineTwice pattern)
    rw [twice]
  · simp only [inputs,Numbers.recompute,List.map_map]
    rfl

example : (recompute .halfEven ⟨{ indatim := 1683997837988, ins := 1 },
    [{ sstid := "2710000138624", am := some 2, fee := some 10000, dis := some 500, vra := some 9 }],[],none⟩ 1).header.tbill =
      some 21255 := by decide +kernel

end Arithmetic
end Moadian
