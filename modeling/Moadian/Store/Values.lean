import Mathlib.Algebra.Ring.Int.Defs
import Mathlib.Data.List.Basic

/-! What SQLite makes of the values it is given. A REAL is kept as the bits of a float. -/
namespace Moadian.Sqlite

-- SQLite has no NaN: it is bound as NULL.
def bindReal (x : Option UInt64) : Option UInt64 :=
  x.filter (fun bits => bits &&& 0x7FFFFFFFFFFFFFFF ≤ 0x7FF0000000000000)

def sameReal (x y : UInt64) : Bool := x = y || (x &&& 0x7FFFFFFFFFFFFFFF = 0 && y &&& 0x7FFFFFFFFFFFFFFF = 0)

-- NULL equals nothing, itself included.
def sameSome {α : Type} (same : α → α → Bool) : Option α → Option α → Bool
  | some x,some y => same x y
  | _,_ => false

-- In a descending order NULL comes last.
def after : Option String → Option String → Bool
  | some x,some y => y < x
  | some _,none => true
  | none,_ => false

def fits (n : Int) : Bool := -(2^63) ≤ n && n < 2^63

theorem sameRealTrans {x y z : UInt64} (left : sameReal x y = true) (right : sameReal y z = true) :
    sameReal x z = true := by
  simp only [sameReal,Bool.or_eq_true,Bool.and_eq_true,decide_eq_true_eq] at left right ⊢
  obtain rfl | ⟨zero,_⟩ := left
  · exact right
  · obtain rfl | ⟨_,zero'⟩ := right
    · exact .inr ⟨zero,by assumption⟩
    · exact .inr ⟨zero,zero'⟩

section Some
variable {α : Type} (same : α → α → Bool)

theorem sameSomeTrans (trans : ∀ {x y z}, same x y = true → same y z = true → same x z = true) {x y z : Option α}
    (left : sameSome same x y = true) (right : sameSome same y z = true) : sameSome same x z = true := by
  cases x with
  | none => cases left
  | some a =>
    cases y with
    | none => cases left
    | some b =>
      cases z with
      | none => cases right
      | some c => exact trans left right

end Some
end Moadian.Sqlite
