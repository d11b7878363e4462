import Mathlib.Algebra.Order.Ring.Int
import Mathlib.Tactic.Common

/-!
# Machine integers that do not overflow

An operation on `Int32` whose result fits is the operation on integers.
-/

namespace DigmaE605
namespace Arithmetic

variable {a b : Int32}

theorem bmod_of_fits {n : ℤ} (hlow : -2 ^ 31 ≤ n) (hhigh : n < 2 ^ 31) : n.bmod (2 ^ 32) = n :=
  Int.bmod_eq_of_le (by omega) (by omega)

theorem toInt_add_of_fits (hlow : -2 ^ 31 ≤ a.toInt + b.toInt) (hhigh : a.toInt + b.toInt < 2 ^ 31) :
    (a + b).toInt = a.toInt + b.toInt := by
  rw [Int32.toInt_add, bmod_of_fits hlow hhigh]

theorem toInt_sub_of_fits (hlow : -2 ^ 31 ≤ a.toInt - b.toInt) (hhigh : a.toInt - b.toInt < 2 ^ 31) :
    (a - b).toInt = a.toInt - b.toInt := by
  rw [Int32.toInt_sub, bmod_of_fits hlow hhigh]

theorem toInt_mul_of_fits (hlow : -2 ^ 31 ≤ a.toInt * b.toInt) (hhigh : a.toInt * b.toInt < 2 ^ 31) :
    (a * b).toInt = a.toInt * b.toInt := by
  rw [Int32.toInt_mul, bmod_of_fits hlow hhigh]

theorem toInt_neg_of_nonneg (h : 0 ≤ a.toInt) : (-a).toInt = -a.toInt := by
  have hlt := a.toInt_lt
  rw [Int32.toInt_neg, bmod_of_fits (by omega) (by omega)]

/-- Division is towards zero. -/
theorem toInt_div_of_pos (hpos : 0 < b.toInt) : (a / b).toInt = a.toInt.tdiv b.toInt := by
  refine Int32.toInt_div_of_ne_right _ _ ?_
  rintro rfl
  exact absurd hpos (by decide)

theorem toInt_div_of_nonneg (hpos : 0 < b.toInt) (hnonneg : 0 ≤ a.toInt) :
    (a / b).toInt = a.toInt / b.toInt := by
  rw [toInt_div_of_pos hpos, Int.tdiv_eq_ediv_of_nonneg hnonneg]

end Arithmetic
end DigmaE605
