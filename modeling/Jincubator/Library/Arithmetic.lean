import Mathlib.Algebra.Order.Group.Abs
import Mathlib.Algebra.Order.Ring.Int

/-! # Machine arithmetic that may refuse

A calculation is written once over the operations of a machine, which store a result
or give a quotient and may refuse to. One machine refuses results that do not fit,
another only quotients by zero and wraps around otherwise. What fits is kept by both.
-/

namespace Arithmetic

/-- The operations of a machine. -/
structure Machine where
  /-- The value after it is stored. -/
  int : Int → Option Int
  /-- The truncated quotient. -/
  div : Int → Int → Option Int

/-- The values of a signed integer with `2 * half` values. -/
def Fits (half : Nat) (v : Int) : Prop := -(half : Int) ≤ v ∧ v < half

instance (half : Nat) (v : Int) : Decidable (Fits half v) :=
  inferInstanceAs (Decidable (_ ∧ _))

/-- Overflow and division by zero are refused. -/
def noOverflow (half : Nat) : Machine where
  int v := if Fits half v then some v else none
  div a b := if b ≠ 0 ∧ Fits half (a.tdiv b) then some (a.tdiv b) else none

/-- Division by zero is refused, and results wrap around. -/
def noZeroDivide (half : Nat) : Machine where
  int v := some (v.bmod (2 * half))
  div a b := if b = 0 then none else some (a.tdiv b)

/-- The machine does not refuse or change what fits. -/
structure Keeps (half : Nat) (m : Machine) : Prop where
  int : ∀ v, Fits half v → m.int v = some v
  div : ∀ a b, b ≠ 0 → Fits half (a.tdiv b) → m.div a b = some (a.tdiv b)

section

variable {half : Nat} {a b v : Int}

theorem bmod_of_fits (fits : Fits half v) : v.bmod (2 * half) = v :=
  Int.bmod_eq_of_le_mul_two (by have := fits.1; push_cast; omega)
    (by have := fits.2; push_cast; omega)

theorem noOverflow_keeps (half : Nat) : Keeps half (noOverflow half) where
  int _ fits := if_pos fits
  div _ _ nonzero fits := if_pos ⟨nonzero, fits⟩

theorem noZeroDivide_keeps (half : Nat) : Keeps half (noZeroDivide half) where
  int _ fits := congrArg some (bmod_of_fits fits)
  div _ _ nonzero _ := if_neg nonzero

@[simp] theorem noZeroDivide_int (half : Nat) (v : Int) :
    (noZeroDivide half).int v = some (v.bmod (2 * half)) := rfl

theorem noZeroDivide_div (half : Nat) (nonzero : b ≠ 0) :
    (noZeroDivide half).div a b = some (a.tdiv b) := if_neg nonzero

/-- A quotient is no further from zero than what is divided. -/
theorem fits_tdiv (fits : Fits half a) (positive : 0 < b) : Fits half (a.tdiv b) := by
  have small := Int.natAbs_tdiv_le_natAbs a b
  obtain ⟨low, high⟩ := fits
  by_cases nonneg : 0 ≤ a
  · have sign := Int.tdiv_nonneg nonneg positive.le
    exact ⟨by omega, by omega⟩
  · have sign := Int.tdiv_nonneg (show 0 ≤ -a by omega) positive.le
    rw [Int.neg_tdiv] at sign
    exact ⟨by omega, by omega⟩

/-- The product of divisor and quotient misses the dividend by less than the divisor. -/
theorem tdiv_bounds (a : Int) (positive : 0 < b) : a - b < b * a.tdiv b ∧ b * a.tdiv b < a + b := by
  have split := Int.mul_tdiv_add_tmod a b
  have low := Int.lt_tmod_of_pos a positive
  have high := Int.tmod_lt_of_pos a positive
  exact ⟨by omega, by omega⟩

theorem tdiv_of_nonpos (b : Int) (nonpos : a ≤ 0) : a.tdiv b = -(-a / b) := by
  rw [← Int.tdiv_eq_ediv_of_nonneg (show 0 ≤ -a by omega), Int.neg_tdiv, Int.neg_neg]

theorem le_tdiv {q : Int} (positive : 0 < b) (nonneg : 0 ≤ a) (product : q * b ≤ a) :
    q ≤ a.tdiv b := by
  rw [Int.tdiv_eq_ediv_of_nonneg nonneg]
  exact Int.le_ediv_of_mul_le positive product

theorem tdiv_le {q : Int} (positive : 0 < b) (nonpos : a ≤ 0) (product : a ≤ q * b) :
    a.tdiv b ≤ q := by
  have flipped := le_tdiv positive (show 0 ≤ -a by omega)
    (show -q * b ≤ -a by rw [Int.neg_mul]; omega)
  rw [Int.neg_tdiv] at flipped
  omega

end

end Arithmetic
