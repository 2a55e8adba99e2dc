import Mathlib.Tactic.Linarith
import Mathlib.Tactic.Ring

/-! # Odometers

An odometer counts signed ticks in whole units of a period, and keeps the ticks of
the unit under way. When the period is one tick longer than the nominal unit, the
whole units fall behind the nominal ones by the units counted so far.
-/

/-- The whole units and the signed ticks of the unit under way. -/
structure Odometer where
  whole : Int
  part : Int

namespace Odometer

def zero : Odometer := ⟨0, 0⟩

def total (period : Int) (o : Odometer) : Int := period * o.whole + o.part

def step (period : Int) (o : Odometer) (d : Int) : Odometer :=
  if o.part + d = period then ⟨o.whole + 1, 0⟩
  else if o.part + d = -period then ⟨o.whole - 1, 0⟩
  else ⟨o.whole, o.part + d⟩

variable {period : Int} {o : Odometer}

@[simp] theorem total_zero : zero.total period = 0 := by
  simp [zero, total]

theorem total_step (d : Int) : (o.step period d).total period = o.total period + d := by
  rw [step]
  split
  · rename_i full
    simp only [total]
    linarith
  · split
    · rename_i full
      simp only [total]
      linarith
    · simp only [total]
      ring

theorem step_zero (inside : -period < o.part ∧ o.part < period) : o.step period 0 = o := by
  rw [step, add_zero, if_neg (by omega), if_neg (by omega)]

/-- The last tick of a unit, in either direction. -/
theorem step_last {d : Int} (sign : d = 1 ∨ d = -1) (full : d * o.part + 1 = period)
    (positive : 0 < period) : o.step period d = ⟨o.whole + d, 0⟩ := by
  rcases sign with rfl | rfl
  · rw [step, if_pos (by omega)]
  · rw [step, if_neg (by omega), if_pos (by omega)]
    rfl

theorem step_next {d : Int} (sign : d = 1 ∨ d = -1) (ahead : 0 ≤ d * o.part)
    (more : d * o.part + 1 < period) : o.step period d = ⟨o.whole, o.part + d⟩ := by
  rcases sign with rfl | rfl
  · rw [step, if_neg (by omega), if_neg (by omega)]
  · rw [step, if_neg (by omega), if_neg (by omega)]

theorem ahead_step {d : Int} (sign : d = 1 ∨ d = -1) (ahead : 0 ≤ d * o.part)
    (inside : d * o.part + 1 ≤ period) (positive : 0 < period) :
    0 ≤ d * (o.step period d).part := by
  cases inside.lt_or_eq with
  | inl more =>
      rw [step_next sign ahead more]
      rcases sign with rfl | rfl
      · simp only
        omega
      · simp only
        omega
  | inr full =>
      rw [step_last sign full positive, mul_zero]

/-! ## A period of one tick too many -/

variable {unit : Int}

/-- Up to this total the whole units are at most two units of `unit` ticks off. -/
def limit (unit : Int) : Int := unit * unit + 3 * unit

theorem drift_eq : unit * o.whole - o.total (unit + 1) = -(o.whole + o.part) := by
  simp only [total]
  ring

/-- With a whole number of units of the sign of the total the drift is largest. -/
theorem drift_le_of_nonneg (positive : 0 < unit) (inside : -unit ≤ o.part ∧ o.part ≤ unit)
    (nonneg : 0 ≤ o.total (unit + 1)) (small : o.total (unit + 1) ≤ limit unit) :
    -(2 * unit) ≤ o.whole + o.part ∧ o.whole + o.part ≤ 2 * unit := by
  simp only [total, limit] at nonneg small
  have start : 0 ≤ o.whole := by
    by_contra negative
    have less : o.whole ≤ -1 := by omega
    nlinarith
  have few : o.whole ≤ unit + 2 := by
    by_contra many
    have more : unit + 3 ≤ o.whole := by omega
    nlinarith
  refine ⟨by omega, ?_⟩
  cases lt_or_ge o.whole (unit + 1) with
  | inl below =>
      omega
  | inr above =>
      obtain last | last : o.whole = unit + 1 ∨ o.whole = unit + 2 := by omega
      · rw [last] at small ⊢
        nlinarith
      · rw [last] at small ⊢
        nlinarith

/-- The same travel in the other direction. -/
def neg (o : Odometer) : Odometer := ⟨-o.whole, -o.part⟩

theorem total_neg : o.neg.total period = -o.total period := by
  simp only [total, neg]
  ring

theorem drift_le (positive : 0 < unit) (inside : -unit ≤ o.part ∧ o.part ≤ unit)
    (small : |o.total (unit + 1)| ≤ limit unit) : |o.whole + o.part| ≤ 2 * unit := by
  obtain ⟨lower, upper⟩ := abs_le.mp small
  rw [abs_le]
  cases le_total 0 (o.total (unit + 1)) with
  | inl nonneg => exact drift_le_of_nonneg positive inside nonneg upper
  | inr nonpos =>
      have mirrored : o.neg.total (unit + 1) = -o.total (unit + 1) := total_neg
      have part : -unit ≤ o.neg.part ∧ o.neg.part ≤ unit := by
        simp only [neg]
        omega
      obtain ⟨least, most⟩ := drift_le_of_nonneg positive part (by omega) (by omega)
      simp only [neg] at least most
      omega

/-- One tick further the drift is more than two units. -/
theorem drift_gt_of_limit (positive : 0 < unit) (inside : 0 ≤ o.part ∧ o.part ≤ unit)
    (beyond : o.total (unit + 1) = limit unit + 1) : o.whole + o.part = 2 * unit + 1 := by
  simp only [total, limit] at beyond
  have whole : o.whole = unit + 1 := by
    have few : o.whole < unit + 2 := by
      by_contra many
      nlinarith
    have more : unit < o.whole := by
      by_contra less
      nlinarith
    omega
  rw [whole] at beyond ⊢
  nlinarith

theorem drift_gt {d : Int} (sign : d = 1 ∨ d = -1) (positive : 0 < unit)
    (inside : 0 ≤ d * o.part ∧ d * o.part ≤ unit)
    (beyond : d * o.total (unit + 1) = limit unit + 1) : 2 * unit < |o.whole + o.part| := by
  rcases sign with rfl | rfl
  · have part : 0 ≤ o.part ∧ o.part ≤ unit := by omega
    have total : o.total (unit + 1) = limit unit + 1 := by omega
    rw [drift_gt_of_limit positive part total, lt_abs]
    omega
  · have mirrored : o.neg.total (unit + 1) = limit unit + 1 := by
      rw [total_neg]
      omega
    have part : 0 ≤ o.neg.part ∧ o.neg.part ≤ unit := by
      simp only [neg]
      omega
    have drift := drift_gt_of_limit positive part mirrored
    simp only [neg] at drift
    rw [lt_abs]
    omega

end Odometer
