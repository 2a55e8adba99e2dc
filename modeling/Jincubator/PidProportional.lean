import Jincubator.PidWindup
import Mathlib.Data.Nat.Factorization.Basic
import Mathlib.Tactic.Ring

/-! # Proportional-only control

With the integral and the derivative off, the result falls as the measured value rises
and does not remember anything, as long as the filter is off as well. The derivative is
off below a parameter of ten, but the filter is on again from minus ten down.
-/

namespace Jincubator

open Incubator Arithmetic

/-! ## The limits -/

theorem clamp_mono {low high a b : Int} (le : a ≤ b) : clamp low high a ≤ clamp low high b := by
  rw [clamp_eq, clamp_eq]
  omega

namespace PidLoop

variable {loop : PidLoop} {s t : Incubator} {a b : Int}

theorem limit_eq (loop : PidLoop) (pidv : Int) (s : Incubator) :
    loop.limit pidv s = max (s.getVal loop.olo * 100) (min (s.getVal loop.ohi * 100) pidv) := by
  by_cases high : pidv > s.getVal loop.ohi * 100
  · simp only [limit, high, if_true]
    split <;> omega
  · simp only [limit, high, if_false]
    split <;> omega

theorem limit_mono (loop : PidLoop) (s : Incubator) (le : a ≤ b) :
    loop.limit a s ≤ loop.limit b s := by
  rw [limit_eq, limit_eq]
  omega

/-- A call does not move its limits. -/
theorem limit_summed (apart : loop.Apart) (pidv pv sp : Int) (s : Incubator) :
    loop.limit pidv (loop.summed pv sp s) = loop.limit pidv s := by
  have summed := loop.summed_within pv sp s
  rw [limit, limit, summed.getVal (apart loop.ohi (by simp)),
    summed.getVal (apart loop.olo (by simp))]

/-- The limits leave one value only of those between two. -/
def Pinned (loop : PidLoop) (a b : Int) (s : Incubator) : Prop :=
  s.getVal loop.olo = s.getVal loop.ohi ∨ s.getVal loop.ohi * 100 ≤ a ∨
    b ≤ s.getVal loop.olo * 100

instance (loop : PidLoop) (a b : Int) (s : Incubator) : Decidable (loop.Pinned a b s) :=
  inferInstanceAs (Decidable (_ ∨ _ ∨ _))

theorem limit_eq_iff (order : s.getVal loop.olo ≤ s.getVal loop.ohi) (lt : a < b) :
    loop.limit a s = loop.limit b s ↔ loop.Pinned a b s := by
  rw [limit_eq, limit_eq, Pinned]
  omega

/-! ## The proportional part -/

/-- The proportional part falls as the measured value rises. -/
theorem xp_antitone {pv pv' : Int} (le : pv ≤ pv') (sp : Int) (s : Incubator) :
    loop.xp pv' sp s ≤ loop.xp pv sp s := by
  by_cases enabled : s.getX10Val loop.p > 0
  · have range := loop.xp_range pv sp s
    have range' := loop.xp_range pv' sp s
    by_cases inside : loop.InBand (sp - pv) s
    · by_cases inside' : loop.InBand (sp - pv') s
      · have quotient : (10000 * (sp - pv')).tdiv (s.getX10Val loop.p) ≤
            (10000 * (sp - pv)).tdiv (s.getX10Val loop.p) :=
          Int.tdiv_le_tdiv enabled (by omega)
        rw [xp_inside enabled inside, xp_inside enabled inside']
        exact clamp_mono (by omega)
      · -- the error left the band below
        have under : ¬sp > pv' := by
          rw [InBand, abs_le] at inside inside'
          omega
        have bottom : loop.xp pv' sp s = 0 := by
          rw [xp, if_pos enabled, if_neg inside', if_neg under]
          rfl
        omega
    · by_cases above : sp > pv
      · have top : loop.xp pv sp s = 10000 := by
          rw [xp, if_pos enabled, if_neg inside, if_pos above]
          rfl
        omega
      · have outside : ¬loop.InBand (sp - pv') s := by
          rw [InBand, abs_le] at inside ⊢
          omega
        have bottom : loop.xp pv' sp s = 0 := by
          rw [xp, if_pos enabled, if_neg outside, if_neg (by omega)]
          rfl
        omega
  · rw [xp, xp, if_neg enabled, if_neg enabled]

/-! ## The filter -/

/-- The integral and the derivative are switched off. -/
structure ProportionalOnly (loop : PidLoop) (s : Incubator) : Prop where
  positive : 0 < s.getX10Val loop.p
  integral : s.getVal loop.i < 10
  derivative : s.getVal loop.d < 10
  order : s.getVal loop.olo ≤ s.getVal loop.ohi

/-- The proportional part behind the filter. -/
def filtered (loop : PidLoop) (xp wn1 : Int) (s : Incubator) : Int :=
  clamp 0 10000
    ((xp + (int32 (s.getE10Val loop.d * 100 * wn1)).tdiv 500).tdiv (loop.divisor s))

/-- The largest result of the filter. -/
def ceiling (loop : PidLoop) (s : Incubator) : Int :=
  if 0 < loop.divisor s then 10000 else min 10000 ((4294967 : Int).tdiv (-loop.divisor s))

theorem past_range (v : Int) :
    -4294967 ≤ (int32 v).tdiv 500 ∧ (int32 v).tdiv 500 ≤ 4294967 := by
  have low := (BitVec.ofInt 32 v).le_toInt
  have high := (BitVec.ofInt 32 v).toInt_lt
  have least := Int.tdiv_le_tdiv (show (0 : Int) < 500 by decide)
    (show (-2147483648 : Int) ≤ int32 v by rw [int32]; omega)
  have largest := Int.tdiv_le_tdiv (show (0 : Int) < 500 by decide)
    (show int32 v ≤ 2147483647 by rw [int32]; omega)
  exact ⟨least, largest⟩

theorem ProportionalOnly.off (only : loop.ProportionalOnly s) :
    s.getE10Val loop.i ≤ 0 ∧ s.getE10Val loop.d ≤ 0 := by
  have below {v : Int} (small : v < 10) : v.tdiv 10 ≤ 0 :=
    Int.tdiv_le_tdiv (show (0 : Int) < 10 by decide) (show v ≤ 9 by omega)
  exact ⟨below only.integral, below only.derivative⟩

theorem pid_proportional (apart : loop.Apart) (only : loop.ProportionalOnly s)
    (statics : PidStatics) (pv sp : Int) :
    (loop.pid statics pv sp s).1 = loop.filtered (loop.xp pv sp s) statics.wn1 s := by
  have xp := loop.xp_range pv sp s
  have none : loop.xi (sp - pv) s = (0, setInt loop.sum 0 s) :=
    if_neg fun enabled => absurd enabled.1 (not_lt.mpr only.off.1)
  have derivative := summed_derivative apart pv sp s
  have divisor := divisor_summed apart pv sp s
  have past := past_range (s.getE10Val loop.d * 100 * statics.wn1)
  have wn : int32 (loop.xp pv sp s) = loop.xp pv sp s :=
    int32_of_fits (fits_int.mpr (by omega))
  have off : ¬(s.getE10Val loop.d > 0 ∧ loop.InBand (sp - pv) (loop.summed pv sp s)) :=
    fun enabled => absurd enabled.1 (not_lt.mpr only.off.2)
  rw [pid_eq]
  simp only [xd, none, derivative, divisor, if_neg off, add_zero]
  rw [wn, int32_of_fits (fits_int.mpr (by omega)), filtered]

/-- Below ten the filter is off down to minus nine. -/
theorem filtered_off {xp : Int} (only : loop.ProportionalOnly s) (off : -10 < s.getVal loop.d)
    (range : 0 ≤ xp ∧ xp ≤ 10000) (wn1 : Int) : loop.filtered xp wn1 s = xp := by
  have least := Int.tdiv_le_tdiv (show (0 : Int) < 10 by decide)
    (show (-9 : Int) ≤ s.getVal loop.d by omega)
  have derivative : s.getE10Val loop.d = 0 := le_antisymm only.off.2 least
  rw [filtered, divisor, derivative, Int.zero_mul, Int.zero_mul]
  calc clamp 0 10000 ((xp + 0).tdiv 1) = clamp 0 10000 xp := by rw [add_zero, Int.tdiv_one]
    _ = xp := clamp_of_range range.1 range.2

theorem filtered_zero (loop : PidLoop) (s : Incubator) : loop.filtered 0 0 s = 0 := by
  rw [filtered, Int.mul_zero]
  calc clamp 0 10000 ((0 + (int32 0).tdiv 500).tdiv (loop.divisor s))
      = clamp 0 10000 ((0 : Int).tdiv (loop.divisor s)) := rfl
    _ = 0 := by rw [Int.zero_tdiv]; rfl

theorem ceiling_pos (nonzero : loop.divisor s ≠ 0) : 0 < loop.ceiling s := by
  have range := getE10Val_range s loop.d
  have bounds := tdiv_bounds (s.getE10Val loop.d * 100) (show (0 : Int) < 500 by decide)
  rw [ceiling]
  split
  · decide
  · have quotient := le_tdiv (show 0 < -loop.divisor s by omega)
      (show (0 : Int) ≤ 4294967 by decide)
      (show 1 * -loop.divisor s ≤ 4294967 by rw [divisor]; omega)
    omega

theorem filtered_range {xp : Int} (nonneg : 0 ≤ xp) (nonzero : loop.divisor s ≠ 0) (wn1 : Int) :
    0 ≤ loop.filtered xp wn1 s ∧ loop.filtered xp wn1 s ≤ loop.ceiling s := by
  have past := past_range (s.getE10Val loop.d * 100 * wn1)
  have range := clamp_range (show (0 : Int) ≤ 10000 by decide)
    ((xp + (int32 (s.getE10Val loop.d * 100 * wn1)).tdiv 500).tdiv (loop.divisor s))
  rw [ceiling]
  split
  · exact range
  · rename_i negative
    have quotient : (xp + (int32 (s.getE10Val loop.d * 100 * wn1)).tdiv 500).tdiv
        (loop.divisor s) ≤ (4294967 : Int).tdiv (-loop.divisor s) := by
      rw [← Int.neg_tdiv_neg]
      exact Int.tdiv_le_tdiv (by omega) (by omega)
    have positive := Int.tdiv_nonneg (show (0 : Int) ≤ 4294967 by decide)
      (show 0 ≤ -loop.divisor s by omega)
    refine ⟨range.1, le_min range.2 ?_⟩
    rw [filtered]
    exact clamp_le (by decide) positive quotient

/-- Some history takes the product of the filter to the smallest value. -/
theorem product_reached {d : Int} (negative : d < 0) (small : -32768 ≤ d) :
    ∃ wn1, Fits intHalf wn1 ∧ int32 (d * 100 * wn1) = -2147483648 := by
  obtain ⟨k, m, ⟨j, odd⟩, split⟩ := Nat.exists_eq_two_pow_mul_odd (show d.natAbs ≠ 0 by omega)
  have few : k < 16 := by
    by_contra many
    have large := Nat.pow_le_pow_right (show 0 < 2 by decide) (not_lt.mp many)
    have bound := Nat.le_mul_of_pos_right (2 ^ k) (show 0 < m by omega)
    omega
  have value : d = -(2 ^ k * (2 * j + 1)) := by
    have magnitude : (d.natAbs : Int) = 2 ^ k * (2 * j + 1) := by
      rw [split, odd]
      push_cast
      ring
    omega
  have powers : (2 : Int) ^ k * 2 ^ (29 - k) = 2 ^ 29 := by
    rw [← pow_add, Nat.add_sub_cancel' (by omega)]
  have room : (2 : Int) ^ (29 - k) ≤ 2 ^ 29 :=
    pow_le_pow_right₀ (by decide) (Nat.sub_le 29 k)
  have positive : 0 < (2 : Int) ^ (29 - k) := pow_pos (by decide) _
  refine ⟨2 ^ (29 - k), fits_int.mpr ⟨by omega, by omega⟩, ?_⟩
  have product : d * 100 * 2 ^ (29 - k) = -2147483648 + (2 * intHalf : Nat) * -(25 * j + 12) := by
    calc d * 100 * 2 ^ (29 - k) = -(100 * (2 * j + 1)) * (2 ^ k * 2 ^ (29 - k)) := by
          rw [value]
          ring
      _ = -2147483648 + (2 * intHalf : Nat) * -(25 * j + 12) := by
          rw [powers]
          push_cast
          ring
  rw [product, int32_eq_bmod, Int.add_mul_bmod_self_left]
  decide

/-- Below minus nine the largest result of the filter is reached. -/
theorem filtered_reached (negative : s.getE10Val loop.d < 0) :
    ∃ wn1, Fits intHalf wn1 ∧ loop.filtered 0 wn1 s = loop.ceiling s := by
  have range := getE10Val_range s loop.d
  by_cases positive : 0 < loop.divisor s
  · have bounds := tdiv_bounds (s.getE10Val loop.d * 100) (show (0 : Int) < 500 by decide)
    have one : loop.divisor s = 1 := by
      rw [divisor] at positive ⊢
      omega
    have least : -5 < s.getE10Val loop.d := by
      rw [divisor] at positive
      omega
    refine ⟨-50000, by decide, ?_⟩
    have product : int32 (s.getE10Val loop.d * 100 * -50000) =
        10000 * -s.getE10Val loop.d * 500 := by
      rw [int32_of_fits (fits_int.mpr (by omega))]
      ring
    rw [filtered, ceiling, if_pos positive, product, Int.mul_tdiv_cancel _ (by decide), one,
      Int.tdiv_one, clamp_eq]
    omega
  · obtain ⟨wn1, fits, product⟩ := product_reached negative (by omega)
    refine ⟨wn1, fits, ?_⟩
    have quotient := Int.tdiv_nonneg (show (0 : Int) ≤ 4294967 by decide)
      (show 0 ≤ -loop.divisor s by omega)
    have past : (0 + (-2147483648 : Int).tdiv 500).tdiv (loop.divisor s) =
        (4294967 : Int).tdiv (-loop.divisor s) := by
      rw [← Int.neg_tdiv_neg]
      rfl
    rw [filtered, ceiling, if_neg positive, product, past, clamp_eq]
    omega

end PidLoop

/-! ## Memory -/

/-- The static variables are values of an `int`. -/
def PidStatics.Ints (statics : PidStatics) : Prop :=
  Fits intHalf statics.vn1 ∧ Fits intHalf statics.wn1

/-- A call remembers nothing, and its result falls as the measured value rises. -/
structure Proportional (result : PidStatics → Word → Word → Option Int) : Prop where
  memoryless : ∀ statics statics' : PidStatics, statics.Ints → statics'.Ints →
    ∀ pv sp, result statics pv sp = result statics' pv sp
  falls : ∀ statics : PidStatics, statics.Ints → ∀ pv pv' sp : Word, pv.toInt ≤ pv'.toInt →
    ∃ v v', result statics pv sp = some v ∧ result statics pv' sp = some v' ∧ v' ≤ v

/-- The results of a call. -/
def tempValue (s : Incubator) (statics : PidStatics) (pv sp : Word) : Option Int :=
  (pidCalc1With (noZeroDivide intHalf) pv.toInt sp.toInt { s with pidTemp := statics }).map
    Prod.fst

def humiValue (s : Incubator) (statics : PidStatics) (pv sp : Word) : Option Int :=
  (pidCalc2With (noZeroDivide intHalf) pv.toInt sp.toInt { s with pidHumi := statics }).map
    Prod.fst

section

variable {loop : PidLoop} {s : Incubator} {result : PidStatics → Word → Word → Option Int}
variable {scale : Int → Int}

def Increasing (scale : Int → Int) : Prop := ∀ a b, a < b → scale a < scale b

theorem Increasing.le (increasing : Increasing scale) {a b : Int} (le : a ≤ b) :
    scale a ≤ scale b := by
  rcases Int.lt_or_eq_of_le le with lt | rfl
  · exact Int.le_of_lt (increasing a b lt)
  · exact Int.le_refl _

/-- The calculation ends with the filter, a scale and the limits. -/
def Scaled (loop : PidLoop) (scale : Int → Int) (s : Incubator)
    (result : PidStatics → Word → Word → Option Int) : Prop :=
  ∀ statics pv sp, result statics pv sp =
    if loop.divisor s = 0 then none
    else some (loop.limit
      (scale (loop.filtered (loop.xp pv.toInt sp.toInt s) statics.wn1 s)) s)

/-- Without the filter the result is that of the proportional part. -/
theorem proportional_off (only : loop.ProportionalOnly s) (scaled : Scaled loop scale s result)
    (increasing : Increasing scale) (off : -10 < s.getVal loop.d) : Proportional result := by
  have least := Int.tdiv_le_tdiv (show (0 : Int) < 10 by decide)
    (show (-9 : Int) ≤ s.getVal loop.d by omega)
  have derivative : s.getE10Val loop.d = 0 := le_antisymm only.off.2 least
  have nonzero : loop.divisor s ≠ 0 := by
    rw [PidLoop.divisor, derivative]
    decide
  have value (statics : PidStatics) (pv sp : Word) : result statics pv sp =
      some (loop.limit (scale (loop.xp pv.toInt sp.toInt s)) s) := by
    rw [scaled, if_neg nonzero, PidLoop.filtered_off only off (loop.xp_range _ _ s)]
  refine ⟨fun statics statics' _ _ pv sp => ?_, fun statics _ pv pv' sp le => ?_⟩
  · rw [value, value]
  · exact ⟨_, _, value statics pv sp, value statics pv' sp,
      loop.limit_mono s (increasing.le (PidLoop.xp_antitone le sp.toInt s))⟩

/-- Where the limits leave one value only, that is the result. -/
theorem proportional_pinned (only : loop.ProportionalOnly s) (scaled : Scaled loop scale s result)
    (increasing : Increasing scale) (nonzero : loop.divisor s ≠ 0)
    (pinned : loop.Pinned (scale 0) (scale (loop.ceiling s)) s) : Proportional result := by
  have value (statics : PidStatics) (pv sp : Word) : result statics pv sp =
      some (loop.limit (scale 0) s) := by
    have range := PidLoop.filtered_range (loop.xp_range pv.toInt sp.toInt s).1 nonzero statics.wn1
    have ends := (PidLoop.limit_eq_iff only.order
      (increasing _ _ (PidLoop.ceiling_pos nonzero))).mpr pinned
    have low := loop.limit_mono s (increasing.le range.1)
    have high := loop.limit_mono s (increasing.le range.2)
    rw [scaled, if_neg nonzero, le_antisymm (high.trans_eq ends.symm) low]
  refine ⟨fun statics statics' _ _ pv sp => ?_, fun statics _ pv pv' sp _ => ?_⟩
  · rw [value, value]
  · exact ⟨_, _, value statics pv sp, value statics pv' sp, le_rfl⟩

/-- The measured value above its band, after two different histories. -/
theorem pinned_of_proportional (only : loop.ProportionalOnly s)
    (scaled : Scaled loop scale s result) (increasing : Increasing scale)
    (proportional : Proportional result) (filter : s.getVal loop.d ≤ -10) :
    loop.divisor s ≠ 0 ∧ loop.Pinned (scale 0) (scale (loop.ceiling s)) s := by
  have nonzero : loop.divisor s ≠ 0 := by
    intro zero
    obtain ⟨v, -, defined, -⟩ :=
      proportional.falls ⟨0, 0⟩ ⟨by decide, by decide⟩ 0 0 0 le_rfl
    rw [scaled, if_pos zero] at defined
    cases defined
  have negative : s.getE10Val loop.d < 0 := by
    have largest := Int.tdiv_le_tdiv (show (0 : Int) < 10 by decide) filter
    exact lt_of_le_of_lt largest (by decide)
  have bottom : loop.xp (32767 : Word).toInt (-32768 : Word).toInt s = 0 := by
    have outside : ¬loop.InBand ((-32768 : Word).toInt - (32767 : Word).toInt) s := fun inside =>
      absurd (PidLoop.inBand_range inside).1 (by decide)
    rw [PidLoop.xp, if_pos only.positive, if_neg outside, if_neg (by decide)]
    rfl
  obtain ⟨wn1, fits, reached⟩ := PidLoop.filtered_reached negative
  have same := proportional.memoryless ⟨0, 0⟩ ⟨0, wn1⟩ ⟨by decide, by decide⟩
    ⟨show Fits intHalf 0 by decide, fits⟩ 32767 (-32768)
  rw [scaled, scaled, if_neg nonzero, if_neg nonzero, bottom, reached, PidLoop.filtered_zero,
    Option.some.injEq] at same
  exact ⟨nonzero, (PidLoop.limit_eq_iff only.order
    (increasing _ _ (PidLoop.ceiling_pos nonzero))).mp same⟩

theorem proportional_scaled (only : loop.ProportionalOnly s) (scaled : Scaled loop scale s result)
    (increasing : Increasing scale) : Proportional result ↔ -10 < s.getVal loop.d ∨
      (loop.divisor s ≠ 0 ∧ loop.Pinned (scale 0) (scale (loop.ceiling s)) s) := by
  refine ⟨fun proportional => ?_, fun condition => ?_⟩
  · by_cases off : -10 < s.getVal loop.d
    · exact .inl off
    · exact .inr (pinned_of_proportional only scaled increasing proportional (not_lt.mp off))
  · rcases condition with off | ⟨nonzero, pinned⟩
    · exact proportional_off only scaled increasing off
    · exact proportional_pinned only scaled increasing nonzero pinned

theorem tempValue_scaled (only : tempLoop.ProportionalOnly s) :
    Scaled tempLoop id s (tempValue s) := by
  intro statics pv sp
  have words := PidLoop.words_toInt pv sp
  have only' : tempLoop.ProportionalOnly { s with pidTemp := statics } :=
    ⟨only.positive, only.integral, only.derivative, only.order⟩
  rw [tempValue, pidCalc1With_noZeroDivide words, apply_ite (Option.map Prod.fst)]
  refine if_congr Iff.rfl rfl ?_
  rw [Option.map_some, pidCalc1_value, PidLoop.limit_summed PidLoop.tempLoop_apart,
    PidLoop.pid_proportional PidLoop.tempLoop_apart only']
  rfl

theorem humiValue_scaled (only : humiLoop.ProportionalOnly s) :
    Scaled humiLoop (fun v => (v - 5000) * 2) s (humiValue s) := by
  intro statics pv sp
  have words := PidLoop.words_toInt pv sp
  have only' : humiLoop.ProportionalOnly { s with pidHumi := statics } :=
    ⟨only.positive, only.integral, only.derivative, only.order⟩
  rw [humiValue, pidCalc2With_noZeroDivide words, apply_ite (Option.map Prod.fst)]
  refine if_congr Iff.rfl rfl ?_
  rw [Option.map_some, pidCalc2_value, PidLoop.limit_summed PidLoop.humiLoop_apart,
    PidLoop.pid_proportional PidLoop.humiLoop_apart only']
  rfl

end

/-- Proportional-only control remembers nothing and falls as the measured value rises exactly if
the filter is off, or if it divides by something and the limits leave one value only. -/
theorem proportional_iff (s : Incubator) :
    (tempLoop.ProportionalOnly s → (Proportional (tempValue s) ↔
      -10 < s.getVal tempLoop.d ∨ (tempLoop.divisor s ≠ 0 ∧
        tempLoop.Pinned 0 (tempLoop.ceiling s) s))) ∧
    (humiLoop.ProportionalOnly s → (Proportional (humiValue s) ↔
      -10 < s.getVal humiLoop.d ∨ (humiLoop.divisor s ≠ 0 ∧
        humiLoop.Pinned (-10000) ((humiLoop.ceiling s - 5000) * 2) s))) := by
  refine ⟨fun only => ?_, fun only => ?_⟩
  · exact proportional_scaled only (tempValue_scaled only) fun _ _ lt => lt
  · have increasing : Increasing fun v => (v - 5000) * 2 := by
      intro a b lt
      change (a - 5000) * 2 < (b - 5000) * 2
      omega
    exact proportional_scaled only (humiValue_scaled only) increasing

/-- A derivative parameter of minus one after the division by ten. -/
def remembering : Incubator :=
  cleared |> setVal Reg.pTempP 1 |> setVal Reg.pTempD (-10) |> setVal Reg.pTempOhi 100

theorem remembering_only : tempLoop.ProportionalOnly remembering :=
  ⟨by decide +kernel, by decide +kernel, by decide +kernel, by decide +kernel⟩

/-- The last result takes a fifth of itself away. -/
theorem remembering_value :
    tempValue remembering ⟨0, 0⟩ 0 0 = some 5000 ∧
      tempValue remembering ⟨0, 5000⟩ 0 0 = some 4000 := by
  decide +kernel

theorem proportional_remembers : ¬∀ s,
    (tempLoop.ProportionalOnly s → Proportional (tempValue s)) ∧
      (humiLoop.ProportionalOnly s → Proportional (humiValue s)) := by
  intro proportional
  obtain ⟨memoryless, -⟩ := (proportional remembering).1 remembering_only
  have same := memoryless ⟨0, 0⟩ ⟨0, 5000⟩ ⟨by decide, by decide⟩ ⟨by decide, by decide⟩ 0 0
  rw [remembering_value.1, remembering_value.2] at same
  cases same

/-- Both loops with their filter off. -/
def plain : Incubator :=
  cleared |> setVal Reg.pTempP 1 |> setVal Reg.pTempOhi 100 |> setVal Reg.pHumP 1
    |> setVal Reg.pHumOhi 100

theorem proportional_iff_plain : Proportional (tempValue plain) ∧ Proportional (humiValue plain) :=
  ⟨((proportional_iff plain).1 ⟨by decide +kernel, by decide +kernel, by decide +kernel,
      by decide +kernel⟩).mpr (.inl (by decide +kernel)),
    ((proportional_iff plain).2 ⟨by decide +kernel, by decide +kernel, by decide +kernel,
      by decide +kernel⟩).mpr (.inl (by decide +kernel))⟩

end Jincubator
