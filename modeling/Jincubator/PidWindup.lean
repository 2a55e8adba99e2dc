import Jincubator.Library.Run
import Jincubator.PidArithmetic

/-! # The bound of the integral

A sum beyond two hundred times the integral parameter saturates the integral part.
It can only have got there by an error of the same sign, which moves the proportional
part past its middle, so the result is beyond its limits and the sum is taken back.
-/

namespace Jincubator

open Incubator Arithmetic Run

/-! ## Clamps -/

section

variable {low high c v : Int}

theorem le_clamp (below : c ≤ high) (reached : c ≤ v) : c ≤ clamp low high v := by
  rw [clamp_eq]
  omega

theorem clamp_le (order : low ≤ high) (above : low ≤ c) (reached : v ≤ c) :
    clamp low high v ≤ c := by
  rw [clamp_eq]
  omega

theorem clamp_of_range (above : low ≤ v) (below : v ≤ high) : clamp low high v = v := by
  rw [clamp_eq]
  omega

end

/-- The result that the limits look at, inside the band. -/
def bandResult (p i en sum : Int) : Int :=
  clamp 0 10000 ((10000 * en).tdiv p + 5000) + clamp (-10000) 10000 ((50 * sum).tdiv i)

/-- A sum that leaves its bound is taken back. -/
theorem windup_undone {p i en sum : Int} (positive : 0 < p) (small : p ≤ 10000) (integral : 0 < i)
    (bounded : |sum| ≤ 200 * i) (beyond : ¬|sum + en| ≤ 200 * i) :
    bandResult p i en (sum + en) > 15000 ∨ bandResult p i en (sum + en) < -5000 := by
  rw [abs_le] at bounded beyond
  rw [not_and_or, not_le, not_le] at beyond
  rcases beyond with under | above
  · right
    have drop := tdiv_le positive (show 10000 * en ≤ 0 by omega)
      (show 10000 * en ≤ -1 * p by omega)
    have saturated := tdiv_le integral (show 50 * (sum + en) ≤ 0 by omega)
      (show 50 * (sum + en) ≤ -10000 * i by omega)
    have xp : clamp 0 10000 ((10000 * en).tdiv p + 5000) ≤ 4999 :=
      clamp_le (by decide) (by decide) (by omega)
    have xi : clamp (-10000) 10000 ((50 * (sum + en)).tdiv i) ≤ -10000 :=
      clamp_le (by decide) le_rfl saturated
    rw [bandResult]
    omega
  · left
    have rise := le_tdiv positive (show 0 ≤ 10000 * en by omega)
      (show 1 * p ≤ 10000 * en by omega)
    have saturated := le_tdiv integral (show 0 ≤ 50 * (sum + en) by omega)
      (show 10000 * i ≤ 50 * (sum + en) by omega)
    have xp : 5001 ≤ clamp 0 10000 ((10000 * en).tdiv p + 5000) :=
      le_clamp (by decide) (by omega)
    have xi : 10000 ≤ clamp (-10000) 10000 ((50 * (sum + en)).tdiv i) :=
      le_clamp le_rfl saturated
    rw [bandResult]
    omega

/-! ## One call -/

namespace PidLoop

variable {loop : PidLoop} {pv sp en : Int} {s t : Incubator}

/-- The band is no wider than ten thousand and the integral part is in use. -/
structure Integrates (loop : PidLoop) (s : Incubator) : Prop where
  positive : 0 < s.getX10Val loop.p
  small : s.getX10Val loop.p ≤ 10000
  integral : 0 < s.getE10Val loop.i

/-- The sum stays within two hundred times the integral parameter. -/
def SumBounded (loop : PidLoop) (s : Incubator) : Prop :=
  |s.getInt loop.sum| ≤ 200 * s.getE10Val loop.i

theorem SumBounded.fits (bounded : loop.SumBounded s) (small : |en| ≤ 65535) :
    Fits intHalf (s.getInt loop.sum + en) ∧ Fits intHalf (50 * (s.getInt loop.sum + en)) := by
  have range := getE10Val_range s loop.i
  rw [SumBounded, abs_le] at bounded
  rw [abs_le] at small
  exact ⟨fits_int.mpr (by omega), fits_int.mpr (by omega)⟩

theorem error_range (words : Words pv sp) : |sp - pv| ≤ 65535 := by
  obtain ⟨pvWord, spWord⟩ := words
  rw [abs_le]
  omega

/-- Inside the band the error is added to the sum. -/
theorem xi_inside (apart : loop.Apart) (enabled : s.getE10Val loop.i > 0 ∧ loop.InBand en s)
    (fits : Fits intHalf (s.getInt loop.sum + en) ∧ Fits intHalf (50 * (s.getInt loop.sum + en))) :
    loop.xi en s =
      (clamp (-10000) 10000 ((50 * (s.getInt loop.sum + en)).tdiv (s.getE10Val loop.i)),
        setInt loop.sum (s.getInt loop.sum + en) s) := by
  have kept (v : Int) : (setInt loop.sum v s).getE10Val loop.i = s.getE10Val loop.i :=
    (setSum_within loop v s).getE10Val (apart _ (by simp))
  rw [xi, if_pos enabled]
  simp only [getInt_setInt_self, int32_of_fits fits.1, int32_of_fits fits.2, kept]

theorem xp_inside (positive : 0 < s.getX10Val loop.p) (inside : loop.InBand (sp - pv) s) :
    loop.xp pv sp s = clamp 0 10000 ((10000 * (sp - pv)).tdiv (s.getX10Val loop.p) + 5000) := by
  rw [xp, if_pos positive, if_pos inside]

/-- The sum after a call inside the band. -/
theorem summed_inside (apart : loop.Apart) (integrates : loop.Integrates s)
    (bounded : loop.SumBounded s) (words : Words pv sp) (inside : loop.InBand (sp - pv) s) :
    (loop.summed pv sp s).getInt loop.sum =
      if bandResult (s.getX10Val loop.p) (s.getE10Val loop.i) (sp - pv)
            (s.getInt loop.sum + (sp - pv)) > 15000 ∨
          bandResult (s.getX10Val loop.p) (s.getE10Val loop.i) (sp - pv)
            (s.getInt loop.sum + (sp - pv)) < -5000 then s.getInt loop.sum
      else s.getInt loop.sum + (sp - pv) := by
  have fits := bounded.fits (error_range words)
  have result := xi_inside apart ⟨integrates.integral, inside⟩ fits
  have restored : int32 (s.getInt loop.sum + (sp - pv) - (sp - pv)) = s.getInt loop.sum := by
    rw [add_sub_cancel_right, int32_of_fits (getInt_fits s _)]
  simp only [summed, result, xp_inside integrates.positive inside]
  rw [← bandResult]
  split
  · rw [getInt_setInt_self, getInt_setInt_self, int32_of_fits fits.1, restored]
  · rw [getInt_setInt_self, int32_of_fits fits.1]

/-- Outside the band the sum is cleared. -/
theorem summed_outside (outside : ¬loop.InBand (sp - pv) s) :
    (loop.summed pv sp s).getInt loop.sum = 0 := by
  have range := loop.xp_range pv sp s
  have none : loop.xi (sp - pv) s = (0, setInt loop.sum 0 s) :=
    if_neg fun enabled => outside enabled.2
  simp only [summed, none]
  rw [if_neg (by omega), getInt_setInt_self]
  rfl

theorem Integrates.within (apart : loop.Apart) (st : Within [loop.sum, loop.sum + 1] s t)
    (integrates : loop.Integrates s) : loop.Integrates t where
  positive := by
    rw [st.getX10Val (apart _ (by simp))]
    exact integrates.positive
  small := by
    rw [st.getX10Val (apart _ (by simp))]
    exact integrates.small
  integral := by
    rw [st.getE10Val (apart _ (by simp))]
    exact integrates.integral

/-- A call keeps the bound. -/
theorem summed_bounded (apart : loop.Apart) (integrates : loop.Integrates s)
    (bounded : loop.SumBounded s) (words : Words pv sp) :
    loop.SumBounded (loop.summed pv sp s) := by
  rw [SumBounded, (loop.summed_within pv sp s).getE10Val (apart loop.i (by simp))]
  by_cases inside : loop.InBand (sp - pv) s
  · rw [summed_inside apart integrates bounded words inside]
    split
    · exact bounded
    · rename_i kept
      by_contra beyond
      exact kept (windup_undone integrates.positive integrates.small integrates.integral bounded
        beyond)
  · rw [summed_outside inside, abs_zero]
    have := integrates.integral
    omega

end PidLoop

/-! ## Runs -/

/-- A call with whatever the static variables then hold. -/
structure PidCall where
  pv : Word
  sp : Word
  statics : PidStatics

def tempCall (s : Incubator) (c : PidCall) : Incubator :=
  (pidCalc1 c.pv.toInt c.sp.toInt { s with pidTemp := c.statics }).2

def humiCall (s : Incubator) (c : PidCall) : Incubator :=
  (pidCalc2 c.pv.toInt c.sp.toInt { s with pidHumi := c.statics }).2

/-- The new sum of a call is stored exactly, and is within its bound. -/
def SumKept (loop : PidLoop) (i : Int) (s : Incubator) (c : PidCall) (t : Incubator) : Prop :=
  Fits intHalf (s.getInt loop.sum + (c.sp.toInt - c.pv.toInt)) ∧ |t.getInt loop.sum| ≤ 200 * i

/-- Along a run of calls whose registers are those of one loop. -/
theorem sumKept_along {loop : PidLoop} (apart : loop.Apart) {step : Incubator → PidCall → Incubator}
    (calls : ∀ s c, ∃ u, u.shmOut = s.shmOut ∧
      (step s c).shmOut = (loop.summed c.pv.toInt c.sp.toInt u).shmOut)
    {s : Incubator} (integrates : loop.Integrates s) (start : s.getInt loop.sum = 0)
    (cs : List PidCall) : Along step (SumKept loop (s.getE10Val loop.i)) s cs := by
  set i := s.getE10Val loop.i with parameter
  have registers {t u : Incubator} (same : u.shmOut = t.shmOut) :
      loop.Integrates t ∧ loop.SumBounded t ∧ t.getE10Val loop.i = i →
        loop.Integrates u ∧ loop.SumBounded u ∧ u.getE10Val loop.i = i := by
    obtain ⟨out, old, fan, timer, temp, humi, cooler, opened, closed⟩ := t
    obtain ⟨_, old', fan', timer', temp', humi', cooler', opened', closed'⟩ := u
    cases same
    exact fun kept => ⟨⟨kept.1.positive, kept.1.small, kept.1.integral⟩, kept.2.1, kept.2.2⟩
  have kept (t : Incubator) (c : PidCall)
      (inv : loop.Integrates t ∧ loop.SumBounded t ∧ t.getE10Val loop.i = i) :
      loop.Integrates (step t c) ∧ loop.SumBounded (step t c) ∧
        (step t c).getE10Val loop.i = i := by
    obtain ⟨u, same, called⟩ := calls t c
    obtain ⟨integrates, bounded, fixed⟩ := registers same inv
    have within := loop.summed_within c.pv.toInt c.sp.toInt u
    refine registers called ⟨integrates.within apart within, ?_, ?_⟩
    · exact PidLoop.summed_bounded apart integrates bounded (PidLoop.words_toInt c.pv c.sp)
    · rw [within.getE10Val (apart loop.i (by simp)), fixed]
  have first : loop.SumBounded s := by
    have := integrates.integral
    rw [PidLoop.SumBounded, start, abs_zero]
    omega
  refine along_of_invariant kept (fun t c inv => ?_) ⟨integrates, first, rfl⟩ cs
  obtain ⟨-, bounded, same⟩ := kept t c inv
  rw [PidLoop.SumBounded, same] at bounded
  exact ⟨(inv.2.1.fits (PidLoop.error_range (PidLoop.words_toInt c.pv c.sp))).1, bounded⟩

theorem tempCall_summed (s : Incubator) (c : PidCall) : ∃ u, u.shmOut = s.shmOut ∧
    (tempCall s c).shmOut = (tempLoop.summed c.pv.toInt c.sp.toInt u).shmOut :=
  ⟨{ s with pidTemp := c.statics }, rfl, rfl⟩

theorem humiCall_summed (s : Incubator) (c : PidCall) : ∃ u, u.shmOut = s.shmOut ∧
    (humiCall s c).shmOut = (humiLoop.summed c.pv.toInt c.sp.toInt u).shmOut :=
  ⟨{ s with pidHumi := c.statics }, rfl, rfl⟩

/-- From a sum of zero on, any calls with any values of the static variables keep the sum of each
loop within two hundred times its integral parameter. -/
theorem windup_bounded (s : Incubator) (cs : List PidCall) :
    (tempLoop.Integrates s → s.getInt tempLoop.sum = 0 →
      Along tempCall (SumKept tempLoop (s.getE10Val tempLoop.i)) s cs) ∧
    (humiLoop.Integrates s → s.getInt humiLoop.sum = 0 →
      Along humiCall (SumKept humiLoop (s.getE10Val humiLoop.i)) s cs) :=
  ⟨fun integrates start =>
      sumKept_along PidLoop.tempLoop_apart tempCall_summed integrates start cs,
    fun integrates start =>
      sumKept_along PidLoop.humiLoop_apart humiCall_summed integrates start cs⟩

/-- The sum is pushed against its bound from below. -/
def windupStart : Incubator :=
  cleared |> setVal Reg.pTempP 10 |> setVal Reg.pTempI 10

theorem windup_bounded_push :
    tempLoop.Integrates windupStart ∧
      Along tempCall (SumKept tempLoop 1) windupStart
        (List.replicate 5 ⟨0, 45, ⟨0, 0⟩⟩) := by
  have integrates : tempLoop.Integrates windupStart :=
    ⟨by decide +kernel, by decide +kernel, by decide +kernel⟩
  have parameter : windupStart.getE10Val tempLoop.i = 1 := by decide +kernel
  have bounded := (windup_bounded windupStart (List.replicate 5 ⟨0, 45, ⟨0, 0⟩⟩)).1 integrates
    (by decide +kernel)
  rw [parameter] at bounded
  exact ⟨integrates, bounded⟩

end Jincubator
