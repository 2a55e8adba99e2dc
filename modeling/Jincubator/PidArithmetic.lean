import Jincubator.JobTc
import Jincubator.Library.Arithmetic

/-! # The operations of the PID calculations

The calculations are written out once more, one machine operation after the other.
On the machine that only refuses to divide by zero they give what the calculations
give, unless the divisor of the filter is zero. On the machine that refuses overflow
they give it as long as the sum and the last two results are small enough.
-/

namespace Jincubator

open Incubator Arithmetic

/-- Half of the values of an `int`. -/
abbrev intHalf : Nat := 2147483648

theorem int32_eq_bmod (v : Int) : int32 v = v.bmod (2 * intHalf) := by
  rw [int32, BitVec.toInt_ofInt]
  rfl

theorem int32_of_fits {v : Int} (fits : Fits intHalf v) : int32 v = v := by
  rw [int32_eq_bmod, bmod_of_fits fits]

theorem fits_int {v : Int} : Fits intHalf v ↔ -2147483648 ≤ v ∧ v < 2147483648 := Iff.rfl

theorem getInt_fits (s : Incubator) (i : Nat) : Fits intHalf (s.getInt i) := by
  have low := (s.reg i ++ s.reg (i + 1)).le_toInt
  have high := (s.reg i ++ s.reg (i + 1)).toInt_lt
  rw [getInt_eq, fits_int]
  exact ⟨by omega, by omega⟩

theorem setInt_congr {v w : Int} (same : int32 v = int32 w) (i : Nat) (s : Incubator) :
    setInt i v s = setInt i w s := by
  have words : BitVec.ofInt 32 v = BitVec.ofInt 32 w := BitVec.eq_of_toInt_eq same
  rw [setInt, setInt, words]

/-- A sum that is stored is cut already. -/
theorem setInt_int32 (i : Nat) (v : Int) (s : Incubator) : setInt i (int32 v) s = setInt i v s := by
  refine setInt_congr ?_ i s
  rw [int32_eq_bmod, int32_eq_bmod, Int.bmod_bmod]

@[simp] theorem getInt_setInt_self (i : Nat) (v : Int) (s : Incubator) :
    (setInt i v s).getInt i = int32 v := by
  have time := getTime_setTime_self s i v
  rw [getTime_eq, setTime_eq, uint32, Int.natCast_inj] at time
  rw [getInt_eq, BitVec.eq_of_toNat_eq time, int32]

theorem getX10Val_range (s : Incubator) (i : Nat) :
    -32768 ≤ s.getX10Val i ∧ s.getX10Val i < 32768 := by
  have low := (BitVec.ofInt 16 ((baWord (s.shmOut i)).toInt * 10)).le_toInt
  have high := (BitVec.ofInt 16 ((baWord (s.shmOut i)).toInt * 10)).toInt_lt
  rw [getX10Val, pidshm2short]
  exact ⟨by omega, by omega⟩

theorem getE10Val_eq (s : Incubator) (i : Nat) : s.getE10Val i = (s.getVal i).tdiv 10 := rfl

theorem getE10Val_range (s : Incubator) (i : Nat) :
    -3277 ≤ s.getE10Val i ∧ s.getE10Val i ≤ 3277 := by
  have range := getVal_range s i
  have bounds := tdiv_bounds (s.getVal i) (show (0 : Int) < 10 by decide)
  rw [getE10Val_eq]
  omega

theorem clamp_eq (low high v : Int) : clamp low high v = min high (max low v) := by
  unfold clamp
  by_cases below : v < low
  · simp only [below, if_true]
    split <;> omega
  · simp only [below, if_false]
    split <;> omega

theorem clamp_range {low high : Int} (order : low ≤ high) (v : Int) :
    low ≤ clamp low high v ∧ clamp low high v ≤ high := by
  rw [clamp_eq]
  omega

/-! ## One operation after the other -/

namespace PidLoop

variable (m : Machine) (loop : PidLoop)

def xpWith (pv sp en : Int) (s : Incubator) : Option Int := do
  let xp ←
    if s.getX10Val loop.p > 0 then
      if loop.InBand en s then do
        let scaled ← m.int (10000 * en)
        let ratio ← m.div scaled (s.getX10Val loop.p)
        m.int (ratio + 5000)
      else if sp > pv then some 10000
      else some 0
    else some 0
  return clamp 0 10000 xp

def xiWith (en : Int) (s : Incubator) : Option (Int × Incubator) :=
  if s.getE10Val loop.i > 0 ∧ loop.InBand en s then do
    let sum ← m.int (s.getInt loop.sum + en)
    let s := setInt loop.sum sum s
    let scaled ← m.int (50 * s.getInt loop.sum)
    let ratio ← m.div scaled (s.getE10Val loop.i)
    return (clamp (-10000) 10000 ratio, s)
  else some (0, setInt loop.sum 0 s)

/-- The sum is taken back where the result is too large. -/
def undoWith (vn en : Int) (s : Incubator) : Option Incubator :=
  if vn > 15000 ∨ vn < -5000 then do
    let sum ← m.int (s.getInt loop.sum - en)
    return setInt loop.sum sum s
  else some s

def xdWith (en vn vn1 : Int) (s : Incubator) : Option Int :=
  if s.getE10Val loop.d > 0 ∧ loop.InBand en s then do
    let twice ← m.int (2 * s.getE10Val loop.d)
    let rise ← m.int (vn - vn1)
    m.int (twice * rise)
  else some 0

/-- The filter over the result of the last call. -/
def filterWith (wn wn1 : Int) (s : Incubator) : Option Int := do
  let scaled ← m.int (s.getE10Val loop.d * 100)
  let product ← m.int (scaled * wn1)
  let past ← m.div product 500
  let iv ← m.int (wn + past)
  let ratio ← m.div scaled 500
  let jv ← m.int (1 + ratio)
  m.div iv jv

def pidWith (statics : PidStatics) (pv sp : Int) (s : Incubator) :
    Option (Int × PidStatics × Incubator) := do
  let en ← m.int (sp - pv)
  let xp ← loop.xpWith m pv sp en s
  let xi ← loop.xiWith m en s
  let vn ← m.int (xp + xi.1)
  let s ← loop.undoWith m vn en xi.2
  let xd ← loop.xdWith m en vn statics.vn1 s
  let wn ← m.int (vn + xd)
  let yn ← loop.filterWith m wn statics.wn1 s
  return (clamp 0 10000 yn, ⟨vn, wn⟩, s)

def limitWith (pidv : Int) (s : Incubator) : Option Int := do
  let high ← m.int (s.getVal loop.ohi * 100)
  let low ← m.int (s.getVal loop.olo * 100)
  let pidv := if pidv > high then high else pidv
  return if pidv < low then low else pidv

end PidLoop

def pidCalc1With (m : Machine) (pv sp : Int) (s : Incubator) : Option (Int × Incubator) := do
  let result ← tempLoop.pidWith m s.pidTemp pv sp s
  let s := { result.2.2 with pidTemp := result.2.1 }
  let pidv ← tempLoop.limitWith m result.1 s
  return (pidv, s)

def pidCalc2With (m : Machine) (pv sp : Int) (s : Incubator) : Option (Int × Incubator) := do
  let result ← humiLoop.pidWith m s.pidHumi pv sp s
  let s := { result.2.2 with pidHumi := result.2.1 }
  let centred ← m.int (result.1 - 5000)
  let doubled ← m.int (centred * 2)
  let pidv ← humiLoop.limitWith m doubled s
  return (pidv, s)

/-! ## The machine that wraps around -/

namespace PidLoop

variable {loop : PidLoop} {m : Machine} {pv sp en vn : Int} {s : Incubator}

/-- The divisor of the filter. -/
def divisor (loop : PidLoop) (s : Incubator) : Int := 1 + (s.getE10Val loop.d * 100).tdiv 500

/-- Sixteen-bit arguments of a call. -/
def Words (pv sp : Int) : Prop := (-32768 ≤ pv ∧ pv < 32768) ∧ -32768 ≤ sp ∧ sp < 32768

theorem words_toInt (pv sp : Word) : Words pv.toInt sp.toInt := by
  have pvLow := pv.le_toInt
  have pvHigh := pv.toInt_lt
  have spLow := sp.le_toInt
  have spHigh := sp.toInt_lt
  exact ⟨⟨by omega, by omega⟩, by omega, by omega⟩

theorem xp_range (loop : PidLoop) (pv sp : Int) (s : Incubator) :
    0 ≤ loop.xp pv sp s ∧ loop.xp pv sp s ≤ 10000 :=
  clamp_range (by decide) _

theorem xi_range (loop : PidLoop) (en : Int) (s : Incubator) :
    -10000 ≤ (loop.xi en s).1 ∧ (loop.xi en s).1 ≤ 10000 := by
  rw [xi]
  split
  · exact clamp_range (by decide) _
  · exact ⟨show (-10000 : Int) ≤ 0 by decide, show (0 : Int) ≤ 10000 by decide⟩

theorem inBand_range (inside : loop.InBand en s) : -16384 ≤ en ∧ en ≤ 16384 := by
  have range := getX10Val_range s loop.p
  have bounds := tdiv_bounds (s.getX10Val loop.p) (show (0 : Int) < 2 by decide)
  rw [InBand, abs_le] at inside
  omega

/-- The proportional part always fits. -/
theorem xpWith_eq (keeps : Keeps intHalf m) (pv sp : Int) (s : Incubator) :
    loop.xpWith m pv sp (sp - pv) s = some (loop.xp pv sp s) := by
  rw [xpWith, xp]
  by_cases enabled : s.getX10Val loop.p > 0
  · simp only [enabled, if_true]
    by_cases inside : loop.InBand (sp - pv) s
    · have range := inBand_range inside
      have scaled : Fits intHalf (10000 * (sp - pv)) := fits_int.mpr (by omega)
      have ratio := fits_tdiv scaled enabled
      have bounds := tdiv_bounds (10000 * (sp - pv)) enabled
      have sum : Fits intHalf ((10000 * (sp - pv)).tdiv (s.getX10Val loop.p) + 5000) := by
        have small := Int.natAbs_tdiv_le_natAbs (10000 * (sp - pv)) (s.getX10Val loop.p)
        exact fits_int.mpr (by omega)
      simp only [inside, if_true, keeps.int _ scaled, keeps.div _ _ (ne_of_gt enabled) ratio,
        keeps.int _ sum, Option.bind_eq_bind, Option.bind_some]
      rfl
    · simp only [inside, if_false]
      split
      · rfl
      · rfl
  · simp only [enabled, if_false]
    rfl

/-- The parameters lie beside the sum. -/
def Apart (loop : PidLoop) : Prop :=
  ∀ r ∈ [loop.p, loop.i, loop.d, loop.ohi, loop.olo], r ∉ [loop.sum, loop.sum + 1]

instance (loop : PidLoop) : Decidable loop.Apart := inferInstanceAs (Decidable (∀ _ ∈ _, _))

theorem tempLoop_apart : tempLoop.Apart := by decide

theorem humiLoop_apart : humiLoop.Apart := by decide

theorem setSum_within (loop : PidLoop) (v : Int) (s : Incubator) :
    Within [loop.sum, loop.sum + 1] s (setInt loop.sum v s) := by
  simp

theorem xiWith_noZeroDivide (apart : loop.Apart) (en : Int) (s : Incubator) :
    loop.xiWith (noZeroDivide intHalf) en s = some (loop.xi en s) := by
  rw [xiWith, xi]
  by_cases enabled : s.getE10Val loop.i > 0 ∧ loop.InBand en s
  · have kept (v : Int) : (setInt loop.sum v s).getE10Val loop.i = s.getE10Val loop.i :=
      (setSum_within loop v s).getE10Val (apart _ (by simp))
    rw [if_pos enabled, if_pos enabled]
    simp only [noZeroDivide_int, ← int32_eq_bmod, setInt_int32, kept, Option.bind_eq_bind,
      Option.bind_some, noZeroDivide_div _ (ne_of_gt enabled.1)]
    rfl
  · rw [if_neg enabled, if_neg enabled]

theorem undoWith_noZeroDivide (loop : PidLoop) (vn en : Int) (s : Incubator) :
    loop.undoWith (noZeroDivide intHalf) vn en s =
      some (if vn > 15000 ∨ vn < -5000 then setInt loop.sum (s.getInt loop.sum - en) s else s) := by
  rw [undoWith]
  split
  · simp only [noZeroDivide_int, ← int32_eq_bmod, setInt_int32, Option.bind_eq_bind,
      Option.bind_some]
    rfl
  · rfl

theorem xdWith_noZeroDivide (loop : PidLoop) (en vn vn1 : Int) (s : Incubator) :
    loop.xdWith (noZeroDivide intHalf) en vn vn1 s = some (loop.xd en vn vn1 s) := by
  rw [xdWith, xd]
  split
  · simp only [noZeroDivide_int, Option.bind_eq_bind, Option.bind_some, int32_eq_bmod]
    simp
  · rfl

theorem filterWith_noZeroDivide (loop : PidLoop) (wn wn1 : Int) (s : Incubator) :
    loop.filterWith (noZeroDivide intHalf) wn wn1 s =
      if loop.divisor s = 0 then none
      else some ((int32 (wn + (int32 (s.getE10Val loop.d * 100 * wn1)).tdiv 500)).tdiv
        (loop.divisor s)) := by
  have range := getE10Val_range s loop.d
  have scaled : int32 (s.getE10Val loop.d * 100) = s.getE10Val loop.d * 100 :=
    int32_of_fits (fits_int.mpr (by omega))
  have bounds := tdiv_bounds (s.getE10Val loop.d * 100) (show (0 : Int) < 500 by decide)
  have divisor : int32 (1 + (s.getE10Val loop.d * 100).tdiv 500) = loop.divisor s :=
    int32_of_fits (fits_int.mpr (by omega))
  rw [filterWith]
  simp only [noZeroDivide_int, ← int32_eq_bmod, Option.bind_eq_bind, Option.bind_some, scaled,
    noZeroDivide_div _ (show (500 : Int) ≠ 0 by decide), divisor]
  rfl

/-- The state in which the result is computed. -/
def summed (loop : PidLoop) (pv sp : Int) (s : Incubator) : Incubator :=
  let xi := loop.xi (sp - pv) s
  let vn := loop.xp pv sp s + xi.1
  if vn > 15000 ∨ vn < -5000 then setInt loop.sum (xi.2.getInt loop.sum - (sp - pv)) xi.2
  else xi.2

theorem summed_within (loop : PidLoop) (pv sp : Int) (s : Incubator) :
    Within [loop.sum, loop.sum + 1] s (loop.summed pv sp s) := by
  simp [summed, xi, apply_ite Prod.snd]

theorem summed_derivative (apart : loop.Apart) (pv sp : Int) (s : Incubator) :
    (loop.summed pv sp s).getE10Val loop.d = s.getE10Val loop.d :=
  (loop.summed_within pv sp s).getE10Val (apart loop.d (by simp))

theorem divisor_summed (apart : loop.Apart) (pv sp : Int) (s : Incubator) :
    loop.divisor (loop.summed pv sp s) = loop.divisor s := by
  rw [divisor, divisor, summed_derivative apart]

theorem pid_eq (loop : PidLoop) (statics : PidStatics) (pv sp : Int) (s : Incubator) :
    loop.pid statics pv sp s =
      let u := loop.summed pv sp s
      let vn := loop.xp pv sp s + (loop.xi (sp - pv) s).1
      let wn := int32 (vn + loop.xd (sp - pv) vn statics.vn1 u)
      let past := (int32 (u.getE10Val loop.d * 100 * statics.wn1)).tdiv 500
      (clamp 0 10000 ((int32 (wn + past)).tdiv (loop.divisor u)), ⟨vn, wn⟩, u) := rfl

theorem pid_vn1 (loop : PidLoop) (statics : PidStatics) (pv sp : Int) (s : Incubator) :
    (loop.pid statics pv sp s).2.1.vn1 = loop.xp pv sp s + (loop.xi (sp - pv) s).1 := by
  rw [pid_eq]

/-- Only a zero divisor of the filter stops the calculation. -/
theorem pidWith_noZeroDivide (apart : loop.Apart) (words : Words pv sp) (statics : PidStatics)
    (s : Incubator) :
    loop.pidWith (noZeroDivide intHalf) statics pv sp s =
      if loop.divisor s = 0 then none else some (loop.pid statics pv sp s) := by
  have keeps := noZeroDivide_keeps intHalf
  have xp := loop.xp_range pv sp s
  have xi := loop.xi_range (sp - pv) s
  have error : Fits intHalf (sp - pv) := by
    obtain ⟨pvWord, spWord⟩ := words
    exact fits_int.mpr (by omega)
  have sum : Fits intHalf (loop.xp pv sp s + (loop.xi (sp - pv) s).1) :=
    fits_int.mpr (by omega)
  have divisor := divisor_summed apart pv sp s
  rw [pidWith, keeps.int _ error]
  simp only [Option.bind_eq_bind, Option.bind_some, xpWith_eq keeps, xiWith_noZeroDivide apart,
    undoWith_noZeroDivide, xdWith_noZeroDivide, noZeroDivide_int, ← int32_eq_bmod,
    int32_of_fits sum]
  change (loop.filterWith _ _ statics.wn1 (loop.summed pv sp s)).bind _ = _
  rw [filterWith_noZeroDivide, divisor]
  split
  · rfl
  · rw [Option.bind_some, pid_eq]
    simp only [divisor]
    rfl

theorem limitWith_eq (keeps : Keeps intHalf m) (loop : PidLoop) (pidv : Int) (s : Incubator) :
    loop.limitWith m pidv s = some (loop.limit pidv s) := by
  have high := getVal_range s loop.ohi
  have low := getVal_range s loop.olo
  have highFits : Fits intHalf (s.getVal loop.ohi * 100) := fits_int.mpr (by omega)
  have lowFits : Fits intHalf (s.getVal loop.olo * 100) := fits_int.mpr (by omega)
  rw [limitWith, keeps.int _ highFits, keeps.int _ lowFits]
  rfl

theorem pid_result_range (loop : PidLoop) (statics : PidStatics) (pv sp : Int) (s : Incubator) :
    0 ≤ (loop.pid statics pv sp s).1 ∧ (loop.pid statics pv sp s).1 ≤ 10000 :=
  clamp_range (by decide) _

end PidLoop

/-! ## The two calculations -/

section

variable {pv sp : Int}

theorem pidCalc1_state (pv sp : Int) (s : Incubator) : (pidCalc1 pv sp s).2 =
    { tempLoop.summed pv sp s with pidTemp := (tempLoop.pid s.pidTemp pv sp s).2.1 } := rfl

theorem pidCalc2_state (pv sp : Int) (s : Incubator) : (pidCalc2 pv sp s).2 =
    { humiLoop.summed pv sp s with pidHumi := (humiLoop.pid s.pidHumi pv sp s).2.1 } := rfl

theorem pidCalc1_value (pv sp : Int) (s : Incubator) : (pidCalc1 pv sp s).1 =
    tempLoop.limit (tempLoop.pid s.pidTemp pv sp s).1 (tempLoop.summed pv sp s) := by
  have value : (pidCalc1 pv sp s).1 =
      tempLoop.limit (tempLoop.pid s.pidTemp pv sp s).1 (pidCalc1 pv sp s).2 := rfl
  rw [value, pidCalc1_state]
  rfl

theorem pidCalc2_value (pv sp : Int) (s : Incubator) : (pidCalc2 pv sp s).1 =
    humiLoop.limit (((humiLoop.pid s.pidHumi pv sp s).1 - 5000) * 2)
      (humiLoop.summed pv sp s) := by
  have value : (pidCalc2 pv sp s).1 =
      humiLoop.limit (((humiLoop.pid s.pidHumi pv sp s).1 - 5000) * 2) (pidCalc2 pv sp s).2 := rfl
  rw [value, pidCalc2_state]
  rfl

theorem pidCalc1With_noZeroDivide (words : PidLoop.Words pv sp) (s : Incubator) :
    pidCalc1With (noZeroDivide intHalf) pv sp s =
      if tempLoop.divisor s = 0 then none else some (pidCalc1 pv sp s) := by
  rw [pidCalc1With, PidLoop.pidWith_noZeroDivide PidLoop.tempLoop_apart words]
  split
  · rfl
  · simp only [Option.bind_eq_bind, Option.bind_some,
      PidLoop.limitWith_eq (noZeroDivide_keeps intHalf)]
    rfl

theorem pidCalc2With_noZeroDivide (words : PidLoop.Words pv sp) (s : Incubator) :
    pidCalc2With (noZeroDivide intHalf) pv sp s =
      if humiLoop.divisor s = 0 then none else some (pidCalc2 pv sp s) := by
  have keeps := noZeroDivide_keeps intHalf
  have range := humiLoop.pid_result_range s.pidHumi pv sp s
  have centred : Fits intHalf ((humiLoop.pid s.pidHumi pv sp s).1 - 5000) :=
    fits_int.mpr (by omega)
  have doubled : Fits intHalf (((humiLoop.pid s.pidHumi pv sp s).1 - 5000) * 2) :=
    fits_int.mpr (by omega)
  rw [pidCalc2With, PidLoop.pidWith_noZeroDivide PidLoop.humiLoop_apart words]
  split
  · rfl
  · simp only [Option.bind_eq_bind, Option.bind_some, keeps.int _ centred, keeps.int _ doubled,
      PidLoop.limitWith_eq keeps]
    rfl

end

end Jincubator
