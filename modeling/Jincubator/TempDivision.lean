import Jincubator.PidArithmetic
import Jincubator.Temperature

/-! # Divisions of the temperature pass

The pass is written out over a machine that may refuse a quotient; divisors that are
constants of the source other than the length of the moving average are left alone.
It gives what the pass gives exactly if three settings are kept from their zeros: the
bounds of the heater differ, the derivative does not cancel the filter, and the step
of the fan is not zero where the fan follows the temperature.
-/

namespace Jincubator

open Incubator Arithmetic

section

variable (m : Machine)

def pidFilterWith (pid : Int) (base num : Nat) (s : Incubator) : Option (Int × Incubator) := do
  let s := s |> shiftFilter base (num - 1) |> setNativeInt base 0 pid
  let sum := (List.range num).foldl (fun sum i => int32 (sum + s.nativeInt base i)) 0
  let average ← m.div sum num
  return (short average, s)

def mainHeaterWith (pid : Int) (s : Incubator) : Option Int := do
  let dutyHi := 10 * s.getVal Reg.pTempOhi
  let dutyLo := 10 * s.getVal Reg.pTempOlo
  let duty ← m.div (100 * (pid.tdiv 10 - s.getVal Reg.pHlo * 10))
    (s.getVal Reg.pHhi - s.getVal Reg.pHlo)
  let duty := if duty ≥ dutyHi then dutyHi else if duty ≤ dutyLo then dutyLo else duty
  let heat :=
    if s.getVal Reg.rAiTpMain ≥ s.getVal Reg.pAoTpMain then 0
    else if s.getVal Reg.rAiTpMain <
        s.getVal Reg.pAoTpMain - (s.getX10Val Reg.pTempP).tdiv 2 then dutyHi
    else duty
  return heat

def pidTempInitWith (s : Incubator) : Option Incubator := do
  let temp ← pidCalc1With m (s.getVal Reg.rAiTpMain) (s.getVal Reg.pAoTpMain) s
  let s := setInt Reg.pidTempValue temp.1 temp.2
  let average ← pidFilterWith m temp.1 Reg.filterPidTempArr 10 s
  let s := setInt Reg.pidTempNewFilterValue average.1 average.2
  let duty ← mainHeaterWith m average.1 s
  let s := setUval Reg.pidTempMainHeater duty s
  let pidCool := cool average.1 s
  let s := setUval Reg.pidTempCool pidCool.1 pidCool.2
  let pidAdOpen := dbOpen average.1 s
  let s := setUval Reg.pidTempDbOpen pidAdOpen.1 pidAdOpen.2
  let pidAdClose := dbClose average.1 s
  return setUval Reg.pidTempDbClose pidAdClose.1 pidAdClose.2

def pidRangeWith (s : Incubator) : Option Incubator := do
  let s ← pidTempInitWith m s
  let s := s |> pidAirDoorOpen |> reloadCounts
  let s := controlMainHeat (if CountRuns Reg.pidOnCountMainHeater s then on else off) s
  return controlCool (if CountRuns Reg.pidOnCountCool s then on else off) s

def fanFrequencyWith (current setting highTempAlarmStatus : Int) (s : Incubator) :
    Option Incubator :=
  if s.fanStatus = 1 then
    if current ≥ setting then
      if highTempAlarmStatus ≠ 0 then
        some (s.put Reg.sSyncMotorControlrunFreq (s.shmOut Reg.sSyncMotorUpperLimitFreq))
      else do
        let step ← m.div (current - setting) (s.getVal Reg.sSyncMotorStage)
        let difference := short step
        let freq := s.getVal Reg.sSyncMotorLowerLimitFreq +
          difference * s.getVal Reg.sSyncMotorBasics
        let freq :=
          if freq ≥ s.getVal Reg.sSyncMotorUpperLimitFreq then
            s.getVal Reg.sSyncMotorUpperLimitFreq
          else freq
        return setVal Reg.sSyncMotorControlrunFreq freq s
    else if current < setting then
      some (s.put Reg.sSyncMotorControlrunFreq (s.shmOut Reg.sSyncMotorLowerLimitFreq))
    else some s
  else some s

def tempBandFuncWith (current setting pidP : Int) (s : Incubator) : Option Incubator :=
  if current < setting - pidP then
    some (s |> controlMainHeat on |> controlCool off |> leavePidRange 10000)
  else if current ≥ setting - pidP ∧ current ≤ setting + pidP then pidRangeWith m s
  else if current > setting + pidP then
    some (s |> controlCool on |> controlMainHeat off |> leavePidRange 5000)
  else some s

def logicProcessTempFuncWith (s : Incubator) : Option Incubator := do
  let current := s.getVal Reg.rAiTpMain
  let setting := s.getVal Reg.pAoTpMain
  let pidP := (s.getX10Val Reg.pTempP).tdiv 2
  let highTempAlarmStatus := s.getVal Reg.highTempAlarmStatus
  let s ← tempBandFuncWith m current setting pidP (auxHeatFunc s)
  fanFrequencyWith m current setting highTempAlarmStatus s

end

/-! ## The three settings -/

/-- The inverter follows the temperature. -/
def FanFollows (s : Incubator) : Prop :=
  s.fanStatus = 1 ∧ s.getVal Reg.rAiTpMain ≥ s.getVal Reg.pAoTpMain ∧
    s.getVal Reg.highTempAlarmStatus = 0

/-- The divisors of the band are not zero. -/
def BandDivides (s : Incubator) : Prop :=
  s.getVal Reg.pHhi ≠ s.getVal Reg.pHlo ∧
    ¬(-99 ≤ s.getVal Reg.pTempD ∧ s.getVal Reg.pTempD ≤ -50)

structure TempDivides (s : Incubator) : Prop where
  band : InTempBand s → BandDivides s
  fan : FanFollows s → s.getVal Reg.sSyncMotorStage ≠ 0

section

variable {s t : Incubator}

/-- The derivative cancels the filter. -/
theorem PidLoop.divisor_zero_iff (loop : PidLoop) (s : Incubator) :
    loop.divisor s = 0 ↔ -99 ≤ s.getVal loop.d ∧ s.getVal loop.d ≤ -50 := by
  have range := getVal_range s loop.d
  rw [PidLoop.divisor, getE10Val_eq]
  by_cases nonneg : 0 ≤ s.getVal loop.d
  · have quotient := Int.tdiv_nonneg nonneg (show (0 : Int) ≤ 10 by decide)
    have filter := Int.tdiv_nonneg (show 0 ≤ (s.getVal loop.d).tdiv 10 * 100 by omega)
      (show (0 : Int) ≤ 500 by decide)
    omega
  · have quotient := tdiv_of_nonpos 10 (show s.getVal loop.d ≤ 0 by omega)
    have filter := tdiv_of_nonpos 500 (show (s.getVal loop.d).tdiv 10 * 100 ≤ 0 by omega)
    omega

theorem pidFilterWith_noZeroDivide (pid : Int) (base : Nat) {num : Nat} (nonzero : num ≠ 0)
    (s : Incubator) :
    pidFilterWith (noZeroDivide intHalf) pid base num s = some (pidFilter pid base num s) := by
  have divisor : (num : Int) ≠ 0 := by exact_mod_cast nonzero
  simp only [pidFilterWith, noZeroDivide_div _ divisor, Option.bind_eq_bind, Option.bind_some]
  rfl

theorem mainHeaterWith_noZeroDivide (pid : Int) (s : Incubator) :
    mainHeaterWith (noZeroDivide intHalf) pid s =
      if s.getVal Reg.pHhi = s.getVal Reg.pHlo then none else some (mainHeater pid s) := by
  rw [mainHeaterWith]
  by_cases same : s.getVal Reg.pHhi = s.getVal Reg.pHlo
  · simp [same, noZeroDivide]
  · have divisor : s.getVal Reg.pHhi - s.getVal Reg.pHlo ≠ 0 := sub_ne_zero.mpr same
    simp only [noZeroDivide_div _ divisor, same, if_false, Option.bind_eq_bind, Option.bind_some]
    rfl

instance (s : Incubator) : Decidable (BandDivides s) := inferInstanceAs (Decidable (_ ∧ ¬_))

theorem pidTempInitWith_noZeroDivide (s : Incubator) :
    pidTempInitWith (noZeroDivide intHalf) s =
      if BandDivides s then some (pidTempInit s) else none := by
  have words : PidLoop.Words (s.getVal Reg.rAiTpMain) (s.getVal Reg.pAoTpMain) :=
    ⟨getVal_range s _, getVal_range s _⟩
  rw [pidTempInitWith, pidCalc1With_noZeroDivide words]
  by_cases cancels : tempLoop.divisor s = 0
  · rw [if_pos cancels, if_neg fun divides => divides.2 ((tempLoop.divisor_zero_iff s).mp cancels)]
    rfl
  · have filters := fun zero => cancels ((tempLoop.divisor_zero_iff s).mpr zero)
    rw [if_neg cancels]
    simp only [Option.bind_eq_bind, Option.bind_some,
      pidFilterWith_noZeroDivide _ _ (show 10 ≠ 0 by decide), mainHeaterWith_noZeroDivide]
    set temp := pidCalc1 (s.getVal Reg.rAiTpMain) (s.getVal Reg.pAoTpMain) s with calculated
    set average := pidFilter temp.1 Reg.filterPidTempArr 10
      (setInt Reg.pidTempValue temp.1 temp.2) with averaged
    have kept : Within pidTempWrites s (setInt Reg.pidTempNewFilterValue average.1 average.2) := by
      simp (disch := decide) [calculated, averaged, pidCalc1]
    rw [kept.getVal (by decide), kept.getVal (by decide)]
    by_cases same : s.getVal Reg.pHhi = s.getVal Reg.pHlo
    · rw [if_pos same, if_neg fun divides => divides.1 same]
      rfl
    · rw [if_neg same, if_pos ⟨same, filters⟩]
      rfl

/-- A step that returns has met no zero divisor. -/
theorem pidTempInitWith_returns (returns : pidTempInitWith (noZeroDivide intHalf) s = some t) :
    t = pidTempInit s := by
  rw [pidTempInitWith_noZeroDivide, Option.ite_none_right_eq_some] at returns
  exact (Option.some.inj returns.2).symm

theorem pidRangeWith_noZeroDivide (s : Incubator) :
    pidRangeWith (noZeroDivide intHalf) s =
      if BandDivides s then some (pidRange s) else none := by
  rw [pidRangeWith, pidTempInitWith_noZeroDivide]
  split
  · rfl
  · rfl

instance (s : Incubator) : Decidable (FanFollows s) := inferInstanceAs (Decidable (_ ∧ _ ∧ _))

theorem tempBandFuncWith_noZeroDivide {current setting pidP : Int} (s : Incubator) :
    tempBandFuncWith (noZeroDivide intHalf) current setting pidP s =
      if current ≥ setting - pidP ∧ current ≤ setting + pidP → BandDivides s then
        some (tempBandFunc current setting pidP s)
      else none := by
  rw [tempBandFuncWith, tempBandFunc, pidRangeWith_noZeroDivide]
  by_cases below : current < setting - pidP
  · rw [if_pos below, if_pos below, if_pos fun inside => absurd below (not_lt.mpr inside.1)]
  · rw [if_neg below, if_neg below]
    by_cases inside : current ≥ setting - pidP ∧ current ≤ setting + pidP
    · rw [if_pos inside, if_pos inside]
      simp only [inside, and_self, forall_const]
    · rw [if_neg inside, if_neg inside, if_pos fun within => absurd within inside]
      split
      · rfl
      · rfl

theorem fanFrequencyWith_noZeroDivide {current setting alarm : Int} (s : Incubator) :
    fanFrequencyWith (noZeroDivide intHalf) current setting alarm s =
      if s.fanStatus = 1 ∧ current ≥ setting ∧ alarm = 0 → s.getVal Reg.sSyncMotorStage ≠ 0 then
        some (fanFrequency current setting alarm s)
      else none := by
  rw [fanFrequencyWith, fanFrequency]
  by_cases inverter : s.fanStatus = 1
  · rw [if_pos inverter, if_pos inverter]
    by_cases warm : current ≥ setting
    · rw [if_pos warm, if_pos warm]
      by_cases calm : alarm = 0
      · simp only [calm, ne_eq, not_true_eq_false, if_false, inverter, warm, and_self,
          forall_const]
        by_cases zero : s.getVal Reg.sSyncMotorStage = 0
        · simp [zero, noZeroDivide]
        · simp only [zero, noZeroDivide_div _ zero, not_false_eq_true, if_true,
            Option.bind_eq_bind, Option.bind_some]
          rfl
      · rw [if_pos calm, if_pos calm, if_pos fun follows => absurd follows.2.2 calm]
    · rw [if_neg warm, if_neg warm, if_pos fun follows => absurd follows.2.1 warm]
      split
      · rfl
      · rfl
  · rw [if_neg inverter, if_neg inverter, if_pos fun follows => absurd follows.1 inverter]

/-- The settings are the same before the outputs of the auxiliary heater and the band. -/
theorem logicProcessTempFuncWith_noZeroDivide (s : Incubator) :
    logicProcessTempFuncWith (noZeroDivide intHalf) s =
      if (InTempBand s → BandDivides s) ∧
          (FanFollows s → s.getVal Reg.sSyncMotorStage ≠ 0) then
        some (logicProcessTempFunc s)
      else none := by
  have heated : Within [Reg.controlAuxHeat] s (auxHeatFunc s) := by simp
  have divides : BandDivides (auxHeatFunc s) ↔ BandDivides s := by
    rw [BandDivides, BandDivides, heated.getVal (by decide), heated.getVal (by decide),
      heated.getVal (by decide)]
  have outcome : tempBandFuncWith (noZeroDivide intHalf) (s.getVal Reg.rAiTpMain)
      (s.getVal Reg.pAoTpMain) ((s.getX10Val Reg.pTempP).tdiv 2) (auxHeatFunc s) =
        if InTempBand s → BandDivides s then
          some (tempBandFunc (s.getVal Reg.rAiTpMain) (s.getVal Reg.pAoTpMain)
            ((s.getX10Val Reg.pTempP).tdiv 2) (auxHeatFunc s))
        else none :=
    (tempBandFuncWith_noZeroDivide _).trans
      (if_congr (imp_congr_right fun _ => divides) rfl rfl)
  simp only [logicProcessTempFuncWith, outcome]
  by_cases band : InTempBand s → BandDivides s
  · have passed : Within (Reg.controlAuxHeat :: tempBandWrites) s
        (tempBandFunc (s.getVal Reg.rAiTpMain) (s.getVal Reg.pAoTpMain)
          ((s.getX10Val Reg.pTempP).tdiv 2) (auxHeatFunc s)) := by
      simp
    have stage := passed.getVal (show Reg.sSyncMotorStage ∉ _ by decide +kernel)
    rw [if_pos band, Option.bind_eq_bind, Option.bind_some,
      fanFrequencyWith_noZeroDivide]
    simp only [passed.fanStatus, stage]
    refine if_congr ?_ rfl rfl
    exact (and_iff_right band).symm
  · rw [if_neg band, if_neg fun both => band both.1]
    rfl

theorem logicProcessTempFuncWith_of_divides (divides : TempDivides s) :
    logicProcessTempFuncWith (noZeroDivide intHalf) s = some (logicProcessTempFunc s) := by
  rw [logicProcessTempFuncWith_noZeroDivide, if_pos ⟨divides.band, divides.fan⟩]

/-- A call that returns has met no zero divisor. -/
theorem logicProcessTempFuncWith_returns
    (returns : logicProcessTempFuncWith (noZeroDivide intHalf) s = some t) :
    t = logicProcessTempFunc s := by
  rw [logicProcessTempFuncWith_noZeroDivide, Option.ite_none_right_eq_some] at returns
  exact (Option.some.inj returns.2).symm

end

/-- The pass divides by no zero, and is then what the model computes, exactly if the three
settings are kept from their zeros. -/
theorem tempDivision_iff (s : Incubator) :
    ((logicProcessTempFuncWith (noZeroDivide intHalf) s).isSome ↔ TempDivides s) ∧
      ∀ t, logicProcessTempFuncWith (noZeroDivide intHalf) s = some t →
        t = logicProcessTempFunc s := by
  rw [logicProcessTempFuncWith_noZeroDivide]
  by_cases settings : (InTempBand s → BandDivides s) ∧
      (FanFollows s → s.getVal Reg.sSyncMotorStage ≠ 0)
  · rw [if_pos settings]
    refine ⟨iff_of_true rfl ⟨settings.1, settings.2⟩, ?_⟩
    rintro t ⟨⟩
    rfl
  · rw [if_neg settings]
    refine ⟨iff_of_false Bool.false_ne_true fun divides => settings ⟨divides.band, divides.fan⟩, ?_⟩
    rintro t ⟨⟩

/-- With all settings zero the temperature is in its band of no width, and the bounds of the
heater are equal. -/
theorem heater_divides_by_zero :
    ¬∀ s, (logicProcessTempFuncWith (noZeroDivide intHalf) s).isSome := by
  intro divides
  have settings := divides cleared
  rw [logicProcessTempFuncWith_noZeroDivide, if_neg (by decide +kernel)] at settings
  cases settings

end Jincubator
