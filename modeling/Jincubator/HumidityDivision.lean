import Jincubator.Humidity
import Jincubator.TempDivision

/-! # Divisions of the humidity control and of the passes

The humidity control is written out over the machine that may refuse a quotient, as the
temperature control is. Both end the process on a divisor of zero, so a control pass goes
on to the return-water channels exactly if none of the four settings is at its zero.
-/

namespace Jincubator

open Incubator Arithmetic

section

variable (m : Arithmetic.Machine)

def sprayDutyWith (pid : Int) (s : Incubator) : Option (Int × Incubator) := do
  let average ← pidFilterWith m pid Reg.filterPidHumiArr 50 s
  let s := average.2
  let duty := int32 (uint32 average.1 / 10)
  let duty :=
    if duty > 10 * s.getVal Reg.pHumOhi then 10 * s.getVal Reg.pHumOhi
    else if duty < 10 * s.getVal Reg.pHumOlo then 10 * s.getVal Reg.pHumOlo
    else duty
  let half := (s.getX10Val Reg.pHumP).tdiv 2
  let pointStp := if s.getVal Reg.pHumSpr < half then s.getVal Reg.pHumSpr else half
  let humi := s.getVal Reg.rAiHm
  let setting := s.getVal Reg.pAoHm
  let result :=
    if humi < setting - half then 10 * s.getVal Reg.pHumOhi
    else if humi > setting then 0
    else if humi ≥ setting - half ∧ humi ≤ setting + pointStp then duty
    else 0
  return (result, s)

def pidHumiInitWith (s : Incubator) : Option Incubator := do
  let humi ← pidCalc2With m (s.getVal Reg.rAiHm) (s.getVal Reg.pAoHm) s
  let s := setInt Reg.pidHumiValue humi.1 humi.2
  let spray ← sprayDutyWith m humi.1 s
  return setInt Reg.pidHumiNewHumidification spray.1 spray.2

def logicProcessHumiFuncWith (s : Incubator) : Option Incubator :=
  let current := s.getVal Reg.rAiHm
  let setting := s.getVal Reg.pAoHm
  let pidP := (s.getX10Val Reg.pHumP).tdiv 2
  let spr := s.getVal Reg.pHumSpr
  let pointStp :=
    if s.getVal Reg.pHumSpr < (s.getX10Val Reg.pHumP).tdiv 2 then s.getVal Reg.pHumSpr
    else (s.getX10Val Reg.pHumP).tdiv 2
  if s.getVal Reg.rAiTpMain > s.getVal Reg.lowTempAlarmValue then
    if current < setting - pidP then some (s |> controlSpray on |> leaveHumiRange)
    else if current ≥ setting - pidP ∧ current ≤ setting + pointStp then do
      let s ← pidHumiInitWith m s
      return humiPeriod current (setting + spr) s
    else if current ≥ setting + spr then some (s |> controlSpray off |> leaveHumiRange)
    else some s
  else some (s |> controlSpray off |> leaveHumiRange)

end

/-! ## The humidity control -/

/-- The humidity is in the band in which the control is calculated. -/
def InHumiBand (s : Incubator) : Prop :=
  s.getVal Reg.rAiTpMain > s.getVal Reg.lowTempAlarmValue ∧
    s.getVal Reg.rAiHm ≥ s.getVal Reg.pAoHm - (s.getX10Val Reg.pHumP).tdiv 2 ∧
    s.getVal Reg.rAiHm ≤ s.getVal Reg.pAoHm +
      (if s.getVal Reg.pHumSpr < (s.getX10Val Reg.pHumP).tdiv 2 then s.getVal Reg.pHumSpr
      else (s.getX10Val Reg.pHumP).tdiv 2)

instance (s : Incubator) : Decidable (InHumiBand s) := inferInstanceAs (Decidable (_ ∧ _ ∧ _))

/-- The derivative does not cancel the filter of the humidity. -/
def HumiDivides (s : Incubator) : Prop :=
  ¬(-99 ≤ s.getVal Reg.pHumD ∧ s.getVal Reg.pHumD ≤ -50)

instance (s : Incubator) : Decidable (HumiDivides s) := inferInstanceAs (Decidable (¬_))

section

variable {s t : Incubator} {writes : List Nat}

theorem sprayDutyWith_noZeroDivide (pid : Int) (s : Incubator) :
    sprayDutyWith (noZeroDivide intHalf) pid s = some (sprayDuty pid s) := by
  simp only [sprayDutyWith, pidFilterWith_noZeroDivide _ _ (show 50 ≠ 0 by decide),
    Option.bind_eq_bind, Option.bind_some]
  rfl

theorem pidHumiInitWith_noZeroDivide (s : Incubator) :
    pidHumiInitWith (noZeroDivide intHalf) s =
      if HumiDivides s then some (pidHumiInit s) else none := by
  have words : PidLoop.Words (s.getVal Reg.rAiHm) (s.getVal Reg.pAoHm) :=
    ⟨getVal_range s _, getVal_range s _⟩
  rw [pidHumiInitWith, pidCalc2With_noZeroDivide words]
  by_cases cancels : humiLoop.divisor s = 0
  · rw [if_pos cancels, if_neg fun divides => divides ((humiLoop.divisor_zero_iff s).mp cancels)]
    rfl
  · have filters : HumiDivides s := fun zero => cancels ((humiLoop.divisor_zero_iff s).mpr zero)
    rw [if_neg cancels, if_pos filters]
    simp only [Option.bind_eq_bind, Option.bind_some, sprayDutyWith_noZeroDivide]
    rfl

theorem logicProcessHumiFuncWith_noZeroDivide (s : Incubator) :
    logicProcessHumiFuncWith (noZeroDivide intHalf) s =
      if InHumiBand s → HumiDivides s then some (logicProcessHumiFunc s) else none := by
  simp only [logicProcessHumiFuncWith, logicProcessHumiFunc, pidHumiInitWith_noZeroDivide]
  by_cases warm : s.getVal Reg.rAiTpMain > s.getVal Reg.lowTempAlarmValue
  · rw [if_pos warm, if_pos warm]
    by_cases dry : s.getVal Reg.rAiHm < s.getVal Reg.pAoHm - (s.getX10Val Reg.pHumP).tdiv 2
    · rw [if_pos dry, if_pos dry, if_pos fun inside => absurd dry (not_lt.mpr inside.2.1)]
    · rw [if_neg dry, if_neg dry]
      by_cases inside : s.getVal Reg.rAiHm ≥ s.getVal Reg.pAoHm - (s.getX10Val Reg.pHumP).tdiv 2 ∧
          s.getVal Reg.rAiHm ≤ s.getVal Reg.pAoHm +
            (if s.getVal Reg.pHumSpr < (s.getX10Val Reg.pHumP).tdiv 2 then s.getVal Reg.pHumSpr
            else (s.getX10Val Reg.pHumP).tdiv 2)
      · have band : InHumiBand s := ⟨warm, inside⟩
        rw [if_pos inside, if_pos inside]
        by_cases divides : HumiDivides s
        · rw [if_pos divides, if_pos fun _ => divides]
          rfl
        · rw [if_neg divides, if_neg fun all => divides (all band)]
          rfl
      · rw [if_neg inside, if_neg inside, if_pos fun band => absurd band.2 inside]
        split
        · rfl
        · rfl
  · rw [if_neg warm, if_neg warm, if_pos fun band => absurd band.1 warm]

/-! ## Both controls -/

/-- The temperature control and then the humidity control meet no zero divisor. -/
structure PassDivides (s : Incubator) : Prop where
  temp : TempDivides s
  humi : InHumiBand s → HumiDivides s

/-- The settings and measured values that the divisors depend on. -/
def divisorRegisters : List Nat :=
  [Reg.rAiTpMain, Reg.pAoTpMain, Reg.pTempP, Reg.pTempD, Reg.pHhi, Reg.pHlo,
    Reg.highTempAlarmStatus, Reg.sSyncMotorStage, Reg.lowTempAlarmValue, Reg.rAiHm, Reg.pAoHm,
    Reg.pHumP, Reg.pHumSpr, Reg.pHumD]

theorem humiDivides_within (st : Within writes s t) (apart : ∀ i ∈ divisorRegisters, i ∉ writes) :
    (InHumiBand t → HumiDivides t) ↔ (InHumiBand s → HumiDivides s) := by
  simp only [divisorRegisters, List.forall_mem_cons] at apart
  obtain ⟨main, -, -, -, -, -, -, -, low, humi, setting, band, stop, derivative, -⟩ := apart
  simp only [InHumiBand, HumiDivides, st.getVal main, st.getVal low, st.getVal humi,
    st.getVal setting, st.getX10Val band, st.getVal stop, st.getVal derivative]

theorem PassDivides.within (st : Within writes s t)
    (apart : ∀ i ∈ divisorRegisters, i ∉ writes) : PassDivides t ↔ PassDivides s := by
  have humi := humiDivides_within st apart
  have temp : TempDivides t ↔ TempDivides s := by
    simp only [divisorRegisters, List.forall_mem_cons] at apart
    obtain ⟨main, setting, band, derivative, high, low, alarm, stage, -⟩ := apart
    have divides : BandDivides t ↔ BandDivides s := by
      rw [BandDivides, BandDivides, st.getVal high, st.getVal low, st.getVal derivative]
    have inside : InTempBand t ↔ InTempBand s := by
      rw [InTempBand, InTempBand, st.getVal main, st.getVal setting, st.getX10Val band]
    have follows : FanFollows t ↔ FanFollows s := by
      rw [FanFollows, FanFollows, st.fanStatus, st.getVal main, st.getVal setting,
        st.getVal alarm]
    refine ⟨fun all => ⟨?_, ?_⟩, fun all => ⟨?_, ?_⟩⟩
    · exact fun band => divides.mp (all.band (inside.mpr band))
    · rw [← st.getVal stage]
      exact fun fan => all.fan (follows.mpr fan)
    · exact fun band => divides.mpr (all.band (inside.mp band))
    · rw [st.getVal stage]
      exact fun fan => all.fan (follows.mp fan)
  exact ⟨fun all => ⟨temp.mp all.temp, humi.mp all.humi⟩,
    fun all => ⟨temp.mpr all.temp, humi.mpr all.humi⟩⟩

/-- What follows the two controls is reached exactly if no divisor is zero. -/
theorem controls_return_iff (next : Incubator → Incubator) (s t : Incubator) :
    (do
      let s ← logicProcessTempFuncWith (noZeroDivide intHalf) s
      let s ← logicProcessHumiFuncWith (noZeroDivide intHalf) s
      return next s) = some t ↔
      PassDivides s ∧ t = (s |> logicProcessTempFunc |> logicProcessHumiFunc |> next) := by
  have humi := humiDivides_within (logicProcessTempFunc_within s) (by decide +kernel)
  rw [logicProcessTempFuncWith_noZeroDivide]
  by_cases temp : (InTempBand s → BandDivides s) ∧
      (FanFollows s → s.getVal Reg.sSyncMotorStage ≠ 0)
  · rw [if_pos temp, Option.bind_eq_bind, Option.bind_some,
      logicProcessHumiFuncWith_noZeroDivide]
    by_cases divides : InHumiBand (logicProcessTempFunc s) → HumiDivides (logicProcessTempFunc s)
    · have pass : PassDivides s := ⟨⟨temp.1, temp.2⟩, humi.mp divides⟩
      rw [if_pos divides, Option.bind_some, and_iff_right pass]
      exact Option.some_inj.trans eq_comm
    · rw [if_neg divides]
      refine iff_of_false nofun ?_
      exact fun pass => divides (humi.mpr pass.1.humi)
  · rw [if_neg temp]
    refine iff_of_false nofun ?_
    exact fun pass => temp ⟨pass.1.temp.band, pass.1.temp.fan⟩

end

end Jincubator
