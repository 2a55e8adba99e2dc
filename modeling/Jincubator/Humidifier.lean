import Jincubator.Humidity

/-! # The humidifier never runs

The valve function tests the number of the high-humidity lamp where it means the
lamp itself, and that number is not zero. Apart from the test mode every command
therefore turns the humidifier off, also the one below the humidity band.
-/

namespace Jincubator

open Incubator

/-- A call of the humidity control switches the humidifier. Inside the band it does not while a
new period is loaded. -/
def CallsSpray (s : Incubator) : Prop :=
  let current := s.getVal Reg.rAiHm
  let setting := s.getVal Reg.pAoHm
  let pidP := (s.getX10Val Reg.pHumP).tdiv 2
  let spr := s.getVal Reg.pHumSpr
  let pointStp :=
    if s.getVal Reg.pHumSpr < (s.getX10Val Reg.pHumP).tdiv 2 then s.getVal Reg.pHumSpr
    else (s.getX10Val Reg.pHumP).tdiv 2
  if s.getVal Reg.rAiTpMain > s.getVal Reg.lowTempAlarmValue then
    if current < setting - pidP then True
    else if current ≥ setting - pidP ∧ current ≤ setting + pointStp then
      let t := pidHumiInit s
      ¬(t.getTime Reg.pidPeriodCountHumi = 0 ∨
        HumiJump (t.getInt Reg.pidHumiOldHumidification) (t.getInt Reg.pidHumiNewHumidification))
    else current ≥ setting + spr
  else True

/-- The air is dry and warm enough, and nothing speaks against humidifying it. -/
structure HumidityWanted (s : Incubator) : Prop where
  warm : s.getVal Reg.rAiTpMain > s.getVal Reg.lowTempAlarmValue
  dry : s.getVal Reg.rAiHm < s.getVal Reg.pAoHm - (s.getX10Val Reg.pHumP).tdiv 2
  exact : short (s.getVal Reg.pAoHm - (s.getX10Val Reg.pHumP).tdiv 2) =
    s.getVal Reg.pAoHm - (s.getX10Val Reg.pHumP).tdiv 2
  untested : s.getVal Reg.testSprayMode = off
  sensor : s.getVal Reg.sensor2AbnormalAlarm = off
  lamp : s.getVal Reg.outStHmHighAlarm = off
  fan : s.fanStatus = 0 ∨ s.getVal Reg.rSyncMotorControlPara = 1 ∨
    s.getVal Reg.rSyncMotorControlPara = 2

/-- The humidifier runs where it is wanted, and not under the high-humidity alarm. -/
structure SprayLaw (s : Incubator) : Prop where
  runs : HumidityWanted s → (logicProcessHumiFunc s).getVal Reg.controlSpray = on
  guarded : s.getVal Reg.testSprayMode = off → s.getVal Reg.outStHmHighAlarm ≠ 0 →
    CallsSpray s → (logicProcessHumiFunc s).getVal Reg.controlSpray = off

section

variable {s t : Incubator} {status : Int}

/-- Outside the test mode a command turns the humidifier off, whatever it asks for. -/
theorem getVal_controlSpray (untested : s.getVal Reg.testSprayMode = off) :
    (controlSpray status s).getVal Reg.controlSpray = off := by
  have lamp : Reg.outStHmHighAlarm ≠ 0 := by decide
  rw [controlSpray, getVal_switchOutput, if_neg (not_not.mpr untested),
    if_pos (Or.inr (Or.inl lamp))]

theorem getVal_leaveHumiRange : (leaveHumiRange s).getVal Reg.controlSpray =
    s.getVal Reg.controlSpray := by
  have kept : Within [Reg.pidHumiSum, Reg.pidHumiSum + 1, Reg.pidPeriodCountHumi,
      Reg.pidPeriodCountHumi + 1] s (leaveHumiRange s) := by
    simp (disch := decide) only [leaveHumiRange, within_setInt, Within.refl]
  exact kept.getVal (by decide)

/-- Inside the band the period decides whether the humidifier is switched. -/
theorem getVal_humiPeriod (untested : s.getVal Reg.testSprayMode = off) (current limit : Int) :
    (humiPeriod current limit s).getVal Reg.controlSpray =
      if s.getTime Reg.pidPeriodCountHumi = 0 ∨
        HumiJump (s.getInt Reg.pidHumiOldHumidification) (s.getInt Reg.pidHumiNewHumidification)
      then s.getVal Reg.controlSpray else off := by
  rw [humiPeriod, setInt_eq, getVal_setVal_of_ne _ _ (by decide),
    getVal_setVal_of_ne _ _ (by decide)]
  split
  · simp only [setTime_eq, setInt_eq]
    rw [getVal_setVal_of_ne _ _ (by decide), getVal_setVal_of_ne _ _ (by decide),
      getVal_setVal_of_ne _ _ (by decide), getVal_setVal_of_ne _ _ (by decide)]
  · split
    · exact getVal_controlSpray untested
    · exact getVal_controlSpray untested

/-- A call turns the humidifier off or does not switch it. -/
theorem getVal_logicProcessHumiFunc (untested : s.getVal Reg.testSprayMode = off)
    (calls : CallsSpray s) : (logicProcessHumiFunc s).getVal Reg.controlSpray = off := by
  have switched (status : Int) :
      (leaveHumiRange (controlSpray status s)).getVal Reg.controlSpray = off := by
    rw [getVal_leaveHumiRange, getVal_controlSpray untested]
  have loop : (pidHumiInit s).getVal Reg.testSprayMode = off :=
    ((pidHumiInit_within s).getVal (by decide +kernel)).trans untested
  simp only [CallsSpray] at calls
  simp only [logicProcessHumiFunc]
  generalize pidHumiInit s = t at loop calls ⊢
  generalize (if s.getVal Reg.pHumSpr < (s.getX10Val Reg.pHumP).tdiv 2 then s.getVal Reg.pHumSpr
    else (s.getX10Val Reg.pHumP).tdiv 2) = pointStp at calls ⊢
  by_cases warm : s.getVal Reg.rAiTpMain > s.getVal Reg.lowTempAlarmValue
  · rw [if_pos warm] at calls ⊢
    split
    · exact switched on
    · next notBelow =>
      rw [if_neg notBelow] at calls
      split
      · next band =>
        rw [if_pos band] at calls
        rw [getVal_humiPeriod loop, if_neg calls]
      · next outside =>
        rw [if_neg outside] at calls
        rw [if_pos calls]
        exact switched off
  · rw [if_neg warm]
    exact switched off

theorem HumidityWanted.calls (wanted : HumidityWanted s) : CallsSpray s := by
  rw [CallsSpray, if_pos wanted.warm, if_pos wanted.dry]
  trivial

end

/-- The law holds exactly where no humidity is wanted. -/
theorem sprayLaw_iff (s : Incubator) : SprayLaw s ↔ ¬HumidityWanted s := by
  constructor
  · intro law wanted
    have running := law.runs wanted
    rw [getVal_logicProcessHumiFunc wanted.untested wanted.calls] at running
    exact absurd running (by decide)
  · intro unwanted
    refine ⟨?_, ?_⟩
    · intro wanted
      exact absurd wanted unwanted
    · intro untested _ calls
      exact getVal_logicProcessHumiFunc untested calls

/-- Half the wanted humidity in a warm incubator. -/
def dryStart : Incubator :=
  cleared |> setVal Reg.rAiTpMain 3780 |> setVal Reg.pAoHm 5000 |> setVal Reg.rAiHm 2500
    |> setVal Reg.pHumP 100

theorem dryStart_wanted : HumidityWanted dryStart :=
  ⟨by decide, by decide, by decide, by decide, by decide, by decide, by decide⟩

/-- The humidifier stays off in dry air. -/
theorem dryStart_not_humidified : ¬ ∀ s, SprayLaw s := by
  intro law
  have running := (law dryStart).runs dryStart_wanted
  rw [getVal_logicProcessHumiFunc dryStart_wanted.untested dryStart_wanted.calls] at running
  exact absurd running (by decide)

end Jincubator
