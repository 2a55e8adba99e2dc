import Jincubator.JobTc
import Jincubator.Outputs

/-! # Humidity

The humidifier is on below the proportional band, off above the set point by the
forced-stop distance, and inside the band it runs for the last part of a period.
Nothing is humidified while the incubator is colder than its low limit.
-/

namespace Jincubator

open Incubator

/-- Outside the band the integral and the period start afresh. -/
def leaveHumiRange (s : Incubator) : Incubator :=
  s |> setInt Reg.pidHumiSum 0 |> setInt Reg.pidPeriodCountHumi 0

/-- The duty starts from zero or moves by at least 500. -/
def HumiJump (old new : Int) : Prop :=
  (old = 0 ∧ new ≠ 0) ∨ (old = 0 ∧ new ≠ 0) ∨ int32 |int32 (new - old)| ≥ 500

instance (old new : Int) : Decidable (HumiJump old new) :=
  inferInstanceAs (Decidable (_ ∨ _ ∨ _))

/-- The period is loaded anew when it is over or the duty jumps; otherwise it decides. -/
def humiPeriod (current limit : Int) (s : Incubator) : Incubator :=
  let old := s.getInt Reg.pidHumiOldHumidification
  let new := s.getInt Reg.pidHumiNewHumidification
  let reriod := uint32 ((int32 (new * s.getUval Reg.pHumTo)).tdiv 1000)
  let s :=
    if s.getTime Reg.pidPeriodCountHumi = 0 ∨ HumiJump old new then
      s |> setTime Reg.pidOnCountHumi (s.getUval Reg.pHumTo - reriod)
        |> setTime Reg.pidPeriodCountHumi (s.getUval Reg.pHumTo)
    else if s.getTime Reg.pidPeriodCountHumi > 0 ∧
        s.getTime Reg.pidPeriodCountHumi ≥ s.getTime Reg.pidOnCountHumi ∧ current < limit then
      controlSpray on s
    else controlSpray off s
  setInt Reg.pidHumiOldHumidification new s

def logicProcessHumiFunc (s : Incubator) : Incubator :=
  let current := s.getVal Reg.rAiHm
  let setting := s.getVal Reg.pAoHm
  let pidP := (s.getX10Val Reg.pHumP).tdiv 2
  let spr := s.getVal Reg.pHumSpr
  let pointStp :=
    if s.getVal Reg.pHumSpr < (s.getX10Val Reg.pHumP).tdiv 2 then s.getVal Reg.pHumSpr
    else (s.getX10Val Reg.pHumP).tdiv 2
  if s.getVal Reg.rAiTpMain > s.getVal Reg.lowTempAlarmValue then
    if current < setting - pidP then s |> controlSpray on |> leaveHumiRange
    else if current ≥ setting - pidP ∧ current ≤ setting + pointStp then
      s |> pidHumiInit |> humiPeriod current (setting + spr)
    else if current ≥ setting + spr then s |> controlSpray off |> leaveHumiRange
    else s
  else s |> controlSpray off |> leaveHumiRange

/-- The registers that the humidity control computes. -/
def logicHumiWrites : List Nat :=
  [Reg.controlSpray, Reg.pidPeriodCountHumi, Reg.pidPeriodCountHumi + 1, Reg.pidOnCountHumi,
    Reg.pidOnCountHumi + 1, Reg.pidHumiOldHumidification, Reg.pidHumiOldHumidification + 1] ++
    pidHumiWrites

section

variable {writes : List Nat} {s t : Incubator}

@[simp] theorem within_pidHumiInit (allowed : pidHumiWrites ⊆ writes) :
    Within writes s (pidHumiInit t) ↔ Within writes s t :=
  (pidHumiInit_within t).skip allowed

theorem logicProcessHumiFunc_within (s : Incubator) :
    Within logicHumiWrites s (logicProcessHumiFunc s) := by
  have leave (t : Incubator) : Within logicHumiWrites s (leaveHumiRange t) ↔
      Within logicHumiWrites s t := by
    simp (disch := decide +kernel) only [leaveHumiRange, within_setInt]
  have period (current limit : Int) (t : Incubator) :
      Within logicHumiWrites s (humiPeriod current limit t) ↔ Within logicHumiWrites s t := by
    simp (disch := decide) only [humiPeriod, within_setTime, within_setInt, within_ite,
      within_controlSpray, ite_self]
  simp (disch := decide +kernel) only [logicProcessHumiFunc, leave, period, within_pidHumiInit,
    within_ite, within_controlSpray, Within.refl, ite_self]

@[simp] theorem within_logicProcessHumiFunc (allowed : logicHumiWrites ⊆ writes) :
    Within writes s (logicProcessHumiFunc t) ↔ Within writes s t :=
  (logicProcessHumiFunc_within t).skip allowed

end

end Jincubator
