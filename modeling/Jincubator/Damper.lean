import Jincubator.Outputs

/-! # Damper

The damper motor is driven towards its position from the alarms, the carbon
dioxide cycle, the humidity and the temperature, unless a calibration run is
under way. Whether the set opening is zero decides which of them may close it.
-/

namespace Jincubator

open Incubator

/-- Fully closed first, then open up to the set position. -/
def damperCheck (current setting : Int) (s : Incubator) : Incubator :=
  if s.getVal Reg.controlDbOpenCalibrationStatus = 0 ∧
      s.getVal Reg.controlDbCliseCalibrationStatus = 0 then
    if s.getVal Reg.detectDamperFullyClose ≠ 0 then
      s |> controlDamper 1 off 0 |> setVal Reg.controlDbOpenCalibrationStatus on
    else controlDamper 2 on 0 s
  else if s.getVal Reg.controlDbOpenCalibrationStatus ≠ 0 ∧
      s.getVal Reg.controlDbCliseCalibrationStatus = 0 then
    if current ≥ setting ∨ s.getVal Reg.detectDamperFullyOpen ≠ 0 then
      s |> controlDamper 1 off 0
        |> setVal Reg.statusDamperCheck 0
        |> setVal Reg.controlDbCliseCalibrationStatus on
    else controlDamper 1 on 0 s
  else s

/-- The working part of the carbon dioxide cycle. -/
def co2Working (s : Incubator) : Incubator :=
  if s.getUval Reg.carbonDioxideOperatingTime > 0 then controlDamper 1 on 0 s
  else if s.getVal Reg.carbonDioxideInit = 0 then
    s |> setUval Reg.carbonDioxideOperatingTime 0
      |> setUval Reg.carbonDioxideStopTime (s.getUval Reg.pCo2Zqc - s.getUval Reg.pCo2Gzs)
      |> setVal Reg.carbonDioxideInit 1
  else s

/-- The idle part of the carbon dioxide cycle. -/
def co2Idle (s : Incubator) : Incubator :=
  if s.getUval Reg.carbonDioxideStopTime > 0 then controlDamper 1 off 0 s
  else if s.getVal Reg.carbonDioxideInit = 1 then
    s |> setUval Reg.carbonDioxideOperatingTime (s.getUval Reg.pCo2Gzs)
      |> setUval Reg.carbonDioxideStopTime 0
      |> setVal Reg.carbonDioxideInit 0
  else s

def co2Stopped (s : Incubator) : Incubator :=
  if s.getUval Reg.carbonDioxideStopTime = 0 ∧ s.getUval Reg.carbonDioxideOperatingTime = 0 then
    controlDamper 1 off 0 s
  else s

def co2Damper (s : Incubator) : Incubator :=
  s |> co2Working |> co2Idle |> co2Stopped

/-- Three comparisons with the opening for high humidity, one after the other. -/
def seekDbo (current : Int) (s : Incubator) : Incubator :=
  let dbo := s.getVal Reg.pHumDbo
  let s := if current = dbo then controlDamper 1 off 0 s else s
  let s := if current < dbo then controlDamper 1 on 0 s else s
  if current > dbo then controlDamper 2 on 0 s else s

def openToDbo (current : Int) (s : Incubator) : Incubator :=
  if current < s.getVal Reg.pHumDbo then controlDamper 1 on 0 s else controlDamper 1 off 0 s

/-- The set opening is zero. -/
def damperClosed (current : Int) (s : Incubator) : Incubator :=
  if s.getVal Reg.highTempAlarmStatus ≠ 0 then controlDamper 1 on 0 s
  else if s.getVal Reg.carbonDioxideWarningLight ≠ 0 then co2Damper s
  else if s.getVal Reg.highHumiAlarmStatus ≠ 0 ∧
      s.getVal Reg.rAiTpMain > s.getVal Reg.lowTempAlarmValue then seekDbo current s
  else if s.getVal Reg.rAiHm ≥ s.getVal Reg.pAoHm + s.getVal Reg.pHumSpo ∧
      s.getVal Reg.rAiTpMain > s.getVal Reg.lowTempAlarmValue then seekDbo current s
  else controlDamper 2 on 0 s

/-- The position that the temperature band starts from is taken once. -/
def enterDamperBand (s : Incubator) : Incubator :=
  if s.getVal Reg.pidTempModeStatus = off then
    s |> setVal Reg.pidAdValue (s.getVal Reg.rAiAd) |> setVal Reg.pidTempModeStatus on
  else s

/-- Inside the temperature band the counters drive the damper. -/
def pidDamper (s : Incubator) : Incubator :=
  if s.getUval Reg.pidOnCountDbOpen > 0 ∧
      s.getUval Reg.pidOnCountDbOpen ≥ s.getUval (Reg.pidOnCountDbOpen + 1) ∧
      s.getVal Reg.pidAdOpenStatus ≠ 0 then controlDamper 1 on 0 s
  else if s.getUval Reg.pidOnCountDbClose > 0 ∧
      s.getUval Reg.pidOnCountDbClose ≥ s.getUval (Reg.pidOnCountDbClose + 1) then
    controlDamper 2 on 1 s
  else controlDamper 1 off 0 s

/-- The damper is at or beyond a set opening that is not zero. -/
def damperOpened (current setting : Int) (s : Incubator) : Incubator :=
  let half := (s.getX10Val Reg.pTempP).tdiv 2
  let temp := s.getVal Reg.rAiTpMain
  let tempSetting := s.getVal Reg.pAoTpMain
  if s.getVal Reg.highTempAlarmStatus ≠ 0 then controlDamper 1 on 0 s
  else if s.getVal Reg.carbonDioxideWarningLight ≠ 0 then co2Damper s
  else if s.getVal Reg.highHumiAlarmStatus ≠ 0 ∧ temp > s.getVal Reg.lowTempAlarmValue then
    openToDbo current s
  else if s.getVal Reg.rAiHm ≥ s.getVal Reg.pAoHm + s.getVal Reg.pHumSpo ∧
      temp ≥ s.getVal Reg.lowTempAlarmValue then openToDbo current s
  else if temp < tempSetting - half then controlDamper 2 on 1 s
  else if temp ≥ tempSetting - half ∧ temp ≤ tempSetting + half then
    s |> enterDamperBand |> pidDamper
  else if temp > tempSetting + half then controlDamper 1 on 0 s
  else if current = setting then controlDamper 2 off 0 s
  else controlDamper 2 off 0 s

def clearDamperCheck (s : Incubator) : Incubator :=
  s |> setVal Reg.controlDbOpenCalibrationStatus 0
    |> setVal Reg.controlDbCliseCalibrationStatus 0
    |> setVal Reg.controlDbCloseToOpenTimeStatus 0
    |> setVal Reg.controlDbOpenToCloseTimeStatus 0

def damperRun (current setting : Int) (s : Incubator) : Incubator :=
  if setting = 0 then damperClosed current s
  else if current < setting then controlDamper 1 on 0 s
  else damperOpened current setting s

def damperControlFunc (s : Incubator) : Incubator :=
  let current := ushort (s.getVal Reg.rAiAd)
  let setting := ushort (s.getVal Reg.pAoAd)
  if s.getVal Reg.statusDamperCheck ≠ 0 then damperCheck current setting s
  else s |> clearDamperCheck |> damperRun current setting

/-! ## Footprint -/

/-- The damper outputs and what the damper control keeps between its calls. -/
def damperWrites : List Nat :=
  [Reg.controlDamperOpen, Reg.controlDamperClose, Reg.controlDbOpenCalibrationStatus,
    Reg.controlDbCliseCalibrationStatus, Reg.statusDamperCheck,
    Reg.controlDbCloseToOpenTimeStatus, Reg.controlDbOpenToCloseTimeStatus,
    Reg.carbonDioxideOperatingTime, Reg.carbonDioxideStopTime, Reg.carbonDioxideInit,
    Reg.pidAdValue, Reg.pidTempModeStatus]

section

variable {writes : List Nat} {s t : Incubator} {current setting : Int}

theorem within_damperCheck :
    Within damperWrites s (damperCheck current setting t) ↔ Within damperWrites s t := by
  simp (disch := decide) only [damperCheck, within_controlDamper, within_setVal, within_ite,
    ite_self]

theorem within_co2Damper : Within damperWrites s (co2Damper t) ↔ Within damperWrites s t := by
  have working (t : Incubator) :
      Within damperWrites s (co2Working t) ↔ Within damperWrites s t := by
    simp (disch := decide) only [co2Working, within_controlDamper, within_setVal, within_setUval,
      within_ite, ite_self]
  have idle (t : Incubator) : Within damperWrites s (co2Idle t) ↔ Within damperWrites s t := by
    simp (disch := decide) only [co2Idle, within_controlDamper, within_setVal, within_setUval,
      within_ite, ite_self]
  simp (disch := decide) only [co2Damper, co2Stopped, working, idle, within_controlDamper,
    within_ite, ite_self]

theorem within_seekDbo :
    Within damperWrites s (seekDbo current t) ↔ Within damperWrites s t := by
  simp (disch := decide) only [seekDbo, within_controlDamper, within_ite, ite_self]

theorem within_damperClosed :
    Within damperWrites s (damperClosed current t) ↔ Within damperWrites s t := by
  simp (disch := decide) only [damperClosed, within_co2Damper, within_seekDbo,
    within_controlDamper, within_ite, ite_self]

theorem within_damperOpened :
    Within damperWrites s (damperOpened current setting t) ↔ Within damperWrites s t := by
  have enter (t : Incubator) :
      Within damperWrites s (enterDamperBand t) ↔ Within damperWrites s t := by
    simp (disch := decide) only [enterDamperBand, within_setVal, within_ite, ite_self]
  have pid (t : Incubator) : Within damperWrites s (pidDamper t) ↔ Within damperWrites s t := by
    simp (disch := decide) only [pidDamper, within_controlDamper, within_ite, ite_self]
  have dbo (t : Incubator) :
      Within damperWrites s (openToDbo current t) ↔ Within damperWrites s t := by
    simp (disch := decide) only [openToDbo, within_controlDamper, within_ite, ite_self]
  simp (disch := decide) only [damperOpened, within_co2Damper, enter, pid, dbo,
    within_controlDamper, within_ite, ite_self]

theorem damperControlFunc_within (s : Incubator) :
    Within damperWrites s (damperControlFunc s) := by
  simp (disch := decide) only [damperControlFunc, clearDamperCheck, damperRun,
    within_damperCheck, within_damperClosed, within_damperOpened, within_controlDamper,
    within_setVal, Within.refl, within_ite, ite_self]

@[simp] theorem within_damperControlFunc (allowed : damperWrites ⊆ writes) :
    Within writes s (damperControlFunc t) ↔ Within writes s t :=
  (damperControlFunc_within t).skip allowed

end

end Jincubator
