import Jincubator.Define
import Jincubator.Registers

/-! # Alarms and lamps

The alarm limits follow the set points or stand for themselves. The temperature
alarms are raised beyond their limit by the hysteresis and withdrawn at the
limit. A reading above fifty degrees is not published: the register takes the
value of minus one and the sensor is marked as abnormal.
-/

namespace Jincubator

open Incubator

/-! ## Limits -/

/-- A pair of limits, relative to a set point or absolute. -/
def updateLimits (mode setting upper lower high low : Nat) (s : Incubator) : Incubator :=
  if s.getUval mode = on then
    s |> setVal high (short (s.getVal setting + s.getVal upper))
      |> setVal low (short (s.getVal setting - s.getVal lower))
  else if s.getUval mode = off then
    s |> setVal high (s.getVal upper) |> setVal low (s.getVal lower)
  else s

def tempUpdateParaData (s : Incubator) : Incubator :=
  s |> updateLimits Reg.pTempAlo Reg.pAoTpMain Reg.pTempAh Reg.pTempAl Reg.highTempAlarmValue
      Reg.lowTempAlarmValue
    |> updateLimits Reg.pHumAlo Reg.pAoHm Reg.pHumAh Reg.pHumAl Reg.highHumiAlarmValue
      Reg.lowHumiAlarmValue
    |> updateLimits Reg.pRtempAlo Reg.pAoTpRf1 Reg.pRtempAh Reg.pRtempAl
      Reg.highTempAlarmValueForRefluxTemp1 Reg.lowTempAlarmValueForRefluxTemp1
    |> updateLimits Reg.pRtempAlo Reg.pAoTpRf2 Reg.pRtempAh Reg.pRtempAl
      Reg.highTempAlarmValueForRefluxTemp2 Reg.lowTempAlarmValueForRefluxTemp2
    |> updateLimits Reg.pRtempAlo Reg.pAoTpRf3 Reg.pRtempAh Reg.pRtempAl
      Reg.highTempAlarmValueForRefluxTemp3 Reg.lowTempAlarmValueForRefluxTemp3
    |> updateLimits Reg.pRtempAlo Reg.pAoTpRf4 Reg.pRtempAh Reg.pRtempAl
      Reg.highTempAlarmValueForRefluxTemp4 Reg.lowTempAlarmValueForRefluxTemp4

/-! ## Temperature alarms -/

def raiseAlarm (lamp status : Nat) (v : Int) (s : Incubator) : Incubator :=
  s |> setVal lamp v |> setVal status v

def highTempAlarm (s : Incubator) : Incubator :=
  let s :=
    if s.getVal Reg.rAiTpMain ≥ s.getVal Reg.highTempAlarmValue + s.getVal Reg.pHys ∨
        s.getVal Reg.detectAuxHighTemp = on then
      raiseAlarm Reg.outStTpHighAlarm Reg.highTempAlarmStatus on s
    else s
  if s.getVal Reg.rAiTpMain < s.getVal Reg.highTempAlarmValue ∧
      s.getVal Reg.detectAuxHighTemp = off then
    raiseAlarm Reg.outStTpHighAlarm Reg.highTempAlarmStatus off s
  else s

def lowTempAlarm (s : Incubator) : Incubator :=
  let s :=
    if s.getVal Reg.rAiTpMain ≤ s.getVal Reg.lowTempAlarmValue - s.getVal Reg.pHys ∧
        s.getVal Reg.detectAuxHighTemp = off then
      raiseAlarm Reg.outStTpLowAlarm Reg.lowTempAlarmStatus on s
    else s
  if s.getVal Reg.rAiTpMain > s.getVal Reg.lowTempAlarmValue ∧
      s.getVal Reg.detectAuxHighTemp = off then
    raiseAlarm Reg.outStTpLowAlarm Reg.lowTempAlarmStatus off s
  else s

/-- The temperature part of one round of `thread_alarm_func`. -/
def tempAlarm (s : Incubator) : Incubator :=
  s |> tempUpdateParaData |> highTempAlarm |> lowTempAlarm

/-! ## Readings -/

/-- The end of a round of `data_collection_pt100_func` for one of the six channels: a filtered
reading above `0x1388` hundredths is rejected. Two registers lie between the first two channels
and the others. -/
def publishReading (i : Nat) (reading : Int) (s : Incubator) : Incubator :=
  let index := if i > 1 then i + 2 else i
  if reading > 0x1388 then
    let alarm : Int :=
      if i > 1 then
        if s.reg Reg.refluxTemperature &&& BitVec.ofNat 16 (2 ^ (i - 2)) ≠ 0 then on else off
      else on
    s |> setUval (Reg.sensor1AbnormalAlarm + i) alarm
      |> setVal (Reg.pEditTpMain + index) 0
      |> setUval (Reg.rAiTpMain + index) 0xffff
  else
    s |> setUval (Reg.sensor1AbnormalAlarm + i) off
      |> setUval (Reg.rAiTpMain + index) reading

/-! ## Lamps -/

def showOutput (output lamp : Nat) (s : Incubator) : Incubator :=
  setUval lamp (if s.getUval output ≠ 0 then on else off) s

/-- The fan lamp shows the inverter's state or the contactor. -/
def showFan (s : Incubator) : Incubator :=
  if s.fanStatus = 1 then
    setUval Reg.outStFanStatus
      (if s.getVal Reg.rSyncMotorControlPara = 1 ∨ s.getVal Reg.rSyncMotorControlPara = 2 then on
      else off) s
  else showOutput Reg.controlFan Reg.outStFanStatus s

def directionFunc (s : Incubator) : Incubator :=
  s |> showFan
    |> showOutput Reg.controlMainHeat Reg.outStTpMainStatus
    |> showOutput Reg.controlAuxHeat Reg.outStTpAidStatus
    |> showOutput Reg.controlSpray Reg.outStHmStatus
    |> showOutput Reg.detectFlipEgg Reg.outStEggStatus
    |> showOutput Reg.controlDamperOpen Reg.outStAdOpenStatus
    |> showOutput Reg.controlDamperClose Reg.outStAdCloseStatus
    |> showOutput Reg.controlCool Reg.outStWtClStatus
    |> showOutput Reg.controlCool2_1 Reg.outStTpRf1Status
    |> showOutput Reg.controlCool2_2 Reg.outStTpRf2Status
    |> showOutput Reg.controlCool2_3 Reg.outStTpRf3Status
    |> showOutput Reg.controlCool2_4 Reg.outStTpRf4Status

/-! ## Footprints -/

def limitWrites : List Nat := List.range' Reg.highTempAlarmValue 12

/-- Limits, lamps and states of the temperature alarms. -/
def tempAlarmWrites : List Nat :=
  limitWrites ++
    [Reg.outStTpHighAlarm, Reg.highTempAlarmStatus, Reg.outStTpLowAlarm, Reg.lowTempAlarmStatus]

/-- The lamps of the outputs. -/
def lampWrites : List Nat := List.range' Reg.outStFanStatus 12

section

variable {writes : List Nat} {s t : Incubator}

theorem within_updateLimits {mode setting upper lower high low : Nat} (top : high ∈ writes)
    (bottom : low ∈ writes) :
    Within writes s (updateLimits mode setting upper lower high low t) ↔ Within writes s t := by
  simp only [updateLimits, within_ite, within_setVal top, within_setVal bottom, ite_self]

theorem within_raiseAlarm {lamp status : Nat} {v : Int} (lit : lamp ∈ writes)
    (raised : status ∈ writes) :
    Within writes s (raiseAlarm lamp status v t) ↔ Within writes s t := by
  simp only [raiseAlarm, within_setVal lit, within_setVal raised]

theorem tempUpdateParaData_within (s : Incubator) :
    Within limitWrites s (tempUpdateParaData s) := by
  simp (disch := decide) only [tempUpdateParaData, within_updateLimits, Within.refl]

theorem tempAlarm_within (s : Incubator) : Within tempAlarmWrites s (tempAlarm s) := by
  have high (t : Incubator) :
      Within tempAlarmWrites s (highTempAlarm t) ↔ Within tempAlarmWrites s t := by
    simp (disch := decide) only [highTempAlarm, within_raiseAlarm, within_ite, ite_self]
  have low (t : Incubator) :
      Within tempAlarmWrites s (lowTempAlarm t) ↔ Within tempAlarmWrites s t := by
    simp (disch := decide) only [lowTempAlarm, within_raiseAlarm, within_ite, ite_self]
  simp (disch := decide) only [tempAlarm, tempUpdateParaData, high, low, within_updateLimits,
    Within.refl]

theorem within_showOutput {output lamp : Nat} (allowed : lamp ∈ writes) :
    Within writes s (showOutput output lamp t) ↔ Within writes s t :=
  within_setUval allowed

theorem directionFunc_within (s : Incubator) : Within lampWrites s (directionFunc s) := by
  have fan (t : Incubator) : Within lampWrites s (showFan t) ↔ Within lampWrites s t := by
    simp (disch := decide) only [showFan, within_showOutput, within_setUval, within_ite, ite_self]
  simp (disch := decide) only [directionFunc, fan, within_showOutput, Within.refl]

@[simp] theorem within_directionFunc (allowed : lampWrites ⊆ writes) :
    Within writes s (directionFunc t) ↔ Within writes s t :=
  (directionFunc_within t).skip allowed

end

end Jincubator
