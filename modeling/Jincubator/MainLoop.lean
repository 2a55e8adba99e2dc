import Jincubator.Alarm
import Jincubator.Damper
import Jincubator.Humidity
import Jincubator.ReturnWater
import Jincubator.RunMode
import Jincubator.Schedule
import Jincubator.Temperature
import Jincubator.TestMode

/-! # Main loop

One round of the main loop looks at the mode words from top to bottom: start,
stop, preheat, alarm suppression, initialisation, calibration, and the stop mode
when no word is set. A word that one block sets is seen by the blocks below it in
the same round and by those above it in the next.
-/

namespace Jincubator

open Incubator

/-! ## What several blocks do -/

/-- The door is closed: leave the maintenance state. -/
def haltMotor (s : Incubator) : Incubator :=
  if s.getVal Reg.rSyncMotorControlPara ≠ 3 ∧ s.getVal Reg.sSyncMotorControlCmd = 0 ∧
      s.reg Reg.rSyncMotorControlFault &&& 0x02 = 0 then
    setVal Reg.sSyncMotorControlCmd 0x02 s
  else s

def driveMotor (s : Incubator) : Incubator :=
  if s.fanStatus = 1 then
    if s.getVal Reg.detectDoorSwitch = on then
      if s.getVal Reg.rSyncMotorControlPara = 3 ∧ s.getVal Reg.sSyncMotorControlCmd = 0 ∧
          s.reg Reg.rSyncMotorControlFault &&& 0x01 = 0 then
        setVal Reg.sSyncMotorControlCmd 0x01 s
      else s
    else haltMotor s
  else s

/-- The stop mode does not look at the door. -/
def parkMotor (s : Incubator) : Incubator :=
  if s.fanStatus = 1 then haltMotor s else s

def resetLoops (s : Incubator) : Incubator :=
  s |> setTime Reg.pidTempSum 0
    |> setTime Reg.pidHumiSum 0
    |> setTime Reg.pidPeriodCountMainHeater 0
    |> setTime Reg.pidPeriodCountHumi 0
    |> setVal Reg.pidTempModeStatus 0

def resetReflux (s : Incubator) : Incubator :=
  s |> setUval Reg.returnTemp1HotWaterOperatInit 0
    |> setUval Reg.returnTemp2HotWaterOperatInit 0
    |> setUval Reg.returnTemp3HotWaterOperatInit 0
    |> setUval Reg.returnTemp4HotWaterOperatInit 0
    |> setUval Reg.reflowTemp1ColdWaterOperatInit 0
    |> setUval Reg.reflowTemp2ColdWaterOperatInit 0
    |> setUval Reg.reflowTemp3ColdWaterOperatInit 0
    |> setUval Reg.reflowTemp4ColdWaterOperatInit 0
    |> setUval Reg.refluxTemp1DelayTime 30
    |> setUval Reg.refluxTemp2DelayTime 30
    |> setUval Reg.refluxTemp3DelayTime 30
    |> setUval Reg.refluxTemp4DelayTime 30

def outputsOff (s : Incubator) : Incubator :=
  s |> controlMainHeat off |> controlAuxHeat off |> controlCool off |> controlSpray off
    |> controlCool2 1 off |> controlCool2 2 off |> controlCool2 3 off |> controlCool2 4 off

def damperOff (s : Incubator) : Incubator :=
  s |> controlDamper 1 off 0 |> controlDamper 2 off 0

/-- Incubation is counted and the next preheating starts from its beginning. -/
def keepRunning (s : Incubator) : Incubator :=
  s |> setVal Reg.rRunSecondStatus on |> setUval Reg.rPreStatus 1

def clearPreheat (s : Incubator) : Incubator :=
  s |> setTime Reg.rPreStartTimeHigh 0 |> setTime Reg.rPreStopTimeHigh 0

/-! ## Start -/

def startInit (s : Incubator) : Incubator :=
  if s.getVal Reg.rStartSend = on then
    s |> setRunMode statusStartRecv |> resetLoops |> resetReflux |> outputsOff |> damperOff
      |> keepRunning |> clearPreheat
  else s

/-- The controls of the start mode, after its set points. -/
def startControls (s : Incubator) : Incubator :=
  s |> updateSetPara |> driveMotor |> controlFan on |> controlBlower on |> logicProcessTempFunc
    |> logicProcessHumiFunc |> damperControlFunc |> normalRetemp

def startRun (s : Incubator) : Incubator :=
  if s.getVal Reg.rStartRecv = on then
    s |> controlRunLight on |> keepRunning |> startControls
  else s

/-! ## Stop -/

def stopInit (s : Incubator) : Incubator :=
  if s.getVal Reg.rStopSend = on then
    s |> setRunMode statusStopRecv |> keepRunning |> clearPreheat
  else s

def stopControls (s : Incubator) : Incubator :=
  s |> updateSetPara |> parkMotor |> controlFan off |> outputsOff |> controlColdHotWater off
    |> controlBlower off |> damperOff

def stopRun (s : Incubator) : Incubator :=
  if s.getVal Reg.rStopRecv = on then
    s |> controlRunLight off |> keepRunning |> stopControls
  else s

/-! ## Preheat -/

/-- `TWO_DAY_SECONDS` -/
def twoDaySeconds : Int := 172800

def preheatInit (s : Incubator) : Incubator :=
  if s.getUval Reg.rPreStatus ≠ 0 then
    s |> setRunMode startsPreRecv |> resetLoops |> resetReflux |> setUval Reg.rPreStatus 0
      |> outputsOff |> damperOff
  else s

def preheatControls (s : Incubator) : Incubator :=
  s |> driveMotor |> controlFan on |> controlRunLight on |> controlBlower on |> preheatSetPara
    |> logicProcessTempFunc |> logicProcessHumiFunc |> damperControlFunc |> preRetemp

def preheatRun (s : Incubator) : Incubator :=
  s |> preheatInit |> setVal Reg.rRunSecondStatus off |> preheatControls

/-- The incubation starts when the preheating is over. -/
def preheatExit (now : Int) (s : Incubator) : Incubator :=
  let s := s |> setVal Reg.rRunSecondStatus off |> setTime Reg.rRunSecondHigh 0
  let second := s.getTime Reg.rRunSecondHigh
  s |> setUval Reg.rRunDay (paraTime second)
    |> setTime Reg.rInitTimeHigh (now - second)
    |> setVal Reg.rRunSecondStatus on
    |> setRunMode statusStartSend
    |> clearPreheat

def preheat (clock : Clock) (s : Incubator) : Incubator :=
  let start := s.getTime Reg.rPreStartTimeHigh
  let stop := s.getTime Reg.rPreStopTimeHigh
  if start ≠ 0 ∧ stop ≠ 0 then
    if start < stop ∧ stop - start ≤ twoDaySeconds then
      let now := uint32 clock.preheat
      if now ≥ start ∧ now ≤ stop then preheatRun s
      else if now > stop then preheatExit clock.preheatExit s
      else s
    else if start = stop then
      s |> setRunMode statusStopSent |> setVal Reg.rRunSecondStatus on |> clearPreheat
    else s
  else s

/-! ## Alarm suppression -/

def suppressAlarm (s : Incubator) : Incubator :=
  if s.getVal Reg.rCloseAlaSend = on ∧ s.getVal Reg.rCloseAlaRecv = off then
    s |> setVal Reg.rCloseAlaSend on |> setVal Reg.rCloseAlaRecv on
      |> setUval Reg.alarmSuppressionTime (s.getUval Reg.rCloseAlaTime)
  else s

/-- At the end of its time both words of the suppression are cleared. -/
def suppressionOver (s : Incubator) : Incubator :=
  if s.getVal Reg.rCloseAlaSend = on ∧ s.getVal Reg.rCloseAlaRecv = on then
    if s.getUval Reg.alarmSuppressionTime = 0 then
      s |> setVal Reg.rCloseAlaSend off |> setVal Reg.rCloseAlaRecv off
    else s
  else s

def suppressionCancelled (s : Incubator) : Incubator :=
  if s.getVal Reg.rCloseAlaSend = off ∧ s.getVal Reg.rCloseAlaRecv = on then
    s |> setUval Reg.alarmSuppressionTime 0 |> setVal Reg.rCloseAlaSend off
      |> setVal Reg.rCloseAlaRecv off
  else s

def alarmSuppression (s : Incubator) : Incubator :=
  s |> suppressAlarm |> suppressionOver |> suppressionCancelled

/-! ## Initialisation -/

def initialise (now : Int) (s : Incubator) : Incubator :=
  if s.getVal Reg.rInitSend = on then
    let s := s |> setVal Reg.rInitSend off |> setVal Reg.rRunSecondStatus off
      |> setTime Reg.rRunSecondHigh 0
    let second := s.getTime Reg.rRunSecondHigh
    s |> setUval Reg.rRunDay 0
      |> setTime Reg.rInitTimeHigh (now - second)
      |> setVal Reg.rRunSecondStatus on
      |> setVal Reg.rAiTpEgg 0
  else s

/-! ## Calibration -/

/-- What the end of a calibration restores. -/
def backupModes (s : Incubator) : Incubator :=
  s |> setUval Reg.backupOperationMode (getRunMode 1 s)
    |> setUval Reg.backupPreStatus (s.getUval Reg.rPreStatus)
    |> setTime Reg.backupPreheatingStartTimeHigh (s.getTime Reg.rPreStartTimeHigh)
    |> setTime Reg.backupPreheatingShutdownTimeHigh (s.getTime Reg.rPreStopTimeHigh)

def restoreModes (s : Incubator) : Incubator :=
  s |> setRunMode (s.getUval Reg.backupOperationMode)
    |> setUval Reg.rPreStatus (s.getUval Reg.backupPreStatus)
    |> setTime Reg.rPreStartTimeHigh (s.getTime Reg.backupPreheatingStartTimeHigh)
    |> setTime Reg.rPreStopTimeHigh (s.getTime Reg.backupPreheatingShutdownTimeHigh)

def checkControls (s : Incubator) : Incubator :=
  s |> driveMotor |> controlFan on |> outputsOff |> controlColdHotWater off |> damperOff

def checkStart (s : Incubator) : Incubator :=
  if s.getVal Reg.rCheckSend = on ∧ s.getVal Reg.rCheckRecv = off then
    let s := s |> backupModes |> setRunMode (statusCheckSend + statusCheckRevv) |> checkControls
      |> clearPreheat
    setUval Reg.calibrationRunTime (s.getUval Reg.pHh9 * 60) s
  else s

/-- At the end of its time the modes are restored, and `R_CHECK_SEND` is none of them. -/
def checkOver (s : Incubator) : Incubator :=
  if s.getVal Reg.rCheckSend = on ∧ s.getVal Reg.rCheckRecv = on then
    if s.getUval Reg.calibrationRunTime = 0 then restoreModes s else s
  else s

def checkCancelled (s : Incubator) : Incubator :=
  if s.getVal Reg.rCheckSend = off ∧ s.getVal Reg.rCheckRecv = on then
    s |> restoreModes |> setUval Reg.calibrationRunTime 0
  else s

/-! ## The round -/

def defaultMode (s : Incubator) : Incubator :=
  if getRunMode 0 s = 0 then setRunMode statusStopSent s else s

def mainRound (clock : Clock) (s : Incubator) : Incubator :=
  s |> runSysTime clock.runSysTime
    |> startInit |> startRun
    |> stopInit |> stopRun
    |> preheat clock
    |> alarmSuppression
    |> initialise clock.initialise
    |> checkStart |> checkOver |> checkCancelled
    |> defaultMode
    |> testControlMode
    |> directionFunc

/-! ## Footprints -/

/-- Everything that the controls of a mode write; none of it is a mode word or a time of a mode. -/
def controlWrites : List Nat :=
  [Reg.controlRunLights, Reg.controlFan, Reg.controlBlower, Reg.controlMainHeat,
    Reg.controlAuxHeat, Reg.controlCool, Reg.controlSpray, Reg.controlCool2_1,
    Reg.controlCool2_2, Reg.controlCool2_3, Reg.controlCool2_4, Reg.controlColdHotWater,
    Reg.sSyncMotorControlCmd, Reg.pidHumiSum, Reg.pidHumiSum + 1, Reg.refluxTemp1DelayTime,
    Reg.refluxTemp2DelayTime, Reg.refluxTemp3DelayTime, Reg.refluxTemp4DelayTime] ++
    setPoints ++ logicTempWrites ++ logicHumiWrites ++ damperWrites ++ retempWrites

section

variable {writes : List Nat} {s t : Incubator}

@[simp] theorem within_haltMotor (allowed : Reg.sSyncMotorControlCmd ∈ writes) :
    Within writes s (haltMotor t) ↔ Within writes s t := by
  simp only [haltMotor, within_ite, within_setVal allowed, ite_self]

@[simp] theorem within_parkMotor (allowed : Reg.sSyncMotorControlCmd ∈ writes) :
    Within writes s (parkMotor t) ↔ Within writes s t := by
  simp only [parkMotor, within_ite, within_haltMotor allowed, ite_self]

@[simp] theorem within_driveMotor (allowed : Reg.sSyncMotorControlCmd ∈ writes) :
    Within writes s (driveMotor t) ↔ Within writes s t := by
  simp only [driveMotor, within_ite, within_haltMotor allowed, within_setVal allowed, ite_self]

theorem resetLoops_within (s : Incubator) : Within controlWrites s (resetLoops s) := by
  simp (disch := decide +kernel) only [resetLoops, within_setTime, within_setVal, Within.refl]

theorem resetReflux_within (s : Incubator) : Within controlWrites s (resetReflux s) := by
  simp (disch := decide +kernel) only [resetReflux, within_setUval, Within.refl]

theorem outputsOff_within (s : Incubator) : Within controlWrites s (outputsOff s) := by
  simp (disch := decide +kernel) only [outputsOff, within_controlMainHeat, within_controlAuxHeat,
    within_controlCool, within_controlSpray, within_controlCool2, Within.refl]

theorem damperOff_within (s : Incubator) : Within controlWrites s (damperOff s) := by
  simp (disch := decide +kernel) only [damperOff, within_controlDamper, Within.refl]

theorem within_outputsOff :
    Within controlWrites s (outputsOff t) ↔ Within controlWrites s t :=
  (outputsOff_within t).skip (List.Subset.refl _)

theorem within_damperOff :
    Within controlWrites s (damperOff t) ↔ Within controlWrites s t :=
  (damperOff_within t).skip (List.Subset.refl _)

theorem startControls_within (s : Incubator) : Within controlWrites s (startControls s) := by
  have retemp (t : Incubator) :
      Within controlWrites s (normalRetemp t) ↔ Within controlWrites s t :=
    (normalRetemp_within t).skip (by decide +kernel)
  simp (disch := decide +kernel) only [startControls, retemp, within_damperControlFunc,
    within_logicProcessHumiFunc, within_logicProcessTempFunc, within_controlBlower,
    within_controlFan, within_driveMotor, within_updateSetPara, Within.refl]

theorem stopControls_within (s : Incubator) : Within controlWrites s (stopControls s) := by
  simp (disch := decide +kernel) only [stopControls, within_outputsOff, within_damperOff,
    within_controlBlower, within_controlColdHotWater, within_controlFan, within_parkMotor,
    within_updateSetPara, Within.refl]

theorem preheatControls_within (s : Incubator) :
    Within controlWrites s (preheatControls s) := by
  have retemp (t : Incubator) : Within controlWrites s (preRetemp t) ↔ Within controlWrites s t :=
    (preRetemp_within t).skip (by decide +kernel)
  simp (disch := decide +kernel) only [preheatControls, retemp, within_damperControlFunc,
    within_logicProcessHumiFunc, within_logicProcessTempFunc, within_controlBlower,
    within_controlRunLight, within_controlFan, within_driveMotor, within_preheatSetPara,
    Within.refl]

theorem checkControls_within (s : Incubator) : Within controlWrites s (checkControls s) := by
  simp (disch := decide +kernel) only [checkControls, within_outputsOff, within_damperOff,
    within_controlColdHotWater, within_controlFan, within_driveMotor, Within.refl]

end

end Jincubator
