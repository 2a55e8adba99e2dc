import Jincubator.Alarm
import Jincubator.Library.Hysteresis

/-! # The alarm thread

A round of the thread raises and withdraws the alarms one after the other, adds
up what is wrong with the sensors, and derives the word of the sounding alarms
from the lamps. Between rounds the thread keeps the last states of the return
alarms, of the fan and of the door.
-/

namespace Jincubator

open Incubator

/-! ## Humidity -/

/-- The high-humidity alarm waits for a delay, which is loaded first. -/
def highHumiAlarm (s : Incubator) : Incubator :=
  let s :=
    if s.getVal Reg.rAiHm ≥ s.getVal Reg.highHumiAlarmValue + s.getVal Reg.pHys then
      if s.getVal Reg.highHumidityAlarmDelayStatus = 0 then
        s |> setVal Reg.highHumidityAlarmDelayTime (s.getVal Reg.pHh11 * 60)
          |> setVal Reg.highHumidityAlarmDelayStatus on
      else if s.getVal Reg.highHumidityAlarmDelayTime = 0 then
        raiseAlarm Reg.outStHmHighAlarm Reg.highHumiAlarmStatus on s
      else raiseAlarm Reg.outStHmHighAlarm Reg.highHumiAlarmStatus off s
    else s
  if s.getVal Reg.rAiHm < s.getVal Reg.highHumiAlarmValue then
    s |> setVal Reg.highHumidityAlarmDelayStatus off
      |> raiseAlarm Reg.outStHmHighAlarm Reg.highHumiAlarmStatus off
  else s

def lowHumiAlarm (s : Incubator) : Incubator :=
  let s :=
    if s.getVal Reg.rAiHm ≤ s.getVal Reg.lowHumiAlarmValue - s.getVal Reg.pHys then
      raiseAlarm Reg.outStHmLowAlarm Reg.lowHumiAlarmStatus on s
    else s
  if s.getVal Reg.rAiHm > s.getVal Reg.lowHumiAlarmValue then
    raiseAlarm Reg.outStHmLowAlarm Reg.lowHumiAlarmStatus off s
  else s

/-! ## Return water -/

/-- The registers of the alarms of a return-water channel. -/
structure ReturnAlarm where
  mask : Word
  reading : Nat
  high : Nat
  low : Nat
  highStatus : Nat
  lowStatus : Nat
  sensor : Nat
  deriving DecidableEq

namespace ReturnAlarm

variable (c : ReturnAlarm)

def Enabled (s : Incubator) : Prop := s.reg Reg.refluxTemperature &&& c.mask ≠ 0

instance (s : Incubator) : Decidable (c.Enabled s) := inferInstanceAs (Decidable (_ ≠ _))

def highAlarm (s : Incubator) : Incubator :=
  let s :=
    if s.getVal c.reading ≥ s.getVal c.high + s.getVal Reg.pRtempHys then
      setVal c.highStatus on s
    else s
  if s.getVal c.reading < s.getVal c.high then setVal c.highStatus off s else s

def lowAlarm (s : Incubator) : Incubator :=
  let s :=
    if s.getVal c.reading ≤ s.getVal c.low - s.getVal Reg.pRtempHys then
      setVal c.lowStatus on s
    else s
  if s.getVal c.reading > s.getVal c.low then setVal c.lowStatus off s else s

/-- A disabled channel has no alarms, nor has its sensor. -/
def round (s : Incubator) : Incubator :=
  if c.Enabled s then s |> c.highAlarm |> c.lowAlarm
  else s |> setVal c.highStatus off |> setVal c.lowStatus off |> setVal c.sensor off

end ReturnAlarm

def returnAlarm1 : ReturnAlarm where
  mask := 0x01
  reading := Reg.rAiTpRf1
  high := Reg.highTempAlarmValueForRefluxTemp1
  low := Reg.lowTempAlarmValueForRefluxTemp1
  highStatus := Reg.returnTempeHighTempAlarmStatus1
  lowStatus := Reg.returnTempLowTempAlarmStatus1
  sensor := Reg.sensor3AbnormalAlarm

def returnAlarm2 : ReturnAlarm where
  mask := 0x02
  reading := Reg.rAiTpRf2
  high := Reg.highTempAlarmValueForRefluxTemp2
  low := Reg.lowTempAlarmValueForRefluxTemp2
  highStatus := Reg.returnTempeHighTempAlarmStatus2
  lowStatus := Reg.returnTempLowTempAlarmStatus2
  sensor := Reg.sensor4AbnormalAlarm

def returnAlarm3 : ReturnAlarm where
  mask := 0x04
  reading := Reg.rAiTpRf3
  high := Reg.highTempAlarmValueForRefluxTemp3
  low := Reg.lowTempAlarmValueForRefluxTemp3
  highStatus := Reg.returnTempeHighTempAlarmStatus3
  lowStatus := Reg.returnTempLowTempAlarmStatus3
  sensor := Reg.sensor5AbnormalAlarm

def returnAlarm4 : ReturnAlarm where
  mask := 0x08
  reading := Reg.rAiTpRf4
  high := Reg.highTempAlarmValueForRefluxTemp4
  low := Reg.lowTempAlarmValueForRefluxTemp4
  highStatus := Reg.returnTempeHighTempAlarmStatus4
  lowStatus := Reg.returnTempLowTempAlarmStatus4
  sensor := Reg.sensor6AbnormalAlarm

def returnAlarms : List ReturnAlarm := [returnAlarm1, returnAlarm2, returnAlarm3, returnAlarm4]

/-- A round up to the end of its return-water part. -/
def alarmSections (s : Incubator) : Incubator :=
  s |> tempAlarm |> highHumiAlarm |> lowHumiAlarm
    |> returnAlarm1.round |> returnAlarm2.round |> returnAlarm3.round |> returnAlarm4.round

/-! ## Eggs and CO2 -/

def eggAlarm (s : Incubator) : Incubator :=
  if s.getUval Reg.detectFlipEgg = on then
    let s :=
      if s.getVal Reg.eggFlippingSignalRingingStatus = on then
        s |> setUval Reg.eggFlippingSignalAlarmTime (s.getUval Reg.pHh1 * 60)
          |> setUval Reg.eggFlippingSignalRingingStatus off
      else if s.getUval Reg.eggFlippingSignalAlarmTime = off then
        setUval Reg.outStEggAlarm on s
      else setUval Reg.outStEggAlarm off s
    setUval Reg.noEggFlippingSignalRingingStatus on s
  else
    let s :=
      if s.getVal Reg.noEggFlippingSignalRingingStatus = on then
        s |> setUval Reg.noEggFlippingSignalAlarmTime (s.getUval Reg.pHh8 * 60)
          |> setUval Reg.noEggFlippingSignalRingingStatus off
      else s
    s |> setUval Reg.outStEggAlarm on |> setUval Reg.eggFlippingSignalRingingStatus on

def co2Lamps (v : Int) (s : Incubator) : Incubator :=
  s |> setUval Reg.outStCo2Alarm v |> setUval Reg.carbonDioxideWarningLight v

def co2Alarm (s : Incubator) : Incubator :=
  if s.getUval Reg.pCo2Status ≠ 0 then
    let s :=
      if s.getUval Reg.rAiCo ≥
          s.getUval Reg.pAoCo + s.getUval Reg.pCo2Ah + s.getUval Reg.pCo2Hys then
        co2Lamps on s
      else s
    if s.getUval Reg.rAiCo < s.getUval Reg.pAoCo + s.getUval Reg.pCo2Ah then co2Lamps off s
    else s
  else co2Lamps off s

/-! ## The thread -/

structure AlarmThread where
  inc : Incubator
  refTempModeOld : Int
  refTempModeHighOld : Int
  refTempModeLowOld : Int
  diFanMode : Int
  statusFanMode : Int
  alarmDoorSwitch : Int

/-- The thread before its first round. -/
def threadAlarmStart (s : Incubator) : AlarmThread where
  inc := s |> setUval Reg.eggFlippingSignalRingingStatus on
    |> setUval Reg.noEggFlippingSignalRingingStatus on
  refTempModeOld := 0
  refTempModeHighOld := 0
  refTempModeLowOld := 0
  diFanMode := on
  statusFanMode := on
  alarmDoorSwitch := 0

def refTempModeHigh (s : Incubator) : Int :=
  s.getVal Reg.returnTempeHighTempAlarmStatus1 +
    s.getVal Reg.returnTempeHighTempAlarmStatus2 * 2 +
    s.getVal Reg.returnTempeHighTempAlarmStatus3 * 4 +
    s.getVal Reg.returnTempeHighTempAlarmStatus4 * 8

def refTempModeLow (s : Incubator) : Int :=
  s.getVal Reg.returnTempLowTempAlarmStatus1 * 16 +
    s.getVal Reg.returnTempLowTempAlarmStatus2 * 32 +
    s.getVal Reg.returnTempLowTempAlarmStatus3 * 64 +
    s.getVal Reg.returnTempLowTempAlarmStatus4 * 128

namespace AlarmThread

/-- An action on the registers. -/
def onInc (f : Incubator → Incubator) (m : AlarmThread) : AlarmThread := { m with inc := f m.inc }

/-- A change of the return alarms loads their times. -/
def returnTimes (high low : Int) (m : AlarmThread) : AlarmThread :=
  if high + low ≠ m.refTempModeOld then
    let m :=
      if high ≠ m.refTempModeHighOld then
        { m with
          inc := setUval Reg.returnTempHighTempAlarmTime (m.inc.getVal Reg.pHh5 * 60) m.inc
          refTempModeHighOld := high }
      else m
    let m :=
      if low ≠ m.refTempModeLowOld then
        { m with
          inc := setUval Reg.returnTempLowTempAlarmTime (m.inc.getVal Reg.pHh0 * 60) m.inc
          refTempModeLowOld := low }
      else m
    { m with refTempModeOld := high + low }
  else m

def returnLamp (high low : Int) (m : AlarmThread) : AlarmThread :=
  let m := m.onInc fun s =>
    s |> setUval Reg.returnTempHighTempAlarmStatus high
      |> setUval Reg.returnTempLowTempAlarmStatus low
      |> setUval Reg.returnTempTotalTempAlarmStatus (high + low)
  if high + low > 0 then
    (m.returnTimes high low).onInc fun s =>
      let s := if high > 0 then setVal Reg.outStRefTempAlarm on s else s
      if low > 0 then setVal Reg.outStRefTempAlarm on s else s
  else
    { m with
      inc := m.inc |> setVal Reg.outStRefTempAlarm off
        |> setUval Reg.returnTempLowTempAlarmTime 0 |> setUval Reg.returnTempHighTempAlarmTime 0
      refTempModeOld := 0
      refTempModeHighOld := 0
      refTempModeLowOld := 0 }

/-! ## Fan and door -/

/-- The lamp and the state of the door. -/
def door (v : Int) (m : AlarmThread) : AlarmThread :=
  { m with inc := setUval Reg.outStDoorSwitchAlarm v m.inc, alarmDoorSwitch := v }

def fanRuns (m : AlarmThread) : AlarmThread :=
  { m with
    inc := m.inc |> setUval Reg.fanAlarmTime 0 |> setUval Reg.outStFanAlarm off
    diFanMode := 0 }

/-- In the stop mode the alarm waits for its time, which is loaded once. -/
def fanWaits (m : AlarmThread) : AlarmThread :=
  if m.statusFanMode ≠ 0 then
    { m with
      inc := setUval Reg.fanAlarmTime (m.inc.getVal Reg.pHh7 * 60) m.inc
      diFanMode := 1
      statusFanMode := off }
  else m

/-- The fan has its supply. -/
def fanSupplied (m : AlarmThread) : AlarmThread :=
  if m.inc.fanStatus = 1 then
    if m.inc.getVal Reg.rSyncMotorControlPara = 2 ∨
        m.inc.getVal Reg.rSyncMotorControlPara = 1 then
      (m.door (if m.inc.getVal Reg.detectDoorSwitch = off then on else off)).fanRuns
    else
      let m := m.door off
      { m with inc := setUval Reg.outStFanAlarm on m.inc, diFanMode := 1 }
  else m.fanRuns.door off

/-- The inverter, the current transformer or the contactor reports that the fan has stopped. -/
def FanStopSignal (s : Incubator) : Prop :=
  (s.reg Reg.rSyncMotorConnectStatus &&& 0x04 ≠ 0 ∧ s.fanStatus = 1) ∨
    s.getVal Reg.detectFanStop = on ∨ s.getVal Reg.nanopiGpioPg11 = on

instance (s : Incubator) : Decidable (FanStopSignal s) :=
  inferInstanceAs (Decidable (_ ∨ _ ∨ _))

def fanAlarm (m : AlarmThread) : AlarmThread :=
  if m.inc.getVal Reg.detectFan ≠ 0 then
    let m := { m.fanSupplied with statusFanMode := on }
    if FanStopSignal m.inc then
      if m.inc.getVal Reg.rStopRecv = on then m.fanWaits
      else
        { m with
          inc := m.inc |> setUval Reg.outStFanAlarm on |> setUval Reg.fanAlarmTime 0
          statusFanMode := on
          diFanMode := 1 }
    else m
  else
    let m := (m.onInc (setUval Reg.outStFanAlarm on)).door off
    if m.inc.getVal Reg.rStopRecv = on then m.fanWaits
    else
      { m with
        inc := setUval Reg.fanAlarmTime 0 m.inc
        statusFanMode := on
        diFanMode := 1 }

end AlarmThread

/-- A fan with an inverter has no return water. -/
def fanDisables (s : Incubator) : Incubator :=
  if s.fanStatus = 1 then setUval Reg.refluxTemperature 0x00 s else s

/-! ## Sensors -/

/-- One bit for each sensor. The third return-water channel is looked for in the bits of the first
two. -/
def statusRefTempAlarm (s : Incubator) : Int :=
  ushort (s.getVal Reg.sensor1AbnormalAlarm + s.getVal Reg.sensor2AbnormalAlarm * 2 +
    (if s.reg Reg.refluxTemperature &&& 0x01 ≠ 0 then s.getVal Reg.sensor3AbnormalAlarm * 4
      else 0) +
    (if s.reg Reg.refluxTemperature &&& 0x02 ≠ 0 then s.getVal Reg.sensor4AbnormalAlarm * 8
      else 0) +
    (if s.reg Reg.refluxTemperature &&& 0x03 ≠ 0 then s.getVal Reg.sensor5AbnormalAlarm * 16
      else 0) +
    (if s.reg Reg.refluxTemperature &&& 0x08 ≠ 0 then s.getVal Reg.sensor6AbnormalAlarm * 32
      else 0) +
    s.getVal Reg.sensorCo2Alarm * 64 +
    (if s.getVal Reg.sensorMutationStatus = on then on else off) * 128 +
    s.getVal Reg.carbonDioxideWarningLight * 256)

def sensorLamp (s : Incubator) : Incubator :=
  let total := statusRefTempAlarm s
  s |> setUval Reg.alarmPt100Total total
    |> setUval Reg.outStSensorAbnormalAlarm (if total > 0 then on else off)

/-! ## Sounding alarms -/

/-- Sets or clears a bit. -/
def flag (c : Prop) [Decidable c] (bit : Word) (mode : Word) : Word :=
  if c then mode ||| bit else mode &&& ~~~bit

def lampSum (s : Incubator) : Int :=
  s.getVal Reg.outStEggAlarm + s.getVal Reg.outStTpHighAlarm + s.getVal Reg.outStTpLowAlarm +
    s.getVal Reg.outStHmHighAlarm + s.getVal Reg.outStHmLowAlarm + s.getVal Reg.outStRefTempAlarm +
    s.getVal Reg.outStCo2Alarm + s.getVal Reg.outStSensorAbnormalAlarm +
    s.getVal Reg.outStFanAlarm

/-- The lamps that shine without sounding. -/
def alarmStatus (s : Incubator) : Int :=
  s.getVal Reg.lowTempAlarmStatus + s.getVal Reg.highHumiAlarmStatus +
    s.getVal Reg.lowHumiAlarmStatus + s.getVal Reg.outStEggAlarm + s.getVal Reg.outStFanAlarm +
    s.getVal Reg.outStRefTempAlarm

def warnLights (warn bell : Int) (s : Incubator) : Incubator :=
  s |> setVal Reg.controlWarnLight warn |> setVal Reg.controlElectricBell bell

/-- The lamp blinks and the bell rings while an alarm sounds that is not suppressed. -/
def soundAlarm (mode : Word) (s : Incubator) : Incubator :=
  let s := setUval Reg.alarmModule mode.toNat s
  if mode.toNat > 0 then
    if s.getUval Reg.alarmSuppressionTime = 0 then
      warnLights (if s.getVal Reg.controlWarnLight = 0 then 1 else 0) off s
    else warnLights on on s
  else if alarmStatus s > 0 then warnLights on on s
  else if mode.toNat = 0 ∧ alarmStatus s = 0 then warnLights off on s
  else s

namespace AlarmThread

/-- `g_us_temp_mode`, one bit for each sounding alarm. -/
def usTempMode (high low : Int) (m : AlarmThread) : Word :=
  let s := m.inc
  if lampSum s + m.alarmDoorSwitch > 0 then
    0 |> flag (s.getVal Reg.outStTpHighAlarm > 0) 0x01
      |> flag (s.getUval Reg.fanAlarmTime = 0 ∧ m.diFanMode = 1) 0x02
      |> flag (s.getVal Reg.outStSensorAbnormalAlarm > 0) 0x04
      |> flag (high > 0 ∧ s.getUval Reg.returnTempHighTempAlarmTime = 0) 0x08
      |> flag (low > 0 ∧ s.getUval Reg.returnTempLowTempAlarmTime = 0) 0x10
      |> flag (s.getVal Reg.eggFlippingSignalRingingStatus = off ∧
          s.getUval Reg.eggFlippingSignalAlarmTime = off ∧ s.getVal Reg.pFanTime = on) 0x40
      |> flag (s.getVal Reg.noEggFlippingSignalRingingStatus = off ∧
          s.getUval Reg.noEggFlippingSignalAlarmTime = off ∧ s.getVal Reg.pFanTime = on) 0x80
      |> flag (m.alarmDoorSwitch = on ∧ s.fanStatus = 1) 0x100
  else 0

/-- The part of a round between its return water and its sensors. -/
def otherLamps (high low : Int) (m : AlarmThread) : AlarmThread :=
  ((m.returnLamp high low).onInc fun s => s |> eggAlarm |> co2Alarm |> fanDisables).fanAlarm

/-- One round of `thread_alarm_func`. -/
def threadAlarmFunc (m : AlarmThread) : AlarmThread :=
  let m := m.onInc alarmSections
  let high := refTempModeHigh m.inc
  let low := refTempModeLow m.inc
  let m := (m.otherLamps high low).onInc sensorLamp
  m.onInc (soundAlarm (m.usTempMode high low))

end AlarmThread

/-! ## Two-point alarms -/

theorem highTempAlarm_eq (s : Incubator) : highTempAlarm s =
    Hysteresis.round (raiseAlarm Reg.outStTpHighAlarm Reg.highTempAlarmStatus) on off
      (fun t => t.getVal Reg.rAiTpMain ≥ t.getVal Reg.highTempAlarmValue + t.getVal Reg.pHys ∨
        t.getVal Reg.detectAuxHighTemp = on)
      (fun t => t.getVal Reg.rAiTpMain < t.getVal Reg.highTempAlarmValue ∧
        t.getVal Reg.detectAuxHighTemp = off) s := rfl

theorem lowTempAlarm_eq (s : Incubator) : lowTempAlarm s =
    Hysteresis.round (raiseAlarm Reg.outStTpLowAlarm Reg.lowTempAlarmStatus) on off
      (fun t => t.getVal Reg.rAiTpMain ≤ t.getVal Reg.lowTempAlarmValue - t.getVal Reg.pHys ∧
        t.getVal Reg.detectAuxHighTemp = off)
      (fun t => t.getVal Reg.rAiTpMain > t.getVal Reg.lowTempAlarmValue ∧
        t.getVal Reg.detectAuxHighTemp = off) s := rfl

theorem lowHumiAlarm_eq (s : Incubator) : lowHumiAlarm s =
    Hysteresis.round (raiseAlarm Reg.outStHmLowAlarm Reg.lowHumiAlarmStatus) on off
      (fun t => t.getVal Reg.rAiHm ≤ t.getVal Reg.lowHumiAlarmValue - t.getVal Reg.pHys)
      (fun t => t.getVal Reg.rAiHm > t.getVal Reg.lowHumiAlarmValue) s := rfl

theorem ReturnAlarm.highAlarm_eq (c : ReturnAlarm) (s : Incubator) : c.highAlarm s =
    Hysteresis.round (setVal c.highStatus) on off
      (fun t => t.getVal c.reading ≥ t.getVal c.high + t.getVal Reg.pRtempHys)
      (fun t => t.getVal c.reading < t.getVal c.high) s := rfl

theorem ReturnAlarm.lowAlarm_eq (c : ReturnAlarm) (s : Incubator) : c.lowAlarm s =
    Hysteresis.round (setVal c.lowStatus) on off
      (fun t => t.getVal c.reading ≤ t.getVal c.low - t.getVal Reg.pRtempHys)
      (fun t => t.getVal c.reading > t.getVal c.low) s := rfl

/-! ## Footprints -/

def highHumiAlarmWrites : List Nat :=
  [Reg.outStHmHighAlarm, Reg.highHumiAlarmStatus, Reg.highHumidityAlarmDelayTime,
    Reg.highHumidityAlarmDelayStatus]

def lowHumiAlarmWrites : List Nat := [Reg.outStHmLowAlarm, Reg.lowHumiAlarmStatus]

def ReturnAlarm.writes (c : ReturnAlarm) : List Nat := [c.highStatus, c.lowStatus, c.sensor]

/-- What a round writes besides the part of a channel, from its humidity part on. -/
def ReturnAlarm.besides (c : ReturnAlarm) : List Nat :=
  highHumiAlarmWrites ++ lowHumiAlarmWrites ++
    (returnAlarms.filter fun d => d.sensor ≠ c.sensor).flatMap ReturnAlarm.writes

/-- The sums of the return alarms, their lamp and their times. -/
def returnLampWrites : List Nat :=
  Reg.outStRefTempAlarm :: List.range' Reg.returnTempHighTempAlarmTime 5

def eggAlarmWrites : List Nat :=
  [Reg.eggFlippingSignalAlarmTime, Reg.eggFlippingSignalRingingStatus, Reg.outStEggAlarm,
    Reg.noEggFlippingSignalRingingStatus, Reg.noEggFlippingSignalAlarmTime]

def co2AlarmWrites : List Nat := [Reg.outStCo2Alarm, Reg.carbonDioxideWarningLight]

def fanAlarmWrites : List Nat :=
  [Reg.outStDoorSwitchAlarm, Reg.fanAlarmTime, Reg.outStFanAlarm]

def sensorLampWrites : List Nat := [Reg.alarmPt100Total, Reg.outStSensorAbnormalAlarm]

def soundAlarmWrites : List Nat :=
  [Reg.alarmModule, Reg.controlWarnLight, Reg.controlElectricBell]

/-- All that a round writes after its return-water part. -/
def lampPartWrites : List Nat :=
  returnLampWrites ++ eggAlarmWrites ++ co2AlarmWrites ++ [Reg.refluxTemperature] ++
    fanAlarmWrites ++ sensorLampWrites ++ soundAlarmWrites

theorem highHumiAlarm_within (s : Incubator) :
    Within highHumiAlarmWrites s (highHumiAlarm s) := by
  simp (disch := decide) only [highHumiAlarm, within_raiseAlarm, within_setVal, within_ite,
    Within.refl, ite_self]

theorem lowHumiAlarm_within (s : Incubator) : Within lowHumiAlarmWrites s (lowHumiAlarm s) := by
  simp (disch := decide) only [lowHumiAlarm, within_raiseAlarm, within_ite, Within.refl, ite_self]

namespace ReturnAlarm

variable (c : ReturnAlarm) (s : Incubator)

theorem highAlarm_within : Within [c.highStatus] s (c.highAlarm s) := by
  simp only [highAlarm, within_ite, within_setVal List.mem_cons_self, Within.refl, ite_self]

theorem lowAlarm_within : Within [c.lowStatus] s (c.lowAlarm s) := by
  simp only [lowAlarm, within_ite, within_setVal List.mem_cons_self, Within.refl, ite_self]

theorem round_within : Within c.writes s (c.round s) := by
  have high : c.highStatus ∈ c.writes := List.mem_cons_self
  have low : c.lowStatus ∈ c.writes := List.mem_cons_of_mem _ List.mem_cons_self
  have sensor : c.sensor ∈ c.writes := by simp [writes]
  rw [round, within_ite]
  split
  · exact ((c.highAlarm_within s).mono (by simpa using high)).trans
      ((c.lowAlarm_within _).mono (by simpa using low))
  · rw [within_setVal sensor, within_setVal low, within_setVal high]
    exact Within.refl _ _

end ReturnAlarm

/-- A round with the part of one channel in its midst. -/
theorem alarmSections_channel {c : ReturnAlarm} (mem : c ∈ returnAlarms) (s : Incubator) :
    ∃ t, Within c.besides (tempAlarm s) t ∧ Within c.besides (c.round t) (alarmSections s) := by
  have humi {writes : List Nat} (high : highHumiAlarmWrites ⊆ writes)
      (low : lowHumiAlarmWrites ⊆ writes) :
      Within writes (tempAlarm s) (lowHumiAlarm (highHumiAlarm (tempAlarm s))) :=
    ((highHumiAlarm_within _).mono high).trans ((lowHumiAlarm_within _).mono low)
  let first := returnAlarm1.round (lowHumiAlarm (highHumiAlarm (tempAlarm s)))
  have part1 := returnAlarm1.round_within (lowHumiAlarm (highHumiAlarm (tempAlarm s)))
  have part2 := returnAlarm2.round_within first
  have part3 := returnAlarm3.round_within (returnAlarm2.round first)
  have part4 := returnAlarm4.round_within (returnAlarm3.round (returnAlarm2.round first))
  simp only [returnAlarms, List.mem_cons, List.not_mem_nil, or_false] at mem
  rcases mem with rfl | rfl | rfl | rfl
  · refine ⟨_, humi (by decide) (by decide), ?_⟩
    exact ((part2.mono (by decide)).trans (part3.mono (by decide))).trans (part4.mono (by decide))
  · refine ⟨first, (humi (by decide) (by decide)).trans (part1.mono (by decide)), ?_⟩
    exact (part3.mono (by decide)).trans (part4.mono (by decide))
  · refine ⟨returnAlarm2.round first, ?_, part4.mono (by decide)⟩
    exact ((humi (by decide) (by decide)).trans (part1.mono (by decide))).trans
      (part2.mono (by decide))
  · refine ⟨returnAlarm3.round (returnAlarm2.round first), ?_, Within.refl _ _⟩
    exact (((humi (by decide) (by decide)).trans (part1.mono (by decide))).trans
      (part2.mono (by decide))).trans (part3.mono (by decide))

theorem eggAlarm_within (s : Incubator) : Within eggAlarmWrites s (eggAlarm s) := by
  simp (disch := decide) only [eggAlarm, within_setUval, within_ite, Within.refl, ite_self]

theorem co2Alarm_within (s : Incubator) : Within co2AlarmWrites s (co2Alarm s) := by
  have lamps (v : Int) (t : Incubator) :
      Within co2AlarmWrites s (co2Lamps v t) ↔ Within co2AlarmWrites s t := by
    simp (disch := decide) only [co2Lamps, within_setUval]
  simp only [co2Alarm, lamps, within_ite, Within.refl, ite_self]

theorem fanDisables_within (s : Incubator) : Within [Reg.refluxTemperature] s (fanDisables s) := by
  simp (disch := decide) only [fanDisables, within_setUval, within_ite, Within.refl, ite_self]

theorem sensorLamp_within (s : Incubator) : Within sensorLampWrites s (sensorLamp s) := by
  simp (disch := decide) only [sensorLamp, within_setUval, Within.refl]

theorem soundAlarm_within (mode : Word) (s : Incubator) :
    Within soundAlarmWrites s (soundAlarm mode s) := by
  simp (disch := decide) only [soundAlarm, warnLights, within_setVal, within_setUval, within_ite,
    Within.refl, ite_self]

namespace AlarmThread

variable {writes : List Nat} {s : Incubator} {m : AlarmThread} {v : Int}

theorem within_door (lamp : Reg.outStDoorSwitchAlarm ∈ writes) :
    Within writes s (m.door v).inc ↔ Within writes s m.inc :=
  within_setUval lamp

theorem within_fanRuns (time : Reg.fanAlarmTime ∈ writes) (lamp : Reg.outStFanAlarm ∈ writes) :
    Within writes s m.fanRuns.inc ↔ Within writes s m.inc := by
  rw [fanRuns, within_setUval lamp, within_setUval time]

theorem within_fanWaits (time : Reg.fanAlarmTime ∈ writes) :
    Within writes s m.fanWaits.inc ↔ Within writes s m.inc := by
  rw [fanWaits]
  split
  · exact within_setUval time
  · rfl

theorem fanSupplied_within (m : AlarmThread) :
    Within fanAlarmWrites m.inc m.fanSupplied.inc := by
  rw [fanSupplied]
  split
  · split
    · rw [within_fanRuns (by decide) (by decide), within_door (by decide)]
      exact Within.refl _ _
    · rw [within_setUval (by decide), within_door (by decide)]
      exact Within.refl _ _
  · rw [within_door (by decide), within_fanRuns (by decide) (by decide)]
    exact Within.refl _ _

theorem fanAlarm_within (m : AlarmThread) : Within fanAlarmWrites m.inc m.fanAlarm.inc := by
  have supplied := fanSupplied_within m
  rw [fanAlarm]
  split
  · simp only
    split
    · split
      · rwa [within_fanWaits (by decide)]
      · rwa [within_setUval (by decide), within_setUval (by decide)]
    · exact supplied
  · simp only
    split
    · rw [within_fanWaits (by decide), within_door (by decide), onInc, within_setUval (by decide)]
      exact Within.refl _ _
    · rw [within_setUval (by decide), within_door (by decide), onInc, within_setUval (by decide)]
      exact Within.refl _ _

theorem returnTimes_within (high low : Int) (m : AlarmThread) :
    Within returnLampWrites m.inc (m.returnTimes high low).inc := by
  rw [returnTimes]
  split
  · simp only
    split <;> split <;> simp (disch := decide) only [within_setUval, Within.refl]
  · exact Within.refl _ _

theorem returnLamp_within (high low : Int) (m : AlarmThread) :
    Within returnLampWrites m.inc (m.returnLamp high low).inc := by
  have sums : Within returnLampWrites m.inc (m.onInc fun s =>
      s |> setUval Reg.returnTempHighTempAlarmStatus high
        |> setUval Reg.returnTempLowTempAlarmStatus low
        |> setUval Reg.returnTempTotalTempAlarmStatus (high + low)).inc := by
    simp (disch := decide) only [onInc, within_setUval, Within.refl]
  rw [returnLamp]
  split
  · have times := sums.trans (returnTimes_within high low _)
    simp (disch := decide) only [onInc, within_setVal, within_ite, ite_self]
    exact times
  · simp (disch := decide) only [within_setVal, within_setUval]
    exact sums

theorem otherLamps_within (high low : Int) (m : AlarmThread) :
    Within lampPartWrites m.inc (m.otherLamps high low).inc := by
  have lamp : Within lampPartWrites m.inc (m.returnLamp high low).inc :=
    (returnLamp_within high low m).mono (by decide)
  have egg := lamp.trans ((eggAlarm_within _).mono (by decide))
  have co2 := egg.trans ((co2Alarm_within _).mono (by decide))
  have disabled := co2.trans ((fanDisables_within _).mono (by decide))
  exact disabled.trans ((fanAlarm_within ((m.returnLamp high low).onInc fun s =>
    s |> eggAlarm |> co2Alarm |> fanDisables)).mono (by decide))

/-- After its return-water part a round writes lamps, times, sums and the enabled channels. -/
theorem threadAlarmFunc_within (m : AlarmThread) :
    Within lampPartWrites (alarmSections m.inc) m.threadAlarmFunc.inc := by
  have lamps := otherLamps_within (refTempModeHigh (alarmSections m.inc))
    (refTempModeLow (alarmSections m.inc)) (m.onInc alarmSections)
  have sensors := lamps.trans ((sensorLamp_within _).mono (by decide))
  exact sensors.trans ((soundAlarm_within _ _).mono (by decide))

end AlarmThread

/-! ## Bits -/

section

variable {c : Prop} [Decidable c] {bit mask mode : Word}

theorem flag_other (apart : bit &&& mask = 0) (kept : ~~~bit &&& mask = mask) :
    flag c bit mode &&& mask = mode &&& mask := by
  rw [flag]
  split
  · rw [BitVec.and_or_distrib_right, apart]
    exact BitVec.or_zero
  · rw [BitVec.and_assoc, kept]

theorem flag_self (set : c) : flag c mask mode &&& mask = mask := by
  rw [flag, if_pos set, BitVec.and_or_distrib_right, BitVec.and_self]
  apply BitVec.eq_of_getLsbD_eq
  intro i _
  simp

theorem flag_clear (clear : ¬c) : flag c mask mode &&& mask = 0 := by
  rw [flag, if_neg clear, BitVec.and_assoc, BitVec.not_and_self]
  exact BitVec.and_zero

end

/-! ## The parts of a round -/

/-- The state in which a round adds up the sensors. -/
def beforeSum (m : AlarmThread) : AlarmThread :=
  (m.onInc alarmSections).otherLamps (refTempModeHigh (alarmSections m.inc))
    (refTempModeLow (alarmSections m.inc))

theorem threadAlarmFunc_eq (m : AlarmThread) : m.threadAlarmFunc =
    ((beforeSum m).onInc sensorLamp).onInc (soundAlarm
      (((beforeSum m).onInc sensorLamp).usTempMode (refTempModeHigh (alarmSections m.inc))
        (refTempModeLow (alarmSections m.inc)))) := rfl

theorem beforeSum_within (m : AlarmThread) :
    Within lampPartWrites (alarmSections m.inc) (beforeSum m).inc :=
  AlarmThread.otherLamps_within _ _ (m.onInc alarmSections)

theorem soundAlarm_module (mode : Word) (s : Incubator) :
    (soundAlarm mode s).reg Reg.alarmModule = mode := by
  have lights : Within [Reg.controlWarnLight, Reg.controlElectricBell]
      (setUval Reg.alarmModule mode.toNat s) (soundAlarm mode s) := by
    simp (disch := decide) only [soundAlarm, warnLights, within_setVal, within_ite, Within.refl,
      ite_self]
  rw [lights.reg (by decide), setUval_eq, reg_setVal_self, ofInt_toNat]

/-- What a round writes up to its return-water part. -/
def alarmSectionWrites : List Nat :=
  tempAlarmWrites ++ highHumiAlarmWrites ++ lowHumiAlarmWrites ++
    returnAlarms.flatMap ReturnAlarm.writes

theorem alarmSections_within (s : Incubator) :
    Within alarmSectionWrites s (alarmSections s) := by
  have temp : Within alarmSectionWrites s (tempAlarm s) := (tempAlarm_within s).mono (by decide)
  have high := temp.trans ((highHumiAlarm_within _).mono (by decide))
  have low := high.trans ((lowHumiAlarm_within _).mono (by decide))
  have first := low.trans ((returnAlarm1.round_within _).mono (by decide))
  have second := first.trans ((returnAlarm2.round_within _).mono (by decide))
  have third := second.trans ((returnAlarm3.round_within _).mono (by decide))
  exact third.trans ((returnAlarm4.round_within _).mono (by decide))

/-- What a round writes. -/
def alarmRoundWrites : List Nat := alarmSectionWrites ++ lampPartWrites

theorem alarmRound_within (m : AlarmThread) : Within alarmRoundWrites m.inc m.threadAlarmFunc.inc :=
  ((alarmSections_within m.inc).mono (List.subset_append_left _ _)).trans
    ((AlarmThread.threadAlarmFunc_within m).mono (List.subset_append_right _ _))

/-- The state in which a round looks at the eggs. -/
def beforeEggs (m : AlarmThread) : AlarmThread :=
  (m.onInc alarmSections).returnLamp (refTempModeHigh (alarmSections m.inc))
    (refTempModeLow (alarmSections m.inc))

/-- The state in which a round looks at the fan. -/
def beforeFan (m : AlarmThread) : AlarmThread :=
  (beforeEggs m).onInc fun s => s |> eggAlarm |> co2Alarm |> fanDisables

theorem beforeEggs_within (m : AlarmThread) :
    Within (alarmSectionWrites ++ returnLampWrites) m.inc (beforeEggs m).inc :=
  ((alarmSections_within m.inc).mono (List.subset_append_left _ _)).trans
    ((AlarmThread.returnLamp_within _ _ (m.onInc alarmSections)).mono
      (List.subset_append_right _ _))

theorem eggs_fan_within (m : AlarmThread) :
    Within (co2AlarmWrites ++ [Reg.refluxTemperature]) (eggAlarm (beforeEggs m).inc)
      (beforeFan m).inc :=
  ((co2Alarm_within _).mono (List.subset_append_left _ _)).trans
    ((fanDisables_within _).mono (List.subset_append_right _ _))

theorem beforeFan_within (m : AlarmThread) : Within alarmRoundWrites m.inc (beforeFan m).inc :=
  (((beforeEggs_within m).mono (by decide)).trans ((eggAlarm_within _).mono (by decide))).trans
    ((eggs_fan_within m).mono (by decide))

/-- After the fan a round writes the sensors and what sounds. -/
theorem afterFan_within (m : AlarmThread) :
    Within (sensorLampWrites ++ soundAlarmWrites) (beforeFan m).fanAlarm.inc
      m.threadAlarmFunc.inc :=
  ((sensorLamp_within _).mono (List.subset_append_left _ _)).trans
    ((soundAlarm_within _ _).mono (List.subset_append_right _ _))

/-! ## The time of the fan -/

/-- In the stop mode the time of the fan is loaded: with a supply whenever the fan reports that it
has stopped, and without one if the thread has not loaded it yet. -/
def FanLoads (m : AlarmThread) : Prop :=
  m.inc.getVal Reg.rStopRecv = on ∧
    if m.inc.getVal Reg.detectFan ≠ 0 then AlarmThread.FanStopSignal m.inc
    else m.statusFanMode ≠ 0

section

variable {m : AlarmThread} {s t : Incubator} {writes : List Nat}

theorem fanStopSignal_within (st : Within writes s t)
    (apart : ∀ i ∈ [Reg.rSyncMotorConnectStatus, Reg.detectFanStop, Reg.nanopiGpioPg11],
      i ∉ writes) : AlarmThread.FanStopSignal t ↔ AlarmThread.FanStopSignal s := by
  rw [AlarmThread.FanStopSignal, AlarmThread.FanStopSignal, st.reg (apart _ (by simp)),
    st.fanStatus, st.getVal (apart _ (by simp)), st.getVal (apart _ (by simp))]

theorem fanWaits_loads (once : m.statusFanMode ≠ 0) :
    m.fanWaits.inc.getUval Reg.fanAlarmTime = ushort (m.inc.getVal Reg.pHh7 * 60) := by
  rw [AlarmThread.fanWaits, if_pos once, setUval_eq, getUval_setVal_self]

theorem fanAlarm_loads (loads : FanLoads m) :
    m.fanAlarm.inc.getUval Reg.fanAlarmTime = ushort (m.inc.getVal Reg.pHh7 * 60) := by
  obtain ⟨stop, signal⟩ := loads
  rw [AlarmThread.fanAlarm]
  split
  · rename_i supply
    rw [if_pos supply] at signal
    have supplied := AlarmThread.fanSupplied_within m
    have stopped := (fanStopSignal_within supplied (by decide)).mpr signal
    rw [← supplied.getVal (by decide)] at stop
    simp only [if_pos stopped, if_pos stop]
    rw [fanWaits_loads (show on ≠ 0 by decide), supplied.getVal (by decide)]
  · rename_i supply
    rw [if_neg supply] at signal
    have lamps : Within fanAlarmWrites m.inc
        ((m.onInc (setUval Reg.outStFanAlarm on)).door off).inc := by
      rw [AlarmThread.within_door (by decide), AlarmThread.onInc, within_setUval (by decide)]
      exact Within.refl _ _
    have once : ((m.onInc (setUval Reg.outStFanAlarm on)).door off).statusFanMode ≠ 0 := signal
    rw [← lamps.getVal (by decide)] at stop
    simp only [if_pos stop]
    rw [fanWaits_loads once, lamps.getVal (by decide)]

end

end Jincubator
