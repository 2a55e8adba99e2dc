import Jincubator.Define
import Jincubator.Registers

/-! # Output functions

Every actuator is switched by a function of its own, which first looks at the
test mode, the sensor and high-temperature alarms, the fan and, for the damper,
the limit switches. Most of them are one pattern: an output that is held as it
is, forced off, or set as asked.
-/

namespace Jincubator

open Incubator

/-- The inverter drives the fan and neither forward nor backward run is reported. -/
def FanStopped (s : Incubator) : Prop :=
  s.fanStatus = 1 ∧
    s.getVal Reg.rSyncMotorControlPara ≠ 1 ∧ s.getVal Reg.rSyncMotorControlPara ≠ 2

instance (s : Incubator) : Decidable (FanStopped s) :=
  inferInstanceAs (Decidable (_ ∧ _ ∧ _))

/-- The guards return early, first those that leave the output alone. -/
def switchOutput (output : Nat) (held forced : Prop) [Decidable held] [Decidable forced]
    (status : Int) (s : Incubator) : Incubator :=
  if held then s
  else if forced then setVal output off s
  else setVal output status s

def controlRunLight (status : Int) (s : Incubator) : Incubator :=
  setVal Reg.controlRunLights status s

/-- The main heater is kept off by a rejected sensor, the high-temperature alarm or the fan. -/
def MainHeatForced (s : Incubator) : Prop :=
  s.getVal Reg.sensor1AbnormalAlarm ≠ 0 ∨ s.getVal Reg.outStTpHighAlarm ≠ 0 ∨ FanStopped s

instance (s : Incubator) : Decidable (MainHeatForced s) :=
  inferInstanceAs (Decidable (_ ∨ _ ∨ _))

def controlMainHeat (status : Int) (s : Incubator) : Incubator :=
  switchOutput Reg.controlMainHeat (s.getVal Reg.testMainHeatMode ≠ 0)
    (MainHeatForced s) status s

/-- No sensor alarm is looked at here. -/
def AuxHeatForced (s : Incubator) : Prop :=
  s.getVal Reg.outStTpHighAlarm ≠ 0 ∨ FanStopped s

instance (s : Incubator) : Decidable (AuxHeatForced s) :=
  inferInstanceAs (Decidable (_ ∨ _))

def controlAuxHeat (status : Int) (s : Incubator) : Incubator :=
  switchOutput Reg.controlAuxHeat (s.getVal Reg.testAuxHeatMode ≠ 0)
    (AuxHeatForced s) status s

def controlFan (status : Int) (s : Incubator) : Incubator :=
  setVal Reg.controlFan status s

def controlCool2_1 (status : Int) (s : Incubator) : Incubator :=
  switchOutput Reg.controlCool2_1
    (s.getVal Reg.testCool2_1Mode ≠ 0 ∨ s.getVal Reg.sensor3AbnormalAlarm ≠ 0) (FanStopped s)
    status s

def controlCool2_2 (status : Int) (s : Incubator) : Incubator :=
  switchOutput Reg.controlCool2_2
    (s.getVal Reg.testCool2_2Mode ≠ 0 ∨ s.getVal Reg.sensor4AbnormalAlarm ≠ 0) (FanStopped s)
    status s

def controlCool2_3 (status : Int) (s : Incubator) : Incubator :=
  switchOutput Reg.controlCool2_3
    (s.getVal Reg.testCool2_3Mode ≠ 0 ∨ s.getVal Reg.sensor5AbnormalAlarm ≠ 0) (FanStopped s)
    status s

/-- The fan guard does not return, so the status is stored after it. -/
def controlCool2_4 (status : Int) (s : Incubator) : Incubator :=
  if s.getVal Reg.testCool2_4Mode ≠ 0 then s
  else if s.getVal Reg.sensor6AbnormalAlarm ≠ 0 then s
  else
    let s := if FanStopped s then setVal Reg.controlCool2_4 off s else s
    setVal Reg.controlCool2_4 status s

def controlCool2 (type : Nat) (status : Int) (s : Incubator) : Incubator :=
  match type with
  | 1 => controlCool2_1 status s
  | 2 => controlCool2_2 status s
  | 3 => controlCool2_3 status s
  | 4 => controlCool2_4 status s
  | _ => s

def controlColdHotWater (status : Int) (s : Incubator) : Incubator :=
  setVal Reg.controlColdHotWater status s

def controlBlower (status : Int) (s : Incubator) : Incubator :=
  switchOutput Reg.controlBlower (s.getVal Reg.testBlowerMode ≠ 0) (s.fanStatus = 1) status s

def controlOpenDamper (status : Int) (s : Incubator) : Incubator :=
  if s.getVal Reg.detectDamperFullyOpen ≠ 0 then setVal Reg.controlDamperOpen off s
  else s |> setVal Reg.controlDamperClose off |> setVal Reg.controlDamperOpen status

def controlCloseDamper (status schedule : Int) (s : Incubator) : Incubator :=
  if s.getVal Reg.detectDamperFullyClose ≠ 0 then setVal Reg.controlDamperClose off s
  else
    let s := setVal Reg.controlDamperOpen off s
    if schedule = 1 then
      if s.getVal Reg.rAiAd > s.getVal Reg.pAoAd then setVal Reg.controlDamperClose status s
      else setVal Reg.controlDamperClose off s
    else setVal Reg.controlDamperClose status s

def controlDamper (type status schedule : Int) (s : Incubator) : Incubator :=
  if s.getVal Reg.testDamperOpenMode ≠ 0 ∨ s.getVal Reg.testDamperCloseMode ≠ 0 then s
  else if FanStopped s then controlOpenDamper off s
  else if type = 1 then controlOpenDamper status s
  else if type = 2 then controlCloseDamper status schedule s
  else s

def controlCool (status : Int) (s : Incubator) : Incubator :=
  switchOutput Reg.controlCool (s.getVal Reg.testCoolMode ≠ 0) (FanStopped s) status s

/-- The high-humidity guard tests the address of the alarm lamp, not its register. -/
def controlSpray (status : Int) (s : Incubator) : Incubator :=
  switchOutput Reg.controlSpray (s.getVal Reg.testSprayMode ≠ 0)
    (s.getVal Reg.sensor2AbnormalAlarm ≠ 0 ∨ Reg.outStHmHighAlarm ≠ 0 ∨ FanStopped s) status s

/-! ## What one call can do -/

section

variable {writes : List Nat} {s t : Incubator} {status : Int}

theorem FanStopped.within (st : Within writes s t)
    (untouched : Reg.rSyncMotorControlPara ∉ writes) : FanStopped t ↔ FanStopped s := by
  rw [FanStopped, FanStopped, st.fanStatus, st.getVal untouched]

theorem MainHeatForced.within (st : Within writes s t)
    (untouched : ∀ i ∈ [Reg.sensor1AbnormalAlarm, Reg.outStTpHighAlarm,
      Reg.rSyncMotorControlPara], i ∉ writes) : MainHeatForced t ↔ MainHeatForced s := by
  rw [MainHeatForced, MainHeatForced, st.getVal (untouched _ (by simp)),
    st.getVal (untouched _ (by simp)), FanStopped.within st (untouched _ (by simp))]

theorem AuxHeatForced.within (st : Within writes s t)
    (untouched : ∀ i ∈ [Reg.outStTpHighAlarm, Reg.rSyncMotorControlPara], i ∉ writes) :
    AuxHeatForced t ↔ AuxHeatForced s := by
  rw [AuxHeatForced, AuxHeatForced, st.getVal (untouched _ (by simp)),
    FanStopped.within st (untouched _ (by simp))]

@[simp] theorem within_switchOutput {output : Nat} {held forced : Prop} [Decidable held]
    [Decidable forced] (allowed : output ∈ writes) :
    Within writes s (switchOutput output held forced status t) ↔ Within writes s t := by
  simp [switchOutput, allowed]

@[simp] theorem getVal_switchOutput (output : Nat) (held forced : Prop) [Decidable held]
    [Decidable forced] (status : Int) (s : Incubator) :
    (switchOutput output held forced status s).getVal output =
      if held then s.getVal output else if forced then 0 else short status := by
  simp only [switchOutput, apply_ite (Incubator.getVal · output), getVal_setVal_self]
  rfl

@[simp] theorem within_controlRunLight (allowed : Reg.controlRunLights ∈ writes) :
    Within writes s (controlRunLight status t) ↔ Within writes s t :=
  within_setVal allowed

@[simp] theorem within_controlMainHeat (allowed : Reg.controlMainHeat ∈ writes) :
    Within writes s (controlMainHeat status t) ↔ Within writes s t :=
  within_switchOutput allowed

@[simp] theorem within_controlAuxHeat (allowed : Reg.controlAuxHeat ∈ writes) :
    Within writes s (controlAuxHeat status t) ↔ Within writes s t :=
  within_switchOutput allowed

@[simp] theorem within_controlFan (allowed : Reg.controlFan ∈ writes) :
    Within writes s (controlFan status t) ↔ Within writes s t :=
  within_setVal allowed

@[simp] theorem within_controlColdHotWater (allowed : Reg.controlColdHotWater ∈ writes) :
    Within writes s (controlColdHotWater status t) ↔ Within writes s t :=
  within_setVal allowed

@[simp] theorem within_controlBlower (allowed : Reg.controlBlower ∈ writes) :
    Within writes s (controlBlower status t) ↔ Within writes s t :=
  within_switchOutput allowed

@[simp] theorem within_controlCool (allowed : Reg.controlCool ∈ writes) :
    Within writes s (controlCool status t) ↔ Within writes s t :=
  within_switchOutput allowed

@[simp] theorem within_controlSpray (allowed : Reg.controlSpray ∈ writes) :
    Within writes s (controlSpray status t) ↔ Within writes s t :=
  within_switchOutput allowed

/-- The output of each return-water valve. -/
abbrev cool2Output (type : Nat) : Nat := Reg.controlCool2Init + type

@[simp] theorem within_controlCool2 {type : Nat} (allowed : cool2Output type ∈ writes) :
    Within writes s (controlCool2 type status t) ↔ Within writes s t := by
  match type with
  | 1 => exact within_switchOutput allowed
  | 2 => exact within_switchOutput allowed
  | 3 => exact within_switchOutput allowed
  | 4 =>
      have valve : Reg.controlCool2_4 ∈ writes := allowed
      simp [controlCool2, controlCool2_4, valve]
  | 0 => rfl
  | n + 5 => rfl

@[simp] theorem within_controlOpenDamper (opened : Reg.controlDamperOpen ∈ writes)
    (closed : Reg.controlDamperClose ∈ writes) :
    Within writes s (controlOpenDamper status t) ↔ Within writes s t := by
  simp [controlOpenDamper, opened, closed]

@[simp] theorem within_controlCloseDamper {schedule : Int}
    (opened : Reg.controlDamperOpen ∈ writes) (closed : Reg.controlDamperClose ∈ writes) :
    Within writes s (controlCloseDamper status schedule t) ↔ Within writes s t := by
  simp [controlCloseDamper, opened, closed]

@[simp] theorem within_controlDamper {type schedule : Int}
    (opened : Reg.controlDamperOpen ∈ writes) (closed : Reg.controlDamperClose ∈ writes) :
    Within writes s (controlDamper type status schedule t) ↔ Within writes s t := by
  simp [controlDamper, opened, closed]

end

end Jincubator
