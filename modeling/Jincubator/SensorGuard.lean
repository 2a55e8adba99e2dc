import Jincubator.Channels

/-! # The valve of a rejected sensor

The main heater and the humidifier are turned off while their sensor is rejected.
The return-water valves are not: their functions return before anything is
stored, so a valve stays as it was when its sensor failed.
-/

namespace Jincubator

open Incubator

section

variable {s : Incubator} {status : Int}

/-- The valve of a rejected sensor takes no command. -/
theorem controlCool2_rejected (i : Fin 4) (rejected : s.getVal (cool2Sensor i) ≠ 0) :
    controlCool2 (i + 1) status s = s := by
  match i with
  | 0 => exact if_pos (Or.inr rejected)
  | 1 => exact if_pos (Or.inr rejected)
  | 2 => exact if_pos (Or.inr rejected)
  | 3 =>
      show controlCool2_4 status s = s
      rw [controlCool2_4, if_pos (show s.getVal Reg.sensor6AbnormalAlarm ≠ 0 from rejected),
        ite_self]

theorem cool2_registers (i : Fin 4) :
    cool2Valve i ∈ valveRegisters ∧ cool2Sensor i ∈ valveRegisters := by
  match i with
  | 0 | 1 | 2 | 3 => decide

theorem mainHeat_rejected (rejected : s.getVal Reg.sensor1AbnormalAlarm ≠ 0)
    (untested : s.getVal Reg.testMainHeatMode = off) :
    (controlMainHeat status s).getVal Reg.controlMainHeat = off := by
  have forced : MainHeatForced s := Or.inl rejected
  rw [controlMainHeat, getVal_switchOutput, if_neg (not_not.mpr untested), if_pos forced]

theorem spray_rejected (rejected : s.getVal Reg.sensor2AbnormalAlarm ≠ 0)
    (untested : s.getVal Reg.testSprayMode = off) :
    (controlSpray status s).getVal Reg.controlSpray = off := by
  rw [controlSpray, getVal_switchOutput, if_neg (not_not.mpr untested),
    if_pos (Or.inl rejected)]

end

/-- After a call that gives its valve a command, the valve of a rejected sensor is off exactly if
it was off before. -/
theorem rejected_off_iff (kind : RetempKind) (i : Fin 4) (s : Incubator)
    (rejected : s.getVal (cool2Sensor i) = on) (commanded : Commanded kind i s) :
    (retempFunc kind i s).getVal (cool2Valve i) = off ↔ s.getVal (cool2Valve i) = off := by
  obtain ⟨valve, sensor⟩ := cool2_registers i
  obtain ⟨status, command⟩ := commanded
  obtain ⟨t, dry, call⟩ := retempFunc_command kind i s
  have kept : t.getVal (cool2Sensor i) ≠ 0 := by
    rw [dry.getVal (Reflux.dry_writes i _ sensor), rejected]
    decide
  have ignored : retempFunc kind i s = t := by
    rw [call, command]
    exact controlCool2_rejected i kept
  rw [ignored, dry.getVal (Reflux.dry_writes i _ valve)]

/-- The first valve is open when its sensor is rejected and its channel is no longer enabled. -/
def openValveStart : Incubator :=
  cleared |> setVal Reg.controlCool2_1 on |> setVal Reg.sensor3AbnormalAlarm on

theorem openValveStart_commanded : Commanded .normal 0 openValveStart :=
  ⟨off, by decide⟩

theorem rejected_off_iff_start :
    (retempFunc .normal 0 openValveStart).getVal (cool2Valve 0) = off ↔
      openValveStart.getVal (cool2Valve 0) = off :=
  rejected_off_iff .normal 0 openValveStart (by decide) openValveStart_commanded

/-- The valve stays open. -/
theorem rejected_valve_stays_open :
    ¬ ∀ kind i s, s.getVal (cool2Sensor i) = on → s.getVal (cool2Test i) = off →
      Commanded kind i s → (retempFunc kind i s).getVal (cool2Valve i) = off := by
  intro law
  have closed := law .normal 0 openValveStart (by decide) (by decide) openValveStart_commanded
  exact absurd closed (by decide)

end Jincubator
