import Jincubator.Alarm
import Jincubator.Library.Run
import Jincubator.Temperature

/-! # Rejected main temperature

A reading above fifty degrees is stored as minus one. The main heater looks at
the sensor alarm, so it stays off from then on; the auxiliary heater does not,
and minus one lies below every usual threshold. It stays off exactly as long as
the high-temperature alarm, the fan or the threshold itself forbids it.
-/

namespace Jincubator

open Incubator Run

/-- Acquisition has rejected the main temperature, and no heater is under test. -/
structure Rejected (s : Incubator) : Prop where
  alarm : s.getUval Reg.sensor1AbnormalAlarm = on
  reading : s.getUval Reg.rAiTpMain = 0xffff
  mainHeat : s.getVal Reg.testMainHeatMode = off
  auxHeat : s.getVal Reg.testAuxHeatMode = off

def HeatersOff (s : Incubator) : Prop :=
  s.getVal Reg.controlMainHeat = off ∧ s.getVal Reg.controlAuxHeat = off

instance (s : Incubator) : Decidable (HeatersOff s) :=
  inferInstanceAs (Decidable (_ ∧ _))

/-- Something other than the sensor alarm keeps the auxiliary heater off. -/
def AuxHeatKeptOff (s : Incubator) : Prop :=
  AuxHeatForced s ∨ s.getVal Reg.pAoTpMain - s.getVal Reg.pAuh ≤ -1

/-- What happens while every reading is rejected. -/
inductive OverTempEvent where
  | tempAlarm
  | logicProcessTempFunc
  | reading (value : Int) (high : value > 0x1388)

def overTempStep (s : Incubator) : OverTempEvent → Incubator
  | .tempAlarm => tempAlarm s
  | .logicProcessTempFunc => logicProcessTempFunc s
  | .reading value _ => publishReading 0 value s

section

variable {s : Incubator}

theorem Rejected.within {writes : List Nat} {t : Incubator} (st : Within writes s t)
    (untouched : ∀ i ∈ [Reg.sensor1AbnormalAlarm, Reg.rAiTpMain, Reg.testMainHeatMode,
      Reg.testAuxHeatMode], i ∉ writes) (rejected : Rejected s) : Rejected t where
  alarm := (st.getUval (untouched _ (by simp))).trans rejected.alarm
  reading := (st.getUval (untouched _ (by simp))).trans rejected.reading
  mainHeat := (st.getVal (untouched _ (by simp))).trans rejected.mainHeat
  auxHeat := (st.getVal (untouched _ (by simp))).trans rejected.auxHeat

/-- A reading above the limit leaves the alarm and minus one behind. -/
theorem rejected_publishReading {value : Int} (high : value > 0x1388)
    (mainHeat : s.getVal Reg.testMainHeatMode = off)
    (auxHeat : s.getVal Reg.testAuxHeatMode = off) : Rejected (publishReading 0 value s) := by
  have written : publishReading 0 value s =
      setVal Reg.rAiTpMain 0xffff
        (setVal Reg.pEditTpMain 0 (setVal Reg.sensor1AbnormalAlarm on s)) := by
    simp [publishReading, high, setUval_eq]
  rw [written]
  constructor
  · rw [getUval_setVal_of_ne _ _ (by decide), getUval_setVal_of_ne _ _ (by decide),
      getUval_setVal_self]
    rfl
  · rw [getUval_setVal_self]
    rfl
  · simpa (disch := decide) only [getVal_setVal_of_ne] using mainHeat
  · simpa (disch := decide) only [getVal_setVal_of_ne] using auxHeat

theorem rejected_step (s : Incubator) (e : OverTempEvent) (rejected : Rejected s) :
    Rejected (overTempStep s e) := by
  cases e with
  | tempAlarm => exact rejected.within (tempAlarm_within s) (by decide)
  | logicProcessTempFunc => exact rejected.within (logicProcessTempFunc_within s) (by decide)
  | reading value high => exact rejected_publishReading high rejected.mainHeat rejected.auxHeat

/-- The rejected reading is minus one for every comparison. -/
theorem Rejected.getVal (rejected : Rejected s) : s.getVal Reg.rAiTpMain = -1 := by
  rw [getVal_eq_short, rejected.reading]
  rfl

/-- The sensor alarm keeps the main heater off. -/
theorem mainHeat_of_rejected (rejected : Rejected s) :
    (logicProcessTempFunc s).getVal Reg.controlMainHeat = 0 := by
  have alarm : s.getVal Reg.sensor1AbnormalAlarm = on := by
    rw [getVal_eq_short, rejected.alarm]
    rfl
  have forced : MainHeatForced s := Or.inl (by rw [alarm]; decide)
  rw [mainHeat_logic s rejected.mainHeat, if_pos forced]

theorem heatersOff_logic (rejected : Rejected s) :
    HeatersOff (logicProcessTempFunc s) ↔ AuxHeatKeptOff s := by
  rw [HeatersOff, mainHeat_of_rejected rejected, auxHeat_logic s rejected.auxHeat,
    rejected.getVal, AuxHeatKeptOff]
  by_cases forced : AuxHeatForced s
  · simp [forced]
  rw [if_neg forced, or_iff_right forced, ← not_lt]
  split_ifs with cold <;> simp [cold]

end

/-- Along every run of rejected readings both heaters are off after each call of the control
function exactly if something else keeps the auxiliary heater off before each call. -/
theorem heatersOff_iff_auxHeatKeptOff (s : Incubator) (rejected : Rejected s)
    (es : List OverTempEvent) :
    Along overTempStep (fun _ e t => e = .logicProcessTempFunc → HeatersOff t) s es ↔
      Along overTempStep (fun s e _ => e = .logicProcessTempFunc → AuxHeatKeptOff s) s es := by
  refine along_congr rejected_step ?_ rejected es
  intro s e rejected
  refine forall_congr' ?_
  rintro rfl
  exact heatersOff_logic rejected

/-- The set point is 37.80 degrees, the auxiliary heater starts 0.40 degrees below it, and the
reading has just been rejected. -/
def rejectedStart : Incubator :=
  publishReading 0 5001 (cleared |> setVal Reg.pAoTpMain 3780 |> setVal Reg.pAuh 40)

theorem heatersOff_iff_auxHeatKeptOff_start :
    Along overTempStep (fun _ e t => e = .logicProcessTempFunc → HeatersOff t) rejectedStart
        [.tempAlarm, .logicProcessTempFunc] ↔
      Along overTempStep (fun s e _ => e = .logicProcessTempFunc → AuxHeatKeptOff s)
        rejectedStart [.tempAlarm, .logicProcessTempFunc] :=
  heatersOff_iff_auxHeatKeptOff rejectedStart
    (rejected_publishReading (by decide) (by decide) (by decide)) _

/-- The auxiliary heater comes on. -/
theorem rejected_auxHeat_on : ¬ ∀ s, Rejected s → ∀ es,
    Along overTempStep (fun _ e t => e = .logicProcessTempFunc → HeatersOff t) s es := by
  intro safe
  have rejected : Rejected rejectedStart :=
    rejected_publishReading (by decide) (by decide) (by decide)
  have off := (safe rejectedStart rejected [.logicProcessTempFunc]).1 rfl
  rw [overTempStep, heatersOff_logic rejected] at off
  exact absurd off (by simp only [AuxHeatKeptOff, AuxHeatForced, FanStopped]; decide)

end Jincubator
