import Jincubator.HumidityDivision
import Jincubator.ReturnWater

/-! # Fan guard of the control pass

While the inverter reports that the fan does not run, every heating, cooling and
spraying output is asked to stay off. The guard of the fourth return-water valve
falls through, so a pass opens that valve exactly when its channel asks for it. A pass
that divides by zero ends the process before it comes to the channels.
-/

namespace Jincubator

open Arithmetic Incubator

/-! ## The passes -/

/-- One pass over the four channels, with the choice between cold and hot water of each. -/
def channels (cold : Nat → Incubator → Prop) [∀ channel s, Decidable (cold channel s)]
    (s : Incubator) : Incubator :=
  let s := reflux1.logicProcessRetemp (cold 0 s) s
  let s := reflux2.logicProcessRetemp (cold 1 s) s
  let s := reflux3.logicProcessRetemp (cold 2 s) s
  reflux4.logicProcessRetemp (cold 3 s) s

/-- The running incubator chooses by the day. -/
def normalCold (_channel : Nat) (s : Incubator) : Prop := ColdDay s

/-- Preheating chooses by the set difference of the channel. -/
def preCold (channel : Nat) (s : Incubator) : Prop := s.getFval (Reg.pPreTpRf1 + 100 * channel) > 0

instance (channel : Nat) (s : Incubator) : Decidable (normalCold channel s) :=
  inferInstanceAs (Decidable (ColdDay s))

instance (channel : Nat) (s : Incubator) : Decidable (preCold channel s) :=
  inferInstanceAs (Decidable (_ > _))

/-- The control pass of the start mode. -/
def startPass (s : Incubator) : Option Incubator := do
  let s ← logicProcessTempFuncWith (noZeroDivide intHalf) s
  let s ← logicProcessHumiFuncWith (noZeroDivide intHalf) s
  return normalRetemp s

/-- The control pass while preheating. -/
def preheatPass (s : Incubator) : Option Incubator := do
  let s ← logicProcessTempFuncWith (noZeroDivide intHalf) s
  let s ← logicProcessHumiFuncWith (noZeroDivide intHalf) s
  return preRetemp s

/-! ## Outputs that stay off -/

/-- The fan guard holds and the output is off. -/
def Quiet (output : Nat) (s : Incubator) : Prop :=
  FanStopped s ∧ s.getVal output = off

section

variable {s t : Incubator} {output i : Nat} {status v : Int}

theorem Quiet.within {writes : List Nat} (st : Within writes s t)
    (para : Reg.rSyncMotorControlPara ∉ writes) (untouched : output ∉ writes) :
    Quiet output t ↔ Quiet output s := by
  rw [Quiet, Quiet, FanStopped.within st para, st.getVal untouched]

theorem quiet_ite {c : Prop} [Decidable c] :
    Quiet output (if c then s else t) ↔ if c then Quiet output s else Quiet output t := by
  split <;> rfl

theorem quiet_setVal (para : Reg.rSyncMotorControlPara ≠ i) (other : output ≠ i) :
    Quiet output (setVal i v s) ↔ Quiet output s :=
  Quiet.within (put_within s i _) (by simpa using para) (by simpa using other)

theorem quiet_setUval (para : Reg.rSyncMotorControlPara ≠ i) (other : output ≠ i) :
    Quiet output (setUval i v s) ↔ Quiet output s :=
  quiet_setVal para other

theorem quiet_setInt (para : ∀ j ∈ [i, i + 1], Reg.rSyncMotorControlPara ≠ j ∧ output ≠ j) :
    Quiet output (setInt i v s) ↔ Quiet output s := by
  have high := para i (by simp)
  have low := para (i + 1) (by simp)
  rw [setInt_eq, quiet_setVal low.1 low.2, quiet_setVal high.1 high.2]

/-- A guard that looks at the fan either holds its output or turns it off. -/
theorem quiet_switchOutput {switched : Nat} {held forced : Prop} [Decidable held]
    [Decidable forced] (quiet : Quiet output s) (para : Reg.rSyncMotorControlPara ≠ switched)
    (guarded : FanStopped s → forced) :
    Quiet output (switchOutput switched held forced status s) := by
  have kept : Within [switched] s (switchOutput switched held forced status s) := by
    simp only [within_switchOutput List.mem_cons_self, Within.refl]
  refine ⟨(FanStopped.within kept (by simpa using para)).mpr quiet.1, ?_⟩
  by_cases own : output = switched
  · subst own
    rw [getVal_switchOutput, if_pos (guarded quiet.1), quiet.2, ite_self]
  · exact (kept.getVal (by simpa using own)).trans quiet.2

theorem quiet_controlSpray (quiet : Quiet output s) : Quiet output (controlSpray status s) :=
  quiet_switchOutput quiet (by decide) fun stopped => Or.inr (Or.inr stopped)

/-- The valves of the first three channels have the guard, and the fourth is another output. -/
theorem quiet_controlCool2 (quiet : Quiet output s) (other : output ≠ Reg.controlCool2_4)
    (type : Nat) : Quiet output (controlCool2 type status s) := by
  match type with
  | 1 => exact quiet_switchOutput quiet (by decide) id
  | 2 => exact quiet_switchOutput quiet (by decide) id
  | 3 => exact quiet_switchOutput quiet (by decide) id
  | 4 =>
      have kept : Within [Reg.controlCool2_4] s (controlCool2 4 status s) := by
        simp (disch := decide) only [within_controlCool2, Within.refl]
      exact (Quiet.within kept (by decide) (by simpa using other)).mpr quiet
  | 0 => exact quiet
  | n + 5 => exact quiet

/-! ## Return-water channels -/

namespace Reflux

/-- The registers of a channel other than its valves. -/
def Apart (c : Reflux) (output : Nat) : Prop :=
  ∀ i ∈ [c.workTime, c.stopTime, c.workCycle, c.hotInit, c.coldInit],
    Reg.rSyncMotorControlPara ≠ i ∧ output ≠ i

instance (c : Reflux) (output : Nat) : Decidable (c.Apart output) :=
  inferInstanceAs (Decidable (∀ _ ∈ _, _))

variable {c : Reflux} {init workValve : Nat}

theorem quiet_water {demanded : Prop} [Decidable demanded] (quiet : Quiet output s)
    (apart : c.Apart output) (other : output ≠ Reg.controlCool2_4)
    (kind : init = c.hotInit ∨ init = c.coldInit) :
    Quiet output (c.water demanded init workValve s) := by
  simp only [Apart, List.forall_mem_cons, List.not_mem_nil, false_imp_iff, implies_true,
    and_true] at apart
  obtain ⟨work, stop, cycle, hot, cold⟩ := apart
  have own : Reg.rSyncMotorControlPara ≠ init ∧ output ≠ init := by
    rcases kind with rfl | rfl
    · exact hot
    · exact cold
  have begun (t : Incubator) : Quiet output (c.beginPulse init t) ↔ Quiet output t := by
    simp only [beginPulse, quiet_ite, quiet_setUval own.1 own.2, quiet_setUval work.1 work.2,
      quiet_setUval cycle.1 cycle.2, ite_self]
  have ended (t : Incubator) : Quiet output (c.endPulse init t) ↔ Quiet output t := by
    simp only [endPulse, quiet_ite, quiet_setUval own.1 own.2, quiet_setUval stop.1 stop.2,
      ite_self]
  have idle {t : Incubator} (quiet : Quiet output t) : Quiet output (c.idlePulse init t) := by
    simp only [idlePulse, quiet_ite, quiet_setUval own.1 own.2, quiet_setUval work.1 work.2,
      quiet_setUval cycle.1 cycle.2, quiet_controlCool2 quiet other, quiet, ite_self]
  have pulse {t : Incubator} (quiet : Quiet output t) :
      Quiet output (c.pulseValve init workValve t) := by
    simp only [pulseValve, quiet_ite, quiet_controlCool2 quiet other, idle ((ended t).mpr quiet),
      ite_self]
  simp only [water, quiet_ite, pulse ((begun s).mpr quiet), quiet_setUval own.1 own.2,
    quiet_controlCool2 quiet other, ite_self]

/-- A channel leaves an output off, unless it is the fourth valve. -/
theorem quiet_logicProcessRetemp {cold : Prop} [Decidable cold] (quiet : Quiet output s)
    (apart : c.Apart output) (other : output ≠ Reg.controlCool2_4)
    (switch : output ≠ Reg.controlColdHotWater) :
    Quiet output (c.logicProcessRetemp cold s) := by
  have cleared (init : Nat) (kind : init = c.hotInit ∨ init = c.coldInit) (status : Int) :
      Quiet output (controlColdHotWater status (setUval init 0 s)) := by
    have own : Reg.rSyncMotorControlPara ≠ init ∧ output ≠ init := by
      rcases kind with rfl | rfl <;> exact apart _ (by simp)
    rwa [controlColdHotWater, quiet_setVal (by decide) switch, quiet_setUval own.1 own.2]
  have coldWater : Quiet output (c.coldWater s) := by
    simp only [Reflux.coldWater, quiet_ite, cleared c.hotInit (.inl rfl), ite_self,
      quiet_water (cleared c.hotInit (.inl rfl) off) apart other (.inr rfl)]
  have hotWater : Quiet output (c.hotWater s) := by
    simp only [Reflux.hotWater, quiet_ite, cleared c.coldInit (.inr rfl), ite_self,
      quiet_water (cleared c.coldInit (.inr rfl) on) apart other (.inl rfl)]
  simp only [logicProcessRetemp, quiet_ite, coldWater, hotWater, quiet_controlCool2 quiet other,
    ite_self]

end Reflux

/-- The valves of the first three channels stay off during a pass over all channels. -/
theorem quiet_channels {cold : Nat → Incubator → Prop}
    [∀ channel s, Decidable (cold channel s)]
    (valve : output ∈ [Reg.controlCool2_1, Reg.controlCool2_2, Reg.controlCool2_3])
    (quiet : Quiet output s) : Quiet output (channels cold s) := by
  have apart : ∀ c ∈ [reflux1, reflux2, reflux3, reflux4],
      ∀ output ∈ [Reg.controlCool2_1, Reg.controlCool2_2, Reg.controlCool2_3], c.Apart output := by
    decide
  have other : output ≠ Reg.controlCool2_4 := by
    rintro rfl
    exact absurd valve (by decide)
  have switch : output ≠ Reg.controlColdHotWater := by
    rintro rfl
    exact absurd valve (by decide)
  have step {s : Incubator} {cold : Prop} [Decidable cold] (c : Reflux)
      (mem : c ∈ [reflux1, reflux2, reflux3, reflux4]) (quiet : Quiet output s) :
      Quiet output (c.logicProcessRetemp cold s) :=
    Reflux.quiet_logicProcessRetemp quiet (apart c mem output valve) other switch
  exact step reflux4 (by simp) (step reflux3 (by simp) (step reflux2 (by simp)
    (step reflux1 (by simp) quiet)))

/-- The humidifier stays off during the humidity control. -/
theorem quiet_logicProcessHumiFunc (quiet : Quiet Reg.controlSpray s) :
    Quiet Reg.controlSpray (logicProcessHumiFunc s) := by
  have leave (t : Incubator) : Quiet Reg.controlSpray (leaveHumiRange t) ↔
      Quiet Reg.controlSpray t := by
    have kept : Within [Reg.pidHumiSum, Reg.pidHumiSum + 1, Reg.pidPeriodCountHumi,
        Reg.pidPeriodCountHumi + 1] t (leaveHumiRange t) := by
      simp (disch := decide) only [leaveHumiRange, within_setInt, Within.refl]
    exact Quiet.within kept (by decide) (by decide)
  have loop : Quiet Reg.controlSpray (pidHumiInit s) :=
    (Quiet.within (pidHumiInit_within s) (by decide +kernel) (by decide +kernel)).mpr quiet
  have period (current limit : Int) {t : Incubator} (quiet : Quiet Reg.controlSpray t) :
      Quiet Reg.controlSpray (humiPeriod current limit t) := by
    simp (disch := decide) only [humiPeriod, setTime_eq, quiet_ite, quiet_setInt,
      quiet_controlSpray quiet, quiet, ite_self]
  simp only [logicProcessHumiFunc, quiet_ite, leave, quiet_controlSpray quiet,
    period _ _ loop, quiet, ite_self]

end

/-! ## The fourth valve -/

/-- The cycle and the working time that the pulses of a demand start from. -/
def Reflux.cycleNow (c : Reflux) (init : Nat) (s : Incubator) : Int :=
  if s.getUval init = 0 then 0 else s.getUval c.workCycle

def Reflux.workNow (c : Reflux) (init : Nat) (s : Incubator) : Int :=
  if s.getUval init = 0 then s.getUval Reg.pRtempGzs else s.getUval c.workTime

theorem Reflux.beginPulse_workCycle {c : Reflux} {init : Nat} (apart : c.workCycle ≠ init)
    (s : Incubator) : (c.beginPulse init s).getUval c.workCycle = c.cycleNow init s := by
  rw [beginPulse, cycleNow]
  split
  · rw [setUval_eq, setUval_eq, getUval_setVal_of_ne _ _ apart, getUval_setVal_self]
    rfl
  · rfl

theorem Reflux.beginPulse_workTime {c : Reflux} {init : Nat} (apart : c.workTime ≠ init)
    (other : c.workTime ≠ c.workCycle) (s : Incubator) :
    (c.beginPulse init s).getUval c.workTime = c.workNow init s := by
  rw [beginPulse, workNow]
  split
  · rw [setUval_eq, setUval_eq, setUval_eq, getUval_setVal_of_ne _ _ apart,
      getUval_setVal_of_ne _ _ other, getUval_setVal_self, ushort_getUval]
  · rfl

/-- The fourth channel asks for its own valve: cold water does so only after the pulses, since
the pulses open the first valve. -/
def FourthValveAsked (cold : Prop) (s : Incubator) : Prop :=
  s.reg Reg.refluxTemperature &&& reflux4.mask ≠ 0 ∧ s.getUval reflux4.delayTime = 0 ∧
    ((cold ∧ s.getUval reflux4.current > ushort (s.getVal reflux4.setting) ∧
        s.getUval Reg.pRtempZqc ≤ reflux4.cycleNow reflux4.coldInit s) ∨
      (¬cold ∧ s.getUval reflux4.current < ushort (s.getVal reflux4.setting) ∧
        (s.getUval Reg.pRtempZqc ≤ reflux4.cycleNow reflux4.hotInit s ∨
          0 < reflux4.workNow reflux4.hotInit s)))

instance (cold : Prop) [Decidable cold] (s : Incubator) : Decidable (FourthValveAsked cold s) :=
  inferInstanceAs (Decidable (_ ∧ _ ∧ (_ ∨ _)))

/-- Neither the test mode nor the sensor holds the fourth valve, and it is off. -/
structure FourthValveFree (s : Incubator) : Prop where
  test : s.getVal Reg.testCool2_4Mode = off
  sensor : s.getVal Reg.sensor6AbnormalAlarm = off
  valve : s.getVal Reg.controlCool2_4 = off

section

variable {s t : Incubator} {init workValve : Nat} {status : Int}

theorem FourthValveFree.within {writes : List Nat} (st : Within writes s t)
    (untouched : ∀ i ∈ [Reg.testCool2_4Mode, Reg.sensor6AbnormalAlarm, Reg.controlCool2_4],
      i ∉ writes) (free : FourthValveFree s) : FourthValveFree t where
  test := (st.getVal (untouched _ (by simp))).trans free.test
  sensor := (st.getVal (untouched _ (by simp))).trans free.sensor
  valve := (st.getVal (untouched _ (by simp))).trans free.valve

/-- The guard of the fan has no effect here. -/
theorem getVal_controlCool2_4 (free : FourthValveFree s) :
    (controlCool2 4 status s).getVal Reg.controlCool2_4 = short status := by
  rw [controlCool2, controlCool2_4, if_neg (not_not.mpr free.test),
    if_neg (not_not.mpr free.sensor), getVal_setVal_self]

/-- The idle part of a pulse never opens the fourth valve. -/
theorem fourthValve_idlePulse (free : FourthValveFree s)
    (kind : init = reflux4.hotInit ∨ init = reflux4.coldInit) :
    (reflux4.idlePulse init s).getVal Reg.controlCool2_4 = off := by
  rw [Reflux.idlePulse]
  split
  · exact getVal_controlCool2_4 free
  · have kept : Within [reflux4.workTime, reflux4.workCycle, init] s
        (if s.getUval init = 2 then
          s |> setUval reflux4.workTime (s.getUval Reg.pRtempGzs)
            |> setUval reflux4.workCycle (s.getUval reflux4.workCycle + 1)
            |> setUval init 1
        else s) := by simp
    exact (kept.getVal (by rcases kind with rfl | rfl <;> decide)).trans free.valve

/-- Pulsing opens the given valve while it works and the fourth one after the last cycle. -/
theorem fourthValve_pulseValve (free : FourthValveFree s)
    (first : workValve = reflux4.coldValve ∨ workValve = reflux4.valve)
    (kind : init = reflux4.hotInit ∨ init = reflux4.coldInit) :
    (reflux4.pulseValve init workValve s).getVal Reg.controlCool2_4 = on ↔
      s.getUval Reg.pRtempZqc ≤ s.getUval reflux4.workCycle ∨
        (0 < s.getUval reflux4.workTime ∧ workValve = reflux4.valve) := by
  rw [Reflux.pulseValve]
  by_cases cycling : s.getUval reflux4.workCycle < s.getUval Reg.pRtempZqc
  · rw [if_pos cycling, or_iff_right (not_le.mpr cycling)]
    by_cases working : s.getUval reflux4.workTime > 0
    · rw [if_pos working, and_iff_right working]
      rcases first with rfl | rfl
      · have kept : Within [Reg.controlCool2_1] s (controlCool2 1 on s) := by
          simp (disch := decide) only [within_controlCool2, Within.refl]
        have dry : (controlCool2 1 on s).getVal Reg.controlCool2_4 = off :=
          (kept.getVal (by decide)).trans free.valve
        rw [show reflux4.coldValve = 1 from rfl, dry]
        decide
      · rw [show reflux4.valve = 4 from rfl, getVal_controlCool2_4 free]
        decide
    · have ended : Within [reflux4.stopTime, init] s (reflux4.endPulse init s) := by
        simp [Reflux.endPulse]
      have free : FourthValveFree (reflux4.endPulse init s) :=
        free.within ended (by rcases kind with rfl | rfl <;> decide)
      rw [if_neg working, iff_false_right fun both => working both.1,
        fourthValve_idlePulse free kind]
      decide
  · rw [if_neg cycling, iff_true_right (Or.inl (not_lt.mp cycling)),
      show reflux4.valve = 4 from rfl, getVal_controlCool2_4 free]
    rfl

/-- A demand starts from the present cycle and working time. -/
theorem fourthValve_water {demanded : Prop} [Decidable demanded] (free : FourthValveFree s)
    (first : workValve = reflux4.coldValve ∨ workValve = reflux4.valve)
    (kind : init = reflux4.hotInit ∨ init = reflux4.coldInit) :
    (reflux4.water demanded init workValve s).getVal Reg.controlCool2_4 = on ↔
      demanded ∧ (s.getUval Reg.pRtempZqc ≤ reflux4.cycleNow init s ∨
        (0 < reflux4.workNow init s ∧ workValve = reflux4.valve)) := by
  rw [Reflux.water]
  by_cases asked : demanded
  · have begun : Within [reflux4.workTime, reflux4.workCycle, init] s
        (reflux4.beginPulse init s) := by
      simp [Reflux.beginPulse]
    have free : FourthValveFree (reflux4.beginPulse init s) :=
      free.within begun (by rcases kind with rfl | rfl <;> decide)
    have limit : (reflux4.beginPulse init s).getUval Reg.pRtempZqc = s.getUval Reg.pRtempZqc :=
      begun.getUval (by rcases kind with rfl | rfl <;> decide)
    have cycle : (reflux4.beginPulse init s).getUval reflux4.workCycle =
        reflux4.cycleNow init s :=
      Reflux.beginPulse_workCycle (by rcases kind with rfl | rfl <;> decide) s
    have work : (reflux4.beginPulse init s).getUval reflux4.workTime =
        reflux4.workNow init s :=
      Reflux.beginPulse_workTime (by rcases kind with rfl | rfl <;> decide) (by decide) s
    rw [if_pos asked, fourthValve_pulseValve free first kind, limit, cycle, work,
      and_iff_right asked]
  · have apart : Reg.controlCool2_4 ≠ init := by rcases kind with rfl | rfl <;> decide
    rw [if_neg asked, setUval_eq, getVal_setVal_of_ne _ _ apart,
      show reflux4.valve = 4 from rfl, getVal_controlCool2_4 free,
      iff_false_right fun both => asked both.1]
    decide

theorem Reflux.cycleNow_within {writes : List Nat} {c : Reflux} (st : Within writes s t)
    (untouched : init ∉ writes ∧ c.workCycle ∉ writes) : c.cycleNow init t = c.cycleNow init s := by
  rw [cycleNow, cycleNow, st.getUval untouched.1, st.getUval untouched.2]

theorem Reflux.workNow_within {writes : List Nat} {c : Reflux} (st : Within writes s t)
    (untouched : init ∉ writes ∧ c.workTime ∉ writes ∧ Reg.pRtempGzs ∉ writes) :
    c.workNow init t = c.workNow init s := by
  rw [workNow, workNow, st.getUval untouched.1, st.getUval untouched.2.1,
    st.getUval untouched.2.2]

theorem fourthValve_coldWater (free : FourthValveFree s) :
    (reflux4.coldWater s).getVal Reg.controlCool2_4 = on ↔
      s.getUval reflux4.delayTime = 0 ∧
        s.getUval reflux4.current > ushort (s.getVal reflux4.setting) ∧
        s.getUval Reg.pRtempZqc ≤ reflux4.cycleNow reflux4.coldInit s := by
  have switched : Within [reflux4.hotInit, Reg.controlColdHotWater] s
      (controlColdHotWater off (setUval reflux4.hotInit 0 s)) := by
    simp [controlColdHotWater]
  have free := free.within switched (by decide)
  rw [Reflux.coldWater]
  by_cases ready : s.getUval reflux4.delayTime = 0
  · rw [if_pos ((switched.getUval (by decide)).trans ready),
      fourthValve_water free (Or.inl rfl) (Or.inr rfl), and_iff_right ready,
      switched.getUval (by decide), switched.getVal (by decide), switched.getUval (by decide),
      Reflux.cycleNow_within switched (by decide)]
    have other : reflux4.coldValve ≠ reflux4.valve := by decide
    simp only [other, and_false, or_false]
  · rw [if_neg fun t => ready ((switched.getUval (by decide)).symm.trans t), free.valve,
      iff_false_right fun asked => ready asked.1]
    decide

theorem fourthValve_hotWater (free : FourthValveFree s) :
    (reflux4.hotWater s).getVal Reg.controlCool2_4 = on ↔
      s.getUval reflux4.delayTime = 0 ∧
        s.getUval reflux4.current < ushort (s.getVal reflux4.setting) ∧
        (s.getUval Reg.pRtempZqc ≤ reflux4.cycleNow reflux4.hotInit s ∨
          0 < reflux4.workNow reflux4.hotInit s) := by
  have switched : Within [reflux4.coldInit, Reg.controlColdHotWater] s
      (controlColdHotWater on (setUval reflux4.coldInit 0 s)) := by
    simp [controlColdHotWater]
  have free := free.within switched (by decide)
  rw [Reflux.hotWater]
  by_cases ready : s.getUval reflux4.delayTime = 0
  · rw [if_pos ((switched.getUval (by decide)).trans ready),
      fourthValve_water free (Or.inr rfl) (Or.inl rfl), and_iff_right ready,
      switched.getUval (by decide), switched.getVal (by decide), switched.getUval (by decide),
      Reflux.cycleNow_within switched (by decide), Reflux.workNow_within switched (by decide)]
    simp only [and_true]
  · rw [if_neg fun t => ready ((switched.getUval (by decide)).symm.trans t), free.valve,
      iff_false_right fun asked => ready asked.1]
    decide

end

/-- After a pass over the fourth channel its valve is on exactly if it was asked for. -/
theorem fourthValve_logicProcessRetemp {cold : Prop} [Decidable cold] {s : Incubator}
    (free : FourthValveFree s) :
    (reflux4.logicProcessRetemp cold s).getVal Reg.controlCool2_4 = on ↔
      FourthValveAsked cold s := by
  rw [Reflux.logicProcessRetemp, FourthValveAsked]
  by_cases masked : s.reg Reg.refluxTemperature &&& reflux4.mask ≠ 0
  · rw [if_pos masked, and_iff_right masked]
    by_cases cooling : cold
    · simp only [cooling, if_true, fourthValve_coldWater free, true_and, not_true_eq_false,
        false_and, or_false]
    · simp only [cooling, if_false, fourthValve_hotWater free, false_and, false_or,
        not_false_eq_true, true_and]
  · rw [if_neg masked, show reflux4.valve = 4 from rfl, getVal_controlCool2_4 free,
      iff_false_right fun asked => masked asked.1]
    decide

/-! ## The interlock -/

/-- The heating, cooling and spraying outputs that have the guard. -/
def guardedOutputs : List Nat :=
  [Reg.controlMainHeat, Reg.controlAuxHeat, Reg.controlCool, Reg.controlSpray,
    Reg.controlCool2_1, Reg.controlCool2_2, Reg.controlCool2_3]

def fanOutputs : List Nat := guardedOutputs ++ [Reg.controlCool2_4]

/-- The fan is stopped, no output is under test and no return-water sensor is abnormal. -/
structure FanStop (s : Incubator) : Prop where
  stopped : FanStopped s
  tests : ∀ mode ∈ List.range' Reg.testMainHeatMode 11, s.getVal mode = off
  sensors : ∀ alarm ∈ List.range' Reg.sensor3AbnormalAlarm 4, s.getVal alarm = off

/-- The pass returns and writes the output, and writes it on: it is on after the pass although it
was off before. -/
def SwitchesOn (pass : Incubator → Option Incubator) (output : Nat) (s : Incubator) : Prop :=
  ∃ t, pass (setVal output off s) = some t ∧ t.getVal output = on

/-- The control pass over the given choice of cold water. -/
def controlPass (cold : Nat → Incubator → Prop) [∀ channel s, Decidable (cold channel s)]
    (s : Incubator) : Incubator :=
  s |> logicProcessTempFunc |> logicProcessHumiFunc |> channels cold

section

variable {s t : Incubator} {cold : Nat → Incubator → Prop}
  [∀ channel s, Decidable (cold channel s)] {output : Nat}

theorem channels_within : Within retempWrites s (channels cold s) := by
  rw [channels, within_retemp (by decide), within_retemp (by decide), within_retemp (by decide),
    within_retemp (by decide)]
  exact Within.refl _ _

/-- The three outputs of the temperature control are written and come out off. -/
theorem logicTemp_off (stop : FanStop s)
    (mem : output ∈ [Reg.controlMainHeat, Reg.controlAuxHeat, Reg.controlCool]) :
    (logicProcessTempFunc s).getVal output = off := by
  simp only [List.mem_cons, List.not_mem_nil, or_false] at mem
  have mainForced : MainHeatForced s := Or.inr (Or.inr stop.stopped)
  have auxForced : AuxHeatForced s := Or.inr stop.stopped
  rcases mem with rfl | rfl | rfl
  · rw [mainHeat_logic s (stop.tests _ (by decide)), if_pos mainForced]
  · rw [auxHeat_logic s (stop.tests _ (by decide)), if_pos auxForced]
  · rw [cool_logic s (stop.tests _ (by decide)), if_pos stop.stopped]

/-- The guarded outputs stay off during a pass. -/
theorem guarded_off (stop : FanStop s) (mem : output ∈ guardedOutputs)
    (dry : s.getVal output = off) : (controlPass cold s).getVal output = off := by
  have temp := logicProcessTempFunc_within s
  have humi := logicProcessHumiFunc_within (logicProcessTempFunc s)
  rw [controlPass]
  rw [guardedOutputs, List.mem_cons, List.mem_cons, List.mem_cons, List.mem_cons] at mem
  have heated (heat : output ∈ [Reg.controlMainHeat, Reg.controlAuxHeat, Reg.controlCool]) :
      (channels cold (logicProcessHumiFunc (logicProcessTempFunc s))).getVal output = off := by
    have off := logicTemp_off stop heat
    simp only [List.mem_cons, List.not_mem_nil, or_false] at heat
    rcases heat with rfl | rfl | rfl <;>
      rwa [channels_within.getVal (by decide), humi.getVal (by decide +kernel)]
  rcases mem with rfl | rfl | rfl | rfl | valve
  · exact heated (by simp)
  · exact heated (by simp)
  · exact heated (by simp)
  · have quiet : Quiet Reg.controlSpray (logicProcessTempFunc s) :=
      (Quiet.within temp (by decide) (by decide)).mpr ⟨stop.stopped, dry⟩
    rw [channels_within.getVal (by decide)]
    exact (quiet_logicProcessHumiFunc quiet).2
  · have valves : ∀ output ∈ [Reg.controlCool2_1, Reg.controlCool2_2, Reg.controlCool2_3],
        output ∉ logicTempWrites ∧ output ∉ logicHumiWrites := by decide +kernel
    have quiet : Quiet output (logicProcessHumiFunc (logicProcessTempFunc s)) := by
      rw [Quiet.within humi (by decide +kernel) (valves output valve).2,
        Quiet.within temp (by decide) (valves output valve).1]
      exact ⟨stop.stopped, dry⟩
    exact (quiet_channels valve quiet).2

/-- The registers written before the fourth channel, with its own valve. -/
def beforeFourthWrites : List Nat :=
  Reg.controlCool2_4 :: logicTempWrites ++ logicHumiWrites ++ reflux1.writes ++ reflux2.writes ++
    reflux3.writes

theorem fourthValveAsked_within {before after : Prop} (st : Within beforeFourthWrites s t)
    (same : after ↔ before) : FourthValveAsked after t ↔ FourthValveAsked before s := by
  have untouched : ∀ i ∈ [Reg.refluxTemperature, reflux4.delayTime, reflux4.current,
      reflux4.setting, Reg.pRtempZqc, Reg.pRtempGzs, reflux4.workCycle, reflux4.workTime,
      reflux4.hotInit, reflux4.coldInit], i ∉ beforeFourthWrites := by decide +kernel
  simp only [List.forall_mem_cons] at untouched
  obtain ⟨mask, delay, current, setting, limit, work, cycle, time, hot, coldInit, -⟩ := untouched
  simp only [FourthValveAsked, same, st.reg mask, st.getUval delay, st.getUval current,
    st.getVal setting, st.getUval limit, Reflux.cycleNow_within st ⟨hot, cycle⟩,
    Reflux.cycleNow_within st ⟨coldInit, cycle⟩, Reflux.workNow_within st ⟨hot, time, work⟩]

/-- Without the divisors a pass turns the fourth valve on exactly if its channel asks for it. -/
theorem fourthValve_controlPass (stop : FanStop s)
    (steady : ∀ t, Within beforeFourthWrites s t → (cold 3 t ↔ cold 3 s)) :
    (controlPass cold (setVal Reg.controlCool2_4 off s)).getVal Reg.controlCool2_4 = on ↔
      FourthValveAsked (cold 3 s) s := by
  set t := setVal Reg.controlCool2_4 off s with start
  have early : ∃ u, Within (beforeFourthWrites.drop 1) t u ∧
      controlPass cold t = reflux4.logicProcessRetemp (cold 3 u) u := by
    refine ⟨_, ?_, rfl⟩
    rw [within_retemp (by decide +kernel), within_retemp (by decide +kernel),
      within_retemp (by decide +kernel), within_logicProcessHumiFunc (by decide +kernel),
      within_logicProcessTempFunc (by decide +kernel)]
    exact Within.refl _ _
  obtain ⟨u, before, pass⟩ := early
  have free : FourthValveFree t := by
    refine ⟨?_, ?_, getVal_setVal_self s _ _⟩
    · exact (getVal_setVal_of_ne s _ (by decide)).trans (stop.tests _ (by decide))
    · exact (getVal_setVal_of_ne s _ (by decide)).trans (stop.sensors _ (by decide))
  have su : Within beforeFourthWrites s u :=
    ((put_within s _ _).mono (by simp [beforeFourthWrites])).trans
      (before.mono (List.drop_subset 1 _))
  rw [pass, fourthValve_logicProcessRetemp (free.within before (by decide +kernel)),
    fourthValveAsked_within su (steady u su)]

/-- The pass goes on to the channels exactly if it meets no zero divisor. -/
def Passes (pass : Incubator → Option Incubator) (cold : Nat → Incubator → Prop)
    [∀ channel s, Decidable (cold channel s)] : Prop :=
  ∀ s t, pass s = some t ↔ PassDivides s ∧ t = controlPass cold s

theorem startPass_passes : Passes startPass normalCold := controls_return_iff normalRetemp

theorem preheatPass_passes : Passes preheatPass preCold := controls_return_iff preRetemp

variable {pass : Incubator → Option Incubator}

/-- The outputs are no settings. -/
theorem switchesOn_iff (passes : Passes pass cold) (mem : output ∈ fanOutputs) :
    SwitchesOn pass output s ↔
      PassDivides s ∧ (controlPass cold (setVal output off s)).getVal output = on := by
  have apart : ∀ output ∈ fanOutputs, ∀ i ∈ divisorRegisters, i ∉ [output] := by decide
  have divides : PassDivides (setVal output off s) ↔ PassDivides s :=
    PassDivides.within (put_within s output _) (apart output mem)
  simp only [SwitchesOn, passes _ _, divides, and_assoc, exists_and_left, exists_eq_left]

/-- A pass turns the fourth valve on exactly if its channel asks for it. -/
theorem fourthValve_pass (passes : Passes pass cold) (stop : FanStop s)
    (steady : ∀ t, Within beforeFourthWrites s t → (cold 3 t ↔ cold 3 s)) :
    SwitchesOn pass Reg.controlCool2_4 s ↔ PassDivides s ∧ FourthValveAsked (cold 3 s) s := by
  rw [switchesOn_iff passes (by decide), fourthValve_controlPass stop steady]

theorem fanStop_pass (passes : Passes pass cold) (stop : FanStop s)
    (steady : ∀ t, Within beforeFourthWrites s t → (cold 3 t ↔ cold 3 s)) :
    (∀ output ∈ fanOutputs, ¬SwitchesOn pass output s) ↔
      ¬(PassDivides s ∧ FourthValveAsked (cold 3 s) s) := by
  rw [← fourthValve_pass passes stop steady]
  refine ⟨fun none => none _ (by decide), fun dry output mem => ?_⟩
  cases List.mem_append.mp mem with
  | inl guarded =>
      have apart : ∀ output ∈ guardedOutputs, Reg.rSyncMotorControlPara ≠ output ∧
          (∀ mode ∈ List.range' Reg.testMainHeatMode 11, mode ≠ output) ∧
          (∀ alarm ∈ List.range' Reg.sensor3AbnormalAlarm 4, alarm ≠ output) := by decide
      obtain ⟨para, tests, sensors⟩ := apart output guarded
      have start : FanStop (setVal output off s) := by
        refine ⟨?_, ?_, ?_⟩
        · exact (FanStopped.within (put_within s output _) (by simpa using para)).mpr stop.stopped
        · intro mode test
          rw [getVal_setVal_of_ne s _ (tests mode test), stop.tests mode test]
        · intro alarm sensor
          rw [getVal_setVal_of_ne s _ (sensors alarm sensor), stop.sensors alarm sensor]
      rw [switchesOn_iff passes mem, guarded_off start guarded (getVal_setVal_self s _ _)]
      exact fun on => absurd on.2 (by decide)
  | inr valve =>
      rwa [List.mem_singleton.mp valve]

/-- No pass changes what the choice of cold water depends on. -/
theorem normalCold_steady (st : Within beforeFourthWrites s t) :
    normalCold 3 t ↔ normalCold 3 s := by
  rw [normalCold, normalCold, ColdDay, ColdDay, st.getVal (by decide +kernel),
    st.getVal (by decide +kernel)]

theorem preCold_steady (st : Within beforeFourthWrites s t) : preCold 3 t ↔ preCold 3 s := by
  rw [preCold, preCold, getFval, getFval, st.getVal (by decide +kernel)]

end

/-- With the fan stopped neither pass turns an output on exactly if the pass ends on a zero divisor
or the fourth channel does not ask for its valve. -/
theorem fanStop_off_iff (s : Incubator) (stop : FanStop s) :
    ((∀ output ∈ fanOutputs, ¬SwitchesOn startPass output s) ↔
        ¬(PassDivides s ∧ FourthValveAsked (normalCold 3 s) s)) ∧
      ((∀ output ∈ fanOutputs, ¬SwitchesOn preheatPass output s) ↔
        ¬(PassDivides s ∧ FourthValveAsked (preCold 3 s) s)) :=
  ⟨fanStop_pass startPass_passes stop fun _ => normalCold_steady,
    fanStop_pass preheatPass_passes stop fun _ => preCold_steady⟩

/-- The inverter reports a stop, and hot water is demanded in the fourth channel; no divisor is
zero. -/
def fanStopStart : Incubator :=
  { cleared with fanStatus := 1 } |> setVal Reg.refluxTemperature 8 |> setVal Reg.pAoTpRf4 3780
    |> setVal Reg.pPreTpRf1Day 1 |> setVal Reg.pHhi 80 |> setVal Reg.pHlo 55
    |> setVal Reg.sSyncMotorStage 1

theorem fanStopStart_fanStop : FanStop fanStopStart := ⟨by decide, by decide, by decide⟩

theorem fanStopStart_divides : PassDivides fanStopStart :=
  ⟨⟨fun _ => by decide, fun _ => by decide⟩, fun _ => by decide⟩

theorem fanStop_off_iff_start :
    ((∀ output ∈ fanOutputs, ¬SwitchesOn startPass output fanStopStart) ↔
        ¬(PassDivides fanStopStart ∧ FourthValveAsked (normalCold 3 fanStopStart) fanStopStart)) ∧
      ((∀ output ∈ fanOutputs, ¬SwitchesOn preheatPass output fanStopStart) ↔
        ¬(PassDivides fanStopStart ∧ FourthValveAsked (preCold 3 fanStopStart) fanStopStart)) :=
  fanStop_off_iff fanStopStart fanStopStart_fanStop

/-- The pass returns and the fourth valve opens. -/
theorem fanStop_valve_opens :
    ¬ ∀ s, FanStop s → ∀ output ∈ fanOutputs, ¬SwitchesOn startPass output s := by
  intro law
  have closed := law fanStopStart fanStopStart_fanStop Reg.controlCool2_4 (by decide)
  rw [fourthValve_pass startPass_passes fanStopStart_fanStop fun _ => normalCold_steady] at closed
  exact closed ⟨fanStopStart_divides, by decide +kernel⟩

end Jincubator
