import Jincubator.Channels
import Jincubator.Damper
import Jincubator.Library.Run
import Jincubator.Timer

/-! # Rest phases

A working time is followed by a rest, the difference of the period and the working
time as an unsigned word. The four channels share one pair of settings, the carbon
dioxide cycle has its own. A working time beyond the period makes the rest longer
than the period, and nothing else does.
-/

namespace Jincubator

open Incubator Run

/-- The time of a rest with the settings that it is loaded from. -/
structure DutyCycle where
  stop : Nat
  period : Nat
  work : Nat
  deriving DecidableEq

def Reflux.duty (c : Reflux) : DutyCycle := ⟨c.stopTime, Reg.pRtempZqs, Reg.pRtempGzs⟩

def co2Duty : DutyCycle := ⟨Reg.carbonDioxideStopTime, Reg.pCo2Zqc, Reg.pCo2Gzs⟩

def dutyCycles : List DutyCycle :=
  [reflux1.duty, reflux2.duty, reflux3.duty, reflux4.duty, co2Duty]

def dutyRegisters : List Nat :=
  dutyCycles.flatMap fun d => [d.stop, d.period, d.work]

/-- No rest is longer than its period. -/
def RestBounded (s : Incubator) : Prop :=
  ∀ d ∈ dutyCycles, s.getUval d.stop ≤ s.getUval d.period

instance (s : Incubator) : Decidable (RestBounded s) :=
  inferInstanceAs (Decidable (∀ _ ∈ _, _))

/-- The working time is not longer than the period. -/
def DutyCycle.Fits (d : DutyCycle) (s : Incubator) : Prop :=
  s.getUval d.work ≤ s.getUval d.period

section

variable {s t : Incubator} {d : DutyCycle}

/-- The difference stays below the period exactly if it does not wrap around. -/
theorem rest_le_iff (d : DutyCycle) (s : Incubator) :
    ushort (s.getUval d.period - s.getUval d.work) ≤ s.getUval d.period ↔ d.Fits s := by
  have period := getUval_range s d.period
  have work := getUval_range s d.work
  rw [ushort_eq, DutyCycle.Fits]
  omega

/-- A step that leaves the settings and the other rests alone. -/
theorem restBounded_of_one (mem : d ∈ dutyCycles) (bounded : RestBounded s)
    (kept : ∀ i ∈ dutyRegisters, i ≠ d.stop → t.getUval i = s.getUval i) :
    RestBounded t ↔ t.getUval d.stop ≤ s.getUval d.period := by
  have apart : ∀ d ∈ dutyCycles, ∀ e ∈ dutyCycles, e.period ≠ d.stop ∧
      (e.stop = d.stop → e.period = d.period) := by decide
  have own (e : DutyCycle) (inside : e ∈ dutyCycles) :
      t.getUval e.period = s.getUval e.period := by
    have member : ∀ e ∈ dutyCycles, e.period ∈ dutyRegisters := by decide
    exact kept _ (member e inside) (apart d mem e inside).1
  refine ⟨fun after => ?_, fun rest e inside => ?_⟩
  · rw [← own d mem]
    exact after d mem
  · rw [own e inside]
    by_cases same : e.stop = d.stop
    · rw [same, (apart d mem e inside).2 same]
      exact rest
    · have member : ∀ e ∈ dutyCycles, e.stop ∈ dutyRegisters := by decide
      rw [kept _ (member e inside) same]
      exact bounded e inside

/-- A rest that is loaded, or stays. -/
theorem restBounded_of_load {loads : Prop} [Decidable loads] (mem : d ∈ dutyCycles)
    (bounded : RestBounded s)
    (kept : ∀ i ∈ dutyRegisters, i ≠ d.stop → t.getUval i = s.getUval i)
    (stop : t.getUval d.stop =
      if loads then ushort (s.getUval d.period - s.getUval d.work) else s.getUval d.stop) :
    RestBounded t ↔ (loads → d.Fits s) := by
  rw [restBounded_of_one mem bounded kept, stop]
  by_cases loaded : loads
  · rw [if_pos loaded, rest_le_iff, forall_prop_of_true loaded]
  · rw [if_neg loaded]
    exact iff_of_true (bounded d mem) fun loading => absurd loading loaded

end

/-! ## The channels -/

namespace Reflux

variable {c : Reflux} {init workValve : Nat} {s t : Incubator}

/-- The working time of the pulse that a demand goes on with is used up, and cycles are left. -/
def PulseEnds (c : Reflux) (init : Nat) (s : Incubator) : Prop :=
  phaseNow init s = 1 ∧ c.cycleNow init s < s.getUval Reg.pRtempZqc ∧ c.workNow init s ≤ 0

instance (c : Reflux) (init : Nat) (s : Incubator) : Decidable (c.PulseEnds init s) :=
  inferInstanceAs (Decidable (_ ∧ _ ∧ _))

/-- The call loads the time of a rest. -/
def LoadsRest (c : Reflux) (cold : Prop) (s : Incubator) : Prop :=
  s.reg Reg.refluxTemperature &&& c.mask ≠ 0 ∧ s.getUval c.delayTime = 0 ∧
    ((cold ∧ s.getUval c.current > ushort (s.getVal c.setting) ∧ c.PulseEnds c.coldInit s) ∨
      (¬cold ∧ s.getUval c.current < ushort (s.getVal c.setting) ∧ c.PulseEnds c.hotInit s))

instance (c : Reflux) (cold : Prop) [Decidable cold] (s : Incubator) :
    Decidable (c.LoadsRest cold s) :=
  inferInstanceAs (Decidable (_ ∧ _ ∧ (_ ∨ _)))

theorem pulseEnds_within {writes : List Nat} (st : Within writes s t)
    (untouched : ∀ i ∈ c.demandRegisters init, i ∉ writes) :
    c.PulseEnds init t ↔ c.PulseEnds init s := by
  simp only [demandRegisters, List.forall_mem_cons] at untouched
  obtain ⟨phase, work, stop, cycle, gzs, zqs, zqc, -⟩ := untouched
  rw [PulseEnds, PulseEnds, phaseNow, phaseNow, st.getUval phase, st.getUval zqc,
    cycleNow_within st ⟨phase, cycle⟩, workNow_within st ⟨phase, work, gzs⟩]

/-- The time of the rest after a demand. -/
theorem water_stopTime {demanded : Prop} [Decidable demanded]
    (distinct : (c.demandRegisters init).Nodup)
    (valves : c.stopTime ∉ [cool2Output c.valve, cool2Output workValve]) (s : Incubator) :
    (c.water demanded init workValve s).getUval c.stopTime =
      if demanded ∧ c.PulseEnds init s then
        ushort (s.getUval Reg.pRtempZqs - s.getUval Reg.pRtempGzs)
      else s.getUval c.stopTime := by
  have ended := endPulse_reads distinct s
  obtain ⟨phase, cycle, work⟩ := beginPulse_reads distinct s
  simp only [demandRegisters, List.nodup_cons, List.mem_cons, not_or] at distinct
  obtain ⟨⟨-, stopInit, -, -, -, zqcInit, -⟩, ⟨workStop, -, -, -, zqcWork, -⟩, ⟨stopCycle, -⟩,
    ⟨-, -, zqcCycle, -⟩, -⟩ := distinct
  simp only [List.mem_cons, List.not_mem_nil, or_false, not_or] at valves
  obtain ⟨own, working⟩ := valves
  have begun : Within [c.workTime, c.workCycle, init] s (c.beginPulse init s) := by
    simp [beginPulse]
  have zqc : (c.beginPulse init s).getUval Reg.pRtempZqc = s.getUval Reg.pRtempZqc :=
    begun.getUval (by simp [Ne.symm zqcInit, Ne.symm zqcWork, Ne.symm zqcCycle])
  have kept : (c.beginPulse init s).getUval c.stopTime = s.getUval c.stopTime :=
    begun.getUval (by simp [Ne.symm workStop, stopCycle, Ne.symm stopInit])
  have switched {valve : Nat} (apart : c.stopTime ≠ cool2Output valve) (status : Int)
      (t : Incubator) : (controlCool2 valve status t).getUval c.stopTime =
        t.getUval c.stopTime := by
    have command : Within [cool2Output valve] t (controlCool2 valve status t) := by simp
    exact command.getUval (by simp [apart])
  have idle (t : Incubator) : (c.idlePulse init t).getUval c.stopTime = t.getUval c.stopTime := by
    have pulse : Within [cool2Output c.valve, c.workTime, c.workCycle, init] t
        (c.idlePulse init t) := by
      simp [idlePulse]
    exact pulse.getUval (by simp [own, Ne.symm workStop, stopCycle, Ne.symm stopInit])
  rw [water]
  by_cases asked : demanded
  · rw [if_pos asked, pulseValve, cycle, work, zqc]
    by_cases cycling : c.cycleNow init s < s.getUval Reg.pRtempZqc
    · rw [if_pos cycling]
      by_cases opened : c.workNow init s > 0
      · rw [if_pos opened, if_neg fun ends => absurd opened (not_lt.mpr ends.2.2.2),
          switched working, kept]
      · rw [if_neg opened, idle, ended, stopNow]
        refine if_congr ⟨fun first => ?_, fun ends => ends.2.1⟩ rfl rfl
        exact ⟨asked, first, cycling, not_lt.mp opened⟩
    · rw [if_neg cycling, if_neg fun ends => cycling ends.2.2.1, switched own, kept]
  · rw [if_neg asked, if_neg fun ends => asked ends.1, setUval_eq,
      getUval_setVal_of_ne _ _ (Ne.symm stopInit), switched own]

theorem coldWater_stopTime (distinct : c.Distinct)
    (valves : c.stopTime ∉ [cool2Output c.valve, cool2Output c.coldValve]) (s : Incubator) :
    (c.coldWater s).getUval c.stopTime =
      if s.getUval c.delayTime = 0 ∧ s.getUval c.current > ushort (s.getVal c.setting) ∧
          c.PulseEnds c.coldInit s then
        ushort (s.getUval Reg.pRtempZqs - s.getUval Reg.pRtempGzs)
      else s.getUval c.stopTime := by
  have switched := switchWater_within c.hotInit off s
  have same := sameDemand switched distinct.coldUntouched
  have ends := pulseEnds_within switched distinct.coldUntouched
  simp only [coldWater, same.delay, same.current, same.setting]
  by_cases elapsed : s.getUval c.delayTime = 0
  · simp only [elapsed, if_true, true_and, water_stopTime distinct.cold valves, ends, same.stop,
      same.zqs, same.gzs]
  · simp only [elapsed, if_false, false_and, same.stop]

theorem hotWater_stopTime (distinct : c.Distinct)
    (valves : c.stopTime ∉ [cool2Output c.valve, cool2Output c.coldValve]) (s : Incubator) :
    (c.hotWater s).getUval c.stopTime =
      if s.getUval c.delayTime = 0 ∧ s.getUval c.current < ushort (s.getVal c.setting) ∧
          c.PulseEnds c.hotInit s then
        ushort (s.getUval Reg.pRtempZqs - s.getUval Reg.pRtempGzs)
      else s.getUval c.stopTime := by
  have switched := switchWater_within c.coldInit on s
  have same := sameDemand switched distinct.hotUntouched
  have ends := pulseEnds_within switched distinct.hotUntouched
  have own : c.stopTime ∉ [cool2Output c.valve, cool2Output c.valve] := by
    simp only [List.mem_cons, List.not_mem_nil, or_false, not_or] at valves
    simp [valves.1]
  simp only [hotWater, same.delay, same.current, same.setting]
  by_cases elapsed : s.getUval c.delayTime = 0
  · simp only [elapsed, if_true, true_and, water_stopTime distinct.hot own, ends, same.stop,
      same.zqs, same.gzs]
  · simp only [elapsed, if_false, false_and, same.stop]

/-- The time of the rest after a call. -/
theorem logicProcessRetemp_stopTime (distinct : c.Distinct)
    (valves : c.stopTime ∉ [cool2Output c.valve, cool2Output c.coldValve]) (cold : Prop)
    [Decidable cold] (s : Incubator) :
    (c.logicProcessRetemp cold s).getUval c.stopTime =
      if c.LoadsRest cold s then
        ushort (s.getUval Reg.pRtempZqs - s.getUval Reg.pRtempGzs)
      else s.getUval c.stopTime := by
  rw [logicProcessRetemp]
  by_cases enabled : s.reg Reg.refluxTemperature &&& c.mask ≠ 0
  · rw [if_pos enabled]
    by_cases chilled : cold
    · rw [if_pos chilled, coldWater_stopTime distinct valves]
      refine if_congr ?_ rfl rfl
      rw [LoadsRest, and_iff_right enabled]
      simp only [chilled, true_and, not_true_eq_false, false_and, or_false]
    · rw [if_neg chilled, hotWater_stopTime distinct valves]
      refine if_congr ?_ rfl rfl
      rw [LoadsRest, and_iff_right enabled]
      simp only [chilled, false_and, not_false_eq_true, true_and, false_or]
  · have closed : Within [cool2Output c.valve] s (controlCool2 c.valve off s) := by simp
    simp only [List.mem_cons, List.not_mem_nil, or_false, not_or] at valves
    rw [if_neg enabled, if_neg fun loads => enabled loads.1, closed.getUval (by simp [valves.1])]

end Reflux

/-! ## Carbon dioxide -/

/-- `damper_control_func` takes its branch for carbon dioxide. -/
def Co2Taken (s : Incubator) : Prop :=
  s.getVal Reg.statusDamperCheck = 0 ∧
    (ushort (s.getVal Reg.pAoAd) = 0 ∨
      ushort (s.getVal Reg.pAoAd) ≤ ushort (s.getVal Reg.rAiAd)) ∧
    s.getVal Reg.highTempAlarmStatus = 0 ∧ s.getVal Reg.carbonDioxideWarningLight ≠ 0

instance (s : Incubator) : Decidable (Co2Taken s) :=
  inferInstanceAs (Decidable (_ ∧ (_ ∨ _) ∧ _ ∧ _))

/-- The working time is over, so the time of the rest is loaded. -/
def LoadsCo2Rest (s : Incubator) : Prop :=
  Co2Taken s ∧ s.getUval Reg.carbonDioxideOperatingTime = 0 ∧ s.getVal Reg.carbonDioxideInit = 0

instance (s : Incubator) : Decidable (LoadsCo2Rest s) :=
  inferInstanceAs (Decidable (_ ∧ _ ∧ _))

/-- What the other branches write. -/
def damperElse : List Nat :=
  [Reg.controlDamperOpen, Reg.controlDamperClose, Reg.controlDbOpenCalibrationStatus,
    Reg.controlDbCliseCalibrationStatus, Reg.statusDamperCheck,
    Reg.controlDbCloseToOpenTimeStatus, Reg.controlDbOpenToCloseTimeStatus,
    Reg.pidAdValue, Reg.pidTempModeStatus]

section

variable {s t : Incubator}

theorem clearDamperCheck_within (s : Incubator) : Within damperElse s (clearDamperCheck s) := by
  simp (disch := decide) only [clearDamperCheck, within_setVal, Within.refl]

theorem damperControlFunc_co2 (taken : Co2Taken s) :
    damperControlFunc s = co2Damper (clearDamperCheck s) := by
  obtain ⟨check, passed, alarm, light⟩ := taken
  have cleared := clearDamperCheck_within s
  have alarmKept : (clearDamperCheck s).getVal Reg.highTempAlarmStatus = 0 :=
    (cleared.getVal (by decide)).trans alarm
  have lightKept : (clearDamperCheck s).getVal Reg.carbonDioxideWarningLight ≠ 0 := by
    rwa [cleared.getVal (by decide)]
  simp only [damperControlFunc, check, ne_eq, not_true_eq_false, if_false, damperRun]
  split
  · rw [damperClosed, if_neg (not_not.mpr alarmKept), if_pos lightKept]
  · rename_i set
    rw [if_neg (not_lt.mpr (passed.resolve_left set)), damperOpened]
    simp only [alarmKept, ne_eq, not_true_eq_false, if_false]
    rw [if_pos lightKept]

/-- Both branches of the opening, without carbon dioxide. -/
theorem damperRun_else {current setting : Int}
    (other : ¬((setting = 0 ∨ setting ≤ current) ∧ t.getVal Reg.highTempAlarmStatus = 0 ∧
      t.getVal Reg.carbonDioxideWarningLight ≠ 0)) (st : Within damperElse s t) :
    Within damperElse s (damperRun current setting t) := by
  have moved (type status schedule : Int) (u : Incubator) :
      Within damperElse s (controlDamper type status schedule u) ↔ Within damperElse s u :=
    within_controlDamper (by decide) (by decide)
  rw [damperRun]
  by_cases set : setting = 0
  · rw [if_pos set, damperClosed]
    by_cases alarm : t.getVal Reg.highTempAlarmStatus = 0
    · have light : t.getVal Reg.carbonDioxideWarningLight = 0 :=
        not_not.mp fun lit => other ⟨Or.inl set, alarm, lit⟩
      simp only [alarm, light, ne_eq, not_true_eq_false, if_false, seekDbo, moved, within_ite, st,
        ite_self]
    · rw [if_pos alarm, moved]
      exact st
  · rw [if_neg set]
    by_cases short : current < setting
    · rw [if_pos short, moved]
      exact st
    · rw [if_neg short, damperOpened]
      by_cases alarm : t.getVal Reg.highTempAlarmStatus = 0
      · have light : t.getVal Reg.carbonDioxideWarningLight = 0 :=
          not_not.mp fun lit => other ⟨Or.inr (not_lt.mp short), alarm, lit⟩
        have entered : Within damperElse s (enterDamperBand t) := by
          simp (disch := decide) only [enterDamperBand, within_setVal, within_ite, st, ite_self]
        have band : Within damperElse s (pidDamper (enterDamperBand t)) := by
          simp only [pidDamper, moved, within_ite, entered, ite_self]
        simp only [alarm, light, ne_eq, not_true_eq_false, if_false, openToDbo, moved, band,
          within_ite, st, ite_self]
      · simp only [alarm, ne_eq, not_false_eq_true, if_true, moved, st]

theorem damperControlFunc_else (other : ¬Co2Taken s) :
    Within damperElse s (damperControlFunc s) := by
  have cleared := clearDamperCheck_within s
  rw [damperControlFunc]
  by_cases check : s.getVal Reg.statusDamperCheck = 0
  · simp only [check, ne_eq, not_true_eq_false, if_false]
    refine damperRun_else (fun taken => other ⟨check, ?_⟩) cleared
    rwa [cleared.getVal (by decide), cleared.getVal (by decide)] at taken
  · have moved (type status schedule : Int) (t : Incubator) :
        Within damperElse s (controlDamper type status schedule t) ↔ Within damperElse s t :=
      within_controlDamper (by decide) (by decide)
    simp (disch := decide) only [check, ne_eq, not_false_eq_true, if_true, damperCheck, moved,
      within_setVal, within_ite, Within.refl, ite_self]

/-- The rest of the carbon dioxide cycle is loaded by its first part only. -/
theorem co2Damper_stopTime (s : Incubator) :
    (co2Damper s).getUval Reg.carbonDioxideStopTime =
      if s.getUval Reg.carbonDioxideOperatingTime = 0 ∧ s.getVal Reg.carbonDioxideInit = 0 then
        ushort (s.getUval Reg.pCo2Zqc - s.getUval Reg.pCo2Gzs)
      else s.getUval Reg.carbonDioxideStopTime := by
  have moved (type status schedule : Int) (t : Incubator) :
      (controlDamper type status schedule t).getUval Reg.carbonDioxideStopTime =
        t.getUval Reg.carbonDioxideStopTime := by
    have command : Within [Reg.controlDamperOpen, Reg.controlDamperClose] t
        (controlDamper type status schedule t) := by simp
    exact command.getUval (by decide)
  have stopped (t : Incubator) : (co2Stopped t).getUval Reg.carbonDioxideStopTime =
      t.getUval Reg.carbonDioxideStopTime := by
    rw [co2Stopped]
    split
    · exact moved 1 off 0 t
    · rfl
  have idle (t : Incubator) : (co2Idle t).getUval Reg.carbonDioxideStopTime =
      t.getUval Reg.carbonDioxideStopTime := by
    rw [co2Idle]
    split
    · exact moved 1 off 0 t
    · rename_i rested
      have range := getUval_range t Reg.carbonDioxideStopTime
      have none : t.getUval Reg.carbonDioxideStopTime = 0 := by omega
      split
      · rw [none, getUval_setVal_of_ne _ _ (by decide), setUval_eq, getUval_setVal_self]
        rfl
      · rfl
  have range := getUval_range s Reg.carbonDioxideOperatingTime
  rw [co2Damper, stopped, idle, co2Working]
  by_cases working : s.getUval Reg.carbonDioxideOperatingTime > 0
  · rw [if_pos working, if_neg fun loads => absurd working (by omega), moved]
  · rw [if_neg working]
    by_cases first : s.getVal Reg.carbonDioxideInit = 0
    · rw [if_pos first, if_pos ⟨by omega, first⟩, getUval_setVal_of_ne _ _ (by decide),
        setUval_eq, getUval_setVal_self]
    · rw [if_neg first, if_neg fun loads => first loads.2]

/-- The time of the rest after a call. -/
theorem damperControlFunc_stopTime (s : Incubator) :
    (damperControlFunc s).getUval Reg.carbonDioxideStopTime =
      if LoadsCo2Rest s then ushort (s.getUval Reg.pCo2Zqc - s.getUval Reg.pCo2Gzs)
      else s.getUval Reg.carbonDioxideStopTime := by
  have cleared := clearDamperCheck_within s
  by_cases taken : Co2Taken s
  · rw [damperControlFunc_co2 taken, co2Damper_stopTime, cleared.getUval (by decide),
      cleared.getVal (by decide), cleared.getUval (by decide), cleared.getUval (by decide),
      cleared.getUval (by decide)]
    refine if_congr ?_ rfl rfl
    rw [LoadsCo2Rest, and_iff_right taken]
  · rw [if_neg fun loads => taken loads.1]
    exact (damperControlFunc_else taken).getUval (by decide)

/-! ## The timer -/

/-- A second makes no time longer. -/
theorem second_getUval {i : Nat} (free : i ∉ secondCounts) (s : Incubator) :
    (second s).getUval i ≤ s.getUval i := by
  by_cases listed : i ∈ secondTimes
  · have range := getUval_range s i
    rw [second_runsDown listed free]
    omega
  · have untouched : i ∉ secondWrites := by
      rw [secondWrites, List.mem_append, not_or]
      exact ⟨free, listed⟩
    exact ((second_within s).getUval untouched).le

/-- A tick makes no time longer. -/
theorem timer_getUval {i : Nat} (free : i ∉ damperTickWrites ++ secondCounts) (s : Incubator) :
    (timerCallbackFunc s).getUval i ≤ s.getUval i := by
  rw [List.mem_append, not_or] at free
  have damper : Within damperTickWrites s (closeSide.tick (openSide.tick s)) := by
    rw [within_closeSide (List.Subset.refl _), within_openSide (List.Subset.refl _)]
    exact Within.refl _ _
  rw [timerCallbackFunc, ← damper.getUval free.1, divideTick]
  split
  · exact second_getUval free.2 _
  · exact le_rfl

end

/-! ## Runs -/

/-- A call, a timer tick, or any other value in a register that is neither a rest nor a setting. -/
inductive RestEvent where
  | channel (kind : RetempKind) (i : Fin 4)
  | damperControlFunc
  | timerCallbackFunc
  | input (index : Nat) (free : index ∉ dutyRegisters) (value : Int)

def restStep (s : Incubator) : RestEvent → Incubator
  | .channel kind i => retempFunc kind i s
  | .damperControlFunc => damperControlFunc s
  | .timerCallbackFunc => timerCallbackFunc s
  | .input index _ value => setVal index value s

/-- The rest whose time the event loads. -/
def RestEvent.Loads (d : DutyCycle) (s : Incubator) : RestEvent → Prop
  | .channel kind i => d = (reflux i).duty ∧ (reflux i).LoadsRest (kind.Cold i s) s
  | .damperControlFunc => d = co2Duty ∧ LoadsCo2Rest s
  | .timerCallbackFunc => False
  | .input _ _ _ => False

/-- A call that loads the time of a rest finds a working time that fits into the period. -/
def RestEvent.Fits (s : Incubator) (e : RestEvent) : Prop := ∀ d, e.Loads d s → d.Fits s

/-- The time of a rest that is loaded is not longer than the period. -/
def LoadedBounded (s : Incubator) (e : RestEvent) (t : Incubator) : Prop :=
  ∀ d, e.Loads d s → t.getUval d.stop ≤ s.getUval d.period

section

variable {s : Incubator}

theorem channel_restBounded (kind : RetempKind) (i : Fin 4) (bounded : RestBounded s) :
    RestBounded (retempFunc kind i s) ↔
      ((reflux i).LoadsRest (kind.Cold i s) s → (reflux i).duty.Fits s) := by
  have member : ∀ i : Fin 4, (reflux i).duty ∈ dutyCycles := by decide
  have frame : ∀ i : Fin 4, ∀ j ∈ dutyRegisters, j ≠ (reflux i).stopTime →
      j ∉ (reflux i).writes := by decide
  have valves : ∀ i : Fin 4, (reflux i).stopTime ∉
      [cool2Output (reflux i).valve, cool2Output (reflux i).coldValve] := by decide
  rw [retempFunc_eq]
  refine restBounded_of_load (member i) bounded (fun j inside other => ?_)
    (Reflux.logicProcessRetemp_stopTime (Reflux.reflux_distinct i) (valves i) _ s)
  exact ((reflux i).logicProcessRetemp_within _ s).getUval (frame i j inside other)

theorem damper_restBounded (bounded : RestBounded s) :
    RestBounded (damperControlFunc s) ↔ (LoadsCo2Rest s → co2Duty.Fits s) := by
  have frame : ∀ j ∈ dutyRegisters, j ≠ co2Duty.stop → j ∉ damperWrites := by decide
  refine restBounded_of_load (by decide) bounded (fun j inside other => ?_)
    (damperControlFunc_stopTime s)
  exact (damperControlFunc_within s).getUval (frame j inside other)

theorem timer_restBounded (bounded : RestBounded s) : RestBounded (timerCallbackFunc s) := by
  have free : ∀ d ∈ dutyCycles, d.stop ∉ damperTickWrites ++ secondCounts ∧
      d.period ∉ damperTickWrites ++ secondWrites := by decide
  intro d mem
  have period := (timerCallbackFunc_within s).getUval (free d mem).2
  rw [period]
  exact (timer_getUval (free d mem).1 s).trans (bounded d mem)

theorem input_restBounded {index : Nat} (free : index ∉ dutyRegisters) (value : Int)
    (bounded : RestBounded s) : RestBounded (setVal index value s) := by
  have member : ∀ d ∈ dutyCycles, d.stop ∈ dutyRegisters ∧ d.period ∈ dutyRegisters := by decide
  intro d mem
  have other {i : Nat} (inside : i ∈ dutyRegisters) : i ≠ index := fun same => free (same ▸ inside)
  rw [getUval_setVal_of_ne _ _ (other (member d mem).1),
    getUval_setVal_of_ne _ _ (other (member d mem).2)]
  exact bounded d mem

/-- One event keeps the rests bounded exactly if it loads none that wraps around. -/
theorem restStep_bounded (e : RestEvent) (bounded : RestBounded s) :
    RestBounded (restStep s e) ↔ e.Fits s := by
  cases e with
  | channel kind i =>
      refine (channel_restBounded kind i bounded).trans ⟨?_, ?_⟩
      · rintro fits d ⟨rfl, loads⟩
        exact fits loads
      · intro fits loads
        exact fits _ ⟨rfl, loads⟩
  | damperControlFunc =>
      refine (damper_restBounded bounded).trans ⟨?_, ?_⟩
      · rintro fits d ⟨rfl, loads⟩
        exact fits loads
      · intro fits loads
        exact fits _ ⟨rfl, loads⟩
  | timerCallbackFunc =>
      exact iff_of_true (timer_restBounded bounded) fun _ loads => loads.elim
  | input index free value =>
      exact iff_of_true (input_restBounded free value bounded) fun _ loads => loads.elim

/-- What an event loads is the difference of the settings. -/
theorem restStep_loads {d : DutyCycle} (e : RestEvent) (loads : e.Loads d s) :
    (restStep s e).getUval d.stop = ushort (s.getUval d.period - s.getUval d.work) := by
  cases e with
  | channel kind i =>
      obtain ⟨rfl, loads⟩ := loads
      have valves : ∀ i : Fin 4, (reflux i).stopTime ∉
          [cool2Output (reflux i).valve, cool2Output (reflux i).coldValve] := by decide
      have stop := Reflux.logicProcessRetemp_stopTime (Reflux.reflux_distinct i) (valves i)
        (kind.Cold i s) s
      rw [restStep, retempFunc_eq]
      exact stop.trans (if_pos loads)
  | damperControlFunc =>
      obtain ⟨rfl, loads⟩ := loads
      exact (damperControlFunc_stopTime s).trans (if_pos loads)
  | timerCallbackFunc => exact loads.elim
  | input index free value => exact loads.elim

theorem restStep_loaded (e : RestEvent) : LoadedBounded s e (restStep s e) ↔ e.Fits s := by
  refine forall_congr' fun d => ?_
  refine forall_congr' fun loads => ?_
  rw [restStep_loads e loads, rest_le_iff]

end

theorem loadedBounded_iff (s : Incubator) (es : List RestEvent) :
    Along restStep LoadedBounded s es ↔ Along restStep (fun s e _ => e.Fits s) s es := by
  have always (s : Incubator) (_ : RestEvent) (_ : True) : True := trivial
  exact along_congr always (fun s e _ => restStep_loaded e) trivial es

/-- Along every run the times that are loaded stay within their periods exactly if every call that
loads one finds a working time that is not longer than the period. Where the rests have been within
their periods before, they stay so under the same condition. -/
theorem restBounded_iff (s : Incubator) (es : List RestEvent) :
    (Along restStep LoadedBounded s es ↔ Along restStep (fun s e _ => e.Fits s) s es) ∧
      (RestBounded s → (Along restStep (fun _ _ t => RestBounded t) s es ↔
        Along restStep (fun s e _ => e.Fits s) s es)) := by
  refine ⟨loadedBounded_iff s es, fun start => ?_⟩
  exact along_invariant_iff RestBounded (fun _ e _ => restStep_bounded e) start
    (along_true restStep s es)

/-- The first channel demands cold water, with one cycle of one second. -/
def restStart (period : Int) : Incubator :=
  cleared |> setVal Reg.refluxTemperature 0x01 |> setVal Reg.rAiTpRf1 1
    |> setVal Reg.pRtempZqc 1 |> setVal Reg.pRtempGzs 1 |> setVal Reg.pRtempZqs period

/-- A pulse begins, a second passes, and the pulse ends. -/
def onePulse : List RestEvent :=
  .channel .normal ⟨0, by decide⟩ :: List.replicate 10 .timerCallbackFunc ++
    [.channel .normal ⟨0, by decide⟩]

theorem restBounded_iff_pulse :
    RestBounded (restStart 2) ∧
      (Along restStep (fun _ _ t => RestBounded t) (restStart 2) onePulse ↔
        Along restStep (fun s e _ => e.Fits s) (restStart 2) onePulse) :=
  ⟨by decide +kernel, (restBounded_iff (restStart 2) onePulse).2 (by decide +kernel)⟩

/-- A second of work in a period of no second is followed by a rest of 65535. -/
theorem rest_unbounded :
    (¬∀ s es, Along restStep LoadedBounded s es) ∧
      ¬Along restStep (fun _ _ t => RestBounded t) (restStart 0) onePulse := by
  have pulse : ¬Along restStep (fun _ _ t => RestBounded t) (restStart 0) onePulse := by
    decide +kernel
  refine ⟨fun bounded => ?_, pulse⟩
  have start : RestBounded (restStart 0) := by decide +kernel
  refine pulse ((along_invariant_iff RestBounded (fun _ e _ => restStep_bounded e) start
    (along_true restStep _ onePulse)).mpr ?_)
  exact (loadedBounded_iff _ _).mp (bounded (restStart 0) onePulse)

end Jincubator
