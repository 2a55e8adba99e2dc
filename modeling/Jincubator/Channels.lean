import Jincubator.FanStop

/-! # The commands of a return-water channel

A call of a channel function gives at most one command to a valve, and everything
else it does is the same whatever the valves do. So a call is the call of the
channel without valves, followed by the command. What the guards of a valve look
at, no channel writes.
-/

namespace Jincubator

open Incubator

/-- The two families of channel functions. -/
inductive RetempKind where
  | normal
  | pre

def reflux : Fin 4 → Reflux
  | 0 => reflux1
  | 1 => reflux2
  | 2 => reflux3
  | 3 => reflux4

/-- The eight functions of the source. -/
def retempFunc : RetempKind → Fin 4 → Incubator → Incubator
  | .normal, 0 => normalLogicProcessRetemp1Func
  | .normal, 1 => normalLogicProcessRetemp2Func
  | .normal, 2 => normalLogicProcessRetemp3Func
  | .normal, 3 => normalLogicProcessRetemp4Func
  | .pre, 0 => preLogicProcessRetemp1Func
  | .pre, 1 => preLogicProcessRetemp2Func
  | .pre, 2 => preLogicProcessRetemp3Func
  | .pre, 3 => preLogicProcessRetemp4Func

/-- The choice of cold water that a function makes. -/
def RetempKind.Cold : RetempKind → Fin 4 → Incubator → Prop
  | .normal, i, s => normalCold i s
  | .pre, i, s => preCold i s

instance : ∀ kind i s, Decidable (RetempKind.Cold kind i s)
  | .normal, i, s => inferInstanceAs (Decidable (normalCold i s))
  | .pre, i, s => inferInstanceAs (Decidable (preCold i s))

theorem retempFunc_eq (kind : RetempKind) (i : Fin 4) (s : Incubator) :
    retempFunc kind i s = (reflux i).logicProcessRetemp (kind.Cold i s) s := by
  match kind, i with
  | .normal, 0 | .normal, 1 | .normal, 2 | .normal, 3 => rfl
  | .pre, 0 | .pre, 1 | .pre, 2 | .pre, 3 => rfl

def cool2Valve : Fin 4 → Nat
  | 0 => Reg.controlCool2_1
  | 1 => Reg.controlCool2_2
  | 2 => Reg.controlCool2_3
  | 3 => Reg.controlCool2_4

def cool2Test : Fin 4 → Nat
  | 0 => Reg.testCool2_1Mode
  | 1 => Reg.testCool2_2Mode
  | 2 => Reg.testCool2_3Mode
  | 3 => Reg.testCool2_4Mode

def cool2Sensor : Fin 4 → Nat
  | 0 => Reg.sensor3AbnormalAlarm
  | 1 => Reg.sensor4AbnormalAlarm
  | 2 => Reg.sensor5AbnormalAlarm
  | 3 => Reg.sensor6AbnormalAlarm

/-! ## The command of a call -/

structure Command where
  valve : Nat
  status : Int
  deriving DecidableEq

def Command.issue (command : Option Command) (s : Incubator) : Incubator :=
  match command with
  | some c => controlCool2 c.valve c.status s
  | none => s

namespace Reflux

variable (c : Reflux)

/-- The state of the pulses that a demand goes on with. -/
def phaseNow (init : Nat) (s : Incubator) : Int :=
  if s.getUval init = 0 then 1 else s.getUval init

/-- The idle time after the end of a working time. -/
def stopNow (init : Nat) (s : Incubator) : Int :=
  if phaseNow init s = 1 then ushort (s.getUval Reg.pRtempZqs - s.getUval Reg.pRtempGzs)
  else s.getUval c.stopTime

def pulseCommand (init workValve : Nat) (s : Incubator) : Option Command :=
  if c.cycleNow init s < s.getUval Reg.pRtempZqc then
    if c.workNow init s > 0 then some ⟨workValve, on⟩
    else if c.stopNow init s > 0 then some ⟨c.valve, off⟩
    else none
  else some ⟨c.valve, on⟩

def waterCommand (demanded : Prop) [Decidable demanded] (init workValve : Nat) (s : Incubator) :
    Option Command :=
  if demanded then c.pulseCommand init workValve s else some ⟨c.valve, off⟩

def coldCommand (s : Incubator) : Option Command :=
  if s.getUval c.delayTime = 0 then
    c.waterCommand (s.getUval c.current > ushort (s.getVal c.setting)) c.coldInit c.coldValve s
  else none

def hotCommand (s : Incubator) : Option Command :=
  if s.getUval c.delayTime = 0 then
    c.waterCommand (s.getUval c.current < ushort (s.getVal c.setting)) c.hotInit c.valve s
  else none

/-- What a call asks of a valve, read off the state it starts from. -/
def command (cold : Prop) [Decidable cold] (s : Incubator) : Option Command :=
  if s.reg Reg.refluxTemperature &&& c.mask ≠ 0 then
    if cold then c.coldCommand s else c.hotCommand s
  else some ⟨c.valve, off⟩

/-- The channel without its valves. -/
def dry : Reflux := { c with valve := 0, coldValve := 0 }

end Reflux

/-! ## What the guards look at -/

/-- The valves, their test modes and sensor alarms and the report of the fan. -/
def valveRegisters : List Nat :=
  [Reg.controlCool2_1, Reg.controlCool2_2, Reg.controlCool2_3, Reg.controlCool2_4,
    Reg.testCool2_1Mode, Reg.testCool2_2Mode, Reg.testCool2_3Mode, Reg.testCool2_4Mode,
    Reg.sensor3AbnormalAlarm, Reg.sensor4AbnormalAlarm, Reg.sensor5AbnormalAlarm,
    Reg.sensor6AbnormalAlarm, Reg.rSyncMotorControlPara]

section

variable {s : Incubator} {i j : Nat} {v w status : Int}

/-- A write that no guard looks at can be made before or after the output is switched. -/
theorem switchOutput_setVal {output : Nat} {held forced held' forced' : Prop} [Decidable held]
    [Decidable forced] [Decidable held'] [Decidable forced'] (same : held' ↔ held)
    (sameForced : forced' ↔ forced) (apart : output ≠ i) :
    switchOutput output held' forced' status (setVal i v s) =
      setVal i v (switchOutput output held forced status s) := by
  simp only [switchOutput, same, sameForced, setVal_comm apart]
  split
  · rfl
  · split <;> rfl

theorem controlCool2_setVal (apart : i ∉ valveRegisters) (type : Nat) :
    controlCool2 type status (setVal i v s) = setVal i v (controlCool2 type status s) := by
  have kept : Within [i] s (setVal i v s) := put_within s i _
  have other : ∀ j ∈ valveRegisters, j ∉ [i] := by
    intro j mem same
    rw [List.mem_singleton.mp same] at mem
    exact apart mem
  have fan : FanStopped (setVal i v s) ↔ FanStopped s :=
    FanStopped.within kept (other _ (by decide))
  have guard (j : Nat) (mem : j ∈ valveRegisters) :
      (setVal i v s).getVal j ≠ 0 ↔ s.getVal j ≠ 0 := by
    rw [kept.getVal (other j mem)]
  have valve (j : Nat) (mem : j ∈ valveRegisters) : j ≠ i :=
    fun same => other j mem (List.mem_singleton.mpr same)
  match type with
  | 1 =>
      exact switchOutput_setVal (or_congr (guard _ (by decide)) (guard _ (by decide))) fan
        (valve _ (by decide))
  | 2 =>
      exact switchOutput_setVal (or_congr (guard _ (by decide)) (guard _ (by decide))) fan
        (valve _ (by decide))
  | 3 =>
      exact switchOutput_setVal (or_congr (guard _ (by decide)) (guard _ (by decide))) fan
        (valve _ (by decide))
  | 4 =>
      have own := valve Reg.controlCool2_4 (by decide)
      simp only [controlCool2, controlCool2_4, guard Reg.testCool2_4Mode (by decide),
        guard Reg.sensor6AbnormalAlarm (by decide), fan]
      split
      · rfl
      · split
        · rfl
        · split
          · rw [setVal_comm own, setVal_comm own]
          · rw [setVal_comm own]
  | 0 => rfl
  | n + 5 => rfl

end

/-! ## A call is a dry call and a command -/

namespace Reflux

/-- What a demand and its pulses look at. -/
def demandRegisters (c : Reflux) (init : Nat) : List Nat :=
  [init, c.workTime, c.stopTime, c.workCycle, Reg.pRtempGzs, Reg.pRtempZqs, Reg.pRtempZqc,
    c.delayTime, c.current, c.setting]

/-- The registers of a channel differ from one another and from those of the valves. -/
structure Distinct (c : Reflux) : Prop where
  hot : (c.demandRegisters c.hotInit).Nodup
  cold : (c.demandRegisters c.coldInit).Nodup
  hotFirst : ∀ i ∈ [c.coldInit, Reg.controlColdHotWater], i ∉ c.demandRegisters c.hotInit
  coldFirst : ∀ i ∈ [c.hotInit, Reg.controlColdHotWater], i ∉ c.demandRegisters c.coldInit
  valves : c.hotInit ∉ valveRegisters ∧ c.coldInit ∉ valveRegisters

theorem reflux_distinct (i : Fin 4) : (reflux i).Distinct := by
  match i with
  | 0 | 1 | 2 | 3 => exact ⟨by decide, by decide, by decide, by decide, by decide⟩

variable {c : Reflux} {s t : Incubator} {init workValve : Nat}

theorem waterCommand_within {writes : List Nat} {demanded : Prop} [Decidable demanded]
    (st : Within writes s t) (untouched : ∀ i ∈ c.demandRegisters init, i ∉ writes) :
    c.waterCommand demanded init workValve t = c.waterCommand demanded init workValve s := by
  simp only [demandRegisters, List.forall_mem_cons] at untouched
  obtain ⟨phase, work, stop, cycle, gzs, zqs, zqc, -⟩ := untouched
  have stops : c.stopNow init t = c.stopNow init s := by
    rw [stopNow, stopNow, phaseNow, phaseNow, st.getUval phase, st.getUval gzs, st.getUval zqs,
      st.getUval stop]
  simp only [waterCommand, pulseCommand, stops, st.getUval zqc, cycleNow_within st ⟨phase, cycle⟩,
    workNow_within st ⟨phase, work, gzs⟩]

/-- The registers that a demand compares and those of its rests. -/
structure SameDemand (c : Reflux) (s t : Incubator) : Prop where
  delay : t.getUval c.delayTime = s.getUval c.delayTime
  current : t.getUval c.current = s.getUval c.current
  setting : t.getVal c.setting = s.getVal c.setting
  stop : t.getUval c.stopTime = s.getUval c.stopTime
  gzs : t.getUval Reg.pRtempGzs = s.getUval Reg.pRtempGzs
  zqs : t.getUval Reg.pRtempZqs = s.getUval Reg.pRtempZqs

theorem sameDemand {writes : List Nat} (st : Within writes s t)
    (untouched : ∀ i ∈ c.demandRegisters init, i ∉ writes) : c.SameDemand s t := by
  simp only [demandRegisters, List.forall_mem_cons] at untouched
  obtain ⟨-, -, stop, -, gzs, zqs, -, delay, current, setting, -⟩ := untouched
  constructor
  case delay => exact st.getUval delay
  case current => exact st.getUval current
  case setting => exact st.getVal setting
  case stop => exact st.getUval stop
  case gzs => exact st.getUval gzs
  case zqs => exact st.getUval zqs

/-- The water that is not asked for is switched over first. -/
theorem switchWater_within (init : Nat) (status : Int) (s : Incubator) :
    Within [init, Reg.controlColdHotWater] s
      (controlColdHotWater status (setUval init 0 s)) := by
  simp [controlColdHotWater]

theorem Distinct.coldUntouched (distinct : c.Distinct) :
    ∀ i ∈ c.demandRegisters c.coldInit, i ∉ [c.hotInit, Reg.controlColdHotWater] :=
  fun i mem written => distinct.coldFirst i written mem

theorem Distinct.hotUntouched (distinct : c.Distinct) :
    ∀ i ∈ c.demandRegisters c.hotInit, i ∉ [c.coldInit, Reg.controlColdHotWater] :=
  fun i mem written => distinct.hotFirst i written mem

/-- The first pulse brings out the present state of the pulses. -/
theorem beginPulse_reads (distinct : (c.demandRegisters init).Nodup) (s : Incubator) :
    (c.beginPulse init s).getUval init = phaseNow init s ∧
      (c.beginPulse init s).getUval c.workCycle = c.cycleNow init s ∧
      (c.beginPulse init s).getUval c.workTime = c.workNow init s := by
  simp only [demandRegisters, List.nodup_cons, List.mem_cons, not_or] at distinct
  obtain ⟨⟨work, stop, cycle, -⟩, ⟨-, workCycle, -⟩, -⟩ := distinct
  refine ⟨?_, beginPulse_workCycle (Ne.symm cycle) s,
    beginPulse_workTime (Ne.symm work) workCycle s⟩
  rw [beginPulse, phaseNow]
  split
  · rw [setUval_eq, getUval_setVal_self]
    rfl
  · rfl

/-- The end of the working time brings out the idle time. -/
theorem endPulse_reads (distinct : (c.demandRegisters init).Nodup) (s : Incubator) :
    (c.endPulse init (c.beginPulse init s)).getUval c.stopTime = c.stopNow init s := by
  have begun : Within [c.workTime, c.workCycle, init] s (c.beginPulse init s) := by
    simp [beginPulse]
  have phase := (beginPulse_reads distinct s).1
  simp only [demandRegisters, List.nodup_cons, List.mem_cons, not_or] at distinct
  obtain ⟨⟨work, stop, cycle, gzs, zqs, -⟩, ⟨workStop, -, workGzs, workZqs, -⟩,
    ⟨stopCycle, -⟩, ⟨cycleGzs, cycleZqs, -⟩, -⟩ := distinct
  have stopKept : (c.beginPulse init s).getUval c.stopTime = s.getUval c.stopTime :=
    begun.getUval (by simp [Ne.symm workStop, stopCycle, Ne.symm stop])
  have gzsKept : (c.beginPulse init s).getUval Reg.pRtempGzs = s.getUval Reg.pRtempGzs :=
    begun.getUval (by simp [Ne.symm workGzs, Ne.symm cycleGzs, Ne.symm gzs])
  have zqsKept : (c.beginPulse init s).getUval Reg.pRtempZqs = s.getUval Reg.pRtempZqs :=
    begun.getUval (by simp [Ne.symm workZqs, Ne.symm cycleZqs, Ne.symm zqs])
  rw [endPulse, stopNow, phase, gzsKept, zqsKept]
  split
  · rw [setUval_eq, setUval_eq, getUval_setVal_of_ne _ _ (Ne.symm stop), getUval_setVal_self]
  · exact stopKept

/-- The pulses give their command last. -/
theorem pulse_eq (distinct : (c.demandRegisters init).Nodup) (s : Incubator) :
    c.pulseValve init workValve (c.beginPulse init s) =
      Command.issue (c.pulseCommand init workValve s)
        (c.dry.pulseValve init 0 (c.dry.beginPulse init s)) := by
  obtain ⟨-, cycle, work⟩ := beginPulse_reads distinct s
  have stop := endPulse_reads distinct s
  have zqc : (c.beginPulse init s).getUval Reg.pRtempZqc = s.getUval Reg.pRtempZqc := by
    have begun : Within [c.workTime, c.workCycle, init] s (c.beginPulse init s) := by
      simp [beginPulse]
    simp only [demandRegisters, List.nodup_cons, List.mem_cons, not_or] at distinct
    obtain ⟨⟨-, -, -, -, -, phase, -⟩, ⟨-, -, -, -, work, -⟩, -, ⟨-, -, cycle, -⟩, -⟩ := distinct
    exact begun.getUval (by simp [Ne.symm phase, Ne.symm work, Ne.symm cycle])
  have same : c.dry.beginPulse init s = c.beginPulse init s := rfl
  have sameEnd (t : Incubator) : c.dry.endPulse init t = c.endPulse init t := rfl
  rw [pulseValve, pulseValve, same, sameEnd]
  simp only [show c.dry.workCycle = c.workCycle from rfl,
    show c.dry.workTime = c.workTime from rfl, cycle, work, zqc, pulseCommand]
  by_cases cycling : c.cycleNow init s < s.getUval Reg.pRtempZqc
  · simp only [cycling, if_true]
    by_cases working : c.workNow init s > 0
    · simp only [working, if_true]
      rfl
    · simp only [working, if_false, idlePulse, show c.dry.stopTime = c.stopTime from rfl, stop]
      by_cases idle : c.stopNow init s > 0
      · simp only [idle, if_true]
        rfl
      · simp only [idle, if_false]
        rfl
  · simp only [cycling, if_false]
    rfl

theorem water_eq {demanded : Prop} [Decidable demanded]
    (distinct : (c.demandRegisters init).Nodup) (apart : init ∉ valveRegisters) (s : Incubator) :
    c.water demanded init workValve s =
      Command.issue (c.waterCommand demanded init workValve s) (c.dry.water demanded init 0 s) := by
  rw [water, water, waterCommand]
  by_cases asked : demanded
  · simp only [asked, if_true]
    exact pulse_eq distinct s
  · simp only [asked, if_false]
    exact (controlCool2_setVal apart c.valve).symm

theorem coldWater_eq (distinct : c.Distinct) (s : Incubator) :
    c.coldWater s = Command.issue (c.coldCommand s) (c.dry.coldWater s) := by
  have switched := switchWater_within c.hotInit off s
  have same := sameDemand switched distinct.coldUntouched
  rw [coldWater, coldWater, coldCommand]
  simp only [show c.dry.hotInit = c.hotInit from rfl, show c.dry.coldInit = c.coldInit from rfl,
    show c.dry.delayTime = c.delayTime from rfl, show c.dry.current = c.current from rfl,
    show c.dry.setting = c.setting from rfl, same.delay, same.current, same.setting]
  split
  · rw [water_eq distinct.cold distinct.valves.2,
      waterCommand_within switched distinct.coldUntouched]
    rfl
  · rfl

theorem hotWater_eq (distinct : c.Distinct) (s : Incubator) :
    c.hotWater s = Command.issue (c.hotCommand s) (c.dry.hotWater s) := by
  have switched := switchWater_within c.coldInit on s
  have same := sameDemand switched distinct.hotUntouched
  rw [hotWater, hotWater, hotCommand]
  simp only [show c.dry.hotInit = c.hotInit from rfl, show c.dry.coldInit = c.coldInit from rfl,
    show c.dry.delayTime = c.delayTime from rfl, show c.dry.current = c.current from rfl,
    show c.dry.setting = c.setting from rfl, same.delay, same.current, same.setting]
  split
  · rw [water_eq distinct.hot distinct.valves.1,
      waterCommand_within switched distinct.hotUntouched]
    rfl
  · rfl

/-- A call is the call without valves and then its command. -/
theorem logicProcessRetemp_eq (distinct : c.Distinct) (cold : Prop) [Decidable cold]
    (s : Incubator) :
    c.logicProcessRetemp cold s =
      Command.issue (c.command cold s) (c.dry.logicProcessRetemp cold s) := by
  rw [logicProcessRetemp, logicProcessRetemp, command]
  simp only [show c.dry.mask = c.mask from rfl]
  split
  · split
    · exact coldWater_eq distinct s
    · exact hotWater_eq distinct s
  · rfl

/-- A dry call changes nothing that a guard of a valve looks at. -/
theorem dry_writes (i : Fin 4) : ∀ j ∈ valveRegisters, j ∉ (reflux i).dry.writes := by
  match i with
  | 0 | 1 | 2 | 3 => decide

end Reflux

/-- The call of a channel function gives a command to its own valve. -/
def Commanded (kind : RetempKind) (i : Fin 4) (s : Incubator) : Prop :=
  ∃ status, (reflux i).command (kind.Cold i s) s = some ⟨i + 1, status⟩

theorem retempFunc_command (kind : RetempKind) (i : Fin 4) (s : Incubator) :
    ∃ t, Within (reflux i).dry.writes s t ∧
      retempFunc kind i s = Command.issue ((reflux i).command (kind.Cold i s) s) t := by
  refine ⟨(reflux i).dry.logicProcessRetemp (kind.Cold i s) s, ?_, ?_⟩
  · exact Reflux.logicProcessRetemp_within _ _ _
  · rw [retempFunc_eq, Reflux.logicProcessRetemp_eq (Reflux.reflux_distinct i)]

/-! ## What no channel changes -/

/-- The bit of the channel is set. -/
def Enabled (i : Fin 4) (s : Incubator) : Prop :=
  s.reg Reg.refluxTemperature &&& (reflux i).mask ≠ 0

instance (i : Fin 4) (s : Incubator) : Decidable (Enabled i s) :=
  inferInstanceAs (Decidable (_ ≠ _))

section

variable {s t : Incubator} {kind : RetempKind} {i : Fin 4}

theorem retempFunc_within (kind : RetempKind) (i : Fin 4) (s : Incubator) :
    Within retempWrites s (retempFunc kind i s) := by
  have inside : (reflux i).writes ⊆ retempWrites := by
    match i with
    | 0 | 1 | 2 | 3 => decide
  rw [retempFunc_eq]
  exact (Reflux.logicProcessRetemp_within _ _ s).mono inside

/-- No channel changes what enables a channel. -/
theorem enabled_within (st : Within retempWrites s t) : Enabled i t ↔ Enabled i s := by
  rw [Enabled, Enabled, st.reg (by decide)]

theorem preReflux_untouched (i : Fin 4) : Reg.pPreTpRf1 + 100 * i.val ∉ retempWrites := by
  match i with
  | 0 | 1 | 2 | 3 => decide

/-- No channel changes what the choice of cold water depends on. -/
theorem cold_within (st : Within retempWrites s t) : kind.Cold i t ↔ kind.Cold i s := by
  cases kind with
  | normal =>
      show ColdDay t ↔ ColdDay s
      rw [ColdDay, ColdDay, st.getVal (by decide), st.getVal (by decide)]
  | pre =>
      show t.getFval _ > 0 ↔ s.getFval _ > 0
      rw [getFval, getFval, st.getVal (preReflux_untouched i)]

end

end Jincubator
