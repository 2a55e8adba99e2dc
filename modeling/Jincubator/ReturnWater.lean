import Jincubator.Library.Rounding
import Jincubator.Outputs

/-! # Return water

Four channels feed cold or hot return water, each through a valve that is opened
in pulses: a working time, an idle time, and after a number of such cycles open
for good. The eight functions of the source, four for the running incubator and
four for preheating, are one text over the registers of a channel.
-/

namespace Jincubator

open Incubator Rounding

/-- `get_fval`: hundredths, divided in double and kept in single precision. -/
def Incubator.getFval (s : Incubator) (index : Nat) : ℚ := single (s.getVal index / 100)

structure Reflux where
  /-- The bit of `REFLUX_TEMPERATURE`. -/
  mask : Word
  valve : Nat
  /-- The valve that the first cold branch opens. -/
  coldValve : Nat
  delayTime : Nat
  workTime : Nat
  stopTime : Nat
  workCycle : Nat
  hotInit : Nat
  coldInit : Nat
  current : Nat
  setting : Nat

namespace Reflux

variable (c : Reflux)

/-- The first pulse of a demand starts the working time and counts cycles from zero. -/
def beginPulse (init : Nat) (s : Incubator) : Incubator :=
  if s.getUval init = 0 then
    s |> setUval c.workTime (s.getUval Reg.pRtempGzs)
      |> setUval c.workCycle 0
      |> setUval init 1
  else s

/-- The working time is used up. -/
def endPulse (init : Nat) (s : Incubator) : Incubator :=
  if s.getUval init = 1 then
    s |> setUval c.stopTime (s.getUval Reg.pRtempZqs - s.getUval Reg.pRtempGzs)
      |> setUval init 2
  else s

/-- The idle time closes the valve; then the next cycle begins. -/
def idlePulse (init : Nat) (s : Incubator) : Incubator :=
  if s.getUval c.stopTime > 0 then controlCool2 c.valve off s
  else if s.getUval init = 2 then
    s |> setUval c.workTime (s.getUval Reg.pRtempGzs)
      |> setUval c.workCycle (s.getUval c.workCycle + 1)
      |> setUval init 1
  else s

def pulseValve (init workValve : Nat) (s : Incubator) : Incubator :=
  if s.getUval c.workCycle < s.getUval Reg.pRtempZqc then
    if s.getUval c.workTime > 0 then controlCool2 workValve on s
    else s |> c.endPulse init |> c.idlePulse init
  else controlCool2 c.valve on s

/-- One kind of water, demanded or not. -/
def water (demanded : Prop) [Decidable demanded] (init workValve : Nat) (s : Incubator) :
    Incubator :=
  if demanded then s |> c.beginPulse init |> c.pulseValve init workValve
  else s |> controlCool2 c.valve off |> setUval init 0

def coldWater (s : Incubator) : Incubator :=
  let s := s |> setUval c.hotInit 0 |> controlColdHotWater off
  if s.getUval c.delayTime = 0 then
    c.water (s.getUval c.current > ushort (s.getVal c.setting)) c.coldInit c.coldValve s
  else s

def hotWater (s : Incubator) : Incubator :=
  let s := s |> setUval c.coldInit 0 |> controlColdHotWater on
  if s.getUval c.delayTime = 0 then
    c.water (s.getUval c.current < ushort (s.getVal c.setting)) c.hotInit c.valve s
  else s

def logicProcessRetemp (cold : Prop) [Decidable cold] (s : Incubator) : Incubator :=
  if s.reg Reg.refluxTemperature &&& c.mask ≠ 0 then
    if cold then c.coldWater s else c.hotWater s
  else controlCool2 c.valve off s

end Reflux

def reflux1 : Reflux where
  mask := 0x01
  valve := 1
  coldValve := 1
  delayTime := Reg.refluxTemp1DelayTime
  workTime := Reg.refluxTemp1WorkTime
  stopTime := Reg.returnTemp1StopTime
  workCycle := Reg.returnTemp1WorkCycle
  hotInit := Reg.returnTemp1HotWaterOperatInit
  coldInit := Reg.reflowTemp1ColdWaterOperatInit
  current := Reg.rAiTpRf1
  setting := Reg.pAoTpRf1

def reflux2 : Reflux where
  mask := 0x02
  valve := 2
  coldValve := 2
  delayTime := Reg.refluxTemp2DelayTime
  workTime := Reg.refluxTemp2WorkTime
  stopTime := Reg.returnTemp2StopTime
  workCycle := Reg.returnTemp2WorkCycle
  hotInit := Reg.returnTemp2HotWaterOperatInit
  coldInit := Reg.reflowTemp2ColdWaterOperatInit
  current := Reg.rAiTpRf2
  setting := Reg.pAoTpRf2

def reflux3 : Reflux where
  mask := 0x04
  valve := 3
  coldValve := 3
  delayTime := Reg.refluxTemp3DelayTime
  workTime := Reg.refluxTemp3WorkTime
  stopTime := Reg.returnTemp3StopTime
  workCycle := Reg.returnTemp3WorkCycle
  hotInit := Reg.returnTemp3HotWaterOperatInit
  coldInit := Reg.reflowTemp3ColdWaterOperatInit
  current := Reg.rAiTpRf3
  setting := Reg.pAoTpRf3

/-- The first cold branch of the fourth channel opens the valve of the first. -/
def reflux4 : Reflux where
  mask := 0x08
  valve := 4
  coldValve := 1
  delayTime := Reg.refluxTemp4DelayTime
  workTime := Reg.refluxTemp4WorkTime
  stopTime := Reg.returnTemp4StopTime
  workCycle := Reg.returnTemp4WorkCycle
  hotInit := Reg.returnTemp4HotWaterOperatInit
  coldInit := Reg.reflowTemp4ColdWaterOperatInit
  current := Reg.rAiTpRf4
  setting := Reg.pAoTpRf4

/-- All four channels compare with the day that is set for the first. -/
def ColdDay (s : Incubator) : Prop :=
  s.getVal Reg.rRunDay ≥ s.getVal Reg.pPreTpRf1Day

instance (s : Incubator) : Decidable (ColdDay s) :=
  inferInstanceAs (Decidable (_ ≥ _))

def normalLogicProcessRetemp1Func (s : Incubator) : Incubator :=
  reflux1.logicProcessRetemp (ColdDay s) s

def normalLogicProcessRetemp2Func (s : Incubator) : Incubator :=
  reflux2.logicProcessRetemp (ColdDay s) s

def normalLogicProcessRetemp3Func (s : Incubator) : Incubator :=
  reflux3.logicProcessRetemp (ColdDay s) s

def normalLogicProcessRetemp4Func (s : Incubator) : Incubator :=
  reflux4.logicProcessRetemp (ColdDay s) s

def preLogicProcessRetemp1Func (s : Incubator) : Incubator :=
  reflux1.logicProcessRetemp (s.getFval Reg.pPreTpRf1 > 0) s

def preLogicProcessRetemp2Func (s : Incubator) : Incubator :=
  reflux2.logicProcessRetemp (s.getFval Reg.pPreTpRf2 > 0) s

def preLogicProcessRetemp3Func (s : Incubator) : Incubator :=
  reflux3.logicProcessRetemp (s.getFval Reg.pPreTpRf3 > 0) s

def preLogicProcessRetemp4Func (s : Incubator) : Incubator :=
  reflux4.logicProcessRetemp (s.getFval Reg.pPreTpRf4 > 0) s

/-! ## Footprints -/

namespace Reflux

def writes (c : Reflux) : List Nat :=
  [cool2Output c.valve, cool2Output c.coldValve, Reg.controlColdHotWater, c.workTime, c.stopTime,
    c.workCycle, c.hotInit, c.coldInit]

section

variable {s t : Incubator} {c : Reflux} {init workValve : Nat}

theorem mem_writes (c : Reflux) : cool2Output c.valve ∈ c.writes ∧
    cool2Output c.coldValve ∈ c.writes ∧ Reg.controlColdHotWater ∈ c.writes ∧
    c.workTime ∈ c.writes ∧ c.stopTime ∈ c.writes ∧ c.workCycle ∈ c.writes ∧
    c.hotInit ∈ c.writes ∧ c.coldInit ∈ c.writes := by
  simp [writes]

/-- What a demand of one kind of water writes. -/
def waterWrites (c : Reflux) (init workValve : Nat) : List Nat :=
  [cool2Output c.valve, cool2Output workValve, c.workTime, c.stopTime, c.workCycle, init]

theorem water_within {demanded : Prop} [Decidable demanded] (s : Incubator) :
    Within (c.waterWrites init workValve) s (c.water demanded init workValve s) := by
  set writes := c.waterWrites init workValve with footprint
  have own : cool2Output c.valve ∈ writes := by simp [footprint, waterWrites]
  have valve : cool2Output workValve ∈ writes := by simp [footprint, waterWrites]
  have work : c.workTime ∈ writes := by simp [footprint, waterWrites]
  have stop : c.stopTime ∈ writes := by simp [footprint, waterWrites]
  have cycle : c.workCycle ∈ writes := by simp [footprint, waterWrites]
  have mem : init ∈ writes := by simp [footprint, waterWrites]
  have begun (t : Incubator) : Within writes s (c.beginPulse init t) ↔ Within writes s t := by
    simp only [beginPulse, within_setUval mem, within_setUval work, within_setUval cycle,
      within_ite, ite_self]
  have ended (t : Incubator) : Within writes s (c.endPulse init t) ↔ Within writes s t := by
    simp only [endPulse, within_setUval mem, within_setUval stop, within_ite, ite_self]
  have idle (t : Incubator) : Within writes s (c.idlePulse init t) ↔ Within writes s t := by
    simp only [idlePulse, within_setUval mem, within_setUval work, within_setUval cycle,
      within_controlCool2 own, within_ite, ite_self]
  have pulse (t : Incubator) :
      Within writes s (c.pulseValve init workValve t) ↔ Within writes s t := by
    simp only [pulseValve, ended, idle, within_controlCool2 valve, within_controlCool2 own,
      within_ite, ite_self]
  simp only [water, pulse, begun, within_setUval mem, within_controlCool2 own, Within.refl,
    within_ite, ite_self]

theorem within_water {demanded : Prop} [Decidable demanded] (mem : init ∈ c.writes)
    (valve : cool2Output workValve ∈ c.writes) :
    Within c.writes s (c.water demanded init workValve t) ↔ Within c.writes s t := by
  obtain ⟨own, -, -, work, stop, cycle, -⟩ := c.mem_writes
  refine (water_within t).skip ?_
  simp only [waterWrites, List.cons_subset, List.nil_subset, and_true]
  exact ⟨own, valve, work, stop, cycle, mem⟩

theorem within_coldWater : Within c.writes s (c.coldWater t) ↔ Within c.writes s t := by
  obtain ⟨-, first, switch, -, -, -, hot, cold⟩ := c.mem_writes
  simp only [coldWater, within_water cold first, within_controlColdHotWater switch,
    within_setUval hot, within_ite, ite_self]

theorem within_hotWater : Within c.writes s (c.hotWater t) ↔ Within c.writes s t := by
  obtain ⟨own, -, switch, -, -, -, hot, cold⟩ := c.mem_writes
  simp only [hotWater, within_water hot own, within_controlColdHotWater switch,
    within_setUval cold, within_ite, ite_self]

theorem logicProcessRetemp_within (c : Reflux) (cold : Prop) [Decidable cold] (s : Incubator) :
    Within c.writes s (c.logicProcessRetemp cold s) := by
  obtain ⟨own, -⟩ := c.mem_writes
  simp only [logicProcessRetemp, within_coldWater, within_hotWater, within_controlCool2 own,
    Within.refl, within_ite, ite_self]

end

end Reflux

/-- The registers that the return-water control computes. -/
def retempWrites : List Nat :=
  reflux1.writes ++ reflux2.writes ++ reflux3.writes ++ reflux4.writes

section

variable {writes : List Nat} {s t : Incubator}

theorem within_retemp {c : Reflux} {cold : Prop} [Decidable cold] (allowed : c.writes ⊆ writes) :
    Within writes s (c.logicProcessRetemp cold t) ↔ Within writes s t :=
  (c.logicProcessRetemp_within cold t).skip allowed

/-- The four channels of the running incubator. -/
def normalRetemp (s : Incubator) : Incubator :=
  s |> normalLogicProcessRetemp1Func |> normalLogicProcessRetemp2Func
    |> normalLogicProcessRetemp3Func |> normalLogicProcessRetemp4Func

/-- The four channels while preheating. -/
def preRetemp (s : Incubator) : Incubator :=
  s |> preLogicProcessRetemp1Func |> preLogicProcessRetemp2Func
    |> preLogicProcessRetemp3Func |> preLogicProcessRetemp4Func

theorem normalRetemp_within (s : Incubator) : Within retempWrites s (normalRetemp s) := by
  rw [normalRetemp, normalLogicProcessRetemp4Func, within_retemp (by decide),
    normalLogicProcessRetemp3Func, within_retemp (by decide),
    normalLogicProcessRetemp2Func, within_retemp (by decide),
    normalLogicProcessRetemp1Func, within_retemp (by decide)]
  exact Within.refl _ _

theorem preRetemp_within (s : Incubator) : Within retempWrites s (preRetemp s) := by
  rw [preRetemp, preLogicProcessRetemp4Func, within_retemp (by decide),
    preLogicProcessRetemp3Func, within_retemp (by decide),
    preLogicProcessRetemp2Func, within_retemp (by decide),
    preLogicProcessRetemp1Func, within_retemp (by decide)]
  exact Within.refl _ _

end

end Jincubator
