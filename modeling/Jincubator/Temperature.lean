import Jincubator.JobTc
import Jincubator.Library.Rounding
import Jincubator.Outputs

/-! # Main temperature

One call of the temperature control compares the measured value with the set
point: below the proportional band it heats, above it cools, and inside it the
outputs follow down-counters that are loaded from the PID duties. The counters
are run down by the timer.
-/

namespace Jincubator

open Incubator Rounding

/-! ## Counters -/

/-- `float` to `short`: a 32-bit integer first, which saturates, then its low half. -/
def floatToShort (q : ℚ) : Int :=
  short (max (-2147483648) (min 2147483647 (truncate q)))

/-- `cycle * scale` in single precision. -/
def scaled (cycle : Int) (scale : ℚ) : Int :=
  floatToShort (roundTo 24 (cycle * scale))

/-- A counter is loaded with the whole cycle, and the word after it with the idle part. -/
def loadCount (count : Nat) (scale : ℚ) (s : Incubator) : Incubator :=
  let cycle := short (s.getUval Reg.pTempTo)
  let reriod := scaled cycle scale
  if reriod > 0 then s |> setUval (count + 1) (cycle - reriod) |> setUval count cycle
  else setUval count 0 s

/-- A counter is loaded again once it has run down or when the filtered value jumps. -/
def reloadCount (asked pidFilterStatus : Prop) [Decidable asked] [Decidable pidFilterStatus]
    (count : Nat) (scale : ℚ) (s : Incubator) : Incubator :=
  if asked then
    if s.getUval count = 0 ∨ pidFilterStatus then loadCount count scale s else s
  else setUval count 0 s

/-- `abs` of a 32-bit difference. -/
def abs32 (v : Int) : Int := int32 |int32 v|

/-- The filtered value crosses 5000 or moves by at least 500. -/
def FilterJump (old new : Int) : Prop :=
  (old ≤ 5000 ∧ new ≥ 5000) ∨ (old ≥ 5000 ∧ new ≤ 5000) ∨ abs32 (new - old) ≥ 500

instance (old new : Int) : Decidable (FilterJump old new) :=
  inferInstanceAs (Decidable (_ ∨ _ ∨ _))

def CountRuns (count : Nat) (s : Incubator) : Prop :=
  s.getUval count > 0 ∧ s.getUval count ≥ s.getUval (count + 1)

instance (count : Nat) (s : Incubator) : Decidable (CountRuns count s) :=
  inferInstanceAs (Decidable (_ ∧ _))

/-! ## The control function -/

def pidAirDoorOpen (s : Incubator) : Incubator :=
  let difference := short (s.getVal Reg.rAiTpMain - s.getVal Reg.pAoTpMain)
  let band := s.getX10Val Reg.pTempP
  let follow (opening : Int) (s : Incubator) :=
    if s.getVal Reg.rAiAd ≥ s.getVal Reg.pidAdValue + opening then setVal Reg.pidAdOpenStatus 0 s
    else setVal Reg.pidAdOpenStatus 1 s
  if difference > 0 then
    if difference ≤ band.tdiv 6 ∧ difference > 0 then follow 10 s
    else if difference ≤ band.tdiv 3 ∧ difference > band.tdiv 6 then follow 20 s
    else if difference ≤ band.tdiv 2 ∧ difference > band.tdiv 3 then follow 30 s
    else s
  else s

/-- `int *pout = (int *)&shm_out[FILTER_PID_TEMP_ARR]`, the first `count` entries. -/
def fillFilter (v : Int) : Nat → Incubator → Incubator
  | 0, s => s
  | count + 1, s =>
      s |> fillFilter v count |> setNativeInt Reg.filterPidTempArr count v

/-- Outside the band the integral and the moving average start afresh. -/
def leavePidRange (average : Int) (s : Incubator) : Incubator :=
  s |> setTime Reg.pidTempSum 0
    |> setTime Reg.pidPeriodCountMainHeater 0
    |> setVal Reg.pidTempModeStatus 0
    |> fillFilter average 10

def reloadCounts (s : Incubator) : Incubator :=
  let old := s.getInt Reg.pidTempOldFilterValue
  let new := s.getInt Reg.pidTempNewFilterValue
  let below := single (int32 (5000 - new) / 5000)
  let above := single (int32 (new - 5000) / 5000)
  let s := reloadCount (s.getUval Reg.pidTempMainHeater ≥ 0) (FilterJump old new)
    Reg.pidOnCountMainHeater (single (s.getUval Reg.pidTempMainHeater / 1000)) s
  let s := reloadCount (s.getUval Reg.pidTempCool ≠ 0) (FilterJump old new)
    Reg.pidOnCountCool below s
  let s := reloadCount (s.getUval Reg.pidTempDbOpen ≠ 0) (FilterJump old new)
    Reg.pidOnCountDbOpen below s
  let s := reloadCount (s.getUval Reg.pidTempDbClose ≠ 0) (FilterJump old new)
    Reg.pidOnCountDbClose above s
  setInt Reg.pidTempOldFilterValue new s

def pidRange (s : Incubator) : Incubator :=
  let s := s |> pidTempInit |> pidAirDoorOpen |> reloadCounts
  let s := controlMainHeat (if CountRuns Reg.pidOnCountMainHeater s then on else off) s
  controlCool (if CountRuns Reg.pidOnCountCool s then on else off) s

def auxHeatFunc (s : Incubator) : Incubator :=
  let current := s.getVal Reg.rAiTpMain
  let threshold := s.getVal Reg.pAoTpMain - s.getVal Reg.pAuh
  if current < threshold then controlAuxHeat on s
  else if current ≥ threshold then controlAuxHeat off s
  else s

/-- The fan follows the excess temperature, between its two limit frequencies; a call that divides
by a step of zero does not return. -/
def fanFrequency (current setting highTempAlarmStatus : Int) (s : Incubator) : Incubator :=
  if s.fanStatus = 1 then
    if current ≥ setting then
      if highTempAlarmStatus ≠ 0 then
        s.put Reg.sSyncMotorControlrunFreq (s.shmOut Reg.sSyncMotorUpperLimitFreq)
      else
        let difference := short ((current - setting).tdiv (s.getVal Reg.sSyncMotorStage))
        let freq := s.getVal Reg.sSyncMotorLowerLimitFreq +
          difference * s.getVal Reg.sSyncMotorBasics
        let freq :=
          if freq ≥ s.getVal Reg.sSyncMotorUpperLimitFreq then
            s.getVal Reg.sSyncMotorUpperLimitFreq
          else freq
        setVal Reg.sSyncMotorControlrunFreq freq s
    else if current < setting then
      s.put Reg.sSyncMotorControlrunFreq (s.shmOut Reg.sSyncMotorLowerLimitFreq)
    else s
  else s

/-- The measured temperature lies in the proportional band. -/
def InTempBand (s : Incubator) : Prop :=
  s.getVal Reg.rAiTpMain ≥ s.getVal Reg.pAoTpMain - (s.getX10Val Reg.pTempP).tdiv 2 ∧
    s.getVal Reg.rAiTpMain ≤ s.getVal Reg.pAoTpMain + (s.getX10Val Reg.pTempP).tdiv 2

instance (s : Incubator) : Decidable (InTempBand s) := inferInstanceAs (Decidable (_ ∧ _))

/-- Heating below the band, the counters inside it, cooling above it. -/
def tempBandFunc (current setting pidP : Int) (s : Incubator) : Incubator :=
  if current < setting - pidP then
    s |> controlMainHeat on |> controlCool off |> leavePidRange 10000
  else if current ≥ setting - pidP ∧ current ≤ setting + pidP then pidRange s
  else if current > setting + pidP then
    s |> controlCool on |> controlMainHeat off |> leavePidRange 5000
  else s

def logicProcessTempFunc (s : Incubator) : Incubator :=
  let current := s.getVal Reg.rAiTpMain
  let setting := s.getVal Reg.pAoTpMain
  let pidP := (s.getX10Val Reg.pTempP).tdiv 2
  let highTempAlarmStatus := s.getVal Reg.highTempAlarmStatus
  s |> auxHeatFunc
    |> tempBandFunc current setting pidP
    |> fanFrequency current setting highTempAlarmStatus

/-! ## Footprints -/

/-- The counters and the filtered value they were loaded at. -/
def reloadWrites : List Nat :=
  [Reg.pidOnCountMainHeater, Reg.pidOnCountMainHeater + 1, Reg.pidOnCountCool,
    Reg.pidOnCountCool + 1, Reg.pidOnCountDbOpen, Reg.pidOnCountDbOpen + 1,
    Reg.pidOnCountDbClose, Reg.pidOnCountDbClose + 1, Reg.pidTempOldFilterValue,
    Reg.pidTempOldFilterValue + 1]

/-- What is started afresh outside the band. -/
def leavePidWrites : List Nat :=
  List.range' Reg.filterPidTempArr 20 ++
    [Reg.pidTempSum, Reg.pidTempSum + 1, Reg.pidPeriodCountMainHeater,
      Reg.pidPeriodCountMainHeater + 1, Reg.pidTempModeStatus]

/-- The registers that the three branches of the band compute. -/
def tempBandWrites : List Nat :=
  pidTempWrites ++ reloadWrites ++ leavePidWrites ++
    [Reg.controlMainHeat, Reg.controlCool, Reg.pidAdOpenStatus]

/-- The registers that the temperature control computes. -/
def logicTempWrites : List Nat :=
  Reg.controlAuxHeat :: Reg.sSyncMotorControlrunFreq :: tempBandWrites

section

variable {writes : List Nat} {s t : Incubator}

@[simp] theorem within_loadCount {count : Nat} {scale : ℚ} (counter : count ∈ writes)
    (idle : count + 1 ∈ writes) :
    Within writes s (loadCount count scale t) ↔ Within writes s t := by
  simp [loadCount, counter, idle]

@[simp] theorem within_reloadCount {asked jump : Prop} [Decidable asked] [Decidable jump]
    {count : Nat} {scale : ℚ} (counter : count ∈ writes) (idle : count + 1 ∈ writes) :
    Within writes s (reloadCount asked jump count scale t) ↔ Within writes s t := by
  simp [reloadCount, counter, idle]

@[simp] theorem within_fillFilter {v : Int} {count : Nat}
    (allowed : ∀ index < count, Reg.filterPidTempArr + 2 * index ∈ writes ∧
      Reg.filterPidTempArr + 2 * index + 1 ∈ writes) :
    Within writes s (fillFilter v count t) ↔ Within writes s t := by
  induction count with
  | zero => rfl
  | succ count ih =>
      have here := allowed count (Nat.lt_succ_self _)
      rw [fillFilter, within_setNativeInt here.1 here.2]
      exact ih fun index bound => allowed index (Nat.lt_succ_of_lt bound)

@[simp] theorem within_pidTempInit (allowed : pidTempWrites ⊆ writes) :
    Within writes s (pidTempInit t) ↔ Within writes s t :=
  (pidTempInit_within t).skip allowed

@[simp] theorem within_pidAirDoorOpen (allowed : Reg.pidAdOpenStatus ∈ writes) :
    Within writes s (pidAirDoorOpen t) ↔ Within writes s t := by
  simp only [pidAirDoorOpen, within_ite, within_setVal allowed, ite_self]

theorem reloadCounts_within (s : Incubator) : Within reloadWrites s (reloadCounts s) := by
  simp (disch := decide) only [reloadCounts, within_setInt, within_reloadCount, Within.refl]

@[simp] theorem within_reloadCounts (allowed : reloadWrites ⊆ writes) :
    Within writes s (reloadCounts t) ↔ Within writes s t :=
  (reloadCounts_within t).skip allowed

theorem pidRange_within (s : Incubator) : Within tempBandWrites s (pidRange s) := by
  simp (disch := decide) only [pidRange, within_controlCool, within_controlMainHeat,
    within_reloadCounts, within_pidAirDoorOpen, within_pidTempInit, Within.refl]

@[simp] theorem within_auxHeatFunc (allowed : Reg.controlAuxHeat ∈ writes) :
    Within writes s (auxHeatFunc t) ↔ Within writes s t := by
  simp only [auxHeatFunc, within_ite, within_controlAuxHeat allowed, ite_self]

@[simp] theorem within_fanFrequency {current setting alarm : Int}
    (allowed : Reg.sSyncMotorControlrunFreq ∈ writes) :
    Within writes s (fanFrequency current setting alarm t) ↔ Within writes s t := by
  simp only [fanFrequency, within_ite, within_put allowed, within_setVal allowed, ite_self]

theorem leavePidRange_within (average : Int) (s : Incubator) :
    Within leavePidWrites s (leavePidRange average s) := by
  simp (disch := decide) only [leavePidRange, within_setTime, within_fillFilter, within_setVal,
    Within.refl]

@[simp] theorem within_leavePidRange {average : Int} (allowed : leavePidWrites ⊆ writes) :
    Within writes s (leavePidRange average t) ↔ Within writes s t :=
  (leavePidRange_within average t).skip allowed

theorem tempBandFunc_within (current setting pidP : Int) (s : Incubator) :
    Within tempBandWrites s (tempBandFunc current setting pidP s) := by
  have band : Within tempBandWrites s (pidRange s) := pidRange_within s
  simp (disch := decide) only [tempBandFunc, band, within_leavePidRange, within_ite,
    within_controlMainHeat, within_controlCool, Within.refl, ite_self]

@[simp] theorem within_tempBandFunc {current setting pidP : Int}
    (allowed : tempBandWrites ⊆ writes) :
    Within writes s (tempBandFunc current setting pidP t) ↔ Within writes s t :=
  (tempBandFunc_within current setting pidP t).skip allowed

theorem logicProcessTempFunc_within (s : Incubator) :
    Within logicTempWrites s (logicProcessTempFunc s) := by
  simp (disch := decide) only [logicProcessTempFunc, within_fanFrequency, within_tempBandFunc,
    within_auxHeatFunc, Within.refl]

@[simp] theorem within_logicProcessTempFunc (allowed : logicTempWrites ⊆ writes) :
    Within writes s (logicProcessTempFunc t) ↔ Within writes s t :=
  (logicProcessTempFunc_within t).skip allowed

end

/-! ## The outputs after a call -/

section

variable (s : Incubator)

/-- The registers as the band function finds them when it switches the outputs. -/
def reloaded : Incubator := s |> pidTempInit |> pidAirDoorOpen |> reloadCounts

theorem reloaded_within : Within (pidTempWrites ++ Reg.pidAdOpenStatus :: reloadWrites) s
    (reloaded s) := by
  simp (disch := decide) only [reloaded, within_reloadCounts, within_pidAirDoorOpen,
    within_pidTempInit, Within.refl]

/-- Inside the band the counter decides, outside it the side of the set point does. -/
theorem mainHeat_tempBand (current setting pidP : Int)
    (test : s.getVal Reg.testMainHeatMode = 0) :
    (tempBandFunc current setting pidP s).getVal Reg.controlMainHeat =
      if MainHeatForced s then 0
      else if current < setting - pidP ∨
        (current ≤ setting + pidP ∧ CountRuns Reg.pidOnCountMainHeater (reloaded s)) then 1
      else 0 := by
  rw [tempBandFunc]
  by_cases below : current < setting - pidP
  · have rest (t : Incubator) : Within (Reg.controlCool :: leavePidWrites) t
        (leavePidRange 10000 (controlCool off t)) := by
      simp (disch := decide) only [within_leavePidRange, within_controlCool, Within.refl]
    rw [if_pos below, (rest _).getVal (by decide), controlMainHeat, getVal_switchOutput]
    simp [test, below, short]
  by_cases inside : current ≤ setting + pidP
  · have rest (t : Incubator) (status : Int) :
        Within [Reg.controlCool] t (controlCool status t) := by
      simp (disch := decide) only [within_controlCool, Within.refl]
    have same := MainHeatForced.within (reloaded_within s) (by decide)
    rw [if_neg below, if_pos ⟨not_lt.mp below, inside⟩, pidRange, (rest _ _).getVal (by decide),
      controlMainHeat, getVal_switchOutput, ← reloaded,
      (reloaded_within s).getVal (by decide), test]
    by_cases runs : CountRuns Reg.pidOnCountMainHeater (reloaded s) <;>
      simp [same, below, inside, runs, short]
  · have rest (t : Incubator) : Within leavePidWrites t (leavePidRange 5000 t) :=
      leavePidRange_within 5000 t
    have before : Within [Reg.controlCool] s (controlCool on s) := by
      simp (disch := decide) only [within_controlCool, Within.refl]
    rw [if_neg below, if_neg fun band => inside band.2, if_pos (not_le.mp inside),
      (rest _).getVal (by decide), controlMainHeat, getVal_switchOutput,
      before.getVal (by decide), test]
    simp [MainHeatForced.within before (by decide), below, inside, short]

theorem cool_tempBand (current setting pidP : Int) (test : s.getVal Reg.testCoolMode = 0) :
    (tempBandFunc current setting pidP s).getVal Reg.controlCool =
      if FanStopped s then 0
      else if ¬ current < setting - pidP ∧
        (current ≤ setting + pidP → CountRuns Reg.pidOnCountCool (reloaded s)) then 1
      else 0 := by
  rw [tempBandFunc]
  by_cases below : current < setting - pidP
  · have before : Within [Reg.controlMainHeat] s (controlMainHeat on s) := by
      simp (disch := decide) only [within_controlMainHeat, Within.refl]
    rw [if_pos below, (leavePidRange_within _ _).getVal (by decide), controlCool,
      getVal_switchOutput, before.getVal (by decide), test]
    simp [FanStopped.within before (by decide), below, short]
  by_cases inside : current ≤ setting + pidP
  · have before : Within (Reg.controlMainHeat :: pidTempWrites ++ Reg.pidAdOpenStatus ::
        reloadWrites) s (controlMainHeat
          (if CountRuns Reg.pidOnCountMainHeater (reloaded s) then on else off) (reloaded s)) := by
      simp (disch := decide) only [reloaded, within_controlMainHeat, within_reloadCounts,
        within_pidAirDoorOpen, within_pidTempInit, Within.refl]
    have count (status : Int) : CountRuns Reg.pidOnCountCool
        (controlMainHeat status (reloaded s)) ↔ CountRuns Reg.pidOnCountCool (reloaded s) := by
      have heat : Within [Reg.controlMainHeat] (reloaded s)
          (controlMainHeat status (reloaded s)) := by
        simp (disch := decide) only [within_controlMainHeat, Within.refl]
      rw [CountRuns, CountRuns, heat.getUval (by decide), heat.getUval (by decide)]
    have same := FanStopped.within before (by decide)
    rw [if_neg below, if_pos ⟨not_lt.mp below, inside⟩, pidRange, ← reloaded, controlCool,
      getVal_switchOutput, before.getVal (by decide), test]
    by_cases runs : CountRuns Reg.pidOnCountCool (reloaded s) <;>
      simp [same, count, below, inside, runs, short]
  · rw [if_neg below, if_neg fun band => inside band.2, if_pos (not_le.mp inside)]
    have rest (t : Incubator) : Within (Reg.controlMainHeat :: leavePidWrites) t
        (leavePidRange 5000 (controlMainHeat off t)) := by
      simp (disch := decide) only [within_leavePidRange, within_controlMainHeat, Within.refl]
    rw [(rest _).getVal (by decide), controlCool, getVal_switchOutput, test]
    simp [below, inside, short]

@[simp] theorem scaled_zero (cycle : Int) : scaled cycle 0 = 0 := by
  simp [scaled, floatToShort, short]

theorem mainHeater_warm (pid : Int) (warm : s.getVal Reg.pAoTpMain ≤ s.getVal Reg.rAiTpMain) :
    mainHeater pid s = 0 := by
  simp [mainHeater, warm]

theorem cool_cold (pid : Int) (cold : s.getVal Reg.rAiTpMain ≤ s.getVal Reg.pAoTpMain) :
    (cool pid s).1 = 0 := by
  simp [cool, cold]

/-- At or above the set point the duty of the main heater is zero. -/
theorem pidTempInit_warm (warm : s.getVal Reg.pAoTpMain ≤ s.getVal Reg.rAiTpMain) :
    (pidTempInit s).getUval Reg.pidTempMainHeater = 0 := by
  simp only [pidTempInit]
  set t := setInt Reg.pidTempNewFilterValue _ _ with loop
  have kept : Within pidTempWrites s t := by
    simp (disch := decide) only [loop, pidCalc1, within_setInt, within_pidFilter, within_statics,
      within_pid, Within.refl]
  have duty (pid : Int) : mainHeater pid t = 0 := by
    refine mainHeater_warm t pid ?_
    rwa [kept.getVal (by decide), kept.getVal (by decide)]
  have latch (pid : Int) (u : Incubator) (i : Nat) :
      (cool pid u).2.getUval i = u.getUval i ∧ (dbOpen pid u).2.getUval i = u.getUval i ∧
        (dbClose pid u).2.getUval i = u.getUval i := ⟨rfl, rfl, rfl⟩
  simp (disch := decide) only [setUval_eq, getUval_setVal_of_ne, latch, getUval_setVal_self, duty]
  rfl

/-- At or below the set point no cooling is asked for. -/
theorem pidTempInit_cold (cold : s.getVal Reg.rAiTpMain ≤ s.getVal Reg.pAoTpMain) :
    (pidTempInit s).getUval Reg.pidTempCool = 0 := by
  simp only [pidTempInit]
  set t := setUval Reg.pidTempMainHeater _ _ with loop
  have kept : Within pidTempWrites s t := by
    simp (disch := decide) only [loop, pidCalc1, within_setInt, within_pidFilter, within_statics,
      within_pid, Within.refl, within_setUval]
  have asked (pid : Int) : (cool pid t).1 = 0 := by
    refine cool_cold t pid ?_
    rwa [kept.getVal (by decide), kept.getVal (by decide)]
  have latch (pid : Int) (u : Incubator) (i : Nat) :
      (dbOpen pid u).2.getUval i = u.getUval i ∧
        (dbClose pid u).2.getUval i = u.getUval i := ⟨rfl, rfl⟩
  simp (disch := decide) only [setUval_eq, getUval_setVal_of_ne, latch, getUval_setVal_self, asked]
  rfl

theorem reloadCount_unasked {asked jump : Prop} [Decidable asked] [Decidable jump] {count : Nat}
    {scale : ℚ} (idle : ¬asked) : (reloadCount asked jump count scale s).getUval count = 0 := by
  rw [reloadCount, if_neg idle, setUval_eq, getUval_setVal_self]
  rfl

theorem countRuns_zero {count : Nat} (used : s.getUval count = 0) : ¬CountRuns count s :=
  fun runs => absurd runs.1 (by rw [used]; decide)

/-- With a duty of zero a counter only stays where it is or is cleared. -/
theorem countRuns_reloadCount {asked jump : Prop} [Decidable asked] [Decidable jump] {count : Nat}
    (needed : asked) :
    CountRuns count (reloadCount asked jump count 0 s) ↔ CountRuns count s ∧ ¬jump := by
  have cleared : ¬CountRuns count (setUval count 0 s) :=
    countRuns_zero _ (getUval_setVal_self s count 0)
  rw [reloadCount, if_pos needed, loadCount, scaled_zero]
  by_cases used : s.getUval count = 0
  · simp [used, cleared, countRuns_zero]
  · by_cases jumps : jump <;> simp [used, jumps, cleared]

variable {s} in
theorem CountRuns.within {writes : List Nat} {t : Incubator} {count : Nat}
    (st : Within writes s t) (counter : count ∉ writes) (idle : count + 1 ∉ writes) :
    CountRuns count t ↔ CountRuns count s := by
  rw [CountRuns, CountRuns, st.getUval counter, st.getUval idle]

/-- The jump of the filtered value that the temperature loop computes from these registers. -/
def FilterJumps : Prop :=
  FilterJump ((pidTempInit s).getInt Reg.pidTempOldFilterValue)
    ((pidTempInit s).getInt Reg.pidTempNewFilterValue)

/-- At or above the set point the main heater inside the band only uses up an old count. -/
theorem countRuns_warm (warm : s.getVal Reg.pAoTpMain ≤ s.getVal Reg.rAiTpMain) :
    CountRuns Reg.pidOnCountMainHeater (reloaded s) ↔
      CountRuns Reg.pidOnCountMainHeater s ∧ ¬FilterJumps s := by
  have door : Within [Reg.pidAdOpenStatus] (pidTempInit s) (pidAirDoorOpen (pidTempInit s)) := by
    simp (disch := decide) only [within_pidAirDoorOpen, Within.refl]
  have loop : Within pidTempWrites s (pidTempInit s) := pidTempInit_within s
  rw [reloaded]
  set t := pidAirDoorOpen (pidTempInit s)
  have duty : t.getUval Reg.pidTempMainHeater = 0 :=
    (door.getUval (by decide)).trans (pidTempInit_warm s warm)
  have rest : Within (Reg.pidOnCountCool :: (Reg.pidOnCountCool + 1) :: reloadWrites.drop 4)
      (reloadCount (t.getUval Reg.pidTempMainHeater ≥ 0)
        (FilterJump (t.getInt Reg.pidTempOldFilterValue) (t.getInt Reg.pidTempNewFilterValue))
        Reg.pidOnCountMainHeater (single (t.getUval Reg.pidTempMainHeater / 1000)) t)
      (reloadCounts t) := by
    simp (disch := decide) only [reloadCounts, within_setInt, within_reloadCount, Within.refl]
  rw [CountRuns.within rest (by decide) (by decide), duty]
  simp only [Int.cast_zero, zero_div, single_zero]
  rw [countRuns_reloadCount t (le_refl 0), CountRuns.within door (by decide) (by decide),
    CountRuns.within loop (by decide) (by decide), FilterJumps,
    door.getInt (by decide) (by decide), door.getInt (by decide) (by decide)]

/-- The cooling count is reloaded second, from registers that only differ in the heating count. -/
theorem reloadCounts_cool (t : Incubator) :
    ∃ u, Within [Reg.pidOnCountMainHeater, Reg.pidOnCountMainHeater + 1] t u ∧
      Within (reloadWrites.drop 4)
        (reloadCount (u.getUval Reg.pidTempCool ≠ 0)
          (FilterJump (t.getInt Reg.pidTempOldFilterValue) (t.getInt Reg.pidTempNewFilterValue))
          Reg.pidOnCountCool (single (int32 (5000 - t.getInt Reg.pidTempNewFilterValue) / 5000))
          u)
        (reloadCounts t) := by
  refine ⟨reloadCount (t.getUval Reg.pidTempMainHeater ≥ 0)
    (FilterJump (t.getInt Reg.pidTempOldFilterValue) (t.getInt Reg.pidTempNewFilterValue))
    Reg.pidOnCountMainHeater (single (t.getUval Reg.pidTempMainHeater / 1000)) t, ?_, ?_⟩
  · simp (disch := decide) only [within_reloadCount, Within.refl]
  · simp (disch := decide) only [reloadCounts, within_setInt, within_reloadCount, Within.refl]

/-- At or below the set point the cooling count is cleared. -/
theorem countRuns_cold (cold : s.getVal Reg.rAiTpMain ≤ s.getVal Reg.pAoTpMain) :
    ¬CountRuns Reg.pidOnCountCool (reloaded s) := by
  have door : Within [Reg.pidAdOpenStatus] (pidTempInit s) (pidAirDoorOpen (pidTempInit s)) := by
    simp (disch := decide) only [within_pidAirDoorOpen, Within.refl]
  rw [reloaded]
  obtain ⟨u, heat, rest⟩ := reloadCounts_cool (pidAirDoorOpen (pidTempInit s))
  have unasked : ¬u.getUval Reg.pidTempCool ≠ 0 := by
    rw [heat.getUval (by decide), door.getUval (by decide), pidTempInit_cold s cold]
    exact fun h => h rfl
  rw [CountRuns.within rest (by decide) (by decide)]
  exact countRuns_zero _ (reloadCount_unasked u unasked)

/-! ## The outputs after a call of the control function -/

theorem auxHeat_logic (test : s.getVal Reg.testAuxHeatMode = 0) :
    (logicProcessTempFunc s).getVal Reg.controlAuxHeat =
      if AuxHeatForced s then 0
      else if s.getVal Reg.rAiTpMain < s.getVal Reg.pAoTpMain - s.getVal Reg.pAuh then 1
      else 0 := by
  have rest : Within (Reg.sSyncMotorControlrunFreq :: tempBandWrites) (auxHeatFunc s)
      (logicProcessTempFunc s) := by
    simp (disch := decide) only [logicProcessTempFunc, within_fanFrequency, within_tempBandFunc,
      Within.refl]
  rw [rest.getVal (by decide), auxHeatFunc]
  by_cases cold : s.getVal Reg.rAiTpMain < s.getVal Reg.pAoTpMain - s.getVal Reg.pAuh
  · simp [cold, controlAuxHeat, test, short]
  · simp [cold, not_lt.mp cold, controlAuxHeat, test, short]

/-- The band function starts from the registers after the auxiliary heater was switched, and the
fan frequency follows it. -/
theorem band_of_logic (i : Nat) (untouched : i ≠ Reg.sSyncMotorControlrunFreq) :
    (logicProcessTempFunc s).getVal i =
      (tempBandFunc (s.getVal Reg.rAiTpMain) (s.getVal Reg.pAoTpMain)
        ((s.getX10Val Reg.pTempP).tdiv 2) (auxHeatFunc s)).getVal i := by
  have rest (band : Incubator) (current setting alarm : Int) :
      Within [Reg.sSyncMotorControlrunFreq] band (fanFrequency current setting alarm band) := by
    simp (disch := decide) only [within_fanFrequency, Within.refl]
  exact (rest _ _ _ _).getVal (by simpa using untouched)

theorem mainHeat_logic (test : s.getVal Reg.testMainHeatMode = 0) :
    (logicProcessTempFunc s).getVal Reg.controlMainHeat =
      if MainHeatForced s then 0
      else if s.getVal Reg.rAiTpMain < s.getVal Reg.pAoTpMain - (s.getX10Val Reg.pTempP).tdiv 2 ∨
        (s.getVal Reg.rAiTpMain ≤ s.getVal Reg.pAoTpMain + (s.getX10Val Reg.pTempP).tdiv 2 ∧
          CountRuns Reg.pidOnCountMainHeater (reloaded (auxHeatFunc s))) then 1
      else 0 := by
  have aux : Within [Reg.controlAuxHeat] s (auxHeatFunc s) := by
    simp (disch := decide) only [within_auxHeatFunc, Within.refl]
  rw [band_of_logic s _ (by decide), mainHeat_tempBand]
  · simp only [MainHeatForced.within aux (by decide)]
  · rwa [aux.getVal (by decide)]

theorem cool_logic (test : s.getVal Reg.testCoolMode = 0) :
    (logicProcessTempFunc s).getVal Reg.controlCool =
      if FanStopped s then 0
      else if ¬ s.getVal Reg.rAiTpMain <
          s.getVal Reg.pAoTpMain - (s.getX10Val Reg.pTempP).tdiv 2 ∧
        (s.getVal Reg.rAiTpMain ≤ s.getVal Reg.pAoTpMain + (s.getX10Val Reg.pTempP).tdiv 2 →
          CountRuns Reg.pidOnCountCool (reloaded (auxHeatFunc s))) then 1
      else 0 := by
  have aux : Within [Reg.controlAuxHeat] s (auxHeatFunc s) := by
    simp (disch := decide) only [within_auxHeatFunc, Within.refl]
  rw [band_of_logic s _ (by decide), cool_tempBand]
  · simp only [FanStopped.within aux (by decide)]
  · rwa [aux.getVal (by decide)]

end

end Jincubator
