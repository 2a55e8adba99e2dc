import Jincubator.Define
import Jincubator.Registers

/-! # Timer

The timer signal comes every tenth of a second. Each time it follows the damper:
one unit of travel takes a number of ticks, counted down for the direction that
is driven, and the end switches set the position. Every tenth time it counts the
seconds and runs all other times down.
-/

namespace Jincubator

open Incubator

def countDown (time : Nat) (s : Incubator) : Incubator :=
  if s.getUval time > 0 then setUval time (s.getUval time - 1) s else s

/-! ## Damper position -/

/-- One direction of the damper motor; the two halves of the timer function differ in these. -/
structure DamperSide where
  /-- The end switch. -/
  detect : Nat
  output : Nat
  /-- The position at the end switch. -/
  length : Nat
  testMode : Nat
  button : Nat
  /-- Ticks for one unit of travel. -/
  unitTime : Nat
  runningTime : Nat
  runningStatus : Nat
  otherTime : Nat
  otherStatus : Nat
  step : Int

def openSide : DamperSide where
  detect := Reg.detectDamperFullyOpen
  output := Reg.controlDamperOpen
  length := Reg.damperMaxLen
  testMode := Reg.testDamperOpenMode
  button := Reg.rBtnDrOn
  unitTime := Reg.damperTimeOpen
  runningTime := Reg.airDoorOpenRunningTime
  runningStatus := Reg.airDoorOpenRunningStatus
  otherTime := Reg.airDoorClosingRunningTime
  otherStatus := Reg.airDoorClosingRunningStatus
  step := 1

def closeSide : DamperSide where
  detect := Reg.detectDamperFullyClose
  output := Reg.controlDamperClose
  length := Reg.damperMinLen
  testMode := Reg.testDamperCloseMode
  button := Reg.rBtnDrOff
  unitTime := Reg.damperTimeClose
  runningTime := Reg.airDoorClosingRunningTime
  runningStatus := Reg.airDoorClosingRunningStatus
  otherTime := Reg.airDoorOpenRunningTime
  otherStatus := Reg.airDoorOpenRunningStatus
  step := -1

namespace DamperSide

variable (side : DamperSide)

/-- A new count takes over what is left of the other direction's. -/
def startCount (s : Incubator) : Incubator :=
  if s.getUval side.runningStatus = 0 then
    s |> setUval side.runningTime (s.getUval side.unitTime + s.getUval side.otherTime)
      |> setUval side.otherTime 0
      |> setUval side.runningStatus 1
  else s

/-- Below the greatest position when opening, above the least when closing. -/
def Room (s : Incubator) : Prop :=
  side.step * s.getVal Reg.rAiAd < side.step * s.getVal side.length

instance (s : Incubator) : Decidable (side.Room s) :=
  inferInstanceAs (Decidable (_ < _))

/-- The count has run down, so the damper has moved by one unit. -/
def move (s : Incubator) : Incubator :=
  if s.getUval side.runningTime = 0 ∧ s.getUval side.runningStatus = 1 then
    if side.Room s then
      s |> setUval Reg.rAiAd (s.getVal Reg.rAiAd + side.step)
        |> setUval side.runningStatus 0
    else s
  else s

/-- The end switch stops the motor and ends a test of this direction. -/
def arrive (s : Incubator) : Incubator :=
  s |> setUval side.output off
    |> setUval Reg.rAiAd (s.getUval side.length)
    |> setVal side.testMode off
    |> setVal side.button off

def drive (s : Incubator) : Incubator :=
  s |> setUval side.otherStatus 0 |> side.startCount |> side.move
    |> countDown side.runningTime

def tick (s : Incubator) : Incubator :=
  if s.getUval side.detect > 0 then side.arrive s
  else if s.getUval side.output > 0 then side.drive s
  else s

end DamperSide

/-! ## Seconds -/

/-- The times that are run down every second. -/
def secondTimes : List Nat :=
  [Reg.testBtnTime, Reg.pEggFlippingTime, Reg.eggFlippingSignalAlarmTime,
    Reg.noEggFlippingSignalAlarmTime, Reg.fanAlarmTime, Reg.alarmSuppressionTime,
    Reg.calibrationRunTime, Reg.carbonDioxideOperatingTime, Reg.carbonDioxideStopTime,
    Reg.highHumidityAlarmDelayTime,
    Reg.refluxTemp1WorkTime, Reg.returnTemp1StopTime, Reg.refluxTemp1DelayTime,
    Reg.refluxTemp2WorkTime, Reg.returnTemp2StopTime, Reg.refluxTemp2DelayTime,
    Reg.refluxTemp3WorkTime, Reg.returnTemp3StopTime, Reg.refluxTemp3DelayTime,
    Reg.refluxTemp4WorkTime, Reg.returnTemp4StopTime, Reg.refluxTemp4DelayTime,
    Reg.returnTempHighTempAlarmTime, Reg.returnTempLowTempAlarmTime,
    Reg.pidOnCountMainHeater, Reg.pidOnCountCool, Reg.pidOnCountBlower, Reg.pidOnCountDbOpen,
    Reg.pidOnCountDbClose]

def countSecond (status time : Nat) (s : Incubator) : Incubator :=
  if s.getVal status ≠ 0 then setTime time (s.getTime time + 1) s else s

def countPeriod (s : Incubator) : Incubator :=
  if s.getTime Reg.pidPeriodCountHumi > 0 then
    setTime Reg.pidPeriodCountHumi (s.getTime Reg.pidPeriodCountHumi - 1) s
  else s

def second (s : Incubator) : Incubator :=
  let s := s |> countSecond Reg.rRunSecondStatus Reg.rRunSecondHigh
    |> countSecond Reg.rRunSystemSecondStatus Reg.rRunSystemSecondHigh
  secondTimes.foldl (fun s time => countDown time s) s |> countPeriod

/-- Every tenth tick is a second. -/
def divideTick (s : Incubator) : Incubator :=
  if s.timerCount + 1 ≥ 10 then second { s with timerCount := 0 }
  else { s with timerCount := s.timerCount + 1 }

def timerCallbackFunc (s : Incubator) : Incubator :=
  s |> openSide.tick |> closeSide.tick |> divideTick

/-! ## Footprint -/

/-- The registers that follow the damper. -/
def damperTickWrites : List Nat :=
  [Reg.rAiAd, Reg.controlDamperOpen, Reg.controlDamperClose, Reg.testDamperOpenMode,
    Reg.testDamperCloseMode, Reg.rBtnDrOn, Reg.rBtnDrOff, Reg.airDoorOpenRunningTime,
    Reg.airDoorOpenRunningStatus, Reg.airDoorClosingRunningTime, Reg.airDoorClosingRunningStatus]

/-- The registers that count seconds. -/
def secondWrites : List Nat :=
  [Reg.rRunSecondHigh, Reg.rRunSecondHigh + 1, Reg.rRunSystemSecondHigh,
    Reg.rRunSystemSecondHigh + 1, Reg.pidPeriodCountHumi, Reg.pidPeriodCountHumi + 1] ++ secondTimes

section

variable {writes : List Nat} {s t : Incubator}

@[simp] theorem within_countDown {time : Nat} (allowed : time ∈ writes) :
    Within writes s (countDown time t) ↔ Within writes s t := by
  simp only [countDown, within_ite, within_setUval allowed, ite_self]

theorem DamperSide.drive_within (side : DamperSide) (s : Incubator) :
    Within [Reg.rAiAd, side.runningTime, side.runningStatus, side.otherTime, side.otherStatus] s
      (side.drive s) := by
  set writes := [Reg.rAiAd, side.runningTime, side.runningStatus, side.otherTime,
    side.otherStatus] with footprint
  have position : Reg.rAiAd ∈ writes := by simp [footprint]
  have time : side.runningTime ∈ writes := by simp [footprint]
  have status : side.runningStatus ∈ writes := by simp [footprint]
  have other : side.otherTime ∈ writes := by simp [footprint]
  have otherStatus : side.otherStatus ∈ writes := by simp [footprint]
  have move (t : Incubator) : Within writes s (side.move t) ↔ Within writes s t := by
    simp only [DamperSide.move, within_ite, within_setUval position, within_setUval status,
      ite_self]
  have start (t : Incubator) : Within writes s (side.startCount t) ↔ Within writes s t := by
    simp only [DamperSide.startCount, within_ite, within_setUval time, within_setUval other,
      within_setUval status, ite_self]
  simp only [DamperSide.drive, move, start, within_setUval otherStatus, within_countDown time,
    Within.refl]

theorem DamperSide.arrive_within (side : DamperSide) (s : Incubator) :
    Within [side.output, Reg.rAiAd, side.testMode, side.button] s (side.arrive s) := by
  simp [DamperSide.arrive]

theorem DamperSide.tick_within (side : DamperSide) (s : Incubator) :
    Within [Reg.rAiAd, side.output, side.testMode, side.button, side.runningTime,
      side.runningStatus, side.otherTime, side.otherStatus] s (side.tick s) := by
  have arrive : Within [Reg.rAiAd, side.output, side.testMode, side.button, side.runningTime,
      side.runningStatus, side.otherTime, side.otherStatus] s (side.arrive s) :=
    (side.arrive_within s).mono (by simp)
  have drive : Within [Reg.rAiAd, side.output, side.testMode, side.button, side.runningTime,
      side.runningStatus, side.otherTime, side.otherStatus] s (side.drive s) :=
    (side.drive_within s).mono (by simp)
  simp only [DamperSide.tick, within_ite, arrive, drive, Within.refl, ite_self]

theorem within_openSide (allowed : damperTickWrites ⊆ writes) :
    Within writes s (openSide.tick t) ↔ Within writes s t :=
  (openSide.tick_within t).skip (List.Subset.trans (by decide) allowed)

theorem within_closeSide (allowed : damperTickWrites ⊆ writes) :
    Within writes s (closeSide.tick t) ↔ Within writes s t :=
  (closeSide.tick_within t).skip (List.Subset.trans (by decide) allowed)

theorem second_within (s : Incubator) : Within secondWrites s (second s) := by
  have times (t : Incubator) :
      Within secondWrites s (secondTimes.foldl (fun s time => countDown time s) t) ↔
        Within secondWrites s t :=
    within_foldl (fun time mem _ => within_countDown (List.mem_append_right _ mem)) t
  have count {status time : Nat} (high : time ∈ secondWrites) (low : time + 1 ∈ secondWrites)
      (t : Incubator) :
      Within secondWrites s (countSecond status time t) ↔ Within secondWrites s t := by
    simp only [countSecond, within_ite, within_setTime high low, ite_self]
  simp (disch := decide) only [second, countPeriod, times, count, within_ite, within_setTime,
    Within.refl, ite_self]

/-- Apart from its own divider the timer only writes the damper and the times. -/
theorem timerCallbackFunc_within (s : Incubator) :
    Within (damperTickWrites ++ secondWrites)
      { s with timerCount := (timerCallbackFunc s).timerCount } (timerCallbackFunc s) := by
  have damper : Within (damperTickWrites ++ secondWrites) s (closeSide.tick (openSide.tick s)) := by
    rw [within_closeSide (List.subset_append_left _ _),
      within_openSide (List.subset_append_left _ _)]
    exact Within.refl _ _
  simp only [timerCallbackFunc]
  set t := closeSide.tick (openSide.tick s)
  have counted (u : Incubator) : Within (damperTickWrites ++ secondWrites) u (second u) :=
    (second_within u).mono (List.subset_append_right _ _)
  rw [divideTick]
  split
  · have later := counted { t with timerCount := 0 }
    exact ⟨damper.out.trans later.out, later.old.trans damper.old,
      later.fanStatus.trans damper.fanStatus, rfl⟩
  · exact ⟨damper.out, damper.old, damper.fanStatus, rfl⟩

theorem timer_timerCount (s : Incubator) : (timerCallbackFunc s).timerCount =
    if s.timerCount + 1 ≥ 10 then 0 else s.timerCount + 1 := by
  have damper : Within damperTickWrites s (closeSide.tick (openSide.tick s)) := by
    rw [within_closeSide (List.Subset.refl _), within_openSide (List.Subset.refl _)]
    exact Within.refl _ _
  rw [timerCallbackFunc, divideTick, damper.timerCount]
  split
  · exact (second_within _).timerCount
  · rfl

theorem timer_getVal (s : Incubator) {i : Nat} (untouched : i ∉ damperTickWrites ++ secondWrites) :
    (timerCallbackFunc s).getVal i = s.getVal i :=
  (timerCallbackFunc_within s).getVal untouched

end

/-! ## Running down -/

/-- What the timer counts up. -/
def secondCounts : List Nat :=
  [Reg.rRunSecondHigh, Reg.rRunSecondHigh + 1, Reg.rRunSystemSecondHigh,
    Reg.rRunSystemSecondHigh + 1, Reg.pidPeriodCountHumi, Reg.pidPeriodCountHumi + 1]

section

variable {time : Nat}

theorem countDown_self (time : Nat) (s : Incubator) :
    (countDown time s).getUval time = max 0 (s.getUval time - 1) := by
  have range := getUval_range s time
  rw [countDown]
  split
  · rw [setUval_eq, getUval_setVal_self, ushort_of_range (by omega)]
    omega
  · omega

theorem countDowns_other {l : List Nat} (other : time ∉ l) (s : Incubator) :
    (l.foldl (fun s i => countDown i s) s).getUval time = s.getUval time := by
  have counted : Within l s (l.foldl (fun s i => countDown i s) s) :=
    (within_foldl (fun i mem t => within_countDown mem) s).mpr (Within.refl _ _)
  exact counted.getUval other

/-- A time that is listed once is run down once. -/
theorem countDowns_self {l : List Nat} (listed : time ∈ l) (once : l.Nodup) (s : Incubator) :
    (l.foldl (fun s i => countDown i s) s).getUval time = max 0 (s.getUval time - 1) := by
  induction l generalizing s with
  | nil => cases listed
  | cons i l ih =>
      rw [List.nodup_cons] at once
      rw [List.foldl_cons]
      rcases List.mem_cons.mp listed with rfl | later
      · rw [countDowns_other once.1, countDown_self]
      · have apart : time ≠ i := fun same => once.1 (same ▸ later)
        have here : Within [i] s (countDown i s) :=
          (within_countDown List.mem_cons_self).mpr (Within.refl _ _)
        rw [ih later once.2, here.getUval (by simpa using apart)]

theorem second_split (s : Incubator) : ∃ t, Within secondCounts s t ∧
    Within secondCounts (secondTimes.foldl (fun s i => countDown i s) t) (second s) := by
  have count {status time : Nat} (high : time ∈ secondCounts) (low : time + 1 ∈ secondCounts)
      (s t : Incubator) :
      Within secondCounts s (countSecond status time t) ↔ Within secondCounts s t := by
    simp only [countSecond, within_ite, within_setTime high low, ite_self]
  refine ⟨s |> countSecond Reg.rRunSecondStatus Reg.rRunSecondHigh
    |> countSecond Reg.rRunSystemSecondStatus Reg.rRunSystemSecondHigh, ?_, ?_⟩
  · simp (disch := decide) only [count, Within.refl]
  · simp (disch := decide) only [second, countPeriod, within_ite, within_setTime, Within.refl,
      ite_self]

theorem second_runsDown (listed : time ∈ secondTimes) (apart : time ∉ secondCounts)
    (s : Incubator) : (second s).getUval time = max 0 (s.getUval time - 1) := by
  obtain ⟨t, before, after⟩ := second_split s
  rw [after.getUval apart, countDowns_self listed (by decide), before.getUval apart]

end

end Jincubator
