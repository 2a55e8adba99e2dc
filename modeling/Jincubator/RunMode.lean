import Jincubator.Define
import Jincubator.Registers

/-! # Run mode and system time

The run mode is a sum of fourteen words, some of which are left out on the way in
and some on the way out. The time function of the main loop follows the seconds
of incubation and asks for a stop, and at once for an initialisation instead, when
they reach the longest time allowed.
-/

namespace Jincubator

open Footprint Incubator

/-! ## Mode words -/

def statusStartSend : Int := 0x01
def statusStartRecv : Int := 0x02
def statusStopSent : Int := 0x04
def statusStopRecv : Int := 0x08
def startsPreRecv : Int := 0x20
def statusInitSend : Int := 0x400
def statusCheckSend : Int := 0x1000
def statusCheckRevv : Int := 0x2000

/-- Preheat status and alarm suppression are no modes; a type other than zero also leaves the
calibration words out. -/
def readModes (type : Int) : List Nat :=
  if type ≠ 0 then [0, 1, 2, 3, 4, 5, 10, 11] else [0, 1, 2, 3, 4, 5, 10, 11, 12, 13]

def getRunMode (type : Int) (s : Incubator) : Int :=
  (readModes type).foldl
    (fun mode i => ushort (mode + s.getUval (Reg.systemInit + i) * 2 ^ i)) 0

/-- The words that a mode is spread over: neither `R_INIT_RECV` nor `R_CHECK_SEND`. -/
def writtenModes : List Nat := [0, 1, 2, 3, 4, 5, 10, 13]

def setRunMode (mode : Int) (s : Incubator) : Incubator :=
  writtenModes.foldl (fun s i => setUval (Reg.systemInit + i) (mode / 2 ^ i % 2) s) s

/-! ## System time -/

/-- The values of `time(NULL)` in one round of the main loop. -/
structure Clock where
  runSysTime : Int
  preheat : Int
  preheatExit : Int
  initialise : Int

/-- Days and hours of `timer`, in one number. -/
def paraTime (seconds : Int) : Int :=
  let timestamp := int32 seconds
  ushort (timestamp.tdiv 86400 * 100 + (timestamp.tmod 86400).tdiv 3600)

/-- A system time that is set is handed to the operating system. -/
def acceptSystemTime (s : Incubator) : Incubator :=
  if s.getTime Reg.sSystemTimeHigh ≠ 0xffffffff then setTime Reg.sSystemTimeHigh 0xffffffff s
  else s

def acceptSystemSecond (s : Incubator) : Incubator :=
  let second := s.getTime Reg.sRunSystemSecondHigh
  if second ≠ 0xffffffff then
    s |> setVal Reg.rRunSystemSecondStatus off
      |> setTime Reg.rRunSystemSecondHigh second
      |> setVal Reg.rRunSystemSecondStatus on
      |> setTime Reg.sRunSystemSecondHigh 0xffffffff
  else s

/-- The stop mode is overwritten by the initialisation. -/
def limitDays (day : Int) (s : Incubator) : Incubator :=
  if day ≥ s.getVal Reg.rRunMaxDay then
    s |> setRunMode statusStopSent |> setRunMode statusInitSend
  else s

def updateRunDay (now : Int) (s : Incubator) : Incubator :=
  let second := s.getTime Reg.rRunSecondHigh
  s |> setUval Reg.rRunDay (paraTime second)
    |> setTime Reg.rInitTimeHigh (now - second)
    |> limitDays (paraTime second)

def Incubator.setOld (index : Nat) (data : Int) (s : Incubator) : Incubator :=
  { s with shmOld := Function.update s.shmOld index (short2shm data) }

/-- A corrected damper position is taken over within its limits. -/
def acceptDamper (s : Incubator) : Incubator :=
  if s.getOld Reg.pEditAd ≠ s.getVal Reg.pEditAd then
    let s :=
      if s.getVal Reg.pEditAd ≥ s.getVal Reg.damperMinLen ∧
          s.getVal Reg.pEditAd ≤ s.getVal Reg.damperMaxLen then
        setVal Reg.rAiAd (s.getVal Reg.pEditAd) s
      else s
    s |> setOld Reg.pEditAd 0xffff |> setVal Reg.pEditAd 0xffff
  else s

/-- A changed parameter starts the time that depends on it. -/
def followPara (para : Nat) (times : List Nat) (s : Incubator) : Incubator :=
  if s.getUval para ≠ s.getUold para then
    times.foldl (fun s time => setUval time (s.getUval para * 60) s) s
      |> setUold para (s.getUval para)
  else s

/-- The twelve parameters and the time that each of them starts, if any. -/
def paraTimes : List (Nat × List Nat) :=
  [(Reg.pHh0, [Reg.returnTempLowTempAlarmTime]), (Reg.pHh1, [Reg.eggFlippingSignalAlarmTime]),
    (Reg.pHh2, []), (Reg.pHh3, [Reg.testBtnTime]), (Reg.pHh4, []),
    (Reg.pHh5, [Reg.returnTempHighTempAlarmTime]), (Reg.pHh6, []), (Reg.pHh7, [Reg.fanAlarmTime]),
    (Reg.pHh8, [Reg.noEggFlippingSignalAlarmTime]), (Reg.pHh9, [Reg.calibrationRunTime]),
    (Reg.pHh10, [Reg.pEggFlippingTime]), (Reg.pHh11, [Reg.highHumidityAlarmDelayTime])]

def followParas (s : Incubator) : Incubator :=
  paraTimes.foldl (fun s para => followPara para.1 para.2 s) s

def runSysTime (now : Int) (s : Incubator) : Incubator :=
  let s := s |> acceptSystemTime |> acceptSystemSecond |> updateRunDay now
    |> setTime Reg.rSystemTimeHigh now
  s |> setVal Reg.rInitAiAd (s.getVal Reg.rAiAd) |> acceptDamper |> followParas

/-! ## What `run_sys_time` writes -/

/-- The part before the damper. -/
def timePart (now : Int) (s : Incubator) : Incubator :=
  let s := s |> acceptSystemTime |> acceptSystemSecond |> updateRunDay now
    |> setTime Reg.rSystemTimeHigh now
  setVal Reg.rInitAiAd (s.getVal Reg.rAiAd) s

theorem runSysTime_eq (now : Int) (s : Incubator) :
    runSysTime now s = followParas (acceptDamper (timePart now s)) := rfl

def timePartWrites : List Nat :=
  [Reg.sSystemTimeHigh, Reg.sSystemTimeHigh + 1, Reg.rRunSystemSecondStatus,
    Reg.rRunSystemSecondHigh, Reg.rRunSystemSecondHigh + 1, Reg.sRunSystemSecondHigh,
    Reg.sRunSystemSecondHigh + 1, Reg.rRunDay, Reg.rInitTimeHigh, Reg.rInitTimeHigh + 1,
    Reg.rSystemTimeHigh, Reg.rSystemTimeHigh + 1, Reg.rInitAiAd] ++
    writtenModes.map (Reg.systemInit + ·)

/-- The times that a changed parameter starts. -/
def paraTimers : List Nat := paraTimes.flatMap Prod.snd

section

variable {writes : List Nat} {s t : Incubator}

theorem within_setRunMode {mode : Int}
    (allowed : ∀ i ∈ writtenModes, Reg.systemInit + i ∈ writes) :
    Within writes s (setRunMode mode t) ↔ Within writes s t :=
  within_foldl (fun i mem _ => within_setUval (allowed i mem)) t

theorem timePart_within (now : Int) (s : Incubator) :
    Within timePartWrites s (timePart now s) := by
  have mode (v : Int) (t : Incubator) :
      Within timePartWrites s (setRunMode v t) ↔ Within timePartWrites s t :=
    within_setRunMode fun i mem => List.mem_append_right _ (List.mem_map_of_mem mem)
  have limit (day : Int) (t : Incubator) :
      Within timePartWrites s (limitDays day t) ↔ Within timePartWrites s t := by
    simp only [limitDays, within_ite, mode, ite_self]
  have day (t : Incubator) :
      Within timePartWrites s (updateRunDay now t) ↔ Within timePartWrites s t := by
    simp (disch := decide) only [updateRunDay, limit, within_setTime, within_setUval]
  have seconds (t : Incubator) :
      Within timePartWrites s (acceptSystemSecond t) ↔ Within timePartWrites s t := by
    simp (disch := decide) only [acceptSystemSecond, within_ite, within_setTime, within_setVal,
      ite_self]
  have system : Within timePartWrites s (acceptSystemTime s) := by
    simp (disch := decide) only [acceptSystemTime, within_ite, within_setTime, Within.refl,
      ite_self]
  rw [timePart, within_setVal (by decide), within_setTime (by decide) (by decide), day, seconds]
  exact system

theorem followPara_out (para : Nat) {times : List Nat} (sub : times ⊆ writes) (s : Incubator) :
    AgreeOff writes s.shmOut (followPara para times s).shmOut := by
  rw [followPara]
  split
  · have started : Within writes s
        (times.foldl (fun s time => setUval time (s.getUval para * 60) s) s) :=
      (within_foldl (fun time mem _ => within_setUval (sub mem)) s).mpr (Within.refl _ _)
    exact started.out
  · exact .refl _ _

theorem followParas_out (s : Incubator) : AgreeOff paraTimers s.shmOut (followParas s).shmOut := by
  have each (paras : List (Nat × List Nat)) (sub : ∀ para ∈ paras, para.2 ⊆ paraTimers)
      (t : Incubator) : AgreeOff paraTimers t.shmOut
        (paras.foldl (fun s para => followPara para.1 para.2 s) t).shmOut := by
    induction paras generalizing t with
    | nil => exact .refl _ _
    | cons para paras ih =>
        exact (followPara_out para.1 (sub para List.mem_cons_self) t).trans
          (ih (fun p mem => sub p (List.mem_cons_of_mem _ mem)) _)
  exact each paraTimes (fun para mem time listed => List.mem_flatMap.mpr ⟨para, mem, listed⟩) s

end

end Jincubator
