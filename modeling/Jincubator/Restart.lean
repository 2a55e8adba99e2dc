import Jincubator.RunMode

/-! # The seconds of incubation after a restart

A restart adds the time since the last system time that was saved to the seconds of
incubation, unless the sum exceeds forty days. The difference and the sum are words
of 32 bits, and a sum that wraps around below the limit is taken over.
-/

namespace Jincubator

open Footprint Incubator

/-! ## The end of the initialisation -/

namespace Incubator

/-- `memset` of shared registers to zero. -/
def memset (start len : Nat) (s : Incubator) : Incubator :=
  { s with shmOut := fun i => if start ≤ i ∧ i < start + len then 0 else s.shmOut i }

def memsetOld (len : Nat) (s : Incubator) : Incubator :=
  { s with shmOld := fun i => if i < len then 0 else s.shmOld i }

end Incubator

/-- The PID sums, the motor, inputs and outputs, alarms, buttons, lamps and filters. -/
def initParaClear (s : Incubator) : Incubator :=
  s |> setTime Reg.pidTempSum 0 |> setTime Reg.pidHumiSum 0
    |> setTime Reg.pidPeriodCountMainHeater 0 |> setTime Reg.pidPeriodCountHumi 0
    |> setVal Reg.pidTempModeStatus 0
    |> memsetOld 1000
    |> memset Reg.sSyncMotorControlCmd 7
    |> memset Reg.doInit 24 |> memset Reg.diInit 24
    |> memset Reg.pHh0Time 100 |> memset Reg.thereIsAnEggFlippingSignalAlarm 100
    |> memset Reg.rBtnTpMain 14
    |> memset Reg.outStFanStatus 100
    |> memset Reg.filterPidTempArr 100 |> memset Reg.filterPidHumiArr 100
    |> memset Reg.pidTempModeStatus 100

def fortyDays : Int := 60 * 60 * 24 * 40

/-- The restart correction, with the value of `time(NULL)`. -/
def resetRunTime (now : Int) (s : Incubator) : Incubator :=
  let currentIncubationDate := s.getTime Reg.rRunSecondHigh
  let currentSystemDate := uint32 now
  let previousSystemDate := s.getTime Reg.rSystemTimeHigh
  let currentShutdownTime :=
    uint32 (uint32 (currentSystemDate - previousSystemDate) + currentIncubationDate)
  if currentShutdownTime < fortyDays then setTime Reg.rRunSecondHigh currentShutdownTime s else s

def initParaStatus (s : Incubator) : Incubator :=
  let s :=
    s |> setVal Reg.rRunSecondStatus on |> setUval Reg.rPreStatus 1
      |> setUval Reg.statusDamperCheck off |> setUval Reg.pFanTime on
      |> setTime Reg.sSystemTimeHigh 0xffffffff
      |> setUval Reg.eggFlippingSignalRingingStatus on
      |> setUval Reg.noEggFlippingSignalRingingStatus on
  (List.range 12).foldl (fun s i => setUold (Reg.pHh0 + i) (s.getUval (Reg.pHh0 + i)) s) s

/-- Start or preheat mode lasts if the controller is to go on after a restart. -/
def initParaMode (s : Incubator) : Incubator :=
  if s.getVal Reg.runModeStatus ≠ 0 then
    let runMode := getRunMode 1 s
    if runMode / statusStartRecv % 2 ≠ 0 ∨ runMode / startsPreRecv % 2 ≠ 0 then s
    else setRunMode statusStopSent s
  else setRunMode statusStopSent s

/-- `init_para` after the parameters have their defaults. -/
def initParaEnd (now : Int) (s : Incubator) : Incubator :=
  s |> initParaClear |> resetRunTime now |> initParaStatus |> initParaMode

/-! ## What it leaves alone -/

/-- The words of the two times. -/
def timeWords : List Nat :=
  [Reg.rSystemTimeHigh, Reg.rSystemTimeHigh + 1, Reg.rRunSecondHigh, Reg.rRunSecondHigh + 1]

/-- The times are kept. -/
def KeepsTimes (s t : Incubator) : Prop := ∀ i ∈ timeWords, t.reg i = s.reg i

section

variable {s t u : Incubator} {start len i : Nat} {v : Int}

theorem KeepsTimes.refl (s : Incubator) : KeepsTimes s s := fun _ _ => rfl

/-- What keeps the times can be skipped. -/
theorem KeepsTimes.skip (tu : KeepsTimes t u) : KeepsTimes s u ↔ KeepsTimes s t :=
  forall₂_congr fun i mem => by rw [tu i mem]

theorem KeepsTimes.getTime (st : KeepsTimes s t)
    (mem : i ∈ [Reg.rSystemTimeHigh, Reg.rRunSecondHigh]) : t.getTime i = s.getTime i := by
  have words : i ∈ timeWords ∧ i + 1 ∈ timeWords := by
    simp only [List.mem_cons, List.not_mem_nil, or_false] at mem
    rcases mem with rfl | rfl <;> decide
  rw [getTime_eq, getTime_eq, st i words.1, st (i + 1) words.2]

theorem keepsTimes_memset (apart : ∀ i ∈ timeWords, ¬(start ≤ i ∧ i < start + len)) :
    KeepsTimes s (memset start len t) ↔ KeepsTimes s t :=
  KeepsTimes.skip fun i mem => congrArg baWord (if_neg (apart i mem))

theorem keepsTimes_memsetOld : KeepsTimes s (memsetOld len t) ↔ KeepsTimes s t := Iff.rfl

theorem keepsTimes_setVal (apart : i ∉ timeWords) :
    KeepsTimes s (setVal i v t) ↔ KeepsTimes s t :=
  KeepsTimes.skip fun _ mem => reg_setVal_of_ne t v fun same => apart (same ▸ mem)

theorem keepsTimes_setTime (high : i ∉ timeWords) (low : i + 1 ∉ timeWords) :
    KeepsTimes s (setTime i v t) ↔ KeepsTimes s t := by
  rw [setTime_eq, setInt_eq, keepsTimes_setVal low, keepsTimes_setVal high]

theorem initParaClear_keepsTimes (s : Incubator) : KeepsTimes s (initParaClear s) := by
  simp (disch := decide) only [initParaClear, keepsTimes_memset, keepsTimes_memsetOld,
    keepsTimes_setVal, keepsTimes_setTime, KeepsTimes.refl]

theorem initParaStatus_keepsTimes (s : Incubator) : KeepsTimes s (initParaStatus s) := by
  have seen (l : List Nat) (t : Incubator) : KeepsTimes t
      (l.foldl (fun s i => setUold (Reg.pHh0 + i) (s.getUval (Reg.pHh0 + i)) s) t) := by
    induction l generalizing t with
    | nil => exact KeepsTimes.refl t
    | cons i l ih => exact ih _
  rw [initParaStatus, KeepsTimes.skip (seen _ _)]
  simp (disch := decide) only [setUval_eq, keepsTimes_setVal, keepsTimes_setTime, KeepsTimes.refl]

theorem initParaMode_keepsTimes (s : Incubator) : KeepsTimes s (initParaMode s) := by
  have stopped : Within (writtenModes.map (Reg.systemInit + ·)) s
      (setRunMode statusStopSent s) :=
    (within_setRunMode fun i mem => List.mem_map_of_mem mem).mpr (.refl _ _)
  have kept : Within (writtenModes.map (Reg.systemInit + ·)) s (initParaMode s) := by
    simp only [initParaMode, within_ite, stopped, Within.refl, ite_self]
  exact fun i mem => kept.reg (by revert i mem; decide)

/-! ## The correction -/

/-- The seconds of incubation are at least those that were saved, and those since then are added
exactly if the clock has not gone back and the sum is below forty days. -/
def LosesNoTime (saved previous current seconds : Int) : Prop :=
  saved ≤ seconds ∧
    seconds = if previous ≤ current ∧ saved + (current - previous) < fortyDays then
      saved + (current - previous) else saved

/-- The sum does not wrap around, or it is at least forty days when it has. -/
def NoFalseSum (saved previous current : Int) : Prop :=
  if previous ≤ current then
    saved + (current - previous) < 2 ^ 32 ∨ 2 ^ 32 + fortyDays ≤ saved + (current - previous)
  else if previous - current ≤ saved then fortyDays ≤ saved - (previous - current)
  else fortyDays ≤ 2 ^ 32 + saved - (previous - current)

theorem uint32_eq (v : Int) : uint32 v = v % 2 ^ 32 := by
  rw [uint32, BitVec.toNat_ofInt]
  omega

theorem getTime_range (s : Incubator) (i : Nat) : 0 ≤ s.getTime i ∧ s.getTime i < 2 ^ 32 := by
  rw [← uint32_getTime, uint32_eq]
  omega

theorem resetRunTime_getTime (now : Int) (s : Incubator) :
    (resetRunTime now s).getTime Reg.rRunSecondHigh =
      if (s.getTime Reg.rRunSecondHigh + (uint32 now - s.getTime Reg.rSystemTimeHigh)) % 2 ^ 32 <
          fortyDays then
        (s.getTime Reg.rRunSecondHigh + (uint32 now - s.getTime Reg.rSystemTimeHigh)) % 2 ^ 32
      else s.getTime Reg.rRunSecondHigh := by
  have sum : uint32 (uint32 (uint32 now - s.getTime Reg.rSystemTimeHigh) +
      s.getTime Reg.rRunSecondHigh) =
      (s.getTime Reg.rRunSecondHigh + (uint32 now - s.getTime Reg.rSystemTimeHigh)) % 2 ^ 32 := by
    rw [uint32_eq, uint32_eq (uint32 now - _), Int.emod_add_emod, add_comm]
  rw [resetRunTime, sum]
  split
  · rw [getTime_setTime_self, uint32_eq, Int.emod_emod]
  · rfl

/-- The 32-bit sum wraps around where the clock has gone back further than the seconds saved, and
where the sum does not fit. -/
theorem losesNoTime_iff {saved previous current : Int} (savedRange : 0 ≤ saved ∧ saved < 2 ^ 32)
    (previousRange : 0 ≤ previous ∧ previous < 2 ^ 32)
    (currentRange : 0 ≤ current ∧ current < 2 ^ 32) :
    LosesNoTime saved previous current
        (if (saved + (current - previous)) % 2 ^ 32 < fortyDays then
          (saved + (current - previous)) % 2 ^ 32 else saved) ↔
      NoFalseSum saved previous current := by
  have limit : fortyDays = 3456000 := rfl
  rw [LosesNoTime, NoFalseSum, limit]
  by_cases forward : previous ≤ current
  · simp only [forward, true_and, if_true]
    split_ifs <;> omega
  · simp only [forward, false_and, if_false]
    split_ifs <;> omega

/-- After `init_para` no time is lost exactly if there is no false sum. -/
theorem restart_iff (now : Int) (s : Incubator) :
    LosesNoTime (s.getTime Reg.rRunSecondHigh) (s.getTime Reg.rSystemTimeHigh) (uint32 now)
        ((initParaEnd now s).getTime Reg.rRunSecondHigh) ↔
      NoFalseSum (s.getTime Reg.rRunSecondHigh) (s.getTime Reg.rSystemTimeHigh) (uint32 now) := by
  have before := initParaClear_keepsTimes s
  have after := (KeepsTimes.skip (initParaMode_keepsTimes _)).mpr
    (initParaStatus_keepsTimes (resetRunTime now (initParaClear s)))
  have seconds : (initParaEnd now s).getTime Reg.rRunSecondHigh =
      (resetRunTime now (initParaClear s)).getTime Reg.rRunSecondHigh := after.getTime (by simp)
  rw [seconds, resetRunTime_getTime, before.getTime (by simp), before.getTime (by simp)]
  refine losesNoTime_iff (getTime_range s _) (getTime_range s _) ?_
  rw [uint32_eq]
  omega

def thousandSeconds : Incubator :=
  cleared |> setTime Reg.rSystemTimeHigh 1000000 |> setTime Reg.rRunSecondHigh 1000

/-- A clock that is set back by a hundred seconds takes them off the incubation. -/
theorem restart_loses_time : thousandSeconds.getTime Reg.rRunSecondHigh = 1000 ∧
    thousandSeconds.getTime Reg.rSystemTimeHigh = 1000000 ∧ uint32 999900 = 999900 ∧
    (initParaEnd 999900 thousandSeconds).getTime Reg.rRunSecondHigh = 900 ∧
    ¬LosesNoTime 1000 1000000 999900 900 := by
  refine ⟨by decide +kernel, by decide +kernel, by decide, by decide +kernel, fun kept => ?_⟩
  exact absurd kept.1 (by decide)

end

end Jincubator
