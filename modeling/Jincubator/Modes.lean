import Jincubator.Library.Run
import Jincubator.MainLoop
import Jincubator.Timer

/-! # The mode machine

Of everything the main loop and the timer touch, the run mode depends on few
words: the mode words themselves, the preheat times, the seconds of incubation
and what calibration saves. On these words a round of the loop and a tick of the
timer act as the machine below, whatever the controls do.
-/

namespace Jincubator

open Incubator

@[ext]
structure Modes where
  startSend : Word
  startRecv : Word
  stopSend : Word
  stopRecv : Word
  preSend : Word
  preRecv : Word
  initSend : Word
  initRecv : Word
  checkSend : Word
  checkRecv : Word
  preStatus : Word
  preStart : Int
  preStop : Int
  runSecond : Int
  runStatus : Word
  maxDay : Word
  backupMode : Word
  backupPreStatus : Word
  backupStart : Int
  backupStop : Int
  calibrationTime : Word
  hh9 : Word
  hh9Old : Word

namespace Modes

/-! ## Words -/

/-- The first words of a list of mode words, with their indices. -/
def sum (words : List (Nat × Word)) : Int :=
  words.foldl (fun mode word => ushort (mode + word.2.toNat * 2 ^ word.1)) 0

def getRunMode (type : Int) (m : Modes) : Int :=
  sum ([(0, m.startSend), (1, m.startRecv), (2, m.stopSend), (3, m.stopRecv), (4, m.preSend),
    (5, m.preRecv), (10, m.initSend), (11, m.initRecv)] ++
    if type ≠ 0 then [] else [(12, m.checkSend), (13, m.checkRecv)])

def bit (mode : Int) (i : Nat) : Word := BitVec.ofInt 16 (mode / 2 ^ i % 2)

theorem bit_toNat (mode : Int) (i : Nat) : ((bit mode i).toNat : Int) = mode / 2 ^ i % 2 := by
  rw [bit, BitVec.toNat_ofInt]
  omega

theorem bit_le (mode : Int) (i : Nat) : (bit mode i).toNat ≤ 1 := by
  have value := bit_toNat mode i
  omega

def setRunMode (mode : Int) (m : Modes) : Modes :=
  { m with
    startSend := bit mode 0, startRecv := bit mode 1, stopSend := bit mode 2,
    stopRecv := bit mode 3, preSend := bit mode 4, preRecv := bit mode 5,
    initSend := bit mode 10, checkRecv := bit mode 13 }

def keepRunning (m : Modes) : Modes := { m with runStatus := 1, preStatus := 1 }

def clearPreheat (m : Modes) : Modes := { m with preStart := 0, preStop := 0 }

/-! ## One round -/

def limitDays (m : Modes) : Modes :=
  if paraTime m.runSecond ≥ m.maxDay.toInt then
    m |> setRunMode statusStopSent |> setRunMode statusInitSend
  else m

def followHh9 (m : Modes) : Modes :=
  if m.hh9 ≠ m.hh9Old then
    { m with calibrationTime := BitVec.ofInt 16 (m.hh9.toNat * 60), hh9Old := m.hh9 }
  else m

def startInit (m : Modes) : Modes :=
  if m.startSend = 1 then m |> setRunMode statusStartRecv |> keepRunning |> clearPreheat else m

def startRun (m : Modes) : Modes := if m.startRecv = 1 then keepRunning m else m

def stopInit (m : Modes) : Modes :=
  if m.stopSend = 1 then m |> setRunMode statusStopRecv |> keepRunning |> clearPreheat else m

def stopRun (m : Modes) : Modes := if m.stopRecv = 1 then keepRunning m else m

def preheatRun (m : Modes) : Modes :=
  let m := if m.preStatus ≠ 0 then { setRunMode startsPreRecv m with preStatus := 0 } else m
  { m with runStatus := 0 }

def preheatExit (m : Modes) : Modes :=
  { m with runStatus := 1, runSecond := 0 } |> setRunMode statusStartSend |> clearPreheat

def preheat (clock : Clock) (m : Modes) : Modes :=
  if m.preStart ≠ 0 ∧ m.preStop ≠ 0 then
    if m.preStart < m.preStop ∧ m.preStop - m.preStart ≤ twoDaySeconds then
      let now := uint32 clock.preheat
      if now ≥ m.preStart ∧ now ≤ m.preStop then preheatRun m
      else if now > m.preStop then preheatExit m
      else m
    else if m.preStart = m.preStop then
      { setRunMode statusStopSent m with runStatus := 1 } |> clearPreheat
    else m
  else m

def initialise (m : Modes) : Modes :=
  if m.initSend = 1 then { m with initSend := 0, runSecond := 0, runStatus := 1 } else m

def backupModes (m : Modes) : Modes :=
  { m with
    backupMode := BitVec.ofInt 16 (m.getRunMode 1), backupPreStatus := m.preStatus,
    backupStart := m.preStart, backupStop := m.preStop }

def restoreModes (m : Modes) : Modes :=
  { setRunMode m.backupMode.toNat m with
    preStatus := m.backupPreStatus, preStart := m.backupStart, preStop := m.backupStop }

def checkStart (m : Modes) : Modes :=
  if m.checkSend = 1 ∧ m.checkRecv = 0 then
    { (m |> backupModes |> setRunMode (statusCheckSend + statusCheckRevv) |> clearPreheat) with
      calibrationTime := BitVec.ofInt 16 (m.hh9.toNat * 60) }
  else m

def checkOver (m : Modes) : Modes :=
  if m.checkSend = 1 ∧ m.checkRecv = 1 ∧ m.calibrationTime = 0 then restoreModes m else m

def checkCancelled (m : Modes) : Modes :=
  if m.checkSend = 0 ∧ m.checkRecv = 1 then { restoreModes m with calibrationTime := 0 } else m

def defaultMode (m : Modes) : Modes :=
  if m.getRunMode 0 = 0 then setRunMode statusStopSent m else m

def round (clock : Clock) (m : Modes) : Modes :=
  m |> limitDays |> followHh9 |> startInit |> startRun |> stopInit |> stopRun |> preheat clock
    |> initialise |> checkStart |> checkOver |> checkCancelled |> defaultMode

/-! ## One second -/

def second (m : Modes) : Modes :=
  { m with
    runSecond := if m.runStatus ≠ 0 then uint32 (m.runSecond + 1) else m.runSecond
    calibrationTime := if m.calibrationTime ≠ 0 then m.calibrationTime - 1 else 0 }

end Modes

/-! ## The modes of a state -/

def Incubator.modes (s : Incubator) : Modes where
  startSend := s.reg Reg.rStartSend
  startRecv := s.reg Reg.rStartRecv
  stopSend := s.reg Reg.rStopSend
  stopRecv := s.reg Reg.rStopRecv
  preSend := s.reg Reg.rPreSend
  preRecv := s.reg Reg.rPreRecv
  initSend := s.reg Reg.rInitSend
  initRecv := s.reg Reg.rInitRecv
  checkSend := s.reg Reg.rCheckSend
  checkRecv := s.reg Reg.rCheckRecv
  preStatus := s.reg Reg.rPreStatus
  preStart := s.getTime Reg.rPreStartTimeHigh
  preStop := s.getTime Reg.rPreStopTimeHigh
  runSecond := s.getTime Reg.rRunSecondHigh
  runStatus := s.reg Reg.rRunSecondStatus
  maxDay := s.reg Reg.rRunMaxDay
  backupMode := s.reg Reg.backupOperationMode
  backupPreStatus := s.reg Reg.backupPreStatus
  backupStart := s.getTime Reg.backupPreheatingStartTimeHigh
  backupStop := s.getTime Reg.backupPreheatingShutdownTimeHigh
  calibrationTime := s.reg Reg.calibrationRunTime
  hh9 := s.reg Reg.pHh9
  hh9Old := s.old Reg.pHh9

/-- The registers that the modes are read from. -/
def modeRegisters : List Nat :=
  List.range' Reg.systemInit 7 ++ List.range' Reg.rInitSend 4 ++
    [Reg.rPreStartTimeHigh, Reg.rPreStartTimeHigh + 1, Reg.rPreStopTimeHigh,
      Reg.rPreStopTimeHigh + 1, Reg.rRunSecondHigh, Reg.rRunSecondHigh + 1, Reg.rRunSecondStatus,
      Reg.rRunMaxDay, Reg.pHh9] ++
    List.range' Reg.backupOperationMode 7

section

variable {s t : Incubator} {i : Nat} {v : Int}

theorem modes_congr (out : ∀ i ∈ modeRegisters, t.shmOut i = s.shmOut i)
    (old : t.shmOld Reg.pHh9 = s.shmOld Reg.pHh9) : t.modes = s.modes := by
  have reg (i : Nat) (mem : i ∈ modeRegisters) : t.reg i = s.reg i := congrArg baWord (out i mem)
  have time (i : Nat) (high : i ∈ modeRegisters) (low : i + 1 ∈ modeRegisters) :
      t.getTime i = s.getTime i := by
    rw [getTime_eq, getTime_eq, reg i high, reg (i + 1) low]
  have seen : t.old Reg.pHh9 = s.old Reg.pHh9 := congrArg baWord old
  simp (disch := decide) only [modes, reg, time, seen]

theorem modes_within {writes : List Nat} (st : Within writes s t)
    (apart : ∀ i ∈ modeRegisters, i ∉ writes) : t.modes = s.modes :=
  modes_congr (fun i mem => st.out i (apart i mem)) (congrFun st.old _)

theorem modes_setVal_of_notMem (apart : i ∉ modeRegisters) : (setVal i v s).modes = s.modes :=
  modes_within (put_within s i _) fun _ mem written =>
    apart (List.mem_singleton.mp written ▸ mem)

theorem modes_setTime_of_notMem (high : i ∉ modeRegisters) (low : i + 1 ∉ modeRegisters) :
    (setTime i v s).modes = s.modes := by
  rw [setTime_eq, setInt_eq, modes_setVal_of_notMem low, modes_setVal_of_notMem high]

theorem modes_setStartSend : (setVal Reg.rStartSend v s).modes =
    { s.modes with startSend := BitVec.ofInt 16 v } := by
  simp (disch := decide) only [modes, reg_setVal_self, reg_setVal_of_ne, getTime_setVal_of_ne]
  rfl

theorem modes_setStopSend : (setVal Reg.rStopSend v s).modes =
    { s.modes with stopSend := BitVec.ofInt 16 v } := by
  simp (disch := decide) only [modes, reg_setVal_self, reg_setVal_of_ne, getTime_setVal_of_ne]
  rfl

theorem modes_setPreSend : (setVal Reg.rPreSend v s).modes =
    { s.modes with preSend := BitVec.ofInt 16 v } := by
  simp (disch := decide) only [modes, reg_setVal_self, reg_setVal_of_ne, getTime_setVal_of_ne]
  rfl

theorem modes_setCheckSend : (setVal Reg.rCheckSend v s).modes =
    { s.modes with checkSend := BitVec.ofInt 16 v } := by
  simp (disch := decide) only [modes, reg_setVal_self, reg_setVal_of_ne, getTime_setVal_of_ne]
  rfl

theorem modes_setInitSend : (setVal Reg.rInitSend v s).modes =
    { s.modes with initSend := BitVec.ofInt 16 v } := by
  simp (disch := decide) only [modes, reg_setVal_self, reg_setVal_of_ne, getTime_setVal_of_ne]
  rfl

theorem modes_setPreStatus : (setVal Reg.rPreStatus v s).modes =
    { s.modes with preStatus := BitVec.ofInt 16 v } := by
  simp (disch := decide) only [modes, reg_setVal_self, reg_setVal_of_ne, getTime_setVal_of_ne]
  rfl

theorem modes_setRunStatus : (setVal Reg.rRunSecondStatus v s).modes =
    { s.modes with runStatus := BitVec.ofInt 16 v } := by
  simp (disch := decide) only [modes, reg_setVal_self, reg_setVal_of_ne, getTime_setVal_of_ne]
  rfl

theorem modes_setBackupMode : (setVal Reg.backupOperationMode v s).modes =
    { s.modes with backupMode := BitVec.ofInt 16 v } := by
  simp (disch := decide) only [modes, reg_setVal_self, reg_setVal_of_ne, getTime_setVal_of_ne]
  rfl

theorem modes_setBackupPreStatus : (setVal Reg.backupPreStatus v s).modes =
    { s.modes with backupPreStatus := BitVec.ofInt 16 v } := by
  simp (disch := decide) only [modes, reg_setVal_self, reg_setVal_of_ne, getTime_setVal_of_ne]
  rfl

theorem modes_setCalibrationTime : (setVal Reg.calibrationRunTime v s).modes =
    { s.modes with calibrationTime := BitVec.ofInt 16 v } := by
  simp (disch := decide) only [modes, reg_setVal_self, reg_setVal_of_ne, getTime_setVal_of_ne]
  rfl

theorem modes_setPreStart : (setTime Reg.rPreStartTimeHigh v s).modes =
    { s.modes with preStart := uint32 v } := by
  simp (disch := decide) only [modes, reg_setTime_of_ne, getTime_setTime_of_ne,
    getTime_setTime_self]
  rfl

theorem modes_setPreStop : (setTime Reg.rPreStopTimeHigh v s).modes =
    { s.modes with preStop := uint32 v } := by
  simp (disch := decide) only [modes, reg_setTime_of_ne, getTime_setTime_of_ne,
    getTime_setTime_self]
  rfl

theorem modes_setRunSecond : (setTime Reg.rRunSecondHigh v s).modes =
    { s.modes with runSecond := uint32 v } := by
  simp (disch := decide) only [modes, reg_setTime_of_ne, getTime_setTime_of_ne,
    getTime_setTime_self]
  rfl

theorem modes_setBackupStart : (setTime Reg.backupPreheatingStartTimeHigh v s).modes =
    { s.modes with backupStart := uint32 v } := by
  simp (disch := decide) only [modes, reg_setTime_of_ne, getTime_setTime_of_ne,
    getTime_setTime_self]
  rfl

theorem modes_setBackupStop : (setTime Reg.backupPreheatingShutdownTimeHigh v s).modes =
    { s.modes with backupStop := uint32 v } := by
  simp (disch := decide) only [modes, reg_setTime_of_ne, getTime_setTime_of_ne,
    getTime_setTime_self]
  rfl

theorem modes_setUold_of_ne (other : i ≠ Reg.pHh9) : (setUold i v s).modes = s.modes :=
  modes_congr (fun _ _ => rfl) (Function.update_of_ne other.symm _ _)

theorem modes_setHh9Old : (setUold Reg.pHh9 v s).modes =
    { s.modes with hh9Old := BitVec.ofInt 16 v } := by
  have seen : (setUold Reg.pHh9 v s).old Reg.pHh9 = BitVec.ofInt 16 v := by
    simp [setUold, Incubator.old, ushort2shm]
  rw [modes, seen]
  rfl

theorem modes_setRunMode (mode : Int) :
    (setRunMode mode s).modes = s.modes.setRunMode mode := by
  simp (disch := decide) only [setRunMode, writtenModes, List.foldl_cons, List.foldl_nil,
    setUval_eq, Modes.setRunMode, modes, reg_setVal_self, reg_setVal_of_ne, getTime_setVal_of_ne]
  rfl

theorem getRunMode_modes (type : Int) (s : Incubator) :
    s.modes.getRunMode type = getRunMode type s := by
  rw [Modes.getRunMode, getRunMode, readModes, Modes.sum]
  split <;> rfl

/-- A word is tested as a number. -/
theorem getVal_eq_on (s : Incubator) (i : Nat) : s.getVal i = on ↔ s.reg i = 1 := by
  rw [getVal_eq]
  refine ⟨fun one => BitVec.eq_of_toInt_eq (by rw [one]; rfl), fun one => ?_⟩
  rw [one]
  rfl

theorem getVal_eq_off (s : Incubator) (i : Nat) : s.getVal i = off ↔ s.reg i = 0 := by
  rw [getVal_eq]
  refine ⟨fun zero => BitVec.eq_of_toInt_eq (by rw [zero]; rfl), fun zero => ?_⟩
  rw [zero]
  rfl

theorem getUval_eq_zero (s : Incubator) (i : Nat) : s.getUval i = 0 ↔ s.reg i = 0 := by
  rw [getUval_eq]
  refine ⟨fun zero => BitVec.eq_of_toNat_eq (by simpa using zero), fun zero => ?_⟩
  rw [zero]
  rfl

/-! ## The blocks of a round -/

theorem modes_controls (st : Within controlWrites s t) : t.modes = s.modes :=
  modes_within st (by decide +kernel)

theorem modes_keepRunning : (keepRunning s).modes = s.modes.keepRunning := by
  rw [keepRunning, setUval_eq, modes_setPreStatus, modes_setRunStatus]
  rfl

theorem modes_clearPreheat : (clearPreheat s).modes = s.modes.clearPreheat := by
  rw [clearPreheat, modes_setPreStop, modes_setPreStart]
  rfl

theorem modes_reset : (s |> resetLoops |> resetReflux).modes = s.modes := by
  rw [modes_controls (resetReflux_within _), modes_controls (resetLoops_within _)]

theorem modes_switchedOff : (s |> outputsOff |> damperOff).modes = s.modes := by
  rw [modes_controls (damperOff_within _), modes_controls (outputsOff_within _)]

theorem modes_startInit : (startInit s).modes = s.modes.startInit := by
  rw [startInit, Modes.startInit, apply_ite modes]
  refine if_congr (getVal_eq_on s _) ?_ rfl
  rw [modes_clearPreheat, modes_keepRunning, modes_switchedOff, modes_reset, modes_setRunMode]

theorem modes_runLight (status : Int) : (controlRunLight status s).modes = s.modes :=
  modes_setVal_of_notMem (by decide)

theorem modes_startRun : (startRun s).modes = s.modes.startRun := by
  rw [startRun, Modes.startRun, apply_ite modes]
  refine if_congr (getVal_eq_on s _) ?_ rfl
  rw [modes_controls (startControls_within _), modes_keepRunning, modes_runLight]

theorem modes_stopInit : (stopInit s).modes = s.modes.stopInit := by
  rw [stopInit, Modes.stopInit, apply_ite modes]
  refine if_congr (getVal_eq_on s _) ?_ rfl
  rw [modes_clearPreheat, modes_keepRunning, modes_setRunMode]

theorem modes_stopRun : (stopRun s).modes = s.modes.stopRun := by
  rw [stopRun, Modes.stopRun, apply_ite modes]
  refine if_congr (getVal_eq_on s _) ?_ rfl
  rw [modes_controls (stopControls_within _), modes_keepRunning, modes_runLight]

theorem modes_preheatRun : (preheatRun s).modes = s.modes.preheatRun := by
  have init : (preheatInit s).modes =
      if s.modes.preStatus ≠ 0 then { s.modes.setRunMode startsPreRecv with preStatus := 0 }
      else s.modes := by
    rw [preheatInit, apply_ite modes]
    refine if_congr (not_congr (getUval_eq_zero s _)) ?_ rfl
    rw [modes_switchedOff, setUval_eq, modes_setPreStatus, modes_reset, modes_setRunMode]
    rfl
  rw [preheatRun, modes_controls (preheatControls_within _), modes_setRunStatus, init]
  rfl

theorem modes_preheatExit (now : Int) : (preheatExit now s).modes = s.modes.preheatExit := by
  simp only [preheatExit]
  rw [modes_clearPreheat, modes_setRunMode, modes_setRunStatus,
    modes_setTime_of_notMem (by decide) (by decide), setUval_eq,
    modes_setVal_of_notMem (by decide), modes_setRunSecond, modes_setRunStatus]
  rfl

theorem modes_preheat (clock : Clock) : (preheat clock s).modes = s.modes.preheat clock := by
  simp only [preheat, Modes.preheat, apply_ite modes, modes_preheatRun, modes_preheatExit,
    modes_clearPreheat, modes_setRunStatus, modes_setRunMode]
  rfl

theorem alarmSuppression_within (s : Incubator) :
    Within [Reg.rCloseAlaSend, Reg.rCloseAlaRecv, Reg.alarmSuppressionTime] s
      (alarmSuppression s) := by
  have begins (t : Incubator) : Within [Reg.rCloseAlaSend, Reg.rCloseAlaRecv,
      Reg.alarmSuppressionTime] t (suppressAlarm t) := by
    simp (disch := decide) only [suppressAlarm, within_ite, within_setVal, within_setUval,
      Within.refl, ite_self]
  have ends (t : Incubator) : Within [Reg.rCloseAlaSend, Reg.rCloseAlaRecv,
      Reg.alarmSuppressionTime] t (suppressionOver t) := by
    simp (disch := decide) only [suppressionOver, within_ite, within_setVal, Within.refl,
      ite_self]
  have cancels (t : Incubator) : Within [Reg.rCloseAlaSend, Reg.rCloseAlaRecv,
      Reg.alarmSuppressionTime] t (suppressionCancelled t) := by
    simp (disch := decide) only [suppressionCancelled, within_ite, within_setVal, within_setUval,
      Within.refl, ite_self]
  exact ((begins s).trans (ends _)).trans (cancels _)

theorem modes_initialise (now : Int) : (initialise now s).modes = s.modes.initialise := by
  rw [initialise, Modes.initialise, apply_ite modes]
  refine if_congr (getVal_eq_on s _) ?_ rfl
  rw [modes_setVal_of_notMem (by decide), modes_setRunStatus,
    modes_setTime_of_notMem (by decide) (by decide), setUval_eq,
    modes_setVal_of_notMem (by decide), modes_setRunSecond, modes_setRunStatus, modes_setInitSend]
  rfl

theorem modes_backupModes : (backupModes s).modes = s.modes.backupModes := by
  rw [backupModes, modes_setBackupStop, modes_setBackupStart, setUval_eq,
    modes_setBackupPreStatus, setUval_eq, modes_setBackupMode]
  simp only [ofInt_getUval, uint32_getTime, ← getRunMode_modes]
  rfl

theorem modes_restoreModes : (restoreModes s).modes = s.modes.restoreModes := by
  rw [restoreModes, modes_setPreStop, modes_setPreStart, setUval_eq, modes_setPreStatus,
    modes_setRunMode]
  simp only [ofInt_getUval, uint32_getTime]
  rfl

theorem modes_checkStart : (checkStart s).modes = s.modes.checkStart := by
  rw [checkStart, Modes.checkStart, apply_ite modes]
  refine if_congr (and_congr (getVal_eq_on s _) (getVal_eq_off s _)) ?_ rfl
  have entered : (s |> backupModes |> setRunMode (statusCheckSend + statusCheckRevv)
      |> checkControls |> clearPreheat).modes =
      (s.modes |> Modes.backupModes |> Modes.setRunMode (statusCheckSend + statusCheckRevv)
        |> Modes.clearPreheat) := by
    rw [modes_clearPreheat, modes_controls (checkControls_within _), modes_setRunMode,
      modes_backupModes]
  have para : (s |> backupModes |> setRunMode (statusCheckSend + statusCheckRevv)
      |> checkControls |> clearPreheat).modes.hh9 = s.modes.hh9 := by
    rw [entered]
    rfl
  rw [setUval_eq, modes_setCalibrationTime, entered, getUval_eq]
  exact congrArg (fun hh9 : Word => ({ (s.modes |> Modes.backupModes |> Modes.setRunMode
    (statusCheckSend + statusCheckRevv) |> Modes.clearPreheat) with
      calibrationTime := BitVec.ofInt 16 (hh9.toNat * 60) } : Modes)) para

theorem modes_checkOver : (checkOver s).modes = s.modes.checkOver := by
  have nested : checkOver s = if s.getVal Reg.rCheckSend = on ∧ s.getVal Reg.rCheckRecv = on ∧
      s.getUval Reg.calibrationRunTime = 0 then restoreModes s else s := by
    simp only [checkOver, ← ite_and, and_assoc]
  rw [nested, Modes.checkOver, apply_ite modes]
  exact if_congr (and_congr (getVal_eq_on s _) (and_congr (getVal_eq_on s _)
    (getUval_eq_zero s _))) modes_restoreModes rfl

theorem modes_checkCancelled : (checkCancelled s).modes = s.modes.checkCancelled := by
  rw [checkCancelled, Modes.checkCancelled, apply_ite modes]
  refine if_congr (and_congr (getVal_eq_off s _) (getVal_eq_on s _)) ?_ rfl
  rw [setUval_eq, modes_setCalibrationTime, modes_restoreModes]
  rfl

theorem modes_defaultMode : (defaultMode s).modes = s.modes.defaultMode := by
  simp only [defaultMode, Modes.defaultMode, apply_ite modes, getRunMode_modes, modes_setRunMode]

/-! ## The time function -/

theorem modes_updateRunDay (now : Int) : (updateRunDay now s).modes = s.modes.limitDays := by
  have day : (s |> setUval Reg.rRunDay (paraTime (s.getTime Reg.rRunSecondHigh))
      |> setTime Reg.rInitTimeHigh (now - s.getTime Reg.rRunSecondHigh)).modes = s.modes := by
    rw [modes_setTime_of_notMem (by decide) (by decide), setUval_eq,
      modes_setVal_of_notMem (by decide)]
  simp only [updateRunDay]
  rw [limitDays, Modes.limitDays, apply_ite modes, modes_setRunMode, modes_setRunMode, day]
  refine if_congr ?_ rfl rfl
  have longest := congrArg (fun m : Modes => m.maxDay.toInt) day
  exact iff_of_eq (congrArg (paraTime (s.getTime Reg.rRunSecondHigh) ≥ ·) longest)

theorem modes_followPara_of_notMem {para : Nat} {times : List Nat}
    (apart : ∀ time ∈ times, time ∉ modeRegisters) (other : para ≠ Reg.pHh9) :
    (followPara para times s).modes = s.modes := by
  have started (t : Incubator) : (times.foldl
      (fun s time => setUval time (s.getUval para * 60) s) t).modes = t.modes := by
    refine Run.run_view modes ?_ t
    intro time mem u
    rw [setUval_eq, modes_setVal_of_notMem (apart time mem)]
  rw [followPara]
  split
  · rw [modes_setUold_of_ne other, started]
  · rfl

theorem modes_followHh9 :
    (followPara Reg.pHh9 [Reg.calibrationRunTime] s).modes = s.modes.followHh9 := by
  have changed : s.getUval Reg.pHh9 ≠ s.getUold Reg.pHh9 ↔ s.modes.hh9 ≠ s.modes.hh9Old := by
    refine not_congr ⟨fun same => BitVec.eq_of_toNat_eq ?_, fun same => ?_⟩
    · exact_mod_cast (show ((s.reg Reg.pHh9).toNat : Int) = (s.old Reg.pHh9).toNat from same)
    · exact congrArg (fun word : Word => (word.toNat : Int)) same
  rw [followPara, Modes.followHh9, apply_ite modes]
  refine if_congr changed ?_ rfl
  rw [modes_setHh9Old, List.foldl_cons, List.foldl_nil, setUval_eq, modes_setCalibrationTime,
    ofInt_getUval]
  rfl

/-- Only one of the twelve parameters matters to the modes. -/
theorem modes_followParas : (followParas s).modes = s.modes.followHh9 := by
  simp only [followParas, paraTimes, List.foldl_cons, List.foldl_nil]
  rw [modes_followPara_of_notMem (by decide) (by decide),
    modes_followPara_of_notMem (by decide) (by decide), modes_followHh9]
  simp (disch := decide) only [modes_followPara_of_notMem]

theorem modes_runSysTime (now : Int) :
    (runSysTime now s).modes = (s.modes |> Modes.limitDays |> Modes.followHh9) := by
  have system (t : Incubator) : (acceptSystemTime t).modes = t.modes := by
    simp (disch := decide) only [acceptSystemTime, apply_ite modes, modes_setTime_of_notMem,
      ite_self]
  have running (t : Incubator) : (acceptSystemSecond t).modes = t.modes := by
    simp (disch := decide) only [acceptSystemSecond, apply_ite modes, modes_setTime_of_notMem,
      modes_setVal_of_notMem, ite_self]
  have damper (t : Incubator) : (acceptDamper t).modes = t.modes := by
    have old (u : Incubator) : (setOld Reg.pEditAd 0xffff u).modes = u.modes :=
      modes_setUold_of_ne (by decide)
    simp (disch := decide) only [acceptDamper, apply_ite modes, modes_setVal_of_notMem, old,
      ite_self]
  simp only [runSysTime]
  rw [modes_followParas, damper, modes_setVal_of_notMem (by decide),
    modes_setTime_of_notMem (by decide) (by decide), modes_updateRunDay, running, system]

/-! ## The machine refines the loop -/

/-- A round of the main loop acts on the modes as a round of the machine does. -/
theorem modes_mainRound (clock : Clock) (s : Incubator) :
    (mainRound clock s).modes = s.modes.round clock := by
  have test (t : Incubator) : (testControlMode t).modes = t.modes :=
    modes_within (testControlMode_within t) (by decide)
  have lamps (t : Incubator) : (directionFunc t).modes = t.modes :=
    modes_within (directionFunc_within t) (by decide)
  have alarm (t : Incubator) : (alarmSuppression t).modes = t.modes :=
    modes_within (alarmSuppression_within t) (by decide)
  rw [mainRound, lamps, test, modes_defaultMode, modes_checkCancelled, modes_checkOver,
    modes_checkStart, modes_initialise, alarm, modes_preheat, modes_stopRun, modes_stopInit,
    modes_startRun, modes_startInit, modes_runSysTime]
  rfl

/-! ## The machine refines the timer -/

theorem modes_countDown_of_notMem {time : Nat} (apart : time ∉ modeRegisters) :
    (countDown time s).modes = s.modes := by
  simp only [countDown, setUval_eq, apply_ite modes, modes_setVal_of_notMem apart, ite_self]

theorem modes_countDowns (times : List Nat) (apart : ∀ time ∈ times, time ∉ modeRegisters) :
    (times.foldl (fun s time => countDown time s) s).modes = s.modes :=
  Run.run_view modes (fun _ mem _ => modes_countDown_of_notMem (apart _ mem)) s

theorem modes_countCalibration : (countDown Reg.calibrationRunTime s).modes =
    { s.modes with calibrationTime :=
        if s.modes.calibrationTime ≠ 0 then s.modes.calibrationTime - 1 else 0 } := by
  have word : s.modes.calibrationTime = s.reg Reg.calibrationRunTime := rfl
  rw [countDown, setUval_eq, apply_ite modes, modes_setCalibrationTime, word]
  by_cases used : s.reg Reg.calibrationRunTime = 0
  · rw [if_neg (by rw [(getUval_eq_zero s _).mpr used]; decide), if_neg (not_not.mpr used), ← used]
    rfl
  · have left : s.getUval Reg.calibrationRunTime > 0 := by
      have unsigned : 0 ≤ s.getUval Reg.calibrationRunTime := Int.natCast_nonneg _
      have some := mt (getUval_eq_zero s _).mp used
      omega
    have word : BitVec.ofInt 16 (s.getUval Reg.calibrationRunTime - 1) =
        s.reg Reg.calibrationRunTime - 1 := by
      rw [sub_eq_add_neg, BitVec.ofInt_add, ofInt_getUval, BitVec.sub_eq_add_neg]
      rfl
    rw [if_pos left, if_pos used, word]

theorem modes_countSecond : (countSecond Reg.rRunSecondStatus Reg.rRunSecondHigh s).modes =
    { s.modes with runSecond :=
        if s.modes.runStatus ≠ 0 then uint32 (s.modes.runSecond + 1) else s.modes.runSecond } := by
  rw [countSecond, apply_ite modes, modes_setRunSecond]
  have word : s.getVal Reg.rRunSecondStatus ≠ 0 ↔ s.modes.runStatus ≠ 0 :=
    not_congr (getVal_eq_off s _)
  by_cases counting : s.modes.runStatus ≠ 0
  · rw [if_pos (word.mpr counting), if_pos counting]
    rfl
  · rw [if_neg (mt word.mp counting), if_neg counting]

theorem modes_countSystem :
    (countSecond Reg.rRunSystemSecondStatus Reg.rRunSystemSecondHigh s).modes = s.modes := by
  simp (disch := decide) only [countSecond, apply_ite modes, modes_setTime_of_notMem, ite_self]

theorem modes_countPeriod : (countPeriod s).modes = s.modes := by
  simp (disch := decide) only [countPeriod, apply_ite modes, modes_setTime_of_notMem, ite_self]

theorem modes_second : (second s).modes = s.modes.second := by
  have times : secondTimes = secondTimes.take 6 ++ Reg.calibrationRunTime :: secondTimes.drop 7 :=
    rfl
  simp only [second]
  rw [modes_countPeriod, times, List.foldl_append, List.foldl_cons,
    modes_countDowns _ (by decide), modes_countCalibration, modes_countDowns _ (by decide),
    modes_countSystem, modes_countSecond]
  rfl

theorem modes_timerCount (count : Int) : modes { s with timerCount := count } = s.modes := rfl

/-- Every tenth tick is a second for the machine, and the others are nothing. -/
theorem modes_timerCallbackFunc (s : Incubator) : (timerCallbackFunc s).modes =
    if s.timerCount + 1 ≥ 10 then s.modes.second else s.modes := by
  have damper : Within damperTickWrites s (closeSide.tick (openSide.tick s)) := by
    rw [within_closeSide (List.Subset.refl _), within_openSide (List.Subset.refl _)]
    exact Within.refl _ _
  simp only [timerCallbackFunc, divideTick, apply_ite modes, modes_second, modes_timerCount,
    modes_within damper (by decide), damper.timerCount]

end

end Jincubator
