import Jincubator.InitPara
import Jincubator.StopMode
import Jincubator.ThreadWrites

/-! # A safe controller

What the registers of a running controller always satisfy: at most one damper output is
on, the damper position lies within its length, at most one test runs, and every channel
shows a temperature or an abnormal sensor. The modes exclude each other as well, unless a
start has restored them from different moments. Every step of every thread keeps this,
and a start establishes most of it from nothing and the rest from what the memory holds.
-/

namespace Jincubator

open Defaults Footprint Incubator

/-- A temperature from zero to fifty degrees, or the mark of an abnormal sensor. -/
def Credible (i : Fin 6) (s : Incubator) : Prop := reading i s ≤ 5000 ∨ reading i s = 0xffff

/-- Safe registers; the modes are so under a condition. -/
structure Safe (steady : Prop) (s : Incubator) : Prop where
  damper : Interlocked s
  modes : steady → s.modes.Exclusive
  position : InRange 0 160 s
  tests : OneTest s
  readings : ∀ i, Credible i s

/-- What a start needs of the memory. The length of the damper may not be set yet. -/
structure Sound (steady : Prop) (s : Incubator) : Prop where
  modes : steady → s.modes.Exclusive
  least : s.getVal Reg.damperMinLen = 0
  most : s.getVal Reg.damperMaxLen = 0 ∨ s.getVal Reg.damperMaxLen = 160
  position : 0 ≤ s.getVal Reg.rAiAd ∧ s.getVal Reg.rAiAd ≤ 160
  readings : ∀ i, Credible i s

def readingRegisters : List Nat :=
  (List.finRange 6).map fun i : Fin 6 => Reg.rAiTpMain + channelIndex i

def modeWords : List Nat := (readModes 0).map (Reg.systemInit + ·)

/-- The registers that the two are about, without the readings. -/
def guardedRegisters : List Nat :=
  damperOutputs ++ modeWords ++
    [Reg.backupOperationMode, Reg.rAiAd, Reg.damperMinLen, Reg.damperMaxLen] ++ testState

def safeRegisters : List Nat := guardedRegisters ++ readingRegisters

theorem modeWords_subset : modeWords ⊆ safeRegisters := by decide

/-- The words with which the operator asks for a mode. -/
def requestWords : List Nat :=
  [Reg.rStartSend, Reg.rStopSend, Reg.rPreSend, Reg.rInitSend, Reg.rCheckSend]

section

variable {steady : Prop} {s t : Incubator} {writes : List Nat}

theorem Safe.sound (safe : Safe steady s) : Sound steady s :=
  ⟨safe.modes, safe.position.1.1, Or.inr safe.position.1.2, safe.position.2, safe.readings⟩

theorem Safe.mono {later : Prop} (weaker : later → steady) (safe : Safe steady s) :
    Safe later s where
  damper := safe.damper
  modes rest := safe.modes (weaker rest)
  position := safe.position
  tests := safe.tests
  readings := safe.readings

/-! ## Registers -/

theorem exclusive_congr (same : ∀ i ∈ guardedRegisters, t.reg i = s.reg i)
    (exclusive : s.modes.Exclusive) : t.modes.Exclusive := by
  obtain ⟨binary, recv, backup⟩ := exclusive
  simp only [modes] at binary recv backup
  constructor <;> simp (disch := decide) only [modes, same]
  · exact binary
  · exact recv
  · exact backup

theorem reading_mem (i : Fin 6) : Reg.rAiTpMain + channelIndex i ∈ readingRegisters :=
  List.mem_map_of_mem (List.mem_finRange i)

theorem Credible.congr {i : Fin 6} (credible : Credible i s)
    (same : t.reg (Reg.rAiTpMain + channelIndex i) = s.reg (Reg.rAiTpMain + channelIndex i)) :
    Credible i t := by
  rwa [Credible, reading, getUval_eq, same, ← getUval_eq]

theorem Sound.congr (sound : Sound steady s) (same : ∀ i ∈ safeRegisters, t.reg i = s.reg i) :
    Sound steady t := by
  have value {i : Nat} (mem : i ∈ safeRegisters) : t.getVal i = s.getVal i := by
    rw [getVal_eq, same i mem, ← getVal_eq]
  constructor
  case modes =>
    exact fun rest =>
      exclusive_congr (fun i mem => same i (List.mem_append_left _ mem)) (sound.modes rest)
  case least =>
    rw [value (by decide)]
    exact sound.least
  case most =>
    rw [value (by decide)]
    exact sound.most
  case position =>
    rw [value (by decide)]
    exact sound.position
  case readings =>
    exact fun i => (sound.readings i).congr (same _ (List.mem_append_right _ (reading_mem i)))

theorem exclusive_binary (exclusive : s.modes.Exclusive) {i : Nat} (mem : i ∈ modeWords) :
    (s.reg i).toNat ≤ 1 :=
  exclusive.binary _ (List.mem_map_of_mem (f := s.reg) mem)

/-- Registers that are each taken from some sound memory, and the words of the modes from one. -/
theorem Sound.mixed (each : ∀ i ∈ safeRegisters, ∃ u, Sound steady u ∧ t.reg i = u.reg i)
    (together : steady → ∃ u, Sound steady u ∧ ∀ i ∈ recvWords, t.reg i = u.reg i) :
    Sound steady t := by
  have value {i : Nat} (mem : i ∈ safeRegisters) :
      ∃ u, Sound steady u ∧ t.getVal i = u.getVal i := by
    obtain ⟨u, sound, same⟩ := each i mem
    exact ⟨u, sound, by rw [getVal_eq, same, ← getVal_eq]⟩
  constructor
  case modes =>
    intro rest
    have word {i : Nat} (mem : i ∈ safeRegisters) :
        ∃ u : Incubator, u.modes.Exclusive ∧ t.reg i = u.reg i := by
      obtain ⟨u, sound, same⟩ := each i mem
      exact ⟨u, sound.modes rest, same⟩
    constructor
    case binary =>
      intro w listed
      obtain ⟨i, mem, rfl⟩ := List.mem_map.mp (show w ∈ modeWords.map t.reg from listed)
      obtain ⟨u, exclusive, same⟩ := word (modeWords_subset mem)
      rw [same]
      exact exclusive_binary exclusive mem
    case recv =>
      obtain ⟨u, sound, same⟩ := together rest
      have one := (sound.modes rest).recv
      simp only [Incubator.modes] at one ⊢
      rwa [same _ (by decide), same _ (by decide), same _ (by decide), same _ (by decide)]
    case backup =>
      obtain ⟨u, exclusive, same⟩ := word (show Reg.backupOperationMode ∈ safeRegisters by decide)
      have saved := exclusive.backup
      simp only [Incubator.modes] at saved ⊢
      rwa [same]
  case least =>
    obtain ⟨u, sound, same⟩ := value (show Reg.damperMinLen ∈ safeRegisters by decide)
    rw [same]
    exact sound.least
  case most =>
    obtain ⟨u, sound, same⟩ := value (show Reg.damperMaxLen ∈ safeRegisters by decide)
    rw [same]
    exact sound.most
  case position =>
    obtain ⟨u, sound, same⟩ := value (show Reg.rAiAd ∈ safeRegisters by decide)
    rw [same]
    exact sound.position
  case readings =>
    intro i
    obtain ⟨u, sound, same⟩ := each _ (List.mem_append_right _ (reading_mem i))
    exact (sound.readings i).congr same

/-- What writes none of the other registers keeps the controller safe if it shows credible
readings. -/
theorem Safe.shows (safe : Safe steady s) (st : AgreeOff writes s.shmOut t.shmOut)
    (apart : ∀ i ∈ guardedRegisters, i ∉ writes) (readings : ∀ i, Credible i t) :
    Safe steady t := by
  have value {i : Nat} (mem : i ∈ guardedRegisters) : t.getVal i = s.getVal i :=
    getVal_agree st (apart i mem)
  constructor
  case damper =>
    rw [Interlocked, value (by decide), value (by decide)]
    exact safe.damper
  case modes =>
    exact fun rest =>
      exclusive_congr (fun i mem => congrArg baWord (st i (apart i mem))) (safe.modes rest)
  case position =>
    rw [InRange, value (by decide), value (by decide), value (by decide)]
    exact safe.position
  case tests =>
    refine safe.tests.lower (value (by decide)) ?_
    intro mode flag
    exact Or.inl (value (List.mem_append_right _ (List.mem_cons_of_mem _ flag)))
  case readings => exact readings

theorem Credible.out {i : Fin 6} (credible : Credible i s)
    (st : AgreeOff writes s.shmOut t.shmOut) (apart : ∀ i ∈ readingRegisters, i ∉ writes) :
    Credible i t :=
  credible.congr (congrArg baWord (st _ (apart _ (reading_mem i))))

/-- What writes none of the registers keeps the controller safe. -/
theorem Safe.out (safe : Safe steady s) (st : AgreeOff writes s.shmOut t.shmOut)
    (apart : ∀ i ∈ safeRegisters, i ∉ writes) : Safe steady t := by
  refine safe.shows st (fun i mem => apart i (List.mem_append_left _ mem)) ?_
  intro i
  exact (safe.readings i).out st fun j mem => apart j (List.mem_append_right _ mem)

/-! ## The threads -/

theorem Safe.runSysTime (safe : Safe steady s) (now : Int) : Safe steady (runSysTime now s) := by
  have written := runSysTime_out now s
  constructor
  case damper =>
    rw [Interlocked, getVal_agree written (by decide), getVal_agree written (by decide)]
    exact safe.damper
  case modes =>
    rw [modes_runSysTime]
    exact fun rest => (safe.modes rest).limitDays.followHh9
  case position => exact runSysTime_range now safe.position
  case tests =>
    have untested : ∀ i ∈ testState, i ∉ sysTimeWrites := by decide
    refine safe.tests.lower (getVal_agree written (by decide)) ?_
    intro mode flag
    exact Or.inl (getVal_agree written (untested mode (List.mem_cons_of_mem _ flag)))
  case readings => exact fun i => (safe.readings i).out written (by decide)

theorem Safe.modeBlock (safe : Safe steady s) (clock : Clock) :
    ∀ block ∈ modeBlocks clock, Safe steady (block s) := by
  intro block mem
  have written := modeBlocks_within clock s block mem
  constructor
  case damper => exact modeBlocks_interlocked clock safe.damper block mem
  case modes => exact fun rest => modeBlocks_modes clock (safe.modes rest) block mem
  case position => exact safe.position.agree written.out (by decide +kernel)
  case tests => exact safe.tests.within written (by decide +kernel)
  case readings => exact fun i => (safe.readings i).out written.out (by decide +kernel)

theorem Safe.testControlMode (safe : Safe steady s) : Safe steady (testControlMode s) where
  damper := interlocked_testControlMode safe.damper
  modes := by
    rw [modes_within (testControlMode_within s) (by decide)]
    exact safe.modes
  position := safe.position.agree (testControlMode_within s).out (by decide)
  tests := (testControlMode_step safe.tests).1
  readings i := (safe.readings i).out (testControlMode_within s).out (by decide)

theorem Safe.roundBlock (safe : Safe steady s) (clock : Clock) :
    ∀ block ∈ roundBlocks clock, Safe steady (block s) := by
  intro block mem
  simp only [roundBlocks, List.mem_cons, List.mem_append, List.not_mem_nil, or_false] at mem
  rcases mem with rfl | mode | rfl | rfl
  · exact safe.runSysTime _
  · exact safe.modeBlock clock block mode
  · exact safe.testControlMode
  · exact safe.out (directionFunc_within s).out (by decide)

theorem Safe.timerCallbackFunc (safe : Safe steady s) : Safe steady (timerCallbackFunc s) where
  damper := interlocked_timerCallbackFunc safe.damper
  modes := by
    rw [modes_timerCallbackFunc]
    split
    · exact fun rest => (safe.modes rest).second
    · exact safe.modes
  position := (timer_range safe.position).1
  tests := timer_step safe.tests
  readings i := (safe.readings i).out (timerCallbackFunc_out s) (by decide)

/-- A reading of more than fifty degrees is never shown. -/
theorem publishReading_credible (i : Fin 6) {shown : Int} (word : 0 ≤ shown) (s : Incubator) :
    Credible i (publishReading i shown s) := by
  have index : (if i.val > 1 then i.val + 2 else i.val) = channelIndex i := rfl
  rw [Credible, reading, publishReading, index]
  dsimp only
  split
  · right
    rw [setUval_eq, getUval_setVal_self]
    decide
  · left
    rw [setUval_eq, getUval_setVal_self, ushort_of_range (by omega)]
    omega

theorem runAoCShm_nonneg (runAiITp : Int) : 0 ≤ runAoCShm runAiITp := by
  rw [runAoCShm, ushort_eq]
  split <;> omega

theorem publishWindow_credible (i : Fin 6) (data : List Rounding.Value) (s : Incubator) :
    Credible i (publishWindow i data s) :=
  publishReading_credible i (runAoCShm_nonneg _) _

theorem Safe.pollChannel {m : Pt100Thread} (safe : Safe steady m.inc) (i : Fin 6) :
    Safe steady (m.pollChannel i).inc := by
  have apart : ∀ i : Fin 6, (∀ j ∈ guardedRegisters, j ∉ pollWrites i) ∧
      ∀ j : Fin 6, j ≠ i → Reg.rAiTpMain + channelIndex j ∉ pollWrites i := by decide
  obtain ⟨guarded, others⟩ := apart i
  refine safe.shows (pt100_out i m) guarded ?_
  intro j
  by_cases other : j ≠ i
  · exact (safe.readings j).congr (congrArg baWord (pt100_out i m _ (others j other)))
  · obtain rfl := not_not.mp other
    rw [Pt100Thread.pollChannel]
    dsimp only
    split
    · exact publishWindow_credible j _ _
    · exact safe.readings j

theorem Safe.co2 {m : Co2Sensor} (safe : Safe steady m.inc) (r : Reply) :
    Safe steady (m.dataCollectionCo2Func r).inc :=
  safe.out (co2_out r m) (by decide)

theorem Safe.motor {m : MotorThread} (safe : Safe steady m.inc) (replies : MotorReplies) :
    Safe steady (m.synchronousMotorFunc replies).inc :=
  safe.out (motor_out replies m) (by decide)

theorem Safe.eggs {m : EggThread} (safe : Safe steady m.inc) (start now : Int) :
    Safe steady (flipEggFunc start now m).inc :=
  safe.out (eggs_out start now m) (by decide)

theorem Safe.alarm {m : AlarmThread} (safe : Safe steady m.inc) :
    Safe steady m.threadAlarmFunc.inc :=
  safe.out (alarmRound_within m).out (by decide)

theorem Safe.input (safe : Safe steady s) {index : Nat} (free : index ∉ safeRegisters)
    (value : Int) : Safe steady (setVal index value s) := by
  refine safe.out (put_within s index _).out ?_
  intro i mem same
  exact free (List.mem_singleton.mp same ▸ mem)

theorem Sound.input (sound : Sound steady s) {index : Nat} (free : index ∉ safeRegisters)
    (value : Int) : Sound steady (setVal index value s) := by
  refine sound.congr fun i mem => reg_setVal_of_ne s value ?_
  rintro rfl
  exact free mem

theorem exclusive_request (exclusive : s.modes.Exclusive) {word : Nat}
    (mem : word ∈ requestWords) (data : Bool) :
    (setVal word (if data then on else off) s).modes.Exclusive :=
  exclusive_step s (.request word mem data) exclusive

theorem Safe.request (safe : Safe steady s) {word : Nat} (mem : word ∈ requestWords) (data : Bool) :
    Safe steady (setVal word (if data then on else off) s) := by
  have apart : ∀ word ∈ requestWords, (∀ i ∈ damperOutputs, i ∉ [word]) ∧ RangeApart [word] ∧
      (∀ i ∈ testState, i ∉ [word]) ∧ ∀ i ∈ readingRegisters, i ∉ [word] := by decide
  obtain ⟨outputs, range, tests, readings⟩ := apart word mem
  have written := put_within s word (short2shm (if data then on else off))
  constructor
  case damper =>
    exact (Interlocked.within written (outputs _ (by decide)) (outputs _ (by decide))).mpr
      safe.damper
  case modes => exact fun rest => exclusive_request (safe.modes rest) mem data
  case position => exact safe.position.agree written.out range
  case tests => exact safe.tests.within written tests
  case readings => exact fun i => (safe.readings i).out written.out readings

theorem Sound.request (sound : Sound steady s) {word : Nat} (mem : word ∈ requestWords)
    (data : Bool) : Sound steady (setVal word (if data then on else off) s) := by
  have apart : ∀ word ∈ requestWords, RangeApart [word] ∧ ∀ i ∈ readingRegisters, i ∉ [word] := by
    decide
  obtain ⟨range, readings⟩ := apart word mem
  have written := put_within s word (short2shm (if data then on else off))
  constructor
  case modes => exact fun rest => exclusive_request (sound.modes rest) mem data
  case least =>
    rw [← sound.least]
    exact written.getVal (range _ (by decide))
  case most =>
    rw [show (setVal word (if data then on else off) s).getVal Reg.damperMaxLen =
      s.getVal Reg.damperMaxLen from written.getVal (range _ (by decide))]
    exact sound.most
  case position =>
    rw [show (setVal word (if data then on else off) s).getVal Reg.rAiAd = s.getVal Reg.rAiAd from
      written.getVal (range _ (by decide))]
    exact sound.position
  case readings => exact fun i => (sound.readings i).out written.out readings

/-! ## A start -/

/-- What the initialisation sets to zero: the first register and the number. -/
def clearedRanges : List (Nat × Nat) :=
  [(Reg.sSyncMotorControlCmd, 7), (Reg.doInit, 24), (Reg.diInit, 24), (Reg.pHh0Time, 100),
    (Reg.thereIsAnEggFlippingSignalAlarm, 100), (Reg.rBtnTpMain, 14), (Reg.outStFanStatus, 100),
    (Reg.filterPidTempArr, 100), (Reg.filterPidHumiArr, 100), (Reg.pidTempModeStatus, 100)]

def Cleared (ranges : List (Nat × Nat)) (i : Nat) : Prop :=
  ∃ range ∈ ranges, range.1 ≤ i ∧ i < range.1 + range.2

instance (ranges : List (Nat × Nat)) (i : Nat) : Decidable (Cleared ranges i) :=
  inferInstanceAs (Decidable (∃ _ ∈ _, _))

theorem memsets_shmOut (ranges : List (Nat × Nat)) (s : Incubator) (i : Nat) :
    (ranges.foldl (fun s range => memset range.1 range.2 s) s).shmOut i =
      if Cleared ranges i then 0 else s.shmOut i := by
  induction ranges generalizing s with
  | nil => simp [Cleared]
  | cons range ranges ih =>
      rw [List.foldl_cons, ih]
      have split : Cleared (range :: ranges) i ↔
          (range.1 ≤ i ∧ i < range.1 + range.2) ∨ Cleared ranges i := by
        simp only [Cleared, List.mem_cons, exists_eq_or_imp]
      simp only [split, memset]
      by_cases rest : Cleared ranges i
      · simp [rest]
      · simp [rest]

theorem initParaClear_shmOut (s : Incubator) (i : Nat) :
    (initParaClear s).shmOut i = if Cleared clearedRanges i then 0 else s.shmOut i := by
  have sums : Within (List.range' Reg.pidTempModeStatus 100) s (s |> setTime Reg.pidTempSum 0
      |> setTime Reg.pidHumiSum 0 |> setTime Reg.pidPeriodCountMainHeater 0
      |> setTime Reg.pidPeriodCountHumi 0 |> setVal Reg.pidTempModeStatus 0) := by
    simp (disch := decide) only [within_setVal, within_setTime, Within.refl]
  refine (memsets_shmOut clearedRanges _ i).trans ?_
  split
  · rfl
  · rename_i kept
    refine sums.out i fun mem => kept ?_
    exact ⟨(Reg.pidTempModeStatus, 100), by simp [clearedRanges], List.mem_range'_1.mp mem⟩

/-- The registers before the mode is chosen. -/
def initParaBegun (now : Int) (s : Incubator) : Incubator :=
  s |> initParaClear |> resetRunTime now |> initParaStatus

def begunWords : List Nat := Reg.rRunSecondHigh :: (Reg.rRunSecondHigh + 1) :: statusWords

theorem initParaBegun_reg (now : Int) (s : Incubator) {i : Nat} (other : i ∉ begunWords) :
    (initParaBegun now s).reg i = if Cleared clearedRanges i then 0 else s.reg i := by
  have timed : Within begunWords (initParaClear s) (resetRunTime now (initParaClear s)) := by
    simp (disch := decide) only [resetRunTime, within_ite, within_setTime, Within.refl, ite_self]
  have status : AgreeOff begunWords (resetRunTime now (initParaClear s)).shmOut
      (initParaBegun now s).shmOut :=
    (initParaStatus_out _).mono fun _ mem => List.mem_cons_of_mem _ (List.mem_cons_of_mem _ mem)
  rw [Incubator.reg, timed.out.trans status i other, initParaClear_shmOut]
  split <;> rfl

/-- A register without a default of its own keeps what the backup has. -/
theorem bootValue_kept (pt : Fin 6 → Pt100Para) (s : Incubator) {i : Nat}
    (alone : presets.find? (·.Holds i) = none)
    (untimed : ¬(i = Reg.damperTimeOpen ∨ i = Reg.damperTimeClose))
    (free : i ∉ (pt100Defaults fun _ => ⟨0, 0, 0, 0⟩).map Prod.fst ∧
      i ∉ (paraDefaults.map fun para => (para.1, BitVec.ofInt 16 para.2)).map Prod.fst) :
    bootValue pt s i = s.reg i := by
  rw [bootValue_alone alone, if_neg untimed, first_defaults pt free.1, first_of_notMem free.2]
  split
  · rename_i zero
    exact zero.symm
  · rfl

/-- The mode words, the damper position and the readings. -/
def lastingRegisters : List Nat :=
  modeWords ++ [Reg.rAiAd] ++ readingRegisters

/-- The start has nothing to do with them before it chooses the mode. -/
theorem begun_kept (pt : Fin 6 → Pt100Para) (now : Int) (s : Incubator) :
    ∀ i ∈ lastingRegisters,
      (initParaBegun now (initParaDefaults pt s)).reg i = s.reg i := by
  intro i mem
  have apart : ∀ i ∈ lastingRegisters, i ∉ begunWords ∧ ¬Cleared clearedRanges i ∧
      presets.find? (·.Holds i) = none ∧
      ¬(i = Reg.damperTimeOpen ∨ i = Reg.damperTimeClose) ∧
      i ∉ (pt100Defaults fun _ => ⟨0, 0, 0, 0⟩).map Prod.fst ∧
      i ∉ (paraDefaults.map fun para => (para.1, BitVec.ofInt 16 para.2)).map Prod.fst := by
    decide +kernel
  obtain ⟨other, kept, alone, untimed, free⟩ := apart i mem
  rw [initParaBegun_reg _ _ other, if_neg kept, initParaDefaults_reg,
    bootValue_kept pt s alone untimed free]

/-- The outputs of the damper, the tests and the saved mode. -/
def zeroedRegisters : List Nat := damperOutputs ++ [Reg.backupOperationMode] ++ testState

theorem begun_zeroed (now : Int) (s : Incubator) :
    ∀ i ∈ zeroedRegisters, (initParaBegun now s).reg i = 0 := by
  intro i mem
  have zeroed : ∀ i ∈ zeroedRegisters, i ∉ begunWords ∧ Cleared clearedRanges i := by
    decide +kernel
  obtain ⟨other, zero⟩ := zeroed i mem
  rw [initParaBegun_reg _ _ other, if_pos zero]

theorem begun_modes (pt : Fin 6 → Pt100Para) (now : Int) (exclusive : s.modes.Exclusive) :
    (initParaBegun now (initParaDefaults pt s)).modes.Exclusive := by
  have kept := begun_kept pt now s
  have saved := begun_zeroed now (initParaDefaults pt s) Reg.backupOperationMode (by decide)
  obtain ⟨binary, recv, -⟩ := exclusive
  simp only [modes] at binary recv
  constructor <;> simp (disch := decide) only [modes, kept, saved]
  · exact binary
  · exact recv
  · decide

theorem initParaMode_modes (exclusive : s.modes.Exclusive) :
    (initParaMode s).modes.Exclusive := by
  have stopped : (setRunMode statusStopSent s).modes.Exclusive := by
    rw [modes_setRunMode]
    exact exclusive.setRunMode (by decide)
  rw [initParaMode]
  split
  · dsimp only
    split
    · exact exclusive
    · exact stopped
  · exact stopped

theorem begun_length (pt : Fin 6 → Pt100Para) (now : Int) (sound : Sound steady s) :
    (initParaBegun now (initParaDefaults pt s)).getVal Reg.damperMinLen = 0 ∧
      (initParaBegun now (initParaDefaults pt s)).getVal Reg.damperMaxLen = 160 := by
  have value (i : Nat) (mem : i ∈ [Reg.damperMinLen, Reg.damperMaxLen]) :
      (initParaBegun now (initParaDefaults pt s)).reg i = if s.reg i = 0 then
        first (paraDefaults.map fun para => (para.1, BitVec.ofInt 16 para.2)) i else s.reg i := by
    have apart : ∀ i ∈ [Reg.damperMinLen, Reg.damperMaxLen], i ∉ begunWords ∧
        ¬Cleared clearedRanges i ∧ presets.find? (·.Holds i) = none ∧
        ¬(i = Reg.damperTimeOpen ∨ i = Reg.damperTimeClose) ∧
        i ∉ (pt100Defaults fun _ => ⟨0, 0, 0, 0⟩).map Prod.fst := by
      decide +kernel
    obtain ⟨other, kept, alone, untimed, free⟩ := apart i mem
    rw [initParaBegun_reg _ _ other, if_neg kept, initParaDefaults_reg, bootValue_alone alone,
      if_neg untimed, first_defaults pt free]
  have zero (i : Nat) : s.reg i = 0 ↔ s.getVal i = 0 := (getVal_eq_off s i).symm
  rw [getVal_eq, getVal_eq, value _ (by simp), value _ (by simp)]
  constructor
  · rw [if_pos ((zero _).mpr sound.least)]
    decide
  · rcases sound.most with unset | set
    · rw [if_pos ((zero _).mpr unset)]
      decide
    · rw [if_neg (mt (zero _).mp (by rw [set]; decide)), ← getVal_eq, set]

/-- A start of a sound memory is safe. -/
theorem Sound.initPara (sound : Sound steady s) (pt : Fin 6 → Pt100Para) (now : Int) :
    Safe steady (initParaEnd now (initParaDefaults pt s)) := by
  have chosen := initParaMode_within (initParaBegun now (initParaDefaults pt s))
  have kept := begun_kept pt now s
  have zeroed (i : Nat) (mem : i ∈ zeroedRegisters) :
      (initParaBegun now (initParaDefaults pt s)).getVal i = 0 := by
    rw [getVal_eq, begun_zeroed now _ i mem]
    rfl
  have begun : Safe steady (initParaBegun now (initParaDefaults pt s)) := by
    constructor
    case damper => exact Or.inl (zeroed _ (by decide))
    case modes => exact fun rest => begun_modes pt now (sound.modes rest)
    case position =>
      have position := kept Reg.rAiAd (by decide)
      refine ⟨begun_length pt now sound, ?_⟩
      rw [getVal_eq, position, ← getVal_eq]
      exact sound.position
    case tests => exact Or.inl fun i mem => zeroed i (List.mem_append_right _ mem)
    case readings =>
      exact fun i => (sound.readings i).congr (kept _ (List.mem_append_right _ (reading_mem i)))
  constructor
  case damper => exact (Interlocked.within chosen (by decide) (by decide)).mpr begun.damper
  case modes => exact fun rest => initParaMode_modes (begun.modes rest)
  case position => exact begun.position.agree chosen.out (by decide)
  case tests => exact begun.tests.within chosen (by decide)
  case readings => exact fun i => (begun.readings i).out chosen.out (by decide)

theorem sound_cleared : Sound steady cleared := by
  constructor
  case modes =>
    exact fun _ => exclusive_of_modesExclusive ⟨by decide, by unfold OneRecv; decide, by decide⟩
  case readings => exact fun i => Or.inl (by rw [reading]; decide +revert)
  all_goals decide

end

end Jincubator
