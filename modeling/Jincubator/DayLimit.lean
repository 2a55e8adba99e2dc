import Jincubator.RoundDivision

/-! # The day limit

At the day limit the stop is overwritten by the initialisation, which resets the
seconds and leaves no mode, so that the default of the round asks for the stop
again. A preheat window in the way, and an initialisation word that the loop never
clears, keep the default from coming about. A round that divides by zero ends the process.
-/

namespace Jincubator

open Incubator

namespace Modes

/-! ## What the day limit meets -/

/-- The longest time is reached outside calibration. -/
structure Limited (m : Modes) : Prop where
  check : m.checkSend = 0
  day : 1 ≤ m.maxDay.toInt
  reached : paraTime m.runSecond ≥ m.maxDay.toInt

def Window (m : Modes) : Prop :=
  (m.preStart ≠ 0 ∧ m.preStop ≠ 0) ∧ m.preStart < m.preStop ∧
    m.preStop - m.preStart ≤ twoDaySeconds

def Preheats (clock : Clock) (m : Modes) : Prop :=
  m.Window ∧ m.preStart ≤ uint32 clock.preheat ∧ uint32 clock.preheat ≤ m.preStop

def Preheated (clock : Clock) (m : Modes) : Prop :=
  m.Window ∧ m.preStop < uint32 clock.preheat

/-- Both preheat times are the same, which clears them. -/
def Collapsed (m : Modes) : Prop := (m.preStart ≠ 0 ∧ m.preStop ≠ 0) ∧ m.preStart = m.preStop

section

variable {m : Modes} {clock : Clock}

theorem not_window_of_collapsed (collapsed : m.Collapsed) : ¬m.Window := by
  intro window
  have less := window.2.1
  rw [collapsed.2] at less
  omega

/-- What the preheat block does, by the window and the clock. -/
theorem preheat_cases (clock : Clock) (m : Modes) :
    (m.Preheated clock ∧ m.preheat clock = m.preheatExit) ∨
    (m.Preheats clock ∧ m.preheat clock = m.preheatRun) ∨
    (m.Collapsed ∧ m.preheat clock =
      clearPreheat { setRunMode statusStopSent m with runStatus := 1 }) ∨
    (¬m.Preheated clock ∧ ¬m.Preheats clock ∧ ¬m.Collapsed ∧ m.preheat clock = m) := by
  by_cases times : m.preStart ≠ 0 ∧ m.preStop ≠ 0
  · by_cases window : m.preStart < m.preStop ∧ m.preStop - m.preStart ≤ twoDaySeconds
    · by_cases inside : uint32 clock.preheat ≥ m.preStart ∧ uint32 clock.preheat ≤ m.preStop
      · refine Or.inr (Or.inl ⟨⟨⟨times, window⟩, inside⟩, ?_⟩)
        simp only [preheat, if_pos times, if_pos window, if_pos inside]
      · by_cases elapsed : uint32 clock.preheat > m.preStop
        · refine Or.inl ⟨⟨⟨times, window⟩, elapsed⟩, ?_⟩
          simp only [preheat, if_pos times, if_pos window, if_neg inside, if_pos elapsed]
        · refine Or.inr (Or.inr (Or.inr ⟨?_, ?_, ?_, ?_⟩))
          · exact fun past => elapsed past.2
          · exact fun within => inside within.2
          · exact fun collapsed => not_window_of_collapsed collapsed ⟨times, window⟩
          · simp only [preheat, if_pos times, if_pos window, if_neg inside, if_neg elapsed]
    · by_cases same : m.preStart = m.preStop
      · refine Or.inr (Or.inr (Or.inl ⟨⟨times, same⟩, ?_⟩))
        rw [preheat, if_pos times, if_neg window, if_pos same]
      · refine Or.inr (Or.inr (Or.inr ⟨?_, ?_, ?_, ?_⟩))
        · exact fun past => window past.1.2
        · exact fun within => window within.1.2
        · exact fun collapsed => same collapsed.2
        · rw [preheat, if_pos times, if_neg window, if_neg same]
  · refine Or.inr (Or.inr (Or.inr ⟨?_, ?_, ?_, ?_⟩))
    · exact fun past => times past.1.1
    · exact fun within => times within.1.1
    · exact fun collapsed => times collapsed.1
    · rw [preheat, if_neg times]

/-! ## The words of a mode -/

def written (m : Modes) : List Word :=
  [m.startSend, m.startRecv, m.stopSend, m.stopRecv, m.preSend, m.preRecv, m.initSend,
    m.checkRecv]

/-- The words that a mode is spread over hold the mode. -/
def InMode (mode : Int) (m : Modes) : Prop := m.written = writtenModes.map (bit mode)

theorem InMode.words {mode : Int} (words : InMode mode m) :
    m.startSend = bit mode 0 ∧ m.startRecv = bit mode 1 ∧ m.stopSend = bit mode 2 ∧
      m.stopRecv = bit mode 3 ∧ m.preSend = bit mode 4 ∧ m.preRecv = bit mode 5 ∧
      m.initSend = bit mode 10 ∧ m.checkRecv = bit mode 13 := by
  simpa only [InMode, written, writtenModes, List.map_cons, List.map_nil, List.cons.injEq,
    and_true] using words

theorem emod_two_pow_succ (n : Int) (k : Nat) :
    n % 2 ^ (k + 1) = n % 2 ^ k + n / 2 ^ k % 2 * 2 ^ k := by
  have nested : n / (2 ^ k * 2) = n / 2 ^ k / 2 := (Int.ediv_ediv_of_nonneg (by positivity)).symm
  rw [pow_succ, Int.emod_def, Int.emod_def n, Int.emod_def (n / 2 ^ k), nested]
  ring

theorem low_six (n : Int) :
    n % 64 = n / 2 ^ 0 % 2 * 2 ^ 0 + n / 2 ^ 1 % 2 * 2 ^ 1 + n / 2 ^ 2 % 2 * 2 ^ 2 +
      n / 2 ^ 3 % 2 * 2 ^ 3 + n / 2 ^ 4 % 2 * 2 ^ 4 + n / 2 ^ 5 % 2 * 2 ^ 5 := by
  have above (k : Nat) := emod_two_pow_succ n k
  calc
    n % 64 = n % 2 ^ 0 + n / 2 ^ 0 % 2 * 2 ^ 0 + n / 2 ^ 1 % 2 * 2 ^ 1 + n / 2 ^ 2 % 2 * 2 ^ 2 +
        n / 2 ^ 3 % 2 * 2 ^ 3 + n / 2 ^ 4 % 2 * 2 ^ 4 + n / 2 ^ 5 % 2 * 2 ^ 5 := by
      rw [← above 0, ← above 1, ← above 2, ← above 3, ← above 4, ← above 5]
      rfl
    _ = _ := by rw [pow_zero 2, Int.emod_one, zero_add]

theorem InMode.getRunMode {mode : Int} (words : InMode mode m) (check : m.checkSend = 0) :
    m.getRunMode 0 = (mode % 64 + mode / 2 ^ 10 % 2 * 1024 + m.initRecv.toNat * 2048 +
      mode / 2 ^ 13 % 2 * 8192) % 65536 := by
  obtain ⟨startSend, startRecv, stopSend, stopRecv, preSend, preRecv, initSend, checkRecv⟩ :=
    words.words
  simp only [Modes.getRunMode, sum, startSend, startRecv, stopSend, stopRecv, preSend, preRecv,
    initSend, checkRecv, check, bit_toNat, ushort_eq, ne_eq, not_true_eq_false, if_false,
    List.cons_append, List.nil_append, List.foldl_cons, List.foldl_nil, Int.emod_add_emod]
  have zero : ((0 : Word).toNat : Int) = 0 := rfl
  rw [low_six, zero, zero_add, zero_mul, add_zero]
  rfl

/-- A calibration that is not requested does not start, and ends at the day limit. -/
theorem check_of_off (send : m.checkSend = 0) (recv : m.checkRecv = 0) :
    (m |> checkStart |> checkOver |> checkCancelled) = m := by
  have start : m.checkStart = m := by
    rw [checkStart, if_neg]
    rintro ⟨one, -⟩
    rw [send] at one
    exact absurd one (by decide)
  have elapsed : m.checkOver = m := by
    rw [checkOver, if_neg]
    rintro ⟨one, -⟩
    rw [send] at one
    exact absurd one (by decide)
  have cancelled : m.checkCancelled = m := by
    rw [checkCancelled, if_neg]
    rintro ⟨-, one⟩
    rw [recv] at one
    exact absurd one (by decide)
  rw [start, elapsed, cancelled]

/-! ## Modes that no round turns into a stop -/

/-- No stop is on or requested, and some other mode is on, counting an initialisation word. -/
structure Going (m : Modes) : Prop where
  mode : ∃ mode ∈ [0, statusStartSend, statusStartRecv, startsPreRecv],
    InMode mode m ∧ (mode = 0 → m.initRecv.toNat % 32 ≠ 0)
  check : m.checkSend = 0
  day : 1 ≤ m.maxDay.toInt
  second : m.runSecond = 0
  apart : ¬m.Collapsed

theorem Going.words (going : Going m) : m.stopSend = 0 ∧ m.stopRecv = 0 ∧ m.initSend = 0 ∧
    m.checkRecv = 0 := by
  obtain ⟨mode, mem, words, -⟩ := going.mode
  obtain ⟨-, -, stopSend, stopRecv, -, -, initSend, checkRecv⟩ := words.words
  rw [stopSend, stopRecv, initSend, checkRecv]
  simp only [List.mem_cons, List.not_mem_nil, or_false] at mem
  rcases mem with rfl | rfl | rfl | rfl
  · exact ⟨rfl, rfl, rfl, rfl⟩
  · exact ⟨rfl, rfl, rfl, rfl⟩
  · exact ⟨rfl, rfl, rfl, rfl⟩
  · exact ⟨rfl, rfl, rfl, rfl⟩

theorem not_reached (day : 1 ≤ m.maxDay.toInt) (second : m.runSecond = 0) : m.limitDays = m := by
  rw [limitDays, if_neg]
  rw [second]
  have zero : paraTime 0 = 0 := by decide
  omega

theorem Going.followHh9 (going : Going m) : Going m.followHh9 := by
  obtain ⟨mode, mem, words, idle⟩ := going.mode
  rw [Modes.followHh9]
  split
  · exact ⟨⟨mode, mem, words, idle⟩, going.check, going.day, going.second, going.apart⟩
  · exact going

theorem Going.startInit (going : Going m) : Going m.startInit := by
  rw [Modes.startInit]
  split
  · refine ⟨⟨statusStartRecv, by decide, rfl, fun none => absurd none (by decide)⟩, going.check,
      going.day, going.second, ?_⟩
    exact fun collapsed => collapsed.1.1 rfl
  · exact going

theorem Going.startRun (going : Going m) : Going m.startRun := by
  obtain ⟨mode, mem, words, idle⟩ := going.mode
  rw [Modes.startRun]
  split
  · exact ⟨⟨mode, mem, words, idle⟩, going.check, going.day, going.second, going.apart⟩
  · exact going

theorem Going.stop (going : Going m) : (m |> stopInit |> stopRun) = m := by
  obtain ⟨stopSend, stopRecv, -, -⟩ := going.words
  have init : m.stopInit = m := by
    rw [stopInit, stopSend, if_neg (by decide)]
  rw [init, stopRun, stopRecv, if_neg (by decide)]

theorem Going.preheat (going : Going m) (clock : Clock) : Going (m.preheat clock) := by
  obtain ⟨mode, mem, words, idle⟩ := going.mode
  rcases preheat_cases clock m with ⟨-, exit⟩ | ⟨-, runs⟩ | ⟨collapsed, -⟩ | ⟨-, -, -, same⟩
  · rw [exit]
    refine ⟨⟨statusStartSend, by decide, rfl, fun none => absurd none (by decide)⟩, going.check,
      going.day, rfl, ?_⟩
    exact fun collapsed => collapsed.1.1 rfl
  · rw [runs, preheatRun]
    split
    · exact ⟨⟨startsPreRecv, by decide, rfl, fun none => absurd none (by decide)⟩, going.check,
        going.day, going.second, going.apart⟩
    · exact ⟨⟨mode, mem, words, idle⟩, going.check, going.day, going.second, going.apart⟩
  · exact absurd collapsed going.apart
  · rwa [same]

theorem Going.initialise (going : Going m) : m.initialise = m := by
  obtain ⟨-, -, initSend, -⟩ := going.words
  rw [Modes.initialise, initSend, if_neg (by decide)]

theorem Going.defaultMode (going : Going m) : m.defaultMode = m := by
  obtain ⟨mode, mem, words, idle⟩ := going.mode
  rw [Modes.defaultMode, words.getRunMode going.check, if_neg]
  simp only [List.mem_cons, List.not_mem_nil, or_false] at mem
  rcases mem with rfl | rfl | rfl | rfl
  · have some := idle rfl
    omega
  · simp only [statusStartSend]
    omega
  · simp only [statusStartRecv]
    omega
  · simp only [startsPreRecv]
    omega

theorem Going.round (going : Going m) (clock : Clock) : Going (m.round clock) := by
  have run := going.followHh9.startInit.startRun
  have preheated := run.preheat clock
  rw [Modes.round, not_reached going.day going.second, run.stop, preheated.initialise,
    check_of_off preheated.check preheated.words.2.2.2, preheated.defaultMode]
  exact preheated

/-! ## The stop -/

/-- The stop is requested and the seconds are reset. -/
structure Stopping (m : Modes) : Prop where
  mode : InMode statusStopSent m
  check : m.checkSend = 0
  day : 1 ≤ m.maxDay.toInt
  second : m.runSecond = 0

/-- The stop is on and the seconds are reset. -/
structure Stopped (m : Modes) : Prop where
  stopRecv : m.stopRecv = 1
  startRecv : m.startRecv = 0
  preRecv : m.preRecv = 0
  second : m.runSecond = 0

theorem preheat_of_none (none : m.preStart = 0) : m.preheat clock = m := by
  rw [preheat, if_neg]
  exact fun times => times.1 none

theorem defaultMode_of_stop {mode : Int} (words : InMode mode m) (check : m.checkSend = 0)
    (stop : mode = statusStopSent ∨ mode = statusStopRecv) : m.defaultMode = m := by
  rw [defaultMode, words.getRunMode check, if_neg]
  rcases stop with rfl | rfl
  · simp only [statusStopSent]
    omega
  · simp only [statusStopRecv]
    omega

theorem Stopping.followHh9 (stopping : Stopping m) : Stopping m.followHh9 := by
  rw [Modes.followHh9]
  split
  · exact ⟨stopping.mode, stopping.check, stopping.day, stopping.second⟩
  · exact stopping

theorem Stopping.start (stopping : Stopping m) : (m |> startInit |> startRun) = m := by
  obtain ⟨startSend, startRecv, -⟩ := stopping.mode.words
  have init : m.startInit = m := by
    rw [startInit, startSend, if_neg (by decide)]
  rw [init, startRun, startRecv, if_neg (by decide)]

/-- What the stop blocks leave, which the other blocks keep. -/
structure Kept (m : Modes) : Prop where
  mode : InMode statusStopRecv m
  check : m.checkSend = 0
  second : m.runSecond = 0
  preStart : m.preStart = 0

theorem Stopping.stop (stopping : Stopping m) : Kept (m |> stopInit |> stopRun) := by
  obtain ⟨-, -, stopSend, -⟩ := stopping.mode.words
  rw [stopInit, stopSend, if_pos (by decide), stopRun, if_pos]
  · exact ⟨rfl, stopping.check, stopping.second, rfl⟩
  · rfl

theorem Kept.initialise (kept : Kept m) : m.initialise = m := by
  obtain ⟨-, -, -, -, -, -, initSend, -⟩ := kept.mode.words
  rw [Modes.initialise, initSend, if_neg (by decide)]

theorem Stopping.round (stopping : Stopping m) (clock : Clock) : Stopped (m.round clock) := by
  have follow := stopping.followHh9
  have kept := follow.stop
  obtain ⟨-, startRecv, -, stopRecv, -, preRecv, -, checkRecv⟩ := kept.mode.words
  rw [Modes.round, not_reached stopping.day stopping.second, follow.start,
    preheat_of_none kept.preStart, kept.initialise, check_of_off kept.check checkRecv,
    defaultMode_of_stop kept.mode kept.check (Or.inr rfl)]
  exact ⟨stopRecv, startRecv, preRecv, kept.second⟩

theorem not_stopped_of_inMode {mode : Int} (words : InMode mode m) (off : bit mode 3 = 0) :
    ¬Stopped m := by
  intro stopped
  have on := stopped.stopRecv
  rw [words.words.2.2.2.1, off] at on
  exact absurd on (by decide)

theorem Going.not_stopped (going : Going m) : ¬Stopped m := by
  obtain ⟨mode, mem, words, -⟩ := going.mode
  refine not_stopped_of_inMode words ?_
  rw [← words.words.2.2.2.1]
  exact going.words.2.1

/-! ## A round at the day limit -/

/-- The limit leaves only the initialisation. -/
structure Limiting (m : Modes) : Prop extends Limited m where
  mode : InMode statusInitSend m

/-- The blocks below the limit. -/
def belowLimit (clock : Clock) (m : Modes) : Modes :=
  m |> preheat clock |> initialise |> checkStart |> checkOver |> checkCancelled |> defaultMode

theorem Limited.limiting (limited : Limited m) : Limiting (m |> limitDays |> followHh9) := by
  rw [limitDays, if_pos limited.reached, followHh9]
  split
  · exact ⟨⟨limited.check, limited.day, limited.reached⟩, rfl⟩
  · exact ⟨⟨limited.check, limited.day, limited.reached⟩, rfl⟩

theorem Limiting.start (limiting : Limiting m) :
    (m |> startInit |> startRun |> stopInit |> stopRun) = m := by
  obtain ⟨startSend, startRecv, stopSend, stopRecv, -⟩ := limiting.mode.words
  have startInit : m.startInit = m := by
    rw [startInit, startSend, if_neg (by decide)]
  have startRun : m.startRun = m := by
    rw [startRun, startRecv, if_neg (by decide)]
  have stopInit : m.stopInit = m := by
    rw [stopInit, stopSend, if_neg (by decide)]
  rw [startInit, startRun, stopInit, stopRun, stopRecv, if_neg (by decide)]

theorem Limited.round (limited : Limited m) (clock : Clock) :
    m.round clock = (m |> limitDays |> followHh9 |> belowLimit clock) := by
  rw [Modes.round, limited.limiting.start]
  rfl

/-- The modes that none of the lower blocks changes. -/
theorem belowLimit_eq {mode : Int} (words : InMode mode (m.preheat clock))
    (check : (m.preheat clock).checkSend = 0)
    (mem : mode ∈ [statusStartSend, statusStopSent, startsPreRecv]) :
    m.belowLimit clock = m.preheat clock := by
  have quiet : bit mode 10 = 0 ∧ bit mode 13 = 0 := by
    simp only [List.mem_cons, List.not_mem_nil, or_false] at mem
    rcases mem with rfl | rfl | rfl
    · exact ⟨rfl, rfl⟩
    · exact ⟨rfl, rfl⟩
    · exact ⟨rfl, rfl⟩
  obtain ⟨-, -, -, -, -, -, initSend, checkRecv⟩ := words.words
  have init : (m.preheat clock).initialise = m.preheat clock := by
    rw [initialise, initSend, quiet.1, if_neg (by decide)]
  rw [belowLimit, init, check_of_off check (checkRecv.trans quiet.2), defaultMode,
    words.getRunMode check, if_neg]
  simp only [List.mem_cons, List.not_mem_nil, or_false] at mem
  rcases mem with rfl | rfl | rfl
  · simp only [statusStartSend]
    omega
  · simp only [statusStopSent]
    omega
  · simp only [startsPreRecv]
    omega

theorem preheat_of_preheated (elapsed : m.Preheated clock) : m.preheat clock = m.preheatExit := by
  rcases preheat_cases clock m with ⟨-, exit⟩ | ⟨inside, -⟩ | ⟨collapsed, -⟩ | ⟨other, -⟩
  · exact exit
  · exact absurd (inside.2.2) (not_le.mpr elapsed.2)
  · exact absurd elapsed.1 (not_window_of_collapsed collapsed)
  · exact absurd elapsed other

theorem preheat_of_preheats (inside : m.Preheats clock) : m.preheat clock = m.preheatRun := by
  rcases preheat_cases clock m with ⟨elapsed, -⟩ | ⟨-, runs⟩ | ⟨collapsed, -⟩ | ⟨-, other, -⟩
  · exact absurd (inside.2.2) (not_le.mpr elapsed.2)
  · exact runs
  · exact absurd inside.1 (not_window_of_collapsed collapsed)
  · exact absurd inside other

theorem preheat_of_collapsed (collapsed : m.Collapsed) : m.preheat clock =
    clearPreheat { setRunMode statusStopSent m with runStatus := 1 } := by
  rcases preheat_cases clock m with ⟨elapsed, -⟩ | ⟨inside, -⟩ | ⟨-, clears⟩ | ⟨-, -, other, -⟩
  · exact absurd elapsed.1 (not_window_of_collapsed collapsed)
  · exact absurd inside.1 (not_window_of_collapsed collapsed)
  · exact clears
  · exact absurd collapsed other

/-- After the preheat window the exit of the preheat mode starts the incubation. -/
theorem Limiting.preheated (limiting : Limiting m) (elapsed : m.Preheated clock) :
    Going (m.belowLimit clock) := by
  have exit := preheat_of_preheated elapsed
  have words : InMode statusStartSend (m.preheat clock) := by
    rw [exit]
    rfl
  rw [belowLimit_eq words (by rw [exit]; exact limiting.check) (by decide), exit]
  refine ⟨⟨statusStartSend, by decide, rfl, fun none => absurd none (by decide)⟩, limiting.check,
    limiting.day, rfl, ?_⟩
  exact fun collapsed => collapsed.1.1 rfl

/-- In the preheat window the preheat mode starts once, and keeps the seconds. -/
theorem Limiting.preheats (limiting : Limiting m) (inside : m.Preheats clock)
    (entering : m.preStatus ≠ 0) :
    Limited (m.belowLimit clock) ∧ ¬Stopped (m.belowLimit clock) ∧
      (m.belowLimit clock).preStatus = 0 ∧ (m.belowLimit clock).initRecv = m.initRecv ∧
      (m.belowLimit clock).preStart = m.preStart ∧ (m.belowLimit clock).preStop = m.preStop := by
  have runs : m.preheat clock =
      { setRunMode startsPreRecv m with preStatus := 0, runStatus := 0 } := by
    rw [preheat_of_preheats inside, preheatRun, if_pos entering]
  have words : InMode startsPreRecv (m.preheat clock) := by
    rw [runs]
    rfl
  rw [belowLimit_eq words (by rw [runs]; exact limiting.check) (by decide), runs]
  rw [runs] at words
  exact ⟨⟨limiting.check, limiting.day, limiting.reached⟩, not_stopped_of_inMode words rfl, rfl,
    rfl, rfl, rfl⟩

/-- Equal preheat times ask for a stop without a reset, and are cleared. -/
theorem Limiting.collapsed (limiting : Limiting m) (collapsed : m.Collapsed) :
    Limited (m.belowLimit clock) ∧ ¬Stopped (m.belowLimit clock) ∧
      (m.belowLimit clock).preStart = 0 ∧ (m.belowLimit clock).initRecv = m.initRecv := by
  have clears : m.preheat clock = clearPreheat { setRunMode statusStopSent m with runStatus := 1 }
    := preheat_of_collapsed collapsed
  have words : InMode statusStopSent (m.preheat clock) := by
    rw [clears]
    rfl
  rw [belowLimit_eq words (by rw [clears]; exact limiting.check) (by decide), clears]
  rw [clears] at words
  exact ⟨⟨limiting.check, limiting.day, limiting.reached⟩, not_stopped_of_inMode words rfl, rfl,
    rfl⟩

/-- Otherwise the initialisation leaves no mode, and the default asks for the stop unless the
receive word of the initialisation counts as a mode. -/
theorem Limiting.initialise (limiting : Limiting m) (elapsed : ¬m.Preheated clock)
    (entering : ¬(m.Preheats clock ∧ m.preStatus ≠ 0)) (apart : ¬m.Collapsed) :
    if m.initRecv.toNat % 32 = 0 then Stopping (m.belowLimit clock)
    else Going (m.belowLimit clock) := by
  have kept : ∃ status, m.preheat clock = { m with runStatus := status } := by
    rcases preheat_cases clock m with ⟨past, -⟩ | ⟨inside, runs⟩ | ⟨same, -⟩ | ⟨-, -, -, same⟩
    · exact absurd past elapsed
    · refine ⟨0, ?_⟩
      rw [runs, preheatRun, if_neg fun some => entering ⟨inside, some⟩]
    · exact absurd same apart
    · exact ⟨m.runStatus, same⟩
  obtain ⟨status, same⟩ := kept
  obtain ⟨startSend, startRecv, stopSend, stopRecv, preSend, preRecv, initSend, checkRecv⟩ :=
    limiting.mode.words
  have reset : ∃ t, (m.preheat clock).initialise = t ∧ InMode 0 t ∧ t.checkSend = 0 ∧
      t.checkRecv = 0 ∧ 1 ≤ t.maxDay.toInt ∧ t.runSecond = 0 ∧ ¬t.Collapsed ∧
      t.initRecv = m.initRecv := by
    refine ⟨{ m with initSend := 0, runSecond := 0, runStatus := 1 }, ?_, ?_, limiting.check,
      checkRecv, limiting.day, rfl, apart, rfl⟩
    · rw [same, Modes.initialise]
      exact if_pos initSend
    · simp only [InMode, written, startSend, startRecv, stopSend, stopRecv, preSend, preRecv,
        checkRecv]
      rfl
  obtain ⟨t, reset, words, check, recv, day, second, away, init⟩ := reset
  rw [belowLimit, reset, check_of_off check recv, defaultMode, words.getRunMode check, ← init]
  split
  · rename_i none
    rw [if_pos (by omega)]
    exact ⟨rfl, check, day, second⟩
  · rename_i some
    rw [if_neg (by omega)]
    exact ⟨⟨0, by decide, words, fun _ => some⟩, check, day, second, away⟩

/-! ## The rounds at the day limit -/

/-- What of a state decides the round at the limit. -/
structure SameLimit (m t : Modes) : Prop where
  preStart : t.preStart = m.preStart
  preStop : t.preStop = m.preStop
  preStatus : t.preStatus = m.preStatus
  initRecv : t.initRecv = m.initRecv

theorem limitDays_same (m : Modes) : SameLimit m (m |> limitDays |> followHh9) := by
  rw [limitDays, followHh9]
  split
  · split
    · exact ⟨rfl, rfl, rfl, rfl⟩
    · exact ⟨rfl, rfl, rfl, rfl⟩
  · split
    · exact ⟨rfl, rfl, rfl, rfl⟩
    · exact ⟨rfl, rfl, rfl, rfl⟩

theorem SameLimit.window {t : Modes} (same : SameLimit m t) : t.Window ↔ m.Window := by
  rw [Window, Window, same.preStart, same.preStop]

theorem SameLimit.preheats {t : Modes} (same : SameLimit m t) :
    t.Preheats clock ↔ m.Preheats clock := by
  rw [Preheats, Preheats, same.window, same.preStart, same.preStop]

theorem SameLimit.preheated {t : Modes} (same : SameLimit m t) :
    t.Preheated clock ↔ m.Preheated clock := by
  rw [Preheated, Preheated, same.window, same.preStop]

theorem SameLimit.collapsed {t : Modes} (same : SameLimit m t) : t.Collapsed ↔ m.Collapsed := by
  rw [Collapsed, Collapsed, same.preStart, same.preStop]

/-- The window is over in the first round, or the first round starts the preheat mode and the
window is over in the second. -/
def Escapes (first second : Clock) (m : Modes) : Prop :=
  m.Preheated first ∨ (m.Preheats first ∧ m.preStatus ≠ 0 ∧ m.Preheated second)

theorem Limited.initialise (limited : Limited m) (elapsed : ¬m.Preheated clock)
    (entering : ¬(m.Preheats clock ∧ m.preStatus ≠ 0)) (apart : ¬m.Collapsed) :
    if m.initRecv.toNat % 32 = 0 then Stopping (m.round clock) else Going (m.round clock) := by
  have same := limitDays_same m
  rw [limited.round, ← same.initRecv]
  refine limited.limiting.initialise ?_ ?_ ?_
  · rwa [same.preheated]
  · rwa [same.preheats, same.preStatus]
  · rwa [same.collapsed]

theorem Limited.preheated (limited : Limited m) (elapsed : m.Preheated clock) :
    Going (m.round clock) := by
  rw [limited.round]
  exact limited.limiting.preheated ((limitDays_same m).preheated.mpr elapsed)

theorem Limited.preheats (limited : Limited m) (inside : m.Preheats clock)
    (entering : m.preStatus ≠ 0) :
    Limited (m.round clock) ∧ ¬Stopped (m.round clock) ∧ (m.round clock).preStatus = 0 ∧
      (m.round clock).initRecv = m.initRecv ∧ (m.round clock).preStart = m.preStart ∧
      (m.round clock).preStop = m.preStop := by
  have same := limitDays_same m
  rw [limited.round, ← same.initRecv, ← same.preStart, ← same.preStop]
  refine limited.limiting.preheats (same.preheats.mpr inside) ?_
  rwa [same.preStatus]

theorem Limited.collapsed (limited : Limited m) (collapsed : m.Collapsed) :
    Limited (m.round clock) ∧ ¬Stopped (m.round clock) ∧ (m.round clock).preStart = 0 ∧
      (m.round clock).initRecv = m.initRecv := by
  have same := limitDays_same m
  rw [limited.round, ← same.initRecv]
  exact limited.limiting.collapsed (same.collapsed.mpr collapsed)

/-- Without a window in the way the stop comes about in the next round but one. -/
theorem Limited.stopped_iff_of_initialise (limited : Limited m) (elapsed : ¬m.Preheated clock)
    (entering : ¬(m.Preheats clock ∧ m.preStatus ≠ 0)) (apart : ¬m.Collapsed) (next last : Clock) :
    ¬Stopped (m.round clock) ∧
      (Stopped ((m.round clock).round next) ↔ m.initRecv.toNat % 32 = 0) ∧
      (Stopped (((m.round clock).round next).round last) → m.initRecv.toNat % 32 = 0) := by
  have outcome := limited.initialise elapsed entering apart
  by_cases idle : m.initRecv.toNat % 32 = 0
  · rw [if_pos idle] at outcome
    refine ⟨not_stopped_of_inMode outcome.mode rfl, ?_, fun _ => idle⟩
    exact iff_of_true (outcome.round next) idle
  · rw [if_neg idle] at outcome
    refine ⟨outcome.not_stopped, iff_of_false (outcome.round next).not_stopped idle, ?_⟩
    exact fun stopped => absurd stopped ((outcome.round next).round last).not_stopped

theorem Limited.stopped_iff (limited : Limited m) (first second third : Clock) :
    (Stopped (m.round first) ∨ Stopped ((m.round first).round second) ∨
      Stopped (((m.round first).round second).round third)) ↔
      m.initRecv.toNat % 32 = 0 ∧ ¬Escapes first second m := by
  by_cases elapsed : m.Preheated first
  · have going := limited.preheated elapsed
    refine iff_of_false ?_ fun holds => holds.2 (Or.inl elapsed)
    rintro (stopped | stopped | stopped)
    · exact going.not_stopped stopped
    · exact (going.round second).not_stopped stopped
    · exact ((going.round second).round third).not_stopped stopped
  by_cases entering : m.Preheats first ∧ m.preStatus ≠ 0
  · obtain ⟨still, early, status, init, start, stop⟩ := limited.preheats entering.1 entering.2
    have window : (m.round first).Window ↔ m.Window := by
      rw [Window, Window, start, stop]
    have past : (m.round first).Preheated second ↔ m.Preheated second := by
      rw [Preheated, Preheated, window, stop]
    by_cases later : m.Preheated second
    · have going := still.preheated (past.mpr later)
      refine iff_of_false ?_ fun holds => holds.2 (Or.inr ⟨entering.1, entering.2, later⟩)
      rintro (stopped | stopped | stopped)
      · exact early stopped
      · exact going.not_stopped stopped
      · exact (going.round third).not_stopped stopped
    · obtain ⟨next, last, -⟩ := still.stopped_iff_of_initialise (past.not.mpr later)
        (fun again => again.2 status)
        (fun collapsed => not_window_of_collapsed collapsed (window.mpr entering.1.1)) third third
      rw [last, init]
      refine ⟨?_, fun holds => Or.inr (Or.inr holds.1)⟩
      rintro (stopped | stopped | idle)
      · exact absurd stopped early
      · exact absurd stopped next
      · exact ⟨idle, fun escapes => escapes.elim elapsed fun again => later again.2.2⟩
  have stays : ¬Escapes first second m := by
    rintro (past | ⟨inside, status, -⟩)
    · exact elapsed past
    · exact entering ⟨inside, status⟩
  by_cases collapsed : m.Collapsed
  · obtain ⟨still, early, start, init⟩ := limited.collapsed collapsed
    have none : ¬(m.round first).Window := fun window => window.1.1 start
    have elapsed : ¬(m.round first).Preheated second := fun past => none past.1
    obtain ⟨next, last, -⟩ := still.stopped_iff_of_initialise elapsed
      (fun inside => none inside.1.1) (fun same => same.1.1 start) third third
    rw [last, init]
    refine ⟨?_, fun holds => Or.inr (Or.inr holds.1)⟩
    rintro (stopped | stopped | idle)
    · exact absurd stopped early
    · exact absurd stopped next
    · exact ⟨idle, stays⟩
  · obtain ⟨early, next, last⟩ :=
      limited.stopped_iff_of_initialise elapsed entering collapsed second third
    rw [next]
    refine ⟨?_, fun holds => Or.inr (Or.inl holds.1)⟩
    rintro (stopped | idle | stopped)
    · exact absurd stopped early
    · exact ⟨idle, stays⟩
    · exact ⟨last stopped, stays⟩

end

end Modes

/-! ## The registers at the day limit -/

/-- The stop mode is on, no other mode is, and the seconds of incubation are reset. -/
structure StoppedAndReset (s : Incubator) : Prop where
  stopRecv : s.getVal Reg.rStopRecv = on
  startRecv : s.getVal Reg.rStartRecv = off
  preRecv : s.getVal Reg.rPreRecv = off
  second : s.getTime Reg.rRunSecondHigh = 0

def preheatWindow (s : Incubator) : Prop :=
  let start := s.getTime Reg.rPreStartTimeHigh
  let stop := s.getTime Reg.rPreStopTimeHigh
  (start ≠ 0 ∧ stop ≠ 0) ∧ start < stop ∧ stop - start ≤ twoDaySeconds

/-- The preheat window is over in the first round, or the first round starts the preheat mode in it
and it is over in the second. -/
def preheatEscapes (first second : Clock) (s : Incubator) : Prop :=
  preheatWindow s ∧ (s.getTime Reg.rPreStopTimeHigh < uint32 first.preheat ∨
    s.getTime Reg.rPreStartTimeHigh ≤ uint32 first.preheat ∧ s.getVal Reg.rPreStatus ≠ off ∧
      s.getTime Reg.rPreStopTimeHigh < uint32 second.preheat)

theorem stoppedAndReset_iff (s : Incubator) : StoppedAndReset s ↔ s.modes.Stopped := by
  refine ⟨fun stopped => ?_, fun stopped => ?_⟩
  · exact ⟨(getVal_eq_on s _).mp stopped.stopRecv, (getVal_eq_off s _).mp stopped.startRecv,
      (getVal_eq_off s _).mp stopped.preRecv, stopped.second⟩
  · exact ⟨(getVal_eq_on s _).mpr stopped.stopRecv, (getVal_eq_off s _).mpr stopped.startRecv,
      (getVal_eq_off s _).mpr stopped.preRecv, stopped.second⟩

theorem preheatEscapes_iff (first second : Clock) (s : Incubator) :
    preheatEscapes first second s ↔ s.modes.Escapes first second := by
  have status : s.getVal Reg.rPreStatus ≠ off ↔ s.modes.preStatus ≠ 0 :=
    (getVal_eq_off s _).not
  have window : preheatWindow s ↔ s.modes.Window := Iff.rfl
  have start : s.getTime Reg.rPreStartTimeHigh = s.modes.preStart := rfl
  have stop : s.getTime Reg.rPreStopTimeHigh = s.modes.preStop := rfl
  rw [preheatEscapes, Modes.Escapes, Modes.Preheated, Modes.Preheats, Modes.Preheated, status,
    window, start, stop]
  refine ⟨?_, ?_⟩
  · rintro ⟨open_, elapsed | ⟨begun, entering, elapsed⟩⟩
    · exact Or.inl ⟨open_, elapsed⟩
    · by_cases early : s.modes.preStop < uint32 first.preheat
      · exact Or.inl ⟨open_, early⟩
      · exact Or.inr ⟨⟨open_, begun, not_lt.mp early⟩, entering, open_, elapsed⟩
  · rintro (⟨open_, elapsed⟩ | ⟨⟨open_, begun, -⟩, entering, -, elapsed⟩)
    · exact ⟨open_, Or.inl elapsed⟩
    · exact ⟨open_, Or.inr ⟨begun, entering, elapsed⟩⟩

/-- The stop mode with reset seconds comes about after one of three rounds. -/
def StopsWithinThree (first second third : Clock) (s : Incubator) : Prop :=
  ∃ rounds ∈ [[first], [first, second], [first, second, third]], ∃ t,
    mainRounds rounds s = some t ∧ StoppedAndReset t

theorem stopsWithinThree_iff {first second third : Clock} {s : Incubator}
    (returns : (mainRounds [first, second, third] s).isSome) :
    StopsWithinThree first second third s ↔ (s.modes.round first).Stopped ∨
      ((s.modes.round first).round second).Stopped ∨
      (((s.modes.round first).round second).round third).Stopped := by
  -- each of the three numbers of rounds is the beginning of all three
  have early (rounds rest : List Clock) (all : [first, second, third] = rounds ++ rest) :
      (∃ t, mainRounds rounds s = some t ∧ StoppedAndReset t) ↔
        StoppedAndReset (rounds.foldl (fun s clock => mainRound clock s) s) := by
    rw [all] at returns
    obtain ⟨t, reached⟩ := Option.isSome_iff_exists.mp (mainRounds_isSome_of_append returns)
    obtain rfl := mainRounds_returns reached
    simp only [reached, Option.some_inj, exists_eq_left']
  simp only [StopsWithinThree, List.mem_cons, List.not_mem_nil, or_false, exists_eq_or_imp,
    exists_eq_left]
  rw [early [first] [second, third] rfl, early [first, second] [third] rfl,
    early [first, second, third] [] rfl]
  simp only [List.foldl_cons, List.foldl_nil, stoppedAndReset_iff, modes_mainRound]

theorem limited_modes {s : Incubator} (check : s.getVal Reg.rCheckSend = off)
    (day : s.getVal Reg.rRunMaxDay ≥ 1)
    (reached : paraTime (s.getTime Reg.rRunSecondHigh) ≥ s.getVal Reg.rRunMaxDay) :
    s.modes.Limited := by
  rw [getVal_eq] at day reached
  exact ⟨(getVal_eq_off s _).mp check, day, reached⟩

/-- In whatever mode the day limit is reached, if the next three rounds divide by no zero the stop
mode with reset seconds comes about within them exactly when no preheat window and no
initialisation word is in the way. -/
theorem dayLimit_stops_iff (first second third : Clock) (s : Incubator)
    (check : s.getVal Reg.rCheckSend = off) (day : s.getVal Reg.rRunMaxDay ≥ 1)
    (reached : paraTime (s.getTime Reg.rRunSecondHigh) ≥ s.getVal Reg.rRunMaxDay)
    (returns : (mainRounds [first, second, third] s).isSome) :
    StopsWithinThree first second third s ↔
      s.getUval Reg.rInitRecv % 32 = 0 ∧ ¬preheatEscapes first second s := by
  have limited := limited_modes check day reached
  have word : s.getUval Reg.rInitRecv % 32 = 0 ↔ s.modes.initRecv.toNat % 32 = 0 := by
    rw [getUval_eq]
    exact Int.ofNat_inj
  rw [word, preheatEscapes_iff, ← limited.stopped_iff first second third,
    stopsWithinThree_iff returns]

/-- The start mode on its thirty-fifth day; no divisor is zero. -/
def lastDay : Incubator :=
  cleared |> setVal Reg.rRunMaxDay 3500 |> setVal Reg.rStartRecv on
    |> setTime Reg.rRunSecondHigh 3024000 |> setVal Reg.pHhi 80 |> setVal Reg.pHlo 55
    |> setVal Reg.sSyncMotorStage 1

theorem lastDay_divides : RoundDivides lastDay := ⟨by decide, by decide, by decide⟩

theorem dayLimit_stops_iff_lastDay :
    StopsWithinThree ⟨0, 0, 0, 0⟩ ⟨1, 1, 1, 1⟩ ⟨2, 2, 2, 2⟩ lastDay :=
  (dayLimit_stops_iff _ _ _ lastDay (by decide) (by decide) (by decide)
    (mainRounds_of_divides _ lastDay_divides)).mpr (by
      unfold preheatEscapes preheatWindow
      decide)

/-- A preheat window that is over turns the day limit into a new start, in rounds that all
return. -/
theorem lastDay_starts_again :
    ¬∀ first second third s, (s.getVal Reg.rStartRecv = on ∨ s.getVal Reg.rPreRecv = on) →
      s.getVal Reg.rCheckSend = off → s.getVal Reg.rCheckRecv = off →
      s.getVal Reg.rRunMaxDay ≥ 1 →
      paraTime (s.getTime Reg.rRunSecondHigh) ≥ s.getVal Reg.rRunMaxDay →
      (mainRounds [first, second, third] s).isSome → StopsWithinThree first second third s := by
  intro stops
  have divides : RoundDivides (lastDay |> setTime Reg.rPreStartTimeHigh 1
      |> setTime Reg.rPreStopTimeHigh 2) :=
    ⟨by decide, by decide, by decide⟩
  have returns := mainRounds_of_divides [⟨9, 9, 9, 9⟩, ⟨9, 9, 9, 9⟩, ⟨9, 9, 9, 9⟩] divides
  have stopped := stops ⟨9, 9, 9, 9⟩ ⟨9, 9, 9, 9⟩ ⟨9, 9, 9, 9⟩
    (lastDay |> setTime Reg.rPreStartTimeHigh 1 |> setTime Reg.rPreStopTimeHigh 2)
    (Or.inl (by decide)) (by decide) (by decide) (by decide) (by decide) returns
  have limited : Modes.Limited (lastDay |> setTime Reg.rPreStartTimeHigh 1
      |> setTime Reg.rPreStopTimeHigh 2).modes :=
    limited_modes (by decide) (by decide) (by decide)
  rw [stopsWithinThree_iff returns, limited.stopped_iff] at stopped
  refine stopped.2 (Or.inl ?_)
  unfold Modes.Preheated Modes.Window
  decide +kernel

end Jincubator
