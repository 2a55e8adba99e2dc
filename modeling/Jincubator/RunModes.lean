import Jincubator.Library.Run
import Jincubator.Modes
import Mathlib.Algebra.Order.BigOperators.Group.List

/-! # Exclusive run modes

Every mode that the loop sets has at most one of the four receive bits, and a
saved mode is a sum of words that has at most one of them as well. So at most one
receive word is set after every round, and the stop mode is requested when no
word is.
-/

namespace Jincubator

open Incubator Run

/-- What happens between and in the rounds of the main loop. -/
inductive LoopEvent where
  | mainRound (clock : Clock)
  | timerCallbackFunc
  | request (word : Nat) (mem : word ∈ [Reg.rStartSend, Reg.rStopSend, Reg.rPreSend,
      Reg.rInitSend, Reg.rCheckSend]) (data : Bool)
  | preheatTimes (start stop : Int)
  | runSeconds (seconds : Int)

def loopStep (s : Incubator) : LoopEvent → Incubator
  | .mainRound clock => mainRound clock s
  | .timerCallbackFunc => timerCallbackFunc s
  | .request word _ data => setVal word (if data then on else off) s
  | .preheatTimes start stop =>
      s |> setTime Reg.rPreStartTimeHigh start |> setTime Reg.rPreStopTimeHigh stop
  | .runSeconds seconds => setTime Reg.rRunSecondHigh seconds s

namespace Modes

/-! ## Bits of a mode -/

/-- How many of the four receive bits a mode has. -/
def recvBits (mode : Int) : Int :=
  mode / 2 ^ 1 % 2 + mode / 2 ^ 3 % 2 + mode / 2 ^ 5 % 2 + mode / 2 ^ 13 % 2

/-- The mode words are zero or one, and at most one receive word or saved receive bit is one. -/
structure Exclusive (m : Modes) : Prop where
  binary : ∀ word ∈ [m.startSend, m.startRecv, m.stopSend, m.stopRecv, m.preSend, m.preRecv,
    m.initSend, m.initRecv, m.checkSend, m.checkRecv], word.toNat ≤ 1
  recv : m.startRecv.toNat + m.stopRecv.toNat + m.preRecv.toNat + m.checkRecv.toNat ≤ 1
  backup : recvBits m.backupMode.toNat ≤ 1

section

variable {m : Modes}

/-! ## What a round does -/

theorem Exclusive.setRunMode (exclusive : Exclusive m) {mode : Int} (one : recvBits mode ≤ 1) :
    Exclusive (m.setRunMode mode) := by
  refine ⟨?_, ?_, exclusive.backup⟩
  · have initRecv := exclusive.binary m.initRecv (by simp)
    have checkSend := exclusive.binary m.checkSend (by simp)
    simp only [Modes.setRunMode, List.forall_mem_cons, bit_le, initRecv, checkSend]
    simp
  · have start := bit_toNat mode 1
    have stop := bit_toNat mode 3
    have pre := bit_toNat mode 5
    have check := bit_toNat mode 13
    simp only [recvBits] at one
    simp only [Modes.setRunMode]
    omega

/-- A sum that stays below the width of a word is not cut. -/
theorem sum_eq (words : List (Nat × Word)) (mode : Int) (positive : 0 ≤ mode)
    (small : mode + (words.map fun word => (word.2.toNat * 2 ^ word.1 : Int)).sum < 65536) :
    words.foldl (fun mode word => ushort (mode + word.2.toNat * 2 ^ word.1)) mode =
      mode + (words.map fun word => (word.2.toNat * 2 ^ word.1 : Int)).sum := by
  induction words generalizing mode with
  | nil => simp
  | cons word words ih =>
      rw [List.map_cons, List.sum_cons] at small
      have head : (0 : Int) ≤ word.2.toNat * 2 ^ word.1 := by positivity
      have tail : 0 ≤ (words.map fun word => (word.2.toNat * 2 ^ word.1 : Int)).sum := by
        refine List.sum_nonneg fun term mem => ?_
        obtain ⟨word, -, rfl⟩ := List.mem_map.mp mem
        positivity
      have cut : ushort (mode + word.2.toNat * 2 ^ word.1) = mode + word.2.toNat * 2 ^ word.1 := by
        rw [ushort_eq]
        exact Int.emod_eq_of_lt (by omega) (by omega)
      rw [List.foldl_cons, List.map_cons, List.sum_cons, cut, ih _ (by omega) (by omega)]
      omega

theorem Exclusive.getRunMode (exclusive : Exclusive m) (type : Int) :
    m.getRunMode type = m.startSend.toNat + 2 * m.startRecv.toNat + 4 * m.stopSend.toNat +
      8 * m.stopRecv.toNat + 16 * m.preSend.toNat + 32 * m.preRecv.toNat +
      1024 * m.initSend.toNat + 2048 * m.initRecv.toNat +
      if type ≠ 0 then 0 else 4096 * m.checkSend.toNat + 8192 * m.checkRecv.toNat := by
  have binary := exclusive.binary
  simp only [List.forall_mem_cons, List.not_mem_nil, false_imp_iff, implies_true] at binary
  obtain ⟨startSend, startRecv, stopSend, stopRecv, preSend, preRecv, initSend, initRecv,
    checkSend, checkRecv, -⟩ := binary
  rw [Modes.getRunMode, Modes.sum]
  split
  · rw [sum_eq _ 0 (le_refl 0)]
    · simp only [List.append_nil, List.map_cons, List.map_nil, List.sum_cons, List.sum_nil]
      omega
    · simp only [List.append_nil, List.map_cons, List.map_nil, List.sum_cons, List.sum_nil]
      omega
  · rw [sum_eq _ 0 (le_refl 0)]
    · simp only [List.cons_append, List.nil_append, List.map_cons, List.map_nil, List.sum_cons,
        List.sum_nil]
      omega
    · simp only [List.cons_append, List.nil_append, List.map_cons, List.map_nil, List.sum_cons,
        List.sum_nil]
      omega

theorem Exclusive.limitDays (exclusive : Exclusive m) : Exclusive m.limitDays := by
  rw [Modes.limitDays]
  split
  · exact (exclusive.setRunMode (by decide)).setRunMode (by decide)
  · exact exclusive

theorem Exclusive.followHh9 (exclusive : Exclusive m) : Exclusive m.followHh9 := by
  rw [Modes.followHh9]
  split
  · exact ⟨exclusive.binary, exclusive.recv, exclusive.backup⟩
  · exact exclusive

theorem Exclusive.keepRunning (exclusive : Exclusive m) : Exclusive m.keepRunning :=
  ⟨exclusive.binary, exclusive.recv, exclusive.backup⟩

theorem Exclusive.clearPreheat (exclusive : Exclusive m) : Exclusive m.clearPreheat :=
  ⟨exclusive.binary, exclusive.recv, exclusive.backup⟩

theorem Exclusive.startInit (exclusive : Exclusive m) : Exclusive m.startInit := by
  rw [Modes.startInit]
  split
  · exact (exclusive.setRunMode (by decide)).keepRunning.clearPreheat
  · exact exclusive

theorem Exclusive.startRun (exclusive : Exclusive m) : Exclusive m.startRun := by
  rw [Modes.startRun]
  split
  · exact exclusive.keepRunning
  · exact exclusive

theorem Exclusive.stopInit (exclusive : Exclusive m) : Exclusive m.stopInit := by
  rw [Modes.stopInit]
  split
  · exact (exclusive.setRunMode (by decide)).keepRunning.clearPreheat
  · exact exclusive

theorem Exclusive.stopRun (exclusive : Exclusive m) : Exclusive m.stopRun := by
  rw [Modes.stopRun]
  split
  · exact exclusive.keepRunning
  · exact exclusive

theorem Exclusive.preheatRun (exclusive : Exclusive m) : Exclusive m.preheatRun := by
  have entered : Exclusive (if m.preStatus ≠ 0 then
      { Modes.setRunMode startsPreRecv m with preStatus := 0 } else m) := by
    split
    · have pre : Exclusive (Modes.setRunMode startsPreRecv m) := exclusive.setRunMode (by decide)
      exact ⟨pre.binary, pre.recv, pre.backup⟩
    · exact exclusive
  exact ⟨entered.binary, entered.recv, entered.backup⟩

theorem Exclusive.preheat (exclusive : Exclusive m) (clock : Clock) :
    Exclusive (m.preheat clock) := by
  have counted : Exclusive { m with runStatus := 1, runSecond := 0 } :=
    ⟨exclusive.binary, exclusive.recv, exclusive.backup⟩
  have start : Exclusive ({ m with runStatus := 1, runSecond := 0 } |> Modes.setRunMode
      statusStartSend) := counted.setRunMode (by decide)
  have stop : Exclusive (Modes.setRunMode statusStopSent m) := exclusive.setRunMode (by decide)
  rw [Modes.preheat]
  split
  · split
    · simp only
      split
      · exact exclusive.preheatRun
      · split
        · exact start.clearPreheat
        · exact exclusive
    · split
      · exact ⟨stop.binary, stop.recv, stop.backup⟩
      · exact exclusive
  · exact exclusive

theorem Exclusive.initialise (exclusive : Exclusive m) : Exclusive m.initialise := by
  rw [Modes.initialise]
  split
  · refine ⟨?_, exclusive.recv, exclusive.backup⟩
    have binary := exclusive.binary
    simp only [List.forall_mem_cons] at binary ⊢
    obtain ⟨startSend, startRecv, stopSend, stopRecv, preSend, preRecv, -, rest⟩ := binary
    exact ⟨startSend, startRecv, stopSend, stopRecv, preSend, preRecv, by decide, rest⟩
  · exact exclusive

/-- The saved mode has the receive bits of the words, without that of calibration. -/
theorem Exclusive.backupModes (exclusive : Exclusive m) : Exclusive m.backupModes := by
  refine ⟨exclusive.binary, exclusive.recv, ?_⟩
  have value := exclusive.getRunMode 1
  have binary := exclusive.binary
  have recv := exclusive.recv
  simp only [List.forall_mem_cons, List.not_mem_nil, false_imp_iff, implies_true] at binary
  obtain ⟨startSend, startRecv, stopSend, stopRecv, preSend, preRecv, initSend, initRecv, -⟩ :=
    binary
  rw [if_pos (by decide)] at value
  have kept : ((BitVec.ofInt 16 (m.getRunMode 1)).toNat : Int) = m.getRunMode 1 := by
    rw [BitVec.toNat_ofInt]
    omega
  simp only [Modes.backupModes, kept, recvBits]
  generalize m.getRunMode 1 = saved at value
  have bits : saved / 2 ^ 1 % 2 = m.startRecv.toNat ∧ saved / 2 ^ 3 % 2 = m.stopRecv.toNat ∧
      saved / 2 ^ 5 % 2 = m.preRecv.toNat ∧ saved / 2 ^ 13 % 2 = 0 := by
    refine ⟨?_, ?_, ?_, ?_⟩ <;> omega
  obtain ⟨startBit, stopBit, preBit, checkBit⟩ := bits
  rw [startBit, stopBit, preBit, checkBit]
  omega

theorem Exclusive.restoreModes (exclusive : Exclusive m) : Exclusive m.restoreModes := by
  have restored : Exclusive (Modes.setRunMode m.backupMode.toNat m) :=
    exclusive.setRunMode exclusive.backup
  exact ⟨restored.binary, restored.recv, restored.backup⟩

theorem Exclusive.checkStart (exclusive : Exclusive m) : Exclusive m.checkStart := by
  rw [Modes.checkStart]
  split
  · have entered : Exclusive (m.backupModes.setRunMode (statusCheckSend + statusCheckRevv)) :=
      exclusive.backupModes.setRunMode (by decide)
    exact ⟨entered.binary, entered.recv, entered.backup⟩
  · exact exclusive

theorem Exclusive.checkOver (exclusive : Exclusive m) : Exclusive m.checkOver := by
  rw [Modes.checkOver]
  split
  · exact exclusive.restoreModes
  · exact exclusive

theorem Exclusive.checkCancelled (exclusive : Exclusive m) : Exclusive m.checkCancelled := by
  rw [Modes.checkCancelled]
  split
  · have restored := exclusive.restoreModes
    exact ⟨restored.binary, restored.recv, restored.backup⟩
  · exact exclusive

theorem Exclusive.defaultMode (exclusive : Exclusive m) : Exclusive m.defaultMode := by
  rw [Modes.defaultMode]
  split
  · exact exclusive.setRunMode (by decide)
  · exact exclusive

/-- The stop mode is requested when no word is set. -/
theorem getRunMode_defaultMode (exclusive : Exclusive m) : m.defaultMode.getRunMode 0 ≠ 0 := by
  rw [Modes.defaultMode]
  split
  · have stop : Exclusive (m.setRunMode statusStopSent) := exclusive.setRunMode (by decide)
    have requested : (m.setRunMode statusStopSent).stopSend = 1 := rfl
    rw [stop.getRunMode, requested, if_neg (by decide)]
    have one : (1 : Word).toNat = 1 := rfl
    omega
  · assumption

theorem Exclusive.round (exclusive : Exclusive m) (clock : Clock) :
    Exclusive (m.round clock) ∧ (m.round clock).getRunMode 0 ≠ 0 := by
  have before := (((((exclusive.limitDays.followHh9.startInit).startRun.stopInit).stopRun.preheat
    clock).initialise).checkStart.checkOver).checkCancelled
  exact ⟨before.defaultMode, getRunMode_defaultMode before⟩

theorem Exclusive.second (exclusive : Exclusive m) : Exclusive m.second :=
  ⟨exclusive.binary, exclusive.recv, exclusive.backup⟩

/-- The operator sets the five request words. -/
theorem Exclusive.request (exclusive : Exclusive m) {word : Word} (small : word.toNat ≤ 1) :
    Exclusive { m with startSend := word } ∧ Exclusive { m with stopSend := word } ∧
      Exclusive { m with preSend := word } ∧ Exclusive { m with initSend := word } ∧
      Exclusive { m with checkSend := word } := by
  have binary := exclusive.binary
  simp only [List.forall_mem_cons, List.not_mem_nil, false_imp_iff, implies_true] at binary
  obtain ⟨startSend, startRecv, stopSend, stopRecv, preSend, preRecv, initSend, initRecv,
    checkSend, checkRecv, -⟩ := binary
  refine ⟨⟨?_, exclusive.recv, exclusive.backup⟩, ⟨?_, exclusive.recv, exclusive.backup⟩,
    ⟨?_, exclusive.recv, exclusive.backup⟩, ⟨?_, exclusive.recv, exclusive.backup⟩,
    ⟨?_, exclusive.recv, exclusive.backup⟩⟩ <;>
    simp only [List.forall_mem_cons, List.not_mem_nil, false_imp_iff, implies_true, and_true,
      small, startSend, startRecv, stopSend, stopRecv, preSend, preRecv, initSend, initRecv,
      checkSend, checkRecv]

end

end Modes

/-! ## Runs -/

def recvWords : List Nat := [Reg.rStartRecv, Reg.rStopRecv, Reg.rPreRecv, Reg.rCheckRecv]

/-- At most one receive word is set. -/
def OneRecv (s : Incubator) : Prop :=
  ∀ i ∈ recvWords, ∀ j ∈ recvWords, s.getVal i ≠ off → s.getVal j ≠ off → i = j

/-- The mode words are zero or one, at most one receive word is set, and the saved mode has at
most one of the bits of the receive words. -/
structure ModesExclusive (s : Incubator) : Prop where
  binary : ∀ i ∈ readModes 0, s.getUval (Reg.systemInit + i) = 0 ∨
    s.getUval (Reg.systemInit + i) = 1
  recv : OneRecv s
  backup : ∀ i ∈ [1, 3, 5, 13], ∀ j ∈ [1, 3, 5, 13],
    s.getUval Reg.backupOperationMode / 2 ^ i % 2 = 1 →
      s.getUval Reg.backupOperationMode / 2 ^ j % 2 = 1 → i = j

section

variable {s : Incubator}

theorem getVal_ne_off (s : Incubator) (i : Nat) : s.getVal i ≠ off ↔ 0 < (s.reg i).toNat := by
  rw [ne_eq, getVal_eq_off, Nat.pos_iff_ne_zero, ne_eq, not_iff_not]
  exact ⟨fun zero => by rw [zero]; rfl, fun zero => BitVec.eq_of_toNat_eq zero⟩

theorem oneRecv_of_exclusive (exclusive : s.modes.Exclusive) : OneRecv s := by
  have recv := exclusive.recv
  simp only [modes] at recv
  intro i memI j memJ setI setJ
  rw [getVal_ne_off] at setI setJ
  simp only [recvWords, List.mem_cons, List.not_mem_nil, or_false] at memI memJ
  rcases memI with rfl | rfl | rfl | rfl <;> rcases memJ with rfl | rfl | rfl | rfl <;>
    first
    | rfl
    | omega

theorem exclusive_of_modesExclusive (start : ModesExclusive s) : s.modes.Exclusive := by
  have small (i : Nat) (mem : i ∈ readModes 0) : (s.reg (Reg.systemInit + i)).toNat ≤ 1 := by
    have word := start.binary i mem
    rw [getUval_eq] at word
    omega
  have apart (i j : Nat) (memI : i ∈ recvWords) (memJ : j ∈ recvWords) (other : i ≠ j) :
      (s.reg i).toNat = 0 ∨ (s.reg j).toNat = 0 := by
    have one := start.recv i memI j memJ
    rw [getVal_ne_off, getVal_ne_off] at one
    by_contra both
    exact other (one (by omega) (by omega))
  have bit (i j : Nat) (memI : i ∈ [1, 3, 5, 13]) (memJ : j ∈ [1, 3, 5, 13]) (other : i ≠ j) :
      ¬(s.getUval Reg.backupOperationMode / 2 ^ i % 2 = 1 ∧
        s.getUval Reg.backupOperationMode / 2 ^ j % 2 = 1) :=
    fun both => other (start.backup i memI j memJ both.1 both.2)
  refine ⟨?_, ?_, ?_⟩
  · simp only [List.forall_mem_cons, List.not_mem_nil, false_imp_iff, implies_true, and_true]
    exact ⟨small 0 (by decide), small 1 (by decide), small 2 (by decide), small 3 (by decide),
      small 4 (by decide), small 5 (by decide), small 10 (by decide), small 11 (by decide),
      small 12 (by decide), small 13 (by decide)⟩
  · have startStop := apart Reg.rStartRecv Reg.rStopRecv (by decide) (by decide) (by decide)
    have startPre := apart Reg.rStartRecv Reg.rPreRecv (by decide) (by decide) (by decide)
    have startCheck := apart Reg.rStartRecv Reg.rCheckRecv (by decide) (by decide) (by decide)
    have stopPre := apart Reg.rStopRecv Reg.rPreRecv (by decide) (by decide) (by decide)
    have stopCheck := apart Reg.rStopRecv Reg.rCheckRecv (by decide) (by decide) (by decide)
    have preCheck := apart Reg.rPreRecv Reg.rCheckRecv (by decide) (by decide) (by decide)
    have smallStart : (s.reg Reg.rStartRecv).toNat ≤ 1 := small 1 (by decide)
    have smallStop : (s.reg Reg.rStopRecv).toNat ≤ 1 := small 3 (by decide)
    have smallPre : (s.reg Reg.rPreRecv).toNat ≤ 1 := small 5 (by decide)
    have smallCheck : (s.reg Reg.rCheckRecv).toNat ≤ 1 := small 13 (by decide)
    simp only [modes]
    omega
  · have startStop := bit 1 3 (by decide) (by decide) (by decide)
    have startPre := bit 1 5 (by decide) (by decide) (by decide)
    have startCheck := bit 1 13 (by decide) (by decide) (by decide)
    have stopPre := bit 3 5 (by decide) (by decide) (by decide)
    have stopCheck := bit 3 13 (by decide) (by decide) (by decide)
    have preCheck := bit 5 13 (by decide) (by decide) (by decide)
    rw [show ((s.modes.backupMode.toNat : Nat) : Int) = s.getUval Reg.backupOperationMode from rfl,
      Modes.recvBits]
    have binary (i : Nat) : s.getUval Reg.backupOperationMode / 2 ^ i % 2 = 0 ∨
        s.getUval Reg.backupOperationMode / 2 ^ i % 2 = 1 := Int.emod_two_eq _
    have start := binary 1
    have stop := binary 3
    have pre := binary 5
    have check := binary 13
    generalize s.getUval Reg.backupOperationMode / 2 ^ 1 % 2 = a at *
    generalize s.getUval Reg.backupOperationMode / 2 ^ 3 % 2 = b at *
    generalize s.getUval Reg.backupOperationMode / 2 ^ 5 % 2 = c at *
    generalize s.getUval Reg.backupOperationMode / 2 ^ 13 % 2 = d at *
    omega

/-- No event sets a second receive word or saves a second receive bit. -/
theorem exclusive_step (s : Incubator) (e : LoopEvent) (exclusive : s.modes.Exclusive) :
    (loopStep s e).modes.Exclusive := by
  cases e with
  | mainRound clock =>
      rw [loopStep, modes_mainRound]
      exact (exclusive.round clock).1
  | timerCallbackFunc =>
      rw [loopStep, modes_timerCallbackFunc]
      split
      · exact exclusive.second
      · exact exclusive
  | request word mem data =>
      have written : (BitVec.ofInt 16 (if data then on else off)).toNat ≤ 1 := by
        cases data <;> decide
      obtain ⟨startSend, stopSend, preSend, initSend, checkSend⟩ := exclusive.request written
      simp only [List.mem_cons, List.not_mem_nil, or_false] at mem
      rcases mem with rfl | rfl | rfl | rfl | rfl
      · rwa [loopStep, modes_setStartSend]
      · rwa [loopStep, modes_setStopSend]
      · rwa [loopStep, modes_setPreSend]
      · rwa [loopStep, modes_setInitSend]
      · rwa [loopStep, modes_setCheckSend]
  | preheatTimes start stop =>
      rw [loopStep, modes_setPreStop, modes_setPreStart]
      exact ⟨exclusive.binary, exclusive.recv, exclusive.backup⟩
  | runSeconds seconds =>
      rw [loopStep, modes_setRunSecond]
      exact ⟨exclusive.binary, exclusive.recv, exclusive.backup⟩

end

/-- After every round of every run at most one receive word is set, and some mode is on or
requested. -/
theorem runModes_exclusive (s : Incubator) (start : ModesExclusive s) (es : List LoopEvent) :
    Along loopStep (fun _ e t => (∃ clock, e = .mainRound clock) →
      OneRecv t ∧ getRunMode 0 t ≠ 0) s es := by
  refine along_of_invariant exclusive_step ?_ (exclusive_of_modesExclusive start) es
  rintro s e exclusive ⟨clock, rfl⟩
  refine ⟨oneRecv_of_exclusive (exclusive_step s _ exclusive), ?_⟩
  rw [← getRunMode_modes, loopStep, modes_mainRound]
  exact (exclusive.round clock).2

/-- The start mode, far from the limit of its days. -/
def startMode : Incubator := cleared |> setVal Reg.rRunMaxDay 21 |> setVal Reg.rStartRecv on

theorem runModes_exclusive_calibration :
    Along loopStep (fun _ e t => (∃ clock, e = .mainRound clock) →
      OneRecv t ∧ getRunMode 0 t ≠ 0) startMode
      [.request Reg.rCheckSend (by decide) true, .mainRound ⟨0, 0, 0, 0⟩, .timerCallbackFunc,
        .request Reg.rCheckSend (by decide) false, .mainRound ⟨1, 1, 1, 1⟩] :=
  runModes_exclusive _ ⟨by decide, by unfold OneRecv; decide, by decide⟩ _

end Jincubator
