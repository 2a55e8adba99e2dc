import Jincubator.Library.Run
import Jincubator.Modes

/-! # Calibration

A request starts a calibration in the round that meets it, and the modes are
restored when its time is used up. The request itself is no part of the restored
modes and no block of the loop clears it: the round after the end of a calibration
meets the same request and starts the next one.
-/

namespace Jincubator

open Incubator Run

/-! ## The blocks above calibration -/

def beforeCheck (clock : Clock) (s : Incubator) : Incubator :=
  s |> runSysTime clock.runSysTime |> startInit |> startRun |> stopInit |> stopRun
    |> preheat clock |> alarmSuppression |> initialise clock.initialise

namespace Modes

def beforeCheck (clock : Clock) (m : Modes) : Modes :=
  m |> limitDays |> followHh9 |> startInit |> startRun |> stopInit |> stopRun |> preheat clock
    |> initialise

theorem round_eq (clock : Clock) (m : Modes) :
    m.round clock = (m.beforeCheck clock |> checkStart |> checkOver |> checkCancelled
      |> defaultMode) := rfl

/-- The request of a calibration is kept, and its receive word is kept or cleared. -/
structure CheckKept (m t : Modes) : Prop where
  send : t.checkSend = m.checkSend
  recv : t.checkRecv = 0 ∨ t.checkRecv = m.checkRecv

theorem CheckKept.refl (m : Modes) : CheckKept m m := ⟨rfl, Or.inr rfl⟩

theorem CheckKept.trans {m t u : Modes} (mt : CheckKept m t) (tu : CheckKept t u) :
    CheckKept m u := by
  refine ⟨tu.send.trans mt.send, ?_⟩
  cases tu.recv with
  | inl cleared => exact Or.inl cleared
  | inr kept =>
      cases mt.recv with
      | inl cleared => exact Or.inl (kept.trans cleared)
      | inr still => exact Or.inr (kept.trans still)

section

variable (m : Modes)

theorem limitDays_check : CheckKept m m.limitDays := by
  rw [limitDays]
  split
  · exact ⟨rfl, Or.inl rfl⟩
  · exact .refl m

theorem followHh9_check : CheckKept m m.followHh9 := by
  rw [followHh9]
  split
  · exact ⟨rfl, Or.inr rfl⟩
  · exact .refl m

theorem startInit_check : CheckKept m m.startInit := by
  rw [startInit]
  split
  · exact ⟨rfl, Or.inl rfl⟩
  · exact .refl m

theorem startRun_check : CheckKept m m.startRun := by
  rw [startRun]
  split
  · exact ⟨rfl, Or.inr rfl⟩
  · exact .refl m

theorem stopInit_check : CheckKept m m.stopInit := by
  rw [stopInit]
  split
  · exact ⟨rfl, Or.inl rfl⟩
  · exact .refl m

theorem stopRun_check : CheckKept m m.stopRun := by
  rw [stopRun]
  split
  · exact ⟨rfl, Or.inr rfl⟩
  · exact .refl m

theorem preheat_check (clock : Clock) : CheckKept m (m.preheat clock) := by
  have run : CheckKept m m.preheatRun := by
    rw [preheatRun]
    split
    · exact ⟨rfl, Or.inl rfl⟩
    · exact ⟨rfl, Or.inr rfl⟩
  rw [preheat]
  split
  · split
    · simp only
      split
      · exact run
      · split
        · exact ⟨rfl, Or.inl rfl⟩
        · exact .refl m
    · split
      · exact ⟨rfl, Or.inl rfl⟩
      · exact .refl m
  · exact .refl m

theorem initialise_check : CheckKept m m.initialise := by
  rw [initialise]
  split
  · exact ⟨rfl, Or.inr rfl⟩
  · exact .refl m

/-- Above the calibration blocks no request is cleared and no calibration starts. -/
theorem beforeCheck_check (clock : Clock) : CheckKept m (m.beforeCheck clock) :=
  (((((((limitDays_check m).trans (followHh9_check _)).trans (startInit_check _)).trans
    (startRun_check _)).trans (stopInit_check _)).trans (stopRun_check _)).trans
    (preheat_check _ clock)).trans (initialise_check _)

/-- No block clears the request. -/
theorem round_checkSend (clock : Clock) : (m.round clock).checkSend = m.checkSend := by
  have start (t : Modes) : t.checkStart.checkSend = t.checkSend := by
    rw [checkStart]
    split <;> rfl
  have elapsed (t : Modes) : t.checkOver.checkSend = t.checkSend := by
    rw [checkOver]
    split <;> rfl
  have cancelled (t : Modes) : t.checkCancelled.checkSend = t.checkSend := by
    rw [checkCancelled]
    split <;> rfl
  have default (t : Modes) : t.defaultMode.checkSend = t.checkSend := by
    rw [defaultMode]
    split <;> rfl
  rw [round_eq, default, cancelled, elapsed, start, (beforeCheck_check m clock).send]

theorem setRunMode_checkRecv (mode : Int) :
    (m.setRunMode mode).checkRecv = 0 ∨ (m.setRunMode mode).checkRecv = 1 := by
  cases Int.emod_two_eq (mode / 2 ^ 13) with
  | inl zero => exact Or.inl (congrArg (BitVec.ofInt 16) zero)
  | inr one => exact Or.inr (congrArg (BitVec.ofInt 16) one)

end

end Modes

/-! ## The law of a calibration -/

/-- The round starts a calibration. -/
def EntersCalibration (clock : Clock) (s : Incubator) : Prop :=
  (beforeCheck clock s).getVal Reg.rCheckSend = on ∧
    (beforeCheck clock s).getVal Reg.rCheckRecv = off

/-- The flags, the preheat status and the preheat times are those of the given state. -/
structure Restored (saved s : Incubator) : Prop where
  flags : ∀ i ∈ [Reg.rStartRecv, Reg.rStopRecv, Reg.rPreRecv, Reg.rPreStatus],
    s.getVal i = saved.getVal i
  preStart : s.getTime Reg.rPreStartTimeHigh = saved.getTime Reg.rPreStartTimeHigh
  preStop : s.getTime Reg.rPreStopTimeHigh = saved.getTime Reg.rPreStopTimeHigh

/-- A round or a tick, without the operator. -/
inductive FreeEvent where
  | mainRound (clock : Clock)
  | timerCallbackFunc

def freeStep (s : Incubator) : FreeEvent → Incubator
  | .mainRound clock => mainRound clock s
  | .timerCallbackFunc => timerCallbackFunc s

/-- A round that meets a calibration whose time is used up leaves it and restores what was saved,
and no round starts a calibration. -/
def EndsAndRestores (saved s : Incubator) (e : FreeEvent) (t : Incubator) : Prop :=
  ∀ clock, e = .mainRound clock → ¬EntersCalibration clock s ∧
    (s.getVal Reg.rCheckSend = on → s.getVal Reg.rCheckRecv = on →
      s.getUval Reg.calibrationRunTime = 0 → t.getVal Reg.rCheckRecv = off ∧ Restored saved t)

/-- After the round that starts a calibration, all rounds and ticks keep the law. -/
def CalibrationEnds (clock : Clock) (s : Incubator) : Prop :=
  ∀ es, Along freeStep (EndsAndRestores (beforeCheck clock s)) (mainRound clock s) es

section

variable {s saved : Incubator} {clock : Clock}

theorem modes_beforeCheck : (beforeCheck clock s).modes = s.modes.beforeCheck clock := by
  rw [beforeCheck, modes_initialise, modes_within (alarmSuppression_within _) (by decide),
    modes_preheat, modes_stopRun, modes_stopInit, modes_startRun, modes_startInit,
    modes_runSysTime]
  rfl

theorem entersCalibration_iff : EntersCalibration clock s ↔
    (s.modes.beforeCheck clock).checkSend = 1 ∧ (s.modes.beforeCheck clock).checkRecv = 0 := by
  rw [EntersCalibration, getVal_eq_on, getVal_eq_off, ← modes_beforeCheck]
  rfl

/-- With the request on a round either starts a calibration or meets one. -/
theorem entersCalibration_or (send : s.modes.checkSend = 1)
    (recv : s.modes.checkRecv = 0 ∨ s.modes.checkRecv = 1) (clock : Clock) :
    EntersCalibration clock s ∨ s.modes.checkRecv = 1 := by
  rw [entersCalibration_iff]
  have kept := Modes.beforeCheck_check s.modes clock
  cases recv with
  | inl none =>
      refine Or.inl ⟨kept.send.trans send, ?_⟩
      cases kept.recv with
      | inl cleared => exact cleared
      | inr still => exact still.trans none
  | inr met => exact Or.inr met

/-- Two rounds after the time is used up the law is broken: if the first one leaves the
calibration, the second one starts the next. -/
theorem not_endsAndRestores (send : s.modes.checkSend = 1)
    (recv : s.modes.checkRecv = 0 ∨ s.modes.checkRecv = 1)
    (elapsed : s.getUval Reg.calibrationRunTime = 0) :
    ¬Along freeStep (EndsAndRestores saved) s [.mainRound clock, .mainRound clock] := by
  rintro ⟨first, second, -⟩
  obtain ⟨stays, leaves⟩ := first clock rfl
  have met : s.modes.checkRecv = 1 := (entersCalibration_or send recv clock).resolve_left stays
  obtain ⟨left, -⟩ := leaves ((getVal_eq_on s _).mpr send) ((getVal_eq_on s _).mpr met) elapsed
  have request : (mainRound clock s).modes.checkSend = 1 := by
    rw [modes_mainRound, Modes.round_checkSend, send]
  have outside : (mainRound clock s).modes.checkRecv = 0 := (getVal_eq_off _ _).mp left
  refine (second clock rfl).1 ?_
  refine (entersCalibration_or request (Or.inl outside) clock).resolve_right fun inside => ?_
  rw [outside] at inside
  exact absurd inside (by decide)

/-- After the round that starts a calibration the request is on, and so is the calibration unless
its time is zero. -/
theorem modes_entered (enters : EntersCalibration clock s) :
    (mainRound clock s).modes.checkSend = 1 ∧
      ((mainRound clock s).modes.checkRecv = 0 ∨ (mainRound clock s).modes.checkRecv = 1) := by
  rw [entersCalibration_iff] at enters
  rw [modes_mainRound]
  refine ⟨?_, ?_⟩
  · rw [Modes.round_checkSend, ← (Modes.beforeCheck_check s.modes clock).send, enters.1]
  · rw [Modes.round_eq]
    generalize s.modes.beforeCheck clock = m at enters
    have start : m.checkStart.checkRecv = 0 ∨ m.checkStart.checkRecv = 1 := by
      rw [Modes.checkStart, if_pos enters]
      exact Modes.setRunMode_checkRecv m.backupModes (statusCheckSend + statusCheckRevv)
    generalize m.checkStart = started at start
    have elapsed : started.checkOver.checkRecv = 0 ∨ started.checkOver.checkRecv = 1 := by
      rw [Modes.checkOver]
      split
      · exact Modes.setRunMode_checkRecv started started.backupMode.toNat
      · exact start
    generalize started.checkOver = ended at elapsed
    have cancelled : ended.checkCancelled.checkRecv = 0 ∨ ended.checkCancelled.checkRecv = 1 := by
      rw [Modes.checkCancelled]
      split
      · exact Modes.setRunMode_checkRecv ended ended.backupMode.toNat
      · exact elapsed
    rw [Modes.defaultMode]
    split
    · exact Modes.setRunMode_checkRecv ended.checkCancelled statusStopSent
    · exact cancelled

/-! ## Running the time down -/

/-- Enough ticks make a second. -/
theorem ticks_second (s : Incubator) : ∃ n, (run freeStep s
    (List.replicate n .timerCallbackFunc)).modes = s.modes.second := by
  induction missing : (9 - s.timerCount).toNat generalizing s with
  | zero =>
      refine ⟨1, ?_⟩
      have ready : s.timerCount + 1 ≥ 10 := by omega
      simp only [List.replicate_one, run_cons, run_nil, freeStep, modes_timerCallbackFunc,
        if_pos ready]
  | succ left ih =>
      have waiting : ¬s.timerCount + 1 ≥ 10 := by omega
      have counted : (timerCallbackFunc s).timerCount = s.timerCount + 1 := by
        rw [timer_timerCount, if_neg waiting]
      obtain ⟨n, later⟩ := ih (timerCallbackFunc s) (by omega)
      refine ⟨n + 1, ?_⟩
      rw [List.replicate_succ, run_cons, freeStep, later, modes_timerCallbackFunc,
        if_neg waiting]

/-- The time of a calibration is used up by ticks, which leave the calibration words alone. -/
theorem ticks_over (s : Incubator) : ∃ n, ∀ t, t = run freeStep s
    (List.replicate n .timerCallbackFunc) → t.modes.calibrationTime = 0 ∧
      t.modes.checkSend = s.modes.checkSend ∧ t.modes.checkRecv = s.modes.checkRecv := by
  induction seconds : s.modes.calibrationTime.toNat generalizing s with
  | zero =>
      refine ⟨0, ?_⟩
      rintro t rfl
      exact ⟨BitVec.eq_of_toNat_eq seconds, rfl, rfl⟩
  | succ left ih =>
      have some : s.modes.calibrationTime ≠ 0 := by
        intro none
        rw [none] at seconds
        exact absurd seconds (by simp)
      obtain ⟨n, counted⟩ := ticks_second s
      have less : (run freeStep s
          (List.replicate n .timerCallbackFunc)).modes.calibrationTime.toNat = left := by
        rw [counted, Modes.second, if_pos some]
        simp only [BitVec.toNat_sub]
        have small : s.modes.calibrationTime.toNat < 65536 := s.modes.calibrationTime.isLt
        have one : (1 : Word).toNat = 1 := rfl
        omega
      obtain ⟨rest, elapsed⟩ := ih _ less
      refine ⟨n + rest, ?_⟩
      intro t reached
      rw [List.replicate_add, run_append] at reached
      obtain ⟨zero, send, recv⟩ := elapsed t reached
      rw [counted] at send recv
      exact ⟨zero, send, recv⟩

/-- A calibration that has started is followed by a run without the operator that breaks the
law. -/
theorem exists_broken_run (enters : EntersCalibration clock s) :
    ∃ n, ¬Along freeStep (EndsAndRestores saved) (mainRound clock s)
      (List.replicate n .timerCallbackFunc ++ [.mainRound clock, .mainRound clock]) := by
  obtain ⟨send, recv⟩ := modes_entered enters
  obtain ⟨n, elapsed⟩ := ticks_over (mainRound clock s)
  obtain ⟨zero, sameSend, sameRecv⟩ := elapsed _ rfl
  refine ⟨n, fun along => ?_⟩
  rw [along_append] at along
  refine not_endsAndRestores (sameSend.trans send) ?_ ((getUval_eq_zero _ _).mpr zero) along.2
  rwa [sameRecv]

end

/-- From no state does a calibration end for good. -/
theorem calibration_never_ends (clock : Clock) (s : Incubator)
    (enters : EntersCalibration clock s) : ¬CalibrationEnds clock s := by
  intro ends
  obtain ⟨n, broken⟩ := exists_broken_run enters
  exact broken (ends _)

/-- A minute of calibration is requested in the stop mode. -/
def stopModeRequest : Incubator :=
  cleared |> setVal Reg.rRunMaxDay 3500 |> setVal Reg.rStopRecv on |> setVal Reg.rCheckSend on
    |> setUval Reg.pHh9 1

theorem stopModeRequest_enters : EntersCalibration ⟨0, 0, 0, 0⟩ stopModeRequest := by
  rw [entersCalibration_iff]
  decide +kernel

theorem calibration_never_ends_stopMode :
    ¬CalibrationEnds ⟨0, 0, 0, 0⟩ stopModeRequest :=
  calibration_never_ends _ _ stopModeRequest_enters

/-- A calibration requested in the stop mode starts, but does not end for good. -/
theorem stopModeRequest_starts_again :
    ¬∀ clock s, EntersCalibration clock s → CalibrationEnds clock s := by
  intro ends
  obtain ⟨n, broken⟩ := exists_broken_run stopModeRequest_enters
  exact broken (ends _ _ stopModeRequest_enters _)

end Jincubator
