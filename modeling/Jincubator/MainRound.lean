import Jincubator.DamperRange
import Jincubator.Interlock
import Jincubator.RunModes
import Jincubator.TestButtons

/-! # The blocks of a round

A round of the main loop is a sequence of blocks. Between the time function and the
tests a block only writes what its controls and the modes write, and it drives the
damper through its functions. So the interlock, the range of the damper position, the
single test and the exclusive modes hold after every block if they hold before it.
-/

namespace Jincubator

open Footprint Incubator

/-- The blocks between the time function and the tests. -/
def modeBlocks (clock : Clock) : List (Incubator → Incubator) :=
  [startInit, startRun, stopInit, stopRun, preheat clock, alarmSuppression,
    initialise clock.initialise, checkStart, checkOver, checkCancelled, defaultMode]

def roundBlocks (clock : Clock) : List (Incubator → Incubator) :=
  runSysTime clock.runSysTime :: (modeBlocks clock ++ [testControlMode, directionFunc])

theorem mainRound_eq (clock : Clock) (s : Incubator) :
    mainRound clock s = (roundBlocks clock).foldl (fun s block => block s) s := rfl

/-! ## Footprints -/

/-- The words and times of the modes, as the blocks set them. -/
def modeWrites : List Nat :=
  writtenModes.map (Reg.systemInit + ·) ++
    [Reg.rPreStatus, Reg.rRunSecondStatus, Reg.rPreStartTimeHigh, Reg.rPreStartTimeHigh + 1,
      Reg.rPreStopTimeHigh, Reg.rPreStopTimeHigh + 1, Reg.rRunSecondHigh, Reg.rRunSecondHigh + 1,
      Reg.rRunDay, Reg.rInitTimeHigh, Reg.rInitTimeHigh + 1, Reg.rCloseAlaSend,
      Reg.rCloseAlaRecv, Reg.alarmSuppressionTime, Reg.rAiTpEgg,
      Reg.backupPreheatingStartTimeHigh, Reg.backupPreheatingStartTimeHigh + 1,
      Reg.backupPreheatingShutdownTimeHigh, Reg.backupPreheatingShutdownTimeHigh + 1,
      Reg.backupOperationMode, Reg.backupPreStatus, Reg.calibrationRunTime]

def blockWrites : List Nat := controlWrites ++ modeWrites

section

variable {s t u : Incubator}

/-- What the controls of a mode write is skipped. -/
theorem Incubator.Within.control (tu : Within controlWrites t u) :
    Within blockWrites s u ↔ Within blockWrites s t :=
  tu.skip (List.subset_append_left _ _)

theorem mode_mem {i : Nat} (mem : i ∈ modeWrites) : i ∈ blockWrites :=
  List.mem_append_right _ mem

theorem within_mode (mode : Int) :
    Within blockWrites s (setRunMode mode t) ↔ Within blockWrites s t :=
  within_setRunMode fun _ mem =>
    List.mem_append_right _ (List.mem_append_left _ (List.mem_map_of_mem mem))

theorem within_keepRunning :
    Within blockWrites s (keepRunning t) ↔ Within blockWrites s t := by
  simp (disch := exact mode_mem (by decide)) only [keepRunning, within_setUval, within_setVal]

theorem within_clearPreheat :
    Within blockWrites s (clearPreheat t) ↔ Within blockWrites s t := by
  simp (disch := exact mode_mem (by decide)) only [clearPreheat, within_setTime]

/-- All outputs are off and the loops begin anew. -/
theorem within_reset : Within blockWrites s (damperOff (outputsOff (resetReflux (resetLoops t)))) ↔
    Within blockWrites s t := by
  rw [(damperOff_within _).control, (outputsOff_within _).control, (resetReflux_within _).control,
    (resetLoops_within _).control]

theorem startInit_within (s : Incubator) : Within blockWrites s (startInit s) := by
  simp only [startInit, within_ite, within_clearPreheat, within_keepRunning, within_reset,
    within_mode, Within.refl, ite_self]

theorem startRun_within (s : Incubator) : Within blockWrites s (startRun s) := by
  have run : Within blockWrites s (startControls (keepRunning (controlRunLight on s))) := by
    rw [(startControls_within _).control, within_keepRunning,
      within_controlRunLight (by decide)]
    exact Within.refl _ _
  simp only [startRun, within_ite, run, Within.refl, ite_self]

theorem stopInit_within (s : Incubator) : Within blockWrites s (stopInit s) := by
  simp only [stopInit, within_ite, within_clearPreheat, within_keepRunning, within_mode,
    Within.refl, ite_self]

theorem stopRun_within (s : Incubator) : Within blockWrites s (stopRun s) := by
  have run : Within blockWrites s (stopControls (keepRunning (controlRunLight off s))) := by
    rw [(stopControls_within _).control, within_keepRunning,
      within_controlRunLight (by decide)]
    exact Within.refl _ _
  simp only [stopRun, within_ite, run, Within.refl, ite_self]

theorem preheatInit_within (s : Incubator) : Within blockWrites s (preheatInit s) := by
  rw [preheatInit, within_ite]
  split
  · rw [(damperOff_within _).control, (outputsOff_within _).control,
      within_setUval (mode_mem (by decide)), (resetReflux_within _).control,
      (resetLoops_within _).control, within_mode]
    exact Within.refl _ _
  · exact Within.refl _ _

theorem preheatExit_within (now : Int) (s : Incubator) :
    Within blockWrites s (preheatExit now s) := by
  simp (disch := exact mode_mem (by decide)) only [preheatExit, within_clearPreheat, within_mode,
    within_setVal, within_setUval, within_setTime, Within.refl]

theorem preheat_within (clock : Clock) (s : Incubator) :
    Within blockWrites s (preheat clock s) := by
  have run : Within blockWrites s (preheatRun s) := by
    rw [preheatRun, (preheatControls_within _).control, within_setVal (mode_mem (by decide))]
    exact preheatInit_within s
  simp (disch := exact mode_mem (by decide)) only [preheat, within_ite, run, preheatExit_within,
    within_clearPreheat, within_setVal, within_mode, Within.refl, ite_self]

theorem initialise_within (now : Int) (s : Incubator) :
    Within blockWrites s (initialise now s) := by
  simp (disch := exact mode_mem (by decide)) only [initialise, within_ite, within_setVal,
    within_setUval, within_setTime, Within.refl, ite_self]

theorem restoreModes_within (s : Incubator) : Within blockWrites s (restoreModes s) := by
  simp (disch := exact mode_mem (by decide)) only [restoreModes, within_setUval,
    within_setTime, within_mode, Within.refl]

theorem checkStart_within (s : Incubator) : Within blockWrites s (checkStart s) := by
  have saved : Within blockWrites s (backupModes s) := by
    simp (disch := exact mode_mem (by decide)) only [backupModes, within_setUval,
      within_setTime, Within.refl]
  rw [checkStart, within_ite]
  split
  · rw [within_setUval (mode_mem (by decide)), within_clearPreheat,
      (checkControls_within _).control, within_mode]
    exact saved
  · exact Within.refl _ _

theorem checkOver_within (s : Incubator) : Within blockWrites s (checkOver s) := by
  simp only [checkOver, within_ite, restoreModes_within, Within.refl, ite_self]

theorem checkCancelled_within (s : Incubator) : Within blockWrites s (checkCancelled s) := by
  rw [checkCancelled, within_ite, within_setUval (mode_mem (by decide))]
  simp only [restoreModes_within, Within.refl, ite_self]

theorem defaultMode_within (s : Incubator) : Within blockWrites s (defaultMode s) := by
  simp only [defaultMode, within_ite, within_mode, Within.refl, ite_self]

theorem modeBlocks_within (clock : Clock) (s : Incubator) :
    ∀ block ∈ modeBlocks clock, Within blockWrites s (block s) := by
  have suppressed : Within blockWrites s (alarmSuppression s) :=
    (alarmSuppression_within s).mono (by decide +kernel)
  simp only [modeBlocks, List.forall_mem_cons]
  exact ⟨startInit_within s, startRun_within s, stopInit_within s, stopRun_within s,
    preheat_within clock s, suppressed, initialise_within clock.initialise s, checkStart_within s,
    checkOver_within s, checkCancelled_within s, defaultMode_within s, by simp⟩

/-! ## The interlock -/

theorem interlocked_setTime {i : Nat} {v : Int}
    (opened : Reg.controlDamperOpen ≠ i ∧ Reg.controlDamperOpen ≠ i + 1)
    (closed : Reg.controlDamperClose ≠ i ∧ Reg.controlDamperClose ≠ i + 1) :
    Interlocked (setTime i v s) ↔ Interlocked s := by
  rw [setTime_eq, setInt_eq, interlocked_setVal opened.2 closed.2,
    interlocked_setVal opened.1 closed.1]

theorem interlocked_setRunMode {mode : Int} :
    Interlocked (setRunMode mode s) ↔ Interlocked s := by
  have words : Within (writtenModes.map (Reg.systemInit + ·)) s (setRunMode mode s) :=
    (within_setRunMode fun i mem => List.mem_map_of_mem mem).mpr (.refl _ _)
  exact Interlocked.within words (by decide) (by decide)

theorem interlocked_switchOutput {output : Nat} {held forced : Prop} [Decidable held]
    [Decidable forced] {status : Int} (opened : Reg.controlDamperOpen ≠ output)
    (closed : Reg.controlDamperClose ≠ output) :
    Interlocked (switchOutput output held forced status s) ↔ Interlocked s := by
  simp only [switchOutput, interlocked_ite, interlocked_setVal opened closed, ite_self]

theorem interlocked_outputsOff : Interlocked (outputsOff s) ↔ Interlocked s := by
  have outputs : Within [Reg.controlMainHeat, Reg.controlAuxHeat, Reg.controlCool,
      Reg.controlSpray, Reg.controlCool2_1, Reg.controlCool2_2, Reg.controlCool2_3,
      Reg.controlCool2_4] s (outputsOff s) := by
    simp (disch := decide) only [outputsOff, within_controlMainHeat, within_controlAuxHeat,
      within_controlCool, within_controlSpray, within_controlCool2, Within.refl]
  exact Interlocked.within outputs (by decide) (by decide)

theorem interlocked_resetLoops : Interlocked (resetLoops s) ↔ Interlocked s := by
  simp (disch := decide) only [resetLoops, interlocked_setVal, interlocked_setTime]

theorem interlocked_resetReflux : Interlocked (resetReflux s) ↔ Interlocked s := by
  simp (disch := decide) only [resetReflux, interlocked_setUval]

theorem interlocked_keepRunning : Interlocked (keepRunning s) ↔ Interlocked s := by
  simp (disch := decide) only [keepRunning, interlocked_setVal, interlocked_setUval]

theorem interlocked_clearPreheat : Interlocked (clearPreheat s) ↔ Interlocked s := by
  simp (disch := decide) only [clearPreheat, interlocked_setTime]

theorem interlocked_damperOff (safe : Interlocked s) : Interlocked (damperOff s) :=
  interlocked_controlDamper 2 (interlocked_controlDamper 1 safe)

theorem interlocked_haltMotor : Interlocked (haltMotor s) ↔ Interlocked s := by
  simp (disch := decide) only [haltMotor, interlocked_ite, interlocked_setVal, ite_self]

theorem interlocked_driveMotor : Interlocked (driveMotor s) ↔ Interlocked s := by
  simp (disch := decide) only [driveMotor, interlocked_haltMotor, interlocked_ite,
    interlocked_setVal, ite_self]

theorem interlocked_controlFan {status : Int} : Interlocked (controlFan status s) ↔ Interlocked s :=
  interlocked_setVal (by decide) (by decide)

theorem interlocked_controlBlower {status : Int} :
    Interlocked (controlBlower status s) ↔ Interlocked s :=
  interlocked_switchOutput (by decide) (by decide)

/-- The temperature and the humidity are controlled apart from the damper. -/
theorem interlocked_logic :
    Interlocked (logicProcessHumiFunc (logicProcessTempFunc s)) ↔ Interlocked s := by
  have temp : Within logicTempWrites s (logicProcessTempFunc s) := by
    rw [within_logicProcessTempFunc (List.Subset.refl _)]
    exact Within.refl _ _
  have humi : Within logicHumiWrites (logicProcessTempFunc s)
      (logicProcessHumiFunc (logicProcessTempFunc s)) := by
    rw [within_logicProcessHumiFunc (List.Subset.refl _)]
    exact Within.refl _ _
  rw [Interlocked.within humi (by decide) (by decide),
    Interlocked.within temp (by decide) (by decide)]

theorem interlocked_startInit (safe : Interlocked s) : Interlocked (startInit s) := by
  have off : Interlocked (damperOff (outputsOff (resetReflux (resetLoops
      (setRunMode statusStartRecv s))))) := by
    refine interlocked_damperOff ?_
    rwa [interlocked_outputsOff, interlocked_resetReflux, interlocked_resetLoops,
      interlocked_setRunMode]
  simp only [startInit, interlocked_ite, interlocked_clearPreheat, interlocked_keepRunning, off,
    safe, ite_self]

theorem interlocked_startRun (safe : Interlocked s) : Interlocked (startRun s) := by
  rw [startRun]
  split
  · have light : Interlocked (keepRunning (controlRunLight on s)) := by
      rw [interlocked_keepRunning]
      exact (interlocked_setVal (by decide) (by decide)).mpr safe
    generalize keepRunning (controlRunLight on s) = t at light ⊢
    have points : Interlocked (updateSetPara t) :=
      (Interlocked.within (updateSetPara_within t) (by decide) (by decide)).mpr light
    rw [startControls, Interlocked.within (normalRetemp_within _) (by decide) (by decide)]
    refine interlocked_damperControlFunc ?_
    rwa [interlocked_logic, interlocked_controlBlower, interlocked_controlFan,
      interlocked_driveMotor]
  · exact safe

theorem interlocked_stopInit (safe : Interlocked s) : Interlocked (stopInit s) := by
  simp only [stopInit, interlocked_ite, interlocked_clearPreheat, interlocked_keepRunning,
    interlocked_setRunMode, safe, ite_self]

theorem interlocked_stopRun (safe : Interlocked s) : Interlocked (stopRun s) := by
  rw [stopRun]
  split
  · have light : Interlocked (keepRunning (controlRunLight off s)) := by
      rw [interlocked_keepRunning]
      exact (interlocked_setVal (by decide) (by decide)).mpr safe
    generalize keepRunning (controlRunLight off s) = t at light ⊢
    have points : Interlocked (updateSetPara t) :=
      (Interlocked.within (updateSetPara_within t) (by decide) (by decide)).mpr light
    have parked : Interlocked (parkMotor (updateSetPara t)) := by
      simp only [parkMotor, interlocked_ite, interlocked_haltMotor, points, ite_self]
    rw [stopControls]
    refine interlocked_damperOff ?_
    rw [interlocked_controlBlower]
    refine (interlocked_setVal (by decide) (by decide)).mpr ?_
    rwa [interlocked_outputsOff, interlocked_controlFan]
  · exact safe

theorem interlocked_preheatInit (safe : Interlocked s) : Interlocked (preheatInit s) := by
  rw [preheatInit]
  split
  · refine interlocked_damperOff ?_
    rw [interlocked_outputsOff, interlocked_setUval (by decide) (by decide),
      interlocked_resetReflux, interlocked_resetLoops, interlocked_setRunMode]
    exact safe
  · exact safe

theorem interlocked_preheatRun (safe : Interlocked s) : Interlocked (preheatRun s) := by
  have counted : Interlocked (setVal Reg.rRunSecondStatus off (preheatInit s)) :=
    (interlocked_setVal (by decide) (by decide)).mpr (interlocked_preheatInit safe)
  rw [preheatRun]
  generalize setVal Reg.rRunSecondStatus off (preheatInit s) = t at counted ⊢
  rw [preheatControls, Interlocked.within (preRetemp_within _) (by decide) (by decide)]
  refine interlocked_damperControlFunc ?_
  rw [interlocked_logic, Interlocked.within (preheatSetPara_within _) (by decide) (by decide),
    interlocked_controlBlower]
  refine (interlocked_setVal (by decide) (by decide)).mpr ?_
  rwa [interlocked_controlFan, interlocked_driveMotor]

theorem interlocked_preheat (clock : Clock) (safe : Interlocked s) :
    Interlocked (preheat clock s) := by
  have exits : Interlocked (preheatExit clock.preheatExit s) := by
    simp (disch := decide) only [preheatExit, interlocked_clearPreheat, interlocked_setRunMode,
      interlocked_setVal, interlocked_setUval, interlocked_setTime, safe]
  simp (disch := decide) only [preheat, interlocked_ite, interlocked_preheatRun safe, exits,
    interlocked_clearPreheat, interlocked_setVal, interlocked_setRunMode, safe, ite_self]

theorem interlocked_initialise (now : Int) :
    Interlocked (initialise now s) ↔ Interlocked s := by
  simp (disch := decide) only [initialise, interlocked_ite, interlocked_setVal,
    interlocked_setUval, interlocked_setTime, ite_self]

theorem interlocked_restoreModes : Interlocked (restoreModes s) ↔ Interlocked s := by
  simp (disch := decide) only [restoreModes, interlocked_setTime, interlocked_setUval,
    interlocked_setRunMode]

theorem interlocked_checkStart (safe : Interlocked s) : Interlocked (checkStart s) := by
  rw [checkStart]
  split
  · have saved : Interlocked (backupModes s) := by
      simp (disch := decide) only [backupModes, interlocked_setTime, interlocked_setUval, safe]
    have halted : Interlocked (checkControls
        (setRunMode (statusCheckSend + statusCheckRevv) (backupModes s))) := by
      refine interlocked_damperOff ?_
      refine (interlocked_setVal (by decide) (by decide)).mpr ?_
      rwa [interlocked_outputsOff, interlocked_controlFan, interlocked_driveMotor,
        interlocked_setRunMode]
    exact (interlocked_setUval (by decide) (by decide)).mpr (interlocked_clearPreheat.mpr halted)
  · exact safe

theorem modeBlocks_interlocked (clock : Clock) (safe : Interlocked s) :
    ∀ block ∈ modeBlocks clock, Interlocked (block s) := by
  have suppressed : Interlocked (alarmSuppression s) :=
    (Interlocked.within (alarmSuppression_within s) (by decide) (by decide)).mpr safe
  have ended : Interlocked (checkOver s) := by
    simp only [checkOver, interlocked_ite, interlocked_restoreModes, safe, ite_self]
  have cancelled : Interlocked (checkCancelled s) := by
    simp (disch := decide) only [checkCancelled, interlocked_ite, interlocked_setUval,
      interlocked_restoreModes, safe, ite_self]
  have default : Interlocked (defaultMode s) := by
    simp only [defaultMode, interlocked_ite, interlocked_setRunMode, safe, ite_self]
  simp only [modeBlocks, List.forall_mem_cons]
  exact ⟨interlocked_startInit safe, interlocked_startRun safe, interlocked_stopInit safe,
    interlocked_stopRun safe, interlocked_preheat clock safe, suppressed,
    (interlocked_initialise _).mpr safe, interlocked_checkStart safe, ended, cancelled, default,
    by simp⟩

/-! ## The modes -/

/-- Each block keeps the receive words exclusive. -/
theorem modeBlocks_modes (clock : Clock) (exclusive : s.modes.Exclusive) :
    ∀ block ∈ modeBlocks clock, (block s).modes.Exclusive := by
  have suppressed : (alarmSuppression s).modes = s.modes :=
    modes_within (alarmSuppression_within s) (by decide)
  simp only [modeBlocks, List.forall_mem_cons, modes_startInit, modes_startRun, modes_stopInit,
    modes_stopRun, modes_preheat, suppressed, modes_initialise, modes_checkStart, modes_checkOver,
    modes_checkCancelled, modes_defaultMode]
  exact ⟨exclusive.startInit, exclusive.startRun, exclusive.stopInit, exclusive.stopRun,
    exclusive.preheat clock, exclusive, exclusive.initialise, exclusive.checkStart,
    exclusive.checkOver, exclusive.checkCancelled, exclusive.defaultMode, by simp⟩

end

end Jincubator
