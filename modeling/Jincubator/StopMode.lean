import Jincubator.MainLoop

/-! # Outputs in the stop mode

The stop block asks every output to be off. Two guards hold an output instead: an
abnormal return-water sensor leaves its valve as it is, and with the fan stopped
both requests to the damper go to the opening side, which leaves the closing
output alone at the open end.
-/

namespace Jincubator

open Incubator

def returnValves : List Nat :=
  [Reg.controlCool2_1, Reg.controlCool2_2, Reg.controlCool2_3, Reg.controlCool2_4]

def damperOutputs : List Nat := [Reg.controlDamperOpen, Reg.controlDamperClose]

/-- The outputs that are off in the stop mode. -/
def stopOutputs : List Nat :=
  [Reg.controlMainHeat, Reg.controlAuxHeat, Reg.controlCool, Reg.controlSpray,
    Reg.controlColdHotWater, Reg.controlBlower] ++ returnValves ++ damperOutputs

/-- No test mode is on. -/
def NoTests (s : Incubator) : Prop :=
  ∀ mode ∈ List.range' Reg.testMainHeatMode 11, s.getVal mode = off

/-- The sensors of the return-water channels are numbered from three. -/
def channelSensor (valve : Nat) : Nat := Reg.sensor3AbnormalAlarm + (valve - Reg.controlCool2_1)

/-- An abnormal sensor holds its valve open. -/
def ValveHeld (valve : Nat) (s : Incubator) : Prop :=
  s.getVal (channelSensor valve) ≠ off ∧ s.getVal valve ≠ off

/-- The fan is stopped and the damper is being closed at its open end. -/
def DamperHeld (s : Incubator) : Prop :=
  FanStopped s ∧ s.getVal Reg.detectDamperFullyOpen ≠ off ∧
    s.getVal Reg.controlDamperClose ≠ off

section

variable {s t : Incubator}

theorem NoTests.within {writes : List Nat} (tests : NoTests s) (st : Within writes s t)
    (untouched : ∀ mode ∈ List.range' Reg.testMainHeatMode 11, mode ∉ writes) : NoTests t :=
  fun mode mem => (st.getVal (untouched mode mem)).trans (tests mode mem)

/-! ## Guarded outputs -/

theorem getVal_switchOutput_off {output : Nat} {held forced : Prop} [Decidable held]
    [Decidable forced] (free : ¬held) (s : Incubator) :
    (switchOutput output held forced off s).getVal output = off := by
  rw [getVal_switchOutput, if_neg free]
  exact ite_self _

/-- Heating, cooling and spraying are only held by their test modes. -/
theorem outputsOff_off (tests : NoTests t) {output : Nat}
    (mem : output ∈ [Reg.controlMainHeat, Reg.controlAuxHeat, Reg.controlCool,
      Reg.controlSpray]) : (outputsOff t).getVal output = off := by
  have step {output : Nat} (mode : Nat) {forced : Prop} [Decidable forced]
      (test : mode ∈ List.range' Reg.testMainHeatMode 11) {before after : List Nat} {u : Incubator}
      (tu : Within before t u)
      (rest : Within after (switchOutput output (u.getVal mode ≠ off) forced off u) (outputsOff t))
      (apart : mode ∉ before ∧ output ∉ after) : (outputsOff t).getVal output = off := by
    rw [rest.getVal apart.2]
    exact getVal_switchOutput_off (not_not.mpr ((tu.getVal apart.1).trans (tests mode test))) u
  simp only [List.mem_cons, List.not_mem_nil, or_false] at mem
  rcases mem with rfl | rfl | rfl | rfl
  · have rest : Within ([Reg.controlAuxHeat, Reg.controlCool, Reg.controlSpray] ++ returnValves)
        (controlMainHeat off t) (outputsOff t) := by
      simp (disch := decide) only [outputsOff, within_controlCool2, within_controlSpray,
        within_controlCool, within_controlAuxHeat, Within.refl]
    exact step Reg.testMainHeatMode (by decide) (Within.refl [] t) rest (by decide)
  · have before : Within [Reg.controlMainHeat] t (controlMainHeat off t) := by
      simp (disch := decide) only [within_controlMainHeat, Within.refl]
    have rest : Within ([Reg.controlCool, Reg.controlSpray] ++ returnValves)
        (t |> controlMainHeat off |> controlAuxHeat off) (outputsOff t) := by
      simp (disch := decide) only [outputsOff, within_controlCool2, within_controlSpray,
        within_controlCool, Within.refl]
    exact step Reg.testAuxHeatMode (by decide) before rest (by decide)
  · have before : Within [Reg.controlMainHeat, Reg.controlAuxHeat] t
        (t |> controlMainHeat off |> controlAuxHeat off) := by
      simp (disch := decide) only [within_controlMainHeat, within_controlAuxHeat, Within.refl]
    have rest : Within (Reg.controlSpray :: returnValves)
        (t |> controlMainHeat off |> controlAuxHeat off |> controlCool off) (outputsOff t) := by
      simp (disch := decide) only [outputsOff, within_controlCool2, within_controlSpray,
        Within.refl]
    exact step Reg.testCoolMode (by decide) before rest (by decide)
  · have before : Within [Reg.controlMainHeat, Reg.controlAuxHeat, Reg.controlCool] t
        (t |> controlMainHeat off |> controlAuxHeat off |> controlCool off) := by
      simp (disch := decide) only [within_controlMainHeat, within_controlAuxHeat,
        within_controlCool, Within.refl]
    have rest : Within returnValves
        (t |> controlMainHeat off |> controlAuxHeat off |> controlCool off |> controlSpray off)
        (outputsOff t) := by
      simp (disch := decide) only [outputsOff, within_controlCool2, Within.refl]
    exact step Reg.testSprayMode (by decide) before rest (by decide)

/-- A valve is only left open by its own sensor. -/
theorem valve_controlCool2 (tests : NoTests t) {type : Nat} (mem : type ∈ [1, 2, 3, 4]) :
    (controlCool2 type off t).getVal (cool2Output type) = off ↔
      ¬ValveHeld (cool2Output type) t := by
  have guarded {output sensor mode : Nat} (test : t.getVal mode = off) :
      (switchOutput output (t.getVal mode ≠ 0 ∨ t.getVal sensor ≠ 0) (FanStopped t) off
        t).getVal output = off ↔ ¬(t.getVal sensor ≠ off ∧ t.getVal output ≠ off) := by
    rw [getVal_switchOutput]
    by_cases abnormal : t.getVal sensor = 0
    · simp [test, abnormal, short]
    · simp [abnormal]
  simp only [List.mem_cons, List.not_mem_nil, or_false] at mem
  rcases mem with rfl | rfl | rfl | rfl
  · exact guarded (tests Reg.testCool2_1Mode (by decide))
  · exact guarded (tests Reg.testCool2_2Mode (by decide))
  · exact guarded (tests Reg.testCool2_3Mode (by decide))
  · have test : ¬t.getVal Reg.testCool2_4Mode ≠ 0 :=
      not_not.mpr (tests Reg.testCool2_4Mode (by decide))
    rw [controlCool2, controlCool2_4, if_neg test, ValveHeld,
      show channelSensor (cool2Output 4) = Reg.sensor6AbnormalAlarm from rfl]
    by_cases abnormal : t.getVal Reg.sensor6AbnormalAlarm = 0
    · rw [if_neg (not_not.mpr abnormal), getVal_setVal_self]
      simp [abnormal, short]
    · rw [if_pos abnormal]
      simp [abnormal]

theorem ValveHeld.within {writes : List Nat} {valve : Nat} (st : Within writes s t)
    (sensor : channelSensor valve ∉ writes) (output : valve ∉ writes) :
    ValveHeld valve t ↔ ValveHeld valve s := by
  rw [ValveHeld, ValveHeld, st.getVal sensor, st.getVal output]

/-- The outputs that are switched off before a valve and after it. -/
theorem outputsOff_valve (tests : NoTests t) {valve : Nat} (mem : valve ∈ returnValves) :
    (outputsOff t).getVal valve = off ↔ ¬ValveHeld valve t := by
  have step (type : Nat) (kind : type ∈ [1, 2, 3, 4]) {before after : List Nat} {u : Incubator}
      (tu : Within before t u) (rest : Within after (controlCool2 type off u) (outputsOff t))
      (apart : (∀ mode ∈ List.range' Reg.testMainHeatMode 11, mode ∉ before) ∧
        channelSensor (cool2Output type) ∉ before ∧ cool2Output type ∉ before ∧
        cool2Output type ∉ after) :
      (outputsOff t).getVal (cool2Output type) = off ↔ ¬ValveHeld (cool2Output type) t := by
    obtain ⟨modes, sensor, output, kept⟩ := apart
    rw [rest.getVal kept, valve_controlCool2 (tests.within tu modes) kind,
      ValveHeld.within tu sensor output]
  have heats : Within (stopOutputs.take 4) t
      (t |> controlMainHeat off |> controlAuxHeat off |> controlCool off |> controlSpray off) := by
    simp (disch := decide) only [within_controlMainHeat, within_controlAuxHeat,
      within_controlCool, within_controlSpray, Within.refl]
  have first : Within (stopOutputs.take 7) t
      (t |> controlMainHeat off |> controlAuxHeat off |> controlCool off |> controlSpray off
        |> controlCool2 1 off) :=
    (within_controlCool2 (by decide)).mpr (heats.mono (by decide))
  have second : Within (stopOutputs.take 8) t
      (t |> controlMainHeat off |> controlAuxHeat off |> controlCool off |> controlSpray off
        |> controlCool2 1 off |> controlCool2 2 off) :=
    (within_controlCool2 (by decide)).mpr (first.mono (by decide))
  have third : Within (stopOutputs.take 9) t
      (t |> controlMainHeat off |> controlAuxHeat off |> controlCool off |> controlSpray off
        |> controlCool2 1 off |> controlCool2 2 off |> controlCool2 3 off) :=
    (within_controlCool2 (by decide)).mpr (second.mono (by decide))
  have last (u : Incubator) : Within (returnValves.drop 3) u (controlCool2 4 off u) := by
    simp (disch := decide) only [within_controlCool2, Within.refl]
  have lastTwo (u : Incubator) : Within (returnValves.drop 2) u
      (u |> controlCool2 3 off |> controlCool2 4 off) := by
    simp (disch := decide) only [within_controlCool2, Within.refl]
  have lastThree (u : Incubator) : Within (returnValves.drop 1) u
      (u |> controlCool2 2 off |> controlCool2 3 off |> controlCool2 4 off) := by
    simp (disch := decide) only [within_controlCool2, Within.refl]
  simp only [returnValves, List.mem_cons, List.not_mem_nil, or_false] at mem
  rcases mem with rfl | rfl | rfl | rfl
  · exact step 1 (by decide) heats (lastThree _) (by decide)
  · exact step 2 (by decide) first (lastTwo _) (by decide)
  · exact step 3 (by decide) second (last _) (by decide)
  · exact step 4 (by decide) third (Within.refl [] _) (by decide)

/-! ## The damper -/

theorem controlOpenDamper_off (t : Incubator) :
    (controlOpenDamper off t).getVal Reg.controlDamperOpen = off ∧
      (controlOpenDamper off t).getVal Reg.controlDamperClose =
        if t.getVal Reg.detectDamperFullyOpen ≠ 0 then t.getVal Reg.controlDamperClose
        else off := by
  rw [controlOpenDamper]
  split
  · exact ⟨getVal_setVal_self t _ _, getVal_setVal_of_ne t _ (by decide)⟩
  · refine ⟨getVal_setVal_self _ _ _, ?_⟩
    rw [getVal_setVal_of_ne _ _ (by decide)]
    exact getVal_setVal_self t _ _

theorem controlCloseDamper_off (t : Incubator) (opened : t.getVal Reg.controlDamperOpen = off) :
    (controlCloseDamper off 0 t).getVal Reg.controlDamperOpen = off ∧
      (controlCloseDamper off 0 t).getVal Reg.controlDamperClose = off := by
  rw [controlCloseDamper]
  split
  · refine ⟨?_, getVal_setVal_self t _ _⟩
    rwa [getVal_setVal_of_ne t _ (by decide)]
  · refine ⟨?_, getVal_setVal_self _ _ _⟩
    rw [if_neg (by decide), getVal_setVal_of_ne _ _ (by decide)]
    exact getVal_setVal_self t _ _

/-- With the fan stopped both requests go to the opening side. -/
theorem controlDamper_off (tests : NoTests t) {type : Int} (kind : type = 1 ∨ type = 2) :
    controlDamper type off 0 t =
      if FanStopped t ∨ type = 1 then controlOpenDamper off t else controlCloseDamper off 0 t := by
  have untested : ¬(t.getVal Reg.testDamperOpenMode ≠ 0 ∨
      t.getVal Reg.testDamperCloseMode ≠ 0) := by
    rw [tests _ (by decide), tests _ (by decide)]
    decide
  rw [controlDamper, if_neg untested]
  by_cases stopped : FanStopped t
  · simp [stopped]
  · rcases kind with rfl | rfl <;> simp [stopped]

theorem damperOff_damper (tests : NoTests t) :
    (damperOff t).getVal Reg.controlDamperOpen = off ∧
      ((damperOff t).getVal Reg.controlDamperClose = off ↔ ¬DamperHeld t) := by
  have opening : controlDamper 1 off 0 t = controlOpenDamper off t := by
    rw [controlDamper_off tests (Or.inl rfl), if_pos (Or.inr rfl)]
  have kept : Within damperOutputs t (controlOpenDamper off t) := by
    simp (disch := decide) only [within_controlOpenDamper, Within.refl]
  obtain ⟨opened, closed⟩ := controlOpenDamper_off t
  rw [damperOff, opening, controlDamper_off (tests.within kept (by decide)) (Or.inr rfl),
    DamperHeld]
  by_cases stopped : FanStopped t
  · obtain ⟨still, held⟩ := controlOpenDamper_off (controlOpenDamper off t)
    rw [if_pos (Or.inl ((FanStopped.within kept (by decide)).mpr stopped)), held, closed,
      kept.getVal (by decide)]
    refine ⟨still, ?_⟩
    by_cases atEnd : t.getVal Reg.detectDamperFullyOpen = 0
    · simp [atEnd]
    · simp [atEnd, stopped]
  · have running : ¬(FanStopped (controlOpenDamper off t) ∨ (2 : Int) = 1) := by
      rw [FanStopped.within kept (by decide)]
      exact fun either => either.elim stopped (by decide)
    obtain ⟨still, shut⟩ := controlCloseDamper_off (controlOpenDamper off t) opened
    rw [if_neg running]
    exact ⟨still, iff_of_true shut fun held => stopped held.1⟩

/-! ## The stop block -/

/-- What comes before the outputs are switched off. -/
def stopPrefix (s : Incubator) : Incubator :=
  s |> controlRunLight off |> keepRunning |> updateSetPara |> parkMotor |> controlFan off

theorem stopPrefix_within (s : Incubator) :
    Within (setPoints ++ [Reg.controlRunLights, Reg.rRunSecondStatus, Reg.rPreStatus,
      Reg.sSyncMotorControlCmd, Reg.controlFan]) s (stopPrefix s) := by
  simp (disch := decide) only [stopPrefix, keepRunning, within_controlFan, within_parkMotor,
    within_setVal, within_setUval, within_updateSetPara, within_controlRunLight, Within.refl]

theorem stopRun_eq (running : s.getVal Reg.rStopRecv = on) :
    stopRun s = (stopPrefix s |> outputsOff |> controlColdHotWater off |> controlBlower off
      |> damperOff) := by
  rw [stopRun, if_pos running]
  rfl

theorem DamperHeld.within {writes : List Nat} (st : Within writes s t)
    (untouched : ∀ i ∈ [Reg.rSyncMotorControlPara, Reg.detectDamperFullyOpen,
      Reg.controlDamperClose], i ∉ writes) : DamperHeld t ↔ DamperHeld s := by
  rw [DamperHeld, DamperHeld, FanStopped.within st (untouched _ (by simp)),
    st.getVal (untouched _ (by simp)), st.getVal (untouched _ (by simp))]

/-- The values of the outputs after the stop block. -/
theorem stopRun_outputs (running : s.getVal Reg.rStopRecv = on) (tests : NoTests s) :
    (∀ output ∈ stopOutputs.take 6, (stopRun s).getVal output = off) ∧
      (∀ valve ∈ returnValves, (stopRun s).getVal valve = off ↔ ¬ValveHeld valve s) ∧
      (stopRun s).getVal Reg.controlDamperOpen = off ∧
      ((stopRun s).getVal Reg.controlDamperClose = off ↔ ¬DamperHeld s) := by
  rw [stopRun_eq running]
  have su := stopPrefix_within s
  generalize stopPrefix s = u at su
  have testsPrefix : NoTests u := tests.within su (by decide)
  have outputs : Within (stopOutputs.take 4 ++ returnValves) u (outputsOff u) := by
    simp (disch := decide) only [outputsOff, within_controlMainHeat, within_controlAuxHeat,
      within_controlCool, within_controlSpray, within_controlCool2, Within.refl]
  have water : Within [Reg.controlColdHotWater] (outputsOff u)
      (outputsOff u |> controlColdHotWater off) := by
    simp (disch := decide) only [within_controlColdHotWater, Within.refl]
  have blower (t : Incubator) : Within [Reg.controlBlower] t (controlBlower off t) := by
    simp (disch := decide) only [within_controlBlower, Within.refl]
  have damper (t : Incubator) : Within damperOutputs t (damperOff t) := by
    simp (disch := decide) only [damperOff, within_controlDamper, Within.refl]
  have testsWater : NoTests (outputsOff u |> controlColdHotWater off) :=
    (testsPrefix.within outputs (by decide)).within water (by decide)
  have rest : Within (Reg.controlColdHotWater :: Reg.controlBlower :: damperOutputs)
      (outputsOff u)
      (outputsOff u |> controlColdHotWater off |> controlBlower off |> damperOff) :=
    ((water.mono (by decide)).trans ((blower _).mono (by decide))).trans
      ((damper _).mono (by decide))
  refine ⟨?_, ?_, ?_⟩
  · intro output mem
    rcases List.mem_append.mp (show output ∈ [Reg.controlMainHeat, Reg.controlAuxHeat,
      Reg.controlCool, Reg.controlSpray] ++ [Reg.controlColdHotWater, Reg.controlBlower] from mem)
      with guarded | plain
    · rw [rest.getVal (by revert output; decide), outputsOff_off testsPrefix guarded]
    · simp only [List.mem_cons, List.not_mem_nil, or_false] at plain
      rcases plain with rfl | rfl
      · rw [(damper _).getVal (by decide), (blower _).getVal (by decide)]
        exact getVal_setVal_self _ _ _
      · rw [(damper _).getVal (by decide)]
        exact getVal_switchOutput_off
          (not_not.mpr (testsWater Reg.testBlowerMode (by decide))) _
  · intro valve mem
    have apart : ∀ valve ∈ returnValves,
        valve ∉ Reg.controlColdHotWater :: Reg.controlBlower :: damperOutputs ∧
        valve ∉ setPoints ++ [Reg.controlRunLights, Reg.rRunSecondStatus, Reg.rPreStatus,
          Reg.sSyncMotorControlCmd, Reg.controlFan] ∧
        channelSensor valve ∉ setPoints ++ [Reg.controlRunLights, Reg.rRunSecondStatus,
          Reg.rPreStatus, Reg.sSyncMotorControlCmd, Reg.controlFan] := by decide
    obtain ⟨later, output, sensor⟩ := apart valve mem
    rw [rest.getVal later, outputsOff_valve testsPrefix mem, ValveHeld.within su sensor output]
  · have testsDamper := testsWater.within (blower _) (by decide)
    have before := (su.mono (List.subset_append_left _
      (stopOutputs.take 4 ++ returnValves ++ [Reg.controlColdHotWater, Reg.controlBlower]))).trans
      (((outputs.mono (by decide)).trans (water.mono (by decide))).trans
        ((blower _).mono (by decide)))
    have held := damperOff_damper testsDamper
    rwa [DamperHeld.within before (by decide)] at held

end

/-- After the stop block every output is off exactly if no guard holds one. -/
theorem stopRun_off_iff (s : Incubator) (running : s.getVal Reg.rStopRecv = on)
    (tests : NoTests s) :
    (∀ output ∈ stopOutputs, (stopRun s).getVal output = off) ↔
      (∀ valve ∈ returnValves, ¬ValveHeld valve s) ∧ ¬DamperHeld s := by
  obtain ⟨plain, valves, opened, closed⟩ := stopRun_outputs running tests
  refine ⟨fun allOff => ⟨fun valve mem => ?_, ?_⟩, fun ⟨free, damper⟩ output mem => ?_⟩
  · exact (valves valve mem).mp (allOff valve (by
      rw [stopOutputs, List.append_assoc]
      exact List.mem_append_right _ (List.mem_append_left _ mem)))
  · exact closed.mp (allOff _ (by decide))
  · simp only [stopOutputs, List.mem_append] at mem
    rcases mem with (first | valve) | last
    · exact plain output first
    · exact (valves output valve).mpr (free output valve)
    · simp only [damperOutputs, List.mem_cons, List.not_mem_nil, or_false] at last
      rcases last with rfl | rfl
      · exact opened
      · exact closed.mpr damper

/-- In the stop mode the first return-water sensor is abnormal and its valve is open. -/
def stopStart : Incubator :=
  cleared |> setVal Reg.rStopRecv on |> setVal Reg.sensor3AbnormalAlarm on
    |> setVal Reg.controlCool2_1 on

theorem stopRun_off_iff_start :
    (∀ output ∈ stopOutputs, (stopRun stopStart).getVal output = off) ↔
      (∀ valve ∈ returnValves, ¬ValveHeld valve stopStart) ∧ ¬DamperHeld stopStart :=
  stopRun_off_iff stopStart (by decide) (by unfold NoTests; decide)

/-- The valve stays open. -/
theorem stopRun_valve_open : ¬ ∀ s, s.getVal Reg.rStopRecv = on → NoTests s →
    ∀ output ∈ stopOutputs, (stopRun s).getVal output = off := by
  intro allOff
  have running : stopStart.getVal Reg.rStopRecv = on := by decide
  have tests : NoTests stopStart := by unfold NoTests; decide
  have valve := (stopRun_outputs running tests).2.1 Reg.controlCool2_1 (by decide)
  refine valve.mp (allOff stopStart running tests _ (by decide)) ?_
  unfold ValveHeld
  decide

end Jincubator
