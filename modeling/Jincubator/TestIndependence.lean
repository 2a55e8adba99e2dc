import Jincubator.TestButtons

/-! # Outputs beside a test

Every output function first looks at the flag of its own test. The flags are
registers of their own but for the third and the fourth water valve, which share
one: testing either of them holds the other.
-/

namespace Jincubator

open Incubator

/-- An output with the function that switches it and the flag that the function looks at. -/
structure Actuator where
  output : Nat
  flag : Nat
  control : Int → Incubator → Incubator

def actuators : List Actuator :=
  [⟨Reg.controlMainHeat, Reg.testMainHeatMode, controlMainHeat⟩,
    ⟨Reg.controlAuxHeat, Reg.testAuxHeatMode, controlAuxHeat⟩,
    ⟨Reg.controlCool2_1, Reg.testCool2_1Mode, controlCool2_1⟩,
    ⟨Reg.controlCool2_2, Reg.testCool2_2Mode, controlCool2_2⟩,
    ⟨Reg.controlCool2_3, Reg.testCool2_3Mode, controlCool2_3⟩,
    ⟨Reg.controlCool2_4, Reg.testCool2_4Mode, controlCool2_4⟩,
    ⟨Reg.controlCool, Reg.testCoolMode, controlCool⟩,
    ⟨Reg.controlSpray, Reg.testSprayMode, controlSpray⟩,
    ⟨Reg.controlBlower, Reg.testBlowerMode, controlBlower⟩]

/-- The state with all flags cleared. -/
def flagsCleared (s : Incubator) : Incubator :=
  testModes.foldl (fun s mode => setVal mode off s) s

/-- The command has the same effect on its output as without any test. -/
def Actuator.SameEffect (a : Actuator) (status : Int) (s : Incubator) : Prop :=
  (a.control status s).getVal a.output = (a.control status (flagsCleared s)).getVal a.output

section

variable {s : Incubator} {a : Actuator} {status : Int}

theorem flagsCleared_within (s : Incubator) : Within testModes s (flagsCleared s) :=
  (within_foldl (fun _ mem _ => within_setVal mem) s).mpr (.refl _ s)

theorem flagsCleared_off (s : Incubator) : Off testModes (flagsCleared s) := by
  have cleared (l few : List Nat) (t : Incubator) (few_off : Off few t) :
      Off (l ++ few) (l.foldl (fun s mode => setVal mode off s) t) := by
    induction l generalizing t few with
    | nil => exact few_off
    | cons mode l ih =>
        refine (ih (mode :: few) _ (few_off.setVal mode)).mono ?_
        intro i mem
        rw [List.cons_append, List.mem_cons, List.mem_append] at mem
        rw [List.mem_append, List.mem_cons]
        tauto
  exact (cleared testModes [] s (Off.none s)).mono (List.subset_append_left _ _)

/-- Two states that a function reads alike get the same output. -/
theorem getVal_switchOutput_congr {t : Incubator} {output : Nat} {held forced held' forced' : Prop}
    [Decidable held] [Decidable forced] [Decidable held'] [Decidable forced']
    (kept : t.getVal output = s.getVal output) (sameHeld : held' ↔ held)
    (sameForced : forced' ↔ forced) :
    (switchOutput output held forced status s).getVal output =
      (switchOutput output held' forced' status t).getVal output := by
  simp only [getVal_switchOutput, kept, sameHeld, sameForced]

theorem fourthValve_output (status : Int) (s : Incubator) :
    (controlCool2_4 status s).getVal Reg.controlCool2_4 =
      if s.getVal Reg.testCool2_4Mode ≠ 0 ∨ s.getVal Reg.sensor6AbnormalAlarm ≠ 0 then
        s.getVal Reg.controlCool2_4
      else short status := by
  rw [controlCool2_4]
  split
  · rename_i tested
    rw [if_pos (Or.inl tested)]
  · rename_i untested
    split
    · rename_i rejected
      rw [if_pos (Or.inr rejected)]
    · rename_i accepted
      rw [if_neg (not_or.mpr ⟨untested, accepted⟩), getVal_setVal_self]

/-- A function whose flag is off does what it does without any test. -/
theorem sameEffect_of_off (mem : a ∈ actuators) (idle : s.getVal a.flag = off) :
    a.SameEffect status s := by
  have within := flagsCleared_within s
  have read (i : Nat) (free : i ∉ testModes) : (flagsCleared s).getVal i = s.getVal i :=
    within.getVal free
  have fan : FanStopped (flagsCleared s) ↔ FanStopped s := FanStopped.within within (by decide)
  have flag : (flagsCleared s).getVal a.flag = s.getVal a.flag := by
    have flags : ∀ a ∈ actuators, a.flag ∈ testModes := by decide
    rw [flagsCleared_off s a.flag (flags a mem), idle]
  simp only [actuators, List.mem_cons, List.not_mem_nil, or_false] at mem
  rcases mem with rfl | rfl | rfl | rfl | rfl | rfl | rfl | rfl | rfl
  · exact getVal_switchOutput_congr (read _ (by decide)) (by rw [flag])
      (MainHeatForced.within within (by decide))
  · exact getVal_switchOutput_congr (read _ (by decide)) (by rw [flag])
      (AuxHeatForced.within within (by decide))
  · exact getVal_switchOutput_congr (read _ (by decide)) (by rw [flag, read _ (by decide)]) fan
  · exact getVal_switchOutput_congr (read _ (by decide)) (by rw [flag, read _ (by decide)]) fan
  · exact getVal_switchOutput_congr (read _ (by decide)) (by rw [flag, read _ (by decide)]) fan
  · simp only [Actuator.SameEffect, fourthValve_output] at flag ⊢
    rw [flag, read _ (by decide), read _ (by decide)]
  · exact getVal_switchOutput_congr (read _ (by decide)) (by rw [flag]) fan
  · exact getVal_switchOutput_congr (read _ (by decide)) (by rw [flag])
      (by rw [read _ (by decide), fan])
  · exact getVal_switchOutput_congr (read _ (by decide)) (by rw [flag])
      (by rw [within.fanStatus])

/-! ## The shared flag -/

/-- Testing the third valve holds the fourth, and testing the fourth holds the third, which
matters unless the sensor of the held valve holds it anyway or it already is as asked. -/
structure Undisturbed (row : TestRow) (a : Actuator) (status : Int) (s : Incubator) : Prop where
  fourth : row.code = 0x200 → a.output = Reg.controlCool2_4 → s.getVal Reg.testCool2_3Mode ≠ 0 →
    s.getVal Reg.sensor6AbnormalAlarm ≠ 0 ∨ s.getVal Reg.controlCool2_4 = short status
  third : row.code = 0x400 → a.output = Reg.controlCool2_3 → s.getVal Reg.testCool2_4Mode ≠ 0 →
    s.getVal Reg.sensor5AbnormalAlarm ≠ 0 ∨
      s.getVal Reg.controlCool2_3 = if FanStopped s then off else short status

/-- The fourth valve while the shared flag is set. -/
theorem sameEffect_fourth (tested : s.getVal Reg.testCool2_4Mode ≠ 0) :
    (controlCool2_4 status s).getVal Reg.controlCool2_4 =
        (controlCool2_4 status (flagsCleared s)).getVal Reg.controlCool2_4 ↔
      s.getVal Reg.sensor6AbnormalAlarm ≠ 0 ∨ s.getVal Reg.controlCool2_4 = short status := by
  have within := flagsCleared_within s
  have cleared : (flagsCleared s).getVal Reg.testCool2_4Mode = 0 :=
    flagsCleared_off s _ (by decide)
  rw [fourthValve_output, fourthValve_output, if_pos (Or.inl tested), cleared,
    within.getVal (i := Reg.sensor6AbnormalAlarm) (by decide),
    within.getVal (i := Reg.controlCool2_4) (by decide)]
  by_cases rejected : s.getVal Reg.sensor6AbnormalAlarm ≠ 0
  · simp [rejected]
  · simp [rejected]

/-- The third valve while the shared flag is set. -/
theorem sameEffect_third (tested : s.getVal Reg.testCool2_3Mode ≠ 0) :
    (controlCool2_3 status s).getVal Reg.controlCool2_3 =
        (controlCool2_3 status (flagsCleared s)).getVal Reg.controlCool2_3 ↔
      s.getVal Reg.sensor5AbnormalAlarm ≠ 0 ∨
        s.getVal Reg.controlCool2_3 = if FanStopped s then off else short status := by
  have within := flagsCleared_within s
  have cleared : (flagsCleared s).getVal Reg.testCool2_3Mode = 0 :=
    flagsCleared_off s _ (by decide)
  have fan : FanStopped (flagsCleared s) ↔ FanStopped s := FanStopped.within within (by decide)
  simp only [controlCool2_3, getVal_switchOutput, fan]
  rw [if_pos (Or.inl tested), cleared,
    within.getVal (i := Reg.sensor5AbnormalAlarm) (by decide),
    within.getVal (i := Reg.controlCool2_3) (by decide)]
  by_cases rejected : s.getVal Reg.sensor5AbnormalAlarm ≠ 0
  · simp [rejected]
  · simp [rejected]

variable {row : TestRow}

/-- Only the third and the fourth valve look at the flag of a foreign test. -/
theorem sharedFlag (rowMem : row ∈ testRows) (mem : a ∈ actuators)
    (other : a.output ≠ row.output) (same : a.flag = row.mode) :
    row.code = 0x200 ∧ a = ⟨Reg.controlCool2_4, Reg.testCool2_4Mode, controlCool2_4⟩ ∨
      row.code = 0x400 ∧ a = ⟨Reg.controlCool2_3, Reg.testCool2_3Mode, controlCool2_3⟩ := by
  have foreign : ∀ row ∈ testRows, ∀ a ∈ actuators, a.output ≠ row.output → a.flag = row.mode →
      row.code = 0x200 ∧ a.output = Reg.controlCool2_4 ∨
        row.code = 0x400 ∧ a.output = Reg.controlCool2_3 := by decide
  have valve := foreign row rowMem a mem other same
  simp only [actuators, List.mem_cons, List.not_mem_nil, or_false] at mem
  rcases mem with rfl | rfl | rfl | rfl | rfl | rfl | rfl | rfl | rfl
  all_goals simp_all

/-- Beside the test of a row, every other output follows its command exactly if the flag that the
third and the fourth valve share does not matter. -/
theorem sameEffect_iff (rowMem : row ∈ testRows) (running : Testing row s) (mem : a ∈ actuators)
    (other : a.output ≠ row.output) (status : Int) :
    a.SameEffect status s ↔ Undisturbed row a status s := by
  have codes : ∀ row ∈ testRows, (row.code = 0x200 → row.mode = Reg.testCool2_3Mode) ∧
      (row.code = 0x400 → row.mode = Reg.testCool2_4Mode) := by decide
  have flags : ∀ a ∈ actuators, a.flag ∈ testModes ∧
      (a.output = Reg.controlCool2_4 → a.flag = Reg.testCool2_4Mode) ∧
      (a.output = Reg.controlCool2_3 → a.flag = Reg.testCool2_3Mode) := by decide
  obtain ⟨flag, fourth, third⟩ := flags a mem
  by_cases set : s.getVal a.flag = off
  · refine iff_of_true (sameEffect_of_off mem set) ⟨?_, ?_⟩
    · intro _ valve held
      rw [fourth valve] at set
      exact absurd set held
    · intro _ valve held
      rw [third valve] at set
      exact absurd set held
  · have same : a.flag = row.mode := by
      by_contra foreign
      exact set (running.others a.flag flag foreign)
    rcases sharedFlag rowMem mem other same with ⟨code, rfl⟩ | ⟨code, rfl⟩
    · refine (sameEffect_fourth set).trans ⟨fun held => ⟨fun _ _ _ => held, ?_⟩, ?_⟩
      · intro _ wrong
        exact absurd wrong (by decide)
      · intro undisturbed
        exact undisturbed.fourth code rfl set
    · refine (sameEffect_third set).trans ⟨fun held => ⟨?_, fun _ _ _ => held⟩, ?_⟩
      · intro _ wrong
        exact absurd wrong (by decide)
      · intro undisturbed
        exact undisturbed.third code rfl set

end

/-- The button of the third valve is pressed while nothing else happens. -/
def thirdValveTest : Incubator :=
  testControlMode (setVal (Reg.rBtnTpMain + 9) on cleared)

theorem thirdValveTest_testing :
    Testing ⟨0x200, Reg.testCool2_3Mode, Reg.controlCool2_3⟩ thirdValveTest :=
  ⟨by decide +kernel, by decide +kernel⟩

theorem sameEffect_iff_spray :
    (⟨Reg.controlSpray, Reg.testSprayMode, controlSpray⟩ : Actuator).SameEffect on
        thirdValveTest ↔
      Undisturbed ⟨0x200, Reg.testCool2_3Mode, Reg.controlCool2_3⟩
        ⟨Reg.controlSpray, Reg.testSprayMode, controlSpray⟩ on thirdValveTest :=
  sameEffect_iff (by simp [testRows]) thirdValveTest_testing (by simp [actuators]) (by decide) on

/-- While the third valve is tested, the fourth cannot be opened. -/
theorem fourthValve_disturbed :
    ¬∀ row ∈ testRows, ∀ s, Testing row s → ∀ a ∈ actuators, a.output ≠ row.output →
      ∀ status, a.SameEffect status s := by
  intro undisturbed
  have open_fourth := undisturbed ⟨0x200, Reg.testCool2_3Mode, Reg.controlCool2_3⟩
    (by simp [testRows]) thirdValveTest thirdValveTest_testing
    ⟨Reg.controlCool2_4, Reg.testCool2_4Mode, controlCool2_4⟩ (by simp [actuators]) (by decide) on
  exact absurd open_fourth (by rw [Actuator.SameEffect]; decide +kernel)

end Jincubator
