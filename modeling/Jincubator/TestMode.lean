import Jincubator.Outputs

/-! # Test buttons

Twelve buttons drive one output each for a while. The pressed buttons are summed
into one word, which is compared with the button being tested: a press starts a
test, a release, the end of its time or a second button ends it.
-/

namespace Jincubator

open Incubator

def getTestMode (s : Incubator) : Int :=
  (List.range 12).foldl
    (fun mode i => ushort (mode + s.getUval (Reg.rBtnTpMain + i) * 2 ^ i)) 0

def setTestMode (mode : Int) (s : Incubator) : Incubator :=
  (List.range 12).foldl
    (fun s i => setUval (Reg.rBtnTpMain + i) (mode / 2 ^ i % 2) s) s

/-- The tested button and the time its test may take. -/
def testStarted (status : Int) (s : Incubator) : Incubator :=
  s |> setUval Reg.testControlMode status
    |> setUval Reg.testBtnTime (s.getVal Reg.pHh3 * 60)

/-- A test that switches its output directly. -/
def testOn (mode output : Nat) (status : Int) (s : Incubator) : Incubator :=
  s |> setVal mode on |> setVal output on |> testStarted status

/-- Turn the eggs and change the direction for the next time. -/
def flipEggs (s : Incubator) : Incubator :=
  let direction := s.getUval Reg.pEggFlippingDirection
  let time := ushort (s.getUval Reg.pHh10 * 60)
  s |> setVal Reg.pEggFlippingExecutionStatus on
    |> setVal Reg.pEggFlippingTime time
    |> setVal Reg.pEggFlippingDirection (if direction = 0 then 1 else 0)
    |> setVal Reg.eggFlippingTriggerStatus on

def startTest (status : Int) (s : Incubator) : Incubator :=
  if status = 0x01 then testOn Reg.testMainHeatMode Reg.controlMainHeat status s
  else if status = 0x02 then testOn Reg.testAuxHeatMode Reg.controlAuxHeat status s
  else if status = 0x04 then
    if s.getVal Reg.detectDamperFullyOpen = 0 then
      s |> setVal Reg.testDamperOpenMode on |> controlOpenDamper on |> testStarted status
    else s
  else if status = 0x08 then
    if s.getVal Reg.detectDamperFullyClose = 0 then
      s |> setVal Reg.testDamperCloseMode on |> controlCloseDamper on 0 |> testStarted status
    else s
  else if status = 0x10 then testOn Reg.testSprayMode Reg.controlSpray status s
  else if status = 0x20 then
    s |> setVal Reg.testFilpEggMode on |> flipEggs
      |> setUval Reg.testBtnTime (s.getVal Reg.pHh3 * 60)
      |> setUval Reg.testControlMode status
  else if status = 0x40 then testOn Reg.testCoolMode Reg.controlCool status s
  else if status = 0x80 then testOn Reg.testCool2_1Mode Reg.controlCool2_1 status s
  else if status = 0x100 then testOn Reg.testCool2_2Mode Reg.controlCool2_2 status s
  else if status = 0x200 then testOn Reg.testCool2_3Mode Reg.controlCool2_3 status s
  else if status = 0x400 then testOn Reg.testCool2_4Mode Reg.controlCool2_4 status s
  else if status = 0x800 then
    let s := setVal Reg.testBlowerMode on s
    let s :=
      if s.getVal Reg.controlFan = on then setVal Reg.controlBlower off s
      else setVal Reg.controlBlower on s
    testStarted status s
  else setTestMode 0 s

/-- The buttons are released and no button is under test. -/
def testEnded (s : Incubator) : Incubator :=
  s |> setTestMode 0 |> setVal Reg.testControlMode off

def testOff (mode output : Nat) (s : Incubator) : Incubator :=
  s |> setVal output off |> setVal mode off |> testEnded

def stopTest (tested : Int) (s : Incubator) : Incubator :=
  if tested = 0x01 then testOff Reg.testMainHeatMode Reg.controlMainHeat s
  else if tested = 0x02 then testOff Reg.testAuxHeatMode Reg.controlAuxHeat s
  else if tested = 0x04 then
    s |> controlOpenDamper off |> setVal Reg.testDamperOpenMode off |> testEnded
  else if tested = 0x08 then
    s |> controlCloseDamper off 0 |> setVal Reg.testDamperCloseMode off |> testEnded
  else if tested = 0x10 then testOff Reg.testSprayMode Reg.controlSpray s
  else if tested = 0x20 then testOff Reg.testFilpEggMode Reg.pEggFlippingExecutionStatus s
  else if tested = 0x40 then testOff Reg.testCoolMode Reg.controlCool s
  else if tested = 0x80 then testOff Reg.testCool2_1Mode Reg.controlCool2_1 s
  else if tested = 0x100 then testOff Reg.testCool2_2Mode Reg.controlCool2_2 s
  else if tested = 0x200 then testOff Reg.testCool2_3Mode Reg.controlCool2_3 s
  else if tested = 0x400 then testOff Reg.testCool2_4Mode Reg.controlCool2_4 s
  else if tested = 0x800 then testOff Reg.testBlowerMode Reg.controlBlower s
  else setTestMode 0 s

/-- A second button switches every output and every test mode off. -/
def abortTests (s : Incubator) : Incubator :=
  s |> setUval Reg.testBtnTime 0
    |> setVal Reg.controlMainHeat off |> setVal Reg.testMainHeatMode off
    |> setVal Reg.controlAuxHeat off |> setVal Reg.testAuxHeatMode off
    |> controlOpenDamper off |> setVal Reg.testDamperOpenMode off
    |> controlCloseDamper off 0 |> setVal Reg.testDamperCloseMode off
    |> setVal Reg.controlSpray off |> setVal Reg.testSprayMode off
    |> setVal Reg.pEggFlippingExecutionStatus off |> setVal Reg.testFilpEggMode off
    |> setVal Reg.controlCool off |> setVal Reg.testCoolMode off
    |> setVal Reg.controlCool2_1 off |> setVal Reg.testCool2_1Mode off
    |> setVal Reg.controlCool2_2 off |> setVal Reg.testCool2_2Mode off
    |> setVal Reg.controlCool2_3 off |> setVal Reg.testCool2_3Mode off
    |> setVal Reg.controlCool2_4 off |> setVal Reg.testCool2_4Mode off
    |> setVal Reg.controlBlower off |> setVal Reg.testBlowerMode off
    |> testEnded

/-- Without a button every test mode is cleared, and no output is touched. -/
def clearTests (s : Incubator) : Incubator :=
  s |> setUval Reg.testBtnTime 0
    |> setVal Reg.testMainHeatMode off |> setVal Reg.testAuxHeatMode off
    |> setVal Reg.testDamperOpenMode off |> setVal Reg.testDamperCloseMode off
    |> setVal Reg.testSprayMode off |> setVal Reg.testFilpEggMode off
    |> setVal Reg.testCoolMode off |> setVal Reg.testCool2_1Mode off
    |> setVal Reg.testCool2_2Mode off |> setVal Reg.testCool2_3Mode off
    |> setVal Reg.testCool2_4Mode off |> setVal Reg.testBlowerMode off
    |> setVal Reg.testControlMode off

def testControlMode (s : Incubator) : Incubator :=
  let status := getTestMode s
  let tested := s.getVal Reg.testControlMode
  if status > 0 ∧ tested = 0 then startTest status s
  else if status = 0 ∧ tested > 0 then
    let s := setUval Reg.testBtnTime 0 s
    stopTest (s.getUval Reg.testControlMode) s
  else if status > 0 ∧ tested > 0 ∧ status = tested then
    if s.getUval Reg.testBtnTime = 0 then stopTest (s.getUval Reg.testControlMode) s else s
  else if status > 0 ∧ tested > 0 ∧ status ≠ tested then abortTests s
  else if status = 0 then clearTests s
  else s

/-! ## Footprint -/

/-- The buttons, the test modes, the time of a test and the outputs under test. -/
def testWrites : List Nat :=
  [Reg.controlMainHeat, Reg.controlAuxHeat, Reg.controlDamperOpen, Reg.controlDamperClose,
    Reg.controlSpray, Reg.controlCool, Reg.controlCool2_1, Reg.controlCool2_2,
    Reg.controlCool2_3, Reg.controlCool2_4, Reg.controlBlower,
    Reg.pEggFlippingExecutionStatus, Reg.pEggFlippingTime, Reg.pEggFlippingDirection,
    Reg.eggFlippingTriggerStatus, Reg.testBtnTime, Reg.testControlMode] ++
    List.range' Reg.testMainHeatMode 11 ++ List.range' Reg.rBtnTpMain 12

/-- A button writes the trigger of the turning only where it turns the eggs. -/
def buttonWrites : List Nat := testWrites.erase Reg.eggFlippingTriggerStatus

section

variable {writes : List Nat} {s t : Incubator} {mode output : Nat} {status tested : Int}

theorem within_setTestMode {mode : Int}
    (allowed : ∀ i ∈ List.range 12, Reg.rBtnTpMain + i ∈ writes) :
    Within writes s (setTestMode mode t) ↔ Within writes s t :=
  within_foldl (fun i mem _ => within_setVal (allowed i mem)) t

theorem within_testStarted (tested : Reg.testControlMode ∈ writes)
    (time : Reg.testBtnTime ∈ writes) :
    Within writes s (testStarted status t) ↔ Within writes s t := by
  simp only [testStarted, within_setUval tested, within_setUval time]

theorem within_testOn (mem : mode ∈ buttonWrites) (switched : output ∈ buttonWrites) :
    Within buttonWrites s (testOn mode output status t) ↔ Within buttonWrites s t := by
  simp (disch := decide) only [testOn, within_testStarted, within_setVal mem,
    within_setVal switched]

theorem within_testEnded : Within buttonWrites s (testEnded t) ↔ Within buttonWrites s t := by
  simp (disch := decide) only [testEnded, within_setVal, within_setTestMode]

theorem within_testOff (mem : mode ∈ buttonWrites) (switched : output ∈ buttonWrites) :
    Within buttonWrites s (testOff mode output t) ↔ Within buttonWrites s t := by
  simp only [testOff, within_testEnded, within_setVal mem, within_setVal switched]

theorem within_flipEggs : Within testWrites s (flipEggs t) ↔ Within testWrites s t := by
  simp (disch := decide) only [flipEggs, within_setVal]

/-- The egg button. -/
theorem startTest_eggs (s : Incubator) : startTest 0x20 s =
    (s |> setVal Reg.testFilpEggMode on |> flipEggs
      |> setUval Reg.testBtnTime (s.getVal Reg.pHh3 * 60)
      |> setUval Reg.testControlMode 0x20) := rfl

theorem startTest_within (other : status ≠ 0x20) (s : Incubator) :
    Within buttonWrites s (startTest status s) := by
  rw [startTest, if_neg other]
  simp (disch := decide) only [within_testOn, ↓within_testStarted, ↓within_ite, within_setVal,
    within_controlOpenDamper, within_controlCloseDamper, within_setTestMode, Within.refl, ite_self]

theorem stopTest_within (tested : Int) (s : Incubator) :
    Within buttonWrites s (stopTest tested s) := by
  rw [stopTest]
  simp (disch := decide) only [within_testOff, within_testEnded, ↓within_ite, within_setVal,
    within_controlOpenDamper, within_controlCloseDamper, within_setTestMode, Within.refl, ite_self]

theorem abortTests_within (s : Incubator) : Within buttonWrites s (abortTests s) := by
  simp (disch := decide) only [abortTests, within_testEnded, within_setVal, within_setUval,
    within_controlOpenDamper, within_controlCloseDamper, Within.refl]

theorem clearTests_within (s : Incubator) : Within buttonWrites s (clearTests s) := by
  simp (disch := decide) only [clearTests, within_setVal, within_setUval, Within.refl]

/-- The call turns the eggs: their button is pressed and no test runs. -/
def TurnsEggs (s : Incubator) : Prop :=
  getTestMode s = 0x20 ∧ s.getVal Reg.testControlMode = 0

instance (s : Incubator) : Decidable (TurnsEggs s) := inferInstanceAs (Decidable (_ ∧ _))

theorem testControlMode_of_turnsEggs (turns : TurnsEggs s) :
    testControlMode s = startTest 0x20 s := by
  rw [testControlMode, turns.1, turns.2, if_pos ⟨by decide, rfl⟩]

/-- A call that does not turn the eggs does not write their trigger. -/
theorem testControlMode_button (rests : ¬TurnsEggs s) :
    Within buttonWrites s (testControlMode s) := by
  have stopped (tested : Int) :
      Within buttonWrites s (stopTest tested (setUval Reg.testBtnTime 0 s)) := by
    refine Within.trans ?_ (stopTest_within tested _)
    simp (disch := decide) only [within_setUval, Within.refl]
  rw [testControlMode]
  split
  · rename_i pressed
    exact startTest_within (fun button => rests ⟨button, pressed.2⟩) s
  · simp only [within_ite, stopped, stopTest_within, abortTests_within, clearTests_within,
      Within.refl, ite_self]

theorem testControlMode_within (s : Incubator) : Within testWrites s (testControlMode s) := by
  by_cases turns : TurnsEggs s
  · simp (disch := decide) only [testControlMode_of_turnsEggs turns, startTest_eggs,
      within_setUval, within_flipEggs, within_setVal, Within.refl]
  · exact (testControlMode_button turns).mono (by decide)

@[simp] theorem within_testControlMode (allowed : testWrites ⊆ writes) :
    Within writes s (testControlMode t) ↔ Within writes s t :=
  (testControlMode_within t).skip allowed

end

end Jincubator
