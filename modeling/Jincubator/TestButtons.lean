import Jincubator.Library.Run
import Jincubator.TestMode
import Jincubator.Timer

/-! # One test at a time

The word of the pressed buttons is compared with the button under test. A test
begins only while none runs, so the flag of a test is set only when all others
are clear, and every way out of a test clears its flag and its output together
with the word. The timer may clear a damper flag behind the back of the buttons.
-/

namespace Jincubator

open Incubator Run

/-- The word of a button, and the flag and the output of its test. -/
structure TestRow where
  code : Int
  mode : Nat
  output : Nat

/-- The eggs are turned through the status of the turning. The third and the fourth water valve
share one flag. -/
def testRows : List TestRow :=
  [⟨0x01, Reg.testMainHeatMode, Reg.controlMainHeat⟩,
    ⟨0x02, Reg.testAuxHeatMode, Reg.controlAuxHeat⟩,
    ⟨0x04, Reg.testDamperOpenMode, Reg.controlDamperOpen⟩,
    ⟨0x08, Reg.testDamperCloseMode, Reg.controlDamperClose⟩,
    ⟨0x10, Reg.testSprayMode, Reg.controlSpray⟩,
    ⟨0x20, Reg.testFilpEggMode, Reg.pEggFlippingExecutionStatus⟩,
    ⟨0x40, Reg.testCoolMode, Reg.controlCool⟩,
    ⟨0x80, Reg.testCool2_1Mode, Reg.controlCool2_1⟩,
    ⟨0x100, Reg.testCool2_2Mode, Reg.controlCool2_2⟩,
    ⟨0x200, Reg.testCool2_3Mode, Reg.controlCool2_3⟩,
    ⟨0x400, Reg.testCool2_4Mode, Reg.controlCool2_4⟩,
    ⟨0x800, Reg.testBlowerMode, Reg.controlBlower⟩]

/-- The flags of the tests. -/
def testModes : List Nat := List.range' Reg.testMainHeatMode 11

def testState : List Nat := Reg.testControlMode :: testModes

/-- What the tests write besides their flags and the word of the button. -/
def testBesides : List Nat := testWrites.filter fun i => i ∉ testState

/-! ## Registers that are off -/

def Off (registers : List Nat) (s : Incubator) : Prop :=
  ∀ i ∈ registers, s.getVal i = off

instance (registers : List Nat) (s : Incubator) : Decidable (Off registers s) :=
  inferInstanceAs (Decidable (∀ _ ∈ _, _))

namespace Off

variable {few many : List Nat} {s t : Incubator}

theorem none (s : Incubator) : Off [] s := by
  intro i mem
  cases mem

theorem mono (many_off : Off many s) (sub : few ⊆ many) : Off few s := by
  intro i mem
  exact many_off i (sub mem)

/-- A register that is turned off joins those that are off. -/
theorem setVal (few_off : Off few s) (i : Nat) : Off (i :: few) (setVal i off s) := by
  intro j mem
  by_cases same : j = i
  · rw [same, getVal_setVal_self]
    rfl
  · rw [getVal_setVal_of_ne s off same]
    cases mem with
    | head => exact absurd rfl same
    | tail _ mem => exact few_off j mem

theorem setTestMode (few_off : Off few s) : Off few (setTestMode 0 s) := by
  have buttons (l : List Nat) (t : Incubator) (t_off : Off few t) :
      Off few (l.foldl (fun s i => setUval (Reg.rBtnTpMain + i) (0 / 2 ^ i % 2) s) t) := by
    induction l generalizing t with
    | nil => exact t_off
    | cons i l ih =>
        have released : setUval (Reg.rBtnTpMain + i) (0 / 2 ^ i % 2) t =
            Incubator.setVal (Reg.rBtnTpMain + i) off t := by
          rw [Int.zero_ediv, Int.zero_emod, setUval_eq]
        rw [List.foldl_cons, released]
        exact ih _ ((t_off.setVal _).mono (List.subset_cons_self _ _))
  exact buttons _ s few_off

theorem testEnded (few_off : Off few s) : Off (Reg.testControlMode :: few) (testEnded s) :=
  few_off.setTestMode.setVal Reg.testControlMode

theorem testOff (few_off : Off few s) (mode output : Nat) :
    Off (Reg.testControlMode :: mode :: output :: few) (testOff mode output s) :=
  ((few_off.setVal output).setVal mode).testEnded

theorem controlOpenDamper (few_off : Off few s) :
    Off (Reg.controlDamperOpen :: few) (controlOpenDamper off s) := by
  rw [Jincubator.controlOpenDamper]
  split
  · exact few_off.setVal Reg.controlDamperOpen
  · have both := (few_off.setVal Reg.controlDamperClose).setVal Reg.controlDamperOpen
    exact both.mono (List.cons_subset_cons _ (List.subset_cons_self _ _))

theorem controlCloseDamper (few_off : Off few s) :
    Off (Reg.controlDamperClose :: few) (controlCloseDamper off 0 s) := by
  rw [Jincubator.controlCloseDamper]
  split
  · exact few_off.setVal Reg.controlDamperClose
  · have both := (few_off.setVal Reg.controlDamperOpen).setVal Reg.controlDamperClose
    exact both.mono (List.cons_subset_cons _ (List.subset_cons_self _ _))

end Off

/-! ## The ends of a test -/

/-- A second button turns every output and every flag off. -/
theorem abortTests_off (s : Incubator) :
    Off (testState ++ testRows.map TestRow.output) (abortTests s) := by
  have timed := (Off.none s).setVal Reg.testBtnTime
  have heaters := (((timed.setVal Reg.controlMainHeat).setVal Reg.testMainHeatMode).setVal
    Reg.controlAuxHeat).setVal Reg.testAuxHeatMode
  have damper := (heaters.controlOpenDamper.setVal
    Reg.testDamperOpenMode).controlCloseDamper.setVal Reg.testDamperCloseMode
  have spray := (((damper.setVal Reg.controlSpray).setVal Reg.testSprayMode).setVal
    Reg.pEggFlippingExecutionStatus).setVal Reg.testFilpEggMode
  have cool := (((spray.setVal Reg.controlCool).setVal Reg.testCoolMode).setVal
    Reg.controlCool2_1).setVal Reg.testCool2_1Mode
  have valves := (((((cool.setVal Reg.controlCool2_2).setVal Reg.testCool2_2Mode).setVal
    Reg.controlCool2_3).setVal Reg.testCool2_3Mode).setVal Reg.controlCool2_4).setVal
    Reg.testCool2_4Mode
  have ended := ((valves.setVal Reg.controlBlower).setVal Reg.testBlowerMode).testEnded
  exact ended.mono (by decide)

theorem clearTests_off (s : Incubator) : Off testState (clearTests s) := by
  have timed := (Off.none s).setVal Reg.testBtnTime
  have heaters := (timed.setVal Reg.testMainHeatMode).setVal Reg.testAuxHeatMode
  have damper := (heaters.setVal Reg.testDamperOpenMode).setVal Reg.testDamperCloseMode
  have spray := (damper.setVal Reg.testSprayMode).setVal Reg.testFilpEggMode
  have cool := (spray.setVal Reg.testCoolMode).setVal Reg.testCool2_1Mode
  have valves := ((cool.setVal Reg.testCool2_2Mode).setVal Reg.testCool2_3Mode).setVal
    Reg.testCool2_4Mode
  have ended := (valves.setVal Reg.testBlowerMode).setVal Reg.testControlMode
  exact ended.mono (by decide)

/-- The test of a row is over: its word, its flag and its output are off. -/
structure Stopped (row : TestRow) (s t : Incubator) : Prop where
  kept : Within (Reg.testControlMode :: row.mode :: testBesides) s t
  ended : Off [Reg.testControlMode, row.mode, row.output] t

section

variable {s t : Incubator} {row : TestRow}

theorem within_ended {writes : List Nat} (allowed : testBesides ⊆ writes)
    (word : Reg.testControlMode ∈ writes) :
    Within writes s (testEnded t) ↔ Within writes s t := by
  have buttons : ∀ i ∈ List.range 12, Reg.rBtnTpMain + i ∈ writes := by
    have inside : ∀ i ∈ List.range 12, Reg.rBtnTpMain + i ∈ testBesides := by decide
    intro i mem
    exact allowed (inside i mem)
  rw [testEnded, within_setVal word, within_setTestMode buttons]

theorem stopped_testOff {code : Int} {mode output : Nat} (mem : output ∈ testBesides)
    (s : Incubator) : Stopped ⟨code, mode, output⟩ s (testOff mode output s) where
  kept := by
    rw [testOff, within_ended (by simp) (by simp), within_setVal (by simp),
      within_setVal (by simp [mem])]
    exact Within.refl _ _
  ended := (Off.none s).testOff mode output

theorem stopped_openDamper (s : Incubator) :
    Stopped ⟨0x04, Reg.testDamperOpenMode, Reg.controlDamperOpen⟩ s (stopTest 0x04 s) where
  kept := by
    show Within _ s (testEnded _)
    rw [within_ended (by simp) (by simp), within_setVal (by simp),
      within_controlOpenDamper (by decide) (by decide)]
    exact Within.refl _ _
  ended := ((Off.none s).controlOpenDamper.setVal Reg.testDamperOpenMode).testEnded

theorem stopped_closeDamper (s : Incubator) :
    Stopped ⟨0x08, Reg.testDamperCloseMode, Reg.controlDamperClose⟩ s (stopTest 0x08 s) where
  kept := by
    show Within _ s (testEnded _)
    rw [within_ended (by simp) (by simp), within_setVal (by simp),
      within_controlCloseDamper (by decide) (by decide)]
    exact Within.refl _ _
  ended := ((Off.none s).controlCloseDamper.setVal Reg.testDamperCloseMode).testEnded

/-- The end of a test clears what its row names. -/
theorem stopTest_row (mem : row ∈ testRows) (s : Incubator) :
    Stopped row s (stopTest row.code s) := by
  simp only [testRows, List.mem_cons, List.not_mem_nil, or_false] at mem
  rcases mem with rfl | rfl | rfl | rfl | rfl | rfl | rfl | rfl | rfl | rfl | rfl | rfl
  · exact stopped_testOff (by decide) s
  · exact stopped_testOff (by decide) s
  · exact stopped_openDamper s
  · exact stopped_closeDamper s
  · exact stopped_testOff (by decide) s
  · exact stopped_testOff (by decide) s
  · exact stopped_testOff (by decide) s
  · exact stopped_testOff (by decide) s
  · exact stopped_testOff (by decide) s
  · exact stopped_testOff (by decide) s
  · exact stopped_testOff (by decide) s
  · exact stopped_testOff (by decide) s

end

/-! ## The begin of a test -/

/-- The test of a row has begun: no other flag and no other word was written. -/
structure Started (row : TestRow) (s t : Incubator) : Prop where
  kept : Within (Reg.testControlMode :: row.mode :: testBesides) s t
  word : t.getVal Reg.testControlMode = row.code

section

variable {s t : Incubator} {row : TestRow}

theorem started_of_within {code : Int} {mode : Nat} (small : short code = code)
    (kept : Within (mode :: testBesides) s t) (output : Nat) :
    Started ⟨code, mode, output⟩ s (testStarted code t) where
  kept := by
    have time : Reg.testBtnTime ∈ testBesides := by decide
    rw [testStarted, within_setUval (List.mem_cons_of_mem _ (List.mem_cons_of_mem _ time)),
      within_setUval List.mem_cons_self]
    exact kept.mono (List.subset_cons_self _ _)
  word := by
    rw [testStarted, setUval_eq, setUval_eq, getVal_setVal_of_ne _ _ (by decide),
      getVal_setVal_self]
    exact small

theorem started_testOn {code : Int} {mode output : Nat} (small : short code = code)
    (mem : output ∈ testBesides) (s : Incubator) :
    Started ⟨code, mode, output⟩ s (testOn mode output code s) := by
  refine started_of_within small ?_ output
  rw [within_setVal (List.mem_cons_of_mem _ mem), within_setVal List.mem_cons_self]
  exact Within.refl _ _

theorem started_openDamper (s : Incubator) :
    startTest 0x04 s = s ∨
      Started ⟨0x04, Reg.testDamperOpenMode, Reg.controlDamperOpen⟩ s (startTest 0x04 s) := by
  by_cases room : s.getVal Reg.detectDamperFullyOpen = 0
  · right
    have begun : startTest 0x04 s = testStarted 0x04
        (controlOpenDamper on (setVal Reg.testDamperOpenMode on s)) := if_pos room
    rw [begun]
    refine started_of_within (by decide) ?_ _
    rw [within_controlOpenDamper (by decide) (by decide), within_setVal (by decide)]
    exact Within.refl _ _
  · left
    exact if_neg room

theorem started_closeDamper (s : Incubator) :
    startTest 0x08 s = s ∨
      Started ⟨0x08, Reg.testDamperCloseMode, Reg.controlDamperClose⟩ s (startTest 0x08 s) := by
  by_cases room : s.getVal Reg.detectDamperFullyClose = 0
  · right
    have begun : startTest 0x08 s = testStarted 0x08
        (controlCloseDamper on 0 (setVal Reg.testDamperCloseMode on s)) := if_pos room
    rw [begun]
    refine started_of_within (by decide) ?_ _
    rw [within_controlCloseDamper (by decide) (by decide), within_setVal (by decide)]
    exact Within.refl _ _
  · left
    exact if_neg room

theorem started_flipEggs (s : Incubator) :
    Started ⟨0x20, Reg.testFilpEggMode, Reg.pEggFlippingExecutionStatus⟩ s (startTest 0x20 s) where
  kept := by
    show Within _ s (setUval _ _ (setUval _ _ (flipEggs (setVal _ _ s))))
    simp (disch := decide) only [flipEggs, within_setUval, within_setVal, Within.refl]
  word := by
    show (setUval _ _ (setUval _ _ (flipEggs (setVal _ _ s)))).getVal Reg.testControlMode = 0x20
    rw [setUval_eq, getVal_setVal_self]
    decide

theorem started_blower (s : Incubator) :
    Started ⟨0x800, Reg.testBlowerMode, Reg.controlBlower⟩ s (startTest 0x800 s) := by
  refine started_of_within (by decide) ?_ _
  rw [within_ite]
  split
  · rw [within_setVal (by decide), within_setVal (by decide)]
    exact Within.refl _ _
  · rw [within_setVal (by decide), within_setVal (by decide)]
    exact Within.refl _ _

/-- A button begins the test of its row, unless the damper stands at the end already. -/
theorem startTest_row (mem : row ∈ testRows) (s : Incubator) :
    startTest row.code s = s ∨ Started row s (startTest row.code s) := by
  simp only [testRows, List.mem_cons, List.not_mem_nil, or_false] at mem
  rcases mem with rfl | rfl | rfl | rfl | rfl | rfl | rfl | rfl | rfl | rfl | rfl | rfl
  · exact Or.inr (started_testOn (by decide) (by decide) s)
  · exact Or.inr (started_testOn (by decide) (by decide) s)
  · exact started_openDamper s
  · exact started_closeDamper s
  · exact Or.inr (started_testOn (by decide) (by decide) s)
  · exact Or.inr (started_flipEggs s)
  · exact Or.inr (started_testOn (by decide) (by decide) s)
  · exact Or.inr (started_testOn (by decide) (by decide) s)
  · exact Or.inr (started_testOn (by decide) (by decide) s)
  · exact Or.inr (started_testOn (by decide) (by decide) s)
  · exact Or.inr (started_testOn (by decide) (by decide) s)
  · exact Or.inr (started_blower s)

/-- Any other word releases the buttons. -/
theorem startTest_other {status : Int} (other : ∀ row ∈ testRows, row.code ≠ status)
    (s : Incubator) : startTest status s = setTestMode 0 s := by
  simp only [testRows, List.forall_mem_cons, ne_comm] at other
  obtain ⟨mainHeat, auxHeat, opening, closing, spray, eggs, cool, first, second, third, fourth,
    blower, -⟩ := other
  rw [startTest, if_neg mainHeat, if_neg auxHeat, if_neg opening, if_neg closing, if_neg spray,
    if_neg eggs, if_neg cool, if_neg first, if_neg second, if_neg third, if_neg fourth,
    if_neg blower]

end

/-! ## At most one test -/

/-- The test of a row runs: no other flag is set. -/
structure Testing (row : TestRow) (s : Incubator) : Prop where
  word : s.getVal Reg.testControlMode = row.code
  others : ∀ mode ∈ testModes, mode ≠ row.mode → s.getVal mode = off

/-- No test runs, or that of one row. -/
def OneTest (s : Incubator) : Prop :=
  Off testState s ∨ ∃ row ∈ testRows, Testing row s

/-- Whatever else changes, flags may only be cleared and the word stays. -/
theorem OneTest.lower {s t : Incubator} (one : OneTest s)
    (word : t.getVal Reg.testControlMode = s.getVal Reg.testControlMode)
    (flags : ∀ mode ∈ testModes, t.getVal mode = s.getVal mode ∨ t.getVal mode = off) :
    OneTest t := by
  rcases one with idle | ⟨row, mem, running⟩
  · left
    intro i state
    cases state with
    | head => exact word.trans (idle _ List.mem_cons_self)
    | tail _ flag =>
        cases flags i flag with
        | inl same => exact same.trans (idle i (List.mem_cons_of_mem _ flag))
        | inr cleared => exact cleared
  · right
    refine ⟨row, mem, word.trans running.word, ?_⟩
    intro mode flag other
    cases flags mode flag with
    | inl same => exact same.trans (running.others mode flag other)
    | inr cleared => exact cleared

theorem OneTest.within {s t : Incubator} {writes : List Nat} (st : Within writes s t)
    (untouched : ∀ i ∈ testState, i ∉ writes) (one : OneTest s) : OneTest t := by
  refine one.lower (st.getVal (untouched _ List.mem_cons_self)) ?_
  intro mode flag
  exact Or.inl (st.getVal (untouched mode (List.mem_cons_of_mem _ flag)))

section

variable {s t : Incubator} {row : TestRow}

/-- The other flags are apart from what a test of the row writes. -/
theorem other_not_written {mode : Nat} (flag : mode ∈ testModes) (other : mode ≠ row.mode) :
    mode ∉ Reg.testControlMode :: row.mode :: testBesides := by
  have word : mode ≠ Reg.testControlMode := by
    have apart : ∀ mode ∈ testModes, mode ≠ Reg.testControlMode := by decide
    exact apart mode flag
  have besides : mode ∉ testBesides := by
    intro mem
    have outside := (List.mem_filter.mp mem).2
    exact absurd (List.mem_cons_of_mem _ flag) (of_decide_eq_true outside)
  simp only [List.mem_cons, not_or]
  exact ⟨word, other, besides⟩

theorem Started.testing (started : Started row s t) (idle : Off testState s) :
    Testing row t where
  word := started.word
  others := by
    intro mode flag other
    rw [started.kept.getVal (other_not_written flag other)]
    exact idle mode (List.mem_cons_of_mem _ flag)

theorem Stopped.idle (stopped : Stopped row s t) (running : Testing row s) :
    Off testState t := by
  intro i state
  cases state with
  | head => exact stopped.ended _ List.mem_cons_self
  | tail _ flag =>
      by_cases own : i = row.mode
      · exact stopped.ended i (by simp [own])
      · rw [stopped.kept.getVal (other_not_written flag own)]
        exact running.others i flag own

/-- The output of the test that ended is off. -/
def Released (s t : Incubator) : Prop :=
  s.getVal Reg.testControlMode ≠ 0 → t.getVal Reg.testControlMode = 0 →
    ∀ row ∈ testRows, row.code = s.getVal Reg.testControlMode → t.getVal row.output = off

theorem row_code (mem : row ∈ testRows) : 0 < row.code ∧ ushort row.code = row.code := by
  have codes : ∀ row ∈ testRows, 0 < row.code ∧ ushort row.code = row.code := by decide
  exact codes row mem

/-- One word belongs to one row. -/
theorem row_unique {other : TestRow} (mem : row ∈ testRows) (otherMem : other ∈ testRows)
    (same : other.code = row.code) : other.output = row.output := by
  have unique : ∀ row ∈ testRows, ∀ other ∈ testRows, other.code = row.code →
      other.output = row.output := by decide
  exact unique row mem other otherMem same

/-- A test that is stopped leaves no test, with its output off. -/
theorem stopTest_step (mem : row ∈ testRows) (running : Testing row s) :
    OneTest (stopTest (s.getUval Reg.testControlMode) s) ∧
      Released s (stopTest (s.getUval Reg.testControlMode) s) := by
  have tested : s.getUval Reg.testControlMode = row.code := by
    rw [getUval_eq_ushort, running.word, (row_code mem).2]
  rw [tested]
  have stopped := stopTest_row mem s
  refine ⟨Or.inl (stopped.idle running), ?_⟩
  intro _ _ other otherMem same
  rw [row_unique mem otherMem (same.trans running.word)]
  exact stopped.ended _ (by simp)

theorem Testing.within {writes : List Nat} (st : Within writes s t)
    (untouched : ∀ i ∈ testState, i ∉ writes) (running : Testing row s) : Testing row t where
  word := (st.getVal (untouched _ List.mem_cons_self)).trans running.word
  others := by
    intro mode flag other
    rw [st.getVal (untouched mode (List.mem_cons_of_mem _ flag))]
    exact running.others mode flag other

/-- While a word is stored the test of its row runs. -/
theorem OneTest.running (one : OneTest s) (tested : s.getVal Reg.testControlMode ≠ 0) :
    ∃ row ∈ testRows, Testing row s := by
  cases one with
  | inl idle => exact absurd (idle _ List.mem_cons_self) tested
  | inr running => exact running

/-- Without a word no flag is set. -/
theorem OneTest.idle (one : OneTest s) (untested : s.getVal Reg.testControlMode = 0) :
    Off testState s := by
  rcases one with idle | ⟨row, mem, running⟩
  · exact idle
  · have positive := (row_code mem).1
    rw [← running.word, untested] at positive
    exact absurd positive (lt_irrefl 0)

theorem startTest_step (idle : Off testState s) (status : Int) :
    OneTest (startTest status s) := by
  by_cases button : ∃ row ∈ testRows, row.code = status
  · obtain ⟨row, mem, rfl⟩ := button
    cases startTest_row mem s with
    | inl nothing =>
        rw [nothing]
        exact Or.inl idle
    | inr started => exact Or.inr ⟨row, mem, started.testing idle⟩
  · have other : ∀ row ∈ testRows, row.code ≠ status :=
      fun row mem same => button ⟨row, mem, same⟩
    rw [startTest_other other]
    exact Or.inl idle.setTestMode

/-- Every call keeps at most one test and switches off the output of a test it ends. -/
theorem testControlMode_step (one : OneTest s) :
    OneTest (testControlMode s) ∧ Released s (testControlMode s) := by
  have unchanged : OneTest s ∧ Released s s :=
    ⟨one, fun tested untested => absurd untested tested⟩
  simp only [testControlMode]
  split
  · next start =>
    exact ⟨startTest_step (one.idle start.2) _, fun tested => absurd start.2 tested⟩
  · split
    · next release =>
      obtain ⟨row, mem, running⟩ := one.running (ne_of_gt release.2)
      have timed : Within [Reg.testBtnTime] s (setUval Reg.testBtnTime 0 s) := put_within s _ _
      have step := stopTest_step mem (running.within timed (by decide))
      refine ⟨step.1, ?_⟩
      intro tested untested other otherMem same
      have word : (setUval Reg.testBtnTime 0 s).getVal Reg.testControlMode =
          s.getVal Reg.testControlMode := timed.getVal (by decide)
      exact step.2 (word ▸ tested) untested other otherMem (same.trans word.symm)
    · split
      · next held =>
        split
        · obtain ⟨row, mem, running⟩ := one.running (ne_of_gt held.2.1)
          exact stopTest_step mem running
        · exact unchanged
      · split
        · have ended := abortTests_off s
          refine ⟨Or.inl (ended.mono (List.subset_append_left _ _)), ?_⟩
          intro _ _ other otherMem _
          exact ended _ (List.mem_append_right _ (List.mem_map_of_mem otherMem))
        · split
          · next held _ _ released =>
            refine ⟨Or.inl (clearTests_off s), ?_⟩
            intro tested
            obtain ⟨row, mem, running⟩ := one.running tested
            have positive := (row_code mem).1
            rw [← running.word] at positive
            exact absurd ⟨released, positive⟩ held
          · exact unchanged

/-! ## Timer and inputs -/

/-- The end switch clears the flag of its direction. -/
theorem DamperSide.tick_mode (side : DamperSide) (s : Incubator) {mode : Nat}
    (apart : ∀ i ∈ [Reg.rAiAd, side.output, side.button, side.runningTime, side.runningStatus,
      side.otherTime, side.otherStatus], mode ≠ i) :
    (side.tick s).getVal mode = s.getVal mode ∨ (side.tick s).getVal mode = off := by
  simp only [List.forall_mem_cons] at apart
  obtain ⟨position, output, button, time, status, otherTime, otherStatus, -⟩ := apart
  rw [DamperSide.tick]
  split
  · by_cases own : mode = side.testMode
    · right
      rw [DamperSide.arrive, getVal_setVal_of_ne _ _ button, own, getVal_setVal_self]
      rfl
    · left
      have kept : Within [side.output, Reg.rAiAd, side.testMode, side.button] s
          (side.arrive s) := by
        simp [DamperSide.arrive]
      exact kept.getVal (by simp [output, position, own, button])
  · left
    split
    · exact (side.drive_within s).getVal
        (by simp [position, time, status, otherTime, otherStatus])
    · rfl

theorem divideTick_getVal (s : Incubator) {i : Nat} (untouched : i ∉ secondWrites) :
    (divideTick s).getVal i = s.getVal i := by
  rw [divideTick]
  split
  · exact (second_within _).getVal untouched
  · rfl

/-- A tick may clear flags, and leaves the word. -/
theorem timer_step (one : OneTest s) : OneTest (timerCallbackFunc s) := by
  refine one.lower (timer_getVal s (by decide)) ?_
  intro mode flag
  have apart : ∀ side ∈ [openSide, closeSide], ∀ mode ∈ testModes,
      ∀ i ∈ [Reg.rAiAd, side.output, side.button, side.runningTime, side.runningStatus,
        side.otherTime, side.otherStatus], mode ≠ i := by decide
  have untimed : ∀ mode ∈ testModes, mode ∉ secondWrites := by decide
  have opening := openSide.tick_mode s (apart openSide (by simp) mode flag)
  have closing := closeSide.tick_mode (openSide.tick s) (apart closeSide (by simp) mode flag)
  rw [timerCallbackFunc, divideTick_getVal _ (untimed mode flag)]
  cases closing with
  | inl same =>
      rwa [same]
  | inr cleared => exact Or.inr cleared

end

/-- A call, a timer tick, or any other value in a register that is no flag and not the word: the
buttons, the end switches and whatever other threads write. -/
inductive TestEvent where
  | testControlMode
  | timerCallbackFunc
  | input (index : Nat) (free : index ∉ testState) (value : Int)

def testStep (s : Incubator) : TestEvent → Incubator
  | .testControlMode => testControlMode s
  | .timerCallbackFunc => timerCallbackFunc s
  | .input index _ value => setVal index value s

theorem oneTest_step (s : Incubator) (e : TestEvent) (one : OneTest s) :
    OneTest (testStep s e) := by
  cases e with
  | testControlMode => exact (testControlMode_step one).1
  | timerCallbackFunc => exact timer_step one
  | input index free value =>
      refine OneTest.within (put_within s index _) ?_ one
      intro i state same
      rw [List.mem_singleton.mp same] at state
      exact free state

/-- At most one flag is set, and a set flag is the one that the word selects. -/
structure Exclusive (s : Incubator) : Prop where
  atMostOne : ∀ mode ∈ testModes, ∀ other ∈ testModes, s.getVal mode ≠ 0 → s.getVal other ≠ 0 →
    mode = other
  selected : ∀ mode ∈ testModes, s.getVal mode ≠ 0 →
    ∃ row ∈ testRows, row.code = s.getVal Reg.testControlMode ∧ row.mode = mode

theorem OneTest.exclusive {s : Incubator} (one : OneTest s) : Exclusive s := by
  rcases one with idle | ⟨row, mem, running⟩
  · have clear : ∀ mode ∈ testModes, s.getVal mode = 0 :=
      fun mode flag => idle mode (List.mem_cons_of_mem _ flag)
    refine ⟨?_, ?_⟩
    · intro mode flag _ _ set
      exact absurd (clear mode flag) set
    · intro mode flag set
      exact absurd (clear mode flag) set
  · have own : ∀ mode ∈ testModes, s.getVal mode ≠ 0 → mode = row.mode := by
      intro mode flag set
      by_contra other
      exact set (running.others mode flag other)
    refine ⟨?_, ?_⟩
    · intro mode flag other otherFlag set otherSet
      rw [own mode flag set, own other otherFlag otherSet]
    · intro mode flag set
      exact ⟨row, mem, running.word.symm, (own mode flag set).symm⟩

/-- From no test on, every run of calls, ticks and inputs keeps the tests exclusive, and a call
that ends a test leaves its output off. -/
theorem tests_exclusive (s : Incubator) (start : Off testState s) (es : List TestEvent) :
    Along testStep (fun s e t => Exclusive t ∧ (e = .testControlMode → Released s t)) s es := by
  refine along_of_invariant oneTest_step ?_ (Or.inl start) es
  intro s e one
  refine ⟨(oneTest_step s e one).exclusive, ?_⟩
  rintro rfl
  exact (testControlMode_step one).2

/-- The damper is opened until it reaches the end, and the released button ends the test. -/
theorem tests_exclusive_damper :
    Off testState cleared ∧
      Along testStep (fun s e t => Exclusive t ∧ (e = .testControlMode → Released s t)) cleared
        [.input Reg.rBtnDrOn (by decide) on, .testControlMode,
          .input Reg.detectDamperFullyOpen (by decide) on, .timerCallbackFunc, .testControlMode] :=
  ⟨by decide, tests_exclusive cleared (by decide) _⟩

end Jincubator
