import Jincubator.Damper
import Jincubator.Library.Run
import Jincubator.TestMode
import Jincubator.Timer

/-! # Damper interlock

The damper motor has one output for each direction. No operation of the
controller turns one of them on without turning the other off, so they are never
on together in any order of operations.
-/

namespace Jincubator

open Incubator Run

/-- At most one of the two damper outputs is not zero. -/
def Interlocked (s : Incubator) : Prop :=
  s.getVal Reg.controlDamperOpen = 0 ∨ s.getVal Reg.controlDamperClose = 0

instance (s : Incubator) : Decidable (Interlocked s) :=
  inferInstanceAs (Decidable (_ ∨ _))

section

variable {s t : Incubator} {status schedule : Int}

theorem Interlocked.within {writes : List Nat} (st : Within writes s t)
    (opened : Reg.controlDamperOpen ∉ writes) (closed : Reg.controlDamperClose ∉ writes) :
    Interlocked t ↔ Interlocked s := by
  rw [Interlocked, Interlocked, st.getVal opened, st.getVal closed]

theorem interlocked_ite {c : Prop} [Decidable c] :
    Interlocked (if c then s else t) ↔ if c then Interlocked s else Interlocked t := by
  split <;> rfl

theorem interlocked_setVal {i : Nat} {v : Int} (opened : Reg.controlDamperOpen ≠ i)
    (closed : Reg.controlDamperClose ≠ i) : Interlocked (setVal i v s) ↔ Interlocked s := by
  rw [Interlocked, Interlocked, getVal_setVal_of_ne s v opened, getVal_setVal_of_ne s v closed]

theorem interlocked_setUval {i : Nat} {v : Int} (opened : Reg.controlDamperOpen ≠ i)
    (closed : Reg.controlDamperClose ≠ i) : Interlocked (setUval i v s) ↔ Interlocked s :=
  interlocked_setVal opened closed

theorem interlocked_openOff (s : Incubator) :
    Interlocked (setVal Reg.controlDamperOpen off s) :=
  Or.inl (getVal_setVal_self s _ _)

theorem interlocked_closeOff (s : Incubator) :
    Interlocked (setVal Reg.controlDamperClose off s) :=
  Or.inr (getVal_setVal_self s _ _)

/-- Writing one output is safe where the other one is off. -/
theorem interlocked_openAfterClose (s : Incubator) (status : Int) :
    Interlocked (setVal Reg.controlDamperOpen status (setVal Reg.controlDamperClose off s)) := by
  refine Or.inr ?_
  rw [getVal_setVal_of_ne _ _ (by decide)]
  exact getVal_setVal_self s _ _

theorem interlocked_closeAfterOpen (s : Incubator) (status : Int) :
    Interlocked (setVal Reg.controlDamperClose status (setVal Reg.controlDamperOpen off s)) := by
  refine Or.inl ?_
  rw [getVal_setVal_of_ne _ _ (by decide)]
  exact getVal_setVal_self s _ _

/-! ## The damper functions -/

/-- Both damper functions establish the interlock whatever it was before. -/
theorem interlocked_controlOpenDamper (s : Incubator) (status : Int) :
    Interlocked (controlOpenDamper status s) := by
  rw [controlOpenDamper, interlocked_ite]
  split
  · exact interlocked_openOff s
  · exact interlocked_openAfterClose s status

theorem interlocked_controlCloseDamper (s : Incubator) (status schedule : Int) :
    Interlocked (controlCloseDamper status schedule s) := by
  rw [controlCloseDamper]
  split
  · exact interlocked_closeOff s
  · simp only [interlocked_ite, interlocked_closeAfterOpen, ite_self]

theorem interlocked_controlDamper (type : Int) (safe : Interlocked s) :
    Interlocked (controlDamper type status schedule s) := by
  simp only [controlDamper, interlocked_ite, interlocked_controlOpenDamper,
    interlocked_controlCloseDamper, safe, ite_self]

/-! ## The damper control -/

theorem interlocked_damperCheck {current setting : Int} (safe : Interlocked s) :
    Interlocked (damperCheck current setting s) := by
  simp (disch := decide) only [damperCheck, interlocked_ite, interlocked_setVal,
    interlocked_controlDamper _ safe, safe, ite_self]

theorem interlocked_co2Damper (safe : Interlocked s) : Interlocked (co2Damper s) := by
  have working (safe : Interlocked s) : Interlocked (co2Working s) := by
    simp (disch := decide) only [co2Working, interlocked_ite, interlocked_setVal,
      interlocked_setUval, interlocked_controlDamper _ safe, safe, ite_self]
  have idle {s : Incubator} (safe : Interlocked s) : Interlocked (co2Idle s) := by
    simp (disch := decide) only [co2Idle, interlocked_ite, interlocked_setVal,
      interlocked_setUval, interlocked_controlDamper _ safe, safe, ite_self]
  have stopped {s : Incubator} (safe : Interlocked s) : Interlocked (co2Stopped s) := by
    simp only [co2Stopped, interlocked_ite, interlocked_controlDamper _ safe, safe, ite_self]
  exact stopped (idle (working safe))

theorem interlocked_seekDbo {current : Int} (safe : Interlocked s) :
    Interlocked (seekDbo current s) := by
  have move {c : Prop} [Decidable c] {s : Incubator} (type status : Int) (safe : Interlocked s) :
      Interlocked (if c then controlDamper type status 0 s else s) := by
    simp only [interlocked_ite, interlocked_controlDamper _ safe, safe, ite_self]
  exact move 2 on (move 1 on (move 1 off safe))

theorem interlocked_damperClosed {current : Int} (safe : Interlocked s) :
    Interlocked (damperClosed current s) := by
  simp only [damperClosed, interlocked_ite, interlocked_co2Damper safe,
    interlocked_seekDbo safe, interlocked_controlDamper _ safe, ite_self]

theorem interlocked_damperOpened {current setting : Int} (safe : Interlocked s) :
    Interlocked (damperOpened current setting s) := by
  have enter : Interlocked (enterDamperBand s) := by
    simp (disch := decide) only [enterDamperBand, interlocked_ite, interlocked_setVal, safe,
      ite_self]
  have pid : Interlocked (pidDamper (enterDamperBand s)) := by
    simp only [pidDamper, interlocked_ite, interlocked_controlDamper _ enter, ite_self]
  have dbo : Interlocked (openToDbo current s) := by
    simp only [openToDbo, interlocked_ite, interlocked_controlDamper _ safe, ite_self]
  simp only [damperOpened, interlocked_ite, interlocked_co2Damper safe, dbo, pid,
    interlocked_controlDamper _ safe, ite_self]

theorem interlocked_damperControlFunc (safe : Interlocked s) :
    Interlocked (damperControlFunc s) := by
  have cleared : Interlocked (clearDamperCheck s) := by
    simp (disch := decide) only [clearDamperCheck, interlocked_setVal, safe]
  simp only [damperControlFunc, damperRun, interlocked_ite, interlocked_damperCheck safe,
    interlocked_damperClosed cleared, interlocked_damperOpened cleared,
    interlocked_controlDamper _ cleared, ite_self]

/-! ## The test buttons -/

theorem interlocked_setTestMode {mode : Int} :
    Interlocked (setTestMode mode s) ↔ Interlocked s := by
  have buttons : Within (List.range' Reg.rBtnTpMain 12) s (setTestMode mode s) := by
    rw [within_setTestMode (by decide)]
    exact Within.refl _ _
  exact Interlocked.within buttons (by decide) (by decide)

theorem interlocked_testStarted : Interlocked (testStarted status s) ↔ Interlocked s := by
  simp (disch := decide) only [testStarted, interlocked_setUval]

theorem interlocked_testEnded : Interlocked (testEnded s) ↔ Interlocked s := by
  simp (disch := decide) only [testEnded, interlocked_setVal, interlocked_setTestMode]

theorem interlocked_startTest (safe : Interlocked s) : Interlocked (startTest status s) := by
  rw [startTest]
  simp (disch := decide) only [↓interlocked_ite, testOn, flipEggs, ↓interlocked_testStarted,
    interlocked_setVal, interlocked_setUval, interlocked_controlOpenDamper,
    interlocked_controlCloseDamper, interlocked_setTestMode, safe, ite_self]

theorem interlocked_stopTest (safe : Interlocked s) : Interlocked (stopTest status s) := by
  rw [stopTest]
  simp (disch := decide) only [↓interlocked_ite, testOff, interlocked_testEnded,
    interlocked_setVal, interlocked_controlOpenDamper, interlocked_controlCloseDamper,
    interlocked_setTestMode, safe, ite_self]

theorem interlocked_abortTests (s : Incubator) : Interlocked (abortTests s) := by
  simp (disch := decide) only [abortTests, interlocked_testEnded, interlocked_setVal,
    interlocked_controlCloseDamper]

theorem interlocked_clearTests (safe : Interlocked s) : Interlocked (clearTests s) := by
  simp (disch := decide) only [clearTests, interlocked_setVal, interlocked_setUval, safe]

theorem interlocked_testControlMode (safe : Interlocked s) :
    Interlocked (testControlMode s) := by
  have timed : Interlocked (setUval Reg.testBtnTime 0 s) := by
    simp (disch := decide) only [interlocked_setUval, safe]
  simp only [testControlMode, interlocked_ite, interlocked_startTest safe,
    interlocked_stopTest timed, interlocked_stopTest safe, interlocked_abortTests,
    interlocked_clearTests safe, safe, ite_self]

/-! ## The timer -/

/-- The end switch turns an output off, and the rest of a tick leaves both outputs alone. -/
theorem interlocked_tick {side : DamperSide} (sides : side = openSide ∨ side = closeSide)
    (safe : Interlocked s) : Interlocked (side.tick s) := by
  have arrive : Interlocked (side.arrive s) := by
    rcases sides with rfl | rfl <;>
      simp (disch := decide) only [DamperSide.arrive, openSide, closeSide, setUval_eq,
        interlocked_setVal, interlocked_openOff, interlocked_closeOff]
  have drive : Interlocked (side.drive s) := by
    refine (Interlocked.within (side.drive_within s) ?_ ?_).mpr safe <;>
      rcases sides with rfl | rfl <;> decide
  simp only [DamperSide.tick, interlocked_ite, arrive, drive, safe, ite_self]

theorem interlocked_timerCallbackFunc (safe : Interlocked s) :
    Interlocked (timerCallbackFunc s) := by
  have damper : Interlocked (closeSide.tick (openSide.tick s)) :=
    interlocked_tick (.inr rfl) (interlocked_tick (.inl rfl) safe)
  have seconds (t : Incubator) : Interlocked (second t) ↔ Interlocked t :=
    Interlocked.within (second_within t) (by decide) (by decide)
  simp only [timerCallbackFunc, divideTick, interlocked_ite, seconds]
  exact ite_self _ ▸ damper

end

/-! ## Runs -/

/-- What may happen to the damper: a call, a timer tick, or a change of any other register. -/
inductive DamperEvent where
  | controlDamper (type status schedule : Int)
  | controlOpenDamper (status : Int)
  | controlCloseDamper (status schedule : Int)
  | testControlMode
  | damperControlFunc
  | timerCallbackFunc
  | change (index : Nat) (data : Int) (opened : Reg.controlDamperOpen ≠ index)
      (closed : Reg.controlDamperClose ≠ index)

def damperStep (s : Incubator) : DamperEvent → Incubator
  | .controlDamper type status schedule => controlDamper type status schedule s
  | .controlOpenDamper status => controlOpenDamper status s
  | .controlCloseDamper status schedule => controlCloseDamper status schedule s
  | .testControlMode => testControlMode s
  | .damperControlFunc => damperControlFunc s
  | .timerCallbackFunc => timerCallbackFunc s
  | .change index data _ _ => setVal index data s

theorem interlocked_step (s : Incubator) (e : DamperEvent) (safe : Interlocked s) :
    Interlocked (damperStep s e) := by
  cases e with
  | controlDamper type status schedule => exact interlocked_controlDamper type safe
  | controlOpenDamper status => exact interlocked_controlOpenDamper s status
  | controlCloseDamper status schedule => exact interlocked_controlCloseDamper s status schedule
  | testControlMode => exact interlocked_testControlMode safe
  | damperControlFunc => exact interlocked_damperControlFunc safe
  | timerCallbackFunc => exact interlocked_timerCallbackFunc safe
  | change index data opened closed => exact (interlocked_setVal opened closed).mpr safe

/-- From any registers with at most one damper output on, no run turns both on. -/
theorem damperOutputs_exclusive (s : Incubator) (safe : Interlocked s) (es : List DamperEvent) :
    Interlocked (run damperStep s es) :=
  run_invariant interlocked_step safe es

theorem damperOutputs_exclusive_reversal :
    Interlocked (run damperStep (setVal Reg.controlDamperClose on cleared)
      [.controlDamper 1 on 0, .timerCallbackFunc, .controlDamper 2 on 1, .testControlMode]) :=
  damperOutputs_exclusive _ (by decide) _

end Jincubator
