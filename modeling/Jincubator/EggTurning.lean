import Jincubator.Library.EdgeCounter
import Jincubator.TestMode

/-! # Counting the turns of the eggs

A turn is triggered when its time has run down, or by the egg button. It is counted
when the detector responds after it has been seen at rest.
-/

namespace Jincubator

open EdgeCounter Footprint Incubator Run

/-! ## The thread that turns the eggs -/

structure EggThread where
  inc : Incubator
  sysNowTimeStatus : Int
  /-- The clock at the start of the turn, in nanoseconds. -/
  start : Int

def controlEgg (s : Incubator) : Incubator :=
  if s.getVal Reg.testFilpEggMode = 0 then flipEggs s else s

def driveEggs (left right : Int) (s : Incubator) : Incubator :=
  s |> setUval Reg.filpEggOn left |> setUval Reg.filpEggOff right

/-- The motor runs in its direction for as long as a turn takes. The clock is read when the turn
starts and again, and the time between is cut off to seconds. -/
def turnEggs (start now : Int) (m : EggThread) : EggThread :=
  if m.inc.getUval Reg.pEggFlippingExecutionStatus ≠ 0 then
    let m :=
      if m.sysNowTimeStatus ≠ 0 then { m with start := start, sysNowTimeStatus := off } else m
    if m.sysNowTimeStatus = 0 then
      let sysSubTime := (now - m.start).tdiv 1000000000
      if sysSubTime ≥ 0 ∧ sysSubTime ≤ m.inc.getVal Reg.eggFlippInginterval then
        if m.inc.getUval Reg.pEggFlippingDirection ≠ 0 then
          { m with inc := driveEggs on off m.inc }
        else { m with inc := driveEggs off on m.inc }
      else
        { m with
          sysNowTimeStatus := on
          inc := m.inc |> driveEggs off off |> setVal Reg.pEggFlippingExecutionStatus off }
    else m
  else { m with sysNowTimeStatus := on, inc := driveEggs off off m.inc }

def countEgg (s : Incubator) : Incubator :=
  if s.getVal Reg.eggFlippingTriggerStatus ≠ 0 then
    let s :=
      if s.getVal Reg.detectFlipEgg = 0 then setVal Reg.eggFlippingAccumulationState on s else s
    if s.getVal Reg.eggFlippingAccumulationState = on ∧ s.getVal Reg.detectFlipEgg = on then
      s |> setVal Reg.rAiTpEgg (s.getVal Reg.rAiTpEgg + 1)
        |> setVal Reg.eggFlippingAccumulationState off
        |> setVal Reg.eggFlippingTriggerStatus off
    else s
  else setVal Reg.eggFlippingAccumulationState off s

/-- One iteration of `flip_egg_func`. -/
def flipEggFunc (start now : Int) (m : EggThread) : EggThread :=
  let s := setUval Reg.pEggTime (m.inc.getVal Reg.pEggFlippingTime) m.inc
  let s := if s.getUval Reg.pEggFlippingTime = 0 then controlEgg s else s
  let m := turnEggs start now { m with inc := s }
  { m with inc := countEgg m.inc }

/-! ## The thread as a counter -/

/-- The trigger and the state of the count, as a counter, and the number of turns. -/
def eggCounter (s : Incubator) : EdgeCounter × Int :=
  (⟨decide (s.getVal Reg.eggFlippingTriggerStatus ≠ 0),
    decide (s.getVal Reg.eggFlippingAccumulationState = on)⟩, s.getVal Reg.rAiTpEgg)

def eggRegisters : List Nat :=
  [Reg.eggFlippingTriggerStatus, Reg.eggFlippingAccumulationState, Reg.rAiTpEgg]

section

variable {s t : Incubator} {writes : List Nat}

theorem eggCounter_agree (st : AgreeOff writes s.shmOut t.shmOut)
    (apart : ∀ i ∈ eggRegisters, i ∉ writes) : eggCounter t = eggCounter s := by
  have kept {i : Nat} (mem : i ∈ eggRegisters) : t.getVal i = s.getVal i :=
    getVal_agree st (apart i mem)
  rw [eggCounter, eggCounter, kept (by decide), kept (by decide), kept (by decide)]

def flipEggsWrites : List Nat :=
  [Reg.pEggFlippingExecutionStatus, Reg.pEggFlippingTime, Reg.pEggFlippingDirection,
    Reg.eggFlippingTriggerStatus]

theorem flipEggs_writes (s : Incubator) : Within flipEggsWrites s (flipEggs s) := by
  simp (disch := decide) only [flipEggs, within_setVal, Within.refl]

/-- Turning the eggs arms the counter. -/
theorem eggCounter_flipEggs (s : Incubator) :
    eggCounter (flipEggs s) = ((eggCounter s).1.arm true, (eggCounter s).2) := by
  have kept := flipEggs_writes s
  have trigger : (flipEggs s).getVal Reg.eggFlippingTriggerStatus = 1 := by
    rw [flipEggs, getVal_setVal_self]
    exact short_of_range (by decide)
  rw [eggCounter, trigger, kept.getVal (i := Reg.eggFlippingAccumulationState) (by decide),
    kept.getVal (i := Reg.rAiTpEgg) (by decide)]
  simp [eggCounter, arm]

def turnWrites : List Nat :=
  [Reg.filpEggOn, Reg.filpEggOff, Reg.pEggFlippingExecutionStatus]

theorem within_driveEggs {left right : Int} :
    Within turnWrites s (driveEggs left right t) ↔ Within turnWrites s t := by
  simp (disch := decide) only [driveEggs, within_setUval]

/-- Driving the motor does not touch the count. -/
theorem turnEggs_within (start now : Int) (m : EggThread) :
    Within turnWrites m.inc (turnEggs start now m).inc := by
  have started : (if m.sysNowTimeStatus ≠ 0 then { m with start := start, sysNowTimeStatus := off }
      else m).inc = m.inc := by
    split <;> rfl
  rw [turnEggs]
  split
  · dsimp only
    generalize (if m.sysNowTimeStatus ≠ 0 then
      { m with start := start, sysNowTimeStatus := off } else m) = n at started ⊢
    rw [← started]
    simp (disch := decide) only [apply_ite EggThread.inc, within_ite, within_driveEggs,
      within_setVal, Within.refl, ite_self]
  · exact within_driveEggs.mpr (.refl _ _)

/-! ## One iteration -/

/-- The iteration triggers a turn: its time has run down, and the eggs are not under test. -/
def TriggersEgg (s : Incubator) : Prop :=
  s.getUval Reg.pEggFlippingTime = 0 ∧ s.getVal Reg.testFilpEggMode = 0

instance (s : Incubator) : Decidable (TriggersEgg s) := inferInstanceAs (Decidable (_ ∧ _))

theorem eggCounter_trigger (s : Incubator) :
    eggCounter (if s.getUval Reg.pEggFlippingTime = 0 then controlEgg s else s) =
      ((eggCounter s).1.arm (decide (TriggersEgg s)), (eggCounter s).2) := by
  have rests : (eggCounter s).1.arm false = (eggCounter s).1 := by
    simp [arm]
  by_cases triggers : TriggersEgg s
  · rw [if_pos triggers.1, controlEgg, if_pos triggers.2, eggCounter_flipEggs,
      decide_eq_true triggers]
  · have still : (if s.getUval Reg.pEggFlippingTime = 0 then controlEgg s else s) = s := by
      rw [controlEgg]
      split
      · rename_i time
        exact if_neg fun mode => triggers ⟨time, mode⟩
      · rfl
    rw [still, decide_eq_false triggers, rests]

theorem eggCounter_setAccumulation (v : Int) (s : Incubator) :
    eggCounter (setVal Reg.eggFlippingAccumulationState v s) =
      (⟨(eggCounter s).1.armed, decide (short v = on)⟩, (eggCounter s).2) := by
  rw [eggCounter, getVal_setVal_self, getVal_setVal_of_ne s v (by decide),
    getVal_setVal_of_ne s v (by decide)]
  rfl

theorem eggCounter_count (s : Incubator) :
    eggCounter (s |> setVal Reg.rAiTpEgg (s.getVal Reg.rAiTpEgg + 1)
      |> setVal Reg.eggFlippingAccumulationState off
      |> setVal Reg.eggFlippingTriggerStatus off) = (idle, short ((eggCounter s).2 + 1)) := by
  rw [eggCounter, getVal_setVal_self, getVal_setVal_of_ne _ _ (by decide), getVal_setVal_self,
    getVal_setVal_of_ne _ _ (by decide), getVal_setVal_of_ne _ _ (by decide), getVal_setVal_self]
  rfl

/-- The count reads the detector as the counter does. -/
theorem eggCounter_countEgg {high : Bool}
    (detector : s.getVal Reg.detectFlipEgg = if high then on else off) :
    eggCounter (countEgg s) = (((eggCounter s).1.read high).1,
      if ((eggCounter s).1.read high).2 then short ((eggCounter s).2 + 1)
      else (eggCounter s).2) := by
  by_cases triggered : s.getVal Reg.eggFlippingTriggerStatus ≠ 0
  · have armed : (eggCounter s).1.armed = true := decide_eq_true triggered
    rw [countEgg, if_pos triggered, EdgeCounter.read, if_pos armed, detector]
    cases high with
    | false =>
        have rest : (setVal Reg.eggFlippingAccumulationState on s).getVal Reg.detectFlipEgg = 0 :=
          (getVal_setVal_of_ne s on (by decide)).trans detector
        have low : short on = on := short_of_range (by decide)
        simp [rest, eggCounter_setAccumulation, low, armed]
    | true =>
        by_cases noted : s.getVal Reg.eggFlippingAccumulationState = on
        · have low : (eggCounter s).1.low = true := decide_eq_true noted
          simp [noted, detector, low, eggCounter_count]
        · have low : (eggCounter s).1.low = false := decide_eq_false noted
          have same : (⟨true, false⟩ : EdgeCounter) = (eggCounter s).1 := by
            rw [← armed, ← low]
          simp [noted, detector, low, same]
  · have armed : (eggCounter s).1.armed = false := decide_eq_false triggered
    have dark : short off ≠ on := by decide
    rw [countEgg, if_neg triggered, EdgeCounter.read, if_neg (by simp [armed]),
      eggCounter_setAccumulation, armed, decide_eq_false dark]
    rfl

/-- The number of turns after an iteration shows whether it counts. -/
theorem short_succ_ne {v : Int} (range : -32768 ≤ v ∧ v < 32768) : v ≠ short (v + 1) := by
  by_cases last : v = 32767
  · rw [last]
    decide
  · rw [short_of_range (by omega)]
    omega

/-- An iteration lets the counter meet a trigger, if there is one, and a reading. -/
theorem eggCounter_flipEggFunc {m : EggThread} {high : Bool} (start now : Int)
    (detector : m.inc.getVal Reg.detectFlipEgg = if high then on else off) :
    eggCounter (flipEggFunc start now m).inc =
      ((((eggCounter m.inc).1.arm (decide (TriggersEgg m.inc))).read high).1,
        if (((eggCounter m.inc).1.arm (decide (TriggersEgg m.inc))).read high).2 then
          short ((eggCounter m.inc).2 + 1)
        else (eggCounter m.inc).2) := by
  have shown : Within [Reg.pEggTime] m.inc
      (setUval Reg.pEggTime (m.inc.getVal Reg.pEggFlippingTime) m.inc) := by
    simp (disch := decide) only [within_setUval, Within.refl]
  rw [flipEggFunc]
  generalize setUval Reg.pEggTime (m.inc.getVal Reg.pEggFlippingTime) m.inc = s at shown
  have triggers : TriggersEgg s ↔ TriggersEgg m.inc := by
    rw [TriggersEgg, TriggersEgg, shown.getUval (by decide), shown.getVal (by decide)]
  rw [← eggCounter_agree shown.out (by decide), ← decide_eq_decide.mpr triggers]
  rw [← shown.getVal (by decide)] at detector
  have triggered : Within flipEggsWrites s
      (if s.getUval Reg.pEggFlippingTime = 0 then controlEgg s else s) := by
    simp only [controlEgg, within_ite, flipEggs_writes, Within.refl, ite_self]
  have armed := eggCounter_trigger s
  generalize (if s.getUval Reg.pEggFlippingTime = 0 then controlEgg s else s) = t at triggered armed
  have turned := turnEggs_within start now { m with inc := t }
  rw [← triggered.getVal (by decide), ← turned.getVal (by decide)] at detector
  rw [eggCounter_countEgg detector, eggCounter_agree turned.out (by decide), armed]

end

/-! ## Runs -/

/-- An iteration with what it reads of the detector and of the clock, a call of
`test_control_mode`, or any input but the trigger and the state of the count. -/
inductive EggEvent where
  | iteration (detector : Bool) (start now : Int)
  | test
  | input (index : Nat)
      (free : index ∉ [Reg.eggFlippingTriggerStatus, Reg.eggFlippingAccumulationState])
      (value : Int)

def detect (detector : Bool) (m : EggThread) : EggThread :=
  { m with inc := setVal Reg.detectFlipEgg (if detector then on else off) m.inc }

def eggStep (m : EggThread) : EggEvent → EggThread
  | .iteration detector start now => flipEggFunc start now (detect detector m)
  | .test => { m with inc := testControlMode m.inc }
  | .input index _ value => { m with inc := setVal index value m.inc }

/-- The number of turns goes up by one. -/
def Increments (m n : EggThread) : Prop :=
  n.inc.getVal Reg.rAiTpEgg = short (m.inc.getVal Reg.rAiTpEgg + 1)

instance (m n : EggThread) : Decidable (Increments m n) := inferInstanceAs (Decidable (_ = _))

/-- Whether an event sets the trigger, what it reads of the detector and whether it counts. -/
def eggMoment (m : EggThread) (e : EggEvent) : Moment :=
  match e with
  | .iteration detector _ _ =>
      ⟨decide (TriggersEgg m.inc), some detector, decide (Increments m (eggStep m e))⟩
  | .test => ⟨decide (TurnsEggs m.inc), none, decide (Increments m (eggStep m e))⟩
  | .input _ _ _ => ⟨false, none, false⟩

section

variable {s : Incubator}

/-- The buttons arm the counter if they turn the eggs, and do nothing else to it. -/
theorem eggCounter_testControlMode (s : Incubator) : eggCounter (testControlMode s) =
    ((eggCounter s).1.arm (decide (TurnsEggs s)), (eggCounter s).2) := by
  by_cases turns : TurnsEggs s
  · have before : Within [Reg.testFilpEggMode] s (setVal Reg.testFilpEggMode on s) := by
      simp (disch := decide) only [within_setVal, Within.refl]
    have after (t : Incubator) (time : Int) : Within [Reg.testBtnTime, Reg.testControlMode] t
        (t |> setUval Reg.testBtnTime time |> setUval Reg.testControlMode 0x20) := by
      simp (disch := decide) only [within_setUval, Within.refl]
    rw [testControlMode_of_turnsEggs turns, startTest_eggs,
      eggCounter_agree (after _ _).out (by decide), eggCounter_flipEggs,
      eggCounter_agree before.out (by decide), decide_eq_true turns]
  · have rests : (eggCounter s).1.arm false = (eggCounter s).1 := by
      simp [arm]
    rw [eggCounter_agree (testControlMode_button turns).out (by decide), decide_eq_false turns,
      rests]

theorem decide_increments {m n : EggThread} {counts : Bool} (number : (eggCounter n.inc).2 =
    if counts then short ((eggCounter m.inc).2 + 1) else (eggCounter m.inc).2) :
    decide (Increments m n) = counts := by
  have number : n.inc.getVal Reg.rAiTpEgg = if counts then short (m.inc.getVal Reg.rAiTpEgg + 1)
      else m.inc.getVal Reg.rAiTpEgg := number
  cases counts with
  | true => exact decide_eq_true number
  | false =>
      refine decide_eq_false fun up => short_succ_ne (getVal_range m.inc Reg.rAiTpEgg) ?_
      exact number.symm.trans up

/-- An event is a moment of the counter, and counts if the counter does. -/
theorem eggStep_meets (m : EggThread) (e : EggEvent) : (eggCounter m.inc).1.meet (eggMoment m e) =
    ((eggCounter (eggStep m e).inc).1, (eggMoment m e).counted) := by
  cases e with
  | iteration detector start now =>
      have written : Within [Reg.detectFlipEgg] m.inc (detect detector m).inc := by
        simp (disch := decide) only [detect, within_setVal, Within.refl]
      have shown : (detect detector m).inc.getVal Reg.detectFlipEgg =
          if detector then on else off := by
        rw [detect, getVal_setVal_self]
        cases detector with
        | true => exact short_of_range (by decide)
        | false => exact short_of_range (by decide)
      have triggers : TriggersEgg (detect detector m).inc ↔ TriggersEgg m.inc := by
        rw [TriggersEgg, TriggersEgg, written.getUval (by decide), written.getVal (by decide)]
      have met := eggCounter_flipEggFunc start now shown
      rw [eggCounter_agree written.out (by decide), decide_eq_decide.mpr triggers] at met
      have counted := decide_increments (congrArg Prod.snd met)
      rw [eggMoment, eggStep, EdgeCounter.meet, counted, met]
  | test =>
      have met := eggCounter_testControlMode m.inc
      have second := congrArg Prod.snd met
      have number : (eggCounter (eggStep m .test).inc).2 =
          if false = true then short ((eggCounter m.inc).2 + 1) else (eggCounter m.inc).2 :=
        second
      rw [eggMoment, decide_increments number, eggStep, met]
      rfl
  | input index free value =>
      have kept (i : Nat) (mem : i ∈ [Reg.eggFlippingTriggerStatus,
          Reg.eggFlippingAccumulationState]) :
          (setVal index value m.inc).getVal i = m.inc.getVal i :=
        getVal_setVal_of_ne _ _ fun same => free (same ▸ mem)
      have same : (eggCounter (setVal index value m.inc)).1 = (eggCounter m.inc).1 := by
        rw [eggCounter, eggCounter, kept Reg.eggFlippingTriggerStatus (by simp),
          kept Reg.eggFlippingAccumulationState (by simp)]
      rw [eggStep, same]
      simp [eggMoment, EdgeCounter.meet, arm]

/-- What happens to the turning of the eggs. -/
def eggMoments (m : EggThread) (es : List EggEvent) : List Moment :=
  trace eggStep eggMoment m es

/-- In every run that starts with nothing triggered the turns are at most as many as the triggers.
Between a turn and the one before it there is a trigger and, not before the first one, an iteration
with the detector off; the turn itself is an iteration with the detector on. -/
theorem eggTurns_counted (m : EggThread) (es : List EggEvent)
    (trigger : m.inc.getVal Reg.eggFlippingTriggerStatus = off)
    (accumulation : m.inc.getVal Reg.eggFlippingAccumulationState = off) :
    (eggMoments m es).countP (·.counted) ≤ (eggMoments m es).countP (·.triggered) ∧
      ∀ before turn after, eggMoments m es = before ++ turn :: after → turn.counted = true →
        turn.reading = some true ∧ Turned (before.rtakeWhile fun x => !x.counted) := by
  have start : (eggCounter m.inc).1 = idle := by
    rw [eggCounter, trigger, accumulation]
    rfl
  have honest : Along next Honest idle (eggMoments m es) := by
    rw [← start]
    refine along_trace (fun m : EggThread => (eggCounter m.inc).1) ?_ ?_ m es
    · intro m e
      rw [next, eggStep_meets]
    · intro m e
      rw [Honest, eggStep_meets]
  refine ⟨?_, ?_⟩
  · exact countP_counted_le honest
  · intro before turn after split counted
    rw [split] at honest
    exact turned_of_counted honest counted

/-- The eggs are turned, and the turn is seen. -/
def turningEggs : EggThread := ⟨cleared, on, 0⟩

theorem eggTurns_counted_once :
    eggMoments turningEggs [.iteration false 0 0, .iteration true 0 1000000000] =
        [⟨true, some false, false⟩, ⟨true, some true, true⟩] ∧
      Turned [⟨true, some false, false⟩] := by
  have moments : eggMoments turningEggs [.iteration false 0 0, .iteration true 0 1000000000] =
      [⟨true, some false, false⟩, ⟨true, some true, true⟩] := by
    decide +kernel
  have counted := eggTurns_counted turningEggs
    [.iteration false 0 0, .iteration true 0 1000000000] (by decide +kernel) (by decide +kernel)
  exact ⟨moments, (counted.2 [⟨true, some false, false⟩] _ [] moments rfl).2⟩

end

end Jincubator
