import Jincubator.Library.Odometer
import Jincubator.Library.Run
import Jincubator.Timer
import Mathlib.Algebra.Order.Field.Basic
import Mathlib.Algebra.Order.Ring.Abs

/-! # Dead reckoning of the damper

The timer counts the ticks of the direction that is driven, one more for every unit
than the setting says: a started count is run down to zero first and the damper moves
on the tick after that. A count that is reversed carries its remaining ticks over,
not the ones that have passed.
-/

namespace Jincubator

open Incubator Run

/-! ## One direction as a machine of its own -/

/-- What the timer reads and writes when it drives the damper in one direction. -/
structure Travel where
  position : Int
  length : Int
  unit : Int
  time : Int
  status : Int
  otherTime : Int
  otherStatus : Int

namespace Travel

def startCount (t : Travel) : Travel :=
  if t.status = 0 then
    { t with time := ushort (t.unit + t.otherTime), otherTime := 0, status := 1 }
  else t

def move (step : Int) (t : Travel) : Travel :=
  if t.time = 0 ∧ t.status = 1 then
    if step * t.position < step * t.length then
      { t with position := short (t.position + step), status := 0 }
    else t
  else t

def countDown (t : Travel) : Travel :=
  if t.time > 0 then { t with time := ushort (t.time - 1) } else t

def drive (step : Int) (t : Travel) : Travel :=
  { t with otherStatus := 0 } |> startCount |> move step |> countDown

/-- `passed` ticks of a count have passed; a count is started by its first tick. -/
structure Counting (passed : Int) (t : Travel) : Prop where
  time : t.time = if passed = 0 then 0 else t.unit - passed
  status : t.status = if passed = 0 then 0 else 1
  otherTime : t.otherTime = 0
  otherStatus : t.otherStatus = 0

/-- The unit is a word other than zero, and the position a signed word. -/
structure Words (t : Travel) : Prop where
  unit : 0 < t.unit ∧ t.unit < 65536
  position : -32768 ≤ t.position ∧ t.position < 32768
  length : -32768 ≤ t.length ∧ t.length < 32768

section

variable {t : Travel} {step passed : Int}

/-- The first tick of a count only starts it. -/
theorem drive_first (words : t.Words) (counting : t.Counting 0) :
    t.drive step = { t with time := t.unit - 1, status := 1 } := by
  obtain ⟨time, status, otherTime, otherStatus⟩ := counting
  obtain ⟨position, length, unit, t, s, ot, os⟩ := t
  obtain ⟨positive, small⟩ := words.unit
  simp only [if_pos] at time status otherTime otherStatus positive small
  subst time status otherTime otherStatus
  have started : ushort (unit + 0) = unit := by
    rw [ushort_of_range (by omega), add_zero]
  have counted : ushort (unit - 1) = unit - 1 := ushort_of_range (by omega)
  have some : ¬unit = 0 := by omega
  simp only [drive, startCount, move, countDown, if_pos, started, counted, some, false_and,
    if_false, gt_iff_lt, positive]

/-- A tick of a count that is under way. -/
theorem drive_next (words : t.Words) (counting : t.Counting passed)
    (under : 0 < passed ∧ passed < t.unit) :
    t.drive step = { t with time := t.unit - (passed + 1) } := by
  obtain ⟨time, status, otherTime, otherStatus⟩ := counting
  obtain ⟨position, length, unit, t, s, ot, os⟩ := t
  obtain ⟨positive, small⟩ := words.unit
  have begun : ¬passed = 0 := by omega
  simp only [if_neg begun] at time status otherTime otherStatus positive small under
  subst time status otherTime otherStatus
  have counted : ushort (unit - passed - 1) = unit - (passed + 1) := by
    rw [ushort_of_range (by omega)]
    omega
  have some : ¬unit - passed = 0 := by omega
  have more : 0 < unit - passed := by omega
  simp only [drive, startCount, move, countDown, one_ne_zero, some, false_and, if_false,
    gt_iff_lt, more, if_pos, counted]

/-- The tick after a count has run down moves the damper. -/
theorem drive_last (words : t.Words) (counting : t.Counting t.unit)
    (room : step * t.position < step * t.length) (sign : step = 1 ∨ step = -1) :
    t.drive step = { t with position := t.position + step, status := 0 } := by
  obtain ⟨time, status, otherTime, otherStatus⟩ := counting
  obtain ⟨position, length, unit, t, s, ot, os⟩ := t
  obtain ⟨⟨positive, small⟩, place, size⟩ := words
  have begun : ¬unit = 0 := by
    simp only at positive
    omega
  simp only [if_neg begun, sub_self] at time status otherTime otherStatus place size room
  subst time status otherTime otherStatus
  have moved : short (position + step) = position + step := by
    refine short_of_range ?_
    rcases sign with rfl | rfl
    · omega
    · omega
  simp only [drive, startCount, move, countDown, one_ne_zero, if_false, and_self, if_true, room,
    moved, lt_irrefl]

/-- One more tick of a count, or the end of it. -/
theorem drive_counting (words : t.Words) (counting : t.Counting passed)
    (range : 0 ≤ passed ∧ passed ≤ t.unit) (room : step * t.position < step * t.length)
    (sign : step = 1 ∨ step = -1) :
    (t.drive step).Counting (if passed = t.unit then 0 else passed + 1) ∧
      (t.drive step).position = t.position + if passed = t.unit then step else 0 := by
  have positive := words.unit.1
  obtain rfl | under | rfl : passed = 0 ∨ (0 < passed ∧ passed < t.unit) ∨ passed = t.unit := by
    omega
  · have some : ¬0 = t.unit := by omega
    rw [drive_first words counting, if_neg some, if_neg some]
    exact ⟨⟨rfl, rfl, counting.otherTime, counting.otherStatus⟩, (add_zero _).symm⟩
  · have some : ¬passed = t.unit := by omega
    have more : ¬passed + 1 = 0 := by omega
    have status := counting.status
    rw [if_neg (by omega)] at status
    rw [drive_next words counting under, if_neg some, if_neg some]
    refine ⟨⟨?_, ?_, counting.otherTime, counting.otherStatus⟩, (add_zero _).symm⟩
    · rw [if_neg more]
    · rw [if_neg more]
      exact status
  · have time := counting.time
    rw [if_neg (by omega), sub_self] at time
    rw [drive_last words counting room sign, if_pos rfl, if_pos rfl]
    exact ⟨⟨time, rfl, counting.otherTime, counting.otherStatus⟩, rfl⟩

end

end Travel

namespace DamperSide

def travel (side : DamperSide) (s : Incubator) : Travel where
  position := s.getVal Reg.rAiAd
  length := s.getVal side.length
  unit := s.getUval side.unitTime
  time := s.getUval side.runningTime
  status := s.getUval side.runningStatus
  otherTime := s.getUval side.otherTime
  otherStatus := s.getUval side.otherStatus

/-- The registers of a direction are different ones. -/
def Apart (side : DamperSide) : Prop :=
  [Reg.rAiAd, side.length, side.unitTime, side.runningTime, side.runningStatus, side.otherTime,
    side.otherStatus].Nodup

theorem apart_of_mem {side : DamperSide} (mem : side ∈ [openSide, closeSide]) : side.Apart := by
  simp only [List.mem_cons, List.not_mem_nil, or_false] at mem
  rcases mem with rfl | rfl
  · unfold Apart
    decide
  · unfold Apart
    decide

theorem step_of_mem {side : DamperSide} (mem : side ∈ [openSide, closeSide]) :
    side.step = 1 ∨ side.step = -1 := by
  simp only [List.mem_cons, List.not_mem_nil, or_false] at mem
  rcases mem with rfl | rfl
  · exact Or.inl rfl
  · exact Or.inr rfl

section

variable {side : DamperSide} {s : Incubator} {v : Int}

/-- What the direction reads after a write to any register. -/
theorem travel_setVal (i : Nat) : side.travel (setVal i v s) =
    { position := if Reg.rAiAd = i then short v else s.getVal Reg.rAiAd
      length := if i = side.length then short v else s.getVal side.length
      unit := if i = side.unitTime then ushort v else s.getUval side.unitTime
      time := if i = side.runningTime then ushort v else s.getUval side.runningTime
      status := if i = side.runningStatus then ushort v else s.getUval side.runningStatus
      otherTime := if i = side.otherTime then ushort v else s.getUval side.otherTime
      otherStatus := if i = side.otherStatus then ushort v else s.getUval side.otherStatus } := by
  have val (j : Nat) : (setVal i v s).getVal j = if i = j then short v else s.getVal j := by
    split
    next same => rw [same, getVal_setVal_self]
    next other => rw [getVal_setVal_of_ne s v (Ne.symm other)]
  have uval (j : Nat) : (setVal i v s).getUval j = if i = j then ushort v else s.getUval j := by
    split
    next same => rw [same, getUval_setVal_self]
    next other => rw [getUval_setVal_of_ne s v (Ne.symm other)]
  simp only [travel, val, uval, @eq_comm _ Reg.rAiAd]

theorem travel_setPosition (apart : side.Apart) : side.travel (setVal Reg.rAiAd v s) =
    { side.travel s with position := short v } := by
  simp only [Apart, List.nodup_cons, List.mem_cons, List.not_mem_nil, or_false, not_or] at apart
  rw [travel_setVal]
  simp [travel, apart]

theorem travel_setTime (apart : side.Apart) : side.travel (setUval side.runningTime v s) =
    { side.travel s with time := ushort v } := by
  simp only [Apart, List.nodup_cons, List.mem_cons, List.not_mem_nil, or_false, not_or] at apart
  rw [setUval_eq, travel_setVal]
  simp [travel, apart, eq_comm]

theorem travel_setStatus (apart : side.Apart) : side.travel (setUval side.runningStatus v s) =
    { side.travel s with status := ushort v } := by
  simp only [Apart, List.nodup_cons, List.mem_cons, List.not_mem_nil, or_false, not_or] at apart
  rw [setUval_eq, travel_setVal]
  simp [travel, apart, eq_comm]

theorem travel_setOtherTime (apart : side.Apart) : side.travel (setUval side.otherTime v s) =
    { side.travel s with otherTime := ushort v } := by
  simp only [Apart, List.nodup_cons, List.mem_cons, List.not_mem_nil, or_false, not_or] at apart
  rw [setUval_eq, travel_setVal]
  simp [travel, apart, eq_comm]

theorem travel_setOtherStatus (apart : side.Apart) : side.travel (setUval side.otherStatus v s) =
    { side.travel s with otherStatus := ushort v } := by
  simp only [Apart, List.nodup_cons, List.mem_cons, List.not_mem_nil, or_false, not_or] at apart
  rw [setUval_eq, travel_setVal]
  simp [travel, apart, eq_comm]

theorem travel_startCount (apart : side.Apart) :
    side.travel (side.startCount s) = (side.travel s).startCount := by
  rw [startCount, Travel.startCount, apply_ite side.travel, travel_setStatus apart,
    travel_setOtherTime apart, travel_setTime apart]
  rfl

theorem travel_move (apart : side.Apart) :
    side.travel (side.move s) = (side.travel s).move side.step := by
  rw [move, Travel.move, apply_ite side.travel, apply_ite side.travel, travel_setStatus apart,
    setUval_eq, travel_setPosition apart]
  rfl

theorem travel_countDown (apart : side.Apart) :
    side.travel (countDown side.runningTime s) = (side.travel s).countDown := by
  rw [countDown, Travel.countDown, apply_ite side.travel, travel_setTime apart]
  rfl

/-- Driving the damper refines driving the machine of that direction. -/
theorem travel_drive (apart : side.Apart) :
    side.travel (side.drive s) = (side.travel s).drive side.step := by
  rw [drive, Travel.drive, travel_countDown apart, travel_move apart, travel_startCount apart,
    travel_setOtherStatus apart]
  rfl

theorem travel_words (unit : 0 < s.getUval side.unitTime) : (side.travel s).Words := by
  refine ⟨⟨unit, ?_⟩, ?_, ?_⟩
  · have small := (s.reg side.unitTime).isLt
    have word : s.getUval side.unitTime < 65536 := by
      rw [getUval_eq]
      omega
    exact word
  · exact ⟨(s.reg Reg.rAiAd).le_toInt, (s.reg Reg.rAiAd).toInt_lt⟩
  · exact ⟨(s.reg side.length).le_toInt, (s.reg side.length).toInt_lt⟩

theorem travel_within {writes : List Nat} {t : Incubator} (st : Within writes s t)
    (untouched : ∀ i ∈ [Reg.rAiAd, side.length, side.unitTime, side.runningTime,
      side.runningStatus, side.otherTime, side.otherStatus], i ∉ writes) :
    side.travel t = side.travel s := by
  simp only [List.forall_mem_cons, List.not_mem_nil, false_imp_iff, implies_true] at untouched
  obtain ⟨position, length, unit, time, status, otherTime, otherStatus, -⟩ := untouched
  simp only [travel, st.getVal position, st.getVal length, st.getUval unit, st.getUval time,
    st.getUval status, st.getUval otherTime, st.getUval otherStatus]

/-- A tick that meets this output drives this direction only. -/
theorem tick_of_on (switch : s.getUval side.detect = 0) (driven : s.getUval side.output = 1) :
    side.tick s = side.drive s := by
  rw [tick, switch, if_neg (lt_irrefl 0), driven, if_pos (by decide)]

theorem tick_of_off (switch : s.getUval side.detect = 0) (still : s.getUval side.output = 0) :
    side.tick s = s := by
  rw [tick, switch, if_neg (lt_irrefl 0), still, if_neg (lt_irrefl 0)]

end

end DamperSide

/-! ## The ticks of both directions -/

/-- The outputs that a tick of the timer meets. -/
inductive Drive where
  | opening
  | closing
  | neither
  deriving DecidableEq

namespace Drive

def sign : Drive → Int
  | .opening => 1
  | .closing => -1
  | .neither => 0

def outputs (d : Drive) (s : Incubator) : Incubator :=
  s |> setUval Reg.controlDamperOpen (if d = .opening then on else off)
    |> setUval Reg.controlDamperClose (if d = .closing then on else off)

end Drive

def driveStep (s : Incubator) (d : Drive) : Incubator :=
  timerCallbackFunc (d.outputs s)

/-- No end switch is active. -/
def NoSwitch (s : Incubator) : Prop :=
  s.getUval Reg.detectDamperFullyOpen = 0 ∧ s.getUval Reg.detectDamperFullyClose = 0

instance (s : Incubator) : Decidable (NoSwitch s) := inferInstanceAs (Decidable (_ ∧ _))

/-- The position is strictly between the ends. -/
def BetweenEnds (s : Incubator) : Prop :=
  s.getVal Reg.damperMinLen < s.getVal Reg.rAiAd ∧ s.getVal Reg.rAiAd < s.getVal Reg.damperMaxLen

instance (s : Incubator) : Decidable (BetweenEnds s) := inferInstanceAs (Decidable (_ ∧ _))

/-- The tick drives the damper against a count of the other direction. -/
def Reverses (d : Drive) (s : Incubator) : Prop :=
  d = .opening ∧ s.getUval Reg.airDoorClosingRunningStatus ≠ 0 ∨
    d = .closing ∧ s.getUval Reg.airDoorOpenRunningStatus ≠ 0

instance (d : Drive) (s : Incubator) : Decidable (Reverses d s) :=
  inferInstanceAs (Decidable (_ ∨ _))

/-- Both settings are `unit`, and the position and the counts are those of an odometer whose period
is one tick longer. -/
structure Tracks (unit start : Int) (s : Incubator) (o : Odometer) : Prop where
  units : ∀ side ∈ [openSide, closeSide], s.getUval side.unitTime = unit
  switches : NoSwitch s
  position : s.getVal Reg.rAiAd = start + o.whole
  inside : -(unit + 1) < o.part ∧ o.part < unit + 1
  counting : ∀ side ∈ [openSide, closeSide], 0 ≤ side.step * o.part →
    (side.travel s).Counting (side.step * o.part)

section

variable {s : Incubator} {o : Odometer} {unit start : Int} {d : Drive}

/-- A count that has not started is none of either direction. -/
theorem counting_zero {side other : DamperSide} (mem : side ∈ [openSide, closeSide])
    (otherMem : other ∈ [openSide, closeSide]) (idle : (side.travel s).Counting 0) :
    (other.travel s).Counting 0 := by
  simp only [List.mem_cons, List.not_mem_nil, or_false] at mem otherMem
  rcases mem with rfl | rfl
  · rcases otherMem with rfl | rfl
    · exact idle
    · exact ⟨idle.otherTime, idle.otherStatus, idle.time, idle.status⟩
  · rcases otherMem with rfl | rfl
    · exact ⟨idle.otherTime, idle.otherStatus, idle.time, idle.status⟩
    · exact idle

theorem outputs_within (d : Drive) (s : Incubator) :
    Within [Reg.controlDamperOpen, Reg.controlDamperClose] s (d.outputs s) := by
  simp [Drive.outputs]

theorem travel_divideTick {side : DamperSide} (mem : side ∈ [openSide, closeSide]) :
    side.travel (divideTick s) = side.travel s := by
  have apart : ∀ i ∈ [Reg.rAiAd, side.length, side.unitTime, side.runningTime,
      side.runningStatus, side.otherTime, side.otherStatus], i ∉ secondWrites := by
    simp only [List.mem_cons, List.not_mem_nil, or_false] at mem
    rcases mem with rfl | rfl
    · decide
    · decide
  rw [divideTick]
  split
  · have kept := DamperSide.travel_within (second_within { s with timerCount := 0 }) apart
    exact kept
  · rfl

theorem outputs_noSwitch (switches : NoSwitch s) (d : Drive) : NoSwitch (d.outputs s) := by
  have kept := outputs_within d s
  rw [NoSwitch, kept.getUval (by decide), kept.getUval (by decide)]
  exact switches

theorem timer_of_opening (switches : NoSwitch s) (opened : s.getUval Reg.controlDamperOpen = 1)
    (closed : s.getUval Reg.controlDamperClose = 0) :
    timerCallbackFunc s = divideTick (openSide.drive s) := by
  have kept := openSide.drive_within s
  have opens : openSide.tick s = openSide.drive s := DamperSide.tick_of_on switches.1 opened
  have shut : (openSide.drive s).getUval closeSide.detect = 0 := by
    rw [kept.getUval (by decide)]
    exact switches.2
  have still : (openSide.drive s).getUval closeSide.output = 0 := by
    rw [kept.getUval (by decide)]
    exact closed
  have rests : closeSide.tick (openSide.drive s) = openSide.drive s :=
    DamperSide.tick_of_off shut still
  rw [timerCallbackFunc, opens, rests]

theorem timer_of_closing (switches : NoSwitch s) (opened : s.getUval Reg.controlDamperOpen = 0)
    (closed : s.getUval Reg.controlDamperClose = 1) :
    timerCallbackFunc s = divideTick (closeSide.drive s) := by
  have rests : openSide.tick s = s := DamperSide.tick_of_off switches.1 opened
  have closes : closeSide.tick s = closeSide.drive s := DamperSide.tick_of_on switches.2 closed
  rw [timerCallbackFunc, rests, closes]

theorem timer_of_neither (switches : NoSwitch s) (opened : s.getUval Reg.controlDamperOpen = 0)
    (closed : s.getUval Reg.controlDamperClose = 0) : timerCallbackFunc s = divideTick s := by
  have opens : openSide.tick s = s := DamperSide.tick_of_off switches.1 opened
  have closes : closeSide.tick s = s := DamperSide.tick_of_off switches.2 closed
  rw [timerCallbackFunc, opens, closes]

theorem outputs_open (d : Drive) (s : Incubator) :
    (d.outputs s).getUval Reg.controlDamperOpen = if d = .opening then 1 else 0 := by
  have other : Reg.controlDamperOpen ≠ Reg.controlDamperClose := by decide
  rw [Drive.outputs, setUval_eq, getUval_setVal_of_ne _ _ other, setUval_eq, getUval_setVal_self]
  cases d <;> rfl

theorem outputs_close (d : Drive) (s : Incubator) :
    (d.outputs s).getUval Reg.controlDamperClose = if d = .closing then 1 else 0 := by
  rw [Drive.outputs, setUval_eq, getUval_setVal_self]
  cases d <;> rfl

theorem travel_outputs {side : DamperSide} (mem : side ∈ [openSide, closeSide]) (d : Drive) :
    side.travel (d.outputs s) = side.travel s := by
  refine DamperSide.travel_within (outputs_within d s) ?_
  simp only [List.mem_cons, List.not_mem_nil, or_false] at mem
  rcases mem with rfl | rfl
  · decide
  · decide

/-- A tick drives the machine of its direction. -/
theorem travel_driveStep {side : DamperSide} (mem : side ∈ [openSide, closeSide])
    (switches : NoSwitch s) (along : d.sign = side.step) :
    side.travel (driveStep s d) = (side.travel s).drive side.step := by
  have apart := DamperSide.apart_of_mem mem
  have step : driveStep s d = divideTick (side.drive (d.outputs s)) := by
    simp only [List.mem_cons, List.not_mem_nil, or_false] at mem
    cases d with
    | opening =>
        rcases mem with rfl | rfl
        · exact timer_of_opening (outputs_noSwitch switches _) (outputs_open _ s)
            (outputs_close _ s)
        · exact absurd along (by decide)
    | closing =>
        rcases mem with rfl | rfl
        · exact absurd along (by decide)
        · exact timer_of_closing (outputs_noSwitch switches _) (outputs_open _ s)
            (outputs_close _ s)
    | neither =>
        rcases mem with rfl | rfl
        · exact absurd along (by decide)
        · exact absurd along (by decide)
  rw [step, travel_divideTick mem, DamperSide.travel_drive apart, travel_outputs mem]

theorem driveStep_getUval {i : Nat} (untouched : i ∉ damperTickWrites ++ secondWrites) :
    (driveStep s d).getUval i = s.getUval i := by
  have outputs : i ∉ [Reg.controlDamperOpen, Reg.controlDamperClose] := by
    intro mem
    refine untouched (List.mem_append_left _ ?_)
    simp only [List.mem_cons, List.not_mem_nil, or_false] at mem
    rcases mem with rfl | rfl
    · decide
    · decide
  rw [driveStep, (timerCallbackFunc_within _).getUval untouched]
  exact (outputs_within d s).getUval outputs

theorem driveStep_units (units : ∀ side ∈ [openSide, closeSide], s.getUval side.unitTime = unit) :
    ∀ side ∈ [openSide, closeSide], (driveStep s d).getUval side.unitTime = unit := by
  intro side mem
  rw [driveStep_getUval, units side mem]
  simp only [List.mem_cons, List.not_mem_nil, or_false] at mem
  rcases mem with rfl | rfl
  · decide
  · decide

theorem driveStep_noSwitch (switches : NoSwitch s) : NoSwitch (driveStep s d) := by
  rw [NoSwitch, driveStep_getUval (by decide), driveStep_getUval (by decide)]
  exact switches

/-- Only one direction counts at a time. -/
theorem same_side {side other : DamperSide} {v : Int} (mem : side ∈ [openSide, closeSide])
    (otherMem : other ∈ [openSide, closeSide]) (ahead : 0 < side.step * v)
    (nonneg : 0 ≤ other.step * v) : other = side := by
  have opens : openSide.step = 1 := rfl
  have closes : closeSide.step = -1 := rfl
  simp only [List.mem_cons, List.not_mem_nil, or_false] at mem otherMem
  rcases mem with rfl | rfl
  · rcases otherMem with rfl | rfl
    · rfl
    · rw [opens] at ahead
      rw [closes] at nonneg
      omega
  · rcases otherMem with rfl | rfl
    · rw [closes] at ahead
      rw [opens] at nonneg
      omega
    · rfl

/-- A tick in the direction of the count. -/
theorem tracks_drive {side : DamperSide} (mem : side ∈ [openSide, closeSide])
    (tracks : Tracks unit start s o) (positive : 0 < unit) (along : d.sign = side.step)
    (ahead : 0 ≤ side.step * o.part) (room : side.Room s) :
    Tracks unit start (driveStep s d) (o.step (unit + 1) side.step) := by
  have sign := DamperSide.step_of_mem mem
  have width := tracks.units side mem
  have range : 0 ≤ side.step * o.part ∧ side.step * o.part ≤ unit := by
    obtain ⟨lower, upper⟩ := tracks.inside
    cases sign with
    | inl one =>
        rw [one] at ahead ⊢
        omega
    | inr one =>
        rw [one] at ahead ⊢
        omega
  have words : (side.travel s).Words := DamperSide.travel_words (by rw [width]; exact positive)
  have unitEq : (side.travel s).unit = unit := width
  obtain ⟨counting, moved⟩ := Travel.drive_counting words (tracks.counting side mem ahead)
    (by rw [unitEq]; exact range) room sign
  rw [unitEq, ← travel_driveStep mem tracks.switches along] at counting moved
  have place : (driveStep s d).getVal Reg.rAiAd =
      s.getVal Reg.rAiAd + if side.step * o.part = unit then side.step else 0 := moved
  rw [tracks.position] at place
  by_cases full : side.step * o.part = unit
  · rw [if_pos full] at counting place
    rw [Odometer.step_last sign (by omega) (by omega)]
    refine ⟨driveStep_units tracks.units, driveStep_noSwitch tracks.switches, ?_, ?_, ?_⟩
    · simp only [place]
      ring
    · simp only
      omega
    · intro other otherMem _
      rw [mul_zero]
      exact counting_zero mem otherMem counting
  · rw [if_neg full] at counting place
    rw [Odometer.step_next sign ahead (by omega)]
    refine ⟨driveStep_units tracks.units, driveStep_noSwitch tracks.switches, ?_, ?_, ?_⟩
    · simp only [place, add_zero]
    · obtain ⟨lower, upper⟩ := tracks.inside
      cases sign with
      | inl one =>
          rw [one] at ahead range full ⊢
          simp only
          omega
      | inr one =>
          rw [one] at ahead range full ⊢
          simp only
          omega
    · intro other otherMem nonneg
      have next : side.step * (o.part + side.step) = side.step * o.part + 1 := by
        cases sign with
        | inl one =>
            rw [one]
            ring
        | inr one =>
            rw [one]
            ring
      have more : 0 < side.step * (o.part + side.step) := by omega
      have same : other = side := same_side mem otherMem more nonneg
      rw [same, next]
      exact counting

theorem tracks_neither (tracks : Tracks unit start s o) :
    Tracks unit start (driveStep s .neither) o := by
  have step : driveStep s .neither = divideTick (Drive.neither.outputs s) :=
    timer_of_neither (outputs_noSwitch tracks.switches _) (outputs_open _ s) (outputs_close _ s)
  have kept : ∀ side ∈ [openSide, closeSide],
      side.travel (driveStep s .neither) = side.travel s := by
    intro side mem
    rw [step, travel_divideTick mem, travel_outputs mem]
  have place : (driveStep s .neither).getVal Reg.rAiAd = s.getVal Reg.rAiAd :=
    congrArg Travel.position (kept openSide (by simp))
  refine ⟨driveStep_units tracks.units, driveStep_noSwitch tracks.switches, ?_, tracks.inside, ?_⟩
  · rw [place, tracks.position]
  · intro side mem ahead
    rw [kept side mem]
    exact tracks.counting side mem ahead

/-- Without a tick against a running count the odometer is not driven backwards. -/
theorem ahead_of_forward (tracks : Tracks unit start s o) (forward : ¬Reverses d s) :
    0 ≤ d.sign * o.part := by
  have opens : openSide.step = 1 := rfl
  have closes : closeSide.step = -1 := rfl
  by_contra behind
  cases d with
  | opening =>
      simp only [Drive.sign] at behind
      have status := (tracks.counting closeSide (by simp) (by rw [closes]; omega)).status
      rw [closes, if_neg (by omega)] at status
      have running : s.getUval Reg.airDoorClosingRunningStatus = 1 := status
      exact forward (Or.inl ⟨rfl, by omega⟩)
  | closing =>
      simp only [Drive.sign] at behind
      have status := (tracks.counting openSide (by simp) (by rw [opens]; omega)).status
      rw [opens, if_neg (by omega)] at status
      have running : s.getUval Reg.airDoorOpenRunningStatus = 1 := status
      exact forward (Or.inr ⟨rfl, by omega⟩)
  | neither =>
      simp only [Drive.sign] at behind
      omega

/-- Then the damper follows the odometer. -/
theorem tracks_step (tracks : Tracks unit start s o) (positive : 0 < unit)
    (between : BetweenEnds s) (forward : ¬Reverses d s) :
    Tracks unit start (driveStep s d) (o.step (unit + 1) d.sign) := by
  obtain ⟨above, below⟩ := between
  have ahead := ahead_of_forward tracks forward
  cases d with
  | opening =>
      have room : openSide.Room s := by
        simp only [DamperSide.Room, openSide]
        omega
      exact tracks_drive (by simp) tracks positive rfl ahead room
  | closing =>
      have room : closeSide.Room s := by
        simp only [DamperSide.Room, closeSide]
        omega
      exact tracks_drive (by simp) tracks positive rfl ahead room
  | neither =>
      have rests : o.step (unit + 1) Drive.neither.sign = o := Odometer.step_zero tracks.inside
      rw [rests]
      exact tracks_neither tracks

end

/-! ## The displacement -/

/-- A run with its open ticks less its close ticks. -/
structure Reckoning where
  state : Incubator
  net : Int

namespace Reckoning

def step (r : Reckoning) (d : Drive) : Reckoning := ⟨driveStep r.state d, r.net + d.sign⟩

/-- The displacement since `s` is at most two units away from the ticks in units of the setting. -/
def Reckoned (s : Incubator) (r : Reckoning) : Prop :=
  |((r.state.getVal Reg.rAiAd - s.getVal Reg.rAiAd : Int) : ℚ) -
    r.net / s.getUval Reg.damperTimeOpen| ≤ 2

/-- The ticks stay within what two units allow. -/
def Short (s : Incubator) (r : Reckoning) : Prop :=
  |r.net| ≤ s.getUval Reg.damperTimeOpen * s.getUval Reg.damperTimeOpen +
    3 * s.getUval Reg.damperTimeOpen

instance (s : Incubator) (r : Reckoning) : Decidable (r.Short s) :=
  inferInstanceAs (Decidable (_ ≤ _))

section

variable {s : Incubator} {r : Reckoning} {o : Odometer} {unit : Int} {d : Drive}

theorem scaled_le {disp net unit : Int} (positive : 0 < unit) :
    |(disp : ℚ) - net / unit| ≤ 2 ↔ |unit * disp - net| ≤ 2 * unit := by
  have some : (0 : ℚ) < unit := by exact_mod_cast positive
  have scale : ((unit * disp - net : Int) : ℚ) = unit * ((disp : ℚ) - net / unit) := by
    push_cast
    rw [mul_sub, mul_div_cancel₀ _ some.ne']
  have bound : |unit * disp - net| ≤ 2 * unit ↔
      |((unit * disp - net : Int) : ℚ)| ≤ 2 * (unit : ℚ) := by
    rw [← Int.cast_abs]
    exact_mod_cast Iff.rfl
  rw [bound, scale, abs_mul, abs_of_pos some, mul_comm (2 : ℚ), mul_le_mul_iff_of_pos_left some]

/-- What a run without reversals keeps: the odometer has counted the ticks. -/
structure Follows (s : Incubator) (r : Reckoning) (o : Odometer) : Prop where
  tracks : Tracks (s.getUval Reg.damperTimeOpen) (s.getVal Reg.rAiAd) r.state o
  total : o.total (s.getUval Reg.damperTimeOpen + 1) = r.net

theorem Follows.step (follows : Follows s r o) (positive : 0 < s.getUval Reg.damperTimeOpen)
    (between : BetweenEnds r.state) (forward : ¬Reverses d r.state) :
    Follows s (r.step d) (o.step (s.getUval Reg.damperTimeOpen + 1) d.sign) := by
  refine ⟨tracks_step follows.tracks positive between forward, ?_⟩
  rw [Odometer.total_step, follows.total, Reckoning.step]

/-- The whole units and the ticks under way make up the error. -/
theorem Follows.reckoned_iff (follows : Follows s r o)
    (positive : 0 < s.getUval Reg.damperTimeOpen) :
    r.Reckoned s ↔ |o.whole + o.part| ≤ 2 * s.getUval Reg.damperTimeOpen := by
  have moved : r.state.getVal Reg.rAiAd - s.getVal Reg.rAiAd = o.whole := by
    rw [follows.tracks.position]
    omega
  have drift : s.getUval Reg.damperTimeOpen * o.whole - r.net = -(o.whole + o.part) := by
    rw [← follows.total]
    exact Odometer.drift_eq
  rw [Reckoned, moved, scaled_le positive, drift, abs_neg]

/-- From within the allowed ticks, one tick leaves them exactly when it breaks the reckoning. -/
theorem Follows.reckoned_step_iff (follows : Follows s r o)
    (positive : 0 < s.getUval Reg.damperTimeOpen) (short : r.Short s)
    (between : BetweenEnds r.state) (forward : ¬Reverses d r.state) :
    (r.step d).Reckoned s ↔ (r.step d).Short s := by
  have next := follows.step positive between forward
  have ahead := ahead_of_forward follows.tracks forward
  have range := follows.tracks.inside
  have inside := next.tracks.inside
  have net : (r.step d).net = r.net + d.sign := rfl
  have limit : Odometer.limit (s.getUval Reg.damperTimeOpen) =
      s.getUval Reg.damperTimeOpen * s.getUval Reg.damperTimeOpen +
        3 * s.getUval Reg.damperTimeOpen := rfl
  rw [next.reckoned_iff positive, Short, ← limit]
  rw [Short, ← limit] at short
  have total := next.total
  generalize s.getUval Reg.damperTimeOpen = unit at *
  refine ⟨fun reckoned => ?_, fun few => ?_⟩
  · by_contra many
    have moves : d ≠ .neither := by
      rintro rfl
      rw [net] at many
      exact many (by simpa [Drive.sign] using short)
    have sign : d.sign = 1 ∨ d.sign = -1 := by
      cases d with
      | opening => exact Or.inl rfl
      | closing => exact Or.inr rfl
      | neither => exact absurd rfl moves
    have unit_le : d.sign * o.part + 1 ≤ unit + 1 := by
      cases sign with
      | inl one =>
          rw [one]
          omega
      | inr one =>
          rw [one]
          omega
    have still := Odometer.ahead_step sign ahead unit_le (by omega)
    have beyond : d.sign * (o.step (unit + 1) d.sign).total (unit + 1) =
        Odometer.limit unit + 1 := by
      rw [total, net]
      rw [net] at many
      rw [abs_le] at short many
      cases sign with
      | inl one =>
          rw [one] at many ⊢
          omega
      | inr one =>
          rw [one] at many ⊢
          omega
    have within : d.sign * (o.step (unit + 1) d.sign).part ≤ unit := by
      cases sign with
      | inl one =>
          rw [one] at inside ⊢
          omega
      | inr one =>
          rw [one] at inside ⊢
          omega
    have broken := Odometer.drift_gt sign positive ⟨still, within⟩ beyond
    exact absurd reckoned (not_le.mpr broken)
  · rw [← total] at few
    exact Odometer.drift_le positive ⟨by omega, by omega⟩ few

/-- At rest the odometer starts from zero. -/
theorem follows_of_rest (equal : s.getUval Reg.damperTimeClose = s.getUval Reg.damperTimeOpen)
    (positive : 0 < s.getUval Reg.damperTimeOpen) (switches : NoSwitch s)
    (rest : ∀ i ∈ [Reg.airDoorOpenRunningTime, Reg.airDoorOpenRunningStatus,
      Reg.airDoorClosingRunningTime, Reg.airDoorClosingRunningStatus], s.getUval i = 0) :
    Follows s ⟨s, 0⟩ Odometer.zero := by
  simp only [List.forall_mem_cons, List.not_mem_nil, false_imp_iff, implies_true, and_true]
    at rest
  obtain ⟨openTime, openStatus, closeTime, closeStatus⟩ := rest
  refine ⟨⟨?_, switches, ?_, ?_, ?_⟩, Odometer.total_zero⟩
  · simp only [List.forall_mem_cons, List.not_mem_nil, false_imp_iff, implies_true, and_true]
    exact ⟨rfl, equal⟩
  · simp only [Odometer.zero, add_zero]
  · simp only [Odometer.zero]
    omega
  · have zero (side : DamperSide) : side.step * Odometer.zero.part = 0 := mul_zero _
    have opening : (openSide.travel s).Counting 0 :=
      ⟨openTime, openStatus, closeTime, closeStatus⟩
    intro side mem _
    rw [zero]
    exact counting_zero (by simp) mem opening

theorem along_reckoned_iff (positive : 0 < s.getUval Reg.damperTimeOpen) (ds : List Drive)
    (follows : Follows s r o) (short : r.Short s)
    (between : Along driveStep (fun t _ _ => BetweenEnds t) r.state ds)
    (forward : Along driveStep (fun t d _ => ¬Reverses d t) r.state ds) :
    Along step (fun _ _ t => t.Reckoned s) r ds ↔ Along step (fun _ _ t => t.Short s) r ds := by
  induction ds generalizing r o with
  | nil => exact Iff.rfl
  | cons d ds ih =>
      obtain ⟨here, later⟩ := between
      obtain ⟨free, on⟩ := forward
      have head := follows.reckoned_step_iff positive short here free
      rw [along_cons, along_cons, head]
      refine and_congr_right fun still => ?_
      exact ih (follows.step positive here free) still later on

end

end Reckoning

/-- Without a tick against a running count, dead reckoning is within two units all along a run
exactly when the open and the close ticks never differ by more than `T * T + 3 * T`. -/
theorem deadReckoning_iff (s : Incubator) (ds : List Drive)
    (equal : s.getUval Reg.damperTimeClose = s.getUval Reg.damperTimeOpen)
    (positive : s.getUval Reg.damperTimeOpen ≥ 1) (switches : NoSwitch s)
    (rest : ∀ i ∈ [Reg.airDoorOpenRunningTime, Reg.airDoorOpenRunningStatus,
      Reg.airDoorClosingRunningTime, Reg.airDoorClosingRunningStatus], s.getUval i = 0)
    (between : Along driveStep (fun t _ _ => BetweenEnds t) s ds)
    (forward : Along driveStep (fun t d _ => ¬Reverses d t) s ds) :
    Along Reckoning.step (fun _ _ t => t.Reckoned s) ⟨s, 0⟩ ds ↔
      Along Reckoning.step (fun _ _ t => t.Short s) ⟨s, 0⟩ ds := by
  have follows := Reckoning.follows_of_rest equal positive switches rest
  refine Reckoning.along_reckoned_iff positive ds follows ?_ between forward
  rw [Reckoning.Short, abs_zero]
  have square := mul_self_nonneg (s.getUval Reg.damperTimeOpen)
  omega

/-- A damper in the middle of its travel that takes one tick for a unit. -/
def halfOpen : Incubator :=
  cleared |> setVal Reg.damperMaxLen 100 |> setVal Reg.rAiAd 50 |> setUval Reg.damperTimeOpen 1
    |> setUval Reg.damperTimeClose 1

theorem deadReckoning_iff_halfOpen :
    Along Reckoning.step (fun _ _ t => t.Reckoned halfOpen) ⟨halfOpen, 0⟩
      [.opening, .neither, .opening, .closing] :=
  (deadReckoning_iff halfOpen _ (by decide) (by decide) (by decide) (by decide)
    (by decide +kernel) (by decide +kernel)).mpr (by decide +kernel)

/-- Five ticks at one tick a unit only move the damper by two units. -/
theorem halfOpen_falls_behind :
    ¬∀ (s : Incubator) (ds : List Drive),
      s.getUval Reg.damperTimeClose = s.getUval Reg.damperTimeOpen →
      s.getUval Reg.damperTimeOpen ≥ 1 → NoSwitch s →
      (∀ i ∈ [Reg.airDoorOpenRunningTime, Reg.airDoorOpenRunningStatus,
        Reg.airDoorClosingRunningTime, Reg.airDoorClosingRunningStatus], s.getUval i = 0) →
      Along driveStep (fun t _ u => BetweenEnds t ∧ BetweenEnds u) s ds →
      (run Reckoning.step ⟨s, 0⟩ ds).Reckoned s := by
  intro reckoned
  have end_ := reckoned halfOpen (List.replicate 5 .opening) (by decide) (by decide)
    (by decide) (by decide) (by decide +kernel)
  have net : (run Reckoning.step ⟨halfOpen, 0⟩ (List.replicate 5 .opening)).net = 5 := rfl
  have moved : (run Reckoning.step ⟨halfOpen, 0⟩
      (List.replicate 5 .opening)).state.getVal Reg.rAiAd - halfOpen.getVal Reg.rAiAd = 2 := by
    decide +kernel
  have unit : halfOpen.getUval Reg.damperTimeOpen = 1 := by decide
  rw [Reckoning.Reckoned, moved, net, unit] at end_
  norm_num at end_

end Jincubator
