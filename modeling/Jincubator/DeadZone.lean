import Jincubator.LatchedOutputs
import Jincubator.TempDivision

/-! # The dead zone of the damper

The damper is to be opened below one point of action and closed above another. Both
functions look at the first point, so between the two the damper is closed as soon as
the latch of the closing function has counted far enough and it is cold enough. A step
that divides by zero ends the process before it comes to the damper.
-/

namespace Jincubator

open Arithmetic Incubator Run Hold

/-! ## The damper's part of a PID step -/

/-- A step up to the damper, with the filtered PID value. -/
def beforeDamper (s : Incubator) : Int × Incubator :=
  let temp := pidCalc1 (s.getVal Reg.rAiTpMain) (s.getVal Reg.pAoTpMain) s
  let s := setInt Reg.pidTempValue temp.1 temp.2
  let average := pidFilter temp.1 Reg.filterPidTempArr 10 s
  let s := setInt Reg.pidTempNewFilterValue average.1 average.2
  let s := setUval Reg.pidTempMainHeater (mainHeater average.1 s) s
  let pidCool := cool average.1 s
  (average.1, setUval Reg.pidTempCool pidCool.1 pidCool.2)

def damperOpening (pid : Int) (s : Incubator) : Incubator :=
  setUval Reg.pidTempDbOpen (dbOpen pid s).1 (dbOpen pid s).2

def damperClosing (pid : Int) (s : Incubator) : Incubator :=
  setUval Reg.pidTempDbClose (dbClose pid s).1 (dbClose pid s).2

theorem pidTempInit_damper (s : Incubator) : pidTempInit s =
    ((beforeDamper s).2 |> damperOpening (beforeDamper s).1 |>
      damperClosing (beforeDamper s).1) := by
  simp only [pidTempInit, beforeDamper, damperOpening, damperClosing]

def filteredPid (s : Incubator) : Int := (beforeDamper s).1

/-- What a step writes before the damper. -/
def beforeDamperWrites : List Nat :=
  List.range' Reg.filterPidTempArr 20 ++
    [Reg.pidTempSum, Reg.pidTempSum + 1, Reg.pidTempValue, Reg.pidTempValue + 1,
      Reg.pidTempNewFilterValue, Reg.pidTempNewFilterValue + 1, Reg.pidTempMainHeater,
      Reg.pidTempCool]

theorem beforeDamper_within (s : Incubator) : Within beforeDamperWrites s (beforeDamper s).2 := by
  simp (disch := decide) [beforeDamper, cool, pidCalc1]

/-- The latches of the damper. -/
def Incubator.dbLatches (s : Incubator) : Latch × Latch := (s.dbOpenLatch, s.dbCloseLatch)

section

variable (i : Nat) (v : Int) (s : Incubator)

theorem setUval_dbLatches : (setUval i v s).dbLatches = s.dbLatches := rfl

theorem setInt_dbLatches : (setInt i v s).dbLatches = s.dbLatches := rfl

theorem shiftFilter_dbLatches (base count : Nat) :
    (shiftFilter base count s).dbLatches = s.dbLatches := by
  induction count generalizing s with
  | zero => rfl
  | succ count ih =>
      rw [shiftFilter, ih]
      rfl

theorem pidFilter_dbLatches (pid : Int) (base num : Nat) :
    (pidFilter pid base num s).2.dbLatches = s.dbLatches :=
  shiftFilter_dbLatches s base (num - 1)

theorem pidCalc1_dbLatches (pv sp : Int) : (pidCalc1 pv sp s).2.dbLatches = s.dbLatches := by
  have xi (en : Int) : (tempLoop.xi en s).2.dbLatches = s.dbLatches := by
    rw [PidLoop.xi]
    split <;> rfl
  have pid : (tempLoop.pid s.pidTemp pv sp s).2.2.dbLatches = s.dbLatches := by
    simp only [PidLoop.pid]
    split
    · exact (setInt_dbLatches _ _ _).trans (xi _)
    · exact xi _
  exact pid

theorem cool_dbLatches (pid : Int) : (cool pid s).2.dbLatches = s.dbLatches := rfl

theorem beforeDamper_dbLatches : (beforeDamper s).2.dbLatches = s.dbLatches := by
  simp only [beforeDamper, setUval_dbLatches, cool_dbLatches, setInt_dbLatches,
    pidFilter_dbLatches, pidCalc1_dbLatches]

end

/-! ## The two functions -/

section

variable {s : Incubator} {h : Counter} {pid : Int}

/-- At the first point of action or above it the latch of the opening function stays off. -/
theorem damperOpening_idle (above : s.getVal Reg.pOpe * 100 ≤ pid)
    (resting : s.dbOpenLatch = ⟨0, 0⟩) :
    damperOpening pid s = setUval Reg.pidTempDbOpen 0 s := by
  have idle : dbOpen pid s = (0, s) := by
    have unasked : ¬pid < s.getVal Reg.pOpe * 100 := by omega
    rw [dbOpen, resting, Latch.next_resting unasked, ite_self, ← resting]
  rw [damperOpening, idle]

/-- Below the set point the damper is closed while the latch is on. -/
theorem damperClosing_getVal (pid : Int) (s : Incubator)
    (bit : (dbClose pid s).2.dbCloseLatch.retf = 0 ∨ (dbClose pid s).2.dbCloseLatch.retf = 1) :
    (damperClosing pid s).getVal Reg.pidTempDbClose = 0 ↔
      s.getVal Reg.rAiTpMain ≥ s.getVal Reg.pAoTpMain ∨
        (dbClose pid s).2.dbCloseLatch.retf = 0 := by
  rw [damperClosing, setUval_eq, getVal_setVal_self]
  by_cases warm : s.getVal Reg.rAiTpMain ≥ s.getVal Reg.pAoTpMain
  · have zero : (dbClose pid s).1 = 0 := if_pos warm
    rw [zero]
    exact iff_of_true rfl (Or.inl warm)
  · have latch : (dbClose pid s).1 = (dbClose pid s).2.dbCloseLatch.retf := if_neg warm
    rw [latch, or_iff_right warm]
    rcases bit with zero | one
    · rw [zero]
      exact iff_of_true rfl rfl
    · rw [one]
      decide

/-- The latch of the closing function counts the values above the first point of action. -/
theorem dbClose_shows (shows : s.dbCloseLatch.Shows h) (off : s.getVal Reg.pidTempDbOpen = 0)
    (fits : h.count < 2 ^ 31 - 1) : (dbClose pid s).2.dbCloseLatch.Shows
      (h.next (s.getVal Reg.pTop).toNat (decide (pid > s.getVal Reg.pOpe * 100))) :=
  shows.next (not_not.mpr off) fits

end

/-! ## Steps -/

/-- A PID step, or any value in a register other than the points of action and the two results. -/
inductive DeadZoneEvent where
  | step
  | input (index : Nat)
      (free : index ∉ [Reg.pOpe, Reg.pClo, Reg.pidTempDbOpen, Reg.pidTempDbClose]) (value : Int)

/-- A step does not return if it divides by zero. -/
def deadZoneStep (s : Incubator) : DeadZoneEvent → Option Incubator
  | .step => pidTempInitWith (noZeroDivide intHalf) s
  | .input index _ value => some (setVal index value s)

theorem deadZoneStep_of_divides {s : Incubator} (divides : BandDivides s) :
    deadZoneStep s .step = some (pidTempInit s) :=
  (pidTempInitWith_noZeroDivide s).trans (if_pos divides)

/-- The filtered value of a step lies between the two points of action. -/
def InDeadZone (s : Incubator) : DeadZoneEvent → Prop
  | .step => s.getVal Reg.pOpe * 100 ≤ filteredPid s ∧ filteredPid s ≤ s.getVal Reg.pClo * 100
  | .input _ _ _ => True

instance (s : Incubator) : DecidablePred (InDeadZone s)
  | .step => inferInstanceAs (Decidable (_ ∧ _))
  | .input _ _ _ => inferInstanceAs (Decidable True)

/-- The damper is neither to be opened nor to be closed. -/
def DamperRests (s : Incubator) : Prop :=
  s.getVal Reg.pidTempDbOpen = 0 ∧ s.getVal Reg.pidTempDbClose = 0

instance : DecidablePred DamperRests := fun _ => inferInstanceAs (Decidable (_ ∧ _))

/-- The latch of the closing function is not on after a call: a latch that is on has counted down
to its end, and one that is off does not count beyond its minimum. -/
def ClosingOff (pid : Int) (s : Incubator) : Prop :=
  if s.dbCloseLatch.retf ≠ 0 then
    pid ≤ s.getVal Reg.pOpe * 100 ∧ s.dbCloseLatch.nn ≤ 1
  else if pid > s.getVal Reg.pOpe * 100 then
    s.dbCloseLatch.nn + 1 ≤ max 0 (s.getVal Reg.pTop)
  else s.dbCloseLatch.nn - 1 ≤ max 0 (s.getVal Reg.pTop)

/-- A step with the temperature at its set point or above, or with the closing latch off. -/
def StaysInZone (s : Incubator) : DeadZoneEvent → Prop
  | .step => s.getVal Reg.rAiTpMain ≥ s.getVal Reg.pAoTpMain ∨ ClosingOff (filteredPid s) s
  | .input _ _ _ => True

/-- The opening latch is at rest, and the closing latch a counter within its range. -/
structure ZoneLatches (s : Incubator) : Prop where
  opening : s.dbOpenLatch = ⟨0, 0⟩
  closing : ∃ h : Counter, s.dbCloseLatch.Shows h ∧ h.Within 32767

theorem closingOff_iff {s : Incubator} {h : Counter} (pid : Int)
    (shows : s.dbCloseLatch.Shows h) :
    (h.next (s.getVal Reg.pTop).toNat (decide (pid > s.getVal Reg.pOpe * 100))).on = false ↔
      ClosingOff pid s := by
  rw [← Bool.not_eq_true, Counter.next_on_iff, ClosingOff, shows.1]
  by_cases lit : h.on = true
  · have left := h.left lit
    rw [if_pos (shows.on_iff.mpr lit), Counter.counted_of_on lit]
    by_cases above : pid > s.getVal Reg.pOpe * 100
    · simp only [above, decide_true, if_true, lit, true_and]
      omega
    · simp only [above, decide_false, Bool.false_eq_true, if_false, lit, true_and]
      omega
  · have dark : h.on = false := Bool.eq_false_of_not_eq_true lit
    have reached := h.counted_reached (decide (pid > s.getVal Reg.pOpe * 100))
    rw [if_neg fun on => lit (shows.on_iff.mp on)]
    rw [Counter.reached, dark] at reached
    by_cases above : pid > s.getVal Reg.pOpe * 100
    · simp only [above, decide_true, if_true, dark, Bool.false_eq_true, if_false, false_and,
        or_false] at reached ⊢
      omega
    · simp only [above, decide_false, Bool.false_eq_true, if_false, dark, false_and,
        or_false] at reached ⊢
      omega

/-- The two functions, one after the other, with a value from the first point of action on. -/
theorem damper_zone {s : Incubator} {pid : Int} (latches : ZoneLatches s)
    (above : s.getVal Reg.pOpe * 100 ≤ pid) :
    (DamperRests (s |> damperOpening pid |> damperClosing pid) ↔
      s.getVal Reg.rAiTpMain ≥ s.getVal Reg.pAoTpMain ∨ ClosingOff pid s) ∧
      ZoneLatches (s |> damperOpening pid |> damperClosing pid) := by
  obtain ⟨resting, h, shows, within⟩ := latches
  simp only [damperOpening_idle above resting]
  have opened (i : Nat) (other : i ≠ Reg.pidTempDbOpen) :
      (setUval Reg.pidTempDbOpen 0 s).getVal i = s.getVal i := getVal_setVal_of_ne s 0 other
  have off : (setUval Reg.pidTempDbOpen 0 s).getVal Reg.pidTempDbOpen = 0 :=
    getVal_setVal_self s _ 0
  have latch : (setUval Reg.pidTempDbOpen 0 s).dbCloseLatch = s.dbCloseLatch := rfl
  have opening : (setUval Reg.pidTempDbOpen 0 s).dbOpenLatch = ⟨0, 0⟩ := resting
  have point : ClosingOff pid (setUval Reg.pidTempDbOpen 0 s) ↔ ClosingOff pid s := by
    rw [ClosingOff, ClosingOff, latch, opened _ (by decide), opened _ (by decide)]
  have warm := opened Reg.rAiTpMain (by decide)
  have setting := opened Reg.pAoTpMain (by decide)
  rw [← latch] at shows
  rw [← point, ← warm, ← setting]
  generalize setUval Reg.pidTempDbOpen 0 s = t at *
  have small := within.most
  have range := getVal_range t Reg.pTop
  have called : (dbClose pid t).2.dbCloseLatch.Shows _ := dbClose_shows shows off (by omega)
  have setting_le : (t.getVal Reg.pTop).toNat ≤ 32767 := by omega
  have counter := within.next setting_le (decide (pid > t.getVal Reg.pOpe * 100))
  have dark := closingOff_iff pid shows
  generalize h.next _ _ = g at called counter dark
  have bit : (dbClose pid t).2.dbCloseLatch.retf = 0 ∨ (dbClose pid t).2.dbCloseLatch.retf = 1 := by
    rw [called.2]
    cases g.on with
    | true => exact Or.inr rfl
    | false => exact Or.inl rfl
  have closed : (damperClosing pid t).getVal Reg.pidTempDbOpen = 0 := by
    rw [damperClosing, setUval_eq, getVal_setVal_of_ne _ _ (by decide)]
    exact off
  refine ⟨?_, opening, g, called, counter⟩
  rw [DamperRests, damperClosing_getVal pid t bit, ← dark, ← Bool.not_eq_true, ← called.on_iff,
    not_not]
  exact and_iff_right closed

/-- A step inside the dead zone leaves the opening function at rest, and closes the damper unless
the closing latch is off or it is warm enough. -/
theorem pidTempInit_zone {s : Incubator} (latches : ZoneLatches s)
    (inside : InDeadZone s .step) :
    (DamperRests (pidTempInit s) ↔ StaysInZone s .step) ∧ ZoneLatches (pidTempInit s) := by
  have before := beforeDamper_within s
  have kept := beforeDamper_dbLatches s
  rw [pidTempInit_damper, StaysInZone]
  rw [InDeadZone] at inside
  rw [filteredPid] at inside ⊢
  generalize beforeDamper s = r at *
  have opening : r.2.dbOpenLatch = s.dbOpenLatch := congrArg Prod.fst kept
  have closing : r.2.dbCloseLatch = s.dbCloseLatch := congrArg Prod.snd kept
  have zone : ZoneLatches r.2 := ⟨opening.trans latches.opening, closing ▸ latches.closing⟩
  have point : r.2.getVal Reg.pOpe = s.getVal Reg.pOpe := before.getVal (by decide)
  have off : ClosingOff r.1 r.2 ↔ ClosingOff r.1 s := by
    rw [ClosingOff, ClosingOff, closing, point, before.getVal (i := Reg.pTop) (by decide)]
  rw [← off, ← before.getVal (i := Reg.rAiTpMain) (by decide),
    ← before.getVal (i := Reg.pAoTpMain) (by decide)]
  exact damper_zone zone (point ▸ inside.1)

/-! ## Runs -/

/-- In every run of PID steps with filtered values between the two points of action, no step that
returns opens or closes the damper exactly if every such step meets the temperature at its set
point or above, or leaves the closing latch off. -/
theorem deadZone_iff (s : Incubator) (es : List DeadZoneEvent) (rests : DamperRests s)
    (opening : s.dbOpenLatch = ⟨0, 0⟩) (closing : s.dbCloseLatch = ⟨0, 0⟩)
    (inside : AlongPartial deadZoneStep (fun s e _ => InDeadZone s e) s es) :
    AlongPartial deadZoneStep (fun _ _ t => DamperRests t) s es ↔
      AlongPartial deadZoneStep (fun s e _ => StaysInZone s e) s es := by
  have start : ZoneLatches s :=
    ⟨opening, Counter.idle, closing ▸ Latch.shows_idle, Counter.within_idle _⟩
  refine alongPartial_iff (fun t => ZoneLatches t ∧ DamperRests t) ?_ ?_ ⟨start, rests⟩ inside
  · intro t e u returns inside inv
    cases e with
    | step =>
        obtain rfl := pidTempInitWith_returns returns
        exact (pidTempInit_zone inv.1 inside).1
    | input index free value =>
        obtain rfl := Option.some.inj returns
        have opens := getVal_setVal_of_ne t value (i := index) (j := Reg.pidTempDbOpen)
          fun same => free (by simp [← same])
        have closes := getVal_setVal_of_ne t value (i := index) (j := Reg.pidTempDbClose)
          fun same => free (by simp [← same])
        exact iff_of_true ⟨opens.trans inv.2.1, closes.trans inv.2.2⟩ trivial
  · intro t e u returns inside inv kept
    cases e with
    | step =>
        obtain rfl := pidTempInitWith_returns returns
        exact ⟨(pidTempInit_zone inv.1 inside).2, kept⟩
    | input index free value =>
        obtain rfl := Option.some.inj returns
        exact ⟨⟨inv.1.opening, inv.1.closing⟩, kept⟩

/-- Points of action of 35 and 65, a heater that works from 55 to 80 percent, a steady PID value
of 50, and a temperature below its set point. -/
def steadyInZone : Incubator :=
  (List.range 10).foldl (fun s i => setNativeInt Reg.filterPidTempArr i 5000 s)
    (cleared |> setVal Reg.pOpe 35 |> setVal Reg.pClo 65 |> setVal Reg.pHhi 80
      |> setVal Reg.pHlo 55 |> setVal Reg.pTempOhi 50 |> setVal Reg.pTempOlo 50
      |> setVal Reg.pAoTpMain 1)

theorem steadyInZone_divides : BandDivides steadyInZone := by decide

theorem deadZone_iff_steady :
    AlongPartial deadZoneStep (fun _ _ t => DamperRests t) steadyInZone [.step] ↔
      AlongPartial deadZoneStep (fun s e _ => StaysInZone s e) steadyInZone [.step] := by
  refine deadZone_iff steadyInZone [.step] (by decide +kernel) rfl rfl ?_
  rw [alongPartial_cons (deadZoneStep_of_divides steadyInZone_divides)]
  exact ⟨by decide +kernel, trivial⟩

/-- The damper is closed between its points of action. -/
theorem closed_in_deadZone :
    DamperRests steadyInZone ∧ steadyInZone.dbOpenLatch = ⟨0, 0⟩ ∧
      steadyInZone.dbCloseLatch = ⟨0, 0⟩ ∧
      AlongPartial deadZoneStep (fun s e _ => InDeadZone s e) steadyInZone [.step] ∧
      ¬AlongPartial deadZoneStep (fun _ _ t => DamperRests t) steadyInZone [.step] := by
  rw [alongPartial_cons (deadZoneStep_of_divides steadyInZone_divides),
    alongPartial_cons (deadZoneStep_of_divides steadyInZone_divides)]
  refine ⟨by decide +kernel, rfl, rfl, ⟨by decide +kernel, trivial⟩, ?_⟩
  exact fun along => absurd along.1 (by decide +kernel)

end Jincubator
