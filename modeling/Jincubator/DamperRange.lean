import Jincubator.DeadReckoning
import Jincubator.RunMode

/-! # The range of the damper position

Four writers move the position: the timer counts it up and down within its limits and
sets it at the two end switches, and a correction is taken over if it is within the
limits. All of them leave it within.
-/

namespace Jincubator

open Footprint Incubator Run

/-- The position is within the limits, which are `least` and `most`. -/
def InRange (least most : Int) (s : Incubator) : Prop :=
  (s.getVal Reg.damperMinLen = least ∧ s.getVal Reg.damperMaxLen = most) ∧
    least ≤ s.getVal Reg.rAiAd ∧ s.getVal Reg.rAiAd ≤ most

instance (least most : Int) (s : Incubator) : Decidable (InRange least most s) :=
  inferInstanceAs (Decidable (_ ∧ _))

/-- No register of the range is among the written ones. -/
def RangeApart (writes : List Nat) : Prop :=
  ∀ i ∈ [Reg.rAiAd, Reg.damperMinLen, Reg.damperMaxLen], i ∉ writes

instance (writes : List Nat) : Decidable (RangeApart writes) :=
  inferInstanceAs (Decidable (∀ _ ∈ _, _))

/-! ## A tick of one direction -/

theorem Travel.drive_position (t : Travel) (step : Int) :
    (t.drive step).position = t.position ∨
      step * t.position < step * t.length ∧
        (t.drive step).position = short (t.position + step) := by
  have counted (u : Travel) : u.countDown.position = u.position := by
    rw [Travel.countDown]
    split <;> rfl
  have started (u : Travel) :
      u.startCount.position = u.position ∧ u.startCount.length = u.length := by
    rw [Travel.startCount]
    split <;> exact ⟨rfl, rfl⟩
  rw [Travel.drive, counted]
  obtain ⟨position, length⟩ := started { t with otherStatus := 0 }
  generalize Travel.startCount { t with otherStatus := 0 } = u at position length ⊢
  rw [Travel.move, ← position, ← length]
  split
  · split
    · rename_i room
      exact Or.inr ⟨room, rfl⟩
    · exact Or.inl rfl
  · exact Or.inl rfl

namespace DamperSide

section

variable {side : DamperSide} {s : Incubator}

/-- A tick moves the position by one step towards the limit of its direction or not at all, and
the end switch sets it to the limit. -/
theorem tick_position (mem : side ∈ [openSide, closeSide]) (s : Incubator) :
    (side.tick s).getVal Reg.rAiAd = s.getVal Reg.rAiAd ∨
      (side.step * s.getVal Reg.rAiAd < side.step * s.getVal side.length ∧
        (side.tick s).getVal Reg.rAiAd = s.getVal Reg.rAiAd + side.step) ∨
      (s.getUval side.detect > 0 ∧ (side.tick s).getVal Reg.rAiAd = s.getVal side.length) := by
  have range := getVal_range s Reg.rAiAd
  have limit := getVal_range s side.length
  have sign := step_of_mem mem
  have apart := apart_of_mem mem
  have separate : Reg.rAiAd ≠ side.testMode ∧ Reg.rAiAd ≠ side.button := by
    simp only [List.mem_cons, List.not_mem_nil, or_false] at mem
    rcases mem with rfl | rfl <;> decide
  rw [tick]
  split
  · rename_i switch
    refine Or.inr (Or.inr ⟨switch, ?_⟩)
    rw [arrive, getVal_setVal_of_ne _ _ separate.2, getVal_setVal_of_ne _ _ separate.1, setUval_eq,
      getVal_setVal_self, ← getVal_eq_short]
  · split
    · have travelled : (side.drive s).getVal Reg.rAiAd =
          ((side.travel s).drive side.step).position :=
        congrArg Travel.position (travel_drive apart)
      rw [travelled]
      rcases (side.travel s).drive_position side.step with still | ⟨room, moved⟩
      · exact Or.inl still
      · refine Or.inr (Or.inl ⟨room, moved.trans (short_of_range ?_)⟩)
        have room : side.step * s.getVal Reg.rAiAd < side.step * s.getVal side.length := room
        show -32768 ≤ s.getVal Reg.rAiAd + side.step ∧ s.getVal Reg.rAiAd + side.step < 32768
        rcases sign with up | down
        · rw [up] at room ⊢
          omega
        · rw [down] at room ⊢
          omega
    · exact Or.inl rfl

end

end DamperSide

/-! ## The writers -/

section

variable {s t : Incubator} {writes : List Nat} {least most : Int}

theorem InRange.agree (inRange : InRange least most s) (st : AgreeOff writes s.shmOut t.shmOut)
    (apart : RangeApart writes) : InRange least most t := by
  have kept {i : Nat} (mem : i ∈ [Reg.rAiAd, Reg.damperMinLen, Reg.damperMaxLen]) :
      t.getVal i = s.getVal i := getVal_agree st (apart i mem)
  rw [InRange, kept (by simp), kept (by simp), kept (by simp)]
  exact inRange

/-- A tick of both directions keeps the range, and moves the position by one at most unless an end
switch is active. -/
theorem ticks_range (inRange : InRange least most s) :
    InRange least most (closeSide.tick (openSide.tick s)) ∧ (NoSwitch s →
      |(closeSide.tick (openSide.tick s)).getVal Reg.rAiAd - s.getVal Reg.rAiAd| ≤ 1) := by
  have opened := openSide.tick_within s
  have closed := closeSide.tick_within (openSide.tick s)
  have least : (openSide.tick s).getVal Reg.damperMinLen = s.getVal Reg.damperMinLen :=
    opened.getVal (by decide)
  have switch : (openSide.tick s).getUval Reg.detectDamperFullyClose =
      s.getUval Reg.detectDamperFullyClose := opened.getUval (by decide)
  have up : (openSide.tick s).getVal Reg.rAiAd = s.getVal Reg.rAiAd ∨
      1 * s.getVal Reg.rAiAd < 1 * s.getVal Reg.damperMaxLen ∧
        (openSide.tick s).getVal Reg.rAiAd = s.getVal Reg.rAiAd + 1 ∨
      s.getUval Reg.detectDamperFullyOpen > 0 ∧
        (openSide.tick s).getVal Reg.rAiAd = s.getVal Reg.damperMaxLen :=
    DamperSide.tick_position (by simp) s
  have down : (closeSide.tick (openSide.tick s)).getVal Reg.rAiAd =
        (openSide.tick s).getVal Reg.rAiAd ∨
      -1 * (openSide.tick s).getVal Reg.rAiAd < -1 * (openSide.tick s).getVal Reg.damperMinLen ∧
        (closeSide.tick (openSide.tick s)).getVal Reg.rAiAd =
          (openSide.tick s).getVal Reg.rAiAd + -1 ∨
      (openSide.tick s).getUval Reg.detectDamperFullyClose > 0 ∧
        (closeSide.tick (openSide.tick s)).getVal Reg.rAiAd =
          (openSide.tick s).getVal Reg.damperMinLen :=
    DamperSide.tick_position (by simp) (openSide.tick s)
  rw [least, switch] at down
  have limits : (closeSide.tick (openSide.tick s)).getVal Reg.damperMinLen =
        s.getVal Reg.damperMinLen ∧
      (closeSide.tick (openSide.tick s)).getVal Reg.damperMaxLen = s.getVal Reg.damperMaxLen :=
    ⟨(closed.getVal (by decide)).trans least, (closed.getVal (by decide)).trans
      (opened.getVal (by decide))⟩
  obtain ⟨⟨rfl, rfl⟩, least, most⟩ := inRange
  rw [InRange, limits.1, limits.2, Int.abs_eq_natAbs, NoSwitch]
  exact ⟨by omega, by omega⟩

theorem timer_range (inRange : InRange least most s) :
    InRange least most (timerCallbackFunc s) ∧ (NoSwitch s →
      |(timerCallbackFunc s).getVal Reg.rAiAd - s.getVal Reg.rAiAd| ≤ 1) := by
  have ticked := ticks_range inRange
  rw [timerCallbackFunc]
  generalize closeSide.tick (openSide.tick s) = t at ticked
  have divided : AgreeOff secondWrites t.shmOut (divideTick t).shmOut := by
    rw [divideTick]
    split
    · exact (second_within { t with timerCount := 0 }).out
    · exact .refl _ _
  have position : (divideTick t).getVal Reg.rAiAd = t.getVal Reg.rAiAd :=
    getVal_agree divided (by decide)
  rw [position]
  exact ⟨ticked.1.agree divided (by decide), ticked.2⟩

/-- Setting the correction back does not touch the range. -/
theorem InRange.settled (inRange : InRange least most s) :
    InRange least most (s |> setOld Reg.pEditAd 0xffff |> setVal Reg.pEditAd 0xffff) := by
  have out : AgreeOff [Reg.pEditAd] s.shmOut
      (s |> setOld Reg.pEditAd 0xffff |> setVal Reg.pEditAd 0xffff).shmOut :=
    agreeOff_update _ _ _
  exact inRange.agree out (by decide)

/-- A correction is taken over within the limits only. -/
theorem acceptDamper_range (inRange : InRange least most s) :
    InRange least most (acceptDamper s) := by
  rw [acceptDamper]
  split
  · split
    · rename_i corrected
      refine InRange.settled ?_
      have other {i : Nat} (ne : i ≠ Reg.rAiAd) :
          (setVal Reg.rAiAd (s.getVal Reg.pEditAd) s).getVal i = s.getVal i :=
        getVal_setVal_of_ne _ _ ne
      obtain ⟨⟨rfl, rfl⟩, -⟩ := inRange
      rw [InRange, getVal_setVal_self, short_getVal, other (by decide), other (by decide)]
      exact ⟨⟨rfl, rfl⟩, corrected⟩
    · exact inRange.settled
  · exact inRange

theorem runSysTime_range (now : Int) (inRange : InRange least most s) :
    InRange least most (runSysTime now s) := by
  rw [runSysTime_eq]
  have timed := inRange.agree (timePart_within now s).out (by decide)
  exact (acceptDamper_range timed).agree (followParas_out _) (by decide)

end

/-! ## Runs -/

/-- A tick of the timer, an iteration of `run_sys_time`, or any input but the position and its
limits. -/
inductive PositionEvent where
  | tick
  | sysTime (now : Int)
  | input (index : Nat) (free : index ∉ [Reg.rAiAd, Reg.damperMinLen, Reg.damperMaxLen])
      (value : Int)

def positionStep (s : Incubator) : PositionEvent → Incubator
  | .tick => timerCallbackFunc s
  | .sysTime now => runSysTime now s
  | .input index _ value => setVal index value s

/-- The range is kept, and a tick moves the position by one at most while no end switch is
active. -/
def KeepsRange (least most : Int) (s : Incubator) (e : PositionEvent) (t : Incubator) : Prop :=
  InRange least most t ∧
    (e = .tick → NoSwitch s → |t.getVal Reg.rAiAd - s.getVal Reg.rAiAd| ≤ 1)

theorem positionStep_range {s : Incubator} {least most : Int} (inRange : InRange least most s)
    (e : PositionEvent) : KeepsRange least most s e (positionStep s e) := by
  cases e with
  | tick => exact ⟨(timer_range inRange).1, fun _ => (timer_range inRange).2⟩
  | sysTime now => exact ⟨runSysTime_range now inRange, nofun⟩
  | input index free value =>
      have written : AgreeOff [index] s.shmOut (setVal index value s).shmOut :=
        agreeOff_update _ _ _
      refine ⟨inRange.agree written ?_, nofun⟩
      intro i mem same
      exact free (List.mem_singleton.mp same ▸ mem)

/-- In every run the position stays within the limits of the start, and no tick moves it by more
than one unless it meets an end switch. -/
theorem damper_inRange (least most : Int) (s : Incubator) (inRange : InRange least most s)
    (es : List PositionEvent) : Along positionStep (KeepsRange least most) s es := by
  have kept (t : Incubator) (e : PositionEvent) (held : InRange least most t) :
      KeepsRange least most t e (positionStep t e) := positionStep_range held e
  exact along_of_invariant (fun t e held => (kept t e held).1) kept inRange es

/-- A damper that is driven past its limit, with a correction beyond it. -/
theorem damper_inRange_opening :
    Along positionStep (KeepsRange 0 2) (setVal Reg.damperMaxLen 2 cleared)
      [.input Reg.controlDamperOpen (by decide) 1, .tick, .tick, .tick, .tick,
        .input Reg.pEditAd (by decide) 5, .sysTime 0] :=
  damper_inRange 0 2 _ (by decide) _

end Jincubator
