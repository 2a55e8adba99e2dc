import Jincubator.Library.Run
import Jincubator.TempDivision
import Jincubator.Timer

/-! # Heating below and cooling above the set point

Inside the band the outputs follow down-counters. The cooling count is cleared
at or below the set point, whereas the heating count is reloaded only once it is
used up or the filtered value jumps. A count from below the set point therefore
keeps the heater on above it, and a negative band shifts both outer branches. A call
that divides by zero ends the process, and with it the run.
-/

namespace Jincubator

open Arithmetic Incubator Run

/-- The main heater and the cooling are not under test. -/
structure Untested (s : Incubator) : Prop where
  mainHeat : s.getVal Reg.testMainHeatMode = off
  cool : s.getVal Reg.testCoolMode = off

/-- Heating on its own side of the set point, cooling on the other, never both. -/
structure OwnSides (s : Incubator) : Prop where
  heat : s.getVal Reg.controlMainHeat = on → s.getVal Reg.rAiTpMain < s.getVal Reg.pAoTpMain
  cool : s.getVal Reg.controlCool = on → s.getVal Reg.rAiTpMain > s.getVal Reg.pAoTpMain
  exclusive : ¬(s.getVal Reg.controlMainHeat = on ∧ s.getVal Reg.controlCool = on)

/-- Half of the proportional band, negative when the register is. -/
def halfBand (s : Incubator) : Int := (s.getX10Val Reg.pTempP).tdiv 2

/-- An old heating count is still running and is not loaded anew. -/
def StaleCount (s : Incubator) : Prop :=
  CountRuns Reg.pidOnCountMainHeater s ∧ ¬FilterJumps (auxHeatFunc s)

/-- The branches of the control function that heat at or above the set point. -/
def HeatsAbove (s : Incubator) : Prop :=
  ¬MainHeatForced s ∧ s.getVal Reg.pAoTpMain ≤ s.getVal Reg.rAiTpMain ∧
    (s.getVal Reg.rAiTpMain < s.getVal Reg.pAoTpMain - halfBand s ∨
      (s.getVal Reg.rAiTpMain ≤ s.getVal Reg.pAoTpMain + halfBand s ∧ StaleCount s))

/-- A call, a timer tick or a new measured value. -/
inductive TempEvent where
  | logicProcessTempFunc
  | timerCallbackFunc
  | reading (value : Int)

/-- A call does not return if it divides by zero. -/
def tempStep (s : Incubator) : TempEvent → Option Incubator
  | .logicProcessTempFunc => logicProcessTempFuncWith (noZeroDivide intHalf) s
  | .timerCallbackFunc => some (timerCallbackFunc s)
  | .reading value => some (setVal Reg.rAiTpMain value s)

section

variable {s : Incubator}

theorem untested_step (s : Incubator) (e : TempEvent) (t : Incubator)
    (returns : tempStep s e = some t) (untested : Untested s) : Untested t := by
  cases e with
  | logicProcessTempFunc =>
      obtain rfl := logicProcessTempFuncWith_returns returns
      have kept := logicProcessTempFunc_within s
      exact ⟨(kept.getVal (by decide)).trans untested.mainHeat,
        (kept.getVal (by decide)).trans untested.cool⟩
  | timerCallbackFunc =>
      obtain rfl := Option.some.inj returns
      exact ⟨(timer_getVal s (by decide)).trans untested.mainHeat,
        (timer_getVal s (by decide)).trans untested.cool⟩
  | reading value =>
      obtain rfl := Option.some.inj returns
      exact ⟨(getVal_setVal_of_ne s value (by decide)).trans untested.mainHeat,
        (getVal_setVal_of_ne s value (by decide)).trans untested.cool⟩

theorem switched_on_iff {forced asked : Prop} [Decidable forced] [Decidable asked] :
    (if forced then 0 else if asked then 1 else 0) = on ↔ ¬forced ∧ asked := by
  split_ifs <;> simp_all

/-- Cooling is on above the set point only. -/
theorem cool_side (untested : Untested s)
    (cooling : (logicProcessTempFunc s).getVal Reg.controlCool = on) :
    s.getVal Reg.pAoTpMain < s.getVal Reg.rAiTpMain := by
  have aux : Within [Reg.controlAuxHeat] s (auxHeatFunc s) := by
    simp (disch := decide) only [within_auxHeatFunc, Within.refl]
  rw [cool_logic s untested.cool, switched_on_iff] at cooling
  obtain ⟨-, above, counts⟩ := cooling
  by_contra cold
  have idle : ¬CountRuns Reg.pidOnCountCool (reloaded (auxHeatFunc s)) := by
    refine countRuns_cold _ ?_
    rw [aux.getVal (by decide), aux.getVal (by decide)]
    exact not_lt.mp cold
  have beyond := mt counts idle
  omega

/-- Heating at or above the set point takes one of the two branches. -/
theorem heat_side (untested : Untested s) :
    ((logicProcessTempFunc s).getVal Reg.controlMainHeat = on →
      s.getVal Reg.rAiTpMain < s.getVal Reg.pAoTpMain) ↔ ¬HeatsAbove s := by
  have aux : Within [Reg.controlAuxHeat] s (auxHeatFunc s) := by
    simp (disch := decide) only [within_auxHeatFunc, Within.refl]
  rw [mainHeat_logic s untested.mainHeat, switched_on_iff, HeatsAbove, halfBand]
  by_cases warm : s.getVal Reg.pAoTpMain ≤ s.getVal Reg.rAiTpMain
  · have count : CountRuns Reg.pidOnCountMainHeater (reloaded (auxHeatFunc s)) ↔ StaleCount s := by
      rw [countRuns_warm, CountRuns.within aux (by decide) (by decide), StaleCount]
      rwa [aux.getVal (by decide), aux.getVal (by decide)]
    rw [count, imp_iff_not (not_lt.mpr warm), and_iff_right warm]
  · simp only [not_le.mp warm, warm, false_and, and_false, not_false_iff, implies_true]

/-- After a call the law holds unless the call took one of the two branches. -/
theorem ownSides_logic (untested : Untested s) :
    OwnSides (logicProcessTempFunc s) ↔ ¬HeatsAbove s := by
  have kept := logicProcessTempFunc_within s
  have value : (logicProcessTempFunc s).getVal Reg.rAiTpMain = s.getVal Reg.rAiTpMain :=
    kept.getVal (by decide)
  have setting : (logicProcessTempFunc s).getVal Reg.pAoTpMain = s.getVal Reg.pAoTpMain :=
    kept.getVal (by decide)
  rw [← heat_side untested]
  refine ⟨fun sides heating => ?_, fun heat => ?_⟩
  · rw [← value, ← setting]
    exact sides.heat heating
  · have cool := cool_side untested
    refine ⟨?_, ?_, ?_⟩
    · rwa [value, setting]
    · rwa [value, setting]
    · rintro ⟨heating, cooling⟩
      exact absurd (heat heating) (not_lt.mpr (cool cooling).le)

end

/-- Along every run the law holds after each call that returns exactly if no such call heats above
the set point. -/
theorem ownSides_iff_not_heatsAbove (s : Incubator) (untested : Untested s)
    (es : List TempEvent) :
    AlongPartial tempStep (fun _ e t => e = .logicProcessTempFunc → OwnSides t) s es ↔
      AlongPartial tempStep (fun s e _ => e = .logicProcessTempFunc → ¬HeatsAbove s) s es := by
  refine alongPartial_congr untested_step ?_ untested es
  intro s e t returns untested
  refine forall_congr' ?_
  rintro rfl
  obtain rfl := logicProcessTempFuncWith_returns returns
  exact ownSides_logic untested

/-- The set point is 37.80 degrees with a band of ten degrees, the heater works from 55 to 80
percent, the filter stands at 51 percent, and ten seconds of heating were loaded below the set
point. -/
def heatingStart : Incubator :=
  cleared |> setVal Reg.pAoTpMain 3780 |> setVal Reg.pTempP 100 |> setVal Reg.pTempOhi 100
    |> setVal Reg.pHhi 80 |> setVal Reg.pHlo 55
    |> fillFilter 5100 10 |> setInt Reg.pidTempOldFilterValue 5100
    |> setUval Reg.pidOnCountMainHeater 10

theorem ownSides_iff_not_heatsAbove_start :
    AlongPartial tempStep (fun _ e t => e = .logicProcessTempFunc → OwnSides t) heatingStart
        [.reading 3785, .timerCallbackFunc, .logicProcessTempFunc] ↔
      AlongPartial tempStep (fun s e _ => e = .logicProcessTempFunc → ¬HeatsAbove s) heatingStart
        [.reading 3785, .timerCallbackFunc, .logicProcessTempFunc] :=
  ownSides_iff_not_heatsAbove heatingStart ⟨by decide, by decide⟩ _

/-- The measured value rises above the set point, the call returns and the heater stays on. -/
theorem heatingStart_heats_above : ¬ ∀ s, Untested s → ∀ es,
    AlongPartial tempStep (fun _ e t => e = .logicProcessTempFunc → OwnSides t) s es := by
  intro law
  have untested : Untested (setVal Reg.rAiTpMain 3785 heatingStart) := ⟨by decide, by decide⟩
  have divides : TempDivides (setVal Reg.rAiTpMain 3785 heatingStart) :=
    ⟨fun _ => by decide, fun follows => absurd follows.1 (by decide)⟩
  have reads : tempStep heatingStart (.reading 3785) =
      some (setVal Reg.rAiTpMain 3785 heatingStart) := rfl
  have returns : tempStep (setVal Reg.rAiTpMain 3785 heatingStart) .logicProcessTempFunc = _ :=
    logicProcessTempFuncWith_of_divides divides
  have along := law heatingStart ⟨by decide, by decide⟩ [.reading 3785, .logicProcessTempFunc]
  rw [alongPartial_cons reads, alongPartial_cons returns] at along
  refine (ownSides_logic untested).mp (along.2.1 rfl) ?_
  simp only [HeatsAbove, MainHeatForced, StaleCount, FilterJumps]
  decide +kernel

end Jincubator
