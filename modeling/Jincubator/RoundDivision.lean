import Jincubator.HumidityDivision
import Jincubator.ThreadWrites

/-! # Divisions of a round

A round is written out over the machine that may refuse a quotient: the start mode and the
preheating end the process where a divisor is zero. Every round that returns is a round of
the main loop, and no round ends the process as long as the settings are kept from their
zeros, which no round changes.
-/

namespace Jincubator

open Arithmetic Footprint Incubator

section

variable (m : Arithmetic.Machine)

def startControlsWith (s : Incubator) : Option Incubator := do
  let s ← logicProcessTempFuncWith m
    (s |> updateSetPara |> driveMotor |> controlFan on |> controlBlower on)
  let s ← logicProcessHumiFuncWith m s
  return s |> damperControlFunc |> normalRetemp

def startRunWith (s : Incubator) : Option Incubator :=
  if s.getVal Reg.rStartRecv = on then startControlsWith m (s |> controlRunLight on |> keepRunning)
  else some s

def preheatControlsWith (s : Incubator) : Option Incubator := do
  let s ← logicProcessTempFuncWith m
    (s |> driveMotor |> controlFan on |> controlRunLight on |> controlBlower on |> preheatSetPara)
  let s ← logicProcessHumiFuncWith m s
  return s |> damperControlFunc |> preRetemp

def preheatRunWith (s : Incubator) : Option Incubator :=
  preheatControlsWith m (s |> preheatInit |> setVal Reg.rRunSecondStatus off)

def preheatWith (clock : Clock) (s : Incubator) : Option Incubator :=
  let start := s.getTime Reg.rPreStartTimeHigh
  let stop := s.getTime Reg.rPreStopTimeHigh
  if start ≠ 0 ∧ stop ≠ 0 then
    if start < stop ∧ stop - start ≤ twoDaySeconds then
      let now := uint32 clock.preheat
      if now ≥ start ∧ now ≤ stop then preheatRunWith m s
      else if now > stop then some (preheatExit clock.preheatExit s)
      else some s
    else if start = stop then
      some (s |> setRunMode statusStopSent |> setVal Reg.rRunSecondStatus on |> clearPreheat)
    else some s
  else some s

def mainRoundWith (clock : Clock) (s : Incubator) : Option Incubator := do
  let s ← startRunWith m (s |> runSysTime clock.runSysTime |> startInit)
  let s ← preheatWith m clock (s |> stopInit |> stopRun)
  return s |> alarmSuppression
    |> initialise clock.initialise
    |> checkStart |> checkOver |> checkCancelled
    |> defaultMode
    |> testControlMode
    |> directionFunc

end

/-- One round after the other, up to one that divides by zero. -/
def mainRounds (clocks : List Clock) (s : Incubator) : Option Incubator :=
  clocks.foldlM (fun s clock => mainRoundWith (noZeroDivide intHalf) clock s) s

/-! ## The settings -/

/-- No divisor is zero, whatever is measured. -/
structure RoundDivides (s : Incubator) : Prop where
  band : BandDivides s
  humi : HumiDivides s
  stage : s.getVal Reg.sSyncMotorStage ≠ 0

section

variable {s t : Incubator} {writes : List Nat} {clock : Clock}

theorem RoundDivides.pass (divides : RoundDivides s) : PassDivides s :=
  ⟨⟨fun _ => divides.band, fun _ => divides.stage⟩, fun _ => divides.humi⟩

theorem RoundDivides.out (divides : RoundDivides s) (st : AgreeOff writes s.shmOut t.shmOut)
    (apart : ∀ i ∈ [Reg.pHhi, Reg.pHlo, Reg.pTempD, Reg.pHumD, Reg.sSyncMotorStage],
      i ∉ writes) : RoundDivides t := by
  simp only [List.forall_mem_cons] at apart
  obtain ⟨high, low, temp, humi, stage, -⟩ := apart
  constructor
  · rw [BandDivides, getVal_agree st high, getVal_agree st low, getVal_agree st temp]
    exact divides.band
  · rw [HumiDivides, getVal_agree st humi]
    exact divides.humi
  · rw [getVal_agree st stage]
    exact divides.stage

end

/-! ## The blocks -/

/-- Wherever the one returns it gives what the other computes, and it returns unless a divisor is
zero. -/
structure Restricts (part : Incubator → Option Incubator) (whole : Incubator → Incubator) :
    Prop where
  returns : ∀ s t, part s = some t → t = whole s
  divides : ∀ s, RoundDivides s → part s = some (whole s)

theorem restricts_some (whole : Incubator → Incubator) :
    Restricts (fun s => some (whole s)) whole :=
  ⟨fun _ _ returns => (Option.some.inj returns).symm, fun _ _ => rfl⟩

theorem restricts_ite {c : Incubator → Prop} [DecidablePred c]
    {part other : Incubator → Option Incubator} {whole rest : Incubator → Incubator}
    (yes : Restricts part whole) (no : Restricts other rest) :
    Restricts (fun s => if c s then part s else other s)
      (fun s => if c s then whole s else rest s) := by
  constructor
  · intro s t returns
    split at returns
    · rename_i holds
      rw [if_pos holds]
      exact yes.returns s t returns
    · rename_i fails
      rw [if_neg fails]
      exact no.returns s t returns
  · intro s divides
    split
    · exact yes.divides s divides
    · exact no.divides s divides

section

variable {s : Incubator} {clock : Clock}

/-- Registers that the controls of a mode write are no settings. -/
theorem RoundDivides.controls {t : Incubator} (divides : RoundDivides s)
    (st : Within controlWrites s t) : RoundDivides t :=
  divides.out st.out (by decide +kernel)

theorem startControls_restricts :
    Restricts (startControlsWith (noZeroDivide intHalf)) startControls := by
  have controls := controls_return_iff fun s => s |> damperControlFunc |> normalRetemp
  constructor
  · exact fun s t returns => ((controls _ t).mp returns).2
  · intro s divides
    have before : Within controlWrites s
        (s |> updateSetPara |> driveMotor |> controlFan on |> controlBlower on) := by
      simp (disch := decide +kernel) only [within_controlBlower, within_controlFan,
        within_driveMotor, within_updateSetPara, Within.refl]
    exact (controls _ _).mpr ⟨(divides.controls before).pass, rfl⟩

theorem preheatControls_restricts :
    Restricts (preheatControlsWith (noZeroDivide intHalf)) preheatControls := by
  have controls := controls_return_iff fun s => s |> damperControlFunc |> preRetemp
  constructor
  · exact fun s t returns => ((controls _ t).mp returns).2
  · intro s divides
    have before : Within controlWrites s (s |> driveMotor |> controlFan on |> controlRunLight on
        |> controlBlower on |> preheatSetPara) := by
      simp (disch := decide +kernel) only [within_preheatSetPara, within_controlBlower,
        within_controlRunLight, within_controlFan, within_driveMotor, Within.refl]
    exact (controls _ _).mpr ⟨(divides.controls before).pass, rfl⟩

theorem startRun_restricts : Restricts (startRunWith (noZeroDivide intHalf)) startRun := by
  refine restricts_ite ⟨fun s t => ?_, fun s divides => ?_⟩ (restricts_some _)
  · exact startControls_restricts.returns (s |> controlRunLight on |> keepRunning) t
  · have begun : Within blockWrites s (s |> controlRunLight on |> keepRunning) := by
      rw [within_keepRunning, within_controlRunLight (by decide)]
      exact Within.refl _ _
    exact startControls_restricts.divides _ (divides.out begun.out (by decide +kernel))

theorem preheatRun_restricts : Restricts (preheatRunWith (noZeroDivide intHalf)) preheatRun := by
  constructor
  · exact fun s t returns => preheatControls_restricts.returns _ t returns
  · intro s divides
    have begun : Within blockWrites s (s |> preheatInit |> setVal Reg.rRunSecondStatus off) := by
      rw [within_setVal (mode_mem (by decide))]
      exact preheatInit_within s
    exact preheatControls_restricts.divides _ (divides.out begun.out (by decide +kernel))

theorem preheat_restricts (clock : Clock) :
    Restricts (preheatWith (noZeroDivide intHalf) clock) (preheat clock) := by
  have window : Restricts
      (fun s =>
        if uint32 clock.preheat ≥ s.getTime Reg.rPreStartTimeHigh ∧
            uint32 clock.preheat ≤ s.getTime Reg.rPreStopTimeHigh then
          preheatRunWith (noZeroDivide intHalf) s
        else if uint32 clock.preheat > s.getTime Reg.rPreStopTimeHigh then
          some (preheatExit clock.preheatExit s)
        else some s)
      (fun s =>
        if uint32 clock.preheat ≥ s.getTime Reg.rPreStartTimeHigh ∧
            uint32 clock.preheat ≤ s.getTime Reg.rPreStopTimeHigh then preheatRun s
        else if uint32 clock.preheat > s.getTime Reg.rPreStopTimeHigh then
          preheatExit clock.preheatExit s
        else s) :=
    restricts_ite preheatRun_restricts (restricts_ite (restricts_some _) (restricts_some _))
  exact restricts_ite (restricts_ite window (restricts_ite (restricts_some _) (restricts_some _)))
    (restricts_some _)

/-! ## The round -/

theorem mainRound_out (clock : Clock) (s : Incubator) :
    AgreeOff mainWrites s.shmOut (mainRound clock s).shmOut := by
  have blocks (l : List (Incubator → Incubator)) (all : ∀ block ∈ l, block ∈ roundBlocks clock)
      (t : Incubator) :
      AgreeOff mainWrites t.shmOut (l.foldl (fun s block => block s) t).shmOut := by
    induction l generalizing t with
    | nil => exact .refl _ _
    | cons block l ih =>
        have first := roundBlocks_out clock t block (all block List.mem_cons_self)
        exact first.trans (ih (fun b mem => all b (List.mem_cons_of_mem _ mem)) (block t))
  rw [mainRound_eq]
  exact blocks _ (fun _ mem => mem) s

/-- No round changes the settings. -/
theorem RoundDivides.mainRound (divides : RoundDivides s) (clock : Clock) :
    RoundDivides (mainRound clock s) :=
  divides.out (mainRound_out clock s) (by decide +kernel)

theorem mainRound_restricts (clock : Clock) :
    Restricts (mainRoundWith (noZeroDivide intHalf) clock) (mainRound clock) := by
  constructor
  · intro s t returns
    obtain ⟨u, run, later⟩ := Option.bind_eq_some_iff.mp returns
    obtain ⟨v, heated, rest⟩ := Option.bind_eq_some_iff.mp later
    obtain rfl := startRun_restricts.returns _ u run
    obtain rfl := (preheat_restricts clock).returns _ v heated
    exact (Option.some.inj rest).symm
  · intro s divides
    have timed : RoundDivides (runSysTime clock.runSysTime s) :=
      divides.out (runSysTime_out _ s) (by decide +kernel)
    have block {t : Incubator} (divides : RoundDivides t) (f : Incubator → Incubator)
        (mem : f ∈ modeBlocks clock) : RoundDivides (f t) :=
      divides.out (modeBlocks_within clock t f mem).out (by decide +kernel)
    have begun := block timed startInit (by simp [modeBlocks])
    have run := startRun_restricts.divides _ begun
    have stopped := block (block (block begun startRun (by simp [modeBlocks])) stopInit
      (by simp [modeBlocks])) stopRun (by simp [modeBlocks])
    have heated := (preheat_restricts clock).divides _ stopped
    simp only [mainRoundWith, run, Option.bind_eq_bind, Option.bind_some, heated]
    rfl

/-- Rounds that return are rounds of the main loop. -/
theorem mainRounds_returns {clocks : List Clock} {s t : Incubator}
    (returns : mainRounds clocks s = some t) :
    t = clocks.foldl (fun s clock => mainRound clock s) s := by
  induction clocks generalizing s with
  | nil => exact (Option.some.inj returns).symm
  | cons clock clocks ih =>
      rw [mainRounds, List.foldlM_cons] at returns
      obtain ⟨u, first, rest⟩ := Option.bind_eq_some_iff.mp returns
      obtain rfl := (mainRound_restricts clock).returns _ _ first
      exact ih rest

theorem mainRounds_isSome_of_append {first rest : List Clock}
    (returns : (mainRounds (first ++ rest) s).isSome) : (mainRounds first s).isSome := by
  rw [mainRounds, List.foldlM_append] at returns
  obtain ⟨t, all⟩ := Option.isSome_iff_exists.mp returns
  obtain ⟨u, reached, -⟩ := Option.bind_eq_some_iff.mp all
  exact Option.isSome_of_eq_some reached

/-- With the settings kept from their zeros every number of rounds returns. -/
theorem mainRounds_of_divides (clocks : List Clock) {s : Incubator} (divides : RoundDivides s) :
    (mainRounds clocks s).isSome := by
  induction clocks generalizing s with
  | nil => rfl
  | cons clock clocks ih =>
      have first := (mainRound_restricts clock).divides s divides
      rw [mainRounds, List.foldlM_cons, first]
      exact ih (divides.mainRound clock)

end

end Jincubator
