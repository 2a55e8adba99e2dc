import Jincubator.Damper
import Jincubator.Humidity
import Jincubator.Temperature
import Jincubator.Timer
import Mathlib.Order.Interval.Finset.Nat

/-! # The on-time of an output

A counter is loaded with the length of the cycle, the word after it with the time that
the output is off. The output is on as long as the counter is not below that time, and
this includes the second in which it equals it: one second more than was asked for.
-/

namespace Jincubator

open Incubator Rounding

/-! ## The four outputs -/

def CountJumps (s : Incubator) : Prop :=
  FilterJump (s.getInt Reg.pidTempOldFilterValue) (s.getInt Reg.pidTempNewFilterValue)

instance (s : Incubator) : Decidable (CountJumps s) := inferInstanceAs (Decidable (FilterJump _ _))

inductive PidOutput where
  | mainHeat
  | cool
  | dbOpen
  | dbClose

namespace PidOutput

def count : PidOutput → Nat
  | mainHeat => Reg.pidOnCountMainHeater
  | cool => Reg.pidOnCountCool
  | dbOpen => Reg.pidOnCountDbOpen
  | dbClose => Reg.pidOnCountDbClose

/-- The counter and the idle time. -/
def pair (o : PidOutput) : List Nat := [o.count, o.count + 1]

def demand : PidOutput → Nat
  | mainHeat => Reg.pidTempMainHeater
  | cool => Reg.pidTempCool
  | dbOpen => Reg.pidTempDbOpen
  | dbClose => Reg.pidTempDbClose

/-- The heater is always asked for, the others if their duty is not zero. -/
def Asked (o : PidOutput) (s : Incubator) : Prop :=
  match o with
  | mainHeat => s.getUval mainHeat.demand ≥ 0
  | cool => s.getUval cool.demand ≠ 0
  | dbOpen => s.getUval dbOpen.demand ≠ 0
  | dbClose => s.getUval dbClose.demand ≠ 0

instance : (o : PidOutput) → (s : Incubator) → Decidable (o.Asked s)
  | mainHeat, _ => inferInstanceAs (Decidable (_ ≥ _))
  | cool, _ => inferInstanceAs (Decidable (_ ≠ _))
  | dbOpen, _ => inferInstanceAs (Decidable (_ ≠ _))
  | dbClose, _ => inferInstanceAs (Decidable (_ ≠ _))

/-- The part of the cycle that is asked for. -/
def scale (o : PidOutput) (s : Incubator) : ℚ :=
  let new := s.getInt Reg.pidTempNewFilterValue
  match o with
  | mainHeat => single (s.getUval Reg.pidTempMainHeater / 1000)
  | cool => single (int32 (5000 - new) / 5000)
  | dbOpen => single (int32 (5000 - new) / 5000)
  | dbClose => single (int32 (new - 5000) / 5000)

/-- What the other outputs are loaded with. -/
def others (o : PidOutput) : List Nat := reloadWrites.filter (· ∉ o.pair)

end PidOutput

/-! ## One call -/

section

variable {o : PidOutput} {s t u : Incubator}

/-- The counters are loaded one after the other. -/
def loading (s : Incubator) : PidOutput → Incubator → Incubator
  | o, t => reloadCount (o.Asked t) (CountJumps s) o.count (o.scale s) t

theorem reloadCounts_eq (s : Incubator) : reloadCounts s =
    setInt Reg.pidTempOldFilterValue (s.getInt Reg.pidTempNewFilterValue)
      (s |> loading s .mainHeat |> loading s .cool |> loading s .dbOpen |> loading s .dbClose) :=
  rfl

theorem loading_within (s : Incubator) (o : PidOutput) (t : Incubator) :
    Within o.pair t (loading s o t) := by
  simp [loading, PidOutput.pair]

@[simp] theorem within_loading {writes : List Nat} (allowed : o.pair ⊆ writes) :
    Within writes s (loading u o t) ↔ Within writes s t :=
  (loading_within u o t).skip allowed

/-- Each counter is loaded beside the others. -/
theorem reloadCounts_split (o : PidOutput) (s : Incubator) : ∃ t, Within o.others s t ∧
    Within o.others (loading s o t) (reloadCounts s) := by
  rw [reloadCounts_eq]
  cases o with
  | mainHeat =>
      refine ⟨s, Within.refl _ _, ?_⟩
      simp (disch := decide) only [within_setInt, within_loading]
      exact Within.refl _ _
  | cool =>
      refine ⟨loading s .mainHeat s, ?_, ?_⟩
      · simp (disch := decide) only [within_loading, Within.refl]
      · simp (disch := decide) only [within_setInt, within_loading]
        exact Within.refl _ _
  | dbOpen =>
      refine ⟨s |> loading s .mainHeat |> loading s .cool, ?_, ?_⟩
      · simp (disch := decide) only [within_loading, Within.refl]
      · simp (disch := decide) only [within_setInt, within_loading]
        exact Within.refl _ _
  | dbClose =>
      refine ⟨s |> loading s .mainHeat |> loading s .cool |> loading s .dbOpen, ?_, ?_⟩
      · simp (disch := decide) only [within_loading, Within.refl]
      · simp (disch := decide) only [within_setInt]
        exact Within.refl _ _

theorem count_apart (o : PidOutput) :
    o.count ∉ o.others ∧ o.count + 1 ∉ o.others ∧ o.demand ∉ o.others ∧
      Reg.pTempTo ∉ o.others := by
  cases o <;> decide

theorem asked_within (st : Within o.others s t) (asked : o.Asked s) : o.Asked t := by
  have same := st.getUval (count_apart o).2.2.1
  cases o with
  | mainHeat => exact asked.trans_eq same.symm
  | cool => exact fun none => asked (same.symm.trans none)
  | dbOpen => exact fun none => asked (same.symm.trans none)
  | dbClose => exact fun none => asked (same.symm.trans none)

/-- A counter that has not run down is left alone. -/
theorem reloadCounts_runs (asked : o.Asked s) (still : ¬CountJumps s)
    (runs : s.getUval o.count ≠ 0) :
    (reloadCounts s).getUval o.count = s.getUval o.count ∧
      (reloadCounts s).getUval (o.count + 1) = s.getUval (o.count + 1) := by
  obtain ⟨t, before, after⟩ := reloadCounts_split o s
  obtain ⟨count, idle, -, -⟩ := count_apart o
  have left : loading s o t = t := by
    rw [loading, reloadCount, if_pos (asked_within before asked),
      if_neg (by rw [before.getUval count]; exact not_or.mpr ⟨runs, still⟩)]
  rw [after.getUval count, after.getUval idle, left, before.getUval count, before.getUval idle]
  exact ⟨rfl, rfl⟩

/-- A counter that has run down is loaded. -/
theorem reloadCounts_loads {c n : Nat} (asked : o.Asked s) (empty : s.getUval o.count = 0)
    (cycle : short (s.getUval Reg.pTempTo) = c) (onTime : scaled c (o.scale s) = n)
    (positive : 1 ≤ n) (rest : n < c) :
    (reloadCounts s).getUval o.count = c ∧
      (reloadCounts s).getUval (o.count + 1) = (c - n : Nat) := by
  obtain ⟨t, before, after⟩ := reloadCounts_split o s
  obtain ⟨count, idle, -, table⟩ := count_apart o
  have fits : (c : Int) < 32768 := by
    have bound := (BitVec.ofInt 16 (s.getUval Reg.pTempTo)).toInt_lt
    rw [short] at cycle
    omega
  have loaded : loading s o t = setUval o.count c (setUval (o.count + 1) (c - n) t) := by
    rw [loading, reloadCount, if_pos (asked_within before asked),
      if_pos (.inl ((before.getUval count).trans empty)), loadCount, before.getUval table, cycle,
      onTime]
    exact if_pos (by omega)
  rw [after.getUval count, after.getUval idle, loaded, setUval_eq, setUval_eq,
    getUval_setVal_self, getUval_setVal_of_ne _ _ (Nat.succ_ne_self _), getUval_setVal_self,
    ushort_of_range (by omega), ushort_of_range (by omega)]
  exact ⟨rfl, by omega⟩

/-! ## A round of the main loop -/

/-- The control functions that decide about the four outputs, in their order. -/
def outputRound (s : Incubator) : Incubator :=
  s |> logicProcessTempFunc |> logicProcessHumiFunc |> damperControlFunc

/-- The registers as the counters are looked at. -/
def entry (s : Incubator) : Incubator := s |> auxHeatFunc |> pidTempInit |> pidAirDoorOpen

/-- The temperature is in its band, the output is asked for and the filtered value is still. -/
structure Steady (o : PidOutput) (s : Incubator) : Prop where
  inside : InTempBand s
  asked : o.Asked (entry s)
  still : ¬CountJumps (entry s)

theorem entry_within (s : Incubator) :
    Within (Reg.controlAuxHeat :: Reg.pidAdOpenStatus :: pidTempWrites) s (entry s) := by
  simp (disch := decide) only [entry, within_pidAirDoorOpen, within_pidTempInit,
    within_auxHeatFunc, Within.refl]

/-- What a round writes after the counters were loaded. -/
def laterWrites : List Nat :=
  Reg.controlMainHeat :: Reg.controlCool :: Reg.sSyncMotorControlrunFreq ::
    (logicHumiWrites ++ damperWrites)

/-- Inside the band the rest of the round leaves the counters as they were loaded. -/
theorem outputRound_within (steady : Steady o s) :
    Within laterWrites (reloadCounts (entry s)) (outputRound s) := by
  have band : tempBandFunc (s.getVal Reg.rAiTpMain) (s.getVal Reg.pAoTpMain)
      ((s.getX10Val Reg.pTempP).tdiv 2) (auxHeatFunc s) = pidRange (auxHeatFunc s) := by
    obtain ⟨above, below⟩ := steady.inside
    rw [tempBandFunc, if_neg (not_lt.mpr above), if_pos ⟨above, below⟩]
  simp (disch := decide +kernel) only [outputRound, logicProcessTempFunc, band, pidRange,
    within_damperControlFunc, within_logicProcessHumiFunc, within_fanFrequency,
    within_controlCool, within_controlMainHeat]
  exact Within.refl _ _

theorem pair_apart (o : PidOutput) : ∀ r ∈ o.pair, r ∉ laterWrites ∧
    r ∉ Reg.controlAuxHeat :: Reg.pidAdOpenStatus :: pidTempWrites := by
  cases o <;> decide +kernel

theorem timer_apart (o : PidOutput) : (o.count ∈ secondTimes ∧ o.count ∉ secondCounts) ∧
    o.count + 1 ∉ secondWrites := by
  cases o <;> decide

/-! ## A cycle -/

/-- A round, then a second of the timer, a number of times; between two rounds everything else may
change. The first round loads the counter. -/
structure Cycle (o : PidOutput) (c n : Nat) (s : Nat → Incubator) : Prop where
  steady : ∀ k < c, Steady o (s k)
  empty : (s 0).getUval o.count = 0
  cycle : short ((s 0).getUval Reg.pTempTo) = c
  onTime : scaled c (o.scale (entry (s 0))) = n
  next : ∀ k < c, ∀ r ∈ o.pair, (s (k + 1)).getUval r = (second (outputRound (s k))).getUval r

/-- The counter runs until the end of the cycle, and the output is on for a number of seconds. -/
structure OnFor (o : PidOutput) (c m : Nat) (s : Nat → Incubator) : Prop where
  runs : ∀ k, 0 < k → k < c → (s k).getUval o.count ≠ 0
  ended : (s c).getUval o.count = 0
  seconds : ((Finset.range c).filter fun k => CountRuns o.count (outputRound (s k))).card = m

variable {c n : Nat} {states : Nat → Incubator}

/-- What a round does to the counter of an output. -/
theorem outputRound_runs (steady : Steady o s) (runs : s.getUval o.count ≠ 0) :
    (outputRound s).getUval o.count = s.getUval o.count ∧
      (outputRound s).getUval (o.count + 1) = s.getUval (o.count + 1) := by
  have count := pair_apart o o.count (by simp [PidOutput.pair])
  have idle := pair_apart o (o.count + 1) (by simp [PidOutput.pair])
  have later := outputRound_within steady
  have earlier := entry_within s
  have kept := reloadCounts_runs steady.asked steady.still (by rwa [earlier.getUval count.2])
  rw [later.getUval count.1, later.getUval idle.1, kept.1, kept.2, earlier.getUval count.2,
    earlier.getUval idle.2]
  exact ⟨rfl, rfl⟩

theorem outputRound_loads {c n : Nat} (steady : Steady o s) (empty : s.getUval o.count = 0)
    (cycle : short (s.getUval Reg.pTempTo) = c) (onTime : scaled c (o.scale (entry s)) = n)
    (positive : 1 ≤ n) (rest : n < c) :
    (outputRound s).getUval o.count = c ∧
      (outputRound s).getUval (o.count + 1) = (c - n : Nat) := by
  have count := pair_apart o o.count (by simp [PidOutput.pair])
  have idle := pair_apart o (o.count + 1) (by simp [PidOutput.pair])
  have later := outputRound_within steady
  have earlier := entry_within s
  rw [later.getUval count.1, later.getUval idle.1]
  exact reloadCounts_loads steady.asked (by rwa [earlier.getUval count.2])
    (by rwa [earlier.getUval (by decide)]) onTime positive rest

/-- The counter after a second. -/
theorem cycle_next {k : Nat} (cycle : Cycle o c n states) (before : k < c) :
    (states (k + 1)).getUval o.count =
        max 0 ((outputRound (states k)).getUval o.count - 1) ∧
      (states (k + 1)).getUval (o.count + 1) =
        (outputRound (states k)).getUval (o.count + 1) := by
  obtain ⟨⟨listed, apart⟩, idle⟩ := timer_apart o
  rw [cycle.next k before o.count (by simp [PidOutput.pair]), second_runsDown listed apart,
    cycle.next k before (o.count + 1) (by simp [PidOutput.pair]), (second_within _).getUval idle]
  exact ⟨rfl, rfl⟩

/-- In each second the counter has run down by the seconds before it. -/
theorem cycle_count (cycle : Cycle o c n states) (positive : 1 ≤ n) (rest : n < c) :
    ∀ k < c, (outputRound (states k)).getUval o.count = (c - k : Nat) ∧
      (outputRound (states k)).getUval (o.count + 1) = (c - n : Nat) := by
  intro k
  induction k with
  | zero =>
      intro before
      exact outputRound_loads (cycle.steady 0 before) cycle.empty cycle.cycle cycle.onTime positive
        rest
  | succ k ih =>
      intro before
      obtain ⟨count, idle⟩ := ih (by omega)
      obtain ⟨count', idle'⟩ := cycle_next cycle (show k < c by omega)
      rw [count] at count'
      have runs := outputRound_runs (cycle.steady (k + 1) before) (by omega)
      rw [runs.1, runs.2, count', idle', idle]
      exact ⟨by omega, rfl⟩

/-- The output is on for one second more than was asked for. -/
theorem cycle_onFor (cycle : Cycle o c n states) (positive : 1 ≤ n) (rest : n < c) :
    OnFor o c (n + 1) states := by
  have count := cycle_count cycle positive rest
  have next {k : Nat} (before : k < c) :
      (states (k + 1)).getUval o.count = (c - (k + 1) : Nat) := by
    rw [(cycle_next cycle before).1, (count k before).1]
    omega
  refine ⟨fun k started before => ?_, ?_, ?_⟩
  · obtain ⟨k, rfl⟩ := Nat.exists_eq_succ_of_ne_zero started.ne'
    rw [Nat.succ_eq_add_one, next (by omega)]
    omega
  · obtain ⟨k, rfl⟩ := Nat.exists_eq_succ_of_ne_zero (show c ≠ 0 by omega)
    rw [Nat.succ_eq_add_one, next (by omega), Nat.sub_self]
    rfl
  · have on : (Finset.range c).filter (fun k => CountRuns o.count (outputRound (states k))) =
        Finset.range (n + 1) := by
      ext k
      rw [Finset.mem_filter, Finset.mem_range, Finset.mem_range]
      constructor
      · rintro ⟨before, -, idle⟩
        rw [(count k before).1, (count k before).2] at idle
        omega
      · intro early
        have before : k < c := by omega
        rw [CountRuns, (count k before).1, (count k before).2]
        omega
    rw [on, Finset.card_range]

end

/-- In a cycle of `c` seconds that asks for `n` of them the output is on for `n + 1`, never for
`n`. -/
theorem onTime_never (o : PidOutput) (c n : Nat) (states : Nat → Incubator) (positive : 1 ≤ n)
    (rest : n < c) (cycle : Cycle o c n states) :
    OnFor o c (n + 1) states ∧ ¬OnFor o c n states := by
  have on := cycle_onFor cycle positive rest
  refine ⟨on, fun exact => ?_⟩
  have same := on.seconds.symm.trans exact.seconds
  omega

/-- A heater that is asked for six tenths of two seconds. -/
def heating (k : Nat) : Incubator :=
  cleared |> setUval Reg.pTempTo 2 |> setVal Reg.pTempP 1 |> setVal Reg.pAoTpMain 1
    |> setVal Reg.pTempOhi 100 |> setVal Reg.pHhi 10 |> setInt Reg.pidTempOldFilterValue 600
    |> setUval (Reg.pidOnCountMainHeater + 1) (if k = 0 then 0 else 1)
    |> setUval Reg.pidOnCountMainHeater (if k = 0 then 0 else 2 - k)

theorem heating_cycle : Cycle .mainHeat 2 1 heating where
  steady := by
    have inside : ∀ k < 2, InTempBand (heating k) := by decide +kernel
    have asked : ∀ k < 2, PidOutput.mainHeat.Asked (entry (heating k)) := by decide +kernel
    have still : ∀ k < 2, ¬CountJumps (entry (heating k)) := by decide +kernel
    exact fun k before => ⟨inside k before, asked k before, still k before⟩
  empty := by decide +kernel
  cycle := by decide +kernel
  onTime := by decide +kernel
  next := by decide +kernel

theorem onTime_never_heating : Cycle .mainHeat 2 1 heating ∧ ¬OnFor .mainHeat 2 1 heating :=
  ⟨heating_cycle, (onTime_never .mainHeat 2 1 heating (by decide) (by decide) heating_cycle).2⟩

/-- The heater is on in both seconds, although one was asked for. -/
theorem heater_on_too_long : ¬∀ (o : PidOutput) (c n : Nat) (states : Nat → Incubator),
    1 ≤ n → n < c → Cycle o c n states → OnFor o c n states := by
  intro onFor
  have asked := onFor .mainHeat 2 1 heating (by decide) (by decide) heating_cycle
  have seconds := (cycle_onFor heating_cycle (by decide) (by decide)).seconds
  exact absurd (asked.seconds.symm.trans seconds) (by decide)

end Jincubator
