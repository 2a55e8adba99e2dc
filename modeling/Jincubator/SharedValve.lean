import Jincubator.Channels

/-! # The valve between cold and hot water

Each enabled channel switches the common valve to the kind of water it is about to
use, so after a pass the valve stands as the last enabled channel left it. The
running incubator makes the same choice for all channels. While preheating each
channel chooses by its own set difference.
-/

namespace Jincubator

open Incubator

def allChannels : List (Fin 4) := List.finRange 4

/-- The four functions of a family in the order of the main loop. -/
def retempPass (kind : RetempKind) (s : Incubator) : Incubator :=
  allChannels.foldl (fun s i => retempFunc kind i s) s

theorem retempPass_normal : retempPass .normal = normalRetemp := rfl

theorem retempPass_pre : retempPass .pre = preRetemp := rfl

/-- The state in which a pass calls a channel. -/
def beforeChannel (kind : RetempKind) (i : Fin 4) (s : Incubator) : Incubator :=
  (allChannels.take i).foldl (fun s i => retempFunc kind i s) s

/-- The call of an enabled channel takes its branch for cold or for hot water. -/
def TookCold (kind : RetempKind) (i : Fin 4) (s : Incubator) : Prop :=
  Enabled i (beforeChannel kind i s) ∧ kind.Cold i (beforeChannel kind i s)

def TookHot (kind : RetempKind) (i : Fin 4) (s : Incubator) : Prop :=
  Enabled i (beforeChannel kind i s) ∧ ¬kind.Cold i (beforeChannel kind i s)

/-- After the pass the valve stands as every enabled channel needs it. -/
structure SharedValve (kind : RetempKind) (s : Incubator) : Prop where
  cold : ∀ i, TookCold kind i s → (retempPass kind s).getVal Reg.controlColdHotWater = off
  hot : ∀ i, TookHot kind i s → (retempPass kind s).getVal Reg.controlColdHotWater = on

section

variable {s t : Incubator} {kind : RetempKind} {i : Fin 4}

theorem foldl_retempFunc_within (l : List (Fin 4)) (s : Incubator) :
    Within retempWrites s (l.foldl (fun s i => retempFunc kind i s) s) := by
  induction l generalizing s with
  | nil => exact Within.refl _ _
  | cons i l ih => exact (retempFunc_within kind i s).trans (ih _)

theorem tookCold_iff (kind : RetempKind) (i : Fin 4) (s : Incubator) :
    TookCold kind i s ↔ Enabled i s ∧ kind.Cold i s := by
  have before : Within retempWrites s (beforeChannel kind i s) := foldl_retempFunc_within _ s
  rw [TookCold, enabled_within before, cold_within before]

theorem tookHot_iff (kind : RetempKind) (i : Fin 4) (s : Incubator) :
    TookHot kind i s ↔ Enabled i s ∧ ¬kind.Cold i s := by
  have before : Within retempWrites s (beforeChannel kind i s) := foldl_retempFunc_within _ s
  rw [TookHot, enabled_within before, cold_within before]

theorem preCold_iff (i : Fin 4) (s : Incubator) :
    RetempKind.pre.Cold i s ↔ 0 < s.getVal (Reg.pPreTpRf1 + 100 * i) := by
  show 0 < s.getFval _ ↔ _
  rw [getFval, Rounding.single_pos]
  have hundredths : (0 : ℚ) < 100 := by norm_num
  rw [lt_div_iff₀ hundredths, zero_mul, Int.cast_pos]

/-! ## One call -/

/-- The value that a channel needs. -/
def neededWater (kind : RetempKind) (i : Fin 4) (s : Incubator) : Int :=
  if kind.Cold i s then off else on

theorem neededWater_congr {j : Fin 4} (same : kind.Cold i t ↔ kind.Cold j s) :
    neededWater kind i t = neededWater kind j s := by
  simp only [neededWater, same]

theorem shared_apart (i : Fin 4) : Reg.controlColdHotWater ∉
    (reflux i).waterWrites (reflux i).hotInit (reflux i).valve ++
      (reflux i).waterWrites (reflux i).coldInit (reflux i).coldValve := by
  match i with
  | 0 | 1 | 2 | 3 => decide

theorem getVal_shared (kind : RetempKind) (i : Fin 4) (s : Incubator) :
    (retempFunc kind i s).getVal Reg.controlColdHotWater =
      if Enabled i s then neededWater kind i s else s.getVal Reg.controlColdHotWater := by
  have apart := shared_apart i
  simp only [List.mem_append, not_or] at apart
  obtain ⟨hot, cold⟩ := apart
  have valve : Reg.controlColdHotWater ∉ [cool2Output (reflux i).valve] := by
    intro mem
    exact hot (by simp [Reflux.waterWrites, List.mem_singleton.mp mem])
  have switched (init : Nat) (status : Int) :
      (controlColdHotWater status (setUval init 0 s)).getVal Reg.controlColdHotWater =
        short status := getVal_setVal_self _ _ _
  have idle : (controlCool2 (reflux i).valve off s).getVal Reg.controlColdHotWater =
      s.getVal Reg.controlColdHotWater := by
    have kept : Within [cool2Output (reflux i).valve] s (controlCool2 (reflux i).valve off s) := by
      rw [within_controlCool2 List.mem_cons_self]
      exact Within.refl _ _
    exact kept.getVal valve
  rw [retempFunc_eq, Reflux.logicProcessRetemp, neededWater]
  by_cases enabled : Enabled i s
  · have asked : s.reg Reg.refluxTemperature &&& (reflux i).mask ≠ 0 := enabled
    rw [if_pos asked, if_pos enabled]
    split
    · rw [Reflux.coldWater]
      split
      · exact ((Reflux.water_within _).getVal cold).trans (switched _ off)
      · exact switched _ off
    · rw [Reflux.hotWater]
      split
      · exact ((Reflux.water_within _).getVal hot).trans (switched _ on)
      · exact switched _ on
  · have unasked : ¬s.reg Reg.refluxTemperature &&& (reflux i).mask ≠ 0 := enabled
    rw [if_neg unasked, if_neg enabled]
    exact idle

/-! ## A pass -/

/-- Once the valve stands right for all enabled channels it stays so. -/
theorem foldl_settled {water : Int} (l : List (Fin 4)) (st : Within retempWrites s t)
    (agree : ∀ i, Enabled i s → neededWater kind i s = water)
    (settled : t.getVal Reg.controlColdHotWater = water) :
    (l.foldl (fun s i => retempFunc kind i s) t).getVal Reg.controlColdHotWater = water := by
  induction l generalizing t with
  | nil => exact settled
  | cons i l ih =>
      refine ih (st.trans (retempFunc_within kind i t)) ?_
      rw [getVal_shared]
      split
      · next enabled =>
        rw [neededWater_congr (cold_within st)]
        exact agree i ((enabled_within st).mp enabled)
      · exact settled

/-- The call of an enabled channel settles it. -/
theorem foldl_shared {water : Int} (l : List (Fin 4)) (st : Within retempWrites s t)
    (agree : ∀ i, Enabled i s → neededWater kind i s = water) (mem : i ∈ l)
    (enabled : Enabled i s) :
    (l.foldl (fun s i => retempFunc kind i s) t).getVal Reg.controlColdHotWater = water := by
  induction l generalizing t with
  | nil => cases mem
  | cons j l ih =>
      have after := st.trans (retempFunc_within kind j t)
      rcases List.mem_cons.mp mem with rfl | later
      · refine foldl_settled l after agree ?_
        rw [getVal_shared, if_pos ((enabled_within st).mpr enabled),
          neededWater_congr (cold_within st)]
        exact agree i enabled
      · exact ih after later

end

/-- A pass leaves the shared valve right for every enabled channel exactly if all enabled channels
choose the same water. -/
theorem sharedValve_iff (kind : RetempKind) (s : Incubator) :
    SharedValve kind s ↔
      ∀ i j, Enabled i s → Enabled j s → (kind.Cold i s ↔ kind.Cold j s) := by
  constructor
  · intro right
    have noMix {i j : Fin 4} (enabled : Enabled i s) (other : Enabled j s)
        (cold : kind.Cold i s) : kind.Cold j s := by
      by_contra hot
      have closed := right.cold i ((tookCold_iff kind i s).mpr ⟨enabled, cold⟩)
      rw [right.hot j ((tookHot_iff kind j s).mpr ⟨other, hot⟩)] at closed
      exact absurd closed (by decide)
    intro i j enabled other
    exact ⟨noMix enabled other, noMix other enabled⟩
  · intro agree
    have needed (i : Fin 4) (enabled : Enabled i s) :
        (retempPass kind s).getVal Reg.controlColdHotWater = neededWater kind i s := by
      refine foldl_shared allChannels (Within.refl _ s) ?_ (List.mem_finRange i) enabled
      intro j other
      exact neededWater_congr (agree j i other enabled)
    refine ⟨?_, ?_⟩
    · intro i took
      obtain ⟨enabled, cold⟩ := (tookCold_iff kind i s).mp took
      rw [needed i enabled, neededWater, if_pos cold]
    · intro i took
      obtain ⟨enabled, hot⟩ := (tookHot_iff kind i s).mp took
      rw [needed i enabled, neededWater, if_neg hot]

/-- A pass of the running incubator never mixes, one of the preheating does unless the set
differences of the enabled channels are all positive or none is. -/
theorem sharedValve_passes (s : Incubator) :
    SharedValve .normal s ∧
      (SharedValve .pre s ↔ ∀ i j : Fin 4, Enabled i s → Enabled j s →
        (0 < s.getVal (Reg.pPreTpRf1 + 100 * i) ↔ 0 < s.getVal (Reg.pPreTpRf1 + 100 * j))) := by
  rw [sharedValve_iff, sharedValve_iff]
  refine ⟨?_, ?_⟩
  · intro i j _ _
    exact Iff.rfl
  · simp only [preCold_iff]

/-- Preheating with two channels, one with a positive set difference. -/
def mixedWater : Incubator :=
  cleared |> setVal Reg.refluxTemperature 3 |> setVal Reg.pPreTpRf1 100

/-- The first channel cools while the shared valve is left at hot water. -/
theorem mixedWater_hot : ¬ ∀ kind s, SharedValve kind s := by
  intro law
  have agree := (sharedValve_iff .pre mixedWater).mp (law .pre mixedWater)
  have cold := (agree 0 1 (by decide) (by decide)).mp
    ((preCold_iff 0 mixedWater).mpr (by decide))
  exact absurd ((preCold_iff 1 mixedWater).mp cold) (by decide)

end Jincubator
