import Jincubator.InitPara
import Jincubator.SetPointTables

/-! # The set points after a first start

A controller without a backup presets all eight tables. As long as they are left alone,
every set point then follows the rows of its table day by day, whichever time the loops
compare: the thirty times are the same in all tables.
-/

namespace Jincubator

open Footprint Incubator Timetable

namespace Preset

variable (p : Preset)

/-- The register of the set point. -/
def setting : Nat := Reg.pAoTpMain + (p.mode - 1).toNat

/-- The return-water tables hold differences. -/
def Relative : Prop := 5 ≤ p.mode

instance : Decidable p.Relative := inferInstanceAs (Decidable (_ ≤ _))

/-- The set point of a row, from the values of the source. -/
def rowValue (row : Nat) : Int :=
  if p.Relative then sPreTpMain.values.getD row 0 + p.values.getD row 0 else p.values.getD row 0

end Preset

/-- The row of a day and hour: one a day, and the last one afterwards. -/
def dayRow (day : Int) : Nat := min 29 (day / 100).toNat

/-- The tables are as they were preset. -/
def PresetTables (s : Incubator) : Prop := ∀ p ∈ presets, ∀ i, p.Holds i → s.reg i = p.image i

section

variable {s : Incubator} {p : Preset} {now : Int}

/-! ## The columns -/

theorem image_rows : ∀ p ∈ presets, ∀ i < 30,
    (p.Holds (p.day + i * 2) ∧ p.image (p.day + i * 2) = BitVec.ofNat 16 (100 * i)) ∧
      p.Holds (p.val + i * 2) ∧
      p.image (p.val + i * 2) = BitVec.ofInt 16 (p.values.getD i 0) := by
  decide +kernel

theorem PresetTables.day (preset : PresetTables s) (mem : p ∈ presets) {i : Nat} (row : i < 30) :
    column p.day s i = 100 * i := by
  obtain ⟨⟨held, image⟩, -⟩ := image_rows p mem i row
  rw [column, getUval_eq, preset p mem _ held, image, BitVec.toNat_ofNat]
  omega

theorem PresetTables.value (preset : PresetTables s) (mem : p ∈ presets) {i : Nat} (row : i < 30) :
    s.getVal (p.val + i * 2) = short (p.values.getD i 0) := by
  obtain ⟨-, held, image⟩ := image_rows p mem i row
  rw [getVal_eq, preset p mem _ held, image, short]

theorem PresetTables.ordered (preset : PresetTables s) (mem : p ∈ presets) :
    Ordered (column p.day s) setParaDay 29 where
  inside := by decide
  increasing := by
    intro i before
    rw [preset.day mem (by omega), preset.day mem (by omega)]
    push_cast
    omega
  ended := by
    intro more
    exact absurd more (by decide)

theorem PresetTables.current (preset : PresetTables s) (mem : p ∈ presets) (nonneg : 0 ≤ now) :
    current (column p.day s) 29 now = dayRow now := by
  have come (i : Nat) (row : i ≤ 29) : column p.day s i ≤ now ↔ i ≤ (now / 100).toNat := by
    rw [preset.day mem (by omega)]
    omega
  rw [Timetable.current, Nat.findGreatest_eq_iff, dayRow]
  refine ⟨min_le_left _ _, fun _ => ?_, ?_⟩
  · exact (come _ (min_le_left _ _)).mpr (min_le_right _ _)
  · intro i after used reached
    have early := (come i used).mp reached
    omega

/-- In every table the time of the row before has come. -/
theorem PresetTables.search {q : Preset} (preset : PresetTables s) (mem : p ∈ presets)
    (other : q ∈ presets) (nonneg : 0 ≤ now) :
    search (column q.day s) (column p.day s) setParaDay now = some (dayRow now) := by
  have start : column p.day s 0 = 0 := preset.day mem (by decide)
  rw [← preset.current mem nonneg]
  refine (preset.ordered mem).search_eq_current (start.trans_le nonneg) start.ge ?_
  rw [preset.current mem nonneg]
  rcases Nat.eq_zero_or_pos (dayRow now) with first | later
  · exact Or.inl first
  · right
    have row : dayRow now ≤ 29 := min_le_left _ _
    have day : dayRow now ≤ (now / 100).toNat := min_le_right _ _
    rw [preset.day other (by omega)]
    omega

/-! ## The set points -/

/-- The temperature table is looked at first, and none of its rows is missed. -/
theorem PresetTables.mainSetPoint (preset : PresetTables s) :
    mainSetPoint s = sPreTpMain.values.getD (dayRow (s.getUval Reg.rRunDay)) 0 := by
  have mem : sPreTpMain ∈ presets := List.mem_cons_self
  have nonneg : 0 ≤ s.getUval Reg.rRunDay := Int.natCast_nonneg _
  have start : column Reg.pSetTpMainDay s 0 = 0 := preset.day mem (by decide)
  have row : tempRow s = dayRow (s.getUval Reg.rRunDay) := by
    have found := preset.search mem mem nonneg
    have late : ¬s.getUval Reg.rRunDay < column Reg.pSetTpMainDay s 0 := by
      rw [start]
      exact not_lt.mpr nonneg
    simp only [tempRow, if_neg late]
    exact congrArg (Option.getD · 0) found
  have inside : dayRow (s.getUval Reg.rRunDay) < 30 := Nat.lt_succ_of_le (min_le_left _ _)
  have plain : ∀ i < 30, short (sPreTpMain.values.getD i 0) = sPreTpMain.values.getD i 0 := by
    decide
  rw [Jincubator.mainSetPoint, row]
  exact (preset.value mem inside).trans (plain _ inside)

/-- The loop over a table, beside the column that it takes for the row before. -/
def Preset.loop (p head : Preset) : Table :=
  ⟨head.day, p.day, p.val, decide p.Relative, p.setting⟩

theorem tables_eq : tables =
    [sPreHm.loop sPreTpMain, sPreCo.loop sPreTpMain, sPreAd.loop sPreTpMain,
      sPreTpRf1.loop sPreTpMain, sPreTpRf2.loop sPreTpMain, sPreTpRf3.loop sPreTpRf3,
      sPreTpRf4.loop sPreTpRf4] := rfl

/-- Every table but that of the temperature has its loop. -/
theorem exists_loop (mem : p ∈ presets) (other : p.mode ≠ 1) :
    ∃ head ∈ presets, p.loop head ∈ tables := by
  rw [tables_eq]
  simp only [presets, List.mem_cons, List.not_mem_nil, or_false] at mem
  rcases mem with rfl | rfl | rfl | rfl | rfl | rfl | rfl | rfl
  · exact absurd rfl other
  · exact ⟨sPreTpMain, by simp [presets], by simp⟩
  · exact ⟨sPreTpMain, by simp [presets], by simp⟩
  · exact ⟨sPreTpMain, by simp [presets], by simp⟩
  · exact ⟨sPreTpMain, by simp [presets], by simp⟩
  · exact ⟨sPreTpMain, by simp [presets], by simp⟩
  · exact ⟨sPreTpRf3, by simp [presets], by simp⟩
  · exact ⟨sPreTpRf4, by simp [presets], by simp⟩

/-- No value of a row is cut when it is stored. -/
theorem rowValue_fits : ∀ p ∈ presets, ∀ row < 30,
    short (p.values.getD row 0) = p.values.getD row 0 ∧
      short (p.rowValue row) = p.rowValue row := by
  decide +kernel

/-- Every set point is that of the day. -/
theorem PresetTables.follows (preset : PresetTables s) (mem : p ∈ presets) :
    (updateSetPara s).getVal p.setting = p.rowValue (dayRow (s.getUval Reg.rRunDay)) := by
  have row : dayRow (s.getUval Reg.rRunDay) < 30 := Nat.lt_succ_of_le (min_le_left _ _)
  have main := preset.mainSetPoint
  by_cases other : p.mode = 1
  · have first : p = sPreTpMain := by
      simp only [presets, List.mem_cons, List.not_mem_nil, or_false] at mem
      rcases mem with rfl | rfl | rfl | rfl | rfl | rfl | rfl | rfl
      · rfl
      all_goals exact absurd other (by decide)
    subst first
    exact (getVal_mainSetPoint s).trans main
  · obtain ⟨head, headMem, loop⟩ := exists_loop mem other
    have nonneg : 0 ≤ s.getUval Reg.rRunDay := Int.natCast_nonneg _
    have found := preset.search mem headMem nonneg
    have value := preset.value mem row
    have fits := rowValue_fits p mem _ row
    have set := getVal_setting s loop
    simp only [Preset.loop, found] at set
    rw [set, main]
    simp only [Preset.rowValue, Table.value, value] at fits ⊢
    by_cases relative : p.Relative
    · simp only [relative, decide_true, if_true, fits.1] at fits ⊢
      exact fits.2
    · simp only [relative, decide_false, if_false, fits.1, Bool.false_eq_true]

end

/-- After a first start every set point is, on every day and in every mode of the other registers,
that of the preset row of the day: the tables are left alone until the operator changes them. -/
theorem firstStart_follows (md5 : List Byte → List Byte) (disk : Disk) (pt : Fin 6 → Pt100Para)
    (now : Int) (s t u : Incubator) (booted : initPara md5 disk pt now s = some t)
    (blank : ∀ p ∈ presets, p.Empty (initParaRestore md5 disk s).memory)
    (kept : ∀ p ∈ presets, ∀ i, p.Holds i → u.reg i = t.reg i) :
    ∀ p ∈ presets, (updateSetPara u).getVal p.setting =
      p.rowValue (dayRow (u.getUval Reg.rRunDay)) := by
  obtain ⟨-, rfl⟩ := initPara_eq booted
  have preset : PresetTables u := by
    intro p mem i held
    rw [kept p mem i held, initParaEnd_reg now pt _ (tables_lasting mem held),
      bootValue_of_holds mem held, if_pos (blank p mem)]
  intro p mem
  exact preset.follows mem

/-- On the first day of a controller without a backup. -/
theorem firstStart_follows_blank : ∃ t, initPara (fun _ => []) noBackup noPara 0 cleared = some t ∧
    ∀ p ∈ presets, (updateSetPara t).getVal p.setting =
      p.rowValue (dayRow (t.getUval Reg.rRunDay)) := by
  have booted := initPara_of_open noPara 0
    (show (initParaRestore (fun _ => []) noBackup cleared).memory.getVal Reg.rSyncHatchMode = 0 by
      decide)
  refine ⟨_, booted, ?_⟩
  refine firstStart_follows (fun _ => []) noBackup noPara 0 cleared _ _ booted ?_ fun _ _ _ _ => rfl
  intro p _
  rw [restore_noBackup]
  exact fun _ _ => rfl

end Jincubator
