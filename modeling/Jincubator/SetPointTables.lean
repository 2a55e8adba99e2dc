import Jincubator.Library.Timetable
import Jincubator.Schedule

/-! # The rows that the set points follow

The loops over the tables are searches in timetables. The temperature loop has a
branch of its own for the time before its first row, but only in the first 29
rows: the last row is compared with whatever it holds. Five of the other seven
loops take the time of the row before from the temperature table.
-/

namespace Jincubator

open Incubator Timetable

/-- A column of a table; times and values take turns. -/
def column (base : Nat) (s : Incubator) (i : Nat) : Int := s.getUval (base + i * 2)

/-- A table with the column that its loop takes for the row before. -/
structure Table where
  head : Nat
  day : Nat
  val : Nat
  /-- The values are differences from the main temperature. -/
  relative : Bool
  setting : Nat

/-- The set point of a row, beside the main temperature `main`. -/
def Table.value (T : Table) (main : Int) (i : Nat) (s : Incubator) : Int :=
  if T.relative then short (main + s.getVal (T.val + i * 2)) else s.getVal (T.val + i * 2)

def Table.update (T : Table) (now : Int) (s : Incubator) : Incubator :=
  updateRow T.head T.day now (fun i s => T.value (s.getVal Reg.pAoTpMain) i s) T.setting s

/-- The tables whose loops look at the temperature table. -/
def mixedTables : List Table :=
  [⟨Reg.pSetTpMainDay, Reg.pSetHmDay, Reg.pSetHmVal, false, Reg.pAoHm⟩,
    ⟨Reg.pSetTpMainDay, Reg.pSetCoDay, Reg.pSetCoVal, false, Reg.pAoCo⟩,
    ⟨Reg.pSetTpMainDay, Reg.pSetAdDay, Reg.pSetAdVal, false, Reg.pAoAd⟩,
    ⟨Reg.pSetTpMainDay, Reg.pSetTpRf1Day, Reg.pSetTpRf1Val, true, Reg.pAoTpRf1⟩,
    ⟨Reg.pSetTpMainDay, Reg.pSetTpRf2Day, Reg.pSetTpRf2Val, true, Reg.pAoTpRf2⟩]

/-- The tables whose loops look at their own times only. -/
def ownTables : List Table :=
  [⟨Reg.pSetTpRf3Day, Reg.pSetTpRf3Day, Reg.pSetTpRf3Val, true, Reg.pAoTpRf3⟩,
    ⟨Reg.pSetTpRf4Day, Reg.pSetTpRf4Day, Reg.pSetTpRf4Val, true, Reg.pAoTpRf4⟩]

def tables : List Table := mixedTables ++ ownTables

theorem update_plain (head day val setting : Nat) (now : Int) (s : Incubator) :
    (Table.mk head day val false setting).update now s =
      updateRow head day now (tableValue val) setting s := rfl

theorem update_relative (head day val setting : Nat) (now : Int) (s : Incubator) :
    (Table.mk head day val true setting).update now s =
      updateRow head day now (refluxValue val) setting s := rfl

theorem updateSetPara_eq (s : Incubator) :
    updateSetPara s =
      tables.foldl (fun t T => T.update (s.getUval Reg.rRunDay) t)
        (updateTempRow (s.getUval Reg.rRunDay) (List.range setParaDay) (initSetPara s)) := by
  simp only [tables, mixedTables, ownTables, List.cons_append, List.nil_append, List.foldl_cons,
    List.foldl_nil, update_plain, update_relative]
  rw [updateSetPara]

/-! ## Searches -/

section

variable {s t : Incubator} {headDay day : Nat} {now : Int}

/-- Writing set points leaves the tables. -/
theorem table_untouched {i : Nat} (high : 1000 ≤ i) : i ∉ setPoints := by
  intro mem
  have first : Reg.pAoTpMain = 100 := rfl
  have low := List.mem_range'.mp mem
  omega

theorem column_within {base : Nat} (st : Within setPoints s t) (high : 1000 ≤ base) :
    column base t = column base s := by
  funext i
  exact st.getUval (table_untouched (Nat.le_add_right_of_le high))

theorem column_nonneg (base : Nat) (s : Incubator) (i : Nat) : 0 ≤ column base s i :=
  Int.natCast_nonneg _

/-- The condition of the loops is that of a timetable. -/
theorem rowInForce_iff (nonneg : 0 ≤ now) (s : Incubator) (i : Nat) :
    RowInForce headDay day now s i ↔
      InForce (column headDay s) (column day s) setParaDay now i := by
  have rows : i < setParaDay - 1 ↔ i + 1 < setParaDay := Nat.lt_sub_iff_add_lt
  rw [RowInForce, InForce, rows]
  cases i with
  | zero =>
      refine and_congr ?_ Iff.rfl
      exact iff_of_true nonneg fun later => absurd later (lt_irrefl 0)
  | succ i =>
      refine and_congr ?_ Iff.rfl
      exact (imp_iff_right (Nat.succ_pos i)).symm

theorem find_eq_search (nonneg : 0 ≤ now) (s : Incubator) :
    ((List.range setParaDay).find? fun i => RowInForce headDay day now s i) =
      search (column headDay s) (column day s) setParaDay now := by
  have same : (fun i => decide (RowInForce headDay day now s i)) =
      fun i => decide (InForce (column headDay s) (column day s) setParaDay now i) := by
    funext i
    exact decide_eq_decide.mpr (rowInForce_iff nonneg s i)
  rw [same, search]

theorem short_value (T : Table) (main : Int) (i : Nat) (s : Incubator) :
    short (T.value main i s) = T.value main i s := by
  rw [Table.value]
  split
  · rw [short, short, BitVec.ofInt_toInt]
  · exact short_getVal s _

theorem Table.value_within (T : Table) (st : Within setPoints s t) (high : 1000 ≤ T.val)
    (main : Int) (i : Nat) : T.value main i t = T.value main i s := by
  rw [Table.value, Table.value, st.getVal (table_untouched (Nat.le_add_right_of_le high))]

/-- The value of the row that the search finds, or the value from before. -/
theorem getVal_update (T : Table) (nonneg : 0 ≤ now) (s : Incubator) :
    (T.update now s).getVal T.setting =
      match search (column T.head s) (column T.day s) setParaDay now with
      | some i => T.value (s.getVal Reg.pAoTpMain) i s
      | none => s.getVal T.setting := by
  rw [Table.update, updateRow, find_eq_search nonneg]
  cases search (column T.head s) (column T.day s) setParaDay now with
  | none => rfl
  | some i =>
      show (setUval T.setting _ s).getVal T.setting = _
      rw [setUval_eq, getVal_setVal_self, short_value]

theorem update_within (T : Table) (now : Int) (s : Incubator) :
    Within [T.setting] s (T.update now s) := by
  rw [Table.update, within_updateRow List.mem_cons_self]
  exact Within.refl _ _

theorem foldl_update_within (l : List Table) (now : Int) (s : Incubator) :
    Within (l.map Table.setting) s (l.foldl (fun s T => T.update now s) s) := by
  induction l generalizing s with
  | nil => exact Within.refl _ _
  | cons A l ih =>
      have first := (update_within A now s).mono
        (show [A.setting] ⊆ A.setting :: l.map Table.setting by simp)
      exact first.trans ((ih (A.update now s)).mono (List.subset_cons_self _ _))

/-- Each table writes its own set point. -/
theorem foldl_update (l : List Table) (distinct : (l.map Table.setting).Nodup) (now : Int)
    (s : Incubator) {T : Table} (mem : T ∈ l) :
    ∃ u, Within ((l.map Table.setting).erase T.setting) s u ∧
      (l.foldl (fun s T => T.update now s) s).getVal T.setting =
        (T.update now u).getVal T.setting := by
  induction l generalizing s with
  | nil => cases mem
  | cons A l ih =>
      rw [List.map_cons, List.nodup_cons] at distinct
      rcases List.mem_cons.mp mem with rfl | later
      · refine ⟨s, Within.refl _ _, ?_⟩
        exact (foldl_update_within l now (T.update now s)).getVal distinct.1
      · have other : A.setting ≠ T.setting := by
          intro same
          exact distinct.1 (same ▸ List.mem_map_of_mem later)
        obtain ⟨u, before, last⟩ := ih distinct.2 (A.update now s) later
        refine ⟨u, ?_, last⟩
        rw [List.map_cons, List.erase_cons_tail (by simpa using other)]
        have first := (update_within A now s).mono
          (show [A.setting] ⊆ A.setting :: (l.map Table.setting).erase T.setting by simp)
        exact first.trans (before.mono (List.subset_cons_self _ _))

end

/-! ## The temperature table -/

/-- The row whose value becomes the main set point: before the first time it is the first row,
unless the last row is in force. -/
def tempRow (s : Incubator) : Nat :=
  let time := column Reg.pSetTpMainDay s
  let now := s.getUval Reg.rRunDay
  if now < time 0 then
    if InForce time time setParaDay now (setParaDay - 1) then setParaDay - 1 else 0
  else (search time time setParaDay now).getD 0

/-- The main set point that the temperature table asks for. -/
def mainSetPoint (s : Incubator) : Int := s.getVal (Reg.pSetTpMainVal + tempRow s * 2)

section

variable {s : Incubator} {now : Int}

/-- From the first time on the loop is a search. -/
theorem updateTempRow_late (rows : List Nat) (s : Incubator)
    (late : s.getUval Reg.pSetTpMainDay ≤ now) :
    updateTempRow now rows s =
      match rows.find? (fun i => RowInForce Reg.pSetTpMainDay Reg.pSetTpMainDay now s i) with
      | some i => setUval Reg.pAoTpMain (s.getVal (Reg.pSetTpMainVal + i * 2)) s
      | none => s := by
  induction rows with
  | nil => rfl
  | cons i rest ih =>
      rw [updateTempRow, if_neg fun early => absurd early.2 (not_lt.mpr late), List.find?_cons]
      by_cases force : RowInForce Reg.pSetTpMainDay Reg.pSetTpMainDay now s i
      · rw [if_pos force, decide_eq_true force]
      · rw [if_neg force, decide_eq_false force]
        exact ih

/-- Before the first time the rows but the last take the first value. -/
theorem updateTempRow_early (rows : List Nat) (inner : ∀ i ∈ rows, i < setParaDay - 1)
    (s : Incubator) (early : now < s.getUval Reg.pSetTpMainDay)
    (first : s.getVal Reg.pAoTpMain = s.getVal Reg.pSetTpMainVal) :
    ∃ t, Within setPoints s t ∧ t.getVal Reg.pAoTpMain = s.getVal Reg.pSetTpMainVal ∧
      updateTempRow now (rows ++ [setParaDay - 1]) s =
        updateTempRow now [setParaDay - 1] t := by
  induction rows generalizing s with
  | nil => exact ⟨s, Within.refl _ _, first, rfl⟩
  | cons i rest ih =>
      have here := inner i List.mem_cons_self
      have written : Within setPoints s
          (setUval Reg.pAoTpMain (s.getVal Reg.pSetTpMainVal) s) := by
        rw [within_setUval (by decide)]
        exact Within.refl _ _
      have day := written.getUval (table_untouched (show 1000 ≤ Reg.pSetTpMainDay by decide))
      have value := written.getVal (table_untouched (show 1000 ≤ Reg.pSetTpMainVal by decide))
      obtain ⟨t, later, kept, run⟩ := ih (fun j mem => inner j (List.mem_cons_of_mem _ mem))
        (setUval Reg.pAoTpMain (s.getVal Reg.pSetTpMainVal) s) (by rwa [day])
        (by rw [value, setUval_eq, getVal_setVal_self, short_getVal])
      refine ⟨t, written.trans later, kept.trans value, ?_⟩
      rw [List.cons_append, updateTempRow, if_pos ⟨here, early⟩]
      exact run

/-- The temperature loop leaves the value of its row. -/
theorem getVal_updateTempRow (s : Incubator) (now_eq : s.getUval Reg.rRunDay = now)
    (first : s.getVal Reg.pAoTpMain = s.getVal Reg.pSetTpMainVal) :
    (updateTempRow now (List.range setParaDay) s).getVal Reg.pAoTpMain = mainSetPoint s := by
  have nonneg : 0 ≤ now := by
    rw [← now_eq]
    exact Int.natCast_nonneg _
  rw [mainSetPoint, tempRow, now_eq]
  by_cases early : now < column Reg.pSetTpMainDay s 0
  · rw [if_pos early]
    obtain ⟨t, kept, value, run⟩ := updateTempRow_early (List.range (setParaDay - 1))
      (fun i mem => List.mem_range.mp mem) s early first
    have rows : List.range setParaDay = List.range (setParaDay - 1) ++ [setParaDay - 1] := by
      decide
    have same : RowInForce Reg.pSetTpMainDay Reg.pSetTpMainDay now t (setParaDay - 1) ↔
        InForce (column Reg.pSetTpMainDay s) (column Reg.pSetTpMainDay s) setParaDay now
          (setParaDay - 1) := by
      rw [rowInForce_iff nonneg, column_within kept (by decide)]
    have last := table_untouched (show 1000 ≤ Reg.pSetTpMainVal + (setParaDay - 1) * 2 by decide)
    rw [rows, run, updateTempRow, if_neg fun inner => absurd inner.1 (lt_irrefl _)]
    by_cases force : RowInForce Reg.pSetTpMainDay Reg.pSetTpMainDay now t (setParaDay - 1)
    · rw [if_pos force, if_pos (same.mp force), setUval_eq, getVal_setVal_self, short_getVal,
        kept.getVal last]
    · rw [if_neg force, if_neg (mt same.mpr force)]
      exact value
  · rw [if_neg early, updateTempRow_late _ _ (not_lt.mp early), find_eq_search nonneg]
    cases search (column Reg.pSetTpMainDay s) (column Reg.pSetTpMainDay s) setParaDay now with
    | none => exact first
    | some i =>
        show (setUval _ _ s).getVal _ = _
        rw [setUval_eq, getVal_setVal_self, short_getVal]
        rfl

/-! ## The set points after a call -/

theorem initSetPara_within (s : Incubator) : Within setPoints s (initSetPara s) := by
  simp (disch := decide) only [initSetPara, within_setUval, Within.refl]

theorem mainSetPoint_within {t : Incubator} (st : Within setPoints s t) :
    mainSetPoint t = mainSetPoint s := by
  have rows : tempRow t = tempRow s := by
    rw [tempRow, tempRow, column_within st (by decide), st.getUval (by decide)]
  rw [mainSetPoint, mainSetPoint, rows,
    st.getVal (table_untouched (Nat.le_add_right_of_le (by decide)))]

/-- Sums of registers do not depend on how they are read. -/
theorem short_add_getUval (i j : Nat) (s : Incubator) :
    short (s.getUval i + s.getUval j) = short (s.getVal i + s.getVal j) := by
  rw [short, short, BitVec.ofInt_add, BitVec.ofInt_add, ofInt_getUval, ofInt_getUval,
    getVal_eq, getVal_eq, BitVec.ofInt_toInt, BitVec.ofInt_toInt]

/-- What the loops start from: the first row of each table. -/
theorem getVal_initSetPara (s : Incubator) :
    (initSetPara s).getVal Reg.pAoTpMain = s.getVal Reg.pSetTpMainVal ∧
      ∀ T ∈ tables, (initSetPara s).getVal T.setting =
        T.value (s.getVal Reg.pSetTpMainVal) 0 s := by
  have plain (i : Nat) : short (s.getUval i) = s.getVal i := (getVal_eq_short s i).symm
  refine ⟨?_, ?_⟩
  · simp (disch := decide) only [initSetPara, setUval_eq, getVal_setVal_of_ne, getVal_setVal_self,
      plain]
  · intro T mem
    simp only [tables, mixedTables, ownTables, List.cons_append, List.nil_append, List.mem_cons,
      List.not_mem_nil, or_false] at mem
    rcases mem with rfl | rfl | rfl | rfl | rfl | rfl | rfl <;>
      simp (disch := decide) only [initSetPara, setUval_eq, getVal_setVal_of_ne,
        getVal_setVal_self, getUval_setVal_of_ne, getUval_setVal_self, ushort_getUval,
        short_add_getUval, plain, Table.value, if_true, if_false, Bool.false_eq_true, Nat.zero_mul,
        Nat.add_zero]

/-- The temperature loop leaves the main set point. -/
theorem getVal_afterTemp (s : Incubator) :
    (updateTempRow (s.getUval Reg.rRunDay) (List.range setParaDay)
      (initSetPara s)).getVal Reg.pAoTpMain = mainSetPoint s := by
  have init := initSetPara_within s
  have first : (initSetPara s).getVal Reg.pAoTpMain =
      (initSetPara s).getVal Reg.pSetTpMainVal := by
    rw [(getVal_initSetPara s).1]
    exact (init.getVal (by decide)).symm
  rw [getVal_updateTempRow _ (init.getUval (by decide)) first, mainSetPoint_within init]

theorem getVal_mainSetPoint (s : Incubator) :
    (updateSetPara s).getVal Reg.pAoTpMain = mainSetPoint s := by
  have rest := foldl_update_within tables (s.getUval Reg.rRunDay)
    (updateTempRow (s.getUval Reg.rRunDay) (List.range setParaDay) (initSetPara s))
  have apart : Reg.pAoTpMain ∉ tables.map Table.setting := by decide
  rw [updateSetPara_eq, rest.getVal apart, getVal_afterTemp]

/-- Every other set point is that of the row that its search finds, or else of the first row. -/
theorem getVal_setting (s : Incubator) {T : Table} (mem : T ∈ tables) :
    (updateSetPara s).getVal T.setting =
      match search (column T.head s) (column T.day s) setParaDay (s.getUval Reg.rRunDay) with
      | some i => T.value (mainSetPoint s) i s
      | none => T.value (s.getVal Reg.pSetTpMainVal) 0 s := by
  have nonneg : 0 ≤ s.getUval Reg.rRunDay := Int.natCast_nonneg _
  have distinct : (tables.map Table.setting).Nodup := by decide
  have high : ∀ T ∈ tables, 1000 ≤ T.head ∧ 1000 ≤ T.day ∧ 1000 ≤ T.val ∧
      Reg.pAoTpMain ≠ T.setting := by decide
  have inside : tables.map Table.setting ⊆ setPoints := by decide
  obtain ⟨head, day, val, apart⟩ := high T mem
  set start := updateTempRow (s.getUval Reg.rRunDay) (List.range setParaDay) (initSetPara s)
    with temp
  have started : Within [Reg.pAoTpMain] (initSetPara s) start := by
    rw [temp, within_updateTempRow List.mem_cons_self]
    exact Within.refl _ _
  obtain ⟨u, before, written⟩ := foldl_update tables distinct (s.getUval Reg.rRunDay) start mem
  have all : Within setPoints s u :=
    ((initSetPara_within s).trans (started.mono (by decide))).trans
      (before.mono (List.Subset.trans List.erase_subset inside))
  have main : u.getVal Reg.pAoTpMain = mainSetPoint s := by
    have outside : Reg.pAoTpMain ∉ (tables.map Table.setting).erase T.setting :=
      fun mem => absurd (List.mem_of_mem_erase mem) (by decide)
    rw [before.getVal outside, temp, getVal_afterTemp]
  have first : u.getVal T.setting = T.value (s.getVal Reg.pSetTpMainVal) 0 s := by
    rw [before.getVal distinct.not_mem_erase, started.getVal (by simpa using apart.symm)]
    exact (getVal_initSetPara s).2 T mem
  rw [updateSetPara_eq, written, getVal_update T nonneg, column_within all head,
    column_within all day, main, first]
  cases search (column T.head s) (column T.day s) setParaDay (s.getUval Reg.rRunDay) with
  | none => rfl
  | some i => exact T.value_within all val _ i

end

/-! ## The rows in force -/

/-- The main set point is the value of the last used row whose time has come, or of the first row
before the first time, unless a table of fewer than 29 rows is looked up before its first time. -/
theorem tempSchedule_iff (s : Incubator) (last : Nat)
    (ordered : Ordered (column Reg.pSetTpMainDay s) setParaDay last)
    (unused : ∀ i, last < i → i < setParaDay → column Reg.pSetTpMainDay s i = 0) :
    (updateSetPara s).getVal Reg.pAoTpMain =
        s.getVal (Reg.pSetTpMainVal +
          current (column Reg.pSetTpMainDay s) last (s.getUval Reg.rRunDay) * 2) ↔
      column Reg.pSetTpMainDay s 0 ≤ s.getUval Reg.rRunDay ∨ 28 ≤ last ∨
        s.getVal (Reg.pSetTpMainVal + 29 * 2) = s.getVal Reg.pSetTpMainVal := by
  have nonneg : 0 ≤ s.getUval Reg.rRunDay := Int.natCast_nonneg _
  rw [getVal_mainSetPoint, mainSetPoint, tempRow]
  by_cases come : column Reg.pSetTpMainDay s 0 ≤ s.getUval Reg.rRunDay
  · rw [if_neg (not_lt.mpr come), ordered.search_own come (column_nonneg _ _ _)]
    exact iff_of_true rfl (Or.inl come)
  · have early := not_le.mp come
    rw [if_pos early, ordered.current_eq_zero early, or_iff_right come]
    by_cases long : 28 ≤ last
    · have idle : ¬InForce (column Reg.pSetTpMainDay s) (column Reg.pSetTpMainDay s) setParaDay
          (s.getUval Reg.rRunDay) (setParaDay - 1) := by
        rintro ⟨before, -, -⟩
        have used := ordered.time_le (Nat.zero_le 28) long
        have reached : column Reg.pSetTpMainDay s 28 ≤ s.getUval Reg.rRunDay :=
          before (by decide)
        omega
      rw [if_neg idle]
      exact iff_of_true rfl (Or.inl long)
    · have rows : setParaDay = 30 := rfl
      have spare : InForce (column Reg.pSetTpMainDay s) (column Reg.pSetTpMainDay s) setParaDay
          (s.getUval Reg.rRunDay) (setParaDay - 1) := by
        refine ⟨?_, ?_, ?_⟩
        · intro _
          rw [unused _ (by omega) (by omega)]
          exact nonneg
        · rw [unused _ (by omega) (by omega)]
          exact nonneg
        · intro inside
          omega
      rw [if_pos spare, or_iff_right long]
      rfl

/-- One row, from the twentieth day on, with the last row left at zero. -/
def lateTable : Incubator :=
  cleared |> setVal Reg.pSetTpMainDay 480 |> setVal Reg.pSetTpMainVal 3780

theorem lateTable_ordered :
    Ordered (column Reg.pSetTpMainDay lateTable) setParaDay 0 ∧
      ∀ i, 0 < i → i < setParaDay → column Reg.pSetTpMainDay lateTable i = 0 := by
  have zeros : ∀ i < setParaDay, 0 < i → column Reg.pSetTpMainDay lateTable i = 0 := by decide
  refine ⟨⟨by decide, ?_, ?_⟩, ?_⟩
  · intro i before
    exact absurd before (Nat.not_lt_zero i)
  · intro room
    exact zeros 1 room (by decide)
  · intro i later inside
    exact zeros i inside later

theorem tempSchedule_iff_lateTable :
    (updateSetPara lateTable).getVal Reg.pAoTpMain =
        lateTable.getVal (Reg.pSetTpMainVal +
          current (column Reg.pSetTpMainDay lateTable) 0 (lateTable.getUval Reg.rRunDay) * 2) ↔
      column Reg.pSetTpMainDay lateTable 0 ≤ lateTable.getUval Reg.rRunDay ∨ 28 ≤ 0 ∨
        lateTable.getVal (Reg.pSetTpMainVal + 29 * 2) = lateTable.getVal Reg.pSetTpMainVal :=
  tempSchedule_iff lateTable 0 lateTable_ordered.1 lateTable_ordered.2

/-- The set point comes from the unused last row. -/
theorem lateTable_last_row :
    ¬ ∀ s last, Ordered (column Reg.pSetTpMainDay s) setParaDay last →
      (∀ i, last < i → i < setParaDay → column Reg.pSetTpMainDay s i = 0) →
      (updateSetPara s).getVal Reg.pAoTpMain =
        s.getVal (Reg.pSetTpMainVal +
          current (column Reg.pSetTpMainDay s) last (s.getUval Reg.rRunDay) * 2) := by
  intro law
  have value := law lateTable 0 lateTable_ordered.1 lateTable_ordered.2
  rw [getVal_mainSetPoint] at value
  exact absurd value (by decide)

/-! ## Tables of their own -/

namespace Table

/-- The row that the times of the table itself ask for. -/
def row (T : Table) (last : Nat) (s : Incubator) : Nat :=
  current (column T.day s) last (s.getUval Reg.rRunDay)

/-- The set point is that of this row. -/
def Own (T : Table) (last : Nat) (s : Incubator) : Prop :=
  (updateSetPara s).getVal T.setting =
    T.value ((updateSetPara s).getVal Reg.pAoTpMain) (T.row last s) s

/-- In the column that the loop looks at, the time of the row before has come. -/
def Seen (T : Table) (last : Nat) (s : Incubator) : Prop :=
  T.row last s = 0 ∨ column T.head s (T.row last s - 1) ≤ s.getUval Reg.rRunDay

/-- The first row that is not used and yet in force for the loop. -/
def spare (T : Table) (last : Nat) (s : Incubator) : Option Nat :=
  (List.range setParaDay).find? fun i => last < i ∧
    InForce (column T.head s) (column T.day s) setParaDay (s.getUval Reg.rRunDay) i

/-- The spare row happens to hold the right value, or the first row does without a spare one. -/
def StandInAgrees (T : Table) (last : Nat) (s : Incubator) : Prop :=
  (match T.spare last s with
    | some i => T.value (mainSetPoint s) i s
    | none => T.value (s.getVal Reg.pSetTpMainVal) 0 s) =
    T.value (mainSetPoint s) (T.row last s) s

variable {T : Table} {last : Nat} {s : Incubator}

theorem own_iff (mem : T ∈ tables) (ordered : Ordered (column T.day s) setParaDay last)
    (start : column T.day s 0 = 0) : T.Own last s ↔ T.Seen last s ∨ T.StandInAgrees last s := by
  have come : column T.day s 0 ≤ s.getUval Reg.rRunDay := by
    rw [start]
    exact Int.natCast_nonneg _
  have nonneg := column_nonneg T.day s 0
  rw [Own, getVal_setting s mem, getVal_mainSetPoint]
  by_cases seen : T.Seen last s
  · rw [ordered.search_eq_current come nonneg seen]
    exact iff_of_true rfl (Or.inl seen)
  · rw [ordered.search_missed come nonneg seen, or_iff_right seen]
    rfl

/-- A loop over one table always finds its row. -/
theorem own_of_ownTables (mem : T ∈ ownTables)
    (ordered : Ordered (column T.day s) setParaDay last) (start : column T.day s 0 = 0) :
    T.Own last s := by
  have come : column T.day s 0 ≤ s.getUval Reg.rRunDay := by
    rw [start]
    exact Int.natCast_nonneg _
  have same : ∀ T ∈ ownTables, T.head = T.day := by decide
  rw [Own, getVal_setting s (List.mem_append_right _ mem), getVal_mainSetPoint, same T mem,
    ordered.search_own come (column_nonneg _ _ _)]
  rfl

end Table

/-- All seven set points follow their own tables exactly if the five loops that look at the
temperature table see their row, or what they take instead agrees. -/
theorem own_tables_iff (s : Incubator) (last : Table → Nat)
    (filled : ∀ T ∈ tables, Ordered (column T.day s) setParaDay (last T) ∧
      column T.day s 0 = 0) :
    (∀ T ∈ tables, T.Own (last T) s) ↔
      ∀ T ∈ mixedTables, T.Seen (last T) s ∨ T.StandInAgrees (last T) s := by
  refine ⟨fun own T mem => ?_, fun seen T mem => ?_⟩
  · have table := List.mem_append_left ownTables mem
    exact (Table.own_iff table (filled T table).1 (filled T table).2).mp (own T table)
  · cases List.mem_append.mp mem with
    | inl mixed => exact (Table.own_iff mem (filled T mem).1 (filled T mem).2).mpr (seen T mixed)
    | inr single => exact Table.own_of_ownTables single (filled T mem).1 (filled T mem).2

/-- Then the times of the temperature table matter through the main set point only. -/
theorem own_tables_agree {s t : Incubator} {last : Table → Nat}
    (times : Footprint.AgreeOff ((List.range setParaDay).map (Reg.pSetTpMainDay + · * 2)) s.shmOut
      t.shmOut)
    (main : (updateSetPara t).getVal Reg.pAoTpMain = (updateSetPara s).getVal Reg.pAoTpMain)
    (own : ∀ T ∈ tables, T.Own (last T) s ∧ T.Own (last T) t) :
    ∀ T ∈ tables, (updateSetPara t).getVal T.setting = (updateSetPara s).getVal T.setting := by
  intro T mem
  have apart {i : Nat} (outside : i < 1000 ∨ 1100 ≤ i) :
      i ∉ (List.range setParaDay).map (Reg.pSetTpMainDay + · * 2) := by
    intro inside
    obtain ⟨k, row, rfl⟩ := List.mem_map.mp inside
    have rows : k < 30 := List.mem_range.mp row
    have first : Reg.pSetTpMainDay = 1002 := rfl
    omega
  have same {i : Nat} (outside : i < 1000 ∨ 1100 ≤ i) : t.getVal i = s.getVal i :=
    getVal_agree times (apart outside)
  have sameUval {i : Nat} (outside : i < 1000 ∨ 1100 ≤ i) : t.getUval i = s.getUval i := by
    rw [getUval_eq_ushort, getUval_eq_ushort, same outside]
  have high : ∀ T ∈ tables, 1100 ≤ T.day ∧ 1100 ≤ T.val := by decide
  obtain ⟨day, val⟩ := high T mem
  have column : column T.day t = column T.day s := by
    funext i
    exact sameUval (Or.inr (Nat.le_add_right_of_le day))
  have row : T.row (last T) t = T.row (last T) s := by
    rw [Table.row, Table.row, column, sameUval (Or.inl (by decide))]
  obtain ⟨before, after⟩ := own T mem
  rw [Table.Own] at before after
  rw [before, after, main, row, Table.value, Table.value,
    same (Or.inr (Nat.le_add_right_of_le val))]

/-- The second row of the humidity table is due; the temperature table starts later. -/
def mixedStart : Incubator :=
  cleared |> setVal Reg.rRunDay 200 |> setVal Reg.pSetTpMainDay 480
    |> setVal Reg.pSetTpMainVal 3780 |> setVal Reg.pSetHmVal 5000
    |> setVal (Reg.pSetHmDay + 2) 100 |> setVal (Reg.pSetHmVal + 2) 6000

def mixedLast (T : Table) : Nat := if T.day = Reg.pSetHmDay then 1 else 0

theorem mixedStart_filled : ∀ T ∈ tables,
    Ordered (column T.day mixedStart) setParaDay (mixedLast T) ∧ column T.day mixedStart 0 = 0 := by
  have rows : ∀ T ∈ tables, mixedLast T < setParaDay ∧
      (∀ i < mixedLast T, column T.day mixedStart i < column T.day mixedStart (i + 1)) ∧
      column T.day mixedStart (mixedLast T + 1) = 0 ∧ column T.day mixedStart 0 = 0 := by
    decide
  intro T mem
  obtain ⟨inside, increasing, ended, start⟩ := rows T mem
  exact ⟨⟨inside, increasing, fun _ => ended⟩, start⟩

theorem own_tables_iff_mixedStart :
    (∀ T ∈ tables, T.Own (mixedLast T) mixedStart) ↔
      ∀ T ∈ mixedTables, T.Seen (mixedLast T) mixedStart ∨
        T.StandInAgrees (mixedLast T) mixedStart :=
  own_tables_iff mixedStart mixedLast mixedStart_filled

/-- The humidity set point misses its row. -/
theorem mixedStart_not_own :
    ¬ ∀ (s : Incubator) (last : Table → Nat),
      (∀ T ∈ tables, Ordered (column T.day s) setParaDay (last T) ∧
      column T.day s 0 = 0) → ∀ T ∈ tables, T.Own (last T) s := by
  intro law
  have humidity : (⟨Reg.pSetTpMainDay, Reg.pSetHmDay, Reg.pSetHmVal, false, Reg.pAoHm⟩ : Table) ∈
      tables := List.mem_cons_self
  have own := law mixedStart mixedLast mixedStart_filled _ humidity
  rw [Table.Own, getVal_setting mixedStart humidity] at own
  exact absurd own (by decide)

end Jincubator
