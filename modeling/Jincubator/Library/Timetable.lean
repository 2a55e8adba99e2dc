import Mathlib.Data.List.Find
import Mathlib.Data.Nat.Find
import Mathlib.Order.Monotone.Basic
import Mathlib.Tactic.Common

/-! # Timetables

A timetable is a column of times, increasing in the rows that are used. The row
of a time is the last used row whose time has come. A search for it looks at the
rows in turn and takes the first one that is in force; it may look for the time
of the row before in another column, and then it can miss its row.
-/

namespace Timetable

variable {head time : Nat → Int} {rows last : Nat} {now : Int}

/-- The rows up to the last one are increasing, and a zero follows unless the table is full. -/
structure Ordered (time : Nat → Int) (rows last : Nat) : Prop where
  inside : last < rows
  increasing : ∀ i < last, time i < time (i + 1)
  ended : last + 1 < rows → time (last + 1) = 0

/-- The last used row whose time has come, or the first row. -/
def current (time : Nat → Int) (last : Nat) (now : Int) : Nat :=
  Nat.findGreatest (fun i => time i ≤ now) last

/-- What the search asks of a row. -/
def InForce (head time : Nat → Int) (rows : Nat) (now : Int) (i : Nat) : Prop :=
  (0 < i → head (i - 1) ≤ now) ∧ time i ≤ now ∧
    (i + 1 < rows → now < time (i + 1) ∨ time (i + 1) ≤ 0)

instance (i : Nat) : Decidable (InForce head time rows now i) :=
  inferInstanceAs (Decidable (_ ∧ _ ∧ _))

def search (head time : Nat → Int) (rows : Nat) (now : Int) : Option Nat :=
  (List.range rows).find? fun i => InForce head time rows now i

theorem current_le (time : Nat → Int) (last : Nat) (now : Int) : current time last now ≤ last :=
  Nat.findGreatest_le last

theorem time_current (last : Nat) (come : time 0 ≤ now) : time (current time last now) ≤ now :=
  Nat.findGreatest_spec (P := fun i => time i ≤ now) (Nat.zero_le last) come

theorem lt_time {i : Nat} (later : current time last now < i) (used : i ≤ last) :
    now < time i :=
  not_le.mp (Nat.findGreatest_is_greatest later used)

namespace Ordered

theorem time_le (ordered : Ordered time rows last) {i j : Nat} (le : i ≤ j) (used : j ≤ last) :
    time i ≤ time j := by
  induction j, le using Nat.le_induction with
  | base => exact le_refl _
  | succ j le ih =>
      have next := ordered.increasing j (Nat.lt_of_succ_le used)
      exact (ih (Nat.le_of_succ_le used)).trans next.le

theorem time_lt (ordered : Ordered time rows last) {i j : Nat} (lt : i < j) (used : j ≤ last) :
    time i < time j :=
  (ordered.increasing i (lt_of_lt_of_le lt used)).trans_le (ordered.time_le lt used)

theorem current_eq_zero (ordered : Ordered time rows last) (early : now < time 0) :
    current time last now = 0 := by
  refine Nat.findGreatest_eq_zero_iff.mpr ?_
  intro i _ used come
  have first := ordered.time_le (Nat.zero_le i) used
  omega

/-- Before its row a search finds nothing. -/
theorem not_inForce_before (ordered : Ordered time rows last) (come : time 0 ≤ now)
    (nonneg : 0 ≤ time 0) {i : Nat} (before : i < current time last now) :
    ¬InForce head time rows now i := by
  have row := current_le time last now
  have inside := ordered.inside
  rintro ⟨-, -, next⟩
  have reached : time (i + 1) ≤ time (current time last now) := ordered.time_le before row
  have positive : time 0 < time (i + 1) :=
    ordered.time_lt (Nat.succ_pos i) (Nat.le_trans before row)
  have come := time_current last come
  cases next (by omega) with
  | inl later =>
      omega
  | inr zero =>
      omega

/-- After its row and up to the last one a search finds nothing either. -/
theorem not_inForce_after {i : Nat} (after : current time last now < i) (used : i ≤ last) :
    ¬InForce head time rows now i := by
  rintro ⟨-, come, -⟩
  exact absurd come (not_le.mpr (lt_time after used))

/-- The row itself is found if the time that the search sees for the row before has come. -/
theorem inForce_current (ordered : Ordered time rows last) (come : time 0 ≤ now) :
    InForce head time rows now (current time last now) ↔
      current time last now = 0 ∨ head (current time last now - 1) ≤ now := by
  have row := current_le time last now
  have next : current time last now + 1 < rows → now < time (current time last now + 1) ∨
      time (current time last now + 1) ≤ 0 := by
    intro room
    cases Nat.lt_or_eq_of_le row with
    | inl more => exact Or.inl (lt_time (Nat.lt_succ_self _) more)
    | inr full =>
        rw [full] at room ⊢
        exact Or.inr (ordered.ended room).le
  rw [InForce, and_iff_left next, and_iff_left (time_current last come), Nat.pos_iff_ne_zero,
    imp_iff_not_or, not_ne_iff]

/-- A search that sees the row before finds the row. -/
theorem search_eq_current (ordered : Ordered time rows last) (come : time 0 ≤ now)
    (nonneg : 0 ≤ time 0)
    (seen : current time last now = 0 ∨ head (current time last now - 1) ≤ now) :
    search head time rows now = some (current time last now) := by
  rw [search, List.find?_range_eq_some]
  refine ⟨?_, ?_, ?_⟩
  · exact decide_eq_true ((ordered.inForce_current come).mpr seen)
  · exact List.mem_range.mpr ((current_le time last now).trans_lt ordered.inside)
  · intro i before
    rw [Bool.not_eq_true', decide_eq_false_iff_not]
    exact ordered.not_inForce_before come nonneg before

/-- A search in one column finds its row. -/
theorem search_own (ordered : Ordered time rows last) (come : time 0 ≤ now)
    (nonneg : 0 ≤ time 0) : search time time rows now = some (current time last now) := by
  refine ordered.search_eq_current come nonneg ?_
  rcases Nat.eq_zero_or_pos (current time last now) with first | later
  · exact Or.inl first
  · have before := ordered.time_le (Nat.sub_le (current time last now) 1) (current_le time last now)
    exact Or.inr (before.trans (time_current last come))

/-- A search that misses its row goes on in the rows that are not used. -/
theorem search_missed (ordered : Ordered time rows last) (come : time 0 ≤ now)
    (nonneg : 0 ≤ time 0)
    (missed : ¬(current time last now = 0 ∨ head (current time last now - 1) ≤ now)) :
    search head time rows now =
      (List.range rows).find? fun i => last < i ∧ InForce head time rows now i := by
  refine List.find?_congr ?_
  intro i _
  rw [decide_eq_decide]
  refine ⟨fun force => ⟨?_, force⟩, fun both => both.2⟩
  by_contra used
  rcases lt_trichotomy i (current time last now) with before | here | after
  · exact ordered.not_inForce_before come nonneg before force
  · rw [here] at force
    exact missed ((ordered.inForce_current come).mp force)
  · exact not_inForce_after after (not_lt.mp used) force

end Ordered

end Timetable
