import Jincubator.Library.Arithmetic
import Jincubator.Library.Deadband
import Jincubator.Library.Run
import Mathlib.Algebra.Order.BigOperators.Group.List
import Mathlib.Data.List.DropRight

/-! # Sliding windows

A window holds the last values of a sequence, the newest first. After as many values
as it has places nothing is left of what it held before, and the truncated average of
its values lies between two of them.
-/

open Run

/-- As many items as there are places, the newest first. -/
@[ext] structure Window (α : Type*) (n : Nat) where
  items : List α
  length_items : items.length = n

namespace Window

section

variable {α : Type*} {n : Nat}

/-- The oldest item makes room for a new one. -/
def push (w : Window α n) (x : α) : Window α n where
  items := (x :: w.items).take n
  length_items := by
    rw [List.length_take, List.length_cons, w.length_items]
    omega

theorem items_run_push (w : Window α n) (xs : List α) :
    (run push w xs).items = (xs.reverse ++ w.items).take n := by
  induction xs generalizing w with
  | nil =>
      rw [run_nil, List.reverse_nil, List.nil_append, List.take_of_length_le w.length_items.le]
  | cons x xs ih =>
      have kept (front : List α) :
          (front ++ (x :: w.items).take n).take n = (front ++ x :: w.items).take n := by
        rw [List.take_append, List.take_append, List.take_take, Nat.min_eq_left (Nat.sub_le _ _)]
      rw [run_cons, ih, push, kept, List.reverse_cons, List.append_assoc, List.singleton_append]

/-- A full window holds the last items only. -/
theorem items_run_full (w : Window α n) {xs : List α} (full : n ≤ xs.length) :
    (run push w xs).items = xs.reverse.take n := by
  rw [items_run_push, List.take_append_of_le_length]
  rwa [List.length_reverse]

end

/-! ## Windows that fill up -/

section

variable {α : Type*} {n : Nat}

/-- A list of the values from the oldest on, which grows up to `n` of them. -/
def slide (n : Nat) (data : List α) (x : α) : List α :=
  if data.length < n then data ++ [x] else data.drop 1 ++ [x]

theorem slide_eq {data : List α} (positive : 0 < n) (fits : data.length ≤ n) (x : α) :
    slide n data x = (data ++ [x]).rtake n := by
  have length : (data ++ [x]).length = data.length + 1 := by simp
  rw [slide, List.rtake, length]
  split
  · rename_i room
    rw [Nat.sub_eq_zero_of_le room, List.drop_zero]
  · rename_i full
    have exact : data.length = n := Nat.le_antisymm fits (not_lt.mp full)
    rw [exact, Nat.add_sub_cancel_left, List.drop_append_of_le_length (exact ▸ positive)]

/-- The last values of a list and one more value. -/
theorem rtake_rtake_append (xs : List α) (x : α) :
    (xs.rtake n ++ [x]).rtake n = (xs ++ [x]).rtake n := by
  simp only [List.rtake_eq_reverse_take_reverse, List.reverse_append, List.reverse_reverse,
    List.reverse_singleton, List.singleton_append]
  cases n with
  | zero => rfl
  | succ n => simp only [List.take_succ_cons, List.take_take, Nat.min_eq_left (Nat.le_succ n)]

theorem length_rtake (n : Nat) (xs : List α) : (xs.rtake n).length = min n xs.length := by
  rw [List.rtake, List.length_drop]
  omega

/-- Sliding on the last values is taking the last values. -/
theorem slide_rtake (positive : 0 < n) (xs : List α) (x : α) :
    slide n (xs.rtake n) x = (xs ++ [x]).rtake n := by
  have fits : (xs.rtake n).length ≤ n := (length_rtake n xs).trans_le (Nat.min_le_left _ _)
  rw [slide_eq positive fits, rtake_rtake_append]

end

/-! ## Averages -/

/-- The quotient is truncated. -/
def average (values : List Int) : Int := values.sum.tdiv values.length

/-- Truncation moves the quotient by less than one, and the values are whole. -/
theorem average_among {values : List Int} (nonempty : values ≠ []) :
    Deadband.Among values (average values) := by
  have positive : (0 : Int) < values.length := by
    have length := List.length_pos_iff.mpr nonempty
    omega
  obtain ⟨sumLow, sumHigh⟩ := Arithmetic.tdiv_bounds values.sum positive
  change values.sum - _ < _ * average values at sumLow
  change _ * average values < values.sum + _ at sumHigh
  constructor
  case left =>
    by_contra above
    push Not at above
    have sum := List.card_nsmul_le_sum values (average values + 1) above
    rw [nsmul_eq_mul, mul_add, mul_one] at sum
    omega
  case right =>
    by_contra below
    push Not at below
    have sum := List.sum_le_card_nsmul values (average values - 1) fun x mem =>
      Int.le_sub_one_of_lt (below x mem)
    rw [nsmul_eq_mul, mul_sub, mul_one] at sum
    omega

end Window
