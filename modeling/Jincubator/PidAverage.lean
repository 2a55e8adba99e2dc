import Jincubator.Library.Window
import Jincubator.PidArithmetic

/-! # The moving average of the PID values

The filter moves the integers of its array up by one place, stores the new value at
the first and divides their sum. The array is a sliding window over the values the
filter was called with, and once it is full of them a call returns their average.
-/

namespace Jincubator

open Incubator Arithmetic Run

/-! ## The array -/

namespace Incubator

section

variable {base i j : Nat} (v : Int) (s : Incubator)

theorem nativeInt_setNativeInt_self : (setNativeInt base i v s).nativeInt base i = int32 v := by
  have apart : base + 2 * i ≠ base + 2 * i + 1 := by omega
  simp only [nativeInt, setNativeInt, put, Function.update_self,
    Function.update_of_ne apart, ofInt_append_ofInt, int32]

theorem nativeInt_setNativeInt_of_ne (other : j ≠ i) :
    (setNativeInt base i v s).nativeInt base j = s.nativeInt base j := by
  have high : base + 2 * j + 1 ≠ base + 2 * i ∧ base + 2 * j + 1 ≠ base + 2 * i + 1 := by omega
  have low : base + 2 * j ≠ base + 2 * i ∧ base + 2 * j ≠ base + 2 * i + 1 := by omega
  simp only [nativeInt, setNativeInt, put, Function.update_of_ne high.1,
    Function.update_of_ne high.2, Function.update_of_ne low.1, Function.update_of_ne low.2]

/-- What is stored is not cut again. -/
@[simp] theorem int32_nativeInt : int32 (s.nativeInt base i) = s.nativeInt base i := by
  rw [nativeInt, int32, BitVec.ofInt_toInt]

end

end Incubator

section

variable {base count j : Nat}

theorem shiftFilter_beyond (beyond : count < j) (s : Incubator) :
    (shiftFilter base count s).nativeInt base j = s.nativeInt base j := by
  induction count generalizing s with
  | zero => rfl
  | succ count ih =>
      rw [shiftFilter, ih (by omega), nativeInt_setNativeInt_of_ne _ _ (by omega)]

/-- The loop goes downwards, so every place takes what the place below held before it. -/
theorem shiftFilter_shifted (inside : j < count) (s : Incubator) :
    (shiftFilter base count s).nativeInt base (j + 1) = s.nativeInt base j := by
  induction count generalizing s with
  | zero => exact absurd inside (Nat.not_lt_zero j)
  | succ count ih =>
      rw [shiftFilter]
      by_cases last : j = count
      · rw [last, shiftFilter_beyond (Nat.lt_succ_self count), nativeInt_setNativeInt_self,
          int32_nativeInt]
      · rw [ih (by omega), nativeInt_setNativeInt_of_ne _ _ (by omega)]

end

/-! ## The window -/

/-- `p[0]` to `p[num - 1]` -/
def pidWindow (base num : Nat) (s : Incubator) : Window Int num where
  items := (List.range num).map (s.nativeInt base)
  length_items := by rw [List.length_map, List.length_range]

/-- One call of the filter. -/
def filterStep (base num : Nat) (s : Incubator) (pid : Int) : Incubator :=
  (pidFilter pid base num s).2

section

variable {base num : Nat} {pid : Int} {s : Incubator} {inputs : List Int}

theorem pidWindow_filterStep (positive : 0 < num) :
    pidWindow base num (filterStep base num s pid) = (pidWindow base num s).push (int32 pid) := by
  obtain ⟨places, rfl⟩ : ∃ places, num = places + 1 := ⟨num - 1, by omega⟩
  have first : (filterStep base (places + 1) s pid).nativeInt base 0 = int32 pid :=
    nativeInt_setNativeInt_self pid _
  have later : ∀ j ∈ List.range places,
      (filterStep base (places + 1) s pid).nativeInt base (j + 1) = s.nativeInt base j := by
    intro j mem
    rw [filterStep, pidFilter, nativeInt_setNativeInt_of_ne _ _ (Nat.succ_ne_zero j)]
    exact shiftFilter_shifted (List.mem_range.mp mem) s
  apply Window.ext
  calc (List.range (places + 1)).map ((filterStep base (places + 1) s pid).nativeInt base)
      = int32 pid :: (List.range places).map (s.nativeInt base) := by
        rw [List.range_succ_eq_map, List.map_cons, List.map_map, first]
        exact congrArg _ (List.map_congr_left later)
    _ = (int32 pid :: (List.range (places + 1)).map (s.nativeInt base)).take (places + 1) := by
        rw [List.take_succ_cons, ← List.map_take, List.take_range,
          Nat.min_eq_left (Nat.le_succ places)]

theorem pidWindow_run (positive : 0 < num) (s : Incubator) (inputs : List Int) :
    pidWindow base num (run (filterStep base num) s inputs) =
      run Window.push (pidWindow base num s) (inputs.map int32) := by
  induction inputs generalizing s with
  | nil => rfl
  | cons pid inputs ih =>
      rw [run_cons, ih, pidWindow_filterStep positive, List.map_cons, run_cons]

/-- The PID values a call may be given. -/
def PidValues (inputs : List Int) : Prop := ∀ pid ∈ inputs, -10000 ≤ pid ∧ pid ≤ 10000

theorem PidValues.map_int32 (values : PidValues inputs) : inputs.map int32 = inputs := by
  have kept : ∀ pid ∈ inputs, int32 pid = id pid := by
    intro pid mem
    have range := values pid mem
    exact int32_of_fits (fits_int.mpr (by omega))
  rw [List.map_congr_left kept, List.map_id]

theorem PidValues.sum_range (values : PidValues inputs) :
    -10000 * (inputs.length : Int) ≤ inputs.sum ∧ inputs.sum ≤ 10000 * inputs.length := by
  have low := List.card_nsmul_le_sum inputs (-10000) fun pid mem => (values pid mem).1
  have high := List.sum_le_card_nsmul inputs 10000 fun pid mem => (values pid mem).2
  rw [nsmul_eq_mul] at low high
  omega

theorem PidValues.among_range {v : Int} (values : PidValues inputs)
    (among : Deadband.Among inputs v) : -10000 ≤ v ∧ v ≤ 10000 := by
  obtain ⟨⟨a, lowMem, low⟩, b, highMem, high⟩ := among
  have lowRange := values a lowMem
  have highRange := values b highMem
  omega

/-- After enough calls the window holds the last values only. -/
theorem pidWindow_full (positive : 0 < num) (values : PidValues inputs)
    (filled : num ≤ inputs.length) (base : Nat) (s : Incubator) :
    (pidWindow base num (run (filterStep base num) s inputs)).items =
      inputs.reverse.take num := by
  rw [pidWindow_run positive, values.map_int32, Window.items_run_full _ filled]

/-! ## The average -/

/-- A sum that wraps around after every addition. -/
theorem foldl_int32 (values : List Int) (start : Int) :
    values.foldl (fun sum v => int32 (sum + v)) (int32 start) = int32 (start + values.sum) := by
  induction values generalizing start with
  | nil => rw [List.foldl_nil, List.sum_nil, Int.add_zero]
  | cons v values ih =>
      have wrapped : int32 (int32 start + v) = int32 (start + v) := by
        simp only [int32_eq_bmod, Int.bmod_add_bmod]
      rw [List.foldl_cons, wrapped, ih, List.sum_cons, Int.add_assoc]

theorem pidFilter_value (pid : Int) (base num : Nat) (s : Incubator) :
    (pidFilter pid base num s).1 =
      short ((int32 (pidWindow base num (filterStep base num s pid)).items.sum).tdiv num) := by
  have sum := foldl_int32 (pidWindow base num (filterStep base num s pid)).items 0
  rw [Int.zero_add, pidWindow, List.foldl_map] at sum
  rw [pidWindow, ← sum]
  rfl

/-- What a call returns and leaves depends on the last values only. -/
structure Averages (base num : Nat) (last : List Int) (call : Int × Incubator) : Prop where
  mean : call.1 = last.sum.tdiv num
  among : Deadband.Among last call.1
  window : (pidWindow base num call.2).items = last

/-- With values in their range the sum fits, and so does the average. -/
theorem averages_of_window {last : List Int} (size : 1 ≤ num ∧ num ≤ 255)
    (values : PidValues last)
    (window : (pidWindow base num (filterStep base num s pid)).items = last) :
    Averages base num last (pidFilter pid base num s) := by
  have length := (pidWindow base num (filterStep base num s pid)).length_items
  rw [window] at length
  have among : Deadband.Among last (last.sum.tdiv num) := by
    rw [← length]
    exact Window.average_among (List.ne_nil_of_length_pos (length.symm ▸ size.1))
  have mean : (pidFilter pid base num s).1 = last.sum.tdiv num := by
    have sum := values.sum_range
    have range := values.among_range among
    rw [length] at sum
    rw [pidFilter_value, window, int32_of_fits (fits_int.mpr (by omega)),
      short_of_range (by omega)]
  constructor
  case mean => exact mean
  case among => exact mean ▸ among
  case window => exact window

end

/-- Every call from the `num`-th on averages the last `num` values, the newest first. -/
theorem pidFilter_averages (base num : Nat) (size : 1 ≤ num ∧ num ≤ 255) (s : Incubator)
    (inputs : List Int) (values : ∀ pid ∈ inputs, -10000 ≤ pid ∧ pid ≤ 10000)
    (before after : List Int) (pid : Int) (split : inputs = before ++ pid :: after)
    (filled : num ≤ before.length + 1) :
    Averages base num ((before ++ [pid]).reverse.take num)
      (pidFilter pid base num (run (filterStep base num) s before)) := by
  have given : PidValues (before ++ [pid]) := by
    intro v mem
    refine values v ?_
    rw [split, List.append_cons]
    exact List.mem_append_left after mem
  have full : num ≤ (before ++ [pid]).length := by
    rw [List.length_append]
    exact filled
  have window := pidWindow_full size.1 given full base s
  rw [run_append, run_cons, run_nil] at window
  refine averages_of_window size ?_ window
  intro v mem
  exact given v (List.mem_reverse.mp (List.mem_of_mem_take mem))

/-- Three calls with room for two values. -/
theorem pidFilter_averages_two :
    Averages Reg.filterPidTempArr 2 [3, -6]
      (pidFilter 3 Reg.filterPidTempArr 2
        (run (filterStep Reg.filterPidTempArr 2) cleared [10000, -6])) :=
  pidFilter_averages Reg.filterPidTempArr 2 (by decide) cleared [10000, -6, 3] (by decide)
    [10000, -6] [] 3 rfl (by decide)

end Jincubator
