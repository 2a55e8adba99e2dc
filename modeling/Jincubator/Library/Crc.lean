import Jincubator.Library.Run
import Mathlib.Data.List.GetD
import Mathlib.Logic.Function.Iterate

/-! # Cyclic remainders

A message is shifted bit by bit through a remainder, which takes a polynomial
whenever a bit falls out at its low end. All of it is linear in exclusive or, and
a shift can be undone where the highest bit of the polynomial is set. So an error
that fits into the remainder is never shifted out of it.
-/

namespace Crc

open Run

section

variable {w : Nat}

/-- The bit that falls out takes the polynomial with it. -/
def shift (poly r : BitVec w) : BitVec w :=
  if r.getLsbD 0 then r >>> 1 ^^^ poly else r >>> 1

/-- A bit is taken in at the low end. -/
def feed (poly r : BitVec w) (b : Bool) : BitVec w :=
  shift poly (r ^^^ (BitVec.ofBool b).setWidth w)

/-- The first bits, the lowest one first. -/
def pack (w : Nat) (bits : List Bool) : BitVec w := (BitVec.ofBoolListLE bits).setWidth w

/-- The bits of a word, the lowest one first. -/
def bitsOf {n : Nat} (v : BitVec n) : List Bool := (List.range n).map v.getLsbD

/-- The bits that are set lie within a window of the given length, and there is one. -/
structure Burst (length : Nat) (errors : List Bool) : Prop where
  present : true ∈ errors
  window : ∃ start, ∀ i, errors.getD i false = true → start ≤ i ∧ i < start + length

end

section

variable {w : Nat} {poly r s : BitVec w} {b : Bool} {bits errors : List Bool} {n : Nat}

/-! ## Shifts -/

theorem shift_xor (poly r s : BitVec w) :
    shift poly (r ^^^ s) = shift poly r ^^^ shift poly s := by
  have once : r >>> 1 ^^^ s >>> 1 ^^^ poly = r >>> 1 ^^^ poly ^^^ s >>> 1 := by ac_rfl
  have twice : r >>> 1 ^^^ s >>> 1 = r >>> 1 ^^^ poly ^^^ (s >>> 1 ^^^ poly) := by
    have both : r >>> 1 ^^^ poly ^^^ (s >>> 1 ^^^ poly) =
        r >>> 1 ^^^ s >>> 1 ^^^ (poly ^^^ poly) := by ac_rfl
    rw [both, BitVec.xor_self, BitVec.xor_zero]
  unfold shift
  rw [BitVec.getLsbD_xor, BitVec.ushiftRight_xor_distrib]
  cases r.getLsbD 0 with
  | false =>
      cases s.getLsbD 0 with
      | false => rfl
      | true => exact BitVec.xor_assoc _ _ _
  | true =>
      cases s.getLsbD 0 with
      | false => exact once
      | true => exact twice

theorem shift_zero (poly : BitVec w) : shift poly 0#w = 0#w := by
  simp [shift]

theorem shift_iterate_zero (poly : BitVec w) (n : Nat) : (shift poly)^[n] 0#w = 0#w :=
  Function.iterate_fixed (shift_zero poly) n

/-- A remainder is not lost if the polynomial has its highest bit. -/
theorem shift_ne_zero (top : poly.getLsbD (w - 1) = true) (nonzero : r ≠ 0#w) :
    shift poly r ≠ 0#w := by
  intro lost
  unfold shift at lost
  split at lost
  · have fallen : r.getLsbD (1 + (w - 1)) = false := BitVec.getLsbD_of_ge r _ (by omega)
    have bit := congrArg (fun v : BitVec w => v.getLsbD (w - 1)) lost
    simp [fallen, top] at bit
  · rename_i even
    apply nonzero
    apply BitVec.eq_of_getLsbD_eq
    intro i inside
    cases i with
    | zero => simpa using even
    | succ i =>
        have bit := congrArg (fun v : BitVec w => v.getLsbD i) lost
        simpa [Nat.add_comm] using bit

theorem shift_iterate_ne_zero (top : poly.getLsbD (w - 1) = true) (nonzero : r ≠ 0#w) (n : Nat) :
    (shift poly)^[n] r ≠ 0#w := by
  induction n generalizing r with
  | zero => exact nonzero
  | succ n ih => exact ih (shift_ne_zero top nonzero)

/-- A remainder without its highest bit can be shifted up and back. -/
theorem shift_shiftLeft (clear : r.getLsbD (w - 1) = false) : shift poly (r <<< 1) = r := by
  unfold shift
  rw [if_neg (by simp)]
  apply BitVec.eq_of_getLsbD_eq
  intro i inside
  by_cases last : i = w - 1
  · subst last
    simp [clear]
  · simp [show 1 + i < w by omega, BitVec.getLsbD_eq_getElem inside]

/-! ## Several bits at once -/

theorem getLsbD_pack (bits : List Bool) {i : Nat} (inside : i < w) :
    (pack w bits).getLsbD i = bits.getD i false := by
  simp [pack, inside]

theorem pack_cons (b : Bool) (bits : List Bool) :
    pack w (b :: bits) = pack w bits <<< 1 ^^^ (BitVec.ofBool b).setWidth w := by
  apply BitVec.eq_of_getLsbD_eq
  intro i inside
  rw [getLsbD_pack _ inside, BitVec.getLsbD_xor, BitVec.getLsbD_shiftLeft]
  cases i with
  | zero => simp [inside]
  | succ i => simp [inside, getLsbD_pack bits (Nat.lt_of_succ_lt inside)]

/-- Bits that fit into the remainder can be brought into it before they are shifted. -/
theorem run_feed (poly r : BitVec w) (fits : bits.length ≤ w) :
    run (feed poly) r bits = (shift poly)^[bits.length] (r ^^^ pack w bits) := by
  induction bits generalizing r with
  | nil =>
      have empty : pack w [] = 0#w := by
        apply BitVec.eq_of_getLsbD_eq
        intro i inside
        simp [getLsbD_pack [] inside]
      rw [empty]
      exact (BitVec.xor_zero (x := r)).symm
  | cons b bits ih =>
      rw [List.length_cons] at fits ⊢
      have clear : (pack w bits).getLsbD (w - 1) = false := by
        rw [getLsbD_pack bits (by omega), List.getD_eq_default _ _ (by omega)]
      have first : r ^^^ pack w (b :: bits) =
          pack w bits <<< 1 ^^^ (r ^^^ (BitVec.ofBool b).setWidth w) := by
        rw [pack_cons]
        ac_rfl
      rw [run_cons, ih _ (by omega), Function.iterate_succ_apply, first, shift_xor,
        shift_shiftLeft clear, feed, BitVec.xor_comm]

theorem length_bitsOf (v : BitVec n) : (bitsOf v).length = n := by
  simp [bitsOf]

theorem pack_bitsOf (v : BitVec n) : pack w (bitsOf v) = v.setWidth w := by
  apply BitVec.eq_of_getLsbD_eq
  intro i inside
  rw [getLsbD_pack _ inside, BitVec.getLsbD_setWidth]
  by_cases bound : i < n
  · simp [bitsOf, bound, inside]
  · simp [bitsOf, bound, BitVec.getLsbD_of_ge v i (Nat.not_lt.mp bound)]

theorem bitsOf_append {k : Nat} (hi : BitVec k) (lo : BitVec n) :
    bitsOf (hi ++ lo) = bitsOf lo ++ bitsOf hi := by
  apply List.ext_getElem
  · rw [length_bitsOf, List.length_append, length_bitsOf, length_bitsOf, Nat.add_comm]
  · intro i inside _
    rw [length_bitsOf] at inside
    simp only [bitsOf, List.getElem_map, List.getElem_range, List.getElem_append, List.length_map,
      List.length_range, BitVec.getLsbD_append]
    split <;> rfl

theorem bitsOf_xor (u v : BitVec n) :
    bitsOf (u ^^^ v) = List.zipWith xor (bitsOf u) (bitsOf v) := by
  apply List.ext_getElem
  · simp [bitsOf]
  · intro i _ _
    simp [bitsOf]

/-- A word that fits is brought into the remainder as a whole. -/
theorem run_bitsOf (poly r : BitVec w) (v : BitVec n) (fits : n ≤ w) :
    run (feed poly) r (bitsOf v) = (shift poly)^[n] (r ^^^ v.setWidth w) := by
  have short : (bitsOf v).length ≤ w := by
    rwa [length_bitsOf]
  rw [run_feed poly r short, length_bitsOf, pack_bitsOf]

/-- A remainder that follows its message leaves nothing. -/
theorem run_remainder (poly r : BitVec w) : run (feed poly) r (bitsOf r) = 0#w := by
  rw [run_bitsOf poly r r (Nat.le_refl w), BitVec.setWidth_eq, BitVec.xor_self]
  exact shift_iterate_zero poly w

/-! ## Errors -/

theorem run_xor (poly r s : BitVec w) (same : bits.length = errors.length) :
    run (feed poly) (r ^^^ s) (List.zipWith xor bits errors) =
      run (feed poly) r bits ^^^ run (feed poly) s errors := by
  induction bits generalizing r s errors with
  | nil =>
      cases errors with
      | nil => rfl
      | cons => cases same
  | cons b bits ih =>
      cases errors with
      | nil => cases same
      | cons e errors =>
          have bit : feed poly (r ^^^ s) (b ^^ e) = feed poly r b ^^^ feed poly s e := by
            have both : (BitVec.ofBool (b ^^ e)).setWidth w =
                (BitVec.ofBool b).setWidth w ^^^ (BitVec.ofBool e).setWidth w := by
              rw [← BitVec.setWidth_xor, BitVec.ofBool_xor_ofBool]
            have first : r ^^^ s ^^^ (BitVec.ofBool (b ^^ e)).setWidth w =
                (r ^^^ (BitVec.ofBool b).setWidth w) ^^^
                  (s ^^^ (BitVec.ofBool e).setWidth w) := by
              rw [both]
              ac_rfl
            rw [feed, first, shift_xor]
            rfl
          rw [List.zipWith_cons_cons, run_cons, bit, ih _ _ (Nat.succ.inj same)]
          rfl

/-- Bits that are not set only shift the remainder. -/
theorem run_clear (poly r : BitVec w) (clear : ∀ b ∈ bits, b = false) :
    run (feed poly) r bits = (shift poly)^[bits.length] r := by
  induction bits generalizing r with
  | nil => rfl
  | cons b bits ih =>
      have none : feed poly r b = shift poly r := by
        rw [clear b List.mem_cons_self, feed]
        simp
      rw [run_cons, none, ih _ fun b mem => clear b (List.mem_cons_of_mem _ mem),
        List.length_cons, Function.iterate_succ_apply]

theorem pack_ne_zero (fits : bits.length ≤ w) (present : true ∈ bits) : pack w bits ≠ 0#w := by
  intro none
  obtain ⟨i, inside, set⟩ := List.mem_iff_getElem.mp present
  have bit := congrArg (fun v : BitVec w => v.getLsbD i) none
  simp [getLsbD_pack bits (show i < w by omega), inside, set] at bit

/-- It is enough to look at the places of the list. -/
theorem Burst.of_places (present : true ∈ errors) (start : Nat)
    (inside : ∀ i < errors.length, errors.getD i false = true → start ≤ i ∧ i < start + n) :
    Burst n errors := by
  refine ⟨present, start, ?_⟩
  intro i set
  by_cases bound : i < errors.length
  · exact inside i bound set
  · rw [List.getD_eq_default _ _ (Nat.not_lt.mp bound)] at set
    cases set

/-- What is not set lies before or after the window. -/
theorem Burst.split (burst : Burst n errors) : ∃ before within after,
    errors = before ++ within ++ after ∧ (∀ b ∈ before, b = false) ∧ (∀ b ∈ after, b = false) ∧
      within.length ≤ n ∧ true ∈ within := by
  obtain ⟨present, start, window⟩ := burst
  have clear {b : Bool} {i : Nat} (outside : ¬(start ≤ i ∧ i < start + n))
      (inside : i < errors.length) (here : errors[i] = b) : b = false := by
    rw [← Bool.not_eq_true]
    intro set
    apply outside
    apply window
    rw [List.getD_eq_getElem _ _ inside, here, set]
  have early : ∀ b ∈ errors.take start, b = false := by
    intro b mem
    obtain ⟨i, inside, here⟩ := List.mem_iff_getElem.mp mem
    rw [List.length_take] at inside
    exact clear (i := i) (by omega) (by omega) (by simpa using here)
  have late : ∀ b ∈ errors.drop (start + n), b = false := by
    intro b mem
    obtain ⟨i, inside, here⟩ := List.mem_iff_getElem.mp mem
    rw [List.length_drop] at inside
    exact clear (i := start + n + i) (by omega) (by omega) (by simpa using here)
  have split : errors = errors.take start ++ (errors.drop start).take n ++
      errors.drop (start + n) := by
    rw [List.append_assoc, ← List.drop_drop, List.take_append_drop, List.take_append_drop]
  refine ⟨_, _, _, split, early, late, ?_, ?_⟩
  · exact List.length_take_le _ _
  · rw [split, List.mem_append, List.mem_append] at present
    rcases present with (before | within) | after
    · cases early _ before
    · exact within
    · cases late _ after

/-- A burst that fits into the remainder leaves one. -/
theorem run_burst (top : poly.getLsbD (w - 1) = true) (burst : Burst w errors) :
    run (feed poly) 0#w errors ≠ 0#w := by
  obtain ⟨before, within, after, split, early, late, fits, present⟩ := burst.split
  rw [split, run_append, run_append, run_clear _ _ early, shift_iterate_zero, run_feed _ _ fits,
    run_clear _ _ late]
  apply shift_iterate_ne_zero top
  apply shift_iterate_ne_zero top
  rw [BitVec.zero_xor]
  exact pack_ne_zero fits present

/-- A message without a remainder has one after a burst. -/
theorem run_corrupt (top : poly.getLsbD (w - 1) = true) (sound : run (feed poly) r bits = 0#w)
    (same : bits.length = errors.length) (burst : Burst w errors) :
    run (feed poly) r (List.zipWith xor bits errors) ≠ 0#w := by
  have linear := run_xor poly r 0#w same
  rw [BitVec.xor_zero, sound, BitVec.zero_xor] at linear
  rw [linear]
  exact run_burst top burst

end

end Crc
