import Mathlib.Algebra.Order.Field.Power
import Mathlib.Data.Rat.Floor
import Mathlib.Tactic.GCongr
import Mathlib.Tactic.Positivity
import Mathlib.Tactic.Ring

/-! # Binary rounding

Rounding of a rational to a number of significant bits, to nearest with ties to
even, as binary floating point does it. Exponents are not bounded: overflow and
subnormal results are outside this account, and infinities come from divisions by zero
only.
-/

namespace Rounding

/-- The nearest integer, the even one of two. -/
def nearestEven (q : ℚ) : ℤ :=
  let below := q.floor
  let rest := q - below
  if rest < 1 / 2 then below
  else if 1 / 2 < rest then below + 1
  else if below % 2 = 0 then below
  else below + 1

/-- The exponent of the leading bit. -/
def exponent (q : ℚ) : ℤ :=
  let e : ℤ := (q.num.natAbs.log2 : ℤ) - q.den.log2
  if (2 : ℚ) ^ e ≤ |q| then e else e - 1

def roundTo (precision : ℕ) (q : ℚ) : ℚ :=
  let ulp := (2 : ℚ) ^ (exponent q - (precision - 1))
  nearestEven (q / ulp) * ulp

/-- A quotient in double precision, kept in single precision. -/
def single (q : ℚ) : ℚ := roundTo 24 (roundTo 53 q)

/-- The integer part, towards zero. -/
def truncate (q : ℚ) : ℤ := q.num.tdiv q.den

@[simp] theorem nearestEven_zero : nearestEven 0 = 0 := by
  have whole : (0 : ℚ).floor = 0 := by rfl
  simp [nearestEven, whole]

@[simp] theorem roundTo_zero (precision : ℕ) : roundTo precision 0 = 0 := by
  simp [roundTo]

@[simp] theorem single_zero : single 0 = 0 := by
  simp [single]

@[simp] theorem truncate_zero : truncate 0 = 0 := by
  simp [truncate]

/-- The leading bit is not beyond the value. -/
theorem zpow_exponent_le {q : ℚ} (nonzero : q ≠ 0) : (2 : ℚ) ^ exponent q ≤ |q| := by
  have num : q.num.natAbs ≠ 0 := Int.natAbs_ne_zero.mpr (Rat.num_ne_zero.mpr nonzero)
  have lower : ((2 : ℚ) ^ q.num.natAbs.log2) ≤ q.num.natAbs := by
    exact_mod_cast Nat.log2_self_le num
  have upper : (q.den : ℚ) < (2 : ℚ) ^ (q.den.log2 + 1) := by
    exact_mod_cast Nat.lt_log2_self
  have den : (0 : ℚ) < q.den := by exact_mod_cast q.den_pos
  have value : |q| = q.num.natAbs / q.den := by
    have quotient : |q| = |(q.num : ℚ) / q.den| := by rw [Rat.num_div_den]
    rw [quotient, abs_div, abs_of_pos den, Nat.cast_natAbs, Int.cast_abs]
  rw [exponent]
  split
  · next fits => exact fits
  · rw [value, le_div_iff₀ den]
    calc (2 : ℚ) ^ ((q.num.natAbs.log2 : ℤ) - q.den.log2 - 1) * q.den
        ≤ 2 ^ ((q.num.natAbs.log2 : ℤ) - q.den.log2 - 1) * 2 ^ (q.den.log2 + 1) := by gcongr
      _ = 2 ^ q.num.natAbs.log2 := by
          rw [← zpow_natCast, ← zpow_add₀ two_ne_zero, ← zpow_natCast]
          congr 1
          push_cast
          ring
      _ ≤ q.num.natAbs := lower

theorem nearestEven_pos {q : ℚ} (one : 1 ≤ q) : 0 < nearestEven q := by
  have below : 1 ≤ q.floor := Rat.le_floor_iff.mpr (by exact_mod_cast one)
  rw [nearestEven]
  split_ifs <;> omega

theorem nearestEven_nonpos {q : ℚ} (nonpos : q ≤ 0) : nearestEven q ≤ 0 := by
  have least := Rat.floor_le q
  by_cases whole : q.floor = 0
  · have zero : q = 0 := by
      rw [whole] at least
      exact le_antisymm nonpos least
    rw [zero, nearestEven_zero]
  · have below : q.floor ≤ 0 := by exact_mod_cast least.trans nonpos
    rw [nearestEven]
    split_ifs <;> omega

/-- Rounding keeps the sign. -/
theorem roundTo_pos {precision : ℕ} (bits : 1 ≤ precision) (q : ℚ) :
    0 < roundTo precision q ↔ 0 < q := by
  have ulp : (0 : ℚ) < 2 ^ (exponent q - (precision - 1)) := by positivity
  rw [roundTo]
  constructor
  · intro rounded
    by_contra nonpos
    have quotient : q / 2 ^ (exponent q - (precision - 1)) ≤ 0 :=
      div_nonpos_of_nonpos_of_nonneg (not_lt.mp nonpos) ulp.le
    have nearest : (nearestEven (q / 2 ^ (exponent q - (precision - 1))) : ℚ) ≤ 0 := by
      exact_mod_cast nearestEven_nonpos quotient
    exact absurd rounded (not_lt.mpr (mul_nonpos_of_nonpos_of_nonneg nearest ulp.le))
  · intro positive
    have leading := zpow_exponent_le positive.ne'
    rw [abs_of_pos positive] at leading
    have small : (2 : ℚ) ^ (exponent q - (precision - 1)) ≤ 2 ^ exponent q :=
      zpow_le_zpow_right₀ one_le_two (by omega)
    have quotient : 1 ≤ q / 2 ^ (exponent q - (precision - 1)) :=
      (one_le_div₀ ulp).mpr (small.trans leading)
    have nearest : (0 : ℚ) < nearestEven (q / 2 ^ (exponent q - (precision - 1))) := by
      exact_mod_cast nearestEven_pos quotient
    exact mul_pos nearest ulp

theorem single_pos (q : ℚ) : 0 < single q ↔ 0 < q := by
  rw [single, roundTo_pos (by decide), roundTo_pos (by decide)]

/-! ## Errors -/

theorem abs_nearestEven_sub_le (q : ℚ) : |nearestEven q - q| ≤ 1 / 2 := by
  have below := Rat.floor_le q
  have above := Rat.lt_floor_add_one q
  push_cast at above
  rw [abs_le, nearestEven]
  split_ifs <;> push_cast <;> constructor <;> linarith

/-- The error is at most half a unit of the last bit. -/
theorem abs_roundTo_sub_le (precision : ℕ) (q : ℚ) :
    |roundTo precision q - q| ≤ |q| * 2 ^ (-(precision : ℤ)) := by
  by_cases zero : q = 0
  · rw [zero, roundTo_zero]
    simp
  have ulp : (0 : ℚ) < 2 ^ (exponent q - (precision - 1)) := by positivity
  have scaled : roundTo precision q - q =
      (nearestEven (q / 2 ^ (exponent q - (precision - 1))) -
        q / 2 ^ (exponent q - (precision - 1))) * 2 ^ (exponent q - (precision - 1)) := by
    rw [roundTo, sub_mul, div_mul_cancel₀ q ulp.ne']
  have half : (2 : ℚ) ^ (exponent q - (precision - 1)) =
      2 * (2 ^ exponent q * 2 ^ (-(precision : ℤ))) := by
    rw [← zpow_add₀ two_ne_zero, ← zpow_one_add₀ two_ne_zero]
    congr 1
    ring
  have leading := zpow_exponent_le zero
  calc |roundTo precision q - q|
      = |nearestEven (q / 2 ^ (exponent q - (precision - 1))) -
          q / 2 ^ (exponent q - (precision - 1))| * 2 ^ (exponent q - (precision - 1)) := by
        rw [scaled, abs_mul, abs_of_pos ulp]
    _ ≤ 1 / 2 * 2 ^ (exponent q - (precision - 1)) := by
        gcongr
        exact abs_nearestEven_sub_le _
    _ = 2 ^ exponent q * 2 ^ (-(precision : ℤ)) := by
        rw [half]
        ring
    _ ≤ |q| * 2 ^ (-(precision : ℤ)) := by gcongr

theorem abs_roundTo_sub_le_of_abs_le {q bound : ℚ} (precision : ℕ) (small : |q| ≤ bound) :
    |roundTo precision q - q| ≤ bound * 2 ^ (-(precision : ℤ)) :=
  (abs_roundTo_sub_le precision q).trans (by gcongr)

/-- A sum with a rounding after every addition, as long as no partial sum exceeds `most`. -/
theorem abs_foldl_sub_sum_le (precision : ℕ) {bound most : ℚ} {xs : List ℚ} {start : ℚ}
    (small : ∀ x ∈ xs, |x| ≤ bound)
    (room : |start| + xs.length * (bound + most * 2 ^ (-(precision : ℤ))) ≤ most)
    (nonneg : 0 ≤ most) :
    |xs.foldl (fun sum x => roundTo precision (sum + x)) start - (start + xs.sum)| ≤
      xs.length * (most * 2 ^ (-(precision : ℤ))) := by
  have error : 0 ≤ most * 2 ^ (-(precision : ℤ)) := by positivity
  induction xs generalizing start with
  | nil => simp
  | cons x xs ih =>
      have first := small x List.mem_cons_self
      have rest : 0 ≤ xs.length * (bound + most * 2 ^ (-(precision : ℤ))) := by
        have positive : 0 ≤ bound := (abs_nonneg x).trans first
        positivity
      rw [List.length_cons, Nat.cast_succ, add_one_mul] at room
      have sum : |start + x| ≤ |start| + bound := (abs_add_le start x).trans (by gcongr)
      have bounded : |start + x| ≤ most := sum.trans (by linarith)
      have step := abs_roundTo_sub_le_of_abs_le precision bounded
      have next : |roundTo precision (start + x)| ≤ |start| + bound +
          most * 2 ^ (-(precision : ℤ)) := by
        have split := abs_add_le (roundTo precision (start + x) - (start + x)) (start + x)
        rw [sub_add_cancel] at split
        linarith
      have later := ih (fun y mem => small y (List.mem_cons_of_mem x mem)) (by linarith)
      rw [List.foldl_cons, List.sum_cons, List.length_cons, Nat.cast_succ, add_one_mul]
      obtain ⟨low, high⟩ := abs_le.mp step
      obtain ⟨lower, higher⟩ := abs_le.mp later
      exact abs_le.mpr ⟨by linarith, by linarith⟩

theorem truncate_neg (q : ℚ) : truncate (-q) = -truncate q := by
  rw [truncate, truncate, Rat.num_neg_eq_neg_num, Rat.den_neg_eq_den, Int.neg_tdiv]

theorem truncate_of_nonneg {q : ℚ} (nonneg : 0 ≤ q) : truncate q = q.floor := by
  rw [truncate, Rat.floor_def, Int.tdiv_eq_ediv_of_nonneg (Rat.num_nonneg.mpr nonneg)]

/-- Cutting off the fraction moves a value near a whole number to it or one nearer to zero. -/
theorem truncate_near {q : ℚ} {n : ℤ} (near : |q - n| < 1) :
    truncate q = n ∨ truncate q = n - n.sign := by
  have upper {q : ℚ} {n : ℤ} (nonneg : 0 ≤ q) (near : |q - n| < 1) :
      truncate q = n ∨ truncate q = n - n.sign := by
    have below := Rat.floor_le q
    have above := Rat.lt_floor_add_one q
    obtain ⟨low, high⟩ := abs_lt.mp near
    have least : n - 2 < q.floor := by
      have least : ((n - 2 : ℤ) : ℚ) < q.floor := by
        push_cast at above ⊢
        linarith
      exact_mod_cast least
    have most : q.floor < n + 1 := by
      have most : (q.floor : ℚ) < (n + 1 : ℤ) := by
        push_cast
        linarith
      exact_mod_cast most
    have zero : 0 ≤ q.floor := Rat.le_floor_iff.mpr (by exact_mod_cast nonneg)
    rw [truncate_of_nonneg nonneg]
    rcases lt_trichotomy n 0 with neg | rfl | pos
    · omega
    · omega
    · rw [Int.sign_eq_one_of_pos pos]
      omega
  by_cases nonneg : 0 ≤ q
  · exact upper nonneg near
  · have mirrored : |(-q) - ((-n : ℤ) : ℚ)| < 1 := by
      rw [← abs_neg]
      push_cast
      convert near using 2
      ring
    have other := upper (by linarith) mirrored
    rw [truncate_neg, Int.sign_neg] at other
    omega

/-! ## Infinities -/

/-- A number, an infinity of either sign, or what is none of them. -/
inductive Value where
  | finite (q : ℚ)
  | infinite (negative : Bool)
  | nan

namespace Value

/-- What is divided by zero becomes infinite, and zero itself no number. -/
def quotient (p q : ℚ) : Value :=
  if q ≠ 0 then .finite (p / q) else if p = 0 then .nan else .infinite (p < 0)

def add : Value → Value → Value
  | .finite p, .finite q => .finite (p + q)
  | .finite _, .infinite negative => .infinite negative
  | .infinite negative, .finite _ => .infinite negative
  | .infinite a, .infinite b => if a = b then .infinite a else .nan
  | .nan, _ => .nan
  | _, .nan => .nan

/-- An operation under which infinities stay as they are. -/
def map (f : ℚ → ℚ) : Value → Value
  | .finite q => .finite (f q)
  | .infinite negative => .infinite negative
  | .nan => .nan

/-- The integer part in 32 bits, which ends at the bounds. -/
def toInt32 : Value → ℤ
  | .finite q => max (-2147483648) (min 2147483647 (truncate q))
  | .infinite negative => if negative then -2147483648 else 2147483647
  | .nan => 0

def IsFinite (v : Value) : Prop := ∃ q, v = .finite q

variable {v w : Value} {f : ℚ → ℚ}

@[simp] theorem add_finite (p q : ℚ) : add (.finite p) (.finite q) = .finite (p + q) := rfl

@[simp] theorem map_finite (f : ℚ → ℚ) (q : ℚ) : map f (.finite q) = .finite (f q) := rfl

theorem toInt32_finite {q : ℚ} (small : |truncate q| ≤ 2147483647) :
    toInt32 (.finite q) = truncate q := by
  obtain ⟨low, high⟩ := abs_le.mp small
  rw [toInt32, min_eq_right high, max_eq_right (by omega)]

theorem isFinite_quotient (p q : ℚ) : (quotient p q).IsFinite ↔ q ≠ 0 := by
  rw [quotient]
  split
  · rename_i divides
    exact ⟨fun _ => divides, fun _ => ⟨_, rfl⟩⟩
  · rename_i zero
    refine ⟨?_, fun divides => absurd divides zero⟩
    rintro ⟨r, same⟩
    split at same <;> exact nomatch same

theorem isFinite_map (f : ℚ → ℚ) (v : Value) : (v.map f).IsFinite ↔ v.IsFinite := by
  cases v with
  | finite q => exact ⟨fun _ => ⟨_, rfl⟩, fun _ => ⟨_, rfl⟩⟩
  | infinite negative => exact Iff.intro nofun nofun
  | nan => exact Iff.intro nofun nofun

theorem isFinite_add (finite : (v.add w).IsFinite) : v.IsFinite ∧ w.IsFinite := by
  obtain ⟨q, same⟩ := finite
  cases v <;> cases w <;> simp only [add] at same
  case finite.finite => exact ⟨⟨_, rfl⟩, ⟨_, rfl⟩⟩
  case infinite.infinite => split at same <;> exact nomatch same
  all_goals exact nomatch same

/-- A sum of numbers with a rounding after each of them. -/
theorem foldl_add_finite (f : ℚ → ℚ) (qs : List ℚ) (start : ℚ) :
    (qs.map finite).foldl (fun (sum v : Value) => (sum.add v).map f) (.finite start) =
      .finite (qs.foldl (fun sum q => f (sum + q)) start) := by
  induction qs generalizing start with
  | nil => rfl
  | cons q qs ih =>
      rw [List.map_cons, List.foldl_cons, List.foldl_cons, add_finite, map_finite, ih]

/-- A sum is a number only if all its terms are. -/
theorem isFinite_foldl_add {vs : List Value} {start : Value}
    (finite : (vs.foldl (fun (sum v : Value) => (sum.add v).map f) start).IsFinite) :
    start.IsFinite ∧ ∀ v ∈ vs, v.IsFinite := by
  induction vs generalizing start with
  | nil => exact ⟨finite, nofun⟩
  | cons v vs ih =>
      obtain ⟨first, later⟩ := ih finite
      obtain ⟨begins, own⟩ := isFinite_add ((isFinite_map f _).mp first)
      exact ⟨begins, List.forall_mem_cons.mpr ⟨own, later⟩⟩

end Value

end Rounding
