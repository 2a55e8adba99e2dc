import Mathlib.Algebra.Order.Group.Unbundled.Int
import Mathlib.Data.List.Basic

/-! # Followers with a dead band

A follower keeps its value while the samples stay within a tolerance of it. A sample
farther away is followed up to the tolerance, so the value moves towards the sample
and stays between two of the samples.
-/

namespace Deadband

def follow (tolerance old new : Int) : Int :=
  if |new - old| ≤ tolerance then old
  else if old < new then new - tolerance
  else new + tolerance

/-- The value stays, or lies between the old value and the sample with the tolerance left. -/
structure Follows (tolerance old new v : Int) : Prop where
  near : |new - old| ≤ tolerance → v = old
  between : tolerance < |new - old| → min old new ≤ v ∧ v ≤ max old new
  apart : tolerance < |new - old| → |new - v| = tolerance

section

variable {tolerance old new v : Int}

/-- There is no other value to follow a sample with. -/
theorem follows_iff (nonneg : 0 ≤ tolerance) :
    Follows tolerance old new v ↔ v = follow tolerance old new := by
  rw [follow]
  split
  · rename_i near
    constructor
    · intro follows
      exact follows.near near
    · intro same
      constructor
      case near => exact fun _ => same
      case between => exact fun far => absurd near (not_le.mpr far)
      case apart => exact fun far => absurd near (not_le.mpr far)
  · rename_i far
    rw [Int.abs_eq_natAbs] at far
    constructor
    · intro follows
      have between := follows.between
      have apart := follows.apart
      simp only [Int.abs_eq_natAbs] at between apart
      split <;> omega
    · intro same
      constructor
      case near =>
        intro near
        rw [Int.abs_eq_natAbs] at near
        omega
      case between =>
        intro _
        split at same <;> omega
      case apart =>
        intro _
        rw [Int.abs_eq_natAbs]
        split at same <;> omega

end

/-- Between two of the samples. -/
def Among (samples : List Int) (v : Int) : Prop :=
  (∃ a ∈ samples, a ≤ v) ∧ ∃ b ∈ samples, v ≤ b

section

variable {samples more : List Int} {v : Int}

theorem among_self (mem : v ∈ samples) : Among samples v :=
  ⟨⟨v, mem, le_rfl⟩, v, mem, le_rfl⟩

theorem Among.append (among : Among samples v) (more : List Int) : Among (samples ++ more) v := by
  obtain ⟨⟨a, low, below⟩, b, high, above⟩ := among
  exact ⟨⟨a, List.mem_append_left _ low, below⟩, b, List.mem_append_left _ high, above⟩

end

end Deadband
