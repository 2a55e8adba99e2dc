import Mathlib.Logic.Basic

/-! # Two-point alarms

An alarm is set beyond one point and cleared behind another, and in between it
stays as it is. It is set before it is cleared, so after a round it stands exactly
if it is not to be cleared, and was set or stood before.
-/

namespace Hysteresis

variable {σ β : Type*}

/-- One round of an alarm that a state keeps beside other things. -/
def round (write : β → σ → σ) (on off : β) (set clear : σ → Prop) [DecidablePred set]
    [DecidablePred clear] (s : σ) : σ :=
  let t := if set s then write on s else s
  if clear t then write off t else t

/-- What both ways of writing keep is kept by a round. -/
theorem round_keeps {write : β → σ → σ} {on off : β} {set clear : σ → Prop} [DecidablePred set]
    [DecidablePred clear] {P : σ → Prop} (kept_on : ∀ t, P t → P (write on t))
    (kept_off : ∀ t, P t → P (write off t)) {s : σ} (start : P s) :
    P (round write on off set clear s) := by
  have raised : P (if set s then write on s else s) := by
    split
    · exact kept_on s start
    · exact start
  have withdrawn (t : σ) (kept : P t) : P (if clear t then write off t else t) := by
    split
    · exact kept_off t kept
    · exact kept
  exact withdrawn _ raised

theorem round_stands {write : β → σ → σ} (read : σ → β) {on off : β} {set clear : σ → Prop}
    [DecidablePred set] [DecidablePred clear] {s : σ} (distinct : off ≠ on)
    (written_on : ∀ t, read (write on t) = on) (written_off : ∀ t, read (write off t) = off)
    (same : clear (write on s) ↔ clear s) :
    read (round write on off set clear s) = on ↔ ¬clear s ∧ (set s ∨ read s = on) := by
  rw [round]
  by_cases raised : set s
  · rw [if_pos raised]
    by_cases cleared : clear s
    · rw [if_pos (same.mpr cleared), written_off]
      exact iff_of_false distinct fun kept => kept.1 cleared
    · rw [if_neg fun now => cleared (same.mp now), written_on]
      exact iff_of_true rfl ⟨cleared, Or.inl raised⟩
  · rw [if_neg raised]
    by_cases cleared : clear s
    · rw [if_pos cleared, written_off]
      exact iff_of_false distinct fun kept => kept.1 cleared
    · rw [if_neg cleared, or_iff_right raised]
      exact (and_iff_right cleared).symm

end Hysteresis
