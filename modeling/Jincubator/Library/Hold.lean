import Jincubator.Library.Run

/-! # Outputs with a minimum run time

A hold counter counts the calls that ask for its output up and the other ones down.
Beyond a limit the output comes on. From then on the counter is only counted down,
and the output goes off when the count is used up.
-/

namespace Hold

open Run

/-- An output that is on has something left to count down. -/
structure Counter where
  count : Nat
  on : Bool
  left : on = true → 0 < count

namespace Counter

def idle : Counter where
  count := 0
  on := false
  left := nofun

/-- While the output is on, asking for it counts nothing. -/
def counted (asked : Bool) (h : Counter) : Nat :=
  match h.on, asked with
  | true, true => h.count
  | false, true => h.count + 1
  | _, false => h.count - 1

/-- The count before it is cut off at zero. -/
def reached (asked : Bool) (h : Counter) : Int :=
  if asked then if h.on then h.count else h.count + 1 else h.count - 1

theorem counted_reached (h : Counter) (asked : Bool) :
    (h.counted asked : Int) = max 0 (h.reached asked) := by
  cases lit : h.on <;> cases asked <;> simp [counted, reached, lit] <;> omega

def next (limit : Nat) (h : Counter) (asked : Bool) : Counter where
  count := h.counted asked
  on := decide (limit < h.counted asked ∨ h.on = true ∧ 0 < h.counted asked)
  left := by
    intro lit
    rcases of_decide_eq_true lit with beyond | held
    · omega
    · exact held.2

section

variable {limit most : Nat} {h : Counter} {asked : Bool}

@[ext] theorem ext {g h : Counter} (count : g.count = h.count) (on : g.on = h.on) : g = h := by
  cases g
  cases h
  congr

theorem next_on_iff (limit : Nat) (h : Counter) (asked : Bool) : (h.next limit asked).on = true ↔
    limit < h.counted asked ∨ h.on = true ∧ 0 < h.counted asked :=
  decide_eq_true_iff

/-- The count passes the limit by one at most, and only while the output is on. -/
structure Within (limit : Nat) (h : Counter) : Prop where
  most : h.count ≤ limit + 1
  off : h.on = false → h.count ≤ limit

theorem within_idle (limit : Nat) : idle.Within limit :=
  ⟨Nat.zero_le _, fun _ => Nat.zero_le _⟩

theorem Within.next (within : h.Within most) (bound : limit ≤ most) (asked : Bool) :
    (h.next limit asked).Within most := by
  obtain ⟨highest, low⟩ := within
  have stays : ¬(h.next limit asked).on = true → h.counted asked ≤ most := by
    rw [next_on_iff, not_or, Nat.not_lt]
    exact fun still => Nat.le_trans still.1 bound
  have highest : h.counted asked ≤ most + 1 := by
    cases lit : h.on with
    | true => cases asked <;> simp only [counted, lit] <;> omega
    | false =>
        have low := low lit
        cases asked <;> simp only [counted, lit] <;> omega
  exact ⟨highest, fun off => stays (by simp [off])⟩

theorem run_within (within : h.Within limit) (requests : List Bool) :
    (run (Counter.next limit) h requests).Within limit :=
  run_invariant (fun _ asked kept => kept.next (Nat.le_refl limit) asked) within requests

/-- The output comes on with the count just beyond the limit. -/
theorem next_rises (within : h.Within limit) (off : h.on = false)
    (lit : (h.next limit asked).on = true) : (h.next limit asked).count = limit + 1 := by
  have low := within.off off
  rw [next_on_iff, off] at lit
  have beyond := lit.resolve_right fun held => Bool.false_ne_true held.1
  have reached : h.counted asked ≤ h.count + 1 := by
    cases asked <;> simp only [counted, off] <;> omega
  show h.counted asked = limit + 1
  omega

/-- What is counted while the output is on. -/
theorem counted_of_on (lit : h.on = true) (asked : Bool) :
    h.counted asked = if asked then h.count else h.count - 1 := by
  cases asked <;> simp only [counted, lit] <;> rfl

/-- The output stays on until it has not been asked for as often as it has counted. -/
theorem run_lit (limit : Nat) (lit : h.on = true) {requests : List Bool}
    (few : requests.count false < h.count) :
    (run (Counter.next limit) h requests).on = true ∧
      (run (Counter.next limit) h requests).count = h.count - requests.count false := by
  induction requests generalizing h with
  | nil => exact ⟨lit, rfl⟩
  | cons asked requests ih =>
      rw [List.count_cons] at few ⊢
      have counted := counted_of_on lit asked
      have left : (h.next limit asked).count = h.counted asked := rfl
      have some : 0 < h.counted asked := by cases asked <;> simp at counted few <;> omega
      have held : (h.next limit asked).on = true :=
        (next_on_iff limit h asked).mpr (Or.inr ⟨lit, some⟩)
      obtain ⟨on, rest⟩ := ih held (by cases asked <;> simp at counted few <;> omega)
      refine ⟨on, ?_⟩
      rw [run_cons, rest, left, counted]
      cases asked <;> simp; omega

/-- The call that uses the count up switches the output off. -/
theorem next_dark (lit : h.on = true) (last : h.count = 1) : h.next limit false = idle := by
  have none : h.counted false = 0 := by
    rw [counted_of_on lit, last]
    rfl
  ext
  · exact none
  · show decide _ = false
    simp [none]

end

end Counter

end Hold
