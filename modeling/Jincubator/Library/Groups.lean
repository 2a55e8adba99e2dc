import Mathlib.Algebra.BigOperators.Group.List.Basic
import Mathlib.Algebra.Group.End

/-! # Groups of places in one order

A memory is cut into groups of one size, and every group is put into the same order.
An order is a permutation of the places of a group; orders that follow each other are
multiplied, and a loop that puts one group after the other into an order puts all of
them into it.
-/

namespace Groups

section

variable {β : Type*} {size start n : Nat} {m m' m'' : Nat → β} {p q : Equiv.Perm (Fin size)}

/-- In each of `n` groups the place `k` holds what the place `p k` held before. -/
structure Regrouped (p : Equiv.Perm (Fin size)) (start n : Nat) (m m' : Nat → β) : Prop where
  inside : ∀ g < n, ∀ k : Fin size, m' (start + size * g + k) = m (start + size * g + p k)
  outside : ∀ i, i < start ∨ start + size * n ≤ i → m' i = m i

namespace Regrouped

theorem refl (size start n : Nat) (m : Nat → β) :
    Regrouped (1 : Equiv.Perm (Fin size)) start n m m := by
  constructor
  case inside => exact fun g _ k => rfl
  case outside => exact fun i _ => rfl

theorem trans (first : Regrouped p start n m m') (second : Regrouped q start n m' m'') :
    Regrouped (p * q) start n m m'' := by
  constructor
  case inside =>
    intro g within k
    rw [second.inside g within, first.inside g within, Equiv.Perm.mul_apply]
  case outside =>
    intro i beyond
    rw [second.outside i beyond, first.outside i beyond]

/-- A place is outside of the groups or one of a group. -/
theorem unique (one : Regrouped p start n m m') (other : Regrouped p start n m m'') :
    m' = m'' := by
  funext i
  by_cases beyond : i < start ∨ start + size * n ≤ i
  · rw [one.outside i beyond, other.outside i beyond]
  · have positive : 0 < size := by
      refine Nat.pos_of_ne_zero ?_
      rintro rfl
      omega
    have group : (i - start) / size < n := Nat.div_lt_of_lt_mul (by omega)
    have place : i = start + size * ((i - start) / size) + (i - start) % size := by
      have parts := Nat.div_add_mod (i - start) size
      omega
    have same := one.inside _ group ⟨_, Nat.mod_lt (i - start) positive⟩
    rw [← other.inside _ group] at same
    rwa [place]

/-- The first group, then those behind it. -/
theorem cons (first : Regrouped p start 1 m m') (rest : Regrouped p (start + size) n m' m'') :
    Regrouped p start (n + 1) m m'' := by
  constructor
  case inside =>
    intro g within k
    have place := k.isLt
    cases g with
    | zero =>
        rw [rest.outside _ (by omega), first.inside 0 Nat.one_pos]
    | succ g =>
        have later (j : Nat) : start + size * (g + 1) + j = start + size + size * g + j := by
          rw [Nat.mul_succ]
          omega
        rw [later, later, rest.inside g (Nat.lt_of_succ_lt_succ within),
          first.outside _ (by omega)]
  case outside =>
    intro i beyond
    rw [Nat.mul_succ] at beyond
    rw [rest.outside i (by omega), first.outside i (by omega)]

end Regrouped

/-! ## Exchanges -/

theorem regrouped_swap (a b : Fin size) (start : Nat) (m : Nat → β) :
    Regrouped (Equiv.swap a b) start 1 m (m ∘ Equiv.swap (start + a) (start + b)) := by
  constructor
  case inside =>
    intro g within k
    have place : Function.Injective fun k : Fin size => start + (k : Nat) :=
      fun j k same => Fin.ext (Nat.add_left_cancel same)
    rw [Nat.lt_one_iff.mp within, Nat.mul_zero, Nat.add_zero, Function.comp_apply]
    exact congrArg m (place.swap_apply a b k)
  case outside =>
    intro i beyond
    have first := a.isLt
    have second := b.isLt
    rw [Function.comp_apply, Equiv.swap_apply_of_ne_of_ne (by omega) (by omega)]

/-- The order that a list of exchanges leaves. -/
def order (pairs : List (Fin size × Fin size)) : Equiv.Perm (Fin size) :=
  (pairs.map fun pair => Equiv.swap pair.1 pair.2).prod

/-- The exchanges of one group. -/
def exchanges (pairs : List (Fin size × Fin size)) (start : Nat) (m : Nat → β) : Nat → β :=
  pairs.foldl (fun m pair => m ∘ Equiv.swap (start + pair.1) (start + pair.2)) m

theorem regrouped_exchanges (pairs : List (Fin size × Fin size)) (start : Nat) (m : Nat → β) :
    Regrouped (order pairs) start 1 m (exchanges pairs start m) := by
  induction pairs generalizing m with
  | nil => exact .refl size start 1 m
  | cons pair pairs ih =>
      have rest := ih (m ∘ Equiv.swap (start + pair.1) (start + pair.2))
      exact (regrouped_swap pair.1 pair.2 start m).trans rest

end

/-! ## One group after the other -/

section

variable {σ : Type*}

/-- The body runs for every group, with the place the group starts at. -/
def eachGroup (size : Nat) (body : Nat → σ → σ) : Nat → Nat → σ → σ
  | 0, _, s => s
  | n + 1, start, s => eachGroup size body n (start + size) (body start s)

theorem regrouped_eachGroup {β : Type*} {size : Nat} {p : Equiv.Perm (Fin size)}
    {body : Nat → (Nat → β) → Nat → β}
    (group : ∀ start m, Regrouped p start 1 m (body start m)) (n start : Nat) (m : Nat → β) :
    Regrouped p start n m (eachGroup size body n start m) := by
  induction n generalizing start m with
  | zero =>
      constructor
      case inside => exact fun g within => absurd within (Nat.not_lt_zero g)
      case outside => exact fun i _ => rfl
  | succ n ih => exact (group start m).cons (ih (start + size) (body start m))

end

end Groups
