import Mathlib.Algebra.Notation.Defs
import Mathlib.Data.List.Basic
import Mathlib.Logic.Function.Basic

/-! # Stored values and defaults

A list of stores sets cells one after the other, and a list of defaults sets those that
are zero. Both act on each cell alone: a default counts if it is the first one of its cell
that is not zero.
-/

namespace Defaults

variable {ι β : Type*} [DecidableEq ι]

/-! ## Stores -/

def store (l : List (ι × β)) (f : ι → β) : ι → β :=
  l.foldl (fun f d => Function.update f d.1 d.2) f

section

variable {l : List (ι × β)} {f g : ι → β} {i : ι}

theorem store_of_notMem (other : i ∉ l.map Prod.fst) (f : ι → β) : store l f i = f i := by
  induction l generalizing f with
  | nil => rfl
  | cons d l ih =>
      rw [List.map_cons, List.mem_cons, not_or] at other
      exact (ih other.2 _).trans (Function.update_of_ne other.1 _ _)

/-- What a cell holds afterwards depends on the cell only. -/
theorem store_congr (same : f i = g i) : store l f i = store l g i := by
  induction l generalizing f g with
  | nil => exact same
  | cons d l ih =>
      have stored : Function.update f d.1 d.2 i = Function.update g d.1 d.2 i := by
        by_cases own : i = d.1
        · rw [own, Function.update_self, Function.update_self]
        · rw [Function.update_of_ne own, Function.update_of_ne own, same]
      exact ih stored

end

/-! ## Defaults -/

variable [Zero β] [DecidableEq β]

/-- A cell that is zero takes the value. -/
def fillCell (f : ι → β) (d : ι × β) : ι → β :=
  if f d.1 = 0 then Function.update f d.1 d.2 else f

def fill (l : List (ι × β)) (f : ι → β) : ι → β := l.foldl fillCell f

/-- The first default of the cell that is not zero. -/
def first : List (ι × β) → ι → β
  | [], _ => 0
  | d :: l, i => if d.1 = i ∧ d.2 ≠ 0 then d.2 else first l i

section

variable {l : List (ι × β)} {f : ι → β} {i : ι}

theorem fillCell_apply (d : ι × β) (f : ι → β) (i : ι) :
    fillCell f d i = if d.1 = i ∧ f i = 0 then d.2 else f i := by
  by_cases own : d.1 = i
  · subst own
    simp only [fillCell, true_and]
    split
    · exact Function.update_self _ _ _
    · rfl
  · have other : ¬(d.1 = i ∧ f i = 0) := fun both => own both.1
    rw [if_neg other, fillCell]
    split
    · exact Function.update_of_ne (Ne.symm own) _ _
    · rfl

theorem fill_apply (l : List (ι × β)) (f : ι → β) (i : ι) :
    fill l f i = if f i = 0 then first l i else f i := by
  induction l generalizing f with
  | nil =>
      rw [first]
      split
      · assumption
      · rfl
  | cons d l ih =>
      have rest : fill (d :: l) f i = fill l (fillCell f d) i := rfl
      rw [rest, ih, fillCell_apply, first]
      by_cases own : d.1 = i
      · by_cases empty : f i = 0
        · by_cases nothing : d.2 = 0
          · simp [own, empty, nothing]
          · simp [own, empty, nothing]
        · simp [own, empty]
      · simp [own]

theorem first_of_notMem (other : i ∉ l.map Prod.fst) : first l i = 0 := by
  induction l with
  | nil => rfl
  | cons d l ih =>
      rw [List.map_cons, List.mem_cons, not_or] at other
      rw [first, if_neg fun both => other.1 both.1.symm, ih other.2]

/-- A cell without a default is left as it is. -/
theorem fill_of_notMem (other : i ∉ l.map Prod.fst) (f : ι → β) : fill l f i = f i := by
  rw [fill_apply, first_of_notMem other]
  split
  · rename_i empty
    exact empty.symm
  · rfl

/-- Where all defaults of a cell are the same, the cell gets that one. -/
theorem first_of_only {w : β} (only : ∀ d ∈ l, d.1 = i → d.2 = w)
    (some' : i ∈ l.map Prod.fst ∨ w = 0) : first l i = w := by
  induction l with
  | nil =>
      cases some' with
      | inl mem => cases mem
      | inr zero => exact zero.symm
  | cons d l ih =>
      have same := only d List.mem_cons_self
      rw [first]
      split
      · rename_i own
        exact same own.1
      · rename_i passed
        refine ih (fun e mem => only e (List.mem_cons_of_mem d mem)) ?_
        by_cases own : d.1 = i
        · right
          rw [← same own]
          exact not_not.mp fun value => passed ⟨own, value⟩
        · rw [List.map_cons, List.mem_cons] at some'
          exact some'.imp_left fun mem => mem.resolve_left (Ne.symm own)

theorem first_append (other : i ∉ l.map Prod.fst) (m : List (ι × β)) :
    first (l ++ m) i = first m i := by
  induction l with
  | nil => rfl
  | cons d l ih =>
      rw [List.map_cons, List.mem_cons, not_or] at other
      rw [List.cons_append, first, if_neg fun both => other.1 both.1.symm, ih other.2]

end

end Defaults
