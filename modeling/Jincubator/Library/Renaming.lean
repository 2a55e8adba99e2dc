import Mathlib.Logic.Equiv.Basic
import Mathlib.Logic.Function.Basic

/-! # Renamed memories

One memory is another one with its cells renamed by a permutation, apart from a
few exempt cells. Writing a cell in one and its namesake in the other keeps the
two renamed exactly if the same value is written.
-/

namespace Renaming

variable {ι β : Type*}

/-- The second memory holds in a cell what the first holds in its namesake. -/
def Renames (σ : Equiv.Perm ι) (exempt : List ι) (f g : ι → β) : Prop :=
  ∀ a, a ∉ exempt → g a = f (σ a)

theorem renames_const (σ : Equiv.Perm ι) (exempt : List ι) (v : β) :
    Renames σ exempt (fun _ => v) (fun _ => v) := by
  intro a inside
  rfl

variable [DecidableEq ι]

/-- The permutation that exchanges the two lists, cell by cell. -/
def exchange (left right : List ι) : Equiv.Perm ι :=
  (left.zip right).foldr (fun pair σ => (Equiv.swap pair.1 pair.2).trans σ) (Equiv.refl ι)

variable {σ : Equiv.Perm ι} {exempt : List ι} {f g : ι → β} {x : ι}

theorem Renames.update (renames : Renames σ exempt f g) (x : ι) (v : β) :
    Renames σ exempt (Function.update f (σ x) v) (Function.update g x v) := by
  intro a inside
  by_cases same : a = x
  · rw [same, Function.update_self, Function.update_self]
  · rw [Function.update_of_ne same, Function.update_of_ne (σ.injective.ne same)]
    exact renames a inside

/-- An exempt cell that keeps its name may hold anything. -/
theorem Renames.update_exempt (renames : Renames σ exempt f g) (mem : x ∈ exempt)
    (fixed : σ x = x) (v w : β) :
    Renames σ exempt (Function.update f x v) (Function.update g x w) := by
  intro a inside
  have own : a ≠ x := by
    intro same
    exact inside (same ▸ mem)
  have namesake : σ a ≠ x := by
    intro same
    exact own (σ.injective (same.trans fixed.symm))
  rw [Function.update_of_ne own, Function.update_of_ne namesake]
  exact renames a inside

end Renaming
