import Jincubator.Library.Run
import Mathlib.Data.Set.Defs

/-! # Threads over shared cells

The events of a system belong to threads that run in any order over the same cells, and
each event writes within a footprint. A cell then changes in a run only where one of its
writers acts.
-/

namespace Interleaving

open Run

variable {σ ε ι β : Type*}

/-- A step function, the cells of its states and the footprints of its events. -/
structure Program (σ ε ι β : Type*) where
  step : σ → ε → σ
  cell : σ → ι → β
  writes : ε → Set ι
  keeps : ∀ s e, ∀ i ∉ writes e, cell (step s e) i = cell s i

namespace Program

variable (P : Program σ ε ι β) {i : ι} {s : σ} {es : List ε}

/-- A cell that has changed was changed by one of its writers. -/
theorem exists_writer (changed : P.cell (run P.step s es) i ≠ P.cell s i) :
    ∃ before e after, es = before ++ e :: after ∧ i ∈ P.writes e ∧
      P.cell (P.step (run P.step s before) e) i ≠ P.cell (run P.step s before) i := by
  induction es generalizing s with
  | nil => exact absurd rfl changed
  | cons e es ih =>
      by_cases now : P.cell (P.step s e) i = P.cell s i
      · rw [run_cons, ← now] at changed
        obtain ⟨before, f, after, rfl, writes, step⟩ := ih changed
        exact ⟨e :: before, f, after, rfl, writes, step⟩
      · refine ⟨[], e, es, rfl, ?_, now⟩
        by_contra kept
        exact now (P.keeps s e i kept)

end Program

end Interleaving
