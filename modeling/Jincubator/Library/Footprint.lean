import Mathlib.Logic.Function.Basic

/-! # Footprints of memory updates

A procedure over a memory is described by the list of cells it may write. The
iff forms below let a footprint be computed backwards through a sequence of
updates, one rewrite for each update, with membership as the only side condition.
A procedure that uses the listed cells only does the same over any two memories
mixed along the list.
-/

namespace Footprint

variable {ι β : Type*}

/-- The second memory differs from the first at most on the listed cells. -/
def AgreeOff (writes : List ι) (f g : ι → β) : Prop :=
  ∀ i, i ∉ writes → g i = f i

theorem AgreeOff.refl (writes : List ι) (f : ι → β) : AgreeOff writes f f :=
  fun _ _ => rfl

theorem AgreeOff.trans {writes : List ι} {f g h : ι → β} (fg : AgreeOff writes f g)
    (gh : AgreeOff writes g h) : AgreeOff writes f h :=
  fun i out => (gh i out).trans (fg i out)

theorem AgreeOff.symm {writes : List ι} {f g : ι → β} (fg : AgreeOff writes f g) :
    AgreeOff writes g f :=
  fun i out => (fg i out).symm

theorem AgreeOff.mono {few many : List ι} {f g : ι → β} (fg : AgreeOff few f g)
    (sub : few ⊆ many) : AgreeOff many f g :=
  fun i out => fg i fun mem => out (sub mem)

/-- A procedure whose footprint is allowed can be skipped. -/
theorem agreeOff_skip {few many : List ι} {f g h : ι → β} (gh : AgreeOff few g h)
    (sub : few ⊆ many) : AgreeOff many f h ↔ AgreeOff many f g :=
  ⟨fun fh => fh.trans (gh.mono sub).symm, fun fg => fg.trans (gh.mono sub)⟩

theorem agreeOff_update [DecidableEq ι] (f : ι → β) (i : ι) (v : β) :
    AgreeOff [i] f (Function.update f i v) := by
  intro j out
  have other : j ≠ i := fun same => out (List.mem_singleton.mpr same)
  exact Function.update_of_ne other v f

/-! ## Mixed memories -/

section

variable [DecidableEq ι] {cells : List ι} {f g : ι → β} {i : ι}

/-- The first memory on the listed cells, the second elsewhere. -/
def mix (cells : List ι) (f g : ι → β) : ι → β :=
  fun i => if i ∈ cells then f i else g i

theorem mix_of_mem (mem : i ∈ cells) : mix cells f g i = f i := if_pos mem

/-- Updating a listed cell updates the first memory. -/
theorem update_mix (mem : i ∈ cells) (v : β) :
    Function.update (mix cells f g) i v = mix cells (Function.update f i v) g := by
  funext j
  by_cases same : j = i
  · rw [same, Function.update_self, mix_of_mem mem, Function.update_self]
  · rw [Function.update_of_ne same, mix, mix, Function.update_of_ne same]

theorem mix_eq_of_agree (same : ∀ i ∈ cells, g i = f i) : mix cells f g = g := by
  funext i
  rw [mix]
  split
  · rename_i mem
    exact (same i mem).symm
  · rfl

end

end Footprint
