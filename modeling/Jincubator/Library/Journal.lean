import Jincubator.Library.Run
import Mathlib.Data.List.Nodup

/-! # Slots with a digest

A slot is a data file and a file with the digest of its contents. A record empties the
data file, appends the image byte by byte, and does the same with the digest. A pass
records one slot after the other. Steps may be cut anywhere: at most one slot is then
neither as it was nor recorded, and of its two files only one is incomplete.
-/

namespace Journal

open Run

variable {β ι : Type*}

/-- The contents of the two files; a file that does not exist has none. -/
structure Slot (β : Type*) where
  data : Option (List β)
  digest : Option (List β)

inductive Step (β : Type*) where
  | truncateData
  | appendData (b : β)
  | truncateDigest
  | appendDigest (b : β)

def Slot.step (slot : Slot β) : Step β → Slot β
  | .truncateData => { slot with data := some [] }
  | .appendData b => { slot with data := slot.data.map (· ++ [b]) }
  | .truncateDigest => { slot with digest := some [] }
  | .appendDigest b => { slot with digest := slot.digest.map (· ++ [b]) }

def writeData (image : List β) : List (Step β) := .truncateData :: image.map .appendData

def writeDigest (digest : List β) : List (Step β) := .truncateDigest :: digest.map .appendDigest

def record (image digest : List β) : List (Step β) := writeData image ++ writeDigest digest

/-! ## One slot -/

theorem run_appendData (image old : List β) (digest : Option (List β)) :
    run Slot.step ⟨some old, digest⟩ (image.map .appendData) = ⟨some (old ++ image), digest⟩ := by
  induction image generalizing old with
  | nil => simp
  | cons b image ih =>
      rw [List.map_cons, run_cons, Slot.step, Option.map_some, ih]
      simp

theorem run_appendDigest (digest old : List β) (data : Option (List β)) :
    run Slot.step ⟨data, some old⟩ (digest.map .appendDigest) = ⟨data, some (old ++ digest)⟩ := by
  induction digest generalizing old with
  | nil => simp
  | cons b digest ih =>
      rw [List.map_cons, run_cons, Slot.step, Option.map_some, ih]
      simp

theorem run_writeData (slot : Slot β) (image : List β) :
    run Slot.step slot (writeData image) = ⟨some image, slot.digest⟩ := by
  rw [writeData, run_cons, Slot.step, run_appendData, List.nil_append]

theorem run_writeDigest (slot : Slot β) (digest : List β) :
    run Slot.step slot (writeDigest digest) = ⟨slot.data, some digest⟩ := by
  rw [writeDigest, run_cons, Slot.step, run_appendDigest, List.nil_append]

theorem run_record (slot : Slot β) (image digest : List β) :
    run Slot.step slot (record image digest) = ⟨some image, some digest⟩ := by
  rw [record, run_append, run_writeData, run_writeDigest]

/-- A cut of two writes is in the first or in the second of them. -/
theorem prefix_append {α : Type*} {steps first second : List α}
    (cut : steps <+: first ++ second) :
    steps <+: first ∨ ∃ rest, rest <+: second ∧ steps = first ++ rest := by
  cases List.prefix_or_prefix_of_prefix cut (List.prefix_append first second) with
  | inl within => exact Or.inl within
  | inr beyond =>
      obtain ⟨rest, rfl⟩ := beyond
      exact Or.inr ⟨rest, (List.prefix_append_right_inj first).mp cut, rfl⟩

theorem cut_writeData {steps : List (Step β)} {image : List β} (slot : Slot β)
    (cut : steps <+: writeData image) :
    steps = [] ∨ ∃ part, part <+: image ∧ run Slot.step slot steps = ⟨some part, slot.digest⟩ := by
  rcases List.prefix_cons_iff.mp cut with none | ⟨rest, rfl, appended⟩
  · exact Or.inl none
  · obtain ⟨part, within, rfl⟩ := List.prefix_map_iff.mp appended
    exact Or.inr ⟨part, within, run_writeData slot part⟩

theorem cut_writeDigest {steps : List (Step β)} {digest : List β} (slot : Slot β)
    (cut : steps <+: writeDigest digest) :
    steps = [] ∨ ∃ part, part <+: digest ∧ run Slot.step slot steps = ⟨slot.data, some part⟩ := by
  rcases List.prefix_cons_iff.mp cut with none | ⟨rest, rfl, appended⟩
  · exact Or.inl none
  · obtain ⟨part, within, rfl⟩ := List.prefix_map_iff.mp appended
    exact Or.inr ⟨part, within, run_writeDigest slot part⟩

/-- A cut record leaves the old digest until the new image is complete. -/
theorem cut_record {steps : List (Step β)} {image digest : List β} (slot : Slot β)
    (cut : steps <+: record image digest) :
    steps = [] ∨
      (∃ part, part <+: image ∧ run Slot.step slot steps = ⟨some part, slot.digest⟩) ∨
      ∃ part, part <+: digest ∧ run Slot.step slot steps = ⟨some image, some part⟩ := by
  rcases prefix_append cut with first | ⟨rest, second, rfl⟩
  · cases cut_writeData slot first with
    | inl none => exact Or.inl none
    | inr written => exact Or.inr (Or.inl written)
  · refine Or.inr ?_
    rw [run_append, run_writeData]
    rcases cut_writeDigest ⟨some image, slot.digest⟩ second with rfl | written
    · exact Or.inl ⟨image, List.prefix_refl image, rfl⟩
    · exact Or.inr written

/-! ## A disk of slots -/

def pass (records : ι → List (Step β)) (slots : List ι) : List (ι × Step β) :=
  slots.flatMap fun k => (records k).map (k, ·)

/-- The cut of a pass is in the record of one of its slots. -/
theorem cut_pass {records : ι → List (Step β)} {slots : List ι} {steps : List (ι × Step β)}
    (cut : steps <+: pass records slots) :
    steps = [] ∨ ∃ before k after part, slots = before ++ k :: after ∧ part <+: records k ∧
      steps = pass records before ++ part.map (k, ·) := by
  induction slots generalizing steps with
  | nil => exact Or.inl (List.prefix_nil.mp cut)
  | cons j slots ih =>
      refine Or.inr ?_
      rcases prefix_append cut with within | ⟨rest, later, rfl⟩
      · obtain ⟨part, own, rfl⟩ := List.prefix_map_iff.mp within
        exact ⟨[], j, slots, part, rfl, own, rfl⟩
      · rcases ih later with rfl | ⟨before, k, after, part, rfl, own, rfl⟩
        · refine ⟨[], j, slots, records j, rfl, List.prefix_refl _, ?_⟩
          simp [pass]
        · refine ⟨j :: before, k, after, part, rfl, own, ?_⟩
          simp [pass]

theorem head_prefix_pass {records : ι → List (Step β)} {k : ι} {slots : List ι} {e : Step β}
    {rest : List (Step β)} (first : records k = e :: rest) :
    [(k, e)] <+: pass records (k :: slots) := by
  rw [pass, List.flatMap_cons, first, List.map_cons, List.cons_append]
  exact ⟨_, rfl⟩

section

variable [DecidableEq ι]

def diskStep (disk : ι → Slot β) (e : ι × Step β) : ι → Slot β :=
  Function.update disk e.1 ((disk e.1).step e.2)

/-- The steps of one slot. -/
def only (k : ι) (steps : List (ι × Step β)) : List (Step β) :=
  (steps.filter (·.1 = k)).map (·.2)

/-- A slot only follows its own steps. -/
theorem run_diskStep (disk : ι → Slot β) (steps : List (ι × Step β)) (k : ι) :
    run diskStep disk steps k = run Slot.step (disk k) (only k steps) := by
  induction steps generalizing disk with
  | nil => rfl
  | cons e steps ih =>
      rw [run_cons, ih, diskStep]
      by_cases own : e.1 = k
      · subst own
        simp [only]
      · have other : k ≠ e.1 := fun same => own same.symm
        simp [only, own, Function.update_of_ne other]

theorem only_append (k : ι) (first second : List (ι × Step β)) :
    only k (first ++ second) = only k first ++ only k second := by
  simp [only]

theorem only_own (k : ι) (steps : List (Step β)) : only k (steps.map (k, ·)) = steps := by
  simp [only, List.filter_map, Function.comp_def]

theorem only_other {k other : ι} (apart : other ≠ k) (steps : List (Step β)) :
    only k (steps.map (other, ·)) = [] := by
  simp [only, List.filter_map, Function.comp_def, apart]

/-- The steps of one slot leave the others alone. -/
theorem run_own (disk : ι → Slot β) (k : ι) (steps : List (Step β)) :
    run diskStep disk (steps.map (k, ·)) =
      Function.update disk k (run Slot.step (disk k) steps) := by
  funext other
  rw [run_diskStep]
  by_cases own : k = other
  · subst own
    rw [only_own, Function.update_self]
  · rw [only_other own, run_nil, Function.update_of_ne (Ne.symm own)]

theorem only_pass {records : ι → List (Step β)} {slots : List ι} (distinct : slots.Nodup)
    (k : ι) : only k (pass records slots) = if k ∈ slots then records k else [] := by
  induction slots with
  | nil => rfl
  | cons j slots ih =>
      obtain ⟨new, rest⟩ := List.nodup_cons.mp distinct
      have split : pass records (j :: slots) = (records j).map (j, ·) ++ pass records slots := rfl
      rw [split, only_append, ih rest]
      by_cases own : j = k
      · subst own
        rw [only_own, if_neg new, if_pos List.mem_cons_self, List.append_nil]
      · rw [only_other own, List.nil_append]
        simp [Ne.symm own]

/-- Of two slots at least one is untouched or recorded. -/
theorem settled_or {records : ι → List (Step β)} {slots : List ι} {steps : List (ι × Step β)}
    (distinct : slots.Nodup) (cut : steps <+: pass records slots) {i j : ι} (apart : i ≠ j) :
    (only i steps = [] ∨ only i steps = records i) ∨
      (only j steps = [] ∨ only j steps = records j) := by
  rcases cut_pass cut with rfl | ⟨before, k, after, part, rfl, -, rfl⟩
  · exact Or.inl (Or.inl rfl)
  · have started : before.Nodup := distinct.sublist (List.sublist_append_left _ _)
    have settled (l : ι) (other : k ≠ l) :
        only l (pass records before ++ part.map (k, ·)) = [] ∨
          only l (pass records before ++ part.map (k, ·)) = records l := by
      rw [only_append, only_other other, List.append_nil, only_pass started]
      split
      · exact Or.inr rfl
      · exact Or.inl rfl
    by_cases own : k = i
    · exact Or.inr (settled j fun same => apart (own.symm.trans same))
    · exact Or.inl (settled i own)

/-- What is left of the record of a slot is a prefix of it. -/
theorem only_prefix {records : ι → List (Step β)} {slots : List ι} {steps : List (ι × Step β)}
    (distinct : slots.Nodup) (cut : steps <+: pass records slots) {k : ι} (mem : k ∈ slots) :
    only k steps <+: records k := by
  have own : only k steps <+: only k (pass records slots) := (cut.filter _).map _
  rwa [only_pass distinct, if_pos mem] at own

end

/-! ## Where the contents come from -/

/-- The step concerns the data file. -/
def Step.OnData : Step β → Prop
  | .truncateData => True
  | .appendData _ => True
  | .truncateDigest => False
  | .appendDigest _ => False

/-- What the digest file holds is part of the digest of a recorded image. -/
def Traced (recorded : List β → Prop) (digest : List β → List β) (slot : Slot β) : Prop :=
  ∀ stored, slot.digest = some stored → ∃ image, recorded image ∧ stored <+: digest image

/-- The steps are what is left of writing the digest of a recorded image into a slot that was
traced before. -/
def Remains (recorded : List β → Prop) (digest : List β → List β) (slot : Slot β)
    (steps : List (Step β)) : Prop :=
  ∃ start image done, Traced recorded digest start ∧ recorded image ∧
    done ++ steps = writeDigest (digest image) ∧ run Slot.step start done = slot

section

variable {recorded later : List β → Prop} {digest : List β → List β} {slot : Slot β}
  {steps : List (Step β)} {e : Step β}

theorem Traced.mono (grows : ∀ image, recorded image → later image)
    (traced : Traced recorded digest slot) : Traced later digest slot := by
  intro stored on
  obtain ⟨image, pair, part⟩ := traced stored on
  exact ⟨image, grows image pair, part⟩

/-- Writing the data file leaves the digest file alone. -/
theorem Traced.onData (traced : Traced recorded digest slot) (data : e.OnData) :
    Traced recorded digest (slot.step e) := by
  cases e with
  | truncateData => exact traced
  | appendData b => exact traced
  | truncateDigest => exact absurd data id
  | appendDigest b => exact absurd data id

theorem Remains.mono (grows : ∀ image, recorded image → later image)
    (remains : Remains recorded digest slot steps) : Remains later digest slot steps := by
  obtain ⟨start, image, done, traced, pair, whole, reached⟩ := remains
  exact ⟨start, image, done, traced.mono grows, grows image pair, whole, reached⟩

theorem Traced.remains (traced : Traced recorded digest slot) {image : List β}
    (pair : recorded image) : Remains recorded digest slot (writeDigest (digest image)) :=
  ⟨slot, image, [], traced, pair, rfl, rfl⟩

/-- After every step the slot is traced and the rest remains. -/
theorem Remains.step (remains : Remains recorded digest slot (e :: steps)) :
    Traced recorded digest (slot.step e) ∧ Remains recorded digest (slot.step e) steps := by
  obtain ⟨start, image, done, traced, pair, whole, rfl⟩ := remains
  have reached : run Slot.step start (done ++ [e]) = (run Slot.step start done).step e :=
    run_append _ _ _ _
  have rest : (done ++ [e]) ++ steps = writeDigest (digest image) := by
    rw [List.append_assoc]
    exact whole
  refine ⟨?_, start, image, done ++ [e], traced, pair, rest, reached⟩
  rcases cut_writeDigest start ⟨steps, rest⟩ with none | ⟨part, within, cut⟩
  · exact absurd none (List.append_ne_nil_of_right_ne_nil done (List.cons_ne_nil e []))
  · rw [reached] at cut
    rw [cut]
    intro stored same
    obtain rfl := Option.some.inj same
    exact ⟨image, pair, within⟩

end

end Journal
