import Jincubator.Backup
import Mathlib.Data.List.TakeWhile

/-! # Recovery from a crash

A crash leaves at most one slot between its old and its new image. Its digest tells:
it is that of the old image until the new one is complete, and then an incomplete one
until it is that of the new image. So the restore takes a complete image from the first
slot that is intact, and one of the first two is.
-/

namespace Jincubator

open Incubator Run Journal

/-- A digest is a string of 32 characters. -/
def DigestText (md5 : List Byte → List Byte) : Prop :=
  ∀ contents, (md5 contents).length = 32 ∧ (0 : Byte) ∉ md5 contents

section

variable {md5 : List Byte → List Byte} {slot : Slot Byte} {source prev cur : Incubator}

/-! ## One slot -/

/-- The slot holds the image and the restore takes it. -/
structure Loads (md5 : List Byte → List Byte) (slot : Slot Byte) (source : Incubator) : Prop where
  data : slot.data = some (image source)
  accepted : ∀ s, synIniToShm md5 syncDataStart syncDataLen slot s =
    (0, fread syncDataStart syncDataLen (image source) s)

/-- The restore leaves the memory as it is. -/
def Rejects (md5 : List Byte → List Byte) (slot : Slot Byte) : Prop :=
  ∀ s, synIniToShm md5 syncDataStart syncDataLen slot s = (-1, s)

theorem noNul {contents : List Byte} (text : DigestText md5) :
    ∀ b ∈ md5 contents, decide (b ≠ 0) = true := by
  intro b mem
  refine decide_eq_true ?_
  rintro rfl
  exact (text contents).2 mem

theorem cString_of_text {contents : List Byte} (text : DigestText md5) :
    cString (md5 contents) = md5 contents :=
  List.takeWhile_eq_self_iff.mpr (noNul text)

theorem digestFile_of_text {contents : List Byte} (text : DigestText md5) :
    digestFile md5 contents = md5 contents ++ [0] := by
  rw [digestFile, cString_of_text text]

theorem cString_digestFile {contents : List Byte} (text : DigestText md5) :
    cString ((digestFile md5 contents).take 33) = md5 contents := by
  have length : (digestFile md5 contents).length = 33 := by
    rw [digestFile_of_text text, List.length_append, (text contents).1]
    rfl
  have nul : List.takeWhile (fun b : Byte => decide (b ≠ 0)) [0] = [] := rfl
  rw [List.take_of_length_le length.le, digestFile_of_text text, cString,
    List.takeWhile_append_of_pos (noNul text), nul, List.append_nil]

/-- The stored string is compared with the digest of the data file. -/
theorem synIniToShm_eq (text : DigestText md5) (data stored : List Byte) (s : Incubator) :
    synIniToShm md5 syncDataStart syncDataLen ⟨some data, some stored⟩ s =
      if md5 data = cString (stored.take 33) then (0, fread syncDataStart syncDataLen data s)
      else (-1, s) := by
  simp only [synIniToShm, computeMd5File, Option.map_some, cString_of_text text]

/-- An image with its own digest is taken. -/
theorem loads_of_intact (text : DigestText md5) (source : Incubator) :
    Loads md5 ⟨some (image source), some (digestFile md5 (image source))⟩ source := by
  refine ⟨rfl, fun s => ?_⟩
  rw [synIniToShm_eq text, cString_digestFile text, if_pos rfl]

/-- A record that is cut leaves the old image, the new one, or a slot that is rejected. -/
theorem cut_outcome (text : DigestText md5) {steps : List (Step Byte)}
    (cut : steps <+: slotRecord md5 cur)
    (before : slot = ⟨some (image prev), some (digestFile md5 (image prev))⟩)
    (free : ∀ data, (run Slot.step slot steps).data = some data →
      md5 data = md5 (image prev) → data = image prev) :
    Rejects md5 (run Slot.step slot steps) ∨ Loads md5 (run Slot.step slot steps) prev ∨
      steps ≠ [] ∧ Loads md5 (run Slot.step slot steps) cur := by
  by_cases none : steps = []
  · subst none
    rw [run_nil, before]
    exact Or.inr (Or.inl (loads_of_intact text prev))
  rcases cut_record slot cut with empty | ⟨part, -, written⟩ | ⟨part, -, written⟩
  · exact absurd empty none
  · -- the old digest against a part of the new image
    rw [written] at free ⊢
    rw [before]
    by_cases same : md5 part = md5 (image prev)
    · rw [free part rfl same]
      exact Or.inr (Or.inl (loads_of_intact text prev))
    · refine Or.inl fun s => ?_
      rw [synIniToShm_eq text, cString_digestFile text, if_neg same]
  · -- the new image against a part of its digest
    rw [written]
    by_cases same : md5 (image cur) = cString (part.take 33)
    · refine Or.inr (Or.inr ⟨none, rfl, fun s => ?_⟩)
      rw [synIniToShm_eq text, if_pos same]
    · refine Or.inl fun s => ?_
      rw [synIniToShm_eq text, if_neg same]

/-- A slot that no cut is in loads. -/
theorem settled_outcome (text : DigestText md5) {steps : List (Step Byte)}
    (settled : steps = [] ∨ steps = slotRecord md5 cur)
    (before : slot = ⟨some (image prev), some (digestFile md5 (image prev))⟩) :
    Loads md5 (run Slot.step slot steps) prev ∨
      steps ≠ [] ∧ Loads md5 (run Slot.step slot steps) cur := by
  rcases settled with rfl | rfl
  · rw [run_nil, before]
    exact Or.inl (loads_of_intact text prev)
  · rw [slotRecord, run_record]
    exact Or.inr ⟨by simp [record, writeData], loads_of_intact text cur⟩

/-! ## The first intact slot -/

/-- Once a slot is taken the later ones are left alone. -/
theorem foldl_restoreSlot_of_taken (disk : Disk) (slots : List Nat) (r : Restore)
    (later : ∀ k ∈ slots, k ≠ r.syncFileIndex) :
    slots.foldl (restoreSlot md5 disk) r = r := by
  induction slots with
  | nil => rfl
  | cons k slots ih =>
      rw [List.foldl_cons, restoreSlot, if_neg (later k List.mem_cons_self)]
      exact ih fun j mem => later j (List.mem_cons_of_mem _ mem)

theorem restoreSlot_loads {disk : Disk} {k : Nat} {s : Incubator}
    (loads : Loads md5 (disk k) source) (important : Important source) :
    restoreSlot md5 disk ⟨k, s⟩ k =
      ⟨k, fread syncDataStart syncDataLen (image source) s⟩ := by
  have kept : Important (fread syncDataStart syncDataLen (image source) s) :=
    (important_fread s).mpr important
  simp only [restoreSlot, if_true, loads.accepted s, ne_eq, not_true_eq_false, if_false, kept]

theorem restoreSlot_rejects {disk : Disk} {k : Nat} {s : Incubator}
    (rejects : Rejects md5 (disk k)) : restoreSlot md5 disk ⟨k, s⟩ k = ⟨k + 1, s⟩ := by
  have failed : (-1 : Int) ≠ 0 := by decide
  simp only [restoreSlot, if_true, rejects s, failed, ne_eq, not_false_eq_true]

/-- Trying consecutive slots that load or are rejected, one of which loads. -/
theorem foldl_restoreSlot {disk : Disk} {Wanted : Nat → Incubator → Prop} {s : Incubator}
    (n first : Nat)
    (important : ∀ k ∈ List.range' first n, ∀ source, Wanted k source → Important source)
    (outcome : ∀ k ∈ List.range' first n, Rejects md5 (disk k) ∨
      ∃ source, Wanted k source ∧ Loads md5 (disk k) source)
    (some : ∃ k ∈ List.range' first n, ¬Rejects md5 (disk k)) :
    ∃ k ∈ List.range' first n, ∃ source, Wanted k source ∧ Loads md5 (disk k) source ∧
      (List.range' first n).foldl (restoreSlot md5 disk) ⟨first, s⟩ =
        ⟨k, fread syncDataStart syncDataLen (image source) s⟩ := by
  induction n generalizing first with
  | zero =>
      obtain ⟨k, mem, -⟩ := some
      exact absurd mem List.not_mem_nil
  | succ n ih =>
      rw [List.range'_succ] at important outcome some ⊢
      rw [List.foldl_cons]
      rcases outcome first List.mem_cons_self with rejects | ⟨source, wanted, loads⟩
      · have later : ∃ k ∈ List.range' (first + 1) n, ¬Rejects md5 (disk k) := by
          obtain ⟨k, mem, accepts⟩ := some
          rcases List.mem_cons.mp mem with rfl | mem
          · exact absurd rejects accepts
          · exact ⟨k, mem, accepts⟩
        obtain ⟨k, mem, source, wanted, loads, restored⟩ :=
          ih (first + 1) (fun k mem => important k (List.mem_cons_of_mem _ mem))
            (fun k mem => outcome k (List.mem_cons_of_mem _ mem)) later
        rw [restoreSlot_rejects rejects]
        exact ⟨k, List.mem_cons_of_mem _ mem, source, wanted, loads, restored⟩
      · refine ⟨first, List.mem_cons_self, source, wanted, loads, ?_⟩
        rw [restoreSlot_loads loads (important first List.mem_cons_self source wanted)]
        refine foldl_restoreSlot_of_taken disk _ _ fun k mem => ?_
        have above := (List.mem_range'_1.mp mem).1
        simp only
        omega

theorem Loads.not_rejects (loads : Loads md5 slot source) : ¬Rejects md5 slot := by
  intro rejects
  have taken := loads.accepted source
  rw [rejects source] at taken
  have code : (-1 : Int) = 0 := congrArg Prod.fst taken
  omega

end

/-! ## The crash -/

/-- The disk after complete rounds, the last of which wrote `prev`, and some steps of the next. -/
def crashDisk (md5 : List Byte → List Byte) (rounds : List (Nat → Incubator))
    (prev : Nat → Incubator) (steps : List (Nat × Step Byte)) (disk : Disk) : Disk :=
  run diskStep (sysnThreadFunc md5 (rounds ++ [prev]) disk) steps

/-- The steps reached the slot. -/
def Begun (steps : List (Nat × Step Byte)) (k : Nat) : Prop := ∃ e, (k, e) ∈ steps

/-- The image of the slot from the complete round or, if it was begun, from the interrupted one. -/
def WrittenLast (prev cur : Nat → Incubator) (steps : List (Nat × Step Byte)) (k : Nat)
    (source : Incubator) : Prop :=
  source = prev k ∨ Begun steps k ∧ source = cur k

/-- What the data files hold before and after the interrupted round. -/
def dataContents (before after : Disk) : Set (List Byte) :=
  { data | ∃ k ∈ syncBackupIndices, (before k).data = some data ∨ (after k).data = some data }

/-- One slot's last image is complete on the disk, and the restored memory holds all of it. -/
structure Recovered (prev cur : Nat → Incubator) (steps : List (Nat × Step Byte)) (disk : Disk)
    (s : Incubator) (r : Restore) (source : Incubator) : Prop where
  slot : r.syncFileIndex ∈ syncBackupIndices
  written : WrittenLast prev cur steps r.syncFileIndex source
  complete : (disk r.syncFileIndex).data = some (image source)
  loaded : ∀ i < 5000, r.memory.shmOut i = source.shmOut i
  kept : ∀ i ≥ 5000, r.memory.shmOut i = s.shmOut i

theorem begun_of_only {steps : List (Nat × Step Byte)} {k : Nat} (some : only k steps ≠ []) :
    Begun steps k := by
  obtain ⟨e, mem⟩ := List.exists_mem_of_ne_nil _ some
  simp only [only, List.mem_map, List.mem_filter, decide_eq_true_eq] at mem
  obtain ⟨⟨j, f⟩, ⟨step, rfl⟩, rfl⟩ := mem
  exact ⟨f, step⟩

/-- Cut anywhere after a complete round, the backup restores a complete image of that round or of
the interrupted one. -/
theorem backup_survives_crash (md5 : List Byte → List Byte) (text : DigestText md5)
    (rounds : List (Nat → Incubator)) (prev cur : Nat → Incubator) (disk : Disk)
    (steps : List (Nat × Step Byte))
    (cut : steps <+: sysnRound md5 cur (sysnThreadFunc md5 (rounds ++ [prev]) disk))
    (important : ∀ k ∈ syncBackupIndices, Important (prev k) ∧ (Begun steps k → Important (cur k)))
    (free : Set.InjOn md5 (dataContents (sysnThreadFunc md5 (rounds ++ [prev]) disk)
      (crashDisk md5 rounds prev steps disk)))
    (s : Incubator) :
    ∃ source, Recovered prev cur steps (crashDisk md5 rounds prev steps disk) s
      (initParaRestore md5 (crashDisk md5 rounds prev steps disk) s) source := by
  rw [sysnRound_eq] at cut
  have before (k : Nat) (mem : k ∈ syncBackupIndices) :
      sysnThreadFunc md5 (rounds ++ [prev]) disk k =
        ⟨some (image (prev k)), some (digestFile md5 (image (prev k)))⟩ :=
    sysnThreadFunc_slot rounds prev disk mem
  rw [crashDisk] at free ⊢
  generalize sysnThreadFunc md5 (rounds ++ [prev]) disk = old at before free
  have own (k : Nat) (mem : k ∈ syncBackupIndices) : only k steps <+: slotRecord md5 (cur k) :=
    only_prefix syncBackupIndices_nodup cut mem
  have outcome : ∀ k ∈ syncBackupIndices, Rejects md5 (run diskStep old steps k) ∨
      ∃ source, WrittenLast prev cur steps k source ∧
        Loads md5 (run diskStep old steps k) source := by
    intro k mem
    have injective : ∀ data, (run diskStep old steps k).data = some data →
        md5 data = md5 (image (prev k)) → data = image (prev k) := by
      intro data held same
      refine free ⟨k, mem, Or.inr held⟩ ⟨k, mem, Or.inl ?_⟩ same
      rw [before k mem]
    rw [run_diskStep] at injective ⊢
    rcases cut_outcome text (own k mem) (before k mem) injective with
      rejects | loads | ⟨begun, loads⟩
    · exact Or.inl rejects
    · exact Or.inr ⟨prev k, Or.inl rfl, loads⟩
    · exact Or.inr ⟨cur k, Or.inr ⟨begun_of_only begun, rfl⟩, loads⟩
  have intact : ∃ k ∈ syncBackupIndices, ¬Rejects md5 (run diskStep old steps k) := by
    have settles (k : Nat) (mem : k ∈ syncBackupIndices)
        (settled : only k steps = [] ∨ only k steps = slotRecord md5 (cur k)) :
        ¬Rejects md5 (run diskStep old steps k) := by
      rw [run_diskStep]
      rcases settled_outcome text settled (before k mem) with loads | ⟨-, loads⟩
      · exact loads.not_rejects
      · exact loads.not_rejects
    have first : 1 ∈ syncBackupIndices := by decide
    have second : 2 ∈ syncBackupIndices := by decide
    cases settled_or syncBackupIndices_nodup cut (by decide : (1 : Nat) ≠ 2) with
    | inl one => exact ⟨1, first, settles 1 first one⟩
    | inr two => exact ⟨2, second, settles 2 second two⟩
  have wanted (k : Nat) (mem : k ∈ syncBackupIndices) (source : Incubator)
      (last : WrittenLast prev cur steps k source) : Important source := by
    rcases last with rfl | ⟨begun, rfl⟩
    · exact (important k mem).1
    · exact (important k mem).2 begun
  obtain ⟨k, mem, source, last, loads, restored⟩ :=
    foldl_restoreSlot 10 1 wanted outcome intact
  have result : initParaRestore md5 (run diskStep old steps) s =
      ⟨k, fread syncDataStart syncDataLen (image source) s⟩ := by
    have few : ¬k > 10 := by
      have range := List.mem_range'_1.mp mem
      omega
    rw [initParaRestore, syncBackupIndices, restored, restoreLast, if_neg few]
  rw [result]
  refine ⟨source, mem, last, loads.data, fun i small => ?_, fun i large => ?_⟩
  · have inside : syncDataStart ≤ i ∧ i < syncDataStart + syncDataLen := by
      simp only [syncDataStart, syncDataLen]
      omega
    exact (fread_fwrite i).trans (if_pos inside)
  · have outside : ¬(syncDataStart ≤ i ∧ i < syncDataStart + syncDataLen) := by
      simp only [syncDataStart, syncDataLen]
      omega
    exact (fread_fwrite i).trans (if_neg outside)

/-- Both running times are one second. -/
def firstSecond : Incubator :=
  cleared |> setTime Reg.rRunSecondHigh 1 |> setTime Reg.rRunSystemSecondHigh 1

/-- The digests of the empty file and of the image of `firstSecond`. -/
def sampleDigest (contents : List Byte) : List Byte :=
  (if contents = [] then "d41d8cd98f00b204e9800998ecf8427e"
    else "7142b1c304b2d842a8fb9aade6a3d5ce").toList.map fun c => BitVec.ofNat 8 c.toNat

theorem sampleDigest_text : DigestText sampleDigest := by
  intro contents
  rw [sampleDigest]
  split
  · decide
  · decide

theorem sampleDigest_free (contents : Set (List Byte))
    (two : ∀ data ∈ contents, data = [] ∨ data = image firstSecond) :
    Set.InjOn sampleDigest contents := by
  have some : image firstSecond ≠ [] := by
    intro none
    have words : freadWords (image firstSecond) =
        (List.range' syncDataStart syncDataLen).map firstSecond.shmOut := freadWords_flatMap _
    have length := congrArg List.length words
    rw [none, List.length_map, List.length_range'] at length
    exact absurd length (by decide)
  have apart : sampleDigest [] ≠ sampleDigest (image firstSecond) := by
    rw [sampleDigest, sampleDigest, if_pos rfl, if_neg some]
    decide
  intro x mem y other same
  rcases two x mem with rfl | rfl
  · rcases two y other with rfl | rfl
    · rfl
    · exact absurd same apart
  · rcases two y other with rfl | rfl
    · exact absurd same.symm apart
    · rfl

theorem backup_survives_crash_firstSecond :
    ∃ source, Recovered (fun _ => firstSecond) (fun _ => firstSecond) [(1, .truncateData)]
      (crashDisk sampleDigest [] (fun _ => firstSecond) [(1, .truncateData)] fun _ => ⟨none, none⟩)
      cleared (initParaRestore sampleDigest (crashDisk sampleDigest [] (fun _ => firstSecond)
        [(1, .truncateData)] fun _ => ⟨none, none⟩) cleared) source := by
  have begun : [(1, Step.truncateData)] <+: sysnRound sampleDigest (fun _ => firstSecond)
      (sysnThreadFunc sampleDigest ([] ++ [fun _ => firstSecond]) fun _ => ⟨none, none⟩) := by
    rw [sysnRound_eq]
    exact head_prefix_pass rfl
  have running : Important firstSecond := by decide
  have written (k : Nat) (mem : k ∈ syncBackupIndices) :
      sysnThreadFunc sampleDigest ([] ++ [fun _ => firstSecond]) (fun _ => ⟨none, none⟩) k =
        ⟨some (image firstSecond), some (digestFile sampleDigest (image firstSecond))⟩ :=
    sysnThreadFunc_slot [] (fun _ => firstSecond) _ mem
  refine backup_survives_crash sampleDigest sampleDigest_text [] _ _ _ _ begun
    (fun _ _ => ⟨running, fun _ => running⟩) (sampleDigest_free _ ?_) cleared
  rintro data ⟨k, mem, held | held⟩
  · rw [written k mem] at held
    exact Or.inr (Option.some.inj held).symm
  · rw [crashDisk, run_cons, run_nil, diskStep] at held
    by_cases first : k = 1
    · subst first
      rw [Function.update_self] at held
      exact Or.inl (Option.some.inj held).symm
    · rw [Function.update_of_ne first, written k mem] at held
      exact Or.inr (Option.some.inj held).symm

end Jincubator
