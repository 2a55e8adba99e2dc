import Jincubator.CrashRecovery

/-! # Partial images

The restore compares the digest of the data file with the stored one and never asks how
many words it read, and the backup takes the digest of whatever reached the disk. A data
file that is too short is therefore restored, and a save that was cut short succeeds.
-/

namespace Jincubator

open Incubator Run Journal

/-! ## The printed digest -/

def hexDigit (n : Nat) : Byte := BitVec.ofNat 8 (if n < 10 then 48 + n else 87 + n)

/-- `sprintf` with `%02x` of a byte. -/
def hexByte (b : Byte) : List Byte := [hexDigit (b.toNat / 16), hexDigit (b.toNat % 16)]

/-- The digest of a file as a string; `md5` gives its sixteen bytes. -/
def hexDigest (md5 : List Byte → Fin 16 → Byte) (contents : List Byte) : List Byte :=
  (List.ofFn (md5 contents)).flatMap hexByte

theorem hexDigit_ne_zero {n : Nat} (digit : n < 16) : hexDigit n ≠ 0 := by
  intro zero
  have value := congrArg BitVec.toNat zero
  rw [hexDigit, BitVec.toNat_ofNat] at value
  split at value
  all_goals
    simp at value
    omega

theorem length_flatMap_pair {α β : Type*} (f : α → List β) (pair : ∀ a, (f a).length = 2)
    (l : List α) : (l.flatMap f).length = 2 * l.length := by
  induction l with
  | nil => rfl
  | cons a l ih =>
      rw [List.flatMap_cons, List.length_append, pair, ih, List.length_cons]
      omega

theorem hexDigest_text (md5 : List Byte → Fin 16 → Byte) : DigestText (hexDigest md5) := by
  intro contents
  refine ⟨?_, ?_⟩
  · rw [hexDigest, length_flatMap_pair hexByte fun _ => rfl, List.length_ofFn]
  · intro mem
    obtain ⟨b, -, digit⟩ := List.mem_flatMap.mp mem
    have small := b.isLt
    simp only [hexByte, List.mem_cons, List.not_mem_nil, or_false] at digit
    rcases digit with high | low
    · exact hexDigit_ne_zero (by omega) high.symm
    · exact hexDigit_ne_zero (by omega) low.symm

/-! ## Words of a file -/

section

variable {index size : Nat} {s t : Incubator} {data : List Byte}

theorem wordBytes_bytesWord (lo hi : Byte) : wordBytes (bytesWord [lo, hi]) = [lo, hi] := by
  rw [bytesWord, wordBytes, BitVec.extractLsb'_append_eq_right,
    BitVec.extractLsb'_append_eq_left]

theorem freadWords_length (data : List Byte) : (freadWords data).length = data.length / 2 := by
  fun_induction freadWords data with
  | case1 lo hi rest ih =>
      rw [List.length_cons, ih, List.length_cons, List.length_cons]
      omega
  | case2 bytes few =>
      match bytes with
      | [] => rfl
      | [lo] => exact (Nat.div_eq_of_lt Nat.one_lt_two).symm
      | lo :: hi :: rest => exact absurd rfl (few lo hi rest)

/-- The whole words of a file are its beginning. -/
theorem freadWords_begins (data : List Byte) : (freadWords data).flatMap wordBytes <+: data := by
  fun_induction freadWords data with
  | case1 lo hi rest ih =>
      rw [List.flatMap_cons, wordBytes_bytesWord]
      exact (List.prefix_append_right_inj [lo, hi]).mpr ih
  | case2 bytes few => exact List.nil_prefix

theorem freadWords_take (words : List Word) (n : Nat) :
    freadWords ((words.flatMap wordBytes).take n) = words.take (n / 2) := by
  induction words generalizing n with
  | nil => simp [freadWords]
  | cons word words ih =>
      match n with
      | 0 => rfl
      | 1 => rfl
      | n + 2 =>
          have half : (n + 2) / 2 = n / 2 + 1 := by omega
          have split : ((word :: words).flatMap wordBytes).take (n + 2) =
              wordBytes word ++ (words.flatMap wordBytes).take n := rfl
          have first : freadWords (wordBytes word ++ (words.flatMap wordBytes).take n) =
              bytesWord (wordBytes word) :: freadWords ((words.flatMap wordBytes).take n) := rfl
          rw [split, first, ih, bytesWord_wordBytes, half, List.take_succ_cons]

theorem fwrite_length (index size : Nat) (s : Incubator) :
    (fwrite index size s).length = 2 * size := by
  rw [fwrite, length_flatMap_pair wordBytes fun _ => rfl, List.length_map, List.length_range']

theorem fread_outside (i : Nat) (outside : i < index ∨ index + size ≤ i) :
    (fread index size data s).shmOut i = s.shmOut i := by
  simp only [fread]
  split
  · refine List.getD_eq_default _ _ ?_
    rw [List.length_take]
    omega
  · rfl

/-- A file that is long enough is the image of the memory it was read into. -/
theorem fwrite_fread (long : 2 * size ≤ data.length) :
    fwrite index size (fread index size data s) =
      ((freadWords data).take size).flatMap wordBytes := by
  rw [fwrite]
  congr 1
  have words : ((freadWords data).take size).length = size := by
    rw [List.length_take, freadWords_length]
    omega
  refine List.ext_getElem (by simp [words]) ?_
  intro k mem inside
  rw [List.getElem_map, List.getElem_range', one_mul]
  simp only [fread]
  rw [if_pos (Nat.le_add_right _ _), Nat.add_sub_cancel_left, List.getD_eq_getElem _ _ inside]

theorem fwrite_fread_prefix :
    fwrite index size (fread index size data s) <+: data ↔ 2 * size ≤ data.length := by
  refine ⟨fun front => ?_, fun long => ?_⟩
  · have length := front.length_le
    rwa [fwrite_length] at length
  · rw [fwrite_fread long]
    refine List.IsPrefix.trans ?_ (freadWords_begins data)
    obtain ⟨rest, whole⟩ := List.take_prefix size (freadWords data)
    exact ⟨rest.flatMap wordBytes, by rw [← List.flatMap_append, whole]⟩

end

/-! ## All or nothing -/

/-- The digest file holds the digest of the data file. -/
def Matches (md5 : List Byte → List Byte) (data stored : List Byte) : Prop :=
  cString (md5 data) = cString (stored.take 33)

instance (md5 : List Byte → List Byte) (data stored : List Byte) :
    Decidable (Matches md5 data stored) := inferInstanceAs (Decidable (_ = _))

/-- The data file begins with the words of the second memory, and the others are as they were. -/
structure SlotRestored (index size : Nat) (slot : Slot Byte) (s t : Incubator) : Prop where
  words : ∃ data, slot.data = some data ∧ fwrite index size t <+: data
  others : ∀ i, i < index ∨ index + size ≤ i → t.shmOut i = s.shmOut i

def AllOrNothing (md5 : List Byte → List Byte) (index size : Nat) (slot : Slot Byte)
    (s : Incubator) : Prop :=
  let r := synIniToShm md5 index size slot s
  r.1 = 0 ∧ SlotRestored index size slot s r.2 ∨ r.1 ≠ 0 ∧ r.2.shmOut = s.shmOut

section

variable {md5 : List Byte → List Byte} {index size : Nat} {s : Incubator}

/-- What the restore does with both files there. -/
theorem synIniToShm_files (data stored : List Byte) (s : Incubator) :
    synIniToShm md5 index size ⟨some data, some stored⟩ s =
      if Matches md5 data stored then (0, fread index size data s) else (-1, s) := rfl

/-- A restore is all or nothing exactly if no short file has the digest that is stored. -/
theorem allOrNothing_iff (slot : Slot Byte) (s : Incubator) :
    AllOrNothing md5 index size slot s ↔
      ∀ data stored, slot.data = some data → slot.digest = some stored →
        Matches md5 data stored → 2 * size ≤ data.length := by
  have refused : (-1 : Int) ≠ 0 := by decide
  have missing : (-2 : Int) ≠ 0 := by decide
  obtain ⟨_ | data, _ | stored⟩ := slot
  · exact iff_of_true (Or.inr ⟨refused, rfl⟩) (by simp)
  · exact iff_of_true (Or.inr ⟨missing, rfl⟩) (by simp)
  · exact iff_of_true (Or.inr ⟨refused, rfl⟩) (by simp)
  · rw [AllOrNothing, synIniToShm_files]
    by_cases same : Matches md5 data stored
    · rw [if_pos same]
      refine ⟨?_, fun long => Or.inl ⟨rfl, ?_, fun i => fread_outside i⟩⟩
      · rintro (⟨-, ⟨_, ⟨⟩, front⟩, -⟩ | ⟨wrong, -⟩) _ _ ⟨⟩ ⟨⟩ _
        · exact fwrite_fread_prefix.mp front
        · exact absurd rfl wrong
      · exact ⟨data, rfl, fwrite_fread_prefix.mpr (long data stored rfl rfl same)⟩
    · rw [if_neg same]
      refine iff_of_true (Or.inr ⟨refused, rfl⟩) ?_
      rintro _ _ ⟨⟩ ⟨⟩ matching
      exact absurd matching same

end

/-! ## Saving part of the data -/

/-- How the file system takes part in a save: which files it opens, and how many bytes of each of
them reach the disk. -/
structure FileSystem where
  dataOpens : Bool
  dataTaken : Nat
  dataReads : Bool
  digestOpens : Bool
  digestTaken : Nat

/-- `syn_shm_to_ini` with its return value; neither `fwrite` nor `fclose` is asked for errors. -/
def synShmToIniPartial (md5 : List Byte → List Byte) (index size : Nat) (fs : FileSystem)
    (s : Incubator) (slot : Slot Byte) : Int × Slot Byte :=
  if fs.dataOpens = false then (-1, slot)
  else
    let data := (fwrite index size s).take fs.dataTaken
    if fs.dataReads = false then (-2, ⟨some data, slot.digest⟩)
    else if fs.digestOpens = false then (-3, ⟨some data, slot.digest⟩)
    else
      let digest := cString (md5 data) ++ [0]
      (0, ⟨some data, some (digest.take fs.digestTaken)⟩)

/-- Whatever is in the memory, the restore succeeds and puts the saved words into their places. -/
def Reproduces (md5 : List Byte → List Byte) (index size : Nat) (source : Incubator)
    (slot : Slot Byte) : Prop :=
  ∀ s, (synIniToShm md5 index size slot s).1 = 0 ∧
    ∀ i, (synIniToShm md5 index size slot s).2.shmOut i =
      if index ≤ i ∧ i < index + size then source.shmOut i else s.shmOut i

section

variable {md5 : List Byte → List Byte} {index size : Nat} {source : Incubator}

/-- A file system that takes everything leaves what the steps of the thread leave. -/
theorem synShmToIniPartial_whole (s : Incubator) (slot : Slot Byte) {fs : FileSystem}
    (opens : fs.dataOpens = true ∧ fs.dataReads = true ∧ fs.digestOpens = true)
    (data : 2 * size ≤ fs.dataTaken)
    (digest : (cString (md5 (fwrite index size s)) ++ [0]).length ≤ fs.digestTaken) :
    synShmToIniPartial md5 index size fs s slot =
      (0, run Slot.step slot (synShmToIni md5 index size s slot)) := by
  have all : (fwrite index size s).take fs.dataTaken = fwrite index size s :=
    List.take_of_length_le (by rw [fwrite_length]; exact data)
  have written : run Slot.step slot (synShmToIni md5 index size s slot) =
      ⟨some (fwrite index size s), some (cString (md5 (fwrite index size s)) ++ [0])⟩ := by
    rw [synShmToIni, run_writeData]
    exact run_record slot _ _
  rw [written, synShmToIniPartial, if_neg (by simp [opens.1])]
  simp only [opens.2.1, opens.2.2, all, List.take_of_length_le digest, Bool.true_eq_false, if_false]

/-- A string that is cut is the beginning of it. -/
theorem cString_take {text : List Byte} (noNul : (0 : Byte) ∉ text) (n : Nat) :
    cString ((text ++ [0]).take n) = text.take n := by
  have kept (l : List Byte) (part : l ⊆ text) (rest : List Byte) :
      cString (l ++ 0 :: rest) = l ∧ cString l = l := by
    have letters : ∀ b ∈ l, decide (b ≠ 0) = true := by
      intro b mem
      exact decide_eq_true fun zero => noNul (zero ▸ part mem)
    refine ⟨?_, List.takeWhile_eq_self_iff.mpr letters⟩
    rw [cString, List.takeWhile_append_of_pos letters, List.takeWhile_cons_of_neg (by simp),
      List.append_nil]
  by_cases inside : n ≤ text.length
  · rw [List.take_append_of_le_length inside]
    exact (kept _ (List.take_subset _ _) []).2
  · rw [List.take_of_length_le (by simp; omega), List.take_of_length_le (by omega)]
    exact (kept text (List.Subset.refl _) []).1

/-- The digest on the disk matches as soon as its characters are there. -/
theorem matches_take (text : DigestText md5) (data : List Byte) (taken : Nat) :
    Matches md5 data ((cString (md5 data) ++ [0]).take taken) ↔ 32 ≤ taken := by
  obtain ⟨length, noNul⟩ := text data
  rw [Matches, cString_of_text text, List.take_take, cString_take noNul]
  refine ⟨fun same => ?_, fun whole => ?_⟩
  · have lengths := congrArg List.length same
    rw [List.length_take] at lengths
    omega
  · rw [List.take_of_length_le]
    omega

/-- What was taken of an image is read back, and the words behind it stay. -/
theorem fread_take (n : Nat) (s : Incubator) (i : Nat) :
    (fread index size ((fwrite index size source).take n) s).shmOut i =
      if index ≤ i ∧ i < index + min size (n / 2) then source.shmOut i else s.shmOut i := by
  have words : (freadWords ((fwrite index size source).take n)).take size =
      (((List.range' index size).map source.shmOut).take (n / 2)) := by
    rw [fwrite, freadWords_take, List.take_of_length_le]
    simp
  simp only [fread, words]
  by_cases below : index ≤ i
  · rw [if_pos below]
    by_cases above : i < index + min size (n / 2)
    · have place : i - index <
          (((List.range' index size).map source.shmOut).take (n / 2)).length := by
        simp
        omega
      rw [if_pos ⟨below, above⟩, List.getD_eq_getElem _ _ place, List.getElem_take,
        List.getElem_map, List.getElem_range', one_mul, Nat.add_sub_cancel' below]
    · rw [if_neg fun inside => above inside.2, List.getD_eq_default]
      simp
      omega
  · rw [if_neg below, if_neg fun inside => below inside.1]

/-- A slot that a save left is restored exactly if all of it reached the disk. -/
theorem reproduces_iff (text : DigestText md5) (dataTaken digestTaken : Nat) :
    Reproduces md5 index size source
        ⟨some ((fwrite index size source).take dataTaken),
          some ((cString (md5 ((fwrite index size source).take dataTaken)) ++ [0]).take
            digestTaken)⟩ ↔
      2 * size ≤ dataTaken ∧ 32 ≤ digestTaken := by
  simp only [Reproduces, synIniToShm_files, matches_take text]
  by_cases digest : 32 ≤ digestTaken
  · simp only [digest, if_true, true_and, and_true, fread_take]
    refine ⟨fun words => ?_, fun data s i => ?_⟩
    · by_contra short
      -- the first word that is missing keeps whatever the memory held
      have word := words { source with shmOut := fun i => ~~~source.shmOut i }
        (index + dataTaken / 2)
      rw [if_neg (by omega), if_pos (by omega)] at word
      have value := congrArg BitVec.toNat word
      rw [BitVec.toNat_not] at value
      omega
    · rw [show min size (dataTaken / 2) = size by omega]
  · simp only [digest, if_false, and_false, iff_false]
    intro words
    exact absurd (words source).1 (by decide)

/-- What `syn_shm_to_ini` saves with success is what `syn_ini_to_shm` restores. -/
def SaveReproduces (md5 : List Byte → List Byte) (index size : Nat) (fs : FileSystem)
    (source : Incubator) (slot : Slot Byte) : Prop :=
  let r := synShmToIniPartial md5 index size fs source slot
  r.1 = 0 → Reproduces md5 index size source r.2

/-- Some file cannot be opened, or everything reaches the disk but the end of the string. -/
def FileSystem.TakesAll (fs : FileSystem) (size : Nat) : Prop :=
  fs.dataOpens = true → fs.dataReads = true → fs.digestOpens = true →
    2 * size ≤ fs.dataTaken ∧ 32 ≤ fs.digestTaken

theorem saveReproduces_iff (text : DigestText md5) (fs : FileSystem) (slot : Slot Byte) :
    SaveReproduces md5 index size fs source slot ↔ fs.TakesAll size := by
  have failed : (-1 : Int) ≠ 0 ∧ (-2 : Int) ≠ 0 ∧ (-3 : Int) ≠ 0 := by decide
  rw [SaveReproduces, FileSystem.TakesAll, synShmToIniPartial]
  by_cases opens : fs.dataOpens = true
  · by_cases reads : fs.dataReads = true
    · by_cases digest : fs.digestOpens = true
      · simp only [opens, reads, digest, Bool.true_eq_false, if_false, forall_const]
        exact reproduces_iff text _ _
      · simp [opens, reads, digest, failed]
    · simp [opens, reads, failed]
  · simp [opens, failed]

end

/-- A restore is all or nothing exactly if no short file has the digest that is stored, and a save
that returns 0 is one that can be restored exactly if everything reached the disk. -/
theorem backup_iff (md5 : List Byte → Fin 16 → Byte) (index size : Nat) :
    (∀ slot s, AllOrNothing (hexDigest md5) index size slot s ↔
      ∀ data stored, slot.data = some data → slot.digest = some stored →
        Matches (hexDigest md5) data stored → 2 * size ≤ data.length) ∧
    ∀ fs source slot, SaveReproduces (hexDigest md5) index size fs source slot ↔
      fs.TakesAll size :=
  ⟨allOrNothing_iff, fun fs _ => saveReproduces_iff (hexDigest_text md5) fs⟩

/-- An empty data file with its digest is restored, and so is a save of which nothing reached the
disk but the digest. -/
theorem backup_short :
    (¬∀ (md5 : List Byte → Fin 16 → Byte) (index size : Nat) (slot : Slot Byte) (s : Incubator),
      AllOrNothing (hexDigest md5) index size slot s) ∧
    ¬∀ (md5 : List Byte → Fin 16 → Byte) (index size : Nat) (fs : FileSystem)
      (source : Incubator) (slot : Slot Byte),
        SaveReproduces (hexDigest md5) index size fs source slot := by
  refine ⟨fun whole => ?_, fun whole => ?_⟩
  · have restored := whole (fun _ _ => 0) 0 1 ⟨some [], some (hexDigest (fun _ _ => 0) [])⟩ cleared
    have long := (allOrNothing_iff _ _).mp restored [] _ rfl rfl (by decide +kernel)
    exact absurd long (by decide)
  · have saved := whole (fun _ _ => 0) 0 1 ⟨true, 0, true, true, 33⟩ cleared ⟨none, none⟩
    have taken := (saveReproduces_iff (hexDigest_text _) _ _).mp saved rfl rfl rfl
    exact absurd taken (by decide)

end Jincubator
