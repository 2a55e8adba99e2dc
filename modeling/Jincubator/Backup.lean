import Jincubator.Define
import Jincubator.Library.Journal
import Jincubator.Registers
import Mathlib.Data.List.GetD

/-! # Backup and restore

The backup thread writes the first five thousand registers to ten slots, one after
the other, each a data file and a file with the digest of it. At the next start the
slots are tried in the same order until one of them is intact and holds running times
other than zero. `md5` gives the digest of a file's contents as a string; opening a
file for writing is taken to succeed.
-/

namespace Jincubator

open Incubator Run Journal

/-- The slots of the backup file by their number. -/
abbrev Disk := Nat → Slot Byte

/-- The characters of a string before its NUL. -/
def cString (bytes : List Byte) : List Byte := bytes.takeWhile (· ≠ 0)

/-- The bytes of `size` registers from `index` on. -/
def fwrite (index size : Nat) (s : Incubator) : List Byte :=
  ((List.range' index size).map s.shmOut).flatMap wordBytes

def freadWords : List Byte → List Word
  | lo :: hi :: rest => bytesWord [lo, hi] :: freadWords rest
  | _ => []

/-- Whole words are read, at most `size` of them. -/
def fread (index size : Nat) (bytes : List Byte) (s : Incubator) : Incubator :=
  let words := (freadWords bytes).take size
  { s with
    shmOut := fun i => if index ≤ i then words.getD (i - index) (s.shmOut i) else s.shmOut i }

section

variable (md5 : List Byte → List Byte)

def computeMd5File (file : Option (List Byte)) : Option (List Byte) := file.map md5

/-! ## The backup thread -/

/-- The digest is that of the data file as it was written, with its NUL. -/
def synShmToIni (index size : Nat) (s : Incubator) (slot : Slot Byte) : List (Step Byte) :=
  let data := writeData (fwrite index size s)
  match computeMd5File md5 (run Slot.step slot data).data with
  | none => data
  | some digest => data ++ writeDigest (cString digest ++ [0])

def syncDataStart : Nat := 0
def syncDataLen : Nat := 5000

/-- The numbers of the slots in the order of the thread. -/
def syncBackupIndices : List Nat := List.range' 1 10

/-- `memory` is the shared memory at the time each slot is written. -/
def sysnSlots (memory : Nat → Incubator) : List Nat → Disk → List (Nat × Step Byte)
  | [], _ => []
  | k :: slots, disk =>
      let steps := (synShmToIni md5 syncDataStart syncDataLen (memory k) (disk k)).map (k, ·)
      steps ++ sysnSlots memory slots (run diskStep disk steps)

/-- One round of the loop of the backup thread. -/
def sysnRound (memory : Nat → Incubator) (disk : Disk) : List (Nat × Step Byte) :=
  sysnSlots md5 memory syncBackupIndices disk

def sysnThreadFunc (rounds : List (Nat → Incubator)) (disk : Disk) : Disk :=
  rounds.foldl (fun disk memory => run diskStep disk (sysnRound md5 memory disk)) disk

/-! ## The restore -/

/-- The return value, and the memory: the digest file is opened first and read into a string of 33
bytes. -/
def synIniToShm (index size : Nat) (slot : Slot Byte) (s : Incubator) : Int × Incubator :=
  match slot.digest with
  | none => (-1, s)
  | some stored =>
      match slot.data with
      | none => (-2, s)
      | some data =>
          match computeMd5File md5 slot.data with
          | none => (-3, s)
          | some digest =>
              if cString digest = cString (stored.take 33) then (0, fread index size data s)
              else (-1, s)

/-- Both running times are set. -/
def Important (s : Incubator) : Prop :=
  s.getTime Reg.rRunSecondHigh > 0 ∧ s.getTime Reg.rRunSystemSecondHigh > 0

instance (s : Incubator) : Decidable (Important s) := inferInstanceAs (Decidable (_ ∧ _))

structure Restore where
  syncFileIndex : Nat
  memory : Incubator

def restoreSlot (disk : Disk) (r : Restore) (k : Nat) : Restore :=
  if k = r.syncFileIndex then
    let (rc, s) := synIniToShm md5 syncDataStart syncDataLen (disk k) r.memory
    if rc ≠ 0 then ⟨r.syncFileIndex + 1, s⟩
    else if ¬Important s then ⟨r.syncFileIndex + 1, s⟩
    else ⟨r.syncFileIndex, s⟩
  else r

/-- After ten failures an eleventh slot is tried. -/
def restoreLast (disk : Disk) (r : Restore) : Restore :=
  if r.syncFileIndex > 10 then
    let (rc, s) := synIniToShm md5 syncDataStart syncDataLen (disk r.syncFileIndex) r.memory
    if rc ≠ 0 then ⟨r.syncFileIndex + 1, s⟩ else ⟨r.syncFileIndex, s⟩
  else r

def initParaRestore (disk : Disk) (s : Incubator) : Restore :=
  restoreLast md5 disk (syncBackupIndices.foldl (restoreSlot md5 disk) ⟨1, s⟩)

end

/-! ## Images -/

section

variable {index size : Nat} {s source : Incubator}

theorem freadWords_flatMap (words : List Word) :
    freadWords (words.flatMap wordBytes) = words := by
  induction words with
  | nil => rfl
  | cons word words ih =>
      have split : freadWords ((word :: words).flatMap wordBytes) =
          bytesWord (wordBytes word) :: freadWords (words.flatMap wordBytes) := rfl
      rw [split, ih, bytesWord_wordBytes]

/-- What was written of one memory is read into another one. -/
theorem fread_fwrite (i : Nat) : (fread index size (fwrite index size source) s).shmOut i =
    if index ≤ i ∧ i < index + size then source.shmOut i else s.shmOut i := by
  have length : ((List.range' index size).map source.shmOut).length = size := by simp
  simp only [fread, fwrite, freadWords_flatMap]
  rw [List.take_of_length_le length.le]
  by_cases below : index ≤ i
  · rw [if_pos below]
    by_cases above : i < index + size
    · have place : i - index < ((List.range' index size).map source.shmOut).length := by omega
      rw [if_pos ⟨below, above⟩, List.getD_eq_getElem _ _ place, List.getElem_map,
        List.getElem_range', one_mul, Nat.add_sub_cancel' below]
    · rw [if_neg fun inside => above inside.2, List.getD_eq_default]
      omega
  · rw [if_neg below, if_neg fun inside => below inside.1]

/-- The running times are among the registers of an image. -/
theorem important_fread (s : Incubator) : Important
    (fread syncDataStart syncDataLen (fwrite syncDataStart syncDataLen source) s) ↔
      Important source := by
  have reg (i : Nat) (small : i < 5000) :
      (fread syncDataStart syncDataLen (fwrite syncDataStart syncDataLen source) s).reg i =
        source.reg i := by
    have inside : syncDataStart ≤ i ∧ i < syncDataStart + syncDataLen := by
      simp only [syncDataStart, syncDataLen]
      omega
    rw [Incubator.reg, fread_fwrite, if_pos inside]
    rfl
  simp only [Important, getTime_eq, reg _ (by decide : Reg.rRunSecondHigh < 5000),
    reg _ (by decide : Reg.rRunSecondHigh + 1 < 5000),
    reg _ (by decide : Reg.rRunSystemSecondHigh < 5000),
    reg _ (by decide : Reg.rRunSystemSecondHigh + 1 < 5000)]

end

/-! ## The thread as passes of records -/

section

variable {md5 : List Byte → List Byte}

/-- The contents of a data file of the thread. -/
def image (s : Incubator) : List Byte := fwrite syncDataStart syncDataLen s

def digestFile (md5 : List Byte → List Byte) (contents : List Byte) : List Byte :=
  cString (md5 contents) ++ [0]

def slotRecord (md5 : List Byte → List Byte) (s : Incubator) : List (Step Byte) :=
  record (image s) (digestFile md5 (image s))

theorem synShmToIni_eq (s : Incubator) (slot : Slot Byte) :
    synShmToIni md5 syncDataStart syncDataLen s slot = slotRecord md5 s := by
  rw [synShmToIni, run_writeData]
  rfl

theorem sysnSlots_eq (memory : Nat → Incubator) (slots : List Nat) (disk : Disk) :
    sysnSlots md5 memory slots disk = pass (fun k => slotRecord md5 (memory k)) slots := by
  induction slots generalizing disk with
  | nil => rfl
  | cons k slots ih =>
      rw [sysnSlots, synShmToIni_eq, ih]
      rfl

theorem sysnRound_eq (memory : Nat → Incubator) (disk : Disk) :
    sysnRound md5 memory disk = pass (fun k => slotRecord md5 (memory k)) syncBackupIndices :=
  sysnSlots_eq memory syncBackupIndices disk

theorem syncBackupIndices_nodup : syncBackupIndices.Nodup := List.nodup_range'

/-- After a round every slot holds the image and its digest. -/
theorem sysnRound_slot (memory : Nat → Incubator) (disk : Disk) {k : Nat}
    (mem : k ∈ syncBackupIndices) : run diskStep disk (sysnRound md5 memory disk) k =
      ⟨some (image (memory k)), some (digestFile md5 (image (memory k)))⟩ := by
  rw [sysnRound_eq, run_diskStep, only_pass syncBackupIndices_nodup, if_pos mem, slotRecord,
    run_record]

theorem sysnThreadFunc_slot (rounds : List (Nat → Incubator)) (memory : Nat → Incubator)
    (disk : Disk) {k : Nat} (mem : k ∈ syncBackupIndices) :
    sysnThreadFunc md5 (rounds ++ [memory]) disk k =
      ⟨some (image (memory k)), some (digestFile md5 (image (memory k)))⟩ := by
  rw [sysnThreadFunc, List.foldl_append, List.foldl_cons, List.foldl_nil,
    sysnRound_slot memory _ mem]

end

end Jincubator
