import Jincubator.BackupRuns

/-! # The accesses to a slot

Undisturbed, the backup thread makes the accesses of `synShmToIni`. Where the other
threads act in the middle of a slot, the file holds the first registers as they were
before and the other ones as they are afterwards.
-/

namespace Jincubator

open Footprint Incubator Journal Run

namespace Machine

/-- So many accesses lead from one state to the other and take no digest. -/
structure Backs (md5 : List Byte → List Byte) (m m' : Machine) (n : Nat) : Prop where
  reached : run (step md5) m (List.replicate n .backup) = m'
  silent : digested md5 m (List.replicate n .backup) = ∅

/-- Accesses to the slot that is written have been made. -/
def wrote (m : Machine) (copied : Option Nat) (accesses : List (Step Byte)) : Machine :=
  { m with copied := copied, disk := run diskStep m.disk (accesses.map (m.slot, ·)) }

section

variable {md5 : List Byte → List Byte} {m m' m'' : Machine} {es : List Event} {a b i n : Nat}

theorem wrote_wrote (m : Machine) (copied later : Option Nat) (first second : List (Step Byte)) :
    (m.wrote copied first).wrote later second = m.wrote later (first ++ second) := by
  simp only [wrote, List.map_append, run_append]

theorem wrote_slot (m : Machine) (copied : Option Nat) (accesses : List (Step Byte)) :
    (m.wrote copied accesses).disk m.slot = run Slot.step (m.disk m.slot) accesses := by
  simp only [wrote, run_diskStep, only_own]

theorem fwrite_add (i a b : Nat) (s : Incubator) :
    fwrite i (a + b) s = fwrite i a s ++ fwrite (i + a) b s := by
  rw [fwrite, fwrite, fwrite, ← List.range'_append_1, List.map_append, List.flatMap_append]

/-- Events that do not look at the files. -/
theorem run_sameFiles (md5 : List Byte → List Byte) (m : Machine)
    (others : ∀ e ∈ es, ¬e.Files) :
    SameFiles m (run (step md5) m es) ∧ digested md5 m es = ∅ := by
  induction es generalizing m with
  | nil => exact ⟨⟨rfl, rfl, rfl, rfl, rfl⟩, rfl⟩
  | cons e es ih =>
      have other := others e List.mem_cons_self
      obtain ⟨later, none⟩ := ih (step md5 m e) fun f mem => others f (List.mem_cons_of_mem e mem)
      refine ⟨(step_sameFiles md5 m other).trans later, ?_⟩
      rw [digested, none, Set.union_empty]
      cases e with
      | backup => exact absurd trivial other
      | restart powered pt windows now => exact absurd trivial other
      | main | timer | pt100 | co2 | motor | eggs | alarm | request | input => rfl

theorem Backs.trans (first : Backs md5 m m' a) (second : Backs md5 m' m'' b) :
    Backs md5 m m'' (a + b) := by
  constructor
  · rw [List.replicate_add, run_append, first.reached, second.reached]
  · rw [List.replicate_add, digested_append, first.reached, first.silent, second.silent,
      Set.empty_union]

theorem backs_one (md5 : List Byte → List Byte) (started : m.started = true)
    (silent : m.digests .backup = ∅) : Backs md5 m (m.backupStep md5) 1 := by
  constructor
  · rw [List.replicate_one, run_cons, run_nil, step_backup started]
  · rw [List.replicate_one, digested, digested, silent, Set.empty_union]

/-- What is pending is done. -/
theorem backs_pending (md5 : List Byte → List Byte) {pending : List (Step Byte)}
    (started : m.started = true) (rest : m.pending = pending) : Backs md5 m
      { m with disk := run diskStep m.disk (pending.map (m.slot, ·)), pending := [] }
      pending.length := by
  induction pending generalizing m with
  | nil =>
      cases m
      cases rest
      exact ⟨rfl, rfl⟩
  | cons access pending ih =>
      have silent : m.digests .backup = ∅ := by
        rw [digests, rest]
        exact Set.eq_empty_of_forall_notMem fun _ mem => List.cons_ne_nil _ _ mem.2.1
      have first := backs_one md5 started silent
      rw [backupStep_cons rest] at first
      rw [List.length_cons, Nat.add_comm]
      exact first.trans (ih started rfl)

/-- A slot is begun and its data file emptied. -/
theorem backs_begin (md5 : List Byte → List Byte) (started : m.started = true)
    (rest : m.pending = []) (idle : m.copied = none) :
    Backs md5 m ({ m with slot := m.slot % 10 + 1 }.wrote (some 0) [.truncateData]) 2 := by
  have silent : m.digests .backup = ∅ := by
    refine Set.eq_empty_of_forall_notMem ?_
    rintro data ⟨-, -, ⟨j, same, -⟩, -⟩
    exact absurd (same.symm.trans idle) (Option.some_ne_none j)
  have first := backs_one md5 started silent
  rw [backupStep_begin rest idle] at first
  have emptied := first.trans (backs_pending md5 started rfl)
  cases m
  cases rest
  exact emptied

/-- So many registers are copied from some one on. -/
theorem backs_copy (md5 : List Byte → List Byte) {j : Nat} (started : m.started = true)
    (rest : m.pending = []) (copied : m.copied = some i) (ends : i + n = j)
    (within : j ≤ syncDataLen) :
    Backs md5 m (m.wrote (some j) ((fwrite (syncDataStart + i) n m.inc).map .appendData))
      (3 * n) := by
  induction n generalizing m i with
  | zero =>
      cases m
      cases copied
      cases ends
      exact ⟨rfl, rfl⟩
  | succ n ih =>
      have silent : m.digests .backup = ∅ := by
        refine Set.eq_empty_of_forall_notMem ?_
        rintro data ⟨-, -, ⟨k, same, all⟩, -⟩
        rw [copied] at same
        obtain rfl := Option.some.inj same
        omega
      have first := backs_one md5 started silent
      rw [backupStep_read rest copied (by omega)] at first
      have read := first.trans (backs_pending md5 started rfl)
      have later := read.trans (ih (i := i + 1) started rfl rfl (by omega))
      have one : fwrite (syncDataStart + i) 1 m.inc =
          wordBytes (m.inc.shmOut (syncDataStart + i)) := List.append_nil _
      rw [Nat.add_comm n 1, fwrite_add, one, List.map_append, ← wrote_wrote m (some (i + 1)),
        Nat.mul_add]
      cases m
      cases rest
      exact later

/-- The one digest of a slot is taken of its data file. -/
theorem run_settle {data : List Byte} (text : DigestText md5) (started : m.started = true)
    (rest : m.pending = []) (copied : m.copied = some i) (all : syncDataLen ≤ i)
    (on : (m.disk m.slot).data = some data) :
    run (step md5) m (List.replicate 35 .backup) =
      m.wrote none (writeDigest (digestFile md5 data)) ∧
    digested md5 m (List.replicate 35 .backup) = {data} := by
  have settled : m.backupStep md5 = { m with
      copied := none
      pending := writeDigest (digestFile md5 data) } := by
    rw [backupStep_settle rest copied all, Machine.settle, on]
    rfl
  have taken : m.digests .backup = {data} := by
    ext other
    refine ⟨?_, ?_⟩
    · rintro ⟨-, -, -, same⟩
      exact Option.some.inj (same.symm.trans on)
    · rintro rfl
      exact ⟨started, rest, ⟨i, copied, all⟩, on⟩
  have number : 35 = 1 + (writeDigest (digestFile md5 data)).length := by
    rw [writeDigest, List.length_cons, List.length_map, digestFile_of_text text,
      List.length_append, (text data).1]
    rfl
  have written : Backs md5 (m.backupStep md5) _ _ :=
    backs_pending md5 (by rw [settled]; exact started) (by rw [settled])
  rw [number, List.replicate_add, List.replicate_one, List.singleton_append, run_cons, digested,
    step_backup started, taken, written.silent, Set.union_empty, written.reached, settled]
  cases m
  cases rest
  exact ⟨rfl, rfl⟩

/-- What copying leaves in the slot that is written. -/
theorem data_copy {old : List Byte} (on : (m.disk m.slot).data = some old)
    (copied : Option Nat) (image : List Byte) :
    ((m.wrote copied (image.map .appendData)).disk m.slot).data = some (old ++ image) := by
  rw [wrote_slot]
  generalize m.disk m.slot = slot at on
  obtain ⟨data, digest⟩ := slot
  obtain rfl : data = some old := on
  rw [run_appendData]

/-- A slot is begun and its first registers are copied. -/
theorem backs_lower (md5 : List Byte → List Byte) (started : m.started = true)
    (rest : m.pending = []) (idle : m.copied = none) (within : i ≤ syncDataLen) :
    Backs md5 m ({ m with slot := m.slot % 10 + 1 }.wrote (some i)
      (writeData (fwrite syncDataStart i m.inc))) (2 + 3 * i) := by
  have begun := backs_begin md5 started rest idle
  have copy := backs_copy md5 (i := 0) (n := i)
    (m := { m with slot := m.slot % 10 + 1 }.wrote (some 0) [.truncateData])
    started rest rfl (Nat.zero_add i) within
  rw [wrote_wrote] at copy
  exact begun.trans copy

/-- The other registers are copied, and the digest of the file is written. -/
theorem run_upper {lower upper : List Byte} (text : DigestText md5) (started : m.started = true)
    (rest : m.pending = []) (copied : m.copied = some i) (halves : i + n = syncDataLen)
    (half : (m.disk m.slot).data = some lower)
    (later : fwrite (syncDataStart + i) n m.inc = upper) :
    run (step md5) m (List.replicate (3 * n + 35) .backup) =
      m.wrote none (upper.map .appendData ++ writeDigest (digestFile md5 (lower ++ upper))) ∧
    digested md5 m (List.replicate (3 * n + 35) .backup) = {lower ++ upper} := by
  have copy := backs_copy md5 started rest copied halves le_rfl
  rw [later] at copy
  have full := data_copy half (some syncDataLen) upper
  obtain ⟨reached, taken⟩ := run_settle text (m := m.wrote (some syncDataLen)
    (upper.map .appendData)) started rest rfl le_rfl full
  constructor
  · rw [List.replicate_add, run_append, copy.reached, reached, wrote_wrote]
  · rw [List.replicate_add, digested_append, copy.silent, copy.reached, taken, Set.empty_union]

theorem writeData_append (lower upper digest : List Byte) :
    writeData lower ++ (upper.map .appendData ++ writeDigest digest) =
      record (lower ++ upper) digest := by
  rw [record, writeData, writeData, List.map_append, List.cons_append, List.cons_append,
    List.append_assoc]

/-- A slot that is written in two parts, the others acting in between. -/
theorem run_slot {lower upper : List Byte} (text : DigestText md5) (started : m.started = true)
    (rest : m.pending = []) (idle : m.copied = none) (others : ∀ e ∈ es, ¬e.Files)
    (halves : i + n = syncDataLen)
    (between : run (step md5) m (List.replicate (2 + 3 * i) .backup ++ es) = m')
    (before : fwrite syncDataStart i m.inc = lower)
    (later : fwrite (syncDataStart + i) n m'.inc = upper) :
    run (step md5) m' (List.replicate (3 * n + 35) .backup) = { m' with
      copied := none
      disk := run diskStep m.disk ((record (lower ++ upper)
        (digestFile md5 (lower ++ upper))).map (m.slot % 10 + 1, ·)) } ∧
    digested md5 m (List.replicate (2 + 3 * i) .backup ++ es ++
      List.replicate (3 * n + 35) .backup) = {lower ++ upper} := by
  have first := backs_lower md5 started rest idle (halves ▸ Nat.le_add_right i n)
  rw [before] at first
  obtain ⟨same, quiet⟩ := run_sameFiles md5
    ({ m with slot := m.slot % 10 + 1 }.wrote (some i) (writeData lower)) others
  rw [← first.reached, ← run_append, between, first.reached] at same
  have disk : m'.disk = run diskStep m.disk ((writeData lower).map (m.slot % 10 + 1, ·)) :=
    same.disk
  have slot : m'.slot = m.slot % 10 + 1 := same.slot
  have half : (m'.disk m'.slot).data = some lower := by
    rw [disk, slot, run_diskStep, only_own, run_writeData]
  obtain ⟨reached, taken⟩ := run_upper text (same.started.trans started) (same.pending.trans rest)
    same.copied halves half later
  constructor
  · rw [reached, wrote, disk, slot, ← run_append, ← List.map_append, writeData_append]
  · rw [digested_append, digested_append, first.silent, first.reached, quiet, between, taken,
      Set.empty_union, Set.empty_union]

/-- Undisturbed, the accesses to a slot are those of `synShmToIni`. -/
theorem run_synShmToIni (text : DigestText md5) (started : m.started = true)
    (rest : m.pending = []) (idle : m.copied = none) :
    ∃ n, run (step md5) m (List.replicate n .backup) = { m with
      slot := m.slot % 10 + 1
      disk := run diskStep m.disk ((synShmToIni md5 syncDataStart syncDataLen m.inc
        (m.disk (m.slot % 10 + 1))).map (m.slot % 10 + 1, ·)) } := by
  have begun := backs_begin md5 started rest idle
  generalize next : ({ m with slot := m.slot % 10 + 1 } : Machine) = t at begun
  have inc : t.inc = m.inc := by rw [← next]
  have empty : ((t.wrote (some 0) [.truncateData]).disk t.slot).data = some [] := by
    rw [wrote_slot]
    rfl
  have whole : fwrite (syncDataStart + 0) syncDataLen (t.wrote (some 0) [.truncateData]).inc =
      image m.inc := by
    rw [Nat.add_zero, image, ← inc]
    rfl
  obtain ⟨reached, -⟩ := run_upper text (m := t.wrote (some 0) [.truncateData])
    (by rw [← next]; exact started) (by rw [← next]; exact rest) rfl (Nat.zero_add syncDataLen)
    empty whole
  rw [List.nil_append] at reached
  have accesses := writeData_append [] (image m.inc) (digestFile md5 (image m.inc))
  rw [List.nil_append, writeData, List.map_nil] at accesses
  refine ⟨2 + (3 * syncDataLen + 35), ?_⟩
  rw [List.replicate_add, run_append, begun.reached, reached, wrote_wrote, accesses,
    synShmToIni_eq, slotRecord, ← next]
  cases m
  cases idle
  rfl

end

/-! ## A torn slot -/

/-- A few steps of the other threads. -/
def firstSteps : List Event := [.main ⟨60, 0, 0, 0⟩, .timer, .alarm]

def powerOn : List Event := .restart false noPara noWindows 0 :: firstSteps

/-- A register changes that is in the file already, and one that is not. -/
def disturbance : List Event := [.timer, .input 10 (by decide) 7, .input 4500 (by decide) 7]

/-- The first slot, disturbed after so many registers. -/
def tornRun (i n : Nat) : List Event :=
  powerOn ++ (List.replicate (2 + 3 * i) .backup ++ disturbance ++
    List.replicate (3 * n + 35) .backup)

/-- The digest of the file that the run leaves. -/
def tornDigest (_ : List Byte) : List Byte :=
  "ea1ff09bc4d0219b3c8d36c1e3017702".toList.map fun c => BitVec.ofNat 8 c.toNat

theorem tornDigest_text : DigestText tornDigest := by
  have text : (tornDigest []).length = 32 ∧ (0 : Byte) ∉ tornDigest [] := by decide +kernel
  exact fun _ => text

section

variable (md5 : List Byte → List Byte) (i n : Nat)

def poweredOn : Machine := run (step md5) new powerOn

def disturbed : Machine :=
  run (step md5) (poweredOn md5) (List.replicate (2 + 3 * i) .backup ++ disturbance)

def tornWords : List Word :=
  (List.range' syncDataStart i).map (poweredOn md5).inc.shmOut ++
    (List.range' (syncDataStart + i) n).map (disturbed md5 i).inc.shmOut

/-- The contents of the torn file. -/
def tornData : List Byte :=
  fwrite syncDataStart i (poweredOn md5).inc ++ fwrite (syncDataStart + i) n (disturbed md5 i).inc

end

section

variable {md5 : List Byte → List Byte} {i n : Nat}

theorem firstSteps_files : ∀ e ∈ firstSteps, ¬e.Files := by simp [firstSteps, Event.Files]

/-- The first start of all. -/
theorem restart_new (md5 : List Byte → List Byte) (windows : Fin 6 → Pt100Window) (now : Int) :
    new.restart md5 false noPara windows now =
      new.begin windows (initParaEnd now (initParaDefaults noPara cleared)) := by
  have found : new.restored md5 false = cleared := restore_noBackup md5 cleared
  have opens : (new.restored md5 false).getVal Reg.rSyncHatchMode = 0 := by
    rw [found]
    decide
  rw [restart_of_open md5 opens, found]

theorem poweredOn_files (md5 : List Byte → List Byte) :
    SameFiles { new with started := true } (poweredOn md5) ∧ digested md5 new powerOn = ∅ := by
  obtain ⟨same, quiet⟩ :=
    run_sameFiles md5 (new.restart md5 false noPara noWindows 0) firstSteps_files
  constructor
  · have start : SameFiles { new with started := true }
        (new.restart md5 false noPara noWindows 0) := by
      rw [restart_new]
      exact ⟨rfl, rfl, rfl, rfl, rfl⟩
    exact start.trans same
  · have empty : new.found = ∅ := Set.eq_empty_of_forall_notMem fun _ ⟨_, on⟩ => nomatch on
    rw [powerOn, digested, digests, empty, Set.empty_union]
    exact quiet

/-- A register that neither the end of the start nor the other threads write. -/
theorem poweredOn_reg (md5 : List Byte → List Byte) {j : Nat} (lasting : ¬Ended j)
    (main : j ∉ mainWrites) (timer : j ∉ timerWrites) (alarm : j ∉ alarmRoundWrites) :
    (poweredOn md5).inc.reg j = bootValue noPara cleared j := by
  have kept : ∀ e ∈ firstSteps, ∀ m : Machine, (step md5 m e).inc.reg j = m.inc.reg j := by
    intro e mem m
    refine congrArg baWord (step_keeps m e j ?_)
    simp only [firstSteps, List.mem_cons, List.not_mem_nil, or_false] at mem
    rcases mem with rfl | rfl | rfl
    · exact main
    · exact timer
    · exact alarm
  have start : (new.restart md5 false noPara noWindows 0).inc.reg j =
      bootValue noPara cleared j := by
    rw [restart_new, begin_inc, initParaEnd_reg 0 noPara cleared lasting]
  rw [← start]
  exact run_view (fun m : Machine => m.inc.reg j) kept _

theorem run_tornRun (text : DigestText md5) (halves : i + n = syncDataLen) :
    run (step md5) new (tornRun i n) = { disturbed md5 i with
      copied := none
      disk := Function.update noBackup 1
        ⟨some (tornData md5 i n), some (digestFile md5 (tornData md5 i n))⟩ } ∧
      digested md5 new (tornRun i n) = {tornData md5 i n} := by
  obtain ⟨⟨started, disk, slot, copied, pending⟩, quiet⟩ := poweredOn_files md5
  have others : ∀ e ∈ disturbance, ¬e.Files := by simp [disturbance, Event.Files]
  have between : run (step md5) (poweredOn md5)
      (List.replicate (2 + 3 * i) .backup ++ disturbance) = disturbed md5 i := rfl
  obtain ⟨reached, taken⟩ := run_slot text started pending copied others halves between rfl rfl
  constructor
  · have first : (poweredOn md5).slot % 10 + 1 = 1 := by rw [slot]; rfl
    have empty : (poweredOn md5).disk = noBackup := disk
    rw [tornRun, run_append, run_append]
    refine reached.trans ?_
    rw [first, empty, run_own, run_record]
    rfl
  · rw [tornRun, digested_append, quiet, Set.empty_union]
    exact taken

/-- Every digest of the run is of the one file there is. -/
theorem tornRun_free (text : DigestText md5) (halves : i + n = syncDataLen) :
    Set.InjOn md5 (digested md5 new (tornRun i n) ∪ (run (step md5) new (tornRun i n)).found) := by
  obtain ⟨reached, taken⟩ := run_tornRun text halves
  have one : (run (step md5) new (tornRun i n)).found ⊆ {tornData md5 i n} := by
    rw [reached]
    rintro data ⟨k, on⟩
    dsimp only at on
    by_cases first : k = 1
    · subst first
      rw [Function.update_self] at on
      exact (Option.some.inj on).symm
    · rw [Function.update_of_ne first] at on
      exact nomatch on
  rw [taken]
  exact (Set.injOn_singleton md5 _).mono (Set.union_subset le_rfl one)

theorem getD_halves {α : Type*} (f g : Nat → α) (i n j : Nat) (d : α) :
    ((List.range' 0 i).map f ++ (List.range' i n).map g).getD j d =
      if j < i then f j else if j < i + n then g j else d := by
  grind

/-- What a start reads from the torn slot. -/
theorem restored_tornRun (text : DigestText md5) (halves : i + n = syncDataLen) (j : Nat) :
    ((run (step md5) new (tornRun i n)).restored md5 false).shmOut j =
      if j < i then (poweredOn md5).inc.shmOut j
      else if j < syncDataLen then (disturbed md5 i).inc.shmOut j else 0 := by
  obtain ⟨reached, -⟩ := run_tornRun text halves
  generalize run (step md5) new (tornRun i n) = m at reached
  have disk : m.disk = Function.update noBackup 1
      ⟨some (tornData md5 i n), some (digestFile md5 (tornData md5 i n))⟩ := by
    rw [reached]
  have alone (k : Nat) (other : k ≠ 1) : (m.disk k).digest = none := by
    rw [disk, Function.update_of_ne other]
    rfl
  have data : tornData md5 i n = (tornWords md5 i n).flatMap wordBytes := by
    rw [tornWords, List.flatMap_append]
    rfl
  have length : (tornWords md5 i n).length = syncDataLen := by
    rw [tornWords, List.length_append, List.length_map, List.length_map, List.length_range',
      List.length_range', halves]
  rw [restored, initParaRestore_first alone, disk, Function.update_self, synIniToShm_eq text,
    cString_digestFile text, if_pos rfl, data]
  dsimp only
  rw [fread_words length, tornWords, syncDataStart, Nat.zero_add, getD_halves, halves]
  rfl

end

end Machine

end Jincubator
