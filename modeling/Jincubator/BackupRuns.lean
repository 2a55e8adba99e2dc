import Jincubator.System

/-! # Runs of the backup

A slot of the backup is written register by register from the memory as it stands, while
the other threads go on. So a complete data file holds registers of several moments, in
the order of the registers, all within one write of its slot; and a digest file that is
complete belongs to a data file that was.
-/

namespace Jincubator

open Footprint Incubator Journal Run

/-! ## The files of a slot -/

/-- A complete image of words that were kept, of which a digest has been taken. -/
def Recorded (Kept : List Word → Prop) (held : Set (List Byte)) (contents : List Byte) : Prop :=
  contents ∈ held ∧
    ∃ words, Kept words ∧ words.length = syncDataLen ∧ contents = words.flatMap wordBytes

/-- The memory is the first one, or words that were kept stand in it. -/
def Overlaid (Kept : List Word → Prop) (s t : Incubator) : Prop :=
  t = s ∨ ∃ words, Kept words ∧ words.length = syncDataLen ∧
    t = fread syncDataStart syncDataLen (words.flatMap wordBytes) s

section

variable {md5 : List Byte → List Byte} {Kept Later : List Word → Prop} {held : Set (List Byte)}
  {slot : Slot Byte} {disk : Disk} {s t : Incubator} {words : List Word}

theorem Recorded.mono (grows : ∀ words, Kept words → Later words) {contents : List Byte}
    (recorded : Recorded Kept held contents) : Recorded Later held contents := by
  obtain ⟨taken, words, kept, length, same⟩ := recorded
  exact ⟨taken, words, grows words kept, length, same⟩

theorem cString_prefix {p q : List Byte} (cut : p <+: q) : cString p <+: cString q := by
  obtain ⟨rest, rfl⟩ := cut
  rw [cString, cString, List.takeWhile_append]
  split
  · exact (List.takeWhile_prefix _).trans (List.prefix_append _ _)
  · exact List.prefix_refl _

theorem fread_words (length : words.length = syncDataLen) (s : Incubator) (i : Nat) :
    (fread syncDataStart syncDataLen (words.flatMap wordBytes) s).shmOut i =
      words.getD i (s.shmOut i) := by
  simp only [fread, freadWords_flatMap, List.take_of_length_le length.le]
  exact if_pos (Nat.zero_le i)

/-- A second image covers the first one. -/
theorem fread_fread {other : List Word} (length : words.length = syncDataLen)
    (first : other.length = syncDataLen) (s : Incubator) :
    fread syncDataStart syncDataLen (words.flatMap wordBytes)
        (fread syncDataStart syncDataLen (other.flatMap wordBytes) s) =
      fread syncDataStart syncDataLen (words.flatMap wordBytes) s := by
  have registers : (fread syncDataStart syncDataLen (words.flatMap wordBytes)
      (fread syncDataStart syncDataLen (other.flatMap wordBytes) s)).shmOut =
        (fread syncDataStart syncDataLen (words.flatMap wordBytes) s).shmOut := by
    funext i
    rw [fread_words length, fread_words length, fread_words first]
    by_cases inside : i < syncDataLen
    · have small : i < words.length := length.symm ▸ inside
      rw [List.getD_eq_getElem _ _ small, List.getD_eq_getElem _ _ small]
    · rw [List.getD_eq_default other _ (first.symm ▸ not_lt.mp inside)]
  exact congrArg (fun registers => { s with shmOut := registers }) registers

/-- A digest that fits tells that the data file is complete. -/
theorem synIniToShm_traced (text : DigestText md5) (free : Set.InjOn md5 held)
    (traced : Traced (Recorded Kept held) (digestFile md5) slot)
    (onDisk : ∀ data, slot.data = some data → data ∈ held) (overlaid : Overlaid Kept s t) :
    Overlaid Kept s (synIniToShm md5 syncDataStart syncDataLen slot t).2 := by
  obtain ⟨data, stored⟩ := slot
  cases stored with
  | none => exact overlaid
  | some stored =>
      cases data with
      | none => exact overlaid
      | some data =>
          rw [synIniToShm_eq text]
          split
          · rename_i fits
            obtain ⟨contents, ⟨taken, words, kept, length, image⟩, cut⟩ := traced stored rfl
            have whole : cString ((digestFile md5 contents).take 33) = md5 contents :=
              cString_digestFile text
            have begins : md5 data <+: md5 contents := by
              rw [fits, ← whole]
              exact cString_prefix (cut.take 33)
            have same := free (onDisk data rfl) taken
              (begins.eq_of_length ((text data).1.trans (text contents).1.symm))
            subst same image
            rcases overlaid with rfl | ⟨other, -, first, rfl⟩
            · exact Or.inr ⟨words, kept, length, rfl⟩
            · exact Or.inr ⟨words, kept, length, fread_fread length first s⟩
          · exact overlaid

theorem restoreSlot_memory (disk : Disk) (r : Restore) (k : Nat) :
    (restoreSlot md5 disk r k).memory = if k = r.syncFileIndex then
      (synIniToShm md5 syncDataStart syncDataLen (disk k) r.memory).2 else r.memory := by
  rw [restoreSlot]
  split
  · dsimp only
    split
    · rfl
    · split <;> rfl
  · rfl

theorem restoreLast_memory (disk : Disk) (r : Restore) :
    (restoreLast md5 disk r).memory = if r.syncFileIndex > 10 then
      (synIniToShm md5 syncDataStart syncDataLen (disk r.syncFileIndex) r.memory).2
        else r.memory := by
  rw [restoreLast]
  split
  · dsimp only
    split <;> rfl
  · rfl

/-- Of one slot only there are files. -/
theorem initParaRestore_first (alone : ∀ k ≠ 1, (disk k).digest = none) (s : Incubator) :
    (initParaRestore md5 disk s).memory =
      (synIniToShm md5 syncDataStart syncDataLen (disk 1) s).2 := by
  have missing (k : Nat) (other : k ≠ 1) (s : Incubator) :
      (synIniToShm md5 syncDataStart syncDataLen (disk k) s).2 = s := by
    rw [synIniToShm, alone k other]
  have later (l : List Nat) (others : ∀ k ∈ l, k ≠ 1) (r : Restore) :
      (l.foldl (restoreSlot md5 disk) r).memory = r.memory := by
    induction l generalizing r with
    | nil => rfl
    | cons k l ih =>
        rw [List.foldl_cons, ih (fun j mem => others j (List.mem_cons_of_mem k mem)),
          restoreSlot_memory, missing k (others k List.mem_cons_self), ite_self]
  have ten : (syncBackupIndices.foldl (restoreSlot md5 disk) ⟨1, s⟩).memory =
      (synIniToShm md5 syncDataStart syncDataLen (disk 1) s).2 := by
    rw [syncBackupIndices, List.range'_succ, List.foldl_cons, later _ (by decide),
      restoreSlot_memory, if_pos rfl]
  rw [initParaRestore, restoreLast_memory]
  split
  · rename_i failed
    rw [missing _ (by omega), ten]
  · exact ten

/-- The restore takes complete images only. -/
theorem initParaRestore_traced (text : DigestText md5) (free : Set.InjOn md5 held)
    (traced : ∀ k, Traced (Recorded Kept held) (digestFile md5) (disk k))
    (onDisk : ∀ k data, (disk k).data = some data → data ∈ held) (s : Incubator) :
    Overlaid Kept s (initParaRestore md5 disk s).memory := by
  have slots (l : List Nat) (r : Restore) (overlaid : Overlaid Kept s r.memory) :
      Overlaid Kept s (l.foldl (restoreSlot md5 disk) r).memory := by
    induction l generalizing r with
    | nil => exact overlaid
    | cons k l ih =>
        refine ih _ ?_
        rw [restoreSlot_memory]
        split
        · exact synIniToShm_traced text free (traced k) (onDisk k) overlaid
        · exact overlaid
  have ten := slots syncBackupIndices ⟨1, s⟩ (Or.inl rfl)
  rw [initParaRestore, restoreLast_memory]
  split
  · exact synIniToShm_traced text free (traced _) (onDisk _) ten
  · exact ten

end

/-- The backup and a start look at the files. -/
def Event.Files : Event → Prop
  | .backup => True
  | .restart _ _ _ _ => True
  | _ => False

namespace Machine

/-! ## The digests of a run -/

/-- The contents of the data files. -/
def found (m : Machine) : Set (List Byte) := { data | ∃ k, (m.disk k).data = some data }

/-- The contents that an event takes a digest of: a data file that is complete, and the data files
that a start finds. -/
def digests (m : Machine) : Event → Set (List Byte)
  | .backup => { data | m.started = true ∧ m.pending = [] ∧
      (∃ i, m.copied = some i ∧ syncDataLen ≤ i) ∧ (m.disk m.slot).data = some data }
  | .restart _ _ _ _ => m.found
  | _ => ∅

/-- The contents that a run takes digests of. -/
def digested (md5 : List Byte → List Byte) : Machine → List Event → Set (List Byte)
  | _, [] => ∅
  | m, e :: es => m.digests e ∪ digested md5 (step md5 m e) es

section

variable {md5 : List Byte → List Byte} {m : Machine} {es : List Event}

theorem digested_append (m : Machine) (es fs : List Event) : digested md5 m (es ++ fs) =
    digested md5 m es ∪ digested md5 (run (step md5) m es) fs := by
  induction es generalizing m with
  | nil => exact (Set.empty_union _).symm
  | cons e es ih => rw [List.cons_append, digested, ih, run_cons, digested, Set.union_assoc]

theorem digests_subset {before after : List Event} {e : Event}
    (split : es = before ++ e :: after) :
    (run (step md5) m before).digests e ⊆ digested md5 m es := by
  rw [split, digested_append, digested]
  exact fun _ mem => Or.inr (Or.inl mem)

end

/-! ## Moments of a run -/

section

variable (md5 : List Byte → List Byte) (es : List Event)

/-- The controller after the first events of a run from nothing. -/
def after (n : Nat) : Machine := run (step md5) new (es.take n)

/-- The moments of the registers follow each other while one slot is written. -/
structure OneWrite (moment : Nat → Nat) (last : Nat) : Prop where
  ordered : Monotone moment
  bounded : ∀ i, moment i ≤ last
  writing : ∀ n, moment 0 ≤ n → n ≤ last →
    (after md5 es n).started = true ∧ (after md5 es n).copied ≠ none

/-- The words are those of the first registers, each as it stood at its moment. -/
def ReadAt (moment : Nat → Nat) (words : List Word) : Prop :=
  ∀ i (inside : i < words.length),
    words[i] = (after md5 es (moment i)).inc.shmOut (syncDataStart + i)

/-- The words were read in one write of a slot that was over at the given moment. -/
def Copied (now : Nat) (words : List Word) : Prop :=
  ∃ last ≤ now, ∃ moment, OneWrite md5 es moment last ∧ ReadAt md5 es moment words

end

section

variable {md5 : List Byte → List Byte} {es : List Event} {held : Set (List Byte)}
  {moment : Nat → Nat} {words : List Word} {n last : Nat}

theorem after_succ (md5 : List Byte → List Byte) (inside : n < es.length) :
    after md5 es (n + 1) = step md5 (after md5 es n) es[n] := by
  rw [after, List.take_add_one, List.getElem?_eq_getElem inside, Option.toList_some, run_append]
  rfl

theorem Copied.later (copied : Copied md5 es n words) : Copied md5 es (n + 1) words := by
  obtain ⟨last, past, moments⟩ := copied
  exact ⟨last, Nat.le_succ_of_le past, moments⟩

/-- A slot that is still written a moment later. -/
theorem OneWrite.succ (write : OneWrite md5 es moment n)
    (started : (after md5 es (n + 1)).started = true)
    (copied : (after md5 es (n + 1)).copied ≠ none) : OneWrite md5 es moment (n + 1) := by
  refine ⟨write.ordered, fun i => Nat.le_succ_of_le (write.bounded i), ?_⟩
  intro k begun ended
  rcases Nat.le_succ_iff.mp ended with early | rfl
  · exact write.writing k begun early
  · exact ⟨started, copied⟩

/-- A slot is begun. -/
theorem oneWrite_begin (started : (after md5 es n).started = true)
    (copied : (after md5 es n).copied ≠ none) : OneWrite md5 es (fun _ => n) n := by
  refine ⟨monotone_const, fun _ => le_rfl, ?_⟩
  intro k begun ended
  obtain rfl := Nat.le_antisymm ended begun
  exact ⟨started, copied⟩

/-- The next register is read as it stands now. -/
theorem OneWrite.read (write : OneWrite md5 es moment n) (read : ReadAt md5 es moment words) :
    ∃ moment', OneWrite md5 es moment' n ∧ ReadAt md5 es moment'
      (words ++ [(after md5 es n).inc.shmOut (syncDataStart + words.length)]) := by
  refine ⟨fun i => if i < words.length then moment i else n, ⟨?_, ?_, ?_⟩, ?_⟩
  · intro i j le
    by_cases inside : j < words.length
    · simp only [inside, le.trans_lt inside, if_true]
      exact write.ordered le
    · simp only [inside, if_false]
      split
      · exact write.bounded i
      · exact le_rfl
  · intro i
    split
    · exact write.bounded i
    · exact le_rfl
  · intro k begun ended
    by_cases some : 0 < words.length
    · rw [if_pos some] at begun
      exact write.writing k begun ended
    · rw [if_neg some] at begun
      exact write.writing k ((write.bounded 0).trans begun) ended
  · intro i inside
    by_cases old : i < words.length
    · simp only [List.getElem_append_left old, old, if_true]
      exact read i old
    · rw [List.length_append, List.length_singleton] at inside
      obtain rfl : i = words.length := by omega
      simp only [List.getElem_append_right le_rfl, lt_irrefl, if_false, Nat.sub_self,
        List.getElem_singleton]

end

/-! ## The files of a run -/

/-- After the first events of a run the digests belong to complete images, the slot that is written
holds the registers read so far, and what is still to be written is the rest of its digest. -/
structure Filed (md5 : List Byte → List Byte) (es : List Event) (held : Set (List Byte)) (n : Nat) :
    Prop where
  traced : ∀ k, Traced (Recorded (Copied md5 es n) held) (digestFile md5)
    ((after md5 es n).disk k)
  copying : ∀ i, (after md5 es n).copied = some i → (after md5 es n).started = true ∧
    i ≤ syncDataLen ∧ ∃ words moment, words.length = i ∧ OneWrite md5 es moment n ∧
      ReadAt md5 es moment words ∧ (∀ access ∈ (after md5 es n).pending, access.OnData) ∧
      (run Slot.step ((after md5 es n).disk (after md5 es n).slot)
        (after md5 es n).pending).data = some (words.flatMap wordBytes)
  settling : (after md5 es n).copied = none → (after md5 es n).pending ≠ [] →
    Remains (Recorded (Copied md5 es n) held) (digestFile md5)
      ((after md5 es n).disk (after md5 es n).slot) (after md5 es n).pending

/-- The two have the same files and stand at the same place of the backup. -/
structure SameFiles (m m' : Machine) : Prop where
  started : m'.started = m.started
  disk : m'.disk = m.disk
  slot : m'.slot = m.slot
  copied : m'.copied = m.copied
  pending : m'.pending = m.pending

theorem SameFiles.trans {m m' m'' : Machine} (first : SameFiles m m') (second : SameFiles m' m'') :
    SameFiles m m'' :=
  ⟨second.started.trans first.started, second.disk.trans first.disk, second.slot.trans first.slot,
    second.copied.trans first.copied, second.pending.trans first.pending⟩

/-- Only the backup and a start do anything about the files. -/
theorem step_sameFiles (md5 : List Byte → List Byte) (m : Machine) {e : Event} (other : ¬e.Files) :
    SameFiles m (step md5 m e) := by
  have thread (t : Machine) (same : SameFiles m t) :
      SameFiles m (if m.started then t else m) := by
    split
    · exact same
    · exact ⟨rfl, rfl, rfl, rfl, rfl⟩
  cases e with
  | backup => exact absurd trivial other
  | restart powered pt windows now => exact absurd trivial other
  | request | input => exact ⟨rfl, rfl, rfl, rfl, rfl⟩
  | main | timer | pt100 | co2 | motor | eggs | alarm => exact thread _ ⟨rfl, rfl, rfl, rfl, rfl⟩

/-- A start that waits for no answer of the hatch. -/
theorem restart_of_open (md5 : List Byte → List Byte) {powered : Bool} {m : Machine}
    (opens : (m.restored md5 powered).getVal Reg.rSyncHatchMode = 0) (pt : Fin 6 → Pt100Para)
    (windows : Fin 6 → Pt100Window) (now : Int) : m.restart md5 powered pt windows now =
      m.begin windows (initParaEnd now (initParaDefaults pt (m.restored md5 powered))) := by
  rw [restart, initPara_of_open pt now opens]
  rfl

/-- A start leaves the files alone and begins the backup anew. -/
theorem restart_files (md5 : List Byte → List Byte) (powered : Bool) (pt : Fin 6 → Pt100Para)
    (windows : Fin 6 → Pt100Window) (now : Int) (m : Machine) :
    (m.restart md5 powered pt windows now).disk = m.disk ∧
      (m.restart md5 powered pt windows now).copied = none ∧
        (m.restart md5 powered pt windows now).pending = [] := by
  rw [restart]
  split <;> exact ⟨rfl, rfl, rfl⟩

section

variable {md5 : List Byte → List Byte} {es : List Event} {held : Set (List Byte)} {m : Machine}
  {n : Nat}

theorem recorded_later {contents : List Byte}
    (recorded : Recorded (Copied md5 es n) held contents) :
    Recorded (Copied md5 es (n + 1)) held contents :=
  recorded.mono fun _ copied => copied.later

theorem filed_new : Filed md5 es held 0 where
  traced _ := nofun
  copying := nofun
  settling _ some := absurd rfl some

/-- A moment in which nothing happens to the files. -/
theorem Filed.idle (filed : Filed md5 es held n)
    (same : SameFiles (after md5 es n) (after md5 es (n + 1))) : Filed md5 es held (n + 1) := by
  obtain ⟨started, disk, slot, copied, pending⟩ := same
  constructor
  · intro k
    rw [disk]
    exact (filed.traced k).mono fun _ => recorded_later
  · intro i reading
    have before := reading
    rw [copied] at before
    obtain ⟨begun, few, words, moment, length, write, read, data, image⟩ := filed.copying i before
    refine ⟨started.trans begun, few, words, moment, length, ?_, read, ?_⟩
    · exact write.succ (started.trans begun) (by rw [reading]; exact Option.some_ne_none i)
    · rw [pending, disk, slot]
      exact ⟨data, image⟩
  · rw [copied, pending, disk, slot]
    exact fun none some => (filed.settling none some).mono fun _ => recorded_later

theorem traced_diskStep {recorded : List Byte → Prop} {disk : Disk} {slot : Nat}
    {access : Step Byte} (traced : ∀ k, Traced recorded (digestFile md5) (disk k))
    (own : Traced recorded (digestFile md5) ((disk slot).step access)) (k : Nat) :
    Traced recorded (digestFile md5) (diskStep disk (slot, access) k) := by
  by_cases written : k = slot
  · subst written
    rwa [diskStep, Function.update_self]
  · rw [diskStep, Function.update_of_ne written]
    exact traced k

/-! ## The cases of an access -/

theorem backupStep_cons {access : Step Byte} {pending : List (Step Byte)}
    (rest : m.pending = access :: pending) : m.backupStep md5 =
      { m with disk := diskStep m.disk (m.slot, access), pending := pending } := by
  rw [backupStep, rest]

theorem backupStep_begin (rest : m.pending = []) (idle : m.copied = none) : m.backupStep md5 =
    { m with slot := m.slot % 10 + 1, copied := some 0, pending := [.truncateData] } := by
  rw [backupStep, rest, idle]

theorem backupStep_read {i : Nat} (rest : m.pending = []) (copying : m.copied = some i)
    (more : i < syncDataLen) : m.backupStep md5 =
      { m with
        copied := some (i + 1)
        pending := (wordBytes (m.inc.shmOut (syncDataStart + i))).map .appendData } := by
  simp only [backupStep, rest, copying, if_pos more]

theorem backupStep_settle {i : Nat} (rest : m.pending = []) (copying : m.copied = some i)
    (all : syncDataLen ≤ i) : m.backupStep md5 = m.settle md5 := by
  simp only [backupStep, rest, copying, if_neg (not_lt.mpr all)]

theorem step_backup (started : m.started = true) : step md5 m .backup = m.backupStep md5 :=
  if_pos started

/-- An access to a file. -/
theorem Filed.access (filed : Filed md5 es held n) {access : Step Byte}
    {pending : List (Step Byte)} (rest : (after md5 es n).pending = access :: pending)
    (next : after md5 es (n + 1) = { after md5 es n with
      disk := diskStep (after md5 es n).disk ((after md5 es n).slot, access)
      pending := pending }) : Filed md5 es held (n + 1) := by
  have written : diskStep (after md5 es n).disk ((after md5 es n).slot, access)
      (after md5 es n).slot = ((after md5 es n).disk (after md5 es n).slot).step access :=
    Function.update_self _ _ _
  have traced (k : Nat) : Traced (Recorded (Copied md5 es (n + 1)) held) (digestFile md5)
      ((after md5 es n).disk k) := (filed.traced k).mono fun _ => recorded_later
  cases copied : (after md5 es n).copied with
  | none =>
      have remains := filed.settling copied (by rw [rest]; exact List.cons_ne_nil _ _)
      rw [rest] at remains
      obtain ⟨own, later⟩ := (remains.mono fun _ => recorded_later).step
      constructor
      · rw [next]
        exact traced_diskStep traced own
      · rw [next]
        intro i some
        exact absurd (some.symm.trans copied) (Option.some_ne_none i)
      · rw [next]
        dsimp only
        rw [written]
        exact fun _ _ => later
  | some i =>
      obtain ⟨begun, few, words, moment, length, write, read, data, image⟩ :=
        filed.copying i copied
      rw [rest] at data image
      have onData := data access List.mem_cons_self
      have writing := write.succ (by rw [next]; exact begun)
        (by rw [next]; exact copied ▸ Option.some_ne_none i)
      constructor
      · rw [next]
        exact traced_diskStep traced ((traced _).onData onData)
      · rw [next]
        intro j some
        obtain rfl := Option.some.inj (some.symm.trans copied)
        refine ⟨begun, few, words, moment, length, writing, read, ?_, ?_⟩
        · exact fun step mem => data step (List.mem_cons_of_mem _ mem)
        · dsimp only
          rw [written]
          exact image
      · rw [next]
        exact fun none => absurd (copied.symm.trans none) (Option.some_ne_none i)

end

section

variable {md5 : List Byte → List Byte} {es : List Event} {held : Set (List Byte)} {n i : Nat}

/-- The next slot is begun. -/
theorem Filed.begin (filed : Filed md5 es held n) (started : (after md5 es n).started = true)
    (next : after md5 es (n + 1) = { after md5 es n with
      slot := (after md5 es n).slot % 10 + 1
      copied := some 0
      pending := [.truncateData] }) : Filed md5 es held (n + 1) := by
  have writing : OneWrite md5 es (fun _ => n + 1) (n + 1) :=
    oneWrite_begin (by rw [next]; exact started) (by rw [next]; exact Option.some_ne_none 0)
  constructor
  · rw [next]
    exact fun k => (filed.traced k).mono fun _ => recorded_later
  · rw [next]
    intro j some
    obtain rfl := Option.some.inj some
    refine ⟨started, Nat.zero_le _, [], _, rfl, writing, fun _ => nofun, ?_, rfl⟩
    intro access mem
    obtain rfl := List.mem_singleton.mp mem
    trivial
  · rw [next]
    exact fun none => absurd none (Option.some_ne_none 0)

/-- The next register is read. -/
theorem Filed.read (filed : Filed md5 es held n) (rest : (after md5 es n).pending = [])
    (copied : (after md5 es n).copied = some i) (more : i < syncDataLen)
    (next : after md5 es (n + 1) = { after md5 es n with
      copied := some (i + 1)
      pending :=
        (wordBytes ((after md5 es n).inc.shmOut (syncDataStart + i))).map .appendData }) :
    Filed md5 es held (n + 1) := by
  obtain ⟨begun, -, words, moment, rfl, write, read, -, image⟩ := filed.copying i copied
  obtain ⟨moment', write', read'⟩ := write.read read
  constructor
  · rw [next]
    exact fun k => (filed.traced k).mono fun _ => recorded_later
  · rw [next]
    intro j reading
    obtain rfl := Option.some.inj reading
    refine ⟨begun, more, _, moment', List.length_append, ?_, read', ?_, ?_⟩
    · exact write'.succ (by rw [next]; exact begun) (by rw [next]; exact Option.some_ne_none _)
    · intro access mem
      obtain ⟨b, -, rfl⟩ := List.mem_map.mp mem
      trivial
    · rw [rest, run_nil] at image
      generalize (after md5 es n).disk (after md5 es n).slot = slot at image ⊢
      obtain ⟨data, digest⟩ := slot
      obtain rfl : data = some (words.flatMap wordBytes) := image
      rw [run_appendData, List.flatMap_append, List.flatMap_singleton]
  · rw [next]
    exact fun none => absurd none (Option.some_ne_none _)

/-- The data file is complete, and its digest is to be written. -/
theorem Filed.settle (filed : Filed md5 es held n) (rest : (after md5 es n).pending = [])
    (copied : (after md5 es n).copied = some i) (all : syncDataLen ≤ i)
    (taken : (after md5 es n).digests .backup ⊆ held)
    (next : after md5 es (n + 1) = (after md5 es n).settle md5) : Filed md5 es held (n + 1) := by
  obtain ⟨begun, few, words, moment, length, write, read, -, image⟩ := filed.copying i copied
  rw [rest, run_nil] at image
  have recorded : Recorded (Copied md5 es (n + 1)) held (words.flatMap wordBytes) := by
    refine ⟨taken ⟨begun, rest, ⟨i, copied, all⟩, image⟩, words, ?_, ?_, rfl⟩
    · exact ⟨n, Nat.le_succ n, moment, write, read⟩
    · exact length.trans (Nat.le_antisymm few all)
  have traced (k : Nat) : Traced (Recorded (Copied md5 es (n + 1)) held) (digestFile md5)
      ((after md5 es n).disk k) := (filed.traced k).mono fun _ => recorded_later
  have settled : (after md5 es n).settle md5 = { after md5 es n with
      copied := none
      pending := writeDigest (digestFile md5 (words.flatMap wordBytes)) } := by
    rw [Machine.settle, image]
    rfl
  constructor
  · rw [next]
    exact traced
  · rw [next]
    exact fun j some => absurd some.symm (Option.some_ne_none j)
  · rw [next, settled]
    exact fun _ _ => (traced _).remains recorded

theorem Filed.step (filed : Filed md5 es held n) (inside : n < es.length)
    (taken : (after md5 es n).digests es[n] ⊆ held) : Filed md5 es held (n + 1) := by
  have next := after_succ md5 inside
  generalize es[n] = e at next taken
  cases e with
  | backup =>
      by_cases started : (after md5 es n).started = true
      · rw [step_backup started] at next
        cases rest : (after md5 es n).pending with
        | cons access pending => exact filed.access rest (next.trans (backupStep_cons rest))
        | nil =>
            cases copied : (after md5 es n).copied with
            | none => exact filed.begin started (next.trans (backupStep_begin rest copied))
            | some i =>
                by_cases more : i < syncDataLen
                · exact filed.read rest copied more (next.trans (backupStep_read rest copied more))
                · have all := not_lt.mp more
                  exact filed.settle rest copied all taken
                    (next.trans (backupStep_settle rest copied all))
      · have waits : Machine.step md5 (after md5 es n) .backup = after md5 es n := if_neg started
        rw [waits] at next
        exact filed.idle (by rw [next]; exact ⟨rfl, rfl, rfl, rfl, rfl⟩)
  | restart powered pt windows now =>
      obtain ⟨disk, copied, pending⟩ := restart_files md5 powered pt windows now (after md5 es n)
      constructor
      · rw [next]
        intro k
        exact disk ▸ (filed.traced k).mono fun _ => recorded_later
      · rw [next]
        exact fun i some => absurd (some.symm.trans copied) (Option.some_ne_none i)
      · rw [next]
        exact fun _ some => absurd pending some
  | main | timer | pt100 | co2 | motor | eggs | alarm | request | input =>
      refine filed.idle ?_
      rw [next]
      exact step_sameFiles md5 _ id

/-- The files at every moment of a run. -/
theorem filed_run (taken : digested md5 new es ⊆ held) (within : n ≤ es.length) :
    Filed md5 es held n := by
  induction n with
  | zero => exact filed_new
  | succ n ih =>
      refine (ih (Nat.le_of_succ_le within)).step within (Set.Subset.trans ?_ taken)
      have split : es = es.take n ++ es[n] :: es.drop (n + 1) := by
        rw [List.getElem_cons_drop, List.take_append_drop]
      exact digests_subset split

end

end Machine

end Jincubator
