import Jincubator.Restores

/-! # Runs of the system

A controller that starts from sound registers is safe, and every step of every thread
keeps it safe. What a start restores are registers of earlier moments: whatever holds of
a single register is restored with it, and so is what the modes are together if none of
them changes while a slot is written.
-/

namespace Jincubator

open Footprint Incubator Journal Run

namespace Machine

section

variable {md5 : List Byte → List Byte} {es : List Event} {steady : Prop} {m : Machine}
  {s t : Incubator} {n : Nat}

/-- The same registers are sound whatever else the memory has. -/
theorem sound_of_registers (sound : Sound steady s) (same : t.shmOut = s.shmOut) :
    Sound steady t :=
  sound.congr fun i _ => congrArg baWord (congrFun same i)

theorem sound_memory (sound : Sound steady m.inc) (powered : Bool) :
    Sound steady (m.memory powered) := by
  rw [memory]
  split
  · exact sound_of_registers sound rfl
  · exact sound_cleared

theorem safe_threadStep (safe : Safe steady m.inc) (e : Event) :
    Safe steady (m.threadStep md5 e).inc := by
  cases e with
  | main clock =>
      show Safe steady ((roundBlocks clock).getD m.block id m.inc)
      by_cases inside : m.block < (roundBlocks clock).length
      · rw [List.getD_eq_getElem _ _ inside]
        exact safe.roundBlock clock _ (List.getElem_mem inside)
      · rw [List.getD_eq_default _ _ (not_lt.mp inside)]
        exact safe
  | timer => exact safe.timerCallbackFunc
  | pt100 i => exact Safe.pollChannel (m := { m.pt100 with inc := m.inc }) safe i
  | co2 reply => exact Safe.co2 (m := { m.co2 with inc := m.inc }) safe reply
  | motor replies => exact Safe.motor (m := { m.motor with inc := m.inc }) safe replies
  | eggs start now => exact Safe.eggs (m := { m.eggs with inc := m.inc }) safe start now
  | alarm => exact Safe.alarm (m := { m.alarm with inc := m.inc }) safe
  | backup =>
      rw [Machine.threadStep, backupStep_inc]
      exact safe
  | request | input | restart => exact safe

/-- The registers are safe while the threads run, and sound for a start at any time. -/
structure Guarded (steady : Prop) (m : Machine) : Prop where
  safe : m.started = true → Safe steady m.inc
  sound : Sound steady m.inc

theorem guarded_new : Guarded steady new :=
  ⟨fun started => absurd started Bool.false_ne_true, sound_cleared⟩

theorem guarded_restart {powered : Bool} (restored : Sound steady (m.restored md5 powered))
    (pt : Fin 6 → Pt100Para) (windows : Fin 6 → Pt100Window) (now : Int) :
    Guarded steady (m.restart md5 powered pt windows now) := by
  rw [Machine.restart]
  split
  · rename_i inc booted
    obtain ⟨-, rfl⟩ := initPara_eq booted
    have safe := Sound.initPara restored pt now
    exact ⟨fun _ => safe, safe.sound⟩
  · refine ⟨fun started => absurd started Bool.false_ne_true, ?_⟩
    dsimp only
    exact restored

theorem Guarded.step (guarded : Guarded steady m) (e : Event)
    (restored : ∀ powered pt windows now, e = .restart powered pt windows now →
      Sound steady (m.restored md5 powered)) : Guarded steady (step md5 m e) := by
  have thread (same : Machine.step md5 m e = if m.started then m.threadStep md5 e else m) :
      Guarded steady (Machine.step md5 m e) := by
    rw [same]
    split
    · rename_i started
      have safe : Safe steady (m.threadStep md5 e).inc :=
        safe_threadStep (guarded.safe started) e
      exact ⟨fun _ => safe, safe.sound⟩
    · exact guarded
  cases e with
  | restart powered pt windows now =>
      exact guarded_restart (restored powered pt windows now rfl) pt windows now
  | request word mem data =>
      exact ⟨fun started => (guarded.safe started).request mem data,
        guarded.sound.request mem data⟩
  | input index free value =>
      exact ⟨fun started => (guarded.safe started).input free value,
        guarded.sound.input free value⟩
  | main | timer | pt100 | co2 | motor | eggs | alarm | backup => exact thread rfl

/-- Registers of sound moments are sound; those of the modes need to be of one moment. -/
theorem sound_overlaid (within : n ≤ es.length)
    (earlier : ∀ k ≤ n, Sound (Steady md5 es { i | i ∈ recvWords }) (after md5 es k).inc)
    (found : Sound (Steady md5 es { i | i ∈ recvWords }) s)
    (overlaid : Overlaid (Copied md5 es n) s t) :
    Sound (Steady md5 es { i | i ∈ recvWords }) t := by
  rcases overlaid with rfl | ⟨words, ⟨last, past, moment, write, read⟩, length, rfl⟩
  · exact found
  · have small : ∀ i ∈ safeRegisters ++ recvWords, i < 5000 := by decide
    have value (i : Nat) (mem : i ∈ safeRegisters ++ recvWords) :
        (fread syncDataStart syncDataLen (words.flatMap wordBytes) s).reg i =
          (after md5 es (moment i)).inc.reg i := by
      rw [Incubator.reg, read_value read length, if_pos (small i mem)]
      rfl
    refine Sound.mixed (fun i mem => ?_) fun steady => ?_
    · exact ⟨_, earlier _ ((write.bounded i).trans past), value i (List.mem_append_left _ mem)⟩
    · refine ⟨_, earlier _ ((write.bounded 0).trans past), fun i mem => ?_⟩
      rw [value i (List.mem_append_right _ mem)]
      exact congrArg baWord (write.together (past.trans within) steady mem
        (write.ordered (Nat.zero_le i)) (write.bounded i))

theorem guarded_run (text : DigestText md5) (free : Set.InjOn md5 (digested md5 new es))
    (within : n ≤ es.length) :
    Guarded (Steady md5 es { i | i ∈ recvWords }) (after md5 es n) := by
  induction n using Nat.strong_induction_on with
  | _ n ih =>
      cases n with
      | zero => exact guarded_new
      | succ n =>
          have now := ih n (Nat.lt_succ_self n) (Nat.le_of_succ_le within)
          have earlier (k : Nat) (past : k ≤ n) :=
            (ih k (Nat.lt_succ_of_le past) (past.trans (Nat.le_of_succ_le within))).sound
          rw [after_succ md5 within]
          refine now.step _ fun powered pt windows clock starts => ?_
          have taken : (after md5 es n).found ⊆ digested md5 new es := by
            have split : es = es.take n ++ es[n] :: es.drop (n + 1) := by
              rw [List.getElem_cons_drop, List.take_append_drop]
            rw [starts] at split
            exact digests_subset split
          have early := Nat.le_of_succ_le within
          refine sound_overlaid early earlier (sound_memory now.sound powered) ?_
          exact restored_copied text free (Set.Subset.refl _) early taken powered

end

/-- In every run of a new controller, with restarts at any time and whatever the order of the
threads, no two damper outputs and no two tests are ever on together, the damper stays within its
length, and no reading is out of its range. The modes exclude each other too if no mode comes on or
goes off while a slot is written. -/
theorem system_safe (md5 : List Byte → List Byte) (text : DigestText md5) (es : List Event)
    (free : Set.InjOn md5 (digested md5 new es))
    (started : (run (step md5) new es).started = true) :
    Safe (Steady md5 es { i | i ∈ recvWords }) (run (step md5) new es).inc := by
  rw [← after_length] at started ⊢
  exact (guarded_run text free le_rfl).safe started

/-! ## A run with a torn slot -/

section

variable {md5 : List Byte → List Byte} {registers : Set Nat} {m : Machine} {es : List Event}

/-- The registers rest in a run if no event writes them. -/
theorem rests_of_writes (unwritten : ∀ e ∈ es, ∀ i ∈ registers, i ∉ writes e) :
    Along (step md5) (Rests registers) m es := by
  induction es generalizing m with
  | nil => trivial
  | cons e es ih =>
      refine ⟨fun _ _ i mem => ?_, ih fun f later => unwritten f (List.mem_cons_of_mem e later)⟩
      exact step_keeps m e i (unwritten e List.mem_cons_self i mem)

/-- They rest while no slot is written. -/
theorem rests_of_idle (idle : m.copied = none) (others : ∀ e ∈ es, ¬e.Files) :
    Along (step md5) (Rests registers) m es := by
  induction es generalizing m with
  | nil => trivial
  | cons e es ih =>
      have still := step_sameFiles md5 m (others e List.mem_cons_self)
      refine ⟨fun copying => absurd idle copying, ih (still.copied.trans idle) ?_⟩
      exact fun f later => others f (List.mem_cons_of_mem e later)

/-- A start writes no slot. -/
theorem rests_of_restart {powered : Bool} {pt : Fin 6 → Pt100Para}
    {windows : Fin 6 → Pt100Window} {now : Int} (others : ∀ e ∈ es, ¬e.Files) :
    Along (step md5) (Rests registers) m (.restart powered pt windows now :: es) := by
  obtain ⟨-, idle, -⟩ := restart_files md5 powered pt windows now m
  exact ⟨fun _ copying => absurd idle copying, rests_of_idle idle others⟩

end

/-- Another start, after the slot. -/
def secondStart : List Event :=
  tornRun 2500 2500 ++ .restart false noPara noWindows 60 :: firstSteps

theorem secondStart_steady : Steady tornDigest secondStart { i | i ∈ recvWords } := by
  have untimed : ∀ i ∈ recvWords, i ∉ timerWrites := by decide
  have slot : ∀ e ∈ List.replicate (2 + 3 * 2500) .backup ++ disturbance ++
      List.replicate (3 * 2500 + 35) .backup, ∀ i ∈ { i | i ∈ recvWords }, i ∉ writes e := by
    intro e listed i mem
    simp only [disturbance, List.mem_append, List.mem_replicate, List.mem_cons, List.not_mem_nil,
      or_false] at listed
    rcases listed with (⟨-, rfl⟩ | rfl | rfl | rfl) | ⟨-, rfl⟩
    · exact id
    · exact untimed i mem
    · rintro rfl
      exact absurd mem (by decide)
    · rintro rfl
      exact absurd mem (by decide)
    · exact id
  rw [Steady, secondStart, tornRun, along_append, along_append]
  exact ⟨⟨rests_of_restart firstSteps_files, rests_of_writes slot⟩,
    rests_of_restart firstSteps_files⟩

theorem secondStart_started : (run (step tornDigest) new secondStart).started = true := by
  have opens : ((run (step tornDigest) new (tornRun 2500 2500)).restored tornDigest false).getVal
      Reg.rSyncHatchMode = 0 := by
    rw [getVal_eq, Incubator.reg, restored_tornRun tornDigest_text rfl, if_pos (by decide)]
    have boot : (poweredOn tornDigest).inc.reg Reg.rSyncHatchMode =
        bootValue noPara cleared Reg.rSyncHatchMode :=
      poweredOn_reg tornDigest (by decide +kernel) (by decide) (by decide) (by decide)
    rw [show baWord _ = _ from boot]
    decide +kernel
  rw [secondStart, run_append, run_cons, (run_sameFiles tornDigest _ firstSteps_files).1.started]
  show ((run (step tornDigest) new (tornRun 2500 2500)).restart tornDigest false noPara
    noWindows 60).started = true
  rw [restart_of_open tornDigest opens]
  rfl

/-- The second start has restored registers of two moments. -/
theorem system_safe_torn : Safe True (run (step tornDigest) new secondStart).inc := by
  have one := tornRun_free tornDigest_text (i := 2500) (n := 2500) rfl
  have taken : digested tornDigest new secondStart =
      digested tornDigest new (tornRun 2500 2500) ∪
        (run (step tornDigest) new (tornRun 2500 2500)).found := by
    rw [secondStart, digested_append, digested, (run_sameFiles tornDigest _ firstSteps_files).2,
      Set.union_empty]
    rfl
  rw [← taken] at one
  exact (system_safe tornDigest tornDigest_text secondStart one secondStart_started).mono
    fun _ => secondStart_steady

end Machine

end Jincubator
