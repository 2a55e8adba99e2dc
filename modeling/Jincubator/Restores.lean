import Jincubator.BackupSlot

/-! # Restores

What a start takes from a slot are registers of several moments, all within one write of
that slot. What rests while a slot is written is restored as it was at one moment.
-/

namespace Jincubator

open Footprint Incubator Journal Run

namespace Machine

/-- The event leaves the registers alone if a slot is being written. -/
def Rests (registers : Set Nat) (m : Machine) (_ : Event) (t : Machine) : Prop :=
  m.copied ≠ none → t.copied ≠ none → ∀ i ∈ registers, t.inc.shmOut i = m.inc.shmOut i

/-- The registers rest while a slot is written. -/
def Steady (md5 : List Byte → List Byte) (es : List Event) (registers : Set Nat) : Prop :=
  Along (step md5) (Rests registers) new es

section

variable {md5 : List Byte → List Byte} {es : List Event} {held : Set (List Byte)}
  {registers : Set Nat} {moment : Nat → Nat} {words : List Word} {n last i : Nat}

theorem Steady.rest (steady : Steady md5 es registers) (inside : n < es.length)
    (copying : (after md5 es n).copied ≠ none) (still : (after md5 es (n + 1)).copied ≠ none)
    (mem : i ∈ registers) :
    (after md5 es (n + 1)).inc.shmOut i = (after md5 es n).inc.shmOut i := by
  have each := (along_iff_split _ _ _ _).mp steady (es.take n) es[n] (es.drop (n + 1))
    (by rw [List.getElem_cons_drop, List.take_append_drop])
  rw [after_succ md5 inside] at still ⊢
  exact each copying still i mem

/-- What rests is the same in the whole write. -/
theorem OneWrite.together (write : OneWrite md5 es moment last) (within : last ≤ es.length)
    (steady : Steady md5 es registers) (mem : i ∈ registers) (begun : moment 0 ≤ n)
    (ended : n ≤ last) :
    (after md5 es n).inc.shmOut i = (after md5 es (moment 0)).inc.shmOut i := by
  induction n, begun using Nat.le_induction with
  | base => rfl
  | succ n begun ih =>
      have early := Nat.le_of_succ_le ended
      rw [← ih early]
      exact steady.rest (lt_of_lt_of_le ended within) (write.writing n begun early).2
        (write.writing (n + 1) (Nat.le_succ_of_le begun) ended).2 mem

/-- What a start finds at some moment has been read in one earlier write. -/
theorem restored_copied (text : DigestText md5) (free : Set.InjOn md5 held)
    (taken : digested md5 new es ⊆ held) (within : n ≤ es.length)
    (found : (after md5 es n).found ⊆ held) (powered : Bool) :
    Overlaid (Copied md5 es n) ((after md5 es n).memory powered)
      ((after md5 es n).restored md5 powered) :=
  initParaRestore_traced text free (filed_run taken within).traced
    (fun k _ on => found ⟨k, on⟩) _

theorem read_value (read : ReadAt md5 es moment words) (length : words.length = syncDataLen)
    (s : Incubator) (i : Nat) :
    (fread syncDataStart syncDataLen (words.flatMap wordBytes) s).shmOut i =
      if i < 5000 then (after md5 es (moment i)).inc.shmOut i else s.shmOut i := by
  rw [fread_words length]
  split
  · rename_i small
    have inside : i < words.length := length.symm ▸ small
    rw [List.getD_eq_getElem _ _ inside, read i inside, syncDataStart, Nat.zero_add]
  · rename_i large
    exact List.getD_eq_default _ _ (length.symm ▸ not_lt.mp large)

theorem after_length (md5 : List Byte → List Byte) (es : List Event) :
    after md5 es es.length = run (step md5) new es := by
  rw [after, List.take_length]

end

/-- Whenever a controller restarts, in whatever state its files are, the restore leaves the memory
as it is or gives each of the first five thousand registers the value that it had at a moment of
the run, in the order of the registers and all within one write of one slot. -/
theorem restored_in_order (md5 : List Byte → List Byte) (text : DigestText md5) (es : List Event)
    (free : Set.InjOn md5 (digested md5 new es ∪ (run (step md5) new es).found))
    (powered : Bool) :
    (run (step md5) new es).restored md5 powered = (run (step md5) new es).memory powered ∨
      ∃ last ≤ es.length, ∃ moment, OneWrite md5 es moment last ∧
        ∀ i, ((run (step md5) new es).restored md5 powered).shmOut i =
          if i < 5000 then (after md5 es (moment i)).inc.shmOut i
          else ((run (step md5) new es).memory powered).shmOut i := by
  rw [← after_length] at free ⊢
  have overlaid := restored_copied text free Set.subset_union_left le_rfl Set.subset_union_right
    powered
  rcases overlaid with same | ⟨words, ⟨last, past, moment, write, read⟩, length, image⟩
  · exact Or.inl same
  · refine Or.inr ⟨last, past, moment, write, fun i => ?_⟩
    rw [image]
    exact read_value read length _ i

/-- Between the halves of the slot the register 4500 is set, and the restore finds it. -/
theorem restored_in_order_torn : ∃ last ≤ (tornRun 2500 2500).length, ∃ moment,
    OneWrite tornDigest (tornRun 2500 2500) moment last ∧
      ∀ i, ((run (step tornDigest) new (tornRun 2500 2500)).restored tornDigest false).shmOut i =
        if i < 5000 then (after tornDigest (tornRun 2500 2500) (moment i)).inc.shmOut i
        else ((run (step tornDigest) new (tornRun 2500 2500)).memory false).shmOut i := by
  have halves : 2500 + 2500 = syncDataLen := rfl
  have free := tornRun_free tornDigest_text halves
  refine (restored_in_order tornDigest tornDigest_text _ free false).resolve_left ?_
  intro same
  have value := restored_tornRun tornDigest_text halves 4500
  rw [same, disturbed, run_append] at value
  exact absurd value (by decide)

/-- No restore is torn if the registers rest while a slot is written. -/
theorem no_torn_restore (md5 : List Byte → List Byte) (text : DigestText md5) (es : List Event)
    (free : Set.InjOn md5 (digested md5 new es ∪ (run (step md5) new es).found))
    (steady : Steady md5 es { i | i < 5000 }) (powered : Bool) :
    (run (step md5) new es).restored md5 powered = (run (step md5) new es).memory powered ∨
      ∃ n ≤ es.length, (after md5 es n).started = true ∧
        ∀ i, ((run (step md5) new es).restored md5 powered).shmOut i =
          if i < 5000 then (after md5 es n).inc.shmOut i
          else ((run (step md5) new es).memory powered).shmOut i := by
  rcases restored_in_order md5 text es free powered with same | ⟨last, past, moment, write, value⟩
  · exact Or.inl same
  · refine Or.inr ⟨moment 0, (write.bounded 0).trans past,
      (write.writing _ le_rfl (write.bounded 0)).1, fun i => ?_⟩
    rw [value]
    split
    · rename_i small
      exact write.together past steady small (write.ordered (Nat.zero_le i)) (write.bounded i)
    · rfl

end Machine

end Jincubator
