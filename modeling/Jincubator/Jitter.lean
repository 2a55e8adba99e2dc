import Jincubator.Define
import Jincubator.Library.Deadband
import Jincubator.Library.Run
import Jincubator.Registers
import Mathlib.Data.List.FinRange

/-! # The jitter filter of the PT100 channels

While its window is not full a channel takes every sample. Then it keeps its value as
long as a sample is within the tolerance of it, and follows other samples up to the
tolerance. The sign of a jump is looked for in its absolute value, so a falling jump is
followed beyond the sample.
-/

namespace Jincubator

open Incubator Run Deadband

/-! ## Channels -/

/-- The length of the sliding window. -/
def filterLen : Int := 15

/-- The samples in the window of a channel, and the value accepted last. -/
structure Pt100Channel where
  runAiTpLen : Int
  runAiTpOid : Int

def followSample (pic old new : Int) : Int :=
  let vAbs := |new - old|
  if vAbs > pic then
    if vAbs < 0 then ushort (new + pic) else ushort (new - pic)
  else old

/-- The value passed on to the conversion is the one accepted. -/
def acceptSample (pic new : Int) (c : Pt100Channel) : Pt100Channel where
  runAiTpLen := if c.runAiTpLen < filterLen then c.runAiTpLen + 1 else c.runAiTpLen
  runAiTpOid := if c.runAiTpLen = filterLen then followSample pic c.runAiTpOid new else new

/-- The tolerance that a channel finds in the registers. -/
def ptPic (i : Fin 6) (read : Fin 6 → Incubator) : Int := (read i).getUval Reg.pPtPic

/-- The sample that a channel finds in the registers. -/
def ptAi (i : Fin 6) (read : Fin 6 → Incubator) : Int := (read i).getUval (Reg.ptAi1 + i)

/-- The part of a round of `data_collection_pt100_func` before the conversions, with the registers
as each channel finds them. -/
def filterChannels (read : Fin 6 → Incubator) (f : Fin 6 → Pt100Channel) : Fin 6 → Pt100Channel :=
  (List.finRange 6).foldl
    (fun f i => Function.update f i (acceptSample (ptPic i read) (ptAi i read) (f i))) f

theorem foldl_update_self {α β : Type*} [DecidableEq α] (g : α → β → β) {l : List α}
    (nodup : l.Nodup) (f : α → β) (i : α) :
    l.foldl (fun f i => Function.update f i (g i (f i))) f i =
      if i ∈ l then g i (f i) else f i := by
  induction l generalizing f with
  | nil => rfl
  | cons j l ih =>
      obtain ⟨once, nodup⟩ := List.nodup_cons.mp nodup
      rw [List.foldl_cons, ih nodup]
      by_cases same : i = j
      · subst same
        rw [if_neg once, if_pos List.mem_cons_self, Function.update_self]
      · simp only [Function.update_of_ne same, List.mem_cons, same, false_or]

theorem filterChannels_apply (read : Fin 6 → Incubator) (f : Fin 6 → Pt100Channel) (i : Fin 6) :
    filterChannels read f i = acceptSample (ptPic i read) (ptAi i read) (f i) := by
  rw [filterChannels, foldl_update_self (fun i => acceptSample (ptPic i read) (ptAi i read))
    (List.nodup_finRange 6), if_pos (List.mem_finRange i)]

/-! ## One sample -/

section

variable {pic old new : Int}

/-- A rising jump is followed as it should be, a falling one beyond the sample. -/
theorem followSample_eq (nonneg : 0 ≤ pic) (words : 0 ≤ old ∧ new < 65536) :
    followSample pic old new =
      if |new - old| ≤ pic then old else if old < new then new - pic else ushort (new - pic) := by
  rw [followSample]
  simp only [not_lt.mpr (abs_nonneg (new - old)), if_false]
  by_cases near : |new - old| ≤ pic
  · rw [if_pos near, if_neg (not_lt.mpr near)]
  · rw [if_neg near, if_pos (not_le.mp near)]
    split
    · rename_i rising
      rw [Int.abs_eq_natAbs] at near
      exact ushort_of_range (by omega)
    · rfl

/-- A falling jump is followed as it should be only with a tolerance that is its own negative. -/
theorem follows_followSample (range : 0 ≤ pic ∧ pic < 65536) (oldWord : 0 ≤ old ∧ old < 65536)
    (newWord : 0 ≤ new ∧ new < 65536) : Follows pic old new (followSample pic old new) ↔
      |new - old| ≤ pic ∨ old < new ∨ pic = 0 ∨ pic = 32768 := by
  rw [follows_iff range.1, followSample_eq range.1 ⟨oldWord.1, newWord.2⟩, follow]
  by_cases near : |new - old| ≤ pic
  · rw [if_pos near, if_pos near]
    exact iff_of_true rfl (Or.inl near)
  · rw [if_neg near, if_neg near, or_iff_right near]
    rw [Int.abs_eq_natAbs] at near
    by_cases rising : old < new
    · rw [if_pos rising, if_pos rising]
      exact iff_of_true rfl (Or.inl rising)
    · rw [if_neg rising, if_neg rising, or_iff_right rising, ushort_eq]
      omega

end

/-! ## Sequences of samples -/

/-- The channels beside the samples that they have seen. -/
structure Sampled where
  channels : Fin 6 → Pt100Channel
  samples : Fin 6 → List Int

def sampleRound (m : Sampled) (read : Fin 6 → Incubator) : Sampled where
  channels := filterChannels read m.channels
  samples i := m.samples i ++ [ptAi i read]

/-- Nothing is sampled yet. -/
def unsampled (start : Fin 6 → Int) : Sampled where
  channels i := ⟨0, start i⟩
  samples _ := []

/-- A sample that falls by more than the tolerance, on a full window. -/
def Falls (i : Fin 6) (m : Sampled) (read : Fin 6 → Incubator) : Prop :=
  (m.channels i).runAiTpLen = filterLen ∧ (m.channels i).runAiTpOid - ptAi i read > ptPic i read

/-- The accepted value is between two samples, and its difference was not cut off at zero. -/
def StaysAmong (i : Fin 6) (m : Sampled) (read : Fin 6 → Incubator) (t : Sampled) : Prop :=
  Among (t.samples i) (t.channels i).runAiTpOid ∧
    (Falls i m read → 0 ≤ ptAi i read - ptPic i read)

/-- A falling sample is above another one by the tolerance at least. -/
def FallsAmong (i : Fin 6) (m : Sampled) (read : Fin 6 → Incubator) : Prop :=
  Falls i m read → ∃ a ∈ m.samples i ++ [ptAi i read], a ≤ ptAi i read - ptPic i read

/-- The samples are words, and with a full window the accepted value is between two of them. -/
structure SampledWell (i : Fin 6) (m : Sampled) : Prop where
  words : ∀ a ∈ m.samples i, 0 ≤ a
  value : (m.channels i).runAiTpLen = filterLen → Among (m.samples i) (m.channels i).runAiTpOid

section

variable {i : Fin 6} {m : Sampled} {read : Fin 6 → Incubator}

theorem ptAi_range (i : Fin 6) (read : Fin 6 → Incubator) : 0 ≤ ptAi i read ∧ ptAi i read < 65536 :=
  getUval_range (read i) _

theorem ptPic_range (i : Fin 6) (read : Fin 6 → Incubator) :
    0 ≤ ptPic i read ∧ ptPic i read < 65536 :=
  getUval_range (read i) _

/-- One round of a channel. -/
theorem sampleRound_among (well : SampledWell i m) :
    StaysAmong i m read (sampleRound m read) ↔ FallsAmong i m read := by
  have new := ptAi_range i read
  have pic := ptPic_range i read
  have here : ptAi i read ∈ m.samples i ++ [ptAi i read] := by simp
  have accepted : ((sampleRound m read).channels i).runAiTpOid =
      if (m.channels i).runAiTpLen = filterLen then
        followSample (ptPic i read) (m.channels i).runAiTpOid (ptAi i read)
      else ptAi i read := by
    show (filterChannels read m.channels i).runAiTpOid = _
    rw [filterChannels_apply]
    rfl
  have samples : (sampleRound m read).samples i = m.samples i ++ [ptAi i read] := rfl
  rw [StaysAmong, accepted, samples, FallsAmong, Falls]
  by_cases full : (m.channels i).runAiTpLen = filterLen
  · obtain ⟨⟨a, mem, low⟩, -⟩ := well.value full
    have seen := List.mem_append_left [ptAi i read] mem
    have word := well.words a mem
    rw [if_pos full, and_iff_right full, followSample_eq pic.1 ⟨by omega, new.2⟩,
      Int.abs_eq_natAbs]
    by_cases falls : (m.channels i).runAiTpOid - ptAi i read > ptPic i read
    · rw [if_neg (by omega), if_neg (by omega)]
      constructor
      · intro stays _
        obtain ⟨among, uncut⟩ := stays
        rw [ushort_of_range ⟨uncut falls, by omega⟩] at among
        exact among.1
      · intro lower
        obtain ⟨b, mem, below⟩ := lower falls
        have positive : 0 ≤ b := by
          rcases List.mem_append.mp mem with earlier | now
          · exact well.words b earlier
          · rw [List.mem_singleton.mp now]
            exact new.1
        rw [ushort_of_range (by omega)]
        exact ⟨⟨⟨b, mem, below⟩, _, here, by omega⟩, fun _ => by omega⟩
    · refine iff_of_true ⟨?_, fun fall => absurd fall falls⟩ fun fall => absurd fall falls
      split
      · exact (well.value full).append _
      · rw [if_pos (by omega)]
        exact ⟨⟨a, seen, by omega⟩, _, here, by omega⟩
  · rw [if_neg full]
    exact iff_of_true ⟨among_self here, fun falls => absurd falls.1 full⟩
      fun falls => absurd falls.1 full

theorem SampledWell.round (well : SampledWell i m)
    (stays : StaysAmong i m read (sampleRound m read)) : SampledWell i (sampleRound m read) where
  words a mem := by
    rcases List.mem_append.mp mem with earlier | now
    · exact well.words a earlier
    · rw [List.mem_singleton.mp now]
      exact (ptAi_range i read).1
  value _ := stays.1

end

/-- The two halves: the value that a channel with a full window passes on follows every sample
unless the sample falls by more than the tolerance; and in every sequence of rounds the accepted
value stays between two samples, without a cut at zero, exactly if each falling sample is above
another one by the tolerance. -/
theorem jitter_iff (i : Fin 6) (start : Fin 6 → Int) (rounds : List (Fin 6 → Incubator)) :
    (∀ pic old new : Word, Follows pic.toNat old.toNat new.toNat
        (acceptSample pic.toNat new.toNat ⟨filterLen, old.toNat⟩).runAiTpOid ↔
      |(new.toNat : Int) - old.toNat| ≤ pic.toNat ∨ (old.toNat : Int) < new.toNat ∨
        (pic.toNat : Int) = 0 ∨ (pic.toNat : Int) = 32768) ∧
    (Along sampleRound (StaysAmong i) (unsampled start) rounds ↔
      Along sampleRound (fun m read _ => FallsAmong i m read) (unsampled start) rounds) := by
  have word (w : Word) : 0 ≤ (w.toNat : Int) ∧ (w.toNat : Int) < 65536 := by
    have bound := w.isLt
    omega
  refine ⟨fun pic old new => follows_followSample (word pic) (word old) (word new), ?_⟩
  have empty : SampledWell i (unsampled start) := by
    constructor
    · intro a mem
      exact absurd mem List.not_mem_nil
    · intro full
      have short : (0 : Int) = 15 := full
      omega
  refine along_iff (A := fun _ _ => True) (SampledWell i) ?_ ?_ empty (along_true _ _ _)
  · exact fun _ _ _ well => sampleRound_among well
  · exact fun _ _ _ well stays => well.round stays

/-- Among samples of 100 with a tolerance of five a sample of 90 is taken for 85. -/
theorem jitter_overshoots : (acceptSample 5 90 ⟨filterLen, 100⟩).runAiTpOid = 85 ∧
    ¬Follows 5 100 90 (acceptSample 5 90 ⟨filterLen, 100⟩).runAiTpOid := by
  have passed : (acceptSample 5 90 ⟨filterLen, 100⟩).runAiTpOid = 85 := by decide
  refine ⟨passed, fun follows => ?_⟩
  rw [passed] at follows
  exact absurd (follows.between (by decide)) (by decide)

end Jincubator
