import Jincubator.Alarm
import Jincubator.Jitter
import Jincubator.Library.Window
import Jincubator.ReturnWater

/-! # The PT100 thread

Each of the six channels keeps the conversions of its last fifteen accepted samples
in an array that is shifted by one place for every new one. Once the array is full,
every poll publishes its average to a hundredth of a degree, before and after the
correction of the operator. The calculations are in floating point with the
roundings of the operations. A calibration whose two channel values are equal divides
by zero: the conversion is an infinity or no number then, and so is the average.
-/

namespace Jincubator

open Incubator Rounding Run Window

/-! ## Conversions -/

/-- An operation on `float` operands. -/
def float32 (q : ℚ) : ℚ := roundTo 24 q

/-- An operation on `double` operands. -/
def float64 (q : ℚ) : ℚ := roundTo 53 q

/-- The line through the two points of the calibration, and the offset of the channel. -/
def runAiTpVal (i : Fin 6) (runAiCTp : Int) (s : Incubator) : Value :=
  let para := Reg.pPt1Ao1 + i * 5
  let runAoRLow := s.getFval para
  let runAoRHigh := s.getFval (para + 1)
  let runAoCLow := s.getUval (para + 2)
  let runAoCHigh := s.getUval (para + 3)
  let runAoOffset := s.getUval (para + 4)
  let product := float32 (((runAiCTp - runAoCLow : Int) : ℚ) * float32 (runAoRHigh - runAoRLow))
  let slope := (Value.quotient product ((runAoCHigh - runAoCLow : Int) : ℚ)).map float32
  slope.map fun slope => float32 (float32 (slope + runAoRLow) + runAoOffset)

/-- The average of a full window. -/
def runAiTpAver (data : List Value) : Value :=
  let sum := data.foldl (fun (sum v : Value) => (sum.add v).map float64) (.finite 0)
  sum.map fun sum => float64 (sum / filterLen)

/-- The hundredths that `sprintf` prints with two decimals. -/
def dTpData (aver : ℚ) : Int := nearestEven (aver * 100)

/-- The hundredths before the correction. `sprintf` and `atof` keep what is no number, and the
conversion to `int` is that of the target: it saturates. -/
def runAiITpInit (aver : Value) : Int :=
  (aver.map fun aver => float32 (single (dTpData aver / 100) * 100)).toInt32

/-- The hundredths after the correction, given in degrees. -/
def runAiITp (aver : Value) (correction : ℚ) : Int :=
  (aver.map fun aver => float32 (single (float64 (dTpData aver / 100) + correction) * 100)).toInt32

/-- Values that are no `short` are replaced by zero. -/
def runAoCShm (runAiITp : Int) : Int :=
  if runAiITp > 32767 ∨ runAiITp < -32767 then 0 else ushort runAiITp

/-- Two registers lie between the first two channels and the others. -/
def channelIndex (i : Nat) : Nat := if i > 1 then i + 2 else i

/-- A full window sets the two registers of its channel, and the alarm of its sensor. -/
def publishWindow (i : Fin 6) (data : List Value) (s : Incubator) : Incubator :=
  let aver := runAiTpAver data
  let s := setUval (Reg.rInitAiTpMain + channelIndex i) (runAiITpInit aver) s
  let correction := s.getFval (Reg.pEditTpMain + channelIndex i)
  publishReading i (runAoCShm (runAiITp aver correction)) s

/-! ## The thread -/

/-- The filter of a channel beside its row of `run_ai_tp_data`. -/
structure Pt100Window where
  channel : Pt100Channel
  runAiTpData : List Value

/-- The row grows up to its full length, and is shifted afterwards. -/
def storeValue (val : Value) (runAiTpLen : Int) (data : List Value) : List Value :=
  if runAiTpLen < filterLen then data ++ [val] else data.drop 1 ++ [val]

structure Pt100Thread where
  inc : Incubator
  windows : Fin 6 → Pt100Window

namespace Pt100Thread

def pollChannel (i : Fin 6) (m : Pt100Thread) : Pt100Thread :=
  let window := m.windows i
  let channel := acceptSample (m.inc.getUval Reg.pPtPic) (m.inc.getUval (Reg.ptAi1 + i))
    window.channel
  let data := storeValue (runAiTpVal i channel.runAiTpOid m.inc) window.channel.runAiTpLen
    window.runAiTpData
  { inc := if channel.runAiTpLen = filterLen then publishWindow i data m.inc else m.inc
    windows := Function.update m.windows i ⟨channel, data⟩ }

/-- The registers change before a channel is polled as the other threads have it. -/
def pollAfter (others : Incubator → Incubator) (i : Fin 6) (m : Pt100Thread) : Pt100Thread :=
  pollChannel i { m with inc := others m.inc }

/-- One round of `data_collection_pt100_func`. -/
def dataCollectionPt100Func (m : Pt100Thread) (others : Fin 6 → Incubator → Incubator) :
    Pt100Thread :=
  (List.finRange 6).foldl (fun m i => pollAfter (others i) i m) m

end Pt100Thread

/-! ## The thread without arrays -/

/-- All conversions of each channel, beside the sample accepted last. -/
structure Pt100History where
  inc : Incubator
  oid : Fin 6 → Int
  values : Fin 6 → List Value

namespace Pt100History

/-- The filter is in force from the sixteenth sample on, and the last fifteen conversions are
published from the fifteenth on. -/
def pollChannel (i : Fin 6) (m : Pt100History) : Pt100History :=
  let sample := m.inc.getUval (Reg.ptAi1 + i)
  let accepted :=
    if (m.values i).length < 15 then sample
    else followSample (m.inc.getUval Reg.pPtPic) (m.oid i) sample
  let values := m.values i ++ [runAiTpVal i accepted m.inc]
  { inc := if 15 ≤ values.length then publishWindow i (values.rtake 15) m.inc else m.inc
    oid := Function.update m.oid i accepted
    values := Function.update m.values i values }

def pollAfter (others : Incubator → Incubator) (i : Fin 6) (m : Pt100History) : Pt100History :=
  pollChannel i { m with inc := others m.inc }

def round (m : Pt100History) (others : Fin 6 → Incubator → Incubator) : Pt100History :=
  (List.finRange 6).foldl (fun m i => pollAfter (others i) i m) m

/-- What the thread keeps of a history. -/
def thread (m : Pt100History) : Pt100Thread where
  inc := m.inc
  windows i := ⟨⟨(min 15 (m.values i).length : Nat), m.oid i⟩, (m.values i).rtake 15⟩

end Pt100History

/-- Before any sample; the values accepted last are what the thread finds. -/
def Pt100Thread.history (m : Pt100Thread) : Pt100History where
  inc := m.inc
  oid i := (m.windows i).channel.runAiTpOid
  values _ := []

/-- The lengths are zero. The source does not initialise them, nor the values accepted last. -/
def Pt100Thread.Empty (m : Pt100Thread) : Prop :=
  ∀ i, (m.windows i).channel.runAiTpLen = 0 ∧ (m.windows i).runAiTpData = []

/-! ## The last fifteen conversions -/

theorem storeValue_rtake (val : Value) (xs : List Value) :
    storeValue val (min 15 xs.length : Nat) (xs.rtake 15) = (xs ++ [val]).rtake 15 := by
  have room : ((min 15 xs.length : Nat) : Int) < filterLen ↔ min 15 xs.length < 15 := Int.ofNat_lt
  rw [← slide_rtake (by decide), storeValue, slide, length_rtake]
  simp only [room]

theorem acceptSample_history (pic new oid : Int) (xs : List Value) :
    acceptSample pic new ⟨(min 15 xs.length : Nat), oid⟩ =
      ⟨(min 15 (xs.length + 1) : Nat),
        if xs.length < 15 then new else followSample pic oid new⟩ := by
  have full : filterLen = 15 := rfl
  rw [acceptSample, full]
  by_cases room : xs.length < 15
  · have growing : ((min 15 xs.length : Nat) : Int) < 15 := by omega
    have next : ((min 15 xs.length : Nat) : Int) + 1 = (min 15 (xs.length + 1) : Nat) := by omega
    rw [if_pos growing, if_neg growing.ne, if_pos room]
    exact congrArg (Pt100Channel.mk · new) next
  · have filled : ((min 15 xs.length : Nat) : Int) = 15 := by omega
    have same : ((min 15 xs.length : Nat) : Int) = (min 15 (xs.length + 1) : Nat) := by omega
    rw [if_neg (not_lt.mpr filled.ge), if_pos filled, if_neg room]
    exact congrArg (Pt100Channel.mk · _) same

namespace Pt100History

theorem thread_pollChannel (i : Fin 6) (m : Pt100History) :
    (m.pollChannel i).thread = m.thread.pollChannel i := by
  have full : ((min 15 ((m.values i).length + 1) : Nat) : Int) = filterLen ↔
      15 ≤ (m.values i).length + 1 := by
    have length : filterLen = 15 := rfl
    rw [length]
    omega
  have accepted := acceptSample_history (m.inc.getUval Reg.pPtPic) (m.inc.getUval (Reg.ptAi1 + i))
    (m.oid i) (m.values i)
  simp only [pollChannel, Pt100Thread.pollChannel, thread, accepted, storeValue_rtake, full,
    List.length_append, List.length_singleton]
  congr 1
  funext j
  by_cases same : j = i
  · subst same
    simp only [Function.update_self, List.length_append, List.length_singleton]
  · simp only [Function.update_of_ne same]

theorem thread_round (m : Pt100History) (others : Fin 6 → Incubator → Incubator) :
    (m.round others).thread = m.thread.dataCollectionPt100Func others := by
  rw [round, Pt100Thread.dataCollectionPt100Func]
  generalize List.finRange 6 = channels
  induction channels generalizing m with
  | nil => rfl
  | cons i channels ih =>
      rw [List.foldl_cons, List.foldl_cons, ih]
      congr 1
      exact thread_pollChannel i { m with inc := others i m.inc }

end Pt100History

theorem Pt100Thread.Empty.thread {m : Pt100Thread} (empty : m.Empty) : m.history.thread = m := by
  have windows : m.history.thread.windows = m.windows := by
    funext i
    obtain ⟨length, data⟩ := empty i
    show Pt100Window.mk ⟨0, (m.windows i).channel.runAiTpOid⟩ [] = m.windows i
    rw [← length, ← data]
  exact congrArg (Pt100Thread.mk m.inc) windows

/-- In every run, whatever the other threads do between its polls, the thread publishes the
average of the last fifteen conversions of each channel. -/
theorem pt100_lastFifteen (m : Pt100Thread) (empty : m.Empty)
    (rounds : List (Fin 6 → Incubator → Incubator)) :
    run Pt100Thread.dataCollectionPt100Func m rounds =
      (run Pt100History.round m.history rounds).thread := by
  have from_ (m : Pt100History) : run Pt100Thread.dataCollectionPt100Func m.thread rounds =
      (run Pt100History.round m rounds).thread := by
    induction rounds generalizing m with
    | nil => rfl
    | cons others rounds ih =>
        rw [run_cons, run_cons, ← Pt100History.thread_round]
        exact ih _
  rw [← from_ m.history, empty.thread]

/-- Windows without samples. -/
def noWindows : Fin 6 → Pt100Window := fun _ => ⟨⟨0, 0⟩, []⟩

/-- Sixteen rounds of a thread whose windows are empty. -/
theorem pt100_lastFifteen_sixteen :
    run Pt100Thread.dataCollectionPt100Func ⟨cleared, noWindows⟩
        (List.replicate 16 fun i => setVal (Reg.ptAi1 + i) 1500) =
      (run Pt100History.round (Pt100Thread.history ⟨cleared, noWindows⟩)
        (List.replicate 16 fun i => setVal (Reg.ptAi1 + i) 1500)).thread :=
  pt100_lastFifteen ⟨cleared, noWindows⟩ (fun _ => ⟨rfl, rfl⟩) _

end Jincubator
