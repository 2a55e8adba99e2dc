import Jincubator.CrashRecovery
import Jincubator.Library.Interleaving
import Jincubator.Safety

/-! # The controller as a system

The threads of the controller share the registers, and between any two steps of one of
them the others, the operator and the inputs may act in any order. The main loop goes on
after every block of its round, the backup after every register that it reads and every
byte that it writes, and the other threads after every round. A restart, of the program or
after a power cut, comes between two steps, finds the files as they are and begins all
threads anew. A division by zero ends the program on the target; here its quotient is zero
and the loop goes on.
-/

namespace Jincubator

open Footprint Incubator Interleaving Journal Run

/-- The threads keep what is their own; the registers are those of `inc`. Of the backup, `copied` is
the number of registers read into the slot that is being written, and `pending` the accesses to its
files that are still due. -/
structure Machine where
  inc : Incubator
  started : Bool
  block : Nat
  pt100 : Pt100Thread
  co2 : Co2Sensor
  motor : MotorThread
  eggs : EggThread
  alarm : AlarmThread
  disk : Disk
  slot : Nat
  copied : Option Nat
  pending : List (Step Byte)

/-- An input changes any register but those that the threads keep within their bounds. -/
inductive Event where
  | main (clock : Clock)
  | timer
  | pt100 (i : Fin 6)
  | co2 (reply : Reply)
  | motor (replies : MotorReplies)
  | eggs (start now : Int)
  | alarm
  | backup
  | request (word : Nat) (mem : word ∈ requestWords) (data : Bool)
  | input (index : Nat) (free : index ∉ safeRegisters) (value : Int)
  | restart (powered : Bool) (pt : Fin 6 → Pt100Para) (windows : Fin 6 → Pt100Window) (now : Int)

namespace Machine

variable (md5 : List Byte → List Byte)

/-! ## The threads -/

def mainBlock (clock : Clock) (m : Machine) : Machine :=
  { m with
    inc := (roundBlocks clock).getD m.block id m.inc
    block := (m.block + 1) % (roundBlocks clock).length }

/-- The digest of a data file that is complete. -/
def settle (m : Machine) : Machine :=
  { m with
    copied := none
    pending :=
      match computeMd5File md5 (m.disk m.slot).data with
      | none => []
      | some digest => writeDigest (cString digest ++ [0]) }

/-- The next access. `fwrite` is given the shared memory itself: each register goes into the file
as it stands when its turn comes. -/
def backupStep (m : Machine) : Machine :=
  match m.pending with
  | access :: pending => { m with disk := diskStep m.disk (m.slot, access), pending := pending }
  | [] =>
      match m.copied with
      | none => { m with slot := m.slot % 10 + 1, copied := some 0, pending := [.truncateData] }
      | some i =>
          if i < syncDataLen then
            { m with
              copied := some (i + 1)
              pending := (wordBytes (m.inc.shmOut (syncDataStart + i))).map .appendData }
          else m.settle md5

/-- A step of a thread. -/
def threadStep (m : Machine) : Event → Machine
  | .main clock => m.mainBlock clock
  | .timer => { m with inc := timerCallbackFunc m.inc }
  | .pt100 i =>
      let thread := Pt100Thread.pollChannel i { m.pt100 with inc := m.inc }
      { m with inc := thread.inc, pt100 := thread }
  | .co2 reply =>
      let thread := Co2Sensor.dataCollectionCo2Func reply { m.co2 with inc := m.inc }
      { m with inc := thread.inc, co2 := thread }
  | .motor replies =>
      let thread := MotorThread.synchronousMotorFunc replies { m.motor with inc := m.inc }
      { m with inc := thread.inc, motor := thread }
  | .eggs start now =>
      let thread := flipEggFunc start now { m.eggs with inc := m.inc }
      { m with inc := thread.inc, eggs := thread }
  | .alarm =>
      let thread := AlarmThread.threadAlarmFunc { m.alarm with inc := m.inc }
      { m with inc := thread.inc, alarm := thread }
  | .backup => m.backupStep md5
  | _ => m

/-! ## A start -/

/-- What a start finds: the shared memory outlasts the program but not the power. -/
def memory (powered : Bool) (m : Machine) : Incubator :=
  if powered then { cleared with shmOut := m.inc.shmOut, shmOld := m.inc.shmOld } else cleared

/-- The memory after the restore. -/
def restored (powered : Bool) (m : Machine) : Incubator :=
  (initParaRestore md5 m.disk (m.memory powered)).memory

/-- The threads before their first rounds; the windows of the channels are not initialised. -/
def begin (windows : Fin 6 → Pt100Window) (inc : Incubator) (m : Machine) : Machine :=
  { m with
    inc := inc
    started := true
    block := 0
    pt100 := ⟨inc, windows⟩
    co2 := ⟨inc, 0, 0⟩
    motor := ⟨inc, 0, []⟩
    eggs := ⟨inc, on, 0⟩
    alarm := threadAlarmStart inc
    slot := 0
    copied := none
    pending := [] }

@[simp] theorem begin_inc (windows : Fin 6 → Pt100Window) (inc : Incubator) (m : Machine) :
    (m.begin windows inc).inc = inc := rfl

def restart (powered : Bool) (pt : Fin 6 → Pt100Para) (windows : Fin 6 → Pt100Window) (now : Int)
    (m : Machine) : Machine :=
  match initPara md5 m.disk pt now (m.memory powered) with
  | some inc => m.begin windows inc
  | none =>
      { m with
        inc := m.restored md5 powered
        started := false
        slot := 0
        copied := none
        pending := [] }

/-! ## Steps -/

/-- Before the initialisation is over no thread runs. -/
def step (m : Machine) : Event → Machine
  | .request word _ data => { m with inc := setVal word (if data then on else off) m.inc }
  | .input index _ value => { m with inc := setVal index value m.inc }
  | .restart powered pt windows now => m.restart md5 powered pt windows now
  | e => if m.started then m.threadStep md5 e else m

/-- A controller that has never run. -/
def new : Machine where
  inc := cleared
  started := false
  block := 0
  pt100 := ⟨cleared, noWindows⟩
  co2 := ⟨cleared, 0, 0⟩
  motor := ⟨cleared, 0, []⟩
  eggs := ⟨cleared, on, 0⟩
  alarm := threadAlarmStart cleared
  disk _ := ⟨none, none⟩
  slot := 0
  copied := none
  pending := []

section

variable {md5} {m : Machine}

/-- Undisturbed, the blocks of a round are a round. -/
theorem run_mainRound (clock : Clock) (started : m.started = true) (first : m.block = 0) :
    run (step md5) m (List.replicate (roundBlocks clock).length (.main clock)) =
      { m with inc := mainRound clock m.inc } := by
  have blocks (n : Nat) (before : n ≤ (roundBlocks clock).length) :
      run (step md5) m (List.replicate n (.main clock)) =
        { m with
          inc := ((roundBlocks clock).take n).foldl (fun s block => block s) m.inc
          block := n % (roundBlocks clock).length } := by
    induction n with
    | zero =>
        cases m
        cases first
        rfl
    | succ n ih =>
        have small : n % (roundBlocks clock).length = n := Nat.mod_eq_of_lt before
        rw [List.replicate_succ', run_append, ih (Nat.le_of_succ_le before), run_cons, run_nil]
        simp only [step, started, if_true, threadStep, mainBlock, small]
        rw [List.take_add_one, List.foldl_append, List.getElem?_eq_getElem before,
          List.getD_eq_getElem _ _ before]
        rfl
  rw [blocks _ le_rfl, List.take_length, Nat.mod_self, ← mainRound_eq]
  cases m
  cases first
  rfl

/-! ## Who writes what -/

/-- The registers that an event may change. -/
def writes : Event → Set Nat
  | .main _ => { i | i ∈ mainWrites }
  | .timer => { i | i ∈ timerWrites }
  | .pt100 i => { j | j ∈ pollWrites i }
  | .co2 _ => { i | i ∈ co2Writes }
  | .motor _ => { i | i ∈ motorWrites }
  | .eggs _ _ => { i | i ∈ eggWrites }
  | .alarm => { i | i ∈ alarmRoundWrites }
  | .backup => ∅
  | .request word _ _ => {word}
  | .input index _ _ => {index}
  | .restart _ _ _ _ => Set.univ

theorem backupStep_inc (m : Machine) : (m.backupStep md5).inc = m.inc := by
  rw [backupStep]
  split
  · rfl
  · split
    · rfl
    · split <;> rfl

theorem mainBlock_out (clock : Clock) (m : Machine) :
    AgreeOff mainWrites m.inc.shmOut (m.mainBlock clock).inc.shmOut := by
  show AgreeOff mainWrites m.inc.shmOut ((roundBlocks clock).getD m.block id m.inc).shmOut
  by_cases inside : m.block < (roundBlocks clock).length
  · rw [List.getD_eq_getElem _ _ inside]
    exact roundBlocks_out clock m.inc _ (List.getElem_mem inside)
  · rw [List.getD_eq_default _ _ (not_lt.mp inside)]
    exact .refl _ _

theorem threadStep_keeps (m : Machine) (e : Event) {i : Nat} (unwritten : i ∉ writes e) :
    (m.threadStep md5 e).inc.shmOut i = m.inc.shmOut i := by
  cases e with
  | main clock => exact mainBlock_out clock m i unwritten
  | timer => exact timerCallbackFunc_out m.inc i unwritten
  | pt100 j => exact pt100_out j { m.pt100 with inc := m.inc } i unwritten
  | co2 reply => exact co2_out reply { m.co2 with inc := m.inc } i unwritten
  | motor replies => exact motor_out replies { m.motor with inc := m.inc } i unwritten
  | eggs start now => exact eggs_out start now { m.eggs with inc := m.inc } i unwritten
  | alarm => exact (alarmRound_within { m.alarm with inc := m.inc }).out i unwritten
  | backup => rw [threadStep, backupStep_inc]
  | request | input | restart => rfl

theorem step_of_thread {e : Event} (thread : step md5 m e = if m.started then
    m.threadStep md5 e else m) : step md5 m e = m.threadStep md5 e ∨ step md5 m e = m := by
  rw [thread]
  split
  · exact Or.inl rfl
  · exact Or.inr rfl

theorem step_keeps (m : Machine) (e : Event) (i : Nat) (unwritten : i ∉ writes e) :
    (step md5 m e).inc.shmOut i = m.inc.shmOut i := by
  have thread (same : step md5 m e = if m.started then m.threadStep md5 e else m) :
      (step md5 m e).inc.shmOut i = m.inc.shmOut i := by
    rcases step_of_thread same with acts | waits
    · rw [acts]
      exact threadStep_keeps m e unwritten
    · rw [waits]
  cases e with
  | request word mem data => exact Function.update_of_ne unwritten _ _
  | input index free value => exact Function.update_of_ne unwritten _ _
  | restart powered pt windows now => exact absurd (Set.mem_univ i) unwritten
  | main | timer | pt100 | co2 | motor | eggs | alarm | backup => exact thread rfl

variable (md5) in
/-- The registers as cells that the events share. -/
def program : Program Machine Event Nat Word where
  step := step md5
  cell m := m.inc.shmOut
  writes := writes
  keeps := step_keeps

end

/-! ## Outputs and readings -/

/-- The relays and valves of the main loop. -/
def loopOutputs : List Nat :=
  [Reg.controlRunLights, Reg.controlMainHeat, Reg.controlAuxHeat, Reg.controlFan,
    Reg.controlCool2_1, Reg.controlCool2_2, Reg.controlCool2_3, Reg.controlCool2_4,
    Reg.controlColdHotWater, Reg.controlBlower, Reg.controlCool, Reg.controlSpray]

/-- The registers of the outputs and of what is measured. -/
def fieldRegisters : List Nat :=
  List.range' Reg.doInit 24 ++ readingRegisters ++ [Reg.rAiCo]

/-- Each has one thread, but for the damper outputs, which the timer switches off as well. -/
def Owns : Event → Nat → Prop
  | .main _, i => i ∈ loopOutputs ++ damperOutputs
  | .timer, i => i ∈ damperOutputs
  | .alarm, i => i ∈ [Reg.controlWarnLight, Reg.controlElectricBell]
  | .eggs _ _, i => i ∈ [Reg.filpEggOn, Reg.filpEggOff]
  | .pt100 j, i => i = Reg.rAiTpMain + channelIndex j
  | .co2 _, i => i = Reg.rAiCo
  | .input index _ _, i => i = index
  | .restart _ _ _ _, _ => True
  | .motor _, _ => False
  | .backup, _ => False
  | .request _ _ _, _ => False

theorem owns_of_writes {e : Event} {i : Nat} (field : i ∈ fieldRegisters)
    (written : i ∈ writes e) : Owns e i := by
  cases e with
  | main clock =>
      have owned : ∀ i ∈ fieldRegisters, i ∈ mainWrites → i ∈ loopOutputs ++ damperOutputs := by
        decide +kernel
      exact owned i field written
  | timer =>
      have owned : ∀ i ∈ fieldRegisters, i ∈ timerWrites → i ∈ damperOutputs := by decide +kernel
      exact owned i field written
  | pt100 j =>
      have owned : ∀ j : Fin 6, ∀ i ∈ fieldRegisters, i ∈ pollWrites j →
          i = Reg.rAiTpMain + channelIndex j := by decide +kernel
      exact owned j i field written
  | co2 reply =>
      have owned : ∀ i ∈ fieldRegisters, i ∈ co2Writes → i = Reg.rAiCo := by decide +kernel
      exact owned i field written
  | motor replies =>
      have owned : ∀ i ∈ fieldRegisters, i ∉ motorWrites := by decide +kernel
      exact owned i field written
  | eggs start now =>
      have owned : ∀ i ∈ fieldRegisters, i ∈ eggWrites → i ∈ [Reg.filpEggOn, Reg.filpEggOff] := by
        decide +kernel
      exact owned i field written
  | alarm =>
      have owned : ∀ i ∈ fieldRegisters, i ∈ alarmRoundWrites →
          i ∈ [Reg.controlWarnLight, Reg.controlElectricBell] := by decide +kernel
      exact owned i field written
  | backup => exact written
  | request word mem data =>
      have free : ∀ word ∈ requestWords, word ∉ fieldRegisters := by decide +kernel
      obtain rfl := Set.mem_singleton_iff.mp written
      exact free i mem field
  | input index free value => exact Set.mem_singleton_iff.mp written
  | restart => trivial

/-- In every run, whatever the order of the threads, an output or a reading that has changed was
changed by the thread that owns it, by the operator or by a restart. -/
theorem outputs_owned (md5 : List Byte → List Byte) (m : Machine) (es : List Event) (i : Nat)
    (field : i ∈ fieldRegisters)
    (changed : (run (step md5) m es).inc.shmOut i ≠ m.inc.shmOut i) :
    ∃ before e after, es = before ++ e :: after ∧ Owns e i ∧
      (run (step md5) m (before ++ [e])).inc.shmOut i ≠
        (run (step md5) m before).inc.shmOut i := by
  obtain ⟨before, e, after, split, written, now⟩ := (program md5).exists_writer changed
  refine ⟨before, e, after, split, owns_of_writes field written, ?_⟩
  rw [run_append]
  exact now

/-- The first round of the alarm thread finds an alarm, and the backup empties its first file. -/
theorem outputs_owned_light : ∃ before e after,
    [.timer, .alarm, .backup, .backup] = before ++ e :: after ∧ Owns e Reg.controlWarnLight ∧
      (run (step sampleDigest) { new with started := true } (before ++ [e])).inc.shmOut
          Reg.controlWarnLight ≠
        (run (step sampleDigest) { new with started := true } before).inc.shmOut
          Reg.controlWarnLight := by
  have shines : (run (step sampleDigest) { new with started := true }
      [.timer, .alarm, .backup, .backup]).inc.shmOut Reg.controlWarnLight ≠
        new.inc.shmOut Reg.controlWarnLight := by
    decide +kernel
  exact outputs_owned sampleDigest { new with started := true } _ _ (by decide) shines

end Machine

end Jincubator
