import Jincubator.ByteOrder
import Jincubator.Library.Run
import Mathlib.Algebra.Order.BigOperators.Group.List

/-! # Reading from the serial port

The port is read as long as bytes come within the time-out and the buffer is not full.
The result of each read is added to the position, that of a failed one as well.
-/

namespace Jincubator

open Run

def serialErrorFd : Int := -1

/-- What `select` reports, and what `read` then returns: an error, or the bytes that it stores. -/
inductive SelectResult where
  | error
  | timeout
  | ready (bytes : Option (List Byte))

/-- The loop of `SerialRead`: the memory, addressed from the buffer on, the position in it, and the
value of the call once it has returned. -/
structure SerialLoop where
  memory : Int → Byte
  pos : Int
  returned : Option Int

/-- `read` stores the bytes one after the other. -/
def storeBytes (addr : Int) : List Byte → (Int → Byte) → Int → Byte
  | [], memory => memory
  | b :: bytes, memory => storeBytes (addr + 1) bytes (Function.update memory addr b)

/-- The return value of `read`. -/
def readReturn : Option (List Byte) → Int
  | some bytes => bytes.length
  | none => -1

def serialStep (len : Int) (m : SerialLoop) : SelectResult → SerialLoop
  | .error => { m with returned := some m.pos }
  | .timeout => { m with returned := some m.pos }
  | .ready bytes =>
      let pos := m.pos + readReturn bytes
      { memory := storeBytes m.pos (bytes.getD []) m.memory
        pos := pos
        returned := if pos < len then none else some pos }

def serialStart (memory : Int → Byte) : SerialLoop := ⟨memory, 0, none⟩

/-- A call of `SerialRead` up to the given results. -/
def serialRead (fd len : Int) (memory : Int → Byte) (results : List SelectResult) : SerialLoop :=
  if fd < 0 then { serialStart memory with returned := some serialErrorFd }
  else run (serialStep len) (serialStart memory) results

/-! ## Results -/

/-- The call has not returned yet, and a read stores at most as many bytes as it is asked for. -/
def Allowed (len : Int) (m : SerialLoop) (r : SelectResult) : Prop :=
  m.returned = none ∧ ∀ bytes, r = .ready (some bytes) → (bytes.length : Int) ≤ len - m.pos

namespace SelectResult

/-- The bytes received. -/
def received : SelectResult → Int
  | .ready (some bytes) => bytes.length
  | _ => 0

def failed : SelectResult → Int
  | .ready none => 1
  | _ => 0

end SelectResult

def received (results : List SelectResult) : Int := (results.map SelectResult.received).sum

def failedReads (results : List SelectResult) : Int := (results.map SelectResult.failed).sum

/-- At every read at most as many reads have failed as bytes have been received. -/
def Covered (results : List SelectResult) : Prop :=
  ∀ before bytes after, results = before ++ .ready bytes :: after →
    failedReads before ≤ received before

/-- A read is asked to store within the buffer, and stores nothing outside it. -/
def StaysInBuffer (len : Int) (m : SerialLoop) (r : SelectResult) (t : SerialLoop) : Prop :=
  ∀ bytes, r = .ready bytes → (0 ≤ m.pos ∧ m.pos < len) ∧
    ∀ i, ¬(0 ≤ i ∧ i < len) → t.memory i = m.memory i

section

variable {len : Int} {m : SerialLoop} {r : SelectResult} {results : List SelectResult}

/-! ## The position -/

theorem serialStep_pos (len : Int) (m : SerialLoop) (r : SelectResult) :
    (serialStep len m r).pos = m.pos + r.received - r.failed := by
  cases r with
  | error => exact (show m.pos = m.pos + 0 - 0 by omega)
  | timeout => exact (show m.pos = m.pos + 0 - 0 by omega)
  | ready bytes =>
      cases bytes with
      | none => exact (show m.pos + -1 = m.pos + 0 - 1 by omega)
      | some bytes => exact (show m.pos + bytes.length = m.pos + bytes.length - 0 by omega)

/-- The position is that of the bytes received, less one for each failed read. -/
theorem run_pos (len : Int) (m : SerialLoop) (results : List SelectResult) :
    (run (serialStep len) m results).pos = m.pos + received results - failedReads results := by
  induction results generalizing m with
  | nil =>
      rw [run_nil, received, failedReads, List.map_nil, List.map_nil, List.sum_nil]
      omega
  | cons r results ih =>
      rw [run_cons, ih, serialStep_pos]
      simp only [received, failedReads, List.map_cons, List.sum_cons]
      omega

theorem start_pos (len : Int) (memory : Int → Byte) (results : List SelectResult) :
    (run (serialStep len) (serialStart memory) results).pos =
      received results - failedReads results := by
  rw [run_pos]
  exact (show 0 + received results - failedReads results = _ by omega)

/-- The position is within the length, below it while the call runs, and the value returned. -/
structure Bounded (len : Int) (m : SerialLoop) : Prop where
  most : m.pos ≤ len
  running : m.returned = none → m.pos < len
  value : ∀ v, m.returned = some v → v = m.pos

theorem bounded_start (positive : 1 ≤ len) (memory : Int → Byte) :
    Bounded len (serialStart memory) := by
  have zero : (serialStart memory).pos = 0 := rfl
  exact ⟨by omega, fun _ => by omega, nofun⟩

theorem bounded_step (allowed : Allowed len m r) (bounded : Bounded len m) :
    Bounded len (serialStep len m r) := by
  cases r with
  | error => exact ⟨bounded.most, nofun, fun v same => (Option.some.inj same).symm⟩
  | timeout => exact ⟨bounded.most, nofun, fun v same => (Option.some.inj same).symm⟩
  | ready bytes =>
      have most : m.pos + readReturn bytes ≤ len := by
        cases bytes with
        | none =>
            have before := bounded.most
            exact (show m.pos + -1 ≤ len by omega)
        | some bytes =>
            have requested := allowed.2 bytes rfl
            exact (show m.pos + bytes.length ≤ len by omega)
      rw [serialStep]
      refine ⟨most, ?_, ?_⟩
      · dsimp only
        split
        · exact fun _ => ‹_›
        · exact nofun
      · dsimp only
        split
        · exact nofun
        · exact fun v same => (Option.some.inj same).symm

/-! ## The buffer -/

theorem storeBytes_outside (addr : Int) (bytes : List Byte) (memory : Int → Byte) {i : Int}
    (outside : ¬(addr ≤ i ∧ i < addr + bytes.length)) :
    storeBytes addr bytes memory i = memory i := by
  induction bytes generalizing addr memory with
  | nil => rfl
  | cons b bytes ih =>
      rw [List.length_cons] at outside
      push_cast at outside
      rw [storeBytes, ih _ _ (by omega), Function.update_of_ne (by omega)]

/-- A read stays in the buffer exactly if the position is not negative. -/
theorem staysInBuffer_iff (allowed : Allowed len m r) (bounded : Bounded len m) :
    StaysInBuffer len m r (serialStep len m r) ↔ ∀ bytes, r = .ready bytes → 0 ≤ m.pos := by
  constructor
  · intro stays bytes same
    exact (stays bytes same).1.1
  · intro covered bytes same
    have start := covered bytes same
    refine ⟨⟨start, bounded.running allowed.1⟩, ?_⟩
    intro i outside
    subst same
    apply storeBytes_outside
    intro inside
    apply outside
    cases bytes with
    | none => exact absurd inside (by simp)
    | some bytes =>
        have requested := allowed.2 bytes rfl
        have inside : m.pos ≤ i ∧ i < m.pos + bytes.length := inside
        omega

/-- All reads of a call stay in the buffer exactly if they are covered. -/
theorem staysInBuffer_run {memory : Int → Byte} (positive : 1 ≤ len)
    (allowed : Along (serialStep len) (fun m r _ => Allowed len m r) (serialStart memory) results) :
    Along (serialStep len) (StaysInBuffer len) (serialStart memory) results ↔ Covered results := by
  have same := along_iff (Bounded len) (fun m r allowed => staysInBuffer_iff (r := r) allowed)
    (fun m r allowed bounded _ => bounded_step allowed bounded) (bounded_start positive memory)
    allowed
  rw [same, along_iff_split]
  constructor
  · intro covered before bytes after split
    have start := covered before _ after split bytes rfl
    rw [start_pos] at start
    omega
  · intro covered before r after split bytes is
    subst is
    have few := covered before bytes after split
    rw [start_pos]
    omega

/-! ## The value -/

theorem sum_map_nonneg {count : SelectResult → Int} (each : ∀ r, 0 ≤ count r)
    (results : List SelectResult) : 0 ≤ (results.map count).sum := by
  apply List.sum_nonneg
  intro n mem
  obtain ⟨r, -, rfl⟩ := List.mem_map.mp mem
  exact each r

theorem failedReads_nonneg (results : List SelectResult) : 0 ≤ failedReads results := by
  refine sum_map_nonneg ?_ results
  intro r
  cases r with
  | error | timeout => exact le_refl 0
  | ready bytes =>
      cases bytes with
      | none => exact Int.one_nonneg
      | some bytes => exact le_refl 0

theorem received_nonneg (results : List SelectResult) : 0 ≤ received results := by
  refine sum_map_nonneg ?_ results
  intro r
  cases r with
  | error | timeout => exact le_refl 0
  | ready bytes =>
      cases bytes with
      | none => exact le_refl 0
      | some bytes => exact Int.natCast_nonneg bytes.length

/-- Without a failed read every read is covered. -/
theorem covered_of_no_failure (none : failedReads results = 0) : Covered results := by
  intro before bytes after split
  have some_bytes := received_nonneg before
  have later := failedReads_nonneg (.ready bytes :: after)
  rw [split, failedReads, List.map_append, List.sum_append] at none
  rw [failedReads] at later ⊢
  omega

/-- In every call the reads stay in the buffer, and the value returned is the number of bytes
received, exactly if at every read at most as many reads have failed as bytes have been received,
and no read has failed by the time of the return. -/
theorem serialRead_iff (fd len : Int) (memory : Int → Byte) (results : List SelectResult)
    (valid : 0 ≤ fd) (positive : 1 ≤ len)
    (allowed : Along (serialStep len) (fun m r _ => Allowed len m r) (serialStart memory) results) :
    (Along (serialStep len) (StaysInBuffer len) (serialStart memory) results ∧
        ∀ v, (serialRead fd len memory results).returned = some v →
          v = received results ∧ 0 ≤ v ∧ v ≤ len) ↔
      Covered results ∧
        ((serialRead fd len memory results).returned ≠ none → failedReads results = 0) := by
  have bounded := run_invariant_along (fun m r allowed => bounded_step (r := r) allowed)
    (bounded_start positive memory) allowed
  have pos := start_pos len memory results
  have some_bytes := received_nonneg results
  rw [serialRead, if_neg (by omega)]
  refine and_congr (staysInBuffer_run positive allowed) ?_
  generalize run (serialStep len) (serialStart memory) results = m at bounded pos
  constructor
  · intro returns ended
    obtain ⟨v, same⟩ := Option.ne_none_iff_exists'.mp ended
    have value := bounded.value v same
    have correct := (returns v same).1
    omega
  · intro returns v same
    have none := returns (by rw [same]; exact Option.some_ne_none v)
    have value := bounded.value v same
    have most := bounded.most
    omega

end

theorem serialRead_iff_byte :
    (serialRead 3 8 (fun _ => 0) [.ready (some [7]), .timeout]).returned = some 1 ∧
      Along (serialStep 8) (StaysInBuffer 8) (serialStart fun _ => 0)
        [.ready (some [7]), .timeout] := by
  have allowed : Along (serialStep 8) (fun m r _ => Allowed 8 m r) (serialStart fun _ => 0)
      [.ready (some [7]), .timeout] := by
    refine ⟨⟨rfl, fun bytes same => ?_⟩, ⟨rfl, nofun⟩, trivial⟩
    cases same
    decide
  have calls := serialRead_iff 3 8 (fun _ => 0) [.ready (some [7]), .timeout] (by decide)
    (by decide) allowed
  exact ⟨rfl, (calls.mpr ⟨covered_of_no_failure rfl, fun _ => rfl⟩).1⟩

/-- A read fails, a byte comes, and then no more. -/
def failedThenByte : List SelectResult := [.ready none, .ready (some [7]), .timeout]

/-- The byte after a failed read is stored in front of the buffer, and the call returns zero. -/
theorem byte_before_buffer :
    Along (serialStep 1) (fun m r _ => Allowed 1 m r) (serialStart fun _ => 0) failedThenByte ∧
      (serialRead 3 1 (fun _ => 0) failedThenByte).memory (-1) = 7 ∧
      (serialRead 3 1 (fun _ => 0) failedThenByte).returned = some 0 ∧
      received failedThenByte = 1 ∧
      ¬Along (serialStep 1) (StaysInBuffer 1) (serialStart fun _ => 0) failedThenByte := by
  have allowed : Along (serialStep 1) (fun m r _ => Allowed 1 m r) (serialStart fun _ => 0)
      failedThenByte := by
    refine ⟨⟨rfl, nofun⟩, ⟨rfl, fun bytes same => ?_⟩, ⟨rfl, nofun⟩, trivial⟩
    cases same
    decide
  refine ⟨allowed, rfl, rfl, rfl, fun stays => ?_⟩
  have covered := (staysInBuffer_run (by decide) allowed).mp stays
  have few : (1 : Int) ≤ 0 := covered [.ready none] (some [7]) [.timeout] rfl
  omega

end Jincubator
