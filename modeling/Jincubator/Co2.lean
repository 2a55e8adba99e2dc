import Mathlib.Data.List.DropRight
import Jincubator.Define
import Jincubator.Library.Run
import Jincubator.Registers

/-! # Polling the CO2 sensor

The sensor answers a poll with nine bytes, two of them the value. A poll without
data, an answer of another length and a value above 20000 all count as failures,
but the count is looked at by a poll without data only. The alarm therefore
depends on which kinds of failures follow each other.
-/

namespace Jincubator

open Incubator Run

/-- What `SerialRead` returns, and the buffer it has filled. -/
structure Reply where
  recvLen : Int
  recvBuf : Nat → Byte

namespace Reply

/-- Bytes 2 and 3 of the buffer, exchanged. -/
def dataValue (r : Reply) : Int := (baWord (bytesWord [r.recvBuf 2, r.recvBuf 3])).toNat

/-- Nine bytes with a value in range. -/
def Valid (r : Reply) : Prop := r.recvLen = 9 ∧ r.dataValue ≥ 0 ∧ r.dataValue ≤ 20000

instance (r : Reply) : Decidable r.Valid := inferInstanceAs (Decidable (_ ∧ _ ∧ _))

end Reply

/-- The registers, `i_data_count` and `v_us_co2_old_val`. -/
structure Co2Sensor where
  inc : Incubator
  dataCount : Int
  oldVal : Int

namespace Co2Sensor

/-- A requested calibration takes the value at hand for 400. -/
def calibrate (dataValue : Int) (s : Incubator) : Incubator :=
  if s.getVal Reg.carbonDioxideCalibrationStatus ≠ 0 then
    let difference := short (dataValue - 400)
    s |> setVal Reg.pEditCo2Value (if difference ≥ 0 then difference else 0)
      |> setVal Reg.carbonDioxideCalibrationStatus 0
  else s

/-- The count is cleared, and filled again by a value out of range. -/
def receive (dataValue : Int) (m : Co2Sensor) : Co2Sensor :=
  let s := calibrate dataValue m.inc
  let outDataValue := dataValue - s.getVal Reg.pEditCo2Value
  if dataValue ≥ 0 ∧ dataValue ≤ 20000 then
    { m with
      inc := s |> setVal Reg.sensorCo2Alarm off |> setVal Reg.rAiCo outDataValue
        |> setVal Reg.rInitAiCo dataValue
      dataCount := 0 }
  else { m with inc := s, dataCount := 10 }

def missing (s : Incubator) : Incubator :=
  s |> setVal Reg.sensorCo2Alarm (if s.getVal Reg.pCo2Status = off then off else on)
    |> setVal Reg.rAiCo 0xffff

/-- A request is sent to the sensor, which is calibrated with its next value. -/
def requestCalibration (m : Co2Sensor) : Co2Sensor :=
  if m.inc.getVal Reg.pEditCo ≠ m.oldVal then
    { m with
      inc := m.inc |> setVal Reg.pEditCo 0 |> setVal Reg.carbonDioxideCalibrationStatus 1
      oldVal := 0 }
  else m

/-- The part of a round of `data_collection_co2_func` that looks at the reply. -/
def answer (r : Reply) (m : Co2Sensor) : Co2Sensor :=
  if r.recvLen > 0 then
    if r.recvLen = 9 then receive r.dataValue m
    else { m with dataCount := int32 (m.dataCount + 1) }
  else
    { m with
      inc := if m.dataCount ≥ 10 then missing m.inc else m.inc
      dataCount := int32 (m.dataCount + 1) }

/-- One round of `data_collection_co2_func`. -/
def dataCollectionCo2Func (r : Reply) (m : Co2Sensor) : Co2Sensor :=
  m |> answer r |> requestCalibration

end Co2Sensor

/-! ## Runs -/

/-- What the polls leave to themselves, and the switch of the alarm. -/
def co2Watched : List Nat := [Reg.sensorCo2Alarm, Reg.rAiCo, Reg.pCo2Status]

/-- A poll, or any value in another register. -/
inductive Co2Event where
  | poll (reply : Reply)
  | input (index : Nat) (free : index ∉ co2Watched) (value : Int)

def co2Step (m : Co2Sensor) : Co2Event → Co2Sensor
  | .poll reply => m.dataCollectionCo2Func reply
  | .input index _ value => { m with inc := setVal index value m.inc }

def replies (es : List Co2Event) : List Reply :=
  es.filterMap fun
    | .poll reply => some reply
    | .input _ _ _ => none

/-- The alarm of the sensor and the value of a missing one. -/
def Reported (s : Incubator) : Prop :=
  s.getVal Reg.sensorCo2Alarm = on ∧ s.getUval Reg.rAiCo = 0xffff

instance (s : Incubator) : Decidable (Reported s) := inferInstanceAs (Decidable (_ ∧ _))

/-! ## Failures in a row -/

/-- The replies since the last valid one. -/
def sinceValid (rs : List Reply) : List Reply := rs.rtakeWhile fun r => ¬r.Valid

/-- Nine bytes that are not valid count for ten failures. -/
def failures (rs : List Reply) : Int :=
  rs.foldl (fun count r => if r.recvLen = 9 then 10 else count + 1) 0

/-- A poll without data met a full count. -/
def Noticed (rs : List Reply) : Prop :=
  ∃ before r after, rs = before ++ r :: after ∧ r.recvLen ≤ 0 ∧ 10 ≤ int32 (failures before)

theorem int32_succ (v : Int) : int32 (int32 v + 1) = int32 (v + 1) := by
  rw [int32, int32, int32, BitVec.toInt_ofInt, BitVec.toInt_ofInt, BitVec.toInt_ofInt,
    Int.bmod_add_bmod]

section

variable {rs : List Reply} {r : Reply}

theorem failures_concat (rs : List Reply) (r : Reply) :
    failures (rs ++ [r]) = if r.recvLen = 9 then 10 else failures rs + 1 := by
  rw [failures, List.foldl_append]
  rfl

theorem sinceValid_valid (valid : r.Valid) : sinceValid (rs ++ [r]) = [] :=
  List.rtakeWhile_concat_neg _ _ _ (by simpa using valid)

theorem sinceValid_failed (failed : ¬r.Valid) :
    sinceValid (rs ++ [r]) = sinceValid rs ++ [r] :=
  List.rtakeWhile_concat_pos _ _ _ (by simpa using failed)

theorem not_noticed_nil : ¬Noticed [] := by
  rintro ⟨before, r, after, split, -⟩
  exact List.append_ne_nil_of_right_ne_nil before (List.cons_ne_nil r after) split.symm

theorem noticed_concat (rs : List Reply) (r : Reply) :
    Noticed (rs ++ [r]) ↔ Noticed rs ∨ r.recvLen ≤ 0 ∧ 10 ≤ int32 (failures rs) := by
  refine ⟨?_, ?_⟩
  · rintro ⟨before, q, after, split, silent, full⟩
    rcases after.eq_nil_or_concat' with rfl | ⟨after, last, rfl⟩
    · obtain ⟨rfl, same⟩ := List.append_inj' split rfl
      obtain rfl := List.singleton_inj.mp same
      exact Or.inr ⟨silent, full⟩
    · left
      rw [← List.cons_append, ← List.append_assoc] at split
      exact ⟨before, q, after, (List.append_inj' split rfl).1, silent, full⟩
  · rintro (⟨before, q, after, rfl, silent, full⟩ | ⟨silent, full⟩)
    · exact ⟨before, q, after ++ [r], by simp, silent, full⟩
    · exact ⟨rs, r, [], rfl, silent, full⟩

end

/-! ## One poll -/

section

variable {writes : List Nat} {s t : Incubator} {m : Co2Sensor} {r : Reply}

/-- What a calibration writes. -/
def calibrationWrites : List Nat :=
  [Reg.pEditCo2Value, Reg.carbonDioxideCalibrationStatus, Reg.pEditCo]

theorem Reported.within (st : Within writes s t) (untouched : ∀ i ∈ co2Watched, i ∉ writes) :
    Reported t ↔ Reported s := by
  rw [Reported, Reported, st.getVal (untouched _ (by decide)),
    st.getUval (untouched _ (by decide))]

theorem calibrate_within (dataValue : Int) (s : Incubator) :
    Within calibrationWrites s (Co2Sensor.calibrate dataValue s) := by
  simp (disch := decide) only [Co2Sensor.calibrate, within_ite, within_setVal, Within.refl,
    ite_self]

theorem requestCalibration_within (m : Co2Sensor) :
    Within calibrationWrites m.inc m.requestCalibration.inc := by
  rw [Co2Sensor.requestCalibration]
  split
  · simp (disch := decide) only [within_setVal, Within.refl]
  · exact Within.refl _ _

theorem requestCalibration_dataCount (m : Co2Sensor) :
    m.requestCalibration.dataCount = m.dataCount := by
  rw [Co2Sensor.requestCalibration]
  split <;> rfl

/-- A valid reply clears the count and the alarm. -/
theorem answer_valid (valid : r.Valid) (m : Co2Sensor) :
    (m.answer r).dataCount = 0 ∧
      (m.answer r).inc.getVal Reg.pCo2Status = m.inc.getVal Reg.pCo2Status ∧
      ¬Reported (m.answer r).inc := by
  obtain ⟨nine, range⟩ := valid
  have received : m.answer r = m.receive r.dataValue := by
    rw [Co2Sensor.answer, if_pos (by omega), if_pos nine]
  rw [received, Co2Sensor.receive, if_pos range]
  refine ⟨rfl, ?_, ?_⟩
  · rw [getVal_setVal_of_ne _ _ (by decide), getVal_setVal_of_ne _ _ (by decide),
      getVal_setVal_of_ne _ _ (by decide)]
    exact (calibrate_within _ _).getVal (by decide)
  · rintro ⟨alarm, -⟩
    rw [getVal_setVal_of_ne _ _ (by decide), getVal_setVal_of_ne _ _ (by decide),
      getVal_setVal_self] at alarm
    exact absurd alarm (by decide)

/-- A reply that is not valid counts, and raises the alarm if it is silent and the count full. -/
theorem answer_failed (failed : ¬r.Valid) (enabled : m.inc.getVal Reg.pCo2Status = on) :
    (m.answer r).dataCount = (if r.recvLen = 9 then 10 else int32 (m.dataCount + 1)) ∧
      (m.answer r).inc.getVal Reg.pCo2Status = m.inc.getVal Reg.pCo2Status ∧
      (Reported (m.answer r).inc ↔ Reported m.inc ∨ r.recvLen ≤ 0 ∧ 10 ≤ m.dataCount) := by
  rw [Co2Sensor.answer]
  by_cases data : r.recvLen > 0
  · rw [if_pos data]
    have heard : ¬r.recvLen ≤ 0 := by omega
    by_cases nine : r.recvLen = 9
    · have outside : ¬(r.dataValue ≥ 0 ∧ r.dataValue ≤ 20000) := fun range => failed ⟨nine, range⟩
      have calibrated := calibrate_within r.dataValue m.inc
      rw [if_pos nine, if_pos nine, Co2Sensor.receive, if_neg outside]
      refine ⟨rfl, calibrated.getVal (by decide), ?_⟩
      rw [Reported.within calibrated (by decide)]
      simp [heard]
    · rw [if_neg nine, if_neg nine]
      exact ⟨rfl, rfl, by simp [heard]⟩
  · have silent : r.recvLen ≤ 0 := by omega
    have short : ¬r.recvLen = 9 := by omega
    rw [if_neg data, if_neg short]
    by_cases full : m.dataCount ≥ 10
    · have stands : Reported (Co2Sensor.missing m.inc) := by
        rw [Co2Sensor.missing, if_neg (by rw [enabled]; decide)]
        refine ⟨?_, ?_⟩
        · rw [getVal_setVal_of_ne _ _ (by decide), getVal_setVal_self]
          decide
        · rw [getUval_setVal_self]
          decide
      rw [if_pos full]
      refine ⟨rfl, ?_, ?_⟩
      · show (Co2Sensor.missing m.inc).getVal Reg.pCo2Status = _
        rw [Co2Sensor.missing, getVal_setVal_of_ne _ _ (by decide),
          getVal_setVal_of_ne _ _ (by decide)]
      · exact ⟨fun _ => Or.inr ⟨silent, full⟩, fun _ => stands⟩
    · rw [if_neg full]
      exact ⟨rfl, rfl, by simp [full]⟩

end

/-! ## The count follows the replies -/

/-- After the replies the count is that of the failures in a row, and the alarm stands if it was
noticed since the last valid reply, or stood from the beginning. -/
structure Tracked (start : Co2Sensor) (rs : List Reply) (m : Co2Sensor) : Prop where
  count : m.dataCount = int32 (failures (sinceValid rs))
  enabled : m.inc.getVal Reg.pCo2Status = on
  reported : Reported m.inc ↔
    Noticed (sinceValid rs) ∨ (∀ r ∈ rs, ¬r.Valid) ∧ Reported start.inc

section

variable {start m : Co2Sensor} {rs : List Reply}

theorem Tracked.answer (tracked : Tracked start rs m) (r : Reply) :
    Tracked start (rs ++ [r]) (m.answer r) := by
  by_cases valid : r.Valid
  · obtain ⟨count, enabled, reported⟩ := answer_valid valid m
    have broken : ¬∀ q ∈ rs ++ [r], ¬q.Valid := by
      intro failing
      exact failing r (by simp) valid
    refine ⟨?_, enabled.trans tracked.enabled, ?_⟩
    · rw [count, sinceValid_valid valid]
      decide
    · rw [sinceValid_valid valid]
      simp only [reported, not_noticed_nil, broken, false_and, or_self]
  · obtain ⟨count, enabled, reported⟩ := answer_failed valid tracked.enabled
    have failing : (∀ q ∈ rs ++ [r], ¬q.Valid) ↔ ∀ q ∈ rs, ¬q.Valid := by
      rw [List.forall_mem_append, List.forall_mem_singleton]
      exact and_iff_left valid
    refine ⟨?_, enabled.trans tracked.enabled, ?_⟩
    · rw [count, sinceValid_failed valid, failures_concat, tracked.count]
      split
      · decide
      · exact int32_succ _
    · rw [reported, tracked.reported, tracked.count, sinceValid_failed valid, noticed_concat,
        failing]
      exact or_right_comm

theorem Tracked.requestCalibration (tracked : Tracked start rs m) :
    Tracked start rs m.requestCalibration where
  count := (requestCalibration_dataCount m).trans tracked.count
  enabled := ((requestCalibration_within m).getVal (by decide)).trans tracked.enabled
  reported := (Reported.within (requestCalibration_within m) (by decide)).trans tracked.reported

theorem Tracked.input (tracked : Tracked start rs m) {index : Nat} (free : index ∉ co2Watched)
    (value : Int) : Tracked start rs { m with inc := setVal index value m.inc } := by
  have untouched : ∀ i ∈ co2Watched, i ∉ [index] := by
    intro i watched same
    rw [List.mem_singleton.mp same] at watched
    exact free watched
  have input : Within [index] m.inc (setVal index value m.inc) := put_within _ _ _
  refine ⟨tracked.count, ?_, ?_⟩
  · exact (input.getVal (untouched _ (by decide))).trans tracked.enabled
  · exact (Reported.within input untouched).trans tracked.reported

theorem run_tracked (started : start.dataCount = 0)
    (enabled : start.inc.getVal Reg.pCo2Status = on) (es : List Co2Event) :
    Tracked start (replies es) (run co2Step start es) := by
  induction es using List.reverseRecOn with
  | nil =>
      refine ⟨started, enabled, ?_⟩
      have nothing : ¬Noticed (sinceValid (replies [])) := not_noticed_nil
      rw [run_nil, or_iff_right nothing]
      exact (and_iff_right (List.forall_mem_nil _)).symm
  | append_singleton es e ih =>
      rw [run_append, run_cons, run_nil, replies, List.filterMap_append]
      cases e with
      | poll reply => exact (ih.answer reply).requestCalibration
      | input index free value =>
          rw [List.filterMap_cons_none rfl, List.filterMap_nil, List.append_nil]
          exact ih.input free value

end

/-! ## Which failures are reported -/

/-- Failing replies prolong the failures in a row. -/
theorem sinceValid_append {rs qs : List Reply} (failing : ∀ q ∈ qs, ¬q.Valid) :
    sinceValid (rs ++ qs) = sinceValid rs ++ qs := by
  induction qs using List.reverseRecOn with
  | nil => rw [List.append_nil, List.append_nil]
  | append_singleton qs q ih =>
      rw [List.forall_mem_append, List.forall_mem_singleton] at failing
      rw [← List.append_assoc, sinceValid_failed failing.2, ih failing.1, List.append_assoc]

/-- A row of failures counts one for each, and ten for the last value out of range. -/
theorem failures_cases (rs : List Reply) :
    (∃ r ∈ rs, r.recvLen = 9) ∧ 10 ≤ failures rs ∧ failures rs ≤ 10 + rs.length ∨
      (∀ r ∈ rs, r.recvLen ≠ 9) ∧ failures rs = rs.length := by
  induction rs using List.reverseRecOn with
  | nil => exact Or.inr ⟨List.forall_mem_nil _, rfl⟩
  | append_singleton rs r ih =>
      rw [failures_concat, List.length_append, List.length_singleton]
      by_cases nine : r.recvLen = 9
      · rw [if_pos nine]
        exact Or.inl ⟨⟨r, by simp, nine⟩, le_refl 10, by omega⟩
      · rw [if_neg nine]
        rcases ih with ⟨⟨q, mem, large⟩, full, most⟩ | ⟨none, counted⟩
        · exact Or.inl ⟨⟨q, List.mem_append_left _ mem, large⟩, by omega, by omega⟩
        · right
          refine ⟨?_, by omega⟩
          rw [List.forall_mem_append, List.forall_mem_singleton]
          exact ⟨none, nine⟩

/-- While it fits an `int`, the count of a row of failures is full after ten of them, or after a
value out of range. -/
theorem failures_full (rs : List Reply) (fits : rs.length + 10 < 2 ^ 31) :
    10 ≤ int32 (failures rs) ↔ 10 ≤ rs.length ∨ ∃ r ∈ rs, r.recvLen = 9 := by
  have kept : int32 (failures rs) = failures rs := by
    rw [int32, BitVec.toInt_ofInt]
    rcases failures_cases rs with ⟨-, full, most⟩ | ⟨-, counted⟩
    · exact Int.bmod_eq_of_le (by omega) (by omega)
    · exact Int.bmod_eq_of_le (by omega) (by omega)
  rw [kept]
  rcases failures_cases rs with ⟨large, full, -⟩ | ⟨none, counted⟩
  · exact iff_of_true full (Or.inr large)
  · rw [counted, or_iff_left]
    · omega
    · rintro ⟨r, mem, nine⟩
      exact none r mem nine

/-- After failing polls, whatever came before, the sensor is reported exactly if a poll without
data has met a full count since the last valid reply, or if it was reported when the thread
started and no reply has been valid. -/
theorem reported_iff (start : Co2Sensor) (started : start.dataCount = 0)
    (enabled : start.inc.getVal Reg.pCo2Status = on) (before window : List Co2Event)
    (failing : ∀ r ∈ replies window, ¬r.Valid) :
    Reported (run co2Step start (before ++ window)).inc ↔
      Noticed (sinceValid (replies before) ++ replies window) ∨
        (∀ r ∈ replies before, ¬r.Valid) ∧ Reported start.inc := by
  have tracked := (run_tracked started enabled (before ++ window)).reported
  rw [replies, List.filterMap_append, ← replies, ← replies, sinceValid_append failing,
    List.forall_mem_append, and_iff_left failing] at tracked
  exact tracked

/-- A sensor that is enabled. -/
def co2Start : Co2Sensor := ⟨setVal Reg.pCo2Status on cleared, 0, 0⟩

/-- Eleven short answers and a poll without data. -/
def mixedFailures : List Co2Event :=
  List.replicate 11 (.poll ⟨7, fun _ => 0⟩) ++ [.poll ⟨0, fun _ => 0⟩]

theorem reported_iff_mixed :
    Reported (run co2Step co2Start ([] ++ mixedFailures)).inc ↔
      Noticed (sinceValid (replies []) ++ replies mixedFailures) ∨
        (∀ r ∈ replies [], ¬r.Valid) ∧ Reported co2Start.inc :=
  reported_iff co2Start rfl (by decide) [] mixedFailures (by decide)

/-- Twelve short answers raise no alarm. -/
theorem shortAnswers_not_reported :
    ¬∀ start before window, start.dataCount = 0 → start.inc.getVal Reg.pCo2Status = on →
      (replies window).length = 12 → (∀ r ∈ replies window, ¬r.Valid) →
        Reported (run co2Step start (before ++ window)).inc := by
  intro law
  have reported := law co2Start [] (List.replicate 12 (.poll ⟨7, fun _ => 0⟩)) rfl (by decide)
    (by decide) (by decide)
  exact absurd reported (by decide +kernel)

end Jincubator
