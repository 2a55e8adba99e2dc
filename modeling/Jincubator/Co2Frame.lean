import Jincubator.Co2

/-! # Corrupt replies of the CO2 sensor

A reply begins with two fixed bytes and ends with the complement of the sum of the
bytes between. The function that computes it is never asked for a reply: a poll looks
at the number of bytes and at the range of the value, so a corrupt value is taken over
like any other.
-/

namespace Jincubator

open Incubator

/-! ## The checksum -/

/-- `co2_check`: the sum of the bytes as a word, complemented, and cut to a byte. -/
def co2Check (data : List Byte) : Int :=
  let tmp := data.foldl (fun tmp b => ushort (tmp + b.toNat)) 0
  let tmp := ushort (~~~tmp)
  (tmp + 1) % 256

/-- The bytes without a limit to their sum. -/
def byteSum (data : List Byte) : Int := (data.map fun b => (b.toNat : Int)).sum

theorem foldl_ushort (data : List Byte) (tmp : Int) :
    data.foldl (fun tmp b => ushort (tmp + b.toNat)) (ushort tmp) =
      ushort (tmp + byteSum data) := by
  induction data generalizing tmp with
  | nil => rw [byteSum, List.map_nil, List.sum_nil, add_zero, List.foldl_nil]
  | cons b data ih =>
      have cut : ushort (ushort tmp + b.toNat) = ushort (tmp + b.toNat) := by
        rw [ushort_eq, ushort_eq, ushort_eq]
        omega
      rw [List.foldl_cons, cut, ih, byteSum, byteSum, List.map_cons, List.sum_cons, add_assoc]

/-- The checksum makes up the sum of the bytes to a multiple of 256. -/
theorem co2Check_sum (data : List Byte) : (byteSum data + co2Check data) % 256 = 0 := by
  have sum : data.foldl (fun tmp b => ushort (tmp + b.toNat)) 0 = ushort (byteSum data) :=
    (foldl_ushort data 0).trans (by rw [zero_add])
  have complement (v : Int) : ~~~v = -v - 1 := by
    cases v with
    | ofNat n =>
        show Int.negSucc n = -(n : Int) - 1
        omega
    | negSucc n =>
        show (n : Int) = -Int.negSucc n - 1
        omega
  rw [co2Check, sum, complement, ushort_eq, ushort_eq]
  omega

/-! ## Corrupt replies -/

namespace Reply

/-- Another header than 0xff, 0x86, or another last byte than the checksum of bytes 1 to 7. -/
def Corrupt (r : Reply) : Prop :=
  ¬(r.recvBuf 0 = 0xff ∧ r.recvBuf 1 = 0x86) ∨
    (r.recvBuf 8).toNat ≠ co2Check ((List.range 7).map fun i => r.recvBuf (1 + i))

instance (r : Reply) : Decidable r.Corrupt := inferInstanceAs (Decidable (_ ∨ _))

end Reply

/-- The value, the uncorrected value and the correction. -/
def co2Values (s : Incubator) : Int × Int × Int :=
  (s.getVal Reg.rAiCo, s.getVal Reg.rInitAiCo, s.getVal Reg.pEditCo2Value)

/-- The correction that a calibration finds. -/
def co2Difference (r : Reply) : Int := max 0 (short (r.dataValue - 400))

/-- The registers hold already what the poll makes of the reply: the correction if a calibration
is asked for, the two values if the value is in range. -/
def Repeats (r : Reply) (s : Incubator) : Prop :=
  (s.getVal Reg.carbonDioxideCalibrationStatus ≠ 0 →
    s.getVal Reg.pEditCo2Value = co2Difference r) ∧
  (r.dataValue ≤ 20000 →
    s.getVal Reg.rAiCo = short (r.dataValue - s.getVal Reg.pEditCo2Value) ∧
      s.getVal Reg.rInitAiCo = r.dataValue)

instance (r : Reply) (s : Incubator) : Decidable (Repeats r s) :=
  inferInstanceAs (Decidable (_ ∧ _))

section

variable {r : Reply} {m : Co2Sensor} {s : Incubator}

theorem dataValue_range (r : Reply) : 0 ≤ r.dataValue ∧ r.dataValue < 65536 := by
  have bound := (baWord (bytesWord [r.recvBuf 2, r.recvBuf 3])).isLt
  rw [Reply.dataValue]
  omega

theorem calibrate_edit (r : Reply) (s : Incubator) :
    (Co2Sensor.calibrate r.dataValue s).getVal Reg.pEditCo2Value =
      if s.getVal Reg.carbonDioxideCalibrationStatus ≠ 0 then co2Difference r
      else s.getVal Reg.pEditCo2Value := by
  rw [Co2Sensor.calibrate]
  split
  · have difference : (if short (r.dataValue - 400) ≥ 0 then short (r.dataValue - 400) else 0) =
        co2Difference r := by
      rw [co2Difference]
      split <;> omega
    have range := short_range (r.dataValue - 400)
    show (setVal _ _ (setVal _ _ s)).getVal _ = _
    rw [difference, getVal_setVal_of_ne _ _ (by decide), getVal_setVal_self, co2Difference,
      short_of_range (by omega)]
  · rfl

/-- The registers after a reply of nine bytes. -/
theorem receive_values (r : Reply) (m : Co2Sensor) :
    co2Values (m.receive r.dataValue).inc =
      (if r.dataValue ≤ 20000 then
          short (r.dataValue - (Co2Sensor.calibrate r.dataValue m.inc).getVal Reg.pEditCo2Value)
        else m.inc.getVal Reg.rAiCo,
        if r.dataValue ≤ 20000 then r.dataValue else m.inc.getVal Reg.rInitAiCo,
        (Co2Sensor.calibrate r.dataValue m.inc).getVal Reg.pEditCo2Value) := by
  have range := dataValue_range r
  have kept := calibrate_within r.dataValue m.inc
  rw [Co2Sensor.receive]
  by_cases inside : r.dataValue ≤ 20000
  · rw [if_pos ⟨range.1, inside⟩, if_pos inside, if_pos inside]
    simp (disch := decide) only [co2Values, getVal_setVal_of_ne, getVal_setVal_self,
      short_of_range (show -32768 ≤ r.dataValue ∧ r.dataValue < 32768 by omega)]
  · rw [if_neg fun both => inside both.2, if_neg inside, if_neg inside]
    rw [co2Values, kept.getVal (by decide), kept.getVal (by decide)]

theorem requestCalibration_values (m : Co2Sensor) :
    co2Values m.requestCalibration.inc = co2Values m.inc := by
  rw [Co2Sensor.requestCalibration]
  split
  · simp (disch := decide) only [co2Values, getVal_setVal_of_ne]
  · rfl

/-- A poll with nine bytes leaves the three registers alone exactly if they hold its values. -/
theorem poll_values (nine : r.recvLen = 9) :
    co2Values (m.dataCollectionCo2Func r).inc = co2Values m.inc ↔ Repeats r m.inc := by
  have answer : m.answer r = m.receive r.dataValue := by
    rw [Co2Sensor.answer, if_pos (by omega), if_pos nine]
  rw [Co2Sensor.dataCollectionCo2Func, answer, requestCalibration_values, receive_values,
    calibrate_edit, co2Values, Prod.mk.injEq, Prod.mk.injEq, Repeats]
  have corrected : (if m.inc.getVal Reg.carbonDioxideCalibrationStatus ≠ 0 then co2Difference r
      else m.inc.getVal Reg.pEditCo2Value) = m.inc.getVal Reg.pEditCo2Value ↔
      (m.inc.getVal Reg.carbonDioxideCalibrationStatus ≠ 0 →
        m.inc.getVal Reg.pEditCo2Value = co2Difference r) := by
    split
    · rename_i asked
      exact ⟨fun same _ => same.symm, fun same => (same asked).symm⟩
    · rename_i unasked
      exact iff_of_true rfl fun asked => absurd asked unasked
  rw [← corrected]
  constructor
  · intro same
    obtain ⟨value, uncorrected, edit⟩ := same
    refine ⟨edit, ?_⟩
    intro inside
    rw [edit, if_pos inside] at value
    rw [if_pos inside] at uncorrected
    exact ⟨value.symm, uncorrected.symm⟩
  · intro repeats
    obtain ⟨edit, values⟩ := repeats
    refine ⟨?_, ?_, edit⟩
    · rw [edit]
      split
      · rename_i inside
        exact (values inside).1.symm
      · rfl
    · split
      · rename_i inside
        exact (values inside).2.symm
      · rfl

end

/-! ## Whether a corrupt reply is ignored -/

/-- For every reply of nine bytes: if it is corrupt it is ignored exactly if the registers hold its
values already. The checksum itself does make up the sum of any bytes to a multiple of 256. -/
theorem corruptIgnored_iff (r : Reply) (m : Co2Sensor) (nine : r.recvLen = 9) :
    ((r.Corrupt → co2Values (m.dataCollectionCo2Func r).inc = co2Values m.inc) ↔
      (r.Corrupt → Repeats r m.inc)) ∧
    ∀ data : List Byte, (byteSum data + co2Check data) % 256 = 0 :=
  ⟨imp_congr_right fun _ => poll_values nine, co2Check_sum⟩

/-- Nine bytes that are all ones, whose value is out of range. -/
def onesReply : Reply where
  recvLen := 9
  recvBuf _ := 0xff

theorem corruptIgnored_iff_ones : onesReply.Corrupt ∧
    co2Values (Co2Sensor.dataCollectionCo2Func onesReply ⟨cleared, 0, 0⟩).inc =
      co2Values cleared := by
  have corrupt : onesReply.Corrupt := by decide
  exact ⟨corrupt,
    (corruptIgnored_iff onesReply ⟨cleared, 0, 0⟩ rfl).1.mpr (fun _ => by decide +kernel) corrupt⟩

/-- 400 with the right header and a wrong checksum. -/
def corruptReply : Reply where
  recvLen := 9
  recvBuf i := [0xff, 0x86, 0x01, 0x90, 0x00, 0x00, 0x00, 0x00, 0x00].getD i 0

/-- A reply with a wrong checksum becomes the value of the room. -/
theorem corrupt_taken : corruptReply.recvLen = 9 ∧ corruptReply.Corrupt ∧
    co2Values cleared = (0, 0, 0) ∧
    co2Values (Co2Sensor.dataCollectionCo2Func corruptReply ⟨cleared, 0, 0⟩).inc =
      (400, 400, 0) := by
  decide +kernel

end Jincubator
