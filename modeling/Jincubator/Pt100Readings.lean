import Jincubator.Pt100

/-! # Accuracy of the readings

The roundings of a conversion to hundredths add up to less than one of them, so the
last cut moves a whole number of hundredths by one at most. A channel whose
conversions are moderate shows their mean and the correction to within two
hundredths, or marks its sensor when that is no temperature from zero to fifty
degrees.
-/

namespace Jincubator

open Incubator Rounding

/-! ## Roundings -/

section

variable {q : ℚ}

theorem float32_near (small : |q| ≤ 1000000) : |float32 q - q| ≤ 1 / 10 :=
  (abs_roundTo_sub_le_of_abs_le 24 small).trans (by norm_num)

theorem float64_near (small : |q| ≤ 2000) : |float64 q - q| ≤ 1 / 10000 :=
  (abs_roundTo_sub_le_of_abs_le 53 small).trans (by norm_num)

theorem single_near (small : |q| ≤ 2000) : |single q - q| ≤ 1 / 1000 := by
  have double := float64_near small
  have still : |float64 q| ≤ 2001 := by
    obtain ⟨low, high⟩ := abs_le.mp double
    obtain ⟨least, most⟩ := abs_le.mp small
    exact abs_le.mpr ⟨by linarith, by linarith⟩
  have float : |roundTo 24 (float64 q) - float64 q| ≤ 1 / 5000 :=
    (abs_roundTo_sub_le_of_abs_le 24 still).trans (by norm_num)
  calc |single q - q| = |(roundTo 24 (float64 q) - float64 q) + (float64 q - q)| := by
        rw [sub_add_sub_cancel]
        rfl
    _ ≤ |roundTo 24 (float64 q) - float64 q| + |float64 q - q| := abs_add_le _ _
    _ ≤ 1 / 1000 := by linarith

/-- Hundredths that have been degrees are those from before, or one nearer to zero. -/
theorem truncate_hundredths {degrees : ℚ} {n : Int} (near : |degrees - n / 100| ≤ 1 / 250)
    (small : |n| ≤ 100000) :
    truncate (float32 (single degrees * 100)) = n ∨
      truncate (float32 (single degrees * 100)) = n - n.sign := by
  have bound : |(n : ℚ)| ≤ 100000 := by exact_mod_cast small
  obtain ⟨least, most⟩ := abs_le.mp bound
  obtain ⟨low, high⟩ := abs_le.mp near
  have rounded := single_near (q := degrees) (abs_le.mpr ⟨by linarith, by linarith⟩)
  obtain ⟨lower, higher⟩ := abs_le.mp rounded
  have scaled := float32_near (q := single degrees * 100) (abs_le.mpr ⟨by linarith, by linarith⟩)
  obtain ⟨lowest, highest⟩ := abs_le.mp scaled
  exact truncate_near (abs_lt.mpr ⟨by linarith, by linarith⟩)

/-- The correction is given in hundredths, and added in degrees. -/
theorem runAiITp_near {aver : ℚ} {edit : Int} (edited : |edit| ≤ 32768)
    (small : |dTpData aver + edit| ≤ 32767) :
    runAiITp (.finite aver) (single (edit / 100)) = dTpData aver + edit ∨
      runAiITp (.finite aver) (single (edit / 100)) =
        dTpData aver + edit - (dTpData aver + edit).sign := by
  obtain ⟨leastEdit, mostEdit⟩ := abs_le.mp edited
  obtain ⟨leastSum, mostSum⟩ := abs_le.mp small
  have editLow : (-32768 : ℚ) ≤ edit := by exact_mod_cast leastEdit
  have editHigh : (edit : ℚ) ≤ 32768 := by exact_mod_cast mostEdit
  have least : -65535 ≤ dTpData aver := by omega
  have most : dTpData aver ≤ 65535 := by omega
  have averLow : (-65535 : ℚ) ≤ dTpData aver := by exact_mod_cast least
  have averHigh : (dTpData aver : ℚ) ≤ 65535 := by exact_mod_cast most
  have degrees := float64_near (q := dTpData aver / 100) (abs_le.mpr ⟨by linarith, by linarith⟩)
  have correction := single_near (q := edit / 100) (abs_le.mpr ⟨by linarith, by linarith⟩)
  obtain ⟨low, high⟩ := abs_le.mp degrees
  obtain ⟨lower, higher⟩ := abs_le.mp correction
  have near : |float64 (dTpData aver / 100) + single (edit / 100) -
      (dTpData aver + edit : Int) / 100| ≤ 1 / 250 := by
    push_cast
    exact abs_le.mpr ⟨by linarith, by linarith⟩
  have cut := truncate_hundredths near (small.trans (by decide))
  have sign := Int.sign_trichotomy (dTpData aver + edit)
  rw [runAiITp, Value.map_finite, Value.toInt32_finite]
  · exact cut
  · rw [abs_le]
    omega

end

/-! ## Averages -/

/-- Fifteen moderate conversions are added and divided with next to no error. -/
theorem runAiTpAver_near {qs : List ℚ} (full : qs.length = 15) (moderate : ∀ q ∈ qs, |q| ≤ 1000) :
    ∃ aver, runAiTpAver (qs.map .finite) = .finite aver ∧ |aver - qs.sum / 15| ≤ 1 / 1000 := by
  have room : |(0 : ℚ)| + qs.length * (1000 + 20000 * 2 ^ (-((53 : ℕ) : ℤ))) ≤ 20000 := by
    rw [full]
    norm_num
  have bounded := abs_foldl_sub_sum_le 53 moderate room (by norm_num)
  rw [zero_add, full] at bounded
  have added : |qs.foldl (fun sum q => float64 (sum + q)) 0 - qs.sum| ≤ 1 / 1000 :=
    bounded.trans (by norm_num)
  have upper := List.sum_le_card_nsmul qs 1000 fun q mem => (abs_le.mp (moderate q mem)).2
  have lower := List.card_nsmul_le_sum qs (-1000) fun q mem => (abs_le.mp (moderate q mem)).1
  rw [full, nsmul_eq_mul] at upper lower
  have length : (filterLen : ℚ) = 15 := by norm_num [filterLen]
  rw [runAiTpAver, Value.foldl_add_finite, length]
  generalize qs.foldl (fun sum q => float64 (sum + q)) 0 = total at added
  obtain ⟨low, high⟩ := abs_le.mp added
  have divided := float64_near (q := total / 15)
    (abs_le.mpr ⟨by push_cast at lower; linarith, by push_cast at upper; linarith⟩)
  obtain ⟨least, most⟩ := abs_le.mp divided
  exact ⟨_, rfl, abs_le.mpr ⟨by linarith, by linarith⟩⟩

/-- What is printed is within six tenths of a hundredth of the mean. -/
theorem dTpData_near {aver mean : ℚ} (near : |aver - mean| ≤ 1 / 1000) :
    |dTpData aver - mean * 100| ≤ 3 / 5 := by
  obtain ⟨low, high⟩ := abs_le.mp (abs_nearestEven_sub_le (aver * 100))
  obtain ⟨lower, higher⟩ := abs_le.mp near
  rw [dTpData]
  exact abs_le.mpr ⟨by linarith, by linarith⟩

/-! ## What is published -/

/-- The reading of a channel. -/
def reading (i : Fin 6) (s : Incubator) : Int := s.getUval (Reg.rAiTpMain + channelIndex i)

def sensorAlarm (i : Fin 6) (s : Incubator) : Int := s.getVal (Reg.sensor1AbnormalAlarm + i)

def correction (i : Fin 6) (s : Incubator) : Int := s.getVal (Reg.pEditTpMain + channelIndex i)

/-- The sensor is in use: the first two always are, a return-water sensor if its bit is set. -/
def InUse (i : Fin 6) (s : Incubator) : Prop :=
  i.val > 1 → s.reg Reg.refluxTemperature &&& BitVec.ofNat 16 (2 ^ (i.val - 2)) ≠ 0

instance (i : Fin 6) (s : Incubator) : Decidable (InUse i s) :=
  inferInstanceAs (Decidable (_ → _))

/-- The registers of a channel after a poll that came to `hundredths`: a temperature from zero to
fifty degrees stands in them, and any other number marks a sensor in use and drops the
correction. -/
structure Shows (i : Fin 6) (hundredths : Int) (s : Incubator) : Prop where
  temperature : 0 ≤ hundredths ∧ hundredths ≤ 5000 →
    reading i s = hundredths ∧ sensorAlarm i s = off
  abnormal : ¬(0 ≤ hundredths ∧ hundredths ≤ 5000) →
    reading i s = 0xffff ∧ correction i s = 0 ∧ sensorAlarm i s = if InUse i s then on else off

theorem channelIndex_bound (i : Fin 6) : channelIndex i ≤ 7 := by
  rw [channelIndex]
  split <;> omega

/-- A number of hundredths as the word that is compared with fifty degrees. -/
theorem runAoCShm_eq {hundredths : Int} (range : -32767 ≤ hundredths ∧ hundredths ≤ 32767) :
    runAoCShm hundredths = if 0 ≤ hundredths then hundredths else hundredths + 65536 := by
  rw [runAoCShm, if_neg (by omega), ushort_eq]
  split <;> omega

theorem publishReading_shows (i : Fin 6) {hundredths : Int}
    (range : -32767 ≤ hundredths ∧ hundredths ≤ 32767) (s : Incubator) :
    Shows i hundredths (publishReading i (runAoCShm hundredths) s) := by
  have index := channelIndex_bound i
  have alarms : Reg.sensor1AbnormalAlarm = 510 := rfl
  have edits : Reg.pEditTpMain = 108 := rfl
  have readings : Reg.rAiTpMain = 200 := rfl
  have enabled : Reg.refluxTemperature = 84 := rfl
  have word := runAoCShm_eq range
  constructor
  case temperature =>
    intro temperature
    rw [if_pos temperature.1] at word
    have published : publishReading i (runAoCShm hundredths) s =
        (s |> setVal (Reg.sensor1AbnormalAlarm + i) off
          |> setVal (Reg.rAiTpMain + channelIndex i) hundredths) := by
      rw [publishReading, word, if_neg (by omega)]
      rfl
    rw [published, reading, sensorAlarm]
    constructor
    · rw [getUval_setVal_self, ushort_of_range (by omega)]
    · rw [getVal_setVal_of_ne _ _ (by omega), getVal_setVal_self, short_of_range (by decide)]
  case abnormal =>
    intro abnormal
    have above : runAoCShm hundredths > 0x1388 := by
      rw [word]
      split <;> omega
    have published : publishReading i (runAoCShm hundredths) s =
        (s |> setVal (Reg.sensor1AbnormalAlarm + i) (if InUse i s then on else off)
          |> setVal (Reg.pEditTpMain + channelIndex i) 0
          |> setVal (Reg.rAiTpMain + channelIndex i) 0xffff) := by
      rw [publishReading, if_pos above]
      by_cases later : i.val > 1
      · simp only [later, if_true, InUse, forall_const, channelIndex, setUval_eq]
      · simp only [later, if_false, InUse, false_imp_iff, if_true, channelIndex, setUval_eq]
    have used : InUse i (publishReading i (runAoCShm hundredths) s) ↔ InUse i s := by
      rw [published, InUse, reg_setVal_of_ne _ _ (by omega), reg_setVal_of_ne _ _ (by omega),
        reg_setVal_of_ne _ _ (by omega), InUse]
    simp only [used]
    rw [published, reading, sensorAlarm, correction]
    refine ⟨?_, ?_, ?_⟩
    · rw [getUval_setVal_self, ushort_of_range (by decide)]
    · rw [getVal_setVal_of_ne _ _ (by omega), getVal_setVal_self, short_of_range (by decide)]
    · rw [getVal_setVal_of_ne _ _ (by omega), getVal_setVal_of_ne _ _ (by omega),
        getVal_setVal_self]
      split <;> exact short_of_range (by decide)

/-- With moderate conversions a full window shows their mean and the correction to within two
hundredths. -/
theorem publishWindow_shows (i : Fin 6) {qs : List ℚ} (full : qs.length = 15)
    (moderate : ∀ q ∈ qs, |q| ≤ 1000) (s : Incubator)
    (range : |qs.sum / 15 * 100 + correction i s| ≤ 32766) :
    ∃ hundredths : Int, |hundredths - (qs.sum / 15 * 100 + correction i s)| < 2 ∧
      Shows i hundredths (publishWindow i (qs.map .finite) s) := by
  have index := channelIndex_bound i
  have edits : Reg.pEditTpMain = 108 := rfl
  have inits : Reg.rInitAiTpMain = 210 := rfl
  have edited : |correction i s| ≤ 32768 := by
    have word := getVal_range s (Reg.pEditTpMain + channelIndex i)
    exact abs_le.mpr ⟨word.1, by rw [correction]; omega⟩
  obtain ⟨aver, average, near⟩ := runAiTpAver_near full moderate
  obtain ⟨low, high⟩ := abs_le.mp (dTpData_near near)
  obtain ⟨least, most⟩ := abs_le.mp range
  have sum : |dTpData aver + correction i s| ≤ 32767 := by
    have lower : (-32768 : ℚ) < ((dTpData aver + correction i s : Int) : ℚ) := by
      push_cast
      linarith
    have upper : ((dTpData aver + correction i s : Int) : ℚ) < 32768 := by
      push_cast
      linarith
    have lower : -32768 < dTpData aver + correction i s := by exact_mod_cast lower
    have upper : dTpData aver + correction i s < 32768 := by exact_mod_cast upper
    exact abs_le.mpr ⟨by omega, by omega⟩
  have near := runAiITp_near edited sum
  generalize cut : runAiITp (.finite aver) (single (correction i s / 100)) = hundredths at near
  have step : |hundredths - (dTpData aver + correction i s)| ≤ 1 ∧
      -32767 ≤ hundredths ∧ hundredths ≤ 32767 := by
    generalize dTpData aver + correction i s = n at near sum
    obtain ⟨least, most⟩ := abs_le.mp sum
    rw [abs_le]
    rcases lt_trichotomy n 0 with neg | rfl | pos
    · rw [Int.sign_eq_neg_one_of_neg neg] at near
      omega
    · rw [Int.sign_zero] at near
      omega
    · rw [Int.sign_eq_one_of_pos pos] at near
      omega
  have moved : |(hundredths : ℚ) - (dTpData aver + correction i s)| ≤ 1 := by
    exact_mod_cast step.1
  obtain ⟨lower, upper⟩ := abs_le.mp moved
  refine ⟨hundredths, abs_lt.mpr ⟨by linarith, by linarith⟩, ?_⟩
  have published : publishWindow i (qs.map .finite) s = publishReading i (runAoCShm hundredths)
      (setUval (Reg.rInitAiTpMain + channelIndex i) (runAiITpInit (.finite aver)) s) := by
    rw [publishWindow, average, getFval, setUval_eq, getVal_setVal_of_ne _ _ (by omega), ← cut]
    rfl
  rw [published]
  exact publishReading_shows i step.2 _

/-! ## Equal channel values -/

/-- A conversion is a number if the two channel values of the calibration differ. -/
theorem runAiTpVal_isFinite (i : Fin 6) (runAiCTp : Int) (s : Incubator) :
    (runAiTpVal i runAiCTp s).IsFinite ↔
      s.getUval (Reg.pPt1Ao1 + i * 5 + 2) ≠ s.getUval (Reg.pPt1Ao1 + i * 5 + 3) := by
  simp only [runAiTpVal, Value.isFinite_map, Value.isFinite_quotient, ne_eq, Int.cast_eq_zero,
    sub_eq_zero]
  exact not_congr eq_comm

/-- What is no number is zero once it is a word. -/
theorem runAoCShm_broken {aver : Value} (broken : ¬aver.IsFinite) (correction : ℚ) :
    runAoCShm (runAiITp aver correction) = 0 := by
  cases aver with
  | finite q => exact absurd ⟨q, rfl⟩ broken
  | infinite negative => cases negative <;> rfl
  | nan => rfl

/-- A window with a conversion that is no number shows zero, without an alarm. -/
theorem publishWindow_broken (i : Fin 6) {data : List Value} (broken : ∃ v ∈ data, ¬v.IsFinite)
    (s : Incubator) : Shows i 0 (publishWindow i data s) := by
  have average : ¬(runAiTpAver data).IsFinite := by
    rw [runAiTpAver, Value.isFinite_map]
    intro finite
    obtain ⟨v, mem, infinite⟩ := broken
    exact infinite ((Value.isFinite_foldl_add finite).2 v mem)
  have zero : runAoCShm 0 = 0 := rfl
  rw [publishWindow, runAoCShm_broken average, ← zero]
  exact publishReading_shows i (by decide) _

/-! ## Polls -/

theorem pollChannel_length (i : Fin 6) (m : Pt100History) :
    ((m.pollChannel i).values i).length = (m.values i).length + 1 := by
  simp [Pt100History.pollChannel]

theorem pollChannel_inc (i : Fin 6) (m : Pt100History) : (m.pollChannel i).inc =
    if 15 ≤ ((m.pollChannel i).values i).length then
      publishWindow i (((m.pollChannel i).values i).rtake 15) m.inc
    else m.inc := by
  simp [Pt100History.pollChannel]

theorem published_window (i : Fin 6) (m : Pt100History) (full : 14 ≤ (m.values i).length) :
    (m.thread.pollChannel i).inc =
      publishWindow i (((m.pollChannel i).values i).rtake 15) m.inc := by
  have length := pollChannel_length i m
  rw [← Pt100History.thread_pollChannel, Pt100History.thread, pollChannel_inc, if_pos (by omega)]

/-- From its fifteenth poll on a channel shows zero while one of its last fifteen conversions was
made with equal channel values. -/
theorem reading_broken (i : Fin 6) (m : Pt100History) (full : 14 ≤ (m.values i).length)
    (broken : ∃ v ∈ ((m.pollChannel i).values i).rtake 15, ¬v.IsFinite) :
    Shows i 0 (m.thread.pollChannel i).inc := by
  rw [published_window i m full]
  exact publishWindow_broken i broken m.inc

/-- From its fifteenth poll on a channel whose last fifteen conversions are moderate numbers shows
their mean and the correction to within two hundredths, or an abnormal sensor. -/
theorem reading_accurate (i : Fin 6) (m : Pt100History) (full : 14 ≤ (m.values i).length)
    (qs : List ℚ) (numbers : ((m.pollChannel i).values i).rtake 15 = qs.map .finite)
    (moderate : ∀ q ∈ qs, |q| ≤ 1000)
    (range : |qs.sum / 15 * 100 + correction i m.inc| ≤ 32766) :
    ∃ hundredths : Int, |hundredths - (qs.sum / 15 * 100 + correction i m.inc)| < 2 ∧
      Shows i hundredths (m.thread.pollChannel i).inc := by
  have length := pollChannel_length i m
  have last : qs.length = 15 := by
    rw [← List.length_map (f := Value.finite), ← numbers, Window.length_rtake, length]
    omega
  rw [published_window i m full, numbers]
  exact publishWindow_shows i last moderate m.inc range

/-- A calibration of the first channel, and fourteen conversions to 37.5 degrees. -/
def fourteenPolls : Pt100History where
  inc := setVal (Reg.pPt1Ao1 + 3) 1 cleared
  oid _ := 0
  values _ := List.replicate 14 (.finite (75 / 2))

/-- The last of the fifteen conversions is zero. -/
def fifteenValues : List ℚ := List.replicate 14 (75 / 2) ++ [0]

theorem fourteenPolls_values :
    ((fourteenPolls.pollChannel 0).values 0).rtake 15 = fifteenValues.map .finite := by
  have sample : fourteenPolls.inc.getUval Reg.ptAi1 = 0 := by decide +kernel
  have low : fourteenPolls.inc.getVal Reg.pPt1Ao1 = 0 := by decide +kernel
  have high : fourteenPolls.inc.getVal (Reg.pPt1Ao1 + 1) = 0 := by decide +kernel
  have channelLow : fourteenPolls.inc.getUval (Reg.pPt1Ao1 + 2) = 0 := by decide +kernel
  have channelHigh : fourteenPolls.inc.getUval (Reg.pPt1Ao1 + 3) = 1 := by decide +kernel
  have offset : fourteenPolls.inc.getUval (Reg.pPt1Ao1 + 4) = 0 := by decide +kernel
  have converted : runAiTpVal 0 0 fourteenPolls.inc = .finite 0 := by
    simp [runAiTpVal, getFval, low, high, channelLow, channelHigh, offset, float32,
      Value.quotient]
  have values : (fourteenPolls.pollChannel 0).values 0 = fifteenValues.map .finite := by
    have filling : (fourteenPolls.values 0).length < 15 := by decide
    simp only [Pt100History.pollChannel, Function.update_self, if_pos filling, fifteenValues,
      List.map_append, List.map_replicate]
    exact congrArg (List.replicate 14 (Value.finite (75 / 2)) ++ [·])
      ((congrArg (runAiTpVal 0 · fourteenPolls.inc) sample).trans converted)
  rw [values]
  rfl

theorem reading_accurate_fifteenth : ∃ hundredths : Int,
    |hundredths - (fifteenValues.sum / 15 * 100 + correction 0 fourteenPolls.inc)| < 2 ∧
      Shows 0 hundredths (fourteenPolls.thread.pollChannel 0).inc := by
  refine reading_accurate 0 fourteenPolls (by decide) fifteenValues fourteenPolls_values ?_ ?_
  · rw [fifteenValues]
    norm_num
  · have uncorrected : correction 0 fourteenPolls.inc = 0 := by decide +kernel
    rw [uncorrected, fifteenValues]
    norm_num

end Jincubator
