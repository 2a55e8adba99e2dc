import Jincubator.AlarmThread

/-! # Sensor faults

A round adds up the alarms of the sensors, one bit for each, and a sum that is
not zero lights a lamp and sounds. The alarms of disabled return-water channels
are cleared above and left out of the sum. The sum tests a wrong bit for the
third channel, so that its fault is left out while the first two are disabled.
-/

namespace Jincubator

open Incubator

/-- A sensor word and its bit of the sum. -/
def mainSensors : List (Nat × Nat) :=
  [(Reg.sensor1AbnormalAlarm, 0), (Reg.sensor2AbnormalAlarm, 1), (Reg.sensorCo2Alarm, 6)]

/-- A return-water channel, the bit of its sensor and the channels that the sum looks at for it. -/
structure ReturnSensor where
  channel : ReturnAlarm
  bit : Nat
  tested : Word

def returnSensors : List ReturnSensor :=
  [⟨returnAlarm1, 2, 0x01⟩, ⟨returnAlarm2, 3, 0x02⟩, ⟨returnAlarm3, 4, 0x03⟩,
    ⟨returnAlarm4, 5, 0x08⟩]

/-- The bit of a sensor is set. -/
def TotalBit (bit : Nat) (s : Incubator) : Prop :=
  s.getUval Reg.alarmPt100Total / 2 ^ bit % 2 = 1

instance (bit : Nat) (s : Incubator) : Decidable (TotalBit bit s) :=
  inferInstanceAs (Decidable (_ = _))

/-- The bit is set, the lamp is on and the alarm sounds. -/
def FaultShown (bit : Nat) (s : Incubator) : Prop :=
  TotalBit bit s ∧ s.getVal Reg.outStSensorAbnormalAlarm = on ∧
    s.reg Reg.alarmModule &&& 0x04 ≠ 0

instance (bit : Nat) (s : Incubator) : Decidable (FaultShown bit s) :=
  inferInstanceAs (Decidable (_ ∧ _ ∧ _))

/-- What is wrong after the return-water part is shown at the end of the round, and no disabled
channel is. -/
structure FaultsReported (s t : Incubator) : Prop where
  main : ∀ row ∈ mainSensors, s.getVal row.1 = on → FaultShown row.2 t
  returned : ∀ row ∈ returnSensors, row.channel.Enabled s →
    s.getVal row.channel.sensor = on → FaultShown row.bit t
  disabled : ∀ row ∈ returnSensors, TotalBit row.bit t → row.channel.Enabled s

/-- A fan with an inverter disables the channel of a fault in the round itself, or the fault is on
the third channel and the first two are disabled. -/
def FaultHidden (s : Incubator) : Prop :=
  (s.fanStatus = 1 ∧ ∃ row ∈ returnSensors,
      row.channel.Enabled s ∧ s.getVal row.channel.sensor = on) ∨
    returnAlarm3.Enabled s ∧ s.getVal returnAlarm3.sensor = on ∧ ¬returnAlarm1.Enabled s ∧
      ¬returnAlarm2.Enabled s

instance (s : Incubator) : Decidable (FaultHidden s) := inferInstanceAs (Decidable (_ ∨ _))

/-! ## Words that are 0 or 1 -/

/-- The words of the sensors and the lamps that a round does not set anew. -/
def alarmWords : List Nat :=
  [Reg.sensor1AbnormalAlarm, Reg.sensor2AbnormalAlarm, Reg.sensor3AbnormalAlarm,
    Reg.sensor4AbnormalAlarm, Reg.sensor5AbnormalAlarm, Reg.sensor6AbnormalAlarm,
    Reg.sensorCo2Alarm, Reg.carbonDioxideWarningLight, Reg.outStEggAlarm, Reg.outStTpHighAlarm,
    Reg.outStTpLowAlarm, Reg.outStHmHighAlarm, Reg.outStHmLowAlarm, Reg.outStRefTempAlarm,
    Reg.outStCo2Alarm, Reg.outStFanAlarm]

def Binary (s : Incubator) : Prop := ∀ i ∈ alarmWords, s.getVal i = off ∨ s.getVal i = on

instance (s : Incubator) : Decidable (Binary s) := inferInstanceAs (Decidable (∀ _ ∈ _, _))

namespace Binary

variable {s t : Incubator} {i : Nat} {v : Int}

theorem within {writes : List Nat} (st : Within writes s t)
    (untouched : ∀ i ∈ alarmWords, i ∉ writes) (binary : Binary s) : Binary t := by
  intro i mem
  rw [st.getVal (untouched i mem)]
  exact binary i mem

/-- A register that is no alarm word takes any value. -/
theorem outside (binary : Binary s) (free : i ∉ alarmWords) : Binary (setVal i v s) := by
  refine binary.within (put_within s i _) ?_
  intro j mem same
  rw [List.mem_singleton.mp same] at mem
  exact free mem

theorem setVal (binary : Binary s) (word : v = off ∨ v = on) : Binary (setVal i v s) := by
  intro j mem
  by_cases same : j = i
  · rw [same, getVal_setVal_self]
    rcases word with rfl | rfl
    · exact Or.inl (by decide)
    · exact Or.inr (by decide)
  · rw [getVal_setVal_of_ne _ _ same]
    exact binary j mem

theorem setOn (binary : Binary s) (i : Nat) : Binary (Incubator.setVal i on s) :=
  binary.setVal (Or.inr rfl)

theorem setOff (binary : Binary s) (i : Nat) : Binary (Incubator.setVal i off s) :=
  binary.setVal (Or.inl rfl)

theorem ite {c : Prop} [Decidable c] (yes : Binary s) (no : Binary t) :
    Binary (if c then s else t) := by
  split
  · exact yes
  · exact no

theorem raiseOn (binary : Binary s) (lamp status : Nat) : Binary (raiseAlarm lamp status on s) :=
  (binary.setOn lamp).setOn status

theorem raiseOff (binary : Binary s) (lamp status : Nat) :
    Binary (raiseAlarm lamp status off s) :=
  (binary.setOff lamp).setOff status

/-! ### The sections of a round -/

theorem tempAlarm (binary : Binary s) : Binary (tempAlarm s) := by
  have limits := binary.within (tempUpdateParaData_within s) (by decide)
  rw [Jincubator.tempAlarm, lowTempAlarm_eq, highTempAlarm_eq]
  refine Hysteresis.round_keeps (fun _ b => b.raiseOn _ _) (fun _ b => b.raiseOff _ _) ?_
  exact Hysteresis.round_keeps (fun _ b => b.raiseOn _ _) (fun _ b => b.raiseOff _ _) limits

theorem highHumiAlarm (binary : Binary s) : Binary (highHumiAlarm s) := by
  obtain ⟨t, raised, round⟩ : ∃ t, Binary t ∧ Jincubator.highHumiAlarm s =
      if t.getVal Reg.rAiHm < t.getVal Reg.highHumiAlarmValue then
        t |> Incubator.setVal Reg.highHumidityAlarmDelayStatus off
          |> raiseAlarm Reg.outStHmHighAlarm Reg.highHumiAlarmStatus off
      else t := by
    refine ⟨_, ?_, rfl⟩
    have delayed := (binary.outside (i := Reg.highHumidityAlarmDelayTime)
      (v := s.getVal Reg.pHh11 * 60) (by decide)).setOn Reg.highHumidityAlarmDelayStatus
    exact ite (ite delayed (ite (binary.raiseOn _ _) (binary.raiseOff _ _))) binary
  rw [round]
  exact ite ((raised.setOff _).raiseOff _ _) raised

theorem lowHumiAlarm (binary : Binary s) : Binary (lowHumiAlarm s) := by
  rw [lowHumiAlarm_eq]
  exact Hysteresis.round_keeps (fun _ b => b.raiseOn _ _) (fun _ b => b.raiseOff _ _) binary

theorem returnAlarm (binary : Binary s) (c : ReturnAlarm) : Binary (c.round s) := by
  refine ite ?_ (((binary.setOff _).setOff _).setOff _)
  rw [ReturnAlarm.lowAlarm_eq, ReturnAlarm.highAlarm_eq]
  refine Hysteresis.round_keeps (fun _ b => b.setOn _) (fun _ b => b.setOff _) ?_
  exact Hysteresis.round_keeps (fun _ b => b.setOn _) (fun _ b => b.setOff _) binary

theorem alarmSections (binary : Binary s) : Binary (alarmSections s) :=
  (((((binary.tempAlarm.highHumiAlarm.lowHumiAlarm).returnAlarm returnAlarm1).returnAlarm
    returnAlarm2).returnAlarm returnAlarm3).returnAlarm returnAlarm4)

theorem eggAlarm (binary : Binary s) : Binary (eggAlarm s) := by
  rw [Jincubator.eggAlarm]
  split
  · refine outside (ite ?_ (ite (binary.setOn _) (binary.setOff _))) (by decide)
    exact outside (outside binary (by decide)) (by decide)
  · refine outside (setOn (ite ?_ binary) _) (by decide)
    exact outside (outside binary (by decide)) (by decide)

theorem co2Alarm (binary : Binary s) : Binary (co2Alarm s) := by
  have lit {t : Incubator} (kept : Binary t) : Binary (co2Lamps on t) := (kept.setOn _).setOn _
  have dark {t : Incubator} (kept : Binary t) : Binary (co2Lamps off t) :=
    (kept.setOff _).setOff _
  have raised {c : Prop} [Decidable c] : Binary (if c then co2Lamps on s else s) :=
    ite (lit binary) binary
  rw [Jincubator.co2Alarm]
  exact ite (ite (dark raised) raised) (dark binary)

end Binary

namespace AlarmThread

variable {m : AlarmThread}

theorem returnTimes_binary (binary : Binary m.inc) (high low : Int) :
    Binary (m.returnTimes high low).inc := by
  rw [returnTimes]
  split
  · simp only
    split
    · split
      · exact (binary.outside (by decide)).outside (by decide)
      · exact binary.outside (by decide)
    · split
      · exact binary.outside (by decide)
      · exact binary
  · exact binary

theorem returnLamp_binary (binary : Binary m.inc) (high low : Int) :
    Binary (m.returnLamp high low).inc := by
  have sums := ((binary.outside (i := Reg.returnTempHighTempAlarmStatus) (v := high)
    (by decide)).outside (i := Reg.returnTempLowTempAlarmStatus) (v := low) (by decide)).outside
    (i := Reg.returnTempTotalTempAlarmStatus) (v := high + low) (by decide)
  rw [returnLamp]
  split
  · have times := returnTimes_binary (m := { m with inc := _ }) sums high low
    have raised {c : Prop} [Decidable c] {t : Incubator} (kept : Binary t) :
        Binary (if c then setVal Reg.outStRefTempAlarm on t else t) :=
      Binary.ite (kept.setOn _) kept
    exact raised (raised times)
  · exact ((sums.setOff _).outside (by decide)).outside (by decide)

theorem door_binary (binary : Binary m.inc) (v : Int) : Binary (m.door v).inc :=
  binary.outside (by decide)

theorem fanRuns_binary (binary : Binary m.inc) : Binary m.fanRuns.inc :=
  (binary.outside (by decide)).setOff _

theorem fanWaits_binary (binary : Binary m.inc) : Binary m.fanWaits.inc := by
  rw [fanWaits]
  split
  · exact binary.outside (by decide)
  · exact binary

theorem fanSupplied_binary (binary : Binary m.inc) : Binary m.fanSupplied.inc := by
  rw [fanSupplied]
  split
  · split
    · exact fanRuns_binary (door_binary binary _)
    · exact (door_binary binary _).setOn _
  · exact door_binary (fanRuns_binary binary) _

theorem fanAlarm_binary (binary : Binary m.inc) : Binary m.fanAlarm.inc := by
  rw [fanAlarm]
  split
  · have supplied : Binary m.fanSupplied.inc := fanSupplied_binary binary
    simp only
    split
    · split
      · exact fanWaits_binary supplied
      · exact (supplied.setOn _).outside (by decide)
    · exact supplied
  · have stopped : Binary ((m.onInc (setUval Reg.outStFanAlarm on)).door off).inc :=
      door_binary (m := m.onInc (setUval Reg.outStFanAlarm on)) (binary.setOn _) off
    simp only
    split
    · exact fanWaits_binary stopped
    · exact stopped.outside (by decide)

/-- The door is never counted negatively. -/
theorem fanAlarm_door (m : AlarmThread) : 0 ≤ m.fanAlarm.alarmDoorSwitch := by
  have waits (m : AlarmThread) : m.fanWaits.alarmDoorSwitch = m.alarmDoorSwitch := by
    rw [fanWaits]
    split <;> rfl
  have supplied : 0 ≤ m.fanSupplied.alarmDoorSwitch := by
    rw [fanSupplied]
    split
    · split
      · show 0 ≤ if m.inc.getVal Reg.detectDoorSwitch = off then on else off
        split <;> decide
      · exact le_refl 0
    · exact le_refl 0
  rw [fanAlarm]
  split
  · simp only
    split
    · split
      · rw [waits]
        exact supplied
      · exact supplied
    · exact supplied
  · simp only
    split
    · rw [waits]
      exact le_refl 0
    · exact le_refl 0

theorem otherLamps_binary (binary : Binary m.inc) (high low : Int) :
    Binary (m.otherLamps high low).inc := by
  have disabled {s : Incubator} (kept : Binary s) : Binary (fanDisables s) :=
    Binary.ite (kept.outside (by decide)) kept
  exact fanAlarm_binary (m := (m.returnLamp high low).onInc fun s =>
    s |> eggAlarm |> co2Alarm |> fanDisables)
    (disabled (returnLamp_binary binary high low).eggAlarm.co2Alarm)

/-- A fan with an inverter disables all channels before the sensors are added up. -/
theorem otherLamps_reflux (high low : Int) (m : AlarmThread) :
    (m.otherLamps high low).inc.reg Reg.refluxTemperature =
      if m.inc.fanStatus = 1 then 0 else m.inc.reg Reg.refluxTemperature := by
  have lamp := returnLamp_within high low m
  have egg := eggAlarm_within (m.returnLamp high low).inc
  have co2 := co2Alarm_within (eggAlarm (m.returnLamp high low).inc)
  have fan := fanAlarm_within ((m.returnLamp high low).onInc fun s =>
    s |> eggAlarm |> co2Alarm |> fanDisables)
  have status : (co2Alarm (eggAlarm (m.returnLamp high low).inc)).fanStatus =
      m.inc.fanStatus := by
    rw [co2.fanStatus, egg.fanStatus, lamp.fanStatus]
  have mask : (co2Alarm (eggAlarm (m.returnLamp high low).inc)).reg Reg.refluxTemperature =
      m.inc.reg Reg.refluxTemperature := by
    rw [co2.reg (by decide), egg.reg (by decide), lamp.reg (by decide)]
  rw [otherLamps, fan.reg (by decide)]
  show (fanDisables (co2Alarm (eggAlarm (m.returnLamp high low).inc))).reg _ = _
  rw [fanDisables, status]
  split
  · rw [setUval_eq, reg_setVal_self]
    rfl
  · exact mask

end AlarmThread

/-! ## Bits -/

/-- The lamp of the sensors sounds while no lamp is negative. -/
theorem usTempMode_sensor {m : AlarmThread} {high low : Int}
    (lit : m.inc.getVal Reg.outStSensorAbnormalAlarm > 0)
    (shines : lampSum m.inc + m.alarmDoorSwitch > 0) :
    m.usTempMode high low &&& 0x04 ≠ 0 := by
  rw [AlarmThread.usTempMode]
  simp only [if_pos shines]
  rw [flag_other (by decide) (by decide), flag_other (by decide) (by decide),
    flag_other (by decide) (by decide), flag_other (by decide) (by decide),
    flag_other (by decide) (by decide), flag_self lit]
  decide

/-- The bits of the first and the second channel. -/
theorem mask_three (w : Word) : w &&& 0x03 ≠ 0 ↔ w &&& 0x01 ≠ 0 ∨ w &&& 0x02 ≠ 0 := by
  have three : (0x03 : Word) = 0x01 ||| 0x02 := by decide
  rw [three, BitVec.and_or_distrib_left, Ne, Ne, Ne, ← not_and_or, not_iff_not]
  exact BitVec.or_eq_zero_iff

/-- The digits of a sum of nine of them. -/
theorem ushort_bits {x : Nat → Int} (digit : ∀ k < 9, 0 ≤ x k ∧ x k ≤ 1) :
    ∀ k < 9, ushort (x 0 + x 1 * 2 + x 2 * 4 + x 3 * 8 + x 4 * 16 + x 5 * 32 + x 6 * 64 +
      x 7 * 128 + x 8 * 256) / 2 ^ k % 2 = x k := by
  have x0 := digit 0 (by decide)
  have x1 := digit 1 (by decide)
  have x2 := digit 2 (by decide)
  have x3 := digit 3 (by decide)
  have x4 := digit 4 (by decide)
  have x5 := digit 5 (by decide)
  have x6 := digit 6 (by decide)
  have x7 := digit 7 (by decide)
  have x8 := digit 8 (by decide)
  rw [ushort_of_range (by omega)]
  intro k small
  interval_cases k <;> omega

/-- What each bit of the sum is taken from. -/
def sensorDigit (s : Incubator) : Nat → Int
  | 0 => s.getVal Reg.sensor1AbnormalAlarm
  | 1 => s.getVal Reg.sensor2AbnormalAlarm
  | 2 => if s.reg Reg.refluxTemperature &&& 0x01 ≠ 0 then s.getVal Reg.sensor3AbnormalAlarm else 0
  | 3 => if s.reg Reg.refluxTemperature &&& 0x02 ≠ 0 then s.getVal Reg.sensor4AbnormalAlarm else 0
  | 4 => if s.reg Reg.refluxTemperature &&& 0x03 ≠ 0 then s.getVal Reg.sensor5AbnormalAlarm else 0
  | 5 => if s.reg Reg.refluxTemperature &&& 0x08 ≠ 0 then s.getVal Reg.sensor6AbnormalAlarm else 0
  | 6 => s.getVal Reg.sensorCo2Alarm
  | 7 => if s.getVal Reg.sensorMutationStatus = on then on else off
  | _ => s.getVal Reg.carbonDioxideWarningLight

section

variable {s : Incubator}

theorem sensorDigit_range (binary : Binary s) :
    ∀ k < 9, 0 ≤ sensorDigit s k ∧ sensorDigit s k ≤ 1 := by
  have word {i : Nat} (mem : i ∈ alarmWords) : 0 ≤ s.getVal i ∧ s.getVal i ≤ 1 := by
    cases binary i mem with
    | inl zero =>
        rw [zero]
        decide
    | inr one =>
        rw [one]
        decide
  have masked {c : Prop} [Decidable c] {i : Nat} (mem : i ∈ alarmWords) :
      0 ≤ (if c then s.getVal i else 0) ∧ (if c then s.getVal i else 0) ≤ 1 := by
    split
    · exact word mem
    · decide
  intro k small
  match k with
  | 0 => exact word (by decide)
  | 1 => exact word (by decide)
  | 2 => exact masked (by decide)
  | 3 => exact masked (by decide)
  | 4 => exact masked (by decide)
  | 5 => exact masked (by decide)
  | 6 => exact word (by decide)
  | 7 =>
      show 0 ≤ (if _ then on else off) ∧ (if _ then on else off) ≤ 1
      split <;> decide
  | k + 8 => exact word (by decide)

theorem statusRefTempAlarm_bit (binary : Binary s) {k : Nat} (small : k < 9) :
    statusRefTempAlarm s / 2 ^ k % 2 = sensorDigit s k := by
  have digits : statusRefTempAlarm s = ushort (sensorDigit s 0 + sensorDigit s 1 * 2 +
      sensorDigit s 2 * 4 + sensorDigit s 3 * 8 + sensorDigit s 4 * 16 + sensorDigit s 5 * 32 +
      sensorDigit s 6 * 64 + sensorDigit s 7 * 128 + sensorDigit s 8 * 256) := by
    simp only [statusRefTempAlarm, sensorDigit, ite_mul, zero_mul]
  rw [digits]
  exact ushort_bits (sensorDigit_range binary) k small

end

/-! ## The end of a round -/

section

variable {s : Incubator} {m : AlarmThread}

theorem beforeSum_binary (binary : Binary m.inc) : Binary (beforeSum m).inc :=
  AlarmThread.otherLamps_binary (m := m.onInc alarmSections) binary.alarmSections _ _

theorem totalBit_iff (binary : Binary m.inc) {k : Nat} (small : k < 9) :
    TotalBit k m.threadAlarmFunc.inc ↔ sensorDigit (beforeSum m).inc k = 1 := by
  have total : m.threadAlarmFunc.inc.getUval Reg.alarmPt100Total =
      statusRefTempAlarm (beforeSum m).inc := by
    have after := soundAlarm_within (((beforeSum m).onInc sensorLamp).usTempMode
      (refTempModeHigh (alarmSections m.inc)) (refTempModeLow (alarmSections m.inc)))
      (sensorLamp (beforeSum m).inc)
    rw [threadAlarmFunc_eq]
    refine (after.getUval (by decide)).trans ?_
    rw [sensorLamp, setUval_eq, getUval_setVal_of_ne _ _ (by decide), setUval_eq,
      getUval_setVal_self, statusRefTempAlarm, ushort_eq, ushort_eq, Int.emod_emod]
  rw [TotalBit, total, statusRefTempAlarm_bit (beforeSum_binary binary) small]

theorem lampSum_sensor (binary : Binary s) (lit : statusRefTempAlarm s > 0) :
    (sensorLamp s).getVal Reg.outStSensorAbnormalAlarm = on ∧ lampSum (sensorLamp s) > 0 := by
  have shines : (sensorLamp s).getVal Reg.outStSensorAbnormalAlarm = on := by
    rw [sensorLamp, setUval_eq, getVal_setVal_self, if_pos lit]
    decide
  have words := binary.within (sensorLamp_within s) (by decide)
  have word {i : Nat} (mem : i ∈ alarmWords) : 0 ≤ (sensorLamp s).getVal i := by
    cases words i mem with
    | inl zero =>
        rw [zero]
    | inr one =>
        rw [one]
        decide
  refine ⟨shines, ?_⟩
  have egg := word (i := Reg.outStEggAlarm) (by decide)
  have tempHigh := word (i := Reg.outStTpHighAlarm) (by decide)
  have tempLow := word (i := Reg.outStTpLowAlarm) (by decide)
  have humiHigh := word (i := Reg.outStHmHighAlarm) (by decide)
  have humiLow := word (i := Reg.outStHmLowAlarm) (by decide)
  have reflux := word (i := Reg.outStRefTempAlarm) (by decide)
  have co2 := word (i := Reg.outStCo2Alarm) (by decide)
  have fan := word (i := Reg.outStFanAlarm) (by decide)
  rw [lampSum, shines]
  unfold on
  omega

/-- A set bit is shown by the lamp and sounds. -/
theorem faultShown_iff (binary : Binary m.inc) {k : Nat} (small : k < 9) :
    FaultShown k m.threadAlarmFunc.inc ↔ sensorDigit (beforeSum m).inc k = 1 := by
  rw [FaultShown, totalBit_iff binary small]
  refine and_iff_left_of_imp ?_
  intro set
  have bit := statusRefTempAlarm_bit (beforeSum_binary binary) small
  have lit : statusRefTempAlarm (beforeSum m).inc > 0 := by
    have total : 0 ≤ statusRefTempAlarm (beforeSum m).inc := Int.natCast_nonneg _
    have other : statusRefTempAlarm (beforeSum m).inc ≠ 0 := by
      intro zero
      rw [zero, set] at bit
      exact absurd bit (by simp)
    omega
  obtain ⟨shines, sum⟩ := lampSum_sensor (beforeSum_binary binary) lit
  have door : 0 ≤ (beforeSum m).alarmDoorSwitch := AlarmThread.fanAlarm_door _
  rw [threadAlarmFunc_eq]
  refine ⟨((soundAlarm_within _ _).getVal (by decide)).trans shines, ?_⟩
  show (soundAlarm _ _).reg Reg.alarmModule &&& 0x04 ≠ 0
  rw [soundAlarm_module]
  refine usTempMode_sensor ?_ ?_
  · show (sensorLamp (beforeSum m).inc).getVal Reg.outStSensorAbnormalAlarm > 0
    rw [shines]
    decide
  · show lampSum (sensorLamp (beforeSum m).inc) + (beforeSum m).alarmDoorSwitch > 0
    omega

end

/-! ## Which faults are shown -/

section

variable {s : Incubator} {c : ReturnAlarm}

/-- A round leaves the sensor of an enabled channel alone and clears that of a disabled one. -/
theorem ReturnAlarm.round_sensor (apart : c.sensor ≠ c.highStatus ∧ c.sensor ≠ c.lowStatus) :
    (c.round s).getVal c.sensor = if c.Enabled s then s.getVal c.sensor else off := by
  rw [ReturnAlarm.round]
  split
  · rw [(c.lowAlarm_within _).getVal (by simpa using apart.2),
      (c.highAlarm_within s).getVal (by simpa using apart.1)]
  · rw [getVal_setVal_self]
    decide

theorem Enabled_within {writes : List Nat} {t : Incubator} (st : Within writes s t)
    (untouched : Reg.refluxTemperature ∉ writes) : c.Enabled t ↔ c.Enabled s := by
  rw [ReturnAlarm.Enabled, ReturnAlarm.Enabled, st.reg untouched]

theorem alarmSections_sensor (mem : c ∈ returnAlarms) :
    (alarmSections s).getVal c.sensor = if c.Enabled s then s.getVal c.sensor else off := by
  have separate : ∀ c ∈ returnAlarms, (c.sensor ≠ c.highStatus ∧ c.sensor ≠ c.lowStatus) ∧
      c.sensor ∉ tempAlarmWrites ∧ c.sensor ∉ c.besides ∧ Reg.refluxTemperature ∉ c.besides := by
    decide
  obtain ⟨apart, temp, besides, mask⟩ := separate c mem
  obtain ⟨t, before, behind⟩ := alarmSections_channel mem s
  have limits := tempAlarm_within s
  rw [behind.getVal besides, ReturnAlarm.round_sensor apart, before.getVal besides,
    limits.getVal temp]
  simp only [Enabled_within before mask, Enabled_within limits (by decide)]

/-- The sections change neither the channels nor the kind of the fan. -/
theorem alarmSections_reflux (s : Incubator) :
    (alarmSections s).reg Reg.refluxTemperature = s.reg Reg.refluxTemperature ∧
      (alarmSections s).fanStatus = s.fanStatus := by
  have first : returnAlarm1 ∈ returnAlarms := List.mem_cons_self
  obtain ⟨t, before, behind⟩ := alarmSections_channel first s
  have part := returnAlarm1.round_within t
  have temp := tempAlarm_within s
  refine ⟨?_, ?_⟩
  · rw [behind.reg (by decide), part.reg (by decide), before.reg (by decide),
      temp.reg (by decide)]
  · rw [behind.fanStatus, part.fanStatus, before.fanStatus, temp.fanStatus]

end

section

variable {m : AlarmThread}

/-- The sum is taken over the enabled channels, and over none with an inverter. -/
theorem beforeSum_mask (m : AlarmThread) (mask : Word) :
    (beforeSum m).inc.reg Reg.refluxTemperature &&& mask ≠ 0 ↔
      ¬m.inc.fanStatus = 1 ∧ m.inc.reg Reg.refluxTemperature &&& mask ≠ 0 := by
  obtain ⟨reflux, fan⟩ := alarmSections_reflux m.inc
  have sum := AlarmThread.otherLamps_reflux (refTempModeHigh (alarmSections m.inc))
    (refTempModeLow (alarmSections m.inc)) (m.onInc alarmSections)
  change (beforeSum m).inc.reg Reg.refluxTemperature =
    if (alarmSections m.inc).fanStatus = 1 then 0
    else (alarmSections m.inc).reg Reg.refluxTemperature at sum
  rw [sum, fan, reflux]
  split
  · next inverter =>
    exact iff_of_false (fun some => some BitVec.zero_and) fun both => both.1 inverter
  · next other => exact (and_iff_right other).symm

/-- The digit of a channel. -/
theorem masked_digit {c : Prop} [Decidable c] (v : Int) :
    (if c then v else 0) = 1 ↔ c ∧ v = on := by
  split
  · next holds => exact (and_iff_right holds).symm
  · next fails => exact iff_of_false (by decide) fun both => fails both.1

/-- A channel is shown if it is enabled and faulty, no inverter has disabled it, and the sum looks
at a channel that is enabled. -/
theorem channel_shown (binary : Binary m.inc) {row : ReturnSensor} (mem : row ∈ returnSensors) :
    FaultShown row.bit m.threadAlarmFunc.inc ↔
      (¬m.inc.fanStatus = 1 ∧ m.inc.reg Reg.refluxTemperature &&& row.tested ≠ 0) ∧
        row.channel.Enabled m.inc ∧ m.inc.getVal row.channel.sensor = on := by
  have rows : ∀ row ∈ returnSensors, row.channel ∈ returnAlarms ∧ row.bit < 9 ∧
      row.channel.sensor ∉ lampPartWrites := by decide
  have digits : ∀ row ∈ returnSensors, ∀ s : Incubator, sensorDigit s row.bit =
      if s.reg Reg.refluxTemperature &&& row.tested ≠ 0 then s.getVal row.channel.sensor
      else 0 := by
    simp only [returnSensors, List.forall_mem_cons]
    exact ⟨fun _ => rfl, fun _ => rfl, fun _ => rfl, fun _ => rfl, List.forall_mem_nil _⟩
  obtain ⟨channel, small, apart⟩ := rows row mem
  rw [faultShown_iff binary small, digits row mem, masked_digit, beforeSum_mask,
    (beforeSum_within m).getVal apart, alarmSections_sensor channel]
  refine and_congr_right fun _ => ?_
  exact masked_digit _

/-- The first, the second and the fourth channel are looked at themselves, the third in the place of
the first two. -/
theorem faultHidden_iff (s : Incubator) : FaultHidden s ↔ ∃ row ∈ returnSensors,
    row.channel.Enabled s ∧ s.getVal row.channel.sensor = on ∧
      ¬(¬s.fanStatus = 1 ∧ s.reg Reg.refluxTemperature &&& row.tested ≠ 0) := by
  refine ⟨?_, ?_⟩
  · rintro (⟨inverter, row, mem, enabled, fault⟩ | ⟨enabled, fault, first, second⟩)
    · exact ⟨row, mem, enabled, fault, fun looked => looked.1 inverter⟩
    · refine ⟨⟨returnAlarm3, 4, 0x03⟩, by simp [returnSensors], enabled, fault, ?_⟩
      rintro ⟨-, looked⟩
      cases (mask_three _).mp looked with
      | inl one => exact first one
      | inr two => exact second two
  · rintro ⟨row, mem, enabled, fault, hidden⟩
    by_cases inverter : s.fanStatus = 1
    · exact Or.inl ⟨inverter, row, mem, enabled, fault⟩
    · right
      have unseen : ¬s.reg Reg.refluxTemperature &&& row.tested ≠ 0 :=
        fun looked => hidden ⟨inverter, looked⟩
      simp only [returnSensors, List.mem_cons, List.not_mem_nil, or_false] at mem
      rcases mem with rfl | rfl | rfl | rfl
      · exact absurd enabled unseen
      · exact absurd enabled unseen
      · refine ⟨enabled, fault, ?_, ?_⟩
        · exact fun one => unseen ((mask_three _).mpr (Or.inl one))
        · exact fun two => unseen ((mask_three _).mpr (Or.inr two))
      · exact absurd enabled unseen

/-- A round reports the faults of all sensors, and those of no disabled channel, exactly if none is
hidden. -/
theorem faultsReported_iff (m : AlarmThread) (binary : Binary m.inc) :
    FaultsReported (alarmSections m.inc) m.threadAlarmFunc.inc ↔ ¬FaultHidden m.inc := by
  have enabled (c : ReturnAlarm) : c.Enabled (alarmSections m.inc) ↔ c.Enabled m.inc := by
    rw [ReturnAlarm.Enabled, ReturnAlarm.Enabled, (alarmSections_reflux m.inc).1]
  have faulty {row : ReturnSensor} (mem : row ∈ returnSensors)
      (on_row : row.channel.Enabled m.inc) :
      (alarmSections m.inc).getVal row.channel.sensor = m.inc.getVal row.channel.sensor := by
    have channels : ∀ row ∈ returnSensors, row.channel ∈ returnAlarms := by decide
    rw [alarmSections_sensor (channels row mem), if_pos on_row]
  rw [faultHidden_iff]
  refine ⟨?_, ?_⟩
  · rintro reported ⟨row, mem, en, fault, hidden⟩
    have shown := reported.returned row mem ((enabled _).mpr en) ((faulty mem en).trans fault)
    exact hidden ((channel_shown binary mem).mp shown).1
  · intro visible
    refine ⟨?_, ?_, ?_⟩
    · intro row mem fault
      have rows : ∀ row ∈ mainSensors, row.2 < 9 ∧ row.1 ∉ lampPartWrites := by decide
      have digits : ∀ row ∈ mainSensors, ∀ s : Incubator,
          sensorDigit s row.2 = s.getVal row.1 := by
        simp only [mainSensors, List.forall_mem_cons]
        exact ⟨fun _ => rfl, fun _ => rfl, fun _ => rfl, List.forall_mem_nil _⟩
      rw [faultShown_iff binary (rows row mem).1, digits row mem,
        (beforeSum_within m).getVal (rows row mem).2, fault]
    · intro row mem en fault
      rw [enabled] at en
      rw [faulty mem en] at fault
      refine (channel_shown binary mem).mpr ⟨?_, en, fault⟩
      by_contra hidden
      exact visible ⟨row, mem, en, fault, hidden⟩
    · intro row mem bit
      have rows : ∀ row ∈ returnSensors, row.bit < 9 := by decide
      rw [totalBit_iff binary (rows row mem), ← faultShown_iff binary (rows row mem)] at bit
      exact (enabled _).mpr ((channel_shown binary mem).mp bit).2.1

end

/-- Only the third channel is enabled, and its sensor is at fault. -/
def thirdFaulty : AlarmThread :=
  threadAlarmStart (cleared |> setVal Reg.refluxTemperature 4
    |> setVal Reg.sensor5AbnormalAlarm on)

/-- Only the fourth channel is enabled, and its sensor is at fault. -/
def fourthFaulty : AlarmThread :=
  threadAlarmStart (cleared |> setVal Reg.refluxTemperature 8
    |> setVal Reg.sensor6AbnormalAlarm on)

theorem faultsReported_iff_fourth :
    FaultsReported (alarmSections fourthFaulty.inc) fourthFaulty.threadAlarmFunc.inc ↔
      ¬FaultHidden fourthFaulty.inc :=
  faultsReported_iff fourthFaulty (by decide)

/-- The fault of the third sensor is not reported. -/
theorem thirdFaulty_not_reported : ¬∀ m : AlarmThread, Binary m.inc →
    FaultsReported (alarmSections m.inc) m.threadAlarmFunc.inc := by
  intro law
  have reported := (law thirdFaulty (by decide)).returned ⟨returnAlarm3, 4, 0x03⟩
    (by simp [returnSensors]) (by decide +kernel) (by decide +kernel)
  exact absurd reported (by decide +kernel)

end Jincubator
