import Jincubator.Damper
import Jincubator.Humidity
import Jincubator.Temperature

/-! # Humidity control beside damper control

The off-time of the humidity is stored in two words, the second of which is the damper
reference. Apart from this word neither of the two controls uses what the other writes,
so they disturb each other exactly if one of them changes it.
-/

namespace Jincubator

open Footprint Incubator

/-! ## Changes elsewhere -/

/-- A change of the state that a procedure over the listed registers does not notice. -/
structure Elsewhere (uses : List Nat) (change : Incubator → Incubator) : Prop where
  read : ∀ s, ∀ r ∈ uses, (change s).shmOut r = s.shmOut r
  put : ∀ s, ∀ r ∈ uses, ∀ word, (change s).put r word = change (s.put r word)
  fanStatus : ∀ s, (change s).fanStatus = s.fanStatus

namespace Elsewhere

variable {uses : List Nat} {change : Incubator → Incubator} {i : Nat} {s : Incubator}

theorem getVal (elsewhere : Elsewhere uses change) (used : i ∈ uses) :
    (change s).getVal i = s.getVal i :=
  congrArg shm2short (elsewhere.read s i used)

theorem getUval (elsewhere : Elsewhere uses change) (used : i ∈ uses) :
    (change s).getUval i = s.getUval i :=
  congrArg shm2ushort (elsewhere.read s i used)

theorem getX10Val (elsewhere : Elsewhere uses change) (used : i ∈ uses) :
    (change s).getX10Val i = s.getX10Val i :=
  congrArg pidshm2short (elsewhere.read s i used)

theorem getE10Val (elsewhere : Elsewhere uses change) (used : i ∈ uses) :
    (change s).getE10Val i = s.getE10Val i :=
  congrArg shm2shortpid (elsewhere.read s i used)

theorem getInt (elsewhere : Elsewhere uses change) (high : i ∈ uses) (low : i + 1 ∈ uses) :
    (change s).getInt i = s.getInt i := by
  rw [Incubator.getInt, Incubator.getInt, elsewhere.read s i high, elsewhere.read s (i + 1) low]

theorem getTime (elsewhere : Elsewhere uses change) (high : i ∈ uses) (low : i + 1 ∈ uses) :
    (change s).getTime i = s.getTime i := by
  rw [Incubator.getTime, Incubator.getTime, elsewhere.read s i high,
    elsewhere.read s (i + 1) low]

theorem setVal (elsewhere : Elsewhere uses change) (used : i ∈ uses) (v : Int) :
    setVal i v (change s) = change (setVal i v s) :=
  elsewhere.put s i used _

theorem setUval (elsewhere : Elsewhere uses change) (used : i ∈ uses) (v : Int) :
    setUval i v (change s) = change (setUval i v s) :=
  elsewhere.put s i used _

theorem setInt (elsewhere : Elsewhere uses change) (high : i ∈ uses) (low : i + 1 ∈ uses)
    (v : Int) : setInt i v (change s) = change (setInt i v s) := by
  rw [setInt_eq, setInt_eq, elsewhere.setVal high, elsewhere.setVal low]

theorem setTime (elsewhere : Elsewhere uses change) (high : i ∈ uses) (low : i + 1 ∈ uses)
    (v : Int) : setTime i v (change s) = change (setTime i v s) :=
  elsewhere.setInt high low v

theorem ite (change : Incubator → Incubator) (c : Prop) [Decidable c] (s t : Incubator) :
    (if c then change s else change t) = change (if c then s else t) :=
  (apply_ite change c s t).symm

theorem fanStopped (elsewhere : Elsewhere uses change)
    (used : Reg.rSyncMotorControlPara ∈ uses) : FanStopped (change s) ↔ FanStopped s := by
  rw [FanStopped, FanStopped, elsewhere.fanStatus, elsewhere.getVal used]

end Elsewhere

/-! ## The damper -/

/-- What the damper control reads or writes. -/
def doorUses : List Nat :=
  Reg.pidAdOpenStatus :: damperWrites ++
    [Reg.rAiAd, Reg.pAoAd, Reg.detectDamperFullyOpen, Reg.detectDamperFullyClose,
      Reg.testDamperOpenMode, Reg.testDamperCloseMode, Reg.rSyncMotorControlPara, Reg.pCo2Zqc,
      Reg.pCo2Gzs, Reg.highTempAlarmStatus, Reg.carbonDioxideWarningLight,
      Reg.highHumiAlarmStatus, Reg.lowTempAlarmValue, Reg.rAiTpMain, Reg.pAoTpMain, Reg.pTempP,
      Reg.rAiHm, Reg.pAoHm, Reg.pHumSpo, Reg.pHumDbo, Reg.pidOnCountDbOpen,
      Reg.pidOnCountDbOpen + 1, Reg.pidOnCountDbClose, Reg.pidOnCountDbClose + 1]

/-- The damper control of one round, with the opening that the next one looks at. -/
def doorControl (s : Incubator) : Incubator := s |> damperControlFunc |> pidAirDoorOpen

section

variable {change : Incubator → Incubator} (elsewhere : Elsewhere doorUses change)

include elsewhere

theorem controlDamper_elsewhere (type status schedule : Int) (s : Incubator) :
    controlDamper type status schedule (change s) =
      change (controlDamper type status schedule s) := by
  simp (disch := decide) only [controlDamper, controlOpenDamper, controlCloseDamper,
    elsewhere.getVal, elsewhere.setVal, elsewhere.fanStopped, Elsewhere.ite]

theorem damperCheck_elsewhere (current setting : Int) (s : Incubator) :
    damperCheck current setting (change s) = change (damperCheck current setting s) := by
  simp (disch := decide) only [damperCheck, controlDamper_elsewhere elsewhere, elsewhere.getVal,
    elsewhere.setVal, Elsewhere.ite]

theorem co2Damper_elsewhere (s : Incubator) : co2Damper (change s) = change (co2Damper s) := by
  have working (t : Incubator) : co2Working (change t) = change (co2Working t) := by
    simp (disch := decide) only [co2Working, controlDamper_elsewhere elsewhere, elsewhere.getVal,
      elsewhere.getUval, elsewhere.setVal, elsewhere.setUval, Elsewhere.ite]
  have idle (t : Incubator) : co2Idle (change t) = change (co2Idle t) := by
    simp (disch := decide) only [co2Idle, controlDamper_elsewhere elsewhere, elsewhere.getVal,
      elsewhere.getUval, elsewhere.setVal, elsewhere.setUval, Elsewhere.ite]
  have stopped (t : Incubator) : co2Stopped (change t) = change (co2Stopped t) := by
    simp (disch := decide) only [co2Stopped, controlDamper_elsewhere elsewhere,
      elsewhere.getUval, Elsewhere.ite]
  rw [co2Damper, working, idle, stopped]
  rfl

theorem seekDbo_elsewhere (current : Int) (s : Incubator) :
    seekDbo current (change s) = change (seekDbo current s) := by
  simp (disch := decide) only [seekDbo, controlDamper_elsewhere elsewhere, elsewhere.getVal,
    Elsewhere.ite]

theorem openToDbo_elsewhere (current : Int) (s : Incubator) :
    openToDbo current (change s) = change (openToDbo current s) := by
  simp (disch := decide) only [openToDbo, controlDamper_elsewhere elsewhere, elsewhere.getVal,
    Elsewhere.ite]

theorem enterDamperBand_elsewhere (s : Incubator) :
    enterDamperBand (change s) = change (enterDamperBand s) := by
  simp (disch := decide) only [enterDamperBand, elsewhere.getVal, elsewhere.setVal, Elsewhere.ite]

theorem pidDamper_elsewhere (s : Incubator) : pidDamper (change s) = change (pidDamper s) := by
  simp (disch := decide) only [pidDamper, controlDamper_elsewhere elsewhere, elsewhere.getVal,
    elsewhere.getUval, Elsewhere.ite]

theorem damperClosed_elsewhere (current : Int) (s : Incubator) :
    damperClosed current (change s) = change (damperClosed current s) := by
  simp (disch := decide) only [damperClosed, controlDamper_elsewhere elsewhere,
    co2Damper_elsewhere elsewhere, seekDbo_elsewhere elsewhere, elsewhere.getVal, Elsewhere.ite]

theorem damperOpened_elsewhere (current setting : Int) (s : Incubator) :
    damperOpened current setting (change s) = change (damperOpened current setting s) := by
  simp (disch := decide) only [damperOpened, controlDamper_elsewhere elsewhere,
    co2Damper_elsewhere elsewhere, openToDbo_elsewhere elsewhere,
    enterDamperBand_elsewhere elsewhere, pidDamper_elsewhere elsewhere, elsewhere.getVal,
    elsewhere.getX10Val, Elsewhere.ite]

theorem damperControlFunc_elsewhere (s : Incubator) :
    damperControlFunc (change s) = change (damperControlFunc s) := by
  simp (disch := decide) only [damperControlFunc, clearDamperCheck, damperRun,
    damperCheck_elsewhere elsewhere, damperClosed_elsewhere elsewhere,
    damperOpened_elsewhere elsewhere, controlDamper_elsewhere elsewhere, elsewhere.getVal,
    elsewhere.setVal, Elsewhere.ite]

theorem doorControl_elsewhere (s : Incubator) :
    doorControl (change s) = change (doorControl s) := by
  simp (disch := decide) only [doorControl, pidAirDoorOpen, damperControlFunc_elsewhere elsewhere,
    elsewhere.getVal, elsewhere.getX10Val, elsewhere.setVal, Elsewhere.ite]

end

/-! ## The humidity -/

/-- What the humidity control reads or writes. -/
def humiUses : List Nat :=
  [Reg.rAiTpMain, Reg.lowTempAlarmValue, Reg.rAiHm, Reg.pAoHm, Reg.pHumP, Reg.pHumI, Reg.pHumD,
    Reg.pHumOhi, Reg.pHumOlo, Reg.pHumSpr, Reg.pHumTo, Reg.testSprayMode,
    Reg.sensor2AbnormalAlarm, Reg.rSyncMotorControlPara] ++ logicHumiWrites

/-- A change that does not touch the static variables of the humidity either. -/
structure ElsewhereHumi (change : Incubator → Incubator) : Prop
    extends Elsewhere humiUses change where
  pidHumi : ∀ s, (change s).pidHumi = s.pidHumi
  setPidHumi : ∀ s statics, { change s with pidHumi := statics } =
    change { s with pidHumi := statics }

section

variable {change : Incubator → Incubator} (elsewhere : ElsewhereHumi change)

include elsewhere

theorem nativeInt_elsewhere {base : Nat} (index : Nat) (s : Incubator)
    (used : base + 2 * index ∈ humiUses ∧ base + 2 * index + 1 ∈ humiUses) :
    (change s).nativeInt base index = s.nativeInt base index := by
  rw [nativeInt, nativeInt, elsewhere.read s _ used.1, elsewhere.read s _ used.2]

theorem setNativeInt_elsewhere {base : Nat} (index : Nat) (v : Int) (s : Incubator)
    (used : base + 2 * index ∈ humiUses ∧ base + 2 * index + 1 ∈ humiUses) :
    setNativeInt base index v (change s) = change (setNativeInt base index v s) := by
  rw [setNativeInt, setNativeInt, elsewhere.put s _ used.1, elsewhere.put _ _ used.2]

theorem shiftFilter_elsewhere {base : Nat} (count : Nat) (s : Incubator)
    (used : ∀ index ≤ count, base + 2 * index ∈ humiUses ∧ base + 2 * index + 1 ∈ humiUses) :
    shiftFilter base count (change s) = change (shiftFilter base count s) := by
  induction count generalizing s with
  | zero => rfl
  | succ count ih =>
      rw [shiftFilter, shiftFilter, nativeInt_elsewhere elsewhere _ _ (used _ (Nat.le_succ count)),
        setNativeInt_elsewhere elsewhere _ _ _ (used _ le_rfl)]
      exact ih _ fun index bound => used index (Nat.le_succ_of_le bound)

theorem pidFilter_elsewhere (pid : Int) {base num : Nat} (s : Incubator)
    (used : ∀ index ≤ num - 1, base + 2 * index ∈ humiUses ∧ base + 2 * index + 1 ∈ humiUses) :
    pidFilter pid base num (change s) =
      ((pidFilter pid base num s).1, change (pidFilter pid base num s).2) := by
  have shifted (t : Incubator) : setNativeInt base 0 pid (shiftFilter base (num - 1) (change t)) =
      change (setNativeInt base 0 pid (shiftFilter base (num - 1) t)) := by
    rw [shiftFilter_elsewhere elsewhere _ _ used,
      setNativeInt_elsewhere elsewhere _ _ _ (used 0 (Nat.zero_le _))]
  have sums (t : Incubator) :
      (List.range num).foldl (fun sum i => int32 (sum + (change t).nativeInt base i)) 0 =
        (List.range num).foldl (fun sum i => int32 (sum + t.nativeInt base i)) 0 := by
    refine List.foldl_ext _ _ _ fun sum i mem => ?_
    have bound := List.mem_range.mp mem
    rw [nativeInt_elsewhere elsewhere i t (used i (by omega))]
  rw [pidFilter, shifted, sums]
  rfl

theorem pid_elsewhere (pv sp : Int) (statics : PidStatics) (s : Incubator) :
    humiLoop.pid statics pv sp (change s) =
      ((humiLoop.pid statics pv sp s).1, (humiLoop.pid statics pv sp s).2.1,
        change (humiLoop.pid statics pv sp s).2.2) := by
  have inBand (en : Int) (t : Incubator) :
      humiLoop.InBand en (change t) ↔ humiLoop.InBand en t := by
    rw [PidLoop.InBand, PidLoop.InBand, elsewhere.getX10Val (by decide)]
  have xp (t : Incubator) : humiLoop.xp pv sp (change t) = humiLoop.xp pv sp t := by
    simp (disch := decide) only [PidLoop.xp, inBand, elsewhere.getX10Val]
  have xi (en : Int) (t : Incubator) :
      humiLoop.xi en (change t) = ((humiLoop.xi en t).1, change (humiLoop.xi en t).2) := by
    simp (disch := decide) only [PidLoop.xi, inBand, elsewhere.getE10Val, elsewhere.getInt,
      elsewhere.setInt]
    split
    · rfl
    · rfl
  have xd (en vn vn1 : Int) (t : Incubator) :
      humiLoop.xd en vn vn1 (change t) = humiLoop.xd en vn vn1 t := by
    simp (disch := decide) only [PidLoop.xd, inBand, elsewhere.getE10Val]
  simp (disch := decide) only [PidLoop.pid, xp, xi, xd, elsewhere.getE10Val, elsewhere.getInt,
    elsewhere.setInt, Elsewhere.ite]

theorem pidCalc2_elsewhere (pv sp : Int) (s : Incubator) :
    pidCalc2 pv sp (change s) = ((pidCalc2 pv sp s).1, change (pidCalc2 pv sp s).2) := by
  have limit (pidv : Int) (t : Incubator) :
      humiLoop.limit pidv (change t) = humiLoop.limit pidv t := by
    simp (disch := decide) only [PidLoop.limit, elsewhere.getVal]
  simp only [pidCalc2, elsewhere.pidHumi, pid_elsewhere elsewhere, elsewhere.setPidHumi, limit]

theorem sprayDuty_elsewhere (pid : Int) (s : Incubator) :
    sprayDuty pid (change s) = ((sprayDuty pid s).1, change (sprayDuty pid s).2) := by
  have filter := pidFilter_elsewhere elsewhere pid s
    (show ∀ index ≤ 50 - 1, Reg.filterPidHumiArr + 2 * index ∈ humiUses ∧
      Reg.filterPidHumiArr + 2 * index + 1 ∈ humiUses by decide)
  simp (disch := decide) only [sprayDuty, filter, elsewhere.getVal, elsewhere.getX10Val]

theorem pidHumiInit_elsewhere (s : Incubator) :
    pidHumiInit (change s) = change (pidHumiInit s) := by
  simp (disch := decide) only [pidHumiInit, pidCalc2_elsewhere elsewhere,
    sprayDuty_elsewhere elsewhere, elsewhere.getVal, elsewhere.setInt]

theorem controlSpray_elsewhere (status : Int) (s : Incubator) :
    controlSpray status (change s) = change (controlSpray status s) := by
  simp (disch := decide) only [controlSpray, switchOutput, elsewhere.getVal, elsewhere.setVal,
    elsewhere.fanStopped, Elsewhere.ite]

theorem leaveHumiRange_elsewhere (s : Incubator) :
    leaveHumiRange (change s) = change (leaveHumiRange s) := by
  simp (disch := decide) only [leaveHumiRange, elsewhere.setInt]

theorem humiPeriod_elsewhere (current limit : Int) (s : Incubator) :
    humiPeriod current limit (change s) = change (humiPeriod current limit s) := by
  simp (disch := decide) only [humiPeriod, controlSpray_elsewhere elsewhere, elsewhere.getInt,
    elsewhere.getTime, elsewhere.getUval, elsewhere.setInt, elsewhere.setTime, Elsewhere.ite]

theorem logicProcessHumiFunc_elsewhere (s : Incubator) :
    logicProcessHumiFunc (change s) = change (logicProcessHumiFunc s) := by
  simp (disch := decide) only [logicProcessHumiFunc, controlSpray_elsewhere elsewhere,
    leaveHumiRange_elsewhere elsewhere, pidHumiInit_elsewhere elsewhere,
    humiPeriod_elsewhere elsewhere, elsewhere.getVal, elsewhere.getX10Val, Elsewhere.ite]

end

/-! ## The shared word -/

/-- Neither an alarm nor the humidity decides, and the temperature band is entered. -/
def DamperEnters (s : Incubator) : Prop :=
  s.getVal Reg.highTempAlarmStatus = 0 ∧ s.getVal Reg.carbonDioxideWarningLight = 0 ∧
    ¬(s.getVal Reg.highHumiAlarmStatus ≠ 0 ∧
      s.getVal Reg.rAiTpMain > s.getVal Reg.lowTempAlarmValue) ∧
    ¬(s.getVal Reg.rAiHm ≥ s.getVal Reg.pAoHm + s.getVal Reg.pHumSpo ∧
      s.getVal Reg.rAiTpMain ≥ s.getVal Reg.lowTempAlarmValue) ∧
    InTempBand s ∧ s.getVal Reg.pidTempModeStatus = off

instance (s : Incubator) : Decidable (DamperEnters s) :=
  inferInstanceAs (Decidable (_ ∧ _ ∧ _ ∧ _ ∧ _ ∧ _))

/-- The damper takes its position as the reference. -/
def TakesPosition (s : Incubator) : Prop :=
  s.getVal Reg.statusDamperCheck = 0 ∧ ushort (s.getVal Reg.pAoAd) ≠ 0 ∧
    ushort (s.getVal Reg.pAoAd) ≤ ushort (s.getVal Reg.rAiAd) ∧ DamperEnters s

instance (s : Incubator) : Decidable (TakesPosition s) :=
  inferInstanceAs (Decidable (_ ∧ _ ∧ _ ∧ _))

section

variable (s : Incubator)

/-- The damper reference, which most of the damper control leaves alone. -/
abbrev adValue : Int := s.getVal Reg.pidAdValue

theorem adValue_ite (c : Prop) [Decidable c] (s t : Incubator) :
    adValue (if c then s else t) = if c then adValue s else adValue t :=
  apply_ite adValue c s t

theorem adValue_setVal {i : Nat} (other : Reg.pidAdValue ≠ i) (v : Int) :
    adValue (setVal i v s) = adValue s :=
  getVal_setVal_of_ne s v other

theorem adValue_setUval {i : Nat} (other : Reg.pidAdValue ≠ i) (v : Int) :
    adValue (setUval i v s) = adValue s :=
  getVal_setVal_of_ne s v other

theorem adValue_controlDamper (type status schedule : Int) :
    adValue (controlDamper type status schedule s) = adValue s := by
  have command : Within [Reg.controlDamperOpen, Reg.controlDamperClose] s
      (controlDamper type status schedule s) := by simp
  exact command.getVal (by decide)

theorem adValue_damperCheck (current setting : Int) :
    adValue (damperCheck current setting s) = adValue s := by
  simp (disch := decide) only [damperCheck, adValue_ite, adValue_setVal, adValue_controlDamper,
    ite_self]

theorem adValue_co2Damper : adValue (co2Damper s) = adValue s := by
  have working (t : Incubator) : adValue (co2Working t) = adValue t := by
    simp (disch := decide) only [co2Working, adValue_ite, adValue_setVal, adValue_setUval,
      adValue_controlDamper, ite_self]
  have idle (t : Incubator) : adValue (co2Idle t) = adValue t := by
    simp (disch := decide) only [co2Idle, adValue_ite, adValue_setVal, adValue_setUval,
      adValue_controlDamper, ite_self]
  have stopped (t : Incubator) : adValue (co2Stopped t) = adValue t := by
    simp only [co2Stopped, adValue_ite, adValue_controlDamper, ite_self]
  rw [co2Damper, stopped, idle, working]

theorem adValue_damperClosed (current : Int) : adValue (damperClosed current s) = adValue s := by
  simp only [damperClosed, seekDbo, adValue_ite, adValue_controlDamper, adValue_co2Damper,
    ite_self]

theorem adValue_pidDamper :
    adValue (pidDamper (enterDamperBand s)) =
      if s.getVal Reg.pidTempModeStatus = off then s.getVal Reg.rAiAd else adValue s := by
  have driven (t : Incubator) : adValue (pidDamper t) = adValue t := by
    simp only [pidDamper, adValue_ite, adValue_controlDamper, ite_self]
  rw [driven, enterDamperBand, adValue_ite, adValue_setVal _ (by decide), adValue,
    getVal_setVal_self, short_getVal]

theorem adValue_damperOpened (current setting : Int) :
    adValue (damperOpened current setting s) =
      if DamperEnters s then s.getVal Reg.rAiAd else adValue s := by
  simp only [damperOpened, openToDbo, adValue_ite, adValue_controlDamper, adValue_co2Damper,
    adValue_pidDamper, ite_self]
  by_cases enters : DamperEnters s
  · obtain ⟨alarm, light, humid, moist, ⟨above, below⟩, mode⟩ := id enters
    rw [if_pos enters, if_neg (not_not.mpr alarm), if_neg (not_not.mpr light), if_neg humid,
      if_neg moist, if_neg (not_lt.mpr above), if_pos ⟨above, below⟩, if_pos mode]
  · rw [if_neg enters]
    simp only [ite_eq_left_iff, ite_eq_right_iff]
    intro alarm light humid moist _ inside mode
    exact absurd ⟨not_not.mp alarm, not_not.mp light, humid, moist, inside, mode⟩ enters

/-- What decides whether the band is entered. -/
def enterReads : List Nat :=
  [Reg.highTempAlarmStatus, Reg.carbonDioxideWarningLight, Reg.highHumiAlarmStatus, Reg.rAiTpMain,
    Reg.lowTempAlarmValue, Reg.rAiHm, Reg.pAoHm, Reg.pHumSpo, Reg.pAoTpMain, Reg.pTempP,
    Reg.pidTempModeStatus]

theorem DamperEnters.within {writes : List Nat} {s t : Incubator} (st : Within writes s t)
    (untouched : ∀ r ∈ enterReads, r ∉ writes) : DamperEnters t ↔ DamperEnters s := by
  have read {r : Nat} (mem : r ∈ enterReads) : t.getVal r = s.getVal r :=
    st.getVal (untouched r mem)
  simp (disch := decide) only [DamperEnters, InTempBand, read,
    st.getX10Val (untouched Reg.pTempP (by decide))]

/-- The reference after a round of the damper control. -/
theorem adValue_doorControl :
    adValue (doorControl s) = if TakesPosition s then s.getVal Reg.rAiAd else adValue s := by
  have follow (t : Incubator) : adValue (pidAirDoorOpen t) = adValue t := by
    simp (disch := decide) only [pidAirDoorOpen, adValue_ite, adValue_setVal, ite_self]
  have cleared : Within [Reg.controlDbOpenCalibrationStatus, Reg.controlDbCliseCalibrationStatus,
      Reg.controlDbCloseToOpenTimeStatus, Reg.controlDbOpenToCloseTimeStatus] s
        (clearDamperCheck s) := by
    simp (disch := decide) only [clearDamperCheck, within_setVal, Within.refl]
  have opened := DamperEnters.within cleared (by decide)
  have reference : adValue (clearDamperCheck s) = adValue s := cleared.getVal (by decide)
  have ran (current setting : Int) : adValue (damperRun current setting (clearDamperCheck s)) =
      if setting = 0 then adValue s else if current < setting then adValue s
      else if DamperEnters s then s.getVal Reg.rAiAd else adValue s := by
    simp only [damperRun, adValue_ite, adValue_damperClosed, adValue_controlDamper,
      adValue_damperOpened, opened, reference, cleared.getVal (show Reg.rAiAd ∉ _ by decide)]
  simp only [doorControl, follow, damperControlFunc, adValue_ite, adValue_damperCheck, ran]
  by_cases takes : TakesPosition s
  · obtain ⟨check, set, reached, enters⟩ := id takes
    rw [if_pos takes, if_neg (not_not.mpr check), if_neg set, if_neg (not_lt.mpr reached),
      if_pos enters]
  · rw [if_neg takes]
    simp only [ite_eq_left_iff, ite_eq_right_iff]
    intro check set reached enters
    exact absurd ⟨not_not.mp check, set, not_lt.mp reached, enters⟩ takes

/-- The duty that the humidity loop computes from these registers. -/
def humiDuty : Int := (pidHumiInit s).getInt Reg.pidHumiNewHumidification

/-- Inside the humidity band a new period is begun. -/
def LoadsPeriod : Prop :=
  s.getVal Reg.rAiTpMain > s.getVal Reg.lowTempAlarmValue ∧
    s.getVal Reg.rAiHm ≥ s.getVal Reg.pAoHm - (s.getX10Val Reg.pHumP).tdiv 2 ∧
    s.getVal Reg.rAiHm ≤ s.getVal Reg.pAoHm +
      (if s.getVal Reg.pHumSpr < (s.getX10Val Reg.pHumP).tdiv 2 then s.getVal Reg.pHumSpr
      else (s.getX10Val Reg.pHumP).tdiv 2) ∧
    (s.getTime Reg.pidPeriodCountHumi = 0 ∨
      HumiJump (s.getInt Reg.pidHumiOldHumidification) (humiDuty s))

instance : Decidable (LoadsPeriod s) :=
  inferInstanceAs (Decidable (_ ∧ _ ∧ _ ∧ (_ ∨ _)))

/-- The off-time that a new period is given, before it is stored. -/
def offTime : Int :=
  s.getUval Reg.pHumTo - uint32 ((int32 (humiDuty s * s.getUval Reg.pHumTo)).tdiv 1000)

theorem adValue_setInt {i : Nat} (high : Reg.pidAdValue ≠ i) (low : Reg.pidAdValue ≠ i + 1)
    (v : Int) : adValue (setInt i v s) = adValue s := by
  rw [setInt_eq, adValue_setVal _ low, adValue_setVal _ high]

/-- The off-time is stored into the reference. -/
theorem adValue_setTime (v : Int) : adValue (setTime Reg.pidOnCountHumi v s) = short v := by
  rw [setTime_eq, setInt_eq]
  exact getVal_setVal_self _ _ _

theorem adValue_controlSpray (status : Int) : adValue (controlSpray status s) = adValue s := by
  have command : Within [Reg.controlSpray] s (controlSpray status s) := by simp
  exact command.getVal (by decide)

theorem adValue_humiPeriod (current limit : Int) :
    adValue (humiPeriod current limit s) =
      if s.getTime Reg.pidPeriodCountHumi = 0 ∨
          HumiJump (s.getInt Reg.pidHumiOldHumidification)
            (s.getInt Reg.pidHumiNewHumidification) then
        short (s.getUval Reg.pHumTo -
          uint32 ((int32 (s.getInt Reg.pidHumiNewHumidification * s.getUval Reg.pHumTo)).tdiv
            1000))
      else adValue s := by
  have period (v : Int) (t : Incubator) :
      adValue (setTime Reg.pidPeriodCountHumi v t) = adValue t :=
    adValue_setInt t (by decide) (by decide) v
  simp (disch := decide) only [humiPeriod, adValue_setInt, adValue_ite, period, adValue_setTime,
    adValue_controlSpray, ite_self]

/-- The reference after a call of the humidity control. -/
theorem adValue_logicProcessHumiFunc :
    adValue (logicProcessHumiFunc s) = if LoadsPeriod s then short (offTime s) else adValue s := by
  have leave (t : Incubator) : adValue (leaveHumiRange t) = adValue t := by
    simp (disch := decide) only [leaveHumiRange, adValue_setInt]
  have loop : Within pidHumiWrites s (pidHumiInit s) := pidHumiInit_within s
  have reference : adValue (pidHumiInit s) = adValue s := loop.getVal (by decide +kernel)
  have period (current limit : Int) : adValue (humiPeriod current limit (pidHumiInit s)) =
      if s.getTime Reg.pidPeriodCountHumi = 0 ∨
          HumiJump (s.getInt Reg.pidHumiOldHumidification) (humiDuty s) then short (offTime s)
      else adValue s := by
    rw [adValue_humiPeriod, reference, loop.getTime (by decide +kernel) (by decide +kernel),
      loop.getInt (by decide +kernel) (by decide +kernel), loop.getUval (by decide +kernel)]
    rfl
  simp only [logicProcessHumiFunc, adValue_ite, adValue_controlSpray, leave, period, ite_self]
  by_cases loads : LoadsPeriod s
  · obtain ⟨warm, above, below, begun⟩ := id loads
    rw [if_pos loads, if_pos warm, if_neg (not_lt.mpr above), if_pos ⟨above, below⟩, if_pos begun]
  · rw [if_neg loads]
    simp only [ite_eq_right_iff, ite_eq_left_iff]
    intro warm _ inside begun
    exact absurd ⟨warm, inside.1, inside.2, begun⟩ loads

end

/-! ## Both controls -/

def doorWrites : List Nat := Reg.pidAdOpenStatus :: damperWrites

/-- Two states hold the same in the listed registers. -/
def SameRegisters (rs : List Nat) (s t : Incubator) : Prop := ∀ r ∈ rs, t.reg r = s.reg r

/-- Neither control touches the word of the other, and after both of them, in either order, each
has left what it leaves alone. -/
structure LoopsIndependent (s : Incubator) : Prop where
  reference : (logicProcessHumiFunc s).getVal Reg.pidAdValue = s.getVal Reg.pidAdValue
  offTime : (doorControl s).getTime Reg.pidOnCountHumi = s.getTime Reg.pidOnCountHumi
  door : SameRegisters doorWrites (doorControl s) (doorControl (logicProcessHumiFunc s)) ∧
    SameRegisters doorWrites (doorControl s) (logicProcessHumiFunc (doorControl s))
  humi : SameRegisters logicHumiWrites (logicProcessHumiFunc s)
      (doorControl (logicProcessHumiFunc s)) ∧
    SameRegisters logicHumiWrites (logicProcessHumiFunc s)
      (logicProcessHumiFunc (doorControl s))
  statics : (doorControl (logicProcessHumiFunc s)).pidHumi = (logicProcessHumiFunc s).pidHumi ∧
    (logicProcessHumiFunc (doorControl s)).pidHumi = (logicProcessHumiFunc s).pidHumi

section

variable {s : Incubator}

/-- The second word of a time. -/
theorem getVal_low (s : Incubator) (i : Nat) : s.getVal (i + 1) = short (s.getTime i) := by
  rw [getVal_eq, getTime_eq, short, BitVec.ofInt_natCast, BitVec.ofNat_toNat,
    BitVec.setWidth_append]
  simp

theorem doorControl_within (s : Incubator) : Within doorWrites s (doorControl s) := by
  have control : Within doorWrites s (damperControlFunc s) :=
    (damperControlFunc_within s).mono (List.subset_cons_self _ _)
  simp (disch := decide) only [doorControl, within_pidAirDoorOpen, control]

/-- The damper control has no static variables. -/
theorem doorControl_pidHumi (s : Incubator) : (doorControl s).pidHumi = s.pidHumi := by
  have elsewhere : Elsewhere doorUses fun t => { t with pidHumi := s.pidHumi } :=
    ⟨fun _ _ _ => rfl, fun _ _ _ _ => rfl, fun _ => rfl⟩
  have same : doorControl s = { doorControl s with pidHumi := s.pidHumi } :=
    doorControl_elsewhere elsewhere s
  rw [same]

/-- Registers that are read alike hold the same. -/
theorem shmOut_eq_of_getVal {t : Incubator} {r : Nat} (same : t.getVal r = s.getVal r) :
    t.shmOut r = s.shmOut r := by
  have words : baWord (t.shmOut r) = baWord (s.shmOut r) := BitVec.eq_of_toInt_eq same
  calc t.shmOut r = baWord (baWord (t.shmOut r)) := (baWord_baWord _).symm
    _ = s.shmOut r := by rw [words, baWord_baWord]

theorem uses_apart : (∀ r ∈ doorUses, r ∈ logicHumiWrites → r = Reg.pidAdValue) ∧
    ∀ r ∈ humiUses, r ∈ doorWrites → r = Reg.pidAdValue := by
  decide +kernel

/-- The used registers of one state in the midst of another one. -/
def beside (uses : List Nat) (t u : Incubator) : Incubator :=
  { t with shmOut := mix uses u.shmOut t.shmOut, fanStatus := u.fanStatus }

def besideHumi (t u : Incubator) : Incubator :=
  { beside humiUses t u with pidHumi := u.pidHumi }

theorem beside_elsewhere (uses : List Nat) (t : Incubator) : Elsewhere uses (beside uses t) where
  read _ _ used := mix_of_mem used
  put u _ used word :=
    congrArg (fun memory => { t with shmOut := memory, fanStatus := u.fanStatus })
      (update_mix used word)
  fanStatus _ := rfl

theorem besideHumi_elsewhere (t : Incubator) : ElsewhereHumi (besideHumi t) where
  read _ _ used := mix_of_mem used
  put u r used word :=
    congrArg (fun v : Incubator => { v with pidHumi := u.pidHumi })
      ((beside_elsewhere humiUses t).put u r used word)
  fanStatus _ := rfl
  pidHumi _ := rfl
  setPidHumi _ _ := rfl

theorem beside_eq {uses : List Nat} {t : Incubator} (fan : t.fanStatus = s.fanStatus)
    (agree : ∀ r ∈ uses, t.shmOut r = s.shmOut r) : beside uses t s = t := by
  rw [beside, mix_eq_of_agree agree, ← fan]

/-- Where the humidity control keeps the reference, the damper control does not notice it. -/
theorem doorControl_after (kept : adValue (logicProcessHumiFunc s) = adValue s) :
    ∀ r ∈ doorUses, (doorControl (logicProcessHumiFunc s)).reg r = (doorControl s).reg r := by
  intro r used
  have within := logicProcessHumiFunc_within s
  have elsewhere := beside_elsewhere doorUses (logicProcessHumiFunc s)
  have same : beside doorUses (logicProcessHumiFunc s) s = logicProcessHumiFunc s := by
    refine beside_eq within.fanStatus fun i needed => ?_
    by_cases written : i ∈ logicHumiWrites
    · rw [uses_apart.1 i needed written]
      exact shmOut_eq_of_getVal kept
    · exact within.out i written
  have result := doorControl_elsewhere elsewhere s
  rw [same] at result
  rw [result]
  exact congrArg baWord (elsewhere.read _ r used)

/-- Where the damper control keeps the reference, the humidity control does not notice it. -/
theorem logicProcessHumiFunc_after (kept : adValue (doorControl s) = adValue s) :
    (logicProcessHumiFunc (doorControl s)).pidHumi = (logicProcessHumiFunc s).pidHumi ∧
      ∀ r ∈ humiUses,
        (logicProcessHumiFunc (doorControl s)).reg r = (logicProcessHumiFunc s).reg r := by
  have within := doorControl_within s
  have elsewhere := besideHumi_elsewhere (doorControl s)
  have same : besideHumi (doorControl s) s = doorControl s := by
    have registers : beside humiUses (doorControl s) s = doorControl s := by
      refine beside_eq within.fanStatus fun i needed => ?_
      by_cases written : i ∈ doorWrites
      · rw [uses_apart.2 i needed written]
        exact shmOut_eq_of_getVal kept
      · exact within.out i written
    rw [besideHumi, registers, ← doorControl_pidHumi]
  have result := logicProcessHumiFunc_elsewhere elsewhere s
  rw [same] at result
  rw [result]
  exact ⟨rfl, fun r used => congrArg baWord (elsewhere.read _ r used)⟩

theorem writes_apart : ∀ r ∈ doorWrites, r ∈ logicHumiWrites → r = Reg.pidAdValue := by
  decide +kernel

/-- While neither control changes the reference, both orders give each its own result. -/
theorem loopsIndependent_of_kept (humi : adValue (logicProcessHumiFunc s) = adValue s)
    (door : adValue (doorControl s) = adValue s) : LoopsIndependent s := by
  have humiWord : (logicProcessHumiFunc s).reg Reg.pidAdValue = s.reg Reg.pidAdValue :=
    BitVec.eq_of_toInt_eq humi
  have doorWord : (doorControl s).reg Reg.pidAdValue = s.reg Reg.pidAdValue :=
    BitVec.eq_of_toInt_eq door
  have doorAfter := doorControl_after humi
  obtain ⟨statics, humiAfter⟩ := logicProcessHumiFunc_after door
  have doorUsed : doorWrites ⊆ doorUses := by decide
  have humiUsed : logicHumiWrites ⊆ humiUses := List.subset_append_right _ _
  have words : Reg.pidAdValue ∈ doorUses ∧ Reg.pidAdValue ∈ humiUses := by decide
  refine ⟨humi, ?_, ⟨fun r mem => doorAfter r (doorUsed mem), fun r mem => ?_⟩,
    ⟨fun r mem => ?_, fun r mem => humiAfter r (humiUsed mem)⟩, doorControl_pidHumi _, statics⟩
  · rw [getTime_eq, getTime_eq, (doorControl_within s).reg (by decide)]
    exact congrArg (fun word => ((s.reg Reg.pidOnCountHumi ++ word).toNat : Int)) doorWord
  · by_cases shared : r ∈ logicHumiWrites
    · rw [writes_apart r mem shared, humiAfter _ words.2, humiWord, doorWord]
    · exact (logicProcessHumiFunc_within _).reg shared
  · by_cases shared : r ∈ doorWrites
    · rw [writes_apart r shared mem, doorAfter _ words.1, doorWord, humiWord]
    · exact (doorControl_within _).reg shared

end

/-- A new period of sixty seconds. -/
def newPeriod : Incubator :=
  cleared |> setVal Reg.rAiTpMain 1 |> setVal Reg.pHumTo 60

end Jincubator
