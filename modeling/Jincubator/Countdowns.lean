import Jincubator.AlarmThread
import Jincubator.EggTurning
import Jincubator.Library.Run
import Jincubator.Modes
import Jincubator.TestButtons

/-! # Countdowns

A setting in minutes is loaded into a register that the timer runs down by one every
second. The product is cut to sixteen bits, so it is exact up to 1092 minutes.
-/

namespace Jincubator

open Footprint Incubator Run

/-- The word of the seconds in as many minutes. -/
def minutes (setting : Int) : Int := ushort (setting * 60)

/-- Signed or not, a setting gives the same word. -/
theorem minutes_getVal (s : Incubator) (para : Nat) :
    ushort (s.getVal para * 60) = minutes (s.getUval para) := by
  rw [minutes, getUval_eq_ushort, ushort_eq, ushort_eq, ushort_eq]
  omega

/-! ## Changed parameters -/

section

variable {s : Incubator} {para time i : Nat} {times : List Nat} {paras : List (Nat × List Nat)}

theorem followPara_getUval (out : i ∉ times) (s : Incubator) :
    (followPara para times s).getUval i = s.getUval i :=
  getUval_agree (followPara_out para (List.Subset.refl times) s) out

theorem followPara_getUold (other : i ≠ para) (s : Incubator) :
    (followPara para times s).getUold i = s.getUold i := by
  have seen (v : Int) (t : Incubator) : (setUold para v t).getUold i = t.getUold i :=
    congrArg shm2ushort (Function.update_of_ne other _ _)
  have loaded : Within times s
      (times.foldl (fun s time => setUval time (s.getUval para * 60) s) s) :=
    (within_foldl (fun _ mem _ => within_setUval mem) s).mpr (Within.refl _ _)
  rw [followPara]
  split
  · rw [seen]
    exact congrArg (fun old : Nat → Word => shm2ushort (old i)) loaded.old
  · rfl

/-- A changed parameter loads its time. -/
theorem followPara_loads (changed : s.getUval para ≠ s.getUold para) :
    (followPara para [time] s).getUval time = minutes (s.getUval para) := by
  rw [followPara, if_pos changed]
  show (setUval time (s.getUval para * 60) s).getUval time = _
  rw [setUval_eq, getUval_setVal_self, minutes]

theorem followParas_getUval (out : ∀ entry ∈ paras, i ∉ entry.2) (s : Incubator) :
    (paras.foldl (fun s para => followPara para.1 para.2 s) s).getUval i = s.getUval i :=
  run_view (·.getUval i) (fun entry mem t => followPara_getUval (out entry mem) t) s

theorem followParas_getUold (other : ∀ entry ∈ paras, i ≠ entry.1) (s : Incubator) :
    (paras.foldl (fun s para => followPara para.1 para.2 s) s).getUold i = s.getUold i :=
  run_view (·.getUold i) (fun entry mem t => followPara_getUold (other entry mem) t) s

/-- The parameters and their times are all different. -/
theorem paraTimes_apart :
    paraTimes.Pairwise (fun e d => e.1 ≠ d.1 ∧ ∀ time ∈ e.2, time ∉ d.2) ∧
      ∀ e ∈ paraTimes, ∀ d ∈ paraTimes, e.1 ∉ d.2 := by
  decide

theorem followParas_loads (listed : (para, [time]) ∈ paraTimes)
    (changed : s.getUval para ≠ s.getUold para) :
    (followParas s).getUval time = minutes (s.getUval para) := by
  obtain ⟨apart, noTime⟩ := paraTimes_apart
  obtain ⟨before, after, split⟩ := List.append_of_mem listed
  rw [split, List.pairwise_append, List.pairwise_cons] at apart
  obtain ⟨-, ⟨later, -⟩, earlier⟩ := apart
  have unread (entry : Nat × List Nat) (mem : entry ∈ before) : para ∉ entry.2 :=
    noTime _ listed entry (split ▸ List.mem_append_left _ mem)
  have unseen (entry : Nat × List Nat) (mem : entry ∈ before) : para ≠ entry.1 :=
    (earlier entry mem _ List.mem_cons_self).1.symm
  have untouched (entry : Nat × List Nat) (mem : entry ∈ after) : time ∉ entry.2 :=
    (later entry mem).2 time List.mem_cons_self
  rw [followParas, split, List.foldl_append, List.foldl_cons, followParas_getUval untouched]
  have read := followParas_getUval unread s
  rw [← followParas_getUold unseen s, ← read] at changed
  rw [followPara_loads changed, read]

theorem acceptDamper_out (s : Incubator) :
    AgreeOff [Reg.rAiAd, Reg.pEditAd] s.shmOut (acceptDamper s).shmOut ∧
      AgreeOff [Reg.pEditAd] s.shmOld (acceptDamper s).shmOld := by
  have settled (t : Incubator) (st : Within [Reg.rAiAd, Reg.pEditAd] s t) :
      AgreeOff [Reg.rAiAd, Reg.pEditAd] s.shmOut
          (t |> setOld Reg.pEditAd 0xffff |> setVal Reg.pEditAd 0xffff).shmOut ∧
        AgreeOff [Reg.pEditAd] s.shmOld
          (t |> setOld Reg.pEditAd 0xffff |> setVal Reg.pEditAd 0xffff).shmOld := by
    have written : AgreeOff [Reg.pEditAd] t.shmOut
        (t |> setOld Reg.pEditAd 0xffff |> setVal Reg.pEditAd 0xffff).shmOut :=
      agreeOff_update _ _ _
    refine ⟨st.out.trans (written.mono (by decide)), ?_⟩
    rw [← st.old]
    exact agreeOff_update _ _ _
  rw [acceptDamper]
  split
  · refine settled _ ?_
    simp (disch := decide) only [within_ite, within_setVal, Within.refl, ite_self]
  · exact ⟨.refl _ _, .refl _ _⟩

/-- What comes before the parameters does not touch them. -/
theorem runSysTime_loads (listed : (para, [time]) ∈ paraTimes)
    (changed : s.getUval para ≠ s.getUold para) (now : Int) :
    (runSysTime now s).getUval time = minutes (s.getUval para) := by
  have apart : ∀ entry ∈ paraTimes,
      entry.1 ∉ timePartWrites ∧ entry.1 ∉ [Reg.rAiAd, Reg.pEditAd] := by
    decide
  obtain ⟨noTime, noDamper⟩ := apart _ listed
  have timed := timePart_within now s
  obtain ⟨written, seen⟩ := acceptDamper_out (timePart now s)
  have value : (acceptDamper (timePart now s)).getUval para = s.getUval para :=
    (getUval_agree written noDamper).trans (timed.getUval noTime)
  have old : (acceptDamper (timePart now s)).getUold para = s.getUold para := by
    rw [timed.old] at seen
    exact congrArg shm2ushort (seen para fun mem => noDamper (List.mem_cons_of_mem _ mem))
  rw [← value, ← old] at changed
  rw [runSysTime_eq, followParas_loads listed changed, value]

end

/-! ## Tests -/

/-- The call starts a test: one of the twelve buttons is pressed, no test runs, and the damper is
not at the end that it is to be driven to. -/
def StartsTest (s : Incubator) : Prop :=
  (∃ row ∈ testRows, getTestMode s = row.code) ∧ s.getVal Reg.testControlMode = 0 ∧
    (getTestMode s = 0x04 → s.getVal Reg.detectDamperFullyOpen = 0) ∧
    (getTestMode s = 0x08 → s.getVal Reg.detectDamperFullyClose = 0)

section

variable {s t : Incubator} {status : Int} {row : TestRow}

theorem testStarted_time (st : Within testWrites s t) :
    (testStarted status t).getUval Reg.testBtnTime = minutes (s.getUval Reg.pHh3) := by
  rw [testStarted, setUval_eq, getUval_setVal_self, st.getVal (by decide), minutes_getVal]

/-- Every button loads the time of a test. -/
theorem startTest_time (mem : row ∈ testRows)
    (opens : row.code = 0x04 → s.getVal Reg.detectDamperFullyOpen = 0)
    (closes : row.code = 0x08 → s.getVal Reg.detectDamperFullyClose = 0) :
    (startTest row.code s).getUval Reg.testBtnTime = minutes (s.getUval Reg.pHh3) := by
  have registers : ∀ row ∈ testRows, row.mode ∈ testWrites ∧ row.output ∈ testWrites := by
    decide
  have plain (same : startTest row.code s = testOn row.mode row.output row.code s) :
      (startTest row.code s).getUval Reg.testBtnTime = minutes (s.getUval Reg.pHh3) := by
    obtain ⟨mode, output⟩ := registers row mem
    rw [same]
    exact testStarted_time (by simp only [within_setVal mode, within_setVal output, Within.refl])
  simp only [testRows, List.mem_cons, List.not_mem_nil, or_false] at mem
  rcases mem with rfl | rfl | rfl | rfl | rfl | rfl | rfl | rfl | rfl | rfl | rfl | rfl
  · exact plain rfl
  · exact plain rfl
  · have begun : startTest 0x04 s = testStarted 0x04
        (controlOpenDamper on (setVal Reg.testDamperOpenMode on s)) := if_pos (opens rfl)
    rw [begun]
    refine testStarted_time ?_
    simp (disch := decide) only [within_controlOpenDamper, within_setVal, Within.refl]
  · have begun : startTest 0x08 s = testStarted 0x08
        (controlCloseDamper on 0 (setVal Reg.testDamperCloseMode on s)) := if_pos (closes rfl)
    rw [begun]
    refine testStarted_time ?_
    simp (disch := decide) only [within_controlCloseDamper, within_setVal, Within.refl]
  · exact plain rfl
  · show (startTest 0x20 s).getUval Reg.testBtnTime = _
    rw [startTest_eggs, setUval_eq, getUval_setVal_of_ne _ _ (by decide), setUval_eq,
      getUval_setVal_self, minutes_getVal]
  · exact plain rfl
  · exact plain rfl
  · exact plain rfl
  · exact plain rfl
  · exact plain rfl
  · refine testStarted_time ?_
    simp (disch := decide) only [within_ite, within_setVal, Within.refl, ite_self]

theorem testControlMode_time (starts : StartsTest s) :
    (testControlMode s).getUval Reg.testBtnTime = minutes (s.getUval Reg.pHh3) := by
  have positive : ∀ row ∈ testRows, row.code > 0 := by
    decide
  obtain ⟨⟨row, mem, pressed⟩, idle, opens, closes⟩ := starts
  rw [pressed] at opens closes
  rw [testControlMode, pressed, if_pos ⟨positive row mem, idle⟩]
  exact startTest_time mem opens closes

theorem flipEggs_time (s : Incubator) :
    (flipEggs s).getUval Reg.pEggFlippingTime = minutes (s.getUval Reg.pHh10) := by
  rw [flipEggs, getUval_setVal_of_ne _ _ (by decide), getUval_setVal_of_ne _ _ (by decide),
    getUval_setVal_self, minutes, ushort_eq, ushort_eq, Int.emod_emod]

theorem testControlMode_eggTime (turns : TurnsEggs s) :
    (testControlMode s).getUval Reg.pEggFlippingTime = minutes (s.getUval Reg.pHh10) := by
  rw [testControlMode_of_turnsEggs turns, startTest_eggs, setUval_eq,
    getUval_setVal_of_ne _ _ (by decide), setUval_eq, getUval_setVal_of_ne _ _ (by decide),
    flipEggs_time, getUval_setVal_of_ne _ _ (by decide)]

end

/-! ## Alarms -/

/-- There is too much humidity, and no delay yet. -/
def HumiLoads (s : Incubator) : Prop :=
  s.getVal Reg.rAiHm ≥ s.getVal Reg.highHumiAlarmValue + s.getVal Reg.pHys ∧
    s.getVal Reg.highHumidityAlarmDelayStatus = 0

/-- The return alarms of a round, and those that the thread remembers, differ. -/
def ReturnLoads (high low : Int) (m : AlarmThread) : Prop :=
  high + low > 0 ∧ high + low ≠ m.refTempModeOld

/-- The turn signal comes. -/
def EggLoads (s : Incubator) : Prop :=
  s.getUval Reg.detectFlipEgg = on ∧ s.getVal Reg.eggFlippingSignalRingingStatus = on

/-- The turn signal goes. -/
def NoEggLoads (s : Incubator) : Prop :=
  s.getUval Reg.detectFlipEgg ≠ on ∧ s.getVal Reg.noEggFlippingSignalRingingStatus = on

section

variable {m : AlarmThread} {s : Incubator} {high low : Int}

theorem highHumiAlarm_time (loads : HumiLoads s) :
    (highHumiAlarm s).getUval Reg.highHumidityAlarmDelayTime = minutes (s.getUval Reg.pHh11) := by
  have settled (t : Incubator) : Within [Reg.highHumidityAlarmDelayStatus, Reg.outStHmHighAlarm,
      Reg.highHumiAlarmStatus] t (if t.getVal Reg.rAiHm < t.getVal Reg.highHumiAlarmValue then
        t |> setVal Reg.highHumidityAlarmDelayStatus off
          |> raiseAlarm Reg.outStHmHighAlarm Reg.highHumiAlarmStatus off
      else t) := by
    simp (disch := decide) only [within_ite, within_raiseAlarm, within_setVal, Within.refl,
      ite_self]
  rw [highHumiAlarm, if_pos loads.1, if_pos loads.2, (settled _).getUval (by decide),
    getUval_setVal_of_ne _ _ (by decide), getUval_setVal_self, minutes_getVal]

/-- A change of the return alarms loads the time of the kind that changes. -/
theorem returnTimes_time (loads : high + low ≠ m.refTempModeOld) :
    (high ≠ m.refTempModeHighOld →
      (m.returnTimes high low).inc.getUval Reg.returnTempHighTempAlarmTime =
        minutes (m.inc.getUval Reg.pHh5)) ∧
    (low ≠ m.refTempModeLowOld →
      (m.returnTimes high low).inc.getUval Reg.returnTempLowTempAlarmTime =
        minutes (m.inc.getUval Reg.pHh0)) := by
  rw [AlarmThread.returnTimes, if_pos loads]
  by_cases highChanged : high ≠ m.refTempModeHighOld
  · have kept : (setUval Reg.returnTempHighTempAlarmTime (m.inc.getVal Reg.pHh5 * 60) m.inc).getVal
        Reg.pHh0 = m.inc.getVal Reg.pHh0 := getVal_setVal_of_ne _ _ (by decide)
    have loaded : (setUval Reg.returnTempHighTempAlarmTime (m.inc.getVal Reg.pHh5 * 60)
        m.inc).getUval Reg.returnTempHighTempAlarmTime = minutes (m.inc.getUval Reg.pHh5) := by
      rw [setUval_eq, getUval_setVal_self, minutes_getVal]
    simp only [if_pos highChanged, kept]
    by_cases lowChanged : low ≠ m.refTempModeLowOld
    · simp only [if_pos lowChanged]
      constructor
      · intro _
        exact (getUval_setVal_of_ne _ _ (by decide)).trans loaded
      · intro _
        rw [setUval_eq, getUval_setVal_self, minutes_getVal]
    · simp only [if_neg lowChanged]
      exact ⟨fun _ => loaded, fun changed => absurd changed lowChanged⟩
  · simp only [if_neg highChanged]
    constructor
    · intro changed
      exact absurd changed highChanged
    · intro lowChanged
      simp only [if_pos lowChanged]
      rw [setUval_eq, getUval_setVal_self, minutes_getVal]

theorem eggAlarm_time (loads : EggLoads s) :
    (eggAlarm s).getUval Reg.eggFlippingSignalAlarmTime = minutes (s.getUval Reg.pHh1) := by
  rw [eggAlarm, if_pos loads.1, if_pos loads.2, setUval_eq, getUval_setVal_of_ne _ _ (by decide),
    setUval_eq, getUval_setVal_of_ne _ _ (by decide), setUval_eq, getUval_setVal_self, minutes]

theorem eggAlarm_noTime (loads : NoEggLoads s) :
    (eggAlarm s).getUval Reg.noEggFlippingSignalAlarmTime = minutes (s.getUval Reg.pHh8) := by
  rw [eggAlarm, if_neg loads.1, if_pos loads.2, setUval_eq, getUval_setVal_of_ne _ _ (by decide),
    setUval_eq, getUval_setVal_of_ne _ _ (by decide), setUval_eq,
    getUval_setVal_of_ne _ _ (by decide), setUval_eq, getUval_setVal_self, minutes]

theorem returnLamp_time (loads : ReturnLoads high low m) :
    (high ≠ m.refTempModeHighOld →
      (m.returnLamp high low).inc.getUval Reg.returnTempHighTempAlarmTime =
        minutes (m.inc.getUval Reg.pHh5)) ∧
    (low ≠ m.refTempModeLowOld →
      (m.returnLamp high low).inc.getUval Reg.returnTempLowTempAlarmTime =
        minutes (m.inc.getUval Reg.pHh0)) := by
  have sums : Within (List.range' Reg.returnTempHighTempAlarmStatus 3) m.inc (m.onInc fun s =>
      s |> setUval Reg.returnTempHighTempAlarmStatus high
        |> setUval Reg.returnTempLowTempAlarmStatus low
        |> setUval Reg.returnTempTotalTempAlarmStatus (high + low)).inc := by
    simp (disch := decide) only [AlarmThread.onInc, within_setUval, Within.refl]
  have lamp (t : Incubator) : Within [Reg.outStRefTempAlarm] t
      (if low > 0 then setVal Reg.outStRefTempAlarm on
        (if high > 0 then setVal Reg.outStRefTempAlarm on t else t)
      else (if high > 0 then setVal Reg.outStRefTempAlarm on t else t)) := by
    simp (disch := decide) only [within_ite, within_setVal, Within.refl, ite_self]
  rw [AlarmThread.returnLamp, if_pos loads.1, ← sums.getUval (i := Reg.pHh5) (by decide),
    ← sums.getUval (i := Reg.pHh0) (by decide)]
  obtain ⟨highTime, lowTime⟩ := returnTimes_time (m := m.onInc fun s =>
    s |> setUval Reg.returnTempHighTempAlarmStatus high
      |> setUval Reg.returnTempLowTempAlarmStatus low
      |> setUval Reg.returnTempTotalTempAlarmStatus (high + low)) loads.2
  constructor
  · intro changed
    exact ((lamp _).getUval (by decide)).trans (highTime changed)
  · intro changed
    exact ((lamp _).getUval (by decide)).trans (lowTime changed)

/-- What a round loads before its end it does not write again. -/
theorem highHumi_round (m : AlarmThread) :
    m.threadAlarmFunc.inc.getUval Reg.highHumidityAlarmDelayTime =
      (highHumiAlarm (tempAlarm m.inc)).getUval Reg.highHumidityAlarmDelayTime := by
  have low := lowHumiAlarm_within (highHumiAlarm (tempAlarm m.inc))
  have first := returnAlarm1.round_within (lowHumiAlarm (highHumiAlarm (tempAlarm m.inc)))
  have second := returnAlarm2.round_within
    (returnAlarm1.round (lowHumiAlarm (highHumiAlarm (tempAlarm m.inc))))
  have third := returnAlarm3.round_within (returnAlarm2.round
    (returnAlarm1.round (lowHumiAlarm (highHumiAlarm (tempAlarm m.inc)))))
  have fourth := returnAlarm4.round_within (returnAlarm3.round (returnAlarm2.round
    (returnAlarm1.round (lowHumiAlarm (highHumiAlarm (tempAlarm m.inc))))))
  rw [(AlarmThread.threadAlarmFunc_within m).getUval (by decide), alarmSections,
    fourth.getUval (by decide), third.getUval (by decide), second.getUval (by decide),
    first.getUval (by decide), low.getUval (by decide)]

theorem afterEggs_within (m : AlarmThread) :
    Within (co2AlarmWrites ++ [Reg.refluxTemperature] ++ fanAlarmWrites ++ sensorLampWrites ++
      soundAlarmWrites) (eggAlarm (beforeEggs m).inc) m.threadAlarmFunc.inc :=
  ((eggs_fan_within m).mono (by decide)).trans
    (((AlarmThread.fanAlarm_within (beforeFan m)).mono (by decide)).trans
      ((afterFan_within m).mono (by decide)))

theorem afterReturn_within (m : AlarmThread) :
    Within (eggAlarmWrites ++ co2AlarmWrites ++ [Reg.refluxTemperature] ++ fanAlarmWrites ++
      sensorLampWrites ++ soundAlarmWrites) (beforeEggs m).inc m.threadAlarmFunc.inc :=
  ((eggAlarm_within _).mono (by decide)).trans ((afterEggs_within m).mono (by decide))

theorem returnLamp_statusFanMode (high low : Int) (m : AlarmThread) :
    (m.returnLamp high low).statusFanMode = m.statusFanMode := by
  have times (m : AlarmThread) : (m.returnTimes high low).statusFanMode = m.statusFanMode := by
    rw [AlarmThread.returnTimes]
    split
    · dsimp only
      split <;> split <;> rfl
    · rfl
  rw [AlarmThread.returnLamp]
  split
  · exact times _
  · rfl

theorem fan_round (loads : FanLoads m) :
    m.threadAlarmFunc.inc.getUval Reg.fanAlarmTime = minutes (m.inc.getUval Reg.pHh7) := by
  have before := beforeFan_within m
  have remembered : (beforeFan m).statusFanMode = m.statusFanMode :=
    returnLamp_statusFanMode _ _ (m.onInc alarmSections)
  have still : FanLoads (beforeFan m) := by
    obtain ⟨stop, signal⟩ := loads
    rw [FanLoads, before.getVal (by decide), before.getVal (by decide), remembered,
      fanStopSignal_within before (by decide)]
    exact ⟨stop, signal⟩
  rw [(afterFan_within m).getUval (by decide), fanAlarm_loads still, before.getVal (by decide),
    minutes_getVal]

end

/-! ## Calibration -/

theorem checkStart_time {s : Incubator} (send : s.getVal Reg.rCheckSend = on)
    (recv : s.getVal Reg.rCheckRecv = off) :
    (checkStart s).getUval Reg.calibrationRunTime = minutes (s.getUval Reg.pHh9) := by
  have word : (checkStart s).reg Reg.calibrationRunTime =
      BitVec.ofInt 16 ((s.reg Reg.pHh9).toNat * 60) := by
    show (checkStart s).modes.calibrationTime = _
    rw [modes_checkStart, Modes.checkStart, if_pos]
    · rfl
    · exact ⟨(getVal_eq_on s _).mp send, (getVal_eq_off s _).mp recv⟩
  rw [getUval_eq, word, minutes, ushort, getUval_eq]

/-! ## Every place that loads a setting -/

/-- From the first state to the second a procedure loads the setting of a parameter into the
register of a time. -/
inductive Reload : Nat → Nat → Incubator → Incubator → Prop where
  | runSysTime {para time : Nat} {now : Int} {s : Incubator} (listed : (para, [time]) ∈ paraTimes)
      (changed : s.getUval para ≠ s.getUold para) : Reload para time s (runSysTime now s)
  | controlEgg {s : Incubator} (free : s.getVal Reg.testFilpEggMode = 0) :
      Reload Reg.pHh10 Reg.pEggFlippingTime s (controlEgg s)
  | test {s : Incubator} (starts : StartsTest s) :
      Reload Reg.pHh3 Reg.testBtnTime s (testControlMode s)
  | testEggs {s : Incubator} (turns : TurnsEggs s) :
      Reload Reg.pHh10 Reg.pEggFlippingTime s (testControlMode s)
  | highHumi {m : AlarmThread} (loads : HumiLoads (tempAlarm m.inc)) :
      Reload Reg.pHh11 Reg.highHumidityAlarmDelayTime m.inc m.threadAlarmFunc.inc
  | returnHigh {m : AlarmThread} {high low : Int}
      (modes : high = refTempModeHigh (alarmSections m.inc) ∧
        low = refTempModeLow (alarmSections m.inc))
      (loads : ReturnLoads high low m) (changed : high ≠ m.refTempModeHighOld) :
      Reload Reg.pHh5 Reg.returnTempHighTempAlarmTime m.inc m.threadAlarmFunc.inc
  | returnLow {m : AlarmThread} {high low : Int}
      (modes : high = refTempModeHigh (alarmSections m.inc) ∧
        low = refTempModeLow (alarmSections m.inc))
      (loads : ReturnLoads high low m) (changed : low ≠ m.refTempModeLowOld) :
      Reload Reg.pHh0 Reg.returnTempLowTempAlarmTime m.inc m.threadAlarmFunc.inc
  | egg {m : AlarmThread} (loads : EggLoads m.inc) :
      Reload Reg.pHh1 Reg.eggFlippingSignalAlarmTime m.inc m.threadAlarmFunc.inc
  | noEgg {m : AlarmThread} (loads : NoEggLoads m.inc) :
      Reload Reg.pHh8 Reg.noEggFlippingSignalAlarmTime m.inc m.threadAlarmFunc.inc
  | fan {m : AlarmThread} (loads : FanLoads m) :
      Reload Reg.pHh7 Reg.fanAlarmTime m.inc m.threadAlarmFunc.inc
  | checkStart {s : Incubator} (send : s.getVal Reg.rCheckSend = on)
      (recv : s.getVal Reg.rCheckRecv = off) :
      Reload Reg.pHh9 Reg.calibrationRunTime s (checkStart s)

section

variable {para time : Nat} {s t : Incubator}

theorem Reload.time_eq (loads : Reload para time s t) :
    t.getUval time = minutes (s.getUval para) := by
  cases loads with
  | runSysTime listed changed => exact runSysTime_loads listed changed _
  | controlEgg free =>
      rw [Jincubator.controlEgg, if_pos free]
      exact flipEggs_time s
  | test starts => exact testControlMode_time starts
  | testEggs turns => exact testControlMode_eggTime turns
  | highHumi loads =>
      rename_i m
      rw [highHumi_round, highHumiAlarm_time loads, (tempAlarm_within _).getUval (by decide)]
  | returnHigh modes loads changed =>
      rename_i m high low
      obtain ⟨rfl, rfl⟩ := modes
      have lamp := (returnLamp_time (m := m.onInc alarmSections) loads).1 changed
      rw [(afterReturn_within m).getUval (by decide)]
      exact lamp.trans (congrArg minutes ((alarmSections_within m.inc).getUval (by decide)))
  | returnLow modes loads changed =>
      rename_i m high low
      obtain ⟨rfl, rfl⟩ := modes
      have lamp := (returnLamp_time (m := m.onInc alarmSections) loads).2 changed
      rw [(afterReturn_within m).getUval (by decide)]
      exact lamp.trans (congrArg minutes ((alarmSections_within m.inc).getUval (by decide)))
  | egg loads =>
      rename_i m
      have before := beforeEggs_within m
      have still : EggLoads (beforeEggs m).inc := by
        rw [EggLoads, before.getUval (by decide), before.getVal (by decide)]
        exact loads
      rw [(afterEggs_within m).getUval (by decide), eggAlarm_time still,
        before.getUval (by decide)]
  | noEgg loads =>
      rename_i m
      have before := beforeEggs_within m
      have still : NoEggLoads (beforeEggs m).inc := by
        rw [NoEggLoads, before.getUval (by decide), before.getVal (by decide)]
        exact loads
      rw [(afterEggs_within m).getUval (by decide), eggAlarm_noTime still,
        before.getUval (by decide)]
  | fan loads => exact fan_round loads
  | checkStart send recv => exact checkStart_time send recv

theorem Reload.listed (loads : Reload para time s t) :
    time ∈ secondTimes ∧ time ∉ secondCounts := by
  have times : ∀ entry ∈ paraTimes, ∀ time ∈ entry.2,
      time ∈ secondTimes ∧ time ∉ secondCounts := by
    decide
  cases loads with
  | runSysTime listed changed => exact times _ listed time List.mem_cons_self
  | controlEgg | test | testEggs | highHumi | returnHigh | returnLow | egg | noEgg | fan
  | checkStart => decide

end

/-! ## Running down -/

/-- A second of the timer, or any input but the time that runs down. -/
inductive TimeEvent (time : Nat) where
  | second
  | input (index : Nat) (free : index ≠ time) (value : Int)

def timeStep {time : Nat} (s : Incubator) : TimeEvent time → Incubator
  | .second => second s
  | .input index _ value => setVal index value s

def TimeEvent.seconds {time : Nat} : TimeEvent time → Int
  | .second => 1
  | .input _ _ _ => 0

/-- The seconds of a run. -/
def seconds {time : Nat} (es : List (TimeEvent time)) : Int := (es.map TimeEvent.seconds).sum

section

variable {para time : Nat} {s t : Incubator}

theorem seconds_nonneg (es : List (TimeEvent time)) : 0 ≤ seconds es := by
  refine List.sum_nonneg ?_
  intro n mem
  obtain ⟨e, -, rfl⟩ := List.mem_map.mp mem
  cases e with
  | second => exact Int.one_nonneg
  | input => exact le_refl 0

/-- A time runs down to zero by the seconds that pass. -/
theorem run_seconds (listed : time ∈ secondTimes) (apart : time ∉ secondCounts) (s : Incubator)
    (es : List (TimeEvent time)) :
    (run timeStep s es).getUval time = max 0 (s.getUval time - seconds es) := by
  induction es generalizing s with
  | nil =>
      have range := getUval_range s time
      rw [run_nil, seconds, List.map_nil, List.sum_nil]
      omega
  | cons e es ih =>
      have later := seconds_nonneg es
      rw [run_cons, ih]
      rw [seconds] at later ⊢
      rw [seconds, List.map_cons, List.sum_cons]
      cases e with
      | second =>
          have passed : (timeStep s (.second : TimeEvent time)).getUval time =
              max 0 (s.getUval time - 1) := second_runsDown listed apart s
          have one : (.second : TimeEvent time).seconds = 1 := rfl
          rw [passed, one]
          omega
      | input index free value =>
          have kept : (timeStep s (.input index free value)).getUval time = s.getUval time :=
            getUval_setVal_of_ne _ _ (Ne.symm free)
          have none : (TimeEvent.input index free value).seconds = 0 := rfl
          rw [kept, none]
          omega

/-- The time holds a setting in seconds, and has run down once as many have passed, not before. -/
def Lasts (setting : Int) (time : Nat) (s : Incubator) : Prop :=
  s.getUval time = setting * 60 ∧ ∀ es : List (TimeEvent time),
    (run timeStep s es).getUval time = 0 ↔ setting * 60 ≤ seconds es

/-- A setting that is loaded lasts for as many minutes exactly if there are at most 1092. -/
theorem countdown_iff (loads : Reload para time s t) :
    Lasts (s.getUval para) time t ↔ s.getUval para ≤ 1092 := by
  obtain ⟨listed, apart⟩ := loads.listed
  have value := loads.time_eq
  have range := getUval_range s para
  rw [minutes, ushort_eq] at value
  constructor
  · intro lasts
    have exactly := lasts.1
    omega
  · intro small
    have exactly : t.getUval time = s.getUval para * 60 := by omega
    refine ⟨exactly, ?_⟩
    intro es
    rw [run_seconds listed apart, exactly]
    omega

end

/-- The eggs are to be turned after a setting. -/
def turnsAfter (setting : Int) : Incubator := setVal Reg.pHh10 setting cleared

theorem countdown_iff_hour : (turnsAfter 60).getUval Reg.pHh10 = 60 ∧
    Lasts 60 Reg.pEggFlippingTime (controlEgg (turnsAfter 60)) := by
  have setting : (turnsAfter 60).getUval Reg.pHh10 = 60 := by
    decide +kernel
  have loads : Reload Reg.pHh10 Reg.pEggFlippingTime (turnsAfter 60) (controlEgg (turnsAfter 60)) :=
    .controlEgg (by decide +kernel)
  have lasts := (countdown_iff loads).mpr (by decide +kernel)
  rw [setting] at lasts
  exact ⟨setting, lasts⟩

/-- The seconds of 1093 minutes do not fit: only 44 of them are loaded. -/
theorem countdown_too_short : (turnsAfter 1093).getUval Reg.pHh10 = 1093 ∧
    Reload Reg.pHh10 Reg.pEggFlippingTime (turnsAfter 1093) (controlEgg (turnsAfter 1093)) ∧
    (controlEgg (turnsAfter 1093)).getUval Reg.pEggFlippingTime = 44 ∧
    ¬Lasts 1093 Reg.pEggFlippingTime (controlEgg (turnsAfter 1093)) := by
  have loaded : (controlEgg (turnsAfter 1093)).getUval Reg.pEggFlippingTime = 44 := by
    decide +kernel
  refine ⟨by decide +kernel, .controlEgg (by decide +kernel), loaded, fun lasts => ?_⟩
  rw [Lasts, loaded] at lasts
  exact absurd lasts.1 (by decide)

end Jincubator
