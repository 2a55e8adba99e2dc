import Jincubator.AlarmThread
import Jincubator.Library.Run

/-! # High and low alarms

A high alarm is withdrawn below its limit and a low alarm above its own, both
after anything has been raised, so the two never stand together while the limits
are in order. The auxiliary detector of the main temperature breaks the rule: it
raises the high alarm, and while it is on the low alarm is not withdrawn.
-/

namespace Jincubator

open Incubator Run

/-- The limits and the states of a pair of alarms. -/
structure AlarmLoop where
  high : Nat
  low : Nat
  highStatus : Nat
  lowStatus : Nat

def tempAlarmLoop : AlarmLoop where
  high := Reg.highTempAlarmValue
  low := Reg.lowTempAlarmValue
  highStatus := Reg.highTempAlarmStatus
  lowStatus := Reg.lowTempAlarmStatus

def humiAlarmLoop : AlarmLoop where
  high := Reg.highHumiAlarmValue
  low := Reg.lowHumiAlarmValue
  highStatus := Reg.highHumiAlarmStatus
  lowStatus := Reg.lowHumiAlarmStatus

def ReturnAlarm.loop (c : ReturnAlarm) : AlarmLoop where
  high := c.high
  low := c.low
  highStatus := c.highStatus
  lowStatus := c.lowStatus

def alarmLoops : List AlarmLoop :=
  tempAlarmLoop :: humiAlarmLoop :: returnAlarms.map ReturnAlarm.loop

def alarmStatuses : List Nat := alarmLoops.flatMap fun loop => [loop.highStatus, loop.lowStatus]

namespace AlarmLoop

variable (loop : AlarmLoop)

def Ordered (s : Incubator) : Prop := s.getVal loop.low < s.getVal loop.high

instance (s : Incubator) : Decidable (loop.Ordered s) := inferInstanceAs (Decidable (_ < _))

/-- The high and the low alarm are on together. -/
def Both (s : Incubator) : Prop :=
  s.getVal loop.highStatus = on ∧ s.getVal loop.lowStatus = on

instance (s : Incubator) : Decidable (loop.Both s) := inferInstanceAs (Decidable (_ ∧ _))

variable {loop} {writes : List Nat} {s t : Incubator}

theorem Ordered.within (st : Within writes s t) (untouched : loop.high ∉ writes ∧
    loop.low ∉ writes) : loop.Ordered t ↔ loop.Ordered s := by
  rw [Ordered, Ordered, st.getVal untouched.1, st.getVal untouched.2]

theorem Both.within (st : Within writes s t) (untouched : loop.highStatus ∉ writes ∧
    loop.lowStatus ∉ writes) : loop.Both t ↔ loop.Both s := by
  rw [Both, Both, st.getVal untouched.1, st.getVal untouched.2]

end AlarmLoop

/-- The limits as a round computes them are in order. -/
def LimitsOrdered (s : Incubator) : Prop :=
  ∀ loop ∈ alarmLoops, loop.Ordered (tempUpdateParaData s)

instance (s : Incubator) : Decidable (LimitsOrdered s) :=
  inferInstanceAs (Decidable (∀ _ ∈ _, _))

def AlarmsExclusive (s : Incubator) : Prop := ∀ loop ∈ alarmLoops, ¬loop.Both s

instance (s : Incubator) : Decidable (AlarmsExclusive s) :=
  inferInstanceAs (Decidable (∀ _ ∈ _, _))

/-- The auxiliary detector, on or at least not off, meets the low alarm of the main temperature
and the high one is raised. -/
def AuxMeetsLow (s : Incubator) : Prop :=
  s.getVal Reg.lowTempAlarmStatus = on ∧
    (s.getVal Reg.detectAuxHighTemp = on ∨
      s.getVal Reg.detectAuxHighTemp ≠ off ∧
        s.getVal Reg.rAiTpMain ≥
          (tempUpdateParaData s).getVal Reg.highTempAlarmValue + s.getVal Reg.pHys)

instance (s : Incubator) : Decidable (AuxMeetsLow s) := inferInstanceAs (Decidable (_ ∧ _))

/-! ## Standing alarms -/

section

variable {s t : Incubator} {status : Nat}

/-- An alarm that is kept in a register stands if it is not withdrawn and was raised or stood
before. -/
theorem alarm_stands {write : Int → Incubator → Incubator} {set clear : Incubator → Prop}
    [DecidablePred set] [DecidablePred clear]
    (written : ∀ v t, (write v t).getVal status = short v)
    (same : clear (write on s) ↔ clear s) :
    (Hysteresis.round write on off set clear s).getVal status = on ↔
      ¬clear s ∧ (set s ∨ s.getVal status = on) := by
  refine Hysteresis.round_stands (fun t : Incubator => t.getVal status) (by decide) ?_ ?_ same
  · intro t
    rw [written]
    decide
  · intro t
    rw [written]
    decide

theorem getVal_raiseAlarm {lamp : Nat} (v : Int) (t : Incubator) :
    (raiseAlarm lamp status v t).getVal status = short v :=
  getVal_setVal_self _ _ _

namespace ReturnAlarm

variable {c : ReturnAlarm}

/-- The states are no limits and no reading. -/
def Apart (c : ReturnAlarm) : Prop :=
  (∀ i ∈ [c.reading, c.high, c.low], i ≠ c.highStatus ∧ i ≠ c.lowStatus) ∧
    c.highStatus ≠ c.lowStatus ∧ c.lowStatus ≠ c.sensor

instance (c : ReturnAlarm) : Decidable c.Apart := inferInstanceAs (Decidable (_ ∧ _))

theorem highAlarm_stands (apart : c.Apart)
    (stands : (c.highAlarm s).getVal c.highStatus = on) :
    s.getVal c.high ≤ s.getVal c.reading := by
  have reading := (apart.1 c.reading (by simp)).1
  have high := (apart.1 c.high (by simp)).1
  rw [highAlarm_eq, alarm_stands fun v t => getVal_setVal_self t _ v] at stands
  · exact not_lt.mp stands.1
  · rw [getVal_setVal_of_ne _ _ reading, getVal_setVal_of_ne _ _ high]

theorem lowAlarm_stands (apart : c.Apart)
    (stands : (c.lowAlarm s).getVal c.lowStatus = on) : s.getVal c.reading ≤ s.getVal c.low := by
  have reading := (apart.1 c.reading (by simp)).2
  have low := (apart.1 c.low (by simp)).2
  rw [lowAlarm_eq, alarm_stands fun v t => getVal_setVal_self t _ v] at stands
  · exact not_lt.mp stands.1
  · rw [getVal_setVal_of_ne _ _ reading, getVal_setVal_of_ne _ _ low]

/-- With its limits in order a channel does not raise both alarms. -/
theorem round_not_both (apart : c.Apart) (ordered : c.loop.Ordered s) :
    ¬c.loop.Both (c.round s) := by
  rintro ⟨highStands, lowStands⟩
  change (c.round s).getVal c.highStatus = on at highStands
  change (c.round s).getVal c.lowStatus = on at lowStands
  obtain ⟨kept, distinct, sensor⟩ := id apart
  rw [round] at highStands lowStands
  by_cases enabled : c.Enabled s
  · rw [if_pos enabled] at highStands lowStands
    have raised := c.highAlarm_within s
    have lowered := c.lowAlarm_within (c.highAlarm s)
    rw [lowered.getVal (by simpa using distinct)] at highStands
    have above := highAlarm_stands apart highStands
    have below := lowAlarm_stands apart lowStands
    rw [raised.getVal (by simpa using (kept c.reading (by simp)).1),
      raised.getVal (by simpa using (kept c.low (by simp)).1)] at below
    exact absurd (lt_of_lt_of_le ordered (above.trans below)) (lt_irrefl _)
  · rw [if_neg enabled, getVal_setVal_of_ne _ _ sensor, getVal_setVal_self] at lowStands
    exact absurd lowStands (by decide)

end ReturnAlarm

theorem highHumiAlarm_stands (stands : (highHumiAlarm s).getVal Reg.highHumiAlarmStatus = on) :
    s.getVal Reg.highHumiAlarmValue ≤ s.getVal Reg.rAiHm := by
  obtain ⟨t, st, round⟩ : ∃ t, Within highHumiAlarmWrites s t ∧ highHumiAlarm s =
      if t.getVal Reg.rAiHm < t.getVal Reg.highHumiAlarmValue then
        setVal Reg.highHumiAlarmStatus off
          (t |> setVal Reg.highHumidityAlarmDelayStatus off |> setVal Reg.outStHmHighAlarm off)
      else t := by
    refine ⟨_, ?_, rfl⟩
    simp (disch := decide) only [within_raiseAlarm, within_setVal, within_ite, Within.refl,
      ite_self]
  have above : ¬t.getVal Reg.rAiHm < t.getVal Reg.highHumiAlarmValue := by
    intro below
    rw [round, if_pos below, getVal_setVal_self] at stands
    exact absurd stands (by decide)
  rw [st.getVal (by decide), st.getVal (by decide)] at above
  exact not_lt.mp above

theorem lowHumiAlarm_stands (stands : (lowHumiAlarm s).getVal Reg.lowHumiAlarmStatus = on) :
    s.getVal Reg.rAiHm ≤ s.getVal Reg.lowHumiAlarmValue := by
  have raised : Within lowHumiAlarmWrites s
      (raiseAlarm Reg.outStHmLowAlarm Reg.lowHumiAlarmStatus on s) := by
    simp (disch := decide) only [within_raiseAlarm, Within.refl]
  rw [lowHumiAlarm_eq, alarm_stands getVal_raiseAlarm] at stands
  · exact not_lt.mp stands.1
  · rw [raised.getVal (by decide), raised.getVal (by decide)]

/-- With its limits in order the humidity does not raise both alarms. -/
theorem humi_not_both (ordered : humiAlarmLoop.Ordered s) :
    ¬humiAlarmLoop.Both (lowHumiAlarm (highHumiAlarm s)) := by
  rintro ⟨highStands, lowStands⟩
  have high := highHumiAlarm_within s
  have low := lowHumiAlarm_within (highHumiAlarm s)
  rw [low.getVal (by decide)] at highStands
  have above := highHumiAlarm_stands highStands
  have below := lowHumiAlarm_stands lowStands
  rw [high.getVal (by decide), high.getVal (by decide)] at below
  exact absurd (lt_of_lt_of_le ordered (above.trans below)) (lt_irrefl _)

/-! ## The main temperature -/

theorem highTempAlarm_within (s : Incubator) :
    Within [Reg.outStTpHighAlarm, Reg.highTempAlarmStatus] s (highTempAlarm s) := by
  simp (disch := decide) only [highTempAlarm, within_raiseAlarm, within_ite, Within.refl, ite_self]

theorem lowTempAlarm_within (s : Incubator) :
    Within [Reg.outStTpLowAlarm, Reg.lowTempAlarmStatus] s (lowTempAlarm s) := by
  simp (disch := decide) only [lowTempAlarm, within_raiseAlarm, within_ite, Within.refl, ite_self]

theorem highTempAlarm_stands :
    (highTempAlarm s).getVal Reg.highTempAlarmStatus = on ↔
      ¬(s.getVal Reg.rAiTpMain < s.getVal Reg.highTempAlarmValue ∧
          s.getVal Reg.detectAuxHighTemp = off) ∧
        ((s.getVal Reg.rAiTpMain ≥ s.getVal Reg.highTempAlarmValue + s.getVal Reg.pHys ∨
            s.getVal Reg.detectAuxHighTemp = on) ∨
          s.getVal Reg.highTempAlarmStatus = on) := by
  have raised : Within [Reg.outStTpHighAlarm, Reg.highTempAlarmStatus] s
      (raiseAlarm Reg.outStTpHighAlarm Reg.highTempAlarmStatus on s) := by
    simp (disch := decide) only [within_raiseAlarm, Within.refl]
  rw [highTempAlarm_eq, alarm_stands getVal_raiseAlarm]
  rw [raised.getVal (by decide), raised.getVal (by decide), raised.getVal (by decide)]

theorem lowTempAlarm_stands :
    (lowTempAlarm s).getVal Reg.lowTempAlarmStatus = on ↔
      ¬(s.getVal Reg.rAiTpMain > s.getVal Reg.lowTempAlarmValue ∧
          s.getVal Reg.detectAuxHighTemp = off) ∧
        (s.getVal Reg.rAiTpMain ≤ s.getVal Reg.lowTempAlarmValue - s.getVal Reg.pHys ∧
            s.getVal Reg.detectAuxHighTemp = off ∨
          s.getVal Reg.lowTempAlarmStatus = on) := by
  have raised : Within [Reg.outStTpLowAlarm, Reg.lowTempAlarmStatus] s
      (raiseAlarm Reg.outStTpLowAlarm Reg.lowTempAlarmStatus on s) := by
    simp (disch := decide) only [within_raiseAlarm, Within.refl]
  rw [lowTempAlarm_eq, alarm_stands getVal_raiseAlarm]
  rw [raised.getVal (by decide), raised.getVal (by decide), raised.getVal (by decide)]

/-- With the limits in order both alarms stand exactly if the detector meets the low one. -/
theorem mainTemp_both_iff (ordered : tempAlarmLoop.Ordered s) (apart : ¬tempAlarmLoop.Both s) :
    tempAlarmLoop.Both (lowTempAlarm (highTempAlarm s)) ↔
      s.getVal Reg.lowTempAlarmStatus = on ∧
        (s.getVal Reg.detectAuxHighTemp = on ∨
          s.getVal Reg.detectAuxHighTemp ≠ off ∧
            s.getVal Reg.rAiTpMain ≥ s.getVal Reg.highTempAlarmValue + s.getVal Reg.pHys) := by
  have high := highTempAlarm_within s
  have low := lowTempAlarm_within (highTempAlarm s)
  change s.getVal Reg.lowTempAlarmValue < s.getVal Reg.highTempAlarmValue at ordered
  change ¬(s.getVal Reg.highTempAlarmStatus = on ∧ s.getVal Reg.lowTempAlarmStatus = on) at apart
  change (lowTempAlarm (highTempAlarm s)).getVal Reg.highTempAlarmStatus = on ∧
    (lowTempAlarm (highTempAlarm s)).getVal Reg.lowTempAlarmStatus = on ↔ _
  rw [low.getVal (by decide), highTempAlarm_stands, lowTempAlarm_stands, high.getVal (by decide),
    high.getVal (by decide), high.getVal (by decide), high.getVal (by decide),
    high.getVal (by decide)]
  unfold on off at *
  omega

/-! ## A round -/

/-- What the alarms of the main temperature write behind the limits. -/
def mainTempAlarmWrites : List Nat :=
  [Reg.outStTpHighAlarm, Reg.highTempAlarmStatus, Reg.outStTpLowAlarm, Reg.lowTempAlarmStatus]

theorem mainTempAlarm_within (s : Incubator) :
    Within mainTempAlarmWrites (tempUpdateParaData s) (tempAlarm s) :=
  ((highTempAlarm_within _).mono (by decide)).trans ((lowTempAlarm_within _).mono (by decide))

/-- A return-water channel does not leave the sections with both alarms. -/
theorem return_not_both {c : ReturnAlarm} (mem : c ∈ returnAlarms)
    (ordered : c.loop.Ordered (tempUpdateParaData s)) : ¬c.loop.Both (alarmSections s) := by
  have separate : ∀ c ∈ returnAlarms, c.Apart ∧
      (c.high ∉ mainTempAlarmWrites ∧ c.low ∉ mainTempAlarmWrites) ∧
      (c.high ∉ c.besides ∧ c.low ∉ c.besides) ∧
      (c.highStatus ∉ c.besides ∧ c.lowStatus ∉ c.besides) := by decide
  obtain ⟨apart, temp, limits, states⟩ := separate c mem
  obtain ⟨t, before, behind⟩ := alarmSections_channel mem s
  rw [AlarmLoop.Both.within behind states]
  apply ReturnAlarm.round_not_both apart
  rwa [AlarmLoop.Ordered.within before limits,
    AlarmLoop.Ordered.within (mainTempAlarm_within s) temp]

/-- Only the main temperature can leave the sections with both alarms. -/
theorem sections_exclusive_iff (ordered : LimitsOrdered s) :
    AlarmsExclusive (alarmSections s) ↔ ¬tempAlarmLoop.Both (tempAlarm s) := by
  rw [LimitsOrdered, alarmLoops, List.forall_mem_cons, List.forall_mem_cons] at ordered
  obtain ⟨-, humiOrdered, returnOrdered⟩ := ordered
  have humi : Within (highHumiAlarmWrites ++ lowHumiAlarmWrites) (tempAlarm s)
      (lowHumiAlarm (highHumiAlarm (tempAlarm s))) :=
    ((highHumiAlarm_within _).mono (by decide)).trans ((lowHumiAlarm_within _).mono (by decide))
  have humiApart := humi_not_both
    ((AlarmLoop.Ordered.within (mainTempAlarm_within s) (by decide)).mpr humiOrdered)
  have behind : Within (returnAlarms.flatMap ReturnAlarm.writes)
      (lowHumiAlarm (highHumiAlarm (tempAlarm s))) (alarmSections s) :=
    ((((returnAlarm1.round_within _).mono (by decide)).trans
      ((returnAlarm2.round_within _).mono (by decide))).trans
      ((returnAlarm3.round_within _).mono (by decide))).trans
      ((returnAlarm4.round_within _).mono (by decide))
  rw [AlarmsExclusive, alarmLoops, List.forall_mem_cons, List.forall_mem_cons,
    AlarmLoop.Both.within behind (by decide), AlarmLoop.Both.within humi (by decide)]
  refine and_iff_left ⟨?_, ?_⟩
  · rwa [AlarmLoop.Both.within behind (by decide)]
  · intro loop mem
    obtain ⟨c, channel, rfl⟩ := List.mem_map.mp mem
    exact return_not_both channel (returnOrdered c.loop mem)

/-- With the limits in order a round leaves a pair of alarms on exactly if the auxiliary detector
meets the low alarm. -/
theorem round_exclusive_iff (m : AlarmThread) (ordered : LimitsOrdered m.inc)
    (apart : AlarmsExclusive m.inc) :
    AlarmsExclusive m.threadAlarmFunc.inc ↔ ¬AuxMeetsLow m.inc := by
  have after := AlarmThread.threadAlarmFunc_within m
  have kept : AlarmsExclusive m.threadAlarmFunc.inc ↔ AlarmsExclusive (alarmSections m.inc) := by
    have untouched : ∀ loop ∈ alarmLoops,
        loop.highStatus ∉ lampPartWrites ∧ loop.lowStatus ∉ lampPartWrites := by decide
    refine forall₂_congr ?_
    intro loop mem
    rw [AlarmLoop.Both.within after (untouched loop mem)]
  rw [kept, sections_exclusive_iff ordered, tempAlarm, AuxMeetsLow]
  have limits := tempUpdateParaData_within m.inc
  have main : tempAlarmLoop ∈ alarmLoops := List.mem_cons_self
  have before : ¬tempAlarmLoop.Both (tempUpdateParaData m.inc) := by
    rw [AlarmLoop.Both.within limits (by decide)]
    exact apart tempAlarmLoop main
  rw [mainTemp_both_iff (ordered tempAlarmLoop main) before, limits.getVal (by decide),
    limits.getVal (by decide), limits.getVal (by decide),
    limits.getVal (i := Reg.pHys) (by decide)]

end

/-! ## Runs -/

/-- A round, or any other value in a register that is no state of an alarm. -/
inductive AlarmEvent where
  | round
  | input (index : Nat) (free : index ∉ alarmStatuses) (value : Int)

def alarmStep (m : AlarmThread) : AlarmEvent → AlarmThread
  | .round => m.threadAlarmFunc
  | .input index _ value => m.onInc (setVal index value)

theorem input_exclusive_iff (m : AlarmThread) {index : Nat} (free : index ∉ alarmStatuses)
    (value : Int) : AlarmsExclusive (m.onInc (setVal index value)).inc ↔ AlarmsExclusive m.inc := by
  have input : Within [index] m.inc (m.onInc (setVal index value)).inc := put_within _ _ _
  refine forall₂_congr ?_
  intro loop mem
  have states : ∀ i ∈ [loop.highStatus, loop.lowStatus], i ∉ [index] := by
    intro i state same
    rw [List.mem_singleton.mp same] at state
    exact free (List.mem_flatMap.mpr ⟨loop, mem, state⟩)
  rw [AlarmLoop.Both.within input ⟨states _ (by simp), states _ (by simp)⟩]

/-- In a run with the limits in order in each round, high and low alarms exclude each other
exactly if in no round the auxiliary detector meets the low alarm of the main temperature. -/
theorem alarms_exclusive_iff (m : AlarmThread) (silent : ∀ i ∈ alarmStatuses, m.inc.getVal i = off)
    (es : List AlarmEvent)
    (ordered : Along alarmStep (fun m e _ => e = .round → LimitsOrdered m.inc) m es) :
    Along alarmStep (fun _ _ t => AlarmsExclusive t.inc) m es ↔
      Along alarmStep (fun m e _ => e = .round → ¬AuxMeetsLow m.inc) m es := by
  have start : AlarmsExclusive m.inc := by
    rintro loop mem ⟨high, -⟩
    rw [silent _ (List.mem_flatMap.mpr ⟨loop, mem, List.mem_cons_self⟩)] at high
    exact absurd high (by decide)
  refine along_invariant_iff (fun m : AlarmThread => AlarmsExclusive m.inc) ?_ start ordered
  intro m e limits apart
  cases e with
  | round =>
      rw [alarmStep, round_exclusive_iff m (limits rfl) apart]
      exact ⟨fun apart _ => apart, fun apart => apart rfl⟩
  | input index free value =>
      rw [alarmStep, input_exclusive_iff m free value]
      exact iff_of_true apart fun round => nomatch round

/-- Absolute limits that are in order, and a temperature below the low one. -/
def coldStart : AlarmThread :=
  threadAlarmStart (cleared |> setVal Reg.pTempAh 3880 |> setVal Reg.pTempAl 3680
    |> setVal Reg.pHumAh 7000 |> setVal Reg.pHumAl 4000 |> setVal Reg.pRtempAh 3900
    |> setVal Reg.pRtempAl 3600 |> setVal Reg.rAiTpMain 3600)

theorem alarms_exclusive_iff_cold :
    Along alarmStep (fun _ _ t => AlarmsExclusive t.inc) coldStart [.round, .round] ↔
      Along alarmStep (fun m e _ => e = .round → ¬AuxMeetsLow m.inc) coldStart
        [.round, .round] :=
  alarms_exclusive_iff coldStart (by decide) [.round, .round]
    ⟨fun _ => by decide +kernel, fun _ => by decide +kernel, trivial⟩

/-- The auxiliary detector comes on between two rounds. -/
def auxComesOn : List AlarmEvent :=
  [.round, .input Reg.detectAuxHighTemp (by decide) on, .round]

/-- It meets the low alarm. -/
theorem coldStart_both_alarms :
    ¬∀ m es, (∀ i ∈ alarmStatuses, m.inc.getVal i = off) →
      Along alarmStep (fun m e _ => e = .round → LimitsOrdered m.inc ∧
        0 ≤ m.inc.getVal Reg.pHys ∧ 0 ≤ m.inc.getVal Reg.pRtempHys) m es →
      Along alarmStep (fun _ _ t => AlarmsExclusive t.inc) m es := by
  intro law
  have exclusive := law coldStart auxComesOn (by decide)
    ⟨fun _ => by decide +kernel, nofun, fun _ => by decide +kernel, trivial⟩
  exact absurd exclusive.2.2.1 (by decide +kernel)

end Jincubator
