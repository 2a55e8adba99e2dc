import Jincubator.AlarmThread
import Jincubator.Library.Run
import Jincubator.Timer

/-! # The delayed alarm of the fan

In the stop mode a stop signal of the fan loads the time after which it is to sound.
While the fan has its supply every round first clears the flag that the time is loaded
already, so every round loads the time again and it never runs down.
-/

namespace Jincubator

open Incubator Run

/-! ## One round -/

/-- The fan has its supply and reports that it has stopped, in the stop mode. -/
def StopSignalled (s : Incubator) : Prop :=
  s.getVal Reg.detectFan = on ∧ s.getVal Reg.detectFanStop = on ∧ s.getVal Reg.rStopRecv = on

instance (s : Incubator) : Decidable (StopSignalled s) := inferInstanceAs (Decidable (_ ∧ _))

/-- The registers that a delay depends on. -/
def delayRegisters : List Nat := [Reg.detectFan, Reg.detectFanStop, Reg.rStopRecv, Reg.pHh7]

section

variable {m : AlarmThread} {s t : Incubator} {writes : List Nat}

theorem StopSignalled.within (signalled : StopSignalled s) (st : Within writes s t)
    (apart : ∀ i ∈ delayRegisters, i ∉ writes) : StopSignalled t := by
  rw [StopSignalled, st.getVal (apart _ (by decide)), st.getVal (apart _ (by decide)),
    st.getVal (apart _ (by decide))]
  exact signalled

/-- The time is loaded, whatever the thread remembers. -/
theorem StopSignalled.loads (signalled : StopSignalled m.inc) : FanLoads m := by
  have supply : m.inc.getVal Reg.detectFan ≠ 0 := by
    rw [signalled.1]
    decide
  refine ⟨signalled.2.2, ?_⟩
  rw [if_pos supply]
  exact Or.inr (Or.inl signalled.2.1)

/-- The alarm of the fan does not sound while its time is running. -/
theorem usTempMode_fan (high low : Int) (running : m.inc.getUval Reg.fanAlarmTime ≠ 0) :
    m.usTempMode high low &&& 0x02 = 0 := by
  rw [AlarmThread.usTempMode]
  split
  · rw [flag_other (by decide) (by decide), flag_other (by decide) (by decide),
      flag_other (by decide) (by decide), flag_other (by decide) (by decide),
      flag_other (by decide) (by decide), flag_other (by decide) (by decide),
      flag_clear fun sounds => running sounds.1]
  · rfl

/-- A round with the signal does not sound the alarm of the fan. -/
theorem alarmRound_silent (signalled : StopSignalled m.inc)
    (setting : 1 ≤ m.inc.getVal Reg.pHh7 ∧ m.inc.getVal Reg.pHh7 ≤ 1000) :
    m.threadAlarmFunc.inc.reg Reg.alarmModule &&& 0x02 = 0 := by
  have before := beforeFan_within m
  have loaded : (beforeSum m).inc.getUval Reg.fanAlarmTime =
      ushort (m.inc.getVal Reg.pHh7 * 60) := by
    rw [← before.getVal (i := Reg.pHh7) (by decide)]
    exact fanAlarm_loads (signalled.within before (by decide)).loads
  rw [threadAlarmFunc_eq]
  show (soundAlarm _ _).reg Reg.alarmModule &&& 0x02 = 0
  rw [soundAlarm_module]
  apply usTempMode_fan
  show (sensorLamp (beforeSum m).inc).getUval Reg.fanAlarmTime ≠ 0
  rw [(sensorLamp_within _).getUval (by decide), loaded, ushort_of_range (by omega)]
  omega

end

/-! ## Runs -/

/-- A value of another register. -/
structure DelayInput where
  index : Nat
  free : index ∉ delayRegisters
  value : Int

def delayInputs (inputs : List DelayInput) (s : Incubator) : Incubator :=
  inputs.foldl (fun s input => setVal input.index input.value s) s

/-- What happens between two rounds, before and after the second of the timer. -/
structure DelayGap where
  before : List DelayInput
  after : List DelayInput

/-- A gap and the round after it. -/
def delayRound (m : AlarmThread) (gap : DelayGap) : AlarmThread :=
  (m.onInc fun s => s |> delayInputs gap.before |> second |> delayInputs gap.after).threadAlarmFunc

/-- The first round, and a round after each gap. -/
def delayRounds (m : AlarmThread) (gaps : List DelayGap) : AlarmThread :=
  run delayRound m.threadAlarmFunc gaps

/-- The alarm of the fan sounds. -/
def FanSounds (s : Incubator) : Prop := s.reg Reg.alarmModule &&& 0x02 ≠ 0

/-- The signal lasts and its delay is unchanged. -/
def Signalling (delay : Int) (s : Incubator) : Prop :=
  StopSignalled s ∧ s.getVal Reg.pHh7 = delay

section

variable {delay : Int} {s t : Incubator} {writes : List Nat}

theorem Signalling.within (signalling : Signalling delay s) (st : Within writes s t)
    (apart : ∀ i ∈ delayRegisters, i ∉ writes) : Signalling delay t :=
  ⟨signalling.1.within st apart, (st.getVal (apart _ (by decide))).trans signalling.2⟩

theorem Signalling.inputs (signalling : Signalling delay s) (inputs : List DelayInput) :
    Signalling delay (delayInputs inputs s) := by
  induction inputs generalizing s with
  | nil => exact signalling
  | cons input inputs ih =>
      refine ih (signalling.within (put_within s input.index _) ?_)
      intro i mem here
      exact input.free (List.mem_singleton.mp here ▸ mem)

theorem Signalling.round {m : AlarmThread} (signalling : Signalling delay m.inc) :
    Signalling delay m.threadAlarmFunc.inc :=
  signalling.within (alarmRound_within m) (by decide)

/-- However long the signal lasts, the alarm does not sound after a round. -/
theorem delayRounds_silent {m : AlarmThread} (signalling : Signalling delay m.inc)
    (setting : 1 ≤ delay ∧ delay ≤ 1000) (gaps : List DelayGap) :
    ¬FanSounds (delayRounds m gaps).inc := by
  have silent {n : AlarmThread} (signalling : Signalling delay n.inc) :
      ¬FanSounds n.threadAlarmFunc.inc :=
    not_not.mpr (alarmRound_silent signalling.1 (by rw [signalling.2]; exact setting))
  have kept (n : AlarmThread) (gap : DelayGap)
      (inv : Signalling delay n.inc ∧ ¬FanSounds n.inc) :
      Signalling delay (delayRound n gap).inc ∧ ¬FanSounds (delayRound n gap).inc := by
    have later := ((inv.1.inputs gap.before).within (second_within _) (by decide)).inputs gap.after
    exact ⟨Signalling.round (m := n.onInc _) later, silent (n := n.onInc _) later⟩
  exact (run_invariant kept ⟨signalling.round, silent signalling⟩ gaps).2

end

/-- With a delay from one to a thousand minutes the alarm of the fan never sounds: not after the
`P_HH7 * 60 + 2` rounds in which the delay should have run down, nor after any other number. -/
theorem fanDelay_never (m : AlarmThread) (gaps : List DelayGap)
    (signalled : StopSignalled m.inc)
    (setting : 1 ≤ m.inc.getVal Reg.pHh7 ∧ m.inc.getVal Reg.pHh7 ≤ 1000) :
    ¬FanSounds (delayRounds m gaps).inc :=
  delayRounds_silent ⟨signalled, rfl⟩ setting gaps

/-- The fan has stopped in the stop mode, and the alarm is to come after a minute. -/
def stoppedFan : Incubator :=
  cleared |> setVal Reg.detectFan on |> setVal Reg.detectFanStop on |> setVal Reg.rStopRecv on
    |> setVal Reg.pHh7 1

theorem fanDelay_never_minute : StopSignalled stoppedFan ∧
    ¬FanSounds (delayRounds (threadAlarmStart stoppedFan) (List.replicate 61 ⟨[], []⟩)).inc :=
  ⟨by decide +kernel, fanDelay_never (threadAlarmStart stoppedFan) _ (by decide +kernel)
    (by decide +kernel)⟩

/-- After a minute of rounds with a second between them the alarm does not sound. -/
theorem fan_does_not_sound : StopSignalled (threadAlarmStart stoppedFan).inc ∧
    (threadAlarmStart stoppedFan).inc.getVal Reg.pHh7 = 1 ∧
    (List.replicate 61 (⟨[], []⟩ : DelayGap)).length + 1 = 1 * 60 + 2 ∧
    ¬FanSounds (delayRounds (threadAlarmStart stoppedFan) (List.replicate 61 ⟨[], []⟩)).inc :=
  have signalling : Signalling 1 (threadAlarmStart stoppedFan).inc :=
    ⟨by decide +kernel, by decide +kernel⟩
  ⟨signalling.1, signalling.2, rfl, delayRounds_silent signalling (by decide) _⟩

end Jincubator
