import Jincubator.Countdowns
import Jincubator.EggTurning
import Jincubator.MainRound
import Jincubator.Pt100Readings
import Jincubator.SyncMotor

/-! # What the threads write

Each thread writes registers of its own list only, whatever it reads. The motor thread
also writes the fan status and the values last seen, so the lists are about the shared
registers alone.
-/

namespace Jincubator

open Footprint Incubator

section

variable {s t : Incubator}

/-! ## The main loop and the timer -/

/-- What the time function writes, with the damper position that is taken over. -/
def sysTimeWrites : List Nat := timePartWrites ++ [Reg.rAiAd, Reg.pEditAd] ++ paraTimers

theorem runSysTime_out (now : Int) (s : Incubator) :
    AgreeOff sysTimeWrites s.shmOut (runSysTime now s).shmOut := by
  rw [runSysTime_eq]
  have timed := (timePart_within now s).out.mono
    (show timePartWrites ⊆ sysTimeWrites from fun _ mem => by simp [sysTimeWrites, mem])
  have accepted := (acceptDamper_out (timePart now s)).1.mono
    (show [Reg.rAiAd, Reg.pEditAd] ⊆ sysTimeWrites by simp [sysTimeWrites])
  have followed := (followParas_out (acceptDamper (timePart now s))).mono
    (show paraTimers ⊆ sysTimeWrites from List.subset_append_right _ _)
  exact (timed.trans accepted).trans followed

def mainWrites : List Nat := sysTimeWrites ++ blockWrites ++ testWrites ++ lampWrites

theorem roundBlocks_out (clock : Clock) (s : Incubator) :
    ∀ block ∈ roundBlocks clock, AgreeOff mainWrites s.shmOut (block s).shmOut := by
  intro block mem
  simp only [roundBlocks, List.mem_cons, List.mem_append, List.not_mem_nil, or_false] at mem
  rcases mem with rfl | mode | rfl | rfl
  · exact (runSysTime_out _ s).mono fun _ mem => by simp [mainWrites, mem]
  · exact (modeBlocks_within clock s block mode).out.mono fun _ mem => by simp [mainWrites, mem]
  · exact (testControlMode_within s).out.mono fun _ mem => by simp [mainWrites, mem]
  · exact (directionFunc_within s).out.mono fun _ mem => by simp [mainWrites, mem]

def timerWrites : List Nat := damperTickWrites ++ secondWrites

theorem timerCallbackFunc_out (s : Incubator) :
    AgreeOff timerWrites s.shmOut (timerCallbackFunc s).shmOut :=
  (timerCallbackFunc_within s).out

/-! ## The sensors -/

/-- What a poll of a channel writes. -/
def pollWrites (i : Fin 6) : List Nat :=
  [Reg.rInitAiTpMain + channelIndex i, Reg.sensor1AbnormalAlarm + i,
    Reg.pEditTpMain + channelIndex i, Reg.rAiTpMain + channelIndex i]

theorem publishWindow_within (i : Fin 6) (data : List Rounding.Value) (s : Incubator) :
    Within (pollWrites i) s (publishWindow i data s) := by
  have index : (if i.val > 1 then i.val + 2 else i.val) = channelIndex i := rfl
  simp only [publishWindow, publishReading, index, within_ite]
  simp [pollWrites]

theorem pt100_out (i : Fin 6) (m : Pt100Thread) :
    AgreeOff (pollWrites i) m.inc.shmOut (m.pollChannel i).inc.shmOut := by
  rw [Pt100Thread.pollChannel]
  dsimp only
  split
  · exact (publishWindow_within i _ _).out
  · exact .refl _ _

def co2Writes : List Nat :=
  calibrationWrites ++ [Reg.sensorCo2Alarm, Reg.rAiCo, Reg.rInitAiCo]

theorem co2_out (r : Reply) (m : Co2Sensor) :
    AgreeOff co2Writes m.inc.shmOut (m.dataCollectionCo2Func r).inc.shmOut := by
  have calibrated (v : Int) (u : Incubator) : Within co2Writes u (Co2Sensor.calibrate v u) :=
    (calibrate_within v u).mono (List.subset_append_left _ _)
  have answered : Within co2Writes m.inc (m.answer r).inc := by
    simp only [Co2Sensor.answer, Co2Sensor.receive, apply_ite Co2Sensor.inc, within_ite]
    simp (disch := decide) only [Co2Sensor.missing, within_setVal, calibrated,
      Within.refl, ite_self]
  have requested : Within co2Writes (m.answer r).inc (m.answer r).requestCalibration.inc :=
    (requestCalibration_within _).mono (List.subset_append_left _ _)
  exact (answered.trans requested).out

/-! ## The motor, the eggs and the alarms -/

def motorWrites : List Nat :=
  [Reg.rSyncVersion, Reg.rSyncMotorConnectStatus, Reg.sSyncMotorControlCmd,
    Reg.rSyncMotorControlPara, Reg.rSyncMotorCurrentFreq]

theorem connectStatus_within (bit : Word) (fails : Prop) [Decidable fails] (s : Incubator) :
    Within motorWrites s (connectStatus bit fails s) := by
  simp (disch := decide) only [connectStatus, within_setUval, Within.refl]

theorem motorMode_out (s : Incubator) : AgreeOff motorWrites s.shmOut (motorMode s).shmOut := by
  have version (v : Int) (t : Incubator) : Within motorWrites t (setVal Reg.rSyncVersion v t) := by
    simp (disch := decide) only [within_setVal, Within.refl]
  unfold motorMode
  split
  · exact (version 20007 { s with fanStatus := 1 }).out
  · exact (version 10007 { s with fanStatus := 0 }).out

theorem command_out (cmd : Int) (value bit : Word) (r : Reply) (m : MotorThread) :
    AgreeOff motorWrites m.inc.shmOut (m.command cmd value bit r).inc.shmOut := by
  unfold MotorThread.command
  dsimp only [MotorThread.send, MotorThread.onInc]
  split
  · split
    · have answered : Within motorWrites m.inc
          (m.inc |> connectStatus bit False |> setUval Reg.sSyncMotorControlCmd 0) := by
        simp (disch := decide) only [within_setUval, connectStatus_within]
      exact answered.out
    · exact (connectStatus_within bit True m.inc).out
  · exact .refl _ _

theorem readState_out (r : Reply) (m : MotorThread) :
    AgreeOff motorWrites m.inc.shmOut (m.readState r).inc.shmOut := by
  unfold MotorThread.readState
  dsimp only [MotorThread.send]
  split
  · have shown := (put_within m.inc Reg.rSyncMotorControlPara
      (bytesWord [r.recvBuf 3, r.recvBuf 4])).mono (show _ ⊆ motorWrites by decide)
    exact (shown.trans (connectStatus_within 0x04 False _)).out
  · exact (connectStatus_within 0x04 _ m.inc).out

theorem setFreq_out (r : Reply) (m : MotorThread) :
    AgreeOff motorWrites m.inc.shmOut (m.setFreq r).inc.shmOut := by
  unfold MotorThread.setFreq
  dsimp only [MotorThread.send, MotorThread.onInc]
  split
  · split
    · exact (connectStatus_within 0x08 False { m.inc with shmOld := _ }).out
    · exact (connectStatus_within 0x08 True { m.inc with shmOld := _ }).out
  · exact .refl _ _

theorem readFreq_out (r : Reply) (m : MotorThread) :
    AgreeOff motorWrites m.inc.shmOut (m.readFreq r).inc.shmOut := by
  unfold MotorThread.readFreq
  dsimp only [MotorThread.send, MotorThread.onInc]
  split
  · have shown := (put_within m.inc Reg.rSyncMotorCurrentFreq
      (bytesWord [r.recvBuf 3, r.recvBuf 4])).mono (show _ ⊆ motorWrites by decide)
    exact (shown.trans (connectStatus_within 0x20 False _)).out
  · exact (connectStatus_within 0x20 True m.inc).out

theorem motor_out (replies : MotorReplies) (m : MotorThread) :
    AgreeOff motorWrites m.inc.shmOut (m.synchronousMotorFunc replies).inc.shmOut := by
  unfold MotorThread.synchronousMotorFunc
  have mode := motorMode_out m.inc
  dsimp only
  split
  · exact ((((mode.trans (command_out _ _ _ _ _)).trans (command_out _ _ _ _ _)).trans
      (readState_out _ _)).trans (setFreq_out _ _)).trans (readFreq_out _ _)
  · exact mode

def eggWrites : List Nat :=
  Reg.pEggTime :: (flipEggsWrites ++ turnWrites ++
    [Reg.rAiTpEgg, Reg.eggFlippingAccumulationState, Reg.eggFlippingTriggerStatus])

theorem eggs_out (start now : Int) (m : EggThread) :
    AgreeOff eggWrites m.inc.shmOut (flipEggFunc start now m).inc.shmOut := by
  have turn (u : Incubator) : Within eggWrites u (flipEggs u) :=
    (flipEggs_writes u).mono (by decide)
  have shown : Within eggWrites m.inc
      (setUval Reg.pEggTime (m.inc.getVal Reg.pEggFlippingTime) m.inc) := by
    simp (disch := decide) only [within_setUval, Within.refl]
  have triggered (u : Incubator) : Within eggWrites u
      (if u.getUval Reg.pEggFlippingTime = 0 then controlEgg u else u) := by
    simp only [controlEgg, within_ite, turn, Within.refl, ite_self]
  have counted (u : Incubator) : Within eggWrites u (countEgg u) := by
    simp (disch := decide) only [countEgg, within_ite, within_setVal, Within.refl, ite_self]
  have driven (n : EggThread) : Within eggWrites n.inc (turnEggs start now n).inc :=
    (turnEggs_within start now n).mono (by decide)
  exact (((shown.trans (triggered _)).trans (driven ⟨_, _, _⟩)).trans (counted _)).out

end

end Jincubator
