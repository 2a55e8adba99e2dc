import Jincubator.Channels
import Jincubator.Library.Renaming

/-! # Four copies of one controller

The functions of the second and the third channel are those of the first with its
registers renamed. Those of the fourth differ in two places: the working time of
cold water opens the first valve, and the fan guard of the fourth valve does not
return. They agree with the first channel exactly where neither place matters.
-/

namespace Jincubator

open Incubator Renaming

/-- The registers that belong to one channel. -/
def Reflux.registers (c : Reflux) : List Nat :=
  [c.delayTime, c.workTime, c.stopTime, c.workCycle, c.hotInit, c.coldInit, c.current, c.setting]

def channelRegisters (i : Fin 4) : List Nat :=
  [cool2Valve i, cool2Test i, cool2Sensor i, Reg.pPreTpRf1 + 100 * i] ++ (reflux i).registers

/-- The registers of the first channel exchanged with those of another. -/
def channelPerm (i : Fin 4) : Equiv.Perm Nat :=
  exchange (channelRegisters 0) (channelRegisters i)

/-- The state with another memory. -/
def Incubator.withMemory (s : Incubator) (memory : Nat → Word) : Incubator :=
  { s with shmOut := memory }

/-- One state is the other with its registers renamed; the enable bits are left out. -/
structure Renamed (σ : Equiv.Perm Nat) (s t : Incubator) : Prop where
  registers : Renames σ [Reg.refluxTemperature] s.shmOut t.shmOut
  statics : t.withMemory s.shmOut = s

/-- What one state is for a channel, the other is for the first channel. -/
structure RenamedChannel (i : Fin 4) (s t : Incubator) : Prop where
  renamed : Renamed (channelPerm i) s t
  enabled : Enabled 0 t ↔ Enabled i s

namespace Renamed

variable {σ : Equiv.Perm Nat} {s t : Incubator} {a : Nat}

theorem getUval (renamed : Renamed σ s t) (inside : a ≠ Reg.refluxTemperature) :
    t.getUval a = s.getUval (σ a) :=
  congrArg shm2ushort (renamed.registers a (by simpa using inside))

theorem getVal (renamed : Renamed σ s t) (inside : a ≠ Reg.refluxTemperature) :
    t.getVal a = s.getVal (σ a) :=
  congrArg shm2short (renamed.registers a (by simpa using inside))

theorem fanStatus (renamed : Renamed σ s t) : t.fanStatus = s.fanStatus := by
  have same : (t.withMemory s.shmOut).fanStatus = s.fanStatus := by rw [renamed.statics]
  exact same

theorem setUval {v w : Int} (renamed : Renamed σ s t) (a : Nat) (same : w = v) :
    Renamed σ (setUval (σ a) v s) (setUval a w t) := by
  subst same
  exact ⟨renamed.registers.update a _,
    congrArg (fun u => u.withMemory (Incubator.setUval (σ a) w s).shmOut) renamed.statics⟩

theorem ite {p q : Prop} [Decidable p] [Decidable q] {s' t' : Incubator} (same : q ↔ p)
    (yes : p → Renamed σ s t) (no : ¬p → Renamed σ s' t') :
    Renamed σ (if p then s else s') (if q then t else t') := by
  by_cases holds : p
  · rw [if_pos holds, if_pos (same.mpr holds)]
    exact yes holds
  · rw [if_neg holds, if_neg (mt same.mp holds)]
    exact no holds

end Renamed

/-! ## Calls without valves -/

/-- The channel over renamed registers. -/
def Reflux.rename (σ : Equiv.Perm Nat) (c : Reflux) : Reflux :=
  { c with
    delayTime := σ c.delayTime
    workTime := σ c.workTime
    stopTime := σ c.stopTime
    workCycle := σ c.workCycle
    hotInit := σ c.hotInit
    coldInit := σ c.coldInit
    current := σ c.current
    setting := σ c.setting }

/-- The channel over renamed registers, with the enable bit and the valves of another one. -/
def Reflux.onto (σ : Equiv.Perm Nat) (c d : Reflux) : Reflux :=
  { c.rename σ with mask := d.mask, valve := d.valve, coldValve := d.coldValve }

/-- The registers that all channels share keep their names. -/
def SharedFixed (σ : Equiv.Perm Nat) : Prop :=
  ∀ a ∈ [Reg.pRtempGzs, Reg.pRtempZqs, Reg.pRtempZqc, Reg.controlColdHotWater], σ a = a

instance (σ : Equiv.Perm Nat) : Decidable (SharedFixed σ) :=
  inferInstanceAs (Decidable (∀ _ ∈ _, _))

/-- The enable bits are in none of the channel's own registers. -/
def Reflux.Unmasked (c : Reflux) : Prop := ∀ a ∈ c.registers, a ≠ Reg.refluxTemperature

namespace Renamed

variable {σ : Equiv.Perm Nat} {s t : Incubator} {c : Reflux} {init : Nat}

theorem shared (renamed : Renamed σ s t) (fixed : SharedFixed σ) {a : Nat}
    (mem : a ∈ [Reg.pRtempGzs, Reg.pRtempZqs, Reg.pRtempZqc, Reg.controlColdHotWater]) :
    t.getUval a = s.getUval a := by
  have apart : ∀ a ∈ [Reg.pRtempGzs, Reg.pRtempZqs, Reg.pRtempZqc, Reg.controlColdHotWater],
      a ≠ Reg.refluxTemperature := by decide
  rw [renamed.getUval (apart a mem), fixed a mem]

theorem beginPulse (renamed : Renamed σ s t) (fixed : SharedFixed σ)
    (inside : init ≠ Reg.refluxTemperature) :
    Renamed σ ((c.rename σ).beginPulse (σ init) s) (c.beginPulse init t) := by
  have gzs := renamed.shared fixed (show Reg.pRtempGzs ∈ _ by simp)
  have phase : t.getUval init = 0 ↔ s.getUval (σ init) = 0 := by rw [renamed.getUval inside]
  refine ite phase ?_ fun _ => renamed
  intro _
  exact ((renamed.setUval c.workTime gzs).setUval c.workCycle rfl).setUval init rfl

theorem endPulse (renamed : Renamed σ s t) (fixed : SharedFixed σ)
    (inside : init ≠ Reg.refluxTemperature) :
    Renamed σ ((c.rename σ).endPulse (σ init) s) (c.endPulse init t) := by
  have gzs := renamed.shared fixed (show Reg.pRtempGzs ∈ _ by simp)
  have zqs := renamed.shared fixed (show Reg.pRtempZqs ∈ _ by simp)
  have phase : t.getUval init = 1 ↔ s.getUval (σ init) = 1 := by rw [renamed.getUval inside]
  refine ite phase ?_ fun _ => renamed
  intro _
  exact (renamed.setUval c.stopTime (by rw [gzs, zqs])).setUval init rfl

theorem idlePulse (renamed : Renamed σ s t) (fixed : SharedFixed σ) (unmasked : c.Unmasked)
    (inside : init ≠ Reg.refluxTemperature) :
    Renamed σ ((c.rename σ).dry.idlePulse (σ init) s) (c.dry.idlePulse init t) := by
  have gzs := renamed.shared fixed (show Reg.pRtempGzs ∈ _ by simp)
  have cycle := renamed.getUval (unmasked c.workCycle (by simp [Reflux.registers]))
  have stop : t.getUval c.stopTime > 0 ↔ s.getUval (σ c.stopTime) > 0 := by
    rw [renamed.getUval (unmasked c.stopTime (by simp [Reflux.registers]))]
  have phase : t.getUval init = 2 ↔ s.getUval (σ init) = 2 := by rw [renamed.getUval inside]
  refine ite stop (fun _ => renamed) fun _ => ite phase ?_ fun _ => renamed
  intro _
  have begun := (renamed.setUval c.workTime gzs).setUval c.workCycle (congrArg (· + 1) cycle)
  exact begun.setUval init rfl

theorem pulseValve (renamed : Renamed σ s t) (fixed : SharedFixed σ) (unmasked : c.Unmasked)
    (inside : init ≠ Reg.refluxTemperature) :
    Renamed σ ((c.rename σ).dry.pulseValve (σ init) 0 s) (c.dry.pulseValve init 0 t) := by
  have zqc := renamed.shared fixed (show Reg.pRtempZqc ∈ _ by simp)
  have cycle : t.getUval c.workCycle < t.getUval Reg.pRtempZqc ↔
      s.getUval (σ c.workCycle) < s.getUval Reg.pRtempZqc := by
    rw [renamed.getUval (unmasked c.workCycle (by simp [Reflux.registers])), zqc]
  have work : t.getUval c.workTime > 0 ↔ s.getUval (σ c.workTime) > 0 := by
    rw [renamed.getUval (unmasked c.workTime (by simp [Reflux.registers]))]
  refine ite cycle (fun _ => ite work (fun _ => renamed) ?_) fun _ => renamed
  intro _
  have ended : Renamed σ ((c.rename σ).endPulse (σ init) s) (c.endPulse init t) :=
    renamed.endPulse fixed inside
  exact ended.idlePulse fixed unmasked inside

theorem water {demanded demanded' : Prop} [Decidable demanded] [Decidable demanded']
    (renamed : Renamed σ s t) (fixed : SharedFixed σ) (unmasked : c.Unmasked)
    (inside : init ≠ Reg.refluxTemperature) (same : demanded' ↔ demanded) :
    Renamed σ ((c.rename σ).dry.water demanded (σ init) 0 s) (c.dry.water demanded' init 0 t) := by
  refine ite same ?_ fun _ => renamed.setUval init rfl
  intro _
  have begun : Renamed σ ((c.rename σ).beginPulse (σ init) s) (c.beginPulse init t) :=
    renamed.beginPulse fixed inside
  exact begun.pulseValve fixed unmasked inside

/-- Both kinds of water clear the other state of the pulses and switch the shared valve. -/
theorem switchWater (renamed : Renamed σ s t) (fixed : SharedFixed σ) (init : Nat) (status : Int) :
    Renamed σ (controlColdHotWater status (Incubator.setUval (σ init) 0 s))
      (controlColdHotWater status (Incubator.setUval init 0 t)) := by
  have switch : σ Reg.controlColdHotWater = Reg.controlColdHotWater := fixed _ (by simp)
  have both : Renamed σ (Incubator.setUval (σ Reg.controlColdHotWater) status
      (Incubator.setUval (σ init) 0 s)) (controlColdHotWater status (Incubator.setUval init 0 t)) :=
    (renamed.setUval init rfl).setUval Reg.controlColdHotWater rfl
  rwa [switch] at both

/-- Both states see the same delay, and while it runs no water is given. -/
theorem delayedWater {demanded demanded' : Prop} [Decidable demanded] [Decidable demanded']
    (renamed : Renamed σ s t) (fixed : SharedFixed σ) (unmasked : c.Unmasked)
    (inside : init ≠ Reg.refluxTemperature) (same : demanded' ↔ demanded) :
    Renamed σ
      (if s.getUval (σ c.delayTime) = 0 then (c.rename σ).dry.water demanded (σ init) 0 s else s)
      (if t.getUval c.delayTime = 0 then c.dry.water demanded' init 0 t else t) := by
  have delay := renamed.getUval (unmasked c.delayTime (by simp [Reflux.registers]))
  refine ite (iff_of_eq (congrArg (· = 0) delay)) ?_ fun _ => renamed
  intro _
  exact renamed.water fixed unmasked inside same

theorem demand (renamed : Renamed σ s t) (unmasked : c.Unmasked) :
    t.getUval c.current = s.getUval (σ c.current) ∧
      t.getVal c.setting = s.getVal (σ c.setting) :=
  ⟨renamed.getUval (unmasked c.current (by simp [Reflux.registers])),
    renamed.getVal (unmasked c.setting (by simp [Reflux.registers]))⟩

theorem coldWater (renamed : Renamed σ s t) (fixed : SharedFixed σ) (unmasked : c.Unmasked) :
    Renamed σ ((c.rename σ).dry.coldWater s) (c.dry.coldWater t) := by
  have switched := renamed.switchWater fixed c.hotInit off
  obtain ⟨current, setting⟩ := switched.demand unmasked
  refine switched.delayedWater fixed unmasked (unmasked c.coldInit (by simp [Reflux.registers])) ?_
  exact iff_of_eq (congrArg₂ (fun a b => a > ushort b) current setting)

theorem hotWater (renamed : Renamed σ s t) (fixed : SharedFixed σ) (unmasked : c.Unmasked) :
    Renamed σ ((c.rename σ).dry.hotWater s) (c.dry.hotWater t) := by
  have switched := renamed.switchWater fixed c.coldInit on
  obtain ⟨current, setting⟩ := switched.demand unmasked
  refine switched.delayedWater fixed unmasked (unmasked c.hotInit (by simp [Reflux.registers])) ?_
  exact iff_of_eq (congrArg₂ (fun a b => a < ushort b) current setting)

/-- Without valves, a channel does what the renamed one does. -/
theorem dryCall {d : Reflux} {cold cold' : Prop} [Decidable cold] [Decidable cold']
    (renamed : Renamed σ s t) (fixed : SharedFixed σ) (unmasked : c.Unmasked)
    (enabled : t.reg Reg.refluxTemperature &&& c.mask ≠ 0 ↔
      s.reg Reg.refluxTemperature &&& d.mask ≠ 0)
    (same : cold' ↔ cold) :
    Renamed σ ((c.onto σ d).dry.logicProcessRetemp cold s)
      (c.dry.logicProcessRetemp cold' t) := by
  refine ite enabled (fun _ => ite same ?_ ?_) fun _ => renamed
  · intro _
    exact renamed.coldWater fixed unmasked
  · intro _
    exact renamed.hotWater fixed unmasked

end Renamed

/-! ## Commands -/

/-- The command as one to the first valve. -/
def Command.toFirst (command : Command) : Command := ⟨1, command.status⟩

theorem toFirst_ite {p q : Prop} [Decidable p] [Decidable q] {x y x' y' : Option Command}
    (same : q ↔ p) (yes : x' = x.map Command.toFirst) (no : y' = y.map Command.toFirst) :
    (if q then x' else y') = (if p then x else y).map Command.toFirst := by
  by_cases holds : p
  · rw [if_pos holds, if_pos (same.mpr holds)]
    exact yes
  · rw [if_neg holds, if_neg (mt same.mp holds)]
    exact no

namespace Renamed

variable {σ : Equiv.Perm Nat} {s t : Incubator} {c d : Reflux} {init : Nat}

theorem cycleNow (renamed : Renamed σ s t) (unmasked : c.Unmasked)
    (inside : init ≠ Reg.refluxTemperature) :
    c.cycleNow init t = (c.onto σ d).cycleNow (σ init) s := by
  rw [Reflux.cycleNow, Reflux.cycleNow, renamed.getUval inside,
    renamed.getUval (unmasked c.workCycle (by simp [Reflux.registers]))]
  rfl

theorem workNow (renamed : Renamed σ s t) (fixed : SharedFixed σ) (unmasked : c.Unmasked)
    (inside : init ≠ Reg.refluxTemperature) :
    c.workNow init t = (c.onto σ d).workNow (σ init) s := by
  have gzs := renamed.shared fixed (show Reg.pRtempGzs ∈ _ by simp)
  rw [Reflux.workNow, Reflux.workNow, renamed.getUval inside, gzs,
    renamed.getUval (unmasked c.workTime (by simp [Reflux.registers]))]
  rfl

theorem stopNow (renamed : Renamed σ s t) (fixed : SharedFixed σ) (unmasked : c.Unmasked)
    (inside : init ≠ Reg.refluxTemperature) :
    c.stopNow init t = (c.onto σ d).stopNow (σ init) s := by
  have gzs := renamed.shared fixed (show Reg.pRtempGzs ∈ _ by simp)
  have zqs := renamed.shared fixed (show Reg.pRtempZqs ∈ _ by simp)
  rw [Reflux.stopNow, Reflux.stopNow, Reflux.phaseNow, Reflux.phaseNow, renamed.getUval inside,
    gzs, zqs, renamed.getUval (unmasked c.stopTime (by simp [Reflux.registers]))]
  rfl

/-- A channel runs its pulses as the renamed one does. -/
theorem pulseCommand {workValve : Nat} (renamed : Renamed σ s t) (fixed : SharedFixed σ)
    (unmasked : c.Unmasked) (first : c.valve = 1) (inside : init ≠ Reg.refluxTemperature) :
    c.pulseCommand init 1 t =
      ((c.onto σ d).pulseCommand (σ init) workValve s).map Command.toFirst := by
  have zqc := renamed.shared fixed (show Reg.pRtempZqc ∈ _ by simp)
  rw [Reflux.pulseCommand, Reflux.pulseCommand, first,
    renamed.cycleNow unmasked inside (d := d), renamed.workNow fixed unmasked inside (d := d),
    renamed.stopNow fixed unmasked inside (d := d), zqc]
  exact toFirst_ite Iff.rfl (toFirst_ite Iff.rfl rfl (toFirst_ite Iff.rfl rfl rfl)) rfl

theorem waterCommand {workValve : Nat} {demanded demanded' : Prop} [Decidable demanded]
    [Decidable demanded'] (renamed : Renamed σ s t) (fixed : SharedFixed σ)
    (unmasked : c.Unmasked) (first : c.valve = 1) (same : demanded' ↔ demanded)
    (inside : init ≠ Reg.refluxTemperature) :
    c.waterCommand demanded' init 1 t =
      ((c.onto σ d).waterCommand demanded (σ init) workValve s).map Command.toFirst := by
  rw [Reflux.waterCommand, Reflux.waterCommand, first]
  exact toFirst_ite same (renamed.pulseCommand fixed unmasked first inside) rfl

/-- Up to the valve, a channel gives the command of the renamed one. -/
theorem command {cold cold' : Prop} [Decidable cold] [Decidable cold'] (renamed : Renamed σ s t)
    (fixed : SharedFixed σ) (unmasked : c.Unmasked) (first : c.valve = 1)
    (firstCold : c.coldValve = 1)
    (enabled : t.reg Reg.refluxTemperature &&& c.mask ≠ 0 ↔
      s.reg Reg.refluxTemperature &&& d.mask ≠ 0)
    (same : cold' ↔ cold) :
    c.command cold' t = ((c.onto σ d).command cold s).map Command.toFirst := by
  have delay := renamed.getUval (unmasked c.delayTime (by simp [Reflux.registers]))
  have current := renamed.getUval (unmasked c.current (by simp [Reflux.registers]))
  have setting := renamed.getVal (unmasked c.setting (by simp [Reflux.registers]))
  have coldInit := unmasked c.coldInit (by simp [Reflux.registers])
  have hotInit := unmasked c.hotInit (by simp [Reflux.registers])
  rw [Reflux.command, Reflux.command, Reflux.coldCommand, Reflux.hotCommand, delay, current,
    setting, first, firstCold]
  refine toFirst_ite enabled (toFirst_ite same ?_ ?_) rfl
  · exact toFirst_ite Iff.rfl (renamed.waterCommand fixed unmasked first Iff.rfl coldInit) rfl
  · exact toFirst_ite Iff.rfl (renamed.waterCommand fixed unmasked first Iff.rfl hotInit) rfl

end Renamed

/-! ## The channels -/

/-- Another channel is the first one over renamed registers, with its own bit and its own
valves. -/
theorem reflux_onto (i : Fin 4) :
    (reflux 0).onto (channelPerm i) (reflux i) = reflux i := by
  match i with
  | 0 | 1 | 2 | 3 => rfl

theorem channelPerm_fixed (i : Fin 4) : SharedFixed (channelPerm i) ∧
    channelPerm i Reg.rRunDay = Reg.rRunDay ∧
    channelPerm i Reg.pPreTpRf1Day = Reg.pPreTpRf1Day ∧
    channelPerm i Reg.rSyncMotorControlPara = Reg.rSyncMotorControlPara ∧
    channelPerm i Reg.pPreTpRf1 = Reg.pPreTpRf1 + 100 * i := by
  match i with
  | 0 | 1 | 2 | 3 => exact ⟨by decide, by decide, by decide, by decide, by decide⟩

theorem reflux_unmasked : (reflux 0).Unmasked := by
  show ∀ a ∈ (reflux 0).registers, a ≠ Reg.refluxTemperature
  decide

namespace RenamedChannel

variable {i : Fin 4} {s t : Incubator}

/-- The two families choose alike. -/
theorem cold (channel : RenamedChannel i s t) (kind : RetempKind) :
    kind.Cold 0 t ↔ kind.Cold i s := by
  obtain ⟨-, runDay, preDay, -, difference⟩ := channelPerm_fixed i
  have renamed := channel.renamed
  cases kind with
  | normal =>
      show ColdDay t ↔ ColdDay s
      rw [ColdDay, ColdDay, renamed.getVal (by decide), renamed.getVal (by decide), runDay, preDay]
  | pre =>
      show t.getFval Reg.pPreTpRf1 > 0 ↔ s.getFval (Reg.pPreTpRf1 + 100 * i) > 0
      rw [getFval, getFval, renamed.getVal (by decide), difference]

theorem dryCall (channel : RenamedChannel i s t) (kind : RetempKind) :
    Renamed (channelPerm i) ((reflux i).dry.logicProcessRetemp (kind.Cold i s) s)
      ((reflux 0).dry.logicProcessRetemp (kind.Cold 0 t) t) := by
  have dry := channel.renamed.dryCall (channelPerm_fixed i).1 reflux_unmasked channel.enabled
    (channel.cold kind)
  rwa [reflux_onto] at dry

theorem command (channel : RenamedChannel i s t) (kind : RetempKind) :
    (reflux 0).command (kind.Cold 0 t) t =
      ((reflux i).command (kind.Cold i s) s).map Command.toFirst := by
  have same := channel.renamed.command (channelPerm_fixed i).1 reflux_unmasked rfl rfl
    channel.enabled (channel.cold kind)
  rwa [reflux_onto] at same

end RenamedChannel

/-! ## Valves -/

/-- A valve takes no command while its test runs or its sensor is rejected. -/
def Held (i : Fin 4) (s : Incubator) : Prop :=
  s.getVal (cool2Test i) ≠ 0 ∨ s.getVal (cool2Sensor i) ≠ 0

instance (i : Fin 4) (s : Incubator) : Decidable (Held i s) :=
  inferInstanceAs (Decidable (_ ∨ _))

theorem channelPerm_valve (i : Fin 4) : channelPerm i (cool2Valve 0) = cool2Valve i ∧
    channelPerm i (cool2Test 0) = cool2Test i ∧ channelPerm i (cool2Sensor 0) = cool2Sensor i := by
  match i with
  | 0 | 1 | 2 | 3 => decide

/-- A valve that a command to open it leaves as it is. -/
def Kept (i : Fin 4) (s : Incubator) : Prop :=
  Held i s ∨ s.getVal (cool2Valve i) = if FanStopped s then off else on

instance (i : Fin 4) (s : Incubator) : Decidable (Kept i s) :=
  inferInstanceAs (Decidable (_ ∨ _))

/-- The guard of the fan turns a command off, except for the fourth valve. -/
def Guarded (i : Fin 4) (s : Incubator) : Prop := i ≠ 3 ∧ FanStopped s

instance (i : Fin 4) (s : Incubator) : Decidable (Guarded i s) :=
  inferInstanceAs (Decidable (_ ∧ _))

theorem controlCool2_eq (i : Fin 4) (status : Int) (s : Incubator) :
    controlCool2 (i + 1) status s =
      switchOutput (cool2Valve i) (Held i s) (Guarded i s) status s := by
  have same {j : Fin 4} (other : j ≠ 3) (output : Nat) (held : Prop) [Decidable held] :
      switchOutput output held (FanStopped s) status s =
        switchOutput output held (Guarded j s) status s := by
    have guarded : Guarded j s ↔ FanStopped s := and_iff_right other
    simp only [switchOutput, guarded]
  by_cases fourth : i = 3
  · subst fourth
    have guarded : ¬Guarded 3 s := fun both => both.1 rfl
    show controlCool2_4 status s = _
    rw [switchOutput, if_neg guarded, controlCool2_4]
    by_cases test : s.getVal Reg.testCool2_4Mode ≠ 0
    · have held : Held 3 s := Or.inl test
      rw [if_pos test, if_pos held]
    · by_cases sensor : s.getVal Reg.sensor6AbnormalAlarm ≠ 0
      · have held : Held 3 s := Or.inr sensor
        rw [if_neg test, if_pos sensor, if_pos held]
      · have free : ¬Held 3 s := fun held => held.elim test sensor
        rw [if_neg test, if_neg sensor, if_neg free]
        split
        · simp only [setVal, put, Function.update_idem]
          rfl
        · rfl
  · have before : i = 0 ∨ i = 1 ∨ i = 2 := by omega
    rcases before with rfl | rfl | rfl
    · exact same fourth Reg.controlCool2_1 (Held 0 s)
    · exact same fourth Reg.controlCool2_2 (Held 1 s)
    · exact same fourth Reg.controlCool2_3 (Held 2 s)

section

variable {i : Fin 4} {s t u w : Incubator} {status : Int}

theorem setVal_getVal_self {a : Nat} {v : Int} (same : s.getVal a = v) : setVal a v s = s := by
  have word : short2shm v = s.shmOut a := by
    rw [← same, getVal_eq, short2shm, BitVec.ofInt_toInt, reg, baWord_baWord]
  rw [setVal, put, word, Function.update_eq_self]

theorem Renamed.held (renamed : Renamed (channelPerm i) u w) : Held 0 w ↔ Held i u := by
  obtain ⟨-, test, sensor⟩ := channelPerm_valve i
  rw [Held, Held, renamed.getVal (by decide), renamed.getVal (by decide), test, sensor]

theorem Renamed.fanStopped (renamed : Renamed (channelPerm i) u w) :
    FanStopped w ↔ FanStopped u := by
  obtain ⟨-, -, -, report, -⟩ := channelPerm_fixed i
  rw [FanStopped, FanStopped, renamed.fanStatus, renamed.getVal (by decide), report]

theorem Renamed.valve (renamed : Renamed (channelPerm i) u w) :
    w.getVal (cool2Valve 0) = u.getVal (cool2Valve i) := by
  rw [renamed.getVal (by decide), (channelPerm_valve i).1]

/-- Where the fan guards agree, a command keeps the states renamed. -/
theorem Renamed.issue (renamed : Renamed (channelPerm i) u w)
    (guards : FanStopped u → Held i u ∨ i ≠ 3 ∨ status = off) :
    Renamed (channelPerm i) (controlCool2 (i + 1) status u) (controlCool2 1 status w) := by
  have first : controlCool2 1 status w =
      switchOutput (cool2Valve 0) (Held 0 w) (Guarded 0 w) status w := controlCool2_eq 0 status w
  have switched (v : Int) : Renamed (channelPerm i) (setVal (channelPerm i (cool2Valve 0)) v u)
      (setVal (cool2Valve 0) v w) := renamed.setUval (cool2Valve 0) rfl
  rw [controlCool2_eq, first, ← (channelPerm_valve i).1, switchOutput, switchOutput]
  refine ite renamed.held (fun _ => renamed) ?_
  intro free
  by_cases stopped : FanStopped u
  · have guard : Guarded 0 w := ⟨by decide, renamed.fanStopped.mpr stopped⟩
    rw [if_pos guard]
    split
    · exact switched off
    · next unguarded =>
      rcases guards stopped with held | other | same
      · exact absurd held free
      · exact absurd ⟨other, stopped⟩ unguarded
      · rw [same]
        exact switched off
  · have guard : ¬Guarded i u := fun both => stopped both.2
    have guard0 : ¬Guarded 0 w := fun both => stopped (renamed.fanStopped.mp both.2)
    rw [if_neg guard, if_neg guard0]
    exact switched status

/-- With the fan stopped the fourth valve is opened and the first is not. -/
theorem Renamed.not_issue_fourth (renamed : Renamed (channelPerm 3) u w) (stopped : FanStopped u)
    (free : ¬Held 3 u) :
    ¬Renamed (channelPerm 3) (controlCool2 4 on u) (controlCool2 1 on w) := by
  intro after
  have first : controlCool2 1 on w =
      switchOutput (cool2Valve 0) (Held 0 w) (Guarded 0 w) on w := controlCool2_eq 0 on w
  have fourth : controlCool2 4 on u =
      switchOutput (cool2Valve 3) (Held 3 u) (Guarded 3 u) on u := controlCool2_eq 3 on u
  have guard : Guarded 0 w := ⟨by decide, renamed.fanStopped.mpr stopped⟩
  have guard3 : ¬Guarded 3 u := fun both => both.1 rfl
  have valves := after.valve
  rw [first, fourth, getVal_switchOutput, getVal_switchOutput, if_neg (mt renamed.held.mp free),
    if_pos guard, if_neg free, if_neg guard3] at valves
  exact absurd valves (by decide)

theorem Renamed.kept (renamed : Renamed (channelPerm i) u w) : Kept 0 w ↔ Kept i u := by
  simp only [Kept, renamed.held, renamed.fanStopped, renamed.valve]

theorem firstValve_switched (s : Incubator) : controlCool2 1 on s =
    switchOutput (cool2Valve 0) (Held 0 s) (FanStopped s) on s := rfl

theorem kept_iff (s : Incubator) : Kept 0 s ↔
    (controlCool2 1 on s).getVal (cool2Valve 0) = s.getVal (cool2Valve 0) := by
  rw [firstValve_switched, getVal_switchOutput, Kept]
  by_cases held : Held 0 s
  · rw [if_pos held]
    exact iff_of_true (Or.inl held) rfl
  · rw [if_neg held, or_iff_right held, eq_comm]
    rfl

/-- A command that keeps the first valve changes nothing. -/
theorem kept_unchanged (kept : Kept 0 s) : controlCool2 1 on s = s := by
  rw [firstValve_switched, switchOutput]
  by_cases held : Held 0 s
  · rw [if_pos held]
  · rw [if_neg held]
    have value := kept.resolve_left held
    split
    · next stopped => exact setVal_getVal_self (value.trans (if_pos stopped))
    · next running => exact setVal_getVal_self (value.trans (if_neg running))

/-- Opening the first valve instead of the fourth goes unnoticed if both are kept. -/
theorem Renamed.issue_first (renamed : Renamed (channelPerm 3) u w) :
    Renamed (channelPerm 3) (controlCool2 1 on u) (controlCool2 1 on w) ↔
      Kept 0 u ∧ Kept 3 u := by
  have other (v : Incubator) : (controlCool2 1 on v).getVal (cool2Valve 3) =
      v.getVal (cool2Valve 3) := by
    have only : Within [cool2Valve 0] v (controlCool2 1 on v) := by
      rw [within_controlCool2 (by decide)]
      exact Within.refl _ _
    exact only.getVal (by decide)
  have exchanged : channelPerm 3 (cool2Valve 3) = cool2Valve 0 := by decide
  constructor
  · intro after
    refine ⟨?_, ?_⟩
    · have value := after.getVal (show cool2Valve 3 ≠ Reg.refluxTemperature by decide)
      rw [other, renamed.getVal (by decide), exchanged] at value
      exact (kept_iff u).mpr value.symm
    · rw [← renamed.kept, kept_iff, after.valve, other, renamed.valve]
  · rintro ⟨first, fourth⟩
    rw [kept_unchanged first, kept_unchanged (renamed.kept.mpr fourth)]
    exact renamed

end

/-! ## Four controllers -/

/-- What the fourth channel has to avoid: the fan guard must not matter, and a working time of cold
water must find both valves as it would leave them. -/
structure FourthAgrees (kind : RetempKind) (s : Incubator) : Prop where
  guard : (reflux 3).command (kind.Cold 3 s) s = some ⟨4, on⟩ → FanStopped s → Held 3 s
  valve : (reflux 3).command (kind.Cold 3 s) s = some ⟨1, on⟩ → Kept 0 s ∧ Kept 3 s

/-- The commands of a channel. -/
theorem command_cases (c : Reflux) (cold : Prop) [Decidable cold] (s : Incubator) :
    c.command cold s = none ∨ c.command cold s = some ⟨c.valve, off⟩ ∨
      c.command cold s = some ⟨c.valve, on⟩ ∨ c.command cold s = some ⟨c.coldValve, on⟩ := by
  simp only [Reflux.command, Reflux.coldCommand, Reflux.hotCommand, Reflux.waterCommand,
    Reflux.pulseCommand]
  split_ifs <;> simp

theorem reflux_valve (i : Fin 4) : (reflux i).valve = i + 1 ∧
    (i ≠ 3 → (reflux i).coldValve = i + 1) ∧ (reflux 3).coldValve = 1 := by
  match i with
  | 0 | 1 | 2 | 3 => decide

section

variable {kind : RetempKind} {i : Fin 4} {s t u w : Incubator}

/-- What the guards look at is the same before and after a call without valves. -/
theorem guards_dry (dry : Within (reflux 3).dry.writes s u) :
    (FanStopped u ↔ FanStopped s) ∧ (Held 3 u ↔ Held 3 s) ∧ (Kept 0 u ↔ Kept 0 s) ∧
      (Kept 3 u ↔ Kept 3 s) := by
  have fan : FanStopped u ↔ FanStopped s := FanStopped.within dry (by decide)
  have held (j : Fin 4) (outside : ∀ a ∈ [cool2Test j, cool2Sensor j],
      a ∉ (reflux 3).dry.writes) : Held j u ↔ Held j s := by
    rw [Held, Held, dry.getVal (outside _ (by simp)), dry.getVal (outside _ (by simp))]
  have held0 := held 0 (by decide)
  have held3 := held 3 (by decide)
  have valve0 : u.getVal (cool2Valve 0) = s.getVal (cool2Valve 0) := dry.getVal (by decide)
  have valve3 : u.getVal (cool2Valve 3) = s.getVal (cool2Valve 3) := dry.getVal (by decide)
  refine ⟨fan, held3, ?_, ?_⟩
  · simp only [Kept, held0, fan, valve0]
  · simp only [Kept, held3, fan, valve3]

/-- The calls correspond exactly if their commands do. -/
theorem renamedChannel_iff (channel : RenamedChannel i s t) :
    ∃ u w, Within (reflux i).dry.writes s u ∧ Renamed (channelPerm i) u w ∧
      (RenamedChannel i (retempFunc kind i s) (retempFunc kind 0 t) ↔
        Renamed (channelPerm i) (Command.issue ((reflux i).command (kind.Cold i s) s) u)
          (Command.issue (((reflux i).command (kind.Cold i s) s).map Command.toFirst) w)) := by
  refine ⟨_, _, Reflux.logicProcessRetemp_within _ (kind.Cold i s) s, channel.dryCall kind, ?_⟩
  have enabled : Enabled 0 (retempFunc kind 0 t) ↔ Enabled i (retempFunc kind i s) := by
    rw [enabled_within (retempFunc_within kind 0 t), enabled_within (retempFunc_within kind i s)]
    exact channel.enabled
  rw [← channel.command kind, ← Reflux.logicProcessRetemp_eq (Reflux.reflux_distinct i),
    ← Reflux.logicProcessRetemp_eq (Reflux.reflux_distinct 0), ← retempFunc_eq, ← retempFunc_eq]
  exact ⟨fun after => after.renamed, fun after => ⟨after, enabled⟩⟩

end

/-- A call of another channel is a call of the first one with the registers renamed, for the fourth
channel exactly where its two differences do not matter. -/
theorem sameController_iff (kind : RetempKind) (i : Fin 4) (s t : Incubator)
    (channel : RenamedChannel i s t) :
    RenamedChannel i (retempFunc kind i s) (retempFunc kind 0 t) ↔
      (i = 3 → FourthAgrees kind s) := by
  obtain ⟨u, w, dry, renamed, same⟩ := renamedChannel_iff channel
  obtain ⟨valve, coldValve, coldFourth⟩ := reflux_valve i
  rw [same]
  by_cases fourth : i = 3
  · subst fourth
    obtain ⟨fan, held, kept0, kept3⟩ := guards_dry dry
    rw [imp_iff_right rfl]
    rcases command_cases (reflux 3) (kind.Cold 3 s) s with none | closed | opened | first
    · rw [none]
      refine iff_of_true renamed ⟨?_, ?_⟩ <;>
        · rw [none]
          exact fun command => absurd command (by decide)
    · rw [closed]
      refine iff_of_true (renamed.issue fun _ => Or.inr (Or.inr rfl)) ⟨?_, ?_⟩ <;>
        · rw [closed]
          exact fun command => absurd command (by decide)
    · rw [opened]
      constructor
      · intro after
        refine ⟨?_, ?_⟩
        · intro _ stopped
          by_contra free
          exact renamed.not_issue_fourth (fan.mpr stopped) (mt held.mp free) after
        · rw [opened]
          exact fun command => absurd command (by decide)
      · intro agrees
        refine renamed.issue fun stopped => Or.inl (held.mpr ?_)
        exact agrees.guard opened (fan.mp stopped)
    · rw [coldFourth] at first
      rw [first]
      refine renamed.issue_first.trans ?_
      rw [kept0, kept3]
      constructor
      · intro kept
        refine ⟨?_, fun _ => kept⟩
        rw [first]
        exact fun command => absurd command (by decide)
      · intro agrees
        exact agrees.valve first
  · refine iff_of_true ?_ fun same => absurd same fourth
    have other := coldValve fourth
    rcases command_cases (reflux i) (kind.Cold i s) s with none | closed | opened | first
    · rw [none]
      exact renamed
    · rw [closed, valve]
      exact renamed.issue fun _ => Or.inr (Or.inl fourth)
    · rw [opened, valve]
      exact renamed.issue fun _ => Or.inr (Or.inl fourth)
    · rw [first, other]
      exact renamed.issue fun _ => Or.inr (Or.inl fourth)

/-- A channel that agrees with the first one leaves the valves of the others alone. -/
theorem otherValves_kept {kind : RetempKind} {i j : Fin 4} {s t : Incubator} (other : j ≠ i)
    (before : RenamedChannel i s t)
    (after : RenamedChannel i (retempFunc kind i s) (retempFunc kind 0 t)) :
    (retempFunc kind i s).getVal (cool2Valve j) = s.getVal (cool2Valve j) := by
  have first : Within (reflux 0).writes t (retempFunc kind 0 t) := by
    rw [retempFunc_eq]
    exact Reflux.logicProcessRetemp_within _ _ t
  -- the namesake of the valve is no valve of the first channel
  obtain ⟨a, namesake, outside, inside⟩ : ∃ a, channelPerm i a = cool2Valve j ∧
      a ∉ (reflux 0).writes ∧ a ≠ Reg.refluxTemperature := by
    have all : ∀ i j : Fin 4, j ≠ i → ∃ k : Fin 4, channelPerm i (cool2Valve k) = cool2Valve j ∧
        cool2Valve k ∉ (reflux 0).writes ∧ cool2Valve k ≠ Reg.refluxTemperature := by decide
    obtain ⟨k, found⟩ := all i j other
    exact ⟨cool2Valve k, found⟩
  rw [← namesake, ← after.renamed.getVal inside, ← before.renamed.getVal inside,
    first.getVal outside]

/-- Cold water is demanded in the fourth channel, and in the first one of the namesake. -/
def fourthCold : Incubator :=
  cleared |> setVal Reg.refluxTemperature 8 |> setVal Reg.rAiTpRf4 3800
    |> setVal Reg.pRtempGzs 10 |> setVal Reg.pRtempZqc 1

def fourthColdNamesake : Incubator :=
  cleared |> setVal Reg.refluxTemperature 1 |> setVal Reg.rAiTpRf1 3800
    |> setVal Reg.pRtempGzs 10 |> setVal Reg.pRtempZqc 1

theorem fourthCold_renamed : RenamedChannel 3 fourthCold fourthColdNamesake := by
  have masks : Renamed (channelPerm 3) (setVal Reg.refluxTemperature 8 cleared)
      (setVal Reg.refluxTemperature 1 cleared) := by
    have fixed : channelPerm 3 Reg.refluxTemperature = Reg.refluxTemperature := by decide
    have equal : Renames (channelPerm 3) [Reg.refluxTemperature] cleared.shmOut cleared.shmOut :=
      renames_const _ _ _
    exact ⟨equal.update_exempt List.mem_cons_self fixed _ _, rfl⟩
  have current : channelPerm 3 Reg.rAiTpRf1 = Reg.rAiTpRf4 := by decide
  have work : channelPerm 3 Reg.pRtempGzs = Reg.pRtempGzs := by decide
  have cycles : channelPerm 3 Reg.pRtempZqc = Reg.pRtempZqc := by decide
  have demanded := ((masks.setUval Reg.rAiTpRf1 (rfl : (3800 : Int) = 3800)).setUval Reg.pRtempGzs
    (rfl : (10 : Int) = 10)).setUval Reg.pRtempZqc (rfl : (1 : Int) = 1)
  rw [current, work, cycles] at demanded
  exact ⟨demanded, by decide⟩

theorem sameController_iff_fourthCold :
    RenamedChannel 3 (retempFunc .normal 3 fourthCold) (retempFunc .normal 0 fourthColdNamesake) ↔
      ((3 : Fin 4) = 3 → FourthAgrees .normal fourthCold) :=
  sameController_iff .normal 3 fourthCold fourthColdNamesake fourthCold_renamed

/-- The call of the fourth channel opens the first valve instead of its own. -/
theorem fourthCold_differs :
    ¬ ∀ kind i s t, RenamedChannel i s t →
      RenamedChannel i (retempFunc kind i s) (retempFunc kind 0 t) := by
  intro law
  have valve := (law .normal 3 fourthCold fourthColdNamesake fourthCold_renamed).renamed.valve
  exact absurd valve (by decide +kernel)

end Jincubator
