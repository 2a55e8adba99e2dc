import Jincubator.Damper

/-! # Stopping the damper

A stop is given as a command of one direction with the status off, and so is any
command while the fan stands. At its end switch a direction clears its own output
and returns, so that the stop leaves the other output as it was.
-/

namespace Jincubator

open Incubator

/-- Both outputs of the motor are off. -/
def MotorOff (s : Incubator) : Prop :=
  s.getVal Reg.controlDamperOpen = off ∧ s.getVal Reg.controlDamperClose = off

instance (s : Incubator) : Decidable (MotorOff s) := inferInstanceAs (Decidable (_ ∧ _))

/-- The arguments of a call of `control_damper`. -/
structure DamperCommand where
  type : Int
  status : Int
  schedule : Int
  deriving DecidableEq

namespace DamperCommand

def issue (c : DamperCommand) (s : Incubator) : Incubator :=
  controlDamper c.type c.status c.schedule s

def Stops (c : DamperCommand) (s : Incubator) : Prop :=
  FanStopped s ∨ (c.status = off ∧ (c.type = 1 ∨ c.type = 2))

/-- The direction that takes the stop is not at its end switch, or the other output is off. -/
def Reaches (c : DamperCommand) (s : Incubator) : Prop :=
  if FanStopped s ∨ c.type = 1 then
    s.getVal Reg.detectDamperFullyOpen = 0 ∨ s.getVal Reg.controlDamperClose = off
  else s.getVal Reg.detectDamperFullyClose = 0 ∨ s.getVal Reg.controlDamperOpen = off

end DamperCommand

def NoDamperTest (s : Incubator) : Prop :=
  s.getVal Reg.testDamperOpenMode = off ∧ s.getVal Reg.testDamperCloseMode = off

instance (s : Incubator) : Decidable (NoDamperTest s) := inferInstanceAs (Decidable (_ ∧ _))

section

variable {s t : Incubator} {c : DamperCommand}

/-! ## One stop -/

theorem motorOff_openDamper : MotorOff (controlOpenDamper off s) ↔
    s.getVal Reg.detectDamperFullyOpen = 0 ∨ s.getVal Reg.controlDamperClose = off := by
  rw [MotorOff, controlOpenDamper]
  by_cases opened : s.getVal Reg.detectDamperFullyOpen = 0
  · rw [if_neg (not_not.mpr opened), getVal_setVal_self,
      getVal_setVal_of_ne _ _ (by decide), getVal_setVal_self]
    exact iff_of_true ⟨rfl, rfl⟩ (Or.inl opened)
  · rw [if_pos opened, getVal_setVal_self, getVal_setVal_of_ne _ _ (by decide),
      or_iff_right opened]
    exact and_iff_right rfl

theorem motorOff_closeDamper {schedule : Int} : MotorOff (controlCloseDamper off schedule s) ↔
    s.getVal Reg.detectDamperFullyClose = 0 ∨ s.getVal Reg.controlDamperOpen = off := by
  rw [MotorOff, controlCloseDamper]
  by_cases closed : s.getVal Reg.detectDamperFullyClose = 0
  · rw [if_neg (not_not.mpr closed)]
    simp only [ite_self]
    rw [getVal_setVal_self, getVal_setVal_of_ne _ _ (by decide), getVal_setVal_self]
    exact iff_of_true ⟨rfl, rfl⟩ (Or.inl closed)
  · rw [if_pos closed, getVal_setVal_self, getVal_setVal_of_ne _ _ (by decide),
      or_iff_right closed]
    exact and_iff_left rfl

theorem motorOff_issue (untested : NoDamperTest s) (stops : c.Stops s) :
    MotorOff (c.issue s) ↔ c.Reaches s := by
  obtain ⟨testOpen, testClose⟩ := untested
  rw [DamperCommand.issue, controlDamper, DamperCommand.Reaches,
    if_neg (not_or.mpr ⟨not_not.mpr testOpen, not_not.mpr testClose⟩)]
  by_cases standing : FanStopped s
  · rw [if_pos standing, if_pos (Or.inl standing)]
    exact motorOff_openDamper
  · obtain ⟨status, kind⟩ := stops.resolve_left standing
    rw [if_neg standing, status]
    cases kind with
    | inl opens =>
        rw [if_pos opens, if_pos (Or.inr opens)]
        exact motorOff_openDamper
    | inr closes =>
        have other : ¬c.type = 1 := by
          rw [closes]
          decide
        rw [if_neg other, if_pos closes, if_neg (not_or.mpr ⟨standing, other⟩)]
        exact motorOff_closeDamper

/-! ## The commands of the damper control -/

def calibrationCommands (current setting : Int) (s : Incubator) : List DamperCommand :=
  if s.getVal Reg.controlDbOpenCalibrationStatus = 0 ∧
      s.getVal Reg.controlDbCliseCalibrationStatus = 0 then
    if s.getVal Reg.detectDamperFullyClose ≠ 0 then [⟨1, off, 0⟩] else [⟨2, on, 0⟩]
  else if s.getVal Reg.controlDbOpenCalibrationStatus ≠ 0 ∧
      s.getVal Reg.controlDbCliseCalibrationStatus = 0 then
    if current ≥ setting ∨ s.getVal Reg.detectDamperFullyOpen ≠ 0 then [⟨1, off, 0⟩]
    else [⟨1, on, 0⟩]
  else []

/-- The three parts of the carbon dioxide cycle, each after the parts before it. -/
def co2Commands (s : Incubator) : List DamperCommand :=
  (if s.getUval Reg.carbonDioxideOperatingTime > 0 then [⟨1, on, 0⟩] else []) ++
    (if (co2Working s).getUval Reg.carbonDioxideStopTime > 0 then [⟨1, off, 0⟩] else []) ++
    if (s |> co2Working |> co2Idle).getUval Reg.carbonDioxideStopTime = 0 ∧
        (s |> co2Working |> co2Idle).getUval Reg.carbonDioxideOperatingTime = 0 then
      [⟨1, off, 0⟩]
    else []

def seekDboCommands (current : Int) (s : Incubator) : List DamperCommand :=
  let dbo := s.getVal Reg.pHumDbo
  (if current = dbo then [⟨1, off, 0⟩] else []) ++ (if current < dbo then [⟨1, on, 0⟩] else []) ++
    if current > dbo then [⟨2, on, 0⟩] else []

def openToDboCommands (current : Int) (s : Incubator) : List DamperCommand :=
  if current < s.getVal Reg.pHumDbo then [⟨1, on, 0⟩] else [⟨1, off, 0⟩]

def damperClosedCommands (current : Int) (s : Incubator) : List DamperCommand :=
  if s.getVal Reg.highTempAlarmStatus ≠ 0 then [⟨1, on, 0⟩]
  else if s.getVal Reg.carbonDioxideWarningLight ≠ 0 then co2Commands s
  else if s.getVal Reg.highHumiAlarmStatus ≠ 0 ∧
      s.getVal Reg.rAiTpMain > s.getVal Reg.lowTempAlarmValue then seekDboCommands current s
  else if s.getVal Reg.rAiHm ≥ s.getVal Reg.pAoHm + s.getVal Reg.pHumSpo ∧
      s.getVal Reg.rAiTpMain > s.getVal Reg.lowTempAlarmValue then seekDboCommands current s
  else [⟨2, on, 0⟩]

def pidCommands (s : Incubator) : List DamperCommand :=
  if s.getUval Reg.pidOnCountDbOpen > 0 ∧
      s.getUval Reg.pidOnCountDbOpen ≥ s.getUval (Reg.pidOnCountDbOpen + 1) ∧
      s.getVal Reg.pidAdOpenStatus ≠ 0 then [⟨1, on, 0⟩]
  else if s.getUval Reg.pidOnCountDbClose > 0 ∧
      s.getUval Reg.pidOnCountDbClose ≥ s.getUval (Reg.pidOnCountDbClose + 1) then [⟨2, on, 1⟩]
  else [⟨1, off, 0⟩]

def damperOpenedCommands (current : Int) (s : Incubator) : List DamperCommand :=
  let half := (s.getX10Val Reg.pTempP).tdiv 2
  let temp := s.getVal Reg.rAiTpMain
  let tempSetting := s.getVal Reg.pAoTpMain
  if s.getVal Reg.highTempAlarmStatus ≠ 0 then [⟨1, on, 0⟩]
  else if s.getVal Reg.carbonDioxideWarningLight ≠ 0 then co2Commands s
  else if s.getVal Reg.highHumiAlarmStatus ≠ 0 ∧ temp > s.getVal Reg.lowTempAlarmValue then
    openToDboCommands current s
  else if s.getVal Reg.rAiHm ≥ s.getVal Reg.pAoHm + s.getVal Reg.pHumSpo ∧
      temp ≥ s.getVal Reg.lowTempAlarmValue then openToDboCommands current s
  else if temp < tempSetting - half then [⟨2, on, 1⟩]
  else if temp ≥ tempSetting - half ∧ temp ≤ tempSetting + half then
    pidCommands (enterDamperBand s)
  else if temp > tempSetting + half then [⟨1, on, 0⟩]
  else [⟨2, off, 0⟩]

def damperRunCommands (current setting : Int) (s : Incubator) : List DamperCommand :=
  if setting = 0 then damperClosedCommands current s
  else if current < setting then [⟨1, on, 0⟩]
  else damperOpenedCommands current s

/-- The commands that one call of the damper control gives, in their order. -/
def damperCommands (s : Incubator) : List DamperCommand :=
  let current := ushort (s.getVal Reg.rAiAd)
  let setting := ushort (s.getVal Reg.pAoAd)
  if s.getVal Reg.statusDamperCheck ≠ 0 then calibrationCommands current setting s
  else damperRunCommands current setting (clearDamperCheck s)

/-! ## The outputs after the commands -/

/-- What a command looks at or switches. -/
def motorRegisters : List Nat :=
  [Reg.controlDamperOpen, Reg.controlDamperClose, Reg.testDamperOpenMode, Reg.testDamperCloseMode,
    Reg.rSyncMotorControlPara, Reg.detectDamperFullyOpen, Reg.detectDamperFullyClose, Reg.rAiAd,
    Reg.pAoAd]

structure SameMotor (s t : Incubator) : Prop where
  registers : ∀ i ∈ motorRegisters, t.getVal i = s.getVal i
  fanStatus : t.fanStatus = s.fanStatus

namespace SameMotor

variable {s' t' u : Incubator}

theorem refl (s : Incubator) : SameMotor s s := ⟨fun _ _ => rfl, rfl⟩

theorem trans (st : SameMotor s t) (tu : SameMotor t u) : SameMotor s u :=
  ⟨fun i mem => (tu.registers i mem).trans (st.registers i mem), tu.fanStatus.trans st.fanStatus⟩

theorem of_within {writes : List Nat} (st : Within writes s t)
    (untouched : ∀ i ∈ motorRegisters, i ∉ writes) : SameMotor s t :=
  ⟨fun i mem => st.getVal (untouched i mem), st.fanStatus⟩

theorem setVal (same : SameMotor s t) (i : Nat) (v : Int) :
    SameMotor (setVal i v s) (setVal i v t) := by
  refine ⟨?_, same.fanStatus⟩
  intro j mem
  by_cases own : j = i
  · rw [own, getVal_setVal_self, getVal_setVal_self]
  · rw [getVal_setVal_of_ne _ _ own, getVal_setVal_of_ne _ _ own]
    exact same.registers j mem

theorem ite {p q : Prop} [Decidable p] [Decidable q] (iff : q ↔ p) (yes : SameMotor s t)
    (no : SameMotor s' t') : SameMotor (if p then s else s') (if q then t else t') := by
  by_cases holds : p
  · rw [if_pos holds, if_pos (iff.mpr holds)]
    exact yes
  · rw [if_neg holds, if_neg (mt iff.mp holds)]
    exact no

theorem fanStopped (same : SameMotor s t) : FanStopped t ↔ FanStopped s := by
  rw [FanStopped, FanStopped, same.fanStatus, same.registers _ (by decide)]

theorem motorOff (same : SameMotor s t) : MotorOff t ↔ MotorOff s := by
  rw [MotorOff, MotorOff, same.registers _ (by decide), same.registers _ (by decide)]

theorem openDamper (same : SameMotor s t) (status : Int) :
    SameMotor (controlOpenDamper status s) (controlOpenDamper status t) := by
  have switch := same.registers Reg.detectDamperFullyOpen (by decide)
  refine ite (by rw [switch]) (same.setVal _ _) ?_
  exact (same.setVal _ _).setVal _ _

theorem closeDamper (same : SameMotor s t) (status schedule : Int) :
    SameMotor (controlCloseDamper status schedule s) (controlCloseDamper status schedule t) := by
  have switch := same.registers Reg.detectDamperFullyClose (by decide)
  have opened := same.setVal Reg.controlDamperOpen off
  refine ite (by rw [switch]) (same.setVal _ _) (ite Iff.rfl (ite ?_ ?_ ?_) (opened.setVal _ _))
  · rw [opened.registers _ (by decide), opened.registers _ (by decide)]
  · exact opened.setVal _ _
  · exact opened.setVal _ _

theorem issue (same : SameMotor s t) (c : DamperCommand) : SameMotor (c.issue s) (c.issue t) := by
  have testOpen := same.registers Reg.testDamperOpenMode (by decide)
  have testClose := same.registers Reg.testDamperCloseMode (by decide)
  refine ite (by rw [testOpen, testClose]) same (ite same.fanStopped (same.openDamper off) ?_)
  refine ite Iff.rfl (same.openDamper _) (ite Iff.rfl (same.closeDamper _ _) same)

end SameMotor

/-- The state after a list of commands. -/
def issueAll (cs : List DamperCommand) (s : Incubator) : Incubator :=
  cs.foldl (fun s c => c.issue s) s

theorem SameMotor.issueAll (same : SameMotor s t) (cs : List DamperCommand) :
    SameMotor (issueAll cs s) (issueAll cs t) := by
  induction cs generalizing s t with
  | nil => exact same
  | cons c cs ih => exact ih (same.issue c)

/-- A part of the control, whose commands come first, followed by another part. -/
theorem SameMotor.append {cs ds : List DamperCommand} {u : Incubator}
    (first : SameMotor (Jincubator.issueAll cs s) t)
    (second : SameMotor (Jincubator.issueAll ds t) u) :
    SameMotor (Jincubator.issueAll (cs ++ ds) s) u := by
  rw [Jincubator.issueAll, List.foldl_append]
  exact (first.issueAll ds).trans second

theorem SameMotor.branch {p : Prop} [Decidable p] {cs ds : List DamperCommand} {u : Incubator}
    (yes : SameMotor (Jincubator.issueAll cs s) t) (no : SameMotor (Jincubator.issueAll ds s) u) :
    SameMotor (Jincubator.issueAll (if p then cs else ds) s) (if p then t else u) := by
  by_cases holds : p
  · rw [if_pos holds, if_pos holds]
    exact yes
  · rw [if_neg holds, if_neg holds]
    exact no

theorem sameMotor_setVal (s : Incubator) {i : Nat} (v : Int) (besides : i ∉ motorRegisters) :
    SameMotor s (setVal i v s) := by
  have written : Within [i] s (setVal i v s) :=
    (within_setVal (List.mem_singleton_self i)).mpr (.refl _ s)
  refine .of_within written fun j mem inside => ?_
  exact besides (List.mem_singleton.mp inside ▸ mem)

theorem damperCheck_commands (current setting : Int) (s : Incubator) :
    SameMotor (issueAll (calibrationCommands current setting s) s)
      (damperCheck current setting s) := by
  have marked (t : Incubator) : SameMotor t (setVal Reg.controlDbOpenCalibrationStatus on t) :=
    sameMotor_setVal t on (by decide)
  have checked (t : Incubator) : SameMotor t (t |> setVal Reg.statusDamperCheck 0
      |> setVal Reg.controlDbCliseCalibrationStatus on) :=
    (sameMotor_setVal t 0 (by decide)).trans (sameMotor_setVal _ on (by decide))
  refine .branch (.branch (marked _) (.refl _)) (.branch (.branch (checked _) (.refl _)) (.refl _))

theorem SameMotor.optional {p : Prop} [Decidable p] (besides : SameMotor s t) :
    SameMotor s (if p then t else s) := by
  split
  · exact besides
  · exact .refl s

theorem co2Damper_commands (s : Incubator) :
    SameMotor (issueAll (co2Commands s) s) (co2Damper s) := by
  have cycled (t : Incubator) (work stop init : Int) : SameMotor t
      (t |> setUval Reg.carbonDioxideOperatingTime work |> setUval Reg.carbonDioxideStopTime stop
        |> setVal Reg.carbonDioxideInit init) :=
    ((sameMotor_setVal t work (by decide)).trans (sameMotor_setVal _ stop (by decide))).trans
      (sameMotor_setVal _ init (by decide))
  have working : SameMotor (issueAll
      (if s.getUval Reg.carbonDioxideOperatingTime > 0 then [⟨1, on, 0⟩] else []) s)
      (co2Working s) :=
    .branch (.refl _) (.optional (cycled _ _ _ _))
  have idle (t : Incubator) : SameMotor (issueAll
      (if t.getUval Reg.carbonDioxideStopTime > 0 then [⟨1, off, 0⟩] else []) t) (co2Idle t) :=
    .branch (.refl _) (.optional (cycled _ _ _ _))
  exact (working.append (idle _)).append (.branch (.refl _) (.refl _))

theorem seekDbo_commands (current : Int) (s : Incubator) :
    SameMotor (issueAll (seekDboCommands current s) s) (seekDbo current s) := by
  have stopped : SameMotor (issueAll
      (if current = s.getVal Reg.pHumDbo then [⟨1, off, 0⟩] else []) s)
      (if current = s.getVal Reg.pHumDbo then controlDamper 1 off 0 s else s) :=
    .branch (.refl _) (.refl _)
  exact (stopped.append (.branch (.refl _) (.refl _))).append (.branch (.refl _) (.refl _))

theorem openToDbo_commands (current : Int) (s : Incubator) :
    SameMotor (issueAll (openToDboCommands current s) s) (openToDbo current s) :=
  .branch (.refl _) (.refl _)

theorem damperClosed_commands (current : Int) (s : Incubator) :
    SameMotor (issueAll (damperClosedCommands current s) s) (damperClosed current s) :=
  .branch (.refl _) (.branch (co2Damper_commands s) (.branch (seekDbo_commands current s)
    (.branch (seekDbo_commands current s) (.refl _))))

theorem pidDamper_commands (s : Incubator) :
    SameMotor (issueAll (pidCommands (enterDamperBand s)) s)
      (s |> enterDamperBand |> pidDamper) := by
  have entered : SameMotor (issueAll [] s) (enterDamperBand s) :=
    .optional ((sameMotor_setVal s _ (by decide)).trans (sameMotor_setVal _ _ (by decide)))
  exact entered.append (.branch (.refl _) (.branch (.refl _) (.refl _)))

theorem damperOpened_commands (current setting : Int) (s : Incubator) :
    SameMotor (issueAll (damperOpenedCommands current s) s) (damperOpened current setting s) := by
  have last : SameMotor (issueAll [⟨2, off, 0⟩] s)
      (if current = setting then controlDamper 2 off 0 s else controlDamper 2 off 0 s) := by
    rw [ite_self]
    exact .refl _
  exact .branch (.refl _) (.branch (co2Damper_commands s) (.branch (openToDbo_commands current s)
    (.branch (openToDbo_commands current s) (.branch (.refl _) (.branch (pidDamper_commands s)
      (.branch (.refl _) last))))))

/-- The outputs after a call are those after its commands. -/
theorem damperControlFunc_commands (s : Incubator) :
    SameMotor (issueAll (damperCommands s) s) (damperControlFunc s) := by
  have cleared : SameMotor (issueAll [] s) (clearDamperCheck s) :=
    (((sameMotor_setVal s 0 (by decide)).trans (sameMotor_setVal _ 0 (by decide))).trans
      (sameMotor_setVal _ 0 (by decide))).trans (sameMotor_setVal _ 0 (by decide))
  refine .branch (damperCheck_commands _ _ s) (cleared.append ?_)
  exact .branch (damperClosed_commands _ _) (.branch (.refl _) (damperOpened_commands _ _ _))

/-! ## The last command -/

/-- Either all commands are about opening, or there is at most one. -/
def Shape (cs : List DamperCommand) : Prop := (∀ c ∈ cs, c.type = 1) ∨ cs.length ≤ 1

theorem Shape.ite {p : Prop} [Decidable p] {cs ds : List DamperCommand} (yes : Shape cs)
    (no : Shape ds) : Shape (if p then cs else ds) := by
  split
  · exact yes
  · exact no

theorem shape_one (c : DamperCommand) : Shape [c] := Or.inr (le_refl 1)

theorem co2Commands_shape (s : Incubator) : Shape (co2Commands s) := by
  refine Or.inl ?_
  intro c mem
  have opens {p : Prop} [Decidable p] {status : Int}
      (mem : c ∈ if p then [(⟨1, status, 0⟩ : DamperCommand)] else []) : c.type = 1 := by
    split at mem
    · rw [List.mem_singleton.mp mem]
    · cases mem
  rcases List.mem_append.mp mem with mem | mem
  · cases List.mem_append.mp mem with
    | inl mem => exact opens mem
    | inr mem => exact opens mem
  · exact opens mem

theorem seekDboCommands_shape (current : Int) (s : Incubator) :
    Shape (seekDboCommands current s) := by
  refine Or.inr ?_
  rw [seekDboCommands]
  obtain below | same | above := lt_trichotomy current (s.getVal Reg.pHumDbo)
  · simp [below, below.ne, below.le]
  · simp [same]
  · simp [above, above.ne', above.le]

theorem damperCommands_shape (s : Incubator) : Shape (damperCommands s) := by
  have none : Shape [] := Or.inl fun c mem => nomatch mem
  have calibration (current setting : Int) : Shape (calibrationCommands current setting s) :=
    .ite (.ite (shape_one _) (shape_one _)) (.ite (.ite (shape_one _) (shape_one _)) none)
  have dbo (current : Int) (t : Incubator) : Shape (openToDboCommands current t) :=
    .ite (shape_one _) (shape_one _)
  have pid (t : Incubator) : Shape (pidCommands t) :=
    .ite (shape_one _) (.ite (shape_one _) (shape_one _))
  have closed (current : Int) (t : Incubator) : Shape (damperClosedCommands current t) :=
    .ite (shape_one _) (.ite (co2Commands_shape t) (.ite (seekDboCommands_shape current t)
      (.ite (seekDboCommands_shape current t) (shape_one _))))
  have opened (current : Int) (t : Incubator) : Shape (damperOpenedCommands current t) :=
    .ite (shape_one _) (.ite (co2Commands_shape t) (.ite (dbo current t) (.ite (dbo current t)
      (.ite (shape_one _) (.ite (pid _) (.ite (shape_one _) (shape_one _)))))))
  exact .ite (calibration _ _) (.ite (closed _ _) (.ite (shape_one _) (opened _ _)))

theorem issue_within (c : DamperCommand) (s : Incubator) :
    Within [Reg.controlDamperOpen, Reg.controlDamperClose] s (c.issue s) := by
  simp (disch := decide) only [DamperCommand.issue, within_controlDamper, Within.refl]

theorem issueAll_within (cs : List DamperCommand) (s : Incubator) :
    Within [Reg.controlDamperOpen, Reg.controlDamperClose] s (issueAll cs s) := by
  induction cs generalizing s with
  | nil => exact .refl _ _
  | cons c cs ih => exact (issue_within c s).trans (ih _)

/-- At the end switch a command about opening leaves the other output alone. -/
theorem close_issue (untested : NoDamperTest s) (opens : c.type = 1)
    (opened : s.getVal Reg.detectDamperFullyOpen ≠ 0) :
    (c.issue s).getVal Reg.controlDamperClose = s.getVal Reg.controlDamperClose := by
  have kept (status : Int) : (controlOpenDamper status s).getVal Reg.controlDamperClose =
      s.getVal Reg.controlDamperClose := by
    rw [controlOpenDamper, if_pos opened, getVal_setVal_of_ne _ _ (by decide)]
  rw [DamperCommand.issue, controlDamper,
    if_neg (not_or.mpr ⟨not_not.mpr untested.1, not_not.mpr untested.2⟩), if_pos opens]
  split
  · exact kept off
  · exact kept c.status

theorem close_issueAll {cs : List DamperCommand} (untested : NoDamperTest s)
    (opens : ∀ c ∈ cs, c.type = 1) (opened : s.getVal Reg.detectDamperFullyOpen ≠ 0) :
    (issueAll cs s).getVal Reg.controlDamperClose = s.getVal Reg.controlDamperClose := by
  induction cs generalizing s with
  | nil => rfl
  | cons c cs ih =>
      have first := issue_within c s
      have later : NoDamperTest (c.issue s) :=
        ⟨(first.getVal (by decide)).trans untested.1, (first.getVal (by decide)).trans untested.2⟩
      have still : (c.issue s).getVal Reg.detectDamperFullyOpen ≠ 0 := by
        rwa [first.getVal (by decide)]
      have head : c.type = 1 := opens c List.mem_cons_self
      have tail := ih later (fun e mem => opens e (List.mem_cons_of_mem c mem)) still
      exact tail.trans (close_issue untested head opened)

/-- Earlier commands about opening do not decide whether a stop reaches both outputs. -/
theorem reaches_issueAll {cs : List DamperCommand} (untested : NoDamperTest s)
    (opens : ∀ e ∈ cs, e.type = 1) (last : c.type = 1) :
    c.Reaches (issueAll cs s) ↔ c.Reaches s := by
  have within := issueAll_within cs s
  rw [DamperCommand.Reaches, DamperCommand.Reaches, if_pos (Or.inr last), if_pos (Or.inr last),
    within.getVal (by decide)]
  by_cases opened : s.getVal Reg.detectDamperFullyOpen = 0
  · exact iff_of_true (Or.inl opened) (Or.inl opened)
  · rw [close_issueAll untested opens opened]

theorem motorOff_issueAll {cs : List DamperCommand} (untested : NoDamperTest s) (shape : Shape cs)
    (last : cs.getLast? = some c) (stops : c.Stops s) :
    MotorOff (issueAll cs s) ↔ c.Reaches s := by
  obtain ⟨before, rfl⟩ := List.getLast?_eq_some_iff.mp last
  have within := issueAll_within before s
  have later : NoDamperTest (issueAll before s) :=
    ⟨(within.getVal (by decide)).trans untested.1, (within.getVal (by decide)).trans untested.2⟩
  have still : c.Stops (issueAll before s) := by
    rwa [DamperCommand.Stops, FanStopped.within within (by decide)]
  have ends : issueAll (before ++ [c]) s = c.issue (issueAll before s) := by
    rw [issueAll, List.foldl_append]
    rfl
  rw [ends, motorOff_issue later still]
  cases shape with
  | inl opens =>
      exact reaches_issueAll untested (fun e mem => opens e (List.mem_append_left _ mem))
        (opens c (List.mem_append_right _ (List.mem_singleton_self c)))
  | inr one =>
      have none : before = [] := by
        rw [List.length_append, List.length_singleton] at one
        exact List.length_eq_zero_iff.mp (by omega)
      rw [none]
      rfl

end

/-- A stop leaves both outputs off exactly if its direction is not at its end switch or the other
output was off before, also when the damper control gives it. -/
theorem damperStop_iff (s : Incubator) (untested : NoDamperTest s) :
    (∀ c : DamperCommand, c.Stops s → (MotorOff (c.issue s) ↔ c.Reaches s)) ∧
      ∀ c, (damperCommands s).getLast? = some c → c.Stops s →
        (MotorOff (damperControlFunc s) ↔ c.Reaches s) := by
  refine ⟨fun c stops => motorOff_issue untested stops, ?_⟩
  intro c last stops
  rw [(damperControlFunc_commands s).motorOff]
  exact motorOff_issueAll untested (damperCommands_shape s) last stops

/-- The damper starts to close from its open end, with the carbon dioxide warning on and no time of
its cycle left. -/
def closingStart : Incubator :=
  cleared |> setVal Reg.detectDamperFullyOpen on |> setVal Reg.controlDamperClose on
    |> setVal Reg.carbonDioxideWarningLight on

/-- A stop of the opening direction, which the damper control gives there as well. -/
def stopOpening : DamperCommand := ⟨1, off, 0⟩

theorem stopOpening_stops (s : Incubator) : stopOpening.Stops s := Or.inr ⟨rfl, Or.inl rfl⟩

theorem damperStop_iff_closing :
    (MotorOff (stopOpening.issue closingStart) ↔ stopOpening.Reaches closingStart) ∧
      (MotorOff (damperControlFunc closingStart) ↔ stopOpening.Reaches closingStart) :=
  ⟨(damperStop_iff closingStart (by decide)).1 stopOpening (stopOpening_stops _),
    (damperStop_iff closingStart (by decide)).2 stopOpening (by decide) (stopOpening_stops _)⟩

/-- The stop leaves the motor closing. -/
theorem closing_not_stopped : ¬ ∀ s, NoDamperTest s → ∀ c : DamperCommand, c.Stops s →
    MotorOff (c.issue s) := by
  intro all
  exact absurd (all closingStart (by decide) stopOpening (stopOpening_stops _)) (by decide)

end Jincubator
