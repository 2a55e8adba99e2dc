import Jincubator.InitPara
import Jincubator.IniSession
import Mathlib.Data.Fin.VecNotation

/-! # The calibration in the configuration file

A start reads the configuration file. The backup thread writes the calibration of the PT100
channels back to it as soon as one of their registers has changed: a new value is written
if it differs from the configuration in memory, and a zero only for the first temperature.
-/

namespace Jincubator

open Incubator Ini

/-! ## The start -/

inductive Pt100Field
  | temp0
  | temp40
  | channel0
  | channel40
deriving DecidableEq

namespace Pt100Field

def get (field : Pt100Field) (pt : Pt100Para) : Int :=
  match field with
  | temp0 => pt.pt0Temp
  | temp40 => pt.pt40Temp
  | channel0 => pt.pt0Channel
  | channel40 => pt.pt40Channel

def set (field : Pt100Field) (v : Int) (pt : Pt100Para) : Pt100Para :=
  match field with
  | temp0 => { pt with pt0Temp := v }
  | temp40 => { pt with pt40Temp := v }
  | channel0 => { pt with pt0Channel := v }
  | channel40 => { pt with pt40Channel := v }

def all : List Pt100Field := [temp0, temp40, channel0, channel40]

/-- The key of the value in the file. -/
def key (field : Pt100Field) (i : Fin 6) : List Byte :=
  let names := match field with
    | temp0 => ["PT1_0_TEMP", "PT2_0_TEMP", "PT3_0_TEMP", "PT4_0_TEMP", "PT5_0_TEMP", "PT6_0_TEMP"]
    | temp40 =>
        ["PT1_40_TEMP", "PT2_40_TEMP", "PT3_40_TEMP", "PT4_40_TEMP", "PT5_40_TEMP", "PT6_40_TEMP"]
    | channel0 =>
        ["PT1_0_CHANNEL", "PT2_0_CHANNEL", "PT3_0_CHANNEL", "PT4_0_CHANNEL", "PT5_0_CHANNEL",
          "PT6_0_CHANNEL"]
    | channel40 =>
        ["PT1_40_CHANNEL", "PT2_40_CHANNEL", "PT3_40_CHANNEL", "PT4_40_CHANNEL", "PT5_40_CHANNEL",
          "PT6_40_CHANNEL"]
  ascii (names.getD i.val "")

/-- The register of the value. -/
def register (field : Pt100Field) (i : Fin 6) : Nat :=
  match field with
  | temp0 => Reg.pPt1Ao1 + i.val * 5
  | temp40 => Reg.pPt1Ao2 + i.val * 5
  | channel0 => Reg.pPt1Ao3 + i.val * 5
  | channel40 => Reg.pPt1Ao4 + i.val * 5

end Pt100Field

/-- `struct incubator_t`, but for the device's number, which is not read from the file. -/
structure IncubatorConf where
  confZlogFile : List Byte
  confSyscFile : List Byte
  co2SerialDevice : List Byte
  motorSerialDevice : List Byte
  shmemInputKey : Int
  shmemOutputKey : Int
  shmemRecordLen : Int
  shmemRecordNum : Int
  dbSettingIp : List Byte
  dbSettingUser : List Byte
  dbSettingPasswd : List Byte
  dbSettingName : List Byte
  pt : Fin 6 → Pt100Para

def generalSetting : List Byte := ascii "GENERAL SETTING"

abbrev IniReader (α : Type) := StateT XiniFile Option α

def ini (key : List Byte) : IniReader (List Byte) :=
  fun f => (f.read generalSetting key).map fun r => (r.2, r.1)

/-- `strcpy` into a field that is large enough. -/
def iniString (key : String) : IniReader (List Byte) := do
  return cString (← ini (ascii key))

def iniInt (key : String) : IniReader Int := do
  return (BitVec.ofInt 32 (atoll (← ini (ascii key)))).toInt

def iniUshort (key : List Byte) : IniReader Int := do
  return ushort (atoll (← ini key))

def iniPt100 (i : Fin 6) : IniReader Pt100Para := do
  let pt0Temp ← iniUshort (Pt100Field.temp0.key i)
  let pt40Temp ← iniUshort (Pt100Field.temp40.key i)
  let pt0Channel ← iniUshort (Pt100Field.channel0.key i)
  let pt40Channel ← iniUshort (Pt100Field.channel40.key i)
  return ⟨pt0Temp, pt40Temp, pt0Channel, pt40Channel⟩

def initIniFile : IniReader IncubatorConf := do
  let confZlogFile ← iniString "LOG_CONF_FILE"
  let confSyscFile ← iniString "SYNC_CONF_FILE"
  let co2SerialDevice ← iniString "CO2_SERIAL_DEVICE"
  let motorSerialDevice ← iniString "MOTOR_SERIAL_DEVICE"
  let shmemInputKey ← iniInt "SHMEM_INPUT_KEY"
  let shmemOutputKey ← iniInt "SHMEM_OUTPUT_KEY"
  let shmemRecordLen ← iniInt "SHMEM_RECORD_LEN"
  let shmemRecordNum ← iniInt "SHMEM_RECORD_NUM"
  let dbSettingIp ← iniString "DB_SETTING_IP"
  let dbSettingUser ← iniString "DB_SETTING_USER"
  let dbSettingPasswd ← iniString "DB_SETTING_PASSWD"
  let dbSettingName ← iniString "DB_SETTING_NAME"
  let pt1 ← iniPt100 0
  let pt2 ← iniPt100 1
  let pt3 ← iniPt100 2
  let pt4 ← iniPt100 3
  let pt5 ← iniPt100 4
  let pt6 ← iniPt100 5
  return { confZlogFile, confSyscFile, co2SerialDevice, motorSerialDevice, shmemInputKey,
           shmemOutputKey, shmemRecordLen, shmemRecordNum, dbSettingIp, dbSettingUser,
           dbSettingPasswd, dbSettingName, pt := ![pt1, pt2, pt3, pt4, pt5, pt6] }

/-- The configuration, and what the file holds afterwards. -/
def initIni (content : Option (List Byte)) : Option (IncubatorConf × Option (List Byte)) :=
  (initIniFile (XiniFile.load content)).map fun r => (r.1, r.2.release content)

/-! ## The backup thread -/

/-- The copy of the registers, the file and the configuration in memory. -/
structure SyncPara where
  oldPt100Para : List Word
  file : Option (List Byte)
  pt : Fin 6 → Pt100Para

/-- The registers that `memcmp` compares. -/
def pt100Words (s : Incubator) : List Word := (List.range' Reg.pPt1Ao1 30).map s.shmOut

/-- Only the first temperature may be set to zero. -/
def Accepted (field : Pt100Field) (v : Int) : Prop := field = .temp0 ∨ v ≠ 0

instance (field : Pt100Field) (v : Int) : Decidable (Accepted field v) :=
  inferInstanceAs (Decidable (_ ∨ _))

def syncField (s : Incubator) (u : XiniFile × (Fin 6 → Pt100Para)) (p : Fin 6 × Pt100Field) :
    Option (XiniFile × (Fin 6 → Pt100Para)) :=
  let v := s.getUval (p.2.register p.1)
  if Accepted p.2 v ∧ v ≠ p.2.get (u.2 p.1) then
    (u.1.setIvalue generalSetting (p.2.key p.1) v).map fun f =>
      (f, Function.update u.2 p.1 (p.2.set v (u.2 p.1)))
  else some u

/-- The values of the first channel, then those of the next one. -/
def pt100Fields : List (Fin 6 × Pt100Field) :=
  (List.finRange 6).flatMap fun i => Pt100Field.all.map fun field => (i, field)

/-- The part of one round of `sysn_thread_func` before the backup. -/
def syncPara (t : SyncPara) (s : Incubator) : Option SyncPara :=
  if t.oldPt100Para = pt100Words s then some t
  else
    (pt100Fields.foldlM (syncField s) (XiniFile.load t.file, t.pt)).map fun u =>
      ⟨pt100Words s, u.1.release t.file, u.2⟩

/-! ## What a start reads -/

/-- The value of an entry of the section that the program uses. -/
def Ini.Memory.general (m : Memory) (key : List Byte) : List Byte := m (place generalSetting key)

def pt100Para (m : Memory) (i : Fin 6) : Pt100Para where
  pt0Temp := ushort (atoll (m.general (Pt100Field.temp0.key i)))
  pt40Temp := ushort (atoll (m.general (Pt100Field.temp40.key i)))
  pt0Channel := ushort (atoll (m.general (Pt100Field.channel0.key i)))
  pt40Channel := ushort (atoll (m.general (Pt100Field.channel40.key i)))

def incubatorConf (m : Memory) : IncubatorConf where
  confZlogFile := cString (m.general (ascii "LOG_CONF_FILE"))
  confSyscFile := cString (m.general (ascii "SYNC_CONF_FILE"))
  co2SerialDevice := cString (m.general (ascii "CO2_SERIAL_DEVICE"))
  motorSerialDevice := cString (m.general (ascii "MOTOR_SERIAL_DEVICE"))
  shmemInputKey := (BitVec.ofInt 32 (atoll (m.general (ascii "SHMEM_INPUT_KEY")))).toInt
  shmemOutputKey := (BitVec.ofInt 32 (atoll (m.general (ascii "SHMEM_OUTPUT_KEY")))).toInt
  shmemRecordLen := (BitVec.ofInt 32 (atoll (m.general (ascii "SHMEM_RECORD_LEN")))).toInt
  shmemRecordNum := (BitVec.ofInt 32 (atoll (m.general (ascii "SHMEM_RECORD_NUM")))).toInt
  dbSettingIp := cString (m.general (ascii "DB_SETTING_IP"))
  dbSettingUser := cString (m.general (ascii "DB_SETTING_USER"))
  dbSettingPasswd := cString (m.general (ascii "DB_SETTING_PASSWD"))
  dbSettingName := cString (m.general (ascii "DB_SETTING_NAME"))
  pt := ![pt100Para m 0, pt100Para m 1, pt100Para m 2, pt100Para m 3, pt100Para m 4,
    pt100Para m 5]

/-- The program reads a function of the memory and sets nothing. -/
def Reads {α : Type} (program : IniReader α) (result : Memory → α) : Prop :=
  ∀ f : XiniFile, f.Sound → ∃ g, program f = some (result f.memory, g) ∧ g.Sound ∧
    g.memory = f.memory ∧ g.dirty = f.dirty

section

variable {α β : Type}

theorem Reads.pure (a : α) : Reads (Pure.pure a : IniReader α) fun _ => a :=
  fun f sound => ⟨f, rfl, sound, rfl, rfl⟩

theorem Reads.bind {program : IniReader α} {result : Memory → α} {next : α → IniReader β}
    {result' : α → Memory → β} (first : Reads program result)
    (then' : ∀ a, Reads (next a) (result' a)) :
    Reads (program >>= next) fun m => result' (result m) m := by
  intro f sound
  obtain ⟨g, run, sound', memory, dirty⟩ := first f sound
  obtain ⟨h, run', sound'', memory', dirty'⟩ := then' (result f.memory) g sound'
  refine ⟨h, ?_, sound'', memory'.trans memory, dirty'.trans dirty⟩
  have both : (program >>= next) f = (program f).bind fun r => next r.1 r.2 := rfl
  rw [both, run, Option.bind_some, run', memory]

theorem reads_ini {key : List Byte} (clean : Clean generalSetting key) :
    Reads (ini key) fun m => m.general key := by
  intro f sound
  obtain ⟨g, read, sound', -, dirty, same⟩ := read_sound sound clean
  refine ⟨g, ?_, sound', funext same, dirty⟩
  rw [ini, read]
  rfl

theorem reads_iniString {key : String} (clean : Clean generalSetting (ascii key)) :
    Reads (iniString key) fun m => cString (m.general (ascii key)) :=
  (reads_ini clean).bind fun _ => Reads.pure _

theorem reads_iniInt {key : String} (clean : Clean generalSetting (ascii key)) :
    Reads (iniInt key) fun m => (BitVec.ofInt 32 (atoll (m.general (ascii key)))).toInt :=
  (reads_ini clean).bind fun _ => Reads.pure _

theorem reads_iniUshort {key : List Byte} (clean : Clean generalSetting key) :
    Reads (iniUshort key) fun m => ushort (atoll (m.general key)) :=
  (reads_ini clean).bind fun _ => Reads.pure _

theorem clean_key (i : Fin 6) (field : Pt100Field) : Clean generalSetting (field.key i) := by
  cases field <;> revert i <;> decide

theorem reads_iniPt100 (i : Fin 6) : Reads (iniPt100 i) fun m => pt100Para m i := by
  have reads (field : Pt100Field) := reads_iniUshort (clean_key i field)
  exact (reads .temp0).bind fun _ => (reads .temp40).bind fun _ => (reads .channel0).bind fun _ =>
    (reads .channel40).bind fun _ => Reads.pure _

theorem reads_initIniFile : Reads initIniFile incubatorConf :=
  (reads_iniString (by decide)).bind fun _ => (reads_iniString (by decide)).bind fun _ =>
  (reads_iniString (by decide)).bind fun _ => (reads_iniString (by decide)).bind fun _ =>
  (reads_iniInt (by decide)).bind fun _ => (reads_iniInt (by decide)).bind fun _ =>
  (reads_iniInt (by decide)).bind fun _ => (reads_iniInt (by decide)).bind fun _ =>
  (reads_iniString (by decide)).bind fun _ => (reads_iniString (by decide)).bind fun _ =>
  (reads_iniString (by decide)).bind fun _ => (reads_iniString (by decide)).bind fun _ =>
  (reads_iniPt100 0).bind fun _ => (reads_iniPt100 1).bind fun _ =>
  (reads_iniPt100 2).bind fun _ => (reads_iniPt100 3).bind fun _ =>
  (reads_iniPt100 4).bind fun _ => (reads_iniPt100 5).bind fun _ => Reads.pure _

end

/-- A start reads the configuration and leaves the file as it is. -/
theorem initIni_eq {content : Option (List Byte)}
    (regular : Regular (XiniFile.load content).sects) :
    initIni content = some (incubatorConf (contents content), content) := by
  obtain ⟨g, run, -, -, dirty⟩ := reads_initIniFile _ (sound_load regular)
  have clean : g.dirty = false := by
    rw [dirty]
    cases content <;> rfl
  unfold initIni XiniFile.release
  rw [run, Option.map_some, clean]
  rfl

/-! ## The calibration in the memory -/

abbrev Pt100Entry := Fin 6 × Pt100Field

def pt100Place (p : Pt100Entry) : List Byte × List Byte := place generalSetting (p.2.key p.1)

/-- What a start makes of an entry. -/
def stored (m : Memory) (p : Pt100Entry) : Int := ushort (atoll (m (pt100Place p)))

/-- The value of the configuration in memory. -/
def configured (pt : Fin 6 → Pt100Para) (p : Pt100Entry) : Int := p.2.get (pt p.1)

/-- The registers, where they are accepted. -/
def acceptWords (s : Incubator) (old : Pt100Entry → Int) (p : Pt100Entry) : Int :=
  let v := s.getUval (p.2.register p.1)
  if Accepted p.2 v then v else old p

/-- The values after a round: a change of any register makes all of them count. -/
def followWords (t : List Word × (Pt100Entry → Int)) (s : Incubator) :
    List Word × (Pt100Entry → Int) :=
  if t.1 = pt100Words s then t else (pt100Words s, acceptWords s t.2)

def setField (s : Incubator) (m : Memory) (p : Pt100Entry) : Memory :=
  let v := s.getUval (p.2.register p.1)
  if Accepted p.2 v ∧ v ≠ stored m p then Function.update m (pt100Place p) (decimal v) else m

def setFields (t : List Word × Memory) (s : Incubator) : List Word × Memory :=
  if t.1 = pt100Words s then t else (pt100Words s, pt100Fields.foldl (setField s) t.2)

section

variable {m : Memory} {p q : Pt100Entry} {s : Incubator}

theorem mem_pt100Fields (p : Pt100Entry) : p ∈ pt100Fields := by
  obtain ⟨i, field⟩ := p
  cases field <;> simp [pt100Fields, Pt100Field.all]

theorem pt100Place_injective : Function.Injective pt100Place := by
  have distinct : (pt100Fields.map pt100Place).Nodup := by decide
  intro p q same
  exact List.inj_on_of_nodup_map distinct (mem_pt100Fields p) (mem_pt100Fields q) same

theorem configured_injective : Function.Injective configured := by
  intro pt other same
  funext i
  have field (f : Pt100Field) : f.get (pt i) = f.get (other i) := congrFun same (i, f)
  have values : ∀ {a b : Pt100Para}, (∀ f : Pt100Field, f.get a = f.get b) → a = b := by
    intro a b all
    cases a
    cases b
    congr
    · exact all .temp0
    · exact all .temp40
    · exact all .channel0
    · exact all .channel40
  exact values field

theorem configured_set (pt : Fin 6 → Pt100Para) (p : Pt100Entry) (v : Int) :
    configured (Function.update pt p.1 (p.2.set v (pt p.1))) =
      Function.update (configured pt) p v := by
  obtain ⟨i, field⟩ := p
  funext q
  obtain ⟨j, other⟩ := q
  by_cases channel : j = i
  · subst channel
    unfold configured
    dsimp only
    rw [Function.update_self]
    cases field <;> cases other <;> simp [Pt100Field.get, Pt100Field.set]
  · have apart : ¬(j, other) = (i, field) := fun both => channel (congrArg Prod.fst both)
    rw [Function.update_of_ne apart]
    unfold configured
    dsimp only
    rw [Function.update_of_ne channel]

theorem configured_pt100Para (m : Memory) : configured (incubatorConf m).pt = stored m := by
  funext p
  obtain ⟨i, field⟩ := p
  have channel : (incubatorConf m).pt i = pt100Para m i := by
    match i with
    | 0 | 1 | 2 | 3 | 4 | 5 => rfl
  unfold configured
  rw [channel]
  cases field <;> rfl

/-- What is set is what a start makes of it, for that entry only. -/
theorem stored_update (m : Memory) (p : Pt100Entry) :
    stored (Function.update m (pt100Place p) (decimal (s.getUval (p.2.register p.1)))) =
      Function.update (stored m) p (s.getUval (p.2.register p.1)) := by
  funext q
  by_cases own : q = p
  · subst own
    obtain ⟨low, high⟩ := getUval_range (s := s) (i := q.2.register q.1)
    rw [Function.update_self, stored, Function.update_self, atoll_decimal (by omega) (by omega),
      ushort_getUval]
  · rw [Function.update_of_ne own, stored, stored,
      Function.update_of_ne fun place => own (pt100Place_injective place)]

theorem stored_range (m : Memory) (p : Pt100Entry) : 0 ≤ stored m p ∧ stored m p < 65536 := by
  have word := (BitVec.ofInt 16 (atoll (m (pt100Place p)))).isLt
  unfold stored ushort
  omega

/-- One entry takes its value from the register, if that is accepted. -/
theorem stored_setField (s : Incubator) (m : Memory) (p q : Pt100Entry) :
    stored (setField s m p) q = if q = p then acceptWords s (stored m) q else stored m q := by
  unfold setField acceptWords
  dsimp only
  by_cases own : q = p
  · subst own
    rw [if_pos rfl]
    by_cases accepted : Accepted q.2 (s.getUval (q.2.register q.1))
    · rw [if_pos accepted]
      by_cases same : s.getUval (q.2.register q.1) = stored m q
      · rw [if_neg fun both => both.2 same, same]
      · rw [if_pos ⟨accepted, same⟩, stored_update, Function.update_self]
    · rw [if_neg accepted, if_neg fun both => accepted both.1]
  · rw [if_neg own]
    split
    · rw [stored_update, Function.update_of_ne own]
    · rfl

theorem accept_congr {old other : Pt100Entry → Int} (same : old q = other q) :
    acceptWords s old q = acceptWords s other q := by
  unfold acceptWords
  dsimp only
  rw [same]

/-- Accepting twice is accepting once. -/
theorem accept_accept (s : Incubator) (old : Pt100Entry → Int) :
    acceptWords s (acceptWords s old) q = acceptWords s old q := by
  unfold acceptWords
  dsimp only
  split <;> rfl

theorem stored_setFields (s : Incubator) (l : List Pt100Entry) (m : Memory) (q : Pt100Entry) :
    stored (l.foldl (setField s) m) q =
      if q ∈ l then acceptWords s (stored m) q else stored m q := by
  induction l generalizing m with
  | nil => rfl
  | cons p l ih =>
      have first := stored_setField s m p q
      rw [List.foldl_cons, ih]
      by_cases own : q = p
      · rw [if_pos own] at first
        rw [if_pos (List.mem_cons.mpr (Or.inl own)), first, accept_congr first, accept_accept,
          ite_self]
      · rw [if_neg own] at first
        have rest : q ∈ p :: l ↔ q ∈ l := List.mem_cons.trans (or_iff_right own)
        simp only [rest, first, accept_congr first]

/-- No other entry is set. -/
theorem setFields_other (s : Incubator) (l : List Pt100Entry) (m : Memory)
    {other : List Byte × List Byte} (apart : ∀ p, other ≠ pt100Place p) :
    l.foldl (setField s) m other = m other := by
  induction l generalizing m with
  | nil => rfl
  | cons p l ih =>
      rw [List.foldl_cons, ih]
      unfold setField
      split
      · exact Function.update_of_ne (apart p) _ _
      · rfl

end

/-! ## The rounds of the backup thread -/

/-- The open file and the configuration in memory hold the same calibration. -/
structure FieldInStep (before : Memory) (u : XiniFile × (Fin 6 → Pt100Para)) (m : Memory) :
    Prop where
  sound : u.1.Sound
  memory : u.1.memory = m
  agrees : configured u.2 = stored m
  clean : u.1.dirty = false → m = before

/-- Between two rounds the file holds the calibration of the configuration in memory. -/
structure CalibrationKept (t : SyncPara) (v : List Word × Memory) : Prop where
  regular : Regular (XiniFile.load t.file).sects
  contents : contents t.file = v.2
  agrees : configured t.pt = stored v.2
  words : t.oldPt100Para = v.1

section

variable {s : Incubator} {before m : Memory} {u : XiniFile × (Fin 6 → Pt100Para)} {t : SyncPara}
  {v : List Word × Memory}

theorem syncField_inStep (inStep : FieldInStep before u m) (p : Pt100Entry) :
    ∃ u', syncField s u p = some u' ∧ FieldInStep before u' (setField s m p) := by
  have current : p.2.get (u.2 p.1) = stored m p := congrFun inStep.agrees p
  unfold syncField setField
  dsimp only
  rw [current]
  by_cases changed : Accepted p.2 (s.getUval (p.2.register p.1)) ∧
      s.getUval (p.2.register p.1) ≠ stored m p
  · rw [if_pos changed, if_pos changed]
    obtain ⟨g, set, sound, memory, dirty⟩ := setIvalue_sound inStep.sound (clean_key p.1 p.2)
      (s.getUval (p.2.register p.1))
    have memory' : g.memory = Function.update m (pt100Place p)
        (decimal (s.getUval (p.2.register p.1))) := by
      rw [memory, inStep.memory]
      rfl
    have agrees : configured (Function.update u.2 p.1
        (p.2.set (s.getUval (p.2.register p.1)) (u.2 p.1))) =
          stored (Function.update m (pt100Place p) (decimal (s.getUval (p.2.register p.1)))) := by
      rw [configured_set, inStep.agrees, stored_update]
    refine ⟨(g, _), ?_, ⟨sound, memory', agrees, fun clean => ?_⟩⟩
    · rw [set]
      rfl
    · obtain ⟨was, same⟩ := dirty clean
      rw [← memory', same, inStep.memory]
      exact inStep.clean was
  · rw [if_neg changed, if_neg changed]
    exact ⟨u, rfl, inStep⟩

theorem syncPara_kept (kept : CalibrationKept t v) (s : Incubator) :
    ∃ t', syncPara t s = some t' ∧ CalibrationKept t' (setFields v s) := by
  unfold syncPara setFields
  rw [kept.words]
  by_cases same : v.1 = pt100Words s
  · rw [if_pos same, if_pos same]
    exact ⟨t, rfl, kept⟩
  · rw [if_neg same, if_neg same]
    have start : FieldInStep v.2 (XiniFile.load t.file, t.pt) v.2 :=
      ⟨sound_load kept.regular, kept.contents, kept.agrees, fun _ => rfl⟩
    have step : ∀ u m p, FieldInStep v.2 u m →
        ∃ u', syncField s u p = some u' ∧ FieldInStep v.2 u' (setField s m p) :=
      fun _ _ p inStep => syncField_inStep inStep p
    obtain ⟨u, run, inStep⟩ := Run.foldlM_simulates step start pt100Fields
    obtain ⟨regular, contents⟩ := @release_sound u.1 inStep.sound t.file fun clean =>
      ⟨kept.regular, by rw [inStep.memory, inStep.clean clean, kept.contents]⟩
    rw [run]
    exact ⟨_, rfl, regular, contents.trans inStep.memory, inStep.agrees, rfl⟩

theorem rounds_kept (kept : CalibrationKept t v) (rounds : List Incubator) :
    ∃ t', rounds.foldlM syncPara t = some t' ∧ CalibrationKept t' (Run.run setFields v rounds) := by
  have step : ∀ t v s, CalibrationKept t v →
      ∃ t', syncPara t s = some t' ∧ CalibrationKept t' (setFields v s) :=
    fun _ _ s kept => syncPara_kept kept s
  exact Run.foldlM_simulates step kept rounds

theorem stored_rounds (v : List Word × Memory) (rounds : List Incubator) :
    ((Run.run setFields v rounds).1, stored (Run.run setFields v rounds).2) =
      rounds.foldl followWords (v.1, stored v.2) := by
  induction rounds generalizing v with
  | nil => rfl
  | cons s rounds ih =>
      have first :
          ((setFields v s).1, stored (setFields v s).2) = followWords (v.1, stored v.2) s := by
        unfold setFields followWords
        split
        · rfl
        · refine Prod.ext rfl (funext fun q => ?_)
          exact (stored_setFields s _ _ q).trans (if_pos (mem_pt100Fields q))
      rw [Run.run_cons, ih, first, List.foldl_cons]

theorem rounds_other {other : List Byte × List Byte} (apart : ∀ p, other ≠ pt100Place p)
    (v : List Word × Memory) (rounds : List Incubator) :
    (Run.run setFields v rounds).2 other = v.2 other := by
  refine Run.run_view (fun v => v.2 other) (fun s _ v => ?_) v
  unfold setFields
  split
  · rfl
  · exact setFields_other s _ _ apart

/-- The entries of the file that are no calibration. -/
def otherKeys : List (List Byte) :=
  [ascii "LOG_CONF_FILE", ascii "SYNC_CONF_FILE", ascii "CO2_SERIAL_DEVICE",
    ascii "MOTOR_SERIAL_DEVICE", ascii "SHMEM_INPUT_KEY", ascii "SHMEM_OUTPUT_KEY",
    ascii "SHMEM_RECORD_LEN", ascii "SHMEM_RECORD_NUM", ascii "DB_SETTING_IP",
    ascii "DB_SETTING_USER", ascii "DB_SETTING_PASSWD", ascii "DB_SETTING_NAME"]

theorem otherKeys_apart {key : List Byte} (mem : key ∈ otherKeys) (p : Pt100Entry) :
    place generalSetting key ≠ pt100Place p := by
  have apart : ∀ key ∈ otherKeys, ∀ p ∈ pt100Fields, place generalSetting key ≠ pt100Place p := by
    decide
  exact apart key mem p (mem_pt100Fields p)

/-- The rest of the configuration stays as it is. -/
theorem incubatorConf_other {after : Memory}
    (same : ∀ other, (∀ p, other ≠ pt100Place p) → after other = m other) :
    incubatorConf after = { incubatorConf m with pt := (incubatorConf after).pt } := by
  have own : ∀ key ∈ otherKeys, after.general key = m.general key :=
    fun key mem => same _ (otherKeys_apart mem)
  simp only [otherKeys, List.forall_mem_cons] at own
  obtain ⟨log, sync, co2, motor, input, output, len, num, ip, user, passwd, name, -⟩ := own
  unfold incubatorConf
  rw [log, sync, co2, motor, input, output, len, num, ip, user, passwd, name]

/-- What is left after the rounds, and what the next start reads. -/
theorem calibration_rounds {content : Option (List Byte)}
    (regular : Regular (XiniFile.load content).sects) (s : Incubator) (rounds : List Incubator) :
    ∃ t, rounds.foldlM syncPara
          ⟨pt100Words s, content, (incubatorConf (contents content)).pt⟩ = some t ∧
      initIni t.file = some ({ incubatorConf (contents content) with pt := t.pt }, t.file) ∧
      (t.oldPt100Para, configured t.pt) =
        rounds.foldl followWords (pt100Words s, configured (incubatorConf (contents content)).pt) ∧
      ∀ p, 0 ≤ configured t.pt p ∧ configured t.pt p < 65536 := by
  have start : CalibrationKept ⟨pt100Words s, content, (incubatorConf (contents content)).pt⟩
      (pt100Words s, contents content) :=
    ⟨regular, rfl, configured_pt100Para _, rfl⟩
  obtain ⟨t, run, kept⟩ := rounds_kept start rounds
  refine ⟨t, run, ?_, ?_, ?_⟩
  · have pt : (incubatorConf (contents t.file)).pt = t.pt := by
      refine configured_injective ?_
      rw [configured_pt100Para, kept.contents, kept.agrees]
    have same : ∀ other, (∀ p, other ≠ pt100Place p) →
        contents t.file other = contents content other := by
      intro other apart
      rw [kept.contents, rounds_other apart]
    rw [initIni_eq kept.regular, incubatorConf_other same, pt]
  · have values := stored_rounds (pt100Words s, contents content) rounds
    rw [kept.words, kept.agrees, values, configured_pt100Para]
  · rw [kept.agrees]
    exact stored_range _

end

/-! ## The next start -/

section

variable {pt : Fin 6 → Pt100Para} {p : Pt100Entry} {s : Incubator}

theorem pt100Defaults_eq {d : Nat × Int} (mem : d ∈ pt100Defaults pt) :
    ∃ q : Pt100Entry, d = (q.2.register q.1, configured pt q) := by
  simp only [pt100Defaults, List.mem_append, List.mem_map] at mem
  rcases mem with ((mem | mem) | mem) | mem <;> obtain ⟨i, -, rfl⟩ := mem
  · exact ⟨(i, .temp0), rfl⟩
  · exact ⟨(i, .temp40), rfl⟩
  · exact ⟨(i, .channel0), rfl⟩
  · exact ⟨(i, .channel40), rfl⟩

theorem mem_pt100Defaults (pt : Fin 6 → Pt100Para) (p : Pt100Entry) :
    (p.2.register p.1, configured pt p) ∈ pt100Defaults pt := by
  obtain ⟨i, field⟩ := p
  have listed := List.mem_finRange i
  simp only [pt100Defaults, List.mem_append, List.mem_map]
  cases field with
  | temp0 => exact Or.inl (Or.inl (Or.inl ⟨i, listed, rfl⟩))
  | temp40 => exact Or.inl (Or.inl (Or.inr ⟨i, listed, rfl⟩))
  | channel0 => exact Or.inl (Or.inr ⟨i, listed, rfl⟩)
  | channel40 => exact Or.inr ⟨i, listed, rfl⟩

theorem register_injective {q : Pt100Entry} (same : q.2.register q.1 = p.2.register p.1) :
    q = p := by
  have distinct : (pt100Fields.map fun p => p.2.register p.1).Nodup := by decide
  exact List.inj_on_of_nodup_map distinct (mem_pt100Fields q) (mem_pt100Fields p) same

/-- No other default is that of a calibration, and no start clears one. -/
theorem register_alone (p : Pt100Entry) : (∀ para ∈ paraDefaults, para.1 ≠ p.2.register p.1) ∧
    presets.find? (·.Holds (p.2.register p.1)) = none ∧
    ¬(p.2.register p.1 = Reg.damperTimeOpen ∨ p.2.register p.1 = Reg.damperTimeClose) ∧
    ¬Ended (p.2.register p.1) := by
  have all : ∀ p ∈ pt100Fields, (∀ para ∈ paraDefaults, para.1 ≠ p.2.register p.1) ∧
      presets.find? (·.Holds (p.2.register p.1)) = none ∧
      ¬(p.2.register p.1 = Reg.damperTimeOpen ∨ p.2.register p.1 = Reg.damperTimeClose) ∧
      ¬Ended (p.2.register p.1) := by
    decide
  exact all p (mem_pt100Fields p)

theorem first_calibration (pt : Fin 6 → Pt100Para) (p : Pt100Entry) :
    Defaults.first (defaults pt) (p.2.register p.1) = BitVec.ofInt 16 (configured pt p) := by
  refine Defaults.first_of_only ?_ (Or.inl ?_)
  · intro d mem own
    obtain ⟨para, listed, rfl⟩ := List.mem_map.mp mem
    cases List.mem_append.mp listed with
    | inl calibration =>
        obtain ⟨q, rfl⟩ := pt100Defaults_eq calibration
        rw [register_injective own]
    | inr other => exact absurd own ((register_alone p).1 para other)
  · rw [defaults, List.map_map]
    exact List.mem_map_of_mem (List.mem_append_left _ (mem_pt100Defaults pt p))

/-- A register that the backup leaves empty gets the value of the configuration. -/
theorem bootValue_calibration (fits : 0 ≤ configured pt p ∧ configured pt p < 65536) :
    ((bootValue pt s (p.2.register p.1)).toNat : Int) =
      if s.getUval (p.2.register p.1) = 0 then configured pt p
      else s.getUval (p.2.register p.1) := by
  obtain ⟨-, alone, untimed, -⟩ := register_alone p
  rw [bootValue_alone alone, if_neg untimed, first_calibration]
  by_cases empty : s.reg (p.2.register p.1) = 0
  · rw [if_pos empty, if_pos ((getUval_eq_zero s _).mpr empty), BitVec.toNat_ofInt]
    omega
  · rw [if_neg empty, if_neg (mt (getUval_eq_zero s _).mp empty)]
    rfl

end

/-- However often the operator changes the calibration, the file holds what the configuration in
memory does, and that is for each value the last one that was accepted. -/
theorem calibration_kept {content : Option (List Byte)}
    (regular : Regular (XiniFile.load content).sects) (s : Incubator) (rounds : List Incubator) :
    ∃ conf t, initIni content = some (conf, content) ∧
      rounds.foldlM syncPara ⟨pt100Words s, content, conf.pt⟩ = some t ∧
      initIni t.file = some ({ conf with pt := t.pt }, t.file) ∧
      (t.oldPt100Para, configured t.pt) =
        rounds.foldl followWords (pt100Words s, configured conf.pt) := by
  obtain ⟨t, run, again, values, -⟩ := calibration_rounds regular s rounds
  exact ⟨_, t, initIni_eq regular, run, again, values⟩

/-- A file that has the section only. -/
def emptySetting : List Byte := ascii "[GENERAL SETTING]\n"

/-- The operator sets the second temperature of the first channel. -/
theorem calibration_kept_first : ∃ conf t,
    initIni (some emptySetting) = some (conf, some emptySetting) ∧
      [setVal Reg.pPt1Ao2 4000 cleared].foldlM syncPara
        ⟨pt100Words cleared, some emptySetting, conf.pt⟩ = some t ∧
      initIni t.file = some ({ conf with pt := t.pt }, t.file) ∧
      (t.oldPt100Para, configured t.pt) =
        [setVal Reg.pPt1Ao2 4000 cleared].foldl followWords
          (pt100Words cleared, configured conf.pt) :=
  calibration_kept (by decide) cleared [setVal Reg.pPt1Ao2 4000 cleared]

/-- After a restart a calibration that the backup does not hold is the last one that was
accepted, whatever happened to the registers in between. -/
theorem calibration_restored {content : Option (List Byte)}
    (regular : Regular (XiniFile.load content).sects) (s : Incubator) (rounds : List Incubator)
    {conf conf' : IncubatorConf} {t : SyncPara} {file : Option (List Byte)}
    (read : initIni content = some (conf, content))
    (ran : rounds.foldlM syncPara ⟨pt100Words s, content, conf.pt⟩ = some t)
    (again : initIni t.file = some (conf', file)) {md5 : List Byte → List Byte} {disk : Disk}
    {now : Int} {u v : Incubator} (booted : initPara md5 disk conf'.pt now u = some v)
    (p : Pt100Entry) :
    v.getUval (p.2.register p.1) =
      if (initParaRestore md5 disk u).memory.getUval (p.2.register p.1) = 0 then
        (rounds.foldl followWords (pt100Words s, configured conf.pt)).2 p
      else (initParaRestore md5 disk u).memory.getUval (p.2.register p.1) := by
  obtain ⟨t', run, next, values, fits⟩ := calibration_rounds regular s rounds
  rw [initIni_eq regular, Option.some_inj] at read
  obtain ⟨rfl, -⟩ := Prod.ext_iff.mp read
  rw [run, Option.some_inj] at ran
  subst ran
  rw [next, Option.some_inj] at again
  obtain ⟨rfl, -⟩ := Prod.ext_iff.mp again
  obtain ⟨-, rfl⟩ := initPara_eq booted
  rw [getUval_eq, initParaEnd_reg now _ _ (register_alone p).2.2.2, ← values]
  exact bootValue_calibration (fits p)

/-- The backup was never written, so the second temperature comes from the file. -/
theorem calibration_restored_first : ∃ t v, [setVal Reg.pPt1Ao2 4000 cleared].foldlM syncPara
      ⟨pt100Words cleared, some emptySetting, (incubatorConf (contents (some emptySetting))).pt⟩ =
        some t ∧
    initPara (fun _ => []) noBackup t.pt 0 cleared = some v ∧
    v.getUval Reg.pPt1Ao2 =
      if (initParaRestore (fun _ => []) noBackup cleared).memory.getUval Reg.pPt1Ao2 = 0 then
        ([setVal Reg.pPt1Ao2 4000 cleared].foldl followWords
          (pt100Words cleared, configured (incubatorConf (contents (some emptySetting))).pt)).2
            (0, .temp40)
      else (initParaRestore (fun _ => []) noBackup cleared).memory.getUval Reg.pPt1Ao2 := by
  have regular : Regular (XiniFile.load (some emptySetting)).sects := by decide
  obtain ⟨t, run, again, -⟩ := calibration_rounds regular cleared [setVal Reg.pPt1Ao2 4000 cleared]
  have booted := initPara_of_open t.pt 0
    (show (initParaRestore (fun _ => []) noBackup cleared).memory.getVal Reg.rSyncHatchMode = 0 by
      decide)
  exact ⟨t, _, run, booted, calibration_restored regular cleared _ (initIni_eq regular) run again
    booted (0, .temp40)⟩

end Jincubator
