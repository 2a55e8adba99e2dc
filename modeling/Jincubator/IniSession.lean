import Jincubator.IniUpdate
import Mathlib.Logic.Function.Basic

/-! # The configuration file as a memory

A session loads the file, reads and sets entries and writes the file if one of them has
changed. Over any number of sessions the file is a memory of strings, one for each section
and key: an entry reads as what was last set, and as before if nothing was.
-/

namespace Jincubator.Ini

open Keyed XiniNode

/-- An access to an entry. -/
inductive Access
  | read (name key : List Byte)
  | write (name key : List Byte) (n : Int)

/-! ## The memory -/

/-- What each entry reads as. -/
abbrev Memory := List Byte × List Byte → List Byte

namespace Memory

/-- The string that a read gives, and the memory after the access. -/
def access (m : Memory) : Access → Option (List Byte) × Memory
  | .read name key => (some (m (place name key)), m)
  | .write name key n => (none, Function.update m (place name key) (decimal n))

def accesses (m : Memory) : List Access → List (Option (List Byte)) × Memory
  | [] => ([], m)
  | a :: as => ((m.access a).1 :: (accesses (m.access a).2 as).1, (accesses (m.access a).2 as).2)

def sessions (m : Memory) : List (List Access) → List (List (Option (List Byte))) × Memory
  | [] => ([], m)
  | as :: rest =>
      ((m.accesses as).1 :: (sessions (m.accesses as).2 rest).1,
        (sessions (m.accesses as).2 rest).2)

end Memory

/-! ## Sessions -/

namespace XiniFile

def access (f : XiniFile) : Access → Option (Option (List Byte) × XiniFile)
  | .read name key => (f.read name key).map fun r => (some r.2, r.1)
  | .write name key n => (f.setIvalue name key n).map fun f => (none, f)

def accesses (f : XiniFile) : List Access → Option (List (Option (List Byte)) × XiniFile)
  | [] => some ([], f)
  | a :: as =>
      (f.access a).bind fun r => (accesses r.2 as).map fun rs => (r.1 :: rs.1, rs.2)

/-- The strings that were read, and what the file holds after the session. -/
def session (content : Option (List Byte)) (as : List Access) :
    Option (List (Option (List Byte)) × Option (List Byte)) :=
  ((load content).accesses as).map fun r => (r.1, r.2.release content)

def sessions (content : Option (List Byte)) :
    List (List Access) → Option (List (List (Option (List Byte))) × Option (List Byte))
  | [] => some ([], content)
  | as :: rest =>
      (session content as).bind fun r => (sessions r.2 rest).map fun rs => (r.1 :: rs.1, rs.2)

/-- What the entries read as. -/
def memory (f : XiniFile) : Memory := fun p => (valueAt f p).getD []

end XiniFile

/-- What the entries of a file read as, when it is loaded. -/
def contents (content : Option (List Byte)) : Memory := (XiniFile.load content).memory

/-! ## One access -/

def Access.Clean : Access → Prop
  | read name key => Ini.Clean name key
  | write name key _ => Ini.Clean name key

section

variable {f : XiniFile}

/-- Setting an entry changes it only. It makes the file dirty if the memory changes. -/
theorem setIvalue_sound (sound : f.Sound) {name key : List Byte} (clean : Clean name key)
    (n : Int) : ∃ g, f.setIvalue name key n = some g ∧ g.Sound ∧
      g.memory = Function.update f.memory (place name key) (decimal n) ∧
      (g.dirty = false → f.dirty = false ∧ g.memory = f.memory) := by
  obtain ⟨g, opened, sound', -, dirty, values⟩ := entry_sound sound clean
  have there : valueAt g (place name key) ≠ none := by
    rw [values, if_pos rfl]
    exact Option.some_ne_none _
  have same : g.memory = f.memory := by
    funext p
    unfold XiniFile.memory
    rw [values]
    split <;> rfl
  obtain ⟨set, -, dirty', changed⟩ := invkSetValue_sound sound' clean.named (plain_decimal n)
    (last_decimal n) there
  have memory : (g.invkSetValue name key (decimal n)).memory =
      Function.update f.memory (place name key) (decimal n) := by
    funext p
    rw [← same]
    unfold XiniFile.memory
    rw [changed]
    by_cases own : p = place name key
    · rw [if_pos own, own, Function.update_self]
      rfl
    · rw [if_neg own, Function.update_of_ne own]
  refine ⟨_, ?_, set, memory, fun clean => ?_⟩
  · rw [XiniFile.setIvalue, opened]
    rfl
  · rw [dirty', Bool.or_eq_false_iff, decide_eq_false_iff_not, not_not] at clean
    refine ⟨dirty ▸ clean.1, memory.trans (Function.update_eq_self_iff.mpr ?_)⟩
    rw [← same]
    unfold XiniFile.memory
    rw [clean.2]
    rfl

/-- An access is an access to the memory. It makes the file dirty if the memory changes. -/
theorem access_sound (sound : f.Sound) {a : Access} (clean : a.Clean) :
    ∃ g, f.access a = some ((f.memory.access a).1, g) ∧ g.Sound ∧
      g.memory = (f.memory.access a).2 ∧
      (g.dirty = false → f.dirty = false ∧ g.memory = f.memory) := by
  cases a with
  | read name key =>
      obtain ⟨g, read, sound', -, dirty, same⟩ := read_sound sound clean
      have memory : g.memory = f.memory := funext same
      refine ⟨g, ?_, sound', memory, fun clean => ⟨dirty ▸ clean, memory⟩⟩
      rw [XiniFile.access, read]
      rfl
  | write name key n =>
      obtain ⟨g, set, sound', memory, dirty⟩ := setIvalue_sound sound clean n
      refine ⟨g, ?_, sound', memory, dirty⟩
      rw [XiniFile.access, set]
      rfl

theorem accesses_sound (sound : f.Sound) {as : List Access} (clean : ∀ a ∈ as, a.Clean) :
    ∃ g, f.accesses as = some ((f.memory.accesses as).1, g) ∧ g.Sound ∧
      g.memory = (f.memory.accesses as).2 ∧
      (g.dirty = false → f.dirty = false ∧ g.memory = f.memory) := by
  induction as generalizing f with
  | nil => exact ⟨f, rfl, sound, rfl, fun clean => ⟨clean, rfl⟩⟩
  | cons a as ih =>
      obtain ⟨g, first, sound', memory, dirty⟩ := access_sound sound (clean a List.mem_cons_self)
      obtain ⟨h, rest, sound'', memory', dirty'⟩ :=
        ih sound' fun b inside => clean b (List.mem_cons_of_mem a inside)
      refine ⟨h, ?_, sound'', ?_, fun clean => ?_⟩
      · unfold XiniFile.accesses Memory.accesses
        rw [first, Option.bind_some, rest, memory]
        rfl
      · rw [memory', memory]
        rfl
      · obtain ⟨before, same⟩ := dirty' clean
        obtain ⟨start, same'⟩ := dirty before
        exact ⟨start, same.trans same'⟩

end

/-! ## Whole sessions -/

/-- The file is read again as it was left. -/
theorem release_sound {f : XiniFile} (sound : f.Sound) {content : Option (List Byte)}
    (unchanged : f.dirty = false →
      Regular (XiniFile.load content).sects ∧ f.memory = contents content) :
    Regular (XiniFile.load (f.release content)).sects ∧
      contents (f.release content) = f.memory := by
  unfold XiniFile.release
  cases changed : f.dirty with
  | true =>
      rw [if_pos rfl]
      refine ⟨sound.load_dump.regular, ?_⟩
      funext p
      unfold contents XiniFile.memory valueAt
      rw [sound.value_load_dump]
  | false =>
      obtain ⟨regular, same⟩ := unchanged changed
      exact ⟨regular, same.symm⟩

theorem session_sound {content : Option (List Byte)}
    (regular : Regular (XiniFile.load content).sects) {as : List Access}
    (clean : ∀ a ∈ as, a.Clean) :
    ∃ after, XiniFile.session content as = some (((contents content).accesses as).1, after) ∧
      Regular (XiniFile.load after).sects ∧
      contents after = ((contents content).accesses as).2 := by
  obtain ⟨g, run, sound, memory, dirty⟩ := accesses_sound (sound_load regular) clean
  obtain ⟨regular', same⟩ := @release_sound g sound content fun unchanged =>
    ⟨regular, (dirty unchanged).2⟩
  refine ⟨g.release content, ?_, regular', same.trans memory⟩
  unfold XiniFile.session
  rw [run]
  rfl

theorem sessions_sound {content : Option (List Byte)}
    (regular : Regular (XiniFile.load content).sects) {all : List (List Access)}
    (clean : ∀ as ∈ all, ∀ a ∈ as, a.Clean) :
    ∃ after, XiniFile.sessions content all = some (((contents content).sessions all).1, after) ∧
      Regular (XiniFile.load after).sects ∧
      contents after = ((contents content).sessions all).2 := by
  induction all generalizing content with
  | nil => exact ⟨content, rfl, regular, rfl⟩
  | cons as all ih =>
      obtain ⟨middle, first, regular', memory⟩ :=
        session_sound regular (clean as List.mem_cons_self)
      obtain ⟨after, rest, regular'', memory'⟩ :=
        ih regular' fun bs inside => clean bs (List.mem_cons_of_mem as inside)
      refine ⟨after, ?_, regular'', ?_⟩
      · rw [XiniFile.sessions, first, Option.bind_some, rest, memory]
        rfl
      · rw [memory', memory]
        rfl

/-- Over any number of sessions the file is a memory: what is read in each of them is what the
memory gives, and after the last one the file is read as the memory it has become. -/
theorem sessions_refine {content : Option (List Byte)}
    (regular : Regular (XiniFile.load content).sects) {all : List (List Access)}
    (clean : ∀ as ∈ all, ∀ a ∈ as, a.Clean) :
    ∃ after, XiniFile.sessions content all = some (((contents content).sessions all).1, after) ∧
      contents after = ((contents content).sessions all).2 := by
  obtain ⟨after, run, -, memory⟩ := sessions_sound regular clean
  exact ⟨after, run, memory⟩

/-- An entry is set in one session and read in the next one. -/
theorem sessions_refine_second :
    let content := some (ascii "; top\n a = 1 \n\n[GENERAL SETTING]\nPT1_0_TEMP=0\n")
    let all : List (List Access) :=
      [[.write (ascii "GENERAL SETTING") (ascii "PT1_40_TEMP") 4000],
        [.read (ascii "general setting") (ascii "pt1_40_temp")]]
    ∃ after, XiniFile.sessions content all = some (((contents content).sessions all).1, after) ∧
      contents after = ((contents content).sessions all).2 := by
  intro content all
  refine sessions_refine (by decide) fun as inside a member => ?_
  have name : Clean (ascii "GENERAL SETTING") (ascii "PT1_40_TEMP") := by decide
  have again : Clean (ascii "general setting") (ascii "pt1_40_temp") := by decide
  simp only [all, List.mem_cons, List.not_mem_nil, or_false] at inside
  rcases inside with rfl | rfl <;> rw [List.mem_singleton.mp member]
  · exact name
  · exact again

end Jincubator.Ini
