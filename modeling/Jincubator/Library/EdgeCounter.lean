import Jincubator.Library.Run
import Mathlib.Data.List.DropRight
import Mathlib.Data.List.TakeWhile

/-! # Armed edge counters

A trigger arms the counter. While it is armed it takes note of a low reading, and
the next high reading counts and disarms it. So every count has a trigger of its own,
and a low reading since that trigger.
-/

open Run

/-- Whether a trigger comes, what is read after it, if anything, and whether the reading counts. -/
structure Moment where
  triggered : Bool
  reading : Option Bool
  counted : Bool
  deriving DecidableEq

structure EdgeCounter where
  armed : Bool
  low : Bool

namespace EdgeCounter

def idle : EdgeCounter := ⟨false, false⟩

def arm (triggered : Bool) (c : EdgeCounter) : EdgeCounter :=
  { c with armed := c.armed || triggered }

/-- The low reading is noted before the high one is looked for. -/
def read (high : Bool) (c : EdgeCounter) : EdgeCounter × Bool :=
  if c.armed then
    let low := c.low || !high
    if low && high then (idle, true) else (⟨true, low⟩, false)
  else (idle, false)

/-- The counter after a moment, and whether the moment counts. -/
def meet (c : EdgeCounter) (m : Moment) : EdgeCounter × Bool :=
  match m.reading with
  | some high => (c.arm m.triggered).read high
  | none => (c.arm m.triggered, false)

def next (c : EdgeCounter) (m : Moment) : EdgeCounter := (c.meet m).1

/-- The moment tells the truth about the counter. -/
def Honest (c : EdgeCounter) (m : Moment) (_ : EdgeCounter) : Prop :=
  m.counted = (c.meet m).2

/-- A trigger is among the moments, and from the first one on there is a low reading. -/
structure Turned (since : List Moment) : Prop where
  triggered : ∃ m ∈ since, m.triggered = true
  low : ∃ m ∈ since.dropWhile fun m => !m.triggered, m.reading = some false

/-- What the counter knows of the moments since the last count. -/
structure Knows (c : EdgeCounter) (since : List Moment) : Prop where
  armed : c.armed = true → ∃ m ∈ since, m.triggered = true
  low : c.low = true → Turned since

section

variable {c : EdgeCounter} {m : Moment} {since ms : List Moment} {p : Moment → Bool}

/-- What a moment does: a high reading of an armed counter that has noted a low one counts, and
any other moment may arm the counter or let it note a low reading. -/
theorem meet_cases (c : EdgeCounter) (m : Moment) :
    ((c.armed = true ∨ m.triggered = true) ∧ c.low = true ∧ m.reading = some true ∧
        c.meet m = (idle, true)) ∨
      ∃ d, c.meet m = (d, false) ∧ (d.armed = true → c.armed = true ∨ m.triggered = true) ∧
        (d.low = true → c.low = true ∨
          m.reading = some false ∧ (c.armed = true ∨ m.triggered = true)) := by
  obtain ⟨armed, low⟩ := c
  obtain ⟨triggered, reading, counted⟩ := m
  simp only [meet, read, arm]
  cases reading with
  | none => exact Or.inr ⟨_, rfl, by simp, Or.inl⟩
  | some high =>
      cases armed <;> cases triggered <;> cases low <;> cases high <;> simp [idle]

/-! ## The moments since the last count -/

theorem mem_dropWhile_append {m : Moment} (mem : m ∈ since.dropWhile p) (ms : List Moment) :
    m ∈ (since ++ ms).dropWhile p := by
  rw [List.dropWhile_append, if_neg]
  · exact List.mem_append_left ms mem
  · rw [List.isEmpty_iff]
    exact List.ne_nil_of_mem mem

/-- The last of some moments is not dropped unless all of them are. -/
theorem last_mem_dropWhile (stops : ∃ x ∈ since ++ [m], p x = false) :
    m ∈ (since ++ [m]).dropWhile p := by
  rw [List.dropWhile_append]
  split
  · rename_i dropped
    rw [List.isEmpty_iff, List.dropWhile_eq_nil_iff] at dropped
    obtain ⟨x, mem, stop⟩ := stops
    rcases List.mem_append.mp mem with earlier | last
    · exact absurd (dropped x earlier) (by simp [stop])
    · rw [← List.mem_singleton.mp last]
      simp [stop]
  · exact List.mem_append_right _ (List.mem_singleton_self m)

theorem Turned.append (turned : Turned since) (ms : List Moment) : Turned (since ++ ms) := by
  obtain ⟨⟨t, triggerMem, triggered⟩, x, lowMem, low⟩ := turned
  exact ⟨⟨t, List.mem_append_left ms triggerMem, triggered⟩, x, mem_dropWhile_append lowMem ms, low⟩

theorem knows_idle (since : List Moment) : Knows idle since := ⟨nofun, nofun⟩

/-- A moment that does not count adds to what the counter knows. -/
theorem Knows.next (knows : Knows c since) (counts : (c.meet m).2 = false) :
    Knows (c.next m) (since ++ [m]) := by
  have trigger (armed : c.armed = true ∨ m.triggered = true) :
      ∃ x ∈ since ++ [m], x.triggered = true := by
    rcases armed with armed | now
    · obtain ⟨x, mem, triggered⟩ := knows.armed armed
      exact ⟨x, List.mem_append_left _ mem, triggered⟩
    · exact ⟨m, List.mem_append_right _ (List.mem_singleton_self m), now⟩
  rw [EdgeCounter.next]
  rcases meet_cases c m with ⟨-, -, -, counted⟩ | ⟨d, met, armed, low⟩
  · rw [counted] at counts
    exact absurd counts (by decide)
  · rw [met]
    refine ⟨fun on => trigger (armed on), fun on => ?_⟩
    rcases low on with noted | ⟨reading, on⟩
    · exact (knows.low noted).append [m]
    · refine ⟨trigger on, m, last_mem_dropWhile ?_, reading⟩
      obtain ⟨x, mem, triggered⟩ := trigger on
      exact ⟨x, mem, by simp [triggered]⟩

theorem knows_run (honest : Along next Honest idle ms) :
    Knows (run next idle ms) (ms.rtakeWhile fun m => !m.counted) := by
  induction ms using List.reverseRecOn with
  | nil => exact knows_idle _
  | append_singleton ms m ih =>
      rw [along_append] at honest
      obtain ⟨before, told, -⟩ := honest
      rw [Honest] at told
      rw [run_append, run_cons, run_nil, List.rtakeWhile_concat, told]
      rcases meet_cases (run next idle ms) m with ⟨-, -, -, counted⟩ | ⟨d, met, -⟩
      · rw [EdgeCounter.next, counted]
        exact knows_idle _
      · rw [met, Bool.not_false, if_pos rfl]
        exact (ih before).next (by rw [met])

/-! ## Counts -/

/-- Every count is a high reading, and the moments since the count before it hold a trigger and,
not before the first one, a low reading. -/
theorem turned_of_counted {before after : List Moment}
    (honest : Along next Honest idle (before ++ m :: after)) (counted : m.counted = true) :
    m.reading = some true ∧ Turned (before.rtakeWhile fun m => !m.counted) := by
  rw [along_append, along_cons] at honest
  obtain ⟨past, told, -⟩ := honest
  rw [Honest, counted] at told
  have knows := knows_run past
  rcases meet_cases (run next idle before) m with ⟨-, low, reading, -⟩ | ⟨d, met, -⟩
  · exact ⟨reading, knows.low low⟩
  · rw [met] at told
    cases told

/-- Every count uses up a trigger. -/
theorem countP_counted_le (honest : Along next Honest c ms) :
    ms.countP (·.counted) ≤ ms.countP (·.triggered) + if c.armed = true then 1 else 0 := by
  induction ms generalizing c with
  | nil => simp
  | cons m ms ih =>
      obtain ⟨told, rest⟩ := honest
      have later := ih rest
      rw [Honest] at told
      rw [EdgeCounter.next] at later
      rw [List.countP_cons, List.countP_cons, told]
      have charged (armed : c.armed = true ∨ m.triggered = true) :
          1 ≤ (if m.triggered = true then 1 else 0) + if c.armed = true then 1 else 0 := by
        rcases armed with before | now
        · rw [if_pos before]
          omega
        · rw [if_pos now]
          omega
      rcases meet_cases c m with ⟨armed, -, -, counted⟩ | ⟨d, met, armed, -⟩
      · have paid := charged armed
        rw [counted] at later ⊢
        simp only [idle, Bool.false_eq_true, if_false, if_true] at later ⊢
        omega
      · rw [met] at later ⊢
        simp only [Bool.false_eq_true, if_false] at later ⊢
        split at later
        · rename_i on
          have kept := charged (armed on)
          omega
        · omega

end

end EdgeCounter
