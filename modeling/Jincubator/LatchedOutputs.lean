import Jincubator.JobTc
import Jincubator.Library.Hold

/-! # The minimum run time of the water cooling

A latched output is a hold counter: it comes on when it has been asked for one call
more often than its minimum, and goes off after as many calls that do not ask for it.
Whatever the measured temperature makes of the latch is left to the caller.
-/

namespace Jincubator

open Incubator Run Hold

/-! ## Latches as hold counters -/

/-- The static variables of a latched output hold the counter. -/
def Latch.Shows (latch : Latch) (h : Counter) : Prop :=
  latch.nn = h.count ∧ latch.retf = if h.on then 1 else 0

namespace Latch

variable {latch : Latch} {h : Counter} {asked interlock : Prop} [Decidable asked]
  [Decidable interlock] {tmin : Int}

theorem shows_idle : (⟨0, 0⟩ : Latch).Shows Counter.idle := ⟨rfl, rfl⟩

theorem Shows.on_iff (shows : latch.Shows h) : latch.retf ≠ 0 ↔ h.on = true := by
  rw [shows.2]
  cases h.on <;> simp

theorem Shows.counted (shows : latch.Shows h) (fits : h.count < 2 ^ 31 - 1) :
    (if latch.retf ≠ 0 then
        if (if asked then (1000 : Int) else 0) < 500 then int32 (latch.nn - 1) else latch.nn
      else if (if asked then (1000 : Int) else 0) > 500 then int32 (latch.nn + 1)
      else int32 (latch.nn - 1)) = h.reached (decide asked) := by
  have exact (v : Int) (range : -2 ^ 31 ≤ v ∧ v < 2 ^ 31) : int32 v = v := by
    rw [int32, BitVec.toInt_ofInt]
    exact Int.bmod_eq_of_le (by omega) (by omega)
  rw [shows.1, shows.2, exact _ (by omega), exact _ (by omega), Counter.reached]
  cases h.on <;> by_cases asked <;> simp [*]

/-- Without its interlock a call counts as the hold counter does. -/
theorem Shows.next (shows : latch.Shows h) (free : ¬interlock) (fits : h.count < 2 ^ 31 - 1) :
    (latch.next asked interlock tmin).Shows (h.next tmin.toNat (decide asked)) := by
  have count := h.counted_reached (decide asked)
  have lit := Counter.next_on_iff tmin.toNat h (decide asked)
  rw [Latch.next]
  simp only [shows.counted fits, if_neg free]
  split
  · rename_i used
    have none : h.counted (decide asked) = 0 := by omega
    have dark : (h.next tmin.toNat (decide asked)).on = false := by
      rw [← Bool.not_eq_true, lit]
      omega
    refine ⟨?_, ?_⟩
    · show (0 : Int) = h.counted (decide asked)
      omega
    · rw [dark]
      rfl
  · rename_i left
    refine ⟨?_, ?_⟩
    · show h.reached (decide asked) = h.counted (decide asked)
      omega
    · have beyond : h.reached (decide asked) > tmin ↔ tmin.toNat < h.counted (decide asked) := by
        omega
      rw [shows.2]
      by_cases on : (h.next tmin.toNat (decide asked)).on = true
      · rw [if_pos on]
        rcases lit.mp on with high | held
        · rw [if_pos (beyond.mpr high)]
        · rw [if_pos held.1, ite_self]
      · rw [if_neg on]
        rw [lit, not_or, not_and] at on
        rw [if_neg fun high => on.1 (beyond.mp high), if_neg fun held => on.2 held (by omega)]

/-- A latch at rest that is not asked for stays at rest. -/
theorem next_resting (unasked : ¬asked) :
    (⟨0, 0⟩ : Latch).next asked interlock tmin = ⟨0, 0⟩ := by
  have below : int32 (0 - 1) = -1 := by decide
  by_cases locked : interlock <;> simp only [Latch.next, unasked, locked, below] <;> rfl

end Latch

/-! ## Runs of `cool` -/

/-- A call, or any value in a register other than the two settings. -/
inductive CoolEvent where
  | call (pid : Int)
  | input (index : Nat) (free : index ∉ [Reg.pTco, Reg.pCol]) (value : Int)

def coolStep (s : Incubator) : CoolEvent → Incubator
  | .call pid => (cool pid s).2
  | .input index _ value => setVal index value s

/-- A call that does not ask for cooling. -/
def CoolEvent.above (col : Int) : CoolEvent → Bool
  | .call pid => pid > col * 100
  | .input _ _ _ => false

/-- What the calls ask the latch for. -/
def coolRequests (col : Int) : List CoolEvent → List Bool
  | [] => []
  | .call pid :: es => decide (pid ≤ col * 100) :: coolRequests col es
  | .input _ _ _ :: es => coolRequests col es

theorem count_coolRequests (col : Int) (es : List CoolEvent) :
    (coolRequests col es).count false = es.countP (CoolEvent.above col) := by
  induction es with
  | nil => rfl
  | cons e es ih =>
      cases e with
      | call pid =>
          rw [coolRequests, List.count_cons, ih, List.countP_cons]
          by_cases above : pid > col * 100 <;> simp [CoolEvent.above, above]
      | input index free value =>
          rw [coolRequests, ih, List.countP_cons_of_neg (by simp [CoolEvent.above])]

theorem coolStep_setting (s : Incubator) (e : CoolEvent) {i : Nat}
    (setting : i ∈ [Reg.pTco, Reg.pCol]) : (coolStep s e).getVal i = s.getVal i := by
  cases e with
  | call pid => rfl
  | input index free value =>
      exact getVal_setVal_of_ne s value fun same => free (same ▸ setting)

/-- The latch follows the counter through every run. -/
theorem run_coolStep {s : Incubator} {h : Counter} (shows : s.coolLatch.Shows h)
    (within : h.Within (s.getVal Reg.pTco).toNat) (es : List CoolEvent) :
    (run coolStep s es).coolLatch.Shows
      (run (Counter.next (s.getVal Reg.pTco).toNat) h (coolRequests (s.getVal Reg.pCol) es)) := by
  induction es generalizing s h with
  | nil => exact shows
  | cons e es ih =>
      have tco := coolStep_setting s e (i := Reg.pTco) (by simp)
      have col := coolStep_setting s e (i := Reg.pCol) (by simp)
      rw [← tco, ← col]
      rw [← tco] at within
      cases e with
      | call pid =>
          have range := getVal_range (coolStep s (.call pid)) Reg.pTco
          have small := within.most
          exact ih (shows.next not_false (by omega)) (within.next le_rfl _)
      | input index free value =>
          exact ih shows within

theorem run_coolStep_setting (s : Incubator) (es : List CoolEvent) {i : Nat}
    (setting : i ∈ [Reg.pTco, Reg.pCol]) : (run coolStep s es).getVal i = s.getVal i :=
  run_view (·.getVal i) (fun e _ t => coolStep_setting t e setting) s

/-- The latch comes on. -/
def CoolRises (s : Incubator) (e : CoolEvent) : Prop :=
  s.coolLatch.retf = 0 ∧ (coolStep s e).coolLatch.retf ≠ 0

instance (s : Incubator) (e : CoolEvent) : Decidable (CoolRises s e) :=
  inferInstanceAs (Decidable (_ ∧ _))

/-- The counter is at most `most`, which it has when the latch comes on, and the latch stays on
for as many calls above the point of action. -/
structure MinimumRun (most col : Int) (s : Incubator) : Prop where
  counted : 0 ≤ s.coolLatch.nn ∧ s.coolLatch.nn ≤ most
  reached : ∀ e, CoolRises s e → (coolStep s e).coolLatch.nn = most
  stays : ∀ e more, CoolRises s e → more.countP (CoolEvent.above col) < most →
    (run coolStep (coolStep s e) more).coolLatch.retf ≠ 0
  ends : ∀ e more pid, CoolRises s e → more.countP (CoolEvent.above col) + 1 = most →
    pid > col * 100 →
      (coolStep (run coolStep (coolStep s e) more) (.call pid)).coolLatch.retf = 0

/-- A latch that comes on shows a counter at its most. -/
theorem coolRises_shows {s : Incubator} {h : Counter} {e : CoolEvent}
    (shows : s.coolLatch.Shows h) (within : h.Within (s.getVal Reg.pTco).toNat)
    (rises : CoolRises s e) : ∃ g, (coolStep s e).coolLatch.Shows g ∧
      g.Within (s.getVal Reg.pTco).toNat ∧ g.on = true ∧
      g.count = (s.getVal Reg.pTco).toNat + 1 := by
  obtain ⟨off, on⟩ := rises
  cases e with
  | input index free value => exact absurd off on
  | call pid =>
      have range := getVal_range s Reg.pTco
      have small := within.most
      have called : (cool pid s).2.coolLatch.Shows _ := shows.next not_false (by omega)
      have dark : h.on = false := by
        rw [← Bool.not_eq_true, ← shows.on_iff]
        exact not_not.mpr off
      have lit := called.on_iff.mp on
      exact ⟨_, called, within.next le_rfl _, lit, Counter.next_rises within dark lit⟩

/-- From the initial latch on, with a minimum that is not negative, every run of calls keeps the
minimum run time. -/
theorem cool_minimumRun (s : Incubator) (resting : s.coolLatch = ⟨0, 0⟩)
    (setting : 0 ≤ s.getVal Reg.pTco) (es : List CoolEvent) :
    MinimumRun (s.getVal Reg.pTco + 1) (s.getVal Reg.pCol) (run coolStep s es) := by
  have idle : s.coolLatch.Shows Counter.idle := resting ▸ Latch.shows_idle
  have shows := run_coolStep idle (Counter.within_idle _) es
  have within := Counter.run_within (Counter.within_idle (s.getVal Reg.pTco).toNat)
    (coolRequests (s.getVal Reg.pCol) es)
  set t := run coolStep s es with reached
  have tco : t.getVal Reg.pTco = s.getVal Reg.pTco := run_coolStep_setting s es (by simp)
  have col : t.getVal Reg.pCol = s.getVal Reg.pCol := run_coolStep_setting s es (by simp)
  rw [← tco] at within shows
  rw [← tco, ← col]
  rw [← tco] at setting
  generalize run _ _ _ = h at shows within
  have most := within.most
  -- the run after the latch has come on
  have after {e : CoolEvent} (more : List CoolEvent) (rises : CoolRises t e) :
      ∃ g : Counter, g.on = true ∧ g.count = (t.getVal Reg.pTco).toNat + 1 ∧
        g.Within (t.getVal Reg.pTco).toNat ∧ (coolStep t e).coolLatch.Shows g ∧
        (run coolStep (coolStep t e) more).coolLatch.Shows
          (run (Counter.next (t.getVal Reg.pTco).toNat) g
            (coolRequests (t.getVal Reg.pCol) more)) := by
    obtain ⟨g, called, low, lit, full⟩ := coolRises_shows shows within rises
    have same := coolStep_setting t e (i := Reg.pTco) (by simp)
    have also := coolStep_setting t e (i := Reg.pCol) (by simp)
    have later := run_coolStep called (same ▸ low) more
    rw [same, also] at later
    exact ⟨g, lit, full, low, called, later⟩
  constructor
  case counted =>
    rw [shows.1]
    omega
  case reached =>
    intro e rises
    obtain ⟨g, -, full, -, called, -⟩ := after [] rises
    rw [called.1, full]
    omega
  case stays =>
    intro e more rises few
    obtain ⟨g, lit, full, -, -, later⟩ := after more rises
    rw [later.on_iff]
    refine (Counter.run_lit _ lit ?_).1
    rw [count_coolRequests]
    omega
  case ends =>
    intro e more pid rises last above
    obtain ⟨g, lit, full, low, -, later⟩ := after more rises
    have few : (coolRequests (t.getVal Reg.pCol) more).count false < g.count := by
      rw [count_coolRequests]
      omega
    obtain ⟨on, left⟩ := Counter.run_lit (t.getVal Reg.pTco).toNat lit few
    rw [count_coolRequests, full] at left
    set u := run coolStep (coolStep t e) more
    have point : u.getVal Reg.pCol = t.getVal Reg.pCol :=
      (run_coolStep_setting _ _ (by simp)).trans (coolStep_setting t e (by simp))
    have unasked : decide (pid ≤ u.getVal Reg.pCol * 100) = false := by
      rw [point]
      exact decide_eq_false (by omega)
    have called : (cool pid u).2.coolLatch.Shows _ := later.next not_false (by omega)
    rw [unasked, Counter.next_dark on (by omega)] at called
    exact called.2

/-- Cooling is asked for twice with a minimum of one call. -/
def coolOnce : Incubator := run coolStep (setVal Reg.pTco 1 cleared) [.call 0]

theorem cool_minimumRun_once : MinimumRun 2 0 coolOnce ∧ CoolRises coolOnce (.call 0) := by
  have tco : (setVal Reg.pTco 1 cleared).getVal Reg.pTco = 1 := by decide
  have col : (setVal Reg.pTco 1 cleared).getVal Reg.pCol = 0 := by decide
  have minimum := cool_minimumRun (setVal Reg.pTco 1 cleared) rfl (by decide) [.call 0]
  rw [tco, col] at minimum
  exact ⟨minimum, by decide⟩

end Jincubator
