import Mathlib.Data.List.Basic

/-! # Runs of a deterministic system

A system is a step function over states and events. A property of a run is a
relation between the state an event meets, the event and the state it leaves,
asked of every event in turn, and invariants carry such properties along a run.
-/

namespace Run

variable {σ ε : Type*}

/-- The state after a list of events. -/
def run (step : σ → ε → σ) (s : σ) (es : List ε) : σ :=
  es.foldl step s

@[simp] theorem run_nil (step : σ → ε → σ) (s : σ) : run step s [] = s := rfl

@[simp] theorem run_cons (step : σ → ε → σ) (s : σ) (e : ε) (es : List ε) :
    run step s (e :: es) = run step (step s e) es := rfl

theorem run_append (step : σ → ε → σ) (s : σ) (es fs : List ε) :
    run step s (es ++ fs) = run step (run step s es) fs :=
  List.foldl_append

/-- `P` relates the states before and after every event of the run. -/
def Along (step : σ → ε → σ) (P : σ → ε → σ → Prop) : σ → List ε → Prop
  | _, [] => True
  | s, e :: es => P s e (step s e) ∧ Along step P (step s e) es

instance decidableAlong (step : σ → ε → σ) (P : σ → ε → σ → Prop)
    [∀ s e t, Decidable (P s e t)] : ∀ s es, Decidable (Along step P s es)
  | _, [] => isTrue trivial
  | s, e :: es =>
      have := decidableAlong step P (step s e) es
      inferInstanceAs (Decidable (_ ∧ _))

@[simp] theorem along_nil (step : σ → ε → σ) (P : σ → ε → σ → Prop) (s : σ) :
    Along step P s [] := trivial

@[simp] theorem along_cons (step : σ → ε → σ) (P : σ → ε → σ → Prop) (s : σ) (e : ε)
    (es : List ε) :
    Along step P s (e :: es) ↔ P s e (step s e) ∧ Along step P (step s e) es := Iff.rfl

theorem along_append (step : σ → ε → σ) (P : σ → ε → σ → Prop) (s : σ) (es fs : List ε) :
    Along step P s (es ++ fs) ↔ Along step P s es ∧ Along step P (run step s es) fs := by
  induction es generalizing s with
  | nil => simp
  | cons e es ih => simp only [List.cons_append, along_cons, ih, run_cons, and_assoc]

theorem along_true (step : σ → ε → σ) (s : σ) (es : List ε) :
    Along step (fun _ _ _ => True) s es := by
  induction es generalizing s with
  | nil => trivial
  | cons e es ih => exact ⟨trivial, ih _⟩

theorem run_invariant {step : σ → ε → σ} {Inv : σ → Prop}
    (kept : ∀ s e, Inv s → Inv (step s e)) {s : σ} (init : Inv s) (es : List ε) :
    Inv (run step s es) := by
  induction es generalizing s with
  | nil => exact init
  | cons e es ih => exact ih (kept s e init)

/-- A view of the state that no event of a run changes is the same at its end. -/
theorem run_view {β : Type*} (view : σ → β) {step : σ → ε → σ} {es : List ε}
    (kept : ∀ e ∈ es, ∀ s, view (step s e) = view s) (s : σ) :
    view (run step s es) = view s := by
  induction es generalizing s with
  | nil => rfl
  | cons e es ih =>
      have later := ih (fun f mem => kept f (List.mem_cons_of_mem e mem)) (step s e)
      exact later.trans (kept e List.mem_cons_self s)

/-- An invariant that makes two properties of a step equivalent makes them equivalent along
runs. -/
theorem along_congr {step : σ → ε → σ} {Inv : σ → Prop} {P Q : σ → ε → σ → Prop}
    (kept : ∀ s e, Inv s → Inv (step s e))
    (same : ∀ s e, Inv s → (P s e (step s e) ↔ Q s e (step s e))) {s : σ} (init : Inv s)
    (es : List ε) : Along step P s es ↔ Along step Q s es := by
  induction es generalizing s with
  | nil => exact Iff.rfl
  | cons e es ih => rw [along_cons, along_cons, same s e init, ih (kept s e init)]

theorem along_of_invariant {step : σ → ε → σ} {Inv : σ → Prop} {P : σ → ε → σ → Prop}
    (kept : ∀ s e, Inv s → Inv (step s e)) (holds : ∀ s e, Inv s → P s e (step s e)) {s : σ}
    (init : Inv s) (es : List ε) : Along step P s es := by
  induction es generalizing s with
  | nil => trivial
  | cons e es ih => exact ⟨holds s e init, ih (kept s e init)⟩

/-- Where a step has a property exactly under a condition, and the property leaves an invariant,
the property holds along a run exactly if the condition does. -/
theorem along_iff {step : σ → ε → σ} (Inv : σ → Prop) {P : σ → ε → σ → Prop} {A Q : σ → ε → Prop}
    (exact : ∀ s e, A s e → Inv s → (P s e (step s e) ↔ Q s e))
    (kept : ∀ s e, A s e → Inv s → P s e (step s e) → Inv (step s e)) {s : σ} (init : Inv s)
    {es : List ε} (assumed : Along step (fun s e _ => A s e) s es) :
    Along step P s es ↔ Along step (fun s e _ => Q s e) s es := by
  induction es generalizing s with
  | nil => exact Iff.rfl
  | cons e es ih =>
      rw [along_cons, along_cons, exact s e assumed.1 init]
      refine and_congr_right ?_
      intro condition
      exact ih (kept s e assumed.1 init ((exact s e assumed.1 init).mpr condition)) assumed.2

/-- Where an invariant is kept by a step exactly under a condition, it holds along a run exactly
if the condition does. -/
theorem along_invariant_iff {step : σ → ε → σ} (Inv : σ → Prop) {A Q : σ → ε → Prop}
    (kept : ∀ s e, A s e → Inv s → (Inv (step s e) ↔ Q s e)) {s : σ} (init : Inv s)
    {es : List ε} (assumed : Along step (fun s e _ => A s e) s es) :
    Along step (fun _ _ t => Inv t) s es ↔ Along step (fun s e _ => Q s e) s es :=
  along_iff Inv kept (fun _ _ _ _ held => held) init assumed

theorem run_invariant_along {step : σ → ε → σ} {Inv : σ → Prop} {A : σ → ε → Prop}
    (kept : ∀ s e, A s e → Inv s → Inv (step s e)) {s : σ} (init : Inv s) {es : List ε}
    (assumed : Along step (fun s e _ => A s e) s es) : Inv (run step s es) := by
  induction es generalizing s with
  | nil => exact init
  | cons e es ih => exact ih (kept s e assumed.1 init) assumed.2

/-- A property holds along a run if it holds of every event after those before it. -/
theorem along_iff_split (step : σ → ε → σ) (P : σ → ε → σ → Prop) (s : σ) (es : List ε) :
    Along step P s es ↔ ∀ before e after, es = before ++ e :: after →
      P (run step s before) e (step (run step s before) e) := by
  constructor
  · intro along before e after split
    rw [split, along_append, along_cons] at along
    exact along.2.1
  · intro each
    induction es generalizing s with
    | nil => trivial
    | cons e es ih =>
        refine ⟨each [] e es rfl, ih (step s e) ?_⟩
        intro before f after split
        exact each (e :: before) f after (congrArg (e :: ·) split)

/-- `P` relates the states before and after every event of a run that may fail, up to the first
event that does. -/
def AlongPartial (step : σ → ε → Option σ) (P : σ → ε → σ → Prop) : σ → List ε → Prop
  | _, [] => True
  | s, e :: es => ∀ t, step s e = some t → P s e t ∧ AlongPartial step P t es

/-- An event that does not fail is followed by the rest of the run. -/
theorem alongPartial_cons {step : σ → ε → Option σ} {s t : σ} {e : ε} (returns : step s e = some t)
    (P : σ → ε → σ → Prop) (es : List ε) :
    AlongPartial step P s (e :: es) ↔ P s e t ∧ AlongPartial step P t es := by
  rw [AlongPartial, returns]
  refine ⟨fun along => along t rfl, ?_⟩
  rintro along _ ⟨⟩
  exact along

/-- Of a run that may fail: an invariant that makes two properties of a step equivalent makes them
equivalent along runs. -/
theorem alongPartial_congr {step : σ → ε → Option σ} {Inv : σ → Prop} {P Q : σ → ε → σ → Prop}
    (kept : ∀ s e t, step s e = some t → Inv s → Inv t)
    (same : ∀ s e t, step s e = some t → Inv s → (P s e t ↔ Q s e t)) {s : σ} (init : Inv s)
    (es : List ε) : AlongPartial step P s es ↔ AlongPartial step Q s es := by
  induction es generalizing s with
  | nil => exact Iff.rfl
  | cons e es ih =>
      refine forall_congr' fun t => forall_congr' fun returns => ?_
      rw [same s e t returns init, ih (kept s e t returns init)]

/-- Of a run that may fail: where a step has a property exactly under a condition, and the property
leaves an invariant, the property holds along a run exactly if the condition does. -/
theorem alongPartial_iff {step : σ → ε → Option σ} (Inv : σ → Prop) {P : σ → ε → σ → Prop}
    {A Q : σ → ε → Prop}
    (exact : ∀ s e t, step s e = some t → A s e → Inv s → (P s e t ↔ Q s e))
    (kept : ∀ s e t, step s e = some t → A s e → Inv s → P s e t → Inv t) {s : σ} (init : Inv s)
    {es : List ε} (assumed : AlongPartial step (fun s e _ => A s e) s es) :
    AlongPartial step P s es ↔ AlongPartial step (fun s e _ => Q s e) s es := by
  induction es generalizing s with
  | nil => exact Iff.rfl
  | cons e es ih =>
      refine forall_congr' fun t => forall_congr' fun returns => ?_
      obtain ⟨holds, later⟩ := assumed t returns
      rw [exact s e t returns holds init]
      refine and_congr_right ?_
      intro condition
      have held := (exact s e t returns holds init).mpr condition
      exact ih (kept s e t returns holds init held) later

/-- What an observer notes of every event of a run. -/
def trace {μ : Type*} (step : σ → ε → σ) (note : σ → ε → μ) : σ → List ε → List μ
  | _, [] => []
  | s, e :: es => note s e :: trace step note (step s e) es

/-- A system whose notes are the events of another one, which it simulates, runs as that one
does. -/
theorem along_trace {τ μ : Type*} {step : σ → ε → σ} {note : σ → ε → μ} {next : τ → μ → τ}
    {P : τ → μ → τ → Prop} (view : σ → τ)
    (simulates : ∀ s e, view (step s e) = next (view s) (note s e))
    (holds : ∀ s e, P (view s) (note s e) (view (step s e))) (s : σ) (es : List ε) :
    Along next P (view s) (trace step note s es) := by
  induction es generalizing s with
  | nil => trivial
  | cons e es ih =>
      rw [trace, along_cons, ← simulates]
      exact ⟨holds s e, ih (step s e)⟩

/-- Where each step of a system that may fail simulates one of a system that does not, every run
goes through and simulates that of the other system. -/
theorem foldlM_simulates {τ : Type*} {R : σ → τ → Prop} {step : σ → ε → Option σ}
    {next : τ → ε → τ}
    (simulates : ∀ s t e, R s t → ∃ s', step s e = some s' ∧ R s' (next t e)) {s : σ} {t : τ}
    (init : R s t) (es : List ε) : ∃ s', es.foldlM step s = some s' ∧ R s' (run next t es) := by
  induction es generalizing s t with
  | nil => exact ⟨s, rfl, init⟩
  | cons e es ih =>
      obtain ⟨s', first, related⟩ := simulates s t e init
      obtain ⟨u, rest, related'⟩ := ih related
      refine ⟨u, ?_, related'⟩
      rw [List.foldlM_cons, first]
      exact rest

end Run
