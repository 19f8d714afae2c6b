import Mathlib.Order.Basic

/-! # Runs of an event-driven component

A component is a state, an event type and a total step function; the
environment chooses the events. `run` is the state after a list of events and
`Steps` says something of every event together with the state that takes it.
The rules below carry an invariant along a run, and turn "each step is right
exactly when its guard holds" into the same equivalence for whole runs. -/
namespace DeviceHal.Lib.Run

section
variable {σ ε : Type*} (step : σ → ε → σ)

/-- The state after the events, taken one after the other. -/
def run (s : σ) (es : List ε) : σ := es.foldl step s

/-- Every event meets `C` in the state that takes it. -/
def Steps (C : σ → ε → Prop) : σ → List ε → Prop
  | _, [] => True
  | s, e :: es => C s e ∧ Steps C (step s e) es

instance Steps.decidable (C : σ → ε → Prop) [∀ s e, Decidable (C s e)] :
    ∀ s es, Decidable (Steps step C s es)
  | _, [] => .isTrue trivial
  | s, e :: es =>
    have := Steps.decidable C (step s e) es
    inferInstanceAs (Decidable (C s e ∧ Steps step C (step s e) es))

@[simp] theorem run_nil (s : σ) : run step s [] = s := rfl

@[simp] theorem run_cons (s : σ) (e : ε) (es : List ε) :
    run step s (e :: es) = run step (step s e) es := rfl

@[simp] theorem steps_cons (C : σ → ε → Prop) (s : σ) (e : ε) (es : List ε) :
    Steps step C s (e :: es) ↔ C s e ∧ Steps step C (step s e) es := Iff.rfl

variable {step}

theorem run_append (s : σ) (es fs : List ε) :
    run step s (es ++ fs) = run step (run step s es) fs := List.foldl_append

theorem steps_of_mem {C : ε → Prop} {es : List ε} (h : ∀ e ∈ es, C e) (s : σ) :
    Steps step (fun _ e => C e) s es := by
  induction es generalizing s with
  | nil => trivial
  | cons e es ih => exact ⟨h e (.head _), ih (fun f hf => h f (.tail _ hf)) (step s e)⟩

theorem steps_of_forall {C : σ → ε → Prop} (h : ∀ s e, C s e) (s : σ) (es : List ε) :
    Steps step C s es := by
  induction es generalizing s with
  | nil => trivial
  | cons e es ih => exact ⟨h s e, ih (step s e)⟩

theorem Steps.mono {C D : σ → ε → Prop} (h : ∀ s e, C s e → D s e) {s : σ} {es : List ε}
    (hc : Steps step C s es) : Steps step D s es := by
  induction es generalizing s with
  | nil => trivial
  | cons e es ih => exact ⟨h s e hc.1, ih hc.2⟩

theorem Steps.and {C D : σ → ε → Prop} {s : σ} {es : List ε} (hc : Steps step C s es)
    (hd : Steps step D s es) : Steps step (fun s e => C s e ∧ D s e) s es := by
  induction es generalizing s with
  | nil => trivial
  | cons e es ih => exact ⟨⟨hc.1, hd.1⟩, ih hc.2 hd.2⟩

/-- The invariant rule for an environment without restrictions. -/
theorem inv_run_any {I : σ → Prop} (hstep : ∀ s e, I s → I (step s e)) {s : σ} (es : List ε)
    (hi : I s) : I (run step s es) := by
  induction es generalizing s with
  | nil => exact hi
  | cons e es ih => exact ih (hstep s e hi)

/-- The invariant rule for runs whose events all meet the premise. -/
theorem inv_run {I : σ → Prop} {A : σ → ε → Prop} (hstep : ∀ s e, I s → A s e → I (step s e))
    {s : σ} {es : List ε} (hi : I s) (ha : Steps step A s es) : I (run step s es) := by
  induction es generalizing s with
  | nil => exact hi
  | cons e es ih => exact ih (hstep s e hi ha.1) ha.2

/-- What the invariant and the premise say of one step holds at every step. -/
theorem steps_of_inv {I : σ → Prop} {A Q : σ → ε → Prop} (hq : ∀ s e, I s → A s e → Q s e)
    (hstep : ∀ s e, I s → A s e → I (step s e)) {s : σ} {es : List ε}
    (hi : I s) (ha : Steps step A s es) : Steps step Q s es := by
  induction es generalizing s with
  | nil => trivial
  | cons e es ih => exact ⟨hq s e hi ha.1, ih (hstep s e hi ha.1) ha.2⟩

/-- A run is right at every step exactly when every step meets its guard: in
a state that meets the invariant the two agree, and a right step preserves the
invariant. The first wrong step and the first unmet guard are then the same. -/
theorem steps_iff_guard {I : σ → Prop} {A Q C : σ → ε → Prop}
    (hiff : ∀ s e, I s → A s e → (Q s e ↔ C s e))
    (hstep : ∀ s e, I s → A s e → Q s e → I (step s e)) {s : σ} {es : List ε}
    (hi : I s) (ha : Steps step A s es) : Steps step Q s es ↔ Steps step C s es := by
  induction es generalizing s with
  | nil => exact Iff.rfl
  | cons e es ih =>
    simp only [steps_cons]
    constructor
    · intro hh
      obtain ⟨hq, hqs⟩ := hh
      exact ⟨(hiff s e hi ha.1).mp hq, (ih (hstep s e hi ha.1 hq) ha.2).mp hqs⟩
    · intro hh
      obtain ⟨hc, hcs⟩ := hh
      have hq := (hiff s e hi ha.1).mpr hc
      exact ⟨hq, (ih (hstep s e hi ha.1 hq) ha.2).mpr hcs⟩

/-- A property that no step can bring back holds at the end of the run exactly
if it holds after every step. -/
theorem steps_iff_last {Q : σ → Prop} (hback : ∀ s e, Q (step s e) → Q s) {s : σ} {es : List ε}
    (hs : Q s) : Steps step (fun s e => Q (step s e)) s es ↔ Q (run step s es) := by
  have hfirst : ∀ (es : List ε) (s : σ), Q (run step s es) → Q s := by
    intro es
    induction es with
    | nil => exact fun _ h => h
    | cons e es ih => exact fun s h => hback s e (ih (step s e) h)
  induction es generalizing s with
  | nil => exact iff_of_true trivial hs
  | cons e es ih =>
    rw [steps_cons, run_cons]
    constructor
    · intro hh
      obtain ⟨hq, hqs⟩ := hh
      exact (ih hq).mp hqs
    · intro hlast
      have hq := hfirst es (step s e) hlast
      exact ⟨hq, (ih hq).mpr hlast⟩

end

end DeviceHal.Lib.Run
