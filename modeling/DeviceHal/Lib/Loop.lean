import Mathlib.Data.List.Basic

/-! # Loops that can fault

A statement is a function into `Option`: `none` is a fault, such as an access
out of range. The counting loops run for a fixed number of rounds, `rounds`
until a round leaves with a result. Each has one rule, which also says that no
round faults. -/
namespace DeviceHal.Lib.Loop

section
variable {σ α : Type*}

/-- `for (k = 0; k < n; k++)`. -/
def countUp (f : σ → Nat → Option σ) : Nat → σ → Option σ
  | 0, s => some s
  | n + 1, s => (countUp f n s).bind (f · n)

/-- `for (k = n - 1; k >= 0; k--)`. -/
def countDown (f : σ → Nat → Option σ) : Nat → σ → Option σ
  | 0, s => some s
  | n + 1, s => (f s n).bind (countDown f n)

/-- A loop that is left with a result; after `n` rounds there is none. -/
def rounds (f : σ → Option (σ ⊕ α)) : Nat → σ → Option α
  | 0, _ => none
  | n + 1, s => (f s).bind fun
    | .inl s => rounds f n s
    | .inr a => some a

theorem countUp_spec {f : σ → Nat → Option σ} (I : Nat → σ → Prop) {n : Nat} {s : σ} (h0 : I 0 s)
    (hstep : ∀ k < n, ∀ s, I k s → ∃ s', f s k = some s' ∧ I (k + 1) s') :
    ∃ s', countUp f n s = some s' ∧ I n s' := by
  induction n with
  | zero => exact ⟨s, rfl, h0⟩
  | succ n ih =>
    obtain ⟨mid, hmid, hi⟩ := ih fun k hk => hstep k (Nat.lt_succ_of_lt hk)
    obtain ⟨last, hlast, hi⟩ := hstep n (Nat.lt_succ_self n) mid hi
    exact ⟨last, by rw [countUp, hmid, Option.bind_some, hlast], hi⟩

/-- A loop that comes to its end has come through all its rounds. -/
theorem countUp_of_le {f : σ → Nat → Option σ} {n : Nat} {s last : σ}
    (h : countUp f n s = some last) {j : Nat} (hj : j ≤ n) : ∃ mid, countUp f j s = some mid := by
  induction n generalizing last with
  | zero => exact ⟨last, Nat.le_zero.mp hj ▸ h⟩
  | succ n ih =>
    rcases Nat.le_succ_iff.mp hj with hj | rfl
    · obtain ⟨mid, hmid, -⟩ := Option.bind_eq_some_iff.mp h
      exact ih hmid hj
    · exact ⟨last, h⟩

theorem countDown_spec {f : σ → Nat → Option σ} (I : Nat → σ → Prop) {n : Nat} {s : σ} (hn : I n s)
    (hstep : ∀ k < n, ∀ s, I (k + 1) s → ∃ s', f s k = some s' ∧ I k s') :
    ∃ s', countDown f n s = some s' ∧ I 0 s' := by
  induction n generalizing s with
  | zero => exact ⟨s, rfl, hn⟩
  | succ n ih =>
    obtain ⟨mid, hmid, hi⟩ := hstep n (Nat.lt_succ_self n) s hn
    obtain ⟨last, hlast, hi⟩ := ih hi fun k hk => hstep k (Nat.lt_succ_of_lt hk)
    exact ⟨last, by rw [countDown, hmid, Option.bind_some, hlast], hi⟩

/-- A round leaves, or makes the measure smaller and keeps the invariant. -/
theorem rounds_spec {f : σ → Option (σ ⊕ α)} (I : σ → Prop) (measure : σ → Nat) (Post : α → Prop)
    (hround : ∀ s, I s → (∃ s', f s = some (.inl s') ∧ I s' ∧ measure s' < measure s) ∨
      ∃ a, f s = some (.inr a) ∧ Post a) {n : Nat} {s : σ} (hs : I s) (hn : measure s < n) :
    ∃ a, rounds f n s = some a ∧ Post a := by
  induction n generalizing s with
  | zero => exact absurd hn (Nat.not_lt_zero _)
  | succ n ih =>
    rcases hround s hs with ⟨s', hs', hi, hless⟩ | ⟨a, ha, hpost⟩
    · rw [rounds, hs', Option.bind_some]
      exact ih hi (by omega)
    · exact ⟨a, by rw [rounds, ha, Option.bind_some], hpost⟩

end

end DeviceHal.Lib.Loop
