import Mathlib.Order.Bounds.Basic
import Mathlib.Logic.Function.Basic

/-! # Serving the least entry of a table

A single resource serves a table of requests, each with a demand in a linear
order, by serving a request of least demand. The rules say what it may serve
after one entry was set or removed: nothing was left besides that entry, or it
was switched to the new entry or to the least of the others, or it was kept. -/
namespace DeviceHal.Lib.LeastDemand

section
variable {K V W N : Type*} [LinearOrder N] {f : V → N}

/-- `v` is an entry of the table and no entry demands less. -/
structure LeastEntry (f : V → N) (t : K → Option V) (v : V) : Prop where
  entry : ∃ k, t k = some v
  least : ∀ k w, t k = some w → f v ≤ f w

/-- The resource idles for an empty table and else serves a least entry. -/
def Serving (f : V → N) (t : K → Option V) : Option V → Prop
  | none => ∀ k, t k = none
  | some v => LeastEntry f t v

theorem leastEntry_id_iff {t : K → Option N} {n : N} :
    LeastEntry id t n ↔ IsLeast {m | ∃ k, t k = some m} n :=
  ⟨fun h => ⟨h.entry, fun _ ⟨_, hk⟩ => h.least _ _ hk⟩,
    fun h => ⟨h.1, fun k _ hk => h.2 ⟨k, hk⟩⟩⟩

theorem LeastEntry.map {g : V → W} {f' : W → N} (hg : ∀ v, f' (g v) = f v) {t : K → Option V}
    {v : V} (h : LeastEntry f t v) : LeastEntry f' (fun k => (t k).map g) (g v) := by
  obtain ⟨k, hk⟩ := h.entry
  refine ⟨⟨k, by rw [hk]; rfl⟩, fun j w hj => ?_⟩
  obtain ⟨u, hu, rfl⟩ := Option.map_eq_some_iff.mp hj
  rw [hg, hg]
  exact h.least j u hu

theorem Serving.isSome_iff {t : K → Option V} {s : Option V} (h : Serving f t s) :
    s.isSome ↔ ∃ k w, t k = some w := by
  cases s with
  | none =>
    refine iff_of_false (by simp) ?_
    intro hh
    obtain ⟨k, w, hk⟩ := hh
    rw [h k] at hk
    cases hk
  | some v =>
    obtain ⟨k, hk⟩ := h.entry
    exact iff_of_true rfl ⟨k, v, hk⟩

/-- `v` is an entry besides the changed one, or the new value of that. -/
def Elsewhere (t : K → Option V) (k : K) (new : Option V) (v : V) : Prop :=
  (∃ j, j ≠ k ∧ t j = some v) ∨ new = some v

/-- A new key takes nothing away. -/
theorem LeastEntry.elsewhere_of_new {t : K → Option V} {k : K} {v : V} (h : LeastEntry f t v)
    (hk : t k = none) (new : Option V) : Elsewhere t k new v := by
  obtain ⟨j, hj⟩ := h.entry
  refine Or.inl ⟨j, ?_, hj⟩
  rintro rfl
  rw [hk] at hj
  cases hj

variable [DecidableEq K]

theorem map_update (g : V → W) (t : K → Option V) (k : K) (new : Option V) :
    (fun j => (Function.update t k new j).map g) =
      Function.update (fun j => (t j).map g) k (new.map g) := by
  funext j
  by_cases hj : j = k
  · subst hj; simp
  · simp [hj]

theorem update_entry_iff {t : K → Option V} {k j : K} {new : Option V} {w : V} :
    Function.update t k new j = some w ↔ (j = k ∧ new = some w) ∨ (j ≠ k ∧ t j = some w) := by
  by_cases hj : j = k
  · subst hj; simp
  · simp [hj]

/-- The changed entry is alone: the resource follows it. -/
theorem Serving.alone {t : K → Option V} {k : K} (ht : ∀ j, j ≠ k → t j = none)
    (new : Option V) : Serving f (Function.update t k new) new := by
  cases new with
  | none =>
    intro j
    by_cases hj : j = k
    · rw [hj, Function.update_self]
    · rw [Function.update_of_ne hj, ht j hj]
  | some v =>
    refine ⟨⟨k, Function.update_self k _ t⟩, fun j w hj => ?_⟩
    rcases update_entry_iff.mp hj with ⟨-, hw⟩ | ⟨hne, hw⟩
    · rw [Option.some.inj hw]
    · rw [ht j hne] at hw
      cases hw

/-- Switched to the new entry, which demands no more than the others. -/
theorem Serving.new {t : K → Option V} {k : K} {v : V}
    (hv : ∀ j w, j ≠ k → t j = some w → f v ≤ f w) :
    Serving f (Function.update t k (some v)) (some v) := by
  refine ⟨⟨k, Function.update_self k _ t⟩, fun j w hj => ?_⟩
  rcases update_entry_iff.mp hj with ⟨-, hw⟩ | ⟨hne, hw⟩
  · rw [Option.some.inj hw]
  · exact hv j w hne hw

/-- Switched to the least of the others, which demands no more than the new
entry. -/
theorem Serving.other {t : K → Option V} {k : K} {v : V} {new : Option V}
    (hv : LeastEntry f (Function.update t k none) v) (hnew : ∀ w, new = some w → f v ≤ f w) :
    Serving f (Function.update t k new) (some v) := by
  obtain ⟨k', hk'⟩ := hv.entry
  rcases update_entry_iff.mp hk' with ⟨-, hno⟩ | ⟨hne, hk'⟩
  · cases hno
  · refine ⟨⟨k', update_entry_iff.mpr (Or.inr ⟨hne, hk'⟩)⟩, fun j w hj => ?_⟩
    rcases update_entry_iff.mp hj with ⟨-, hw⟩ | ⟨hjk, hw⟩
    · exact hnew w hw
    · exact hv.least j w (update_entry_iff.mpr (Or.inr ⟨hjk, hw⟩))

/-- Kept: what was served is still there, and the new entry demands no less. -/
theorem Serving.kept {t : K → Option V} {k : K} {v : V} {new : Option V}
    (h : LeastEntry f t v) (he : Elsewhere t k new v) (hnew : ∀ w, new = some w → f v ≤ f w) :
    Serving f (Function.update t k new) (some v) := by
  refine ⟨?_, fun j w hj => ?_⟩
  · rcases he with ⟨j, hjk, hj⟩ | hv
    · exact ⟨j, update_entry_iff.mpr (Or.inr ⟨hjk, hj⟩)⟩
    · exact ⟨k, update_entry_iff.mpr (Or.inl ⟨rfl, hv⟩)⟩
  · rcases update_entry_iff.mp hj with ⟨-, hw⟩ | ⟨-, hw⟩
    · exact hnew w hw
    · exact h.least j w hw

/-- Where only demands count, another entry that demands no more than the
changed one did is as good. -/
theorem LeastEntry.elsewhere_of_le {t : K → Option N} {k j : K} {n m : N} (h : LeastEntry id t n)
    (hjk : j ≠ k) (hj : t j = some m) (hm : ∀ old, t k = some old → m ≤ old) (new : Option N) :
    Elsewhere t k new n := by
  obtain ⟨i, hi⟩ := h.entry
  by_cases hik : i = k
  · subst hik
    have hnm : n = m := le_antisymm (h.least j m hj) (hm n hi)
    exact Or.inl ⟨j, hjk, hnm ▸ hj⟩
  · exact Or.inl ⟨i, hik, hi⟩

end

end DeviceHal.Lib.LeastDemand
