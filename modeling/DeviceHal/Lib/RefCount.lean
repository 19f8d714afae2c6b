import Mathlib.Data.Fintype.Card

/-! # Shared ownership by a count

Each of finitely many owners uses an object for as long as it likes, then takes
one from the count. The owner that takes the last one frees the object. In any
order of the owners' steps the object is freed once, and no owner uses it after
that. -/
namespace DeviceHal.Lib.RefCount

/-- An owner that took the last reference has yet to free the object. -/
inductive Phase where
  | owns | frees | gone
deriving DecidableEq

inductive Use (ι : Type) where
  | touch (owner : ι)
  | free
deriving DecidableEq

structure Shared (ι : Type) where
  count : Int
  phase : ι → Phase
  log : List (Use ι)

section
variable {ι : Type}

theorem not_free_touch {log : List (Use ι)} (h : .free ∉ log) (i : ι) :
    .free ∉ log ++ [.touch i] := by
  rw [List.mem_append, List.mem_singleton, not_or]
  exact ⟨h, by simp⟩

variable [Fintype ι]

def owners (phase : ι → Phase) : Finset ι := Finset.univ.filter (phase · = .owns)

/-- The count is that of the owners, an owner that frees is the last one, and
the object is freed when all are gone, with nothing after it. -/
structure Good (s : Shared ι) : Prop where
  count : s.count = (owners s.phase).card
  last : ∀ i, s.phase i = .frees → ∀ j, j ≠ i → s.phase j = .gone
  kept : (∃ i, s.phase i ≠ .gone) → .free ∉ s.log
  freed : (∀ i, s.phase i = .gone) → ∃ log, s.log = log ++ [.free] ∧ .free ∉ log

/-- All own the object at first. -/
theorem good_start [Nonempty ι] : Good (⟨Fintype.card ι, fun _ => .owns, []⟩ : Shared ι) where
  count := by
    rw [owners, Finset.filter_true_of_mem fun _ _ => rfl]
    rfl
  last := fun _ h => (by cases h)
  kept := fun _ => List.not_mem_nil
  freed := fun h => (by cases h (Classical.arbitrary ι))

theorem Good.touch {s : Shared ι} (hg : Good s) (i : ι) (h : s.phase i = .owns) :
    Good { s with log := s.log ++ [.touch i] } where
  count := hg.count
  last := hg.last
  kept := fun hex => not_free_touch (hg.kept hex) i
  freed := fun hall => (by rw [hall i] at h; cases h)

theorem Good.count_pos {s : Shared ι} (hg : Good s) {i : ι} (h : s.phase i = .owns) :
    0 < s.count := by
  have hpos : 0 < (owners s.phase).card :=
    Finset.card_pos.mpr ⟨i, Finset.mem_filter.mpr ⟨Finset.mem_univ i, h⟩⟩
  rw [hg.count]
  exact Int.natCast_pos.mpr hpos

variable [DecidableEq ι]

inductive Step : Shared ι → Shared ι → Prop where
  | touch {s : Shared ι} (i : ι) (h : s.phase i = .owns) :
      Step s { s with log := s.log ++ [.touch i] }
  | release {s : Shared ι} (i : ι) (h : s.phase i = .owns) :
      Step s ⟨s.count - 1, Function.update s.phase i (if s.count = 1 then .frees else .gone),
        s.log ++ [.touch i]⟩
  | free {s : Shared ι} (i : ι) (h : s.phase i = .frees) :
      Step s ⟨s.count, Function.update s.phase i .gone, s.log ++ [.free]⟩

theorem owners_update {phase : ι → Phase} (i : ι) {p : Phase} (hp : p ≠ .owns) :
    owners (Function.update phase i p) = (owners phase).erase i := by
  ext j
  simp only [owners, Finset.mem_filter, Finset.mem_univ, true_and, Finset.mem_erase]
  by_cases hj : j = i
  · subst hj
    simp [hp]
  · simp [hj]

theorem Good.release {s : Shared ι} (hg : Good s) (i : ι) (h : s.phase i = .owns) :
    Good ⟨s.count - 1, Function.update s.phase i (if s.count = 1 then .frees else .gone),
      s.log ++ [.touch i]⟩ := by
  have hi : i ∈ owners s.phase := Finset.mem_filter.mpr ⟨Finset.mem_univ i, h⟩
  have hcount := hg.count
  have hcard := Finset.card_erase_add_one hi
  have hnone : ∀ j, s.phase j ≠ .frees := by
    intro j hj
    by_cases hji : i = j
    · rw [← hji, h] at hj
      cases hj
    · rw [hg.last j hj i hji] at h
      cases h
  have hp : (if s.count = 1 then Phase.frees else .gone) ≠ .owns := by split <;> simp
  refine ⟨?_, fun j hj k hk => ?_, fun _ => not_free_touch (hg.kept ⟨i, by rw [h]; simp⟩) i,
    fun hall => ?_⟩
  · rw [owners_update i hp]
    show s.count - 1 = _
    omega
  · dsimp only at hj ⊢
    by_cases hji : j = i
    · subst hji
      -- the last reference: no other owner is left, and none frees
      have hone : s.count = 1 := by
        by_contra hne
        rw [Function.update_self, if_neg hne] at hj
        cases hj
      rw [Function.update_of_ne hk]
      have hk' : k ∉ owners s.phase := by
        intro hmem
        have hpos := Finset.card_pos.mpr ⟨k, Finset.mem_erase.mpr ⟨hk, hmem⟩⟩
        omega
      cases hph : s.phase k with
      | owns => exact absurd (Finset.mem_filter.mpr ⟨Finset.mem_univ k, hph⟩) hk'
      | frees => exact absurd hph (hnone k)
      | gone => rfl
    · rw [Function.update_of_ne hji] at hj
      exact absurd hj (hnone j)
  · -- another owner is left
    dsimp only at hall
    have hmany : s.count ≠ 1 := by
      intro hone
      have hself := hall i
      rw [Function.update_self, if_pos hone] at hself
      cases hself
    obtain ⟨j, hj⟩ : ((owners s.phase).erase i).Nonempty := by
      rw [← Finset.card_pos]
      omega
    obtain ⟨hji, hmem⟩ := Finset.mem_erase.mp hj
    have hgone := hall j
    rw [Function.update_of_ne hji, (Finset.mem_filter.mp hmem).2] at hgone
    cases hgone

theorem Good.free {s : Shared ι} (hg : Good s) (i : ι) (h : s.phase i = .frees) :
    Good ⟨s.count, Function.update s.phase i .gone, s.log ++ [.free]⟩ := by
  have hall : ∀ j, Function.update s.phase i .gone j = .gone := by
    intro j
    by_cases hji : j = i
    · rw [hji, Function.update_self]
    · rw [Function.update_of_ne hji, hg.last i h j hji]
  refine ⟨?_, fun j hj => ?_, fun hex => ?_,
    fun _ => ⟨s.log, rfl, hg.kept ⟨i, by rw [h]; simp⟩⟩⟩
  · have hi : i ∉ owners s.phase := by
      rw [owners, Finset.mem_filter, h]
      simp
    rw [owners_update i (by simp), Finset.erase_eq_of_notMem hi]
    exact hg.count
  · dsimp only at hj
    rw [hall j] at hj
    cases hj
  · obtain ⟨j, hj⟩ := hex
    exact absurd (hall j) hj

theorem Good.step {s s' : Shared ι} (hg : Good s) (h : Step s s') : Good s' := by
  cases h with
  | touch i hi => exact hg.touch i hi
  | release i hi => exact hg.release i hi
  | free i hi => exact hg.free i hi

/-- When all owners are gone the object was freed once, after every use. -/
theorem Good.freed_once {s : Shared ι} (hg : Good s) (hall : ∀ i, s.phase i = .gone) :
    s.log.count .free = 1 ∧ ∀ i, .touch i ∉ s.log.dropWhile (· ≠ .free) := by
  obtain ⟨log, hlog, hnone⟩ := hg.freed hall
  have hdrop : (log ++ [Use.free]).dropWhile (· ≠ Use.free) = [.free] := by
    rw [List.dropWhile_append_of_pos]
    · simp
    · intro u hu
      rw [decide_eq_true_eq]
      exact fun h => hnone (h ▸ hu)
  rw [hlog, hdrop, List.count_append, List.count_eq_zero_of_not_mem hnone]
  exact ⟨rfl, fun i => by simp⟩

end

end DeviceHal.Lib.RefCount
