import Mathlib.Data.BitVec

/-! # Bit masks

A mask is a `BitVec` in which every bit stands for one member of a set. What a
mask holds is said bit by bit, and two masks that hold the same are equal. -/
namespace DeviceHal.Lib.BitMask

section
variable {w : Nat}

/-- `1 << i`. -/
def bit (w i : Nat) : BitVec w := 1#w <<< i

variable {i j : Nat}

theorem getLsbD_bit (hi : i < w) : (bit w i).getLsbD j = decide (i = j) := by
  rw [bit, BitVec.getLsbD_shiftLeft, BitVec.getLsbD_one]
  by_cases h : i = j
  · subst h
    simp [hi]
    omega
  · have hne : ¬ (i ≤ j ∧ j - i = 0) := by omega
    by_cases hle : j < i
    · simp [h, hle]
    · simp [h, show j - i ≠ 0 by omega]

theorem bit_ne_zero (hi : i < w) : bit w i ≠ 0#w := by
  intro hzero
  have hself := @getLsbD_bit w i i hi
  rw [hzero, BitVec.getLsbD_zero] at hself
  simp at hself

/-- The test `mask & (1 << i)`. -/
theorem and_bit_ne_zero_iff (hi : i < w) {mask : BitVec w} :
    mask &&& bit w i ≠ 0#w ↔ mask.getLsbD i = true := by
  constructor
  · intro hne
    by_contra hclear
    refine hne (BitVec.eq_of_getLsbD_eq fun j _ => ?_)
    rw [BitVec.getLsbD_and, getLsbD_bit hi, BitVec.getLsbD_zero]
    by_cases hij : i = j
    · subst hij
      rw [Bool.not_eq_true] at hclear
      rw [hclear, Bool.false_and]
    · simp [hij]
  · intro hset hzero
    have hat := congrArg (·.getLsbD i) hzero
    simp [getLsbD_bit hi, hset] at hat

theorem getLsbD_or_bit (hi : i < w) {mask : BitVec w} :
    (mask ||| bit w i).getLsbD j = (mask.getLsbD j || decide (i = j)) := by
  rw [BitVec.getLsbD_or, getLsbD_bit hi]

end

/-! ## The members of a mask -/

/-- The places of the bits that are set, in ascending order. -/
def places {w : Nat} (mask : BitVec w) : List Nat := (List.range w).filter (mask.getLsbD ·)

section
variable {w : Nat}

theorem mem_places {mask : BitVec w} {j : Nat} : j ∈ places mask ↔ mask.getLsbD j = true := by
  rw [places, List.mem_filter, List.mem_range, and_iff_right_iff_imp]
  exact fun h => BitVec.lt_of_getLsbD h

@[simp] theorem places_zero : places (0#w) = [] := by
  refine List.filter_eq_nil_iff.mpr fun j _ => ?_
  rw [BitVec.getLsbD_zero]
  exact Bool.false_ne_true

theorem places_eq_nil_iff {mask : BitVec w} : places mask = [] ↔ mask = 0#w := by
  refine ⟨fun h => BitVec.eq_of_getLsbD_eq fun j _ => ?_, fun h => by rw [h, places_zero]⟩
  rw [BitVec.getLsbD_zero, Bool.eq_false_iff]
  intro hset
  have hmem := mem_places.mpr hset
  rw [h] at hmem
  cases hmem

/-- The first bit and the rest of the mask. -/
theorem places_cons (mask : BitVec (w + 1)) : places mask =
    (if mask.getLsbD 0 then [0] else []) ++ (places (mask >>> 1)).map (· + 1) := by
  have hshift : ∀ j, (mask >>> 1).getLsbD j = mask.getLsbD (j + 1) := fun j =>
    (BitVec.getLsbD_ushiftRight mask 1 j).trans (congrArg mask.getLsbD (Nat.add_comm 1 j))
  have hrest : places (mask >>> 1) = (List.range w).filter fun j => mask.getLsbD (j + 1) := by
    simp only [places, hshift]
    rw [List.range_succ, List.filter_append, List.filter_cons_of_neg, List.filter_nil,
      List.append_nil]
    rw [BitVec.getLsbD_of_ge _ _ (Nat.le_refl _)]
    exact Bool.false_ne_true
  rw [hrest, places, List.range_succ_eq_map, List.filter_cons, List.filter_map]
  split <;> rfl

/-- The places below a width, then those above. -/
theorem places_split {v : Nat} (hv : v ≤ w) (mask : BitVec w) :
    places mask = places (mask.setWidth v) ++ (places mask).filter (v ≤ ·) := by
  obtain ⟨k, rfl⟩ := Nat.exists_eq_add_of_le hv
  have hlow : places (mask.setWidth v) = (List.range v).filter (mask.getLsbD ·) := by
    refine List.filter_congr fun j hj => ?_
    rw [BitVec.getLsbD_setWidth, decide_eq_true (List.mem_range.mp hj), Bool.true_and]
  have hnone : ((List.range v).filter (mask.getLsbD ·)).filter (fun j => decide (v ≤ j)) = [] := by
    refine List.filter_eq_nil_iff.mpr fun j hj => ?_
    have hlt := List.mem_range.mp (List.mem_filter.mp hj).1
    simpa using hlt
  have hall : (((List.range k).map (v + ·)).filter (mask.getLsbD ·)).filter
        (fun j => decide (v ≤ j)) =
      ((List.range k).map (v + ·)).filter (mask.getLsbD ·) := by
    refine List.filter_eq_self.mpr fun j hj => ?_
    obtain ⟨i, -, rfl⟩ := List.mem_map.mp (List.mem_filter.mp hj).1
    simp
  rw [hlow, places, List.range_add, List.filter_append, List.filter_append, hnone, List.nil_append,
    hall]

/-- A mask that is narrowed loses nothing exactly if it has no bit above the width. -/
theorem filter_places_eq_nil_iff {v : Nat} {mask : BitVec w} :
    (places mask).filter (v ≤ ·) = [] ↔ ∀ j, v ≤ j → mask.getLsbD j = false := by
  rw [List.filter_eq_nil_iff]
  constructor
  · intro h j hj
    rw [Bool.eq_false_iff]
    exact fun hset => h j (mem_places.mpr hset) (by simpa using hj)
  · intro h j hmem hj
    rw [mem_places, h j (by simpa using hj)] at hmem
    cases hmem

end

end DeviceHal.Lib.BitMask
