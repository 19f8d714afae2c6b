import Mathlib.Data.List.Basic

/-! # Fields of a text

A text is split at each delimiter. In place, every delimiter becomes a
terminator: the text is then its fields one after the other, each with a
terminator behind it, and so is what stands before a delimiter, with the first
of the fields. -/
namespace DeviceHal.Lib.Fields

section
variable {α : Type*}

/-- Where field `j` begins, if one symbol stands behind every field. -/
def start : List (List α) → Nat → Nat
  | field :: fields, j + 1 => field.length + 1 + start fields j
  | _, _ => 0

/-- The fields with a terminator behind each. -/
def terminated (z : α) (fields : List (List α)) : List α := (fields.map (· ++ [z])).flatten

@[simp] theorem start_zero (fields : List (List α)) : start fields 0 = 0 := by
  cases fields <;> rfl

@[simp] theorem start_cons_succ (field : List α) (fields : List (List α)) (j : Nat) :
    start (field :: fields) (j + 1) = field.length + 1 + start fields j := rfl

@[simp] theorem terminated_cons (z : α) (field : List α) (fields : List (List α)) :
    terminated z (field :: fields) = field ++ z :: terminated z fields := by
  simp [terminated]

theorem length_terminated (z : α) (fields : List (List α)) :
    (terminated z fields).length = start fields fields.length := by
  induction fields with
  | nil => rfl
  | cons field fields ih =>
    simp [ih]
    omega

/-- More fields behind them do not move the first ones. -/
theorem start_of_front {front fields : List (List α)} (h : front <+: fields) {j : Nat}
    (hj : j ≤ front.length) : start fields j = start front j := by
  obtain ⟨more, rfl⟩ := h
  induction front generalizing j with
  | nil =>
    obtain rfl := Nat.le_zero.mp hj
    rw [start_zero, start_zero]
  | cons field front ih =>
    cases j with
    | zero => rw [start_zero, start_zero]
    | succ j =>
      rw [List.cons_append, start_cons_succ, start_cons_succ, ih (Nat.le_of_succ_le_succ hj)]

theorem prefix_drop_terminated {fields : List (List α)} {field : List α} {j : Nat}
    (hj : fields[j]? = some field) (z : α) (rest : List α) :
    field ++ [z] <+: (terminated z fields ++ rest).drop (start fields j) := by
  induction fields generalizing j with
  | nil => simp at hj
  | cons first fields ih =>
    cases j with
    | zero =>
      obtain rfl : first = field := by simpa using hj
      exact ⟨terminated z fields ++ rest, by simp⟩
    | succ j =>
      have hdrop : (terminated z (first :: fields) ++ rest).drop (start (first :: fields) (j + 1)) =
          (terminated z fields ++ rest).drop (start fields j) := by
        have hsplit : terminated z (first :: fields) ++ rest =
            (first ++ [z]) ++ (terminated z fields ++ rest) := by simp
        have hlen : first.length + 1 = (first ++ [z]).length := by simp
        rw [start_cons_succ, hsplit, hlen, List.drop_length_add_append]
      rw [hdrop]
      exact ih (by simpa using hj)

/-- A delimiter or the end of the text ends a field. -/
def FieldEnd (d : α) (text : List α) (i : Nat) : Prop := text[i]? = some d ∨ i = text.length

theorem FieldEnd.of_getElem {d : α} {text : List α} {i : Nat} (hi : i < text.length)
    (hd : text[i] = d) : FieldEnd d text i :=
  .inl (by rw [List.getElem?_eq_getElem hi, hd])

end

section
variable {α : Type*} [DecidableEq α]

/-- The text with a terminator in the place of each delimiter. -/
def cut (z d : α) (text : List α) : List α := text.map fun b => if b = d then z else b

@[simp] theorem length_cut (z d : α) (text : List α) : (cut z d text).length = text.length :=
  List.length_map _

theorem cut_take_succ (z d : α) {text : List α} {i : Nat} (hi : i < text.length) :
    cut z d (text.take (i + 1)) =
      cut z d (text.take i) ++ [if text[i] = d then z else text[i]] := by
  rw [List.take_succ_eq_append_getElem hi, cut, List.map_append]
  rfl

theorem length_splitOn (d : α) (text : List α) :
    (text.splitOn d).length = text.count d + 1 := by
  induction text with
  | nil => simp
  | cons b text ih =>
    rw [List.splitOn_cons_eq_if_modifyHead]
    by_cases hb : b = d
    · simp [hb, ih]
    · simp [hb, ih]

theorem subset_of_mem_splitOn {d : α} {text field : List α} (h : field ∈ text.splitOn d) :
    field ⊆ text := by
  induction text generalizing field with
  | nil =>
    obtain rfl : field = [] := by simpa using h
    exact List.Subset.refl _
  | cons b text ih =>
    obtain ⟨first, fields, hsplit⟩ := List.exists_cons_of_ne_nil (List.splitOn_ne_nil d text)
    rw [hsplit] at ih
    rw [List.splitOn_cons_eq_if_modifyHead, hsplit] at h
    by_cases hb : b = d
    · have hmem : field = [] ∨ field ∈ first :: fields := by simpa [hb] using h
      rcases hmem with rfl | hmem
      · exact List.nil_subset _
      · exact List.subset_cons_of_subset b (ih hmem)
    · have hmem : field = b :: first ∨ field ∈ fields := by simpa [hb] using h
      rcases hmem with rfl | hmem
      · exact List.cons_subset_cons b (ih (List.mem_cons_self ..))
      · exact List.subset_cons_of_subset b (ih (List.mem_cons_of_mem _ hmem))

theorem cut_append (z d : α) (text : List α) :
    cut z d text ++ [z] = terminated z (text.splitOn d) := by
  induction text with
  | nil => simp [cut, terminated]
  | cons b text ih =>
    rw [List.splitOn_cons_eq_if_modifyHead, cut, List.map_cons, List.cons_append]
    show _ :: (cut z d text ++ [z]) = _
    rw [ih]
    by_cases hb : b = d
    · simp [hb]
    · obtain ⟨field, fields, hsplit⟩ := List.exists_cons_of_ne_nil (List.splitOn_ne_nil d text)
      simp [hb, hsplit]

/-- Up to the end of a field the fields are the first ones of the text. -/
theorem FieldEnd.splitOn_take {d : α} {text : List α} {i : Nat} (h : FieldEnd d text i) :
    (text.take i).splitOn d <+: text.splitOn d := by
  rcases h with hget | rfl
  · obtain ⟨hi, hd⟩ := List.getElem?_eq_some_iff.mp hget
    have htext : text = text.take i ++ d :: text.drop (i + 1) := by
      rw [← hd, ← List.drop_eq_getElem_cons hi, List.take_append_drop]
    refine ⟨(text.drop (i + 1)).splitOn d, ?_⟩
    rw [← List.splitOn_append_cons_self, ← htext]
  · exact ⟨[], by rw [List.append_nil, List.take_length]⟩

/-- The next field begins behind it. -/
theorem FieldEnd.start_eq {d : α} {text : List α} {i : Nat} (h : FieldEnd d text i)
    (hi : i ≤ text.length) :
    start (text.splitOn d) ((text.take i).count d + 1) = i + 1 := by
  have hlen := length_splitOn d (text.take i)
  rw [start_of_front h.splitOn_take (Nat.le_of_eq hlen.symm), ← hlen, ← length_terminated d,
    ← cut_append]
  simp [hi]

end

end DeviceHal.Lib.Fields
