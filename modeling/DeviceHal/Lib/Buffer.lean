import Mathlib.Data.List.Basic

/-! # Fixed receive buffers

A buffer is a list of cells that is resized and then overwritten from an
offset by whatever arrives, as far as it fits. What was in a cell before
stays there until something is written over it: `resize` keeps the cells both
sizes have, and `recvInto` keeps every cell outside the written range. -/
namespace DeviceHal.Lib.Buffer

section
variable {α : Type*} (fill : α)

/-- The buffer with `n` cells: old cells are kept, new ones are filled. -/
def resize (n : Nat) (b : List α) : List α := b.take n ++ List.replicate (n - b.length) fill

@[simp] theorem length_resize (n : Nat) (b : List α) : (resize fill n b).length = n := by
  simp only [resize, List.length_append, List.length_take, List.length_replicate]
  omega

theorem resize_of_length {n : Nat} {b : List α} (h : b.length = n) : resize fill n b = b := by
  simp [resize, ← h]

@[simp] theorem resize_resize (n : Nat) (b : List α) :
    resize fill n (resize fill n b) = resize fill n b :=
  resize_of_length fill (length_resize fill n b)

/-- Shrinking keeps the first cells. -/
theorem resize_of_le {n : Nat} {b : List α} (h : n ≤ b.length) : resize fill n b = b.take n := by
  simp [resize, Nat.sub_eq_zero_of_le h]

end

section
variable {α : Type*}

/-- The buffer after `d` was written from cell `off` on; what does not fit is lost. -/
def recvInto (b : List α) (off : Nat) (d : List α) : List α :=
  b.take off ++ d.take (b.length - off) ++ b.drop (off + min d.length (b.length - off))

@[simp] theorem length_recvInto (b : List α) (off : Nat) (d : List α) :
    (recvInto b off d).length = b.length := by
  simp only [recvInto, List.length_append, List.length_take, List.length_drop]
  omega

/-- What fits overwrites the front of the buffer and leaves the rest. -/
theorem recvInto_zero {b d : List α} (h : d.length ≤ b.length) :
    recvInto b 0 d = d ++ b.drop d.length := by
  simp [recvInto, Nat.min_eq_left h, List.take_of_length_le h]

/-- Up to the end of the written range the buffer is what it was, then `d`. -/
theorem take_recvInto {b d : List α} {off : Nat} (h : off + d.length ≤ b.length) :
    (recvInto b off d).take (off + d.length) = b.take off ++ d := by
  have hfit : d.length ≤ b.length - off := by omega
  have hfront : (b.take off ++ d).length = off + d.length := by
    simp only [List.length_append, List.length_take]
    omega
  rw [recvInto, List.take_of_length_le hfit, ← hfront, List.take_left]

/-! ## Writing through a cursor -/

/-- A write to one cell; `none` is a write out of range. -/
def writeCell (b : List α) (i : Nat) (c : α) : Option (List α) :=
  if i < b.length then some (b.set i c) else none

theorem writeCell_eq {b : List α} {i : Nat} (hi : i < b.length) (c : α) :
    writeCell b i c = some (b.take i ++ c :: b.drop (i + 1)) := by
  rw [writeCell, if_pos hi, List.set_eq_take_append_cons_drop, if_pos hi]

/-- `*cur++ = c`, for one value after the other. -/
def writeCells (b : List α) (cur : Nat) : List α → Option (List α × Nat)
  | [] => some (b, cur)
  | c :: d => (writeCell b cur c).bind fun b => writeCells b (cur + 1) d

theorem writeCells_append (d d' b : List α) (cur : Nat) :
    writeCells b cur (d ++ d') = (writeCells b cur d).bind fun (b, cur) => writeCells b cur d' := by
  induction d generalizing b cur with
  | nil => rfl
  | cons c d ih =>
    simp only [List.cons_append, writeCells]
    cases writeCell b cur c with
    | none => rfl
    | some b => exact ih b (cur + 1)

theorem writeCells_eq {d b : List α} {cur : Nat} (h : cur + d.length ≤ b.length) :
    writeCells b cur d =
      some (b.take cur ++ d ++ b.drop (cur + d.length), cur + d.length) := by
  induction d generalizing b cur with
  | nil => simp [writeCells]
  | cons c d ih =>
    rw [List.length_cons] at h ⊢
    have hset : writeCell b cur c = some (b.set cur c) := if_pos (by omega)
    rw [writeCells, hset, Option.bind_some, ih (by rw [List.length_set]; omega)]
    have htake : (b.set cur c).take (cur + 1) = b.take cur ++ [c] := by
      rw [List.take_add_one, List.take_set_of_le (Nat.le_refl _), List.getElem?_set_self (by omega)]
      rfl
    have hdrop : (b.set cur c).drop (cur + 1 + d.length) = b.drop (cur + (d.length + 1)) := by
      rw [List.drop_set_of_lt (by omega)]
      congr 1
      omega
    simp only [htake, hdrop, List.append_assoc, List.singleton_append, Option.some.injEq,
      Prod.mk.injEq, true_and]
    omega

/-- Writes that do not fit are a fault. -/
theorem writeCells_eq_none {d b : List α} {cur : Nat} (hcur : cur ≤ b.length)
    (h : b.length < cur + d.length) : writeCells b cur d = none := by
  induction d generalizing b cur with
  | nil => exact absurd h (by rw [List.length_nil]; omega)
  | cons c d ih =>
    rw [writeCells]
    by_cases hin : cur < b.length
    · have hset : writeCell b cur c = some (b.set cur c) := if_pos hin
      rw [hset, Option.bind_some]
      refine ih (by rw [List.length_set]; omega) ?_
      rw [List.length_set]
      rw [List.length_cons] at h
      omega
    · rw [writeCell, if_neg hin]
      rfl

end

end DeviceHal.Lib.Buffer
