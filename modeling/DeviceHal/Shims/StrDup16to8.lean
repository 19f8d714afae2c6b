import DeviceHal.Lib.Buffer
import DeviceHal.Lib.Utf8

/-! # UTF-16 to UTF-8

`strdup16to8.cpp`: every unit becomes a sequence of its own, also a surrogate,
and a zero takes two bytes, so that the text has no NUL. The length is counted
twice, the second time for strings that are so long that it may not fit a
`size_t`. -/
namespace DeviceHal.Shims.StrDup16to8
open DeviceHal.Lib.Buffer DeviceHal.Lib.CText DeviceHal.Lib.Utf8

/-! ## The functions -/

/-- `malloc`, which fails or gives as many cells as it is asked for. -/
structure Malloc (α : Type) where
  call : Nat → Option (List α)
  length_eq : ∀ {n cells}, call n = some cells → cells.length = n

/-- What a unit adds to `utf8Len`, in either loop. -/
def utf8Add (uic : UInt32) : Nat :=
  if 0x07ff < uic then 3 else if 0x7f < uic ∨ uic = 0 then 2 else 1

/-- A sum of type `size_t`. -/
def addSize (a b : Nat) : Nat := (a + b) % (SIZE_MAX + 1)

/-- The fast path. -/
def countFast : List UInt16 → Nat → Nat
  | [], utf8Len => utf8Len
  | uic :: utf16Str, utf8Len => countFast utf16Str (addSize utf8Len (utf8Add uic.toUInt32))

/-- The slower but paranoid version. -/
def countSlow : List UInt16 → Nat → Nat
  | [], utf8Len => if utf8Len = SIZE_MAX then SIZE_MAX - 1 else utf8Len
  | uic :: utf16Str, utf8Cur =>
    let utf8Len := addSize utf8Cur (utf8Add uic.toUInt32)
    if utf8Len < utf8Cur then SIZE_MAX - 1 else countSlow utf16Str utf8Len

def strnlen16to8 (utf16Str : List UInt16) : Nat :=
  if utf16Str.length < (SIZE_MAX - 1) / 3 then countFast utf16Str 0 else countSlow utf16Str 0

/-- The loop of `strncpy16to8`. -/
def copyUnits : List UInt16 → Bytes → Nat → Option (Bytes × Nat)
  | [], cells, utf8cur => some (cells, utf8cur)
  | unit :: utf16Str, cells, utf8cur => do
    let uic := unit.toUInt32
    if 0x07ff < uic then
      let (cells, utf8cur) ← writeCells cells utf8cur
        [((uic >>> 12) ||| 0xe0).toUInt8, (((uic >>> 6) &&& 0x3f) ||| 0x80).toUInt8,
          ((uic &&& 0x3f) ||| 0x80).toUInt8]
      copyUnits utf16Str cells utf8cur
    else if 0x7f < uic ∨ uic = 0 then
      let (cells, utf8cur) ← writeCells cells utf8cur
        [((uic >>> 6) ||| 0xc0).toUInt8, ((uic &&& 0x3f) ||| 0x80).toUInt8]
      copyUnits utf16Str cells utf8cur
    else
      let (cells, utf8cur) ← writeCells cells utf8cur [uic.toUInt8]
      if uic = 0 then some (cells, utf8cur) else copyUnits utf16Str cells utf8cur

/-- What `utf8Str` points to is `cells`; a write behind them is a fault. -/
def strncpy16to8 (cells : Bytes) (utf16Str : List UInt16) : Option Bytes := do
  let (cells, utf8cur) ← copyUnits utf16Str cells 0
  writeCell cells utf8cur 0

/-- `none` is a fault, and `some none` the result `NULL`. -/
def strndup16to8 (malloc : Malloc UInt8) (s : Option (List UInt16)) : Option (Option Bytes) :=
  match s with
  | none => some none
  | some s =>
    let len := strnlen16to8 s
    if SIZE_MAX - 1 ≤ len then some none
    else
      match malloc.call (len + 1) with
      | none => some none
      | some ret => (strncpy16to8 ret s).map some

/-! ## The text of a unit -/

/-- How many continuation bytes a unit gets. -/
def tailCount (u : UInt16) : Nat :=
  if 0x7ff < u.toNat then 2 else if 0x7f < u.toNat ∨ u.toNat = 0 then 1 else 0

theorem tailCount_le (u : UInt16) : tailCount u ≤ 3 := by
  unfold tailCount
  split_ifs <;> omega

theorem lt_capacity (u : UInt16) : u.toNat < capacity (tailCount u) := by
  have hlt := u.toNat_lt
  unfold tailCount
  split_ifs with h2 h1
  · exact hlt
  · show _ < 2 ^ 5 * 64 ^ 1
    omega
  · show _ < 2 ^ 7
    omega

/-- The sequence that a unit becomes. -/
def unitSequence (u : UInt16) : Piece :=
  .ofCode (tailCount u) u.toNat (tailCount_le u) (lt_capacity u)

/-- The text that the units become. -/
def encoded (utf16Str : List UInt16) : Bytes := joined (utf16Str.map unitSequence)

theorem or_marker {x i : Nat} (hx : x < 2 ^ i) (k : Nat) : x ||| 2 ^ i * k = 2 ^ i * k + x := by
  rw [Nat.or_comm, Nat.two_pow_add_eq_or_of_lt hx]

/-- A byte with its marker, as the source puts them together. -/
theorem toUInt8_or {x m : UInt32} {i k v : Nat} (hm : m.toNat = 2 ^ i * k) (hx : x.toNat = v)
    (hv : v < 2 ^ i) : (x ||| m).toUInt8 = UInt8.ofNat (m.toNat + v) := by
  rw [hm, ← or_marker hv, ← hm, ← hx, ← UInt32.toNat_or]
  rfl

section
variable (u : UInt16)

theorem toNat_shift12 : (u.toUInt32 >>> 12).toNat = u.toNat / 4096 := by
  simp [Nat.shiftRight_eq_div_pow]

theorem toNat_shift6 : (u.toUInt32 >>> 6).toNat = u.toNat / 64 := by
  simp [Nat.shiftRight_eq_div_pow]

theorem toNat_low {x : UInt32} : (x &&& 0x3f).toNat = x.toNat % 64 := by
  rw [UInt32.toNat_and]
  exact Nat.and_two_pow_sub_one_eq_mod _ 6

theorem long_iff : 0x07ff < u.toUInt32 ↔ 0x7ff < u.toNat := by
  rw [UInt32.lt_iff_toNat_lt, UInt16.toNat_toUInt32]
  rfl

theorem middle_iff : (0x7f < u.toUInt32 ∨ u.toUInt32 = 0) ↔ (0x7f < u.toNat ∨ u.toNat = 0) := by
  rw [UInt32.lt_iff_toNat_lt, ← UInt32.toNat_inj, UInt16.toNat_toUInt32]
  rfl

/-- The last byte of two or three. -/
theorem last_byte : ((u.toUInt32 &&& 0x3f) ||| 0x80).toUInt8 = UInt8.ofNat (128 + u.toNat % 64) :=
  toUInt8_or (i := 6) (k := 2) rfl toNat_low (Nat.mod_lt _ (by decide))

theorem sequence_long (h : 0x7ff < u.toNat) : (unitSequence u).bytes =
    [((u.toUInt32 >>> 12) ||| 0xe0).toUInt8, (((u.toUInt32 >>> 6) &&& 0x3f) ||| 0x80).toUInt8,
      ((u.toUInt32 &&& 0x3f) ||| 0x80).toUInt8] := by
  have hlt := u.toNat_lt
  have hfirst : ((u.toUInt32 >>> 12) ||| 0xe0).toUInt8 = UInt8.ofNat (224 + u.toNat / 4096) :=
    toUInt8_or (i := 5) (k := 7) rfl (toNat_shift12 u) (by omega)
  have hmid : (((u.toUInt32 >>> 6) &&& 0x3f) ||| 0x80).toUInt8 =
      UInt8.ofNat (128 + u.toNat / 64 % 64) :=
    toUInt8_or (i := 6) (k := 2) rfl (toNat_low.trans (by rw [toNat_shift6]))
      (Nat.mod_lt _ (by decide))
  rw [hfirst, hmid, last_byte]
  simp only [Piece.bytes, unitSequence, Piece.ofCode, tailCount, if_pos h, first, digits, marker]
  simp

theorem sequence_middle (h : ¬ 0x7ff < u.toNat) (h' : 0x7f < u.toNat ∨ u.toNat = 0) :
    (unitSequence u).bytes =
      [((u.toUInt32 >>> 6) ||| 0xc0).toUInt8, ((u.toUInt32 &&& 0x3f) ||| 0x80).toUInt8] := by
  have hfirst : ((u.toUInt32 >>> 6) ||| 0xc0).toUInt8 = UInt8.ofNat (192 + u.toNat / 64) :=
    toUInt8_or (i := 6) (k := 3) rfl (toNat_shift6 u) (by omega)
  rw [hfirst, last_byte]
  simp only [Piece.bytes, unitSequence, Piece.ofCode, tailCount, if_neg h, if_pos h', first, digits,
    marker]
  simp

theorem sequence_short (h : ¬ 0x7ff < u.toNat) (h' : ¬ (0x7f < u.toNat ∨ u.toNat = 0)) :
    (unitSequence u).bytes = [u.toUInt32.toUInt8] := by
  simp only [Piece.bytes, unitSequence, Piece.ofCode, tailCount, if_neg h, if_neg h', first, digits]
  rfl

theorem length_sequence : (unitSequence u).bytes.length = utf8Add u.toUInt32 := by
  show (digits (tailCount u) u.toNat).length + 1 = _
  rw [length_digits, utf8Add, if_congr (long_iff u) rfl rfl, if_congr (middle_iff u) rfl rfl,
    tailCount]
  split_ifs <;> rfl

/-- A zero takes the branch of two bytes, and no other unit begins with a zero byte. -/
theorem zero_not_mem_sequence : 0 ∉ (unitSequence u).bytes := by
  rw [Piece.zero_mem_bytes_iff]
  intro hlead
  have hfirst : (first (tailCount u) u.toNat).toNat = 0 := congrArg UInt8.toNat hlead
  rw [toNat_first (tailCount_le u) (lt_capacity u)] at hfirst
  by_cases h0 : tailCount u = 0
  · rw [if_pos h0] at hfirst
    rw [tailCount, hfirst] at h0
    exact absurd h0 (by decide)
  · have hmarker : 1 ≤ marker (tailCount u) := by
      unfold tailCount
      split_ifs <;> decide
    rw [if_neg h0] at hfirst
    exact absurd (Nat.add_eq_zero_iff.mp hfirst).1 (by omega)

end

theorem zero_not_mem_encoded (s : List UInt16) : 0 ∉ encoded s := by
  rw [encoded, joined, List.mem_flatMap]
  rintro ⟨p, hp, hzero⟩
  obtain ⟨u, -, rfl⟩ := List.mem_map.mp hp
  exact zero_not_mem_sequence u hzero

@[simp] theorem encoded_cons (u : UInt16) (s : List UInt16) :
    encoded (u :: s) = (unitSequence u).bytes ++ encoded s := rfl

/-! ## Counting -/

theorem utf8Add_le (uic : UInt32) : utf8Add uic ≤ 3 := by
  unfold utf8Add
  split_ifs <;> omega

theorem length_encoded_le (s : List UInt16) : (encoded s).length ≤ 3 * s.length := by
  induction s with
  | nil => exact Nat.le_refl 0
  | cons u s ih =>
    have hadd := utf8Add_le u.toUInt32
    rw [encoded_cons, List.length_append, length_sequence, List.length_cons]
    omega

/-- Without an overflow the fast path counts the bytes. -/
theorem countFast_eq {s : List UInt16} {n : Nat} (h : n + (encoded s).length ≤ SIZE_MAX) :
    countFast s n = n + (encoded s).length := by
  induction s generalizing n with
  | nil => rfl
  | cons u s ih =>
    rw [encoded_cons, List.length_append, length_sequence] at h ⊢
    have hsum : addSize n (utf8Add u.toUInt32) = n + utf8Add u.toUInt32 :=
      Nat.mod_eq_of_lt (by omega)
    rw [countFast, hsum, ih (by omega), Nat.add_assoc]

/-- A sum that overflows is less than what it adds to, so the slow path finds the first one. -/
theorem countSlow_eq {s : List UInt16} {n : Nat} (hn : n ≤ SIZE_MAX) :
    countSlow s n = min (n + (encoded s).length) (SIZE_MAX - 1) := by
  induction s generalizing n with
  | nil =>
    rw [countSlow]
    show _ = min n (SIZE_MAX - 1)
    split <;> omega
  | cons u s ih =>
    have hadd := utf8Add_le u.toUInt32
    have hmax : 3 < SIZE_MAX := by decide
    rw [encoded_cons, List.length_append, length_sequence, countSlow, addSize]
    rcases Nat.lt_or_ge SIZE_MAX (n + utf8Add u.toUInt32) with hover | hfits
    · have hwrap : (n + utf8Add u.toUInt32) % (SIZE_MAX + 1) =
          n + utf8Add u.toUInt32 - (SIZE_MAX + 1) := by
        rw [Nat.mod_eq_sub_mod (by omega), Nat.mod_eq_of_lt (by omega)]
      rw [hwrap, if_pos (by omega)]
      omega
    · rw [Nat.mod_eq_of_lt (by omega), if_neg (by omega), ih hfits, Nat.add_assoc]

theorem strnlen16to8_eq (s : List UInt16) :
    strnlen16to8 s = min (encoded s).length (SIZE_MAX - 1) := by
  have hle := length_encoded_le s
  unfold strnlen16to8
  split
  · rw [countFast_eq (by omega)]
    omega
  · rw [countSlow_eq (Nat.zero_le _), Nat.zero_add]

/-- **The length of the text.** It is that of the bytes that are written for it, as far as a
`size_t` below its greatest value goes, and where the fast path is taken the slow one agrees. -/
theorem strnlen16to8_saturates (s : List UInt16) :
    strnlen16to8 s = min (encoded s).length (SIZE_MAX - 1) ∧
      (s.length < (SIZE_MAX - 1) / 3 → countFast s 0 = countSlow s 0) := by
  refine ⟨strnlen16to8_eq s, fun hshort => ?_⟩
  have hfast := strnlen16to8_eq s
  rw [strnlen16to8, if_pos hshort] at hfast
  rw [hfast, countSlow_eq (Nat.zero_le _), Nat.zero_add]

/-! ## Copying -/

/-- The loop writes the text of the units. -/
theorem copyUnits_eq (s : List UInt16) (cells : Bytes) (cur : Nat) :
    copyUnits s cells cur = writeCells cells cur (encoded s) := by
  induction s generalizing cells cur with
  | nil => rfl
  | cons u s ih =>
    have hrest : (fun p : Bytes × Nat => copyUnits s p.1 p.2) =
        fun (c, n) => writeCells c n (encoded s) := funext fun p => ih p.1 p.2
    rw [encoded_cons, writeCells_append, ← hrest]
    simp only [copyUnits]
    by_cases hlong : 0x7ff < u.toNat
    · rw [if_pos ((long_iff u).mpr hlong), sequence_long u hlong]
      rfl
    · rw [if_neg (mt (long_iff u).mp hlong)]
      by_cases hmiddle : 0x7f < u.toNat ∨ u.toNat = 0
      · rw [if_pos ((middle_iff u).mpr hmiddle), sequence_middle u hlong hmiddle]
        rfl
      · have hne : ¬ u.toUInt32 = 0 := fun h0 => mt (middle_iff u).mp hmiddle (.inr h0)
        rw [if_neg (mt (middle_iff u).mp hmiddle), sequence_short u hlong hmiddle]
        simp only [if_neg hne]
        rfl

theorem strncpy16to8_writes (cells : Bytes) (s : List UInt16) :
    strncpy16to8 cells s = (writeCells cells 0 (encoded s ++ [0])).map Prod.fst := by
  rw [strncpy16to8, copyUnits_eq, writeCells_append]
  cases writeCells cells 0 (encoded s) with
  | none => rfl
  | some written =>
    show writeCell written.1 written.2 0 =
      ((writeCell written.1 written.2 0).bind fun b => some (b, written.2 + 1)).map Prod.fst
    cases writeCell written.1 written.2 0 <;> rfl

/-- The copy needs a cell for each byte of the text and one for the NUL. -/
theorem strncpy16to8_eq {cells : Bytes} {s : List UInt16}
    (h : cells.length = (encoded s).length + 1) :
    strncpy16to8 cells s = some (encoded s ++ [0]) := by
  have hlen : (encoded s ++ [0]).length = (encoded s).length + 1 := List.length_append
  rw [strncpy16to8_writes, writeCells_eq (by omega), List.take_zero, Nat.zero_add,
    List.drop_eq_nil_of_le (by omega), List.append_nil, List.nil_append]
  rfl

theorem strndup16to8_eq (malloc : Malloc UInt8) (s : List UInt16) :
    strndup16to8 malloc (some s) = some (if SIZE_MAX - 1 ≤ (encoded s).length then none
      else (malloc.call ((encoded s).length + 1)).map fun _ => encoded s ++ [0]) := by
  show (if SIZE_MAX - 1 ≤ strnlen16to8 s then _ else _) = _
  rw [strnlen16to8_eq]
  by_cases hlong : SIZE_MAX - 1 ≤ (encoded s).length
  · rw [if_pos hlong, if_pos (le_min hlong (Nat.le_refl _))]
  · have hmin : min (encoded s).length (SIZE_MAX - 1) = (encoded s).length := by omega
    rw [if_neg hlong, hmin, if_neg hlong]
    cases hcall : malloc.call ((encoded s).length + 1) with
    | none => rfl
    | some ret =>
      dsimp only
      rw [strncpy16to8_eq (malloc.length_eq hcall)]
      rfl

theorem strndup16to8_text {malloc : Malloc UInt8} {s : List UInt16} {block : Bytes}
    (h : strndup16to8 malloc (some s) = some (some block)) : block = encoded s ++ [0] := by
  rw [strndup16to8_eq] at h
  split at h
  · cases h
  · obtain ⟨ret, -, hblock⟩ := Option.map_eq_some_iff.mp (Option.some.inj h)
    exact hblock.symm

/-- **The duplicate fills its block.** `strndup16to8` never writes outside of the block that it
has allocated: it returns `NULL`, for a text that is too long or for want of memory, or the block
holds the text, which has no NUL, and the NUL behind it, and nothing else. -/
theorem strndup16to8_fills (malloc : Malloc UInt8) (s : List UInt16) :
    strndup16to8 malloc (some s) = some (if SIZE_MAX - 1 ≤ (encoded s).length then none
      else (malloc.call ((encoded s).length + 1)).map fun _ => encoded s ++ [0]) ∧
    0 ∉ encoded s :=
  ⟨strndup16to8_eq malloc s, zero_not_mem_encoded s⟩

end DeviceHal.Shims.StrDup16to8
