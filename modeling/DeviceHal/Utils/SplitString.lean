import DeviceHal.Lib.Buffer
import DeviceHal.Lib.Fields
import DeviceHal.Lib.Loop
import DeviceHal.Utils.ProcessEntry

/-! # Splitting in place

The buffer and the pointers of `loc_util_split_string`. The loop compares its
index with the length of the string as an `int`, which is the length only for
strings of less than `2 ^ 31 - 1` characters: a longer string is read as far as
the `int` says, or not at all. -/
namespace DeviceHal.Utils.SplitString
open DeviceHal.Lib.Buffer DeviceHal.Lib.CText DeviceHal.Lib.Fields DeviceHal.Lib.Loop

/-! ## The function -/

/-- The two arrays and the local variables; the pointers are addresses. -/
structure Split where
  raw_string : Bytes
  split_strings_ptr : Nat → Nat
  raw_string_index : Nat
  num_split_strings : Nat

/-- `raw_string_length` of the buffer: `strlen`, with the NUL, as an `int`. -/
def rawStringLength (raw_string : Bytes) : Int := toInt32 ((cstr raw_string).length + 1)

/-- One round of the loop over a string at `address`; `none` is an access out of range. -/
def splitRound (address : Nat) (raw_string_length max_num_substrings : Int) (delimiter : UInt8)
    (s : Split) : Option (Split ⊕ Split) :=
  if (s.raw_string_index : Int) < raw_string_length then do
    let c ← s.raw_string[s.raw_string_index]?
    -- at the end of the string there is no further round
    let end_string : Bool := c = 0
    let next := fun s : Split =>
      if end_string then .inr s else .inl { s with raw_string_index := s.raw_string_index + 1 }
    if c = delimiter ∨ end_string then
      let raw_string ← writeCell s.raw_string s.raw_string_index 0
      let s := { s with raw_string, num_split_strings := s.num_split_strings + 1 }
      if (s.raw_string_index : Int) + 1 < raw_string_length ∧
          (s.num_split_strings : Int) < max_num_substrings then
        some (next { s with
          split_strings_ptr := Function.update s.split_strings_ptr s.num_split_strings
            (address + (s.raw_string_index + 1)) })
      else some (.inr s)
    else some (next s)
  else some (.inr s)

/-- What the memory holds at the end; the returned value is `num_split_strings`. -/
def loc_util_split_string (address : Nat) (raw_string : Bytes) (split_strings_ptr : Nat → Nat)
    (max_num_substrings : Int) (delimiter : UInt8) : Option Split :=
  let raw_string_length := rawStringLength raw_string
  rounds (splitRound address raw_string_length max_num_substrings delimiter)
    (raw_string_length.toNat + 1)
    ⟨raw_string, Function.update split_strings_ptr 0 address, 0, 0⟩

/-- The field that ends at the index gets its NUL and is counted. -/
def Split.close (t : Split) : Split :=
  { t with
    raw_string := t.raw_string.set t.raw_string_index 0
    num_split_strings := t.num_split_strings + 1 }

/-! ## What splitting is for -/

/-- The arguments of a call that has room for a string. -/
structure Call where
  raw_string : CString
  address : Nat
  split_strings_ptr : Nat → Nat
  max_num_substrings : Int
  delimiter : UInt8
  max_pos : 1 ≤ max_num_substrings

namespace Call

def text (c : Call) : Bytes := c.raw_string.text

def fields (c : Call) : List Bytes := c.text.splitOn c.delimiter

def run (c : Call) : Option Split :=
  loc_util_split_string c.address c.raw_string.buffer c.split_strings_ptr c.max_num_substrings
    c.delimiter

/-- The slots of all fields up to the maximum point to them, and there is a NUL behind each; the
other slots are as they were. -/
structure IsSplit (c : Call) (t : Split) : Prop where
  count : (t.num_split_strings : Int) =
    min c.max_num_substrings (c.text.count c.delimiter + 1)
  slots : ∀ j < t.num_split_strings, ∃ field, c.fields[j]? = some field ∧
    t.split_strings_ptr j = c.address + start c.fields j ∧
    field ++ [0] <+: t.raw_string.drop (start c.fields j)
  others : ∀ j ≥ t.num_split_strings, t.split_strings_ptr j = c.split_strings_ptr j

def Splits (c : Call) : Prop := ∃ t, c.run = some t ∧ c.IsSplit t

/-! ## Rounds -/

/-- Before a round the text is cut up to the index, and the slots of the fields that have begun
are set. -/
structure Cutting (c : Call) (t : Split) : Prop where
  index_le : t.raw_string_index ≤ c.text.length
  raw_string : t.raw_string = cut 0 c.delimiter (c.text.take t.raw_string_index) ++
    c.raw_string.buffer.drop t.raw_string_index
  num : t.num_split_strings = (c.text.take t.raw_string_index).count c.delimiter
  room : (t.num_split_strings : Int) < c.max_num_substrings
  begun : ∀ j ≤ t.num_split_strings, t.split_strings_ptr j = c.address + start c.fields j
  others : ∀ j > t.num_split_strings, t.split_strings_ptr j = c.split_strings_ptr j

variable {c : Call} {t : Split} {length : Int}

theorem cutting_zero (c : Call) : Cutting c
    ⟨c.raw_string.buffer, Function.update c.split_strings_ptr 0 c.address, 0, 0⟩ where
  index_le := Nat.zero_le _
  raw_string := rfl
  num := rfl
  room := c.max_pos
  begun := by
    intro j hj
    obtain rfl := Nat.le_zero.mp hj
    simp
  others := by
    intro j hj
    exact Function.update_of_ne (Nat.ne_of_gt hj) _ _

theorem Cutting.length_eq (h : c.Cutting t) :
    (cut 0 c.delimiter (c.text.take t.raw_string_index)).length = t.raw_string_index := by
  rw [length_cut, List.length_take, Nat.min_eq_left h.index_le]

/-- What has not been read is still there. -/
theorem Cutting.drop_eq (h : c.Cutting t) :
    t.raw_string.drop t.raw_string_index = c.raw_string.buffer.drop t.raw_string_index := by
  rw [h.raw_string]
  exact List.drop_left' h.length_eq

theorem Cutting.read (h : c.Cutting t) :
    t.raw_string[t.raw_string_index]? = c.raw_string.buffer[t.raw_string_index]? := by
  rw [← List.head?_drop, h.drop_eq, List.head?_drop]

theorem drop_buffer {i : Nat} (hi : i < c.text.length) :
    c.raw_string.buffer.drop i = c.text[i] :: c.raw_string.buffer.drop (i + 1) := by
  have hin : i < c.raw_string.buffer.length := by
    rw [length_buffer]
    show i < c.text.length + 1 + _
    omega
  have hget := getElem?_buffer (s := c.raw_string) hi
  rw [List.getElem?_eq_getElem hin] at hget
  rw [List.drop_eq_getElem_cons hin, Option.some.inj hget]
  rfl

/-- Inside a field only the index moves. -/
theorem Cutting.inside (h : c.Cutting t) (hindex : (t.raw_string_index : Int) < length)
    (hi : t.raw_string_index < c.text.length) (hc : c.text[t.raw_string_index] ≠ c.delimiter) :
    ∃ t', splitRound c.address length c.max_num_substrings c.delimiter t = some (.inl t') ∧
      t'.raw_string_index = t.raw_string_index + 1 ∧ c.Cutting t' := by
  have hnul : c.text[t.raw_string_index] ≠ 0 :=
    fun h => c.raw_string.nul_not_mem (h ▸ List.getElem_mem hi)
  have hread : t.raw_string[t.raw_string_index]? = some c.text[t.raw_string_index] :=
    h.read.trans (getElem?_buffer hi)
  refine ⟨{ t with raw_string_index := t.raw_string_index + 1 }, ?_, rfl, hi, ?_, ?_, h.room,
    h.begun, h.others⟩
  · simp [splitRound, hindex, hread, hc, hnul]
  · show t.raw_string = _
    rw [h.raw_string, cut_take_succ 0 c.delimiter hi, if_neg hc, drop_buffer hi]
    simp
  · show t.num_split_strings = _
    rw [h.num, List.take_succ_eq_append_getElem hi, List.count_append]
    simp [hc]

/-- The fields up to the one that ends at `i` are complete. -/
structure Closed (c : Call) (i : Nat) (t : Split) : Prop where
  index_le : i ≤ c.text.length
  fieldEnd : FieldEnd c.delimiter c.text i
  raw_string : t.raw_string =
    cut 0 c.delimiter (c.text.take i) ++ 0 :: c.raw_string.buffer.drop (i + 1)
  num : t.num_split_strings = (c.text.take i).count c.delimiter + 1
  room : (t.num_split_strings : Int) ≤ c.max_num_substrings
  begun : ∀ j < t.num_split_strings, t.split_strings_ptr j = c.address + start c.fields j
  others : ∀ j ≥ t.num_split_strings, t.split_strings_ptr j = c.split_strings_ptr j

theorem Cutting.close (h : c.Cutting t) (hend : FieldEnd c.delimiter c.text t.raw_string_index) :
    c.Closed t.raw_string_index t.close := by
  refine ⟨h.index_le, hend, ?_, ?_, ?_, ?_, ?_⟩
  · have hin : t.raw_string_index < c.raw_string.buffer.length := by
      rw [length_buffer]
      exact Nat.lt_of_le_of_lt h.index_le (Nat.lt_add_right _ (Nat.lt_succ_self _))
    have hlen := h.length_eq
    show t.raw_string.set _ _ = _
    rw [h.raw_string, List.set_append_right _ _ (Nat.le_of_eq hlen), hlen, Nat.sub_self,
      List.drop_eq_getElem_cons hin]
    rfl
  · show t.num_split_strings + 1 = _
    rw [h.num]
  · show ((t.num_split_strings + 1 : Nat) : Int) ≤ _
    have hroom := h.room
    omega
  · intro j hj
    exact h.begun j (Nat.le_of_lt_succ hj)
  · intro j hj
    exact h.others j hj

/-- The round at the end of a field, if there is no further slot. -/
theorem splitRound_stop {address : Nat} {max_num_substrings : Int} {delimiter b : UInt8}
    (hindex : (t.raw_string_index : Int) < length)
    (hread : t.raw_string[t.raw_string_index]? = some b) (hb : b = delimiter ∨ b = 0)
    (hstop : ¬ ((t.raw_string_index : Int) + 1 < length ∧
      (t.close.num_split_strings : Int) < max_num_substrings)) :
    splitRound address length max_num_substrings delimiter t = some (.inr t.close) := by
  have hin := (List.getElem?_eq_some_iff.mp hread).1
  have hstore : writeCell t.raw_string t.raw_string_index 0 = some t.close.raw_string := if_pos hin
  have hb : b = delimiter ∨ decide (b = 0) = true := by simpa using hb
  rw [splitRound, if_pos hindex, hread, Option.bind_eq_bind, Option.bind_some]
  simp only [if_pos hb, hstore, Option.bind_eq_bind, Option.bind_some]
  exact if_neg hstop

/-- The round at a delimiter, if there is. -/
theorem splitRound_next {address : Nat} {max_num_substrings : Int} {delimiter : UInt8}
    (hindex : (t.raw_string_index : Int) < length)
    (hread : t.raw_string[t.raw_string_index]? = some delimiter) (hdelimiter : delimiter ≠ 0)
    (hnext : (t.raw_string_index : Int) + 1 < length ∧
      (t.close.num_split_strings : Int) < max_num_substrings) :
    splitRound address length max_num_substrings delimiter t = some (.inl
      { t.close with
        split_strings_ptr := Function.update t.split_strings_ptr (t.num_split_strings + 1)
          (address + (t.raw_string_index + 1))
        raw_string_index := t.raw_string_index + 1 }) := by
  have hin := (List.getElem?_eq_some_iff.mp hread).1
  have hstore : writeCell t.raw_string t.raw_string_index 0 = some t.close.raw_string := if_pos hin
  rw [splitRound, if_pos hindex, hread, Option.bind_eq_bind, Option.bind_some]
  simp only [true_or, if_true, hstore, Option.bind_eq_bind, Option.bind_some]
  refine (if_pos hnext).trans ?_
  simp [hdelimiter, Split.close]

theorem count_take_succ (hi : t.raw_string_index < c.text.length)
    (hc : c.text[t.raw_string_index] = c.delimiter) :
    (c.text.take (t.raw_string_index + 1)).count c.delimiter =
      (c.text.take t.raw_string_index).count c.delimiter + 1 := by
  rw [List.take_succ_eq_append_getElem hi, List.count_append, hc]
  simp

theorem count_take_le (c : Call) {i j : Nat} (hij : i ≤ j) :
    (c.text.take i).count c.delimiter ≤ (c.text.take j).count c.delimiter :=
  (List.take_sublist_take_left hij).count_le _

theorem count_take_le_count (c : Call) (i : Nat) :
    (c.text.take i).count c.delimiter ≤ c.text.count c.delimiter :=
  (List.take_sublist i c.text).count_le _

theorem Cutting.read_delimiter (h : c.Cutting t) (hi : t.raw_string_index < c.text.length)
    (hc : c.text[t.raw_string_index] = c.delimiter) :
    t.raw_string[t.raw_string_index]? = some c.delimiter :=
  h.read.trans ((getElem?_buffer hi).trans (congrArg some hc))

/-- At a delimiter the slot of the next field is set, while there is room. -/
theorem Cutting.delimiter (h : c.Cutting t) (hindex : (t.raw_string_index : Int) < length)
    (hi : t.raw_string_index < c.text.length) (hc : c.text[t.raw_string_index] = c.delimiter)
    (hnext : (t.raw_string_index : Int) + 1 < length ∧
      (t.close.num_split_strings : Int) < c.max_num_substrings) :
    ∃ t', splitRound c.address length c.max_num_substrings c.delimiter t = some (.inl t') ∧
      t'.raw_string_index = t.raw_string_index + 1 ∧ c.Cutting t' := by
  have hnul : c.delimiter ≠ 0 :=
    fun hzero => c.raw_string.nul_not_mem ((hc.trans hzero) ▸ List.getElem_mem hi)
  have hread := h.read_delimiter hi hc
  have hend := FieldEnd.of_getElem hi hc
  have hclosed := h.close hend
  refine ⟨_, splitRound_next hindex hread hnul hnext, rfl, hi, ?_, ?_, hnext.2, ?_, ?_⟩
  · show t.close.raw_string = _
    rw [hclosed.raw_string, cut_take_succ 0 c.delimiter hi, if_pos hc, List.append_assoc]
    rfl
  · show t.close.num_split_strings = _
    rw [hclosed.num, count_take_succ hi hc]
  · intro j hj
    rcases Nat.lt_or_eq_of_le hj with hlt | rfl
    · exact (Function.update_of_ne (Nat.ne_of_lt hlt) _ _).trans (hclosed.begun j hlt)
    · refine (Function.update_self _ _ _).trans ?_
      show c.address + (t.raw_string_index + 1) = _ + start c.fields (t.num_split_strings + 1)
      rw [h.num, fields, hend.start_eq h.index_le]
  · intro j hj
    exact (Function.update_of_ne (Nat.ne_of_gt hj) _ _).trans
      (hclosed.others j (Nat.le_of_lt hj))

/-- Every field that is complete stands behind its pointer. -/
theorem Closed.slots {i : Nat} (h : c.Closed i t) : ∀ j < t.num_split_strings,
    ∃ field, c.fields[j]? = some field ∧
      t.split_strings_ptr j = c.address + start c.fields j ∧
      field ++ [0] <+: t.raw_string.drop (start c.fields j) := by
  intro j hj
  have hfront := h.fieldEnd.splitOn_take
  have hlen := length_splitOn c.delimiter (c.text.take i)
  rw [← h.num] at hlen
  have hin : j < ((c.text.take i).splitOn c.delimiter).length := by rwa [hlen]
  have hget : c.fields[j]? = some ((c.text.take i).splitOn c.delimiter)[j] :=
    List.prefix_iff_getElem?.mp hfront j hin
  refine ⟨_, hget, h.begun j hj, ?_⟩
  have hstart : start c.fields j = start ((c.text.take i).splitOn c.delimiter) j :=
    start_of_front hfront (Nat.le_of_lt hin)
  have hcut : t.raw_string = terminated 0 ((c.text.take i).splitOn c.delimiter) ++
      c.raw_string.buffer.drop (i + 1) := by
    rw [h.raw_string, ← cut_append, List.append_assoc]
    rfl
  rw [hstart, hcut]
  exact prefix_drop_terminated (List.getElem?_eq_getElem hin) 0 _

/-- The last field of the text or the last slot. -/
theorem Closed.isSplit {i : Nat} (h : c.Closed i t)
    (hlast : i = c.text.length ∨ (t.num_split_strings : Int) = c.max_num_substrings) :
    c.IsSplit t := by
  refine ⟨?_, h.slots, h.others⟩
  have hnum := h.num
  have hroom := h.room
  have hle := count_take_le_count c i
  rcases hlast with rfl | hmax
  · rw [List.take_length] at hnum
    omega
  · omega

/-! ## Runs -/

/-- The rounds come to the end of the text, or to as many delimiters as there may be strings. -/
def Reaches (c : Call) (length : Int) : Prop :=
  length = c.text.length + 1 ∨
    c.max_num_substrings ≤ ((c.text.take length.toNat).count c.delimiter : Int)

/-- The run does all it should, or returns too little. -/
def Outcome (c : Call) (length : Int) (t : Split) : Prop :=
  (c.Reaches length ∧ c.IsSplit t) ∨
    (¬ c.Reaches length ∧ (t.num_split_strings : Int) <
      min c.max_num_substrings (c.text.count c.delimiter + 1))

/-- The last round ends a field. It is the last of the text, or there is no slot or no `int`
left for the next one. -/
theorem Cutting.stop (h : c.Cutting t) (hlength : length ≤ c.text.length + 1)
    (hindex : (t.raw_string_index : Int) < length)
    (hend : FieldEnd c.delimiter c.text t.raw_string_index)
    (hstop : ¬ ((t.raw_string_index : Int) + 1 < length ∧
      (t.close.num_split_strings : Int) < c.max_num_substrings)) :
    c.Outcome length t.close := by
  have hclosed := h.close hend
  rcases hend with hget | hlast
  · obtain ⟨hi, hc⟩ := List.getElem?_eq_some_iff.mp hget
    have hnum : t.close.num_split_strings = _ := hclosed.num.trans (count_take_succ hi hc).symm
    have hcount := count_take_le_count c (t.raw_string_index + 1)
    by_cases hmax : (t.close.num_split_strings : Int) = c.max_num_substrings
    · refine .inl ⟨.inr ?_, hclosed.isSplit (.inr hmax)⟩
      have hmore := count_take_le c (show t.raw_string_index + 1 ≤ length.toNat by omega)
      omega
    · have hroom := hclosed.room
      have htoNat : length.toNat = t.raw_string_index + 1 := by omega
      refine .inr ⟨?_, by omega⟩
      rintro (hall | hreach)
      · omega
      · rw [htoNat] at hreach
        omega
  · exact .inl ⟨.inl (by omega), hclosed.isSplit (.inl hlast)⟩

/-- What a round does, for any length that is not beyond the string. -/
theorem Cutting.round (h : c.Cutting t) (hlength : length ≤ c.text.length + 1) :
    (∃ t', splitRound c.address length c.max_num_substrings c.delimiter t = some (.inl t') ∧
      c.Cutting t' ∧
      length.toNat - t'.raw_string_index < length.toNat - t.raw_string_index) ∨
    ∃ t', splitRound c.address length c.max_num_substrings c.delimiter t = some (.inr t') ∧
      c.Outcome length t' := by
  have hroom := h.room
  have hnum := h.num
  by_cases hindex : (t.raw_string_index : Int) < length
  · rcases Nat.lt_or_eq_of_le h.index_le with hi | hlast
    · by_cases hc : c.text[t.raw_string_index] = c.delimiter
      · by_cases hnext : (t.raw_string_index : Int) + 1 < length ∧
            (t.close.num_split_strings : Int) < c.max_num_substrings
        · obtain ⟨t', hround, hsucc, ht'⟩ := h.delimiter hindex hi hc hnext
          exact .inl ⟨t', hround, ht', by omega⟩
        · exact .inr ⟨t.close, splitRound_stop hindex (h.read_delimiter hi hc) (.inl rfl) hnext,
            h.stop hlength hindex (.of_getElem hi hc) hnext⟩
      · obtain ⟨t', hround, hsucc, ht'⟩ := h.inside hindex hi hc
        exact .inl ⟨t', hround, ht', by omega⟩
    · have hread : t.raw_string[t.raw_string_index]? = some 0 := by
        rw [h.read, hlast]
        exact getElem?_buffer_length c.raw_string
      have hstop : ¬ ((t.raw_string_index : Int) + 1 < length ∧
          (t.close.num_split_strings : Int) < c.max_num_substrings) := by omega
      exact .inr ⟨t.close, splitRound_stop hindex hread (.inr rfl) hstop,
        h.stop hlength hindex (.inr hlast) hstop⟩
  · refine .inr ⟨t, if_neg hindex, .inr ⟨?_, ?_⟩⟩
    · rintro (hall | hmax)
      · have hle := h.index_le
        omega
      · have hcount := count_take_le c (show length.toNat ≤ t.raw_string_index by omega)
        omega
    · have hcount := count_take_le_count c t.raw_string_index
      omega

/-- The `int` is not beyond the string, and is its length if that is short enough. -/
theorem rawStringLength_le (c : Call) :
    rawStringLength c.raw_string.buffer ≤ c.text.length + 1 := by
  rw [rawStringLength, cstr_buffer]
  exact toInt32_le (c.text.length + 1)

theorem rawStringLength_eq_iff (c : Call) :
    rawStringLength c.raw_string.buffer = c.text.length + 1 ↔ c.text.length + 1 < 2 ^ 31 := by
  rw [rawStringLength, cstr_buffer]
  exact toInt32_eq_iff (c.text.length + 1)

theorem exists_outcome (c : Call) :
    ∃ t, c.run = some t ∧ c.Outcome (rawStringLength c.raw_string.buffer) t := by
  have hlength := rawStringLength_le c
  refine rounds_spec c.Cutting
    (fun t => (rawStringLength c.raw_string.buffer).toNat - t.raw_string_index) _
    (fun t ht => ht.round hlength) (cutting_zero c) ?_
  exact Nat.lt_succ_of_le (Nat.sub_le _ _)

theorem splits_iff_reaches (c : Call) :
    c.Splits ↔ c.Reaches (rawStringLength c.raw_string.buffer) := by
  obtain ⟨t, hrun, hout⟩ := exists_outcome c
  constructor
  · rintro ⟨t', hrun', hsplit⟩
    obtain rfl : t = t' := Option.some.inj (hrun.symm.trans hrun')
    rcases hout with ⟨hreach, -⟩ | ⟨-, hless⟩
    · exact hreach
    · exact absurd hsplit.count (Int.ne_of_lt hless)
  · intro hreach
    rcases hout with ⟨-, hsplit⟩ | ⟨hnot, -⟩
    · exact ⟨t, hrun, hsplit⟩
    · exact absurd hreach hnot

/-- **A call splits its string if and only if the string has less than `2 ^ 31 - 1` characters,
or the `int` that its length becomes still counts as many delimiters as there may be strings.** -/
theorem splits_iff (c : Call) :
    c.Splits ↔ c.text.length + 1 < 2 ^ 31 ∨ c.max_num_substrings ≤
      ((c.text.take (rawStringLength c.raw_string.buffer).toNat).count c.delimiter : Int) := by
  rw [splits_iff_reaches, Reaches, rawStringLength_eq_iff]

example : (loc_util_split_string 100 (bytesOf "a,,b".toList ++ [0]) (fun _ => 7) 5 44).map
    (fun t => (t.num_split_strings, t.raw_string, (List.range 4).map t.split_strings_ptr)) =
      some (3, [97, 0, 0, 98, 0], [100, 102, 103, 7]) := by decide

/-- A string of `n` times one letter, with room for one string. -/
def oneField (n : Nat) : Call where
  raw_string := ⟨List.replicate n 97, fun h => absurd (List.eq_of_mem_replicate h) (by decide), []⟩
  address := 0
  split_strings_ptr := fun _ => 0
  max_num_substrings := 1
  delimiter := 44
  max_pos := Int.le_refl 1

theorem rawStringLength_oneField (n : Nat) :
    rawStringLength (oneField n).raw_string.buffer = toInt32 (n + 1) := by
  have hlen : (oneField n).raw_string.text.length = n := List.length_replicate
  rw [rawStringLength, cstr_buffer, hlen]

/-- A negative length: no string is found. -/
theorem not_splits_of_neg {n : Nat} (hneg : toInt32 (n + 1) < 0) : ¬ (oneField n).Splits := by
  rw [splits_iff_reaches, Reaches, rawStringLength_oneField]
  rintro (hall | hreach)
  · omega
  · rw [Int.toNat_of_nonpos (Int.le_of_lt hneg), List.take_zero, List.count_nil] at hreach
    exact absurd (show (1 : Int) ≤ 0 from hreach) (by decide)

/-- With as many characters as an `int` counts the length becomes negative. -/
theorem not_splits_oneField : ¬ (oneField 2147483647).Splits :=
  not_splits_of_neg (by decide)

/-! ## The strings that the callers see -/

theorem IsSplit.pieces (h : c.IsSplit t) :
    (ProcessEntry.loc_util_split_string c.text c.max_num_substrings.toNat c.delimiter).1 =
      (List.range t.num_split_strings).map fun j =>
        cstr (t.raw_string.drop (t.split_strings_ptr j - c.address)) := by
  have hmax := c.max_pos
  have hcount := h.count
  have hlen : c.fields.length = _ := length_splitOn c.delimiter c.text
  rw [ProcessEntry.loc_util_split_string_eq c.text (by omega) c.delimiter]
  show c.fields.take _ = _
  refine List.ext_getElem ?_ ?_
  · rw [List.length_take, hlen, List.length_map, List.length_range]
    omega
  · intro j hj hrange
    have hj : j < t.num_split_strings := by simpa using hrange
    obtain ⟨field, hget, hslot, hfront⟩ := h.slots j hj
    obtain ⟨hin, hfield⟩ := List.getElem?_eq_some_iff.mp hget
    obtain ⟨rest, hrest⟩ := hfront
    have hnul : 0 ∉ field := by
      intro hzero
      have hmem := hfield ▸ List.getElem_mem hin
      exact c.raw_string.nul_not_mem (subset_of_mem_splitOn hmem hzero)
    have hcell : t.split_strings_ptr j - c.address = start c.fields j := by omega
    rw [List.getElem_take, hfield, List.getElem_map, List.getElem_range, hcell, ← hrest,
      List.append_assoc]
    exact (cstr_append hnul rest).symm

end Call

end DeviceHal.Utils.SplitString
