import DeviceHal.Lib.Buffer
import DeviceHal.Lib.Loop
import DeviceHal.Utils.LocCfg

/-! # Trimming in place

The buffer of `loc_util_trim_space`: behind the first character that is not white
space the text moves to the front, over itself, and gets its NUL behind the last
one. A text of white space has no such character and gets no NUL. -/
namespace DeviceHal.Utils.TrimSpace
open DeviceHal.Lib.Buffer DeviceHal.Lib.CText DeviceHal.Lib.Loop
open DeviceHal.Utils.LocCfg (TrimState trimStep foldl_trimStep loc_util_trim_space_of_all
  loc_util_trim_space_eq)

/-! ## The function -/

/-- The local variables; the pointers are places in `org_string`. -/
structure Scan where
  org_string : Bytes
  scan_ptr : Nat
  write_ptr : Nat
  first_nonspace : Option Nat
  last_nonspace : Option Nat
deriving DecidableEq

/-- One round of the loop; `none` is an access out of range. -/
def scanRound (s : Scan) : Option (Scan ⊕ Scan) := do
  let c ← s.org_string[s.scan_ptr]?
  if c = 0 then some (.inr s)
  else
    -- find the first non-space character
    let first_nonspace :=
      if !isSpace c && s.first_nonspace = none then some s.scan_ptr else s.first_nonspace
    if first_nonspace ≠ none then
      let org_string ← writeCell s.org_string s.write_ptr c
      let write_ptr := s.write_ptr + 1
      -- the character is read again, after the write
      let c ← org_string[s.scan_ptr]?
      let last_nonspace := if !isSpace c then some write_ptr else s.last_nonspace
      some (.inl ⟨org_string, s.scan_ptr + 1, write_ptr, first_nonspace, last_nonspace⟩)
    else some (.inl { s with scan_ptr := s.scan_ptr + 1, first_nonspace })

/-- Every round reads the next cell, so there are no more rounds than cells. -/
def loc_util_trim_space (org_string : Bytes) : Option Bytes := do
  let s ← rounds scanRound (org_string.length + 1) ⟨org_string, 0, 0, none, none⟩
  match s.last_nonspace with
  | some last_nonspace => writeCell s.org_string last_nonspace 0
  | none => some s.org_string

/-! ## The loop -/

/-- The text up to `scan_ptr` as it has been read one by one. -/
def scanned (s : CString) (scan_ptr : Nat) : TrimState :=
  (s.text.take scan_ptr).foldl trimStep ⟨[], none⟩

theorem scanned_succ {s : CString} {i : Nat} (hi : i < s.text.length) :
    scanned s (i + 1) = trimStep (scanned s i) s.text[i] := by
  rw [scanned, List.take_succ_eq_append_getElem hi, List.foldl_append]
  rfl

theorem length_written_le (s : CString) (i : Nat) : (scanned s i).written.length ≤ i := by
  rw [scanned, foldl_trimStep]
  have hdrop := List.length_dropWhile_le isSpace (s.text.take i)
  exact hdrop.trans (List.length_take_le i s.text)

/-- The cells from `write_ptr` on hold what they held before. -/
structure Scanned (s : CString) (t : Scan) : Prop where
  scan_ptr : t.scan_ptr ≤ s.text.length
  org_string : t.org_string =
    (scanned s t.scan_ptr).written ++ s.buffer.drop (scanned s t.scan_ptr).written.length
  write_ptr : t.write_ptr = (scanned s t.scan_ptr).written.length
  first_nonspace : t.first_nonspace = none ↔ (scanned s t.scan_ptr).written = []
  last_nonspace : t.last_nonspace = (scanned s t.scan_ptr).last_nonspace

/-- A cell that has not been written over. -/
theorem getElem?_shifted {written buffer : Bytes} {i : Nat} (hi : written.length ≤ i) :
    (written ++ buffer.drop written.length)[i]? = buffer[i]? := by
  rw [List.getElem?_append_right hi, List.getElem?_drop, Nat.add_sub_cancel' hi]

theorem writeCell_shifted {written buffer : Bytes} (hw : written.length < buffer.length)
    (b : UInt8) : writeCell (written ++ buffer.drop written.length) written.length b =
      some ((written ++ [b]) ++ buffer.drop (written ++ [b]).length) := by
  rw [writeCell_eq (by simp; omega)]
  simp

theorem scanRound_skip {t : Scan} {c : UInt8} (hread : t.org_string[t.scan_ptr]? = some c)
    (hc : c ≠ 0) (hspace : isSpace c = true) (hfirst : t.first_nonspace = none) :
    scanRound t = some (.inl { t with scan_ptr := t.scan_ptr + 1 }) := by
  simp [scanRound, hread, hc, hspace, hfirst]

/-- From the first character that is not white space on, every character is written. -/
theorem scanRound_write {t : Scan} {c : UInt8} {org_string : Bytes}
    (hread : t.org_string[t.scan_ptr]? = some c) (hc : c ≠ 0)
    (hfound : isSpace c = false ∨ t.first_nonspace ≠ none)
    (hstore : writeCell t.org_string t.write_ptr c = some org_string)
    (hagain : org_string[t.scan_ptr]? = some c) :
    ∃ first_nonspace, first_nonspace ≠ none ∧ scanRound t = some (.inl
      ⟨org_string, t.scan_ptr + 1, t.write_ptr + 1, first_nonspace,
        if !isSpace c then some (t.write_ptr + 1) else t.last_nonspace⟩) := by
  cases hfirst : t.first_nonspace with
  | none =>
    have hspace : isSpace c = false := by simpa [hfirst] using hfound
    exact ⟨some t.scan_ptr, by simp, by simp [scanRound, hread, hc, hspace, hfirst, hstore, hagain]⟩
  | some first =>
    exact ⟨some first, by simp, by simp [scanRound, hread, hc, hfirst, hstore, hagain]⟩

/-- One more character of the text is read, as the list model reads it. -/
theorem Scanned.round {s : CString} {t : Scan} (h : Scanned s t)
    (hi : t.scan_ptr < s.text.length) :
    ∃ t', scanRound t = some (.inl t') ∧ t'.scan_ptr = t.scan_ptr + 1 ∧ Scanned s t' := by
  obtain ⟨-, hbuf, hwrite, hfirst, hlast⟩ := h
  have hw := length_written_le s t.scan_ptr
  have hsucc := scanned_succ hi
  have hb : s.text[t.scan_ptr] ≠ 0 := fun h => s.nul_not_mem (h ▸ List.getElem_mem hi)
  have hread : t.org_string[t.scan_ptr]? = some s.text[t.scan_ptr] := by
    rw [hbuf, getElem?_shifted hw, getElem?_buffer hi]
  by_cases hskip : isSpace s.text[t.scan_ptr] = true ∧ t.first_nonspace = none
  · obtain ⟨hspace, hnone⟩ := hskip
    have hsame : scanned s (t.scan_ptr + 1) = scanned s t.scan_ptr := by
      rw [hsucc, trimStep, if_neg (by simp [hspace, hfirst.mp hnone])]
    refine ⟨_, scanRound_skip hread hb hspace hnone, rfl, hi, ?_, ?_, ?_, ?_⟩
    · rw [hsame, hbuf]
    · rw [hsame, hwrite]
    · rw [hsame, hfirst]
    · rw [hsame, hlast]
  · have hfound : isSpace s.text[t.scan_ptr] = false ∨ t.first_nonspace ≠ none := by
      rw [← Bool.not_eq_true]
      exact not_and_or.mp hskip
    have hnext : scanned s (t.scan_ptr + 1) =
        ⟨(scanned s t.scan_ptr).written ++ [s.text[t.scan_ptr]],
          if !isSpace s.text[t.scan_ptr] then some (t.write_ptr + 1) else t.last_nonspace⟩ := by
      rw [hsucc, trimStep, if_pos (by simpa [hfirst] using hfound), hwrite, hlast]
    have hlen : t.write_ptr < s.buffer.length := by
      rw [hwrite, length_buffer]
      omega
    have hstore : writeCell t.org_string t.write_ptr s.text[t.scan_ptr] =
        some ((scanned s (t.scan_ptr + 1)).written ++
          s.buffer.drop (scanned s (t.scan_ptr + 1)).written.length) := by
      rw [hwrite] at hlen ⊢
      rw [hbuf, writeCell_shifted hlen, hnext]
    -- what is read again has just been written, or is as it was
    have hagain : ((scanned s (t.scan_ptr + 1)).written ++
        s.buffer.drop (scanned s (t.scan_ptr + 1)).written.length)[t.scan_ptr]? =
          some s.text[t.scan_ptr] := by
      rcases Nat.lt_or_eq_of_le hw with hlt | heq
      · rw [getElem?_shifted (by simpa [hnext] using hlt), getElem?_buffer hi]
      · rw [hnext, List.append_assoc, List.getElem?_append_right hw, heq, Nat.sub_self]
        rfl
    obtain ⟨first, hfirst', hround⟩ := scanRound_write hread hb hfound hstore hagain
    refine ⟨_, hround, rfl, hi, rfl, ?_, ?_, ?_⟩
    · simp [hnext, hwrite]
    · simp [hnext, hfirst']
    · simp [hnext]

theorem rounds_scanRound (s : CString) :
    ∃ t, rounds scanRound (s.buffer.length + 1) ⟨s.buffer, 0, 0, none, none⟩ = some t ∧
      Scanned s t ∧ t.scan_ptr = s.text.length := by
  refine rounds_spec (Scanned s) (fun t => s.text.length - t.scan_ptr) _ ?_ ?_ ?_
  · intro t ht
    rcases Nat.lt_or_eq_of_le ht.scan_ptr with hlt | heq
    · obtain ⟨t', hround, hptr, ht'⟩ := ht.round hlt
      exact .inl ⟨t', hround, ht', by omega⟩
    · refine .inr ⟨t, ?_, ht, heq⟩
      have hw := length_written_le s t.scan_ptr
      have hread : t.org_string[t.scan_ptr]? = some 0 := by
        rw [ht.org_string, getElem?_shifted hw, heq, getElem?_buffer_length]
      simp [scanRound, hread]
  · exact ⟨Nat.zero_le _, rfl, rfl, by simp [scanned], rfl⟩
  · rw [length_buffer]
    show s.text.length - 0 < _
    omega

theorem scanned_length (s : CString) :
    scanned s s.text.length = ⟨s.text.dropWhile isSpace,
      if s.text.all isSpace then none
      else some ((s.text.dropWhile isSpace).rdropWhile isSpace).length⟩ := by
  rw [scanned, List.take_length, foldl_trimStep]

/-- What the loop leaves: the text from its first other character on, over its beginning. -/
theorem exists_scanned (s : CString) :
    ∃ t, rounds scanRound (s.buffer.length + 1) ⟨s.buffer, 0, 0, none, none⟩ = some t ∧
      t.org_string = s.text.dropWhile isSpace ++
        s.buffer.drop (s.text.dropWhile isSpace).length ∧
      t.last_nonspace = if s.text.all isSpace then none
        else some ((s.text.dropWhile isSpace).rdropWhile isSpace).length := by
  obtain ⟨t, hrun, ht, hend⟩ := rounds_scanRound s
  have hbuf := ht.org_string
  have hlast := ht.last_nonspace
  rw [hend, scanned_length] at hbuf hlast
  exact ⟨t, hrun, hbuf, hlast⟩

/-- Nothing is written to a string of white space. -/
theorem trim_of_all {s : CString} (hall : s.text.all isSpace = true) :
    loc_util_trim_space s.buffer = some s.buffer := by
  obtain ⟨t, hrun, hbuf, hlast⟩ := exists_scanned s
  have hnil : s.text.dropWhile isSpace = [] :=
    List.dropWhile_eq_nil_iff.mpr (List.all_eq_true.mp hall)
  rw [hnil, List.nil_append, List.length_nil, List.drop_zero] at hbuf
  rw [hall, if_pos rfl] at hlast
  simp [loc_util_trim_space, hrun, hbuf, hlast]

/-- The other strings get a NUL behind their last other character. -/
theorem trim_of_nonspace {s : CString} (hall : s.text.all isSpace = false) :
    ∃ t : CString, loc_util_trim_space s.buffer = some t.buffer ∧
      t.text = (s.text.dropWhile isSpace).rdropWhile isSpace ∧
      t.buffer.drop (s.text.length + 1) = s.behind := by
  obtain ⟨t, hrun, hbuf, hlast⟩ := exists_scanned s
  rw [hall, if_neg Bool.false_ne_true] at hlast
  have hfront := List.rdropWhile_prefix isSpace (s.text.dropWhile isSpace)
  have hle := List.length_dropWhile_le isSpace s.text
  have hnul : 0 ∉ (s.text.dropWhile isSpace).rdropWhile isSpace :=
    fun h => s.nul_not_mem ((List.dropWhile_suffix isSpace).subset (hfront.subset h))
  have hlen := hfront.length_le
  have htake := List.prefix_iff_eq_take.mp hfront
  generalize (s.text.dropWhile isSpace).rdropWhile isSpace = trimmed at *
  generalize s.text.dropWhile isSpace = shifted at *
  have hlong : s.text.length < t.org_string.length := by
    rw [hbuf, List.length_append, List.length_drop, length_buffer]
    omega
  have hin : trimmed.length < t.org_string.length := by omega
  have hcut : t.org_string.set trimmed.length 0 =
      trimmed ++ 0 :: t.org_string.drop (trimmed.length + 1) := by
    rw [List.set_eq_take_append_cons_drop, if_pos hin, hbuf, List.take_append_of_le_length hlen,
      ← htake]
  have hstore : writeCell t.org_string trimmed.length 0 =
      some (t.org_string.set trimmed.length 0) := if_pos hin
  refine ⟨⟨trimmed, hnul, t.org_string.drop (trimmed.length + 1)⟩, ?_, rfl, ?_⟩
  · rw [loc_util_trim_space, hrun]
    simp [hlast, hstore, hcut, CString.buffer]
  · show (trimmed ++ 0 :: _).drop _ = _
    rw [← hcut, List.drop_set_of_lt (by omega), hbuf, List.drop_append,
      List.drop_eq_nil_of_le (by omega), List.drop_drop, CString.buffer]
    simp [show shifted.length + (s.text.length + 1 - shifted.length) = s.text.length + 1 by omega]

/-- The string that is left is the one of the texts, and nothing behind the string is
written. -/
theorem exists_trimmed (s : CString) :
    ∃ t : CString, loc_util_trim_space s.buffer = some t.buffer ∧
      t.text = LocCfg.loc_util_trim_space s.text ∧
      t.buffer.drop (s.text.length + 1) = s.behind := by
  cases hall : s.text.all isSpace with
  | true =>
    exact ⟨s, trim_of_all hall, (loc_util_trim_space_of_all hall).symm, by simp [CString.buffer]⟩
  | false =>
    obtain ⟨t, hrun, htext, hbehind⟩ := trim_of_nonspace hall
    exact ⟨t, hrun, by rw [htext, loc_util_trim_space_eq hall], hbehind⟩

example : loc_util_trim_space (bytesOf " a b ".toList ++ [0]) =
    some (bytesOf "a b".toList ++ [0, 32, 0]) := by decide

/-! ## Trimmed texts -/

/-- A text without its leading and trailing white space. -/
def trimmed (text : Bytes) : Bytes := (text.dropWhile isSpace).rdropWhile isSpace

/-- One call leaves the trimmed text, a second one the same text again. -/
def Trims (s : CString) : Prop :=
  ∃ once twice : CString, loc_util_trim_space s.buffer = some once.buffer ∧
    once.text = trimmed s.text ∧
    loc_util_trim_space once.buffer = some twice.buffer ∧ twice.text = once.text

theorem text_eq_of_buffer_eq {s t : CString} (h : s.buffer = t.buffer) : s.text = t.text := by
  rw [← cstr_buffer s, h, cstr_buffer]

theorem dropWhile_trimmed (text : Bytes) : (trimmed text).dropWhile isSpace = trimmed text := by
  rw [List.dropWhile_eq_self_iff]
  intro hpos
  have hfront : trimmed text <+: text.dropWhile isSpace := List.rdropWhile_prefix isSpace _
  have hdrop : 0 < (text.dropWhile isSpace).length := Nat.lt_of_lt_of_le hpos hfront.length_le
  have hfirst : (trimmed text)[0] = (text.dropWhile isSpace)[0] := hfront.getElem hpos
  rw [hfirst]
  exact List.dropWhile_get_zero_not isSpace text hdrop

/-- A second call changes nothing, also where the first one should have. -/
theorem trim_trim (text : Bytes) :
    LocCfg.loc_util_trim_space (LocCfg.loc_util_trim_space text) =
      LocCfg.loc_util_trim_space text := by
  cases hall : text.all isSpace with
  | true => rw [loc_util_trim_space_of_all hall, loc_util_trim_space_of_all hall]
  | false =>
    rw [loc_util_trim_space_eq hall]
    show LocCfg.loc_util_trim_space (trimmed text) = trimmed text
    cases hagain : (trimmed text).all isSpace with
    | true => exact loc_util_trim_space_of_all hagain
    | false =>
      rw [loc_util_trim_space_eq hagain, dropWhile_trimmed]
      exact List.rdropWhile_idempotent isSpace _

theorem trims_iff_text (s : CString) :
    Trims s ↔ LocCfg.loc_util_trim_space s.text = trimmed s.text := by
  obtain ⟨once, hrun, htext, -⟩ := exists_trimmed s
  constructor
  · rintro ⟨once', _, hrun', htext', -⟩
    have hbuf : once.buffer = once'.buffer := Option.some.inj (hrun.symm.trans hrun')
    rw [← htext, text_eq_of_buffer_eq hbuf, htext']
  · intro h
    obtain ⟨twice, hrun', htext', -⟩ := exists_trimmed once
    exact ⟨once, twice, hrun, htext.trans h, hrun', by rw [htext', htext, trim_trim]⟩

/-- **Trimming does what it is for on the strings that are empty or have a character that is
not white space.** -/
theorem trims_iff (s : CString) :
    Trims s ↔ s.text = [] ∨ ∃ b ∈ s.text, isSpace b = false := by
  rw [trims_iff_text]
  cases hall : s.text.all isSpace with
  | true =>
    have hspace := List.all_eq_true.mp hall
    have hnil : trimmed s.text = [] := by
      rw [trimmed, List.dropWhile_eq_nil_iff.mpr hspace, List.rdropWhile_nil]
    rw [loc_util_trim_space_of_all hall, hnil]
    constructor
    · exact Or.inl
    · rintro (h | ⟨b, hb, hother⟩)
      · exact h
      · exact absurd (hspace b hb) (by simp [hother])
  | false =>
    have hother : ∃ b ∈ s.text, isSpace b = false := by simpa using hall
    exact ⟨fun _ => .inr hother, fun _ => loc_util_trim_space_eq hall⟩

/-- Two spaces stay. -/
theorem not_trims_spaces : ¬ Trims ⟨[32, 32], by decide, []⟩ := by
  rw [trims_iff_text]
  decide

end DeviceHal.Utils.TrimSpace
