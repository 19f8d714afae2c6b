import DeviceHal.Core.DebugNmea
import DeviceHal.Lib.Loop

/-! # The fields of a debug sentence

The constructor of `SystemStatusNmeaBase` cuts the string that it searches: each
pass takes what stands before the next comma and goes on with the rest. Its last
field ends at the comma that the star has become. -/
namespace DeviceHal.Core.DebugTokens
open DeviceHal.Lib.CText DeviceHal.Lib.Loop DeviceHal.Core.DebugNmea

/-! ## The constructor -/

/-- One pass of the loop: `parser` is still to be cut, `mField` holds the fields so far. -/
def tokenRound : Bytes × List Bytes → Option (Bytes × List Bytes ⊕ List Bytes)
  | (parser, mField) =>
    match parser.idxOf? 44 with
    | none => some (.inr mField)
    | some index =>
      let str := parser.take index
      let parser := parser.drop (index + 1)
      some (.inl (parser, mField ++ [str]))

/-- The fields after at most `n` passes; `none` if the loop is not at its end by then. -/
def SystemStatusNmeaBase (n : Nat) (str_in : Bytes) (len_in : Nat) : Option (List Bytes) :=
  -- check size and talker
  if !loc_nmea_is_debug str_in len_in then some []
  else
    let parser := cstr str_in
    match parser.idxOf? 42 with
    | none => some []
    | some index => rounds tokenRound n (parser.set index 44, [])

/-! ## Cutting -/

theorem idxOf?_append_cons {b : UInt8} {before : Bytes} (hb : b ∉ before) (rest : Bytes) :
    (before ++ b :: rest).idxOf? b = some before.length := by
  induction before with
  | nil => simp [List.idxOf?_cons]
  | cons c before ih =>
    have hc : (c == b) = false := beq_eq_false_iff_ne.mpr fun h => hb (by simp [h])
    rw [List.cons_append, List.idxOf?_cons, hc, ih fun h => hb (List.mem_cons_of_mem c h)]
    rfl

theorem tokenRound_of_comma {str : Bytes} (hcomma : 44 ∉ str) (rest : Bytes)
    (mField : List Bytes) :
    tokenRound (str ++ 44 :: rest, mField) = some (.inl (rest, mField ++ [str])) := by
  simp [tokenRound, idxOf?_append_cons hcomma]

theorem tokenRound_of_no_comma {parser : Bytes} (hcomma : 44 ∉ parser) (mField : List Bytes) :
    tokenRound (parser, mField) = some (.inr mField) := by
  rw [tokenRound, List.idxOf?_eq_none_iff.mpr hcomma]

theorem tokenize_of_no_comma {parser : Bytes} (hcomma : 44 ∉ parser) (str : Bytes) :
    tokenize str parser = [] := by
  induction parser generalizing str with
  | nil => rfl
  | cons b parser ih =>
    have hb : b ≠ 44 := fun h => hcomma (by simp [h])
    rw [tokenize, if_neg hb]
    exact ih (fun h => hcomma (List.mem_cons_of_mem b h)) _

theorem tokenize_of_comma {field : Bytes} (hcomma : 44 ∉ field) (str rest : Bytes) :
    tokenize str (field ++ 44 :: rest) = (str ++ field) :: tokenize [] rest := by
  induction field generalizing str with
  | nil => simp [tokenize]
  | cons b field ih =>
    have hb : b ≠ 44 := fun h => hcomma (by simp [h])
    rw [List.cons_append, tokenize, if_neg hb, ih fun h => hcomma (List.mem_cons_of_mem b h)]
    simp

/-- Every pass makes the string shorter, so the loop ends, with the pieces before the
commas. -/
theorem rounds_tokenRound {n : Nat} {parser : Bytes} (hn : parser.length < n)
    (mField : List Bytes) :
    rounds tokenRound n (parser, mField) = some (mField ++ tokenize [] parser) := by
  have hround : ∀ s : Bytes × List Bytes, s.2 ++ tokenize [] s.1 = mField ++ tokenize [] parser →
      (∃ s', tokenRound s = some (.inl s') ∧
        s'.2 ++ tokenize [] s'.1 = mField ++ tokenize [] parser ∧ s'.1.length < s.1.length) ∨
      ∃ a, tokenRound s = some (.inr a) ∧ a = mField ++ tokenize [] parser := by
    rintro ⟨text, fields⟩ hinv
    by_cases hcomma : 44 ∈ text
    · obtain ⟨str, rest, rfl, hstr⟩ := List.eq_append_cons_of_mem hcomma
      refine .inl ⟨(rest, fields ++ [str]), tokenRound_of_comma hstr rest fields, ?_, ?_⟩
      · rw [← hinv, tokenize_of_comma hstr]
        simp
      · simp
        omega
    · refine .inr ⟨fields, tokenRound_of_no_comma hcomma fields, ?_⟩
      rw [← hinv, tokenize_of_no_comma hcomma, List.append_nil]
  obtain ⟨fields, hfields, rfl⟩ :=
    rounds_spec (fun s => s.2 ++ tokenize [] s.1 = mField ++ tokenize [] parser)
      (fun s => s.1.length) (· = mField ++ tokenize [] parser) hround (s := (parser, mField)) rfl hn
  exact hfields

/-- The fields are those that the parsers see. -/
theorem SystemStatusNmeaBase_eq {sentence : CString} {n : Nat} (hn : sentence.text.length < n)
    (len_in : Nat) :
    SystemStatusNmeaBase n sentence.buffer len_in = some (mField sentence.buffer len_in) := by
  cases hdebug : loc_nmea_is_debug sentence.buffer len_in with
  | false => simp [SystemStatusNmeaBase, mField, hdebug]
  | true =>
    cases hstar : sentence.text.idxOf? 42 with
    | none => simp [SystemStatusNmeaBase, mField, hdebug, hstar]
    | some index =>
      have hlen : (sentence.text.set index 44).length < n := by rwa [List.length_set]
      simpa [SystemStatusNmeaBase, mField, hdebug, hstar] using rounds_tokenRound hlen []

/-! ## Fields -/

theorem tokenize_eq_splitOn {rest : Bytes} (hrest : 44 ∉ rest) (str text : Bytes) :
    tokenize str (text ++ 44 :: rest) = (text.splitOn 44).modifyHead (str ++ ·) := by
  induction text generalizing str with
  | nil => simp [tokenize, tokenize_of_no_comma hrest]
  | cons b text ih =>
    rw [List.cons_append, tokenize, List.splitOn_cons_eq_if_modifyHead]
    by_cases hb : b = 44
    · rw [if_pos hb, if_pos (beq_iff_eq.mpr hb), ih]
      cases text.splitOn 44 <;> simp
    · rw [if_neg hb, if_neg (by simpa using hb), ih]
      cases text.splitOn 44 <;> simp

/-- **The fields of a sentence are what stands between the commas before its star.** -/
theorem fields_of_sentence {sentence : CString} {len_in n : Nat}
    (hdebug : loc_nmea_is_debug sentence.buffer len_in = true) (hstar : 42 ∈ sentence.text)
    (hchecksum : 44 ∉ sentence.text.dropWhile (· ≠ 42)) (hn : sentence.text.length < n) :
    SystemStatusNmeaBase n sentence.buffer len_in =
      some ((sentence.text.takeWhile (· ≠ 42)).splitOn 44) := by
  obtain ⟨before, sum, htext, hbefore⟩ := List.eq_append_cons_of_mem hstar
  rw [htext, dropWhile_ne_append hbefore] at hchecksum
  have hsum : 44 ∉ sum := fun h => hchecksum (by simp [h])
  -- the first star is a comma in the string that is cut
  have hset : (before ++ 42 :: sum).set before.length 44 = before ++ 44 :: sum := by simp
  have hfields : mField sentence.buffer len_in = before.splitOn 44 := by
    rw [mField, hdebug, cstr_buffer, htext, idxOf?_append_cons hbefore]
    show tokenize [] ((before ++ 42 :: sum).set before.length 44) = _
    rw [hset, tokenize_eq_splitOn hsum]
    cases before.splitOn 44 <;> simp
  rw [SystemStatusNmeaBase_eq hn, hfields, htext, takeWhile_ne_append hbefore]
  simp

theorem fields_of_PQWP1 :
    SystemStatusNmeaBase 16 (bytesOf "$PQWP1,,2,*3F".toList ++ [0]) 13 =
      some [bytesOf "$PQWP1".toList, [], [50], []] :=
  @fields_of_sentence ⟨bytesOf "$PQWP1,,2,*3F".toList, by decide, []⟩ 13 16 rfl (by decide)
    (by decide) (by decide)

end DeviceHal.Core.DebugTokens
