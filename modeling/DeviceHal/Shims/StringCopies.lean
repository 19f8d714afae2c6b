import DeviceHal.Shims.StrDup8to16

/-! # Copies that decode

The two copies of `strdup8to16.cpp` write the units of one piece after the other.
The one with a length ends only in front of the NUL, since a NUL is read but not
passed. A text that came from UTF-16, or that is proper UTF-8, is decoded
character by character. -/
namespace DeviceHal.Shims.StringCopies
open DeviceHal.Lib.Buffer DeviceHal.Lib.CText DeviceHal.Lib.Loop DeviceHal.Lib.Utf8
open DeviceHal.Shims.StrDup16to8 DeviceHal.Shims.StrDup8to16

/-! ## The rounds -/

/-- The units that a text is decoded to. -/
def unitsOf (ps : List Piece) : List UInt16 := ps.flatMap pieceUnits

@[simp] theorem unitsOf_cons (p : Piece) (ps : List Piece) :
    unitsOf (p :: ps) = pieceUnits p ++ unitsOf ps := rfl

section
variable {ps : List Piece} {p : Piece} {behind : Bytes}

theorem next_eq {rest : Bytes} (hlead : p.lead ≠ 0) (hend : p.Ends rest) (hrest : rest ≠ [])
    (cells : List UInt16) (dest : Nat) :
    Copy.next ⟨cells, dest, p.bytes ++ rest⟩ =
      (writeCells cells dest (pieceUnits p)).map fun (cells, dest) => ⟨cells, dest, rest⟩ := by
  obtain ⟨ret, hrun, hval⟩ := getUtf32FromUtf8_eq hlead hend hrest
  rw [Copy.next, hrun]
  show Copy.store _ ret = _
  rw [store_eq, hval]
  rfl

/-- What follows a piece in a text: the next pieces, and the NUL. -/
theorem ends_nul (hend : p.Ends (joined ps)) : p.Ends (joined ps ++ 0 :: behind) := by
  refine hend.imp_right fun hhead b hb => ?_
  cases hjoined : joined ps with
  | nil =>
    rw [hjoined] at hb
    exact Option.some.inj hb ▸ not_tail_zero
  | cons c rest =>
    rw [hjoined] at hb hhead
    exact hhead b hb

theorem ne_nil_nul : joined ps ++ 0 :: behind ≠ [] :=
  List.append_ne_nil_of_right_ne_nil _ (List.cons_ne_nil _ _)

/-- A copy of a text writes its units. -/
theorem rounds_copyRound (hrow : Row ps) (hnul : ∀ p ∈ ps, p.lead ≠ 0) {n : Nat}
    (hn : ps.length < n) (cells : List UInt16) (dest : Nat) :
    rounds copyRound n ⟨cells, dest, joined ps ++ 0 :: behind⟩ =
      writeCells cells dest (unitsOf ps) := by
  induction ps generalizing n cells dest with
  | nil =>
    obtain ⟨n, rfl⟩ := Nat.exists_eq_add_of_lt hn
    rfl
  | cons p ps ih =>
    obtain ⟨n, rfl⟩ : ∃ m, n = m + 1 := ⟨n - 1, by omega⟩
    have hlead : p.lead ≠ 0 := hnul p List.mem_cons_self
    have hend : p.Ends (joined ps ++ 0 :: behind) := ends_nul hrow.1
    have hnext := next_eq hlead hend ne_nil_nul cells dest
    have hround : copyRound ⟨cells, dest, joined (p :: ps) ++ 0 :: behind⟩ =
        (writeCells cells dest (pieceUnits p)).map
          fun (cells, dest) => .inl ⟨cells, dest, joined ps ++ 0 :: behind⟩ := by
      rw [joined_cons, List.append_assoc]
      show (if p.lead ≠ 0 then _ else _) = _
      rw [if_pos hlead, hnext]
      cases writeCells cells dest (pieceUnits p) <;> rfl
    rw [rounds, hround, unitsOf_cons, writeCells_append]
    cases writeCells cells dest (pieceUnits p) with
    | none => rfl
    | some written =>
      exact ih hrow.2 (fun q hq => hnul q (List.mem_cons_of_mem _ hq))
        (by rw [List.length_cons] at hn; omega) written.1 written.2

/-- The pieces that begin before `left` bytes have been read. -/
def before (left : Int) : List Piece → List Piece
  | [] => []
  | p :: ps => if 0 < left then p :: before (left - p.bytes.length) ps else []

theorem unitsOf_before (ps : List Piece) (left : Int) :
    unitsOf (before left ps) <+: unitsOf ps := by
  induction ps generalizing left with
  | nil => exact List.prefix_rfl
  | cons p ps ih =>
    rw [before]
    split
    · exact (List.prefix_append_right_inj _).mpr (ih _)
    · exact List.nil_prefix

theorem before_all (ps : List Piece) {left : Int} (hleft : (joined ps).length ≤ left) :
    before left ps = ps := by
  induction ps generalizing left with
  | nil => rfl
  | cons p ps ih =>
    rw [joined_cons, List.length_append, Piece.bytes, List.length_cons] at hleft
    rw [before, if_pos (by omega), ih (by rw [Piece.bytes, List.length_cons]; omega)]

theorem copyLenRound_piece (hlead : p.lead ≠ 0) (hend : p.Ends (joined ps)) {left : Int}
    (hpos : 0 < left) (cells : List UInt16) (dest : Nat) :
    copyLenRound (⟨cells, dest, joined (p :: ps) ++ 0 :: behind⟩, left) =
      (writeCells cells dest (pieceUnits p)).map fun (cells, dest) =>
        .inl (⟨cells, dest, joined ps ++ 0 :: behind⟩, left - p.bytes.length) := by
  have hend : p.Ends (joined ps ++ 0 :: behind) := ends_nul hend
  have hnext := next_eq hlead hend ne_nil_nul cells dest
  have hread : (((p.bytes ++ (joined ps ++ 0 :: behind)).length : Int) -
      (joined ps ++ 0 :: behind).length) = p.bytes.length := by
    rw [List.length_append]
    omega
  rw [joined_cons, List.append_assoc]
  show (if 0 < left then _ else _) = _
  rw [if_pos hpos, hnext]
  cases writeCells cells dest (pieceUnits p) with
  | none => rfl
  | some written =>
    show some (Sum.inl (_, _)) = some (Sum.inl (_, _))
    rw [hread]

/-- The copy with a length writes the units of the pieces that begin before its end. -/
theorem rounds_copyLenRound (hrow : Row ps) (hnul : ∀ p ∈ ps, p.lead ≠ 0) {left : Int}
    (hleft : left ≤ (joined ps).length) {n : Nat} (hn : ps.length < n) (cells : List UInt16)
    (dest : Nat) :
    rounds copyLenRound n (⟨cells, dest, joined ps ++ 0 :: behind⟩, left) =
      writeCells cells dest (unitsOf (before left ps)) := by
  induction ps generalizing n cells dest left with
  | nil =>
    obtain ⟨n, rfl⟩ : ∃ m, n = m + 1 := ⟨n - 1, by omega⟩
    have hround : copyLenRound (⟨cells, dest, joined [] ++ 0 :: behind⟩, left) =
        some (.inr (cells, dest)) := if_neg (not_lt.mpr hleft)
    rw [rounds, hround]
    rfl
  | cons p ps ih =>
    obtain ⟨n, rfl⟩ : ∃ m, n = m + 1 := ⟨n - 1, by omega⟩
    by_cases hpos : 0 < left
    · rw [rounds, copyLenRound_piece (hnul p List.mem_cons_self) hrow.1 hpos, before, if_pos hpos,
        unitsOf_cons, writeCells_append]
      cases writeCells cells dest (pieceUnits p) with
      | none => rfl
      | some written =>
        rw [joined_cons, List.length_append] at hleft
        exact ih hrow.2 (fun q hq => hnul q (List.mem_cons_of_mem _ hq)) (by omega)
          (by rw [List.length_cons] at hn; omega) written.1 written.2
    · have hround : copyLenRound (⟨cells, dest, joined (p :: ps) ++ 0 :: behind⟩, left) =
          some (.inr (cells, dest)) := if_neg hpos
      rw [rounds, hround, before, if_neg hpos]
      rfl

/-- At a NUL the pointer is not advanced, so that the end is not reached any more. -/
theorem rounds_stuck {left : Int} (hleft : 0 < left) (n : Nat) (cells : List UInt16) (dest : Nat) :
    rounds copyLenRound n (⟨cells, dest, 0 :: behind⟩, left) = none := by
  induction n generalizing cells dest with
  | zero => rfl
  | succ n ih =>
    have hround : copyLenRound (⟨cells, dest, 0 :: behind⟩, left) =
        (writeCells cells dest (units 0)).map fun (cells, dest) =>
          .inl (⟨cells, dest, 0 :: behind⟩, left) := by
      show (if 0 < left then (Copy.store ⟨cells, dest, 0 :: behind⟩ 0).bind _ else _) = _
      rw [if_pos hleft, store_eq]
      show ((writeCells cells dest (units 0)).map _).bind _ = _
      cases writeCells cells dest (units 0) with
      | none => rfl
      | some written =>
        show some (Sum.inl (_, _)) = some (Sum.inl (_, _))
        rw [Int.sub_self, Int.sub_zero]
    rw [rounds, hround]
    cases writeCells cells dest (units 0) with
    | none => rfl
    | some written => exact ih written.1 written.2

theorem rounds_past (hrow : Row ps) (hnul : ∀ p ∈ ps, p.lead ≠ 0) {left : Int}
    (hleft : (joined ps).length < left) (n : Nat) (cells : List UInt16) (dest : Nat) :
    rounds copyLenRound n (⟨cells, dest, joined ps ++ 0 :: behind⟩, left) = none := by
  induction ps generalizing n cells dest left with
  | nil => exact rounds_stuck hleft n cells dest
  | cons p ps ih =>
    cases n with
    | zero => rfl
    | succ n =>
      rw [joined_cons, List.length_append] at hleft
      rw [rounds, copyLenRound_piece (hnul p List.mem_cons_self) hrow.1 (by omega)]
      cases writeCells cells dest (pieceUnits p) with
      | none => rfl
      | some written =>
        exact ih hrow.2 (fun q hq => hnul q (List.mem_cons_of_mem _ hq)) (by omega) n
          written.1 written.2

end

/-! ## Texts -/

theorem length_le_joined (ps : List Piece) : ps.length ≤ (joined ps).length := by
  induction ps with
  | nil => exact Nat.le_refl 0
  | cons p ps ih =>
    rw [joined_cons, List.length_append, List.length_cons, Piece.bytes, List.length_cons]
    omega

/-- No piece of a C string begins with a NUL. -/
theorem lead_ne_zero {s : CString} {ps : List Piece} (hps : joined ps = s.text) :
    ∀ p ∈ ps, p.lead ≠ 0 := by
  intro p hp hlead
  refine s.nul_not_mem ?_
  rw [← hps]
  exact List.mem_flatMap.mpr ⟨p, hp, Piece.zero_mem_bytes_iff.mpr hlead⟩

/-- The pieces of a C string. -/
theorem exists_pieces (s : CString) :
    ∃ ps, joined ps = s.text ∧ Row ps ∧ (∀ p ∈ ps, p.lead ≠ 0) ∧ ps.length ≤ s.text.length := by
  obtain ⟨ps, hps, hrow⟩ := exists_row s.text
  exact ⟨ps, hps, hrow, lead_ne_zero hps, hps ▸ length_le_joined ps⟩

theorem length_unitsOf_le (ps : List Piece) : (unitsOf ps).length ≤ weights ps ∧
    ((unitsOf ps).length = weights ps ↔
      ∀ p ∈ ps, asks p.lead = 3 → 0x10000 ≤ decoded p ∧ decoded p ≤ 0x10fffd) := by
  induction ps with
  | nil => exact ⟨Nat.le_refl 0, by simp [unitsOf, weights]⟩
  | cons p ps ih =>
    obtain ⟨hle, hiff⟩ := length_pieceUnits p
    rw [unitsOf_cons, List.length_append, weights, List.forall_mem_cons, ← hiff, ← ih.2]
    exact ⟨Nat.add_le_add hle ih.1, by omega⟩

theorem weights_le (ps : List Piece) : weights ps ≤ 2 * ps.length := by
  induction ps with
  | nil => exact Nat.le_refl 0
  | cons p ps ih =>
    have hle : weight p ≤ 2 := by
      unfold weight
      split <;> decide
    rw [weights, List.length_cons]
    omega

theorem length_pieceUnits_pos (p : Piece) : 0 < (pieceUnits p).length := by
  unfold pieceUnits stored units
  split_ifs <;> exact Nat.zero_lt_succ _

/-- The cells after units have been written from their start on. -/
def filled (us cells : List UInt16) : List UInt16 × Nat := (us ++ cells.drop us.length, us.length)

theorem writeCells_start {us cells : List UInt16} (h : us.length ≤ cells.length) :
    writeCells cells 0 us = some (filled us cells) := by
  rw [writeCells_eq (by omega), Nat.zero_add]
  rfl

section
variable {ps : List Piece} {behind : Bytes}

theorem strlen8to16_eq (hrow : Row ps) (hnul : ∀ p ∈ ps, p.lead ≠ 0) (hcount : strays ps ≤ 2 ^ 31) :
    strlen8to16 (joined ps ++ 0 :: behind) = some (weights ps) := by
  have hmin : INT_MIN + strays ps ≤ 0 := by
    rw [INT_MIN]
    omega
  rw [strlen8to16, countUnits_row hrow hnul hcount (.inl (Int.le_refl 0)) hmin, Nat.zero_add]

theorem strcpy8to16_eq (hrow : Row ps) (hnul : ∀ p ∈ ps, p.lead ≠ 0) {n : Nat} (hn : ps.length < n)
    (cells : List UInt16) :
    strcpy8to16 n cells (joined ps ++ 0 :: behind) = writeCells cells 0 (unitsOf ps) :=
  rounds_copyRound hrow hnul hn cells 0

/-- The duplicate of a text that is short enough to be counted. -/
theorem strdup8to16_eq (hrow : Row ps) (hnul : ∀ p ∈ ps, p.lead ≠ 0) (hcount : strays ps ≤ 2 ^ 31)
    (hfits : 2 * weights ps ≤ SIZE_MAX) {n : Nat} (hn : ps.length < n) (malloc : Malloc UInt16) :
    strdup8to16 n malloc (some (joined ps ++ 0 :: behind)) =
      (writeCells ((malloc.call (weights ps)).getD []) 0 (unitsOf ps)).map some := by
  have hdiv : ¬ (weights ps ≠ 0 ∧ SIZE_MAX / weights ps < 2) := by
    rintro ⟨hpos, hlt⟩
    have hle : 2 ≤ SIZE_MAX / weights ps :=
      (Nat.le_div_iff_mul_le (Nat.pos_of_ne_zero hpos)).mpr hfits
    omega
  rw [strdup8to16, strlen8to16_eq hrow hnul hcount]
  show (if _ then _ else _) = _
  rw [if_neg hdiv, strcpy8to16_eq hrow hnul hn]

end

/-- **The duplicate stays in its block.** `strlen8to16` never counts fewer units than
`strcpy8to16` writes, so that the copy stays in the block; it counts just as many if each byte that
asks for three more begins a character beyond `0xffff` that is in range. Without memory the write
of the first unit is a fault, since `NULL` is not looked for. -/
theorem strdup8to16_in_bounds (s : CString) (hlen : s.text.length ≤ 2 ^ 31) :
    ∃ ps, joined ps = s.text ∧ Row ps ∧ strlen8to16 s.buffer = some (weights ps) ∧
      (unitsOf ps).length ≤ weights ps ∧
      ((unitsOf ps).length = weights ps ↔
        ∀ p ∈ ps, asks p.lead = 3 → 0x10000 ≤ decoded p ∧ decoded p ≤ 0x10fffd) ∧
      ∀ (malloc : Malloc UInt16) (n : Nat), s.text.length < n →
        strdup8to16 n malloc (some s.buffer) =
          match malloc.call (weights ps) with
          | some cells => some (some (filled (unitsOf ps) cells))
          | none => if s.text = [] then some (some ([], 0)) else none := by
  obtain ⟨ps, hps, hrow, hnul, hle⟩ := exists_pieces s
  have hstrays : strays ps ≤ 2 ^ 31 := List.countP_le_length.trans (hle.trans hlen)
  have hweights := weights_le ps
  have hmax : 2 ^ 34 ≤ SIZE_MAX := by decide
  obtain ⟨hbound, hexact⟩ := length_unitsOf_le ps
  have hbuffer : s.buffer = joined ps ++ 0 :: s.behind := by rw [hps]; rfl
  refine ⟨ps, hps, hrow, hbuffer ▸ strlen8to16_eq hrow hnul hstrays, hbound, hexact, ?_⟩
  intro malloc n hn
  rw [hbuffer, strdup8to16_eq hrow hnul hstrays (by omega) (by omega)]
  cases hcall : malloc.call (weights ps) with
  | some cells =>
    have hroom : (unitsOf ps).length ≤ cells.length := malloc.length_eq hcall ▸ hbound
    dsimp only [Option.getD_some]
    rw [writeCells_start hroom]
    rfl
  | none =>
    dsimp only [Option.getD_none]
    cases ps with
    | nil =>
      rw [if_pos (show s.text = [] from hps.symm)]
      rfl
    | cons p ps =>
      have hpos := length_pieceUnits_pos p
      have hfault : writeCells [] 0 (unitsOf (p :: ps)) = none := by
        refine writeCells_eq_none (Nat.zero_le _) ?_
        rw [unitsOf_cons, List.length_append, List.length_nil]
        omega
      have htext : s.text ≠ [] := by
        rw [← hps]
        exact List.cons_ne_nil _ _
      rw [hfault, if_neg htext]
      rfl

/-- The witness is a text of three bytes, `C2 A3` and a stray `BF`. -/
theorem strdup8to16_in_bounds_stray :
    ∃ ps, joined ps = [0xc2, 0xa3, 0xbf] ∧ Row ps ∧
      strlen8to16 [0xc2, 0xa3, 0xbf, 0] = some (weights ps) :=
  have h := strdup8to16_in_bounds ⟨[0xc2, 0xa3, 0xbf], by decide, []⟩ (by decide)
  h.imp fun _ hps => ⟨hps.1, hps.2.1, hps.2.2.1⟩

/-- **The copy with a length.** It ends if and only if the length does not go beyond the NUL. Then
it writes units of the text from its start on, and all of them if the length is that of the text;
otherwise it comes to the NUL and stays there. -/
theorem strcpylen8to16_ends_iff (s : CString) (utf16Str : List UInt16) (ps : List Piece)
    (hps : joined ps = s.text) (hrow : Row ps) (hroom : (unitsOf ps).length ≤ utf16Str.length)
    (length : Int) :
    ((∃ n result, strcpylen8to16 n utf16Str s.buffer length = some result) ↔
      length ≤ s.text.length) ∧
    ∀ n, s.text.length < n → length ≤ s.text.length → ∃ all done, done <+: all ∧
      strcpy8to16 n utf16Str s.buffer = some (filled all utf16Str) ∧
      strcpylen8to16 n utf16Str s.buffer length = some (filled done utf16Str) ∧
      (length = s.text.length → done = all) := by
  have hnul := lead_ne_zero hps
  have hle := length_le_joined ps
  have hbuffer : s.buffer = joined ps ++ 0 :: s.behind := by rw [hps]; rfl
  rw [← hps]
  have hends : ∀ n, (joined ps).length < n → length ≤ (joined ps).length →
      ∃ all done, done <+: all ∧
      strcpy8to16 n utf16Str s.buffer = some (filled all utf16Str) ∧
      strcpylen8to16 n utf16Str s.buffer length = some (filled done utf16Str) ∧
      (length = (joined ps).length → done = all) := by
    intro n hn hlength
    have hpre := unitsOf_before ps length
    refine ⟨unitsOf ps, unitsOf (before length ps), hpre, ?_, ?_, ?_⟩
    · rw [hbuffer, strcpy8to16_eq hrow hnul (by omega), writeCells_start (by omega)]
    · rw [hbuffer, strcpylen8to16, rounds_copyLenRound hrow hnul hlength (by omega),
        writeCells_start (hpre.length_le.trans (by omega))]
    · intro heq
      rw [before_all ps heq.ge]
  refine ⟨⟨?_, fun hlength => ?_⟩, hends⟩
  · rintro ⟨n, result, hrun⟩
    by_contra hlong
    rw [hbuffer, strcpylen8to16, rounds_past hrow hnul (not_le.mp hlong)] at hrun
    cases hrun
  · obtain ⟨all, done, -, -, hrun, -⟩ := hends _ (Nat.lt_succ_self _) hlength
    exact ⟨_, _, hrun⟩

/-- A character of three bytes. -/
def threeBytes : CString where
  text := [0xe2, 0x82, 0xac]
  nul_not_mem := by decide
  behind := []

/-- A block of one cell has room for it. -/
theorem strcpylen8to16_ends_early :
    (∃ n result, strcpylen8to16 n [0] threeBytes.buffer 3 = some result) ↔ (3 : Int) ≤ 3 :=
  (strcpylen8to16_ends_iff threeBytes [0] [⟨0xe2, [0x82, 0xac], by simp [Tail], by decide⟩] rfl
    ⟨.inl rfl, trivial⟩ (by decide) 3).1

/-! ## Texts of sequences -/

theorem unitsOf_whole {ps : List Piece} (hwhole : ∀ p ∈ ps, p.Whole) :
    unitsOf ps = ps.flatMap fun p => stored p.code := by
  refine List.flatMap_congr fun p hp => ?_
  rw [pieceUnits, decoded, if_pos (hwhole p hp)]

theorem strays_whole {ps : List Piece} (hwhole : ∀ p ∈ ps, p.Whole) : strays ps = 0 :=
  List.countP_eq_zero.mpr fun p hp htail => (hwhole p hp).1 (of_decide_eq_true htail)

theorem toNat_ofNat (u : UInt16) : stored u.toNat = [u] := by
  have hlt := u.toNat_lt
  rw [stored, if_pos (by omega), units, if_pos (by omega), UInt16.ofNat_toNat]

theorem sequence_whole (u : UInt16) : (unitSequence u).Whole := Piece.whole_ofCode _ _

/-- The text of UTF-16 units is decoded to the units. -/
theorem unitsOf_sequences (u : List UInt16) : unitsOf (u.map unitSequence) = u := by
  rw [unitsOf_whole fun p hp => by
    obtain ⟨v, -, rfl⟩ := List.mem_map.mp hp
    exact sequence_whole v]
  induction u with
  | nil => rfl
  | cons v u ih =>
    rw [List.map_cons, List.flatMap_cons, ih, unitSequence, Piece.code_ofCode, toNat_ofNat]
    rfl

theorem weights_sequences (u : List UInt16) : weights (u.map unitSequence) = u.length := by
  induction u with
  | nil => rfl
  | cons v u ih =>
    have hasks : asks (unitSequence v).lead ≤ 2 := by
      rw [← (sequence_whole v).2]
      show (digits (tailCount v) v.toNat).length ≤ 2
      rw [length_digits, tailCount]
      split_ifs <;> decide
    rw [List.map_cons, weights, weight, if_neg (by omega), ih, List.length_cons, Nat.add_comm]

/-- **The round trip.** What `strndup16to8` makes of any units, surrogates without a partner and
zeros among them, `strdup8to16` takes back to these units. -/
theorem strdup_round_trip (malloc8 : Malloc UInt8) (malloc16 : Malloc UInt16) (u : List UInt16)
    (block : Bytes) (hfits : 2 * u.length ≤ SIZE_MAX)
    (hblock : strndup16to8 malloc8 (some u) = some (some block))
    (hcells : (malloc16.call u.length).isSome) (n : Nat) (hn : block.length ≤ n) :
    strdup8to16 n malloc16 (some block) = some (some (u, u.length)) := by
  obtain ⟨cells, hcall⟩ := Option.isSome_iff_exists.mp hcells
  obtain rfl : block = encoded u ++ [0] := strndup16to8_text hblock
  have hwhole : ∀ p ∈ u.map unitSequence, p.Whole := fun p hp => by
    obtain ⟨v, -, rfl⟩ := List.mem_map.mp hp
    exact sequence_whole v
  have hnul : ∀ p ∈ u.map unitSequence, p.lead ≠ 0 := fun p hp hlead => by
    obtain ⟨v, -, rfl⟩ := List.mem_map.mp hp
    exact zero_not_mem_sequence v (Piece.zero_mem_bytes_iff.mpr hlead)
  have hweights := weights_sequences u
  have hlength := length_le_joined (u.map unitSequence)
  rw [List.length_append, List.length_singleton, encoded] at hn
  rw [encoded, strdup8to16_eq (row_of_whole hwhole) hnul (by rw [strays_whole hwhole]; decide)
    (by omega) (by omega), hweights, hcall, unitsOf_sequences]
  have hlen := malloc16.length_eq hcall
  show (writeCells cells 0 u).map some = _
  rw [writeCells_start hlen.ge, filled, List.drop_eq_nil_of_le hlen.le, List.append_nil]
  rfl

theorem strdup_round_trip_lone_surrogate : ∃ malloc : Malloc UInt16,
    strdup8to16 6 malloc (some [0xed, 0xa0, 0x80, 0xc0, 0x80, 0]) =
      some (some ([0xd800, 0], 2)) :=
  ⟨⟨fun n => some (List.replicate n 0), fun h => by
      rw [← Option.some.inj h, List.length_replicate]⟩,
    strdup_round_trip ⟨fun n => some (List.replicate n 0), fun h => by
      rw [← Option.some.inj h, List.length_replicate]⟩ _ [0xd800, 0] _ (by decide)
      (by decide +kernel) rfl 6 (by decide)⟩

theorem exists_pieces_of_chars (cs : List Char) :
    ∃ ps : List Piece, (∀ p ∈ ps, p.Whole) ∧ joined ps = cs.flatMap String.utf8EncodeChar ∧
      ps.map Piece.code = cs.map Char.toNat ∧
      ∀ p ∈ ps, asks p.lead = 3 ↔ 0x10000 ≤ p.code := by
  induction cs with
  | nil => exact ⟨[], by simp, rfl, rfl, by simp⟩
  | cons c cs ih =>
    obtain ⟨p, hp, hbytes, hcode, hlong⟩ := exists_piece_of_char c
    obtain ⟨ps, hps, hjoined, hcodes, hall⟩ := ih
    refine ⟨p :: ps, List.forall_mem_cons.mpr ⟨hp, hps⟩, ?_, ?_,
      List.forall_mem_cons.mpr ⟨hcode ▸ hlong, hall⟩⟩
    · rw [joined_cons, hbytes, hjoined, List.flatMap_cons]
    · rw [List.map_cons, List.map_cons, hcode, hcodes]
      rfl

/-- A text whose long sequences are for the characters that need them counts as in UTF-16. -/
theorem weights_codes {ps : List Piece} (hlong : ∀ p ∈ ps, asks p.lead = 3 ↔ 0x10000 ≤ p.code) :
    weights ps = ((ps.map Piece.code).flatMap units).length := by
  induction ps with
  | nil => rfl
  | cons p ps ih =>
    obtain ⟨hp, hps⟩ := List.forall_mem_cons.mp hlong
    have hunits : weight p = (units p.code).length := by
      rw [weight, if_congr hp rfl rfl, units]
      split_ifs <;> first | rfl | omega
    rw [weights, hunits, ih hps, List.map_cons, List.flatMap_cons, List.length_append]

/-- **Proper UTF-8.** The encoding of any characters but NUL, with anything behind it, is counted
as their units in UTF-16 and decoded to these units, but for the two characters beyond the limit
that the source takes for the last one: they count twice and are replaced. -/
theorem strcpy8to16_utf8 (cs : List Char) (hnul : '\x00' ∉ cs) (behind : Bytes)
    (cells : List UInt16) (hroom : (cs.flatMap fun c => units c.toNat).length ≤ cells.length)
    (n : Nat) (hn : cs.length < n) :
    strlen8to16 (cs.flatMap String.utf8EncodeChar ++ 0 :: behind) =
      some (cs.flatMap fun c => units c.toNat).length ∧
    strcpy8to16 n cells (cs.flatMap String.utf8EncodeChar ++ 0 :: behind) =
      some (filled (cs.flatMap fun c => units (if c.toNat ≤ 0x10fffd then c.toNat else 0xfffd))
        cells) := by
  obtain ⟨ps, hwhole, hjoined, hcodes, hlong⟩ := exists_pieces_of_chars cs
  have hlength : ps.length = cs.length := by
    rw [← List.length_map (f := Piece.code), hcodes, List.length_map]
  have hlead : ∀ p ∈ ps, p.lead ≠ 0 := by
    intro p hp hzero
    have htails : p.tails = [] := by
      rw [← List.length_eq_zero_iff, (hwhole p hp).2, hzero]
      rfl
    have hcode : p.code = 0 := by
      rw [Piece.code, htails, hzero]
      rfl
    obtain ⟨c, hc, hcval⟩ := List.mem_map.mp (hcodes ▸ List.mem_map_of_mem hp)
    rw [hcode] at hcval
    obtain rfl : c = '\x00' := Char.toNat_inj.mp hcval
    exact hnul hc
  have hunits : unitsOf ps =
      cs.flatMap fun c => units (if c.toNat ≤ 0x10fffd then c.toNat else 0xfffd) := by
    rw [unitsOf_whole hwhole, ← List.flatMap_map Piece.code, hcodes, List.flatMap_map]
    refine List.flatMap_congr fun c _ => ?_
    rw [stored]
    split <;> rfl
  have hweights : weights ps = (cs.flatMap fun c => units c.toNat).length := by
    rw [weights_codes hlong, hcodes, List.flatMap_map]
  have hbound := (length_unitsOf_le ps).1
  have hrow := row_of_whole hwhole
  rw [← hjoined, ← hunits, ← hweights]
  rw [← hweights] at hroom
  refine ⟨strlen8to16_eq hrow hlead (by rw [strays_whole hwhole]; decide), ?_⟩
  rw [strcpy8to16_eq hrow hlead (by omega), writeCells_start (by omega)]

/-- A letter, and a character beyond the limit: three units are counted and two are written. -/
theorem strcpy8to16_utf8_limit :
    strlen8to16 [97, 0xf4, 0x8f, 0xbf, 0xbf, 0] = some 3 ∧
    strcpy8to16 3 [0, 0, 0] [97, 0xf4, 0x8f, 0xbf, 0xbf, 0] = some ([97, 0xfffd, 0], 2) :=
  strcpy8to16_utf8 ['a', Char.ofNat 0x10ffff] (by decide) [] [0, 0, 0] (by decide) 3 (by decide)

end DeviceHal.Shims.StringCopies
