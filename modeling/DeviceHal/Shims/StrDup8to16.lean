import DeviceHal.Lib.Loop
import DeviceHal.Shims.StrDup16to8

/-! # UTF-8 to UTF-16

`strdup8to16.cpp`: `strlen8to16` counts units with a few bits of state, and
`strcpy8to16` decodes the text and writes them. A text is cut into pieces here;
what either function makes of a piece decides what it makes of a text. -/
namespace DeviceHal.Shims.StrDup8to16
open DeviceHal.Lib.Buffer DeviceHal.Lib.CText DeviceHal.Lib.Loop DeviceHal.Lib.Utf8
open DeviceHal.Shims.StrDup16to8

/-! ## The functions -/

def UTF16_REPLACEMENT_CHAR : UInt32 := 0xfffd

def UNICODE_UPPER_LIMIT : UInt32 := 0x10fffd

/-- Four bits of the byte are used, and the sign of a `char` is none of them. -/
def UTF8_SEQ_LENGTH (ch : UInt8) : UInt32 :=
  (((0xe5000000 : UInt32) >>> ((ch.toUInt32 >>> 3) &&& 0x1e)) &&& 3) + 1

def UTF8_SHIFT_AND_MASK (unicode : UInt32) (byte : UInt8) : UInt32 :=
  (unicode <<< 6) ||| (0x3f &&& byte.toUInt32)

def INT_MIN : Int := -2147483648

/-- A byte that starts `10`. -/
def extension (ic : UInt8) : Bool := ic &&& 0xc0 == 0x80

/-- A byte read by `strlen8to16`; `none` is an overflow of `expected`. -/
def countByte (len : Nat) (expected : Int) (ic : UInt8) : Option (Nat × Int) :=
  if extension ic then
    let expected := expected - 1
    if expected < INT_MIN then none
    else some (if expected < 0 then len + 1 else len, expected)
  else
    let expected : Int := (UTF8_SEQ_LENGTH ic).toNat - 1
    some (if expected = 3 then len + 2 else len + 1, expected)

/-- The loop of `strlen8to16`; memory without a NUL is read beyond its end. -/
def countUnits : Bytes → Nat → Int → Option Nat
  | [], _, _ => none
  | ic :: utf8Str, len, expected =>
    if ic = 0 then some len
    else (countByte len expected ic).bind fun (len, expected) => countUnits utf8Str len expected

def strlen8to16 (utf8Str : Bytes) : Option Nat := countUnits utf8Str 0 0

/-- The mask of the leader byte for lengths 1, 2, 3 and 4. -/
def leaderMask : List UInt32 := [0xff, 0x1f, 0x0f, 0x07]

/-- The loop of `getUtf32FromUtf8`, with so many rounds to go. -/
def takeExtensions : Nat → UInt32 → Bytes → Option (UInt32 × Bytes)
  | 0, ret, utf8Ptr => some (ret, utf8Ptr)
  | _ + 1, _, [] => none
  | i + 1, ret, byte :: utf8Ptr =>
    if byte = 0 then some (UTF16_REPLACEMENT_CHAR, byte :: utf8Ptr)
    else if extension byte then takeExtensions i (UTF8_SHIFT_AND_MASK ret byte) utf8Ptr
    else some (UTF16_REPLACEMENT_CHAR, byte :: utf8Ptr)

/-- The next character, and where the pointer is left. -/
def getUtf32FromUtf8 : Bytes → Option (UInt32 × Bytes)
  | [] => none
  | ch :: utf8Ptr =>
    if extension ch then some (UTF16_REPLACEMENT_CHAR, utf8Ptr)
    else do
      let seq_len := (UTF8_SEQ_LENGTH ch).toNat
      let mask ← leaderMask[seq_len - 1]?
      let ret := ch.toUInt32 &&& mask
      if ch = 0 then some (ret, ch :: utf8Ptr) else takeExtensions (seq_len - 1) ret utf8Ptr

/-- A copy in progress: the cells from `utf16Str` on, where `dest` is in them, and what stands
at `utf8Str`. -/
structure Copy where
  cells : List UInt16
  dest : Nat
  utf8Str : Bytes

/-- `*dest++ = unit`. -/
def Copy.put (c : Copy) (unit : UInt32) : Option Copy := do
  let cells ← writeCell c.cells c.dest unit.toUInt16
  some { c with cells, dest := c.dest + 1 }

/-- What both copies do with a character. -/
def Copy.store (c : Copy) (ret : UInt32) : Option Copy :=
  if ret ≤ 0xffff then c.put ret
  else if ret ≤ UNICODE_UPPER_LIMIT then do
    let c ← c.put ((0xd800 : UInt32) ||| ((ret - 0x10000) >>> 10))
    c.put ((0xdc00 : UInt32) ||| ((ret - 0x10000) &&& 0x3ff))
  else c.put UTF16_REPLACEMENT_CHAR

/-- One character. -/
def Copy.next (c : Copy) : Option Copy := do
  let (ret, utf8Str) ← getUtf32FromUtf8 c.utf8Str
  { c with utf8Str }.store ret

def copyRound (c : Copy) : Option (Copy ⊕ (List UInt16 × Nat)) := do
  let byte ← c.utf8Str.head?
  if byte ≠ 0 then
    let c ← c.next
    some (.inl c)
  else some (.inr (c.cells, c.dest))

/-- The cells and `*out_len`, if the loop ends within `n` rounds. -/
def strcpy8to16 (n : Nat) (utf16Str : List UInt16) (utf8Str : Bytes) :
    Option (List UInt16 × Nat) :=
  rounds copyRound n ⟨utf16Str, 0, utf8Str⟩

/-- The round of `strcpylen8to16`; beside the copy it has the distance to `end`. -/
def copyLenRound (s : Copy × Int) : Option ((Copy × Int) ⊕ (List UInt16 × Nat)) := do
  let (c, left) := s
  if 0 < left then
    let c' ← c.next
    some (.inl (c', left - (c.utf8Str.length - c'.utf8Str.length)))
  else some (.inr (c.cells, c.dest))

def strcpylen8to16 (n : Nat) (utf16Str : List UInt16) (utf8Str : Bytes) (length : Int) :
    Option (List UInt16 × Nat) :=
  rounds copyLenRound n (⟨utf16Str, 0, utf8Str⟩, length)

/-- `NULL` for an overflow. A failed `malloc` is not looked at: then there is no cell to write. -/
def strdup8to16 (n : Nat) (malloc : Malloc UInt16) (s : Option Bytes) :
    Option (Option (List UInt16 × Nat)) :=
  match s with
  | none => some none
  | some s => do
    let len ← strlen8to16 s
    if len ≠ 0 ∧ SIZE_MAX / len < 2 then some none
    else (strcpy8to16 n ((malloc.call len).getD []) s).map some

/-! ## Bytes -/

theorem extension_iff (b : UInt8) : extension b = true ↔ Tail b := by
  induction b using forall_byte with
  | h n => revert n; decide +kernel

theorem toNat_seq_length (b : UInt8) : (UTF8_SEQ_LENGTH b).toNat = asks b + 1 := by
  induction b using forall_byte with
  | h n => revert n; decide +kernel

theorem leaderMask_payload (b : UInt8) :
    (leaderMask[asks b]?).map (fun mask => (b.toUInt32 &&& mask).toNat) = some (payload b) := by
  induction b using forall_byte with
  | h n => revert n; decide +kernel

theorem toNat_shift_and_mask {unicode : UInt32} (h : unicode.toNat < 2 ^ 26) (byte : UInt8) :
    (UTF8_SHIFT_AND_MASK unicode byte).toNat = 64 * unicode.toNat + byte.toNat % 64 := by
  have hlow : (0x3f &&& byte.toUInt32).toNat = byte.toNat % 64 := by
    rw [UInt32.and_comm, toNat_low, UInt8.toNat_toUInt32]
  have hhigh : (unicode <<< 6).toNat = 2 ^ 6 * unicode.toNat := by
    rw [UInt32.toNat_shiftLeft]
    show unicode.toNat <<< 6 % 2 ^ 32 = _
    rw [Nat.shiftLeft_eq, Nat.mod_eq_of_lt (by omega), Nat.mul_comm]
  rw [UTF8_SHIFT_AND_MASK, UInt32.toNat_or, hlow, hhigh,
    ← Nat.two_pow_add_eq_or_of_lt (Nat.mod_lt _ (by decide))]

/-! ## One piece -/

/-- The character that a piece is taken for. -/
def decoded (p : Piece) : Nat := if p.Whole then p.code else 0xfffd

/-- The units of a character, or of the replacement for one that is out of range. -/
def stored (v : Nat) : List UInt16 := if v ≤ 0x10fffd then units v else units 0xfffd

def pieceUnits (p : Piece) : List UInt16 := stored (decoded p)

theorem takeExtensions_eq {tails rest : Bytes} {i n : Nat} {ret : UInt32}
    (hall : ∀ b ∈ tails, Tail b) (hle : tails.length ≤ i) (hret : ret.toNat < 2 ^ n)
    (hn : n + 6 * tails.length ≤ 32) (hrest : rest ≠ [])
    (hend : tails.length = i ∨ ∀ b ∈ rest.head?, ¬ Tail b) :
    ∃ ret', takeExtensions i ret (tails ++ rest) = some (ret', rest) ∧
      ret'.toNat = if tails.length = i then continued ret.toNat tails else 0xfffd := by
  induction tails generalizing i n ret with
  | nil =>
    cases i with
    | zero => exact ⟨ret, rfl, rfl⟩
    | succ i =>
      obtain ⟨b, rest, rfl⟩ := List.exists_cons_of_ne_nil hrest
      have hb : ¬ Tail b := hend.elim (fun h => absurd h (Nat.succ_ne_zero i).symm) (· b rfl)
      refine ⟨UTF16_REPLACEMENT_CHAR, ?_, rfl⟩
      rw [List.nil_append, takeExtensions]
      split
      · rfl
      · rw [if_neg (mt (extension_iff b).mp hb)]
  | cons b tails ih =>
    rw [List.length_cons] at hle hn hend ⊢
    cases i with
    | zero => omega
    | succ i =>
      have hb : Tail b := hall b List.mem_cons_self
      have hb0 : ¬ b = 0 := fun h => not_tail_zero (h ▸ hb)
      have hnext : (UTF8_SHIFT_AND_MASK ret b).toNat = 64 * ret.toNat + b.toNat % 64 :=
        toNat_shift_and_mask (hret.trans_le (Nat.pow_le_pow_right (by decide) (by omega))) b
      have hlt : (UTF8_SHIFT_AND_MASK ret b).toNat < 2 ^ (n + 6) := by
        rw [hnext, pow_add]
        omega
      obtain ⟨ret', hrun, hval⟩ := ih (fun c hc => hall c (List.mem_cons_of_mem _ hc))
        (Nat.le_of_succ_le_succ hle) hlt (by omega) (by simpa using hend)
      refine ⟨ret', ?_, ?_⟩
      · rw [List.cons_append, takeExtensions, if_neg hb0, if_pos ((extension_iff b).mpr hb), hrun]
      · rw [hval, hnext]
        simp only [Nat.succ_inj, continued, List.foldl_cons]

/-- A piece is taken for its character, and the pointer is left behind it. -/
theorem getUtf32FromUtf8_eq {p : Piece} {rest : Bytes} (hlead : p.lead ≠ 0) (hend : p.Ends rest)
    (hrest : rest ≠ []) :
    ∃ ret, getUtf32FromUtf8 (p.bytes ++ rest) = some (ret, rest) ∧ ret.toNat = decoded p := by
  by_cases htail : Tail p.lead
  · have hnil : p.tails = [] :=
      List.length_eq_zero_iff.mp (Nat.le_zero.mp (asks_eq_zero htail ▸ p.length_le))
    refine ⟨UTF16_REPLACEMENT_CHAR, ?_, ?_⟩
    · rw [Piece.bytes, hnil, List.cons_append, getUtf32FromUtf8,
        if_pos ((extension_iff _).mpr htail)]
      rfl
    · rw [decoded, if_neg (fun h => h.1 htail)]
      rfl
  · obtain ⟨mask, hmask, hpayload⟩ := Option.map_eq_some_iff.mp (leaderMask_payload p.lead)
    have hasks := asks_le p.lead
    have hle := p.length_le
    obtain ⟨ret, hrun, hval⟩ := takeExtensions_eq (n := 8) p.all_tails p.length_le
      (hpayload ▸ payload_lt p.lead) (by omega) hrest hend
    refine ⟨ret, ?_, ?_⟩
    · rw [Piece.bytes, List.cons_append, getUtf32FromUtf8,
        if_neg (mt (extension_iff _).mp htail)]
      simp only [toNat_seq_length, Nat.add_sub_cancel, hmask, Option.bind_eq_bind,
        Option.bind_some, if_neg hlead, hrun]
    · rw [hval, hpayload, decoded]
      exact if_congr ⟨fun h => ⟨htail, h⟩, fun h => h.2⟩ rfl rfl

/-! ## Writing a character -/

theorem put_eq (c : Copy) (unit : UInt32) : c.put unit =
    (writeCells c.cells c.dest [unit.toUInt16]).map
      fun (cells, dest) => { c with cells, dest } := by
  rw [Copy.put, writeCells]
  cases writeCell c.cells c.dest unit.toUInt16 <;> rfl

theorem put_put_eq (c : Copy) (a b : UInt32) : ((c.put a).bind fun c => c.put b) =
    (writeCells c.cells c.dest [a.toUInt16, b.toUInt16]).map
      fun (cells, dest) => { c with cells, dest } := by
  rw [put_eq, show [a.toUInt16, b.toUInt16] = [a.toUInt16] ++ [b.toUInt16] from rfl,
    writeCells_append]
  cases writeCells c.cells c.dest [a.toUInt16] with
  | none => rfl
  | some written => exact put_eq _ b

theorem toUInt16_or {x m : UInt32} {k v : Nat} (hm : m.toNat = 2 ^ 10 * k) (hx : x.toNat = v)
    (hv : v < 2 ^ 10) : (m ||| x).toUInt16 = UInt16.ofNat (m.toNat + v) := by
  rw [hm, ← or_marker hv, ← hm, ← hx, Nat.or_comm, ← UInt32.toNat_or]
  rfl

theorem store_eq (c : Copy) (ret : UInt32) :
    c.store ret = (writeCells c.cells c.dest (stored ret.toNat)).map
      fun (cells, dest) => { c with cells, dest } := by
  have hbmp : ret ≤ 0xffff ↔ ret.toNat < 0x10000 := by
    rw [UInt32.le_iff_toNat_le]
    exact Nat.lt_succ_iff.symm
  have hlimit : ret ≤ UNICODE_UPPER_LIMIT ↔ ret.toNat ≤ 0x10fffd := UInt32.le_iff_toNat_le
  rw [Copy.store, if_congr hbmp rfl rfl, if_congr hlimit rfl rfl, stored]
  by_cases h : ret.toNat < 0x10000
  · rw [if_pos h, if_pos (by omega), units, if_pos h, put_eq]
    rfl
  · rw [if_neg h]
    by_cases hle : ret.toNat ≤ 0x10fffd
    · have hsub : (ret - 0x10000).toNat = ret.toNat - 0x10000 :=
        UInt32.toNat_sub_of_le _ _ (UInt32.le_iff_toNat_le.mpr (Nat.not_lt.mp h))
      have hhigh : ((0xd800 : UInt32) ||| ((ret - 0x10000) >>> 10)).toUInt16 =
          UInt16.ofNat (0xd800 + (ret.toNat - 0x10000) / 0x400) := by
        refine toUInt16_or (m := 0xd800) (k := 54) rfl ?_ (by omega)
        rw [← hsub]
        exact Nat.shiftRight_eq_div_pow _ 10
      have hlow : ((0xdc00 : UInt32) ||| ((ret - 0x10000) &&& 0x3ff)).toUInt16 =
          UInt16.ofNat (0xdc00 + (ret.toNat - 0x10000) % 0x400) := by
        refine toUInt16_or (m := 0xdc00) (k := 55) rfl ?_ (Nat.mod_lt _ (by decide))
        rw [← hsub, UInt32.toNat_and]
        exact Nat.and_two_pow_sub_one_eq_mod _ 10
      rw [if_pos hle, if_pos hle, units, if_neg h, ← hhigh, ← hlow]
      exact put_put_eq c _ _
    · rw [if_neg hle, if_neg hle, put_eq]
      rfl

/-- A character beyond `0xffff` comes from a sequence of four bytes. -/
theorem code_lt {p : Piece} (h : asks p.lead ≤ 2) : p.code < 0x10000 := by
  have hle := p.length_le
  have hlead := p.lead.toNat_lt
  have hbits : payload p.lead < 2 ^ (if asks p.lead = 0 then 8 else 6 - asks p.lead) := by
    unfold payload
    split
    · exact hlead
    · exact Nat.mod_lt _ (Nat.two_pow_pos _)
  refine (continued_lt p.tails hbits).trans_le ?_
  rw [show 0x10000 = 2 ^ 16 from rfl]
  refine Nat.pow_le_pow_right (by decide) ?_
  split <;> omega

theorem decoded_lt {p : Piece} (h : asks p.lead ≤ 2) : decoded p < 0x10000 := by
  unfold decoded
  split
  · exact code_lt h
  · decide

/-! ## Counting -/

/-- What `strlen8to16` counts for a piece. -/
def weight (p : Piece) : Nat := if asks p.lead = 3 then 2 else 1

def weights : List Piece → Nat
  | [] => 0
  | p :: ps => weight p + weights ps

/-- The units of a piece are not more than what is counted for it. They are as many, unless a byte
asks for three more and does not get a character beyond `0xffff`, and in range, with them. -/
theorem length_pieceUnits (p : Piece) : (pieceUnits p).length ≤ weight p ∧
    ((pieceUnits p).length = weight p ↔
      (asks p.lead = 3 → 0x10000 ≤ decoded p ∧ decoded p ≤ 0x10fffd)) := by
  have hone : (pieceUnits p).length =
      if 0x10000 ≤ decoded p ∧ decoded p ≤ 0x10fffd then 2 else 1 := by
    unfold pieceUnits stored units
    split_ifs <;> first | rfl | omega
  have hlt := @decoded_lt p
  have hasks := asks_le p.lead
  rw [hone, weight]
  split_ifs <;> omega

theorem countUnits_cons {b : UInt8} {len len' : Nat} {expected expected' : Int} (hb0 : b ≠ 0)
    (h : countByte len expected b = some (len', expected')) (rest : Bytes) :
    countUnits (b :: rest) len expected = countUnits rest len' expected' := by
  rw [countUnits, if_neg hb0, h]
  rfl

theorem countByte_tail {b : UInt8} (hb : Tail b) (len : Nat) {expected : Int}
    (hmin : INT_MIN < expected) :
    countByte len expected b = some (if expected ≤ 0 then len + 1 else len, expected - 1) := by
  rw [countByte, if_pos ((extension_iff b).mpr hb)]
  dsimp only
  rw [if_neg (by omega), if_congr (show expected - 1 < 0 ↔ expected ≤ 0 by omega) rfl rfl]

theorem countByte_lead {b : UInt8} (hb : ¬ Tail b) (len : Nat) (expected : Int) :
    countByte len expected b = some (if asks b = 3 then len + 2 else len + 1, (asks b : Int)) := by
  have hasks : ((UTF8_SEQ_LENGTH b).toNat : Int) - 1 = asks b := by
    rw [toNat_seq_length]
    omega
  rw [countByte, if_neg (mt (extension_iff b).mp hb), hasks]
  dsimp only
  rw [if_congr (show (asks b : Int) = 3 ↔ asks b = 3 by omega) rfl rfl]

/-- The tails of a piece are expected, so that they do not count. -/
theorem countUnits_tails {tails : Bytes} (rest : Bytes) (len : Nat) {expected : Int}
    (hall : ∀ b ∈ tails, Tail b) (hexp : tails.length ≤ expected) :
    countUnits (tails ++ rest) len expected = countUnits rest len (expected - tails.length) := by
  induction tails generalizing expected with
  | nil => simp
  | cons b tails ih =>
    have hb : Tail b := hall b List.mem_cons_self
    rw [List.length_cons] at hexp ⊢
    have hbyte := countByte_tail hb len (show INT_MIN < expected by rw [INT_MIN]; omega)
    rw [if_neg (by omega)] at hbyte
    rw [List.cons_append, countUnits_cons (fun h => not_tail_zero (h ▸ hb)) hbyte,
      ih (fun c hc => hall c (List.mem_cons_of_mem _ hc)) (by omega)]
    congr 1
    omega

/-- How many pieces begin with a continuation byte. -/
def strays (ps : List Piece) : Nat := ps.countP fun p => Tail p.lead

/-- No piece is begun with a continuation byte that is still expected. -/
theorem countUnits_row {ps : List Piece} {behind : Bytes} {len : Nat} {expected : Int}
    (hrow : Row ps) (hnul : ∀ p ∈ ps, p.lead ≠ 0) (hcount : strays ps ≤ 2 ^ 31)
    (hfirst : expected ≤ 0 ∨ ∀ b ∈ (joined ps).head?, ¬ Tail b)
    (hmin : INT_MIN + strays ps ≤ expected) :
    countUnits (joined ps ++ 0 :: behind) len expected = some (len + weights ps) := by
  induction ps generalizing len expected with
  | nil => rfl
  | cons p ps ih =>
    have hlead : p.lead ≠ 0 := hnul p List.mem_cons_self
    have hrest : ∀ q ∈ ps, q.lead ≠ 0 := fun q hq => hnul q (List.mem_cons_of_mem _ hq)
    rw [joined_cons, Piece.bytes, List.cons_append, List.cons_append, List.append_assoc]
    by_cases htail : Tail p.lead
    · have hexp : expected ≤ 0 := hfirst.resolve_right fun h => h _ rfl htail
      have hstrays : strays (p :: ps) = strays ps + 1 :=
        List.countP_cons_of_pos (by simpa using htail)
      have hnil : p.tails = [] :=
        List.length_eq_zero_iff.mp (Nat.le_zero.mp (asks_eq_zero htail ▸ p.length_le))
      have hbyte := countByte_tail htail len (show INT_MIN < expected by omega)
      rw [if_pos hexp] at hbyte
      rw [countUnits_cons hlead hbyte, hnil, List.nil_append,
        ih hrow.2 hrest (by omega) (.inl (by omega)) (by omega), weights, weight,
        asks_eq_zero htail, if_neg (by decide), Nat.add_assoc]
    · have hstrays : strays (p :: ps) = strays ps := List.countP_cons_of_neg (by simpa using htail)
      have hle := p.length_le
      rw [countUnits_cons hlead (countByte_lead htail len expected),
        countUnits_tails _ _ p.all_tails (by omega)]
      have hmin' : INT_MIN + strays ps ≤ (asks p.lead : Int) - p.tails.length := by
        rw [INT_MIN]
        omega
      have hfirst' : (asks p.lead : Int) - p.tails.length ≤ 0 ∨
          ∀ b ∈ (joined ps).head?, ¬ Tail b :=
        hrow.1.imp_left fun h => by omega
      rw [ih hrow.2 hrest (by omega) hfirst' hmin', weights, weight]
      congr 1
      split <;> omega

end DeviceHal.Shims.StrDup8to16
