import DeviceHal.Utils.LocNmea
import Mathlib.Tactic

/-! # The checksum of a sentence

`loc_nmea_put_checksum` works in the buffer that holds the sentence: it looks
for the NUL and prints the checksum over it, as far as the buffer has room. A
read or a write outside of the buffer is a fault. -/
namespace DeviceHal.Utils.NmeaChecksum
open DeviceHal.Lib.CText DeviceHal.Utils.LocNmea

/-! ## The code -/

/-- The conversion of an `int` to `size_t`. -/
def toSize (n : Int) : Nat := if 0 ≤ n then n.toNat else (n + 18446744073709551616).toNat

/-- The buffer after `snprintf` at `pos`, and the length of the text; `none` is a fault. -/
def snprintf (buf : Bytes) (pos size : Nat) (text : Bytes) : Option (Bytes × Nat) :=
  let out := if size = 0 then [] else text.take (size - 1) ++ [0]
  if pos + out.length ≤ buf.length then
    some (buf.take pos ++ out ++ buf.drop (pos + out.length), text.length)
  else none

/-- `*%02X\r\n`. -/
def checksumText (checksum : UInt8) : Bytes :=
  [42, hexDigit (checksum.toNat / 16), hexDigit (checksum.toNat % 16), 13, 10]

/-- The loop from `pNmea` on: `checksum` and `length` at the NUL. -/
def checksumLoop : Bytes → UInt8 → Nat → Option (UInt8 × Nat)
  | [], _, _ => none
  | b :: pNmea, checksum, length =>
    if b = 0 then some (checksum, length) else checksumLoop pNmea (checksum ^^^ b) (length + 1)

/-- The return value and the buffer. -/
def loc_nmea_put_checksum (pNmea : Option Bytes) (maxSize : Int) :
    Option (Int × Option Bytes) :=
  match pNmea with
  | none => some (0, none)
  | some buf =>
    match checksumLoop buf.tail 0 0 with
    | none => none
    | some (checksum, length) =>
      match snprintf buf (length + 1) (toSize (maxSize - length - 1)) (checksumText checksum) with
      | none => none
      | some (buf, checksumLength) => some (length + checksumLength + 1, some buf)

/-- A receiver splits the text at the first star: the two digits behind it are the XOR of
what stands between the dollar sign and the star. -/
def verifies (text : Bytes) : Bool :=
  match text.dropWhile (· ≠ 42) with
  | 42 :: high :: low :: _ =>
    digitVal high < 16 && digitVal low < 16 &&
      16 * digitVal high + digitVal low == (checksum (text.takeWhile (· ≠ 42)).tail).toNat
  | _ => false

/-! ## The buffer -/

theorem checksumLoop_eq {text : Bytes} (hnul : 0 ∉ text) (junk : Bytes) (checksum : UInt8)
    (length : Nat) :
    checksumLoop (text ++ 0 :: junk) checksum length =
      some (text.foldl (· ^^^ ·) checksum, length + text.length) := by
  induction text generalizing checksum length with
  | nil => rfl
  | cons b text ih =>
    obtain ⟨hb, htext⟩ := not_or.mp (List.mem_cons.not.mp hnul)
    rw [List.cons_append, checksumLoop, if_neg (Ne.symm hb), ih htext, List.foldl_cons,
      List.length_cons, Nat.add_right_comm, Nat.add_assoc]

/-- With room for the text and the NUL nothing is cut off. -/
theorem snprintf_eq {text more junk : Bytes} {size : Nat} (hsize : more.length < size)
    (hjunk : more.length < junk.length) :
    snprintf (text ++ junk) text.length size more =
      some (text ++ more ++ 0 :: junk.drop (more.length + 1), more.length) := by
  have hout : more.take (size - 1) = more := List.take_of_length_le (by omega)
  have hlen : (more ++ [0]).length = more.length + 1 := List.length_append
  unfold snprintf
  rw [if_neg (Nat.ne_zero_of_lt hsize), hout]
  show (if _ then _ else _) = _
  rw [hlen, if_pos (by rw [List.length_append]; omega), List.take_left,
    List.drop_append, Nat.add_sub_cancel_left, List.drop_eq_nil_of_le (by omega)]
  simp

theorem put_checksum_eq {buf buf' : Bytes} {maxSize : Int} {checksum : UInt8}
    {length checksumLength : Nat} (hloop : checksumLoop buf.tail 0 0 = some (checksum, length))
    (hprint : snprintf buf (length + 1) (toSize (maxSize - length - 1)) (checksumText checksum) =
      some (buf', checksumLength)) :
    loc_nmea_put_checksum (some buf) maxSize =
      some ((length : Int) + checksumLength + 1, some buf') := by
  simp only [loc_nmea_put_checksum, hloop, hprint]

/-! ## The digits -/

theorem nul_not_mem_checksumText (checksum : UInt8) : 0 ∉ checksumText checksum := by
  have hlt : checksum.toNat < 256 := checksum.toNat_lt
  have hhigh := hexDigit_ne_zero (show checksum.toNat / 16 < 16 by omega)
  have hlow := hexDigit_ne_zero (show checksum.toNat % 16 < 16 by omega)
  simp [checksumText, hhigh.symm, hlow.symm]

theorem verifies_checksumText {body : Bytes} (hstar : 42 ∉ body) :
    verifies (body ++ checksumText (checksum body.tail)) = true := by
  have htake : (body ++ checksumText (checksum body.tail)).takeWhile (· ≠ 42) = body := by
    rw [takeWhile_ne_append hstar]
    simp [checksumText]
  have hdrop : (body ++ checksumText (checksum body.tail)).dropWhile (· ≠ 42) =
      checksumText (checksum body.tail) := by
    rw [dropWhile_ne_append hstar]
    simp [checksumText]
  have hlt : (checksum body.tail).toNat < 256 := (checksum body.tail).toNat_lt
  have hhigh := digitVal_hexDigit (show (checksum body.tail).toNat / 16 < 16 by omega)
  have hlow := digitVal_hexDigit (show (checksum body.tail).toNat % 16 < 16 by omega)
  unfold verifies
  rw [htake, hdrop]
  simp only [checksumText, hhigh, hlow, Bool.and_eq_true, decide_eq_true_eq, beq_iff_eq]
  omega

/-! ## The sentence -/

/-- What the function leaves of a buffer that has room for the checksum. -/
theorem put_checksum_run {text junk : Bytes} (hnul : 0 ∉ text) (hroom : 5 ≤ junk.length) :
    let sentence := 36 :: text ++ checksumText (checksum text)
    loc_nmea_put_checksum (some (36 :: text ++ 0 :: junk))
        ((36 :: text ++ 0 :: junk).length : Nat) =
      some (((sentence.length : Nat) : Int), some (sentence ++ 0 :: junk.drop 5)) := by
  intro sentence
  have hjunk : 5 < (0 :: junk).length := Nat.lt_succ_of_le hroom
  have hloop : checksumLoop (36 :: text ++ 0 :: junk).tail 0 0 =
      some (checksum text, 0 + text.length) := checksumLoop_eq hnul junk 0 0
  rw [Nat.zero_add] at hloop
  have hleft : toSize (((36 :: text ++ 0 :: junk).length : Nat) - text.length - 1) =
      (0 :: junk).length := by
    rw [toSize, List.length_append, List.length_cons]
    split <;> omega
  have hprint : snprintf (36 :: text ++ 0 :: junk) (text.length + 1) (0 :: junk).length
      (checksumText (checksum text)) = some (sentence ++ 0 :: junk.drop 5, 5) :=
    snprintf_eq hjunk hjunk
  rw [← hleft] at hprint
  have hlen : sentence.length = text.length + 5 + 1 := by
    simp [sentence, checksumText]
  rw [put_checksum_eq hloop hprint, hlen]
  rfl

/-- **The checksum of a sentence.** In a buffer with room for six more bytes the body gets
the star, the two digits, CR and LF, and the length of that is returned; a receiver finds
the checksum right if the body has no star. -/
theorem put_checksum {body junk : Bytes} (hnul : 0 ∉ body) (hdollar : body.head? = some 36)
    {maxSize : Nat} (hsize : body.length + 6 ≤ maxSize)
    (hbuf : (body ++ 0 :: junk).length = maxSize) :
    let sentence := body ++ checksumText (checksum body.tail)
    ∃ buf, loc_nmea_put_checksum (some (body ++ 0 :: junk)) maxSize =
        some (((sentence.length : Nat) : Int), some buf) ∧
      buf.length = maxSize ∧ cstr buf = sentence ∧
      (42 ∉ body → verifies sentence = true) := by
  obtain ⟨text, rfl⟩ : ∃ text, body = 36 :: text := by
    cases body with
    | nil => cases hdollar
    | cons b text => exact ⟨text, by rw [Option.some.inj hdollar]⟩
  intro sentence
  have hroom : 5 ≤ junk.length := by
    simp only [List.length_append, List.length_cons] at hbuf hsize
    omega
  have hrun := put_checksum_run (not_or.mp (List.mem_cons.not.mp hnul)).2 hroom
  rw [hbuf] at hrun
  refine ⟨_, hrun, ?_, cstr_append ?_ _, verifies_checksumText⟩
  · have htext : (checksumText (checksum text)).length = 5 := rfl
    simp only [List.length_append, List.length_cons, List.length_drop, htext] at hbuf ⊢
    omega
  · rw [List.mem_append, not_or]
    exact ⟨hnul, nul_not_mem_checksumText _⟩

theorem put_checksum_letter :
    let sentence := bytesOf ['$', 'G', 'L'] ++ checksumText (checksum (bytesOf ['G', 'L']))
    sentence = bytesOf ['$', 'G', 'L', '*', '0', 'B'] ++ [13, 10] ∧
      ∃ buf, loc_nmea_put_checksum (some (bytesOf ['$', 'G', 'L'] ++ 0 :: [1, 2, 3, 4, 5]))
          ((9 : Nat) : Int) = some (((sentence.length : Nat) : Int), some buf) ∧
        buf.length = 9 ∧ cstr buf = sentence ∧
        (42 ∉ bytesOf ['$', 'G', 'L'] → verifies sentence = true) :=
  ⟨rfl, put_checksum (by decide) rfl (by decide) rfl⟩

/-- The framed sentence is the text that the fields of a sentence stand for. -/
theorem put_checksum_fields {s : Sentence} (hnul : 0 ∉ s.body) {junk : Bytes}
    (hroom : 5 ≤ junk.length) :
    ∃ buf, loc_nmea_put_checksum (some (36 :: s.body ++ 0 :: junk))
        ((36 :: s.body ++ 0 :: junk).length : Nat) =
          some (((s.loc_nmea_put_checksum.length : Nat) : Int), some buf) ∧
      cstr buf = s.loc_nmea_put_checksum := by
  refine ⟨_, put_checksum_run hnul hroom, cstr_append ?_ _⟩
  rw [List.mem_append, not_or]
  exact ⟨List.not_mem_cons_of_ne_of_not_mem (by decide) hnul, nul_not_mem_checksumText _⟩

end DeviceHal.Utils.NmeaChecksum
