import DeviceHal.Lib.Buffer
import DeviceHal.Lib.Loop
import DeviceHal.Utils.NmeaChecksum

/-! # Addresses as texts

`LocApiBase.cpp` prints bytes in hex and reads the number out of an address of
semi-octets: a type byte, then two digits in each byte, the low one first, and a
filler where there is no digit. Both work in a buffer whose size they are told.
A read or a write out of range is a fault, and so is an `int` that overflows. -/
namespace DeviceHal.Core.AddressText
open DeviceHal.Lib.Buffer DeviceHal.Lib.CText DeviceHal.Lib.Loop
open DeviceHal.Utils.LocNmea DeviceHal.Utils.NmeaChecksum

/-! ## Bytes in hex -/

/-- `%02X` of a `char`, which becomes an `int` first. -/
def hexText (charSigned : Bool) (ch : UInt8) : Bytes :=
  let digits := [hexDigit (ch.toNat / 16), hexDigit (ch.toNat % 16)]
  if charSigned ∧ 128 ≤ ch then List.replicate 6 70 ++ digits else digits

/-- One round of the loop; it is left with the buffer and `i`. -/
def hexRound (charSigned : Bool) (string_size : Int) (data : Bytes) (data_size : Int) :
    Bytes × Nat → Option ((Bytes × Nat) ⊕ (Bytes × Nat))
  | (hexstring, i) =>
    if (i : Int) < data_size then do
      let ch ← data[i]?
      if 2147483647 < i * 2 + 3 then none
      else if ((i * 2 + 3 : Nat) : Int) ≤ string_size then do
        let (hexstring, _) ← snprintf hexstring (i * 2) 3 (hexText charSigned ch)
        some (.inl (hexstring, i + 1))
      else some (.inr (hexstring, i))
    else some (.inr (hexstring, i))

/-- The buffer and the return value. -/
def hexcode (charSigned : Bool) (hexstring : Bytes) (string_size : Int) (data : Bytes)
    (data_size : Int) : Option (Bytes × Nat) :=
  rounds (hexRound charSigned string_size data data_size) (data_size.toNat + 1) (hexstring, 0)

/-- What a reader makes of the digits, two for each byte. -/
def hexBytes : Bytes → Bytes
  | high :: low :: text => UInt8.ofNat (16 * digitVal high + digitVal low) :: hexBytes text
  | _ => []

/-- The two digits that are left of a byte where there is room for no more. -/
def hexPair (charSigned : Bool) (ch : UInt8) : Bytes := (hexText charSigned ch).take 2

/-- The byte that these two digits stand for. -/
def shownByte (charSigned : Bool) (ch : UInt8) : UInt8 :=
  if charSigned ∧ 128 ≤ ch then 255 else ch

/-- The buffer after `i` bytes. -/
def printed (charSigned : Bool) (hexstring data : Bytes) (i : Nat) : Bytes :=
  if i = 0 then hexstring
  else (data.take i).flatMap (hexPair charSigned) ++ 0 :: hexstring.drop (2 * i + 1)

section
variable (charSigned : Bool)

theorem hexPair_spec (ch : UInt8) :
    ∃ high low, hexPair charSigned ch = [high, low] ∧ high ≠ 0 ∧ low ≠ 0 ∧
      UInt8.ofNat (16 * digitVal high + digitVal low) = shownByte charSigned ch := by
  unfold hexPair hexText shownByte
  by_cases hneg : charSigned ∧ 128 ≤ ch
  · rw [if_pos hneg, if_pos hneg]
    exact ⟨70, 70, rfl, by decide, by decide, rfl⟩
  · rw [if_neg hneg, if_neg hneg]
    have hlt : ch.toNat < 256 := ch.toNat_lt
    have hhigh : ch.toNat / 16 < 16 := by omega
    have hlow : ch.toNat % 16 < 16 := by omega
    refine ⟨_, _, rfl, hexDigit_ne_zero hhigh, hexDigit_ne_zero hlow, ?_⟩
    rw [digitVal_hexDigit hhigh, digitVal_hexDigit hlow, Nat.div_add_mod, UInt8.ofNat_toNat]

theorem length_hexPairs (data : Bytes) :
    (data.flatMap (hexPair charSigned)).length = 2 * data.length := by
  induction data with
  | nil => rfl
  | cons ch data ih =>
    obtain ⟨high, low, hpair, -⟩ := hexPair_spec charSigned ch
    rw [List.flatMap_cons, List.length_append, ih, hpair]
    simp only [List.length_cons, List.length_nil]
    omega

theorem nul_not_mem_hexPairs (data : Bytes) : 0 ∉ data.flatMap (hexPair charSigned) := by
  intro hmem
  obtain ⟨ch, -, hch⟩ := List.mem_flatMap.mp hmem
  obtain ⟨high, low, hpair, hhigh, hlow, -⟩ := hexPair_spec charSigned ch
  rw [hpair] at hch
  simp [hhigh.symm, hlow.symm] at hch

theorem hexBytes_hexPairs (data : Bytes) :
    hexBytes (data.flatMap (hexPair charSigned)) = data.map (shownByte charSigned) := by
  induction data with
  | nil => rfl
  | cons ch data ih =>
    obtain ⟨high, low, hpair, -, -, hvalue⟩ := hexPair_spec charSigned ch
    rw [List.flatMap_cons, hpair, List.map_cons, ← ih, ← hvalue]
    rfl

theorem shownByte_eq_iff (ch : UInt8) :
    shownByte charSigned ch = ch ↔ charSigned = false ∨ ch < 128 ∨ ch = 255 := by
  unfold shownByte
  cases charSigned with
  | false => simp
  | true =>
    by_cases hneg : 128 ≤ ch
    · simp only [hneg, and_self, if_true, Bool.true_eq_false, false_or]
      rw [or_iff_right (UInt8.not_lt.mpr hneg)]
      exact eq_comm
    · simp [hneg, UInt8.not_le.mp hneg]

/-- One more byte overwrites the NUL and the two cells behind it. -/
theorem snprintf_hexText (hexstring : Bytes) {data : Bytes} {i : Nat} {ch : UInt8}
    (hch : data[i]? = some ch) (hroom : i * 2 + 3 ≤ hexstring.length) :
    ∃ length, snprintf (printed charSigned hexstring data i) (i * 2) 3 (hexText charSigned ch) =
      some (printed charSigned hexstring data (i + 1), length) := by
  obtain ⟨hi, hget⟩ := List.getElem?_eq_some_iff.mp hch
  have hprinted : (printed charSigned hexstring data i).take (i * 2) =
        (data.take i).flatMap (hexPair charSigned) ∧
      (printed charSigned hexstring data i).drop (i * 2 + 3) = hexstring.drop (i * 2 + 3) ∧
      (printed charSigned hexstring data i).length = hexstring.length := by
    unfold printed
    split
    next hzero =>
      subst hzero
      simp
    next hpos =>
      have hlen : ((data.take i).flatMap (hexPair charSigned)).length = i * 2 := by
        rw [length_hexPairs, List.length_take]
        omega
      refine ⟨?_, ?_, ?_⟩
      · rw [← hlen, List.take_left]
      · rw [← hlen, List.drop_length_add_append, hlen]
        simp only [List.drop_succ_cons, List.drop_drop]
        congr 1
        omega
      · rw [List.length_append, hlen, List.length_cons, List.length_drop]
        omega
  obtain ⟨htake, hdrop, hlength⟩ := hprinted
  obtain ⟨high, low, hpair, -⟩ := hexPair_spec charSigned ch
  have hout : (hexText charSigned ch).take (3 - 1) ++ [0] = [high, low, 0] := by
    rw [show (hexText charSigned ch).take (3 - 1) = hexPair charSigned ch from rfl, hpair]
    rfl
  have hnext : printed charSigned hexstring data (i + 1) =
      (data.take i).flatMap (hexPair charSigned) ++ [high, low, 0] ++
        hexstring.drop (i * 2 + 3) := by
    rw [printed, if_neg (Nat.succ_ne_zero i), List.take_add_one, hch, Option.toList_some,
      List.flatMap_append, List.flatMap_singleton, hpair, Nat.mul_comm i 2]
    simp [Nat.mul_add]
  refine ⟨(hexText charSigned ch).length, ?_⟩
  unfold snprintf
  simp only [Nat.reduceEqDiff, if_false, hout, List.length_cons, List.length_nil, Nat.zero_add,
    Nat.reduceAdd, hlength, htake, hdrop, if_pos hroom, hnext]

end

/-- The loop comes to its end with as many bytes as there are and fit. -/
theorem hexcode_eq (charSigned : Bool) {hexstring data : Bytes} {string_size data_size : Int}
    (hroom : string_size ≤ hexstring.length) (hdata : data_size ≤ data.length)
    (hmax : string_size ≤ 2147483645) :
    let n := min data_size.toNat ((string_size - 1) / 2).toNat
    hexcode charSigned hexstring string_size data data_size =
      some (printed charSigned hexstring data n, n) := by
  intro n
  have hround : ∀ s : Bytes × Nat, (∃ i ≤ n, s = (printed charSigned hexstring data i, i)) →
      (∃ s', hexRound charSigned string_size data data_size s = some (.inl s') ∧
        (∃ i ≤ n, s' = (printed charSigned hexstring data i, i)) ∧
          data_size.toNat - s'.2 < data_size.toNat - s.2) ∨
      ∃ a, hexRound charSigned string_size data data_size s = some (.inr a) ∧
        a = (printed charSigned hexstring data n, n) := by
    rintro _ ⟨i, hi, rfl⟩
    unfold hexRound
    dsimp only
    by_cases hmore : (i : Int) < data_size
    · have hch : data[i]? = some data[i] := List.getElem?_eq_getElem (by omega)
      have hfits : ¬2147483647 < i * 2 + 3 := by omega
      simp only [hmore, if_true, hch, Option.bind_eq_bind, Option.bind_some, hfits, if_false]
      by_cases hleft : ((i * 2 + 3 : Nat) : Int) ≤ string_size
      · obtain ⟨length, hprint⟩ := snprintf_hexText charSigned hexstring hch (by omega)
        rw [if_pos hleft, hprint]
        exact .inl ⟨_, rfl, ⟨i + 1, by omega, rfl⟩, show _ - (i + 1) < _ - i by omega⟩
      · rw [if_neg hleft]
        exact .inr ⟨_, rfl, by rw [show i = n by omega]⟩
    · rw [if_neg hmore]
      exact .inr ⟨_, rfl, by rw [show i = n by omega]⟩
  obtain ⟨a, ha, rfl⟩ := rounds_spec _ (fun s => data_size.toNat - s.2) _ hround
    (n := data_size.toNat + 1) (s := (hexstring, 0)) ⟨0, Nat.zero_le n, rfl⟩ (by omega)
  exact ha

/-- **What `hexcode` prints.** It prints two digits for each byte until the bytes are used up or
there is no room for two more and a NUL, and returns how many bytes it has printed. The digits
are those of the bytes if `char` is unsigned or no byte printed is from 128 to 254. -/
theorem hexcode_reads_back_iff (charSigned : Bool) (hexstring : Bytes) (string_size : Int)
    (data : Bytes) (data_size : Int) (hroom : string_size ≤ hexstring.length)
    (hdata : data_size ≤ data.length) (hmax : string_size ≤ 2147483645) :
    ∃ buf n, hexcode charSigned hexstring string_size data data_size = some (buf, n) ∧
      n = min data_size.toNat ((string_size - 1) / 2).toNat ∧
      (n = 0 → buf = hexstring) ∧
      (0 < n → (cstr buf).length = 2 * n ∧ buf.drop (2 * n + 1) = hexstring.drop (2 * n + 1) ∧
        (hexBytes (cstr buf) = data.take n ↔
          charSigned = false ∨ ∀ ch ∈ data.take n, ch < 128 ∨ ch = 255)) := by
  refine ⟨_, _, hexcode_eq charSigned hroom hdata hmax, rfl, fun hzero => if_pos hzero, ?_⟩
  intro hpos
  generalize hn : min data_size.toNat ((string_size - 1) / 2).toNat = n at hpos ⊢
  have hlen : (data.take n).length = n := by
    rw [List.length_take]
    omega
  have hcstr : cstr (printed charSigned hexstring data n) =
      (data.take n).flatMap (hexPair charSigned) := by
    rw [printed, if_neg (Nat.ne_of_gt hpos)]
    exact cstr_append (nul_not_mem_hexPairs charSigned _) _
  refine ⟨by rw [hcstr, length_hexPairs, hlen], ?_, ?_⟩
  · rw [printed, if_neg (Nat.ne_of_gt hpos)]
    have hdigits : 2 * n = ((data.take n).flatMap (hexPair charSigned)).length := by
      rw [length_hexPairs, hlen]
    rw [hdigits, List.drop_length_add_append]
    rfl
  · rw [hcstr, hexBytes_hexPairs]
    constructor
    · intro heq
      refine or_iff_not_imp_left.mpr fun hsigned ch hch => ?_
      have hshown : shownByte charSigned ch = ch :=
        List.map_inj_left.mp (heq.trans (List.map_id _).symm) ch hch
      exact ((shownByte_eq_iff charSigned ch).mp hshown).resolve_left hsigned
    · intro hplain
      refine (List.map_congr_left fun ch hch => ?_).trans (List.map_id _)
      exact (shownByte_eq_iff charSigned ch).mpr (hplain.imp_right fun hall => hall ch hch)

/-- With a signed `char` and room for two of three bytes, 0xAB is shown as 0xFF. -/
theorem hexcode_reads_back_iff_signed :
    ∃ buf, hexcode true (List.replicate 6 0) 6 [18, 171, 52] 3 = some (buf, 2) ∧
      hexBytes (cstr buf) ≠ [18, 171] := by
  obtain ⟨buf, n, hrun, rfl, -, hshown⟩ := hexcode_reads_back_iff true
    (List.replicate 6 0) 6 [18, 171, 52] 3 (by simp) (by simp) (by omega)
  refine ⟨buf, hrun, fun heq => ?_⟩
  rcases (hshown (by decide)).2.2.mp heq with hunsigned | hall
  · exact absurd hunsigned (by simp)
  · have h171 := hall 171 (.tail 18 (.head []))
    exact absurd h171 (by decide)

/-! ## Semi-octets -/

/-- `if (d <= 9 && idxOutput < string_size - 1) { addr_string[idxOutput++] = d + '0'; }`. -/
def putDigit (string_size : Int) (d : UInt8) : Bytes × Nat → Option (Bytes × Nat)
  | (addr_string, idxOutput) =>
    if d ≤ 9 ∧ (idxOutput : Int) < string_size - 1 then do
      let addr_string ← writeCell addr_string idxOutput (d + 48)
      some (addr_string, idxOutput + 1)
    else some (addr_string, idxOutput)

/-- The round for `i = k + 1`. -/
def addressRound (string_size : Int) (data : Bytes) (s : Bytes × Nat) (k : Nat) :
    Option (Bytes × Nat) := do
  let ch ← data[k + 1]?
  let s ← putDigit string_size (ch &&& 0x0F) s
  putDigit string_size (ch >>> 4) s

/-- The return value and the text. -/
def decodeAddress (addr_string : Option Bytes) (string_size : Int) (data : Option Bytes)
    (data_size : Int) : Option (Nat × Option Bytes) :=
  match data, addr_string with
  | some data, some addr_string => do
    let first ← data[0]?
    if first ≠ 0x91 then do
      let addr_string ← writeCell addr_string 0 0
      some (0, some addr_string)
    else do
      let (addr_string, idxOutput) ←
        countUp (addressRound string_size data) (data_size - 1).toNat (addr_string, 0)
      let addr_string ← writeCell addr_string idxOutput 0
      some (idxOutput, some addr_string)
  | _, addr_string => some (0, addr_string)

/-- The halves of the bytes, the low one first. -/
def semiOctets (data : Bytes) : List UInt8 := data.flatMap fun ch => [ch &&& 0x0F, ch >>> 4]

/-- The halves that are digits, as a text. -/
def digitsOf (semis : List UInt8) : Bytes := (semis.filter (· ≤ 9)).map (· + 48)

/-- A number as a sender packs it: two digits in a byte, and the filler if one is missing. -/
def packed : List (Fin 10) → Bytes
  | low :: high :: number => (high.val.toUInt8 <<< 4 ||| low.val.toUInt8) :: packed number
  | [low] => [0xF0 ||| low.val.toUInt8]
  | [] => []

/-- The text of a number. -/
def numberText (number : List (Fin 10)) : Bytes := number.map fun d => d.val.toUInt8 + 48

/-- A text that is cut off where the room for it ends, at the front of a buffer. -/
def cutText (addr_string text : Bytes) (string_size : Int) : Bytes × Nat :=
  let text := text.take (string_size - 1).toNat
  (text ++ addr_string.drop text.length, text.length)

theorem digitsOf_concat (semis : List UInt8) (d : UInt8) :
    digitsOf (semis ++ [d]) = if d ≤ 9 then digitsOf semis ++ [d + 48] else digitsOf semis := by
  by_cases hd : d ≤ 9 <;> simp [digitsOf, List.filter_append, hd]

section
variable {addr_string : Bytes} {string_size : Int}

theorem putDigit_cutText (hroom : string_size ≤ addr_string.length) (semis : List UInt8)
    (d : UInt8) : putDigit string_size d (cutText addr_string (digitsOf semis) string_size) =
      some (cutText addr_string (digitsOf (semis ++ [d])) string_size) := by
  rw [digitsOf_concat]
  generalize digitsOf semis = text
  unfold putDigit cutText
  dsimp only
  by_cases hdigit : d ≤ 9
  · rw [if_pos hdigit]
    by_cases hleft : ((text.take (string_size - 1).toNat).length : Int) < string_size - 1
    · have hshort : text.length < (string_size - 1).toNat := by
        rw [List.length_take] at hleft
        omega
      have hwhole : text.take (string_size - 1).toNat = text := List.take_of_length_le (by omega)
      have hmore : (text ++ [d + 48]).take (string_size - 1).toNat = text ++ [d + 48] :=
        List.take_of_length_le (by rw [List.length_append, List.length_singleton]; omega)
      rw [if_pos ⟨hdigit, hleft⟩, hwhole, hmore, writeCell, if_pos (by simp; omega)]
      have hset : (text ++ addr_string.drop text.length).set text.length (d + 48) =
          text ++ [d + 48] ++ addr_string.drop (text ++ [d + 48]).length := by
        have hcell : addr_string.drop text.length =
            addr_string[text.length] :: addr_string.drop (text.length + 1) :=
          List.drop_eq_getElem_cons (by omega)
        rw [hcell, List.set_append_right _ _ (Nat.le_refl _), Nat.sub_self, List.set_cons_zero]
        simp
      rw [hset]
      simp
    · have hlong : (string_size - 1).toNat ≤ text.length := by
        rw [List.length_take] at hleft
        omega
      rw [if_neg fun h => hleft h.2, List.take_append_of_le_length hlong]
  · rw [if_neg fun h => hdigit h.1, if_neg hdigit]

/-- The digits of the bytes behind the type byte, as far as they fit. -/
theorem addressRound_loop (hroom : string_size ≤ addr_string.length) {data : Bytes} {m : Nat}
    (hm : m + 1 ≤ data.length) :
    countUp (addressRound string_size data) m (addr_string, 0) =
      some (cutText addr_string (digitsOf (semiOctets (data.tail.take m))) string_size) := by
  induction m with
  | zero => simp [countUp, cutText, semiOctets, digitsOf]
  | succ m ih =>
    have hch : data[m + 1]? = some data[m + 1] := List.getElem?_eq_getElem (by omega)
    have hnext : semiOctets (data.tail.take (m + 1)) = semiOctets (data.tail.take m) ++
        [data[m + 1] &&& 0x0F] ++ [data[m + 1] >>> 4] := by
      rw [List.take_add_one, List.getElem?_tail, hch]
      simp [semiOctets]
    rw [countUp, ih (by omega), Option.bind_some, addressRound, hch, Option.bind_eq_bind,
      Option.bind_some, putDigit_cutText hroom, Option.bind_eq_bind, Option.bind_some,
      putDigit_cutText hroom, hnext]

end

theorem nul_not_mem_digitsOf (semis : List UInt8) : 0 ∉ digitsOf semis := by
  intro hmem
  obtain ⟨d, hd, hzero⟩ := List.mem_map.mp hmem
  have hall : ∀ n < 10, UInt8.ofNat n + 48 ≠ 0 := by decide
  have hsmall : d.toNat < 10 := by
    have hle : d ≤ 9 := by simpa using (List.mem_filter.mp hd).2
    exact Nat.lt_succ_of_le (UInt8.le_iff_toNat_le.mp hle)
  have hne := hall d.toNat hsmall
  rw [UInt8.ofNat_toNat] at hne
  exact hne hzero

/-- The halves of a packed number are its digits, and a filler perhaps. -/
theorem digitsOf_packed (number : List (Fin 10)) :
    digitsOf (semiOctets (packed number)) = numberText number := by
  have hpair : ∀ low high : Fin 10,
      digitsOf (semiOctets [high.val.toUInt8 <<< 4 ||| low.val.toUInt8]) =
        [low.val.toUInt8 + 48, high.val.toUInt8 + 48] := by decide
  have hsingle : ∀ low : Fin 10, digitsOf (semiOctets [0xF0 ||| low.val.toUInt8]) =
      [low.val.toUInt8 + 48] := by decide
  have hcons : ∀ ch data, digitsOf (semiOctets (ch :: data)) =
      digitsOf (semiOctets [ch]) ++ digitsOf (semiOctets data) := by
    intro ch data
    simp [semiOctets, digitsOf, List.filter_cons]
    split <;> split <;> simp
  induction number using packed.induct with
  | case1 low high number ih =>
    rw [packed, hcons, hpair, ih]
    rfl
  | case2 low => exact hsingle low
  | case3 => rfl

/-- **What `decodeAddress` reads.** The text of an address is the digits among the halves of its
bytes, the low half of each first, as far as they fit with their NUL, and none if the type byte is
another; nothing behind the NUL is touched. So the number that a sender has packed is read back. -/
theorem decodeAddress_reads (addr_string : Bytes) (string_size : Int) (first : UInt8)
    (body more : Bytes) (hsize : 0 < string_size) (hroom : string_size ≤ addr_string.length) :
    ∃ buf n, decodeAddress (some addr_string) string_size (some (first :: (body ++ more)))
        (body.length + 1) = some (n, some buf) ∧
      n = (cstr buf).length ∧ buf.drop (n + 1) = addr_string.drop (n + 1) ∧
      (first ≠ 0x91 → cstr buf = []) ∧
      (first = 0x91 →
        cstr buf = (digitsOf (semiOctets body)).take (string_size - 1).toNat ∧
        ∀ number, body = packed number →
          cstr buf = (numberText number).take (string_size - 1).toNat) := by
  by_cases hfirst : first = 0x91
  · subst hfirst
    obtain ⟨text, htext⟩ : ∃ text,
      text = (digitsOf (semiOctets body)).take (string_size - 1).toNat := ⟨_, rfl⟩
    have hnul : 0 ∉ text := fun h =>
      nul_not_mem_digitsOf _ (List.mem_of_mem_take (htext ▸ h))
    have hlen : text.length < addr_string.length := by
      rw [htext, List.length_take]
      omega
    have hloop := addressRound_loop hroom
      (show body.length + 1 ≤ (0x91 :: (body ++ more)).length by simp)
    rw [List.tail_cons, List.take_left] at hloop
    have hcut : cutText addr_string (digitsOf (semiOctets body)) string_size =
        (text ++ addr_string.drop text.length, text.length) := by rw [htext]; rfl
    have hwrite : writeCell (text ++ addr_string.drop text.length) text.length 0 =
        some (text ++ 0 :: addr_string.drop (text.length + 1)) := by
      rw [writeCell, if_pos (by simp; omega), List.drop_eq_getElem_cons hlen,
        List.set_append_right _ _ (Nat.le_refl _), Nat.sub_self, List.set_cons_zero]
    have hcstr : cstr (text ++ 0 :: addr_string.drop (text.length + 1)) = text :=
      cstr_append hnul _
    refine ⟨_, text.length, ?_, by rw [hcstr], ?_, fun hne => absurd rfl hne, fun _ => ?_⟩
    · have hcount : ((body.length : Int) + 1 - 1).toNat = body.length := by omega
      simp only [decodeAddress, hcount, hloop, hcut, hwrite, List.getElem?_cons_zero,
        Option.bind_eq_bind, Option.bind_some, ne_eq, not_true_eq_false, if_false]
    · rw [List.drop_length_add_append]
      rfl
    · rw [hcstr]
      refine ⟨htext, fun number hnumber => ?_⟩
      rw [htext, hnumber, digitsOf_packed]
  · obtain ⟨c, rest, rfl⟩ := List.exists_cons_of_ne_nil
      (List.ne_nil_of_length_pos (show 0 < addr_string.length by omega))
    refine ⟨0 :: rest, 0, ?_, rfl, rfl, fun _ => rfl, fun heq => absurd heq hfirst⟩
    simp [decodeAddress, hfirst, writeCell]

/-- Nine digits, of which seven fit. -/
theorem decodeAddress_reads_cut :
    ∃ buf, decodeAddress (some (List.replicate 8 7)) 8
        (some (0x91 :: packed [4, 9, 1, 7, 0, 1, 2, 3, 5] ++ [0x31])) 6 = some (7, some buf) ∧
      cstr buf = numberText [4, 9, 1, 7, 0, 1, 2] := by
  obtain ⟨buf, n, hrun, rfl, -, -, htext⟩ := decodeAddress_reads (List.replicate 8 7) 8 0x91
    (packed [4, 9, 1, 7, 0, 1, 2, 3, 5]) [0x31] (by decide) (by decide)
  have hcstr := (htext rfl).2 [4, 9, 1, 7, 0, 1, 2, 3, 5] rfl
  have hseven : cstr buf = numberText [4, 9, 1, 7, 0, 1, 2] := hcstr.trans (by decide)
  refine ⟨buf, ?_, hseven⟩
  rw [hseven] at hrun
  exact hrun

end DeviceHal.Core.AddressText
