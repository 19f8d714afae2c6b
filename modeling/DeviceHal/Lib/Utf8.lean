import DeviceHal.Lib.CText
import Mathlib.Tactic

/-! # Texts in UTF-8

Any bytes are a row of pieces: a byte, and the continuation bytes behind it, at
most as many as it asks for. A piece that has them all is a sequence with a code;
a piece that is short, or that begins with a continuation byte, is not. A decoder
that takes one piece after the other is known by what it makes of a piece. -/
namespace DeviceHal.Lib.Utf8
open DeviceHal.Lib.CText

/-- A byte that continues a sequence. -/
def Tail (b : UInt8) : Prop := 128 ≤ b.toNat ∧ b.toNat < 192

instance (b : UInt8) : Decidable (Tail b) := inferInstanceAs (Decidable (_ ∧ _))

/-- How many continuation bytes a byte asks for. -/
def asks (b : UInt8) : Nat :=
  if b.toNat < 192 then 0 else if b.toNat < 224 then 1 else if b.toNat < 240 then 2 else 3

/-- What the first byte of a sequence gives to the code. -/
def payload (b : UInt8) : Nat := if asks b = 0 then b.toNat else b.toNat % 2 ^ (6 - asks b)

/-- A code continued by the low six bits of each byte. -/
def continued (v : Nat) (tails : Bytes) : Nat := tails.foldl (fun v b => 64 * v + b.toNat % 64) v

/-- To prove something of every byte. -/
theorem forall_byte {p : UInt8 → Prop} (h : ∀ n : Fin 256, p (UInt8.ofNat n)) (b : UInt8) :
    p b := by
  have hb := h ⟨b.toNat, b.toNat_lt⟩
  rwa [UInt8.ofNat_toNat] at hb

theorem asks_le (b : UInt8) : asks b ≤ 3 := by
  unfold asks
  split_ifs <;> omega

theorem asks_eq_zero {b : UInt8} (hb : Tail b) : asks b = 0 := if_pos hb.2

theorem not_tail_zero : ¬ Tail 0 := fun h => absurd h.1 (by decide)

theorem payload_lt (b : UInt8) : payload b < 2 ^ 8 := by
  have hlt := b.toNat_lt
  unfold payload
  split
  · exact hlt
  · exact (Nat.mod_le _ _).trans_lt hlt

/-- Each continuation byte makes a code six bits longer. -/
theorem continued_lt {v n : Nat} (tails : Bytes) (hv : v < 2 ^ n) :
    continued v tails < 2 ^ (n + 6 * tails.length) := by
  induction tails generalizing v n with
  | nil => exact hv
  | cons b tails ih =>
    have hnext : 64 * v + b.toNat % 64 < 2 ^ (n + 6) := by
      rw [pow_add]
      omega
    have hlt := ih hnext
    rwa [List.length_cons, Nat.mul_add, Nat.add_comm _ (6 * 1), ← Nat.add_assoc]

/-! ## Pieces -/

structure Piece where
  lead : UInt8
  tails : Bytes
  all_tails : ∀ b ∈ tails, Tail b
  length_le : tails.length ≤ asks lead

namespace Piece

def bytes (p : Piece) : Bytes := p.lead :: p.tails

/-- The piece is a sequence. -/
def Whole (p : Piece) : Prop := ¬ Tail p.lead ∧ p.tails.length = asks p.lead

instance (p : Piece) : Decidable p.Whole := inferInstanceAs (Decidable (_ ∧ _))

def code (p : Piece) : Nat := continued (payload p.lead) p.tails

/-- The piece has all the continuation bytes that it can get from what follows. -/
def Ends (p : Piece) (rest : Bytes) : Prop :=
  p.tails.length = asks p.lead ∨ ∀ b ∈ rest.head?, ¬ Tail b

theorem Whole.ends {p : Piece} (h : p.Whole) (rest : Bytes) : p.Ends rest := .inl h.2

theorem zero_mem_bytes_iff {p : Piece} : 0 ∈ p.bytes ↔ p.lead = 0 := by
  rw [bytes, List.mem_cons]
  constructor
  · rintro (h | h)
    · exact h.symm
    · exact absurd (p.all_tails 0 h) not_tail_zero
  · exact fun h => .inl h.symm

end Piece

/-- The bytes of a row of pieces. -/
def joined (ps : List Piece) : Bytes := ps.flatMap Piece.bytes

@[simp] theorem joined_nil : joined [] = [] := rfl

@[simp] theorem joined_cons (p : Piece) (ps : List Piece) :
    joined (p :: ps) = p.bytes ++ joined ps := rfl

/-- No piece leaves a continuation byte to the next one that it could take. -/
def Row : List Piece → Prop
  | [] => True
  | p :: ps => p.Ends (joined ps) ∧ Row ps

theorem row_of_whole {ps : List Piece} (h : ∀ p ∈ ps, p.Whole) : Row ps := by
  induction ps with
  | nil => trivial
  | cons p ps ih =>
    exact ⟨(h p List.mem_cons_self).ends _, ih fun q hq => h q (List.mem_cons_of_mem _ hq)⟩

/-- The continuation bytes in front, `n` at most. -/
theorem exists_tails (n : Nat) (rest : Bytes) :
    ∃ tails rest', rest = tails ++ rest' ∧ (∀ b ∈ tails, Tail b) ∧ tails.length ≤ n ∧
      (tails.length = n ∨ ∀ b ∈ rest'.head?, ¬ Tail b) := by
  induction n generalizing rest with
  | zero => exact ⟨[], rest, rfl, by simp, Nat.le_refl 0, .inl rfl⟩
  | succ n ih =>
    cases rest with
    | nil => exact ⟨[], [], rfl, by simp, Nat.zero_le _, .inr (by simp)⟩
    | cons b rest =>
      by_cases hb : Tail b
      · obtain ⟨tails, rest', rfl, hall, hle, hend⟩ := ih rest
        refine ⟨b :: tails, rest', rfl, ?_, Nat.succ_le_succ hle, ?_⟩
        · simpa [hb] using hall
        · rwa [List.length_cons, Nat.succ_inj]
      · exact ⟨[], b :: rest, rfl, by simp, Nat.zero_le _, .inr (by simpa using hb)⟩

/-- Any bytes are a row of pieces. -/
theorem exists_row (text : Bytes) : ∃ ps, joined ps = text ∧ Row ps := by
  induction hn : text.length using Nat.strong_induction_on generalizing text with
  | _ n ih =>
    cases text with
    | nil => exact ⟨[], rfl, trivial⟩
    | cons lead rest =>
      obtain ⟨tails, rest', rfl, hall, hle, hend⟩ := exists_tails (asks lead) rest
      obtain ⟨ps, hps, hrow⟩ := ih rest'.length
        (by rw [← hn, List.length_cons, List.length_append]; omega) rest' rfl
      refine ⟨⟨lead, tails, hall, hle⟩ :: ps, ?_, ?_, hrow⟩
      · rw [joined_cons, hps]
        rfl
      · rw [hps]
        exact hend

/-! ## The sequence of a code -/

/-- The `n` last digits of a code in base 64, as continuation bytes. -/
def digits : Nat → Nat → Bytes
  | 0, _ => []
  | n + 1, v => UInt8.ofNat (128 + v / 64 ^ n % 64) :: digits n v

/-- The first bytes that ask for `n` more begin here. -/
def marker (n : Nat) : Nat := 256 - 2 ^ (7 - n)

/-- The codes below it fit into a sequence with `n` continuation bytes. -/
def capacity (n : Nat) : Nat := if n = 0 then 2 ^ 7 else 2 ^ (6 - n) * 64 ^ n

theorem length_digits (n v : Nat) : (digits n v).length = n := by
  induction n with
  | zero => rfl
  | succ n ih => rw [digits, List.length_cons, ih]

theorem toNat_digit (k : Nat) : (UInt8.ofNat (128 + k % 64)).toNat = 128 + k % 64 := by
  rw [UInt8.toNat_ofNat']
  exact Nat.mod_eq_of_lt (by omega)

theorem tail_of_mem_digits {n v : Nat} {b : UInt8} (hb : b ∈ digits n v) : Tail b := by
  induction n with
  | zero => cases hb
  | succ n ih =>
    rcases List.mem_cons.mp hb with rfl | hb
    · rw [Tail, toNat_digit]
      omega
    · exact ih hb

/-- Continuing with the digits puts them behind the code. -/
theorem continued_digits (a n v : Nat) : continued a (digits n v) = 64 ^ n * a + v % 64 ^ n := by
  induction n generalizing a with
  | zero => simp [continued, digits, Nat.mod_one]
  | succ n ih =>
    have hcons : continued a (digits (n + 1) v) =
        continued (64 * a + v / 64 ^ n % 64) (digits n v) := by
      rw [digits, continued, List.foldl_cons, toNat_digit]
      congr 1
      omega
    rw [hcons, ih, pow_succ, Nat.mod_mul, Nat.mul_add]
    ring

/-- The first byte of the sequence. -/
def first (n v : Nat) : UInt8 := UInt8.ofNat (if n = 0 then v else marker n + v / 64 ^ n)

theorem toNat_first {n v : Nat} (hn : n ≤ 3) (hv : v < capacity n) :
    (first n v).toNat = if n = 0 then v else marker n + v / 64 ^ n := by
  rw [first, UInt8.toNat_ofNat']
  refine Nat.mod_eq_of_lt ?_
  interval_cases n <;> simp [capacity, marker] at hv ⊢ <;> omega

theorem first_spec {n v : Nat} (hn : n ≤ 3) (hv : v < capacity n) :
    ¬ Tail (first n v) ∧ asks (first n v) = n ∧ payload (first n v) = v / 64 ^ n := by
  have hfirst := toNat_first hn hv
  have hasks : asks (first n v) = n := by
    rw [asks, hfirst]
    interval_cases n <;> simp only [capacity, marker] at hv ⊢ <;> grind
  refine ⟨?_, hasks, ?_⟩
  · rw [Tail, hfirst]
    interval_cases n <;> simp [capacity, marker] at hv ⊢ <;> omega
  · rw [payload, hasks, hfirst]
    interval_cases n <;> simp [capacity, marker] at hv ⊢ <;> omega

/-- The sequence of a code with `n` continuation bytes. -/
def Piece.ofCode (n v : Nat) (hn : n ≤ 3) (hv : v < capacity n) : Piece where
  lead := first n v
  tails := digits n v
  all_tails _ := tail_of_mem_digits
  length_le := by rw [length_digits, (first_spec hn hv).2.1]

theorem Piece.whole_ofCode {n v : Nat} (hn : n ≤ 3) (hv : v < capacity n) :
    (Piece.ofCode n v hn hv).Whole :=
  ⟨(first_spec hn hv).1, (length_digits n v).trans (first_spec hn hv).2.1.symm⟩

@[simp] theorem Piece.code_ofCode {n v : Nat} (hn : n ≤ 3) (hv : v < capacity n) :
    (Piece.ofCode n v hn hv).code = v := by
  show continued (payload (first n v)) (digits n v) = v
  rw [(first_spec hn hv).2.2, continued_digits, Nat.div_add_mod]

/-- The encoding of a character is the sequence of its code; it has four bytes from `0x10000` on. -/
theorem exists_piece_of_char (c : Char) :
    ∃ p : Piece, p.Whole ∧ p.bytes = String.utf8EncodeChar c ∧ p.code = c.val.toNat ∧
      (asks p.lead = 3 ↔ 0x10000 ≤ c.val.toNat) := by
  have hscalar : c.val.toNat < 2 ^ 21 := by
    have hvalid := c.valid
    simp only [UInt32.isValidChar, Nat.isValidChar] at hvalid
    omega
  have hpiece : ∀ n (hn : n ≤ 3) (hv : c.val.toNat < capacity n), (n = 3 ↔ 0x10000 ≤ c.val.toNat) →
      (Piece.ofCode n c.val.toNat hn hv).bytes = String.utf8EncodeChar c →
      ∃ p : Piece, p.Whole ∧ p.bytes = String.utf8EncodeChar c ∧ p.code = c.val.toNat ∧
        (asks p.lead = 3 ↔ 0x10000 ≤ c.val.toNat) := by
    intro n hn hv hlong hbytes
    have hasks : asks (Piece.ofCode n c.val.toNat hn hv).lead = n := (first_spec hn hv).2.1
    exact ⟨_, Piece.whole_ofCode hn hv, hbytes, Piece.code_ofCode hn hv, by rw [hasks, hlong]⟩
  have hzero : ∀ {n : Nat}, ¬ n + 1 = 0 := Nat.succ_ne_zero _
  by_cases h0 : c.val.toNat ≤ 0x7f
  · refine hpiece 0 (by decide) (show _ < 2 ^ 7 by omega) (by omega) ?_
    simp only [Piece.bytes, Piece.ofCode, first, digits, String.utf8EncodeChar, if_pos h0, if_true]
  by_cases h1 : c.val.toNat ≤ 0x7ff
  · refine hpiece 1 (by decide) (show _ < 2 ^ 5 * 64 ^ 1 by omega) (by omega) ?_
    simp only [Piece.bytes, Piece.ofCode, first, digits, marker, String.utf8EncodeChar, if_neg h0,
      if_pos h1, if_neg hzero, List.cons.injEq, and_true]
    refine ⟨congrArg UInt8.ofNat ?_, congrArg UInt8.ofNat ?_⟩ <;> omega
  by_cases h2 : c.val.toNat ≤ 0xffff
  · refine hpiece 2 (by decide) (show _ < 2 ^ 4 * 64 ^ 2 by omega) (by omega) ?_
    simp only [Piece.bytes, Piece.ofCode, first, digits, marker, String.utf8EncodeChar, if_neg h0,
      if_neg h1, if_pos h2, if_neg hzero, List.cons.injEq, and_true]
    refine ⟨congrArg UInt8.ofNat ?_, congrArg UInt8.ofNat ?_, congrArg UInt8.ofNat ?_⟩ <;> omega
  · refine hpiece 3 (by decide) (show _ < 2 ^ 3 * 64 ^ 3 by omega) (by omega) ?_
    simp only [Piece.bytes, Piece.ofCode, first, digits, marker, String.utf8EncodeChar, if_neg h0,
      if_neg h1, if_neg h2, if_neg hzero, List.cons.injEq, and_true]
    refine ⟨congrArg UInt8.ofNat ?_, congrArg UInt8.ofNat ?_, congrArg UInt8.ofNat ?_,
      congrArg UInt8.ofNat ?_⟩ <;> omega

/-! ## UTF-16 -/

/-- The units of a code. -/
def units (v : Nat) : List UInt16 :=
  if v < 0x10000 then [UInt16.ofNat v]
  else
    [UInt16.ofNat (0xd800 + (v - 0x10000) / 0x400), UInt16.ofNat (0xdc00 + (v - 0x10000) % 0x400)]

end DeviceHal.Lib.Utf8
