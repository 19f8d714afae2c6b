import DeviceHal.Lib.CText
import Mathlib.Data.List.TakeWhile

/-! # Printed numbers

What `%d` and `%x` print, and that `strtol` reads it back. -/
namespace DeviceHal.Lib.CText

/-- The digits of a number. -/
def numeral (base n : Nat) : Bytes := bytesOf (Nat.toDigits base n)

/-- `%d`. -/
def printInt (v : Int) : Bytes :=
  if v < 0 then 45 :: numeral 10 v.natAbs else numeral 10 v.natAbs

/-- `%x`. -/
def printHex (n : Nat) : Bytes := numeral 16 n

/-! ## Digits -/

/-- The number that digits stand for, as `strtol` adds it up. -/
def valueOf (base : Nat) (digits : Bytes) : Nat :=
  digits.foldl (fun n b => base * n + digitVal b) 0

theorem digitVal_digitChar {d : Nat} (hd : d < 16) :
    digitVal (Nat.digitChar d).toUInt8 = d := by
  have hall : ∀ d < 16, digitVal (Nat.digitChar d).toUInt8 = d := by decide
  exact hall d hd

theorem valueOf_concat (base : Nat) (digits : Bytes) (b : UInt8) :
    valueOf base (digits ++ [b]) = base * valueOf base digits + digitVal b := by
  simp [valueOf]

theorem numeral_of_lt {base n : Nat} (h : n < base) :
    numeral base n = [(Nat.digitChar n).toUInt8] := by
  rw [numeral, Nat.toDigits_of_lt_base h]
  rfl

theorem numeral_of_le {base n : Nat} (hb : 1 < base) (h : base ≤ n) :
    numeral base n = numeral base (n / base) ++ [(Nat.digitChar (n % base)).toUInt8] := by
  rw [numeral, Nat.toDigits_of_base_le hb h, numeral, bytesOf, List.map_append]
  rfl

theorem numeral_ne_nil (base n : Nat) : numeral base n ≠ [] := by
  simp [numeral, bytesOf, Nat.toDigits_ne_nil]

section
variable {base : Nat}

theorem digitVal_of_mem_numeral (hb : 1 < base) (hb' : base ≤ 16) (n : Nat) :
    ∀ c ∈ numeral base n, digitVal c < base := by
  induction n using Nat.strongRecOn with
  | ind n ih =>
    intro c hc
    by_cases hn : n < base
    · rw [numeral_of_lt hn, List.mem_singleton] at hc
      rw [hc, digitVal_digitChar (by omega)]
      exact hn
    · have hn : base ≤ n := Nat.le_of_not_lt hn
      have hpos : 0 < base := by omega
      rw [numeral_of_le hb hn, List.mem_append, List.mem_singleton] at hc
      rcases hc with hc | hc
      · exact ih (n / base) (Nat.div_lt_self (by omega) hb) c hc
      · have hmod := Nat.mod_lt n hpos
        rw [hc, digitVal_digitChar (by omega)]
        exact hmod

@[simp] theorem valueOf_numeral (hb : 1 < base) (hb' : base ≤ 16) (n : Nat) :
    valueOf base (numeral base n) = n := by
  induction n using Nat.strongRecOn with
  | ind n ih =>
    by_cases hn : n < base
    · rw [numeral_of_lt hn]
      simp [valueOf, digitVal_digitChar (show n < 16 by omega)]
    · have hn : base ≤ n := Nat.le_of_not_lt hn
      have hmod := Nat.mod_lt n (show 0 < base by omega)
      rw [numeral_of_le hb hn, valueOf_concat, ih (n / base) (Nat.div_lt_self (by omega) hb),
        digitVal_digitChar (by omega)]
      exact Nat.div_add_mod n base

end

/-! ## Reading -/

/-- A hex digit is no white space, sign or `x`. -/
theorem hexDigit_plain {c : UInt8} (hc : digitVal c < 16) :
    isSpace c = false ∧ c ≠ 43 ∧ c ≠ 45 ∧ tolower c ≠ 120 := by
  have hall : ∀ n < 256, digitVal (UInt8.ofNat n) < 16 →
      isSpace (UInt8.ofNat n) = false ∧ UInt8.ofNat n ≠ 43 ∧ UInt8.ofNat n ≠ 45 ∧
        tolower (UInt8.ofNat n) ≠ 120 := by decide +kernel
  have hthis := hall c.toNat c.toNat_lt
  rw [UInt8.ofNat_toNat] at hthis
  exact hthis hc

section
variable {base : Nat} {digits : Bytes}

/-- What `strtol` makes of digits after the sign. -/
theorem strtol_digits_aux (hb : base ≤ 16) (hd : ∀ c ∈ digits, digitVal c < base) :
    ((if base = 16 ∧ (digits.take 2).map tolower = [48, 120] then digits.drop 2
      else digits).takeWhile (digitVal · < base)).foldl (fun n b => base * n + digitVal b) 0 =
      valueOf base digits := by
  have hprefix : (digits.take 2).map tolower ≠ [48, 120] := by
    intro h
    have hx : 120 ∈ (digits.take 2).map tolower := by rw [h]; simp
    obtain ⟨c, hc, heq⟩ := List.mem_map.mp hx
    have hplain := hexDigit_plain (Nat.lt_of_lt_of_le (hd c (List.mem_of_mem_take hc)) hb)
    exact hplain.2.2.2 heq
  have hall : ∀ c ∈ digits, decide (digitVal c < base) = true :=
    fun c hc => decide_eq_true (hd c hc)
  rw [if_neg fun h => hprefix h.2, List.takeWhile_eq_self_iff.mpr hall]
  rfl

theorem strtol_digits (hb : base ≤ 16) (hne : digits ≠ []) (hd : ∀ c ∈ digits, digitVal c < base) :
    strtol digits base = min LONG_MAX (valueOf base digits) ∧
      strtol (45 :: digits) base = max LONG_MIN (-valueOf base digits) := by
  obtain ⟨c, rest, rfl⟩ := List.exists_cons_of_ne_nil hne
  have hc := Nat.lt_of_lt_of_le (hd c (List.mem_cons_self ..)) hb
  obtain ⟨hspace, hplus, hminus, -⟩ := hexDigit_plain hc
  have hvalue := strtol_digits_aux hb hd
  refine ⟨?_, ?_⟩
  · rw [strtol, List.dropWhile_cons_of_neg (by simp [hspace])]
    simp only [List.head?_cons, Option.some.injEq, hplus, hminus, or_self, if_false]
    rw [hvalue]
  · rw [strtol, List.dropWhile_cons_of_neg (by decide)]
    simp only [List.head?_cons, List.tail_cons, or_true, if_true]
    rw [hvalue]

end

theorem strtol_numeral {base n : Nat} (hb : 1 < base) (hb' : base ≤ 16) (hn : (n : Int) ≤ LONG_MAX) :
    strtol (numeral base n) base = n := by
  rw [(strtol_digits hb' (numeral_ne_nil base n) (digitVal_of_mem_numeral hb hb' n)).1,
    valueOf_numeral hb hb']
  omega

/-- **Hex digits are read back.** -/
theorem strtol_printHex {n : Nat} (hn : (n : Int) ≤ LONG_MAX) : strtol (printHex n) 16 = n :=
  strtol_numeral (by decide) (by decide) hn

/-- **An `int` is read back.** -/
theorem atoi_printInt {v : Int} (hlow : -2147483648 ≤ v) (hhigh : v < 2147483648) :
    atoi (printInt v) = v := by
  have hread : strtol (printInt v) 10 = v := by
    unfold printInt
    obtain ⟨hpos, hneg⟩ := strtol_digits (show 10 ≤ 16 by decide) (numeral_ne_nil 10 v.natAbs)
      (digitVal_of_mem_numeral (by decide) (by decide) v.natAbs)
    rw [valueOf_numeral (by decide) (by decide)] at hpos hneg
    simp only [LONG_MAX, LONG_MIN] at hpos hneg
    split
    · rw [hneg]
      omega
    · rw [hpos]
      omega
  rw [atoi, hread, toInt32]
  exact Int.bmod_eq_of_le (by omega) (by omega)

end DeviceHal.Lib.CText
