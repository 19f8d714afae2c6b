import Mathlib.Algebra.Group.Nat.Defs
import Mathlib.Data.List.Basic

/-! # Text in byte buffers

`strncmp`, `strlcpy`, `strtol`, `%zu` of `sscanf` and `std::to_string` on lists of bytes. A buffer
that holds a decimal number is read back as that number exactly if no digit
follows it; what stands behind the number is whatever the buffer holds. -/
namespace DeviceHal.Lib.CText

abbrev Bytes := List UInt8

/-- The bytes of an ASCII string literal. -/
def bytesOf (text : List Char) : Bytes := text.map Char.toUInt8

/-- `strncmp` of two buffers; past its end a buffer reads as NUL. -/
def strncmp : Bytes → Bytes → Nat → Int
  | _, _, 0 => 0
  | a, b, n + 1 =>
    let x := a.headD 0
    let y := b.headD 0
    if x ≠ y then (x.toNat : Int) - y.toNat
    else if x = 0 then 0
    else strncmp a.tail b.tail n

def tolower (b : UInt8) : UInt8 := if 65 ≤ b && b ≤ 90 then b + 32 else b

/-- The comparison without case, in the C locale. -/
def strncasecmp (a b : Bytes) (n : Nat) : Int := strncmp (a.map tolower) (b.map tolower) n

def isSpace (b : UInt8) : Bool := b == 32 || (9 ≤ b && b ≤ 13)

def isDigit (b : UInt8) : Bool := 48 ≤ b && b ≤ 57

def SIZE_MAX : Nat := 2 ^ 64 - 1

/-- The number the digits denote. -/
def decimal (digits : Bytes) : Nat := digits.foldl (fun n b => 10 * n + (b.toNat - 48)) 0

/-- The conversion of `%zu`: white space, a sign and digits, as `strtoul` reads
them; `none` is a matching failure, which leaves the argument alone. -/
def scanSize (text : Bytes) : Option Nat :=
  let text := text.dropWhile isSpace
  let negative := text.head? = some 45
  let text := if text.head? = some 43 ∨ negative then text.tail else text
  let digits := text.takeWhile isDigit
  if digits = [] then none
  else if SIZE_MAX < decimal digits then some SIZE_MAX
  else if negative then some ((SIZE_MAX + 1 - decimal digits) % (SIZE_MAX + 1))
  else some (decimal digits)

/-- The text of a C string: what stands before the first NUL. -/
def cstr (b : Bytes) : Bytes := b.takeWhile (· ≠ 0)

/-- The text that `strlcpy` leaves in a buffer of `size` bytes. -/
def strlcpy (src : Bytes) (size : Nat) : Bytes := (cstr src).take (size - 1)

/-- The value of a digit or a letter, as `strtol` takes it; 36 for any other byte. -/
def digitVal (b : UInt8) : Nat :=
  if isDigit b then b.toNat - 48
  else if 97 ≤ b && b ≤ 122 then b.toNat - 87
  else if 65 ≤ b && b ≤ 90 then b.toNat - 55
  else 36

/-- A digit as `%X` prints it. -/
def hexDigit (n : Nat) : UInt8 := (Nat.digitChar n).toUpper.toUInt8

def LONG_MAX : Int := 9223372036854775807
def LONG_MIN : Int := -9223372036854775808

/-- `strtol` in base 10 or 16. -/
def strtol (text : Bytes) (base : Nat) : Int :=
  let text := text.dropWhile isSpace
  let negative := text.head? = some 45
  let text := if text.head? = some 43 ∨ negative then text.tail else text
  let text := if base = 16 ∧ (text.take 2).map tolower = [48, 120] then text.drop 2 else text
  let value := (text.takeWhile (digitVal · < base)).foldl (fun n b => base * n + digitVal b) 0
  if negative then max LONG_MIN (-value) else min LONG_MAX value

/-- The conversion to `int`. -/
def toInt32 (v : Int) : Int := v.bmod (2 ^ 32)

def atoi (text : Bytes) : Int := toInt32 (strtol text 10)

/-- Floating point numbers as texts and integers become them. -/
class FloatText (F : Type) where
  atof : Bytes → F
  /-- From `double` to `float`. -/
  narrow : F → F
  ofInt : Int → F

/-- Whole numbers in place of floating point ones. -/
instance : FloatText Int where
  atof text := strtol text 10
  narrow x := x
  ofInt v := v

/-- `std::to_string` of a length. -/
def to_string (n : Nat) : Bytes := bytesOf (Nat.toDigits 10 n)

/-! ## C strings -/

/-- A text in memory with its NUL and whatever stands behind it. -/
structure CString where
  text : Bytes
  nul_not_mem : 0 ∉ text
  behind : Bytes

def CString.buffer (s : CString) : Bytes := s.text ++ 0 :: s.behind

theorem forall_ne_of_not_mem {b : UInt8} {text : Bytes} (hb : b ∉ text) :
    ∀ c ∈ text, decide (c ≠ b) = true := by
  intro c hc
  simpa using fun (heq : c = b) => hb (heq ▸ hc)

theorem takeWhile_ne_append {b : UInt8} {text : Bytes} (hb : b ∉ text) (rest : Bytes) :
    (text ++ rest).takeWhile (· ≠ b) = text ++ rest.takeWhile (· ≠ b) :=
  List.takeWhile_append_of_pos (forall_ne_of_not_mem hb)

theorem dropWhile_ne_append {b : UInt8} {text : Bytes} (hb : b ∉ text) (rest : Bytes) :
    (text ++ rest).dropWhile (· ≠ b) = rest.dropWhile (· ≠ b) :=
  List.dropWhile_append_of_pos (forall_ne_of_not_mem hb)

/-- What stands behind the first NUL is no part of the text. -/
theorem cstr_append {text : Bytes} (hnul : 0 ∉ text) (junk : Bytes) :
    cstr (text ++ 0 :: junk) = text := by
  rw [cstr, takeWhile_ne_append hnul]
  simp

theorem cstr_eq {text : Bytes} (hnul : 0 ∉ text) : cstr text = text := by
  rw [cstr, ← List.append_nil text, takeWhile_ne_append hnul]
  rfl

@[simp] theorem cstr_buffer (s : CString) : cstr s.buffer = s.text :=
  cstr_append s.nul_not_mem s.behind

theorem length_buffer (s : CString) : s.buffer.length = s.text.length + 1 + s.behind.length := by
  simp [CString.buffer]
  omega

theorem getElem?_buffer {s : CString} {i : Nat} (hi : i < s.text.length) :
    s.buffer[i]? = some s.text[i] := by
  rw [CString.buffer, List.getElem?_append_left hi, List.getElem?_eq_getElem hi]

theorem getElem?_buffer_length (s : CString) : s.buffer[s.text.length]? = some 0 := by
  simp [CString.buffer]

/-! ## Comparison -/

theorem strncmp_eq_zero_iff {text : Bytes} (hnul : 0 ∉ text) (a : Bytes) :
    strncmp a text text.length = 0 ↔ text <+: a := by
  induction text generalizing a with
  | nil => simp [strncmp]
  | cons y text ih =>
    have hy : y ≠ 0 := fun h => hnul (by simp [h])
    have hrest : 0 ∉ text := fun h => hnul (List.mem_cons_of_mem y h)
    rw [List.length_cons, strncmp]
    cases a with
    | nil =>
      have hpos : y.toNat ≠ 0 := fun h => hy (UInt8.toNat_inj.mp h)
      simp [hy.symm]
      omega
    | cons x a =>
      by_cases hxy : x = y
      · subst hxy
        simpa [hy] using ih hrest a
      · have hne : x.toNat ≠ y.toNat := fun h => hxy (UInt8.toNat_inj.mp h)
        simp only [List.headD_cons, ne_eq, hxy, not_false_eq_true, if_true, List.cons_prefix_cons]
        constructor
        · intro h
          omega
        · intro h
          exact absurd h.1.symm hxy

/-- A text without NUL begins a buffer exactly if it begins the C string in it. -/
theorem prefix_cstr_iff {text : Bytes} (hnul : 0 ∉ text) (data : Bytes) :
    text <+: cstr data ↔ text <+: data := by
  constructor
  · intro h
    exact h.trans (List.takeWhile_prefix _)
  · rintro ⟨rest, rfl⟩
    exact ⟨cstr rest, (takeWhile_ne_append hnul rest).symm⟩

theorem strncmp_swap (a b : Bytes) (n : Nat) : strncmp b a n = -strncmp a b n := by
  induction n generalizing a b with
  | zero => simp [strncmp]
  | succ n ih =>
    rw [strncmp, strncmp]
    by_cases hxy : a.headD 0 = b.headD 0
    · rw [if_neg (not_not.mpr hxy), if_neg (not_not.mpr hxy.symm), hxy]
      split
      · rfl
      · exact ih _ _
    · rw [if_pos hxy, if_pos (Ne.symm hxy)]
      omega

/-! ## Numbers -/

theorem toInt32_le (n : Nat) : toInt32 n ≤ n := by
  rw [toInt32, Int.bmod_def]
  split <;> omega

theorem toInt32_of_near {x : Int} (hlo : -2147483648 ≤ x) (hhi : x < 2147483648) :
    toInt32 x = x :=
  Int.bmod_eq_of_le (by omega) (by omega)

theorem toInt32_eq_iff (n : Nat) : toInt32 n = n ↔ n < 2 ^ 31 := by
  rw [toInt32, Int.bmod_def]
  split <;> omega

theorem hexDigit_mem {n : Nat} (hn : n < 16) :
    hexDigit n ∈ bytesOf "0123456789ABCDEF".toList := by
  have hall : ∀ n < 16, hexDigit n ∈ bytesOf "0123456789ABCDEF".toList := by decide
  exact hall n hn

theorem hexDigit_ne_zero {n : Nat} (hn : n < 16) : hexDigit n ≠ 0 := by
  intro hzero
  have hmem := hexDigit_mem hn
  rw [hzero] at hmem
  exact absurd hmem (by decide)

theorem digitVal_hexDigit {n : Nat} (hn : n < 16) : digitVal (hexDigit n) = n := by
  have hall : ∀ n < 16, digitVal (hexDigit n) = n := by decide
  exact hall n hn

theorem toNat_toUInt8 {c : Char} (hc : c.isDigit = true) : c.toUInt8.toNat = c.toNat := by
  obtain ⟨_, h9⟩ := Char.isDigit_iff_toNat.mp hc
  have hle : c.toNat ≤ 57 := h9
  show c.val.toUInt8.toNat = c.val.toNat
  rw [UInt32.toNat_toUInt8]
  exact Nat.mod_eq_of_lt (Nat.lt_of_le_of_lt hle (by decide))

theorem isDigit_toUInt8 {c : Char} (hc : c.isDigit = true) : isDigit c.toUInt8 = true := by
  obtain ⟨h0, h9⟩ := Char.isDigit_iff_toNat.mp hc
  have h0 : 48 ≤ c.toUInt8.toNat := by rw [toNat_toUInt8 hc]; exact h0
  have h9 : c.toUInt8.toNat ≤ 57 := by rw [toNat_toUInt8 hc]; exact h9
  simp only [isDigit, Bool.and_eq_true, decide_eq_true_eq, UInt8.le_iff_toNat_le]
  exact ⟨h0, h9⟩

theorem decimal_bytesOf {cs : List Char} (hcs : ∀ c ∈ cs, c.isDigit = true) :
    decimal (bytesOf cs) = Nat.ofDigitChars 10 cs 0 := by
  have hfrom : ∀ n, (bytesOf cs).foldl (fun n b => 10 * n + (b.toNat - 48)) n
      = Nat.ofDigitChars 10 cs n := by
    induction cs with
    | nil => intro n; simp [bytesOf]
    | cons c cs ih =>
      intro n
      have hc := toNat_toUInt8 (hcs c (List.mem_cons_self ..))
      rw [Nat.ofDigitChars_cons, ← ih (fun d hd => hcs d (List.mem_cons_of_mem c hd))]
      show List.foldl _ (10 * n + (c.toUInt8.toNat - 48)) _ = _
      rw [hc]
      rfl
  exact hfrom 0

theorem isDigit_of_mem_toDigits {n : Nat} : ∀ c ∈ Nat.toDigits 10 n, c.isDigit = true :=
  fun _ hc => Nat.isDigit_of_mem_toDigits (by decide) (by decide) hc

@[simp] theorem decimal_to_string (n : Nat) : decimal (to_string n) = n := by
  rw [to_string, decimal_bytesOf isDigit_of_mem_toDigits, Nat.ofDigitChars_ten_toDigits]

theorem isDigit_of_mem_to_string {n : Nat} {b : UInt8} (hb : b ∈ to_string n) :
    isDigit b = true := by
  obtain ⟨c, hc, rfl⟩ := List.mem_map.mp hb
  exact isDigit_toUInt8 (isDigit_of_mem_toDigits c hc)

theorem to_string_injective {m n : Nat} (h : to_string m = to_string n) : m = n := by
  rw [← decimal_to_string m, h, decimal_to_string]

/-- Zeros in front do not count. -/
theorem decimal_replicate_append (k : Nat) (digits : Bytes) :
    decimal (List.replicate k 48 ++ digits) = decimal digits := by
  induction k with
  | zero => rfl
  | succ k ih => exact ih

theorem to_string_ne_nil (n : Nat) : to_string n ≠ [] := by
  simp [to_string, bytesOf, Nat.toDigits_ne_nil]

/-- The text is digits, and `n` the number that they denote. -/
structure Denotes (text : Bytes) (n : Nat) : Prop where
  ne_nil : text ≠ []
  digits : ∀ b ∈ text, isDigit b = true
  value : decimal text = n

theorem denotes_to_string (n : Nat) : Denotes (to_string n) n :=
  ⟨to_string_ne_nil n, fun _ hb => isDigit_of_mem_to_string hb, decimal_to_string n⟩

/-- Zeros in front do not change the number. -/
theorem Denotes.replicate_append {text : Bytes} {n : Nat} (h : Denotes text n) (k : Nat) :
    Denotes (List.replicate k 48 ++ text) n where
  ne_nil := List.append_ne_nil_of_right_ne_nil _ h.ne_nil
  digits b hb := by
    rcases List.mem_append.mp hb with hb | hb
    · rw [(List.mem_replicate.mp hb).2]
      decide
    · exact h.digits b hb
  value := (decimal_replicate_append k text).trans h.value

/-- The text of a number that may have a minus sign. -/
def DenotesInt (text : Bytes) : Int → Prop
  | .ofNat n => Denotes text n
  | .negSucc n => ∃ digits, text = 45 :: digits ∧ Denotes digits (n + 1)

/-- A text denotes one number. -/
theorem DenotesInt.unique {text : Bytes} {x y : Int} (hx : DenotesInt text x)
    (hy : DenotesInt text y) : x = y := by
  have hminus : ∀ {digits : Bytes} {n : Nat}, ¬ Denotes (45 :: digits) n := fun h =>
    absurd (h.digits 45 List.mem_cons_self) (by decide)
  cases x with
  | ofNat m =>
    cases y with
    | ofNat n => exact congrArg Int.ofNat (hx.value.symm.trans hy.value)
    | negSucc n =>
      obtain ⟨digits, rfl, -⟩ := hy
      exact absurd hx hminus
  | negSucc m =>
    obtain ⟨digits, rfl, hm⟩ := hx
    cases y with
    | ofNat n => exact absurd hy hminus
    | negSucc n =>
      obtain ⟨digits', he, hn⟩ := hy
      cases he
      have hsame := hm.value.symm.trans hn.value
      have hmn : m = n := by omega
      rw [hmn]

/-- A `uint32_t` has at most ten digits. -/
theorem length_to_string_le {n : Nat} (hn : n < 2 ^ 32) : (to_string n).length ≤ 10 := by
  rw [to_string, bytesOf, List.length_map, Nat.length_toDigits_le_iff (by decide) (by decide)]
  omega

theorem le_decimal_append (digits : Bytes) (b : UInt8) (more : Bytes) :
    10 * decimal digits ≤ decimal (digits ++ b :: more) := by
  have hgrow : ∀ (more : Bytes) (n : Nat),
      n ≤ more.foldl (fun n b => 10 * n + (b.toNat - 48)) n := by
    intro more
    induction more with
    | nil => exact fun n => Nat.le_refl n
    | cons b more ih =>
      intro n
      have hb : n ≤ 10 * n + (b.toNat - 48) := by omega
      exact Nat.le_trans hb (ih _)
  show _ ≤ (digits ++ b :: more).foldl _ 0
  rw [List.foldl_append, List.foldl_cons]
  exact Nat.le_trans (Nat.le_add_right _ _) (hgrow more _)

theorem not_space_of_isDigit {b : UInt8} (hb : isDigit b = true) :
    isSpace b = false ∧ b ≠ 43 ∧ b ≠ 45 := by
  simp only [isDigit, isSpace, Bool.and_eq_true, decide_eq_true_eq, Bool.or_eq_false_iff,
    beq_eq_false_iff_ne, Bool.and_eq_false_iff, decide_eq_false_iff_not, ne_eq,
    UInt8.le_iff_toNat_le, ← UInt8.toNat_inj] at hb ⊢
  simp only [UInt8.reduceToNat] at hb ⊢
  omega

/-- `%zu` reads the digits of a length and every digit that happens to follow. -/
theorem scanSize_to_string (n : Nat) (rest : Bytes) :
    scanSize (to_string n ++ rest) =
      some (min (decimal (to_string n ++ rest.takeWhile isDigit)) SIZE_MAX) := by
  obtain ⟨b, ds, hds⟩ := List.exists_cons_of_ne_nil (to_string_ne_nil n)
  have hall : ∀ c ∈ to_string n, isDigit c = true := fun c hc => isDigit_of_mem_to_string hc
  have hb : isDigit b = true := hall b (by simp [hds])
  obtain ⟨hnospace, hplus, hminus⟩ := not_space_of_isDigit hb
  have hdigits : (to_string n ++ rest).takeWhile isDigit = to_string n ++ rest.takeWhile isDigit :=
    List.takeWhile_append_of_pos hall
  have hspace : (to_string n ++ rest).dropWhile isSpace = to_string n ++ rest := by
    rw [hds, List.cons_append, List.dropWhile_cons_of_neg (by simp [hnospace])]
  have hhead : (to_string n ++ rest).head? = some b := by rw [hds]; rfl
  have hsome : to_string n ++ rest.takeWhile isDigit ≠ [] := by simp [to_string_ne_nil]
  simp only [scanSize, hspace, hhead, Option.some.injEq, hplus, hminus, or_self, if_false, hdigits,
    hsome]
  split <;> congr 1 <;> omega

end DeviceHal.Lib.CText
