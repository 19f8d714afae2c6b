import Mathlib.Data.List.Basic
import Mathlib.Data.Nat.Find

/-! # Searching a text for a pattern

A search compares the pattern with the text from its last position back, and
moves the pattern by a shift where they differ. It finds occurrences only; it
finds the first of them if no shift passes it. A shift passes no occurrence if
it is at most every distance by which the pattern agrees with what the failed
attempt has seen: for a short distance that is a good suffix, for a long one a
border. -/
namespace DeviceHal.Lib.StringSearch

section
variable {α : Type*} {pat text : List α} {a b j s : Nat}

def OccursAt (pat text : List α) (a : Nat) : Prop := pat <+: text.drop a

instance [DecidableEq α] (pat text : List α) (a : Nat) : Decidable (OccursAt pat text a) :=
  inferInstanceAs (Decidable (pat <+: text.drop a))

/-- The first occurrence. -/
def IsLeftmost (pat text : List α) (a : Nat) : Prop :=
  OccursAt pat text a ∧ ∀ b < a, ¬ OccursAt pat text b

instance [DecidableEq α] (pat text : List α) (a : Nat) : Decidable (IsLeftmost pat text a) :=
  inferInstanceAs (Decidable (_ ∧ _))

/-- The attempt at `a` agrees after `j`, and differs at `j`. -/
def FailsAt (pat text : List α) (a j : Nat) : Prop :=
  j < pat.length ∧ text[a + j]? ≠ pat[j]? ∧
    ∀ k < pat.length, j < k → text[a + k]? = pat[k]?

instance [DecidableEq α] (pat text : List α) (a j : Nat) : Decidable (FailsAt pat text a j) :=
  inferInstanceAs (Decidable (_ ∧ _ ∧ _))

/-- The pattern from `p` on is its beginning. -/
def Border (pat : List α) (p : Nat) : Prop := pat.drop p <+: pat

instance [DecidableEq α] (pat : List α) (p : Nat) : Decidable (Border pat p) :=
  inferInstanceAs (Decidable (pat.drop p <+: pat))

/-- What follows `j` stands `s` places before as well, after something else. -/
def GoodSuffix (pat : List α) (j s : Nat) : Prop :=
  0 < s ∧ s ≤ j ∧ pat[j - s]? ≠ pat[j]? ∧ ∀ k < pat.length, j < k → pat[k - s]? = pat[k]?

theorem occursAt_iff : OccursAt pat text a ↔ ∀ k < pat.length, text[a + k]? = pat[k]? := by
  rw [OccursAt, List.prefix_iff_getElem?]
  simp only [List.getElem?_drop]
  constructor
  · intro h k hk
    rw [h k hk, List.getElem?_eq_getElem hk]
  · intro h k hk
    rw [h k hk, List.getElem?_eq_getElem hk]

theorem border_iff {p : Nat} :
    Border pat p ↔ ∀ k < pat.length, p ≤ k → pat[k - p]? = pat[k]? := by
  rw [Border, List.prefix_iff_getElem?]
  simp only [List.length_drop, List.getElem_drop]
  constructor
  · intro h k hk hp
    have hat := h (k - p) (by omega)
    have hback : p + (k - p) = k := by omega
    simp only [hback] at hat
    rw [hat, List.getElem?_eq_getElem hk]
  · intro h k hk
    have hat := h (p + k) (by omega) (by omega)
    rw [Nat.add_sub_cancel_left] at hat
    rw [hat, List.getElem?_eq_getElem]

theorem OccursAt.length_le (h : OccursAt pat text a) (hpat : pat ≠ []) :
    a + pat.length ≤ text.length := by
  have hpos := List.length_pos_iff.mpr hpat
  have hle : pat.length ≤ (text.drop a).length := List.IsPrefix.length_le h
  rw [List.length_drop] at hle
  omega

/-- With a border at one place the pattern is one symbol that is repeated. -/
theorem Border.of_one (h : Border pat 1) (p : Nat) : Border pat p := by
  rw [border_iff] at h ⊢
  induction p with
  | zero => exact fun _ _ _ => rfl
  | succ p ih =>
    intro k hk hpk
    rw [← ih k hk (by omega), ← h (k - p) (by omega) (by omega)]
    congr 1

theorem not_goodSuffix_one {p : Nat} (hb : Border pat p) (hp : 0 < p) (hlt : p < pat.length) :
    ¬ GoodSuffix pat 1 1 := by
  intro hg
  obtain ⟨-, -, hne, hsuf⟩ := hg
  have hsame : ∀ k < pat.length, 1 ≤ k → pat[k]? = pat[1]? := by
    intro k
    induction k with
    | zero => exact fun _ h0 => absurd h0 (by omega)
    | succ k ih =>
      intro hk h1
      by_cases hk0 : k = 0
      · rw [hk0]
      · rw [← hsuf (k + 1) hk (by omega)]
        exact ih (by omega) (by omega)
  have hfirst := border_iff.mp hb p hlt (Nat.le_refl p)
  rw [Nat.sub_self] at hfirst
  exact hne (hfirst.trans (hsame p hlt hp))

theorem exists_leftmost [DecidableEq α] (h : OccursAt pat text a) : ∃ b, IsLeftmost pat text b := by
  have hex : ∃ b, OccursAt pat text b := ⟨a, h⟩
  exact ⟨Nat.find hex, Nat.find_spec hex, fun _ hlt => Nat.find_min hex hlt⟩

/-! ## What a failed attempt says about the occurrences after it -/

/-- An occurrence to which the pattern overlaps is a good suffix or a border. -/
theorem FailsAt.goodSuffix_or_border (hf : FailsAt pat text a j) (ho : OccursAt pat text (a + s))
    (hs : 0 < s) : GoodSuffix pat j s ∨ j < s ∧ Border pat s := by
  obtain ⟨hj, hne, hsuf⟩ := hf
  rw [occursAt_iff] at ho
  have hat : ∀ k < pat.length, s ≤ k → text[a + k]? = pat[k - s]? := by
    intro k hk hsk
    rw [← ho (k - s) (by omega)]
    congr 1
    omega
  by_cases hsj : s ≤ j
  · refine .inl ⟨hs, hsj, fun heq => hne ((hat j hj hsj).trans heq), fun k hk hjk => ?_⟩
    rw [← hat k hk (by omega), hsuf k hk hjk]
  · refine .inr ⟨by omega, border_iff.mpr fun k hk hsk => ?_⟩
    rw [← hat k hk hsk, hsuf k hk (by omega)]

/-- A border that starts after `j` is an occurrence in some text on which the
attempt fails at `j`. -/
theorem exists_failsAt {p : Nat} (hb : Border pat p) (hj : j < p) (hp : p < pat.length) {c : α}
    (hc : pat[j]? ≠ some c) : ∃ text : List α, text.length = p + pat.length ∧
      FailsAt pat text 0 j ∧ OccursAt pat text p := by
  have hlen : ((pat.take p).set j c).length = p := by
    rw [List.length_set, List.length_take]
    omega
  have hfront : ∀ k < p, ((pat.take p).set j c ++ pat)[k]? = ((pat.take p).set j c)[k]? :=
    fun k hk => List.getElem?_append_left (by omega)
  have hback : ∀ k, p ≤ k → ((pat.take p).set j c ++ pat)[k]? = pat[k - p]? := by
    intro k hk
    rw [List.getElem?_append_right (by omega), hlen]
  have hsym : ((pat.take p).set j c ++ pat)[j]? = some c := by
    rw [hfront j hj, List.getElem?_set_self]
    rw [List.length_take]
    omega
  refine ⟨(pat.take p).set j c ++ pat, by rw [List.length_append, hlen], ⟨by omega, ?_, ?_⟩, ?_⟩
  · rw [Nat.zero_add, hsym]
    exact hc.symm
  · intro k hk hjk
    rw [Nat.zero_add]
    by_cases hkp : k < p
    · rw [hfront k hkp, List.getElem?_set_ne (by omega), List.getElem?_take_of_lt hkp]
    · rw [hback k (by omega)]
      exact border_iff.mp hb k hk (by omega)
  · rw [occursAt_iff]
    intro k hk
    rw [hback (p + k) (by omega), Nat.add_sub_cancel_left]

/-! ## The search -/

section
variable [DecidableEq α]

/-- The last of the first `n` positions at which the attempt differs. -/
def lastMismatch (pat text : List α) (a : Nat) : Nat → Option Nat
  | 0 => none
  | j + 1 => if text[a + j]? = pat[j]? then lastMismatch pat text a j else some j

/-- Move the pattern by `shift` until it fits, for `n` attempts. -/
def search (shift : Nat → Nat → Nat) (pat text : List α) : Nat → Nat → Option (Option Nat)
  | 0, _ => none
  | n + 1, a =>
    if text.length < a + pat.length then some none
    else
      match lastMismatch pat text a pat.length with
      | none => some (some a)
      | some j => search shift pat text n (a + shift a j)

theorem lastMismatch_none {n : Nat} (h : lastMismatch pat text a n = none) :
    ∀ k < n, text[a + k]? = pat[k]? := by
  induction n with
  | zero => exact fun k hk => absurd hk (Nat.not_lt_zero k)
  | succ n ih =>
    intro k hk
    rw [lastMismatch] at h
    split at h
    · rename_i heq
      rcases Nat.lt_succ_iff_lt_or_eq.mp hk with hk | rfl
      · exact ih h k hk
      · exact heq
    · cases h

theorem lastMismatch_some {n : Nat} (h : lastMismatch pat text a n = some j) :
    j < n ∧ text[a + j]? ≠ pat[j]? ∧ ∀ k < n, j < k → text[a + k]? = pat[k]? := by
  induction n with
  | zero => cases h
  | succ n ih =>
    rw [lastMismatch] at h
    split at h
    · rename_i heq
      obtain ⟨hj, hne, hsuf⟩ := ih h
      refine ⟨by omega, hne, fun k hk hjk => ?_⟩
      rcases Nat.lt_succ_iff_lt_or_eq.mp hk with hk | rfl
      · exact hsuf k hk hjk
      · exact heq
    · rename_i hne
      obtain rfl := Option.some.inj h
      exact ⟨Nat.lt_succ_self _, hne, fun k hk hjk => absurd hk (by omega)⟩

theorem lastMismatch_eq_none_iff :
    lastMismatch pat text a pat.length = none ↔ OccursAt pat text a := by
  rw [occursAt_iff]
  refine ⟨lastMismatch_none, fun h => ?_⟩
  cases hm : lastMismatch pat text a pat.length with
  | none => rfl
  | some j =>
    obtain ⟨hj, hne, -⟩ := lastMismatch_some hm
    exact absurd (h j hj) hne

theorem lastMismatch_eq_some_iff :
    lastMismatch pat text a pat.length = some j ↔ FailsAt pat text a j := by
  refine ⟨lastMismatch_some, fun h => ?_⟩
  obtain ⟨hj, hne, hsuf⟩ := h
  cases hm : lastMismatch pat text a pat.length with
  | none => exact absurd (lastMismatch_none hm j hj) hne
  | some i =>
    obtain ⟨hi, hnei, hsufi⟩ := lastMismatch_some hm
    rcases Nat.lt_trichotomy i j with hlt | rfl | hgt
    · exact absurd (hsufi j hj hlt) hne
    · rfl
    · exact absurd (hsuf i hi hgt) hnei

variable {shift : Nat → Nat → Nat} {n : Nat}

/-- What is found is an occurrence, whatever the shifts are. -/
theorem search_sound (h : search shift pat text n a = some (some b)) : OccursAt pat text b := by
  induction n generalizing a with
  | zero => cases h
  | succ n ih =>
    rw [search] at h
    split at h
    · cases Option.some.inj h
    · split at h
      · rename_i hm
        obtain rfl := Option.some.inj (Option.some.inj h)
        exact lastMismatch_eq_none_iff.mp hm
      · exact ih h

/-- With shifts that move the pattern the search ends, and more attempts change
nothing. -/
theorem search_ends (hpat : pat ≠ [])
    (hpos : ∀ a j, a + pat.length ≤ text.length → FailsAt pat text a j → 0 < shift a j) (a : Nat) :
    ∃ r, ∀ n, text.length ≤ a + n → search shift pat text (n + 1) a = some r := by
  have hlen := List.length_pos_iff.mpr hpat
  induction hm : text.length - a using Nat.strongRecOn generalizing a with
  | _ m ih =>
    by_cases hend : text.length < a + pat.length
    · exact ⟨none, fun n _ => by rw [search, if_pos hend]⟩
    · cases hlast : lastMismatch pat text a pat.length with
      | none => exact ⟨some a, fun n _ => by rw [search, if_neg hend, hlast]⟩
      | some j =>
        have hmoves := hpos a j (by omega) (lastMismatch_eq_some_iff.mp hlast)
        obtain ⟨r, hr⟩ := ih _ (by omega) (a + shift a j) rfl
        refine ⟨r, fun n hn => ?_⟩
        rw [search, if_neg hend, hlast]
        -- the text is longer than `a`, so another attempt is left
        obtain ⟨n, rfl⟩ : ∃ k, n = k + 1 := ⟨n - 1, by omega⟩
        exact hr n (by omega)

/-- A search whose shifts do not pass the first occurrence finds it. -/
theorem search_finds (hpat : pat ≠ []) (hb : IsLeftmost pat text b)
    (hsafe : ∀ a < b, ∀ j, FailsAt pat text a j → a + shift a j ≤ b) {r : Option Nat}
    (hr : search shift pat text n a = some r) (hab : a ≤ b) : r = some b := by
  induction n generalizing a with
  | zero => cases hr
  | succ n ih =>
    have hlen := hb.1.length_le hpat
    rw [search, if_neg (by omega)] at hr
    split at hr
    · rename_i hm
      obtain rfl := Option.some.inj hr
      have hocc := lastMismatch_eq_none_iff.mp hm
      have hge : ¬ a < b := fun hlt => hb.2 a hlt hocc
      rw [show a = b by omega]
    · rename_i j hm
      have hf := lastMismatch_eq_some_iff.mp hm
      have hlt : a < b := by
        refine Nat.lt_of_le_of_ne hab fun heq => ?_
        rw [heq, lastMismatch_eq_none_iff.mpr hb.1] at hm
        cases hm
      exact ih hr (hsafe a hlt j hf)

/-- A shift to the end of the text ends the search. -/
theorem search_passes (hf : FailsAt pat text a j) (hfits : a + pat.length ≤ text.length)
    (hpast : text.length < a + shift a j + pat.length) :
    search shift pat text (n + 2) a = some none := by
  rw [search, if_neg (by omega), lastMismatch_eq_some_iff.mpr hf]
  dsimp only
  rw [search, if_pos hpast]

end

end

end DeviceHal.Lib.StringSearch
