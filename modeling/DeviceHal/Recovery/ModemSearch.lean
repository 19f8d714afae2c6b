import DeviceHal.Recovery.ShiftTables

/-! # The search for the modem's version

`bm_search` of `recovery_updater.cpp`. The indices of its loop are those of the
byte that is compared, so the attempt at `a` begins at `a + pat_len - 1`. -/
namespace DeviceHal.Recovery.ModemSearch
open DeviceHal.Lib.CText DeviceHal.Lib.Loop DeviceHal.Lib.StringSearch
open DeviceHal.Recovery.ShiftTables

/-! ## The function -/

/-- The inner loop: `i` and `j` when it ends, from `n - 1` for `j`. -/
def matchBack (str pat : Bytes) : Nat → Int → Option (Int × Int)
  | 0, i => some (i, -1)
  | j + 1, i => do
    let x ← index str i
    let y ← index pat j
    if x = y then matchBack str pat j (i - 1) else some (i, j)

/-- The sum of two `int`s, which must not overflow. -/
def addInt (i k : Int) : Option Int :=
  if -INT_MAX - 1 ≤ i + k ∧ i + k ≤ INT_MAX then some (i + k) else none

/-- An address in the text, which must not stand before it. -/
def offset (i : Int) : Option Nat := if 0 ≤ i then some i.toNat else none

/-- The outer loop's body. -/
def attempt (delta1 delta2 : Table) (str pat : Bytes) (i : Int) : Option (Int ⊕ Option Nat) :=
  if i < toInt str.length then do
    let (i, j) ← matchBack str pat pat.length i
    if j < 0 then
      let found ← offset (i + 1)
      some (.inr (some found))
    else
      let c ← index str i
      let d1 ← delta1.read c.toNat
      let d2 ← delta2.read j
      let next ← addInt i (max d1 d2)
      some (.inl next)
  else some (.inr none)

/-- The offset that is found, in at most `n` rounds of the outer loop. -/
def bm_search (n : Nat) (str pat : Bytes) : Option (Option Nat) := do
  let delta1 ← bm_make_delta1 (.uninit ALPHABET_LEN) pat
  let delta2 ← bm_make_delta2 (.uninit pat.length) pat
  if pat.length = 0 then some (some 0)
  else rounds (attempt delta1 delta2 str pat) n (toInt (pat.length - 1))

/-! ## One attempt -/

section
variable {str pat : Bytes} {delta1 delta2 : Table} {a j n s : Nat}

theorem matchBack_eq (hn : n ≤ pat.length) (hfits : a + pat.length ≤ str.length) :
    matchBack str pat n ((a + n : Nat) - 1) =
      some (match lastMismatch pat str a n with
        | none => ((a : Int) - 1, -1)
        | some j => (((a + j : Nat) : Int), (j : Int))) := by
  induction n with
  | zero => rfl
  | succ n ih =>
    have hx := index_of_lt str (show ((a + (n + 1) : Nat) : Int) - 1 = (a + n : Nat) by omega)
      (by omega)
    have hy := index_of_lt pat (show (n : Int) = n from rfl) (by omega)
    rw [matchBack, hx, hy, lastMismatch, List.getElem?_eq_getElem (show a + n < _ by omega),
      List.getElem?_eq_getElem (show n < _ by omega)]
    simp only [Option.bind_eq_bind, Option.bind_some, Option.some.injEq]
    split
    · rw [show ((a + (n + 1) : Nat) : Int) - 1 - 1 = (a + n : Nat) - 1 by omega]
      exact ih (by omega)
    · simp only [Option.some.injEq, Prod.mk.injEq, and_true]
      omega

/-- The tables that the two functions make. -/
structure Tables (pat : Bytes) (delta1 delta2 : Table) : Prop where
  bad : ∀ c : UInt8, ∃ v : Nat, delta1.read c.toNat = some (v : Int) ∧ BadCharacter pat c v
  good : ∀ j < pat.length, ∃ v, Holds pat delta2 j v ∧ Entry pat 1 j v

/-- The distance by which an attempt at `a` that differs at `j` moves the
pattern. -/
def moves (delta1 delta2 : Table) (str pat : Bytes) (a j : Nat) : Nat :=
  (max ((delta1.read (str.getD (a + j) 0).toNat).getD 0) ((delta2.read j).getD 0) -
    (pat.length - 1 - j : Nat)).toNat

theorem moves_spec (ht : Tables pat delta1 delta2) (hf : FailsAt pat str a j)
    (hfits : a + pat.length ≤ str.length) (hlen : 2 * pat.length ≤ INT_MAX) :
    ∃ c d1 d2, str[a + j]? = some c ∧ delta1.read c.toNat = some ((d1 : Nat) : Int) ∧
      BadCharacter pat c d1 ∧
      delta2.read j = some ((d2 + (pat.length - 1 - j) : Nat) : Int) ∧ Entry pat 1 j d2 ∧
      moves delta1 delta2 str pat a j = max (d1 - (pat.length - 1 - j)) d2 := by
  have hj := hf.1
  have hlt : a + j < str.length := by omega
  obtain ⟨d1, hd1, hbad⟩ := ht.bad str[a + j]
  obtain ⟨d2, hd2, hentry⟩ := ht.good j hj
  have hbounds := hentry.bounds hj
  rw [Holds, toInt_eq (by omega)] at hd2
  refine ⟨_, d1, d2, List.getElem?_eq_getElem hlt, hd1, hbad, hd2, hentry, ?_⟩
  have hsym : str.getD (a + j) 0 = str[a + j] := by
    rw [List.getD_eq_getElem?_getD, List.getElem?_eq_getElem hlt, Option.getD_some]
  rw [moves, hsym, hd1, hd2, Option.getD_some, Option.getD_some]
  omega

theorem attempt_eq (hpat : pat ≠ []) (ht : Tables pat delta1 delta2)
    (hlen : str.length + pat.length < INT_MAX) :
    attempt delta1 delta2 str pat ((a + pat.length : Nat) - 1) =
      if str.length < a + pat.length then some (.inr none)
      else match lastMismatch pat str a pat.length with
        | none => some (.inr (some a))
        | some j => some (.inl ((a + moves delta1 delta2 str pat a j + pat.length : Nat) - 1)) := by
  have hpos := List.length_pos_iff.mpr hpat
  rw [attempt, toInt_eq (by omega)]
  by_cases hfits : a + pat.length ≤ str.length
  · rw [if_pos (by omega), if_neg (by omega), matchBack_eq (Nat.le_refl _) hfits]
    cases hm : lastMismatch pat str a pat.length with
    | none =>
      have hstart : offset ((a : Int) - 1 + 1) = some a := by
        rw [offset, if_pos (by omega)]
        congr 1
        omega
      simp only [Option.bind_eq_bind, Option.bind_some, hstart]
      rfl
    | some j =>
      have hf := lastMismatch_eq_some_iff.mp hm
      obtain ⟨c, d1, d2, hc, hd1, hbad, hd2, hentry, hmoves⟩ := moves_spec ht hf hfits (by omega)
      have hj := hf.1
      have hle := (hentry.bounds hj).2
      have hle1 := hbad.1
      have hsum : ((a + j : Nat) : Int) + max (d1 : Int) ((d2 + (pat.length - 1 - j) : Nat) : Int) =
          ((a + moves delta1 delta2 str pat a j + pat.length : Nat) : Int) - 1 := by omega
      simp only [Option.bind_eq_bind, Option.bind_some, index_natCast str rfl, hc, hd1, hd2, addInt,
        hsum, if_neg (show ¬ (j : Int) < 0 by omega)]
      rw [if_pos (by omega)]
      rfl
  · rw [if_neg (by omega), if_pos (by omega)]

theorem rounds_attempt_eq (hpat : pat ≠ []) (ht : Tables pat delta1 delta2)
    (hlen : str.length + pat.length < INT_MAX) (n a : Nat) :
    rounds (attempt delta1 delta2 str pat) n ((a + pat.length : Nat) - 1) =
      search (moves delta1 delta2 str pat) pat str n a := by
  induction n generalizing a with
  | zero => rfl
  | succ n ih =>
    rw [rounds, search, attempt_eq hpat ht hlen]
    split
    · rfl
    · cases lastMismatch pat str a pat.length with
      | none => rfl
      | some j => exact ih _

/-- The code searches as the tables say. -/
theorem bm_search_eq (hpat : pat ≠ []) (hnul : 0 ∉ pat)
    (hlen : str.length + pat.length < INT_MAX) :
    ∃ delta1 delta2, Tables pat delta1 delta2 ∧
      ∀ n, bm_search n str pat = search (moves delta1 delta2 str pat) pat str n 0 := by
  have hpos := List.length_pos_iff.mpr hpat
  obtain ⟨delta1, hd1, hbad⟩ := bm_make_delta1_spec hpos (by omega)
  obtain ⟨delta2, hd2, hgood⟩ := bm_make_delta2_spec hnul
  refine ⟨delta1, delta2, ⟨hbad, hgood⟩, fun n => ?_⟩
  rw [← rounds_attempt_eq hpat ⟨hbad, hgood⟩ hlen, bm_search, hd1, hd2, Option.bind_eq_bind,
    Option.bind_some, Option.bind_some, if_neg (by omega), toInt_eq (by omega),
    show ((pat.length - 1 : Nat) : Int) = ((0 + pat.length : Nat) : Int) - 1 by omega]

end

/-! ## Soundness -/

theorem bm_search_runs {str pat : Bytes} (hpat : pat ≠ []) (hnul : 0 ∉ pat)
    (hlen : str.length + pat.length < INT_MAX) :
    ∃ r, ∀ n, str.length < n → bm_search n str pat = some r := by
  obtain ⟨delta1, delta2, ht, heq⟩ := bm_search_eq hpat hnul hlen
  have hmoves : ∀ a j, a + pat.length ≤ str.length → FailsAt pat str a j →
      0 < moves delta1 delta2 str pat a j := by
    intro a j hfits hf
    obtain ⟨_, d1, d2, -, -, -, -, hentry, hmoves⟩ := moves_spec ht hf hfits (by omega)
    have hbounds := hentry.bounds hf.1
    omega
  obtain ⟨r, hr⟩ := search_ends hpat hmoves 0
  refine ⟨r, fun n hn => ?_⟩
  obtain ⟨n, rfl⟩ : ∃ k, n = k + 1 := ⟨n - 1, by omega⟩
  rw [heq]
  exact hr n (by omega)

/-- **The search ends without a fault, and what it finds is an occurrence of the
pattern in the text.** -/
theorem bm_search_ends {str pat : Bytes} (hpat : pat ≠ []) (hnul : 0 ∉ pat)
    (hlen : str.length + pat.length < INT_MAX) :
    ∃ r, (∀ n, str.length < n → bm_search n str pat = some r) ∧
      ∀ a, r = some a → OccursAt pat str a ∧ a + pat.length ≤ str.length := by
  obtain ⟨delta1, delta2, -, heq⟩ := bm_search_eq hpat hnul hlen
  obtain ⟨r, hr⟩ := bm_search_runs hpat hnul hlen
  refine ⟨r, hr, fun a ha => ?_⟩
  have hrun := hr (str.length + 1) (Nat.lt_succ_self _)
  rw [heq, ha] at hrun
  have hocc := search_sound hrun
  exact ⟨hocc, hocc.length_le hpat⟩

theorem bm_search_ends_at_border :
    ∃ r, (∀ n, 5 < n →
        bm_search n (bytesOf ['x', 'c', 'a', 'b', 'a']) (bytesOf ['a', 'b', 'a']) = some r) ∧
      ∀ a, r = some a → OccursAt (bytesOf ['a', 'b', 'a']) (bytesOf ['x', 'c', 'a', 'b', 'a']) a ∧
        a + 3 ≤ 5 :=
  @bm_search_ends (bytesOf ['x', 'c', 'a', 'b', 'a']) (bytesOf ['a', 'b', 'a'])
    (by decide) (by decide) (by decide)

/-! ## Completeness -/

section
variable {str pat : Bytes} {delta1 delta2 : Table} {a j n s : Nat}

/-- No entry passes an occurrence, but for one at a border. -/
theorem entry_le {v : Nat} (he : Entry pat 1 j v) (hs : 0 < s)
    (hshift : GoodSuffix pat j s ∨ j < s ∧ Border pat s)
    (hborder : s < pat.length → Border pat s → Border pat 1) (hj : j < pat.length) : v ≤ s := by
  have hbounds := he.bounds hj
  rcases hshift with hg | ⟨hjs, hb⟩
  · rcases he with ⟨-, -, hleast⟩ | ⟨hnone, -⟩
    · exact hleast s hs hg
    · exact absurd hg (hnone s hs)
  · by_cases hlong : pat.length ≤ s
    · omega
    · have hone := hborder (by omega) hb
      have hall := hone.of_one j
      rcases he with ⟨hg, -⟩ | ⟨-, hlast⟩
      · have := hg.2.1
        omega
      · rcases hlast with ⟨q, hq, -, -, hnone, rfl⟩ | ⟨hnone, -⟩
        · by_contra hgt
          exact hnone j (Nat.le_refl j) (by omega) hall
        · exact absurd hb (hnone s (by omega) (by omega))

theorem badCharacter_le {c : UInt8} {v : Nat} (hbad : BadCharacter pat c v)
    (hc : str[a + j]? = some c) (ho : OccursAt pat str (a + s)) (hs : 0 < s) (hj : j < pat.length) :
    v - (pat.length - 1 - j) ≤ s := by
  obtain ⟨hle, hlast⟩ := hbad
  by_cases hsj : s ≤ j
  · have hat := occursAt_iff.mp ho (j - s) (by omega)
    rw [show a + s + (j - s) = a + j by omega, hc] at hat
    have hk := hlast (j - s) (by omega) hat.symm
    omega
  · omega

theorem moves_le (ht : Tables pat delta1 delta2) (hf : FailsAt pat str a j)
    (hfits : a + pat.length ≤ str.length) (hlen : 2 * pat.length ≤ INT_MAX)
    (ho : OccursAt pat str (a + s)) (hs : 0 < s)
    (hborder : s < pat.length → Border pat s → Border pat 1) :
    moves delta1 delta2 str pat a j ≤ s := by
  obtain ⟨c, d1, d2, hc, -, hbad, -, hentry, hmoves⟩ := moves_spec ht hf hfits hlen
  rw [hmoves]
  exact Nat.max_le.mpr ⟨badCharacter_le hbad hc ho hs hf.1,
    entry_le hentry hs (hf.goodSuffix_or_border ho hs) hborder hf.1⟩

/-- An attempt that fails at the second byte moves the pattern past its first
border `q`, and past a text that ends with the pattern there. -/
theorem bm_search_passes {q : Nat} (hnul : 0 ∉ pat) (hb : Border pat q) (hq : 0 < q)
    (hlt : q < pat.length) (hfirst : ∀ r < q, 0 < r → ¬ Border pat r)
    (hlen : q + 2 * pat.length < INT_MAX) (hstr : str.length = q + pat.length)
    (hf : FailsAt pat str 0 1) (n : Nat) : bm_search (n + 2) str pat = some none := by
  have hpat : pat ≠ [] := List.length_pos_iff.mp (by omega)
  obtain ⟨delta1, delta2, ht, heq⟩ := @bm_search_eq str pat hpat hnul (by omega)
  obtain ⟨_, d1, d2, -, -, -, -, hentry, hmoves⟩ := moves_spec ht hf (by omega) (by omega)
  rw [heq]
  refine search_passes hf (by omega) ?_
  -- the entry for the second byte is one past the first border
  have hentry' : q + 1 ≤ d2 := by
    rcases hentry with ⟨hg, -⟩ | ⟨-, hlast⟩
    · have hd2 : d2 = 1 := by
        have h1 := hg.1
        have h2 := hg.2.1
        omega
      exact absurd (hd2 ▸ hg) (not_goodSuffix_one hb hq hlt)
    · rcases hlast with ⟨r, hr, -, hbr, -, rfl⟩ | ⟨hnone, -⟩
      · by_contra hless
        exact hfirst r (by omega) hr hbr
      · exact absurd hb (hnone q hq hlt)
  omega

/-- A search whose borders are out of reach finds the first occurrence. -/
theorem bm_search_finds (hpat : pat ≠ []) (hnul : 0 ∉ pat)
    (hlen : str.length + pat.length < INT_MAX) (hb : IsLeftmost pat str a)
    (hborder : ∀ s, 0 < s → s < pat.length → s ≤ a → Border pat s → Border pat 1)
    (hn : str.length < n) : bm_search n str pat = some (some a) := by
  have hfits := hb.1.length_le hpat
  obtain ⟨delta1, delta2, ht, heq⟩ := bm_search_eq hpat hnul hlen
  obtain ⟨r, hr⟩ := bm_search_runs hpat hnul hlen
  have hrun := hr n hn
  rw [heq] at hrun
  have hfound := search_finds hpat hb (fun b hlt j hf => ?_) hrun (Nat.zero_le a)
  · rw [heq, hrun, hfound]
  · have hle := moves_le (s := a - b) ht hf (by omega) (by omega)
      (by rw [Nat.add_sub_cancel' (Nat.le_of_lt hlt)]; exact hb.1) (by omega)
      (fun hs hbs => hborder _ (by omega) hs (by omega) hbs)
    omega

/-- What `get_modem_version` searches the modem's partition for. -/
def MODEM_VER_STR : Bytes := bytesOf "Time_Stamp\": \"".toList

/-- The only pattern the updater has is without a border, so it is found. -/
theorem finds_modem_version (hlen : str.length + 14 < INT_MAX)
    (hb : IsLeftmost MODEM_VER_STR str a) (hn : str.length < n) :
    bm_search n str MODEM_VER_STR = some (some a) := by
  have hborder : ∀ s < 14, 0 < s → ¬ Border MODEM_VER_STR s := by decide
  exact bm_search_finds (by decide) (by decide) hlen hb
    (fun s hs hlt _ hbs => absurd hbs (hborder s hlt hs)) hn

end

/-- **For a pattern, the search finds the first occurrence in every text exactly
if the pattern has no border, or is one byte that is repeated, or is too long
for a text that has two of them a border apart.** -/
theorem finds_leftmost_iff {pat : Bytes} (hpat : pat ≠ []) (hnul : 0 ∉ pat) :
    (∀ str, str.length + pat.length < INT_MAX → ∀ a, IsLeftmost pat str a →
      ∀ n, str.length < n → bm_search n str pat = some (some a)) ↔
    ∀ p, 0 < p → p < pat.length → Border pat p →
      Border pat 1 ∨ INT_MAX ≤ p + 2 * pat.length := by
  constructor
  · intro hfinds p hp hlt hb
    by_contra hneither
    rw [not_or] at hneither
    have hex : ∃ q, 0 < q ∧ q < pat.length ∧ Border pat q := ⟨p, hp, hlt, hb⟩
    obtain ⟨hq, hqlt, hbq⟩ := Nat.find_spec hex
    have hqp : Nat.find hex ≤ p := Nat.find_min' hex ⟨hp, hlt, hb⟩
    have hq1 : 1 < Nat.find hex := by
      refine Nat.lt_of_le_of_ne hq fun heq => hneither.1 ?_
      rw [heq]
      exact hbq
    have hfirst : ∀ r < Nat.find hex, 0 < r → ¬ Border pat r :=
      fun r hr h0 hbr => Nat.find_min hex hr ⟨h0, by omega, hbr⟩
    -- a text with another second byte, and the pattern at its first border
    obtain ⟨c, hc⟩ : ∃ c, pat[1]? ≠ some c := by
      by_cases h0 : pat[1]? = some 0
      · exact ⟨1, by rw [h0]; decide⟩
      · exact ⟨0, h0⟩
    obtain ⟨str, hstr, hf, hocc⟩ := exists_failsAt hbq hq1 hqlt hc
    obtain ⟨b, hleft⟩ := exists_leftmost hocc
    have hfound := hfinds str (by omega) b hleft (str.length + 2) (by omega)
    rw [bm_search_passes hnul hbq hq hqlt hfirst (by omega) hstr hf] at hfound
    cases Option.some.inj hfound
  · intro hborder str hlen a hb n hn
    refine bm_search_finds hpat hnul hlen hb (fun s hs hlt hle hbs => ?_) hn
    have hfits := hb.1.length_le hpat
    exact (hborder s hs hlt hbs).resolve_right (by omega)

theorem finds_leftmost_of_abb :
    (∀ str, str.length + 3 < INT_MAX → ∀ a, IsLeftmost (bytesOf ['a', 'b', 'b']) str a →
      ∀ n, str.length < n → bm_search n str (bytesOf ['a', 'b', 'b']) = some (some a)) ↔
    ∀ p, 0 < p → p < 3 → Border (bytesOf ['a', 'b', 'b']) p →
      Border (bytesOf ['a', 'b', 'b']) 1 ∨ INT_MAX ≤ p + 2 * 3 :=
  @finds_leftmost_iff (bytesOf ['a', 'b', 'b']) (by decide) (by decide)

/-- The pattern `aba` is in the text, but the search moves it past its border. -/
theorem border_passed :
    IsLeftmost (bytesOf ['a', 'b', 'a']) (bytesOf ['x', 'c', 'a', 'b', 'a']) 2 ∧
      bm_search 6 (bytesOf ['x', 'c', 'a', 'b', 'a']) (bytesOf ['a', 'b', 'a']) = some none := by
  have hfirst : ∀ r < 2, 0 < r → ¬ Border (bytesOf ['a', 'b', 'a']) r := by decide
  have hfails : FailsAt (bytesOf ['a', 'b', 'a']) (bytesOf ['x', 'c', 'a', 'b', 'a']) 0 1 := by
    decide
  exact ⟨by decide, bm_search_passes (by decide) (by decide) (by decide) (by decide) hfirst
    (by decide) (by decide) hfails 4⟩

end DeviceHal.Recovery.ModemSearch
