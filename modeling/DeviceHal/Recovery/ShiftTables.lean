import DeviceHal.Lib.CText
import DeviceHal.Lib.Loop
import DeviceHal.Lib.StringSearch

/-! # The shift tables of the Boyer-Moore search

`max_suffix_len`, `bm_make_delta1` and `bm_make_delta2` of
`recovery_updater.cpp`. An access out of range, and a read of an entry that was
not written, is a fault. -/
namespace DeviceHal.Recovery.ShiftTables
open DeviceHal.Lib.CText DeviceHal.Lib.Loop DeviceHal.Lib.StringSearch

/-! ## Memory -/

def ALPHABET_LEN : Nat := 256

def INT_MAX : Nat := 2147483647

/-- What an `int` holds of a size. -/
def toInt (n : Nat) : Int := Int.bmod n 4294967296

/-- `n - 1` for a `size_t`. -/
def sizePred (n : Nat) : Nat := (n + SIZE_MAX) % (SIZE_MAX + 1)

def index {α : Type} (xs : List α) (i : Int) : Option α := if i < 0 then none else xs[i.toNat]?

/-- An array of `int`; an entry that was not written is `none`. -/
abbrev Table := List (Option Int)

namespace Table

def uninit (n : Nat) : Table := List.replicate n none

def read (t : Table) (i : Int) : Option Int := (index t i).join

def write (t : Table) (i : Int) (v : Int) : Option Table :=
  if 0 ≤ i ∧ i.toNat < t.length then some (t.set i.toNat (some v)) else none

end Table

/-! ## The functions -/

def max_suffix_len (str : Bytes) (str_len p : Nat) : Option Nat :=
  rounds (fun i : Nat => do
    let x ← index str (p - i)
    let y ← index str (str_len - 1 - i)
    if x = y ∧ i < p then some (.inl (i + 1)) else some (.inr i)) (p + 1) 0

/-- The bodies of the two loops of `bm_make_delta1`. -/
def fillPass (pat : Bytes) (delta1 : Table) (i : Nat) : Option Table :=
  delta1.write i (toInt pat.length)

def lastPass (pat : Bytes) (delta1 : Table) (i : Nat) : Option Table := do
  let idx ← index pat i
  delta1.write idx.toNat (toInt (pat.length - 1 - i))

/-- For an empty pattern the bound of the second loop wraps round. -/
def bm_make_delta1 (delta1 : Table) (pat : Bytes) : Option Table := do
  let delta1 ← countUp (fillPass pat) ALPHABET_LEN delta1
  countUp (lastPass pat) (sizePred pat.length) delta1

/-- `strncmp(pat + p, pat, n)`, which may read `n` bytes of both. -/
def strncmpFrom (pat : Bytes) (p n : Nat) : Option Int :=
  if p + n ≤ pat.length then some (strncmp (pat.drop p) pat n) else none

/-- The bodies of the two loops of `bm_make_delta2`; the first one's state is
`last_prefix` and the table. -/
def prefixPass (pat : Bytes) (s : Nat × Table) (p : Nat) : Option (Nat × Table) := do
  let order ← strncmpFrom pat p (pat.length - p)
  let last_prefix := if order = 0 then p + 1 else s.1
  let delta2 ← s.2.write p (toInt ( last_prefix + (pat.length - 1 - p)))
  some ( last_prefix, delta2)

def suffixPass (pat : Bytes) (delta2 : Table) (p : Nat) : Option Table := do
  let suf_len ← max_suffix_len pat pat.length p
  let x ← index pat (p - suf_len)
  let y ← index pat (pat.length - 1 - suf_len)
  if x ≠ y then
    delta2.write (pat.length - 1 - suf_len) (toInt (pat.length - 1 - p + suf_len))
  else some delta2

def bm_make_delta2 (delta2 : Table) (pat : Bytes) : Option Table := do
  let (_, delta2) ← countDown (prefixPass pat) pat.length (pat.length - 1, delta2)
  countUp (suffixPass pat) (pat.length - 1) delta2

/-! ## Accesses -/

section
variable {pat : Bytes} {j p v : Nat}

theorem index_natCast {α : Type} (xs : List α) {i : Int} {k : Nat} (hi : i = k) :
    index xs i = xs[k]? := by
  subst hi
  rw [index, if_neg (by omega), Int.toNat_natCast]

theorem toInt_eq {n : Nat} (hn : n ≤ INT_MAX) : toInt n = n := by
  rw [INT_MAX] at hn
  exact Int.bmod_eq_of_le (by omega) (by omega)

theorem sizePred_eq {n : Nat} (h0 : 0 < n) (hn : n ≤ SIZE_MAX) : sizePred n = n - 1 := by
  have hsplit : n + SIZE_MAX = n - 1 + (SIZE_MAX + 1) := by omega
  rw [sizePred, hsplit, Nat.add_mod_right, Nat.mod_eq_of_lt (by omega)]

namespace Table

theorem write_spec (t : Table) {i : Int} {k : Nat} (hi : i = k) (hk : k < t.length) (v : Int) :
    ∃ t', t.write i v = some t' ∧ t'.length = t.length ∧
      ∀ n : Nat, t'.read n = if n = k then some v else t.read n := by
  subst hi
  refine ⟨t.set k (some v), ?_, List.length_set, fun n => ?_⟩
  · rw [write, Int.toNat_natCast, if_pos ⟨by omega, hk⟩]
  · rw [read, read, index_natCast _ rfl, index_natCast _ rfl, List.getElem?_set]
    split
    · rename_i h
      rw [if_pos h.symm]
      rfl
    · rename_i h
      rw [if_neg (Ne.symm h)]

end Table

theorem index_of_lt {α : Type} (xs : List α) {i : Int} {k : Nat} (hi : i = k) (hk : k < xs.length) :
    index xs i = some xs[k] := by
  rw [index_natCast xs hi, List.getElem?_eq_getElem hk]

/-! ## Good suffixes -/

/-- `suf` bytes before `p` and before the end are the same, and it ends where
they differ or where the pattern begins. -/
def SuffixLen (pat : Bytes) (p suf : Nat) : Prop :=
  suf ≤ p ∧ (∀ i < suf, pat[p - i]? = pat[pat.length - 1 - i]?) ∧
    (suf = p ∨ pat[p - suf]? ≠ pat[pat.length - 1 - suf]?)

theorem max_suffix_len_spec (hp : p < pat.length) :
    ∃ suf, max_suffix_len pat pat.length p = some suf ∧ SuffixLen pat p suf := by
  refine rounds_spec (fun i => i ≤ p ∧ ∀ k < i, pat[p - k]? = pat[pat.length - 1 - k]?)
    (fun i => p - i) (SuffixLen pat p) (fun i hi => ?_)
    ⟨Nat.zero_le p, fun k hk => absurd hk (Nat.not_lt_zero k)⟩ (by omega)
  obtain ⟨hip, hsame⟩ := hi
  have hx := index_of_lt pat (show (p : Int) - i = (p - i : Nat) by omega) (by omega)
  have hy := index_of_lt pat
    (show (pat.length : Int) - 1 - i = (pat.length - 1 - i : Nat) by omega) (by omega)
  simp only [hx, hy, Option.bind_eq_bind, Option.bind_some]
  split
  · rename_i hnext
    refine .inl ⟨i + 1, rfl, ⟨by omega, fun k hk => ?_⟩, by omega⟩
    rcases Nat.lt_succ_iff_lt_or_eq.mp hk with hk | rfl
    · exact hsame k hk
    · rw [List.getElem?_eq_getElem (by omega), List.getElem?_eq_getElem (by omega), hnext.1]
  · rename_i hleave
    refine .inr ⟨i, rfl, hip, hsame, ?_⟩
    by_cases hend : i = p
    · exact .inl hend
    · refine .inr fun heq => hleave ⟨?_, by omega⟩
      rw [List.getElem?_eq_getElem (by omega), List.getElem?_eq_getElem (by omega)] at heq
      exact Option.some.inj heq

/-- The place that the second loop writes for `p` is the only one at which the
shift to `p` is a good suffix. -/
theorem SuffixLen.goodSuffix_iff {suf : Nat} (hs : SuffixLen pat p suf) (hp : p < pat.length - 1)
    (hj : j < pat.length) : GoodSuffix pat j (pat.length - 1 - p) ↔
      j = pat.length - 1 - suf ∧ pat[p - suf]? ≠ pat[pat.length - 1 - suf]? := by
  obtain ⟨hle, hsame, hend⟩ := hs
  -- `i` counts from the end of the pattern
  have hat : ∀ i, i ≤ p → pat.length - 1 - i - (pat.length - 1 - p) = p - i := fun i hi => by omega
  constructor
  · intro hg
    obtain ⟨hpos, hsj, hne, hsuf⟩ := hg
    have hcount : j = pat.length - 1 - (pat.length - 1 - j) := by omega
    rw [hcount, hat _ (by omega)] at hne
    rcases Nat.lt_trichotomy (pat.length - 1 - j) suf with hlt | heq | hgt
    · exact absurd (hsame _ hlt) hne
    · rw [heq] at hne
      exact ⟨by omega, hne⟩
    · have hdiff := hend.resolve_left (by omega)
      have hback := hsuf (pat.length - 1 - suf) (by omega) (by omega)
      rw [hat suf hle] at hback
      exact absurd hback hdiff
  · intro h
    obtain ⟨rfl, hne⟩ := h
    refine ⟨by omega, by omega, by rw [hat suf hle]; exact hne, fun k hk hjk => ?_⟩
    have hback := hsame (pat.length - 1 - k) (by omega)
    rw [show p - (pat.length - 1 - k) = k - (pat.length - 1 - p) by omega,
      show pat.length - 1 - (pat.length - 1 - k) = k by omega] at hback
    exact hback

/-! ## The tables -/

/-- `v` is right for the bad character `c`: no shift to a `c` before is longer. -/
def BadCharacter (pat : Bytes) (c : UInt8) (v : Nat) : Prop :=
  v ≤ pat.length ∧ ∀ k < pat.length - 1, pat[k]? = some c → v ≤ pat.length - 1 - k

theorem fillPass_spec (hlen : pat.length ≤ INT_MAX) :
    ∃ t, countUp (fillPass pat) ALPHABET_LEN (.uninit ALPHABET_LEN) = some t ∧
      t.length = ALPHABET_LEN ∧ ∀ c < ALPHABET_LEN, t.read c = some (pat.length : Int) := by
  refine countUp_spec
    (fun n (t : Table) => t.length = ALPHABET_LEN ∧
      ∀ c : Nat, c < n → t.read c = some (pat.length : Int))
    ⟨List.length_replicate, fun c hc => absurd hc (Nat.not_lt_zero c)⟩ fun n hn t ht => ?_
  obtain ⟨hfill, hread⟩ := ht
  obtain ⟨t', hwrite, hlen', hget⟩ := t.write_spec rfl (hfill.symm ▸ hn) (toInt pat.length)
  refine ⟨t', hwrite, hlen'.trans hfill, fun c hc => ?_⟩
  rw [hget, toInt_eq hlen]
  split
  · rfl
  · exact hread c (by omega)

theorem bm_make_delta1_spec (hpat : 0 < pat.length) (hlen : pat.length ≤ INT_MAX) :
    ∃ t, bm_make_delta1 (.uninit ALPHABET_LEN) pat = some t ∧
      ∀ c : UInt8, ∃ v : Nat, t.read c.toNat = some (v : Int) ∧ BadCharacter pat c v := by
  obtain ⟨t, ht, hfill, hread⟩ := fillPass_spec hlen
  rw [bm_make_delta1, ht, Option.bind_eq_bind, Option.bind_some,
    sizePred_eq hpat (Nat.le_trans hlen (by decide))]
  have hlast : ∃ t', countUp (lastPass pat) (pat.length - 1) t = some t' ∧
      t'.length = ALPHABET_LEN ∧ ∀ c : UInt8, ∃ v : Nat, t'.read c.toNat = some (v : Int) ∧
        v ≤ pat.length ∧ ∀ k < pat.length - 1, pat[k]? = some c → v ≤ pat.length - 1 - k := by
    refine countUp_spec
      (fun n (t : Table) => t.length = ALPHABET_LEN ∧ ∀ c : UInt8, ∃ v : Nat,
        t.read c.toNat = some (v : Int) ∧
        v ≤ pat.length ∧ ∀ k < n, pat[k]? = some c → v ≤ pat.length - 1 - k)
      ⟨hfill, fun c => ⟨pat.length, hread _ c.toNat_lt, Nat.le_refl _,
        fun k hk => absurd hk (Nat.not_lt_zero k)⟩⟩ fun n hn t ht => ?_
    obtain ⟨hfill, hread⟩ := ht
    have hlt : n < pat.length := by omega
    have hsym : pat[n]? = some pat[n] := List.getElem?_eq_getElem hlt
    have hbyte : pat[n].toNat < t.length := by
      rw [hfill]
      exact pat[n].toNat_lt
    obtain ⟨t', hwrite, hlen', hget⟩ := t.write_spec rfl hbyte (toInt (pat.length - 1 - n))
    refine ⟨t', ?_, hlen'.trans hfill, fun c => ?_⟩
    · rw [lastPass, index_natCast pat rfl, hsym, Option.bind_eq_bind, Option.bind_some]
      exact hwrite
    · rw [hget, toInt_eq (by omega)]
      split
      · exact ⟨_, rfl, by omega, fun k hk _ => by omega⟩
      · rename_i hne
        obtain ⟨v, hv, hle, hlast⟩ := hread c
        refine ⟨v, hv, hle, fun k hk heq => ?_⟩
        rcases Nat.lt_succ_iff_lt_or_eq.mp hk with hk | rfl
        · exact hlast k hk heq
        · rw [hsym] at heq
          exact absurd (congrArg UInt8.toNat (Option.some.inj heq).symm) hne
  obtain ⟨t', ht', -, hread'⟩ := hlast
  exact ⟨t', ht', hread'⟩

/-- `last_prefix` when the first loop has come down to `p`: one past the first
border from there on. -/
def LastPrefix (pat : Bytes) (p v : Nat) : Prop :=
  (∃ q, p ≤ q ∧ q < pat.length ∧ Border pat q ∧ (∀ r, p ≤ r → r < q → ¬ Border pat r) ∧
    v = q + 1) ∨ ((∀ q, p ≤ q → q < pat.length → ¬ Border pat q) ∧ v = pat.length - 1)

/-- The distance by which the pattern moves when it differs at `j`, for the good
suffixes from the shift `s` on. -/
def Entry (pat : Bytes) (s j v : Nat) : Prop :=
  (GoodSuffix pat j v ∧ s ≤ v ∧ ∀ u, s ≤ u → GoodSuffix pat j u → v ≤ u) ∨
    ((∀ u, s ≤ u → ¬ GoodSuffix pat j u) ∧ LastPrefix pat j v)

/-- The entry for `j` that moves the pattern by `v`. -/
def Holds (pat : Bytes) (t : Table) (j v : Nat) : Prop :=
  t.read j = some (toInt (v + (pat.length - 1 - j)))

theorem strncmpFrom_spec (hnul : 0 ∉ pat) (hp : p ≤ pat.length) :
    ∃ order, strncmpFrom pat p (pat.length - p) = some order ∧ (order = 0 ↔ Border pat p) := by
  have hrest : 0 ∉ pat.drop p := fun hmem => hnul (List.mem_of_mem_drop hmem)
  refine ⟨_, if_pos (by omega), ?_⟩
  rw [strncmp_swap, Int.neg_eq_zero, Border, ← strncmp_eq_zero_iff hrest, List.length_drop]

theorem LastPrefix.step {v : Nat} (hv : LastPrefix pat (p + 1) v) (hp : p < pat.length) :
    LastPrefix pat p (if Border pat p then p + 1 else v) := by
  split
  · rename_i hb
    exact .inl ⟨p, Nat.le_refl p, hp, hb, fun r hr hrp => absurd hr (by omega), rfl⟩
  · rename_i hb
    have hnext : ∀ r, p ≤ r → (p + 1 ≤ r → ¬ Border pat r) → ¬ Border pat r := by
      intro r hr hafter
      rcases Nat.lt_or_eq_of_le hr with hlt | rfl
      · exact hafter hlt
      · exact hb
    rcases hv with ⟨q, hq, hlt, hbq, hnone, hv⟩ | ⟨hnone, hv⟩
    · exact .inl ⟨q, by omega, hlt, hbq, fun r hr hrq => hnext r hr fun hr => hnone r hr hrq, hv⟩
    · exact .inr ⟨fun r hr hrlen => hnext r hr fun hr => hnone r hr hrlen, hv⟩

theorem prefixPass_spec (hnul : 0 ∉ pat) :
    ∃ last t, countDown (prefixPass pat) pat.length (pat.length - 1, .uninit pat.length) =
        some (last, t) ∧
      t.length = pat.length ∧ ∀ j < pat.length, ∃ v, Holds pat t j v ∧ LastPrefix pat j v := by
  have hspec := countDown_spec (f := prefixPass pat) (n := pat.length)
    (s := (pat.length - 1, .uninit pat.length))
    (fun n s => LastPrefix pat n s.1 ∧ s.2.length = pat.length ∧
      ∀ j < pat.length, n ≤ j → ∃ v, Holds pat s.2 j v ∧ LastPrefix pat j v)
    ⟨.inr ⟨fun q hq hlt => absurd hq (by omega), rfl⟩, List.length_replicate,
      fun j hj hle => absurd hj (by omega)⟩ ?_
  · obtain ⟨⟨last, t⟩, hrun, -, hlen, hread⟩ := hspec
    exact ⟨last, t, hrun, hlen, fun j hj => hread j hj (Nat.zero_le j)⟩
  · intro p hp s hs
    obtain ⟨hlast, hlen, hread⟩ := hs
    obtain ⟨order, horder, hzero⟩ := strncmpFrom_spec hnul (Nat.le_of_lt hp)
    obtain ⟨t', hwrite, hlen', hget⟩ := s.2.write_spec rfl (hlen.symm ▸ hp)
      (toInt ((if order = 0 then p + 1 else s.1) + (pat.length - 1 - p)))
    have hnew : LastPrefix pat p (if order = 0 then p + 1 else s.1) := by
      simp only [hzero]
      exact hlast.step hp
    refine ⟨(if order = 0 then p + 1 else s.1, t'), ?_, hnew, hlen'.trans hlen,
      fun j hj hle => ?_⟩
    · rw [prefixPass, horder]
      simp only [Option.bind_eq_bind, Option.bind_some, hwrite]
    · rcases Nat.lt_or_eq_of_le hle with hlt | rfl
      · obtain ⟨v, hv, hprefix⟩ := hread j hj hlt
        refine ⟨v, ?_, hprefix⟩
        rw [Holds, hget, if_neg (by omega)]
        exact hv
      · exact ⟨_, by rw [Holds, hget, if_pos rfl], hnew⟩

/-- A shift that no good suffix comes from changes no entry. -/
theorem Entry.skip {s : Nat} (he : Entry pat (s + 1) j v) (hnone : ¬ GoodSuffix pat j s) :
    Entry pat s j v := by
  have hnext : ∀ u, s ≤ u → GoodSuffix pat j u → s + 1 ≤ u := by
    intro u hu hg
    refine Nat.lt_of_le_of_ne hu fun heq => hnone ?_
    rw [heq]
    exact hg
  rcases he with ⟨hg, hle, hleast⟩ | ⟨hno, hlast⟩
  · exact .inl ⟨hg, by omega, fun u hu hgu => hleast u (hnext u hu hgu) hgu⟩
  · exact .inr ⟨fun u hu hgu => hno u (hnext u hu hgu) hgu, hlast⟩

theorem suffixPass_eq {t : Table} {p suf : Nat} (hp : p < pat.length - 1) (hle : suf ≤ p)
    (hsuf : max_suffix_len pat pat.length p = some suf) :
    suffixPass pat t p =
      if pat[p - suf]? ≠ pat[pat.length - 1 - suf]? then
        t.write (pat.length - 1 - suf) (toInt (pat.length - 1 - p + suf))
      else some t := by
  have hx := index_of_lt pat (show (p : Int) - suf = (p - suf : Nat) by omega) (by omega)
  have hy := index_of_lt pat
    (show (pat.length : Int) - 1 - suf = (pat.length - 1 - suf : Nat) by omega) (by omega)
  rw [List.getElem?_eq_getElem (show p - suf < pat.length by omega),
    List.getElem?_eq_getElem (show pat.length - 1 - suf < pat.length by omega)]
  simp only [suffixPass, hsuf, hx, hy, Option.bind_eq_bind, Option.bind_some, ne_eq,
    Option.some.injEq]

/-- A pass covers one more distance: it is written to the entry that it is a good suffix for, if
there is one. -/
theorem suffixPass_step {t : Table} {p : Nat} (hp : p < pat.length - 1)
    (hlen : t.length = pat.length)
    (hread : ∀ j < pat.length, ∃ v, Holds pat t j v ∧ Entry pat (pat.length - p) j v) :
    ∃ t', suffixPass pat t p = some t' ∧ t'.length = pat.length ∧
      ∀ j < pat.length, ∃ v, Holds pat t' j v ∧ Entry pat (pat.length - (p + 1)) j v := by
  obtain ⟨suf, hsuf, hs⟩ := @max_suffix_len_spec pat p (by omega)
  have hle := hs.1
  have hbody := suffixPass_eq (t := t) hp hle hsuf
  have hgood : ∀ j < pat.length, GoodSuffix pat j (pat.length - (p + 1)) ↔
      j = pat.length - 1 - suf ∧ pat[p - suf]? ≠ pat[pat.length - 1 - suf]? := by
    intro j hj
    rw [show pat.length - (p + 1) = pat.length - 1 - p by omega]
    exact hs.goodSuffix_iff hp hj
  have hshift : pat.length - (p + 1) + 1 = pat.length - p := by omega
  by_cases hne : pat[p - suf]? = pat[pat.length - 1 - suf]?
  · refine ⟨t, ?_, hlen, fun j hj => ?_⟩
    · rw [hbody, if_neg (not_not.mpr hne)]
    · obtain ⟨v, hv, he⟩ := hread j hj
      rw [← hshift] at he
      exact ⟨v, hv, he.skip fun hg => ((hgood j hj).mp hg).2 hne⟩
  · obtain ⟨t', hwrite, hlen', hget⟩ := t.write_spec
      (show (pat.length : Int) - 1 - suf = (pat.length - 1 - suf : Nat) by omega)
      (by omega) (toInt (pat.length - 1 - p + suf))
    refine ⟨t', ?_, hlen'.trans hlen, fun j hj => ?_⟩
    · rw [hbody, if_pos hne]
      exact hwrite
    · by_cases hj' : j = pat.length - 1 - suf
      · have hg := (hgood j hj).mpr ⟨hj', hne⟩
        refine ⟨pat.length - (p + 1), ?_, .inl ⟨hg, Nat.le_refl _, fun u hu _ => hu⟩⟩
        rw [Holds, hget, if_pos hj']
        congr 2
        omega
      · obtain ⟨v, hv, he⟩ := hread j hj
        rw [← hshift] at he
        refine ⟨v, ?_, he.skip fun hg => hj' ((hgood j hj).mp hg).1⟩
        rw [Holds, hget, if_neg hj']
        exact hv

theorem suffixPass_spec {t : Table} (hlen : t.length = pat.length)
    (hread : ∀ j < pat.length, ∃ v, Holds pat t j v ∧ LastPrefix pat j v) :
    ∃ t', countUp (suffixPass pat) (pat.length - 1) t = some t' ∧
      ∀ j < pat.length, ∃ v, Holds pat t' j v ∧ Entry pat 1 j v := by
  have hspec := countUp_spec (f := suffixPass pat) (n := pat.length - 1) (s := t)
    (fun n (t : Table) => t.length = pat.length ∧
      ∀ j < pat.length, ∃ v, Holds pat t j v ∧ Entry pat (pat.length - n) j v) ⟨hlen, ?_⟩
    (fun p hp t ht => suffixPass_step hp ht.1 ht.2)
  · obtain ⟨t', hrun, -, hread'⟩ := hspec
    refine ⟨t', hrun, fun j hj => ?_⟩
    rw [show 1 = pat.length - (pat.length - 1) by omega]
    exact hread' j hj
  · -- no good suffix is as long as the pattern
    intro j hj
    obtain ⟨v, hv, hlast⟩ := hread j hj
    exact ⟨v, hv, .inr ⟨fun u hu hg => absurd hg.2.1 (by omega), hlast⟩⟩

theorem bm_make_delta2_spec (hnul : 0 ∉ pat) :
    ∃ t, bm_make_delta2 (.uninit pat.length) pat = some t ∧
      ∀ j < pat.length, ∃ v, Holds pat t j v ∧ Entry pat 1 j v := by
  obtain ⟨last, t, hrun, hlen, hread⟩ := prefixPass_spec hnul
  obtain ⟨t', hrun', hread'⟩ := suffixPass_spec hlen hread
  refine ⟨t', ?_, hread'⟩
  rw [bm_make_delta2, hrun]
  exact hrun'

/-- Every entry moves the pattern, and by no more than its length. -/
theorem Entry.bounds (he : Entry pat 1 j v) (hj : j < pat.length) : 0 < v ∧ v ≤ pat.length := by
  rcases he with ⟨hg, -⟩ | ⟨-, hlast⟩
  · exact ⟨hg.1, Nat.le_of_lt (Nat.lt_of_le_of_lt hg.2.1 hj)⟩
  · rcases hlast with ⟨q, -, hq, -, -, hv⟩ | ⟨hnone, hv⟩
    · omega
    · have hj0 : j ≠ 0 := by
        intro h0
        exact hnone 0 (by omega) (by omega) (List.prefix_refl pat)
      omega

end

end DeviceHal.Recovery.ShiftTables
