import Std.Data.TreeMap
import Std.Data.TreeSet
import Mathlib.Tactic

/-! # LocUnorderedSetMap

The set helpers of `utils/LocUnorderedSetMap.h`, as the header computes them:
every helper walks one of the sets it is given and edits the others on the
way. The hash order of a walk is unspecified; here a walk visits the elements
in ascending order, and the specifications below say which elements end up
where, in terms that no order enters. A null out-parameter is a result the
caller drops. -/

namespace DeviceHal.Core.SetMap

abbrev UnorderedSet (T : Type) [Ord T] := Std.TreeSet T

section
variable {T : Type} [Ord T]

/-- Trim from `fromSet` what is also in `rVals`; `goneVals` collects it. -/
def trimSet (fromSet rVals goneVals : UnorderedSet T) : UnorderedSet T × UnorderedSet T :=
  rVals.toList.foldl (fun acc val =>
    if val ∈ acc.1 then (acc.1.erase val, acc.2.insert val) else acc) (fromSet, goneVals)

/-- What `removeAndReturnInterset` leaves: the intersection it returns, and the
two sets without it. -/
structure Interset (T : Type) [Ord T] where
  common : UnorderedSet T
  s1 : UnorderedSet T
  s2 : UnorderedSet T

/-- The walk is over `s2`. The source erases the element it stands on and then
steps on from the erased position; the step is read as going to the next
element of `s2`. -/
def removeAndReturnInterset (s1 s2 : UnorderedSet T) : Interset T :=
  s2.toList.foldl (fun acc b =>
    if b ∈ acc.s1 then ⟨acc.common.insert b, acc.s1.erase b, acc.s2.erase b⟩ else acc)
    ⟨∅, s1, s2⟩

end

structure LocUnorderedSetMap (KEY VAL : Type) [Ord KEY] [Ord VAL] where
  mMap : Std.TreeMap KEY (UnorderedSet VAL)

namespace LocUnorderedSetMap
variable {KEY VAL : Type} [Ord KEY] [Ord VAL]

def new : LocUnorderedSetMap KEY VAL := ⟨∅⟩

def empty (m : LocUnorderedSetMap KEY VAL) : Bool := m.mMap.isEmpty

def getValSetPtr (m : LocUnorderedSetMap KEY VAL) (key : KEY) : Option (UnorderedSet VAL) :=
  m.mMap[key]?

def getValSet (m : LocUnorderedSetMap KEY VAL) (key : KEY) : UnorderedSet VAL :=
  match m.mMap[key]? with
  | some vals => vals
  | none => ∅

def getKeys (m : LocUnorderedSetMap KEY VAL) : UnorderedSet KEY :=
  m.mMap.toList.foldl (fun keys entry => keys.insert entry.1) ∅

def remove (m : LocUnorderedSetMap KEY VAL) (key : KEY) : LocUnorderedSetMap KEY VAL :=
  ⟨m.mMap.erase key⟩

/-- The map and the two out-parameters of `trimOrRemove`. -/
structure Trimmed (KEY VAL : Type) [Ord KEY] [Ord VAL] where
  map : LocUnorderedSetMap KEY VAL
  goneKeys : UnorderedSet KEY
  goneVals : UnorderedSet VAL

/-- One round of `trimOrRemove`: trim the entry at `key`, and remove it when
nothing is left. The source reads the removed key through the iterator it has
just erased: `freed key` is what the released memory holds by then. -/
def trimEntry (freed : KEY → KEY) (rVals : UnorderedSet VAL) (acc : Trimmed KEY VAL) (key : KEY) :
    Trimmed KEY VAL :=
  match acc.map.mMap[key]? with
  | none => acc
  | some vals =>
    let (left, goneVals) := trimSet vals rVals acc.goneVals
    if left.isEmpty then ⟨⟨acc.map.mMap.erase key⟩, acc.goneKeys.insert (freed key), goneVals⟩
    else ⟨⟨acc.map.mMap.insert key left⟩, acc.goneKeys, goneVals⟩

/-- Remove `rVals` from all entries keyed by `keys`. Both collectors start
empty in every call of the repository. -/
def trimOrRemove (m : LocUnorderedSetMap KEY VAL) (freed : KEY → KEY) (keys : UnorderedSet KEY)
    (rVals : UnorderedSet VAL) : Trimmed KEY VAL :=
  keys.toList.foldl (trimEntry freed rVals) ⟨m, ∅, ∅⟩

/-- Add `newVals` to the entry at `key`; the flag says whether the entry is new. -/
def add (m : LocUnorderedSetMap KEY VAL) (key : KEY) (newVals : UnorderedSet VAL) :
    LocUnorderedSetMap KEY VAL × Bool :=
  if newVals.isEmpty then (m, false)
  else match m.mMap[key]? with
    | some vals => (⟨m.mMap.insert key (vals ∪ newVals)⟩, false)
    | none => (⟨m.mMap.insert key newVals⟩, true)

/-- Add `newVals` to every entry keyed by `keys`; returns the new keys. -/
def addAll (m : LocUnorderedSetMap KEY VAL) (keys : UnorderedSet KEY)
    (newVals : UnorderedSet VAL) : LocUnorderedSetMap KEY VAL × UnorderedSet KEY :=
  keys.toList.foldl (fun acc key =>
    let (m, added) := acc.1.add key newVals
    (m, if added then acc.2.insert key else acc.2)) (m, ∅)

/-- The map, the returned `goneVals` and what is left of `newVals`. -/
structure Updated (KEY VAL : Type) [Ord KEY] [Ord VAL] where
  map : LocUnorderedSetMap KEY VAL
  goneVals : UnorderedSet VAL
  newVals : UnorderedSet VAL

/-- Put `newVals` at `key`. The header announces the values removed from the
entry as the result; what is returned is the intersection of the old and the
new values. -/
def update (m : LocUnorderedSetMap KEY VAL) (key : KEY) (newVals : UnorderedSet VAL) :
    Updated KEY VAL :=
  if newVals.isEmpty then ⟨⟨m.mMap.erase key⟩, ∅, newVals⟩
  else
    let curVals := m.getValSet key
    let interset := removeAndReturnInterset curVals newVals
    ⟨⟨m.mMap.insert key newVals⟩, interset.common, interset.s2⟩

end LocUnorderedSetMap

/-! ## What the walks compute -/

section
variable {T : Type} [Ord T] [Std.TransOrd T] [Std.LawfulEqOrd T]

theorem mem_insert_iff {s : UnorderedSet T} {k a : T} : a ∈ s.insert k ↔ a = k ∨ a ∈ s := by
  rw [Std.TreeSet.mem_insert, Std.compare_eq_iff_eq, eq_comm]

theorem mem_erase_iff {s : UnorderedSet T} {k a : T} : a ∈ s.erase k ↔ a ≠ k ∧ a ∈ s := by
  rw [Std.TreeSet.mem_erase, ne_eq, Std.compare_eq_iff_eq, eq_comm]

theorem nodup_toList {s : UnorderedSet T} : s.toList.Nodup :=
  (Std.TreeSet.distinct_toList (t := s)).imp fun hne he => hne (Std.compare_eq_iff_eq.mpr he)

private theorem trimLoop (l : List T) : ∀ (fs gv : UnorderedSet T) (a : T),
    let r := l.foldl (fun acc val =>
      if val ∈ acc.1 then (acc.1.erase val, acc.2.insert val) else acc) (fs, gv)
    (a ∈ r.1 ↔ a ∈ fs ∧ a ∉ l) ∧ (a ∈ r.2 ↔ a ∈ gv ∨ a ∈ fs ∧ a ∈ l) := by
  induction l with
  | nil => intro fs gv a; simp
  | cons x xs ih =>
    intro fs gv a
    simp only [List.foldl_cons]
    split
    · rename_i hx
      obtain ⟨h1, h2⟩ := ih (fs.erase x) (gv.insert x) a
      refine ⟨h1.trans ?_, h2.trans ?_⟩
      · rw [mem_erase_iff, List.mem_cons, not_or, and_assoc, and_left_comm]
      · rw [mem_erase_iff, mem_insert_iff, List.mem_cons]
        by_cases he : a = x
        · subst he; simp [hx]
        · simp [he]
    · rename_i hx
      obtain ⟨h1, h2⟩ := ih fs gv a
      refine ⟨h1.trans ?_, h2.trans ?_⟩
      · rw [List.mem_cons, not_or]
        constructor
        · intro hh
          obtain ⟨hf, hn⟩ := hh
          exact ⟨hf, fun he => hx (he ▸ hf), hn⟩
        · intro hh
          obtain ⟨hf, _, hn⟩ := hh
          exact ⟨hf, hn⟩
      · rw [List.mem_cons]
        constructor
        · rintro (hg | ⟨hf, hm⟩)
          · exact Or.inl hg
          · exact Or.inr ⟨hf, Or.inr hm⟩
        · rintro (hg | ⟨hf, rfl | hm⟩)
          · exact Or.inl hg
          · exact absurd hf hx
          · exact Or.inr ⟨hf, hm⟩

theorem mem_trimSet_left {fs rVals gv : UnorderedSet T} {a : T} :
    a ∈ (trimSet fs rVals gv).1 ↔ a ∈ fs ∧ a ∉ rVals := by
  have h := (trimLoop rVals.toList fs gv a).1
  rwa [Std.TreeSet.mem_toList] at h

theorem mem_trimSet_gone {fs rVals gv : UnorderedSet T} {a : T} :
    a ∈ (trimSet fs rVals gv).2 ↔ a ∈ gv ∨ a ∈ fs ∧ a ∈ rVals := by
  have h := (trimLoop rVals.toList fs gv a).2
  rwa [Std.TreeSet.mem_toList] at h

private theorem intersetLoop (l : List T) : ∀ (i : Interset T) (a : T),
    let r := l.foldl (fun acc b =>
      if b ∈ acc.s1 then ⟨acc.common.insert b, acc.s1.erase b, acc.s2.erase b⟩ else acc) i
    (a ∈ r.common ↔ a ∈ i.common ∨ a ∈ i.s1 ∧ a ∈ l) ∧
      (a ∈ r.s2 ↔ a ∈ i.s2 ∧ ¬ (a ∈ i.s1 ∧ a ∈ l)) := by
  induction l with
  | nil => intro i a; simp
  | cons x xs ih =>
    intro i a
    simp only [List.foldl_cons]
    split
    · rename_i hx
      obtain ⟨h1, h2⟩ := ih ⟨i.common.insert x, i.s1.erase x, i.s2.erase x⟩ a
      simp only [mem_erase_iff, mem_insert_iff] at h1 h2
      refine ⟨h1.trans ?_, h2.trans ?_⟩ <;> rw [List.mem_cons]
      · by_cases he : a = x
        · subst he; simp [hx]
        · simp [he]
      · by_cases he : a = x
        · subst he; simp [hx]
        · simp [he]
    · rename_i hx
      obtain ⟨h1, h2⟩ := ih i a
      have hc : (a ∈ i.s1 ∧ a ∈ x :: xs) ↔ a ∈ i.s1 ∧ a ∈ xs := by
        rw [List.mem_cons]
        constructor
        · intro hh
          obtain ⟨hs, rfl | hm⟩ := hh
          · exact absurd hs hx
          · exact ⟨hs, hm⟩
        · exact fun ⟨hs, hm⟩ => ⟨hs, Or.inr hm⟩
      exact ⟨h1.trans (by rw [hc]), h2.trans (by rw [hc])⟩

theorem mem_interset_common {s1 s2 : UnorderedSet T} {a : T} :
    a ∈ (removeAndReturnInterset s1 s2).common ↔ a ∈ s1 ∧ a ∈ s2 := by
  have h := (intersetLoop s2.toList ⟨∅, s1, s2⟩ a).1
  rw [Std.TreeSet.mem_toList] at h
  exact h.trans (or_iff_right Std.TreeSet.not_mem_emptyc)

theorem mem_interset_s2 {s1 s2 : UnorderedSet T} {a : T} :
    a ∈ (removeAndReturnInterset s1 s2).s2 ↔ a ∈ s2 ∧ a ∉ s1 := by
  have h := (intersetLoop s2.toList ⟨∅, s1, s2⟩ a).2
  rw [Std.TreeSet.mem_toList] at h
  refine h.trans ⟨?_, ?_⟩
  · intro hh
    obtain ⟨h2, hn⟩ := hh
    exact ⟨h2, fun h1 => hn ⟨h1, h2⟩⟩
  · intro hh
    obtain ⟨h2, hn⟩ := hh
    exact ⟨h2, fun hh => hn hh.1⟩

end

/-! ## The relation a map stands for

`rel k v` says that `v` is recorded at `k`. Each operation is specified by the
relation it leaves; `NoEmptySet` is the representation invariant that an entry
is removed together with its last value. -/

namespace LocUnorderedSetMap
variable {KEY VAL : Type} [Ord KEY] [Ord VAL]

def rel (m : LocUnorderedSetMap KEY VAL) (k : KEY) (v : VAL) : Prop := v ∈ m.getValSet k

instance (m : LocUnorderedSetMap KEY VAL) (k : KEY) (v : VAL) : Decidable (m.rel k v) :=
  inferInstanceAs (Decidable (v ∈ m.getValSet k))

/-- No key is kept with an empty set. -/
def NoEmptySet (m : LocUnorderedSetMap KEY VAL) : Prop :=
  ∀ (k : KEY) (s : UnorderedSet VAL), m.mMap[k]? = some s → s.isEmpty = false

theorem rel_of_some {m : LocUnorderedSetMap KEY VAL} {k : KEY} {s : UnorderedSet VAL}
    (h : m.mMap[k]? = some s) (v : VAL) : m.rel k v ↔ v ∈ s := by
  simp only [rel, getValSet, h]

theorem not_rel_of_none {m : LocUnorderedSetMap KEY VAL} {k : KEY}
    (h : m.mMap[k]? = none) (v : VAL) : ¬ m.rel k v := by
  simp only [rel, getValSet, h, Std.TreeSet.not_mem_emptyc, not_false_eq_true]

section
variable [Std.TransOrd VAL]

/-- Under the invariant an absent key is one without values. -/
theorem NoEmptySet.getElem?_eq_none_iff {m : LocUnorderedSetMap KEY VAL} (hm : m.NoEmptySet)
    (k : KEY) : m.mMap[k]? = none ↔ ∀ v, ¬ m.rel k v := by
  constructor
  · exact not_rel_of_none
  · intro h
    cases hk : m.mMap[k]? with
    | none => rfl
    | some s =>
      obtain ⟨v, hv⟩ := Std.TreeSet.isEmpty_eq_false_iff_exists_mem.mp (hm k s hk)
      exact absurd ((rel_of_some hk v).mpr hv) (h v)

variable [Std.LawfulEqOrd VAL]

/-- The "gone" values are the values that stay. -/
theorem mem_update_goneVals {m : LocUnorderedSetMap KEY VAL} {key : KEY}
    {newVals : UnorderedSet VAL} {v : VAL} :
    v ∈ (m.update key newVals).goneVals ↔ m.rel key v ∧ v ∈ newVals := by
  unfold update
  split
  · rename_i hn
    have := Std.TreeSet.isEmpty_iff_forall_not_mem.mp hn v
    simp [this]
  · exact mem_interset_common

theorem mem_update_newVals {m : LocUnorderedSetMap KEY VAL} {key : KEY}
    {newVals : UnorderedSet VAL} {v : VAL} :
    v ∈ (m.update key newVals).newVals ↔ v ∈ newVals ∧ ¬ m.rel key v := by
  unfold update
  split
  · rename_i hn
    have := Std.TreeSet.isEmpty_iff_forall_not_mem.mp hn v
    simp [this]
  · exact mem_interset_s2

end

/-! ### The invariant -/

variable [Std.TransOrd KEY]

theorem getElem?_new (k : KEY) : (new : LocUnorderedSetMap KEY VAL).mMap[k]? = none :=
  Std.TreeMap.getElem?_emptyc

theorem noEmptySet_new : (new : LocUnorderedSetMap KEY VAL).NoEmptySet := by
  intro k s h
  rw [getElem?_new] at h
  cases h

theorem NoEmptySet.insert {m : LocUnorderedSetMap KEY VAL} (hm : m.NoEmptySet) {key : KEY}
    {s : UnorderedSet VAL} (hs : s.isEmpty = false) :
    (⟨m.mMap.insert key s⟩ : LocUnorderedSetMap KEY VAL).NoEmptySet := by
  intro k t h
  rw [Std.TreeMap.getElem?_insert] at h
  split at h
  · cases h; exact hs
  · exact hm k t h

theorem NoEmptySet.erase {m : LocUnorderedSetMap KEY VAL} (hm : m.NoEmptySet) (key : KEY) :
    (⟨m.mMap.erase key⟩ : LocUnorderedSetMap KEY VAL).NoEmptySet := by
  intro k t h
  rw [Std.TreeMap.getElem?_erase] at h
  split at h
  · cases h
  · exact hm k t h

theorem NoEmptySet.remove {m : LocUnorderedSetMap KEY VAL} (hm : m.NoEmptySet) (key : KEY) :
    (m.remove key).NoEmptySet := hm.erase key

theorem NoEmptySet.add [Std.TransOrd VAL] {m : LocUnorderedSetMap KEY VAL} (hm : m.NoEmptySet)
    (key : KEY) (newVals : UnorderedSet VAL) : (m.add key newVals).1.NoEmptySet := by
  unfold LocUnorderedSetMap.add
  split
  · exact hm
  · rename_i hn
    have hn : newVals.isEmpty = false := by simpa using hn
    cases hk : m.mMap[key]? with
    | some vals =>
      refine hm.insert ?_
      obtain ⟨v, hv⟩ := Std.TreeSet.isEmpty_eq_false_iff_exists_mem.mp hn
      exact Std.TreeSet.isEmpty_eq_false_iff_exists_mem.mpr
        ⟨v, Std.TreeSet.mem_union_of_right hv⟩
    | none => exact hm.insert hn

theorem NoEmptySet.update {m : LocUnorderedSetMap KEY VAL} (hm : m.NoEmptySet) (key : KEY)
    (newVals : UnorderedSet VAL) : (m.update key newVals).map.NoEmptySet := by
  unfold LocUnorderedSetMap.update
  split
  · exact hm.erase key
  · rename_i hn
    exact hm.insert (by simpa using hn)

/-! ### remove and update -/

variable [Std.LawfulEqOrd KEY]

theorem rel_insert (m : LocUnorderedSetMap KEY VAL) (key k : KEY) (s : UnorderedSet VAL) (v : VAL) :
    (⟨m.mMap.insert key s⟩ : LocUnorderedSetMap KEY VAL).rel k v ↔
      k = key ∧ v ∈ s ∨ k ≠ key ∧ m.rel k v := by
  simp only [rel, getValSet, Std.TreeMap.getElem?_insert, Std.compare_eq_iff_eq]
  by_cases he : k = key
  · subst he; simp
  · simp [he, Ne.symm he]

theorem rel_erase (m : LocUnorderedSetMap KEY VAL) (key k : KEY) (v : VAL) :
    (⟨m.mMap.erase key⟩ : LocUnorderedSetMap KEY VAL).rel k v ↔ m.rel k v ∧ k ≠ key := by
  simp only [rel, getValSet, Std.TreeMap.getElem?_erase, Std.compare_eq_iff_eq]
  by_cases he : k = key
  · subst he; simp
  · simp [he, Ne.symm he]

theorem rel_remove {m : LocUnorderedSetMap KEY VAL} {key k : KEY} {v : VAL} :
    (m.remove key).rel k v ↔ m.rel k v ∧ k ≠ key := rel_erase m key k v

theorem mem_getKeys_of_rel {m : LocUnorderedSetMap KEY VAL} {k : KEY} {v : VAL} (h : m.rel k v) :
    k ∈ m.getKeys := by
  have loop : ∀ (l : List (KEY × UnorderedSet VAL)) (keys : UnorderedSet KEY),
      (k ∈ keys ∨ ∃ s, (k, s) ∈ l) → k ∈ l.foldl (fun keys entry => keys.insert entry.1) keys := by
    intro l
    induction l with
    | nil => intro keys hk; simpa using hk
    | cons e l ih =>
      intro keys hk
      refine ih (keys.insert e.1) ?_
      rw [mem_insert_iff]
      rcases hk with hk | ⟨s, hs⟩
      · exact Or.inl (Or.inr hk)
      · rcases List.mem_cons.mp hs with he | hs
        · exact Or.inl (Or.inl (congrArg Prod.fst he))
        · exact Or.inr ⟨s, hs⟩
  cases hk : m.mMap[k]? with
  | none => exact absurd h (not_rel_of_none hk v)
  | some s => exact loop _ ∅ (Or.inr ⟨s, Std.TreeMap.mem_toList_iff_getElem?_eq_some.mpr hk⟩)

/-! ### add -/

/-- A key without an entry is reported as new. -/
private theorem addLoop_new (newVals : UnorderedSet VAL) (hne : newVals.isEmpty = false)
    (l : List KEY) : ∀ (acc : LocUnorderedSetMap KEY VAL × UnorderedSet KEY) (k : KEY),
      let r := l.foldl (fun acc key =>
        let (m, added) := acc.1.add key newVals
        (m, if added then acc.2.insert key else acc.2)) acc
      (k ∈ acc.2 → k ∈ r.2) ∧ (k ∈ l → acc.1.mMap[k]? = none → k ∈ r.2) := by
  induction l with
  | nil => intro acc k; exact ⟨id, fun h => by cases h⟩
  | cons x xs ih =>
    intro acc k
    simp only [List.foldl_cons]
    set next : LocUnorderedSetMap KEY VAL × UnorderedSet KEY := ((acc.1.add x newVals).1,
      if (acc.1.add x newVals).2 then acc.2.insert x else acc.2) with hnext
    obtain ⟨hkeep, hnew⟩ := ih next k
    have hacc : k ∈ acc.2 → k ∈ next.2 := by
      intro hk
      simp only [hnext]
      split
      · exact mem_insert_iff.mpr (Or.inr hk)
      · exact hk
    refine ⟨fun hk => hkeep (hacc hk), fun hk hnone => ?_⟩
    by_cases hx : k = x
    · subst hx
      refine hkeep ?_
      have hadd : (acc.1.add k newVals).2 = true := by simp [add, hne, hnone]
      simp only [hnext, hadd, if_true]
      exact mem_insert_iff.mpr (Or.inl rfl)
    · refine hnew (by simpa [hx] using hk) ?_
      simp only [hnext, add, hne, Bool.false_eq_true, if_false]
      split <;> simpa [Std.TreeMap.getElem?_insert, Ne.symm hx] using hnone

theorem mem_addAll_new {m : LocUnorderedSetMap KEY VAL} {keys : UnorderedSet KEY}
    {newVals : UnorderedSet VAL} (hne : newVals.isEmpty = false) {k : KEY} (hk : k ∈ keys)
    (hnone : m.mMap[k]? = none) : k ∈ (m.addAll keys newVals).2 :=
  (addLoop_new newVals hne keys.toList (m, ∅) k).2 (Std.TreeSet.mem_toList.mpr hk) hnone

variable [Std.TransOrd VAL]

theorem rel_update {m : LocUnorderedSetMap KEY VAL} {key k : KEY} {newVals : UnorderedSet VAL}
    {v : VAL} : (m.update key newVals).map.rel k v ↔
      k = key ∧ v ∈ newVals ∨ k ≠ key ∧ m.rel k v := by
  unfold update
  split
  · rename_i hn
    have := Std.TreeSet.isEmpty_iff_forall_not_mem.mp hn v
    rw [rel_erase]
    by_cases he : k = key
    · simp [he, this]
    · simp [he]
  · exact rel_insert m key k newVals v

theorem rel_add {m : LocUnorderedSetMap KEY VAL} {key k : KEY} {newVals : UnorderedSet VAL}
    {v : VAL} : (m.add key newVals).1.rel k v ↔ m.rel k v ∨ k = key ∧ v ∈ newVals := by
  unfold add
  split
  · rename_i hn
    have := Std.TreeSet.isEmpty_iff_forall_not_mem.mp hn v
    simp [this]
  · cases hk : m.mMap[key]? with
    | some vals =>
      rw [rel_insert]
      by_cases he : k = key
      · subst he; simp [Std.TreeSet.mem_union_iff, rel_of_some hk]
      · simp [he]
    | none =>
      rw [rel_insert]
      by_cases he : k = key
      · subst he; simp [not_rel_of_none hk]
      · simp [he]

private theorem addLoop (newVals : UnorderedSet VAL) (l : List KEY) :
    ∀ (acc : LocUnorderedSetMap KEY VAL × UnorderedSet KEY),
      let r := l.foldl (fun acc key =>
        let (m, added) := acc.1.add key newVals
        (m, if added then acc.2.insert key else acc.2)) acc
      (acc.1.NoEmptySet → r.1.NoEmptySet) ∧
        ∀ k v, r.1.rel k v ↔ acc.1.rel k v ∨ k ∈ l ∧ v ∈ newVals := by
  induction l with
  | nil => intro acc; simp
  | cons x xs ih =>
    intro acc
    simp only [List.foldl_cons]
    obtain ⟨hw, hr⟩ := ih ((acc.1.add x newVals).1,
      if (acc.1.add x newVals).2 then acc.2.insert x else acc.2)
    refine ⟨fun h => hw (h.add x newVals), fun k v => (hr k v).trans ?_⟩
    rw [rel_add, List.mem_cons, or_and_right, or_assoc]

theorem rel_addAll {m : LocUnorderedSetMap KEY VAL} {keys : UnorderedSet KEY}
    {newVals : UnorderedSet VAL} {k : KEY} {v : VAL} :
    (m.addAll keys newVals).1.rel k v ↔ m.rel k v ∨ k ∈ keys ∧ v ∈ newVals := by
  have h := (addLoop newVals keys.toList (m, ∅)).2 k v
  rwa [Std.TreeSet.mem_toList] at h

theorem NoEmptySet.addAll {m : LocUnorderedSetMap KEY VAL} (hm : m.NoEmptySet)
    (keys : UnorderedSet KEY) (newVals : UnorderedSet VAL) :
    (m.addAll keys newVals).1.NoEmptySet :=
  (addLoop newVals keys.toList (m, ∅)).1 hm

/-! ### trimOrRemove -/

variable [Std.LawfulEqOrd VAL]

theorem trimEntry_spec (freed : KEY → KEY) (rVals : UnorderedSet VAL) (acc : Trimmed KEY VAL)
    (key : KEY) :
    (acc.map.NoEmptySet → (trimEntry freed rVals acc key).map.NoEmptySet) ∧
    (∀ k v, (trimEntry freed rVals acc key).map.rel k v ↔
      acc.map.rel k v ∧ ¬ (k = key ∧ v ∈ rVals)) ∧
    ∀ v, v ∈ (trimEntry freed rVals acc key).goneVals ↔
      v ∈ acc.goneVals ∨ acc.map.rel key v ∧ v ∈ rVals := by
  unfold trimEntry
  cases hk : acc.map.mMap[key]? with
  | none =>
    refine ⟨id, fun k v => ⟨fun h => ⟨h, ?_⟩, And.left⟩, fun v => ?_⟩
    · intro hh
      obtain ⟨rfl, _⟩ := hh
      exact not_rel_of_none hk v h
    · simp [not_rel_of_none hk v]
  | some vals =>
    dsimp only
    have hgone : ∀ v, v ∈ (trimSet vals rVals acc.goneVals).2 ↔
        v ∈ acc.goneVals ∨ acc.map.rel key v ∧ v ∈ rVals := fun v => by
      rw [mem_trimSet_gone, rel_of_some hk]
    split
    · rename_i hleft
      refine ⟨fun h => h.erase key, fun k v => ?_, hgone⟩
      rw [rel_erase]
      refine and_congr_right fun hr => ⟨fun hne he => hne he.1, ?_⟩
      rintro hn rfl
      have hall := Std.TreeSet.isEmpty_iff_forall_not_mem.mp hleft v
      rw [mem_trimSet_left] at hall
      have hv := (rel_of_some hk v).mp hr
      exact hall ⟨hv, fun h => hn ⟨rfl, h⟩⟩
    · rename_i hleft
      refine ⟨fun h => h.insert (by simpa using hleft), fun k v => ?_, hgone⟩
      rw [rel_insert]
      by_cases he : k = key
      · subst he; simp [mem_trimSet_left, rel_of_some hk]
      · simp [he]

private theorem trimOrRemoveLoop (freed : KEY → KEY) (rVals : UnorderedSet VAL) (l : List KEY) :
    ∀ acc : Trimmed KEY VAL, let r := l.foldl (trimEntry freed rVals) acc
      (acc.map.NoEmptySet → r.map.NoEmptySet) ∧
      (∀ k v, r.map.rel k v ↔ acc.map.rel k v ∧ ¬ (k ∈ l ∧ v ∈ rVals)) ∧
      ∀ v, v ∈ r.goneVals ↔ v ∈ acc.goneVals ∨ (∃ k ∈ l, acc.map.rel k v) ∧ v ∈ rVals := by
  induction l with
  | nil => intro acc; simp
  | cons x xs ih =>
    intro acc
    simp only [List.foldl_cons]
    obtain ⟨sw, sr, sg⟩ := trimEntry_spec freed rVals acc x
    obtain ⟨hw, hr, hg⟩ := ih (trimEntry freed rVals acc x)
    refine ⟨hw ∘ sw, fun k v => ?_, fun v => ?_⟩
    · rw [hr, sr, List.mem_cons, or_and_right, not_or, and_assoc]
    · rw [hg, sg]
      constructor
      · rintro ((h | ⟨h, hv⟩) | ⟨⟨k, hk, h⟩, hv⟩)
        · exact Or.inl h
        · exact Or.inr ⟨⟨x, by simp, h⟩, hv⟩
        · exact Or.inr ⟨⟨k, by simp [hk], ((sr k v).mp h).1⟩, hv⟩
      · rintro (h | ⟨⟨k, hk, h⟩, hv⟩)
        · exact Or.inl (Or.inl h)
        · by_cases he : k = x
          · subst he; exact Or.inl (Or.inr ⟨h, hv⟩)
          · refine Or.inr ⟨⟨k, by simpa [he] using hk, (sr k v).mpr ⟨h, ?_⟩⟩, hv⟩
            exact fun hh => he hh.1

theorem rel_trimOrRemove {m : LocUnorderedSetMap KEY VAL} {freed : KEY → KEY}
    {keys : UnorderedSet KEY}
    {rVals : UnorderedSet VAL} {k : KEY} {v : VAL} :
    (m.trimOrRemove freed keys rVals).map.rel k v ↔ m.rel k v ∧ ¬ (k ∈ keys ∧ v ∈ rVals) := by
  have h := (trimOrRemoveLoop freed rVals keys.toList ⟨m, ∅, ∅⟩).2.1 k v
  rwa [Std.TreeSet.mem_toList] at h

/-- The values collected are those trimmed from some entry. -/
theorem mem_trimOrRemove_goneVals {m : LocUnorderedSetMap KEY VAL} {freed : KEY → KEY}
    {keys : UnorderedSet KEY}
    {rVals : UnorderedSet VAL} {v : VAL} :
    v ∈ (m.trimOrRemove freed keys rVals).goneVals ↔ (∃ k ∈ keys, m.rel k v) ∧ v ∈ rVals := by
  have h := (trimOrRemoveLoop freed rVals keys.toList ⟨m, ∅, ∅⟩).2.2 v
  simp only [Std.TreeSet.mem_toList] at h
  exact h.trans (or_iff_right Std.TreeSet.not_mem_emptyc)

theorem NoEmptySet.trimOrRemove {m : LocUnorderedSetMap KEY VAL} (hm : m.NoEmptySet)
    (freed : KEY → KEY) (keys : UnorderedSet KEY) (rVals : UnorderedSet VAL) :
    (m.trimOrRemove freed keys rVals).map.NoEmptySet :=
  (trimOrRemoveLoop freed rVals keys.toList ⟨m, ∅, ∅⟩).1 hm

/-- The keys collected are read from entries that lose all their values. -/
theorem mem_trimOrRemove_goneKeys {m : LocUnorderedSetMap KEY VAL} {freed : KEY → KEY}
    {keys : UnorderedSet KEY} {rVals : UnorderedSet VAL} {k : KEY}
    (hk : k ∈ (m.trimOrRemove freed keys rVals).goneKeys) :
    ∃ key ∈ keys, k = freed key ∧ m.mMap[key]? ≠ none ∧ ∀ v, m.rel key v → v ∈ rVals := by
  have loop : ∀ (l : List KEY) (acc : Trimmed KEY VAL),
      (∀ key : KEY, acc.map.mMap[key]? ≠ none → m.mMap[key]? ≠ none) →
      (∀ key v, m.rel key v → acc.map.rel key v ∨ v ∈ rVals) →
      k ∈ (l.foldl (trimEntry freed rVals) acc).goneKeys → k ∈ acc.goneKeys ∨
        ∃ key ∈ l, k = freed key ∧ m.mMap[key]? ≠ none ∧ ∀ v, m.rel key v → v ∈ rVals := by
    intro l
    induction l with
    | nil => exact fun _ _ _ h => Or.inl h
    | cons x xs ih =>
      intro acc hentry hleft hmem
      have hrel := (trimEntry_spec freed rVals acc x).2.1
      have hentry' : ∀ key : KEY, (trimEntry freed rVals acc x).map.mMap[key]? ≠ none →
          m.mMap[key]? ≠ none := by
        intro key
        unfold trimEntry
        cases hx : acc.map.mMap[x]? with
        | none => exact hentry key
        | some vals =>
          dsimp only
          have hcur : m.mMap[x]? ≠ none := hentry x (hx ▸ Option.some_ne_none _)
          split
          · intro h
            refine hentry key fun hnone => h ?_
            rw [Std.TreeMap.getElem?_erase, hnone, ite_self]
          · intro h hnone
            by_cases hkey : key = x
            · subst hkey; exact hcur hnone
            · refine h ?_
              rw [Std.TreeMap.getElem?_insert, if_neg fun he => hkey
                (Std.compare_eq_iff_eq.mp he).symm]
              exact Classical.not_not.mp fun h => hentry key h hnone
      have hleft' : ∀ key v, m.rel key v →
          (trimEntry freed rVals acc x).map.rel key v ∨ v ∈ rVals := by
        intro key v hv
        by_cases hr : v ∈ rVals
        · exact Or.inr hr
        · exact Or.inl ((hrel key v).mpr ⟨(hleft key v hv).resolve_right hr, fun h => hr h.2⟩)
      rcases ih _ hentry' hleft' hmem with hold | ⟨key, hkey, h⟩
      · -- the key of this round is collected if its entry has nothing left
        cases hx : acc.map.mMap[x]? with
        | none =>
          simp only [trimEntry, hx] at hold
          exact Or.inl hold
        | some vals =>
          simp only [trimEntry, hx] at hold
          split at hold
          · rename_i hempty
            rcases mem_insert_iff.mp hold with he | hold
            · refine Or.inr ⟨x, List.mem_cons_self, he, hentry x (by simp [hx]), fun v hv => ?_⟩
              have hall := Std.TreeSet.isEmpty_iff_forall_not_mem.mp hempty v
              rw [mem_trimSet_left, not_and_not_right] at hall
              exact (hleft x v hv).elim (fun h => hall ((rel_of_some hx v).mp h)) id
            · exact Or.inl hold
          · exact Or.inl hold
      · exact Or.inr ⟨key, List.mem_cons_of_mem _ hkey, h⟩
  have hstart := loop keys.toList ⟨m, ∅, ∅⟩ (fun key h => h) (fun key v h => Or.inl h) hk
  obtain h | ⟨key, hkey, h⟩ := hstart
  · exact absurd h Std.TreeSet.not_mem_emptyc
  · exact ⟨key, Std.TreeSet.mem_toList.mp hkey, h⟩

end LocUnorderedSetMap

end DeviceHal.Core.SetMap
