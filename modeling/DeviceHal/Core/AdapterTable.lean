import DeviceHal.Lib.Run
import Mathlib.Data.List.Nodup
import Mathlib.Data.Finset.Card
import Mathlib.Tactic

/-! # The adapter table

`LocApiBase.cpp` keeps its adapters in an array of `MAX_ADAPTERS` pointers that
has no holes: an adapter goes into the first `NULL` slot, and the last adapter
takes the place of one that is removed. The loops read slots up to the first
`NULL`, so the table is the list of adapters that its slots spell. -/
namespace DeviceHal.Core.AdapterTable
open DeviceHal.Lib.Run

variable {A : Type}

def MAX_ADAPTERS : Nat := 10

structure LocApiBase (A : Type) where
  mLocAdapters : List (Option A)
  size : mLocAdapters.length = MAX_ADAPTERS

/-- What the two functions call: `open` goes through a `LocOpenMsg`. -/
inductive Call where
  | close
  | sendLocOpenMsg
deriving DecidableEq

namespace LocApiBase

/-- The `memset` of the constructor. -/
def new (A : Type) : LocApiBase A := ⟨List.replicate MAX_ADAPTERS none, List.length_replicate ..⟩

/-- `mLocAdapters[i]`. -/
def slot (s : LocApiBase A) (i : Nat) : Option A := (s.mLocAdapters[i]?).join

def write (s : LocApiBase A) (i : Nat) (adapter : Option A) : LocApiBase A :=
  ⟨s.mLocAdapters.set i adapter, by rw [List.length_set, s.size]⟩

theorem slot_write {s : LocApiBase A} {i : Nat} (hi : i < MAX_ADAPTERS) (adapter : Option A)
    (k : Nat) : (s.write i adapter).slot k = if k = i then adapter else s.slot k := by
  unfold slot write
  rw [← s.size] at hi
  rw [List.getElem?_set]
  by_cases hk : i = k
  · rw [if_pos hk, if_pos hk.symm, if_pos (hk ▸ hi), Option.join_some]
  · rw [if_neg hk, if_neg (Ne.symm hk)]

theorem slot_of_le (s : LocApiBase A) {i : Nat} (hi : MAX_ADAPTERS ≤ i) : s.slot i = none := by
  rw [slot, List.getElem?_eq_none (s.size.trans_le hi)]
  rfl

variable [DecidableEq A]

/-- The loop of `addAdapter` from `i`: it makes no more rounds than the table has slots. -/
def addLoop (adapter : Option A) : Nat → Nat → LocApiBase A → LocApiBase A × List Call
  | 0, _, s => (s, [])
  | fuel + 1, i, s =>
    if i < MAX_ADAPTERS ∧ s.slot i ≠ adapter then
      if s.slot i = none then (s.write i adapter, [.sendLocOpenMsg])
      else addLoop adapter fuel (i + 1) s
    else (s, [])

def addAdapter (s : LocApiBase A) (adapter : Option A) : LocApiBase A × List Call :=
  addLoop adapter MAX_ADAPTERS 0 s

/-- `while (++i < MAX_ADAPTERS && mLocAdapters[i] != NULL);` -/
def skipAdapters (s : LocApiBase A) : Nat → Nat → Nat
  | 0, i => i
  | fuel + 1, i =>
    if i + 1 < MAX_ADAPTERS ∧ s.slot (i + 1) ≠ none then s.skipAdapters fuel (i + 1) else i + 1

def removeLoop (adapter : Option A) : Nat → Nat → LocApiBase A → LocApiBase A × List Call
  | 0, _, s => (s, [])
  | fuel + 1, i, s =>
    if i < MAX_ADAPTERS ∧ s.slot i ≠ none then
      if s.slot i = adapter then
        let s := s.write i none
        let j := i
        let i := s.skipAdapters MAX_ADAPTERS i - 1
        let s := (s.write j (s.slot i)).write i none
        let call := if 0 = i then Call.close else .sendLocOpenMsg
        let (s, calls) := removeLoop adapter fuel (i + 1) s
        (s, call :: calls)
      else removeLoop adapter fuel (i + 1) s
    else (s, [])

def removeAdapter (s : LocApiBase A) (adapter : Option A) : LocApiBase A × List Call :=
  removeLoop adapter MAX_ADAPTERS 0 s

end LocApiBase

inductive Op (A : Type) where
  | addAdapter (adapter : A)
  | removeAdapter (adapter : A)

section Calls
variable [DecidableEq A]

def LocApiBase.call (s : LocApiBase A) : Op A → LocApiBase A
  | .addAdapter adapter => (s.addAdapter (some adapter)).1
  | .removeAdapter adapter => (s.removeAdapter (some adapter)).1

/-- The adapters that the calls have added and not removed since. -/
def registered (ops : List (Op A)) : Finset A :=
  ops.foldl (fun adapters op =>
    match op with
    | .addAdapter adapter => insert adapter adapters
    | .removeAdapter adapter => adapters.erase adapter) ∅

end Calls
/-! ## The table as a list -/

/-- The table holds the adapters of the list, in its first slots. -/
structure Holds (s : LocApiBase A) (adapters : List A) : Prop where
  slot_eq : ∀ i, s.slot i = adapters[i]?
  nodup : adapters.Nodup

theorem Holds.length_le {s : LocApiBase A} {adapters : List A} (h : Holds s adapters) :
    adapters.length ≤ MAX_ADAPTERS := by
  rw [← List.getElem?_eq_none_iff, ← h.slot_eq]
  exact s.slot_of_le (Nat.le_refl _)

theorem Holds.table_eq {s : LocApiBase A} {adapters : List A} (h : Holds s adapters) :
    s.mLocAdapters =
      adapters.map some ++ List.replicate (MAX_ADAPTERS - adapters.length) none := by
  have hle := h.length_le
  refine List.ext_getElem (by rw [s.size]; simp; omega) fun i hi hi' => ?_
  have hslot := h.slot_eq i
  rw [LocApiBase.slot, List.getElem?_eq_getElem hi, Option.join_some] at hslot
  rw [hslot]
  by_cases hin : i < adapters.length
  · rw [List.getElem?_eq_getElem hin, List.getElem_append_left (by simpa using hin)]
    simp
  · rw [List.getElem?_eq_none (Nat.not_lt.mp hin),
      List.getElem_append_right (by simpa using hin)]
    simp

theorem holds_new : Holds (LocApiBase.new A) [] where
  slot_eq i := by
    rw [LocApiBase.slot, LocApiBase.new, List.getElem?_replicate]
    split <;> rfl
  nodup := List.nodup_nil

/-! ## Adding -/

section Adding
variable [DecidableEq A]

theorem addLoop_eq {s : LocApiBase A} {adapters : List A} (h : Holds s adapters) (adapter : A)
    {fuel i : Nat} (hfuel : fuel + i = MAX_ADAPTERS) (hi : i ≤ adapters.length)
    (hbefore : adapter ∉ adapters.take i) :
    LocApiBase.addLoop (some adapter) fuel i s =
      if adapter ∈ adapters ∨ adapters.length = MAX_ADAPTERS then (s, [])
      else (s.write adapters.length (some adapter), [.sendLocOpenMsg]) := by
  have hle := h.length_le
  induction fuel generalizing i with
  | zero =>
    have hfull : adapters.length = MAX_ADAPTERS := by omega
    rw [if_pos (Or.inr hfull)]
    rfl
  | succ fuel ih =>
    rw [LocApiBase.addLoop, h.slot_eq]
    rcases Nat.lt_or_eq_of_le hi with hlt | hend
    · rw [List.getElem?_eq_getElem hlt]
      by_cases hfound : adapters[i] = adapter
      · rw [if_neg (by simp [hfound]), if_pos (Or.inl (hfound ▸ List.getElem_mem hlt))]
      · rw [if_pos ⟨by omega, by simpa using hfound⟩, if_neg (by simp)]
        refine ih (by omega) hlt ?_
        rw [List.take_add_one, List.getElem?_eq_getElem hlt, List.mem_append]
        rintro (hmem | hmem)
        · exact hbefore hmem
        · exact hfound (by simpa [eq_comm] using hmem)
    · have hnew : adapter ∉ adapters := by
        rwa [hend, List.take_length] at hbefore
      rw [List.getElem?_eq_none hend.ge, if_pos ⟨by omega, by simp⟩, if_pos rfl, hend, if_neg]
      rintro (hmem | hfull)
      · exact hnew hmem
      · omega

/-- An adapter that is not there yet takes the first free slot, if there is one. -/
theorem addAdapter_eq {s : LocApiBase A} {adapters : List A} (h : Holds s adapters) (adapter : A) :
    s.addAdapter (some adapter) =
      if adapter ∈ adapters ∨ adapters.length = MAX_ADAPTERS then (s, [])
      else (s.write adapters.length (some adapter), [.sendLocOpenMsg]) :=
  addLoop_eq h adapter rfl (Nat.zero_le _) (by simp)

theorem Holds.addAdapter {s : LocApiBase A} {adapters : List A} (h : Holds s adapters)
    {adapter : A} (hnew : adapter ∉ adapters) (hroom : adapters.length < MAX_ADAPTERS) :
    Holds (s.addAdapter (some adapter)).1 (adapters ++ [adapter]) := by
  rw [addAdapter_eq h, if_neg (by rintro (hmem | hfull); exacts [hnew hmem, by omega])]
  constructor
  · intro i
    rw [LocApiBase.slot_write hroom, h.slot_eq, List.getElem?_append]
    split_ifs with heq hlt hlt
    · omega
    · rw [heq, Nat.sub_self, List.getElem?_cons_zero]
    · rfl
    · rw [List.getElem?_eq_none (Nat.not_lt.mp hlt), List.getElem?_eq_none]
      simp only [List.length_singleton]
      omega
  · exact List.nodup_append_comm.mp (List.nodup_cons.mpr ⟨hnew, h.nodup⟩)

end Adding
/-! ## Removing -/

theorem skipAdapters_eq {s : LocApiBase A} {i stop : Nat} (hstop : stop ≤ MAX_ADAPTERS)
    (hfull : ∀ k, i < k → k < stop → s.slot k ≠ none) (hfree : s.slot stop = none)
    (hi : i < stop) {fuel : Nat} (hfuel : stop ≤ i + fuel) :
    s.skipAdapters fuel i = stop := by
  induction fuel generalizing i with
  | zero => omega
  | succ fuel ih =>
    rw [LocApiBase.skipAdapters]
    by_cases hnext : i + 1 = stop
    · rw [hnext, if_neg (fun hh => hh.2 hfree)]
    · rw [if_pos ⟨by omega, hfull _ (by omega) (by omega)⟩]
      exact ih (fun k hk => hfull k (by omega)) (by omega) (by omega)

/-- What is behind the removed adapter, with the last one moved to the front. -/
def fillHole (behind : List A) : List A := behind.getLast?.toList ++ behind.dropLast

theorem fillHole_perm (behind : List A) : (fillHole behind).Perm behind := by
  rcases List.eq_nil_or_concat' behind with rfl | ⟨rest, last, rfl⟩
  · exact .refl _
  · rw [fillHole, List.getLast?_concat, List.dropLast_concat]
    exact (List.perm_append_singleton last rest).symm

/-- The slots after the hole has been filled and the last slot cleared. -/
theorem slot_fillHole {s : LocApiBase A} {before behind : List A} {adapter : A}
    (hslot : ∀ i, s.slot i = (before ++ adapter :: behind)[i]?)
    (hle : before.length + behind.length < MAX_ADAPTERS) (k : Nat) :
    let s' := s.write before.length none
    let i := before.length + behind.length
    ((s'.write before.length (s'.slot i)).write i none).slot k =
      (before ++ fillHole behind)[k]? := by
  intro s' i
  have hs' : ∀ k, s'.slot k = if k = before.length then none else s.slot k :=
    LocApiBase.slot_write (by omega) none
  rw [LocApiBase.slot_write hle, LocApiBase.slot_write (by omega), hs', hs', hslot, hslot]
  rcases List.eq_nil_or_concat' behind with rfl | ⟨rest, last, rfl⟩
  · simp only [i, List.length_nil, Nat.add_zero, fillHole, List.getLast?_nil,
      Option.toList_none, List.dropLast_nil, List.append_nil]
    by_cases hk : k = before.length
    · rw [if_pos hk, hk, List.getElem?_eq_none (Nat.le_refl _)]
    · rw [if_neg hk, if_neg hk, if_neg hk, List.getElem?_append]
      split
      · rfl
      · rw [List.getElem?_eq_none (by simp; omega), List.getElem?_eq_none (by omega)]
  · simp only [i, List.length_append, List.length_singleton, fillHole, List.getLast?_concat,
      List.dropLast_concat, Option.toList_some, List.singleton_append]
    grind

section Removing
variable [DecidableEq A]

theorem removeLoop_found {s : LocApiBase A} {before behind : List A} {adapter : A}
    (h : Holds s (before ++ adapter :: behind)) (fuel : Nat) :
    ∃ s', LocApiBase.removeLoop (some adapter) (fuel + 1) before.length s =
        (s', [if before ++ behind = [] then .close else .sendLocOpenMsg]) ∧
      Holds s' (before ++ fillHole behind) := by
  have hle := h.length_le
  rw [List.length_append, List.length_cons] at hle
  have hhere : s.slot before.length = some adapter := by
    rw [h.slot_eq, List.getElem?_append_right (Nat.le_refl _), Nat.sub_self]
    rfl
  set s₁ := s.write before.length none with hs₁
  have hslot₁ : ∀ k, s₁.slot k = if k = before.length then none else s.slot k :=
    LocApiBase.slot_write (by omega) none
  have hskip : s₁.skipAdapters MAX_ADAPTERS before.length =
      before.length + (behind.length + 1) := by
    refine skipAdapters_eq hle (fun k hk hk' => ?_) ?_ (by omega) (by omega)
    · rw [hslot₁, if_neg (by omega), h.slot_eq, List.getElem?_eq_getElem (by simpa using hk')]
      exact Option.some_ne_none _
    · rw [hslot₁, if_neg (by omega), h.slot_eq, List.getElem?_eq_none (by simp)]
  set i := before.length + behind.length with hi
  set s₂ := (s₁.write before.length (s₁.slot i)).write i none with hs₂
  have hslot₂ : ∀ k, s₂.slot k = (before ++ fillHole behind)[k]? :=
    slot_fillHole h.slot_eq (by omega)
  have hend : LocApiBase.removeLoop (some adapter) fuel (i + 1) s₂ = (s₂, []) := by
    cases fuel with
    | zero => rfl
    | succ fuel =>
      rw [LocApiBase.removeLoop, if_neg]
      rintro ⟨-, hfull⟩
      refine hfull ?_
      rw [hslot₂, List.getElem?_eq_none]
      rw [List.length_append, (fillHole_perm behind).length_eq]
      omega
  refine ⟨s₂, ?_, hslot₂, ?_⟩
  · rw [LocApiBase.removeLoop, if_pos ⟨by omega, by simp [hhere]⟩, if_pos hhere]
    have hback : before.length + (behind.length + 1) - 1 = i := by omega
    simp only [← hs₁, hskip, hback, ← hs₂, hend]
    have hlast : 0 = i ↔ before ++ behind = [] := by
      rw [List.append_eq_nil_iff, ← List.length_eq_zero_iff, ← List.length_eq_zero_iff]
      omega
    rw [if_congr hlast rfl rfl]
  · refine ((fillHole_perm behind).append_left before).nodup_iff.mpr ?_
    exact (List.nodup_middle.mp h.nodup).of_cons

theorem removeLoop_eq {s : LocApiBase A} {adapters : List A} (h : Holds s adapters) {adapter : A}
    {fuel i : Nat} (hfuel : fuel + i = MAX_ADAPTERS) (hi : i ≤ adapters.length)
    (hbefore : adapter ∉ adapters.take i) :
    if adapter ∈ adapters then
      ∃ s' adapters', LocApiBase.removeLoop (some adapter) fuel i s =
          (s', [if adapters.erase adapter = [] then .close else .sendLocOpenMsg]) ∧
        Holds s' adapters' ∧ adapters'.Perm (adapters.erase adapter)
    else LocApiBase.removeLoop (some adapter) fuel i s = (s, []) := by
  have hle := h.length_le
  induction fuel generalizing i with
  | zero =>
    have hend : i = adapters.length := by omega
    rw [hend, List.take_length] at hbefore
    rw [if_neg hbefore]
    rfl
  | succ fuel ih =>
    rcases Nat.lt_or_eq_of_le hi with hlt | hend
    · by_cases hfound : adapters[i] = adapter
      · have hsplit : adapters = adapters.take i ++ adapter :: adapters.drop (i + 1) := by
          rw [← hfound, ← List.drop_eq_getElem_cons hlt, List.take_append_drop]
        have hlen : (adapters.take i).length = i := List.length_take_of_le hi
        have hrest : adapters.erase adapter = adapters.take i ++ adapters.drop (i + 1) := by
          rw [hsplit, List.erase_append_right _ hbefore, List.erase_cons_head]
          rw [← hsplit]
        obtain ⟨s', hrun, hholds⟩ := removeLoop_found (hsplit ▸ h) fuel
        rw [if_pos (hfound ▸ List.getElem_mem hlt), hrest]
        rw [hlen] at hrun
        exact ⟨s', _, hrun, hholds, (fillHole_perm _).append_left _⟩
      · have hhere : s.slot i = some adapters[i] := by
          rw [h.slot_eq, List.getElem?_eq_getElem hlt]
        have hround : LocApiBase.removeLoop (some adapter) (fuel + 1) i s =
            LocApiBase.removeLoop (some adapter) fuel (i + 1) s := by
          rw [LocApiBase.removeLoop, hhere, if_pos ⟨by omega, Option.some_ne_none _⟩,
            if_neg fun heq => hfound (Option.some.inj heq)]
        rw [hround]
        refine ih (by omega) hlt ?_
        rw [List.take_add_one, List.getElem?_eq_getElem hlt, List.mem_append]
        rintro (hmem | hmem)
        · exact hbefore hmem
        · exact hfound (by simpa [eq_comm] using hmem)
    · rw [hend, List.take_length] at hbefore
      rw [if_neg hbefore, LocApiBase.removeLoop, if_neg]
      rintro ⟨-, hfull⟩
      exact hfull (by rw [h.slot_eq, List.getElem?_eq_none hend.ge])

/-- A removed adapter leaves the others, in some order; the last one closes. -/
theorem removeAdapter_of_mem {s : LocApiBase A} {adapters : List A} (h : Holds s adapters)
    {adapter : A} (hmem : adapter ∈ adapters) :
    ∃ s' adapters', s.removeAdapter (some adapter) =
        (s', [if adapters.erase adapter = [] then .close else .sendLocOpenMsg]) ∧
      Holds s' adapters' ∧ adapters'.Perm (adapters.erase adapter) := by
  have hloop := removeLoop_eq h rfl (Nat.zero_le _) (show adapter ∉ adapters.take 0 by simp)
  rwa [if_pos hmem] at hloop

theorem removeAdapter_of_not_mem {s : LocApiBase A} {adapters : List A} (h : Holds s adapters)
    {adapter : A} (hmem : adapter ∉ adapters) : s.removeAdapter (some adapter) = (s, []) := by
  have hloop := removeLoop_eq h rfl (Nat.zero_le _) (show adapter ∉ adapters.take 0 by simp)
  rwa [if_neg hmem] at hloop

/-! ## Every sequence of calls -/

theorem registered_snoc (ops : List (Op A)) (op : Op A) :
    registered (ops ++ [op]) =
      match op with
      | .addAdapter adapter => insert adapter (registered ops)
      | .removeAdapter adapter => (registered ops).erase adapter :=
  List.foldl_concat ..

/-- The calls never have more adapters registered than the table has slots. -/
def Fits (ops : List (Op A)) : Prop :=
  ∀ initial, initial <+: ops → (registered initial).card ≤ MAX_ADAPTERS

theorem holds_run {ops : List (Op A)} (hfits : Fits ops) :
    ∃ adapters, Holds (run LocApiBase.call (.new A) ops) adapters ∧
      ∀ a, a ∈ adapters ↔ a ∈ registered ops := by
  induction ops using List.reverseRecOn with
  | nil => exact ⟨[], holds_new, by simp [registered]⟩
  | append_singleton ops op ih =>
    obtain ⟨adapters, h, hmem⟩ := ih fun initial hinitial =>
      hfits initial (hinitial.trans (List.prefix_append ..))
    rw [run_append, run_cons, run_nil]
    simp only [registered_snoc]
    cases op with
    | addAdapter adapter =>
      simp only [Finset.mem_insert, ← hmem]
      by_cases hnew : adapter ∈ adapters
      · refine ⟨adapters, ?_, fun a => (or_iff_right_of_imp fun ha => ha ▸ hnew).symm⟩
        show Holds (LocApiBase.addAdapter _ _).1 _
        rw [addAdapter_eq h, if_pos (Or.inl hnew)]
        exact h
      · have hcard := hfits _ List.prefix_rfl
        rw [registered_snoc] at hcard
        have hset : insert adapter (registered ops) = (adapter :: adapters).toFinset := by
          ext a
          simp [hmem]
        simp only [hset] at hcard
        rw [List.toFinset_card_of_nodup (List.nodup_cons.mpr ⟨hnew, h.nodup⟩)] at hcard
        refine ⟨_, h.addAdapter hnew hcard, fun a => ?_⟩
        simp [or_comm]
    | removeAdapter adapter =>
      simp only [Finset.mem_erase, ← hmem]
      by_cases hin : adapter ∈ adapters
      · obtain ⟨s', adapters', hrun, h', hperm⟩ := removeAdapter_of_mem h hin
        refine ⟨adapters', ?_, fun a => ?_⟩
        · show Holds (LocApiBase.removeAdapter _ _).1 _
          rw [hrun]
          exact h'
        · rw [hperm.mem_iff, h.nodup.mem_erase_iff]
      · refine ⟨adapters, ?_, fun a => ?_⟩
        · show Holds (LocApiBase.removeAdapter _ _).1 _
          rw [removeAdapter_of_not_mem h hin]
          exact h
        · exact (and_iff_right_of_imp fun ha (hh : a = adapter) => hin (hh ▸ ha)).symm

/-- **The adapter table.** After any calls the table holds the registered adapters in its
first slots, each once, and a further removal closes exactly if it takes the last one. -/
theorem adapter_table (ops : List (Op A)) (hfits : Fits ops) :
    let s := run LocApiBase.call (.new A) ops
    (∃ adapters : List A, s.mLocAdapters =
        adapters.map some ++ List.replicate (MAX_ADAPTERS - adapters.length) none ∧
      adapters.Nodup ∧ adapters.toFinset = registered ops) ∧
    ∀ adapter, (Call.close ∈ (s.removeAdapter (some adapter)).2 ↔ registered ops = {adapter}) ∧
      (adapter ∉ registered ops → s.removeAdapter (some adapter) = (s, [])) := by
  intro s
  obtain ⟨adapters, h, hmem⟩ := holds_run hfits
  refine ⟨⟨adapters, h.table_eq, h.nodup, by ext a; simp [hmem]⟩, fun adapter => ⟨?_, ?_⟩⟩
  · have hset : registered ops = adapters.toFinset := by
      ext a
      simp [hmem]
    by_cases hin : adapter ∈ adapters
    · obtain ⟨s', adapters', hrun, -, -⟩ := removeAdapter_of_mem h hin
      have hlast : adapters.erase adapter = [] ↔ registered ops = {adapter} := by
        rw [hset, Finset.eq_singleton_iff_unique_mem, List.eq_nil_iff_forall_not_mem]
        simp only [h.nodup.mem_erase_iff, List.mem_toFinset, hin, true_and]
        exact forall_congr' fun a => not_and'.trans (imp_congr_right fun _ => not_not)
      show _ ∈ (LocApiBase.removeAdapter _ _).2 ↔ _
      rw [hrun, ← hlast, List.mem_singleton]
      split
      · rename_i hnil
        exact iff_of_true rfl hnil
      · rename_i hnil
        exact iff_of_false (fun hh => by cases hh) hnil
    · rw [removeAdapter_of_not_mem h hin]
      refine iff_of_false (List.not_mem_nil) fun hset => ?_
      rw [hmem, hset] at hin
      exact hin (Finset.mem_singleton_self _)
  · intro hnot
    exact removeAdapter_of_not_mem h (by rwa [hmem])

/-- Two adapters, and the first one removed. -/
def oneLeft : List (Op Nat) := [.addAdapter 1, .addAdapter 2, .removeAdapter 1]

theorem oneLeft_closes :
    let s := run LocApiBase.call (.new Nat) oneLeft
    registered oneLeft = {2} ∧
      (Call.close ∈ (s.removeAdapter (some 2)).2 ↔ registered oneLeft = {2}) := by
  have hfits : ∀ initial ∈ oneLeft.inits, (registered initial).card ≤ MAX_ADAPTERS := by decide
  exact ⟨by decide, ((adapter_table oneLeft
    fun initial hinitial => hfits initial ((List.mem_inits _ _).mpr hinitial)).2 2).1⟩

end Removing

end DeviceHal.Core.AdapterTable
