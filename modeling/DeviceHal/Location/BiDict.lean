import Std.Data.TreeMap
import Mathlib.Tactic

/-! # BiDict: client ids and adapter sessions

Three maps that `LocationAPIClientBase` keeps in step: id to session, session
to id, session to what is known of it. The removals look up the other key with
`operator[]`, which reads 0 for a key that is not there. What the maps hold is
a `BiDictView`, where the arguments about them are made. -/
namespace DeviceHal.Location

/-! ## What the maps hold -/

/-- What the three maps hold, as functions. -/
structure BiDictView (T : Type*) where
  mForwardMap : Nat → Option Nat
  mBackwardMap : Nat → Option Nat
  mExtMap : Nat → Option T

namespace BiDictView
variable {T : Type*}

def empty : BiDictView T := ⟨fun _ => none, fun _ => none, fun _ => none⟩

def hasId (d : BiDictView T) (id : Nat) : Bool := (d.mForwardMap id).isSome

def hasSession (d : BiDictView T) (session : Nat) : Bool := (d.mBackwardMap session).isSome

def set (d : BiDictView T) (id session : Nat) (ext : T) : BiDictView T :=
  { mForwardMap := Function.update d.mForwardMap id (some session)
    mBackwardMap := Function.update d.mBackwardMap session (some id)
    mExtMap := Function.update d.mExtMap session (some ext) }

def rmById (d : BiDictView T) (id : Nat) : BiDictView T :=
  let session := (d.mForwardMap id).getD 0
  { mForwardMap := Function.update d.mForwardMap id none
    mBackwardMap := Function.update d.mBackwardMap session none
    mExtMap := Function.update d.mExtMap session none }

def rmBySession (d : BiDictView T) (session : Nat) : BiDictView T :=
  let id := (d.mBackwardMap session).getD 0
  { mForwardMap := Function.update d.mForwardMap id none
    mBackwardMap := Function.update d.mBackwardMap session none
    mExtMap := Function.update d.mExtMap session none }

/-- What is known of the id's session; `zero` is the cleared `T`. -/
def getExtById (d : BiDictView T) (zero : T) (id : Nat) : T :=
  let session := (d.mForwardMap id).getD 0
  if 0 < session then (d.mExtMap session).getD zero else zero

def getExtBySession (d : BiDictView T) (zero : T) (session : Nat) : T := (d.mExtMap session).getD zero

/-! ## The maps stay in step -/

/-- `id` is mapped to `session`. -/
def Maps (d : BiDictView T) (id session : Nat) : Prop := d.mForwardMap id = some session

/-- Forward and backward are the same relation. -/
structure InStep (d : BiDictView T) : Prop where
  forward : ∀ {id session}, d.Maps id session → d.mBackwardMap session = some id
  backward : ∀ {session id}, d.mBackwardMap session = some id → d.Maps id session

theorem inStep_empty : (empty : BiDictView T).InStep where
  forward h := nomatch h
  backward h := nomatch h

variable {d : BiDictView T}

theorem InStep.hasSession_iff (h : d.InStep) {session : Nat} :
    d.hasSession session = true ↔ ∃ id, d.Maps id session := by
  rw [hasSession, Option.isSome_iff_exists]
  constructor
  · intro hb
    obtain ⟨id, hb⟩ := hb
    exact ⟨id, h.backward hb⟩
  · intro hf
    obtain ⟨id, hf⟩ := hf
    exact ⟨id, h.forward hf⟩

theorem maps_set {id session x y : Nat} {ext : T} :
    (d.set id session ext).Maps x y ↔ x = id ∧ session = y ∨ x ≠ id ∧ d.Maps x y := by
  by_cases hx : x = id <;> simp [Maps, set, hx]

theorem hasSession_set {id session y : Nat} {ext : T} :
    (d.set id session ext).hasSession y = true ↔ y = session ∨ d.hasSession y = true := by
  by_cases hy : y = session <;> simp [hasSession, set, hy]

/-- A new pair of keys, neither of which is in use. -/
theorem InStep.set (h : d.InStep) {id session : Nat} {ext : T} (hid : d.hasId id = false)
    (hs : d.hasSession session = false) : (d.set id session ext).InStep := by
  have hid : d.mForwardMap id = none := by simpa [hasId] using hid
  have hs : d.mBackwardMap session = none := by simpa [hasSession] using hs
  constructor
  · intro x y hxy
    obtain ⟨rfl, rfl⟩ | ⟨hx, hxy⟩ := maps_set.mp hxy
    · simp [BiDictView.set]
    · have hback := h.forward hxy
      have hy : y ≠ session := by
        intro hy
        rw [hy, hs] at hback
        cases hback
      simp [BiDictView.set, hy, hback]
  · intro y x hyx
    rw [maps_set]
    by_cases hy : y = session
    · subst hy
      have hx : id = x := by simpa [BiDictView.set] using hyx
      exact .inl ⟨hx.symm, rfl⟩
    · have hback : d.mBackwardMap y = some x := by simpa [BiDictView.set, hy] using hyx
      have hfront := h.backward hback
      refine .inr ⟨fun hx => ?_, hfront⟩
      rw [hx, Maps, hid] at hfront
      cases hfront

/-- Removing a pair by either of its keys is the same. -/
theorem InStep.rm_eq (h : d.InStep) {id session : Nat} (hm : d.Maps id session) :
    d.rmBySession session = d.rmById id := by
  have hback := h.forward hm
  have hfront : d.mForwardMap id = some session := hm
  simp [rmBySession, rmById, hback, hfront]

theorem maps_rmById {id x y : Nat} :
    (d.rmById id).Maps x y ↔ x ≠ id ∧ d.Maps x y := by
  by_cases hx : x = id <;> simp [Maps, rmById, hx]

theorem hasSession_rmById {id session y : Nat} (hm : d.Maps id session) :
    (d.rmById id).hasSession y = true ↔ y ≠ session ∧ d.hasSession y = true := by
  have hfront : d.mForwardMap id = some session := hm
  by_cases hy : y = session <;> simp [hasSession, rmById, hfront, hy]

theorem InStep.rmById (h : d.InStep) {id session : Nat} (hm : d.Maps id session) :
    (d.rmById id).InStep := by
  have hfront : d.mForwardMap id = some session := hm
  constructor
  · intro x y hxy
    obtain ⟨hx, hxy⟩ := maps_rmById.mp hxy
    have hback := h.forward hxy
    have hy : y ≠ session := by
      intro hy
      rw [hy, h.forward hm] at hback
      exact hx (Option.some.inj hback).symm
    simp [BiDictView.rmById, hfront, hy, hback]
  · intro y x hyx
    have hy : y ≠ session := by
      intro hy
      simp [BiDictView.rmById, hfront, hy] at hyx
    have hback : d.mBackwardMap y = some x := by simpa [BiDictView.rmById, hfront, hy] using hyx
    have hxy := h.backward hback
    refine maps_rmById.mpr ⟨fun hx => ?_, hxy⟩
    rw [hx, Maps, hfront] at hxy
    exact hy (Option.some.inj hxy).symm

end BiDictView

/-! ## The dictionary -/

structure BiDict (T : Type) where
  mForwardMap : Std.TreeMap Nat Nat
  mBackwardMap : Std.TreeMap Nat Nat
  mExtMap : Std.TreeMap Nat T

namespace BiDict
variable {T : Type}

def empty : BiDict T := ⟨∅, ∅, ∅⟩

def hasId (d : BiDict T) (id : Nat) : Bool := d.mForwardMap.contains id

def hasSession (d : BiDict T) (session : Nat) : Bool := d.mBackwardMap.contains session

def set (d : BiDict T) (id session : Nat) (ext : T) : BiDict T :=
  { mForwardMap := d.mForwardMap.insert id session
    mBackwardMap := d.mBackwardMap.insert session id
    mExtMap := d.mExtMap.insert session ext }

def rmById (d : BiDict T) (id : Nat) : BiDict T :=
  { mForwardMap := d.mForwardMap.erase id
    mBackwardMap := d.mBackwardMap.erase (d.mForwardMap.getD id 0)
    mExtMap := d.mExtMap.erase (d.mForwardMap.getD id 0) }

def rmBySession (d : BiDict T) (session : Nat) : BiDict T :=
  { mForwardMap := d.mForwardMap.erase (d.mBackwardMap.getD session 0)
    mBackwardMap := d.mBackwardMap.erase session
    mExtMap := d.mExtMap.erase session }

def getId (d : BiDict T) (session : Nat) : Nat := d.mBackwardMap.getD session 0

def getSession (d : BiDict T) (id : Nat) : Nat := d.mForwardMap.getD id 0

/-- `zero` is the cleared `T`. The id has been looked up, so that `operator[]`
adds no entry. -/
def getExtById (d : BiDict T) (zero : T) (id : Nat) : T :=
  let session := d.mForwardMap.getD id 0
  if 0 < session then d.mExtMap.getD session zero else zero

def getExtBySession (d : BiDict T) (zero : T) (session : Nat) : T :=
  d.mExtMap.getD session zero

/-- Every session that has an id, in ascending order. -/
def getAllSessions (d : BiDict T) : List Nat := d.mBackwardMap.keys

/-! ## What the maps hold -/

def view (d : BiDict T) : BiDictView T :=
  ⟨fun id => d.mForwardMap[id]?, fun session => d.mBackwardMap[session]?,
    fun session => d.mExtMap[session]?⟩

theorem getElem?_insert_eq_update {α : Type} (m : Std.TreeMap Nat α) (k : Nat) (v : α) :
    (fun x => (m.insert k v)[x]?) = Function.update (fun x => m[x]?) k (some v) := by
  funext x
  rw [Std.TreeMap.getElem?_insert, Function.update_apply]
  by_cases hx : x = k
  · rw [if_pos hx, if_pos (Std.compare_eq_iff_eq.mpr hx.symm)]
  · rw [if_neg hx, if_neg fun hk => hx (Std.compare_eq_iff_eq.mp hk).symm]

theorem getElem?_erase_eq_update {α : Type} (m : Std.TreeMap Nat α) (k : Nat) :
    (fun x => (m.erase k)[x]?) = Function.update (fun x => m[x]?) k none := by
  funext x
  rw [Std.TreeMap.getElem?_erase, Function.update_apply]
  by_cases hx : x = k
  · rw [if_pos hx, if_pos (Std.compare_eq_iff_eq.mpr hx.symm)]
  · rw [if_neg hx, if_neg fun hk => hx (Std.compare_eq_iff_eq.mp hk).symm]

variable {d : BiDict T} {id session : Nat} {ext : T}

@[simp] theorem view_empty : (empty : BiDict T).view = BiDictView.empty := by
  simp [view, empty, BiDictView.empty]

@[simp] theorem view_set : (d.set id session ext).view = d.view.set id session ext := by
  simp only [view, set, BiDictView.set, getElem?_insert_eq_update]

@[simp] theorem view_rmById : (d.rmById id).view = d.view.rmById id := by
  simp only [view, rmById, BiDictView.rmById, getElem?_erase_eq_update,
    Std.TreeMap.getD_eq_getD_getElem?]

@[simp] theorem view_rmBySession :
    (d.rmBySession session).view = d.view.rmBySession session := by
  simp only [view, rmBySession, BiDictView.rmBySession, getElem?_erase_eq_update,
    Std.TreeMap.getD_eq_getD_getElem?]

theorem hasId_eq : d.hasId id = d.view.hasId id := Std.TreeMap.contains_eq_isSome_getElem?

theorem hasSession_eq : d.hasSession session = d.view.hasSession session :=
  Std.TreeMap.contains_eq_isSome_getElem?

theorem hasSession_iff (h : d.view.InStep) :
    d.hasSession session = true ↔ ∃ id, d.view.Maps id session := by
  rw [hasSession_eq]
  exact h.hasSession_iff

theorem getExtById_eq (zero : T) : d.getExtById zero id = d.view.getExtById zero id := by
  simp only [getExtById, BiDictView.getExtById, view, Std.TreeMap.getD_eq_getD_getElem?]
  rfl

theorem getExtBySession_eq (zero : T) :
    d.getExtBySession zero session = d.view.getExtBySession zero session :=
  Std.TreeMap.getD_eq_getD_getElem?

theorem getId_eq : d.getId session = (d.view.mBackwardMap session).getD 0 :=
  Std.TreeMap.getD_eq_getD_getElem?

theorem getSession_eq : d.getSession id = (d.view.mForwardMap id).getD 0 :=
  Std.TreeMap.getD_eq_getD_getElem?

/-- An id that is looked up with success is mapped to its session. -/
theorem maps_of_getSession_pos (h : 0 < d.getSession id) : d.view.Maps id (d.getSession id) := by
  rw [getSession_eq] at h ⊢
  rw [BiDictView.Maps]
  cases hf : d.view.mForwardMap id with
  | none => simp [hf] at h
  | some session => rfl

/-! ## The maps as a bijection -/

/-- Forward and backward are inverse to each other, and exactly the sessions
that have an id have an `ext`. -/
structure Bijective (d : BiDict T) : Prop where
  inverse : ∀ id session : Nat, d.mForwardMap[id]? = some session ↔ d.mBackwardMap[session]? = some id
  keys : ∀ session : Nat, session ∈ d.mExtMap ↔ session ∈ d.mBackwardMap

theorem bijective_iff : d.Bijective ↔ d.view.InStep ∧
    ∀ session, (d.view.mExtMap session).isSome = d.view.hasSession session := by
  have hkeys : (∀ session : Nat, session ∈ d.mExtMap ↔ session ∈ d.mBackwardMap) ↔
      ∀ session, (d.view.mExtMap session).isSome = d.view.hasSession session := by
    refine forall_congr' fun session => ?_
    rw [Std.TreeMap.mem_iff_isSome_getElem?, Std.TreeMap.mem_iff_isSome_getElem?,
      ← Bool.eq_iff_iff]
    rfl
  constructor
  · intro h
    exact ⟨⟨fun hm => (h.inverse _ _).mp hm, fun hb => (h.inverse _ _).mpr hb⟩, hkeys.mp h.keys⟩
  · intro h
    obtain ⟨hstep, hext⟩ := h
    exact ⟨fun _ _ => ⟨fun hf => hstep.forward hf, fun hb => hstep.backward hb⟩, hkeys.mpr hext⟩

theorem bijective_empty : (empty : BiDict T).Bijective := by
  rw [bijective_iff, view_empty]
  exact ⟨BiDictView.inStep_empty, fun _ => rfl⟩

theorem Bijective.inStep (h : d.Bijective) : d.view.InStep := (bijective_iff.mp h).1

/-- A new pair of keys, neither of which is in use. -/
theorem Bijective.set (h : d.Bijective) (hid : d.hasId id = false)
    (hs : d.view.hasSession session = false) : (d.set id session ext).Bijective := by
  obtain ⟨hstep, hext⟩ := bijective_iff.mp h
  rw [bijective_iff, view_set]
  refine ⟨hstep.set (hasId_eq.symm.trans hid) hs, fun s => ?_⟩
  by_cases hss : s = session
  · simp [BiDictView.set, BiDictView.hasSession, hss]
  · have hkeep := hext s
    simpa [BiDictView.set, BiDictView.hasSession, hss] using hkeep

theorem Bijective.rmBySession (h : d.Bijective) (hm : d.view.Maps id session) :
    (d.rmBySession session).Bijective := by
  obtain ⟨hstep, hext⟩ := bijective_iff.mp h
  rw [bijective_iff, view_rmBySession]
  constructor
  · rw [hstep.rm_eq hm]
    exact hstep.rmById hm
  · intro s
    by_cases hss : s = session
    · simp [BiDictView.rmBySession, BiDictView.hasSession, hss]
    · have hkeep := hext s
      simpa [BiDictView.rmBySession, BiDictView.hasSession, hss] using hkeep

end BiDict

end DeviceHal.Location
