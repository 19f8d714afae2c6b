import DeviceHal.Lib.Run
import DeviceHal.Gnss.LocationTypes
import DeviceHal.Location.BiDict
import DeviceHal.Location.RequestQueue
import Mathlib.Tactic

/-! # LocationAPIClientBase: geofences

The client names its fences by ids, the adapter by sessions. Ids are bound when
the add is sent and released when the removal is sent; the answers come later
and only carry sessions, which the request of each operation translates back. -/
namespace DeviceHal.Location.Geofences
open DeviceHal.Lib.Run DeviceHal.Gnss.LocationTypes DeviceHal.Location.Requests
open LocationError

abbrev GeofenceBreachTypeMask := UInt16

structure GeofenceOption where
  breachTypeMask : GeofenceBreachTypeMask
  responsiveness : Nat
  dwellTime : Nat
deriving DecidableEq

abbrev GeofenceBiDict := BiDict GeofenceBreachTypeMask

def GEOFENCE_SESSION_ID : Nat := 0xFFFFFFFF

/-- The calls of `LocationAPI`; each has a callback of its own. -/
inductive GeofenceKind where
  | addGeofences
  | removeGeofences
  | modifyGeofences
  | pauseGeofences
  | resumeGeofences
deriving DecidableEq
open GeofenceKind

/-! ## Requests -/

/-- The requests, with the number of the operation that pushed them. -/
inductive GeofenceRequest where
  | AddGeofencesRequest (op : Nat)
  | RemoveGeofencesRequest (op : Nat) (mRemovedGeofenceBiDict : Option GeofenceBiDict)
  | ModifyGeofencesRequest (op : Nat)
  | PauseGeofencesRequest (op : Nat)
  | ResumeGeofencesRequest (op : Nat)
open GeofenceRequest

/-- A call of `onAddGeofencesCb`, `onRemoveGeofencesCb` and so on, with the
operation whose request makes it. -/
structure GeofencesCb where
  kind : GeofenceKind
  op : Nat
  errors : List LocationError
  ids : List Nat
deriving DecidableEq

/-- `mGeofenceBiDict` is the dictionary at the time of the response. -/
def GeofenceRequest.onCollectiveResponse (mGeofenceBiDict : GeofenceBiDict)
    (errors : List LocationError) (sessions : List Nat) : GeofenceRequest → Option GeofencesCb
  | AddGeofencesRequest op => some ⟨addGeofences, op, errors, sessions.map mGeofenceBiDict.getId⟩
  | RemoveGeofencesRequest op (some mRemovedGeofenceBiDict) =>
    some ⟨removeGeofences, op, errors, sessions.map mRemovedGeofenceBiDict.getId⟩
  | RemoveGeofencesRequest _ none => none
  | ModifyGeofencesRequest op =>
    some ⟨modifyGeofences, op, errors, sessions.map mGeofenceBiDict.getId⟩
  | PauseGeofencesRequest op =>
    some ⟨pauseGeofences, op, errors, sessions.map mGeofenceBiDict.getId⟩
  | ResumeGeofencesRequest op =>
    some ⟨resumeGeofences, op, errors, sessions.map mGeofenceBiDict.getId⟩

/-! ## The client -/

/-- A session that is handed to the adapter, with the id that stands for it. -/
structure Fence where
  id : Nat
  session : Nat
deriving DecidableEq

/-- A call that the client makes for an operation. -/
structure GeofenceCall where
  kind : GeofenceKind
  op : Nat
  /-- The adapter sees the sessions only; those of an add are what it returns. -/
  fences : List Fence
  /-- The options that go with an add or a modification, one for each id of the operation. -/
  options : List GeofenceOption
deriving DecidableEq

def GeofenceCall.sessions (call : GeofenceCall) : List Nat := call.fences.map (·.session)

/-- The callback that the call's answer is for. -/
def GeofenceCall.answer (call : GeofenceCall) (errors : List LocationError) : GeofencesCb :=
  ⟨call.kind, call.op, errors, call.fences.map (·.id)⟩

structure GeofenceClient where
  /-- `mLocationAPI` is not null. -/
  mLocationAPI : Bool
  /-- `mRequestQueues[REQUEST_GEOFENCE]`. -/
  mRequestQueue : Requests.RequestQueue GeofenceRequest
  mGeofenceBiDict : GeofenceBiDict

namespace GeofenceClient

def push (c : GeofenceClient) (request : GeofenceRequest) : GeofenceClient :=
  { c with mRequestQueue := c.mRequestQueue.push request }

/-- The loop of `locAPIAddGeofences`. -/
def bindFences (d : GeofenceBiDict) : List ((Nat × GeofenceOption) × Nat) → GeofenceBiDict
  | [] => d
  | ((id, option), session) :: rest => bindFences (d.set id session option.breachTypeMask) rest

/-- `sessions` is what the adapter returns, `op` the number of the operation. -/
def locAPIAddGeofences (c : GeofenceClient) (fences : List (Nat × GeofenceOption))
    (sessions : Option (List Nat)) (op : Nat) :
    LocationError × GeofenceClient × Option GeofenceCall :=
  if c.mLocationAPI then
    let c := if c.mRequestQueue.getSession ≠ GEOFENCE_SESSION_ID then
        { c with mRequestQueue := c.mRequestQueue.reset GEOFENCE_SESSION_ID }
      else c
    match sessions with
    | none => (LOCATION_ERROR_GENERAL_FAILURE, c, none)
    | some sessions =>
      let c := c.push (AddGeofencesRequest op)
      let bound := fences.zip sessions
      (LOCATION_ERROR_SUCCESS, { c with mGeofenceBiDict := bindFences c.mGeofenceBiDict bound },
        some ⟨addGeofences, op, bound.map fun b => ⟨b.1.1, b.2⟩, fences.map Prod.snd⟩)
  else (LOCATION_ERROR_GENERAL_FAILURE, c, none)

/-- The loop of `locAPIRemoveGeofences`: the fences that are found, what is left,
and `removedGeofenceBiDict`. -/
def releaseFences (d removed : GeofenceBiDict) :
    List Nat → List Fence × GeofenceBiDict × GeofenceBiDict
  | [] => ([], d, removed)
  | id :: ids =>
    let session := d.getSession id
    if session > 0 then
      let type := d.getExtBySession 0 session
      let (fences, d, removed) :=
        releaseFences (d.rmBySession session) (removed.set id session type) ids
      (⟨id, session⟩ :: fences, d, removed)
    else releaseFences d removed ids

def locAPIRemoveGeofences (c : GeofenceClient) (ids : List Nat) (op : Nat) :
    GeofenceClient × Option GeofenceCall :=
  if c.mLocationAPI ∧ c.mRequestQueue.getSession = GEOFENCE_SESSION_ID then
    let (fences, d, removed) := releaseFences c.mGeofenceBiDict .empty ids
    let c := { c with mGeofenceBiDict := d }
    if fences.length > 0 then
      (c.push (RemoveGeofencesRequest op (some removed)), some ⟨removeGeofences, op, fences, []⟩)
    else (c, none)
  else (c, none)

/-- The loop of the operations on fences that stay: those that are found, with
a new mask for each that has one. -/
def visitFences (d : GeofenceBiDict) :
    List (Nat × Option GeofenceBreachTypeMask) → List Fence × GeofenceBiDict
  | [] => ([], d)
  | (id, mask) :: rest =>
    let session := d.getSession id
    if session > 0 then
      let d := match mask with
        | some mask => d.set id session mask
        | none => d
      let (fences, d) := visitFences d rest
      (⟨id, session⟩ :: fences, d)
    else visitFences d rest

/-- What `locAPIModifyGeofences`, `locAPIPauseGeofences` and `locAPIResumeGeofences` share. -/
def visit (c : GeofenceClient) (kind : GeofenceKind) (request : Nat → GeofenceRequest)
    (ids : List (Nat × Option GeofenceBreachTypeMask)) (options : List GeofenceOption) (op : Nat) :
    GeofenceClient × Option GeofenceCall :=
  if c.mLocationAPI ∧ c.mRequestQueue.getSession = GEOFENCE_SESSION_ID then
    let (fences, d) := visitFences c.mGeofenceBiDict ids
    let c := { c with mGeofenceBiDict := d }
    if fences.length > 0 then (c.push (request op), some ⟨kind, op, fences, options⟩)
    else (c, none)
  else (c, none)

/-- The options are handed on as they are, also where ids are left out. -/
def locAPIModifyGeofences (c : GeofenceClient) (fences : List (Nat × GeofenceOption)) (op : Nat) :
    GeofenceClient × Option GeofenceCall :=
  c.visit modifyGeofences ModifyGeofencesRequest
    (fences.map fun fence => (fence.1, some fence.2.breachTypeMask)) (fences.map Prod.snd) op

def locAPIPauseGeofences (c : GeofenceClient) (ids : List Nat) (op : Nat) :
    GeofenceClient × Option GeofenceCall :=
  c.visit pauseGeofences PauseGeofencesRequest (ids.map fun id => (id, none)) [] op

/-- `mask` has an entry for each id, or is null. -/
def locAPIResumeGeofences (c : GeofenceClient) (ids : List Nat)
    (mask : Option (List GeofenceBreachTypeMask)) (op : Nat) :
    GeofenceClient × Option GeofenceCall :=
  let masks := match mask with
    | some mask => ids.zip (mask.map some)
    | none => ids.map fun id => (id, none)
  c.visit resumeGeofences ResumeGeofencesRequest masks [] op

/-- The sessions go where ids are expected. -/
def locAPIRemoveAllGeofences (c : GeofenceClient) (op : Nat) :
    GeofenceClient × Option GeofenceCall :=
  c.locAPIRemoveGeofences c.mGeofenceBiDict.getAllSessions op

/-- What is done under the mutex: the request at the front of the queue is taken. -/
def onCollectiveResponseCb (c : GeofenceClient) : GeofenceClient × Option GeofenceRequest :=
  if c.mRequestQueue.getSession = GEOFENCE_SESSION_ID then
    let (request, queue) := c.mRequestQueue.pop
    ({ c with mRequestQueue := queue }, request)
  else (c, none)

end GeofenceClient

/-! ## Runs -/

/-- An answer that `onCollectiveResponseCb` has a request for and not called back yet. -/
structure Answer where
  request : Option GeofenceRequest
  call : GeofenceCall
  errors : List LocationError

structure World where
  client : GeofenceClient
  /-- The calls that are not answered yet, oldest first. -/
  pending : List GeofenceCall
  answer : Option Answer
  /-- The sessions the adapter has given out. -/
  sessions : List Nat
  ops : Nat
  callbacks : List GeofencesCb
  /-- What the answers so far were for. -/
  answered : List GeofencesCb

inductive Event where
  | addGeofences (fences : List (Nat × GeofenceOption)) (sessions : Option (List Nat))
  | removeGeofences (ids : List Nat)
  | modifyGeofences (fences : List (Nat × GeofenceOption))
  | pauseGeofences (ids : List Nat)
  | resumeGeofences (ids : List Nat) (mask : Option (List GeofenceBreachTypeMask))
  | removeAllGeofences
  /-- The adapter answers its oldest call, with the sessions of the call. -/
  | response (errors : List LocationError)
  /-- The request of the answer calls back, after the mutex was released. -/
  | callback
deriving DecidableEq

namespace World

/-- A client whose API could be created, or not. -/
def init (api : Bool) : World := ⟨⟨api, ⟨0, []⟩, .empty⟩, [], none, [], 0, [], []⟩

/-- An operation of the client, with what it hands to the adapter. -/
def hand (w : World) (c : GeofenceClient) (call : Option GeofenceCall) : World :=
  { w with
    client := c
    pending := w.pending ++ call.toList
    ops := w.ops + 1 }

def step (w : World) : Event → World
  | .addGeofences fences sessions =>
    let (_, c, call) := w.client.locAPIAddGeofences fences sessions w.ops
    { w.hand c call with sessions := (call.map (·.sessions)).getD [] ++ w.sessions }
  | .removeGeofences ids =>
    let (c, call) := w.client.locAPIRemoveGeofences ids w.ops
    w.hand c call
  | .modifyGeofences fences =>
    let (c, call) := w.client.locAPIModifyGeofences fences w.ops
    w.hand c call
  | .pauseGeofences ids =>
    let (c, call) := w.client.locAPIPauseGeofences ids w.ops
    w.hand c call
  | .resumeGeofences ids mask =>
    let (c, call) := w.client.locAPIResumeGeofences ids mask w.ops
    w.hand c call
  | .removeAllGeofences =>
    let (c, call) := w.client.locAPIRemoveAllGeofences w.ops
    w.hand c call
  | .response errors =>
    match w.answer, w.pending with
    | none, call :: rest =>
      let (c, request) := w.client.onCollectiveResponseCb
      { w with client := c, pending := rest, answer := some ⟨request, call, errors⟩ }
    -- the adapter's thread is in a callback, or has nothing to answer
    | _, _ => w
  | .callback =>
    match w.answer with
    | none => w
    | some answer =>
      let callback := answer.request.bind
        (·.onCollectiveResponse w.client.mGeofenceBiDict answer.errors answer.call.sessions)
      { w with
        answer := none
        callbacks := w.callbacks ++ callback.toList
        answered := w.answered ++ [answer.call.answer answer.errors] }

end World

/-- The adapter gives one session for each fence, none twice and none zero. -/
def FreshSessions (w : World) : Event → Prop
  | .addGeofences fences (some sessions) => sessions.length = fences.length ∧ sessions.Nodup ∧
    ∀ session ∈ sessions, session ≠ 0 ∧ session ∉ w.sessions
  | _ => True

instance FreshSessions.decidable (w : World) (e : Event) : Decidable (FreshSessions w e) := by
  unfold FreshSessions
  split <;> infer_instance

/-- An add that goes through names distinct ids, and none that is bound. -/
def NewIds (w : World) : Event → Prop
  | .addGeofences fences (some _) => w.client.mLocationAPI = true →
    (fences.map Prod.fst).Nodup ∧ ∀ fence ∈ fences, w.client.mGeofenceBiDict.hasId fence.1 = false
  | _ => True

instance NewIds.decidable (w : World) (e : Event) : Decidable (NewIds w e) := by
  unfold NewIds
  split <;> infer_instance

/-! ## What the loops do to the dictionary -/

section
variable {d removed : GeofenceBiDict} {session : Nat}
variable {bound : List ((Nat × GeofenceOption) × Nat)}
open GeofenceClient BiDict

theorem backward_bindFences (hs : ∀ b ∈ bound, b.2 ≠ session) :
    (bindFences d bound).view.mBackwardMap session = d.view.mBackwardMap session := by
  induction bound generalizing d with
  | nil => rfl
  | cons b rest ih =>
    obtain ⟨⟨id, option⟩, s⟩ := b
    rw [bindFences, ih fun b hb => hs b (.tail _ hb), view_set]
    exact Function.update_of_ne (hs _ (.head _)).symm ..

theorem backward_bindFences_of_mem (hnodup : (bound.map Prod.snd).Nodup)
    {b : (Nat × GeofenceOption) × Nat} (hb : b ∈ bound) :
    (bindFences d bound).view.mBackwardMap b.2 = some b.1.1 := by
  induction bound generalizing d with
  | nil => cases hb
  | cons b' rest ih =>
    obtain ⟨⟨id, option⟩, s⟩ := b'
    obtain ⟨hs, hrest⟩ := List.nodup_cons.mp hnodup
    rw [bindFences]
    rcases List.mem_cons.mp hb with rfl | hb
    · rw [backward_bindFences fun b hb heq => hs (List.mem_map.mpr ⟨b, hb, heq⟩), view_set]
      exact Function.update_self ..
    · exact ih hrest hb

theorem hasSession_bindFences : (bindFences d bound).view.hasSession session = true ↔
    session ∈ bound.map Prod.snd ∨ d.view.hasSession session = true := by
  induction bound generalizing d with
  | nil => simp [bindFences]
  | cons b rest ih =>
    obtain ⟨⟨id, option⟩, s⟩ := b
    rw [bindFences, ih, view_set, BiDictView.hasSession_set, List.map_cons, List.mem_cons,
      ← or_assoc, or_comm (a := session ∈ _)]

/-- An id that was bound keeps its old session in the backward map. -/
theorem hasId_of_bijective_bindFences (hd : d.Bijective)
    {b : (Nat × GeofenceOption) × Nat} (hb : b ∈ bound) (hnodup : (bound.map Prod.snd).Nodup)
    (hfresh : ∀ b ∈ bound, d.view.hasSession b.2 = false)
    (h : (bindFences d bound).Bijective) : d.hasId b.1.1 = false := by
  rw [hasId_eq]
  by_contra hbound
  rw [Bool.not_eq_false, BiDictView.hasId, Option.isSome_iff_exists] at hbound
  obtain ⟨old, hold⟩ := hbound
  have hback := hd.inStep.forward hold
  have hheld : d.view.hasSession old = true := by rw [BiDictView.hasSession, hback]; rfl
  have hstale : (bindFences d bound).view.mBackwardMap old = some b.1.1 := by
    rw [backward_bindFences, hback]
    intro b' hb' heq
    rw [← heq, hfresh b' hb'] at hheld
    cases hheld
  have hnew := h.inStep.backward (backward_bindFences_of_mem hnodup hb)
  have hsame : some old = some b.2 := (h.inStep.backward hstale).symm.trans hnew
  rw [Option.some.inj hsame, hfresh b hb] at hheld
  cases hheld

/-- New sessions keep the maps in step exactly if the ids are new too. -/
theorem bijective_bindFences_iff (hd : d.Bijective) (hnodup : (bound.map Prod.snd).Nodup)
    (hfresh : ∀ b ∈ bound, d.view.hasSession b.2 = false) :
    (bindFences d bound).Bijective ↔
      (bound.map (·.1.1)).Nodup ∧ ∀ b ∈ bound, d.hasId b.1.1 = false := by
  induction bound generalizing d with
  | nil => exact iff_of_true hd ⟨List.nodup_nil, fun _ h => by cases h⟩
  | cons b rest ih =>
    have hids : (bindFences d (b :: rest)).Bijective → d.hasId b.1.1 = false :=
      hasId_of_bijective_bindFences hd (.head _) hnodup hfresh
    obtain ⟨⟨id, option⟩, s⟩ := b
    obtain ⟨hs, hrest⟩ := List.nodup_cons.mp hnodup
    have hfreshRest : ∀ b ∈ rest, (d.set id s option.breachTypeMask).view.hasSession b.2 = false := by
      intro b hb
      by_contra hheld
      rw [Bool.not_eq_false, view_set, BiDictView.hasSession_set] at hheld
      rcases hheld with heq | hheld
      · exact hs (List.mem_map.mpr ⟨b, hb, heq⟩)
      · rw [hfresh b (.tail _ hb)] at hheld
        cases hheld
    have hkept : ∀ x, (d.set id s option.breachTypeMask).hasId x = false ↔
        x ≠ id ∧ d.hasId x = false := by
      intro x
      rw [hasId_eq, hasId_eq, view_set]
      by_cases hx : x = id <;> simp [BiDictView.hasId, BiDictView.set, hx]
    have hnext : d.hasId id = false → ((bindFences d (((id, option), s) :: rest)).Bijective ↔
        (rest.map (·.1.1)).Nodup ∧ ∀ b ∈ rest, b.1.1 ≠ id ∧ d.hasId b.1.1 = false) := by
      intro hid
      rw [bindFences, ih (hd.set hid (hfresh _ (.head _))) hrest hfreshRest]
      simp only [hkept]
    simp only [List.map_cons, List.nodup_cons, List.mem_map, List.forall_mem_cons]
    constructor
    · intro h
      obtain ⟨hdistinct, hall⟩ := (hnext (hids h)).mp h
      exact ⟨⟨fun hmem => hmem.elim fun b hb => (hall b hb.1).1 hb.2, hdistinct⟩, hids h,
        fun b hb => (hall b hb).2⟩
    · intro h
      obtain ⟨⟨hnot, hdistinct⟩, hid, hall⟩ := h
      exact (hnext hid).mpr ⟨hdistinct, fun b hb => ⟨fun heq => hnot ⟨b, hb, heq⟩, hall b hb⟩⟩

/-- The same ids are mapped to the same sessions; masks may differ. -/
structure SameKeys (d d' : GeofenceBiDict) : Prop where
  forward : ∀ id, d'.view.mForwardMap id = d.view.mForwardMap id
  backward : ∀ session, d'.view.mBackwardMap session = d.view.mBackwardMap session
  ext : ∀ session, (d'.view.mExtMap session).isSome = (d.view.mExtMap session).isSome

theorem SameKeys.refl (d : GeofenceBiDict) : SameKeys d d :=
  ⟨fun _ => rfl, fun _ => rfl, fun _ => rfl⟩

theorem SameKeys.trans {d d' d'' : GeofenceBiDict} (h : SameKeys d d') (h' : SameKeys d' d'') :
    SameKeys d d'' :=
  ⟨fun id => (h'.forward id).trans (h.forward id), fun s => (h'.backward s).trans (h.backward s),
    fun s => (h'.ext s).trans (h.ext s)⟩

theorem SameKeys.bijective {d d' : GeofenceBiDict} (h : SameKeys d d') (hd : d.Bijective) :
    d'.Bijective := by
  obtain ⟨hstep, hext⟩ := bijective_iff.mp hd
  refine bijective_iff.mpr ⟨⟨fun hm => ?_, fun hb => ?_⟩, fun s => ?_⟩
  · rw [h.backward]
    exact hstep.forward ((h.forward _).symm.trans hm)
  · rw [h.backward] at hb
    exact (h.forward _).trans (hstep.backward hb)
  · rw [h.ext, hext, BiDictView.hasSession, BiDictView.hasSession, h.backward]

theorem sameKeys_set (hd : d.Bijective) {id : Nat} (hm : d.view.Maps id session)
    (mask : GeofenceBreachTypeMask) : SameKeys d (d.set id session mask) := by
  have hback := hd.inStep.forward hm
  have hext : (d.view.mExtMap session).isSome = true := by
    rw [(bijective_iff.mp hd).2, BiDictView.hasSession, hback]
    rfl
  refine ⟨fun x => ?_, fun s => ?_, fun s => ?_⟩ <;> rw [view_set]
  · by_cases hx : x = id
    · simpa [BiDictView.set, hx] using hm.symm
    · simp [BiDictView.set, hx]
  · by_cases hs : s = session
    · simpa [BiDictView.set, hs] using hback.symm
    · simp [BiDictView.set, hs]
  · by_cases hs : s = session
    · simpa [BiDictView.set, hs] using hext
    · simp [BiDictView.set, hs]

theorem visitFences_spec (hd : d.Bijective) (ids : List (Nat × Option GeofenceBreachTypeMask)) :
    SameKeys d (visitFences d ids).2 ∧
      ∀ fence ∈ (visitFences d ids).1, d.view.Maps fence.id fence.session := by
  induction ids generalizing d with
  | nil => exact ⟨SameKeys.refl d, fun _ h => by cases h⟩
  | cons head rest ih =>
    obtain ⟨id, mask⟩ := head
    simp only [visitFences]
    split
    · rename_i hpos
      have hm := maps_of_getSession_pos hpos
      have hsame : SameKeys d (match mask with
          | some mask => d.set id (d.getSession id) mask
          | none => d) := by
        cases mask with
        | none => exact SameKeys.refl d
        | some mask => exact sameKeys_set hd hm mask
      obtain ⟨hrest, hfences⟩ := ih (hsame.bijective hd)
      refine ⟨hsame.trans hrest, fun fence hfence => ?_⟩
      rcases List.mem_cons.mp hfence with rfl | hfence
      · exact hm
      · exact (hsame.forward _).symm.trans (hfences fence hfence)
    · exact ih hd

/-- What `releaseFences` finds is no longer bound, and can be looked up in the copy. -/
structure Released (d removed : GeofenceBiDict) (fences : List Fence)
    (d' removed' : GeofenceBiDict) : Prop where
  bijective : d'.Bijective
  bound : ∀ fence ∈ fences, d.view.Maps fence.id fence.session
  gone : ∀ fence ∈ fences, d'.view.mBackwardMap fence.session = none
  kept : ∀ session, (∀ fence ∈ fences, fence.session ≠ session) →
    d'.view.mBackwardMap session = d.view.mBackwardMap session
  copied : ∀ fence ∈ fences, removed'.view.mBackwardMap fence.session = some fence.id
  others : ∀ session, (∀ fence ∈ fences, fence.session ≠ session) →
    removed'.view.mBackwardMap session = removed.view.mBackwardMap session

/-- A fence is found, and then the others in what it leaves. -/
theorem Released.cons {d' removed' : GeofenceBiDict} {id : Nat} {ext : GeofenceBreachTypeMask}
    {fences : List Fence} (hd : d.Bijective) (hm : d.view.Maps id session)
    (h : Released (d.rmBySession session) (removed.set id session ext) fences d' removed') :
    Released d removed (⟨id, session⟩ :: fences) d' removed' := by
  have hrm : (d.rmBySession session).view = d.view.rmById id := by
    rw [view_rmBySession, hd.inStep.rm_eq hm]
  have hnone : (d.rmBySession session).view.mBackwardMap session = none := by
    rw [view_rmBySession]
    exact Function.update_self ..
  have hapart : ∀ fence ∈ fences, fence.session ≠ session := by
    intro fence hfence heq
    have hback := (hd.rmBySession hm).inStep.forward (h.bound fence hfence)
    rw [heq, hnone] at hback
    cases hback
  refine ⟨h.bijective, ?_, ?_, fun s hs => ?_, ?_, fun s hs => ?_⟩
  · intro fence hfence
    rcases List.mem_cons.mp hfence with rfl | hfence
    · exact hm
    · have hmaps := h.bound fence hfence
      rw [hrm, BiDictView.maps_rmById] at hmaps
      exact hmaps.2
  · intro fence hfence
    rcases List.mem_cons.mp hfence with rfl | hfence
    · exact (h.kept session hapart).trans hnone
    · exact h.gone fence hfence
  · rw [List.forall_mem_cons] at hs
    refine (h.kept s hs.2).trans ?_
    rw [view_rmBySession]
    exact Function.update_of_ne (Ne.symm hs.1) ..
  · intro fence hfence
    rcases List.mem_cons.mp hfence with rfl | hfence
    · refine (h.others session hapart).trans ?_
      rw [view_set]
      exact Function.update_self ..
    · exact h.copied fence hfence
  · rw [List.forall_mem_cons] at hs
    refine (h.others s hs.2).trans ?_
    rw [view_set]
    exact Function.update_of_ne (Ne.symm hs.1) ..

theorem releaseFences_spec (hd : d.Bijective) (ids : List Nat) :
    Released d removed (releaseFences d removed ids).1 (releaseFences d removed ids).2.1
      (releaseFences d removed ids).2.2 := by
  induction ids generalizing d removed with
  | nil =>
    exact ⟨hd, fun _ h => (by cases h), fun _ h => (by cases h), fun _ _ => rfl,
      fun _ h => (by cases h), fun _ _ => rfl⟩
  | cons id ids ih =>
    rw [releaseFences]
    split
    · rename_i hpos
      have hm := maps_of_getSession_pos hpos
      exact Released.cons hd hm (ih (hd.rmBySession hm))
    · exact ih hd

end

/-! ## The dictionary along a run -/

section
variable {w : World} {c : GeofenceClient}
open GeofenceClient BiDict

/-- The maps stay in step and get no new session. -/
structure Shrinks (d d' : GeofenceBiDict) : Prop where
  bijective : d'.Bijective
  held : ∀ session, d'.view.hasSession session = true → d.view.hasSession session = true

theorem Shrinks.refl {d : GeofenceBiDict} (hd : d.Bijective) : Shrinks d d := ⟨hd, fun _ h => h⟩

theorem SameKeys.shrinks {d d' : GeofenceBiDict} (h : SameKeys d d') (hd : d.Bijective) :
    Shrinks d d' := by
  refine ⟨h.bijective hd, fun s hs => ?_⟩
  rwa [BiDictView.hasSession, h.backward] at hs

theorem Released.shrinks {d removed d' removed' : GeofenceBiDict} {fences : List Fence}
    (h : Released d removed fences d' removed') : Shrinks d d' := by
  refine ⟨h.bijective, fun s hs => ?_⟩
  by_cases hgone : ∀ fence ∈ fences, fence.session ≠ s
  · rwa [BiDictView.hasSession, h.kept s hgone] at hs
  · push Not at hgone
    obtain ⟨fence, hfence, heq⟩ := hgone
    rw [BiDictView.hasSession, ← heq, h.gone fence hfence] at hs
    cases hs

theorem shrinks_remove (hd : c.mGeofenceBiDict.Bijective) (ids : List Nat) (op : Nat) :
    Shrinks c.mGeofenceBiDict (c.locAPIRemoveGeofences ids op).1.mGeofenceBiDict := by
  unfold locAPIRemoveGeofences
  split
  · have hreleased := (@releaseFences_spec _ .empty hd ids).shrinks
    dsimp only
    split <;> exact hreleased
  · exact Shrinks.refl hd

theorem shrinks_visit (hd : c.mGeofenceBiDict.Bijective) (kind : GeofenceKind)
    (request : Nat → GeofenceRequest) (ids : List (Nat × Option GeofenceBreachTypeMask))
    (options : List GeofenceOption) (op : Nat) :
    Shrinks c.mGeofenceBiDict (c.visit kind request ids options op).1.mGeofenceBiDict := by
  unfold visit
  split
  · have hvisited := (visitFences_spec hd ids).1.shrinks hd
    dsimp only
    split <;> exact hvisited
  · exact Shrinks.refl hd

/-- Every session of the dictionary was given out by the adapter. -/
def Given (w : World) : Prop :=
  ∀ session, w.client.mGeofenceBiDict.view.hasSession session = true → session ∈ w.sessions

def Add : Event → Prop
  | .addGeofences _ _ => True
  | _ => False

theorem sessions_step {e : Event} (he : ¬ Add e) : (w.step e).sessions = w.sessions := by
  cases e with
  | addGeofences fences sessions => exact absurd trivial he
  | response errors =>
    simp only [World.step]
    split <;> rfl
  | callback =>
    simp only [World.step]
    split <;> rfl
  | _ => rfl

/-- Only an add brings new pairs. -/
theorem shrinks_step (hd : w.client.mGeofenceBiDict.Bijective) {e : Event} (he : ¬ Add e) :
    Shrinks w.client.mGeofenceBiDict (w.step e).client.mGeofenceBiDict := by
  cases e with
  | addGeofences fences sessions => exact absurd trivial he
  | removeGeofences ids => exact shrinks_remove hd ids w.ops
  | modifyGeofences fences => exact shrinks_visit hd _ _ _ _ w.ops
  | pauseGeofences ids => exact shrinks_visit hd _ _ _ _ w.ops
  | resumeGeofences ids mask => exact shrinks_visit hd _ _ _ _ w.ops
  | removeAllGeofences => exact shrinks_remove hd _ w.ops
  | response errors =>
    simp only [World.step, onCollectiveResponseCb]
    split
    · dsimp only
      split <;> exact Shrinks.refl hd
    · exact Shrinks.refl hd
  | callback =>
    simp only [World.step]
    split <;> exact Shrinks.refl hd

theorem Shrinks.given (hg : Given w) {e : Event} (he : ¬ Add e)
    (h : Shrinks w.client.mGeofenceBiDict (w.step e).client.mGeofenceBiDict) :
    Given (w.step e) := by
  intro s hs
  rw [sessions_step he]
  exact hg s (h.held s hs)

/-- The world after an add that goes through. -/
theorem add_spec (hapi : w.client.mLocationAPI = true) (fences : List (Nat × GeofenceOption))
    (sessions : List Nat) :
    (w.step (.addGeofences fences (some sessions))).client.mGeofenceBiDict =
      bindFences w.client.mGeofenceBiDict (fences.zip sessions) ∧
    (w.step (.addGeofences fences (some sessions))).sessions =
      (fences.zip sessions).map Prod.snd ++ w.sessions := by
  simp only [World.step, locAPIAddGeofences, hapi, if_true]
  constructor
  · split <;> rfl
  · simp only [Option.map_some, Option.getD_some, GeofenceCall.sessions, List.map_map]
    rfl

/-- An add that the adapter or the client turns down. -/
theorem add_refused {fences : List (Nat × GeofenceOption)} {sessions : Option (List Nat)}
    (h : w.client.mLocationAPI = false ∨ sessions = none) :
    (w.step (.addGeofences fences sessions)).client.mGeofenceBiDict = w.client.mGeofenceBiDict ∧
    (w.step (.addGeofences fences sessions)).sessions = w.sessions := by
  simp only [World.step, locAPIAddGeofences]
  split
  · rename_i hapi
    obtain rfl := h.resolve_left (by rw [hapi]; exact Bool.true_eq_false.mp)
    dsimp only
    constructor
    · split <;> rfl
    · rfl
  · exact ⟨rfl, rfl⟩

/-- The fences of an add with the sessions that they are given. -/
theorem zip_sessions {fences : List (Nat × GeofenceOption)} {sessions : List Nat}
    (hlen : sessions.length = fences.length) :
    (fences.zip sessions).map Prod.snd = sessions ∧
      (fences.zip sessions).map Prod.fst = fences :=
  ⟨List.map_snd_zip hlen.le, List.map_fst_zip hlen.ge⟩

theorem fresh_bound (hg : Given w) {fences : List (Nat × GeofenceOption)} {sessions : List Nat}
    (hfresh : FreshSessions w (.addGeofences fences (some sessions))) :
    ((fences.zip sessions).map Prod.snd).Nodup ∧
      ∀ b ∈ fences.zip sessions, w.client.mGeofenceBiDict.view.hasSession b.2 = false := by
  obtain ⟨hlen, hnodup, hnew⟩ := hfresh
  obtain ⟨hsnd, -⟩ := zip_sessions hlen
  refine ⟨hsnd.symm ▸ hnodup, fun b hb => ?_⟩
  have hmem : b.2 ∈ sessions := hsnd ▸ List.mem_map_of_mem hb
  by_contra hheld
  exact (hnew b.2 hmem).2 (hg b.2 (by simpa using hheld))

theorem newIds_iff {fences : List (Nat × GeofenceOption)} {sessions : List Nat}
    (hapi : w.client.mLocationAPI = true) (hlen : sessions.length = fences.length) :
    NewIds w (.addGeofences fences (some sessions)) ↔
      ((fences.zip sessions).map (·.1.1)).Nodup ∧
        ∀ b ∈ fences.zip sessions, w.client.mGeofenceBiDict.hasId b.1.1 = false := by
  obtain ⟨-, hfst⟩ := zip_sessions hlen
  have hids : (fences.zip sessions).map (·.1.1) = fences.map Prod.fst := by
    rw [← hfst, List.map_map, hfst]
    rfl
  rw [NewIds, hids]
  refine (forall_prop_of_true hapi).trans (and_congr_right fun _ => ?_)
  conv_lhs => rw [← hfst]
  rw [List.forall_mem_map]

/-- One step keeps the maps inverse exactly if an add that goes through is for new ids. -/
theorem bijective_step_iff (hd : w.client.mGeofenceBiDict.Bijective) (hg : Given w) {e : Event}
    (hfresh : FreshSessions w e) :
    (w.step e).client.mGeofenceBiDict.Bijective ↔ NewIds w e := by
  cases e with
  | addGeofences fences sessions =>
    cases sessions with
    | none =>
      rw [(add_refused (.inr rfl)).1]
      exact iff_of_true hd trivial
    | some sessions =>
      cases hapi : w.client.mLocationAPI with
      | false =>
        rw [(add_refused (.inl hapi)).1]
        exact iff_of_true hd fun h => absurd (hapi.symm.trans h) Bool.false_ne_true
      | true =>
        obtain ⟨hnodup, hnew⟩ := fresh_bound hg hfresh
        rw [(add_spec hapi fences sessions).1, bijective_bindFences_iff hd hnodup hnew,
          newIds_iff hapi hfresh.1]
  | _ =>
    refine iff_of_true (shrinks_step hd ?_).bijective trivial
    exact fun h => h

theorem given_step (hd : w.client.mGeofenceBiDict.Bijective) (hg : Given w) (e : Event) :
    Given (w.step e) := by
  by_cases he : Add e
  · cases e with
    | addGeofences fences sessions =>
      have hrefused : w.client.mLocationAPI = false ∨ sessions = none →
          Given (w.step (.addGeofences fences sessions)) := fun h => by
        obtain ⟨hdict, hsessions⟩ := @add_refused w fences sessions h
        rwa [Given, hdict, hsessions]
      cases sessions with
      | none => exact hrefused (.inr rfl)
      | some sessions =>
        cases hapi : w.client.mLocationAPI with
        | false => exact hrefused (.inl hapi)
        | true =>
          obtain ⟨hdict, hsessions⟩ := add_spec hapi fences sessions
          rw [Given, hdict, hsessions]
          intro s hs
          rw [List.mem_append]
          exact (hasSession_bindFences.mp hs).imp_right (hg s)
    | _ => exact he.elim
  · exact (shrinks_step hd he).given hg he

/-- **After every operation the dictionary is a bijection, in exactly the runs
in which every add that goes through is for distinct ids that are not bound.** -/
theorem bijective_iff_new_ids (api : Bool) (es : List Event)
    (hfresh : Steps World.step FreshSessions (.init api) es) :
    Steps World.step (fun w e => (w.step e).client.mGeofenceBiDict.Bijective) (.init api) es ↔
      Steps World.step NewIds (.init api) es :=
  steps_iff_guard (I := fun w => w.client.mGeofenceBiDict.Bijective ∧ Given w)
    (fun _ _ h ha => bijective_step_iff h.1 h.2 ha)
    (fun _ e h _ hq => ⟨hq, given_step h.1 h.2 e⟩)
    ⟨bijective_empty, fun s hs => by simp [World.init, BiDictView.empty, BiDictView.hasSession] at hs⟩
    hfresh

theorem bijective_remove_add :
    let es := [.addGeofences [(7, ⟨3, 0, 0⟩), (8, ⟨1, 0, 0⟩)] (some [10, 11]), .removeGeofences [7],
      .addGeofences [(7, ⟨2, 0, 0⟩)] (some [12]), .resumeGeofences [8, 7] (some [1, 2])]
    Steps World.step FreshSessions (.init true) es ∧
      (Steps World.step (fun w e => (w.step e).client.mGeofenceBiDict.Bijective) (.init true) es ↔
        Steps World.step NewIds (.init true) es) :=
  ⟨by decide, bijective_iff_new_ids true _ (by decide)⟩

/-- Adding an id again leaves the old session behind: it still has the id, which
has a new session. -/
theorem add_again_stale :
    let es := [.addGeofences [(7, ⟨3, 0, 0⟩)] (some [10]), .addGeofences [(7, ⟨3, 0, 0⟩)] (some [11])]
    Steps World.step FreshSessions (.init true) es ∧
      (run World.step (.init true) es).client.mGeofenceBiDict.mBackwardMap[10]? = some 7 ∧
      (run World.step (.init true) es).client.mGeofenceBiDict.mForwardMap[7]? = some 11 ∧
      ¬ (run World.step (.init true) es).client.mGeofenceBiDict.Bijective := by
  refine ⟨by decide, by decide, by decide, fun h => ?_⟩
  exact absurd ((h.inverse 7 10).mpr (by decide)) (by decide)

end

end DeviceHal.Location.Geofences
