import DeviceHal.Lib.Buffer
import DeviceHal.Location.Geofences

/-! # Geofence breaches

The adapter reports a breach with sessions; `beforeGeofenceBreachCb` passes on the
ids of those fences whose breach mask has the type. What the client has asked
for is kept as one table here, from the operations alone: for each id the
session that stands for it and the mask that was given last. The three maps of
the dictionary show this table after every run. -/
namespace DeviceHal.Location.Geofences.Breaches
open DeviceHal.Lib.Buffer DeviceHal.Lib.Run

/-! ## The callback -/

inductive GeofenceBreachType where
  | GEOFENCE_BREACH_ENTER
  | GEOFENCE_BREACH_EXIT
  | GEOFENCE_BREACH_DWELL_IN
  | GEOFENCE_BREACH_DWELL_OUT
  | GEOFENCE_BREACH_UNKNOWN
deriving DecidableEq
open GeofenceBreachType

def GEOFENCE_BREACH_ENTER_BIT : GeofenceBreachTypeMask := 1

def GEOFENCE_BREACH_EXIT_BIT : GeofenceBreachTypeMask := 2

structure GeofenceBreachNotification where
  ids : List Nat
  type : GeofenceBreachType
deriving DecidableEq

/-- The test of the loop. -/
def Accepts (type : GeofenceBreachType) (mask : GeofenceBreachTypeMask) : Prop :=
  (type = GEOFENCE_BREACH_ENTER ∧ mask &&& GEOFENCE_BREACH_ENTER_BIT ≠ 0) ∨
    (type = GEOFENCE_BREACH_EXIT ∧ mask &&& GEOFENCE_BREACH_EXIT_BIT ≠ 0)

instance (type : GeofenceBreachType) (mask : GeofenceBreachTypeMask) :
    Decidable (Accepts type mask) := inferInstanceAs (Decidable (_ ∨ _))

/-- The loop over the sessions, with the array `ids` and `count`. -/
def breachLoop (mGeofenceBiDict : GeofenceBiDict) (type : GeofenceBreachType) :
    List Nat → List Nat → Nat → Option (List Nat × Nat)
  | [], ids, count => some (ids, count)
  | session :: sessions, ids, count => do
    let id := mGeofenceBiDict.getId session
    let mask := mGeofenceBiDict.getExtBySession 0 session
    if Accepts type mask then
      let ids ← writeCell ids count id
      breachLoop mGeofenceBiDict type sessions ids (count + 1)
    else breachLoop mGeofenceBiDict type sessions ids count

/-- The notification that the client's callback is called with, if there is one. `ids` is what
`malloc` returns; a write outside of it is a fault. -/
def beforeGeofenceBreachCb (mGeofenceBiDict : GeofenceBiDict) (mGeofenceBreachCallback : Bool)
    (notification : GeofenceBreachNotification)
    (ids : Option { ids : List Nat // ids.length = notification.ids.length }) :
    Option (Option GeofenceBreachNotification) :=
  match ids with
  | none => some none
  | some ids =>
    if mGeofenceBreachCallback then do
      let (ids, count) ← breachLoop mGeofenceBiDict notification.type notification.ids ids 0
      some (some { notification with ids := ids.take count })
    else some none

/-! ## What the client has asked for -/

structure Watched where
  session : Nat
  mask : GeofenceBreachTypeMask

abbrev Fences := Nat → Option Watched

namespace Fences

def none : Fences := fun _ => .none

def bind (F : Fences) : List ((Nat × GeofenceOption) × Nat) → Fences
  | [] => F
  | ((id, option), session) :: rest =>
    bind (Function.update F id (some ⟨session, option.breachTypeMask⟩)) rest

def remask (F : Fences) : List (Nat × Option GeofenceBreachTypeMask) → Fences
  | [] => F
  | (_, .none) :: rest => remask F rest
  | (id, some mask) :: rest =>
    remask (Function.update F id ((F id).map fun f => { f with mask })) rest

def release (F : Fences) (ids : List Nat) : Fences := fun id => if id ∈ ids then .none else F id

open Classical in
/-- The fences whose ids are sessions of fences are released. -/
noncomputable def releaseAll (F : Fences) : Fences := fun id =>
  if ∃ other f, F other = some f ∧ f.session = id then .none else F id

/-- What the operations of the client make of the table. -/
noncomputable def step (F : Fences) : Event → Fences
  | .addGeofences fences (some sessions) => F.bind (fences.zip sessions)
  | .addGeofences _ .none => F
  | .removeGeofences ids => F.release ids
  | .modifyGeofences fences =>
    F.remask (fences.map fun fence => (fence.1, some fence.2.breachTypeMask))
  | .pauseGeofences _ => F
  | .resumeGeofences ids (some mask) => F.remask (ids.zip (mask.map some))
  | .resumeGeofences _ .none => F
  | .removeAllGeofences => F.releaseAll
  | .response _ => F
  | .callback => F

end Fences

/-! ## The dictionary shows the table -/

structure Shows (d : GeofenceBiDict) (F : Fences) : Prop where
  bijective : d.Bijective
  forward : ∀ id, d.view.mForwardMap id = (F id).map Watched.session
  ext : ∀ {id f}, F id = some f → d.view.mExtMap f.session = some f.mask
  positive : ∀ {id f}, F id = some f → 0 < f.session

section
variable {d : GeofenceBiDict} {F : Fences} {id session : Nat} {f : Watched}
open BiDict

theorem shows_none : Shows .empty Fences.none where
  bijective := bijective_empty
  forward _ := by simp [Fences.none, BiDictView.empty]
  ext h := by cases h
  positive h := by cases h

theorem Shows.maps_iff (h : Shows d F) :
    d.view.Maps id session ↔ ∃ mask, F id = some ⟨session, mask⟩ := by
  rw [BiDictView.Maps, h.forward, Option.map_eq_some_iff]
  constructor
  · rintro ⟨f, hf, rfl⟩
    exact ⟨f.mask, hf⟩
  · rintro ⟨mask, hf⟩
    exact ⟨_, hf, rfl⟩

theorem Shows.maps (h : Shows d F) (hf : F id = some f) : d.view.Maps id f.session :=
  h.maps_iff.mpr ⟨f.mask, hf⟩

theorem Shows.backward_iff (h : Shows d F) :
    d.view.mBackwardMap session = some id ↔ ∃ mask, F id = some ⟨session, mask⟩ := by
  rw [← h.maps_iff]
  exact ⟨h.bijective.inStep.backward, h.bijective.inStep.forward⟩

/-- Two fences have two sessions. -/
theorem Shows.injective (h : Shows d F) {id' : Nat} {f' : Watched} (hf : F id = some f)
    (hf' : F id' = some f') (hsession : f'.session = f.session) : id' = id := by
  have hback := h.bijective.inStep.forward (h.maps hf)
  have hback' := h.bijective.inStep.forward (h.maps hf')
  rw [hsession, hback] at hback'
  exact (Option.some.inj hback').symm

theorem Shows.getSession (h : Shows d F) :
    d.getSession id = ((F id).map Watched.session).getD 0 := by
  rw [getSession_eq, h.forward]

theorem Shows.getSession_pos (h : Shows d F) :
    d.getSession id > 0 ↔ ∃ f, F id = some f ∧ d.getSession id = f.session := by
  rw [h.getSession]
  cases hf : F id with
  | none => simp
  | some f => simpa using h.positive hf

theorem Shows.bindNew (h : Shows d F) (hid : F id = none) (hs : d.view.hasSession session = false)
    (hpos : 0 < session) (mask : GeofenceBreachTypeMask) :
    Shows (d.set id session mask) (Function.update F id (some ⟨session, mask⟩)) := by
  have hnot : d.hasId id = false := by
    rw [hasId_eq, BiDictView.hasId, h.forward, hid]
    rfl
  refine ⟨h.bijective.set hnot hs, fun x => ?_, fun {x f} hf => ?_, fun {x f} hf => ?_⟩
  · rw [view_set]
    by_cases hx : x = id
    · simp [BiDictView.set, hx]
    · simp [BiDictView.set, hx, h.forward]
  · rw [view_set]
    by_cases hx : x = id
    · rw [hx, Function.update_self] at hf
      obtain rfl := Option.some.inj hf
      simp [BiDictView.set]
    · rw [Function.update_of_ne hx] at hf
      have hheld : d.view.mBackwardMap f.session = some x := h.bijective.inStep.forward (h.maps hf)
      have hne : f.session ≠ session := by
        intro heq
        rw [BiDictView.hasSession, ← heq, hheld] at hs
        cases hs
      simp [BiDictView.set, hne, h.ext hf]
  · by_cases hx : x = id
    · rw [hx, Function.update_self] at hf
      exact Option.some.inj hf ▸ hpos
    · rw [Function.update_of_ne hx] at hf
      exact h.positive hf

theorem Shows.setMask (h : Shows d F) (hf : F id = some f) (mask : GeofenceBreachTypeMask) :
    Shows (d.set id f.session mask) (Function.update F id (some { f with mask })) := by
  have hsame := sameKeys_set h.bijective (h.maps hf) mask
  refine ⟨hsame.bijective h.bijective, fun x => ?_, fun {x g} hg => ?_, fun {x g} hg => ?_⟩
  · rw [hsame.forward, h.forward]
    by_cases hx : x = id
    · rw [hx, Function.update_self, hf]
      rfl
    · rw [Function.update_of_ne hx]
  · rw [view_set]
    by_cases hx : x = id
    · rw [hx, Function.update_self] at hg
      obtain rfl := Option.some.inj hg
      simp [BiDictView.set]
    · rw [Function.update_of_ne hx] at hg
      have hne : g.session ≠ f.session := fun heq => hx (h.injective hf hg heq)
      simp [BiDictView.set, hne, h.ext hg]
  · by_cases hx : x = id
    · rw [hx, Function.update_self] at hg
      obtain rfl := Option.some.inj hg
      exact h.positive (f := f) hf
    · rw [Function.update_of_ne hx] at hg
      exact h.positive hg

theorem Shows.rm (h : Shows d F) (hf : F id = some f) :
    Shows (d.rmBySession f.session) (Function.update F id none) := by
  have hm := h.maps hf
  refine ⟨h.bijective.rmBySession hm, fun x => ?_, fun {x g} hg => ?_, fun {x g} hg => ?_⟩
  · rw [view_rmBySession, h.bijective.inStep.rm_eq hm]
    by_cases hx : x = id
    · simp [BiDictView.rmById, hx]
    · simp [BiDictView.rmById, hx, h.forward]
  · have hx : x ≠ id := by
      intro hx
      rw [hx, Function.update_self] at hg
      cases hg
    rw [Function.update_of_ne hx] at hg
    have hne : g.session ≠ f.session := fun heq => hx (h.injective hf hg heq)
    rw [view_rmBySession]
    simp [BiDictView.rmBySession, hne, h.ext hg]
  · have hx : x ≠ id := by
      intro hx
      rw [hx, Function.update_self] at hg
      cases hg
    rw [Function.update_of_ne hx] at hg
    exact h.positive hg

/-! ## The loops of the operations -/

theorem Shows.bind {bound : List ((Nat × GeofenceOption) × Nat)} (h : Shows d F)
    (hids : (bound.map (·.1.1)).Nodup ∧ ∀ b ∈ bound, F b.1.1 = none)
    (hsessions : (bound.map Prod.snd).Nodup ∧ ∀ b ∈ bound, d.view.hasSession b.2 = false)
    (hpos : ∀ b ∈ bound, 0 < b.2) :
    Shows (GeofenceClient.bindFences d bound) (F.bind bound) := by
  induction bound generalizing d F with
  | nil => exact h
  | cons b rest ih =>
    obtain ⟨⟨id, option⟩, session⟩ := b
    simp only [List.map_cons, List.nodup_cons, List.forall_mem_cons] at hids hsessions hpos
    obtain ⟨⟨hid, hdistinct⟩, hfree, hrest⟩ := hids
    obtain ⟨⟨hs, hdistinct'⟩, hheld, hrest'⟩ := hsessions
    refine ih (h.bindNew hfree hheld hpos.1 option.breachTypeMask) ⟨hdistinct, fun b hb => ?_⟩
      ⟨hdistinct', fun b hb => ?_⟩ hpos.2
    · have hne : b.1.1 ≠ id := fun heq => hid (List.mem_map.mpr ⟨b, hb, heq⟩)
      rw [Function.update_of_ne hne]
      exact hrest b hb
    · have hne : b.2 ≠ session := fun heq => hs (List.mem_map.mpr ⟨b, hb, heq⟩)
      by_contra hagain
      rw [Bool.not_eq_false, view_set, BiDictView.hasSession_set] at hagain
      rcases hagain with heq | hagain
      · exact hne heq
      · rw [hrest' b hb] at hagain
        cases hagain

theorem Shows.visit (h : Shows d F) (ids : List (Nat × Option GeofenceBreachTypeMask)) :
    Shows (GeofenceClient.visitFences d ids).2 (F.remask ids) := by
  induction ids generalizing d F with
  | nil => exact h
  | cons head rest ih =>
    obtain ⟨id, mask⟩ := head
    simp only [GeofenceClient.visitFences]
    split
    · rename_i hpos
      obtain ⟨f, hf, hsession⟩ := h.getSession_pos.mp hpos
      cases mask with
      | none => exact ih h
      | some mask =>
        simp only [Fences.remask, hf, hsession]
        exact ih (h.setMask hf mask)
    · rename_i hzero
      have hf : F id = none := by
        by_contra hsome
        obtain ⟨f, hf⟩ := Option.ne_none_iff_exists'.mp hsome
        rw [h.getSession, hf] at hzero
        exact hzero (h.positive hf)
      cases mask with
      | none => exact ih h
      | some mask =>
        have hsame : Function.update F id ((F id).map fun f => { f with mask }) = F := by
          rw [hf, Option.map_none, ← hf, Function.update_eq_self]
        rw [Fences.remask, hsame]
        exact ih h

theorem release_cons (F : Fences) (id : Nat) (ids : List Nat) :
    F.release (id :: ids) = Fences.release (Function.update F id none) ids := by
  funext x
  by_cases hx : x = id
  · simp [Fences.release, hx]
  · simp [Fences.release, hx]

theorem Shows.release (h : Shows d F) (removed : GeofenceBiDict) (ids : List Nat) :
    Shows (GeofenceClient.releaseFences d removed ids).2.1 (F.release ids) := by
  induction ids generalizing d F removed with
  | nil =>
    have hsame : F.release [] = F := by
      funext x
      simp [Fences.release]
    rw [hsame]
    exact h
  | cons id ids ih =>
    rw [GeofenceClient.releaseFences, release_cons]
    split
    · rename_i hpos
      obtain ⟨f, hf, hsession⟩ := h.getSession_pos.mp hpos
      simp only [hsession]
      exact ih (h.rm hf) _
    · rename_i hzero
      have hf : F id = none := by
        by_contra hsome
        obtain ⟨f, hf⟩ := Option.ne_none_iff_exists'.mp hsome
        rw [h.getSession, hf] at hzero
        exact hzero (h.positive hf)
      rw [← hf, Function.update_eq_self]
      exact ih h removed

theorem Shows.releaseAll (h : Shows d F) : F.releaseAll = F.release d.getAllSessions := by
  have hmem : ∀ x, (∃ other f, F other = some f ∧ f.session = x) ↔ x ∈ d.getAllSessions := by
    intro x
    rw [getAllSessions, Std.TreeMap.mem_keys, Std.TreeMap.mem_iff_isSome_getElem?,
      Option.isSome_iff_exists]
    constructor
    · rintro ⟨other, f, hf, rfl⟩
      exact ⟨other, h.backward_iff.mpr ⟨f.mask, hf⟩⟩
    · rintro ⟨other, hother⟩
      obtain ⟨mask, hf⟩ := h.backward_iff.mp hother
      exact ⟨other, _, hf, rfl⟩
  funext id
  rw [Fences.releaseAll, Fences.release]
  by_cases hid : id ∈ d.getAllSessions
  · rw [if_pos ((hmem id).mpr hid), if_pos hid]
  · rw [if_neg (mt (hmem id).mp hid), if_neg hid]

end

/-! ## Runs -/

/-- The client's dictionary shows the table. The queue has its session from the first add on. -/
structure Watches (w : World) (F : Fences) : Prop where
  shows : Shows w.client.mGeofenceBiDict F
  api : w.client.mLocationAPI = true
  given : Given w
  session : w.client.mRequestQueue.getSession = GEOFENCE_SESSION_ID ∨ F = Fences.none

section
variable {w : World} {F : Fences} {c : GeofenceClient}
open GeofenceClient BiDict

theorem remask_none (ids : List (Nat × Option GeofenceBreachTypeMask)) :
    Fences.none.remask ids = Fences.none := by
  induction ids with
  | nil => rfl
  | cons head rest ih =>
    obtain ⟨id, mask⟩ := head
    cases mask with
    | none => exact ih
    | some mask =>
      have hsame : Function.update Fences.none id
          ((Fences.none id).map fun f => { f with mask }) = Fences.none :=
        Function.update_eq_self id Fences.none
      rw [Fences.remask, hsame]
      exact ih

theorem remask_keeps (F : Fences) (ids : List Nat) :
    F.remask (ids.map fun id => (id, none)) = F := by
  induction ids with
  | nil => rfl
  | cons id ids ih => exact ih

theorem release_none (ids : List Nat) : Fences.none.release ids = Fences.none := by
  funext id
  rw [Fences.release]
  split <;> rfl

theorem remove_shows (h : Shows c.mGeofenceBiDict F) (hapi : c.mLocationAPI = true)
    (hsession : c.mRequestQueue.getSession = GEOFENCE_SESSION_ID ∨ F = Fences.none)
    (ids : List Nat) (op : Nat) :
    let c' := (c.locAPIRemoveGeofences ids op).1
    Shows c'.mGeofenceBiDict (F.release ids) ∧ c'.mLocationAPI = true ∧
      c'.mRequestQueue.getSession = c.mRequestQueue.getSession := by
  intro c'
  by_cases hs : c.mRequestQueue.getSession = GEOFENCE_SESSION_ID
  · have hreleased := h.release .empty ids
    have hc' : c' = (c.locAPIRemoveGeofences ids op).1 := rfl
    rw [locAPIRemoveGeofences, if_pos ⟨hapi, hs⟩] at hc'
    dsimp only at hc'
    split at hc' <;> rw [hc'] <;> exact ⟨hreleased, hapi, rfl⟩
  · have hnone := hsession.resolve_left hs
    have hc' : c' = c := by
      show (c.locAPIRemoveGeofences ids op).1 = c
      rw [locAPIRemoveGeofences, if_neg fun h => hs h.2]
    rw [hc', hnone, release_none]
    exact ⟨hnone ▸ h, hapi, rfl⟩

theorem visit_shows (h : Shows c.mGeofenceBiDict F) (hapi : c.mLocationAPI = true)
    (hsession : c.mRequestQueue.getSession = GEOFENCE_SESSION_ID ∨ F = Fences.none)
    (kind : GeofenceKind) (request : Nat → GeofenceRequest)
    (ids : List (Nat × Option GeofenceBreachTypeMask)) (options : List GeofenceOption) (op : Nat) :
    let c' := (c.visit kind request ids options op).1
    Shows c'.mGeofenceBiDict (F.remask ids) ∧ c'.mLocationAPI = true ∧
      c'.mRequestQueue.getSession = c.mRequestQueue.getSession := by
  intro c'
  by_cases hs : c.mRequestQueue.getSession = GEOFENCE_SESSION_ID
  · have hvisited := h.visit ids
    have hc' : c' = (c.visit kind request ids options op).1 := rfl
    rw [GeofenceClient.visit, if_pos ⟨hapi, hs⟩] at hc'
    dsimp only at hc'
    split at hc' <;> rw [hc'] <;> exact ⟨hvisited, hapi, rfl⟩
  · have hnone := hsession.resolve_left hs
    have hc' : c' = c := by
      show (c.visit kind request ids options op).1 = c
      rw [GeofenceClient.visit, if_neg fun h => hs h.2]
    rw [hc', hnone, remask_none]
    exact ⟨hnone ▸ h, hapi, rfl⟩

/-- An operation that keeps the fences' number, or makes it smaller. -/
theorem Watches.operation (h : Watches w F) {e : Event} {F' : Fences}
    (hop : Shows (w.step e).client.mGeofenceBiDict F' ∧ (w.step e).client.mLocationAPI = true ∧
      (w.step e).client.mRequestQueue.getSession = w.client.mRequestQueue.getSession)
    (hnone : F = Fences.none → F' = Fences.none) : Watches (w.step e) F' :=
  ⟨hop.1, hop.2.1, given_step h.shows.bijective h.given e,
    hop.2.2 ▸ h.session.imp_right hnone⟩

theorem add_watches (h : Watches w F) {fences : List (Nat × GeofenceOption)}
    {sessions : List Nat} (hfresh : FreshSessions w (.addGeofences fences (some sessions)))
    (hnew : NewIds w (.addGeofences fences (some sessions))) :
    Watches (w.step (.addGeofences fences (some sessions))) (F.bind (fences.zip sessions)) := by
  obtain ⟨hdict, -⟩ := add_spec h.api fences sessions
  obtain ⟨hdistinct, hheld⟩ := fresh_bound h.given hfresh
  obtain ⟨hids, hfree⟩ := (newIds_iff h.api hfresh.1).mp hnew
  have hunbound : ∀ b ∈ fences.zip sessions, F b.1.1 = none := by
    intro b hb
    have hnot := hfree b hb
    rw [hasId_eq, BiDictView.hasId, h.shows.forward, Option.isSome_map] at hnot
    exact Option.isNone_iff_eq_none.mp (by simpa using hnot)
  have hpos : ∀ b ∈ fences.zip sessions, 0 < b.2 := by
    intro b hb
    exact Nat.pos_of_ne_zero (hfresh.2.2 b.2 (List.of_mem_zip hb).2).1
  refine ⟨?_, ?_, given_step h.shows.bijective h.given _, .inl ?_⟩
  · rw [hdict]
    exact h.shows.bind ⟨hids, hunbound⟩ ⟨hdistinct, hheld⟩ hpos
  · simp only [World.step, locAPIAddGeofences, h.api, if_true]
    split
    · rfl
    · exact h.api
  · simp only [World.step, locAPIAddGeofences, h.api, if_true]
    split
    · rfl
    · exact not_not.mp ‹_›

theorem watches_step (h : Watches w F) (e : Event) (hfresh : FreshSessions w e)
    (hnew : NewIds w e) : Watches (w.step e) (F.step e) := by
  cases e with
  | addGeofences fences sessions =>
    cases sessions with
    | some sessions => exact add_watches h hfresh hnew
    | none =>
      have hdict := (@add_refused w fences none (.inr rfl)).1
      refine ⟨hdict ▸ h.shows, ?_, given_step h.shows.bijective h.given _, .inl ?_⟩
      · simp only [World.step, locAPIAddGeofences, h.api, if_true]
        split
        · rfl
        · exact h.api
      · simp only [World.step, locAPIAddGeofences, h.api, if_true]
        split
        · rfl
        · exact not_not.mp ‹_›
  | removeGeofences ids =>
    refine h.operation (remove_shows h.shows h.api h.session ids w.ops) fun hnone => ?_
    rw [hnone, Fences.step, release_none]
  | removeAllGeofences =>
    have hall := h.shows.releaseAll
    rw [Fences.step, hall]
    refine h.operation (remove_shows h.shows h.api h.session _ w.ops) fun hnone => ?_
    rw [hnone, release_none]
  | modifyGeofences fences =>
    refine h.operation (visit_shows h.shows h.api h.session _ _ _ _ w.ops) fun hnone => ?_
    rw [hnone, Fences.step, remask_none]
  | pauseGeofences ids =>
    have hop := visit_shows h.shows h.api h.session .pauseGeofences .PauseGeofencesRequest
      (ids.map fun id => (id, none)) [] w.ops
    rw [remask_keeps] at hop
    exact h.operation hop fun hnone => hnone
  | resumeGeofences ids mask =>
    cases mask with
    | some mask =>
      refine h.operation (visit_shows h.shows h.api h.session _ _ _ _ w.ops) fun hnone => ?_
      rw [hnone, Fences.step, remask_none]
    | none =>
      have hop := visit_shows h.shows h.api h.session .resumeGeofences .ResumeGeofencesRequest
        (ids.map fun id => (id, none)) [] w.ops
      rw [remask_keeps] at hop
      exact h.operation hop fun hnone => hnone
  | response errors =>
    refine h.operation ?_ (id : F = Fences.none → F = Fences.none)
    simp only [World.step, onCollectiveResponseCb]
    split
    · dsimp only
      split <;> exact ⟨h.shows, h.api, rfl⟩
    · exact ⟨h.shows, h.api, rfl⟩
  | callback =>
    refine h.operation ?_ (id : F = Fences.none → F = Fences.none)
    simp only [World.step]
    split <;> exact ⟨h.shows, h.api, rfl⟩

theorem watches_run {es : List Event} (h : Watches w F)
    (hfresh : Steps World.step FreshSessions w es) (hnew : Steps World.step NewIds w es) :
    Watches (run World.step w es) (run Fences.step F es) := by
  induction es generalizing w F with
  | nil => exact h
  | cons e es ih =>
    exact ih (watches_step h e hfresh.1 hnew.1) hfresh.2 hnew.2

theorem watches_init : Watches (.init true) Fences.none :=
  ⟨shows_none, rfl, fun s hs => by simp [World.init, BiDictView.empty, BiDictView.hasSession] at hs,
    .inr rfl⟩

end

/-! ## What a breach comes to -/

section
variable {d : GeofenceBiDict} {F : Fences}
open BiDict

/-- The loop writes the ids of the sessions whose mask has the type. -/
theorem breachLoop_eq (d : GeofenceBiDict) (type : GeofenceBreachType) (sessions ids : List Nat)
    (count : Nat) : breachLoop d type sessions ids count =
      writeCells ids count ((sessions.filter fun session =>
        Accepts type (d.getExtBySession 0 session)).map d.getId) := by
  induction sessions generalizing ids count with
  | nil => rfl
  | cons session sessions ih =>
    rw [breachLoop, List.filter_cons]
    by_cases ha : Accepts type (d.getExtBySession 0 session)
    · simp only [if_pos ha, decide_eq_true ha, if_true, List.map_cons, writeCells]
      exact congrArg _ (funext fun ids => ih ids (count + 1))
    · simp only [if_neg ha, decide_eq_false ha, Bool.false_eq_true, if_false]
      exact ih ids count

theorem not_accepts_zero (type : GeofenceBreachType) : ¬ Accepts type 0 := by
  cases type <;> decide

/-- A session's mask and id are those of its fence; a session without a fence has an empty mask. -/
theorem Shows.accepts_iff (h : Shows d F) (type : GeofenceBreachType) (session id : Nat) :
    (Accepts type (d.getExtBySession 0 session) ∧ d.getId session = id) ↔
      ∃ mask, F id = some ⟨session, mask⟩ ∧ Accepts type mask := by
  have hext : d.getExtBySession 0 session = (d.view.mExtMap session).getD 0 :=
    Std.TreeMap.getD_eq_getD_getElem?
  constructor
  · rintro ⟨haccepts, rfl⟩
    have hheld : (d.view.mExtMap session).isSome = true := by
      by_contra hnot
      rw [Bool.not_eq_true, Option.isSome_eq_false_iff, Option.isNone_iff_eq_none] at hnot
      rw [hext, hnot] at haccepts
      exact not_accepts_zero type haccepts
    rw [(bijective_iff.mp h.bijective).2, BiDictView.hasSession, Option.isSome_iff_exists] at hheld
    obtain ⟨id, hback⟩ := hheld
    obtain ⟨mask, hf⟩ := h.backward_iff.mp hback
    rw [hext, h.ext hf] at haccepts
    refine ⟨mask, ?_, haccepts⟩
    rw [getId_eq, hback]
    exact hf
  · rintro ⟨mask, hf, haccepts⟩
    refine ⟨?_, ?_⟩
    · rw [hext, h.ext hf]
      exact haccepts
    · rw [getId_eq, h.bijective.inStep.forward (h.maps hf)]
      rfl

end

/-- **A breach is passed on for the fences that the client watches.** After any operations and
answers, a breach of any sessions, known or not and repeated or not, reaches the client's callback
once, with the ids of just those sessions whose fence was last given a mask that has the type, in
their order. The ids are written inside of their array. -/
theorem breach_reaches_watched (es : List Event)
    (hfresh : Steps World.step FreshSessions (.init true) es)
    (hnew : Steps World.step NewIds (.init true) es) (notification : GeofenceBreachNotification) :
    ∃ watched : Nat → Option Nat,
      (∀ session id, watched session = some id ↔ ∃ mask,
        run Fences.step Fences.none es id = some ⟨session, mask⟩ ∧
          Accepts notification.type mask) ∧
      ∀ ids, beforeGeofenceBreachCb (run World.step (.init true) es).client.mGeofenceBiDict true
        notification (some ids) =
          some (some { notification with ids := notification.ids.filterMap watched }) := by
  have hshows := (watches_run watches_init hfresh hnew).shows
  generalize (run World.step (.init true) es).client.mGeofenceBiDict = d at hshows ⊢
  refine ⟨fun session => if Accepts notification.type (d.getExtBySession 0 session) then
    some (d.getId session) else none, fun session id => ?_, fun ids => ?_⟩
  · rw [← hshows.accepts_iff, Option.ite_none_right_eq_some, Option.some_inj]
  · have hfilter : (notification.ids.filter fun session =>
          Accepts notification.type (d.getExtBySession 0 session)).map d.getId =
        notification.ids.filterMap fun session =>
          if Accepts notification.type (d.getExtBySession 0 session) then some (d.getId session)
          else none := by
      induction notification.ids with
      | nil => rfl
      | cons session sessions ih =>
        by_cases ha : Accepts notification.type (d.getExtBySession 0 session) <;>
          simp [ha, ih]
    have hroom : ((notification.ids.filter fun session =>
        Accepts notification.type (d.getExtBySession 0 session)).map d.getId).length ≤
          ids.1.length := by
      rw [List.length_map, ids.2]
      exact List.length_filter_le _ _
    rw [beforeGeofenceBreachCb, if_pos rfl, breachLoop_eq, writeCells_eq (by omega), hfilter]
    simp


/-- Fence 7 is removed and added again with another mask. A breach of its old session is not passed
on, and one of its new session is. -/
def addAgain : List Event :=
  [.addGeofences [(7, ⟨3, 0, 0⟩), (8, ⟨1, 0, 0⟩)] (some [10, 11]), .removeGeofences [7],
    .addGeofences [(7, ⟨1, 0, 0⟩)] (some [12]), .resumeGeofences [8, 7] (some [1, 2])]

theorem breach_reaches_watched_again :
    let d := (run World.step (.init true) addAgain).client.mGeofenceBiDict
    beforeGeofenceBreachCb d true ⟨[10, 12, 11, 12], GEOFENCE_BREACH_EXIT⟩
        (some ⟨[0, 0, 0, 0], rfl⟩) = some (some ⟨[7, 7], GEOFENCE_BREACH_EXIT⟩) ∧
      ∃ watched : Nat → Option Nat, ∀ ids,
        beforeGeofenceBreachCb d true ⟨[10, 12, 11, 12], GEOFENCE_BREACH_EXIT⟩ (some ids) =
          some (some ⟨[10, 12, 11, 12].filterMap watched, GEOFENCE_BREACH_EXIT⟩) :=
  ⟨by decide, (breach_reaches_watched addAgain (by decide) (by decide)
    ⟨[10, 12, 11, 12], GEOFENCE_BREACH_EXIT⟩).imp fun _ h => h.2⟩

end DeviceHal.Location.Geofences.Breaches
