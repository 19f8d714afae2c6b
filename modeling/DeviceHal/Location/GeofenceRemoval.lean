import DeviceHal.Location.Geofences

/-! # Removing all geofences

`locAPIRemoveAllGeofences` lists the sessions of the dictionary and hands the
list to `locAPIRemoveGeofences`, which takes it for ids. A session is then
removed if some other session, read as an id, happens to stand for it. -/
namespace DeviceHal.Location.Geofences
open DeviceHal.Lib.Run DeviceHal.Gnss.LocationTypes DeviceHal.Location.Requests
open GeofenceKind GeofenceRequest GeofenceClient BiDict

/-- Nothing is left in any of the three maps. -/
def GeofenceBiDict.isEmpty (d : GeofenceBiDict) : Bool :=
  d.mForwardMap.isEmpty && d.mBackwardMap.isEmpty && d.mExtMap.isEmpty

/-- The sessions that a removal asks for. -/
def asked (call : Option GeofenceCall) : List Nat := (call.map (·.sessions)).getD []

/-- The dictionary is emptied, and each of its sessions removed once. -/
def RemovesAll (c : GeofenceClient) (op : Nat) : Prop :=
  GeofenceBiDict.isEmpty (c.locAPIRemoveAllGeofences op).1.mGeofenceBiDict = true ∧
    (asked (c.locAPIRemoveAllGeofences op).2).Perm c.mGeofenceBiDict.getAllSessions

/-- Every session is that of an id which is the number of a session. -/
def SessionsNameThemselves (d : GeofenceBiDict) : Prop :=
  ∀ session ∈ d.getAllSessions, ∃ id ∈ d.getAllSessions, d.getSession id = session

instance (d : GeofenceBiDict) : Decidable (SessionsNameThemselves d) :=
  inferInstanceAs (Decidable (∀ _ ∈ _, _))

/-! ## Ids lead to sessions that lead back -/

/-- A session may be left without an id that leads to it, when the id is added again. -/
structure Linked (d : GeofenceBiDict) : Prop where
  forward : ∀ {id session}, d.view.Maps id session → d.view.mBackwardMap session = some id
  nonzero : ∀ {session}, d.view.hasSession session = true → session ≠ 0
  keys : ∀ session, (d.view.mExtMap session).isSome = d.view.hasSession session

section
variable {d : GeofenceBiDict} {id session : Nat} {ext : GeofenceBreachTypeMask}

theorem linked_empty : Linked .empty where
  forward h := by simp [BiDictView.Maps, BiDictView.empty] at h
  nonzero h := by simp [BiDictView.hasSession, BiDictView.empty] at h
  keys _ := by rw [view_empty]; rfl

theorem Linked.hasSession (h : Linked d) (hm : d.view.Maps id session) :
    d.view.hasSession session = true := by
  rw [BiDictView.hasSession, h.forward hm]
  rfl

theorem mem_getAllSessions : session ∈ d.getAllSessions ↔ d.view.hasSession session = true := by
  rw [getAllSessions, Std.TreeMap.mem_keys, Std.TreeMap.mem_iff_isSome_getElem?]
  rfl

theorem Linked.getSession_pos_iff (h : Linked d) :
    0 < d.getSession id ↔ d.view.Maps id (d.getSession id) := by
  refine ⟨maps_of_getSession_pos, fun hm => Nat.pos_of_ne_zero (h.nonzero (h.hasSession hm))⟩

theorem keys_set (h : ∀ s, (d.view.mExtMap s).isSome = d.view.hasSession s) (s : Nat) :
    ((d.set id session ext).view.mExtMap s).isSome =
      (d.set id session ext).view.hasSession s := by
  rw [view_set]
  by_cases hs : s = session
  · simp [BiDictView.set, BiDictView.hasSession, hs]
  · have hkeep := h s
    simpa [BiDictView.set, BiDictView.hasSession, hs] using hkeep

/-- A new session, whether the id had one before or not. -/
theorem Linked.set (h : Linked d) (hs : d.view.hasSession session = false) (h0 : session ≠ 0) :
    Linked (d.set id session ext) where
  forward := by
    intro x s hm
    rw [view_set, BiDictView.maps_set] at hm
    rw [view_set]
    rcases hm with ⟨rfl, rfl⟩ | ⟨-, hm⟩
    · exact Function.update_self ..
    · rw [← h.forward hm]
      refine Function.update_of_ne (fun heq => ?_) ..
      rw [← heq, h.hasSession hm] at hs
      cases hs
  nonzero := by
    intro s hheld
    rw [view_set, BiDictView.hasSession_set] at hheld
    exact hheld.elim (fun heq => heq ▸ h0) h.nonzero
  keys := keys_set h.keys

/-- Writing a pair once more changes nothing but what is known of the session. -/
theorem Linked.again (h : Linked d) (hm : d.view.Maps id session) :
    (d.set id session ext).view.mForwardMap = d.view.mForwardMap ∧
      (d.set id session ext).view.mBackwardMap = d.view.mBackwardMap := by
  rw [view_set]
  exact ⟨Function.update_eq_self_iff.mpr hm.symm,
    Function.update_eq_self_iff.mpr (h.forward hm).symm⟩

theorem Linked.set_again (h : Linked d) (hm : d.view.Maps id session) :
    Linked (d.set id session ext) where
  forward := by
    intro x s hx
    rw [BiDictView.Maps, (h.again hm).1] at hx
    rw [(h.again hm).2]
    exact h.forward hx
  nonzero := by
    intro s hs
    rw [BiDictView.hasSession, (h.again hm).2] at hs
    exact h.nonzero hs
  keys := keys_set h.keys

/-- What is left when a session that an id leads to is taken out. -/
theorem Linked.rm_spec (h : Linked d) (hm : d.view.Maps id session) :
    (d.rmBySession session).view = ⟨Function.update d.view.mForwardMap id none,
      Function.update d.view.mBackwardMap session none,
      Function.update d.view.mExtMap session none⟩ := by
  rw [view_rmBySession, BiDictView.rmBySession, h.forward hm]
  rfl

theorem Linked.rmBySession (h : Linked d) (hm : d.view.Maps id session) :
    Linked (d.rmBySession session) where
  forward := by
    intro x s hx
    rw [BiDictView.Maps, h.rm_spec hm] at hx
    rw [h.rm_spec hm]
    have hne : x ≠ id := fun heq => by simp [heq] at hx
    have hxs : d.view.mForwardMap x = some s := by simpa [hne] using hx
    have hback := h.forward hxs
    have hs : s ≠ session := by
      intro heq
      rw [heq, h.forward hm] at hback
      exact hne (Option.some.inj hback).symm
    simpa [hs] using hback
  nonzero := by
    intro s hs
    rw [BiDictView.hasSession, h.rm_spec hm] at hs
    by_cases heq : s = session
    · simp [heq] at hs
    · have hheld : d.view.hasSession s = true := by
        rw [BiDictView.hasSession]
        simpa [heq] using hs
      exact h.nonzero hheld
  keys := by
    intro s
    have hkeep := h.keys s
    rw [BiDictView.hasSession] at hkeep
    rw [BiDictView.hasSession, h.rm_spec hm]
    by_cases heq : s = session
    · simp [heq]
    · simpa [heq] using hkeep

theorem Linked.getSession_rm (h : Linked d) (hm : d.view.Maps id session) {x : Nat}
    (hx : x ≠ id) : (d.rmBySession session).getSession x = d.getSession x := by
  rw [getSession_eq, h.rm_spec hm, getSession_eq]
  simp [hx]

/-! ## The loops -/

/-- A loop that only takes pairs out, or writes the ones that are there. -/
structure Narrows (d d' : GeofenceBiDict) : Prop where
  linked : Linked d'
  held : ∀ session, d'.view.hasSession session = true → d.view.hasSession session = true

theorem Narrows.refl (h : Linked d) : Narrows d d := ⟨h, fun _ hs => hs⟩

theorem Narrows.trans {d' d'' : GeofenceBiDict} (h : Narrows d d') (h' : Narrows d' d'') :
    Narrows d d'' := ⟨h'.linked, fun s hs => h.held s (h'.held s hs)⟩

theorem Linked.narrows_set (h : Linked d) (hm : d.view.Maps id session)
    (ext : GeofenceBreachTypeMask) : Narrows d (d.set id session ext) := by
  refine ⟨h.set_again hm, fun s hs => ?_⟩
  rwa [BiDictView.hasSession, (h.again hm).2] at hs

theorem Linked.narrows_rm (h : Linked d) (hm : d.view.Maps id session) :
    Narrows d (d.rmBySession session) := by
  refine ⟨h.rmBySession hm, fun s hs => ?_⟩
  rw [BiDictView.hasSession, h.rm_spec hm] at hs
  rw [BiDictView.hasSession]
  by_cases heq : s = session
  · simp [heq] at hs
  · simpa [heq] using hs

theorem linked_bindFences {bound : List ((Nat × GeofenceOption) × Nat)} (h : Linked d)
    (hnodup : (bound.map Prod.snd).Nodup)
    (hfresh : ∀ b ∈ bound, b.2 ≠ 0 ∧ d.view.hasSession b.2 = false) :
    Linked (bindFences d bound) := by
  induction bound generalizing d with
  | nil => exact h
  | cons b rest ih =>
    obtain ⟨⟨id, option⟩, s⟩ := b
    obtain ⟨hs, hrest⟩ := List.nodup_cons.mp hnodup
    obtain ⟨hhead, hfresh⟩ := List.forall_mem_cons.mp hfresh
    rw [bindFences]
    refine ih (h.set hhead.2 hhead.1) hrest fun b hb => ⟨(hfresh b hb).1, ?_⟩
    by_contra hheld
    rw [Bool.not_eq_false, view_set, BiDictView.hasSession_set] at hheld
    rcases hheld with heq | hheld
    · exact hs (List.mem_map.mpr ⟨b, hb, heq⟩)
    · rw [(hfresh b hb).2] at hheld
      cases hheld

theorem narrows_visitFences (h : Linked d) (ids : List (Nat × Option GeofenceBreachTypeMask)) :
    Narrows d (visitFences d ids).2 := by
  induction ids generalizing d with
  | nil => exact Narrows.refl h
  | cons head rest ih =>
    obtain ⟨id, mask⟩ := head
    simp only [visitFences]
    split
    · rename_i hpos
      cases mask with
      | none => exact ih h
      | some mask =>
        have hset := h.narrows_set (maps_of_getSession_pos hpos) mask
        exact hset.trans (ih hset.linked)
    · exact ih h

theorem narrows_releaseFences (h : Linked d) (removed : GeofenceBiDict) (ids : List Nat) :
    Narrows d (releaseFences d removed ids).2.1 := by
  induction ids generalizing d removed with
  | nil => exact Narrows.refl h
  | cons id rest ih =>
    rw [releaseFences]
    split
    · rename_i hpos
      have hrm := h.narrows_rm (maps_of_getSession_pos hpos)
      exact hrm.trans (ih hrm.linked _)
    · exact ih h removed

/-- A removal of distinct ids finds those that have a session, -/
theorem releaseFences_fst (h : Linked d) (removed : GeofenceBiDict) {ids : List Nat} (hnodup : ids.Nodup) :
    (releaseFences d removed ids).1.map (·.session) =
      (ids.filter fun id => 0 < d.getSession id).map d.getSession := by
  induction ids generalizing d removed with
  | nil => rfl
  | cons id rest ih =>
    obtain ⟨hid, hrest⟩ := List.nodup_cons.mp hnodup
    rw [releaseFences]
    split
    · rename_i hpos
      have hm := maps_of_getSession_pos hpos
      have hsame : ∀ x ∈ rest, (d.rmBySession (d.getSession id)).getSession x = d.getSession x :=
        fun x hx => h.getSession_rm hm fun heq => hid (heq ▸ hx)
      rw [List.filter_cons_of_pos (by simpa using hpos), List.map_cons, List.map_cons,
        ih (h.rmBySession hm) _ hrest, List.filter_congr fun x hx => by rw [hsame x hx]]
      exact congrArg _ (List.map_congr_left fun x hx => hsame x (List.mem_filter.mp hx).1)
    · rename_i hneg
      rw [List.filter_cons_of_neg (by simpa using hneg), ih h _ hrest]

/-- and takes their sessions out. -/
theorem gone_releaseFences (h : Linked d) (removed : GeofenceBiDict) (ids : List Nat) :
    ∀ session ∈ (releaseFences d removed ids).1.map (·.session),
      (releaseFences d removed ids).2.1.view.hasSession session = false := by
  induction ids generalizing d removed with
  | nil => exact fun _ hs => (by cases hs)
  | cons id rest ih =>
    rw [releaseFences]
    split
    · rename_i hpos
      have hm := maps_of_getSession_pos hpos
      have hrm := h.rmBySession hm
      intro s hs
      rcases List.mem_cons.mp hs with rfl | hs
      · have hout : (d.rmBySession (d.getSession id)).view.hasSession (d.getSession id) = false := by
          rw [BiDictView.hasSession, h.rm_spec hm]
          simp
        by_contra hheld
        rw [(narrows_releaseFences hrm _ rest).held _ (by simpa using hheld)] at hout
        cases hout
      · exact ih hrm _ s hs
    · exact ih h removed

/-- With nothing in the backward map there is nothing at all. -/
theorem Linked.isEmpty_iff (h : Linked d) :
    GeofenceBiDict.isEmpty d = true ↔ ∀ session, d.view.hasSession session = false := by
  simp only [GeofenceBiDict.isEmpty, Bool.and_eq_true, Std.TreeMap.isEmpty_iff_forall_contains,
    Std.TreeMap.contains_eq_isSome_getElem?]
  constructor
  · intro hempty s
    exact hempty.1.2 s
  · intro hnone
    refine ⟨⟨fun id => ?_, hnone⟩, fun s => (h.keys s).trans (hnone s)⟩
    by_contra hbound
    rw [Bool.not_eq_false, Option.isSome_iff_exists] at hbound
    obtain ⟨s, hs⟩ := hbound
    have hheld : d.view.hasSession s = true := @Linked.hasSession d id s h hs
    rw [hnone s] at hheld
    cases hheld

end

/-! ## Reachable dictionaries -/

/-- What every reachable client has: where there is a session, an add went through. -/
structure Reached (w : World) : Prop where
  linked : Linked w.client.mGeofenceBiDict
  given : Given w
  ready : ∀ session, w.client.mGeofenceBiDict.view.hasSession session = true →
    w.client.mLocationAPI = true ∧ w.client.mRequestQueue.mSession = GEOFENCE_SESSION_ID

theorem reached_init (api : Bool) : Reached (.init api) where
  linked := linked_empty
  given := fun s hs => by simp [World.init, BiDictView.empty, BiDictView.hasSession] at hs
  ready := fun s hs => by simp [World.init, BiDictView.empty, BiDictView.hasSession] at hs

section
variable {w : World} {c : GeofenceClient}

/-- What an operation other than an add makes of the client. -/
structure Settled (c c' : GeofenceClient) : Prop where
  narrows : Narrows c.mGeofenceBiDict c'.mGeofenceBiDict
  api : c'.mLocationAPI = c.mLocationAPI
  session : c'.mRequestQueue.mSession = c.mRequestQueue.mSession

theorem settled_remove (h : Linked c.mGeofenceBiDict) (ids : List Nat) (op : Nat) :
    Settled c (c.locAPIRemoveGeofences ids op).1 := by
  unfold locAPIRemoveGeofences
  split
  · dsimp only
    split <;> exact ⟨narrows_releaseFences h .empty ids, rfl, rfl⟩
  · exact ⟨Narrows.refl h, rfl, rfl⟩

theorem settled_visit (h : Linked c.mGeofenceBiDict) (kind : GeofenceKind)
    (request : Nat → GeofenceRequest) (ids : List (Nat × Option GeofenceBreachTypeMask))
    (options : List GeofenceOption) (op : Nat) :
    Settled c (c.visit kind request ids options op).1 := by
  unfold visit
  split
  · dsimp only
    split <;> exact ⟨narrows_visitFences h ids, rfl, rfl⟩
  · exact ⟨Narrows.refl h, rfl, rfl⟩

theorem settled_step (h : Linked w.client.mGeofenceBiDict) {e : Event} (he : ¬ Add e) :
    Settled w.client (w.step e).client := by
  cases e with
  | addGeofences fences sessions => exact absurd trivial he
  | removeGeofences ids => exact settled_remove h ids w.ops
  | modifyGeofences fences => exact settled_visit h _ _ _ _ w.ops
  | pauseGeofences ids => exact settled_visit h _ _ _ _ w.ops
  | resumeGeofences ids mask => exact settled_visit h _ _ _ _ w.ops
  | removeAllGeofences => exact settled_remove h _ w.ops
  | response errors =>
    simp only [World.step, onCollectiveResponseCb]
    split
    · dsimp only
      split <;> exact ⟨Narrows.refl h, rfl, rfl⟩
    · exact ⟨Narrows.refl h, rfl, rfl⟩
  | callback =>
    simp only [World.step]
    split <;> exact ⟨Narrows.refl h, rfl, rfl⟩

theorem reached_settled {e : Event} (h : Reached w) (he : ¬ Add e) : Reached (w.step e) := by
  have hc := settled_step h.linked he
  refine ⟨hc.narrows.linked, fun s hs => ?_, fun s hs => ?_⟩
  · rw [sessions_step he]
    exact h.given s (hc.narrows.held s hs)
  · rw [hc.api, hc.session]
    exact h.ready s (hc.narrows.held s hs)

/-- An add leaves the queue open if it binds anything. -/
theorem session_add (hapi : w.client.mLocationAPI = true) (fences : List (Nat × GeofenceOption))
    (sessions : Option (List Nat)) :
    (w.step (.addGeofences fences sessions)).client.mLocationAPI = true ∧
    (w.step (.addGeofences fences sessions)).client.mRequestQueue.mSession =
      GEOFENCE_SESSION_ID := by
  by_cases hopen : w.client.mRequestQueue.getSession ≠ GEOFENCE_SESSION_ID
  · simp only [World.step, locAPIAddGeofences, if_pos hapi, if_pos hopen]
    cases sessions <;> exact ⟨hapi, rfl⟩
  · simp only [World.step, locAPIAddGeofences, if_pos hapi, if_neg hopen]
    cases sessions <;> exact ⟨hapi, not_not.mp hopen⟩

theorem reached_add {fences : List (Nat × GeofenceOption)} {sessions : Option (List Nat)}
    (h : Reached w) (hfresh : FreshSessions w (.addGeofences fences sessions)) :
    Reached (w.step (.addGeofences fences sessions)) := by
  cases hapi : w.client.mLocationAPI with
  | false =>
    have hstep : (w.step (.addGeofences fences sessions)).client = w.client := by
      simp only [World.step, locAPIAddGeofences, hapi, Bool.false_eq_true, if_false, World.hand]
    obtain ⟨-, hsessions⟩ := @add_refused w fences sessions (.inl hapi)
    refine ⟨?_, ?_, ?_⟩
    · rw [hstep]
      exact h.linked
    · rw [Given, hstep, hsessions]
      exact h.given
    · rw [hstep]
      exact h.ready
  | true =>
    have hopen := session_add hapi fences sessions
    cases sessions with
    | none =>
      obtain ⟨hdict, hsessions⟩ := @add_refused w fences none (.inr rfl)
      refine ⟨?_, ?_, fun _ _ => hopen⟩
      · rw [hdict]
        exact h.linked
      · rw [Given, hdict, hsessions]
        exact h.given
    | some sessions =>
      obtain ⟨hdict, hsessions⟩ := add_spec hapi fences sessions
      obtain ⟨hnodup, hnew⟩ := fresh_bound h.given hfresh
      refine ⟨?_, ?_, fun _ _ => hopen⟩
      · rw [hdict]
        refine linked_bindFences h.linked hnodup fun b hb => ⟨?_, hnew b hb⟩
        exact (hfresh.2.2 b.2 (List.of_mem_zip hb).2).1
      · rw [Given, hdict, hsessions]
        intro s hs
        rw [List.mem_append]
        exact (hasSession_bindFences.mp hs).imp_right (h.given s)

theorem reached_step {e : Event} (h : Reached w) (hfresh : FreshSessions w e) :
    Reached (w.step e) := by
  cases e with
  | addGeofences fences sessions => exact reached_add h hfresh
  | _ => exact reached_settled h fun he => he

/-! ## Removing all -/

theorem nodup_getAllSessions (d : GeofenceBiDict) : d.getAllSessions.Nodup :=
  Std.TreeMap.nodup_keys

/-- The ids that are numbers of sessions lead to different sessions of the dictionary. -/
theorem Linked.found_spec {d : GeofenceBiDict} (h : Linked d) :
    ((d.getAllSessions.filter fun id => 0 < d.getSession id).map d.getSession).Nodup ∧
      ((d.getAllSessions.filter fun id => 0 < d.getSession id).map d.getSession) ⊆
        d.getAllSessions := by
  have hmaps : ∀ id ∈ d.getAllSessions.filter fun id => 0 < d.getSession id,
      d.view.Maps id (d.getSession id) := fun id hid =>
    h.getSession_pos_iff.mp (by simpa using (List.mem_filter.mp hid).2)
  constructor
  · refine List.Nodup.map_on (fun id hid other hother heq => ?_) ((nodup_getAllSessions d).filter _)
    have hback := h.forward (hmaps id hid)
    rw [heq, h.forward (hmaps other hother)] at hback
    exact (Option.some.inj hback).symm
  · intro s hs
    obtain ⟨id, hid, rfl⟩ := List.mem_map.mp hs
    exact mem_getAllSessions.mpr (h.hasSession (hmaps id hid))

/-- What is asked for is all the sessions, if they name each other. -/
theorem Linked.perm_iff {d : GeofenceBiDict} (h : Linked d) :
    ((d.getAllSessions.filter fun id => 0 < d.getSession id).map d.getSession).Perm
      d.getAllSessions ↔ SessionsNameThemselves d := by
  obtain ⟨hnodup, hsub⟩ := h.found_spec
  rw [List.perm_ext_iff_of_nodup hnodup (nodup_getAllSessions d)]
  constructor
  · intro hall s hs
    obtain ⟨id, hid, heq⟩ := List.mem_map.mp ((hall s).mpr hs)
    exact ⟨id, (List.mem_filter.mp hid).1, heq⟩
  · intro hnames s
    refine ⟨fun hs => hsub hs, fun hs => ?_⟩
    obtain ⟨id, hid, rfl⟩ := hnames s hs
    have hpos := Nat.pos_of_ne_zero (h.nonzero (mem_getAllSessions.mp hs))
    exact List.mem_map.mpr ⟨id, List.mem_filter.mpr ⟨hid, by simpa using hpos⟩, rfl⟩

/-- A client that cannot remove has nothing to remove. -/
theorem removes_all_unready (op : Nat) (h : Linked c.mGeofenceBiDict)
    (hclosed : ¬ (c.mLocationAPI = true ∧ c.mRequestQueue.getSession = GEOFENCE_SESSION_ID))
    (hnone : ∀ session, c.mGeofenceBiDict.view.hasSession session = false) :
    RemovesAll c op ∧ SessionsNameThemselves c.mGeofenceBiDict := by
  have hall : c.mGeofenceBiDict.getAllSessions = [] := by
    rw [List.eq_nil_iff_forall_not_mem]
    intro s hs
    rw [mem_getAllSessions, hnone s] at hs
    cases hs
  refine ⟨⟨?_, ?_⟩, fun s hs => ?_⟩
  · simp only [locAPIRemoveAllGeofences, locAPIRemoveGeofences, if_neg hclosed]
    exact h.isEmpty_iff.mpr hnone
  · simp only [locAPIRemoveAllGeofences, locAPIRemoveGeofences, if_neg hclosed, hall]
    exact List.Perm.refl _
  · rw [hall] at hs
    cases hs

/-- What removing all does in a client that can remove. -/
theorem removeAll_spec (op : Nat)
    (hready : c.mLocationAPI = true ∧ c.mRequestQueue.getSession = GEOFENCE_SESSION_ID) :
    (c.locAPIRemoveAllGeofences op).1.mGeofenceBiDict =
      (releaseFences c.mGeofenceBiDict .empty c.mGeofenceBiDict.getAllSessions).2.1 ∧
    asked (c.locAPIRemoveAllGeofences op).2 =
      (releaseFences c.mGeofenceBiDict .empty c.mGeofenceBiDict.getAllSessions).1.map
        (·.session) := by
  simp only [locAPIRemoveAllGeofences, locAPIRemoveGeofences, if_pos hready]
  split
  · exact ⟨rfl, rfl⟩
  · rename_i hnone
    rw [List.eq_nil_of_length_eq_zero (Nat.eq_zero_of_not_pos hnone)]
    exact ⟨rfl, rfl⟩

theorem removes_all_step_iff (h : Reached w) (op : Nat) :
    RemovesAll w.client op ↔ SessionsNameThemselves w.client.mGeofenceBiDict := by
  by_cases hready : w.client.mLocationAPI = true ∧
      w.client.mRequestQueue.getSession = GEOFENCE_SESSION_ID
  · obtain ⟨hdict, hasked⟩ := removeAll_spec op hready
    have hfst := releaseFences_fst h.linked .empty
      (nodup_getAllSessions w.client.mGeofenceBiDict)
    rw [RemovesAll, hdict, hasked, ← h.linked.perm_iff, ← hfst]
    refine and_iff_right_of_imp fun hperm => ?_
    have hnarrows := narrows_releaseFences h.linked .empty
      w.client.mGeofenceBiDict.getAllSessions
    refine hnarrows.linked.isEmpty_iff.mpr fun s => ?_
    by_contra hheld
    rw [Bool.not_eq_false] at hheld
    have hs := hperm.mem_iff.mpr (mem_getAllSessions.mpr (hnarrows.held s hheld))
    rw [gone_releaseFences h.linked _ _ s hs] at hheld
    cases hheld
  · have hnone : ∀ session, w.client.mGeofenceBiDict.view.hasSession session = false := by
      intro s
      by_contra hheld
      exact hready (h.ready s (by simpa using hheld))
    obtain ⟨hremoves, hnames⟩ := removes_all_unready op h.linked hready hnone
    exact iff_of_true hremoves hnames

end

/-- **In every reachable state, removing all geofences empties the dictionary and
asks for each of its sessions once, exactly if each session is the session of an
id that is itself the number of a session.** -/
theorem removes_all_iff (api : Bool) (es : List Event)
    (hfresh : Steps World.step FreshSessions (.init api) es) (op : Nat) :
    RemovesAll (run World.step (.init api) es).client op ↔
      SessionsNameThemselves (run World.step (.init api) es).client.mGeofenceBiDict :=
  removes_all_step_iff (inv_run (fun _ _ h ha => reached_step h ha) (reached_init api) hfresh) op

theorem removes_all_swapped :
    let es := [.addGeofences [(11, ⟨3, 0, 0⟩), (10, ⟨1, 0, 0⟩)] (some [10, 11])]
    Steps World.step FreshSessions (.init true) es ∧
      (RemovesAll (run World.step (.init true) es).client 1 ↔
        SessionsNameThemselves (run World.step (.init true) es).client.mGeofenceBiDict) :=
  ⟨by decide, removes_all_iff true _ (by decide) 1⟩

/-- Fence 7 has session 10. There is no fence 10, so nothing is removed. -/
theorem remove_all_leaves_fence :
    let es := [.addGeofences [(7, ⟨3, 0, 0⟩)] (some [10])]
    Steps World.step FreshSessions (.init true) es ∧
      ((run World.step (.init true) es).client.locAPIRemoveAllGeofences 1).2 = none ∧
      ((run World.step (.init true) es).client.locAPIRemoveAllGeofences
        1).1.mGeofenceBiDict.mForwardMap[7]? = some 10 ∧
      ¬ RemovesAll (run World.step (.init true) es).client 1 := by
  refine ⟨by decide, by decide, by decide, fun h => ?_⟩
  exact absurd h.1 (by decide)

end DeviceHal.Location.Geofences
