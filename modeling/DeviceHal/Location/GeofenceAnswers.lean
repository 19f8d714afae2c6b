import DeviceHal.Location.Geofences

/-! # Geofence answers and the ids they name

A removal keeps a copy of the pairs that it takes out of the dictionary; the
other requests look their sessions up when the answer arrives. A removal that
is sent in between has then taken the sessions away, and they read as id 0. -/
namespace DeviceHal.Location.Geofences
open DeviceHal.Lib.Run DeviceHal.Gnss.LocationTypes DeviceHal.Location.Requests
open GeofenceKind GeofenceRequest GeofenceClient BiDict

/-- The answers so far each had their own callback, with the ids of the operation. -/
def Named (w : World) : Prop := w.callbacks = w.answered

/-- The later call removes a fence of the earlier one. -/
def GeofenceCall.takes (later earlier : GeofenceCall) : Prop :=
  later.kind = removeGeofences ∧
    ∃ fence ∈ earlier.fences, fence.id ≠ 0 ∧ fence ∈ later.fences

instance (later earlier : GeofenceCall) : Decidable (later.takes earlier) :=
  inferInstanceAs (Decidable (_ ∧ _))

/-- When the answer of a call is passed on, no removal that waits takes one of
the call's fences, unless the call is a removal too. -/
def NotOvertaken (w : World) : Event → Prop
  | .callback => ∀ answer ∈ w.answer, answer.call.kind ≠ removeGeofences →
    ∀ later ∈ w.pending, ¬ later.takes answer.call
  | _ => True

instance NotOvertaken.decidable (w : World) (e : Event) : Decidable (NotOvertaken w e) := by
  unfold NotOvertaken
  split <;> infer_instance

/-! ## Requests and dictionary entries of the calls -/

/-- The request is that of the call, and a removal has the call's ids in its copy. -/
def RequestFor : GeofenceRequest → GeofenceCall → Prop
  | AddGeofencesRequest op, call => call.kind = addGeofences ∧ call.op = op
  | RemoveGeofencesRequest op copy, call => call.kind = removeGeofences ∧ call.op = op ∧
    ∃ d ∈ copy, ∀ fence ∈ call.fences, d.getId fence.session = fence.id
  | ModifyGeofencesRequest op, call => call.kind = modifyGeofences ∧ call.op = op
  | PauseGeofencesRequest op, call => call.kind = pauseGeofences ∧ call.op = op
  | ResumeGeofencesRequest op, call => call.kind = resumeGeofences ∧ call.op = op

/-- One of the calls removes the fence. -/
def Taken (fence : Fence) (calls : List GeofenceCall) : Prop :=
  ∃ call ∈ calls, call.kind = removeGeofences ∧ fence ∈ call.fences

/-- The fence's session is bound as it was, or one of the later calls took it. -/
def Tracks (d : GeofenceBiDict) (fence : Fence) (after : List GeofenceCall) : Prop :=
  d.view.mBackwardMap fence.session = some fence.id ∧ ¬ Taken fence after ∨
    d.view.mBackwardMap fence.session = none ∧ Taken fence after

/-- The calls whose callbacks have not come yet. -/
def World.calls (w : World) : List GeofenceCall := (w.answer.map (·.call)).toList ++ w.pending

structure Good (w : World) : Prop where
  bijective : w.client.mGeofenceBiDict.Bijective
  given : Given w
  queue : List.Forall₂ RequestFor w.client.mRequestQueue.mQueue w.pending
  started : w.pending ≠ [] → w.client.mRequestQueue.mSession = GEOFENCE_SESSION_ID
  answer : ∀ answer ∈ w.answer, ∃ request ∈ answer.request, RequestFor request answer.call
  sessions : ∀ call ∈ w.calls, ∀ fence ∈ call.fences, fence.session ∈ w.sessions
  tracks : ∀ before call after, w.calls = before ++ call :: after →
    call.kind ≠ removeGeofences → ∀ fence ∈ call.fences,
      Tracks w.client.mGeofenceBiDict fence after

theorem good_init (api : Bool) : Good (.init api) where
  bijective := bijective_empty
  given := fun s hs => by simp [World.init, BiDictView.empty, BiDictView.hasSession] at hs
  queue := .nil
  started := fun h => absurd rfl h
  answer := fun _ h => by cases h
  sessions := fun _ h => by cases h
  tracks := fun before call after h => by simp [World.calls, World.init] at h

section
variable {w w' : World} {d d' : GeofenceBiDict} {fence : Fence} {last : GeofenceCall}
variable {after : List GeofenceCall}

theorem taken_concat : Taken fence (after ++ [last]) ↔
    Taken fence after ∨ last.kind = removeGeofences ∧ fence ∈ last.fences := by
  simp only [Taken, List.mem_append, List.mem_singleton, or_and_right, exists_or, exists_eq_left]

/-- Another call leaves a fence that is not in it as it was. -/
theorem Tracks.concat (h : Tracks d fence after)
    (hback : d'.view.mBackwardMap fence.session = d.view.mBackwardMap fence.session)
    (hlast : last.kind = removeGeofences → fence ∉ last.fences) :
    Tracks d' fence (after ++ [last]) := by
  have hsame : Taken fence (after ++ [last]) ↔ Taken fence after := by
    rw [taken_concat]
    exact or_iff_left fun hl => hlast hl.1 hl.2
  rw [Tracks, hback, hsame]
  exact h

/-- What the client hands on leaves the calls before it in order. -/
theorem good_hand {request : GeofenceRequest} (h : Good w)
    (hp : w'.pending = w.pending ++ [last]) (ha : w'.answer = w.answer)
    (hq : w'.client.mRequestQueue =
      ⟨GEOFENCE_SESSION_ID, w.client.mRequestQueue.mQueue ++ [request]⟩)
    (hr : RequestFor request last) (hd : w'.client.mGeofenceBiDict.Bijective) (hg : Given w')
    (hsessions : ∀ session ∈ w.sessions, session ∈ w'.sessions)
    (hlast : ∀ fence ∈ last.fences, fence.session ∈ w'.sessions)
    (hnew : last.kind ≠ removeGeofences → ∀ fence ∈ last.fences,
      w'.client.mGeofenceBiDict.view.mBackwardMap fence.session = some fence.id)
    (hold : ∀ fence after, fence.session ∈ w.sessions → Tracks w.client.mGeofenceBiDict fence after →
      Tracks w'.client.mGeofenceBiDict fence (after ++ [last])) : Good w' where
  bijective := hd
  given := hg
  queue := by
    rw [hp, hq]
    exact List.rel_append h.queue (.cons hr .nil)
  started := fun _ => by rw [hq]
  answer := ha ▸ h.answer
  sessions := fun call hcall fence hfence => by
    rw [World.calls, ha, hp, ← List.append_assoc, List.mem_append, List.mem_singleton] at hcall
    rcases hcall with hcall | rfl
    · exact hsessions _ (h.sessions call hcall fence hfence)
    · exact hlast fence hfence
  tracks := fun before call after hsplit hkind fence hfence => by
    rw [World.calls, ha, hp, ← List.append_assoc] at hsplit
    rcases split_concat hsplit with ⟨rfl, rfl⟩ | ⟨after', rfl, hcalls⟩
    · refine .inl ⟨hnew hkind fence hfence, fun htaken => ?_⟩
      obtain ⟨_, hmem, _⟩ := htaken
      cases hmem
    · have hcall : call ∈ w.calls := by
        rw [World.calls, hcalls]
        exact List.mem_append_right _ List.mem_cons_self
      exact hold fence after' (h.sessions call hcall fence hfence)
        (h.tracks before call after' hcalls hkind fence hfence)

/-- An operation that hands nothing on leaves everything as it was, masks apart. -/
theorem good_same (h : Good w) (hp : w'.pending = w.pending) (ha : w'.answer = w.answer)
    (hsessions : w'.sessions = w.sessions)
    (hq : w'.client.mRequestQueue.mQueue = w.client.mRequestQueue.mQueue)
    (hs : w'.client.mRequestQueue.mSession = w.client.mRequestQueue.mSession ∨
      w'.client.mRequestQueue.mSession = GEOFENCE_SESSION_ID)
    (hd : w'.client.mGeofenceBiDict.Bijective)
    (hback : ∀ session, w'.client.mGeofenceBiDict.view.mBackwardMap session =
      w.client.mGeofenceBiDict.view.mBackwardMap session) : Good w' where
  bijective := hd
  given := fun s hheld => by
    rw [BiDictView.hasSession, hback] at hheld
    exact hsessions ▸ h.given s hheld
  queue := by
    rw [hp, hq]
    exact h.queue
  started := fun hne => by
    rw [hp] at hne
    exact hs.elim (fun heq => heq.trans (h.started hne)) id
  answer := ha ▸ h.answer
  sessions := by
    rw [World.calls, ha, hp, hsessions]
    exact h.sessions
  tracks := fun before call after hsplit hkind fence hfence => by
    rw [Tracks, hback]
    rw [World.calls, ha, hp] at hsplit
    exact h.tracks before call after hsplit hkind fence hfence

/-! ## Operations -/

theorem good_visit (h : Good w) {kind : GeofenceKind} {request : Nat → GeofenceRequest}
    {options : List GeofenceOption} (hkind : kind ≠ removeGeofences)
    (hr : ∀ op fences, RequestFor (request op) ⟨kind, op, fences, options⟩)
    (ids : List (Nat × Option GeofenceBreachTypeMask)) :
    Good (w.hand (w.client.visit kind request ids options w.ops).1
      (w.client.visit kind request ids options w.ops).2) := by
  obtain ⟨hsame, hfound⟩ := visitFences_spec h.bijective ids
  unfold visit
  split
  · rename_i hready
    dsimp only
    split
    · refine good_hand h rfl rfl ?_ (hr w.ops _) (hsame.bijective h.bijective) ?_ (fun _ hs => hs)
        (fun fence hfence => ?_) (fun _ fence hfence => ?_) fun fence after _ htracks => ?_
      · exact congrArg (Requests.RequestQueue.mk · _) hready.2
      · exact fun s hs => h.given s ((hsame.shrinks h.bijective).held s hs)
      · exact h.given _ (h.bijective.inStep.hasSession_iff.mpr ⟨fence.id, hfound fence hfence⟩)
      · exact (hsame.backward _).trans (h.bijective.inStep.forward (hfound fence hfence))
      · exact htracks.concat (hsame.backward _) fun heq => absurd heq hkind
    · exact good_same h (List.append_nil _) rfl rfl rfl (.inl rfl) (hsame.bijective h.bijective)
        hsame.backward
  · exact good_same h (List.append_nil _) rfl rfl rfl (.inl rfl) h.bijective fun _ => rfl

/-- A removal takes its fences out of the dictionary, and so from the calls before it. -/
theorem Released.tracks {removed removed' : GeofenceBiDict}
    (h : Released d removed last.fences d' removed') (hd : d.Bijective)
    (hlast : last.kind = removeGeofences) (ht : Tracks d fence after) :
    Tracks d' fence (after ++ [last]) := by
  by_cases hmem : ∃ other ∈ last.fences, other.session = fence.session
  · obtain ⟨other, hother, heq⟩ := hmem
    have hback := hd.inStep.forward (h.bound other hother)
    rw [heq] at hback
    rcases ht with ⟨hbound, -⟩ | ⟨hnone, -⟩
    · have hid : other.id = fence.id := Option.some.inj (hback.symm.trans hbound)
      have hfence : other = fence := by rw [Fence.mk.injEq]; exact ⟨hid, heq⟩
      rw [hfence] at hother
      exact .inr ⟨h.gone fence hother, taken_concat.mpr (.inr ⟨hlast, hother⟩)⟩
    · rw [hnone] at hback
      cases hback
  · have hapart : ∀ other ∈ last.fences, other.session ≠ fence.session :=
      fun other hother heq => hmem ⟨other, hother, heq⟩
    exact ht.concat (h.kept _ hapart) fun _ hfence => hapart fence hfence rfl

theorem good_remove (h : Good w) (ids : List Nat) :
    Good (w.hand (w.client.locAPIRemoveGeofences ids w.ops).1
      (w.client.locAPIRemoveGeofences ids w.ops).2) := by
  have hreleased := @releaseFences_spec _ .empty h.bijective ids
  unfold locAPIRemoveGeofences
  split
  · rename_i hready
    dsimp only
    split
    · have hcopy : RequestFor (RemoveGeofencesRequest w.ops
          (some (releaseFences w.client.mGeofenceBiDict .empty ids).2.2))
          ⟨removeGeofences, w.ops, (releaseFences w.client.mGeofenceBiDict .empty ids).1, []⟩ := by
        refine ⟨rfl, rfl, _, rfl, fun fence hfence => ?_⟩
        rw [getId_eq, hreleased.copied fence hfence, Option.getD_some]
      refine good_hand h rfl rfl ?_ hcopy hreleased.bijective ?_ (fun _ hs => hs)
        (fun fence hfence => ?_) (fun hkind => absurd rfl hkind)
        fun fence after _ htracks => hreleased.tracks h.bijective rfl htracks
      · exact congrArg (Requests.RequestQueue.mk · _) hready.2
      · exact fun s hs => h.given s (hreleased.shrinks.held s hs)
      · exact h.given _
          (h.bijective.inStep.hasSession_iff.mpr ⟨fence.id, hreleased.bound fence hfence⟩)
    · rename_i hempty
      have hnone := List.length_eq_zero_iff.mp (Nat.eq_zero_of_not_pos hempty)
      refine good_same h (List.append_nil _) rfl rfl rfl (.inl rfl) hreleased.bijective fun s => ?_
      exact hreleased.kept s fun fence hfence => by rw [hnone] at hfence; cases hfence
  · exact good_same h (List.append_nil _) rfl rfl rfl (.inl rfl) h.bijective fun _ => rfl

/-- Where the first add empties the queue, there was nothing in it. -/
theorem opened (h : Good w) :
    (if w.client.mRequestQueue.getSession ≠ GEOFENCE_SESSION_ID then
        { w.client with mRequestQueue := w.client.mRequestQueue.reset GEOFENCE_SESSION_ID }
      else w.client) =
    { w.client with mRequestQueue := ⟨GEOFENCE_SESSION_ID, w.client.mRequestQueue.mQueue⟩ } := by
  split
  · rename_i hclosed
    have hpending : w.pending = [] := by
      by_contra hne
      exact hclosed (h.started hne)
    have hqueue := h.queue
    rw [hpending, List.forall₂_nil_right_iff] at hqueue
    rw [hqueue]
    rfl
  · rename_i hopen
    have hsession : w.client.mRequestQueue.mSession = GEOFENCE_SESSION_ID := not_not.mp hopen
    rw [← hsession]

theorem good_add (h : Good w) {fences : List (Nat × GeofenceOption)}
    {sessions : Option (List Nat)} (hfresh : FreshSessions w (.addGeofences fences sessions))
    (hnew : NewIds w (.addGeofences fences sessions)) :
    Good (w.step (.addGeofences fences sessions)) := by
  have hgiven := given_step h.bijective h.given (.addGeofences fences sessions)
  have hd := (bijective_step_iff h.bijective h.given hfresh).mpr hnew
  cases hapi : w.client.mLocationAPI with
  | false =>
    simp only [World.step, locAPIAddGeofences, hapi, Bool.false_eq_true, if_false]
    exact good_same h (List.append_nil _) rfl rfl rfl (.inl rfl) h.bijective fun _ => rfl
  | true =>
    simp only [World.step, locAPIAddGeofences, opened h, if_pos hapi] at hgiven hd ⊢
    cases sessions with
    | none => exact good_same h (List.append_nil _) rfl rfl rfl (.inr rfl) hd fun _ => rfl
    | some sessions =>
      obtain ⟨hnodup, hunknown⟩ := fresh_bound h.given hfresh
      refine good_hand h rfl rfl rfl ⟨rfl, rfl⟩ hd hgiven (fun s hs => List.mem_append_right _ hs)
        (fun fence hfence => ?_) (fun _ fence hfence => ?_) fun fence after hs htracks => ?_
      · exact List.mem_append_left _ (List.mem_map_of_mem hfence)
      · obtain ⟨b, hb, rfl⟩ := List.mem_map.mp hfence
        exact backward_bindFences_of_mem hnodup hb
      · refine htracks.concat (backward_bindFences fun b hb heq => ?_) fun hkind => by cases hkind
        have hgive : b.2 ∈ sessions := (List.of_mem_zip hb).2
        exact (hfresh.2.2 b.2 hgive).2 (heq ▸ hs)

/-! ## Answers -/

/-- The ids that the callback of the oldest call names are those of its operation
exactly if no later removal took one of its fences. -/
theorem names_iff {call : GeofenceCall} {rest : List GeofenceCall}
    (ht : ∀ fence ∈ call.fences, Tracks d fence rest) :
    call.sessions.map d.getId = call.fences.map (·.id) ↔ ∀ later ∈ rest, ¬ later.takes call := by
  rw [GeofenceCall.sessions, List.map_map, List.map_inj_left]
  constructor
  · intro hall later hlater htakes
    obtain ⟨hremove, fence, hfence, hid, hmem⟩ := htakes
    have htaken : Taken fence rest := ⟨later, hlater, hremove, hmem⟩
    have hget : d.getId fence.session = fence.id := hall fence hfence
    rcases ht fence hfence with ⟨-, hnot⟩ | ⟨hnone, -⟩
    · exact hnot htaken
    · rw [getId_eq, hnone, Option.getD_none] at hget
      exact hid hget.symm
  · intro hnot fence hfence
    show d.getId fence.session = fence.id
    rw [getId_eq]
    rcases ht fence hfence with ⟨hbound, -⟩ | ⟨hnone, later, hlater, hremove, hmem⟩
    · rw [hbound, Option.getD_some]
    · rw [hnone, Option.getD_none]
      by_contra hid
      exact hnot later hlater ⟨hremove, fence, hfence, Ne.symm hid, hmem⟩

/-- The callback of a request that is for the call. -/
theorem callback_iff {request : GeofenceRequest} {call : GeofenceCall} {rest : List GeofenceCall}
    (hr : RequestFor request call)
    (ht : call.kind ≠ removeGeofences → ∀ fence ∈ call.fences, Tracks d fence rest)
    (errors : List LocationError) :
    request.onCollectiveResponse d errors call.sessions = some (call.answer errors) ↔
      (call.kind ≠ removeGeofences → ∀ later ∈ rest, ¬ later.takes call) := by
  have hlooked : call.kind ≠ removeGeofences →
      (some (⟨call.kind, call.op, errors, call.sessions.map d.getId⟩ : GeofencesCb) =
        some (call.answer errors) ↔
      (call.kind ≠ removeGeofences → ∀ later ∈ rest, ¬ later.takes call)) := by
    intro hkind
    rw [forall_prop_of_true hkind, ← names_iff (ht hkind), GeofenceCall.answer]
    simp only [Option.some.injEq, GeofencesCb.mk.injEq, true_and]
  cases request with
  | RemoveGeofencesRequest op copy =>
    obtain ⟨hkind, rfl, copied, hcopy, hget⟩ := hr
    obtain rfl : copy = some copied := hcopy
    refine iff_of_true ?_ fun hne => absurd hkind hne
    have hids : call.sessions.map copied.getId = call.fences.map (·.id) := by
      rw [GeofenceCall.sessions, List.map_map]
      exact List.map_congr_left hget
    rw [onCollectiveResponse, hids, GeofenceCall.answer, hkind]
  | AddGeofencesRequest op | ModifyGeofencesRequest op | PauseGeofencesRequest op
  | ResumeGeofencesRequest op =>
    obtain ⟨hkind, rfl⟩ := hr
    have hiff := hlooked (by rw [hkind]; decide)
    rw [hkind] at hiff ⊢
    exact hiff

/-- The request of the oldest call is taken from the queue. -/
theorem good_response (h : Good w) (errors : List LocationError) :
    Good (w.step (.response errors)) := by
  cases ha : w.answer with
  | some answer =>
    have hstep : w.step (.response errors) = w := by simp only [World.step, ha]
    rw [hstep]
    exact h
  | none =>
    cases hp : w.pending with
    | nil =>
      have hstep : w.step (.response errors) = w := by simp only [World.step, ha, hp]
      rw [hstep]
      exact h
    | cons call rest =>
      have hqueue := h.queue
      rw [hp, List.forall₂_cons_right_iff] at hqueue
      obtain ⟨request, queue, hr, hrest, hq⟩ := hqueue
      have hopen : w.client.mRequestQueue.getSession = GEOFENCE_SESSION_ID :=
        h.started (by rw [hp]; exact List.cons_ne_nil _ _)
      have hsessions := h.sessions
      have htracks := h.tracks
      have hcalls : w.calls = call :: rest := by rw [World.calls, ha, hp]; rfl
      rw [hcalls] at hsessions htracks
      have hstep : w.step (.response errors) =
          { w with
            client := { w.client with mRequestQueue := ⟨w.client.mRequestQueue.mSession, queue⟩ }
            pending := rest
            answer := some ⟨some request, call, errors⟩ } := by
        simp only [World.step, ha, hp, onCollectiveResponseCb, if_pos hopen,
          Requests.RequestQueue.pop, hq, List.head?_cons, List.tail_cons]
      rw [hstep]
      exact
        { bijective := h.bijective
          given := h.given
          queue := hrest
          started := fun _ => hopen
          answer := fun answer hanswer => by
            obtain rfl := Option.some.inj hanswer
            exact ⟨request, rfl, hr⟩
          sessions := hsessions
          tracks := htracks }

theorem step_callback_none (ha : w.answer = none) : w.step .callback = w := by
  simp only [World.step, ha]

/-- What is passed on for an answer. -/
theorem callback_spec (h : Good w) {answer : Answer} (ha : w.answer = some answer) :
    Good (w.step .callback) ∧
    ∃ request, RequestFor request answer.call ∧
      (w.step .callback).callbacks = w.callbacks ++ (request.onCollectiveResponse
        w.client.mGeofenceBiDict answer.errors answer.call.sessions).toList ∧
      (w.step .callback).answered = w.answered ++ [answer.call.answer answer.errors] := by
  obtain ⟨request, hrequest, hr⟩ := h.answer answer ha
  have hcalls : w.calls = answer.call :: w.pending := by rw [World.calls, ha]; rfl
  have hstep : w.step .callback =
      { w with
        answer := none
        callbacks := w.callbacks ++ (request.onCollectiveResponse
          w.client.mGeofenceBiDict answer.errors answer.call.sessions).toList
        answered := w.answered ++ [answer.call.answer answer.errors] } := by
    simp only [World.step, ha, Option.mem_def.mp hrequest, Option.bind_some]
  rw [hstep]
  refine ⟨⟨h.bijective, h.given, h.queue, h.started, fun _ hnone => (by cases hnone), fun x hx => ?_,
    ?_⟩, request, hr, rfl, rfl⟩
  · exact h.sessions x (hcalls ▸ List.mem_cons_of_mem _ hx)
  · intro before x after hsplit hkind
    refine h.tracks (answer.call :: before) x after ?_ hkind
    rw [hcalls, List.cons_append]
    exact congrArg (answer.call :: ·) hsplit

theorem good_step {e : Event} (h : Good w) (hfresh : FreshSessions w e) (hnew : NewIds w e) :
    Good (w.step e) := by
  cases e with
  | addGeofences fences sessions => exact good_add h hfresh hnew
  | removeGeofences ids => exact good_remove h ids
  | modifyGeofences _ | pauseGeofences _ | resumeGeofences _ _ =>
    refine good_visit h ?_ (fun _ _ => ?_) _
    · decide
    · exact ⟨rfl, rfl⟩
  | removeAllGeofences => exact good_remove h _
  | response errors => exact good_response h errors
  | callback =>
    cases ha : w.answer with
    | none =>
      rw [step_callback_none ha]
      exact h
    | some answer => exact (callback_spec h ha).1

theorem named_step_iff {e : Event} (h : Good w) (hn : Named w) :
    Named (w.step e) ↔ NotOvertaken w e := by
  cases e with
  | response errors =>
    refine iff_of_true ?_ trivial
    simp only [World.step]
    split <;> exact hn
  | callback =>
    cases ha : w.answer with
    | none =>
      rw [step_callback_none ha]
      exact iff_of_true hn (by simp [NotOvertaken, ha])
    | some answer =>
      obtain ⟨-, request, hr, hcallbacks, hanswered⟩ := callback_spec h ha
      have htracks := h.tracks [] answer.call w.pending (by rw [World.calls, ha]; rfl)
      have hover : NotOvertaken w .callback ↔ (answer.call.kind ≠ removeGeofences →
          ∀ later ∈ w.pending, ¬ later.takes answer.call) := by
        simp only [NotOvertaken, ha, Option.mem_some_iff, forall_eq']
      rw [hover, ← callback_iff hr htracks answer.errors, Named, hcallbacks, hanswered, hn,
        List.append_right_inj]
      constructor
      · intro hlist
        cases hcallback : request.onCollectiveResponse w.client.mGeofenceBiDict answer.errors
            answer.call.sessions with
        | none =>
          rw [hcallback] at hlist
          cases hlist
        | some callback =>
          rw [hcallback, Option.toList_some, List.singleton_inj] at hlist
          rw [hlist]
      · intro hcallback
        rw [hcallback, Option.toList_some]
  | _ => exact iff_of_true hn trivial

end

/-- **Every answer is passed on for its own operation with the ids that it was
called with, in exactly the runs in which no answer to an add, a modification, a
pause or a resumption comes after a removal took one of its fences.** -/
theorem named_iff_not_overtaken (api : Bool) (es : List Event)
    (hfresh : Steps World.step FreshSessions (.init api) es)
    (hnew : Steps World.step NewIds (.init api) es) :
    Steps World.step (fun w e => Named (w.step e)) (.init api) es ↔
      Steps World.step NotOvertaken (.init api) es :=
  steps_iff_guard (I := fun w => Good w ∧ Named w)
    (fun _ _ h _ => named_step_iff h.1 h.2)
    (fun _ _ h ha hq => ⟨good_step h.1 ha.1 ha.2, hq⟩)
    ⟨good_init api, rfl⟩ (hfresh.and hnew)

theorem named_modify_remove :
    let es := [.addGeofences [(7, ⟨3, 0, 0⟩), (8, ⟨1, 0, 0⟩)] (some [10, 11]),
      .modifyGeofences [(8, ⟨2, 0, 0⟩)],
      .response [LocationError.LOCATION_ERROR_SUCCESS, LocationError.LOCATION_ERROR_SUCCESS],
      .callback, .removeGeofences [7], .response [LocationError.LOCATION_ERROR_SUCCESS], .callback,
      .response [LocationError.LOCATION_ERROR_SUCCESS], .callback]
    Steps World.step FreshSessions (.init true) es ∧ Steps World.step NewIds (.init true) es ∧
      (Steps World.step (fun w e => Named (w.step e)) (.init true) es ↔
        Steps World.step NotOvertaken (.init true) es) :=
  ⟨by decide, by decide, named_iff_not_overtaken true _ (by decide) (by decide)⟩

/-- A fence is paused and removed before the answer to the pausing, which then
names id 0. -/
theorem pause_names_zero :
    let es := [.addGeofences [(7, ⟨3, 0, 0⟩)] (some [10]),
      .response [LocationError.LOCATION_ERROR_SUCCESS], .callback, .pauseGeofences [7],
      .removeGeofences [7], .response [LocationError.LOCATION_ERROR_SUCCESS], .callback]
    Steps World.step FreshSessions (.init true) es ∧ Steps World.step NewIds (.init true) es ∧
      (run World.step (.init true) es).callbacks.getLast? =
        some ⟨pauseGeofences, 1, [LocationError.LOCATION_ERROR_SUCCESS], [0]⟩ ∧
      ¬ Named (run World.step (.init true) es) := by
  unfold Named
  decide

end DeviceHal.Location.Geofences
