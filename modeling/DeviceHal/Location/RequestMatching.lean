import DeviceHal.Location.AdapterCalls

/-! # Responses find their requests

The queue that all sessions share holds, in order, the requests of the calls
that are on their way; the tracking queue does so behind requests that will
never be answered, and the queue of network-initiated requests for its own
number. While the invariant holds, the request that a response pops is the one
pushed for its call. -/
namespace DeviceHal.Location
open DeviceHal.Gnss.LocationTypes LocationError REQUEST_TYPE RequestClass
open DeviceHal.Lib.Run DeviceHal.Location.Requests

/-! ## The requests of the calls -/

/-- The requests pushed by operations of one kind, call by call. -/
def requestsOf (origin : REQUEST_TYPE) (calls : List Call) : List LocationAPIRequest :=
  calls.filterMap fun m => if m.origin = origin then m.request else none

/-- Those of the calls about one session. -/
def requestsFor (origin : REQUEST_TYPE) (session : Nat) (calls : List Call) :
    List LocationAPIRequest :=
  calls.filterMap fun m => if m.origin = origin ∧ m.session = session then m.request else none

section
variable {origin : REQUEST_TYPE} {session : Nat} {m : Call} {calls : List Call}
variable {request : LocationAPIRequest}

theorem requestsOf_concat : requestsOf origin (calls ++ [m]) =
    requestsOf origin calls ++ if m.origin = origin then m.request.toList else [] := by
  unfold requestsOf
  by_cases ho : m.origin = origin <;> cases hr : m.request <;> simp [ho, hr]

theorem requestsFor_concat : requestsFor origin session (calls ++ [m]) =
    requestsFor origin session calls ++
      if m.origin = origin ∧ m.session = session then m.request.toList else [] := by
  unfold requestsFor
  by_cases ho : m.origin = origin ∧ m.session = session <;> cases hr : m.request <;> simp [ho, hr]

theorem requestsOf_cons : requestsOf origin (m :: calls) =
    (if m.origin = origin then m.request.toList else []) ++ requestsOf origin calls := by
  unfold requestsOf
  by_cases ho : m.origin = origin <;> cases hr : m.request <;> simp [ho, hr]

theorem requestsFor_cons : requestsFor origin session (m :: calls) =
    (if m.origin = origin ∧ m.session = session then m.request.toList else []) ++
      requestsFor origin session calls := by
  unfold requestsFor
  by_cases ho : m.origin = origin ∧ m.session = session <;> cases hr : m.request <;> simp [ho, hr]

theorem requestsFor_eq_nil (h : ∀ x ∈ calls, x.origin = origin → x.session ≠ session) :
    requestsFor origin session calls = [] := by
  refine List.filterMap_eq_nil_iff.mpr fun x hx => if_neg fun ho => ?_
  exact h x hx ho.1 ho.2

end

/-! ## The invariant -/

/-- The queues, the sessions of the client and the calls on their way agree. -/
structure Aligned (tracking ni : ClientQueue) (shared : List LocationAPIRequest)
    (d : BiDictView SessionEntity) (a : Adapter) : Prop where
  /-- What stands before the requests of the calls is of a session that is gone. -/
  trackingQueue : ∃ stale, tracking.mQueue =
      stale ++ requestsFor REQUEST_TRACKING tracking.mSession a.pending ∧
    (stale ≠ [] → a.Gone tracking.mSession)
  niQueue : ni.mQueue = requestsFor REQUEST_NIRESPONSE ni.mSession a.pending
  sharedQueue : shared = requestsOf REQUEST_SESSION a.pending
  held : ∀ m ∈ a.pending, m.origin = REQUEST_SESSION → m.request ≠ none →
    d.hasSession m.session = true ∨ a.Gone m.session
  /-- A call without a request is about a session that was replaced. -/
  replaced : ∀ m ∈ a.pending, m.origin = REQUEST_SESSION → m.request = none →
    d.hasSession m.session = false
  niApart : ∀ m ∈ a.pending, m.origin = REQUEST_NIRESPONSE → m.session ≠ tracking.mSession
  tracked : tracking.mSession = 0 ∨ (REQUEST_TRACKING, tracking.mSession) ∈ a.sessions
  owned : ∀ session, d.hasSession session = true → (REQUEST_SESSION, session) ∈ a.sessions
  inStep : d.InStep
  entity : ∀ id session, d.Maps id session →
    ∃ e, d.mExtMap session = some e ∧ e.session = session

def Client.Aligned (c : Client) (a : Adapter) : Prop :=
  Location.Aligned (c.mRequestQueues REQUEST_TRACKING) (c.mRequestQueues REQUEST_NIRESPONSE)
    (c.mRequestQueues REQUEST_SESSION).mQueue c.mSessionBiDict.view a

section
variable {tracking ni tracking' ni' : ClientQueue} {shared shared' : List LocationAPIRequest}
variable {d : BiDictView SessionEntity} {a a' : Adapter} {m : Call} {rest : List Call}
variable {id session : Nat} {e : SessionEntity} {request : LocationAPIRequest}

/-- A session is not tracked and held at once. -/
theorem Aligned.not_tracked (h : Aligned tracking ni shared d a) (ok : a.Ok)
    (hs : (REQUEST_SESSION, session) ∈ a.sessions) : tracking.mSession ≠ session := by
  intro heq
  obtain hzero | htr := h.tracked
  · exact ok.nonzero hs (heq.symm.trans hzero)
  · rw [heq] at htr
    exact absurd (ok.owner htr hs) (by decide)

/-! ### Entries that leave -/

theorem entity_rmById {d : BiDictView SessionEntity} (hd : d.InStep) (hm : d.Maps id session)
    (h : ∀ id session, d.Maps id session → ∃ e, d.mExtMap session = some e ∧ e.session = session) :
    ∀ id' s, (d.rmById id).Maps id' s →
      ∃ e, (d.rmById id).mExtMap s = some e ∧ e.session = s := by
  intro id' s hs
  obtain ⟨hne, hs⟩ := BiDictView.maps_rmById.mp hs
  have hss : s ≠ session := by
    intro heq
    have hback := hd.forward hs
    rw [heq, hd.forward hm] at hback
    exact hne (Option.some.inj hback).symm
  obtain ⟨e, he, hes⟩ := h id' s hs
  have hfront : d.mForwardMap id = some session := hm
  exact ⟨e, by simp [BiDictView.rmById, hfront, hss, he], hes⟩

theorem hasSession_rm_of_ne (hm : d.Maps id session) {s : Nat}
    (hs : (d.rmById id).hasSession s = true) : d.hasSession s = true :=
  ((BiDictView.hasSession_rmById hm).mp hs).2

/-- The entry of a session may leave if the session is gone or has no request on its way. -/
theorem Aligned.remove (h : Aligned tracking ni shared d a) (hm : d.Maps id session)
    (hg : ∀ x ∈ a.pending, x.session = session → x.origin = REQUEST_SESSION →
      x.request ≠ none → a.Gone session) : Aligned tracking ni shared (d.rmById id) a where
  trackingQueue := h.trackingQueue
  niQueue := h.niQueue
  sharedQueue := h.sharedQueue
  held x hx ho hr := by
    by_cases hxs : x.session = session
    · exact .inr (hxs ▸ hg x hx hxs ho hr)
    · rw [BiDictView.hasSession_rmById hm]
      exact (h.held x hx ho hr).imp_left fun hheld => ⟨hxs, hheld⟩
  replaced x hx ho hr := by
    have hold := h.replaced x hx ho hr
    by_contra hheld
    rw [hasSession_rm_of_ne hm (by simpa using hheld)] at hold
    cases hold
  niApart := h.niApart
  tracked := h.tracked
  owned s hs := h.owned s (hasSession_rm_of_ne hm hs)
  inStep := h.inStep.rmById hm
  entity := entity_rmById h.inStep hm h.entity

theorem entity_set {d : BiDictView SessionEntity} (hd : d.hasSession session = false) (hin : d.InStep)
    (he : e.session = session)
    (h : ∀ id session, d.Maps id session → ∃ e, d.mExtMap session = some e ∧ e.session = session) :
    ∀ id' s, (d.set id session e).Maps id' s →
      ∃ e', (d.set id session e).mExtMap s = some e' ∧ e'.session = s := by
  intro id' s hs
  obtain ⟨rfl, rfl⟩ | ⟨_, hs⟩ := BiDictView.maps_set.mp hs
  · exact ⟨e, by simp [BiDictView.set], he⟩
  · have hss : s ≠ session := by
      intro heq
      rw [heq] at hs
      rw [hin.hasSession_iff.mpr ⟨id', hs⟩] at hd
      cases hd
    obtain ⟨e', he', hes⟩ := h id' s hs
    exact ⟨e', by simp [BiDictView.set, hss, he'], hes⟩

/-- An entry may be replaced by another one for the same session. -/
theorem Aligned.redo (h : Aligned tracking ni shared d a) (hm : d.Maps id session)
    (he : e.session = session) :
    Aligned tracking ni shared ((d.rmById id).set id session e) a := by
  have hrm := h.inStep.rmById hm
  have hid : (d.rmById id).hasId id = false := by simp [BiDictView.hasId, BiDictView.rmById]
  have hnot : (d.rmById id).hasSession session = false := by
    by_contra hheld
    exact ((BiDictView.hasSession_rmById hm).mp (by simpa using hheld)).1 rfl
  have hsame : ∀ s, ((d.rmById id).set id session e).hasSession s = true ↔
      d.hasSession s = true := by
    intro s
    rw [BiDictView.hasSession_set, BiDictView.hasSession_rmById hm]
    by_cases hs : s = session
    · simp [hs, h.inStep.hasSession_iff.mpr ⟨id, hm⟩]
    · simp [hs]
  refine
    { h with
      held := fun x hx ho hr => (h.held x hx ho hr).imp_left (hsame _).mpr
      replaced := fun x hx ho hr => ?_
      owned := fun s hs => h.owned s ((hsame s).mp hs)
      inStep := hrm.set hid hnot
      entity := entity_set hnot hrm he (entity_rmById h.inStep hm h.entity) }
  have hold := h.replaced x hx ho hr
  by_contra hheld
  rw [(hsame _).mp (by simpa using hheld)] at hold
  cases hold

/-! ### Calls that are sent -/

theorem mem_send {x : Call} : x ∈ (a.send m).pending ↔ x ∈ a.pending ∨ x = m := by
  simp

/-- `startTracking` empties the queue for its session. -/
theorem Aligned.send_start_tracking (h : Aligned tracking ni shared d a)
    (hapart : ∀ x ∈ a.pending, x.session ≠ session)
    (hm : m.origin = REQUEST_TRACKING) (hs : m.kind.starts = true) (hms : m.session = session)
    (hr : m.request = some request) :
    Aligned ⟨session, [request]⟩ ni shared d (a.send m) where
  trackingQueue := by
    have hnil := @requestsFor_eq_nil REQUEST_TRACKING _ _ fun x hx _ => hapart x hx
    exact ⟨[], by simp [requestsFor_concat, hnil, hm, hms, hr], fun hne => absurd rfl hne⟩
  niQueue := by simp [requestsFor_concat, hm, h.niQueue]
  sharedQueue := by simp [requestsOf_concat, hm, h.sharedQueue]
  held x hx ho hreq := by
    obtain hx | rfl := mem_send.mp hx
    · refine (h.held x hx ho hreq).imp_right fun hg => hg.send fun _ heq => ?_
      exact hapart x hx (heq.symm.trans hms)
    · rw [hm] at ho
      cases ho
  replaced x hx ho hreq := by
    obtain hx | rfl := mem_send.mp hx
    · exact h.replaced x hx ho hreq
    · rw [hm] at ho
      cases ho
  niApart x hx ho := by
    obtain hx | rfl := mem_send.mp hx
    · exact hapart x hx
    · rw [hm] at ho
      cases ho
  tracked := by
    rw [Adapter.sessions_send_of_start hs, hm, hms]
    exact .inr (List.mem_cons_self ..)
  owned s hheld := by
    rw [Adapter.sessions_send_of_start hs]
    exact List.mem_cons_of_mem _ (h.owned s hheld)
  inStep := h.inStep
  entity := h.entity

/-- A call that starts nothing brings its request to the queue of its operation. -/
theorem Aligned.send (h : Aligned tracking ni shared d a) (hs : m.kind.starts = false)
    (hheld : m.origin = REQUEST_SESSION → (m.request ≠ none ↔ d.hasSession m.session = true))
    (hni : m.origin = REQUEST_NIRESPONSE → m.session ≠ tracking.mSession) :
    Aligned ⟨tracking.mSession, tracking.mQueue ++
        if m.origin = REQUEST_TRACKING ∧ m.session = tracking.mSession then m.request.toList else []⟩
      ⟨ni.mSession, ni.mQueue ++
        if m.origin = REQUEST_NIRESPONSE ∧ m.session = ni.mSession then m.request.toList else []⟩
      (shared ++ if m.origin = REQUEST_SESSION then m.request.toList else []) d (a.send m) where
  trackingQueue := by
    obtain ⟨stale, hq, hgone⟩ := h.trackingQueue
    refine ⟨stale, ?_, fun hne => (hgone hne).send_other hs⟩
    rw [Adapter.pending_send, requestsFor_concat, hq, List.append_assoc]
  niQueue := by rw [Adapter.pending_send, requestsFor_concat, h.niQueue]
  sharedQueue := by rw [Adapter.pending_send, requestsOf_concat, h.sharedQueue]
  held x hx ho hreq := by
    obtain hx | rfl := mem_send.mp hx
    · exact (h.held x hx ho hreq).imp_right fun hg => hg.send_other hs
    · exact .inl ((hheld ho).mp hreq)
  replaced x hx ho hreq := by
    obtain hx | rfl := mem_send.mp hx
    · exact h.replaced x hx ho hreq
    · by_contra hnot
      exact (hheld ho).mpr (by simpa using hnot) hreq
  niApart x hx ho := by
    obtain hx | rfl := mem_send.mp hx
    · exact h.niApart x hx ho
    · exact hni ho
  tracked := by
    rw [Adapter.sessions_send_of_not hs]
    exact h.tracked
  owned := by
    rw [Adapter.sessions_send_of_not hs]
    exact h.owned
  inStep := h.inStep
  entity := h.entity

/-- Any other call about the tracking session. -/
theorem Aligned.send_tracking (h : Aligned tracking ni shared d a)
    (hm : m.origin = REQUEST_TRACKING) (hs : m.kind.starts = false)
    (hms : m.session = tracking.mSession) (hr : m.request = some request) :
    Aligned (tracking.push request) ni shared d (a.send m) := by
  have hsend := h.send hs (fun ho => by simp [hm] at ho) fun ho => by simp [hm] at ho
  simpa [RequestQueue.push, hm, hms, hr] using hsend

/-- The start of a session for a new id. -/
theorem Aligned.send_start_session (h : Aligned tracking ni shared d a) (ok : a.Ok)
    (hf : a.Fresh session) (hid : d.hasId id = false) (he : e.session = session)
    (hm : m.origin = REQUEST_SESSION) (hs : m.kind.starts = true) (hms : m.session = session)
    (hr : m.request = some request) :
    Aligned tracking ni (shared ++ [request]) (d.set id session e) (a.send m) := by
  have hnot : d.hasSession session = false := by
    by_contra hheld
    exact hf.2 _ (h.owned session (by simpa using hheld)) rfl
  have hother : ∀ x ∈ a.pending, x.origin = REQUEST_SESSION → x.session ≠ session :=
    fun x hx ho => hf.not_owned ok hx (by simp [ho])
  exact
    { trackingQueue := by
        obtain ⟨stale, hq, hgone⟩ := h.trackingQueue
        have hne : stale ≠ [] → (a.send m).Gone tracking.mSession := fun hne => by
          refine (hgone hne).send fun _ heq => ?_
          obtain hzero | htr := h.tracked
          · exact hf.1 (hms.symm.trans (heq.trans hzero))
          · rw [← heq, hms] at htr
            exact hf.2 _ htr rfl
        exact ⟨stale, by simp [requestsFor_concat, hm, hq], hne⟩
      niQueue := by simp [requestsFor_concat, hm, h.niQueue]
      sharedQueue := by simp [requestsOf_concat, hm, hr, h.sharedQueue]
      held := fun x hx ho hreq => by
        rw [BiDictView.hasSession_set]
        obtain hx | rfl := mem_send.mp hx
        · refine (h.held x hx ho hreq).imp .inr fun hg => hg.send fun _ heq => ?_
          exact hother x hx ho (heq.symm.trans hms)
        · exact .inl (.inl hms)
      replaced := fun x hx ho hreq => by
        obtain hx | rfl := mem_send.mp hx
        · have hold := h.replaced x hx ho hreq
          by_contra hheld
          obtain heq | hheld := BiDictView.hasSession_set.mp (by simpa using hheld)
          · exact hother x hx ho heq
          · rw [hheld] at hold
            cases hold
        · rw [hr] at hreq
          cases hreq
      niApart := fun x hx ho => by
        obtain hx | rfl := mem_send.mp hx
        · exact h.niApart x hx ho
        · rw [hm] at ho
          cases ho
      tracked := by
        rw [Adapter.sessions_send_of_start hs]
        exact h.tracked.imp_right (List.mem_cons_of_mem _)
      owned := fun s hheld => by
        rw [Adapter.sessions_send_of_start hs, hm, hms]
        obtain rfl | hheld := BiDictView.hasSession_set.mp hheld
        · exact List.mem_cons_self ..
        · exact List.mem_cons_of_mem _ (h.owned s hheld)
      inStep := h.inStep.set hid hnot
      entity := entity_set hnot h.inStep he h.entity }

/-- Any other call about a session that is held. -/
theorem Aligned.send_session (h : Aligned tracking ni shared d a)
    (hheld : d.hasSession session = true) (hm : m.origin = REQUEST_SESSION)
    (hs : m.kind.starts = false) (hms : m.session = session) (hr : m.request = some request) :
    Aligned tracking ni (shared ++ [request]) d (a.send m) := by
  have hsend := h.send hs (fun _ => by simp [hr, hms, hheld]) fun ho => by simp [hm] at ho
  simpa [hm, hr] using hsend

/-- The entry leaves, and the adapter is told without a request. -/
theorem Aligned.send_replaced (h : Aligned tracking ni shared d a) (hmaps : d.Maps id session)
    (hnone : ∀ x ∈ a.pending, x.session = session → x.origin = REQUEST_SESSION → x.request = none)
    (hm : m.origin = REQUEST_SESSION) (hs : m.kind.starts = false) (hms : m.session = session)
    (hr : m.request = none) : Aligned tracking ni shared (d.rmById id) (a.send m) := by
  have hleave := h.remove hmaps fun x hx hxs ho hreq => absurd (hnone x hx hxs ho) hreq
  have hnot : ¬ (d.rmById id).hasSession session = true := fun hheld =>
    ((BiDictView.hasSession_rmById hmaps).mp hheld).1 rfl
  have hsend := hleave.send hs (fun _ => by simp [hr, hms, hnot]) fun ho => by simp [hm] at ho
  simpa [hm, hr] using hsend

/-- The queue of network-initiated requests may be emptied for a number without calls. -/
theorem Aligned.reset_ni (h : Aligned tracking ni shared d a)
    (hapart : ∀ x ∈ a.pending, x.session ≠ session) :
    Aligned tracking (ni.reset session) shared d a :=
  { h with niQueue := (requestsFor_eq_nil fun x hx _ => hapart x hx).symm }

/-- A network-initiated response empties its queue for its number. -/
theorem Aligned.send_ni (h : Aligned tracking ni shared d a)
    (hne : session ≠ tracking.mSession) (hapart : ∀ x ∈ a.pending, x.session ≠ session)
    (hm : m.origin = REQUEST_NIRESPONSE) (hs : m.kind.starts = false) (hms : m.session = session)
    (hr : m.request = some request) :
    Aligned tracking ⟨session, [request]⟩ shared d (a.send m) := by
  have hsend := (h.reset_ni hapart).send hs (fun ho => by simp [hm] at ho) fun _ => hms ▸ hne
  simpa [RequestQueue.reset, hm, hms, hr] using hsend

end

end DeviceHal.Location
