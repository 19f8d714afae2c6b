import DeviceHal.Location.RequestMatching

/-! # Runs in which responses find their requests

One lemma for each operation and one for the adapter's step carry the
invariant through a run. A run goes wrong only where it leaves a request
behind or uses one number for two things. -/
namespace DeviceHal.Location
open DeviceHal.Gnss.LocationTypes LocationError REQUEST_TYPE RequestClass
open DeviceHal.Lib.Run DeviceHal.Location.Requests

/-! ## Which request a response pops -/

section
variable {c : Client} {session : Nat} {i : REQUEST_TYPE} {request : LocationAPIRequest}
variable {queue : List LocationAPIRequest}

theorem queueOfSession_eq (c : Client) (session : Nat) :
    c.queueOfSession session =
      if (c.mRequestQueues REQUEST_TRACKING).mSession = session then some REQUEST_TRACKING
      else if (c.mRequestQueues REQUEST_NIRESPONSE).mSession = session then
        some REQUEST_NIRESPONSE
      else none := by
  unfold Client.queueOfSession RequestQueue.getSession
  by_cases ht : (c.mRequestQueues REQUEST_TRACKING).mSession = session
  · simp [ht]
  · by_cases hn : (c.mRequestQueues REQUEST_NIRESPONSE).mSession = session <;> simp [ht, hn]

theorem popQueue_of_cons (hq : (c.mRequestQueues i).mQueue = request :: queue) :
    c.popQueue i = (some request, c.onQueue i fun q => q.pop.2) := by
  simp [Client.popQueue, RequestQueue.pop, hq]

theorem popQueue_of_nil (hq : (c.mRequestQueues i).mQueue = []) : c.popQueue i = (none, c) := by
  have hsame : (fun q : ClientQueue => q.pop.2) (c.mRequestQueues i) = c.mRequestQueues i := by
    cases hc : c.mRequestQueues i
    simp_all [RequestQueue.pop]
  simp only [Client.popQueue, RequestQueue.pop, hq, List.head?_nil, Client.onQueue] at hsame ⊢
  rw [hsame, Function.update_eq_self]

/-- The response is the tracking session's and its queue is not empty. -/
theorem getRequest_tracking (ht : (c.mRequestQueues REQUEST_TRACKING).mSession = session)
    (hq : (c.mRequestQueues REQUEST_TRACKING).mQueue = request :: queue) :
    c.getRequestBySession session =
      (some request, c.onQueue REQUEST_TRACKING fun q => q.pop.2) := by
  simp [Client.getRequestBySession, queueOfSession_eq, ht, popQueue_of_cons hq]

/-- So for the network-initiated response. -/
theorem getRequest_ni (ht : (c.mRequestQueues REQUEST_TRACKING).mSession ≠ session)
    (hn : (c.mRequestQueues REQUEST_NIRESPONSE).mSession = session)
    (hq : (c.mRequestQueues REQUEST_NIRESPONSE).mQueue = request :: queue) :
    c.getRequestBySession session =
      (some request, c.onQueue REQUEST_NIRESPONSE fun q => q.pop.2) := by
  simp [Client.getRequestBySession, queueOfSession_eq, ht, hn, popQueue_of_cons hq]

/-- No other queue has a request for the session, so the client's sessions decide. -/
theorem getRequest_shared (ht : (c.mRequestQueues REQUEST_TRACKING).mSession ≠ session)
    (hn : (c.mRequestQueues REQUEST_NIRESPONSE).mSession = session →
      (c.mRequestQueues REQUEST_NIRESPONSE).mQueue = []) :
    c.getRequestBySession session =
      if c.mSessionBiDict.view.hasSession session then c.popQueue REQUEST_SESSION else (none, c) := by
  by_cases hns : (c.mRequestQueues REQUEST_NIRESPONSE).mSession = session
  · simp [Client.getRequestBySession, queueOfSession_eq, ht, hns, popQueue_of_nil (hn hns),
      BiDict.hasSession_eq]
  · simp [Client.getRequestBySession, queueOfSession_eq, ht, hns, BiDict.hasSession_eq]

end

/-! ## One queue is edited -/

section
variable {c : Client} {a : Adapter} {f : ClientQueue → ClientQueue}

theorem aligned_onQueue_tracking
    (h : Aligned (f (c.mRequestQueues REQUEST_TRACKING)) (c.mRequestQueues REQUEST_NIRESPONSE)
      (c.mRequestQueues REQUEST_SESSION).mQueue c.mSessionBiDict.view a) :
    (c.onQueue REQUEST_TRACKING f).Aligned a := by
  unfold Client.Aligned
  rw [Client.onQueue_self, Client.onQueue_of_ne _ _ (by decide), Client.onQueue_of_ne _ _ (by decide)]
  exact h

theorem aligned_onQueue_ni
    (h : Aligned (c.mRequestQueues REQUEST_TRACKING) (f (c.mRequestQueues REQUEST_NIRESPONSE))
      (c.mRequestQueues REQUEST_SESSION).mQueue c.mSessionBiDict.view a) :
    (c.onQueue REQUEST_NIRESPONSE f).Aligned a := by
  unfold Client.Aligned
  rw [Client.onQueue_self, Client.onQueue_of_ne _ _ (by decide), Client.onQueue_of_ne _ _ (by decide)]
  exact h

theorem aligned_onQueue_session {d : BiDict SessionEntity} {v : BiDictView SessionEntity}
    (hview : d.view = v)
    (h : Aligned (c.mRequestQueues REQUEST_TRACKING) (c.mRequestQueues REQUEST_NIRESPONSE)
      (f (c.mRequestQueues REQUEST_SESSION)).mQueue v a) :
    ({ c.onQueue REQUEST_SESSION f with mSessionBiDict := d } : Client).Aligned a := by
  subst hview
  unfold Client.Aligned
  dsimp only
  rw [Client.onQueue_self, Client.onQueue_of_ne _ _ (by decide), Client.onQueue_of_ne _ _ (by decide)]
  exact h

end

/-! ## The adapter takes a call -/

section
variable {tracking ni tracking' ni' : ClientQueue} {shared shared' : List LocationAPIRequest}
variable {d : BiDictView SessionEntity} {a a' : Adapter} {m : Call} {rest : List Call}

/-- What the queues must be once the call `m` is taken. -/
theorem Aligned.taken (h : Aligned tracking ni shared d a) (hp : a.pending = m :: rest)
    (hp' : a'.pending = rest) (hs : a'.sessions = a.sessions)
    (hg : ∀ s, a.Gone s → a'.Gone s) (ht : tracking'.mSession = tracking.mSession)
    (htq : ∃ stale, tracking'.mQueue =
        stale ++ requestsFor REQUEST_TRACKING tracking.mSession rest ∧
      (stale ≠ [] → a'.Gone tracking.mSession))
    (hnq : ni'.mQueue = requestsFor REQUEST_NIRESPONSE ni'.mSession rest)
    (hsq : shared' = requestsOf REQUEST_SESSION rest) : Aligned tracking' ni' shared' d a' := by
  have hsub : ∀ x ∈ a'.pending, x ∈ a.pending := by
    rw [hp, hp']
    exact fun x hx => List.mem_cons_of_mem m hx
  exact
    { trackingQueue := by rw [ht, hp']; exact htq
      niQueue := by rw [hp']; exact hnq
      sharedQueue := by rw [hp']; exact hsq
      held := fun x hx ho hr => (h.held x (hsub x hx) ho hr).imp_right (hg _)
      replaced := fun x hx => h.replaced x (hsub x hx)
      niApart := by rw [ht]; exact fun x hx => h.niApart x (hsub x hx)
      tracked := by rw [ht, hs]; exact h.tracked
      owned := by rw [hs]; exact h.owned
      inStep := h.inStep
      entity := h.entity }

end

/-- A call that gets no answer stays in the tracking queue, whose session is gone. -/
theorem Client.Aligned.drop {c : Client} {a : Adapter} {m : Call} {rest : List Call}
    (h : c.Aligned a) (ok : a.Ok) (hp : a.pending = m :: rest) (ha : ¬ a.answers m)
    (hreq : m.origin = REQUEST_SESSION → m.request = none) : c.Aligned (a.drop rest) := by
  have hmem : m ∈ a.pending := hp ▸ List.mem_cons_self ..
  have hgone := ok.gone_of_not_answers hp ha
  have hni : m.origin ≠ REQUEST_NIRESPONSE := fun hni => by
    simp [Adapter.answers, ((ok.wellSent m hmem).ni hni).2] at ha
  obtain ⟨stale, htq, hstale⟩ := h.trackingQueue
  have hnq := h.niQueue
  have hsq := h.sharedQueue
  rw [hp, requestsFor_cons] at htq hnq
  rw [hp, requestsOf_cons] at hsq
  refine Location.Aligned.taken h hp rfl rfl (fun s hg => hg.drop hp) rfl ?_ ?_ ?_
  · by_cases hm : m.origin = REQUEST_TRACKING ∧
        m.session = (c.mRequestQueues REQUEST_TRACKING).mSession
    · rw [if_pos hm, ← List.append_assoc] at htq
      exact ⟨_, htq, fun _ => hm.2 ▸ hgone⟩
    · rw [if_neg hm, List.nil_append] at htq
      exact ⟨stale, htq, fun hne => (hstale hne).drop hp⟩
  · simpa [hni] using hnq
  · by_cases hm : m.origin = REQUEST_SESSION
    · simpa [hm, hreq hm] using hsq
    · simpa [hm] using hsq

section
variable {c : Client} {a : Adapter} {m : Call} {rest : List Call}

/-- No network-initiated response of this number is on its way. -/
theorem Client.Aligned.niQueue_nil (h : c.Aligned a) (ok : a.Ok) (hp : a.pending = m :: rest)
    (hm : m.origin ≠ REQUEST_NIRESPONSE)
    (hs : (c.mRequestQueues REQUEST_NIRESPONSE).mSession = m.session) :
    (c.mRequestQueues REQUEST_NIRESPONSE).mQueue = [] := by
  have hfirst := ok.niFirst
  rw [hp, List.pairwise_cons] at hfirst
  rw [h.niQueue, hp, requestsFor_cons, if_neg (fun ho => hm ho.1), List.nil_append]
  exact requestsFor_eq_nil fun x hx ho => hs ▸ (hfirst.1 x hx ho).symm

/-- The call is one that no request was pushed for. -/
theorem Client.Aligned.next_unrequested (h : c.Aligned a) (hp : a.pending = m :: rest)
    (hm : m.origin = REQUEST_SESSION) (hr : m.request = none) (error : LocationError) :
    c.Aligned (a.next m rest error) := by
  obtain ⟨stale, htq, hstale⟩ := h.trackingQueue
  have hnq := h.niQueue
  have hsq := h.sharedQueue
  rw [hp, requestsFor_cons, if_neg (by simp [hm]), List.nil_append] at htq hnq
  rw [hp, requestsOf_cons, if_pos hm, hr, Option.toList_none, List.nil_append] at hsq
  exact Location.Aligned.taken h hp rfl rfl (fun s hg => hg.next hp error) rfl
    ⟨stale, htq, fun hne => (hstale hne).next hp error⟩ hnq hsq

/-- A response to an operation of `locAPIStartTracking` and its siblings. -/
theorem Client.Aligned.answer_tracking (h : c.Aligned a) (ok : a.Ok)
    (hp : a.pending = m :: rest) (ha : a.answers m) (hm : m.origin = REQUEST_TRACKING)
    (hs : (c.mRequestQueues REQUEST_TRACKING).mSession = m.session) (error : LocationError) :
    (c.getRequestBySession m.session).1 = m.request ∧
      (c.getRequestBySession m.session).2.Aligned (a.next m rest error) ∧
      (c.getRequestBySession m.session).2.mSessionBiDict = c.mSessionBiDict := by
  have hmem : m ∈ a.pending := hp ▸ List.mem_cons_self ..
  have hni : m.origin ≠ REQUEST_NIRESPONSE := by simp [hm]
  obtain ⟨stale, htq, hstale⟩ := h.trackingQueue
  have hnil : stale = [] := by
    by_contra hne
    exact ok.not_gone hp ha hni (hs ▸ hstale hne)
  obtain ⟨r, hr⟩ := Option.ne_none_iff_exists'.mp ((ok.wellSent m hmem).requested (by simp [hm]))
  rw [hnil, List.nil_append, hp, requestsFor_cons, if_pos ⟨hm, hs.symm⟩, hr] at htq
  have hnq := h.niQueue
  have hsq := h.sharedQueue
  rw [hp, requestsFor_cons, if_neg fun ho => hni ho.1, List.nil_append] at hnq
  rw [hp, requestsOf_cons, if_neg (by simp [hm]), List.nil_append] at hsq
  rw [getRequest_tracking hs htq]
  refine ⟨hr.symm, ?_, rfl⟩
  show (c.onQueue REQUEST_TRACKING fun q => q.pop.2).Aligned (a.next m rest error)
  refine aligned_onQueue_tracking ?_
  refine Location.Aligned.taken h hp rfl rfl (fun s hg => hg.next hp error) rfl
    ⟨[], ?_, fun hne => absurd rfl hne⟩ hnq hsq
  simp [RequestQueue.pop, htq]

/-- A response to an operation of `locAPIStartSession` and its siblings. -/
theorem Client.Aligned.answer_session (h : c.Aligned a) (ok : a.Ok)
    (hp : a.pending = m :: rest) (ha : a.answers m) (hm : m.origin = REQUEST_SESSION)
    (error : LocationError) :
    (c.getRequestBySession m.session).1 = m.request ∧
      (c.getRequestBySession m.session).2.Aligned (a.next m rest error) ∧
      (c.getRequestBySession m.session).2.mSessionBiDict = c.mSessionBiDict := by
  have hmem : m ∈ a.pending := hp ▸ List.mem_cons_self ..
  have hni : m.origin ≠ REQUEST_NIRESPONSE := by simp [hm]
  have hs := Location.Aligned.not_tracked h ok (hm ▸ ok.owned m hmem hni)
  rw [getRequest_shared hs (h.niQueue_nil ok hp hni)]
  cases hr : m.request with
  | none =>
    rw [h.replaced m hmem hm hr]
    exact ⟨rfl, h.next_unrequested hp hm hr error, rfl⟩
  | some r =>
    have hheld : c.mSessionBiDict.view.hasSession m.session = true :=
      (h.held m hmem hm (by simp [hr])).resolve_right (ok.not_gone hp ha hni)
    obtain ⟨stale, htq, hstale⟩ := h.trackingQueue
    have hnq := h.niQueue
    have hsq := h.sharedQueue
    rw [hp, requestsFor_cons, if_neg (by simp [hm]), List.nil_append] at htq hnq
    rw [hp, requestsOf_cons, if_pos hm, hr] at hsq
    rw [hheld, if_pos rfl, popQueue_of_cons hsq]
    refine ⟨rfl, ?_, rfl⟩
    refine @aligned_onQueue_session c _ (fun q => q.pop.2) c.mSessionBiDict _ rfl ?_
    refine Location.Aligned.taken h hp rfl rfl (fun s hg => hg.next hp error) rfl
      ⟨stale, htq, fun hne => (hstale hne).next hp error⟩ hnq ?_
    simp [RequestQueue.pop, hsq]

/-- A response to `locAPIGnssNiResponse`. -/
theorem Client.Aligned.answer_ni (h : c.Aligned a) (ok : a.Ok) (hp : a.pending = m :: rest)
    (hm : m.origin = REQUEST_NIRESPONSE)
    (hn : (c.mRequestQueues REQUEST_NIRESPONSE).mSession = m.session) (error : LocationError) :
    (c.getRequestBySession m.session).1 = m.request ∧
      (c.getRequestBySession m.session).2.Aligned (a.next m rest error) ∧
      (c.getRequestBySession m.session).2.mSessionBiDict = c.mSessionBiDict := by
  have hmem : m ∈ a.pending := hp ▸ List.mem_cons_self ..
  have hs := h.niApart m hmem hm
  obtain ⟨r, hr⟩ := Option.ne_none_iff_exists'.mp ((ok.wellSent m hmem).requested (by simp [hm]))
  obtain ⟨stale, htq, hstale⟩ := h.trackingQueue
  have hnq := h.niQueue
  have hsq := h.sharedQueue
  rw [hp, requestsFor_cons, if_neg (by simp [hm]), List.nil_append] at htq
  rw [hp, requestsFor_cons, if_pos ⟨hm, hn.symm⟩, hr] at hnq
  rw [hp, requestsOf_cons, if_neg (by simp [hm]), List.nil_append] at hsq
  rw [getRequest_ni hs.symm hn hnq]
  refine ⟨hr.symm, ?_, rfl⟩
  show (c.onQueue REQUEST_NIRESPONSE fun q => q.pop.2).Aligned (a.next m rest error)
  refine aligned_onQueue_ni ?_
  refine Location.Aligned.taken h hp rfl rfl (fun s hg => hg.next hp error) rfl
    ⟨stale, htq, fun hne => (hstale hne).next hp error⟩ ?_ hsq
  simp [RequestQueue.pop, hnq]

/-- **A response pops the request pushed for its call**, and the queues agree
with the calls that are left. -/
theorem Client.Aligned.answer (h : c.Aligned a) (ok : a.Ok) (hp : a.pending = m :: rest)
    (ha : a.answers m)
    (hintime : m.origin ≠ REQUEST_SESSION → m.session = (c.mRequestQueues m.origin).getSession)
    (error : LocationError) :
    (c.getRequestBySession m.session).1 = m.request ∧
      (c.getRequestBySession m.session).2.Aligned (a.next m rest error) ∧
      (c.getRequestBySession m.session).2.mSessionBiDict = c.mSessionBiDict := by
  have hmem : m ∈ a.pending := hp ▸ List.mem_cons_self ..
  cases hm : m.origin with
  | REQUEST_TRACKING =>
    have hs := (hintime (by simp [hm])).symm
    rw [hm] at hs
    exact h.answer_tracking ok hp ha hm hs error
  | REQUEST_SESSION => exact h.answer_session ok hp ha hm error
  | REQUEST_GEOFENCE => exact absurd hm (ok.wellSent m hmem).origin
  | REQUEST_NIRESPONSE =>
    have hn := (hintime (by simp [hm])).symm
    rw [hm] at hn
    exact h.answer_ni ok hp hm hn error

/-! ### What the request does -/

/-- The entry of the session is removed. -/
theorem view_removeSession {c : Client} {id session : Nat} (hin : c.mSessionBiDict.view.InStep)
    (hm : c.mSessionBiDict.view.Maps id session) :
    (c.removeSession session).mSessionBiDict.view = c.mSessionBiDict.view.rmById id := by
  rw [Client.removeSession, if_pos ((BiDict.hasSession_iff hin).mpr ⟨id, hm⟩)]
  show (c.mSessionBiDict.rmBySession session).view = _
  rw [BiDict.view_rmBySession, hin.rm_eq hm]

/-- The entry of a session that is gone is removed, and no other. -/
theorem Client.Aligned.removeSession {session : Nat} (h : c.Aligned a) (hg : a.Gone session) :
    (c.removeSession session).Aligned a ∧
      ∀ id x, c.mSessionBiDict.view.Maps id x →
        (c.removeSession session).mSessionBiDict.view.Maps id x ∨ x = session := by
  by_cases hheld : c.mSessionBiDict.hasSession session = true
  · obtain ⟨id, hm⟩ := (BiDict.hasSession_iff h.inStep).mp hheld
    have hrm := view_removeSession h.inStep hm
    refine ⟨?_, fun id' x hx => ?_⟩
    · have hqueues : (c.removeSession session).mRequestQueues = c.mRequestQueues := by
        rw [Client.removeSession, if_pos hheld]
      unfold Client.Aligned
      rw [hrm, hqueues]
      exact Location.Aligned.remove h hm fun _ _ _ _ _ => hg
    · rw [hrm, BiDictView.maps_rmById]
      by_cases hid : id' = id
      · subst hid
        exact .inr (Option.some.inj (hx.symm.trans hm))
      · exact .inl ⟨hid, hx⟩
  · rw [Client.removeSession, if_neg hheld]
    exact ⟨h, fun _ _ hx => .inl hx⟩

theorem needsSession_of_stops {kind : CallKind} (h : kind.stops = true) :
    kind.needsSession = true := by
  cases kind <;> simp_all [CallKind.stops, CallKind.needsSession]

/-- A response to a network request ends no session. -/
theorem Call.WellSent.not_ni_of_ends (hw : m.WellSent) {error : LocationError}
    (hcause : m.Ends error) : m.origin ≠ REQUEST_NIRESPONSE := by
  intro hni
  obtain ⟨hns, hnn⟩ := hw.ni hni
  obtain ⟨hs, _⟩ | ⟨hs, _⟩ := hcause
  · rw [hns] at hs
    cases hs
  · rw [needsSession_of_stops hs] at hnn
    cases hnn

/-- **A response keeps the queues and the calls in agreement**, and an entry
leaves only if its own start failed or its own stop succeeded. -/
theorem Client.Aligned.onResponseCb (h : c.Aligned a) (ok : a.Ok) (hp : a.pending = m :: rest)
    (ha : a.answers m)
    (hintime : m.origin ≠ REQUEST_SESSION → m.session = (c.mRequestQueues m.origin).getSession)
    (error : LocationError) :
    (c.onResponseCb error m.session).Aligned (a.next m rest error) ∧
      ∀ id x, c.mSessionBiDict.view.Maps id x →
        (c.onResponseCb error m.session).mSessionBiDict.view.Maps id x ∨
          m.session = x ∧ m.Ends error := by
  have hmem : m ∈ a.pending := hp ▸ List.mem_cons_self ..
  have hw := ok.wellSent m hmem
  obtain ⟨hown, halign, hdict⟩ := h.answer ok hp ha hintime error
  unfold Client.onResponseCb
  cases hget : c.getRequestBySession m.session with
  | mk popped c' =>
    rw [hget] at hown halign hdict
    cases popped with
    | none => exact ⟨halign, fun id x hx => .inl (hdict ▸ hx)⟩
    | some request =>
      have hfits := hw.fits request hown.symm
      -- a request that removes the entry was pushed for a start or a stop
      have hremove : m.Ends error →
          (c'.removeSession m.session).Aligned (a.next m rest error) ∧
            ∀ id x, c.mSessionBiDict.view.Maps id x →
              (c'.removeSession m.session).mSessionBiDict.view.Maps id x ∨
                m.session = x ∧ m.Ends error := by
        intro hcause
        obtain ⟨hal, hkept⟩ :=
          halign.removeSession (ok.gone_of_removed hp (hw.not_ni_of_ends hcause) hcause)
        exact ⟨hal, fun id x hx => (hkept id x (hdict ▸ hx)).imp_right
          fun heq => ⟨heq.symm, hcause⟩⟩
      have hkeep : c'.Aligned (a.next m rest error) ∧
          ∀ id x, c.mSessionBiDict.view.Maps id x → c'.mSessionBiDict.view.Maps id x ∨
            m.session = x ∧ m.Ends error :=
        ⟨halign, fun id x hx => .inl (hdict ▸ hx)⟩
      dsimp only
      unfold LocationAPIRequest.onResponse
      unfold LocationAPIRequest.Fits at hfits
      split
      all_goals rename_i hcls
      all_goals simp only [hcls] at hfits
      · split
        · exact hremove (.inl ⟨hfits, ‹_›⟩)
        · exact hkeep
      · split
        · exact hremove (.inl ⟨hfits, ‹_›⟩)
        · exact hkeep
      · split
        · exact hremove (.inr ⟨hfits, ‹_›⟩)
        · exact hkeep
      · split
        · exact hremove (.inr ⟨hfits, ‹_›⟩)
        · exact hkeep
      · exact hkeep
      · exact hkeep
      · exact hkeep

end

/-! ## The operations -/

section
variable {c : Client} {a : Adapter} {id session : Nat}

/-- What holds between two steps. -/
structure Good (c : Client) (a : Adapter) : Prop where
  aligned : c.Aligned a
  ok : a.Ok

theorem Good.startTracking (h : Good c a) (op : Nat) (hf : a.Fresh session)
    (hapart : c.mTracking = false → ∀ x ∈ a.pending, x.session ≠ session) :
    Good (c.locAPIStartTracking session op).2.1
        ((c.locAPIStartTracking session op).2.2.foldl Adapter.send a) ∧
      (c.locAPIStartTracking session op).2.1.mSessionBiDict = c.mSessionBiDict := by
  unfold Client.locAPIStartTracking
  split
  · split
    · exact ⟨h, rfl⟩
    · rename_i hnot
      have hw : Call.WellSent ⟨.startTracking, session, REQUEST_TRACKING,
          some ⟨StartTrackingRequest, op⟩⟩ := by
        constructor <;>
          simp [CallKind.starts, CallKind.needsSession, LocationAPIRequest.Fits]
      have hsend := Aligned.send_start_tracking
        (m := ⟨.startTracking, session, REQUEST_TRACKING, some ⟨StartTrackingRequest, op⟩⟩)
        h.aligned (hapart (by simpa using hnot)) rfl rfl rfl rfl
      have haligned := aligned_onQueue_tracking
        (f := fun q => (q.reset session).push ⟨StartTrackingRequest, op⟩) hsend
      exact ⟨⟨haligned, h.ok.send_start hw rfl hf⟩, rfl⟩
  · exact ⟨h, rfl⟩

/-- `stopTracking` and `updateTrackingOptions` of the session that is tracked. -/
theorem Good.send_tracking (h : Good c a) {kind : CallKind} {request : LocationAPIRequest}
    (hpos : 0 < (c.mRequestQueues REQUEST_TRACKING).getSession)
    (hs : kind.starts = false) (hneeds : kind.needsSession = true) (hfits : request.Fits kind) :
    Good (c.onQueue REQUEST_TRACKING fun q => q.push request)
      (a.send ⟨kind, (c.mRequestQueues REQUEST_TRACKING).getSession, REQUEST_TRACKING,
        some request⟩) := by
  have hw : Call.WellSent ⟨kind, (c.mRequestQueues REQUEST_TRACKING).getSession,
      REQUEST_TRACKING, some request⟩ := by
    constructor <;> simp [hs, hneeds, hfits]
  have hown := h.aligned.tracked.resolve_left (Nat.ne_of_gt hpos)
  have hsend := Aligned.send_tracking
    (m := ⟨kind, (c.mRequestQueues REQUEST_TRACKING).getSession, REQUEST_TRACKING, some request⟩)
    h.aligned rfl hs rfl rfl
  exact ⟨aligned_onQueue_tracking hsend,
    h.ok.send_other hw hs (fun _ => hown) fun hni => nomatch hni⟩

theorem Good.stopTracking (h : Good c a) (op : Nat) :
    Good (c.locAPIStopTracking op).1 ((c.locAPIStopTracking op).2.foldl Adapter.send a) ∧
      (c.locAPIStopTracking op).1.mSessionBiDict = c.mSessionBiDict := by
  unfold Client.locAPIStopTracking
  dsimp only
  split
  · rename_i hc
    have hsend : Good (c.onQueue REQUEST_TRACKING fun q => q.push ⟨StopTrackingRequest, op⟩)
        (a.send ⟨.stopTracking, _, REQUEST_TRACKING, some ⟨StopTrackingRequest, op⟩⟩) :=
      h.send_tracking hc.2 rfl rfl rfl
    exact ⟨⟨hsend.aligned, hsend.ok⟩, rfl⟩
  · exact ⟨h, rfl⟩

theorem Good.updateTrackingOptions (h : Good c a) (op : Nat) :
    Good (c.locAPIUpdateTrackingOptions op).1
        ((c.locAPIUpdateTrackingOptions op).2.foldl Adapter.send a) ∧
      (c.locAPIUpdateTrackingOptions op).1.mSessionBiDict = c.mSessionBiDict := by
  unfold Client.locAPIUpdateTrackingOptions
  dsimp only
  split
  · rename_i hc
    exact ⟨h.send_tracking hc.2 rfl rfl trivial, rfl⟩
  · exact ⟨h, rfl⟩

theorem Good.gnssNiResponse (h : Good c a) (response : GnssNiResponse) (op : Nat)
    (hne : id ≠ (c.mRequestQueues REQUEST_TRACKING).getSession)
    (hapart : ∀ x ∈ a.pending, x.session ≠ id) :
    Good (c.locAPIGnssNiResponse id response op).1
        ((c.locAPIGnssNiResponse id response op).2.foldl Adapter.send a) ∧
      (c.locAPIGnssNiResponse id response op).1.mSessionBiDict = c.mSessionBiDict := by
  unfold Client.locAPIGnssNiResponse
  split
  · have hw : Call.WellSent ⟨.gnssNiResponse response, id, REQUEST_NIRESPONSE,
        some ⟨GnssNiResponseRequest, op⟩⟩ := by
      constructor <;> simp [CallKind.starts, CallKind.needsSession, LocationAPIRequest.Fits]
    have hsend := Aligned.send_ni
      (m := ⟨.gnssNiResponse response, id, REQUEST_NIRESPONSE, some ⟨GnssNiResponseRequest, op⟩⟩)
      h.aligned hne hapart rfl rfl rfl rfl
    have haligned := aligned_onQueue_ni
      (f := fun q => (q.reset id).push ⟨GnssNiResponseRequest, op⟩) hsend
    exact ⟨⟨haligned, h.ok.send_other hw rfl (fun hni => absurd rfl hni) fun _ => hapart⟩, rfl⟩
  · exact ⟨h, rfl⟩

/-! ### Sessions -/

/-- The start of a session for a new id, whichever operation sends it. -/
theorem Good.send_start_session (h : Good c a) {kind : CallKind} {request : LocationAPIRequest}
    {e : SessionEntity} (hf : a.Fresh session) (hid : c.mSessionBiDict.view.hasId id = false)
    (he : e.session = session) (hs : kind.starts = true) (hneeds : kind.needsSession = false)
    (hfits : request.Fits kind)
    (hq : (f (c.mRequestQueues REQUEST_SESSION)).mQueue =
      (c.mRequestQueues REQUEST_SESSION).mQueue ++ [request]) :
    Good { c.onQueue REQUEST_SESSION f with mSessionBiDict := c.mSessionBiDict.set id session e }
      (a.send ⟨kind, session, REQUEST_SESSION, some request⟩) := by
  have hw : Call.WellSent ⟨kind, session, REQUEST_SESSION, some request⟩ := by
    constructor <;> simp [hs, hneeds, hfits]
  have hsend := Aligned.send_start_session
    (m := ⟨kind, session, REQUEST_SESSION, some request⟩) h.aligned h.ok hf hid he rfl hs rfl rfl
  rw [← hq] at hsend
  exact ⟨aligned_onQueue_session BiDict.view_set hsend, h.ok.send_start hw hs hf⟩

/-- Any other call about a session that is held. -/
theorem Good.send_session (h : Good c a) {kind : CallKind} {request : LocationAPIRequest}
    (hheld : c.mSessionBiDict.view.hasSession session = true) (hs : kind.starts = false)
    (hneeds : kind.needsSession = true) (hfits : request.Fits kind) :
    Good (c.onQueue REQUEST_SESSION fun q => q.push request)
      (a.send ⟨kind, session, REQUEST_SESSION, some request⟩) := by
  have hw : Call.WellSent ⟨kind, session, REQUEST_SESSION, some request⟩ := by
    constructor <;> simp [hs, hneeds, hfits]
  have hsend := Aligned.send_session
    (m := ⟨kind, session, REQUEST_SESSION, some request⟩) h.aligned hheld rfl hs rfl rfl
  have hown := h.aligned.owned session hheld
  have haligned := aligned_onQueue_session (f := fun q => q.push request) rfl hsend
  exact ⟨haligned, h.ok.send_other hw hs (fun _ => hown) fun hni => nomatch hni⟩

theorem Good.startSession (h : Good c a) (sessionMode : SessionMode) (op : Nat)
    (hf : a.Fresh session) :
    Good (c.locAPIStartSession id sessionMode session op).2.1
        ((c.locAPIStartSession id sessionMode session op).2.2.foldl Adapter.send a) ∧
      ∀ x y, c.mSessionBiDict.view.Maps x y →
        (c.locAPIStartSession id sessionMode session op).2.1.mSessionBiDict.view.Maps x y := by
  have hkept : c.mSessionBiDict.view.hasId id = false → ∀ (e : SessionEntity) x y,
      c.mSessionBiDict.view.Maps x y → (c.mSessionBiDict.set id session e).view.Maps x y := by
    intro hid e x y hxy
    rw [BiDict.view_set]
    refine BiDictView.maps_set.mpr (.inr ⟨fun hx => ?_, hxy⟩)
    have hfront : c.mSessionBiDict.view.mForwardMap x = some y := hxy
    rw [BiDictView.hasId, ← hx, hfront] at hid
    cases hid
  unfold Client.locAPIStartSession
  split
  · split
    · exact ⟨h, fun _ _ hxy => hxy⟩
    · rename_i hnot
      have hid : c.mSessionBiDict.view.hasId id = false := by
        rw [← BiDict.hasId_eq]
        exact Bool.eq_false_iff.mpr hnot
      split
      · rename_i hmode
        have he : SessionEntity.session ⟨id, session, 0, sessionMode⟩ = session := by
          simp [SessionEntity.session, hmode]
        exact ⟨h.send_start_session hf hid he rfl rfl rfl rfl, hkept hid _⟩
      · rename_i hmode
        have he : SessionEntity.session ⟨id, 0, session, sessionMode⟩ = session := by
          simp [SessionEntity.session, hmode]
        exact ⟨h.send_start_session hf hid he rfl rfl rfl rfl, hkept hid _⟩
  · exact ⟨h, fun _ _ hxy => hxy⟩

/-- What the client knows of an id is about the session it is mapped to. -/
theorem Good.session_getExtById (h : Good c a) (hm : c.mSessionBiDict.view.Maps id session) :
    (c.mSessionBiDict.getExtById .zero id).session = session := by
  obtain ⟨e, he, hes⟩ := h.aligned.entity id session hm
  have hheld := h.aligned.inStep.hasSession_iff.mpr ⟨id, hm⟩
  have hpos : 0 < session := Nat.pos_of_ne_zero (h.ok.nonzero (h.aligned.owned session hheld))
  have hfront : c.mSessionBiDict.view.mForwardMap id = some session := hm
  rw [BiDict.getExtById_eq]
  simp [BiDictView.getExtById, hfront, hpos, he, hes]

theorem Good.stopSession (h : Good c a) (id op : Nat) :
    Good (c.locAPIStopSession id op).2.1
        ((c.locAPIStopSession id op).2.2.foldl Adapter.send a) ∧
      (c.locAPIStopSession id op).2.1.mSessionBiDict = c.mSessionBiDict := by
  unfold Client.locAPIStopSession
  split
  · split
    · rename_i hid
      rw [BiDict.hasId_eq] at hid
      obtain ⟨session, hm⟩ := Option.isSome_iff_exists.mp hid
      have hheld := h.aligned.inStep.hasSession_iff.mpr ⟨id, hm⟩
      have hes := h.session_getExtById hm
      dsimp only
      split
      · rename_i hmode
        rw [SessionEntity.session_of_fix hmode] at hes
        rw [hes]
        exact ⟨h.send_session hheld rfl rfl rfl, rfl⟩
      · rename_i hmode
        rw [SessionEntity.session_of_batch hmode] at hes
        rw [hes]
        exact ⟨h.send_session hheld rfl rfl rfl, rfl⟩
    · exact ⟨h, rfl⟩
  · exact ⟨h, rfl⟩

/-- An update that keeps the session. -/
theorem Good.update_kept (h : Good c a) (hm : c.mSessionBiDict.view.Maps id session)
    {e : SessionEntity} (he : e.session = session) {kind : CallKind}
    {request : LocationAPIRequest} (hs : kind.starts = false) (hneeds : kind.needsSession = true)
    (hfits : request.Fits kind) :
    Good
      { c.onQueue REQUEST_SESSION fun q => q.push request with
        mSessionBiDict := (c.mSessionBiDict.rmById id).set id session e }
      (a.send ⟨kind, session, REQUEST_SESSION, some request⟩) := by
  have hview : ((c.mSessionBiDict.rmById id).set id session e).view =
      (c.mSessionBiDict.view.rmById id).set id session e := by
    rw [BiDict.view_set, BiDict.view_rmById]
  have hredo : Good { c with mSessionBiDict := (c.mSessionBiDict.rmById id).set id session e } a := by
    refine ⟨?_, h.ok⟩
    show Aligned _ _ _ ((c.mSessionBiDict.rmById id).set id session e).view a
    rw [hview]
    exact h.aligned.redo hm he
  have hheld : ((c.mSessionBiDict.rmById id).set id session e).view.hasSession session = true := by
    rw [hview]
    exact BiDictView.hasSession_set.mpr (.inl rfl)
  have hsend := @Good.send_session _ _ session hredo _ request hheld hs hneeds hfits
  exact ⟨hsend.aligned, hsend.ok⟩

/-- An update that replaces the session by one of the other kind. -/
theorem Good.update_replaced (h : Good c a) {old : Nat} (hm : c.mSessionBiDict.view.Maps id old)
    (hnone : ∀ x ∈ a.pending, x.session = old → x.origin = REQUEST_SESSION → x.request = none)
    (hf : a.Fresh session) {e : SessionEntity} (he : e.session = session) {stop kind : CallKind}
    {request : LocationAPIRequest} (hstop : stop.starts = false)
    (hstopNeeds : stop.needsSession = true) (hs : kind.starts = true)
    (hneeds : kind.needsSession = false) (hfits : request.Fits kind)
    (hq : (f (c.mRequestQueues REQUEST_SESSION)).mQueue =
      (c.mRequestQueues REQUEST_SESSION).mQueue ++ [request]) :
    Good
      { c.onQueue REQUEST_SESSION f with
        mSessionBiDict := (c.mSessionBiDict.rmById id).set id session e }
      ((a.send ⟨stop, old, REQUEST_SESSION, none⟩).send
        ⟨kind, session, REQUEST_SESSION, some request⟩) := by
  have hw : Call.WellSent ⟨stop, old, REQUEST_SESSION, none⟩ := by
    constructor <;> simp [hstop, hstopNeeds]
  have hown := h.aligned.owned old (h.aligned.inStep.hasSession_iff.mpr ⟨id, hm⟩)
  have hsend := Aligned.send_replaced (m := ⟨stop, old, REQUEST_SESSION, none⟩) h.aligned hm hnone
    rfl hstop rfl rfl
  have hmid : Good { c with mSessionBiDict := c.mSessionBiDict.rmById id }
      (a.send ⟨stop, old, REQUEST_SESSION, none⟩) := by
    refine ⟨?_, h.ok.send_other hw hstop (fun _ => hown) fun hni => nomatch hni⟩
    show Aligned _ _ _ (c.mSessionBiDict.rmById id).view _
    rw [BiDict.view_rmById]
    exact hsend
  have hfresh : (a.send ⟨stop, old, REQUEST_SESSION, none⟩).Fresh session := by
    unfold Adapter.Fresh
    rw [Adapter.sessions_send_of_not hstop]
    exact hf
  have hid : (c.mSessionBiDict.rmById id).view.hasId id = false := by
    rw [BiDict.view_rmById]
    simp [BiDictView.hasId, BiDictView.rmById]
  have hstart := hmid.send_start_session hfresh hid he hs hneeds hfits hq
  exact ⟨hstart.aligned, hstart.ok⟩

theorem mSessionBiDict_updateEntity (c : Client) (entity : SessionEntity)
    (sessionMode : SessionMode) (session op : Nat) :
    (c.updateEntity entity sessionMode session op).1.mSessionBiDict = c.mSessionBiDict := by
  unfold Client.updateEntity
  split
  · split <;> rfl
  · split <;> rfl

/-- An update of a known session: it is kept in its mode, and replaced if the mode switches. -/
theorem Good.updateEntity (h : Good c a) {old : Nat} (hm : c.mSessionBiDict.view.Maps id old)
    {entity : SessionEntity} (hes : entity.session = old) (sessionMode : SessionMode) (op : Nat)
    (hf : a.Fresh session)
    (hnone : Switches entity sessionMode →
      ∀ x ∈ a.pending, x.session = old → x.origin = REQUEST_SESSION → x.request = none) :
    Good
      { (c.updateEntity entity sessionMode session op).1 with
        mSessionBiDict := (c.mSessionBiDict.rmById id).set id
          (c.updateEntity entity sessionMode session op).2.1.session
          (c.updateEntity entity sessionMode session op).2.1 }
      ((c.updateEntity entity sessionMode session op).2.2.foldl Adapter.send a) := by
  unfold Client.updateEntity
  dsimp only
  split
  · rename_i hmode
    split
    · rename_i hold
      rw [SessionEntity.session_of_fix hold] at hes
      subst hes
      have he : SessionEntity.session { entity with sessionMode := sessionMode } =
          entity.trackingSession := SessionEntity.session_of_fix hmode
      rw [he]
      have hfits : LocationAPIRequest.Fits ⟨UpdateTrackingOptionsRequest, op⟩
          .updateTrackingOptions := trivial
      exact h.update_kept hm he rfl rfl hfits
    · rename_i hold
      rw [SessionEntity.session_of_batch hold] at hes
      have he : SessionEntity.session { entity with
          trackingSession := session, batchingSession := 0,
          sessionMode := sessionMode } = session := SessionEntity.session_of_fix hmode
      have hnone := hnone fun hiff => hold (hiff.mp hmode)
      rw [he, hes, Client.onQueue_onQueue]
      exact h.update_replaced hm hnone hf he rfl rfl rfl rfl trivial rfl
  · rename_i hmode
    split
    · rename_i hold
      rw [SessionEntity.session_of_fix hold] at hes
      have he : SessionEntity.session { entity with
          trackingSession := 0, batchingSession := session,
          sessionMode := sessionMode } = session := SessionEntity.session_of_batch hmode
      have hnone := hnone fun hiff => hmode (hiff.mpr hold)
      rw [he, hes, Client.onQueue_onQueue]
      exact h.update_replaced hm hnone hf he rfl rfl rfl rfl trivial rfl
    · rename_i hold
      rw [SessionEntity.session_of_batch hold] at hes
      subst hes
      have he : SessionEntity.session { entity with sessionMode := sessionMode } =
          entity.batchingSession := SessionEntity.session_of_batch hmode
      rw [he]
      have hfits : LocationAPIRequest.Fits ⟨UpdateBatchingOptionsRequest, op⟩
          (.updateBatchingOptions (batchingMode sessionMode)) := trivial
      exact h.update_kept hm he rfl rfl hfits

theorem Good.updateSessionOptions (h : Good c a) (sessionMode : SessionMode) (op : Nat)
    (hf : a.Fresh session)
    (hnone : ∀ old, c.mSessionBiDict.view.Maps id old →
      Switches (c.mSessionBiDict.getExtById .zero id) sessionMode →
        ∀ x ∈ a.pending, x.session = old → x.origin = REQUEST_SESSION → x.request = none) :
    Good (c.locAPIUpdateSessionOptions id sessionMode session op).2.1
        ((c.locAPIUpdateSessionOptions id sessionMode session op).2.2.foldl Adapter.send a) ∧
      ∀ x y, c.mSessionBiDict.view.Maps x y → x ≠ id →
        (c.locAPIUpdateSessionOptions id sessionMode session op).2.1.mSessionBiDict.view.Maps x y := by
  have hkept : ∀ s (e : SessionEntity) x y, c.mSessionBiDict.view.Maps x y → x ≠ id →
      ((c.mSessionBiDict.rmById id).set id s e).view.Maps x y := by
    intro s e x y hxy hx
    rw [BiDict.view_set, BiDict.view_rmById]
    exact BiDictView.maps_set.mpr (.inr ⟨hx, BiDictView.maps_rmById.mpr ⟨hx, hxy⟩⟩)
  unfold Client.locAPIUpdateSessionOptions
  split
  · split
    · rename_i hid
      rw [BiDict.hasId_eq] at hid
      obtain ⟨old, hm⟩ := Option.isSome_iff_exists.mp hid
      dsimp only
      rw [mSessionBiDict_updateEntity]
      exact ⟨h.updateEntity hm (h.session_getExtById hm) sessionMode op hf (hnone old hm),
        hkept _ _⟩
    · exact ⟨h, fun _ _ hxy _ => hxy⟩
  · exact ⟨h, fun _ _ hxy _ => hxy⟩

end

/-! ## Runs -/

theorem good_init : Good World.init.client World.init.adapter where
  ok := Adapter.ok_init
  aligned :=
    { trackingQueue := ⟨[], rfl, fun hne => absurd rfl hne⟩
      niQueue := rfl
      sharedQueue := rfl
      held := fun _ hx => nomatch hx
      replaced := fun _ hx => nomatch hx
      niApart := fun _ hx => nomatch hx
      tracked := .inl rfl
      owned := fun _ hs => nomatch hs
      inStep := BiDictView.inStep_empty
      entity := fun _ _ hm => nomatch hm }

theorem entriesKept_of_eq {w : World} {e : Event}
    (h : (w.step e).client.mSessionBiDict = w.client.mSessionBiDict) : EntriesKept w e :=
  fun _ _ hm => .inl (h ▸ hm)

/-- What one step does when it leaves nothing behind. -/
theorem good_step (w : World) (e : Event) (h : Good w.client w.adapter) (hf : FreshSession w e)
    (hu : Unambiguous w e) :
    Good (w.step e).client (w.step e).adapter ∧ Matched w e ∧ EntriesKept w e := by
  cases e with
  | startTracking session =>
    obtain ⟨hgood, hdict⟩ := h.startTracking w.ops hf hu
    exact ⟨hgood, trivial, entriesKept_of_eq hdict⟩
  | stopTracking =>
    obtain ⟨hgood, hdict⟩ := h.stopTracking w.ops
    exact ⟨hgood, trivial, entriesKept_of_eq hdict⟩
  | updateTrackingOptions =>
    obtain ⟨hgood, hdict⟩ := h.updateTrackingOptions w.ops
    exact ⟨hgood, trivial, entriesKept_of_eq hdict⟩
  | startSession id sessionMode session =>
    obtain ⟨hgood, hkept⟩ := @Good.startSession _ _ id _ h sessionMode w.ops hf
    exact ⟨hgood, trivial, fun x y hm => .inl (hkept x y hm)⟩
  | stopSession id =>
    obtain ⟨hgood, hdict⟩ := h.stopSession id w.ops
    exact ⟨hgood, trivial, entriesKept_of_eq hdict⟩
  | updateSessionOptions id sessionMode session =>
    obtain ⟨hgood, hkept⟩ := h.updateSessionOptions sessionMode w.ops hf hu
    refine ⟨hgood, trivial, fun x y hm => ?_⟩
    by_cases hx : x = id
    · exact .inr hx
    · exact .inl (hkept x y hm hx)
  | gnssNiResponse id response =>
    obtain ⟨hne, hapart⟩ := hu
    obtain ⟨hgood, hdict⟩ := h.gnssNiResponse response w.ops hne hapart
    exact ⟨hgood, trivial, entriesKept_of_eq hdict⟩
  | adapter error =>
    cases hp : w.adapter.pending with
    | nil =>
      have hstep : w.step (.adapter error) = w := by simp only [World.step, hp]
      rw [hstep]
      exact ⟨h, fun m hm => by simp [hp] at hm, entriesKept_of_eq (by rw [hstep])⟩
    | cons m rest =>
      have hhead : m ∈ w.adapter.pending.head? := by simp [hp]
      obtain ⟨hleft, hintime⟩ := hu m hhead
      by_cases ha : w.adapter.answers m
      · obtain ⟨haligned, hkept⟩ := h.aligned.onResponseCb h.ok hp ha (hintime ha) error
        have hstep : w.step (.adapter error) =
            { w with
              client := w.client.onResponseCb error m.session
              adapter := w.adapter.next m rest error } := by
          simp only [World.step, hp, ha, if_true]
          rfl
        have hmatched := (h.aligned.answer h.ok hp ha (hintime ha) error).1
        refine ⟨?_, ?_, fun x y hm => ?_⟩
        · rw [hstep]
          exact ⟨haligned, h.ok.next hp error⟩
        · intro m' hm' _
          obtain rfl : m' = m := by simpa [hp] using hm'.symm
          exact hmatched
        · rw [hstep]
          exact (hkept x y hm).imp_right fun hend => ⟨m, hhead, hend⟩
      · have hstep : w.step (.adapter error) = { w with adapter := w.adapter.drop rest } := by
          simp only [World.step, hp, ha, if_false]
          rfl
        refine ⟨?_, ?_, entriesKept_of_eq (by rw [hstep])⟩
        · rw [hstep]
          exact ⟨h.aligned.drop h.ok hp ha (hleft ha), h.ok.drop hp⟩
        · intro m' hm' ha'
          obtain rfl : m' = m := by simpa [hp] using hm'.symm
          exact absurd ha' ha

/-- **In every run that leaves no request behind, gives every response before
its queue is emptied and uses no number for two things at once, every response
pops the request of the operation that caused it, and an entry leaves only with
its own start failing, its own stop succeeding or an update replacing it.** -/
theorem requests_matched (es : List Event) (hfresh : Steps World.step FreshSession World.init es)
    (hclear : Steps World.step Unambiguous World.init es) :
    Steps World.step (fun w e => Matched w e ∧ EntriesKept w e) World.init es := by
  have hinv : ∀ w e, Good w.client w.adapter → FreshSession w e ∧ Unambiguous w e →
      Good (w.step e).client (w.step e).adapter ∧ Matched w e ∧ EntriesKept w e :=
    fun w e h hh => good_step w e h hh.1 hh.2
  exact steps_of_inv (I := fun w => Good w.client w.adapter) (fun w e h hh => (hinv w e h hh).2)
    (fun w e h hh => (hinv w e h hh).1) good_init (hfresh.and hclear)

/-- A tracking session, a session that is switched, and a network-initiated
response, with their answers in between. -/
theorem requests_matched_run :
    let es : List Event := [.startTracking 1, .startSession 7 SESSION_MODE_ON_FIX 2,
      .adapter LOCATION_ERROR_SUCCESS, .adapter LOCATION_ERROR_SUCCESS,
      .gnssNiResponse 5 .GNSS_NI_RESPONSE_ACCEPT, .updateSessionOptions 7 SESSION_MODE_ON_FULL 3,
      .stopTracking, .adapter LOCATION_ERROR_SUCCESS, .adapter LOCATION_ERROR_SUCCESS,
      .adapter LOCATION_ERROR_SUCCESS, .stopSession 7, .adapter LOCATION_ERROR_SUCCESS,
      .adapter LOCATION_ERROR_SUCCESS]
    Steps World.step (fun w e => Matched w e ∧ EntriesKept w e) World.init es :=
  requests_matched _ (by decide +kernel) (by decide +kernel)

/-- The second stop of a session is never answered; its request is popped by
the answer to the next start, and removes the session that has just started. -/
theorem second_stop_removes_next_session :
    let es : List Event := [.startSession 1 SESSION_MODE_ON_FIX 1, .stopSession 1, .stopSession 1,
      .adapter LOCATION_ERROR_SUCCESS, .adapter LOCATION_ERROR_SUCCESS,
      .adapter LOCATION_ERROR_SUCCESS, .startSession 2 SESSION_MODE_ON_FIX 2,
      .adapter LOCATION_ERROR_SUCCESS]
    Steps World.step FreshSession World.init es ∧
      ¬ Steps World.step (fun w e => Matched w e ∧ EntriesKept w e) World.init es ∧
      (run World.step World.init es).client.mSessionBiDict.hasId 2 = false := by
  intro es
  have hfresh : Steps World.step FreshSession World.init es := by decide +kernel
  have hwrong : ¬ Steps World.step Matched World.init es := by decide +kernel
  have hgone : (run World.step World.init es).client.mSessionBiDict.hasId 2 = false := by
    decide +kernel
  exact ⟨hfresh, fun h => hwrong (h.mono fun _ _ hh => hh.1), hgone⟩

end DeviceHal.Location
