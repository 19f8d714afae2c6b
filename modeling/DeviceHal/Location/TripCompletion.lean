import DeviceHal.Location.RequestRuns

/-! # Trips that are completed

The adapter ends a batching session by itself when its trip is completed, and
says so with a batching status. `beforeBatchingStatusCb` takes the sessions
from the client's table and passes their ids on. It may come at any point of a
run, and the responses still find their requests. -/
namespace DeviceHal.Location.TripCompletion
open DeviceHal.Lib.Run DeviceHal.Gnss.LocationTypes
open LocationError REQUEST_TYPE

/-! ## The callback -/

inductive BatchingStatus where
  | BATCHING_STATUS_TRIP_COMPLETED
  | BATCHING_STATUS_POSITION_AVAILABE
  | BATCHING_STATUS_POSITION_UNAVAILABLE
deriving DecidableEq

open BatchingStatus

/-- The loop over `tripCompletedList`, with the ids that it has found. -/
def tripLoop (c : Client) (tripCompletedClientIdList : List Nat) : List Nat → Client × List Nat
  | [] => (c, tripCompletedClientIdList)
  | session :: sessions =>
    if c.mSessionBiDict.hasSession session then
      let sessEntity := c.mSessionBiDict.getExtBySession .zero session
      if sessEntity.sessionMode = SESSION_MODE_ON_TRIP_COMPLETED then
        tripLoop { c with mSessionBiDict := c.mSessionBiDict.rmBySession session }
          (tripCompletedClientIdList ++ [sessEntity.id]) sessions
      else tripLoop c tripCompletedClientIdList sessions
    else tripLoop c tripCompletedClientIdList sessions

/-- The client, and the ids that `mBatchingStatusCallback` gets with the status. -/
def beforeBatchingStatusCb (c : Client) (batchingStatus : BatchingStatus)
    (tripCompletedList : List Nat) : Client × List Nat :=
  if batchingStatus = BATCHING_STATUS_TRIP_COMPLETED then tripLoop c [] tripCompletedList
  else (c, [])

/-! ## Runs with completed trips -/

inductive Event where
  | run (e : Location.Event)
  | batchingStatus (batchingStatus : BatchingStatus) (tripCompletedList : List Nat)

/-- The adapter no longer has the sessions whose trip is completed. -/
def completes (a : Adapter) (batchingStatus : BatchingStatus) (tripCompletedList : List Nat) :
    Adapter :=
  if batchingStatus = BATCHING_STATUS_TRIP_COMPLETED then
    { a with live := a.live.filter (· ∉ tripCompletedList) }
  else a

def step (w : World) : Event → World
  | .run e => w.step e
  | .batchingStatus status tripCompletedList =>
    { w with
      client := (beforeBatchingStatusCb w.client status tripCompletedList).1
      adapter := completes w.adapter status tripCompletedList }

/-- `P` holds of the steps that are not about trips. -/
def OfRun (P : World → Location.Event → Prop) (w : World) : Event → Prop
  | .run e => P w e
  | .batchingStatus _ _ => True

/-- A trip is completed only after the adapter has taken the start of its session. -/
def StartTaken (w : World) : Event → Prop
  | .batchingStatus BATCHING_STATUS_TRIP_COMPLETED tripCompletedList =>
    ∀ m ∈ w.adapter.pending, m.session ∈ tripCompletedList → m.kind.starts = false
  | _ => True

/-- The client has the session for `id`, and it ends with its trip. -/
def OnTrip (c : Client) (id session : Nat) : Prop :=
  c.mSessionBiDict.view.Maps id session ∧
    (c.mSessionBiDict.getExtBySession .zero session).sessionMode = SESSION_MODE_ON_TRIP_COMPLETED

/-- The trips are reported, each once, and their entries leave and no other. -/
def Reports (w : World) : Event → Prop
  | .run _ => True
  | .batchingStatus status tripCompletedList =>
    let (c, ids) := beforeBatchingStatusCb w.client status tripCompletedList
    ids.Nodup ∧
      (∀ id, id ∈ ids ↔ status = BATCHING_STATUS_TRIP_COMPLETED ∧
        ∃ session ∈ tripCompletedList, OnTrip w.client id session) ∧
      ∀ id session, c.mSessionBiDict.view.Maps id session ↔
        w.client.mSessionBiDict.view.Maps id session ∧ id ∉ ids

/-! ## Entries know their ids -/

def Named (d : BiDictView SessionEntity) : Prop :=
  ∀ id session, d.Maps id session → ∃ e, d.mExtMap session = some e ∧ e.id = id

section
variable {d : BiDictView SessionEntity} {id session : Nat} {e : SessionEntity}

theorem Named.set (h : Named d) (hin : (d.set id session e).InStep) (he : e.id = id) :
    Named (d.set id session e) := by
  intro x y hxy
  obtain ⟨rfl, rfl⟩ | ⟨hx, hold⟩ := BiDictView.maps_set.mp hxy
  · exact ⟨e, by simp [BiDictView.set], he⟩
  · have hy : y ≠ session := by
      intro heq
      have hback := hin.forward hxy
      rw [heq] at hback
      exact hx (by simpa [BiDictView.set] using hback.symm)
    obtain ⟨e', he', hid⟩ := h x y hold
    exact ⟨e', by simp [BiDictView.set, hy, he'], hid⟩

theorem Named.rmById (h : Named d) (hin : d.InStep) (hm : d.Maps id session) :
    Named (d.rmById id) := by
  intro x y hxy
  obtain ⟨hx, hold⟩ := BiDictView.maps_rmById.mp hxy
  have hy : y ≠ session := by
    intro heq
    have hback := hin.forward hold
    rw [heq, hin.forward hm] at hback
    exact hx (Option.some.inj hback).symm
  have hfront : d.mForwardMap id = some session := hm
  obtain ⟨e', he', hid⟩ := h x y hold
  exact ⟨e', by simp [BiDictView.rmById, hfront, hy, he'], hid⟩

end

section
variable {c : Client} {a : Adapter}

theorem named_removeSession (h : Named c.mSessionBiDict.view) (hin : c.mSessionBiDict.view.InStep)
    (session : Nat) : Named (c.removeSession session).mSessionBiDict.view := by
  by_cases hheld : c.mSessionBiDict.hasSession session = true
  · obtain ⟨id, hm⟩ := (BiDict.hasSession_iff hin).mp hheld
    rw [view_removeSession hin hm]
    exact h.rmById hin hm
  · rw [Client.removeSession, if_neg hheld]
    exact h

theorem getRequestBySession_dict (c : Client) (session : Nat) :
    (c.getRequestBySession session).2.mSessionBiDict = c.mSessionBiDict := by
  have hpop (c : Client) (i : REQUEST_TYPE) :
      (c.popQueue i).2.mSessionBiDict = c.mSessionBiDict := rfl
  unfold Client.getRequestBySession
  cases hq : c.queueOfSession session with
  | none =>
    dsimp only
    split
    · exact hpop c _
    · rfl
  | some i =>
    dsimp only
    cases hr : (c.popQueue i).1 with
    | some request => exact hpop c i
    | none =>
      dsimp only
      split
      · exact (hpop _ _).trans (hpop c i)
      · exact hpop c i

theorem onResponse_dict (request : LocationAPIRequest) (c : Client) (error : LocationError)
    (id : Nat) : request.onResponse c error id = c ∨
      request.onResponse c error id = c.removeSession id := by
  unfold LocationAPIRequest.onResponse
  split <;> first | exact .inl rfl | (split <;> first | exact .inr rfl | exact .inl rfl)

theorem named_onResponseCb (h : Named c.mSessionBiDict.view) (hin : c.mSessionBiDict.view.InStep)
    (error : LocationError) (session : Nat) :
    Named (c.onResponseCb error session).mSessionBiDict.view := by
  have hdict := getRequestBySession_dict c session
  unfold Client.onResponseCb
  cases hget : c.getRequestBySession session with
  | mk popped c' =>
    rw [hget] at hdict
    have hdict : c'.mSessionBiDict = c.mSessionBiDict := hdict
    cases popped with
    | none => exact hdict ▸ h
    | some request =>
      dsimp only
      rcases onResponse_dict request c' error session with hsame | hremoved
      · rw [hsame, hdict]
        exact h
      · rw [hremoved]
        exact named_removeSession (hdict ▸ h) (hdict ▸ hin) session

theorem updateEntity_id (c : Client) (entity : SessionEntity) (sessionMode : SessionMode)
    (session op : Nat) : (c.updateEntity entity sessionMode session op).2.1.id = entity.id := by
  unfold Client.updateEntity
  split <;> split <;> rfl

theorem named_getExtById (h : Named c.mSessionBiDict.view) (hgood : Good c a) {id session : Nat}
    (hm : c.mSessionBiDict.view.Maps id session) :
    (c.mSessionBiDict.getExtById .zero id).id = id := by
  obtain ⟨e, he, hid⟩ := h id session hm
  have hheld := hgood.aligned.inStep.hasSession_iff.mpr ⟨id, hm⟩
  have hpos : 0 < session :=
    Nat.pos_of_ne_zero (hgood.ok.nonzero (hgood.aligned.owned session hheld))
  have hfront : c.mSessionBiDict.view.mForwardMap id = some session := hm
  rw [BiDict.getExtById_eq]
  simp [BiDictView.getExtById, hfront, hpos, he, hid]

/-- A start adds an entry that knows its id, or nothing. -/
theorem startSession_dict (c : Client) (id : Nat) (sessionMode : SessionMode) (session op : Nat) :
    (c.locAPIStartSession id sessionMode session op).2.1.mSessionBiDict = c.mSessionBiDict ∨
      ∃ e : SessionEntity, e.id = id ∧
        (c.locAPIStartSession id sessionMode session op).2.1.mSessionBiDict =
          c.mSessionBiDict.set id session e := by
  unfold Client.locAPIStartSession
  split
  · split
    · exact .inl rfl
    · split <;> exact .inr ⟨_, rfl, rfl⟩
  · exact .inl rfl

/-- An update replaces the entry by one with the same id. -/
theorem updateSessionOptions_dict (c : Client) (id : Nat) (sessionMode : SessionMode)
    (session op : Nat) :
    (c.locAPIUpdateSessionOptions id sessionMode session op).2.1.mSessionBiDict =
        c.mSessionBiDict ∨
      ∃ old s, ∃ e : SessionEntity, c.mSessionBiDict.view.Maps id old ∧
        e.id = (c.mSessionBiDict.getExtById .zero id).id ∧
        (c.locAPIUpdateSessionOptions id sessionMode session op).2.1.mSessionBiDict =
          (c.mSessionBiDict.rmById id).set id s e := by
  unfold Client.locAPIUpdateSessionOptions
  split
  · split
    · rename_i hid
      rw [BiDict.hasId_eq] at hid
      obtain ⟨old, hm⟩ := Option.isSome_iff_exists.mp hid
      let entity := c.mSessionBiDict.getExtById .zero id
      refine .inr ⟨old, (c.updateEntity entity sessionMode session op).2.1.session, _, hm,
        updateEntity_id c entity sessionMode session op, ?_⟩
      dsimp only
      rw [mSessionBiDict_updateEntity]
    · exact .inl rfl
  · exact .inl rfl

end

theorem named_step {w : World} {e : Location.Event} (h : Good w.client w.adapter)
    (hf : FreshSession w e) (hu : Unambiguous w e) (hn : Named w.client.mSessionBiDict.view) :
    Named (w.step e).client.mSessionBiDict.view := by
  have hin : w.client.mSessionBiDict.view.InStep := h.aligned.inStep
  have hin' : (w.step e).client.mSessionBiDict.view.InStep := (good_step w e h hf hu).1.aligned.inStep
  cases e with
  | startTracking session => exact (h.startTracking w.ops hf hu).2 ▸ hn
  | stopTracking => exact (h.stopTracking w.ops).2 ▸ hn
  | updateTrackingOptions => exact (h.updateTrackingOptions w.ops).2 ▸ hn
  | stopSession id => exact (h.stopSession id w.ops).2 ▸ hn
  | gnssNiResponse id response => exact (h.gnssNiResponse response w.ops hu.1 hu.2).2 ▸ hn
  | startSession id sessionMode session =>
    change Named (w.client.locAPIStartSession id sessionMode session w.ops).2.1.mSessionBiDict.view
    change (w.client.locAPIStartSession id sessionMode session w.ops).2.1.mSessionBiDict.view.InStep
      at hin'
    rcases startSession_dict w.client id sessionMode session w.ops with hsame | ⟨e, he, hset⟩
    · rw [hsame]
      exact hn
    · rw [hset, BiDict.view_set] at hin' ⊢
      exact hn.set hin' he
  | updateSessionOptions id sessionMode session =>
    change Named (w.client.locAPIUpdateSessionOptions id sessionMode session
      w.ops).2.1.mSessionBiDict.view
    change (w.client.locAPIUpdateSessionOptions id sessionMode session
      w.ops).2.1.mSessionBiDict.view.InStep at hin'
    rcases updateSessionOptions_dict w.client id sessionMode session w.ops with
      hsame | ⟨old, s, e, hm, he, hset⟩
    · rw [hsame]
      exact hn
    · rw [hset, BiDict.view_set, BiDict.view_rmById] at hin' ⊢
      exact (hn.rmById hin hm).set hin' (he.trans (named_getExtById hn h hm))
  | adapter error =>
    simp only [World.step]
    split
    · exact hn
    · split
      · exact named_onResponseCb hn hin error _
      · exact hn

/-! ## One completed trip -/

section
variable {c : Client} {a : Adapter}

/-- What the loop makes of one session: its entry leaves and its id is found, or nothing happens. -/
theorem tripLoop_cons (h : Named c.mSessionBiDict.view) (hin : c.mSessionBiDict.view.InStep)
    (ids : List Nat) (session : Nat) (sessions : List Nat) :
    (∃ id, OnTrip c id session ∧ tripLoop c ids (session :: sessions) =
        tripLoop (c.removeSession session) (ids ++ [id]) sessions) ∨
      (∀ id, ¬ OnTrip c id session) ∧
        tripLoop c ids (session :: sessions) = tripLoop c ids sessions := by
  by_cases hheld : c.mSessionBiDict.hasSession session = true
  · obtain ⟨id, hm⟩ := (BiDict.hasSession_iff hin).mp hheld
    obtain ⟨e, he, hid⟩ := h id session hm
    have hext : c.mSessionBiDict.getExtBySession .zero session = e := by
      rw [BiDict.getExtBySession_eq, BiDictView.getExtBySession, he]
      rfl
    by_cases hmode : e.sessionMode = SESSION_MODE_ON_TRIP_COMPLETED
    · refine .inl ⟨id, ⟨hm, hext ▸ hmode⟩, ?_⟩
      rw [tripLoop, if_pos hheld, hext, if_pos hmode, hid, Client.removeSession, if_pos hheld]
    · refine .inr ⟨fun id' hon => hmode (hext ▸ hon.2), ?_⟩
      rw [tripLoop, if_pos hheld, hext, if_neg hmode]
  · refine .inr ⟨fun id hon => hheld ((BiDict.hasSession_iff hin).mpr ⟨id, hon.1⟩), ?_⟩
    rw [tripLoop, if_neg hheld]

/-- The entry of a session leaves and no other. -/
theorem maps_removeSession (hin : c.mSessionBiDict.view.InStep) {id session : Nat}
    (hm : c.mSessionBiDict.view.Maps id session) (id' s : Nat) :
    (c.removeSession session).mSessionBiDict.view.Maps id' s ↔
      c.mSessionBiDict.view.Maps id' s ∧ id' ≠ id := by
  rw [view_removeSession hin hm, BiDictView.maps_rmById, and_comm]

theorem onTrip_removeSession (hin : c.mSessionBiDict.view.InStep) {id session : Nat}
    (hm : c.mSessionBiDict.view.Maps id session) (id' s : Nat) :
    OnTrip (c.removeSession session) id' s ↔ OnTrip c id' s ∧ id' ≠ id := by
  rw [OnTrip, maps_removeSession hin hm, OnTrip, and_right_comm (b := _ = _)]
  refine and_congr_right fun hold => ?_
  have hs : s ≠ session := by
    intro heq
    have hback := hin.forward hold.1
    rw [heq, hin.forward hm] at hback
    exact hold.2 (Option.some.inj hback).symm
  have hfront : c.mSessionBiDict.view.mForwardMap id = some session := hm
  rw [BiDict.getExtBySession_eq, BiDict.getExtBySession_eq, view_removeSession hin hm]
  simp [BiDictView.getExtBySession, BiDictView.rmById, hfront, hs]

/-- The sessions of the list are gone. What is found is what the client has of them. -/
theorem tripLoop_spec {sessions : List Nat} (h : Good c a) (hn : Named c.mSessionBiDict.view)
    (hgone : ∀ session ∈ sessions, a.Gone session) (ids : List Nat) :
    ∃ c' more, tripLoop c ids sessions = (c', ids ++ more) ∧ Good c' a ∧
      Named c'.mSessionBiDict.view ∧ more.Nodup ∧
      (∀ id, id ∈ more ↔ ∃ session ∈ sessions, OnTrip c id session) ∧
      ∀ id session, c'.mSessionBiDict.view.Maps id session ↔
        c.mSessionBiDict.view.Maps id session ∧ id ∉ more := by
  induction sessions generalizing c ids with
  | nil => exact ⟨c, [], by rw [tripLoop, List.append_nil], h, hn, by simp, by simp, by simp⟩
  | cons session sessions ih =>
    have hin : c.mSessionBiDict.view.InStep := h.aligned.inStep
    have hrest := fun s hs => hgone s (List.mem_cons_of_mem session hs)
    rcases tripLoop_cons hn hin ids session sessions with ⟨id, hon, hloop⟩ | ⟨hnot, hloop⟩
    · have hgood : Good (c.removeSession session) a :=
        ⟨(h.aligned.removeSession (hgone session (List.mem_cons_self ..))).1, h.ok⟩
      obtain ⟨c', more, hrun, hgood', hn', hnodup, hmore, hmaps⟩ :=
        ih hgood (named_removeSession hn hin session) hrest (ids ++ [id])
      have hids : ∀ x, x ∈ more ↔ (∃ s ∈ sessions, OnTrip c x s) ∧ x ≠ id := by
        intro x
        rw [hmore]
        simp only [onTrip_removeSession hin hon.1, ← and_assoc, exists_and_right]
      have happend : ids ++ [id] ++ more = ids ++ id :: more := List.append_assoc ids [id] more
      refine ⟨c', id :: more, by rw [hloop, hrun, happend], hgood', hn', ?_, ?_, ?_⟩
      · exact List.nodup_cons.mpr ⟨fun hmem => ((hids id).mp hmem).2 rfl, hnodup⟩
      · intro x
        rw [List.mem_cons, hids]
        simp only [List.mem_cons, exists_eq_or_imp]
        by_cases hx : x = id
        · simp [hx, hon]
        · have hother : ¬ OnTrip c x session := fun hx' =>
            hx (Option.some.inj ((hin.forward hx'.1).symm.trans (hin.forward hon.1)))
          simp [hx, hother]
      · intro x s
        rw [hmaps, maps_removeSession hin hon.1, List.mem_cons, not_or, and_assoc]
    · obtain ⟨c', more, hrun, hgood', hn', hnodup, hmore, hmaps⟩ := ih h hn hrest ids
      refine ⟨c', more, hloop.trans hrun, hgood', hn', hnodup, fun x => ?_, hmaps⟩
      rw [hmore]
      simp only [List.mem_cons, exists_eq_or_imp]
      exact (or_iff_right (hnot x)).symm

end

/-! ## The adapter after it -/

section
variable {a : Adapter} {tripCompletedList : List Nat}

theorem completes_eq (a : Adapter) (tripCompletedList : List Nat) :
    completes a BATCHING_STATUS_TRIP_COMPLETED tripCompletedList =
      { a with live := a.live.filter (· ∉ tripCompletedList) } := if_pos rfl

theorem mem_live_completes {session : Nat}
    (h : session ∈ (completes a BATCHING_STATUS_TRIP_COMPLETED tripCompletedList).live) :
    session ∈ a.live ∧ session ∉ tripCompletedList := by
  rw [completes_eq] at h
  exact (List.mem_filter.mp h).imp_right of_decide_eq_true

theorem ok_completes (h : a.Ok) :
    (completes a BATCHING_STATUS_TRIP_COMPLETED tripCompletedList).Ok where
  wellSent := h.wellSent
  startFirst := h.startFirst
  niFirst := h.niFirst
  startNew m hm hs hlive := h.startNew m hm hs (mem_live_completes hlive).1
  owned := h.owned
  ownedLive s hlive := h.ownedLive s (mem_live_completes hlive).1
  owner := h.owner
  nonzero := h.nonzero

theorem gone_completes {session : Nat} (h : a.Gone session) :
    (completes a BATCHING_STATUS_TRIP_COMPLETED tripCompletedList).Gone session :=
  ⟨fun hlive => h.1 (mem_live_completes hlive).1, h.2⟩

/-- The adapter is rid of fewer sessions, and the client does not notice. -/
theorem good_completes {c : Client} (h : Good c a) :
    Good c (completes a BATCHING_STATUS_TRIP_COMPLETED tripCompletedList) where
  ok := ok_completes h.ok
  aligned :=
    { h.aligned with
      trackingQueue := by
        obtain ⟨stale, hq, hgone⟩ := h.aligned.trackingQueue
        exact ⟨stale, hq, fun hne => gone_completes (hgone hne)⟩
      held := fun m hm ho hr => (h.aligned.held m hm ho hr).imp_right gone_completes }

end

/-! ## Whole runs -/

/-- What holds between two steps. -/
structure Inv (w : World) : Prop where
  good : Good w.client w.adapter
  named : Named w.client.mSessionBiDict.view

/-- The batching status keeps the invariant, and reports what is to be reported. -/
theorem inv_batchingStatus {w : World} (h : Inv w) (status : BatchingStatus)
    (tripCompletedList : List Nat) (hs : StartTaken w (.batchingStatus status tripCompletedList)) :
    Inv (step w (.batchingStatus status tripCompletedList)) ∧
      Reports w (.batchingStatus status tripCompletedList) := by
  by_cases hstatus : status = BATCHING_STATUS_TRIP_COMPLETED
  · subst hstatus
    have hgone : ∀ session ∈ tripCompletedList,
        (completes w.adapter BATCHING_STATUS_TRIP_COMPLETED tripCompletedList).Gone session :=
      fun session hmem =>
        ⟨fun hlive => (mem_live_completes hlive).2 hmem, fun m hm hms => hs m hm (hms ▸ hmem)⟩
    obtain ⟨c', ids, hloop, hgood, hnamed, hnodup, hids, hmaps⟩ :=
      tripLoop_spec (good_completes h.good) h.named hgone []
    have hcb : beforeBatchingStatusCb w.client BATCHING_STATUS_TRIP_COMPLETED tripCompletedList =
        (c', ids) := by
      rw [beforeBatchingStatusCb, if_pos rfl, hloop, List.nil_append]
    refine ⟨?_, ?_⟩
    · rw [step, hcb]
      exact ⟨hgood, hnamed⟩
    · simp only [Reports, hcb]
      exact ⟨hnodup, fun id => by rw [hids, true_and], hmaps⟩
  · have hcb : beforeBatchingStatusCb w.client status tripCompletedList = (w.client, []) :=
      if_neg hstatus
    refine ⟨?_, ?_⟩
    · rw [step, hcb, completes, if_neg hstatus]
      exact h
    · simp [Reports, hcb, hstatus]

theorem inv_step {w : World} {e : Event} (h : Inv w) (hf : OfRun FreshSession w e)
    (hu : OfRun Unambiguous w e) (hs : StartTaken w e) :
    Inv (step w e) ∧ OfRun Matched w e ∧ OfRun EntriesKept w e ∧ Reports w e := by
  cases e with
  | run e =>
    obtain ⟨hgood, hmatched, hkept⟩ := good_step w e h.good hf hu
    exact ⟨⟨hgood, named_step h.good hf hu h.named⟩, hmatched, hkept, trivial⟩
  | batchingStatus status tripCompletedList =>
    obtain ⟨hinv, hreports⟩ := inv_batchingStatus h status tripCompletedList hs
    exact ⟨hinv, trivial, trivial, hreports⟩

/-- **Completed trips are reported and harm no request.** In every run in which the adapter also
completes trips, at any point after their start, the client's callback gets the id of each completed
session that it has in trip mode, once, and just their entries leave; every response still pops the
request of its operation, and other entries leave only for the reasons that they have without
trips. -/
theorem trips_completed (es : List Event)
    (hfresh : Steps step (OfRun FreshSession) World.init es)
    (hclear : Steps step (OfRun Unambiguous) World.init es)
    (hstarted : Steps step StartTaken World.init es) :
    Steps step (fun w e => OfRun Matched w e ∧ OfRun EntriesKept w e ∧ Reports w e)
      World.init es := by
  have hstart : Inv World.init := ⟨good_init, fun _ _ hm => (by cases hm)⟩
  have hall := (hfresh.and hclear).and hstarted
  exact steps_of_inv (fun w e h hh => (inv_step h hh.1.1 hh.1.2 hh.2).2)
    (fun w e h hh => (inv_step h hh.1.1 hh.1.2 hh.2).1) hstart hall

/-! ## Runs can be checked -/

instance (P : World → Location.Event → Prop) [∀ w e, Decidable (P w e)] (w : World) (e : Event) :
    Decidable (OfRun P w e) := by
  cases e <;> unfold OfRun <;> infer_instance

instance (w : World) (e : Event) : Decidable (StartTaken w e) := by
  unfold StartTaken
  split <;> infer_instance

/-- Session 2 is a trip, 3 is not, and 4 is a trip no more. The id of 2 starts again. -/
def tripAmongOthers : List Event :=
  [.run (.startSession 7 SESSION_MODE_ON_TRIP_COMPLETED 2),
    .run (.startSession 8 SESSION_MODE_ON_FULL 3),
    .run (.startSession 9 SESSION_MODE_ON_TRIP_COMPLETED 4),
    .run (.adapter LOCATION_ERROR_SUCCESS), .run (.adapter LOCATION_ERROR_SUCCESS),
    .run (.adapter LOCATION_ERROR_SUCCESS),
    .run (.updateSessionOptions 9 SESSION_MODE_ON_FULL 5), .run (.adapter LOCATION_ERROR_SUCCESS),
    .run (.startSession 6 SESSION_MODE_ON_FIX 6),
    .batchingStatus BATCHING_STATUS_TRIP_COMPLETED [4, 2, 3, 2, 11],
    .run (.startSession 7 SESSION_MODE_ON_TRIP_COMPLETED 10),
    .run (.adapter LOCATION_ERROR_SUCCESS), .run (.adapter LOCATION_ERROR_SUCCESS)]

theorem trips_completed_among_others :
    (beforeBatchingStatusCb (run step World.init (tripAmongOthers.take 9)).client
      BATCHING_STATUS_TRIP_COMPLETED [4, 2, 3, 2, 11]).2 = [7] ∧
    Steps step (fun w e => OfRun Matched w e ∧ OfRun EntriesKept w e ∧ Reports w e)
      World.init tripAmongOthers :=
  ⟨by decide +kernel, trips_completed tripAmongOthers (by decide +kernel) (by decide +kernel)
    (by decide +kernel)⟩

/-- A stop that is on its way when its trip is completed is never answered; its request is popped by
the answer to the next start, whose session leaves. -/
example :
    let es : List Event := [.run (.startSession 7 SESSION_MODE_ON_TRIP_COMPLETED 2),
      .run (.adapter LOCATION_ERROR_SUCCESS), .run (.stopSession 7),
      .batchingStatus BATCHING_STATUS_TRIP_COMPLETED [2], .run (.adapter LOCATION_ERROR_SUCCESS),
      .run (.startSession 8 SESSION_MODE_ON_FULL 3), .run (.adapter LOCATION_ERROR_SUCCESS)]
    (run step World.init es).client.mSessionBiDict.hasId 8 = false ∧
      ¬ Steps step (OfRun Unambiguous) World.init es := by decide +kernel

end DeviceHal.Location.TripCompletion
