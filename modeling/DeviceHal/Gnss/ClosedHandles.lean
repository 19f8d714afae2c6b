import DeviceHal.Gnss.AgpsHandover

/-! # Handles after their close status

A release that succeeds reports the close of its handle. The released state is
the exception among the machine's states: there the release reports the close
and leaves the subscriber in the list, where the emergency machine keeps the
requests that it retries. -/
namespace DeviceHal.Gnss.ClosedHandles
open DeviceHal.Lib.Run DeviceHal.Gnss.AgpsMachine DeviceHal.Gnss.AgpsMachine.AgpsStateMachine
open DeviceHal.Gnss.AgpsSubscribers DeviceHal.Gnss.AgpsDispatch
open DeviceHal.Gnss.AgpsDispatch.AgpsManager DeviceHal.Gnss.AgpsDispatch.AgpsSystem
open DeviceHal.Gnss.AgpsRequests DeviceHal.Gnss.AgpsHandover

/-! ## Machines without a handle -/

/-- The close of the handle is reported as a success. -/
def Closes (h : Int) (calls : List AgpsCall) : Prop := .atlCloseStatus h true ∈ calls

instance (h : Int) (calls : List AgpsCall) : Decidable (Closes h calls) :=
  inferInstanceAs (Decidable (_ ∈ _))

/-- A request for the handle is posted. -/
def postsFor (h : Int) : AgpsCall → Bool
  | .sendMsg handle _ => handle == h
  | _ => false

/-- The handle is not in the list, and no request is posted for it. -/
structure Clear (h : Int) (sm : AgpsStateMachine) : Prop where
  list : h ∉ handles sm.mSubscriberList
  posts : ∀ call ∈ sm.calls, postsFor h call = false

section
variable {h : Int} {sm : AgpsStateMachine} {ds : DSClient}

theorem Clear.transition (hc : Clear h sm) (state : AgpsState) : Clear h (sm.transitionState state) :=
  ⟨hc.list, hc.posts⟩

theorem Clear.current (hc : Clear h sm) (s : AgpsSubscriber) : Clear h (sm.setCurrentSubscriber s) :=
  ⟨hc.list, hc.posts⟩

theorem Clear.opened (hc : Clear h sm) (bearer : AGpsBearerType) (apn : Option (List Char))
    (len : Nat) : Clear h ((sm.setBearer bearer).setAPN apn len) := ⟨hc.list, hc.posts⟩

theorem Clear.emit (hc : Clear h sm) {call : AgpsCall} (hpost : postsFor h call = false) :
    Clear h (sm.emit call) := by
  refine ⟨hc.list, fun other hother => ?_⟩
  rw [emit_calls, List.mem_append, List.mem_singleton] at hother
  rcases hother with hother | rfl
  · exact hc.posts other hother
  · exact hpost

theorem Clear.add (hc : Clear h sm) {s : AgpsSubscriber} (hs : s.mConnHandle ≠ h) :
    Clear h (sm.addSubscriber s) := by
  refine ⟨?_, by rw [addSubscriber_calls]; exact hc.posts⟩
  rw [addSubscriber_list]
  split
  · exact hc.list
  · rw [handles, List.map_append, List.mem_append, not_or]
    exact ⟨hc.list, by simpa using hs.symm⟩

/-- Only a denial posts, and only for the subscriber that is denied. -/
theorem postsFor_notice {event : AgpsEvent} {s : AgpsSubscriber}
    (hs : event = .denied → s.mConnHandle ≠ h) :
    ∀ call ∈ sm.notice event s, postsFor h call = false := by
  intro call hcall
  cases hk : sm.kind <;> cases event <;> simp only [notice, hk, List.mem_cons, List.not_mem_nil,
    or_false] at hcall <;> first
    | (subst hcall; rfl)
    | (subst hcall; simpa [postsFor] using hs rfl)
    | (rcases hcall with rfl | rfl <;> rfl)

theorem Clear.notify (hc : Clear h sm) {event : AgpsEvent} {s : AgpsSubscriber}
    (hs : event = .denied → s.mConnHandle ≠ h) (del : Bool) :
    Clear h (sm.notifyEventToSubscriber event s del) := by
  have hkeep : Clear h (sm.notifyEventToSubscriber event s false) := by
    rw [notify_keep]
    refine ⟨hc.list, fun call hcall => ?_⟩
    rcases List.mem_append.mp hcall with hcall | hcall
    · exact hc.posts call hcall
    · exact postsFor_notice hs call hcall
  cases del with
  | false => exact hkeep
  | true =>
    rw [notify_delete]
    refine ⟨fun hmem => hkeep.list ?_, hkeep.posts⟩
    exact (List.filter_sublist.map _).subset hmem

theorem Clear.notifyAll (hc : Clear h sm) (event : AgpsEvent) (del : Bool)
    (t : AgpsNotificationType) : Clear h (sm.notifyAllSubscribers event del t) := by
  constructor
  · rw [notifyAll_list]
    split
    · exact fun hmem => hc.list ((List.filter_sublist.map _).subset hmem)
    · exact hc.list
  · intro call hcall
    rw [notifyAll_calls, List.mem_append, List.mem_flatMap] at hcall
    rcases hcall with hcall | ⟨s, hs, hcall⟩
    · exact hc.posts call hcall
    · refine postsFor_notice (fun _ heq => hc.list ?_) call hcall
      exact mem_handles.mpr ⟨s, (List.mem_filter.mp hs).1, heq⟩

/-- What a data connection request adds: no close, and posts for the list only. -/
theorem request_calls (sm : AgpsStateMachine) (ds : DSClient) (request : Bool) : ∃ added,
    (sm.requestOrReleaseDataConn ds request).1.calls = sm.calls ++ added ∧
      ∀ call ∈ added, (∀ h, call ≠ .atlCloseStatus h true) ∧
        ∀ h, postsFor h call = true → h ∈ handles sm.mSubscriberList := by
  have hone : ∀ call, (∀ h, call ≠ .atlCloseStatus h true) → (∀ h, postsFor h call = false) →
      ∀ x ∈ [call], (∀ h, x ≠ .atlCloseStatus h true) ∧
        ∀ h, postsFor h x = true → h ∈ handles sm.mSubscriberList := by
    intro call hclose hpost x hx
    obtain rfl := List.mem_singleton.mp hx
    exact ⟨hclose, fun h hp => by rw [hpost h] at hp; cases hp⟩
  unfold requestOrReleaseDataConn
  split
  · exact ⟨_, rfl, hone _ (by simp) fun _ => rfl⟩
  · rename_i hk
    split
    · exact ⟨_, rfl, hone _ (by simp) fun _ => rfl⟩
    · unfold startDataCall
      split
      · exact ⟨[], (List.append_nil _).symm, fun _ hx => (by cases hx)⟩
      · rename_i s hs
        have hmem : s.mConnHandle ∈ handles sm.mSubscriberList :=
          mem_handles.mpr ⟨s, List.mem_of_find?_eq_some hs, rfl⟩
        have hposted : ∀ x ∈ [AgpsCall.sendMsg s.mConnHandle LOC_AGPS_TYPE_SUPL],
            (∀ h, x ≠ .atlCloseStatus h true) ∧
              ∀ h, postsFor h x = true → h ∈ handles sm.mSubscriberList := by
          intro x hx
          obtain rfl := List.mem_singleton.mp hx
          refine ⟨by simp, fun h hp => ?_⟩
          obtain rfl : s.mConnHandle = h := by simpa [postsFor] using hp
          exact hmem
        have hopened := hone .openAndStartDataCall (by simp) fun _ => rfl
        have htimer := hone (.startRetryTimer DATA_CALL_RETRY_DELAY_MSEC) (by simp) fun _ => rfl
        simp only [notify_keep, notice, emit_kind, hk, emit_calls]
        split
        · exact ⟨_, rfl, hposted⟩
        · split
          · split
            · refine ⟨_, List.append_assoc _ _ _, fun x hx => ?_⟩
              exact (List.mem_append.mp hx).elim (hopened x) (hposted x)
            · refine ⟨_, List.append_assoc _ _ _, fun x hx => ?_⟩
              exact (List.mem_append.mp hx).elim (hopened x) (htimer x)
          · split
            · refine ⟨_, List.append_assoc _ _ _, fun x hx => ?_⟩
              exact (List.mem_append.mp hx).elim (hopened x) (hposted x)
            · exact ⟨_, rfl, hopened⟩

theorem Clear.request (hc : Clear h sm) (ds : DSClient) (request : Bool) :
    Clear h (sm.requestOrReleaseDataConn ds request).1 := by
  obtain ⟨added, hcalls, hadded⟩ := request_calls sm ds request
  refine ⟨by rw [request_list]; exact hc.list, fun call hcall => ?_⟩
  rw [hcalls] at hcall
  rcases List.mem_append.mp hcall with hcall | hcall
  · exact hc.posts call hcall
  · by_contra hpost
    exact hc.list ((hadded call hcall).2 h (by simpa using hpost))

theorem closes_request (sm : AgpsStateMachine) (ds : DSClient) (request : Bool) :
    Closes h (sm.requestOrReleaseDataConn ds request).1.calls ↔ Closes h sm.calls := by
  obtain ⟨added, hcalls, hadded⟩ := request_calls sm ds request
  rw [Closes, hcalls, List.mem_append]
  exact or_iff_left fun hmem => (hadded _ hmem).1 h rfl

/-! ## Events of a machine that does not have the handle -/

theorem Clear.subscribe (hc : Clear h sm) (hs : sm.mCurrentSubscriber.mConnHandle ≠ h) :
    Clear h (sm.processAgpsEventSubscribe ds) := by
  unfold processAgpsEventSubscribe
  split
  · have hrequest := (hc.add hs).request ds true
    dsimp only
    split
    · exact hrequest.transition _
    · exact hrequest
  · exact hc.add hs
  · refine (hc.notify (fun he => (by cases he)) false).add ?_
    rw [notify_keep]
    exact hs
  · exact hc.add hs

theorem Clear.retire (hc : Clear h sm) : Clear h sm.retireCurrent := by
  unfold retireCurrent
  split
  · refine ⟨?_, hc.posts⟩
    rw [setCurrentInactive, handles_setInactive]
    exact hc.list
  · exact hc.notify (fun he => (by cases he)) true

/-- What follows the retirement of a subscriber. -/
theorem Clear.afterRetire (hc : Clear h sm.retireCurrent) (hs : sm.mState ≠ .released) :
    Clear h (sm.processAgpsEventUnsubscribe ds) := by
  rcases unsubscribe_cases sm ds hs with ⟨state, heq⟩ | ⟨state, heq⟩ | heq
  · rw [heq]
    exact (hc.transition _).request ds false
  · rw [heq]
    exact hc.transition _
  · rw [heq]
    exact hc

theorem Clear.unsubscribe (hc : Clear h sm) : Clear h (sm.processAgpsEventUnsubscribe ds) := by
  by_cases hs : sm.mState = .released
  · rw [unsubscribe_released sm ds hs]
    exact hc.notify (fun he => (by cases he)) false
  · exact hc.retire.afterRetire hs

theorem Clear.granted (hc : Clear h sm) : Clear h sm.processAgpsEventGranted := by
  unfold processAgpsEventGranted
  split
  · exact hc
  · exact hc
  · exact hc
  · exact (hc.transition _).notifyAll _ _ _

/-- What follows the close of a connection. -/
theorem Clear.afterClose
    (hc : Clear h (sm.notifyAllSubscribers .released true .forInactiveSubscribers)) :
    Clear h (sm.completeRelease ds) := by
  unfold completeRelease
  dsimp only
  split
  · exact (hc.transition _).request ds true
  · exact hc.transition _

theorem Clear.released (hc : Clear h sm) : Clear h (sm.processAgpsEventReleased ds) := by
  unfold processAgpsEventReleased
  split
  · exact hc
  · exact (hc.transition _).notifyAll _ _ _
  · exact (hc.notifyAll _ _ _).afterClose
  · exact hc

theorem Clear.denied (hc : Clear h sm) : Clear h (sm.processAgpsEventDenied ds) := by
  unfold processAgpsEventDenied
  split
  · exact hc
  · exact hc
  · exact (hc.notifyAll _ _ _).afterClose
  · exact (hc.transition _).notifyAll _ _ _

/-- A handle that a machine does not have stays away, unless it subscribes. -/
theorem Clear.event (hc : Clear h sm) {event : AgpsEvent}
    (hs : event = .subscribe → sm.mCurrentSubscriber.mConnHandle ≠ h) :
    Clear h (sm.processAgpsEvent ds event) := by
  unfold processAgpsEvent
  dsimp only
  split
  · rename_i he
    split at he
    · cases he
    · exact hc.subscribe (hs he)
  · exact hc.unsubscribe
  · exact hc.granted
  · exact hc.released
  · exact hc.denied

theorem Clear.retry (hc : Clear h sm) : Clear h sm.retryCallback := by
  unfold retryCallback
  split
  · exact hc
  · rename_i s hs
    refine hc.emit ?_
    have hne : s.mConnHandle ≠ h := fun heq =>
      hc.list (mem_handles.mpr ⟨s, List.mem_of_find?_eq_some hs, heq⟩)
    simpa [postsFor] using hne

/-! ## Events that close the handle -/

/-- Only the end of a subscription closes, and only for its subscriber. -/
theorem closes_notice {event : AgpsEvent} {s : AgpsSubscriber} (hc : Closes h (sm.notice event s)) :
    s.mConnHandle = h ∧ event ≠ .denied := by
  cases hk : sm.kind <;> cases event <;> simp only [Closes, notice, hk, List.mem_cons,
    List.not_mem_nil, or_false, reduceCtorEq, AgpsCall.atlCloseStatus.injEq, and_true,
    false_or] at hc <;> exact ⟨hc.symm, by decide⟩

/-- The retirement of a subscriber that does not wait. -/
theorem closed_retire (hcalls : sm.calls = []) (hc : Closes h sm.retireCurrent.calls) :
    sm.mCurrentSubscriber.mConnHandle = h ∧ Clear h sm.retireCurrent := by
  unfold retireCurrent at hc ⊢
  split at hc
  · rw [setCurrentInactive, Closes, hcalls] at hc
    cases hc
  · rename_i hwait
    rw [if_neg hwait]
    rw [notify_delete, notify_keep] at hc ⊢
    have hcur : sm.mCurrentSubscriber.mConnHandle = h := by
      have hall : Closes h (sm.calls ++ sm.notice .unsubscribe sm.mCurrentSubscriber) := hc
      rw [hcalls, List.nil_append] at hall
      exact (closes_notice hall).1
    refine ⟨hcur, fun hmem => ?_, fun call hcall => ?_⟩
    · obtain ⟨s, hs, heq⟩ := mem_handles.mp hmem
      have hkept := (List.mem_filter.mp hs).2
      simp [AgpsSubscriber.equals, heq, hcur] at hkept
    · have hnotice : call ∈ sm.calls ++ sm.notice .unsubscribe sm.mCurrentSubscriber := hcall
      rw [hcalls, List.nil_append] at hnotice
      exact postsFor_notice (fun he => (by cases he)) call hnotice

/-- The subscribers that are told of the close of the connection. -/
theorem closed_notifyAll {t : AgpsNotificationType} (hcalls : sm.calls = [])
    (hnodup : (handles sm.mSubscriberList).Nodup)
    (hc : Closes h (sm.notifyAllSubscribers .released true t).calls) :
    h ∈ handles sm.mSubscriberList ∧ Clear h (sm.notifyAllSubscribers .released true t) := by
  rw [Closes, notifyAll_calls, hcalls, List.nil_append, List.mem_flatMap] at hc
  obtain ⟨s, hs, hclose⟩ := hc
  obtain ⟨heq, -⟩ := closes_notice hclose
  obtain ⟨hmem, hcovered⟩ := List.mem_filter.mp hs
  refine ⟨mem_handles.mpr ⟨s, hmem, heq⟩, fun hkept => ?_, fun call hcall => ?_⟩
  · rw [notifyAll_list, if_pos rfl] at hkept
    obtain ⟨other, hother, hsame⟩ := mem_handles.mp hkept
    obtain ⟨hothermem, hleft⟩ := List.mem_filter.mp hother
    have hinj := List.inj_on_of_nodup_map hnodup hothermem hmem (hsame.trans heq.symm)
    rw [hinj, hcovered] at hleft
    cases hleft
  · rw [notifyAll_calls, hcalls, List.nil_append, List.mem_flatMap] at hcall
    obtain ⟨s', -, hcall⟩ := hcall
    exact postsFor_notice (fun he => (by cases he)) call hcall

theorem closed_complete (hcalls : sm.calls = []) (hnodup : (handles sm.mSubscriberList).Nodup)
    (hc : Closes h (sm.completeRelease ds).calls) :
    h ∈ handles sm.mSubscriberList ∧ Clear h (sm.completeRelease ds) := by
  have hnotified : Closes h
      (sm.notifyAllSubscribers .released true .forInactiveSubscribers).calls := by
    unfold completeRelease at hc
    dsimp only at hc
    split at hc
    · rw [closes_request] at hc
      exact hc
    · exact hc
  obtain ⟨hmem, hclear⟩ := closed_notifyAll hcalls hnodup hnotified
  exact ⟨hmem, hclear.afterClose⟩

/-- A subscription closes nothing. -/
theorem not_closes_subscribe (hcalls : sm.calls = []) :
    ¬ Closes h (sm.processAgpsEventSubscribe ds).calls := by
  have hnone : ¬ Closes h (sm.addSubscriber sm.mCurrentSubscriber).calls := by
    rw [addSubscriber_calls, hcalls]
    exact List.not_mem_nil
  unfold processAgpsEventSubscribe
  split
  · have hrequest := (closes_request (h := h) (sm.addSubscriber sm.mCurrentSubscriber) ds true).not.mpr
      hnone
    dsimp only
    split
    · exact hrequest
    · exact hrequest
  · exact hnone
  · rw [notify_keep, addSubscriber_calls, Closes, hcalls, List.nil_append]
    intro hc
    cases hk : sm.kind <;> simp [notice, hk] at hc
  · exact hnone

/-- A release that closes its handle takes it out of the list, but not in the
released state. -/
theorem closed_unsubscribe (hcalls : sm.calls = [])
    (hc : Closes h (sm.processAgpsEventUnsubscribe ds).calls) :
    sm.mCurrentSubscriber.mConnHandle = h ∧
      (sm.mState ≠ .released → Clear h (sm.processAgpsEventUnsubscribe ds)) := by
  by_cases hs : sm.mState = .released
  · refine ⟨?_, fun hne => absurd hs hne⟩
    rw [unsubscribe_released sm ds hs, notify_keep] at hc
    simp only [hcalls, List.nil_append] at hc
    exact (closes_notice hc).1
  · have hretired : Closes h sm.retireCurrent.calls := by
      rcases unsubscribe_cases sm ds hs with ⟨state, heq⟩ | ⟨state, heq⟩ | heq
      · rw [heq, closes_request] at hc
        exact hc
      · rw [heq] at hc
        exact hc
      · rw [heq] at hc
        exact hc
    obtain ⟨hcur, hclear⟩ := closed_retire hcalls hretired
    exact ⟨hcur, fun hne => hclear.afterRetire hne⟩

/-- A report that closes a handle takes it out of the list. -/
theorem closed_report {event : AgpsEvent} (he : event ≠ .subscribe ∧ event ≠ .unsubscribe)
    (hcalls : sm.calls = []) (hnodup : (handles sm.mSubscriberList).Nodup)
    (hc : Closes h (sm.processAgpsEvent ds event).calls) :
    h ∈ handles sm.mSubscriberList ∧ Clear h (sm.processAgpsEvent ds event) := by
  have hgranted : ¬ Closes h sm.processAgpsEventGranted.calls := by
    unfold processAgpsEventGranted
    split
    · rw [hcalls]; exact List.not_mem_nil
    · rw [hcalls]; exact List.not_mem_nil
    · rw [hcalls]; exact List.not_mem_nil
    · rw [Closes, notifyAll_calls, transitionState_calls, hcalls, List.nil_append, List.mem_flatMap]
      intro hex
      obtain ⟨s, -, hclose⟩ := hex
      cases hk : sm.kind <;> simp [notice, hk] at hclose
  have hreleased : Closes h (sm.processAgpsEventReleased ds).calls →
      h ∈ handles sm.mSubscriberList ∧ Clear h (sm.processAgpsEventReleased ds) := by
    intro hc
    unfold processAgpsEventReleased at hc ⊢
    split at hc
    · rw [Closes, hcalls] at hc; cases hc
    · exact @closed_notifyAll _ (sm.transitionState .released) _ hcalls hnodup hc
    · exact closed_complete hcalls hnodup hc
    · rw [Closes, hcalls] at hc; cases hc
  have hdenied : Closes h (sm.processAgpsEventDenied ds).calls →
      h ∈ handles sm.mSubscriberList ∧ Clear h (sm.processAgpsEventDenied ds) := by
    intro hc
    unfold processAgpsEventDenied at hc ⊢
    split at hc
    · rw [Closes, hcalls] at hc; cases hc
    · rw [Closes, hcalls] at hc; cases hc
    · exact closed_complete hcalls hnodup hc
    · rw [Closes, notifyAll_calls, transitionState_calls, hcalls, List.nil_append,
        List.mem_flatMap] at hc
      obtain ⟨s, -, hclose⟩ := hc
      exact absurd rfl (closes_notice hclose).2
  unfold processAgpsEvent at hc ⊢
  dsimp only at hc ⊢
  split at hc
  · rename_i hev
    split at hev
    · cases hev
    · exact absurd hev he.1
  · rename_i hev
    split at hev
    · cases hev
    · exact absurd hev he.2
  · exact absurd hc hgranted
  · exact hreleased hc
  · exact hdenied hc

/-- The handles in a list are distinct, and an event keeps them so. -/
theorem nodup_event (hnodup : (handles sm.mSubscriberList).Nodup) (event : AgpsEvent) :
    (handles (sm.processAgpsEvent ds event).mSubscriberList).Nodup := by
  have hfilter : ∀ p : AgpsSubscriber → Bool, (handles (sm.mSubscriberList.filter p)).Nodup :=
    fun p => hnodup.sublist (List.filter_sublist.map _)
  have hdenied : (handles (sm.processAgpsEventDenied ds).mSubscriberList).Nodup := by
    rw [denied_list]
    split
    · exact hnodup
    · exact hnodup
    · exact List.nodup_nil
    · exact hfilter _
  unfold processAgpsEvent
  dsimp only
  split
  · rw [subscribe_list, addSubscriber_list]
    split
    · exact hnodup
    · rename_i hnew
      rw [handles, List.map_append]
      refine List.Nodup.append hnodup (List.nodup_singleton _) ?_
      rw [List.map_singleton, List.disjoint_singleton]
      exact hnew
  · rw [unsubscribe_list]
    split
    · exact hnodup
    · unfold retired
      split
      · rw [handles_setInactive]
        exact hnodup
      · exact hfilter _
  · rw [granted_list]
    exact hnodup
  · rw [released_list]
    split
    · exact hnodup
    · exact hnodup
    · exact List.nodup_nil
    · exact hfilter _
  · exact hdenied

end

/-! ## The manager -/

/-- No machine has the handle, and no request is posted for it. -/
structure ClearAll (h : Int) (m : AgpsManager) : Prop where
  list : ∀ n, h ∉ m.held n
  posts : ∀ call ∈ m.calls, postsFor h call = false

section
variable {h : Int} {m : AgpsManager} {env : AgpsEnv}

theorem ClearAll.emit (hc : ClearAll h m) {call : AgpsCall} (hpost : postsFor h call = false) :
    ClearAll h (m.emit call) := by
  refine ⟨fun n => by rw [held_of_nif (m.nif_emit call n)]; exact hc.list n, fun x hx => ?_⟩
  rcases List.mem_append.mp hx with hx | hx
  · exact hc.posts x hx
  · obtain rfl := List.mem_singleton.mp hx
    exact hpost

/-- A machine that works without the handle. -/
theorem ClearAll.onNif (hc : ClearAll h m) (n : Nif) {f : AgpsStateMachine → AgpsStateMachine}
    (hf : ∀ sm, Clear h sm → Clear h (f sm)) : ClearAll h (m.onNif n f) := by
  cases hn : m.nif n with
  | none =>
    have hsame : m.onNif n f = m := by simp only [AgpsManager.onNif, hn]
    rw [hsame]
    exact hc
  | some sm =>
    have hsm : Clear h { sm with calls := [] } := by
      refine ⟨fun hmem => hc.list n ?_, fun _ hx => (by cases hx)⟩
      rw [held, hn]
      exact hmem
    refine ⟨fun k => ?_, fun call hcall => ?_⟩
    · by_cases hk : k = n
      · subst hk
        rw [m.held_onNif hn]
        exact (hf _ hsm).list
      · rw [m.held_onNif_ne hk]
        exact hc.list k
    · rw [m.calls_onNif hn, List.mem_append] at hcall
      exact hcall.elim (hc.posts call) ((hf _ hsm).posts call)

theorem ClearAll.create (hc : ClearAll h m) (env : AgpsEnv) :
    ClearAll h (m.createAgpsStateMachines env) := by
  refine ⟨fun n => by rw [held_createAgpsStateMachines]; exact hc.list n, fun call hcall => ?_⟩
  rcases m.calls_createAgpsStateMachines env with hsame | hinit
  · exact hc.posts call (hsame ▸ hcall)
  · rw [hinit, List.mem_append, List.mem_singleton] at hcall
    rcases hcall with hcall | rfl
    · exact hc.posts call hcall
    · rfl

theorem ClearAll.choose (hc : ClearAll h m) (env : AgpsEnv) (agpsType : AGpsExtType) :
    ClearAll h (m.getAgpsStateMachine env agpsType).1 := by
  unfold getAgpsStateMachine
  split
  · exact hc
  · split
    · split
      · dsimp only
        split
        · exact hc.create env
        · exact hc
      · exact hc
    · exact hc

theorem ClearAll.report (hc : ClearAll h m) (n : Nif) {event : AgpsEvent}
    (he : event ≠ .subscribe) : ClearAll h (m.onNif n (·.processAgpsEvent env.ds event)) :=
  hc.onNif n fun _ hsm => hsm.event fun hsub => absurd hsub he

/-- A request for another handle. -/
theorem ClearAll.requestATL (hc : ClearAll h m) {connHandle : Int} (hne : connHandle ≠ h)
    (agpsType : AGpsExtType) : ClearAll h (m.requestATL env connHandle agpsType) := by
  have hchosen := hc.choose env agpsType
  unfold AgpsManager.requestATL
  dsimp only
  split
  · exact hchosen.emit rfl
  · exact hchosen.onNif _ fun _ hsm => (hsm.current _).event fun _ => hne

theorem ClearAll.releaseATL (hc : ClearAll h m) (connHandle : Int) :
    ClearAll h (m.releaseATL env connHandle) := by
  unfold AgpsManager.releaseATL
  split
  · exact hc.emit rfl
  · refine hc.onNif _ fun sm hsm => ?_
    split
    · exact hsm
    · exact (hsm.current _).event fun he => (by cases he)

theorem ClearAll.restart (hc : ClearAll h m) : ClearAll h (m.handleModemSSR env) := by
  have hdrop : ∀ sm, Clear h sm → Clear h sm.dropAllSubscribers :=
    fun _ hsm => ⟨List.not_mem_nil, hsm.posts⟩
  have hdropped := ((hc.onNif .mAgnssNif hdrop).onNif .mInternetNif hdrop).onNif .mDsNif hdrop
  unfold handleModemSSR
  dsimp only
  split
  · exact (((hdropped.emit rfl).emit rfl).emit rfl).emit rfl
  · exact hdropped

/-- A message that makes no request for the handle leaves it out of everything. -/
theorem clear_process {s : AgpsSystem} {msg : AgpsMsg} (hlist : ∀ n, h ∉ s.manager.held n)
    (hreq : ∀ agpsType, s.request msg ≠ some (h, agpsType)) : ClearAll h (s.process env msg) := by
  have hc : ClearAll h { s.manager with calls := [] } :=
    ⟨fun n => by rw [held_of_nif (by cases n <;> rfl)]; exact hlist n, fun _ hx => (by cases hx)⟩
  cases msg with
  | initAgps =>
    simp only [process]
    split
    · exact hc.create env
    · exact hc
  | requestATL connHandle agpsType =>
    refine hc.requestATL (fun heq => hreq agpsType ?_) agpsType
    rw [request, heq]
  | postedRequest =>
    simp only [process]
    split
    · exact hc
    · rename_i connHandle agpsType rest hq
      refine hc.requestATL (fun heq => hreq agpsType ?_) agpsType
      rw [request, hq, heq]
      rfl
  | releaseATL connHandle => exact hc.releaseATL connHandle
  | reportDataCallOpened => exact hc.report .mDsNif (by decide)
  | reportDataCallClosed => exact hc.report .mDsNif (by decide)
  | reportAtlOpenSuccess agpsType apnName apnLen bearerType =>
    exact (hc.choose env agpsType).onNif _ fun _ hsm =>
      (hsm.opened bearerType apnName apnLen).event fun he => (by cases he)
  | reportAtlOpenFailed agpsType => exact (hc.choose env agpsType).report _ (by decide)
  | reportAtlClosed agpsType => exact (hc.choose env agpsType).report _ (by decide)
  | handleModemSSR => exact hc.restart
  | retryTimer =>
    simp only [process]
    split
    · exact hc
    · exact hc.onNif _ fun _ hsm => hsm.retry

end

/-! ## Messages that close the handle -/

/-- The handle was in the list of one machine, which has let go of it. -/
structure ClosedIn (h : Int) (m m' : AgpsManager) (n : Nif) : Prop where
  held : h ∈ m.held n
  others : ∀ k, k ≠ n → m'.held k = m.held k
  gone : h ∉ m'.held n
  posts : ∀ call ∈ m'.calls, postsFor h call = false

/-- Choosing a machine first makes no difference. -/
theorem ClosedIn.of_choose {h : Int} {m m' : AgpsManager} {n : Nif} {env : AgpsEnv}
    {agpsType : AGpsExtType} (hc : ClosedIn h (m.getAgpsStateMachine env agpsType).1 m' n) :
    ClosedIn h m m' n where
  held := by
    rw [← held_getAgpsStateMachine m env agpsType]
    exact hc.held
  others := fun k hk => by rw [hc.others k hk, held_getAgpsStateMachine]
  gone := hc.gone
  posts := hc.posts

/-- Nothing was closed or posted so far. -/
def Idle (m : AgpsManager) : Prop :=
  ∀ call ∈ m.calls, ∀ h, call ≠ .atlCloseStatus h true ∧ postsFor h call = false

section
variable {h : Int} {m : AgpsManager} {env : AgpsEnv}

theorem idle_nil (hcalls : m.calls = []) : Idle m := by
  intro call hcall
  rw [hcalls] at hcall
  cases hcall

theorem Idle.not_closes (hi : Idle m) : ¬ Closes h m.calls := fun hc => (hi _ hc h).1 rfl

theorem Idle.emit (hi : Idle m) {call : AgpsCall}
    (hcall : ∀ h, call ≠ .atlCloseStatus h true ∧ postsFor h call = false) : Idle (m.emit call) := by
  intro x hx
  rcases List.mem_append.mp hx with hx | hx
  · exact hi x hx
  · obtain rfl := List.mem_singleton.mp hx
    exact hcall

theorem Idle.create (hi : Idle m) (env : AgpsEnv) : Idle (m.createAgpsStateMachines env) := by
  intro call hcall
  rcases m.calls_createAgpsStateMachines env with hsame | hinit
  · exact hi call (hsame ▸ hcall)
  · rw [hinit, List.mem_append, List.mem_singleton] at hcall
    rcases hcall with hcall | rfl
    · exact hi call hcall
    · exact fun _ => ⟨by simp, rfl⟩

theorem Idle.choose (hi : Idle m) (env : AgpsEnv) (agpsType : AGpsExtType) :
    Idle (m.getAgpsStateMachine env agpsType).1 := by
  unfold getAgpsStateMachine
  split
  · exact hi
  · split
    · split
      · dsimp only
        split
        · exact hi.create env
        · exact hi
      · exact hi
    · exact hi

/-- The calls of a machine that works are those of the manager. -/
theorem closes_onNif (hi : Idle m) {n : Nif} {f : AgpsStateMachine → AgpsStateMachine}
    (hc : Closes h (m.onNif n f).calls) :
    ∃ sm, m.nif n = some sm ∧ Closes h (f { sm with calls := [] }).calls := by
  cases hn : m.nif n with
  | none =>
    simp only [AgpsManager.onNif, hn] at hc
    exact absurd hc hi.not_closes
  | some sm =>
    rw [Closes, m.calls_onNif hn, List.mem_append] at hc
    exact ⟨sm, rfl, hc.resolve_left hi.not_closes⟩

theorem closedIn_onNif (hi : Idle m) {n : Nif} {sm : AgpsStateMachine} (hn : m.nif n = some sm)
    {f : AgpsStateMachine → AgpsStateMachine} (hmem : h ∈ handles sm.mSubscriberList)
    (hclear : Clear h (f { sm with calls := [] })) : ClosedIn h m (m.onNif n f) n where
  held := by
    rw [held, hn]
    exact hmem
  others := fun k hk => m.held_onNif_ne hk f
  gone := by
    rw [m.held_onNif hn]
    exact hclear.list
  posts := fun call hcall => by
    rw [m.calls_onNif hn, List.mem_append] at hcall
    exact hcall.elim (fun hcall => (hi call hcall h).2) (hclear.posts call)

theorem held_nodup {n : Nif} {sm : AgpsStateMachine} (hnodup : ∀ n, (m.held n).Nodup)
    (hn : m.nif n = some sm) : (handles sm.mSubscriberList).Nodup := by
  have hlist := hnodup n
  rwa [held, hn] at hlist

theorem closedIn_report (hi : Idle m) (hnodup : ∀ n, (m.held n).Nodup) {n : Nif}
    {event : AgpsEvent} (he : event ≠ .subscribe ∧ event ≠ .unsubscribe)
    (hc : Closes h (m.onNif n (·.processAgpsEvent env.ds event)).calls) :
    ClosedIn h m (m.onNif n (·.processAgpsEvent env.ds event)) n := by
  obtain ⟨sm, hn, hclose⟩ := closes_onNif hi hc
  have hlist : (handles sm.mSubscriberList).Nodup := held_nodup hnodup hn
  obtain ⟨hmem, hclear⟩ := @closed_report h { sm with calls := [] } _ _ he rfl hlist hclose
  exact closedIn_onNif hi hn hmem hclear

theorem not_closes_requestATL (hi : Idle m) (connHandle : Int) (agpsType : AGpsExtType) :
    ¬ Closes h (m.requestATL env connHandle agpsType).calls := by
  have hchosen := hi.choose env agpsType
  unfold AgpsManager.requestATL
  dsimp only
  split
  · exact (hchosen.emit fun _ => ⟨by simp, rfl⟩).not_closes
  · intro hc
    obtain ⟨sm, -, hclose⟩ := closes_onNif hchosen hc
    rw [process_subscribe] at hclose
    exact not_closes_subscribe rfl hclose

/-- The machine that a release finds has the handle. -/
theorem findSubscriber_spec {n : Nif} (hf : m.findSubscriber h = some n) :
    ∃ sm s, m.nif n = some sm ∧ sm.getSubscriber h = some s := by
  have hholds : m.holds n h = true := by
    unfold findSubscriber at hf
    split at hf
    · obtain rfl := Option.some.inj hf
      assumption
    · split at hf
      · obtain rfl := Option.some.inj hf
        assumption
      · split at hf
        · obtain rfl := Option.some.inj hf
          assumption
        · cases hf
  obtain ⟨sm, hn, hs⟩ := (Option.any_eq_true _ _).mp hholds
  obtain ⟨s, hs⟩ := Option.isSome_iff_exists.mp hs
  exact ⟨sm, s, hn, hs⟩

theorem getSubscriber_handle {sm : AgpsStateMachine} {s : AgpsSubscriber}
    (hs : sm.getSubscriber h = some s) :
    s ∈ sm.mSubscriberList ∧ s.mConnHandle = h :=
  ⟨List.mem_of_find?_eq_some hs, by simpa using List.find?_some hs⟩

/-- A release that closes is for the handle that it closes. -/
theorem closes_releaseATL (hi : Idle m) {connHandle : Int}
    (hc : Closes h (m.releaseATL env connHandle).calls) :
    connHandle = h ∧ ∃ n sm, m.findSubscriber h = some n ∧ m.nif n = some sm ∧
      (sm.mState ≠ .released → ClosedIn h m (m.releaseATL env h) n) := by
  unfold AgpsManager.releaseATL at hc
  split at hc
  · exact absurd hc (hi.emit fun _ => ⟨by simp, rfl⟩).not_closes
  · rename_i n hf
    obtain ⟨sm, hn, hclose⟩ := closes_onNif hi hc
    obtain ⟨_, s, hn', hs⟩ := findSubscriber_spec hf
    obtain rfl := Option.some.inj (hn.symm.trans hn')
    obtain ⟨hmem, hhandle⟩ := getSubscriber_handle hs
    have hfound : ({ sm with calls := [] } : AgpsStateMachine).getSubscriber connHandle = some s := hs
    rw [hfound] at hclose
    dsimp only at hclose
    rw [process_unsubscribe] at hclose
    obtain ⟨hcur, hclear⟩ := closed_unsubscribe rfl hclose
    obtain rfl : connHandle = h := hhandle.symm.trans hcur
    refine ⟨rfl, n, sm, hf, hn, fun hstate => ?_⟩
    simp only [AgpsManager.releaseATL, hf]
    refine closedIn_onNif hi hn (mem_handles.mpr ⟨s, hmem, hhandle⟩) ?_
    rw [hfound]
    dsimp only
    rw [process_unsubscribe]
    exact hclear hstate

/-- In the released state a release keeps the subscriber. -/
theorem released_keeps {n : Nif} {sm : AgpsStateMachine} (hf : m.findSubscriber h = some n)
    (hn : m.nif n = some sm) (hstate : sm.mState = .released) :
    h ∈ (m.releaseATL env h).held n := by
  obtain ⟨_, s, hn', hs⟩ := findSubscriber_spec hf
  obtain rfl := Option.some.inj (hn.symm.trans hn')
  obtain ⟨hmem, hhandle⟩ := getSubscriber_handle hs
  have hfound : ({ sm with calls := [] } : AgpsStateMachine).getSubscriber h = some s := hs
  have hst : (({ sm with calls := [] } : AgpsStateMachine).setCurrentSubscriber s).mState =
    .released := hstate
  simp only [AgpsManager.releaseATL, hf]
  rw [m.held_onNif hn, hfound]
  dsimp only
  rw [process_unsubscribe, unsubscribe_list]
  refine mem_handles.mpr ⟨s, ?_, hhandle⟩
  rw [if_pos hst]
  exact hmem

theorem not_closes_restart (hi : Idle m) : ¬ Closes h (m.handleModemSSR env).calls := by
  have hdrop : ∀ {m : AgpsManager} (n : Nif), Idle m → Idle (m.onNif n (·.dropAllSubscribers)) := by
    intro m n hi
    cases hn : m.nif n with
    | none =>
      simp only [AgpsManager.onNif, hn]
      exact hi
    | some sm =>
      intro call hcall
      rw [m.calls_onNif hn, List.mem_append] at hcall
      exact hcall.elim (hi call) fun hx => by cases hx
  have hdropped := hdrop .mDsNif (hdrop .mInternetNif (hdrop .mAgnssNif hi))
  have hother : ∀ call : AgpsCall, (∀ h, call ≠ .atlCloseStatus h true) →
      (∀ h, postsFor h call = false) →
      ∀ h, call ≠ .atlCloseStatus h true ∧ postsFor h call = false :=
    fun _ hclose hpost h => ⟨hclose h, hpost h⟩
  unfold handleModemSSR
  dsimp only
  split
  · refine Idle.not_closes ?_
    exact (((hdropped.emit (hother _ (by simp) fun _ => rfl)).emit
      (hother _ (by simp) fun _ => rfl)).emit (hother _ (by simp) fun _ => rfl)).emit
      (hother _ (by simp) fun _ => rfl)
  · exact hdropped.not_closes

end

/-! ## Runs -/

/-- The subscriber waits for the close since it was released. -/
def Waits (m : AgpsManager) (h : Int) : Bool :=
  [Nif.mAgnssNif, .mInternetNif, .mDsNif].any fun n =>
    (m.nif n).any fun sm => sm.mSubscriberList.any fun s => s.mConnHandle == h && s.mIsInactive

def releases : AgpsMsg → Int → Bool
  | .releaseATL connHandle, h => connHandle == h
  | _, _ => false

/-- The modem asks anew for the handle. -/
def asks : AgpsMsg → Int → Bool
  | .requestATL connHandle _, h => connHandle == h
  | _, _ => false

/-- The handles whose release is reported as a success with this message. -/
def closing (s : AgpsSystem) (e : AgpsEnv × AgpsMsg) : List Int :=
  ((s.process e.1 e.2).calls.filterMap fun
    | .atlCloseStatus h true => some h
    | _ => none).filter fun h => releases e.2 h || Waits s.manager h

/-- The system, with the handles that were closed and not asked for since. -/
structure Tracked where
  system : AgpsSystem
  closed : List Int

namespace Tracked

def start : Tracked := ⟨.start, []⟩

def step (t : Tracked) (e : AgpsEnv × AgpsMsg) : Tracked :=
  ⟨t.system.step e, t.closed.filter (!asks e.2 ·) ++ closing t.system e⟩

end Tracked

/-- The handle is in no list and in no request that is posted, and the message
is no request for it. -/
def Away (t : Tracked) (e : AgpsEnv × AgpsMsg) (h : Int) : Prop :=
  (∀ n, h ∉ (t.step e).system.manager.held n) ∧
    h ∉ (t.step e).system.queue.map Prod.fst ∧ (t.system.request e.2).map Prod.fst ≠ some h

/-- The handle is in one list only and in no request that is posted, and the
machine that releases it is not in the released state. -/
def CleanClose (s : AgpsSystem) (e : AgpsEnv × AgpsMsg) (h : Int) : Prop :=
  (∀ n k, h ∈ s.manager.held n → h ∈ s.manager.held k → n = k) ∧ h ∉ s.queue.map Prod.fst ∧
    (releases e.2 h = true → ∀ n ∈ s.manager.findSubscriber h,
      ∀ sm ∈ s.manager.nif n, sm.mState ≠ .released)

def StaysClosed (t : Tracked) (e : AgpsEnv × AgpsMsg) : Prop :=
  ∀ h ∈ (t.step e).closed, Away t e h

/-- The releases that are reported as a success are clean. -/
def ClosesCleanly (t : Tracked) (e : AgpsEnv × AgpsMsg) : Prop :=
  ∀ h ∈ closing t.system e, CleanClose t.system e h

instance (t : Tracked) (e : AgpsEnv × AgpsMsg) (h : Int) : Decidable (Away t e h) :=
  inferInstanceAs (Decidable (_ ∧ _))

instance (t : Tracked) (e : AgpsEnv × AgpsMsg) : Decidable (StaysClosed t e) :=
  inferInstanceAs (Decidable (∀ _ ∈ _, _))

section
variable {s : AgpsSystem} {t : Tracked} {e : AgpsEnv × AgpsMsg} {h : Int}

theorem mem_closing : h ∈ closing s e ↔
    Closes h (s.process e.1 e.2).calls ∧ (releases e.2 h || Waits s.manager h) = true := by
  rw [closing, List.mem_filter, List.mem_filterMap]
  refine and_congr_left fun _ => ⟨fun hex => ?_, fun hc => ⟨_, hc, rfl⟩⟩
  obtain ⟨call, hcall, heq⟩ := hex
  split at heq
  · obtain rfl := Option.some.inj heq
    exact hcall
  · cases heq

theorem mem_posted {calls : List AgpsCall} :
    h ∈ (posted calls).map Prod.fst ↔ ∃ call ∈ calls, postsFor h call = true := by
  simp only [posted, List.mem_map, List.mem_filterMap]
  constructor
  · intro hex
    obtain ⟨⟨handle, agpsType⟩, ⟨call, hcall, heq⟩, rfl⟩ := hex
    split at heq
    · obtain ⟨rfl, rfl⟩ := Prod.mk.inj (Option.some.inj heq)
      exact ⟨_, hcall, by simp [postsFor]⟩
    · cases heq
  · intro hex
    obtain ⟨call, hcall, hpost⟩ := hex
    cases call with
    | sendMsg handle agpsType =>
      obtain rfl : handle = h := by simpa [postsFor] using hpost
      exact ⟨_, ⟨_, hcall, rfl⟩, rfl⟩
    | _ => cases hpost

theorem held_fresh (n : Nif) : (fresh s).held n = s.manager.held n :=
  held_of_nif (by cases n <;> rfl)

/-- The handles that wait in the queue after a message, if none is added. -/
theorem queue_step_subset (hposts : ∀ call ∈ (s.process e.1 e.2).calls, postsFor h call = false)
    (hq : h ∉ s.queue.map Prod.fst) : h ∉ (s.step e).queue.map Prod.fst := by
  have hnone : h ∉ (posted (s.process e.1 e.2).calls).map Prod.fst := by
    rw [mem_posted]
    intro hex
    obtain ⟨call, hcall, hpost⟩ := hex
    rw [hposts call hcall] at hpost
    cases hpost
  simp only [AgpsSystem.step, List.map_append, List.mem_append, not_or]
  refine ⟨?_, hnone⟩
  split
  · exact fun hmem => hq ((List.tail_sublist _).map _ |>.subset hmem)
  · exact hq

theorem nodup_chosen (hnodup : ∀ n, ((fresh s).held n).Nodup) (env : AgpsEnv)
    (agpsType : AGpsExtType) (n : Nif) :
    (((fresh s).getAgpsStateMachine env agpsType).1.held n).Nodup := by
  rw [held_getAgpsStateMachine]
  exact hnodup n

/-- What a message that closes a handle is, and what it does. -/
theorem closes_process (hnodup : ∀ n, (s.manager.held n).Nodup) {env : AgpsEnv} {msg : AgpsMsg}
    (hc : Closes h (s.process env msg).calls) : s.request msg = none ∧
      ((∃ n, ClosedIn h (fresh s) (s.process env msg) n) ∨
        msg = .releaseATL h ∧ ∃ n sm, (fresh s).findSubscriber h = some n ∧
          (fresh s).nif n = some sm ∧ sm.mState = .released) := by
  have hi : Idle (fresh s) := idle_nil rfl
  have hnodup : ∀ n, ((fresh s).held n).Nodup := fun n => by rw [held_fresh]; exact hnodup n
  have hchosen := nodup_chosen hnodup env
  have hreport : ∀ agpsType event, event ≠ .subscribe ∧ event ≠ .unsubscribe →
      Closes h (((fresh s).getAgpsStateMachine env agpsType).1.onNif
        ((fresh s).getAgpsStateMachine env agpsType).2 (·.processAgpsEvent env.ds event)).calls →
      ∃ n, ClosedIn h (fresh s) (((fresh s).getAgpsStateMachine env agpsType).1.onNif
        ((fresh s).getAgpsStateMachine env agpsType).2 (·.processAgpsEvent env.ds event)) n := by
    intro agpsType event he hc
    exact ⟨_, (closedIn_report (hi.choose env agpsType) (hchosen agpsType) he hc).of_choose⟩
  cases msg with
  | initAgps =>
    simp only [process] at hc
    split at hc
    · exact absurd hc (hi.create env).not_closes
    · exact absurd hc hi.not_closes
  | requestATL connHandle agpsType => exact absurd hc (not_closes_requestATL hi connHandle agpsType)
  | postedRequest =>
    simp only [process] at hc
    split at hc
    · exact absurd hc hi.not_closes
    · exact absurd hc (not_closes_requestATL hi _ _)
  | releaseATL connHandle =>
    obtain ⟨rfl, n, sm, hf, hn, hclosed⟩ := closes_releaseATL hi hc
    refine ⟨rfl, ?_⟩
    by_cases hstate : sm.mState = .released
    · exact .inr ⟨rfl, n, sm, hf, hn, hstate⟩
    · exact .inl ⟨n, hclosed hstate⟩
  | reportDataCallOpened => exact ⟨rfl, .inl ⟨_, closedIn_report hi hnodup (by decide) hc⟩⟩
  | reportDataCallClosed => exact ⟨rfl, .inl ⟨_, closedIn_report hi hnodup (by decide) hc⟩⟩
  | reportAtlOpenSuccess agpsType apnName apnLen bearerType =>
    obtain ⟨sm, hn, hclose⟩ := closes_onNif (hi.choose env agpsType) hc
    have hlist : (handles sm.mSubscriberList).Nodup := held_nodup (hchosen agpsType) hn
    obtain ⟨hmem, hclear⟩ := @closed_report h
      (({ sm with calls := [] }.setBearer bearerType).setAPN apnName apnLen) _ .granted (by decide)
      rfl hlist hclose
    have hin : ClosedIn h _ _ _ := closedIn_onNif (hi.choose env agpsType) hn
      (f := fun sm => ((sm.setBearer bearerType).setAPN apnName apnLen).processAgpsEvent env.ds
        .granted) hmem hclear
    exact ⟨rfl, .inl ⟨_, hin.of_choose⟩⟩
  | reportAtlOpenFailed agpsType => exact ⟨rfl, .inl (hreport agpsType .denied (by decide) hc)⟩
  | reportAtlClosed agpsType => exact ⟨rfl, .inl (hreport agpsType .released (by decide) hc)⟩
  | handleModemSSR => exact absurd hc (not_closes_restart hi)
  | retryTimer =>
    simp only [process] at hc
    split at hc
    · exact absurd hc hi.not_closes
    · obtain ⟨sm, -, hclose⟩ := closes_onNif hi hc
      unfold retryCallback at hclose
      split at hclose
      · cases hclose
      · simp [Closes] at hclose

theorem nodup_subscriber {sm : AgpsStateMachine} {ds : DSClient}
    (hnodup : (handles sm.mSubscriberList).Nodup) (subscriber : AgpsSubscriber) (event : AgpsEvent) :
    (handles ((sm.setCurrentSubscriber subscriber).processAgpsEvent ds event).mSubscriberList).Nodup :=
  @nodup_event (sm.setCurrentSubscriber subscriber) ds hnodup event

/-- The lists hold each handle once. -/
theorem nodup_onNif {m : AgpsManager} (hm : ∀ n, (m.held n).Nodup) (k : Nif)
    {f : AgpsStateMachine → AgpsStateMachine} (hf : ∀ sm, (handles sm.mSubscriberList).Nodup →
      (handles (f sm).mSubscriberList).Nodup) (n : Nif) : ((m.onNif k f).held n).Nodup := by
  by_cases hk : n = k
  · subst hk
    cases hn : m.nif n with
    | none =>
      simp only [AgpsManager.onNif, hn]
      exact hm n
    | some sm =>
      have hlist : (handles sm.mSubscriberList).Nodup := held_nodup hm hn
      rw [m.held_onNif hn]
      exact hf _ hlist
  · rw [m.held_onNif_ne hk]
    exact hm n

theorem nodup_requestATL (hnodup : ∀ n, ((fresh s).held n).Nodup) (env : AgpsEnv)
    (connHandle : Int) (agpsType : AGpsExtType) (n : Nif) :
    (((fresh s).requestATL env connHandle agpsType).held n).Nodup := by
  unfold AgpsManager.requestATL
  dsimp only
  split
  · rw [held_of_nif (nif_emit _ _ n)]
    exact nodup_chosen hnodup env agpsType n
  · exact nodup_onNif (nodup_chosen hnodup env agpsType) _
      (fun _ hsm => nodup_subscriber hsm _ _) n

theorem nodup_process (hnodup : ∀ n, (s.manager.held n).Nodup) (env : AgpsEnv) (msg : AgpsMsg)
    (n : Nif) : ((s.process env msg).held n).Nodup := by
  have hnodup : ∀ n, ((fresh s).held n).Nodup := fun n => by rw [held_fresh]; exact hnodup n
  have hdrop : ∀ {m : AgpsManager} (k : Nif), (∀ n, (m.held n).Nodup) →
      ∀ n, ((m.onNif k (·.dropAllSubscribers)).held n).Nodup :=
    fun k hm => nodup_onNif hm k fun _ _ => List.nodup_nil
  have hreport : ∀ agpsType event,
      ((((fresh s).getAgpsStateMachine env agpsType).1.onNif
        ((fresh s).getAgpsStateMachine env agpsType).2
        (·.processAgpsEvent env.ds event)).held n).Nodup :=
    fun agpsType event => nodup_onNif (nodup_chosen hnodup env agpsType) _
      (fun _ hsm => nodup_event hsm event) n
  cases msg with
  | initAgps =>
    simp only [process]
    split
    · rw [held_createAgpsStateMachines]
      exact hnodup n
    · exact hnodup n
  | requestATL connHandle agpsType => exact nodup_requestATL hnodup env connHandle agpsType n
  | postedRequest =>
    simp only [process]
    split
    · exact hnodup n
    · exact nodup_requestATL hnodup env _ _ n
  | releaseATL connHandle =>
    simp only [process, AgpsManager.releaseATL]
    split
    · rw [held_of_nif (nif_emit _ _ n)]
      exact hnodup n
    · refine nodup_onNif hnodup _ (fun sm hsm => ?_) n
      split
      · exact hsm
      · exact nodup_subscriber hsm _ _
  | reportDataCallOpened => exact nodup_onNif hnodup _ (fun _ hsm => nodup_event hsm _) n
  | reportDataCallClosed => exact nodup_onNif hnodup _ (fun _ hsm => nodup_event hsm _) n
  | reportAtlOpenSuccess agpsType apnName apnLen bearerType =>
    exact nodup_onNif (nodup_chosen hnodup env agpsType) _ (fun sm hsm =>
      @nodup_event ((sm.setBearer bearerType).setAPN apnName apnLen) _ hsm _) n
  | reportAtlOpenFailed agpsType => exact hreport agpsType _
  | reportAtlClosed agpsType => exact hreport agpsType _
  | handleModemSSR =>
    have hdropped := hdrop .mDsNif (hdrop .mInternetNif (hdrop .mAgnssNif hnodup)) n
    simp only [process, AgpsManager.handleModemSSR]
    split
    · rw [held_of_nif (nif_emit _ _ n), held_of_nif (nif_emit _ _ n), held_of_nif (nif_emit _ _ n),
        held_of_nif (nif_emit _ _ n)]
      exact hdropped
    · exact hdropped
  | retryTimer =>
    simp only [process]
    split
    · exact hnodup n
    · refine nodup_onNif hnodup _ (fun sm hsm => ?_) n
      unfold retryCallback
      split
      · exact hsm
      · exact hsm

/-- A machine that has let go of the handle stays apart from the others. -/
theorem ClosedIn.held_iff {n k : Nif} {m' : AgpsManager} (hc : ClosedIn h (fresh s) m' n) :
    h ∈ m'.held k ↔ k ≠ n ∧ h ∈ s.manager.held k := by
  by_cases hk : k = n
  · subst hk
    exact ⟨fun hmem => absurd hmem hc.gone, fun hmem => absurd rfl hmem.1⟩
  · rw [hc.others k hk, held_fresh]
    exact (and_iff_right hk).symm

/-- A request that is not there takes nothing from the queue. -/
theorem queue_subset (hr : s.request e.2 = none) : s.queue ⊆ (s.step e).queue := by
  intro x hx
  refine List.mem_append_left _ ?_
  split
  · rename_i heq
    rw [heq, request] at hr
    rw [List.head?_eq_none_iff.mp hr] at hx
    cases hx
  · exact hx

/-! ## Steps -/

/-- No handle is twice in a list, and the closed handles are nowhere. -/
def Good (t : Tracked) : Prop :=
  (∀ n, (t.system.manager.held n).Nodup) ∧
    ∀ h ∈ t.closed, (∀ n, h ∉ t.system.manager.held n) ∧ h ∉ t.system.queue.map Prod.fst

/-- A handle that was closed before stays closed with every message. -/
theorem stays_old (hg : Good t) (hmem : h ∈ t.closed) (hasks : asks e.2 h = false) :
    Away t e h := by
  obtain ⟨hlist, hqueue⟩ := hg.2 h hmem
  have hreq : (t.system.request e.2).map Prod.fst ≠ some h := by
    intro hr
    obtain ⟨asked, hasked, rfl⟩ := Option.map_eq_some_iff.mp hr
    obtain ⟨env, msg⟩ := e
    cases msg with
    | requestATL connHandle agpsType =>
      obtain rfl := Option.some.inj hasked
      simp [asks] at hasks
    | postedRequest =>
      exact hqueue (List.mem_map_of_mem (List.mem_of_mem_head? hasked))
    | _ => cases hasked
  have hclear : ClearAll h (t.system.process e.1 e.2) :=
    clear_process hlist fun agpsType hr => hreq (by rw [hr]; rfl)
  exact ⟨hclear.list, queue_step_subset hclear.posts hqueue, hreq⟩

/-- A release that is reported as a success leaves its handle nowhere exactly if
the close is clean. -/
theorem stays_new_iff (hg : Good t) (hmem : h ∈ closing t.system e) :
    Away t e h ↔ CleanClose t.system e h := by
  obtain ⟨hreq, hclosed⟩ := closes_process hg.1 (mem_closing.mp hmem).1
  have hnone : (t.system.request e.2).map Prod.fst ≠ some h := by rw [hreq]; simp
  have hkeeps : ∀ n sm, e.2 = .releaseATL h → (fresh t.system).findSubscriber h = some n →
      (fresh t.system).nif n = some sm → sm.mState = .released →
      h ∈ (t.step e).system.manager.held n := by
    intro n sm he hf hn hstate
    have hmanager : (t.step e).system.manager = (fresh t.system).releaseATL e.1 h := by
      show t.system.process e.1 e.2 = _
      rw [he]
      rfl
    rw [hmanager]
    exact released_keeps hf hn hstate
  constructor
  · intro hstays
    obtain ⟨hlist, hqueue, -⟩ := hstays
    refine ⟨?_, fun hq => hqueue (List.map_subset _ (queue_subset hreq) hq), ?_⟩
    · rcases hclosed with ⟨i, hin⟩ | ⟨he, n, sm, hf, hn, hstate⟩
      · have hone : ∀ n, h ∈ t.system.manager.held n → n = i := fun n hn => by
          by_contra hne
          have hleft : h ∈ (t.system.process e.1 e.2).held n := hin.held_iff.mpr ⟨hne, hn⟩
          exact hlist n hleft
        exact fun n k hn hk => (hone n hn).trans (hone k hk).symm
      · exact absurd (hkeeps n sm he hf hn hstate) (hlist n)
    · intro hrel n hf sm hn hstate
      have he : e.2 = .releaseATL h := by
        cases hmsg : e.2 with
        | releaseATL connHandle =>
          rw [hmsg] at hrel
          rw [show connHandle = h by simpa [releases] using hrel]
        | _ => rw [hmsg] at hrel; cases hrel
      exact hlist n (hkeeps n sm he hf (by cases n <;> exact hn) hstate)
  · intro hclean
    obtain ⟨hunique, hqueue, hstates⟩ := hclean
    rcases hclosed with ⟨i, hin⟩ | ⟨he, n, sm, hf, hn, hstate⟩
    · refine ⟨fun n hn => ?_, queue_step_subset hin.posts hqueue, hnone⟩
      obtain ⟨hne, hold⟩ := hin.held_iff.mp hn
      have hheld := hin.held
      rw [held_fresh] at hheld
      exact hne (hunique n i hold hheld)
    · have hrel : releases e.2 h = true := by rw [he]; simp [releases]
      exact absurd hstate (hstates hrel n hf sm (by cases n <;> exact hn))

theorem staysClosed_iff (hg : Good t) : StaysClosed t e ↔ ClosesCleanly t e := by
  constructor
  · exact fun hs h hmem => (stays_new_iff hg hmem).mp (hs h (List.mem_append_right _ hmem))
  · intro hc h hmem
    rcases List.mem_append.mp hmem with hold | hnew
    · obtain ⟨hold, hasks⟩ := List.mem_filter.mp hold
      exact stays_old hg hold (by simpa using hasks)
    · exact (stays_new_iff hg hnew).mpr (hc h hnew)

theorem good_step (hg : Good t) (hs : StaysClosed t e) : Good (t.step e) :=
  ⟨nodup_process hg.1 e.1 e.2, fun h hmem => ⟨(hs h hmem).1, (hs h hmem).2.1⟩⟩

theorem good_start : Good .start := by
  refine ⟨fun n => ?_, fun _ hmem => (by cases hmem)⟩
  cases n <;> exact List.nodup_nil

end

/-- **In every run, the handles whose release was reported as a success stay out
of every list and every request exactly if every close is clean.** -/
theorem stay_closed_iff_clean (es : List (AgpsEnv × AgpsMsg)) :
    Steps Tracked.step StaysClosed .start es ↔ Steps Tracked.step ClosesCleanly .start es :=
  steps_iff_guard (I := Good) (A := fun _ _ => True) (fun _ _ hg _ => staysClosed_iff hg)
    (fun _ _ hg _ hs => good_step hg hs) good_start (steps_of_forall (fun _ _ => trivial) _ es)

/-- The data service is busy, and its retries go on. -/
def busyEnv : AgpsEnv :=
  ⟨true, true, some 0, some LOC_API_ADAPTER_ERR_ENGINE_BUSY, true⟩

/-- A released emergency request is reported as closed, and the retry timer
posts it again. -/
theorem released_retried : ¬ Steps Tracked.step StaysClosed .start
    [(busyEnv, .initAgps), (busyEnv, .requestATL 1 LOC_AGPS_TYPE_SUPL_ES),
      (busyEnv, .releaseATL 1), (busyEnv, .retryTimer)] := by
  decide

end DeviceHal.Gnss.ClosedHandles
