import DeviceHal.Lib.Run
import DeviceHal.Gnss.AgpsMachine

/-! # State and subscribers of the base machine

The events a base machine receives from its manager, and what its state says
about its list: no subscribers when released, an active one when pending or
acquired. Every transition function keeps this; the modem restart edits the
list behind their back. -/
namespace DeviceHal.Gnss.AgpsSubscribers
open DeviceHal.Lib.Run DeviceHal.Gnss.AgpsMachine DeviceHal.Gnss.AgpsMachine.AgpsStateMachine

/-- What reaches one machine. A request brings a new active subscriber, a
release the subscriber found under its handle. -/
inductive MachineEvent where
  | requestATL (connHandle : Int) (waitForCloseComplete : Bool)
  | releaseATL (connHandle : Int)
  | granted
  | released
  | denied
  | handleModemSSR
deriving DecidableEq

def handle (ds : DSClient) (sm : AgpsStateMachine) : MachineEvent → AgpsStateMachine
  | .requestATL connHandle wait =>
    (sm.setCurrentSubscriber ⟨connHandle, wait, false⟩).processAgpsEvent ds .subscribe
  | .releaseATL connHandle =>
    match sm.getSubscriber connHandle with
    | none => sm
    | some s => (sm.setCurrentSubscriber s).processAgpsEvent ds .unsubscribe
  | .granted => sm.processAgpsEvent ds .granted
  | .released => sm.processAgpsEvent ds .released
  | .denied => sm.processAgpsEvent ds .denied
  | .handleModemSSR => sm.dropAllSubscribers

/-! ## Lists of subscribers -/

def handles (l : List AgpsSubscriber) : List Int := l.map (·.mConnHandle)

theorem mem_handles {l : List AgpsSubscriber} {h : Int} :
    h ∈ handles l ↔ ∃ s ∈ l, s.mConnHandle = h := List.mem_map

theorem handles_setInactive (h : Int) (l : List AgpsSubscriber) :
    handles (setInactive h l) = handles l := by
  induction l with
  | nil => rfl
  | cons s rest ih =>
    simp only [setInactive]
    split
    · rfl
    · simp only [handles, List.map_cons, List.cons.injEq, true_and] at ih ⊢
      exact ih

/-- Marking makes no subscriber active. -/
theorem mem_of_mem_setInactive {h : Int} {l : List AgpsSubscriber} {s : AgpsSubscriber}
    (hs : s ∈ setInactive h l) (ha : s.mIsInactive = false) : s ∈ l := by
  induction l with
  | nil => cases hs
  | cons t rest ih =>
    simp only [setInactive] at hs
    split at hs
    · rcases List.mem_cons.mp hs with rfl | hs
      · cases ha
      · exact List.mem_cons_of_mem _ hs
    · rcases List.mem_cons.mp hs with rfl | hs
      · exact List.mem_cons_self
      · exact List.mem_cons_of_mem _ (ih hs)

theorem addSubscriber_list (sm : AgpsStateMachine) (s : AgpsSubscriber) :
    (sm.addSubscriber s).mSubscriberList =
      if s.mConnHandle ∈ handles sm.mSubscriberList then sm.mSubscriberList
      else sm.mSubscriberList ++ [s] := by
  have hany : sm.mSubscriberList.any (·.equals s) = true ↔
      s.mConnHandle ∈ handles sm.mSubscriberList := by
    simp [AgpsSubscriber.equals, mem_handles]
  simp only [addSubscriber, hany]
  split <;> rfl

@[simp] theorem addSubscriber_state (sm : AgpsStateMachine) (s : AgpsSubscriber) :
    (sm.addSubscriber s).mState = sm.mState := by
  unfold addSubscriber; split <;> rfl

@[simp] theorem addSubscriber_kind (sm : AgpsStateMachine) (s : AgpsSubscriber) :
    (sm.addSubscriber s).kind = sm.kind := by
  unfold addSubscriber; split <;> rfl

@[simp] theorem addSubscriber_calls (sm : AgpsStateMachine) (s : AgpsSubscriber) :
    (sm.addSubscriber s).calls = sm.calls := by
  unfold addSubscriber; split <;> rfl

/-- What the list becomes when its current subscriber retires. -/
def retired (s : AgpsSubscriber) (l : List AgpsSubscriber) : List AgpsSubscriber :=
  if s.mWaitForCloseComplete then setInactive s.mConnHandle l else l.filter (!·.equals s)

@[simp] theorem retireCurrent_list (sm : AgpsStateMachine) :
    sm.retireCurrent.mSubscriberList = retired sm.mCurrentSubscriber sm.mSubscriberList := by
  unfold retireCurrent retired
  split
  · rfl
  · rw [notify_delete, notify_keep]; rfl

@[simp] theorem retireCurrent_state (sm : AgpsStateMachine) :
    sm.retireCurrent.mState = sm.mState := by
  unfold retireCurrent
  split
  · rfl
  · rw [notify_delete, notify_keep]; rfl

@[simp] theorem retireCurrent_kind (sm : AgpsStateMachine) : sm.retireCurrent.kind = sm.kind := by
  unfold retireCurrent
  split
  · rfl
  · rw [notify_delete, notify_keep]; rfl

/-! ## One step: state and list

What each transition function does to the state and to the list, for both
classes; only the state after a request depends on the data connection. -/

section
variable (sm : AgpsStateMachine) (ds : DSClient)

theorem process_subscribe :
    sm.processAgpsEvent ds .subscribe = sm.processAgpsEventSubscribe ds := by
  simp [processAgpsEvent]

theorem process_unsubscribe :
    sm.processAgpsEvent ds .unsubscribe = sm.processAgpsEventUnsubscribe ds := by
  simp [processAgpsEvent]

theorem process_granted : sm.processAgpsEvent ds .granted = sm.processAgpsEventGranted := by
  simp [processAgpsEvent]

theorem process_denied : sm.processAgpsEvent ds .denied = sm.processAgpsEventDenied ds := by
  simp [processAgpsEvent]

theorem process_released_base (hk : sm.kind = .base) :
    sm.processAgpsEvent ds .released = sm.processAgpsEventReleased ds := by
  simp [processAgpsEvent, hk]

theorem subscribe_list :
    (sm.processAgpsEventSubscribe ds).mSubscriberList =
      (sm.addSubscriber sm.mCurrentSubscriber).mSubscriberList := by
  unfold processAgpsEventSubscribe
  split
  · dsimp only
    split
    · rw [transitionState_list, request_list]
    · rw [request_list]
  · rfl
  · simp only [addSubscriber_list, notify_keep]
  · rfl

theorem subscribe_state_base (hk : sm.kind = .base) :
    (sm.processAgpsEventSubscribe ds).mState =
      if sm.mState = .released then .pending else sm.mState := by
  unfold processAgpsEventSubscribe
  split
  · rename_i hs
    dsimp only
    rw [request_base _ (by simpa using hk)]
    simp [hs]
  · rename_i hs; simp [hs]
  · rename_i hs; simp [notify_keep, hs]
  · rename_i hs; simp [hs]

/-- The state after an unsubscription outside the released state, from the
list that is left. -/
def afterRetire (state : AgpsState) (l : List AgpsSubscriber) : AgpsState :=
  if l.isEmpty then .released
  else if state = .releasing ∨ !l.any (!·.mIsInactive) then .releasing else state

theorem unsubscribe_list :
    (sm.processAgpsEventUnsubscribe ds).mSubscriberList =
      if sm.mState = .released then sm.mSubscriberList
      else retired sm.mCurrentSubscriber sm.mSubscriberList := by
  unfold processAgpsEventUnsubscribe
  split
  · rename_i hs; simp [hs, notify_keep]
  · rename_i hs; simp only [hs, reduceCtorEq, if_false]; split <;> [simp; (split <;> simp)]
  · rename_i hs; simp only [hs, reduceCtorEq, if_false]; split <;> [simp; (split <;> simp)]
  · rename_i hs; simp only [hs, reduceCtorEq, if_false]; split <;> simp

theorem unsubscribe_state :
    (sm.processAgpsEventUnsubscribe ds).mState =
      if sm.mState = .released then .released
      else afterRetire sm.mState (retired sm.mCurrentSubscriber sm.mSubscriberList) := by
  have hany : sm.retireCurrent.anyActiveSubscribers =
      (retired sm.mCurrentSubscriber sm.mSubscriberList).any (!·.mIsInactive) := by
    rw [anyActiveSubscribers, retireCurrent_list]
  unfold processAgpsEventUnsubscribe afterRetire
  cases hs : sm.mState with
  | released => simp [hs, notify_keep]
  | releasing =>
    simp only [retireCurrent_list, reduceCtorEq, if_false, true_or, if_true]
    split <;> simp [hs]
  | pending | acquired =>
    simp only [retireCurrent_list, hany, reduceCtorEq, if_false, false_or]
    split
    · simp
    · split <;> simp [hs]

theorem granted_list : sm.processAgpsEventGranted.mSubscriberList = sm.mSubscriberList := by
  unfold processAgpsEventGranted
  split <;> simp

theorem granted_state :
    sm.processAgpsEventGranted.mState = if sm.mState = .pending then .acquired else sm.mState := by
  unfold processAgpsEventGranted
  cases hs : sm.mState <;> simp [hs]

/-- The subscribers left once the close is complete. -/
def stillActive (l : List AgpsSubscriber) : List AgpsSubscriber := l.filter (!·.mIsInactive)

theorem completeRelease_list :
    (sm.completeRelease ds).mSubscriberList = stillActive sm.mSubscriberList := by
  unfold completeRelease
  dsimp only
  split <;> simp [stillActive, covers]

theorem completeRelease_state :
    (sm.completeRelease ds).mState =
      if stillActive sm.mSubscriberList = [] then .released else .pending := by
  have hany : (sm.notifyAllSubscribers .released true .forInactiveSubscribers).anyActiveSubscribers
      = true ↔ stillActive sm.mSubscriberList ≠ [] := by
    simp only [anyActiveSubscribers, notifyAll_list, if_true, covers, stillActive]
    simp [List.filter_eq_nil_iff]
  unfold completeRelease
  simp only [hany]
  split <;> simp_all

theorem released_list :
    (sm.processAgpsEventReleased ds).mSubscriberList =
      match sm.mState with
      | .released | .pending => sm.mSubscriberList
      | .acquired => []
      | .releasing => stillActive sm.mSubscriberList := by
  unfold processAgpsEventReleased
  cases hs : sm.mState <;> simp [completeRelease_list, covers]

theorem released_state :
    (sm.processAgpsEventReleased ds).mState =
      match sm.mState with
      | .released => .released
      | .pending => .pending
      | .acquired => .released
      | .releasing => if stillActive sm.mSubscriberList = [] then .released else .pending := by
  unfold processAgpsEventReleased
  cases hs : sm.mState <;> simp [completeRelease_state, hs]

theorem denied_list :
    (sm.processAgpsEventDenied ds).mSubscriberList =
      match sm.mState with
      | .released | .acquired => sm.mSubscriberList
      | .pending => []
      | .releasing => stillActive sm.mSubscriberList := by
  unfold processAgpsEventDenied
  cases hs : sm.mState <;> simp [completeRelease_list, covers]

theorem denied_state :
    (sm.processAgpsEventDenied ds).mState =
      match sm.mState with
      | .released => .released
      | .acquired => .acquired
      | .pending => .released
      | .releasing => if stillActive sm.mSubscriberList = [] then .released else .pending := by
  unfold processAgpsEventDenied
  cases hs : sm.mState <;> simp [completeRelease_state, hs]

end

/-! ## The class of a machine never changes -/

/-- A release outside the released state retires the subscriber, and may end the
data connection then. -/
theorem unsubscribe_cases (sm : AgpsStateMachine) (ds : DSClient) (hs : sm.mState ≠ .released) :
    (∃ state, sm.processAgpsEventUnsubscribe ds =
        ((sm.retireCurrent.transitionState state).requestOrReleaseDataConn ds false).1) ∨
      (∃ state, sm.processAgpsEventUnsubscribe ds = sm.retireCurrent.transitionState state) ∨
      sm.processAgpsEventUnsubscribe ds = sm.retireCurrent := by
  unfold processAgpsEventUnsubscribe
  split
  · contradiction
  · dsimp only
    split
    · exact .inl ⟨_, rfl⟩
    · split
      · exact .inl ⟨_, rfl⟩
      · exact .inr (.inr rfl)
  · dsimp only
    split
    · exact .inl ⟨_, rfl⟩
    · split
      · exact .inl ⟨_, rfl⟩
      · exact .inr (.inr rfl)
  · dsimp only
    split
    · exact .inr (.inl ⟨_, rfl⟩)
    · exact .inr (.inr rfl)

theorem unsubscribe_released (sm : AgpsStateMachine) (ds : DSClient) (hs : sm.mState = .released) :
    sm.processAgpsEventUnsubscribe ds =
      sm.notifyEventToSubscriber .unsubscribe sm.mCurrentSubscriber false := by
  simp only [processAgpsEventUnsubscribe, hs]

theorem process_kind (sm : AgpsStateMachine) (ds : DSClient) (event : AgpsEvent) :
    (sm.processAgpsEvent ds event).kind = sm.kind := by
  have hr : (sm.completeRelease ds).kind = sm.kind := by
    unfold completeRelease; dsimp only; split <;> simp
  unfold processAgpsEvent
  dsimp only
  split
  · unfold processAgpsEventSubscribe
    split
    · dsimp only; split <;> simp
    · simp
    · simp [notify_keep]
    · simp
  · by_cases hs : sm.mState = .released
    · rw [unsubscribe_released sm ds hs]
      simp [notify_keep]
    · rcases unsubscribe_cases sm ds hs with ⟨state, heq⟩ | ⟨state, heq⟩ | heq <;> simp [heq]
  · unfold processAgpsEventGranted; split <;> simp
  · unfold processAgpsEventReleased; split <;> simp [hr]
  · unfold processAgpsEventDenied; split <;> simp [hr]

theorem handle_kind (ds : DSClient) (sm : AgpsStateMachine) (e : MachineEvent) :
    (handle ds sm e).kind = sm.kind := by
  cases e with
  | requestATL h w => exact process_kind _ ds _
  | releaseATL h =>
    simp only [handle]
    split
    · rfl
    · exact process_kind _ ds _
  | granted | released | denied => exact process_kind _ ds _
  | handleModemSSR => rfl

/-! ## The state says who is in the list -/

/-- Released means nobody is subscribed; pending or acquired means somebody is
actively subscribed. -/
structure StateFits (sm : AgpsStateMachine) : Prop where
  released : sm.mState = .released → sm.mSubscriberList = []
  waiting : sm.mState = .pending ∨ sm.mState = .acquired →
    ∃ s ∈ sm.mSubscriberList, s.mIsInactive = false

/-- A modem restart meets the machine in a state that needs no subscriber. -/
def RestartsIdle (sm : AgpsStateMachine) (e : MachineEvent) : Prop :=
  e = .handleModemSSR → sm.mState = .released ∨ sm.mState = .releasing

instance (sm : AgpsStateMachine) (e : MachineEvent) : Decidable (RestartsIdle sm e) :=
  inferInstanceAs (Decidable (_ → _))

theorem stateFits_new (agpsType : AGpsExtType) : StateFits (new agpsType) :=
  ⟨fun _ => rfl, fun h => by simp [new] at h⟩

theorem stateFits_subscribe (ds : DSClient) {sm : AgpsStateMachine} (hk : sm.kind = .base)
    (h : StateFits sm) (connHandle : Int) (wait : Bool) :
    StateFits (handle ds sm (.requestATL connHandle wait)) := by
  simp only [handle, process_subscribe]
  set s : AgpsSubscriber := ⟨connHandle, wait, false⟩
  have hl : ((sm.setCurrentSubscriber s).processAgpsEventSubscribe ds).mSubscriberList =
      if connHandle ∈ handles sm.mSubscriberList then sm.mSubscriberList
      else sm.mSubscriberList ++ [s] :=
    (subscribe_list _ ds).trans (addSubscriber_list _ _)
  have hst : ((sm.setCurrentSubscriber s).processAgpsEventSubscribe ds).mState =
      if sm.mState = .released then .pending else sm.mState :=
    subscribe_state_base _ ds hk
  refine ⟨fun hr => ?_, fun hw => ?_⟩
  · rw [hst] at hr
    split at hr
    · cases hr
    · contradiction
  · rw [hst] at hw
    rw [hl]
    by_cases hs : sm.mState = .released
    · rw [h.released hs]
      exact ⟨s, by simp [handles], rfl⟩
    · simp only [hs, if_false] at hw
      obtain ⟨t, ht, ha⟩ := h.waiting hw
      refine ⟨t, ?_, ha⟩
      split
      · exact ht
      · exact List.mem_append_left _ ht

theorem stateFits_unsubscribe (ds : DSClient) {sm : AgpsStateMachine}
    (h : StateFits sm) (s : AgpsSubscriber) :
    StateFits ((sm.setCurrentSubscriber s).processAgpsEventUnsubscribe ds) := by
  have hl : ((sm.setCurrentSubscriber s).processAgpsEventUnsubscribe ds).mSubscriberList =
      if sm.mState = .released then sm.mSubscriberList else retired s sm.mSubscriberList :=
    unsubscribe_list _ ds
  have hst : ((sm.setCurrentSubscriber s).processAgpsEventUnsubscribe ds).mState =
      if sm.mState = .released then .released
      else afterRetire sm.mState (retired s sm.mSubscriberList) :=
    unsubscribe_state _ ds
  by_cases hr : sm.mState = .released
  · simp only [hr, if_true] at hl hst
    exact ⟨fun _ => hl.trans (h.released hr), fun hw => by simp [hst] at hw⟩
  · simp only [hr, if_false] at hl hst
    unfold afterRetire at hst
    refine ⟨fun hr' => ?_, fun hw => ?_⟩
    · rw [hl]
      rw [hst] at hr'
      split at hr'
      · rename_i he; simpa using he
      · split at hr'
        · cases hr'
        · contradiction
    · rw [hst] at hw
      rw [hl]
      split at hw
      · simp at hw
      · split at hw
        · simp at hw
        · rename_i hn
          rw [not_or, Bool.not_eq_true, Bool.not_eq_false'] at hn
          simpa using hn.2

theorem stateFits_completed {state : AgpsState} {l : List AgpsSubscriber} {sm : AgpsStateMachine}
    (hs : state = if stillActive l = [] then .released else .pending)
    (hst : sm.mState = state) (hl : sm.mSubscriberList = stillActive l) : StateFits sm := by
  refine ⟨fun hr => ?_, fun _ => ?_⟩
  · rw [hst, hs] at hr
    rw [hl]
    split at hr
    · assumption
    · cases hr
  · rename_i hw
    rw [hst, hs] at hw
    split at hw
    · simp at hw
    · rename_i hne
      obtain ⟨s, hm⟩ := List.exists_mem_of_ne_nil _ hne
      rw [hl]
      exact ⟨s, hm, by simpa [stillActive] using (List.mem_filter.mp hm).2⟩

theorem stateFits_step (ds : DSClient) {sm : AgpsStateMachine} (hk : sm.kind = .base)
    (h : StateFits sm) {e : MachineEvent} (he : e ≠ .handleModemSSR) :
    StateFits (handle ds sm e) := by
  cases e with
  | requestATL connHandle wait => exact stateFits_subscribe ds hk h connHandle wait
  | releaseATL connHandle =>
    simp only [handle]
    split
    · exact h
    · rw [process_unsubscribe]; exact stateFits_unsubscribe ds h _
  | granted =>
    simp only [handle, process_granted]
    refine ⟨fun hr => ?_, fun hw => ?_⟩
    · rw [granted_state] at hr
      rw [granted_list]
      split at hr
      · cases hr
      · exact h.released hr
    · rw [granted_state] at hw
      rw [granted_list]
      refine h.waiting ?_
      split at hw
      · left; assumption
      · exact hw
  | released =>
    simp only [handle, process_released_base sm ds hk]
    have hl := released_list sm ds
    have hst := released_state sm ds
    cases hs : sm.mState with
    | releasing =>
      simp only [hs] at hl hst
      exact stateFits_completed rfl hst hl
    | released | pending =>
      simp only [hs] at hl hst
      exact ⟨fun hr => hl.trans (h.released (hs.trans (hst.symm.trans hr))),
        fun hw => hl ▸ h.waiting (by rw [hst] at hw; rw [hs]; exact hw)⟩
    | acquired =>
      simp only [hs] at hl hst
      exact ⟨fun _ => hl, fun hw => by simp [hst] at hw⟩
  | denied =>
    simp only [handle, process_denied]
    have hl := denied_list sm ds
    have hst := denied_state sm ds
    cases hs : sm.mState with
    | releasing =>
      simp only [hs] at hl hst
      exact stateFits_completed rfl hst hl
    | released | acquired =>
      simp only [hs] at hl hst
      exact ⟨fun hr => hl.trans (h.released (hs.trans (hst.symm.trans hr))),
        fun hw => hl ▸ h.waiting (by rw [hst] at hw; rw [hs]; exact hw)⟩
    | pending =>
      simp only [hs] at hl hst
      exact ⟨fun _ => hl, fun hw => by simp [hst] at hw⟩
  | handleModemSSR => exact absurd rfl he

/-- A modem restart empties the list and leaves the state. -/
theorem stateFits_restart (ds : DSClient) (sm : AgpsStateMachine) :
    StateFits (handle ds sm .handleModemSSR) ↔
      sm.mState = .released ∨ sm.mState = .releasing := by
  constructor
  · intro h
    have hw := h.waiting
    simp only [handle, dropAllSubscribers, List.not_mem_nil, false_and, exists_false] at hw
    cases hs : sm.mState <;> simp_all
  · intro h
    refine ⟨fun _ => rfl, fun hw => ?_⟩
    simp only [handle, dropAllSubscribers] at hw
    rcases h with h | h <;> simp [h] at hw

/-- **State and list fit exactly in the runs that restart an idle machine.**
From a new base machine, every event of a run leaves a list that fits the
state if and only if every modem restart of the run meets the machine released
or releasing. -/
theorem stateFits_iff (ds : DSClient) (agpsType : AGpsExtType) (es : List MachineEvent) :
    Steps (handle ds) (fun sm e => StateFits (handle ds sm e)) (new agpsType) es ↔
      Steps (handle ds) RestartsIdle (new agpsType) es := by
  refine steps_iff_guard (I := fun sm => sm.kind = .base ∧ StateFits sm) (A := fun _ _ => True)
    (fun sm e hi _ => ?_) (fun sm e hi _ hq => ⟨(handle_kind ds sm e).trans hi.1, hq⟩)
    ⟨rfl, stateFits_new agpsType⟩ (steps_of_forall (fun _ _ => trivial) _ _)
  by_cases he : e = .handleModemSSR
  · subst he
    exact (stateFits_restart ds sm).trans ⟨fun h _ => h, fun h => h rfl⟩
  · exact iff_of_true (stateFits_step ds hi.1 hi.2 he) (fun h => absurd h he)

/-- A restart while the connection is being set up leaves a pending machine
without subscribers. -/
theorem restart_leaves_pending :
    ¬ Steps (handle ⟨true, some 0⟩) (fun sm e => StateFits (handle ⟨true, some 0⟩ sm e))
      (new LOC_AGPS_TYPE_SUPL) [.requestATL 5 false, .handleModemSSR] := by
  intro hh
  obtain ⟨-, h, -⟩ := hh
  obtain ⟨s, hm, -⟩ := h.waiting (Or.inl (by decide))
  exact List.not_mem_nil hm

end DeviceHal.Gnss.AgpsSubscribers
