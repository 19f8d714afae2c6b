import DeviceHal.Gnss.AgpsSubscribers

/-! # PENDING and the emergency data call

Runs of the data service machine with any result of the start function at
each event. Two places start the call and move to PENDING: a subscription in
the released state, which looks at the result, and the completion of a close,
which does not. The run therefore carries the last result beside the machine. -/
namespace DeviceHal.Gnss.AgpsDataCall
open DeviceHal.Lib.Run DeviceHal.Gnss.AgpsMachine DeviceHal.Gnss.AgpsMachine.AgpsStateMachine
open DeviceHal.Gnss.AgpsSubscribers

/-! ## Runs of the data service machine -/

inductive DSEvent where
  | subscribe (connHandle : Int) (waitForCloseComplete : Bool)
  | unsubscribe (connHandle : Int)
  | dataCallOpened
  | dataCallClosed
  | retryCallback
deriving DecidableEq

/-- An event with what the data service client does while it is processed. -/
structure DSInput where
  event : DSEvent
  /-- What `mDSClientOpenAndStartDataCallFn` returns if it is called. -/
  startResult : Int
  stopDataCallFn : Bool
deriving DecidableEq

def DSInput.ds (i : DSInput) : DSClient := ⟨i.stopDataCallFn, some i.startResult⟩

def dsHandle (sm : AgpsStateMachine) (i : DSInput) : AgpsStateMachine :=
  match i.event with
  | .subscribe connHandle wait => handle i.ds sm (.requestATL connHandle wait)
  | .unsubscribe connHandle => handle i.ds sm (.releaseATL connHandle)
  | .dataCallOpened => handle i.ds sm .granted
  | .dataCallClosed => handle i.ds sm .released
  | .retryCallback => sm.retryCallback

/-- The machine with what happened to its data call. -/
structure DSHistory where
  sm : AgpsStateMachine
  /-- The result of the most recent start. -/
  lastStart : Option Int
  /-- An opened or closed event has been processed since that start. -/
  reported : Bool
deriving DecidableEq

def DSHistory.new : DSHistory := ⟨newDS, none, false⟩

def DSEvent.isReport : DSEvent → Bool
  | .dataCallOpened | .dataCallClosed => true
  | _ => false

/-- One event; `calls` holds the calls of this event only, and a start in them
is the most recent one. -/
def dsStep (h : DSHistory) (i : DSInput) : DSHistory :=
  let sm := dsHandle { h.sm with calls := [] } i
  if .openAndStartDataCall ∈ sm.calls then ⟨sm, some i.startResult, false⟩
  else ⟨sm, h.lastStart, h.reported || i.event.isReport⟩

/-- PENDING means a call is being set up. -/
def SettingUp (h : DSHistory) : Prop :=
  h.sm.mState = .pending → h.lastStart = some LOC_API_ADAPTER_ERR_SUCCESS ∧ h.reported = false

instance (h : DSHistory) : Decidable (SettingUp h) := inferInstanceAs (Decidable (_ → _))

/-- The event completes a close while somebody waits for a new connection. -/
def Reopens (sm : AgpsStateMachine) (e : DSEvent) : Prop :=
  e = .dataCallClosed ∧ sm.mState = .releasing ∧ sm.anyActiveSubscribers = true

/-- A close that is followed by a new start is processed while the start
function succeeds. -/
def ReopenSucceeds (h : DSHistory) (i : DSInput) : Prop :=
  Reopens h.sm i.event → i.startResult = LOC_API_ADAPTER_ERR_SUCCESS

/-! ## What starts the call -/

section
variable (sm : AgpsStateMachine) (i : DSInput)

theorem start_of_active (ha : sm.anyActiveSubscribers = true) :
    .openAndStartDataCall ∈ (sm.startDataCall i.ds).1.calls := by
  obtain ⟨s, hs⟩ : ∃ s, sm.getFirstSubscriber false = some s := by
    rw [← Option.isSome_iff_exists, getFirstSubscriber, List.find?_isSome]
    simpa [anyActiveSubscribers] using ha
  simp only [startDataCall, hs, DSInput.ds]
  split
  · split
    · simp [notify_keep]
    · simp
  · split
    · simp [notify_keep]
    · simp

/-- The start reports success only for a call that was made and succeeded. -/
theorem start_of_zero (h0 : (sm.startDataCall i.ds).2 = 0) :
    i.startResult = LOC_API_ADAPTER_ERR_SUCCESS ∧
      .openAndStartDataCall ∈ (sm.startDataCall i.ds).1.calls := by
  unfold startDataCall at h0 ⊢
  cases hs : sm.getFirstSubscriber false with
  | none => simp [hs] at h0
  | some s =>
    simp only [hs, DSInput.ds] at h0 ⊢
    split at h0
    · rename_i hbusy
      split at h0
      · simp only [hbusy, LOC_API_ADAPTER_ERR_ENGINE_BUSY] at h0; omega
      · simp at h0
    · rename_i hbusy
      split at h0
      · rename_i hun
        simp only [hun, LOC_API_ADAPTER_ERR_UNSUPPORTED] at h0; omega
      · rename_i hun
        simp only [hbusy, hun, if_false]
        exact ⟨h0, by simp⟩

theorem request_ds (hk : sm.kind = .ds) (ds : DSClient) :
    sm.requestOrReleaseDataConn ds true = sm.startDataCall ds := by
  simp [requestOrReleaseDataConn, hk]

/-- The completion of a close with somebody waiting starts the call, whatever
comes of it. -/
theorem completeRelease_starts (hk : sm.kind = .ds) (ha : sm.anyActiveSubscribers = true) :
    (sm.completeRelease i.ds).mState = .pending ∧
      .openAndStartDataCall ∈ (sm.completeRelease i.ds).calls := by
  set sm' := sm.notifyAllSubscribers .released true .forInactiveSubscribers with hsm'
  have ha' : sm'.anyActiveSubscribers = true := by
    simpa [hsm', anyActiveSubscribers, covers] using ha
  have hk' : (sm'.transitionState .pending).kind = .ds := by simpa [hsm'] using hk
  unfold completeRelease
  rw [← hsm']
  simp only [ha', if_true]
  refine ⟨by simp, ?_⟩
  rw [request_ds _ hk']
  exact start_of_active _ i ha'

theorem completeRelease_idle (ha : sm.anyActiveSubscribers = false) :
    (sm.completeRelease i.ds).mState = .released := by
  have hl : stillActive sm.mSubscriberList = [] := by
    simpa [anyActiveSubscribers, stillActive] using ha
  rw [completeRelease_state, if_pos hl]

theorem dsHandle_kind : (dsHandle sm i).kind = sm.kind := by
  unfold dsHandle
  split
  · exact handle_kind i.ds sm _
  · exact handle_kind i.ds sm _
  · exact handle_kind i.ds sm _
  · exact handle_kind i.ds sm _
  · unfold retryCallback; split <;> rfl

end

/-! ## One event

What an event that leaves the machine pending can have done: stayed there
without a start or a report, started the call successfully, or completed a
close with somebody waiting. -/

section
variable {sm : AgpsStateMachine} {i : DSInput}

theorem pending_subscribe (hc : sm.calls = []) (hk : sm.kind = .ds) {s : AgpsSubscriber}
    (hp : ((sm.setCurrentSubscriber s).processAgpsEventSubscribe i.ds).mState = .pending) :
    let sm' := (sm.setCurrentSubscriber s).processAgpsEventSubscribe i.ds
    (sm.mState = .pending ∧ sm'.calls = []) ∨
      (i.startResult = LOC_API_ADAPTER_ERR_SUCCESS ∧ .openAndStartDataCall ∈ sm'.calls) := by
  intro sm'
  have hst : (sm.setCurrentSubscriber s).mState = sm.mState := rfl
  have hcur : (sm.setCurrentSubscriber s).mCurrentSubscriber = s := rfl
  have hkind : ((sm.setCurrentSubscriber s).addSubscriber s).kind = .ds :=
    (addSubscriber_kind _ s).trans hk
  cases hs : sm.mState with
  | released =>
    right
    simp only [sm', processAgpsEventSubscribe, hst, hs, hcur] at hp ⊢
    rw [request_ds _ hkind] at hp ⊢
    split at hp
    · rename_i h0
      have hz := start_of_zero _ i h0
      rw [if_pos h0]
      exact ⟨hz.1, by simpa using hz.2⟩
    · rw [(startDataCall_spec _ i.ds).2.1, addSubscriber_state, hst, hs] at hp
      cases hp
  | pending =>
    left
    refine ⟨rfl, ?_⟩
    simp only [sm', processAgpsEventSubscribe, hst, hs, addSubscriber_calls]
    exact hc
  | acquired =>
    simp [processAgpsEventSubscribe, hst, hs, notify_keep] at hp
  | releasing =>
    simp [processAgpsEventSubscribe, hst, hs] at hp

theorem retireCurrent_no_start (hc : sm.calls = []) (hk : sm.kind = .ds) :
    .openAndStartDataCall ∉ sm.retireCurrent.calls := by
  unfold retireCurrent
  split
  · simp [setCurrentInactive, hc]
  · rw [notify_delete, notify_keep]
    simp [deleteSubscriber, hc, notice, hk]

theorem pending_unsubscribe (hc : sm.calls = []) (hk : sm.kind = .ds) {s : AgpsSubscriber}
    (hp : ((sm.setCurrentSubscriber s).processAgpsEventUnsubscribe i.ds).mState = .pending) :
    sm.mState = .pending ∧ .openAndStartDataCall ∉
      ((sm.setCurrentSubscriber s).processAgpsEventUnsubscribe i.ds).calls := by
  have hst : (sm.setCurrentSubscriber s).mState = sm.mState := rfl
  have hno : .openAndStartDataCall ∉ (sm.setCurrentSubscriber s).retireCurrent.calls :=
    retireCurrent_no_start hc hk
  cases hs : sm.mState with
  | released => rw [unsubscribe_state, if_pos (hst.trans hs)] at hp; cases hp
  | pending =>
    refine ⟨rfl, ?_⟩
    simp only [processAgpsEventUnsubscribe, hst, hs] at hp ⊢
    split at hp
    · simp at hp
    · rename_i hne
      rw [if_neg hne]
      split at hp
      · simp at hp
      · rename_i hact
        rw [if_neg hact]
        exact hno
  | acquired =>
    simp only [processAgpsEventUnsubscribe, hst, hs] at hp
    split at hp
    · simp at hp
    · split at hp
      · simp at hp
      · rw [retireCurrent_state, hst, hs] at hp; cases hp
  | releasing =>
    simp only [processAgpsEventUnsubscribe, hst, hs] at hp
    split at hp
    · simp at hp
    · rw [retireCurrent_state, hst, hs] at hp; cases hp

/-- A closed event leaves the machine pending only by starting the call again. -/
theorem pending_closed (hk : sm.kind = .ds)
    (hp : (sm.processAgpsEvent i.ds .released).mState = .pending) :
    sm.mState = .releasing ∧ sm.anyActiveSubscribers = true ∧
      .openAndStartDataCall ∈ (sm.processAgpsEvent i.ds .released).calls := by
  cases hs : sm.mState with
  | pending => simp [processAgpsEvent, hk, hs, processAgpsEventDenied] at hp
  | released => simp [processAgpsEvent, hk, hs, processAgpsEventReleased] at hp
  | acquired => simp [processAgpsEvent, hk, hs, processAgpsEventReleased] at hp
  | releasing =>
    have he : sm.processAgpsEvent i.ds .released = sm.completeRelease i.ds := by
      simp [processAgpsEvent, hs, processAgpsEventReleased]
    cases ha : sm.anyActiveSubscribers with
    | false => rw [he, completeRelease_idle sm i ha] at hp; cases hp
    | true => exact ⟨rfl, rfl, he ▸ (completeRelease_starts sm i hk ha).2⟩

theorem pending_step (hc : sm.calls = []) (hk : sm.kind = .ds)
    (hp : (dsHandle sm i).mState = .pending) :
    (sm.mState = .pending ∧ .openAndStartDataCall ∉ (dsHandle sm i).calls ∧
      i.event.isReport = false) ∨
    (.openAndStartDataCall ∈ (dsHandle sm i).calls ∧
      (i.startResult = LOC_API_ADAPTER_ERR_SUCCESS ∨ Reopens sm i.event)) := by
  obtain ⟨e, r, f⟩ := i
  cases e with
  | subscribe h w =>
    simp only [dsHandle, handle, process_subscribe] at hp ⊢
    rcases pending_subscribe hc hk hp with hstay | hstart
    · left; exact ⟨hstay.1, by rw [hstay.2]; simp, rfl⟩
    · right; exact ⟨hstart.2, Or.inl hstart.1⟩
  | unsubscribe h =>
    left
    simp only [dsHandle, handle] at hp ⊢
    cases hg : sm.getSubscriber h with
    | none =>
      simp only [hg] at hp
      exact ⟨hp, by simp [hc], rfl⟩
    | some s =>
      simp only [hg, process_unsubscribe] at hp ⊢
      obtain ⟨hstay, hno⟩ := pending_unsubscribe hc hk hp
      exact ⟨hstay, hno, rfl⟩
  | dataCallOpened =>
    simp only [dsHandle, handle, process_granted, granted_state] at hp
    split at hp
    · cases hp
    · contradiction
  | dataCallClosed =>
    right
    simp only [dsHandle, handle] at hp ⊢
    obtain ⟨hs, ha, hstart⟩ := pending_closed hk hp
    exact ⟨hstart, Or.inr ⟨rfl, hs, ha⟩⟩
  | retryCallback =>
    left
    have hcalls : .openAndStartDataCall ∉ sm.retryCallback.calls ∧
        sm.retryCallback.mState = sm.mState := by
      unfold retryCallback
      split <;> simp [hc]
    exact ⟨hcalls.2 ▸ hp, hcalls.1, rfl⟩

theorem reopens_pending (hk : sm.kind = .ds) (hr : Reopens sm i.event) :
    (dsHandle sm i).mState = .pending ∧ .openAndStartDataCall ∈ (dsHandle sm i).calls := by
  obtain ⟨he, hs, ha⟩ := hr
  have hd : dsHandle sm i = sm.completeRelease i.ds := by
    simp [dsHandle, he, handle, processAgpsEvent, hs, processAgpsEventReleased]
  exact hd ▸ completeRelease_starts sm i hk ha

end

/-! ## Runs -/

theorem settingUp_step {h : DSHistory} (hk : h.sm.kind = .ds) (hset : SettingUp h) (i : DSInput) :
    SettingUp (dsStep h i) ↔ ReopenSucceeds h i := by
  set sm : AgpsStateMachine := { h.sm with calls := [] } with hsm
  have hst : sm.mState = h.sm.mState := rfl
  have hstep : dsStep h i = if .openAndStartDataCall ∈ (dsHandle sm i).calls then
      ⟨dsHandle sm i, some i.startResult, false⟩
    else ⟨dsHandle sm i, h.lastStart, h.reported || i.event.isReport⟩ := rfl
  have hkind : sm.kind = .ds := hk
  have hcalls : sm.calls = [] := rfl
  constructor
  · intro hpost hre
    have hre' : Reopens sm i.event := hre
    obtain ⟨hp, hcall⟩ := reopens_pending hkind hre'
    rw [hstep, if_pos hcall] at hpost
    exact Option.some.inj (hpost hp).1
  · intro hok
    rw [hstep]
    split
    · rename_i hcall
      intro hp
      rcases pending_step hcalls hkind hp with hstay | hstart
      · exact absurd hcall hstay.2.1
      · rcases hstart.2 with hz | hre
        · exact ⟨congrArg some hz, rfl⟩
        · exact ⟨congrArg some (hok hre), rfl⟩
    · rename_i hcall
      intro hp
      rcases pending_step hcalls hkind hp with hstay | hstart
      · obtain ⟨hlast, hrep⟩ := hset hstay.1
        exact ⟨hlast, by simp [hrep, hstay.2.2]⟩
      · exact absurd hstart.1 hcall

theorem dsStep_kind (h : DSHistory) (i : DSInput) : (dsStep h i).sm.kind = h.sm.kind := by
  unfold dsStep
  dsimp only
  split <;> exact dsHandle_kind _ i

/-- **PENDING means a call is being set up exactly in the runs whose new starts
after a close succeed.** -/
theorem settingUp_iff (is : List DSInput) :
    Steps dsStep (fun h i => SettingUp (dsStep h i)) DSHistory.new is ↔
      Steps dsStep ReopenSucceeds DSHistory.new is := by
  refine steps_iff_guard (I := fun h => h.sm.kind = .ds ∧ SettingUp h) (A := fun _ _ => True)
    (fun h i hi _ => settingUp_step hi.1 hi.2 i)
    (fun h i hi _ hq => ⟨(dsStep_kind h i).trans hi.1, hq⟩) ⟨rfl, fun hp => ?_⟩
    (steps_of_forall (fun _ _ => trivial) _ _)
  cases hp

/-- A new start that fails after a close leaves the machine pending. -/
theorem busy_reopen_stays_pending :
    ¬ Steps dsStep (fun h i => SettingUp (dsStep h i)) DSHistory.new
      [⟨.subscribe 1 true, LOC_API_ADAPTER_ERR_SUCCESS, true⟩,
        ⟨.unsubscribe 1, LOC_API_ADAPTER_ERR_SUCCESS, true⟩,
        ⟨.subscribe 2 true, LOC_API_ADAPTER_ERR_SUCCESS, true⟩,
        ⟨.dataCallClosed, LOC_API_ADAPTER_ERR_ENGINE_BUSY, true⟩] := by
  decide

end DeviceHal.Gnss.AgpsDataCall
