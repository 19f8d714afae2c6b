import Mathlib.Tactic

/-! # AgpsStateMachine and DSStateMachine

The state machines of `gnss/Agps.cpp`. `kind` says which of the two classes an
object belongs to and selects the overridden methods; the event functions are
the base class's and shared. `calls` logs the calls a machine makes through
its manager's callbacks, oldest first. `AGPS_STATE_INVALID` and
`AGPS_EVENT_INVALID` are never assigned or sent and are left out, and with
them the default branches. -/
namespace DeviceHal.Gnss.AgpsMachine

/-! ## Types of `Agps.h` and `gps_extended_c.h` -/

abbrev AGpsExtType := Int
def LOC_AGPS_TYPE_INVALID : AGpsExtType := -1
def LOC_AGPS_TYPE_SUPL : AGpsExtType := 1
def LOC_AGPS_TYPE_WWAN_ANY : AGpsExtType := 3
def LOC_AGPS_TYPE_SUPL_ES : AGpsExtType := 5

abbrev AGpsBearerType := Int
def AGPS_APN_BEARER_INVALID : AGpsBearerType := 0

def LOC_API_ADAPTER_ERR_SUCCESS : Int := 0
def LOC_API_ADAPTER_ERR_UNSUPPORTED : Int := 2
def LOC_API_ADAPTER_ERR_ENGINE_BUSY : Int := 6

inductive AgpsState where
  | released | pending | acquired | releasing
deriving DecidableEq

inductive AgpsEvent where
  | subscribe | unsubscribe | granted | released | denied
deriving DecidableEq

inductive AgpsNotificationType where
  | forAllSubscribers | forInactiveSubscribers | forActiveSubscribers
deriving DecidableEq

structure AgpsSubscriber where
  mConnHandle : Int
  mWaitForCloseComplete : Bool
  mIsInactive : Bool
deriving DecidableEq

/-- `equals` compares the handles only. -/
def AgpsSubscriber.equals (s t : AgpsSubscriber) : Bool := s.mConnHandle == t.mConnHandle

/-- The calls a machine makes through its manager. -/
inductive AgpsCall where
  /-- `mFrameworkStatusV4Cb`: request or release of the data connection. -/
  | frameworkStatus (type : AGpsExtType) (request : Bool)
  | atlOpenStatus (handle : Int) (isSuccess : Bool) (apn : Option (List Char))
      (bearer : AGpsBearerType) (type : AGpsExtType)
  | atlCloseStatus (handle : Int) (isSuccess : Bool)
  /-- A posted `AgpsMsgRequestATL`. -/
  | sendMsg (handle : Int) (type : AGpsExtType)
  | openAndStartDataCall
  | stopDataCall
  | closeDataCall
  | releaseDataServiceClient
  | initDataServiceClient (isDueToSSR : Bool)
  /-- `loc_timer_start` with the retry callback. -/
  | startRetryTimer (delayMsec : Nat)
deriving DecidableEq

/-- The data service client as the manager holds it while an event is
processed: whether the stop function is registered, and the start function's
result, `none` when that function is not registered. -/
structure DSClient where
  stopDataCallFn : Bool
  openAndStartDataCallFn : Option Int

inductive MachineKind where
  | base | ds
deriving DecidableEq

structure AgpsStateMachine where
  kind : MachineKind
  mSubscriberList : List AgpsSubscriber
  /-- Null before the first request, and set before every event that reads it. -/
  mCurrentSubscriber : AgpsSubscriber
  mState : AgpsState
  mAgpsType : AGpsExtType
  mAPN : Option (List Char)
  mBearer : AGpsBearerType
  /-- A field of `DSStateMachine` only. -/
  mRetries : Nat
  calls : List AgpsCall
deriving DecidableEq

def MAX_START_DATA_CALL_RETRIES : Nat := 4
def DATA_CALL_RETRY_DELAY_MSEC : Nat := 500

namespace AgpsStateMachine

/-- `new AgpsStateMachine(agpsManager, agpsType)`. -/
def new (agpsType : AGpsExtType) : AgpsStateMachine :=
  ⟨.base, [], ⟨0, false, false⟩, .released, agpsType, none, AGPS_APN_BEARER_INVALID, 0, []⟩

/-- `new DSStateMachine(agpsManager)`. -/
def newDS : AgpsStateMachine :=
  { new LOC_AGPS_TYPE_SUPL_ES with kind := .ds }

def emit (sm : AgpsStateMachine) (call : AgpsCall) : AgpsStateMachine :=
  { sm with calls := sm.calls ++ [call] }

def setCurrentSubscriber (sm : AgpsStateMachine) (s : AgpsSubscriber) : AgpsStateMachine :=
  { sm with mCurrentSubscriber := s }

def setBearer (sm : AgpsStateMachine) (bearer : AGpsBearerType) : AgpsStateMachine :=
  { sm with mBearer := bearer }

/-- `none` is a null name. -/
def setAPN (sm : AgpsStateMachine) (apn : Option (List Char)) (len : Nat) : AgpsStateMachine :=
  { sm with mAPN := apn.map (·.take len) }

def getAPN (sm : AgpsStateMachine) : Option (List Char) := sm.mAPN

def getBearer (sm : AgpsStateMachine) : AGpsBearerType := sm.mBearer

def transitionState (sm : AgpsStateMachine) (newState : AgpsState) : AgpsStateMachine :=
  { sm with mState := newState }

/-! ## The subscriber list -/

def addSubscriber (sm : AgpsStateMachine) (subscriberToAdd : AgpsSubscriber) : AgpsStateMachine :=
  if sm.mSubscriberList.any (·.equals subscriberToAdd) then sm
  else { sm with mSubscriberList := sm.mSubscriberList ++ [subscriberToAdd] }

def deleteSubscriber (sm : AgpsStateMachine) (subscriberToDelete : AgpsSubscriber) :
    AgpsStateMachine :=
  { sm with mSubscriberList := sm.mSubscriberList.filter (!·.equals subscriberToDelete) }

def anyActiveSubscribers (sm : AgpsStateMachine) : Bool :=
  sm.mSubscriberList.any (!·.mIsInactive)

def getSubscriber (sm : AgpsStateMachine) (connHandle : Int) : Option AgpsSubscriber :=
  sm.mSubscriberList.find? (·.mConnHandle == connHandle)

def getFirstSubscriber (sm : AgpsStateMachine) (isInactive : Bool) : Option AgpsSubscriber :=
  sm.mSubscriberList.find? (·.mIsInactive == isInactive)

def dropAllSubscribers (sm : AgpsStateMachine) : AgpsStateMachine :=
  { sm with mSubscriberList := [] }

/-- Set the flag of the first subscriber with the handle, which is the one
`getSubscriber` points to. -/
def setInactive (connHandle : Int) : List AgpsSubscriber → List AgpsSubscriber
  | [] => []
  | s :: rest =>
    if s.mConnHandle == connHandle then { s with mIsInactive := true } :: rest
    else s :: setInactive connHandle rest

/-- `mCurrentSubscriber->mIsInactive = true`, where the current subscriber is
an element of the list. -/
def setCurrentInactive (sm : AgpsStateMachine) : AgpsStateMachine :=
  { sm with
    mSubscriberList := setInactive sm.mCurrentSubscriber.mConnHandle sm.mSubscriberList
    mCurrentSubscriber := { sm.mCurrentSubscriber with mIsInactive := true } }

/-! ## Notifications and the data connection -/

def notifyEventToSubscriber (sm : AgpsStateMachine) (event : AgpsEvent) (s : AgpsSubscriber)
    (deleteSubscriberPostNotify : Bool) : AgpsStateMachine :=
  let sm := match sm.kind, event with
    | .base, .granted =>
      sm.emit (.atlOpenStatus s.mConnHandle true sm.getAPN sm.getBearer sm.mAgpsType)
    | .base, .denied =>
      sm.emit (.atlOpenStatus s.mConnHandle false sm.getAPN sm.getBearer sm.mAgpsType)
    | .base, .unsubscribe | .base, .released => sm.emit (.atlCloseStatus s.mConnHandle true)
    | .ds, .granted =>
      sm.emit (.atlOpenStatus s.mConnHandle true none AGPS_APN_BEARER_INVALID LOC_AGPS_TYPE_SUPL_ES)
    -- now try with regular SUPL, through the message queue
    | .ds, .denied => { sm with mRetries := 0 }.emit (.sendMsg s.mConnHandle LOC_AGPS_TYPE_SUPL)
    | .ds, .unsubscribe => sm.emit (.atlCloseStatus s.mConnHandle true)
    | .ds, .released => (sm.emit .closeDataCall).emit (.atlCloseStatus s.mConnHandle true)
    | _, .subscribe => sm
  if deleteSubscriberPostNotify then sm.deleteSubscriber s else sm

def covers (notificationType : AgpsNotificationType) (s : AgpsSubscriber) : Bool :=
  match notificationType with
  | .forAllSubscribers => true
  | .forInactiveSubscribers => s.mIsInactive
  | .forActiveSubscribers => !s.mIsInactive

/-- The loop of `notifyAllSubscribers` from a position of the list on, with the
subscribers that stay in the list. -/
def notifyFrom (event : AgpsEvent) (deleteSubscriberPostNotify : Bool)
    (notificationType : AgpsNotificationType) :
    AgpsStateMachine → List AgpsSubscriber → AgpsStateMachine × List AgpsSubscriber
  | sm, [] => (sm, [])
  | sm, s :: rest =>
    if covers notificationType s then
      let (sm, kept) := notifyFrom event deleteSubscriberPostNotify notificationType
        (sm.notifyEventToSubscriber event s false) rest
      (sm, if deleteSubscriberPostNotify then kept else s :: kept)
    else
      let (sm, kept) := notifyFrom event deleteSubscriberPostNotify notificationType sm rest
      (sm, s :: kept)

def notifyAllSubscribers (sm : AgpsStateMachine) (event : AgpsEvent)
    (deleteSubscriberPostNotify : Bool) (notificationType : AgpsNotificationType) :
    AgpsStateMachine :=
  let (sm, kept) :=
    notifyFrom event deleteSubscriberPostNotify notificationType sm sm.mSubscriberList
  { sm with mSubscriberList := kept }

/-- Set up the emergency data call for the first active subscriber. -/
def startDataCall (sm : AgpsStateMachine) (ds : DSClient) : AgpsStateMachine × Int :=
  match sm.getFirstSubscriber false with
  | none => (sm, -1)
  | some subscriber =>
    match ds.openAndStartDataCallFn with
    | none => (sm.notifyEventToSubscriber .denied subscriber false, -1)
    | some ret =>
      let sm := sm.emit .openAndStartDataCall
      if ret = LOC_API_ADAPTER_ERR_ENGINE_BUSY then
        let sm := { sm with mRetries := sm.mRetries + 1 }
        if sm.mRetries > MAX_START_DATA_CALL_RETRIES then
          (sm.notifyEventToSubscriber .denied subscriber false, ret)
        -- `loc_timer_start` returns a handle, which the source takes for an error code
        else (sm.emit (.startRetryTimer DATA_CALL_RETRY_DELAY_MSEC), -1)
      else if ret = LOC_API_ADAPTER_ERR_UNSUPPORTED then
        (sm.notifyEventToSubscriber .denied subscriber false, ret)
      else (sm, ret)

def requestOrReleaseDataConn (sm : AgpsStateMachine) (ds : DSClient) (request : Bool) :
    AgpsStateMachine × Int :=
  match sm.kind with
  | .base => (sm.emit (.frameworkStatus sm.mAgpsType request), 0)
  | .ds =>
    if !request && ds.stopDataCallFn then (sm.emit .stopDataCall, 0)
    else sm.startDataCall ds

/-! ## Events -/

def processAgpsEventSubscribe (sm : AgpsStateMachine) (ds : DSClient) : AgpsStateMachine :=
  match sm.mState with
  | .released =>
    let sm := sm.addSubscriber sm.mCurrentSubscriber
    let (sm, ret) := sm.requestOrReleaseDataConn ds true
    if ret = 0 then sm.transitionState .pending else sm
  | .pending => sm.addSubscriber sm.mCurrentSubscriber
  | .acquired =>
    let sm := sm.notifyEventToSubscriber .granted sm.mCurrentSubscriber false
    sm.addSubscriber sm.mCurrentSubscriber
  | .releasing => sm.addSubscriber sm.mCurrentSubscriber

/-- Move the current subscriber to the inactive state if it waits for the close,
else notify and delete it. Deleting frees the subscriber the walk compares
with; the comparison is read as with its handle. -/
def retireCurrent (sm : AgpsStateMachine) : AgpsStateMachine :=
  if sm.mCurrentSubscriber.mWaitForCloseComplete then sm.setCurrentInactive
  else sm.notifyEventToSubscriber .unsubscribe sm.mCurrentSubscriber true

def processAgpsEventUnsubscribe (sm : AgpsStateMachine) (ds : DSClient) : AgpsStateMachine :=
  match sm.mState with
  | .released => sm.notifyEventToSubscriber .unsubscribe sm.mCurrentSubscriber false
  | .pending | .acquired =>
    let sm := sm.retireCurrent
    if sm.mSubscriberList.isEmpty then
      ((sm.transitionState .released).requestOrReleaseDataConn ds false).1
    else if !sm.anyActiveSubscribers then
      ((sm.transitionState .releasing).requestOrReleaseDataConn ds false).1
    else sm
  | .releasing =>
    let sm := sm.retireCurrent
    if sm.mSubscriberList.isEmpty then sm.transitionState .released else sm

def processAgpsEventGranted (sm : AgpsStateMachine) : AgpsStateMachine :=
  match sm.mState with
  | .released | .acquired | .releasing => sm
  | .pending =>
    (sm.transitionState .acquired).notifyAllSubscribers .granted false .forActiveSubscribers

/-- The close is complete: the inactive subscribers are told and deleted, and
active ones, if any, have the connection set up again. -/
def completeRelease (sm : AgpsStateMachine) (ds : DSClient) : AgpsStateMachine :=
  let sm := sm.notifyAllSubscribers .released true .forInactiveSubscribers
  if sm.anyActiveSubscribers then
    ((sm.transitionState .pending).requestOrReleaseDataConn ds true).1
  else sm.transitionState .released

def processAgpsEventReleased (sm : AgpsStateMachine) (ds : DSClient) : AgpsStateMachine :=
  match sm.mState with
  | .released => sm
  | .acquired =>
    (sm.transitionState .released).notifyAllSubscribers .released true .forAllSubscribers
  | .releasing => sm.completeRelease ds
  | .pending => sm

def processAgpsEventDenied (sm : AgpsStateMachine) (ds : DSClient) : AgpsStateMachine :=
  match sm.mState with
  | .released => sm
  | .acquired => sm
  | .releasing => sm.completeRelease ds
  | .pending =>
    (sm.transitionState .released).notifyAllSubscribers .denied true .forAllSubscribers

/-- The data service machine takes RELEASED in the pending state for DENIED. -/
def processAgpsEvent (sm : AgpsStateMachine) (ds : DSClient) (event : AgpsEvent) :
    AgpsStateMachine :=
  let event := if sm.kind = .ds ∧ event = .released ∧ sm.mState = .pending then .denied else event
  match event with
  | .subscribe => sm.processAgpsEventSubscribe ds
  | .unsubscribe => sm.processAgpsEventUnsubscribe ds
  | .granted => sm.processAgpsEventGranted
  | .released => sm.processAgpsEventReleased ds
  | .denied => sm.processAgpsEventDenied ds

/-- `DSStateMachine::retryCallback`. -/
def retryCallback (sm : AgpsStateMachine) : AgpsStateMachine :=
  match sm.getFirstSubscriber false with
  | none => sm
  | some subscriber => sm.emit (.sendMsg subscriber.mConnHandle LOC_AGPS_TYPE_SUPL_ES)

/-! ## What the helpers change

A notification changes the call log (and, for a denied emergency call, the
retry counter); a data connection request changes nothing else either. -/

section
variable (sm : AgpsStateMachine)

@[simp] theorem emit_list (c : AgpsCall) : (sm.emit c).mSubscriberList = sm.mSubscriberList := rfl
@[simp] theorem emit_state (c : AgpsCall) : (sm.emit c).mState = sm.mState := rfl
@[simp] theorem emit_kind (c : AgpsCall) : (sm.emit c).kind = sm.kind := rfl
@[simp] theorem emit_calls (c : AgpsCall) : (sm.emit c).calls = sm.calls ++ [c] := rfl

@[simp] theorem transitionState_list (t : AgpsState) :
    (sm.transitionState t).mSubscriberList = sm.mSubscriberList := rfl
@[simp] theorem transitionState_state (t : AgpsState) : (sm.transitionState t).mState = t := rfl
@[simp] theorem transitionState_kind (t : AgpsState) : (sm.transitionState t).kind = sm.kind := rfl
@[simp] theorem transitionState_calls (t : AgpsState) :
    (sm.transitionState t).calls = sm.calls := rfl

/-- The calls of one notification. -/
def notice (event : AgpsEvent) (s : AgpsSubscriber) : List AgpsCall :=
  match sm.kind, event with
  | .base, .granted => [.atlOpenStatus s.mConnHandle true sm.getAPN sm.getBearer sm.mAgpsType]
  | .base, .denied => [.atlOpenStatus s.mConnHandle false sm.getAPN sm.getBearer sm.mAgpsType]
  | .base, .unsubscribe | .base, .released => [.atlCloseStatus s.mConnHandle true]
  | .ds, .granted =>
    [.atlOpenStatus s.mConnHandle true none AGPS_APN_BEARER_INVALID LOC_AGPS_TYPE_SUPL_ES]
  | .ds, .denied => [.sendMsg s.mConnHandle LOC_AGPS_TYPE_SUPL]
  | .ds, .unsubscribe => [.atlCloseStatus s.mConnHandle true]
  | .ds, .released => [.closeDataCall, .atlCloseStatus s.mConnHandle true]
  | _, .subscribe => []

/-- A notification that does not delete. -/
theorem notify_keep (event : AgpsEvent) (s : AgpsSubscriber) :
    sm.notifyEventToSubscriber event s false =
      { sm with
        calls := sm.calls ++ sm.notice event s
        mRetries := if sm.kind = .ds ∧ event = .denied then 0 else sm.mRetries } := by
  obtain ⟨kind, _, _, _, _, _, _, _, _⟩ := sm
  cases kind <;> cases event <;> simp [notifyEventToSubscriber, notice, emit, getAPN, getBearer]

theorem notify_delete (event : AgpsEvent) (s : AgpsSubscriber) :
    sm.notifyEventToSubscriber event s true =
      (sm.notifyEventToSubscriber event s false).deleteSubscriber s := by
  simp only [notifyEventToSubscriber, if_true, Bool.false_eq_true, if_false]

/-- The loop over the list: everything but the log and the retry counter is as
before, the kept ones are those not covered (or all), and the covered ones are
notified in order. -/
theorem notifyFrom_spec (event : AgpsEvent) (del : Bool) (t : AgpsNotificationType)
    (l : List AgpsSubscriber) : ∀ sm : AgpsStateMachine, ∃ retries,
      notifyFrom event del t sm l =
        ({ sm with
           calls := sm.calls ++ (l.filter (covers t)).flatMap (sm.notice event)
           mRetries := retries },
         if del then l.filter (!covers t ·) else l) := by
  induction l with
  | nil => intro sm; exact ⟨sm.mRetries, by cases del <;> simp [notifyFrom]⟩
  | cons s rest ih =>
    intro sm
    by_cases hc : covers t s = true
    · obtain ⟨r, hr⟩ := ih (sm.notifyEventToSubscriber event s false)
      refine ⟨r, ?_⟩
      rw [notify_keep] at hr
      simp only [notifyFrom, hc, if_true, notify_keep, hr, List.filter_cons_of_pos hc,
        List.flatMap_cons, List.append_assoc]
      cases del
      · rfl
      · simp only [if_true]
        rw [List.filter_cons_of_neg (by simp [hc])]
        rfl
    · obtain ⟨r, hr⟩ := ih sm
      refine ⟨r, ?_⟩
      simp only [notifyFrom, hc, Bool.false_eq_true, if_false, hr, List.filter_cons_of_neg hc]
      cases del <;> simp [hc]

theorem notifyAll_spec (event : AgpsEvent) (del : Bool) (t : AgpsNotificationType) :
    ∃ retries, sm.notifyAllSubscribers event del t =
      { sm with
        mSubscriberList :=
          if del then sm.mSubscriberList.filter (!covers t ·) else sm.mSubscriberList
        calls := sm.calls ++ (sm.mSubscriberList.filter (covers t)).flatMap (sm.notice event)
        mRetries := retries } := by
  obtain ⟨r, hr⟩ := notifyFrom_spec event del t sm.mSubscriberList sm
  exact ⟨r, by simp only [notifyAllSubscribers, hr]⟩

@[simp] theorem notifyAll_list (event : AgpsEvent) (del : Bool) (t : AgpsNotificationType) :
    (sm.notifyAllSubscribers event del t).mSubscriberList =
      if del then sm.mSubscriberList.filter (!covers t ·) else sm.mSubscriberList := by
  obtain ⟨r, hr⟩ := sm.notifyAll_spec event del t
  rw [hr]

@[simp] theorem notifyAll_state (event : AgpsEvent) (del : Bool) (t : AgpsNotificationType) :
    (sm.notifyAllSubscribers event del t).mState = sm.mState := by
  obtain ⟨r, hr⟩ := sm.notifyAll_spec event del t
  rw [hr]

@[simp] theorem notifyAll_kind (event : AgpsEvent) (del : Bool) (t : AgpsNotificationType) :
    (sm.notifyAllSubscribers event del t).kind = sm.kind := by
  obtain ⟨r, hr⟩ := sm.notifyAll_spec event del t
  rw [hr]

@[simp] theorem notifyAll_calls (event : AgpsEvent) (del : Bool) (t : AgpsNotificationType) :
    (sm.notifyAllSubscribers event del t).calls =
      sm.calls ++ (sm.mSubscriberList.filter (covers t)).flatMap (sm.notice event) := by
  obtain ⟨r, hr⟩ := sm.notifyAll_spec event del t
  rw [hr]

/-- Starting the emergency call leaves list, state and class alone; the calls
it adds are the start itself, the retry timer and a re-request for the first
active subscriber. -/
theorem startDataCall_spec (ds : DSClient) :
    (sm.startDataCall ds).1.mSubscriberList = sm.mSubscriberList ∧
    (sm.startDataCall ds).1.mState = sm.mState ∧ (sm.startDataCall ds).1.kind = sm.kind := by
  unfold startDataCall
  cases sm.getFirstSubscriber false with
  | none => exact ⟨rfl, rfl, rfl⟩
  | some s =>
    cases ds.openAndStartDataCallFn with
    | none => simp [notify_keep]
    | some ret =>
      dsimp only
      split
      · split
        · simp [notify_keep]
        · simp
      · split
        · simp [notify_keep]
        · simp

theorem request_spec (ds : DSClient) (request : Bool) :
    (sm.requestOrReleaseDataConn ds request).1.mSubscriberList = sm.mSubscriberList ∧
    (sm.requestOrReleaseDataConn ds request).1.mState = sm.mState ∧
    (sm.requestOrReleaseDataConn ds request).1.kind = sm.kind := by
  unfold requestOrReleaseDataConn
  split
  · simp
  · split
    · simp
    · exact sm.startDataCall_spec ds

@[simp] theorem request_list (ds : DSClient) (request : Bool) :
    (sm.requestOrReleaseDataConn ds request).1.mSubscriberList = sm.mSubscriberList :=
  (sm.request_spec ds request).1

@[simp] theorem request_state (ds : DSClient) (request : Bool) :
    (sm.requestOrReleaseDataConn ds request).1.mState = sm.mState :=
  (sm.request_spec ds request).2.1

@[simp] theorem request_kind (ds : DSClient) (request : Bool) :
    (sm.requestOrReleaseDataConn ds request).1.kind = sm.kind :=
  (sm.request_spec ds request).2.2

/-- The base machine's request always succeeds. -/
theorem request_base (hk : sm.kind = .base) (ds : DSClient) (request : Bool) :
    sm.requestOrReleaseDataConn ds request =
      (sm.emit (.frameworkStatus sm.mAgpsType request), 0) := by
  simp only [requestOrReleaseDataConn, hk]

end

end AgpsStateMachine

end DeviceHal.Gnss.AgpsMachine
