import DeviceHal.Gnss.AgpsSubscribers

/-! # AgpsManager and its message queue

The manager of `gnss/Agps.cpp` owns three machines, chooses one for each
request and status report, and takes the requests its machines post to
themselves from the adapter's queue. `AgpsSystem` is the manager with those
posted requests and the retry timers that run. -/
namespace DeviceHal.Gnss.AgpsDispatch
open DeviceHal.Lib.Run DeviceHal.Gnss.AgpsMachine DeviceHal.Gnss.AgpsMachine.AgpsStateMachine
open DeviceHal.Gnss.AgpsSubscribers

/-! ## Configuration and callbacks -/

/-- What the manager reads from the configuration and gets from the data
service callbacks while it processes one message. -/
structure AgpsEnv where
  /-- `CAPABILITIES` has MSA or MSB. -/
  agpsCapable : Bool
  USE_EMERGENCY_PDN_FOR_EMERGENCY_SUPL : Bool
  /-- The init function's result, `none` when it is not registered. -/
  mDSClientInitFn : Option Int
  mDSClientOpenAndStartDataCallFn : Option Int
  mDSClientStopDataCallFn : Bool

def AgpsEnv.ds (env : AgpsEnv) : DSClient :=
  ⟨env.mDSClientStopDataCallFn, env.mDSClientOpenAndStartDataCallFn⟩

/-- The pointers to the machines. -/
inductive Nif where
  | mAgnssNif | mInternetNif | mDsNif
deriving DecidableEq

instance : Fintype Nif :=
  ⟨{.mAgnssNif, .mInternetNif, .mDsNif}, fun n => by cases n <;> decide⟩

structure AgpsManager where
  mAgnssNif : Option AgpsStateMachine
  mInternetNif : Option AgpsStateMachine
  mDsNif : Option AgpsStateMachine
  /-- The calls made while the current message is processed. -/
  calls : List AgpsCall

namespace AgpsManager

def new : AgpsManager := ⟨none, none, none, []⟩

def nif (m : AgpsManager) : Nif → Option AgpsStateMachine
  | .mAgnssNif => m.mAgnssNif
  | .mInternetNif => m.mInternetNif
  | .mDsNif => m.mDsNif

def setNif (m : AgpsManager) (sm : AgpsStateMachine) : Nif → AgpsManager
  | .mAgnssNif => { m with mAgnssNif := some sm }
  | .mInternetNif => { m with mInternetNif := some sm }
  | .mDsNif => { m with mDsNif := some sm }

def emit (m : AgpsManager) (call : AgpsCall) : AgpsManager := { m with calls := m.calls ++ [call] }

/-- Let the machine do something; its calls go through the manager. -/
def onNif (m : AgpsManager) (n : Nif) (f : AgpsStateMachine → AgpsStateMachine) : AgpsManager :=
  match m.nif n with
  | none => m
  | some sm =>
    let sm := f { sm with calls := [] }
    { m.setNif sm n with calls := m.calls ++ sm.calls }

/-! ## The manager's functions -/

def createAgpsStateMachines (m : AgpsManager) (env : AgpsEnv) : AgpsManager :=
  let m := if m.mInternetNif.isNone then
    { m with mInternetNif := some (.new LOC_AGPS_TYPE_WWAN_ANY) } else m
  if env.agpsCapable then
    let m := if m.mAgnssNif.isNone then
      { m with mAgnssNif := some (.new LOC_AGPS_TYPE_SUPL) } else m
    if m.mDsNif.isNone && env.USE_EMERGENCY_PDN_FOR_EMERGENCY_SUPL then
      match env.mDSClientInitFn with
      | none => m
      | some ret =>
        let m := m.emit (.initDataServiceClient false)
        if ret ≠ 0 then m else { m with mDsNif := some .newDS }
    else m
  else m

/-- The machine chosen for a type, which may not exist. -/
def getAgpsStateMachine (m : AgpsManager) (env : AgpsEnv) (agpsType : AGpsExtType) :
    AgpsManager × Nif :=
  if agpsType = LOC_AGPS_TYPE_INVALID ∨ agpsType = LOC_AGPS_TYPE_SUPL then (m, .mAgnssNif)
  else if agpsType = LOC_AGPS_TYPE_SUPL_ES then
    if env.USE_EMERGENCY_PDN_FOR_EMERGENCY_SUPL then
      (if m.mDsNif.isNone then m.createAgpsStateMachines env else m, .mDsNif)
    else (m, .mAgnssNif)
  else (m, .mInternetNif)

def requestATL (m : AgpsManager) (env : AgpsEnv) (connHandle : Int) (agpsType : AGpsExtType) :
    AgpsManager :=
  let (m, n) := m.getAgpsStateMachine env agpsType
  if (m.nif n).isNone then
    m.emit (.atlOpenStatus connHandle false none AGPS_APN_BEARER_INVALID agpsType)
  else
    -- an emergency subscriber waits for the close to complete
    let subscriber := ⟨connHandle, agpsType == LOC_AGPS_TYPE_SUPL_ES, false⟩
    m.onNif n fun sm => (sm.setCurrentSubscriber subscriber).processAgpsEvent env.ds .subscribe

/-- Whether the machine exists and has the handle in its list. -/
def holds (m : AgpsManager) (n : Nif) (connHandle : Int) : Bool :=
  (m.nif n).any fun sm => (sm.getSubscriber connHandle).isSome

/-- The first machine, in the order of the search, that has the handle. -/
def findSubscriber (m : AgpsManager) (connHandle : Int) : Option Nif :=
  if m.holds .mAgnssNif connHandle then some .mAgnssNif
  else if m.holds .mInternetNif connHandle then some .mInternetNif
  else if m.holds .mDsNif connHandle then some .mDsNif
  else none

def releaseATL (m : AgpsManager) (env : AgpsEnv) (connHandle : Int) : AgpsManager :=
  match m.findSubscriber connHandle with
  | none => m.emit (.atlCloseStatus connHandle false)
  | some n => m.onNif n fun sm =>
    match sm.getSubscriber connHandle with
    | none => sm
    | some subscriber => (sm.setCurrentSubscriber subscriber).processAgpsEvent env.ds .unsubscribe

def reportDataCallOpened (m : AgpsManager) (env : AgpsEnv) : AgpsManager :=
  m.onNif .mDsNif (·.processAgpsEvent env.ds .granted)

def reportDataCallClosed (m : AgpsManager) (env : AgpsEnv) : AgpsManager :=
  m.onNif .mDsNif (·.processAgpsEvent env.ds .released)

/-- The three reports below use the chosen machine without a null check; where
it does not exist there is no next state, and the manager is left as it is. -/
def reportAtlOpenSuccess (m : AgpsManager) (env : AgpsEnv) (agpsType : AGpsExtType)
    (apnName : Option (List Char)) (apnLen : Nat) (bearerType : AGpsBearerType) : AgpsManager :=
  let (m, n) := m.getAgpsStateMachine env agpsType
  m.onNif n fun sm =>
    ((sm.setBearer bearerType).setAPN apnName apnLen).processAgpsEvent env.ds .granted

def reportAtlOpenFailed (m : AgpsManager) (env : AgpsEnv) (agpsType : AGpsExtType) : AgpsManager :=
  let (m, n) := m.getAgpsStateMachine env agpsType
  m.onNif n (·.processAgpsEvent env.ds .denied)

def reportAtlClosed (m : AgpsManager) (env : AgpsEnv) (agpsType : AGpsExtType) : AgpsManager :=
  let (m, n) := m.getAgpsStateMachine env agpsType
  m.onNif n (·.processAgpsEvent env.ds .released)

def handleModemSSR (m : AgpsManager) (env : AgpsEnv) : AgpsManager :=
  let m := m.onNif .mAgnssNif (·.dropAllSubscribers)
  let m := m.onNif .mInternetNif (·.dropAllSubscribers)
  let m := m.onNif .mDsNif (·.dropAllSubscribers)
  if env.USE_EMERGENCY_PDN_FOR_EMERGENCY_SUPL then
    (((m.emit .stopDataCall).emit .closeDataCall).emit .releaseDataServiceClient).emit
      (.initDataServiceClient true)
  else m

end AgpsManager

/-! ## The system -/

structure AgpsSystem where
  manager : AgpsManager
  /-- Posted `AgpsMsgRequestATL` messages, oldest first. -/
  queue : List (Int × AGpsExtType)
  /-- Retry timers that were started and have not fired. -/
  timers : Nat

def AgpsSystem.start : AgpsSystem := ⟨.new, [], 0⟩

inductive AgpsMsg where
  /-- `GnssAdapter::initAgps` with callbacks of sufficient priority. -/
  | initAgps
  /-- A request that comes from the modem. -/
  | requestATL (connHandle : Int) (agpsType : AGpsExtType)
  /-- The oldest posted request. -/
  | postedRequest
  | releaseATL (connHandle : Int)
  | reportDataCallOpened
  | reportDataCallClosed
  | reportAtlOpenSuccess (agpsType : AGpsExtType) (apnName : Option (List Char)) (apnLen : Nat)
      (bearerType : AGpsBearerType)
  | reportAtlOpenFailed (agpsType : AGpsExtType)
  | reportAtlClosed (agpsType : AGpsExtType)
  | handleModemSSR
  /-- A retry timer fires. -/
  | retryTimer

/-- The requests among the calls that post one. -/
def posted (calls : List AgpsCall) : List (Int × AGpsExtType) :=
  calls.filterMap fun
    | .sendMsg connHandle agpsType => some (connHandle, agpsType)
    | _ => none

def started (calls : List AgpsCall) : Nat :=
  calls.countP fun
    | .startRetryTimer _ => true
    | _ => false

namespace AgpsSystem

/-- The request a message makes, if it is one. -/
def request (s : AgpsSystem) : AgpsMsg → Option (Int × AGpsExtType)
  | .requestATL connHandle agpsType => some (connHandle, agpsType)
  | .postedRequest => s.queue.head?
  | _ => none

def process (s : AgpsSystem) (env : AgpsEnv) (msg : AgpsMsg) : AgpsManager :=
  let m := { s.manager with calls := [] }
  match msg with
  | .initAgps => if env.agpsCapable then m.createAgpsStateMachines env else m
  | .requestATL connHandle agpsType => m.requestATL env connHandle agpsType
  | .postedRequest =>
    match s.queue with
    | [] => m
    | (connHandle, agpsType) :: _ => m.requestATL env connHandle agpsType
  | .releaseATL connHandle => m.releaseATL env connHandle
  | .reportDataCallOpened => m.reportDataCallOpened env
  | .reportDataCallClosed => m.reportDataCallClosed env
  | .reportAtlOpenSuccess agpsType apnName apnLen bearerType =>
    m.reportAtlOpenSuccess env agpsType apnName apnLen bearerType
  | .reportAtlOpenFailed agpsType => m.reportAtlOpenFailed env agpsType
  | .reportAtlClosed agpsType => m.reportAtlClosed env agpsType
  | .handleModemSSR => m.handleModemSSR env
  | .retryTimer => if s.timers = 0 then m else m.onNif .mDsNif (·.retryCallback)

/-- One message, or one timer, with the configuration it finds. -/
def step (s : AgpsSystem) (e : AgpsEnv × AgpsMsg) : AgpsSystem :=
  let m := s.process e.1 e.2
  let queue := if e.2 matches .postedRequest then s.queue.tail else s.queue
  let timers := if e.2 matches .retryTimer then s.timers - 1 else s.timers
  ⟨m, queue ++ posted m.calls, timers + started m.calls⟩

end AgpsSystem

/-! ## What the manager's functions leave alone

`held m n` is the handles in a machine's list, none if it does not exist. -/

namespace AgpsManager

def held (m : AgpsManager) (n : Nif) : List Int :=
  match m.nif n with
  | none => []
  | some sm => handles sm.mSubscriberList

section
variable (m : AgpsManager)

@[simp] theorem nif_setNif (sm : AgpsStateMachine) (n k : Nif) :
    (m.setNif sm n).nif k = if k = n then some sm else m.nif k := by
  cases n <;> cases k <;> rfl

@[simp] theorem nif_emit (c : AgpsCall) (k : Nif) : (m.emit c).nif k = m.nif k := by
  cases k <;> rfl

theorem nif_onNif (n : Nif) (f : AgpsStateMachine → AgpsStateMachine) (k : Nif) :
    (m.onNif n f).nif k =
      if k = n then (m.nif n).map (fun sm => f { sm with calls := [] }) else m.nif k := by
  cases hn : m.nif n with
  | none =>
    simp only [onNif, hn, Option.map_none]
    split
    · rename_i h; rw [h, hn]
    · rfl
  | some sm =>
    have := m.nif_setNif (f { sm with calls := [] }) n k
    simp only [onNif, hn, Option.map_some]
    rw [← this]
    cases k <;> rfl

theorem calls_onNif {n : Nif} {sm : AgpsStateMachine} (hn : m.nif n = some sm)
    (f : AgpsStateMachine → AgpsStateMachine) :
    (m.onNif n f).calls = m.calls ++ (f { sm with calls := [] }).calls := by
  simp only [onNif, hn]

theorem held_of_nif {m m' : AgpsManager} {k : Nif} (h : m'.nif k = m.nif k) :
    m'.held k = m.held k := by
  simp only [held, h]

/-- Letting one machine work touches no other list. -/
theorem held_onNif_ne {n k : Nif} (hk : k ≠ n) (f : AgpsStateMachine → AgpsStateMachine) :
    (m.onNif n f).held k = m.held k :=
  held_of_nif ((m.nif_onNif n f k).trans (if_neg hk))

theorem held_onNif {n : Nif} {sm : AgpsStateMachine} (hn : m.nif n = some sm)
    (f : AgpsStateMachine → AgpsStateMachine) :
    (m.onNif n f).held n = handles (f { sm with calls := [] }).mSubscriberList := by
  simp only [held, nif_onNif, if_true, hn, Option.map_some]

/-- A machine that works without taking new subscribers. -/
theorem held_onNif_subset (n : Nif) {f : AgpsStateMachine → AgpsStateMachine}
    (hf : ∀ sm, handles (f sm).mSubscriberList ⊆ handles sm.mSubscriberList) (k : Nif) :
    (m.onNif n f).held k ⊆ m.held k := by
  by_cases hk : k = n
  · subst hk
    cases hn : m.nif k with
    | none =>
      have : m.onNif k f = m := by simp only [onNif, hn]
      rw [this]
      exact List.Subset.refl _
    | some sm =>
      rw [m.held_onNif hn f]
      simp only [held, hn]
      exact hf _
  · rw [m.held_onNif_ne hk f]
    exact List.Subset.refl _

/-- A machine that is created has an empty list. -/
theorem held_createAgpsStateMachines (env : AgpsEnv) (k : Nif) :
    (m.createAgpsStateMachines env).held k = m.held k := by
  obtain ⟨agnss, internet, ds, calls⟩ := m
  unfold createAgpsStateMachines
  cases env.agpsCapable <;> cases env.USE_EMERGENCY_PDN_FOR_EMERGENCY_SUPL <;>
    cases env.mDSClientInitFn <;> cases agnss <;> cases internet <;> cases ds <;>
    simp only [Option.isNone_none, Option.isNone_some, Bool.and_true, Bool.and_false,
      Bool.false_eq_true, if_true, if_false] <;>
    first
    | (cases k <;> rfl)
    | (split <;> cases k <;> rfl)

/-- Creating the machines calls nothing but the data service's init. -/
theorem calls_createAgpsStateMachines (env : AgpsEnv) :
    (m.createAgpsStateMachines env).calls = m.calls ∨
      (m.createAgpsStateMachines env).calls = m.calls ++ [.initDataServiceClient false] := by
  obtain ⟨agnss, internet, ds, calls⟩ := m
  unfold createAgpsStateMachines
  cases env.agpsCapable <;> cases env.USE_EMERGENCY_PDN_FOR_EMERGENCY_SUPL <;>
    cases env.mDSClientInitFn <;> cases agnss <;> cases internet <;> cases ds <;>
    simp only [Option.isNone_none, Option.isNone_some, Bool.and_true, Bool.and_false,
      Bool.false_eq_true, if_true, if_false, true_or] <;>
    (split <;> exact Or.inr rfl)

theorem held_getAgpsStateMachine (env : AgpsEnv) (agpsType : AGpsExtType) (k : Nif) :
    (m.getAgpsStateMachine env agpsType).1.held k = m.held k := by
  unfold getAgpsStateMachine
  split
  · rfl
  · split
    · split
      · dsimp only
        split
        · exact m.held_createAgpsStateMachines env k
        · rfl
      · rfl
    · rfl

end

end AgpsManager

end DeviceHal.Gnss.AgpsDispatch
