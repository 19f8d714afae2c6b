import DeviceHal.Location.BiDict
import DeviceHal.Location.RequestQueue
import DeviceHal.Gnss.LocationTypes

/-! # LocationAPIClientBase: operations, requests and responses

Every operation sends calls to the adapter and pushes a request object to one
of four queues; a response of the adapter carries only a session, and
`getRequestBySession` looks for the request that it belongs to. A request is
identified by its class and the number of the operation that pushed it, and a
call notes the request that its operation pushed for it. -/
namespace DeviceHal.Location
open DeviceHal.Gnss.LocationTypes LocationError DeviceHal.Location.Requests

inductive REQUEST_TYPE where
  | REQUEST_TRACKING
  | REQUEST_SESSION
  | REQUEST_GEOFENCE
  | REQUEST_NIRESPONSE
deriving DecidableEq

open REQUEST_TYPE

/-- A `uint32_t` in the code; any other number is a batching mode too. -/
abbrev SessionMode := Nat
def SESSION_MODE_ON_FULL : SessionMode := 1
def SESSION_MODE_ON_FIX : SessionMode := 2
def SESSION_MODE_ON_TRIP_COMPLETED : SessionMode := 3

inductive BatchingMode where
  | BATCHING_MODE_ROUTINE
  | BATCHING_MODE_TRIP
  | BATCHING_MODE_NO_AUTO_REPORT
deriving DecidableEq

def batchingMode (sessionMode : SessionMode) : BatchingMode :=
  if sessionMode = SESSION_MODE_ON_FULL then .BATCHING_MODE_ROUTINE
  else if sessionMode = SESSION_MODE_ON_TRIP_COMPLETED then .BATCHING_MODE_TRIP
  else .BATCHING_MODE_NO_AUTO_REPORT

/-! ## Requests -/

inductive RequestClass where
  | StartTrackingRequest
  | StopTrackingRequest
  | UpdateTrackingOptionsRequest
  | StartBatchingRequest
  | StopBatchingRequest
  | UpdateBatchingOptionsRequest
  | GnssNiResponseRequest
deriving DecidableEq

open RequestClass

structure LocationAPIRequest where
  cls : RequestClass
  /-- The operation that pushed it. -/
  op : Nat
deriving DecidableEq

abbrev ClientQueue := RequestQueue LocationAPIRequest

/-! ## Calls to the adapter -/

inductive CallKind where
  | startTracking
  | stopTracking
  | updateTrackingOptions
  | startBatching (batchingMode : BatchingMode)
  | stopBatching
  | updateBatchingOptions (batchingMode : BatchingMode)
  | gnssNiResponse (response : GnssNiResponse)
deriving DecidableEq

structure Call where
  kind : CallKind
  session : Nat
  /-- The kind of the operation that sends the call. -/
  origin : REQUEST_TYPE
  /-- The request that the operation pushed for the call's response. -/
  request : Option LocationAPIRequest
deriving DecidableEq

/-! ## The client -/

structure SessionEntity where
  id : Nat
  trackingSession : Nat
  batchingSession : Nat
  sessionMode : SessionMode
deriving DecidableEq

/-- The entity that `memset` clears. -/
def SessionEntity.zero : SessionEntity := ⟨0, 0, 0, 0⟩

/-- The session of the mode that the entity is in. -/
def SessionEntity.session (e : SessionEntity) : Nat :=
  if e.sessionMode ≠ SESSION_MODE_ON_FIX then e.batchingSession else e.trackingSession

theorem SessionEntity.session_of_fix {e : SessionEntity}
    (hmode : e.sessionMode = SESSION_MODE_ON_FIX) : e.session = e.trackingSession :=
  if_neg (not_not_intro hmode)

theorem SessionEntity.session_of_batch {e : SessionEntity}
    (hmode : e.sessionMode ≠ SESSION_MODE_ON_FIX) : e.session = e.batchingSession :=
  if_pos hmode

structure Client where
  /-- `mLocationAPI` is not null. -/
  mLocationAPI : Bool
  mRequestQueues : REQUEST_TYPE → ClientQueue
  mSessionBiDict : BiDict SessionEntity
  mTracking : Bool

namespace Client

/-- The queue `i` is changed by `f`. -/
def onQueue (c : Client) (i : REQUEST_TYPE) (f : ClientQueue → ClientQueue) : Client :=
  { c with mRequestQueues := Function.update c.mRequestQueues i (f (c.mRequestQueues i)) }

@[simp] theorem onQueue_self (c : Client) (i : REQUEST_TYPE) (f : ClientQueue → ClientQueue) :
    (c.onQueue i f).mRequestQueues i = f (c.mRequestQueues i) :=
  Function.update_self ..

theorem onQueue_of_ne (c : Client) {i j : REQUEST_TYPE} (f : ClientQueue → ClientQueue)
    (h : j ≠ i) : (c.onQueue i f).mRequestQueues j = c.mRequestQueues j :=
  Function.update_of_ne h ..

@[simp] theorem mSessionBiDict_onQueue (c : Client) (i : REQUEST_TYPE)
    (f : ClientQueue → ClientQueue) : (c.onQueue i f).mSessionBiDict = c.mSessionBiDict := rfl

theorem onQueue_onQueue (c : Client) (i : REQUEST_TYPE) (f g : ClientQueue → ClientQueue) :
    (c.onQueue i f).onQueue i g = c.onQueue i fun q => g (f q) := by
  simp [onQueue]

/-- The return value, the client and the calls that were sent. -/
abbrev Result := LocationError × Client × List Call

/-! ### Tracking

`session` is the one the adapter gives to a start, `op` the operation's number. -/

def locAPIStartTracking (c : Client) (session op : Nat) : Result :=
  if c.mLocationAPI then
    if c.mTracking then (LOCATION_ERROR_SUCCESS, c, [])
    else
      let request := ⟨StartTrackingRequest, op⟩
      let c := c.onQueue REQUEST_TRACKING fun q => (q.reset session).push request
      (LOCATION_ERROR_SUCCESS, { c with mTracking := true },
        [⟨.startTracking, session, REQUEST_TRACKING, some request⟩])
  else (LOCATION_ERROR_GENERAL_FAILURE, c, [])

def locAPIStopTracking (c : Client) (op : Nat) : Client × List Call :=
  let session := (c.mRequestQueues REQUEST_TRACKING).getSession
  if c.mLocationAPI ∧ session > 0 then
    let request := ⟨StopTrackingRequest, op⟩
    let c := c.onQueue REQUEST_TRACKING fun q => q.push request
    ({ c with mTracking := false }, [⟨.stopTracking, session, REQUEST_TRACKING, some request⟩])
  else (c, [])

def locAPIUpdateTrackingOptions (c : Client) (op : Nat) : Client × List Call :=
  let session := (c.mRequestQueues REQUEST_TRACKING).getSession
  if c.mLocationAPI ∧ session > 0 then
    let request := ⟨UpdateTrackingOptionsRequest, op⟩
    (c.onQueue REQUEST_TRACKING fun q => q.push request,
      [⟨.updateTrackingOptions, session, REQUEST_TRACKING, some request⟩])
  else (c, [])

/-! ### Sessions -/

def locAPIStartSession (c : Client) (id : Nat) (sessionMode : SessionMode) (session op : Nat) :
    Result :=
  if c.mLocationAPI then
    if c.mSessionBiDict.hasId id then (LOCATION_ERROR_ALREADY_STARTED, c, [])
    else if sessionMode = SESSION_MODE_ON_FIX then
      let request := ⟨StartTrackingRequest, op⟩
      let c := c.onQueue REQUEST_SESSION fun q => q.push request
      (LOCATION_ERROR_SUCCESS,
        { c with mSessionBiDict := c.mSessionBiDict.set id session ⟨id, session, 0, sessionMode⟩ },
        [⟨.startTracking, session, REQUEST_SESSION, some request⟩])
    else
      let request := ⟨StartBatchingRequest, op⟩
      let c := c.onQueue REQUEST_SESSION fun q => (q.setSession session).push request
      (LOCATION_ERROR_SUCCESS,
        { c with mSessionBiDict := c.mSessionBiDict.set id session ⟨id, 0, session, sessionMode⟩ },
        [⟨.startBatching (batchingMode sessionMode), session, REQUEST_SESSION, some request⟩])
  else (LOCATION_ERROR_GENERAL_FAILURE, c, [])

def locAPIStopSession (c : Client) (id op : Nat) : Result :=
  if c.mLocationAPI then
    if c.mSessionBiDict.hasId id then
      let entity := c.mSessionBiDict.getExtById .zero id
      if entity.sessionMode = SESSION_MODE_ON_FIX then
        let request := ⟨StopTrackingRequest, op⟩
        (LOCATION_ERROR_SUCCESS, c.onQueue REQUEST_SESSION fun q => q.push request,
          [⟨.stopTracking, entity.trackingSession, REQUEST_SESSION, some request⟩])
      else
        let request := ⟨StopBatchingRequest, op⟩
        (LOCATION_ERROR_SUCCESS, c.onQueue REQUEST_SESSION fun q => q.push request,
          [⟨.stopBatching, entity.batchingSession, REQUEST_SESSION, some request⟩])
    else (LOCATION_ERROR_ID_UNKNOWN, c, [])
  else (LOCATION_ERROR_GENERAL_FAILURE, c, [])

/-- The queue, the entity and the calls of an update of a known session. -/
def updateEntity (c : Client) (entity : SessionEntity) (sessionMode : SessionMode)
    (session op : Nat) : Client × SessionEntity × List Call :=
  if sessionMode = SESSION_MODE_ON_FIX then
    let request := ⟨UpdateTrackingOptionsRequest, op⟩
    let c := c.onQueue REQUEST_SESSION fun q => q.push request
    if entity.sessionMode = SESSION_MODE_ON_FIX then
      (c, { entity with sessionMode := sessionMode },
        [⟨.updateTrackingOptions, entity.trackingSession, REQUEST_SESSION, some request⟩])
    else
      -- stop batching, start tracking: one request for both
      (c.onQueue REQUEST_SESSION fun q => q.setSession 0,
        { entity with trackingSession := session, batchingSession := 0, sessionMode := sessionMode },
        [⟨.stopBatching, entity.batchingSession, REQUEST_SESSION, none⟩,
          ⟨.startTracking, session, REQUEST_SESSION, some request⟩])
  else
    let request := ⟨UpdateBatchingOptionsRequest, op⟩
    let c := c.onQueue REQUEST_SESSION fun q => q.push request
    if entity.sessionMode = SESSION_MODE_ON_FIX then
      -- stop tracking, start batching: one request for both
      (c.onQueue REQUEST_SESSION fun q => q.setSession session,
        { entity with trackingSession := 0, batchingSession := session, sessionMode := sessionMode },
        [⟨.stopTracking, entity.trackingSession, REQUEST_SESSION, none⟩,
          ⟨.startBatching (batchingMode sessionMode), session, REQUEST_SESSION, some request⟩])
    else
      (c, { entity with sessionMode := sessionMode },
        [⟨.updateBatchingOptions (batchingMode sessionMode), entity.batchingSession,
          REQUEST_SESSION, some request⟩])

def locAPIUpdateSessionOptions (c : Client) (id : Nat) (sessionMode : SessionMode)
    (session op : Nat) : Result :=
  if c.mLocationAPI then
    if c.mSessionBiDict.hasId id then
      let entity := c.mSessionBiDict.getExtById .zero id
      let (c, entity, calls) := c.updateEntity entity sessionMode session op
      (LOCATION_ERROR_SUCCESS,
        { c with mSessionBiDict := (c.mSessionBiDict.rmById id).set id entity.session entity }, calls)
    else (LOCATION_ERROR_ID_UNKNOWN, c, [])
  else (LOCATION_ERROR_GENERAL_FAILURE, c, [])

/-! ### Network-initiated requests -/

def locAPIGnssNiResponse (c : Client) (id : Nat) (response : GnssNiResponse) (op : Nat) :
    Client × List Call :=
  if c.mLocationAPI then
    let request := ⟨GnssNiResponseRequest, op⟩
    (c.onQueue REQUEST_NIRESPONSE fun q => (q.reset id).push request,
      [⟨.gnssNiResponse response, id, REQUEST_NIRESPONSE, some request⟩])
  else (c, [])

/-! ### Responses -/

def removeSession (c : Client) (session : Nat) : Client :=
  if c.mSessionBiDict.hasSession session then
    { c with mSessionBiDict := c.mSessionBiDict.rmBySession session }
  else c

def popQueue (c : Client) (i : REQUEST_TYPE) : Option LocationAPIRequest × Client :=
  ((c.mRequestQueues i).pop.1, c.onQueue i fun q => q.pop.2)

/-- The queue whose session is the response's, in the order of the loop. -/
def queueOfSession (c : Client) (session : Nat) : Option REQUEST_TYPE :=
  [REQUEST_TRACKING, REQUEST_SESSION, REQUEST_GEOFENCE, REQUEST_NIRESPONSE].find? fun i =>
    i ≠ REQUEST_GEOFENCE ∧ i ≠ REQUEST_SESSION ∧ (c.mRequestQueues i).getSession = session

def getRequestBySession (c : Client) (session : Nat) : Option LocationAPIRequest × Client :=
  let (request, c) := match c.queueOfSession session with
    | some i => c.popQueue i
    | none => (none, c)
  match request with
  | some request => (some request, c)
  | none =>
    -- Can't find a request with correct session, try to find it from mSessionBiDict
    if c.mSessionBiDict.hasSession session then c.popQueue REQUEST_SESSION else (none, c)

end Client

/-- What the request object does to the client; its callback goes to the user. -/
def LocationAPIRequest.onResponse (request : LocationAPIRequest) (c : Client)
    (error : LocationError) (id : Nat) : Client :=
  match request.cls with
  | StartTrackingRequest | StartBatchingRequest =>
    if error ≠ LOCATION_ERROR_SUCCESS then c.removeSession id else c
  | StopTrackingRequest | StopBatchingRequest =>
    if error = LOCATION_ERROR_SUCCESS then c.removeSession id else c
  | UpdateTrackingOptionsRequest | UpdateBatchingOptionsRequest | GnssNiResponseRequest => c

def Client.onResponseCb (c : Client) (error : LocationError) (id : Nat) : Client :=
  match c.getRequestBySession id with
  | (some request, c) => request.onResponse c error id
  | (none, c) => c

end DeviceHal.Location
