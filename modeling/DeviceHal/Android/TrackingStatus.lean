import DeviceHal.Gnss.PowerVote
import DeviceHal.Gnss.TrackingAnswers
import DeviceHal.Location.ClientBase

/-! # What the framework is told about its session

The framework starts and stops through `GnssAPIClient`, whose requests wait in
`LocationAPIClientBase` while the messages go through the queue of the adapter.
The adapter's thread takes one message after the other, and its answer comes
back on that thread: it finds the request, and the request tells the framework.
Between a message and its answer the framework may do anything. The library of
fused location, `libflp.so`, is taken not to be there, and network-initiated
requests are left out. -/
namespace DeviceHal.Android.TrackingStatus
open DeviceHal.Lib.Run DeviceHal.Gnss.TrackingAnswers DeviceHal.Gnss.TrackingMultiplex
open DeviceHal.Gnss.PowerVote (nextSessionId)
open DeviceHal.Gnss.TrackingSessions (GnssAdapter GnssMsg GnssSuplMode LocationAPI
  LocationCallbacks LocationOptions Response)
open DeviceHal.Gnss.LocationTypes (LocationError)
open DeviceHal.Location (Call Client LocationAPIRequest REQUEST_TYPE RequestClass)
open DeviceHal.Gnss.LocationTypes.LocationError DeviceHal.Location.RequestClass

/-! ## The framework's side -/

inductive GnssStatusValue where
  | SESSION_BEGIN
  | SESSION_END
  | ENGINE_ON
  | ENGINE_OFF
deriving DecidableEq

open GnssStatusValue

/-- Callers may pass any byte. -/
inductive GnssPositionMode where
  | STANDALONE
  | MS_BASED
  | MS_ASSISTED
  | other (mode : UInt8)
deriving DecidableEq

inductive GnssPositionRecurrence where
  | RECURRENCE_PERIODIC
  | RECURRENCE_SINGLE
deriving DecidableEq

/-- `sizeof(LocationOptions)` with pointers of 64 bits. -/
def sizeofLocationOptions : Nat := 24

structure GnssAPIClient where
  /-- The members of `LocationAPIClientBase`. -/
  base : Client
  /-- `mGnssCbIface` is not null. -/
  mGnssCbIface : Bool
  mLocationOptions : LocationOptions

/-- The call of the `LocationAPI` object becomes a message of the adapter. -/
def messageOf (api : LocationAPI) (options : LocationOptions) (call : Call) : Option GnssMsg :=
  match call.kind with
  | .startTracking => some (.startTracking api call.session options)
  | .updateTrackingOptions => some (.updateTracking api call.session options)
  | .stopTracking => some (.stopTracking api call.session)
  | _ => none

/-- The callbacks that `gnssUpdateCallbacks` registers. -/
def locationCallbacks (gpsCb niCb hasAgpsExtendedCapabilities : Bool) : LocationCallbacks where
  responseCb := true
  trackingCb := gpsCb
  gnssNiCb := niCb && !hasAgpsExtendedCapabilities
  gnssSvCb := gpsCb
  gnssNmeaCb := gpsCb
  gnssMeasurementsCb := false

def isGnssClient (callbacks : LocationCallbacks) : Bool :=
  callbacks.gnssNiCb || callbacks.trackingCb || callbacks.gnssMeasurementsCb

namespace GnssAPIClient

/-- The constructor, when its `LocationAPI` object has been made. -/
def new (gpsCb : Bool) : GnssAPIClient where
  base :=
    { mLocationAPI := true
      mRequestQueues := fun _ => ⟨0, []⟩
      mSessionBiDict := .empty
      mTracking := false }
  mGnssCbIface := gpsCb
  mLocationOptions := ⟨sizeofLocationOptions, 1000, 0, .GNSS_SUPL_MODE_STANDALONE⟩

/-! Each function gives the client and the messages that it posts; `session`
is the id that the adapter gives to a start, `op` the operation's number. -/

def gnssUpdateCallbacks (c : GnssAPIClient) (api : LocationAPI)
    (gpsCb niCb hasAgpsExtendedCapabilities : Bool) : GnssAPIClient × List GnssMsg :=
  let callbacks := locationCallbacks gpsCb niCb hasAgpsExtendedCapabilities
  ({ c with mGnssCbIface := gpsCb },
    if isGnssClient callbacks then [.addClient api callbacks] else [])

def gnssStart (c : GnssAPIClient) (api : LocationAPI) (session op : Nat) :
    GnssAPIClient × List GnssMsg :=
  let (_, base, calls) := c.base.locAPIStartTracking session op
  ({ c with base := base }, calls.filterMap (messageOf api c.mLocationOptions))

def gnssStop (c : GnssAPIClient) (api : LocationAPI) (op : Nat) : GnssAPIClient × List GnssMsg :=
  let (base, calls) := c.base.locAPIStopTracking op
  ({ c with base := base }, calls.filterMap (messageOf api c.mLocationOptions))

/-- The return value comes first; the options go out in any case. -/
def gnssSetPositionMode (c : GnssAPIClient) (api : LocationAPI) (mode : GnssPositionMode)
    (recurrence : GnssPositionRecurrence) (minIntervalMs preferredAccuracyMeters op : Nat) :
    Bool × GnssAPIClient × List GnssMsg :=
  let minInterval := if recurrence = .RECURRENCE_SINGLE then 4294967295 else minIntervalMs
  let (retVal, suplMode) := match mode with
    | .STANDALONE => (true, GnssSuplMode.GNSS_SUPL_MODE_STANDALONE)
    | .MS_BASED => (true, .GNSS_SUPL_MODE_MSB)
    | .MS_ASSISTED => (true, .GNSS_SUPL_MODE_MSA)
    | .other _ => (false, .GNSS_SUPL_MODE_STANDALONE)
  let options := ⟨sizeofLocationOptions, minInterval, preferredAccuracyMeters, suplMode⟩
  let (base, calls) := c.base.locAPIUpdateTrackingOptions op
  (retVal, { c with base := base, mLocationOptions := options },
    calls.filterMap (messageOf api options))

/-! The callbacks give what the framework is told. -/

def onStartTrackingCb (c : GnssAPIClient) (error : LocationError) : List GnssStatusValue :=
  if error = LOCATION_ERROR_SUCCESS ∧ c.mGnssCbIface then [ENGINE_ON, SESSION_BEGIN] else []

def onStopTrackingCb (c : GnssAPIClient) (error : LocationError) : List GnssStatusValue :=
  if error = LOCATION_ERROR_SUCCESS ∧ c.mGnssCbIface then [SESSION_END, ENGINE_OFF] else []

/-- The callback that the request object calls. -/
def onRequestCb (c : GnssAPIClient) (cls : RequestClass) (error : LocationError) :
    List GnssStatusValue :=
  match cls with
  | StartTrackingRequest => c.onStartTrackingCb error
  | StopTrackingRequest => c.onStopTrackingCb error
  | _ => []

def onResponseCb (c : GnssAPIClient) (error : LocationError) (id : Nat) :
    GnssAPIClient × List GnssStatusValue :=
  ({ c with base := c.base.onResponseCb error id },
    match (c.base.getRequestBySession id).1 with
    | some request => c.onRequestCb request.cls error
    | none => [])

end GnssAPIClient

/-! ## Runs -/

structure World where
  client : GnssAPIClient
  adapter : GnssAdapter
  mSessionIdCounter : UInt32
  /-- The posted messages, the next one first. -/
  mMsgTask : List GnssMsg
  /-- The message that the adapter's thread is at, and the answer that it is about to give. -/
  answering : Option (GnssMsg × Response)
  /-- What the framework was told. -/
  told : List GnssStatusValue
  ops : Nat

inductive Event where
  | gnssStart
  | gnssStop
  | gnssSetPositionMode (mode : GnssPositionMode) (recurrence : GnssPositionRecurrence)
    (minIntervalMs preferredAccuracyMeters : Nat)
  | gnssUpdateCallbacks (gpsCb niCb hasAgpsExtendedCapabilities : Bool)
  /-- Another client posts a message, or the engine comes up again. -/
  | post (msg : GnssMsg)
  /-- An id is drawn for another session. -/
  | generateSessionId
  /-- The adapter's thread takes the next message. -/
  | proc
  /-- The adapter's thread gives its answer. -/
  | reportResponse

section
variable (results : Nat → Int) (api : LocationAPI)

namespace World

/-- The adapter has been told of a new client. -/
def init (callbacks : LocationCallbacks) (a : GnssAdapter) : World where
  client := .new callbacks.trackingCb
  adapter := a.saveClient api callbacks
  mSessionIdCounter := 1
  mMsgTask := []
  answering := none
  told := []
  ops := 0

/-- After an operation of the client. -/
def posted (w : World) (c : GnssAPIClient) (msgs : List GnssMsg) : World :=
  { w with client := c, mMsgTask := w.mMsgTask ++ msgs, ops := w.ops + 1 }

def step (w : World) : Event → World
  | .gnssStart =>
    let session := nextSessionId w.mSessionIdCounter
    let (c, msgs) := w.client.gnssStart api session.toNat w.ops
    -- the id is drawn only when the start goes out
    { w.posted c msgs with
      mSessionIdCounter := if msgs.isEmpty then w.mSessionIdCounter else session }
  | .gnssStop =>
    let (c, msgs) := w.client.gnssStop api w.ops
    w.posted c msgs
  | .gnssSetPositionMode mode recurrence minIntervalMs preferredAccuracyMeters =>
    let (_, c, msgs) :=
      w.client.gnssSetPositionMode api mode recurrence minIntervalMs preferredAccuracyMeters w.ops
    w.posted c msgs
  | .gnssUpdateCallbacks gpsCb niCb hasAgpsExtendedCapabilities =>
    let (c, msgs) := w.client.gnssUpdateCallbacks api gpsCb niCb hasAgpsExtendedCapabilities
    w.posted c msgs
  | .post msg =>
    if clientOf msg = some api then w else { w with mMsgTask := w.mMsgTask ++ [msg] }
  | .generateSessionId => { w with mSessionIdCounter := nextSessionId w.mSessionIdCounter }
  | .proc =>
    match w.answering, w.mMsgTask with
    | none, msg :: msgs =>
      let a := w.adapter.proc results msg
      { w with
        adapter := a
        mMsgTask := msgs
        answering := ((a.responses.drop w.adapter.responses.length).find? fun r =>
          r.client == api && r.delivered).map (msg, ·) }
    | _, _ => w
  | .reportResponse =>
    match w.answering with
    | none => w
    | some (_, r) =>
      let (c, values) := w.client.onResponseCb r.err r.sessionId
      { w with client := c, answering := none, told := w.told ++ values }

theorem step_gnssSetPositionMode (w : World) (mode : GnssPositionMode)
    (recurrence : GnssPositionRecurrence) (minIntervalMs preferredAccuracyMeters : Nat) :
    w.step results api (.gnssSetPositionMode mode recurrence minIntervalMs
      preferredAccuracyMeters) =
      w.posted (w.client.gnssSetPositionMode api mode recurrence minIntervalMs
        preferredAccuracyMeters w.ops).2.1 (w.client.gnssSetPositionMode api mode recurrence
          minIntervalMs preferredAccuracyMeters w.ops).2.2 := rfl

end World
end

/-! ## What the operations do to the client -/

/-- The session that the requests of the tracking queue are for. -/
def current (c : Client) : Nat := (c.mRequestQueues .REQUEST_TRACKING).getSession

/-- What waits for an answer, as far as the client knows. -/
def requests (c : Client) : List RequestClass :=
  (c.mRequestQueues .REQUEST_TRACKING).mQueue.map (·.cls)

/-- A client that only tracks: no batching, and no network-initiated request. -/
structure Tracks (c : Client) : Prop where
  api : c.mLocationAPI = true
  sessions : ∀ session, c.mSessionBiDict.hasSession session = false
  ni : (c.mRequestQueues .REQUEST_NIRESPONSE).getSession = 0

theorem Tracks.onQueue {c : Client} (h : Tracks c)
    (f : Location.ClientQueue → Location.ClientQueue) :
    Tracks (c.onQueue .REQUEST_TRACKING f) where
  api := h.api
  sessions := h.sessions
  ni := by
    have hne : REQUEST_TYPE.REQUEST_NIRESPONSE ≠ .REQUEST_TRACKING := by decide
    rw [Client.onQueue_of_ne c f hne]
    exact h.ni

theorem requests_push (c : Client) (request : LocationAPIRequest) :
    current (c.onQueue .REQUEST_TRACKING fun q => q.push request) = current c ∧
      requests (c.onQueue .REQUEST_TRACKING fun q => q.push request) =
        requests c ++ [request.cls] := by
  unfold current requests
  rw [Client.onQueue_self]
  exact ⟨rfl, List.map_append⟩

section
variable {c : GnssAPIClient}

/-- A start goes out unless there was one since the last stop. -/
theorem gnssStart_spec (h : Tracks c.base) (api : LocationAPI) (session op : Nat) :
    (c.base.mTracking = true ∧ c.gnssStart api session op = (c, [])) ∨
    (c.base.mTracking = false ∧ ∃ base, c.gnssStart api session op =
        ({ c with base := base }, [.startTracking api session c.mLocationOptions]) ∧
      Tracks base ∧ base.mTracking = true ∧ current base = session ∧
        requests base = [StartTrackingRequest]) := by
  unfold GnssAPIClient.gnssStart Client.locAPIStartTracking
  rw [if_pos h.api]
  cases htracking : c.base.mTracking with
  | true => exact .inl ⟨rfl, rfl⟩
  | false =>
    let base := c.base.onQueue .REQUEST_TRACKING fun q =>
      (q.reset session).push ⟨StartTrackingRequest, op⟩
    have hbase : Tracks base := h.onQueue _
    refine .inr ⟨rfl, { base with mTracking := true }, rfl, ⟨hbase.api, hbase.sessions, hbase.ni⟩,
      rfl, ?_, ?_⟩
    · show current base = session
      rw [current, Client.onQueue_self]
      rfl
    · show requests base = _
      rw [requests, Client.onQueue_self]
      rfl

/-- A stop goes out if there has been a start. -/
theorem gnssStop_spec (h : Tracks c.base) (api : LocationAPI) (op : Nat) :
    (current c.base = 0 ∧ c.gnssStop api op = (c, [])) ∨
    (0 < current c.base ∧ ∃ base, c.gnssStop api op =
        ({ c with base := base }, [.stopTracking api (current c.base)]) ∧
      Tracks base ∧ base.mTracking = false ∧ current base = current c.base ∧
        requests base = requests c.base ++ [StopTrackingRequest]) := by
  rcases Nat.eq_zero_or_pos (current c.base) with hzero | hpos
  · have hsent : ¬(c.base.mLocationAPI = true ∧ current c.base > 0) := fun hsent => by omega
    have hstop : c.base.locAPIStopTracking op = (c.base, []) := if_neg hsent
    refine .inl ⟨hzero, ?_⟩
    rw [GnssAPIClient.gnssStop, hstop]
    rfl
  · have hsent : c.base.mLocationAPI = true ∧ current c.base > 0 := ⟨h.api, hpos⟩
    refine .inr ⟨hpos, ?_⟩
    let base := c.base.onQueue .REQUEST_TRACKING fun q => q.push ⟨StopTrackingRequest, op⟩
    have hbase : Tracks base := h.onQueue _
    have hstop : c.base.locAPIStopTracking op = ({ base with mTracking := false },
      [⟨.stopTracking, current c.base, .REQUEST_TRACKING, some ⟨StopTrackingRequest, op⟩⟩]) :=
      if_pos hsent
    obtain ⟨hcurrent, hrequests⟩ := requests_push c.base ⟨StopTrackingRequest, op⟩
    rw [GnssAPIClient.gnssStop, hstop]
    exact ⟨{ base with mTracking := false }, rfl, ⟨hbase.api, hbase.sessions, hbase.ni⟩, rfl,
      hcurrent, hrequests⟩

/-- New options go out if there has been a start. -/
theorem gnssSetPositionMode_spec (h : Tracks c.base) (api : LocationAPI) (mode : GnssPositionMode)
    (recurrence : GnssPositionRecurrence) (minIntervalMs preferredAccuracyMeters op : Nat) :
    ∃ base options, options.size ≠ 0 ∧ Tracks base ∧ base.mTracking = c.base.mTracking ∧
      current base = current c.base ∧
      ((current c.base = 0 ∧ requests base = requests c.base ∧
        (c.gnssSetPositionMode api mode recurrence minIntervalMs preferredAccuracyMeters op).2 =
          ({ c with base := base, mLocationOptions := options }, [])) ∨
      (0 < current c.base ∧ requests base = requests c.base ++ [UpdateTrackingOptionsRequest] ∧
        (c.gnssSetPositionMode api mode recurrence minIntervalMs preferredAccuracyMeters op).2 =
          ({ c with base := base, mLocationOptions := options },
            [.updateTracking api (current c.base) options]))) := by
  obtain ⟨options, hsize, hmode⟩ : ∃ options : LocationOptions, options.size ≠ 0 ∧
      (c.gnssSetPositionMode api mode recurrence minIntervalMs preferredAccuracyMeters op).2 =
        ({ c with base := (c.base.locAPIUpdateTrackingOptions op).1, mLocationOptions := options },
          (c.base.locAPIUpdateTrackingOptions op).2.filterMap (messageOf api options)) := by
    cases mode <;> exact ⟨_, (by decide : sizeofLocationOptions ≠ 0), rfl⟩
  rw [hmode]
  rcases Nat.eq_zero_or_pos (current c.base) with hzero | hpos
  · have hsent : ¬(c.base.mLocationAPI = true ∧ current c.base > 0) := fun hsent => by omega
    have hupdate : c.base.locAPIUpdateTrackingOptions op = (c.base, []) := if_neg hsent
    rw [hupdate]
    exact ⟨c.base, options, hsize, h, rfl, rfl, .inl ⟨hzero, rfl, rfl⟩⟩
  · have hsent : c.base.mLocationAPI = true ∧ current c.base > 0 := ⟨h.api, hpos⟩
    let base := c.base.onQueue .REQUEST_TRACKING fun q => q.push ⟨UpdateTrackingOptionsRequest, op⟩
    have hupdate : c.base.locAPIUpdateTrackingOptions op = (base, [⟨.updateTrackingOptions,
      current c.base, .REQUEST_TRACKING, some ⟨UpdateTrackingOptionsRequest, op⟩⟩]) := if_pos hsent
    obtain ⟨hcurrent, hrequests⟩ := requests_push c.base ⟨UpdateTrackingOptionsRequest, op⟩
    rw [hupdate]
    exact ⟨base, options, hsize, h.onQueue _, rfl, hcurrent, .inr ⟨hpos, hrequests, rfl⟩⟩

end

/-! ## What an answer does to the client -/

section
variable {c : Client}

theorem onResponse_of_tracks (h : Tracks c) (request : LocationAPIRequest) (error : LocationError)
    (id : Nat) : request.onResponse c error id = c := by
  have hremove : c.removeSession id = c := by
    rw [Client.removeSession, h.sessions id]
    rfl
  unfold LocationAPIRequest.onResponse
  rw [hremove]
  split <;> simp

/-- The answer of another session finds no request. -/
theorem onResponseCb_other (h : Tracks c) {id : Nat} (hid : 0 < id) (hne : current c ≠ id)
    (error : LocationError) :
    (c.getRequestBySession id).1 = none ∧ c.onResponseCb error id = c := by
  have hqueue : c.queueOfSession id = none := by
    have hni : (c.mRequestQueues .REQUEST_NIRESPONSE).getSession ≠ id := by
      rw [h.ni]
      exact Nat.ne_of_lt hid
    simp [Client.queueOfSession, hni, show (c.mRequestQueues .REQUEST_TRACKING).getSession ≠ id
      from hne]
  have hget : c.getRequestBySession id = (none, c) := by
    simp [Client.getRequestBySession, hqueue, h.sessions id]
  exact ⟨by rw [hget], by rw [Client.onResponseCb, hget]⟩

/-- The answer of the client's session is for the oldest request. -/
theorem onResponseCb_current (h : Tracks c) {cls : RequestClass} {rest : List RequestClass}
    (hrequests : requests c = cls :: rest) (error : LocationError) :
    ((c.getRequestBySession (current c)).1.map (·.cls)) = some cls ∧
      Tracks (c.onResponseCb error (current c)) ∧
      (c.onResponseCb error (current c)).mTracking = c.mTracking ∧
      current (c.onResponseCb error (current c)) = current c ∧
      requests (c.onResponseCb error (current c)) = rest := by
  obtain ⟨request, more, hmQueue, hcls, hrest⟩ := List.map_eq_cons_iff.mp hrequests
  have hqueue : c.queueOfSession (current c) = some .REQUEST_TRACKING := by
    simp [Client.queueOfSession, current]
  have hget : c.getRequestBySession (current c) =
      (some request, c.onQueue .REQUEST_TRACKING fun q => q.pop.2) := by
    simp [Client.getRequestBySession, hqueue, Client.popQueue, Location.Requests.RequestQueue.pop, hmQueue]
  have htracks : Tracks (c.onQueue .REQUEST_TRACKING fun q => q.pop.2) := h.onQueue _
  have hcb : c.onResponseCb error (current c) = c.onQueue .REQUEST_TRACKING fun q => q.pop.2 := by
    rw [Client.onResponseCb, hget]
    exact onResponse_of_tracks htracks request error _
  refine ⟨by rw [hget, ← hcls]; rfl, hcb ▸ htracks, by rw [hcb]; rfl, ?_, ?_⟩
  · rw [hcb, current, Client.onQueue_self]
    rfl
  · rw [hcb, requests, Client.onQueue_self]
    simp [Location.Requests.RequestQueue.pop, hmQueue, hrest]

end

end DeviceHal.Android.TrackingStatus
