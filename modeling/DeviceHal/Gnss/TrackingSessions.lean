import DeviceHal.Gnss.LocationTypes
import Mathlib.Tactic
import Std.Data.TreeMap

/-! # Tracking sessions of GnssAdapter

The clients, the tracking sessions and the engine of `gnss/GnssAdapter.cpp`:
the messages that add and remove clients and start, update and stop sessions,
and the multiplexing of all sessions onto one engine session. There is no
other ULP than `UlpProxyBase`. The engine's own `startFix` and `stopFix` are
the vendor's; what the n-th call returns is the parameter `results`. -/
namespace DeviceHal.Gnss.TrackingSessions

/-! ## Types of `LocationAPI.h` and `gps_extended.h` -/

/-- A client's address. -/
abbrev LocationAPI := Nat

inductive GnssSuplMode where
  | GNSS_SUPL_MODE_STANDALONE | GNSS_SUPL_MODE_MSB | GNSS_SUPL_MODE_MSA
deriving DecidableEq

open GnssSuplMode DeviceHal.Gnss.LocationTypes LocationError

structure LocationOptions where
  size : Nat
  minInterval : Nat
  minDistance : Nat
  mode : GnssSuplMode
deriving DecidableEq

/-- The zeroed options, whose size says that they are not set. -/
def LocationOptions.unset : LocationOptions := ⟨0, 0, 0, GNSS_SUPL_MODE_STANDALONE⟩

/-- Which of the callbacks the adapter reads are set. -/
structure LocationCallbacks where
  responseCb : Bool
  trackingCb : Bool
  gnssNiCb : Bool
  gnssSvCb : Bool
  gnssNmeaCb : Bool
  gnssMeasurementsCb : Bool
deriving DecidableEq

inductive LocPositionMode where
  | LOC_POSITION_MODE_INVALID
  | LOC_POSITION_MODE_STANDALONE
  | LOC_POSITION_MODE_MS_BASED
  | LOC_POSITION_MODE_MS_ASSISTED
deriving DecidableEq

open LocPositionMode

def LOC_GPS_POSITION_RECURRENCE_PERIODIC : Nat := 0
def GPS_DEFAULT_FIX_INTERVAL_MS : Nat := 1000

structure LocPosMode where
  mode : LocPositionMode
  recurrence : Nat
  min_interval : Nat
  preferred_accuracy : Nat
  preferred_time : Nat
  share_position : Bool
  credentials : List Char
  provider : List Char
deriving DecidableEq

/-- The default constructor. -/
def LocPosMode.default : LocPosMode where
  mode := LOC_POSITION_MODE_MS_BASED
  recurrence := LOC_GPS_POSITION_RECURRENCE_PERIODIC
  min_interval := GPS_DEFAULT_FIX_INTERVAL_MS
  preferred_accuracy := 50
  preferred_time := 120000
  share_position := true
  credentials := []
  provider := []

structure LocationSessionKey where
  client : LocationAPI
  id : Nat
deriving DecidableEq

/-- Sessions are ordered by id, then by client. -/
instance : Ord LocationSessionKey :=
  ⟨compareLex (compareOn LocationSessionKey.id) (compareOn LocationSessionKey.client)⟩

instance : Std.TransOrd LocationSessionKey :=
  inferInstanceAs (Std.TransCmp
    (compareLex (compareOn LocationSessionKey.id) (compareOn LocationSessionKey.client)))

instance : Std.LawfulEqOrd LocationSessionKey where
  compare_self {a} :=
    show compareLex (compareOn LocationSessionKey.id) (compareOn LocationSessionKey.client) a a = .eq
      from Std.ReflCmp.compare_self
  eq_of_compare {a b} h := by
    obtain ⟨h1, h2⟩ := Ordering.then_eq_eq.mp h
    cases a
    cases b
    rw [LocationSessionKey.mk.injEq]
    exact ⟨Std.LawfulEqOrd.eq_of_compare h2, Std.LawfulEqOrd.eq_of_compare h1⟩

abbrev LocationSessionMap := Std.TreeMap LocationSessionKey LocationOptions

/-! ## The engine behind LocApiBase -/

def LOC_API_ADAPTER_ERR_SUCCESS : Int := 0

inductive LocApiCall where
  | startFix (posMode : LocPosMode)
  | stopFix
deriving DecidableEq

/-- The engine: the calls it got, and what it is tracking with, if it is. -/
structure LocApi where
  calls : List LocApiCall
  session : Option LocPosMode
deriving DecidableEq

section
variable (results : Nat → Int)

def LocApi.startFix (api : LocApi) (posMode : LocPosMode) : LocApi × Int :=
  let apiErr := results api.calls.length
  (⟨api.calls ++ [.startFix posMode],
    if apiErr = LOC_API_ADAPTER_ERR_SUCCESS then some posMode else api.session⟩, apiErr)

def LocApi.stopFix (api : LocApi) : LocApi × Int :=
  let apiErr := results api.calls.length
  (⟨api.calls ++ [.stopFix],
    if apiErr = LOC_API_ADAPTER_ERR_SUCCESS then none else api.session⟩, apiErr)

end

structure UlpProxyBase where
  mPosMode : LocPosMode
  mFixSet : Bool
deriving DecidableEq

namespace UlpProxyBase

def new : UlpProxyBase := ⟨{ LocPosMode.default with mode := LOC_POSITION_MODE_INVALID }, false⟩

/-- The base class handles nothing, so that the engine is called. -/
def sendFixMode (ulp : UlpProxyBase) (params : LocPosMode) : UlpProxyBase × Bool :=
  ({ ulp with mPosMode := params }, false)

def sendStartFix (ulp : UlpProxyBase) : UlpProxyBase × Bool := ({ ulp with mFixSet := true }, false)

def sendStopFix (ulp : UlpProxyBase) : UlpProxyBase × Bool := ({ ulp with mFixSet := false }, false)

end UlpProxyBase

/-! ## The adapter -/

/-- A call of `reportResponse`, and whether it reached the client. -/
structure Response where
  client : LocationAPI
  err : LocationError
  sessionId : Nat
  delivered : Bool
deriving DecidableEq

structure GnssAdapter where
  mUlpProxy : UlpProxyBase
  mClientData : Std.TreeMap LocationAPI LocationCallbacks
  mTrackingSessions : LocationSessionMap
  mEvtMask : UInt64
  mNmeaMask : UInt32
  /-- `mAgpsCbInfo.statusV4Cb` is set. -/
  statusV4Cb : Bool
  /-- `mOdcpiRequestCb` is set. -/
  odcpiRequestCb : Bool
  mOdcpiRequestActive : Bool
  EXTERNAL_DR_ENABLED : Nat
  mLocApi : LocApi
  responses : List Response

def LOC_API_ADAPTER_BIT_PARSED_POSITION_REPORT : UInt64 := (1 : UInt64) <<< 0
def LOC_API_ADAPTER_BIT_SATELLITE_REPORT : UInt64 := (1 : UInt64) <<< 1
def LOC_API_ADAPTER_BIT_NMEA_1HZ_REPORT : UInt64 := (1 : UInt64) <<< 2
def LOC_API_ADAPTER_BIT_NI_NOTIFY_VERIFY_REQUEST : UInt64 := (1 : UInt64) <<< 4
def LOC_API_ADAPTER_BIT_LOCATION_SERVER_REQUEST : UInt64 := (1 : UInt64) <<< 6
def LOC_API_ADAPTER_BIT_REQUEST_WIFI : UInt64 := (1 : UInt64) <<< 9
def LOC_API_ADAPTER_BIT_GNSS_SV_POLYNOMIAL_REPORT : UInt64 := (1 : UInt64) <<< 23
def LOC_API_ADAPTER_BIT_GNSS_MEASUREMENT : UInt64 := (1 : UInt64) <<< 26

namespace GnssAdapter

/-- A new adapter, given what the rest of it holds. -/
def new (nmeaMask : UInt32) (statusV4Cb odcpiRequestCb : Bool) (externalDr : Nat) :
    GnssAdapter where
  mUlpProxy := .new
  mClientData := ∅
  mTrackingSessions := ∅
  mEvtMask := 0
  mNmeaMask := nmeaMask
  statusV4Cb := statusV4Cb
  odcpiRequestCb := odcpiRequestCb
  mOdcpiRequestActive := false
  EXTERNAL_DR_ENABLED := externalDr
  mLocApi := ⟨[], none⟩
  responses := []

def convertOptions (out : LocPosMode) (options : LocationOptions) : LocPosMode :=
  { out with
    mode := match options.mode with
      | GNSS_SUPL_MODE_MSB => LOC_POSITION_MODE_MS_BASED
      | GNSS_SUPL_MODE_MSA => LOC_POSITION_MODE_MS_ASSISTED
      | GNSS_SUPL_MODE_STANDALONE => LOC_POSITION_MODE_STANDALONE
    share_position := true
    min_interval := options.minInterval }

/-! ### Clients -/

/-- The bits a client's callbacks ask for. -/
def clientMask (nmeaMask : UInt32) (callbacks : LocationCallbacks) : UInt64 :=
  (if callbacks.trackingCb then LOC_API_ADAPTER_BIT_PARSED_POSITION_REPORT else 0) |||
  (if callbacks.gnssNiCb then LOC_API_ADAPTER_BIT_NI_NOTIFY_VERIFY_REQUEST else 0) |||
  (if callbacks.gnssSvCb then LOC_API_ADAPTER_BIT_SATELLITE_REPORT else 0) |||
  (if callbacks.gnssNmeaCb && nmeaMask != 0 then LOC_API_ADAPTER_BIT_NMEA_1HZ_REPORT else 0) |||
  (if callbacks.gnssMeasurementsCb then LOC_API_ADAPTER_BIT_GNSS_MEASUREMENT else 0)

def updateClientsEventMask (a : GnssAdapter) : GnssAdapter :=
  let mask := a.mClientData.foldl (fun mask _ callbacks => mask ||| clientMask a.mNmeaMask callbacks) 0
  let mask := if a.EXTERNAL_DR_ENABLED = 1 then
    mask ||| LOC_API_ADAPTER_BIT_GNSS_MEASUREMENT ||| LOC_API_ADAPTER_BIT_GNSS_SV_POLYNOMIAL_REPORT
    else mask
  let mask := if a.statusV4Cb then mask ||| LOC_API_ADAPTER_BIT_LOCATION_SERVER_REQUEST else mask
  let mask := if a.odcpiRequestCb then mask ||| LOC_API_ADAPTER_BIT_REQUEST_WIFI else mask
  { a with mEvtMask := mask }

def saveClient (a : GnssAdapter) (client : LocationAPI) (callbacks : LocationCallbacks) :
    GnssAdapter :=
  { a with mClientData := a.mClientData.insert client callbacks }.updateClientsEventMask

def eraseClient (a : GnssAdapter) (client : LocationAPI) : GnssAdapter :=
  { a with mClientData := a.mClientData.erase client }.updateClientsEventMask

def hasTrackingCallback (a : GnssAdapter) (client : LocationAPI) : Bool :=
  a.mClientData[client]?.any (·.trackingCb)

def hasMeasurementsCallback (a : GnssAdapter) (client : LocationAPI) : Bool :=
  a.mClientData[client]?.any (·.gnssMeasurementsCb)

def reportResponse (a : GnssAdapter) (client : LocationAPI) (err : LocationError)
    (sessionId : Nat) : GnssAdapter :=
  let delivered := a.mClientData[client]?.any (·.responseCb)
  { a with responses := a.responses ++ [⟨client, err, sessionId, delivered⟩] }

/-! ### Sessions -/

def isTrackingSession (a : GnssAdapter) (client : LocationAPI) (sessionId : Nat) : Bool :=
  a.mTrackingSessions.contains ⟨client, sessionId⟩

def saveTrackingSession (a : GnssAdapter) (client : LocationAPI) (sessionId : Nat)
    (options : LocationOptions) : GnssAdapter :=
  { a with mTrackingSessions := a.mTrackingSessions.insert ⟨client, sessionId⟩ options }

def eraseTrackingSession (a : GnssAdapter) (client : LocationAPI) (sessionId : Nat) : GnssAdapter :=
  { a with mTrackingSessions := a.mTrackingSessions.erase ⟨client, sessionId⟩ }

/-- One turn of the scans for the smallest interval. -/
def keepSmaller (smallest options : LocationOptions) : LocationOptions :=
  if smallest.size = 0 ∨ options.minInterval < smallest.minInterval then options else smallest

/-- The scan over all sessions, in the order of the map. -/
def smallestIntervalOptions (a : GnssAdapter) : LocationOptions :=
  (a.mTrackingSessions.toList.map (·.2)).foldl keepSmaller .unset

/-- The scan over all sessions but one. -/
def smallestOtherOptions (a : GnssAdapter) (key : LocationSessionKey) : LocationOptions :=
  ((a.mTrackingSessions.toList.filter (·.1 != key)).map (·.2)).foldl keepSmaller .unset

section
variable (results : Nat → Int)

def startTracking (a : GnssAdapter) (options : LocationOptions) : GnssAdapter × LocationError :=
  let locPosMode := convertOptions .default options
  let (ulp, _) := a.mUlpProxy.sendFixMode locPosMode
  let (ulp, sent) := ulp.sendStartFix
  let a := { a with mUlpProxy := ulp }
  if !sent then
    let (api, apiErr) := a.mLocApi.startFix results locPosMode
    ({ a with mLocApi := api },
      if apiErr = LOC_API_ADAPTER_ERR_SUCCESS then LOCATION_ERROR_SUCCESS
      else LOCATION_ERROR_GENERAL_FAILURE)
  else (a, LOCATION_ERROR_SUCCESS)

def stopTracking (a : GnssAdapter) : GnssAdapter × LocationError :=
  let (ulp, sent) := a.mUlpProxy.sendStopFix
  let a := { a with mUlpProxy := ulp }
  if !sent then
    let (api, apiErr) := a.mLocApi.stopFix results
    ({ a with mLocApi := api },
      if apiErr = LOC_API_ADAPTER_ERR_SUCCESS then LOCATION_ERROR_SUCCESS
      else LOCATION_ERROR_GENERAL_FAILURE)
  else (a, LOCATION_ERROR_SUCCESS)

def startTrackingMultiplex (a : GnssAdapter) (options : LocationOptions) :
    GnssAdapter × LocationError :=
  if a.mTrackingSessions.isEmpty then a.startTracking results options
  else if options.minInterval < a.smallestIntervalOptions.minInterval then
    a.startTracking results options
  else (a, LOCATION_ERROR_SUCCESS)

def updateTrackingMultiplex (a : GnssAdapter) (client : LocationAPI) (id : Nat)
    (options : LocationOptions) : GnssAdapter × LocationError :=
  if a.mTrackingSessions.size = 1 then a.startTracking results options
  else
    match a.mTrackingSessions[(⟨client, id⟩ : LocationSessionKey)]? with
    | none => (a, LOCATION_ERROR_SUCCESS)
    | some old =>
      let smallest := a.smallestOtherOptions ⟨client, id⟩
      if options.minInterval < smallest.minInterval then a.startTracking results options
      else if old.minInterval < smallest.minInterval then a.startTracking results smallest
      else (a, LOCATION_ERROR_SUCCESS)

def stopTrackingMultiplex (a : GnssAdapter) (client : LocationAPI) (id : Nat) :
    GnssAdapter × LocationError :=
  if a.mTrackingSessions.size = 1 then a.stopTracking results
  else
    match a.mTrackingSessions[(⟨client, id⟩ : LocationSessionKey)]? with
    | none => (a, LOCATION_ERROR_SUCCESS)
    | some old =>
      let smallest := a.smallestOtherOptions ⟨client, id⟩
      if old.minInterval < smallest.minInterval then a.startTracking results smallest
      else (a, LOCATION_ERROR_SUCCESS)

/-- One turn of the loop of `stopClientSessions`, at a session of the client. -/
def stopSession (a : GnssAdapter) (key : LocationSessionKey) : GnssAdapter :=
  let (a, err) := a.stopTrackingMultiplex results key.client key.id
  if err = LOCATION_ERROR_SUCCESS then a.eraseTrackingSession key.client key.id else a

/-- The loop erases only the session it is at, so it visits every session the
map had at its start. -/
def stopClientSessions (a : GnssAdapter) (client : LocationAPI) : GnssAdapter :=
  (a.mTrackingSessions.keys.filter (·.client == client)).foldl (stopSession results) a

/-- The result of the engine's start is not looked at. -/
def restartSessions (a : GnssAdapter) : GnssAdapter :=
  let a := { a with mOdcpiRequestActive := false }
  if a.mTrackingSessions.isEmpty then a
  else
    let locPosMode := convertOptions .default a.smallestIntervalOptions
    { a with mLocApi := (a.mLocApi.startFix results locPosMode).1 }

/-! ### Messages -/

/-- `MsgStartTracking::proc`. -/
def procStartTracking (a : GnssAdapter) (client : LocationAPI) (sessionId : Nat)
    (options : LocationOptions) : GnssAdapter :=
  let (a, err) :=
    if !a.hasTrackingCallback client && !a.hasMeasurementsCallback client then
      (a, LOCATION_ERROR_CALLBACK_MISSING)
    else if options.size = 0 then (a, LOCATION_ERROR_INVALID_PARAMETER)
    else
      let (a, err) := a.startTrackingMultiplex results options
      (if err = LOCATION_ERROR_SUCCESS then a.saveTrackingSession client sessionId options else a,
        err)
  a.reportResponse client err sessionId

/-- `MsgUpdateTracking::proc`. -/
def procUpdateTracking (a : GnssAdapter) (client : LocationAPI) (sessionId : Nat)
    (options : LocationOptions) : GnssAdapter :=
  if a.isTrackingSession client sessionId then
    let (a, err) :=
      if options.size = 0 then (a, LOCATION_ERROR_INVALID_PARAMETER)
      else
        let (a, err) := a.updateTrackingMultiplex results client sessionId options
        (if err = LOCATION_ERROR_SUCCESS then a.saveTrackingSession client sessionId options else a,
          err)
    a.reportResponse client err sessionId
  else a

/-- `MsgStopTracking::proc`. -/
def procStopTracking (a : GnssAdapter) (client : LocationAPI) (sessionId : Nat) : GnssAdapter :=
  if a.isTrackingSession client sessionId then
    let (a, err) := a.stopTrackingMultiplex results client sessionId
    let a := if err = LOCATION_ERROR_SUCCESS then a.eraseTrackingSession client sessionId else a
    a.reportResponse client err sessionId
  else a

/-- `MsgRemoveClient::proc`. -/
def procRemoveClient (a : GnssAdapter) (client : LocationAPI) : GnssAdapter :=
  (a.stopClientSessions results client).eraseClient client

/-- The engine comes up again without a session, and the sessions are
restarted. -/
def engineRestart (a : GnssAdapter) : GnssAdapter :=
  { a with mLocApi := { a.mLocApi with session := none } }.restartSessions results

end

end GnssAdapter

/-- What the adapter's message thread processes. -/
inductive GnssMsg where
  | addClient (client : LocationAPI) (callbacks : LocationCallbacks)
  | removeClient (client : LocationAPI)
  | startTracking (client : LocationAPI) (sessionId : Nat) (options : LocationOptions)
  | updateTracking (client : LocationAPI) (sessionId : Nat) (options : LocationOptions)
  | stopTracking (client : LocationAPI) (sessionId : Nat)
  | engineRestart

def GnssAdapter.proc (results : Nat → Int) (a : GnssAdapter) : GnssMsg → GnssAdapter
  | .addClient client callbacks => a.saveClient client callbacks
  | .removeClient client => a.procRemoveClient results client
  | .startTracking client sessionId options => a.procStartTracking results client sessionId options
  | .updateTracking client sessionId options => a.procUpdateTracking results client sessionId options
  | .stopTracking client sessionId => a.procStopTracking results client sessionId
  | .engineRestart => a.engineRestart results

end DeviceHal.Gnss.TrackingSessions
