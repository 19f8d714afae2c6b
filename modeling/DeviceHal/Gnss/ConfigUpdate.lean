import DeviceHal.Lib.CText
import DeviceHal.Gnss.PowerVote

/-! # GNSS configuration

The message of `gnssUpdateConfigCommand` with the functions it uses. Ten parts
run one after the other, each if its flag is set, and each stores one error.
Five of them keep the engine's value in `ContextBase::mGps_conf`, compare the
request with it, and call the engine for a new value only. -/
namespace DeviceHal.Gnss.ConfigUpdate
open DeviceHal.Lib.CText DeviceHal.Gnss.LocationTypes
open PowerVote (lockValue)
open LocationError

/-! ## Types of a configuration -/

inductive GnssConfigSuplVersion where
  | GNSS_CONFIG_SUPL_VERSION_1_0_0
  | GNSS_CONFIG_SUPL_VERSION_2_0_0
  | GNSS_CONFIG_SUPL_VERSION_2_0_2
deriving DecidableEq

inductive GnssConfigLppProfile where
  | GNSS_CONFIG_LPP_PROFILE_RRLP_ON_LTE
  | GNSS_CONFIG_LPP_PROFILE_USER_PLANE
  | GNSS_CONFIG_LPP_PROFILE_CONTROL_PLANE
  | GNSS_CONFIG_LPP_PROFILE_USER_PLANE_AND_CONTROL_PLANE
deriving DecidableEq

inductive GnssConfigEmergencyPdnForEmergencySupl where
  | GNSS_CONFIG_EMERGENCY_PDN_FOR_EMERGENCY_SUPL_NO
  | GNSS_CONFIG_EMERGENCY_PDN_FOR_EMERGENCY_SUPL_YES
deriving DecidableEq

inductive GnssConfigSuplEmergencyServices where
  | GNSS_CONFIG_SUPL_EMERGENCY_SERVICES_NO
  | GNSS_CONFIG_SUPL_EMERGENCY_SERVICES_YES
deriving DecidableEq

/-- Callers pass any value, and other than the two named ones are refused. -/
abbrev GnssAssistanceType := UInt32
def GNSS_ASSISTANCE_TYPE_SUPL : GnssAssistanceType := 0
def GNSS_ASSISTANCE_TYPE_C2K : GnssAssistanceType := 1

structure GnssConfigSetAssistanceServer where
  type : GnssAssistanceType
  /-- `none` is NULL. -/
  hostName : Option Bytes
  port : UInt32
deriving DecidableEq

structure GnssConfig where
  flags : UInt32
  gpsLock : GnssConfigGpsLock
  suplVersion : GnssConfigSuplVersion
  assistanceServer : GnssConfigSetAssistanceServer
  lppProfile : GnssConfigLppProfile
  lppeControlPlaneMask : UInt16
  lppeUserPlaneMask : UInt16
  aGlonassPositionProtocolMask : UInt16
  emergencyPdnForEmergencySupl : GnssConfigEmergencyPdnForEmergencySupl
  suplEmergencyServices : GnssConfigSuplEmergencyServices
  suplModeMask : UInt16
deriving DecidableEq

def GNSS_CONFIG_FLAGS_GPS_LOCK_VALID_BIT : UInt32 := 0x1
def GNSS_CONFIG_FLAGS_SUPL_VERSION_VALID_BIT : UInt32 := 0x2
def GNSS_CONFIG_FLAGS_SET_ASSISTANCE_DATA_VALID_BIT : UInt32 := 0x4
def GNSS_CONFIG_FLAGS_LPP_PROFILE_VALID_BIT : UInt32 := 0x8
def GNSS_CONFIG_FLAGS_LPPE_CONTROL_PLANE_VALID_BIT : UInt32 := 0x10
def GNSS_CONFIG_FLAGS_LPPE_USER_PLANE_VALID_BIT : UInt32 := 0x20
def GNSS_CONFIG_FLAGS_AGLONASS_POSITION_PROTOCOL_VALID_BIT : UInt32 := 0x40
def GNSS_CONFIG_FLAGS_EM_PDN_FOR_EM_SUPL_VALID_BIT : UInt32 := 0x80
def GNSS_CONFIG_FLAGS_SUPL_EM_SERVICES_BIT : UInt32 := 0x100
def GNSS_CONFIG_FLAGS_SUPL_MODE_BIT : UInt32 := 0x200

/-! ## Values in the configuration -/

open GnssConfigSuplVersion GnssConfigLppProfile GnssConfigEmergencyPdnForEmergencySupl
  GnssConfigSuplEmergencyServices

def convertSuplVersion : GnssConfigSuplVersion → UInt32
  | GNSS_CONFIG_SUPL_VERSION_2_0_0 => 0x00020000
  | GNSS_CONFIG_SUPL_VERSION_2_0_2 => 0x00020002
  | GNSS_CONFIG_SUPL_VERSION_1_0_0 => 0x00010000

def convertLppProfile : GnssConfigLppProfile → UInt32
  | GNSS_CONFIG_LPP_PROFILE_USER_PLANE => 1
  | GNSS_CONFIG_LPP_PROFILE_CONTROL_PLANE => 2
  | GNSS_CONFIG_LPP_PROFILE_USER_PLANE_AND_CONTROL_PLANE => 3
  | GNSS_CONFIG_LPP_PROFILE_RRLP_ON_LTE => 0

/-- The named bits of a mask, which the configuration has in the same places. -/
def copyBits (n : Nat) (mask : UInt16) : UInt32 :=
  (List.range n).foldl (fun bits i =>
    if mask &&& 1 <<< UInt16.ofNat i ≠ 0 then bits ||| 1 <<< UInt32.ofNat i else bits) 0

def convertLppeCp (lppeControlPlaneMask : UInt16) : UInt32 := copyBits 4 lppeControlPlaneMask
def convertLppeUp (lppeUserPlaneMask : UInt16) : UInt32 := copyBits 4 lppeUserPlaneMask
def convertAGloProt (aGloPositionProtocolMask : UInt16) : UInt32 :=
  copyBits 4 aGloPositionProtocolMask

def convertEP4ES : GnssConfigEmergencyPdnForEmergencySupl → UInt32
  | GNSS_CONFIG_EMERGENCY_PDN_FOR_EMERGENCY_SUPL_YES => 1
  | GNSS_CONFIG_EMERGENCY_PDN_FOR_EMERGENCY_SUPL_NO => 0

def convertSuplEs : GnssConfigSuplEmergencyServices → UInt32
  | GNSS_CONFIG_SUPL_EMERGENCY_SERVICES_YES => 1
  | GNSS_CONFIG_SUPL_EMERGENCY_SERVICES_NO => 0

def convertSuplMode (suplModeMask : UInt16) : UInt32 := copyBits 2 suplModeMask

def htonl (hostlong : UInt32) : UInt32 :=
  let byte (i : UInt32) : UInt32 := hostlong >>> (8 * i) &&& 0xff
  byte 0 <<< 24 ||| byte 1 <<< 16 ||| byte 2 <<< 8 ||| byte 3

/-! ## State -/

/-- The fields of `ContextBase::mGps_conf` that the message uses; the GPS lock
is with the power vote. -/
structure GpsConf where
  SUPL_VER : UInt32
  SUPL_MODE : UInt32
  SUPL_ES : UInt32
  CAPABILITIES : UInt32
  LPP_PROFILE : UInt32
  USE_EMERGENCY_PDN_FOR_EMERGENCY_SUPL : UInt32
  A_GLONASS_POS_PROTOCOL_SELECT : UInt32
  AGPS_CONFIG_INJECT : UInt32
  LPPE_CP_TECHNOLOGY : UInt32
  LPPE_UP_TECHNOLOGY : UInt32
deriving DecidableEq

/-- The calls on `LocApi`, the ULP proxy and the clients. -/
inductive EngineCall where
  | setGpsLock (lock : GnssConfigGpsLock)
  | setSUPLVersion (version : GnssConfigSuplVersion)
  | setServerUrl (url : Bytes) (len : Nat)
  | setServerIp (ip port : UInt32)
  | setLPPConfig (profile : GnssConfigLppProfile)
  | setLPPeProtocolCp (lppeCP : UInt16)
  | setLPPeProtocolUp (lppeUP : UInt16)
  | setAGLONASSProtocol (aGlonassProtocol : UInt16)
  | setCapabilities (capabilities : UInt32)
  | broadcastCapabilities (mask : UInt32)
deriving DecidableEq

/-- What one message meets: the engine's answers, the `s_addr` that a host name
resolves to, and the capability bits of what the engine supports. -/
structure Api where
  result : EngineCall → LocationError
  resolveInAddress : Option Bytes → Option UInt32
  supported : UInt32

structure ConfigAdapter where
  /-- Power vote, GPS lock and the calls that have to do with it. -/
  base : PowerVote.GnssAdapter
  mGps_conf : GpsConf
  mServerUrl : Bytes
  /-- The other calls with their results, oldest first. -/
  calls : List (EngineCall × LocationError)
  collectiveResponses : List (Nat × List LocationError × List UInt32)
deriving DecidableEq

def MAX_URL_LEN : Nat := 256
def INT_MAX : Nat := 2147483647

def carrierMSA : UInt32 := 0x2
def carrierMSB : UInt32 := 0x1
def gpsConfMSA : UInt32 := 0x4
def gpsConfMSB : UInt32 := 0x2

def GpsConf.getCarrierCapabilities (conf : GpsConf) : UInt32 :=
  let capabilities := conf.CAPABILITIES
  let capabilities :=
    if conf.SUPL_MODE &&& carrierMSA ≠ carrierMSA then capabilities &&& ~~~gpsConfMSA
    else capabilities
  if conf.SUPL_MODE &&& carrierMSB ≠ carrierMSB then capabilities &&& ~~~gpsConfMSB
  else capabilities

def LOCATION_CAPABILITIES_TIME_BASED_TRACKING_BIT : UInt32 := 0x1
def LOCATION_CAPABILITIES_GEOFENCE_BIT : UInt32 := 0x10
def LOCATION_CAPABILITIES_GNSS_MSB_BIT : UInt32 := 0x40
def LOCATION_CAPABILITIES_GNSS_MSA_BIT : UInt32 := 0x80
def LOC_GPS_CAPABILITY_MSB : UInt32 := 0x2
def LOC_GPS_CAPABILITY_MSA : UInt32 := 0x4

def GpsConf.getCapabilities (conf : GpsConf) (api : Api) : UInt32 :=
  let carrierCapabilities := conf.getCarrierCapabilities
  let mask := LOCATION_CAPABILITIES_TIME_BASED_TRACKING_BIT ||| LOCATION_CAPABILITIES_GEOFENCE_BIT
  let mask := if carrierCapabilities &&& LOC_GPS_CAPABILITY_MSB ≠ 0 then
    mask ||| LOCATION_CAPABILITIES_GNSS_MSB_BIT else mask
  let mask := if LOC_GPS_CAPABILITY_MSA &&& carrierCapabilities ≠ 0 then
    mask ||| LOCATION_CAPABILITIES_GNSS_MSA_BIT else mask
  mask ||| api.supported

namespace ConfigAdapter

/-- A call and what it returns. -/
def call (a : ConfigAdapter) (api : Api) (c : EngineCall) : ConfigAdapter × LocationError :=
  ({ a with calls := a.calls ++ [(c, api.result c)] }, api.result c)

def setServerUrl (a : ConfigAdapter) (url : Bytes) : ConfigAdapter := { a with mServerUrl := url }

/-- The URL as it fits the buffer and its full length; `none` where no URL is made. -/
def serverUrl (server : Option Bytes) (port : Int32) : Option (Bytes × Nat) :=
  let noHost := bytesOf ['N', 'O', 'N', 'E']
  match server with
  | none => some ([], 0)
  | some server =>
    if server.headD 0 = 0 ∨ strncasecmp noHost server (noHost.length + 1) = 0 then some ([], 0)
    else if port > 0 then
      let url := server ++ bytesOf [':'] ++ to_string port.toUInt32.toNat
      -- `snprintf` returns an `int`, and fails beyond
      if url.length ≤ INT_MAX then some (url.take (MAX_URL_LEN - 1), url.length) else none
    else none

def setSuplHostServer (a : ConfigAdapter) (api : Api) (server : Option Bytes) (port : Int32) :
    ConfigAdapter × LocationError :=
  if a.mGps_conf.AGPS_CONFIG_INJECT ≠ 0 then
    match serverUrl server port with
    | none => (a, LOCATION_ERROR_INVALID_PARAMETER)
    | some (url, length) =>
      if strncasecmp a.mServerUrl url MAX_URL_LEN ≠ 0 then
        (a.setServerUrl url).call api (.setServerUrl url length)
      else (a, LOCATION_ERROR_INVALID_PARAMETER)
  else (a, LOCATION_ERROR_SUCCESS)

/-! ## The parts of the message -/

/-- The configured lock; a power vote keeps it from the engine. -/
def updateGpsLock (a : ConfigAdapter) (api : Api) (config : GnssConfig) :
    ConfigAdapter × LocationError :=
  let base := { a.base with GPS_LOCK := lockValue config.gpsLock }
  if base.mPowerVoteId = 0 then
    ({ a with base := base.emit (.setGpsLock config.gpsLock) },
      api.result (.setGpsLock config.gpsLock))
  else ({ a with base }, LOCATION_ERROR_SUCCESS)

end ConfigAdapter

/-- The items whose engine value is kept in the configuration, by their fields. -/
inductive ConfItem where
  | SUPL_VER
  | LPP_PROFILE
  | LPPE_CP_TECHNOLOGY
  | LPPE_UP_TECHNOLOGY
  | A_GLONASS_POS_PROTOCOL_SELECT
deriving DecidableEq

namespace GpsConf

def read (conf : GpsConf) : ConfItem → UInt32
  | .SUPL_VER => conf.SUPL_VER
  | .LPP_PROFILE => conf.LPP_PROFILE
  | .LPPE_CP_TECHNOLOGY => conf.LPPE_CP_TECHNOLOGY
  | .LPPE_UP_TECHNOLOGY => conf.LPPE_UP_TECHNOLOGY
  | .A_GLONASS_POS_PROTOCOL_SELECT => conf.A_GLONASS_POS_PROTOCOL_SELECT

def write (conf : GpsConf) (x : ConfItem) (value : UInt32) : GpsConf :=
  match x with
  | .SUPL_VER => { conf with SUPL_VER := value }
  | .LPP_PROFILE => { conf with LPP_PROFILE := value }
  | .LPPE_CP_TECHNOLOGY => { conf with LPPE_CP_TECHNOLOGY := value }
  | .LPPE_UP_TECHNOLOGY => { conf with LPPE_UP_TECHNOLOGY := value }
  | .A_GLONASS_POS_PROTOCOL_SELECT => { conf with A_GLONASS_POS_PROTOCOL_SELECT := value }

@[simp] theorem read_write_self (conf : GpsConf) (x : ConfItem) (value : UInt32) :
    (conf.write x value).read x = value := by cases x <;> rfl

theorem read_write_of_ne {x y : ConfItem} (conf : GpsConf) (h : y ≠ x) (value : UInt32) :
    (conf.write x value).read y = conf.read y := by
  cases x <;> cases y <;> first | rfl | exact absurd rfl h

@[simp] theorem inject_write (conf : GpsConf) (x : ConfItem) (value : UInt32) :
    (conf.write x value).AGPS_CONFIG_INJECT = conf.AGPS_CONFIG_INJECT := by cases x <;> rfl

end GpsConf

namespace ConfigAdapter

/-- Compare with the stored value, store, and call the engine. -/
def updateItem (a : ConfigAdapter) (api : Api) (x : ConfItem) (allowed : Bool) (new : UInt32)
    (c : EngineCall) : ConfigAdapter × LocationError :=
  if new ≠ a.mGps_conf.read x ∧ allowed then
    { a with mGps_conf := a.mGps_conf.write x new }.call api c
  else (a, LOCATION_ERROR_SUCCESS)

/-- `AGPS_CONFIG_INJECT`, which some of the items ask for. -/
def inject (a : ConfigAdapter) : Bool := a.mGps_conf.AGPS_CONFIG_INJECT ≠ 0

def updateSuplVersion (a : ConfigAdapter) (api : Api) (config : GnssConfig) :=
  a.updateItem api .SUPL_VER a.inject (convertSuplVersion config.suplVersion)
    (.setSUPLVersion config.suplVersion)

def updateAssistanceServer (a : ConfigAdapter) (api : Api) (config : GnssConfig) :
    ConfigAdapter × LocationError :=
  let server := config.assistanceServer
  if GNSS_ASSISTANCE_TYPE_SUPL = server.type then
    a.setSuplHostServer api server.hostName server.port.toInt32
  else if GNSS_ASSISTANCE_TYPE_C2K = server.type then
    if a.inject then
      match api.resolveInAddress server.hostName with
      | none => (a, LOCATION_ERROR_INVALID_PARAMETER)
      | some s_addr => a.call api (.setServerIp (htonl s_addr) server.port)
    else (a, LOCATION_ERROR_SUCCESS)
  else (a, LOCATION_ERROR_INVALID_PARAMETER)

def updateLppProfile (a : ConfigAdapter) (api : Api) (config : GnssConfig) :=
  a.updateItem api .LPP_PROFILE a.inject (convertLppProfile config.lppProfile)
    (.setLPPConfig config.lppProfile)

def updateLppeCp (a : ConfigAdapter) (api : Api) (config : GnssConfig) :=
  a.updateItem api .LPPE_CP_TECHNOLOGY true (convertLppeCp config.lppeControlPlaneMask)
    (.setLPPeProtocolCp config.lppeControlPlaneMask)

def updateLppeUp (a : ConfigAdapter) (api : Api) (config : GnssConfig) :=
  a.updateItem api .LPPE_UP_TECHNOLOGY true (convertLppeUp config.lppeUserPlaneMask)
    (.setLPPeProtocolUp config.lppeUserPlaneMask)

def updateAGloProt (a : ConfigAdapter) (api : Api) (config : GnssConfig) :=
  a.updateItem api .A_GLONASS_POS_PROTOCOL_SELECT a.inject
    (convertAGloProt config.aGlonassPositionProtocolMask)
    (.setAGLONASSProtocol config.aGlonassPositionProtocolMask)

def updateEP4ES (a : ConfigAdapter) (_ : Api) (config : GnssConfig) :
    ConfigAdapter × LocationError :=
  let newEP4ES := convertEP4ES config.emergencyPdnForEmergencySupl
  let conf := a.mGps_conf
  let conf := if newEP4ES ≠ conf.USE_EMERGENCY_PDN_FOR_EMERGENCY_SUPL then
    { conf with USE_EMERGENCY_PDN_FOR_EMERGENCY_SUPL := newEP4ES } else conf
  ({ a with mGps_conf := conf }, LOCATION_ERROR_SUCCESS)

def updateSuplEs (a : ConfigAdapter) (_ : Api) (config : GnssConfig) :
    ConfigAdapter × LocationError :=
  let newSuplEs := convertSuplEs config.suplEmergencyServices
  let conf := a.mGps_conf
  let conf := if newSuplEs ≠ conf.SUPL_ES then { conf with SUPL_ES := newSuplEs } else conf
  ({ a with mGps_conf := conf }, LOCATION_ERROR_SUCCESS)

/-- A new mode changes the capabilities, which the ULP proxy and the clients are told. -/
def updateSuplMode (a : ConfigAdapter) (api : Api) (config : GnssConfig) :
    ConfigAdapter × LocationError :=
  let newSuplMode := convertSuplMode config.suplModeMask
  if newSuplMode ≠ a.mGps_conf.SUPL_MODE then
    let a := { a with mGps_conf := { a.mGps_conf with SUPL_MODE := newSuplMode } }
    let a := (a.call api (.setCapabilities a.mGps_conf.getCarrierCapabilities)).1
    let a := (a.call api (.broadcastCapabilities (a.mGps_conf.getCapabilities api))).1
    (a, LOCATION_ERROR_SUCCESS)
  else (a, LOCATION_ERROR_SUCCESS)

end ConfigAdapter

/-! ## The message -/

structure Part where
  flag : UInt32
  update : ConfigAdapter → Api → GnssConfig → ConfigAdapter × LocationError

def parts : List Part :=
  [⟨GNSS_CONFIG_FLAGS_GPS_LOCK_VALID_BIT, ConfigAdapter.updateGpsLock⟩,
    ⟨GNSS_CONFIG_FLAGS_SUPL_VERSION_VALID_BIT, ConfigAdapter.updateSuplVersion⟩,
    ⟨GNSS_CONFIG_FLAGS_SET_ASSISTANCE_DATA_VALID_BIT, ConfigAdapter.updateAssistanceServer⟩,
    ⟨GNSS_CONFIG_FLAGS_LPP_PROFILE_VALID_BIT, ConfigAdapter.updateLppProfile⟩,
    ⟨GNSS_CONFIG_FLAGS_LPPE_CONTROL_PLANE_VALID_BIT, ConfigAdapter.updateLppeCp⟩,
    ⟨GNSS_CONFIG_FLAGS_LPPE_USER_PLANE_VALID_BIT, ConfigAdapter.updateLppeUp⟩,
    ⟨GNSS_CONFIG_FLAGS_AGLONASS_POSITION_PROTOCOL_VALID_BIT, ConfigAdapter.updateAGloProt⟩,
    ⟨GNSS_CONFIG_FLAGS_EM_PDN_FOR_EM_SUPL_VALID_BIT, ConfigAdapter.updateEP4ES⟩,
    ⟨GNSS_CONFIG_FLAGS_SUPL_EM_SERVICES_BIT, ConfigAdapter.updateSuplEs⟩,
    ⟨GNSS_CONFIG_FLAGS_SUPL_MODE_BIT, ConfigAdapter.updateSuplMode⟩]

/-- The errors stored so far; `mCount` is the number of flags set. -/
structure Answers where
  index : Nat
  errs : List LocationError
deriving DecidableEq

def Answers.put (r : Answers) (mCount : Nat) (err : LocationError) : Answers :=
  ⟨r.index + 1, if r.index < mCount then r.errs ++ [err] else r.errs⟩

structure MsgGnssUpdateConfig where
  mConfig : GnssConfig
  mIds : List UInt32

def Part.run (m : MsgGnssUpdateConfig) (api : Api) (s : ConfigAdapter × Answers) (p : Part) :
    ConfigAdapter × Answers :=
  if m.mConfig.flags &&& p.flag ≠ 0 then
    let (a, err) := p.update s.1 api m.mConfig
    (a, s.2.put m.mIds.length err)
  else s

/-- All parts; the errors are reported with the ids of the message. -/
def MsgGnssUpdateConfig.update (m : MsgGnssUpdateConfig) (a : ConfigAdapter) (api : Api) :
    ConfigAdapter × Answers :=
  parts.foldl (Part.run m api) (a, ⟨0, []⟩)

def MsgGnssUpdateConfig.proc (m : MsgGnssUpdateConfig) (a : ConfigAdapter) (api : Api) :
    ConfigAdapter :=
  let (a, r) := m.update a api
  { a with collectiveResponses := a.collectiveResponses ++ [(r.index, r.errs, m.mIds)] }

/-- The bits that are set. -/
def count (flags : UInt32) : Nat := ((List.range 32).filter (flags.toNat.testBit ·)).length

namespace ConfigAdapter

def generateSessionIds (a : PowerVote.GnssAdapter) : Nat → PowerVote.GnssAdapter × List UInt32
  | 0 => (a, [])
  | n + 1 =>
    let (a, id) := a.generateSessionId
    let (a, ids) := generateSessionIds a n
    (a, id :: ids)

/-- The message that is posted, with fresh ids; `none` without flags. -/
def gnssUpdateConfigCommand (a : ConfigAdapter) (config : GnssConfig) :
    ConfigAdapter × Option MsgGnssUpdateConfig :=
  if count config.flags > 0 then
    let (base, ids) := generateSessionIds a.base (count config.flags)
    ({ a with base }, some ⟨config, ids⟩)
  else (a, none)

end ConfigAdapter

end DeviceHal.Gnss.ConfigUpdate
