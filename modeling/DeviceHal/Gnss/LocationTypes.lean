import Mathlib.Tactic.TypeStar

/-! # Types of `LocationAPI.h`

The enumerations that the adapter and its clients exchange. -/
namespace DeviceHal.Gnss.LocationTypes

inductive LocationError where
  | LOCATION_ERROR_SUCCESS
  | LOCATION_ERROR_GENERAL_FAILURE
  | LOCATION_ERROR_CALLBACK_MISSING
  | LOCATION_ERROR_INVALID_PARAMETER
  | LOCATION_ERROR_ID_EXISTS
  | LOCATION_ERROR_ID_UNKNOWN
  | LOCATION_ERROR_ALREADY_STARTED
  | LOCATION_ERROR_GEOFENCES_AT_MAX
  | LOCATION_ERROR_NOT_SUPPORTED
deriving DecidableEq

/-- An enumeration with one named value; callers pass any. -/
abbrev LocationTechnologyType := Int
def LOCATION_TECHNOLOGY_TYPE_GNSS : LocationTechnologyType := 0

inductive GnssConfigGpsLock where
  | GNSS_CONFIG_GPS_LOCK_NONE
  | GNSS_CONFIG_GPS_LOCK_MO
  | GNSS_CONFIG_GPS_LOCK_NI
  | GNSS_CONFIG_GPS_LOCK_MO_AND_NI
deriving DecidableEq

inductive GnssNiType where
  | GNSS_NI_TYPE_VOICE
  | GNSS_NI_TYPE_SUPL
  | GNSS_NI_TYPE_CONTROL_PLANE
  | GNSS_NI_TYPE_EMERGENCY_SUPL
deriving DecidableEq

inductive GnssNiResponse where
  | GNSS_NI_RESPONSE_ACCEPT
  | GNSS_NI_RESPONSE_DENY
  | GNSS_NI_RESPONSE_NO_RESPONSE
  | GNSS_NI_RESPONSE_IGNORE
deriving DecidableEq

end DeviceHal.Gnss.LocationTypes
