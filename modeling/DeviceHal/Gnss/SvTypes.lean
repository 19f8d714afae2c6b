import DeviceHal.Lib.BitMask

/-! # Satellites

The satellite types of `LocationAPI.h` and `gps_extended_c.h`, over a type `F` of
floating point values. -/
namespace DeviceHal.Gnss.SvTypes
open DeviceHal.Lib.BitMask

inductive GnssSvType where
  | GNSS_SV_TYPE_UNKNOWN
  | GNSS_SV_TYPE_GPS
  | GNSS_SV_TYPE_SBAS
  | GNSS_SV_TYPE_GLONASS
  | GNSS_SV_TYPE_QZSS
  | GNSS_SV_TYPE_BEIDOU
  | GNSS_SV_TYPE_GALILEO
deriving DecidableEq

open GnssSvType

/-- The place of `GNSS_SV_OPTIONS_USED_IN_FIX_BIT`. -/
def usedInFixPlace : Nat := 2

def GNSS_SV_OPTIONS_USED_IN_FIX_BIT : BitVec 16 := bit 16 usedInFixPlace

structure GnssSv (F : Type) where
  svId : UInt16
  type : GnssSvType
  cN0Dbhz : F
  elevation : F
  azimuth : F
  gnssSvOptionsMask : BitVec 16
deriving DecidableEq

def GNSS_SV_MAX : Nat := 64

/-- `count` is the length. -/
structure GnssSvNotification (F : Type) where
  gnssSvs : List (GnssSv F)
  count_le : gnssSvs.length ≤ GNSS_SV_MAX

structure GnssSvUsedInPosition where
  gps_sv_used_ids_mask : BitVec 64
  glo_sv_used_ids_mask : BitVec 64
  gal_sv_used_ids_mask : BitVec 64
  bds_sv_used_ids_mask : BitVec 64
  qzss_sv_used_ids_mask : BitVec 64
deriving DecidableEq

/-- The mask of a constellation; the other types have none. -/
def GnssSvUsedInPosition.mask (ids : GnssSvUsedInPosition) : GnssSvType → BitVec 64
  | GNSS_SV_TYPE_GPS => ids.gps_sv_used_ids_mask
  | GNSS_SV_TYPE_GLONASS => ids.glo_sv_used_ids_mask
  | GNSS_SV_TYPE_GALILEO => ids.gal_sv_used_ids_mask
  | GNSS_SV_TYPE_BEIDOU => ids.bds_sv_used_ids_mask
  | GNSS_SV_TYPE_QZSS => ids.qzss_sv_used_ids_mask
  | _ => 0#64

/-- The five supported types. -/
def constellations : List GnssSvType :=
  [GNSS_SV_TYPE_GPS, GNSS_SV_TYPE_GLONASS, GNSS_SV_TYPE_GALILEO, GNSS_SV_TYPE_QZSS,
    GNSS_SV_TYPE_BEIDOU]

/-- What `1 << n` is in an `int` of 32 bits. A shift by less than the width is
defined; for every other one the machine may give anything. -/
structure IntShift where
  shl : Int → BitVec 32
  shl_of_lt : ∀ n : Nat, n < 32 → shl n = bit 32 n

/-- A machine that takes the count modulo 32. -/
def IntShift.modulo : IntShift where
  shl n := bit 32 (n % 32).toNat
  shl_of_lt n hn := by
    have hmod : ((n : Int) % 32).toNat = n := by omega
    rw [hmod]

/-- A machine that gives `v` for every shift by the width or more. -/
def IntShift.giving (v : BitVec 32) : IntShift where
  shl n := if n < 32 then bit 32 n.toNat else v
  shl_of_lt n hn := by
    have hlt : (n : Int) < 32 := by omega
    rw [if_pos hlt, Int.toNat_natCast]

end DeviceHal.Gnss.SvTypes
