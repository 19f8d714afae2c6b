import DeviceHal.Lib.CText
import DeviceHal.Gnss.SvTypes

/-! # NMEA sentences

`loc_nmea.cpp` turns a position report into GSA, VTG, RMC and GGA sentences and
a satellite report into GSV sentences. A sentence is kept as its fields; all of
them are taken to fit the buffer. Floating point values come printed, or with
the two operations that the code applies to them. -/
namespace DeviceHal.Utils.LocNmea
open DeviceHal.Lib.BitMask DeviceHal.Lib.CText DeviceHal.Gnss.SvTypes
open GnssSvType

/-! ## Text -/

/-- `%0wd` of a number that is not negative. -/
def padded (w n : Nat) : Bytes :=
  List.replicate (w - (to_string n).length) 48 ++ to_string n

/-- `%0wd`. -/
def paddedInt (w : Nat) : Int → Bytes
  | .ofNat n => padded w n
  | .negSucc n => 45 :: padded (w - 1) (n + 1)

theorem denotes_padded (w n : Nat) : Denotes (padded w n) n :=
  (denotes_to_string n).replicate_append _

theorem denotesInt_paddedInt (w : Nat) (v : Int) : DenotesInt (paddedInt w v) v := by
  cases v with
  | ofNat n => exact denotes_padded w n
  | negSucc n => exact ⟨_, rfl, denotes_padded (w - 1) (n + 1)⟩

theorem padded_injective {w m n : Nat} (h : padded w m = padded w n) : m = n := by
  have hm := (denotes_padded w m).value
  rw [h, (denotes_padded w n).value] at hm
  exact hm.symm

theorem padded_ne_nil (w n : Nat) : padded w n ≠ [] := (denotes_padded w n).ne_nil

/-- What stands between the commas; the first field comes after the name. -/
structure Sentence where
  talker : Bytes
  name : Bytes
  fields : List Bytes
deriving DecidableEq

/-- The characters that the checksum covers. -/
def Sentence.body (s : Sentence) : Bytes :=
  s.talker ++ s.name ++ s.fields.flatMap (44 :: ·)

def checksum (body : Bytes) : UInt8 := body.foldl (· ^^^ ·) 0

/-- The text of the sentence. -/
def Sentence.loc_nmea_put_checksum (s : Sentence) : Bytes :=
  let checksum := (checksum s.body).toNat
  36 :: s.body ++ [42, hexDigit (checksum / 16), hexDigit (checksum % 16), 13, 10]

/-! ## What the code knows of a constellation -/

def GLONASS_SV_ID_OFFSET : Nat := 64
def MAX_SATELLITES_IN_USE : Nat := 12

def SYSTEM_ID_GPS : Nat := 1
def SYSTEM_ID_GLONASS : Nat := 2
def SYSTEM_ID_GALILEO : Nat := 3
def SYSTEM_ID_BEIDOU : Nat := 4
def SYSTEM_ID_QZSS : Nat := 5

structure LocNmeaSvMeta where
  talker : Bytes
  svType : GnssSvType
  mask : BitVec 32
  svCount : Nat
  svIdOffset : Nat
  signalId : Nat
  systemId : Nat
deriving DecidableEq

structure LocSvCacheInfo where
  gps_used_mask : BitVec 32
  glo_used_mask : BitVec 32
  gal_used_mask : BitVec 32
  qzss_used_mask : BitVec 32
  bds_used_mask : BitVec 32
  gps_count : Nat
  glo_count : Nat
  gal_count : Nat
  qzss_count : Nat
  bds_count : Nat
deriving DecidableEq

namespace LocSvCacheInfo

def zero : LocSvCacheInfo := ⟨0#32, 0#32, 0#32, 0#32, 0#32, 0, 0, 0, 0, 0⟩

/-- How many of the masks are not empty. -/
def combined (c : LocSvCacheInfo) : Nat :=
  (if c.gps_used_mask ≠ 0#32 then 1 else 0) + (if c.glo_used_mask ≠ 0#32 then 1 else 0) +
    (if c.gal_used_mask ≠ 0#32 then 1 else 0) + (if c.qzss_used_mask ≠ 0#32 then 1 else 0) +
    (if c.bds_used_mask ≠ 0#32 then 1 else 0)

end LocSvCacheInfo

def talkerGN : Bytes := bytesOf ['G', 'N']

/-- `none` is NULL. -/
def loc_nmea_sv_meta_init (c : LocSvCacheInfo) (svType : GnssSvType) (needCombine : Bool) :
    Option LocNmeaSvMeta :=
  let sv_meta :=
    match svType with
    | GNSS_SV_TYPE_GPS =>
      some ⟨bytesOf ['G', 'P'], svType, c.gps_used_mask, c.gps_count, 0, 1, SYSTEM_ID_GPS⟩
    | GNSS_SV_TYPE_GLONASS =>
      some ⟨bytesOf ['G', 'L'], svType, c.glo_used_mask, c.glo_count, GLONASS_SV_ID_OFFSET, 1,
        SYSTEM_ID_GLONASS⟩
    | GNSS_SV_TYPE_GALILEO =>
      some ⟨bytesOf ['G', 'A'], svType, c.gal_used_mask, c.gal_count, 0, 7, SYSTEM_ID_GALILEO⟩
    | GNSS_SV_TYPE_QZSS =>
      some ⟨bytesOf ['P', 'Q'], svType, c.qzss_used_mask, c.qzss_count, 0, 0, SYSTEM_ID_QZSS⟩
    | GNSS_SV_TYPE_BEIDOU =>
      some ⟨bytesOf ['P', 'Q'], svType, c.bds_used_mask, c.bds_count, 0, 0, SYSTEM_ID_BEIDOU⟩
    | _ => none
  if needCombine ∧ c.combined > 1 then sv_meta.map ({ · with talker := talkerGN }) else sv_meta

def systemIdOf : GnssSvType → Nat
  | GNSS_SV_TYPE_GPS => SYSTEM_ID_GPS
  | GNSS_SV_TYPE_GLONASS => SYSTEM_ID_GLONASS
  | GNSS_SV_TYPE_GALILEO => SYSTEM_ID_GALILEO
  | GNSS_SV_TYPE_BEIDOU => SYSTEM_ID_BEIDOU
  | GNSS_SV_TYPE_QZSS => SYSTEM_ID_QZSS
  | _ => 0

def svIdOffsetOf : GnssSvType → Nat
  | GNSS_SV_TYPE_GLONASS => GLONASS_SV_ID_OFFSET
  | _ => 0

def signalIdOf : GnssSvType → Nat
  | GNSS_SV_TYPE_GPS => 1
  | GNSS_SV_TYPE_GLONASS => 1
  | GNSS_SV_TYPE_GALILEO => 7
  | _ => 0

/-- The mask that the sentence of a constellation is made of. -/
def cacheMask (c : LocSvCacheInfo) : GnssSvType → BitVec 32
  | GNSS_SV_TYPE_GPS => c.gps_used_mask
  | GNSS_SV_TYPE_GLONASS => c.glo_used_mask
  | GNSS_SV_TYPE_GALILEO => c.gal_used_mask
  | GNSS_SV_TYPE_QZSS => c.qzss_used_mask
  | GNSS_SV_TYPE_BEIDOU => c.bds_used_mask
  | _ => 0#32

def cacheCount (c : LocSvCacheInfo) : GnssSvType → Nat
  | GNSS_SV_TYPE_GPS => c.gps_count
  | GNSS_SV_TYPE_GLONASS => c.glo_count
  | GNSS_SV_TYPE_GALILEO => c.gal_count
  | GNSS_SV_TYPE_QZSS => c.qzss_count
  | GNSS_SV_TYPE_BEIDOU => c.bds_count
  | _ => 0

def ownTalker : GnssSvType → Bytes
  | GNSS_SV_TYPE_GPS => bytesOf ['G', 'P']
  | GNSS_SV_TYPE_GLONASS => bytesOf ['G', 'L']
  | GNSS_SV_TYPE_GALILEO => bytesOf ['G', 'A']
  | _ => bytesOf ['P', 'Q']

/-- What `loc_nmea_sv_meta_init` makes for a constellation. -/
structure MetaOf (c : LocSvCacheInfo) (type : GnssSvType) (b : Bool) (m : LocNmeaSvMeta) :
    Prop where
  svType : m.svType = type
  mask : m.mask = cacheMask c type
  svIdOffset : m.svIdOffset = svIdOffsetOf type
  systemId : m.systemId = systemIdOf type
  svCount : m.svCount = cacheCount c type
  signalId : m.signalId = signalIdOf type
  talker : m.talker = if b = true ∧ c.combined > 1 then talkerGN else ownTalker type

theorem exists_meta {type : GnssSvType} (htype : type ∈ constellations) (c : LocSvCacheInfo)
    (b : Bool) :
    ∃ m, loc_nmea_sv_meta_init c type b = some m ∧ MetaOf c type b m := by
  unfold loc_nmea_sv_meta_init
  by_cases hgn : b = true ∧ c.combined > 1
  · simp only [if_pos hgn]
    cases type <;> first
      | exact ⟨_, rfl, rfl, rfl, rfl, rfl, rfl, rfl, (if_pos hgn).symm⟩
      | exact absurd htype (by decide)
  · simp only [if_neg hgn]
    cases type <;> first
      | exact ⟨_, rfl, rfl, rfl, rfl, rfl, rfl, rfl, (if_neg hgn).symm⟩
      | exact absurd htype (by decide)

/-! ## A position report -/

/-- The time and the values of a position as they are printed; `none` where the
flag of a value is not set. -/
structure PosTexts where
  utcTime : Bytes
  utcDate : Bytes
  /-- Latitude, hemisphere, longitude and hemisphere. -/
  latLong : Option (Bytes × Bytes × Bytes × Bytes)
  /-- True and magnetic track. -/
  bearing : Option (Bytes × Bytes)
  /-- In knots and in km/h. -/
  speed : Option (Bytes × Bytes)
  magneticDeviation : Option (Bytes × Bytes)
  /-- `pdop`, `hdop` and `vdop`. -/
  dop : Option (Bytes × Bytes × Bytes)
  altitudeMeanSeaLevel : Option Bytes
  /-- The altitude less that of the sea level. -/
  separation : Option Bytes
  sbasCorrection : Bool
  sensorsOnly : Bool

/-- The satellites of a mask, bit by bit from the last one on; `n` rounds are left. -/
def svUsedList (svIdOffset : Nat) : Nat → Nat → BitVec 32 → List Nat → List Nat
  | 0, _, _, used => used
  | n + 1, i, mask, used =>
    if mask ≠ 0#32 ∧ used.length < 32 then
      svUsedList svIdOffset n (i + 1) (mask >>> 1)
        (if mask.getLsbD 0 then used ++ [i + svIdOffset] else used)
    else used

def svField : Option Nat → Bytes
  | some id => padded 2 id
  | none => []

/-- The fields of the first 12 satellites. -/
def svFields (used : List Nat) : List Bytes := (List.range 12).map fun i => svField used[i]?

theorem svField_injective {a b : Option Nat} (h : svField a = svField b) : a = b := by
  cases a with
  | none =>
    cases b with
    | none => rfl
    | some n => exact absurd h.symm (padded_ne_nil 2 n)
  | some m =>
    cases b with
    | none => exact absurd h (padded_ne_nil 2 m)
    | some n => exact congrArg some (padded_injective h)

theorem svFields_eq (used : List Nat) : svFields used =
    (used.take 12).map (padded 2) ++ List.replicate (12 - used.length) [] := by
  refine List.ext_getElem? fun i => ?_
  by_cases hi : i < 12
  · rw [svFields, List.getElem?_map, List.getElem?_range hi, Option.map_some]
    by_cases hused : i < used.length
    · rw [List.getElem?_append_left (by simp; omega), List.getElem?_map,
        List.getElem?_take_of_lt hi,
        List.getElem?_eq_getElem hused]
      rfl
    · have hlen : ((used.take 12).map (padded 2)).length = used.length := by simp; omega
      rw [List.getElem?_append_right (by omega), hlen, List.getElem?_replicate_of_lt (by omega),
        List.getElem?_eq_none (by omega)]
      rfl
  · rw [List.getElem?_eq_none (by simp [svFields]; omega), List.getElem?_eq_none (by simp; omega)]

/-- The fields tell the first 12 satellites. -/
theorem svFields_inj {used used' : List Nat} :
    svFields used = svFields used' ↔ used.take 12 = used'.take 12 := by
  rw [svFields, svFields, List.map_inj_left]
  constructor
  · intro h
    refine List.ext_getElem? fun i => ?_
    rw [List.getElem?_take, List.getElem?_take]
    split
    · rename_i hi
      exact svField_injective (h i (List.mem_range.mpr hi))
    · rfl
  · intro h i hi
    have hi := List.mem_range.mp hi
    rw [← List.getElem?_take_of_lt hi, h, List.getElem?_take_of_lt hi]

/-- The loop finds the satellites of the mask, one for each bit. -/
theorem svUsedList_eq (svIdOffset n i : Nat) {mask : BitVec 32} {used : List Nat}
    (hmask : ∀ j, mask.getLsbD j = true → j + 1 < n) (hroom : used.length + n ≤ 33) :
    svUsedList svIdOffset n i mask used = used ++ (places mask).map (· + i + svIdOffset) := by
  induction n generalizing i mask used with
  | zero =>
    have hzero : places mask = [] := List.eq_nil_iff_forall_not_mem.mpr fun j hj =>
      absurd (hmask j (mem_places.mp hj)) (Nat.not_lt_zero _)
    rw [svUsedList, hzero, List.map_nil, List.append_nil]
  | succ n ih =>
    rw [svUsedList]
    by_cases hempty : mask = 0#32
    · rw [if_neg (fun h => h.1 hempty), hempty, places_zero, List.map_nil, List.append_nil]
    · obtain ⟨j, hj⟩ := List.exists_mem_of_ne_nil _ (mt places_eq_nil_iff.mp hempty)
      have hlast := hmask j (mem_places.mp hj)
      rw [if_pos ⟨hempty, by omega⟩, ih (i + 1), places_cons mask, List.map_append,
        ← List.append_assoc]
      · congr 1
        · split <;> simp
        · rw [List.map_map]
          refine List.map_congr_left fun j _ => ?_
          show j + (i + 1) + svIdOffset = j + 1 + i + svIdOffset
          omega
      · intro j hj
        rw [BitVec.getLsbD_ushiftRight] at hj
        have hnext := hmask (1 + j) hj
        omega
      · split
        · rw [List.length_append, List.length_singleton]
          omega
        · omega

/-- The sentence, if there is one, and the number of satellites used. -/
def loc_nmea_generate_GSA (t : PosTexts) (sv_meta : Option LocNmeaSvMeta) :
    List Sentence × Nat :=
  match sv_meta with
  | none => ([], 0)
  | some m =>
    -- a mask of 32 bits is empty after 32 rounds
    let used := svUsedList m.svIdOffset 33 1 m.mask []
    if used.length = 0 ∧ m.svType ≠ GNSS_SV_TYPE_GPS then ([], 0)
    else
      let fixType := bytesOf [if used.length = 0 then '1' else if used.length ≤ 3 then '2' else '3']
      let dop :=
        match t.dop with
        | some (pdop, hdop, vdop) => [pdop, hdop, vdop]
        | none => [[], [], []]
      ([⟨m.talker, bytesOf ['G', 'S', 'A'],
        [bytesOf ['A'], fixType] ++ svFields used ++ dop ++ [to_string m.systemId]⟩], used.length)

/-- What the blocks of `loc_nmea_generate_pos` carry along. -/
structure GsaState where
  nmeaArraystr : List Sentence
  talker : Bytes
  svUsedCount : Nat
deriving DecidableEq

/-- One block. QZSS and BeiDou are not combined, and leave the talker alone. -/
def gsaBlock (t : PosTexts) (c : LocSvCacheInfo) (s : GsaState) (b : GnssSvType × Bool) :
    GsaState :=
  let sv_meta := loc_nmea_sv_meta_init c b.1 b.2
  let (sentences, count) := loc_nmea_generate_GSA t sv_meta
  { nmeaArraystr := s.nmeaArraystr ++ sentences
    talker :=
      match sv_meta with
      | some m => if count > 0 ∧ b.2 then m.talker else s.talker
      | none => s.talker
    svUsedCount := s.svUsedCount + count }

def gsaBlocks : List (GnssSvType × Bool) :=
  [(GNSS_SV_TYPE_GPS, true), (GNSS_SV_TYPE_GLONASS, true), (GNSS_SV_TYPE_GALILEO, true),
    (GNSS_SV_TYPE_QZSS, false), (GNSS_SV_TYPE_BEIDOU, false)]

/-- The masks of a report, in 32 bits; those of QZSS and BeiDou change places. -/
def usedMasks : Option GnssSvUsedInPosition → LocSvCacheInfo
  | some ids =>
    { LocSvCacheInfo.zero with
      gps_used_mask := ids.gps_sv_used_ids_mask.setWidth 32
      glo_used_mask := ids.glo_sv_used_ids_mask.setWidth 32
      gal_used_mask := ids.gal_sv_used_ids_mask.setWidth 32
      qzss_used_mask := ids.bds_sv_used_ids_mask.setWidth 32
      bds_used_mask := ids.qzss_sv_used_ids_mask.setWidth 32 }
  | none => LocSvCacheInfo.zero

def pairFields : Option (Bytes × Bytes) → Bytes × Bytes
  | some p => p
  | none => ([], [])

def latLongFields : Option (Bytes × Bytes × Bytes × Bytes) → List Bytes
  | some (lat, ns, long, ew) => [lat, ns, long, ew]
  | none => [[], [], [], []]

/-- No fix, differential, estimated or autonomous. -/
def PosTexts.mode (t : PosTexts) : Bytes :=
  bytesOf [if t.latLong = none then 'N' else if t.sbasCorrection then 'D'
    else if t.sensorsOnly then 'E' else 'A']

def generateVTG (t : PosTexts) (talker : Bytes) : Sentence :=
  let (bearing, magTrack) := pairFields t.bearing
  let (knots, kmPerHour) := pairFields t.speed
  ⟨talker, bytesOf ['V', 'T', 'G'],
    [bearing, bytesOf ['T'], magTrack, bytesOf ['M'], knots, bytesOf ['N'], kmPerHour,
      bytesOf ['K'], t.mode]⟩

def generateRMC (t : PosTexts) (talker : Bytes) : Sentence :=
  let (magneticVariation, direction) := pairFields t.magneticDeviation
  ⟨talker, bytesOf ['R', 'M', 'C'],
    [t.utcTime, bytesOf ['A']] ++ latLongFields t.latLong ++
      [(pairFields t.speed).1, (pairFields t.bearing).1, t.utcDate, magneticVariation, direction,
        t.mode, bytesOf ['V']]⟩

def generateGGA (t : PosTexts) (talker : Bytes) (svUsedCount : Nat) : Sentence :=
  let gpsQuality := bytesOf [if t.latLong = none then '0' else if t.sbasCorrection then '2'
    else if t.sensorsOnly then '6' else '1']
  let svUsedCount := if svUsedCount > MAX_SATELLITES_IN_USE then MAX_SATELLITES_IN_USE
    else svUsedCount
  let hdop := (t.dop.map (·.2.1)).getD []
  let metres := fun (value : Option Bytes) =>
    match value with
    | some text => [text, bytesOf ['M']]
    | none => [[], []]
  ⟨talker, bytesOf ['G', 'G', 'A'],
    [t.utcTime] ++ latLongFields t.latLong ++ [gpsQuality, padded 2 svUsedCount, hdop] ++
      metres t.altitudeMeanSeaLevel ++ metres t.separation ++ [[], []]⟩

@[simp] theorem name_generateVTG (t : PosTexts) (talker : Bytes) :
    (generateVTG t talker).name = bytesOf ['V', 'T', 'G'] := rfl

@[simp] theorem name_generateRMC (t : PosTexts) (talker : Bytes) :
    (generateRMC t talker).name = bytesOf ['R', 'M', 'C'] := rfl

@[simp] theorem name_generateGGA (t : PosTexts) (talker : Bytes) (svUsedCount : Nat) :
    (generateGGA t talker svUsedCount).name = bytesOf ['G', 'G', 'A'] := rfl

/-- The count of satellites in GGA. -/
theorem count_generateGGA (t : PosTexts) (talker : Bytes) (svUsedCount : Nat) :
    (generateGGA t talker svUsedCount).fields[6]? =
      some (padded 2 (min svUsedCount MAX_SATELLITES_IN_USE)) := by
  have hcount : (if svUsedCount > MAX_SATELLITES_IN_USE then MAX_SATELLITES_IN_USE
      else svUsedCount) = min svUsedCount MAX_SATELLITES_IN_USE := by
    split <;> omega
  rw [generateGGA, hcount]
  cases t.latLong <;> rfl

/-- The sentences for a fix that is not final. -/
def blankSentences : List Sentence :=
  let gsa := fun (talker : Bytes) => (⟨talker, bytesOf ['G', 'S', 'A'],
    [bytesOf ['A'], bytesOf ['1']] ++ List.replicate 15 []⟩ : Sentence)
  [gsa (bytesOf ['G', 'P']), gsa talkerGN, gsa (bytesOf ['P', 'Q']),
    ⟨bytesOf ['G', 'P'], bytesOf ['V', 'T', 'G'],
      [[], bytesOf ['T'], [], bytesOf ['M'], [], bytesOf ['N'], [], bytesOf ['K'], bytesOf ['N']]⟩,
    ⟨bytesOf ['G', 'P'], bytesOf ['R', 'M', 'C'],
      [[], bytesOf ['V']] ++ List.replicate 9 [] ++ [bytesOf ['N'], bytesOf ['V']]⟩,
    ⟨bytesOf ['G', 'P'], bytesOf ['G', 'G', 'A'],
      List.replicate 5 [] ++ [bytesOf ['0']] ++ List.replicate 8 []⟩]

/-- The state after the GSA sentences. -/
def gsaState (t : PosTexts) (gnss_sv_used_ids : Option GnssSvUsedInPosition) : GsaState :=
  gsaBlocks.foldl (gsaBlock t (usedMasks gnss_sv_used_ids)) ⟨[], bytesOf ['G', 'P'], 0⟩

def loc_nmea_generate_pos (t : PosTexts) (gnss_sv_used_ids : Option GnssSvUsedInPosition)
    (generate_nmea : Bool) : List Sentence :=
  if generate_nmea then
    let s := gsaState t gnss_sv_used_ids
    s.nmeaArraystr ++
      [generateVTG t s.talker, generateRMC t s.talker, generateGGA t s.talker s.svUsedCount]
  else blankSentences

/-! ## A satellite report -/

/-- `(int)(0.5 + x)` and `x > 0`. -/
structure FloatOps (F : Type) where
  toInt : F → Int
  positive : F → Bool

section
variable {F : Type}

/-- A satellite is counted; the place of one that is used goes into the mask. -/
def countSv (shift : IntShift) (c : LocSvCacheInfo) (sv : GnssSv F) : LocSvCacheInfo :=
  let bits :=
    if sv.gnssSvOptionsMask &&& GNSS_SV_OPTIONS_USED_IN_FIX_BIT = GNSS_SV_OPTIONS_USED_IN_FIX_BIT
    then shift.shl ((sv.svId.toNat : Int) - 1) else 0#32
  match sv.type with
  | GNSS_SV_TYPE_GPS =>
    { c with gps_used_mask := c.gps_used_mask ||| bits, gps_count := c.gps_count + 1 }
  | GNSS_SV_TYPE_GLONASS =>
    { c with glo_used_mask := c.glo_used_mask ||| bits, glo_count := c.glo_count + 1 }
  | GNSS_SV_TYPE_GALILEO =>
    { c with gal_used_mask := c.gal_used_mask ||| bits, gal_count := c.gal_count + 1 }
  | GNSS_SV_TYPE_QZSS =>
    { c with qzss_used_mask := c.qzss_used_mask ||| bits, qzss_count := c.qzss_count + 1 }
  | GNSS_SV_TYPE_BEIDOU =>
    { c with bds_used_mask := c.bds_used_mask ||| bits, bds_count := c.bds_count + 1 }
  | _ => c

/-- The four fields of a satellite. -/
def svBlock (ops : FloatOps F) (svIdOffset : Nat) (sv : GnssSv F) : List Bytes :=
  [padded 2 (sv.svId.toNat + svIdOffset), paddedInt 2 (ops.toInt sv.elevation),
    paddedInt 3 (ops.toInt sv.azimuth),
    if ops.positive sv.cN0Dbhz then paddedInt 2 (ops.toInt sv.cN0Dbhz) else []]

/-- The inner loop: at most `room` satellites of the type, and those it leaves. -/
def printSvs (ops : FloatOps F) (m : LocNmeaSvMeta) :
    Nat → List (GnssSv F) → List Bytes × List (GnssSv F)
  | 0, rest => ([], rest)
  | _ + 1, [] => ([], [])
  | room + 1, sv :: rest =>
    if m.svType = sv.type then
      let (fields, rest) := printSvs ops m room rest
      (svBlock ops m.svIdOffset sv ++ fields, rest)
    else printSvs ops m (room + 1) rest

/-- The outer loop, with `left` sentences to go from `sentenceNumber` on. -/
def printGSV (ops : FloatOps F) (m : LocNmeaSvMeta) (sentenceCount : Nat) :
    Nat → Nat → List (GnssSv F) → List Sentence
  | 0, _, _ => []
  | left + 1, sentenceNumber, rest =>
    let (fields, rest) := printSvs ops m 4 rest
    ⟨m.talker, bytesOf ['G', 'S', 'V'],
      [to_string sentenceCount, to_string sentenceNumber, padded 2 m.svCount] ++ fields ++
        [to_string m.signalId]⟩ :: printGSV ops m sentenceCount left (sentenceNumber + 1) rest

def loc_nmea_generate_GSV (ops : FloatOps F) (svNotify : GnssSvNotification F)
    (sv_meta : LocNmeaSvMeta) : List Sentence :=
  if sv_meta.svCount = 0 then
    [⟨sv_meta.talker, bytesOf ['G', 'S', 'V'],
      [bytesOf ['1'], bytesOf ['1'], bytesOf ['0'], to_string sv_meta.signalId]⟩]
  else
    let sentenceCount := sv_meta.svCount / 4 + if sv_meta.svCount % 4 ≠ 0 then 1 else 0
    printGSV ops sv_meta sentenceCount sentenceCount 1 svNotify.gnssSvs

/-- The sentences of one type. -/
def gsvBlock (ops : FloatOps F) (svNotify : GnssSvNotification F) (c : LocSvCacheInfo)
    (type : GnssSvType) : List Sentence :=
  match loc_nmea_sv_meta_init c type false with
  | some sv_meta => loc_nmea_generate_GSV ops svNotify sv_meta
  | none => []

def loc_nmea_generate_sv (shift : IntShift) (ops : FloatOps F) (svNotify : GnssSvNotification F) :
    List Sentence :=
  let sv_cache_info := svNotify.gnssSvs.foldl (countSv shift) LocSvCacheInfo.zero
  constellations.flatMap (gsvBlock ops svNotify sv_cache_info)

end

end DeviceHal.Utils.LocNmea
