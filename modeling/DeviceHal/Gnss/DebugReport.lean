import DeviceHal.Core.DebugRejects
import DeviceHal.Core.LatestPosition
import DeviceHal.Gnss.SvTypes
import DeviceHal.Lib.Run

/-! # The satellites of the debug report

`GnssAdapter::getDebugReport` makes the satellites of its report from the latest
reports that `SystemStatus` has of the debug sentences of each kind. When all aiding
data is deleted these are set back. -/
namespace DeviceHal.Gnss.DebugReport
open DeviceHal.Lib.CText DeviceHal.Lib.Run DeviceHal.Gnss.SvTypes GnssSvType
open DeviceHal.Core.NetworkInfo DeviceHal.Core.ReportHistory DeviceHal.Core.LatestPosition
open DeviceHal.Core.DebugNmea DeviceHal.Core.DebugRejects

variable {τ F : Type}

/-! ## Satellites -/

def GPS_NUM : Nat := 32
def GLO_NUM : Nat := 24
def QZSS_NUM : Nat := 5
def BDS_NUM : Nat := 37
def GAL_NUM : Nat := 36

def GNSS_BUGREPORT_GPS_MIN : Nat := 1
def GNSS_BUGREPORT_GLO_MIN : Nat := 1
def GNSS_BUGREPORT_QZSS_MIN : Nat := 193
def GNSS_BUGREPORT_BDS_MIN : Nat := 1
def GNSS_BUGREPORT_GAL_MIN : Nat := 1

def GNSS_EPH_TYPE_UNKNOWN : Int := 0
def GNSS_EPH_SOURCE_UNKNOWN : Int := 0

inductive GnssEphemerisHealth where
  | GNSS_EPH_HEALTH_UNKNOWN
  | GNSS_EPH_HEALTH_GOOD
  | GNSS_EPH_HEALTH_BAD
deriving DecidableEq

open GnssEphemerisHealth

/-- Type and source are enumerations that may hold any `int` of a sentence. -/
structure GnssDebugSatelliteInfo (F : Type) where
  svid : Nat
  constellation : GnssSvType
  mEphemerisType : Int
  mEphemerisSource : Int
  mEphemerisHealth : GnssEphemerisHealth
  ephemerisAgeSeconds : F
  serverPredictionIsAvailable : Bool
  serverPredictionAgeSeconds : F
deriving DecidableEq

/-- What a constellation's case of the switch sets. -/
structure Constellation where
  svid_min : Nat
  svid_num : Nat
  svid_idx : Nat
  goodMask : Member
  badMask : Member
  xtraValid : Member
  xtraAge : Member

def constellationOf : GnssSvType → Option Constellation
  | GNSS_SV_TYPE_GPS => some ⟨GNSS_BUGREPORT_GPS_MIN, GPS_NUM, 0,
      .mGpsGoodMask, .mGpsBadMask, .mGpsXtraValid, .mGpsXtraAge⟩
  | GNSS_SV_TYPE_GLONASS => some ⟨GNSS_BUGREPORT_GLO_MIN, GLO_NUM, GPS_NUM,
      .mGloGoodMask, .mGloBadMask, .mGloXtraValid, .mGloXtraAge⟩
  | GNSS_SV_TYPE_QZSS => some ⟨GNSS_BUGREPORT_QZSS_MIN, QZSS_NUM,
      GPS_NUM + GLO_NUM + BDS_NUM + GAL_NUM,
      .mQzssGoodMask, .mQzssBadMask, .mQzssXtraValid, .mQzssXtraAge⟩
  | GNSS_SV_TYPE_BEIDOU => some ⟨GNSS_BUGREPORT_BDS_MIN, BDS_NUM, GPS_NUM + GLO_NUM,
      .mBdsGoodMask, .mBdsBadMask, .mBdsXtraValid, .mBdsXtraAge⟩
  | GNSS_SV_TYPE_GALILEO => some ⟨GNSS_BUGREPORT_GAL_MIN, GAL_NUM, GPS_NUM + GLO_NUM + BDS_NUM,
      .mGalGoodMask, .mGalBadMask, .mGalXtraValid, .mGalXtraAge⟩
  | _ => none

/-! ## The last report of a list -/

/-- The members that are read here are integers. -/
def intOf : Value F → Int
  | .int v => v
  | .float _ => 0

/-- A member of the last report of a list; `none` if the list is empty. -/
def back (reports : SystemStatusReports τ F) (type : ReportType) (m : Member) : Option Int :=
  (reports type.list).getLast?.map fun s =>
    intOf (s.data.values.getD (type.members.idxOf m) (.int 0))

/-- Where the reports are equal the integers are the same. -/
theorem map_intOf_of_same [FloatEq F] {vs ws : List (Value F)} (h : sameValues vs ws = true) :
    vs.map intOf = ws.map intOf := by
  induction vs, ws using sameValues.induct with
  | case1 => rfl
  | case2 v vs w ws ih =>
    rw [sameValues, Bool.and_eq_true] at h
    have hhead : intOf v = intOf w := by
      cases v with
      | int v =>
        cases w with
        | int w => exact beq_iff_eq.mp h.1
        | float y => exact absurd h.1 Bool.false_ne_true
      | float x =>
        cases w with
        | int w => exact absurd h.1 Bool.false_ne_true
        | float y => rfl
    rw [List.map_cons, List.map_cons, hhead, ih h.2]
  | case3 vs ws h₁ h₂ => simp [sameValues] at h

/-- The integers of the last report. -/
def lastInts (report : List (SystemStatusItem τ (ReportValues F))) : Option (List Int) :=
  report.getLast?.map fun s => s.data.values.map intOf

theorem lastInts_setIteminReport [FloatEq F] (report : List (SystemStatusItem τ (ReportValues F)))
    (s : SystemStatusItem τ (ReportValues F)) :
    lastInts (setIteminReport report s).2.1 = some (s.data.values.map intOf) := by
  have hdata := data_setIteminReport report s
  have hlast : lastInts (setIteminReport report s).2.1 =
      ((setIteminReport report s).2.1.getLast?.map (·.data)).map fun r => r.values.map intOf := by
    rw [Option.map_map]
    rfl
  rw [hlast, hdata]
  split
  · rename_i hrepeats
    obtain ⟨back, hback, heq⟩ := (Option.any_eq_true _ _).mp hrepeats
    rw [hback]
    exact congrArg some (map_intOf_of_same heq)
  · rfl

theorem back_eq (reports : SystemStatusReports τ F) (type : ReportType) (m : Member) :
    back reports type m =
      (lastInts (reports type.list)).map fun ints => ints.getD (type.members.idxOf m) 0 := by
  rw [back, lastInts, Option.map_map]
  refine congrArg (fun f => ((reports type.list).getLast?).map f) (funext fun s => ?_)
  show intOf (s.data.values.getD _ _) = (s.data.values.map intOf).getD _ _
  rw [List.getD_eq_getElem?_getD, List.getD_eq_getElem?_getD, List.getElem?_map]
  cases s.data.values[type.members.idxOf m]? <;> rfl

/-- A report that was made of a record says of its members what the record says. -/
theorem getD_idxOf_map {type : ReportType} {m : Member} (hm : m ∈ type.members)
    (f : Member → Int) : (type.members.map f).getD (type.members.idxOf m) 0 = f m := by
  have hlt := List.idxOf_lt_length_iff.mpr hm
  simp [List.getD_eq_getElem?_getD, List.getElem?_map, List.getElem?_eq_getElem hlt]

theorem back_getReport (mCache : SystemStatusReports τ F) :
    back (fun list => getReport (mCache list) true) = back mCache := by
  funext type m
  rw [back_eq, back_eq, lastInts, lastInts, getReport, if_pos rfl, getIteminReport]
  cases (mCache type.list).getLast? <;> rfl

theorem foldl_store_of_mem [FloatEq F] (now : ReportList → τ) (nmea : Record F)
    {type : ReportType} {types : List ReportType} (hlists : (types.map ReportType.list).Nodup)
    (htype : type ∈ types) (mCache : SystemStatusReports τ F) :
    lastInts (types.foldl (store now nmea) mCache type.list) =
      some (type.members.map fun m => intOf (nmea m)) := by
  induction types generalizing mCache with
  | nil => cases htype
  | cons t types ih =>
    rw [List.map_cons, List.nodup_cons] at hlists
    rw [List.foldl_cons]
    rcases List.mem_cons.mp htype with rfl | htype
    · rw [foldl_store_of_not_mem now nmea types hlists.1, store, if_pos rfl,
        lastInts_setIteminReport]
      simp [SystemStatusItem.new, ReportType.report]
    · exact ih hlists.2 htype _

/-! ## The report -/

variable [FloatText F]

def convertSatelliteInfo (out : List (GnssDebugSatelliteInfo F)) (in_constellation : GnssSvType)
    (reports : SystemStatusReports τ F) : List (GnssDebugSatelliteInfo F) :=
  match constellationOf in_constellation with
  | none => out
  | some c =>
    let eph_health_good_mask := (back reports SystemStatusSvHealth c.goodMask).getD 0
    let eph_health_bad_mask := (back reports SystemStatusSvHealth c.badMask).getD 0
    let server_perdiction_available_mask := (back reports SystemStatusXtra c.xtraValid).getD 0
    let server_perdiction_age := (back reports SystemStatusXtra c.xtraAge).getD 0
    let nav := back reports SystemStatusNavData
    out ++ ((List.range c.svid_num).takeWhile fun i => c.svid_idx + i < SV_ALL_NUM).map fun i =>
      { svid := i + c.svid_min
        constellation := in_constellation
        mEphemerisType := (nav (.mType (c.svid_idx + i))).getD GNSS_EPH_TYPE_UNKNOWN
        mEphemerisSource := (nav (.mSource (c.svid_idx + i))).getD GNSS_EPH_SOURCE_UNKNOWN
        mEphemerisHealth :=
          if eph_health_good_mask.toNat.testBit i then GNSS_EPH_HEALTH_GOOD
          else if eph_health_bad_mask.toNat.testBit i then GNSS_EPH_HEALTH_BAD
          else GNSS_EPH_HEALTH_UNKNOWN
        ephemerisAgeSeconds := FloatText.ofInt ((nav (.mAgeSec (c.svid_idx + i))).getD 0)
        serverPredictionIsAvailable := server_perdiction_available_mask.toNat.testBit i
        serverPredictionAgeSeconds := FloatText.ofInt server_perdiction_age }

/-- The satellites of `getDebugReport`. -/
def mSatelliteInfo (mCache : SystemStatusReports τ F) : List (GnssDebugSatelliteInfo F) :=
  let reports : SystemStatusReports τ F := fun list => getReport (mCache list) true
  let r := convertSatelliteInfo [] GNSS_SV_TYPE_GPS reports
  let r := convertSatelliteInfo r GNSS_SV_TYPE_GLONASS reports
  let r := convertSatelliteInfo r GNSS_SV_TYPE_QZSS reports
  let r := convertSatelliteInfo r GNSS_SV_TYPE_BEIDOU reports
  convertSatelliteInfo r GNSS_SV_TYPE_GALILEO reports

/-! ## What changes the cache -/

/-- The reports that sentences make. -/
def reportTypes : List ReportType := sentences.flatMap (·.reports)

/-- The type of a member, as its parser has it. -/
def memberType (m : Member) : MemberType :=
  ((sentences.flatMap (·.parser.members)).find? (·.member = m)).elim .int32 (·.type)

/-- The constructor without arguments of a report type. -/
def defaultReport (type : ReportType) : ReportValues F :=
  ⟨type.list ≠ .mBestPosition, type.members.map fun m => (memberType m).zero⟩

/-- The lists of the debug sentences in `setDefaultGnssEngineStates`. -/
def setDefaultGnssEngineStates (now : ReportList → τ) (mCache : SystemStatusReports τ F) :
    SystemStatusReports τ F := fun list =>
  match reportTypes.find? (·.list = list) with
  | some type => pushReport (mCache list) (SystemStatusItem.new (now list) (defaultReport type))
  | none => mCache list

inductive Event (τ F : Type) where
  | setNmeaString (now : ReportList → τ) (garbage : Record F) (data : Bytes) (len : Nat)
  | setDefaultGnssEngineStates (now : ReportList → τ)

def step [FloatEq F] (mCache : SystemStatusReports τ F) : Event τ F → SystemStatusReports τ F
  | .setNmeaString now garbage data len => (setNmeaString now garbage mCache data len).2
  | .setDefaultGnssEngineStates now => setDefaultGnssEngineStates now mCache

def noReports : SystemStatusReports τ F := fun _ => []

/-! ## What is known of a satellite -/

/-- What an event says of a member, if it makes a report of the type. -/
def Event.tells (type : ReportType) (m : Member) : Event τ F → Option Int
  | .setNmeaString _ garbage data len =>
    if loc_nmea_is_debug data len then
      (sentences.find? fun s => strncmp data s.tag 6 = 0).bind fun s =>
        if type.list ∈ s.reports.map ReportType.list then
          some (intOf (s.record data len garbage m))
        else none
    else none
  | .setDefaultGnssEngineStates _ => some 0

/-- Nothing is said of a report's members. -/
def Event.Silent (type : ReportType) (e : Event τ F) : Prop := ∀ m, e.tells type m = none

/-- What was said last; nothing at all counts as zero. -/
def lastSaid (es : List (Event τ F)) (type : ReportType) (m : Member) : Int :=
  ((es.filterMap (·.tells type m)).getLast?).getD 0

/-- The satellites in the order of the report, with their constellation and number in it. -/
def satellites : List (GnssSvType × Constellation × Nat) :=
  [GNSS_SV_TYPE_GPS, GNSS_SV_TYPE_GLONASS, GNSS_SV_TYPE_QZSS, GNSS_SV_TYPE_BEIDOU,
    GNSS_SV_TYPE_GALILEO].flatMap fun type => (constellationOf type).toList.flatMap fun c =>
      (List.range c.svid_num).map fun i => (type, c, i)

/-- A satellite of which `known` is known. -/
def infoOf (known : ReportType → Member → Int) :
    GnssSvType × Constellation × Nat → GnssDebugSatelliteInfo F
  | (type, c, i) =>
    { svid := i + c.svid_min
      constellation := type
      mEphemerisType := known SystemStatusNavData (.mType (c.svid_idx + i))
      mEphemerisSource := known SystemStatusNavData (.mSource (c.svid_idx + i))
      mEphemerisHealth :=
        if (known SystemStatusSvHealth c.goodMask).toNat.testBit i then GNSS_EPH_HEALTH_GOOD
        else if (known SystemStatusSvHealth c.badMask).toNat.testBit i then GNSS_EPH_HEALTH_BAD
        else GNSS_EPH_HEALTH_UNKNOWN
      ephemerisAgeSeconds :=
        FloatText.ofInt (known SystemStatusNavData (.mAgeSec (c.svid_idx + i)))
      serverPredictionIsAvailable := (known SystemStatusXtra c.xtraValid).toNat.testBit i
      serverPredictionAgeSeconds := FloatText.ofInt (known SystemStatusXtra c.xtraAge) }

/-! ## One event -/

@[simp] theorem intOf_zero (type : MemberType) : intOf (type.zero : Value F) = 0 := by
  cases type with
  | uint bits => exact Int.zero_emod _
  | int32 => rfl
  | float => rfl
  | double => rfl

theorem reportTypes_lists : (reportTypes.map ReportType.list).Nodup := by decide

theorem back_setDefault {type : ReportType} {m : Member} (htype : type ∈ reportTypes)
    (hm : m ∈ type.members) (now : ReportList → τ) (mCache : SystemStatusReports τ F) :
    back (setDefaultGnssEngineStates now mCache) type m = some 0 := by
  have hfind : reportTypes.find? (fun t => t.list = type.list) = some type := by
    cases hfind : reportTypes.find? fun t => t.list = type.list with
    | none => exact absurd (decide_eq_true rfl) (List.find?_eq_none.mp hfind type htype)
    | some t =>
      have ht := List.mem_of_find?_eq_some hfind
      have hsame : t.list = type.list := by simpa using List.find?_some hfind
      rw [List.inj_on_of_nodup_map reportTypes_lists ht htype hsame]
  rw [back_eq, setDefaultGnssEngineStates, hfind, lastInts, getLast?_pushReport]
  simp only [Option.map_some, SystemStatusItem.new, defaultReport, List.map_map]
  rw [getD_idxOf_map hm]
  simp

section
variable [FloatEq F] {type : ReportType} {m : Member}

theorem back_setNmeaString (htype : type ∈ reportTypes) (hm : m ∈ type.members)
    (now : ReportList → τ) (garbage : Record F) (mCache : SystemStatusReports τ F) (data : Bytes)
    (len : Nat) :
    back (setNmeaString now garbage mCache data len).2 type m =
      ((Event.setNmeaString now garbage data len).tells type m).or (back mCache type m) := by
  rw [setNmeaString, Event.tells]
  cases hdebug : loc_nmea_is_debug data len with
  | false => rfl
  | true =>
    cases hfind : sentences.find? fun s => strncmp data s.tag 6 = 0 with
    | none => rfl
    | some s =>
      have hs := List.mem_of_find?_eq_some hfind
      simp only [Bool.not_true, Bool.false_eq_true, if_false, if_true, Option.bind_some]
      by_cases hlist : type.list ∈ s.reports.map ReportType.list
      · obtain ⟨t, ht, hsame⟩ := List.mem_map.mp hlist
        have hreport : t ∈ reportTypes := List.mem_flatMap.mpr ⟨s, hs, ht⟩
        obtain rfl : t = type := List.inj_on_of_nodup_map reportTypes_lists hreport htype hsame
        have hlists : ∀ s ∈ sentences, (s.reports.map ReportType.list).Nodup := by decide
        rw [back_eq, foldl_store_of_mem now _ (hlists s hs) ht, if_pos hlist]
        simp only [Option.map_some, getD_idxOf_map hm, Option.some_or]
      · rw [if_neg hlist, back_eq, foldl_store_of_not_mem now _ s.reports hlist, ← back_eq,
          Option.none_or]

theorem back_step (htype : type ∈ reportTypes) (hm : m ∈ type.members)
    (mCache : SystemStatusReports τ F) (e : Event τ F) :
    back (step mCache e) type m = (e.tells type m).or (back mCache type m) := by
  cases e with
  | setNmeaString now garbage data len =>
    exact back_setNmeaString htype hm now garbage mCache data len
  | setDefaultGnssEngineStates now => exact back_setDefault htype hm now mCache

/-- What is kept of a member is what was said of it last. -/
theorem back_run (htype : type ∈ reportTypes) (hm : m ∈ type.members) (es : List (Event τ F)) :
    back (run step noReports es) type m = (es.filterMap (·.tells type m)).getLast? := by
  induction es using List.reverseRecOn with
  | nil => rfl
  | append_singleton es e ih =>
    rw [run_append, run_cons, run_nil, back_step htype hm, ih, List.filterMap_append]
    cases htells : e.tells type m with
    | none => simp [htells]
    | some v => simp [htells]

end

/-! ## The satellites of the report -/

theorem constellation_fits {type : GnssSvType} {c : Constellation}
    (h : constellationOf type = some c) : c.svid_idx + c.svid_num ≤ SV_ALL_NUM := by
  cases type <;> simp only [constellationOf, Option.some.injEq, reduceCtorEq] at h <;> subst h <;>
    decide

/-- No place is behind the end of the array, so the loop is not cut short. -/
theorem convertSatelliteInfo_eq (out : List (GnssDebugSatelliteInfo F)) (type : GnssSvType)
    (reports : SystemStatusReports τ F) :
    convertSatelliteInfo out type reports =
      out ++ ((constellationOf type).toList.flatMap fun c =>
        (List.range c.svid_num).map fun i => (type, c, i)).map
          (infoOf fun type m => (back reports type m).getD 0) := by
  unfold convertSatelliteInfo
  cases hc : constellationOf type with
  | none => simp
  | some c =>
    have hfits := constellation_fits hc
    have hall : ∀ i ∈ List.range c.svid_num, decide (c.svid_idx + i < SV_ALL_NUM) = true := by
      intro i hi
      have hlt := List.mem_range.mp hi
      exact decide_eq_true (by omega)
    dsimp only
    rw [List.takeWhile_eq_self_iff.mpr hall]
    simp only [Option.toList_some, List.flatMap_cons, List.flatMap_nil, List.append_nil,
      List.map_map]
    rfl

theorem mSatelliteInfo_eq (mCache : SystemStatusReports τ F) :
    mSatelliteInfo mCache =
      satellites.map (infoOf fun type m => (back mCache type m).getD 0) := by
  unfold mSatelliteInfo
  simp only [convertSatelliteInfo_eq, back_getReport, List.nil_append, List.append_assoc,
    satellites, List.flatMap_cons, List.flatMap_nil, List.append_nil, List.map_append]

theorem mem_navMembers {j : Nat} (hj : j < SV_ALL_NUM) :
    Member.mType j ∈ SystemStatusNavData.members ∧ Member.mSource j ∈ SystemStatusNavData.members ∧
      Member.mAgeSec j ∈ SystemStatusNavData.members := by
  have hmem : ∀ m ∈ [Member.mType j, .mSource j, .mAgeSec j], m ∈ SystemStatusNavData.members :=
    fun m hm => List.mem_flatMap.mpr ⟨j, List.mem_range.mpr hj, hm⟩
  exact ⟨hmem _ (by simp), hmem _ (by simp), hmem _ (by simp)⟩

theorem mem_maskMembers {type : GnssSvType} {c : Constellation}
    (h : constellationOf type = some c) :
    (c.goodMask ∈ SystemStatusSvHealth.members ∧ c.badMask ∈ SystemStatusSvHealth.members) ∧
      c.xtraValid ∈ SystemStatusXtra.members ∧ c.xtraAge ∈ SystemStatusXtra.members := by
  cases type <;> simp only [constellationOf, Option.some.injEq, reduceCtorEq] at h <;> subst h <;>
    decide

theorem mem_satellites {sv : GnssSvType × Constellation × Nat} (h : sv ∈ satellites) :
    constellationOf sv.1 = some sv.2.1 ∧ sv.2.1.svid_idx + sv.2.2 < SV_ALL_NUM := by
  obtain ⟨type, -, h⟩ := List.mem_flatMap.mp h
  obtain ⟨c, hc, h⟩ := List.mem_flatMap.mp h
  obtain ⟨i, hi, rfl⟩ := List.mem_map.mp h
  have hc : constellationOf type = some c := Option.mem_toList.mp hc
  have hfits := constellation_fits hc
  have hlt := List.mem_range.mp hi
  exact ⟨hc, by dsimp only; omega⟩

/-- Only these members are looked at. -/
theorem infoOf_congr {known known' : ReportType → Member → Int}
    (h : ∀ type ∈ [SystemStatusNavData, SystemStatusSvHealth, SystemStatusXtra],
      ∀ m ∈ type.members, known type m = known' type m)
    {sv : GnssSvType × Constellation × Nat} (hsv : sv ∈ satellites) :
    infoOf (F := F) known sv = infoOf known' sv := by
  obtain ⟨hc, hplace⟩ := mem_satellites hsv
  obtain ⟨type, c, i⟩ := sv
  obtain ⟨htype, hsource, hage⟩ := mem_navMembers hplace
  obtain ⟨⟨hgood, hbad⟩, hvalid, hxtra⟩ := mem_maskMembers hc
  have hnav := h SystemStatusNavData (by simp)
  have hhealth := h SystemStatusSvHealth (by simp)
  have hpredicted := h SystemStatusXtra (by simp)
  simp only [infoOf, hnav _ htype, hnav _ hsource, hnav _ hage, hhealth _ hgood, hhealth _ hbad,
    hpredicted _ hvalid, hpredicted _ hxtra]

/-- **The debug report tells what was said last.** After any sentences, well formed or not, and any
deletions of all data, the report has each of the 134 satellites once, and each place of the array
serves one of them. What it tells of a satellite is what the latest sentences of their kinds say,
unless a deletion came after them. -/
theorem debug_report_latest [FloatEq F] (es : List (Event τ F)) :
    let r := mSatelliteInfo (run step noReports es)
    r = satellites.map (infoOf (lastSaid es)) ∧
      (r.map fun s => (s.constellation, s.svid)).Nodup ∧
      (satellites.map fun sv => sv.2.1.svid_idx + sv.2.2).Perm (List.range SV_ALL_NUM) := by
  intro r
  have hr : r = satellites.map (infoOf (lastSaid es)) := by
    refine (mSatelliteInfo_eq _).trans (List.map_congr_left fun sv hsv => ?_)
    refine infoOf_congr (fun type htype m hm => ?_) hsv
    have hreport : ∀ type ∈ [SystemStatusNavData, SystemStatusSvHealth, SystemStatusXtra],
        type ∈ reportTypes := by
      simp [reportTypes, sentences, PQWM1, PQWP1, PQWP2, PQWP3, PQWP4, PQWP5, PQWP6, PQWP7, PQWS1]
    rw [back_run (hreport type htype) hm]
    rfl
  refine ⟨hr, ?_, by decide +kernel⟩
  have hids : (satellites.map fun sv => (sv.1, sv.2.2 + sv.2.1.svid_min)).Nodup := by
    decide +kernel
  rw [hr, List.map_map]
  exact hids

end DeviceHal.Gnss.DebugReport
