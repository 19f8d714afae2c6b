import DeviceHal.Core.ReportHistory
import DeviceHal.Lib.CText

/-! # Debug sentences

The parsers of the `$PQW` sentences in `core/SystemStatus.cpp` and
`SystemStatus::setNmeaString`, which stores the reports they make. A parser is a
table of its assignments; what it does not assign is left as it finds it. -/
namespace DeviceHal.Core.DebugNmea
open DeviceHal.Lib.CText DeviceHal.Core.NetworkInfo DeviceHal.Core.ReportHistory

/-! ## Values -/

/-- A member of a record. Integer members hold the value after its conversion. -/
inductive Value (F : Type) where
  | int (v : Int)
  | float (x : F)
deriving DecidableEq

/-- The type of a member. -/
inductive MemberType where
  | uint (bits : Nat)
  | int32
  | float
  | double
deriving DecidableEq

inductive Conversion where
  | atoi
  /-- `strtol` in base 16. -/
  | hex
  | atof
deriving DecidableEq

/-- The members of the parsed records. -/
inductive Member where
  | mGpsWeek | mGpsTowMs | mTimeValid | mTimeSource | mTimeUnc | mClockFreqBias
  | mClockFreqBiasUnc | mXoState | mPgaGain | mGpsBpAmpI | mGpsBpAmpQ | mAdcI | mAdcQ
  | mJammerGps | mJammerGlo | mJammerBds | mJammerGal | mRecErrorRecovery | mAgcGps | mAgcGlo
  | mAgcBds | mAgcGal | mLeapSeconds | mLeapSecUnc | mGloBpAmpI | mGloBpAmpQ | mBdsBpAmpI
  | mBdsBpAmpQ | mGalBpAmpI | mGalBpAmpQ
  | mEpiValidity | mEpiLat | mEpiLon | mEpiAlt | mEpiHepe | mEpiAltUnc | mEpiSrc
  | mBestLat | mBestLon | mBestAlt | mBestHepe | mBestAltUnc
  | mXtraValidMask | mGpsXtraAge | mGloXtraAge | mBdsXtraAge | mGalXtraAge | mQzssXtraAge
  | mGpsXtraValid | mGloXtraValid | mBdsXtraValid | mGalXtraValid | mQzssXtraValid
  | mGpsEpheValid | mGloEpheValid | mBdsEpheValid | mGalEpheValid | mQzssEpheValid
  | mGpsUnknownMask | mGloUnknownMask | mBdsUnknownMask | mGalUnknownMask | mQzssUnknownMask
  | mGpsGoodMask | mGloGoodMask | mBdsGoodMask | mGalGoodMask | mQzssGoodMask
  | mGpsBadMask | mGloBadMask | mBdsBadMask | mGalBadMask | mQzssBadMask
  | mFixInfoMask | mHepeLimit
  | mType (i : Nat) | mSource (i : Nat) | mAgeSec (i : Nat)
deriving DecidableEq

/-- A parsed record, with whatever its memory holds where nothing was written. -/
abbrev Record (F : Type) := Member → Value F

variable {τ F : Type}

def Record.set (r : Record F) (m : Member) (v : Value F) : Record F :=
  fun m' => if m' = m then v else r m'

section Parsers
variable [FloatText F]

/-- A number becomes the value of a member. -/
def MemberType.ofInt : MemberType → Int → Value F
  | .uint bits, v => .int (v % 2 ^ bits)
  | .int32, v => .int (toInt32 v)
  | .float, v | .double, v => .float (FloatText.ofInt v)

/-- What `memset` leaves. -/
def MemberType.zero (type : MemberType) : Value F := type.ofInt 0

/-- `atof` is used for floating point members only. -/
def convert (conversion : Conversion) (type : MemberType) (field : Bytes) : Value F :=
  match conversion, type with
  | .atoi, type => type.ofInt (atoi field)
  | .hex, type => type.ofInt (strtol field 16)
  | .atof, .float => .float (FloatText.narrow (FloatText.atof field))
  | .atof, _ => .float (FloatText.atof field)

end Parsers

/-! ## Parsers -/

/-- `member = conversion(mField[index])`. -/
structure Assignment where
  member : Member
  type : MemberType
  index : Nat
  conversion : Conversion

/-- When the record is set to zero. -/
inductive Clearing where
  | beforeCheck
  | afterCheck
  | never
deriving DecidableEq

structure NmeaParser where
  /-- Fewer fields than these are an invalid size. -/
  minFields : Nat
  clearing : Clearing
  assignments : List Assignment
  /-- Assignments for longer sentences: only if there are more fields than the number. -/
  optional : List (Nat × List Assignment)

/-- `loc_nmea_is_debug`. -/
def loc_nmea_is_debug (nmea : Bytes) (length : Nat) : Bool :=
  6 ≤ length && length ≤ 4096 && nmea.take 4 == bytesOf ['$', 'P', 'Q', 'W']

/-- The pieces before the commas; what follows the last comma is dropped. -/
def tokenize (str : Bytes) : Bytes → List Bytes
  | [] => []
  | b :: parser => if b = 44 then str :: tokenize [] parser else tokenize (str ++ [b]) parser

/-- `SystemStatusNmeaBase`: the first star becomes a comma, the rest of the checksum is
not looked at. -/
def mField (str_in : Bytes) (len_in : Nat) : List Bytes :=
  if !loc_nmea_is_debug str_in len_in then []
  else match (cstr str_in).idxOf? 42 with
    | none => []
    | some index => tokenize [] ((cstr str_in).set index 44)

section Parsers
variable [FloatText F]

def assign (mField : List Bytes) (r : Record F) (a : Assignment) : Record F :=
  r.set a.member (convert a.conversion a.type (mField.getD a.index []))

def NmeaParser.members (p : NmeaParser) : List Assignment :=
  p.assignments ++ p.optional.flatMap (·.2)

/-- `memset` of the record. -/
def NmeaParser.clear (p : NmeaParser) (r : Record F) : Record F :=
  p.members.foldl (fun r a => r.set a.member a.type.zero) r

/-- The constructor of a parser, over memory that holds `garbage`. -/
def NmeaParser.parse (p : NmeaParser) (mField : List Bytes) (garbage : Record F) : Record F :=
  let r := if p.clearing = .beforeCheck then p.clear garbage else garbage
  if mField.length < p.minFields then r
  else
    let r := if p.clearing = .afterCheck then p.clear r else r
    let r := p.assignments.foldl (assign mField) r
    p.optional.foldl
      (fun r more => if mField.length > more.1 then more.2.foldl (assign mField) r else r) r

end Parsers

def SV_ALL_NUM : Nat := 32 + 24 + 5 + 37 + 36

def SystemStatusPQWM1parser : NmeaParser where
  minFields := 23
  clearing := .beforeCheck
  assignments := [
    ⟨.mGpsWeek, .uint 16, 1, .atoi⟩, ⟨.mGpsTowMs, .uint 32, 2, .atoi⟩,
    ⟨.mTimeValid, .uint 8, 3, .atoi⟩, ⟨.mTimeSource, .uint 8, 4, .atoi⟩,
    ⟨.mTimeUnc, .int32, 5, .atoi⟩, ⟨.mClockFreqBias, .int32, 6, .atoi⟩,
    ⟨.mClockFreqBiasUnc, .int32, 7, .atoi⟩, ⟨.mXoState, .uint 8, 8, .atoi⟩,
    ⟨.mPgaGain, .int32, 9, .atoi⟩, ⟨.mGpsBpAmpI, .uint 32, 10, .atoi⟩,
    ⟨.mGpsBpAmpQ, .uint 32, 11, .atoi⟩, ⟨.mAdcI, .uint 32, 12, .atoi⟩,
    ⟨.mAdcQ, .uint 32, 13, .atoi⟩, ⟨.mJammerGps, .uint 32, 14, .atoi⟩,
    ⟨.mJammerGlo, .uint 32, 15, .atoi⟩, ⟨.mJammerBds, .uint 32, 16, .atoi⟩,
    ⟨.mJammerGal, .uint 32, 17, .atoi⟩, ⟨.mRecErrorRecovery, .uint 32, 18, .atoi⟩,
    ⟨.mAgcGps, .double, 19, .atof⟩, ⟨.mAgcGlo, .double, 20, .atof⟩,
    ⟨.mAgcBds, .double, 21, .atof⟩, ⟨.mAgcGal, .double, 22, .atof⟩]
  optional := [
    (24, [⟨.mLeapSeconds, .int32, 23, .atoi⟩, ⟨.mLeapSecUnc, .int32, 24, .atoi⟩]),
    (30, [⟨.mGloBpAmpI, .uint 32, 25, .atoi⟩, ⟨.mGloBpAmpQ, .uint 32, 26, .atoi⟩,
      ⟨.mBdsBpAmpI, .uint 32, 27, .atoi⟩, ⟨.mBdsBpAmpQ, .uint 32, 28, .atoi⟩,
      ⟨.mGalBpAmpI, .uint 32, 29, .atoi⟩, ⟨.mGalBpAmpQ, .uint 32, 30, .atoi⟩])]

def SystemStatusPQWP1parser : NmeaParser where
  minFields := 9
  clearing := .afterCheck
  assignments := [
    ⟨.mEpiValidity, .uint 8, 2, .hex⟩, ⟨.mEpiLat, .float, 3, .atof⟩,
    ⟨.mEpiLon, .float, 4, .atof⟩, ⟨.mEpiAlt, .float, 5, .atof⟩,
    ⟨.mEpiHepe, .float, 6, .atoi⟩, ⟨.mEpiAltUnc, .float, 7, .atof⟩,
    ⟨.mEpiSrc, .uint 8, 8, .atoi⟩]
  optional := []

def SystemStatusPQWP2parser : NmeaParser where
  minFields := 7
  clearing := .afterCheck
  assignments := [
    ⟨.mBestLat, .float, 2, .atof⟩, ⟨.mBestLon, .float, 3, .atof⟩,
    ⟨.mBestAlt, .float, 4, .atof⟩, ⟨.mBestHepe, .float, 5, .atof⟩,
    ⟨.mBestAltUnc, .float, 6, .atof⟩]
  optional := []

def SystemStatusPQWP3parser : NmeaParser where
  minFields := 13
  clearing := .afterCheck
  assignments := [
    ⟨.mXtraValidMask, .uint 8, 2, .hex⟩, ⟨.mGpsXtraAge, .uint 32, 3, .atoi⟩,
    ⟨.mGloXtraAge, .uint 32, 4, .atoi⟩, ⟨.mBdsXtraAge, .uint 32, 5, .atoi⟩,
    ⟨.mGalXtraAge, .uint 32, 6, .atoi⟩, ⟨.mQzssXtraAge, .uint 32, 7, .atoi⟩,
    ⟨.mGpsXtraValid, .uint 32, 8, .hex⟩, ⟨.mGloXtraValid, .uint 32, 9, .hex⟩,
    ⟨.mBdsXtraValid, .uint 64, 10, .hex⟩, ⟨.mGalXtraValid, .uint 64, 11, .hex⟩,
    ⟨.mQzssXtraValid, .uint 8, 12, .hex⟩]
  optional := []

def SystemStatusPQWP4parser : NmeaParser where
  minFields := 7
  clearing := .afterCheck
  assignments := [
    ⟨.mGpsEpheValid, .uint 32, 2, .hex⟩, ⟨.mGloEpheValid, .uint 32, 3, .hex⟩,
    ⟨.mBdsEpheValid, .uint 64, 4, .hex⟩, ⟨.mGalEpheValid, .uint 64, 5, .hex⟩,
    ⟨.mQzssEpheValid, .uint 8, 6, .hex⟩]
  optional := []

def SystemStatusPQWP5parser : NmeaParser where
  minFields := 17
  clearing := .afterCheck
  assignments := [
    ⟨.mGpsUnknownMask, .uint 32, 2, .hex⟩, ⟨.mGloUnknownMask, .uint 32, 3, .hex⟩,
    ⟨.mBdsUnknownMask, .uint 64, 4, .hex⟩, ⟨.mGalUnknownMask, .uint 64, 5, .hex⟩,
    ⟨.mQzssUnknownMask, .uint 8, 6, .hex⟩, ⟨.mGpsGoodMask, .uint 32, 7, .hex⟩,
    ⟨.mGloGoodMask, .uint 32, 8, .hex⟩, ⟨.mBdsGoodMask, .uint 64, 9, .hex⟩,
    ⟨.mGalGoodMask, .uint 64, 10, .hex⟩, ⟨.mQzssGoodMask, .uint 8, 11, .hex⟩,
    ⟨.mGpsBadMask, .uint 32, 12, .hex⟩, ⟨.mGloBadMask, .uint 32, 13, .hex⟩,
    ⟨.mBdsBadMask, .uint 64, 14, .hex⟩, ⟨.mGalBadMask, .uint 64, 15, .hex⟩,
    ⟨.mQzssBadMask, .uint 8, 16, .hex⟩]
  optional := []

def SystemStatusPQWP6parser : NmeaParser where
  minFields := 3
  clearing := .afterCheck
  assignments := [⟨.mFixInfoMask, .uint 32, 2, .hex⟩]
  optional := []

/-- The one parser that never clears its record; it assigns all of it. -/
def SystemStatusPQWP7parser : NmeaParser where
  minFields := 2 + SV_ALL_NUM * 3
  clearing := .never
  assignments := (List.range SV_ALL_NUM).flatMap fun i => [
    ⟨.mType i, .int32, i * 3 + 2, .atoi⟩, ⟨.mSource i, .int32, i * 3 + 3, .atoi⟩,
    ⟨.mAgeSec i, .int32, i * 3 + 4, .atoi⟩]
  optional := []

def SystemStatusPQWS1parser : NmeaParser where
  minFields := 4
  clearing := .afterCheck
  assignments := [⟨.mFixInfoMask, .uint 32, 2, .atoi⟩, ⟨.mHepeLimit, .uint 32, 3, .atoi⟩]
  optional := []

/-! ## Reports -/

/-- The report lists that the sentences go to. -/
inductive ReportList where
  | mTimeAndClock | mXoState | mRfAndParams | mErrRecovery | mInjectedPosition | mBestPosition
  | mXtra | mEphemeris | mSvHealth | mPdr | mNavData | mPositionFailure
deriving DecidableEq

/-- The members of a report, in the order in which `equals` compares them. -/
structure ReportValues (F : Type) where
  /-- Of the best position, and not compared; true in every report from a sentence. -/
  mValid : Bool
  values : List (Value F)
deriving DecidableEq

/-- The constructor of a report type takes these members over. -/
structure ReportType where
  list : ReportList
  members : List Member

def ReportType.report (type : ReportType) (nmea : Record F) : ReportValues F :=
  ⟨true, type.members.map nmea⟩

def Value.equals [FloatEq F] : Value F → Value F → Bool
  | .int v, .int w => v == w
  | .float x, .float y => FloatEq.eq x y
  | _, _ => false

def sameValues [FloatEq F] : List (Value F) → List (Value F) → Bool
  | [], [] => true
  | v :: vs, w :: ws => v.equals w && sameValues vs ws
  | _, _ => false

instance [FloatEq F] : ReportData (ReportValues F) where
  equals a b := sameValues a.values b.values

def SystemStatusTimeAndClock : ReportType := ⟨.mTimeAndClock,
  [.mGpsWeek, .mGpsTowMs, .mTimeValid, .mTimeSource, .mTimeUnc, .mClockFreqBias,
    .mClockFreqBiasUnc, .mLeapSeconds, .mLeapSecUnc]⟩

def SystemStatusXoState : ReportType := ⟨.mXoState, [.mXoState]⟩

def SystemStatusRfAndParams : ReportType := ⟨.mRfAndParams,
  [.mPgaGain, .mGpsBpAmpI, .mGpsBpAmpQ, .mAdcI, .mAdcQ, .mJammerGps, .mJammerGlo, .mJammerBds,
    .mJammerGal, .mAgcGps, .mAgcGlo, .mAgcBds, .mAgcGal, .mGloBpAmpI, .mGloBpAmpQ,
    .mBdsBpAmpI, .mBdsBpAmpQ, .mGalBpAmpI, .mGalBpAmpQ]⟩

def SystemStatusErrRecovery : ReportType := ⟨.mErrRecovery, [.mRecErrorRecovery]⟩

def SystemStatusInjectedPosition : ReportType := ⟨.mInjectedPosition,
  [.mEpiValidity, .mEpiLat, .mEpiLon, .mEpiAlt, .mEpiHepe, .mEpiAltUnc, .mEpiSrc]⟩

def SystemStatusBestPosition : ReportType := ⟨.mBestPosition,
  [.mBestLat, .mBestLon, .mBestAlt, .mBestHepe, .mBestAltUnc]⟩

def SystemStatusXtra : ReportType := ⟨.mXtra,
  [.mXtraValidMask, .mGpsXtraAge, .mGloXtraAge, .mBdsXtraAge, .mGalXtraAge, .mQzssXtraAge,
    .mGpsXtraValid, .mGloXtraValid, .mBdsXtraValid, .mGalXtraValid, .mQzssXtraValid]⟩

def SystemStatusEphemeris : ReportType := ⟨.mEphemeris,
  [.mGpsEpheValid, .mGloEpheValid, .mBdsEpheValid, .mGalEpheValid, .mQzssEpheValid]⟩

def SystemStatusSvHealth : ReportType := ⟨.mSvHealth,
  [.mGpsUnknownMask, .mGloUnknownMask, .mBdsUnknownMask, .mGalUnknownMask, .mQzssUnknownMask,
    .mGpsGoodMask, .mGloGoodMask, .mBdsGoodMask, .mGalGoodMask, .mQzssGoodMask,
    .mGpsBadMask, .mGloBadMask, .mBdsBadMask, .mGalBadMask, .mQzssBadMask]⟩

def SystemStatusPdr : ReportType := ⟨.mPdr, [.mFixInfoMask]⟩

def SystemStatusNavData : ReportType := ⟨.mNavData,
  (List.range SV_ALL_NUM).flatMap fun i => [.mType i, .mSource i, .mAgeSec i]⟩

def SystemStatusPositionFailure : ReportType := ⟨.mPositionFailure, [.mFixInfoMask, .mHepeLimit]⟩

/-- One branch of `setNmeaString`. -/
structure DebugSentence where
  tag : Bytes
  parser : NmeaParser
  reports : List ReportType

def PQWM1 : DebugSentence := ⟨bytesOf ['$', 'P', 'Q', 'W', 'M', '1'], SystemStatusPQWM1parser,
  [SystemStatusTimeAndClock, SystemStatusXoState, SystemStatusRfAndParams,
    SystemStatusErrRecovery]⟩

def PQWP1 : DebugSentence := ⟨bytesOf ['$', 'P', 'Q', 'W', 'P', '1'], SystemStatusPQWP1parser,
  [SystemStatusInjectedPosition]⟩

def PQWP2 : DebugSentence := ⟨bytesOf ['$', 'P', 'Q', 'W', 'P', '2'], SystemStatusPQWP2parser,
  [SystemStatusBestPosition]⟩

def PQWP3 : DebugSentence := ⟨bytesOf ['$', 'P', 'Q', 'W', 'P', '3'], SystemStatusPQWP3parser,
  [SystemStatusXtra]⟩

def PQWP4 : DebugSentence := ⟨bytesOf ['$', 'P', 'Q', 'W', 'P', '4'], SystemStatusPQWP4parser,
  [SystemStatusEphemeris]⟩

def PQWP5 : DebugSentence := ⟨bytesOf ['$', 'P', 'Q', 'W', 'P', '5'], SystemStatusPQWP5parser,
  [SystemStatusSvHealth]⟩

def PQWP6 : DebugSentence := ⟨bytesOf ['$', 'P', 'Q', 'W', 'P', '6'], SystemStatusPQWP6parser,
  [SystemStatusPdr]⟩

def PQWP7 : DebugSentence := ⟨bytesOf ['$', 'P', 'Q', 'W', 'P', '7'], SystemStatusPQWP7parser,
  [SystemStatusNavData]⟩

def PQWS1 : DebugSentence := ⟨bytesOf ['$', 'P', 'Q', 'W', 'S', '1'], SystemStatusPQWS1parser,
  [SystemStatusPositionFailure]⟩

/-- The branches in their order. -/
def sentences : List DebugSentence :=
  [PQWM1, PQWP1, PQWP2, PQWP3, PQWP4, PQWP5, PQWP6, PQWP7, PQWS1]

/-! ## The report cache -/

/-- The lists of `mCache` that the sentences go to. -/
abbrev SystemStatusReports (τ F : Type) := ReportList → List (SystemStatusItem τ (ReportValues F))

section Store
variable [FloatEq F] [FloatText F]

/-- One call of `setIteminReport`; the item reads the clock when it is made. -/
def store (now : ReportList → τ) (nmea : Record F) (mCache : SystemStatusReports τ F)
    (type : ReportType) : SystemStatusReports τ F :=
  fun list =>
    if list = type.list then
      (setIteminReport (mCache type.list)
        (SystemStatusItem.new (now type.list) (type.report nmea))).2.1
    else mCache list

/-- The record of a sentence: the parser is given the copy in a buffer of 4097 bytes. -/
def DebugSentence.record (s : DebugSentence) (data : Bytes) (len : Nat) (garbage : Record F) :
    Record F :=
  s.parser.parse (mField (strlcpy data 4097) len) garbage

/-- The return value and the cache. -/
def setNmeaString (now : ReportList → τ) (garbage : Record F) (mCache : SystemStatusReports τ F)
    (data : Bytes) (len : Nat) : Bool × SystemStatusReports τ F :=
  if !loc_nmea_is_debug data len then (false, mCache)
  else match sentences.find? (fun s => strncmp data s.tag 6 = 0) with
    | some s => (true, s.reports.foldl (store now (s.record data len garbage)) mCache)
    | none => (true, mCache)

end Store

end DeviceHal.Core.DebugNmea
