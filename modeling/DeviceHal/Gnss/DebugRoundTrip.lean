import DeviceHal.Gnss.DebugReport
import DeviceHal.Core.DebugTokens
import DeviceHal.Lib.Numerals

/-! # Debug sentences on their way to the debug report

The chip prints what it knows of the satellites in a sentence, with `%d` and `%x`.
`SystemStatus` cuts the sentence, reads the numbers and keeps them, and the debug
report has them again. -/
namespace DeviceHal.Gnss.DebugRoundTrip
open DeviceHal.Lib.CText DeviceHal.Lib.Run DeviceHal.Gnss.SvTypes GnssSvType
open DeviceHal.Core.ReportHistory DeviceHal.Core.DebugNmea DeviceHal.Core.DebugRejects
open DeviceHal.Core.DebugTokens DeviceHal.Gnss.DebugReport GnssEphemerisHealth

variable {τ F : Type} [FloatText F]

/-! ## Sentences as they are printed -/

/-- A sentence: its fields, with the tag in front and commas between them, and behind the star what
stands for the checksum. It is short enough for the buffer that it is copied to. -/
structure Printed (s : DebugSentence) where
  fields : List Bytes
  sum : Bytes
  /-- What stands in memory behind the sentence. -/
  behind : Bytes
  len : Nat
  plain : ∀ field ∈ s.tag :: fields, 44 ∉ field ∧ 42 ∉ field ∧ 0 ∉ field
  sum_plain : 44 ∉ sum ∧ 0 ∉ sum
  enough : s.parser.minFields ≤ fields.length + 1
  short : ([44].intercalate (s.tag :: fields) ++ 42 :: sum).length ≤ 4096
  len_fits : 6 ≤ len ∧ len ≤ 4096

namespace Printed

def text {s : DebugSentence} (p : Printed s) : Bytes :=
  [44].intercalate (s.tag :: p.fields) ++ 42 :: p.sum

def data {s : DebugSentence} (p : Printed s) : Bytes := p.text ++ 0 :: p.behind

end Printed

theorem not_mem_intercalate {b sep : UInt8} (hsep : sep ≠ b) {fields : List Bytes}
    (h : ∀ field ∈ fields, b ∉ field) : b ∉ [sep].intercalate fields := by
  induction fields with
  | nil => simp
  | cons field fields ih =>
    obtain ⟨hfield, hrest⟩ := List.forall_mem_cons.mp h
    cases fields with
    | nil => rwa [List.intercalate_singleton]
    | cons next fields =>
      rw [List.intercalate_cons_cons]
      simp [hfield, hsep.symm, ih hrest]

theorem prefix_intercalate (sep : Bytes) (field : Bytes) (fields : List Bytes) :
    field <+: sep.intercalate (field :: fields) := by
  cases fields with
  | nil => rw [List.intercalate_singleton]
  | cons next fields =>
    rw [List.intercalate_cons_cons, List.append_assoc]
    exact List.prefix_append _ _

section
variable {s : DebugSentence} (p : Printed s)

theorem Printed.tag_prefix : s.tag <+: p.text :=
  (prefix_intercalate _ _ _).trans (List.prefix_append _ _)

theorem Printed.nul_not_mem : 0 ∉ p.text := by
  have hfields := not_mem_intercalate (show (44 : UInt8) ≠ 0 by decide)
    fun field hfield => (p.plain field hfield).2.2
  unfold Printed.text
  simp [hfields, p.sum_plain.2]

/-- The copy in the buffer is the whole sentence. -/
theorem Printed.strlcpy_data : strlcpy p.data 4097 = p.text := by
  rw [strlcpy, Printed.data, cstr_append p.nul_not_mem]
  exact List.take_of_length_le p.short

theorem Printed.isDebug (hs : s ∈ sentences) {data : Bytes} (htag : s.tag <+: data) :
    loc_nmea_is_debug data p.len = true := by
  rw [isDebug_of_tag hs htag]
  simp [p.len_fits]

/-- The parser gets the fields that were printed. -/
theorem Printed.mField_text (hs : s ∈ sentences) : mField p.text p.len = s.tag :: p.fields := by
  have hstar : 42 ∉ [44].intercalate (s.tag :: p.fields) :=
    not_mem_intercalate (by decide) fun field hfield => (p.plain field hfield).2.1
  rw [mField, p.isDebug hs p.tag_prefix, cstr_eq p.nul_not_mem, Printed.text,
    idxOf?_append_cons hstar]
  show tokenize [] (([44].intercalate (s.tag :: p.fields) ++ 42 :: p.sum).set _ 44) = _
  have hset : ([44].intercalate (s.tag :: p.fields) ++ 42 :: p.sum).set
      ([44].intercalate (s.tag :: p.fields)).length 44 =
        [44].intercalate (s.tag :: p.fields) ++ 44 :: p.sum := by simp
  rw [hset, tokenize_eq_splitOn p.sum_plain.1,
    List.splitOn_intercalate 44 (fun field hfield => (p.plain field hfield).1)
      (List.cons_ne_nil _ _)]
  rfl

/-! ### What the parser makes of it -/

theorem foldl_assign_of_not_mem (fields : List Bytes) {m : Member} {as : List Assignment}
    (hm : ∀ a ∈ as, a.member ≠ m) (r : Record F) : as.foldl (assign fields) r m = r m := by
  induction as generalizing r with
  | nil => rfl
  | cons a as ih =>
    obtain ⟨ha, has⟩ := List.forall_mem_cons.mp hm
    rw [List.foldl_cons, ih has, assign, Record.set, if_neg (Ne.symm ha)]

/-- A member that is assigned once has what was assigned to it. -/
theorem foldl_assign (fields : List Bytes) {a : Assignment} {as : List Assignment}
    (hm : (as.map Assignment.member).Nodup) (ha : a ∈ as) (r : Record F) :
    as.foldl (assign fields) r a.member =
      convert a.conversion a.type (fields.getD a.index []) := by
  induction as generalizing r with
  | nil => cases ha
  | cons b as ih =>
    rw [List.map_cons, List.nodup_cons] at hm
    rw [List.foldl_cons]
    rcases List.mem_cons.mp ha with rfl | ha
    · rw [foldl_assign_of_not_mem fields fun b hb heq => hm.1 (List.mem_map.mpr ⟨b, hb, heq⟩),
        assign, Record.set, if_pos rfl]
    · exact ih hm.2 ha _

theorem Printed.record (hs : s ∈ sentences) (hopt : s.parser.optional = [])
    (hm : (s.parser.assignments.map Assignment.member).Nodup) {a : Assignment}
    (ha : a ∈ s.parser.assignments) (garbage : Record F) :
    s.record p.data p.len garbage a.member =
      convert a.conversion a.type ((s.tag :: p.fields).getD a.index []) := by
  have hfields := p.mField_text hs
  have henough : ¬ (s.tag :: p.fields).length < s.parser.minFields := Nat.not_lt.mpr p.enough
  rw [DebugSentence.record, p.strlcpy_data, hfields, NmeaParser.parse, if_neg henough, hopt]
  exact foldl_assign _ hm ha _

/-- What a printed sentence says of a member of its report. -/
theorem Printed.tells (hs : s ∈ sentences) {type : ReportType} (htype : type ∈ s.reports)
    (now : ReportList → τ) (garbage : Record F) (m : Member) :
    (Event.setNmeaString now garbage p.data p.len).tells type m =
      some (intOf (s.record p.data p.len garbage m)) := by
  have htag : s.tag <+: p.data := p.tag_prefix.trans (List.prefix_append _ _)
  have hlist : type.list ∈ s.reports.map ReportType.list := List.mem_map_of_mem htype
  rw [Event.tells, if_pos (p.isDebug hs htag), find_sentence hs htag, Option.bind_some,
    if_pos hlist]

end

/-- What a printed sentence says is kept until something else is said. -/
theorem Printed.kept [FloatEq F] {s : DebugSentence} (p : Printed s) (hs : s ∈ sentences)
    {type : ReportType} (htype : type ∈ s.reports) (es : List (Event τ F)) {es' : List (Event τ F)}
    (now : ReportList → τ) (garbage : Record F) (hlater : ∀ e ∈ es', e.Silent type) :
    ∀ m ∈ type.members, (back (run step noReports
      (es ++ .setNmeaString now garbage p.data p.len :: es')) type m).getD 0 =
        intOf (s.record p.data p.len garbage m) := by
  intro m hm
  have hreport : type ∈ reportTypes := List.mem_flatMap.mpr ⟨s, hs, htype⟩
  have hnone : es'.filterMap (·.tells type m) = [] :=
    List.filterMap_eq_nil_iff.mpr fun e he => hlater e he m
  rw [back_run hreport hm, List.filterMap_append,
    List.filterMap_cons_some (p.tells hs htype now garbage m), hnone, List.getLast?_concat]
  rfl

/-! ### Navigation data -/

/-- Type, source and age of one satellite. -/
abbrev Nav := Int × Int × Int

def navTexts (n : Nav) : List Bytes := [printInt n.1, printInt n.2.1, printInt n.2.2]

/-- The numbers are of the type `int`. -/
def Nav.Fits (n : Nav) : Prop :=
  ∀ v ∈ [n.1, n.2.1, n.2.2], -2 ^ 31 ≤ v ∧ v < 2 ^ 31

instance (n : Nav) : Decidable n.Fits :=
  inferInstanceAs (Decidable (∀ v ∈ [n.1, n.2.1, n.2.2], -2 ^ 31 ≤ v ∧ v < 2 ^ 31))

theorem getD_navTexts (nav : List Nav) {j : Nat} (hj : j < nav.length) (k : Nat) (hk : k < 3) :
    (nav.flatMap navTexts).getD (j * 3 + k) [] = (navTexts nav[j]).getD k [] := by
  induction nav generalizing j with
  | nil => cases hj
  | cons n nav ih =>
    rw [List.flatMap_cons, List.getD_eq_getElem?_getD]
    cases j with
    | zero =>
      have hlt : 0 * 3 + k < (navTexts n).length := by simpa [navTexts] using hk
      rw [List.getElem?_append_left hlt, Nat.zero_mul, Nat.zero_add, List.getD_eq_getElem?_getD]
      rfl
    | succ j =>
      have hplace : (j + 1) * 3 + k = (navTexts n).length + (j * 3 + k) := by
        simp only [navTexts, List.length_cons, List.length_nil]
        omega
      rw [hplace, List.getElem?_append_right (Nat.le_add_right _ _), Nat.add_sub_cancel_left,
        ← List.getD_eq_getElem?_getD]
      exact ih (Nat.lt_of_succ_lt_succ hj)

theorem nodup_navAssignments :
    (SystemStatusPQWP7parser.assignments.map Assignment.member).Nodup := by
  have hmembers : SystemStatusPQWP7parser.assignments.map Assignment.member =
      (List.range SV_ALL_NUM).flatMap fun i => [Member.mType i, .mSource i, .mAgeSec i] := by
    rw [SystemStatusPQWP7parser, List.map_flatMap]
    rfl
  rw [hmembers, List.nodup_flatMap]
  refine ⟨fun i _ => by simp, List.nodup_range.imp fun hne => ?_⟩
  simp [Function.onFun, List.disjoint_left, hne]

/-- The three members of a satellite have the numbers that were printed. -/
theorem nav_record (p : Printed PQWP7) {utc : Bytes} {nav : List Nav}
    (hfields : p.fields = utc :: nav.flatMap navTexts) {j : Nat} (hj : j < nav.length)
    (hall : j < SV_ALL_NUM) (hfits : nav[j].Fits) (garbage : Record F) :
    let record : Record F := PQWP7.record p.data p.len garbage
    intOf (record (.mType j)) = nav[j].1 ∧ intOf (record (.mSource j)) = nav[j].2.1 ∧
      intOf (record (.mAgeSec j)) = nav[j].2.2 := by
  intro record
  have hread : ∀ (m : Member) (k : Nat) (v : Int), k < 3 →
      ⟨m, .int32, j * 3 + (k + 2), .atoi⟩ ∈ SystemStatusPQWP7parser.assignments →
      (navTexts nav[j]).getD k [] = printInt v → -2 ^ 31 ≤ v ∧ v < 2 ^ 31 →
      intOf (record m) = v := by
    intro m k v hk hmem htext hv
    have hrecord : record m = convert .atoi .int32 _ :=
      p.record (a := ⟨m, .int32, j * 3 + (k + 2), .atoi⟩) (by simp [sentences]) rfl
        nodup_navAssignments hmem garbage
    have hfield : (PQWP7.tag :: p.fields).getD (j * 3 + (k + 2)) [] = printInt v := by
      rw [hfields, ← htext, ← getD_navTexts nav hj k hk]
      rfl
    rw [hrecord, hfield, convert, MemberType.ofInt, intOf, atoi_printInt hv.1 hv.2, toInt32]
    exact Int.bmod_eq_of_le (by omega) (by omega)
  have hmem : ∀ a ∈ [(⟨.mType j, .int32, j * 3 + 2, .atoi⟩ : Assignment),
      ⟨.mSource j, .int32, j * 3 + 3, .atoi⟩, ⟨.mAgeSec j, .int32, j * 3 + 4, .atoi⟩],
      a ∈ SystemStatusPQWP7parser.assignments :=
    fun a ha => List.mem_flatMap.mpr ⟨j, List.mem_range.mpr hall, ha⟩
  exact ⟨hread _ 0 _ (by decide) (hmem _ (by simp)) rfl (hfits _ (by simp)),
    hread _ 1 _ (by decide) (hmem _ (by simp)) rfl (hfits _ (by simp)),
    hread _ 2 _ (by decide) (hmem _ (by simp)) rfl (hfits _ (by simp))⟩

/-- **Navigation data comes through unchanged.** Whatever was said before, the debug report has for
each satellite the type, the source and the age that were printed for its place, until another
sentence of navigation data or a deletion comes. -/
theorem nav_data_round_trip [FloatEq F] (es es' : List (Event τ F)) (p : Printed PQWP7)
    (utc : Bytes) (nav : List Nav) (hfields : p.fields = utc :: nav.flatMap navTexts)
    (hnav : nav.length = SV_ALL_NUM) (hfits : ∀ n ∈ nav, n.Fits) (now : ReportList → τ)
    (garbage : Record F) (hlater : ∀ e ∈ es', e.Silent SystemStatusNavData) :
    (mSatelliteInfo (run step noReports
        (es ++ .setNmeaString now garbage p.data p.len :: es'))).map
          (fun s => (s.mEphemerisType, s.mEphemerisSource, s.ephemerisAgeSeconds)) =
      satellites.map fun sv =>
        let n := nav.getD (sv.2.1.svid_idx + sv.2.2) (0, 0, 0)
        (n.1, n.2.1, FloatText.ofInt n.2.2) := by
  rw [mSatelliteInfo_eq, List.map_map]
  refine List.map_congr_left fun sv hsv => ?_
  have hplace := (mem_satellites hsv).2
  have hj : sv.2.1.svid_idx + sv.2.2 < nav.length := hnav ▸ hplace
  obtain ⟨htype, hsource, hage⟩ :=
    nav_record p hfields hj hplace (hfits _ (List.getElem_mem hj)) garbage
  obtain ⟨hmtype, hmsource, hmage⟩ := mem_navMembers hplace
  have hlast := p.kept (by simp [sentences]) (List.mem_singleton_self _) es now garbage hlater
  have hget : nav.getD (sv.2.1.svid_idx + sv.2.2) (0, 0, 0) = nav[sv.2.1.svid_idx + sv.2.2] := by
    rw [List.getD_eq_getElem?_getD, List.getElem?_eq_getElem hj]
    rfl
  simp only [Function.comp_apply, infoOf, hlast _ hmtype, hlast _ hmsource, hlast _ hmage, htype,
    hsource, hage, hget]

/-- Different numbers for all satellites, some of them negative. -/
def someNav : List Nav := (List.range SV_ALL_NUM).map fun j => (j % 3, j % 5, j - 60)

def navPrinted : Printed PQWP7 where
  fields := bytesOf "123456.0".toList :: someNav.flatMap navTexts
  sum := [48, 48]
  behind := [7]
  len := 1100
  plain := by decide +kernel
  sum_plain := by decide
  enough := by decide +kernel
  short := by decide +kernel
  len_fits := by decide

/-- Satellites of GLONASS and QZSS stand next to each other in the report, not in the sentence. -/
theorem nav_data_round_trip_ages :
    ((mSatelliteInfo (run step noReports [.setDefaultGnssEngineStates (fun _ => 3),
        .setNmeaString (fun _ => 7) (fun _ => .float 0) navPrinted.data 1100,
        .setNmeaString (fun _ => 8) (fun _ => .int 5) PQWP6.tag 6]) :
          List (GnssDebugSatelliteInfo Int)).map fun s =>
            (s.mEphemerisType, s.mEphemerisSource, s.ephemerisAgeSeconds)).extract 55 58 =
      [(1, 0, -5), (0, 4, 69), (1, 0, 70)] := by
  have h := nav_data_round_trip ([.setDefaultGnssEngineStates fun _ => 3] : List (Event Nat Int))
    [.setNmeaString (fun _ => 8) (fun _ => .int 5) PQWP6.tag 6] navPrinted _ someNav rfl
    (by decide +kernel) (by decide +kernel) (fun _ => 7) (fun _ => .float 0)
    (List.forall_mem_singleton.mpr fun _ => rfl)
  exact (congrArg (List.extract · 55 58) h).trans (by decide +kernel)

/-! ### Health -/

/-- A mask for each constellation. -/
structure SvMasks where
  gps : Nat
  glo : Nat
  bds : Nat
  gal : Nat
  qzss : Nat

/-- The masks are of the types `uint32_t`, `uint64_t` and `uint8_t`; `strtol` reads no number of
`2 ^ 63` and more. -/
structure SvMasks.Fits (masks : SvMasks) : Prop where
  gps : masks.gps < 2 ^ 32
  glo : masks.glo < 2 ^ 32
  bds : masks.bds < 2 ^ 63
  gal : masks.gal < 2 ^ 63
  qzss : masks.qzss < 2 ^ 8

def SvMasks.texts (masks : SvMasks) : List Bytes :=
  [printHex masks.gps, printHex masks.glo, printHex masks.bds, printHex masks.gal,
    printHex masks.qzss]

def SvMasks.mask (masks : SvMasks) : GnssSvType → Nat
  | GNSS_SV_TYPE_GPS => masks.gps
  | GNSS_SV_TYPE_GLONASS => masks.glo
  | GNSS_SV_TYPE_BEIDOU => masks.bds
  | GNSS_SV_TYPE_GALILEO => masks.gal
  | GNSS_SV_TYPE_QZSS => masks.qzss
  | _ => 0

theorem convert_printHex {n bits : Nat} (hn : n < 2 ^ bits) (hlong : n < 2 ^ 63) :
    intOf (convert .hex (.uint bits) (printHex n) : Value F) = n := by
  have hle : (n : Int) ≤ LONG_MAX := by
    unfold LONG_MAX
    omega
  rw [convert, strtol_printHex hle, MemberType.ofInt, intOf]
  exact_mod_cast Nat.mod_eq_of_lt hn

/-- The good and the bad mask of a constellation are those that were printed. -/
theorem health_record (p : Printed PQWP5) {utc : Bytes} {unknown good bad : SvMasks}
    (hfields : p.fields = utc :: (unknown.texts ++ good.texts ++ bad.texts)) (hgood : good.Fits)
    (hbad : bad.Fits) {type : GnssSvType} {c : Constellation}
    (hc : constellationOf type = some c) (garbage : Record F) :
    let record : Record F := PQWP5.record p.data p.len garbage
    intOf (record c.goodMask) = good.mask type ∧ intOf (record c.badMask) = bad.mask type := by
  intro record
  have hnodup : (SystemStatusPQWP5parser.assignments.map Assignment.member).Nodup := by decide
  have hread : ∀ a ∈ SystemStatusPQWP5parser.assignments, record a.member =
      convert a.conversion a.type ((PQWP5.tag :: p.fields).getD a.index []) :=
    fun a ha => p.record (by simp [sentences]) rfl hnodup ha garbage
  simp only [SystemStatusPQWP5parser, List.forall_mem_cons, hfields] at hread
  obtain ⟨-, -, -, -, -, hg₁, hg₂, hg₃, hg₄, hg₅, hb₁, hb₂, hb₃, hb₄, hb₅, -⟩ := hread
  have hgps : ∀ {n}, n < 2 ^ 32 → n < 2 ^ 63 := fun h => Nat.lt_trans h (by decide)
  have hqzss : ∀ {n}, n < 2 ^ 8 → n < 2 ^ 63 := fun h => Nat.lt_trans h (by decide)
  have hlong : ∀ {n}, n < 2 ^ 63 → n < 2 ^ 64 := fun h => Nat.lt_trans h (by decide)
  cases type with
  | GNSS_SV_TYPE_UNKNOWN => cases hc
  | GNSS_SV_TYPE_SBAS => cases hc
  | GNSS_SV_TYPE_GPS =>
    obtain rfl := Option.some.inj hc
    exact ⟨(congrArg intOf hg₁).trans (convert_printHex hgood.gps (hgps hgood.gps)),
      (congrArg intOf hb₁).trans (convert_printHex hbad.gps (hgps hbad.gps))⟩
  | GNSS_SV_TYPE_GLONASS =>
    obtain rfl := Option.some.inj hc
    exact ⟨(congrArg intOf hg₂).trans (convert_printHex hgood.glo (hgps hgood.glo)),
      (congrArg intOf hb₂).trans (convert_printHex hbad.glo (hgps hbad.glo))⟩
  | GNSS_SV_TYPE_BEIDOU =>
    obtain rfl := Option.some.inj hc
    exact ⟨(congrArg intOf hg₃).trans (convert_printHex (hlong hgood.bds) hgood.bds),
      (congrArg intOf hb₃).trans (convert_printHex (hlong hbad.bds) hbad.bds)⟩
  | GNSS_SV_TYPE_GALILEO =>
    obtain rfl := Option.some.inj hc
    exact ⟨(congrArg intOf hg₄).trans (convert_printHex (hlong hgood.gal) hgood.gal),
      (congrArg intOf hb₄).trans (convert_printHex (hlong hbad.gal) hbad.gal)⟩
  | GNSS_SV_TYPE_QZSS =>
    obtain rfl := Option.some.inj hc
    exact ⟨(congrArg intOf hg₅).trans (convert_printHex hgood.qzss (hqzss hgood.qzss)),
      (congrArg intOf hb₅).trans (convert_printHex hbad.qzss (hqzss hbad.qzss))⟩

/-- **Health comes through unchanged.** The debug report calls a satellite good if its bit is in the
good mask that was printed for its constellation, else bad if it is in the bad mask, else unknown;
until another sentence of health or a deletion comes. -/
theorem health_round_trip [FloatEq F] (es es' : List (Event τ F)) (p : Printed PQWP5) (utc : Bytes)
    (unknown good bad : SvMasks)
    (hfields : p.fields = utc :: (unknown.texts ++ good.texts ++ bad.texts)) (hgood : good.Fits)
    (hbad : bad.Fits) (now : ReportList → τ) (garbage : Record F)
    (hlater : ∀ e ∈ es', e.Silent SystemStatusSvHealth) :
    (mSatelliteInfo (run step noReports
        (es ++ .setNmeaString now garbage p.data p.len :: es'))).map (·.mEphemerisHealth) =
      satellites.map fun sv =>
        if (good.mask sv.1).testBit sv.2.2 then GNSS_EPH_HEALTH_GOOD
        else if (bad.mask sv.1).testBit sv.2.2 then GNSS_EPH_HEALTH_BAD
        else GNSS_EPH_HEALTH_UNKNOWN := by
  rw [mSatelliteInfo_eq, List.map_map]
  refine List.map_congr_left fun sv hsv => ?_
  have hc := (mem_satellites hsv).1
  obtain ⟨hg, hb⟩ := health_record p hfields hgood hbad hc garbage
  obtain ⟨⟨hmgood, hmbad⟩, -⟩ := mem_maskMembers hc
  have hlast := p.kept (by simp [sentences]) (List.mem_singleton_self _) es now garbage hlater
  simp only [Function.comp_apply, infoOf, hlast _ hmgood, hlast _ hmbad, hg, hb, Int.toNat_natCast]

/-- The satellites of constellations in one state each, with masks of all their bits. -/
def healthPrinted : Printed PQWP5 where
  fields := [] :: ((SvMasks.mk 0 0 0 0 0).texts ++ (SvMasks.mk 4294967295 1 2 0 16).texts ++
    (SvMasks.mk 1 6 137438953471 0 255).texts)
  sum := [48, 48]
  behind := []
  len := 80
  plain := by decide +kernel
  sum_plain := by decide
  enough := by decide
  short := by decide +kernel
  len_fits := by decide

theorem health_round_trip_masks :
    ((mSatelliteInfo (run step noReports [.setNmeaString (fun _ => 7) (fun _ => .float 0)
        healthPrinted.data 80, .setNmeaString (fun _ => 8) (fun _ => .int 5) PQWP6.tag 6]) :
          List (GnssDebugSatelliteInfo Int)).map (·.mEphemerisHealth)).take 36 =
      List.replicate 32 GNSS_EPH_HEALTH_GOOD ++ [GNSS_EPH_HEALTH_GOOD, GNSS_EPH_HEALTH_BAD,
        GNSS_EPH_HEALTH_BAD, GNSS_EPH_HEALTH_UNKNOWN] := by
  have h := health_round_trip ([] : List (Event Nat Int)) [.setNmeaString (fun _ => 8)
    (fun _ => .int 5) PQWP6.tag 6] healthPrinted [] ⟨0, 0, 0, 0, 0⟩ ⟨4294967295, 1, 2, 0, 16⟩
    ⟨1, 6, 137438953471, 0, 255⟩ rfl (by constructor <;> decide) (by constructor <;> decide)
    (fun _ => 7) (fun _ => .float 0) (List.forall_mem_singleton.mpr fun _ => rfl)
  exact (congrArg (List.take 36) h).trans (by decide +kernel)

end DeviceHal.Gnss.DebugRoundTrip
