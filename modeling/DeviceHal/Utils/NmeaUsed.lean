import DeviceHal.Utils.LocNmea
import Mathlib.Tactic

/-! # Satellites used, in the sentences of a position

The masks of a position report are cut to 32 bits and those of QZSS and BeiDou
change places, before a GSA sentence is made of each and the talker of the other
sentences is chosen. What the sentences say is compared with the masks. -/
namespace DeviceHal.Utils.NmeaUsed
open DeviceHal.Lib.BitMask DeviceHal.Lib.CText DeviceHal.Gnss.SvTypes DeviceHal.Utils.LocNmea
open GnssSvType

/-! ## What should be said -/

def gsaName : Bytes := bytesOf ['G', 'S', 'A']

/-- A GSA sentence of the system. -/
def IsGsa (systemId : Nat) (s : Sentence) : Prop :=
  s.name = gsaName ∧ s.fields.getLast? = some (to_string systemId)

instance (systemId : Nat) (s : Sentence) : Decidable (IsGsa systemId s) :=
  inferInstanceAs (Decidable (_ ∧ _))

/-- The fields of the satellites in a GSA sentence. -/
def Sentence.satellites (s : Sentence) : List Bytes := (s.fields.drop 2).take 12

/-- The first 12 satellites of a mask by their ids, and empty fields for the others. -/
def firstTwelve (type : GnssSvType) (mask : BitVec 64) : List Bytes :=
  ((places mask).take 12).map (fun j => padded 2 (j + 1 + svIdOffsetOf type)) ++
    List.replicate (12 - (places mask).length) []

/-- A constellation with used satellites has one sentence, with the first 12. -/
def GsaRight (ids : GnssSvUsedInPosition) (out : List Sentence) (type : GnssSvType) : Prop :=
  ids.mask type ≠ 0#64 → ∃ s, out.filter (IsGsa (systemIdOf type) ·) = [s] ∧
    Sentence.satellites s = firstTwelve type (ids.mask type)

/-- How many satellites were used. -/
def usedCount (ids : GnssSvUsedInPosition) : Nat :=
  (constellations.map fun type => (places (ids.mask type)).length).sum

/-- The count of satellites in GGA, where there is one. -/
def GgaRight (ids : GnssSvUsedInPosition) (out : List Sentence) : Prop :=
  ∀ s ∈ out, s.name = bytesOf ['G', 'G', 'A'] → ∀ count, s.fields[6]? = some count → count ≠ [] →
    count = padded 2 (min (usedCount ids) 12)

/-- How many constellations were used. -/
def usedConstellations (ids : GnssSvUsedInPosition) : Nat :=
  constellations.countP fun type => ids.mask type ≠ 0#64

/-- The sentences of a combined solution, and no others, have the talker GN. -/
def TalkersRight (ids : GnssSvUsedInPosition) (out : List Sentence) : Prop :=
  ∀ s ∈ out, s.name ∈ [bytesOf ['V', 'T', 'G'], bytesOf ['R', 'M', 'C'], bytesOf ['G', 'G', 'A']] →
    (s.talker = talkerGN ↔ 2 ≤ usedConstellations ids)

/-! ## One sentence -/

section
variable {t : PosTexts} {c : LocSvCacheInfo} {type : GnssSvType} {b : Bool}

/-- The satellites that the loop lists. -/
theorem svUsedList_mask (svIdOffset : Nat) (mask : BitVec 32) :
    svUsedList svIdOffset 33 1 mask [] = (places mask).map (· + 1 + svIdOffset) := by
  rw [svUsedList_eq svIdOffset 33 1 (fun j hj => ?_) (by simp), List.nil_append]
  have hlt := BitVec.lt_of_getLsbD hj
  omega

/-- No sentence for an empty mask other than that of GPS. -/
theorem gsa_of_empty (htype : type ∈ constellations) (hgps : type ≠ GNSS_SV_TYPE_GPS)
    (hempty : cacheMask c type = 0#32) :
    loc_nmea_generate_GSA t (loc_nmea_sv_meta_init c type b) = ([], 0) := by
  obtain ⟨m, hm, hmeta⟩ := exists_meta htype c b
  rw [hm, loc_nmea_generate_GSA]
  dsimp only
  rw [svUsedList_mask, hmeta.mask, hempty, places_zero, if_pos ⟨rfl, hmeta.svType ▸ hgps⟩]

/-- The sentence of a constellation lists the satellites of its mask. -/
theorem gsa_of_mask (htype : type ∈ constellations)
    (hsome : type = GNSS_SV_TYPE_GPS ∨ cacheMask c type ≠ 0#32) :
    ∃ s, loc_nmea_generate_GSA t (loc_nmea_sv_meta_init c type b) =
        ([s], (places (cacheMask c type)).length) ∧
      s.name = gsaName ∧ s.fields.getLast? = some (to_string (systemIdOf type)) ∧
      Sentence.satellites s =
        svFields ((places (cacheMask c type)).map (· + 1 + svIdOffsetOf type)) := by
  obtain ⟨m, hm, hmeta⟩ := exists_meta htype c b
  rw [hm, loc_nmea_generate_GSA]
  dsimp only
  rw [svUsedList_mask, hmeta.mask, hmeta.svIdOffset, hmeta.systemId, hmeta.svType, if_neg,
    List.length_map]
  · refine ⟨_, rfl, rfl, List.getLast?_concat, ?_⟩
    show List.take 12 (svFields _ ++ _ ++ _) = _
    rw [List.append_assoc, List.take_append_of_le_length (by simp [svFields]),
      List.take_of_length_le (by simp [svFields])]
  · rintro ⟨hlen, hgps⟩
    rcases hsome with hsome | hsome
    · exact hgps hsome
    · rw [List.length_map, List.length_eq_zero_iff, places_eq_nil_iff] at hlen
      exact hsome hlen

/-- The number of satellites is that of the mask, with a sentence or without. -/
theorem count_gsa (htype : type ∈ constellations) :
    (loc_nmea_generate_GSA t (loc_nmea_sv_meta_init c type b)).2 =
      (places (cacheMask c type)).length := by
  by_cases hsome : type = GNSS_SV_TYPE_GPS ∨ cacheMask c type ≠ 0#32
  · obtain ⟨s, hs, -⟩ := @gsa_of_mask t c type b htype hsome
    rw [hs]
  · push Not at hsome
    rw [gsa_of_empty htype hsome.1 hsome.2, hsome.2, places_zero]
    rfl

theorem systemIdOf_inj {type' : GnssSvType} (htype : type ∈ constellations)
    (h : systemIdOf type = systemIdOf type') : type = type' := by
  cases type <;> cases type' <;> first
    | rfl
    | exact absurd h (by decide)
    | exact absurd htype (by decide)

/-- Of the sentences of a block, only those of its own constellation have its id. -/
theorem filter_gsa (htype : type ∈ constellations) (type' : GnssSvType) :
    (loc_nmea_generate_GSA t (loc_nmea_sv_meta_init c type b)).1.filter
        (IsGsa (systemIdOf type') ·) =
      if type = type' then (loc_nmea_generate_GSA t (loc_nmea_sv_meta_init c type b)).1
      else [] := by
  by_cases hsome : type = GNSS_SV_TYPE_GPS ∨ cacheMask c type ≠ 0#32
  · obtain ⟨s, hs, hname, hlast, -⟩ := @gsa_of_mask t c type b htype hsome
    rw [hs]
    by_cases heq : type = type'
    · rw [if_pos heq, List.filter_cons_of_pos (by simp [IsGsa, hname, hlast, heq]), List.filter_nil]
    · have hne : ¬ IsGsa (systemIdOf type') s := fun h =>
        heq (systemIdOf_inj htype (to_string_injective (Option.some.inj (hlast.symm.trans h.2))))
      rw [if_neg heq, List.filter_cons_of_neg (by simpa using hne), List.filter_nil]
  · push Not at hsome
    rw [gsa_of_empty htype hsome.1 hsome.2, List.filter_nil, ite_self]

/-! ## All blocks -/

theorem foldl_gsaBlock (t : PosTexts) (c : LocSvCacheInfo) (bs : List (GnssSvType × Bool))
    (s : GsaState) :
    (bs.foldl (gsaBlock t c) s).nmeaArraystr = s.nmeaArraystr ++
      bs.flatMap (fun b => (loc_nmea_generate_GSA t (loc_nmea_sv_meta_init c b.1 b.2)).1) ∧
    (bs.foldl (gsaBlock t c) s).svUsedCount = s.svUsedCount +
      (bs.map fun b => (loc_nmea_generate_GSA t (loc_nmea_sv_meta_init c b.1 b.2)).2).sum := by
  induction bs generalizing s with
  | nil => simp
  | cons b bs ih =>
    obtain ⟨hsentences, hcount⟩ := ih (gsaBlock t c s b)
    rw [List.foldl_cons, hsentences, hcount]
    simp [gsaBlock, List.append_assoc, Nat.add_assoc]

theorem gsaBlocks_type {b : GnssSvType × Bool} (hb : b ∈ gsaBlocks) : b.1 ∈ constellations := by
  have hall : ∀ b ∈ gsaBlocks, b.1 ∈ constellations := by decide
  exact hall b hb

/-- The sentences with the id of a constellation are those of its block. -/
theorem exists_block (htype : type ∈ constellations) (t : PosTexts)
    (ids : GnssSvUsedInPosition) :
    ∃ b, ((gsaState t (some ids)).nmeaArraystr).filter (IsGsa (systemIdOf type) ·) =
      (loc_nmea_generate_GSA t (loc_nmea_sv_meta_init (usedMasks (some ids)) type b)).1 := by
  have hsentences :=
    (foldl_gsaBlock t (usedMasks (some ids)) gsaBlocks ⟨[], bytesOf ['G', 'P'], 0⟩).1
  rw [gsaState, hsentences, List.nil_append, List.filter_flatMap,
    List.flatMap_congr fun b hb => filter_gsa (gsaBlocks_type hb) type]
  simp only [constellations, List.mem_cons, List.not_mem_nil, or_false] at htype
  rcases htype with rfl | rfl | rfl | rfl | rfl
  · exact ⟨true, by simp [gsaBlocks]⟩
  · exact ⟨true, by simp [gsaBlocks]⟩
  · exact ⟨true, by simp [gsaBlocks]⟩
  · exact ⟨false, by simp [gsaBlocks]⟩
  · exact ⟨false, by simp [gsaBlocks]⟩

theorem svUsedCount_gsaState (t : PosTexts) (ids : GnssSvUsedInPosition) :
    (gsaState t (some ids)).svUsedCount =
      (constellations.map fun type =>
        (places (cacheMask (usedMasks (some ids)) type)).length).sum := by
  have hcount := (foldl_gsaBlock t (usedMasks (some ids)) gsaBlocks ⟨[], bytesOf ['G', 'P'], 0⟩).2
  rw [gsaState, hcount, Nat.zero_add, List.map_congr_left fun b hb => count_gsa (gsaBlocks_type hb)]
  rfl

end

/-! ## The sentences of a report -/

section
variable {ids : GnssSvUsedInPosition} {t : PosTexts} {type : GnssSvType}

theorem filter_pos (type : GnssSvType) (t : PosTexts) :
    (loc_nmea_generate_pos t (some ids) true).filter (IsGsa (systemIdOf type) ·) =
      (gsaState t (some ids)).nmeaArraystr.filter (IsGsa (systemIdOf type) ·) := by
  have hnone : ∀ talker count, [generateVTG t talker, generateRMC t talker,
      generateGGA t talker count].filter (IsGsa (systemIdOf type) ·) = [] := by
    intro talker count
    refine List.filter_eq_nil_iff.mpr fun s hs h => ?_
    have hname := (of_decide_eq_true h).1
    simp only [List.mem_cons, List.not_mem_nil, or_false] at hs
    rcases hs with rfl | rfl | rfl
    · rw [name_generateVTG] at hname
      exact absurd hname (by decide)
    · rw [name_generateRMC] at hname
      exact absurd hname (by decide)
    · rw [name_generateGGA] at hname
      exact absurd hname (by decide)
  rw [loc_nmea_generate_pos, if_pos rfl, List.filter_append, hnone, List.append_nil]

theorem firstTwelve_eq (type : GnssSvType) (mask : BitVec 64) :
    firstTwelve type mask = svFields ((places mask).map (· + 1 + svIdOffsetOf type)) := by
  rw [firstTwelve, svFields_eq, List.length_map, ← List.map_take, List.map_map]
  rfl

/-- The first 12 satellites of the mask in 32 bits are those of the report. -/
theorem gsaRight_iff (htype : type ∈ constellations) :
    GsaRight ids (loc_nmea_generate_pos t (some ids) true) type ↔
      (ids.mask type ≠ 0#64 → (places (cacheMask (usedMasks (some ids)) type)).take 12 =
        (places (ids.mask type)).take 12) := by
  rw [GsaRight, filter_pos type]
  obtain ⟨b, hb⟩ := exists_block htype t ids
  rw [hb]
  refine imp_congr_right fun hused => ?_
  by_cases hsome : type = GNSS_SV_TYPE_GPS ∨ cacheMask (usedMasks (some ids)) type ≠ 0#32
  · obtain ⟨s, hs, -, -, hsats⟩ := @gsa_of_mask t (usedMasks (some ids)) type b htype hsome
    have hinj : Function.Injective (· + 1 + svIdOffsetOf type) := fun m n h => by
      simpa using h
    rw [hs]
    simp only [List.singleton_inj, exists_eq_left', hsats, firstTwelve_eq, svFields_inj,
      ← List.map_take, (List.map_injective_iff.mpr hinj).eq_iff]
  · push Not at hsome
    rw [gsa_of_empty htype hsome.1 hsome.2, hsome.2, places_zero, List.take_nil]
    refine iff_of_false (fun h => ?_) fun h => ?_
    · obtain ⟨s, hs, -⟩ := h
      cases hs
    · rw [eq_comm, List.take_eq_nil_iff, places_eq_nil_iff] at h
      exact h.elim (fun h12 => absurd h12 (by decide)) hused

theorem name_of_mem_gsaState {s : Sentence} (hs : s ∈ (gsaState t (some ids)).nmeaArraystr) :
    s.name = gsaName := by
  rw [gsaState, (foldl_gsaBlock t _ gsaBlocks _).1, List.nil_append, List.mem_flatMap] at hs
  obtain ⟨b, hb, hs⟩ := hs
  have htype := gsaBlocks_type hb
  by_cases hsome : b.1 = GNSS_SV_TYPE_GPS ∨ cacheMask (usedMasks (some ids)) b.1 ≠ 0#32
  · obtain ⟨s', hs', hname, -⟩ := @gsa_of_mask t (usedMasks (some ids)) b.1 b.2 htype hsome
    rw [hs', List.mem_singleton] at hs
    rw [hs, hname]
  · push Not at hsome
    rw [gsa_of_empty htype hsome.1 hsome.2] at hs
    cases hs

/-- The count in GGA is that of the masks in 32 bits. -/
theorem ggaRight_iff : GgaRight ids (loc_nmea_generate_pos t (some ids) true) ↔
    min (gsaState t (some ids)).svUsedCount 12 = min (usedCount ids) 12 := by
  have hgga : ∀ talker count, generateGGA t talker count ∈
      [generateVTG t talker, generateRMC t talker, generateGGA t talker count] :=
    fun _ _ => .tail _ (.tail _ (.head _))
  constructor
  · intro h
    have hcount := h _ (List.mem_append_right _ (hgga _ _)) (name_generateGGA ..) _
      (count_generateGGA ..) (padded_ne_nil 2 _)
    exact padded_injective hcount
  · intro h s hs hname count hfield _
    rcases List.mem_append.mp hs with hs | hs
    · exact absurd (hname.symm.trans (name_of_mem_gsaState hs)) (by decide)
    · simp only [List.mem_cons, List.not_mem_nil, or_false] at hs
      rcases hs with rfl | rfl | rfl
      · exact absurd hname (by rw [name_generateVTG]; decide)
      · exact absurd hname (by rw [name_generateRMC]; decide)
      · rw [count_generateGGA] at hfield
        rw [← Option.some.inj hfield, ← h]
        rfl

end

/-! ## When the sentences are right -/

/-- Nothing is lost of the first 12 satellites when the mask is cut. -/
def Short (mask : BitVec 64) : Prop :=
  (∀ j, 32 ≤ j → mask.getLsbD j = false) ∨ 12 ≤ (places (mask.setWidth 32)).length

/-- Two masks have the same first 12 satellites, the first one in its lower half. -/
def SameTwelve (mask mask' : BitVec 64) : Prop :=
  (places (mask.setWidth 32)).take 12 = (places mask').take 12

structure MasksFit (ids : GnssSvUsedInPosition) : Prop where
  gps : Short ids.gps_sv_used_ids_mask
  glo : Short ids.glo_sv_used_ids_mask
  gal : Short ids.gal_sv_used_ids_mask
  /-- The masks of QZSS and BeiDou have changed places. -/
  qzss : ids.qzss_sv_used_ids_mask ≠ 0#64 →
    SameTwelve ids.bds_sv_used_ids_mask ids.qzss_sv_used_ids_mask
  bds : ids.bds_sv_used_ids_mask ≠ 0#64 →
    SameTwelve ids.qzss_sv_used_ids_mask ids.bds_sv_used_ids_mask
  count : (∀ type ∈ constellations, ∀ j, 32 ≤ j → (ids.mask type).getLsbD j = false) ∨
    12 ≤ (constellations.map fun type => (places ((ids.mask type).setWidth 32)).length).sum

section
variable {ids : GnssSvUsedInPosition} {t : PosTexts}

theorem sameTwelve_self {mask : BitVec 64} : SameTwelve mask mask ↔ Short mask := by
  rw [SameTwelve, Short, places_split (show 32 ≤ 64 by decide) mask, List.take_append, eq_comm,
    List.append_right_eq_self, List.take_eq_nil_iff, ← filter_places_eq_nil_iff, or_comm]
  refine or_congr_right ?_
  omega

theorem used_imp_sameTwelve {mask : BitVec 64} :
    (mask ≠ 0#64 → SameTwelve mask mask) ↔ Short mask := by
  rw [sameTwelve_self]
  refine ⟨fun h => ?_, fun h _ => h⟩
  by_cases hzero : mask = 0#64
  · exact .inl fun j _ => by rw [hzero, BitVec.getLsbD_zero]
  · exact h hzero

theorem count_iff : min (gsaState t (some ids)).svUsedCount 12 = min (usedCount ids) 12 ↔
    (∀ type ∈ constellations, ∀ j, 32 ≤ j → (ids.mask type).getLsbD j = false) ∨
      12 ≤ (constellations.map fun type => (places ((ids.mask type).setWidth 32)).length).sum := by
  have hsplit : ∀ mask : BitVec 64, (places mask).length =
      (places (mask.setWidth 32)).length + ((places mask).filter (32 ≤ ·)).length := by
    intro mask
    rw [← List.length_append, ← places_split (by decide)]
  have hnone : ∀ type, (∀ j, 32 ≤ j → (ids.mask type).getLsbD j = false) ↔
      ((places (ids.mask type)).filter (32 ≤ ·)).length = 0 := by
    intro type
    rw [List.length_eq_zero_iff, filter_places_eq_nil_iff]
  rw [svUsedCount_gsaState, usedCount]
  simp only [hsplit, hnone]
  simp only [constellations, List.map_cons, List.map_nil, List.sum_cons, List.sum_nil,
    List.forall_mem_cons, List.not_mem_nil, false_imp_iff, implies_true, and_true, cacheMask,
    usedMasks, GnssSvUsedInPosition.mask]
  omega

theorem gsa_iff :
    (∀ type ∈ constellations, GsaRight ids (loc_nmea_generate_pos t (some ids) true) type) ↔
    Short ids.gps_sv_used_ids_mask ∧ Short ids.glo_sv_used_ids_mask ∧
      Short ids.gal_sv_used_ids_mask ∧
      (ids.qzss_sv_used_ids_mask ≠ 0#64 →
        SameTwelve ids.bds_sv_used_ids_mask ids.qzss_sv_used_ids_mask) ∧
      (ids.bds_sv_used_ids_mask ≠ 0#64 →
        SameTwelve ids.qzss_sv_used_ids_mask ids.bds_sv_used_ids_mask) := by
  have hall : ∀ P : GnssSvType → Prop, (∀ type ∈ constellations, P type) ↔
      P GNSS_SV_TYPE_GPS ∧ P GNSS_SV_TYPE_GLONASS ∧ P GNSS_SV_TYPE_GALILEO ∧ P GNSS_SV_TYPE_QZSS ∧
        P GNSS_SV_TYPE_BEIDOU := by
    intro P
    simp [constellations]
  rw [hall, gsaRight_iff (by decide), gsaRight_iff (by decide), gsaRight_iff (by decide),
    gsaRight_iff (by decide), gsaRight_iff (by decide)]
  exact and_congr used_imp_sameTwelve (and_congr used_imp_sameTwelve
    (and_congr used_imp_sameTwelve Iff.rfl))

/-- The blank sentences name no system and no number. -/
theorem filter_blankSentences (systemId : Nat) :
    blankSentences.filter (IsGsa systemId ·) = [] := by
  have hlast : ∀ s ∈ blankSentences, s.name = gsaName → s.fields.getLast? = some [] := by decide
  refine List.filter_eq_nil_iff.mpr fun s hs h => ?_
  obtain ⟨hname, hid⟩ := of_decide_eq_true h
  exact to_string_ne_nil systemId (Option.some.inj (hid.symm.trans (hlast s hs hname)))

theorem ggaRight_blank : GgaRight ids blankSentences := by
  have hblank : ∀ s ∈ blankSentences,
      s.name = bytesOf ['G', 'G', 'A'] → s.fields[6]? = some [] := by
    decide
  intro s hs hname count hcount hne
  exact absurd (Option.some.inj (hcount.symm.trans (hblank s hs hname))) hne

end

/-- **GSA and GGA.** For a report that sentences are made for, each constellation
with used satellites has its sentence with the first 12 of them, and GGA their
number, exactly if the cut and the exchange of masks change none of it. For any
other report only blank sentences are made. -/
theorem used_right_iff (t : PosTexts) (ids : GnssSvUsedInPosition) (generate_nmea : Bool) :
    ((∀ type ∈ constellations,
        GsaRight ids (loc_nmea_generate_pos t (some ids) generate_nmea) type) ∧
      GgaRight ids (loc_nmea_generate_pos t (some ids) generate_nmea)) ↔
    if generate_nmea then MasksFit ids else ∀ type ∈ constellations, ids.mask type = 0#64 := by
  cases generate_nmea with
  | true =>
    rw [if_pos rfl, ggaRight_iff, count_iff, gsa_iff]
    constructor
    · rintro ⟨⟨hgps, hglo, hgal, hqzss, hbds⟩, hcount⟩
      exact ⟨hgps, hglo, hgal, hqzss, hbds, hcount⟩
    · intro h
      exact ⟨⟨h.gps, h.glo, h.gal, h.qzss, h.bds⟩, h.count⟩
  | false =>
    rw [if_neg Bool.false_ne_true]
    constructor
    · intro h type htype
      by_contra hused
      obtain ⟨s, hs, -⟩ := h.1 type htype hused
      rw [loc_nmea_generate_pos, if_neg Bool.false_ne_true, filter_blankSentences] at hs
      cases hs
    · intro h
      exact ⟨fun type htype hused => absurd (h type htype) hused, ggaRight_blank⟩

/-- The texts of a position without values. -/
def exampleTexts : PosTexts :=
  ⟨[], [], none, none, none, none, none, none, none, false, false⟩

/-- Two satellites of BeiDou and nothing else. -/
def beidouIds : GnssSvUsedInPosition := ⟨0#64, 0#64, 0#64, 0x3#64, 0#64⟩

/-- The satellites of BeiDou come out under the system id of QZSS. -/
theorem beidou_as_qzss :
    ¬ GsaRight beidouIds (loc_nmea_generate_pos exampleTexts (some beidouIds) true)
      GNSS_SV_TYPE_BEIDOU := by
  intro h
  obtain ⟨s, hs, -⟩ := h (by decide)
  have hnone : (loc_nmea_generate_pos exampleTexts (some beidouIds) true).filter
      (IsGsa (systemIdOf GNSS_SV_TYPE_BEIDOU) ·) = [] := by decide +kernel
  rw [hnone] at hs
  cases hs

/-! ## The talker -/

/-- Some constellation whose blocks set the talker was used, in 32 bits. -/
def SetsTalker (ids : GnssSvUsedInPosition) : Prop :=
  ids.gps_sv_used_ids_mask.setWidth 32 ≠ 0#32 ∨ ids.glo_sv_used_ids_mask.setWidth 32 ≠ 0#32 ∨
    ids.gal_sv_used_ids_mask.setWidth 32 ≠ 0#32

/-- How many constellations were used, in 32 bits. -/
def usedConstellationsLow (ids : GnssSvUsedInPosition) : Nat :=
  constellations.countP fun type => (ids.mask type).setWidth 32 ≠ 0#32

section
variable {ids : GnssSvUsedInPosition} {t : PosTexts} {c : LocSvCacheInfo}

theorem combined_eq (c : LocSvCacheInfo) :
    c.combined = (constellations.map (cacheMask c)).countP fun mask => mask ≠ 0#32 := by
  simp only [LocSvCacheInfo.combined, constellations, List.map_cons, List.map_nil, List.countP_cons,
    List.countP_nil, cacheMask, decide_eq_true_eq]
  omega

/-- The exchange of two masks does not change the number. -/
theorem combined_usedMasks : (usedMasks (some ids)).combined = usedConstellationsLow ids := by
  have hperm : (constellations.map (cacheMask (usedMasks (some ids)))).Perm
      (constellations.map fun type => (ids.mask type).setWidth 32) := by
    exact .cons _ (.cons _ (.cons _ (.swap _ _ _)))
  rw [combined_eq, hperm.countP_eq, List.countP_map]
  rfl

/-- A block sets the talker if its constellation was used and is combined. -/
theorem talker_gsaBlock (s : GsaState) {b : GnssSvType × Bool} (hb : b ∈ gsaBlocks) :
    (gsaBlock t c s b).talker = if cacheMask c b.1 ≠ 0#32 ∧ b.2 = true then
      (if c.combined > 1 then talkerGN else ownTalker b.1) else s.talker := by
  obtain ⟨m, hm, hmeta⟩ := exists_meta (gsaBlocks_type hb) c b.2
  have hcount := @count_gsa t c b.1 b.2 (gsaBlocks_type hb)
  rw [hm] at hcount
  have hpos : (loc_nmea_generate_GSA t (some m)).2 > 0 ↔ cacheMask c b.1 ≠ 0#32 := by
    rw [hcount, gt_iff_lt, List.length_pos_iff, Ne, places_eq_nil_iff]
  rw [gsaBlock, hm]
  dsimp only
  by_cases hset : cacheMask c b.1 ≠ 0#32 ∧ b.2 = true
  · rw [if_pos hset, if_pos ⟨hpos.mpr hset.1, hset.2⟩, hmeta.talker]
    simp [hset.2]
  · rw [if_neg hset, if_neg fun h => hset ⟨hpos.mp h.1, h.2⟩]

/-- The talker is GN if a combined constellation was used together with another. -/
theorem talker_gsaState :
    (gsaState t (some ids)).talker = talkerGN ↔ 2 ≤ usedConstellationsLow ids ∧ SetsTalker ids := by
  have hown : ∀ type, ownTalker type ≠ talkerGN := by
    intro type
    cases type <;> decide
  have hstart : bytesOf ['G', 'P'] ≠ talkerGN := by decide
  rw [gsaState, gsaBlocks, List.foldl_cons, List.foldl_cons, List.foldl_cons, List.foldl_cons,
    List.foldl_cons, List.foldl_nil]
  rw [talker_gsaBlock _ (by decide), talker_gsaBlock _ (by decide), talker_gsaBlock _ (by decide),
    talker_gsaBlock _ (by decide), talker_gsaBlock _ (by decide), combined_usedMasks]
  simp only [Bool.false_eq_true, and_false, if_false, and_true, cacheMask, usedMasks]
  unfold SetsTalker
  by_cases hgn : usedConstellationsLow ids > 1
  · simp only [if_pos hgn]
    constructor
    · intro h
      refine ⟨hgn, ?_⟩
      by_contra hnone
      push Not at hnone
      rw [if_neg (not_not.mpr hnone.2.2), if_neg (not_not.mpr hnone.2.1),
        if_neg (not_not.mpr hnone.1)] at h
      exact hstart h
    · rintro ⟨-, hset⟩
      split_ifs with hgal hglo hgps
      · rfl
      · rfl
      · rfl
      · exact absurd hset (by simp [hgal, hglo, hgps])
  · simp only [if_neg hgn]
    refine iff_of_false ?_ fun h => hgn h.1
    split_ifs
    · exact hown _
    · exact hown _
    · exact hown _
    · exact hstart

/-- A constellation used in 32 bits was used. -/
theorem usedConstellationsLow_le : usedConstellationsLow ids ≤ usedConstellations ids := by
  refine List.countP_mono_left fun type _ h => ?_
  simp only [decide_eq_true_eq] at h ⊢
  exact fun hzero => h (by rw [hzero]; rfl)

theorem talkers_of_gsa {s : Sentence} (hs : s ∈ (gsaState t (some ids)).nmeaArraystr) :
    s.name ∉ [bytesOf ['V', 'T', 'G'], bytesOf ['R', 'M', 'C'], bytesOf ['G', 'G', 'A']] := by
  rw [name_of_mem_gsaState hs]
  decide

/-- The three sentences have one talker. -/
theorem talkersRight_pos : TalkersRight ids (loc_nmea_generate_pos t (some ids) true) ↔
    ((gsaState t (some ids)).talker = talkerGN ↔ 2 ≤ usedConstellations ids) := by
  constructor
  · intro h
    exact h (generateVTG t _) (List.mem_append_right _ (.head _)) (.head _)
  · intro h s hs hname
    rcases List.mem_append.mp hs with hs | hs
    · exact absurd hname (talkers_of_gsa hs)
    · simp only [List.mem_cons, List.not_mem_nil, or_false] at hs
      rcases hs with rfl | rfl | rfl <;> exact h

theorem talkersRight_blank :
    TalkersRight ids blankSentences ↔ ¬ 2 ≤ usedConstellations ids := by
  have hblank : ∀ s ∈ blankSentences,
      s.name ∈ [bytesOf ['V', 'T', 'G'], bytesOf ['R', 'M', 'C'], bytesOf ['G', 'G', 'A']] →
        s.talker ≠ talkerGN := by decide
  constructor
  · intro h htwo
    have hvtg : ∃ s ∈ blankSentences, s.name = bytesOf ['V', 'T', 'G'] := by decide
    obtain ⟨s, hs, hname⟩ := hvtg
    exact hblank s hs (hname ▸ .head _) ((h s hs (hname ▸ .head _)).mpr htwo)
  · intro h s hs hname
    exact iff_of_false (hblank s hs hname) h

end

/-- **The talker of a combined solution.** VTG, RMC and GGA have the talker GN
exactly if two or more constellations were used, exactly if in that case
sentences are made for the report, two of the constellations have a satellite in
the lower half of their mask, and one of GPS, GLONASS and Galileo has. -/
theorem talkers_right_iff (t : PosTexts) (ids : GnssSvUsedInPosition) (generate_nmea : Bool) :
    TalkersRight ids (loc_nmea_generate_pos t (some ids) generate_nmea) ↔
      (2 ≤ usedConstellations ids →
        generate_nmea = true ∧ 2 ≤ usedConstellationsLow ids ∧ SetsTalker ids) := by
  cases generate_nmea with
  | true =>
    rw [talkersRight_pos, talker_gsaState]
    constructor
    · exact fun h htwo => ⟨rfl, h.mpr htwo⟩
    · exact fun h => ⟨fun hgn => hgn.1.trans usedConstellationsLow_le, fun htwo => (h htwo).2⟩
  | false =>
    refine talkersRight_blank.trans ?_
    exact ⟨fun h htwo => absurd htwo h, fun h htwo => Bool.false_ne_true (h htwo).1⟩

/-- QZSS and BeiDou together leave the talker at GP. -/
theorem qzss_beidou_not_combined :
    ¬ TalkersRight ⟨0#64, 0#64, 0#64, 0x1#64, 0x1#64⟩
      (loc_nmea_generate_pos exampleTexts (some ⟨0#64, 0#64, 0#64, 0x1#64, 0x1#64⟩) true) := by
  intro h
  have hgn := (talker_gsaState.mp ((talkersRight_pos.mp h).mpr (by decide))).2
  exact absurd hgn (by unfold SetsTalker; decide)

end DeviceHal.Utils.NmeaUsed
