import DeviceHal.Utils.LocNmea
import Mathlib.Tactic

/-! # Satellites in view

`loc_nmea_generate_sv` counts the satellites of each constellation in one pass,
and prints them in another that goes through the whole report once for each
constellation, four satellites to a sentence. The sentences of a constellation
are a partition of its satellites, as the two passes agree. -/
namespace DeviceHal.Utils.NmeaInView
open DeviceHal.Lib.CText DeviceHal.Gnss.SvTypes DeviceHal.Utils.LocNmea
open GnssSvType

section
variable {F : Type} (ops : FloatOps F)

/-- The satellites of a type, in the order of the report. -/
def ofType (type : GnssSvType) (svs : List (GnssSv F)) : List (GnssSv F) :=
  svs.filter (type = ·.type)

/-- Sentence `number` of `total`, with the satellites of one group. -/
def gsvSentence (type : GnssSvType) (total n number : Nat) (group : List (GnssSv F)) : Sentence :=
  ⟨ownTalker type, bytesOf ['G', 'S', 'V'],
    [to_string total, to_string number, padded 2 n] ++
      group.flatMap (svBlock ops (svIdOffsetOf type)) ++ [to_string (signalIdOf type)]⟩

/-- The sentence without satellites. -/
def blankSentence (type : GnssSvType) : Sentence :=
  ⟨ownTalker type, bytesOf ['G', 'S', 'V'],
    [bytesOf ['1'], bytesOf ['1'], bytesOf ['0'], to_string (signalIdOf type)]⟩

/-! ## What the sentences say -/

/-- Four fields that say the id of a satellite, with the offset of its
constellation, its elevation and azimuth, and its strength if it has one. -/
structure BlockOf (type : GnssSvType) (sv : GnssSv F) (block : List Bytes) : Prop where
  length : block.length = 4
  id : ∀ text ∈ block[0]?, Denotes text (sv.svId.toNat + svIdOffsetOf type)
  elevation : ∀ text ∈ block[1]?, DenotesInt text (ops.toInt sv.elevation)
  azimuth : ∀ text ∈ block[2]?, DenotesInt text (ops.toInt sv.azimuth)
  strength : ∀ text ∈ block[3]?,
    if ops.positive sv.cN0Dbhz then DenotesInt text (ops.toInt sv.cN0Dbhz) else text = []

/-- A GSV sentence says its place among all, how many satellites there are, and
the satellites of its group in their order. -/
structure SentenceOf (type : GnssSvType) (total n number : Nat) (group : List (GnssSv F))
    (s : Sentence) : Prop where
  talker : s.talker = ownTalker type
  name : s.name = bytesOf ['G', 'S', 'V']
  fields : ∃ (header last : List Bytes) (blocks : List (List Bytes)),
    s.fields = header ++ blocks.flatten ++ last ∧
      List.Forall₂ Denotes header [total, number, n] ∧
      List.Forall₂ (BlockOf ops type) group blocks ∧
      List.Forall₂ Denotes last [signalIdOf type]

/-- The sentences of one constellation partition its satellites, and say which
one a block is of. -/
structure GsvRight (type : GnssSvType) (svs : List (GnssSv F)) (out : List Sentence) : Prop where
  blank : ofType type svs = [] → out = [blankSentence type]
  groups : ofType type svs ≠ [] → ∃ groups : List (List (GnssSv F)),
    groups.flatten = ofType type svs ∧ (∀ g ∈ groups, 1 ≤ g.length ∧ g.length ≤ 4) ∧
    groups.length = ((ofType type svs).length + 3) / 4 ∧ out.length = groups.length ∧
    ∀ k g s, groups[k]? = some g → out[k]? = some s →
      SentenceOf ops type groups.length (ofType type svs).length (k + 1) g s
  apart : ∀ sv sv' block, BlockOf ops type sv block → BlockOf ops type sv' block →
    sv.svId = sv'.svId ∧ ops.toInt sv.elevation = ops.toInt sv'.elevation ∧
      ops.toInt sv.azimuth = ops.toInt sv'.azimuth

variable {ops}

theorem blockOf_svBlock (type : GnssSvType) (sv : GnssSv F) :
    BlockOf ops type sv (svBlock ops (svIdOffsetOf type) sv) where
  length := rfl
  id text ht := by
    obtain rfl := Option.mem_some.mp ht
    exact denotes_padded 2 _
  elevation text ht := by
    obtain rfl := Option.mem_some.mp ht
    exact denotesInt_paddedInt 2 _
  azimuth text ht := by
    obtain rfl := Option.mem_some.mp ht
    exact denotesInt_paddedInt 3 _
  strength text ht := by
    obtain rfl := Option.mem_some.mp ht
    split
    · exact denotesInt_paddedInt 2 _
    · rfl

/-- Satellites with another id, elevation or azimuth have another block. -/
theorem eq_of_blockOf {type : GnssSvType} {sv sv' : GnssSv F} {block : List Bytes}
    (h : BlockOf ops type sv block) (h' : BlockOf ops type sv' block) :
    sv.svId = sv'.svId ∧ ops.toInt sv.elevation = ops.toInt sv'.elevation ∧
      ops.toInt sv.azimuth = ops.toInt sv'.azimuth := by
  obtain ⟨id, elevation, azimuth, strength, rfl⟩ : ∃ a b c d, block = [a, b, c, d] :=
    List.length_eq_four.mp h.length
  have hid := (h.id id rfl).value.symm.trans (h'.id id rfl).value
  exact ⟨UInt16.toNat_inj.mp (Nat.add_right_cancel hid),
    (h.elevation elevation rfl).unique (h'.elevation elevation rfl),
    (h.azimuth azimuth rfl).unique (h'.azimuth azimuth rfl)⟩

theorem sentenceOf_gsvSentence (type : GnssSvType) (total n number : Nat)
    (group : List (GnssSv F)) :
    SentenceOf ops type total n number group (gsvSentence ops type total n number group) where
  talker := rfl
  name := rfl
  fields := by
    refine ⟨_, _, group.map (svBlock ops (svIdOffsetOf type)), rfl, ?_, ?_, ?_⟩
    · exact .cons (denotes_to_string total) (.cons (denotes_to_string number)
        (.cons (denotes_padded 2 n) .nil))
    · rw [List.forall₂_map_right_iff, List.forall₂_same]
      exact fun sv _ => blockOf_svBlock type sv
    · exact .cons (denotes_to_string _) .nil

variable (ops)

/-! ## The two passes -/

section
variable {type : GnssSvType} {shift : IntShift}

theorem cacheCount_countSv (htype : type ∈ constellations) (c : LocSvCacheInfo) (sv : GnssSv F) :
    cacheCount (countSv shift c sv) type = cacheCount c type + if type = sv.type then 1 else 0 := by
  unfold countSv
  cases hsv : sv.type <;> cases type <;> first
    | rfl
    | exact absurd htype (by decide)

theorem cacheCount_foldl (htype : type ∈ constellations) (c : LocSvCacheInfo)
    (svs : List (GnssSv F)) :
    cacheCount (svs.foldl (countSv shift) c) type =
      cacheCount c type + (ofType type svs).length := by
  induction svs generalizing c with
  | nil => rfl
  | cons sv svs ih =>
    rw [List.foldl_cons, ih, cacheCount_countSv htype, ofType, ofType]
    by_cases hsv : type = sv.type
    · rw [if_pos hsv, List.filter_cons_of_pos (by simpa using hsv), List.length_cons]
      omega
    · rw [if_neg hsv, List.filter_cons_of_neg (by simpa using hsv), Nat.add_zero]

/-- The inner loop prints the next satellites of the type and leaves the others. -/
theorem printSvs_spec (m : LocNmeaSvMeta) (room : Nat) (rest : List (GnssSv F)) :
    (printSvs ops m room rest).1 =
      ((ofType m.svType rest).take room).flatMap (svBlock ops m.svIdOffset) ∧
    ofType m.svType (printSvs ops m room rest).2 = (ofType m.svType rest).drop room := by
  induction rest generalizing room with
  | nil =>
    cases room with
    | zero => exact ⟨rfl, rfl⟩
    | succ room => exact ⟨rfl, rfl⟩
  | cons sv rest ih =>
    cases room with
    | zero => exact ⟨rfl, rfl⟩
    | succ room =>
      rw [printSvs]
      by_cases htype : m.svType = sv.type
      · obtain ⟨hfields, hrest⟩ := ih room
        have hcons : ofType m.svType (sv :: rest) = sv :: ofType m.svType rest :=
          List.filter_cons_of_pos (by simpa using htype)
        rw [if_pos htype, hcons, List.take_succ_cons, List.flatMap_cons, List.drop_succ_cons]
        exact ⟨by rw [← hfields], hrest⟩
      · have hskip : ofType m.svType (sv :: rest) = ofType m.svType rest :=
          List.filter_cons_of_neg (by simpa using htype)
        rw [if_neg htype, hskip]
        exact ih (room + 1)

variable {m : LocNmeaSvMeta} {c : LocSvCacheInfo}

/-- The outer loop, if its sentences are just as many as the satellites need. -/
theorem printGSV_spec (hmeta : MetaOf c type false m) (total left number : Nat)
    (rest : List (GnssSv F)) (hfits : (ofType type rest).length ≤ 4 * left)
    (hneeds : 4 * left < (ofType type rest).length + 4) :
    ∃ groups : List (List (GnssSv F)), groups.flatten = ofType type rest ∧
      (∀ g ∈ groups, 1 ≤ g.length ∧ g.length ≤ 4) ∧ groups.length = left ∧
      printGSV ops m total left number rest = groups.mapIdx fun k g =>
        gsvSentence ops type total m.svCount (number + k) g := by
  induction left generalizing number rest with
  | zero =>
    have hnone : ofType type rest = [] := List.length_eq_zero_iff.mp (by omega)
    exact ⟨[], hnone.symm, fun _ hg => (by cases hg), rfl, rfl⟩
  | succ left ih =>
    obtain ⟨hfields, hrest⟩ := printSvs_spec ops m 4 rest
    rw [hmeta.svType] at hfields hrest
    have hlen : (ofType type (printSvs ops m 4 rest).2).length = (ofType type rest).length - 4 := by
      rw [hrest, List.length_drop]
    obtain ⟨groups, hflat, hsizes, hcount, hsentences⟩ :=
      ih (number + 1) (printSvs ops m 4 rest).2 (by omega) (by omega)
    refine ⟨(ofType type rest).take 4 :: groups, ?_, ?_, ?_, ?_⟩
    · rw [List.flatten_cons, hflat, hrest, List.take_append_drop]
    · intro g hg
      rcases List.mem_cons.mp hg with rfl | hg
      · rw [List.length_take]
        omega
      · exact hsizes g hg
    · rw [List.length_cons, hcount]
    · rw [printGSV, List.mapIdx_cons]
      dsimp only
      rw [hsentences, hfields, hmeta.svIdOffset, hmeta.signalId, hmeta.talker]
      have hnumber : ∀ k, number + 1 + k = number + (k + 1) := by omega
      simp only [hnumber]
      rfl

theorem gsvRight_block (htype : type ∈ constellations) (svNotify : GnssSvNotification F)
    (hcount : cacheCount c type = (ofType type svNotify.gnssSvs).length) :
    GsvRight ops type svNotify.gnssSvs (gsvBlock ops svNotify c type) := by
  obtain ⟨m, hm, hmeta⟩ := exists_meta htype c false
  have hn := hmeta.svCount.trans hcount
  have htalker : m.talker = ownTalker type := hmeta.talker.trans (if_neg (by simp))
  rw [gsvBlock, hm]
  dsimp only
  rw [loc_nmea_generate_GSV]
  refine ⟨?_, ?_, fun _ _ _ => eq_of_blockOf⟩
  · intro hnone
    rw [if_pos (by rw [hn, hnone]; rfl), htalker, hmeta.signalId]
    rfl
  · intro hsome
    have hpos := List.length_pos_iff.mpr hsome
    have htotal : m.svCount / 4 + (if m.svCount % 4 ≠ 0 then 1 else 0) =
        ((ofType type svNotify.gnssSvs).length + 3) / 4 := by
      rw [hn]
      split <;> omega
    rw [if_neg (by omega), htotal]
    obtain ⟨groups, hflat, hsizes, hlen, hsentences⟩ := printGSV_spec ops hmeta
      (((ofType type svNotify.gnssSvs).length + 3) / 4)
      (((ofType type svNotify.gnssSvs).length + 3) / 4) 1 svNotify.gnssSvs (by omega) (by omega)
    dsimp only
    rw [hsentences, hn]
    refine ⟨groups, hflat, hsizes, hlen, List.length_mapIdx, fun k g s hg hs => ?_⟩
    rw [List.getElem?_mapIdx, hg, Option.map_some, Option.some_inj] at hs
    rw [← hs, hlen, Nat.add_comm 1]
    exact sentenceOf_gsvSentence type _ _ _ g

end

/-- **Satellites in view.** The sentences are those of the five constellations
one after the other, and those of each partition its satellites. -/
theorem gsv_partition (shift : IntShift) (svNotify : GnssSvNotification F) :
    ∃ parts : GnssSvType → List Sentence,
      loc_nmea_generate_sv shift ops svNotify = constellations.flatMap parts ∧
      ∀ type ∈ constellations, GsvRight ops type svNotify.gnssSvs (parts type) := by
  refine ⟨_, rfl, fun type htype => gsvRight_block ops htype svNotify ?_⟩
  rw [cacheCount_foldl htype]
  cases type <;> simp [cacheCount, LocSvCacheInfo.zero]

end

end DeviceHal.Utils.NmeaInView
