import DeviceHal.Core.DebugNmea
import DeviceHal.Utils.LocNmea

/-! # Malformed debug sentences

A parser that finds too few fields returns without telling anyone, and no parser
looks at the checksum: `setNmeaString` stores a report for every sentence whose
tag it knows, built from what the record's memory held. -/
namespace DeviceHal.Core.DebugRejects
open DeviceHal.Lib.CText DeviceHal.Core.NetworkInfo DeviceHal.Core.ReportHistory
open DeviceHal.Core.DebugNmea DeviceHal.Utils.LocNmea

variable {τ F : Type}

/-! ## What a sentence should be -/

/-- The text has a star, the fields that the parser needs before it, and behind it the two
hex digits of the XOR of what stands between the dollar sign and the star. -/
structure WellFormed (s : DebugSentence) (text : Bytes) : Prop where
  star : 42 ∈ text
  fields : s.parser.minFields ≤ (text.takeWhile (· ≠ 42)).count 44 + 1
  sum : ∃ high low rest, text.dropWhile (· ≠ 42) = 42 :: high :: low :: rest ∧
    digitVal high < 16 ∧ digitVal low < 16 ∧
    16 * digitVal high + digitVal low = (checksum (text.takeWhile (· ≠ 42)).tail).toNat

/-- The tag is the one of the sentence, the rest is wrong. -/
def Malformed (s : DebugSentence) (text : Bytes) : Prop := s.tag <+: text ∧ ¬ WellFormed s text

/-! ## Tags -/

theorem tag_of_mem {s : DebugSentence} (hs : s ∈ sentences) :
    s.tag.length = 6 ∧ 0 ∉ s.tag ∧ s.tag.take 4 = bytesOf ['$', 'P', 'Q', 'W'] := by
  have hall : ∀ s ∈ sentences,
      s.tag.length = 6 ∧ 0 ∉ s.tag ∧ s.tag.take 4 = bytesOf ['$', 'P', 'Q', 'W'] := by decide
  exact hall s hs

/-- No two branches have one tag. -/
theorem eq_of_tag_eq {s t : DebugSentence} (hs : s ∈ sentences) (ht : t ∈ sentences)
    (htag : s.tag = t.tag) : s = t := by
  have hnodup : (sentences.map DebugSentence.tag).Nodup := by decide
  exact List.inj_on_of_nodup_map hnodup hs ht htag

theorem strncmp_tag_iff {s : DebugSentence} (hs : s ∈ sentences) (data : Bytes) :
    strncmp data s.tag 6 = 0 ↔ s.tag <+: data := by
  obtain ⟨hlen, hnul, -⟩ := tag_of_mem hs
  rw [← hlen]
  exact strncmp_eq_zero_iff hnul data

/-- The branch that is taken is the one of the tag. -/
theorem find_sentence {s : DebugSentence} (hs : s ∈ sentences) {data : Bytes}
    (htag : s.tag <+: data) : sentences.find? (fun s => strncmp data s.tag 6 = 0) = some s := by
  have hcmp := (strncmp_tag_iff hs data).mpr htag
  cases hfind : sentences.find? (fun s => strncmp data s.tag 6 = 0) with
  | none =>
    have hnone := List.find?_eq_none.mp hfind s hs
    exact absurd (decide_eq_true hcmp) hnone
  | some t =>
    have ht := List.mem_of_find?_eq_some hfind
    have htcmp : strncmp data t.tag 6 = 0 := by simpa using List.find?_some hfind
    have htpre := (strncmp_tag_iff ht data).mp htcmp
    have hlen : t.tag.length = s.tag.length :=
      (tag_of_mem ht).1.trans (tag_of_mem hs).1.symm
    have heq := (List.prefix_of_prefix_length_le htpre htag hlen.le).eq_of_length hlen
    rw [eq_of_tag_eq ht hs heq]

/-- A sentence with a known tag is a debug sentence if its length is in range. -/
theorem isDebug_of_tag {s : DebugSentence} (hs : s ∈ sentences) {data : Bytes}
    (htag : s.tag <+: data) (len : Nat) :
    loc_nmea_is_debug data len = (6 ≤ len && len ≤ 4096) := by
  obtain ⟨rest, rfl⟩ := htag
  obtain ⟨hlen, -, hdollar⟩ := tag_of_mem hs
  have htake : (s.tag ++ rest).take 4 = bytesOf ['$', 'P', 'Q', 'W'] := by
    rw [List.take_append_of_le_length (by omega), hdollar]
  rw [loc_nmea_is_debug, htake]
  simp

/-! ## What is stored -/

section Store
variable [FloatEq F]

theorem store_eq_self_iff (now : ReportList → τ) (nmea : Record F)
    (mCache : SystemStatusReports τ F) (type : ReportType) :
    store now nmea mCache type = mCache ↔
      Settled (mCache type.list)
        (SystemStatusItem.new (now type.list) (type.report nmea)) := by
  rw [← setIteminReport_eq_self_iff]
  constructor
  · intro h
    have hlist := congrFun h type.list
    rwa [store, if_pos rfl] at hlist
  · intro h
    funext list
    unfold store
    split
    · rename_i hlist
      rw [h, hlist]
    · rfl

theorem foldl_store_of_not_mem (now : ReportList → τ) (nmea : Record F) {list : ReportList}
    (types : List ReportType) (hlist : list ∉ types.map ReportType.list)
    (mCache : SystemStatusReports τ F) :
    types.foldl (store now nmea) mCache list = mCache list := by
  induction types generalizing mCache with
  | nil => rfl
  | cons type types ih =>
    rw [List.map_cons, List.mem_cons, not_or] at hlist
    rw [List.foldl_cons, ih hlist.2, store, if_neg hlist.1]

/-- Reports of different lists leave the cache alone exactly if each of them does. -/
theorem foldl_store_eq_self_iff (now : ReportList → τ) (nmea : Record F)
    (types : List ReportType) (hlists : (types.map ReportType.list).Nodup)
    (mCache : SystemStatusReports τ F) :
    types.foldl (store now nmea) mCache = mCache ↔
      ∀ type ∈ types, Settled (mCache type.list)
        (SystemStatusItem.new (now type.list) (type.report nmea)) := by
  induction types generalizing mCache with
  | nil => simp
  | cons type types ih =>
    rw [List.map_cons, List.nodup_cons] at hlists
    rw [List.foldl_cons, List.forall_mem_cons, ← store_eq_self_iff]
    constructor
    · intro h
      -- the later reports go to other lists: the first one has changed nothing either
      have hfirst : store now nmea mCache type = mCache := by
        rw [store_eq_self_iff, ← setIteminReport_eq_self_iff]
        have hlist := congrFun h type.list
        rwa [foldl_store_of_not_mem now nmea types hlists.1, store, if_pos rfl] at hlist
      rw [hfirst] at h
      exact ⟨hfirst, (ih hlists.2 mCache).mp h⟩
    · rintro ⟨hfirst, hrest⟩
      rw [hfirst]
      exact (ih hlists.2 mCache).mpr hrest

variable [FloatText F]

/-- What a sentence with a known tag does, whatever follows the tag. -/
theorem setNmeaString_of_tag {s : DebugSentence} (hs : s ∈ sentences) {data : Bytes}
    (htag : s.tag <+: data) (len : Nat) (now : ReportList → τ) (garbage : Record F)
    (mCache : SystemStatusReports τ F) :
    (setNmeaString now garbage mCache data len).2 = mCache ↔
      len < 6 ∨ 4096 < len ∨ ∀ type ∈ s.reports, Settled (mCache type.list)
        (SystemStatusItem.new (now type.list) (type.report (s.record data len garbage))) := by
  have hlists : ∀ s ∈ sentences, (s.reports.map ReportType.list).Nodup := by decide
  rw [← foldl_store_eq_self_iff now _ s.reports (hlists s hs), setNmeaString,
    isDebug_of_tag hs htag, find_sentence hs htag]
  by_cases hlen : 6 ≤ len ∧ len ≤ 4096
  · rw [if_neg (by simpa using hlen)]
    constructor
    · exact fun h => .inr (.inr h)
    · rintro (h | h | h)
      · omega
      · omega
      · exact h
  · rw [if_pos (by simp; omega)]
    exact iff_of_true rfl (by omega)

/-- **A malformed sentence leaves the report cache alone exactly when** it is too long (or
shorter than its tag), or the reports that it makes are in the cache already, with the very
clock reading of this call. -/
theorem malformed_rejected_iff (now : ReportList → τ) (garbage : Record F)
    (mCache : SystemStatusReports τ F) (data : Bytes) (len : Nat) :
    (∀ s ∈ sentences, Malformed s (cstr data) →
        (setNmeaString now garbage mCache data len).2 = mCache) ↔
      ∀ s ∈ sentences, Malformed s (cstr data) →
        len < 6 ∨ 4096 < len ∨ ∀ type ∈ s.reports, Settled (mCache type.list)
          (SystemStatusItem.new (now type.list) (type.report (s.record data len garbage))) := by
  refine forall₃_congr fun s hs hmal => ?_
  have htag := (prefix_cstr_iff (tag_of_mem hs).2.1 data).mp hmal.1
  exact setNmeaString_of_tag hs htag len now garbage mCache

end Store

/-! ## A tag and nothing else -/

/-- The record of `$PQWP6` is memory that nothing wrote, and it becomes a report; a wrong
checksum is no obstacle either. -/
theorem unparsed_report_stored :
    let tagOnly := bytesOf ['$', 'P', 'Q', 'W', 'P', '6']
    let wrongSum := tagOnly ++ bytesOf [',', '0', ',', '1', '*', '0', '0']
    let garbage : Record Int := fun _ => .int 57005
    let empty : SystemStatusReports Nat Int := fun _ => []
    (PQWP6 ∈ sentences ∧ Malformed PQWP6 (cstr tagOnly) ∧ Malformed PQWP6 (cstr wrongSum)) ∧
      (setNmeaString (fun _ => 7) garbage empty tagOnly 6).2 .mPdr =
        [⟨7, 7, ⟨true, [.int 57005]⟩⟩] ∧
      (setNmeaString (fun _ => 7) garbage empty wrongSum 13).2 .mPdr =
        [⟨7, 7, ⟨true, [.int 1]⟩⟩] ∧
      (setNmeaString (fun _ => 7) garbage empty tagOnly 6).2 ≠ empty := by
  refine ⟨⟨by simp [sentences], ⟨by decide, fun h => ?_⟩, by decide, fun h => ?_⟩, by decide,
    by decide, ?_⟩
  · exact absurd h.star (by decide)
  · obtain ⟨high, low, rest, htext, -, -, hsum⟩ := h.sum
    have hstar : [42, 48, 48] = 42 :: high :: low :: rest := htext
    injection hstar with _ hstar
    injection hstar with hhigh hstar
    injection hstar with hlow
    rw [← hhigh, ← hlow] at hsum
    exact absurd hsum (by decide)
  · intro h
    have hpdr := congrFun h .mPdr
    exact absurd hpdr (by decide)

end DeviceHal.Core.DebugRejects
