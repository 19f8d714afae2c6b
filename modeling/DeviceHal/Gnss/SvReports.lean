import DeviceHal.Gnss.SvTypes
import Mathlib.Tactic

/-! # Satellite reports

`reportPosition` keeps the masks of the satellites that a position was computed
with, and `reportSv` marks these satellites in the next report. The bit of a
satellite is made by a shift in 32 bits, and a mark is set but never cleared. -/
namespace DeviceHal.Gnss.SvReports
open DeviceHal.Lib.BitMask DeviceHal.Gnss.SvTypes
open GnssSvType

def QZSS_SV_PRN_MIN : UInt16 := 193

/-- The adapter as far as the masks go. -/
structure SvAdapter where
  mGnssSvIdUsedInPosAvail : Bool
  mGnssSvIdUsedInPosition : GnssSvUsedInPosition
deriving DecidableEq

namespace SvAdapter

/-- `reported` is what `needReport` says, `ids` is there if the location has used data. -/
def reportPosition (a : SvAdapter) (reported : Bool) (ids : Option GnssSvUsedInPosition) :
    SvAdapter :=
  match reported, ids with
  | true, some ids => ⟨true, ids⟩
  | _, _ => a

section
variable {F : Type} (shift : IntShift)

/-- There are masks for one report. -/
def svUsedIdMask (a : SvAdapter) (type : GnssSvType) : BitVec 64 :=
  if a.mGnssSvIdUsedInPosAvail then a.mGnssSvIdUsedInPosition.mask type else 0#64

/-- The framework expects the ids of QZSS as they are, `LocApi` counts them from 1. -/
def withSvId (sv : GnssSv F) : GnssSv F :=
  if sv.type = GNSS_SV_TYPE_QZSS then { sv with svId := sv.svId + (QZSS_SV_PRN_MIN - 1) } else sv

/-- One satellite of the report. -/
def reportOne (a : SvAdapter) (sv : GnssSv F) : GnssSv F :=
  let gnssSvId := sv.svId.toInt16.toInt
  if a.svUsedIdMask sv.type &&& (shift.shl (gnssSvId - 1)).signExtend 64 ≠ 0#64 then
    { withSvId sv with
      gnssSvOptionsMask := (withSvId sv).gnssSvOptionsMask ||| GNSS_SV_OPTIONS_USED_IN_FIX_BIT }
  else withSvId sv

@[simp] theorem gnssSvOptionsMask_withSvId (sv : GnssSv F) :
    (withSvId sv).gnssSvOptionsMask = sv.gnssSvOptionsMask := by
  rw [withSvId]
  split <;> rfl

/-- The report that goes to the clients. -/
def reportSv (a : SvAdapter) (svNotify : GnssSvNotification F) : SvAdapter × GnssSvNotification F :=
  ({ a with mGnssSvIdUsedInPosAvail := false },
    ⟨svNotify.gnssSvs.map (a.reportOne shift), by
      rw [List.length_map]
      exact svNotify.count_le⟩)

end

end SvAdapter

/-! ## The mark of one satellite -/

section
variable {F : Type} {shift : IntShift} {ids : GnssSvUsedInPosition} {sv : GnssSv F}

/-- The satellite as `LocApi` delivers it. -/
structure Delivered (sv : GnssSv F) : Prop where
  type : sv.type ∈ constellations
  pos : 1 ≤ sv.svId.toNat
  le : sv.svId.toNat ≤ 64

/-- The satellite was used for the position. -/
def Used (ids : GnssSvUsedInPosition) (sv : GnssSv F) : Prop :=
  (ids.mask sv.type).getLsbD (sv.svId.toNat - 1) = true

def Marked (sv : GnssSv F) : Prop := sv.gnssSvOptionsMask.getLsbD usedInFixPlace = true

/-- `after` is `before` with the mark of a used satellite. -/
structure FlagRight (ids : GnssSvUsedInPosition) (before after : GnssSv F) : Prop where
  used : Marked after ↔ Used ids before
  others : ∀ j, j ≠ usedInFixPlace →
    after.gnssSvOptionsMask.getLsbD j = before.gnssSvOptionsMask.getLsbD j

/-- The shifted bit meets the mask of the satellite's constellation. -/
def Hit (shift : IntShift) (ids : GnssSvUsedInPosition) (sv : GnssSv F) : Prop :=
  ids.mask sv.type &&& (shift.shl ((sv.svId.toNat : Int) - 1)).signExtend 64 ≠ 0#64

instance (sv : GnssSv F) : Decidable (Hit shift ids sv) := inferInstanceAs (Decidable (_ ≠ _))

/-- When a satellite comes out right, whatever a machine gives for a shift that
is undefined. -/
structure FlagFits (ids : GnssSvUsedInPosition) (sv : GnssSv F) : Prop where
  /-- A satellite that was not used comes without the mark. -/
  clear : ¬ Used ids sv → ¬ Marked sv
  /-- The bit of id 32 is the sign, which fills the upper half. -/
  sign : ¬ Used ids sv → sv.svId.toNat = 32 →
    ∀ j, 32 ≤ j → (ids.mask sv.type).getLsbD j = false
  /-- Beyond, the shift is undefined, and does no harm only to a satellite that
  is marked already, or if there is nothing to be met. -/
  beyond : 32 < sv.svId.toNat → Marked sv ∨ ids.mask sv.type = 0#64

theorem getLsbD_signExtend_bit {n j : Nat} (hn : n < 32) (hj : j < 64) :
    ((bit 32 n).signExtend 64).getLsbD j =
      (decide (n = j) || (decide (n = 31) && decide (31 ≤ j))) := by
  rw [BitVec.getLsbD_signExtend, BitVec.msb_eq_getLsbD_last, getLsbD_bit hn, getLsbD_bit hn]
  rw [Bool.eq_iff_iff]
  by_cases hlow : j < 32
  · simp [hlow, hj]
    omega
  · simp [hlow, hj]
    omega

/-- Bits of a mask that the shifted bit meets. -/
theorem and_signExtend_bit_iff {mask : BitVec 64} {n : Nat} (hn : n < 32) :
    mask &&& (bit 32 n).signExtend 64 ≠ 0#64 ↔
      mask.getLsbD n = true ∨ n = 31 ∧ ∃ j, 32 ≤ j ∧ mask.getLsbD j = true := by
  constructor
  · intro hne
    by_contra hnone
    refine hne (BitVec.eq_of_getLsbD_eq fun j hj => ?_)
    rw [BitVec.getLsbD_and, getLsbD_signExtend_bit hn hj, BitVec.getLsbD_zero]
    by_contra hset
    rw [Bool.not_eq_false, Bool.and_eq_true, Bool.or_eq_true, Bool.and_eq_true, decide_eq_true_eq,
      decide_eq_true_eq, decide_eq_true_eq] at hset
    obtain ⟨hmask, hbit⟩ := hset
    by_cases hnj : n = j
    · exact hnone (.inl (hnj ▸ hmask))
    · exact hnone (.inr ⟨by omega, j, by omega, hmask⟩)
  · intro hsome hzero
    have hat : ∀ j, j < 64 → mask.getLsbD j = true → ¬ (n = j ∨ n = 31 ∧ 31 ≤ j) := by
      intro j hj hmask hbit
      have hclear := congrArg (·.getLsbD j) hzero
      simp only [BitVec.getLsbD_and, getLsbD_signExtend_bit hn hj, hmask, BitVec.getLsbD_zero,
        Bool.true_and, Bool.or_eq_false_iff, Bool.and_eq_false_iff,
        decide_eq_false_iff_not] at hclear
      omega
    rcases hsome with hmask | ⟨h31, j, hj, hmask⟩
    · exact hat n (by omega) hmask (.inl rfl)
    · exact hat j (BitVec.lt_of_getLsbD hmask) hmask (.inr ⟨h31, by omega⟩)

theorem hit_iff (h : Delivered sv) (hle : sv.svId.toNat ≤ 32) :
    Hit shift ids sv ↔ Used ids sv ∨
      sv.svId.toNat = 32 ∧ ∃ j, 32 ≤ j ∧ (ids.mask sv.type).getLsbD j = true := by
  have hpos := h.pos
  have hcast : (sv.svId.toNat : Int) - 1 = ((sv.svId.toNat - 1 : Nat) : Int) := by omega
  have hlast : sv.svId.toNat - 1 = 31 ↔ sv.svId.toNat = 32 := by omega
  rw [Hit, hcast, shift.shl_of_lt _ (by omega), and_signExtend_bit_iff (by omega), hlast]
  rfl

theorem toInt_svId (h : Delivered sv) : sv.svId.toInt16.toInt = sv.svId.toNat := by
  have hle := h.le
  show sv.svId.toBitVec.toInt = _
  rw [BitVec.toInt_eq_toNat_of_lt]
  · rfl
  · show 2 * sv.svId.toNat < 2 ^ 16
    omega

/-- The mark is set where the shifted bit hits, and kept where it was. -/
theorem reportOne_spec (h : Delivered sv) :
    (Marked (SvAdapter.reportOne shift ⟨true, ids⟩ sv) ↔ Hit shift ids sv ∨ Marked sv) ∧
    ∀ j, j ≠ usedInFixPlace →
      (SvAdapter.reportOne shift ⟨true, ids⟩ sv).gnssSvOptionsMask.getLsbD j =
        sv.gnssSvOptionsMask.getLsbD j := by
  have hone : SvAdapter.reportOne shift ⟨true, ids⟩ sv = if Hit shift ids sv then
      { SvAdapter.withSvId sv with
        gnssSvOptionsMask := (SvAdapter.withSvId sv).gnssSvOptionsMask |||
          GNSS_SV_OPTIONS_USED_IN_FIX_BIT }
      else SvAdapter.withSvId sv := by
    rw [SvAdapter.reportOne, toInt_svId h]
    rfl
  rw [hone]
  by_cases hhit : Hit shift ids sv
  · simp only [if_pos hhit, Marked, GNSS_SV_OPTIONS_USED_IN_FIX_BIT,
      SvAdapter.gnssSvOptionsMask_withSvId, getLsbD_or_bit (show usedInFixPlace < 16 by decide)]
    refine ⟨by simp [hhit], fun j hj => ?_⟩
    rw [decide_eq_false hj.symm, Bool.or_false]
  · simp only [if_neg hhit, Marked, SvAdapter.gnssSvOptionsMask_withSvId]
    exact ⟨by simp [hhit], fun _ _ => trivial⟩

theorem flagRight_iff (h : Delivered sv) :
    FlagRight ids sv (SvAdapter.reportOne shift ⟨true, ids⟩ sv) ↔
      (Hit shift ids sv ∨ Marked sv ↔ Used ids sv) := by
  obtain ⟨hmark, hothers⟩ := @reportOne_spec F shift ids sv h
  exact ⟨fun hright => hmark.symm.trans hright.used, fun hused => ⟨hmark.trans hused, hothers⟩⟩

theorem hit_giving {v : BitVec 32} (hle : 32 < sv.svId.toNat) :
    Hit (.giving v) ids sv ↔ ids.mask sv.type &&& v.signExtend 64 ≠ 0#64 := by
  have hlarge : ¬ (sv.svId.toNat : Int) - 1 < 32 := by omega
  simp only [Hit, IntShift.giving, if_neg hlarge]

/-- Beyond the width a machine may meet nothing, or every bit. -/
theorem fits_of_all_shifts (hle : 32 < sv.svId.toNat)
    (hall : ∀ shift, (Hit shift ids sv ∨ Marked sv ↔ Used ids sv)) :
    Marked sv ∨ ids.mask sv.type = 0#64 := by
  by_cases hused : Used ids sv
  · -- a machine that gives 0
    have hzero := ((hall (.giving 0#32)).mpr hused).imp_left (hit_giving hle).mp
    exact .inl (hzero.resolve_left fun hne => hne (by simp))
  · -- a machine that gives all ones
    have hones : (BitVec.allOnes 32).signExtend 64 = BitVec.allOnes 64 := by decide
    have hhit := fun h => hused ((hall (.giving (BitVec.allOnes 32))).mp (.inl h))
    rw [hit_giving hle, hones, BitVec.and_allOnes] at hhit
    exact .inr (Classical.not_not.mp hhit)

theorem flagRight_all_iff (h : Delivered sv) :
    (∀ shift, FlagRight ids sv (SvAdapter.reportOne shift ⟨true, ids⟩ sv)) ↔ FlagFits ids sv := by
  simp only [flagRight_iff h]
  constructor
  · intro hall
    have hused := hall .modulo
    refine ⟨fun hnot hm => hnot (hused.mp (.inr hm)), fun hnot h32 j hj => ?_,
      fun hle => fits_of_all_shifts hle hall⟩
    by_contra hset
    rw [Bool.not_eq_false] at hset
    exact hnot (hused.mp (.inl ((hit_iff h (by omega)).mpr (.inr ⟨h32, j, hj, hset⟩))))
  · intro hfits shift
    by_cases hused : Used ids sv
    · refine iff_of_true ?_ hused
      by_cases hlow : sv.svId.toNat ≤ 32
      · exact .inl ((hit_iff h hlow).mpr (.inl hused))
      · rcases hfits.beyond (by omega) with hm | hzero
        · exact .inr hm
        · rw [Used, hzero, BitVec.getLsbD_zero] at hused
          cases hused
    · refine iff_of_false ?_ hused
      rintro (hhit | hm)
      · by_cases hlow : sv.svId.toNat ≤ 32
        · rcases (hit_iff h hlow).mp hhit with hu | ⟨h32, j, hj, hset⟩
          · exact hused hu
          · rw [hfits.sign hused h32 j hj] at hset
            cases hset
        · rcases hfits.beyond (by omega) with hm | hzero
          · exact hfits.clear hused hm
          · exact hhit (by rw [hzero, BitVec.zero_and])
      · exact hfits.clear hused hm

end

/-! ## The report -/

/-- **Used-in-fix flags.** Whatever a machine gives for an undefined shift,
every satellite of the report is marked exactly if its bit is in the mask of
its constellation, and keeps its other options, exactly if those not used come
unmarked, one with id 32 that was not used has no used satellite above it, and
one above comes marked or has a constellation without a used satellite. -/
theorem flags_right_iff {F : Type} (a : SvAdapter) (svNotify : GnssSvNotification F)
    (havail : a.mGnssSvIdUsedInPosAvail = true) (hsvs : ∀ sv ∈ svNotify.gnssSvs, Delivered sv) :
    (∀ shift, List.Forall₂ (FlagRight a.mGnssSvIdUsedInPosition) svNotify.gnssSvs
      (a.reportSv shift svNotify).2.gnssSvs) ↔
    ∀ sv ∈ svNotify.gnssSvs, FlagFits a.mGnssSvIdUsedInPosition sv := by
  obtain ⟨avail, ids⟩ := a
  obtain rfl : avail = true := havail
  simp only [SvAdapter.reportSv, List.forall₂_map_right_iff, List.forall₂_same]
  rw [forall_comm]
  refine forall_congr' fun sv => ?_
  rw [forall_comm]
  exact forall_congr' fun hsv => flagRight_all_iff (hsvs sv hsv)

/-- A satellite of the report; the floating point values do not matter. -/
def exampleSv (type : GnssSvType) (svId : UInt16) (options : BitVec 16) : GnssSv Unit :=
  ⟨svId, type, (), (), (), options⟩

/-- The masks with GPS 3 and BeiDou 33. -/
def exampleIds : GnssSvUsedInPosition := ⟨0x4, 0, 0, 0x100000000, 0⟩

def exampleReport : GnssSvNotification Unit :=
  ⟨[exampleSv GNSS_SV_TYPE_GPS 3 1, exampleSv GNSS_SV_TYPE_GLONASS 3 3,
    exampleSv GNSS_SV_TYPE_BEIDOU 33 4], by decide⟩

/-- The used GPS satellite is marked, the one of GLONASS is not, and the one of
BeiDou keeps its mark. -/
theorem flags_right_low : List.Forall₂ (FlagRight exampleIds) exampleReport.gnssSvs
    (SvAdapter.reportSv .modulo ⟨true, exampleIds⟩ exampleReport).2.gnssSvs := by
  refine (flags_right_iff ⟨true, exampleIds⟩ exampleReport rfl fun sv hsv => ?_).mpr
    (fun sv hsv => ?_) .modulo
  · simp only [exampleReport, List.mem_cons, List.not_mem_nil, or_false] at hsv
    rcases hsv with rfl | rfl | rfl <;> exact ⟨by decide, by decide, by decide⟩
  · simp only [exampleReport, List.mem_cons, List.not_mem_nil, or_false] at hsv
    rcases hsv with rfl | rfl | rfl
    · exact ⟨fun h => absurd rfl h, fun h => absurd rfl h, fun h => absurd h (by decide)⟩
    · exact ⟨fun _ h => (by cases h), fun _ h => absurd h (by decide),
        fun h => absurd h (by decide)⟩
    · exact ⟨fun h => absurd rfl h, fun h => absurd rfl h, fun _ => .inl rfl⟩

/-- A mark that the report comes with stays although the satellite was not used,
and a used satellite with id 33 is not marked by a machine that takes the count
modulo 32. -/
theorem stale_flag_kept :
    ¬ List.Forall₂ (FlagRight exampleIds) [exampleSv GNSS_SV_TYPE_GPS 4 4]
      (SvAdapter.reportSv .modulo ⟨true, exampleIds⟩
        ⟨[exampleSv GNSS_SV_TYPE_GPS 4 4], by decide⟩).2.gnssSvs ∧
    ¬ List.Forall₂ (FlagRight exampleIds) [exampleSv GNSS_SV_TYPE_BEIDOU 33 0]
      (SvAdapter.reportSv .modulo ⟨true, exampleIds⟩
        ⟨[exampleSv GNSS_SV_TYPE_BEIDOU 33 0], by decide⟩).2.gnssSvs := by
  constructor
  · intro h
    have hused := (List.forall₂_cons.mp h).1.used
    exact absurd (hused.mp rfl) (by simp [Used]; decide)
  · intro h
    have hused := (List.forall₂_cons.mp h).1.used
    exact absurd (hused.mpr rfl) (by simp [Marked]; decide)

end DeviceHal.Gnss.SvReports
