import DeviceHal.Lib.BitMask
import DeviceHal.Lib.CText
import Mathlib.Tactic

/-! # Configurations that wait for the client

Until a callback is registered `Gnss` has no client, and collects the
configurations it is given in one: each of ten items is copied if its flag is
set. The first registration creates the client and hands the collection to it. -/
namespace DeviceHal.Android.PendingConfig
open DeviceHal.Lib.BitMask DeviceHal.Lib.CText

/-! ## Configurations -/

def GNSS_CONFIG_FLAGS_GPS_LOCK_VALID_BIT : BitVec 32 := bit 32 0
def GNSS_CONFIG_FLAGS_SUPL_VERSION_VALID_BIT : BitVec 32 := bit 32 1
def GNSS_CONFIG_FLAGS_SET_ASSISTANCE_DATA_VALID_BIT : BitVec 32 := bit 32 2
def GNSS_CONFIG_FLAGS_LPP_PROFILE_VALID_BIT : BitVec 32 := bit 32 3
def GNSS_CONFIG_FLAGS_LPPE_CONTROL_PLANE_VALID_BIT : BitVec 32 := bit 32 4
def GNSS_CONFIG_FLAGS_LPPE_USER_PLANE_VALID_BIT : BitVec 32 := bit 32 5
def GNSS_CONFIG_FLAGS_AGLONASS_POSITION_PROTOCOL_VALID_BIT : BitVec 32 := bit 32 6
def GNSS_CONFIG_FLAGS_EM_PDN_FOR_EM_SUPL_VALID_BIT : BitVec 32 := bit 32 7
def GNSS_CONFIG_FLAGS_SUPL_EM_SERVICES_BIT : BitVec 32 := bit 32 8
def GNSS_CONFIG_FLAGS_SUPL_MODE_BIT : BitVec 32 := bit 32 9

structure GnssConfigSetAssistanceServer where
  type : UInt32
  /-- `none` is NULL. -/
  hostName : Option Bytes
  port : UInt32
deriving DecidableEq

/-- An enumeration is kept as its number: zero is not a `GnssConfigSuplVersion`. -/
structure GnssConfig where
  size : Nat
  flags : BitVec 32
  gpsLock : UInt32
  suplVersion : UInt32
  assistanceServer : GnssConfigSetAssistanceServer
  lppProfile : UInt32
  lppeControlPlaneMask : UInt16
  lppeUserPlaneMask : UInt16
  aGlonassPositionProtocolMask : UInt16
  emergencyPdnForEmergencySupl : UInt32
  suplEmergencyServices : UInt32
  suplModeMask : UInt16
deriving DecidableEq

/-- `memset` with zero. -/
def GnssConfig.zero : GnssConfig := ⟨0, 0, 0, 0, ⟨0, none, 0⟩, 0, 0, 0, 0, 0, 0, 0⟩

def sizeofGnssConfig : Nat := 80

/-- The items, by their fields. -/
inductive Item where
  | gpsLock
  | suplVersion
  | assistanceServer
  | lppProfile
  | lppeControlPlaneMask
  | lppeUserPlaneMask
  | aGlonassPositionProtocolMask
  | emergencyPdnForEmergencySupl
  | suplEmergencyServices
  | suplModeMask
deriving DecidableEq

namespace Item

/-- In the order of `updateConfiguration`. -/
def all : List Item :=
  [gpsLock, suplVersion, assistanceServer, lppProfile, lppeControlPlaneMask, lppeUserPlaneMask,
    aGlonassPositionProtocolMask, emergencyPdnForEmergencySupl, suplEmergencyServices, suplModeMask]

def flag : Item → BitVec 32
  | gpsLock => GNSS_CONFIG_FLAGS_GPS_LOCK_VALID_BIT
  | suplVersion => GNSS_CONFIG_FLAGS_SUPL_VERSION_VALID_BIT
  | assistanceServer => GNSS_CONFIG_FLAGS_SET_ASSISTANCE_DATA_VALID_BIT
  | lppProfile => GNSS_CONFIG_FLAGS_LPP_PROFILE_VALID_BIT
  | lppeControlPlaneMask => GNSS_CONFIG_FLAGS_LPPE_CONTROL_PLANE_VALID_BIT
  | lppeUserPlaneMask => GNSS_CONFIG_FLAGS_LPPE_USER_PLANE_VALID_BIT
  | aGlonassPositionProtocolMask => GNSS_CONFIG_FLAGS_AGLONASS_POSITION_PROTOCOL_VALID_BIT
  | emergencyPdnForEmergencySupl => GNSS_CONFIG_FLAGS_EM_PDN_FOR_EM_SUPL_VALID_BIT
  | suplEmergencyServices => GNSS_CONFIG_FLAGS_SUPL_EM_SERVICES_BIT
  | suplModeMask => GNSS_CONFIG_FLAGS_SUPL_MODE_BIT

/-- The host name is replaced only where there is one already. -/
def setAssistanceServer (pending given : GnssConfigSetAssistanceServer) :
    GnssConfigSetAssistanceServer :=
  { type := given.type
    hostName := if pending.hostName ≠ none then given.hostName else pending.hostName
    port := given.port }

def copy (pending given : GnssConfig) : Item → GnssConfig
  | gpsLock => { pending with gpsLock := given.gpsLock }
  | suplVersion => { pending with suplVersion := given.suplVersion }
  | assistanceServer =>
    { pending with
      assistanceServer := setAssistanceServer pending.assistanceServer given.assistanceServer }
  | lppProfile => { pending with lppProfile := given.lppProfile }
  | lppeControlPlaneMask => { pending with lppeControlPlaneMask := given.lppeControlPlaneMask }
  | lppeUserPlaneMask => { pending with lppeUserPlaneMask := given.lppeUserPlaneMask }
  | aGlonassPositionProtocolMask =>
    { pending with aGlonassPositionProtocolMask := given.aGlonassPositionProtocolMask }
  | emergencyPdnForEmergencySupl =>
    { pending with emergencyPdnForEmergencySupl := given.emergencyPdnForEmergencySupl }
  | suplEmergencyServices => { pending with suplEmergencyServices := given.suplEmergencyServices }
  | suplModeMask => { pending with suplModeMask := given.suplModeMask }

/-- Two configurations have the same value of the item. -/
def Same (a b : GnssConfig) : Item → Prop
  | gpsLock => a.gpsLock = b.gpsLock
  | suplVersion => a.suplVersion = b.suplVersion
  | assistanceServer => a.assistanceServer = b.assistanceServer
  | lppProfile => a.lppProfile = b.lppProfile
  | lppeControlPlaneMask => a.lppeControlPlaneMask = b.lppeControlPlaneMask
  | lppeUserPlaneMask => a.lppeUserPlaneMask = b.lppeUserPlaneMask
  | aGlonassPositionProtocolMask =>
    a.aGlonassPositionProtocolMask = b.aGlonassPositionProtocolMask
  | emergencyPdnForEmergencySupl =>
    a.emergencyPdnForEmergencySupl = b.emergencyPdnForEmergencySupl
  | suplEmergencyServices => a.suplEmergencyServices = b.suplEmergencyServices
  | suplModeMask => a.suplModeMask = b.suplModeMask

theorem Same.refl (x : Item) (a : GnssConfig) : x.Same a a := by cases x <;> rfl

theorem Same.trans {x : Item} {a b c : GnssConfig} (hab : x.Same a b) (hbc : x.Same b c) :
    x.Same a c := by
  cases x <;> exact Eq.trans hab hbc

/-- The place of the item's flag. -/
def place : Item → Nat
  | gpsLock => 0
  | suplVersion => 1
  | assistanceServer => 2
  | lppProfile => 3
  | lppeControlPlaneMask => 4
  | lppeUserPlaneMask => 5
  | aGlonassPositionProtocolMask => 6
  | emergencyPdnForEmergencySupl => 7
  | suplEmergencyServices => 8
  | suplModeMask => 9

theorem flag_eq (x : Item) : x.flag = bit 32 x.place := by cases x <;> rfl

theorem place_lt (x : Item) : x.place < 32 := by cases x <;> decide

theorem mem_all (x : Item) : x ∈ all := by cases x <;> decide

end Item

/-! ## The component -/

/-- The callbacks and the client are there or not; `handed` is what the client was
handed, oldest first. -/
structure Gnss where
  mApi : Bool
  mGnssCbIface : Bool
  mGnssNiCbIface : Bool
  mPendingConfig : GnssConfig
  handed : List GnssConfig
deriving DecidableEq

namespace Gnss

def init : Gnss := ⟨false, false, false, .zero, []⟩

/-- The client, created if there is a callback by now. -/
def getApi (g : Gnss) : Gnss :=
  if ¬ g.mApi ∧ (g.mGnssCbIface ∨ g.mGnssNiCbIface) then
    let g := { g with mApi := true }
    if g.mPendingConfig.size = sizeofGnssConfig then
      { g with
        handed := g.handed ++ [g.mPendingConfig]
        mPendingConfig := { g.mPendingConfig with size := 0 } }
    else g
  else g

/-- One of the ten blocks. -/
def mergeItem (given pending : GnssConfig) (x : Item) : GnssConfig :=
  if given.flags &&& x.flag ≠ 0#32 then
    x.copy { pending with flags := pending.flags ||| x.flag } given
  else pending

def merge (pending given : GnssConfig) : GnssConfig :=
  Item.all.foldl (mergeItem given) { pending with size := sizeofGnssConfig }

def updateConfiguration (g : Gnss) (gnssConfig : GnssConfig) : Gnss :=
  let g := g.getApi
  if g.mApi then { g with handed := g.handed ++ [gnssConfig] }
  else if gnssConfig.flags ≠ 0#32 then
    { g with mPendingConfig := merge g.mPendingConfig gnssConfig }
  else g

def setCallback (g : Gnss) : Gnss := { g with mGnssCbIface := true }.getApi

def setGnssNiCb (g : Gnss) : Gnss := { g with mGnssNiCbIface := true }.getApi

end Gnss

inductive AGnssType where
  | TYPE_SUPL
  | TYPE_C2K
  | other
deriving DecidableEq

def GNSS_ASSISTANCE_TYPE_SUPL : UInt32 := 0
def GNSS_ASSISTANCE_TYPE_C2K : UInt32 := 1

/-- The configuration that `AGnss::setServer` makes; `none` for another type. -/
def serverConfig (type : AGnssType) (hostname : Bytes) (port : Int32) : Option GnssConfig :=
  let config (type : UInt32) : GnssConfig :=
    { GnssConfig.zero with
      size := sizeofGnssConfig
      flags := GNSS_CONFIG_FLAGS_SET_ASSISTANCE_DATA_VALID_BIT
      assistanceServer := ⟨type, some (hostname.takeWhile (· ≠ 0)), port.toUInt32⟩ }
  match type with
  | .TYPE_SUPL => some (config GNSS_ASSISTANCE_TYPE_SUPL)
  | .TYPE_C2K => some (config GNSS_ASSISTANCE_TYPE_C2K)
  | .other => none

def setServer (g : Gnss) (type : AGnssType) (hostname : Bytes) (port : Int32) : Gnss × Bool :=
  match serverConfig type hostname port with
  | none => (g, false)
  | some config => (g.updateConfiguration config, true)

/-! ## One configuration is merged -/

namespace Gnss

def Flagged (c : GnssConfig) (x : Item) : Prop := c.flags.getLsbD x.place = true

instance (c : GnssConfig) (x : Item) : Decidable (Flagged c x) :=
  inferInstanceAs (Decidable (_ = _))

section
variable {given pending : GnssConfig} {x y : Item} {xs : List Item}

theorem mergeItem_eq (given pending : GnssConfig) (x : Item) :
    mergeItem given pending x = if Flagged given x then
      x.copy { pending with flags := pending.flags ||| bit 32 x.place } given else pending := by
  rw [mergeItem, Item.flag_eq]
  by_cases hflag : Flagged given x
  · rw [if_pos hflag, if_pos ((and_bit_ne_zero_iff x.place_lt).mpr hflag)]
  · rw [if_neg hflag, if_neg fun hne => hflag ((and_bit_ne_zero_iff x.place_lt).mp hne)]

theorem flags_copy (x : Item) : (x.copy pending given).flags = pending.flags := by cases x <;> rfl

theorem size_copy (x : Item) : (x.copy pending given).size = pending.size := by cases x <;> rfl

theorem same_copy_of_ne (hne : x ≠ y) : x.Same (y.copy pending given) pending := by
  cases x <;> cases y <;> first | rfl | exact absurd rfl hne

theorem same_copy (hx : x ≠ .assistanceServer) : x.Same (x.copy pending given) given := by
  cases x <;> first | rfl | exact absurd rfl hx

/-- A block leaves every other item. -/
theorem same_mergeItem_of_ne (hne : x ≠ y) : x.Same (mergeItem given pending y) pending := by
  rw [mergeItem_eq]
  split
  · have hcopy := @same_copy_of_ne given
      { pending with flags := pending.flags ||| bit 32 y.place } x y
    cases x <;> exact hcopy hne
  · exact Item.Same.refl x pending

theorem same_mergeItem_self (hx : x ≠ .assistanceServer) (hflag : Flagged given x) :
    x.Same (mergeItem given pending x) given := by
  rw [mergeItem_eq, if_pos hflag]
  exact same_copy hx

theorem mergeItem_of_not_flagged (hflag : ¬ Flagged given x) :
    mergeItem given pending x = pending := by
  rw [mergeItem_eq, if_neg hflag]

theorem same_foldl_of_not_flagged (hflag : ¬ Flagged given x) (xs : List Item) :
    x.Same (xs.foldl (mergeItem given) pending) pending := by
  induction xs generalizing pending with
  | nil => exact Item.Same.refl x pending
  | cons y ys ih =>
    refine (@ih (mergeItem given pending y)).trans ?_
    by_cases hxy : x = y
    · rw [← hxy, mergeItem_of_not_flagged hflag]
      exact Item.Same.refl x pending
    · exact same_mergeItem_of_ne hxy

/-- Once it is copied, an item stays. -/
theorem same_foldl_of_same (hx : x ≠ .assistanceServer) (hflag : Flagged given x)
    (hsame : x.Same pending given) (xs : List Item) :
    x.Same (xs.foldl (mergeItem given) pending) given := by
  induction xs generalizing pending with
  | nil => exact hsame
  | cons y ys ih =>
    refine ih ?_
    by_cases hxy : x = y
    · rw [← hxy]
      exact same_mergeItem_self hx hflag
    · exact (same_mergeItem_of_ne hxy).trans hsame

theorem same_foldl_of_flagged (hx : x ≠ .assistanceServer) (hflag : Flagged given x)
    (hmem : x ∈ xs) : x.Same (xs.foldl (mergeItem given) pending) given := by
  induction xs generalizing pending with
  | nil => cases hmem
  | cons y ys ih =>
    rcases List.mem_cons.mp hmem with rfl | hmem
    · exact same_foldl_of_same hx hflag (same_mergeItem_self hx hflag) ys
    · exact ih hmem

theorem hostName_mergeItem (hnone : pending.assistanceServer.hostName = none) :
    (mergeItem given pending x).assistanceServer.hostName = none := by
  rw [mergeItem_eq]
  split
  · cases x <;> first | exact hnone | simp [Item.copy, Item.setAssistanceServer, hnone]
  · exact hnone

theorem hostName_foldl (hnone : pending.assistanceServer.hostName = none) (xs : List Item) :
    (xs.foldl (mergeItem given) pending).assistanceServer.hostName = none := by
  induction xs generalizing pending with
  | nil => exact hnone
  | cons y ys ih => exact ih (hostName_mergeItem hnone)

theorem size_mergeItem : (mergeItem given pending x).size = pending.size := by
  rw [mergeItem_eq]
  split
  · rw [size_copy]
  · rfl

theorem size_foldl (xs : List Item) :
    (xs.foldl (mergeItem given) pending).size = pending.size := by
  induction xs generalizing pending with
  | nil => rfl
  | cons y ys ih => exact ih.trans size_mergeItem

theorem flags_foldl (j : Nat) (xs : List Item) :
    (xs.foldl (mergeItem given) pending).flags.getLsbD j = true ↔
      pending.flags.getLsbD j = true ∨
        given.flags.getLsbD j = true ∧ ∃ x ∈ xs, x.place = j := by
  induction xs generalizing pending with
  | nil => simp
  | cons y ys ih =>
    have hone : (mergeItem given pending y).flags.getLsbD j = true ↔
        pending.flags.getLsbD j = true ∨ given.flags.getLsbD j = true ∧ y.place = j := by
      rw [mergeItem_eq]
      split
      · rename_i hflag
        rw [flags_copy, getLsbD_or_bit y.place_lt, Bool.or_eq_true, decide_eq_true_eq]
        refine or_congr_right ⟨fun hj => ⟨hj ▸ hflag, hj⟩, fun hj => hj.2⟩
      · rename_i hflag
        refine ⟨.inl, fun h => h.elim id fun hj => absurd ?_ hflag⟩
        rw [Flagged, hj.2]
        exact hj.1
    rw [List.foldl_cons, ih, hone, or_assoc, ← and_or_left, List.exists_mem_cons_iff]

end

end Gnss

/-! ## Runs before there is a client -/

/-- The last configuration that flags the item. -/
def lastFlagged (cs : List GnssConfig) (x : Item) : Option GnssConfig :=
  (cs.filter (Gnss.Flagged · x)).getLast?

/-- The flags of all configurations. -/
def union (cs : List GnssConfig) : BitVec 32 := cs.foldl (fun flags c => flags ||| c.flags) 0#32

section
variable {cs : List GnssConfig} {c : GnssConfig} {x : Item}

theorem lastFlagged_concat_of_flagged (hflag : Gnss.Flagged c x) :
    lastFlagged (cs ++ [c]) x = some c := by
  rw [lastFlagged, List.filter_append, List.filter_cons_of_pos (by simpa using hflag)]
  exact List.getLast?_concat

theorem lastFlagged_concat_of_not_flagged (hflag : ¬ Gnss.Flagged c x) :
    lastFlagged (cs ++ [c]) x = lastFlagged cs x := by
  rw [lastFlagged, List.filter_append, List.filter_cons_of_neg (by simpa using hflag),
    List.filter_nil, List.append_nil, lastFlagged]

theorem union_concat (cs : List GnssConfig) (c : GnssConfig) :
    union (cs ++ [c]) = union cs ||| c.flags := by
  rw [union, List.foldl_append, List.foldl_cons, List.foldl_nil, union]

theorem getLsbD_union {j : Nat} :
    (union cs).getLsbD j = true ↔ ∃ c ∈ cs, c.flags.getLsbD j = true := by
  induction cs using List.reverseRecOn with
  | nil => simp [union]
  | append_singleton cs c ih =>
    rw [union_concat, BitVec.getLsbD_or, Bool.or_eq_true, ih]
    constructor
    · rintro (⟨d, hd, hj⟩ | hj)
      · exact ⟨d, List.mem_append_left _ hd, hj⟩
      · exact ⟨c, List.mem_append_right _ (.head _), hj⟩
    · rintro ⟨d, hd, hj⟩
      rcases List.mem_append.mp hd with hd | hd
      · exact .inl ⟨d, hd, hj⟩
      · exact .inr (List.mem_singleton.mp hd ▸ hj)

end

namespace Gnss

/-- Without a client: what `mPendingConfig` has after the configurations. -/
structure Pending (cs : List GnssConfig) (g : Gnss) : Prop where
  idle : g.mApi = false ∧ g.mGnssCbIface = false ∧ g.mGnssNiCbIface = false
  handed : g.handed = []
  size : g.mPendingConfig.size = if union cs = 0#32 then 0 else sizeofGnssConfig
  flags : ∀ j, g.mPendingConfig.flags.getLsbD j = true ↔
    (union cs).getLsbD j = true ∧ ∃ x : Item, x.place = j
  hostName : g.mPendingConfig.assistanceServer.hostName = none
  items : ∀ x, x ≠ .assistanceServer → ∀ c, lastFlagged cs x = some c → x.Same g.mPendingConfig c

theorem pending_init : Pending [] init where
  idle := ⟨rfl, rfl, rfl⟩
  handed := rfl
  size := rfl
  flags := fun j => by simp [init, GnssConfig.zero, union]
  hostName := rfl
  items := fun _ _ _ h => (by cases h)

section
variable {cs : List GnssConfig} {c : GnssConfig} {g : Gnss}

theorem getApi_of_idle (h : g.mApi = false ∧ g.mGnssCbIface = false ∧ g.mGnssNiCbIface = false) :
    g.getApi = g := by
  rw [getApi, if_neg (by simp [h])]

theorem Pending.updateConfiguration (h : Pending cs g) (c : GnssConfig) :
    Pending (cs ++ [c]) (g.updateConfiguration c) := by
  unfold Gnss.updateConfiguration
  rw [getApi_of_idle h.idle]
  dsimp only
  rw [if_neg (by simp [h.idle])]
  by_cases hzero : c.flags = 0#32
  · have hnot : ∀ x, ¬ Flagged c x := fun x => by simp [Flagged, hzero]
    rw [if_neg (not_not.mpr hzero)]
    refine ⟨h.idle, h.handed, ?_, ?_, h.hostName, fun x hx d hd => ?_⟩
    · rw [union_concat, hzero, BitVec.or_zero, h.size]
    · rw [union_concat, hzero, BitVec.or_zero]
      exact h.flags
    · rw [lastFlagged_concat_of_not_flagged (hnot x)] at hd
      exact h.items x hx d hd
  · rw [if_pos hzero]
    refine ⟨h.idle, h.handed, ?_, fun j => ?_, ?_, fun x hx d hd => ?_⟩
    · rw [merge, size_foldl, union_concat, if_neg fun hor => hzero (BitVec.or_eq_zero_iff.mp hor).2]
    · rw [merge, flags_foldl, h.flags j, union_concat, BitVec.getLsbD_or, Bool.or_eq_true,
        or_and_right]
      simp only [Item.mem_all, true_and]
    · exact hostName_foldl (by exact h.hostName) _
    · by_cases hflag : Flagged c x
      · rw [lastFlagged_concat_of_flagged hflag] at hd
        cases hd
        exact same_foldl_of_flagged hx hflag (Item.mem_all x)
      · rw [lastFlagged_concat_of_not_flagged hflag] at hd
        have hkeep := h.items x hx d hd
        refine (same_foldl_of_not_flagged hflag _).trans ?_
        cases x <;> exact hkeep

theorem pending_run (cs : List GnssConfig) :
    Pending cs (cs.foldl Gnss.updateConfiguration init) := by
  induction cs using List.reverseRecOn with
  | nil => exact pending_init
  | append_singleton cs c ih =>
    rw [List.foldl_append]
    exact ih.updateConfiguration c

end

end Gnss

/-! ## The client is created -/

inductive Registration where
  | setCallback
  | setGnssNiCb
deriving DecidableEq

def Registration.run : Registration → Gnss → Gnss
  | .setCallback, g => g.setCallback
  | .setGnssNiCb, g => g.setGnssNiCb

/-- All flags, and of each flagged item the last value. -/
structure Kept (cs : List GnssConfig) (config : GnssConfig) : Prop where
  flags : config.flags = union cs
  items : ∀ x c, lastFlagged cs x = some c → x.Same config c

/-- The client was handed one configuration that keeps the given ones, or none
if no flag was set. -/
def Delivered (cs : List GnssConfig) (g : Gnss) : Prop :=
  if union cs = 0#32 then g.handed = [] else ∃ config, g.handed = [config] ∧ Kept cs config

/-- Every flag is that of an item other than the assistance server. -/
def WithoutServer (c : GnssConfig) : Prop :=
  ∀ j, c.flags.getLsbD j = true → ∃ x : Item, x ≠ .assistanceServer ∧ x.place = j

section
variable {cs : List GnssConfig} {g : Gnss}

theorem handed_registration (h : Gnss.Pending cs g) (r : Registration) :
    (r.run g).handed = if union cs = 0#32 then [] else [g.mPendingConfig] := by
  have hapi : ∀ k : Gnss, k.mApi = false → (k.mGnssCbIface = true ∨ k.mGnssNiCbIface = true) →
      k.handed = [] → k.mPendingConfig = g.mPendingConfig →
      k.getApi.handed = if union cs = 0#32 then [] else [g.mPendingConfig] := by
    intro k hnew hcb hnone hsame
    rw [Gnss.getApi, if_pos ⟨by simp [hnew], hcb⟩]
    dsimp only
    by_cases hzero : union cs = 0#32
    · rw [if_pos hzero, if_neg (by rw [hsame, h.size, if_pos hzero]; decide)]
      exact hnone
    · rw [if_neg hzero, if_pos (by rw [hsame, h.size, if_neg hzero]), hnone, hsame]
      rfl
  cases r with
  | setCallback => exact hapi _ h.idle.1 (.inl rfl) h.handed rfl
  | setGnssNiCb => exact hapi _ h.idle.1 (.inr rfl) h.handed rfl

/-- A flagged server has a host name, and the pending one has none. -/
theorem not_kept_of_server {c : GnssConfig} (h : Gnss.Pending cs g)
    (hhost : ∀ c ∈ cs, Gnss.Flagged c .assistanceServer → c.assistanceServer.hostName ≠ none)
    (hc : c ∈ cs) (hflag : Gnss.Flagged c .assistanceServer) : ¬ Kept cs g.mPendingConfig := by
  intro hkept
  have hsome : cs.filter (Gnss.Flagged · .assistanceServer) ≠ [] :=
    List.ne_nil_of_mem (List.mem_filter.mpr ⟨hc, by simpa using hflag⟩)
  have hlast := List.getLast?_eq_getLast_of_ne_nil hsome
  obtain ⟨hmem, hset⟩ := List.mem_filter.mp (List.getLast_mem hsome)
  have hsame : g.mPendingConfig.assistanceServer = _ := hkept.items .assistanceServer _ hlast
  exact hhost _ hmem (of_decide_eq_true hset) (hsame ▸ h.hostName)

theorem kept_iff (h : Gnss.Pending cs g)
    (hhost : ∀ c ∈ cs, Gnss.Flagged c .assistanceServer → c.assistanceServer.hostName ≠ none) :
    Kept cs g.mPendingConfig ↔ ∀ c ∈ cs, WithoutServer c := by
  constructor
  · intro hkept c hc j hj
    have hunion : (union cs).getLsbD j = true := getLsbD_union.mpr ⟨c, hc, hj⟩
    obtain ⟨-, x, hx⟩ := (h.flags j).mp (hkept.flags ▸ hunion)
    refine ⟨x, fun hserver => ?_, hx⟩
    rw [← hx, hserver] at hj
    exact not_kept_of_server h hhost hc hj hkept
  · intro hwithout
    refine ⟨BitVec.eq_of_getLsbD_eq fun j _ => ?_, fun x c hc => ?_⟩
    · rw [Bool.eq_iff_iff, h.flags j, and_iff_left_iff_imp]
      intro hj
      obtain ⟨c, hc, hj⟩ := getLsbD_union.mp hj
      obtain ⟨x, -, hx⟩ := hwithout c hc j hj
      exact ⟨x, hx⟩
    · refine h.items x (fun hserver => ?_) c hc
      obtain ⟨hmem, hset⟩ := List.mem_filter.mp (List.mem_of_getLast? hc)
      obtain ⟨y, hy, hplace⟩ := hwithout c hmem x.place (of_decide_eq_true hset)
      rw [hserver] at hplace
      cases y <;> first | exact hy rfl | cases hplace

end

/-- **Pending configuration.** What the client is handed when it is created has
all flags given before, and each flagged item as it was given last, exactly if
no assistance server and no unknown flag was given. -/
theorem config_delivered_iff (cs : List GnssConfig) (r : Registration)
    (hhost : ∀ c ∈ cs, Gnss.Flagged c .assistanceServer → c.assistanceServer.hostName ≠ none) :
    Delivered cs (r.run (cs.foldl Gnss.updateConfiguration .init)) ↔ ∀ c ∈ cs, WithoutServer c := by
  have h := Gnss.pending_run cs
  rw [Delivered, handed_registration h]
  by_cases hzero : union cs = 0#32
  · rw [if_pos hzero, if_pos hzero]
    refine iff_of_true rfl fun c hc j hj => ?_
    have hunion : (union cs).getLsbD j = true := getLsbD_union.mpr ⟨c, hc, hj⟩
    rw [hzero, BitVec.getLsbD_zero] at hunion
    cases hunion
  · rw [if_neg hzero, if_neg hzero, ← kept_iff h hhost]
    constructor
    · rintro ⟨config, hone, hkept⟩
      cases List.singleton_inj.mp hone
      exact hkept
    · exact fun hkept => ⟨_, rfl, hkept⟩

/-- A configuration for the GPS lock. -/
def lockConfig (lock : UInt32) : GnssConfig :=
  { GnssConfig.zero with flags := GNSS_CONFIG_FLAGS_GPS_LOCK_VALID_BIT, gpsLock := lock }

theorem delivered_lock :
    Delivered [lockConfig 1, lockConfig 3]
      (Registration.setCallback.run
        ([lockConfig 1, lockConfig 3].foldl Gnss.updateConfiguration .init)) := by
  refine (config_delivered_iff _ .setCallback (fun c hc hflag => ?_)).mpr fun c hc j hj => ?_
  · have hno : ∀ c ∈ [lockConfig 1, lockConfig 3], ¬ Gnss.Flagged c .assistanceServer := by decide
    exact absurd hflag (hno c hc)
  · have hbit : c.flags = bit 32 0 := by
      rcases List.mem_pair.mp hc with rfl | rfl <;> rfl
    rw [hbit, getLsbD_bit (by decide), decide_eq_true_eq] at hj
    exact ⟨.gpsLock, by decide, hj⟩

/-- A server set before there is a client is handed over without its host. -/
theorem pending_host_lost : ∃ c, serverConfig .TYPE_SUPL (bytesOf ['h']) 7275 = some c ∧
    (setServer .init .TYPE_SUPL (bytesOf ['h']) 7275).1.setCallback.handed.map
      (·.assistanceServer.hostName) = [none] ∧
    ¬ Delivered [c] (setServer .init .TYPE_SUPL (bytesOf ['h']) 7275).1.setCallback := by
  have hnone : (setServer .init .TYPE_SUPL (bytesOf ['h']) 7275).1.setCallback.handed.map
      (·.assistanceServer.hostName) = [none] := by decide
  refine ⟨_, rfl, hnone, fun h => ?_⟩
  rw [Delivered, if_neg (by decide)] at h
  obtain ⟨config, hone, hkept⟩ := h
  have hserver : config.assistanceServer = _ := hkept.items .assistanceServer _ rfl
  rw [hone, List.map_singleton, hserver] at hnone
  cases hnone

end DeviceHal.Android.PendingConfig
