import DeviceHal.Lib.BitMask
import DeviceHal.Lib.Run
import Mathlib.Tactic

/-! # Network info reports

`setIteminReport` of `core/SystemStatus.cpp` for the network-info item: the
types that are connected are accumulated by `collate`, which runs inside the
comparison with the latest report and writes its result back into the data item
that the event brought. -/
namespace DeviceHal.Core.NetworkInfo
open DeviceHal.Lib.Run DeviceHal.Lib.BitMask

/-! ## Reports -/

/-- What `setIteminReport` uses of an item type. -/
class StatusItem (ITEM : Type) where
  collate : ITEM → ITEM → ITEM
  equals : ITEM → ITEM → Bool
  /-- The new item's report time, taken over by the latest one. -/
  setReported : ITEM → ITEM → ITEM

def maxItem : Nat := 5

/-- `push_back`, and the oldest report leaves when there are too many. -/
def pushReport {ITEM : Type} (report : List ITEM) (s : ITEM) : List ITEM :=
  if (report ++ [s]).length > maxItem then (report ++ [s]).tail else report ++ [s]

/-- The return value, the report and the item as it is left. -/
def setIteminReport {ITEM : Type} [StatusItem ITEM] (report : List ITEM) (s : ITEM) :
    Bool × List ITEM × ITEM :=
  match report.getLast? with
  | some back =>
    let s := StatusItem.collate s back
    if StatusItem.equals back s then
      (false, report.dropLast ++ [StatusItem.setReported back s], s)
    else (true, pushReport report s, s)
  -- the first event: `collate` is not evaluated
  | none => (true, pushReport report s, s)

theorem getLast?_pushReport {ITEM : Type} (report : List ITEM) (s : ITEM) :
    (pushReport report s).getLast? = some s := by
  unfold pushReport
  split
  · rename_i hlen
    cases report with
    | nil => simp [maxItem] at hlen
    | cons r rest => simp
  · simp

/-! ## The network-info item -/

abbrev NetworkType := Int
def TYPE_MOBILE : NetworkType := 0
def TYPE_UNKNOWN : NetworkType := 9

def typeToAllTypes (type : NetworkType) : BitVec 64 :=
  if type ≥ TYPE_UNKNOWN ∨ type < TYPE_MOBILE then 0 else bit 64 type.toNat

structure NetworkInfoDataItemBase where
  mAllTypes : BitVec 64
  mType : Int
  mTypeName : String
  mSubTypeName : String
  mAvailable : Bool
  mConnected : Bool
  mRoaming : Bool
deriving DecidableEq

def NetworkInfoDataItemBase.new (initialType : NetworkType) (type : Int)
    (typeName subTypeName : String) (available connected roaming : Bool) :
    NetworkInfoDataItemBase :=
  ⟨typeToAllTypes initialType, type, typeName, subTypeName, available, connected, roaming⟩

structure SystemStatusNetworkInfo extends NetworkInfoDataItemBase where
  mUtcTime : Nat
  mUtcReported : Nat
  /-- The object behind `mSrcObjPtr`. -/
  mSrcObj : Option NetworkInfoDataItemBase
deriving DecidableEq

namespace SystemStatusNetworkInfo

def ofItem (itemBase : NetworkInfoDataItemBase) (now : Nat) : SystemStatusNetworkInfo :=
  ⟨itemBase, now, now, some itemBase⟩

def equals (s peer : SystemStatusNetworkInfo) : Bool := s.mAllTypes = peer.mAllTypes

def collate (s curInfo : SystemStatusNetworkInfo) : SystemStatusNetworkInfo :=
  let allTypes := curInfo.mAllTypes
  let mAllTypes :=
    if s.mConnected then s.mAllTypes ||| allTypes
    else if 0 ≠ s.mAllTypes then allTypes &&& ~~~ s.mAllTypes
    else s.mAllTypes
  { s with
    mAllTypes := mAllTypes
    mSrcObj := s.mSrcObj.map fun src => { src with mAllTypes := mAllTypes } }

instance : StatusItem SystemStatusNetworkInfo where
  collate := collate
  equals := equals
  setReported back s := { back with mUtcReported := s.mUtcReported }

end SystemStatusNetworkInfo

/-- `eventDataItemNotify` for a network-info item: the return value, the cached
report and the data item of the caller. -/
def eventDataItemNotify (mNetworkInfo : List SystemStatusNetworkInfo)
    (dataitem : NetworkInfoDataItemBase) (now : Nat) :
    Bool × List SystemStatusNetworkInfo × NetworkInfoDataItemBase :=
  let (ret, report, s) := setIteminReport mNetworkInfo (.ofItem dataitem now)
  (ret, report, s.mSrcObj.getD dataitem)

/-! ## Events -/

/-- A known network type is connected or disconnected. -/
structure NetworkEvent where
  type : Fin 9
  connected : Bool
  available : Bool
  roaming : Bool
  typeName : String
  subTypeName : String
  now : Nat
deriving DecidableEq

def NetworkEvent.dataitem (e : NetworkEvent) : NetworkInfoDataItemBase :=
  .new e.type.val e.type.val e.typeName e.subTypeName e.available e.connected e.roaming

/-- The cache, the data item of the last event and the events so far. -/
structure Watched where
  mNetworkInfo : List SystemStatusNetworkInfo
  dataitem : Option NetworkInfoDataItemBase
  events : List NetworkEvent
deriving DecidableEq

def start : Watched := ⟨[], none, []⟩

def step (w : Watched) (e : NetworkEvent) : Watched :=
  let (_, report, dataitem) := eventDataItemNotify w.mNetworkInfo e.dataitem e.now
  ⟨report, some dataitem, w.events ++ [e]⟩

/-- The last event of the type was a connect. -/
def lastConnected (events : List NetworkEvent) (type : Nat) : Bool :=
  ((events.filter fun e => e.type.val = type).getLast?.map (·.connected)).getD false

/-- The mask holds the types whose last event was a connect, and no other bit. -/
def Holds (events : List NetworkEvent) (mAllTypes : BitVec 64) : Prop :=
  ∀ i < 64, mAllTypes.getLsbD i = lastConnected events i

instance (events : List NetworkEvent) (mAllTypes : BitVec 64) :
    Decidable (Holds events mAllTypes) :=
  inferInstanceAs (Decidable (∀ i < 64, _))

/-- The latest report and the event's own item both hold the connected types. -/
def TypesFit (w : Watched) : Prop :=
  (∃ back, w.mNetworkInfo.getLast? = some back ∧ Holds w.events back.mAllTypes) ∧
    ∃ item, w.dataitem = some item ∧ Holds w.events item.mAllTypes

/-! ## One event -/

section
variable {w : Watched} {e : NetworkEvent} {events : List NetworkEvent}

theorem lastConnected_concat (i : Nat) : lastConnected (events ++ [e]) i =
    if e.type.val = i then e.connected else lastConnected events i := by
  unfold lastConnected
  by_cases ht : e.type.val = i <;> simp [List.filter_append, ht]

theorem dataitem_mAllTypes : e.dataitem.mAllTypes = bit 64 e.type.val := by
  have htype := e.type.isLt
  have hknown : ¬ ((e.type.val : Int) ≥ TYPE_UNKNOWN ∨ (e.type.val : Int) < TYPE_MOBILE) := by
    unfold TYPE_UNKNOWN TYPE_MOBILE
    omega
  simp only [NetworkEvent.dataitem, NetworkInfoDataItemBase.new, typeToAllTypes, if_neg hknown,
    Int.toNat_natCast]

/-- What `collate` makes of the current types. -/
theorem holds_collate {current : BitVec 64} (h : Holds events current) :
    Holds (events ++ [e])
      (if e.connected then bit 64 e.type.val ||| current else current &&& ~~~ bit 64 e.type.val) := by
  intro i hi
  have htype : e.type.val < 64 := Nat.lt_trans e.type.isLt (by omega)
  rw [lastConnected_concat]
  cases hc : e.connected
  · rw [if_neg Bool.false_ne_true, BitVec.getLsbD_and, BitVec.getLsbD_not, getLsbD_bit htype,
      h i hi]
    by_cases ht : e.type.val = i <;> simp [ht, hi]
  · rw [if_pos rfl, BitVec.getLsbD_or, getLsbD_bit htype, h i hi]
    by_cases ht : e.type.val = i <;> simp [ht]

/-- The first report holds the event's type, whatever the event says of it. -/
theorem first_event : (step start e).mNetworkInfo = [.ofItem e.dataitem e.now] ∧
    (step start e).dataitem = some e.dataitem ∧ (step start e).events = [e] := ⟨rfl, rfl, rfl⟩

theorem holds_first : Holds [e] (bit 64 e.type.val) ↔ e.connected = true := by
  have htype : e.type.val < 64 := Nat.lt_trans e.type.isLt (by omega)
  have hbit : ∀ i, lastConnected [e] i = if e.type.val = i then e.connected else false := fun i =>
    @lastConnected_concat e [] i
  constructor
  · intro h
    have hself := h e.type.val htype
    rw [getLsbD_bit htype, hbit, if_pos rfl] at hself
    rw [← hself]
    exact decide_eq_true rfl
  · intro hc i _
    rw [getLsbD_bit htype, hbit, hc]
    by_cases ht : e.type.val = i <;> simp [ht]

theorem typesFit_first : TypesFit (step start e) ↔ e.connected = true := by
  obtain ⟨hreport, hitem, hevents⟩ := @first_event e
  unfold TypesFit
  rw [hreport, hitem, hevents]
  constructor
  · intro h
    obtain ⟨_, item, hitem, hholds⟩ := h
    cases hitem
    rw [dataitem_mAllTypes] at hholds
    exact holds_first.mp hholds
  · intro hc
    have hholds : Holds [e] e.dataitem.mAllTypes := by
      rw [dataitem_mAllTypes]
      exact holds_first.mpr hc
    exact ⟨⟨_, rfl, hholds⟩, _, rfl, hholds⟩

/-- Every later event keeps the report and brings the item in line with it. -/
theorem typesFit_step (h : TypesFit w) : TypesFit (step w e) := by
  obtain ⟨⟨back, hback, hholds⟩, _⟩ := h
  have hbit := @dataitem_mAllTypes e
  have hne : (0 : BitVec 64) ≠ bit 64 e.type.val :=
    (bit_ne_zero (Nat.lt_trans e.type.isLt (by omega))).symm
  have hconn : e.dataitem.mConnected = e.connected := rfl
  have hnew : ((SystemStatusNetworkInfo.ofItem e.dataitem e.now).collate back).mAllTypes =
      if e.connected then bit 64 e.type.val ||| back.mAllTypes
      else back.mAllTypes &&& ~~~ bit 64 e.type.val := by
    simp only [SystemStatusNetworkInfo.collate, SystemStatusNetworkInfo.ofItem, hbit, hconn,
      if_pos hne]
  have hcollated := @holds_collate e _ _ hholds
  rw [← hnew] at hcollated
  have hsrc : ((SystemStatusNetworkInfo.ofItem e.dataitem e.now).collate back).mSrcObj =
      some { e.dataitem with
        mAllTypes := ((SystemStatusNetworkInfo.ofItem e.dataitem e.now).collate back).mAllTypes } :=
    rfl
  generalize hs : (SystemStatusNetworkInfo.ofItem e.dataitem e.now).collate back = s at *
  have hset : setIteminReport w.mNetworkInfo (.ofItem e.dataitem e.now) =
      if back.equals s then
        (false, w.mNetworkInfo.dropLast ++ [{ back with mUtcReported := s.mUtcReported }], s)
      else (true, pushReport w.mNetworkInfo s, s) := by
    rw [← hs]
    simp only [setIteminReport, hback]
    rfl
  have hevents : (step w e).events = w.events ++ [e] := rfl
  unfold TypesFit
  rw [hevents]
  simp only [step, eventDataItemNotify, hset]
  split
  · rename_i heq
    have hsame : back.mAllTypes = s.mAllTypes := of_decide_eq_true heq
    refine ⟨⟨_, List.getLast?_concat, ?_⟩, _, rfl, ?_⟩
    · show Holds _ back.mAllTypes
      rw [hsame]
      exact hcollated
    · rw [hsrc]
      exact hcollated
  · refine ⟨⟨s, getLast?_pushReport _ _, hcollated⟩, _, rfl, ?_⟩
    rw [hsrc]
    exact hcollated

end

/-! ## Runs -/

/-- **After every event the report and the item hold exactly the connected
types, in the runs that do not begin with a disconnect.** -/
theorem types_fit_iff (es : List NetworkEvent) :
    Steps step (fun w e => TypesFit (step w e)) start es ↔ ∀ e ∈ es.head?, e.connected = true := by
  cases es with
  | nil => exact iff_of_true trivial fun e he => nomatch he
  | cons e es =>
    have hlater : TypesFit (step start e) →
        Steps step (fun w e => TypesFit (step w e)) (step start e) es := fun h =>
      steps_of_inv (fun w e hw _ => @typesFit_step w e hw) (fun _ _ hw _ => typesFit_step hw) h
        (steps_of_forall (C := fun _ _ => True) (fun _ _ => trivial) _ es)
    rw [steps_cons, and_iff_left_of_imp hlater, typesFit_first]
    simp

/-- The first event disconnects Wi-Fi, and Wi-Fi is reported as connected. -/
theorem first_disconnect_reported_connected :
    let e : NetworkEvent := ⟨1, false, false, false, "", "", 0⟩
    ¬ Steps step (fun w e => TypesFit (step w e)) start [e] ∧
      (step start e).mNetworkInfo.map (·.mAllTypes) = [2#64] := by
  refine ⟨fun h => ?_, by decide⟩
  exact absurd (typesFit_first.mp h.1) (by decide)

end DeviceHal.Core.NetworkInfo
