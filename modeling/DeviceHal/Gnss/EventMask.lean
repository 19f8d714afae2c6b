import DeviceHal.Lib.BitMask
import DeviceHal.Lib.Run
import DeviceHal.Gnss.ConfigUpdate
import DeviceHal.Gnss.TrackingSessions
import Mathlib.Tactic

/-! # The registration mask

`updateClientsEventMask` computes the events the adapter wants from its state.
Adding and removing a client compute it anew, the two initialisations only add
their bit, and the configuration changes what the mask depends on and leaves
the mask. -/
namespace DeviceHal.Gnss.EventMask
open DeviceHal.Lib.Run DeviceHal.Lib.BitMask DeviceHal.Gnss.TrackingSessions
open ConfigUpdate (LOC_GPS_CAPABILITY_MSB LOC_GPS_CAPABILITY_MSA)

/-! ## The adapter -/

def NMEA_PROVIDER_MP : UInt32 := 1
/-- The sentence types from GGA to PQGSV. -/
def LOC_NMEA_ALL_GENERAL_SUPPORTED_MASK : UInt32 := 0x0001FFFF
def LOC_NMEA_MASK_DEBUG_V02 : UInt32 := 0x00020000

structure AgpsCbInfo where
  /-- The callback is not NULL. -/
  statusV4Cb : Bool
  cbPriority : Nat
deriving DecidableEq

/-- The adapter, the priority of its AGPS callback, and the configuration it reads. -/
structure EventAdapter where
  base : GnssAdapter
  cbPriority : Nat
  CAPABILITIES : UInt32
  NMEA_PROVIDER : UInt32

inductive EventMsg where
  | addClient (client : LocationAPI) (callbacks : LocationCallbacks)
  | removeClient (client : LocationAPI)
  | initAgps (cbInfo : AgpsCbInfo)
  | initOdcpi (callback : Bool)
  /-- `debugNmea` is what the engine says of `LOC_SUPPORTED_FEATURE_DEBUG_NMEA_V02`. -/
  | setConfig (debugNmea : Bool)
  | readConfig (capabilities nmeaProvider : UInt32) (externalDr : Nat)

namespace EventAdapter

/-- A new adapter before it has read a configuration. -/
def start : EventAdapter := ⟨.new 0 false false 0, 0, 0, 0⟩

/-- `updateEvtMask` with `LOC_REGISTRATION_MASK_ENABLED`. -/
def enableEvents (a : EventAdapter) (event : UInt64) : EventAdapter :=
  { a with base := { a.base with mEvtMask := a.base.mEvtMask ||| event } }

/-- Callbacks of a lower priority than the present ones are not taken. -/
def initAgps (a : EventAdapter) (cbInfo : AgpsCbInfo) : EventAdapter :=
  if ¬ (a.CAPABILITIES &&& LOC_GPS_CAPABILITY_MSB ≠ 0 ∨
      a.CAPABILITIES &&& LOC_GPS_CAPABILITY_MSA ≠ 0) then a
  else if a.cbPriority > cbInfo.cbPriority then a
  else
    { a with
      base := { a.base with statusV4Cb := cbInfo.statusV4Cb }
      cbPriority := cbInfo.cbPriority }.enableEvents LOC_API_ADAPTER_BIT_LOCATION_SERVER_REQUEST

def initOdcpi (a : EventAdapter) (callback : Bool) : EventAdapter :=
  { a with base := { a.base with odcpiRequestCb := callback } }.enableEvents
    LOC_API_ADAPTER_BIT_REQUEST_WIFI

def nmeaTypes (a : EventAdapter) (debugNmea : Bool) : UInt32 :=
  let mask := if NMEA_PROVIDER_MP = a.NMEA_PROVIDER then LOC_NMEA_ALL_GENERAL_SUPPORTED_MASK else 0
  if debugNmea then mask ||| LOC_NMEA_MASK_DEBUG_V02 else mask

/-- What `MsgSetConfig` does to the adapter. -/
def setConfig (a : EventAdapter) (debugNmea : Bool) : EventAdapter :=
  { a with base := { a.base with mNmeaMask := a.nmeaTypes debugNmea } }

variable (results : Nat → Int)

def proc (a : EventAdapter) : EventMsg → EventAdapter
  | .addClient client callbacks => { a with base := a.base.saveClient client callbacks }
  | .removeClient client => { a with base := a.base.procRemoveClient results client }
  | .initAgps cbInfo => a.initAgps cbInfo
  | .initOdcpi callback => a.initOdcpi callback
  | .setConfig debugNmea => a.setConfig debugNmea
  | .readConfig capabilities nmeaProvider externalDr =>
    { a with
      base := { a.base with EXTERNAL_DR_ENABLED := externalDr }
      CAPABILITIES := capabilities
      NMEA_PROVIDER := nmeaProvider }

end EventAdapter

/-! ## The mask bit by bit -/

/-- The mask that would be computed now. -/
def computed (a : GnssAdapter) : UInt64 := a.updateClientsEventMask.mEvtMask

def hasBit (mask : UInt64) (i : Nat) : Bool := mask.toBitVec.getLsbD i

section
variable {i : Nat}

theorem hasBit_or (a b : UInt64) : hasBit (a ||| b) i = (hasBit a i || hasBit b i) := by
  simp [hasBit]

theorem mask_ext {a b : UInt64} (h : ∀ i, hasBit a i = hasBit b i) : a = b :=
  UInt64.toBitVec_inj.mp (BitVec.eq_of_getLsbD_eq fun i _ => h i)

theorem hasBit_ite {c : Prop} [Decidable c] (event : UInt64) :
    hasBit (if c then event else 0) i = (decide c && hasBit event i) := by
  split
  · rename_i hc
    simp [hc]
  · rename_i hc
    simp [hasBit, hc]

theorem hasBit_raise {c : Prop} [Decidable c] (mask event : UInt64) :
    hasBit (if c then mask ||| event else mask) i = (hasBit mask i || decide c && hasBit event i) := by
  split
  · rename_i hc
    simp [hc, hasBit_or]
  · rename_i hc
    simp [hc]

theorem hasBit_event {event : UInt64} {n : Nat} (hn : n < 64) (hevent : event.toBitVec = bit 64 n) :
    hasBit event i = decide (n = i) := by
  rw [hasBit, hevent, getLsbD_bit hn]

theorem hasBit_position : hasBit LOC_API_ADAPTER_BIT_PARSED_POSITION_REPORT i = decide (0 = i) :=
  hasBit_event (by omega) rfl

theorem hasBit_satellite : hasBit LOC_API_ADAPTER_BIT_SATELLITE_REPORT i = decide (1 = i) :=
  hasBit_event (by omega) rfl

theorem hasBit_nmea : hasBit LOC_API_ADAPTER_BIT_NMEA_1HZ_REPORT i = decide (2 = i) :=
  hasBit_event (by omega) rfl

theorem hasBit_ni : hasBit LOC_API_ADAPTER_BIT_NI_NOTIFY_VERIFY_REQUEST i = decide (4 = i) :=
  hasBit_event (by omega) rfl

theorem hasBit_server : hasBit LOC_API_ADAPTER_BIT_LOCATION_SERVER_REQUEST i = decide (6 = i) :=
  hasBit_event (by omega) rfl

theorem hasBit_wifi : hasBit LOC_API_ADAPTER_BIT_REQUEST_WIFI i = decide (9 = i) :=
  hasBit_event (by omega) rfl

theorem hasBit_polynomial :
    hasBit LOC_API_ADAPTER_BIT_GNSS_SV_POLYNOMIAL_REPORT i = decide (23 = i) :=
  hasBit_event (by omega) rfl

theorem hasBit_measurement : hasBit LOC_API_ADAPTER_BIT_GNSS_MEASUREMENT i = decide (26 = i) :=
  hasBit_event (by omega) rfl

theorem hasBit_clientMask (nmeaMask : UInt32) (callbacks : LocationCallbacks) :
    hasBit (GnssAdapter.clientMask nmeaMask callbacks) i =
      (callbacks.trackingCb && decide (0 = i) || callbacks.gnssNiCb && decide (4 = i) ||
        callbacks.gnssSvCb && decide (1 = i) ||
        (callbacks.gnssNmeaCb && nmeaMask != 0) && decide (2 = i) ||
        callbacks.gnssMeasurementsCb && decide (26 = i)) := by
  simp only [GnssAdapter.clientMask, hasBit_or, hasBit_ite, hasBit_position, hasBit_ni,
    hasBit_satellite, hasBit_nmea, hasBit_measurement, Bool.decide_eq_true]

/-- Some client asks for the event. -/
def wanted (a : GnssAdapter) (i : Nat) : Bool :=
  a.mClientData.toList.any fun entry => hasBit (GnssAdapter.clientMask a.mNmeaMask entry.2) i

theorem hasBit_foldl {α : Type*} (f : α → UInt64) (l : List α) (mask : UInt64) :
    hasBit (l.foldl (fun mask x => mask ||| f x) mask) i =
      (hasBit mask i || l.any fun x => hasBit (f x) i) := by
  induction l generalizing mask with
  | nil => simp
  | cons x l ih => rw [List.foldl_cons, ih, hasBit_or, List.any_cons, Bool.or_assoc]

/-- What each bit of the computed mask comes from. -/
theorem hasBit_computed (a : GnssAdapter) : hasBit (computed a) i =
    (wanted a i || decide (a.EXTERNAL_DR_ENABLED = 1) && (decide (26 = i) || decide (23 = i)) ||
      a.statusV4Cb && decide (6 = i) || a.odcpiRequestCb && decide (9 = i)) := by
  have hzero : hasBit 0 i = false := by simp [hasBit]
  rw [computed, GnssAdapter.updateClientsEventMask]
  simp only [hasBit_raise, hasBit_wifi, hasBit_server, UInt64.or_assoc, hasBit_or,
    hasBit_measurement, hasBit_polynomial, Bool.decide_eq_true, Std.TreeMap.foldl_eq_foldl_toList,
    hasBit_foldl, hzero, Bool.false_or]
  rfl

end

/-! ## Which events the clients ask for -/

/-- Some client has an NMEA callback. -/
def hasNmeaClient (a : GnssAdapter) : Bool := a.mClientData.toList.any (·.2.gnssNmeaCb)

section
variable {a : GnssAdapter}

/-- Three events are never asked for by a client. -/
theorem wanted_own {i : Nat} (hi : i = 6 ∨ i = 9 ∨ i = 23) : wanted a i = false := by
  rw [wanted, List.any_eq_false]
  intro entry _
  rw [hasBit_clientMask]
  rcases hi with rfl | rfl | rfl <;> simp

theorem wanted_nmea : wanted a 2 = (hasNmeaClient a && a.mNmeaMask != 0) := by
  simp only [wanted, hasNmeaClient, hasBit_clientMask]
  cases a.mNmeaMask != 0 <;> simp

/-- The other events do not depend on the NMEA types. -/
theorem wanted_of_ne_nmea {i : Nat} (hi : i ≠ 2) (mask : UInt32) :
    wanted { a with mNmeaMask := mask } i = wanted a i := by
  simp only [wanted, hasBit_clientMask, Ne.symm hi, decide_false, Bool.and_false]

end

/-! ## What one message does -/

def Registered (a : EventAdapter) : Prop := a.base.mEvtMask = computed a.base

/-- The events of external dead reckoning are registered if it is enabled. -/
def DrRegistered (a : EventAdapter) : Prop :=
  hasBit a.base.mEvtMask 23 = decide (a.base.EXTERNAL_DR_ENABLED = 1)

/-- The mask is the computed one for dead reckoning as it was then. -/
def Consistent (a : EventAdapter) : Prop :=
  ∀ i, hasBit a.base.mEvtMask i = (wanted a.base i ||
    hasBit a.base.mEvtMask 23 && (decide (26 = i) || decide (23 = i)) ||
    a.base.statusV4Cb && decide (6 = i) || a.base.odcpiRequestCb && decide (9 = i))

/-- The capabilities and the priority let the callbacks in. -/
def TakesAgps (a : EventAdapter) (cbInfo : AgpsCbInfo) : Prop :=
  (a.CAPABILITIES &&& LOC_GPS_CAPABILITY_MSB ≠ 0 ∨ a.CAPABILITIES &&& LOC_GPS_CAPABILITY_MSA ≠ 0) ∧
    a.cbPriority ≤ cbInfo.cbPriority

/-- What a message must bring along for the mask to be right after it. -/
def Tolerated (a : EventAdapter) : EventMsg → Prop
  | .initAgps cbInfo => DrRegistered a ∧ (TakesAgps a cbInfo → cbInfo.statusV4Cb = true)
  | .initOdcpi callback => DrRegistered a ∧ callback = true
  | .setConfig debugNmea => DrRegistered a ∧
      (hasNmeaClient a.base = true → (a.nmeaTypes debugNmea = 0 ↔ a.base.mNmeaMask = 0))
  | _ => True

def EventMsg.isRead : EventMsg → Bool
  | .readConfig .. => true
  | _ => false

section
variable {a : EventAdapter}

theorem Registered.dr (h : Registered a) : DrRegistered a := by
  rw [DrRegistered, h, hasBit_computed, wanted_own (by omega)]
  simp

theorem Registered.consistent (h : Registered a) : Consistent a := by
  intro i
  rw [h.dr, h, hasBit_computed]

theorem registered_iff (hc : Consistent a) : Registered a ↔ DrRegistered a := by
  refine ⟨Registered.dr, fun hdr => mask_ext fun i => ?_⟩
  rw [hc i, hdr, hasBit_computed]

/-- A message that adds an event `n`, which is wanted if its callback is set. -/
theorem registered_add {b : EventAdapter} {n : Nat} {callback : Bool} (hn : n ≠ 23)
    (hmask : ∀ i, hasBit b.base.mEvtMask i = (hasBit a.base.mEvtMask i || decide (n = i)))
    (hrest : ∀ i, n ≠ i → hasBit (computed b.base) i = hasBit (computed a.base) i)
    (hown : hasBit (computed b.base) n = callback) (hc : Consistent a) :
    Registered b ↔ DrRegistered a ∧ callback = true := by
  constructor
  · intro h
    have hbit : ∀ i, hasBit b.base.mEvtMask i = hasBit (computed b.base) i :=
      fun i => congrArg (hasBit · i) h
    constructor
    · have h23 := hbit 23
      rw [hmask, hrest 23 hn, hasBit_computed, wanted_own (by omega)] at h23
      simpa [DrRegistered, hn] using h23
    · rw [← hown, ← hbit n, hmask]
      simp
  · intro h
    obtain ⟨hdr, hcallback⟩ := h
    have ha : Registered a := (registered_iff hc).mpr hdr
    refine mask_ext fun i => ?_
    rw [hmask, ha]
    by_cases hi : n = i
    · subst hi
      rw [hown, hcallback]
      simp
    · rw [hrest i hi]
      simp [hi]

theorem registered_initOdcpi (hc : Consistent a) (callback : Bool) :
    Registered (a.initOdcpi callback) ↔ Tolerated a (.initOdcpi callback) := by
  refine registered_add (n := 9) (by omega) ?_ ?_ ?_ hc
  · intro i
    rw [← hasBit_wifi, ← hasBit_or]
    rfl
  · intro i hi
    simp only [hasBit_computed, hi, decide_false, Bool.and_false]
    rfl
  · rw [hasBit_computed, wanted_own (by omega)]
    simp [EventAdapter.initOdcpi, EventAdapter.enableEvents]

theorem registered_initAgps (hc : Consistent a) (cbInfo : AgpsCbInfo) :
    Registered (a.initAgps cbInfo) ↔ Tolerated a (.initAgps cbInfo) := by
  by_cases htakes : TakesAgps a cbInfo
  · have ha : a.initAgps cbInfo = { a with
        base := { a.base with statusV4Cb := cbInfo.statusV4Cb }
        cbPriority := cbInfo.cbPriority }.enableEvents
          LOC_API_ADAPTER_BIT_LOCATION_SERVER_REQUEST := by
      rw [EventAdapter.initAgps, if_neg (not_not_intro htakes.1), if_neg (Nat.not_lt.mpr htakes.2)]
    have hadd : Registered (a.initAgps cbInfo) ↔ DrRegistered a ∧ cbInfo.statusV4Cb = true := by
      rw [ha]
      refine registered_add (n := 6) (by omega) ?_ ?_ ?_ hc
      · intro i
        rw [← hasBit_server, ← hasBit_or]
        rfl
      · intro i hi
        simp only [hasBit_computed, hi, decide_false, Bool.and_false]
        rfl
      · rw [hasBit_computed, wanted_own (by omega)]
        simp [EventAdapter.enableEvents]
    rw [hadd, Tolerated, forall_prop_of_true htakes]
  · have ha : a.initAgps cbInfo = a := by
      unfold EventAdapter.initAgps
      split
      · rfl
      · rename_i hcap
        rw [if_pos (Nat.not_le.mp fun h => htakes ⟨not_not.mp hcap, h⟩)]
    rw [ha, registered_iff hc, Tolerated, and_iff_left fun h => absurd h htakes]

theorem registered_setConfig (hc : Consistent a) (debugNmea : Bool) :
    Registered (a.setConfig debugNmea) ↔ Tolerated a (.setConfig debugNmea) := by
  have hmask : (a.setConfig debugNmea).base.mEvtMask = a.base.mEvtMask := rfl
  have hnmea : hasBit (computed (a.setConfig debugNmea).base) 2 =
      (hasNmeaClient a.base && a.nmeaTypes debugNmea != 0) := by
    rw [hasBit_computed, wanted_nmea]
    simp
    rfl
  have hrest : ∀ i, i ≠ 2 →
      hasBit (computed (a.setConfig debugNmea).base) i = hasBit (computed a.base) i := by
    intro i hi
    rw [hasBit_computed, hasBit_computed]
    rw [show wanted (a.setConfig debugNmea).base i = wanted a.base i from
      wanted_of_ne_nmea hi (a.nmeaTypes debugNmea)]
    rfl
  have hold : hasBit (computed a.base) 2 = (hasNmeaClient a.base && a.base.mNmeaMask != 0) := by
    rw [hasBit_computed, wanted_nmea]
    simp
  constructor
  · intro h
    have hbit : ∀ i, hasBit a.base.mEvtMask i = hasBit (computed (a.setConfig debugNmea).base) i :=
      fun i => congrArg (hasBit · i) h
    have hdr : DrRegistered a := by
      rw [DrRegistered, hbit 23, hrest 23 (by omega), hasBit_computed, wanted_own (by omega)]
      simp
    refine ⟨hdr, fun hclient => ?_⟩
    have h2 := hbit 2
    rw [(registered_iff hc).mpr hdr, hold, hnmea, hclient] at h2
    rw [Bool.true_and, Bool.true_and, Bool.eq_iff_iff, bne_iff_ne, bne_iff_ne] at h2
    exact (not_iff_not.mp h2).symm
  · intro h
    obtain ⟨hdr, hzero⟩ := h
    have ha : Registered a := (registered_iff hc).mpr hdr
    refine mask_ext fun i => ?_
    rw [hmask, ha]
    by_cases hi : i = 2
    · rw [hi, hold, hnmea]
      cases hclient : hasNmeaClient a.base with
      | false => rfl
      | true =>
        rw [Bool.true_and, Bool.true_and, Bool.eq_iff_iff, bne_iff_ne, bne_iff_ne]
        exact not_congr (hzero hclient).symm
    · exact (hrest i hi).symm

/-! ## Runs -/

variable {results : Nat → Int}

theorem registered_proc_iff {e : EventMsg} (hc : Consistent a) :
    (e.isRead = false → Registered (a.proc results e)) ↔ Tolerated a e := by
  cases e with
  | addClient client callbacks => exact iff_of_true (fun _ => rfl) trivial
  | removeClient client => exact iff_of_true (fun _ => rfl) trivial
  | initAgps cbInfo => exact (forall_prop_of_true rfl).trans (registered_initAgps hc cbInfo)
  | initOdcpi callback => exact (forall_prop_of_true rfl).trans (registered_initOdcpi hc callback)
  | setConfig debugNmea => exact (forall_prop_of_true rfl).trans (registered_setConfig hc debugNmea)
  | readConfig capabilities nmeaProvider externalDr =>
    exact iff_of_true (fun h => Bool.noConfusion h) trivial

theorem consistent_proc {e : EventMsg} (hc : Consistent a)
    (hq : e.isRead = false → Registered (a.proc results e)) : Consistent (a.proc results e) := by
  cases e with
  | readConfig capabilities nmeaProvider externalDr => exact hc
  | _ => exact (hq rfl).consistent

end

theorem consistent_start : Consistent .start := by
  intro i
  simp [EventAdapter.start, GnssAdapter.new, wanted, hasBit]

/-- **The registration mask.** After every message other than the reading of a
configuration the mask is the one that would be computed, in exactly the runs
in which the initialisations bring their callbacks, a configuration that
changes whether there are NMEA types finds no client for them, and the three
find dead reckoning registered if and only if it is enabled. -/
theorem mask_registered_iff (results : Nat → Int) (es : List EventMsg) :
    Steps (EventAdapter.proc results)
      (fun a e => e.isRead = false → Registered (a.proc results e)) .start es ↔
    Steps (EventAdapter.proc results) Tolerated .start es :=
  steps_iff_guard (I := Consistent) (A := fun _ _ => True)
    (fun _ _ hc _ => registered_proc_iff hc) (fun _ _ hc _ hq => consistent_proc hc hq)
    consistent_start (steps_of_forall (fun _ _ => trivial) _ es)

/-- The engine supports debug sentences only when it is up again; the client's
callback for them is known, and their event is not registered. -/
theorem debug_nmea_unregistered :
    let a := run (EventAdapter.proc fun _ => 0) .start
      [.readConfig 0 0 0, .setConfig false, .addClient 1 ⟨true, true, false, false, true, false⟩,
        .setConfig true]
    ¬ Registered a ∧ hasBit (computed a.base) 2 = true ∧ hasBit a.base.mEvtMask 2 = false := by
  refine ⟨fun h => ?_, by decide, by decide⟩
  exact absurd (congrArg (hasBit · 2) h) (by decide)

end DeviceHal.Gnss.EventMask
