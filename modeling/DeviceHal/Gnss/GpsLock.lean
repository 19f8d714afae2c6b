import DeviceHal.Lib.Run
import DeviceHal.Gnss.ConfigUpdate
import DeviceHal.Gnss.XtraObserver
import Mathlib.Tactic

/-! # The GPS lock of the engine and of the XTRA daemon

Three messages tell the engine a lock. Enabling and disabling tell the observer
the same lock, a configuration does not. -/
namespace DeviceHal.Gnss.GpsLock
open DeviceHal.Lib.Run DeviceHal.Gnss.LocationTypes DeviceHal.Gnss.ConfigUpdate
open DeviceHal.Gnss.PowerVote DeviceHal.Gnss.XtraObserver
open GnssConfigGpsLock

/-! ## The two views -/

/-- The lock last given to the engine. -/
def engineLock (calls : List AdapterCall) : Option GnssConfigGpsLock :=
  (calls.filterMap fun
    | .setGpsLock lock => some lock
    | _ => none).getLast?

def observe (o : XtraSystemStatusObserver) : AdapterCall → XtraSystemStatusObserver
  | .updateLockStatus lock => (o.updateLockStatus lock).1
  | _ => o

/-- The lock that the observer holds after the calls. -/
def observerLock (calls : List AdapterCall) : Int32 :=
  (calls.foldl observe .new).mGpsLock

section
variable {calls : List AdapterCall}

theorem engineLock_concat (c : AdapterCall) : engineLock (calls ++ [c]) =
    match c with
    | .setGpsLock lock => some lock
    | _ => engineLock calls := by
  cases c <;> simp [engineLock, List.filterMap_append]

theorem observerLock_concat (c : AdapterCall) : observerLock (calls ++ [c]) =
    match c with
    | .updateLockStatus lock => lock.toInt32
    | _ => observerLock calls := by
  rw [observerLock, List.foldl_append, List.foldl_cons, List.foldl_nil]
  cases c with
  | updateLockStatus lock =>
    simp only [observe, XtraSystemStatusObserver.updateLockStatus,
      XtraSystemStatusObserver.sendIfRequested]
    split <;> rfl
  | _ => rfl

end

/-! ## Messages -/

inductive LockMsg where
  | power (msg : PowerMsg)
  | config (msg : MsgGnssUpdateConfig) (api : Api)

def step (a : ConfigAdapter) : LockMsg → ConfigAdapter
  | .power msg => { a with base := a.base.proc msg }
  | .config msg api => msg.proc a api

/-- An adapter that has told the engine and the observer nothing. -/
def start (gpsLock : UInt32) (conf : GpsConf) (url : List UInt8) : ConfigAdapter :=
  ⟨.start gpsLock, conf, url, [], []⟩

/-- The message gave the engine a lock. -/
def LockCalled (a b : ConfigAdapter) : Prop :=
  ∃ lock, AdapterCall.setGpsLock lock ∈ b.base.calls.drop a.base.calls.length

def ViewsFit (a : ConfigAdapter) : Prop :=
  ∀ lock ∈ engineLock a.base.calls, observerLock a.base.calls = (lockValue lock).toInt32

/-- During a power vote nothing is locked. -/
def VoteFits (a : ConfigAdapter) : Prop :=
  a.base.mPowerVoteId ≠ 0 → engineLock a.base.calls = some GNSS_CONFIG_GPS_LOCK_NONE

/-- A configured lock that goes to the engine is the one the observer holds. -/
def LockKnown (a : ConfigAdapter) : LockMsg → Prop
  | .power _ => True
  | .config msg _ => msg.mConfig.flags &&& GNSS_CONFIG_FLAGS_GPS_LOCK_VALID_BIT ≠ 0 →
      a.base.mPowerVoteId = 0 →
      observerLock a.base.calls = (lockValue msg.mConfig.gpsLock).toInt32

/-! ## The lock in a configuration message -/

section
variable {a : ConfigAdapter} {api : Api} {config : GnssConfig}

theorem base_updateItem (x : ConfItem) (allowed : Bool) (new : UInt32) (c : EngineCall) :
    (a.updateItem api x allowed new c).1.base = a.base := by
  unfold ConfigAdapter.updateItem
  split <;> rfl

theorem base_assistanceServer : (a.updateAssistanceServer api config).1.base = a.base := by
  simp only [ConfigAdapter.updateAssistanceServer, ConfigAdapter.setSuplHostServer]
  repeat' split
  all_goals rfl

theorem base_suplMode : (a.updateSuplMode api config).1.base = a.base := by
  simp only [ConfigAdapter.updateSuplMode]
  split <;> rfl

/-- Only the first part has to do with the lock. -/
theorem base_part {p : Part} (hp : p ∈ parts.tail) : (p.update a api config).1.base = a.base := by
  simp only [parts, List.tail_cons, List.mem_cons, List.not_mem_nil, or_false] at hp
  rcases hp with rfl | rfl | rfl | rfl | rfl | rfl | rfl | rfl | rfl
  · exact base_updateItem _ _ _ _
  · exact base_assistanceServer
  · exact base_updateItem _ _ _ _
  · exact base_updateItem _ _ _ _
  · exact base_updateItem _ _ _ _
  · exact base_updateItem _ _ _ _
  · rfl
  · rfl
  · exact base_suplMode

theorem base_run {m : MsgGnssUpdateConfig} {ps : List Part} (hps : ∀ p ∈ ps, p ∈ parts.tail)
    (s : ConfigAdapter × Answers) : (ps.foldl (Part.run m api) s).1.base = s.1.base := by
  induction ps generalizing s with
  | nil => rfl
  | cons p ps ih =>
    rw [List.foldl_cons, ih fun q hq => hps q (.tail _ hq)]
    unfold Part.run
    split
    · exact base_part (hps p (.head _))
    · rfl

/-- What a message does to the lock and its calls. -/
theorem base_proc (m : MsgGnssUpdateConfig) : (m.proc a api).base =
    if m.mConfig.flags &&& GNSS_CONFIG_FLAGS_GPS_LOCK_VALID_BIT ≠ 0 then
      (a.updateGpsLock api m.mConfig).1.base
    else a.base := by
  have hrun : (m.proc a api).base = (parts.tail.foldl (Part.run m api)
      (Part.run m api (a, ⟨0, []⟩) ⟨GNSS_CONFIG_FLAGS_GPS_LOCK_VALID_BIT,
        ConfigAdapter.updateGpsLock⟩)).1.base := rfl
  rw [hrun, base_run fun _ hp => hp, Part.run]
  split <;> rfl

theorem updateGpsLock_voteId :
    (a.updateGpsLock api config).1.base.mPowerVoteId = a.base.mPowerVoteId := by
  simp only [ConfigAdapter.updateGpsLock]
  split <;> rfl

theorem updateGpsLock_calls : (a.updateGpsLock api config).1.base.calls =
    if a.base.mPowerVoteId = 0 then a.base.calls ++ [.setGpsLock config.gpsLock]
    else a.base.calls := by
  simp only [ConfigAdapter.updateGpsLock]
  split <;> rfl

end

/-! ## One message -/

/-- A message that only answers leaves both locks. -/
theorem fits_of_answer {a : ConfigAdapter} {b : PowerVote.GnssAdapter} {err : LocationError}
    {sessionId : UInt32} (hv : VoteFits a) (hid : b.mPowerVoteId = a.base.mPowerVoteId)
    (hcalls : b.calls = a.base.calls ++ [.reportResponse err sessionId]) :
    (LockCalled a { a with base := b } → ViewsFit { a with base := b }) ∧
      VoteFits { a with base := b } := by
  constructor
  · rintro ⟨lock, hlock⟩
    rw [hcalls, List.drop_left] at hlock
    simp at hlock
  · intro hne
    have hold := hv (hid ▸ hne)
    simpa only [hcalls, engineLock_concat] using hold

/-- A message that tells the engine and the observer one lock. -/
theorem fits_of_told {a : ConfigAdapter} {b : PowerVote.GnssAdapter} {lock : GnssConfigGpsLock}
    {err : LocationError} {sessionId : UInt32}
    (hvote : b.mPowerVoteId ≠ 0 → lock = GNSS_CONFIG_GPS_LOCK_NONE)
    (hcalls : b.calls = a.base.calls ++ [.setGpsLock lock] ++ [.updateLockStatus (lockValue lock)] ++
      [.reportResponse err sessionId]) :
    (LockCalled a { a with base := b } → ViewsFit { a with base := b }) ∧
      VoteFits { a with base := b } := by
  constructor
  · intro _ told htold
    simp only [hcalls, engineLock_concat, Option.mem_def, Option.some.injEq] at htold
    simp only [hcalls, observerLock_concat, ← htold]
  · intro hne
    simp only [hcalls, engineLock_concat, hvote hne]

theorem power_spec {a : ConfigAdapter} (msg : PowerMsg) (hv : VoteFits a) :
    (LockCalled a (step a (.power msg)) → ViewsFit (step a (.power msg))) ∧
      VoteFits (step a (.power msg)) := by
  rw [step]
  cases msg with
  | MsgEnableGnss sessionId techType =>
    simp only [GnssAdapter.proc]
    split
    · exact fits_of_answer hv rfl rfl
    · split
      · exact fits_of_answer hv rfl rfl
      · exact @fits_of_told a _ GNSS_CONFIG_GPS_LOCK_NONE _ _ (fun _ => rfl) rfl
  | MsgDisableGnss sessionId =>
    simp only [GnssAdapter.proc]
    split
    · exact fits_of_answer hv rfl rfl
    · exact fits_of_told (fun hne => absurd rfl hne) rfl

/-- A message without a call leaves both locks. -/
theorem fits_of_silent {a b : ConfigAdapter} (hv : VoteFits a)
    (hid : b.base.mPowerVoteId = a.base.mPowerVoteId) (hcalls : b.base.calls = a.base.calls) :
    (LockCalled a b → ViewsFit b) ∧ VoteFits b := by
  constructor
  · rintro ⟨lock, hlock⟩
    rw [hcalls, List.drop_length] at hlock
    cases hlock
  · intro hne
    rw [hcalls]
    exact hv (hid ▸ hne)

theorem config_spec {a : ConfigAdapter} (m : MsgGnssUpdateConfig) (api : Api) (hv : VoteFits a) :
    ((LockCalled a (step a (.config m api)) → ViewsFit (step a (.config m api))) ↔
      LockKnown a (.config m api)) ∧ VoteFits (step a (.config m api)) := by
  have hbase : (step a (.config m api)).base = _ := @base_proc a api m
  by_cases hflag : m.mConfig.flags &&& GNSS_CONFIG_FLAGS_GPS_LOCK_VALID_BIT ≠ 0
  · rw [if_pos hflag] at hbase
    have hid : (step a (.config m api)).base.mPowerVoteId = a.base.mPowerVoteId := by
      rw [hbase, updateGpsLock_voteId]
    by_cases hvote : a.base.mPowerVoteId = 0
    · -- the lock goes to the engine and not to the observer
      have hcalls : (step a (.config m api)).base.calls =
          a.base.calls ++ [.setGpsLock m.mConfig.gpsLock] := by
        rw [hbase, updateGpsLock_calls, if_pos hvote]
      have hcalled : LockCalled a (step a (.config m api)) :=
        ⟨m.mConfig.gpsLock, by rw [hcalls, List.drop_left]; exact List.mem_singleton_self _⟩
      have hvoteFits : VoteFits (step a (.config m api)) :=
        fun hne => absurd (hid.trans hvote) hne
      have hviews : ViewsFit (step a (.config m api)) ↔
          observerLock a.base.calls = (lockValue m.mConfig.gpsLock).toInt32 := by
        simp only [ViewsFit, hcalls, engineLock_concat, observerLock_concat, Option.mem_def,
          Option.some.injEq, forall_eq']
      refine ⟨⟨fun h _ _ => ?_, fun h _ => ?_⟩, hvoteFits⟩
      · exact hviews.mp (h hcalled)
      · exact hviews.mpr (h hflag hvote)
    · have hcalls : (step a (.config m api)).base.calls = a.base.calls := by
        rw [hbase, updateGpsLock_calls, if_neg hvote]
      obtain ⟨hviews, hvoteFits⟩ := fits_of_silent hv hid hcalls
      exact ⟨iff_of_true hviews fun _ h0 => absurd h0 hvote, hvoteFits⟩
  · rw [if_neg hflag] at hbase
    obtain ⟨hviews, hvoteFits⟩ := @fits_of_silent a (step a (.config m api)) hv (by rw [hbase])
      (by rw [hbase])
    exact ⟨iff_of_true hviews fun h => absurd h hflag, hvoteFits⟩

/-! ## Runs -/

theorem voteFits_step {a : ConfigAdapter} (e : LockMsg) (hv : VoteFits a) : VoteFits (step a e) := by
  cases e with
  | power msg => exact (power_spec msg hv).2
  | config m api => exact (config_spec m api hv).2

/-- A power vote finds the engine unlocked in every run. -/
theorem voteFits_run (gpsLock : UInt32) (conf : GpsConf) (url : List UInt8) (es : List LockMsg) :
    Steps step (fun a e => VoteFits (step a e)) (start gpsLock conf url) es :=
  steps_of_inv (I := VoteFits) (A := fun _ _ => True) (fun _ e hv _ => voteFits_step e hv)
    (fun _ e hv _ => voteFits_step e hv) (fun h => absurd rfl h) (steps_of_forall (fun _ _ => trivial) _ es)

/-- **The engine's lock and the observer's.** They agree after every message
that gives the engine a lock, and a power vote finds the engine unlocked, in
exactly the runs in which a lock that a configuration gives to the engine is
the one the observer has. -/
theorem lock_views_iff (gpsLock : UInt32) (conf : GpsConf) (url : List UInt8) (es : List LockMsg) :
    Steps step (fun a e => (LockCalled a (step a e) → ViewsFit (step a e)) ∧ VoteFits (step a e))
      (start gpsLock conf url) es ↔
    Steps step LockKnown (start gpsLock conf url) es := by
  refine steps_iff_guard (I := VoteFits) (A := fun _ _ => True) ?_ (fun _ _ _ _ hq => hq.2)
    (fun h => absurd rfl h) (steps_of_forall (fun _ _ => trivial) _ es)
  intro a e hv _
  cases e with
  | power msg => exact iff_of_true (power_spec msg hv) trivial
  | config m api =>
    obtain ⟨hiff, hvote⟩ := config_spec m api hv
    rw [and_iff_left hvote, hiff]

/-- The configured lock goes to the engine, and the observer has none yet. -/
theorem configured_lock_untold :
    let config : GnssConfig := ⟨GNSS_CONFIG_FLAGS_GPS_LOCK_VALID_BIT, GNSS_CONFIG_GPS_LOCK_MO_AND_NI,
      .GNSS_CONFIG_SUPL_VERSION_1_0_0, ⟨0, none, 0⟩, .GNSS_CONFIG_LPP_PROFILE_RRLP_ON_LTE, 0, 0, 0,
      .GNSS_CONFIG_EMERGENCY_PDN_FOR_EMERGENCY_SUPL_NO, .GNSS_CONFIG_SUPL_EMERGENCY_SERVICES_NO, 0⟩
    let a := start 0 ⟨0x00010000, 0, 0, 0, 0, 0, 0, 1, 0, 0⟩ []
    let e : LockMsg := .config ⟨config, [2]⟩ ⟨fun _ => .LOCATION_ERROR_SUCCESS, fun _ => none, 0⟩
    LockCalled a (step a e) ∧ ¬ ViewsFit (step a e) := by
  refine ⟨⟨GNSS_CONFIG_GPS_LOCK_MO_AND_NI, by decide⟩, fun h => ?_⟩
  exact absurd (h GNSS_CONFIG_GPS_LOCK_MO_AND_NI (by decide)) (by decide)

end DeviceHal.Gnss.GpsLock
