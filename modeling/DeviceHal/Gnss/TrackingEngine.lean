import DeviceHal.Gnss.TrackingMultiplex

/-! # What the engine runs with

Each message of the adapter keeps the engine on a session with the least
interval, in either view, as long as a change that makes no engine call leaves
what the engine runs with among the sessions. For intervals that is automatic
but for a start that repeats a session's key. For position modes it is not. -/
namespace DeviceHal.Gnss.TrackingEngine
open DeviceHal.Lib.Run DeviceHal.Lib.LeastDemand
open DeviceHal.Gnss.LocationTypes DeviceHal.Gnss.TrackingSessions
open DeviceHal.Gnss.TrackingSessions.GnssAdapter DeviceHal.Gnss.TrackingMultiplex
open LocationError GnssSuplMode

section
variable {W : Type} (v : View W)

/-! ## Changes without an engine call -/

/-- The start is processed: the client has a callback and the options a size. -/
def accepted (a : GnssAdapter) (client : LocationAPI) (o : LocationOptions) : Bool :=
  (a.hasTrackingCallback client || a.hasMeasurementsCallback client) && o.size != 0

/-- A repeated start that the engine is not told leaves its options to others. -/
def StartKept (a : GnssAdapter) (key : LocationSessionKey) (o : LocationOptions) : Prop :=
  a.mTrackingSessions.contains key = true →
    a.smallestIntervalOptions.minInterval ≤ o.minInterval → v.RunsElsewhere a key (some o)

def UpdateKept (a : GnssAdapter) (key : LocationSessionKey) (o : LocationOptions) : Prop :=
  ∀ old ∈ a.mTrackingSessions[key]?, a.mTrackingSessions.size ≠ 1 →
    (a.smallestOtherOptions key).minInterval ≤ o.minInterval →
    (a.smallestOtherOptions key).minInterval ≤ old.minInterval → v.RunsElsewhere a key (some o)

def StopKept (a : GnssAdapter) (key : LocationSessionKey) : Prop :=
  ∀ old ∈ a.mTrackingSessions[key]?, a.mTrackingSessions.size ≠ 1 →
    (a.smallestOtherOptions key).minInterval ≤ old.minInterval → v.RunsElsewhere a key none

/-- A message that replaces or removes sessions without a call to the engine
leaves a session with what the engine runs with. -/
def KeepsEngine (a : GnssAdapter) : GnssMsg → Prop
  | .startTracking client sessionId o =>
    accepted a client o = true → StartKept v a ⟨client, sessionId⟩ o
  | .updateTracking client sessionId o => o.size ≠ 0 → UpdateKept v a ⟨client, sessionId⟩ o
  | .stopTracking client sessionId => StopKept v a ⟨client, sessionId⟩
  | .removeClient client =>
    Steps (stopSession succeeds) (StopKept v) a
      (a.mTrackingSessions.keys.filter (·.client == client))
  | .addClient _ _ | .engineRestart => True

/-- The invariant of a run. -/
structure Served (a : GnssAdapter) : Prop where
  sized : Sized a
  fits : v.Fits a

variable {v} {a : GnssAdapter}

theorem sized_edit {a' : GnssAdapter} (ha : Sized a) {key : LocationSessionKey}
    {new : Option LocationOptions} (he : options a' = Function.update (options a) key new)
    (hnew : ∀ o, new = some o → o.size ≠ 0) : Sized a' := by
  intro k o hk
  rw [he] at hk
  rcases update_entry_iff.mp hk with ⟨-, h⟩ | ⟨-, h⟩
  · exact hnew o h
  · exact ha k o h

/-- What matters is sessions and engine. -/
theorem Served.congr {a' : GnssAdapter} (h : Served v a) (ho : options a' = options a)
    (hs : a'.mLocApi.session = a.mLocApi.session) : Served v a' := by
  refine ⟨fun k o hk => h.sized k o (by rw [← ho]; exact hk), ?_⟩
  have ht : v.table a' = v.table a := by
    funext k
    rw [View.table, View.table, ho]
  rw [View.Fits, ht, View.engine, hs]
  exact h.fits

/-! ## Start, update and stop -/

theorem options_startMultiplex (o : LocationOptions) :
    (a.startTrackingMultiplex succeeds o).2 = LOCATION_ERROR_SUCCESS ∧
      options (a.startTrackingMultiplex succeeds o).1 = options a := by
  unfold startTrackingMultiplex
  split
  · exact ⟨rfl, rfl⟩
  · split
    · exact ⟨rfl, rfl⟩
    · exact ⟨rfl, rfl⟩

theorem start_served (h : Served v a) {client : LocationAPI} {sessionId : Nat}
    {o : LocationOptions} (ho : o.size ≠ 0) (hk : StartKept v a ⟨client, sessionId⟩ o) :
    Served v ((a.startTrackingMultiplex succeeds o).1.saveTrackingSession client sessionId o) := by
  have he : options ((a.startTrackingMultiplex succeeds o).1.saveTrackingSession client sessionId o)
      = Function.update (options a) ⟨client, sessionId⟩ (some o) := by
    rw [options_save, (options_startMultiplex o).2]
  refine ⟨sized_edit h.sized he (fun _ hw => Option.some.inj hw ▸ ho), ?_⟩
  cases hem : a.mTrackingSessions.isEmpty with
  | true =>
    refine View.fits_alone he (fun k _ => isEmpty_iff.mp hem k) ?_
    simp only [startTrackingMultiplex, hem, if_true]
    rfl
  | false =>
    have hleast := smallestIntervalOptions_least h.sized hem
    by_cases hlt : o.minInterval < a.smallestIntervalOptions.minInterval
    · refine View.fits_new he (fun k o' _ hk => hlt.le.trans (hleast.least k o' hk)) ?_
      simp only [startTrackingMultiplex, hem, Bool.false_eq_true, if_false, hlt, if_true]
      rfl
    · have hle := not_lt.mp hlt
      obtain ⟨k₀, hk₀⟩ := hleast.entry
      refine View.fits_kept h.fits he ⟨k₀, _, hk₀⟩ (fun o' ho' => ⟨k₀, _, hk₀, ?_⟩) ?_ ?_
      · exact Option.some.inj ho' ▸ hle
      · by_cases hin : a.mTrackingSessions.contains ⟨client, sessionId⟩ = true
        · exact hk hin hle
        · -- a new key takes nothing away from the others
          have hnone : options a ⟨client, sessionId⟩ = none :=
            options_eq_none_iff.mpr (by simpa [Std.TreeMap.contains_iff_mem] using hin)
          have hsome : (v.engine a).isSome :=
            h.fits.isSome_iff.mpr ⟨k₀, _, by rw [View.table, hk₀]; rfl⟩
          obtain ⟨w, hw⟩ := Option.isSome_iff_exists.mp hsome
          have hfit : LeastEntry v.interval (v.table a) w := by
            have := h.fits
            rwa [View.Fits, hw] at this
          exact (v.runsElsewhere_iff hw).mpr
            (hfit.elsewhere_of_new (by rw [View.table, hnone]; rfl) _)
      · simp only [startTrackingMultiplex, hem, Bool.false_eq_true, if_false, hlt]
        rfl

theorem options_updateMultiplex (client : LocationAPI) (sessionId : Nat) (o : LocationOptions) :
    (a.updateTrackingMultiplex succeeds client sessionId o).2 = LOCATION_ERROR_SUCCESS ∧
      options (a.updateTrackingMultiplex succeeds client sessionId o).1 = options a := by
  unfold updateTrackingMultiplex
  split
  · exact ⟨rfl, rfl⟩
  · split
    · exact ⟨rfl, rfl⟩
    · dsimp only
      split
      · exact ⟨rfl, rfl⟩
      · split
        · exact ⟨rfl, rfl⟩
        · exact ⟨rfl, rfl⟩

/-- Another session exists, unless there is a single one. -/
theorem exists_other {key : LocationSessionKey} {old : LocationOptions}
    (hold : options a key = some old) (hsize : a.mTrackingSessions.size ≠ 1) :
    ∃ k, k ≠ key ∧ ∃ o, options a k = some o := by
  rw [ne_eq, size_eq_one_iff hold] at hsize
  push Not at hsize
  obtain ⟨k, hk, hne⟩ := hsize
  exact ⟨k, hk, Option.ne_none_iff_exists'.mp hne⟩

theorem update_served (h : Served v a) {client : LocationAPI} {sessionId : Nat}
    {o old : LocationOptions} (ho : o.size ≠ 0) (hold : options a ⟨client, sessionId⟩ = some old)
    (hk : UpdateKept v a ⟨client, sessionId⟩ o) :
    Served v ((a.updateTrackingMultiplex succeeds client sessionId o).1.saveTrackingSession
      client sessionId o) := by
  have he : options ((a.updateTrackingMultiplex succeeds client sessionId o).1.saveTrackingSession
      client sessionId o) = Function.update (options a) ⟨client, sessionId⟩ (some o) := by
    rw [options_save, (options_updateMultiplex client sessionId o).2]
  have hget : a.mTrackingSessions[(⟨client, sessionId⟩ : LocationSessionKey)]? = some old := hold
  refine ⟨sized_edit h.sized he (fun _ hw => Option.some.inj hw ▸ ho), ?_⟩
  by_cases hsize : a.mTrackingSessions.size = 1
  · refine View.fits_alone he ((size_eq_one_iff hold).mp hsize) ?_
    simp only [updateTrackingMultiplex, hsize, if_true]
    rfl
  · have hleast := smallestOtherOptions_least h.sized (exists_other hold hsize)
    by_cases hlt : o.minInterval < (a.smallestOtherOptions ⟨client, sessionId⟩).minInterval
    · refine View.fits_new he (fun k o' hkk hk => ?_) ?_
      · exact hlt.le.trans (hleast.least k o' (update_entry_iff.mpr (Or.inr ⟨hkk, hk⟩)))
      · simp only [updateTrackingMultiplex, hsize, if_false, hget, hlt, if_true]
        rfl
    · have hle := not_lt.mp hlt
      by_cases hlt' : old.minInterval < (a.smallestOtherOptions ⟨client, sessionId⟩).minInterval
      · refine View.fits_other he hleast (fun o' ho' => Option.some.inj ho' ▸ hle) ?_
        simp only [updateTrackingMultiplex, hsize, if_false, hget, hlt, hlt', if_true]
        rfl
      · obtain ⟨k₀, hk₀⟩ := hleast.entry
        rcases update_entry_iff.mp hk₀ with ⟨-, hno⟩ | ⟨-, hk₀⟩
        · cases hno
        · refine View.fits_kept h.fits he ⟨k₀, _, hk₀⟩
            (fun o' ho' => ⟨k₀, _, hk₀, Option.some.inj ho' ▸ hle⟩)
            (hk old hget hsize hle (not_lt.mp hlt')) ?_
          simp only [updateTrackingMultiplex, hsize, if_false, hget, hlt, hlt']
          rfl

theorem options_stopMultiplex (client : LocationAPI) (sessionId : Nat) :
    (a.stopTrackingMultiplex succeeds client sessionId).2 = LOCATION_ERROR_SUCCESS ∧
      options (a.stopTrackingMultiplex succeeds client sessionId).1 = options a := by
  unfold stopTrackingMultiplex
  split
  · exact ⟨rfl, rfl⟩
  · split
    · exact ⟨rfl, rfl⟩
    · dsimp only
      split
      · exact ⟨rfl, rfl⟩
      · exact ⟨rfl, rfl⟩

theorem options_stopSession (key : LocationSessionKey) :
    options (a.stopSession succeeds key) = Function.update (options a) key none := by
  have hs := options_stopMultiplex (a := a) key.client key.id
  simp only [stopSession, hs.1, if_true]
  rw [options_erase, hs.2]

theorem stop_served (h : Served v a) {key : LocationSessionKey} {old : LocationOptions}
    (hold : options a key = some old) (hk : StopKept v a key) :
    Served v (a.stopSession succeeds key) := by
  have he := options_stopSession (a := a) key
  have hsess : (a.stopSession succeeds key).mLocApi.session =
      (a.stopTrackingMultiplex succeeds key.client key.id).1.mLocApi.session := by
    simp only [stopSession, (options_stopMultiplex (a := a) key.client key.id).1, if_true]
    rfl
  have hget : a.mTrackingSessions[(⟨key.client, key.id⟩ : LocationSessionKey)]? = some old := hold
  refine ⟨sized_edit h.sized he (fun _ hw => by cases hw), ?_⟩
  by_cases hsize : a.mTrackingSessions.size = 1
  · refine View.fits_alone he ((size_eq_one_iff hold).mp hsize) ?_
    rw [hsess]
    simp only [stopTrackingMultiplex, hsize, if_true]
    rfl
  · have hleast := smallestOtherOptions_least h.sized (exists_other hold hsize)
    by_cases hlt : old.minInterval < (a.smallestOtherOptions key).minInterval
    · refine View.fits_other he hleast (fun o' ho' => by cases ho') ?_
      rw [hsess]
      simp only [stopTrackingMultiplex, hsize, if_false, hget, hlt, if_true]
      rfl
    · obtain ⟨k₀, hk₀⟩ := hleast.entry
      rcases update_entry_iff.mp hk₀ with ⟨-, hno⟩ | ⟨-, hk₀⟩
      · cases hno
      · refine View.fits_kept h.fits he ⟨k₀, _, hk₀⟩ (fun o' ho' => by cases ho')
          (hk old hget hsize (not_lt.mp hlt)) ?_
        rw [hsess]
        simp only [stopTrackingMultiplex, hsize, if_false, hget, hlt]

/-! ## Messages -/

/-- The sessions of a client are stopped one after the other. -/
theorem stops_served (keys : List LocationSessionKey) (h : Served v a) (hnd : keys.Nodup)
    (hin : ∀ key ∈ keys, ∃ old, options a key = some old)
    (hk : Steps (stopSession succeeds) (StopKept v) a keys) :
    Served v (run (stopSession succeeds) a keys) := by
  induction keys generalizing a with
  | nil => exact h
  | cons key rest ih =>
    obtain ⟨hkey, hrest⟩ := List.nodup_cons.mp hnd
    obtain ⟨old, hold⟩ := hin key List.mem_cons_self
    refine ih (stop_served h hold hk.1) hrest (fun k hkr => ?_) hk.2
    have hne : k ≠ key := by
      rintro rfl
      exact hkey hkr
    obtain ⟨old', hold'⟩ := hin k (List.mem_cons_of_mem _ hkr)
    refine ⟨old', ?_⟩
    rw [options_stopSession, Function.update_of_ne hne]
    exact hold'

theorem mem_keys_iff {key : LocationSessionKey} :
    key ∈ a.mTrackingSessions.keys ↔ ∃ old, options a key = some old := by
  rw [Std.TreeMap.mem_keys, Std.TreeMap.mem_iff_isSome_getElem?, Option.isSome_iff_exists]
  rfl

theorem removeClient_served (h : Served v a) {client : LocationAPI}
    (hk : KeepsEngine v a (.removeClient client)) :
    Served v (a.proc succeeds (.removeClient client)) := by
  have hstops : Served v (a.stopClientSessions succeeds client) := by
    refine stops_served _ h ?_ (fun key hkey => ?_) hk
    · exact Std.TreeMap.nodup_keys.filter _
    · exact mem_keys_iff.mp (List.mem_filter.mp hkey).1
  exact hstops.congr rfl rfl

theorem startTracking_served (h : Served v a) {client : LocationAPI} {sessionId : Nat}
    {o : LocationOptions} (hk : KeepsEngine v a (.startTracking client sessionId o)) :
    Served v (a.proc succeeds (.startTracking client sessionId o)) := by
  simp only [proc, procStartTracking]
  split
  · exact h.congr rfl rfl
  · rename_i hcb
    split
    · exact h.congr rfl rfl
    · rename_i ho
      have hacc : accepted a client o = true := by
        simp only [Bool.and_eq_true, Bool.not_eq_true', not_and] at hcb
        cases ht : a.hasTrackingCallback client <;> simp_all [accepted]
      simp only [(options_startMultiplex o).1, if_true]
      exact (start_served h ho (hk hacc)).congr rfl rfl

theorem updateTracking_served (h : Served v a) {client : LocationAPI} {sessionId : Nat}
    {o : LocationOptions} (hk : KeepsEngine v a (.updateTracking client sessionId o)) :
    Served v (a.proc succeeds (.updateTracking client sessionId o)) := by
  simp only [proc, procUpdateTracking]
  split
  · rename_i hin
    obtain ⟨old, hold⟩ := Option.isSome_iff_exists.mp
      (Std.TreeMap.contains_eq_isSome_getElem?.symm.trans hin)
    split
    · exact h.congr rfl rfl
    · rename_i ho
      simp only [(options_updateMultiplex client sessionId o).1, if_true]
      exact (update_served h ho hold (hk ho)).congr rfl rfl
  · exact h

theorem stopTracking_served (h : Served v a) {client : LocationAPI} {sessionId : Nat}
    (hk : KeepsEngine v a (.stopTracking client sessionId)) :
    Served v (a.proc succeeds (.stopTracking client sessionId)) := by
  simp only [proc, procStopTracking]
  split
  · rename_i hin
    obtain ⟨old, hold⟩ := Option.isSome_iff_exists.mp
      (Std.TreeMap.contains_eq_isSome_getElem?.symm.trans hin)
    have hstop : Served v (a.stopSession succeeds ⟨client, sessionId⟩) := stop_served h hold hk
    exact hstop.congr rfl rfl
  · exact h

theorem engineRestart_served (h : Served v a) : Served v (a.engineRestart succeeds) := by
  have hopt : options (a.engineRestart succeeds) = options a := by
    unfold engineRestart restartSessions
    dsimp only
    split <;> rfl
  refine ⟨fun k o hk => h.sized k o (by rw [← hopt]; exact hk), ?_⟩
  have ht : v.table (a.engineRestart succeeds) = v.table a := by
    funext k
    rw [View.table, View.table, hopt]
  rw [View.Fits, ht]
  cases hem : a.mTrackingSessions.isEmpty with
  | true =>
    have heng : v.engine (a.engineRestart succeeds) = none := by
      simp only [View.engine, engineRestart, restartSessions, hem, if_true]
      rfl
    rw [heng]
    exact fun k => by rw [View.table, isEmpty_iff.mp hem k]; rfl
  | false =>
    have heng : v.engine (a.engineRestart succeeds) =
        some (v.ofOptions a.smallestIntervalOptions) := by
      refine View.engine_of ?_
      simp only [engineRestart, restartSessions, hem, Bool.false_eq_true, if_false]
      rfl
    rw [heng]
    exact (smallestIntervalOptions_least h.sized hem).map v.interval_ofOptions

theorem proc_served (h : Served v a) {msg : GnssMsg} (hk : KeepsEngine v a msg) :
    Served v (a.proc succeeds msg) := by
  cases msg with
  | addClient client callbacks => exact h.congr rfl rfl
  | removeClient client => exact removeClient_served h hk
  | startTracking client sessionId o => exact startTracking_served h hk
  | updateTracking client sessionId o => exact updateTracking_served h hk
  | stopTracking client sessionId => exact stopTracking_served h hk
  | engineRestart => exact engineRestart_served h

theorem served_new (nmeaMask : UInt32) (status odcpi : Bool) (externalDr : Nat) :
    Served v (.new nmeaMask status odcpi externalDr) := by
  have hnone : ∀ key, options (.new nmeaMask status odcpi externalDr) key = none :=
    fun _ => Std.TreeMap.getElem?_emptyc
  refine ⟨fun k o hk => ?_, fun k => ?_⟩
  · rw [hnone k] at hk
    cases hk
  · rw [View.table, hnone k]
    rfl

end

end DeviceHal.Gnss.TrackingEngine
