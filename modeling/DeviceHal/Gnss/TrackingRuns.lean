import DeviceHal.Gnss.TrackingEngine

/-! # Runs of the multiplexer

Over a whole run with an engine that never refuses: it tracks exactly while
there are sessions, at their least interval; and the mode it runs with is that
of a session with this interval, unless a tie was broken without a call. -/
namespace DeviceHal.Gnss.TrackingRuns
open DeviceHal.Lib.Run DeviceHal.Lib.LeastDemand
open DeviceHal.Gnss.LocationTypes DeviceHal.Gnss.TrackingSessions
open DeviceHal.Gnss.TrackingSessions.GnssAdapter DeviceHal.Gnss.TrackingMultiplex
open DeviceHal.Gnss.TrackingEngine
open LocationError GnssSuplMode

/-! ## Intervals -/

/-- The engine tracks exactly while there are sessions, and with the least
interval of all. -/
structure IntervalFits (a : GnssAdapter) : Prop where
  tracking : a.mLocApi.session.isSome = true ↔ a.mTrackingSessions.isEmpty = false
  interval : ∀ posMode, a.mLocApi.session = some posMode →
    IsLeast {n | ∃ (key : LocationSessionKey) (o : LocationOptions),
      a.mTrackingSessions[key]? = some o ∧ o.minInterval = n} posMode.min_interval

/-- A start repeats the key of the only session with the least interval, with a
larger one. Session ids come from a counter, so that a start has a new key
until the counter wraps. -/
def RepeatsLeast (a : GnssAdapter) : GnssMsg → Prop
  | .startTracking client sessionId o =>
    accepted a client o = true ∧
      ∃ old ∈ a.mTrackingSessions[(⟨client, sessionId⟩ : LocationSessionKey)]?,
        old.minInterval < o.minInterval ∧
        ∀ p ∈ a.mTrackingSessions.toList, p.1 ≠ ⟨client, sessionId⟩ →
          old.minInterval < p.2.minInterval
  | _ => False

instance (a : GnssAdapter) : ∀ msg, Decidable (RepeatsLeast a msg)
  | .startTracking _ _ _ => inferInstanceAs (Decidable (_ ∧ ∃ old ∈ _, _))
  | .addClient _ _ | .removeClient _ | .updateTracking _ _ _ | .stopTracking _ _
  | .engineRestart => .isFalse id

section
variable {a : GnssAdapter}

theorem engine_least {W : Type} {v : View W} (h : Served v a) {key : LocationSessionKey}
    {o : LocationOptions} (ho : options a key = some o) :
    ∃ w, v.engine a = some w ∧ LeastEntry v.interval (v.table a) w := by
  have hsome : (v.engine a).isSome :=
    h.fits.isSome_iff.mpr ⟨key, _, by rw [View.table, ho]; rfl⟩
  obtain ⟨w, hw⟩ := Option.isSome_iff_exists.mp hsome
  refine ⟨w, hw, ?_⟩
  have hfit := h.fits
  rwa [View.Fits, hw] at hfit

/-- If another session's interval is no larger than that of the session which
changes, the engine's interval stays among the sessions. -/
theorem runsElsewhere_of_le (h : Served intervalView a) {key k : LocationSessionKey}
    {old o : LocationOptions} (hold : options a key = some old) (hk : k ≠ key)
    (ho : options a k = some o) (hle : o.minInterval ≤ old.minInterval)
    (new : Option LocationOptions) : intervalView.RunsElsewhere a key new := by
  obtain ⟨w, hw, hfit⟩ := engine_least h hold
  rw [intervalView.runsElsewhere_iff hw]
  refine hfit.elsewhere_of_le hk (m := o.minInterval) (by rw [View.table, ho]; rfl) ?_ _
  intro n hn
  rw [View.table, hold] at hn
  exact Option.some.inj hn ▸ hle

theorem stopKept_interval (h : Served intervalView a) (key : LocationSessionKey) :
    StopKept intervalView a key := by
  intro old hold hsize hle
  obtain ⟨k, hk⟩ := (smallestOtherOptions_least h.sized (exists_other hold hsize)).entry
  rcases update_entry_iff.mp hk with ⟨-, hno⟩ | ⟨hkk, hk⟩
  · cases hno
  · exact runsElsewhere_of_le h hold hkk hk hle none

theorem startKept_interval (h : Served intervalView a) {client : LocationAPI} {sessionId : Nat}
    {o : LocationOptions} (hacc : accepted a client o = true)
    (hn : ¬ RepeatsLeast a (.startTracking client sessionId o)) :
    StartKept intervalView a ⟨client, sessionId⟩ o := by
  intro hin hle
  obtain ⟨old, hold⟩ : ∃ old, options a ⟨client, sessionId⟩ = some old :=
    Option.isSome_iff_exists.mp (Std.TreeMap.contains_eq_isSome_getElem?.symm.trans hin)
  by_cases hother : ∃ k, k ≠ ⟨client, sessionId⟩ ∧
      ∃ o', options a k = some o' ∧ o'.minInterval ≤ old.minInterval
  · obtain ⟨k, hk, o', ho', hle'⟩ := hother
    exact runsElsewhere_of_le h hold hk ho' hle' _
  · -- the repeated session is the only least one, so its new interval is not larger
    have hnew : o.minInterval ≤ old.minInterval := by
      by_contra hlt
      refine hn ⟨hacc, old, hold, not_le.mp hlt, fun p hp hpk => ?_⟩
      by_contra hge
      exact hother ⟨p.1, hpk, p.2, mem_toList_iff.mp hp, not_lt.mp hge⟩
    obtain ⟨w, hw, hfit⟩ := engine_least h hold
    have hne : a.mTrackingSessions.isEmpty = false := by
      cases hem : a.mTrackingSessions.isEmpty with
      | false => rfl
      | true => rw [isEmpty_iff.mp hem] at hold; cases hold
    obtain ⟨k₀, hk₀⟩ := (smallestIntervalOptions_least h.sized hne).entry
    have hw₀ : w ≤ a.smallestIntervalOptions.minInterval :=
      hfit.least k₀ _ (by rw [View.table, hk₀]; rfl)
    rw [intervalView.runsElsewhere_iff hw]
    obtain ⟨k, hk⟩ := hfit.entry
    by_cases hkk : k = ⟨client, sessionId⟩
    · subst hkk
      have hwold : old.minInterval = w := by
        rw [View.table, hold] at hk
        exact Option.some.inj hk
      refine Or.inr (congrArg some ?_)
      show o.minInterval = w
      omega
    · exact Or.inl ⟨k, hkk, hk⟩

theorem stops_kept_interval (keys : List LocationSessionKey) (h : Served intervalView a)
    (hnd : keys.Nodup) (hin : ∀ key ∈ keys, ∃ old, options a key = some old) :
    Steps (stopSession succeeds) (StopKept intervalView) a keys := by
  induction keys generalizing a with
  | nil => trivial
  | cons key rest ih =>
    obtain ⟨hkey, hrest⟩ := List.nodup_cons.mp hnd
    obtain ⟨old, hold⟩ := hin key List.mem_cons_self
    have hkept := stopKept_interval h key
    refine ⟨hkept, ih (stop_served h hold hkept) hrest fun k hkr => ?_⟩
    have hne : k ≠ key := by
      rintro rfl
      exact hkey hkr
    obtain ⟨old', hold'⟩ := hin k (List.mem_cons_of_mem _ hkr)
    exact ⟨old', by rw [options_stopSession, Function.update_of_ne hne, hold']⟩

/-- For intervals, only a repeated start can take away what the engine runs
with. -/
theorem keepsEngine_interval (h : Served intervalView a) {msg : GnssMsg}
    (hn : ¬ RepeatsLeast a msg) : KeepsEngine intervalView a msg := by
  cases msg with
  | addClient client callbacks => trivial
  | removeClient client =>
    exact stops_kept_interval _ h (Std.TreeMap.nodup_keys.filter _)
      fun key hkey => mem_keys_iff.mp (List.mem_filter.mp hkey).1
  | startTracking client sessionId o => exact fun hacc => startKept_interval h hacc hn
  | updateTracking client sessionId o =>
    intro _ old hold hsize _ hle
    obtain ⟨k, hk⟩ := (smallestOtherOptions_least h.sized (exists_other hold hsize)).entry
    rcases update_entry_iff.mp hk with ⟨-, hno⟩ | ⟨hkk, hk⟩
    · cases hno
    · exact runsElsewhere_of_le h hold hkk hk hle _
  | stopTracking client sessionId => exact stopKept_interval h _
  | engineRestart => trivial

theorem intervalFits_of_served (h : Served intervalView a) : IntervalFits a := by
  have hsome : a.mLocApi.session.isSome = (intervalView.engine a).isSome := by
    rw [View.engine, Option.isSome_map]
  refine ⟨?_, fun p hp => ?_⟩
  · rw [hsome, h.fits.isSome_iff]
    constructor
    · intro hh
      obtain ⟨key, n, hn⟩ := hh
      cases hem : a.mTrackingSessions.isEmpty with
      | false => rfl
      | true => rw [View.table, isEmpty_iff.mp hem] at hn; cases hn
    · intro hem
      obtain ⟨key, o, ho⟩ := exists_of_not_isEmpty hem
      exact ⟨key, o.minInterval, by rw [View.table, ho]; rfl⟩
  · have hfit := h.fits
    rw [View.Fits, View.engine, hp] at hfit
    have hleast := leastEntry_id_iff.mp hfit
    have hset : {n | ∃ key, intervalView.table a key = some n} =
        {n | ∃ (key : LocationSessionKey) (o : LocationOptions),
          a.mTrackingSessions[key]? = some o ∧ o.minInterval = n} := by
      ext n
      simp only [Set.mem_ofPred_eq, View.table, Option.map_eq_some_iff]
      rfl
    rw [← hset]
    exact hleast

end

/-- **The engine runs at the least interval.** In every run with an engine that
never refuses, in which no start repeats the key of the only least session with
a larger interval, the engine tracks exactly while there are sessions, and with
the least of their intervals. -/
theorem interval_fits (nmeaMask : UInt32) (status odcpi : Bool) (externalDr : Nat)
    (msgs : List GnssMsg)
    (h : Steps (proc succeeds) (fun a msg => ¬ RepeatsLeast a msg)
      (.new nmeaMask status odcpi externalDr) msgs) :
    Steps (proc succeeds) (fun a msg => IntervalFits (a.proc succeeds msg))
      (.new nmeaMask status odcpi externalDr) msgs :=
  steps_of_inv (I := Served intervalView)
    (fun _ _ hs hn => intervalFits_of_served (proc_served hs (keepsEngine_interval hs hn)))
    (fun _ _ hs hn => proc_served hs (keepsEngine_interval hs hn))
    (served_new nmeaMask status odcpi externalDr) h

/-- A client with a tracking callback. -/
def tracker : LocationCallbacks := ⟨true, true, false, false, false, false⟩

theorem interval_fits_run :
    Steps (proc succeeds) (fun a msg => IntervalFits (a.proc succeeds msg)) (.new 0 false false 0)
      [.addClient 1 tracker, .startTracking 1 1 ⟨24, 1000, 0, GNSS_SUPL_MODE_MSB⟩,
        .startTracking 1 2 ⟨24, 500, 0, GNSS_SUPL_MODE_MSA⟩,
        .updateTracking 1 2 ⟨24, 2000, 0, GNSS_SUPL_MODE_MSA⟩, .engineRestart,
        .removeClient 1] :=
  interval_fits _ _ _ _ _ (by decide)

/-- A start that repeats a key replaces the session and leaves the engine. -/
theorem repeated_start_keeps_interval :
    ¬ ∀ msgs, Steps (proc succeeds) (fun a msg => IntervalFits (a.proc succeeds msg))
      (.new 0 false false 0) msgs := by
  intro h
  obtain ⟨-, -, hfit, -⟩ := h [.addClient 1 tracker,
    .startTracking 1 1 ⟨24, 100, 0, GNSS_SUPL_MODE_MSB⟩,
    .startTracking 1 1 ⟨24, 200, 0, GNSS_SUPL_MODE_MSB⟩]
  obtain ⟨key, o, ho, hn⟩ :=
    (hfit.interval (posMode ⟨24, 100, 0, GNSS_SUPL_MODE_MSB⟩) (by decide)).1
  have hmem := mem_toList_iff.mpr ho
  have hall : ∀ p ∈ ((((GnssAdapter.new 0 false false 0).proc succeeds
      (.addClient 1 tracker)).proc succeeds
      (.startTracking 1 1 ⟨24, 100, 0, GNSS_SUPL_MODE_MSB⟩)).proc succeeds
      (.startTracking 1 1 ⟨24, 200, 0, GNSS_SUPL_MODE_MSB⟩)).mTrackingSessions.toList,
      p.2.minInterval = 200 := by decide
  have h200 := hall _ hmem
  rw [hn] at h200
  exact absurd h200 (by decide)

/-! ## Position modes -/

/-- While there are sessions, the engine runs with the mode and the interval of
one of them that has the least interval. -/
def ModeFits (a : GnssAdapter) : Prop :=
  a.mTrackingSessions.isEmpty = false →
    ∃ (key : LocationSessionKey) (o : LocationOptions),
      a.mTrackingSessions[key]? = some o ∧ a.mLocApi.session = some (posMode o) ∧
      ∀ (k : LocationSessionKey) (o' : LocationOptions),
        a.mTrackingSessions[k]? = some o' → o.minInterval ≤ o'.minInterval

theorem modeFits_of_served {a : GnssAdapter} (h : Served modeView a) : ModeFits a := by
  intro hem
  obtain ⟨k₀, o₀, ho₀⟩ := exists_of_not_isEmpty hem
  obtain ⟨w, hw, hfit⟩ := engine_least h ho₀
  have hsess : a.mLocApi.session = some w := by
    rwa [View.engine, modeView, Option.map_id] at hw
  obtain ⟨key, hkey⟩ := hfit.entry
  obtain ⟨o, ho, rfl⟩ := Option.map_eq_some_iff.mp hkey
  refine ⟨key, o, ho, hsess, fun k o' hk => ?_⟩
  exact hfit.least k (posMode o') (Option.map_eq_some_iff.mpr ⟨o', hk, rfl⟩)

instance (a : GnssAdapter) (key : LocationSessionKey) (new : Option LocationOptions) :
    Decidable (modeView.RunsElsewhere a key new) :=
  inferInstanceAs (Decidable ((∃ p ∈ a.mTrackingSessions.toList,
    p.1 ≠ key ∧ a.mLocApi.session.map id = some (posMode p.2)) ∨
    a.mLocApi.session.map id = new.map posMode))

instance (a : GnssAdapter) (key : LocationSessionKey) (o : LocationOptions) :
    Decidable (StartKept modeView a key o) :=
  inferInstanceAs (Decidable (_ → _ → modeView.RunsElsewhere a key (some o)))

instance (a : GnssAdapter) (key : LocationSessionKey) (o : LocationOptions) :
    Decidable (UpdateKept modeView a key o) :=
  inferInstanceAs (Decidable (∀ old ∈ a.mTrackingSessions[key]?, _ → _ → _ →
    modeView.RunsElsewhere a key (some o)))

instance (a : GnssAdapter) (key : LocationSessionKey) : Decidable (StopKept modeView a key) :=
  inferInstanceAs (Decidable (∀ old ∈ a.mTrackingSessions[key]?, _ → _ →
    modeView.RunsElsewhere a key none))

instance (a : GnssAdapter) : ∀ msg, Decidable (KeepsEngine modeView a msg)
  | .startTracking _ _ _ => inferInstanceAs (Decidable (_ → StartKept modeView _ _ _))
  | .updateTracking _ _ _ => inferInstanceAs (Decidable (_ → UpdateKept modeView _ _ _))
  | .stopTracking _ _ => inferInstanceAs (Decidable (StopKept modeView _ _))
  | .removeClient _ =>
    inferInstanceAs (Decidable (Steps (stopSession succeeds) (StopKept modeView) _ _))
  | .addClient _ _ | .engineRestart => .isTrue trivial

/-- **The engine runs in the mode of a least session.** In every run with an
engine that never refuses, in which a change without an engine call always
leaves a session with what the engine runs with, the engine runs with the mode
and interval of a session that has the least interval. -/
theorem mode_fits (nmeaMask : UInt32) (status odcpi : Bool) (externalDr : Nat)
    (msgs : List GnssMsg)
    (h : Steps (proc succeeds) (KeepsEngine modeView) (.new nmeaMask status odcpi externalDr)
      msgs) :
    Steps (proc succeeds) (fun a msg => ModeFits (a.proc succeeds msg))
      (.new nmeaMask status odcpi externalDr) msgs :=
  steps_of_inv (I := Served modeView) (fun _ _ hs hk => modeFits_of_served (proc_served hs hk))
    (fun _ _ hs hk => proc_served hs hk) (served_new nmeaMask status odcpi externalDr) h

/-- Two sessions tie in interval and agree in mode, and one of them stops. -/
theorem mode_fits_run :
    Steps (proc succeeds) (fun a msg => ModeFits (a.proc succeeds msg)) (.new 0 false false 0)
      [.addClient 1 tracker, .startTracking 1 1 ⟨24, 1000, 0, GNSS_SUPL_MODE_MSB⟩,
        .startTracking 1 2 ⟨24, 1000, 0, GNSS_SUPL_MODE_MSB⟩, .stopTracking 1 1,
        .updateTracking 1 2 ⟨24, 2000, 0, GNSS_SUPL_MODE_MSA⟩] :=
  mode_fits _ _ _ _ _ (by decide)

/-- Two sessions tie in interval and differ in mode; the one the engine runs
with stops, and the engine is not told. -/
theorem tied_stop_keeps_mode :
    ¬ Steps (proc succeeds) (fun a msg => ModeFits (a.proc succeeds msg)) (.new 0 false false 0)
      [.addClient 1 tracker, .startTracking 1 1 ⟨24, 1000, 0, GNSS_SUPL_MODE_MSB⟩,
        .startTracking 1 2 ⟨24, 1000, 0, GNSS_SUPL_MODE_MSA⟩, .stopTracking 1 1] := by
  intro hh
  obtain ⟨-, -, -, hfit, -⟩ := hh
  obtain ⟨key, o, ho, hs, -⟩ := hfit (by decide)
  have hall : ∀ p ∈ (((((GnssAdapter.new 0 false false 0).proc succeeds
      (.addClient 1 tracker)).proc succeeds
      (.startTracking 1 1 ⟨24, 1000, 0, GNSS_SUPL_MODE_MSB⟩)).proc succeeds
      (.startTracking 1 2 ⟨24, 1000, 0, GNSS_SUPL_MODE_MSA⟩)).proc succeeds
      (.stopTracking 1 1)).mTrackingSessions.toList,
      p.2.mode = GNSS_SUPL_MODE_MSA := by decide
  have hmode : o.mode = GNSS_SUPL_MODE_MSA := hall _ (mem_toList_iff.mpr ho)
  have hsess : some (posMode ⟨24, 1000, 0, GNSS_SUPL_MODE_MSB⟩) = some (posMode o) := hs
  have hm := congrArg LocPosMode.mode (Option.some.inj hsess)
  simp [posMode, convertOptions, hmode] at hm

end DeviceHal.Gnss.TrackingRuns
