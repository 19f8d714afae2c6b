import DeviceHal.Lib.Run
import DeviceHal.Lib.LeastDemand
import DeviceHal.Gnss.TrackingSessions

/-! # One engine for all sessions

When every engine call succeeds, the engine serves the sessions: it tracks as
long as there is one, at the least interval of all. Interval and position mode
are two views of the same argument; they part where a session is replaced or
removed without a call because another one has the same interval. -/
namespace DeviceHal.Gnss.TrackingMultiplex
open DeviceHal.Lib.Run DeviceHal.Lib.LeastDemand
open DeviceHal.Gnss.LocationTypes DeviceHal.Gnss.TrackingSessions
open DeviceHal.Gnss.TrackingSessions.GnssAdapter
open LocationError GnssSuplMode

/-- An engine that never refuses. -/
def succeeds : Nat → Int := fun _ => LOC_API_ADAPTER_ERR_SUCCESS

/-- The sessions as a partial function. -/
def options (a : GnssAdapter) (key : LocationSessionKey) : Option LocationOptions :=
  a.mTrackingSessions[key]?

/-- What the engine is told for the options. -/
def posMode (o : LocationOptions) : LocPosMode := convertOptions .default o

/-- Sessions are stored with their size set. -/
def Sized (a : GnssAdapter) : Prop := ∀ key o, options a key = some o → o.size ≠ 0

/-! ## The scans -/

theorem keepSmaller_foldl (l : List LocationOptions) (hl : ∀ o ∈ l, o.size ≠ 0) :
    ∀ best : LocationOptions, best.size ≠ 0 →
      l.foldl keepSmaller best ∈ best :: l ∧
        ∀ o ∈ best :: l, (l.foldl keepSmaller best).minInterval ≤ o.minInterval := by
  induction l with
  | nil =>
    intro best _
    exact ⟨List.mem_cons_self, fun o ho => by rw [List.mem_singleton.mp ho]; rfl⟩
  | cons o rest ih =>
    intro best hb
    have hrest : ∀ o ∈ rest, o.size ≠ 0 := fun o ho => hl o (List.mem_cons_of_mem _ ho)
    have hkeep : keepSmaller best o = if o.minInterval < best.minInterval then o else best := by
      simp only [keepSmaller, hb, false_or]
    rw [List.foldl_cons, hkeep]
    split
    · rename_i hlt
      obtain ⟨hmem, hle⟩ := ih hrest o (hl o List.mem_cons_self)
      refine ⟨List.mem_cons_of_mem _ hmem, fun o' ho' => ?_⟩
      rcases List.mem_cons.mp ho' with rfl | ho'
      · exact (hle o List.mem_cons_self).trans hlt.le
      · exact hle o' ho'
    · rename_i hge
      obtain ⟨hmem, hle⟩ := ih hrest best hb
      refine ⟨?_, fun o' ho' => ?_⟩
      · rcases List.mem_cons.mp hmem with h | h
        · rw [h]; exact List.mem_cons_self
        · exact List.mem_cons_of_mem _ (List.mem_cons_of_mem _ h)
      · rcases List.mem_cons.mp ho' with rfl | ho'
        · exact hle o' List.mem_cons_self
        · rcases List.mem_cons.mp ho' with rfl | ho'
          · exact (hle best List.mem_cons_self).trans (not_lt.mp hge)
          · exact hle o' (List.mem_cons_of_mem _ ho')

/-- A scan finds options with the least interval in its list. -/
theorem keepSmaller_scan {l : List LocationOptions} (hl : ∀ o ∈ l, o.size ≠ 0) (hne : l ≠ []) :
    l.foldl keepSmaller .unset ∈ l ∧
      ∀ o ∈ l, (l.foldl keepSmaller .unset).minInterval ≤ o.minInterval := by
  cases l with
  | nil => exact absurd rfl hne
  | cons o rest =>
    have hfirst : keepSmaller .unset o = o := if_pos (Or.inl rfl)
    rw [List.foldl_cons, hfirst]
    exact keepSmaller_foldl rest (fun o' ho' => hl o' (List.mem_cons_of_mem _ ho')) o
      (hl o List.mem_cons_self)

theorem mem_toList_iff {a : GnssAdapter} {key : LocationSessionKey} {o : LocationOptions} :
    (key, o) ∈ a.mTrackingSessions.toList ↔ options a key = some o :=
  Std.TreeMap.mem_toList_iff_getElem?_eq_some

theorem options_eq_none_iff {a : GnssAdapter} {key : LocationSessionKey} :
    options a key = none ↔ key ∉ a.mTrackingSessions := by
  rw [Std.TreeMap.mem_iff_isSome_getElem?, Bool.not_eq_true, Option.isSome_eq_false_iff,
    Option.isNone_iff_eq_none]
  rfl

theorem isEmpty_iff {a : GnssAdapter} :
    a.mTrackingSessions.isEmpty = true ↔ ∀ key, options a key = none := by
  rw [Std.TreeMap.isEmpty_iff_forall_not_mem]
  exact forall_congr' fun key => options_eq_none_iff.symm

theorem exists_of_not_isEmpty {a : GnssAdapter} (h : a.mTrackingSessions.isEmpty = false) :
    ∃ key o, options a key = some o := by
  by_contra hno
  have hnone : ∀ key, options a key = none := fun key => by
    cases hk : options a key with
    | none => rfl
    | some o => exact absurd ⟨key, o, hk⟩ hno
  rw [isEmpty_iff.mpr hnone] at h
  cases h

theorem smallestIntervalOptions_least {a : GnssAdapter} (ha : Sized a)
    (hne : a.mTrackingSessions.isEmpty = false) :
    LeastEntry LocationOptions.minInterval (options a) a.smallestIntervalOptions := by
  have hl : ∀ o, o ∈ a.mTrackingSessions.toList.map (·.2) ↔ ∃ key, options a key = some o := by
    intro o
    simp only [List.mem_map, Prod.exists, exists_eq_right, mem_toList_iff]
  obtain ⟨key, o, ho⟩ := exists_of_not_isEmpty hne
  obtain ⟨hmem, hle⟩ := keepSmaller_scan
    (fun o ho => by obtain ⟨key, hk⟩ := (hl o).mp ho; exact ha key o hk)
    (List.ne_nil_of_mem ((hl o).mpr ⟨key, ho⟩))
  exact ⟨(hl _).mp hmem, fun key o hk => hle o ((hl o).mpr ⟨key, hk⟩)⟩

theorem smallestOtherOptions_least {a : GnssAdapter} (ha : Sized a) {key : LocationSessionKey}
    (hne : ∃ k, k ≠ key ∧ ∃ o, options a k = some o) :
    LeastEntry LocationOptions.minInterval (Function.update (options a) key none)
      (a.smallestOtherOptions key) := by
  have hl : ∀ o, o ∈ (a.mTrackingSessions.toList.filter (·.1 != key)).map (·.2) ↔
      ∃ k, k ≠ key ∧ options a k = some o := by
    intro o
    simp only [List.mem_map, List.mem_filter, Prod.exists, exists_eq_right, mem_toList_iff,
      bne_iff_ne]
    exact exists_congr fun k => and_comm
  obtain ⟨k, hk, o, ho⟩ := hne
  obtain ⟨hmem, hle⟩ := keepSmaller_scan
    (fun o ho => by obtain ⟨k, -, hk⟩ := (hl o).mp ho; exact ha k o hk)
    (List.ne_nil_of_mem ((hl o).mpr ⟨k, hk, ho⟩))
  obtain ⟨k', hk', ho'⟩ := (hl _).mp hmem
  refine ⟨⟨k', update_entry_iff.mpr (Or.inr ⟨hk', ho'⟩)⟩, fun j w hj => ?_⟩
  rcases update_entry_iff.mp hj with ⟨-, hno⟩ | ⟨hjk, hw⟩
  · cases hno
  · exact hle w ((hl w).mpr ⟨j, hjk, hw⟩)

/-- The test for a single session, at a session that exists. -/
theorem size_eq_one_iff {a : GnssAdapter} {key : LocationSessionKey} {o : LocationOptions}
    (hk : options a key = some o) :
    a.mTrackingSessions.size = 1 ↔ ∀ k, k ≠ key → options a k = none := by
  have hin : a.mTrackingSessions.contains key = true := by
    rw [Std.TreeMap.contains_eq_isSome_getElem?]
    exact congrArg Option.isSome hk
  have herase := Std.TreeMap.isEmpty_erase (t := a.mTrackingSessions) (k := key)
  have hne : a.mTrackingSessions.isEmpty = false := by
    cases hem : a.mTrackingSessions.isEmpty with
    | false => rfl
    | true => rw [isEmpty_iff.mp hem key] at hk; cases hk
  rw [hne, hin, Bool.false_or, Bool.and_true] at herase
  have hsize : a.mTrackingSessions.size = 1 ↔
      (a.mTrackingSessions.erase key).isEmpty = true := by
    rw [herase, beq_iff_eq]
  rw [hsize, Std.TreeMap.isEmpty_iff_forall_not_mem]
  refine forall_congr' fun k => ?_
  rw [Std.TreeMap.mem_erase, ne_eq, Std.compare_eq_iff_eq]
  constructor
  · intro h hkk
    exact options_eq_none_iff.mpr fun hm => h ⟨Ne.symm hkk, hm⟩
  · rintro h ⟨hkk, hm⟩
    exact options_eq_none_iff.mp (h (Ne.symm hkk)) hm

/-! ## Engine calls that succeed -/

section
variable (a : GnssAdapter)

theorem options_save (client : LocationAPI) (sessionId : Nat) (o : LocationOptions) :
    options (a.saveTrackingSession client sessionId o) =
      Function.update (options a) ⟨client, sessionId⟩ (some o) := by
  funext key
  simp only [options, saveTrackingSession, Std.TreeMap.getElem?_insert, Std.compare_eq_iff_eq]
  by_cases hk : key = ⟨client, sessionId⟩
  · rw [hk, Function.update_self, if_pos rfl]
  · rw [Function.update_of_ne hk, if_neg (Ne.symm hk)]
    rfl

theorem options_erase (client : LocationAPI) (sessionId : Nat) :
    options (a.eraseTrackingSession client sessionId) =
      Function.update (options a) ⟨client, sessionId⟩ none := by
  funext key
  simp only [options, eraseTrackingSession, Std.TreeMap.getElem?_erase, Std.compare_eq_iff_eq]
  by_cases hk : key = ⟨client, sessionId⟩
  · rw [hk, Function.update_self, if_pos rfl]
  · rw [Function.update_of_ne hk, if_neg (Ne.symm hk)]
    rfl

end

/-! ## Two views of options and modes -/

/-- What one looks at in options and in the engine's mode, with its interval. -/
structure View (W : Type) where
  ofOptions : LocationOptions → W
  ofMode : LocPosMode → W
  interval : W → Nat
  ofMode_posMode : ∀ o, ofMode (posMode o) = ofOptions o
  interval_ofOptions : ∀ o, interval (ofOptions o) = o.minInterval

def intervalView : View Nat :=
  ⟨LocationOptions.minInterval, LocPosMode.min_interval, id, fun _ => rfl, fun _ => rfl⟩

def modeView : View LocPosMode := ⟨posMode, id, LocPosMode.min_interval, fun _ => rfl, fun _ => rfl⟩

section
variable {W : Type} (v : View W)

def View.table (a : GnssAdapter) (key : LocationSessionKey) : Option W :=
  (options a key).map v.ofOptions

def View.engine (a : GnssAdapter) : Option W := a.mLocApi.session.map v.ofMode

/-- The engine serves a session with the least interval, if there is one. -/
def View.Fits (a : GnssAdapter) : Prop := Serving v.interval (v.table a) (v.engine a)

/-- The engine runs with what another session has, or with the new options. -/
def View.RunsElsewhere (a : GnssAdapter) (key : LocationSessionKey) (new : Option LocationOptions) :
    Prop :=
  (∃ p ∈ a.mTrackingSessions.toList, p.1 ≠ key ∧ v.engine a = some (v.ofOptions p.2)) ∨
    v.engine a = new.map v.ofOptions

theorem View.runsElsewhere_iff {a : GnssAdapter} {key : LocationSessionKey}
    {new : Option LocationOptions} {w : W} (hw : v.engine a = some w) :
    v.RunsElsewhere a key new ↔ Elsewhere (v.table a) key (new.map v.ofOptions) w := by
  simp only [View.RunsElsewhere, hw, Elsewhere, View.table, Option.some.injEq, Prod.exists,
    mem_toList_iff, Option.map_eq_some_iff]
  refine or_congr (exists_congr fun k => ?_) ?_
  · constructor
    · intro hh
      obtain ⟨o, ho, hk, rfl⟩ := hh
      exact ⟨hk, o, ho, rfl⟩
    · intro hh
      obtain ⟨hk, o, ho, rfl⟩ := hh
      exact ⟨o, ho, hk, rfl⟩
  · rw [eq_comm, Option.map_eq_some_iff]

variable {v} {a a' : GnssAdapter} {key : LocationSessionKey} {new : Option LocationOptions}

theorem View.table_edit (he : options a' = Function.update (options a) key new) :
    v.table a' = Function.update (v.table a) key (new.map v.ofOptions) := by
  have := map_update v.ofOptions (options a) key new
  rw [← he] at this
  exact this

theorem View.engine_of {o : LocationOptions} (hs : a'.mLocApi.session = some (posMode o)) :
    v.engine a' = some (v.ofOptions o) := by
  rw [View.engine, hs, Option.map_some, v.ofMode_posMode]

theorem View.fits_alone (he : options a' = Function.update (options a) key new)
    (ha : ∀ k, k ≠ key → options a k = none) (hs : a'.mLocApi.session = new.map posMode) :
    v.Fits a' := by
  have heng : v.engine a' = new.map v.ofOptions := by
    rw [View.engine, hs, Option.map_map]
    exact congrArg (Option.map · new) (funext v.ofMode_posMode)
  rw [View.Fits, View.table_edit he, heng]
  exact Serving.alone (fun k hk => by rw [View.table, ha k hk]; rfl) _

theorem View.fits_new {o : LocationOptions}
    (he : options a' = Function.update (options a) key (some o))
    (hle : ∀ k o', k ≠ key → options a k = some o' → o.minInterval ≤ o'.minInterval)
    (hs : a'.mLocApi.session = some (posMode o)) : v.Fits a' := by
  rw [View.Fits, View.table_edit he, View.engine_of hs]
  refine Serving.new fun k w hk hw => ?_
  obtain ⟨o', ho', rfl⟩ := Option.map_eq_some_iff.mp hw
  rw [v.interval_ofOptions, v.interval_ofOptions]
  exact hle k o' hk ho'

theorem View.fits_other {o : LocationOptions}
    (he : options a' = Function.update (options a) key new)
    (hleast : LeastEntry LocationOptions.minInterval (Function.update (options a) key none) o)
    (hle : ∀ o', new = some o' → o.minInterval ≤ o'.minInterval)
    (hs : a'.mLocApi.session = some (posMode o)) : v.Fits a' := by
  have hmap := hleast.map v.interval_ofOptions
  rw [map_update] at hmap
  rw [View.Fits, View.table_edit he, View.engine_of hs]
  refine Serving.other hmap fun w hw => ?_
  obtain ⟨o', ho', rfl⟩ := Option.map_eq_some_iff.mp hw
  rw [v.interval_ofOptions, v.interval_ofOptions]
  exact hle o' ho'

theorem View.fits_kept (hfit : v.Fits a) (he : options a' = Function.update (options a) key new)
    (hne : ∃ k o, options a k = some o)
    (hle : ∀ o', new = some o' → ∃ k o, options a k = some o ∧ o.minInterval ≤ o'.minInterval)
    (hrun : v.RunsElsewhere a key new) (hs : a'.mLocApi.session = a.mLocApi.session) :
    v.Fits a' := by
  have heng : v.engine a' = v.engine a := congrArg (Option.map v.ofMode) hs
  rw [View.Fits, View.table_edit he, heng]
  have hsome : (v.engine a).isSome := by
    obtain ⟨k, o, hk⟩ := hne
    exact hfit.isSome_iff.mpr ⟨k, v.ofOptions o, by rw [View.table, hk]; rfl⟩
  obtain ⟨w, hw⟩ := Option.isSome_iff_exists.mp hsome
  rw [v.runsElsewhere_iff hw] at hrun
  rw [View.Fits, hw] at hfit
  rw [hw]
  refine Serving.kept hfit hrun fun w' hw' => ?_
  obtain ⟨o', ho', rfl⟩ := Option.map_eq_some_iff.mp hw'
  obtain ⟨k, o, hk, hko⟩ := hle o' ho'
  calc v.interval w ≤ v.interval (v.ofOptions o) :=
        hfit.least k _ (by rw [View.table, hk]; rfl)
    _ = o.minInterval := v.interval_ofOptions o
    _ ≤ o'.minInterval := hko
    _ = v.interval (v.ofOptions o') := (v.interval_ofOptions o').symm

end

end DeviceHal.Gnss.TrackingMultiplex
