import DeviceHal.Core.ReportHistory

/-! # The latest position

`SystemStatus::eventPosition` and the location list of `getReport`. Two reports are
equal when latitude, longitude and altitude are, so a call whose position is the one
stored leaves the accuracy, the speed, the bearing and the uncertainties of the call
that stored it. -/
namespace DeviceHal.Core.LatestPosition
open DeviceHal.Core.NetworkInfo DeviceHal.Core.ReportHistory

/-! ## Locations -/

variable {τ F ρ χ : Type}

structure LocGpsLocation (F : Type) where
  size : Nat
  flags : BitVec 16
  latitude : F
  longitude : F
  altitude : F
  speed : F
  bearing : F
  accuracy : F
  vertUncertainity : F
  timestamp : Int
deriving DecidableEq

structure UlpLocation (F ρ : Type) where
  gpsLocation : LocGpsLocation F
  /-- Source, technology, raw data, floor and map. -/
  others : ρ
deriving DecidableEq

structure GpsLocationExtended (F χ : Type) where
  vert_unc : F
  speed_unc : F
  bearing_unc : F
  /-- Dilutions of precision, reliabilities, satellites used, dynamics, times. -/
  others : χ
deriving DecidableEq

structure SystemStatusLocation (F ρ χ : Type) where
  mValid : Bool
  mLocation : UlpLocation F ρ
  mLocationEx : GpsLocationExtended F χ
deriving DecidableEq

section Equality
variable [FloatEq F]

def SystemStatusLocation.equals (self peer : SystemStatusLocation F ρ χ) : Bool :=
  if !FloatEq.eq self.mLocation.gpsLocation.latitude peer.mLocation.gpsLocation.latitude ||
      !FloatEq.eq self.mLocation.gpsLocation.longitude peer.mLocation.gpsLocation.longitude ||
      !FloatEq.eq self.mLocation.gpsLocation.altitude peer.mLocation.gpsLocation.altitude then
    false
  else true

instance : ReportData (SystemStatusLocation F ρ χ) := ⟨SystemStatusLocation.equals⟩

theorem equals_iff (self peer : SystemStatusLocation F ρ χ) :
    self.equals peer = true ↔
      FloatEq.eq self.mLocation.gpsLocation.latitude
          peer.mLocation.gpsLocation.latitude = true ∧
        FloatEq.eq self.mLocation.gpsLocation.longitude
          peer.mLocation.gpsLocation.longitude = true ∧
        FloatEq.eq self.mLocation.gpsLocation.altitude
          peer.mLocation.gpsLocation.altitude = true := by
  unfold SystemStatusLocation.equals
  split
  · grind
  · grind

theorem equals_symm {a b : SystemStatusLocation F ρ χ} (h : a.equals b = true) :
    b.equals a = true := by
  rw [equals_iff] at h ⊢
  exact ⟨FloatEq.symm h.1, FloatEq.symm h.2.1, FloatEq.symm h.2.2⟩

theorem equals_trans {a b c : SystemStatusLocation F ρ χ} (hab : a.equals b = true)
    (hbc : b.equals c = true) : a.equals c = true := by
  rw [equals_iff] at hab hbc ⊢
  exact ⟨FloatEq.trans hab.1 hbc.1, FloatEq.trans hab.2.1 hbc.2.1,
    FloatEq.trans hab.2.2 hbc.2.2⟩

/-! ## Calls -/

/-- One call of `eventPosition`, with the clock it reads. -/
structure PositionEvent (τ F ρ χ : Type) where
  now : τ
  location : UlpLocation F ρ
  locationEx : GpsLocationExtended F χ

/-- The report that the call makes. -/
def PositionEvent.reported (e : PositionEvent τ F ρ χ) : SystemStatusLocation F ρ χ :=
  ⟨true, e.location, e.locationEx⟩

/-- The return value and `mCache.mLocation`. -/
def eventPosition (mLocation : List (SystemStatusItem τ (SystemStatusLocation F ρ χ)))
    (e : PositionEvent τ F ρ χ) :
    Bool × List (SystemStatusItem τ (SystemStatusLocation F ρ χ)) :=
  let (ret, report, _) := setIteminReport mLocation (SystemStatusItem.new e.now e.reported)
  (ret, report)

/-- `mCache.mLocation` after the calls. -/
def afterCalls (mLocation : List (SystemStatusItem τ (SystemStatusLocation F ρ χ)))
    (events : List (PositionEvent τ F ρ χ)) :
    List (SystemStatusItem τ (SystemStatusLocation F ρ χ)) :=
  events.foldl (fun report e => (eventPosition report e).2) mLocation

/-- The report is cleared and the latest item is pushed. -/
def getIteminReport {ITEM : Type} (c : List ITEM) : List ITEM := c.getLast?.toList

/-- `mLocation` of the report: the latest item, or all of them. -/
def getReport {ITEM : Type} (mLocation : List ITEM) (isLatestOnly : Bool) : List ITEM :=
  if isLatestOnly then getIteminReport mLocation else mLocation

/-! ## The stored report -/

/-- The data of the latest report after one more report is made. -/
def hold (held : Option (SystemStatusLocation F ρ χ)) (c : SystemStatusLocation F ρ χ) :
    Option (SystemStatusLocation F ρ χ) :=
  if held.any (·.equals c) then held else some c

theorem hold_some (k c : SystemStatusLocation F ρ χ) :
    hold (some k) c = some (if k.equals c then k else c) := by
  rw [hold, Option.any_some]
  split <;> rfl

theorem data_eventPosition (mLocation : List (SystemStatusItem τ (SystemStatusLocation F ρ χ)))
    (e : PositionEvent τ F ρ χ) :
    (eventPosition mLocation e).2.getLast?.map (·.data) =
      hold (mLocation.getLast?.map (·.data)) e.reported := by
  refine (data_setIteminReport mLocation (SystemStatusItem.new e.now e.reported)).trans ?_
  rw [hold, Option.any_map]
  rfl

theorem data_afterCalls (mLocation : List (SystemStatusItem τ (SystemStatusLocation F ρ χ)))
    (events : List (PositionEvent τ F ρ χ)) :
    (afterCalls mLocation events).getLast?.map (·.data) =
      ((mLocation.getLast?.map (·.data)).toList ++
        events.map PositionEvent.reported).foldl hold none := by
  induction events using List.reverseRecOn with
  | nil =>
    rw [List.map_nil, List.append_nil]
    show mLocation.getLast?.map (·.data) = _
    cases mLocation.getLast? with
    | none => rfl
    | some back => rfl
  | append_singleton events e ih =>
    rw [List.map_append, ← List.append_assoc, List.foldl_append, ← ih, afterCalls,
      List.foldl_append]
    exact data_eventPosition _ e

/-- The report that began the last run of reports of one position. -/
def FirstOfLastRun (seq : List (SystemStatusLocation F ρ χ))
    (first : SystemStatusLocation F ρ χ) : Prop :=
  ∃ before after, seq = before ++ first :: after ∧
    (∀ p ∈ before.getLast?, p.equals first = false) ∧ ∀ x ∈ after, first.equals x = true

/-- One more report continues the last run or begins a run of its own. -/
theorem firstOfLastRun_concat (seq : List (SystemStatusLocation F ρ χ))
    (c first : SystemStatusLocation F ρ χ) :
    FirstOfLastRun (seq ++ [c]) first ↔
      (FirstOfLastRun seq first ∧ first.equals c = true) ∨
        (first = c ∧ ∀ p ∈ seq.getLast?, p.equals c = false) := by
  constructor
  · rintro ⟨before, after, hseq, hbefore, hrun⟩
    rcases List.eq_nil_or_concat' after with rfl | ⟨run, x, rfl⟩
    · right
      obtain ⟨rfl, hc⟩ := List.append_inj' hseq rfl
      obtain rfl : c = first := List.head_eq_of_cons_eq hc
      exact ⟨rfl, hbefore⟩
    · left
      rw [← List.cons_append, ← List.append_assoc] at hseq
      obtain ⟨rfl, hc⟩ := List.append_inj' hseq rfl
      obtain rfl : c = x := List.head_eq_of_cons_eq hc
      exact ⟨⟨before, run, rfl, hbefore, fun y hy => hrun y (by simp [hy])⟩, hrun c (by simp)⟩
  · rintro (⟨⟨before, run, rfl, hbefore, hrun⟩, hc⟩ | ⟨rfl, hbefore⟩)
    · refine ⟨before, run ++ [c], by simp, hbefore, ?_⟩
      intro x hx
      rcases List.mem_append.mp hx with hx | hx
      · exact hrun x hx
      · rw [List.mem_singleton.mp hx]
        exact hc
    · exact ⟨seq, [], rfl, hbefore, by simp⟩

/-- The last report of the run is the first one or has its position. -/
theorem FirstOfLastRun.last {seq : List (SystemStatusLocation F ρ χ)}
    {first last : SystemStatusLocation F ρ χ} (h : FirstOfLastRun seq first)
    (hlast : last ∈ seq.getLast?) : last = first ∨ first.equals last = true := by
  rcases List.eq_nil_or_concat' seq with rfl | ⟨rest, c, rfl⟩
  · cases hlast
  · rw [List.getLast?_concat] at hlast
    obtain rfl : c = last := Option.some.inj hlast
    rcases (firstOfLastRun_concat rest c first).mp h with ⟨-, hsame⟩ | ⟨hc, -⟩
    · exact .inr hsame
    · exact .inl hc.symm

/-- Comparing with the last report of a run is comparing with its first one. -/
theorem FirstOfLastRun.equals_iff {seq : List (SystemStatusLocation F ρ χ)}
    {first last : SystemStatusLocation F ρ χ} (h : FirstOfLastRun seq first)
    (hlast : last ∈ seq.getLast?) (c : SystemStatusLocation F ρ χ) :
    last.equals c = true ↔ first.equals c = true := by
  rcases h.last hlast with rfl | hsame
  · rfl
  · exact ⟨fun hc => equals_trans hsame hc, fun hc => equals_trans (equals_symm hsame) hc⟩

/-- The first report of the last run stays the stored one. -/
theorem hold_iff (seq : List (SystemStatusLocation F ρ χ))
    (first : SystemStatusLocation F ρ χ) :
    seq.foldl hold none = some first ↔ FirstOfLastRun seq first := by
  induction seq using List.reverseRecOn generalizing first with
  | nil =>
    constructor
    · intro h
      cases h
    · rintro ⟨before, after, hseq, -⟩
      simp at hseq
  | append_singleton seq c ih =>
    rw [List.foldl_append, firstOfLastRun_concat]
    show hold (seq.foldl hold none) c = some first ↔ _
    rcases List.eq_nil_or_concat' seq with rfl | ⟨rest, last, rfl⟩
    · rw [← ih]
      constructor
      · intro hc
        exact .inr ⟨(Option.some.inj hc).symm, by simp⟩
      · rintro (⟨hnone, -⟩ | ⟨rfl, -⟩)
        · cases hnone
        · rfl
    · obtain ⟨k, hk⟩ : ∃ k, (rest ++ [last]).foldl hold none = some k := by
        rw [List.foldl_append]
        cases hrest : rest.foldl hold none with
        | none => exact ⟨last, rfl⟩
        | some k => exact ⟨_, hold_some k last⟩
      have hfirst := (ih k).mp hk
      have hlast : last ∈ (rest ++ [last]).getLast? := List.getLast?_concat
      rw [hk, hold_some]
      by_cases hsame : k.equals c = true
      · -- the position is the stored one: the run goes on
        rw [if_pos hsame, Option.some_inj]
        constructor
        · rintro rfl
          exact .inl ⟨hfirst, hsame⟩
        · rintro (⟨hrun, -⟩ | ⟨-, hdiff⟩)
          · exact Option.some.inj (hk.symm.trans ((ih first).mpr hrun))
          · have hc := (hfirst.equals_iff hlast c).mpr hsame
            rw [hdiff last hlast] at hc
            cases hc
      · -- the position is another one: the report begins a run
        rw [if_neg hsame, Option.some_inj]
        constructor
        · rintro rfl
          refine .inr ⟨rfl, fun p hp => ?_⟩
          rw [← Bool.not_eq_true, hfirst.equals_iff hp]
          exact hsame
        · rintro (⟨hrun, hc⟩ | ⟨hc, -⟩)
          · rw [Option.some.inj (hk.symm.trans ((ih first).mpr hrun))] at hsame
            exact absurd hc hsame
          · exact hc.symm

/-- **The latest position is the last one exactly when** the report that began the last run
of one latitude, longitude and altitude (the one stored at the start included) has the
location and the extended location of the last call. -/
theorem latest_right_iff
    (mLocation : List (SystemStatusItem τ (SystemStatusLocation F ρ χ)))
    (events : List (PositionEvent τ F ρ χ)) (e : PositionEvent τ F ρ χ) :
    (getReport (afterCalls mLocation (events ++ [e])) true).map
        (fun s => (s.data.mLocation, s.data.mLocationEx)) = [(e.location, e.locationEx)] ↔
      ∃ first, FirstOfLastRun ((mLocation.getLast?.map (·.data)).toList ++
          (events ++ [e]).map PositionEvent.reported) first ∧
        first.mLocation = e.location ∧ first.mLocationEx = e.locationEx := by
  have hdata := data_afterCalls mLocation (events ++ [e])
  show (afterCalls mLocation (events ++ [e])).getLast?.toList.map _ = _ ↔ _
  simp only [← hold_iff, ← hdata]
  cases (afterCalls mLocation (events ++ [e])).getLast? with
  | none => simp
  | some back => simp

end Equality

/-! ## A better fix of one position -/

/-- A fix at one fixed position. -/
def fixWith (accuracy : Int) : PositionEvent Nat Int Unit Unit :=
  ⟨0, ⟨⟨0, 0, 48, 11, 500, 0, 0, accuracy, 0, 0⟩, ()⟩, ⟨0, 0, 0, ()⟩⟩

/-- The second fix is the better one, the report still tells the accuracy of the first. -/
theorem better_accuracy_lost :
    (getReport (afterCalls [] [fixWith 100, fixWith 5]) true).map
      (fun s => (s.data.mLocation, s.data.mLocationEx)) ≠
        [((fixWith 5).location, (fixWith 5).locationEx)] ∧
      (getReport (afterCalls [] [fixWith 100, fixWith 5]) true).map
        (fun s => s.data.mLocation.gpsLocation.accuracy) = [100] := by
  decide

end DeviceHal.Core.LatestPosition
