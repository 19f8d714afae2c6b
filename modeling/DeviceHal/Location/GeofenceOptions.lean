import DeviceHal.Location.Geofences

/-! # The options of modified geofences

`locAPIModifyGeofences` looks its ids up and hands on the sessions that it
finds, one after the other, together with the options as they came. The session
at place `j` is then read with option `j`, whichever id the option was for. -/
namespace DeviceHal.Location.Geofences
open DeviceHal.Gnss.LocationTypes DeviceHal.Location.Requests
open GeofenceKind GeofenceRequest GeofenceClient BiDict

/-- What the adapter reads from the two arrays: session `j` with option `j`. -/
def GeofenceCall.modified (call : GeofenceCall) : List (Nat × GeofenceOption) :=
  call.sessions.zip call.options

/-- The entries whose id has a session, each with the session. -/
def GeofenceBiDict.known (d : GeofenceBiDict) (fences : List (Nat × GeofenceOption)) :
    List (Nat × GeofenceOption) :=
  (fences.filter fun fence => 0 < d.getSession fence.1).map fun fence =>
    (d.getSession fence.1, fence.2)

/-- Each known id's session is handed on with the option given for that id, and
keeps the mask of that option. -/
def OptionsKept (c : GeofenceClient) (fences : List (Nat × GeofenceOption)) (op : Nat) : Prop :=
  ∀ call ∈ (c.locAPIModifyGeofences fences op).2,
    call.modified = GeofenceBiDict.known c.mGeofenceBiDict fences ∧
    ∀ fence ∈ GeofenceBiDict.known c.mGeofenceBiDict fences,
      (c.locAPIModifyGeofences fences op).1.mGeofenceBiDict.mExtMap[fence.1]? =
        some fence.2.breachTypeMask

/-- The options of the known ids are the first ones of the array. -/
def OptionsLead (d : GeofenceBiDict) (fences : List (Nat × GeofenceOption)) : Prop :=
  (GeofenceBiDict.known d fences).map Prod.snd <+: fences.map Prod.snd

/-- Entries for the same session ask for the same mask. -/
def MasksAgree (d : GeofenceBiDict) (fences : List (Nat × GeofenceOption)) : Prop :=
  ∀ fence ∈ GeofenceBiDict.known d fences, ∀ other ∈ GeofenceBiDict.known d fences,
    fence.1 = other.1 → fence.2.breachTypeMask = other.2.breachTypeMask

/-! ## The loop -/

section
variable {d : GeofenceBiDict} {ids : List (Nat × Option GeofenceBreachTypeMask)}

/-- A new mask leaves the session of every id as it is. -/
theorem getSession_set {id : Nat} (h : 0 < d.getSession id) (mask : GeofenceBreachTypeMask)
    (x : Nat) : (d.set id (d.getSession id) mask).getSession x = d.getSession x := by
  have hm : d.view.mForwardMap id = some (d.getSession id) := maps_of_getSession_pos h
  rw [getSession_eq, view_set, @getSession_eq _ d x]
  by_cases hx : x = id
  · rw [hx, hm]
    simp [BiDictView.set]
  · simp [BiDictView.set, hx]

/-- The fences that the loop finds are those of the ids that have a session before it. -/
theorem visitFences_fst : (visitFences d ids).1 =
    (ids.filter fun e => 0 < d.getSession e.1).map fun e => ⟨e.1, d.getSession e.1⟩ := by
  induction ids generalizing d with
  | nil => rfl
  | cons head rest ih =>
    obtain ⟨id, mask⟩ := head
    simp only [visitFences]
    split
    · rename_i hpos
      rw [List.filter_cons_of_pos (by simpa using hpos), List.map_cons]
      cases mask with
      | none => simp only [ih]
      | some mask => simp only [ih, getSession_set hpos]
    · rename_i hneg
      rw [List.filter_cons_of_neg (by simpa using hneg), ih]

/-- A session that is given one mask only has it after the loop. -/
theorem ext_visitFences {session : Nat} {mask : GeofenceBreachTypeMask}
    (hone : ∀ e ∈ ids, 0 < d.getSession e.1 → d.getSession e.1 = session → e.2 = some mask)
    (hmask : d.view.mExtMap session = some mask ∨
      ∃ e ∈ ids, 0 < d.getSession e.1 ∧ d.getSession e.1 = session) :
    (visitFences d ids).2.view.mExtMap session = some mask := by
  induction ids generalizing d with
  | nil =>
    obtain hmask | ⟨e, he, -⟩ := hmask
    · exact hmask
    · cases he
  | cons head rest ih =>
    obtain ⟨id, mask'⟩ := head
    obtain ⟨hhead, hrest⟩ := List.forall_mem_cons.mp hone
    simp only [visitFences]
    split
    · rename_i hpos
      cases mask' with
      | none =>
        refine ih hrest (hmask.imp_right fun hex => ?_)
        obtain ⟨e, he, hfound⟩ := hex
        rcases List.mem_cons.mp he with rfl | he
        · cases hhead hfound.1 hfound.2
        · exact ⟨e, he, hfound⟩
      | some mask' =>
        refine ih ?_ ?_
        · simpa only [getSession_set hpos] using hrest
        · simp only [getSession_set hpos, view_set]
          by_cases hs : d.getSession id = session
          · obtain rfl := Option.some.inj (hhead hpos hs)
            exact .inl (by rw [hs]; exact Function.update_self ..)
          · refine hmask.imp (fun hext => ?_) fun hex => ?_
            · rw [← hext]
              exact Function.update_of_ne (Ne.symm hs) ..
            · obtain ⟨e, he, hfound⟩ := hex
              rcases List.mem_cons.mp he with rfl | he
              · exact absurd hfound.2 hs
              · exact ⟨e, he, hfound⟩
    · rename_i hneg
      refine ih hrest (hmask.imp_right fun hex => ?_)
      obtain ⟨e, he, hfound⟩ := hex
      rcases List.mem_cons.mp he with rfl | he
      · exact absurd hfound.1 hneg
      · exact ⟨e, he, hfound⟩

end

/-! ## The arrays that are handed on -/

/-- Two arrays that walk side by side pair up a list exactly if the second starts
with the list's own entries. -/
theorem zip_eq_iff_prefix {α β : Type*} {pairs : List (α × β)} {options : List β}
    (hlen : pairs.length ≤ options.length) :
    (pairs.map Prod.fst).zip options = pairs ↔ pairs.map Prod.snd <+: options := by
  induction pairs generalizing options with
  | nil => simp
  | cons pair rest ih =>
    cases options with
    | nil => simp at hlen
    | cons option options =>
      obtain ⟨session, given⟩ := pair
      rw [List.map_cons, List.map_cons, List.zip_cons_cons, List.cons.injEq, Prod.mk.injEq,
        List.cons_prefix_cons, ih (Nat.le_of_succ_le_succ hlen)]
      simp only [true_and, eq_comm (a := option)]

section
variable {c : GeofenceClient} {fences : List (Nat × GeofenceOption)} {op : Nat}

/-- What the loop is given for the entries of a modification. -/
def masked (fences : List (Nat × GeofenceOption)) : List (Nat × Option GeofenceBreachTypeMask) :=
  fences.map fun fence => (fence.1, some fence.2.breachTypeMask)

theorem visitFences_masked (d : GeofenceBiDict) (fences : List (Nat × GeofenceOption)) :
    (visitFences d (masked fences)).1.map (·.session) =
      (GeofenceBiDict.known d fences).map Prod.fst := by
  rw [visitFences_fst, masked, GeofenceBiDict.known, List.filter_map]
  simp only [List.map_map]
  rfl

/-- A modification that finds a session hands on what it found, with all the options. -/
theorem modify_spec :
    (c.locAPIModifyGeofences fences op).2 = none ∧
      (c.mLocationAPI = true → c.mRequestQueue.getSession = GEOFENCE_SESSION_ID →
        GeofenceBiDict.known c.mGeofenceBiDict fences = []) ∨
    c.mLocationAPI = true ∧ c.mRequestQueue.getSession = GEOFENCE_SESSION_ID ∧
      (c.locAPIModifyGeofences fences op).2 = some ⟨modifyGeofences, op,
        (visitFences c.mGeofenceBiDict (masked fences)).1, fences.map Prod.snd⟩ ∧
      (c.locAPIModifyGeofences fences op).1.mGeofenceBiDict =
        (visitFences c.mGeofenceBiDict (masked fences)).2 := by
  simp only [locAPIModifyGeofences, visit]
  split
  · rename_i hready
    split
    · exact .inr ⟨hready.1, hready.2, rfl, rfl⟩
    · rename_i hnone
      refine .inl ⟨rfl, fun _ _ => ?_⟩
      have hfound : (visitFences c.mGeofenceBiDict (masked fences)).1 = [] :=
        List.eq_nil_of_length_eq_zero (Nat.eq_zero_of_not_pos hnone)
      have hfst := visitFences_masked c.mGeofenceBiDict fences
      rw [hfound] at hfst
      exact List.map_eq_nil_iff.mp hfst.symm
  · rename_i hclosed
    exact .inl ⟨rfl, fun hapi hopen => absurd ⟨hapi, hopen⟩ hclosed⟩

/-- The masks that the sessions have afterwards. -/
theorem masks_iff (d : GeofenceBiDict) (fences : List (Nat × GeofenceOption)) :
    (∀ fence ∈ GeofenceBiDict.known d fences,
      (visitFences d (masked fences)).2.mExtMap[fence.1]? = some fence.2.breachTypeMask) ↔
      MasksAgree d fences := by
  constructor
  · intro h fence hfence other hother heq
    have hmask := h fence hfence
    rw [heq] at hmask
    exact Option.some.inj (hmask.symm.trans (h other hother))
  · intro h fence hfence
    refine @ext_visitFences d (masked fences) fence.1 fence.2.breachTypeMask ?_ (.inr ?_)
    · intro e he hpos heq
      obtain ⟨other, hother, rfl⟩ := List.mem_map.mp he
      have hknown : (d.getSession other.1, other.2) ∈ GeofenceBiDict.known d fences :=
        List.mem_map.mpr ⟨other, List.mem_filter.mpr ⟨hother, by simpa using hpos⟩, rfl⟩
      exact congrArg some (h _ hknown fence hfence heq)
    · obtain ⟨entry, hentry, rfl⟩ := List.mem_map.mp hfence
      obtain ⟨hmem, hpos⟩ := List.mem_filter.mp hentry
      exact ⟨_, List.mem_map_of_mem hmem, by simpa using hpos, rfl⟩

/-- **A modification pairs every known id's session with the id's own option and
keeps its mask, exactly if the options of the known ids are the first ones given
and no session is given two masks.** -/
theorem options_kept_iff (c : GeofenceClient) (fences : List (Nat × GeofenceOption)) (op : Nat) :
    OptionsKept c fences op ↔
      (c.mLocationAPI = true → c.mRequestQueue.getSession = GEOFENCE_SESSION_ID →
        OptionsLead c.mGeofenceBiDict fences ∧ MasksAgree c.mGeofenceBiDict fences) := by
  rw [OptionsKept]
  rcases @modify_spec c fences op with ⟨hcall, hnone⟩ | ⟨hapi, hopen, hcall, hdict⟩
  · rw [hcall]
    refine iff_of_true (fun _ h => (by cases h)) fun hapi hopen => ?_
    have hnil := hnone hapi hopen
    rw [OptionsLead, MasksAgree, hnil]
    exact ⟨List.nil_prefix, fun _ h => (by cases h)⟩
  · rw [hcall, hdict, forall_prop_of_true hapi, forall_prop_of_true hopen, ← masks_iff]
    simp only [Option.mem_def, Option.some.injEq, forall_eq']
    refine and_congr_left fun _ => ?_
    rw [GeofenceCall.modified, GeofenceCall.sessions, visitFences_masked, OptionsLead]
    refine zip_eq_iff_prefix ?_
    simp only [GeofenceBiDict.known, List.length_map]
    exact List.length_filter_le ..

/-- An id that is not known comes before one that is: the session of fence 7 is
handed on with the option for fence 5, and keeps the mask of its own. -/
theorem unknown_first_shifts :
    let c : GeofenceClient := ⟨true, ⟨GEOFENCE_SESSION_ID, []⟩, .set .empty 7 10 3⟩
    let r := c.locAPIModifyGeofences [(5, ⟨1, 500, 0⟩), (7, ⟨2, 900, 30⟩)] 0
    r.2.map (·.modified) = some [(10, ⟨1, 500, 0⟩)] ∧ r.1.mGeofenceBiDict.mExtMap[10]? = some 2 ∧
      ¬ OptionsKept c [(5, ⟨1, 500, 0⟩), (7, ⟨2, 900, 30⟩)] 0 := by
  refine ⟨by decide, by decide, fun h => ?_⟩
  exact absurd (h ⟨modifyGeofences, 0, [⟨7, 10⟩], [⟨1, 500, 0⟩, ⟨2, 900, 30⟩]⟩ (by decide)).1
    (by decide)

end

end DeviceHal.Location.Geofences
