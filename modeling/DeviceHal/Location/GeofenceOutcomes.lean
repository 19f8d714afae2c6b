import DeviceHal.Location.GeofenceAnswers

/-! # The dictionary and what the engine made of its fences

Fences are bound and released when the calls are sent. The adapter answers each
fence of a call on its own, and neither the request of an add nor that of a
removal looks at the errors. -/
namespace DeviceHal.Location.Geofences
open DeviceHal.Lib.Run DeviceHal.Gnss.LocationTypes DeviceHal.Location.Requests
open GeofenceKind GeofenceRequest GeofenceClient BiDict
open LocationError

/-! ## Sessions sent and sessions bound -/

/-- Sessions are added once and removed once; those that were added and not
removed are bound. -/
structure Account (added removed given : List Nat) (bound : Nat → Prop) : Prop where
  addedOnce : added.Nodup
  removedOnce : removed.Nodup
  given : added ⊆ given
  order : removed ⊆ added
  bound_iff : ∀ session, bound session ↔ session ∈ added ∧ session ∉ removed

section
variable {added removed given sessions : List Nat} {bound bound' : Nat → Prop}

theorem Account.add (h : Account added removed given bound) (hnodup : sessions.Nodup)
    (hnew : ∀ session ∈ sessions, session ∉ given)
    (hbound : ∀ session, bound' session ↔ session ∈ sessions ∨ bound session) :
    Account (added ++ sessions) removed (sessions ++ given) bound' where
  addedOnce := by
    refine List.Nodup.append h.addedOnce hnodup fun s hs hs' => ?_
    exact hnew s hs' (h.given hs)
  removedOnce := h.removedOnce
  given := by
    intro s hs
    rcases List.mem_append.mp hs with hs | hs
    · exact List.mem_append_right _ (h.given hs)
    · exact List.mem_append_left _ hs
  order := fun s hs => List.mem_append_left _ (h.order hs)
  bound_iff := by
    intro s
    have hapart : s ∈ sessions → s ∉ removed :=
      fun hs hr => hnew s hs (h.given (h.order hr))
    rw [hbound, h.bound_iff, List.mem_append]
    constructor
    · intro hs
      rcases hs with hs | hs
      · exact ⟨.inr hs, hapart hs⟩
      · exact ⟨.inl hs.1, hs.2⟩
    · intro hs
      obtain ⟨hs, hr⟩ := hs
      exact hs.symm.imp_right fun hs => ⟨hs, hr⟩

theorem Account.remove (h : Account added removed given bound) (hnodup : sessions.Nodup)
    (hold : ∀ session ∈ sessions, bound session)
    (hbound : ∀ session, bound' session ↔ bound session ∧ session ∉ sessions) :
    Account added (removed ++ sessions) given bound' where
  addedOnce := h.addedOnce
  removedOnce := by
    refine List.Nodup.append h.removedOnce hnodup fun s hs hs' => ?_
    exact ((h.bound_iff s).mp (hold s hs')).2 hs
  given := h.given
  order := by
    intro s hs
    rcases List.mem_append.mp hs with hs | hs
    · exact h.order hs
    · exact ((h.bound_iff s).mp (hold s hs)).1
  bound_iff := by
    intro s
    rw [hbound, h.bound_iff, List.mem_append, not_or, and_assoc]

theorem Account.congr (h : Account added removed given bound)
    (hbound : ∀ session, bound' session ↔ bound session) : Account added removed given bound' :=
  ⟨h.addedOnce, h.removedOnce, h.given, h.order, fun s => (hbound s).trans (h.bound_iff s)⟩

end

/-! ## The answers along a run -/

/-- What the adapter answered for one fence of a call. -/
structure Outcome where
  kind : GeofenceKind
  session : Nat
  error : LocationError
deriving DecidableEq

/-- The call that a response now is for. -/
def World.asks (w : World) : Option GeofenceCall :=
  match w.answer with
  | none => w.pending.head?
  | some _ => none

def World.outcomes (w : World) : Event → List Outcome
  | .response errors =>
    match w.asks with
    | some call => (call.sessions.zip errors).map fun a => ⟨call.kind, a.1, a.2⟩
    | none => []
  | _ => []

/-- The client with the answers of its adapter, fence by fence. -/
structure Ledger where
  world : World
  outcomes : List Outcome

namespace Ledger

def init (api : Bool) : Ledger := ⟨.init api, []⟩

def step (l : Ledger) (e : Event) : Ledger := ⟨l.world.step e, l.outcomes ++ l.world.outcomes e⟩

/-- The sessions that were answered in calls of the kind, -/
def told (l : Ledger) (kind : GeofenceKind) : List Nat :=
  (l.outcomes.filter fun o => o.kind = kind).map (·.session)

/-- and with them those that wait for the answer. -/
def sent (l : Ledger) (kind : GeofenceKind) : List Nat :=
  l.told kind ++ (l.world.pending.filter fun call => call.kind = kind).flatMap (·.sessions)

/-- No geofence request is outstanding. -/
def Quiet (l : Ledger) : Prop := l.world.pending = [] ∧ l.world.answer = none

instance (l : Ledger) : Decidable l.Quiet :=
  decidable_of_iff (l.world.pending = [] ∧ l.world.answer.isNone = true)
    (and_congr_right fun _ => Option.isNone_iff_eq_none)

def bound (l : Ledger) (session : Nat) : Prop :=
  l.world.client.mGeofenceBiDict.view.hasSession session = true

instance (l : Ledger) (session : Nat) : Decidable (l.bound session) :=
  inferInstanceAs (Decidable (_ = _))

/-- The dictionary follows the engine: a session is bound if its add went well
and no removal of it did. -/
def InStep (l : Ledger) : Prop :=
  l.Quiet → ∀ session, l.bound session ↔
    ⟨addGeofences, session, LOCATION_ERROR_SUCCESS⟩ ∈ l.outcomes ∧
    ⟨removeGeofences, session, LOCATION_ERROR_SUCCESS⟩ ∉ l.outcomes

/-- A fence whose add failed was removed all the same, and no removal of a fence
that the engine had failed. -/
def FailuresCovered (l : Ledger) : Prop :=
  ∀ o ∈ l.outcomes, o.error ≠ LOCATION_ERROR_SUCCESS →
    (o.kind = addGeofences → o.session ∈ l.told removeGeofences) ∧
    (o.kind = removeGeofences →
      ⟨addGeofences, o.session, LOCATION_ERROR_SUCCESS⟩ ∉ l.outcomes)

instance (l : Ledger) : Decidable l.FailuresCovered := by
  unfold FailuresCovered
  infer_instance

end Ledger

/-- An answer has an error for each fence of its call. -/
def EachAnswered (w : World) : Event → Prop
  | .response errors => ∀ call ∈ w.asks, errors.length = call.fences.length
  | _ => True

instance EachAnswered.decidable (w : World) (e : Event) : Decidable (EachAnswered w e) := by
  unfold EachAnswered
  split <;> infer_instance

/-- What the client and the adapter keep to. -/
def Orderly (l : Ledger) (e : Event) : Prop :=
  FreshSessions l.world e ∧ NewIds l.world e ∧ EachAnswered l.world e

instance (l : Ledger) (e : Event) : Decidable (Orderly l e) :=
  inferInstanceAs (Decidable (_ ∧ _ ∧ _))

/-! ## What the operations send -/

section
variable {w : World} {c : GeofenceClient} {d : GeofenceBiDict}

/-- The sessions of the calls that an operation hands on. -/
def handed (calls : List GeofenceCall) : List Nat := calls.flatMap (·.sessions)

/-- No session is found twice: what is found is taken out. -/
theorem nodup_releaseFences (hd : d.Bijective) (removed : GeofenceBiDict) (ids : List Nat) :
    ((releaseFences d removed ids).1.map (·.session)).Nodup := by
  induction ids generalizing d removed with
  | nil => exact List.nodup_nil
  | cons id ids ih =>
    rw [releaseFences]
    split
    · rename_i hpos
      have hm := maps_of_getSession_pos hpos
      have hrm := hd.rmBySession hm
      refine List.nodup_cons.mpr ⟨fun hmem => ?_, ih hrm _⟩
      obtain ⟨fence, hfence, heq⟩ := List.mem_map.mp hmem
      have hback := hrm.inStep.forward ((releaseFences_spec hrm ids).bound fence hfence)
      rw [view_rmBySession, heq] at hback
      simp [BiDictView.rmBySession] at hback
    · exact ih hd removed

/-- A removal hands on bound sessions, once each, and unbinds exactly these. -/
theorem remove_spec (hd : c.mGeofenceBiDict.Bijective) (ids : List Nat) (op : Nat) :
    (∀ call ∈ (c.locAPIRemoveGeofences ids op).2, call.kind = removeGeofences) ∧
    (handed (c.locAPIRemoveGeofences ids op).2.toList).Nodup ∧
    (∀ session ∈ handed (c.locAPIRemoveGeofences ids op).2.toList,
      c.mGeofenceBiDict.view.hasSession session = true) ∧
    ∀ session, (c.locAPIRemoveGeofences ids op).1.mGeofenceBiDict.view.hasSession session = true ↔
      c.mGeofenceBiDict.view.hasSession session = true ∧
        session ∉ handed (c.locAPIRemoveGeofences ids op).2.toList := by
  have hreleased := @releaseFences_spec _ .empty hd ids
  have hnodup := nodup_releaseFences hd .empty ids
  have hbound : ∀ session ∈ (releaseFences c.mGeofenceBiDict .empty ids).1.map (·.session),
      c.mGeofenceBiDict.view.hasSession session = true := by
    intro s hs
    obtain ⟨fence, hfence, rfl⟩ := List.mem_map.mp hs
    exact hd.inStep.hasSession_iff.mpr ⟨fence.id, hreleased.bound fence hfence⟩
  have hleft : ∀ session, (releaseFences c.mGeofenceBiDict .empty ids).2.1.view.hasSession session
      = true ↔ c.mGeofenceBiDict.view.hasSession session = true ∧
        session ∉ (releaseFences c.mGeofenceBiDict .empty ids).1.map (·.session) := by
    intro s
    rw [BiDictView.hasSession, BiDictView.hasSession]
    by_cases hs : s ∈ (releaseFences c.mGeofenceBiDict .empty ids).1.map (·.session)
    · obtain ⟨fence, hfence, rfl⟩ := List.mem_map.mp hs
      rw [hreleased.gone fence hfence]
      exact iff_of_false Bool.false_ne_true fun h => h.2 hs
    · rw [hreleased.kept s fun fence hfence heq => hs (List.mem_map.mpr ⟨fence, hfence, heq⟩)]
      exact (and_iff_left hs).symm
  unfold locAPIRemoveGeofences
  split
  · dsimp only
    split
    · have hhanded : handed [⟨removeGeofences, op,
          (releaseFences c.mGeofenceBiDict .empty ids).1, []⟩] =
          (releaseFences c.mGeofenceBiDict .empty ids).1.map (·.session) := List.append_nil _
      simp only [Option.toList_some, Option.mem_some_iff, forall_eq', hhanded]
      exact ⟨trivial, hnodup, hbound, hleft⟩
    · rename_i hnone
      have hnil := List.eq_nil_of_length_eq_zero (Nat.eq_zero_of_not_pos hnone)
      rw [hnil] at hleft
      exact ⟨fun _ h => (by cases h), List.nodup_nil, fun _ h => (by cases h), hleft⟩
  · refine ⟨fun _ h => (by cases h), List.nodup_nil, fun _ h => (by cases h), fun s => ?_⟩
    exact (and_iff_left List.not_mem_nil).symm

/-- An operation on fences that stay binds and unbinds nothing. -/
theorem visit_spec (hd : c.mGeofenceBiDict.Bijective) (kind : GeofenceKind)
    (request : Nat → GeofenceRequest) (ids : List (Nat × Option GeofenceBreachTypeMask))
    (options : List GeofenceOption) (op : Nat) :
    (∀ call ∈ (c.visit kind request ids options op).2, call.kind = kind) ∧
    ∀ session, (c.visit kind request ids options op).1.mGeofenceBiDict.view.hasSession session =
      c.mGeofenceBiDict.view.hasSession session := by
  have hsame : ∀ session, (visitFences c.mGeofenceBiDict ids).2.view.hasSession session =
      c.mGeofenceBiDict.view.hasSession session := fun s =>
    congrArg Option.isSome ((visitFences_spec hd ids).1.backward s)
  unfold visit
  split
  · dsimp only
    split
    · exact ⟨fun call hcall => (by obtain rfl := Option.some.inj hcall; rfl), hsame⟩
    · exact ⟨fun _ h => (by cases h), hsame⟩
  · exact ⟨fun _ h => (by cases h), fun _ => rfl⟩

/-- The call of an add that goes through. -/
theorem add_pending (hapi : w.client.mLocationAPI = true) (fences : List (Nat × GeofenceOption))
    (sessions : List Nat) : ∃ call : GeofenceCall, call.kind = addGeofences ∧
      call.sessions = (fences.zip sessions).map Prod.snd ∧
      (w.step (.addGeofences fences (some sessions))).pending = w.pending ++ [call] := by
  simp only [World.step, locAPIAddGeofences, if_pos hapi]
  refine ⟨_, rfl, ?_, rfl⟩
  rw [GeofenceCall.sessions, List.map_map]
  rfl

theorem add_refused_pending {fences : List (Nat × GeofenceOption)} {sessions : Option (List Nat)}
    (h : w.client.mLocationAPI = false ∨ sessions = none) :
    (w.step (.addGeofences fences sessions)).pending = w.pending := by
  simp only [World.step, locAPIAddGeofences]
  split
  · rename_i hapi
    obtain rfl := h.resolve_left (by rw [hapi]; exact Bool.true_eq_false.mp)
    exact List.append_nil _
  · exact List.append_nil _

end

/-! ## The account along a run -/

namespace Ledger

structure Sound (l : Ledger) : Prop where
  good : Good l.world
  account : Account (l.sent addGeofences) (l.sent removeGeofences) l.world.sessions l.bound

section
variable {l : Ledger} {e : Event}

theorem sound_init (api : Bool) : (Ledger.init api).Sound where
  good := good_init api
  account := ⟨List.nodup_nil, List.nodup_nil, List.nil_subset _, List.nil_subset _,
    fun s => by simp [bound, init, World.init, BiDictView.hasSession, BiDictView.empty, sent, told]⟩

theorem mem_sent {session : Nat} {kind : GeofenceKind} (hquiet : l.Quiet) :
    session ∈ l.sent kind ↔ ∃ error, ⟨kind, session, error⟩ ∈ l.outcomes := by
  rw [sent, hquiet.1, List.filter_nil, List.flatMap_nil, List.append_nil, told, List.mem_map]
  constructor
  · intro h
    obtain ⟨⟨kind', session, error⟩, ho, rfl⟩ := h
    obtain ⟨hmem, hkind⟩ := List.mem_filter.mp ho
    obtain rfl : kind' = kind := by simpa using hkind
    exact ⟨error, hmem⟩
  · intro h
    obtain ⟨error, hmem⟩ := h
    exact ⟨_, List.mem_filter.mpr ⟨hmem, by simp⟩, rfl⟩

/-- What an operation hands on is sent under its kind. -/
theorem sent_step {calls : List GeofenceCall} (ho : l.world.outcomes e = [])
    (hp : (l.world.step e).pending = l.world.pending ++ calls) (kind : GeofenceKind) :
    (l.step e).sent kind =
      l.sent kind ++ handed (calls.filter fun call => call.kind = kind) := by
  simp only [sent, told, step, ho, hp, List.append_nil, List.filter_append, List.flatMap_append,
    List.append_assoc, handed]

/-- The calls are all of one kind, -/
theorem filter_kind {calls : List GeofenceCall} {kind : GeofenceKind}
    (hkind : ∀ call ∈ calls, call.kind = kind) :
    (calls.filter fun call => call.kind = kind) = calls :=
  List.filter_eq_self.mpr fun call hcall => by simpa using hkind call hcall

/-- so none is of another. -/
theorem filter_other {calls : List GeofenceCall} {kind other : GeofenceKind}
    (hkind : ∀ call ∈ calls, call.kind = kind) (hne : kind ≠ other) :
    (calls.filter fun call => call.kind = other) = [] :=
  List.filter_eq_nil_iff.mpr fun call hcall => by simpa [hkind call hcall] using hne

/-- The sessions of an answered call have moved from those that wait. -/
theorem sent_response {errors : List LocationError}
    (hall : EachAnswered l.world (.response errors)) (kind : GeofenceKind) :
    (l.step (.response errors)).sent kind = l.sent kind := by
  cases hasks : l.world.asks with
  | none =>
    have hstep : l.world.step (.response errors) = l.world := by
      rw [World.asks] at hasks
      simp only [World.step]
      split
      · rename_i ha hp
        simp [ha, hp] at hasks
      · rfl
    have ho : l.world.outcomes (.response errors) = [] := by
      simp only [World.outcomes, hasks]
    rw [sent_step ho (by rw [hstep, List.append_nil])]
    exact List.append_nil _
  | some call =>
    obtain ⟨rest, ha, hp⟩ : ∃ rest, l.world.answer = none ∧ l.world.pending = call :: rest := by
      rw [World.asks] at hasks
      cases ha : l.world.answer with
      | some answer => rw [ha] at hasks; cases hasks
      | none =>
        rw [ha] at hasks
        obtain ⟨rest, hp⟩ := List.head?_eq_some_iff.mp hasks
        exact ⟨rest, rfl, hp⟩
    have hlen : call.sessions.length = errors.length := by
      rw [hall call hasks, GeofenceCall.sessions, List.length_map]
    have hpending : (l.world.step (.response errors)).pending = rest := by
      simp only [World.step, ha, hp]
    have hsessions : (call.sessions.zip errors).map Prod.fst = call.sessions :=
      List.map_fst_zip hlen.le
    simp only [sent, told, step, World.outcomes, hasks, hpending, hp, List.filter_append,
      List.map_append, List.append_assoc, List.append_cancel_left_eq]
    by_cases hkind : call.kind = kind
    · rw [List.filter_cons_of_pos (by simpa using hkind), List.flatMap_cons,
        List.append_cancel_right_eq, List.filter_eq_self.mpr ?_, List.map_map]
      · exact hsessions
      · intro o ho
        obtain ⟨a, -, rfl⟩ := List.mem_map.mp ho
        simpa using hkind
    · rw [List.filter_cons_of_neg (by simpa using hkind), List.filter_eq_nil_iff.mpr ?_]
      · rfl
      · intro o ho
        obtain ⟨a, -, rfl⟩ := List.mem_map.mp ho
        simpa using hkind

/-- An operation that hands on calls of a kind that neither adds nor removes. -/
theorem account_same (calls : List GeofenceCall) (kind : GeofenceKind) (h : l.Sound)
    (ho : l.world.outcomes e = []) (hp : (l.world.step e).pending = l.world.pending ++ calls)
    (hkind : ∀ call ∈ calls, call.kind = kind) (hadd : kind ≠ addGeofences)
    (hremove : kind ≠ removeGeofences) (hs : (l.world.step e).sessions = l.world.sessions)
    (hb : ∀ session, (l.step e).bound session ↔ l.bound session) :
    Account ((l.step e).sent addGeofences) ((l.step e).sent removeGeofences)
      (l.step e).world.sessions (l.step e).bound := by
  have hworld : (l.step e).world.sessions = l.world.sessions := hs
  rw [sent_step ho hp, sent_step ho hp, filter_other hkind hadd, filter_other hkind hremove, hworld,
    handed, List.flatMap_nil, List.append_nil, List.append_nil]
  exact h.account.congr hb

theorem account_remove {ids : List Nat} (h : l.Sound) (ho : l.world.outcomes e = [])
    (hstep : l.world.step e = l.world.hand
      (l.world.client.locAPIRemoveGeofences ids l.world.ops).1
      (l.world.client.locAPIRemoveGeofences ids l.world.ops).2) :
    Account ((l.step e).sent addGeofences) ((l.step e).sent removeGeofences)
      (l.step e).world.sessions (l.step e).bound := by
  obtain ⟨hkind, hnodup, hold, hleft⟩ := remove_spec h.good.bijective ids l.world.ops
  have hp : (l.world.step e).pending = l.world.pending ++
      (l.world.client.locAPIRemoveGeofences ids l.world.ops).2.toList := by rw [hstep]; rfl
  have hkinds : ∀ call ∈ (l.world.client.locAPIRemoveGeofences ids l.world.ops).2.toList,
      call.kind = removeGeofences := fun call hcall => hkind call (Option.mem_toList.mp hcall)
  have hworld : (l.step e).world = _ := hstep
  rw [sent_step ho hp, sent_step ho hp, filter_kind hkinds,
    filter_other hkinds (by decide), handed, List.flatMap_nil, List.append_nil, hworld]
  refine h.account.remove hnodup hold fun s => ?_
  rw [bound, hworld]
  exact hleft s

theorem account_add {fences : List (Nat × GeofenceOption)} {sessions : Option (List Nat)}
    (h : l.Sound) (hfresh : FreshSessions l.world (.addGeofences fences sessions)) :
    Account ((l.step (.addGeofences fences sessions)).sent addGeofences)
      ((l.step (.addGeofences fences sessions)).sent removeGeofences)
      (l.step (.addGeofences fences sessions)).world.sessions
      (l.step (.addGeofences fences sessions)).bound := by
  by_cases hrefused : l.world.client.mLocationAPI = false ∨ sessions = none
  · obtain ⟨hdict, hsessions⟩ := @add_refused _ fences _ hrefused
    refine account_same [] pauseGeofences h rfl ?_ (fun _ hc => (by cases hc))
      (by decide) (by decide) hsessions fun s => ?_
    · rw [add_refused_pending hrefused, List.append_nil]
    · rw [bound, step, hdict, bound]
  · rw [not_or, Bool.not_eq_false] at hrefused
    obtain ⟨hapi, hsome⟩ := hrefused
    obtain ⟨sessions, rfl⟩ := Option.ne_none_iff_exists'.mp hsome
    obtain ⟨call, hkind, hcall, hp⟩ := add_pending hapi fences sessions
    obtain ⟨hdict, hgiven⟩ := add_spec hapi fences sessions
    obtain ⟨hsnd, -⟩ := zip_sessions hfresh.1
    rw [hsnd] at hgiven
    have hworld : (l.step (.addGeofences fences (some sessions))).world.sessions =
      sessions ++ l.world.sessions := hgiven
    have hkinds : ∀ x ∈ [call], x.kind = addGeofences := fun x hx => List.mem_singleton.mp hx ▸ hkind
    have hhanded : handed [call] = sessions := by
      rw [handed, List.flatMap_singleton, hcall, hsnd]
    rw [sent_step rfl hp, sent_step rfl hp, filter_kind hkinds, filter_other hkinds (by decide),
      hhanded, handed, List.flatMap_nil, List.append_nil, hworld]
    refine h.account.add hfresh.2.1 (fun s hs => (hfresh.2.2 s hs).2) fun s => ?_
    rw [bound, step, hdict, hasSession_bindFences, hsnd, bound]

theorem sound_step (h : l.Sound) (he : Orderly l e) : (l.step e).Sound := by
  obtain ⟨hfresh, hnew, hall⟩ := he
  refine ⟨good_step h.good hfresh hnew, ?_⟩
  cases e with
  | addGeofences fences sessions => exact account_add h hfresh
  | removeGeofences ids => exact account_remove h rfl rfl
  | removeAllGeofences => exact account_remove h rfl rfl
  | modifyGeofences _ | pauseGeofences _ | resumeGeofences _ _ =>
    obtain ⟨hkind, hsame⟩ := visit_spec h.good.bijective _ _ _ _ l.world.ops
    refine account_same _ _ h rfl rfl (fun call hcall => hkind call (Option.mem_toList.mp hcall))
      (by decide) (by decide) rfl fun s => ?_
    exact iff_of_eq (congrArg (· = true) (hsame s))
  | response errors =>
    have hs : (l.world.step (.response errors)).sessions = l.world.sessions :=
      sessions_step fun hadd => hadd
    have hworld : (l.step (.response errors)).world.sessions = l.world.sessions := hs
    rw [sent_response hall, sent_response hall, hworld]
    refine h.account.congr fun s => ?_
    rw [bound, bound, step]
    simp only [World.step, onCollectiveResponseCb]
    split
    · dsimp only
      split <;> exact Iff.rfl
    · exact Iff.rfl
  | callback =>
    have hp : (l.world.step .callback).pending = l.world.pending := by
      simp only [World.step]
      split <;> rfl
    refine account_same [] pauseGeofences h rfl ?_ (fun _ hc => (by cases hc))
      (by decide) (by decide) (sessions_step fun hadd => hadd) fun s => ?_
    · rw [hp, List.append_nil]
    · rw [bound, bound, step]
      simp only [World.step]
      split <;> exact Iff.rfl

/-! ## Outcomes and bindings -/

/-- A fence has one outcome for its add and one for its removal. -/
theorem Sound.unique (h : l.Sound) (hquiet : l.Quiet) {kind : GeofenceKind} {session : Nat}
    (hkind : kind = addGeofences ∨ kind = removeGeofences) {error error' : LocationError}
    (he : ⟨kind, session, error⟩ ∈ l.outcomes) (he' : ⟨kind, session, error'⟩ ∈ l.outcomes) :
    error = error' := by
  have hnodup : (l.told kind).Nodup := by
    have hsent : (l.sent kind).Nodup := by
      rcases hkind with rfl | rfl
      · exact h.account.addedOnce
      · exact h.account.removedOnce
    rwa [sent, hquiet.1, List.filter_nil, List.flatMap_nil, List.append_nil] at hsent
  have hmem : ∀ x, ⟨kind, session, x⟩ ∈ l.outcomes →
      (⟨kind, session, x⟩ : Outcome) ∈ l.outcomes.filter fun o => o.kind = kind :=
    fun x hx => List.mem_filter.mpr ⟨hx, by simp⟩
  exact congrArg Outcome.error (List.inj_on_of_nodup_map hnodup (hmem _ he) (hmem _ he') rfl)

theorem inStep_iff (h : l.Sound) : l.InStep ↔ (l.Quiet → l.FailuresCovered) := by
  refine forall_congr' fun hquiet => ?_
  have hb : ∀ s, l.bound s ↔ (∃ error, ⟨addGeofences, s, error⟩ ∈ l.outcomes) ∧
      ¬ ∃ error, ⟨removeGeofences, s, error⟩ ∈ l.outcomes := fun s => by
    rw [h.account.bound_iff, mem_sent hquiet, mem_sent hquiet]
  have htold : ∀ s, s ∈ l.told removeGeofences ↔
      ∃ error, ⟨removeGeofences, s, error⟩ ∈ l.outcomes := fun s => by
    rw [← mem_sent hquiet, sent, hquiet.1, List.filter_nil, List.flatMap_nil, List.append_nil]
  constructor
  · intro hstep o ho hfail
    obtain ⟨kind, s, error⟩ := o
    constructor
    · intro hkind
      obtain rfl : kind = addGeofences := hkind
      by_contra hkept
      rw [htold] at hkept
      have hgone := ((hstep s).mp ((hb s).mpr ⟨⟨error, ho⟩, hkept⟩)).1
      exact hfail (h.unique hquiet (.inl rfl) ho hgone)
    · intro hkind hadded
      obtain rfl : kind = removeGeofences := hkind
      have hbound : l.bound s := (hstep s).mpr ⟨hadded, fun hgone =>
        hfail (h.unique hquiet (.inr rfl) ho hgone)⟩
      exact ((hb s).mp hbound).2 ⟨error, ho⟩
  · intro hcovered s
    rw [hb]
    constructor
    · intro hbound
      obtain ⟨⟨error, hadded⟩, hkept⟩ := hbound
      have hsuccess : error = LOCATION_ERROR_SUCCESS := by
        by_contra hfail
        exact hkept ((htold s).mp ((hcovered _ hadded hfail).1 rfl))
      exact ⟨hsuccess ▸ hadded, fun hgone => hkept ⟨_, hgone⟩⟩
    · intro houtcomes
      obtain ⟨hadded, hkept⟩ := houtcomes
      refine ⟨⟨_, hadded⟩, fun hgone => ?_⟩
      obtain ⟨error, hgone⟩ := hgone
      by_cases hsuccess : error = LOCATION_ERROR_SUCCESS
      · exact hkept (hsuccess ▸ hgone)
      · exact (hcovered _ hgone hsuccess).2 rfl hadded

end

end Ledger

/-- **Whenever no request is outstanding, the dictionary binds the fences that the
engine has, exactly if each fence whose add failed has been removed and no removal
of a fence of the engine has failed.** -/
theorem in_step_iff_failures_covered (api : Bool) (es : List Event)
    (horderly : Steps Ledger.step Orderly (.init api) es) :
    (run Ledger.step (.init api) es).InStep ↔
      ((run Ledger.step (.init api) es).Quiet →
        (run Ledger.step (.init api) es).FailuresCovered) :=
  Ledger.inStep_iff
    (inv_run (fun _ _ h ha => Ledger.sound_step h ha) (Ledger.sound_init api) horderly)

theorem in_step_add_partly :
    let es := [.addGeofences [(7, ⟨3, 0, 0⟩), (8, ⟨1, 0, 0⟩)] (some [10, 11]),
      .response [LOCATION_ERROR_SUCCESS, LOCATION_ERROR_INVALID_PARAMETER], .callback,
      .removeGeofences [8], .response [LOCATION_ERROR_ID_UNKNOWN], .callback]
    Steps Ledger.step Orderly (.init true) es ∧
      ((run Ledger.step (.init true) es).InStep ↔
        ((run Ledger.step (.init true) es).Quiet →
          (run Ledger.step (.init true) es).FailuresCovered)) :=
  ⟨by decide, in_step_iff_failures_covered true _ (by decide)⟩

/-- The engine turns a fence down, and its id stays bound. -/
theorem failed_add_stays_bound :
    let es := [.addGeofences [(7, ⟨3, 0, 0⟩)] (some [10]), .response [LOCATION_ERROR_INVALID_PARAMETER],
      .callback]
    Steps Ledger.step Orderly (.init true) es ∧
      (run Ledger.step (.init true) es).Quiet ∧
      (run Ledger.step (.init true) es).world.client.mGeofenceBiDict.hasId 7 = true ∧
      ¬ (run Ledger.step (.init true) es).InStep := by
  refine ⟨by decide, by decide, by decide, fun h => ?_⟩
  exact absurd ((h (by decide) 10).mp (by decide)).1 (by decide)

end DeviceHal.Location.Geofences
