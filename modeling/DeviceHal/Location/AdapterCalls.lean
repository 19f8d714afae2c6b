import DeviceHal.Location.ClientRuns

/-! # The calls on their way to the adapter

What holds of the calls that were sent and not taken yet, whatever the client
does: a start comes before every other call about its session, and a session
belongs to one kind of operation. A session is gone once the adapter does not
have it and no start of it is on its way; it never comes back. -/
namespace DeviceHal.Location
open DeviceHal.Gnss.LocationTypes LocationError REQUEST_TYPE RequestClass

/-! ## One call -/

/-- A request object that removes an entry is pushed for a call of its kind. -/
def LocationAPIRequest.Fits (request : LocationAPIRequest) (kind : CallKind) : Prop :=
  match request.cls with
  | StartTrackingRequest | StartBatchingRequest => kind.starts = true
  | StopTrackingRequest | StopBatchingRequest => kind.stops = true
  | _ => True

structure Call.WellSent (m : Call) : Prop where
  origin : m.origin ≠ REQUEST_GEOFENCE
  requested : m.origin ≠ REQUEST_SESSION → m.request ≠ none
  ni : m.origin = REQUEST_NIRESPONSE → m.kind.starts = false ∧ m.kind.needsSession = false
  session : m.origin ≠ REQUEST_NIRESPONSE → m.kind.needsSession = !m.kind.starts
  fits : ∀ request ∈ m.request, request.Fits m.kind

/-! ## The calls and sessions of the adapter -/

namespace Adapter

structure Ok (a : Adapter) : Prop where
  wellSent : ∀ m ∈ a.pending, m.WellSent
  startFirst : a.pending.Pairwise fun x y =>
    y.kind.starts = true → x.origin ≠ REQUEST_NIRESPONSE → x.session ≠ y.session
  niFirst : a.pending.Pairwise fun x y => y.origin = REQUEST_NIRESPONSE → x.session ≠ y.session
  startNew : ∀ m ∈ a.pending, m.kind.starts = true → m.session ∉ a.live
  owned : ∀ m ∈ a.pending, m.origin ≠ REQUEST_NIRESPONSE → (m.origin, m.session) ∈ a.sessions
  ownedLive : ∀ session ∈ a.live, ∃ origin, (origin, session) ∈ a.sessions
  owner : ∀ {o o' session}, (o, session) ∈ a.sessions → (o', session) ∈ a.sessions → o = o'
  nonzero : ∀ {o session}, (o, session) ∈ a.sessions → session ≠ 0

/-- The adapter does not have the session and will not get it. -/
def Gone (a : Adapter) (session : Nat) : Prop :=
  session ∉ a.live ∧ ∀ m ∈ a.pending, m.session = session → m.kind.starts = false

/-- The adapter took its next call and answered it. -/
def next (a : Adapter) (m : Call) (rest : List Call) (error : LocationError) : Adapter :=
  { a with pending := rest, live := a.liveAfter m error }

/-- The adapter took its next call and did not answer it. -/
def drop (a : Adapter) (rest : List Call) : Adapter := { a with pending := rest }

variable {a : Adapter} {m : Call} {rest : List Call} {session : Nat}

theorem ok_init : Ok ⟨[], [], []⟩ := by
  constructor <;> simp

@[simp] theorem pending_send (a : Adapter) (m : Call) : (a.send m).pending = a.pending ++ [m] := rfl

@[simp] theorem live_send (a : Adapter) (m : Call) : (a.send m).live = a.live := rfl

theorem sessions_send_of_start (hs : m.kind.starts = true) :
    (a.send m).sessions = (m.origin, m.session) :: a.sessions := by
  simp only [send, hs, if_true]

theorem sessions_send_of_not (hs : m.kind.starts = false) : (a.send m).sessions = a.sessions := by
  simp [send, hs]

theorem pairwise_concat {R : Call → Call → Prop} {l : List Call} (hl : l.Pairwise R)
    (hm : ∀ x ∈ l, R x m) : (l ++ [m]).Pairwise R := by
  rw [List.pairwise_append]
  refine ⟨hl, List.pairwise_singleton _ _, fun x hx y hy => ?_⟩
  rw [List.mem_singleton.mp hy]
  exact hm x hx

theorem Fresh.not_owned (hf : a.Fresh session) (h : a.Ok) {x : Call} (hx : x ∈ a.pending)
    (hni : x.origin ≠ REQUEST_NIRESPONSE) : x.session ≠ session := by
  intro heq
  have hown := h.owned x hx hni
  rw [heq] at hown
  exact hf.2 _ hown rfl

/-- A start, of a session that is not in use. -/
theorem Ok.send_start (h : a.Ok) (hw : m.WellSent) (hs : m.kind.starts = true)
    (hf : a.Fresh m.session) : (a.send m).Ok := by
  have hni : m.origin ≠ REQUEST_NIRESPONSE := fun hni => by simp [(hw.ni hni).1] at hs
  have hnew : m.session ∉ a.live := by
    intro hlive
    obtain ⟨o, ho⟩ := h.ownedLive _ hlive
    exact hf.2 _ ho rfl
  constructor
  · intro x hx
    obtain hx | hx := List.mem_append.mp hx
    · exact h.wellSent x hx
    · exact List.mem_singleton.mp hx ▸ hw
  · exact pairwise_concat h.startFirst fun x hx _ hxni => hf.not_owned h hx hxni
  · exact pairwise_concat h.niFirst fun x _ hmni => absurd hmni hni
  · intro x hx hxs
    obtain hx | hx := List.mem_append.mp hx
    · exact h.startNew x hx hxs
    · exact List.mem_singleton.mp hx ▸ hnew
  · intro x hx hxni
    rw [sessions_send_of_start hs]
    obtain hx | hx := List.mem_append.mp hx
    · exact List.mem_cons_of_mem _ (h.owned x hx hxni)
    · exact List.mem_singleton.mp hx ▸ List.mem_cons_self ..
  · intro s hlive
    rw [sessions_send_of_start hs]
    obtain ⟨o, ho⟩ := h.ownedLive s hlive
    exact ⟨o, List.mem_cons_of_mem _ ho⟩
  · intro o o' s ho ho'
    rw [sessions_send_of_start hs] at ho ho'
    obtain heq | ho := List.mem_cons.mp ho
    · obtain ⟨rfl, rfl⟩ := Prod.mk.inj heq
      obtain heq' | ho' := List.mem_cons.mp ho'
      · exact (Prod.mk.inj heq').1.symm
      · exact absurd rfl (hf.2 _ ho')
    · obtain heq' | ho' := List.mem_cons.mp ho'
      · obtain ⟨rfl, rfl⟩ := Prod.mk.inj heq'
        exact absurd rfl (hf.2 _ ho)
      · exact h.owner ho ho'
  · intro o s ho
    rw [sessions_send_of_start hs] at ho
    obtain heq | ho := List.mem_cons.mp ho
    · rw [(Prod.mk.inj heq).2]
      exact hf.1
    · exact h.nonzero ho

/-- Any other call, of a session that was given out. -/
theorem Ok.send_other (h : a.Ok) (hw : m.WellSent) (hs : m.kind.starts = false)
    (hown : m.origin ≠ REQUEST_NIRESPONSE → (m.origin, m.session) ∈ a.sessions)
    (hni : m.origin = REQUEST_NIRESPONSE → ∀ x ∈ a.pending, x.session ≠ m.session) :
    (a.send m).Ok := by
  constructor
  · intro x hx
    obtain hx | hx := List.mem_append.mp hx
    · exact h.wellSent x hx
    · exact List.mem_singleton.mp hx ▸ hw
  · exact pairwise_concat h.startFirst fun x _ hms => by simp [hs] at hms
  · exact pairwise_concat h.niFirst fun x hx hmni => hni hmni x hx
  · intro x hx hxs
    obtain hx | hx := List.mem_append.mp hx
    · exact h.startNew x hx hxs
    · rw [List.mem_singleton.mp hx, hs] at hxs
      cases hxs
  · intro x hx hxni
    rw [sessions_send_of_not hs]
    obtain hx | hx := List.mem_append.mp hx
    · exact h.owned x hx hxni
    · rw [List.mem_singleton.mp hx] at hxni ⊢
      exact hown hxni
  · rw [sessions_send_of_not hs]
    exact h.ownedLive
  · rw [sessions_send_of_not hs]
    exact h.owner
  · rw [sessions_send_of_not hs]
    exact h.nonzero

/-! ### Taking a call -/

theorem Ok.drop (h : a.Ok) (hp : a.pending = m :: rest) : (a.drop rest).Ok := by
  have hsub : ∀ x ∈ rest, x ∈ a.pending := fun x hx => hp ▸ List.mem_cons_of_mem m hx
  have hfirst := h.startFirst
  have hni := h.niFirst
  rw [hp] at hfirst hni
  exact
    { wellSent := fun x hx => h.wellSent x (hsub x hx)
      startFirst := hfirst.of_cons
      niFirst := hni.of_cons
      startNew := fun x hx => h.startNew x (hsub x hx)
      owned := fun x hx => h.owned x (hsub x hx)
      ownedLive := h.ownedLive
      owner := h.owner
      nonzero := h.nonzero }

theorem mem_liveAfter {error : LocationError} (h : session ∈ a.liveAfter m error) :
    session ∈ a.live ∨ m.kind.starts = true ∧ session = m.session := by
  unfold liveAfter at h
  split at h
  · exact .inl h
  split at h
  · rename_i hs
    obtain h | h := List.mem_cons.mp h
    · exact .inr ⟨hs, h⟩
    · exact .inl h
  split at h
  · exact .inl (List.mem_filter.mp h).1
  · exact .inl h

/-- No start of the session of a call comes behind it. -/
theorem Ok.no_start_behind (h : a.Ok) (hp : a.pending = m :: rest)
    (hni : m.origin ≠ REQUEST_NIRESPONSE) :
    ∀ x ∈ rest, x.session = m.session → x.kind.starts = false := by
  intro x hx hxs
  have hfirst := h.startFirst
  rw [hp, List.pairwise_cons] at hfirst
  by_contra hstart
  exact hfirst.1 x hx (by simpa using hstart) hni hxs.symm

theorem Ok.next (h : a.Ok) (hp : a.pending = m :: rest) (error : LocationError) :
    (a.next m rest error).Ok := by
  have hmem : m ∈ a.pending := hp ▸ List.mem_cons_self ..
  have hdrop := h.drop hp
  refine
    { hdrop with
      startNew := fun x hx hxs hlive => ?_
      ownedLive := fun s hlive => ?_ }
  · obtain hlive | ⟨hs, heq⟩ := mem_liveAfter hlive
    · exact hdrop.startNew x hx hxs hlive
    · have hni : m.origin ≠ REQUEST_NIRESPONSE := fun hni => by
        simp [((h.wellSent m hmem).ni hni).1] at hs
      rw [h.no_start_behind hp hni x hx heq] at hxs
      cases hxs
  · obtain hlive | ⟨hs, heq⟩ := mem_liveAfter hlive
    · exact h.ownedLive s hlive
    · have hni : m.origin ≠ REQUEST_NIRESPONSE := fun hni => by
        simp [((h.wellSent m hmem).ni hni).1] at hs
      exact ⟨m.origin, heq ▸ h.owned m hmem hni⟩

/-! ### Sessions that are gone -/

theorem Gone.send (h : a.Gone session) (hm : m.kind.starts = true → m.session ≠ session) :
    (a.send m).Gone session := by
  refine ⟨h.1, fun x hx hxs => ?_⟩
  obtain hx | hx := List.mem_append.mp hx
  · exact h.2 x hx hxs
  · rw [List.mem_singleton.mp hx] at hxs ⊢
    by_contra hstart
    exact hm (by simpa using hstart) hxs

theorem Gone.send_other (h : a.Gone session) (hs : m.kind.starts = false) :
    (a.send m).Gone session :=
  h.send fun hstart => by simp [hs] at hstart

theorem Gone.drop (h : a.Gone session) (hp : a.pending = m :: rest) : (a.drop rest).Gone session :=
  ⟨h.1, fun x hx => h.2 x (hp ▸ List.mem_cons_of_mem m hx)⟩

theorem Gone.next (h : a.Gone session) (hp : a.pending = m :: rest) (error : LocationError) :
    (a.next m rest error).Gone session := by
  refine ⟨fun hlive => ?_, (h.drop hp).2⟩
  obtain hlive | ⟨hs, heq⟩ := mem_liveAfter hlive
  · exact h.1 hlive
  · rw [h.2 m (hp ▸ List.mem_cons_self ..) heq.symm] at hs
    cases hs

/-- The session of a call that gets an answer is not gone. -/
theorem Ok.not_gone (h : a.Ok) (hp : a.pending = m :: rest) (ha : a.answers m)
    (hni : m.origin ≠ REQUEST_NIRESPONSE) : ¬ a.Gone m.session := by
  intro hgone
  have hmem : m ∈ a.pending := hp ▸ List.mem_cons_self ..
  have hneeds := (h.wellSent m hmem).session hni
  rw [hgone.2 m hmem rfl] at hneeds
  exact hgone.1 (ha hneeds)

/-- The session of a call that gets no answer is gone. -/
theorem Ok.gone_of_not_answers (h : a.Ok) (hp : a.pending = m :: rest) (ha : ¬ a.answers m) :
    (a.drop rest).Gone m.session := by
  have hmem : m ∈ a.pending := hp ▸ List.mem_cons_self ..
  have hw := h.wellSent m hmem
  simp only [answers, Classical.not_imp] at ha
  have hni : m.origin ≠ REQUEST_NIRESPONSE := fun hni => by simp [(hw.ni hni).2] at ha
  exact ⟨ha.2, h.no_start_behind hp hni⟩

/-- So is the session of a start that failed or of a stop that succeeded. -/
theorem Ok.gone_of_removed (h : a.Ok) (hp : a.pending = m :: rest) {error : LocationError}
    (hni : m.origin ≠ REQUEST_NIRESPONSE) (hm : m.Ends error) :
    (a.next m rest error).Gone m.session := by
  have hmem : m ∈ a.pending := hp ▸ List.mem_cons_self ..
  refine ⟨fun hlive => ?_, h.no_start_behind hp hni⟩
  simp only [Adapter.next, Adapter.liveAfter] at hlive
  obtain ⟨hs, herr⟩ | ⟨hs, herr⟩ := hm
  · rw [if_pos herr] at hlive
    exact h.startNew m hmem hs hlive
  · have hstart : m.kind.starts = false := by
      cases hk : m.kind <;> simp_all [CallKind.starts, CallKind.stops]
    simp [herr, hs, hstart] at hlive

end Adapter

end DeviceHal.Location
