import DeviceHal.Location.ClientBase
import DeviceHal.Lib.Run
import Mathlib.Tactic

/-! # The tracking flag

`mTracking` is set when a start is sent and cleared when a stop is sent. What
the adapter answers comes later, in any order, and does not touch it. -/
namespace DeviceHal.Location.TrackingFlag
open DeviceHal.Lib.Run DeviceHal.Gnss.LocationTypes
open LocationError CallKind

/-! ## Runs -/

/-- A call with the number of the start whose session it is about. -/
structure TrackingCall where
  call : Call
  start : Nat
deriving DecidableEq

def TrackingCall.starts (m : TrackingCall) : Prop := m.call.kind = startTracking

def TrackingCall.stops (m : TrackingCall) : Prop := m.call.kind = stopTracking

instance (m : TrackingCall) : Decidable m.starts := inferInstanceAs (Decidable (_ = _))

instance (m : TrackingCall) : Decidable m.stops := inferInstanceAs (Decidable (_ = _))

structure World where
  client : Client
  /-- The calls that are not answered yet. -/
  pending : List TrackingCall
  answered : List (TrackingCall × LocationError)
  /-- The call that was sent last. -/
  last : Option TrackingCall
  ops : Nat

inductive Event where
  | startTracking (session : Nat)
  | stopTracking
  /-- The adapter answers one of its calls, not necessarily the oldest. -/
  | response (i : Nat) (error : LocationError)
deriving DecidableEq

namespace World

def init : World :=
  { client :=
      { mLocationAPI := true
        mRequestQueues := fun _ => ⟨0, []⟩
        mSessionBiDict := .empty
        mTracking := false }
    pending := []
    answered := []
    last := none
    ops := 0 }

def send (w : World) (c : Client) (calls : List TrackingCall) : World :=
  { w with
    client := c
    pending := w.pending ++ calls
    last := calls.getLast?.or w.last
    ops := w.ops + 1 }

/-- A stop is for the session of the last start. -/
def current (w : World) : Nat := (w.last.map (·.start)).getD 0

def step (w : World) : Event → World
  | .startTracking session =>
    let (_, c, calls) := w.client.locAPIStartTracking session w.ops
    w.send c (calls.map (⟨·, w.ops⟩))
  | .stopTracking =>
    let (c, calls) := w.client.locAPIStopTracking w.ops
    w.send c (calls.map (⟨·, w.current⟩))
  | .response i error =>
    match w.pending[i]? with
    | none => w
    | some m =>
      { w with
        client := w.client.onResponseCb error m.call.session
        pending := w.pending.eraseIdx i
        answered := w.answered ++ [(m, error)] }

/-- No request is outstanding. -/
def Quiet (w : World) : Prop := w.pending = []

/-- The start succeeded, and no stop for its session has. -/
def Runs (w : World) (start : Nat) : Prop :=
  (∃ m : TrackingCall, m.starts ∧ m.start = start ∧ (m, LOCATION_ERROR_SUCCESS) ∈ w.answered) ∧
  ∀ m : TrackingCall, m.stops → m.start = start → (m, LOCATION_ERROR_SUCCESS) ∉ w.answered

/-- `locAPIStartTracking` would send a start. -/
def SendsStart (w : World) : Prop :=
  ∀ session, ∃ call ∈ (w.client.locAPIStartTracking session w.ops).2.2,
    call.kind = startTracking ∧ call.session = session

/-- With nothing outstanding, a start is sent unless a session runs. -/
def CanStart (w : World) : Prop := w.Quiet → (¬ ∃ start, w.Runs start) → w.SendsStart

/-- With nothing outstanding, a start is sent if no session runs, and only then. -/
def FlagFits (w : World) : Prop := w.Quiet → (w.SendsStart ↔ ¬ ∃ start, w.Runs start)

/-- If a start was sent last, it went well, or an earlier session still runs. -/
def StartsWell (w : World) : Prop :=
  ∀ m ∈ w.last, m.starts → (m, LOCATION_ERROR_SUCCESS) ∈ w.answered ∨
    ∃ start, start ≠ m.start ∧ w.Runs start

/-- If a stop was sent last, or nothing, every session was stopped. -/
def StopsWell (w : World) : Prop := (∀ m ∈ w.last, ¬ m.starts) → ∀ start, ¬ w.Runs start

end World

/-! ## The flag and the calls -/

namespace World

/-- The call was sent. -/
def Sent (w : World) (m : TrackingCall) : Prop := m ∈ w.pending ∨ ∃ error, (m, error) ∈ w.answered

/-- The flag tells whether a start was sent last, of which there is no stop yet. -/
structure Good (w : World) : Prop where
  api : w.client.mLocationAPI = true
  flag : w.client.mTracking = true ↔ ∃ m ∈ w.last, m.starts
  numbers : ∀ m, w.Sent m → m.start < w.ops
  lastSent : ∀ m ∈ w.last, w.Sent m
  unique : ∀ m ∈ w.last, m.starts → ∀ other, w.Sent other → other.start = m.start → other = m

theorem good_init : Good init where
  api := rfl
  flag := by simp [init]
  numbers := fun m h => by simp [Sent, init] at h
  lastSent := fun _ h => by cases h
  unique := fun _ h => by cases h

section
variable {w : World}

theorem sendsStart_iff (hapi : w.client.mLocationAPI = true) :
    w.SendsStart ↔ w.client.mTracking = false := by
  simp only [SendsStart, Client.locAPIStartTracking, if_pos hapi]
  cases w.client.mTracking <;> simp

theorem sent_send {c : Client} {calls : List TrackingCall} {m : TrackingCall} :
    (w.send c calls).Sent m ↔ w.Sent m ∨ m ∈ calls := by
  simp only [Sent, send, List.mem_append]
  exact or_right_comm

/-- An operation that sends nothing. -/
theorem good_silent (h : w.Good) : (w.send w.client []).Good where
  api := h.api
  flag := h.flag
  numbers := fun m hm => by
    rw [sent_send] at hm
    exact Nat.lt_succ_of_lt (h.numbers m (hm.resolve_right List.not_mem_nil))
  lastSent := fun m hm => sent_send.mpr (.inl (h.lastSent m hm))
  unique := fun m hm hs other hother => by
    rw [sent_send] at hother
    exact h.unique m hm hs other (hother.resolve_right List.not_mem_nil)

theorem good_start (h : w.Good) (session : Nat) : (w.step (.startTracking session)).Good := by
  cases hflag : w.client.mTracking with
  | true =>
    simp only [step, Client.locAPIStartTracking, if_pos h.api, if_pos hflag]
    exact good_silent h
  | false =>
    simp only [step, Client.locAPIStartTracking, if_pos h.api, hflag, Bool.false_eq_true, if_false,
      List.map_cons, List.map_nil]
    refine ⟨h.api, ?_, fun m hm => ?_, fun m hm => ?_, fun m hm _ other hother heq => ?_⟩
    · exact iff_of_true rfl ⟨_, rfl, rfl⟩
    · rw [sent_send, List.mem_singleton] at hm
      rcases hm with hm | rfl
      · exact Nat.lt_succ_of_lt (h.numbers m hm)
      · exact Nat.lt_succ_self _
    · obtain rfl := Option.some.inj hm
      exact sent_send.mpr (.inr List.mem_cons_self)
    · obtain rfl := Option.some.inj hm
      rw [sent_send, List.mem_singleton] at hother
      refine hother.resolve_left fun hold => ?_
      exact absurd (h.numbers other hold) (by rw [heq]; exact Nat.lt_irrefl _)

theorem good_stop (h : w.Good) : (w.step .stopTracking).Good := by
  simp only [step, Client.locAPIStopTracking]
  split
  · have hcurrent : w.current < w.ops + 1 := by
      rw [current]
      cases hlast : w.last with
      | none => exact Nat.succ_pos _
      | some m => exact Nat.lt_succ_of_lt (h.numbers m (h.lastSent m hlast))
    refine ⟨h.api, ?_, fun m hm => ?_, fun m hm => ?_, fun m hm hs => ?_⟩
    · refine iff_of_false Bool.false_ne_true fun hex => ?_
      obtain ⟨m, hm, hs⟩ := hex
      obtain rfl := Option.some.inj hm
      cases hs
    · rw [sent_send, List.map_cons, List.map_nil, List.mem_singleton] at hm
      rcases hm with hm | rfl
      · exact Nat.lt_succ_of_lt (h.numbers m hm)
      · exact hcurrent
    · obtain rfl := Option.some.inj hm
      exact sent_send.mpr (.inr List.mem_cons_self)
    · obtain rfl := Option.some.inj hm
      cases hs
  · exact good_silent h

/-- A response looks for its request and leaves the flag as it is. -/
theorem onResponseCb_flags (c : Client) (error : LocationError) (id : Nat) :
    (c.onResponseCb error id).mLocationAPI = c.mLocationAPI ∧
      (c.onResponseCb error id).mTracking = c.mTracking := by
  have hremove : ∀ c : Client, (c.removeSession id).mLocationAPI = c.mLocationAPI ∧
      (c.removeSession id).mTracking = c.mTracking := by
    intro c
    unfold Client.removeSession
    split <;> exact ⟨rfl, rfl⟩
  have hif : ∀ (c : Client) (p : Prop) [Decidable p],
      (if p then c.removeSession id else c).mLocationAPI = c.mLocationAPI ∧
        (if p then c.removeSession id else c).mTracking = c.mTracking := by
    intro c p hp
    split
    · exact hremove c
    · exact ⟨rfl, rfl⟩
  have hrequest : ∀ (request : LocationAPIRequest) (c : Client),
      (request.onResponse c error id).mLocationAPI = c.mLocationAPI ∧
        (request.onResponse c error id).mTracking = c.mTracking := by
    intro request c
    unfold LocationAPIRequest.onResponse
    split
    all_goals first
      | exact hif c _
      | exact ⟨rfl, rfl⟩
  have hget : (c.getRequestBySession id).2.mLocationAPI = c.mLocationAPI ∧
      (c.getRequestBySession id).2.mTracking = c.mTracking := by
    unfold Client.getRequestBySession
    cases c.queueOfSession id with
    | none =>
      dsimp only
      split <;> exact ⟨rfl, rfl⟩
    | some i =>
      dsimp only [Client.popQueue]
      cases (c.mRequestQueues i).pop.1 with
      | some request => exact ⟨rfl, rfl⟩
      | none =>
        dsimp only
        split <;> exact ⟨rfl, rfl⟩
  unfold Client.onResponseCb
  split
  · rename_i request c' hfound
    rw [hfound] at hget
    exact ⟨(hrequest request c').1.trans hget.1, (hrequest request c').2.trans hget.2⟩
  · rename_i c' hfound
    rw [hfound] at hget
    exact hget

theorem sent_response {i : Nat} {error : LocationError} {m : TrackingCall} :
    (w.step (.response i error)).Sent m ↔ w.Sent m := by
  simp only [step]
  split
  · exact Iff.rfl
  · rename_i answered hi
    simp only [Sent, List.mem_eraseIdx_iff_getElem?, List.mem_append, List.mem_singleton,
      Prod.mk.injEq, exists_or]
    constructor
    · intro hsent
      obtain ⟨j, -, hj⟩ | hold | ⟨_, rfl, -⟩ := hsent
      · exact .inl (List.mem_of_getElem? hj)
      · exact .inr hold
      · exact .inl (List.mem_of_getElem? hi)
    · intro hsent
      rcases hsent with hmem | hold
      · obtain ⟨j, hj⟩ := List.getElem?_of_mem hmem
        by_cases hji : j = i
        · rw [hji, hi, Option.some.injEq] at hj
          exact .inr (.inr ⟨error, hj.symm, rfl⟩)
        · exact .inl ⟨j, hji, hj⟩
      · exact .inr (.inl hold)

theorem good_response (h : w.Good) (i : Nat) (error : LocationError) :
    (w.step (.response i error)).Good := by
  have hclient : (w.step (.response i error)).client.mLocationAPI = w.client.mLocationAPI ∧
      (w.step (.response i error)).client.mTracking = w.client.mTracking := by
    simp only [step]
    split
    · exact ⟨rfl, rfl⟩
    · exact onResponseCb_flags _ _ _
  have hlast : (w.step (.response i error)).last = w.last ∧
      (w.step (.response i error)).ops = w.ops := by
    simp only [step]
    split <;> exact ⟨rfl, rfl⟩
  refine ⟨hclient.1.trans h.api, ?_, fun m hm => ?_, fun m hm => ?_, fun m hm hs other hother => ?_⟩
  · rw [hclient.2, hlast.1]
    exact h.flag
  · rw [hlast.2]
    exact h.numbers m (sent_response.mp hm)
  · rw [hlast.1] at hm
    exact sent_response.mpr (h.lastSent m hm)
  · rw [hlast.1] at hm
    exact h.unique m hm hs other (sent_response.mp hother)

theorem good_step (h : w.Good) (e : Event) : (w.step e).Good := by
  cases e with
  | startTracking session => exact good_start h session
  | stopTracking => exact good_stop h
  | response i error => exact good_response h i error

/-! ## The flag and the sessions -/

/-- The session of a start that was sent last runs exactly if the start went well. -/
theorem runs_last_iff (h : w.Good) {m : TrackingCall} (hm : m ∈ w.last) (hs : m.starts) :
    w.Runs m.start ↔ (m, LOCATION_ERROR_SUCCESS) ∈ w.answered := by
  have honly : ∀ other : TrackingCall, (other, LOCATION_ERROR_SUCCESS) ∈ w.answered →
      other.start = m.start → other = m :=
    fun other hother => h.unique m hm hs other (.inr ⟨_, hother⟩)
  constructor
  · intro hruns
    obtain ⟨⟨other, -, heq, hok⟩, -⟩ := hruns
    rwa [honly other hok heq] at hok
  · intro hok
    refine ⟨⟨m, hs, rfl, hok⟩, fun other hstop heq hother => ?_⟩
    obtain rfl := honly other hother heq
    exact absurd (hs.symm.trans hstop) (by decide)

theorem exists_runs_iff (h : w.Good) {m : TrackingCall} (hm : m ∈ w.last) (hs : m.starts) :
    (∃ start, w.Runs start) ↔ (m, LOCATION_ERROR_SUCCESS) ∈ w.answered ∨
      ∃ start, start ≠ m.start ∧ w.Runs start := by
  rw [← runs_last_iff h hm hs]
  constructor
  · intro hex
    obtain ⟨start, hruns⟩ := hex
    by_cases heq : start = m.start
    · exact .inl (heq ▸ hruns)
    · exact .inr ⟨start, heq, hruns⟩
  · intro hor
    rcases hor with hruns | ⟨start, -, hruns⟩
    · exact ⟨_, hruns⟩
    · exact ⟨_, hruns⟩

theorem canStart_iff (h : w.Good) : w.CanStart ↔ (w.Quiet → w.StartsWell) := by
  refine forall_congr' fun _ => ?_
  rw [sendsStart_iff h.api, ← Bool.not_eq_true, h.flag, not_imp_not]
  constructor
  · intro hruns m hm hs
    exact (exists_runs_iff h hm hs).mp (hruns ⟨m, hm, hs⟩)
  · intro hwell hlast
    obtain ⟨m, hm, hs⟩ := hlast
    exact (exists_runs_iff h hm hs).mpr (hwell m hm hs)

theorem flagFits_iff (h : w.Good) : w.FlagFits ↔ (w.Quiet → w.StartsWell ∧ w.StopsWell) := by
  have hcan := canStart_iff h
  refine forall_congr' fun hquiet => ?_
  rw [CanStart, forall_prop_of_true hquiet, forall_prop_of_true hquiet] at hcan
  refine (iff_def.trans and_comm).trans (and_congr hcan ?_)
  rw [sendsStart_iff h.api, ← Bool.not_eq_true, h.flag]
  simp only [StopsWell, not_exists, not_and]

end

end World

/-- **With nothing outstanding, a start is sent if no session runs, exactly if the
last call sent is not a start that failed while no earlier session runs. It is sent
only then, exactly if besides nothing runs after a stop.** -/
theorem sends_start_iff (es : List Event) :
    ((run World.step .init es).CanStart ↔
      ((run World.step .init es).Quiet → (run World.step .init es).StartsWell)) ∧
    ((run World.step .init es).FlagFits ↔
      ((run World.step .init es).Quiet →
        (run World.step .init es).StartsWell ∧ (run World.step .init es).StopsWell)) :=
  have hgood : (run World.step .init es).Good :=
    inv_run_any (I := World.Good) (fun _ e h => World.good_step h e) es World.good_init
  ⟨World.canStart_iff hgood, World.flagFits_iff hgood⟩

/-- A start that failed cannot be tried again. -/
theorem failed_start_blocks :
    let w := run World.step .init [.startTracking 1, .response 0 LOCATION_ERROR_GENERAL_FAILURE]
    w.answered = [(⟨⟨startTracking, 1, .REQUEST_TRACKING, some ⟨.StartTrackingRequest, 0⟩⟩, 0⟩,
      LOCATION_ERROR_GENERAL_FAILURE)] ∧
      (w.client.locAPIStartTracking 2 w.ops).2.2 = [] ∧ ¬ w.CanStart ∧ ¬ w.FlagFits := by
  intro w
  have hanswered : w.answered = [(⟨⟨startTracking, 1, .REQUEST_TRACKING,
      some ⟨.StartTrackingRequest, 0⟩⟩, 0⟩, LOCATION_ERROR_GENERAL_FAILURE)] := by decide
  have hcalls : ¬ w.SendsStart := by
    intro hsends
    obtain ⟨call, hcall, -⟩ := hsends 2
    cases hcall
  have hnone : ¬ ∃ start, w.Runs start := by
    intro hex
    obtain ⟨start, ⟨m, -, -, hok⟩, -⟩ := hex
    rw [hanswered, List.mem_singleton, Prod.mk.injEq] at hok
    cases hok.2
  exact ⟨hanswered, rfl, fun h => hcalls (h rfl hnone), fun h => hcalls ((h rfl).mpr hnone)⟩

end DeviceHal.Location.TrackingFlag
