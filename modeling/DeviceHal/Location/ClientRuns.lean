import DeviceHal.Location.ClientBase
import DeviceHal.Lib.Run

/-! # The client and an adapter that answers in order

The adapter is known by what it promises: it gives every start a session that
is not in use, takes the calls in the order they were sent, and answers each
of them, except a stop or an update of a session it does not have. What it
answers is up to it. A run is any interleaving of the client's operations with
the calls the adapter takes. -/
namespace DeviceHal.Location
open DeviceHal.Gnss.LocationTypes LocationError REQUEST_TYPE RequestClass DeviceHal.Lib.Run

/-! ## The adapter -/

namespace CallKind

def starts : CallKind → Bool
  | startTracking | startBatching _ => true
  | _ => false

def stops : CallKind → Bool
  | stopTracking | stopBatching => true
  | _ => false

/-- Stops and updates are about a session the adapter must have. -/
def needsSession : CallKind → Bool
  | stopTracking | updateTrackingOptions | stopBatching | updateBatchingOptions _ => true
  | _ => false

end CallKind

structure Adapter where
  /-- The calls sent and not taken yet. -/
  pending : List Call
  /-- The sessions the adapter has. -/
  live : List Nat
  /-- The sessions it has given out, with the kind of operation that got them. -/
  sessions : List (REQUEST_TYPE × Nat)

namespace Adapter

def send (a : Adapter) (m : Call) : Adapter :=
  { a with
    pending := a.pending ++ [m]
    sessions := if m.kind.starts then (m.origin, m.session) :: a.sessions else a.sessions }

def answers (a : Adapter) (m : Call) : Prop := m.kind.needsSession = true → m.session ∈ a.live

instance (a : Adapter) (m : Call) : Decidable (a.answers m) := by
  unfold answers
  infer_instance

/-- The sessions it has once `m` is answered with `error`. -/
def liveAfter (a : Adapter) (m : Call) (error : LocationError) : List Nat :=
  if error ≠ LOCATION_ERROR_SUCCESS then a.live
  else if m.kind.starts then m.session :: a.live
  else if m.kind.stops then a.live.filter (· ≠ m.session)
  else a.live

/-- A session that is not in use. -/
def Fresh (a : Adapter) (session : Nat) : Prop :=
  session ≠ 0 ∧ ∀ given ∈ a.sessions, given.2 ≠ session

end Adapter

/-! ## Runs -/

inductive Event where
  | startTracking (session : Nat)
  | stopTracking
  | updateTrackingOptions
  | startSession (id : Nat) (sessionMode : SessionMode) (session : Nat)
  | stopSession (id : Nat)
  | updateSessionOptions (id : Nat) (sessionMode : SessionMode) (session : Nat)
  | gnssNiResponse (id : Nat) (response : GnssNiResponse)
  /-- The adapter takes its next call; `error` is its answer, if there is one. -/
  | adapter (error : LocationError)

structure World where
  client : Client
  adapter : Adapter
  /-- The number of operations so far. -/
  ops : Nat

namespace World

def init : World :=
  { client :=
      { mLocationAPI := true
        mRequestQueues := fun _ => ⟨0, []⟩
        mSessionBiDict := .empty
        mTracking := false }
    adapter := ⟨[], [], []⟩
    ops := 0 }

def send (w : World) (c : Client) (calls : List Call) : World :=
  { client := c, adapter := calls.foldl Adapter.send w.adapter, ops := w.ops + 1 }

def step (w : World) : Event → World
  | .startTracking session =>
    let (_, c, calls) := w.client.locAPIStartTracking session w.ops
    w.send c calls
  | .stopTracking =>
    let (c, calls) := w.client.locAPIStopTracking w.ops
    w.send c calls
  | .updateTrackingOptions =>
    let (c, calls) := w.client.locAPIUpdateTrackingOptions w.ops
    w.send c calls
  | .startSession id sessionMode session =>
    let (_, c, calls) := w.client.locAPIStartSession id sessionMode session w.ops
    w.send c calls
  | .stopSession id =>
    let (_, c, calls) := w.client.locAPIStopSession id w.ops
    w.send c calls
  | .updateSessionOptions id sessionMode session =>
    let (_, c, calls) := w.client.locAPIUpdateSessionOptions id sessionMode session w.ops
    w.send c calls
  | .gnssNiResponse id response =>
    let (c, calls) := w.client.locAPIGnssNiResponse id response w.ops
    w.send c calls
  | .adapter error =>
    match w.adapter.pending with
    | [] => w
    | m :: rest =>
      if w.adapter.answers m then
        { w with
          client := w.client.onResponseCb error m.session
          adapter := { w.adapter with pending := rest, live := w.adapter.liveAfter m error } }
      else { w with adapter := { w.adapter with pending := rest } }

end World

/-! ## Requests that are matched -/

/-- A response pops the request that was pushed for it by the operation that
caused it. A switching update pushes one for the response to its start. -/
def Matched (w : World) : Event → Prop
  | .adapter _ => ∀ m ∈ w.adapter.pending.head?, w.adapter.answers m →
    (w.client.getRequestBySession m.session).1 = m.request
  | _ => True

/-- With this answer a start has failed or a stop succeeded. -/
def Call.Ends (m : Call) (error : LocationError) : Prop :=
  m.kind.starts = true ∧ error ≠ LOCATION_ERROR_SUCCESS ∨
    m.kind.stops = true ∧ error = LOCATION_ERROR_SUCCESS

/-- The reasons for which the entry of `id` may leave. -/
def MayLeave (w : World) (id session : Nat) : Event → Prop
  | .adapter error => ∃ m ∈ w.adapter.pending.head?, m.session = session ∧ m.Ends error
  | .updateSessionOptions id' _ _ => id = id'
  | _ => False

def EntriesKept (w : World) (e : Event) : Prop :=
  ∀ id session, w.client.mSessionBiDict.view.Maps id session →
    (w.step e).client.mSessionBiDict.view.Maps id session ∨ MayLeave w id session e

/-! ## What the environment promises, and what it must not do -/

/-- The adapter gives every start a session that is not in use. -/
def FreshSession (w : World) : Event → Prop
  | .startTracking session | .startSession _ _ session | .updateSessionOptions _ _ session =>
    w.adapter.Fresh session
  | _ => True

/-- The update switches the session between tracking and batching. -/
def Switches (entity : SessionEntity) (sessionMode : SessionMode) : Prop :=
  ¬ (sessionMode = SESSION_MODE_ON_FIX ↔ entity.sessionMode = SESSION_MODE_ON_FIX)

/-- No request is left behind in the queue that all sessions share, a response
comes before its queue is emptied for a newer session, and no number is a
session and a network-initiated request at once. -/
def Unambiguous (w : World) : Event → Prop
  | .startTracking session =>
    w.client.mTracking = false → ∀ m ∈ w.adapter.pending, m.session ≠ session
  | .updateSessionOptions id sessionMode _ =>
    ∀ old ∈ w.client.mSessionBiDict.mForwardMap[id]?,
      Switches (w.client.mSessionBiDict.getExtById .zero id) sessionMode →
        ∀ m ∈ w.adapter.pending, m.session = old → m.origin = REQUEST_SESSION → m.request = none
  | .gnssNiResponse id _ =>
    id ≠ (w.client.mRequestQueues REQUEST_TRACKING).getSession ∧
      ∀ m ∈ w.adapter.pending, m.session ≠ id
  | .adapter _ => ∀ m ∈ w.adapter.pending.head?,
    (¬ w.adapter.answers m → m.origin = REQUEST_SESSION → m.request = none) ∧
      (w.adapter.answers m → m.origin ≠ REQUEST_SESSION →
        m.session = (w.client.mRequestQueues m.origin).getSession)
  | .startSession _ _ _ | .stopTracking | .updateTrackingOptions | .stopSession _ => True

/-! ## Runs can be checked -/

instance Matched.decidable (w : World) (e : Event) : Decidable (Matched w e) := by
  cases e <;> unfold Matched <;> infer_instance

instance FreshSession.decidable (w : World) (e : Event) : Decidable (FreshSession w e) := by
  cases e <;> unfold FreshSession <;> try unfold Adapter.Fresh
  all_goals infer_instance

instance Unambiguous.decidable (w : World) (e : Event) : Decidable (Unambiguous w e) := by
  cases e <;> unfold Unambiguous <;> try unfold Switches
  all_goals infer_instance

end DeviceHal.Location
