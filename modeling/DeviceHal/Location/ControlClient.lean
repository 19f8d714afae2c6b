import DeviceHal.Lib.Run
import DeviceHal.Gnss.LocationTypes
import DeviceHal.Location.RequestQueue
import Mathlib.Tactic

/-! # LocationAPIControlClient

Deleting aiding data and enabling start a session and empty the queue of their
kind for it; disabling goes on with the session of the enable. A response is
matched by its session, so one that arrives after the queue was emptied for the
next session finds no request. -/
namespace DeviceHal.Location.ControlClient
open DeviceHal.Lib.Run DeviceHal.Gnss.LocationTypes DeviceHal.Location.Requests
open LocationError

/-! ## The client -/

inductive CTRL_REQUEST_TYPE where
  | CTRL_REQUEST_DELETEAIDINGDATA
  | CTRL_REQUEST_CONTROL
  | CTRL_REQUEST_CONFIG
deriving DecidableEq
open CTRL_REQUEST_TYPE

inductive RequestClass where
  | GnssDeleteAidingDataRequest
  | EnableRequest
  | DisableRequest
deriving DecidableEq
open DeviceHal.Location.ControlClient.RequestClass

/-- The queue that requests of the class go to. -/
def RequestClass.queue : RequestClass → CTRL_REQUEST_TYPE
  | GnssDeleteAidingDataRequest => CTRL_REQUEST_DELETEAIDINGDATA
  | EnableRequest | DisableRequest => CTRL_REQUEST_CONTROL

structure ControlRequest where
  cls : RequestClass
  /-- The call that pushed it. -/
  op : Nat
deriving DecidableEq

abbrev ControlQueue := Requests.RequestQueue ControlRequest

/-- A request as it is handed to the adapter. -/
structure ControlCall where
  request : ControlRequest
  session : Nat
deriving DecidableEq

structure LocationAPIControlClient where
  /-- `mLocationControlAPI` is not null. -/
  mLocationControlAPI : Bool
  mRequestQueues : CTRL_REQUEST_TYPE → ControlQueue
  mEnabled : Bool

namespace LocationAPIControlClient

def onQueue (c : LocationAPIControlClient) (i : CTRL_REQUEST_TYPE)
    (f : ControlQueue → ControlQueue) : LocationAPIControlClient :=
  { c with mRequestQueues := Function.update c.mRequestQueues i (f (c.mRequestQueues i)) }

@[simp] theorem onQueue_self (c : LocationAPIControlClient) (i : CTRL_REQUEST_TYPE)
    (f : ControlQueue → ControlQueue) :
    (c.onQueue i f).mRequestQueues i = f (c.mRequestQueues i) := Function.update_self ..

theorem onQueue_of_ne (c : LocationAPIControlClient) {i j : CTRL_REQUEST_TYPE} (h : j ≠ i)
    (f : ControlQueue → ControlQueue) :
    (c.onQueue i f).mRequestQueues j = c.mRequestQueues j := Function.update_of_ne h ..

/-- The return value, the client, and the call that is handed to the adapter. -/
abbrev Result := LocationError × LocationAPIControlClient × Option ControlCall

/-- `session` is what the adapter returns, `op` the number of the call. -/
def locAPIGnssDeleteAidingData (c : LocationAPIControlClient) (session op : Nat) : Result :=
  if c.mLocationControlAPI then
    let request := ⟨GnssDeleteAidingDataRequest, op⟩
    let c := c.onQueue CTRL_REQUEST_DELETEAIDINGDATA (·.reset session)
    let c := c.onQueue CTRL_REQUEST_DELETEAIDINGDATA (·.push request)
    (LOCATION_ERROR_SUCCESS, c, some ⟨request, session⟩)
  else (LOCATION_ERROR_GENERAL_FAILURE, c, none)

def locAPIEnable (c : LocationAPIControlClient) (session op : Nat) : Result :=
  if c.mEnabled then (LOCATION_ERROR_SUCCESS, c, none)
  else if c.mLocationControlAPI then
    let request := ⟨EnableRequest, op⟩
    let c := c.onQueue CTRL_REQUEST_CONTROL (·.reset session)
    let c := c.onQueue CTRL_REQUEST_CONTROL (·.push request)
    (LOCATION_ERROR_SUCCESS, { c with mEnabled := true }, some ⟨request, session⟩)
  else (LOCATION_ERROR_GENERAL_FAILURE, c, none)

def locAPIDisable (c : LocationAPIControlClient) (op : Nat) :
    LocationAPIControlClient × Option ControlCall :=
  if c.mEnabled && c.mLocationControlAPI then
    let session := (c.mRequestQueues CTRL_REQUEST_CONTROL).getSession
    if session > 0 then
      let request := ⟨DisableRequest, op⟩
      let c := c.onQueue CTRL_REQUEST_CONTROL (·.push request)
      ({ c with mEnabled := false }, some ⟨request, session⟩)
    else (c, none)
  else (c, none)

/-- The first queue with the session; the configuration's queue is left out. -/
def getRequestBySession (c : LocationAPIControlClient) (session : Nat) :
    Option ControlRequest × LocationAPIControlClient :=
  let found := [CTRL_REQUEST_DELETEAIDINGDATA, CTRL_REQUEST_CONTROL, CTRL_REQUEST_CONFIG].find?
    fun i => i ≠ CTRL_REQUEST_CONFIG ∧ (c.mRequestQueues i).getSession = session
  match found with
  | some i => ((c.mRequestQueues i).pop.1, c.onQueue i (·.pop.2))
  | none => (none, c)

end LocationAPIControlClient

/-! ## Runs -/

/-- A callback, by the class and the number of the request that it is for. -/
structure Callback where
  request : ControlRequest
  error : LocationError
deriving DecidableEq

structure World where
  client : LocationAPIControlClient
  /-- The calls handed to the adapter and not answered yet, oldest first. -/
  pending : List ControlCall
  /-- The sessions the adapter has given out. -/
  sessions : List (CTRL_REQUEST_TYPE × Nat)
  ops : Nat
  callbacks : List Callback
  /-- The calls that have been answered, with their errors. -/
  answered : List Callback

inductive Event where
  | deleteAidingData (session : Nat)
  | enable (session : Nat)
  | disable
  /-- The adapter answers its oldest call. -/
  | response (error : LocationError)
deriving DecidableEq

namespace World

/-- A client whose API could be created, or not. -/
def init (api : Bool) : World := ⟨⟨api, fun _ => ⟨0, []⟩, false⟩, [], [], 0, [], []⟩

/-- A call of the client with what it hands to the adapter. -/
def hand (w : World) (c : LocationAPIControlClient) (call : Option ControlCall) : World :=
  { w with
    client := c
    pending := w.pending ++ call.toList
    ops := w.ops + 1 }

/-- The session went to a call of the type. -/
def give (w : World) (i : CTRL_REQUEST_TYPE) (session : Nat) (call : Option ControlCall) : World :=
  if call.isSome then { w with sessions := (i, session) :: w.sessions } else w

/-- `onCtrlResponseCb`, which calls the callback of the request that it finds. -/
def onCtrlResponseCb (w : World) (error : LocationError) (id : Nat) : World :=
  let (request, c) := w.client.getRequestBySession id
  { w with
    client := c
    callbacks := w.callbacks ++ (request.map fun r => (⟨r, error⟩ : Callback)).toList }

/-- The oldest call is answered. -/
def answer (w : World) (rest : List ControlCall) (callback : Callback) : World :=
  { w with pending := rest, answered := w.answered ++ [callback] }

def step (w : World) : Event → World
  | .deleteAidingData session =>
    let (_, c, call) := w.client.locAPIGnssDeleteAidingData session w.ops
    (w.hand c call).give CTRL_REQUEST_DELETEAIDINGDATA session call
  | .enable session =>
    let (_, c, call) := w.client.locAPIEnable session w.ops
    (w.hand c call).give CTRL_REQUEST_CONTROL session call
  | .disable =>
    let (c, call) := w.client.locAPIDisable w.ops
    w.hand c call
  | .response error =>
    match w.pending with
    | [] => w
    | call :: rest =>
      (w.answer rest ⟨call.request, error⟩).onCtrlResponseCb error call.session

end World

/-- The adapter gives a session that it has not given before. -/
def FreshSession (w : World) : Event → Prop
  | .deleteAidingData session | .enable session =>
    session ≠ 0 ∧ ∀ given ∈ w.sessions, given.2 ≠ session
  | _ => True

instance FreshSession.decidable (w : World) (e : Event) : Decidable (FreshSession w e) := by
  cases e <;> unfold FreshSession <;> infer_instance

/-- The calls answered so far got their callbacks, each its own and in order. -/
def Delivered (w : World) : Prop := w.callbacks = w.answered

/-- The later call empties the queue that the earlier one's request waits in. -/
def ControlCall.resets (later earlier : ControlCall) : Prop :=
  later.request.cls ≠ DisableRequest ∧ later.request.cls.queue = earlier.request.cls.queue

instance (later earlier : ControlCall) : Decidable (later.resets earlier) :=
  inferInstanceAs (Decidable (_ ∧ _))

/-- A call that is answered has not been followed by one that empties its queue. -/
def InTime (w : World) : Event → Prop
  | .response _ => ∀ call ∈ w.pending.head?, ∀ later ∈ w.pending.tail, ¬ later.resets call
  | _ => True

instance InTime.decidable (w : World) (e : Event) : Decidable (InTime w e) := by
  cases e <;> unfold InTime <;> infer_instance

/-! ## Queues and calls -/

def ControlCall.queue (call : ControlCall) : CTRL_REQUEST_TYPE := call.request.cls.queue

/-- The requests of the calls of one session, call by call. -/
def waiting (i : CTRL_REQUEST_TYPE) (session : Nat) (calls : List ControlCall) :
    List ControlRequest :=
  (calls.filter fun call => call.queue = i ∧ call.session = session).map (·.request)

section
variable {i : CTRL_REQUEST_TYPE} {session : Nat} {call : ControlCall} {calls : List ControlCall}

theorem waiting_cons : waiting i session (call :: calls) =
    (if call.queue = i ∧ call.session = session then [call.request] else []) ++
      waiting i session calls := by
  unfold waiting
  by_cases h : call.queue = i ∧ call.session = session <;> simp [h]

theorem waiting_concat : waiting i session (calls ++ [call]) = waiting i session calls ++
    if call.queue = i ∧ call.session = session then [call.request] else [] := by
  unfold waiting
  by_cases h : call.queue = i ∧ call.session = session <;> simp [h]

theorem waiting_eq_nil (h : ∀ call ∈ calls, call.session ≠ session) :
    waiting i session calls = [] := by
  rw [waiting, List.filter_eq_nil_iff.mpr, List.map_nil]
  intro call hcall
  simp [h call hcall]

end

/-- A queue holds the requests of its session's unanswered calls, and its
session is that of the last call that emptied it. -/
structure Good (w : World) : Prop where
  queues : ∀ i, (w.client.mRequestQueues i).mQueue =
    waiting i (w.client.mRequestQueues i).mSession w.pending
  given : ∀ call ∈ w.pending, (call.queue, call.session) ∈ w.sessions
  current : ∀ i, (w.client.mRequestQueues i).mSession = 0 ∨
    (i, (w.client.mRequestQueues i).mSession) ∈ w.sessions
  nonzero : ∀ given ∈ w.sessions, given.2 ≠ 0
  owner : ∀ i j session, (i, session) ∈ w.sessions → (j, session) ∈ w.sessions → i = j
  order : ∀ before call after, w.pending = before ++ call :: after →
    (call.session = (w.client.mRequestQueues call.queue).mSession ↔
      ∀ later ∈ after, ¬ later.resets call)

theorem good_init (api : Bool) : Good (.init api) where
  queues := fun _ => rfl
  given := fun _ h => by cases h
  current := fun _ => .inl rfl
  nonzero := fun _ h => by cases h
  owner := fun _ _ _ h => by cases h
  order := fun before call after h => by simp [World.init] at h

section
variable {w : World}

/-- The order of the calls when one more is sent, which changes the sessions of
the queues it empties only. -/
theorem order_concat (h : Good w) {last : ControlCall}
    {queues : CTRL_REQUEST_TYPE → ControlQueue}
    (hlast : last.session = (queues last.queue).mSession)
    (hkept : ∀ call ∈ w.pending, ¬ last.resets call →
      (queues call.queue).mSession = (w.client.mRequestQueues call.queue).mSession)
    (hnew : ∀ call ∈ w.pending, last.resets call → call.session ≠ (queues call.queue).mSession)
    (before : List ControlCall) (call : ControlCall) (after : List ControlCall)
    (hsplit : w.pending ++ [last] = before ++ call :: after) :
    call.session = (queues call.queue).mSession ↔ ∀ later ∈ after, ¬ later.resets call := by
  rcases split_concat hsplit with ⟨rfl, rfl⟩ | ⟨after', rfl, hpending⟩
  · exact iff_of_true hlast fun _ h => by cases h
  · have hmem : call ∈ w.pending := by
      rw [hpending]
      exact List.mem_append_right _ List.mem_cons_self
    have hold := h.order before call after' hpending
    by_cases hresets : last.resets call
    · refine iff_of_false (hnew call hmem hresets) fun hall => ?_
      exact hall last (List.mem_append_right _ (List.mem_singleton_self _)) hresets
    · rw [hkept call hmem hresets, hold]
      simp only [List.mem_append, List.mem_singleton]
      constructor
      · intro hall later hlater
        rcases hlater with hlater | rfl
        · exact hall later hlater
        · exact hresets
      · intro hall later hlater
        exact hall later (.inl hlater)

/-- A queue is emptied for a new session, and the session's first call is sent. -/
theorem good_reset (h : Good w) {c : LocationAPIControlClient} {request : ControlRequest}
    {session : Nat} (hreset : request.cls ≠ DisableRequest)
    (hq : c.mRequestQueues = Function.update w.client.mRequestQueues request.cls.queue
      ⟨session, [request]⟩)
    (hfresh : session ≠ 0 ∧ ∀ given ∈ w.sessions, given.2 ≠ session) :
    Good ((w.hand c (some ⟨request, session⟩)).give request.cls.queue session
      (some ⟨request, session⟩)) := by
  obtain ⟨hnonzero, hnew⟩ := hfresh
  have hcalls : ∀ call ∈ w.pending, call.session ≠ session :=
    fun call hcall => hnew _ (h.given call hcall)
  have hself : c.mRequestQueues request.cls.queue = ⟨session, [request]⟩ := by
    rw [hq, Function.update_self]
  have hother : ∀ i, i ≠ request.cls.queue → c.mRequestQueues i = w.client.mRequestQueues i :=
    fun i hi => by rw [hq, Function.update_of_ne hi]
  refine ⟨fun i => ?_, ?_, fun i => ?_, ?_, ?_, ?_⟩
  · show (c.mRequestQueues i).mQueue =
      waiting i (c.mRequestQueues i).mSession (w.pending ++ [⟨request, session⟩])
    rw [waiting_concat]
    by_cases hi : i = request.cls.queue
    · subst hi
      rw [hself, waiting_eq_nil hcalls]
      simp [ControlCall.queue]
    · rw [hother i hi, ← h.queues i]
      simp [ControlCall.queue, Ne.symm hi]
  · intro call hcall
    rcases List.mem_append.mp hcall with hcall | hcall
    · exact List.mem_cons_of_mem _ (h.given call hcall)
    · rw [List.mem_singleton.mp hcall]
      exact List.mem_cons_self
  · show (c.mRequestQueues i).mSession = 0 ∨ (i, (c.mRequestQueues i).mSession) ∈ _ :: w.sessions
    by_cases hi : i = request.cls.queue
    · subst hi
      rw [hself]
      exact .inr List.mem_cons_self
    · rw [hother i hi]
      exact (h.current i).imp_right (List.mem_cons_of_mem _)
  · intro given hgiven
    rcases List.mem_cons.mp hgiven with rfl | hgiven
    · exact hnonzero
    · exact h.nonzero given hgiven
  · intro i j s hi hj
    rcases List.mem_cons.mp hi with hi | hi <;> rcases List.mem_cons.mp hj with hj | hj
    · exact (congrArg Prod.fst hi).trans (congrArg Prod.fst hj).symm
    · exact absurd (congrArg Prod.snd hi) (hnew (j, s) hj)
    · exact absurd (congrArg Prod.snd hj) (hnew (i, s) hi)
    · exact h.owner i j s hi hj
  · refine order_concat h ?_ ?_ ?_
    · show session = (c.mRequestQueues request.cls.queue).mSession
      rw [hself]
    · intro call _ hkeeps
      have hne : call.queue ≠ request.cls.queue := fun heq => hkeeps ⟨hreset, heq.symm⟩
      exact congrArg Requests.RequestQueue.mSession (hother _ hne)
    · intro call hcall hresets
      show call.session ≠ (c.mRequestQueues call.queue).mSession
      rw [show call.queue = request.cls.queue from hresets.2.symm, hself]
      exact hcalls call hcall

/-- The next call of a session is sent. -/
theorem good_disable (h : Good w) {c : LocationAPIControlClient} {op : Nat}
    (hq : c.mRequestQueues = Function.update w.client.mRequestQueues CTRL_REQUEST_CONTROL
      ((w.client.mRequestQueues CTRL_REQUEST_CONTROL).push ⟨DisableRequest, op⟩))
    (hsession : (w.client.mRequestQueues CTRL_REQUEST_CONTROL).mSession ≠ 0) :
    Good (w.hand c (some ⟨⟨DisableRequest, op⟩,
      (w.client.mRequestQueues CTRL_REQUEST_CONTROL).mSession⟩)) := by
  have hsame : ∀ i, (c.mRequestQueues i).mSession = (w.client.mRequestQueues i).mSession := by
    intro i
    rw [hq]
    by_cases hi : i = CTRL_REQUEST_CONTROL
    · rw [hi, Function.update_self]
      rfl
    · rw [Function.update_of_ne hi]
  refine ⟨fun i => ?_, ?_, fun i => ?_, h.nonzero, h.owner, ?_⟩
  · show (c.mRequestQueues i).mQueue = waiting i (c.mRequestQueues i).mSession (w.pending ++ _)
    rw [hsame, Option.toList_some, waiting_concat, ← h.queues i, hq]
    by_cases hi : i = CTRL_REQUEST_CONTROL
    · subst hi
      rw [Function.update_self, if_pos ⟨rfl, rfl⟩]
      rfl
    · rw [Function.update_of_ne hi, if_neg fun hc => hi hc.1.symm, List.append_nil]
  · intro call hcall
    rcases List.mem_append.mp hcall with hcall | hcall
    · exact h.given call hcall
    · rw [List.mem_singleton.mp hcall]
      exact (h.current CTRL_REQUEST_CONTROL).resolve_left hsession
  · show (c.mRequestQueues i).mSession = 0 ∨ (i, (c.mRequestQueues i).mSession) ∈ w.sessions
    rw [hsame]
    exact h.current i
  · refine order_concat h (hsame CTRL_REQUEST_CONTROL).symm (fun call _ _ => hsame call.queue) ?_
    intro call _ hresets
    exact absurd rfl hresets.1

/-! ## Responses -/

/-- No other queue has the session of a call. -/
theorem queue_of_session (h : Good w) {call : ControlCall} (hcall : call ∈ w.pending)
    {i : CTRL_REQUEST_TYPE} (hi : (w.client.mRequestQueues i).mSession = call.session) :
    i = call.queue := by
  have hgiven := h.given call hcall
  rcases h.current i with hzero | hcurrent
  · exact absurd (hi.symm.trans hzero) (h.nonzero _ hgiven)
  · rw [hi] at hcurrent
    exact h.owner i call.queue call.session hcurrent hgiven

/-- A response whose session is still that of its queue finds the first request there. -/
theorem getRequestBySession_of_current (h : Good w) {call : ControlCall}
    (hcall : call ∈ w.pending)
    (hcurrent : call.session = (w.client.mRequestQueues call.queue).mSession) :
    w.client.getRequestBySession call.session =
      ((w.client.mRequestQueues call.queue).pop.1, w.client.onQueue call.queue (·.pop.2)) := by
  have hfound : [CTRL_REQUEST_DELETEAIDINGDATA, CTRL_REQUEST_CONTROL, CTRL_REQUEST_CONFIG].find?
      (fun i => i ≠ CTRL_REQUEST_CONFIG ∧
        (w.client.mRequestQueues i).getSession = call.session) = some call.queue := by
    cases hqueue : call.queue with
    | CTRL_REQUEST_DELETEAIDINGDATA =>
      rw [hqueue] at hcurrent
      exact List.find?_cons_of_pos (by simpa [Requests.RequestQueue.getSession] using hcurrent.symm)
    | CTRL_REQUEST_CONTROL =>
      have hdelete : ¬ (w.client.mRequestQueues CTRL_REQUEST_DELETEAIDINGDATA).getSession =
          call.session := fun heq => by
        have hsame := queue_of_session h hcall heq
        rw [hqueue] at hsame
        cases hsame
      rw [hqueue] at hcurrent
      rw [List.find?_cons_of_neg (by simpa using hdelete)]
      exact List.find?_cons_of_pos (by simpa [Requests.RequestQueue.getSession] using hcurrent.symm)
    | CTRL_REQUEST_CONFIG =>
      rw [ControlCall.queue] at hqueue
      cases hcls : call.request.cls <;> rw [hcls] at hqueue <;> cases hqueue
  simp only [LocationAPIControlClient.getRequestBySession, hfound]

theorem getRequestBySession_of_stale (h : Good w) {call : ControlCall} (hcall : call ∈ w.pending)
    (hstale : call.session ≠ (w.client.mRequestQueues call.queue).mSession) :
    w.client.getRequestBySession call.session = (none, w.client) := by
  have hfound : [CTRL_REQUEST_DELETEAIDINGDATA, CTRL_REQUEST_CONTROL, CTRL_REQUEST_CONFIG].find?
      (fun i => i ≠ CTRL_REQUEST_CONFIG ∧
        (w.client.mRequestQueues i).getSession = call.session) = none := by
    rw [List.find?_eq_none]
    intro i _ hi
    have hsession : (w.client.mRequestQueues i).mSession = call.session := (of_decide_eq_true hi).2
    rw [queue_of_session h hcall hsession] at hsession
    exact hstale hsession.symm
  simp only [LocationAPIControlClient.getRequestBySession, hfound]

/-- The oldest call is answered, and its request is no longer in a queue. -/
theorem good_tail (h : Good w) {w' : World} {call : ControlCall} {rest : List ControlCall}
    (hp : w.pending = call :: rest) (hpending : w'.pending = rest)
    (hsessions : w'.sessions = w.sessions)
    (hsame : ∀ i, (w'.client.mRequestQueues i).mSession = (w.client.mRequestQueues i).mSession)
    (hqueues : ∀ i, (w'.client.mRequestQueues i).mQueue =
      waiting i (w.client.mRequestQueues i).mSession rest) : Good w' where
  queues := fun i => by rw [hqueues, hsame, hpending]
  given := fun x hx => by
    rw [hpending] at hx
    rw [hsessions]
    exact h.given x (hp ▸ List.mem_cons_of_mem call hx)
  current := fun i => by
    rw [hsame, hsessions]
    exact h.current i
  nonzero := hsessions ▸ h.nonzero
  owner := hsessions ▸ h.owner
  order := fun before x after hsplit => by
    rw [hsame]
    refine h.order (call :: before) x after ?_
    rw [hp, ← hpending, hsplit, List.cons_append]

theorem step_response_nil (hp : w.pending = []) {error : LocationError} :
    w.step (.response error) = w := by
  simp only [World.step, hp]

/-- What a response does: its callback is called if its session is current. -/
theorem response_spec (h : Good w) {call : ControlCall} {rest : List ControlCall}
    (hp : w.pending = call :: rest) (error : LocationError) :
    Good (w.step (.response error)) ∧
    (w.step (.response error)).answered = w.answered ++ [⟨call.request, error⟩] ∧
    (w.step (.response error)).callbacks = w.callbacks ++
      if call.session = (w.client.mRequestQueues call.queue).mSession then [⟨call.request, error⟩]
      else [] := by
  have hcall : call ∈ w.pending := hp ▸ List.mem_cons_self
  have hstep : w.step (.response error) =
      (w.answer rest ⟨call.request, error⟩).onCtrlResponseCb error call.session := by
    simp only [World.step, hp]
  rw [hstep]
  by_cases hcurrent : call.session = (w.client.mRequestQueues call.queue).mSession
  · have hqueue : (w.client.mRequestQueues call.queue).mQueue = call.request ::
        waiting call.queue (w.client.mRequestQueues call.queue).mSession rest := by
      rw [h.queues, hp, waiting_cons, if_pos ⟨rfl, hcurrent⟩, List.singleton_append]
    have hpop : (w.client.mRequestQueues call.queue).pop.1 = some call.request := by
      rw [Requests.RequestQueue.pop, hqueue, List.head?_cons]
    have hworld : (w.answer rest ⟨call.request, error⟩).onCtrlResponseCb error call.session =
        { w.answer rest ⟨call.request, error⟩ with
          client := w.client.onQueue call.queue (·.pop.2)
          callbacks := w.callbacks ++ [⟨call.request, error⟩] } := by
      have hget := getRequestBySession_of_current h hcall hcurrent
      rw [hpop] at hget
      simp only [World.onCtrlResponseCb, World.answer, hget, Option.map_some, Option.toList_some]
    rw [hworld, if_pos hcurrent]
    refine ⟨good_tail h hp rfl rfl (fun i => ?_) fun i => ?_, rfl, rfl⟩
    · show ((w.client.onQueue call.queue (·.pop.2)).mRequestQueues i).mSession = _
      by_cases hi : i = call.queue
      · rw [hi, LocationAPIControlClient.onQueue_self, Requests.RequestQueue.pop]
      · rw [w.client.onQueue_of_ne hi]
    · show ((w.client.onQueue call.queue (·.pop.2)).mRequestQueues i).mQueue = _
      by_cases hi : i = call.queue
      · rw [hi, LocationAPIControlClient.onQueue_self, Requests.RequestQueue.pop, hqueue,
          List.tail_cons]
      · rw [w.client.onQueue_of_ne hi, h.queues, hp, waiting_cons, if_neg fun hc => hi hc.1.symm,
          List.nil_append]
  · have hworld : (w.answer rest ⟨call.request, error⟩).onCtrlResponseCb error call.session =
        w.answer rest ⟨call.request, error⟩ := by
      have hget := getRequestBySession_of_stale h hcall hcurrent
      simp only [World.onCtrlResponseCb, World.answer, hget, Option.map_none, Option.toList_none,
        List.append_nil]
    rw [hworld, if_neg hcurrent, List.append_nil]
    refine ⟨good_tail h hp rfl rfl (fun _ => rfl) fun i => ?_, rfl, rfl⟩
    rw [show (w.answer rest ⟨call.request, error⟩).client = w.client from rfl, h.queues, hp,
      waiting_cons, if_neg, List.nil_append]
    rintro ⟨hqueue, hsession⟩
    rw [← hqueue] at hsession
    exact hcurrent hsession

/-- A call sends its request, or nothing; it neither answers nor calls back. -/
theorem good_call (h : Good w) {e : Event} (hfresh : FreshSession w e)
    (hcall : ∀ error, e ≠ .response error) :
    Good (w.step e) ∧ (w.step e).callbacks = w.callbacks ∧ (w.step e).answered = w.answered := by
  have hnone : Good (w.hand w.client none) :=
    ⟨by simpa [World.hand] using h.queues, by simpa [World.hand] using h.given, h.current,
      h.nonzero, h.owner, by simpa [World.hand] using h.order⟩
  cases e with
  | response error => exact absurd rfl (hcall error)
  | deleteAidingData session =>
    simp only [World.step, LocationAPIControlClient.locAPIGnssDeleteAidingData]
    split
    · refine ⟨good_reset h (fun heq => by cases heq) ?_ hfresh, rfl, rfl⟩
      simp [LocationAPIControlClient.onQueue, Requests.RequestQueue.reset,
        Requests.RequestQueue.push, RequestClass.queue]
    · exact ⟨hnone, rfl, rfl⟩
  | enable session =>
    simp only [World.step, LocationAPIControlClient.locAPIEnable]
    split
    · exact ⟨hnone, rfl, rfl⟩
    split
    · refine ⟨good_reset h (fun heq => by cases heq) ?_ hfresh, rfl, rfl⟩
      simp [LocationAPIControlClient.onQueue, Requests.RequestQueue.reset,
        Requests.RequestQueue.push, RequestClass.queue]
    · exact ⟨hnone, rfl, rfl⟩
  | disable =>
    simp only [World.step, LocationAPIControlClient.locAPIDisable]
    split
    · split
      · rename_i hsession
        exact ⟨good_disable h rfl (Nat.ne_of_gt hsession), rfl, rfl⟩
      · exact ⟨hnone, rfl, rfl⟩
    · exact ⟨hnone, rfl, rfl⟩

/-- The oldest call's session is current exactly when the call is in time. -/
theorem current_iff (h : Good w) {call : ControlCall} {rest : List ControlCall}
    (hp : w.pending = call :: rest) (error : LocationError) :
    call.session = (w.client.mRequestQueues call.queue).mSession ↔
      InTime w (.response error) := by
  rw [h.order [] call rest (by rw [hp, List.nil_append]), InTime, hp]
  simp only [List.head?_cons, Option.mem_some_iff, List.tail_cons, forall_eq']

theorem good_step {e : Event} (h : Good w) (hfresh : FreshSession w e) : Good (w.step e) := by
  cases e with
  | response error =>
    cases hp : w.pending with
    | nil =>
      rw [step_response_nil hp]
      exact h
    | cons call rest => exact (response_spec h hp error).1
  | _ => exact (good_call h hfresh fun _ heq => by cases heq).1

/-- The callbacks agree with the answers after a step exactly if it is in time. -/
theorem delivered_step_iff {e : Event} (h : Good w) (hd : Delivered w)
    (hfresh : FreshSession w e) : Delivered (w.step e) ↔ InTime w e := by
  have hkeeps : (∀ error, e ≠ .response error) → Delivered (w.step e) := by
    intro hcall
    obtain ⟨-, hcallbacks, hanswered⟩ := good_call h hfresh hcall
    rw [Delivered, hcallbacks, hanswered]
    exact hd
  cases e with
  | response error =>
    cases hp : w.pending with
    | nil =>
      rw [step_response_nil hp]
      exact iff_of_true hd (by simp [InTime, hp])
    | cons call rest =>
      obtain ⟨-, hanswered, hcallbacks⟩ := response_spec h hp error
      rw [← current_iff h hp, Delivered, hanswered, hcallbacks, hd, List.append_right_inj]
      constructor
      · intro hlist
        by_contra hstale
        rw [if_neg hstale] at hlist
        cases hlist
      · intro hcurrent
        rw [if_pos hcurrent]
  | _ => exact iff_of_true (hkeeps fun _ heq => by cases heq) trivial

end

/-- **Every answered call has had its own callback after each step of a run
exactly if no answer comes after the queue was emptied for a later call.** -/
theorem delivered_iff (api : Bool) (es : List Event)
    (hfresh : Steps World.step FreshSession (.init api) es) :
    Steps World.step (fun w e => Delivered (w.step e)) (.init api) es ↔
      Steps World.step InTime (.init api) es :=
  steps_iff_guard (I := fun w => Good w ∧ Delivered w)
    (fun _ _ h ha => delivered_step_iff h.1 h.2 ha)
    (fun _ _ h ha hq => ⟨good_step h.1 ha, hq⟩)
    ⟨good_init api, rfl⟩ hfresh

theorem delivered_enable_disable :
    let es := [.enable 1, .disable, .response LOCATION_ERROR_SUCCESS,
      .response LOCATION_ERROR_NOT_SUPPORTED]
    Steps World.step FreshSession (.init true) es ∧
      (Steps World.step (fun w e => Delivered (w.step e)) (.init true) es ↔
        Steps World.step InTime (.init true) es) :=
  ⟨by decide, delivered_iff true _ (by decide)⟩

/-- Enabling again before the answers to the first enabling and its end empties
their queue, and neither calls its callback. -/
theorem enable_again_silences :
    let es := [.enable 1, .disable, .enable 2, .response LOCATION_ERROR_SUCCESS,
      .response LOCATION_ERROR_SUCCESS, .response LOCATION_ERROR_SUCCESS]
    Steps World.step FreshSession (.init true) es ∧
      (run World.step (.init true) es).pending = [] ∧
      (run World.step (.init true) es).callbacks =
        [⟨⟨EnableRequest, 2⟩, LOCATION_ERROR_SUCCESS⟩] ∧
      ¬ Delivered (run World.step (.init true) es) := by
  unfold Delivered
  decide

end DeviceHal.Location.ControlClient
