import DeviceHal.Lib.CText
import DeviceHal.Lib.Run
import Mathlib.Data.List.TakeWhile
import Mathlib.Tactic

/-! # XtraSystemStatusObserver and the XTRA daemon

The observer keeps what the daemon has to know: the GPS lock, the connections,
the tracking area, the operator and the throttle. Updates are stored, and sent
once the daemon has asked for the status; the response to that request lists
the stored fields, unless the request says that the daemon has them. -/
namespace DeviceHal.Gnss.XtraObserver
open DeviceHal.Lib.CText DeviceHal.Lib.Run

/-! ## Messages to the daemon -/

/-- What is streamed into a message; a lock that is not known is left out. -/
inductive XtraMsg where
  | gpslock (lock : UInt32)
  | connection (allConnections : UInt64)
  | tac (value : Bytes)
  | mncmcc (value : Bytes)
  | xtrathrottle (enabled : Bool)
  | respondStatus (gpsLock : Option Int32) (connections : UInt64) (tac mccmnc : Bytes)
      (isConnectivityStatusKnown : Bool)
deriving DecidableEq

def intText (n : Int) : Bytes := if n < 0 then 45 :: to_string n.natAbs else to_string n.natAbs

/-- `endl`. -/
def endl : Bytes := [10]

def boolText (b : Bool) : Bytes := to_string (if b then 1 else 0)

/-- The text that `send` is given. -/
def XtraMsg.text : XtraMsg → Bytes
  | .gpslock lock => bytesOf ['g', 'p', 's', 'l', 'o', 'c', 'k', ' '] ++ to_string lock.toNat
  | .connection allConnections =>
    bytesOf ['c', 'o', 'n', 'n', 'e', 'c', 't', 'i', 'o', 'n', ' '] ++ to_string allConnections.toNat
  | .tac value => bytesOf ['t', 'a', 'c', ' '] ++ value
  | .mncmcc value => bytesOf ['m', 'n', 'c', 'm', 'c', 'c', ' '] ++ value
  | .xtrathrottle enabled =>
    bytesOf ['x', 't', 'r', 'a', 't', 'h', 'r', 'o', 't', 't', 'l', 'e', ' '] ++ boolText enabled
  | .respondStatus gpsLock connections area operator isConnectivityStatusKnown =>
    bytesOf ['r', 'e', 's', 'p', 'o', 'n', 'd', 'S', 't', 'a', 't', 'u', 's'] ++ endl ++
      (gpsLock.elim [] fun lock => intText lock.toInt) ++ endl ++ to_string connections.toNat ++ endl ++
      area ++ endl ++ operator ++ endl ++ boolText isConnectivityStatusKnown

/-! ## The observer -/

structure XtraSystemStatusObserver where
  mGpsLock : Int32
  mConnections : UInt64
  mTac : Bytes
  mMccmnc : Bytes
  mXtraThrottle : Bool
  mReqStatusReceived : Bool
  mIsConnectivityStatusKnown : Bool
deriving DecidableEq

namespace XtraSystemStatusObserver

def new : XtraSystemStatusObserver := ⟨-1, 0, [], [], true, false, false⟩

/-- The message is sent only to a daemon that has asked. -/
def sendIfRequested (o : XtraSystemStatusObserver) (msg : XtraMsg) :
    XtraSystemStatusObserver × Option XtraMsg :=
  if !o.mReqStatusReceived then (o, none) else (o, some msg)

/-! The methods return the message they hand to `send`, if they do; their own
return value is that of `send`, and `true` without a message. -/

def updateLockStatus (o : XtraSystemStatusObserver) (lock : UInt32) :
    XtraSystemStatusObserver × Option XtraMsg :=
  { o with mGpsLock := lock.toInt32 }.sendIfRequested (.gpslock lock)

def updateConnections (o : XtraSystemStatusObserver) (allConnections : UInt64) :
    XtraSystemStatusObserver × Option XtraMsg :=
  { o with
    mIsConnectivityStatusKnown := true
    mConnections := allConnections }.sendIfRequested (.connection allConnections)

def updateTac (o : XtraSystemStatusObserver) (tac : Bytes) :
    XtraSystemStatusObserver × Option XtraMsg :=
  { o with mTac := tac }.sendIfRequested (.tac (cstr tac))

def updateMccMnc (o : XtraSystemStatusObserver) (mccmnc : Bytes) :
    XtraSystemStatusObserver × Option XtraMsg :=
  { o with mMccmnc := mccmnc }.sendIfRequested (.mncmcc (cstr mccmnc))

def updateXtraThrottle (o : XtraSystemStatusObserver) (enabled : Bool) :
    XtraSystemStatusObserver × Option XtraMsg :=
  { o with mXtraThrottle := enabled }.sendIfRequested (.xtrathrottle enabled)

def onStatusRequested (o : XtraSystemStatusObserver) (xtraStatusUpdated : Int32) :
    XtraSystemStatusObserver × Option XtraMsg :=
  let o := { o with mReqStatusReceived := true }
  if xtraStatusUpdated ≠ 0 then (o, none)
  else (o, some (.respondStatus (if o.mGpsLock = -1 then none else some o.mGpsLock) o.mConnections
    o.mTac o.mMccmnc o.mIsConnectivityStatusKnown))

end XtraSystemStatusObserver

/-! ## The daemon -/

/-- What the daemon knows. -/
structure Daemon where
  gpsLock : Int32
  connections : UInt64
  tac : Bytes
  mccmnc : Bytes
  throttle : Bool
deriving DecidableEq

/-- The values an observer starts with. -/
def Daemon.default : Daemon := ⟨-1, 0, [], [], true⟩

/-- The fields that a message lists are taken over. -/
def Daemon.apply (d : Daemon) : XtraMsg → Daemon
  | .gpslock lock => { d with gpsLock := lock.toInt32 }
  | .connection allConnections => { d with connections := allConnections }
  | .tac value => { d with tac := value }
  | .mncmcc value => { d with mccmnc := value }
  | .xtrathrottle enabled => { d with throttle := enabled }
  | .respondStatus gpsLock connections area operator _ =>
    { d with gpsLock := gpsLock.getD d.gpsLock, connections, tac := area, mccmnc := operator }

/-! ## Runs -/

/-- A message that the observer processes. -/
inductive XtraEvent where
  | updateLockStatus (lock : UInt32)
  | updateConnections (allConnections : UInt64)
  | updateTac (tac : Bytes)
  | updateMccMnc (mccmnc : Bytes)
  | updateXtraThrottle (enabled : Bool)
  | requestStatus (xtraStatusUpdated : Int32)
deriving DecidableEq

def XtraSystemStatusObserver.proc (o : XtraSystemStatusObserver) :
    XtraEvent → XtraSystemStatusObserver × Option XtraMsg
  | .updateLockStatus lock => o.updateLockStatus lock
  | .updateConnections allConnections => o.updateConnections allConnections
  | .updateTac tac => o.updateTac tac
  | .updateMccMnc mccmnc => o.updateMccMnc mccmnc
  | .updateXtraThrottle enabled => o.updateXtraThrottle enabled
  | .requestStatus xtraStatusUpdated => o.onStatusRequested xtraStatusUpdated

structure Link where
  observer : XtraSystemStatusObserver
  daemon : Daemon
deriving DecidableEq

def Link.start : Link := ⟨.new, .default⟩

/-- Every message that is sent arrives. -/
def Link.step (k : Link) (e : XtraEvent) : Link :=
  let (o, msg) := k.observer.proc e
  ⟨o, msg.elim k.daemon k.daemon.apply⟩

inductive XtraField where
  | gpsLock
  | connections
  | tac
  | mccmnc
  | throttle
deriving DecidableEq

/-- The daemon holds the observer's value of the field. -/
def Link.Fits (k : Link) : XtraField → Prop
  | .gpsLock => k.daemon.gpsLock = k.observer.mGpsLock
  | .connections => k.daemon.connections = k.observer.mConnections
  | .tac => k.daemon.tac = k.observer.mTac
  | .mccmnc => k.daemon.mccmnc = k.observer.mMccmnc
  | .throttle => k.daemon.throttle = k.observer.mXtraThrottle

instance Link.Fits.decidable (k : Link) (f : XtraField) : Decidable (k.Fits f) := by
  cases f <;> unfold Link.Fits <;> infer_instance

/-- A daemon that has asked is told the field: it is updated, with a string
that is sent as a whole, or a request is answered, whose response lists every
field but the throttle. -/
def XtraEvent.Tells : XtraEvent → XtraField → Prop
  | .updateLockStatus _, f => f = .gpsLock
  | .updateConnections _, f => f = .connections
  | .updateTac tac, f => f = .tac ∧ 0 ∉ tac
  | .updateMccMnc mccmnc, f => f = .mccmnc ∧ 0 ∉ mccmnc
  | .updateXtraThrottle _, f => f = .throttle
  | .requestStatus xtraStatusUpdated, f => xtraStatusUpdated = 0 ∧ f ≠ .throttle

instance XtraEvent.Tells.decidable (e : XtraEvent) (f : XtraField) : Decidable (e.Tells f) := by
  cases e <;> unfold XtraEvent.Tells <;> infer_instance

/-- The message updates the field. -/
def XtraEvent.Updates : XtraEvent → XtraField → Prop
  | .updateLockStatus _, f => f = .gpsLock
  | .updateConnections _, f => f = .connections
  | .updateTac _, f => f = .tac
  | .updateMccMnc _, f => f = .mccmnc
  | .updateXtraThrottle _, f => f = .throttle
  | .requestStatus _, _ => False

instance XtraEvent.Updates.decidable (e : XtraEvent) (f : XtraField) : Decidable (e.Updates f) := by
  cases e <;> unfold XtraEvent.Updates <;> infer_instance

/-! ## What one message does -/

section
variable {k : Link} {e : XtraEvent}

/-- What an update does once the daemon has asked. -/
theorem sendIfRequested_of_received {o : XtraSystemStatusObserver}
    (h : o.mReqStatusReceived = true) (msg : XtraMsg) : o.sendIfRequested msg = (o, some msg) := by
  simp [XtraSystemStatusObserver.sendIfRequested, h]

/-- Once the daemon has asked, the observer goes on sending. -/
theorem received_step (h : k.observer.mReqStatusReceived = true) :
    (k.step e).observer.mReqStatusReceived = true := by
  cases e with
  | requestStatus xtraStatusUpdated =>
    simp only [Link.step, XtraSystemStatusObserver.proc,
      XtraSystemStatusObserver.onStatusRequested]
    split <;> rfl
  | _ =>
    simp only [Link.step, XtraSystemStatusObserver.proc, XtraSystemStatusObserver.updateLockStatus,
      XtraSystemStatusObserver.updateConnections, XtraSystemStatusObserver.updateTac,
      XtraSystemStatusObserver.updateMccMnc, XtraSystemStatusObserver.updateXtraThrottle,
      sendIfRequested_of_received, h]

/-- A daemon that holds a lock at all holds the observer's. An unknown lock is
not listed in a response, so this decides what the daemon has after it. -/
def Link.LockSafe (k : Link) : Prop :=
  k.daemon.gpsLock = -1 ∨
    k.observer.mReqStatusReceived = true ∧ k.daemon.gpsLock = k.observer.mGpsLock

theorem lockSafe_step (hs : k.LockSafe) : (k.step e).LockSafe := by
  cases e with
  | requestStatus xtraStatusUpdated =>
    simp only [Link.step, XtraSystemStatusObserver.proc,
      XtraSystemStatusObserver.onStatusRequested]
    have hlock : k.daemon.gpsLock = -1 ∨ k.daemon.gpsLock = k.observer.mGpsLock :=
      hs.imp_right And.right
    split
    · exact hlock.imp_right fun h => ⟨rfl, h⟩
    · show (if k.observer.mGpsLock = -1 then none else some k.observer.mGpsLock).getD
        k.daemon.gpsLock = -1 ∨ _
      split
      · rename_i hunknown
        rw [hunknown] at hlock
        exact .inl (hlock.elim id id)
      · exact .inr ⟨rfl, rfl⟩
  | _ =>
    -- an update is not sent and leaves the daemon's `-1`, or is sent and both sides have the value
    cases hr : k.observer.mReqStatusReceived with
    | false =>
      have hlock : k.daemon.gpsLock = -1 := by simpa [Link.LockSafe, hr] using hs
      simp [Link.LockSafe, Link.step, XtraSystemStatusObserver.proc,
        XtraSystemStatusObserver.updateLockStatus, XtraSystemStatusObserver.updateConnections,
        XtraSystemStatusObserver.updateTac, XtraSystemStatusObserver.updateMccMnc,
        XtraSystemStatusObserver.updateXtraThrottle, XtraSystemStatusObserver.sendIfRequested,
        hr, hlock]
    | true =>
      have hlock : k.daemon.gpsLock = -1 ∨ k.daemon.gpsLock = k.observer.mGpsLock :=
        hs.imp_right And.right
      simp [Link.LockSafe, Link.step, XtraSystemStatusObserver.proc,
        XtraSystemStatusObserver.updateLockStatus, XtraSystemStatusObserver.updateConnections,
        XtraSystemStatusObserver.updateTac, XtraSystemStatusObserver.updateMccMnc,
        XtraSystemStatusObserver.updateXtraThrottle, sendIfRequested_of_received, Daemon.apply,
        hr, hlock]

variable {f : XtraField}

/-- What a request tells, or what the daemon had before it. -/
theorem fits_requestStatus (hs : k.LockSafe) {xtraStatusUpdated : Int32}
    (ht : k.Fits f ∨ (XtraEvent.requestStatus xtraStatusUpdated).Tells f) :
    (k.step (.requestStatus xtraStatusUpdated)).Fits f := by
  simp only [Link.step, XtraSystemStatusObserver.proc, XtraSystemStatusObserver.onStatusRequested]
  split
  · rename_i hknown
    have hkept := ht.resolve_right fun h => hknown h.1
    cases f <;> exact hkept
  · cases f with
    | gpsLock =>
      -- an unknown lock is not listed, and the daemon has none then
      show (if k.observer.mGpsLock = -1 then none else some k.observer.mGpsLock).getD
        k.daemon.gpsLock = k.observer.mGpsLock
      split
      · rename_i hunknown
        rcases hs with hnone | ⟨-, hsame⟩
        · exact hnone.trans hunknown.symm
        · exact hsame
      · rfl
    | throttle => exact ht.resolve_right fun h => h.2 rfl
    | _ => rfl

/-- A field that is not updated stays as it is on both sides, asked or not. -/
theorem fits_untouched (hs : k.LockSafe) (hf : k.Fits f) (hu : ¬ e.Updates f) :
    (k.step e).Fits f := by
  cases e with
  | requestStatus xtraStatusUpdated => exact fits_requestStatus hs (.inl hf)
  | _ =>
    cases hr : k.observer.mReqStatusReceived <;> cases f <;>
      first
      | exact absurd rfl hu
      | simpa [Link.Fits, Link.step, XtraSystemStatusObserver.proc,
          XtraSystemStatusObserver.updateLockStatus, XtraSystemStatusObserver.updateConnections,
          XtraSystemStatusObserver.updateTac, XtraSystemStatusObserver.updateMccMnc,
          XtraSystemStatusObserver.updateXtraThrottle, XtraSystemStatusObserver.sendIfRequested,
          Daemon.apply, hr] using hf

/-- Once the daemon has asked, it holds every field that it is told. -/
theorem fits_told (hr : k.observer.mReqStatusReceived = true) (hs : k.LockSafe)
    (ht : e.Tells f) : (k.step e).Fits f := by
  cases e with
  | updateLockStatus lock =>
    obtain rfl : f = .gpsLock := ht
    rw [Link.step, XtraSystemStatusObserver.proc, XtraSystemStatusObserver.updateLockStatus,
      sendIfRequested_of_received]
    · rfl
    · exact hr
  | updateConnections allConnections =>
    obtain rfl : f = .connections := ht
    rw [Link.step, XtraSystemStatusObserver.proc, XtraSystemStatusObserver.updateConnections,
      sendIfRequested_of_received]
    · rfl
    · exact hr
  | updateTac tac =>
    obtain ⟨rfl, hwhole⟩ := ht
    rw [Link.step, XtraSystemStatusObserver.proc, XtraSystemStatusObserver.updateTac,
      sendIfRequested_of_received, cstr_eq hwhole]
    · rfl
    · exact hr
  | updateMccMnc mccmnc =>
    obtain ⟨rfl, hwhole⟩ := ht
    rw [Link.step, XtraSystemStatusObserver.proc, XtraSystemStatusObserver.updateMccMnc,
      sendIfRequested_of_received, cstr_eq hwhole]
    · rfl
    · exact hr
  | updateXtraThrottle enabled =>
    obtain rfl : f = .throttle := ht
    rw [Link.step, XtraSystemStatusObserver.proc, XtraSystemStatusObserver.updateXtraThrottle,
      sendIfRequested_of_received]
    · rfl
    · exact hr
  | requestStatus xtraStatusUpdated => exact fits_requestStatus hs (.inr ht)

end

/-! ## Whole runs -/

section
variable {k : Link} {f : XtraField}

theorem lockSafe_run (es : List XtraEvent) (hs : k.LockSafe) : (run Link.step k es).LockSafe :=
  inv_run_any (I := Link.LockSafe) (fun _ _ => lockSafe_step) es hs

theorem received_request (xtraStatusUpdated : Int32) :
    (k.step (.requestStatus xtraStatusUpdated)).observer.mReqStatusReceived = true := by
  simp only [Link.step, XtraSystemStatusObserver.proc, XtraSystemStatusObserver.onStatusRequested]
  split <;> rfl

theorem received_run (es : List XtraEvent) (hr : k.observer.mReqStatusReceived = true) :
    (run Link.step k es).observer.mReqStatusReceived = true :=
  inv_run_any (I := fun k : Link => k.observer.mReqStatusReceived = true)
    (fun _ _ => received_step) es hr

/-- A field that the daemon holds stays with it while every update of it tells it. -/
theorem fits_run (hr : k.observer.mReqStatusReceived = true) (hs : k.LockSafe) (hf : k.Fits f)
    {es : List XtraEvent} (hp : ∀ e ∈ es, e.Updates f → e.Tells f) : (run Link.step k es).Fits f := by
  have hstep : ∀ (k : Link) (e : XtraEvent),
      k.observer.mReqStatusReceived = true ∧ k.LockSafe ∧ k.Fits f → (e.Updates f → e.Tells f) →
      (k.step e).observer.mReqStatusReceived = true ∧ (k.step e).LockSafe ∧ (k.step e).Fits f := by
    intro k e hi hp
    refine ⟨received_step hi.1, lockSafe_step hi.2.1, ?_⟩
    by_cases hu : e.Updates f
    · exact fits_told hi.1 hi.2.1 (hp hu)
    · exact fits_untouched hi.2.1 hi.2.2 hu
  exact (inv_run (A := fun _ (e : XtraEvent) => e.Updates f → e.Tells f) hstep ⟨hr, hs, hf⟩
    (steps_of_mem hp k)).2.2

/-- A daemon that has asked holds a field behind messages that tell it, or that
leave it as it was. -/
theorem fits_run_of_told (hr : k.observer.mReqStatusReceived = true) (hs : k.LockSafe)
    {es : List XtraEvent} (hp : ∀ e ∈ es, e.Updates f → e.Tells f)
    (ht : k.Fits f ∨ ∃ e ∈ es, e.Tells f) : (run Link.step k es).Fits f := by
  rcases ht with hf | ⟨e, he, htells⟩
  · exact fits_run hr hs hf hp
  · obtain ⟨es₁, es₂, rfl⟩ := List.append_of_mem he
    rw [run_append, run_cons]
    have hr₁ := received_run es₁ hr
    have hs₁ := lockSafe_run es₁ hs
    exact fits_run (received_step hr₁) (lockSafe_step hs₁) (fits_told hr₁ hs₁ htells)
      fun e' he' => hp e' (List.mem_append_right _ (List.mem_cons_of_mem _ he'))

/-- An observer's field starts with the daemon's default. -/
theorem fits_start (f : XtraField) : Link.start.Fits f := by cases f <;> rfl

/-- A field that is not updated before the request agrees when the request comes. -/
theorem fits_before {before : List XtraEvent} (hu : ∀ e ∈ before, ¬ e.Updates f) :
    (run Link.step .start before).Fits f := by
  have hstep : ∀ (k : Link) (e : XtraEvent), k.LockSafe ∧ k.Fits f → ¬ e.Updates f →
      (k.step e).LockSafe ∧ (k.step e).Fits f :=
    fun k e hi hu => ⟨lockSafe_step hi.1, fits_untouched hi.1 hi.2 hu⟩
  exact (inv_run (A := fun _ (e : XtraEvent) => ¬ e.Updates f) hstep ⟨.inl rfl, fits_start f⟩
    (steps_of_mem hu _)).2

end

/-- **The daemon's view.** A field that is not updated before the daemon asks
agrees when it does. At any time from the request on, `seen` of its messages
processed, a field that agrees, or that one of the next messages tells, agrees
behind these messages if every update among them tells its field. -/
theorem daemon_follows (before : List XtraEvent) (xtraStatusUpdated : Int32)
    (seen next : List XtraEvent) (f : XtraField)
    (hwhole : ∀ e ∈ next, e.Updates f → e.Tells f) :
    ((∀ e ∈ before, ¬ e.Updates f) → (run Link.step .start before).Fits f) ∧
    ((run Link.step .start before).Fits f ∨
        (XtraEvent.requestStatus xtraStatusUpdated).Tells f →
      (run Link.step .start (before ++ [.requestStatus xtraStatusUpdated])).Fits f) ∧
    ((run Link.step .start (before ++ .requestStatus xtraStatusUpdated :: seen)).Fits f ∨
        (∃ e ∈ next, e.Tells f) →
      (run Link.step .start
        (before ++ .requestStatus xtraStatusUpdated :: (seen ++ next))).Fits f) := by
  have hs : (run Link.step .start before).LockSafe := lockSafe_run before (.inl rfl)
  simp only [run_append, run_cons, run_nil]
  refine ⟨fits_before, fits_requestStatus hs, ?_⟩
  exact fits_run_of_told (received_run seen (received_request xtraStatusUpdated))
    (lockSafe_run seen (lockSafe_step hs)) hwhole

/-- The lock is set before the request and listed in its response; the throttle
is not updated before it; the area is cut once, and then told. -/
theorem daemon_follows_after_lock :
    (run Link.step .start ([.updateLockStatus 3] ++ .requestStatus 0 ::
      ([] ++ [.updateTac [49, 0], .updateXtraThrottle false, .requestStatus 1]))).Fits .gpsLock ∧
    (run Link.step .start ([.updateLockStatus 3] ++ .requestStatus 1 ::
      ([] ++ [.updateTac [49], .requestStatus 1]))).Fits .throttle ∧
    (run Link.step .start ([.updateLockStatus 3] ++ .requestStatus 1 ::
      ([.updateTac [49, 0, 50]] ++ [.updateTac [49], .requestStatus 1]))).Fits .tac := by
  have hlock := daemon_follows [.updateLockStatus 3] 0 [] [.updateTac [49, 0],
    .updateXtraThrottle false, .requestStatus 1] .gpsLock (by decide)
  have hthrottle := daemon_follows [.updateLockStatus 3] 1 [] [.updateTac [49], .requestStatus 1]
    .throttle (by decide)
  have htac := daemon_follows [.updateLockStatus 3] 1 [.updateTac [49, 0, 50]]
    [.updateTac [49], .requestStatus 1] .tac (by decide)
  exact ⟨hlock.2.2 (.inl (hlock.2.1 (.inr (by decide)))),
    hthrottle.2.2 (.inl (hthrottle.2.1 (.inl (hthrottle.1 (by decide))))),
    htac.2.2 (.inr (by decide))⟩

/-- A request with a nonzero argument leaves the daemon without the lock, a
response does not list the throttle, and a string is sent up to its first NUL. -/
theorem daemon_misses :
    ¬ (run Link.step .start [.updateLockStatus 3, .requestStatus 1]).Fits .gpsLock ∧
    ¬ (run Link.step .start [.updateXtraThrottle false, .requestStatus 0]).Fits .throttle ∧
    ¬ (run Link.step .start [.requestStatus 0, .updateTac [49, 0, 50]]).Fits .tac := by
  decide

end DeviceHal.Gnss.XtraObserver
