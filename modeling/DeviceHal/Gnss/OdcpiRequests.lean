import DeviceHal.Lib.Run
import Mathlib.Data.List.Chain
import Mathlib.Tactic

/-! # On-demand coarse position injection

The modem's requests go to the framework at most once per
`ODCPI_EXPECTED_INJECTION_TIME_MS`, but for an emergency request that replaces
another. The timer posts a message when it calls back, and an emergency request
may start the timer anew while that message waits. Nothing is assumed of when
the `LocTimer` calls back, which can be early. -/
namespace DeviceHal.Gnss.OdcpiRequests
open DeviceHal.Lib.Run

def ODCPI_EXPECTED_INJECTION_TIME_MS : Nat := 10000

inductive OdcpiRequestType where
  | ODCPI_REQUEST_TYPE_START
  | ODCPI_REQUEST_TYPE_STOP
deriving DecidableEq
open OdcpiRequestType

structure OdcpiRequestInfo where
  type : OdcpiRequestType
  tbfMillis : UInt32
  isEmergencyMode : Bool
deriving DecidableEq

/-! ## The timer -/

/-- The timer's flag and the `LocTimer` below it. -/
structure OdcpiTimer where
  mActive : Bool
  /-- `LocTimer` is started, and has neither expired nor been stopped. -/
  running : Bool
  /-- The time of the last start of `LocTimer`. -/
  startedAt : Nat
deriving DecidableEq

namespace OdcpiTimer

/-- A `LocTimer` that runs is not started again. -/
def start (t : OdcpiTimer) (now : Nat) : OdcpiTimer :=
  if t.running then { t with mActive := true } else ⟨true, true, now⟩

def stop (t : OdcpiTimer) : OdcpiTimer := { t with mActive := false, running := false }

def restart (t : OdcpiTimer) (now : Nat) : OdcpiTimer := t.stop.start now

def isActive (t : OdcpiTimer) : Bool := t.mActive

end OdcpiTimer

/-! ## The adapter -/

/-- A call of the framework's callback. -/
structure OdcpiCall where
  time : Nat
  request : OdcpiRequestInfo
  /-- The request replaced one that was no emergency. -/
  upgrade : Bool
deriving DecidableEq

structure OdcpiAdapter where
  mOdcpiRequest : OdcpiRequestInfo
  mOdcpiRequestActive : Bool
  mOdcpiTimer : OdcpiTimer
  now : Nat
  /-- The expirations whose `timeOutCallback` is still to be called. -/
  expiring : Nat
  /-- The messages `MsgOdcpiTimerExpire` in the queue. -/
  posted : Nat
  calls : List OdcpiCall
deriving DecidableEq

namespace OdcpiAdapter

/-- The callback is registered, and nothing has been requested. -/
def new : OdcpiAdapter :=
  ⟨⟨ODCPI_REQUEST_TYPE_START, 0, false⟩, false, ⟨false, false, 0⟩, 0, 0, 0, []⟩

def mOdcpiRequestCb (s : OdcpiAdapter) (request : OdcpiRequestInfo) (upgrade : Bool) :
    OdcpiAdapter :=
  { s with calls := s.calls ++ [⟨s.now, request, upgrade⟩] }

def setActive (s : OdcpiAdapter) (active : Bool) : OdcpiAdapter :=
  { s with mOdcpiRequestActive := active }

def setTimer (s : OdcpiAdapter) (t : OdcpiTimer) : OdcpiAdapter := { s with mOdcpiTimer := t }

def reportOdcpiRequest (s : OdcpiAdapter) (request : OdcpiRequestInfo) : OdcpiAdapter :=
  if request.type = ODCPI_REQUEST_TYPE_START then
    let s :=
      if s.mOdcpiRequestActive = false ∧ s.mOdcpiTimer.isActive = false then
        let s := (s.mOdcpiRequestCb request false).setActive true
        s.setTimer (s.mOdcpiTimer.start s.now)
      else if s.mOdcpiRequest.isEmergencyMode = false ∧ request.isEmergencyMode = true then
        let s := (s.mOdcpiRequestCb request true).setActive true
        if s.mOdcpiTimer.isActive = true then s.setTimer (s.mOdcpiTimer.restart s.now)
        else s.setTimer (s.mOdcpiTimer.start s.now)
      else if s.mOdcpiRequestActive = false ∧ s.mOdcpiTimer.isActive = true then s.setActive true
      else s
    { s with mOdcpiRequest := request }
  else s.setActive false

def odcpiTimerExpire (s : OdcpiAdapter) : OdcpiAdapter :=
  if s.mOdcpiRequestActive then
    let s := s.mOdcpiRequestCb s.mOdcpiRequest false
    s.setTimer (s.mOdcpiTimer.restart s.now)
  else s.setTimer s.mOdcpiTimer.stop

/-- What `restartSessions` does here. -/
def restartSessions (s : OdcpiAdapter) : OdcpiAdapter := s.setActive false

end OdcpiAdapter

/-! ## Runs -/

inductive OdcpiEvent where
  | reportOdcpiRequest (request : OdcpiRequestInfo)
  | restartSessions
  /-- `LocTimerDelegate::expire` stops the `LocTimer`. -/
  | timeOut
  /-- The callback of an expiration, which posts its message. -/
  | timeOutCallback
  /-- The next `MsgOdcpiTimerExpire` is processed. -/
  | timerExpire
  | tick (ms : Nat)
deriving DecidableEq

def OdcpiAdapter.step (s : OdcpiAdapter) : OdcpiEvent → OdcpiAdapter
  | .reportOdcpiRequest request => s.reportOdcpiRequest request
  | .restartSessions => s.restartSessions
  | .timeOut =>
    if s.mOdcpiTimer.running then
      { s with
        mOdcpiTimer := { s.mOdcpiTimer with running := false }
        expiring := s.expiring + 1 }
    else s
  | .timeOutCallback =>
    match s.expiring with
    | 0 => s
    | rest + 1 => { s with expiring := rest, posted := s.posted + 1 }
  | .timerExpire =>
    match s.posted with
    | 0 => s
    | rest + 1 => { s with posted := rest }.odcpiTimerExpire
  | .tick ms => { s with now := s.now + ms }

/-- A call is an upgrade, or comes long enough after the call before it. -/
def Spaced (calls : List OdcpiCall) : Prop :=
  calls.IsChain fun c d => d.upgrade = true ∨ c.time + ODCPI_EXPECTED_INJECTION_TIME_MS ≤ d.time

instance (calls : List OdcpiCall) : Decidable (Spaced calls) :=
  inferInstanceAs (Decidable (List.IsChain _ _))

structure RateLimited (s : OdcpiAdapter) : Prop where
  active : s.mOdcpiRequestActive = true → s.mOdcpiTimer.isActive = true
  spaced : Spaced s.calls

/-- The last start of the timer is long enough ago. -/
def OdcpiAdapter.Due (s : OdcpiAdapter) : Prop :=
  s.mOdcpiTimer.startedAt + ODCPI_EXPECTED_INJECTION_TIME_MS ≤ s.now

instance (s : OdcpiAdapter) : Decidable s.Due := inferInstanceAs (Decidable (_ ≤ _))

/-- An expiry message is processed when the timer is due. -/
def ExpiresDue (s : OdcpiAdapter) (e : OdcpiEvent) : Prop :=
  e = .timerExpire → s.posted ≠ 0 → s.Due

instance (s : OdcpiAdapter) (e : OdcpiEvent) : Decidable (ExpiresDue s e) :=
  inferInstanceAs (Decidable (_ → _ → _))

/-! ## The timer and the last call -/

/-- Every call starts the timer, so the timer measures the time since the last
call: it is found not active only after its time. -/
structure Timed (s : OdcpiAdapter) : Prop where
  active : s.mOdcpiRequestActive = true → s.mOdcpiTimer.mActive = true
  running : s.mOdcpiTimer.running = true → s.mOdcpiTimer.mActive = true
  last : ∀ c ∈ s.calls.getLast?, c.time = s.mOdcpiTimer.startedAt
  idle : s.mOdcpiTimer.mActive = false → s.calls = [] ∨ s.Due
  spaced : Spaced s.calls

theorem timed_new : Timed .new where
  active := fun h => Bool.noConfusion h
  running := fun h => Bool.noConfusion h
  last := fun _ h => by cases h
  idle := fun _ => .inl rfl
  spaced := List.IsChain.nil

section
variable {s : OdcpiAdapter}

theorem Timed.rateLimited (h : Timed s) : RateLimited s := ⟨h.active, h.spaced⟩

/-- A call together with a start of the timer. -/
theorem timed_call (h : Timed s) {request : OdcpiRequestInfo} {upgrade : Bool}
    (hdue : upgrade = true ∨ s.calls = [] ∨ s.Due) (kept : OdcpiRequestInfo) (active : Bool) :
    Timed { s with
      mOdcpiRequest := kept
      mOdcpiRequestActive := active
      mOdcpiTimer := ⟨true, true, s.now⟩
      calls := s.calls ++ [⟨s.now, request, upgrade⟩] } where
  active := fun _ => rfl
  running := fun _ => rfl
  last := by simp
  idle := fun hidle => Bool.noConfusion hidle
  spaced := by
    refine List.isChain_append.mpr ⟨h.spaced, List.isChain_singleton _, ?_⟩
    intro c hc d hd
    rw [List.head?_cons, Option.mem_some] at hd
    subst hd
    rcases hdue with hup | hnone | hdue
    · exact .inl hup
    · rw [hnone] at hc
      cases hc
    · refine .inr ?_
      rw [h.last c hc]
      exact hdue

/-- The flag goes up while the timer is active. -/
theorem timed_setActive (h : Timed s) {active : Bool}
    (hactive : active = true → s.mOdcpiTimer.mActive = true) (kept : OdcpiRequestInfo) :
    Timed { s with mOdcpiRequest := kept, mOdcpiRequestActive := active } :=
  ⟨hactive, h.running, h.last, h.idle, h.spaced⟩

theorem start_of_idle (h : Timed s) (hidle : s.mOdcpiTimer.mActive = false) :
    s.mOdcpiTimer.start s.now = ⟨true, true, s.now⟩ := by
  have hrunning : ¬ s.mOdcpiTimer.running = true := fun hr => by
    rw [h.running hr] at hidle
    cases hidle
  rw [OdcpiTimer.start, if_neg hrunning]

theorem restart_eq (t : OdcpiTimer) (now : Nat) : t.restart now = ⟨true, true, now⟩ := rfl

theorem timed_report (h : Timed s) (request : OdcpiRequestInfo) :
    Timed (s.reportOdcpiRequest request) := by
  unfold OdcpiAdapter.reportOdcpiRequest
  split
  · dsimp only
    split
    · rename_i hidle
      obtain ⟨hinactive, hidle⟩ := hidle
      simp only [OdcpiAdapter.setTimer, OdcpiAdapter.setActive, OdcpiAdapter.mOdcpiRequestCb,
        start_of_idle h hidle]
      exact timed_call h (.inr (h.idle hidle)) request true
    · split
      · cases hactive : s.mOdcpiTimer.isActive with
        | true =>
          simp only [OdcpiAdapter.setTimer, OdcpiAdapter.setActive, OdcpiAdapter.mOdcpiRequestCb,
            hactive, ↓reduceIte, restart_eq]
          exact timed_call h (.inl rfl) request true
        | false =>
          simp only [OdcpiAdapter.setTimer, OdcpiAdapter.setActive, OdcpiAdapter.mOdcpiRequestCb,
            hactive, Bool.false_eq_true, ↓reduceIte, start_of_idle h hactive]
          exact timed_call h (.inl rfl) request true
      · split
        · rename_i hactive
          exact timed_setActive h (fun _ => hactive.2) request
        · exact timed_setActive h h.active request
  · exact timed_setActive h (fun hf => Bool.noConfusion hf) s.mOdcpiRequest

theorem timed_expire (h : Timed s) (hdue : s.Due) : Timed s.odcpiTimerExpire := by
  unfold OdcpiAdapter.odcpiTimerExpire
  split
  · exact timed_call h (.inr (.inr hdue)) s.mOdcpiRequest s.mOdcpiRequestActive
  · rename_i hinactive
    exact ⟨fun hf => absurd hf hinactive, fun hf => Bool.noConfusion hf, h.last, fun _ => .inr hdue,
      h.spaced⟩

theorem timed_step (h : Timed s) {e : OdcpiEvent} (hexp : ExpiresDue s e) : Timed (s.step e) := by
  cases e with
  | reportOdcpiRequest request => exact timed_report h request
  | restartSessions => exact timed_setActive h (fun hf => Bool.noConfusion hf) s.mOdcpiRequest
  | timeOut =>
    simp only [OdcpiAdapter.step]
    split
    · exact ⟨h.active, fun hf => Bool.noConfusion hf, h.last, h.idle, h.spaced⟩
    · exact h
  | timeOutCallback =>
    simp only [OdcpiAdapter.step]
    split
    · exact h
    · exact ⟨h.active, h.running, h.last, h.idle, h.spaced⟩
  | timerExpire =>
    cases hposted : s.posted with
    | zero =>
      simp only [OdcpiAdapter.step, hposted]
      exact h
    | succ rest =>
      simp only [OdcpiAdapter.step, hposted]
      have hdue : s.Due := hexp rfl (by omega)
      have htaken : Timed { s with posted := rest } :=
        ⟨h.active, h.running, h.last, h.idle, h.spaced⟩
      exact timed_expire htaken hdue
  | tick ms =>
    have hlater : s.Due → (s.step (.tick ms)).Due := fun hd => Nat.le_trans hd (Nat.le_add_right _ _)
    exact ⟨h.active, h.running, h.last, fun hidle => (h.idle hidle).imp_right hlater, h.spaced⟩

end

/-- **The rate limit.** As long as the expiry messages are processed when the
timer is due, an active request has an active timer and the calls of the
framework are spaced, after every event. -/
theorem rate_limited (es : List OdcpiEvent) (h : Steps OdcpiAdapter.step ExpiresDue .new es) :
    Steps OdcpiAdapter.step (fun s e => RateLimited (s.step e)) .new es :=
  steps_of_inv (I := Timed) (fun _ _ hi hexp => (timed_step hi hexp).rateLimited)
    (fun _ _ hi hexp => timed_step hi hexp) timed_new h

/-- A request that is repeated when its timer has expired, and replaced. -/
theorem rate_limited_repeated :
    Steps OdcpiAdapter.step (fun s e => RateLimited (s.step e)) .new
      [.reportOdcpiRequest ⟨ODCPI_REQUEST_TYPE_START, 1000, false⟩, .tick 10000, .timeOut,
        .timeOutCallback, .timerExpire, .tick 5,
        .reportOdcpiRequest ⟨ODCPI_REQUEST_TYPE_START, 1000, true⟩] :=
  rate_limited _ (by decide)

/-- The timer has expired when the emergency request starts it again, and the
message of the first start then calls the framework a second time at once. -/
theorem stale_expiry_calls_again :
    ¬ RateLimited (run OdcpiAdapter.step .new
      [.reportOdcpiRequest ⟨ODCPI_REQUEST_TYPE_START, 1000, false⟩, .tick 10000, .timeOut,
        .timeOutCallback, .reportOdcpiRequest ⟨ODCPI_REQUEST_TYPE_START, 1000, true⟩,
        .timerExpire]) := by
  intro h
  exact absurd h.spaced (by decide)

end DeviceHal.Gnss.OdcpiRequests
