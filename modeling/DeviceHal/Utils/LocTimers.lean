import DeviceHal.Lib.CText
import DeviceHal.Lib.Run
import DeviceHal.Utils.RankHeap

/-! # LocTimer

The timer service of `utils/LocTimer.cpp`: clients start and stop timers and
post to a message queue, the message thread owns the two heaps of delegates
and arms one timerfd for each, and the poll thread turns an expired timerfd
into a message. Each client call, each message and each of the three actions of
the poll thread's `expire()` is one step. Delegates get fresh addresses, and
their fixed fields travel with them. All the clocks are read as the one boot
clock. -/
namespace DeviceHal.Utils.LocTimers
open DeviceHal.Lib.Run DeviceHal.Utils.RankHeap
open DeviceHal.Lib.CText (toInt32)

/-! ## Time -/

structure Timespec where
  tv_sec : Nat
  tv_nsec : Nat
  nsec_lt : tv_nsec < 1000000000
deriving DecidableEq

namespace Timespec

def nanos (t : Timespec) : Nat := t.tv_sec * 1000000000 + t.tv_nsec

def ofSec (tv_sec : Nat) : Timespec := ⟨tv_sec, 0, by decide⟩

/-- The value that disarms a timerfd. -/
def zero : Timespec := .ofSec 0

instance : LE Timespec := ⟨fun a b => a.nanos ≤ b.nanos⟩

instance (a b : Timespec) : Decidable (a ≤ b) := inferInstanceAs (Decidable (a.nanos ≤ b.nanos))

theorem le_def {a b : Timespec} : a ≤ b ↔ a.nanos ≤ b.nanos := Iff.rfl

end Timespec

/-- A reading of `CLOCK_BOOTTIME`, or a time after one: no process runs at the
moment of the boot, so it is never the value that disarms a timerfd. -/
structure BootTime extends Timespec where
  pos : 0 < toTimespec.nanos
deriving DecidableEq

/-- The addition in `LocTimer::start`: seconds and milliseconds apart, then the
carry of the nanoseconds. -/
def Timespec.addMs (t : Timespec) (timeOutInMs : UInt32) : Timespec :=
  if h : t.tv_nsec + timeOutInMs.toNat % 1000 * 1000000 ≥ 1000000000 then
    ⟨t.tv_sec + timeOutInMs.toNat / 1000
        + (t.tv_nsec + timeOutInMs.toNat % 1000 * 1000000) / 1000000000,
      (t.tv_nsec + timeOutInMs.toNat % 1000 * 1000000) % 1000000000,
      Nat.mod_lt _ (by decide)⟩
  else
    ⟨t.tv_sec + timeOutInMs.toNat / 1000, t.tv_nsec + timeOutInMs.toNat % 1000 * 1000000,
      Nat.lt_of_not_le h⟩

theorem Timespec.nanos_addMs (t : Timespec) (timeOutInMs : UInt32) :
    (t.addMs timeOutInMs).nanos = t.nanos + timeOutInMs.toNat * 1000000 := by
  unfold addMs
  split
  · simp only [nanos]
    omega
  · simp only [nanos]
    omega

/-- The future time of a delegate that is started `now`. -/
def BootTime.after (now : BootTime) (timeOutInMs : UInt32) : BootTime :=
  ⟨now.addMs timeOutInMs, by
    rw [Timespec.nanos_addMs]
    exact Nat.add_pos_left now.pos _⟩

/-- `LocTimerDelegate::ranks`: the sooner time ranks higher. -/
instance : LocRankable BootTime where
  ranks self timer :=
    let rank := toInt32 (timer.tv_sec - self.tv_sec)
    if rank = 0 then toInt32 (timer.tv_nsec - self.tv_nsec) else rank

/-! ## Timers, messages and threads -/

/-- A client's `LocTimer` object. -/
abbrev LocTimer := Nat

/-- The address of a delegate with the time that its constructor stores. -/
structure LocTimerDelegate where
  addr : Nat
  mFutureTime : BootTime
deriving DecidableEq

instance : LocRankable LocTimerDelegate where
  ranks self timer := LocRankable.ranks self.mFutureTime timer.mFutureTime

/-- The two containers: timers, and alarms that wake the CPU up. -/
inductive ContainerPtr where
  | mSwTimers | mHwTimers
deriving DecidableEq

inductive LocMsg where
  | msgTimerPush (container : ContainerPtr) (timer : LocTimerDelegate)
  | msgTimerRemove (container : ContainerPtr) (timer : LocTimerDelegate)
  | msgTimerExpire (container : ContainerPtr)
deriving DecidableEq

/-- The three actions of `LocTimerContainer::expire()`, in their order. -/
inductive PollAction where
  | disarm (container : ContainerPtr)
  | removePoll (container : ContainerPtr)
  | sendExpire (container : ContainerPtr)
deriving DecidableEq

/-- A heap of delegates with the state the kernel keeps for its timerfd. -/
structure LocTimerContainer extends LocHeap LocTimerDelegate where
  /-- The container is created on demand, with a timerfd. -/
  created : Bool
  /-- The time the timerfd is set to; it stays readable from then on. -/
  armed : Option Timespec
  /-- The timerfd is in the epoll set. -/
  polled : Bool

/-- A call of `timeOutCallback`, with the delegate that ran out. -/
structure TimerCallback where
  client : LocTimer
  timer : LocTimerDelegate
  time : BootTime

structure TimerService where
  now : BootTime
  container : ContainerPtr → LocTimerContainer
  mTimer : LocTimer → Option LocTimerDelegate
  /-- The client of the delegate at an address. -/
  mClient : Nat → Option LocTimer
  /-- The container of the delegate at an address. -/
  mContainer : Nat → Option ContainerPtr
  /-- The next address that `new` returns. -/
  nextAddr : Nat
  mQ : List LocMsg
  /-- What the poll thread has still to do before it waits again. -/
  pollThread : List PollAction
  callbacks : List TimerCallback
  deleted : List LocTimerDelegate

/-- What clients do, from their own threads or from a callback. -/
inductive TimerCall where
  /-- `timerfdCreated`: a timerfd can be had, if this call creates the container. -/
  | start (client : LocTimer) (timeOutInMs : UInt32) (wakeOnExpire timerfdCreated : Bool)
  | stop (client : LocTimer)
deriving DecidableEq

/-! ## LocTimerContainer -/

namespace LocTimerContainer

def new : LocTimerContainer := ⟨.new, false, none, false⟩

def addPoll (c : LocTimerContainer) : LocTimerContainer := { c with polled := true }

def removePoll (c : LocTimerContainer) : LocTimerContainer := { c with polled := false }

/-- `timerfd_settime` with an absolute time; the zero value disarms. -/
def settime (c : LocTimerContainer) (it_value : Timespec) : LocTimerContainer :=
  { c with armed := if it_value = .zero then none else some it_value }

def getSoonestTimer (c : LocTimerContainer) : Option LocTimerDelegate := c.peek

def updateSoonestTime (c : LocTimerContainer) (priorTop : Option LocTimerDelegate) :
    LocTimerContainer :=
  if c.getSoonestTimer = priorTop then c
  else
    match c.getSoonestTimer, priorTop with
    | none, _ => c.removePoll.settime .zero
    | some curTop, none => c.addPoll.settime curTop.mFutureTime.toTimespec
    | some curTop, some prior =>
      if outRanks curTop prior then c.addPoll.settime curTop.mFutureTime.toTimespec else c

def withHeap (c : LocTimerContainer) (h : LocHeap LocTimerDelegate) : LocTimerContainer :=
  { c with toLocHeap := h }

/-- `MsgTimerPush::proc`. -/
def procPush (c : LocTimerContainer) (timer : LocTimerDelegate) : LocTimerContainer :=
  (c.withHeap (c.push timer)).updateSoonestTime c.getSoonestTimer

/-- `MsgTimerRemove::proc`, up to the `delete`. -/
def procRemove (c : LocTimerContainer) (timer : LocTimerDelegate) : LocTimerContainer :=
  let removed := c.remove timer
  if c.getSoonestTimer = removed.2 then (c.withHeap removed.1).updateSoonestTime none
  else c.withHeap removed.1

/-- `popIfOutRanks`: pop unless `timerOfNow` outranks the top. -/
def popIfOutRanks (c : LocTimerContainer) (timerOfNow : BootTime) :
    LocTimerContainer × Option LocTimerDelegate :=
  match c.getSoonestTimer with
  | none => (c, none)
  | some top =>
    if outRanks timerOfNow top.mFutureTime then (c, none) else (c.withHeap c.pop.1, c.pop.2)

end LocTimerContainer

/-! ## LocTimer and LocTimerDelegate -/

namespace TimerService

/-- Nothing runs and the containers are not created. -/
def new (now : BootTime) : TimerService :=
  ⟨now, fun _ => .new, fun _ => none, fun _ => none, fun _ => none, 0, [], [], [], []⟩

def setContainer (s : TimerService) (p : ContainerPtr) (c : LocTimerContainer) : TimerService :=
  { s with container := Function.update s.container p c }

def sendMsg (s : TimerService) (msg : LocMsg) : TimerService := { s with mQ := s.mQ ++ [msg] }

/-- `LocTimerContainer::get`, which may create the container. -/
def get (s : TimerService) (p : ContainerPtr) (timerfdCreated : Bool) : Option TimerService :=
  if (s.container p).created then some s
  else if timerfdCreated then some (s.setContainer p { s.container p with created := true })
  else none

/-- The constructor of the delegate, and the assignment to the client's `mTimer`. -/
def newDelegate (s : TimerService) (client : LocTimer) (time : BootTime) (p : ContainerPtr) :
    TimerService :=
  let timer : LocTimerDelegate := ⟨s.nextAddr, time⟩
  { s with
      mClient := Function.update s.mClient timer.addr (some client)
      mContainer := Function.update s.mContainer timer.addr (some p)
      mTimer := Function.update s.mTimer client (some timer)
      nextAddr := s.nextAddr + 1
      mQ := s.mQ ++ [.msgTimerPush p timer] }

def start (s : TimerService) (client : LocTimer) (timeOutInMs : UInt32)
    (wakeOnExpire timerfdCreated : Bool) : TimerService × Bool :=
  match s.mTimer client with
  | some _ => (s, false)
  | none =>
    let p := if wakeOnExpire then ContainerPtr.mHwTimers else ContainerPtr.mSwTimers
    match s.get p timerfdCreated with
    | none => (s, false)
    | some s => (s.newDelegate client (s.now.after timeOutInMs) p, true)

def destroyLocked (s : TimerService) (timer : LocTimerDelegate) : TimerService :=
  let s := { s with mClient := Function.update s.mClient timer.addr none }
  match s.mContainer timer.addr with
  | none => s
  | some p =>
    { s with mContainer := Function.update s.mContainer timer.addr none }.sendMsg
      (.msgTimerRemove p timer)

def stop (s : TimerService) (client : LocTimer) : TimerService × Bool :=
  match s.mTimer client with
  | none => (s, false)
  | some timer => ({ s with mTimer := Function.update s.mTimer client none }.destroyLocked timer, true)

def call (s : TimerService) : TimerCall → TimerService
  | .start client timeOutInMs wakeOnExpire timerfdCreated =>
    (s.start client timeOutInMs wakeOnExpire timerfdCreated).1
  | .stop client => (s.stop client).1

/-- What a callback does: it is recorded, and makes its calls. -/
def timeOutCallback (s : TimerService) (client : LocTimer) (timer : LocTimerDelegate)
    (calls : List TimerCall) : TimerService :=
  calls.foldl call { s with callbacks := s.callbacks ++ [⟨client, timer, s.now⟩] }

/-- `LocTimerDelegate::expire`; `script` holds the calls that the next callbacks
make, and what is left of it is handed on. -/
def expireDelegate (s : TimerService) (timer : LocTimerDelegate)
    (script : List (List TimerCall)) : TimerService × List (List TimerCall) :=
  match s.mClient timer.addr with
  | none => (s, script)
  | some client =>
    if (s.stop client).2 then
      ((s.stop client).1.timeOutCallback client timer (script.headD []), script.tail)
    else ((s.stop client).1, script)

/-! ## Messages and threads -/

/-- The rounds of the loop in `MsgTimerExpire::proc` after the first. Callbacks
only post pushes, so the heap gets smaller with each round. -/
def drain (p : ContainerPtr) (timerOfNow : BootTime) :
    Nat → TimerService → List (List TimerCall) → TimerService
  | 0, s, _ => s
  | rounds + 1, s, script =>
    let popped := (s.container p).popIfOutRanks timerOfNow
    match popped.2 with
    | none => s
    | some timer =>
      let expired := (s.setContainer p popped.1).expireDelegate timer script
      drain p timerOfNow rounds expired.1 expired.2

/-- `MsgTimerExpire::proc`. The first pop does not look at the time. -/
def procExpire (s : TimerService) (p : ContainerPtr) (script : List (List TimerCall)) :
    TimerService :=
  let c := s.container p
  let drained := match c.pop.2 with
    | none => s
    | some timer =>
      let expired := (s.setContainer p (c.withHeap c.pop.1)).expireDelegate timer script
      drain p s.now c.elems.length expired.1 expired.2
  drained.setContainer p ((drained.container p).updateSoonestTime none)

/-- One message; `script` holds the calls its callbacks make. -/
def proc (s : TimerService) (script : List (List TimerCall)) : LocMsg → TimerService
  | .msgTimerPush p timer => s.setContainer p ((s.container p).procPush timer)
  | .msgTimerRemove p timer =>
    { s.setContainer p ((s.container p).procRemove timer) with deleted := s.deleted ++ [timer] }
  | .msgTimerExpire p => s.procExpire p script

/-- `epoll_wait` reports the container. -/
def readable (s : TimerService) (p : ContainerPtr) : Bool :=
  (s.container p).polled && (s.container p).armed.any fun time => time ≤ s.now.toTimespec

def expireActions (p : ContainerPtr) : List PollAction := [.disarm p, .removePoll p, .sendExpire p]

def act (s : TimerService) : PollAction → TimerService
  | .disarm p => s.setContainer p ((s.container p).settime .zero)
  | .removePoll p => s.setContainer p (s.container p).removePoll
  | .sendExpire p => s.sendMsg (.msgTimerExpire p)

/-- What can happen next. -/
inductive TimerEvent where
  | call (call : TimerCall)
  | tick (time : BootTime)
  /-- `epoll_wait` returns with these containers. -/
  | pollWake (fired : List ContainerPtr)
  | pollAction
  /-- The message thread takes one message. -/
  | procMsg (script : List (List TimerCall))
deriving DecidableEq

/-- One step of the service; an event that cannot happen changes nothing. -/
def step (s : TimerService) : TimerEvent → TimerService
  | .call c => s.call c
  | .tick time => if s.now.toTimespec ≤ time.toTimespec then { s with now := time } else s
  | .pollWake fired =>
    if s.pollThread = [] ∧ fired.Nodup ∧ ∀ p ∈ fired, s.readable p then
      { s with pollThread := fired.flatMap expireActions }
    else s
  | .pollAction =>
    match s.pollThread with
    | [] => s
    | action :: rest => { s with pollThread := rest }.act action
  | .procMsg script =>
    match s.mQ with
    | [] => s
    | msg :: rest => { s with mQ := rest }.proc script msg

end TimerService

/-! ## Containers -/

namespace LocTimerContainer

@[simp] theorem toLocHeap_updateSoonestTime (c : LocTimerContainer)
    (priorTop : Option LocTimerDelegate) :
    (c.updateSoonestTime priorTop).toLocHeap = c.toLocHeap := by
  unfold updateSoonestTime
  split
  · rfl
  · split
    · rfl
    · rfl
    · split <;> rfl

theorem toLocHeap_procPush (c : LocTimerContainer) (timer : LocTimerDelegate) :
    (c.procPush timer).toLocHeap = c.push timer :=
  toLocHeap_updateSoonestTime _ _

theorem toLocHeap_procRemove (c : LocTimerContainer) (timer : LocTimerDelegate) :
    (c.procRemove timer).toLocHeap = (c.remove timer).1 := by
  unfold procRemove
  dsimp only
  split
  · exact toLocHeap_updateSoonestTime _ _
  · rfl

/-- What `popIfOutRanks` pops is the top, and not in the future of `timerOfNow`. -/
theorem popIfOutRanks_some {c : LocTimerContainer} {timerOfNow : BootTime}
    {timer : LocTimerDelegate} (h : (c.popIfOutRanks timerOfNow).2 = some timer) :
    c.peek = some timer ∧ outRanks timerOfNow timer.mFutureTime = false ∧
      (c.popIfOutRanks timerOfNow).1 = c.withHeap c.pop.1 := by
  unfold popIfOutRanks getSoonestTimer at h ⊢
  cases htop : c.peek with
  | none => simp [htop] at h
  | some top =>
    simp only [htop] at h ⊢
    by_cases ho : outRanks timerOfNow top.mFutureTime = true
    · simp [ho] at h
    · simp only [ho, c.pop_snd, htop] at h ⊢
      obtain rfl : top = timer := Option.some.inj h
      exact ⟨rfl, by simpa using ho, rfl⟩

end LocTimerContainer

/-! ## What calls and callbacks leave alone -/

namespace TimerService

/-- From `s` to `s'` the containers in `P` keep their heap and their timerfd,
no heap gains an element, and the queue and the callbacks only get longer. -/
structure Untouched (P : ContainerPtr → Prop) (s s' : TimerService) : Prop where
  now : s'.now = s.now
  pollThread : s'.pollThread = s.pollThread
  mQ : s.mQ <+: s'.mQ
  callbacks : s.callbacks <+: s'.callbacks
  heap : ∀ p, P p → (s'.container p).toLocHeap = (s.container p).toLocHeap
  armed : ∀ p, P p → (s'.container p).armed = (s.container p).armed
  polled : ∀ p, P p → (s'.container p).polled = (s.container p).polled
  elems : ∀ p, (s'.container p).elems ⊆ (s.container p).elems

namespace Untouched
variable {P : ContainerPtr → Prop} {s s' t : TimerService}

theorem refl (P : ContainerPtr → Prop) (s : TimerService) : Untouched P s s :=
  ⟨rfl, rfl, List.prefix_rfl, List.prefix_rfl, fun _ _ => rfl, fun _ _ => rfl, fun _ _ => rfl,
    fun _ => List.Subset.refl _⟩

theorem trans (h : Untouched P s s') (h' : Untouched P s' t) : Untouched P s t where
  now := h'.now.trans h.now
  pollThread := h'.pollThread.trans h.pollThread
  mQ := h.mQ.trans h'.mQ
  callbacks := h.callbacks.trans h'.callbacks
  heap p hp := (h'.heap p hp).trans (h.heap p hp)
  armed p hp := (h'.armed p hp).trans (h.armed p hp)
  polled p hp := (h'.polled p hp).trans (h.polled p hp)
  elems p := List.Subset.trans (h'.elems p) (h.elems p)

/-- Containers that are the same but for their creation. -/
theorem of_container (now : s'.now = s.now) (pollThread : s'.pollThread = s.pollThread)
    (mQ : s.mQ <+: s'.mQ) (callbacks : s.callbacks <+: s'.callbacks)
    (same : ∀ p, ∃ b, s'.container p = { s.container p with created := b }) :
    Untouched P s s' where
  now := now
  pollThread := pollThread
  mQ := mQ
  callbacks := callbacks
  heap p _ := by obtain ⟨b, hb⟩ := same p; rw [hb]
  armed p _ := by obtain ⟨b, hb⟩ := same p; rw [hb]
  polled p _ := by obtain ⟨b, hb⟩ := same p; rw [hb]
  elems p := by obtain ⟨b, hb⟩ := same p; rw [hb]; exact List.Subset.refl _

end Untouched

@[simp] theorem container_setContainer_self (s : TimerService) (p : ContainerPtr)
    (c : LocTimerContainer) : (s.setContainer p c).container p = c := by
  simp [setContainer]

@[simp] theorem container_setContainer_ne (s : TimerService) {p k : ContainerPtr}
    (c : LocTimerContainer) (h : k ≠ p) : (s.setContainer p c).container k = s.container k := by
  simp [setContainer, h]

section
variable {P : ContainerPtr → Prop}

/-- A container that is had is there, or has just been created. -/
theorem get_some {s s' : TimerService} {p : ContainerPtr} {b : Bool} (h : s.get p b = some s') :
    s' = s ∨ s' = s.setContainer p { s.container p with created := true } := by
  unfold get at h
  split at h
  · exact Or.inl (Option.some.inj h).symm
  · split at h
    · exact Or.inr (Option.some.inj h).symm
    · cases h

theorem untouched_get {s s' : TimerService} {p : ContainerPtr} {b : Bool}
    (h : s.get p b = some s') : Untouched P s s' := by
  rcases get_some h with rfl | rfl
  · exact .refl P s'
  · refine .of_container rfl rfl List.prefix_rfl List.prefix_rfl fun k => ?_
    by_cases hk : k = p
    · subst hk
      exact ⟨true, container_setContainer_self _ _ _⟩
    · exact ⟨_, container_setContainer_ne _ _ hk⟩

theorem untouched_start (s : TimerService) (client : LocTimer) (ms : UInt32) (wake b : Bool) :
    Untouched P s (s.start client ms wake b).1 := by
  unfold start
  split
  · exact .refl P s
  · dsimp only
    split
    · exact .refl P s
    · rename_i s' hget
      refine (untouched_get hget).trans ?_
      exact .of_container rfl rfl (List.prefix_append _ _) List.prefix_rfl fun p => ⟨_, rfl⟩

theorem untouched_stop (s : TimerService) (client : LocTimer) :
    Untouched P s (s.stop client).1 := by
  unfold stop destroyLocked
  split
  · exact .refl P s
  · dsimp only
    split
    · exact .of_container rfl rfl List.prefix_rfl List.prefix_rfl fun p => ⟨_, rfl⟩
    · exact .of_container rfl rfl (List.prefix_append _ _) List.prefix_rfl fun p => ⟨_, rfl⟩

theorem untouched_call (s : TimerService) (c : TimerCall) : Untouched P s (s.call c) := by
  cases c with
  | start client ms wake b => exact s.untouched_start client ms wake b
  | stop client => exact s.untouched_stop client

theorem untouched_timeOutCallback (s : TimerService) (client : LocTimer)
    (timer : LocTimerDelegate) (calls : List TimerCall) :
    Untouched P s (s.timeOutCallback client timer calls) := by
  have hcalls : ∀ s : TimerService, Untouched P s (calls.foldl call s) := by
    induction calls with
    | nil => exact fun s => .refl P s
    | cons c calls ih => exact fun s => (s.untouched_call c).trans (ih (s.call c))
  refine Untouched.trans ?_ (hcalls _)
  exact .of_container rfl rfl List.prefix_rfl (List.prefix_append _ _) fun p => ⟨_, rfl⟩

theorem untouched_expireDelegate (s : TimerService) (timer : LocTimerDelegate)
    (script : List (List TimerCall)) : Untouched P s (s.expireDelegate timer script).1 := by
  unfold expireDelegate
  split
  · exact .refl P s
  · rename_i client hclient
    split
    · exact (s.untouched_stop client).trans (untouched_timeOutCallback _ _ _ _)
    · exact s.untouched_stop client

/-- A new state of one container, with no new elements, leaves the other alone. -/
theorem untouched_setContainer (s : TimerService) (p : ContainerPtr) {c : LocTimerContainer}
    (hc : c.elems ⊆ (s.container p).elems) : Untouched (· ≠ p) s (s.setContainer p c) where
  now := rfl
  pollThread := rfl
  mQ := List.prefix_rfl
  callbacks := List.prefix_rfl
  heap k hk := by rw [container_setContainer_ne _ _ hk]
  armed k hk := by rw [container_setContainer_ne _ _ hk]
  polled k hk := by rw [container_setContainer_ne _ _ hk]
  elems k := by
    by_cases hk : k = p
    · subst hk
      rw [container_setContainer_self]
      exact hc
    · rw [container_setContainer_ne _ _ hk]
      exact List.Subset.refl _

theorem untouched_pop (s : TimerService) (p : ContainerPtr) :
    Untouched (· ≠ p) s (s.setContainer p ((s.container p).withHeap (s.container p).pop.1)) :=
  s.untouched_setContainer p
    (List.Subset.trans (s.container p).pop_elems.subset (List.tail_subset _))

theorem untouched_updateSoonestTime (s : TimerService) (p : ContainerPtr)
    (priorTop : Option LocTimerDelegate) : Untouched (· ≠ p) s
      (s.setContainer p ((s.container p).updateSoonestTime priorTop)) := by
  refine s.untouched_setContainer p ?_
  rw [LocTimerContainer.toLocHeap_updateSoonestTime]
  exact List.Subset.refl _

end

/-! ## The loop of one expiry message -/

/-- The rule for the loop: what a round preserves, with a popped timer that
`timerOfNow` does not outrank, holds after the loop. -/
theorem drain_rule {I : TimerService → Prop} {p : ContainerPtr} {timerOfNow : BootTime}
    (hround : ∀ s timer script, I s → (s.container p).peek = some timer →
      outRanks timerOfNow timer.mFutureTime = false →
      I ((s.setContainer p ((s.container p).withHeap (s.container p).pop.1)).expireDelegate
        timer script).1) (rounds : Nat) :
    ∀ (s : TimerService) (script : List (List TimerCall)), I s →
      I (drain p timerOfNow rounds s script) := by
  induction rounds with
  | zero => exact fun s _ hi => hi
  | succ rounds ih =>
    intro s script hi
    rw [drain]
    dsimp only
    split
    · exact hi
    · rename_i timer hpop
      obtain ⟨htop, hnow, hheap⟩ := LocTimerContainer.popIfOutRanks_some hpop
      rw [hheap]
      exact ih _ _ (hround s timer script hi htop hnow)

theorem untouched_drain (p : ContainerPtr) (timerOfNow : BootTime) (rounds : Nat)
    (s : TimerService) (script : List (List TimerCall)) :
    Untouched (· ≠ p) s (drain p timerOfNow rounds s script) := by
  refine drain_rule (I := Untouched (· ≠ p) s) (fun t timer script ht _ _ => ?_) rounds s script
    (.refl _ s)
  exact (ht.trans (t.untouched_pop p)).trans (untouched_expireDelegate _ _ _)

/-- An expiry message leaves the other container alone. -/
theorem untouched_procExpire (s : TimerService) (p : ContainerPtr)
    (script : List (List TimerCall)) : Untouched (· ≠ p) s (s.procExpire p script) := by
  unfold procExpire
  dsimp only
  refine Untouched.trans ?_ (untouched_updateSoonestTime _ _ _)
  split
  · exact .refl _ s
  · exact ((s.untouched_pop p).trans (untouched_expireDelegate _ _ _)).trans
      (untouched_drain _ _ _ _ _)

/-- With a round for every element the loop ends where the source's does: there
is nothing left to pop. -/
theorem drain_done (p : ContainerPtr) (timerOfNow : BootTime) (rounds : Nat) :
    ∀ (s : TimerService) (script : List (List TimerCall)), (s.container p).elems.length ≤ rounds →
      (((drain p timerOfNow rounds s script).container p).popIfOutRanks timerOfNow).2 = none := by
  induction rounds with
  | zero =>
    intro s script hlen
    have hnull : (s.container p).peek = none := by
      cases htop : (s.container p).peek with
      | none => rfl
      | some top =>
        have helems : (s.container p).elems = _ := LocHeapNode.elems_of_top htop
        rw [helems] at hlen
        simp at hlen
    show ((s.container p).popIfOutRanks timerOfNow).2 = none
    simp only [LocTimerContainer.popIfOutRanks, LocTimerContainer.getSoonestTimer, hnull]
  | succ rounds ih =>
    intro s script hlen
    rw [drain]
    dsimp only
    split
    · assumption
    · rename_i timer hpop
      obtain ⟨htop, -, hheap⟩ := LocTimerContainer.popIfOutRanks_some hpop
      refine ih _ _ ?_
      have hsame := (untouched_expireDelegate (P := fun _ => True)
        (s.setContainer p ((s.container p).popIfOutRanks timerOfNow).1) timer script).heap p trivial
      have hlen' := (s.container p).pop_elems.length_eq
      rw [hsame, container_setContainer_self, hheap]
      show (s.container p).pop.1.elems.length ≤ rounds
      rw [hlen', List.length_tail]
      omega

/-- What the loop of an expiry message leaves on top is in the future. -/
theorem procExpire_done (s : TimerService) (p : ContainerPtr) (script : List (List TimerCall)) :
    (((s.procExpire p script).container p).popIfOutRanks s.now).2 = none := by
  have hupdate : ∀ c : LocTimerContainer, ((c.updateSoonestTime none).popIfOutRanks s.now).2 =
      (c.popIfOutRanks s.now).2 := by
    intro c
    unfold LocTimerContainer.popIfOutRanks LocTimerContainer.getSoonestTimer
    rw [LocTimerContainer.toLocHeap_updateSoonestTime]
    cases c.peek with
    | none => rfl
    | some top =>
      dsimp only
      split <;> rfl
  unfold procExpire
  dsimp only
  rw [container_setContainer_self, hupdate]
  have hsnd := (s.container p).pop_snd
  split
  · rename_i hpop
    rw [hpop] at hsnd
    simp only [LocTimerContainer.popIfOutRanks, LocTimerContainer.getSoonestTimer, ← hsnd]
  · rename_i timer _
    refine drain_done p s.now _ _ _ ?_
    have hheap := (untouched_expireDelegate (P := fun _ => True) (s.setContainer p
      ((s.container p).withHeap (s.container p).pop.1)) timer script).heap p trivial
    have hlen := (s.container p).pop_elems.length_eq
    rw [hheap, container_setContainer_self]
    show (s.container p).pop.1.elems.length ≤ _
    rw [hlen, List.length_tail]
    omega

end TimerService

end DeviceHal.Utils.LocTimers
