import DeviceHal.Utils.LocTimers

/-! # No lost wake-up

The poll thread disarms and unpolls a timerfd while the message thread arms it
for other timers. What keeps the timers alive is the message that the poll
thread posts last: whenever a timerfd may have been disarmed under a non-empty
heap, an expiry message is queued or still to be posted, and its processing
arms the timerfd again. -/
namespace DeviceHal.Utils.TimerWakeups
open DeviceHal.Lib.Run DeviceHal.Utils.RankHeap DeviceHal.Utils.LocTimers
open DeviceHal.Utils.LocTimers.TimerService

/-- The timerfd is in the epoll set and set no later than the timer's time. -/
def ArmedFor (c : LocTimerContainer) (timer : LocTimerDelegate) : Prop :=
  c.polled = true ∧ ∃ time, c.armed = some time ∧ time ≤ timer.mFutureTime.toTimespec

/-- An expiry message is queued, or the poll thread is yet to post one. -/
def Notified (s : TimerService) (p : ContainerPtr) : Prop :=
  .msgTimerExpire p ∈ s.mQ ∨ .sendExpire p ∈ s.pollThread

/-- If the heap is not empty, its top is waited for. -/
def WakesUp (s : TimerService) (p : ContainerPtr) : Prop :=
  ∀ top, (s.container p).peek = some top → ArmedFor (s.container p) top ∨ Notified s p

/-- The poll thread posts a message after it has disarmed or unpolled. -/
def EndsInSend : List PollAction → Prop
  | [] => True
  | .disarm p :: rest => .sendExpire p ∈ rest ∧ EndsInSend rest
  | .removePoll p :: rest => .sendExpire p ∈ rest ∧ EndsInSend rest
  | .sendExpire _ :: rest => EndsInSend rest

/-! ## Arming -/

theorem armedFor_settime (c : LocTimerContainer) (timer : LocTimerDelegate) :
    ArmedFor (c.addPoll.settime timer.mFutureTime.toTimespec) timer := by
  have hpos := timer.mFutureTime.pos
  have hne : timer.mFutureTime.toTimespec ≠ .zero := by
    intro h
    rw [h] at hpos
    exact absurd hpos (by decide)
  refine ⟨rfl, timer.mFutureTime.toTimespec, if_neg hne, ?_⟩
  exact Nat.le_refl _

/-- With no prior top to compare with, a top that exists is armed. -/
theorem armedFor_updateSoonestTime {c : LocTimerContainer} {top : LocTimerDelegate}
    (htop : c.peek = some top) : ArmedFor (c.updateSoonestTime none) top := by
  unfold LocTimerContainer.updateSoonestTime LocTimerContainer.getSoonestTimer
  rw [if_neg (by simp [htop])]
  simp only [htop]
  exact armedFor_settime c top

/-- The top and the timerfd are as they were. -/
def SameTop (c c' : LocTimerContainer) (top : LocTimerDelegate) : Prop :=
  c.peek = some top ∧ c'.polled = c.polled ∧ c'.armed = c.armed

/-- A push leaves the top alone, or arms the timerfd for the new one. -/
theorem procPush_top {c : LocTimerContainer} {timer top : LocTimerDelegate}
    (htop : (c.procPush timer).peek = some top) :
    ArmedFor (c.procPush timer) top ∨ SameTop c (c.procPush timer) top := by
  have hpeek : (c.push timer).peek = some top := by
    rw [← c.toLocHeap_procPush timer]
    exact htop
  have hcur : (c.withHeap (c.push timer)).getSoonestTimer = some top := hpeek
  rw [LocHeap.peek_push] at hpeek
  unfold LocTimerContainer.procPush
  cases hprior : c.getSoonestTimer with
  | none =>
    left
    exact armedFor_updateSoonestTime hcur
  | some prior =>
    have hp : c.peek = some prior := hprior
    simp only [hp, Option.some.injEq] at hpeek
    unfold LocTimerContainer.updateSoonestTime
    simp only [hcur, Option.some.injEq]
    by_cases hsame : top = prior
    · right
      rw [if_pos hsame]
      exact ⟨hsame ▸ hp, rfl, rfl⟩
    · left
      have hout : outRanks top prior = true := by
        by_contra hno
        split at hpeek
        · rename_i ho
          exact hno (hpeek ▸ ho)
        · exact hsame hpeek.symm
      rw [if_neg hsame, if_pos hout]
      exact armedFor_settime _ top

/-- A removal leaves the top alone, or arms the timerfd for the next one. -/
theorem procRemove_top {c : LocTimerContainer} {timer top : LocTimerDelegate}
    (htop : (c.procRemove timer).peek = some top) :
    ArmedFor (c.procRemove timer) top ∨ SameTop c (c.procRemove timer) top := by
  have hpeek : (c.withHeap (c.remove timer).1).peek = some top := by
    show (c.remove timer).1.peek = some top
    rw [← c.toLocHeap_procRemove timer]
    exact htop
  unfold LocTimerContainer.procRemove
  dsimp only
  split
  · left
    exact armedFor_updateSoonestTime hpeek
  · rename_i hne
    right
    have hkeep : (c.remove timer).1.peek = c.peek := by
      rcases c.remove_cases timer with ⟨-, hh⟩ | ⟨hr, -⟩
      · rw [hh]
      · exact LocHeap.peek_remove fun hp => hne (hp.trans hr.symm)
    exact ⟨hkeep ▸ hpeek, rfl, rfl⟩

/-! ## Steps -/

/-- A step that keeps the notices, and arms what it puts on top. -/
theorem WakesUp.keep {s s' : TimerService} {p : ContainerPtr} (h : WakesUp s p)
    (hn : Notified s p → Notified s' p)
    (hc : ∀ top, (s'.container p).peek = some top →
      ArmedFor (s'.container p) top ∨ SameTop (s.container p) (s'.container p) top) :
    WakesUp s' p := by
  intro top htop
  rcases hc top htop with harm | ⟨hsame, hpoll, harm⟩
  · exact Or.inl harm
  · rcases h top hsame with ⟨hp, ha⟩ | hnot
    · exact Or.inl ⟨hpoll ▸ hp, harm ▸ ha⟩
    · exact Or.inr (hn hnot)

/-- A step that does not touch the container. -/
theorem WakesUp.frame {s s' : TimerService} {p : ContainerPtr} (h : WakesUp s p)
    (hn : Notified s p → Notified s' p) (hc : s'.container p = s.container p) : WakesUp s' p :=
  h.keep hn fun _ htop => Or.inr ⟨hc ▸ htop, by rw [hc], by rw [hc]⟩

theorem WakesUp.untouched {P : ContainerPtr → Prop} {s s' : TimerService} {p : ContainerPtr}
    (h : WakesUp s p) (hu : Untouched P s s') (hp : P p) : WakesUp s' p := by
  refine h.keep (fun hn => ?_) fun top htop => Or.inr ⟨?_, hu.polled p hp, hu.armed p hp⟩
  · unfold Notified
    rw [hu.pollThread]
    exact hn.imp (fun hq => hu.mQ.subset hq) id
  · have hheap := hu.heap p hp
    show (s.container p).toLocHeap.peek = some top
    rw [← hheap]
    exact htop

/-- Another container's update. -/
theorem WakesUp.setContainer_ne {s : TimerService} {p k : ContainerPtr} (h : WakesUp s k)
    (c : LocTimerContainer) (hk : k ≠ p) : WakesUp (s.setContainer p c) k :=
  h.frame id (container_setContainer_ne s c hk)

theorem endsInSend_expireActions (fired : List ContainerPtr) :
    EndsInSend (fired.flatMap expireActions) := by
  induction fired with
  | nil => trivial
  | cons p fired ih =>
    rw [List.flatMap_cons]
    exact ⟨List.mem_append_left _ (by simp), List.mem_append_left _ (by simp), ih⟩

/-- The invariant: every heap is waited for, and the poll thread will post. -/
structure Live (s : TimerService) : Prop where
  wakes : ∀ p, WakesUp s p
  ends : EndsInSend s.pollThread

theorem live_new (now : BootTime) : Live (new now) :=
  ⟨fun _ _ htop => (nomatch htop), trivial⟩

theorem Live.act {s : TimerService} (h : Live s) {action : PollAction} {rest : List PollAction}
    (ht : s.pollThread = action :: rest) : Live ({ s with pollThread := rest }.act action) := by
  have hends := h.ends
  rw [ht] at hends
  have hother : ∀ k, action ≠ .sendExpire k → WakesUp s k →
      WakesUp { s with pollThread := rest } k := by
    intro k hne hw
    refine hw.frame (Or.imp_right fun hin => ?_) rfl
    rw [ht] at hin
    exact (List.mem_cons.mp hin).resolve_left (Ne.symm hne)
  cases action with
  | disarm p =>
    refine ⟨fun k => ?_, hends.2⟩
    by_cases hk : k = p
    · exact fun _ _ => Or.inr (Or.inr (hk ▸ hends.1))
    · exact (hother k (by simp) (h.wakes k)).setContainer_ne _ hk
  | removePoll p =>
    refine ⟨fun k => ?_, hends.2⟩
    by_cases hk : k = p
    · exact fun _ _ => Or.inr (Or.inr (hk ▸ hends.1))
    · exact (hother k (by simp) (h.wakes k)).setContainer_ne _ hk
  | sendExpire p =>
    refine ⟨fun k => (h.wakes k).frame (fun hn => ?_) rfl, hends⟩
    rcases hn with hq | hin
    · exact Or.inl (List.mem_append_left _ hq)
    · rw [ht] at hin
      rcases List.mem_cons.mp hin with heq | hin
      · left
        have hkp : k = p := by cases heq; rfl
        exact List.mem_append_right _ (by simp [hkp])
      · exact Or.inr hin

/-- The end of an expiry message arms the timerfd whatever the loop has left. -/
theorem wakesUp_procExpire (s : TimerService) (p : ContainerPtr)
    (script : List (List TimerCall)) : WakesUp (s.procExpire p script) p := by
  intro top htop
  unfold procExpire at htop ⊢
  dsimp only at htop ⊢
  rw [container_setContainer_self] at htop ⊢
  left
  refine armedFor_updateSoonestTime ?_
  rw [LocTimerContainer.toLocHeap_updateSoonestTime] at htop
  exact htop

theorem Live.proc {s : TimerService} (h : Live s) (script : List (List TimerCall)) {msg : LocMsg}
    {rest : List LocMsg} (hq : s.mQ = msg :: rest) :
    Live ({ s with mQ := rest }.proc script msg) := by
  have hother : ∀ k, msg ≠ .msgTimerExpire k → Notified s k → Notified { s with mQ := rest } k := by
    intro k hne hn
    refine hn.imp_left fun hin => ?_
    rw [hq] at hin
    exact (List.mem_cons.mp hin).resolve_left (Ne.symm hne)
  cases msg with
  | msgTimerPush p timer =>
    refine ⟨fun k => (h.wakes k).keep (hother k (by simp)) fun top htop => ?_, h.ends⟩
    by_cases hk : k = p
    · subst hk
      simp only [TimerService.proc, container_setContainer_self] at htop ⊢
      exact procPush_top htop
    · simp only [TimerService.proc, container_setContainer_ne _ _ hk] at htop ⊢
      exact Or.inr ⟨htop, rfl, rfl⟩
  | msgTimerRemove p timer =>
    refine ⟨fun k => (h.wakes k).keep (hother k (by simp)) fun top htop => ?_, h.ends⟩
    by_cases hk : k = p
    · subst hk
      simp only [TimerService.proc, container_setContainer_self] at htop ⊢
      exact procRemove_top htop
    · simp only [TimerService.proc, container_setContainer_ne _ _ hk] at htop ⊢
      exact Or.inr ⟨htop, rfl, rfl⟩
  | msgTimerExpire p =>
    have hu := untouched_procExpire { s with mQ := rest } p script
    refine ⟨fun k => ?_, ?_⟩
    · by_cases hk : k = p
      · subst hk
        exact wakesUp_procExpire _ _ _
      · have hw : WakesUp { s with mQ := rest } k :=
          (h.wakes k).frame (hother k fun hh => hk (by cases hh; rfl)) rfl
        exact hw.untouched hu hk
    · show EndsInSend (procExpire { s with mQ := rest } p script).pollThread
      rw [hu.pollThread]
      exact h.ends

theorem live_step {s : TimerService} (h : Live s) (e : TimerEvent) : Live (s.step e) := by
  cases e with
  | call c =>
    have hu : Untouched (fun _ => True) s (s.call c) := s.untouched_call c
    refine ⟨fun p => (h.wakes p).untouched hu trivial, ?_⟩
    show EndsInSend (s.call c).pollThread
    rw [hu.pollThread]
    exact h.ends
  | tick time =>
    unfold step
    dsimp only
    split
    · exact ⟨fun p => (h.wakes p).frame id rfl, h.ends⟩
    · exact h
  | pollWake fired =>
    unfold step
    dsimp only
    split
    · rename_i hen
      refine ⟨fun p => (h.wakes p).frame (Or.imp_right fun hin => ?_) rfl,
        endsInSend_expireActions fired⟩
      rw [hen.1] at hin
      cases hin
    · exact h
  | pollAction =>
    unfold step
    dsimp only
    split
    · exact h
    · rename_i action rest ht
      exact h.act ht
  | procMsg script =>
    unfold step
    dsimp only
    split
    · exact h
    · rename_i msg rest hq
      exact h.proc script hq

/-- **No lost wake-up.** After any run, a container with a non-empty heap has
its timerfd polled and armed no later than its top, or an expiry message is
queued, or the poll thread is yet to post one. -/
theorem no_lost_wakeup (now : BootTime) (es : List TimerEvent) (p : ContainerPtr) :
    WakesUp (run step (new now) es) p := by
  have hlive : Live (run step (new now) es) :=
    inv_run_any (I := Live) (fun _ e h => live_step h e) es (live_new now)
  exact hlive.wakes p

end DeviceHal.Utils.TimerWakeups
