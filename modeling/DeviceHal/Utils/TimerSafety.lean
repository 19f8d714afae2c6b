import DeviceHal.Utils.LocTimers

/-! # No early callback

An expiry message pops the top of the heap without a look at the time and
compares the rest with the clock. The message waits in the queue behind pushes
and removals, so the top it finds need not be the timer that fired. The
callbacks of a run are on time exactly if each expiry message finds the heap
empty, a top that is due, or a top whose client has stopped it. -/
namespace DeviceHal.Utils.TimerSafety
open DeviceHal.Lib.Run DeviceHal.Utils.RankHeap DeviceHal.Utils.LocTimers
open DeviceHal.Utils.LocTimers.TimerService
open DeviceHal.Lib.CText (toInt32 toInt32_of_near)

/-- The future time of the delegate is not later than the clock. -/
def Due (now : BootTime) (timer : LocTimerDelegate) : Prop :=
  timer.mFutureTime.toTimespec ≤ now.toTimespec

instance (now : BootTime) (timer : LocTimerDelegate) : Decidable (Due now timer) :=
  inferInstanceAs (Decidable (_ ≤ _))

/-- Every callback so far came when its delegate was due. -/
def OnTime (s : TimerService) : Prop := ∀ cb ∈ s.callbacks, Due cb.time cb.timer

instance (s : TimerService) : Decidable (OnTime s) := inferInstanceAs (Decidable (∀ _ ∈ _, _))

/-- The first pop of an expiry message finds nothing, a delegate that is due, or
one that its client has stopped. -/
def FirstPopDue (s : TimerService) : TimerEvent → Prop
  | .procMsg _ => ∀ p, s.mQ.head? = some (.msgTimerExpire p) →
      ∀ top, (s.container p).peek = some top → Due s.now top ∨ s.mClient top.addr = none
  | _ => True

/-! ## The rank of the clock -/

/-- No timeout is longer than the milliseconds of an `unsigned int`. -/
def Near (now : BootTime) (timer : LocTimerDelegate) : Prop :=
  timer.mFutureTime.nanos ≤ now.nanos + 4294967296 * 1000000

theorem near_after (now : BootTime) (addr : Nat) (timeOutInMs : UInt32) :
    Near now ⟨addr, now.after timeOutInMs⟩ := by
  unfold Near
  show (now.addMs timeOutInMs).nanos ≤ _
  rw [Timespec.nanos_addMs]
  have hms : timeOutInMs.toNat < 4294967296 := timeOutInMs.toNat_lt
  omega

/-- What `timerOfNow` does not outrank is due: the two differ by too little for
the conversion to `int` to matter. -/
theorem due_of_not_outRanks {now : BootTime} {timer : LocTimerDelegate} (hn : Near now timer)
    (ho : outRanks now timer.mFutureTime = false) : Due now timer := by
  unfold Due
  rw [Timespec.le_def]
  by_contra hlate
  have hnow := now.nsec_lt
  have hfut := timer.mFutureTime.nsec_lt
  simp only [Near, Timespec.nanos] at hn hlate
  have hsec : toInt32 (timer.mFutureTime.tv_sec - now.tv_sec) =
      timer.mFutureTime.tv_sec - now.tv_sec := toInt32_of_near (by omega) (by omega)
  have hnsec : toInt32 (timer.mFutureTime.tv_nsec - now.tv_nsec) =
      timer.mFutureTime.tv_nsec - now.tv_nsec := toInt32_of_near (by omega) (by omega)
  have hrank : outRanks now timer.mFutureTime = true := by
    simp only [outRanks, LocRankable.ranks, hsec, hnsec, decide_eq_true_eq]
    split <;> omega
  rw [hrank] at ho
  cases ho

/-! ## What the bookkeeping keeps -/

/-- The pointers between clients and delegates agree, and no timer that waits
in a heap or in the queue is further away than a timeout can be. -/
structure Tracked (s : TimerService) : Prop where
  owner : ∀ client timer, s.mTimer client = some timer → s.mClient timer.addr = some client
  running : ∀ addr client, s.mClient addr = some client →
    ∃ timer, s.mTimer client = some timer ∧ timer.addr = addr
  fresh : ∀ addr client, s.mClient addr = some client → addr < s.nextAddr
  heap : ∀ p, ∀ timer ∈ (s.container p).elems, Near s.now timer
  queue : ∀ p timer, .msgTimerPush p timer ∈ s.mQ → Near s.now timer

theorem tracked_new (now : BootTime) : Tracked (new now) where
  owner _ _ h := nomatch h
  running _ _ h := nomatch h
  fresh _ _ h := nomatch h
  heap _ _ h := nomatch h
  queue _ _ h := nomatch h

/-- A container whose heap holds only timers that are near. -/
theorem Tracked.setContainer {s : TimerService} (h : Tracked s) (p : ContainerPtr)
    {c : LocTimerContainer} (hc : ∀ timer ∈ c.elems, Near s.now timer) :
    Tracked (s.setContainer p c) := by
  refine ⟨h.owner, h.running, h.fresh, fun k timer hin => ?_, h.queue⟩
  by_cases hk : k = p
  · subst hk
    rw [container_setContainer_self] at hin
    exact hc timer hin
  · rw [container_setContainer_ne _ _ hk] at hin
    exact h.heap k timer hin

/-- The queue without its first message. -/
theorem Tracked.dequeue {s : TimerService} (h : Tracked s) {msg : LocMsg} {rest : List LocMsg}
    (hq : s.mQ = msg :: rest) : Tracked { s with mQ := rest } := by
  refine ⟨h.owner, h.running, h.fresh, h.heap, fun p timer hin => h.queue p timer ?_⟩
  rw [hq]
  exact List.mem_cons_of_mem _ hin

theorem Tracked.newDelegate {s : TimerService} (h : Tracked s) {client : LocTimer}
    (hidle : s.mTimer client = none) (timeOutInMs : UInt32) (p : ContainerPtr) :
    Tracked (s.newDelegate client (s.now.after timeOutInMs) p) where
  owner c timer hc := by
    simp only [TimerService.newDelegate] at hc ⊢
    by_cases hcc : c = client
    · subst hcc
      rw [Function.update_self, Option.some.injEq] at hc
      rw [← hc, Function.update_self]
    · rw [Function.update_of_ne hcc] at hc
      have howner := h.owner c timer hc
      have hlt := h.fresh timer.addr c howner
      rw [Function.update_of_ne (by omega), howner]
  running addr c hc := by
    simp only [TimerService.newDelegate] at hc ⊢
    by_cases ha : addr = s.nextAddr
    · subst ha
      rw [Function.update_self, Option.some.injEq] at hc
      subst hc
      exact ⟨_, Function.update_self _ _ _, rfl⟩
    · rw [Function.update_of_ne ha] at hc
      obtain ⟨timer, ht, haddr⟩ := h.running addr c hc
      have hcc : c ≠ client := by
        intro hh
        rw [hh, hidle] at ht
        cases ht
      exact ⟨timer, by rw [Function.update_of_ne hcc, ht], haddr⟩
  fresh addr c hc := by
    simp only [TimerService.newDelegate] at hc ⊢
    by_cases ha : addr = s.nextAddr
    · omega
    · rw [Function.update_of_ne ha] at hc
      have hlt := h.fresh addr c hc
      omega
  heap := h.heap
  queue k timer hin := by
    rcases List.mem_append.mp hin with hin | hin
    · exact h.queue k timer hin
    · simp only [List.mem_singleton, LocMsg.msgTimerPush.injEq] at hin
      rw [hin.2]
      exact near_after _ _ _

/-- A stop that finds a delegate cuts the two pointers and posts a removal. -/
theorem stop_some {s : TimerService} {client : LocTimer} {timer : LocTimerDelegate}
    (h : s.mTimer client = some timer) :
    (s.stop client).2 = true ∧ (s.stop client).1.mTimer = Function.update s.mTimer client none ∧
      (s.stop client).1.mClient = Function.update s.mClient timer.addr none ∧
      (s.stop client).1.nextAddr = s.nextAddr ∧
      ∀ p t, .msgTimerPush p t ∈ (s.stop client).1.mQ → .msgTimerPush p t ∈ s.mQ := by
  unfold stop
  simp only [h, destroyLocked]
  split
  · exact ⟨trivial, rfl, rfl, rfl, fun _ _ hin => hin⟩
  · refine ⟨trivial, rfl, rfl, rfl, fun p t hin => ?_⟩
    rcases List.mem_append.mp hin with hin | hin
    · exact hin
    · simp at hin

theorem Tracked.stop {s : TimerService} (h : Tracked s) (client : LocTimer) :
    Tracked (s.stop client).1 := by
  cases ht : s.mTimer client with
  | none =>
    simp only [TimerService.stop, ht]
    exact h
  | some timer =>
    have hu := s.untouched_stop (P := fun _ => True) client
    obtain ⟨-, htimer, hclient, haddr, hqueue⟩ := stop_some ht
    have howner := h.owner client timer ht
    refine ⟨?_, ?_, ?_, ?_, ?_⟩
    · intro c t hc
      rw [htimer] at hc
      have hcc : c ≠ client := by
        intro hh
        rw [hh, Function.update_self] at hc
        cases hc
      rw [Function.update_of_ne hcc] at hc
      have hct := h.owner c t hc
      have hne : t.addr ≠ timer.addr := by
        intro hh
        rw [hh, howner] at hct
        exact hcc (Option.some.inj hct).symm
      rw [hclient, Function.update_of_ne hne, hct]
    · intro addr c hc
      rw [hclient] at hc
      have hne : addr ≠ timer.addr := by
        intro hh
        rw [hh, Function.update_self] at hc
        cases hc
      rw [Function.update_of_ne hne] at hc
      obtain ⟨t, hct, hat⟩ := h.running addr c hc
      have hcc : c ≠ client := by
        intro hh
        rw [hh, ht, Option.some.injEq] at hct
        exact hne (hct ▸ hat.symm)
      exact ⟨t, by rw [htimer, Function.update_of_ne hcc, hct], hat⟩
    · intro addr c hc
      rw [hclient] at hc
      have hne : addr ≠ timer.addr := by
        intro hh
        rw [hh, Function.update_self] at hc
        cases hc
      rw [Function.update_of_ne hne] at hc
      rw [haddr]
      exact h.fresh addr c hc
    · intro p t hin
      rw [hu.now]
      exact h.heap p t (hu.elems p hin)
    · intro p t hin
      rw [hu.now]
      exact h.queue p t (hqueue p t hin)

theorem Tracked.call {s : TimerService} (h : Tracked s) (c : TimerCall) : Tracked (s.call c) := by
  cases c with
  | stop client => exact h.stop client
  | start client ms wake b =>
    show Tracked (s.start client ms wake b).1
    unfold start
    split
    · exact h
    · rename_i hidle
      dsimp only
      split
      · exact h
      · rename_i s' hget
        obtain ⟨h', hidle'⟩ : Tracked s' ∧ s'.mTimer client = none := by
          rcases get_some hget with rfl | rfl
          · exact ⟨h, hidle⟩
          · exact ⟨h.setContainer _ fun timer hin => h.heap _ timer hin, hidle⟩
        exact h'.newDelegate hidle' ms _

theorem Tracked.calls {s : TimerService} (h : Tracked s) (calls : List TimerCall) :
    Tracked (calls.foldl TimerService.call s) := by
  induction calls generalizing s with
  | nil => exact h
  | cons c calls ih => exact ih (h.call c)

theorem Tracked.timeOutCallback {s : TimerService} (h : Tracked s) (client : LocTimer)
    (timer : LocTimerDelegate) (calls : List TimerCall) :
    Tracked (s.timeOutCallback client timer calls) := by
  have hs : Tracked { s with callbacks := s.callbacks ++ [⟨client, timer, s.now⟩] } :=
    ⟨h.owner, h.running, h.fresh, h.heap, h.queue⟩
  exact hs.calls calls

theorem Tracked.expireDelegate {s : TimerService} (h : Tracked s) (timer : LocTimerDelegate)
    (script : List (List TimerCall)) : Tracked (s.expireDelegate timer script).1 := by
  unfold TimerService.expireDelegate
  split
  · exact h
  · split
    · exact (h.stop _).timeOutCallback _ _ _
    · exact h.stop _

/-! ## Callbacks -/

theorem callbacks_stop (s : TimerService) (client : LocTimer) :
    (s.stop client).1.callbacks = s.callbacks := by
  unfold stop destroyLocked
  split
  · rfl
  · dsimp only
    split <;> rfl

theorem callbacks_call (s : TimerService) (c : TimerCall) :
    (s.call c).callbacks = s.callbacks := by
  cases c with
  | stop client => exact callbacks_stop s client
  | start client ms wake b =>
    show (s.start client ms wake b).1.callbacks = s.callbacks
    unfold start
    split
    · rfl
    · dsimp only
      split
      · rfl
      · rename_i s' hget
        rcases get_some hget with rfl | rfl <;> rfl

theorem callbacks_timeOutCallback (s : TimerService) (client : LocTimer)
    (timer : LocTimerDelegate) (calls : List TimerCall) :
    (s.timeOutCallback client timer calls).callbacks =
      s.callbacks ++ [⟨client, timer, s.now⟩] := by
  have hcalls : ∀ s : TimerService, (calls.foldl call s).callbacks = s.callbacks := by
    induction calls with
    | nil => exact fun _ => rfl
    | cons c calls ih => exact fun s => (ih (s.call c)).trans (callbacks_call s c)
  exact hcalls _

/-- A delegate that still has its client calls it back. -/
theorem callbacks_expireDelegate {s : TimerService} (h : Tracked s) {timer : LocTimerDelegate}
    {client : LocTimer} (hc : s.mClient timer.addr = some client)
    (script : List (List TimerCall)) :
    (s.expireDelegate timer script).1.callbacks = s.callbacks ++ [⟨client, timer, s.now⟩] := by
  obtain ⟨t, ht, -⟩ := h.running timer.addr client hc
  have hstop := (stop_some ht).1
  have hnow := (s.untouched_stop (P := fun _ => True) client).now
  unfold expireDelegate
  simp only [hc, hstop, if_true]
  rw [callbacks_timeOutCallback, callbacks_stop, hnow]

theorem onTime_expireDelegate {s : TimerService} (ht : Tracked s) (h : OnTime s)
    {timer : LocTimerDelegate} (hdue : Due s.now timer ∨ s.mClient timer.addr = none)
    (script : List (List TimerCall)) : OnTime (s.expireDelegate timer script).1 := by
  cases hc : s.mClient timer.addr with
  | none =>
    unfold expireDelegate
    simp only [hc]
    exact h
  | some client =>
    unfold OnTime
    rw [callbacks_expireDelegate ht hc script]
    intro cb hin
    rcases List.mem_append.mp hin with hin | hin
    · exact h cb hin
    · rw [List.mem_singleton.mp hin]
      exact hdue.resolve_right (by simp [hc])

/-- Nothing takes a callback back. -/
theorem OnTime.of_prefix {s s' : TimerService} (h : OnTime s') (hp : s.callbacks <+: s'.callbacks) :
    OnTime s :=
  fun cb hin => h cb (hp.subset hin)

/-! ## One expiry message -/

theorem Tracked.pop {s : TimerService} (h : Tracked s) (p : ContainerPtr) :
    Tracked (s.setContainer p ((s.container p).withHeap (s.container p).pop.1)) :=
  h.setContainer p fun timer hin =>
    h.heap p timer (List.mem_of_mem_tail ((s.container p).pop_elems.subset hin))

/-- The loop compares with the clock, so its callbacks are on time. -/
theorem onTime_drain {s : TimerService} (ht : Tracked s) (h : OnTime s) (p : ContainerPtr)
    (rounds : Nat) (script : List (List TimerCall)) :
    Tracked (drain p s.now rounds s script) ∧ OnTime (drain p s.now rounds s script) := by
  refine (drain_rule (I := fun t => (Tracked t ∧ OnTime t) ∧ t.now = s.now)
    (fun t timer script hi htop hout => ?_) rounds s script ⟨⟨ht, h⟩, rfl⟩).1
  obtain ⟨⟨ht, h⟩, hnow⟩ := hi
  have hin : timer ∈ (t.container p).elems := by
    rw [LocHeap.elems, LocHeapNode.elems_of_top htop]
    exact List.mem_cons_self
  have hdue : Due t.now timer := by
    rw [← hnow] at hout
    exact due_of_not_outRanks (ht.heap p timer hin) hout
  have hpop := ht.pop p
  refine ⟨⟨hpop.expireDelegate timer script, ?_⟩, ?_⟩
  · exact onTime_expireDelegate hpop h (Or.inl hdue) script
  · exact (untouched_expireDelegate (P := fun _ => True) _ timer script).now.trans hnow

theorem Tracked.updateSoonestTime {s : TimerService} (h : Tracked s) (p : ContainerPtr)
    (priorTop : Option LocTimerDelegate) :
    Tracked (s.setContainer p ((s.container p).updateSoonestTime priorTop)) := by
  refine h.setContainer p fun timer hin => h.heap p timer ?_
  rw [LocTimerContainer.toLocHeap_updateSoonestTime] at hin
  exact hin

theorem Tracked.procExpire {s : TimerService} (h : Tracked s) (p : ContainerPtr)
    (script : List (List TimerCall)) : Tracked (s.procExpire p script) := by
  unfold TimerService.procExpire
  dsimp only
  refine Tracked.updateSoonestTime ?_ p none
  split
  · exact h
  · rename_i timer _
    refine drain_rule (I := Tracked) (fun t timer script ht _ _ => ?_) _ _ _ ?_
    · exact (ht.pop p).expireDelegate timer script
    · exact (h.pop p).expireDelegate timer script

/-- The message is on time exactly if its first pop is. -/
theorem onTime_procExpire_iff {s : TimerService} (ht : Tracked s) (h : OnTime s) (p : ContainerPtr)
    (script : List (List TimerCall)) :
    OnTime (s.procExpire p script) ↔
      ∀ top, (s.container p).peek = some top → Due s.now top ∨ s.mClient top.addr = none := by
  have hpop := ht.pop p
  cases htop : (s.container p).peek with
  | none =>
    refine iff_of_true ?_ fun _ hh => nomatch hh
    have hsnd := (s.container p).pop_snd
    rw [htop] at hsnd
    simp only [TimerService.procExpire, hsnd]
    exact h
  | some top =>
    have hsnd := (s.container p).pop_snd
    rw [htop] at hsnd
    have hnow := (untouched_expireDelegate (P := fun _ => True)
      (s.setContainer p ((s.container p).withHeap (s.container p).pop.1)) top script).now
    simp only [TimerService.procExpire, hsnd, Option.some.injEq, forall_eq']
    constructor
    · intro hon
      by_contra hearly
      push Not at hearly
      obtain ⟨client, hc⟩ := Option.ne_none_iff_exists'.mp hearly.2
      have hfirst := OnTime.of_prefix hon (untouched_drain p s.now _ _ _).callbacks
      refine hearly.1 (hfirst ⟨client, top, s.now⟩ ?_)
      rw [callbacks_expireDelegate hpop hc script]
      exact List.mem_append_right _ List.mem_cons_self
    · intro hdue
      have hfirst := onTime_expireDelegate hpop h hdue script
      have hloop := onTime_drain (hpop.expireDelegate top script) hfirst p
        (s.container p).elems.length
        ((s.setContainer p ((s.container p).withHeap (s.container p).pop.1)).expireDelegate
          top script).2
      rw [hnow] at hloop
      exact hloop.2

/-! ## Runs -/

theorem Tracked.proc {s : TimerService} (h : Tracked s) (script : List (List TimerCall))
    {msg : LocMsg} {rest : List LocMsg} (hq : s.mQ = msg :: rest) :
    Tracked ({ s with mQ := rest }.proc script msg) := by
  have hrest := h.dequeue hq
  cases msg with
  | msgTimerPush p timer =>
    refine hrest.setContainer p fun t hin => ?_
    rw [LocTimerContainer.toLocHeap_procPush] at hin
    rcases List.mem_cons.mp ((LocHeap.push_elems _ _).subset hin) with rfl | hin
    · exact h.queue p t (by simp [hq])
    · exact h.heap p t hin
  | msgTimerRemove p timer =>
    have hset : Tracked ({ s with mQ := rest }.setContainer p
        ((s.container p).procRemove timer)) := by
      refine hrest.setContainer p fun t hin => ?_
      rw [LocTimerContainer.toLocHeap_procRemove] at hin
      rcases (s.container p).remove_cases timer with ⟨-, hh⟩ | ⟨-, hperm⟩
      · rw [hh] at hin
        exact h.heap p t hin
      · exact h.heap p t (hperm.symm.subset (List.mem_cons_of_mem _ hin))
    exact ⟨hset.owner, hset.running, hset.fresh, hset.heap, hset.queue⟩
  | msgTimerExpire p => exact hrest.procExpire p script

theorem Tracked.step {s : TimerService} (h : Tracked s) (e : TimerEvent) : Tracked (s.step e) := by
  cases e with
  | call c => exact h.call c
  | tick time =>
    unfold TimerService.step
    dsimp only
    split
    · rename_i hle
      have hlater : s.now.nanos ≤ time.nanos := hle
      have hnear : ∀ timer, Near s.now timer → Near time timer := by
        intro timer hn
        unfold Near at hn ⊢
        omega
      exact ⟨h.owner, h.running, h.fresh, fun p t hin => hnear t (h.heap p t hin),
        fun p t hin => hnear t (h.queue p t hin)⟩
    · exact h
  | pollWake fired =>
    unfold TimerService.step
    dsimp only
    split
    · exact ⟨h.owner, h.running, h.fresh, h.heap, h.queue⟩
    · exact h
  | pollAction =>
    unfold TimerService.step
    dsimp only
    split
    · exact h
    · rename_i action rest _
      have hrest : Tracked { s with pollThread := rest } :=
        ⟨h.owner, h.running, h.fresh, h.heap, h.queue⟩
      cases action with
      | disarm p => exact hrest.setContainer p (h.heap p)
      | removePoll p => exact hrest.setContainer p (h.heap p)
      | sendExpire p =>
        refine ⟨h.owner, h.running, h.fresh, h.heap, fun k t hin => ?_⟩
        rcases List.mem_append.mp hin with hin | hin
        · exact h.queue k t hin
        · simp at hin
  | procMsg script =>
    unfold TimerService.step
    dsimp only
    split
    · exact h
    · rename_i msg rest hq
      exact h.proc script hq

/-- Only an expiry message calls back. -/
theorem onTime_step_iff {s : TimerService} (ht : Tracked s) (h : OnTime s) (e : TimerEvent) :
    OnTime (s.step e) ↔ FirstPopDue s e := by
  cases e with
  | call c =>
    refine iff_of_true ?_ trivial
    unfold OnTime
    rw [show (s.step (.call c)).callbacks = s.callbacks from callbacks_call s c]
    exact h
  | tick time =>
    refine iff_of_true ?_ trivial
    unfold TimerService.step
    dsimp only
    split <;> exact h
  | pollWake fired =>
    refine iff_of_true ?_ trivial
    unfold TimerService.step
    dsimp only
    split <;> exact h
  | pollAction =>
    refine iff_of_true ?_ trivial
    unfold TimerService.step
    dsimp only
    split
    · exact h
    · rename_i action rest _
      cases action <;> exact h
  | procMsg script =>
    cases hq : s.mQ with
    | nil =>
      simp only [TimerService.step, FirstPopDue, hq]
      exact iff_of_true h fun p hh => nomatch hh
    | cons msg rest =>
      simp only [TimerService.step, FirstPopDue, hq, List.head?_cons, Option.some.injEq]
      cases msg with
      | msgTimerPush p timer => exact iff_of_true h fun k hh => nomatch hh
      | msgTimerRemove p timer => exact iff_of_true h fun k hh => nomatch hh
      | msgTimerExpire p =>
        simp only [LocMsg.msgTimerExpire.injEq, forall_eq']
        exact onTime_procExpire_iff (ht.dequeue hq) h p script

theorem callbacks_step (s : TimerService) (e : TimerEvent) :
    s.callbacks <+: (s.step e).callbacks := by
  unfold TimerService.step
  cases e with
  | call c =>
    dsimp only
    rw [callbacks_call]
  | tick time =>
    dsimp only
    split <;> exact List.prefix_rfl
  | pollWake fired =>
    dsimp only
    split <;> exact List.prefix_rfl
  | pollAction =>
    dsimp only
    split
    · exact List.prefix_rfl
    · rename_i action rest _
      cases action <;> exact List.prefix_rfl
  | procMsg script =>
    dsimp only
    split
    · exact List.prefix_rfl
    · rename_i msg rest _
      cases msg with
      | msgTimerPush p timer => exact List.prefix_rfl
      | msgTimerRemove p timer => exact List.prefix_rfl
      | msgTimerExpire p => exact (untouched_procExpire { s with mQ := rest } p script).callbacks

theorem onTime_new (now : BootTime) : OnTime (new now) := fun _ hin => nomatch hin

/-- **Callbacks are on time exactly in the runs whose expiry messages find a due
top.** The first pop of an expiry message is the only one that can be early. -/
theorem onTime_iff (now : BootTime) (es : List TimerEvent) :
    OnTime (run step (new now) es) ↔ Steps step FirstPopDue (new now) es := by
  have hlast : Steps step (fun s e => OnTime (TimerService.step s e)) (new now) es ↔
      OnTime (run step (new now) es) :=
    steps_iff_last (fun s e h => h.of_prefix (callbacks_step s e)) (onTime_new now)
  rw [← hlast]
  exact steps_iff_guard (I := fun s => Tracked s ∧ OnTime s) (A := fun _ _ => True)
    (fun _ e hi _ => onTime_step_iff hi.1 hi.2 e) (fun _ e hi _ hq => ⟨hi.1.step e, hq⟩)
    ⟨tracked_new now, onTime_new now⟩ (steps_of_forall (fun _ _ => trivial) _ _)

/-- One second after the boot. -/
def bootSecond : BootTime := ⟨.ofSec 1, by decide⟩

/-- The first timer fires and is stopped before its expiry message is processed;
the message then pops the timer of one second, 990 milliseconds early. -/
theorem stopped_timer_hands_expiry_on :
    ¬ OnTime (run step (new bootSecond)
      [.call (.start 1 10 false true), .procMsg [], .tick (bootSecond.after 10),
        .pollWake [.mSwTimers], .call (.start 2 1000 false true), .call (.stop 1),
        .pollAction, .pollAction, .pollAction, .procMsg [], .procMsg [], .procMsg []]) := by
  decide

end DeviceHal.Utils.TimerSafety
