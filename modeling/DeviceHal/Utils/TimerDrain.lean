import DeviceHal.Utils.HeapOrder
import DeviceHal.Utils.TimerSafety

/-! # Draining in order

An expiry message pops delegates until the clock outranks the top. `ranks` is
an `int` and the seconds of the times are not: as long as the times lie close
enough together for their differences to fit, the heap is sorted by time, and
the message expires what is due, the soonest first. They do for the first 68
years after a boot. -/
namespace DeviceHal.Utils.TimerDrain
open DeviceHal.Lib.Run DeviceHal.Utils.RankHeap DeviceHal.Utils.HeapOrder
open DeviceHal.Lib.CText (toInt32 toInt32_of_near)
open DeviceHal.Utils.LocTimers DeviceHal.Utils.LocTimers.TimerService DeviceHal.Utils.TimerSafety

/-! ## Ranks -/

/-- The seconds of the times are at most `bound` apart. -/
def Spread (bound : Nat) (times : List BootTime) : Prop :=
  ∀ a ∈ times, ∀ b ∈ times, a.tv_sec ≤ b.tv_sec + bound

instance (bound : Nat) (times : List BootTime) : Decidable (Spread bound times) :=
  inferInstanceAs (Decidable (∀ _ ∈ _, ∀ _ ∈ _, _))

/-- The largest difference that fits the `int`. -/
def INT_MAX : Nat := 2147483647

/-- A difference that fits is ranked right. -/
theorem outRanks_iff {a b : BootTime} (hab : a.tv_sec ≤ b.tv_sec + INT_MAX)
    (hba : b.tv_sec ≤ a.tv_sec + INT_MAX) : OutRanks a b ↔ a.nanos < b.nanos := by
  unfold INT_MAX at hab hba
  have ha := a.nsec_lt
  have hb := b.nsec_lt
  have hsec : toInt32 (b.tv_sec - a.tv_sec) = b.tv_sec - a.tv_sec :=
    toInt32_of_near (by omega) (by omega)
  have hnsec : toInt32 (b.tv_nsec - a.tv_nsec) = b.tv_nsec - a.tv_nsec :=
    toInt32_of_near (by omega) (by omega)
  simp only [OutRanks, outRanks, LocRankable.ranks, hsec, hnsec, decide_eq_true_eq,
    Timespec.nanos]
  split <;> omega

def timesOf (timers : List LocTimerDelegate) : List BootTime := timers.map (·.mFutureTime)

theorem Spread.outRanks_iff {times : List BootTime} (h : Spread INT_MAX times) {a b : BootTime}
    (ha : a ∈ times) (hb : b ∈ times) : OutRanks a b ↔ a.nanos < b.nanos :=
  TimerDrain.outRanks_iff (h a ha b hb) (h b hb a ha)

/-- Delegates rank as their times do. -/
theorem weakOrderOn_timers {timers : List LocTimerDelegate}
    (h : Spread INT_MAX (timesOf timers)) :
    WeakOrderOn (fun t : LocTimerDelegate => t ∈ timers) := by
  have hrank : ∀ a ∈ timers, ∀ b ∈ timers,
      (OutRanks a b ↔ a.mFutureTime.nanos < b.mFutureTime.nanos) := fun a ha b hb =>
    h.outRanks_iff (List.mem_map_of_mem ha) (List.mem_map_of_mem hb)
  refine ⟨fun x y hx hy => ?_, fun x y z hx hy hz => ?_⟩
  · rw [hrank x hx y hy, hrank y hy x hx]
    omega
  · rw [hrank x hx y hy, hrank y hy z hz, hrank x hx z hz]
    omega

theorem Spread.mono {bound : Nat} {times times' : List BootTime} (h : Spread bound times)
    (hsub : times' ⊆ times) : Spread bound times' :=
  fun a ha b hb => h a (hsub ha) b (hsub hb)

/-! ## The delegates that expire -/

/-- The delegates whose `expire()` the rounds of `drain` call. -/
def drainExpired (p : ContainerPtr) (timerOfNow : BootTime) :
    Nat → TimerService → List (List TimerCall) → List LocTimerDelegate
  | 0, _, _ => []
  | rounds + 1, s, script =>
    let popped := (s.container p).popIfOutRanks timerOfNow
    match popped.2 with
    | none => []
    | some timer =>
      let expired := (s.setContainer p popped.1).expireDelegate timer script
      timer :: drainExpired p timerOfNow rounds expired.1 expired.2

/-- The delegates whose `expire()` an expiry message calls. -/
def expiredTimers (s : TimerService) (p : ContainerPtr) (script : List (List TimerCall)) :
    List LocTimerDelegate :=
  let c := s.container p
  match c.pop.2 with
  | none => []
  | some timer =>
    let expired := (s.setContainer p (c.withHeap c.pop.1)).expireDelegate timer script
    timer :: drainExpired p s.now c.elems.length expired.1 expired.2

/-- The message expires the delegates that are due, the soonest first, and leaves the others
in the heap; the callbacks are made by delegates that expire, in their order. -/
structure DrainsInOrder (s : TimerService) (p : ContainerPtr) (script : List (List TimerCall)) :
    Prop where
  due : (expiredTimers s p script).Perm ((s.container p).elems.filter fun t => Due s.now t)
  order : (expiredTimers s p script).Pairwise fun a b =>
    a.mFutureTime.toTimespec ≤ b.mFutureTime.toTimespec
  left : ((s.procExpire p script).container p).elems.Perm
    ((s.container p).elems.filter fun t => ¬ Due s.now t)
  called : ∃ calls, (s.procExpire p script).callbacks = s.callbacks ++ calls ∧
    (calls.map (·.timer)).Sublist (expiredTimers s p script)
  /-- The loop has come to its end. -/
  done : (((s.procExpire p script).container p).popIfOutRanks s.now).2 = none

/-- A heap that the source's check accepts, of distinct delegates, with a top that is due. -/
structure DueHeap (s : TimerService) (p : ContainerPtr) : Prop where
  heap : checkNodes (s.container p).mTree = true
  distinct : (s.container p).elems.Nodup
  due : ∃ top ∈ (s.container p).peek, Due s.now top

/-! ## The loop -/

/-- A delegate that expires calls back or does not. -/
theorem callbacks_expireDelegate_cases (s : TimerService) (timer : LocTimerDelegate)
    (script : List (List TimerCall)) :
    ∃ calls, (s.expireDelegate timer script).1.callbacks = s.callbacks ++ calls ∧
      (calls.map (·.timer)).Sublist [timer] := by
  unfold expireDelegate
  split
  · exact ⟨[], (List.append_nil _).symm, List.nil_sublist _⟩
  · split
    · rename_i client _ _
      refine ⟨[⟨client, timer, (s.stop client).1.now⟩], ?_, List.Sublist.refl _⟩
      rw [callbacks_timeOutCallback, callbacks_stop]
    · refine ⟨[], ?_, List.nil_sublist _⟩
      rw [callbacks_stop, List.append_nil]

/-- What the rounds of `drain` do to a heap that is sorted by time. -/
structure Drained (p : ContainerPtr) (timerOfNow : BootTime) (s s' : TimerService)
    (expired : List LocTimerDelegate) : Prop where
  due : expired.Perm ((s.container p).elems.filter fun t => Due timerOfNow t)
  order : expired.Pairwise fun a b => a.mFutureTime.toTimespec ≤ b.mFutureTime.toTimespec
  left : (s'.container p).elems.Perm
    ((s.container p).elems.filter fun t => ¬ Due timerOfNow t)
  called : ∃ calls, s'.callbacks = s.callbacks ++ calls ∧ (calls.map (·.timer)).Sublist expired

/-- The loop ends when nothing is due. -/
theorem drained_end {p : ContainerPtr} {timerOfNow : BootTime} {s : TimerService}
    (h : ∀ t ∈ (s.container p).elems, ¬ Due timerOfNow t) : Drained p timerOfNow s s [] where
  due := by
    rw [List.filter_eq_nil_iff.mpr fun t ht => by simpa using h t ht]
  order := List.Pairwise.nil
  left := by
    rw [List.filter_eq_self.mpr fun t ht => by simpa using h t ht]
  called := ⟨[], (List.append_nil _).symm, List.nil_sublist _⟩

/-- A round pops the top and expires it. -/
def expireTop (s : TimerService) (p : ContainerPtr) (top : LocTimerDelegate)
    (script : List (List TimerCall)) : TimerService × List (List TimerCall) :=
  (s.setContainer p ((s.container p).withHeap (s.container p).pop.1)).expireDelegate top script

/-- Callbacks leave the heap alone. -/
theorem heap_expireTop (s : TimerService) (p : ContainerPtr) (top : LocTimerDelegate)
    (script : List (List TimerCall)) :
    ((expireTop s p top script).1.container p).toLocHeap = (s.container p).pop.1 := by
  have hheap := (untouched_expireDelegate (P := fun _ => True) (s.setContainer p
    ((s.container p).withHeap (s.container p).pop.1)) top script).heap p trivial
  rw [container_setContainer_self] at hheap
  exact hheap

/-- A round that expires the top, and the rounds behind it. -/
theorem Drained.cons {p : ContainerPtr} {timerOfNow : BootTime} {s s' : TimerService}
    {top : LocTimerDelegate} {expired : List LocTimerDelegate}
    (htop : (s.container p).peek = some top) (hdue : Due timerOfNow top)
    (hsoonest : ∀ t ∈ (s.container p).elems,
      top.mFutureTime.toTimespec ≤ t.mFutureTime.toTimespec)
    (script : List (List TimerCall))
    (h : Drained p timerOfNow (expireTop s p top script).1 s' expired) :
    Drained p timerOfNow s s' (top :: expired) := by
  have helems : (s.container p).elems = top :: (s.container p).elems.tail :=
    LocHeapNode.elems_of_top htop
  have hrest : ((expireTop s p top script).1.container p).elems.Perm
      (s.container p).elems.tail := by
    rw [heap_expireTop]
    exact (s.container p).pop_elems
  refine ⟨?_, ?_, ?_, ?_⟩
  · rw [helems, List.filter_cons_of_pos (by simpa using hdue)]
    exact (h.due.trans (hrest.filter _)).cons top
  · refine List.pairwise_cons.mpr ⟨fun t ht => hsoonest t ?_, h.order⟩
    rw [helems]
    exact List.mem_cons_of_mem _ (hrest.subset (List.mem_of_mem_filter (h.due.subset ht)))
  · rw [helems, List.filter_cons_of_neg (by simpa using hdue)]
    exact h.left.trans (hrest.filter _)
  · obtain ⟨first, hfirst, hsub⟩ := callbacks_expireDelegate_cases (s.setContainer p
      ((s.container p).withHeap (s.container p).pop.1)) top script
    obtain ⟨calls, hcalls, hsub'⟩ := h.called
    refine ⟨first ++ calls, ?_, ?_⟩
    · rw [hcalls, expireTop, hfirst, List.append_assoc]
      rfl
    · rw [List.map_append]
      exact hsub.append hsub'

/-- The top of a heap that is sorted by rank is the soonest. -/
theorem top_soonest {t : LocHeapNode LocTimerDelegate} (h : Ordered t)
    (hspread : Spread INT_MAX (timesOf t.elems)) {top : LocTimerDelegate} (htop : t.top = some top) :
    ∀ x ∈ t.elems, top.mFutureTime.toTimespec ≤ x.mFutureTime.toTimespec := by
  intro x hx
  have hrank := top_highest (weakOrderOn_timers hspread) (fun _ h => h) h htop x hx
  have hiff : OutRanks x top ↔ x.mFutureTime.nanos < top.mFutureTime.nanos :=
    hspread.outRanks_iff (List.mem_map_of_mem hx) (List.mem_map_of_mem (mem_of_top htop))
  rw [hiff] at hrank
  exact Nat.le_of_not_lt hrank

/-- What the next round finds. -/
theorem expireTop_next {s : TimerService} {p : ContainerPtr} {timerOfNow : BootTime}
    (hordered : Ordered (s.container p).mTree)
    (hspread : Spread INT_MAX (timerOfNow :: timesOf (s.container p).elems))
    (top : LocTimerDelegate) (script : List (List TimerCall)) :
    ((expireTop s p top script).1.container p).elems.length = (s.container p).elems.length - 1 ∧
      Ordered ((expireTop s p top script).1.container p).mTree ∧
      Spread INT_MAX
        (timerOfNow :: timesOf ((expireTop s p top script).1.container p).elems) := by
  have hperm : (s.container p).pop.1.elems.Perm (s.container p).elems.tail :=
    (s.container p).pop_elems
  rw [heap_expireTop]
  refine ⟨by rw [hperm.length_eq, List.length_tail], ?_, ?_⟩
  · rw [LocHeap.mTree_pop]
    exact pop_ordered (weakOrderOn_timers (hspread.mono (List.subset_cons_self _ _)))
      (fun _ h => h) hordered
  · refine hspread.mono (List.cons_subset_cons _ (List.map_subset _ ?_))
    exact List.Subset.trans hperm.subset (List.tail_subset _)

/-- **The loop.** By induction on the rounds: what is popped is the soonest, and the heap
behind it is sorted again. -/
theorem drained_drain (p : ContainerPtr) (timerOfNow : BootTime) {rounds : Nat} {s : TimerService}
    (script : List (List TimerCall)) (hlen : (s.container p).elems.length ≤ rounds)
    (hordered : Ordered (s.container p).mTree)
    (hspread : Spread INT_MAX (timerOfNow :: timesOf (s.container p).elems)) :
    Drained p timerOfNow s (drain p timerOfNow rounds s script)
      (drainExpired p timerOfNow rounds s script) := by
  induction rounds generalizing s script with
  | zero =>
    refine drained_end fun t ht => ?_
    rw [List.eq_nil_of_length_eq_zero (Nat.le_zero.mp hlen)] at ht
    cases ht
  | succ rounds ih =>
    have htimers : Spread INT_MAX (timesOf (s.container p).elems) :=
      hspread.mono (List.subset_cons_self _ _)
    cases htop : (s.container p).peek with
    | none =>
      have hempty : (s.container p).elems = [] := by
        show (s.container p).mTree.elems = []
        rw [LocHeapNode.null_of_top htop]
        rfl
      have hpop : ((s.container p).popIfOutRanks timerOfNow).2 = none := by
        simp only [LocTimerContainer.popIfOutRanks, LocTimerContainer.getSoonestTimer, htop]
      simp only [drain, drainExpired, hpop]
      refine drained_end fun t ht => ?_
      rw [hempty] at ht
      cases ht
    | some top =>
      have hsoonest := top_soonest hordered htimers htop
      have hrank : outRanks timerOfNow top.mFutureTime = true ↔ ¬ Due timerOfNow top := by
        have hiff : OutRanks timerOfNow top.mFutureTime ↔ _ := hspread.outRanks_iff
          (List.mem_cons_self ..) (List.mem_cons_of_mem _ (List.mem_map_of_mem (mem_of_top htop)))
        exact hiff.trans Nat.not_le.symm
      by_cases hdue : Due timerOfNow top
      · have hpop : (s.container p).popIfOutRanks timerOfNow =
            ((s.container p).withHeap (s.container p).pop.1, some top) := by
          simp only [LocTimerContainer.popIfOutRanks, LocTimerContainer.getSoonestTimer, htop,
            if_neg (mt hrank.mp (not_not.mpr hdue)), (s.container p).pop_snd]
        obtain ⟨hlen', hordered', hspread'⟩ := expireTop_next hordered hspread top script
        simp only [drain, drainExpired, hpop]
        refine Drained.cons htop hdue hsoonest script ?_
        exact ih (s := (expireTop s p top script).1) _ (by omega) hordered' hspread'
      · have hpop : (s.container p).popIfOutRanks timerOfNow = (s.container p, none) := by
          simp only [LocTimerContainer.popIfOutRanks, LocTimerContainer.getSoonestTimer, htop,
            if_pos (hrank.mpr hdue)]
        simp only [drain, drainExpired, hpop]
        refine drained_end fun t ht hlate => hdue ?_
        exact Nat.le_trans (hsoonest t ht) hlate

/-- With a due top the first pop is a round like the others. -/
theorem drained_procExpire {s : TimerService} {p : ContainerPtr} (script : List (List TimerCall))
    (h : DueHeap s p) (hspread : Spread INT_MAX (s.now :: timesOf (s.container p).elems)) :
    DrainsInOrder s p script := by
  have htimers : Spread INT_MAX (timesOf (s.container p).elems) :=
    hspread.mono (List.subset_cons_self _ _)
  have hordered : Ordered (s.container p).mTree :=
    ordered_of_checkNodes (weakOrderOn_timers htimers) (fun _ h => h) h.heap
  obtain ⟨top, htop, hdue⟩ := h.due
  have hsnd := (s.container p).pop_snd
  rw [show (s.container p).peek = some top from htop] at hsnd
  obtain ⟨hlen, hordered', hspread'⟩ := expireTop_next hordered hspread top script
  have hloop : Drained p s.now (expireTop s p top script).1
      (drain p s.now (s.container p).elems.length (expireTop s p top script).1
        (expireTop s p top script).2)
      (drainExpired p s.now (s.container p).elems.length (expireTop s p top script).1
        (expireTop s p top script).2) :=
    drained_drain p s.now _ (by omega) hordered' hspread'
  have hall := hloop.cons htop hdue (top_soonest hordered htimers htop)
  have hexpired : expiredTimers s p script = top :: drainExpired p s.now
      (s.container p).elems.length (expireTop s p top script).1 (expireTop s p top script).2 := by
    simp only [expiredTimers, hsnd, expireTop]
  refine ⟨?_, ?_, ?_, ?_, procExpire_done s p script⟩
  · rw [hexpired]
    exact hall.due
  · rw [hexpired]
    exact hall.order
  · simp only [procExpire, hsnd, container_setContainer_self,
      LocTimerContainer.toLocHeap_updateSoonestTime]
    exact hall.left
  · rw [hexpired]
    simp only [procExpire, hsnd]
    exact hall.called

/-! ## The clock -/

theorem spread_of_le {times : List BootTime} (h : ∀ time ∈ times, time.tv_sec ≤ INT_MAX) :
    Spread INT_MAX times :=
  fun a ha _ _ => (h a ha).trans (Nat.le_add_left _ _)

end DeviceHal.Utils.TimerDrain
