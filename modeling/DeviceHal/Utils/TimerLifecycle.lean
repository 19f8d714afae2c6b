import DeviceHal.Utils.TimerDrain

/-! # The life of a delegate

A delegate is reached from its client, from a heap and from messages at the
same time. Whatever order the calls, the callbacks and the messages come in,
its records are a start, then a stop or a callback, then the `delete`; and it
is deleted when nothing reaches it. The heap finds what it has to remove as
long as the times in it are close enough together to be ranked, and they are for
67 years after a boot. -/
namespace DeviceHal.Utils.TimerLifecycle
open DeviceHal.Lib.Run DeviceHal.Utils.RankHeap DeviceHal.Utils.HeapOrder
open DeviceHal.Utils.LocTimers DeviceHal.Utils.LocTimers.TimerService DeviceHal.Utils.TimerSafety
open DeviceHal.Utils.TimerDrain

/-! ## Records -/

inductive TimerRecord where
  /-- A `start` that succeeded. -/
  | started (timer : LocTimerDelegate)
  /-- A client's `stop` that returned true. -/
  | stopped (timer : LocTimerDelegate)
  | calledBack (timer : LocTimerDelegate)
  | deleted (timer : LocTimerDelegate)
deriving DecidableEq

def TimerRecord.timer : TimerRecord → LocTimerDelegate
  | .started timer | .stopped timer | .calledBack timer | .deleted timer => timer

def callRecords (s : TimerService) : TimerCall → List TimerRecord
  | .start client timeOutInMs wakeOnExpire timerfdCreated =>
    let started := s.start client timeOutInMs wakeOnExpire timerfdCreated
    if started.2 then (started.1.mTimer client).toList.map .started else []
  | .stop client => if (s.stop client).2 then (s.mTimer client).toList.map .stopped else []

def callsRecords : TimerService → List TimerCall → List TimerRecord
  | _, [] => []
  | s, c :: calls => callRecords s c ++ callsRecords (s.call c) calls

def expireRecords (s : TimerService) (timer : LocTimerDelegate) (script : List (List TimerCall)) :
    List TimerRecord :=
  match s.mClient timer.addr with
  | none => []
  | some client =>
    if (s.stop client).2 then
      .calledBack timer :: callsRecords ((s.stop client).1.timeOutCallback client timer [])
        (script.headD [])
    else []

def drainRecords (p : ContainerPtr) (timerOfNow : BootTime) :
    Nat → TimerService → List (List TimerCall) → List TimerRecord
  | 0, _, _ => []
  | rounds + 1, s, script =>
    let popped := (s.container p).popIfOutRanks timerOfNow
    match popped.2 with
    | none => []
    | some timer =>
      let s := s.setContainer p popped.1
      let expired := s.expireDelegate timer script
      expireRecords s timer script ++ drainRecords p timerOfNow rounds expired.1 expired.2

def procRecords (s : TimerService) (script : List (List TimerCall)) : LocMsg → List TimerRecord
  | .msgTimerPush _ _ => []
  | .msgTimerRemove _ timer => [.deleted timer]
  | .msgTimerExpire p =>
    let c := s.container p
    match c.pop.2 with
    | none => []
    | some timer =>
      let popped := s.setContainer p (c.withHeap c.pop.1)
      let expired := popped.expireDelegate timer script
      expireRecords popped timer script ++
        drainRecords p s.now c.elems.length expired.1 expired.2

def stepRecords (s : TimerService) : TimerEvent → List TimerRecord
  | .call c => callRecords s c
  | .procMsg script =>
    match s.mQ with
    | [] => []
    | msg :: rest => procRecords { s with mQ := rest } script msg
  | _ => []

/-- The service with the records so far. -/
structure Recorded where
  service : TimerService
  log : List TimerRecord

def Recorded.step (q : Recorded) (e : TimerEvent) : Recorded :=
  ⟨q.service.step e, q.log ++ stepRecords q.service e⟩

def Recorded.new (now : BootTime) : Recorded := ⟨.new now, []⟩

/-! ## Where a delegate is -/

def isRemoval (timer : LocTimerDelegate) : LocMsg → Bool
  | .msgTimerRemove _ t => t = timer
  | _ => false

/-- The messages that remove and delete the delegate. -/
def removals (s : TimerService) (timer : LocTimerDelegate) : List LocMsg :=
  s.mQ.filter (isRemoval timer)

/-- The delegate is in the heap, or on its way into it. -/
def Waits (s : TimerService) (p : ContainerPtr) (timer : LocTimerDelegate) : Prop :=
  timer ∈ (s.container p).elems ∨ .msgTimerPush p timer ∈ s.mQ

def Running (s : TimerService) (timer : LocTimerDelegate) : Prop :=
  ∃ client, s.mTimer client = some timer

def history (log : List TimerRecord) (timer : LocTimerDelegate) : List TimerRecord :=
  log.filter fun r => r.timer = timer

/-- A client has stopped the delegate, or it has run out. -/
def Ends (timer : LocTimerDelegate) (r : TimerRecord) : Prop :=
  r = .stopped timer ∨ r = .calledBack timer

/-- The records of a delegate, and what reaches it. -/
inductive Stage (s : TimerService) (timer : LocTimerDelegate) : List TimerRecord → Prop
  | unborn (idle : ¬ Running s timer) (quiet : removals s timer = [])
      (away : ∀ p, ¬ Waits s p timer) : Stage s timer []
  | running (p : ContainerPtr) (runs : Running s timer)
      (home : s.mContainer timer.addr = some p) (quiet : removals s timer = [])
      (waits : ∀ k, Waits s k timer → k = p) : Stage s timer [.started timer]
  | leaving (p : ContainerPtr) {r : TimerRecord} (ends : Ends timer r)
      (cut : s.mClient timer.addr = none) (queued : removals s timer = [.msgTimerRemove p timer])
      (waits : ∀ k, Waits s k timer → k = p) : Stage s timer [.started timer, r]
  | gone {r : TimerRecord} (ends : Ends timer r) (cut : s.mClient timer.addr = none)
      (quiet : removals s timer = []) (away : ∀ p, ¬ Waits s p timer) :
      Stage s timer [.started timer, r, .deleted timer]

/-- What reaches the delegate in `s'` reached it in `s`. -/
structure Frame (s s' : TimerService) (timer : LocTimerDelegate) : Prop where
  runs : Running s' timer ↔ Running s timer
  removals : removals s' timer = removals s timer
  waits : ∀ p, Waits s' p timer → Waits s p timer

theorem Stage.frame {s s' : TimerService} {timer : LocTimerDelegate} {h : List TimerRecord}
    (hs : Stage s timer h) (hf : Frame s s' timer)
    (hptr : h ≠ [] → s'.mClient timer.addr = s.mClient timer.addr ∧
      s'.mContainer timer.addr = s.mContainer timer.addr) : Stage s' timer h := by
  cases hs with
  | unborn idle quiet away =>
    exact .unborn (fun hr => idle (hf.runs.mp hr)) (hf.removals.trans quiet)
      fun p hw => away p (hf.waits p hw)
  | running p runs home quiet waits =>
    obtain ⟨-, hcont⟩ := hptr (List.cons_ne_nil _ _)
    exact .running p (hf.runs.mpr runs) (hcont.trans home) (hf.removals.trans quiet)
      fun k hw => waits k (hf.waits k hw)
  | leaving p ends cut queued waits =>
    obtain ⟨hclient, -⟩ := hptr (List.cons_ne_nil _ _)
    exact .leaving p ends (hclient.trans cut) (hf.removals.trans queued)
      fun k hw => waits k (hf.waits k hw)
  | gone ends cut quiet away =>
    obtain ⟨hclient, -⟩ := hptr (List.cons_ne_nil _ _)
    exact .gone ends (hclient.trans cut) (hf.removals.trans quiet)
      fun k hw => away k (hf.waits k hw)

/-- A removal comes after the push of the delegate. -/
def PushFirst (mQ : List LocMsg) : Prop :=
  mQ.Pairwise fun m m' => ∀ p k timer, m = .msgTimerRemove p timer → m' ≠ .msgTimerPush k timer

theorem PushFirst.tail {msg : LocMsg} {rest : List LocMsg} (h : PushFirst (msg :: rest)) :
    PushFirst rest :=
  (List.pairwise_cons.mp h).2

/-- A push comes to the queue before any removal. -/
theorem PushFirst.snoc {mQ : List LocMsg} (h : PushFirst mQ) {msg : LocMsg}
    (hpush : ∀ k timer, msg = .msgTimerPush k timer → ∀ p, .msgTimerRemove p timer ∉ mQ) :
    PushFirst (mQ ++ [msg]) := by
  refine List.pairwise_append.mpr
    ⟨h, List.pairwise_singleton _ _, fun m hm m' hm' p k timer hremove hmsg => ?_⟩
  exact hpush k timer ((List.mem_singleton.mp hm').symm.trans hmsg) p (hremove ▸ hm)

section Queue
variable {s s' : TimerService} {timer : LocTimerDelegate}

theorem running_update {client : LocTimer} {v : Option LocTimerDelegate}
    (htimer : s'.mTimer = Function.update s.mTimer client v)
    (hold : s.mTimer client ≠ some timer) (hnew : v ≠ some timer) :
    Running s' timer ↔ Running s timer := by
  constructor
  · rintro ⟨c, hc⟩
    by_cases hcc : c = client
    · rw [htimer, hcc, Function.update_self] at hc
      exact absurd hc hnew
    · exact ⟨c, by rwa [htimer, Function.update_of_ne hcc] at hc⟩
  · rintro ⟨c, hc⟩
    have hcc : c ≠ client := by
      rintro rfl
      exact hold hc
    exact ⟨c, by rw [htimer, Function.update_of_ne hcc, hc]⟩

theorem removals_snoc {msg : LocMsg} (hq : s'.mQ = s.mQ ++ [msg])
    (hmsg : isRemoval timer msg = false) : removals s' timer = removals s timer := by
  rw [removals, hq, List.filter_append, List.filter_cons_of_neg (Bool.eq_false_iff.mp hmsg)]
  exact List.append_nil _

theorem waits_snoc {msg : LocMsg} (hq : s'.mQ = s.mQ ++ [msg])
    (hheap : ∀ k, (s'.container k).toLocHeap = (s.container k).toLocHeap) {k : ContainerPtr}
    (hw : Waits s' k timer) : Waits s k timer ∨ msg = .msgTimerPush k timer := by
  rw [Waits, hq, hheap] at hw
  rcases hw with hin | hin
  · exact Or.inl (Or.inl hin)
  · exact (List.mem_append.mp hin).imp Or.inr fun hin => (List.mem_singleton.mp hin).symm

/-- What waits without the first message waits with it. -/
theorem waits_tail {msg : LocMsg} {rest : List LocMsg} (hq : s.mQ = msg :: rest)
    (hq' : s'.mQ = rest) (hheap : ∀ k, (s'.container k).elems ⊆ (s.container k).elems)
    {k : ContainerPtr} (hw : Waits s' k timer) : Waits s k timer := by
  refine hw.imp (fun hin => hheap k hin) fun hin => ?_
  rw [hq]
  exact List.mem_cons_of_mem _ (hq' ▸ hin)

end Queue

/-- The invariant of a run. -/
structure Lifecycle (s : TimerService) (log : List TimerRecord) : Prop where
  stage : ∀ timer, Stage s timer (history log timer)
  tracked : Tracked s
  addr_lt : ∀ r ∈ log, r.timer.addr < s.nextAddr
  addr_inj : ∀ r ∈ log, ∀ r' ∈ log, r.timer.addr = r'.timer.addr → r.timer = r'.timer
  order : PushFirst s.mQ
  single : ∀ p timer, (s.container p).elems.count timer +
    s.mQ.count (.msgTimerPush p timer) ≤ 1
  sorted : ∀ p, Sorted (s.container p).toLocHeap
  spread : ∀ p, Spread INT_MAX (timesOf (s.container p).elems)

theorem lifecycle_new (now : BootTime) : Lifecycle (new now) [] where
  stage _ := .unborn (fun ⟨_, h⟩ => (by cases h)) rfl fun _ h => h.elim (fun h => (by cases h))
    fun h => (by cases h)
  tracked := tracked_new now
  addr_lt _ h := by cases h
  addr_inj _ h := by cases h
  order := List.Pairwise.nil
  single _ _ := Nat.zero_le 1
  sorted _ := ⟨trivial, trivial⟩
  spread _ _ h := by cases h

theorem history_append_self (log : List TimerRecord) {r : TimerRecord}
    {timer : LocTimerDelegate} (hr : r.timer = timer) :
    history (log ++ [r]) timer = history log timer ++ [r] := by
  simp [history, hr]

theorem history_append_ne (log : List TimerRecord) {r : TimerRecord} {timer : LocTimerDelegate}
    (hr : r.timer ≠ timer) : history (log ++ [r]) timer = history log timer := by
  simp [history, hr]

theorem mem_of_history {log : List TimerRecord} {timer : LocTimerDelegate}
    (h : history log timer ≠ []) : ∃ r ∈ log, r.timer = timer := by
  obtain ⟨r, hr⟩ := List.exists_mem_of_ne_nil _ h
  exact ⟨r, List.mem_of_mem_filter hr, by simpa using List.of_mem_filter hr⟩

/-- A delegate whose address is still to be given has no records. -/
theorem Lifecycle.history_fresh {s : TimerService} {log : List TimerRecord} (h : Lifecycle s log)
    {timer : LocTimerDelegate} (haddr : s.nextAddr ≤ timer.addr) : history log timer = [] := by
  by_contra hne
  obtain ⟨r, hr, rfl⟩ := mem_of_history hne
  exact absurd (h.addr_lt r hr) (Nat.not_lt.mpr haddr)

/-- Only a delegate of the log waits, is removed or runs. -/
theorem Stage.away {s : TimerService} {timer : LocTimerDelegate} (h : Stage s timer []) :
    ¬ Running s timer ∧ removals s timer = [] ∧ ∀ p, ¬ Waits s p timer := by
  cases h with
  | unborn idle quiet away => exact ⟨idle, quiet, away⟩

/-- The records of the others. -/
theorem Lifecycle.stage_append {s s' : TimerService} {log : List TimerRecord}
    (h : Lifecycle s log) {r : TimerRecord} {d timer : LocTimerDelegate} (hr : r.timer = d)
    (hne : timer ≠ d) (hf : Frame s s' timer)
    (hptr : timer.addr ≠ d.addr → s'.mClient timer.addr = s.mClient timer.addr ∧
      s'.mContainer timer.addr = s.mContainer timer.addr)
    (hlog : d.addr < s.nextAddr → ∃ r' ∈ log, r'.timer = d) :
    Stage s' timer (history (log ++ [r]) timer) := by
  rw [history_append_ne log (hr ▸ Ne.symm hne)]
  refine (h.stage timer).frame hf fun hrecorded => hptr fun haddr => hne ?_
  obtain ⟨r', hr', rfl⟩ := mem_of_history hrecorded
  obtain ⟨r'', hr'', rfl⟩ := hlog (haddr ▸ h.addr_lt r' hr')
  exact h.addr_inj r' hr' r'' hr'' haddr

/-- A record of a delegate that the log knows. -/
theorem Lifecycle.addr_append {s : TimerService} {log : List TimerRecord} (h : Lifecycle s log)
    {r : TimerRecord} (hlog : ∃ r' ∈ log, r'.timer = r.timer) :
    (∀ r' ∈ log ++ [r], r'.timer.addr < s.nextAddr) ∧
      ∀ r' ∈ log ++ [r], ∀ r'' ∈ log ++ [r], r'.timer.addr = r''.timer.addr →
        r'.timer = r''.timer := by
  obtain ⟨known, hknown, heq⟩ := hlog
  have hold : ∀ r' ∈ log ++ [r], ∃ r'' ∈ log, r''.timer = r'.timer := by
    intro r' hr'
    rcases List.mem_append.mp hr' with hr' | hr'
    · exact ⟨r', hr', rfl⟩
    · rw [List.mem_singleton.mp hr']
      exact ⟨known, hknown, heq⟩
  constructor
  · intro r' hr'
    obtain ⟨x, hx, hxr⟩ := hold r' hr'
    exact hxr ▸ h.addr_lt x hx
  · intro r' hr' r'' hr'' haddr
    obtain ⟨x, hx, hxr⟩ := hold r' hr'
    obtain ⟨y, hy, hyr⟩ := hold r'' hr''
    rw [← hxr, ← hyr] at haddr ⊢
    exact h.addr_inj x hx y hy haddr

/-- The first record of a new delegate. -/
theorem Lifecycle.addr_append_fresh {s : TimerService} {log : List TimerRecord}
    (h : Lifecycle s log) {r : TimerRecord} (haddr : r.timer.addr = s.nextAddr) :
    (∀ r' ∈ log ++ [r], r'.timer.addr < s.nextAddr + 1) ∧
      ∀ r' ∈ log ++ [r], ∀ r'' ∈ log ++ [r], r'.timer.addr = r''.timer.addr →
        r'.timer = r''.timer := by
  have hnotIn : ∀ x ∈ log, x.timer.addr ≠ r.timer.addr := fun x hx =>
    haddr ▸ Nat.ne_of_lt (h.addr_lt x hx)
  constructor
  · intro x hx
    rcases List.mem_append.mp hx with hx | hx
    · exact Nat.lt_succ_of_lt (h.addr_lt x hx)
    · rw [List.mem_singleton.mp hx]
      exact Nat.lt_succ_of_le haddr.le
  · intro x hx y hy heq
    rcases List.mem_append.mp hx with hx | hx <;> rcases List.mem_append.mp hy with hy | hy
    · exact h.addr_inj x hx y hy heq
    · rw [List.mem_singleton.mp hy] at heq
      exact absurd heq (hnotIn x hx)
    · rw [List.mem_singleton.mp hx] at heq
      exact absurd heq.symm (hnotIn y hy)
    · rw [List.mem_singleton.mp hx, List.mem_singleton.mp hy]

/-! ## Starts and stops -/

/-- A new delegate with its push message. -/
theorem Lifecycle.start {s s' : TimerService} {log : List TimerRecord} (h : Lifecycle s log)
    (htracked : Tracked s') {client : LocTimer} {d : LocTimerDelegate} {p : ContainerPtr}
    (hidle : s.mTimer client = none) (haddr : d.addr = s.nextAddr)
    (htimer : s'.mTimer = Function.update s.mTimer client (some d))
    (hclient : s'.mClient = Function.update s.mClient d.addr (some client))
    (hcontainer : s'.mContainer = Function.update s.mContainer d.addr (some p))
    (hnext : s'.nextAddr = s.nextAddr + 1) (hq : s'.mQ = s.mQ ++ [.msgTimerPush p d])
    (hheap : ∀ k, (s'.container k).toLocHeap = (s.container k).toLocHeap) :
    Lifecycle s' (log ++ [.started d]) := by
  have hr : (TimerRecord.started d).timer = d := rfl
  have hstage := h.stage d
  have hfresh := h.history_fresh (Nat.le_of_eq haddr.symm)
  rw [hfresh] at hstage
  obtain ⟨-, hquiet, haway⟩ := hstage.away
  have hremovals : ∀ timer, removals s' timer = removals s timer := fun timer =>
    removals_snoc hq rfl
  obtain ⟨hlt, hinj⟩ := h.addr_append_fresh (r := .started d) haddr
  refine ⟨fun timer => ?_, htracked, hnext ▸ hlt, hinj, hq ▸ h.order.snoc ?_, fun k timer => ?_,
    fun k => ?_, fun k => ?_⟩
  · by_cases hne : timer = d
    · rw [hne, history_append_self log hr, hfresh]
      refine .running p ⟨client, ?_⟩ ?_ ((hremovals d).trans hquiet) fun k hw => ?_
      · rw [htimer, Function.update_self]
      · rw [hcontainer, Function.update_self]
      · rcases waits_snoc hq hheap hw with hold | hmsg
        · exact absurd hold (haway k)
        · exact (LocMsg.msgTimerPush.inj hmsg).1.symm
    · have hidle' : s.mTimer client ≠ some timer := by simp [hidle]
      refine h.stage_append hr hne
        ⟨running_update htimer hidle' fun heq => hne (Option.some.inj heq).symm, hremovals timer,
          fun k hw => (waits_snoc hq hheap hw).resolve_right fun hmsg =>
            hne (LocMsg.msgTimerPush.inj hmsg).2.symm⟩
        (fun hother => ?_) fun hlt => absurd hlt (Nat.not_lt.mpr haddr.ge)
      rw [hclient, hcontainer, Function.update_of_ne hother, Function.update_of_ne hother]
      exact ⟨rfl, rfl⟩
  · intro k timer hmsg p' hin
    obtain ⟨-, rfl⟩ := LocMsg.msgTimerPush.inj hmsg
    have hin : LocMsg.msgTimerRemove p' d ∈ removals s d :=
      List.mem_filter.mpr ⟨hin, by simp [isRemoval]⟩
    rw [hquiet] at hin
    cases hin
  · rw [hq, hheap, List.count_append]
    have hone := h.single k timer
    by_cases hnew : LocMsg.msgTimerPush k timer = .msgTimerPush p d
    · obtain ⟨rfl, rfl⟩ := LocMsg.msgTimerPush.inj hnew
      have hnone : ¬ Waits s k timer := haway k
      rw [Waits, not_or] at hnone
      rw [List.count_eq_zero_of_not_mem hnone.1, List.count_eq_zero_of_not_mem hnone.2]
      simp
    · rw [List.count_eq_zero_of_not_mem (fun hin => hnew (List.mem_singleton.mp hin))]
      exact hone
  · exact (hheap k).symm ▸ h.sorted k
  · exact (hheap k).symm ▸ h.spread k

/-- A running delegate that loses its client and gets its removal message. -/
theorem Lifecycle.finish {s s' : TimerService} {log : List TimerRecord} (h : Lifecycle s log)
    (htracked : Tracked s') {client : LocTimer} {d : LocTimerDelegate} {r : TimerRecord}
    (hruns : s.mTimer client = some d) (hends : Ends d r)
    (htimer : s'.mTimer = Function.update s.mTimer client none)
    (hclient : s'.mClient = Function.update s.mClient d.addr none)
    (hcontainer : s'.mContainer = Function.update s.mContainer d.addr none)
    (hnext : s'.nextAddr = s.nextAddr)
    (hq : ∀ p ∈ s.mContainer d.addr, s'.mQ = s.mQ ++ [.msgTimerRemove p d])
    (hheap : ∀ k, (s'.container k).toLocHeap = (s.container k).toLocHeap) :
    Lifecycle s' (log ++ [r]) := by
  have hr : r.timer = d := by rcases hends with rfl | rfl <;> rfl
  have howner := h.tracked.owner client d hruns
  obtain ⟨p, hhist, hhome, hquiet, hwaits⟩ : ∃ p, history log d = [.started d] ∧
      s.mContainer d.addr = some p ∧ removals s d = [] ∧ ∀ k, Waits s k d → k = p := by
    have hstage := h.stage d
    generalize history log d = records at hstage
    cases hstage with
    | unborn idle => exact absurd ⟨client, hruns⟩ idle
    | running p runs home quiet waits => exact ⟨p, rfl, home, quiet, waits⟩
    | leaving p ends cut => exact absurd (cut.symm.trans howner) (Option.some_ne_none _).symm
    | gone ends cut => exact absurd (cut.symm.trans howner) (Option.some_ne_none _).symm
  have hq := hq p hhome
  have hlog : ∃ r' ∈ log, r'.timer = d :=
    mem_of_history (by rw [hhist]; exact List.cons_ne_nil _ _)
  have hwaitsOld : ∀ k timer, Waits s' k timer → Waits s k timer := fun k timer hw =>
    (waits_snoc hq hheap hw).resolve_right fun hmsg => (by cases hmsg)
  obtain ⟨hlt, hinj⟩ := h.addr_append (r := r) (hr ▸ hlog)
  refine ⟨fun timer => ?_, htracked, hnext ▸ hlt, hinj,
    hq ▸ h.order.snoc fun _ _ hmsg => (by cases hmsg), fun k timer => ?_, fun k => ?_, fun k => ?_⟩
  · by_cases hne : timer = d
    · rw [hne, history_append_self log hr, hhist]
      refine .leaving p hends ?_ ?_ fun k hw => hwaits k (hwaitsOld k d hw)
      · rw [hclient, Function.update_self]
      · have hold : s.mQ.filter (isRemoval d) = [] := hquiet
        rw [removals, hq, List.filter_append, hold]
        simp [isRemoval]
    · refine h.stage_append hr hne ⟨running_update htimer ?_ (Option.some_ne_none _).symm,
          removals_snoc hq (by simp [isRemoval, Ne.symm hne]), fun k => hwaitsOld k timer⟩
        (fun hother => ?_) fun _ => hlog
      · rw [hruns]
        exact fun heq => hne (Option.some.inj heq).symm
      · rw [hclient, hcontainer, Function.update_of_ne hother, Function.update_of_ne hother]
        exact ⟨rfl, rfl⟩
  · rw [hq, hheap, List.count_append]
    exact h.single k timer
  · exact (hheap k).symm ▸ h.sorted k
  · exact (hheap k).symm ▸ h.spread k

/-! ## Calls -/

theorem Lifecycle.stop {s : TimerService} {log : List TimerRecord} (h : Lifecycle s log)
    {client : LocTimer} {d : LocTimerDelegate} {r : TimerRecord} (hruns : s.mTimer client = some d)
    (hends : Ends d r) : Lifecycle (s.stop client).1 (log ++ [r]) := by
  have hstop : (s.stop client).1 =
      { s with mTimer := Function.update s.mTimer client none }.destroyLocked d := by
    unfold TimerService.stop
    rw [hruns]
  obtain ⟨-, htimer, hclient, hnext, -⟩ := stop_some hruns
  have hheap := (s.untouched_stop (P := fun _ => True) client).heap
  cases hhome : s.mContainer d.addr with
  | none =>
    refine h.finish (h.tracked.stop client) hruns hends htimer hclient ?_ hnext ?_
      fun k => hheap k trivial
    · rw [hstop, destroyLocked]
      simp only [hhome]
      exact (Function.update_eq_self_iff.mpr hhome.symm).symm
    · intro p hp
      rw [hhome] at hp
      cases hp
  | some p =>
    refine h.finish (h.tracked.stop client) hruns hends htimer hclient ?_ hnext ?_
      fun k => hheap k trivial
    · rw [hstop, destroyLocked]
      simp only [hhome]
      rfl
    · intro p' hp'
      rw [hhome] at hp'
      obtain rfl := Option.some.inj hp'
      rw [hstop, destroyLocked]
      simp only [hhome]
      rfl

/-- Only the containers' timerfds change, or nothing that a delegate is reached from. -/
theorem Lifecycle.congr {s s' : TimerService} {log : List TimerRecord} (h : Lifecycle s log)
    (htracked : Tracked s') (htimer : s'.mTimer = s.mTimer) (hclient : s'.mClient = s.mClient)
    (hcontainer : s'.mContainer = s.mContainer) (hnext : s'.nextAddr = s.nextAddr)
    (hq : s'.mQ = s.mQ) (hheap : ∀ k, (s'.container k).toLocHeap = (s.container k).toLocHeap) :
    Lifecycle s' log where
  stage timer := by
    refine (h.stage timer).frame ⟨?_, ?_, fun k hw => ?_⟩ fun _ => ?_
    · rw [Running, Running, htimer]
    · rw [removals, removals, hq]
    · rwa [Waits, hq, hheap] at hw
    · rw [hclient, hcontainer]
      exact ⟨rfl, rfl⟩
  tracked := htracked
  addr_lt := hnext ▸ h.addr_lt
  addr_inj := h.addr_inj
  order := hq ▸ h.order
  single k timer := by
    rw [hq, hheap]
    exact h.single k timer
  sorted k := by
    rw [hheap]
    exact h.sorted k
  spread k := by
    rw [hheap]
    exact h.spread k

/-- A start changes nothing, or makes a delegate for a client without one. -/
theorem start_cases (s : TimerService) (client : LocTimer) (timeOutInMs : UInt32)
    (wakeOnExpire timerfdCreated : Bool) :
    s.start client timeOutInMs wakeOnExpire timerfdCreated = (s, false) ∨
      ∃ had : TimerService, ∃ p, s.mTimer client = none ∧
        (had = s ∨ had = s.setContainer p { s.container p with created := true }) ∧
        s.start client timeOutInMs wakeOnExpire timerfdCreated =
          (had.newDelegate client (had.now.after timeOutInMs) p, true) := by
  unfold TimerService.start
  split
  · exact Or.inl rfl
  · rename_i hidle
    dsimp only
    split
    · exact Or.inl rfl
    · rename_i had hget
      exact Or.inr ⟨had, _, hidle, get_some hget, rfl⟩

theorem Lifecycle.call {s : TimerService} {log : List TimerRecord} (h : Lifecycle s log)
    (c : TimerCall) : Lifecycle (s.call c) (log ++ callRecords s c) := by
  cases c with
  | stop client =>
    show Lifecycle (s.stop client).1 (log ++ if (s.stop client).2 then _ else [])
    cases hruns : s.mTimer client with
    | none =>
      have hstop : s.stop client = (s, false) := by
        unfold TimerService.stop
        rw [hruns]
      rw [hstop, if_neg Bool.false_ne_true, List.append_nil]
      exact h
    | some d =>
      rw [if_pos (stop_some hruns).1]
      exact h.stop hruns (Or.inl rfl)
  | start client timeOutInMs wakeOnExpire timerfdCreated =>
    show Lifecycle (s.start client timeOutInMs wakeOnExpire timerfdCreated).1
      (log ++ callRecords s (.start client timeOutInMs wakeOnExpire timerfdCreated))
    rcases start_cases s client timeOutInMs wakeOnExpire timerfdCreated with
      hfail | ⟨had, p, hidle, hsame, hstart⟩
    · simp only [callRecords, hfail, Bool.false_eq_true, if_false, List.append_nil]
      exact h
    · obtain ⟨hhad, hidle'⟩ : Lifecycle had log ∧ had.mTimer client = none := by
        rcases hsame with rfl | rfl
        · exact ⟨h, hidle⟩
        · refine ⟨h.congr ?_ rfl rfl rfl rfl rfl fun k => ?_, hidle⟩
          · exact h.tracked.setContainer _ fun timer hin => h.tracked.heap _ timer hin
          · by_cases hk : k = p
            · rw [hk, container_setContainer_self]
            · rw [container_setContainer_ne _ _ hk]
      have hrecords : callRecords s (.start client timeOutInMs wakeOnExpire timerfdCreated) =
          [.started ⟨had.nextAddr, had.now.after timeOutInMs⟩] := by
        simp only [callRecords, hstart, if_true, TimerService.newDelegate, Function.update_self]
        rfl
      rw [hrecords, hstart]
      exact hhad.start (hhad.tracked.newDelegate hidle' timeOutInMs p) hidle' rfl rfl rfl rfl rfl
        rfl fun _ => rfl

theorem Lifecycle.calls {s : TimerService} {log : List TimerRecord} (h : Lifecycle s log)
    (calls : List TimerCall) :
    Lifecycle (calls.foldl TimerService.call s) (log ++ callsRecords s calls) := by
  induction calls generalizing s log with
  | nil => exact (List.append_nil log).symm ▸ h
  | cons c calls ih =>
    have hnext := ih (h.call c)
    rw [List.append_assoc] at hnext
    exact hnext

/-! ## Expiry -/

/-- A delegate that has a stage other than the first is in the log. -/
theorem Lifecycle.recorded {s : TimerService} {log : List TimerRecord} (h : Lifecycle s log)
    {timer : LocTimerDelegate} (hreach : Running s timer ∨ ∃ p, Waits s p timer) :
    ∃ r ∈ log, r.timer = timer := by
  refine mem_of_history fun hnil => ?_
  have hstage := h.stage timer
  rw [hnil] at hstage
  obtain ⟨hnotRunning, -, haway⟩ := hstage.away
  rcases hreach with hruns | ⟨p, hw⟩
  · exact hnotRunning hruns
  · exact haway p hw

/-- The client of a delegate with records runs this delegate and no other. -/
theorem Lifecycle.runs_of_mClient {s : TimerService} {log : List TimerRecord}
    (h : Lifecycle s log) {timer : LocTimerDelegate} (hknown : ∃ r ∈ log, r.timer = timer)
    {client : LocTimer} (hclient : s.mClient timer.addr = some client) :
    s.mTimer client = some timer := by
  obtain ⟨d, hd, haddr⟩ := h.tracked.running timer.addr client hclient
  obtain ⟨r, hr, rfl⟩ := hknown
  obtain ⟨r', hr', rfl⟩ := h.recorded (Or.inl ⟨client, hd⟩)
  rw [hd, h.addr_inj r' hr' r hr haddr]

theorem Lifecycle.expireDelegate {s : TimerService} {log : List TimerRecord} (h : Lifecycle s log)
    {timer : LocTimerDelegate} (hknown : ∃ r ∈ log, r.timer = timer)
    (script : List (List TimerCall)) :
    Lifecycle (s.expireDelegate timer script).1 (log ++ expireRecords s timer script) := by
  unfold TimerService.expireDelegate expireRecords
  cases hclient : s.mClient timer.addr with
  | none =>
    rw [List.append_nil]
    exact h
  | some client =>
    have hruns := h.runs_of_mClient hknown hclient
    have htrue := (stop_some hruns).1
    simp only [htrue, if_true]
    have hstopped := h.stop hruns (Or.inr rfl)
    have hcalled : Lifecycle ((s.stop client).1.timeOutCallback client timer [])
        (log ++ [.calledBack timer]) :=
      hstopped.congr (hstopped.tracked.timeOutCallback client timer []) rfl rfl rfl rfl rfl
        fun _ => rfl
    have hcalls := hcalled.calls (script.headD [])
    rw [List.append_assoc] at hcalls
    exact hcalls

/-- A heap that has lost elements. -/
theorem Lifecycle.shrink {s : TimerService} {log : List TimerRecord} (h : Lifecycle s log)
    (p : ContainerPtr) {heap : LocHeap LocTimerDelegate}
    (hsub : ∀ timer, heap.elems.count timer ≤ (s.container p).elems.count timer)
    (hsorted : Sorted heap) :
    Lifecycle (s.setContainer p ((s.container p).withHeap heap)) log := by
  have hmem : heap.elems ⊆ (s.container p).elems := fun timer hin =>
    List.count_pos_iff.mp (lt_of_lt_of_le (List.count_pos_iff.mpr hin) (hsub timer))
  have hself : ((s.setContainer p ((s.container p).withHeap heap)).container p).toLocHeap = heap := by
    rw [container_setContainer_self]
    rfl
  have hother : ∀ k, k ≠ p → (s.setContainer p ((s.container p).withHeap heap)).container k =
      s.container k := fun k hk => container_setContainer_ne s _ hk
  refine ⟨fun timer => (h.stage timer).frame ⟨Iff.rfl, rfl, fun k hw => ?_⟩ fun _ => ⟨rfl, rfl⟩,
    h.tracked.setContainer p fun timer hin => h.tracked.heap p timer (hmem hin), h.addr_lt,
    h.addr_inj, h.order, fun k timer => ?_, fun k => ?_, fun k => ?_⟩
  · refine hw.imp (fun hin => ?_) id
    by_cases hk : k = p
    · rw [hk, hself] at hin
      exact hk ▸ hmem hin
    · rwa [hother k hk] at hin
  · by_cases hk : k = p
    · rw [hk, hself]
      exact le_trans (Nat.add_le_add_right (hsub timer) _) (h.single p timer)
    · rw [hother k hk]
      exact h.single k timer
  · by_cases hk : k = p
    · rw [hk, hself]
      exact hsorted
    · rw [hother k hk]
      exact h.sorted k
  · by_cases hk : k = p
    · rw [hk, hself]
      exact (h.spread p).mono (List.map_subset _ hmem)
    · rw [hother k hk]
      exact h.spread k

theorem Lifecycle.weakOrder {s : TimerService} {log : List TimerRecord} (h : Lifecycle s log)
    (p : ContainerPtr) : WeakOrderOn (fun t => t ∈ (s.container p).elems) :=
  weakOrderOn_timers (h.spread p)

/-- The top leaves the heap and expires. -/
theorem Lifecycle.expireTop {s : TimerService} {log : List TimerRecord} (h : Lifecycle s log)
    {p : ContainerPtr} {top : LocTimerDelegate} (htop : (s.container p).peek = some top)
    (script : List (List TimerCall)) :
    Lifecycle (expireTop s p top script).1 (log ++ expireRecords
      (s.setContainer p ((s.container p).withHeap (s.container p).pop.1)) top script) := by
  have hperm : (s.container p).pop.1.elems.Perm (s.container p).elems.tail :=
    (s.container p).pop_elems
  have hpopped : Lifecycle (s.setContainer p ((s.container p).withHeap (s.container p).pop.1))
      log := by
    refine h.shrink p (fun timer => ?_) ?_
    · rw [hperm.count_eq]
      exact (List.tail_sublist _).count_le _
    · have ht := (s.container p).mTree_pop
      exact ⟨ht ▸ pop_ordered (h.weakOrder p) (fun _ hin => hin) (h.sorted p).ordered,
        ht ▸ pop_sized (h.sorted p).sized⟩
  exact hpopped.expireDelegate (h.recorded (Or.inr ⟨p, Or.inl (mem_of_top htop)⟩)) script

theorem Lifecycle.drain (p : ContainerPtr) (timerOfNow : BootTime) (rounds : Nat)
    {s : TimerService} {log : List TimerRecord} (h : Lifecycle s log)
    (script : List (List TimerCall)) :
    Lifecycle (drain p timerOfNow rounds s script)
      (log ++ drainRecords p timerOfNow rounds s script) := by
  induction rounds generalizing s log script with
  | zero => exact (List.append_nil log).symm ▸ h
  | succ rounds ih =>
    cases hpop : ((s.container p).popIfOutRanks timerOfNow).2 with
    | none =>
      simp only [TimerService.drain, drainRecords, hpop, List.append_nil]
      exact h
    | some timer =>
      obtain ⟨htop, -, hheap⟩ := LocTimerContainer.popIfOutRanks_some hpop
      simp only [TimerService.drain, drainRecords, hpop, hheap, ← List.append_assoc]
      exact ih (h.expireTop htop script) _

theorem Lifecycle.updateSoonestTime {s : TimerService} {log : List TimerRecord}
    (h : Lifecycle s log) (p : ContainerPtr) (priorTop : Option LocTimerDelegate) :
    Lifecycle (s.setContainer p ((s.container p).updateSoonestTime priorTop)) log := by
  refine h.congr (h.tracked.updateSoonestTime p priorTop) rfl rfl rfl rfl rfl fun k => ?_
  by_cases hk : k = p
  · rw [hk, container_setContainer_self, LocTimerContainer.toLocHeap_updateSoonestTime]
  · rw [container_setContainer_ne _ _ hk]

theorem Lifecycle.procExpire {s : TimerService} {log : List TimerRecord} (h : Lifecycle s log)
    (p : ContainerPtr) (script : List (List TimerCall)) :
    Lifecycle (s.procExpire p script) (log ++ procRecords s script (.msgTimerExpire p)) := by
  unfold TimerService.procExpire
  refine Lifecycle.updateSoonestTime ?_ p none
  have hsnd := (s.container p).pop_snd
  cases htop : (s.container p).peek with
  | none =>
    rw [htop] at hsnd
    simp only [procRecords, hsnd, List.append_nil]
    exact h
  | some top =>
    rw [htop] at hsnd
    simp only [procRecords, hsnd, ← List.append_assoc]
    exact (h.expireTop htop script).drain p s.now _ _

/-! ## Messages -/

/-- The times of the heap and of a delegate that is pushed into it are close together. -/
def MsgNear (s : TimerService) : LocMsg → Prop
  | .msgTimerPush p timer => Spread INT_MAX (timesOf (timer :: (s.container p).elems))
  | _ => True

instance (s : TimerService) : (msg : LocMsg) → Decidable (MsgNear s msg)
  | .msgTimerPush p timer =>
    inferInstanceAs (Decidable (Spread INT_MAX (timesOf (timer :: (s.container p).elems))))
  | .msgTimerRemove _ _ => .isTrue trivial
  | .msgTimerExpire _ => .isTrue trivial

def PushNear (s : TimerService) : TimerEvent → Prop
  | .procMsg _ => ∀ msg ∈ s.mQ.head?, MsgNear s msg
  | _ => True

instance (s : TimerService) : (e : TimerEvent) → Decidable (PushNear s e)
  | .procMsg _ => inferInstanceAs (Decidable (∀ msg ∈ s.mQ.head?, MsgNear s msg))
  | .call _ => .isTrue trivial
  | .tick _ => .isTrue trivial
  | .pollWake _ => .isTrue trivial
  | .pollAction => .isTrue trivial

/-- The delegate goes from the message into the heap. -/
theorem Lifecycle.push {s s' : TimerService} {log : List TimerRecord} (h : Lifecycle s log)
    (htracked : Tracked s') {p : ContainerPtr} {d : LocTimerDelegate} {rest : List LocMsg}
    (hq : s.mQ = .msgTimerPush p d :: rest)
    (hspread : Spread INT_MAX (timesOf (d :: (s.container p).elems)))
    (htimer : s'.mTimer = s.mTimer) (hclient : s'.mClient = s.mClient)
    (hcontainer : s'.mContainer = s.mContainer) (hnext : s'.nextAddr = s.nextAddr)
    (hq' : s'.mQ = rest) (hheap : (s'.container p).toLocHeap = (s.container p).push d)
    (hother : ∀ k, k ≠ p → s'.container k = s.container k) : Lifecycle s' log := by
  have hperm : (s'.container p).elems.Perm (d :: (s.container p).elems) := by
    rw [hheap]
    exact (s.container p).push_elems d
  have hsub : (s.container p).elems ⊆ d :: (s.container p).elems := List.subset_cons_self _ _
  refine ⟨fun timer => (h.stage timer).frame ⟨?_, ?_, fun k hw => ?_⟩ fun _ => ?_, htracked,
    hnext ▸ h.addr_lt, h.addr_inj, ?_, fun k timer => ?_, fun k => ?_, fun k => ?_⟩
  · rw [Running, Running, htimer]
  · rw [removals, removals, hq', hq]
    rfl
  · rw [Waits, hq'] at hw
    rw [Waits, hq]
    rcases hw with hin | hin
    · by_cases hk : k = p
      · subst hk
        rcases List.mem_cons.mp (hperm.subset hin) with rfl | hin
        · exact Or.inr (List.mem_cons_self ..)
        · exact Or.inl hin
      · exact Or.inl (hother k hk ▸ hin)
    · exact Or.inr (List.mem_cons_of_mem _ hin)
  · rw [hclient, hcontainer]
    exact ⟨rfl, rfl⟩
  · exact hq' ▸ (hq ▸ h.order).tail
  · have hone := h.single k timer
    rw [hq, List.count_cons] at hone
    rw [hq']
    by_cases hk : k = p
    · subst hk
      rw [hperm.count_eq, List.count_cons]
      have hsame : (LocMsg.msgTimerPush k d == .msgTimerPush k timer) = (d == timer) := by
        rw [Bool.eq_iff_iff, beq_iff_eq, beq_iff_eq, LocMsg.msgTimerPush.injEq]
        exact and_iff_right rfl
      rw [hsame] at hone
      omega
    · rw [hother k hk]
      omega
  · by_cases hk : k = p
    · subst hk
      have ht := (s.container k).mTree_push d
      have hordered := push_ordered (weakOrderOn_timers hspread) (fun _ hin => hsub hin)
        (h.sorted k).ordered (List.mem_cons_self ..)
      rw [hheap]
      exact ⟨ht ▸ hordered, ht ▸ push_sized (h.sorted k).sized d⟩
    · rw [hother k hk]
      exact h.sorted k
  · by_cases hk : k = p
    · subst hk
      exact hspread.mono (List.map_subset _ hperm.subset)
    · rw [hother k hk]
      exact h.spread k

/-- A sorted heap without doubles does not hold what has been removed. -/
theorem not_mem_remove {heap : LocHeap LocTimerDelegate} (hsorted : Ordered heap.mTree)
    {d : LocTimerDelegate} (hone : heap.elems.count d ≤ 1) : d ∉ (heap.remove d).1.elems := by
  intro hin
  rcases heap.remove_cases d with ⟨hnone, hsame⟩ | ⟨-, hperm⟩
  · rw [hsame] at hin
    have hfound : (heap.remove d).2 = some d := by
      unfold LocHeap.remove
      split
      · rename_i hnull
        have hin' : d ∈ heap.mTree.elems := hin
        rw [LocHeapNode.isNull_iff.mp hnull] at hin'
        cases hin'
      · exact remove_found hsorted hin
    rw [hnone] at hfound
    cases hfound
  · rw [hperm.count_eq, List.count_cons_self] at hone
    have hpos := List.count_pos_iff.mpr hin
    omega

theorem count_remove_le (heap : LocHeap LocTimerDelegate) (d timer : LocTimerDelegate) :
    (heap.remove d).1.elems.count timer ≤ heap.elems.count timer := by
  rcases heap.remove_cases d with ⟨-, hsame⟩ | ⟨-, hperm⟩
  · rw [hsame]
  · rw [hperm.count_eq]
    exact List.count_le_count_cons

/-- A delegate that a removal waits for has ended, and there is no other removal. -/
theorem Stage.of_removal {s : TimerService} {d : LocTimerDelegate} {records : List TimerRecord}
    (hstage : Stage s d records) {p : ContainerPtr} {more : List LocMsg}
    (hremovals : removals s d = .msgTimerRemove p d :: more) :
    ∃ r, records = [.started d, r] ∧ Ends d r ∧ s.mClient d.addr = none ∧ more = [] ∧
      ∀ k, Waits s k d → k = p := by
  cases hstage with
  | unborn _ quiet => exact absurd (hremovals.symm.trans quiet) (List.cons_ne_nil _ _)
  | running _ _ _ quiet => exact absurd (hremovals.symm.trans quiet) (List.cons_ne_nil _ _)
  | leaving p' ends cut queued waits =>
    obtain ⟨hhead, htail⟩ := List.cons.inj (hremovals.symm.trans queued)
    obtain ⟨rfl, -⟩ := LocMsg.msgTimerRemove.inj hhead
    exact ⟨_, rfl, ends, cut, htail, waits⟩
  | gone _ _ quiet => exact absurd (hremovals.symm.trans quiet) (List.cons_ne_nil _ _)

theorem count_removed_le {s s' : TimerService} {p : ContainerPtr} {d : LocTimerDelegate}
    (hheap : (s'.container p).toLocHeap = ((s.container p).remove d).1)
    (hother : ∀ k, k ≠ p → s'.container k = s.container k) (k : ContainerPtr)
    (timer : LocTimerDelegate) :
    (s'.container k).elems.count timer ≤ (s.container k).elems.count timer := by
  by_cases hk : k = p
  · subst hk
    rw [hheap]
    exact count_remove_le _ d timer
  · rw [hother k hk]

/-- Nothing reaches the delegate when it is deleted. -/
theorem Lifecycle.remove {s s' : TimerService} {log : List TimerRecord} (h : Lifecycle s log)
    (htracked : Tracked s') {p : ContainerPtr} {d : LocTimerDelegate} {rest : List LocMsg}
    (hq : s.mQ = .msgTimerRemove p d :: rest) (htimer : s'.mTimer = s.mTimer)
    (hclient : s'.mClient = s.mClient) (hcontainer : s'.mContainer = s.mContainer)
    (hnext : s'.nextAddr = s.nextAddr) (hq' : s'.mQ = rest)
    (hheap : (s'.container p).toLocHeap = ((s.container p).remove d).1)
    (hother : ∀ k, k ≠ p → s'.container k = s.container k) :
    Lifecycle s' (log ++ [.deleted d]) := by
  have hr : (TimerRecord.deleted d).timer = d := rfl
  have horder : PushFirst (.msgTimerRemove p d :: rest) := hq ▸ h.order
  have hremovals : removals s d = .msgTimerRemove p d :: rest.filter (isRemoval d) := by
    rw [removals, hq, List.filter_cons_of_pos (by simp [isRemoval])]
  obtain ⟨r, hhist, hends, hcut, hquiet, hwaits⟩ := (h.stage d).of_removal hremovals
  have hlog : ∃ r' ∈ log, r'.timer = d :=
    mem_of_history (by rw [hhist]; exact List.cons_ne_nil _ _)
  have hcount : ∀ k timer, (s'.container k).elems.count timer ≤
      (s.container k).elems.count timer := fun k timer => count_removed_le hheap hother k timer
  have hmem : ∀ k, (s'.container k).elems ⊆ (s.container k).elems := fun k timer hin =>
    List.count_pos_iff.mp (lt_of_lt_of_le (List.count_pos_iff.mpr hin) (hcount k timer))
  have hwaitsOld : ∀ k timer, Waits s' k timer → Waits s k timer := fun _ _ =>
    waits_tail hq hq' hmem
  obtain ⟨hlt, hinj⟩ := h.addr_append (r := .deleted d) hlog
  refine ⟨fun timer => ?_, htracked, hnext ▸ hlt, hinj, ?_, fun k timer => ?_, fun k => ?_,
    fun k => ?_⟩
  · by_cases hne : timer = d
    · rw [hne, history_append_self log hr, hhist]
      refine .gone hends (hclient ▸ hcut) ?_ fun k hw => ?_
      · rw [removals, hq']
        exact hquiet
      · obtain rfl := hwaits k (hwaitsOld k d hw)
        rcases hw with hin | hin
        · rw [hheap] at hin
          refine not_mem_remove (h.sorted k).ordered ?_ hin
          exact le_trans (Nat.le_add_right _ _) (h.single k d)
        · rw [hq'] at hin
          exact (List.pairwise_cons.mp horder).1 _ hin k k d rfl rfl
    · refine h.stage_append hr hne ⟨?_, ?_, fun k => hwaitsOld k timer⟩ (fun _ => ?_)
        fun _ => hlog
      · rw [Running, Running, htimer]
      · rw [removals, removals, hq', hq, List.filter_cons_of_neg]
        simpa [isRemoval] using Ne.symm hne
      · rw [hclient, hcontainer]
        exact ⟨rfl, rfl⟩
  · exact hq' ▸ horder.tail
  · have hone := h.single k timer
    rw [hq, List.count_cons] at hone
    have hless := hcount k timer
    rw [hq']
    omega
  · by_cases hk : k = p
    · subst hk
      have ht := mTree_remove (s.container k).toLocHeap d
      rw [hheap]
      exact ⟨ht ▸ remove_ordered (h.weakOrder k) d (fun _ hin => hin) (h.sorted k).ordered,
        ht ▸ remove_sized d (h.sorted k).sized⟩
    · rw [hother k hk]
      exact h.sorted k
  · exact (h.spread k).mono (List.map_subset _ (hmem k))

/-! ## Runs -/

theorem Lifecycle.proc {s : TimerService} {log : List TimerRecord} (h : Lifecycle s log)
    (script : List (List TimerCall)) {msg : LocMsg} {rest : List LocMsg}
    (hq : s.mQ = msg :: rest) (hnear : PushNear s (.procMsg script)) :
    Lifecycle ({ s with mQ := rest }.proc script msg)
      (log ++ procRecords { s with mQ := rest } script msg) := by
  have htracked := h.tracked.proc script hq
  cases msg with
  | msgTimerPush p d =>
    rw [show procRecords _ script (.msgTimerPush p d) = [] from rfl, List.append_nil]
    refine h.push htracked hq (hnear (.msgTimerPush p d) (by rw [hq]; rfl)) rfl rfl rfl rfl rfl ?_
      fun k hk => container_setContainer_ne _ _ hk
    show ((TimerService.setContainer _ p _).container p).toLocHeap = _
    rw [container_setContainer_self]
    exact (s.container p).toLocHeap_procPush d
  | msgTimerRemove p d =>
    refine h.remove htracked hq rfl rfl rfl rfl rfl ?_
      fun k hk => container_setContainer_ne { s with mQ := rest } _ hk
    show ((TimerService.setContainer { s with mQ := rest } p _).container p).toLocHeap = _
    rw [container_setContainer_self]
    exact (s.container p).toLocHeap_procRemove d
  | msgTimerExpire p =>
    have hnoPush : ∀ k timer, LocMsg.msgTimerExpire p ≠ .msgTimerPush k timer :=
      fun _ _ hh => (by cases hh)
    have hrest : Lifecycle { s with mQ := rest } log := by
      refine ⟨fun timer => (h.stage timer).frame
          ⟨Iff.rfl, ?_, fun k => @waits_tail s { s with mQ := rest } timer _ _ hq rfl
            (fun _ => List.Subset.refl _) k⟩ fun _ => ⟨rfl, rfl⟩,
        h.tracked.dequeue hq, h.addr_lt, h.addr_inj, (hq ▸ h.order : PushFirst (_ :: rest)).tail,
        fun k timer => ?_, h.sorted, h.spread⟩
      · rw [removals, removals, hq]
        rfl
      · have hone := h.single k timer
        rw [hq, List.count_cons_of_ne (hnoPush k timer)] at hone
        exact hone
    exact hrest.procExpire p script

/-- A message that removes no delegate and pushes none is posted. -/
theorem Lifecycle.sendExpire {s : TimerService} {log : List TimerRecord} (h : Lifecycle s log)
    {p : ContainerPtr} (htracked : Tracked (s.sendMsg (.msgTimerExpire p))) :
    Lifecycle (s.sendMsg (.msgTimerExpire p)) log := by
  have hq : (s.sendMsg (.msgTimerExpire p)).mQ = s.mQ ++ [.msgTimerExpire p] := rfl
  refine ⟨fun timer => (h.stage timer).frame ⟨Iff.rfl, removals_snoc hq rfl, fun k hw =>
      (waits_snoc hq (fun _ => rfl) hw).resolve_right fun hmsg => (by cases hmsg)⟩
      fun _ => ⟨rfl, rfl⟩,
    htracked, h.addr_lt, h.addr_inj, h.order.snoc fun _ _ hmsg => (by cases hmsg),
    fun k timer => ?_, h.sorted, h.spread⟩
  rw [hq, List.count_append]
  exact h.single k timer

theorem Lifecycle.step {s : TimerService} {log : List TimerRecord} (h : Lifecycle s log)
    {e : TimerEvent} (hnear : PushNear s e) :
    Lifecycle (s.step e) (log ++ stepRecords s e) := by
  have htracked := h.tracked.step e
  cases e with
  | call c => exact h.call c
  | tick time =>
    rw [show stepRecords s (.tick time) = [] from rfl, List.append_nil]
    unfold TimerService.step at htracked ⊢
    dsimp only at htracked ⊢
    split at htracked
    · rename_i hle
      rw [if_pos hle]
      exact h.congr htracked rfl rfl rfl rfl rfl fun _ => rfl
    · rename_i hle
      rw [if_neg hle]
      exact h
  | pollWake fired =>
    rw [show stepRecords s (.pollWake fired) = [] from rfl, List.append_nil]
    unfold TimerService.step at htracked ⊢
    dsimp only at htracked ⊢
    split at htracked
    · rename_i hen
      rw [if_pos hen]
      exact h.congr htracked rfl rfl rfl rfl rfl fun _ => rfl
    · rename_i hen
      rw [if_neg hen]
      exact h
  | pollAction =>
    rw [show stepRecords s .pollAction = [] from rfl, List.append_nil]
    unfold TimerService.step at htracked ⊢
    cases hthread : s.pollThread with
    | nil => exact h
    | cons action rest =>
      simp only [hthread] at htracked
      have hrest : Lifecycle { s with pollThread := rest } log :=
        h.congr ⟨h.tracked.owner, h.tracked.running, h.tracked.fresh, h.tracked.heap,
          h.tracked.queue⟩ rfl rfl rfl rfl rfl fun _ => rfl
      have hflag : ∀ p (c : LocTimerContainer), c.toLocHeap = (s.container p).toLocHeap →
          ∀ k, (({ s with pollThread := rest }.setContainer p c).container k).toLocHeap =
            (s.container k).toLocHeap := by
        intro p c hc k
        by_cases hk : k = p
        · rw [hk, container_setContainer_self, hc]
        · rw [container_setContainer_ne _ _ hk]
      cases action with
      | disarm p => exact hrest.congr htracked rfl rfl rfl rfl rfl (hflag p _ rfl)
      | removePoll p => exact hrest.congr htracked rfl rfl rfl rfl rfl (hflag p _ rfl)
      | sendExpire p => exact hrest.sendExpire htracked
  | procMsg script =>
    unfold TimerService.step stepRecords
    cases hq : s.mQ with
    | nil =>
      simp only [List.append_nil]
      exact h
    | cons msg rest => exact h.proc script hq hnear

/-! ## What the records record -/

def TimerRecord.called : TimerRecord → Option LocTimerDelegate
  | .calledBack timer => some timer
  | _ => none

def TimerRecord.gone : TimerRecord → Option LocTimerDelegate
  | .deleted timer => some timer
  | _ => none

/-- The callbacks and the deletions of the service are those of the log. -/
structure Logged (s : TimerService) (log : List TimerRecord) : Prop where
  callbacks : s.callbacks.map (·.timer) = log.filterMap TimerRecord.called
  deleted : s.deleted = log.filterMap TimerRecord.gone

theorem Logged.append {s s' : TimerService} {log new : List TimerRecord} (h : Logged s log)
    (hcall : s'.callbacks.map (·.timer) =
      s.callbacks.map (·.timer) ++ new.filterMap TimerRecord.called)
    (hdel : s'.deleted = s.deleted ++ new.filterMap TimerRecord.gone) :
    Logged s' (log ++ new) where
  callbacks := by rw [hcall, h.callbacks, List.filterMap_append]
  deleted := by rw [hdel, h.deleted, List.filterMap_append]

theorem deleted_stop (s : TimerService) (client : LocTimer) :
    (s.stop client).1.deleted = s.deleted := by
  unfold TimerService.stop destroyLocked
  split
  · rfl
  · dsimp only
    split <;> rfl

theorem deleted_call (s : TimerService) (c : TimerCall) : (s.call c).deleted = s.deleted := by
  cases c with
  | stop client => exact deleted_stop s client
  | start client timeOutInMs wakeOnExpire timerfdCreated =>
    show (s.start client timeOutInMs wakeOnExpire timerfdCreated).1.deleted = s.deleted
    rcases start_cases s client timeOutInMs wakeOnExpire timerfdCreated with
      hfail | ⟨had, p, -, hsame, hstart⟩
    · rw [hfail]
    · rw [hstart]
      rcases hsame with rfl | rfl <;> rfl

/-- A call is neither a callback nor a deletion. -/
theorem callRecords_quiet (s : TimerService) (c : TimerCall) :
    (callRecords s c).filterMap TimerRecord.called = [] ∧
      (callRecords s c).filterMap TimerRecord.gone = [] := by
  cases c with
  | start client timeOutInMs wakeOnExpire timerfdCreated =>
    unfold callRecords
    dsimp only
    split
    · cases (s.start client timeOutInMs wakeOnExpire timerfdCreated).1.mTimer client <;>
        exact ⟨rfl, rfl⟩
    · exact ⟨rfl, rfl⟩
  | stop client =>
    unfold callRecords
    dsimp only
    split
    · cases s.mTimer client <;> exact ⟨rfl, rfl⟩
    · exact ⟨rfl, rfl⟩

theorem Logged.call {s : TimerService} {log : List TimerRecord} (h : Logged s log)
    (c : TimerCall) : Logged (s.call c) (log ++ callRecords s c) := by
  obtain ⟨hcalled, hgone⟩ := callRecords_quiet s c
  refine h.append ?_ ?_
  · rw [hcalled, callbacks_call, List.append_nil]
  · rw [hgone, deleted_call, List.append_nil]

theorem Logged.calls {s : TimerService} {log : List TimerRecord} (h : Logged s log)
    (calls : List TimerCall) :
    Logged (calls.foldl TimerService.call s) (log ++ callsRecords s calls) := by
  induction calls generalizing s log with
  | nil => exact (List.append_nil log).symm ▸ h
  | cons c calls ih =>
    have hnext := ih (h.call c)
    rw [List.append_assoc] at hnext
    exact hnext

theorem Logged.expireDelegate {s : TimerService} {log : List TimerRecord} (h : Logged s log)
    (timer : LocTimerDelegate) (script : List (List TimerCall)) :
    Logged (s.expireDelegate timer script).1 (log ++ expireRecords s timer script) := by
  unfold TimerService.expireDelegate expireRecords
  cases s.mClient timer.addr with
  | none =>
    rw [List.append_nil]
    exact h
  | some client =>
    dsimp only
    split
    · have hcalled : Logged ((s.stop client).1.timeOutCallback client timer [])
          (log ++ [.calledBack timer]) := by
        refine h.append ?_ ?_
        · rw [callbacks_timeOutCallback, callbacks_stop, List.map_append]
          rfl
        · show (s.stop client).1.deleted = s.deleted ++ []
          rw [deleted_stop, List.append_nil]
      have hcalls := hcalled.calls (script.headD [])
      rw [List.append_assoc] at hcalls
      exact hcalls
    · rw [List.append_nil]
      exact ⟨by rw [callbacks_stop]; exact h.callbacks, by rw [deleted_stop]; exact h.deleted⟩

theorem Logged.drain (p : ContainerPtr) (timerOfNow : BootTime) (rounds : Nat)
    {s : TimerService} {log : List TimerRecord} (h : Logged s log)
    (script : List (List TimerCall)) :
    Logged (drain p timerOfNow rounds s script)
      (log ++ drainRecords p timerOfNow rounds s script) := by
  induction rounds generalizing s log script with
  | zero => exact (List.append_nil log).symm ▸ h
  | succ rounds ih =>
    cases hpop : ((s.container p).popIfOutRanks timerOfNow).2 with
    | none =>
      simp only [TimerService.drain, drainRecords, hpop, List.append_nil]
      exact h
    | some timer =>
      simp only [TimerService.drain, drainRecords, hpop, ← List.append_assoc]
      refine ih (Logged.expireDelegate ?_ timer script) _
      exact ⟨h.callbacks, h.deleted⟩

theorem Logged.proc {s : TimerService} {log : List TimerRecord} (h : Logged s log)
    (script : List (List TimerCall)) (msg : LocMsg) :
    Logged (s.proc script msg) (log ++ procRecords s script msg) := by
  cases msg with
  | msgTimerPush p d =>
    exact h.append (List.append_nil _).symm (List.append_nil _).symm
  | msgTimerRemove p d => exact h.append (List.append_nil _).symm rfl
  | msgTimerExpire p =>
    cases hpop : (s.container p).pop.2 with
    | none =>
      simp only [TimerService.proc, TimerService.procExpire, procRecords, hpop, List.append_nil]
      exact ⟨h.callbacks, h.deleted⟩
    | some timer =>
      have hpopped : Logged (s.setContainer p ((s.container p).withHeap (s.container p).pop.1))
          log := ⟨h.callbacks, h.deleted⟩
      have hloop := (hpopped.expireDelegate timer script).drain p s.now
        (s.container p).elems.length ((s.setContainer p ((s.container p).withHeap
          (s.container p).pop.1)).expireDelegate timer script).2
      simp only [TimerService.proc, TimerService.procExpire, procRecords, hpop,
        ← List.append_assoc]
      exact ⟨hloop.callbacks, hloop.deleted⟩

theorem Logged.step {s : TimerService} {log : List TimerRecord} (h : Logged s log)
    (e : TimerEvent) : Logged (s.step e) (log ++ stepRecords s e) := by
  have hsame : ∀ s' : TimerService, s'.callbacks = s.callbacks → s'.deleted = s.deleted →
      Logged s' (log ++ []) := by
    intro s' hcall hdel
    rw [List.append_nil]
    exact ⟨hcall ▸ h.callbacks, hdel ▸ h.deleted⟩
  unfold TimerService.step stepRecords
  cases e with
  | call c => exact h.call c
  | tick time =>
    dsimp only
    split <;> exact hsame _ rfl rfl
  | pollWake fired =>
    dsimp only
    split <;> exact hsame _ rfl rfl
  | pollAction =>
    cases hthread : s.pollThread with
    | nil => exact hsame _ rfl rfl
    | cons action rest => cases action <;> exact hsame _ rfl rfl
  | procMsg script =>
    cases hq : s.mQ with
    | nil => exact hsame _ rfl rfl
    | cons msg rest =>
      have hrest : Logged { s with mQ := rest } log := ⟨h.callbacks, h.deleted⟩
      exact hrest.proc script msg

/-! ## Callbacks and deletions -/

/-- What a run has made of the delegates. -/
structure Sound (q : Recorded) : Prop where
  logged : Logged q.service q.log
  /-- Each successful start has a delegate of its own. -/
  own : ∀ d, q.log.count (.started d) ≤ 1
  once : ∀ d, q.log.count (.calledBack d) ≤ q.log.count (.started d)
  stopped : ∀ d, .stopped d ∈ q.log → .calledBack d ∉ q.log
  /-- A delegate runs, or waits for its one removal, or has been deleted once. -/
  deleted : ∀ d, .started d ∈ q.log →
    Running q.service d ∧ removals q.service d = [] ∧ q.log.count (.deleted d) = 0 ∨
      ¬ Running q.service d ∧ (removals q.service d).length = 1 ∧
        q.log.count (.deleted d) = 0 ∨
      ¬ Running q.service d ∧ removals q.service d = [] ∧ q.log.count (.deleted d) = 1
  left : ∀ d, .deleted d ∈ q.log → ∀ p, ¬ Waits q.service p d

theorem count_history (log : List TimerRecord) {r : TimerRecord} {d : LocTimerDelegate}
    (hr : r.timer = d) : log.count r = (history log d).count r :=
  (List.count_filter (by simp [hr])).symm

theorem mem_history {log : List TimerRecord} {r : TimerRecord} {d : LocTimerDelegate}
    (hr : r.timer = d) : r ∈ log ↔ r ∈ history log d := by
  simp [history, hr]

/-- What the records of a delegate say in every stage. -/
theorem Stage.sound {s : TimerService} {d : LocTimerDelegate} {records : List TimerRecord}
    (h : Stage s d records) (hcut : s.mClient d.addr = none → ¬ Running s d) :
    records.count (.started d) ≤ 1 ∧
      records.count (.calledBack d) ≤ records.count (.started d) ∧
      (.stopped d ∈ records → .calledBack d ∉ records) ∧
      (.started d ∈ records →
        Running s d ∧ removals s d = [] ∧ records.count (.deleted d) = 0 ∨
          ¬ Running s d ∧ (removals s d).length = 1 ∧ records.count (.deleted d) = 0 ∨
          ¬ Running s d ∧ removals s d = [] ∧ records.count (.deleted d) = 1) ∧
      (.deleted d ∈ records → ∀ p, ¬ Waits s p d) := by
  cases h with
  | unborn => simp
  | running p runs home quiet waits =>
    exact ⟨by simp, by simp, by simp, fun _ => Or.inl ⟨runs, quiet, by simp⟩, by simp⟩
  | leaving p ends cut queued waits =>
    have hqueued : (removals s d).length = 1 := by
      rw [queued]
      rfl
    rcases ends with rfl | rfl
    · exact ⟨by simp, by simp, by simp,
        fun _ => Or.inr (Or.inl ⟨hcut cut, hqueued, by simp⟩), by simp⟩
    · exact ⟨by simp, by simp, by simp,
        fun _ => Or.inr (Or.inl ⟨hcut cut, hqueued, by simp⟩), by simp⟩
  | gone ends cut quiet away =>
    rcases ends with rfl | rfl
    · exact ⟨by simp, by simp, by simp,
        fun _ => Or.inr (Or.inr ⟨hcut cut, quiet, by simp⟩), fun _ => away⟩
    · exact ⟨by simp, by simp, by simp,
        fun _ => Or.inr (Or.inr ⟨hcut cut, quiet, by simp⟩), fun _ => away⟩

theorem Lifecycle.sound {q : Recorded} (h : Lifecycle q.service q.log)
    (hlogged : Logged q.service q.log) : Sound q := by
  have hstage := fun d => (h.stage d).sound fun hnone ⟨client, hc⟩ => by
    rw [h.tracked.owner client d hc] at hnone
    cases hnone
  have hcount := fun d => count_history q.log (r := .deleted d) (d := d) rfl
  refine ⟨hlogged, fun d => ?_, fun d => ?_, fun d => ?_, fun d => ?_, fun d => ?_⟩
  · rw [count_history q.log (d := d) rfl]
    exact (hstage d).1
  · rw [count_history q.log (d := d) rfl, count_history q.log (r := .started d) (d := d) rfl]
    exact (hstage d).2.1
  · rw [mem_history (r := .stopped d) (d := d) rfl, mem_history (r := .calledBack d) (d := d) rfl]
    exact (hstage d).2.2.1
  · rw [mem_history (d := d) rfl, hcount d]
    exact (hstage d).2.2.2.1
  · rw [mem_history (d := d) rfl]
    exact (hstage d).2.2.2.2

/-- The records and the invariant, for every state of a run whose pushes find the times in the
heap close together. -/
theorem lifecycle_run (now : BootTime) {es : List TimerEvent}
    (hnear : Steps Recorded.step (fun q e => PushNear q.service e) (.new now) es) :
    Lifecycle (run Recorded.step (.new now) es).service (run Recorded.step (.new now) es).log ∧
      Logged (run Recorded.step (.new now) es).service (run Recorded.step (.new now) es).log :=
  inv_run (I := fun q : Recorded => Lifecycle q.service q.log ∧ Logged q.service q.log)
    (fun _ e h hpush => ⟨h.1.step hpush, h.2.step e⟩) ⟨lifecycle_new now, ⟨rfl, rfl⟩⟩ hnear

/-! ## The boot clock -/

/-- With the longest timeout, which is less than 4294968 seconds, the seconds still fit an
`int`: so they do for 67 years after a boot. -/
def UptimeFits (time : BootTime) : Prop := time.tv_sec + 4294968 ≤ INT_MAX

instance (time : BootTime) : Decidable (UptimeFits time) := inferInstanceAs (Decidable (_ ≤ _))

theorem fits_of_near {now : BootTime} (hnow : UptimeFits now) {timer : LocTimerDelegate}
    (hnear : Near now timer) : timer.mFutureTime.tv_sec ≤ INT_MAX := by
  have hnsec := now.nsec_lt
  simp only [UptimeFits, Near, Timespec.nanos] at hnow hnear
  omega

/-- Only a tick moves the clock. -/
theorem now_step (s : TimerService) (e : TimerEvent) :
    (s.step e).now = s.now ∨ e = .tick (s.step e).now := by
  cases e with
  | call c => exact Or.inl (untouched_call (P := fun _ => True) s c).now
  | tick time =>
    unfold TimerService.step
    dsimp only
    split
    · exact Or.inr rfl
    · exact Or.inl rfl
  | pollWake fired =>
    unfold TimerService.step
    dsimp only
    split <;> exact Or.inl rfl
  | pollAction =>
    unfold TimerService.step
    dsimp only
    split
    · exact Or.inl rfl
    · rename_i action _ _
      cases action <;> exact Or.inl rfl
  | procMsg script =>
    unfold TimerService.step
    dsimp only
    split
    · exact Or.inl rfl
    · rename_i msg rest _
      cases msg with
      | msgTimerPush p timer => exact Or.inl rfl
      | msgTimerRemove p timer => exact Or.inl rfl
      | msgTimerExpire p => exact Or.inl (untouched_procExpire { s with mQ := rest } p script).now

/-- The clock fits, and the times of the timers that wait come at most a timeout after it. -/
structure Early (s : TimerService) : Prop where
  tracked : Tracked s
  now : UptimeFits s.now

theorem Early.step {s : TimerService} (h : Early s) {e : TimerEvent}
    (he : ∀ time, e = .tick time → UptimeFits time) : Early (s.step e) where
  tracked := h.tracked.step e
  now := by
    rcases now_step s e with hsame | htick
    · exact hsame ▸ h.now
    · exact he _ htick

/-- The times that a push finds are then close together. -/
theorem Early.pushNear {s : TimerService} (h : Early s) (e : TimerEvent) : PushNear s e := by
  cases e with
  | procMsg script =>
    intro msg hmsg
    cases msg with
    | msgTimerPush p timer =>
      refine spread_of_le fun time htime => ?_
      obtain ⟨t, ht, rfl⟩ := List.mem_map.mp htime
      rcases List.mem_cons.mp ht with rfl | ht
      · exact fits_of_near h.now (h.tracked.queue p t (List.mem_of_mem_head? hmsg))
      · exact fits_of_near h.now (h.tracked.heap p t ht)
    | msgTimerRemove p timer => trivial
    | msgTimerExpire p => trivial
  | call c => trivial
  | tick time => trivial
  | pollWake fired => trivial
  | pollAction => trivial

section Boot
variable {now : BootTime} {es : List TimerEvent}

theorem early_run (hnow : UptimeFits now) (hticks : ∀ time, .tick time ∈ es → UptimeFits time) :
    Early (run Recorded.step (.new now) es).service ∧
      Steps Recorded.step (fun q e => PushNear q.service e) (.new now) es := by
  have hstart : Early (Recorded.new now).service := ⟨tracked_new now, hnow⟩
  have hall : ∀ e ∈ es, ∀ time, e = .tick time → UptimeFits time :=
    fun e he time htick => hticks time (htick ▸ he)
  have hsteps : Steps Recorded.step (fun _ e => ∀ time, e = .tick time → UptimeFits time)
      (.new now) es :=
    steps_of_mem hall _
  exact ⟨inv_run (I := fun q : Recorded => Early q.service) (fun _ _ h he => h.step he) hstart
      hsteps,
    steps_of_inv (I := fun q : Recorded => Early q.service) (fun _ e h _ => h.pushNear e)
      (fun _ _ h he => h.step he) hstart hsteps⟩

/-- In a run every expiry message with a due top finds a heap that it drains in order; `rest` is
the queue behind it. -/
theorem drains_in_run (hnow : UptimeFits now) (hticks : ∀ time, .tick time ∈ es → UptimeFits time)
    {p : ContainerPtr} {top : LocTimerDelegate}
    (htop : ((run Recorded.step (.new now) es).service.container p).peek = some top)
    (hdue : Due (run Recorded.step (.new now) es).service.now top)
    (rest : List LocMsg) (script : List (List TimerCall)) :
    DrainsInOrder { (run Recorded.step (.new now) es).service with mQ := rest } p script := by
  obtain ⟨hearly, hnear⟩ := early_run hnow hticks
  obtain ⟨hlife, -⟩ := lifecycle_run now hnear
  have hsorted := hlife.sorted p
  refine drained_procExpire script ⟨checkNodes_true hsorted.ordered hsorted.sized, ?_,
    top, htop, hdue⟩ (spread_of_le fun time htime => ?_)
  · exact List.nodup_iff_count_le_one.mpr fun timer =>
      (Nat.le_add_right _ _).trans (hlife.single p timer)
  · rcases List.mem_cons.mp htime with rfl | htime
    · exact (Nat.le_add_right _ _).trans hearly.now
    · obtain ⟨timer, hin, rfl⟩ := List.mem_map.mp htime
      exact fits_of_near hearly.now (hearly.tracked.heap p timer hin)

end Boot

/-- **Callbacks happen at most once, and every delegate is deleted once.** In every state of a
run within 67 years after the boot each start has had at most one callback, and none if it has
been stopped; its delegate is deleted once, when it is in no heap and on its way into none. -/
theorem sound_run (now : BootTime) (es : List TimerEvent) (hnow : UptimeFits now)
    (hticks : ∀ time, .tick time ∈ es → UptimeFits time) :
    Sound (run Recorded.step (.new now) es) := by
  obtain ⟨hlife, hlogged⟩ := lifecycle_run now (early_run hnow hticks).2
  exact hlife.sound hlogged

/-- A timer that runs out and starts another one from its callback. -/
theorem sound_run_restart :
    let es : List TimerEvent := [.call (.start 1 10 false true), .procMsg [],
      .tick (bootSecond.after 10), .pollWake [.mSwTimers], .pollAction, .pollAction, .pollAction,
      .procMsg [[.start 1 5 false true]], .procMsg [], .call (.stop 1), .procMsg []]
    Sound (run Recorded.step (.new bootSecond) es) := by
  intro es
  refine sound_run bootSecond es (by decide) fun time htime => ?_
  obtain rfl : time = bootSecond.after 10 := by simpa [es] using htime
  decide

end DeviceHal.Utils.TimerLifecycle
