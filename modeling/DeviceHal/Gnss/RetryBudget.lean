import DeviceHal.Gnss.AgpsDataCall
import Mathlib.Data.List.DropRight

/-! # The retries of the emergency data call

`mRetries` goes up with every busy result and is cleared by a denial only. It
therefore counts the busy results since the last fallback, and a call that was
set up in between does not clear it. -/
namespace DeviceHal.Gnss.RetryBudget
open DeviceHal.Lib.Run DeviceHal.Gnss.AgpsMachine DeviceHal.Gnss.AgpsMachine.AgpsStateMachine
open DeviceHal.Gnss.AgpsSubscribers DeviceHal.Gnss.AgpsDataCall

/-! ## Results in a row -/

section
variable {α : Type*} (p : α → Bool)

/-- The elements of `l` that meet `p` all stand at its end exactly if none that
does not comes after one that does. -/
theorem countP_le_rtakeWhile_iff (l : List α) :
    l.countP p ≤ (l.rtakeWhile p).length ↔ ∀ x ∈ l.dropWhile (!p ·), p x := by
  induction l with
  | nil => simp
  | cons a l ih =>
    have hcons : (a :: l).rtakeWhile p =
        if ∀ x ∈ l, p x then (if p a then a :: l else l) else l.rtakeWhile p := by
      rw [List.rtakeWhile, List.reverse_cons, List.takeWhile_append]
      by_cases hall : ∀ x ∈ l, p x
      · have hself : l.reverse.takeWhile p = l.reverse :=
          List.takeWhile_eq_self_iff.mpr fun x hx => hall x (List.mem_reverse.mp hx)
        rw [hself, if_pos rfl, if_pos hall]
        cases hp : p a <;> simp [hp]
      · have hshort : (l.reverse.takeWhile p).length ≠ l.reverse.length := by
          intro hlen
          refine hall fun x hx => ?_
          rw [← List.mem_reverse,
            ← (List.takeWhile_prefix (l := l.reverse) p).eq_of_length hlen] at hx
          exact List.mem_takeWhile_imp hx
        rw [if_neg hshort, if_neg hall]
        rfl
    cases hp : p a with
    | false =>
      rw [List.countP_cons_of_neg (by simp [hp]), List.dropWhile_cons_of_pos (by simp [hp]), ← ih,
        hcons]
      by_cases hall : ∀ x ∈ l, p x
      · rw [if_pos hall, hp, if_neg Bool.false_ne_true, List.rtakeWhile_eq_self_iff.mpr hall]
      · rw [if_neg hall]
    | true =>
      rw [List.countP_cons_of_pos (by simp [hp]), List.dropWhile_cons_of_neg (by simp [hp]), hcons]
      by_cases hall : ∀ x ∈ l, p x
      · rw [if_pos hall, if_pos hp]
        refine iff_of_true ?_ (List.forall_mem_cons.mpr ⟨hp, hall⟩)
        exact Nat.succ_le_succ List.countP_le_length
      · rw [if_neg hall]
        refine iff_of_false (fun hle => ?_) fun h => hall (List.forall_mem_cons.mp h).2
        have hsuffix : (l.rtakeWhile p).length ≤ l.countP p := by
          have hmeets : ∀ x ∈ l.rtakeWhile p, p x := fun x hx => List.mem_rtakeWhile_imp hx
          rw [← List.countP_eq_length.mpr hmeets]
          exact (List.rtakeWhile_suffix p l).sublist.countP_le
        omega

end

/-! ## Runs -/

/-- An event of the machine, or the restart of the modem. -/
inductive RetryEvent where
  | machine (i : DSInput)
  | handleModemSSR
deriving DecidableEq

/-- What the start function returns if the event calls it; a restart does not. -/
def RetryEvent.startResult : RetryEvent → Int
  | .machine i => i.startResult
  | .handleModemSSR => LOC_API_ADAPTER_ERR_SUCCESS

def busy (ret : Int) : Bool := ret == LOC_API_ADAPTER_ERR_ENGINE_BUSY

/-- A request that is posted for normal SUPL. -/
def isFallback : AgpsCall → Bool
  | .sendMsg _ type => type == LOC_AGPS_TYPE_SUPL
  | _ => false

/-- The machine, with the results of the start function since the last fallback. -/
structure RetryHistory where
  sm : AgpsStateMachine
  since : List Int
deriving DecidableEq

def RetryHistory.new : RetryHistory := ⟨newDS, []⟩

/-- The machine after an event; `calls` holds the calls of this event only. -/
def RetryHistory.next (h : RetryHistory) : RetryEvent → AgpsStateMachine
  | .machine i => dsHandle { h.sm with calls := [] } i
  | .handleModemSSR => { h.sm with calls := [] }.dropAllSubscribers

def retryStep (h : RetryHistory) (e : RetryEvent) : RetryHistory :=
  { sm := h.next e
    since :=
      if (h.next e).calls.any isFallback then []
      else if .openAndStartDataCall ∈ (h.next e).calls then h.since ++ [e.startResult]
      else h.since }

/-- The event calls the start function, which is busy. -/
def StartsBusy (h : RetryHistory) (e : RetryEvent) : Prop :=
  .openAndStartDataCall ∈ (h.next e).calls ∧ busy e.startResult = true

instance (h : RetryHistory) (e : RetryEvent) : Decidable (StartsBusy h e) :=
  inferInstanceAs (Decidable (_ ∧ _))

/-- A fallback for a busy result comes after one result more than there are
retries, all busy and in a row. -/
def BudgetSpent (h : RetryHistory) (e : RetryEvent) : Prop :=
  StartsBusy h e → (h.next e).calls.any isFallback = true →
    MAX_START_DATA_CALL_RETRIES + 1 ≤ ((h.since ++ [e.startResult]).rtakeWhile busy).length

/-- When a busy result comes after as many as there are retries, those were not
interrupted by any other result. -/
def Uninterrupted (h : RetryHistory) (e : RetryEvent) : Prop :=
  StartsBusy h e → h.since.countP busy = MAX_START_DATA_CALL_RETRIES →
    ∀ ret ∈ h.since.dropWhile (!busy ·), busy ret = true

instance (h : RetryHistory) (e : RetryEvent) : Decidable (BudgetSpent h e) :=
  inferInstanceAs (Decidable (_ → _ → _))

instance (h : RetryHistory) (e : RetryEvent) : Decidable (Uninterrupted h e) :=
  inferInstanceAs (Decidable (_ → _ → _))

/-! ## The counter through one event -/

/-- Nothing was started yet, and nobody sent to normal SUPL. -/
structure Still (n : Nat) (sm : AgpsStateMachine) : Prop where
  ds : sm.kind = .ds
  retries : sm.mRetries = n
  start : .openAndStartDataCall ∉ sm.calls
  fallback : sm.calls.any isFallback = false

/-- What the event makes of the counter, if the start function returns `ret`. -/
structure Counted (n : Nat) (ret : Int) (sm : AgpsStateMachine) : Prop where
  retries : sm.mRetries = if sm.calls.any isFallback then 0
    else if .openAndStartDataCall ∈ sm.calls ∧ busy ret = true then n + 1 else n
  fallback : .openAndStartDataCall ∈ sm.calls → (sm.calls.any isFallback = true ↔
    busy ret = true ∧ MAX_START_DATA_CALL_RETRIES ≤ n ∨ ret = LOC_API_ADAPTER_ERR_UNSUPPORTED)

section
variable {n : Nat} {ret : Int} {sm : AgpsStateMachine} {i : DSInput}

theorem Still.counted (h : Still n sm) : Counted n ret sm where
  retries := by rw [h.fallback, if_neg Bool.false_ne_true, if_neg fun hs => h.start hs.1, h.retries]
  fallback := fun hs => absurd hs h.start

theorem Still.transition (h : Still n sm) (state : AgpsState) : Still n (sm.transitionState state) :=
  ⟨h.ds, h.retries, h.start, h.fallback⟩

theorem Still.emit (h : Still n sm) {call : AgpsCall} (hs : call ≠ .openAndStartDataCall)
    (hf : isFallback call = false) : Still n (sm.emit call) where
  ds := h.ds
  retries := h.retries
  start := by
    rw [emit_calls, List.mem_append, List.mem_singleton]
    exact not_or.mpr ⟨h.start, hs.symm⟩
  fallback := by
    rw [emit_calls, List.any_append, h.fallback]
    simpa using hf

theorem Still.add (h : Still n sm) (s : AgpsSubscriber) : Still n (sm.addSubscriber s) where
  ds := (addSubscriber_kind sm s).trans h.ds
  retries := by
    rw [← h.retries]
    unfold addSubscriber
    split <;> rfl
  start := by rw [addSubscriber_calls]; exact h.start
  fallback := by rw [addSubscriber_calls]; exact h.fallback

theorem Still.notify (h : Still n sm) {event : AgpsEvent} (he : event ≠ .denied)
    (s : AgpsSubscriber) (del : Bool) : Still n (sm.notifyEventToSubscriber event s del) := by
  have hkeep : Still n (sm.notifyEventToSubscriber event s false) := by
    obtain ⟨hds, hretries, hstart, hfallback⟩ := h
    rw [notify_keep]
    cases event with
    | denied => exact absurd rfl he
    | _ => exact ⟨hds, by simp [hretries], by simp [notice, hds, hstart],
        by simp [notice, hds, hfallback, isFallback]⟩
  cases del with
  | false => exact hkeep
  | true =>
    rw [notify_delete]
    exact ⟨hkeep.ds, hkeep.retries, hkeep.start, hkeep.fallback⟩

/-- A loop over subscribers that are not denied. -/
theorem Still.notifyAll (h : Still n sm) {event : AgpsEvent} (he : event ≠ .denied) (del : Bool)
    (t : AgpsNotificationType) : Still n (sm.notifyAllSubscribers event del t) := by
  have hloop : ∀ (l : List AgpsSubscriber) (sm : AgpsStateMachine), Still n sm →
      Still n (notifyFrom event del t sm l).1 := by
    intro l
    induction l with
    | nil => exact fun _ h => h
    | cons s rest ih =>
      intro sm h
      rw [notifyFrom]
      split
      · exact ih _ (h.notify he s false)
      · exact ih _ h
  have hlist := hloop sm.mSubscriberList sm h
  exact ⟨hlist.ds, hlist.retries, hlist.start, hlist.fallback⟩

/-- Those that are denied are sent to normal SUPL, and the counter is cleared. -/
theorem counted_deny (h : Still n sm) (del : Bool) (t : AgpsNotificationType) :
    Counted n ret (sm.notifyAllSubscribers .denied del t) := by
  have hcounter : ∀ (l : List AgpsSubscriber) (sm : AgpsStateMachine), sm.kind = .ds →
      (notifyFrom .denied del t sm l).1.mRetries =
        if l.any (covers t) then 0 else sm.mRetries := by
    intro l
    induction l with
    | nil => exact fun _ _ => rfl
    | cons s rest ih =>
      intro sm hk
      rw [notifyFrom]
      split
      · rename_i hcovers
        have hnext := ih (sm.notifyEventToSubscriber .denied s false) (by rw [notify_keep]; exact hk)
        rw [List.any_cons, hcovers, Bool.true_or, if_pos rfl]
        refine hnext.trans ?_
        rw [notify_keep]
        simp [hk]
      · rename_i hcovers
        rw [Bool.not_eq_true] at hcovers
        rw [List.any_cons, hcovers, Bool.false_or]
        exact ih sm hk
  have hcalls : (sm.notifyAllSubscribers .denied del t).calls = sm.calls ++
      (sm.mSubscriberList.filter (covers t)).map fun s =>
        .sendMsg s.mConnHandle LOC_AGPS_TYPE_SUPL := by
    have hnotice : sm.notice .denied = fun s => [.sendMsg s.mConnHandle LOC_AGPS_TYPE_SUPL] := by
      funext s
      simp only [notice, h.ds]
    rw [notifyAll_calls, hnotice, List.map_eq_flatMap]
  have hstart : .openAndStartDataCall ∉ (sm.notifyAllSubscribers .denied del t).calls := by
    rw [hcalls, List.mem_append, not_or]
    exact ⟨h.start, by simp⟩
  refine ⟨?_, fun hs => absurd hs hstart⟩
  have hfallback : (sm.notifyAllSubscribers .denied del t).calls.any isFallback =
      sm.mSubscriberList.any (covers t) := by
    rw [hcalls, List.any_append, h.fallback, Bool.false_or, List.any_map, List.any_filter]
    simp [isFallback]
  have hretries : (sm.notifyAllSubscribers .denied del t).mRetries =
      (notifyFrom .denied del t sm sm.mSubscriberList).1.mRetries := rfl
  rw [hfallback, hretries, hcounter _ _ h.ds, h.retries]
  exact if_congr Iff.rfl rfl (if_neg fun hs => hstart hs.1).symm

/-- An event that starts the call once, with what it does after that. -/
theorem counted_of_calls (h : Still n sm) (after : List AgpsCall) {sm' : AgpsStateMachine}
    (hcalls : sm'.calls = sm.calls ++ .openAndStartDataCall :: after)
    (hretries : sm'.mRetries = if after.any isFallback then 0 else if busy ret then n + 1 else n)
    (hafter : after.any isFallback = true ↔ busy ret = true ∧ MAX_START_DATA_CALL_RETRIES ≤ n ∨
      ret = LOC_API_ADAPTER_ERR_UNSUPPORTED) : Counted n ret sm' := by
  have hstart : .openAndStartDataCall ∈ sm'.calls := by
    rw [hcalls]
    exact List.mem_append_right _ List.mem_cons_self
  have hfallback : sm'.calls.any isFallback = after.any isFallback := by
    rw [hcalls, List.any_append, h.fallback, List.any_cons, Bool.false_or]
    rfl
  refine ⟨?_, fun _ => by rw [hfallback]; exact hafter⟩
  rw [hfallback, hretries]
  exact if_congr Iff.rfl rfl (if_congr (and_iff_right hstart).symm rfl rfl)

/-- A start that is busy counts, and is the last one if the counter was at its end. -/
theorem counted_start (h : Still n sm) : Counted n i.startResult (sm.startDataCall i.ds).1 := by
  unfold startDataCall
  split
  · exact h.counted
  · rename_i s hs
    simp only [DSInput.ds, notify_keep, emit_kind, notice, h.ds]
    by_cases hbusy : i.startResult = LOC_API_ADAPTER_ERR_ENGINE_BUSY
    · have hb : busy i.startResult = true := by rw [hbusy]; rfl
      have hun : i.startResult ≠ LOC_API_ADAPTER_ERR_UNSUPPORTED := by rw [hbusy]; decide
      rw [if_pos hbusy]
      split
      · rename_i hspent
        refine counted_of_calls h [.sendMsg s.mConnHandle LOC_AGPS_TYPE_SUPL] ?_ ?_ ?_
        · simp
        · rfl
        · refine iff_of_true rfl (.inl ⟨hb, Nat.le_of_lt_succ ?_⟩)
          rw [← h.retries]
          exact hspent
      · rename_i hleft
        refine counted_of_calls h [.startRetryTimer DATA_CALL_RETRY_DELAY_MSEC] ?_ ?_ ?_
        · simp
        · rw [if_pos hb, ← h.retries]
          rfl
        · refine iff_of_false Bool.false_ne_true (not_or.mpr ⟨fun hn => hleft ?_, hun⟩)
          have hretries : (sm.emit .openAndStartDataCall).mRetries = n := h.retries
          show MAX_START_DATA_CALL_RETRIES < _
          rw [hretries]
          exact Nat.lt_succ_of_le hn.2
    · have hb : busy i.startResult = false := by simpa [busy] using hbusy
      rw [if_neg hbusy]
      split
      · rename_i hun
        refine counted_of_calls h [.sendMsg s.mConnHandle LOC_AGPS_TYPE_SUPL] ?_ ?_ ?_
        · simp
        · rfl
        · exact iff_of_true rfl (.inr hun)
      · rename_i hun
        refine counted_of_calls h [] ?_ ?_ ?_
        · simp
        · rw [hb]
          exact h.retries
        · refine iff_of_false Bool.false_ne_true (not_or.mpr ⟨fun hn => ?_, hun⟩)
          rw [hb] at hn
          cases hn.1

theorem counted_request (h : Still n sm) (request : Bool) :
    Counted n i.startResult (sm.requestOrReleaseDataConn i.ds request).1 := by
  simp only [requestOrReleaseDataConn, h.ds]
  split
  · exact (h.emit (by decide) rfl).counted
  · exact counted_start h

/-! ## Events -/

theorem Counted.transition (h : Counted n ret sm) (state : AgpsState) :
    Counted n ret (sm.transitionState state) := ⟨h.retries, h.fallback⟩

theorem counted_subscribe (h : Still n sm) :
    Counted n i.startResult (sm.processAgpsEventSubscribe i.ds) := by
  unfold processAgpsEventSubscribe
  split
  · have hrequest := counted_request (i := i) (h.add sm.mCurrentSubscriber) true
    dsimp only
    split
    · exact hrequest.transition _
    · exact hrequest
  · exact (h.add _).counted
  · exact ((h.notify (by decide) _ false).add _).counted
  · exact (h.add _).counted

theorem Still.retire (h : Still n sm) : Still n sm.retireCurrent := by
  unfold retireCurrent
  split
  · exact ⟨h.ds, h.retries, h.start, h.fallback⟩
  · exact h.notify (by decide) _ true

theorem counted_unsubscribe (h : Still n sm) :
    Counted n i.startResult (sm.processAgpsEventUnsubscribe i.ds) := by
  by_cases hs : sm.mState = .released
  · rw [unsubscribe_released sm i.ds hs]
    exact (h.notify (by decide) _ false).counted
  · rcases unsubscribe_cases sm i.ds hs with ⟨state, heq⟩ | ⟨state, heq⟩ | heq
    · rw [heq]
      exact counted_request (h.retire.transition _) false
    · rw [heq]
      exact (h.retire.transition _).counted
    · rw [heq]
      exact h.retire.counted

theorem counted_granted (h : Still n sm) : Counted n ret sm.processAgpsEventGranted := by
  unfold processAgpsEventGranted
  split
  · exact h.counted
  · exact h.counted
  · exact h.counted
  · exact ((h.transition _).notifyAll (by decide) false _).counted

theorem counted_complete (h : Still n sm) :
    Counted n i.startResult (sm.completeRelease i.ds) := by
  have hnotified : Still n (sm.notifyAllSubscribers .released true .forInactiveSubscribers) :=
    h.notifyAll (by decide) true _
  unfold completeRelease
  dsimp only
  split
  · exact counted_request (hnotified.transition _) true
  · exact (hnotified.transition _).counted

theorem counted_released (h : Still n sm) :
    Counted n i.startResult (sm.processAgpsEventReleased i.ds) := by
  unfold processAgpsEventReleased
  split
  · exact h.counted
  · exact ((h.transition _).notifyAll (by decide) true _).counted
  · exact counted_complete h
  · exact h.counted

theorem counted_denied (h : Still n sm) :
    Counted n i.startResult (sm.processAgpsEventDenied i.ds) := by
  unfold processAgpsEventDenied
  split
  · exact h.counted
  · exact h.counted
  · exact counted_complete h
  · exact counted_deny (h.transition _) true _

theorem counted_event (h : Still n sm) (event : AgpsEvent) :
    Counted n i.startResult (sm.processAgpsEvent i.ds event) := by
  unfold processAgpsEvent
  dsimp only
  split
  · exact counted_subscribe h
  · exact counted_unsubscribe h
  · exact counted_granted h
  · exact counted_released h
  · exact counted_denied h

theorem counted_handle (h : Still n sm) : Counted n i.startResult (dsHandle sm i) := by
  have hcurrent : ∀ s, Still n (sm.setCurrentSubscriber s) :=
    fun s => ⟨h.ds, h.retries, h.start, h.fallback⟩
  unfold dsHandle
  split
  · exact counted_event (hcurrent _) _
  · simp only [handle]
    split
    · exact h.counted
    · exact counted_event (hcurrent _) _
  · exact counted_event h _
  · exact counted_event h _
  · unfold retryCallback
    split
    · exact h.counted
    · exact (h.emit (by simp) rfl).counted

end

/-! ## Runs of the machine -/

/-- The counter holds the busy results since the last fallback. -/
structure Good (h : RetryHistory) : Prop where
  ds : h.sm.kind = .ds
  retries : h.sm.mRetries = h.since.countP busy
  bound : h.since.countP busy ≤ MAX_START_DATA_CALL_RETRIES

section
variable {h : RetryHistory} {e : RetryEvent}

theorem counted_next (hg : Good h) : Counted (h.since.countP busy) e.startResult (h.next e) := by
  cases e with
  | machine i => exact counted_handle ⟨hg.ds, hg.retries, List.not_mem_nil, rfl⟩
  | handleModemSSR =>
    exact Still.counted ⟨hg.ds, hg.retries, List.not_mem_nil, rfl⟩

theorem next_kind (h : RetryHistory) (e : RetryEvent) : (h.next e).kind = h.sm.kind := by
  cases e with
  | machine i => exact dsHandle_kind _ i
  | handleModemSSR => rfl

theorem good_step (hg : Good h) (e : RetryEvent) : Good (retryStep h e) := by
  obtain ⟨hretries, hfallback⟩ := counted_next (e := e) hg
  have hds : (retryStep h e).sm.kind = .ds := (next_kind h e).trans hg.ds
  by_cases hfell : (h.next e).calls.any isFallback = true
  · have hsince : (retryStep h e).since = [] := if_pos hfell
    rw [if_pos hfell] at hretries
    exact ⟨hds, by rw [hsince]; exact hretries, by rw [hsince]; exact Nat.zero_le _⟩
  · rw [if_neg hfell] at hretries
    by_cases hstart : .openAndStartDataCall ∈ (h.next e).calls
    · have hsince : (retryStep h e).since = h.since ++ [e.startResult] :=
        (if_neg hfell).trans (if_pos hstart)
      have hcount : (retryStep h e).since.countP busy =
          if busy e.startResult = true then h.since.countP busy + 1 else h.since.countP busy := by
        rw [hsince, List.countP_append, List.countP_singleton]
        split <;> rfl
      refine ⟨hds, ?_, ?_⟩
      · rw [hcount]
        exact hretries.trans (if_congr (and_iff_right hstart) rfl rfl)
      · rw [hcount]
        split
        · rename_i hb
          refine Nat.succ_le_of_lt (Nat.lt_of_not_le fun hspent => hfell ?_)
          exact (hfallback hstart).mpr (.inl ⟨hb, hspent⟩)
        · exact hg.bound
    · have hsince : (retryStep h e).since = h.since := (if_neg hfell).trans (if_neg hstart)
      rw [if_neg fun hs => hstart hs.1] at hretries
      exact ⟨hds, by rw [hsince]; exact hretries, by rw [hsince]; exact hg.bound⟩

theorem budgetSpent_iff (hg : Good h) : BudgetSpent h e ↔ Uninterrupted h e := by
  refine forall_congr' fun hbusy => ?_
  obtain ⟨hstart, hb⟩ := hbusy
  have hun : e.startResult ≠ LOC_API_ADAPTER_ERR_UNSUPPORTED := by
    intro heq
    rw [heq] at hb
    cases hb
  have hfell : (h.next e).calls.any isFallback = true ↔
      h.since.countP busy = MAX_START_DATA_CALL_RETRIES := by
    rw [(counted_next hg).fallback hstart, or_iff_left hun, and_iff_right hb]
    exact ⟨fun hle => le_antisymm hg.bound hle, fun heq => heq.ge⟩
  rw [hfell]
  refine forall_congr' fun hspent => ?_
  rw [List.rtakeWhile_concat_pos _ _ _ hb, List.length_append, List.length_singleton,
    Nat.add_le_add_iff_right, ← hspent]
  exact countP_le_rtakeWhile_iff busy h.since

end

/-- **A busy start falls back only after all its retries in a row, in exactly the
runs in which no other result stands between the busy ones that are counted.** -/
theorem budgetSpent_iff_uninterrupted (es : List RetryEvent) :
    Steps retryStep BudgetSpent RetryHistory.new es ↔
      Steps retryStep Uninterrupted RetryHistory.new es :=
  steps_iff_guard (I := Good) (A := fun _ _ => True)
    (fun _ _ hg _ => budgetSpent_iff hg) (fun _ e hg _ _ => good_step hg e)
    ⟨rfl, rfl, Nat.zero_le _⟩ (steps_of_forall (fun _ _ => trivial) _ es)

/-- Four retries of a call that was then set up are charged to the next one, whose
first busy result sends it to normal SUPL. -/
theorem retries_carried_over :
    let setUp : List DSInput := [⟨.subscribe 1 false, LOC_API_ADAPTER_ERR_ENGINE_BUSY, true⟩,
      ⟨.subscribe 1 false, LOC_API_ADAPTER_ERR_ENGINE_BUSY, true⟩,
      ⟨.subscribe 1 false, LOC_API_ADAPTER_ERR_ENGINE_BUSY, true⟩,
      ⟨.subscribe 1 false, LOC_API_ADAPTER_ERR_ENGINE_BUSY, true⟩,
      ⟨.subscribe 1 false, LOC_API_ADAPTER_ERR_SUCCESS, true⟩,
      ⟨.dataCallOpened, LOC_API_ADAPTER_ERR_SUCCESS, true⟩,
      ⟨.unsubscribe 1, LOC_API_ADAPTER_ERR_SUCCESS, true⟩]
    let last : DSInput := ⟨.subscribe 2 false, LOC_API_ADAPTER_ERR_ENGINE_BUSY, true⟩
    ((run retryStep RetryHistory.new (setUp.map .machine)).next (.machine last)).calls =
        [.openAndStartDataCall, .sendMsg 2 LOC_AGPS_TYPE_SUPL] ∧
      ¬ Steps retryStep BudgetSpent RetryHistory.new (setUp.map .machine ++ [.machine last]) := by
  decide

end DeviceHal.Gnss.RetryBudget
