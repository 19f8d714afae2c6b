import DeviceHal.Gnss.AgpsSubscribers

/-! # What a subscriber is told

The answers of a base machine to one connection handle, from its addition to
the list to its removal: at most one open status with success, then one
terminal answer, then silence until the handle subscribes again. -/
namespace DeviceHal.Gnss.AgpsAnswers
open DeviceHal.Lib.Run DeviceHal.Gnss.AgpsMachine DeviceHal.Gnss.AgpsMachine.AgpsStateMachine
open DeviceHal.Gnss.AgpsSubscribers

inductive Answer where
  | opened | failed | closed
deriving DecidableEq

/-- What a call tells the handle. -/
def answer (h : Int) : AgpsCall → Option Answer
  | .atlOpenStatus handle isSuccess _ _ _ =>
    if handle = h then some (if isSuccess then .opened else .failed) else none
  | .atlCloseStatus handle _ => if handle = h then some .closed else none
  | _ => none

def answersTo (h : Int) (calls : List AgpsCall) : List Answer := calls.filterMap (answer h)

/-- A machine with what each handle was told since it last subscribed. -/
structure Answered where
  sm : AgpsStateMachine
  told : Int → List Answer

def subscribes : MachineEvent → Int → Bool
  | .requestATL connHandle _, h => connHandle == h
  | _, _ => false

/-- One event, with the answers read off the calls it logs. -/
def answerStep (ds : DSClient) (a : Answered) (e : MachineEvent) : Answered where
  sm := handle ds a.sm e
  told h := (if subscribes e h then [] else a.told h) ++
    answersTo h ((handle ds a.sm e).calls.drop a.sm.calls.length)

def Answered.start (agpsType : AGpsExtType) : Answered := ⟨new agpsType, fun _ => []⟩

/-- No modem restart, and a handle subscribes only when it is not in the list.
A release for a handle that is not in the list sends no event. -/
def Permitted (a : Answered) : MachineEvent → Prop
  | .requestATL connHandle _ => connHandle ∉ handles a.sm.mSubscriberList
  | .handleModemSSR => False
  | _ => True

instance (a : Answered) : ∀ e, Decidable (Permitted a e)
  | .requestATL _ _ => inferInstanceAs (Decidable (_ ∉ _))
  | .handleModemSSR => .isFalse id
  | .releaseATL _ | .granted | .released | .denied => .isTrue trivial

/-- The answer discipline of one event. -/
structure Disciplined (e : MachineEvent) (a a' : Answered) : Prop where
  nodup : (handles a'.sm.mSubscriberList).Nodup
  listed : ∀ h ∈ handles a'.sm.mSubscriberList, a'.told h = [] ∨ a'.told h = [.opened]
  removed : ∀ h, h ∈ handles a.sm.mSubscriberList ∨ subscribes e h = true →
    h ∉ handles a'.sm.mSubscriberList →
    a'.told h = [.failed] ∨ a'.told h = [.closed] ∨ a'.told h = [.opened, .closed]
  silent : ∀ h, h ∉ handles a.sm.mSubscriberList → subscribes e h = false →
    a'.told h = a.told h

/-- What state and activity say about the answers so far. -/
structure AnswersFit (a : Answered) : Prop where
  base : a.sm.kind = .base
  nodup : (handles a.sm.mSubscriberList).Nodup
  released : a.sm.mState = .released → a.sm.mSubscriberList = []
  listed : ∀ s ∈ a.sm.mSubscriberList,
    a.told s.mConnHandle = [] ∨ a.told s.mConnHandle = [.opened]
  pending : a.sm.mState = .pending → ∀ s ∈ a.sm.mSubscriberList, a.told s.mConnHandle = []
  releasing : a.sm.mState = .releasing →
    ∀ s ∈ a.sm.mSubscriberList, s.mIsInactive = false → a.told s.mConnHandle = []

/-! ## The answers a transition logs -/

/-- The transition logs calls that tell each handle what `f` says. -/
def Tells (sm sm' : AgpsStateMachine) (f : Int → List Answer) : Prop :=
  ∃ cs, sm'.calls = sm.calls ++ cs ∧ ∀ h, answersTo h cs = f h

theorem answersTo_append (h : Int) (cs ds : List AgpsCall) :
    answersTo h (cs ++ ds) = answersTo h cs ++ answersTo h ds := List.filterMap_append

theorem Tells.same {sm sm' : AgpsStateMachine} (hc : sm'.calls = sm.calls) :
    Tells sm sm' (fun _ => []) := ⟨[], by rw [hc, List.append_nil], fun _ => rfl⟩

/-- A data connection request is no answer. -/
theorem Tells.request {sm : AgpsStateMachine} {f : Int → List Answer} (sm' : AgpsStateMachine)
    (ht : Tells sm sm' f) (hk : sm'.kind = .base) (ds : DSClient) (r : Bool) :
    Tells sm (sm'.requestOrReleaseDataConn ds r).1 f := by
  obtain ⟨cs, hcs, hf⟩ := ht
  refine ⟨cs ++ [.frameworkStatus sm'.mAgpsType r], ?_, fun h => ?_⟩
  · rw [request_base sm' hk, emit_calls, hcs, List.append_assoc]
  · rw [answersTo_append, hf h]; exact List.append_nil _

theorem told_answerStep {ds : DSClient} {a : Answered} {e : MachineEvent} {f : Int → List Answer}
    (ht : Tells a.sm (handle ds a.sm e) f) (h : Int) :
    (answerStep ds a e).told h = (if subscribes e h then [] else a.told h) ++ f h := by
  obtain ⟨cs, hcs, hf⟩ := ht
  simp only [answerStep, hcs, List.drop_left, hf h]

/-- The terminal or opening answer a base machine's notification is. -/
def eventAnswer : AgpsEvent → Option Answer
  | .granted => some .opened
  | .denied => some .failed
  | .unsubscribe | .released => some .closed
  | .subscribe => none

theorem answersTo_notice {sm : AgpsStateMachine} (hk : sm.kind = .base) (event : AgpsEvent)
    (s : AgpsSubscriber) (h : Int) :
    answersTo h (sm.notice event s) =
      if s.mConnHandle = h then (eventAnswer event).toList else [] := by
  cases event <;> by_cases hs : s.mConnHandle = h <;>
    simp [notice, hk, answersTo, answer, eventAnswer, hs]

/-- Telling every subscriber that meets `p`, in a list without repeated
handles, tells each of their handles once. -/
theorem answersTo_notices {sm : AgpsStateMachine} (hk : sm.kind = .base) (event : AgpsEvent)
    (p : AgpsSubscriber → Bool) (h : Int) {l : List AgpsSubscriber} (hl : (handles l).Nodup) :
    answersTo h ((l.filter p).flatMap (sm.notice event)) =
      if h ∈ handles (l.filter p) then (eventAnswer event).toList else [] := by
  induction l with
  | nil => rfl
  | cons s rest ih =>
    obtain ⟨hs, hrest⟩ := List.nodup_cons.mp hl
    by_cases hp : p s = true
    · rw [List.filter_cons_of_pos hp, List.flatMap_cons, answersTo_append,
        answersTo_notice hk, ih hrest]
      by_cases he : s.mConnHandle = h
      · have hnot : h ∉ handles (rest.filter p) := fun hm => by
          obtain ⟨t, ht, hth⟩ := mem_handles.mp hm
          exact hs (List.mem_map.mpr ⟨t, (List.mem_filter.mp ht).1, hth.trans he.symm⟩)
        have hin : h ∈ handles (s :: rest.filter p) := he ▸ List.mem_cons_self
        rw [if_pos he, if_neg hnot, if_pos hin, List.append_nil]
      · have hiff : h ∈ handles (s :: rest.filter p) ↔ h ∈ handles (rest.filter p) := by
          simp [handles, Ne.symm he]
        simp only [if_neg he, List.nil_append, hiff]
    · rw [List.filter_cons_of_neg hp, ih hrest]

theorem notifyAll_tells (sm : AgpsStateMachine) (hk : sm.kind = .base)
    (hl : (handles sm.mSubscriberList).Nodup) (event : AgpsEvent) (del : Bool)
    (t : AgpsNotificationType) :
    Tells sm (sm.notifyAllSubscribers event del t) (fun h =>
      if h ∈ handles (sm.mSubscriberList.filter (covers t)) then (eventAnswer event).toList
      else []) :=
  ⟨_, sm.notifyAll_calls event del t, fun h => answersTo_notices hk event (covers t) h hl⟩

section
variable (sm : AgpsStateMachine) (ds : DSClient)

theorem subscribe_tells (hk : sm.kind = .base) :
    Tells sm (sm.processAgpsEventSubscribe ds) (fun h =>
      if sm.mState = .acquired ∧ sm.mCurrentSubscriber.mConnHandle = h then [.opened] else []) := by
  have silent : sm.mState ≠ .acquired → ∀ sm', Tells sm sm' (fun _ => []) →
      Tells sm sm' (fun h => if sm.mState = .acquired ∧ sm.mCurrentSubscriber.mConnHandle = h
        then [.opened] else []) := by
    intro hne sm' ht
    simpa only [hne, false_and, if_false] using ht
  unfold processAgpsEventSubscribe
  split
  · rename_i hs
    have ht := Tells.request _ (Tells.same (addSubscriber_calls sm sm.mCurrentSubscriber))
      ((addSubscriber_kind sm _).trans hk) ds true
    refine silent (by simp [hs]) _ ?_
    dsimp only
    split
    · exact ht
    · exact ht
  · rename_i hs
    exact silent (by simp [hs]) _ (Tells.same (addSubscriber_calls sm _))
  · rename_i hs
    refine ⟨sm.notice .granted sm.mCurrentSubscriber, ?_, fun h => ?_⟩
    · simp only [addSubscriber_calls, notify_keep]
    · rw [answersTo_notice hk]
      simp [eventAnswer, hs]
  · rename_i hs
    exact silent (by simp [hs]) _ (Tells.same (addSubscriber_calls sm _))

theorem retireCurrent_tells (hk : sm.kind = .base) :
    Tells sm sm.retireCurrent (fun h =>
      if sm.mCurrentSubscriber.mWaitForCloseComplete = false ∧
          sm.mCurrentSubscriber.mConnHandle = h then [.closed] else []) := by
  unfold retireCurrent
  by_cases hw : sm.mCurrentSubscriber.mWaitForCloseComplete = true
  · simp only [hw, if_true, Bool.true_eq_false, false_and, if_false]
    exact Tells.same rfl
  · rw [Bool.not_eq_true] at hw
    refine ⟨sm.notice .unsubscribe sm.mCurrentSubscriber, ?_, fun h => ?_⟩
    · simp only [hw, Bool.false_eq_true, if_false, notify_delete, notify_keep, deleteSubscriber]
    · rw [answersTo_notice hk]
      simp [eventAnswer, hw]

theorem unsubscribe_tells (hk : sm.kind = .base) (hs : sm.mState ≠ .released) :
    Tells sm (sm.processAgpsEventUnsubscribe ds) (fun h =>
      if sm.mCurrentSubscriber.mWaitForCloseComplete = false ∧
          sm.mCurrentSubscriber.mConnHandle = h then [.closed] else []) := by
  have ht := retireCurrent_tells sm hk
  have hk' : sm.retireCurrent.kind = .base := (retireCurrent_kind sm).trans hk
  rcases unsubscribe_cases sm ds hs with ⟨state, heq⟩ | ⟨state, heq⟩ | heq
  · rw [heq]
    exact Tells.request (sm.retireCurrent.transitionState state) ht hk' ds false
  · rw [heq]
    exact ht
  · rw [heq]
    exact ht

theorem completeRelease_tells (hk : sm.kind = .base) (hl : (handles sm.mSubscriberList).Nodup) :
    Tells sm (sm.completeRelease ds) (fun h =>
      if h ∈ handles (sm.mSubscriberList.filter (·.mIsInactive)) then [.closed] else []) := by
  have ht := notifyAll_tells sm hk hl .released true .forInactiveSubscribers
  have hk' : (sm.notifyAllSubscribers .released true .forInactiveSubscribers).kind = .base :=
    (sm.notifyAll_kind _ _ _).trans hk
  unfold completeRelease
  dsimp only
  split
  · exact Tells.request
      ((sm.notifyAllSubscribers .released true .forInactiveSubscribers).transitionState .pending)
      ht hk' ds true
  · exact ht

end

/-! ## Steps that keep the list, and steps that drop subscribers -/

section
variable {ds : DSClient} {a : Answered} {e : MachineEvent}

theorem told_of_listed {l : List AgpsSubscriber} {told : Int → List Answer} {P : List Answer → Prop}
    (hl : ∀ s ∈ l, P (told s.mConnHandle)) {h : Int} (hh : h ∈ handles l) : P (told h) := by
  obtain ⟨s, hs, rfl⟩ := mem_handles.mp hh
  exact hl s hs

/-- The handle of a subscriber that stays is not among the dropped ones. -/
theorem not_dropped {l : List AgpsSubscriber} (hl : (handles l).Nodup) (p : AgpsSubscriber → Bool)
    {s : AgpsSubscriber} (hs : s ∈ l.filter (!p ·)) : s.mConnHandle ∉ handles (l.filter p) := by
  intro hm
  obtain ⟨hsl, hsp⟩ := List.mem_filter.mp hs
  obtain ⟨t, ht, hts⟩ := mem_handles.mp hm
  obtain ⟨htl, htp⟩ := List.mem_filter.mp ht
  obtain rfl := List.inj_on_of_nodup_map hl htl hsl hts
  simp [htp] at hsp

/-- An event that drops the subscribers that meet `p`, and tells each of them
the same terminal answer. -/
theorem drop_told (fit : AnswersFit a) (he : ∀ h, subscribes e h = false)
    {p : AgpsSubscriber → Bool} {ans : Answer}
    (ht : Tells a.sm (handle ds a.sm e) (fun h =>
      if h ∈ handles (a.sm.mSubscriberList.filter p) then [ans] else []))
    {s : AgpsSubscriber} (hs : s ∈ a.sm.mSubscriberList.filter (!p ·)) :
    (answerStep ds a e).told s.mConnHandle = a.told s.mConnHandle := by
  rw [told_answerStep ht, if_neg (not_dropped fit.nodup p hs), he]
  exact List.append_nil _

theorem drop_disciplined (fit : AnswersFit a) (he : ∀ h, subscribes e h = false)
    {p : AgpsSubscriber → Bool} {ans : Answer}
    (hl : (handle ds a.sm e).mSubscriberList = a.sm.mSubscriberList.filter (!p ·))
    (ht : Tells a.sm (handle ds a.sm e) (fun h =>
      if h ∈ handles (a.sm.mSubscriberList.filter p) then [ans] else []))
    (hans : ans = .closed ∨
      ans = .failed ∧ ∀ s ∈ a.sm.mSubscriberList, a.told s.mConnHandle = []) :
    Disciplined e a (answerStep ds a e) := by
  refine ⟨?_, fun h hh => ?_, fun h hh hn => ?_, fun h hh _ => ?_⟩
  · simp only [answerStep, hl]
    exact fit.nodup.sublist ((List.filter_sublist).map _)
  · simp only [answerStep, hl] at hh
    obtain ⟨s, hs, rfl⟩ := mem_handles.mp hh
    rw [drop_told fit he ht hs]
    exact fit.listed s (List.mem_filter.mp hs).1
  · simp only [answerStep, hl] at hn
    have hin : h ∈ handles a.sm.mSubscriberList := hh.resolve_right (by simp [he])
    obtain ⟨s, hs, rfl⟩ := mem_handles.mp hin
    have hp : p s = true := by
      by_contra hp
      exact hn (mem_handles.mpr ⟨s, List.mem_filter.mpr ⟨hs, by simp [hp]⟩, rfl⟩)
    have hmem : s.mConnHandle ∈ handles (a.sm.mSubscriberList.filter p) :=
      mem_handles.mpr ⟨s, List.mem_filter.mpr ⟨hs, hp⟩, rfl⟩
    rw [told_answerStep ht, if_pos hmem, he]
    rcases hans with rfl | ⟨rfl, hnone⟩
    · rcases fit.listed s hs with ho | ho <;> simp [ho]
    · simp [hnone s hs]
  · have hnot : h ∉ handles (a.sm.mSubscriberList.filter p) := fun hm => by
      obtain ⟨s, hs, rfl⟩ := mem_handles.mp hm
      exact hh (mem_handles.mpr ⟨s, (List.mem_filter.mp hs).1, rfl⟩)
    rw [told_answerStep ht, if_neg hnot, he]
    exact List.append_nil _

/-- An event that keeps the handles of the list and tells at most an opening
to handles that were told nothing. -/
theorem keep_disciplined (fit : AnswersFit a) (he : ∀ h, subscribes e h = false)
    {f : Int → List Answer}
    (hl : handles (handle ds a.sm e).mSubscriberList = handles a.sm.mSubscriberList)
    (ht : Tells a.sm (handle ds a.sm e) f)
    (hf : ∀ h, f h = [] ∨ f h = [.opened] ∧ h ∈ handles a.sm.mSubscriberList ∧ a.told h = []) :
    Disciplined e a (answerStep ds a e) := by
  refine ⟨?_, fun h hh => ?_, fun h hh hn => ?_, fun h hh _ => ?_⟩
  · simp only [answerStep, hl]; exact fit.nodup
  · simp only [answerStep, hl] at hh
    have hlisted : a.told h = [] ∨ a.told h = [.opened] :=
      told_of_listed (P := fun t => t = [] ∨ t = [.opened]) fit.listed hh
    rw [told_answerStep ht, he]
    rcases hf h with h0 | ⟨h1, -, h2⟩
    · simpa [h0] using hlisted
    · simp [h1, h2]
  · simp only [answerStep, hl] at hn
    exact absurd (hh.resolve_right (by simp [he])) hn
  · rw [told_answerStep ht, he]
    rcases hf h with h0 | ⟨-, h1, -⟩
    · simp [h0]
    · exact absurd h1 hh

/-- What a step that drops subscribers leaves fits, when the new state asks
nothing that the old one did not already say of those who stay. -/
theorem drop_fits (fit : AnswersFit a) (he : ∀ h, subscribes e h = false)
    {p : AgpsSubscriber → Bool} {ans : Answer}
    (hl : (handle ds a.sm e).mSubscriberList = a.sm.mSubscriberList.filter (!p ·))
    (ht : Tells a.sm (handle ds a.sm e) (fun h =>
      if h ∈ handles (a.sm.mSubscriberList.filter p) then [ans] else []))
    (hr : (handle ds a.sm e).mState = .released →
      (handle ds a.sm e).mSubscriberList = [])
    (hp : (handle ds a.sm e).mState = .pending →
      ∀ s ∈ a.sm.mSubscriberList.filter (!p ·), a.told s.mConnHandle = [])
    (hg : (handle ds a.sm e).mState = .releasing →
      ∀ s ∈ a.sm.mSubscriberList.filter (!p ·), s.mIsInactive = false →
        a.told s.mConnHandle = []) :
    AnswersFit (answerStep ds a e) := by
  have hl' : (answerStep ds a e).sm.mSubscriberList = a.sm.mSubscriberList.filter (!p ·) := hl
  refine ⟨(handle_kind ds a.sm e).trans fit.base, ?_, hr, fun s hs => ?_, fun hst s hs => ?_,
    fun hst s hs hact => ?_⟩
  · rw [hl']
    exact fit.nodup.sublist ((List.filter_sublist).map _)
  all_goals
    rw [hl'] at hs
    rw [drop_told fit he ht hs]
  · exact fit.listed s (List.mem_filter.mp hs).1
  · exact hp hst s hs
  · exact hg hst s hs hact

/-- A step that keeps the list and says nothing, such as an event the state
ignores. -/
theorem idle_step (fit : AnswersFit a) (he : ∀ h, subscribes e h = false)
    (hl : (handle ds a.sm e).mSubscriberList = a.sm.mSubscriberList)
    (hst : (handle ds a.sm e).mState = a.sm.mState)
    (hc : (handle ds a.sm e).calls = a.sm.calls) :
    Disciplined e a (answerStep ds a e) ∧ AnswersFit (answerStep ds a e) := by
  have ht : Tells a.sm (handle ds a.sm e) (fun _ => []) := Tells.same hc
  have htold : (answerStep ds a e).told = a.told := by
    funext h
    rw [told_answerStep ht, he]
    exact List.append_nil _
  refine ⟨keep_disciplined fit he (congrArg handles hl) ht (fun _ => Or.inl rfl), ?_⟩
  refine ⟨(handle_kind ds a.sm e).trans fit.base, ?_, ?_, ?_, ?_, ?_⟩
  · exact hl ▸ fit.nodup
  · exact fun hr => hl.trans (fit.released (hst.symm.trans hr))
  · rw [htold]; exact hl ▸ fit.listed
  · rw [htold]; exact fun hp => hl ▸ fit.pending (hst.symm.trans hp)
  · rw [htold]; exact fun hg => hl ▸ fit.releasing (hst.symm.trans hg)

end

/-! ## One event -/

section
variable (ds : DSClient) {a : Answered}

theorem requestATL_list {h : Int} (wait : Bool) (hn : h ∉ handles a.sm.mSubscriberList) :
    (handle ds a.sm (.requestATL h wait)).mSubscriberList =
      a.sm.mSubscriberList ++ [⟨h, wait, false⟩] := by
  have hstep : handle ds a.sm (.requestATL h wait) =
      (a.sm.setCurrentSubscriber ⟨h, wait, false⟩).processAgpsEventSubscribe ds :=
    process_subscribe _ ds
  rw [hstep, subscribe_list, addSubscriber_list]
  exact if_neg hn

theorem requestATL_state (fit : AnswersFit a) (h : Int) (wait : Bool) :
    (handle ds a.sm (.requestATL h wait)).mState =
      if a.sm.mState = .released then .pending else a.sm.mState :=
  (congrArg AgpsStateMachine.mState (process_subscribe _ ds)).trans
    (subscribe_state_base _ ds fit.base)

/-- The new subscriber is told that the connection is open, if it is; the others are told
nothing. -/
theorem requestATL_told (fit : AnswersFit a) (h : Int) (wait : Bool) (h' : Int) :
    (answerStep ds a (.requestATL h wait)).told h' =
      if h = h' then if a.sm.mState = .acquired then [.opened] else [] else a.told h' := by
  have hstep : handle ds a.sm (.requestATL h wait) =
      (a.sm.setCurrentSubscriber ⟨h, wait, false⟩).processAgpsEventSubscribe ds :=
    process_subscribe _ ds
  have ht : Tells a.sm (handle ds a.sm (.requestATL h wait))
      (fun h' => if a.sm.mState = .acquired ∧ h = h' then [.opened] else []) := by
    rw [hstep]
    exact subscribe_tells (a.sm.setCurrentSubscriber ⟨h, wait, false⟩) ds fit.base
  rw [told_answerStep ht]
  by_cases hh : h = h' <;> simp [subscribes, hh]

/-- After a request the list still has no handle twice, and every subscriber has been told
nothing or that the connection is open. -/
theorem requestATL_listed (fit : AnswersFit a) {h : Int} (wait : Bool)
    (hn : h ∉ handles a.sm.mSubscriberList) :
    (handles (answerStep ds a (.requestATL h wait)).sm.mSubscriberList).Nodup ∧
      ∀ t ∈ (answerStep ds a (.requestATL h wait)).sm.mSubscriberList,
        (answerStep ds a (.requestATL h wait)).told t.mConnHandle = [] ∨
          (answerStep ds a (.requestATL h wait)).told t.mConnHandle = [.opened] := by
  have hl : (answerStep ds a (.requestATL h wait)).sm.mSubscriberList = _ :=
    requestATL_list ds wait hn
  constructor
  · rw [hl, handles, List.map_append]
    exact List.nodup_append'.mpr ⟨fit.nodup, List.nodup_singleton h, by simpa [handles] using hn⟩
  · intro t htl
    rw [requestATL_told ds fit]
    rcases List.mem_append.mp (hl ▸ htl) with hin | hnew
    · have hne : h ≠ t.mConnHandle := fun heq => hn (mem_handles.mpr ⟨t, hin, heq.symm⟩)
      rw [if_neg hne]
      exact fit.listed t hin
    · rw [List.mem_singleton.mp hnew, if_pos rfl]
      split <;> simp

theorem requestATL_disciplined (fit : AnswersFit a) {h : Int} (wait : Bool)
    (hn : h ∉ handles a.sm.mSubscriberList) :
    Disciplined (.requestATL h wait) a (answerStep ds a (.requestATL h wait)) := by
  obtain ⟨hnodup, hlisted⟩ := requestATL_listed ds fit wait hn
  refine ⟨hnodup, fun h' hh => ?_, fun h' hh hgone => ?_, fun h' _ hsub => ?_⟩
  · exact told_of_listed (P := fun t => t = [] ∨ t = [.opened]) hlisted hh
  · refine absurd ?_ hgone
    have hl : (answerStep ds a (.requestATL h wait)).sm.mSubscriberList = _ :=
      requestATL_list ds wait hn
    rw [hl, handles, List.map_append, List.mem_append]
    refine hh.imp_right fun hsub => ?_
    have hh' : h = h' := by simpa [subscribes] using hsub
    exact List.mem_singleton.mpr hh'.symm
  · rw [requestATL_told ds fit, if_neg (by simpa [subscribes] using hsub)]

/-- Unless the connection is open the new subscriber is told nothing, and a subscriber that had
been told nothing still has been. -/
theorem requestATL_silent (fit : AnswersFit a) {h : Int} (wait : Bool)
    (hn : h ∉ handles a.sm.mSubscriberList) (hacq : a.sm.mState ≠ .acquired)
    {t : AgpsSubscriber} (ht : t ∈ (answerStep ds a (.requestATL h wait)).sm.mSubscriberList)
    (hold : t ∈ a.sm.mSubscriberList → a.told t.mConnHandle = []) :
    (answerStep ds a (.requestATL h wait)).told t.mConnHandle = [] := by
  have hl : (answerStep ds a (.requestATL h wait)).sm.mSubscriberList = _ :=
    requestATL_list ds wait hn
  rw [requestATL_told ds fit]
  rcases List.mem_append.mp (hl ▸ ht) with ht | ht
  · rw [hold ht, if_neg hacq, ite_self]
  · rw [List.mem_singleton.mp ht, if_pos rfl, if_neg hacq]

theorem requestATL_step (fit : AnswersFit a) {h : Int} (wait : Bool)
    (hn : h ∉ handles a.sm.mSubscriberList) :
    Disciplined (.requestATL h wait) a (answerStep ds a (.requestATL h wait)) ∧
      AnswersFit (answerStep ds a (.requestATL h wait)) := by
  obtain ⟨hnodup, hlisted⟩ := requestATL_listed ds fit wait hn
  have hst : (answerStep ds a (.requestATL h wait)).sm.mState = _ :=
    requestATL_state ds fit h wait
  refine ⟨requestATL_disciplined ds fit wait hn, (handle_kind ds a.sm _).trans fit.base, hnodup,
    fun hr => ?_, hlisted, fun hp t ht => ?_, fun hg t ht hact => ?_⟩
  · have hreleased := hst.symm.trans hr
    split at hreleased
    · cases hreleased
    · contradiction
  · have hpending := hst.symm.trans hp
    refine requestATL_silent ds fit wait hn (fun hacq => ?_) ht fun hold => ?_
    · simp [hacq] at hpending
    · by_cases hs : a.sm.mState = .released
      · rw [fit.released hs] at hold
        cases hold
      · exact fit.pending ((if_neg hs).symm.trans hpending) t hold
  · have hreleasing := hst.symm.trans hg
    refine requestATL_silent ds fit wait hn (fun hacq => ?_) ht fun hold => ?_
    · simp [hacq] at hreleasing
    · refine fit.releasing ?_ t hold hact
      split at hreleasing
      · cases hreleasing
      · exact hreleasing

theorem granted_step (fit : AnswersFit a) :
    Disciplined .granted a (answerStep ds a .granted) ∧ AnswersFit (answerStep ds a .granted) := by
  have hstep : handle ds a.sm .granted = a.sm.processAgpsEventGranted := process_granted _ ds
  have hl : (handle ds a.sm .granted).mSubscriberList = a.sm.mSubscriberList := by
    rw [hstep, granted_list]
  have hst := (congrArg AgpsStateMachine.mState hstep).trans (granted_state a.sm)
  by_cases hp : a.sm.mState = .pending
  · rw [if_pos hp] at hst
    have ht : Tells a.sm (handle ds a.sm .granted) (fun h =>
        if h ∈ handles (a.sm.mSubscriberList.filter (covers .forActiveSubscribers))
        then [.opened] else []) := by
      simp only [hstep, processAgpsEventGranted, hp]
      exact notifyAll_tells (a.sm.transitionState .acquired) fit.base fit.nodup
        .granted false .forActiveSubscribers
    have hf : ∀ h, (if h ∈ handles (a.sm.mSubscriberList.filter (covers .forActiveSubscribers))
        then [Answer.opened] else []) = [] ∨
        (if h ∈ handles (a.sm.mSubscriberList.filter (covers .forActiveSubscribers))
          then [Answer.opened] else []) = [.opened] ∧
        h ∈ handles a.sm.mSubscriberList ∧ a.told h = [] := by
      intro h
      by_cases hm : h ∈ handles (a.sm.mSubscriberList.filter (covers .forActiveSubscribers))
      · obtain ⟨s, hs, rfl⟩ := mem_handles.mp hm
        have hsl := (List.mem_filter.mp hs).1
        exact Or.inr ⟨if_pos hm, mem_handles.mpr ⟨s, hsl, rfl⟩, fit.pending hp s hsl⟩
      · exact Or.inl (if_neg hm)
    have hd := keep_disciplined fit (fun _ => rfl) (congrArg handles hl) ht hf
    refine ⟨hd, (handle_kind ds a.sm .granted).trans fit.base, hd.nodup, fun h => ?_,
      fun s hs => hd.listed _ (mem_handles.mpr ⟨s, hs, rfl⟩), fun h => ?_, fun h => ?_⟩
    all_goals
      have := hst.symm.trans h
      cases this
  · rw [if_neg hp] at hst
    refine idle_step fit (fun _ => rfl) hl hst ?_
    rw [hstep]
    unfold processAgpsEventGranted
    split <;> first | rfl | contradiction

/-- What the new state after a release says of the list that is left. -/
theorem afterRetire_cases {state t : AgpsState} {l : List AgpsSubscriber}
    (h : afterRetire state l = t) :
    (t = .released ∧ l = []) ∨
      (t = .releasing ∧ (state = .releasing ∨ ∀ s ∈ l, s.mIsInactive = true)) ∨
      (t = state ∧ state ≠ .releasing) := by
  unfold afterRetire at h
  split at h
  · rename_i hl
    exact Or.inl ⟨h.symm, List.isEmpty_iff.mp hl⟩
  · split at h
    · rename_i hor
      refine Or.inr (Or.inl ⟨h.symm, hor.imp_right fun hn => ?_⟩)
      simpa using hn
    · rename_i hor
      exact Or.inr (Or.inr ⟨h.symm, fun hs => hor (Or.inl hs)⟩)

theorem release_tells {sm : AgpsStateMachine} {e : MachineEvent} {s : AgpsSubscriber}
    (hk : sm.kind = .base) (hs : sm.mState ≠ .released)
    (hstep : handle ds sm e = (sm.setCurrentSubscriber s).processAgpsEventUnsubscribe ds) :
    Tells sm (handle ds sm e) (fun h =>
      if s.mWaitForCloseComplete = false ∧ s.mConnHandle = h then [.closed] else []) := by
  rw [hstep]
  exact unsubscribe_tells (sm.setCurrentSubscriber s) ds hk hs

/-- The current subscriber waits for the close: it stays, as inactive. -/
theorem release_wait_step (fit : AnswersFit a) {h : Int} {s : AgpsSubscriber}
    (hs : a.sm.mState ≠ .released) (hw : s.mWaitForCloseComplete = true)
    (hstep : handle ds a.sm (.releaseATL h) =
      (a.sm.setCurrentSubscriber s).processAgpsEventUnsubscribe ds) :
    Disciplined (.releaseATL h) a (answerStep ds a (.releaseATL h)) ∧
      AnswersFit (answerStep ds a (.releaseATL h)) := by
  set e : MachineEvent := .releaseATL h with he
  have hsub : ∀ h', subscribes e h' = false := fun _ => rfl
  have hl : (handle ds a.sm e).mSubscriberList = setInactive s.mConnHandle a.sm.mSubscriberList := by
    rw [hstep, unsubscribe_list]
    exact (if_neg hs).trans (if_pos hw)
  have hst : (handle ds a.sm e).mState =
      afterRetire a.sm.mState (handle ds a.sm e).mSubscriberList := by
    rw [hl, hstep, unsubscribe_state]
    refine (if_neg hs).trans (congrArg (afterRetire a.sm.mState) (if_pos hw))
  have ht : Tells a.sm (handle ds a.sm e) (fun _ => []) := by
    have hcur := release_tells ds fit.base hs hstep
    simpa only [hw, Bool.true_eq_false, false_and, if_false] using hcur
  have hhandles : handles (handle ds a.sm e).mSubscriberList = handles a.sm.mSubscriberList := by
    rw [hl, handles_setInactive]
  have htold : (answerStep ds a e).told = a.told := by
    funext h'
    rw [told_answerStep ht, hsub]
    exact List.append_nil _
  have hd := keep_disciplined fit hsub hhandles ht (fun _ => Or.inl rfl)
  have hall : ∀ {P : List Answer → Prop}, (∀ t ∈ a.sm.mSubscriberList, P (a.told t.mConnHandle)) →
      ∀ t ∈ (handle ds a.sm e).mSubscriberList, P (a.told t.mConnHandle) := by
    intro P hP t htl
    exact told_of_listed hP (hhandles ▸ mem_handles.mpr ⟨t, htl, rfl⟩)
  refine ⟨hd, (handle_kind ds a.sm e).trans fit.base, hd.nodup, fun hr => ?_,
    fun t htl => hd.listed _ (mem_handles.mpr ⟨t, htl, rfl⟩), fun hp => ?_, fun hg t htl hact => ?_⟩
  · rcases afterRetire_cases (hst.symm.trans hr) with ⟨-, hnil⟩ | ⟨hne, -⟩ | ⟨heq, -⟩
    · exact hnil
    · cases hne
    · exact absurd heq.symm hs
  · rw [htold]
    rcases afterRetire_cases (hst.symm.trans hp) with ⟨hne, -⟩ | ⟨hne, -⟩ | ⟨heq, -⟩
    · cases hne
    · cases hne
    · exact hall (P := (· = [])) (fit.pending heq.symm)
  · rw [htold]
    rcases afterRetire_cases (hst.symm.trans hg) with ⟨hne, -⟩ | ⟨-, hrel | hina⟩ | ⟨heq, hne⟩
    · cases hne
    · exact fit.releasing hrel t (mem_of_mem_setInactive (hl ▸ htl) hact) hact
    · exact absurd (hina t htl) (by simp [hact])
    · exact absurd heq.symm hne

/-- The current subscriber does not wait: it is told and goes. -/
theorem release_now_step (fit : AnswersFit a) {h : Int} {s : AgpsSubscriber}
    (hs : a.sm.mState ≠ .released) (hw : s.mWaitForCloseComplete = false)
    (hm : s ∈ a.sm.mSubscriberList)
    (hstep : handle ds a.sm (.releaseATL h) =
      (a.sm.setCurrentSubscriber s).processAgpsEventUnsubscribe ds) :
    Disciplined (.releaseATL h) a (answerStep ds a (.releaseATL h)) ∧
      AnswersFit (answerStep ds a (.releaseATL h)) := by
  set e : MachineEvent := .releaseATL h with he
  have hsub : ∀ h', subscribes e h' = false := fun _ => rfl
  have hret : retired s a.sm.mSubscriberList = a.sm.mSubscriberList.filter (!·.equals s) := by
    simp only [retired, hw, Bool.false_eq_true, if_false]
  have hl : (handle ds a.sm e).mSubscriberList = a.sm.mSubscriberList.filter (!·.equals s) := by
    rw [hstep, unsubscribe_list]
    exact (if_neg hs).trans hret
  have hst : (handle ds a.sm e).mState =
      afterRetire a.sm.mState (handle ds a.sm e).mSubscriberList := by
    rw [hl, hstep, unsubscribe_state]
    exact (if_neg hs).trans (congrArg (afterRetire a.sm.mState) hret)
  have hone : ∀ h', h' ∈ handles (a.sm.mSubscriberList.filter (·.equals s)) ↔
      s.mConnHandle = h' := by
    intro h'
    rw [mem_handles]
    constructor
    · intro hh
      obtain ⟨t, htl, rfl⟩ := hh
      have : t.mConnHandle = s.mConnHandle := by
        simpa [AgpsSubscriber.equals] using (List.mem_filter.mp htl).2
      exact this.symm
    · rintro rfl
      exact ⟨s, List.mem_filter.mpr ⟨hm, by simp [AgpsSubscriber.equals]⟩, rfl⟩
  have ht : Tells a.sm (handle ds a.sm e) (fun h' =>
      if h' ∈ handles (a.sm.mSubscriberList.filter (·.equals s)) then [.closed] else []) := by
    have hcur := release_tells ds fit.base hs hstep
    simpa only [hw, true_and, hone] using hcur
  refine ⟨drop_disciplined fit hsub hl ht (Or.inl rfl), drop_fits fit hsub hl ht ?_ ?_ ?_⟩
  · intro hr
    rcases afterRetire_cases (hst.symm.trans hr) with ⟨-, hnil⟩ | ⟨hne, -⟩ | ⟨heq, -⟩
    · exact hnil
    · cases hne
    · exact absurd heq.symm hs
  · intro hp t htl
    rcases afterRetire_cases (hst.symm.trans hp) with ⟨hne, -⟩ | ⟨hne, -⟩ | ⟨heq, -⟩
    · cases hne
    · cases hne
    · exact fit.pending heq.symm t (List.mem_filter.mp htl).1
  · intro hg t htl hact
    rcases afterRetire_cases (hst.symm.trans hg) with ⟨hne, -⟩ | ⟨-, hrel | hina⟩ | ⟨heq, hne⟩
    · cases hne
    · exact fit.releasing hrel t (List.mem_filter.mp htl).1 hact
    · exact absurd (hina t (hl ▸ htl)) (by simp [hact])
    · exact absurd heq.symm hne

theorem releaseATL_step (fit : AnswersFit a) (h : Int) :
    Disciplined (.releaseATL h) a (answerStep ds a (.releaseATL h)) ∧
      AnswersFit (answerStep ds a (.releaseATL h)) := by
  cases hg : a.sm.getSubscriber h with
  | none =>
    have hstep : handle ds a.sm (.releaseATL h) = a.sm := by simp only [handle, hg]
    exact idle_step fit (fun _ => rfl) (by rw [hstep]) (by rw [hstep]) (by rw [hstep])
  | some s =>
    have hm : s ∈ a.sm.mSubscriberList := List.mem_of_find?_eq_some hg
    have hs : a.sm.mState ≠ .released := by
      intro hr
      rw [fit.released hr] at hm
      cases hm
    have hstep : handle ds a.sm (.releaseATL h) =
        (a.sm.setCurrentSubscriber s).processAgpsEventUnsubscribe ds := by
      simp only [handle, hg, process_unsubscribe]
    cases hw : s.mWaitForCloseComplete with
    | true => exact release_wait_step ds fit hs hw hstep
    | false => exact release_now_step ds fit hs hw hm hstep

/-- The close of the connection completes: the inactive subscribers go. -/
theorem completeRelease_step (fit : AnswersFit a) {e : MachineEvent}
    (he : ∀ h, subscribes e h = false) (hs : a.sm.mState = .releasing)
    (hstep : handle ds a.sm e = a.sm.completeRelease ds) :
    Disciplined e a (answerStep ds a e) ∧ AnswersFit (answerStep ds a e) := by
  have hl : (handle ds a.sm e).mSubscriberList = stillActive a.sm.mSubscriberList := by
    rw [hstep, completeRelease_list]
  have hst := (congrArg AgpsStateMachine.mState hstep).trans (completeRelease_state _ ds)
  have ht : Tells a.sm (handle ds a.sm e) (fun h =>
      if h ∈ handles (a.sm.mSubscriberList.filter (·.mIsInactive)) then [.closed] else []) :=
    hstep ▸ completeRelease_tells a.sm ds fit.base fit.nodup
  refine ⟨drop_disciplined fit he hl ht (Or.inl rfl), drop_fits fit he hl ht ?_ ?_ ?_⟩
  · intro hr
    rw [hst] at hr
    split at hr
    · rwa [hl]
    · cases hr
  · intro _ s hm
    obtain ⟨hsl, hact⟩ := List.mem_filter.mp hm
    exact fit.releasing hs s hsl (by simpa using hact)
  · intro hg
    rw [hst] at hg
    split at hg <;> cases hg

/-- The connection ends for everybody: the list is emptied. -/
theorem dropAll_step (fit : AnswersFit a) {e : MachineEvent} (he : ∀ h, subscribes e h = false)
    {event : AgpsEvent} {ans : Answer} (hev : eventAnswer event = some ans)
    (hans : ans = .closed ∨ ans = .failed ∧ a.sm.mState = .pending)
    (hstep : handle ds a.sm e =
      (a.sm.transitionState .released).notifyAllSubscribers event true .forAllSubscribers) :
    Disciplined e a (answerStep ds a e) ∧ AnswersFit (answerStep ds a e) := by
  have hl : (handle ds a.sm e).mSubscriberList =
      a.sm.mSubscriberList.filter (!covers .forAllSubscribers ·) := by
    rw [hstep, notifyAll_list, if_pos rfl, transitionState_list]
  have hnil : (handle ds a.sm e).mSubscriberList = [] := by
    rw [hl]; simp [covers]
  have hst : (handle ds a.sm e).mState = .released := by
    rw [hstep, notifyAll_state, transitionState_state]
  have ht : Tells a.sm (handle ds a.sm e) (fun h =>
      if h ∈ handles (a.sm.mSubscriberList.filter (covers .forAllSubscribers)) then [ans]
      else []) := by
    have hall := notifyAll_tells (a.sm.transitionState .released) fit.base fit.nodup
      event true .forAllSubscribers
    rw [hev] at hall
    rw [hstep]
    exact hall
  refine ⟨drop_disciplined fit he hl ht (hans.imp_right fun h => ⟨h.1, fit.pending h.2⟩),
    drop_fits fit he hl ht (fun _ => hnil) ?_ ?_⟩
  · intro hp; rw [hst] at hp; cases hp
  · intro hg; rw [hst] at hg; cases hg

theorem released_step (fit : AnswersFit a) :
    Disciplined .released a (answerStep ds a .released) ∧
      AnswersFit (answerStep ds a .released) := by
  have hstep : handle ds a.sm .released = a.sm.processAgpsEventReleased ds :=
    process_released_base _ ds fit.base
  have he : ∀ h, subscribes .released h = false := fun _ => rfl
  unfold processAgpsEventReleased at hstep
  split at hstep
  · exact idle_step fit he (by rw [hstep]) (by rw [hstep]) (by rw [hstep])
  · exact dropAll_step ds fit he rfl (Or.inl rfl) hstep
  · rename_i hs
    exact completeRelease_step ds fit he hs hstep
  · exact idle_step fit he (by rw [hstep]) (by rw [hstep]) (by rw [hstep])

theorem denied_step (fit : AnswersFit a) :
    Disciplined .denied a (answerStep ds a .denied) ∧ AnswersFit (answerStep ds a .denied) := by
  have hstep : handle ds a.sm .denied = a.sm.processAgpsEventDenied ds := process_denied _ ds
  have he : ∀ h, subscribes .denied h = false := fun _ => rfl
  unfold processAgpsEventDenied at hstep
  split at hstep
  · exact idle_step fit he (by rw [hstep]) (by rw [hstep]) (by rw [hstep])
  · exact idle_step fit he (by rw [hstep]) (by rw [hstep]) (by rw [hstep])
  · rename_i hs
    exact completeRelease_step ds fit he hs hstep
  · rename_i hs
    exact dropAll_step ds fit he rfl (Or.inr ⟨rfl, hs⟩) hstep

theorem answerStep_fits (fit : AnswersFit a) {e : MachineEvent} (hp : Permitted a e) :
    Disciplined e a (answerStep ds a e) ∧ AnswersFit (answerStep ds a e) := by
  cases e with
  | requestATL h wait => exact requestATL_step ds fit wait hp
  | releaseATL h => exact releaseATL_step ds fit h
  | granted => exact granted_step ds fit
  | released => exact released_step ds fit
  | denied => exact denied_step ds fit
  | handleModemSSR => exact hp.elim

end

/-! ## Runs -/

theorem answersFit_start (agpsType : AGpsExtType) : AnswersFit (.start agpsType) :=
  ⟨rfl, List.nodup_nil, fun _ => rfl, fun _ hs => (List.not_mem_nil hs).elim,
    fun _ _ hs => (List.not_mem_nil hs).elim, fun _ _ hs => (List.not_mem_nil hs).elim⟩

end DeviceHal.Gnss.AgpsAnswers
