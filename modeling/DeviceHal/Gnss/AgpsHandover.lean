import DeviceHal.Gnss.AgpsRequests

/-! # One machine per handle

A refused emergency request is handed over to the SUPL machine by a posted
request. The denial of a pending machine takes the handle out of the emergency
list as it posts; a start function that refuses leaves it in. The posted
request, whenever it is processed, is what puts a handle into a second list. -/
namespace DeviceHal.Gnss.AgpsHandover
open DeviceHal.Lib.Run DeviceHal.Gnss.AgpsMachine DeviceHal.Gnss.AgpsMachine.AgpsStateMachine
open DeviceHal.Gnss.AgpsSubscribers DeviceHal.Gnss.AgpsDispatch DeviceHal.Gnss.AgpsRequests
open DeviceHal.Gnss.AgpsDispatch.AgpsManager DeviceHal.Gnss.AgpsDispatch.AgpsSystem

/-- A handle is in the list of at most one machine. -/
def Unique (m : AgpsManager) : Prop :=
  ∀ h n k, h ∈ m.held n → h ∈ m.held k → n = k

/-- No restart, and a request from the modem uses a handle that is in no list
and has no request posted. -/
def FreshHandle (s : AgpsSystem) (e : AgpsEnv × AgpsMsg) : Prop :=
  match e.2 with
  | .requestATL connHandle _ =>
    (∀ n, connHandle ∉ s.manager.held n) ∧ connHandle ∉ s.queue.map Prod.fst
  | .handleModemSSR => False
  | _ => True

instance (s : AgpsSystem) (e : AgpsEnv × AgpsMsg) : Decidable (FreshHandle s e) := by
  unfold FreshHandle
  split <;> infer_instance

/-- A posted request that reaches a machine finds its handle in no other. -/
def HandedOver (s : AgpsSystem) (e : AgpsEnv × AgpsMsg) : Prop :=
  e.2 = .postedRequest → ∀ h agpsType, s.queue.head? = some (h, agpsType) →
    (((fresh s).getAgpsStateMachine e.1 agpsType).1.nif
      ((fresh s).getAgpsStateMachine e.1 agpsType).2).isSome →
    ∀ k, k ≠ ((fresh s).getAgpsStateMachine e.1 agpsType).2 → h ∉ s.manager.held k

/-! ## The hand-overs -/

section
variable {sm : AgpsStateMachine} {ds : DSClient} {s : AgpsSubscriber}

/-- The denial of a pending machine posts a request for each of its handles and takes them all
out of its list. -/
theorem pending_denial_hands_over (hk : sm.kind = .ds) (hp : sm.mState = .pending) :
    handles (sm.processAgpsEventDenied ds).mSubscriberList = [] ∧
      (sm.processAgpsEventDenied ds).calls =
        sm.calls ++ (handles sm.mSubscriberList).map (.sendMsg · LOC_AGPS_TYPE_SUPL) := by
  constructor
  · rw [denied_list, hp]
    rfl
  · obtain ⟨retries, hspec⟩ :=
      (sm.transitionState .released).notifyAll_spec .denied true .forAllSubscribers
    have hall : sm.mSubscriberList.filter (covers .forAllSubscribers) = sm.mSubscriberList :=
      List.filter_eq_self.mpr fun _ _ => rfl
    have hnotice : (sm.transitionState .released).notice .denied =
        fun s => [.sendMsg s.mConnHandle LOC_AGPS_TYPE_SUPL] := by
      funext s
      simp only [notice, transitionState_kind, hk]
    simp only [processAgpsEventDenied, hp, hspec, transitionState_list, transitionState_calls, hall,
      hnotice, handles, List.map_map, ← List.map_eq_flatMap]
    rfl

/-- The start function is not registered, finds no emergency profile, or is busy once too often. -/
def Refuses (sm : AgpsStateMachine) (ds : DSClient) : Prop :=
  ds.openAndStartDataCallFn = none ∨
    ds.openAndStartDataCallFn = some LOC_API_ADAPTER_ERR_UNSUPPORTED ∨
      ds.openAndStartDataCallFn = some LOC_API_ADAPTER_ERR_ENGINE_BUSY ∧
        MAX_START_DATA_CALL_RETRIES ≤ sm.mRetries

/-- Each of the three refusals posts a request for a handle that it leaves in the list. -/
theorem refusal_keeps (hk : sm.kind = .ds) (hr : Refuses sm ds)
    (hs : sm.getFirstSubscriber false = some s) :
    (sm.startDataCall ds).1.mSubscriberList = sm.mSubscriberList ∧
      s.mConnHandle ∈ handles sm.mSubscriberList ∧
      (sm.startDataCall ds).1.calls.getLast? =
        some (.sendMsg s.mConnHandle LOC_AGPS_TYPE_SUPL) := by
  refine ⟨(sm.startDataCall_spec ds).1, mem_handles.mpr ⟨s, List.mem_of_find?_eq_some hs, rfl⟩, ?_⟩
  have hnotice : ∀ sm' : AgpsStateMachine, sm'.kind = .ds →
      (sm'.notifyEventToSubscriber .denied s false).calls.getLast? =
        some (.sendMsg s.mConnHandle LOC_AGPS_TYPE_SUPL) := by
    intro sm' hk'
    simp [notify_keep, notice, hk']
  unfold startDataCall
  simp only [hs]
  rcases hr with hnone | hunsupported | ⟨hbusy, hretries⟩
  · simp only [hnone]
    exact hnotice sm hk
  · simp only [hunsupported]
    exact hnotice _ hk
  · have hspent : MAX_START_DATA_CALL_RETRIES < (sm.emit .openAndStartDataCall).mRetries + 1 :=
      Nat.lt_succ_of_le hretries
    simp only [hbusy, if_true, gt_iff_lt]
    rw [if_pos hspent]
    exact hnotice _ hk

/-- The retry timer asks for the emergency connection again, for a handle that it leaves in the
list. -/
theorem retryCallback_keeps (hs : sm.getFirstSubscriber false = some s) :
    sm.retryCallback.mSubscriberList = sm.mSubscriberList ∧
      s.mConnHandle ∈ handles sm.mSubscriberList ∧
      sm.retryCallback.calls = sm.calls ++ [.sendMsg s.mConnHandle LOC_AGPS_TYPE_SUPL_ES] := by
  refine ⟨?_, mem_handles.mpr ⟨s, List.mem_of_find?_eq_some hs, rfl⟩, ?_⟩
  · simp only [retryCallback, hs, emit_list]
  · simp only [retryCallback, hs, emit_calls]

end

/-! ## Lists after one message -/

/-- Only a subscription brings a handle into a list. -/
theorem process_subset (sm : AgpsStateMachine) (ds : DSClient) {event : AgpsEvent}
    (he : event ≠ .subscribe) :
    handles (sm.processAgpsEvent ds event).mSubscriberList ⊆ handles sm.mSubscriberList := by
  have hsub : ∀ {l : List AgpsSubscriber}, l.Sublist sm.mSubscriberList →
      handles l ⊆ handles sm.mSubscriberList := fun hl => (hl.map _).subset
  have hdenied : handles (sm.processAgpsEventDenied ds).mSubscriberList ⊆
      handles sm.mSubscriberList := by
    rw [denied_list]
    split
    · exact List.Subset.refl _
    · exact List.Subset.refl _
    · exact List.nil_subset _
    · exact hsub List.filter_sublist
  unfold processAgpsEvent
  dsimp only
  split
  · rename_i hev
    split at hev
    · cases hev
    · exact absurd hev he
  · rw [unsubscribe_list]
    split
    · exact List.Subset.refl _
    · unfold retired
      split
      · rw [handles_setInactive]
        exact List.Subset.refl _
      · exact hsub List.filter_sublist
  · rw [granted_list]
    exact List.Subset.refl _
  · rw [released_list]
    split
    · exact List.Subset.refl _
    · exact List.Subset.refl _
    · exact List.nil_subset _
    · exact hsub List.filter_sublist
  · exact hdenied

theorem releaseATL_subset (m : AgpsManager) (env : AgpsEnv) (h : Int) (k : Nif) :
    (m.releaseATL env h).held k ⊆ m.held k := by
  unfold releaseATL
  split
  · rw [held_of_nif (m.nif_emit _ k)]
    exact List.Subset.refl _
  · refine m.held_onNif_subset _ (fun sm => ?_) k
    split
    · exact List.Subset.refl _
    · exact process_subset (sm.setCurrentSubscriber _) env.ds (by decide)

/-- A report that chooses its machine by type. -/
theorem report_subset (m : AgpsManager) (env : AgpsEnv) (agpsType : AGpsExtType)
    {f : AgpsStateMachine → AgpsStateMachine}
    (hf : ∀ sm, handles (f sm).mSubscriberList ⊆ handles sm.mSubscriberList) (k : Nif) :
    ((m.getAgpsStateMachine env agpsType).1.onNif (m.getAgpsStateMachine env agpsType).2 f).held k
      ⊆ m.held k := by
  rw [← m.held_getAgpsStateMachine env agpsType k]
  exact AgpsManager.held_onNif_subset _ _ hf k

theorem handleModemSSR_subset (m : AgpsManager) (env : AgpsEnv) (k : Nif) :
    (m.handleModemSSR env).held k ⊆ m.held k := by
  have hdrop : ∀ (m : AgpsManager) (n : Nif), (m.onNif n (·.dropAllSubscribers)).held k ⊆ m.held k :=
    fun m n => m.held_onNif_subset n (fun _ => List.nil_subset _) k
  have hall : (((m.onNif .mAgnssNif (·.dropAllSubscribers)).onNif .mInternetNif
      (·.dropAllSubscribers)).onNif .mDsNif (·.dropAllSubscribers)).held k ⊆ m.held k :=
    List.Subset.trans (hdrop _ _) (List.Subset.trans (hdrop _ _) (hdrop _ _))
  unfold handleModemSSR
  dsimp only
  split
  · rw [held_of_nif (nif_emit _ _ k), held_of_nif (nif_emit _ _ k), held_of_nif (nif_emit _ _ k),
      held_of_nif (nif_emit _ _ k)]
    exact hall
  · exact hall

/-- What no request does: a message that is none brings no handle anywhere. -/
theorem step_subset (s : AgpsSystem) (e : AgpsEnv × AgpsMsg) (hr : s.request e.2 = none)
    (k : Nif) : (s.step e).manager.held k ⊆ s.manager.held k := by
  obtain ⟨env, msg⟩ := e
  have hfresh : (fresh s).held k = s.manager.held k := held_of_nif (by cases k <;> rfl)
  show (s.process env msg).held k ⊆ s.manager.held k
  rw [← hfresh]
  cases msg with
  | requestATL h t => cases hr
  | postedRequest =>
    have hq : s.queue = [] := List.head?_eq_none_iff.mp hr
    simp only [process, hq]
    exact List.Subset.refl _
  | initAgps =>
    simp only [process]
    split
    · rw [held_createAgpsStateMachines]
      exact List.Subset.refl _
    · exact List.Subset.refl _
  | releaseATL h => exact releaseATL_subset _ env h k
  | reportDataCallOpened =>
    exact held_onNif_subset _ _ (fun sm => process_subset sm env.ds (by decide)) k
  | reportDataCallClosed =>
    exact held_onNif_subset _ _ (fun sm => process_subset sm env.ds (by decide)) k
  | reportAtlOpenSuccess t apn len bearer =>
    exact report_subset _ env t (fun sm =>
      process_subset ((sm.setBearer bearer).setAPN apn len) env.ds (by decide)) k
  | reportAtlOpenFailed t =>
    exact report_subset _ env t (fun sm => process_subset sm env.ds (by decide)) k
  | reportAtlClosed t =>
    exact report_subset _ env t (fun sm => process_subset sm env.ds (by decide)) k
  | handleModemSSR => exact handleModemSSR_subset _ env k
  | retryTimer =>
    simp only [process]
    split
    · exact List.Subset.refl _
    · refine held_onNif_subset _ _ (fun sm => ?_) k
      unfold retryCallback
      split <;> exact List.Subset.refl _

/-- A request brings its handle to the chosen machine, if that exists. -/
theorem mem_held_requestATL (m : AgpsManager) (env : AgpsEnv) (h : Int) (agpsType : AGpsExtType)
    (h' : Int) (k : Nif) :
    h' ∈ (m.requestATL env h agpsType).held k ↔
      h' ∈ m.held k ∨ (h' = h ∧ k = (m.getAgpsStateMachine env agpsType).2 ∧
        ((m.getAgpsStateMachine env agpsType).1.nif
          (m.getAgpsStateMachine env agpsType).2).isSome) := by
  rw [← m.held_getAgpsStateMachine env agpsType k]
  unfold requestATL
  generalize m.getAgpsStateMachine env agpsType = p
  obtain ⟨m', n⟩ := p
  dsimp only
  cases hn : m'.nif n with
  | none =>
    simp only [Option.isNone_none, if_true, held_of_nif (m'.nif_emit _ k), Option.isSome_none,
      Bool.false_eq_true, and_false, or_false]
  | some sm =>
    simp only [Option.isNone_some, Bool.false_eq_true, if_false, Option.isSome_some, and_true]
    by_cases hk : k = n
    · subst hk
      rw [held_onNif _ hn, process_subscribe, subscribe_list, addSubscriber_list]
      simp only [held, hn, and_true]
      split
      · rename_i hin
        refine ⟨Or.inl, fun hh => hh.elim id ?_⟩
        rintro rfl
        exact hin
      · simp [handles, setCurrentSubscriber]
    · rw [held_onNif_ne _ hk]
      simp [hk]

theorem mem_held_step {s : AgpsSystem} {e : AgpsEnv × AgpsMsg} {h : Int} {agpsType : AGpsExtType}
    (hr : s.request e.2 = some (h, agpsType)) (h' : Int) (k : Nif) :
    h' ∈ (s.step e).manager.held k ↔
      h' ∈ s.manager.held k ∨ (h' = h ∧ k = ((fresh s).getAgpsStateMachine e.1 agpsType).2 ∧
        (((fresh s).getAgpsStateMachine e.1 agpsType).1.nif
          ((fresh s).getAgpsStateMachine e.1 agpsType).2).isSome) := by
  have hfresh : (fresh s).held k = s.manager.held k := held_of_nif (by cases k <;> rfl)
  rw [manager_step_request hr, mem_held_requestATL, hfresh]

/-! ## Runs -/

theorem unique_of_subset {m m' : AgpsManager} (hu : Unique m)
    (hs : ∀ k, m'.held k ⊆ m.held k) : Unique m' :=
  fun h n k hn hk => hu h n k (hs n hn) (hs k hk)

/-- A request keeps handles unique exactly if no other machine than the one it
reaches holds its handle. -/
theorem unique_request_iff {s : AgpsSystem} {e : AgpsEnv × AgpsMsg} (hu : Unique s.manager)
    {h : Int} {agpsType : AGpsExtType} (hr : s.request e.2 = some (h, agpsType)) :
    Unique (s.step e).manager ↔
      ((((fresh s).getAgpsStateMachine e.1 agpsType).1.nif
        ((fresh s).getAgpsStateMachine e.1 agpsType).2).isSome →
      ∀ k, k ≠ ((fresh s).getAgpsStateMachine e.1 agpsType).2 → h ∉ s.manager.held k) := by
  have hmem := mem_held_step hr
  generalize ((fresh s).getAgpsStateMachine e.1 agpsType).2 = n at hmem ⊢
  generalize (((fresh s).getAgpsStateMachine e.1 agpsType).1.nif n).isSome = ex at hmem ⊢
  constructor
  · intro hu' hex k hk hin
    exact hk (hu' h k n ((hmem h k).mpr (Or.inl hin)) ((hmem h n).mpr (Or.inr ⟨rfl, rfl, hex⟩)))
  · intro hother h' i j hi hj
    rcases (hmem h' i).mp hi with hi | ⟨rfl, rfl, hex⟩
    · rcases (hmem h' j).mp hj with hj | ⟨rfl, rfl, hex⟩
      · exact hu h' i j hi hj
      · by_contra hne
        exact hother hex i hne hi
    · rcases (hmem h' j).mp hj with hj | ⟨-, rfl, -⟩
      · by_contra hne
        exact hother hex j (Ne.symm hne) hj
      · rfl

theorem unique_step_iff {s : AgpsSystem} {e : AgpsEnv × AgpsMsg} (hu : Unique s.manager)
    (hf : FreshHandle s e) : Unique (s.step e).manager ↔ HandedOver s e := by
  obtain ⟨env, msg⟩ := e
  cases hr : s.request msg with
  | none =>
    refine iff_of_true (unique_of_subset hu (step_subset s (env, msg) hr)) ?_
    rintro rfl h agpsType hq
    rw [request, hq] at hr
    cases hr
  | some r =>
    obtain ⟨h, agpsType⟩ := r
    rw [unique_request_iff (e := (env, msg)) hu hr]
    cases msg with
    | requestATL h' t' =>
      simp only [request, Option.some.injEq, Prod.mk.injEq] at hr
      obtain ⟨rfl, rfl⟩ := hr
      exact iff_of_true (fun _ k _ => hf.1 k) (fun hmsg => by cases hmsg)
    | postedRequest =>
      have hq : s.queue.head? = some (h, agpsType) := hr
      constructor
      · rintro hx - h' t' hq'
        rw [hq] at hq'
        simp only [Option.some.injEq, Prod.mk.injEq] at hq'
        obtain ⟨rfl, rfl⟩ := hq'
        exact hx
      · exact fun hx => hx rfl h agpsType hq
    | _ => cases hr

theorem unique_start : Unique AgpsManager.new := by
  intro h n _ hn
  cases n <;> cases hn

/-- **Handles stay unique exactly in the runs whose hand-overs are complete.**
In a run from the start where the modem asks with fresh handles, every state
has each handle in at most one list if and only if every posted request finds
its handle in no machine but the one it reaches. -/
theorem handles_unique_iff (es : List (AgpsEnv × AgpsMsg)) (hes : Steps step FreshHandle .start es) :
    Steps step (fun s e => Unique (s.step e).manager) .start es ↔
      Steps step HandedOver .start es :=
  steps_iff_guard (I := fun s => Unique s.manager) (A := FreshHandle)
    (fun _ _ hu hf => unique_step_iff hu hf) (fun _ _ _ _ hq => hq) unique_start hes

/-- An environment whose data call finds no emergency profile. -/
def noProfileEnv : AgpsEnv := ⟨true, true, some 0, some LOC_API_ADAPTER_ERR_UNSUPPORTED, true⟩

theorem handles_unique_run :
    Steps step (fun s e => Unique (s.step e).manager) .start
        [(emergencyEnv, .initAgps), (emergencyEnv, .requestATL 1 LOC_AGPS_TYPE_SUPL_ES),
          (emergencyEnv, .reportDataCallClosed), (emergencyEnv, .postedRequest)] ↔
      Steps step HandedOver .start
        [(emergencyEnv, .initAgps), (emergencyEnv, .requestATL 1 LOC_AGPS_TYPE_SUPL_ES),
          (emergencyEnv, .reportDataCallClosed), (emergencyEnv, .postedRequest)] :=
  handles_unique_iff _ (by decide)

/-- The refused emergency request stays in its list and is posted to another. -/
theorem refused_handle_twice :
    ¬ (Steps step FreshHandle .start
        [(noProfileEnv, .initAgps), (noProfileEnv, .requestATL 1 LOC_AGPS_TYPE_SUPL_ES),
          (noProfileEnv, .postedRequest)] →
      Steps step (fun s e => Unique (s.step e).manager) .start
        [(noProfileEnv, .initAgps), (noProfileEnv, .requestATL 1 LOC_AGPS_TYPE_SUPL_ES),
          (noProfileEnv, .postedRequest)]) := by
  intro h
  obtain ⟨-, -, hu, -⟩ := h (by decide)
  exact absurd (hu 1 .mAgnssNif .mDsNif (by decide) (by decide)) (by decide)

end DeviceHal.Gnss.AgpsHandover
