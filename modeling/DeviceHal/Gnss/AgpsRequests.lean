import DeviceHal.Gnss.AgpsDispatch

/-! # Requests are honoured

After the manager has processed a request, its handle is an active subscriber
of the chosen machine, or the request was answered on the way. The exception
is a handle that still waits, inactive, for its last connection to close. -/
namespace DeviceHal.Gnss.AgpsRequests
open DeviceHal.Lib.Run DeviceHal.Gnss.AgpsMachine DeviceHal.Gnss.AgpsMachine.AgpsStateMachine
open DeviceHal.Gnss.AgpsSubscribers DeviceHal.Gnss.AgpsDispatch
open DeviceHal.Gnss.AgpsDispatch.AgpsManager DeviceHal.Gnss.AgpsDispatch.AgpsSystem

/-- An open status for the handle, or a posted re-request for it with SUPL. -/
def answers (h : Int) : AgpsCall → Bool
  | .atlOpenStatus handle _ _ _ _ => handle == h
  | .sendMsg handle agpsType => handle == h && agpsType == LOC_AGPS_TYPE_SUPL
  | _ => false

def ActiveIn (l : List AgpsSubscriber) (h : Int) : Prop :=
  ∃ s ∈ l, s.mConnHandle = h ∧ s.mIsInactive = false

instance (l : List AgpsSubscriber) (h : Int) : Decidable (ActiveIn l h) :=
  inferInstanceAs (Decidable (∃ s ∈ l, _))

/-! ## One machine -/

/-- The calls added on the way do not answer the handle. -/
def Silent (h : Int) (calls calls' : List AgpsCall) : Prop :=
  ∃ cs, calls' = calls ++ cs ∧ ∀ c ∈ cs, answers h c = false

theorem Silent.refl (h : Int) (calls : List AgpsCall) : Silent h calls calls :=
  ⟨[], (List.append_nil _).symm, fun _ hc => (List.not_mem_nil hc).elim⟩

theorem Silent.one {h : Int} {c : AgpsCall} (hc : answers h c = false) (calls : List AgpsCall) :
    Silent h calls (calls ++ [c]) :=
  ⟨[c], rfl, by simpa using hc⟩

theorem Silent.trans {h : Int} {a b c : List AgpsCall} (hab : Silent h a b) (hbc : Silent h b c) :
    Silent h a c := by
  obtain ⟨cs, rfl, hcs⟩ := hab
  obtain ⟨cs', rfl, hcs'⟩ := hbc
  refine ⟨cs ++ cs', List.append_assoc _ _ _, fun c hc => ?_⟩
  exact (List.mem_append.mp hc).elim (hcs c) (hcs' c)

section
variable (sm : AgpsStateMachine) (ds : DSClient)

theorem denied_silent (hk : sm.kind = .ds) {s : AgpsSubscriber} {h : Int}
    (hs : s.mConnHandle ≠ h) :
    Silent h sm.calls (sm.notifyEventToSubscriber .denied s false).calls := by
  have hc : (sm.notifyEventToSubscriber .denied s false).calls =
      sm.calls ++ [.sendMsg s.mConnHandle LOC_AGPS_TYPE_SUPL] := by
    simp only [notify_keep, notice, hk]
  rw [hc]
  exact Silent.one (by simp [answers, hs]) _

/-- The data call that is started answers nobody but an active subscriber. -/
theorem startDataCall_silent (hk : sm.kind = .ds) {h : Int} (hn : ¬ ActiveIn sm.mSubscriberList h) :
    Silent h sm.calls (sm.startDataCall ds).1.calls := by
  unfold startDataCall
  cases hs : sm.getFirstSubscriber false with
  | none => exact Silent.refl h _
  | some s =>
    have hne : s.mConnHandle ≠ h := by
      rintro rfl
      have hact : s.mIsInactive = false := by simpa using List.find?_some hs
      exact hn ⟨s, List.mem_of_find?_eq_some hs, rfl, hact⟩
    have hopen : Silent h sm.calls (sm.emit .openAndStartDataCall).calls := Silent.one rfl _
    cases ds.openAndStartDataCallFn with
    | none => exact denied_silent sm hk hne
    | some ret =>
      dsimp only
      split
      · split
        · refine hopen.trans ?_
          exact denied_silent { sm.emit .openAndStartDataCall with mRetries := sm.mRetries + 1 }
            hk hne
        · exact hopen.trans (Silent.one rfl _)
      · split
        · exact hopen.trans (denied_silent (sm.emit .openAndStartDataCall) hk hne)
        · exact hopen

theorem request_silent (request : Bool) {h : Int} (hn : ¬ ActiveIn sm.mSubscriberList h) :
    Silent h sm.calls (sm.requestOrReleaseDataConn ds request).1.calls := by
  unfold requestOrReleaseDataConn
  split
  · exact Silent.one rfl _
  · rename_i hk
    split
    · exact Silent.one rfl _
    · exact startDataCall_silent sm ds hk hn

/-- A machine that is not acquired and does not take the subscriber says
nothing to it. -/
theorem subscribe_silent {h : Int} (hs : sm.mState ≠ .acquired)
    (hn : ¬ ActiveIn (sm.addSubscriber sm.mCurrentSubscriber).mSubscriberList h) :
    Silent h sm.calls (sm.processAgpsEventSubscribe ds).calls := by
  have hadd : Silent h sm.calls (sm.addSubscriber sm.mCurrentSubscriber).calls := by
    rw [addSubscriber_calls]; exact Silent.refl h _
  unfold processAgpsEventSubscribe
  split
  · have hreq := hadd.trans (request_silent _ ds true hn)
    dsimp only
    split
    · exact hreq
    · exact hreq
  · exact hadd
  · contradiction
  · exact hadd

/-- Who is active once the subscriber is added. -/
theorem activeIn_add {s : AgpsSubscriber} (ha : s.mIsInactive = false) :
    ActiveIn (sm.addSubscriber s).mSubscriberList s.mConnHandle ↔
      s.mConnHandle ∉ handles sm.mSubscriberList ∨ ActiveIn sm.mSubscriberList s.mConnHandle := by
  rw [addSubscriber_list]
  by_cases hin : s.mConnHandle ∈ handles sm.mSubscriberList
  · rw [if_pos hin]
    exact ⟨Or.inr, fun h => h.resolve_left (not_not_intro hin)⟩
  · rw [if_neg hin]
    refine iff_of_true ⟨s, ?_, rfl, ha⟩ (Or.inl hin)
    exact List.mem_append_right _ List.mem_cons_self

/-- A subscription is taken or answered exactly if the machine is acquired or
the handle is not waiting in it as inactive. -/
theorem subscribe_honoured_iff {s : AgpsSubscriber} (ha : s.mIsInactive = false)
    (hcur : sm.mCurrentSubscriber = s) (hc : sm.calls = []) :
    (ActiveIn (sm.processAgpsEventSubscribe ds).mSubscriberList s.mConnHandle ∨
      ∃ c ∈ (sm.processAgpsEventSubscribe ds).calls, answers s.mConnHandle c = true) ↔
    sm.mState = .acquired ∨
      s.mConnHandle ∉ handles sm.mSubscriberList ∨ ActiveIn sm.mSubscriberList s.mConnHandle := by
  have hlist : ActiveIn (sm.processAgpsEventSubscribe ds).mSubscriberList s.mConnHandle ↔
      ActiveIn (sm.addSubscriber s).mSubscriberList s.mConnHandle := by
    rw [subscribe_list, hcur]
  by_cases hs : sm.mState = .acquired
  · refine iff_of_true (Or.inr ?_) (Or.inl hs)
    refine ⟨.atlOpenStatus s.mConnHandle true (if sm.kind = .base then sm.mAPN else none)
      (if sm.kind = .base then sm.mBearer else AGPS_APN_BEARER_INVALID)
      (if sm.kind = .base then sm.mAgpsType else LOC_AGPS_TYPE_SUPL_ES), ?_, by simp [answers]⟩
    unfold processAgpsEventSubscribe
    split
    · simp_all
    · simp_all
    · simp only [addSubscriber_calls, notify_keep, hc, hcur, List.nil_append]
      cases hk : sm.kind <;> simp [notice, hk, getAPN, getBearer]
    · simp_all
  · simp only [hs, false_or]
    rw [hlist, activeIn_add sm ha]
    refine ⟨fun h => ?_, Or.inl⟩
    rcases h with h | ⟨c, hcm, hca⟩
    · exact h
    by_contra hn
    have hsil : Silent s.mConnHandle sm.calls (sm.processAgpsEventSubscribe ds).calls :=
      subscribe_silent sm ds hs (by rw [hcur, activeIn_add sm ha]; exact hn)
    obtain ⟨cs, hcs, hno⟩ := hsil
    rw [hcs, hc, List.nil_append] at hcm
    rw [hno c hcm] at hca
    cases hca

end

/-! ## The manager -/

/-- The handle is an active subscriber of the machine. -/
def Subscribed (m : AgpsManager) (n : Nif) (h : Int) : Prop :=
  ∃ sm, m.nif n = some sm ∧ ActiveIn sm.mSubscriberList h

/-- Nothing keeps the request from being taken: the chosen machine, if it
exists, is acquired, or does not hold the handle, or holds it as active. -/
def Takes (m : AgpsManager) (n : Nif) (h : Int) : Prop :=
  ∀ sm, m.nif n = some sm →
    sm.mState = .acquired ∨ h ∉ handles sm.mSubscriberList ∨ ActiveIn sm.mSubscriberList h

theorem createAgpsStateMachines_silent (m : AgpsManager) (env : AgpsEnv) (h : Int) :
    Silent h m.calls (m.createAgpsStateMachines env).calls := by
  rcases m.calls_createAgpsStateMachines env with hc | hc
  · rw [hc]; exact Silent.refl h _
  · rw [hc]; exact Silent.one rfl _

theorem getAgpsStateMachine_silent (m : AgpsManager) (env : AgpsEnv) (agpsType : AGpsExtType)
    (h : Int) : Silent h m.calls (m.getAgpsStateMachine env agpsType).1.calls := by
  unfold getAgpsStateMachine
  split
  · exact Silent.refl h _
  · split
    · split
      · dsimp only
        split
        · exact createAgpsStateMachines_silent m env h
        · exact Silent.refl h _
      · exact Silent.refl h _
    · exact Silent.refl h _

theorem requestATL_honoured_iff (m : AgpsManager) (hm : m.calls = []) (env : AgpsEnv) (h : Int)
    (agpsType : AGpsExtType) :
    (Subscribed (m.requestATL env h agpsType) (m.getAgpsStateMachine env agpsType).2 h ∨
      ∃ c ∈ (m.requestATL env h agpsType).calls, answers h c = true) ↔
    Takes (m.getAgpsStateMachine env agpsType).1 (m.getAgpsStateMachine env agpsType).2 h := by
  have hsil := getAgpsStateMachine_silent m env agpsType h
  unfold requestATL
  generalize m.getAgpsStateMachine env agpsType = p at hsil ⊢
  obtain ⟨m', n⟩ := p
  dsimp only at hsil ⊢
  cases hn : m'.nif n with
  | none =>
    refine iff_of_true (Or.inr ⟨_, List.mem_append_right _ List.mem_cons_self, ?_⟩) ?_
    · simp [answers]
    · intro sm hsm
      rw [hn] at hsm
      cases hsm
  | some sm =>
    simp only [Option.isNone_some, Bool.false_eq_true, if_false]
    set s : AgpsSubscriber := ⟨h, agpsType == LOC_AGPS_TYPE_SUPL_ES, false⟩ with hs
    set sm₀ := ({ sm with calls := [] } : AgpsStateMachine).setCurrentSubscriber s with hsm₀
    have hiff := subscribe_honoured_iff sm₀ env.ds (s := s) rfl rfl rfl
    have hnif : (m'.onNif n fun sm => (sm.setCurrentSubscriber s).processAgpsEvent env.ds
        .subscribe).nif n = some (sm₀.processAgpsEventSubscribe env.ds) := by
      rw [nif_onNif, if_pos rfl, hn]
      exact congrArg some (process_subscribe _ _)
    have hcalls : (m'.onNif n fun sm => (sm.setCurrentSubscriber s).processAgpsEvent env.ds
        .subscribe).calls = m'.calls ++ (sm₀.processAgpsEventSubscribe env.ds).calls := by
      rw [calls_onNif m' hn, process_subscribe]
    have hsub : Subscribed (m'.onNif n fun sm => (sm.setCurrentSubscriber s).processAgpsEvent
        env.ds .subscribe) n h ↔
        ActiveIn (sm₀.processAgpsEventSubscribe env.ds).mSubscriberList h := by
      simp only [Subscribed, hnif, Option.some.injEq, exists_eq_left']
    have hans : (∃ c ∈ m'.calls ++ (sm₀.processAgpsEventSubscribe env.ds).calls,
          answers h c = true) ↔
        ∃ c ∈ (sm₀.processAgpsEventSubscribe env.ds).calls, answers h c = true := by
      obtain ⟨cs, hcs, hno⟩ := hsil
      constructor
      · intro hh
        obtain ⟨c, hc, ha⟩ := hh
        rcases List.mem_append.mp hc with hc | hc
        · rw [hcs, hm, List.nil_append] at hc
          rw [hno c hc] at ha
          cases ha
        · exact ⟨c, hc, ha⟩
      · intro hh
        obtain ⟨c, hc, ha⟩ := hh
        exact ⟨c, List.mem_append_right _ hc, ha⟩
    have htakes : Takes m' n h ↔ (sm.mState = .acquired ∨ h ∉ handles sm.mSubscriberList ∨
        ActiveIn sm.mSubscriberList h) := by
      simp only [Takes, hn, Option.some.injEq, forall_eq']
    rw [hcalls, hans, hsub, htakes]
    exact hiff

/-! ## Runs -/

/-- The state before the message is processed, with no calls made yet. -/
def fresh (s : AgpsSystem) : AgpsManager := { s.manager with calls := [] }

/-- After a request the handle is subscribed where the request was sent, or it
was answered. -/
def Honoured (s : AgpsSystem) (e : AgpsEnv × AgpsMsg) : Prop :=
  ∀ h agpsType, s.request e.2 = some (h, agpsType) →
    Subscribed (s.step e).manager ((fresh s).getAgpsStateMachine e.1 agpsType).2 h ∨
      ∃ c ∈ (s.step e).manager.calls, answers h c = true

/-- No request comes for a handle that waits for a close in its machine. -/
def NotWaiting (s : AgpsSystem) (e : AgpsEnv × AgpsMsg) : Prop :=
  ∀ h agpsType, s.request e.2 = some (h, agpsType) →
    Takes ((fresh s).getAgpsStateMachine e.1 agpsType).1
      ((fresh s).getAgpsStateMachine e.1 agpsType).2 h

/-- A request message, from the modem or posted, is processed by `requestATL`. -/
theorem manager_step_request {s : AgpsSystem} {e : AgpsEnv × AgpsMsg} {h : Int}
    {agpsType : AGpsExtType} (hr : s.request e.2 = some (h, agpsType)) :
    (s.step e).manager = (fresh s).requestATL e.1 h agpsType := by
  obtain ⟨env, msg⟩ := e
  cases msg with
  | requestATL h' t' =>
    simp only [request, Option.some.injEq, Prod.mk.injEq] at hr
    obtain ⟨rfl, rfl⟩ := hr
    rfl
  | postedRequest =>
    simp only [request, List.head?_eq_some_iff] at hr
    obtain ⟨rest, hq⟩ := hr
    simp only [step, process, hq]
    rfl
  | _ => cases hr

/-- **Requests are honoured exactly in the runs that never ask for a waiting
handle.** In a run from the start, every processed request leaves its handle
actively subscribed or answered if and only if none of them finds the handle
inactive in the chosen machine while that is not acquired. -/
theorem requests_honoured_iff (es : List (AgpsEnv × AgpsMsg)) :
    Steps step Honoured .start es ↔ Steps step NotWaiting .start es := by
  refine steps_iff_guard (I := fun _ => True) (A := fun _ _ => True) (fun s e _ _ => ?_)
    (fun _ _ _ _ _ => trivial) trivial (steps_of_forall (fun _ _ => trivial) _ _)
  have hiff : ∀ h agpsType, s.request e.2 = some (h, agpsType) →
      ((Subscribed (s.step e).manager ((fresh s).getAgpsStateMachine e.1 agpsType).2 h ∨
        ∃ c ∈ (s.step e).manager.calls, answers h c = true) ↔
      Takes ((fresh s).getAgpsStateMachine e.1 agpsType).1
        ((fresh s).getAgpsStateMachine e.1 agpsType).2 h) := by
    intro h agpsType hr
    rw [manager_step_request hr]
    exact requestATL_honoured_iff _ rfl e.1 h agpsType
  exact ⟨fun hh h t hr => (hiff h t hr).mp (hh h t hr),
    fun hh h t hr => (hiff h t hr).mpr (hh h t hr)⟩

/-- An environment with an emergency connection whose data call starts. -/
def emergencyEnv : AgpsEnv := ⟨true, true, some 0, some LOC_API_ADAPTER_ERR_SUCCESS, true⟩

/-- An emergency request is released while it is set up, and the same handle
asks again before the call is closed. -/
theorem waiting_handle_forgotten :
    ¬ Steps step Honoured .start
      [(emergencyEnv, .initAgps), (emergencyEnv, .requestATL 1 LOC_AGPS_TYPE_SUPL_ES),
        (emergencyEnv, .releaseATL 1), (emergencyEnv, .requestATL 1 LOC_AGPS_TYPE_SUPL_ES)] := by
  intro hh
  obtain ⟨-, -, -, h, -⟩ := hh
  have h1 := h 1 LOC_AGPS_TYPE_SUPL_ES rfl
  rcases h1 with ⟨sm, hsm, hact⟩ | ⟨c, hc, ha⟩
  · cases hsm
    revert hact
    decide
  · revert c
    decide

end DeviceHal.Gnss.AgpsRequests
