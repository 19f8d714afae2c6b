import DeviceHal.Android.TrackingReports

/-! # The framework, the client and the adapter agree

When the engine never refuses, the messages in the queue decide which session
the adapter is going to have: the client's last, if it means to track. Once
they have been answered, the framework has been told of just that session. -/
namespace DeviceHal.Android.TrackingStatus
open DeviceHal.Lib.Run DeviceHal.Gnss.TrackingAnswers DeviceHal.Gnss.TrackingMultiplex
open DeviceHal.Gnss.PowerVote (nextSessionId)
open DeviceHal.Gnss.TrackingSessions (GnssAdapter GnssMsg LocationAPI Response)
open DeviceHal.Gnss.LocationTypes (LocationError)
open DeviceHal.Location (RequestClass)
open DeviceHal.Gnss.LocationTypes.LocationError DeviceHal.Location.RequestClass GnssStatusValue

/-- Whether the framework means to track: its last call decides. -/
def wish (wished : Bool) : Event → Bool
  | .gnssStart => true
  | .gnssStop => false
  | _ => wished

/-- Whether there is the session after the request, when the engine does not refuse. -/
def presence (tracked : Bool) : RequestClass → Bool
  | StartTrackingRequest => true
  | StopTrackingRequest => false
  | _ => tracked

theorem callFor_eq_stop {api : LocationAPI} {session : Nat} {msg : GnssMsg}
    (h : callFor api session msg = some StopTrackingRequest) :
    msg = .stopTracking api session := by
  cases msg with
  | stopTracking client sessionId =>
    by_cases hboth : client = api ∧ sessionId = session
    · rw [hboth.1, hboth.2]
    · rw [callFor, if_neg hboth] at h
      cases h
  | startTracking client sessionId options =>
    rw [callFor] at h
    split at h <;> cases h
  | updateTracking client sessionId options =>
    rw [callFor] at h
    split at h <;> cases h
  | _ => cases h

theorem Phase.tracked_of_started {msgs reqs : List RequestClass} {tracked : Bool} {begun : Prop}
    (h : Phase msgs tracked (some (StartTrackingRequest, LOCATION_ERROR_SUCCESS)) reqs begun) :
    tracked = true := by
  cases h with
  | started => rfl
  | refused _ herror => exact absurd rfl herror
  | answered => rfl

namespace World

section
variable (api : LocationAPI) (w : World)

/-- Whether the adapter has the session once the queue is empty. -/
def eventually (session : Nat) : Bool :=
  (w.waiting api session).foldl presence (w.adapter.isTrackingSession api session)

/-- Whether the client means to track in the session. -/
def wanted (session : Nat) : Bool :=
  w.client.base.mTracking && session == current w.client.base

structure Agrees : Prop where
  eventual : ∀ session, w.eventually api session = w.wanted session
  /-- The session of which the framework was told is there, about to start again or just gone. -/
  begun : Begun w.told → w.adapter.isTrackingSession api (current w.client.base) = true ∨
    StartTrackingRequest ∈ w.waiting api (current w.client.base) ∨
    w.answer api (current w.client.base) = some (StopTrackingRequest, LOCATION_ERROR_SUCCESS)

end

section
variable {api : LocationAPI} {w : World}

/-! ## Messages that are posted -/

theorem Agrees.post {w' : World} {msgs : List GnssMsg} (h : w.Agrees api)
    (hadapter : w'.adapter = w.adapter) (hanswering : w'.answering = w.answering)
    (htold : w'.told = w.told) (hmsgs : w'.mMsgTask = w.mMsgTask ++ msgs)
    (hwanted : ∀ session,
      (msgs.filterMap (callFor api session)).foldl presence (w.wanted session) = w'.wanted session)
    (hcurrent : current w'.client.base = current w.client.base ∨
      StartTrackingRequest ∈ msgs.filterMap (callFor api (current w'.client.base))) :
    w'.Agrees api := by
  have hwaiting : ∀ session, w'.waiting api session =
      w.waiting api session ++ msgs.filterMap (callFor api session) := by
    intro session
    rw [waiting, hmsgs, List.filterMap_append]
    rfl
  refine ⟨fun session => ?_, fun hbegun => ?_⟩
  · calc w'.eventually api session
        = (msgs.filterMap (callFor api session)).foldl presence (w.eventually api session) := by
          rw [eventually, hwaiting, hadapter, List.foldl_append]
          rfl
      _ = w'.wanted session := by rw [h.eventual, hwanted]
  · rcases hcurrent with hsame | hstart
    · rw [hsame, hadapter, hwaiting, answer, hanswering]
      rcases h.begun (htold ▸ hbegun) with htracked | hmem | hanswer
      · exact .inl htracked
      · exact .inr (.inl (List.mem_append_left _ hmem))
      · exact .inr (.inr hanswer)
    · refine .inr (.inl ?_)
      rw [hwaiting]
      exact List.mem_append_right _ hstart

/-- Nothing is posted for a session of the client. -/
theorem Agrees.quiet {w' : World} {msgs : List GnssMsg} (h : w.Agrees api)
    (hadapter : w'.adapter = w.adapter) (hanswering : w'.answering = w.answering)
    (htold : w'.told = w.told) (hmsgs : w'.mMsgTask = w.mMsgTask ++ msgs)
    (hbase : w'.client.base = w.client.base)
    (hquiet : ∀ msg ∈ msgs, ∀ session, callFor api session msg = none) : w'.Agrees api := by
  refine h.post hadapter hanswering htold hmsgs (fun session => ?_) (.inl (by rw [hbase]))
  rw [List.filterMap_eq_nil_iff.mpr fun msg hmsg => hquiet msg hmsg session, wanted, wanted, hbase]
  rfl

theorem agrees_gnssStart (h : w.Agrees api) (hgood : w.Good api) (results : Nat → Int) :
    (w.step results api .gnssStart).Agrees api := by
  simp only [step]
  rcases gnssStart_spec hgood.tracks api (nextSessionId w.mSessionIdCounter).toNat w.ops with
    ⟨-, hstart⟩ | ⟨hidle, base, hstart, -, htracking, hcurrent, -⟩
  · rw [hstart]
    exact h.quiet rfl rfl rfl rfl rfl (by simp)
  · rw [hstart]
    refine h.post rfl rfl rfl rfl (fun session => ?_) (.inr ?_)
    · show _ = (base.mTracking && session == current base)
      rw [wanted, hidle, htracking, hcurrent]
      by_cases hsession : (nextSessionId w.mSessionIdCounter).toNat = session
      · simp [callFor, hsession, presence]
      · simp [callFor, hsession, Ne.symm hsession]
    · show _ ∈ List.filterMap (callFor api (current base)) _
      simp [callFor, hcurrent]

theorem agrees_gnssStop (h : w.Agrees api) (hgood : w.Good api) (results : Nat → Int) :
    (w.step results api .gnssStop).Agrees api := by
  simp only [step]
  rcases gnssStop_spec hgood.tracks api w.ops with
    ⟨-, hstop⟩ | ⟨-, base, hstop, -, htracking, hcurrent, -⟩
  · rw [hstop]
    exact h.quiet rfl rfl rfl rfl rfl (by simp)
  · rw [hstop]
    refine h.post rfl rfl rfl rfl (fun session => ?_) (.inl hcurrent)
    show _ = (base.mTracking && session == current base)
    rw [wanted, htracking]
    by_cases hsession : current w.client.base = session
    · simp [callFor, hsession, presence]
    · simp [callFor, hsession, Ne.symm hsession]

theorem agrees_gnssSetPositionMode (h : w.Agrees api) (hgood : w.Good api) (results : Nat → Int)
    (mode : GnssPositionMode) (recurrence : GnssPositionRecurrence)
    (minIntervalMs preferredAccuracyMeters : Nat) :
    (w.step results api (.gnssSetPositionMode mode recurrence minIntervalMs
      preferredAccuracyMeters)).Agrees api := by
  obtain ⟨base, options, -, -, htracking, hcurrent, hmode⟩ := gnssSetPositionMode_spec
    hgood.tracks api mode recurrence minIntervalMs preferredAccuracyMeters w.ops
  rw [step_gnssSetPositionMode]
  rcases hmode with ⟨-, -, hmode⟩ | ⟨-, -, hmode⟩
  · rw [hmode]
    refine h.post rfl rfl rfl rfl (fun session => ?_) (.inl hcurrent)
    show _ = (base.mTracking && session == current base)
    rw [htracking, hcurrent]
    rfl
  · rw [hmode]
    refine h.post rfl rfl rfl rfl (fun session => ?_) (.inl hcurrent)
    show _ = (base.mTracking && session == current base)
    rw [htracking, hcurrent]
    by_cases hsession : current w.client.base = session
    · simp [callFor, hsession, presence, wanted]
    · simp [callFor, hsession, wanted]

theorem agrees_post (h : w.Agrees api) (results : Nat → Int) (msg : GnssMsg) :
    (w.step results api (.post msg)).Agrees api := by
  simp only [step]
  split
  next => exact h
  next hother =>
    refine h.quiet rfl rfl rfl rfl rfl fun other hmem => ?_
    rw [List.mem_singleton.mp hmem]
    exact callFor_of_ne hother

theorem agrees_gnssUpdateCallbacks (h : w.Agrees api) (results : Nat → Int)
    (gpsCb niCb hasAgpsExtendedCapabilities : Bool) :
    (w.step results api (.gnssUpdateCallbacks gpsCb niCb hasAgpsExtendedCapabilities)).Agrees
      api := by
  refine h.quiet rfl rfl rfl rfl rfl fun msg hmsg => ?_
  simp only [List.mem_ite_nil_right, List.mem_singleton] at hmsg
  obtain ⟨-, rfl⟩ := hmsg
  exact fun _ => rfl

/-! ## Messages that are processed -/

/-- What a message does to the sessions of the client. -/
theorem tracked_proc (hgood : w.Good api) {msg : GnssMsg} (hmsg : msg ∈ w.mMsgTask)
    (session : Nat) : (w.adapter.proc succeeds msg).isTrackingSession api session =
      (callFor api session msg).elim (w.adapter.isTrackingSession api session)
        (presence (w.adapter.isTrackingSession api session)) := by
  by_cases hclient : clientOf msg = some api
  · have hproper := hgood.proper msg hmsg
    cases msg with
    | addClient client callbacks => rfl
    | removeClient client => exact absurd (Option.some.inj hclient) hproper
    | startTracking client sessionId options =>
      obtain rfl := Option.some.inj hclient
      obtain ⟨callbacks, hcallbacks, -, htrackingCb⟩ := hgood.known
      have hcallback : w.adapter.hasTrackingCallback client = true := by
        rw [GnssAdapter.hasTrackingCallback, hcallbacks]
        exact htrackingCb
      have ha : Answered w.adapter (w.adapter.proc succeeds (.startTracking client sessionId
        options)) client sessionId _ true := start_succeeds hcallback (hproper rfl)
      rw [ha.isTrackingSession]
      by_cases hsession : sessionId = session <;> simp [callFor, hsession, presence]
    | updateTracking client sessionId options =>
      obtain rfl := Option.some.inj hclient
      have hsame : (w.adapter.proc succeeds (.updateTracking client sessionId
          options)).isTrackingSession client session =
            w.adapter.isTrackingSession client session := by
        cases htracked : w.adapter.isTrackingSession client sessionId with
        | false => rw [GnssAdapter.proc, update_silent succeeds options htracked]
        | true =>
          obtain ⟨err, ha⟩ := update_answered succeeds options htracked
          rw [GnssAdapter.proc, ha.isTrackingSession]
          split
          next heq => rw [← heq, htracked]
          next => rfl
      rw [hsame]
      by_cases hsession : sessionId = session <;> simp [callFor, hsession, presence]
    | stopTracking client sessionId =>
      obtain rfl := Option.some.inj hclient
      cases htracked : w.adapter.isTrackingSession client sessionId with
      | false =>
        rw [GnssAdapter.proc, stop_silent succeeds htracked]
        by_cases hsession : sessionId = session
        · simp [callFor, presence, ← hsession, htracked]
        · simp [callFor, hsession]
      | true =>
        rw [GnssAdapter.proc, (stop_succeeds htracked).isTrackingSession]
        by_cases hsession : sessionId = session <;> simp [callFor, hsession, presence]
    | engineRestart => cases hclient
  · rw [(proc_untouched succeeds hclient).sessions, callFor_of_ne hclient]
    rfl

theorem answer_stopped (hgood : w.Good api) {msg : GnssMsg} {msgs : List GnssMsg}
    (hidle : w.answering = none) (htask : w.mMsgTask = msg :: msgs) {session : Nat}
    (hcall : callFor api session msg = some StopTrackingRequest)
    (htracked : w.adapter.isTrackingSession api session = true) :
    (w.step succeeds api .proc).answer api session =
      some (StopTrackingRequest, LOCATION_ERROR_SUCCESS) := by
  obtain rfl := callFor_eq_stop hcall
  have ha : Answered w.adapter (w.adapter.proc succeeds (.stopTracking api session)) api session
    _ false := stop_succeeds htracked
  rw [step_answered hgood hidle htask ha]
  show (callFor api session (.stopTracking api session)).map _ = _
  rw [hcall]
  rfl

theorem proc_cons (results : Nat → Int) (api : LocationAPI) {msg : GnssMsg} {msgs : List GnssMsg}
    (hidle : w.answering = none) (htask : w.mMsgTask = msg :: msgs) :
    (w.step results api .proc).adapter = w.adapter.proc results msg ∧
      (w.step results api .proc).mMsgTask = msgs ∧
      (w.step results api .proc).client = w.client ∧
      (w.step results api .proc).told = w.told := by
  simp only [step, hidle, htask, and_self]

/-- The message has done what it was going to do. -/
theorem agrees_proc (h : w.Agrees api) (hgood : w.Good api) :
    (w.step succeeds api .proc).Agrees api := by
  cases hanswering : w.answering with
  | some m =>
    have hbusy : w.step succeeds api .proc = w := by simp only [step, hanswering]
    rw [hbusy]
    exact h
  | none =>
    cases htask : w.mMsgTask with
    | nil =>
      have hempty : w.step succeeds api .proc = w := by simp only [step, hanswering, htask]
      rw [hempty]
      exact h
    | cons msg msgs =>
      have hmsg : msg ∈ w.mMsgTask := htask ▸ List.mem_cons_self
      obtain ⟨hadapter, hmsgs, hclient, htold⟩ := proc_cons succeeds api hanswering htask
      have hwaiting : ∀ session, w.waiting api session =
          (callFor api session msg).toList ++ (w.step succeeds api .proc).waiting api session := by
        intro session
        rw [waiting_cons api htask, waiting, hmsgs]
      refine ⟨fun session => ?_, fun hbegun => ?_⟩
      · have heventual := h.eventual session
        rw [eventually, hwaiting, List.foldl_append] at heventual
        rw [eventually, wanted, hclient, hadapter, tracked_proc hgood hmsg]
        cases hcall : callFor api session msg <;> rw [hcall] at heventual <;> exact heventual
      · have hold := h.begun (htold ▸ hbegun)
        have hnone : w.answer api (current w.client.base) = none := by
          rw [answer, hanswering]
          rfl
        rw [hnone, hwaiting] at hold
        rw [hclient, hadapter, tracked_proc hgood hmsg]
        cases hcall : callFor api (current w.client.base) msg with
        | none =>
          rw [hcall] at hold
          rcases hold with htracked | hmem | hanswer
          · exact .inl htracked
          · exact .inr (.inl hmem)
          · cases hanswer
        | some cls =>
          have hrest : StartTrackingRequest ∈ cls :: (w.step succeeds api .proc).waiting api
              (current w.client.base) → cls ≠ StartTrackingRequest → StartTrackingRequest ∈
                (w.step succeeds api .proc).waiting api (current w.client.base) :=
            fun hmem hne => (List.mem_cons.mp hmem).resolve_left (Ne.symm hne)
          rw [hcall] at hold
          cases cls with
          | StartTrackingRequest => exact .inl rfl
          | StopTrackingRequest =>
            rcases hold with htracked | hmem | hanswer
            · exact .inr (.inr (answer_stopped hgood hanswering htask hcall htracked))
            · exact .inr (.inl (hrest hmem (by simp)))
            · cases hanswer
          | _ =>
            rcases hold with htracked | hmem | hanswer
            · exact .inl htracked
            · exact .inr (.inl (hrest hmem (by simp)))
            · cases hanswer

/-! ## Answers that arrive -/

theorem agrees_reportResponse (h : w.Agrees api) (hgood : w.Good api) (results : Nat → Int) :
    (w.step results api .reportResponse).Agrees api := by
  cases hanswering : w.answering with
  | none =>
    have hidle : w.step results api .reportResponse = w := by simp only [step, hanswering]
    rw [hidle]
    exact h
  | some m =>
    by_cases hsession : current w.client.base = m.2.sessionId
    · obtain ⟨cls, hanswer, hstep, rest, hrequests, hstop⟩ :=
        report_current results hgood hanswering hsession
      obtain ⟨-, -, htracking, hcurrent, -⟩ :=
        onResponseCb_current hgood.tracks hrequests m.2.err
      obtain ⟨-, htold⟩ :=
        onRequestCb_spec hgood.callback cls m.2.err hgood.reports hstop
      rw [hstep]
      refine ⟨fun session => ?_, fun hbegun => ?_⟩
      · show w.eventually api session = ((w.client.base.onResponseCb _ _).mTracking &&
          session == current (w.client.base.onResponseCb _ _))
        rw [htracking, hcurrent]
        exact h.eventual session
      · show w.adapter.isTrackingSession api (current (w.client.base.onResponseCb _ _)) = true ∨
          _ ∈ w.waiting api (current (w.client.base.onResponseCb _ _)) ∨ _
        rw [hcurrent]
        rcases htold.mp hbegun with ⟨rfl, herror⟩ | ⟨hwas, hother⟩
        · have hphase := hgood.phase
          rw [hanswer, herror] at hphase
          exact .inl hphase.tracked_of_started
        · rcases h.begun hwas with htracked | hmem | hstopped
          · exact .inl htracked
          · exact .inr (.inl hmem)
          · rw [hanswer] at hstopped
            exact absurd (Prod.mk.inj (Option.some.inj hstopped)) hother
    · obtain ⟨hstep, hnone⟩ := report_other results hgood hanswering hsession
      rw [hstep]
      refine ⟨h.eventual, fun hbegun => ?_⟩
      rcases h.begun hbegun with htracked | hmem | hanswer
      · exact .inl htracked
      · exact .inr (.inl hmem)
      · rw [hnone] at hanswer
        cases hanswer

/-! ## Runs -/

theorem agrees_step (h : w.Agrees api) (hgood : w.Good api) (e : Event) :
    (w.step succeeds api e).Agrees api := by
  cases e with
  | gnssStart => exact agrees_gnssStart h hgood succeeds
  | gnssStop => exact agrees_gnssStop h hgood succeeds
  | gnssSetPositionMode mode recurrence minIntervalMs preferredAccuracyMeters =>
    exact agrees_gnssSetPositionMode h hgood succeeds mode recurrence minIntervalMs
      preferredAccuracyMeters
  | gnssUpdateCallbacks gpsCb niCb hasAgpsExtendedCapabilities =>
    exact agrees_gnssUpdateCallbacks h succeeds gpsCb niCb hasAgpsExtendedCapabilities
  | post msg => exact agrees_post h succeeds msg
  | generateSessionId => exact ⟨h.eventual, h.begun⟩
  | proc => exact agrees_proc h hgood
  | reportResponse => exact agrees_reportResponse h hgood succeeds

theorem current_pos (h : w.Agrees api) (hgood : w.Good api)
    (htracking : w.client.base.mTracking = true) : 0 < current w.client.base := by
  have heventual := h.eventual (current w.client.base)
  rw [wanted, htracking, beq_self_eq_true, Bool.true_and] at heventual
  refine (hgood.used _ ?_).1
  by_cases hwaiting : w.waiting api (current w.client.base) = []
  · rw [eventually, hwaiting] at heventual
    exact .inr (.inl heventual)
  · exact .inl hwaiting

/-- `mTracking` follows the framework's calls: a stop that is not sent finds it false. -/
theorem mTracking_step (h : w.Agrees api) (hgood : w.Good api) (results : Nat → Int) (e : Event) :
    (w.step results api e).client.base.mTracking = wish w.client.base.mTracking e := by
  cases e with
  | gnssStart =>
    simp only [step]
    rcases gnssStart_spec hgood.tracks api (nextSessionId w.mSessionIdCounter).toNat w.ops with
      ⟨htracking, hstart⟩ | ⟨-, base, hstart, -, htracking, -⟩
    · rw [hstart]
      exact htracking
    · rw [hstart]
      exact htracking
  | gnssStop =>
    simp only [step]
    rcases gnssStop_spec hgood.tracks api w.ops with
      ⟨hzero, hstop⟩ | ⟨-, base, hstop, -, htracking, -⟩
    · rw [hstop]
      refine Bool.eq_false_of_not_eq_true fun htracking => ?_
      exact absurd hzero (Nat.ne_of_gt (current_pos h hgood htracking))
    · rw [hstop]
      exact htracking
  | gnssSetPositionMode mode recurrence minIntervalMs preferredAccuracyMeters =>
    obtain ⟨base, options, -, -, htracking, -, hmode⟩ := gnssSetPositionMode_spec hgood.tracks
      api mode recurrence minIntervalMs preferredAccuracyMeters w.ops
    rw [step_gnssSetPositionMode]
    rcases hmode with ⟨-, -, hmode⟩ | ⟨-, -, hmode⟩
    · rw [hmode]
      exact htracking
    · rw [hmode]
      exact htracking
  | gnssUpdateCallbacks gpsCb niCb hasAgpsExtendedCapabilities => rfl
  | generateSessionId => rfl
  | post msg =>
    simp only [step]
    split <;> rfl
  | proc =>
    simp only [step]
    split <;> rfl
  | reportResponse =>
    cases hanswering : w.answering with
    | none =>
      simp only [step, hanswering]
      rfl
    | some m =>
      by_cases hsession : current w.client.base = m.2.sessionId
      · obtain ⟨cls, -, hstep, rest, hrequests, -⟩ :=
          report_current results hgood hanswering hsession
        obtain ⟨-, -, htracking, -⟩ :=
          onResponseCb_current hgood.tracks hrequests m.2.err
        rw [hstep]
        exact htracking
      · rw [(report_other results hgood hanswering hsession).1]
        rfl

/-- What holds after a run that draws fewer ids than there are. -/
theorem agrees_run {es : List Event} (hkeeps : ∀ e ∈ es, keepsCallback e = true)
    (hdrawn : w.mSessionIdCounter.toNat + es.length < 4294967295) (hgood : w.Good api)
    (h : w.Agrees api) : (run (step succeeds api) w es).Good api ∧
      (run (step succeeds api) w es).Agrees api ∧
        (run (step succeeds api) w es).client.base.mTracking =
          es.foldl wish w.client.base.mTracking := by
  induction es generalizing w with
  | nil => exact ⟨hgood, h, rfl⟩
  | cons e es ih =>
    obtain ⟨hfirst, hrest⟩ := List.forall_mem_cons.mp hkeeps
    rw [List.length_cons] at hdrawn
    have hcounter : w.mSessionIdCounter.toNat + 1 < 4294967295 := by omega
    have hle := counter_step succeeds api e hcounter
    rw [run_cons, List.foldl_cons, ← mTracking_step h hgood succeeds e]
    exact ih hrest (by omega) (good_step hgood hfirst hcounter) (agrees_step h hgood e)

theorem agrees_init (api : LocationAPI) (niCb hasAgpsExtendedCapabilities : Bool) {a : GnssAdapter}
    (hnew : ∀ session, a.isTrackingSession api session = false) :
    (init api (locationCallbacks true niCb hasAgpsExtendedCapabilities) a).Agrees api :=
  ⟨hnew, fun hbegun => by cases hbegun⟩

theorem agrees_reached {niCb hasAgpsExtendedCapabilities : Bool} {a : GnssAdapter}
    {es : List Event} (hnew : ∀ session, a.isTrackingSession api session = false)
    (hkeeps : ∀ e ∈ es, keepsCallback e = true) (hdrawn : es.length < 4294967294)
    (hrun : w = run (step succeeds api)
      (init api (locationCallbacks true niCb hasAgpsExtendedCapabilities) a) es) :
    w.Good api ∧ w.Agrees api ∧ w.client.base.mTracking = es.foldl wish false := by
  rw [hrun]
  exact agrees_run hkeeps (by show 1 + es.length < _; omega)
    (good_init api niCb hasAgpsExtendedCapabilities hnew)
    (agrees_init api niCb hasAgpsExtendedCapabilities hnew)

/-- Nothing of the client's is under way. -/
theorem agrees_quiet (h : w.Agrees api) (hgood : w.Good api) (hidle : w.answering = none)
    (hquiet : ∀ msg ∈ w.mMsgTask, clientOf msg ≠ some api) :
    (Begun w.told ↔ w.client.base.mTracking = true) ∧
      ∀ session, w.adapter.isTrackingSession api session = w.wanted session := by
  have hwaiting : ∀ session, w.waiting api session = [] := fun session =>
    List.filterMap_eq_nil_iff.mpr fun msg hmsg => callFor_of_ne (hquiet msg hmsg) session
  have hanswer : w.answer api (current w.client.base) = none := by
    rw [answer, hidle]
    rfl
  have htracked : ∀ session, w.adapter.isTrackingSession api session = w.wanted session := by
    intro session
    have heventual := h.eventual session
    rw [eventually, hwaiting] at heventual
    exact heventual
  have hcurrent : w.adapter.isTrackingSession api (current w.client.base) =
      w.client.base.mTracking := by
    rw [htracked, wanted, beq_self_eq_true, Bool.and_true]
  refine ⟨⟨fun hbegun => ?_, fun htracking => ?_⟩, htracked⟩
  · rcases h.begun hbegun with hthere | hmem | hstopped
    · rw [← hcurrent, hthere]
    · rw [hwaiting] at hmem
      cases hmem
    · rw [hanswer] at hstopped
      cases hstopped
  · have hphase := hgood.phase
    rw [hwaiting, hanswer, hcurrent, htracking] at hphase
    exact hphase.begun_of_tracked

end

end World

/-- **With nothing under way, all agree.** When the engine never refuses, whatever was called, in
whatever order, and whatever others did: once the messages of the client have been answered, the
framework takes a session to be running exactly when its last call was a start, and the adapter
has the client's last session then, and else none. -/
theorem all_agree (api : LocationAPI) (niCb hasAgpsExtendedCapabilities : Bool) (a : GnssAdapter)
    (es : List Event) (hnew : ∀ session, a.isTrackingSession api session = false)
    (hkeeps : ∀ e ∈ es, World.keepsCallback e = true) (hdrawn : es.length < 4294967294)
    {w : World} (hrun : w = run (World.step succeeds api) (World.init api
      (locationCallbacks true niCb hasAgpsExtendedCapabilities) a) es)
    (hidle : w.answering = none) (hquiet : ∀ msg ∈ w.mMsgTask, clientOf msg ≠ some api) :
    (Begun w.told ↔ es.foldl wish false = true) ∧
      ∀ session, w.adapter.isTrackingSession api session =
        (es.foldl wish false && session == current w.client.base) := by
  obtain ⟨hgood, hagrees, htracking⟩ := World.agrees_reached hnew hkeeps hdrawn hrun
  have hquiet := World.agrees_quiet hagrees hgood hidle hquiet
  simp only [World.wanted, htracking] at hquiet
  exact hquiet

/-- The framework stops and starts again before the stop is processed. -/
theorem all_agree_restart :
    let w := run (World.step succeeds 7) (World.init 7 (locationCallbacks true false false)
      (.new 0 false false 0)) [.gnssStart, .proc, .reportResponse, .gnssStop, .gnssStart, .proc,
        .reportResponse, .proc, .reportResponse]
    Begun w.told ∧ ∀ session, w.adapter.isTrackingSession 7 session =
      (session == current w.client.base) := by
  intro w
  obtain ⟨hbegun, hsessions⟩ := all_agree 7 false false _ _ (isTrackingSession_new _ _ _ _ 7)
    (by decide) (by decide) (show w = _ from rfl) rfl (fun msg hmsg => by cases hmsg)
  exact ⟨hbegun.mpr rfl, hsessions⟩

/-! ## The thread catches up -/

/-- The answer that is due, and then `n` messages with their answers. -/
def catchUp (n : Nat) : List Event :=
  .reportResponse :: (List.replicate n [Event.proc, .reportResponse]).flatten

theorem mem_catchUp {n : Nat} {e : Event} (h : e ∈ catchUp n) :
    e = .proc ∨ e = .reportResponse := by
  rcases List.mem_cons.mp h with rfl | hround
  · exact .inr rfl
  · obtain ⟨round, hmem, he⟩ := List.mem_flatten.mp hround
    rw [List.eq_of_mem_replicate hmem] at he
    simpa using he

namespace World

section
variable {api : LocationAPI} {w : World}

theorem reportResponse_queue (results : Nat → Int) (api : LocationAPI) (w : World) :
    (w.step results api .reportResponse).answering = none ∧
      (w.step results api .reportResponse).mMsgTask = w.mMsgTask := by
  cases hanswering : w.answering with
  | none => simp only [step, hanswering, and_self]
  | some m => simp only [step, hanswering, and_self]

theorem proc_queue (results : Nat → Int) (api : LocationAPI) (hidle : w.answering = none) :
    (w.step results api .proc).mMsgTask = w.mMsgTask.tail := by
  cases htask : w.mMsgTask with
  | nil => simp only [step, hidle, htask, List.tail_nil]
  | cons msg msgs => exact (proc_cons results api hidle htask).2.1

theorem rounds_queue (results : Nat → Int) (api : LocationAPI) (n : Nat)
    (hidle : w.answering = none) :
    (run (step results api) w
        (List.replicate n [Event.proc, .reportResponse]).flatten).answering = none ∧
      (run (step results api) w
        (List.replicate n [Event.proc, .reportResponse]).flatten).mMsgTask =
          w.mMsgTask.drop n := by
  induction n generalizing w with
  | zero => exact ⟨hidle, rfl⟩
  | succ n ih =>
    obtain ⟨hnone, hsame⟩ := reportResponse_queue results api (w.step results api .proc)
    obtain ⟨hlast, hdrop⟩ := ih hnone
    refine ⟨hlast, hdrop.trans ?_⟩
    rw [hsame, proc_queue results api hidle, List.drop_tail]

/-- As many rounds as there are messages empty the queue. -/
theorem catchUp_queue (results : Nat → Int) (api : LocationAPI) {n : Nat}
    (hn : w.mMsgTask.length ≤ n) :
    (run (step results api) w (catchUp n)).answering = none ∧
      (run (step results api) w (catchUp n)).mMsgTask = [] := by
  obtain ⟨hnone, hsame⟩ := reportResponse_queue results api w
  obtain ⟨hlast, hdrop⟩ := rounds_queue results api n hnone
  refine ⟨hlast, hdrop.trans ?_⟩
  rw [hsame]
  exact List.drop_eq_nil_of_le hn

theorem agrees_catchUp (h : w.Agrees api) (hgood : w.Good api) (n : Nat) :
    (run (step succeeds api) w (catchUp n)).Good api ∧
      (run (step succeeds api) w (catchUp n)).Agrees api ∧
        (run (step succeeds api) w (catchUp n)).client.base.mTracking =
          w.client.base.mTracking := by
  have hthread : Steps (step succeeds api) (fun _ e => e = Event.proc ∨ e = .reportResponse) w
      (catchUp n) := steps_of_mem (fun _ => mem_catchUp) w
  refine inv_run (I := fun w' => w'.Good api ∧ w'.Agrees api ∧
    w'.client.base.mTracking = w.client.base.mTracking) (fun w' e hinv he => ?_)
    ⟨hgood, h, rfl⟩ hthread
  obtain ⟨hgood', hagrees', hsame⟩ := hinv
  have htracking := (mTracking_step hagrees' hgood' succeeds e).trans (congrArg (wish · e) hsame)
  rcases he with rfl | rfl
  · exact ⟨good_proc hgood', agrees_proc hagrees' hgood', htracking⟩
  · exact ⟨good_reportResponse hgood', agrees_reportResponse hagrees' hgood' succeeds, htracking⟩

end

end World

/-- **The thread catches up.** After any run, as many rounds of the adapter's thread as there are
messages in the queue bring the framework, the client and the adapter to agree. -/
theorem agree_caught_up (api : LocationAPI) (niCb hasAgpsExtendedCapabilities : Bool)
    (a : GnssAdapter) (es : List Event) (hnew : ∀ session, a.isTrackingSession api session = false)
    (hkeeps : ∀ e ∈ es, World.keepsCallback e = true) (hdrawn : es.length < 4294967294)
    {w : World} (hrun : w = run (World.step succeeds api) (World.init api
      (locationCallbacks true niCb hasAgpsExtendedCapabilities) a) es)
    {n : Nat} (hn : w.mMsgTask.length ≤ n) :
    (Begun (run (World.step succeeds api) w (catchUp n)).told ↔ es.foldl wish false = true) ∧
      ∀ session,
        (run (World.step succeeds api) w (catchUp n)).adapter.isTrackingSession api session =
          (es.foldl wish false &&
            session == current (run (World.step succeeds api) w (catchUp n)).client.base) := by
  obtain ⟨hgood, hagrees, htracking⟩ := World.agrees_reached hnew hkeeps hdrawn hrun
  obtain ⟨hgood', hagrees', hsame⟩ := World.agrees_catchUp hagrees hgood n
  obtain ⟨hidle, hempty⟩ := World.catchUp_queue succeeds api hn
  have hquiet := World.agrees_quiet hagrees' hgood' hidle fun msg hmsg => by
    rw [hempty] at hmsg
    cases hmsg
  simp only [World.wanted, hsame, htracking] at hquiet
  exact hquiet

/-- Nothing is processed before the framework has started, stopped and started again. -/
theorem agree_caught_up_restart :
    let w := run (World.step succeeds 7) (World.init 7 (locationCallbacks true false false)
      (.new 0 false false 0)) [.gnssStart, .gnssStop, .gnssStart]
    Begun (run (World.step succeeds 7) w (catchUp 3)).told := by
  intro w
  have hagree := agree_caught_up 7 false false _ _ (isTrackingSession_new _ _ _ _ 7) (by decide)
    (by decide) (show w = _ from rfl) (Nat.le_refl 3)
  exact hagree.1.mpr rfl

end DeviceHal.Android.TrackingStatus
