import DeviceHal.Android.TrackingStatus

/-! # The reports fit the session

Of all its sessions the client knows only the last: its requests are those of
the messages that this session still has in the queue, with the one in front
that is being answered. So each answer is taken for what it is, and what the
framework is told begins and ends sessions in turn. -/
namespace DeviceHal.Android.TrackingStatus
open DeviceHal.Lib.Run DeviceHal.Gnss.TrackingAnswers DeviceHal.Gnss.TrackingMultiplex
open DeviceHal.Gnss.PowerVote (nextSessionId)
open DeviceHal.Gnss.TrackingClients (acceptsOne)
open DeviceHal.Gnss.TrackingSessions (GnssAdapter GnssMsg LocationAPI LocationCallbacks Response)
open DeviceHal.Gnss.LocationTypes (LocationError)
open DeviceHal.Location (Client RequestClass)
open DeviceHal.Gnss.LocationTypes.LocationError DeviceHal.Location.RequestClass GnssStatusValue

/-! ## The reports -/

/-- A session begins when the engine goes on, and ends before the engine goes
off; its end may go untold. -/
inductive Reports : List GnssStatusValue → Prop where
  | nil : Reports []
  | begun {values : List GnssStatusValue} (h : Reports values) :
    Reports (values ++ [ENGINE_ON, SESSION_BEGIN])
  | ended {values : List GnssStatusValue} (h : Reports values) :
    Reports (values ++ [ENGINE_ON, SESSION_BEGIN, SESSION_END, ENGINE_OFF])

/-- The framework takes its session to be running. -/
def Begun (values : List GnssStatusValue) : Prop := values.getLast? = some SESSION_BEGIN

instance (values : List GnssStatusValue) : Decidable (Begun values) :=
  inferInstanceAs (Decidable (_ = _))

/-- Only a session that was begun is ended. -/
theorem Reports.end {values : List GnssStatusValue} (h : Reports values) (hbegun : Begun values) :
    Reports (values ++ [SESSION_END, ENGINE_OFF]) := by
  cases h with
  | nil => cases hbegun
  | begun h =>
    rw [List.append_assoc]
    exact .ended h
  | ended h =>
    rw [Begun, List.getLast?_append_of_ne_nil _ (by simp)] at hbegun
    cases hbegun

/-! ## The life of a session -/

/-- What is in the queue for the session, whether the adapter has it, what is being answered,
what the client takes to be outstanding, and whether the framework takes it to be running. -/
inductive Phase : List RequestClass → Bool → Option (RequestClass × LocationError) →
    List RequestClass → Prop → Prop where
  | waiting {msgs : List RequestClass} {begun : Prop} (hstart : StartTrackingRequest ∉ msgs) :
    Phase (StartTrackingRequest :: msgs) false none (StartTrackingRequest :: msgs) begun
  | started {msgs : List RequestClass} {begun : Prop} (hstart : StartTrackingRequest ∉ msgs) :
    Phase msgs true (some (StartTrackingRequest, LOCATION_ERROR_SUCCESS))
      (StartTrackingRequest :: msgs) begun
  | refused {msgs reqs : List RequestClass} {error : LocationError} {begun : Prop}
    (hstart : StartTrackingRequest ∉ msgs) (herror : error ≠ LOCATION_ERROR_SUCCESS) :
    Phase msgs false (some (StartTrackingRequest, error)) (StartTrackingRequest :: reqs) begun
  | running {msgs : List RequestClass} {begun : Prop} (hstart : StartTrackingRequest ∉ msgs)
    (hbegun : begun) : Phase msgs true none msgs begun
  | answered {msgs : List RequestClass} {cls : RequestClass} {error : LocationError} {begun : Prop}
    (hstart : StartTrackingRequest ∉ msgs) (hbegun : begun) (hcls : cls ≠ StartTrackingRequest)
    (hstop : cls = StopTrackingRequest → error ≠ LOCATION_ERROR_SUCCESS) :
    Phase msgs true (some (cls, error)) (cls :: msgs) begun
  | stopped {msgs reqs : List RequestClass} {begun : Prop} (hstart : StartTrackingRequest ∉ msgs)
    (hbegun : begun) : Phase msgs false (some (StopTrackingRequest, LOCATION_ERROR_SUCCESS))
      (StopTrackingRequest :: reqs) begun
  /-- Messages of a session that there is not are not answered, and their requests stay. -/
  | gone {msgs reqs : List RequestClass} {begun : Prop} (hstart : StartTrackingRequest ∉ msgs) :
    Phase msgs false none reqs begun

section
variable {msgs reqs : List RequestClass} {tracked : Bool} {cls : RequestClass}
  {error : LocationError} {answer : Option (RequestClass × LocationError)} {begun : Prop}

theorem Phase.post (h : Phase msgs tracked answer reqs begun) (hcls : cls ≠ StartTrackingRequest) :
    Phase (msgs ++ [cls]) tracked answer (reqs ++ [cls]) begun := by
  have happend : ∀ {msgs : List RequestClass}, StartTrackingRequest ∉ msgs →
      StartTrackingRequest ∉ msgs ++ [cls] := fun hstart =>
    List.not_mem_append hstart fun hmem => hcls (List.mem_singleton.mp hmem).symm
  cases h with
  | waiting hstart => exact .waiting (happend hstart)
  | started hstart => exact .started (happend hstart)
  | refused hstart herror => exact .refused (happend hstart) herror
  | running hstart hbegun => exact .running (happend hstart) hbegun
  | answered hstart hbegun hcls' hstop => exact .answered (happend hstart) hbegun hcls' hstop
  | stopped hstart hbegun => exact .stopped (happend hstart) hbegun
  | gone hstart => exact .gone (happend hstart)

/-- The start is processed. -/
theorem Phase.start (h : Phase (StartTrackingRequest :: msgs) tracked none reqs begun)
    (error : LocationError) : tracked = false ∧
      Phase msgs (decide (error = LOCATION_ERROR_SUCCESS)) (some (StartTrackingRequest, error)) reqs
        begun := by
  cases h with
  | waiting hstart =>
    refine ⟨rfl, ?_⟩
    by_cases herror : error = LOCATION_ERROR_SUCCESS
    · subst herror
      exact .started hstart
    · rw [decide_eq_false herror]
      exact .refused hstart herror
  | running hstart => exact absurd List.mem_cons_self hstart
  | gone hstart => exact absurd List.mem_cons_self hstart

/-- Another message is processed. -/
theorem Phase.call (h : Phase (cls :: msgs) tracked none reqs begun)
    (hcls : cls ≠ StartTrackingRequest) :
    (tracked = false ∧ Phase msgs false none reqs begun) ∨
    (tracked = true ∧ begun ∧ ∀ error, Phase msgs
      (decide (cls = StopTrackingRequest → error ≠ LOCATION_ERROR_SUCCESS)) (some (cls, error)) reqs
      begun) := by
  cases h with
  | waiting => exact absurd rfl hcls
  | running hstart hbegun =>
    have hrest : StartTrackingRequest ∉ msgs := fun hmem => hstart (List.mem_cons_of_mem _ hmem)
    refine .inr ⟨rfl, hbegun, fun error => ?_⟩
    by_cases hstop : cls = StopTrackingRequest → error ≠ LOCATION_ERROR_SUCCESS
    · rw [decide_eq_true hstop]
      exact .answered hrest hbegun hcls hstop
    · rw [decide_eq_false hstop]
      obtain ⟨rfl, herror⟩ := Classical.not_imp.mp hstop
      rw [not_not.mp herror]
      exact .stopped hrest hbegun
  | gone hstart => exact .inl ⟨rfl, .gone fun hmem => hstart (List.mem_cons_of_mem _ hmem)⟩

/-- The answer is taken for what it is. -/
theorem Phase.report (h : Phase msgs tracked (some (cls, error)) reqs begun) (begun' : Prop)
    (hbegun' : cls = StartTrackingRequest ∧ error = LOCATION_ERROR_SUCCESS ∨
      (begun ∧ ¬(cls = StopTrackingRequest ∧ error = LOCATION_ERROR_SUCCESS)) → begun') :
    ∃ rest, reqs = cls :: rest ∧
      (cls = StopTrackingRequest → error = LOCATION_ERROR_SUCCESS → begun) ∧
      Phase msgs tracked none rest begun' := by
  cases h with
  | started hstart =>
    exact ⟨_, rfl, (fun hcls => by cases hcls), .running hstart (hbegun' (.inl ⟨rfl, rfl⟩))⟩
  | refused hstart herror => exact ⟨_, rfl, (fun hcls => by cases hcls), .gone hstart⟩
  | answered hstart hbegun hcls hstop =>
    refine ⟨_, rfl, fun _ _ => hbegun, .running hstart (hbegun' (.inr ⟨hbegun, ?_⟩))⟩
    exact fun hboth => hstop hboth.1 hboth.2
  | stopped hstart hbegun => exact ⟨_, rfl, fun _ _ => hbegun, .gone hstart⟩

end

/-- A session that is there and not being answered has been told. -/
theorem Phase.begun_of_tracked {msgs reqs : List RequestClass} {begun : Prop}
    (h : Phase msgs true none reqs begun) : begun := by
  cases h with
  | running _ hbegun => exact hbegun

/-! ## The session in a run -/

/-- The request that a message of the session answers. -/
def callFor (api : LocationAPI) (session : Nat) : GnssMsg → Option RequestClass
  | .startTracking client sessionId _ =>
    if client = api ∧ sessionId = session then some StartTrackingRequest else none
  | .updateTracking client sessionId _ =>
    if client = api ∧ sessionId = session then some UpdateTrackingOptionsRequest else none
  | .stopTracking client sessionId =>
    if client = api ∧ sessionId = session then some StopTrackingRequest else none
  | _ => none

/-- A message is about one session. -/
theorem callFor_other {api : LocationAPI} {session other : Nat} {msg : GnssMsg} {cls : RequestClass}
    (h : callFor api session msg = some cls) (hne : session ≠ other) :
    callFor api other msg = none := by
  cases msg with
  | startTracking client sessionId options =>
    exact if_neg fun hboth : client = api ∧ sessionId = other => by simp_all [callFor]
  | updateTracking client sessionId options =>
    exact if_neg fun hboth : client = api ∧ sessionId = other => by simp_all [callFor]
  | stopTracking client sessionId =>
    exact if_neg fun hboth : client = api ∧ sessionId = other => by simp_all [callFor]
  | _ => rfl

/-- What is never posted: the client is not removed, it keeps its callbacks, and its options have
their size. -/
def Proper (api : LocationAPI) : GnssMsg → Prop
  | .addClient client callbacks =>
    client = api → callbacks.responseCb = true ∧ callbacks.trackingCb = true
  | .removeClient client => client ≠ api
  | .startTracking client _ options => client = api → options.size ≠ 0
  | _ => True

theorem callFor_of_ne {api : LocationAPI} {msg : GnssMsg} (h : clientOf msg ≠ some api)
    (session : Nat) : callFor api session msg = none := by
  cases msg with
  | startTracking client sessionId options =>
    exact if_neg fun hboth : client = api ∧ sessionId = session => h (congrArg some hboth.1)
  | updateTracking client sessionId options =>
    exact if_neg fun hboth : client = api ∧ sessionId = session => h (congrArg some hboth.1)
  | stopTracking client sessionId =>
    exact if_neg fun hboth : client = api ∧ sessionId = session => h (congrArg some hboth.1)
  | _ => rfl

theorem proper_of_ne {api : LocationAPI} {msg : GnssMsg} (h : clientOf msg ≠ some api) :
    Proper api msg := by
  cases msg with
  | addClient client callbacks => exact fun heq => absurd (congrArg some heq) h
  | removeClient client => exact fun heq => h (congrArg some heq)
  | startTracking client sessionId options => exact fun heq => absurd (congrArg some heq) h
  | _ => trivial

theorem toNat_nextSessionId {counter : UInt32} (h : counter.toNat + 1 < 4294967295) :
    (nextSessionId counter).toNat = counter.toNat + 1 := by
  have hadd : (counter + 1).toNat = counter.toNat + 1 := by
    rw [UInt32.toNat_add]
    exact Nat.mod_eq_of_lt (by simp; omega)
  rw [nextSessionId, if_neg, hadd]
  intro heq
  rw [heq] at hadd
  simp at hadd
  omega

namespace World

section
variable (api : LocationAPI) (w : World)

/-- The messages that the session has in the queue. -/
def waiting (session : Nat) : List RequestClass := w.mMsgTask.filterMap (callFor api session)

/-- What the session is being answered. -/
def answer (session : Nat) : Option (RequestClass × LocationError) :=
  w.answering.bind fun m => (callFor api session m.1).map (·, m.2.err)

/-- The id has been given to the client. -/
def Used (session : Nat) : Prop :=
  w.waiting api session ≠ [] ∨ w.adapter.isTrackingSession api session = true ∨
    (w.answer api session).isSome

structure Good : Prop where
  tracks : Tracks w.client.base
  callback : w.client.mGnssCbIface = true
  size : w.client.mLocationOptions.size ≠ 0
  known : ∃ callbacks, w.adapter.mClientData[api]? = some callbacks ∧
    callbacks.responseCb = true ∧ callbacks.trackingCb = true
  proper : ∀ msg ∈ w.mMsgTask, Proper api msg
  used : ∀ session, w.Used api session → 0 < session ∧ session ≤ w.mSessionIdCounter.toNat
  drawn : current w.client.base ≤ w.mSessionIdCounter.toNat
  asked : ∀ m ∈ w.answering, (callFor api m.2.sessionId m.1).isSome
  phase : Phase (w.waiting api (current w.client.base))
    (w.adapter.isTrackingSession api (current w.client.base))
    (w.answer api (current w.client.base)) (requests w.client.base) (Begun w.told)
  reports : Reports w.told

end

/-! ### Messages that are posted -/

section
variable {api : LocationAPI} {w : World} {results : Nat → Int}

theorem not_used (h : w.Good api) {session : Nat}
    (hsession : w.mSessionIdCounter.toNat < session) : w.waiting api session = [] ∧
      w.adapter.isTrackingSession api session = false ∧ w.answer api session = none := by
  have hno : ¬w.Used api session := fun hused => absurd (h.used session hused).2 (by omega)
  simpa [Used] using hno

/-- Nothing but the client, the queue and the counter changes. -/
theorem Good.post {w' : World} {msgs : List GnssMsg} (h : w.Good api)
    (hadapter : w'.adapter = w.adapter) (hanswering : w'.answering = w.answering)
    (htold : w'.told = w.told) (hmsgs : w'.mMsgTask = w.mMsgTask ++ msgs)
    (hproper : ∀ msg ∈ msgs, Proper api msg)
    (hcounter : w.mSessionIdCounter.toNat ≤ w'.mSessionIdCounter.toNat)
    (htracks : Tracks w'.client.base) (hcallback : w'.client.mGnssCbIface = true)
    (hsize : w'.client.mLocationOptions.size ≠ 0)
    (hused : ∀ session, msgs.filterMap (callFor api session) ≠ [] →
      0 < session ∧ session ≤ w'.mSessionIdCounter.toNat)
    (hdrawn : current w'.client.base ≤ w'.mSessionIdCounter.toNat)
    (hphase : Phase (w.waiting api (current w'.client.base) ++
        msgs.filterMap (callFor api (current w'.client.base)))
      (w.adapter.isTrackingSession api (current w'.client.base))
      (w.answer api (current w'.client.base)) (requests w'.client.base) (Begun w.told)) :
    w'.Good api := by
  have hwaiting : ∀ session, w'.waiting api session =
      w.waiting api session ++ msgs.filterMap (callFor api session) := by
    intro session
    rw [waiting, hmsgs, List.filterMap_append]
    rfl
  have hanswer : ∀ session, w'.answer api session = w.answer api session := by
    intro session
    rw [answer, hanswering]
    rfl
  exact {
    tracks := htracks
    callback := hcallback
    size := hsize
    known := by rw [hadapter]; exact h.known
    proper := fun msg hmsg => by
      rw [hmsgs] at hmsg
      exact (List.mem_append.mp hmsg).elim (h.proper msg) (hproper msg)
    used := fun session hsession => by
      rw [Used, hwaiting, hadapter, hanswer] at hsession
      by_cases hold : w.Used api session
      · obtain ⟨hpos, hle⟩ := h.used session hold
        exact ⟨hpos, hle.trans hcounter⟩
      · obtain ⟨hempty, hrest⟩ := not_or.mp hold
        refine hused session fun hnew => hrest (hsession.resolve_left fun hne => hne ?_)
        rw [not_not.mp hempty, hnew]
        rfl
    drawn := hdrawn
    asked := by rw [hanswering]; exact h.asked
    phase := by rw [hwaiting, hadapter, hanswer, htold]; exact hphase
    reports := by rw [htold]; exact h.reports }

/-- A message that is not about a session of the client. -/
theorem good_quiet {w' : World} {msgs : List GnssMsg} (h : w.Good api)
    (hadapter : w'.adapter = w.adapter) (hanswering : w'.answering = w.answering)
    (htold : w'.told = w.told) (hmsgs : w'.mMsgTask = w.mMsgTask ++ msgs)
    (hcounter : w.mSessionIdCounter.toNat ≤ w'.mSessionIdCounter.toNat)
    (hbase : w'.client.base = w.client.base) (hcallback : w'.client.mGnssCbIface = true)
    (hsize : w'.client.mLocationOptions.size ≠ 0)
    (hquiet : ∀ msg ∈ msgs, Proper api msg ∧ ∀ session, callFor api session msg = none) :
    w'.Good api := by
  have hnone : ∀ session, msgs.filterMap (callFor api session) = [] := fun session =>
    List.filterMap_eq_nil_iff.mpr fun msg hmsg => (hquiet msg hmsg).2 session
  refine h.post hadapter hanswering htold hmsgs (fun msg hmsg => (hquiet msg hmsg).1) hcounter
    (hbase ▸ h.tracks) hcallback hsize (fun session hne => absurd (hnone session) hne)
    (hbase ▸ h.drawn.trans hcounter) ?_
  rw [hnone, List.append_nil, hbase]
  exact h.phase

theorem good_gnssStart (h : w.Good api)
    (hcounter : w.mSessionIdCounter.toNat + 1 < 4294967295) :
    (w.step results api .gnssStart).Good api := by
  have hnext : (nextSessionId w.mSessionIdCounter).toNat = w.mSessionIdCounter.toNat + 1 :=
    toNat_nextSessionId hcounter
  simp only [step]
  rcases gnssStart_spec h.tracks api (nextSessionId w.mSessionIdCounter).toNat w.ops with
    ⟨-, hstart⟩ | ⟨-, base, hstart, htracks, -, hcurrent, hrequests⟩
  · rw [hstart]
    exact good_quiet h rfl rfl rfl rfl (Nat.le_refl _) rfl h.callback h.size (by simp)
  · rw [hstart]
    obtain ⟨hwaiting, htracked, hanswer⟩ :=
      not_used h (show w.mSessionIdCounter.toNat < current base by rw [hcurrent]; omega)
    refine h.post rfl rfl rfl rfl ?_ (by show _ ≤ (nextSessionId _).toNat; omega) htracks h.callback
      h.size ?_ (Nat.le_of_eq hcurrent) ?_
    · intro msg hmsg
      rw [List.mem_singleton.mp hmsg]
      exact fun _ => h.size
    · intro session hne
      have hsession : (nextSessionId w.mSessionIdCounter).toNat = session := by
        by_contra hother
        simp [callFor, hother] at hne
      exact ⟨by omega, Nat.le_of_eq hsession.symm⟩
    · have hcall : [GnssMsg.startTracking api (nextSessionId w.mSessionIdCounter).toNat
          w.client.mLocationOptions].filterMap (callFor api (current base)) =
            [StartTrackingRequest] := by simp [callFor, hcurrent]
      show Phase (w.waiting api (current base) ++ List.filterMap (callFor api (current base)) _)
        (w.adapter.isTrackingSession api (current base)) (w.answer api (current base))
        (requests base) (Begun w.told)
      rw [hwaiting, htracked, hanswer, hrequests, List.nil_append]
      exact hcall ▸ .waiting List.not_mem_nil

/-- One more message of the client's session. -/
theorem good_call (h : w.Good api) {w' : World} {msg : GnssMsg} (cls : RequestClass)
    (hadapter : w'.adapter = w.adapter) (hanswering : w'.answering = w.answering)
    (htold : w'.told = w.told) (hmsgs : w'.mMsgTask = w.mMsgTask ++ [msg])
    (hcounter : w'.mSessionIdCounter = w.mSessionIdCounter) (htracks : Tracks w'.client.base)
    (hcallback : w'.client.mGnssCbIface = true) (hsize : w'.client.mLocationOptions.size ≠ 0)
    (hproper : Proper api msg) (hcls : cls ≠ StartTrackingRequest)
    (hpos : 0 < current w.client.base) (hcurrent : current w'.client.base = current w.client.base)
    (hrequests : requests w'.client.base = requests w.client.base ++ [cls])
    (hcall : ∀ session, callFor api session msg =
      if current w.client.base = session then some cls else none) : w'.Good api := by
  refine h.post hadapter hanswering htold hmsgs ?_ (Nat.le_of_eq (by rw [hcounter])) htracks
    hcallback hsize ?_ (by rw [hcurrent, hcounter]; exact h.drawn) ?_
  · intro other hother
    rw [List.mem_singleton.mp hother]
    exact hproper
  · intro session hne
    have hsession : current w.client.base = session := by
      by_contra hother
      simp [hcall, hother] at hne
    rw [hcounter, ← hsession]
    exact ⟨hpos, h.drawn⟩
  · have hcalls : [msg].filterMap (callFor api (current w.client.base)) = [cls] := by
      simp [hcall]
    rw [hcurrent, hrequests, hcalls]
    exact h.phase.post hcls

theorem good_gnssStop (h : w.Good api) : (w.step results api .gnssStop).Good api := by
  simp only [step]
  rcases gnssStop_spec h.tracks api w.ops with
    ⟨-, hstop⟩ | ⟨hpos, base, hstop, htracks, -, hcurrent, hrequests⟩
  · rw [hstop]
    exact good_quiet h rfl rfl rfl rfl (Nat.le_refl _) rfl h.callback h.size (by simp)
  · rw [hstop]
    refine good_call h StopTrackingRequest rfl rfl rfl rfl rfl htracks h.callback h.size
      trivial (by decide) hpos hcurrent hrequests fun session => ?_
    simp [callFor]

theorem good_gnssSetPositionMode (h : w.Good api) (mode : GnssPositionMode)
    (recurrence : GnssPositionRecurrence) (minIntervalMs preferredAccuracyMeters : Nat) :
    (w.step results api (.gnssSetPositionMode mode recurrence minIntervalMs
      preferredAccuracyMeters)).Good api := by
  obtain ⟨base, options, hsize, htracks, -, hcurrent, hmode⟩ := gnssSetPositionMode_spec h.tracks
    api mode recurrence minIntervalMs preferredAccuracyMeters w.ops
  rw [step_gnssSetPositionMode]
  rcases hmode with ⟨-, hrequests, hmode⟩ | ⟨hpos, hrequests, hmode⟩
  · rw [hmode]
    refine h.post rfl rfl rfl rfl (by simp) (Nat.le_refl _) htracks h.callback hsize (by simp)
      (by show current base ≤ _; rw [hcurrent]; exact h.drawn) ?_
    show Phase (w.waiting api (current base) ++ []) (w.adapter.isTrackingSession api (current base))
      (w.answer api (current base)) (requests base) (Begun w.told)
    rw [hcurrent, hrequests, List.append_nil]
    exact h.phase
  · rw [hmode]
    refine good_call h UpdateTrackingOptionsRequest rfl rfl rfl rfl rfl htracks h.callback
      hsize trivial (by decide) hpos hcurrent hrequests fun session => ?_
    simp [callFor]

theorem good_gnssUpdateCallbacks (h : w.Good api) (niCb hasAgpsExtendedCapabilities : Bool) :
    (w.step results api (.gnssUpdateCallbacks true niCb hasAgpsExtendedCapabilities)).Good api := by
  refine good_quiet h rfl rfl rfl rfl (Nat.le_refl _) rfl rfl h.size fun msg hmsg => ?_
  have hsent : isGnssClient (locationCallbacks true niCb hasAgpsExtendedCapabilities) = true := by
    simp [isGnssClient, locationCallbacks]
  simp only [if_pos hsent, List.mem_singleton] at hmsg
  subst hmsg
  exact ⟨fun _ => ⟨rfl, rfl⟩, fun _ => rfl⟩

theorem good_post (h : w.Good api) (msg : GnssMsg) : (w.step results api (.post msg)).Good api := by
  simp only [step]
  split
  next => exact h
  next hother =>
    refine good_quiet h rfl rfl rfl rfl (Nat.le_refl _) rfl h.callback h.size fun other hmem => ?_
    rw [List.mem_singleton.mp hmem]
    exact ⟨proper_of_ne hother, callFor_of_ne hother⟩

theorem good_generateSessionId (h : w.Good api)
    (hcounter : w.mSessionIdCounter.toNat + 1 < 4294967295) :
    (w.step results api .generateSessionId).Good api := by
  refine good_quiet h rfl rfl rfl (List.append_nil _).symm ?_ rfl h.callback h.size (by simp)
  show _ ≤ (nextSessionId _).toNat
  rw [toNat_nextSessionId hcounter]
  exact Nat.le_succ _

/-! ### Messages that are processed -/

theorem waiting_cons (api : LocationAPI) {msg : GnssMsg} {msgs : List GnssMsg}
    (htask : w.mMsgTask = msg :: msgs) (session : Nat) : w.waiting api session =
      (callFor api session msg).toList ++ msgs.filterMap (callFor api session) := by
  rw [waiting, htask, List.filterMap_cons]
  cases callFor api session msg <;> rfl

theorem step_proc {msg : GnssMsg} {msgs : List GnssMsg} (hidle : w.answering = none)
    (htask : w.mMsgTask = msg :: msgs) {more : List Response}
    (hmore : (w.adapter.proc results msg).responses = w.adapter.responses ++ more) :
    w.step results api .proc =
      { w with
        adapter := w.adapter.proc results msg
        mMsgTask := msgs
        answering := (more.find? fun r => r.client == api && r.delivered).map (msg, ·) } := by
  simp only [step, hidle, htask, hmore, List.drop_left]

/-- The message gets no answer. -/
theorem good_unanswered (h : w.Good api) {msg : GnssMsg} {msgs : List GnssMsg}
    (hidle : w.answering = none) (htask : w.mMsgTask = msg :: msgs) {more : List Response}
    (hmore : (w.adapter.proc results msg).responses = w.adapter.responses ++ more)
    (hother : ∀ r ∈ more, r.client ≠ api)
    (hsessions : ∀ session, (w.adapter.proc results msg).isTrackingSession api session =
      w.adapter.isTrackingSession api session)
    (hknown : ∃ callbacks, (w.adapter.proc results msg).mClientData[api]? = some callbacks ∧
      callbacks.responseCb = true ∧ callbacks.trackingCb = true)
    (hphase : Phase (msgs.filterMap (callFor api (current w.client.base)))
      (w.adapter.isTrackingSession api (current w.client.base)) none (requests w.client.base)
      (Begun w.told)) :
    (w.step results api .proc).Good api := by
  have hnone : (more.find? fun r => r.client == api && r.delivered) = none := by
    rw [List.find?_eq_none]
    intro r hr hfound
    exact hother r hr (beq_iff_eq.mp (Bool.and_eq_true_iff.mp hfound).1)
  rw [step_proc hidle htask hmore, hnone]
  exact {
    tracks := h.tracks
    callback := h.callback
    size := h.size
    known := hknown
    proper := fun other hmem => h.proper other (htask ▸ List.mem_cons_of_mem _ hmem)
    used := fun session hsession => by
      rcases hsession with hne | htracked | hanswer
      · refine h.used session (.inl fun hempty => hne ?_)
        have hall : (msg :: msgs).filterMap (callFor api session) = [] := htask ▸ hempty
        rw [List.filterMap_eq_nil_iff] at hall
        exact List.filterMap_eq_nil_iff.mpr fun other hmem =>
          hall other (List.mem_cons_of_mem _ hmem)
      · exact h.used session (.inr (.inl ((hsessions session).symm.trans htracked)))
      · cases hanswer
    drawn := h.drawn
    asked := fun m hm => by cases hm
    phase := by
      show Phase _ ((w.adapter.proc results msg).isTrackingSession api (current w.client.base)) _
        _ _
      rw [hsessions]
      exact hphase
    reports := h.reports }

theorem step_answered (h : w.Good api) {msg : GnssMsg} {msgs : List GnssMsg}
    (hidle : w.answering = none) (htask : w.mMsgTask = msg :: msgs) {session : Nat}
    {err : LocationError} {tracked : Bool}
    (ha : Answered w.adapter (w.adapter.proc results msg) api session err tracked) :
    w.step results api .proc =
      { w with
        adapter := w.adapter.proc results msg
        mMsgTask := msgs
        answering := some (msg, ⟨api, err, session, true⟩) } := by
  obtain ⟨callbacks, hcallbacks, hresponseCb, -⟩ := h.known
  have hdelivered : w.adapter.mClientData[api]?.any (·.responseCb) = true := by
    rw [hcallbacks]
    exact hresponseCb
  rw [step_proc hidle htask ha.responses, hdelivered, List.find?_cons_of_pos (by simp)]
  rfl

/-- The message gets its answer. -/
theorem good_answered (h : w.Good api) {msg : GnssMsg} {msgs : List GnssMsg}
    (hidle : w.answering = none) (htask : w.mMsgTask = msg :: msgs) {cls : RequestClass}
    {session : Nat} {err : LocationError} {tracked : Bool}
    (ha : Answered w.adapter (w.adapter.proc results msg) api session err tracked)
    (hcall : ∀ other, callFor api other msg = if session = other then some cls else none)
    (hphase : session = current w.client.base →
      Phase (msgs.filterMap (callFor api (current w.client.base))) tracked
        (some (cls, err)) (requests w.client.base) (Begun w.told)) :
    (w.step results api .proc).Good api := by
  obtain ⟨callbacks, hcallbacks, hboth⟩ := h.known
  rw [step_answered h hidle htask ha]
  have hwaiting : ∀ other, w.waiting api other =
      (if session = other then some cls else none).toList ++
        msgs.filterMap (callFor api other) := by
    intro other
    rw [waiting_cons api htask, hcall]
  exact {
    tracks := h.tracks
    callback := h.callback
    size := h.size
    known := ⟨callbacks, by rw [← hcallbacks]; exact congrArg (·[api]?) ha.clients, hboth⟩
    proper := fun other hmem => h.proper other (htask ▸ List.mem_cons_of_mem _ hmem)
    used := fun other hother => by
      refine h.used other ?_
      by_cases heq : session = other
      · refine .inl ?_
        rw [hwaiting, if_pos heq]
        exact List.cons_ne_nil _ _
      · rcases hother with hne | htracked | hanswer
        · refine .inl ?_
          rw [hwaiting, if_neg heq]
          exact hne
        · refine .inr (.inl ?_)
          rw [ha.isTrackingSession, if_neg heq] at htracked
          exact htracked
        · simp [answer, hcall, heq] at hanswer
    drawn := h.drawn
    asked := fun m hm => by
      obtain rfl := Option.some.inj hm
      simp [hcall]
    phase := by
      by_cases heq : session = current w.client.base
      · have hanswer : (some (msg, (⟨api, err, session, true⟩ : Response))).bind (fun m =>
            (callFor api (current w.client.base) m.1).map (·, m.2.err)) =
              some (cls, err) := by simp [hcall, heq]
        show Phase (msgs.filterMap (callFor api (current w.client.base)))
          ((w.adapter.proc results msg).isTrackingSession api (current w.client.base))
          (Option.bind _ _) (requests w.client.base) (Begun w.told)
        rw [ha.isTrackingSession, if_pos heq, hanswer]
        exact hphase heq
      · have hold := h.phase
        rw [hwaiting, if_neg heq] at hold
        have hanswer : (some (msg, (⟨api, err, session, true⟩ : Response))).bind (fun m =>
            (callFor api (current w.client.base) m.1).map (·, m.2.err)) = none := by
          simp [hcall, heq]
        show Phase (msgs.filterMap (callFor api (current w.client.base)))
          ((w.adapter.proc results msg).isTrackingSession api (current w.client.base))
          (Option.bind _ _) (requests w.client.base) (Begun w.told)
        rw [ha.isTrackingSession, if_neg heq, hanswer]
        rw [answer, hidle] at hold
        exact hold
    reports := h.reports }

/-- A message that is not about a session of the client leaves its phase. -/
theorem phase_skip (h : w.Good api) {msg : GnssMsg} {msgs : List GnssMsg}
    (hidle : w.answering = none) (htask : w.mMsgTask = msg :: msgs)
    (hcall : callFor api (current w.client.base) msg = none) :
    Phase (msgs.filterMap (callFor api (current w.client.base)))
      (w.adapter.isTrackingSession api (current w.client.base)) none (requests w.client.base)
      (Begun w.told) := by
  have hold := h.phase
  rw [waiting, htask, List.filterMap_cons_none hcall, answer, hidle] at hold
  exact hold

/-- The phase when the message of the client's session is next. -/
theorem phase_next (h : w.Good api) {msg : GnssMsg} {msgs : List GnssMsg} {cls : RequestClass}
    (hidle : w.answering = none) (htask : w.mMsgTask = msg :: msgs)
    (hcall : callFor api (current w.client.base) msg = some cls) :
    Phase (cls :: msgs.filterMap (callFor api (current w.client.base)))
      (w.adapter.isTrackingSession api (current w.client.base)) none (requests w.client.base)
      (Begun w.told) := by
  have hold := h.phase
  rw [waiting, htask, List.filterMap_cons_some hcall, answer, hidle] at hold
  exact hold

theorem good_proc_start (h : w.Good api) {session : Nat}
    {options : Gnss.TrackingSessions.LocationOptions} {msgs : List GnssMsg}
    (hidle : w.answering = none)
    (htask : w.mMsgTask = .startTracking api session options :: msgs) :
    (w.step results api .proc).Good api := by
  obtain ⟨err, ha⟩ := start_answered results w.adapter api session options
  have hcall : ∀ other, callFor api other (.startTracking api session options) =
      if session = other then some StartTrackingRequest else none := by simp [callFor]
  refine good_answered h hidle htask ha hcall fun hsession => ?_
  obtain ⟨htracked, hphase⟩ := (phase_next h hidle htask (by rw [hcall, if_pos hsession])).start
    err
  rw [hsession, htracked]
  by_cases herr : err = .LOCATION_ERROR_SUCCESS
  · rw [if_pos herr]
    rw [decide_eq_true herr] at hphase
    exact hphase
  · rw [if_neg herr]
    rw [decide_eq_false herr] at hphase
    exact hphase

/-- A message that is not answered because there is not the session. -/
theorem good_proc_silent (h : w.Good api) {msg : GnssMsg} {msgs : List GnssMsg}
    {cls : RequestClass} {session : Nat} (hidle : w.answering = none)
    (htask : w.mMsgTask = msg :: msgs) (hcls : cls ≠ StartTrackingRequest)
    (hcall : ∀ other, callFor api other msg = if session = other then some cls else none)
    (hsilent : w.adapter.proc results msg = w.adapter)
    (htracked : w.adapter.isTrackingSession api session = false) :
    (w.step results api .proc).Good api := by
  refine good_unanswered h hidle htask (by rw [hsilent]; exact (List.append_nil _).symm) (by simp)
    (fun _ => by rw [hsilent]) (by rw [hsilent]; exact h.known) ?_
  by_cases hsession : session = current w.client.base
  · rcases (phase_next h hidle htask (by rw [hcall, if_pos hsession])).call hcls with
      ⟨hnone, hphase⟩ | ⟨hsome, -⟩
    · rw [hnone]
      exact hphase
    · rw [← hsession, htracked] at hsome
      cases hsome
  · exact phase_skip h hidle htask (by rw [hcall, if_neg hsession])

/-- A message that is answered because there is the session. -/
theorem good_proc_call (h : w.Good api) {msg : GnssMsg} {msgs : List GnssMsg}
    {cls : RequestClass} {session : Nat} {err : LocationError}
    (hidle : w.answering = none) (htask : w.mMsgTask = msg :: msgs)
    (hcls : cls ≠ StartTrackingRequest)
    (hcall : ∀ other, callFor api other msg = if session = other then some cls else none)
    (htracked : w.adapter.isTrackingSession api session = true)
    (ha : Answered w.adapter (w.adapter.proc results msg) api session err
      (decide (cls = StopTrackingRequest → err ≠ LOCATION_ERROR_SUCCESS))) :
    (w.step results api .proc).Good api := by
  refine good_answered h hidle htask ha hcall fun hsession => ?_
  rcases (phase_next h hidle htask (by rw [hcall, if_pos hsession])).call hcls with
    ⟨hnone, -⟩ | ⟨-, -, hphase⟩
  · rw [← hsession, htracked] at hnone
    cases hnone
  · exact hphase err

theorem good_proc (h : w.Good api) : (w.step results api .proc).Good api := by
  cases hanswering : w.answering with
  | some m =>
    have hbusy : w.step results api .proc = w := by simp only [step, hanswering]
    rw [hbusy]
    exact h
  | none =>
    cases htask : w.mMsgTask with
    | nil =>
      have hempty : w.step results api .proc = w := by simp only [step, hanswering, htask]
      rw [hempty]
      exact h
    | cons msg msgs =>
      have hproper := h.proper msg (htask ▸ List.mem_cons_self)
      by_cases hclient : clientOf msg = some api
      · cases msg with
        | addClient client callbacks =>
          obtain rfl := Option.some.inj hclient
          refine good_unanswered h hanswering htask (List.append_nil _).symm (by simp)
            (fun _ => rfl) ⟨callbacks, ?_, hproper rfl⟩ (phase_skip h hanswering htask rfl)
          exact Std.TreeMap.getElem?_insert_self
        | removeClient client => exact absurd (Option.some.inj hclient) hproper
        | startTracking client session options =>
          obtain rfl := Option.some.inj hclient
          exact good_proc_start h hanswering htask
        | updateTracking client session options =>
          obtain rfl := Option.some.inj hclient
          have hcall : ∀ other, callFor client other (.updateTracking client session options) =
              if session = other then some UpdateTrackingOptionsRequest else none := by
            simp [callFor]
          cases htracked : w.adapter.isTrackingSession client session with
          | false =>
            exact good_proc_silent h hanswering htask (by decide) hcall
              (update_silent results options htracked) htracked
          | true =>
            obtain ⟨err, ha⟩ := update_answered results options htracked
            exact good_proc_call h hanswering htask (by decide) hcall htracked
              (by simpa [GnssAdapter.proc] using ha)
        | stopTracking client session =>
          obtain rfl := Option.some.inj hclient
          have hcall : ∀ other, callFor client other (.stopTracking client session) =
              if session = other then some StopTrackingRequest else none := by simp [callFor]
          cases htracked : w.adapter.isTrackingSession client session with
          | false =>
            exact good_proc_silent h hanswering htask (by decide) hcall
              (stop_silent results htracked) htracked
          | true =>
            obtain ⟨err, ha⟩ := stop_answered results htracked
            exact good_proc_call h hanswering htask (by decide) hcall htracked
              (by simpa [GnssAdapter.proc] using ha)
        | engineRestart => cases hclient
      · have huntouched := proc_untouched results (a := w.adapter) hclient
        obtain ⟨more, hmore, hother⟩ := huntouched.responses
        obtain ⟨callbacks, hcallbacks, hboth⟩ := h.known
        exact good_unanswered h hanswering htask hmore hother huntouched.sessions
          ⟨callbacks, huntouched.clients.trans hcallbacks, hboth⟩
          (phase_skip h hanswering htask (callFor_of_ne hclient _))

/-! ### Answers that arrive -/

/-- What the framework is told begins its session after a start that went well and ends it after
a stop that did; nothing else does. -/
theorem onRequestCb_spec {c : GnssAPIClient} (hcallback : c.mGnssCbIface = true)
    (cls : RequestClass) (error : LocationError) {told : List GnssStatusValue}
    (htold : Reports told)
    (hstop : cls = StopTrackingRequest → error = LOCATION_ERROR_SUCCESS → Begun told) :
    Reports (told ++ c.onRequestCb cls error) ∧
      (Begun (told ++ c.onRequestCb cls error) ↔
        cls = StartTrackingRequest ∧ error = LOCATION_ERROR_SUCCESS ∨
          (Begun told ∧ ¬(cls = StopTrackingRequest ∧ error = LOCATION_ERROR_SUCCESS))) := by
  have hquiet : c.onRequestCb cls error = [] → ¬(cls = StartTrackingRequest ∧
      error = LOCATION_ERROR_SUCCESS) → ¬(cls = StopTrackingRequest ∧
        error = LOCATION_ERROR_SUCCESS) → Reports (told ++ c.onRequestCb cls error) ∧
          (Begun (told ++ c.onRequestCb cls error) ↔
            cls = StartTrackingRequest ∧ error = LOCATION_ERROR_SUCCESS ∨
              (Begun told ∧ ¬(cls = StopTrackingRequest ∧ error = LOCATION_ERROR_SUCCESS))) := by
    intro hnone hstart hstop
    rw [hnone, List.append_nil]
    exact ⟨htold, by simp [hstart, hstop]⟩
  by_cases herror : error = LOCATION_ERROR_SUCCESS
  · by_cases hstart : cls = StartTrackingRequest
    · subst hstart
      have hvalues : c.onRequestCb StartTrackingRequest error = [ENGINE_ON, SESSION_BEGIN] :=
        if_pos ⟨herror, hcallback⟩
      rw [hvalues]
      exact ⟨.begun htold, iff_of_true (by simp [Begun]) (.inl ⟨rfl, herror⟩)⟩
    · by_cases hcls : cls = StopTrackingRequest
      · subst hcls
        have hvalues : c.onRequestCb StopTrackingRequest error = [SESSION_END, ENGINE_OFF] :=
          if_pos ⟨herror, hcallback⟩
        rw [hvalues]
        refine ⟨htold.end (hstop rfl herror), iff_of_false (by simp [Begun]) ?_⟩
        simp [herror]
      · refine hquiet ?_ (fun hboth => hstart hboth.1) fun hboth => hcls hboth.1
        cases cls with
        | StartTrackingRequest => exact absurd rfl hstart
        | StopTrackingRequest => exact absurd rfl hcls
        | _ => rfl
  · refine hquiet ?_ (fun hboth => herror hboth.2) fun hboth => herror hboth.2
    cases cls with
    | StartTrackingRequest => exact if_neg fun hboth => herror hboth.1
    | StopTrackingRequest => exact if_neg fun hboth => herror hboth.1
    | _ => rfl

/-- The answer of an earlier session is dropped. -/
theorem report_other (results : Nat → Int) (h : w.Good api) {msg : GnssMsg} {r : Response}
    (hanswering : w.answering = some (msg, r)) (hsession : current w.client.base ≠ r.sessionId) :
    w.step results api .reportResponse = { w with answering := none } ∧
      w.answer api (current w.client.base) = none := by
  obtain ⟨cls, hcls⟩ := Option.isSome_iff_exists.mp (h.asked (msg, r) hanswering)
  have hpos : 0 < r.sessionId := by
    refine (h.used r.sessionId (.inr (.inr ?_))).1
    simp [answer, hanswering, hcls]
  obtain ⟨hnone, hsame⟩ := onResponseCb_other h.tracks hpos hsession r.err
  have hcallback : w.client.onResponseCb r.err r.sessionId = (w.client, []) := by
    rw [GnssAPIClient.onResponseCb, hnone, hsame]
  refine ⟨by simp only [step, hanswering, hcallback, List.append_nil], ?_⟩
  simp [answer, hanswering, callFor_other hcls (Ne.symm hsession)]

/-- The answer of the client's session is for the request in front. -/
theorem report_current (results : Nat → Int) (h : w.Good api) {msg : GnssMsg} {r : Response}
    (hanswering : w.answering = some (msg, r)) (hsession : current w.client.base = r.sessionId) :
    ∃ cls, w.answer api (current w.client.base) = some (cls, r.err) ∧
      w.step results api .reportResponse =
        { w with
          client := { w.client with
            base := w.client.base.onResponseCb r.err (current w.client.base) }
          answering := none
          told := w.told ++ w.client.onRequestCb cls r.err } ∧
      ∃ rest, requests w.client.base = cls :: rest ∧
        (cls = StopTrackingRequest → r.err = LOCATION_ERROR_SUCCESS → Begun w.told) := by
  obtain ⟨cls, hcls⟩ := Option.isSome_iff_exists.mp (h.asked (msg, r) hanswering)
  have hanswer : w.answer api (current w.client.base) = some (cls, r.err) := by
    simp [answer, hanswering, hsession, hcls]
  have hphase := h.phase
  rw [hanswer] at hphase
  obtain ⟨rest, hrequests, hbegun, -⟩ := hphase.report True fun _ => trivial
  obtain ⟨hrequest, -⟩ := onResponseCb_current h.tracks hrequests r.err
  obtain ⟨request, hfound, hrequestCls⟩ := Option.map_eq_some_iff.mp hrequest
  refine ⟨cls, hanswer, ?_, rest, hrequests, hbegun⟩
  simp only [step, hanswering, GnssAPIClient.onResponseCb, ← hsession, hfound, hrequestCls]

theorem good_report_other (h : w.Good api) {msg : GnssMsg} {r : Response}
    (hanswering : w.answering = some (msg, r)) (hsession : current w.client.base ≠ r.sessionId) :
    (w.step results api .reportResponse).Good api := by
  obtain ⟨hstep, hanswer⟩ := report_other results h hanswering hsession
  rw [hstep]
  exact { h with
    used := fun session hused => h.used session (hused.imp_right (Or.imp_right
      fun hnone => by cases hnone))
    asked := fun m hm => by cases hm
    phase := by
      have hphase := h.phase
      rw [hanswer] at hphase
      exact hphase }

theorem good_report_current (h : w.Good api) {msg : GnssMsg} {r : Response}
    (hanswering : w.answering = some (msg, r)) (hsession : current w.client.base = r.sessionId) :
    (w.step results api .reportResponse).Good api := by
  obtain ⟨cls, hanswer, hstep, -, -, hbegun⟩ := report_current results h hanswering
    hsession
  obtain ⟨hreports, htold⟩ :=
    onRequestCb_spec h.callback cls r.err h.reports hbegun
  have hphase := h.phase
  rw [hanswer] at hphase
  obtain ⟨rest, hrequests, -, hphase'⟩ := hphase.report _ htold.mpr
  obtain ⟨-, htracks, -, hcurrent, hleft⟩ :=
    onResponseCb_current h.tracks hrequests r.err
  rw [hstep]
  exact {
    tracks := htracks
    callback := h.callback
    size := h.size
    known := h.known
    proper := h.proper
    used := fun session hused => h.used session (hused.imp_right (Or.imp_right
      fun hnone => by cases hnone))
    drawn := (Nat.le_of_eq hcurrent).trans h.drawn
    asked := fun m hm => by cases hm
    phase := by
      show Phase (w.waiting api (current (w.client.base.onResponseCb _ _)))
        (w.adapter.isTrackingSession api (current (w.client.base.onResponseCb _ _))) none
        (requests (w.client.base.onResponseCb _ _)) _
      rw [hcurrent, hleft]
      exact hphase'
    reports := hreports }

theorem good_reportResponse (h : w.Good api) : (w.step results api .reportResponse).Good api := by
  cases hanswering : w.answering with
  | none =>
    have hidle : w.step results api .reportResponse = w := by simp only [step, hanswering]
    rw [hidle]
    exact h
  | some m =>
    by_cases hsession : current w.client.base = m.2.sessionId
    · exact good_report_current h hanswering hsession
    · exact good_report_other h hanswering hsession

/-! ### Runs -/

/-- The framework's callback is not taken away. -/
def keepsCallback : Event → Bool
  | .gnssUpdateCallbacks gpsCb _ _ => gpsCb
  | _ => true

theorem good_step (h : w.Good api) {e : Event} (hkeeps : keepsCallback e = true)
    (hcounter : w.mSessionIdCounter.toNat + 1 < 4294967295) : (w.step results api e).Good api := by
  cases e with
  | gnssStart => exact good_gnssStart h hcounter
  | gnssStop => exact good_gnssStop h
  | gnssSetPositionMode mode recurrence minIntervalMs preferredAccuracyMeters =>
    exact good_gnssSetPositionMode h mode recurrence minIntervalMs preferredAccuracyMeters
  | gnssUpdateCallbacks gpsCb niCb hasAgpsExtendedCapabilities =>
    obtain rfl : gpsCb = true := hkeeps
    exact good_gnssUpdateCallbacks h niCb hasAgpsExtendedCapabilities
  | post msg => exact good_post h msg
  | generateSessionId => exact good_generateSessionId h hcounter
  | proc => exact good_proc h
  | reportResponse => exact good_reportResponse h

/-- A step draws at most one id. -/
theorem counter_step (results : Nat → Int) (api : LocationAPI) (e : Event)
    (hcounter : w.mSessionIdCounter.toNat + 1 < 4294967295) :
    (w.step results api e).mSessionIdCounter.toNat ≤ w.mSessionIdCounter.toNat + 1 := by
  have hnext := toNat_nextSessionId hcounter
  cases e with
  | gnssStart =>
    have hdraw : ∀ silent : Bool, (if silent = true then w.mSessionIdCounter else
        nextSessionId w.mSessionIdCounter).toNat ≤ w.mSessionIdCounter.toNat + 1 := by
      rintro (_ | _)
      · exact Nat.le_of_eq hnext
      · exact Nat.le_succ _
    exact hdraw _
  | generateSessionId => exact Nat.le_of_eq hnext
  | post msg =>
    simp only [step]
    split <;> exact Nat.le_succ _
  | proc =>
    simp only [step]
    split <;> exact Nat.le_succ _
  | reportResponse =>
    simp only [step]
    split <;> exact Nat.le_succ _
  | _ => exact Nat.le_succ _

/-- What every step keeps holds after a run that draws fewer ids than there are. -/
theorem inv_run_drawn {I : World → Prop}
    (hstep : ∀ {w : World} {e : Event}, I w → keepsCallback e = true →
      w.mSessionIdCounter.toNat + 1 < 4294967295 → I (w.step results api e))
    {es : List Event} (hkeeps : ∀ e ∈ es, keepsCallback e = true)
    (hdrawn : w.mSessionIdCounter.toNat + es.length < 4294967295) (h : I w) :
    I (run (step results api) w es) := by
  induction es generalizing w with
  | nil => exact h
  | cons e es ih =>
    obtain ⟨hfirst, hrest⟩ := List.forall_mem_cons.mp hkeeps
    rw [List.length_cons] at hdrawn
    have hcounter : w.mSessionIdCounter.toNat + 1 < 4294967295 := by omega
    have hle := counter_step results api e hcounter
    exact ih hrest (by omega) (hstep h hfirst hcounter)

theorem good_init (api : LocationAPI) (niCb hasAgpsExtendedCapabilities : Bool) {a : GnssAdapter}
    (hnew : ∀ session, a.isTrackingSession api session = false) :
    (init api (locationCallbacks true niCb hasAgpsExtendedCapabilities) a).Good api where
  tracks := ⟨rfl, fun _ => rfl, rfl⟩
  callback := rfl
  size := (by decide : sizeofLocationOptions ≠ 0)
  known := ⟨_, Std.TreeMap.getElem?_insert_self, rfl, rfl⟩
  proper := fun msg hmsg => by cases hmsg
  used := fun session hused => by
    rcases hused with hne | htracked | hanswer
    · exact absurd rfl hne
    · exact absurd ((hnew session).symm.trans htracked) Bool.false_ne_true
    · cases hanswer
  drawn := Nat.zero_le _
  asked := fun m hm => by cases hm
  phase := by
    show Phase [] (a.isTrackingSession api 0) none [] (Begun [])
    rw [hnew]
    exact .gone List.not_mem_nil
  reports := .nil

theorem good_reached {niCb hasAgpsExtendedCapabilities : Bool} {a : GnssAdapter}
    {es : List Event} (hnew : ∀ session, a.isTrackingSession api session = false)
    (hkeeps : ∀ e ∈ es, keepsCallback e = true) (hdrawn : es.length < 4294967294)
    (hrun : w = run (step results api)
      (init api (locationCallbacks true niCb hasAgpsExtendedCapabilities) a) es) :
    w.Good api := by
  rw [hrun]
  exact inv_run_drawn (I := fun w => w.Good api)
    (fun h hkeeps hcounter => good_step h hkeeps hcounter) hkeeps
    (by show 1 + es.length < _; omega) (good_init api niCb hasAgpsExtendedCapabilities hnew)

end

end World

/-- **What the framework is told begins and ends sessions in turn.** Whatever the engine answers,
whatever other clients do and however the framework's calls fall between a message and its answer:
a session that ends was begun, and was told last. -/
theorem reports_in_turn (results : Nat → Int) (api : LocationAPI)
    (niCb hasAgpsExtendedCapabilities : Bool) (a : GnssAdapter) (es : List Event)
    (hnew : ∀ session, a.isTrackingSession api session = false)
    (hkeeps : ∀ e ∈ es, World.keepsCallback e = true) (hdrawn : es.length < 4294967294) :
    Reports (run (World.step results api)
      (World.init api (locationCallbacks true niCb hasAgpsExtendedCapabilities) a) es).told := by
  exact (World.good_reached hnew hkeeps hdrawn rfl).reports

/-- A start between the stop and its answer: the end of the first session goes untold. -/
theorem reports_in_turn_restart :
    Reports (run (World.step succeeds 7) (World.init 7 (locationCallbacks true false false)
      (.new 0 false false 0)) [.gnssStart, .proc, .reportResponse, .gnssStop, .gnssStart, .proc,
        .reportResponse, .proc, .reportResponse]).told :=
  reports_in_turn succeeds 7 false false _ _ (isTrackingSession_new _ _ _ _ 7) (by decide)
    (by decide)

/-- **A session that the adapter has was told.** Whatever the engine answers: while the adapter's
thread is not about to answer, the client's last session is in the adapter only if the framework
was told last that it began. -/
theorem told_of_tracked (results : Nat → Int) (api : LocationAPI)
    (niCb hasAgpsExtendedCapabilities : Bool) (a : GnssAdapter) (es : List Event)
    (hnew : ∀ session, a.isTrackingSession api session = false)
    (hkeeps : ∀ e ∈ es, World.keepsCallback e = true) (hdrawn : es.length < 4294967294)
    {w : World} (hrun : w = run (World.step results api) (World.init api
      (locationCallbacks true niCb hasAgpsExtendedCapabilities) a) es)
    (hidle : w.answering = none)
    (htracked : w.adapter.isTrackingSession api (current w.client.base) = true) :
    Begun w.told := by
  have hphase := (World.good_reached hnew hkeeps hdrawn hrun).phase
  rw [htracked, World.answer, hidle] at hphase
  exact hphase.begun_of_tracked

/-- The engine takes the start and refuses the stop. -/
theorem told_of_tracked_refused : Begun (run (World.step acceptsOne 7) (World.init 7
    (locationCallbacks true false false) (.new 0 false false 0)) [.gnssStart, .proc,
      .reportResponse, .gnssStop, .proc, .reportResponse]).told :=
  told_of_tracked acceptsOne 7 false false _ _ (isTrackingSession_new _ _ _ _ 7) (by decide)
    (by decide) rfl rfl (by decide)

end DeviceHal.Android.TrackingStatus
