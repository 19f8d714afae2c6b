import DeviceHal.Gnss.TrackingClients

/-! # What a message does for one client

A start is answered always; an update and a stop are answered if there is the
session, and else do nothing. No other client's message changes the sessions
of a client or answers it. -/
namespace DeviceHal.Gnss.TrackingAnswers
open DeviceHal.Lib.Run
open DeviceHal.Gnss.LocationTypes DeviceHal.Gnss.TrackingSessions
open DeviceHal.Gnss.TrackingSessions.GnssAdapter DeviceHal.Gnss.TrackingMultiplex
open DeviceHal.Gnss.TrackingClients
open LocationError

/-- The client that a message is from. -/
def clientOf : GnssMsg → Option LocationAPI
  | .addClient client _ | .removeClient client | .startTracking client _ _
  | .updateTracking client _ _ | .stopTracking client _ => some client
  | .engineRestart => none

/-- Nothing happened to a client: its sessions, its callbacks and what it was answered. -/
structure Untouched (a a' : GnssAdapter) (client : LocationAPI) : Prop where
  sessions : ∀ sessionId, a'.isTrackingSession client sessionId =
    a.isTrackingSession client sessionId
  clients : a'.mClientData[client]? = a.mClientData[client]?
  responses : ∃ more, a'.responses = a.responses ++ more ∧ ∀ r ∈ more, r.client ≠ client

/-- A message about a session was answered with `err`; `tracked` tells whether the session is
there now. -/
structure Answered (a a' : GnssAdapter) (client : LocationAPI) (sessionId : Nat)
    (err : LocationError) (tracked : Bool) : Prop where
  responses : a'.responses = a.responses ++
    [⟨client, err, sessionId, a.mClientData[client]?.any (·.responseCb)⟩]
  clients : a'.mClientData = a.mClientData
  session : a'.isTrackingSession client sessionId = tracked
  others : ∀ key : LocationSessionKey, key ≠ ⟨client, sessionId⟩ → options a' key = options a key

section
variable {results : Nat → Int} {a : GnssAdapter} {client : LocationAPI} {sessionId : Nat}

theorem isTrackingSession_eq (a : GnssAdapter) (client : LocationAPI) (sessionId : Nat) :
    a.isTrackingSession client sessionId = (options a ⟨client, sessionId⟩).isSome :=
  Std.TreeMap.contains_eq_isSome_getElem?

/-- A new adapter has no session. -/
theorem isTrackingSession_new (nmeaMask : UInt32) (status odcpi : Bool) (externalDr : Nat)
    (client : LocationAPI) (sessionId : Nat) :
    (GnssAdapter.new nmeaMask status odcpi externalDr).isTrackingSession client sessionId =
      false := by
  rw [isTrackingSession_eq]
  exact congrArg Option.isSome Std.TreeMap.getElem?_emptyc

/-- The sessions are edited at one key, and the answer is the last thing that happens. -/
theorem answered_of {a' : GnssAdapter} {err : LocationError} {new : Option LocationOptions}
    (hclients : a'.mClientData = a.mClientData) (hresponses : a'.responses = a.responses)
    (hedit : options a' = Function.update (options a) ⟨client, sessionId⟩ new) :
    Answered a (a'.reportResponse client err sessionId) client sessionId err new.isSome where
  responses := by simp only [reportResponse, hresponses, hclients]
  clients := hclients
  session := by
    rw [isTrackingSession_eq]
    show (options a' ⟨client, sessionId⟩).isSome = new.isSome
    rw [hedit, Function.update_self]
  others := fun key hkey => by
    show options a' key = options a key
    rw [hedit, Function.update_of_ne hkey]

theorem options_of_same {a' : GnssAdapter} (hsame : SameTables a a') : options a' = options a := by
  funext key
  rw [options, options, hsame.sessions]

/-- A call that leaves the tables, and then one edit of the sessions if it went well. -/
theorem answered_edit {a' : GnssAdapter} (hsame : SameTables a a') (err : LocationError)
    (edited : GnssAdapter) {new : Option LocationOptions}
    (hclients : edited.mClientData = a'.mClientData) (hresponses : edited.responses = a'.responses)
    (hedit : options edited = Function.update (options a') ⟨client, sessionId⟩ new) :
    Answered a ((if err = LOCATION_ERROR_SUCCESS then edited else a').reportResponse client err
      sessionId) client sessionId err
      (if err = LOCATION_ERROR_SUCCESS then new.isSome
        else a.isTrackingSession client sessionId) := by
  have hoptions := options_of_same hsame
  split
  · exact answered_of (hclients.trans hsame.clients) (hresponses.trans hsame.responses)
      (by rw [hedit, hoptions])
  · rw [isTrackingSession_eq]
    exact answered_of hsame.clients hsame.responses (by rw [hoptions, Function.update_eq_self])

/-- A message that fails before it gets to the engine. -/
theorem answered_refused (a : GnssAdapter) (client : LocationAPI) (sessionId : Nat)
    (err : LocationError) :
    Answered a (a.reportResponse client err sessionId) client sessionId err
      (a.isTrackingSession client sessionId) := by
  rw [isTrackingSession_eq]
  exact answered_of rfl rfl (Function.update_eq_self _ _).symm

theorem start_answered (results : Nat → Int) (a : GnssAdapter) (client : LocationAPI)
    (sessionId : Nat) (o : LocationOptions) :
    ∃ err, Answered a (a.procStartTracking results client sessionId o) client sessionId err
      (if err = LOCATION_ERROR_SUCCESS then true else a.isTrackingSession client sessionId) := by
  unfold procStartTracking
  by_cases hcb : (!a.hasTrackingCallback client && !a.hasMeasurementsCallback client) = true
  · rw [if_pos hcb]
    exact ⟨LOCATION_ERROR_CALLBACK_MISSING, answered_refused a client sessionId _⟩
  · rw [if_neg hcb]
    by_cases hsize : o.size = 0
    · rw [if_pos hsize]
      exact ⟨LOCATION_ERROR_INVALID_PARAMETER, answered_refused a client sessionId _⟩
    · rw [if_neg hsize]
      exact ⟨_, answered_edit (startMultiplex_same results a o) _
        ((a.startTrackingMultiplex results o).1.saveTrackingSession client sessionId o) rfl rfl
        (options_save _ client sessionId o)⟩

theorem update_answered (results : Nat → Int) (o : LocationOptions)
    (htracked : a.isTrackingSession client sessionId = true) :
    ∃ err, Answered a (a.procUpdateTracking results client sessionId o) client sessionId err
      true := by
  unfold procUpdateTracking
  rw [if_pos htracked]
  by_cases hsize : o.size = 0
  · rw [if_pos hsize]
    have h := answered_refused a client sessionId LOCATION_ERROR_INVALID_PARAMETER
    rw [htracked] at h
    exact ⟨_, h⟩
  · rw [if_neg hsize]
    have h := answered_edit (updateMultiplex_same results a client sessionId o)
      (a.updateTrackingMultiplex results client sessionId o).2
      ((a.updateTrackingMultiplex results client sessionId o).1.saveTrackingSession client
        sessionId o) rfl rfl (options_save _ client sessionId o)
    rw [htracked, Option.isSome_some, ite_self] at h
    exact ⟨_, h⟩

theorem update_silent (results : Nat → Int) (o : LocationOptions)
    (htracked : a.isTrackingSession client sessionId = false) :
    a.procUpdateTracking results client sessionId o = a :=
  if_neg (by rw [htracked]; exact Bool.false_ne_true)

theorem stop_answered (results : Nat → Int)
    (htracked : a.isTrackingSession client sessionId = true) :
    ∃ err, Answered a (a.procStopTracking results client sessionId) client sessionId err
      (decide (err ≠ LOCATION_ERROR_SUCCESS)) := by
  unfold procStopTracking
  rw [if_pos htracked]
  have h := answered_edit (stopMultiplex_same results a client sessionId)
    (a.stopTrackingMultiplex results client sessionId).2
    ((a.stopTrackingMultiplex results client sessionId).1.eraseTrackingSession client sessionId)
    rfl rfl (options_erase _ client sessionId)
  refine ⟨(a.stopTrackingMultiplex results client sessionId).2, ?_⟩
  have hleft : (if (a.stopTrackingMultiplex results client sessionId).2 = LOCATION_ERROR_SUCCESS
      then (none : Option LocationOptions).isSome else a.isTrackingSession client sessionId) =
        decide ((a.stopTrackingMultiplex results client sessionId).2 ≠ LOCATION_ERROR_SUCCESS) := by
    rw [htracked]
    split <;> simp_all
  rw [hleft] at h
  exact h

theorem stop_silent (results : Nat → Int)
    (htracked : a.isTrackingSession client sessionId = false) :
    a.procStopTracking results client sessionId = a :=
  if_neg (by rw [htracked]; exact Bool.false_ne_true)

/-! ## An engine that never refuses -/

theorem start_succeeds {o : LocationOptions} (hcallback : a.hasTrackingCallback client = true)
    (hsize : o.size ≠ 0) : Answered a (a.procStartTracking succeeds client sessionId o) client
      sessionId LOCATION_ERROR_SUCCESS true := by
  have hok : (a.startTrackingMultiplex succeeds o).2 = LOCATION_ERROR_SUCCESS := by
    unfold startTrackingMultiplex
    split
    · rfl
    · split <;> rfl
  have hcb : ¬(!a.hasTrackingCallback client && !a.hasMeasurementsCallback client) = true := by
    simp [hcallback]
  have h := answered_edit (startMultiplex_same succeeds a o) LOCATION_ERROR_SUCCESS
    ((a.startTrackingMultiplex succeeds o).1.saveTrackingSession client sessionId o) rfl rfl
    (options_save _ client sessionId o)
  simp only [procStartTracking, hcb, if_false, hsize, hok]
  exact h

theorem stop_succeeds (htracked : a.isTrackingSession client sessionId = true) :
    Answered a (a.procStopTracking succeeds client sessionId) client sessionId
      LOCATION_ERROR_SUCCESS false := by
  have hok : (a.stopTrackingMultiplex succeeds client sessionId).2 = LOCATION_ERROR_SUCCESS := by
    unfold stopTrackingMultiplex
    split
    · rfl
    · split
      · rfl
      · dsimp only
        split <;> rfl
  have h := answered_edit (stopMultiplex_same succeeds a client sessionId) LOCATION_ERROR_SUCCESS
    ((a.stopTrackingMultiplex succeeds client sessionId).1.eraseTrackingSession client sessionId)
    rfl rfl (options_erase _ client sessionId)
  simp only [procStopTracking, htracked, if_true, hok]
  exact h

/-- The client's other sessions stay. -/
theorem Answered.isTrackingSession {a' : GnssAdapter} {err : LocationError} {tracked : Bool}
    (h : Answered a a' client sessionId err tracked) (other : Nat) :
    a'.isTrackingSession client other =
      if sessionId = other then tracked else a.isTrackingSession client other := by
  split
  next heq => rw [← heq, h.session]
  next hne =>
    rw [isTrackingSession_eq, isTrackingSession_eq, h.others]
    exact fun heq => hne (congrArg LocationSessionKey.id heq).symm

/-! ## Other clients -/

theorem Untouched.refl (a : GnssAdapter) (client : LocationAPI) : Untouched a a client :=
  ⟨fun _ => rfl, rfl, [], (List.append_nil _).symm, fun _ h => absurd h List.not_mem_nil⟩

/-- The answer went to another client. -/
theorem Answered.untouched {a' : GnssAdapter} {other : LocationAPI} {err : LocationError}
    {tracked : Bool} (h : Answered a a' other sessionId err tracked) (hne : other ≠ client) :
    Untouched a a' client where
  sessions := fun id => by
    have hkey : (⟨client, id⟩ : LocationSessionKey) ≠ ⟨other, sessionId⟩ :=
      fun heq => hne (congrArg LocationSessionKey.client heq).symm
    rw [isTrackingSession_eq, isTrackingSession_eq, h.others _ hkey]
  clients := by rw [h.clients]
  responses := ⟨_, h.responses, fun r hr => by rw [List.mem_singleton.mp hr]; exact hne⟩

theorem untouched_addClient {other : LocationAPI} (callbacks : LocationCallbacks)
    (hne : other ≠ client) : Untouched a (a.saveClient other callbacks) client where
  sessions := fun _ => rfl
  clients := by
    show (a.mClientData.insert other callbacks)[client]? = _
    rw [Std.TreeMap.getElem?_insert, if_neg (fun h => hne (Std.compare_eq_iff_eq.mp h))]
  responses := ⟨[], (List.append_nil _).symm, fun _ h => absurd h List.not_mem_nil⟩

/-- A removed client takes its own sessions along. -/
theorem untouched_removeClient (results : Nat → Int) {other : LocationAPI} (hne : other ≠ client) :
    Untouched a (a.procRemoveClient results other) client where
  sessions := fun id => by
    have hkey : (⟨client, id⟩ : LocationSessionKey) ∉
        a.mTrackingSessions.keys.filter (·.client == other) := by
      intro hmem
      exact hne (beq_iff_eq.mp (List.mem_filter.mp hmem).2).symm
    rw [isTrackingSession_eq, isTrackingSession_eq]
    exact congrArg Option.isSome (stops_other results a hkey)
  clients := by
    have hstops := stops_tables results a (a.mTrackingSessions.keys.filter (·.client == other))
    show ((a.stopClientSessions results other).mClientData.erase other)[client]? = _
    rw [Std.TreeMap.getElem?_erase, if_neg (fun h => hne (Std.compare_eq_iff_eq.mp h))]
    exact congrArg (·[client]?) hstops.1
  responses := by
    have hstops := stops_tables results a (a.mTrackingSessions.keys.filter (·.client == other))
    exact ⟨[], hstops.2.trans (List.append_nil _).symm, fun _ h => absurd h List.not_mem_nil⟩

theorem untouched_engineRestart (results : Nat → Int) (a : GnssAdapter) (client : LocationAPI) :
    Untouched a (a.engineRestart results) client := by
  simp only [engineRestart, restartSessions]
  split <;> exact ⟨fun _ => rfl, rfl, [], (List.append_nil _).symm,
    fun _ h => absurd h List.not_mem_nil⟩

/-- No message of another client does anything to a client. -/
theorem proc_untouched (results : Nat → Int) {msg : GnssMsg} (h : clientOf msg ≠ some client) :
    Untouched a (a.proc results msg) client := by
  cases msg with
  | addClient other callbacks => exact untouched_addClient callbacks fun heq => h (heq ▸ rfl)
  | removeClient other => exact untouched_removeClient results fun heq => h (heq ▸ rfl)
  | startTracking other sessionId o =>
    obtain ⟨err, ha⟩ := start_answered results a other sessionId o
    exact ha.untouched fun heq => h (heq ▸ rfl)
  | updateTracking other sessionId o =>
    cases htracked : a.isTrackingSession other sessionId with
    | false =>
      rw [proc, update_silent results o htracked]
      exact Untouched.refl a client
    | true =>
      obtain ⟨err, ha⟩ := update_answered results o htracked
      exact ha.untouched fun heq => h (heq ▸ rfl)
  | stopTracking other sessionId =>
    cases htracked : a.isTrackingSession other sessionId with
    | false =>
      rw [proc, stop_silent results htracked]
      exact Untouched.refl a client
    | true =>
      obtain ⟨err, ha⟩ := stop_answered results htracked
      exact ha.untouched fun heq => h (heq ▸ rfl)
  | engineRestart => exact untouched_engineRestart results a client

end

end DeviceHal.Gnss.TrackingAnswers
