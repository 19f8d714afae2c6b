import DeviceHal.Gnss.TrackingRuns

/-! # Sessions and their clients

With an engine that may refuse any call: every session belongs to a known
client, and a message that reports an error leaves the sessions as they were.
A client that is removed takes its sessions along only if the engine accepts
every call made on the way. -/
namespace DeviceHal.Gnss.TrackingClients
open DeviceHal.Lib.Run DeviceHal.Lib.LeastDemand
open DeviceHal.Gnss.LocationTypes DeviceHal.Gnss.TrackingSessions
open DeviceHal.Gnss.TrackingSessions.GnssAdapter DeviceHal.Gnss.TrackingMultiplex
open DeviceHal.Gnss.TrackingEngine DeviceHal.Gnss.TrackingRuns
open LocationError GnssSuplMode

/-- Every session's client is known. -/
def Owned (a : GnssAdapter) : Prop :=
  ∀ (key : LocationSessionKey) (o : LocationOptions),
    a.mTrackingSessions[key]? = some o → key.client ∈ a.mClientData

/-- What holds after one message. -/
structure Orderly (results : Nat → Int) (a : GnssAdapter) (msg : GnssMsg) : Prop where
  owned : Owned (a.proc results msg)
  /-- An error that the message reports means that no session changed. -/
  errors : ∀ r ∈ (a.proc results msg).responses.drop a.responses.length,
    r.err ≠ LOCATION_ERROR_SUCCESS →
    (a.proc results msg).mTrackingSessions = a.mTrackingSessions

/-- The engine accepts every call that the removal of a client makes. -/
def RemovalAccepted (results : Nat → Int) (a : GnssAdapter) : GnssMsg → Prop
  | .removeClient client =>
    ∀ n, a.mLocApi.calls.length ≤ n →
      n < (a.stopClientSessions results client).mLocApi.calls.length →
      results n = LOC_API_ADAPTER_ERR_SUCCESS
  | _ => True

section
variable (results : Nat → Int) (a : GnssAdapter)

/-! ## What the multiplexing leaves alone -/

/-- Sessions, clients and responses are those of before. -/
structure SameTables (a a' : GnssAdapter) : Prop where
  sessions : a'.mTrackingSessions = a.mTrackingSessions
  clients : a'.mClientData = a.mClientData
  responses : a'.responses = a.responses

theorem SameTables.refl : SameTables a a := ⟨rfl, rfl, rfl⟩

theorem startTracking_same (o : LocationOptions) :
    SameTables a (a.startTracking results o).1 := ⟨rfl, rfl, rfl⟩

theorem stopTracking_same : SameTables a (a.stopTracking results).1 := ⟨rfl, rfl, rfl⟩

theorem startMultiplex_same (o : LocationOptions) :
    SameTables a (a.startTrackingMultiplex results o).1 := by
  unfold startTrackingMultiplex
  split
  · exact startTracking_same results a o
  · split
    · exact startTracking_same results a o
    · exact SameTables.refl a

theorem updateMultiplex_same (client : LocationAPI) (sessionId : Nat) (o : LocationOptions) :
    SameTables a (a.updateTrackingMultiplex results client sessionId o).1 := by
  unfold updateTrackingMultiplex
  split
  · exact startTracking_same results a o
  · split
    · exact SameTables.refl a
    · dsimp only
      split
      · exact startTracking_same results a o
      · split
        · exact startTracking_same results a _
        · exact SameTables.refl a

theorem stopMultiplex_same (client : LocationAPI) (sessionId : Nat) :
    SameTables a (a.stopTrackingMultiplex results client sessionId).1 := by
  unfold stopTrackingMultiplex
  split
  · exact stopTracking_same results a
  · split
    · exact SameTables.refl a
    · dsimp only
      split
      · exact startTracking_same results a _
      · exact SameTables.refl a

/-! ## The removal of a client -/

/-- A stop makes one engine call and fails with it, or makes none. -/
theorem stopMultiplex_calls (client : LocationAPI) (sessionId : Nat) :
    ((a.stopTrackingMultiplex results client sessionId).1.mLocApi.calls = a.mLocApi.calls ∧
      (a.stopTrackingMultiplex results client sessionId).2 = LOCATION_ERROR_SUCCESS) ∨
    ((a.stopTrackingMultiplex results client sessionId).1.mLocApi.calls.length =
        a.mLocApi.calls.length + 1 ∧
      ((a.stopTrackingMultiplex results client sessionId).2 = LOCATION_ERROR_SUCCESS ↔
        results a.mLocApi.calls.length = LOC_API_ADAPTER_ERR_SUCCESS)) := by
  have hstart : ∀ o, (a.startTracking results o).1.mLocApi.calls.length =
        a.mLocApi.calls.length + 1 ∧
      ((a.startTracking results o).2 = LOCATION_ERROR_SUCCESS ↔
        results a.mLocApi.calls.length = LOC_API_ADAPTER_ERR_SUCCESS) := by
    intro o
    simp [startTracking, LocApi.startFix, UlpProxyBase.sendStartFix, UlpProxyBase.sendFixMode]
  unfold stopTrackingMultiplex
  split
  · right
    simp [stopTracking, LocApi.stopFix, UlpProxyBase.sendStopFix]
  · split
    · exact Or.inl ⟨rfl, rfl⟩
    · dsimp only
      split
      · exact Or.inr (hstart _)
      · exact Or.inl ⟨rfl, rfl⟩

/-- Stopping one session erases it if no call fails, and else changes nothing. -/
theorem stopSession_spec (key : LocationSessionKey) :
    (a.stopSession results key).mLocApi.calls =
        (a.stopTrackingMultiplex results key.client key.id).1.mLocApi.calls ∧
      (a.stopSession results key).mClientData = a.mClientData ∧
      (a.stopSession results key).responses = a.responses ∧
      options (a.stopSession results key) =
        if (a.stopTrackingMultiplex results key.client key.id).2 = LOCATION_ERROR_SUCCESS
        then Function.update (options a) key none else options a := by
  obtain ⟨hs, hc, hr⟩ := stopMultiplex_same results a key.client key.id
  have hopt : options (a.stopTrackingMultiplex results key.client key.id).1 = options a := by
    funext k
    rw [options, options, hs]
  unfold stopSession
  dsimp only
  split
  · exact ⟨rfl, hc, hr, by rw [options_erase, hopt]⟩
  · exact ⟨rfl, hc, hr, hopt⟩

theorem stopSession_length_le (key : LocationSessionKey) :
    a.mLocApi.calls.length ≤ (a.stopSession results key).mLocApi.calls.length := by
  rw [(stopSession_spec results a key).1]
  rcases stopMultiplex_calls results a key.client key.id with ⟨hc, -⟩ | ⟨hc, -⟩
  · rw [hc]
  · omega

theorem stops_length_le (keys : List LocationSessionKey) :
    a.mLocApi.calls.length ≤ (run (stopSession results) a keys).mLocApi.calls.length := by
  induction keys generalizing a with
  | nil => exact le_rfl
  | cons key rest ih => exact (stopSession_length_le results a key).trans (ih _)

/-- A session outside the list is not touched. -/
theorem stops_other {keys : List LocationSessionKey} {k : LocationSessionKey} (hk : k ∉ keys) :
    options (run (stopSession results) a keys) k = options a k := by
  induction keys generalizing a with
  | nil => rfl
  | cons key rest ih =>
    rw [List.mem_cons, not_or] at hk
    rw [run_cons, ih _ hk.2, (stopSession_spec results a key).2.2.2]
    split
    · rw [Function.update_of_ne hk.1]
    · rfl

theorem stops_tables (keys : List LocationSessionKey) :
    (run (stopSession results) a keys).mClientData = a.mClientData ∧
      (run (stopSession results) a keys).responses = a.responses := by
  induction keys generalizing a with
  | nil => exact ⟨rfl, rfl⟩
  | cons key rest ih =>
    obtain ⟨-, hc, hr, -⟩ := stopSession_spec results a key
    rw [run_cons, (ih _).1, (ih _).2]
    exact ⟨hc, hr⟩

/-- All the sessions go exactly if no engine call on the way fails. -/
theorem stops_all_iff (keys : List LocationSessionKey) (hnd : keys.Nodup)
    (hin : ∀ key ∈ keys, ∃ o, options a key = some o) :
    (∀ key ∈ keys, options (run (stopSession results) a keys) key = none) ↔
      ∀ n, a.mLocApi.calls.length ≤ n →
        n < (run (stopSession results) a keys).mLocApi.calls.length →
        results n = LOC_API_ADAPTER_ERR_SUCCESS := by
  induction keys generalizing a with
  | nil =>
    refine iff_of_true (fun _ hk => (List.not_mem_nil hk).elim) fun n h1 h2 => ?_
    rw [run_nil] at h2
    omega
  | cons key rest ih =>
    obtain ⟨hkey, hrest⟩ := List.nodup_cons.mp hnd
    obtain ⟨o, ho⟩ := hin key List.mem_cons_self
    obtain ⟨hcalls, -, -, hopt⟩ := stopSession_spec results a key
    have hin' : ∀ k ∈ rest, ∃ o, options (a.stopSession results key) k = some o := by
      intro k hk
      obtain ⟨o', ho'⟩ := hin k (List.mem_cons_of_mem _ hk)
      have hne : k ≠ key := by
        rintro rfl
        exact hkey hk
      refine ⟨o', ?_⟩
      rw [hopt]
      split
      · rw [Function.update_of_ne hne, ho']
      · exact ho'
    have hlen := stops_length_le results (a.stopSession results key) rest
    have hih := ih (a.stopSession results key) hrest hin'
    have hfirst := stops_other results (a.stopSession results key) hkey
    rw [hopt] at hfirst
    simp only [run_cons, List.forall_mem_cons]
    rw [hih, hfirst]
    rcases stopMultiplex_calls results a key.client key.id with ⟨hc, herr⟩ | ⟨hc, herr⟩
    · rw [if_pos herr, Function.update_self, hcalls, hc]
      exact and_iff_right rfl
    · by_cases hres : results a.mLocApi.calls.length = LOC_API_ADAPTER_ERR_SUCCESS
      · rw [if_pos (herr.mpr hres), Function.update_self]
        constructor
        · rintro ⟨-, hall⟩ n h1 h2
          rcases h1.eq_or_lt with rfl | h1
          · exact hres
          · exact hall n (by rw [hcalls, hc]; omega) h2
        · exact fun hall => ⟨rfl, fun n h1 h2 => hall n (by rw [hcalls, hc] at h1; omega) h2⟩
      · rw [if_neg (fun h => hres (herr.mp h)), ho]
        refine iff_of_false (fun h => by cases h.1) fun hall => hres (hall _ le_rfl ?_)
        rw [hcalls, hc] at hlen
        omega

end

/-! ## Messages -/

section
variable {results : Nat → Int} {a : GnssAdapter}

theorem mem_clients_of_callback {client : LocationAPI} {p : LocationCallbacks → Bool}
    (h : a.mClientData[client]?.any p = true) : client ∈ a.mClientData := by
  rw [Std.TreeMap.mem_iff_isSome_getElem?]
  cases hc : a.mClientData[client]? with
  | none => rw [hc] at h; cases h
  | some callbacks => rfl

/-- A message that keeps the clients and brings sessions of known clients only. -/
theorem owned_of_clients {a' : GnssAdapter} (h : Owned a) (hc : a'.mClientData = a.mClientData)
    (hs : ∀ key o, options a' key = some o →
      key.client ∈ a.mClientData ∨ options a key = some o) : Owned a' := by
  intro key o hk
  rw [hc]
  exact (hs key o hk).elim id (h key o)

theorem owned_save {a' : GnssAdapter} (h : Owned a) (hsame : SameTables a a')
    {client : LocationAPI} (hc : client ∈ a.mClientData) (sessionId : Nat) (o : LocationOptions) :
    Owned (a'.saveTrackingSession client sessionId o) := by
  refine owned_of_clients h hsame.clients fun key o' hk => ?_
  rw [options_save] at hk
  rcases update_entry_iff.mp hk with ⟨rfl, -⟩ | ⟨-, hk⟩
  · exact Or.inl hc
  · rw [options, hsame.sessions] at hk
    exact Or.inr hk

theorem owned_erase {a' : GnssAdapter} (h : Owned a) (hsame : SameTables a a')
    (client : LocationAPI) (sessionId : Nat) :
    Owned (a'.eraseTrackingSession client sessionId) := by
  refine owned_of_clients h hsame.clients fun key o' hk => ?_
  rw [options_erase] at hk
  rcases update_entry_iff.mp hk with ⟨-, hno⟩ | ⟨-, hk⟩
  · cases hno
  · rw [options, hsame.sessions] at hk
    exact Or.inr hk

theorem owned_same {a' : GnssAdapter} (h : Owned a) (hsame : SameTables a a') : Owned a' :=
  owned_of_clients h hsame.clients fun key o hk => by
    rw [options, hsame.sessions] at hk
    exact Or.inr hk

/-- A message that reports one error code, and changed the sessions only if
that is success. -/
theorem orderly_of_report {a' : GnssAdapter} {msg : GnssMsg} {client : LocationAPI}
    {err : LocationError} {sessionId : Nat}
    (hm : a.proc results msg = a'.reportResponse client err sessionId) (ho : Owned a')
    (hr : a'.responses = a.responses)
    (hs : err ≠ LOCATION_ERROR_SUCCESS → a'.mTrackingSessions = a.mTrackingSessions) :
    Orderly results a msg := by
  refine ⟨by rw [hm]; exact ho, fun r hmem hne => ?_⟩
  rw [hm] at hmem ⊢
  simp only [reportResponse, hr, List.drop_left, List.mem_singleton] at hmem
  rw [hmem] at hne
  exact hs hne

theorem errors_of_silent {msg : GnssMsg} (hr : (a.proc results msg).responses = a.responses) :
    ∀ r ∈ (a.proc results msg).responses.drop a.responses.length,
      r.err ≠ LOCATION_ERROR_SUCCESS →
      (a.proc results msg).mTrackingSessions = a.mTrackingSessions := by
  intro r hmem
  rw [hr, List.drop_length] at hmem
  cases hmem

theorem startTracking_orderly (h : Owned a) (client : LocationAPI) (sessionId : Nat)
    (o : LocationOptions) : Orderly results a (.startTracking client sessionId o) := by
  by_cases hcb : (!a.hasTrackingCallback client && !a.hasMeasurementsCallback client) = true
  · have hm : a.proc results (.startTracking client sessionId o) =
        a.reportResponse client LOCATION_ERROR_CALLBACK_MISSING sessionId := by
      simp only [proc, procStartTracking, hcb, if_true]
    exact orderly_of_report hm h rfl fun _ => rfl
  · have hclient : client ∈ a.mClientData := by
      cases ht : a.hasTrackingCallback client with
      | true => exact mem_clients_of_callback ht
      | false =>
        rw [ht, Bool.not_false, Bool.true_and, Bool.not_eq_true, Bool.not_eq_false'] at hcb
        exact mem_clients_of_callback hcb
    rw [Bool.not_eq_true] at hcb
    by_cases ho : o.size = 0
    · have hm : a.proc results (.startTracking client sessionId o) =
          a.reportResponse client LOCATION_ERROR_INVALID_PARAMETER sessionId := by
        simp only [proc, procStartTracking, hcb, Bool.false_eq_true, if_false, ho, if_true]
      exact orderly_of_report hm h rfl fun _ => rfl
    · have hm : a.proc results (.startTracking client sessionId o) =
          (if (a.startTrackingMultiplex results o).2 = LOCATION_ERROR_SUCCESS
            then (a.startTrackingMultiplex results o).1.saveTrackingSession client sessionId o
            else (a.startTrackingMultiplex results o).1).reportResponse client
            (a.startTrackingMultiplex results o).2 sessionId := by
        simp only [proc, procStartTracking, hcb, Bool.false_eq_true, if_false, ho]
      have hsame := startMultiplex_same results a o
      by_cases herr : (a.startTrackingMultiplex results o).2 = LOCATION_ERROR_SUCCESS
      · rw [if_pos herr] at hm
        exact orderly_of_report hm (owned_save h hsame hclient sessionId o) hsame.responses
          fun hne => absurd herr hne
      · rw [if_neg herr] at hm
        exact orderly_of_report hm (owned_same h hsame) hsame.responses fun _ => hsame.sessions

theorem updateTracking_orderly (h : Owned a) (client : LocationAPI) (sessionId : Nat)
    (o : LocationOptions) : Orderly results a (.updateTracking client sessionId o) := by
  cases hin : a.isTrackingSession client sessionId with
  | false =>
    have hm : a.proc results (.updateTracking client sessionId o) = a := by
      simp only [proc, procUpdateTracking, hin, Bool.false_eq_true, if_false]
    exact ⟨by rw [hm]; exact h, errors_of_silent (by rw [hm])⟩
  | true =>
    obtain ⟨old, hold⟩ := Option.isSome_iff_exists.mp
      (Std.TreeMap.contains_eq_isSome_getElem?.symm.trans hin)
    have hclient : client ∈ a.mClientData := h ⟨client, sessionId⟩ old hold
    by_cases ho : o.size = 0
    · have hm : a.proc results (.updateTracking client sessionId o) =
          a.reportResponse client LOCATION_ERROR_INVALID_PARAMETER sessionId := by
        simp only [proc, procUpdateTracking, hin, if_true, ho]
      exact orderly_of_report hm h rfl fun _ => rfl
    · have hm : a.proc results (.updateTracking client sessionId o) =
          (if (a.updateTrackingMultiplex results client sessionId o).2 = LOCATION_ERROR_SUCCESS
            then (a.updateTrackingMultiplex results client sessionId o).1.saveTrackingSession
              client sessionId o
            else (a.updateTrackingMultiplex results client sessionId o).1).reportResponse client
            (a.updateTrackingMultiplex results client sessionId o).2 sessionId := by
        simp only [proc, procUpdateTracking, hin, if_true, ho, if_false]
      have hsame := updateMultiplex_same results a client sessionId o
      by_cases herr : (a.updateTrackingMultiplex results client sessionId o).2 =
          LOCATION_ERROR_SUCCESS
      · rw [if_pos herr] at hm
        exact orderly_of_report hm (owned_save h hsame hclient sessionId o) hsame.responses
          fun hne => absurd herr hne
      · rw [if_neg herr] at hm
        exact orderly_of_report hm (owned_same h hsame) hsame.responses fun _ => hsame.sessions

theorem stopTracking_orderly (h : Owned a) (client : LocationAPI) (sessionId : Nat) :
    Orderly results a (.stopTracking client sessionId) := by
  cases hin : a.isTrackingSession client sessionId with
  | false =>
    have hm : a.proc results (.stopTracking client sessionId) = a := by
      simp only [proc, procStopTracking, hin, Bool.false_eq_true, if_false]
    exact ⟨by rw [hm]; exact h, errors_of_silent (by rw [hm])⟩
  | true =>
    have hm : a.proc results (.stopTracking client sessionId) =
        (if (a.stopTrackingMultiplex results client sessionId).2 = LOCATION_ERROR_SUCCESS
          then (a.stopTrackingMultiplex results client sessionId).1.eraseTrackingSession
            client sessionId
          else (a.stopTrackingMultiplex results client sessionId).1).reportResponse client
          (a.stopTrackingMultiplex results client sessionId).2 sessionId := by
      simp only [proc, procStopTracking, hin, if_true]
    have hsame := stopMultiplex_same results a client sessionId
    by_cases herr : (a.stopTrackingMultiplex results client sessionId).2 = LOCATION_ERROR_SUCCESS
    · rw [if_pos herr] at hm
      exact orderly_of_report hm (owned_erase h hsame client sessionId) hsame.responses
        fun hne => absurd herr hne
    · rw [if_neg herr] at hm
      exact orderly_of_report hm (owned_same h hsame) hsame.responses fun _ => hsame.sessions

/-- A removed client leaves no session behind exactly if the engine accepts
every call. -/
theorem removeClient_orderly_iff (h : Owned a) (client : LocationAPI) :
    Orderly results a (.removeClient client) ↔
      RemovalAccepted results a (.removeClient client) := by
  let keys := a.mTrackingSessions.keys.filter (·.client == client)
  have hkeys : ∀ key, key ∈ keys ↔ (∃ o, options a key = some o) ∧ key.client = client := by
    intro key
    rw [List.mem_filter, mem_keys_iff, beq_iff_eq]
  have hstops : a.stopClientSessions results client = run (stopSession results) a keys := rfl
  obtain ⟨hclients, hresp⟩ := stops_tables results a keys
  have herase : (a.proc results (.removeClient client)).mClientData =
      a.mClientData.erase client := by
    rw [← hclients]
    rfl
  have hiff := stops_all_iff results a keys (Std.TreeMap.nodup_keys.filter _)
    fun key hk => ((hkeys key).mp hk).1
  have howned : Owned (a.proc results (.removeClient client)) ↔
      ∀ key ∈ keys, options (run (stopSession results) a keys) key = none := by
    constructor
    · intro ho key hk
      cases hs : options (run (stopSession results) a keys) key with
      | none => rfl
      | some o =>
        have hmem := ho key o hs
        rw [herase, Std.TreeMap.mem_erase, ((hkeys key).mp hk).2] at hmem
        exact absurd (Std.compare_eq_iff_eq.mpr rfl) hmem.1
    · intro hnone key o hk
      have hk' : options (run (stopSession results) a keys) key = some o := hk
      have hnk : key ∉ keys := by
        intro hin
        rw [hnone key hin] at hk'
        cases hk'
      rw [stops_other results a hnk] at hk'
      have hne : key.client ≠ client := fun he => hnk ((hkeys key).mpr ⟨⟨o, hk'⟩, he⟩)
      rw [herase, Std.TreeMap.mem_erase, ne_eq, Std.compare_eq_iff_eq]
      exact ⟨Ne.symm hne, h key o hk'⟩
  rw [RemovalAccepted, hstops, ← hiff, ← howned]
  exact ⟨Orderly.owned, fun ho => ⟨ho, errors_of_silent hresp⟩⟩

theorem orderly_iff (h : Owned a) (msg : GnssMsg) :
    Orderly results a msg ↔ RemovalAccepted results a msg := by
  cases msg with
  | removeClient client => exact removeClient_orderly_iff h client
  | addClient client callbacks =>
    refine iff_of_true ⟨fun key o hk => ?_, errors_of_silent rfl⟩ trivial
    exact Std.TreeMap.mem_insert.mpr (Or.inr (h key o hk))
  | startTracking client sessionId o =>
    exact iff_of_true (startTracking_orderly h client sessionId o) trivial
  | updateTracking client sessionId o =>
    exact iff_of_true (updateTracking_orderly h client sessionId o) trivial
  | stopTracking client sessionId =>
    exact iff_of_true (stopTracking_orderly h client sessionId) trivial
  | engineRestart =>
    have hsame : SameTables a (a.proc results .engineRestart) := by
      simp only [proc, engineRestart, restartSessions]
      split <;> exact ⟨rfl, rfl, rfl⟩
    exact iff_of_true ⟨owned_same h hsame, errors_of_silent hsame.responses⟩ trivial

end

theorem owned_new (nmeaMask : UInt32) (status odcpi : Bool) (externalDr : Nat) :
    Owned (.new nmeaMask status odcpi externalDr) := by
  intro key o hk
  have hnone : (GnssAdapter.new nmeaMask status odcpi externalDr).mTrackingSessions[key]? = none :=
    Std.TreeMap.getElem?_emptyc
  rw [hnone] at hk
  cases hk

/-- **Sessions belong to clients exactly while removals are accepted.** For any
answers of the engine, every message of a run leaves only sessions of known
clients and changes no session when it reports an error, if and only if the
engine accepts every call made while a client is removed. -/
theorem sessions_orderly_iff (results : Nat → Int) (nmeaMask : UInt32) (status odcpi : Bool)
    (externalDr : Nat) (msgs : List GnssMsg) :
    Steps (proc results) (Orderly results) (.new nmeaMask status odcpi externalDr) msgs ↔
      Steps (proc results) (RemovalAccepted results) (.new nmeaMask status odcpi externalDr) msgs :=
  steps_iff_guard (I := Owned) (A := fun _ _ => True) (fun _ msg h _ => orderly_iff h msg)
    (fun _ _ _ _ hq => hq.owned) (owned_new nmeaMask status odcpi externalDr)
    (steps_of_forall (fun _ _ => trivial) _ _)

/-- An engine that accepts its first call and no other. -/
def acceptsOne (n : Nat) : Int := if n = 0 then LOC_API_ADAPTER_ERR_SUCCESS else 1

/-- The engine refuses to stop for a client that is removed. -/
theorem refused_removal_leaves_session :
    ¬ Steps (proc acceptsOne) (Orderly acceptsOne) (.new 0 false false 0)
      [.addClient 1 tracker, .startTracking 1 1 ⟨24, 1000, 0, GNSS_SUPL_MODE_MSB⟩,
        .removeClient 1] := by
  intro hh
  obtain ⟨-, -, h, -⟩ := hh
  have hmem := h.owned ⟨1, 1⟩ ⟨24, 1000, 0, GNSS_SUPL_MODE_MSB⟩ (by decide)
  revert hmem
  decide

end DeviceHal.Gnss.TrackingClients
