import DeviceHal.Lib.Run
import DeviceHal.Gnss.ConfigUpdate
import Mathlib.Tactic

/-! # The SUPL server

`setSuplHostServer` formats a URL into a buffer of `MAX_URL_LEN` bytes and
compares it with the one it stored last. A new URL is stored and then handed to
the engine with the length that `snprintf` returned. The stored URL is therefore
the last one handed over, whether the engine took it or not, and the length is
that of the URL before it was cut. -/
namespace DeviceHal.Gnss.SuplServer
open DeviceHal.Lib.Run DeviceHal.Lib.CText DeviceHal.Gnss.LocationTypes
open DeviceHal.Gnss.ConfigUpdate
open LocationError

/-- A host and a port, with what `LocApi::setServer` returns if it is called. -/
structure Request where
  host : Bytes
  port : Int32
  result : LocationError
  /-- A host is a C string. -/
  host_text : 0 ∉ host
  port_pos : 0 < port

namespace Request

/-- The URL in the buffer and its length before it was cut. -/
def url (q : Request) : Option (Bytes × Nat) := ConfigAdapter.serverUrl (some q.host) q.port

def api (q : Request) : Api := ⟨fun _ => q.result, fun _ => none, 0⟩

/-- Both ask for the same host and port. -/
def SameAs (q r : Request) : Prop := q.host = r.host ∧ q.port = r.port

instance (q r : Request) : Decidable (q.SameAs r) := inferInstanceAs (Decidable (_ ∧ _))

theorem SameAs.url_eq {q r : Request} (h : q.SameAs r) : q.url = r.url := by
  rw [url, url, h.1, h.2]

end Request

/-- The code's comparison of two URLs. -/
def SameUrl (a b : Bytes) : Prop := strncasecmp a b MAX_URL_LEN = 0

instance (a b : Bytes) : Decidable (SameUrl a b) := inferInstanceAs (Decidable (_ = _))

/-! ## Requests one after the other -/

/-- The adapter, with the requests that called the engine, oldest first. -/
structure Server where
  adapter : ConfigAdapter
  asked : List Request

/-- The stored URL of an adapter that has called nothing. -/
def noUrl : Bytes := bytesOf [':']

def start (base : PowerVote.GnssAdapter) (conf : GpsConf) : Server :=
  ⟨⟨base, conf, noUrl, [], []⟩, []⟩

def step (s : Server) (q : Request) : Server :=
  let a := (s.adapter.setSuplHostServer q.api (some q.host) q.port).1
  ⟨a, if s.adapter.calls.length < a.calls.length then s.asked ++ [q] else s.asked⟩

def urlOf : EngineCall → Option Bytes
  | .setServerUrl url _ => some url
  | _ => none

/-- The URL that the engine was given last. -/
def lastSent (s : Server) : Bytes :=
  (s.adapter.calls.filterMap fun c => urlOf c.1).getLastD noUrl

/-- The URL that the engine took last. -/
def lastAccepted (s : Server) : Bytes :=
  ((s.adapter.calls.filter (·.2 = LOCATION_ERROR_SUCCESS)).filterMap fun c => urlOf c.1).getLastD
    noUrl

/-- The engine refused what it was given last. -/
def LastFailed (s : Server) : Prop :=
  ∃ c, s.adapter.calls.getLast? = some c ∧ c.2 ≠ LOCATION_ERROR_SUCCESS

/-- The engine was asked for the host and port, and refused them the last time. -/
def Refused (s : Server) (q : Request) : Prop :=
  ∃ r, (s.asked.filter (Request.SameAs q ·)).getLast? = some r ∧ r.result ≠ LOCATION_ERROR_SUCCESS

/-- The request calls the engine. -/
def Calls (s : Server) (q : Request) : Prop :=
  s.adapter.calls.length < (step s q).adapter.calls.length

instance (s : Server) (q : Request) : Decidable (Calls s q) := inferInstanceAs (Decidable (_ < _))

def LengthsRight (s : Server) : Prop :=
  ∀ url len err, (EngineCall.setServerUrl url len, err) ∈ s.adapter.calls → len = url.length

/-- The stored URL is the one accepted last, or the last call failed. -/
def CacheFollows (s : Server) : Prop := s.adapter.mServerUrl ≠ lastAccepted s → LastFailed s

structure Right (s : Server) (q : Request) : Prop where
  lengths : LengthsRight (step s q)
  retried : Refused s q → Calls s q
  cache : CacheFollows (step s q)

/-- A URL that is cut comes only if it is, once cut, the URL sent last, and a
refused one only if another was sent after it. -/
structure Allowed (s : Server) (q : Request) : Prop where
  cut : ∀ url len, q.url = some (url, len) → MAX_URL_LEN ≤ len → SameUrl (lastSent s) url
  other : Refused s q → ∀ url len, q.url = some (url, len) → ¬ SameUrl (lastSent s) url

/-! ## One request -/

section
variable {s : Server} {q : Request} {url : Bytes} {len : Nat}

/-- The stored URL is the one sent last. -/
structure Good (s : Server) : Prop where
  inject : s.adapter.mGps_conf.AGPS_CONFIG_INJECT ≠ 0
  stored : s.adapter.mServerUrl = lastSent s
  lengths : LengthsRight s
  cache : CacheFollows s
  /-- What was asked for has a URL. -/
  asked : ∀ r ∈ s.asked, r.url ≠ none

theorem length_serverUrl {server : Option Bytes} {port : Int32}
    (h : ConfigAdapter.serverUrl server port = some (url, len)) :
    url.length = min len (MAX_URL_LEN - 1) := by
  unfold ConfigAdapter.serverUrl at h
  cases server with
  | none =>
    obtain ⟨rfl, rfl⟩ : [] = url ∧ 0 = len := by simpa using h
    rfl
  | some server =>
    dsimp only at h
    by_cases hnone : server.headD 0 = 0 ∨
        strncasecmp (bytesOf ['N', 'O', 'N', 'E']) server
          ((bytesOf ['N', 'O', 'N', 'E']).length + 1) = 0
    · rw [if_pos hnone] at h
      obtain ⟨rfl, rfl⟩ : [] = url ∧ 0 = len := by simpa using h
      rfl
    · rw [if_neg hnone, Option.ite_none_right_eq_some, Option.ite_none_right_eq_some] at h
      obtain ⟨-, -, h⟩ := h
      cases h
      rw [List.length_take, Nat.min_comm]

theorem Request.length_url (h : q.url = some (url, len)) :
    url.length = len ↔ ¬ MAX_URL_LEN ≤ len := by
  have hlen := length_serverUrl h
  have hmax : MAX_URL_LEN = 256 := rfl
  omega

theorem step_of_idle (hinject : s.adapter.mGps_conf.AGPS_CONFIG_INJECT ≠ 0)
    (hidle : ∀ url len, q.url = some (url, len) → SameUrl s.adapter.mServerUrl url) :
    step s q = s := by
  have hsame : (s.adapter.setSuplHostServer q.api (some q.host) q.port).1 = s.adapter := by
    rw [ConfigAdapter.setSuplHostServer, if_pos hinject]
    cases hurl : ConfigAdapter.serverUrl (some q.host) q.port with
    | none => rfl
    | some u =>
      obtain ⟨url, len⟩ := u
      have hsame : strncasecmp s.adapter.mServerUrl url MAX_URL_LEN = 0 := hidle url len hurl
      simp only [hsame, ne_eq, not_true_eq_false, if_false]
  rw [step, hsame, if_neg (Nat.lt_irrefl _)]

/-- A request with a new URL. -/
theorem step_of_new (hinject : s.adapter.mGps_conf.AGPS_CONFIG_INJECT ≠ 0)
    (hurl : q.url = some (url, len)) (hnew : ¬ SameUrl s.adapter.mServerUrl url) :
    step s q = ⟨{ s.adapter with
      mServerUrl := url, calls := s.adapter.calls ++ [(.setServerUrl url len, q.result)] },
      s.asked ++ [q]⟩ := by
  have hcall : (s.adapter.setSuplHostServer q.api (some q.host) q.port).1 =
      { s.adapter with
        mServerUrl := url, calls := s.adapter.calls ++ [(.setServerUrl url len, q.result)] } := by
    rw [ConfigAdapter.setSuplHostServer, if_pos hinject]
    rw [show ConfigAdapter.serverUrl (some q.host) q.port = some (url, len) from hurl]
    dsimp only
    rw [if_pos (show strncasecmp s.adapter.mServerUrl url MAX_URL_LEN ≠ 0 from hnew)]
    rfl
  rw [step, hcall]
  simp

theorem not_calls_of_idle (hstep : step s q = s) : ¬ Calls s q := by
  rw [Calls, hstep]
  exact Nat.lt_irrefl _

theorem good_of_new (h : Good s) (hurl : q.url = some (url, len))
    (hnew : ¬ SameUrl s.adapter.mServerUrl url) (hlen : url.length = len) : Good (step s q) := by
  rw [step_of_new h.inject hurl hnew]
  constructor
  · exact h.inject
  · simp [lastSent, urlOf]
  · intro u l err hc
    rcases List.mem_append.mp hc with hc | hc
    · exact h.lengths u l err hc
    · obtain ⟨⟨rfl, rfl⟩, -⟩ : (u = url ∧ l = len) ∧ err = q.result := by
        simpa using List.mem_singleton.mp hc
      exact hlen.symm
  · intro hne
    by_cases hok : q.result = LOCATION_ERROR_SUCCESS
    · exact absurd (by simp [lastAccepted, urlOf, hok]) hne
    · exact ⟨_, List.getLast?_concat, hok⟩
  · intro r hr
    rcases List.mem_append.mp hr with hr | hr
    · exact h.asked r hr
    · rw [List.mem_singleton.mp hr, hurl]
      exact Option.some_ne_none _

theorem Refused.url_ne_none (h : Good s) (hr : Refused s q) : q.url ≠ none := by
  obtain ⟨r, hlast, -⟩ := hr
  have hmem := List.mem_filter.mp (List.mem_of_getLast? hlast)
  rw [Request.SameAs.url_eq (of_decide_eq_true hmem.2)]
  exact h.asked r hmem.1

theorem right_iff (h : Good s) : Right s q ↔ Allowed s q := by
  by_cases hidle : ∀ url len, q.url = some (url, len) → SameUrl s.adapter.mServerUrl url
  · have hstep := step_of_idle h.inject hidle
    rw [h.stored] at hidle
    constructor
    · intro hright
      refine ⟨fun url len hurl _ => hidle url len hurl, fun hr => ?_⟩
      exact absurd (hright.retried hr) (not_calls_of_idle hstep)
    · intro hallowed
      refine ⟨by rw [hstep]; exact h.lengths, fun hr => ?_, by rw [hstep]; exact h.cache⟩
      obtain ⟨u, hurl⟩ := Option.ne_none_iff_exists'.mp (hr.url_ne_none h)
      exact absurd (hidle u.1 u.2 hurl) (hallowed.other hr u.1 u.2 hurl)
  · push Not at hidle
    obtain ⟨url, len, hurl, hnew⟩ := hidle
    have hstep := step_of_new h.inject hurl hnew
    constructor
    · intro hright
      have hlen : len = url.length := hright.lengths url len q.result (by rw [hstep]; simp)
      constructor
      · intro u l hu hcut
        obtain ⟨rfl, rfl⟩ : url = u ∧ len = l := by simpa [hurl] using hu
        exact absurd hcut ((Request.length_url hurl).mp hlen.symm)
      · intro _ u l hu
        obtain ⟨rfl, rfl⟩ : url = u ∧ len = l := by simpa [hurl] using hu
        rw [← h.stored]
        exact hnew
    · intro hallowed
      have hfits : ¬ MAX_URL_LEN ≤ len := fun hcut =>
        hnew (h.stored ▸ hallowed.cut url len hurl hcut)
      have hgood := good_of_new h hurl hnew ((Request.length_url hurl).mpr hfits)
      refine ⟨hgood.lengths, fun _ => ?_, hgood.cache⟩
      rw [Calls, hstep, List.length_append]
      exact Nat.lt_succ_self _

theorem good_step (h : Good s) (hright : Right s q) : Good (step s q) := by
  by_cases hidle : ∀ url len, q.url = some (url, len) → SameUrl s.adapter.mServerUrl url
  · rw [step_of_idle h.inject hidle]
    exact h
  · push Not at hidle
    obtain ⟨url, len, hurl, hnew⟩ := hidle
    refine good_of_new h hurl hnew (hright.lengths url len q.result ?_).symm
    rw [step_of_new h.inject hurl hnew]
    simp

end

/-! ## Runs -/

theorem good_start {base : PowerVote.GnssAdapter} {conf : GpsConf}
    (hinject : conf.AGPS_CONFIG_INJECT ≠ 0) : Good (start base conf) where
  inject := hinject
  stored := rfl
  lengths := fun _ _ _ hc => (by cases hc)
  cache := fun hne => absurd rfl hne
  asked := fun _ hr => (by cases hr)

/-- **Server settings.** Every call has the length of its URL, a refused request
that is repeated calls the engine again, and the stored URL is the accepted one
unless the last call failed, in exactly the runs in which a URL too long for the
buffer comes only if its beginning was sent last, and a refused one only if
another was sent after it. -/
theorem servers_right_iff (base : PowerVote.GnssAdapter) (conf : GpsConf)
    (hinject : conf.AGPS_CONFIG_INJECT ≠ 0) (qs : List Request) :
    Steps step Right (start base conf) qs ↔ Steps step Allowed (start base conf) qs :=
  steps_iff_guard (I := Good) (A := fun _ _ => True) (fun _ _ h _ => right_iff h)
    (fun _ _ h _ hright => good_step h hright) (good_start hinject)
    (steps_of_forall (fun _ _ => trivial) _ qs)

/-- A configuration that lets the server be set. -/
def exampleConf : GpsConf := ⟨0x00010000, 0, 0, 0, 0, 0, 0, 1, 0, 0⟩

/-- A request for `h:7275`. -/
def shortRequest (result : LocationError) : Request :=
  ⟨bytesOf ['h'], 7275, result, by decide, by decide⟩

def longRequest : Request :=
  ⟨List.replicate 300 104, 7275, LOCATION_ERROR_SUCCESS,
    fun h => absurd (List.eq_of_mem_replicate h) (by decide), by decide⟩

/-- A request for `i:7275`. -/
def otherRequest : Request :=
  ⟨bytesOf ['i'], 7275, LOCATION_ERROR_SUCCESS, by decide, by decide⟩

/-- A request that is refused, one for another server, and the first one again. -/
theorem servers_right_retried : Steps step Right (start (.start 0) exampleConf)
    [shortRequest LOCATION_ERROR_GENERAL_FAILURE, otherRequest,
      shortRequest LOCATION_ERROR_SUCCESS] := by
  refine (servers_right_iff (.start 0) exampleConf (by decide) _).mpr
    ⟨⟨fun url len hurl hcut => ?_, fun hr => ?_⟩, ⟨fun url len hurl hcut => ?_, fun hr => ?_⟩,
      ⟨fun url len hurl hcut => ?_, fun _ url len hurl => ?_⟩, trivial⟩
  · cases hurl
    exact absurd hcut (by decide)
  · obtain ⟨r, hlast, -⟩ := hr
    cases hlast
  · cases hurl
    exact absurd hcut (by decide)
  · obtain ⟨r, hlast, -⟩ := hr
    cases hlast
  · cases hurl
    exact absurd hcut (by decide)
  · cases hurl
    decide

/-- A refused request that is repeated does not call the engine, and a URL that
does not fit the buffer comes with the length it would have had. -/
theorem refused_server_not_retried :
    ¬ Steps step Right (start (.start 0) exampleConf)
      [shortRequest LOCATION_ERROR_GENERAL_FAILURE, shortRequest LOCATION_ERROR_SUCCESS] ∧
    ¬ Right (start (.start 0) exampleConf) longRequest := by
  constructor
  · intro hsteps
    obtain ⟨-, hright, -⟩ := hsteps
    have hrefused : Refused (step (start (.start 0) exampleConf)
        (shortRequest LOCATION_ERROR_GENERAL_FAILURE)) (shortRequest LOCATION_ERROR_SUCCESS) :=
      ⟨shortRequest LOCATION_ERROR_GENERAL_FAILURE, rfl, by decide⟩
    exact absurd (hright.retried hrefused) (by decide)
  · intro hright
    have hcut : longRequest.url.any
        (fun u => MAX_URL_LEN ≤ u.2 ∧ ¬ SameUrl noUrl u.1) = true := by decide +kernel
    obtain ⟨u, hurl, hu⟩ := (Option.any_eq_true _ _).mp hcut
    obtain ⟨hlong, hnew⟩ := of_decide_eq_true hu
    exact hnew (((right_iff (good_start (by decide))).mp hright).cut u.1 u.2 hurl hlong)

end DeviceHal.Gnss.SuplServer
