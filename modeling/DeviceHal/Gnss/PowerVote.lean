import DeviceHal.Lib.Run
import DeviceHal.Gnss.LocationTypes
import Mathlib.Tactic

/-! # Modem power vote

`enableCommand` and `disableCommand` of `gnss/GnssAdapter.cpp`. The calling
thread posts a message and votes; the message accepts or rejects the request
when it is processed. The abstract session takes each request at once, and the
adapter agrees with it whenever no message is left. -/
namespace DeviceHal.Gnss.PowerVote
open DeviceHal.Lib.Run DeviceHal.Gnss.LocationTypes
open LocationError GnssConfigGpsLock

/-! ## The adapter -/

/-- Calls on the context, the engine, the observer of the lock and the control
client. -/
inductive AdapterCall where
  | modemPowerVote (power : Bool)
  | setGpsLock (lock : GnssConfigGpsLock)
  | updateLockStatus (lock : UInt32)
  | reportResponse (err : LocationError) (sessionId : UInt32)
deriving DecidableEq

inductive PowerMsg where
  | MsgEnableGnss (mSessionId : UInt32) (mTechType : LocationTechnologyType)
  | MsgDisableGnss (mSessionId : UInt32)
deriving DecidableEq

structure GnssAdapter where
  /-- Whether `mContext` is not NULL. -/
  mContext : Bool
  mSessionIdCounter : UInt32
  mPowerVoteId : UInt32
  /-- `ContextBase::mGps_conf.GPS_LOCK`. -/
  GPS_LOCK : UInt32
  /-- The posted messages, the next one first. -/
  mMsgTask : List PowerMsg
  calls : List AdapterCall
deriving DecidableEq

/-- `convertGpsLock` from a lock to its configuration value. -/
def lockValue : GnssConfigGpsLock → UInt32
  | GNSS_CONFIG_GPS_LOCK_MO => 1
  | GNSS_CONFIG_GPS_LOCK_NI => 2
  | GNSS_CONFIG_GPS_LOCK_MO_AND_NI => 3
  | GNSS_CONFIG_GPS_LOCK_NONE => 0

def convertGpsLock (gpsLock : UInt32) : GnssConfigGpsLock :=
  if gpsLock = 1 then GNSS_CONFIG_GPS_LOCK_MO
  else if gpsLock = 2 then GNSS_CONFIG_GPS_LOCK_NI
  else if gpsLock = 3 then GNSS_CONFIG_GPS_LOCK_MO_AND_NI
  else GNSS_CONFIG_GPS_LOCK_NONE

/-- The id after the counter's value; 0xFFFFFFFF is skipped. -/
def nextSessionId (counter : UInt32) : UInt32 :=
  if counter + 1 = 0xFFFFFFFF then 1 else counter + 1

namespace GnssAdapter

/-- A new adapter with a context. -/
def start (gpsLock : UInt32) : GnssAdapter := ⟨true, 1, 0, gpsLock, [], []⟩

def sendMsg (a : GnssAdapter) (msg : PowerMsg) : GnssAdapter :=
  { a with mMsgTask := a.mMsgTask ++ [msg] }

def emit (a : GnssAdapter) (call : AdapterCall) : GnssAdapter :=
  { a with calls := a.calls ++ [call] }

def setPowerVoteId (a : GnssAdapter) (id : UInt32) : GnssAdapter := { a with mPowerVoteId := id }

def generateSessionId (a : GnssAdapter) : GnssAdapter × UInt32 :=
  let id := nextSessionId a.mSessionIdCounter
  ({ a with mSessionIdCounter := id }, id)

def enableCommand (a : GnssAdapter) (techType : LocationTechnologyType) : GnssAdapter × UInt32 :=
  let (a, sessionId) := a.generateSessionId
  if a.mContext then
    ((a.sendMsg (.MsgEnableGnss sessionId techType)).emit (.modemPowerVote true), sessionId)
  else (a, sessionId)

def disableCommand (a : GnssAdapter) (id : UInt32) : GnssAdapter :=
  if a.mContext then (a.sendMsg (.MsgDisableGnss id)).emit (.modemPowerVote false) else a

def proc (a : GnssAdapter) : PowerMsg → GnssAdapter
  | .MsgEnableGnss sessionId techType =>
    if techType ≠ LOCATION_TECHNOLOGY_TYPE_GNSS then
      a.emit (.reportResponse LOCATION_ERROR_INVALID_PARAMETER sessionId)
    else if a.mPowerVoteId > 0 then
      a.emit (.reportResponse LOCATION_ERROR_ALREADY_STARTED sessionId)
    else
      let a := (a.setPowerVoteId sessionId).emit (.setGpsLock GNSS_CONFIG_GPS_LOCK_NONE)
      let a := a.emit (.updateLockStatus (lockValue GNSS_CONFIG_GPS_LOCK_NONE))
      a.emit (.reportResponse LOCATION_ERROR_SUCCESS sessionId)
  | .MsgDisableGnss sessionId =>
    if a.mPowerVoteId ≠ sessionId then
      a.emit (.reportResponse LOCATION_ERROR_ID_UNKNOWN sessionId)
    else
      let a := (a.setPowerVoteId 0).emit (.setGpsLock (convertGpsLock a.GPS_LOCK))
      -- the lock is passed on as its number
      let a := a.emit (.updateLockStatus (lockValue (convertGpsLock a.GPS_LOCK)))
      a.emit (.reportResponse LOCATION_ERROR_SUCCESS sessionId)

def processNext (a : GnssAdapter) : GnssAdapter :=
  match a.mMsgTask with
  | [] => a
  | msg :: rest => { a with mMsgTask := rest }.proc msg

/-- The votes the context has been given, oldest first. -/
def votes (a : GnssAdapter) : List Bool :=
  a.calls.filterMap fun
    | .modemPowerVote power => some power
    | _ => none

end GnssAdapter

/-! ## Runs -/

inductive PowerRequest where
  | enable (techType : LocationTechnologyType)
  | disable (id : UInt32)
deriving DecidableEq

inductive PowerEvent where
  | request (r : PowerRequest)
  | processNext
deriving DecidableEq

def powerStep (a : GnssAdapter) : PowerEvent → GnssAdapter
  | .request (.enable techType) => (a.enableCommand techType).1
  | .request (.disable id) => a.disableCommand id
  | .processNext => a.processNext

def requests (es : List PowerEvent) : List PowerRequest :=
  es.filterMap fun
    | .request r => some r
    | .processNext => none

theorem requests_cons (e : PowerEvent) (es : List PowerEvent) :
    requests (e :: es) = requests [e] ++ requests es := by
  cases e <;> rfl

def PowerRequest.isEnable : PowerRequest → Bool
  | .enable _ => true
  | .disable _ => false

/-! ## The session as its users see it -/

/-- The session that is open, zero when none is, and the last id given. -/
structure PowerSession where
  lastId : UInt32
  id : UInt32
deriving DecidableEq

def PowerSession.request (s : PowerSession) : PowerRequest → PowerSession
  | .enable techType =>
    ⟨nextSessionId s.lastId,
      if techType = LOCATION_TECHNOLOGY_TYPE_GNSS ∧ s.id = 0 then nextSessionId s.lastId else s.id⟩
  | .disable id => ⟨s.lastId, if s.id = id then 0 else s.id⟩

def sessionAfter (rs : List PowerRequest) : PowerSession := rs.foldl PowerSession.request ⟨1, 0⟩

/-- The vote of the request is right for the session it leaves: an enable
opens a session or finds one open, a disable closes it or finds none. -/
def VotesRight (s : PowerSession) : PowerRequest → Prop
  | .enable techType => techType = LOCATION_TECHNOLOGY_TYPE_GNSS ∨ s.id ≠ 0
  | .disable id => s.id = 0 ∨ s.id = id

instance (s : PowerSession) (r : PowerRequest) : Decidable (VotesRight s r) := by
  cases r <;> exact inferInstanceAs (Decidable (_ ∨ _))

/-! ## The adapter agrees with the session -/

/-- The id that a message leaves. -/
def voteAfter (id : UInt32) : PowerMsg → UInt32
  | .MsgEnableGnss sessionId techType =>
    if techType = LOCATION_TECHNOLOGY_TYPE_GNSS ∧ id = 0 then sessionId else id
  | .MsgDisableGnss sessionId => if id = sessionId then 0 else id

theorem proc_spec (a : GnssAdapter) (msg : PowerMsg) :
    (a.proc msg).mPowerVoteId = voteAfter a.mPowerVoteId msg ∧
      (a.proc msg).mMsgTask = a.mMsgTask ∧ (a.proc msg).mContext = a.mContext ∧
      (a.proc msg).mSessionIdCounter = a.mSessionIdCounter ∧ (a.proc msg).votes = a.votes := by
  have hpos : a.mPowerVoteId > 0 ↔ ¬ a.mPowerVoteId = 0 := UInt32.pos_iff_ne_zero
  cases msg with
  | MsgEnableGnss sessionId techType =>
    simp only [GnssAdapter.proc, voteAfter, hpos]
    by_cases ht : techType = LOCATION_TECHNOLOGY_TYPE_GNSS <;> by_cases h0 : a.mPowerVoteId = 0 <;>
      simp [ht, h0, GnssAdapter.emit, GnssAdapter.setPowerVoteId, GnssAdapter.votes]
  | MsgDisableGnss sessionId =>
    simp only [GnssAdapter.proc, voteAfter]
    by_cases hid : a.mPowerVoteId = sessionId <;>
      simp [hid, GnssAdapter.emit, GnssAdapter.setPowerVoteId, GnssAdapter.votes]

/-- The posted messages will bring the adapter to the session. -/
structure Settles (a : GnssAdapter) (s : PowerSession) : Prop where
  hasContext : a.mContext = true
  counter : a.mSessionIdCounter = s.lastId
  vote : a.mMsgTask.foldl voteAfter a.mPowerVoteId = s.id

theorem settles_enable {a : GnssAdapter} {s : PowerSession} (h : Settles a s)
    (techType : LocationTechnologyType) :
    Settles (powerStep a (.request (.enable techType))) (s.request (.enable techType)) := by
  have hc : powerStep a (.request (.enable techType)) =
      { a with
        mSessionIdCounter := nextSessionId s.lastId
        mMsgTask := a.mMsgTask ++ [.MsgEnableGnss (nextSessionId s.lastId) techType]
        calls := a.calls ++ [.modemPowerVote true] } := by
    simp [powerStep, GnssAdapter.enableCommand, GnssAdapter.generateSessionId, h.hasContext,
      h.counter, GnssAdapter.sendMsg, GnssAdapter.emit]
  rw [hc]
  refine ⟨h.hasContext, rfl, ?_⟩
  rw [List.foldl_append, h.vote]
  rfl

theorem settles_disable {a : GnssAdapter} {s : PowerSession} (h : Settles a s) (id : UInt32) :
    Settles (powerStep a (.request (.disable id))) (s.request (.disable id)) := by
  have hc : powerStep a (.request (.disable id)) =
      { a with
        mMsgTask := a.mMsgTask ++ [.MsgDisableGnss id]
        calls := a.calls ++ [.modemPowerVote false] } := by
    simp [powerStep, GnssAdapter.disableCommand, h.hasContext, GnssAdapter.sendMsg,
      GnssAdapter.emit]
  rw [hc]
  refine ⟨h.hasContext, h.counter, ?_⟩
  rw [List.foldl_append, h.vote]
  rfl

theorem settles_process {a : GnssAdapter} {s : PowerSession} (h : Settles a s) :
    Settles (powerStep a .processNext) s := by
  show Settles a.processNext s
  unfold GnssAdapter.processNext
  split
  · exact h
  · rename_i msg rest hq
    obtain ⟨hid, hrest, hctx, hcnt, -⟩ := proc_spec { a with mMsgTask := rest } msg
    have hv := h.vote
    rw [hq, List.foldl_cons] at hv
    refine ⟨hctx.trans h.hasContext, hcnt.trans h.counter, ?_⟩
    rw [hid, hrest]
    exact hv

theorem settles_run {a : GnssAdapter} {s : PowerSession} (h : Settles a s) (es : List PowerEvent) :
    Settles (run powerStep a es) ((requests es).foldl PowerSession.request s) := by
  induction es generalizing a s with
  | nil => exact h
  | cons e es ih =>
    cases e with
    | request r =>
      cases r with
      | enable techType => exact ih (settles_enable h techType)
      | disable id => exact ih (settles_disable h id)
    | processNext => exact ih (settles_process h)

/-- Every request casts its vote when it is made. -/
theorem votes_run {a : GnssAdapter} (hctx : a.mContext = true) (es : List PowerEvent) :
    (run powerStep a es).votes = a.votes ++ (requests es).map (·.isEnable) := by
  induction es generalizing a with
  | nil => simp [requests]
  | cons e es ih =>
    have hstep : (powerStep a e).mContext = true ∧
        (powerStep a e).votes = a.votes ++ (requests [e]).map (·.isEnable) := by
      cases e with
      | request r =>
        cases r <;>
          simp [powerStep, GnssAdapter.enableCommand, GnssAdapter.disableCommand,
            GnssAdapter.generateSessionId, hctx, GnssAdapter.sendMsg, GnssAdapter.emit,
            GnssAdapter.votes, requests, PowerRequest.isEnable]
      | processNext =>
        show (a.processNext).mContext = true ∧ (a.processNext).votes = a.votes ++ []
        unfold GnssAdapter.processNext
        split
        · exact ⟨hctx, (List.append_nil _).symm⟩
        · rename_i msg rest hq
          obtain ⟨-, -, hc, -, hv⟩ := proc_spec { a with mMsgTask := rest } msg
          exact ⟨hc.trans hctx, hv.trans (List.append_nil _).symm⟩
    rw [run_cons, ih hstep.1, hstep.2, List.append_assoc, ← List.map_append, ← requests_cons]

/-! ## The vote and the session -/

theorem nextSessionId_ne_zero {counter : UInt32} (h : counter ≠ 0xFFFFFFFF) :
    nextSessionId counter ≠ 0 ∧ nextSessionId counter ≠ 0xFFFFFFFF := by
  unfold nextSessionId
  split
  · decide
  · rename_i hn
    refine ⟨fun h0 => h ?_, hn⟩
    have hsub : counter = counter + 1 - 1 := by simp
    rw [hsub, h0]
    rfl

theorem lastId_ne (rs : List PowerRequest) : (sessionAfter rs).lastId ≠ 0xFFFFFFFF := by
  have hstep : ∀ (s : PowerSession) (r : PowerRequest),
      s.lastId ≠ 0xFFFFFFFF → (s.request r).lastId ≠ 0xFFFFFFFF := by
    intro s r hs
    cases r with
    | enable t => exact (nextSessionId_ne_zero hs).2
    | disable id => exact hs
  have hfirst : (⟨1, 0⟩ : PowerSession).lastId ≠ 0xFFFFFFFF := by decide
  exact inv_run_any (I := fun s => PowerSession.lastId s ≠ 0xFFFFFFFF) hstep rs hfirst

/-- After the last request, what it votes is whether a session is open exactly
when the request votes right. -/
theorem vote_agrees_iff {s : PowerSession} (hs : s.lastId ≠ 0xFFFFFFFF) (r : PowerRequest) :
    (r.isEnable = true ↔ (s.request r).id ≠ 0) ↔ VotesRight s r := by
  cases r with
  | enable t =>
    have hnew := (nextSessionId_ne_zero hs).1
    simp only [PowerRequest.isEnable, PowerSession.request, VotesRight, true_iff]
    by_cases h0 : s.id = 0
    · by_cases ht : t = LOCATION_TECHNOLOGY_TYPE_GNSS <;> simp [h0, ht, hnew]
    · simp [h0]
  | disable id =>
    simp only [PowerRequest.isEnable, PowerSession.request, VotesRight, Bool.false_eq_true,
      false_iff, not_not]
    by_cases hid : s.id = id
    · simp [hid]
    · simp [hid]

/-- **The last vote is for power exactly when a session is open, in the runs
whose last request votes right** for the session that the requests before it
leave. -/
theorem vote_follows_iff (gpsLock : UInt32) (es : List PowerEvent)
    (hdone : (run powerStep (.start gpsLock) es).mMsgTask = []) :
    ((run powerStep (.start gpsLock) es).votes.getLast? = some true ↔
        (run powerStep (.start gpsLock) es).mPowerVoteId ≠ 0) ↔
      ∀ before last, requests es = before ++ [last] → VotesRight (sessionAfter before) last := by
  have hset : Settles (run powerStep (.start gpsLock) es) (sessionAfter (requests es)) :=
    settles_run (a := .start gpsLock) (s := ⟨1, 0⟩) ⟨rfl, rfl, rfl⟩ es
  have hid : (run powerStep (.start gpsLock) es).mPowerVoteId = (sessionAfter (requests es)).id := by
    have hv := hset.vote
    rw [hdone] at hv
    exact hv
  have hvotes : (run powerStep (.start gpsLock) es).votes = (requests es).map (·.isEnable) :=
    votes_run (a := .start gpsLock) rfl es
  rw [hid, hvotes]
  rcases List.eq_nil_or_concat (requests es) with hnil | ⟨before, last, hlast⟩
  · rw [hnil]
    refine iff_of_true (by decide) fun before last he => ?_
    exact absurd he.symm (List.append_ne_nil_of_right_ne_nil _ (List.cons_ne_nil _ _))
  · rw [List.concat_eq_append] at hlast
    have hsession : sessionAfter (requests es) = (sessionAfter before).request last := by
      rw [hlast, sessionAfter, List.foldl_append]
      rfl
    have hvote := vote_agrees_iff (lastId_ne before) last
    rw [hsession, hlast, List.map_append, List.map_singleton, List.getLast?_concat, Option.some_inj,
      hvote]
    constructor
    · intro hr before' last' he
      obtain ⟨hb, hl⟩ := List.append_inj' he rfl
      rw [← hb, ← List.head_eq_of_cons_eq hl]
      exact hr
    · intro hr
      exact hr before last rfl

/-- A session is opened, and a second enable finds it open. -/
theorem vote_follows_run :
    ((run powerStep (.start 0) [.request (.enable 0), .processNext, .request (.enable 0),
        .processNext]).votes.getLast? = some true ↔
      (run powerStep (.start 0) [.request (.enable 0), .processNext, .request (.enable 0),
        .processNext]).mPowerVoteId ≠ 0) ↔
    ∀ before last, requests [.request (.enable 0), .processNext, .request (.enable 0),
      .processNext] = before ++ [last] → VotesRight (sessionAfter before) last :=
  vote_follows_iff 0 _ (by decide)

/-- A disable with a stale id withdraws the vote of an open session. -/
theorem stale_disable_withdraws_vote :
    let a := run powerStep (.start 0)
      [.request (.enable 0), .processNext, .request (.disable 77), .processNext]
    a.mMsgTask = [] ∧ ¬ (a.votes.getLast? = some true ↔ a.mPowerVoteId ≠ 0) := by
  decide

end DeviceHal.Gnss.PowerVote
