import DeviceHal.Lib.Run
import DeviceHal.Gnss.LocationTypes
import Mathlib.Tactic

/-! # Network-initiated request sessions

The two session slots of `gnss/GnssAdapter.cpp`, the notifications and user
responses that the adapter thread takes, and the threads that wait for a
response. A thread ends its session under the lock and resets the slot's id
and time-out afterwards without it; the slot can be taken again in between. -/
namespace DeviceHal.Gnss.NiSessions
open DeviceHal.Lib.Run DeviceHal.Gnss.LocationTypes
open LocationError GnssNiType GnssNiResponse

/-! ## The adapter and its threads -/

def LOC_NI_NO_RESPONSE_TIME : UInt32 := 20

/-- A raw request by its address. -/
abbrev RawRequest := Nat

structure NiSession where
  respTimeLeft : UInt32
  respRecvd : Bool
  /-- `none` is a null pointer. -/
  rawRequest : Option RawRequest
  reqID : UInt32
  /-- Zero, which names no response, until the first one is written. -/
  resp : Option GnssNiResponse
deriving DecidableEq

/-- The fields of `NiData`. -/
inductive NiSlot where
  | session
  | sessionEs
deriving DecidableEq

/-- What a thread still has to do: wait and end the session, or reset the slot
and send the response it has taken. -/
inductive NiPhase where
  | waiting
  | resetting (response : Option (Option GnssNiResponse × RawRequest))
deriving DecidableEq

structure NiThread where
  slot : NiSlot
  phase : NiPhase
deriving DecidableEq

structure NiAdapter where
  session : NiSession
  sessionEs : NiSession
  reqIDCounter : UInt32
  threads : List NiThread
  /-- The ids given to `gnssNiCb`, oldest first. -/
  announced : List UInt32
  /-- The results reported to the responding clients. -/
  reported : List (LocationError × UInt32)
  /-- The responses sent on with their raw requests. -/
  sent : List (Option GnssNiResponse × RawRequest)
deriving DecidableEq

structure GnssNiNotification where
  type : GnssNiType
  timeout : UInt32
deriving DecidableEq

namespace NiAdapter

def start : NiAdapter :=
  ⟨⟨0, false, none, 0, none⟩, ⟨0, false, none, 0, none⟩, 0, [], [], [], []⟩

def get (a : NiAdapter) : NiSlot → NiSession
  | .session => a.session
  | .sessionEs => a.sessionEs

def set (a : NiAdapter) (slot : NiSlot) (s : NiSession) : NiAdapter :=
  match slot with
  | .session => { a with session := s }
  | .sessionEs => { a with sessionEs := s }

/-- The slot a notification gets, none when it is ignored. -/
def chooseSession (a : NiAdapter) (notify : GnssNiNotification) : Option NiSlot :=
  if notify.type = GNSS_NI_TYPE_EMERGENCY_SUPL then
    if a.sessionEs.rawRequest ≠ none then none else some .sessionEs
  else if a.session.rawRequest ≠ none ∨ a.sessionEs.rawRequest ≠ none then none
  else some .session

/-- `gnssNiCb` says whether some client has the callback, `created` whether
the thread could be created. -/
def requestNiNotify (a : NiAdapter) (notify : GnssNiNotification) (data : Option RawRequest)
    (gnssNiCb created : Bool) : NiAdapter :=
  if !gnssNiCb then a
  else match a.chooseSession notify with
    | none => a
    | some slot =>
      let reqID := a.reqIDCounter + 1
      let a := { a with reqIDCounter := reqID }
      let a := a.set slot { a.get slot with
        rawRequest := data
        reqID := reqID
        respTimeLeft :=
          5 + (if notify.timeout ≠ 0 then notify.timeout else LOC_NI_NO_RESPONSE_TIME) }
      let a := if created then { a with threads := a.threads ++ [⟨slot, .waiting⟩] } else a
      { a with announced := a.announced ++ [reqID] }

/-- Record a response in the slot and wake its thread. -/
def respond (a : NiAdapter) (slot : NiSlot) (response : GnssNiResponse) : NiAdapter :=
  a.set slot { a.get slot with resp := some response, respRecvd := true }

def reportResponse (a : NiAdapter) (err : LocationError) (sessionId : UInt32) : NiAdapter :=
  { a with reported := a.reported ++ [(err, sessionId)] }

/-- `proc` of the user's `MsgGnssNiResponse`; the flag is
`hasNiNotifyCallback(client)`. -/
def gnssNiResponse (a : NiAdapter) (hasNiNotifyCallback : Bool) (sessionId : UInt32)
    (response : GnssNiResponse) : NiAdapter :=
  if !hasNiNotifyCallback then a.reportResponse LOCATION_ERROR_ID_UNKNOWN sessionId
  else if sessionId = a.sessionEs.reqID ∧ a.sessionEs.rawRequest ≠ none then
    -- ignore any SUPL NI non-Es session if a SUPL NI ES is accepted
    let a := if response = GNSS_NI_RESPONSE_ACCEPT ∧ a.session.rawRequest ≠ none then
      a.respond .session GNSS_NI_RESPONSE_IGNORE else a
    (a.respond .sessionEs response).reportResponse LOCATION_ERROR_SUCCESS sessionId
  else if sessionId = a.session.reqID ∧ a.session.rawRequest ≠ none then
    (a.respond .session response).reportResponse LOCATION_ERROR_SUCCESS sessionId
  else a.reportResponse LOCATION_ERROR_ID_UNKNOWN sessionId

/-- The locked section of `niThreadProc`, after a response or a time-out. -/
def endSession (a : NiAdapter) (thread : Nat) (timedOut : Bool) : NiAdapter :=
  match a.threads[thread]? with
  | some ⟨slot, .waiting⟩ =>
    let s := a.get slot
    if !(timedOut || s.respRecvd) then a
    else
      let resp := if timedOut then some GNSS_NI_RESPONSE_NO_RESPONSE else s.resp
      let response := match s.rawRequest with
        | none => none
        | some rawRequest =>
          if resp ≠ some GNSS_NI_RESPONSE_IGNORE then some (resp, rawRequest) else none
      let a := a.set slot { s with resp := resp, respRecvd := false, rawRequest := none }
      { a with threads := a.threads.set thread ⟨slot, .resetting response⟩ }
  | _ => a

/-- The rest of `niThreadProc`, without the lock. -/
def resetSlot (a : NiAdapter) (thread : Nat) : NiAdapter :=
  match a.threads[thread]? with
  | some ⟨slot, .resetting response⟩ =>
    let a := a.set slot { a.get slot with respTimeLeft := 0, reqID := 0 }
    { a with threads := a.threads.eraseIdx thread, sent := a.sent ++ response.toList }
  | _ => a

end NiAdapter

/-! ## Runs -/

inductive NiEvent where
  | notify (n : GnssNiNotification) (data : Option RawRequest) (gnssNiCb created : Bool)
  | response (hasNiNotifyCallback : Bool) (sessionId : UInt32) (response : GnssNiResponse)
  | endSession (thread : Nat) (timedOut : Bool)
  | resetSlot (thread : Nat)
deriving DecidableEq

def NiAdapter.step (a : NiAdapter) : NiEvent → NiAdapter
  | .notify n data gnssNiCb created => a.requestNiNotify n data gnssNiCb created
  | .response hasCb sessionId response => a.gnssNiResponse hasCb sessionId response
  | .endSession thread timedOut => a.endSession thread timedOut
  | .resetSlot thread => a.resetSlot thread

/-- The adapter with the id last announced for each slot. -/
structure NiHistory where
  a : NiAdapter
  announcedFor : NiSlot → UInt32

def NiHistory.start : NiHistory := ⟨.start, fun _ => 0⟩

/-- The slot that the event gives to a notification. -/
def taken (a : NiAdapter) : NiEvent → Option NiSlot
  | .notify n _ gnssNiCb _ => if gnssNiCb then a.chooseSession n else none
  | _ => none

def niStep (h : NiHistory) (e : NiEvent) : NiHistory :=
  ⟨h.a.step e, match taken h.a e with
    | none => h.announcedFor
    | some slot => Function.update h.announcedFor slot (h.a.reqIDCounter + 1)⟩

/-- The slot holds a raw request that nobody has answered for yet. -/
def NiAdapter.Pending (a : NiAdapter) (slot : NiSlot) : Prop := (a.get slot).rawRequest ≠ none

instance (a : NiAdapter) (slot : NiSlot) : Decidable (a.Pending slot) :=
  inferInstanceAs (Decidable (_ ≠ _))

/-- A user response with the announced id of a pending session is recorded for
that session, and its client is told so. -/
def Accepts (h : NiHistory) (e : NiEvent) : Prop :=
  ∀ slot response, h.a.Pending slot → e = .response true (h.announcedFor slot) response →
    ((h.a.step e).get slot).resp = some response ∧ ((h.a.step e).get slot).respRecvd = true ∧
      (h.a.step e).reported =
        h.a.reported ++ [(LOCATION_ERROR_SUCCESS, h.announcedFor slot)]

def NiEvent.ofThread : NiEvent → Bool
  | .endSession .. | .resetSlot _ => true
  | _ => false

/-- A step of a thread leaves the id and the time-out of every pending session. -/
def LeavesCurrent (h : NiHistory) (e : NiEvent) : Prop :=
  e.ofThread = true → ∀ slot, h.a.Pending slot →
    ((h.a.step e).get slot).reqID = (h.a.get slot).reqID ∧
      ((h.a.step e).get slot).respTimeLeft = (h.a.get slot).respTimeLeft

/-- A thread resets a slot that nobody has taken since, and an emergency
notification does not get the id of a pending normal one. -/
def ResetsOwn (h : NiHistory) : NiEvent → Prop
  | .resetSlot thread => ∀ t ∈ h.a.threads[thread]?, t.phase ≠ .waiting → ¬ h.a.Pending t.slot
  | .notify n _ gnssNiCb _ => gnssNiCb = true → h.a.chooseSession n = some .sessionEs →
    h.a.Pending .session → h.a.reqIDCounter + 1 ≠ h.a.session.reqID
  | _ => True

instance (h : NiHistory) (e : NiEvent) : Decidable (ResetsOwn h e) := by
  cases e <;> unfold ResetsOwn <;> infer_instance

/-! ## What the steps change -/

namespace NiAdapter
variable (a : NiAdapter)

@[simp] theorem get_set_self (slot : NiSlot) (s : NiSession) : (a.set slot s).get slot = s := by
  cases slot <;> rfl

@[simp] theorem get_set_ne {slot other : NiSlot} (h : other ≠ slot) (s : NiSession) :
    (a.set slot s).get other = a.get other := by
  cases slot <;> cases other <;> first | rfl | exact absurd rfl h

@[simp] theorem get_respond_reqID (slot other : NiSlot) (response : GnssNiResponse) :
    ((a.respond slot response).get other).reqID = (a.get other).reqID := by
  cases slot <;> cases other <;> rfl

@[simp] theorem get_respond_rawRequest (slot other : NiSlot) (response : GnssNiResponse) :
    ((a.respond slot response).get other).rawRequest = (a.get other).rawRequest := by
  cases slot <;> cases other <;> rfl

@[simp] theorem get_reportResponse (err : LocationError) (id : UInt32) (slot : NiSlot) :
    (a.reportResponse err id).get slot = a.get slot := by
  cases slot <;> rfl

/-- A response changes neither which sessions are pending nor their ids. -/
theorem response_keeps (hasCb : Bool) (id : UInt32) (response : GnssNiResponse) (slot : NiSlot) :
    ((a.gnssNiResponse hasCb id response).get slot).reqID = (a.get slot).reqID ∧
      ((a.gnssNiResponse hasCb id response).get slot).rawRequest = (a.get slot).rawRequest := by
  unfold gnssNiResponse
  split
  · simp
  · split
    · dsimp only
      split <;> simp
    · split <;> simp

/-- What a notification that gets a slot leaves in the slots. -/
theorem notify_taken {n : GnssNiNotification} {data : Option RawRequest} {created : Bool}
    {slot : NiSlot} (hs : a.chooseSession n = some slot) :
    ((a.requestNiNotify n data true created).get slot).reqID = a.reqIDCounter + 1 ∧
      ∀ other, other ≠ slot → (a.requestNiNotify n data true created).get other = a.get other := by
  simp only [requestNiNotify, hs]
  refine ⟨?_, fun other hne => ?_⟩
  · cases created <;> cases slot <;> rfl
  · cases created <;> cases slot <;> cases other <;> first | rfl | exact absurd rfl hne

theorem chooseSession_free {n : GnssNiNotification} {slot : NiSlot}
    (hs : a.chooseSession n = some slot) :
    ¬ a.Pending slot ∧ (slot = .session → ¬ a.Pending .sessionEs) := by
  unfold chooseSession at hs
  split at hs
  · split at hs
    · cases hs
    · rename_i hes
      obtain rfl := Option.some.inj hs
      exact ⟨hes, fun h => by cases h⟩
  · split at hs
    · cases hs
    · rename_i hboth
      obtain rfl := Option.some.inj hs
      rw [not_or] at hboth
      exact ⟨hboth.1, fun _ => hboth.2⟩

/-- Ending a session writes neither id nor time-out, and makes no slot pending. -/
theorem endSession_keeps (thread : Nat) (timedOut : Bool) (slot : NiSlot) :
    ((a.endSession thread timedOut).get slot).reqID = (a.get slot).reqID ∧
      ((a.endSession thread timedOut).get slot).respTimeLeft = (a.get slot).respTimeLeft ∧
      ((a.endSession thread timedOut).Pending slot → a.Pending slot) := by
  unfold endSession
  split
  · rename_i own _
    dsimp only
    split
    · exact ⟨rfl, rfl, id⟩
    · by_cases he : slot = own
      · subst he
        cases slot <;> exact ⟨rfl, rfl, fun hp => absurd rfl hp⟩
      · cases own <;> cases slot <;> first | exact ⟨rfl, rfl, id⟩ | exact absurd rfl he
  · exact ⟨rfl, rfl, id⟩

/-- A reset writes its thread's slot only. -/
theorem resetSlot_keeps {thread : Nat} {slot : NiSlot}
    (hown : ∀ t ∈ a.threads[thread]?, t.phase ≠ .waiting → t.slot ≠ slot) :
    (a.resetSlot thread).get slot = a.get slot := by
  unfold resetSlot
  split
  · rename_i own response ht
    have hne : own ≠ slot := hown ⟨own, .resetting response⟩ (by simp [ht]) (by simp)
    cases own <;> cases slot <;> first | rfl | exact absurd rfl hne
  · rfl

/-- A reset makes no slot pending. -/
theorem resetSlot_rawRequest (thread : Nat) (slot : NiSlot) :
    ((a.resetSlot thread).get slot).rawRequest = (a.get slot).rawRequest := by
  unfold resetSlot
  split
  · rename_i own _ _
    cases own <;> cases slot <;> rfl
  · rfl

end NiAdapter

/-! ## The invariant -/

/-- A pending session has the id it was announced with, and no other pending
session has it. -/
structure Announced (h : NiHistory) : Prop where
  ids : ∀ slot, h.a.Pending slot → (h.a.get slot).reqID = h.announcedFor slot
  distinct : h.a.Pending .session → h.a.Pending .sessionEs →
    h.a.session.reqID ≠ h.a.sessionEs.reqID

theorem announced_start : Announced .start := by
  refine ⟨fun slot hp => ?_, fun hp _ => absurd rfl hp⟩
  cases slot <;> exact absurd rfl hp

/-- Steps that write no id and make no slot pending keep the invariant. -/
theorem Announced.keep {h : NiHistory} (hi : Announced h) {a : NiAdapter}
    (hp : ∀ slot, a.Pending slot → h.a.Pending slot)
    (hid : ∀ slot, a.Pending slot → (a.get slot).reqID = (h.a.get slot).reqID) :
    Announced ⟨a, h.announcedFor⟩ := by
  refine ⟨fun slot hs => (hid slot hs).trans (hi.ids slot (hp slot hs)), fun hs hes => ?_⟩
  have h1 : a.session.reqID = h.a.session.reqID := hid .session hs
  have h2 : a.sessionEs.reqID = h.a.sessionEs.reqID := hid .sessionEs hes
  show a.session.reqID ≠ a.sessionEs.reqID
  rw [h1, h2]
  exact hi.distinct (hp _ hs) (hp _ hes)

theorem announced_notify {h : NiHistory} (hi : Announced h) {n : GnssNiNotification}
    {data : Option RawRequest} {gnssNiCb created : Bool}
    (hg : ResetsOwn h (.notify n data gnssNiCb created)) :
    Announced (niStep h (.notify n data gnssNiCb created)) := by
  cases gnssNiCb with
  | false => exact hi
  | true =>
    cases hs : h.a.chooseSession n with
    | none =>
      have hstep : niStep h (.notify n data true created) = h := by
        simp [niStep, NiAdapter.step, NiAdapter.requestNiNotify, taken, hs]
      rw [hstep]
      exact hi
    | some slot =>
      obtain ⟨hid, hother⟩ := @NiAdapter.notify_taken h.a n data created slot hs
      obtain ⟨-, hes⟩ := h.a.chooseSession_free hs
      have hfor : (niStep h (.notify n data true created)).announcedFor =
          Function.update h.announcedFor slot (h.a.reqIDCounter + 1) := by
        simp [niStep, taken, hs]
      set a := h.a.requestNiNotify n data true created with ha
      refine ⟨fun x hx => ?_, fun h1 h2 => ?_⟩
      · rw [hfor]
        by_cases hxs : x = slot
        · subst hxs
          rw [Function.update_self]
          exact hid
        · rw [Function.update_of_ne hxs]
          have hget : a.get x = h.a.get x := hother x hxs
          have hx' : h.a.Pending x := by
            rw [NiAdapter.Pending, ← hget]
            exact hx
          show (a.get x).reqID = h.announcedFor x
          rw [hget]
          exact hi.ids x hx'
      · cases slot with
        | session =>
          have hget : a.get .sessionEs = h.a.get .sessionEs := hother _ (by decide)
          refine absurd ?_ (hes rfl)
          rw [NiAdapter.Pending, ← hget]
          exact h2
        | sessionEs =>
          have hget : a.get .session = h.a.get .session := hother _ (by decide)
          have hp : h.a.Pending .session := by
            rw [NiAdapter.Pending, ← hget]
            exact h1
          have hs1 : a.session.reqID = h.a.session.reqID := congrArg NiSession.reqID hget
          have hs2 : a.sessionEs.reqID = h.a.reqIDCounter + 1 := hid
          show a.session.reqID ≠ a.sessionEs.reqID
          rw [hs1, hs2]
          exact (hg rfl hs hp).symm

theorem announced_step {h : NiHistory} (hi : Announced h) {e : NiEvent} (hg : ResetsOwn h e) :
    Announced (niStep h e) := by
  cases e with
  | notify n data gnssNiCb created => exact announced_notify hi hg
  | response hasCb id response =>
    refine hi.keep (fun slot hs => ?_) fun slot _ => (h.a.response_keeps hasCb id response slot).1
    rw [NiAdapter.Pending, ← (h.a.response_keeps hasCb id response slot).2]
    exact hs
  | endSession thread timedOut =>
    exact hi.keep (fun slot hs => (h.a.endSession_keeps thread timedOut slot).2.2 hs)
      fun slot _ => (h.a.endSession_keeps thread timedOut slot).1
  | resetSlot thread =>
    have hp : ∀ slot, (h.a.resetSlot thread).Pending slot → h.a.Pending slot := by
      intro slot hs
      rw [NiAdapter.Pending, ← h.a.resetSlot_rawRequest thread slot]
      exact hs
    refine hi.keep hp fun slot hs => congrArg NiSession.reqID (h.a.resetSlot_keeps ?_)
    rintro t ht hw rfl
    exact hg t ht hw (hp _ hs)

theorem accepts_of_announced {h : NiHistory} (hi : Announced h) (e : NiEvent) : Accepts h e := by
  intro slot response hp he
  subst he
  have hid := hi.ids slot hp
  simp only [NiAdapter.step, NiAdapter.gnssNiResponse, Bool.not_true, Bool.false_eq_true, if_false]
  cases slot with
  | sessionEs =>
    have hes : h.announcedFor .sessionEs = h.a.sessionEs.reqID ∧ h.a.sessionEs.rawRequest ≠ none :=
      ⟨hid.symm, hp⟩
    rw [if_pos hes]
    split <;> exact ⟨rfl, rfl, rfl⟩
  | session =>
    have hes : ¬ (h.announcedFor .session = h.a.sessionEs.reqID ∧
        h.a.sessionEs.rawRequest ≠ none) := by
      intro hh
      exact hi.distinct hp hh.2 (hid.trans hh.1)
    have hown : h.announcedFor .session = h.a.session.reqID ∧ h.a.session.rawRequest ≠ none :=
      ⟨hid.symm, hp⟩
    rw [if_neg hes, if_pos hown]
    exact ⟨rfl, rfl, rfl⟩

theorem leavesCurrent_of_resetsOwn {h : NiHistory} {e : NiEvent} (hg : ResetsOwn h e) :
    LeavesCurrent h e := by
  intro hthread slot hp
  cases e with
  | notify | response => cases hthread
  | endSession thread timedOut =>
    obtain ⟨hid, htime, -⟩ := h.a.endSession_keeps thread timedOut slot
    exact ⟨hid, htime⟩
  | resetSlot thread =>
    have hkeep : (h.a.resetSlot thread).get slot = h.a.get slot := by
      refine h.a.resetSlot_keeps ?_
      rintro t ht hw rfl
      exact hg t ht hw hp
    exact ⟨congrArg NiSession.reqID hkeep, congrArg NiSession.respTimeLeft hkeep⟩

/-! ## Runs -/

/-- **Announced sessions are answerable and left alone** in every run whose
threads reset their slots before these are taken again. -/
theorem sessions_answerable (es : List NiEvent) (hg : Steps niStep ResetsOwn .start es) :
    Steps niStep (fun h e => Accepts h e ∧ LeavesCurrent h e) .start es :=
  steps_of_inv (I := Announced)
    (fun _ e hi hg => ⟨accepts_of_announced hi e, leavesCurrent_of_resetsOwn hg⟩)
    (fun _ _ hi hg => announced_step hi hg) announced_start hg

/-- A normal and an emergency session, and a slot that is reset before it is
taken again. -/
theorem sessions_answerable_run :
    Steps niStep (fun h e => Accepts h e ∧ LeavesCurrent h e) .start
      [.notify ⟨GNSS_NI_TYPE_SUPL, 10⟩ (some 100) true true,
        .notify ⟨GNSS_NI_TYPE_EMERGENCY_SUPL, 0⟩ (some 200) true true,
        .response true 2 GNSS_NI_RESPONSE_ACCEPT, .endSession 0 false, .resetSlot 0,
        .endSession 0 true, .resetSlot 0,
        .notify ⟨GNSS_NI_TYPE_VOICE, 10⟩ (some 300) true true,
        .response true 3 GNSS_NI_RESPONSE_DENY] := by
  exact sessions_answerable _ (by decide)

/-- A slot is taken again between the two steps of its thread. -/
theorem late_reset_clears_id :
    ¬ ∀ es, Steps niStep (fun h e => Accepts h e ∧ LeavesCurrent h e) .start es := by
  intro hall
  have hlate := (hall [.notify ⟨GNSS_NI_TYPE_SUPL, 10⟩ (some 100) true true,
    .endSession 0 true, .notify ⟨GNSS_NI_TYPE_SUPL, 10⟩ (some 200) true true,
    .resetSlot 0]).2.2.2.1.2 rfl .session (by decide)
  revert hlate
  decide

end DeviceHal.Gnss.NiSessions
