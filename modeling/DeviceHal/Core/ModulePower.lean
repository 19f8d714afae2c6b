import DeviceHal.Lib.CText
import DeviceHal.Lib.Run
import DeviceHal.Core.OsObserver

/-! # Reference counted module power

`turnOn` and `turnOff` of `core/SystemStatusOsObserver.cpp`. The calls count
the requests of each data item and post a message when a count leaves or
reaches zero; the framework is told when the message is processed. A message
carries the object it calls, and `turnOn` posts its message with the observer
itself in the place of the framework's object. -/
namespace DeviceHal.Core.ModulePower
open DeviceHal.Lib.CText DeviceHal.Lib.Run DeviceHal.Core.OsObserver

/-! ## The observer's actions -/

/-- The objects an `IFrameworkActionReq` pointer of a message can point to. -/
inductive IFrameworkActionReq where
  | observer
  | framework
deriving DecidableEq

/-- The two calls that switch a module. -/
inductive ActionCall where
  | turnOn (dit : DataItemId) (timeOut : Int)
  | turnOff (dit : DataItemId)
deriving DecidableEq

/-- `HandleTurnOnMsg` and `HandleTurnOffMsg`: a call on an object. -/
structure ActionMsg where
  mFrameworkActionReqObj : IFrameworkActionReq
  call : ActionCall
deriving DecidableEq

structure ActionObserver where
  /-- Whether `mContext.mFrameworkActionReqObj` has been set. -/
  mFrameworkActionReqObj : Bool
  /-- The counts are of type `int`; one that overflows is taken to wrap. -/
  mActiveRequestCount : Std.TreeMap DataItemId Int
  /-- The posted messages, the next one first. -/
  mMsgTask : List ActionMsg
  /-- The calls the framework's object has received, oldest first. -/
  toFramework : List ActionCall

namespace ActionObserver

def sendMsg (o : ActionObserver) (msg : ActionMsg) : ActionObserver :=
  { o with mMsgTask := o.mMsgTask ++ [msg] }

def turnOn (o : ActionObserver) (dit : DataItemId) (timeOut : Int) : ActionObserver :=
  if !o.mFrameworkActionReqObj then o
  else match o.mActiveRequestCount[dit]? with
    | none =>
      let o := { o with mActiveRequestCount := o.mActiveRequestCount.insert dit 1 }
      o.sendMsg ⟨.observer, .turnOn dit timeOut⟩
    | some count =>
      { o with mActiveRequestCount := o.mActiveRequestCount.insert dit (toInt32 (count + 1)) }

def turnOff (o : ActionObserver) (dit : DataItemId) : ActionObserver :=
  if !o.mFrameworkActionReqObj then o
  else match o.mActiveRequestCount[dit]? with
    | none => o
    | some count =>
      let count := toInt32 (count - 1)
      if count = 0 then
        let o := { o with mActiveRequestCount := o.mActiveRequestCount.erase dit }
        o.sendMsg ⟨.framework, .turnOff dit⟩
      else { o with mActiveRequestCount := o.mActiveRequestCount.insert dit count }

/-- `proc` of either message. -/
def proc (o : ActionObserver) (msg : ActionMsg) : ActionObserver :=
  match msg.mFrameworkActionReqObj with
  | .framework => { o with toFramework := o.toFramework ++ [msg.call] }
  | .observer =>
    match msg.call with
    | .turnOn dit timeOut => o.turnOn dit timeOut
    | .turnOff dit => o.turnOff dit

/-- The message thread takes the next message, if there is one. -/
def processNext (o : ActionObserver) : ActionObserver :=
  match o.mMsgTask with
  | [] => o
  | msg :: rest => { o with mMsgTask := rest }.proc msg

/-- `mActiveRequestCount[dit]`, zero without an entry. -/
def requestCount (o : ActionObserver) (dit : DataItemId) : Int := o.mActiveRequestCount.getD dit 0

end ActionObserver

/-! ## Runs with the clients' view -/

inductive PowerEvent where
  | turnOn (dit : DataItemId) (timeOut : Int)
  | turnOff (dit : DataItemId)
  | processNext
deriving DecidableEq

/-- The observer with what its clients have asked for. -/
structure PowerHistory where
  o : ActionObserver
  /-- The `turnOn` calls of clients not yet taken back. -/
  outstanding : DataItemId → Nat
  /-- The first requests and last withdrawals, in the order of the calls. -/
  transitions : List ActionCall

/-- An observer whose framework object is set and that nobody has used. -/
def PowerHistory.start : PowerHistory := ⟨⟨true, ∅, [], []⟩, fun _ => 0, []⟩

def powerStep (h : PowerHistory) : PowerEvent → PowerHistory
  | .turnOn dit timeOut =>
    ⟨h.o.turnOn dit timeOut, Function.update h.outstanding dit (h.outstanding dit + 1),
      if h.outstanding dit = 0 then h.transitions ++ [.turnOn dit timeOut] else h.transitions⟩
  | .turnOff dit =>
    ⟨h.o.turnOff dit, Function.update h.outstanding dit (h.outstanding dit - 1),
      if h.outstanding dit = 1 then h.transitions ++ [.turnOff dit] else h.transitions⟩
  | .processNext => ⟨h.o.processNext, h.outstanding, h.transitions⟩

/-- The counts are the clients', and the framework has received the
transitions in their order, all of them once no message is left. -/
structure PowerFits (h : PowerHistory) : Prop where
  counts : ∀ d, h.o.requestCount d = h.outstanding d
  told : h.o.toFramework <+: h.transitions
  toldAll : h.o.mMsgTask = [] → h.o.toFramework = h.transitions

/-- The message that is processed, if any, does not call the observer itself. -/
def CallsFramework (h : PowerHistory) (e : PowerEvent) : Prop :=
  e = .processNext → ∀ msg ∈ h.o.mMsgTask.head?, msg.mFrameworkActionReqObj = .framework

/-- A request that is counted leaves a number that fits an `int`. -/
def CountFits (h : PowerHistory) (e : PowerEvent) : Prop :=
  ∀ d t, e = .turnOn d t → h.outstanding d + 1 < 2 ^ 31

/-! ## What a step does -/

/-- An entry counts the outstanding calls, and there is none without them; what
has been told and what is posted are together the transitions. -/
structure Counted (h : PowerHistory) : Prop where
  bounded : ∀ d, h.outstanding d < 2 ^ 31
  isSet : h.o.mFrameworkActionReqObj = true
  entry : ∀ d, h.o.mActiveRequestCount[d]? =
    if h.outstanding d = 0 then none else some (h.outstanding d : Int)
  posted : h.o.toFramework ++ h.o.mMsgTask.map (·.call) = h.transitions
  onlyOn : ∀ msg ∈ h.o.mMsgTask, msg.mFrameworkActionReqObj = .observer →
    ∃ d t, msg.call = .turnOn d t

theorem counted_start : Counted .start where
  bounded d := by simp [PowerHistory.start]
  isSet := rfl
  entry d := by simp [PowerHistory.start]
  posted := rfl
  onlyOn _ hm := absurd hm List.not_mem_nil

theorem Counted.fits {h : PowerHistory} (hc : Counted h) : PowerFits h where
  counts d := by
    rw [ActionObserver.requestCount, Std.TreeMap.getD_eq_getD_getElem?, hc.entry d]
    split
    · rename_i h0; simp [h0]
    · rfl
  told := ⟨_, hc.posted⟩
  toldAll he := by
    have hp := hc.posted
    rw [he, List.map_nil, List.append_nil] at hp
    exact hp

theorem getElem?_edit {m : Std.TreeMap DataItemId Int} {f : DataItemId → Nat} {d : DataItemId}
    {n : Nat} {m' : Std.TreeMap DataItemId Int}
    (hm : ∀ x, m[x]? = if f x = 0 then none else some (f x : Int))
    (hself : m'[d]? = if n = 0 then none else some (n : Int))
    (hother : ∀ x, x ≠ d → m'[x]? = m[x]?) (x : DataItemId) :
    m'[x]? = if Function.update f d n x = 0 then none else some (Function.update f d n x : Int) := by
  by_cases hx : x = d
  · subst hx; simpa using hself
  · rw [hother x hx, hm x, Function.update_of_ne hx]

theorem bounded_update {f : DataItemId → Nat} (hf : ∀ d, f d < 2 ^ 31) (d : DataItemId) {n : Nat}
    (hn : n < 2 ^ 31) (x : DataItemId) : Function.update f d n x < 2 ^ 31 := by
  by_cases hx : x = d
  · subst hx; simpa using hn
  · rw [Function.update_of_ne hx]; exact hf x

theorem counted_turnOn {h : PowerHistory} (hc : Counted h) {d : DataItemId} {t : Int}
    (hfits : h.outstanding d + 1 < 2 ^ 31) : Counted (powerStep h (.turnOn d t)) := by
  have hset : (!h.o.mFrameworkActionReqObj) = false := by simp [hc.isSet]
  have hd := hc.entry d
  by_cases h0 : h.outstanding d = 0
  · rw [if_pos h0] at hd
    have ho : h.o.turnOn d t =
        { h.o with
          mActiveRequestCount := h.o.mActiveRequestCount.insert d 1
          mMsgTask := h.o.mMsgTask ++ [⟨.observer, .turnOn d t⟩] } := by
      simp [ActionObserver.turnOn, hset, hd, ActionObserver.sendMsg]
    refine ⟨bounded_update hc.bounded d hfits, ?_, ?_, ?_, ?_⟩
    · simp only [powerStep, ho]; exact hc.isSet
    · simp only [powerStep, ho, h0]
      refine getElem?_edit hc.entry (by simp) fun x hx => ?_
      rw [Std.TreeMap.getElem?_insert]
      simp [Ne.symm hx]
    · simp only [powerStep, ho, h0, if_true]
      rw [List.map_append, ← List.append_assoc, hc.posted]
      rfl
    · simp only [powerStep, ho]
      intro msg hmsg hobs
      rcases List.mem_append.mp hmsg with hm | hm
      · exact hc.onlyOn msg hm hobs
      · obtain rfl := List.mem_singleton.mp hm
        exact ⟨d, t, rfl⟩
  · rw [if_neg h0] at hd
    have hcount : toInt32 ((h.outstanding d : Int) + 1) = h.outstanding d + 1 := by
      exact_mod_cast (toInt32_eq_iff (h.outstanding d + 1)).mpr hfits
    have ho : h.o.turnOn d t =
        { h.o with
          mActiveRequestCount := h.o.mActiveRequestCount.insert d (h.outstanding d + 1) } := by
      simp [ActionObserver.turnOn, hset, hd, hcount]
    refine ⟨bounded_update hc.bounded d hfits, ?_, ?_, ?_, ?_⟩
    · simp only [powerStep, ho]; exact hc.isSet
    · simp only [powerStep, ho]
      refine getElem?_edit hc.entry (by simp) fun x hx => ?_
      rw [Std.TreeMap.getElem?_insert]
      simp [Ne.symm hx]
    · simp only [powerStep, ho, h0, if_false]
      exact hc.posted
    · simp only [powerStep, ho]
      exact hc.onlyOn

theorem counted_turnOff {h : PowerHistory} (hc : Counted h) (d : DataItemId) :
    Counted (powerStep h (.turnOff d)) := by
  have hset : (!h.o.mFrameworkActionReqObj) = false := by simp [hc.isSet]
  have hd := hc.entry d
  have hless : h.outstanding d - 1 < 2 ^ 31 := Nat.lt_of_le_of_lt (Nat.sub_le _ _) (hc.bounded d)
  rcases Nat.lt_trichotomy (h.outstanding d) 1 with h0 | h1 | h2
  · -- nobody has turned the item on: the call does nothing
    have hz : h.outstanding d = 0 := by omega
    rw [if_pos hz] at hd
    have ho : h.o.turnOff d = h.o := by simp [ActionObserver.turnOff, hset, hd]
    have hsame : Function.update h.outstanding d (h.outstanding d - 1) = h.outstanding := by
      rw [hz, Function.update_eq_self_iff, hz]
    refine ⟨bounded_update hc.bounded d hless, ?_, ?_, ?_, ?_⟩
    · simp only [powerStep, ho]; exact hc.isSet
    · simp only [powerStep, ho, hsame]; exact hc.entry
    · simp only [powerStep, ho, hz, zero_ne_one, if_false]; exact hc.posted
    · simp only [powerStep, ho]; exact hc.onlyOn
  · have hn : ¬ h.outstanding d = 0 := by omega
    rw [if_neg hn, h1] at hd
    have ho : h.o.turnOff d =
        { h.o with
          mActiveRequestCount := h.o.mActiveRequestCount.erase d
          mMsgTask := h.o.mMsgTask ++ [⟨.framework, .turnOff d⟩] } := by
      simp [ActionObserver.turnOff, hset, hd, ActionObserver.sendMsg, toInt32]
    refine ⟨bounded_update hc.bounded d hless, ?_, ?_, ?_, ?_⟩
    · simp only [powerStep, ho]; exact hc.isSet
    · simp only [powerStep, ho, h1]
      refine getElem?_edit hc.entry (by simp) fun x hx => ?_
      rw [Std.TreeMap.getElem?_erase]
      simp [Ne.symm hx]
    · simp only [powerStep, ho, h1, if_true]
      rw [List.map_append, ← List.append_assoc, hc.posted]
      rfl
    · simp only [powerStep, ho]
      intro msg hmsg hobs
      rcases List.mem_append.mp hmsg with hm | hm
      · exact hc.onlyOn msg hm hobs
      · obtain rfl := List.mem_singleton.mp hm
        cases hobs
  · have hn : ¬ h.outstanding d = 0 := by omega
    have hn1 : ¬ h.outstanding d = 1 := by omega
    have hpos : ¬ (h.outstanding d : Int) - 1 = 0 := by omega
    have hn' : ¬ h.outstanding d - 1 = 0 := by omega
    have hcast : ((h.outstanding d - 1 : Nat) : Int) = h.outstanding d - 1 := by omega
    rw [if_neg hn] at hd
    have hcount : toInt32 ((h.outstanding d : Int) - 1) = h.outstanding d - 1 := by
      rw [← hcast]
      exact (toInt32_eq_iff (h.outstanding d - 1)).mpr hless
    have ho : h.o.turnOff d =
        { h.o with
          mActiveRequestCount := h.o.mActiveRequestCount.insert d (h.outstanding d - 1) } := by
      simp [ActionObserver.turnOff, hset, hd, hpos, hcount]
    refine ⟨bounded_update hc.bounded d hless, ?_, ?_, ?_, ?_⟩
    · simp only [powerStep, ho]; exact hc.isSet
    · simp only [powerStep, ho]
      refine getElem?_edit hc.entry ?_ fun x hx => ?_
      · rw [if_neg hn', hcast, Std.TreeMap.getElem?_insert_self]
      · rw [Std.TreeMap.getElem?_insert]
        simp [Ne.symm hx]
    · simp only [powerStep, ho, hn1, if_false]; exact hc.posted
    · simp only [powerStep, ho]; exact hc.onlyOn

/-- A message to the framework is one of the transitions, in its turn. -/
theorem counted_process {h : PowerHistory} (hc : Counted h)
    (hg : CallsFramework h .processNext) : Counted (powerStep h .processNext) := by
  cases hq : h.o.mMsgTask with
  | nil =>
    have ho : h.o.processNext = h.o := by simp [ActionObserver.processNext, hq]
    simpa only [powerStep, ho] using hc
  | cons msg rest =>
    have hto : msg.mFrameworkActionReqObj = .framework := hg rfl msg (by simp [hq])
    have ho : h.o.processNext =
        { h.o with mMsgTask := rest, toFramework := h.o.toFramework ++ [msg.call] } := by
      simp [ActionObserver.processNext, hq, ActionObserver.proc, hto]
    refine ⟨hc.bounded, ?_, ?_, ?_, ?_⟩
    · simp only [powerStep, ho]; exact hc.isSet
    · simp only [powerStep, ho]; exact hc.entry
    · have hp := hc.posted
      simp only [powerStep, ho]
      rw [hq, List.map_cons] at hp
      rw [List.append_assoc]
      exact hp
    · simp only [powerStep, ho]
      intro m hm
      exact hc.onlyOn m (hq ▸ List.mem_cons_of_mem _ hm)

/-- One more than a count is never that count, whatever wraps. -/
theorem toInt32_succ_ne (n : Nat) : toInt32 ((n : Int) + 1) ≠ n := by
  rw [toInt32, Int.bmod_def]
  split <;> omega

/-- A message to the observer counts its request once more. -/
theorem process_recounts {h : PowerHistory} (hc : Counted h)
    (hg : ¬ CallsFramework h .processNext) :
    ∃ d, (powerStep h .processNext).o.requestCount d ≠ h.outstanding d := by
  simp only [CallsFramework, true_imp_iff, not_forall] at hg
  obtain ⟨msg, hhead, hto⟩ := hg
  cases hq : h.o.mMsgTask with
  | nil => simp [hq] at hhead
  | cons msg' rest =>
    obtain rfl : msg' = msg := by simpa [hq] using hhead
    have hobs : msg'.mFrameworkActionReqObj = .observer := by
      cases hm : msg'.mFrameworkActionReqObj with
      | observer => rfl
      | framework => exact absurd hm hto
    obtain ⟨d, t, hcall⟩ := hc.onlyOn msg' (hq ▸ List.mem_cons_self) hobs
    have hset : (!h.o.mFrameworkActionReqObj) = false := by simp [hc.isSet]
    have hd := hc.entry d
    refine ⟨d, ?_⟩
    simp only [powerStep, ActionObserver.processNext, hq, ActionObserver.proc, hobs, hcall,
      ActionObserver.turnOn, hset, ActionObserver.requestCount]
    by_cases h0 : h.outstanding d = 0
    · rw [if_pos h0] at hd
      simp [hd, h0, ActionObserver.sendMsg]
    · rw [if_neg h0] at hd
      simpa [hd] using toInt32_succ_ne (h.outstanding d)

/-- A request too many for the `int` leaves a count that is not the clients'. -/
theorem overflow_miscounts {h : PowerHistory} (hc : Counted h) {d : DataItemId} {t : Int}
    (hlarge : ¬ h.outstanding d + 1 < 2 ^ 31) : ¬ PowerFits (powerStep h (.turnOn d t)) := by
  intro hf
  have hset : (!h.o.mFrameworkActionReqObj) = false := by simp [hc.isSet]
  have hd := hc.entry d
  have h0 : ¬ h.outstanding d = 0 := by omega
  rw [if_neg h0] at hd
  have hcount := hf.counts d
  simp only [powerStep, ActionObserver.turnOn, hset, hd, ActionObserver.requestCount] at hcount
  rw [Function.update_self] at hcount
  refine hlarge ((toInt32_eq_iff (h.outstanding d + 1)).mp ?_)
  simpa using hcount

/-! ## Runs -/

theorem powerFits_step_iff {h : PowerHistory} (hc : Counted h) (e : PowerEvent) :
    PowerFits (powerStep h e) ↔ CallsFramework h e ∧ CountFits h e := by
  cases e with
  | turnOn d t =>
    constructor
    · intro hf
      refine ⟨fun he => (by cases he), fun d' t' he => ?_⟩
      cases he
      by_contra hlarge
      exact overflow_miscounts hc hlarge hf
    · exact fun hg => (counted_turnOn hc (hg.2 d t rfl)).fits
  | turnOff d =>
    exact iff_of_true (counted_turnOff hc d).fits
      ⟨fun he => (by cases he), fun _ _ he => (by cases he)⟩
  | processNext =>
    constructor
    · intro hf
      refine ⟨?_, fun _ _ he => (by cases he)⟩
      by_contra hg
      obtain ⟨d, hd⟩ := process_recounts hc hg
      exact hd (hf.counts d)
    · intro hg
      exact (counted_process hc hg.1).fits

theorem counted_step {h : PowerHistory} (hc : Counted h) {e : PowerEvent}
    (hg : CallsFramework h e ∧ CountFits h e) : Counted (powerStep h e) := by
  cases e with
  | turnOn d t => exact counted_turnOn hc (hg.2 d t rfl)
  | turnOff d => exact counted_turnOff hc d
  | processNext => exact counted_process hc hg.1

/-- **The framework is told each first request and last withdrawal, and the
counts are the clients', exactly in the runs in which no message that calls
the observer itself is processed and no count leaves the range of `int`.** -/
theorem power_fits_iff (es : List PowerEvent) :
    Steps powerStep (fun h e => PowerFits (powerStep h e)) .start es ↔
      Steps powerStep (fun h e => CallsFramework h e ∧ CountFits h e) .start es :=
  steps_iff_guard (I := Counted) (A := fun _ _ => True)
    (fun _ e hc _ => powerFits_step_iff hc e)
    (fun _ e hc _ hf => counted_step hc ((powerFits_step_iff hc e).mp hf)) counted_start
    (steps_of_forall (fun _ _ => trivial) _ _)

/-- The first request of all is counted twice, and the framework hears nothing. -/
theorem first_request_counted_twice :
    ¬ Steps powerStep (fun h e => PowerFits (powerStep h e)) .start
      [.turnOn 7 0, .processNext] := by
  intro hh
  obtain ⟨-, hf, -⟩ := hh
  have hcount := hf.counts 7
  revert hcount
  decide

end DeviceHal.Core.ModulePower
