import DeviceHal.Utils.LinkedList
import Mathlib.Data.List.Count

/-! # Message queue

Messages are sent to the head of a list and received from its tail. In any
order of sends, receives, flushes and searches the list stays linked both ways,
messages are received in the order they were sent, and each one leaves the
queue once: it is handed out, or it is dropped and then given to its dealloc
function, if it has one. -/
namespace DeviceHal.Utils.MsgQueue
open DeviceHal.Lib.DoublyLinked DeviceHal.Utils.LinkedList

structure MsgQ (α δ : Type) where
  msg_list : ListState α δ
  unblocked : Bool

inductive MsqQErrType where
  | eMSG_Q_SUCCESS
  | eMSG_Q_FAILURE_GENERAL
  | eMSG_Q_INVALID_PARAMETER
  | eMSG_Q_INVALID_HANDLE
  | eMSG_Q_UNAVAILABLE_RESOURCE
  | eMSG_Q_INSUFFICIENT_BUFFER
deriving DecidableEq

def convert_linked_list_err_type : LinkedListErrType → MsqQErrType
  | .eLINKED_LIST_SUCCESS => .eMSG_Q_SUCCESS
  | .eLINKED_LIST_INVALID_PARAMETER => .eMSG_Q_INVALID_PARAMETER
  | .eLINKED_LIST_INVALID_HANDLE => .eMSG_Q_INVALID_HANDLE
  | .eLINKED_LIST_UNAVAILABLE_RESOURCE => .eMSG_Q_UNAVAILABLE_RESOURCE
  | .eLINKED_LIST_INSUFFICIENT_BUFFER => .eMSG_Q_INSUFFICIENT_BUFFER
  | .eLINKED_LIST_FAILURE_GENERAL => .eMSG_Q_FAILURE_GENERAL

variable {α δ : Type}

def msg_q_init : MsgQ α δ := ⟨linked_list_init, false⟩

def msg_q_snd (q : MsgQ α δ) (msg_obj : Option α) (dealloc : Option δ) (allocated : Bool) :
    Option (MsgQ α δ × MsqQErrType) :=
  if msg_obj.isNone then some (q, .eMSG_Q_INVALID_PARAMETER)
  else if q.unblocked then some (q, .eMSG_Q_UNAVAILABLE_RESOURCE)
  else do
    let (msg_list, rv) ← linked_list_add q.msg_list msg_obj dealloc allocated
    some ({ q with msg_list }, convert_linked_list_err_type rv)

/-- A receiver waits while the queue is empty. -/
inductive Receipt (α : Type) where
  | waits
  | returns (rv : MsqQErrType) (msg_obj : Option α)

def Receipt.msg_obj : Receipt α → Option α
  | .waits => none
  | .returns _ msg_obj => msg_obj

/-- `msg_obj` says whether the caller has a place for the message. -/
def msg_q_rcv (q : MsgQ α δ) (msg_obj : Bool) : Option (MsgQ α δ × Receipt α) :=
  if !msg_obj then some (q, .returns .eMSG_Q_INVALID_PARAMETER none)
  else if q.unblocked then some (q, .returns .eMSG_Q_UNAVAILABLE_RESOURCE none)
  else if linked_list_empty q.msg_list then some (q, .waits)
  else do
    let (msg_list, rv, data_obj) ← linked_list_remove q.msg_list msg_obj
    some ({ q with msg_list }, .returns (convert_linked_list_err_type rv) data_obj)

def msg_q_flush (q : MsgQ α δ) : Option (MsgQ α δ × MsqQErrType) := do
  let (msg_list, rv) ← linked_list_flush q.msg_list
  some ({ q with msg_list }, convert_linked_list_err_type rv)

def msg_q_unblock (q : MsgQ α δ) : MsgQ α δ × MsqQErrType :=
  if q.unblocked then (q, .eMSG_Q_UNAVAILABLE_RESOURCE)
  else ({ q with unblocked := true }, .eMSG_Q_SUCCESS)

/-! ## Each function -/

section
variable {q : MsgQ α δ} {l : List (Nat × Message α δ)}

theorem snd_spec (h : Holds q.msg_list l) (hu : ¬ q.unblocked) (msg_obj : α) (dealloc : Option δ) :
    ∃ msg_list, msg_q_snd q (some msg_obj) dealloc true =
        some ({ q with msg_list }, .eMSG_Q_SUCCESS) ∧
      Holds msg_list ((q.msg_list.nextAddr, ⟨msg_obj, dealloc⟩) :: l) ∧
      msg_list.dealloc_calls = q.msg_list.dealloc_calls := by
  obtain ⟨msg_list, hadd, hholds, hcalls⟩ := add_spec h msg_obj dealloc
  refine ⟨msg_list, ?_, hholds, hcalls⟩
  rw [msg_q_snd, if_neg (by simp), if_neg hu, hadd]
  rfl

theorem rcv_spec {a : Nat} {m : Message α δ} (h : Holds q.msg_list (l ++ [(a, m)]))
    (hu : ¬ q.unblocked) :
    ∃ msg_list, msg_q_rcv q true =
        some ({ q with msg_list }, .returns .eMSG_Q_SUCCESS (some m.data_ptr)) ∧
      Holds msg_list l ∧ msg_list.dealloc_calls = q.msg_list.dealloc_calls := by
  obtain ⟨msg_list, hremove, hholds, hcalls⟩ := remove_spec h
  have hempty : ¬ linked_list_empty q.msg_list := fun he => List.append_ne_nil_of_right_ne_nil l
    (List.cons_ne_nil _ _) (firstOr_eq_none.mp (h.linked.head.symm.trans (of_decide_eq_true he)))
  refine ⟨msg_list, ?_, hholds, hcalls⟩
  rw [msg_q_rcv, if_neg (by simp), if_neg hu, if_neg hempty, hremove]
  rfl

theorem msg_q_flush_spec (h : Holds q.msg_list l) :
    ∃ msg_list, msg_q_flush q = some ({ q with msg_list }, .eMSG_Q_SUCCESS) ∧ Holds msg_list [] ∧
      msg_list.dealloc_calls = q.msg_list.dealloc_calls ++
        (l.map Prod.snd).filterMap Message.deallocCall := by
  obtain ⟨msg_list, hflush, hholds, hcalls⟩ := flush_spec h
  refine ⟨msg_list, ?_, hholds, ?_⟩
  · rw [msg_q_flush, hflush]
    rfl
  · rw [hcalls, List.filterMap_map]
    rfl

end

/-! ## Calls in any order -/

inductive Call (α δ : Type) where
  | snd (msg_obj : Option α) (dealloc : Option δ) (allocated : Bool)
  | rcv (msg_obj : Bool)
  | flush
  | unblock
  | search (data_p : Bool) (equal : Option (α → Bool)) (rm_if_found : Bool)

/-- The queue, and what its callers have seen of it, oldest first. -/
structure Traffic (α δ : Type) where
  q : MsgQ α δ
  /-- The messages that were accepted. -/
  sent : List (Message α δ)
  received : List α
  /-- What searches handed out and removed. -/
  taken : List α

def Traffic.start : Traffic α δ := ⟨msg_q_init, [], [], []⟩

def Traffic.call (t : Traffic α δ) : Call α δ → Option (Traffic α δ)
  | .snd msg_obj dealloc allocated => do
    let (q, rv) ← msg_q_snd t.q msg_obj dealloc allocated
    let accepted := if rv = .eMSG_Q_SUCCESS then msg_obj.map (⟨·, dealloc⟩) else none
    some { t with q, sent := t.sent ++ accepted.toList }
  | .rcv msg_obj => do
    let (q, receipt) ← msg_q_rcv t.q msg_obj
    some { t with q, received := t.received ++ receipt.msg_obj.toList }
  | .flush => do
    let (q, _) ← msg_q_flush t.q
    some { t with q }
  | .unblock => some { t with q := (msg_q_unblock t.q).1 }
  | .search data_p equal rm_if_found => do
    let (msg_list, _, out) ← linked_list_search t.q.msg_list data_p equal rm_if_found
    let copied := if rm_if_found then out.join else none
    some { t with q := { t.q with msg_list }, taken := t.taken ++ copied.toList }

def Traffic.calls (t : Traffic α δ) : List (Call α δ) → Option (Traffic α δ)
  | [] => some t
  | c :: cs => (t.call c).bind fun t => t.calls cs

/-! ## Where each message is -/

/-- The queue holds the list, and every message sent is in one place. -/
structure Accounts (t : Traffic α δ) (l : List (Nat × Message α δ))
    (received taken dropped : List (Message α δ)) : Prop where
  holds : Holds t.q.msg_list l
  received_eq : received.map Message.data_ptr = t.received
  taken_eq : taken.map Message.data_ptr = t.taken
  dealloc_calls : t.q.msg_list.dealloc_calls = dropped.filterMap Message.deallocCall
  fifo : (received ++ (l.map Prod.snd).reverse).Sublist t.sent
  once : t.sent.Perm (l.map Prod.snd ++ received ++ taken ++ dropped)

def Kept (t : Traffic α δ) : Prop := ∃ l received taken dropped, Accounts t l received taken dropped

variable {t : Traffic α δ}

theorem kept_start : Kept (.start : Traffic α δ) :=
  ⟨[], [], [], [], holds_init, rfl, rfl, rfl, List.Sublist.refl _, List.Perm.refl _⟩

/-- Messages leave the queue: each one is received, taken or dropped. -/
theorem Accounts.leave {l l' : List (Nat × Message α δ)}
    {received taken dropped r k d : List (Message α δ)} (h : Accounts t l received taken dropped)
    {t' : Traffic α δ} (hholds : Holds t'.q.msg_list l') (hsent : t'.sent = t.sent)
    (hr : t'.received = t.received ++ r.map Message.data_ptr)
    (hk : t'.taken = t.taken ++ k.map Message.data_ptr)
    (hd : t'.q.msg_list.dealloc_calls =
      t.q.msg_list.dealloc_calls ++ d.filterMap Message.deallocCall)
    (horder : (r ++ (l'.map Prod.snd).reverse).Sublist (l.map Prod.snd).reverse)
    (hleave : (l.map Prod.snd).Perm (l'.map Prod.snd ++ r ++ k ++ d)) :
    Accounts t' l' (received ++ r) (taken ++ k) (dropped ++ d) where
  holds := hholds
  received_eq := by rw [List.map_append, h.received_eq, hr]
  taken_eq := by rw [List.map_append, h.taken_eq, hk]
  dealloc_calls := by rw [List.filterMap_append, ← h.dealloc_calls, hd]
  fifo := by
    rw [hsent, List.append_assoc]
    exact ((List.Sublist.refl received).append horder).trans h.fifo
  once := by
    classical
    refine (hsent ▸ h.once).trans (List.perm_iff_count.mpr fun x => ?_)
    have hcount := hleave.count_eq x
    simp only [List.count_append] at hcount ⊢
    omega

theorem kept_snd (h : Kept t) (msg_obj : Option α) (dealloc : Option δ) (allocated : Bool) :
    ∃ t', t.call (.snd msg_obj dealloc allocated) = some t' ∧ Kept t' := by
  obtain _ | msg_obj := msg_obj
  · exact ⟨t, by simp [Traffic.call, msg_q_snd], h⟩
  by_cases hu : t.q.unblocked
  · exact ⟨t, by simp [Traffic.call, msg_q_snd, hu], h⟩
  obtain ⟨l, received, taken, dropped, h⟩ := h
  cases allocated with
  | false =>
    have hfails : msg_q_snd t.q (some msg_obj) dealloc false =
        some (t.q, .eMSG_Q_FAILURE_GENERAL) := by
      rw [msg_q_snd, if_neg (by simp), if_neg hu]
      rfl
    exact ⟨t, by simp [Traffic.call, hfails], l, received, taken, dropped, h⟩
  | true =>
    obtain ⟨msg_list, hsnd, hholds, hcalls⟩ := snd_spec h.holds hu msg_obj dealloc
    refine ⟨{ t with q := { t.q with msg_list }, sent := t.sent ++ [⟨msg_obj, dealloc⟩] },
      by simp [Traffic.call, hsnd], _, received, taken, dropped, hholds, h.received_eq,
      h.taken_eq, hcalls.trans h.dealloc_calls, ?_, ?_⟩
    · rw [List.map_cons, List.reverse_cons, ← List.append_assoc]
      exact h.fifo.append (List.Sublist.refl _)
    · exact (List.perm_append_singleton _ _).trans (h.once.cons _)

theorem kept_rcv (h : Kept t) (msg_obj : Bool) :
    ∃ t', t.call (.rcv msg_obj) = some t' ∧ Kept t' := by
  cases msg_obj with
  | false => exact ⟨t, by simp [Traffic.call, msg_q_rcv, Receipt.msg_obj], h⟩
  | true =>
    by_cases hu : t.q.unblocked
    · exact ⟨t, by simp [Traffic.call, msg_q_rcv, Receipt.msg_obj, hu], h⟩
    obtain ⟨l, received, taken, dropped, h⟩ := h
    obtain rfl | ⟨l, ⟨a, m⟩, rfl⟩ := List.eq_nil_or_concat l
    · have hempty : linked_list_empty t.q.msg_list := decide_eq_true h.holds.linked.head
      exact ⟨t, by simp [Traffic.call, msg_q_rcv, Receipt.msg_obj, hu, hempty], [], received, taken,
        dropped, h⟩
    rw [List.concat_eq_append] at h
    obtain ⟨msg_list, hrcv, hholds, hcalls⟩ := rcv_spec h.holds hu
    refine ⟨{ t with q := { t.q with msg_list }, received := t.received ++ [m.data_ptr] },
      by simp [Traffic.call, hrcv, Receipt.msg_obj], l, _, _, _,
      h.leave (r := [m]) (k := []) (d := []) hholds rfl rfl (List.append_nil _).symm
        (hcalls.trans (List.append_nil _).symm) ?_ ?_⟩
    · rw [List.map_append, List.reverse_append]
      exact List.Sublist.refl _
    · rw [List.map_append, List.append_nil, List.append_nil]
      exact List.Perm.refl _

theorem kept_flush (h : Kept t) : ∃ t', t.call .flush = some t' ∧ Kept t' := by
  obtain ⟨l, received, taken, dropped, h⟩ := h
  obtain ⟨msg_list, hflush, hholds, hcalls⟩ := msg_q_flush_spec h.holds
  exact ⟨{ t with q := { t.q with msg_list } }, by simp [Traffic.call, hflush], [], _, _, _,
    h.leave (r := []) (k := []) (d := l.map Prod.snd) hholds rfl (List.append_nil _).symm
      (List.append_nil _).symm hcalls (List.nil_sublist _) (List.Perm.refl _)⟩

theorem kept_unblock (h : Kept t) : ∃ t', t.call .unblock = some t' ∧ Kept t' := by
  obtain ⟨l, received, taken, dropped, h⟩ := h
  have hlist : (msg_q_unblock t.q).1.msg_list = t.q.msg_list := by
    unfold msg_q_unblock
    split <;> rfl
  exact ⟨{ t with q := (msg_q_unblock t.q).1 }, rfl, l, received, taken, dropped,
    hlist.symm ▸ h.holds, h.received_eq, h.taken_eq, hlist.symm ▸ h.dealloc_calls, h.fifo, h.once⟩

theorem kept_search (h : Kept t) (data_p : Bool) (equal : Option (α → Bool)) (rm_if_found : Bool) :
    ∃ t', t.call (.search data_p equal rm_if_found) = some t' ∧ Kept t' := by
  obtain _ | equal := equal
  · exact ⟨t, by simp [Traffic.call, linked_list_search], h⟩
  obtain ⟨l, received, taken, dropped, h⟩ := h
  obtain ⟨msg_list, l', hsearch, hholds, hrest, hcalls⟩ :=
    search_spec h.holds data_p equal rm_if_found
  let removed := searchRemoves (l.map Prod.snd) equal rm_if_found
  let copied := if data_p then removed else []
  refine ⟨{ t with q := { t.q with msg_list }, taken := t.taken ++ copied.map Message.data_ptr }, ?_,
    l', _, _, _, h.leave (r := []) (k := copied) (d := if data_p then [] else removed)
      hholds rfl (List.append_nil _).symm rfl hcalls ?_ ?_⟩
  · rw [Traffic.call, hsearch]
    exact congrArg (fun out => some { t with q := { t.q with msg_list }, taken := t.taken ++ out })
      (searchAnswer_removed (l.map Prod.snd) data_p equal rm_if_found)
  · rw [hrest]
    exact (searchRest_sublist _ _ _).reverse
  · rw [hrest, List.append_nil]
    have hsplits := search_splits (l.map Prod.snd) equal rm_if_found
    cases data_p
    · exact (List.append_nil (searchRest (l.map Prod.snd) equal rm_if_found)).symm ▸ hsplits
    · exact (List.append_nil _).symm ▸ hsplits

theorem kept_call (h : Kept t) (c : Call α δ) : ∃ t', t.call c = some t' ∧ Kept t' := by
  cases c with
  | snd msg_obj dealloc allocated => exact kept_snd h msg_obj dealloc allocated
  | rcv msg_obj => exact kept_rcv h msg_obj
  | flush => exact kept_flush h
  | unblock => exact kept_unblock h
  | search data_p equal rm_if_found => exact kept_search h data_p equal rm_if_found

theorem kept_calls (h : Kept t) (cs : List (Call α δ)) : ∃ t', t.calls cs = some t' ∧ Kept t' := by
  induction cs generalizing t with
  | nil => exact ⟨t, rfl, h⟩
  | cons c cs ih =>
    obtain ⟨mid, hmid, hkept⟩ := kept_call h c
    obtain ⟨t', ht', hkept'⟩ := ih hkept
    exact ⟨t', by rw [Traffic.calls, hmid, Option.bind_some, ht'], hkept'⟩

/-! ## The queue as its callers see it -/

/-- The walks from the head and from the tail pass the same elements in
opposite order. They hold the messages, newest first, and nothing else is
allocated. -/
structure Mirrored (s : ListState α δ) (messages : List (Message α δ)) : Prop where
  ends : s.head = none ↔ s.tail = none
  walks : ∃ elems, Path Node.next s.nodes s.head elems ∧
    Path Node.prev s.nodes s.tail elems.reverse ∧
    elems.map (fun a => (s.nodes a).map Node.value) = messages.map some ∧
    ∀ a ∉ elems, s.nodes a = none

theorem mirrored {s : ListState α δ} {l : List (Nat × Message α δ)} (h : Holds s l) :
    Mirrored s (l.map Prod.snd) where
  ends := by rw [h.linked.head, h.linked.tail, firstOr_eq_none, lastOr_eq_none]
  walks := by
    refine ⟨addresses l, h.linked.head ▸ h.linked.seg.path_next,
      h.linked.tail ▸ h.linked.seg.path_prev, ?_, h.only⟩
    rw [addresses, List.map_map, List.map_map]
    exact List.map_congr_left fun p hp => h.linked.seg.value_of_mem hp

/-- What the next call does. The oldest of the messages is the last one. -/
structure Serves (q : MsgQ α δ) (queued : List (Message α δ)) : Prop where
  send : ¬ q.unblocked → ∀ msg_obj dealloc, ∃ msg_list,
    msg_q_snd q (some msg_obj) dealloc true = some ({ q with msg_list }, .eMSG_Q_SUCCESS) ∧
    Mirrored msg_list (⟨msg_obj, dealloc⟩ :: queued) ∧
    msg_list.dealloc_calls = q.msg_list.dealloc_calls
  receive : ¬ q.unblocked → ∀ newer m, queued = newer ++ [m] → ∃ msg_list,
    msg_q_rcv q true =
      some ({ q with msg_list }, .returns .eMSG_Q_SUCCESS (some m.data_ptr)) ∧
    Mirrored msg_list newer ∧ msg_list.dealloc_calls = q.msg_list.dealloc_calls
  flush : ∃ msg_list, msg_q_flush q = some ({ q with msg_list }, .eMSG_Q_SUCCESS) ∧
    Mirrored msg_list [] ∧
    msg_list.dealloc_calls = q.msg_list.dealloc_calls ++ queued.filterMap Message.deallocCall
  search : ∀ data_p equal rm_if_found, ∃ msg_list,
    linked_list_search q.msg_list data_p (some equal) rm_if_found =
      some (msg_list, searchAnswer queued data_p equal) ∧
    Mirrored msg_list (searchRest queued equal rm_if_found) ∧
    msg_list.dealloc_calls = q.msg_list.dealloc_calls ++
      (if data_p then [] else searchRemoves queued equal rm_if_found).filterMap
        Message.deallocCall

theorem serves {q : MsgQ α δ} {l : List (Nat × Message α δ)} (h : Holds q.msg_list l) :
    Serves q (l.map Prod.snd) where
  send hu msg_obj dealloc := by
    obtain ⟨msg_list, hsnd, hholds, hcalls⟩ := snd_spec h hu msg_obj dealloc
    exact ⟨msg_list, hsnd, mirrored hholds, hcalls⟩
  receive hu newer m hlast := by
    obtain ⟨l, last, rfl, rfl, hm⟩ := List.map_eq_append_iff.mp hlast
    obtain ⟨⟨a, m⟩, rest, rfl, rfl, hrest⟩ := List.map_eq_cons_iff.mp hm
    obtain rfl := List.map_eq_nil_iff.mp hrest
    obtain ⟨msg_list, hrcv, hholds, hcalls⟩ := rcv_spec h hu
    exact ⟨msg_list, hrcv, mirrored hholds, hcalls⟩
  flush := by
    obtain ⟨msg_list, hflush, hholds, hcalls⟩ := msg_q_flush_spec h
    exact ⟨msg_list, hflush, mirrored hholds, hcalls⟩
  search data_p equal rm_if_found := by
    obtain ⟨msg_list, l', hsearch, hholds, hrest, hcalls⟩ := search_spec h data_p equal rm_if_found
    exact ⟨msg_list, hsearch, hrest ▸ mirrored hholds, hcalls⟩

/-- The messages sent so far are queued, received, taken by a search or
dropped, each in one of these places. -/
structure Sound (t : Traffic α δ) (queued received taken dropped : List (Message α δ)) : Prop where
  mirrored : Mirrored t.q.msg_list queued
  received_eq : received.map Message.data_ptr = t.received
  taken_eq : taken.map Message.data_ptr = t.taken
  dealloc_calls : t.q.msg_list.dealloc_calls = dropped.filterMap Message.deallocCall
  fifo : (received ++ queued.reverse).Sublist t.sent
  once : t.sent.Perm (queued ++ received ++ taken ++ dropped)
  serves : Serves t.q queued

/-- **The queue is first in, first out, and loses no message.** -/
theorem fifo_lossless (cs : List (Call α δ)) :
    ∃ t queued received taken dropped, (Traffic.start : Traffic α δ).calls cs = some t ∧
      Sound t queued received taken dropped := by
  obtain ⟨t, ht, l, received, taken, dropped, h⟩ := kept_calls kept_start cs
  exact ⟨t, l.map Prod.snd, received, taken, dropped, ht, mirrored h.holds, h.received_eq,
    h.taken_eq, h.dealloc_calls, h.fifo, h.once, serves h.holds⟩

/-- A message sent without a dealloc function is flushed, and then neither
handed out nor given to one. -/
theorem flushed_not_deallocated :
    ∃ t : Traffic Nat Nat, Traffic.start.calls [.snd (some 1) none true, .flush] = some t ∧
      t.q.msg_list.head = none ∧
      ¬ (t.sent.map Message.data_ptr).Perm
        (t.received ++ t.taken ++ t.q.msg_list.dealloc_calls.map Prod.snd) :=
  ⟨_, rfl, rfl, by decide⟩

end DeviceHal.Utils.MsgQueue
