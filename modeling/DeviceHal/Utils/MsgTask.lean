import DeviceHal.Utils.LocThread
import DeviceHal.Utils.MsgQueue

/-! # Message tasks

`MsgTask.cpp`: a thread that takes messages from a queue and processes them, one
after the other. Any thread sends; the owner makes the task and later calls
`destroy`, which unblocks the queue and leaves the deletion of the task to the
thread. The steps of all of them are taken in any order. -/
namespace DeviceHal.Utils.MsgTask
open DeviceHal.Lib.DoublyLinked DeviceHal.Lib.Run
open DeviceHal.Utils.LinkedList DeviceHal.Utils.LocThread DeviceHal.Utils.MsgQueue

/-! ## The task and its steps -/

inductive Dealloc where
  | LocMsgDestroy

/-- Where the thread is in `run`. A receiver that waits is in the loop of `msg_q_rcv`. -/
inductive RunAt (μ : Type) where
  | rcv
  | waits
  | proc (msg : μ)
  | delete (msg : μ)

/-- Where the owner is: in the constructor or before `destroy`, and then in `destroy`. -/
inductive OwnerAt where
  | constructs
  | unblocks (thread : Bool)
  | clears (thread : Bool)
  | leaves
  | gone

/-- Who touches a task that is deleted. -/
inductive Stray where
  | sends | runs | unblocks | clears | deletes
deriving DecidableEq

structure Task (μ : Type) where
  mQ : MsgQ μ Dealloc
  /-- The pointer is not null. -/
  mThread : Bool
  threads : Threads
  owner : OwnerAt
  inRun : RunAt μ
  alive : Bool
  /-- The messages that the queue has accepted, and those that it has not. -/
  sent : List μ
  refused : List μ
  /-- The calls of `proc`, and the deletions in `run`. -/
  procs : List μ
  deletes : List μ
  strays : List Stray

inductive Event (μ : Type) where
  /-- The last argument says whether the queue gets memory. -/
  | send (msg : Option μ) (allocated : Bool)
  | thread
  | owner

variable {μ : Type}

/-- `msg_q_rcv` from where it waits on; `unblocked` has been looked at before. -/
def msg_q_rcv_wakes (q : MsgQ μ Dealloc) : Option (MsgQ μ Dealloc × Receipt μ) :=
  if linked_list_empty q.msg_list ∧ ¬ q.unblocked then some (q, .waits)
  else do
    let (msg_list, rv, data_obj) ← linked_list_remove q.msg_list true
    some ({ q with msg_list }, .returns (convert_linked_list_err_type rv) data_obj)

namespace Task

/-- The task is made, with a thread or without. -/
def start (created joinable : Bool) : Task μ where
  mQ := msg_q_init
  mThread := true
  -- without a thread the members are those of a failure
  threads := if created then .start joinable else ⟨false, false, 1, .create, .ended, [], 0⟩
  owner := .constructs
  inRun := .rcv
  alive := true
  sent := []
  refused := []
  procs := []
  deletes := []
  strays := []

def stray (t : Task μ) (u : Stray) : Task μ := { t with strays := t.strays ++ [u] }

/-- `~MsgTask`; the queue that is destroyed after the flush is empty. -/
def destructor (t : Task μ) : Option (Task μ) :=
  if t.alive then do
    let (mQ, _) ← msg_q_flush t.mQ
    some { t with mQ, alive := false }
  else some (t.stray .deletes)

def sendMsg (t : Task μ) (msg : Option μ) (allocated : Bool) : Option (Task μ) :=
  match msg with
  | none => some t
  | some msg =>
    if t.alive then do
      let (mQ, rv) ← msg_q_snd t.mQ (some msg) (some .LocMsgDestroy) allocated
      if rv = .eMSG_Q_SUCCESS then some { t with mQ, sent := t.sent ++ [msg] }
      else some { t with mQ, refused := t.refused ++ [msg] }
    else some (t.stray .sends)

/-- What `run` makes of the answer, and its result if it returns. -/
def receives (t : Task μ) : MsgQ μ Dealloc × Receipt μ → Task μ × Option Bool
  | (mQ, .waits) => ({ t with mQ, inRun := .waits }, none)
  | (mQ, .returns .eMSG_Q_SUCCESS (some msg)) => ({ t with mQ, inRun := .proc msg }, none)
  | (mQ, .returns _ _) => ({ t with mQ, inRun := .rcv }, some false)

def run (t : Task μ) : Option (Task μ × Option Bool) :=
  match t.inRun with
  | .rcv => (msg_q_rcv t.mQ true).map t.receives
  | .waits => (msg_q_rcv_wakes t.mQ).map t.receives
  | .proc msg => some ({ t with procs := t.procs ++ [msg], inRun := .delete msg }, none)
  | .delete msg => some ({ t with deletes := t.deletes ++ [msg], inRun := .rcv }, some true)

/-- A step of `threadMain`. -/
def threadStep (t : Task μ) : Option (Task μ) :=
  match t.threads.spawned with
  | .run =>
    if t.alive then do
      let (t, result) ← t.run
      match result with
      | none => some t
      | some result => some { t with threads := t.threads.spawnedStep result }
    else some (t.stray .runs)
  | .deleteRunnable => do
    let t ← t.destructor
    some { t with threads := t.threads.spawnedStep true }
  | _ => some { t with threads := t.threads.spawnedStep true }

/-- A step of the constructor or of `destroy`, which is called when the constructor is over. -/
def ownerStep (t : Task μ) : Option (Task μ) :=
  match t.owner with
  | .constructs =>
    match t.threads.client with
    | .bye => some { t with owner := .unblocks t.mThread }
    -- `start` has returned false
    | .done => some { t with mThread := false, owner := .unblocks false }
    | _ => some { t with threads := t.threads.clientStep .destructor }
  | .unblocks thread =>
    if t.alive then some { t with mQ := (msg_q_unblock t.mQ).1, owner := .clears thread }
    else some (t.stray .unblocks)
  | .clears true =>
    let t := if t.alive then { t with mThread := false } else t.stray .clears
    some { t with owner := .leaves }
  | .clears false => do
    let t ← t.destructor
    some { t with owner := .gone }
  | .leaves => some { t with threads := t.threads.clientStep .destructor }
  | .gone => some t

def take (t : Task μ) : Event μ → Option (Task μ)
  | .send msg allocated => t.sendMsg msg allocated
  | .thread => t.threadStep
  | .owner => t.ownerStep

/-- The messages that have been deleted, by the thread or with the queue. -/
def deletions (t : Task μ) : List μ := t.deletes ++ t.mQ.msg_list.dealloc_calls.map Prod.snd

/-- Nobody has anything left to do. -/
def Complete (t : Task μ) : Prop :=
  match t.owner with
  | .leaves => t.threads.Complete
  | .gone => True
  | _ => False

end Task

/-- A fault stays one. -/
def step (t : Option (Task μ)) (e : Event μ) : Option (Task μ) := t.bind (·.take e)

/-! ## Where each message is -/

/-- The message that the thread has in its hand. -/
def RunAt.msgs : RunAt μ → List μ
  | .proc msg | .delete msg => [msg]
  | _ => []

/-- It has been processed. -/
def RunAt.done : RunAt μ → List μ
  | .delete msg => [msg]
  | _ => []

/-- The queue holds the list, and the messages that were accepted are, oldest first, deleted by the
thread, in its hand, queued, or flushed with a task that is deleted. -/
structure Kept (t : Task μ) (l : List (Nat × Message μ Dealloc)) (flushed : List μ) : Prop where
  holds : Holds t.mQ.msg_list l
  owned : ∀ p ∈ l, p.2.dealloc_func = some .LocMsgDestroy
  calls : t.mQ.msg_list.dealloc_calls.map Prod.snd = flushed
  sent : t.sent = t.deletes ++ t.inRun.msgs ++ (l.map fun p => p.2.data_ptr).reverse ++
    flushed.reverse
  procs : t.procs = t.deletes ++ t.inRun.done
  fresh : t.alive = true → flushed = []
  dead : t.alive = false → l = []

/-- What a step of `run` does, with the list in the queue before and after it. -/
inductive Runs (t : Task μ) : List (Nat × Message μ Dealloc) → Task μ → Option Bool →
    List (Nat × Message μ Dealloc) → Prop where
  | refuses {l} (hu : t.mQ.unblocked = true) (hr : t.inRun = .rcv ∨ t.inRun = .waits) :
    Runs t l { t with inRun := .rcv } (some false) l
  | waits (hu : t.mQ.unblocked = false) (hr : t.inRun = .rcv ∨ t.inRun = .waits) :
    Runs t [] { t with inRun := .waits } none []
  | receives {l a m msg_list} (hr : t.inRun = .rcv ∧ t.mQ.unblocked = false ∨ t.inRun = .waits)
      (hholds : Holds msg_list l)
      (hcalls : msg_list.dealloc_calls = t.mQ.msg_list.dealloc_calls) :
    Runs t (l ++ [(a, m)]) { t with mQ.msg_list := msg_list, inRun := .proc m.data_ptr } none l
  | procs {l msg} (hr : t.inRun = .proc msg) :
    Runs t l { t with procs := t.procs ++ [msg], inRun := .delete msg } none l
  | deletes {l msg} (hr : t.inRun = .delete msg) :
    Runs t l { t with deletes := t.deletes ++ [msg], inRun := .rcv } (some true) l

section
variable {t : Task μ} {l : List (Nat × Message μ Dealloc)} {flushed : List μ}

theorem run_rcv (h : Holds t.mQ.msg_list l) (hr : t.inRun = .rcv) :
    ∃ t' result l', t.run = some (t', result) ∧ Runs t l t' result l' := by
  cases hu : t.mQ.unblocked with
  | true =>
    refine ⟨_, _, l, ?_, .refuses hu (.inl hr)⟩
    simp [Task.run, hr, msg_q_rcv, hu, Task.receives]
  | false =>
    obtain rfl | ⟨l, ⟨a, m⟩, rfl⟩ := List.eq_nil_or_concat l
    · have hempty : linked_list_empty t.mQ.msg_list := decide_eq_true h.linked.head
      refine ⟨_, _, [], ?_, .waits hu (.inl hr)⟩
      simp [Task.run, hr, msg_q_rcv, hu, hempty, Task.receives]
    · rw [List.concat_eq_append] at h ⊢
      obtain ⟨msg_list, hrcv, hholds, hcalls⟩ := rcv_spec h (by simp [hu])
      refine ⟨_, _, l, ?_, .receives (.inl ⟨hr, hu⟩) hholds hcalls⟩
      simp [Task.run, hr, hrcv, Task.receives]

theorem run_waits (h : Holds t.mQ.msg_list l) (hr : t.inRun = .waits) :
    ∃ t' result l', t.run = some (t', result) ∧ Runs t l t' result l' := by
  obtain rfl | ⟨l, ⟨a, m⟩, rfl⟩ := List.eq_nil_or_concat l
  · have hempty : linked_list_empty t.mQ.msg_list := decide_eq_true h.linked.head
    have htail : t.mQ.msg_list.tail = none := h.linked.tail
    cases hu : t.mQ.unblocked with
    | true =>
      refine ⟨_, _, [], ?_, .refuses hu (.inr hr)⟩
      have hsame : { t.mQ with unblocked := true } = t.mQ := by rw [← hu]
      simp [Task.run, hr, msg_q_rcv_wakes, hu, linked_list_remove, htail, Task.receives,
        convert_linked_list_err_type, hsame]
    | false =>
      refine ⟨_, _, [], ?_, .waits hu (.inr hr)⟩
      simp [Task.run, hr, msg_q_rcv_wakes, hu, hempty, Task.receives]
  · rw [List.concat_eq_append] at h ⊢
    obtain ⟨msg_list, hremove, hholds, hcalls⟩ := remove_spec h
    have hempty : ¬ linked_list_empty t.mQ.msg_list := fun he =>
      List.append_ne_nil_of_right_ne_nil l (List.cons_ne_nil _ _)
        (firstOr_eq_none.mp (h.linked.head.symm.trans (of_decide_eq_true he)))
    refine ⟨_, _, l, ?_, .receives (.inr hr) hholds hcalls⟩
    simp [Task.run, hr, msg_q_rcv_wakes, hempty, hremove, Task.receives,
      convert_linked_list_err_type]

theorem run_cases (h : Holds t.mQ.msg_list l) :
    ∃ t' result l', t.run = some (t', result) ∧ Runs t l t' result l' := by
  cases hr : t.inRun with
  | rcv => exact run_rcv h hr
  | waits => exact run_waits h hr
  | proc msg => exact ⟨_, _, l, by rw [Task.run, hr], .procs hr⟩
  | delete msg => exact ⟨_, _, l, by rw [Task.run, hr], .deletes hr⟩

theorem Kept.run (h : Kept t l flushed) (ha : t.alive = true) {t' : Task μ} {result : Option Bool}
    {l' : List (Nat × Message μ Dealloc)} (hrun : Runs t l t' result l') : Kept t' l' flushed := by
  obtain ⟨hholds, howned, hcalls, hsent, hprocs, hfresh, hdead⟩ := h
  cases hrun with
  | refuses hu hr | waits hu hr =>
    refine ⟨hholds, howned, hcalls, ?_, ?_, hfresh, hdead⟩
    · rcases hr with hr | hr <;> simpa [hr, RunAt.msgs] using hsent
    · rcases hr with hr | hr <;> simpa [hr, RunAt.done] using hprocs
  | receives hr hholds' hcalls' =>
    refine ⟨hholds', fun p hp => howned p (List.mem_append_left _ hp), hcalls' ▸ hcalls, ?_, ?_,
      hfresh, fun h => by cases ha.symm.trans h⟩
    · rcases hr with hr | hr <;> simpa [hr, RunAt.msgs] using hsent
    · rcases hr with hr | hr <;> simpa [hr, RunAt.done] using hprocs
  | procs hr =>
    refine ⟨hholds, howned, hcalls, ?_, ?_, hfresh, hdead⟩
    · simpa [hr, RunAt.msgs] using hsent
    · simpa [hr, RunAt.done] using hprocs
  | deletes hr =>
    refine ⟨hholds, howned, hcalls, ?_, ?_, hfresh, hdead⟩
    · simpa [hr, RunAt.msgs] using hsent
    · simpa [hr, RunAt.done] using hprocs

/-- The messages stay where they are. -/
theorem Kept.frame {t' : Task μ} (h : Kept t l flushed)
    (hq : t'.mQ.msg_list = t.mQ.msg_list) (hsent : t'.sent = t.sent) (hrun : t'.inRun = t.inRun)
    (hprocs : t'.procs = t.procs) (hdeletes : t'.deletes = t.deletes) (ha : t'.alive = t.alive) :
    Kept t' l flushed where
  holds := hq ▸ h.holds
  owned := h.owned
  calls := hq ▸ h.calls
  sent := by rw [hsent, hdeletes, hrun, h.sent]
  procs := by rw [hprocs, hdeletes, hrun, h.procs]
  fresh := ha ▸ h.fresh
  dead := ha ▸ h.dead

/-- A send leaves the threads alone. A deleted task is not touched in any other way. -/
theorem sendMsg_cases (h : Kept t l flushed) (msg : Option μ) (allocated : Bool) :
    ∃ mQ sent refused strays l',
      t.sendMsg msg allocated = some { t with mQ, sent, refused, strays } ∧
      Kept { t with mQ, sent, refused, strays } l' flushed ∧ mQ.unblocked = t.mQ.unblocked ∧
      (mQ.unblocked = true → sent = t.sent) ∧
      (strays = t.strays ∨ strays = t.strays ++ [.sends]) := by
  obtain _ | msg := msg
  · exact ⟨t.mQ, t.sent, t.refused, t.strays, l, rfl, h, rfl, fun _ => rfl, .inl rfl⟩
  by_cases ha : t.alive = true
  · by_cases hu : t.mQ.unblocked = true
    · refine ⟨t.mQ, t.sent, t.refused ++ [msg], t.strays, l, ?_, h.frame rfl rfl rfl rfl rfl rfl,
        rfl, fun _ => rfl, .inl rfl⟩
      simp [Task.sendMsg, ha, msg_q_snd, hu]
    cases allocated with
    | false =>
      have hfails : msg_q_snd t.mQ (some msg) (some .LocMsgDestroy) false =
          some (t.mQ, .eMSG_Q_FAILURE_GENERAL) := by
        rw [msg_q_snd, if_neg (by simp), if_neg hu]
        rfl
      refine ⟨t.mQ, t.sent, t.refused ++ [msg], t.strays, l, ?_, h.frame rfl rfl rfl rfl rfl rfl,
        rfl, fun _ => rfl, .inl rfl⟩
      simp [Task.sendMsg, ha, hfails]
    | true =>
      obtain ⟨msg_list, hsnd, hholds, hcalls⟩ := snd_spec h.holds hu msg (some .LocMsgDestroy)
      refine ⟨{ t.mQ with msg_list }, t.sent ++ [msg], t.refused, t.strays,
        (t.mQ.msg_list.nextAddr, ⟨msg, some .LocMsgDestroy⟩) :: l, ?_,
        ⟨hholds, List.forall_mem_cons.mpr ⟨rfl, h.owned⟩, ?_, ?_, h.procs, h.fresh, ?_⟩,
        rfl, fun h => absurd h hu, .inl rfl⟩
      · simp [Task.sendMsg, ha, hsnd]
      · exact (congrArg _ hcalls).trans h.calls
      · have hsent := h.sent
        rw [h.fresh ha] at hsent ⊢
        simp [hsent]
      · exact fun hdead => by cases ha.symm.trans hdead
  · refine ⟨t.mQ, t.sent, t.refused, t.strays ++ [.sends], l, ?_, h.frame rfl rfl rfl rfl rfl rfl,
      rfl, fun _ => rfl, .inr rfl⟩
    simp [Task.sendMsg, ha, Task.stray]

theorem destructor_cases (h : Kept t l flushed) (ha : t.alive = true) (hr : t.inRun = .rcv) :
    ∃ msg_list flushed', t.destructor = some { t with mQ.msg_list := msg_list, alive := false } ∧
      Kept { t with mQ.msg_list := msg_list, alive := false } [] flushed' := by
  obtain ⟨msg_list, hflush, hholds, hcalls⟩ := msg_q_flush_spec h.holds
  have hall : (l.map Prod.snd).filterMap Message.deallocCall =
      l.map fun p => (Dealloc.LocMsgDestroy, p.2.data_ptr) := by
    rw [List.filterMap_map, ← List.filterMap_eq_map]
    refine List.filterMap_congr fun p hp => ?_
    show p.2.dealloc_func.map _ = _
    rw [h.owned p hp]
    rfl
  refine ⟨msg_list, l.map fun p => p.2.data_ptr, ?_, hholds, by simp, ?_, ?_, h.procs,
    fun h => (by cases h), fun _ => rfl⟩
  · simp [Task.destructor, ha, hflush]
  · have hfresh := h.fresh ha
    have hnone := h.calls
    rw [hfresh, List.map_eq_nil_iff] at hnone
    rw [hcalls, hall, hnone, List.nil_append, List.map_map]
    rfl
  · have hsent := h.sent
    rw [h.fresh ha] at hsent
    simpa [hr, RunAt.msgs] using hsent

end

/-! ## Where the thread and the owner are -/

/-- The thread has not left its loop. -/
def turning : SpawnedAt → Bool
  | .readRunnable | .prerun | .loop | .run => true
  | _ => false

structure Goes (s : Threads) : Prop where
  runnable : s.mRunnable = true
  turning : turning s.spawned = true

section
variable {s : Threads}

theorem early_of_turning {p : SpawnedAt} (h : turning p = true) : p.early = true := by
  cases p <;> first | rfl | cases h

theorem Goes.spawnedStep (h : Goes s) {result : Bool} (hr : s.spawned = .run → result = true) :
    Goes (s.spawnedStep result) := by
  obtain ⟨hrunnable, hturning⟩ := h
  cases hc : s.spawned with
  | readRunnable | prerun | loop =>
    simp only [Threads.spawnedStep, hc, hrunnable, if_true]
    exact ⟨hrunnable, rfl⟩
  | run =>
    simp only [Threads.spawnedStep, hc, hr hc, if_true]
    exact ⟨hrunnable, rfl⟩
  | _ =>
    rw [hc] at hturning
    cases hturning

theorem Goes.clientStep (h : Goes s) (hc : s.client = .setName ∨ s.client = .create) :
    Goes (s.clientStep .destructor) ∧
      ((s.clientStep .destructor).client = .create ∨ (s.clientStep .destructor).client = .bye) := by
  obtain ⟨hrunnable, hturning⟩ := h
  rcases hc with hc | hc <;> simp only [Threads.clientStep, hc, hrunnable, if_true]
  · exact ⟨⟨hrunnable, hturning⟩, .inl trivial⟩
  · exact ⟨⟨hrunnable, hturning⟩, .inr trivial⟩

end

/-- Where the owner of a task with a thread is. The thread leaves its loop for an unblocked
queue only. -/
def Task.Place (t : Task μ) : Prop :=
  match t.owner with
  | .constructs => t.mThread = true ∧ t.mQ.unblocked = false ∧ Goes t.threads ∧
    (t.threads.client = .setName ∨ t.threads.client = .create ∨ t.threads.client = .bye)
  | .unblocks thread => thread = true ∧ t.mQ.unblocked = false ∧ Goes t.threads ∧
    t.threads.client = .bye
  | .clears thread => thread = true ∧ t.mQ.unblocked = true ∧ t.threads.client = .bye
  | .leaves => t.mQ.unblocked = true
  | .gone => False

structure Threaded (t : Task μ) : Prop where
  most : AtMostOnce t.threads
  alive : t.alive = true ↔ t.threads.runnableDeleted = 0
  busy : t.threads.spawned ≠ .run → t.inRun = .rcv
  place : t.Place
  untouched : t.threads.spawned = .readRunnable ∨ Lost t.threads → t.deletes = [] ∧ t.inRun = .rcv

/-- A task for which no thread could be started. -/
structure Unthreaded (t : Task μ) : Prop where
  ended : t.threads.spawned = .ended
  idle : t.inRun = .rcv
  place : match t.owner with
    | .constructs => t.alive = true ∧ t.mQ.unblocked = false ∧ t.threads.mRunnable = false ∧
      (t.threads.client = .create ∨ (∃ d, t.threads.client = .destroy d) ∨ t.threads.client = .done)
    | .unblocks thread => thread = false ∧ t.alive = true ∧ t.mQ.unblocked = false
    | .clears thread => thread = false ∧ t.alive = true
    | .leaves => False
    | .gone => t.alive = false

section
variable {t t' : Task μ}

theorem Threaded.alive_of_early (h : Threaded t) (he : t.threads.spawned.early = true) :
    t.alive = true := h.alive.mpr (h.most.2 he)

theorem Threaded.not_run_of_lost (h : Lost t.threads) : t.threads.spawned ≠ .run := by
  intro hrun
  have hread := (h.2 (by rw [hrun]; rfl)).1
  rw [hrun] at hread
  cases hread

/-- Where the owner is changes with the owner, the queue and the loop. -/
theorem Task.Place.congr (h : t.Place) (howner : t'.owner = t.owner)
    (hthread : t'.mThread = t.mThread) (hu : t'.mQ.unblocked = t.mQ.unblocked)
    (hclient : t'.threads.client = t.threads.client)
    (hgoes : t.mQ.unblocked = false → Goes t.threads → Goes t'.threads) : t'.Place := by
  unfold Task.Place at h ⊢
  rw [howner]
  cases ho : t.owner <;> simp only [ho] at h ⊢
  case constructs =>
    rw [hthread, hu, hclient]
    exact ⟨h.1, h.2.1, hgoes h.2.1 h.2.2.1, h.2.2.2⟩
  case unblocks =>
    rw [hu, hclient]
    exact ⟨h.1, h.2.1, hgoes h.2.1 h.2.2.1, h.2.2.2⟩
  case clears =>
    rw [hu, hclient]
    exact h
  case leaves => rwa [hu]

theorem spawnedStep_client (s : Threads) (result : Bool) :
    (s.spawnedStep result).client = s.client := by
  cases hc : s.spawned <;> simp only [Threads.spawnedStep, hc] <;>
    first | rfl | exact destroy_client _ _

/-- The thread goes on to its next place, with nothing in its hand. -/
theorem Threaded.spawned (h : Threaded t) {result : Bool}
    (hthreads : t'.threads = t.threads.spawnedStep result) (howner : t'.owner = t.owner)
    (hthread : t'.mThread = t.mThread) (hu : t'.mQ.unblocked = t.mQ.unblocked)
    (hresult : t.threads.spawned = .run → t.mQ.unblocked = false → result = true)
    (halive : t'.alive = if t.threads.spawned = .deleteRunnable then false else t.alive)
    (hidle : t'.inRun = .rcv) (hdeletes : t.threads.spawned ≠ .run → t'.deletes = t.deletes) :
    Threaded t' := by
  obtain ⟨hdeleted, hread, -⟩ := spawned_runnable (s := t.threads) result
  refine ⟨?_, ?_, fun _ => hidle, ?_, ?_⟩
  · rw [hthreads]
    exact atMostOnce_step .destructor t.threads (.spawned result) h.most
  · rw [hthreads, hdeleted, halive]
    by_cases hd : t.threads.spawned = .deleteRunnable
    · simp [hd]
    · simp [hd, h.alive]
  · refine h.place.congr howner hthread hu (by rw [hthreads, spawnedStep_client]) ?_
    intro hblocked hg
    rw [hthreads]
    exact hg.spawnedStep fun hrun => hresult hrun hblocked
  · rw [hthreads, lost_spawned]
    rintro (hpos | hlost)
    · exact absurd hpos hread
    · have hnot := Threaded.not_run_of_lost hlost
      exact ⟨(hdeletes hnot).trans (h.untouched (.inr hlost)).1, hidle⟩

/-- The thread stays in `run`, or something else happens. -/
theorem Threaded.stays (h : Threaded t) (hthreads : t'.threads = t.threads)
    (howner : t'.owner = t.owner) (hthread : t'.mThread = t.mThread)
    (hu : t'.mQ.unblocked = t.mQ.unblocked) (halive : t'.alive = t.alive)
    (hsame : t.threads.spawned ≠ .run → t'.inRun = t.inRun ∧ t'.deletes = t.deletes) :
    Threaded t' := by
  refine ⟨hthreads ▸ h.most, hthreads ▸ halive ▸ h.alive, ?_, ?_, ?_⟩
  · rw [hthreads]
    exact fun hnot => (hsame hnot).1.trans (h.busy hnot)
  · exact h.place.congr howner hthread hu (by rw [hthreads]) fun _ hg => hthreads ▸ hg
  · rw [hthreads]
    intro hnone
    have hnot : t.threads.spawned ≠ .run := by
      rcases hnone with hread | hlost
      · rw [hread]
        exact fun h => by cases h
      · exact Threaded.not_run_of_lost hlost
    obtain ⟨hrun, hdeletes⟩ := hsame hnot
    rw [hrun, hdeletes]
    exact h.untouched hnone

end

/-! ## The steps of the thread -/

/-- How many steps the thread still takes at most, when the queue is unblocked. -/
def rank (t : Task μ) : Nat :=
  match t.threads.spawned with
  | .ended => 0
  | .destroy .delete => 1
  | .destroy .decrement => 2
  | .destroy .checkRefCount => 3
  | .deleteRunnable => 4
  | .nullRunnable => 5
  | .postrun => 6
  | .run =>
    match t.inRun with
    | .rcv => 7
    | .delete _ => 9
    | .proc _ => 10
    | .waits => 11
  | .loop => 8
  | .prerun => 9
  | .readRunnable => 10

/-- How many messages it processes then at most. -/
def RunAt.budget : RunAt μ → Nat
  | .waits | .proc _ => 1
  | _ => 0

/-- What a step of the thread leaves alone, and how it gets on. -/
structure Advances (t t' : Task μ) : Prop where
  owner : t'.owner = t.owner
  client : t'.threads.client = t.threads.client
  strays : t'.strays = t.strays
  sent : t'.sent = t.sent
  unblocked : t'.mQ.unblocked = t.mQ.unblocked
  threads : t'.threads = t.threads ∨ ∃ result, t'.threads = t.threads.spawnedStep result
  procs : t.procs <+: t'.procs
  rank : t.mQ.unblocked = true → rank t' ≤ rank t - 1
  budget : t.mQ.unblocked = true →
    t'.procs.length + t'.inRun.budget ≤ t.procs.length + t.inRun.budget

section
variable {t t' : Task μ} {l l' : List (Nat × Message μ Dealloc)} {flushed : List μ}

theorem Runs.same {result : Option Bool} (h : Runs t l t' result l') :
    t'.threads = t.threads ∧ t'.owner = t.owner ∧ t'.mThread = t.mThread ∧
      t'.mQ.unblocked = t.mQ.unblocked ∧ t'.alive = t.alive ∧ t'.strays = t.strays ∧
      t'.sent = t.sent := by
  cases h <;> exact ⟨rfl, rfl, rfl, rfl, rfl, rfl, rfl⟩

theorem Runs.returns {result : Bool} (h : Runs t l t' (some result) l') :
    t'.inRun = .rcv ∧ (t.mQ.unblocked = false → result = true) := by
  cases h with
  | refuses hu hr => exact ⟨rfl, fun h => by cases hu.symm.trans h⟩
  | deletes hr => exact ⟨rfl, fun _ => rfl⟩

/-- In `run` the thread gets on as well, but for a message that it waits for. -/
theorem Runs.advances {result : Option Bool} (h : Runs t l t' result l')
    (hrun : t.threads.spawned = .run) :
    Advances t (result.elim t' fun b => { t' with threads := t.threads.spawnedStep b }) := by
  have hclient := spawnedStep_client t.threads
  cases h with
  | refuses hu hr =>
    refine ⟨rfl, hclient _, rfl, rfl, rfl, .inr ⟨_, rfl⟩, List.prefix_rfl, fun _ => ?_,
      fun _ => ?_⟩
    · rcases hr with hr | hr <;> simp [rank, Threads.spawnedStep, hrun, hr]
    · rcases hr with hr | hr <;> simp [hr, RunAt.budget]
  | waits hu hr =>
    exact ⟨rfl, rfl, rfl, rfl, rfl, .inl rfl, List.prefix_rfl, fun h => (by cases hu.symm.trans h),
      fun h => (by cases hu.symm.trans h)⟩
  | receives hr =>
    have hwaits : t.mQ.unblocked = true → t.inRun = .waits := fun hu =>
      hr.resolve_left fun h => by cases hu.symm.trans h.2
    refine ⟨rfl, rfl, rfl, rfl, rfl, .inl rfl, List.prefix_rfl, fun hu => ?_, fun hu => ?_⟩
    · simp [rank, hrun, hwaits hu]
    · simp [hwaits hu, RunAt.budget]
  | procs hr =>
    refine ⟨rfl, rfl, rfl, rfl, rfl, .inl rfl, List.prefix_append _ _, fun _ => ?_, fun _ => ?_⟩
    · simp [rank, hrun, hr]
    · simp [hr, RunAt.budget]
  | deletes hr =>
    refine ⟨rfl, hclient _, rfl, rfl, rfl, .inr ⟨_, rfl⟩, List.prefix_rfl, fun _ => ?_, fun _ => ?_⟩
    · simp [rank, Threads.spawnedStep, hrun, hr]
    · simp [hr, RunAt.budget]

/-- The places outside of `run`. -/
theorem rank_spawnedStep (hrun : t.threads.spawned ≠ .run) (hidle : t'.inRun = .rcv)
    (hthreads : t'.threads = t.threads.spawnedStep true) : rank t' ≤ rank t - 1 := by
  unfold rank
  rw [hthreads, hidle]
  cases hc : t.threads.spawned with
  | run => exact absurd hc hrun
  | readRunnable | loop =>
    simp only [Threads.spawnedStep, hc]
    cases t.threads.mRunnable <;> simp
  | destroy d =>
    cases d with
    | checkRefCount =>
      simp only [Threads.spawnedStep, hc, Threads.destroy]
      split_ifs <;> simp
    | decrement =>
      simp only [Threads.spawnedStep, hc, Threads.destroy]
      split_ifs <;> simp
    | delete => simp [Threads.spawnedStep, hc, Threads.destroy]
  | _ => simp [Threads.spawnedStep, hc]

theorem threadStep_threaded (hk : Kept t l flushed) (h : Threaded t) :
    ∃ t' l' flushed', t.threadStep = some t' ∧ Kept t' l' flushed' ∧ Threaded t' ∧
      Advances t t' := by
  have hclient := spawnedStep_client t.threads true
  by_cases hrun : t.threads.spawned = .run
  · have ha : t.alive = true := h.alive_of_early (by rw [hrun]; rfl)
    obtain ⟨t₁, result, l', hstep, hruns⟩ := run_cases hk.holds
    have hkept := hk.run ha hruns
    have hadv := hruns.advances hrun
    obtain ⟨hthreads, howner, hthread, hu, halive, -⟩ := hruns.same
    cases result with
    | none =>
      refine ⟨t₁, l', flushed, by simp [Task.threadStep, hrun, ha, hstep], hkept, ?_, hadv⟩
      exact h.stays hthreads howner hthread hu halive fun hnot => absurd hrun hnot
    | some result =>
      obtain ⟨hidle, hblocked⟩ := hruns.returns
      refine ⟨{ t₁ with threads := t.threads.spawnedStep result }, l', flushed, ?_,
        hkept.frame rfl rfl rfl rfl rfl rfl, ?_, hadv⟩
      · simp [Task.threadStep, hrun, ha, hstep, hthreads]
      · refine h.spawned rfl howner hthread hu (fun _ => hblocked) ?_ hidle fun hnot =>
          absurd hrun hnot
        rw [if_neg (by rw [hrun]; exact fun h => by cases h)]
        exact halive
  have hidle : t.inRun = .rcv := h.busy hrun
  by_cases hdelete : t.threads.spawned = .deleteRunnable
  · have ha : t.alive = true := h.alive_of_early (by rw [hdelete]; rfl)
    obtain ⟨msg_list, flushed', hstep, hkept⟩ := destructor_cases hk ha hidle
    refine ⟨{ t with
        mQ.msg_list := msg_list
        alive := false
        threads := t.threads.spawnedStep true },
      [], flushed', ?_, hkept.frame rfl rfl rfl rfl rfl rfl, ?_,
      ⟨rfl, hclient, rfl, rfl, rfl, .inr ⟨_, rfl⟩, List.prefix_rfl,
        fun _ => rank_spawnedStep hrun hidle rfl, fun _ => le_rfl⟩⟩
    · simp [Task.threadStep, hdelete, hstep]
    · exact h.spawned rfl rfl rfl rfl (fun _ _ => rfl) (if_pos hdelete).symm hidle fun _ => rfl
  · refine ⟨{ t with threads := t.threads.spawnedStep true }, l, flushed, ?_,
      hk.frame rfl rfl rfl rfl rfl rfl, ?_,
      ⟨rfl, hclient, rfl, rfl, rfl, .inr ⟨_, rfl⟩, List.prefix_rfl,
        fun _ => rank_spawnedStep hrun hidle rfl, fun _ => le_rfl⟩⟩
    · unfold Task.threadStep
      split
      · exact absurd ‹_› hrun
      · exact absurd ‹_› hdelete
      · rfl
    · exact h.spawned rfl rfl rfl rfl (fun _ _ => rfl) (if_neg hdelete).symm hidle fun _ => rfl

theorem threadStep_unthreaded (h : Unthreaded t) : t.threadStep = some t := by
  simp [Task.threadStep, Threads.spawnedStep, h.ended]

end

/-! ## The steps of the owner -/

def clientRank : ClientAt → Nat
  | .done => 0
  | .destroy .delete => 1
  | .destroy .decrement => 2
  | .destroy .checkRefCount => 3
  | .joining => 4
  | .join => 5
  | .clearJoinable => 6
  | .checkJoinable => 7
  | .nullRunnable => 8
  | .checkRunnable => 9
  | .bye => 10
  | .create => 11
  | .setName => 12

/-- How many steps the owner still takes at most, when the thread is at its end. -/
def ownerRank (t : Task μ) : Nat :=
  match t.owner with
  | .clears _ => 13
  | .leaves => clientRank t.threads.client
  | _ => 0

/-- What a step of the owner leaves alone, and how it gets on. -/
structure Leads (t t' : Task μ) : Prop where
  strays : t'.strays = t.strays ∨ t'.strays = t.strays ++ [.clears]
  sent : t'.sent = t.sent
  procs : t'.procs = t.procs
  inRun : t'.inRun = t.inRun
  unblocked : t.mQ.unblocked = true → t'.mQ.unblocked = true
  spawned : t'.threads.spawned = t.threads.spawned
  rank : t.mQ.unblocked = true → t.threads.spawned = .ended → ownerRank t' ≤ ownerRank t - 1

section
variable {t : Task μ} {l : List (Nat × Message μ Dealloc)} {flushed : List μ}

theorem unblock_eq (q : MsgQ μ Dealloc) : (msg_q_unblock q).1 = { q with unblocked := true } := by
  cases hu : q.unblocked with
  | true =>
    rw [msg_q_unblock, if_pos hu, ← hu]
  | false => rw [msg_q_unblock, if_neg (by simp [hu])]

theorem clientRank_step {s : Threads} (hended : s.spawned = .ended) :
    clientRank (s.clientStep .destructor).client ≤ clientRank s.client - 1 := by
  cases hc : s.client with
  | create | bye | checkRunnable | checkJoinable =>
    simp only [Threads.clientStep, hc]
    split <;> simp [clientRank]
  | joining => simp [Threads.clientStep, hc, hended, clientRank]
  | destroy d =>
    cases d with
    | checkRefCount | decrement =>
      simp only [Threads.clientStep, hc, Threads.destroy]
      split <;> simp [clientRank]
    | delete => simp [Threads.clientStep, hc, Threads.destroy, clientRank]
  | _ => simp [Threads.clientStep, hc, Threads.touch, clientRank]

/-- The client's part of the owner, with the place where that leaves it. -/
theorem Threaded.client (h : Threaded t)
    (hplace : ({ t with threads := t.threads.clientStep .destructor } : Task μ).Place) :
    Threaded { t with threads := t.threads.clientStep .destructor } := by
  obtain ⟨hspawned, hdeleted, -⟩ := @client_keeps .destructor t.threads
  refine ⟨atMostOnce_step .destructor t.threads .client h.most, ?_, ?_, hplace, ?_⟩
  · show t.alive = true ↔ (t.threads.clientStep .destructor).runnableDeleted = 0
    rw [hdeleted]
    exact h.alive
  · show (t.threads.clientStep .destructor).spawned ≠ .run → _
    rw [hspawned]
    exact h.busy
  · show (t.threads.clientStep .destructor).spawned = .readRunnable ∨
      Lost (t.threads.clientStep .destructor) → _
    rw [hspawned, lost_client]
    rintro (hread | hlost | hnull)
    · exact h.untouched (.inl hread)
    · exact h.untouched (.inr hlost)
    · exact h.untouched (.inl hnull.2.2)

theorem leads_client (hrank : t.mQ.unblocked = true → t.threads.spawned = .ended →
      ownerRank { t with threads := t.threads.clientStep .destructor } ≤ ownerRank t - 1) :
    Leads t { t with threads := t.threads.clientStep .destructor } :=
  ⟨.inl rfl, rfl, rfl, rfl, id, client_keeps.1, hrank⟩

theorem ownerStep_threaded (hk : Kept t l flushed) (h : Threaded t) :
    ∃ t', t.ownerStep = some t' ∧ Kept t' l flushed ∧ Threaded t' ∧ Leads t t' ∧
      (t'.threads = t.threads ∧ t.threads.client ≠ .nullRunnable ∨
        t'.threads = t.threads.clientStep .destructor) := by
  have hplace := h.place
  unfold Task.Place at hplace
  cases ho : t.owner with
  | constructs =>
    simp only [ho] at hplace
    obtain ⟨hthread, hu, hgoes, hclient⟩ := hplace
    have hblocked : ¬ t.mQ.unblocked = true := by simp [hu]
    by_cases hbye : t.threads.client = .bye
    · refine ⟨{ t with owner := .unblocks t.mThread }, by simp [Task.ownerStep, ho, hbye],
        hk.frame rfl rfl rfl rfl rfl rfl, ⟨h.most, h.alive, h.busy, ?_, h.untouched⟩,
        ⟨.inl rfl, rfl, rfl, rfl, id, rfl, fun h => absurd h hblocked⟩,
        .inl ⟨rfl, by simp [hbye]⟩⟩
      exact ⟨hthread, hu, hgoes, hbye⟩
    · have hearly : t.threads.client = .setName ∨ t.threads.client = .create := by
        rcases hclient with hc | hc | hc
        · exact .inl hc
        · exact .inr hc
        · exact absurd hc hbye
      obtain ⟨hgoes', hnext⟩ := hgoes.clientStep hearly
      refine ⟨{ t with threads := t.threads.clientStep .destructor }, ?_,
        hk.frame rfl rfl rfl rfl rfl rfl, h.client ?_, leads_client fun h => absurd h hblocked,
        .inr rfl⟩
      · rcases hearly with hc | hc <;> simp [Task.ownerStep, ho, hc]
      · unfold Task.Place
        simp only [ho]
        exact ⟨hthread, hu, hgoes', .inr hnext⟩
  | unblocks thread =>
    simp only [ho] at hplace
    obtain ⟨hthread, hu, hgoes, hclient⟩ := hplace
    have hblocked : ¬ t.mQ.unblocked = true := by simp [hu]
    have ha : t.alive = true := h.alive_of_early (early_of_turning hgoes.turning)
    refine ⟨{ t with mQ := { t.mQ with unblocked := true }, owner := .clears thread }, ?_,
      hk.frame rfl rfl rfl rfl rfl rfl, ⟨h.most, h.alive, h.busy, ?_, h.untouched⟩,
      ⟨.inl rfl, rfl, rfl, rfl, fun _ => rfl, rfl, fun h => absurd h hblocked⟩,
      .inl ⟨rfl, by simp [hclient]⟩⟩
    · simp [Task.ownerStep, ho, ha, unblock_eq]
    · exact ⟨hthread, rfl, hclient⟩
  | clears thread =>
    simp only [ho] at hplace
    obtain ⟨rfl, hu, hclient⟩ := hplace
    have hrank : ownerRank ({ t with owner := .leaves } : Task μ) ≤ ownerRank t - 1 := by
      simp [ownerRank, ho, hclient, clientRank]
    by_cases ha : t.alive = true
    · refine ⟨{ t with mThread := false, owner := .leaves }, by simp [Task.ownerStep, ho, ha],
        hk.frame rfl rfl rfl rfl rfl rfl, ⟨h.most, h.alive, h.busy, hu, h.untouched⟩,
        ⟨.inl rfl, rfl, rfl, rfl, id, rfl, fun _ _ => hrank⟩, .inl ⟨rfl, by simp [hclient]⟩⟩
    · refine ⟨{ t with strays := t.strays ++ [.clears], owner := .leaves }, ?_,
        hk.frame rfl rfl rfl rfl rfl rfl, ⟨h.most, h.alive, h.busy, hu, h.untouched⟩,
        ⟨.inr rfl, rfl, rfl, rfl, id, rfl, fun _ _ => hrank⟩, .inl ⟨rfl, by simp [hclient]⟩⟩
      simp [Task.ownerStep, ho, ha, Task.stray]
  | leaves =>
    simp only [ho] at hplace
    refine ⟨{ t with threads := t.threads.clientStep .destructor }, by simp [Task.ownerStep, ho],
      hk.frame rfl rfl rfl rfl rfl rfl, h.client ?_, leads_client fun _ hended => ?_, .inr rfl⟩
    · unfold Task.Place
      simp only [ho]
      exact hplace
    · simp only [ownerRank, ho]
      exact clientRank_step hended
  | gone =>
    simp only [ho] at hplace

theorem ownerStep_unthreaded (hk : Kept t l flushed) (h : Unthreaded t) :
    ∃ t' l' flushed', t.ownerStep = some t' ∧ Kept t' l' flushed' ∧ Unthreaded t' ∧ Leads t t' := by
  have hplace := h.place
  obtain ⟨hspawned, -, hrunnable⟩ := @client_keeps .destructor t.threads
  cases ho : t.owner with
  | constructs =>
    simp only [ho] at hplace
    obtain ⟨ha, hu, hnull, hclient⟩ := hplace
    have hblocked : ¬ t.mQ.unblocked = true := by simp [hu]
    by_cases hdone : t.threads.client = .done
    · refine ⟨{ t with mThread := false, owner := .unblocks false }, l, flushed,
        by simp [Task.ownerStep, ho, hdone], hk.frame rfl rfl rfl rfl rfl rfl,
        ⟨h.ended, h.idle, ⟨rfl, ha, hu⟩⟩,
        ⟨.inl rfl, rfl, rfl, rfl, id, rfl, fun h => absurd h hblocked⟩⟩
    · have hnext : (∃ d, (t.threads.clientStep .destructor).client = .destroy d) ∨
          (t.threads.clientStep .destructor).client = .done := by
        rcases hclient with hc | ⟨d, hc⟩ | hc
        · exact .inl ⟨.checkRefCount, by simp [Threads.clientStep, hc, hnull]⟩
        · simp only [Threads.clientStep, hc]
          cases (t.threads.destroy .client d).2 with
          | none => exact .inr rfl
          | some d => exact .inl ⟨d, rfl⟩
        · exact absurd hc hdone
      refine ⟨{ t with threads := t.threads.clientStep .destructor }, l, flushed, ?_,
        hk.frame rfl rfl rfl rfl rfl rfl, ⟨hspawned.trans h.ended, h.idle, ?_⟩,
        leads_client fun h => absurd h hblocked⟩
      · rcases hclient with hc | ⟨d, hc⟩ | hc
        · simp [Task.ownerStep, ho, hc]
        · simp [Task.ownerStep, ho, hc]
        · exact absurd hc hdone
      · simp only [ho]
        refine ⟨ha, hu, ?_, .inr hnext⟩
        rw [hrunnable, hnull]
        split <;> rfl
  | unblocks thread =>
    simp only [ho] at hplace
    obtain ⟨rfl, ha, hu⟩ := hplace
    have hblocked : ¬ t.mQ.unblocked = true := by simp [hu]
    refine ⟨{ t with mQ := { t.mQ with unblocked := true }, owner := .clears false },
      l, flushed, ?_, hk.frame rfl rfl rfl rfl rfl rfl, ⟨h.ended, h.idle, ⟨rfl, ha⟩⟩,
      ⟨.inl rfl, rfl, rfl, rfl, fun _ => rfl, rfl, fun h => absurd h hblocked⟩⟩
    simp [Task.ownerStep, ho, ha, unblock_eq]
  | clears thread =>
    simp only [ho] at hplace
    obtain ⟨rfl, ha⟩ := hplace
    obtain ⟨msg_list, flushed', hstep, hkept⟩ := destructor_cases hk ha h.idle
    refine ⟨{ t with
        mQ.msg_list := msg_list
        alive := false
        owner := .gone },
      [], flushed', by simp [Task.ownerStep, ho, hstep], hkept.frame rfl rfl rfl rfl rfl rfl,
      ⟨h.ended, h.idle, rfl⟩, ⟨.inl rfl, rfl, rfl, rfl, id, rfl, fun _ _ => ?_⟩⟩
    simp [ownerRank]
  | leaves => simp only [ho] at hplace
  | gone =>
    simp only [ho] at hplace
    refine ⟨t, l, flushed, by rw [Task.ownerStep, ho], hk, h,
      ⟨.inl rfl, rfl, rfl, rfl, id, rfl, fun _ _ => ?_⟩⟩
    simp [ownerRank, ho]

end

/-! ## Runs -/

def Placed (t : Task μ) : Bool → Prop
  | true => Threaded t
  | false => Unthreaded t

structure Inv (created : Bool) (t : Task μ) : Prop where
  kept : ∃ l flushed, Kept t l flushed
  place : Placed t created
  strays : ∀ u ∈ t.strays, u = .sends ∨ u = .clears

/-- What any step does with a task whose queue is unblocked. -/
structure Settles (t t' : Task μ) : Prop where
  unblocked : t'.mQ.unblocked = true
  sent : t'.sent = t.sent
  procs : t.procs <+: t'.procs
  budget : t'.procs.length + t'.inRun.budget ≤ t.procs.length + t.inRun.budget

section
variable {created : Bool} {t : Task μ}

theorem inv_start (created joinable : Bool) : Inv created (.start created joinable : Task μ) where
  kept := ⟨[], [], holds_init, by simp, rfl, rfl, rfl, fun _ => rfl, fun _ => rfl⟩
  place := by
    cases created with
    | true =>
      refine ⟨⟨Nat.zero_le 1, fun _ => rfl⟩, by simp [Task.start, Threads.start], fun _ => rfl, ?_,
        fun _ => ⟨rfl, rfl⟩⟩
      exact ⟨rfl, rfl, ⟨rfl, rfl⟩, .inl rfl⟩
    | false => exact ⟨rfl, rfl, ⟨rfl, rfl, rfl, .inl rfl⟩⟩
  strays := by simp [Task.start]

theorem strays_append {u : Stray} (h : ∀ v ∈ t.strays, v = .sends ∨ v = .clears)
    (hu : u = .sends ∨ u = .clears) : ∀ v ∈ t.strays ++ [u], v = .sends ∨ v = .clears := by
  intro v hv
  rcases List.mem_append.mp hv with hv | hv
  · exact h v hv
  · rwa [List.mem_singleton.mp hv]

theorem inv_send (h : Inv created t) (msg : Option μ) (allocated : Bool) :
    ∃ t', t.take (.send msg allocated) = some t' ∧ Inv created t' ∧ t'.threads = t.threads ∧
      t'.owner = t.owner ∧ t'.inRun = t.inRun ∧ (t.mQ.unblocked = true → Settles t t') := by
  obtain ⟨⟨l, flushed, hk⟩, hplace, hstrays⟩ := h
  obtain ⟨mQ, sent, refused, strays, l', hstep, hkept, hu, hsent, hs⟩ :=
    sendMsg_cases hk msg allocated
  refine ⟨_, hstep, ⟨⟨l', flushed, hkept⟩, ?_, ?_⟩, rfl, rfl, rfl,
    fun hblocked => ⟨hu.trans hblocked, hsent (hu.trans hblocked), List.prefix_rfl, le_rfl⟩⟩
  · cases created with
    | true => exact Threaded.stays hplace rfl rfl rfl hu rfl fun _ => ⟨rfl, rfl⟩
    | false =>
      refine ⟨hplace.ended, hplace.idle, ?_⟩
      show match t.owner with | _ => _
      rw [hu]
      exact hplace.place
  · rcases hs with rfl | rfl
    · exact hstrays
    · exact strays_append hstrays (.inl rfl)

theorem inv_thread (h : Inv created t) : ∃ t', t.take .thread = some t' ∧ Inv created t' ∧
    (created = true →
      t'.threads = t.threads ∨ ∃ result, t'.threads = t.threads.spawnedStep result) ∧
    t'.owner = t.owner ∧ t'.threads.client = t.threads.client ∧
    (t.mQ.unblocked = true → Settles t t' ∧ rank t' ≤ rank t - 1) := by
  obtain ⟨⟨l, flushed, hk⟩, hplace, hstrays⟩ := h
  cases created with
  | true =>
    obtain ⟨t', l', flushed', hstep, hkept, hthreaded, hadv⟩ := threadStep_threaded hk hplace
    exact ⟨t', hstep, ⟨⟨l', flushed', hkept⟩, hthreaded, hadv.strays ▸ hstrays⟩,
      fun _ => hadv.threads, hadv.owner, hadv.client, fun hu =>
      ⟨⟨hadv.unblocked.trans hu, hadv.sent, hadv.procs, hadv.budget hu⟩, hadv.rank hu⟩⟩
  | false =>
    refine ⟨t, threadStep_unthreaded hplace, ⟨⟨l, flushed, hk⟩, hplace, hstrays⟩,
      fun h => (by cases h), rfl, rfl, fun hu => ⟨⟨hu, rfl, List.prefix_rfl, le_rfl⟩, ?_⟩⟩
    have hended := hplace.ended
    simp [rank, hended]

theorem inv_owner (h : Inv created t) : ∃ t', t.take .owner = some t' ∧ Inv created t' ∧
    (created = true → t'.threads = t.threads ∧ t.threads.client ≠ .nullRunnable ∨
      t'.threads = t.threads.clientStep .destructor) ∧
    (t.mQ.unblocked = true → Settles t t' ∧ rank t' = rank t ∧
      (t.threads.spawned = .ended → ownerRank t' ≤ ownerRank t - 1)) := by
  obtain ⟨⟨l, flushed, hk⟩, hplace, hstrays⟩ := h
  have hinv : ∀ {t' : Task μ} {l' flushed'}, Kept t' l' flushed' → Leads t t' → Placed t' created →
      Inv created t' ∧
      (t.mQ.unblocked = true → Settles t t' ∧ rank t' = rank t ∧
        (t.threads.spawned = .ended → ownerRank t' ≤ ownerRank t - 1)) := by
    intro t' l' flushed' hkept hleads hplace'
    refine ⟨⟨⟨l', flushed', hkept⟩, hplace', ?_⟩,
      fun hu => ⟨⟨hleads.unblocked hu, hleads.sent, ?_, ?_⟩, ?_, hleads.rank hu⟩⟩
    · rcases hleads.strays with hs | hs <;> rw [hs]
      · exact hstrays
      · exact strays_append hstrays (.inr rfl)
    · rw [hleads.procs]
    · rw [hleads.procs, hleads.inRun]
    · rw [rank, rank, hleads.spawned, hleads.inRun]
  cases created with
  | true =>
    obtain ⟨t', hstep, hkept, hthreaded, hleads, hthreads⟩ := ownerStep_threaded hk hplace
    obtain ⟨hnext, hsettles⟩ := hinv hkept hleads hthreaded
    exact ⟨t', hstep, hnext, fun _ => hthreads, hsettles⟩
  | false =>
    obtain ⟨t', l', flushed', hstep, hkept, hthreaded, hleads⟩ := ownerStep_unthreaded hk hplace
    obtain ⟨hnext, hsettles⟩ := hinv hkept hleads hthreaded
    exact ⟨t', hstep, hnext, fun h => (by cases h), hsettles⟩

theorem inv_take (h : Inv created t) (e : Event μ) : ∃ t', t.take e = some t' ∧ Inv created t' := by
  cases e with
  | send msg allocated => exact (inv_send h msg allocated).imp fun _ ht => ⟨ht.1, ht.2.1⟩
  | thread => exact (inv_thread h).imp fun _ ht => ⟨ht.1, ht.2.1⟩
  | owner => exact (inv_owner h).imp fun _ ht => ⟨ht.1, ht.2.1⟩

theorem inv_runs (h : Inv created t) (es : List (Event μ)) :
    ∃ t', run step (some t) es = some t' ∧ Inv created t' := by
  refine inv_run_any (I := fun o => ∃ t, o = some t ∧ Inv created t) ?_ es ⟨t, rfl, h⟩
  rintro _ e ⟨t, rfl, ht⟩
  exact inv_take ht e

end

/-- **The messages are processed in the order in which they were accepted.** In any order of sends,
steps of the thread and steps of the owner nothing goes wrong in the queue; a message is deleted
after it was processed, and none is deleted twice. Only sends, and `destroy` when it clears
`mThread`, can touch a task that is deleted. -/
theorem procs_in_order (created joinable : Bool) (es : List (Event μ)) :
    ∃ t, run step (some (.start created joinable)) es = some t ∧
      t.procs <+: t.sent ∧ t.deletes <+: t.procs ∧ t.procs.length ≤ t.deletes.length + 1 ∧
      t.deletions.Subperm t.sent ∧ ∀ u ∈ t.strays, u = .sends ∨ u = .clears := by
  have hstart : Inv created (.start created joinable : Task μ) := inv_start created joinable
  obtain ⟨t, ht, ⟨⟨l, flushed, hk⟩, -, hstrays⟩⟩ := inv_runs hstart es
  have hhand : t.inRun.done <+: t.inRun.msgs ∧ t.inRun.done.length ≤ 1 := by
    cases t.inRun with
    | delete msg => exact ⟨List.prefix_rfl, le_rfl⟩
    | _ => exact ⟨List.nil_prefix, Nat.zero_le _⟩
  refine ⟨t, ht, ?_, ?_, ?_, ?_, hstrays⟩
  · rw [hk.procs, hk.sent, List.append_assoc, List.append_assoc, List.prefix_append_right_inj]
    exact hhand.1.trans (List.prefix_append _ _)
  · rw [hk.procs]
    exact List.prefix_append _ _
  · rw [hk.procs, List.length_append]
    exact Nat.add_le_add_left hhand.2 _
  · have hflushed : flushed.Perm flushed.reverse := (List.reverse_perm flushed).symm
    rw [Task.deletions, hk.calls, hk.sent, List.append_assoc, List.append_assoc]
    refine List.Subperm.trans (List.Perm.append_left t.deletes hflushed).subperm ?_
    exact ((List.sublist_append_right _ _).trans (List.sublist_append_right _ _)).append_left _
      |>.subperm

/-- The thread deletes the task between the two statements of `destroy`. -/
example : (run step (some (Task.start true true : Task Nat)) (List.replicate 2 .owner ++
    List.replicate 4 .thread ++ List.replicate 2 .owner ++ List.replicate 4 .thread ++
    [.owner])).map Task.strays = some [.clears] := rfl

/-- The owner does not null the runnable before the thread has read it. -/
def ReadFirst (t : Option (Task μ)) (e : Event μ) : Prop :=
  ∀ t' ∈ t, ¬ (e = .owner ∧ t'.threads.client = .nullRunnable ∧ t'.threads.spawned = .readRunnable)

section
variable {t : Task μ}

/-- The runnable, which is the task, is lost by the owner that nulls it too early. -/
theorem lost_take_iff (h : Inv true t) (e : Event μ) :
    ∃ t', t.take e = some t' ∧ Inv true t' ∧
      (Lost t'.threads ↔ Lost t.threads ∨ ¬ ReadFirst (some t) e) := by
  have hplace : Threaded t := h.place
  have hread : ¬ ReadFirst (some t) e ↔
      e = .owner ∧ t.threads.client = .nullRunnable ∧ t.threads.spawned = .readRunnable := by
    simp [ReadFirst]
  rw [hread]
  cases e with
  | send msg allocated =>
    obtain ⟨t', hstep, hinv, hthreads, -⟩ := inv_send h msg allocated
    exact ⟨t', hstep, hinv, by simp [hthreads]⟩
  | thread =>
    obtain ⟨t', hstep, hinv, hthreads, -⟩ := inv_thread h
    refine ⟨t', hstep, hinv, ?_⟩
    rcases hthreads rfl with hsame | ⟨result, hsame⟩
    · simp [hsame]
    · simp [hsame, lost_spawned]
  | owner =>
    obtain ⟨t', hstep, hinv, hthreads, -⟩ := inv_owner h
    refine ⟨t', hstep, hinv, ?_⟩
    rcases hthreads rfl with ⟨hsame, hclient⟩ | hsame
    · simp [hsame, hclient]
    · rw [hsame, lost_client]
      refine or_congr_right ⟨fun h => ⟨rfl, h.2⟩, fun hnull => ⟨hplace.most.2 ?_, hnull.2⟩⟩
      rw [hnull.2.2]
      rfl

theorem lost_runs (h : Inv true t) (hl : Lost t.threads) (es : List (Event μ)) :
    ∀ t' ∈ run step (some t) es, Lost t'.threads := by
  induction es generalizing t with
  | nil =>
    intro t' ht'
    exact Option.some.inj ht' ▸ hl
  | cons e es ih =>
    obtain ⟨t₁, hstep, hinv, hiff⟩ := lost_take_iff h e
    have hnext : step (some t) e = some t₁ := hstep
    rw [run_cons, hnext]
    exact ih hinv (hiff.mpr (.inl hl))

theorem readFirst_iff_kept (h : Inv true t) (hl : ¬ Lost t.threads) (es : List (Event μ)) :
    Steps step ReadFirst (some t) es ↔ ∀ t' ∈ run step (some t) es, ¬ Lost t'.threads := by
  induction es generalizing t with
  | nil =>
    refine iff_of_true trivial fun t' ht' => ?_
    exact Option.some.inj ht' ▸ hl
  | cons e es ih =>
    obtain ⟨t₁, hstep, hinv, hiff⟩ := lost_take_iff h e
    have hnext : step (some t) e = some t₁ := hstep
    rw [steps_cons, run_cons, hnext]
    by_cases hread : ReadFirst (some t) e
    · rw [ih hinv fun hlost => (hiff.mp hlost).elim hl (· hread)]
      exact and_iff_right hread
    · have hlost : Lost t₁.threads := hiff.mpr (.inr hread)
      obtain ⟨t₂, ht₂, -⟩ := inv_runs hinv es
      exact iff_of_false (fun h => hread h.1) fun h => h t₂ ht₂ (lost_runs hinv hlost es t₂ ht₂)

theorem readFirst_unthreaded (h : Inv false t) (es : List (Event μ)) :
    Steps step ReadFirst (some t) es := by
  induction es generalizing t with
  | nil => trivial
  | cons e es ih =>
    obtain ⟨t₁, hstep, hinv⟩ := inv_take h e
    have hended : t.threads.spawned = .ended := Unthreaded.ended h.place
    refine ⟨?_, ?_⟩
    · intro t' ht' hnull
      obtain rfl := Option.some.inj ht'
      cases hended.symm.trans hnull.2.2
    · have hnext : step (some t) e = some t₁ := hstep
      rw [hnext]
      exact ih hinv

/-- When nobody has anything left to do, all messages are deleted, or the task is there and none
is. -/
theorem deletions_complete {created : Bool} (h : Inv created t) (hdone : t.Complete) :
    (t.deletions.Perm t.sent ↔ t.sent = [] ∨ (created = true → ¬ Lost t.threads)) ∧
      (created = true → Lost t.threads → t.alive = true ∧ t.deletions = []) := by
  obtain ⟨⟨l, flushed, hk⟩, hplace, -⟩ := h
  have hall : t.alive = false → t.inRun = .rcv → t.deletions.Perm t.sent := by
    intro hdead hidle
    have hsent := hk.sent
    rw [hk.dead hdead, hidle] at hsent
    rw [Task.deletions, hk.calls, hsent]
    simp only [RunAt.msgs, List.append_nil, List.map_nil, List.reverse_nil]
    exact (List.reverse_perm flushed).symm.append_left t.deletes
  unfold Task.Complete at hdone
  cases created with
  | true =>
    have hthreaded : Threaded t := hplace
    have howner : t.owner = .leaves := by
      have hat := hthreaded.place
      unfold Task.Place at hat
      cases ho : t.owner <;> simp only [ho] at hdone hat ⊢
    simp only [howner] at hdone
    have hended := hdone.2
    have hidle : t.inRun = .rcv := hthreaded.busy (by rw [hended]; exact fun h => (by cases h))
    have hlost : Lost t.threads ↔ t.alive = true := by
      rw [hthreaded.alive, Lost, hended]
      simp [SpawnedAt.early]
    rw [hlost]
    by_cases ha : t.alive = true
    · have hnone : t.deletions = [] := by
        rw [Task.deletions, hk.calls, hk.fresh ha, (hthreaded.untouched (.inr (hlost.mpr ha))).1]
        rfl
      rw [hnone, List.nil_perm]
      simp [ha]
    · exact ⟨iff_of_true (hall (Bool.eq_false_iff.mpr ha) hidle) (.inr fun _ => ha),
        fun _ hlost => absurd hlost ha⟩
  | false =>
    have hunthreaded : Unthreaded t := hplace
    have hdead : t.alive = false := by
      have hat := hunthreaded.place
      cases ho : t.owner <;> simp only [ho] at hdone hat ⊢
      exact hat
    exact ⟨iff_of_true (hall hdead hunthreaded.idle) (.inr fun h => (by cases h)),
      fun h => (by cases h)⟩

end

/-- **Every message that was accepted is deleted exactly once** when the owner and the thread are at
their ends, processed or flushed, exactly if the owner did not null the runnable before the thread
had read it, or there was no message. Otherwise the task is never deleted and no message is. -/
theorem all_deleted_iff (created joinable : Bool) (es : List (Event μ)) {t : Task μ}
    (hrun : run step (some (.start created joinable)) es = some t) (hdone : t.Complete) :
    (t.deletions.Perm t.sent ↔
      t.sent = [] ∨ Steps step ReadFirst (some (.start created joinable)) es) ∧
    (¬ Steps step ReadFirst (some (.start created joinable)) es →
      t.alive = true ∧ t.deletions = []) := by
  have hstart : Inv created (.start created joinable : Task μ) := inv_start created joinable
  have hinv : Inv created t := by
    obtain ⟨t', ht', hinv⟩ := inv_runs hstart es
    exact Option.some.inj (ht'.symm.trans hrun) ▸ hinv
  obtain ⟨hiff, hleaks⟩ := deletions_complete hinv hdone
  cases created with
  | true =>
    have hkept : ¬ Lost (.start true joinable : Task μ).threads := fun h => by cases (h.2 rfl).2
    have hread : Steps step ReadFirst (some (.start true joinable)) es ↔ ¬ Lost t.threads := by
      rw [readFirst_iff_kept hstart hkept, hrun]
      simp
    rw [hiff, hread]
    exact ⟨or_congr_right ⟨fun h => h rfl, fun h _ => h⟩,
      fun hlost => hleaks rfl (not_not.mp hlost)⟩
  | false =>
    have hread := readFirst_unthreaded hstart es
    exact ⟨iff_of_true (hiff.mpr (.inr fun h => (by cases h))) (.inr hread),
      fun hnot => absurd hread hnot⟩

/-- Two messages are accepted, a third is refused. The first is processed and the second flushed. -/
def sendAndDestroy : List (Event Nat) :=
  List.replicate 2 .owner ++ List.replicate 3 .thread ++
    [.send (some 7) true, .thread, .send (some 8) true] ++ List.replicate 3 .owner ++
    [.send (some 9) true] ++ List.replicate 10 .thread ++ List.replicate 10 .owner

theorem all_deleted_iff_destroyed : ∃ t,
    run step (some (.start true true)) sendAndDestroy = some t ∧
    t.deletions = [7, 8] ∧ t.refused = [9] ∧ (t.deletions.Perm t.sent ↔
      t.sent = [] ∨ Steps step ReadFirst (some (.start true true)) sendAndDestroy) := by
  refine ⟨_, rfl, rfl, rfl, (all_deleted_iff true true sendAndDestroy rfl ?_).1⟩
  exact ⟨rfl, rfl⟩

/-! ## The end of a task -/

def Event.isThread : Event μ → Bool
  | .thread => true
  | _ => false

def Event.isOwner : Event μ → Bool
  | .owner => true
  | _ => false

section
variable {created : Bool} {t : Task μ}

theorem Settles.refl (hu : t.mQ.unblocked = true) : Settles t t :=
  ⟨hu, rfl, List.prefix_rfl, le_rfl⟩

theorem Settles.trans {t₁ t₂ : Task μ} (h : Settles t t₁) (h' : Settles t₁ t₂) : Settles t t₂ :=
  ⟨h'.unblocked, h'.sent.trans h.sent, h.procs.trans h'.procs, h'.budget.trans h.budget⟩

theorem ended_of_rank (hrank : rank t = 0) : t.threads.spawned = .ended := by
  unfold rank at hrank
  split at hrank <;> first | assumption | (split at hrank <;> cases hrank) | cases hrank

theorem settles_take (h : Inv created t) (hu : t.mQ.unblocked = true) (e : Event μ) :
    ∃ t', t.take e = some t' ∧ Inv created t' ∧ Settles t t' ∧
      rank t' ≤ rank t - (if e.isThread then 1 else 0) ∧
      (rank t = 0 → ownerRank t' ≤ ownerRank t - if e.isOwner then 1 else 0) := by
  cases e with
  | send msg allocated =>
    obtain ⟨t', hstep, hinv, hthreads, howner, hidle, hsettles⟩ := inv_send h msg allocated
    refine ⟨t', hstep, hinv, hsettles hu, ?_, fun _ => ?_⟩
    · simp [rank, hthreads, hidle, Event.isThread]
    · simp [ownerRank, hthreads, howner, Event.isOwner]
  | thread =>
    obtain ⟨t', hstep, hinv, -, howner, hclient, hsettles⟩ := inv_thread h
    refine ⟨t', hstep, hinv, (hsettles hu).1, by simpa [Event.isThread] using (hsettles hu).2,
      fun _ => ?_⟩
    simp [ownerRank, hclient, howner, Event.isOwner]
  | owner =>
    obtain ⟨t', hstep, hinv, -, hsettles⟩ := inv_owner h
    obtain ⟨hsettles, hrank, howner⟩ := hsettles hu
    refine ⟨t', hstep, hinv, hsettles, by simp [Event.isThread, hrank], fun hzero => ?_⟩
    simpa [Event.isOwner] using howner (ended_of_rank hzero)

theorem settles_runs (h : Inv created t) (hu : t.mQ.unblocked = true) (es : List (Event μ)) :
    ∃ t', run step (some t) es = some t' ∧ Inv created t' ∧ Settles t t' ∧
      rank t' ≤ rank t - es.countP Event.isThread ∧
      (rank t = 0 → ownerRank t' ≤ ownerRank t - es.countP Event.isOwner) := by
  induction es generalizing t with
  | nil => exact ⟨t, rfl, h, .refl hu, le_rfl, fun _ => le_rfl⟩
  | cons e es ih =>
    obtain ⟨t₁, hstep, hinv, hsettles, hrank, howner⟩ := settles_take h hu e
    have hnext : step (some t) e = some t₁ := hstep
    obtain ⟨t₂, hrun, hinv₂, hsettles₂, hrank₂, howner₂⟩ := ih hinv hsettles.unblocked
    refine ⟨t₂, by rw [run_cons, hnext, hrun], hinv₂, hsettles.trans hsettles₂, ?_, fun hzero => ?_⟩
    · rw [List.countP_cons]
      omega
    · have hle := howner₂ (by omega)
      have hone := howner hzero
      rw [List.countP_cons]
      omega

theorem rank_le (t : Task μ) : rank t ≤ 11 := by
  unfold rank
  split <;> first | decide | (split <;> decide)

theorem ownerRank_le (t : Task μ) : ownerRank t ≤ 13 := by
  unfold ownerRank clientRank
  split <;> first | decide | (split <;> decide)

theorem complete_of_rank (h : Inv created t) (hu : t.mQ.unblocked = true) (hrank : rank t = 0)
    (howner : ownerRank t = 0) : t.Complete := by
  have hplace := h.place
  unfold Task.Complete
  cases created with
  | true =>
    have hat := Threaded.place hplace
    unfold Task.Place at hat
    cases ho : t.owner <;> simp only [ho, ownerRank] at hat howner ⊢
    case constructs => simp [hu] at hat
    case unblocks => simp [hu] at hat
    case clears => cases howner
    case leaves =>
      refine ⟨?_, ended_of_rank hrank⟩
      unfold clientRank at howner
      split at howner <;> first | assumption | cases howner
  | false =>
    have hat := Unthreaded.place hplace
    cases ho : t.owner <;> simp only [ho, ownerRank] at hat howner ⊢
    case constructs => simp [hu] at hat
    case unblocks => simp [hu] at hat
    case clears => cases howner

end

/-- **A task comes to its end.** From the moment when `destroy` has unblocked the queue, no message
is accepted and one more is processed at most, and the thread is at its end after eleven of its
steps and the owner after thirteen more of its own, whatever else happens meanwhile. -/
theorem destroy_ends (created joinable : Bool) (es : List (Event μ)) {t : Task μ}
    (hrun : run step (some (.start created joinable)) es = some t) (hu : t.mQ.unblocked = true)
    (fs gs : List (Event μ)) :
    ∃ t', run step (some (.start created joinable)) (es ++ (fs ++ gs)) = some t' ∧
      t'.sent = t.sent ∧ t.procs <+: t'.procs ∧ t'.procs.length ≤ t.procs.length + 1 ∧
      (11 ≤ fs.countP Event.isThread → t'.threads.spawned = .ended) ∧
      (11 ≤ fs.countP Event.isThread → 13 ≤ gs.countP Event.isOwner → t'.Complete) := by
  obtain ⟨t₀, ht₀, hinv⟩ := inv_runs (inv_start created joinable) es
  obtain rfl : t₀ = t := Option.some.inj (ht₀.symm.trans hrun)
  obtain ⟨t₁, hf, hinv₁, hsettles₁, hrank₁, -⟩ := settles_runs hinv hu fs
  obtain ⟨t₂, hg, hinv₂, hsettles₂, hrank₂, howner₂⟩ := settles_runs hinv₁ hsettles₁.unblocked gs
  have hsettles := hsettles₁.trans hsettles₂
  have hbudget : t₀.inRun.budget ≤ 1 := by
    cases t₀.inRun <;> simp [RunAt.budget]
  have hless := hsettles.budget
  have hle := rank_le t₀
  have hle' := ownerRank_le t₁
  refine ⟨t₂, by rw [run_append, hrun, run_append, hf, hg], hsettles.sent, hsettles.procs, by omega,
    fun hthread => ended_of_rank (by omega), fun hthread howner => ?_⟩
  have hzero : rank t₁ = 0 := by omega
  have hlast := howner₂ hzero
  exact complete_of_rank hinv₂ hsettles.unblocked (by omega) (by omega)

/-- A message comes for a thread that waits, and the queue is unblocked before it wakes up. -/
def sendAndUnblock : List (Event Nat) :=
  List.replicate 2 .owner ++ List.replicate 4 .thread ++ [.send (some 7) true] ++
    List.replicate 2 .owner

theorem destroy_ends_waiting : ∃ t',
    run step (some (.start true true))
      (sendAndUnblock ++ (List.replicate 11 .thread ++ List.replicate 13 .owner)) = some t' ∧
    t'.sent = [7] ∧ t'.procs.length ≤ 1 ∧ t'.Complete := by
  obtain ⟨t', hrun, hsent, -, hlength, -, hdone⟩ :=
    destroy_ends true true sendAndUnblock rfl rfl (List.replicate 11 .thread)
      (List.replicate 13 .owner)
  exact ⟨t', hrun, hsent, hlength, hdone (by decide) (by decide)⟩

end DeviceHal.Utils.MsgTask
