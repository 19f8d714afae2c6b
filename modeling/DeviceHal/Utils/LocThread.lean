import DeviceHal.Lib.RefCount
import DeviceHal.Lib.Run

/-! # The lifetimes of a thread's delegate and runnable

`LocThreadDelegate` of `LocThread.cpp`, from the creation of the thread on: the
client that starts it and leaves, and the spawned `threadMain`, take atomic steps
in any order. Both own the delegate by its count; the runnable is deleted by the
thread that has read it, so it is lost when the client nulls the pointer first. -/
namespace DeviceHal.Utils.LocThread
open DeviceHal.Lib.RefCount DeviceHal.Lib.Run

/-! ## The two parties -/

inductive Party where
  | client | spawned
deriving DecidableEq

instance : Fintype Party := ⟨{.client, .spawned}, fun p => by cases p <;> decide⟩

instance : Nonempty Party := ⟨.client⟩

/-- Where a party is in `destroy`. -/
inductive DestroyAt where
  | checkRefCount | decrement | delete
deriving DecidableEq

/-- What the client does after `start`. -/
inductive Leave where
  | stop | destructor

/-- Where the client is: in the delegate's constructor, in `create`, in `bye`, in
`stop` or in `destroy`. -/
inductive ClientAt where
  | setName | create | bye
  | checkRunnable | nullRunnable | checkJoinable | clearJoinable | join | joining
  | destroy (d : DestroyAt)
  | done
deriving DecidableEq

/-- Where the spawned thread is in `threadMain`. -/
inductive SpawnedAt where
  | readRunnable | prerun | loop | run | postrun | nullRunnable | deleteRunnable
  | destroy (d : DestroyAt)
  | ended
deriving DecidableEq

structure Threads where
  /-- The pointer is not null. -/
  mRunnable : Bool
  mJoinable : Bool
  mRefCount : Int
  client : ClientAt
  spawned : SpawnedAt
  /-- The reads and writes of the delegate's members, and its deletion. -/
  log : List (Use Party)
  /-- How often the runnable was deleted. -/
  runnableDeleted : Nat

inductive Event where
  | client
  /-- The result is that of `run()`, if this step calls it. -/
  | spawned (result : Bool)

namespace Threads

/-- The thread is created, and the client is still in the constructor. -/
def start (joinable : Bool) : Threads := ⟨true, joinable, 2, .setName, .readRunnable, [], 0⟩

def touch (s : Threads) (who : Party) : Threads := { s with log := s.log ++ [.touch who] }

/-- A step of `destroy`, and where it goes on. -/
def destroy (s : Threads) (who : Party) : DestroyAt → Threads × Option DestroyAt
  | .checkRefCount => (s.touch who, if 0 < s.mRefCount then some .decrement else none)
  | .decrement =>
    ({ s.touch who with mRefCount := s.mRefCount - 1 },
      if s.mRefCount = 1 then some .delete else none)
  | .delete => ({ s with log := s.log ++ [.free] }, none)

def clientStep (leave : Leave) (s : Threads) : Threads :=
  let t := s.touch .client
  match s.client with
  | .setName => { t with client := .create }
  | .create =>
    -- a thread that is not running any more was started in vain
    if s.mRunnable then
      match leave with
      | .stop => { t with client := .checkRunnable }
      | .destructor => { t with client := .bye }
    else { t with client := .destroy .checkRefCount }
  | .bye => { t with client := if s.mJoinable then .checkRunnable else .destroy .checkRefCount }
  | .checkRunnable => { t with client := if s.mRunnable then .nullRunnable else .checkJoinable }
  | .nullRunnable => { t with mRunnable := false, client := .checkJoinable }
  | .checkJoinable =>
    { t with client := if s.mJoinable then .clearJoinable else .destroy .checkRefCount }
  | .clearJoinable => { t with mJoinable := false, client := .join }
  | .join => { t with client := .joining }
  | .joining => if s.spawned = .ended then { s with client := .destroy .checkRefCount } else s
  | .destroy d =>
    let (t, next) := s.destroy .client d
    { t with client := next.elim .done .destroy }
  | .done => s

def spawnedStep (s : Threads) (result : Bool) : Threads :=
  let t := s.touch .spawned
  match s.spawned with
  | .readRunnable =>
    { t with spawned := if s.mRunnable then .prerun else .destroy .checkRefCount }
  | .prerun => { t with spawned := .loop }
  | .loop => { t with spawned := if s.mRunnable then .run else .postrun }
  | .run => { s with spawned := if result then .loop else .postrun }
  | .postrun => { t with spawned := .nullRunnable }
  | .nullRunnable => { t with mRunnable := false, spawned := .deleteRunnable }
  | .deleteRunnable =>
    { s with runnableDeleted := s.runnableDeleted + 1, spawned := .destroy .checkRefCount }
  | .destroy d =>
    let (t, next) := s.destroy .spawned d
    { t with spawned := next.elim .ended .destroy }
  | .ended => s

def step (leave : Leave) (s : Threads) : Event → Threads
  | .client => s.clientStep leave
  | .spawned result => s.spawnedStep result

/-- Both parties are at their end. -/
def Complete (s : Threads) : Prop := s.client = .done ∧ s.spawned = .ended

instance (s : Threads) : Decidable s.Complete := inferInstanceAs (Decidable (_ ∧ _))

end Threads

open Threads

/-- The delegate is deleted once and not touched after that, and the runnable is
deleted once. -/
def DeletedOnce (s : Threads) : Prop :=
  (s.log.count .free = 1 ∧ ∀ who, .touch who ∉ s.log.dropWhile (· ≠ Use.free)) ∧
    s.runnableDeleted = 1

instance (s : Threads) : Decidable (DeletedOnce s) := inferInstanceAs (Decidable (_ ∧ _))

/-- The client does not null the runnable before the thread has read it. -/
def ReadFirst (s : Threads) (e : Event) : Prop :=
  ¬ (e matches .client ∧ s.client = .nullRunnable ∧ s.spawned = .readRunnable)

/-! ## The delegate is owned by its count -/

def ClientAt.phase : ClientAt → Phase
  | .destroy .delete => .frees
  | .done => .gone
  | _ => .owns

def SpawnedAt.phase : SpawnedAt → Phase
  | .destroy .delete => .frees
  | .ended => .gone
  | _ => .owns

def phases (client : ClientAt) (spawned : SpawnedAt) : Party → Phase
  | .client => client.phase
  | .spawned => spawned.phase

/-- The delegate as its owners share it. -/
def shared (s : Threads) : Shared Party := ⟨s.mRefCount, phases s.client s.spawned, s.log⟩

/-- A step of the threads is a step of one owner, or leaves the delegate alone. -/
def Follows (s s' : Threads) : Prop := shared s' = shared s ∨ Step (shared s) (shared s')

section
variable {leave : Leave} {s : Threads}

theorem shared_start (joinable : Bool) : Good (shared (.start joinable)) := by
  have hall : phases .setName .readRunnable = fun _ => .owns := by
    funext p
    cases p <;> rfl
  have hstart : shared (.start joinable) = ⟨Fintype.card Party, fun _ => .owns, []⟩ := by
    rw [shared, start, hall]
    rfl
  rw [hstart]
  exact good_start

theorem phases_congr {s' : Threads} (hclient : s'.client.phase = s.client.phase)
    (hspawned : s'.spawned.phase = s.spawned.phase) :
    phases s'.client s'.spawned = phases s.client s.spawned := by
  funext who
  cases who with
  | client => exact hclient
  | spawned => exact hspawned

/-! ## Steps of an owner -/

theorem follows_touch {s' : Threads} (who : Party) (h : phases s.client s.spawned who = .owns)
    (hcount : s'.mRefCount = s.mRefCount)
    (hphases : phases s'.client s'.spawned = phases s.client s.spawned)
    (hlog : s'.log = s.log ++ [.touch who]) : Follows s s' := by
  refine .inr ?_
  rw [show shared s' = { shared s with log := (shared s).log ++ [.touch who] } by
    rw [shared, hcount, hphases, hlog]; rfl]
  exact .touch who h

theorem follows_release {s' : Threads} (who : Party) (h : phases s.client s.spawned who = .owns)
    (hcount : s'.mRefCount = s.mRefCount - 1)
    (hphases : phases s'.client s'.spawned = Function.update (phases s.client s.spawned) who
      (if s.mRefCount = 1 then .frees else .gone))
    (hlog : s'.log = s.log ++ [.touch who]) : Follows s s' := by
  refine .inr ?_
  rw [show shared s' = _ by rw [shared, hcount, hphases, hlog]]
  exact @Step.release _ _ (shared s) who h

theorem follows_free {s' : Threads} (who : Party) (h : phases s.client s.spawned who = .frees)
    (hcount : s'.mRefCount = s.mRefCount)
    (hphases : phases s'.client s'.spawned = Function.update (phases s.client s.spawned) who .gone)
    (hlog : s'.log = s.log ++ [.free]) : Follows s s' := by
  refine .inr ?_
  rw [show shared s' = _ by rw [shared, hcount, hphases, hlog]]
  exact @Step.free _ _ (shared s) who h

/-- The place that `destroy` goes on to. -/
def DestroyAt.phase : Option DestroyAt → Phase
  | some .delete => .frees
  | some _ => .owns
  | none => .gone

/-- `destroy` for either party, which only has to say where it is. -/
theorem follows_destroy (hg : Good (shared s)) {s' : Threads} (who : Party) {d : DestroyAt}
    (h : phases s.client s.spawned who = DestroyAt.phase (some d))
    (hcount : s'.mRefCount = (s.destroy who d).1.mRefCount)
    (hphases : phases s'.client s'.spawned = Function.update (phases s.client s.spawned) who
      (DestroyAt.phase (s.destroy who d).2))
    (hlog : s'.log = (s.destroy who d).1.log) : Follows s s' := by
  cases d with
  | checkRefCount =>
    have hpos : 0 < s.mRefCount := hg.count_pos (i := who) h
    refine follows_touch who h hcount ?_ hlog
    rw [hphases]
    simp only [destroy, if_pos hpos]
    rw [show DestroyAt.phase (some .decrement) = phases s.client s.spawned who from h.symm]
    exact Function.update_eq_self who _
  | decrement =>
    refine follows_release who h hcount ?_ hlog
    rw [hphases]
    simp only [destroy]
    split <;> rfl
  | delete => exact follows_free who h hcount hphases hlog

theorem destroy_client (who : Party) (d : DestroyAt) : (s.destroy who d).1.client = s.client := by
  cases d <;> rfl

theorem destroy_spawned (who : Party) (d : DestroyAt) :
    (s.destroy who d).1.spawned = s.spawned := by
  cases d <;> rfl

theorem phases_client (c next : ClientAt) (p : SpawnedAt) :
    phases next p = Function.update (phases c p) .client next.phase := by
  funext who
  cases who <;> rfl

theorem phases_spawned (c : ClientAt) (p next : SpawnedAt) :
    phases c next = Function.update (phases c p) .spawned next.phase := by
  funext who
  cases who <;> rfl

theorem client_goes_on (next : Option DestroyAt) :
    ClientAt.phase (next.elim .done .destroy) = DestroyAt.phase next := by
  rcases next with _ | d
  · rfl
  · cases d <;> rfl

theorem spawned_goes_on (next : Option DestroyAt) :
    SpawnedAt.phase (next.elim .ended .destroy) = DestroyAt.phase next := by
  rcases next with _ | d
  · rfl
  · cases d <;> rfl

theorem client_touches (hc : s.client.phase = .owns) {s' : Threads} (hn : s'.client.phase = .owns)
    (hcount : s'.mRefCount = s.mRefCount) (hspawned : s'.spawned = s.spawned)
    (hlog : s'.log = s.log ++ [.touch .client]) : Follows s s' :=
  follows_touch .client hc hcount (phases_congr (hn.trans hc.symm) (by rw [hspawned])) hlog

theorem spawned_touches (hc : s.spawned.phase = .owns) {s' : Threads}
    (hn : s'.spawned.phase = .owns) (hcount : s'.mRefCount = s.mRefCount)
    (hclient : s'.client = s.client) (hlog : s'.log = s.log ++ [.touch .spawned]) :
    Follows s s' :=
  follows_touch .spawned hc hcount (phases_congr (by rw [hclient]) (hn.trans hc.symm)) hlog

/-- An owner that goes on without the delegate. -/
theorem follows_idle {s' : Threads} (hcount : s'.mRefCount = s.mRefCount)
    (hclient : s'.client.phase = s.client.phase) (hspawned : s'.spawned.phase = s.spawned.phase)
    (hlog : s'.log = s.log) : Follows s s' := by
  refine .inl ?_
  rw [shared, hcount, phases_congr hclient hspawned, hlog]
  rfl

theorem follows_client (hg : Good (shared s)) : Follows s (s.clientStep leave) := by
  cases hc : s.client with
  | setName | nullRunnable | clearJoinable | join =>
    simp only [clientStep, hc]
    exact client_touches (by rw [hc]; rfl) rfl rfl rfl rfl
  | create =>
    simp only [clientStep, hc]
    split
    · cases leave with
      | stop => exact client_touches (by rw [hc]; rfl) rfl rfl rfl rfl
      | destructor => exact client_touches (by rw [hc]; rfl) rfl rfl rfl rfl
    · exact client_touches (by rw [hc]; rfl) rfl rfl rfl rfl
  | bye | checkRunnable | checkJoinable =>
    simp only [clientStep, hc]
    refine client_touches (by rw [hc]; rfl) ?_ rfl rfl rfl
    dsimp only
    split <;> rfl
  | joining =>
    simp only [clientStep, hc]
    split
    · exact follows_idle rfl (by rw [hc]; rfl) rfl rfl
    · exact .inl rfl
  | destroy d =>
    refine follows_destroy hg .client (d := d) ?_ ?_ ?_ ?_
    · show s.client.phase = _
      rw [hc]
      cases d <;> rfl
    · simp only [clientStep, hc]
    · simp only [clientStep, hc]
      rw [destroy_spawned, phases_client (.destroy d), client_goes_on]
    · simp only [clientStep, hc]
  | done =>
    simp only [clientStep, hc]
    exact .inl rfl

theorem follows_spawned (hg : Good (shared s)) (result : Bool) :
    Follows s (s.spawnedStep result) := by
  cases hc : s.spawned with
  | prerun | postrun | nullRunnable =>
    simp only [spawnedStep, hc]
    exact spawned_touches (by rw [hc]; rfl) rfl rfl rfl rfl
  | readRunnable | loop =>
    simp only [spawnedStep, hc]
    refine spawned_touches (by rw [hc]; rfl) ?_ rfl rfl rfl
    dsimp only
    split <;> rfl
  | run =>
    simp only [spawnedStep, hc]
    refine follows_idle rfl rfl ?_ rfl
    rw [hc]
    dsimp only
    split <;> rfl
  | deleteRunnable =>
    simp only [spawnedStep, hc]
    exact follows_idle rfl rfl (by rw [hc]; rfl) rfl
  | destroy d =>
    refine follows_destroy hg .spawned (d := d) ?_ ?_ ?_ ?_
    · show s.spawned.phase = _
      rw [hc]
      cases d <;> rfl
    · simp only [spawnedStep, hc]
    · simp only [spawnedStep, hc]
      rw [destroy_client, phases_spawned _ (.destroy d), spawned_goes_on]
    · simp only [spawnedStep, hc]
  | ended =>
    simp only [spawnedStep, hc]
    exact .inl rfl

theorem shared_step (leave : Leave) (s : Threads) (e : Event) (hg : Good (shared s)) :
    Good (shared (s.step leave e)) := by
  have hfollows : Follows s (s.step leave e) := by
    cases e with
    | client => exact follows_client hg
    | spawned result => exact follows_spawned hg result
  rcases hfollows with hsame | hstep
  · rw [hsame]
    exact hg
  · exact hg.step hstep

/-- In a complete run the delegate was deleted once, after every use. -/
theorem delegate_deleted_once {joinable : Bool} {es : List Event}
    (hdone : (run (step leave) (start joinable) es).Complete) :
    (run (step leave) (start joinable) es).log.count .free = 1 ∧
      ∀ who, .touch who ∉ (run (step leave) (start joinable) es).log.dropWhile (· ≠ Use.free) := by
  have hg : Good (shared (run (step leave) (start joinable) es)) :=
    inv_run_any (I := fun s => Good (shared s)) (shared_step leave) es (shared_start joinable)
  refine hg.freed_once fun who => ?_
  cases who with
  | client =>
    show ClientAt.phase _ = _
    rw [hdone.1]
    rfl
  | spawned =>
    show SpawnedAt.phase _ = _
    rw [hdone.2]
    rfl

end

/-! ## The runnable -/

/-- The thread still has to read the runnable, or to delete it. -/
def SpawnedAt.early : SpawnedAt → Bool
  | .destroy _ => false
  | .ended => false
  | _ => true

/-- The runnable is not deleted more than once. -/
def AtMostOnce (s : Threads) : Prop :=
  s.runnableDeleted ≤ 1 ∧ (s.spawned.early = true → s.runnableDeleted = 0)

/-- The runnable is not deleted, and the thread will not do it. -/
def Lost (s : Threads) : Prop :=
  s.runnableDeleted = 0 ∧ (s.spawned.early = true → s.spawned = .readRunnable ∧ s.mRunnable = false)

section
variable {leave : Leave} {s : Threads}

theorem destroy_keeps (who : Party) (d : DestroyAt) :
    (s.destroy who d).1.runnableDeleted = s.runnableDeleted ∧
      (s.destroy who d).1.mRunnable = s.mRunnable := by
  cases d <;> exact ⟨rfl, rfl⟩

/-- The client leaves the thread alone, but for the pointer to the runnable. -/
theorem client_keeps : (s.clientStep leave).spawned = s.spawned ∧
    (s.clientStep leave).runnableDeleted = s.runnableDeleted ∧
    (s.clientStep leave).mRunnable = if s.client = .nullRunnable then false else s.mRunnable := by
  cases hc : s.client with
  | create =>
    simp only [clientStep, hc]
    split
    · cases leave <;> exact ⟨rfl, rfl, rfl⟩
    · exact ⟨rfl, rfl, rfl⟩
  | joining =>
    simp only [clientStep, hc]
    split
    · exact ⟨rfl, rfl, rfl⟩
    · exact ⟨rfl, rfl, rfl⟩
  | destroy d =>
    simp only [clientStep, hc]
    exact ⟨destroy_spawned _ d, destroy_keeps _ d⟩
  | _ => simp [clientStep, hc, touch]

/-- What the thread does about the runnable, place by place. -/
theorem spawned_runnable (result : Bool) :
    (s.spawnedStep result).runnableDeleted =
        s.runnableDeleted + (if s.spawned = .deleteRunnable then 1 else 0) ∧
      (s.spawnedStep result).spawned ≠ .readRunnable ∧
      ((s.spawnedStep result).spawned.early = true ↔ s.spawned.early = true ∧
        s.spawned ≠ .deleteRunnable ∧ ¬ (s.spawned = .readRunnable ∧ s.mRunnable = false)) := by
  cases hc : s.spawned with
  | readRunnable =>
    simp only [spawnedStep, hc]
    cases s.mRunnable <;> exact ⟨rfl, by simp, by simp [SpawnedAt.early]⟩
  | loop =>
    simp only [spawnedStep, hc]
    cases s.mRunnable <;> exact ⟨rfl, by simp, by simp [SpawnedAt.early]⟩
  | run =>
    simp only [spawnedStep, hc]
    cases result <;> exact ⟨rfl, by simp, by simp [SpawnedAt.early]⟩
  | destroy d =>
    simp only [spawnedStep, hc]
    refine ⟨(destroy_keeps _ d).1, ?_, ?_⟩
    · cases (s.destroy .spawned d).2 <;> simp
    · cases (s.destroy .spawned d).2 <;> simp [SpawnedAt.early]
  | ended =>
    simp only [spawnedStep, hc]
    exact ⟨rfl, by simp, by simp [SpawnedAt.early]⟩
  | _ =>
    simp only [spawnedStep, hc]
    exact ⟨rfl, by simp, by simp [SpawnedAt.early]⟩

theorem atMostOnce_step (leave : Leave) (s : Threads) (e : Event) (h : AtMostOnce s) :
    AtMostOnce (s.step leave e) := by
  obtain ⟨hle, hearly⟩ := h
  cases e with
  | client =>
    obtain ⟨hspawned, hdeleted, -⟩ := @client_keeps leave s
    rw [AtMostOnce, step, hspawned, hdeleted]
    exact ⟨hle, hearly⟩
  | spawned result =>
    obtain ⟨hdeleted, -, hnext⟩ := spawned_runnable (s := s) result
    rw [AtMostOnce, step, hdeleted, hnext]
    by_cases hdel : s.spawned = .deleteRunnable
    · have h0 := hearly (by rw [hdel]; rfl)
      rw [if_pos hdel]
      exact ⟨by omega, fun h => absurd hdel h.2.1⟩
    · rw [if_neg hdel]
      exact ⟨hle, fun h => hearly h.1⟩

theorem lost_spawned (result : Bool) : Lost (s.spawnedStep result) ↔ Lost s := by
  obtain ⟨hdeleted, hread, hnext⟩ := spawned_runnable (s := s) result
  rw [Lost, Lost, hdeleted, hnext]
  by_cases hdel : s.spawned = .deleteRunnable
  · simp [hdel, SpawnedAt.early]
  · rw [if_neg hdel, Nat.add_zero]
    refine and_congr_right fun _ => ⟨fun h hearly => ?_, fun h hearly => ?_⟩
    · by_contra hnot
      exact hread (h ⟨hearly, hdel, hnot⟩).1
    · exact absurd (h hearly.1) hearly.2.2

theorem lost_client : Lost (s.clientStep leave) ↔
    Lost s ∨ s.runnableDeleted = 0 ∧ s.client = .nullRunnable ∧ s.spawned = .readRunnable := by
  obtain ⟨hspawned, hdeleted, hrunnable⟩ := @client_keeps leave s
  rw [Lost, Lost, hspawned, hdeleted, hrunnable]
  by_cases hnull : s.client = .nullRunnable
  · by_cases hread : s.spawned = .readRunnable
    · simp only [hnull, hread, SpawnedAt.early, if_true, true_implies, and_true]
      exact ⟨.inr, fun h => h.elim And.left id⟩
    · simp [hnull, hread]
  · simp [hnull]

/-- The runnable is lost by the client that nulls it too early, and for good. -/
theorem lost_step_iff (h : AtMostOnce s) (e : Event) :
    Lost (s.step leave e) ↔ Lost s ∨ ¬ ReadFirst s e := by
  cases e with
  | client =>
    rw [step, lost_client, ReadFirst, not_not]
    refine or_congr_right ⟨fun h => ⟨rfl, h.2⟩, fun hnull => ⟨h.2 ?_, hnull.2⟩⟩
    rw [hnull.2.2]
    rfl
  | spawned result =>
    rw [step, lost_spawned]
    exact (or_iff_left fun hnot => hnot fun hclient => by cases hclient.1).symm

theorem lost_stays (s : Threads) (e : Event) (h : Lost s) : Lost (s.step leave e) := by
  cases e with
  | client => exact lost_client.mpr (.inl h)
  | spawned result => exact (lost_spawned result).mpr h

theorem readFirst_iff_not_lost (joinable : Bool) (es : List Event) :
    Steps (step leave) ReadFirst (start joinable) es ↔
      ¬ Lost (run (step leave) (start joinable) es) := by
  have hstart : AtMostOnce (start joinable) := ⟨Nat.zero_le 1, fun _ => rfl⟩
  have hkept : ¬ Lost (start joinable) := fun h => by cases (h.2 rfl).2
  rw [← steps_iff_last (Q := fun s => ¬ Lost s) (fun s e h hl => h (lost_stays s e hl)) hkept]
  refine (steps_iff_guard (I := fun s => AtMostOnce s ∧ ¬ Lost s) (A := fun _ _ => True)
    (fun s e hi _ => ?_) (fun s e hi _ hq => ⟨atMostOnce_step leave s e hi.1, hq⟩) ⟨hstart, hkept⟩
    (steps_of_forall (fun _ _ => trivial) _ es)).symm
  rw [lost_step_iff hi.1, not_or, not_not]
  exact and_iff_right hi.2

end

/-- **In every complete run the delegate and the runnable are deleted exactly
once, the delegate after its last use, exactly if the client does not null the
runnable before the thread has read it.** -/
theorem deleted_once_iff_read_first (leave : Leave) (joinable : Bool) (es : List Event)
    (hdone : (run (step leave) (start joinable) es).Complete) :
    DeletedOnce (run (step leave) (start joinable) es) ↔
      Steps (step leave) ReadFirst (start joinable) es := by
  have hmost : AtMostOnce (run (step leave) (start joinable) es) :=
    inv_run_any (atMostOnce_step leave) es ⟨Nat.zero_le 1, fun _ => rfl⟩
  rw [readFirst_iff_not_lost, DeletedOnce, and_iff_right (delegate_deleted_once hdone), Lost, hdone.2]
  have hle := hmost.1
  simp only [SpawnedAt.early, Bool.false_eq_true, false_implies, and_true]
  omega

/-- The client stops a thread that runs. -/
def stopRunning : List Event :=
  List.replicate 3 (.spawned true) ++ List.replicate 7 .client ++ List.replicate 8 (.spawned true) ++
    List.replicate 4 .client

theorem stop_running_deletes_once :
    DeletedOnce (run (step .stop) (start true) stopRunning) ↔
      Steps (step .stop) ReadFirst (start true) stopRunning :=
  deleted_once_iff_read_first .stop true stopRunning (by decide)

/-- The client stops the thread before it has read its runnable, which nobody
deletes then. -/
theorem early_stop_leaks :
    let s := run (step .stop) (start true)
      (List.replicate 4 .client ++ List.replicate 3 (.spawned true) ++ List.replicate 7 .client)
    s.Complete ∧ ¬ DeletedOnce s := by
  decide

end DeviceHal.Utils.LocThread
