import DeviceHal.Lib.Run
import Mathlib.Data.Multiset.AddSub
import Mathlib.Order.Defs.Unbundled

/-! # Priority bags

A bag of elements ranked by a strict weak order: what is taken from it or
looked at is an element that no other outranks, and ties are left open. An
implementation with an invariant and an abstraction to bags that answers each
operation as the bag does keeps doing so along every run, and what it holds is
what was pushed and not handed out since. -/
namespace DeviceHal.Lib.PriorityBag
open DeviceHal.Lib.Run

variable {α : Type*} {r : α → α → Prop}

/-- Not to outrank is transitive, because ties are. -/
theorem not_rel_trans [IsStrictWeakOrder α r] {a b c : α} (hab : ¬ r a b) (hbc : ¬ r b c) :
    ¬ r a c := by
  intro hac
  have hba : ¬ r b a := fun h => hbc (Trans.trans h hac)
  have hcb : ¬ r c b := fun h => hab (Trans.trans hac h)
  exact (IsStrictWeakOrder.incomp_trans a b c ⟨hab, hba⟩ ⟨hbc, hcb⟩).1 hac

theorem not_rel_of_rel [IsStrictOrder α r] {a b : α} (h : r a b) : ¬ r b a :=
  fun h' => irrefl_of r a (Trans.trans h h')

/-! ## Operations -/

inductive Op (α : Type*) where
  | push (x : α)
  | pop
  | peek
  | remove (x : α)
deriving DecidableEq

/-- An element of the bag that no element outranks. -/
def IsTop (r : α → α → Prop) (s : Multiset α) (x : α) : Prop := x ∈ s ∧ ∀ y ∈ s, ¬ r y x

variable [DecidableEq α]

/-- What the bag answers, and what it holds afterwards. -/
inductive BagStep (r : α → α → Prop) : Multiset α → Op α → Option α → Multiset α → Prop
  | push (s : Multiset α) (x : α) : BagStep r s (.push x) none (x ::ₘ s)
  | pop {s : Multiset α} {x : α} (h : IsTop r s x) : BagStep r s .pop (some x) (s.erase x)
  | popEmpty : BagStep r 0 .pop none 0
  | peek {s : Multiset α} {x : α} (h : IsTop r s x) : BagStep r s .peek (some x) s
  | peekEmpty : BagStep r 0 .peek none 0
  | remove {s : Multiset α} {x : α} (h : x ∈ s) : BagStep r s (.remove x) (some x) (s.erase x)
  | removeAbsent {s : Multiset α} {x : α} (h : x ∉ s) : BagStep r s (.remove x) none s

/-- What was pushed and not yet popped or removed, told from the answers. -/
def track (held : Multiset α) : Op α → Option α → Multiset α
  | .push x, _ => x ::ₘ held
  | .pop, some x | .remove _, some x => held.erase x
  | .pop, none | .remove _, none | .peek, _ => held

theorem BagStep.held_eq {s s' : Multiset α} {op : Op α} {a : Option α}
    (h : BagStep r s op a s') : s' = track s op a := by
  cases h <;> rfl

/-! ## Implementations -/

/-- An implementation with the bag its answers tell. -/
structure Tracked (σ α : Type*) where
  impl : σ
  held : Multiset α

variable {σ : Type*}

def Tracked.step (apply : σ → Op α → σ × Option α) (t : Tracked σ α) (op : Op α) :
    Tracked σ α :=
  ⟨(apply t.impl op).1, track t.held op (apply t.impl op).2⟩

/-- An implementation that answers every operation as the bag does, and keeps
its invariant while it does. -/
structure Refines (r : α → α → Prop) (apply : σ → Op α → σ × Option α) (Inv : σ → Prop)
    (abs : σ → Multiset α) : Prop where
  inv : ∀ s op, Inv s → Inv (apply s op).1
  answers : ∀ s op, Inv s → BagStep r (abs s) op (apply s op).2 (abs (apply s op).1)

/-- Along every run the invariant holds, the contents are what the answers
tell, and the answers are those of the bag. -/
theorem Refines.steps {apply : σ → Op α → σ × Option α} {Inv : σ → Prop} {abs : σ → Multiset α}
    (hr : Refines r apply Inv abs) {s : σ} (hs : Inv s) (ops : List (Op α)) :
    Steps (Tracked.step apply)
      (fun t op => Inv t.impl ∧ Inv (t.step apply op).impl ∧
        abs t.impl = t.held ∧ abs (t.step apply op).impl = (t.step apply op).held ∧
        BagStep r t.held op (apply t.impl op).2 (t.step apply op).held) ⟨s, abs s⟩ ops := by
  refine steps_of_inv (I := fun t => Inv t.impl ∧ abs t.impl = t.held) (A := fun _ _ => True)
    (fun t op hi _ => ?_) (fun t op hi _ => ?_) ⟨hs, rfl⟩ (steps_of_forall (fun _ _ => trivial) _ _)
  · have hstep := hr.answers t.impl op hi.1
    rw [hi.2] at hstep
    have habs : abs (t.step apply op).impl = (t.step apply op).held := hstep.held_eq
    exact ⟨hi.1, hr.inv _ op hi.1, hi.2, habs, habs ▸ hstep⟩
  · have hstep := hr.answers t.impl op hi.1
    rw [hi.2] at hstep
    exact ⟨hr.inv _ op hi.1, hstep.held_eq⟩

end DeviceHal.Lib.PriorityBag
