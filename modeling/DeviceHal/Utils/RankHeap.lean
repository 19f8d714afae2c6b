import Mathlib.Data.List.Perm.Basic
import Mathlib.Tactic

/-! # LocHeap

The heap of `utils/LocHeap.cpp`: a binary tree that is sorted only vertically,
fills the smaller of its subtrees, and is popped by pulling data up to a leaf.
Which elements an operation keeps and what it leaves on top holds for any rank
function. Elements are compared by identity, as the source compares addresses. -/
namespace DeviceHal.Utils.RankHeap

/-- What can be ranked: positive if `self` ranks higher than `rankable`. -/
class LocRankable (α : Type) where
  ranks : α → α → Int

def outRanks {α : Type} [LocRankable α] (self rankable : α) : Bool :=
  decide (0 < LocRankable.ranks self rankable)

/-- A pointer to a node of the tree: NULL, or the node it points to. The sizes are
not cut to an `int`: 2 ^ 31 nodes, of four words each, do not fit the address
space of a 32-bit process and take 64 GiB of a 64-bit one. -/
inductive LocHeapNode (α : Type) where
  | null
  | node (mSize : Int) (mLeft mRight : LocHeapNode α) (mData : α)
deriving DecidableEq

namespace LocHeapNode
variable {α : Type}

def isNull : LocHeapNode α → Bool
  | null => true
  | node .. => false

def getSize : LocHeapNode α → Int
  | null => 0
  | node n _ _ _ => n

/-- The data at the node, if there is a node. -/
def top : LocHeapNode α → Option α
  | null => none
  | node _ _ _ d => some d

/-- The node that a push brings in. -/
def leaf (data : α) : LocHeapNode α := node 1 null null data

/-- The elements of the tree, the top first. -/
def elems : LocHeapNode α → List α
  | null => []
  | node _ l r d => d :: (l.elems ++ r.elems)

theorem elems_of_top {t : LocHeapNode α} {d : α} (h : t.top = some d) :
    t.elems = d :: t.elems.tail := by
  cases t with
  | null => cases h
  | node n l r d' =>
    obtain rfl : d' = d := Option.some.inj h
    rfl

theorem null_of_top {t : LocHeapNode α} (h : t.top = none) : t = null := by
  cases t with
  | null => rfl
  | node n l r d => cases h

theorem isNull_iff {t : LocHeapNode α} : t.isNull = true ↔ t = null := by
  cases t <;> simp [isNull]

section
variable [LocRankable α]

/-- The higher ranked of the two stays, the other goes into a subtree. -/
def push : LocHeapNode α → α → LocHeapNode α
  | null, data => leaf data
  | node n l r d, data =>
    let high := if outRanks data d then data else d
    let low := if outRanks data d then d else data
    if l.isNull then node (n + 1) (leaf low) r high
    else if r.isNull then node (n + 1) l (leaf low) high
    else if l.getSize ≤ r.getSize then node (n + 1) (push l low) r high
    else node (n + 1) l (push r low) high

/-- `pop` at a node that holds `data` after the swap with its parent: `data`
goes down to a leaf, and the leaf leaves the tree with it. -/
def popDown (data : α) : LocHeapNode α → LocHeapNode α × Option α
  | null => (null, none)
  | node n l r _ =>
    match l.top, r.top with
    | none, none => (null, some data)
    | none, some dr => (node (n - 1) l (popDown data r).1 dr, (popDown data r).2)
    | some dl, none => (node (n - 1) (popDown data l).1 r dl, (popDown data l).2)
    | some dl, some dr =>
      if outRanks dl dr then (node (n - 1) (popDown data l).1 r dl, (popDown data l).2)
      else (node (n - 1) l (popDown data r).1 dr, (popDown data r).2)

def pop : LocHeapNode α → LocHeapNode α × Option α
  | null => (null, none)
  | node n l r d => popDown d (node n l r d)

/-- The search goes into the subtrees unless `data` outranks what is on top. -/
def remove [DecidableEq α] (data : α) : LocHeapNode α → LocHeapNode α × Option α
  | null => (null, none)
  | node n l r d =>
    if data = d then pop (node n l r d)
    else if outRanks data d then (node n l r d, none)
    else match (remove data l).2 with
      | some removed => (node (n - 1) (remove data l).1 r d, some removed)
      | none =>
        match (remove data r).2 with
        | some removed => (node (n - 1) l (remove data r).1 d, some removed)
        | none => (node n l r d, none)

/-! ## What the operations keep -/

theorem top_push (t : LocHeapNode α) (data : α) :
    (t.push data).top = some (match t.top with
      | none => data
      | some d => if outRanks data d then data else d) := by
  cases t with
  | null => rfl
  | node n l r d =>
    simp only [push]
    split
    · rfl
    · split
      · rfl
      · split <;> rfl

theorem push_elems (t : LocHeapNode α) (data : α) : (t.push data).elems.Perm (data :: t.elems) := by
  induction t generalizing data with
  | null => exact List.Perm.refl _
  | node n l r d ihl ihr =>
    have hswap : ((if outRanks data d then data else d) ::
        (if outRanks data d then d else data) :: (l.elems ++ r.elems)).Perm
        (data :: d :: (l.elems ++ r.elems)) := by
      split
      · exact List.Perm.refl _
      · exact List.Perm.swap _ _ _
    refine List.Perm.trans ?_ hswap
    generalize hlow : (if outRanks data d then d else data) = low
    simp only [push, hlow]
    split
    · rename_i hl
      rw [isNull_iff.mp hl]
      exact List.Perm.refl _
    · split
      · rename_i hr
        rw [isNull_iff.mp hr]
        have hnew : (l.elems ++ [low]).Perm (low :: (l.elems ++ null.elems)) := by
          rw [show l.elems ++ null.elems = l.elems from List.append_nil _]
          exact List.perm_append_comm
        exact hnew.cons _
      · split
        · exact ((ihl low).append_right r.elems).cons _
        · exact (((ihr low).append_left l.elems).trans List.perm_middle).cons _

theorem popDown_snd (data : α) (t : LocHeapNode α) :
    (popDown data t).2 = t.top.map fun _ => data := by
  induction t with
  | null => rfl
  | node n l r d ihl ihr =>
    show (popDown data (node n l r d)).2 = some data
    simp only [popDown]
    split
    · rfl
    · rename_i hr
      rw [ihr, hr, Option.map_some]
    · rename_i hl _
      rw [ihl, hl, Option.map_some]
    · rename_i hl hr
      split
      · rw [ihl, hl, Option.map_some]
      · rw [ihr, hr, Option.map_some]

/-- Everything but the top stays. -/
theorem popDown_elems (data : α) (t : LocHeapNode α) :
    (popDown data t).1.elems.Perm t.elems.tail := by
  induction t with
  | null => exact List.Perm.refl _
  | node n l r d ihl ihr =>
    have hleft : ∀ {dl}, l.top = some dl →
        (node (n - 1) (popDown data l).1 r dl).elems.Perm (l.elems ++ r.elems) := by
      intro dl hl
      rw [elems_of_top hl]
      exact (ihl.append_right r.elems).cons dl
    have hright : ∀ {dr}, r.top = some dr →
        (node (n - 1) l (popDown data r).1 dr).elems.Perm (l.elems ++ r.elems) := by
      intro dr hr
      rw [elems_of_top hr]
      exact ((ihr.append_left l.elems).cons dr).trans List.perm_middle.symm
    simp only [popDown, elems, List.tail_cons]
    split
    · rename_i hl hr
      rw [null_of_top hl, null_of_top hr]
      exact List.Perm.refl _
    · rename_i hr
      exact hright hr
    · rename_i hl _
      exact hleft hl
    · rename_i hl hr
      split
      · exact hleft hl
      · exact hright hr

theorem pop_snd (t : LocHeapNode α) : t.pop.2 = t.top := by
  cases t with
  | null => rfl
  | node n l r d => exact popDown_snd d (node n l r d)

theorem pop_elems (t : LocHeapNode α) : t.pop.1.elems.Perm t.elems.tail := by
  cases t with
  | null => exact List.Perm.refl _
  | node n l r d => exact popDown_elems d (node n l r d)

variable [DecidableEq α]

/-- A removal either finds the element and takes out only it, or changes
nothing. -/
theorem remove_cases (data : α) (t : LocHeapNode α) :
    (t.remove data).2 = none ∧ (t.remove data).1 = t ∨
      (t.remove data).2 = some data ∧ t.elems.Perm (data :: (t.remove data).1.elems) := by
  induction t with
  | null => exact Or.inl ⟨rfl, rfl⟩
  | node n l r d ihl ihr =>
    by_cases hd : data = d
    · subst hd
      simp only [remove, if_true]
      refine Or.inr ⟨pop_snd _, ?_⟩
      exact ((pop_elems (node n l r data)).symm.cons data)
    · by_cases ho : outRanks data d = true
      · refine Or.inl ?_
        simp only [remove, hd, ho, if_false, if_true, and_self]
      · simp only [remove, hd, ho, if_false]
        rcases ihl with ⟨hl, -⟩ | ⟨hl, hperm⟩
        · rcases ihr with ⟨hr, -⟩ | ⟨hr, hperm⟩
          · simp only [hl, hr]
            exact Or.inl ⟨rfl, rfl⟩
          · simp only [hl, hr]
            refine Or.inr ⟨rfl, ?_⟩
            exact (((hperm.append_left l.elems).trans List.perm_middle).cons d).trans
              (List.Perm.swap _ _ _)
        · simp only [hl]
          exact Or.inr ⟨rfl, ((hperm.append_right r.elems).cons d).trans (List.Perm.swap _ _ _)⟩

/-- Only the removal of the top changes the top. -/
theorem top_remove {data : α} {t : LocHeapNode α} (h : t.top ≠ some data) :
    (t.remove data).1.top = t.top := by
  cases t with
  | null => rfl
  | node n l r d =>
    have hd : ¬ data = d := fun hh => h (hh ▸ rfl)
    simp only [remove, hd, if_false]
    split
    · rfl
    · split
      · rfl
      · split <;> rfl

end

end LocHeapNode

/-! ## The heap -/

structure LocHeap (α : Type) where
  mTree : LocHeapNode α

namespace LocHeap
variable {α : Type}

def new : LocHeap α := ⟨.null⟩

def elems (h : LocHeap α) : List α := h.mTree.elems

def peek (h : LocHeap α) : Option α := h.mTree.top

section
variable [LocRankable α]

def push (h : LocHeap α) (data : α) : LocHeap α :=
  if h.mTree.isNull then ⟨.leaf data⟩ else ⟨h.mTree.push data⟩

def pop (h : LocHeap α) : LocHeap α × Option α :=
  if h.mTree.isNull then (h, none) else (⟨h.mTree.pop.1⟩, h.mTree.pop.2)

def remove [DecidableEq α] (h : LocHeap α) (data : α) : LocHeap α × Option α :=
  if h.mTree.isNull then (h, none) else (⟨(h.mTree.remove data).1⟩, (h.mTree.remove data).2)

theorem mTree_push (h : LocHeap α) (data : α) : (h.push data).mTree = h.mTree.push data := by
  unfold push
  split
  · rename_i hn
    rw [LocHeapNode.isNull_iff.mp hn]
    rfl
  · rfl

theorem mTree_pop (h : LocHeap α) : h.pop.1.mTree = h.mTree.pop.1 := by
  unfold pop
  split
  · rename_i hn
    simp only [LocHeapNode.isNull_iff.mp hn]
    rfl
  · rfl

theorem peek_push (h : LocHeap α) (data : α) :
    (h.push data).peek = some (match h.peek with
      | none => data
      | some d => if outRanks data d then data else d) := by
  unfold peek
  rw [mTree_push]
  exact h.mTree.top_push data

theorem push_elems (h : LocHeap α) (data : α) : (h.push data).elems.Perm (data :: h.elems) := by
  unfold elems
  rw [mTree_push]
  exact h.mTree.push_elems data

/-- What is popped is what was on top. -/
theorem pop_snd (h : LocHeap α) : h.pop.2 = h.peek := by
  unfold pop
  split
  · rename_i hn
    simp only [peek, LocHeapNode.isNull_iff.mp hn]
    rfl
  · exact h.mTree.pop_snd

theorem pop_elems (h : LocHeap α) : h.pop.1.elems.Perm h.elems.tail := by
  unfold elems
  rw [mTree_pop]
  exact h.mTree.pop_elems

variable [DecidableEq α]

theorem remove_cases (h : LocHeap α) (data : α) :
    (h.remove data).2 = none ∧ (h.remove data).1 = h ∨
      (h.remove data).2 = some data ∧ h.elems.Perm (data :: (h.remove data).1.elems) := by
  unfold remove
  split
  · exact Or.inl ⟨rfl, rfl⟩
  · rcases h.mTree.remove_cases data with ⟨hr, ht⟩ | ⟨hr, hp⟩
    · refine Or.inl ⟨hr, ?_⟩
      simp only [ht]
    · exact Or.inr ⟨hr, hp⟩

theorem peek_remove {h : LocHeap α} {data : α} (hp : h.peek ≠ some data) :
    (h.remove data).1.peek = h.peek := by
  unfold remove
  split
  · rfl
  · exact LocHeapNode.top_remove hp

end

end LocHeap

end DeviceHal.Utils.RankHeap
