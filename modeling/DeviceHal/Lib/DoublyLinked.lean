import Mathlib.Data.List.Induction
import Mathlib.Data.List.Nodup
import Mathlib.Logic.Function.Basic

/-! # Doubly linked lists in memory

Nodes are cells that name the next and the previous one; the links that have no
node are the head and the tail of the chain. A list that is cut in two stays
linked inside each part, and is whole again when the two links at the cut are
set: insertion and removal at any place are a cut and a join. -/
namespace DeviceHal.Lib.DoublyLinked

structure Node (α : Type*) where
  next : Option Nat
  prev : Option Nat
  value : α

structure Chain (α : Type*) where
  head : Option Nat
  tail : Option Nat
  nodes : Nat → Option (Node α)

section
variable {α : Type*}

namespace Chain

def empty : Chain α := ⟨none, none, fun _ => none⟩

/-- The link behind the node is set; without a node it is the head. -/
def setNext (c : Chain α) (elem next : Option Nat) : Option (Chain α) :=
  match elem with
  | none => some { c with head := next }
  | some a => (c.nodes a).map fun n =>
    { c with nodes := Function.update c.nodes a (some { n with next }) }

/-- The link before the node is set; without a node it is the tail. -/
def setPrev (c : Chain α) (elem prev : Option Nat) : Option (Chain α) :=
  match elem with
  | none => some { c with tail := prev }
  | some a => (c.nodes a).map fun n =>
    { c with nodes := Function.update c.nodes a (some { n with prev }) }

def alloc (c : Chain α) (a : Nat) (value : α) : Chain α :=
  { c with nodes := Function.update c.nodes a (some ⟨none, none, value⟩) }

theorem setNext_some {c : Chain α} {a : Nat} {n : Node α} (hn : c.nodes a = some n)
    (next : Option Nat) : c.setNext (some a) next =
      some { c with nodes := Function.update c.nodes a (some { n with next }) } := by
  rw [setNext, hn]
  rfl

theorem setPrev_some {c : Chain α} {a : Nat} {n : Node α} (hn : c.nodes a = some n)
    (prev : Option Nat) : c.setPrev (some a) prev =
      some { c with nodes := Function.update c.nodes a (some { n with prev }) } := by
  rw [setPrev, hn]
  rfl

/-- A second release of one node is a fault. -/
def free (c : Chain α) (a : Nat) : Option (Chain α) :=
  (c.nodes a).map fun _ => { c with nodes := Function.update c.nodes a none }

theorem free_some {c : Chain α} {a : Nat} {n : Node α} (hn : c.nodes a = some n) :
    c.free a = some { c with nodes := Function.update c.nodes a none } := by
  rw [free, hn]
  rfl

end Chain

/-- The addresses passed on the way from `p` to the end. -/
def Path (link : Node α → Option Nat) (nodes : Nat → Option (Node α)) :
    Option Nat → List Nat → Prop
  | p, [] => p = none
  | p, a :: as => p = some a ∧ ∃ n, nodes a = some n ∧ Path link nodes (link n) as

/-! ## Segments -/

def addresses (l : List (Nat × α)) : List Nat := l.map Prod.fst

@[simp] theorem addresses_nil : addresses ([] : List (Nat × α)) = [] := rfl

@[simp] theorem addresses_cons (p : Nat × α) (l : List (Nat × α)) :
    addresses (p :: l) = p.1 :: addresses l := rfl

@[simp] theorem addresses_append (l l' : List (Nat × α)) :
    addresses (l ++ l') = addresses l ++ addresses l' := List.map_append

def firstOr (after : Option Nat) : List (Nat × α) → Option Nat
  | [] => after
  | (a, _) :: _ => some a

def lastOr (before : Option Nat) : List (Nat × α) → Option Nat
  | [] => before
  | (a, _) :: l => lastOr (some a) l

/-- The nodes are linked both ways, the first one to `before` and the last one to `after`. -/
def Seg (nodes : Nat → Option (Node α)) : Option Nat → List (Nat × α) → Option Nat → Prop
  | _, [], _ => True
  | before, (a, v) :: l, after =>
    nodes a = some ⟨firstOr after l, before, v⟩ ∧ Seg nodes (some a) l after

theorem firstOr_append (after : Option Nat) (l l' : List (Nat × α)) :
    firstOr after (l ++ l') = firstOr (firstOr after l') l := by
  cases l <;> rfl

theorem lastOr_append (before : Option Nat) (l l' : List (Nat × α)) :
    lastOr before (l ++ l') = lastOr (lastOr before l) l' := by
  induction l generalizing before with
  | nil => rfl
  | cons p l ih => exact ih (some p.1)

theorem firstOr_eq_none {l : List (Nat × α)} : firstOr none l = none ↔ l = [] := by
  cases l <;> simp [firstOr]

theorem lastOr_eq_none {l : List (Nat × α)} : lastOr none l = none ↔ l = [] := by
  obtain rfl | ⟨l, p, rfl⟩ := List.eq_nil_or_concat l
  · simp [lastOr]
  · simp [lastOr_append, lastOr]

variable {nodes nodes' : Nat → Option (Node α)}

theorem seg_append {before after : Option Nat} {l l' : List (Nat × α)} :
    Seg nodes before (l ++ l') after ↔
      Seg nodes before l (firstOr after l') ∧ Seg nodes (lastOr before l) l' after := by
  induction l generalizing before with
  | nil => exact (iff_of_eq (true_and _)).symm
  | cons p l ih =>
    simp only [List.cons_append, Seg, ih, firstOr_append, and_assoc]
    rfl

/-- A segment depends on its own nodes only. -/
theorem Seg.congr {before after : Option Nat} {l : List (Nat × α)} (h : Seg nodes before l after)
    (hsame : ∀ a ∈ addresses l, nodes' a = nodes a) : Seg nodes' before l after := by
  induction l generalizing before with
  | nil => trivial
  | cons p l ih =>
    exact ⟨(hsame p.1 (.head _)).trans h.1, ih h.2 fun a ha => hsame a (.tail _ ha)⟩

theorem Seg.update {before after : Option Nat} {l : List (Nat × α)} (h : Seg nodes before l after)
    {a : Nat} (ha : a ∉ addresses l) (n : Option (Node α)) :
    Seg (Function.update nodes a n) before l after :=
  h.congr fun b hb => Function.update_of_ne (fun he : b = a => ha (he ▸ hb)) _ _

theorem Seg.value_of_mem {before after : Option Nat} {l : List (Nat × α)}
    (h : Seg nodes before l after) {p : Nat × α} (hp : p ∈ l) :
    (nodes p.1).map Node.value = some p.2 := by
  induction l generalizing before with
  | nil => cases hp
  | cons q l ih =>
    rcases List.mem_cons.mp hp with rfl | hp
    · exact congrArg (Option.map Node.value) h.1
    · exact ih h.2 hp

theorem Seg.path_next {before : Option Nat} {l : List (Nat × α)} (h : Seg nodes before l none) :
    Path Node.next nodes (firstOr none l) (addresses l) := by
  induction l generalizing before with
  | nil => rfl
  | cons p l ih => exact ⟨rfl, _, h.1, ih h.2⟩

theorem Seg.path_prev {after : Option Nat} {l : List (Nat × α)} (h : Seg nodes none l after) :
    Path Node.prev nodes (lastOr none l) (addresses l).reverse := by
  induction l using List.reverseRecOn generalizing after with
  | nil => rfl
  | append_singleton l p ih =>
    obtain ⟨hl, hp, -⟩ := seg_append.mp h
    rw [addresses_append, List.reverse_append, lastOr_append]
    exact ⟨rfl, _, hp, ih hl⟩

/-! ## Cut and join -/

/-- The chain is the list. -/
structure Linked (c : Chain α) (l : List (Nat × α)) : Prop where
  head : c.head = firstOr none l
  seg : Seg c.nodes none l none
  tail : c.tail = lastOr none l

/-- The chain is cut in two: the first part leads to `next`, the second one back to `prev`. -/
structure Halves (c : Chain α) (l : List (Nat × α)) (next prev : Option Nat)
    (l' : List (Nat × α)) : Prop where
  head : c.head = firstOr next l
  left : Seg c.nodes none l next
  right : Seg c.nodes prev l' none
  tail : c.tail = lastOr prev l'

variable {c : Chain α} {l l' : List (Nat × α)} {next prev : Option Nat}

theorem linked_append_iff :
    Linked c (l ++ l') ↔ Halves c l (firstOr none l') (lastOr none l) l' := by
  constructor
  · intro h
    obtain ⟨hleft, hright⟩ := seg_append.mp h.seg
    exact ⟨h.head.trans (firstOr_append _ _ _), hleft, hright, h.tail.trans (lastOr_append _ _ _)⟩
  · intro h
    exact ⟨h.head.trans (firstOr_append _ _ _).symm, seg_append.mpr ⟨h.left, h.right⟩,
      h.tail.trans (lastOr_append _ _ _).symm⟩

/-- A node between two parts, and what it is linked to. -/
theorem Linked.cut {a : Nat} {v : α} (h : Linked c (l ++ (a, v) :: l')) :
    Halves c l (some a) (some a) l' ∧
      c.nodes a = some ⟨firstOr none l', lastOr none l, v⟩ := by
  obtain ⟨hhead, hleft, ⟨hnode, hright⟩, htail⟩ := linked_append_iff.mp h
  exact ⟨⟨hhead, hleft, hright, htail⟩, hnode⟩

/-- Nodes outside the list may change. -/
theorem Linked.update (h : Linked c l) {a : Nat} (ha : a ∉ addresses l) (n : Option (Node α)) :
    Linked { c with nodes := Function.update c.nodes a n } l :=
  ⟨h.head, h.seg.update ha n, h.tail⟩

theorem Halves.update (h : Halves c l next prev l') {a : Nat} (ha : a ∉ addresses (l ++ l'))
    (n : Option (Node α)) :
    Halves { c with nodes := Function.update c.nodes a n } l next prev l' := by
  rw [addresses_append, List.mem_append, not_or] at ha
  exact ⟨h.head, h.left.update ha.1 n, h.right.update ha.2 n, h.tail⟩

/-- A node outside the list can be cut off and released. -/
theorem Linked.clear (h : Linked c l) {a : Nat} (ha : a ∉ addresses l) {n : Node α}
    (hn : c.nodes a = some n) : ∃ c₁ c₂ c₃, c.setNext (some a) none = some c₁ ∧
      c₁.setPrev (some a) none = some c₂ ∧ c₂.free a = some c₃ ∧ Linked c₃ l ∧
      c₃.nodes = Function.update c.nodes a none := by
  refine ⟨_, _, _, Chain.setNext_some hn none, Chain.setPrev_some (Function.update_self ..) none,
    Chain.free_some (Function.update_self ..), ?_, ?_⟩
  · exact ((h.update ha _).update ha _).update ha none
  · simp only [Function.update_idem]

theorem linked_empty : Linked (.empty : Chain α) [] := ⟨rfl, trivial, rfl⟩

/-- A new node is the head, and not yet linked to the list behind it. -/
theorem Linked.alloc (h : Linked c l) {a : Nat} (ha : a ∉ addresses l) (v : α) :
    Halves { c.alloc a v with head := some a } [(a, v)] none none l :=
  ⟨rfl, ⟨Function.update_self .., trivial⟩, h.seg.update ha _, h.tail⟩

theorem Halves.setNext (h : Halves c l next prev l') (hd : (addresses (l ++ l')).Nodup)
    (next' : Option Nat) : ∃ c', c.setNext (lastOr none l) next' = some c' ∧
      Halves c' l next' prev l' ∧ ∀ b ∉ addresses l, c'.nodes b = c.nodes b := by
  obtain rfl | ⟨l, ⟨a, v⟩, rfl⟩ := List.eq_nil_or_concat l
  · exact ⟨_, rfl, ⟨rfl, trivial, h.right, h.tail⟩, fun _ _ => rfl⟩
  · rw [List.concat_eq_append] at h hd ⊢
    obtain ⟨hleft, hnode, -⟩ := seg_append.mp h.left
    have hout : a ∉ addresses (l ++ l') := by
      simp only [addresses_append, addresses_cons, addresses_nil, List.nodup_append,
        List.mem_append, List.mem_singleton] at hd ⊢
      exact fun ha => ha.elim (fun ha => hd.1.2.2 a ha a rfl rfl)
        fun ha => hd.2.2 a (.inr rfl) a ha rfl
    have hcut : Halves c l (some a) prev l' :=
      ⟨h.head.trans (firstOr_append _ _ _), hleft, h.right, h.tail⟩
    have hsides := hcut.update hout (some ⟨next', lastOr none l, v⟩)
    refine ⟨_, by rw [lastOr_append]; exact Chain.setNext_some hnode next',
      ⟨hsides.head.trans (firstOr_append next' l [(a, v)]).symm,
        seg_append.mpr ⟨hsides.left, Function.update_self .., trivial⟩, hsides.right,
        hsides.tail⟩, fun b hb => Function.update_of_ne (fun he => hb ?_) _ _⟩
    rw [he, addresses_append]
    exact List.mem_append_right _ (.head _)

theorem Halves.setPrev (h : Halves c l next prev l') (hd : (addresses (l ++ l')).Nodup)
    (prev' : Option Nat) : ∃ c', c.setPrev (firstOr none l') prev' = some c' ∧
      Halves c' l next prev' l' ∧ ∀ b ∉ addresses l', c'.nodes b = c.nodes b := by
  cases l' with
  | nil => exact ⟨_, rfl, ⟨h.head, h.left, trivial, rfl⟩, fun _ _ => rfl⟩
  | cons p l' =>
    obtain ⟨a, v⟩ := p
    obtain ⟨hnode, hright⟩ := h.right
    have hout : a ∉ addresses (l ++ l') := by
      rw [addresses_append, addresses_cons, List.nodup_middle, List.nodup_cons] at hd
      rw [addresses_append]
      exact hd.1
    have hcut : Halves c l next (some a) l' := ⟨h.head, h.left, hright, h.tail⟩
    have hsides := hcut.update hout (some ⟨firstOr none l', prev', v⟩)
    exact ⟨_, Chain.setPrev_some hnode prev',
      ⟨hsides.head, hsides.left, ⟨Function.update_self .., hsides.right⟩, hsides.tail⟩,
      fun b hb => Function.update_of_ne (fun he : b = a => hb (he ▸ .head _)) _ _⟩

end

end DeviceHal.Lib.DoublyLinked
