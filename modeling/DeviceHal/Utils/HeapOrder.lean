import DeviceHal.Lib.PriorityBag
import DeviceHal.Utils.RankHeap

/-! # LocHeap is a priority bag

When `outRanks` is a strict weak order, every operation of the heap keeps the
tree sorted vertically with the right sizes and answers as a priority bag
does. The order is what makes the pruned search of `remove` complete. -/
namespace DeviceHal.Utils.HeapOrder
open DeviceHal.Lib.Run DeviceHal.Lib.PriorityBag DeviceHal.Utils.RankHeap
open DeviceHal.Utils.RankHeap.LocHeapNode (leaf popDown elems_of_top null_of_top isNull_iff)

variable {α : Type}

/-- Every `mSize` is the number of nodes of the subtree. -/
def Sized : LocHeapNode α → Prop
  | .null => True
  | .node n l r d => n = (LocHeapNode.node n l r d).elems.length ∧ Sized l ∧ Sized r

theorem mem_of_top {t : LocHeapNode α} {d : α} (h : t.top = some d) : d ∈ t.elems := by
  rw [elems_of_top h]
  exact List.mem_cons_self

theorem sized_leaf (d : α) : Sized (leaf d) := ⟨by simp [LocHeapNode.elems], trivial, trivial⟩

theorem getSize_eq {t : LocHeapNode α} (h : Sized t) : t.getSize = t.elems.length := by
  cases t with
  | null => rfl
  | node n l r d => exact h.1

theorem sized_node {n : Int} {l r : LocHeapNode α} {d : α} (hl : Sized l) (hr : Sized r)
    (hn : n = 1 + l.elems.length + r.elems.length) : Sized (.node n l r d) := by
  refine ⟨?_, hl, hr⟩
  simp only [LocHeapNode.elems, List.length_cons, List.length_append]
  omega

theorem node_size {n : Int} {l r : LocHeapNode α} {d : α} (h : Sized (.node n l r d)) :
    n = 1 + l.elems.length + r.elems.length := by
  have hn := h.1
  simp only [LocHeapNode.elems, List.length_cons, List.length_append] at hn
  omega

theorem eq_new_of_peek_none {h : LocHeap α} (hp : h.peek = none) : h = .new := by
  obtain ⟨t⟩ := h
  exact congrArg LocHeap.mk (null_of_top hp)

def contents (h : LocHeap α) : Multiset α := h.elems

section
variable [LocRankable α]

/-- `outRanks` as a relation. -/
def OutRanks (a b : α) : Prop := outRanks a b = true

instance (a b : α) : Decidable (OutRanks a b) := inferInstanceAs (Decidable (_ = _))

/-- No node is outranked by a descendant. -/
def Ordered : LocHeapNode α → Prop
  | .null => True
  | .node _ l r d => (∀ x ∈ l.elems ++ r.elems, ¬ OutRanks x d) ∧ Ordered l ∧ Ordered r

/-- `LocHeapNode::checkNodes`, true for NULL. -/
def checkNodes : LocHeapNode α → Bool
  | .null => true
  | .node n l r d =>
    let fits (t : LocHeapNode α) : Bool := t.top.all fun x => !outRanks x d
    fits l && checkNodes l && fits r && checkNodes r && n - l.getSize - r.getSize == 1

theorem ordered_leaf (d : α) : Ordered (leaf d) := ⟨by simp [LocHeapNode.elems], trivial, trivial⟩

theorem ordered_node {n : Int} {l r : LocHeapNode α} {d : α} (hl : Ordered l) (hr : Ordered r)
    (hle : ∀ x ∈ l.elems, ¬ OutRanks x d) (hre : ∀ x ∈ r.elems, ¬ OutRanks x d) :
    Ordered (.node n l r d) :=
  ⟨fun x hx => (List.mem_append.mp hx).elim (hle x) (hre x), hl, hr⟩

theorem popDown_sub {data : α} {t : LocHeapNode α} {x : α} (hx : x ∈ (popDown data t).1.elems) :
    x ∈ t.elems :=
  List.mem_of_mem_tail ((LocHeapNode.popDown_elems data t).mem_iff.mp hx)

/-- The check of the source accepts every ordered tree with the right sizes. -/
theorem checkNodes_true {t : LocHeapNode α} (ho : Ordered t) (hs : Sized t) :
    checkNodes t = true := by
  induction t with
  | null => rfl
  | node n l r d ihl ihr =>
    have hfits : ∀ t : LocHeapNode α, (∀ x ∈ t.elems, x ∈ l.elems ++ r.elems) →
        (t.top.all fun x => !outRanks x d) = true := by
      intro t hsub
      cases ht : t.top with
      | none => rfl
      | some x =>
        have hx := ho.1 x (hsub x (mem_of_top ht))
        simpa [OutRanks] using hx
    have hn : n - l.getSize - r.getSize = 1 := by
      have hlen := hs.1
      rw [getSize_eq hs.2.1, getSize_eq hs.2.2]
      simp only [LocHeapNode.elems, List.length_cons, List.length_append] at hlen
      omega
    simp only [checkNodes, ihl ho.2.1 hs.2.1, ihr ho.2.2 hs.2.2, hn,
      hfits l (fun x => List.mem_append_left _), hfits r (fun x => List.mem_append_right _)]
    rfl

/-- `outRanks` orders the elements of `S` as a strict weak order does. -/
structure WeakOrderOn (S : α → Prop) : Prop where
  asymm : ∀ x y, S x → S y → OutRanks x y → ¬ OutRanks y x
  trans : ∀ x y z, S x → S y → S z → ¬ OutRanks x y → ¬ OutRanks y z → ¬ OutRanks x z

theorem weakOrderOn_of_strict [IsStrictWeakOrder α OutRanks] (S : α → Prop) :
    WeakOrderOn S where
  asymm _ _ _ _ h := not_rel_of_rel h
  trans _ _ _ _ _ _ h h' := not_rel_trans h h'

section
variable {S : α → Prop} (w : WeakOrderOn S)
include w

/-- Nothing in an ordered tree outranks its top. -/
theorem top_highest {t : LocHeapNode α} (hS : ∀ x ∈ t.elems, S x) (h : Ordered t) {d : α}
    (hd : t.top = some d) : ∀ x ∈ t.elems, ¬ OutRanks x d := by
  cases t with
  | null => cases hd
  | node n l r d' =>
    obtain rfl : d' = d := Option.some.inj hd
    intro x hx
    rcases List.mem_cons.mp hx with rfl | hx
    · have hself := hS x List.mem_cons_self
      exact fun hh => w.asymm x x hself hself hh hh
    · exact h.1 x hx

/-- What the check of the source accepts is ordered. -/
theorem ordered_of_checkNodes {t : LocHeapNode α} (hS : ∀ x ∈ t.elems, S x)
    (h : checkNodes t = true) : Ordered t := by
  induction t with
  | null => trivial
  | node n l r d ihl ihr =>
    simp only [checkNodes, Bool.and_eq_true] at h
    obtain ⟨⟨⟨⟨hfitl, hl⟩, hfitr⟩, hr⟩, -⟩ := h
    have hSl : ∀ x ∈ l.elems, S x := fun x hx =>
      hS x (List.mem_cons_of_mem _ (List.mem_append_left _ hx))
    have hSr : ∀ x ∈ r.elems, S x := fun x hx =>
      hS x (List.mem_cons_of_mem _ (List.mem_append_right _ hx))
    have hbelow : ∀ {t : LocHeapNode α}, (∀ x ∈ t.elems, S x) → Ordered t →
        (t.top.all fun x => !outRanks x d) = true → ∀ x ∈ t.elems, ¬ OutRanks x d := by
      intro t hSt ho hfit x hx
      cases ht : t.top with
      | none =>
        rw [null_of_top ht] at hx
        cases hx
      | some y =>
        rw [ht] at hfit
        have hy : ¬ OutRanks y d := by simpa [OutRanks] using hfit
        exact w.trans x y d (hSt x hx) (hSt y (mem_of_top ht)) (hS d List.mem_cons_self)
          (top_highest w hSt ho ht x hx) hy
    exact ordered_node (ihl hSl hl) (ihr hSr hr) (hbelow hSl (ihl hSl hl) hfitl)
      (hbelow hSr (ihr hSr hr) hfitr)

/-! ## push -/

/-- The one that stays is outranked neither by the other nor by what the old
top was not outranked by. -/
theorem swap_ordered {data d : α} (hdata : S data) (hd : S d) :
    let high := if outRanks data d then data else d
    let low := if outRanks data d then d else data
    ¬ OutRanks low high ∧ S low ∧ ∀ x, S x → ¬ OutRanks x d → ¬ OutRanks x high := by
  intro high low
  by_cases ho : OutRanks data d
  · have hh : high = data := if_pos ho
    have hl : low = d := if_pos ho
    rw [hh, hl]
    have hnot := w.asymm data d hdata hd ho
    exact ⟨hnot, hd, fun x hx hxd => w.trans x d data hx hd hdata hxd hnot⟩
  · have hh : high = d := if_neg ho
    have hl : low = data := if_neg ho
    rw [hh, hl]
    exact ⟨ho, hdata, fun x _ hx => hx⟩

theorem push_ordered {t : LocHeapNode α} (hS : ∀ x ∈ t.elems, S x) (h : Ordered t) {data : α}
    (hdata : S data) : Ordered (t.push data) := by
  induction t generalizing data with
  | null => exact ordered_leaf data
  | node n l r d ihl ihr =>
    obtain ⟨hle, hl, hr⟩ := h
    have hSl : ∀ x ∈ l.elems, S x := fun x hx =>
      hS x (List.mem_cons_of_mem _ (List.mem_append_left _ hx))
    have hSr : ∀ x ∈ r.elems, S x := fun x hx =>
      hS x (List.mem_cons_of_mem _ (List.mem_append_right _ hx))
    obtain ⟨hlow, hSlow, hkeep⟩ := swap_ordered w hdata (hS d List.mem_cons_self)
    simp only [LocHeapNode.push]
    generalize (if outRanks data d then data else d) = high at hlow hkeep ⊢
    generalize (if outRanks data d then d else data) = low at hlow hSlow ⊢
    have hL : ∀ x ∈ l.elems, ¬ OutRanks x high :=
      fun x hx => hkeep x (hSl x hx) (hle x (List.mem_append_left _ hx))
    have hR : ∀ x ∈ r.elems, ¬ OutRanks x high :=
      fun x hx => hkeep x (hSr x hx) (hle x (List.mem_append_right _ hx))
    have hnull : ∀ x ∈ (LocHeapNode.null : LocHeapNode α).elems, ¬ OutRanks x high :=
      fun x hx => absurd hx List.not_mem_nil
    have hnew : ∀ {t : LocHeapNode α}, (∀ x ∈ t.elems, ¬ OutRanks x high) →
        ∀ x ∈ (t.push low).elems, ¬ OutRanks x high := by
      intro t ht x hx
      rcases List.mem_cons.mp ((t.push_elems low).mem_iff.mp hx) with rfl | hx
      · exact hlow
      · exact ht x hx
    split
    · exact ordered_node (ordered_leaf low) hr (hnew hnull) hR
    · split
      · exact ordered_node hl (ordered_leaf low) hL (hnew hnull)
      · split
        · exact ordered_node (ihl hSl hl hSlow) hr (hnew hL) hR
        · exact ordered_node hl (ihr hSr hr hSlow) hL (hnew hR)

/-! ## pop -/

theorem popDown_ordered (data : α) {t : LocHeapNode α} (hS : ∀ x ∈ t.elems, S x)
    (h : Ordered t) : Ordered (popDown data t).1 := by
  induction t with
  | null => trivial
  | node n l r d ihl ihr =>
    obtain ⟨-, hl, hr⟩ := h
    have hSl : ∀ x ∈ l.elems, S x := fun x hx =>
      hS x (List.mem_cons_of_mem _ (List.mem_append_left _ hx))
    have hSr : ∀ x ∈ r.elems, S x := fun x hx =>
      hS x (List.mem_cons_of_mem _ (List.mem_append_right _ hx))
    -- the top of a subtree moves up; the other subtree's top must not outrank it
    have hleft : ∀ {dl}, l.top = some dl → (∀ x ∈ r.elems, ¬ OutRanks x dl) →
        Ordered (.node (n - 1) (popDown data l).1 r dl) :=
      fun hdl hre => ordered_node (ihl hSl hl) hr
        (fun x hx => top_highest w hSl hl hdl x (popDown_sub hx)) hre
    have hright : ∀ {dr}, r.top = some dr → (∀ x ∈ l.elems, ¬ OutRanks x dr) →
        Ordered (.node (n - 1) l (popDown data r).1 dr) :=
      fun hdr hle => ordered_node hl (ihr hSr hr) hle
        (fun x hx => top_highest w hSr hr hdr x (popDown_sub hx))
    simp only [popDown]
    split
    · trivial
    · rename_i hl0 hdr
      refine hright hdr ?_
      rw [null_of_top hl0]
      simp [LocHeapNode.elems]
    · rename_i hdl hr0
      refine hleft hdl ?_
      rw [null_of_top hr0]
      simp [LocHeapNode.elems]
    · rename_i dl dr hdl hdr
      have hSdl := hSl dl (mem_of_top hdl)
      have hSdr := hSr dr (mem_of_top hdr)
      split
      · rename_i ho
        exact hleft hdl fun x hx => w.trans x dr dl (hSr x hx) hSdr hSdl
          (top_highest w hSr hr hdr x hx) (w.asymm dl dr hSdl hSdr ho)
      · rename_i ho
        exact hright hdr fun x hx => w.trans x dl dr (hSl x hx) hSdl hSdr
          (top_highest w hSl hl hdl x hx) ho

theorem pop_ordered {t : LocHeapNode α} (hS : ∀ x ∈ t.elems, S x) (h : Ordered t) :
    Ordered t.pop.1 := by
  cases t with
  | null => trivial
  | node n l r d => exact popDown_ordered w d hS h

end

/-! ## Sizes -/

theorem push_sized {t : LocHeapNode α} (h : Sized t) (data : α) : Sized (t.push data) := by
  induction t generalizing data with
  | null => exact sized_leaf data
  | node n l r d ihl ihr =>
    have hn := node_size h
    obtain ⟨-, hl, hr⟩ := h
    have hlen : ∀ (t : LocHeapNode α) (x : α), (t.push x).elems.length = t.elems.length + 1 :=
      fun t x => (t.push_elems x).length_eq
    simp only [LocHeapNode.push]
    generalize (if outRanks data d then d else data) = low
    split
    · rename_i hl0
      rw [isNull_iff.mp hl0] at hn
      refine sized_node (sized_leaf low) hr ?_
      simp only [LocHeapNode.elems, leaf, List.length_cons, List.length_append,
        List.length_nil] at hn ⊢
      omega
    · split
      · rename_i hr0
        rw [isNull_iff.mp hr0] at hn
        refine sized_node hl (sized_leaf low) ?_
        simp only [LocHeapNode.elems, leaf, List.length_cons, List.length_append,
          List.length_nil] at hn ⊢
        omega
      · split
        · refine sized_node (ihl hl low) hr ?_
          rw [hlen]; omega
        · refine sized_node hl (ihr hr low) ?_
          rw [hlen]; omega

theorem popDown_length {data d : α} {t : LocHeapNode α} (hd : t.top = some d) :
    ((popDown data t).1.elems.length : Int) = t.elems.length - 1 := by
  rw [(LocHeapNode.popDown_elems data t).length_eq, elems_of_top hd]
  simp

theorem popDown_sized (data : α) {t : LocHeapNode α} (h : Sized t) :
    Sized (popDown data t).1 := by
  induction t with
  | null => trivial
  | node n l r d ihl ihr =>
    have hn := node_size h
    obtain ⟨-, hl, hr⟩ := h
    have hleft : ∀ {dl}, l.top = some dl →
        Sized (.node (n - 1) (popDown data l).1 r dl) := by
      intro dl hdl
      refine sized_node (ihl hl) hr ?_
      rw [popDown_length hdl]; omega
    have hright : ∀ {dr}, r.top = some dr →
        Sized (.node (n - 1) l (popDown data r).1 dr) := by
      intro dr hdr
      refine sized_node hl (ihr hr) ?_
      rw [popDown_length hdr]; omega
    simp only [popDown]
    split
    · trivial
    · rename_i hdr
      exact hright hdr
    · rename_i hdl _
      exact hleft hdl
    · rename_i hdl hdr
      split
      · exact hleft hdl
      · exact hright hdr

theorem pop_sized {t : LocHeapNode α} (h : Sized t) : Sized t.pop.1 := by
  cases t with
  | null => trivial
  | node n l r d => exact popDown_sized d h

/-! ## remove -/

theorem remove_sub [DecidableEq α] {data : α} {t : LocHeapNode α} {x : α}
    (hx : x ∈ (t.remove data).1.elems) : x ∈ t.elems := by
  rcases t.remove_cases data with ⟨-, ht⟩ | ⟨-, hp⟩
  · exact ht ▸ hx
  · exact hp.mem_iff.mpr (List.mem_cons_of_mem _ hx)

theorem remove_length [DecidableEq α] {data removed : α} {t : LocHeapNode α}
    (h : (t.remove data).2 = some removed) :
    ((t.remove data).1.elems.length : Int) = t.elems.length - 1 := by
  rcases t.remove_cases data with ⟨hn, -⟩ | ⟨-, hp⟩
  · rw [hn] at h; cases h
  · rw [hp.length_eq]; simp

theorem remove_sized [DecidableEq α] (data : α) {t : LocHeapNode α} (h : Sized t) :
    Sized (t.remove data).1 := by
  induction t with
  | null => trivial
  | node n l r d ihl ihr =>
    have hn := node_size h
    have hnode := h
    obtain ⟨-, hl, hr⟩ := h
    simp only [LocHeapNode.remove]
    split
    · exact pop_sized hnode
    · split
      · exact hnode
      · split
        · rename_i hrem
          refine sized_node (ihl hl) hr ?_
          rw [remove_length hrem]; omega
        · split
          · rename_i hrem
            refine sized_node hl (ihr hr) ?_
            rw [remove_length hrem]; omega
          · exact hnode

theorem remove_ordered [DecidableEq α] {S : α → Prop} (w : WeakOrderOn S) (data : α)
    {t : LocHeapNode α} (hS : ∀ x ∈ t.elems, S x) (h : Ordered t) :
    Ordered (t.remove data).1 := by
  induction t with
  | null => trivial
  | node n l r d ihl ihr =>
    have hnode := h
    obtain ⟨hle, hl, hr⟩ := h
    have hSl : ∀ x ∈ l.elems, S x := fun x hx =>
      hS x (List.mem_cons_of_mem _ (List.mem_append_left _ hx))
    have hSr : ∀ x ∈ r.elems, S x := fun x hx =>
      hS x (List.mem_cons_of_mem _ (List.mem_append_right _ hx))
    have hL : ∀ x ∈ l.elems, ¬ OutRanks x d := fun x hx => hle x (List.mem_append_left _ hx)
    have hR : ∀ x ∈ r.elems, ¬ OutRanks x d := fun x hx => hle x (List.mem_append_right _ hx)
    simp only [LocHeapNode.remove]
    split
    · exact pop_ordered w hS hnode
    · split
      · exact hnode
      · split
        · exact ordered_node (ihl hSl hl) hr (fun x hx => hL x (remove_sub hx)) hR
        · split
          · exact ordered_node hl (ihr hSr hr) hL (fun x hx => hR x (remove_sub hx))
          · exact hnode

/-- The pruned search finds every stored element: one that outranks the top of
an ordered tree is not in it. -/
theorem remove_found [DecidableEq α] {data : α} {t : LocHeapNode α} (h : Ordered t)
    (hm : data ∈ t.elems) : (t.remove data).2 = some data := by
  induction t with
  | null => cases hm
  | node n l r d ihl ihr =>
    by_cases hd : data = d
    · subst hd
      simp only [LocHeapNode.remove, if_true]
      exact LocHeapNode.pop_snd _
    · have hlower : data ∈ l.elems ++ r.elems := (List.mem_cons.mp hm).resolve_left hd
      have hprune : ¬ outRanks data d = true := h.1 data hlower
      simp only [LocHeapNode.remove, if_neg hd, if_neg hprune]
      rcases l.remove_cases data with ⟨hl, -⟩ | ⟨hl, -⟩
      · have hr : data ∈ r.elems := by
          refine (List.mem_append.mp hlower).resolve_left fun hin => ?_
          rw [ihl h.2.1 hin] at hl
          cases hl
        simp only [hl, ihr h.2.2 hr]
      · simp only [hl]

/-! ## The heap as a priority bag -/

/-- One call of the heap's interface and its answer. -/
def apply [DecidableEq α] (h : LocHeap α) : Op α → LocHeap α × Option α
  | .push x => (h.push x, none)
  | .pop => h.pop
  | .peek => (h, h.peek)
  | .remove x => h.remove x

structure Sorted (h : LocHeap α) : Prop where
  ordered : Ordered h.mTree
  sized : Sized h.mTree

theorem contents_pop [DecidableEq α] {h : LocHeap α} {x : α} (hp : h.peek = some x) :
    contents h.pop.1 = (contents h).erase x := by
  have htail : h.elems = x :: h.elems.tail := elems_of_top hp
  have hperm : (h.pop.1.elems : Multiset α) = h.elems.tail := Multiset.coe_eq_coe.mpr h.pop_elems
  unfold contents
  rw [hperm, htail]
  simp

theorem mTree_remove [DecidableEq α] (h : LocHeap α) (data : α) :
    (h.remove data).1.mTree = (h.mTree.remove data).1 := by
  unfold LocHeap.remove
  split
  · rename_i hn
    simp only [isNull_iff.mp hn]
    rfl
  · rfl

theorem remove_absent [DecidableEq α] {h : LocHeap α} {x : α} (hx : x ∉ contents h) :
    (h.remove x).2 = none ∧ (h.remove x).1 = h := by
  rcases h.remove_cases x with hn | ⟨-, hp⟩
  · exact hn
  · exact absurd (hp.mem_iff.mpr List.mem_cons_self) hx

theorem remove_stored [DecidableEq α] {h : LocHeap α} (hs : Sorted h) {x : α} (hx : x ∈ contents h) :
    (h.remove x).2 = some x ∧ contents (h.remove x).1 = (contents h).erase x := by
  have hfound : (h.remove x).2 = some x := by
    unfold LocHeap.remove
    split
    · rename_i hn
      have hx' : x ∈ h.mTree.elems := hx
      rw [isNull_iff.mp hn] at hx'
      cases hx'
    · exact remove_found hs.ordered hx
  rcases h.remove_cases x with ⟨hn, -⟩ | ⟨-, hp⟩
  · rw [hn] at hfound; cases hfound
  · refine ⟨hfound, ?_⟩
    have hperm : contents h = x ::ₘ contents (h.remove x).1 := Multiset.coe_eq_coe.mpr hp
    rw [hperm, Multiset.erase_cons_head]

section
variable [IsStrictWeakOrder α OutRanks]

theorem peek_isTop {h : LocHeap α} (hs : Sorted h) {x : α} (hp : h.peek = some x) :
    IsTop OutRanks (contents h) x :=
  ⟨mem_of_top hp, top_highest (weakOrderOn_of_strict fun _ => True) (fun _ _ => trivial)
    hs.ordered hp⟩

variable [DecidableEq α]

theorem apply_sorted (h : LocHeap α) (op : Op α) (hs : Sorted h) : Sorted (apply h op).1 := by
  have w : WeakOrderOn (fun _ : α => True) := weakOrderOn_of_strict _
  cases op with
  | push x =>
    have ht := h.mTree_push x
    exact ⟨ht ▸ push_ordered w (fun _ _ => trivial) hs.ordered trivial, ht ▸ push_sized hs.sized x⟩
  | pop =>
    have ht := h.mTree_pop
    exact ⟨ht ▸ pop_ordered w (fun _ _ => trivial) hs.ordered, ht ▸ pop_sized hs.sized⟩
  | peek => exact hs
  | remove x =>
    have ht := mTree_remove h x
    exact ⟨ht ▸ remove_ordered w x (fun _ _ => trivial) hs.ordered, ht ▸ remove_sized x hs.sized⟩

theorem refines_bag : Refines OutRanks (apply (α := α)) Sorted contents := by
  refine ⟨apply_sorted, fun h op hs => ?_⟩
  cases op with
  | push x =>
    have hc : contents (h.push x) = x ::ₘ contents h := Multiset.coe_eq_coe.mpr (h.push_elems x)
    show BagStep OutRanks (contents h) (.push x) none (contents (h.push x))
    rw [hc]
    exact .push _ x
  | pop =>
    show BagStep OutRanks (contents h) .pop h.pop.2 (contents h.pop.1)
    rw [h.pop_snd]
    cases hp : h.peek with
    | none =>
      rw [eq_new_of_peek_none hp]
      exact .popEmpty
    | some x =>
      rw [contents_pop hp]
      exact .pop (peek_isTop hs hp)
  | peek =>
    show BagStep OutRanks (contents h) .peek h.peek (contents h)
    cases hp : h.peek with
    | none =>
      rw [eq_new_of_peek_none hp]
      exact .peekEmpty
    | some x => exact .peek (peek_isTop hs hp)
  | remove x =>
    show BagStep OutRanks (contents h) (.remove x) (h.remove x).2 (contents (h.remove x).1)
    by_cases hx : x ∈ contents h
    · obtain ⟨ha, hc⟩ := remove_stored hs hx
      rw [ha, hc]
      exact .remove hx
    · obtain ⟨ha, hc⟩ := remove_absent hx
      rw [ha, hc]
      exact .removeAbsent hx

/-- What one operation does, in terms of what the earlier answers say is stored. -/
structure Faithful (t : Tracked (LocHeap α) α) (op : Op α) : Prop where
  ordered : Ordered (t.step apply op).impl.mTree
  sized : Sized (t.step apply op).impl.mTree
  /-- What is stored is what was pushed and not yet popped or removed. -/
  stored : contents (t.step apply op).impl = (t.step apply op).held
  answered : BagStep OutRanks t.held op (apply t.impl op).2 (t.step apply op).held
  /-- The removal of an object that is not stored changes nothing. -/
  unchanged : ∀ x, op = .remove x → x ∉ t.held → (t.step apply op).impl = t.impl

/-- **LocHeap refines a priority bag**: after every operation of every run the
tree is sorted with the right sizes and stores what the answers say, and each
answer is the bag's. An object may even be pushed twice. -/
theorem heap_refines_bag (ops : List (Op α)) :
    Steps (Tracked.step (apply (α := α))) Faithful ⟨LocHeap.new, 0⟩ ops := by
  have hnew : Sorted (LocHeap.new : LocHeap α) := ⟨trivial, trivial⟩
  refine Steps.mono (fun t op hh => ?_) (refines_bag.steps hnew ops)
  obtain ⟨-, hinv, hheld, hheld', hbag⟩ := hh
  refine ⟨hinv.ordered, hinv.sized, hheld', hbag, fun x hop hx => ?_⟩
  subst hop
  exact (remove_absent (hheld.symm ▸ hx)).2

end

end

/-! ## The data of the source's stress test -/

/-- An object of the test at its address. The test's ids are not negative, so
their difference does not overflow. -/
structure LocHeapDebugData where
  address : Nat
  mID : Nat
deriving DecidableEq

instance : LocRankable LocHeapDebugData where
  ranks self rankable := (rankable.mID : Int) - self.mID

theorem outRanks_debugData (a b : LocHeapDebugData) : OutRanks a b ↔ a.mID < b.mID := by
  simp only [OutRanks, outRanks, LocRankable.ranks, decide_eq_true_eq]
  omega

instance : IsStrictWeakOrder LocHeapDebugData OutRanks where
  irrefl a := by rw [outRanks_debugData]; omega
  trans a b c := by simp only [outRanks_debugData]; omega
  incomp_trans a b c := by simp only [outRanks_debugData]; omega

/-- Two objects that rank the same are told apart. -/
theorem heap_refines_bag_run :
    Steps (Tracked.step apply) Faithful ⟨LocHeap.new, 0⟩
      [.push ⟨1, 5⟩, .push ⟨2, 5⟩, .push (⟨3, 2⟩ : LocHeapDebugData), .remove ⟨2, 5⟩, .pop,
        .remove ⟨2, 5⟩] :=
  heap_refines_bag _

end DeviceHal.Utils.HeapOrder
