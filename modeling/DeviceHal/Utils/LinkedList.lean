import DeviceHal.Lib.DoublyLinked
import Mathlib.Data.List.Perm.Subperm

/-! # Linked list

Elements are added in front of the head and removed from the tail; a search
goes from the head and takes the element it finds out of the middle. The
functions work on the elements in memory, where an access through a pointer
that is not allocated is a fault, and are compared with the list of the data
added, newest first. -/
namespace DeviceHal.Utils.LinkedList
open DeviceHal.Lib.DoublyLinked

/-- The data of an element. `dealloc_func` names a function of the caller. -/
structure Message (α δ : Type) where
  data_ptr : α
  dealloc_func : Option δ
deriving DecidableEq

/-- The list, the addresses given out so far and the calls of dealloc functions. -/
structure ListState (α δ : Type) extends Chain (Message α δ) where
  nextAddr : Nat
  dealloc_calls : List (δ × α)

inductive LinkedListErrType where
  | eLINKED_LIST_SUCCESS
  | eLINKED_LIST_FAILURE_GENERAL
  | eLINKED_LIST_INVALID_PARAMETER
  | eLINKED_LIST_INVALID_HANDLE
  | eLINKED_LIST_UNAVAILABLE_RESOURCE
  | eLINKED_LIST_INSUFFICIENT_BUFFER
deriving DecidableEq

variable {α δ : Type}

/-- What the dealloc function of the message is called on, if there is one. -/
def Message.deallocCall (m : Message α δ) : Option (δ × α) := m.dealloc_func.map (·, m.data_ptr)

def ListState.dealloc (s : ListState α δ) (m : Message α δ) : ListState α δ :=
  { s with dealloc_calls := s.dealloc_calls ++ m.deallocCall.toList }

def linked_list_init : ListState α δ := ⟨.empty, 0, []⟩

def linked_list_add (s : ListState α δ) (data_obj : Option α) (dealloc : Option δ)
    (allocated : Bool) : Option (ListState α δ × LinkedListErrType) :=
  match data_obj with
  | none => some (s, .eLINKED_LIST_INVALID_PARAMETER)
  | some data_obj =>
    if allocated then do
      let elem := s.nextAddr
      let c := s.alloc elem ⟨data_obj, dealloc⟩
      let tmp := c.head
      let c := { c with head := some elem }
      let c ← c.setNext (some elem) tmp
      -- `tmp->prev`, or `p_tail` when there was no head
      let c ← c.setPrev tmp c.head
      some ({ s with toChain := c, nextAddr := elem + 1 }, .eLINKED_LIST_SUCCESS)
    else some (s, .eLINKED_LIST_FAILURE_GENERAL)

/-- `data_obj` says whether the caller has a place for the data. -/
def linked_list_remove (s : ListState α δ) (data_obj : Bool) :
    Option (ListState α δ × LinkedListErrType × Option α) :=
  if data_obj then
    match s.tail with
    | none => some (s, .eLINKED_LIST_UNAVAILABLE_RESOURCE, none)
    | some tmp => do
      let elem ← s.nodes tmp
      let c := { s.toChain with tail := elem.prev }
      -- `p_tail->next`, or `p_head` when there is no tail
      let c ← c.setNext c.tail none
      let c ← c.free tmp
      some ({ s with toChain := c }, .eLINKED_LIST_SUCCESS, some elem.value.data_ptr)
  else some (s, .eLINKED_LIST_INVALID_PARAMETER, none)

def linked_list_empty (s : ListState α δ) : Bool := s.head = none

def flushLoop : Nat → ListState α δ → Option (ListState α δ)
  | 0, _ => none
  | rounds + 1, s =>
    match s.head with
    | none => some s
    | some p_head => do
      let elem ← s.nodes p_head
      let s := s.dealloc elem.value
      let c ← s.free p_head
      flushLoop rounds { s with toChain := { c with head := elem.next } }

def linked_list_flush (s : ListState α δ) : Option (ListState α δ × LinkedListErrType) := do
  let s ← flushLoop (s.nextAddr + 1) s
  some ({ s with tail := none }, .eLINKED_LIST_SUCCESS)

/-- The element is taken out of the list. `data_p` says whether its data is copied out. -/
def takeOut (s : ListState α δ) (data_p : Bool) (tmp : Nat) : Option (ListState α δ) := do
  let elem ← s.nodes tmp
  let c ← s.setNext elem.prev elem.next
  let elem ← c.nodes tmp
  let c ← c.setPrev elem.next elem.prev
  let c ← c.setNext (some tmp) none
  let c ← c.setPrev (some tmp) none
  let s := if data_p then s else s.dealloc elem.value
  let c ← c.free tmp
  some { s with toChain := c }

def searchLoop (s : ListState α δ) (data_p : Bool) (equal : α → Bool) (rm_if_found : Bool) :
    Nat → Option Nat → Option (ListState α δ × Option α)
  | 0, _ => none
  | _ + 1, none => some (s, none)
  | rounds + 1, some tmp => do
    let elem ← s.nodes tmp
    if equal elem.value.data_ptr then
      if rm_if_found then (takeOut s data_p tmp).map (·, some elem.value.data_ptr)
      else some (s, some elem.value.data_ptr)
    else searchLoop s data_p equal rm_if_found rounds elem.next

/-- The last part of the answer is what is written to `data_p`. `equal` has its
`data_0` already. -/
def linked_list_search (s : ListState α δ) (data_p : Bool) (equal : Option (α → Bool))
    (rm_if_found : Bool) : Option (ListState α δ × LinkedListErrType × Option (Option α)) :=
  match equal with
  | none => some (s, .eLINKED_LIST_INVALID_HANDLE, none)
  | some equal =>
    if s.tail = none then some (s, .eLINKED_LIST_UNAVAILABLE_RESOURCE, none)
    else do
      let found ← searchLoop s data_p equal rm_if_found (s.nextAddr + 1) s.head
      some (found.1, .eLINKED_LIST_SUCCESS, if data_p then some found.2 else none)

/-! ## The elements and the list -/

/-- The list is in the state, and nothing else is allocated. -/
structure Holds (s : ListState α δ) (l : List (Nat × Message α δ)) : Prop where
  linked : Linked s.toChain l
  nodup : (addresses l).Nodup
  given : ∀ a ∈ addresses l, a < s.nextAddr
  only : ∀ a ∉ addresses l, s.nodes a = none

variable {s : ListState α δ} {l before after : List (Nat × Message α δ)} {a : Nat}
  {m : Message α δ}

theorem holds_init : Holds (linked_list_init : ListState α δ) [] :=
  ⟨linked_empty, List.nodup_nil, fun _ h => (by cases h), fun _ _ => rfl⟩

theorem Holds.length_le (h : Holds s l) : l.length ≤ s.nextAddr := by
  have hsub := List.Nodup.subperm h.nodup fun a ha => List.mem_range.mpr (h.given a ha)
  simpa [addresses] using hsub.length_le

theorem Holds.notMem_middle (h : Holds s (before ++ (a, m) :: after)) :
    a ∉ addresses (before ++ after) ∧ (addresses (before ++ after)).Nodup := by
  have hd := h.nodup
  rw [addresses_append, addresses_cons, List.nodup_middle, List.nodup_cons] at hd
  rwa [addresses_append]

/-- An element is unlinked and released, and the others stay. -/
theorem Holds.release (h : Holds s (before ++ (a, m) :: after)) {c : Chain (Message α δ)}
    (hc : Linked c (before ++ after)) (hgone : c.nodes a = none)
    (hsame : ∀ b ∉ addresses (before ++ after), b ≠ a → c.nodes b = s.nodes b)
    (calls : List (δ × α)) : Holds ⟨c, s.nextAddr, calls⟩ (before ++ after) where
  linked := hc
  nodup := h.notMem_middle.2
  given b hb := by
    refine h.given b ?_
    rw [addresses_append, List.mem_append] at hb
    rw [addresses_append, List.mem_append]
    exact hb.imp_right (List.mem_cons_of_mem _)
  only b hb := by
    by_cases hba : b = a
    · exact hba ▸ hgone
    · refine (hsame b hb hba).trans (h.only b ?_)
      rw [addresses_append, List.mem_append, not_or] at hb
      rw [addresses_append, List.mem_append, not_or]
      exact ⟨hb.1, fun hmem => (List.mem_cons.mp hmem).elim hba hb.2⟩

theorem add_spec (h : Holds s l) (data_obj : α) (dealloc : Option δ) :
    ∃ s', linked_list_add s (some data_obj) dealloc true = some (s', .eLINKED_LIST_SUCCESS) ∧
      Holds s' ((s.nextAddr, ⟨data_obj, dealloc⟩) :: l) ∧
      s'.dealloc_calls = s.dealloc_calls := by
  have hnew : s.nextAddr ∉ addresses l := fun hmem => Nat.lt_irrefl _ (h.given _ hmem)
  have hd : (addresses ([(s.nextAddr, (⟨data_obj, dealloc⟩ : Message α δ))] ++ l)).Nodup :=
    List.nodup_cons.mpr ⟨hnew, h.nodup⟩
  obtain ⟨c, hc, hhalves, hsame⟩ := (h.linked.alloc hnew ⟨data_obj, dealloc⟩).setNext hd s.head
  obtain ⟨c', hc', hhalves', hsame'⟩ := hhalves.setPrev hd c.head
  have hlinked : Linked c' ([(s.nextAddr, (⟨data_obj, dealloc⟩ : Message α δ))] ++ l) := by
    rw [hhalves.head, h.linked.head] at hhalves'
    exact linked_append_iff.mpr hhalves'
  rw [← h.linked.head] at hc'
  refine ⟨⟨c', s.nextAddr + 1, s.dealloc_calls⟩, ?_, ⟨hlinked, hd, ?_, ?_⟩, rfl⟩
  · exact Option.bind_eq_some_iff.mpr ⟨c, hc, Option.bind_eq_some_iff.mpr ⟨c', hc', rfl⟩⟩
  · intro a ha
    rcases List.mem_cons.mp ha with rfl | ha
    · exact Nat.lt_succ_self _
    · exact Nat.lt_succ_of_lt (h.given a ha)
  · intro a ha
    obtain ⟨hne, hl⟩ := not_or.mp (fun h => ha (List.mem_cons.mpr h))
    rw [hsame' a hl, hsame a fun hmem => hne (List.mem_singleton.mp hmem)]
    exact (Function.update_of_ne hne _ _).trans (h.only a hl)

/-- The tail is removed. -/
theorem remove_spec (h : Holds s (l ++ [(a, m)])) :
    ∃ s', linked_list_remove s true = some (s', .eLINKED_LIST_SUCCESS, some m.data_ptr) ∧
      Holds s' l ∧ s'.dealloc_calls = s.dealloc_calls := by
  obtain ⟨hcut, hnode⟩ := h.linked.cut
  obtain ⟨hout, hd⟩ := h.notMem_middle
  have htail : s.tail = some a := h.linked.tail.trans (lastOr_append _ _ _)
  have hback : Halves { s.toChain with tail := lastOr none l } l (some a) (lastOr none l) [] :=
    ⟨hcut.head, hcut.left, trivial, rfl⟩
  obtain ⟨c, hc, hhalves, hsame⟩ := hback.setNext hd none
  have hnode' : c.nodes a = some ⟨none, lastOr none l, m⟩ :=
    (hsame a fun hmem => hout (by rwa [List.append_nil])).trans hnode
  have hlinked := (linked_append_iff.mpr hhalves).update hout none
  have hholds := h.release hlinked (Function.update_self ..) (fun b hb hne => by
    rw [List.append_nil] at hb
    exact (Function.update_of_ne hne _ _).trans (hsame b hb)) s.dealloc_calls
  rw [List.append_nil] at hholds
  refine ⟨_, ?_, hholds, rfl⟩
  rw [linked_list_remove, htail]
  exact Option.bind_eq_some_iff.mpr ⟨_, hnode, Option.bind_eq_some_iff.mpr
    ⟨c, hc, Option.bind_eq_some_iff.mpr ⟨_, Chain.free_some hnode', rfl⟩⟩⟩

/-- A flush releases all elements, from the head on. -/
theorem flushLoop_spec {prev : Option Nat} (hseg : Seg s.nodes prev l none)
    (hhead : s.head = firstOr none l) (hd : (addresses l).Nodup)
    (honly : ∀ a ∉ addresses l, s.nodes a = none) {rounds : Nat} (hrounds : l.length < rounds) :
    ∃ s', flushLoop rounds s = some s' ∧ s'.head = none ∧ (∀ a, s'.nodes a = none) ∧
      s'.nextAddr = s.nextAddr ∧
      s'.dealloc_calls = s.dealloc_calls ++ l.filterMap fun p => p.2.deallocCall := by
  induction l generalizing s prev rounds with
  | nil =>
    obtain ⟨k, rfl⟩ := Nat.exists_eq_add_of_lt hrounds
    refine ⟨s, by rw [flushLoop, hhead]; rfl, hhead, fun a => honly a List.not_mem_nil, rfl, ?_⟩
    rw [List.filterMap_nil, List.append_nil]
  | cons p l ih =>
    obtain ⟨a, m⟩ := p
    obtain ⟨k, rfl⟩ := Nat.exists_eq_add_of_lt hrounds
    obtain ⟨hnode, hl⟩ := hseg
    obtain ⟨hout, hd⟩ := List.nodup_cons.mp hd
    let freed : ListState α δ :=
      ⟨⟨firstOr none l, s.tail, Function.update s.nodes a none⟩, s.nextAddr,
        (s.dealloc m).dealloc_calls⟩
    have hfreed : ∀ b ∉ addresses l, freed.nodes b = none := by
      intro b hb
      by_cases hba : b = a
      · exact hba ▸ Function.update_self ..
      · exact (Function.update_of_ne hba _ _).trans
          (honly b fun hmem => (List.mem_cons.mp hmem).elim hba hb)
    obtain ⟨s', hs', hhead', hnodes', hnext', hcalls'⟩ := ih (s := freed) (hl.update hout none)
      rfl hd hfreed (Nat.lt_of_succ_lt_succ hrounds)
    refine ⟨s', ?_, hhead', hnodes', hnext', ?_⟩
    · rw [flushLoop, hhead]
      exact Option.bind_eq_some_iff.mpr ⟨_, hnode, Option.bind_eq_some_iff.mpr
        ⟨_, Chain.free_some hnode, hs'⟩⟩
    · rw [hcalls', List.filterMap_cons]
      show s.dealloc_calls ++ m.deallocCall.toList ++ _ = _
      cases m.deallocCall <;> simp

theorem flush_spec (h : Holds s l) :
    ∃ s', linked_list_flush s = some (s', .eLINKED_LIST_SUCCESS) ∧ Holds s' [] ∧
      s'.dealloc_calls = s.dealloc_calls ++ l.filterMap fun p => p.2.deallocCall := by
  obtain ⟨s', hs', hhead, hnodes, -, hcalls⟩ := flushLoop_spec h.linked.seg h.linked.head h.nodup
    h.only (Nat.lt_succ_of_le h.length_le)
  exact ⟨{ s' with tail := none }, Option.bind_eq_some_iff.mpr ⟨s', hs', rfl⟩,
    ⟨⟨hhead, trivial, rfl⟩, List.nodup_nil, fun _ h => (by cases h), fun a _ => hnodes a⟩, hcalls⟩

/-! ## Search -/

theorem takeOut_spec (h : Holds s (before ++ (a, m) :: after)) (data_p : Bool) :
    ∃ s', takeOut s data_p a = some s' ∧ Holds s' (before ++ after) ∧
      s'.dealloc_calls = s.dealloc_calls ++ if data_p then [] else m.deallocCall.toList := by
  obtain ⟨hcut, hnode⟩ := h.linked.cut
  obtain ⟨hout, hd⟩ := h.notMem_middle
  have houts := hout
  rw [addresses_append, List.mem_append, not_or] at houts
  obtain ⟨c, hc, hhalves, hsame⟩ := hcut.setNext hd (firstOr none after)
  have hnode₁ := (hsame a houts.1).trans hnode
  obtain ⟨c', hc', hhalves', hsame'⟩ := hhalves.setPrev hd (lastOr none before)
  have hnode₂ := (hsame' a houts.2).trans hnode₁
  obtain ⟨c₁, c₂, c₃, hc₁, hc₂, hc₃, hlinked, hnodes⟩ :=
    (linked_append_iff.mpr hhalves').clear hout hnode₂
  have hholds := h.release hlinked (by rw [hnodes, Function.update_self]) (fun b hb hne => by
    rw [addresses_append, List.mem_append, not_or] at hb
    rw [hnodes, Function.update_of_ne hne, hsame' b hb.2, hsame b hb.1])
    (s.dealloc_calls ++ if data_p then [] else m.deallocCall.toList)
  refine ⟨_, ?_, hholds, rfl⟩
  refine Option.bind_eq_some_iff.mpr ⟨_, hnode, Option.bind_eq_some_iff.mpr ⟨c, hc,
    Option.bind_eq_some_iff.mpr ⟨_, hnode₁, Option.bind_eq_some_iff.mpr ⟨c', hc',
    Option.bind_eq_some_iff.mpr ⟨c₁, hc₁, Option.bind_eq_some_iff.mpr ⟨c₂, hc₂,
    Option.bind_eq_some_iff.mpr ⟨c₃, ?_, ?_⟩⟩⟩⟩⟩⟩⟩
  · cases data_p <;> exact hc₃
  · cases data_p
    · rfl
    · rw [if_pos rfl, if_pos rfl, List.append_nil]

variable {equal : α → Bool} {rounds : Nat}

theorem searchLoop_none {prev : Option Nat} (hseg : Seg s.nodes prev l none)
    (hno : ∀ p ∈ l, equal p.2.data_ptr = false) (hrounds : l.length < rounds)
    (data_p rm_if_found : Bool) :
    searchLoop s data_p equal rm_if_found rounds (firstOr none l) = some (s, none) := by
  induction l generalizing prev rounds with
  | nil =>
    obtain ⟨k, rfl⟩ := Nat.exists_eq_add_of_lt hrounds
    rfl
  | cons p l ih =>
    obtain ⟨k, rfl⟩ := Nat.exists_eq_add_of_lt hrounds
    refine Option.bind_eq_some_iff.mpr ⟨_, hseg.1, ?_⟩
    rw [hno p (.head _), if_neg Bool.false_ne_true]
    exact ih hseg.2 (fun q hq => hno q (.tail _ hq)) (Nat.lt_of_succ_lt_succ hrounds)

theorem searchLoop_found {prev : Option Nat}
    (hseg : Seg s.nodes prev (before ++ (a, m) :: after) none)
    (hbefore : ∀ p ∈ before, equal p.2.data_ptr = false) (hm : equal m.data_ptr)
    (hrounds : before.length < rounds) (data_p rm_if_found : Bool) :
    searchLoop s data_p equal rm_if_found rounds (firstOr none (before ++ (a, m) :: after)) =
      if rm_if_found then (takeOut s data_p a).map (·, some m.data_ptr)
      else some (s, some m.data_ptr) := by
  induction before generalizing prev rounds with
  | nil =>
    obtain ⟨k, rfl⟩ := Nat.exists_eq_add_of_lt hrounds
    show (s.nodes a).bind _ = _
    rw [hseg.1, Option.bind_some, if_pos hm]
  | cons p before ih =>
    obtain ⟨k, rfl⟩ := Nat.exists_eq_add_of_lt hrounds
    show (s.nodes p.1).bind _ = _
    rw [hseg.1, Option.bind_some, hbefore p (.head _), if_neg Bool.false_ne_true]
    exact ih hseg.2 (fun q hq => hbefore q (.tail _ hq)) (Nat.lt_of_succ_lt_succ hrounds)

theorem search_nil (h : Holds s []) (data_p : Bool) (equal : α → Bool) (rm_if_found : Bool) :
    linked_list_search s data_p (some equal) rm_if_found =
      some (s, .eLINKED_LIST_UNAVAILABLE_RESOURCE, none) :=
  if_pos h.linked.tail

theorem search_none (h : Holds s l) (hl : l ≠ [])
    (hno : ∀ p ∈ l, equal p.2.data_ptr = false) (data_p rm_if_found : Bool) :
    linked_list_search s data_p (some equal) rm_if_found =
      some (s, .eLINKED_LIST_SUCCESS, if data_p then some none else none) := by
  have htail : s.tail ≠ none := fun ht => hl (lastOr_eq_none.mp (h.linked.tail.symm.trans ht))
  rw [linked_list_search, if_neg htail, h.linked.head]
  exact Option.bind_eq_some_iff.mpr ⟨_, searchLoop_none h.linked.seg hno
    (Nat.lt_succ_of_le h.length_le) data_p rm_if_found, rfl⟩

/-- The first match from the head is the one added last. -/
theorem search_found (h : Holds s (before ++ (a, m) :: after))
    (hbefore : ∀ p ∈ before, equal p.2.data_ptr = false) (hm : equal m.data_ptr)
    (data_p rm_if_found : Bool) :
    ∃ s', linked_list_search s data_p (some equal) rm_if_found =
        some (s', .eLINKED_LIST_SUCCESS, if data_p then some (some m.data_ptr) else none) ∧
      if rm_if_found then Holds s' (before ++ after) ∧
        s'.dealloc_calls = s.dealloc_calls ++ if data_p then [] else m.deallocCall.toList
      else s' = s := by
  have htail : s.tail ≠ none := fun ht => List.append_ne_nil_of_right_ne_nil before
    (List.cons_ne_nil _ _) (lastOr_eq_none.mp (h.linked.tail.symm.trans ht))
  have hrounds : before.length < s.nextAddr + 1 := by
    have hle := h.length_le
    rw [List.length_append] at hle
    omega
  have hloop := searchLoop_found h.linked.seg hbefore hm hrounds data_p rm_if_found
  rw [linked_list_search, if_neg htail, h.linked.head, hloop]
  cases rm_if_found
  · exact ⟨s, rfl, rfl⟩
  · obtain ⟨s', hs', hholds, hcalls⟩ := takeOut_spec h data_p
    refine ⟨s', ?_, hholds, hcalls⟩
    rw [if_pos rfl, hs']
    rfl

/-- The match that was added last. -/
def found (messages : List (Message α δ)) (equal : α → Bool) : Option (Message α δ) :=
  messages.find? fun m => equal m.data_ptr

def searchAnswer (messages : List (Message α δ)) (data_p : Bool) (equal : α → Bool) :
    LinkedListErrType × Option (Option α) :=
  if messages.isEmpty then (.eLINKED_LIST_UNAVAILABLE_RESOURCE, none)
  else (.eLINKED_LIST_SUCCESS,
    if data_p then some ((found messages equal).map Message.data_ptr) else none)

theorem searchAnswer_of_ne_nil {messages : List (Message α δ)} (h : messages ≠ []) (data_p : Bool)
    (equal : α → Bool) : searchAnswer messages data_p equal = (.eLINKED_LIST_SUCCESS,
      if data_p then some ((found messages equal).map Message.data_ptr) else none) :=
  if_neg (fun hnil => h (List.isEmpty_iff.mp hnil))

/-- The messages a search leaves in the list. -/
def searchRest (messages : List (Message α δ)) (equal : α → Bool) (rm_if_found : Bool) :
    List (Message α δ) :=
  if rm_if_found then messages.eraseP fun m => equal m.data_ptr else messages

def searchRemoves (messages : List (Message α δ)) (equal : α → Bool) (rm_if_found : Bool) :
    List (Message α δ) :=
  if rm_if_found then (found messages equal).toList else []

theorem searchRest_of_none {messages : List (Message α δ)} (h : found messages equal = none)
    (rm_if_found : Bool) : searchRest messages equal rm_if_found = messages := by
  cases rm_if_found
  · rfl
  · exact List.eraseP_of_forall_not (List.find?_eq_none.mp h)

theorem found_split {messages : List (Message α δ)} (h : found messages equal = some m) :
    ∃ before after, messages = before ++ m :: after ∧ equal m.data_ptr ∧
      (∀ x ∈ before, equal x.data_ptr = false) ∧
      searchRest messages equal true = before ++ after := by
  obtain ⟨hm, before, after, rfl, hbefore⟩ := List.find?_eq_some_iff_append.mp h
  have hno : ∀ x ∈ before, equal x.data_ptr = false := fun x hx => by simpa using hbefore x hx
  refine ⟨before, after, rfl, hm, hno, ?_⟩
  rw [searchRest, if_pos rfl,
    List.eraseP_append_right _ fun x hx => Bool.eq_false_iff.mp (hno x hx),
    List.eraseP_cons_of_pos (p := fun m : Message α δ => equal m.data_ptr) hm]

/-- A message a search does not leave in the list is removed by it. -/
theorem search_splits (messages : List (Message α δ)) (equal : α → Bool) (rm_if_found : Bool) :
    messages.Perm (searchRest messages equal rm_if_found ++
      searchRemoves messages equal rm_if_found) := by
  cases rm_if_found with
  | false => exact (List.append_nil _).symm ▸ List.Perm.refl _
  | true =>
    rw [searchRemoves, if_pos rfl]
    cases hfound : found messages equal with
    | none => exact (searchRest_of_none hfound true).symm ▸ (List.append_nil _).symm ▸ .refl _
    | some m =>
      obtain ⟨before, after, hsplit, -, -, hrest⟩ := found_split hfound
      rw [hrest, hsplit]
      exact List.perm_middle.trans (List.perm_append_singleton m _).symm

theorem searchRest_sublist (messages : List (Message α δ)) (equal : α → Bool)
    (rm_if_found : Bool) : (searchRest messages equal rm_if_found).Sublist messages := by
  cases rm_if_found
  · exact List.Sublist.refl _
  · exact List.eraseP_sublist

/-- What a search copies out is what it removes, if it removes. -/
theorem searchAnswer_removed (messages : List (Message α δ)) (data_p : Bool) (equal : α → Bool)
    (rm_if_found : Bool) :
    (if rm_if_found then (searchAnswer messages data_p equal).2.join else none).toList =
      (if data_p then searchRemoves messages equal rm_if_found else []).map Message.data_ptr := by
  cases rm_if_found with
  | false => cases data_p <;> rfl
  | true =>
    by_cases hnil : messages = []
    · subst hnil
      cases data_p <;> rfl
    · rw [searchAnswer_of_ne_nil hnil, searchRemoves]
      cases data_p
      · rfl
      · cases found messages equal <;> rfl

/-- A search finds the match that was added last, and takes no other one out. -/
theorem search_spec (h : Holds s l) (data_p : Bool) (equal : α → Bool) (rm_if_found : Bool) :
    ∃ s' l', linked_list_search s data_p (some equal) rm_if_found =
        some (s', searchAnswer (l.map Prod.snd) data_p equal) ∧ Holds s' l' ∧
      l'.map Prod.snd = searchRest (l.map Prod.snd) equal rm_if_found ∧
      s'.dealloc_calls = s.dealloc_calls ++
        (if data_p then [] else searchRemoves (l.map Prod.snd) equal rm_if_found).filterMap
          Message.deallocCall := by
  cases hfound : found (l.map Prod.snd) equal with
  | none =>
    have hno : ∀ p ∈ l, equal p.2.data_ptr = false := fun p hp =>
      Bool.eq_false_iff.mpr (List.find?_eq_none.mp hfound p.2 (List.mem_map_of_mem hp))
    refine ⟨s, l, ?_, h, (searchRest_of_none hfound rm_if_found).symm, ?_⟩
    · by_cases hl : l = []
      · subst hl
        exact search_nil h data_p equal rm_if_found
      · rw [search_none h hl hno data_p rm_if_found,
          searchAnswer_of_ne_nil (fun hnil => hl (List.map_eq_nil_iff.mp hnil)), hfound]
        rfl
    · simp [searchRemoves, hfound]
  | some m =>
    obtain ⟨_, _, hl, hm, hno, hrest⟩ := found_split hfound
    obtain ⟨before, tail, rfl, rfl, htail⟩ := List.map_eq_append_iff.mp hl
    obtain ⟨p, after, rfl, rfl, rfl⟩ := List.map_eq_cons_iff.mp htail
    obtain ⟨s', hs', hrm⟩ := search_found h
      (fun p hp => hno p.2 (List.mem_map_of_mem hp)) hm data_p rm_if_found
    rw [hs', searchAnswer_of_ne_nil (by simp), hfound]
    cases rm_if_found with
    | false =>
      obtain rfl : s' = s := hrm
      exact ⟨s', _, rfl, h, rfl, by cases data_p <;> exact (List.append_nil _).symm⟩
    | true =>
      obtain ⟨hholds, hcalls⟩ := hrm
      refine ⟨s', before ++ after, rfl, hholds, by rw [hrest, List.map_append], ?_⟩
      rw [hcalls, searchRemoves, if_pos rfl, hfound]
      cases data_p
      · cases hcall : p.2.deallocCall <;> simp [hcall]
      · rfl

end DeviceHal.Utils.LinkedList
