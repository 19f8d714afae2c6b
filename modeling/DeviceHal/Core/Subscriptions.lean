import DeviceHal.Lib.Run
import DeviceHal.Core.OsObserver

/-! # The two subscription maps mirror each other

`mDataItemToClients` should be the converse of `mClientToDataItems`. The
messages are specified by the relations they leave, and from these a message
keeps the maps mirrored exactly when it is not an update of a client that has
items already: `update` hands back the kept items as the removed ones. -/
namespace DeviceHal.Core.Subscriptions
open DeviceHal.Lib.Run DeviceHal.Core.SetMap DeviceHal.Core.OsObserver

variable {Item : Type}

/-- The subscription maps are converse relations without empty entries. -/
structure Mirrored (o : SystemStatusOsObserver Item) : Prop where
  converse : ∀ d c, o.mDataItemToClients.rel d c ↔ o.mClientToDataItems.rel c d
  clientsNoEmpty : o.mClientToDataItems.NoEmptySet
  itemsNoEmpty : o.mDataItemToClients.NoEmptySet

/-- Both maps record exactly the items of `l` for the client. -/
def Records (o : SystemStatusOsObserver Item) (l : List DataItemId) (c : IDataItemObserver) : Prop :=
  ∀ d, (o.mClientToDataItems.rel c d ↔ d ∈ l) ∧ (o.mDataItemToClients.rel d c ↔ d ∈ l)

/-- What every message should establish: mirrored maps, and after an update
the items of its list. -/
def Consistent (freed : FreedKeys) (o : SystemStatusOsObserver Item) (m : ObserverMsg) : Prop :=
  Mirrored (o.handle freed m) ∧
    ∀ l c, m = .updateSubscription l (some c) → l ≠ [] → Records (o.handle freed m) l c

/-- The message is not an update of a client that has items recorded. -/
def UpdatesNewClient (o : SystemStatusOsObserver Item) (m : ObserverMsg) : Prop :=
  ∀ l c, m = .updateSubscription l (some c) → l ≠ [] → o.mClientToDataItems.getValSetPtr c = none

theorem mirrored_start (subscriptionObj : Bool) (cache : Std.TreeMap DataItemId Item) :
    Mirrored (SystemStatusOsObserver.start subscriptionObj cache) where
  converse d c := iff_of_false (LocUnorderedSetMap.not_rel_of_none (LocUnorderedSetMap.getElem?_new d) c)
    (LocUnorderedSetMap.not_rel_of_none (LocUnorderedSetMap.getElem?_new c) d)
  clientsNoEmpty := LocUnorderedSetMap.noEmptySet_new
  itemsNoEmpty := LocUnorderedSetMap.noEmptySet_new

/-! ## The relations after each message -/

section
variable {o : SystemStatusOsObserver Item} {s : UnorderedSet DataItemId}
  {client c : IDataItemObserver} {d : DataItemId} {freed : FreedKeys}

theorem procSubscribe_mirrored (h : Mirrored o) (toRequestData : Bool) :
    Mirrored (o.procSubscribe s client toRequestData) where
  converse d c := by
    simp only [SystemStatusOsObserver.procSubscribe,
      SystemStatusOsObserver.sendToFramework_dataItemToClients,
      SystemStatusOsObserver.sendToFramework_clientToDataItems,
      SystemStatusOsObserver.sendCachedDataItems_dataItemToClients,
      SystemStatusOsObserver.sendCachedDataItems_clientToDataItems]
    rw [LocUnorderedSetMap.rel_addAll, LocUnorderedSetMap.rel_add, mem_single, h.converse]
    exact or_congr_right and_comm
  clientsNoEmpty := by
    simpa [SystemStatusOsObserver.procSubscribe] using h.clientsNoEmpty.add client s
  itemsNoEmpty := by
    simpa [SystemStatusOsObserver.procSubscribe] using h.itemsNoEmpty.addAll s (single client)

theorem procUnsubscribe_mirrored (h : Mirrored o) :
    Mirrored (o.procUnsubscribe freed s client) where
  converse d c := by
    simp only [SystemStatusOsObserver.procUnsubscribe,
      SystemStatusOsObserver.sendToFramework_dataItemToClients,
      SystemStatusOsObserver.sendToFramework_clientToDataItems]
    rw [LocUnorderedSetMap.rel_trimOrRemove, LocUnorderedSetMap.rel_trimOrRemove,
      LocUnorderedSetMap.mem_trimOrRemove_goneVals, mem_single, h.converse]
    simp only [mem_single, exists_eq_left]
    refine and_congr_right fun hr => not_congr ?_
    constructor
    · intro hh
      obtain ⟨⟨_, hd⟩, rfl⟩ := hh
      exact ⟨rfl, hd⟩
    · intro hh
      obtain ⟨rfl, hd⟩ := hh
      exact ⟨⟨hr, hd⟩, rfl⟩
  clientsNoEmpty := by
    simpa [SystemStatusOsObserver.procUnsubscribe] using h.clientsNoEmpty.trimOrRemove _ _ _
  itemsNoEmpty := by
    simpa [SystemStatusOsObserver.procUnsubscribe] using h.itemsNoEmpty.trimOrRemove _ _ _

theorem procUnsubscribeAll_mirrored (h : Mirrored o) :
    Mirrored (o.procUnsubscribeAll freed client) := by
  unfold SystemStatusOsObserver.procUnsubscribeAll
  dsimp only
  split
  · exact h
  · refine ⟨fun d c => ?_, ?_, ?_⟩
    · simp only [SystemStatusOsObserver.sendToFramework_dataItemToClients,
        SystemStatusOsObserver.sendToFramework_clientToDataItems]
      rw [LocUnorderedSetMap.rel_trimOrRemove, LocUnorderedSetMap.rel_remove, mem_single, h.converse]
      refine and_congr_right fun hr => ?_
      constructor
      · rintro hn rfl; exact hn ⟨hr, rfl⟩
      · rintro hn ⟨_, he⟩; exact hn he
    · simpa using h.clientsNoEmpty.remove client
    · simpa using h.itemsNoEmpty.trimOrRemove _ _ _

/-- An update overwrites the client's entry. -/
theorem procUpdate_items :
    (o.procUpdateSubscription freed s client).mClientToDataItems.rel c d ↔
      c = client ∧ d ∈ s ∨ c ≠ client ∧ o.mClientToDataItems.rel c d := by
  simp only [SystemStatusOsObserver.procUpdateSubscription,
    SystemStatusOsObserver.sendToFramework_clientToDataItems,
    SystemStatusOsObserver.sendCachedDataItems_clientToDataItems]
  exact LocUnorderedSetMap.rel_update

/-- The items the client had and keeps lose the client; the items it gives up
keep it. -/
theorem procUpdate_clients :
    (o.procUpdateSubscription freed s client).mDataItemToClients.rel d c ↔
      o.mDataItemToClients.rel d c ∧
          ¬ ((o.mClientToDataItems.rel client d ∧ d ∈ s) ∧ c = client) ∨
        (d ∈ s ∧ ¬ o.mClientToDataItems.rel client d) ∧ c = client := by
  simp only [SystemStatusOsObserver.procUpdateSubscription,
    SystemStatusOsObserver.sendToFramework_dataItemToClients,
    SystemStatusOsObserver.sendCachedDataItems_dataItemToClients]
  rw [LocUnorderedSetMap.rel_addAll, LocUnorderedSetMap.rel_trimOrRemove, mem_single,
    LocUnorderedSetMap.mem_update_goneVals, LocUnorderedSetMap.mem_update_newVals]

theorem procUpdate_mirrored (h : Mirrored o) (hnew : ∀ d, ¬ o.mClientToDataItems.rel client d) :
    Mirrored (o.procUpdateSubscription freed s client) where
  converse d c := by
    rw [procUpdate_items, procUpdate_clients, h.converse]
    by_cases he : c = client
    · subst he; simp [hnew d]
    · simp [he]
  clientsNoEmpty := by
    simpa [SystemStatusOsObserver.procUpdateSubscription] using h.clientsNoEmpty.update client s
  itemsNoEmpty := by
    simpa [SystemStatusOsObserver.procUpdateSubscription] using
      (h.itemsNoEmpty.trimOrRemove _ _ _).addAll _ _

/-- An update of a client with an item breaks the mirror at that item: a kept
item loses the client in one map only, a dropped one keeps it in one only. -/
theorem procUpdate_not_mirrored (h : Mirrored o) (hd : o.mClientToDataItems.rel client d) :
    ¬ Mirrored (o.procUpdateSubscription freed s client) := by
  intro h'
  have hc := h'.converse d client
  rw [procUpdate_items, procUpdate_clients, h.converse] at hc
  simp [hd] at hc

end

/-- Under the mirror, one message is right exactly when it does not update a
client that has items. -/
theorem consistent_iff (freed : FreedKeys) (o : SystemStatusOsObserver Item) (m : ObserverMsg)
    (h : Mirrored o) : Consistent freed o m ↔ UpdatesNewClient o m := by
  constructor
  · rintro ⟨hm, _⟩ l c rfl hl
    have he : l.isEmpty = false := by simpa using hl
    refine (h.clientsNoEmpty.getElem?_eq_none_iff c).mpr fun d hd => ?_
    simp only [SystemStatusOsObserver.handle, he, Bool.false_eq_true, if_false] at hm
    exact procUpdate_not_mirrored h hd hm
  · intro hg
    cases m with
    | subscribe l client | requestData l client =>
      refine ⟨?_, fun _ _ hm => by cases hm⟩
      cases client with
      | none => exact h
      | some client =>
        simp only [SystemStatusOsObserver.handle]
        split
        · exact h
        · exact procSubscribe_mirrored h _
    | unsubscribe l client =>
      refine ⟨?_, fun _ _ hm => by cases hm⟩
      cases client with
      | none => exact h
      | some client =>
        simp only [SystemStatusOsObserver.handle]
        split
        · exact h
        · exact procUnsubscribe_mirrored h
    | unsubscribeAll client =>
      refine ⟨?_, fun _ _ hm => by cases hm⟩
      cases client with
      | none => exact h
      | some client => exact procUnsubscribeAll_mirrored h
    | updateSubscription l client =>
      cases client with
      | none => exact ⟨h, fun _ _ hm => by cases hm⟩
      | some client =>
        by_cases hl : l = []
        · subst hl
          exact ⟨h, fun _ _ hm hne => by cases hm; exact absurd rfl hne⟩
        · have he : l.isEmpty = false := by simpa using hl
          have hnew := (h.clientsNoEmpty.getElem?_eq_none_iff client).mp (hg l client rfl hl)
          unfold Consistent
          simp only [SystemStatusOsObserver.handle, he, Bool.false_eq_true, if_false]
          have hmir : Mirrored (o.procUpdateSubscription freed (toSet l) client) :=
            procUpdate_mirrored h hnew
          refine ⟨hmir, fun l' c' hm _ d => ?_⟩
          cases hm
          rw [hmir.converse, procUpdate_items, mem_toSet]
          simp

/-- **The maps stay consistent exactly in the runs whose updates come from
clients without items.** From empty maps, every message of a run leaves
mirrored maps without empty entries, and every update records its own items,
if and only if every update with items in its list is the first subscription
of its client. -/
theorem subscriptions_consistent_iff (freed : FreedKeys) (subscriptionObj : Bool)
    (cache : Std.TreeMap DataItemId Item) (ms : List ObserverMsg) :
    Steps (SystemStatusOsObserver.handle freed) (Consistent freed)
        (.start subscriptionObj cache) ms ↔
      Steps (SystemStatusOsObserver.handle freed) UpdatesNewClient
        (.start subscriptionObj cache) ms :=
  steps_iff_guard (I := Mirrored) (A := fun _ _ => True)
    (fun o m h _ => consistent_iff freed o m h) (fun _ _ _ _ hq => hq.1)
    (mirrored_start subscriptionObj cache) (steps_of_forall (fun _ _ => trivial) _ _)

/-- A client that moves from one item to another stays recorded under the old
one. -/
theorem update_keeps_dropped_item :
    ¬ ∀ ms, Steps (SystemStatusOsObserver.handle fun _ d => d) (Consistent fun _ d => d)
      (.start false (∅ : Std.TreeMap DataItemId Nat)) ms := by
  intro h
  have hm := (h [.subscribe [20] (some 7), .updateSubscription [21] (some 7)]).2.1.1
  have hc := hm.converse 20 7
  revert hc
  decide

end DeviceHal.Core.Subscriptions
