import DeviceHal.Core.Subscriptions

/-! # The framework is asked for what the clients need

What the clients want by the history of their messages, and what the framework
has been asked to keep subscribed by the history of the observer's calls. A
client's item reaches the framework when its key is new to
`mDataItemToClients`, which is too late when a one-shot request has put the
key there before; an update that repeats an item takes its client out of the
item's entry; and what is unsubscribed for an entry that is removed is the id
left in its released memory. -/
namespace DeviceHal.Core.ClientNeeds
open DeviceHal.Lib.Run DeviceHal.Core.SetMap DeviceHal.Core.OsObserver

variable {Item : Type} {freed : FreedKeys}

/-! ## The subscription object -/

/-- `SetSubsObj::proc`: everything recorded so far is asked for. -/
def setSubscriptionObj (o : SystemStatusOsObserver Item) : SystemStatusOsObserver Item :=
  let o := { o with mSubscriptionObj := true }
  if o.mDataItemToClients.empty then o
  else
    let dis := toList o.mDataItemToClients.getKeys
    { o with toFramework := o.toFramework ++ [.subscribe dis, .requestData dis] }

inductive FrameworkMsg where
  | client (m : ObserverMsg)
  /-- The object set is a null pointer if the flag is false. -/
  | setSubscriptionObj (subscriptionObj : Bool)

def handle (freed : FreedKeys) (o : SystemStatusOsObserver Item) :
    FrameworkMsg → SystemStatusOsObserver Item
  | .client m => o.handle freed m
  | .setSubscriptionObj subscriptionObj => if subscriptionObj then setSubscriptionObj o else o

/-- Whether the calls leave the framework asked to keep the item subscribed. -/
def askedFor (calls : List FrameworkCall) (d : DataItemId) : Bool :=
  calls.foldl (fun asked call => match call with
    | .subscribe l => asked || decide (d ∈ l)
    | .requestData _ => asked
    | .unsubscribe l => asked && !decide (d ∈ l)) false

/-! ## What the clients want -/

/-- An item is wanted from its subscription on, until it is given up. -/
def wantsAfter (wants : IDataItemObserver → DataItemId → Prop) (m : ObserverMsg)
    (c : IDataItemObserver) (d : DataItemId) : Prop :=
  match m with
  | .subscribe l (some client) => wants c d ∨ c = client ∧ d ∈ l
  | .updateSubscription l (some client) =>
    if c = client ∧ l ≠ [] then d ∈ l else wants c d
  | .unsubscribe l (some client) => wants c d ∧ ¬ (c = client ∧ d ∈ l)
  | .unsubscribeAll (some client) => wants c d ∧ c ≠ client
  | .requestData _ _ | .subscribe _ none | .updateSubscription _ none | .unsubscribe _ none
  | .unsubscribeAll none => wants c d

/-- The observer with the history of its clients' needs. -/
structure NeedHistory (Item : Type) where
  o : SystemStatusOsObserver Item
  wants : IDataItemObserver → DataItemId → Prop

def NeedHistory.start (subscriptionObj : Bool) (cache : Std.TreeMap DataItemId Item) :
    NeedHistory Item :=
  ⟨.start subscriptionObj cache, fun _ _ => False⟩

def needStep (freed : FreedKeys) (h : NeedHistory Item) (m : FrameworkMsg) : NeedHistory Item :=
  ⟨handle freed h.o m, match m with
    | .client m => wantsAfter h.wants m
    | .setSubscriptionObj _ => h.wants⟩

/-- Once there is a subscription object, every wanted item has been asked for. -/
def Covered (h : NeedHistory Item) : Prop :=
  h.o.mSubscriptionObj = true → ∀ c d, h.wants c d → askedFor h.o.toFramework d = true

/-- Every listed item that has an entry has been asked for. -/
def KeysAskedFor (o : SystemStatusOsObserver Item) (l : List DataItemId) : Prop :=
  o.mSubscriptionObj = true → ∀ d ∈ l, o.mDataItemToClients.getValSetPtr d ≠ none →
    askedFor o.toFramework d = true

/-- The item has an entry, and no client but this one in it. -/
def LastClient (o : SystemStatusOsObserver Item) (client : IDataItemObserver) (d : DataItemId) :
    Prop :=
  o.mDataItemToClients.getValSetPtr d ≠ none ∧ ∀ c, o.mDataItemToClients.rel d c → c = client

/-- Where the client's message takes the last client out of an item's entry,
the id left in the released memory is one that nobody wants any more. -/
def FreesUnwanted (freed : FreedKeys) (h : NeedHistory Item) (m : ObserverMsg)
    (client : IDataItemObserver) (given : DataItemId → Prop) : Prop :=
  h.o.mSubscriptionObj = true → ∀ d, given d → h.o.mClientToDataItems.rel client d →
    LastClient h.o client d → ∀ c, ¬ wantsAfter h.wants m c (freed h.o.toFramework d)

/-- A subscription finds its items without an entry or already asked for, an
update does not repeat an item of its client, and a removal frees no id that
is wanted. -/
def Arrives (freed : FreedKeys) (h : NeedHistory Item) : FrameworkMsg → Prop
  | .client (.subscribe l (some _)) => KeysAskedFor h.o l
  | .client (.updateSubscription l (some client)) =>
    KeysAskedFor h.o l ∧ ∀ d ∈ l, ¬ h.o.mClientToDataItems.rel client d
  | .client (.unsubscribe l (some client)) =>
    FreesUnwanted freed h (.unsubscribe l (some client)) client (· ∈ l)
  | .client (.unsubscribeAll (some client)) =>
    FreesUnwanted freed h (.unsubscribeAll (some client)) client fun _ => True
  | _ => True

/-! ## The calls -/

theorem askedFor_append (calls : List FrameworkCall) (call : FrameworkCall) (d : DataItemId) :
    askedFor (calls ++ [call]) d = match call with
      | .subscribe l => askedFor calls d || decide (d ∈ l)
      | .requestData _ => askedFor calls d
      | .unsubscribe l => askedFor calls d && !decide (d ∈ l) := by
  simp only [askedFor, List.foldl_append, List.foldl_cons, List.foldl_nil]

section
variable {o : SystemStatusOsObserver Item} {s : UnorderedSet DataItemId} {d : DataItemId}

theorem askedFor_sendSubscribe :
    askedFor (o.sendToFramework .subscribe s).toFramework d = true ↔
      askedFor o.toFramework d = true ∨ o.mSubscriptionObj = true ∧ d ∈ s := by
  unfold SystemStatusOsObserver.sendToFramework
  split
  · rename_i hs
    rw [Bool.and_eq_true] at hs
    rw [askedFor_append]
    simp [mem_toList, hs.1]
  · rename_i hs
    refine ⟨Or.inl, fun h => h.elim id fun hh => absurd ?_ hs⟩
    have hne := Std.TreeSet.isEmpty_eq_false_iff_exists_mem.mpr ⟨d, hh.2⟩
    simp [hh.1, hne]

theorem askedFor_sendRequestData :
    askedFor (o.sendToFramework .requestData s).toFramework d = askedFor o.toFramework d := by
  unfold SystemStatusOsObserver.sendToFramework
  split
  · rw [askedFor_append]
  · rfl

theorem askedFor_sendUnsubscribe (hd : d ∉ s) (h : askedFor o.toFramework d = true) :
    askedFor (o.sendToFramework .unsubscribe s).toFramework d = true := by
  unfold SystemStatusOsObserver.sendToFramework
  split
  · rw [askedFor_append]
    simp [mem_toList, hd, h]
  · exact h

end

/-! ## One message -/

/-- The wanted items are in both maps, and asked for. -/
structure Needs (h : NeedHistory Item) : Prop where
  byClient : ∀ c d, h.wants c d → h.o.mClientToDataItems.rel c d
  byItem : ∀ c d, h.wants c d → h.o.mDataItemToClients.rel d c
  covered : Covered h

theorem needs_start (subscriptionObj : Bool) (cache : Std.TreeMap DataItemId Item) :
    Needs (.start subscriptionObj cache) where
  byClient _ _ hw := hw.elim
  byItem _ _ hw := hw.elim
  covered _ _ _ hw := hw.elim

theorem single_nonempty (client : IDataItemObserver) : (single client).isEmpty = false :=
  Std.TreeSet.isEmpty_eq_false_iff_exists_mem.mpr ⟨client, mem_single.mpr rfl⟩

theorem needs_subscribe {h : NeedHistory Item} (hn : Needs h) (l : List DataItemId)
    (client : IDataItemObserver) (ha : KeysAskedFor h.o l) :
    Needs ⟨h.o.procSubscribe (toSet l) client false,
      wantsAfter h.wants (.subscribe l (some client))⟩ := by
  refine ⟨fun c d hw => ?_, fun c d hw => ?_, fun hobj c d hw => ?_⟩
  · simp only [SystemStatusOsObserver.procSubscribe,
      SystemStatusOsObserver.sendToFramework_clientToDataItems,
      SystemStatusOsObserver.sendCachedDataItems_clientToDataItems]
    rw [LocUnorderedSetMap.rel_add, mem_toSet]
    exact hw.imp_left (hn.byClient c d)
  · simp only [SystemStatusOsObserver.procSubscribe,
      SystemStatusOsObserver.sendToFramework_dataItemToClients,
      SystemStatusOsObserver.sendCachedDataItems_dataItemToClients]
    rw [LocUnorderedSetMap.rel_addAll, mem_single, mem_toSet]
    exact hw.imp (hn.byItem c d) And.symm
  · have hobj' : h.o.mSubscriptionObj = true := by
      simpa [SystemStatusOsObserver.procSubscribe] using hobj
    simp only [SystemStatusOsObserver.procSubscribe, Bool.false_eq_true, if_false]
    rw [askedFor_sendSubscribe]
    simp only [SystemStatusOsObserver.sendCachedDataItems_toFramework,
      SystemStatusOsObserver.sendCachedDataItems_subscriptionObj]
    rcases hw with hw | ⟨-, hd⟩
    · exact Or.inl (hn.covered hobj' c d hw)
    · cases hkey : h.o.mDataItemToClients.mMap[d]? with
      | none =>
        exact Or.inr ⟨hobj', LocUnorderedSetMap.mem_addAll_new (single_nonempty client)
          (mem_toSet.mpr hd) hkey⟩
      | some vals =>
        refine Or.inl (ha hobj' d hd ?_)
        rw [LocUnorderedSetMap.getValSetPtr, hkey]
        exact Option.some_ne_none _

theorem needs_requestData {h : NeedHistory Item} (hn : Needs h) (l : List DataItemId)
    (client : IDataItemObserver) :
    Needs ⟨h.o.procSubscribe (toSet l) client true, h.wants⟩ := by
  refine ⟨fun c d hw => ?_, fun c d hw => ?_, fun hobj c d hw => ?_⟩
  · simp only [SystemStatusOsObserver.procSubscribe,
      SystemStatusOsObserver.sendToFramework_clientToDataItems,
      SystemStatusOsObserver.sendCachedDataItems_clientToDataItems]
    rw [LocUnorderedSetMap.rel_add]
    exact Or.inl (hn.byClient c d hw)
  · simp only [SystemStatusOsObserver.procSubscribe,
      SystemStatusOsObserver.sendToFramework_dataItemToClients,
      SystemStatusOsObserver.sendCachedDataItems_dataItemToClients]
    rw [LocUnorderedSetMap.rel_addAll]
    exact Or.inl (hn.byItem c d hw)
  · have hobj' : h.o.mSubscriptionObj = true := by
      simpa [SystemStatusOsObserver.procSubscribe] using hobj
    simp only [SystemStatusOsObserver.procSubscribe, if_true]
    rw [askedFor_sendRequestData, SystemStatusOsObserver.sendCachedDataItems_toFramework]
    exact hn.covered hobj' c d hw

/-- An entry that loses all it has in `{client}` has no other client. -/
theorem lastClient_of_single {o : SystemStatusOsObserver Item} {client : IDataItemObserver}
    {d : DataItemId}
    (h : o.mDataItemToClients.mMap[d]? ≠ none ∧
      ∀ c, o.mDataItemToClients.rel d c → c ∈ single client) : LastClient o client d :=
  ⟨h.1, fun c hc => mem_single.mp (h.2 c hc)⟩

/-- What a removal leaves wanted stays in both maps, and is not among the ids
read from the removed entries. -/
theorem needs_unsubscribe {h : NeedHistory Item} (hn : Needs h) (l : List DataItemId)
    (client : IDataItemObserver)
    (ha : FreesUnwanted freed h (.unsubscribe l (some client)) client (· ∈ l)) :
    Needs ⟨h.o.procUnsubscribe freed (toSet l) client,
      wantsAfter h.wants (.unsubscribe l (some client))⟩ := by
  refine ⟨fun c d hw => ?_, fun c d hw => ?_, fun hobj c d hw => ?_⟩
  · simp only [SystemStatusOsObserver.procUnsubscribe,
      SystemStatusOsObserver.sendToFramework_clientToDataItems]
    rw [LocUnorderedSetMap.rel_trimOrRemove, mem_single, mem_toSet]
    exact ⟨hn.byClient c d hw.1, hw.2⟩
  · simp only [SystemStatusOsObserver.procUnsubscribe,
      SystemStatusOsObserver.sendToFramework_dataItemToClients]
    rw [LocUnorderedSetMap.rel_trimOrRemove, LocUnorderedSetMap.mem_trimOrRemove_goneVals,
      mem_single, mem_toSet]
    exact ⟨hn.byItem c d hw.1, fun hh => hw.2 ⟨hh.2, hh.1.2⟩⟩
  · have hobj' : h.o.mSubscriptionObj = true := by
      simpa [SystemStatusOsObserver.procUnsubscribe] using hobj
    simp only [SystemStatusOsObserver.procUnsubscribe]
    refine askedFor_sendUnsubscribe (fun hgone => ?_) (hn.covered hobj' c d hw.1)
    obtain ⟨e, he, rfl, hlast⟩ := LocUnorderedSetMap.mem_trimOrRemove_goneKeys hgone
    simp only [LocUnorderedSetMap.mem_trimOrRemove_goneVals, mem_single, exists_eq_left,
      mem_toSet] at he
    exact ha hobj' e he.2 he.1 (lastClient_of_single hlast) c hw

theorem needs_unsubscribeAll {h : NeedHistory Item} (hn : Needs h) (client : IDataItemObserver)
    (ha : FreesUnwanted freed h (.unsubscribeAll (some client)) client fun _ => True) :
    Needs ⟨h.o.procUnsubscribeAll freed client,
      wantsAfter h.wants (.unsubscribeAll (some client))⟩ := by
  unfold SystemStatusOsObserver.procUnsubscribeAll
  dsimp only
  split
  · exact ⟨fun c d hw => hn.byClient c d hw.1, fun c d hw => hn.byItem c d hw.1,
      fun hobj c d hw => hn.covered hobj c d hw.1⟩
  · refine ⟨fun c d hw => ?_, fun c d hw => ?_, fun hobj c d hw => ?_⟩
    · simp only [SystemStatusOsObserver.sendToFramework_clientToDataItems]
      rw [LocUnorderedSetMap.rel_remove]
      exact ⟨hn.byClient c d hw.1, hw.2⟩
    · simp only [SystemStatusOsObserver.sendToFramework_dataItemToClients]
      rw [LocUnorderedSetMap.rel_trimOrRemove, mem_single]
      exact ⟨hn.byItem c d hw.1, fun hh => hw.2 hh.2⟩
    · simp only [SystemStatusOsObserver.sendToFramework_subscriptionObj] at hobj
      refine askedFor_sendUnsubscribe (fun hgone => ?_) (hn.covered hobj c d hw.1)
      obtain ⟨e, he, rfl, hlast⟩ := LocUnorderedSetMap.mem_trimOrRemove_goneKeys hgone
      exact ha hobj e trivial he (lastClient_of_single hlast) c hw

/-- An update that repeats no item takes nobody out of an entry. -/
theorem needs_update {h : NeedHistory Item} (hn : Needs h) {l : List DataItemId} (hl : l ≠ [])
    {client : IDataItemObserver} (ha : KeysAskedFor h.o l)
    (hnew : ∀ d ∈ l, ¬ h.o.mClientToDataItems.rel client d) :
    Needs ⟨h.o.procUpdateSubscription freed (toSet l) client,
      wantsAfter h.wants (.updateSubscription l (some client))⟩ := by
  set updated := h.o.mClientToDataItems.update client (toSet l) with hupdated
  have hgone : ∀ d, d ∉ updated.goneVals := by
    intro d hd
    rw [hupdated, LocUnorderedSetMap.mem_update_goneVals, mem_toSet] at hd
    exact hnew d hd.2 hd.1
  have hfresh : ∀ d ∈ l, d ∈ updated.newVals := by
    intro d hd
    rw [hupdated, LocUnorderedSetMap.mem_update_newVals, mem_toSet]
    exact ⟨hd, hnew d hd⟩
  have htrim : h.o.mDataItemToClients.trimOrRemove (freed h.o.toFramework) updated.goneVals
      (single client) = ⟨h.o.mDataItemToClients, ∅, ∅⟩ := by
    have hnil : updated.goneVals.toList = [] :=
      List.eq_nil_iff_forall_not_mem.mpr fun d hd => hgone d (Std.TreeSet.mem_toList.mp hd)
    rw [LocUnorderedSetMap.trimOrRemove, hnil]
    rfl
  have hwant : ∀ c d, wantsAfter h.wants (.updateSubscription l (some client)) c d →
      c = client ∧ d ∈ l ∨ c ≠ client ∧ h.wants c d := by
    intro c d hw
    by_cases hc : c = client
    · left
      simpa [wantsAfter, hc, hl] using hw
    · right
      simpa [wantsAfter, hc] using hw
  refine ⟨fun c d hw => ?_, fun c d hw => ?_, fun hobj c d hw => ?_⟩
  · simp only [SystemStatusOsObserver.procUpdateSubscription,
      SystemStatusOsObserver.sendToFramework_clientToDataItems,
      SystemStatusOsObserver.sendCachedDataItems_clientToDataItems]
    rw [LocUnorderedSetMap.rel_update, mem_toSet]
    exact (hwant c d hw).imp_right (And.imp_right (hn.byClient c d))
  · simp only [SystemStatusOsObserver.procUpdateSubscription, ← hupdated, htrim,
      SystemStatusOsObserver.sendToFramework_dataItemToClients,
      SystemStatusOsObserver.sendCachedDataItems_dataItemToClients]
    rw [LocUnorderedSetMap.rel_addAll, mem_single]
    rcases hwant c d hw with hc | hc
    · exact Or.inr ⟨hfresh d hc.2, hc.1⟩
    · exact Or.inl (hn.byItem c d hc.2)
  · have hobj' : h.o.mSubscriptionObj = true := by
      simpa [SystemStatusOsObserver.procUpdateSubscription] using hobj
    simp only [SystemStatusOsObserver.procUpdateSubscription, ← hupdated, htrim]
    refine askedFor_sendUnsubscribe Std.TreeSet.not_mem_emptyc ?_
    rw [askedFor_sendSubscribe]
    simp only [SystemStatusOsObserver.sendCachedDataItems_toFramework,
      SystemStatusOsObserver.sendCachedDataItems_subscriptionObj]
    rcases hwant c d hw with hc | hc
    · cases hkey : h.o.mDataItemToClients.mMap[d]? with
      | none =>
        exact Or.inr ⟨hobj', LocUnorderedSetMap.mem_addAll_new (single_nonempty client)
          (hfresh d hc.2) hkey⟩
      | some vals =>
        refine Or.inl (ha hobj' d hc.2 ?_)
        rw [LocUnorderedSetMap.getValSetPtr, hkey]
        exact Option.some_ne_none _
    · exact Or.inl (hn.covered hobj' c d hc.2)

/-- The object is asked for every item with an entry. -/
theorem needs_setSubscriptionObj {h : NeedHistory Item} (hn : Needs h) :
    Needs ⟨setSubscriptionObj h.o, h.wants⟩ := by
  unfold setSubscriptionObj
  dsimp only
  split
  · rename_i hempty
    refine ⟨hn.byClient, hn.byItem, fun _ c d hw => ?_⟩
    have hkey := LocUnorderedSetMap.mem_getKeys_of_rel (hn.byItem c d hw)
    have hnil : h.o.mDataItemToClients.mMap.toList = [] := by
      rw [← List.isEmpty_iff, Std.TreeMap.isEmpty_toList]
      exact hempty
    rw [LocUnorderedSetMap.getKeys, hnil] at hkey
    exact absurd hkey Std.TreeSet.not_mem_emptyc
  · refine ⟨hn.byClient, hn.byItem, fun _ c d hw => ?_⟩
    have hkey := LocUnorderedSetMap.mem_getKeys_of_rel (hn.byItem c d hw)
    have hcalls : ∀ (calls : List FrameworkCall) (a b : FrameworkCall),
        calls ++ [a, b] = calls ++ [a] ++ [b] := by simp
    rw [hcalls, askedFor_append, askedFor_append]
    simp [mem_toList, hkey]

/-! ## Runs -/

/-- A message that posts nothing changes no needs either. -/
theorem needs_ignored {h : NeedHistory Item} {m : ObserverMsg} (hn : Needs h)
    (ho : h.o.handle freed m = h.o) (hw : wantsAfter h.wants m = h.wants) :
    Needs (needStep freed h (.client m)) := by
  have hstep : needStep freed h (.client m) = h := by
    simp only [needStep, handle, ho, hw]
  rw [hstep]
  exact hn

theorem needs_step {h : NeedHistory Item} {m : FrameworkMsg} (hn : Needs h)
    (ha : Arrives freed h m) : Needs (needStep freed h m) := by
  cases m with
  | setSubscriptionObj subscriptionObj =>
    simp only [needStep, handle]
    split
    · exact needs_setSubscriptionObj hn
    · exact hn
  | client m =>
    cases m with
    | subscribe l client =>
      cases client with
      | none => exact hn
      | some client =>
        by_cases hl : l = []
        · subst hl
          exact needs_ignored hn rfl (by funext c d; simp [wantsAfter])
        · simpa [needStep, handle, SystemStatusOsObserver.handle, hl] using
            needs_subscribe hn l client ha
    | requestData l client =>
      cases client with
      | none => exact hn
      | some client =>
        by_cases hl : l = []
        · subst hl
          exact needs_ignored hn rfl rfl
        · have hreq := needs_requestData hn l client
          have ho : h.o.handle freed (.requestData l (some client)) =
              h.o.procSubscribe (toSet l) client true := by
            simp [SystemStatusOsObserver.handle, hl]
          rw [← ho] at hreq
          exact hreq
    | updateSubscription l client =>
      cases client with
      | none => exact hn
      | some client =>
        by_cases hl : l = []
        · subst hl
          exact needs_ignored hn rfl (by funext c d; simp [wantsAfter])
        · simpa [needStep, handle, SystemStatusOsObserver.handle, hl] using
            needs_update hn hl ha.1 ha.2
    | unsubscribe l client =>
      cases client with
      | none => exact hn
      | some client =>
        by_cases hl : l = []
        · subst hl
          exact needs_ignored hn rfl (by funext c d; simp [wantsAfter])
        · simpa [needStep, handle, SystemStatusOsObserver.handle, hl] using
            needs_unsubscribe hn l client ha
    | unsubscribeAll client =>
      cases client with
      | none => exact hn
      | some client => exact needs_unsubscribeAll hn client ha

/-- **The framework covers the clients' needs** after every message of every
run in which each subscription finds its items without an entry or already
asked for, no update repeats an item of its client, and no removal frees an id
that is wanted. -/
theorem framework_covers_needs (freed : FreedKeys) (subscriptionObj : Bool)
    (cache : Std.TreeMap DataItemId Item) (ms : List FrameworkMsg)
    (ha : Steps (needStep freed) (Arrives freed) (.start subscriptionObj cache) ms) :
    Steps (needStep freed) (fun h m => Covered (needStep freed h m))
      (.start subscriptionObj cache) ms :=
  steps_of_inv (I := Needs) (fun _ _ hn ha => (needs_step hn ha).covered)
    (fun _ _ hn ha => needs_step hn ha) (needs_start subscriptionObj cache) ha

/-- Two clients share an item, and the first one leaves; the second gives up
an item of its own, whose released entry reads 41. -/
theorem framework_covers_needs_run :
    Steps (needStep fun _ _ => 41) (fun h m => Covered (needStep (fun _ _ => 41) h m))
      (.start false (∅ : Std.TreeMap DataItemId Nat))
      [.client (.subscribe [5] (some 1)), .setSubscriptionObj true,
        .client (.updateSubscription [5, 6] (some 2)), .client (.unsubscribe [5] (some 1)),
        .client (.unsubscribe [6] (some 2))] := by
  refine framework_covers_needs _ false _ _ ⟨?_, trivial, ⟨?_, ?_⟩, ?_, ?_, trivial⟩
  · intro hobj; cases hobj
  · intro _ d hd _
    revert d
    decide
  · decide
  · rintro - d - - - c ⟨hw, -⟩
    simp [NeedHistory.start, wantsAfter, needStep] at hw
  · rintro - d - - - c ⟨hw, -⟩
    simp [NeedHistory.start, wantsAfter, needStep] at hw

/-- A request for data keeps a later subscription from the framework. -/
theorem requested_item_not_asked_for :
    ¬ ∀ ms, Steps (needStep fun _ d => d) (fun h m => Covered (needStep (fun _ d => d) h m))
      (.start true (∅ : Std.TreeMap DataItemId Nat)) ms := by
  intro hall
  obtain ⟨-, hcov, -⟩ :=
    hall [.client (.requestData [5] (some 1)), .client (.subscribe [5] (some 2))]
  have hasked := hcov rfl 2 5 (Or.inr ⟨rfl, List.mem_cons_self⟩)
  revert hasked
  decide

end DeviceHal.Core.ClientNeeds
