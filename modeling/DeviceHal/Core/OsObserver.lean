import DeviceHal.Core.SetMap

/-! # SystemStatusOsObserver: the subscription messages

The two mirrored maps of `core/SystemStatusOsObserver.cpp` and the four
messages that edit them. A public call checks its arguments and posts one
message; `handle` is the call together with the processing of its message.
`toFramework` and `toClients` log the calls made on the subscription object
and on the clients, oldest first. -/
namespace DeviceHal.Core.OsObserver
open DeviceHal.Core.SetMap

abbrev DataItemId := Int

/-- A client by its address. -/
abbrev IDataItemObserver := Nat

/-- Calls on the framework's `IDataItemSubscription` object. -/
inductive FrameworkCall where
  | subscribe (l : List DataItemId)
  | requestData (l : List DataItemId)
  | unsubscribe (l : List DataItemId)
deriving DecidableEq

/-- `client->notify(items)`. -/
structure Notify (Item : Type) where
  client : IDataItemObserver
  items : List Item

structure SystemStatusOsObserver (Item : Type) where
  mClientToDataItems : LocUnorderedSetMap IDataItemObserver DataItemId
  mDataItemToClients : LocUnorderedSetMap DataItemId IDataItemObserver
  /-- Whether `mContext.mSubscriptionObj` has been set. -/
  mSubscriptionObj : Bool
  mDataItemCache : Std.TreeMap DataItemId Item
  toFramework : List FrameworkCall
  toClients : List (Notify Item)

/-- What the released memory of an entry of `mDataItemToClients` holds when
`trimOrRemove` reads the entry's key there: any id, at each read another. The
framework's calls so far and the key that the entry had tell the reads apart. -/
abbrev FreedKeys := List FrameworkCall → DataItemId → DataItemId

inductive ObserverMsg where
  | subscribe (l : List DataItemId) (client : Option IDataItemObserver)
  | requestData (l : List DataItemId) (client : Option IDataItemObserver)
  | updateSubscription (l : List DataItemId) (client : Option IDataItemObserver)
  | unsubscribe (l : List DataItemId) (client : Option IDataItemObserver)
  | unsubscribeAll (client : Option IDataItemObserver)

/-- `containerTransfer` into a set. -/
def toSet (l : List DataItemId) : UnorderedSet DataItemId :=
  l.foldl (fun out item => out.insert item) ∅

/-- `containerTransfer` into a list: every element goes to the front. -/
def toList (s : UnorderedSet DataItemId) : List DataItemId :=
  s.toList.foldl (fun out item => item :: out) []

/-- The set `{client}`. -/
def single (client : IDataItemObserver) : UnorderedSet IDataItemObserver :=
  (∅ : UnorderedSet IDataItemObserver).insert client

namespace SystemStatusOsObserver
variable {Item : Type} (freed : FreedKeys)

/-- An observer with empty maps. -/
def start (subscriptionObj : Bool) (cache : Std.TreeMap DataItemId Item) :
    SystemStatusOsObserver Item :=
  ⟨.new, .new, subscriptionObj, cache, [], []⟩

def sendCachedDataItems (o : SystemStatusOsObserver Item) (s : UnorderedSet DataItemId)
    (client : IDataItemObserver) : SystemStatusOsObserver Item :=
  let dataItems := s.toList.foldl (fun items each =>
    match o.mDataItemCache[each]? with
    | some item => item :: items
    | none => items) []
  if dataItems.isEmpty then o else { o with toClients := o.toClients ++ [⟨client, dataItems⟩] }

/-- A call on the subscription object, if there is one and the set is not empty. -/
def sendToFramework (o : SystemStatusOsObserver Item) (call : List DataItemId → FrameworkCall)
    (s : UnorderedSet DataItemId) : SystemStatusOsObserver Item :=
  if o.mSubscriptionObj && !s.isEmpty then
    { o with toFramework := o.toFramework ++ [call (toList s)] }
  else o

/-- `HandleSubscribeReq::proc`. -/
def procSubscribe (o : SystemStatusOsObserver Item) (dataItemSet : UnorderedSet DataItemId)
    (client : IDataItemObserver) (toRequestData : Bool) : SystemStatusOsObserver Item :=
  let (dataItemToClients, dataItemsToSubscribe) :=
    o.mDataItemToClients.addAll dataItemSet (single client)
  let (clientToDataItems, _) := o.mClientToDataItems.add client dataItemSet
  let o := { o with
    mDataItemToClients := dataItemToClients, mClientToDataItems := clientToDataItems }
  let o := o.sendCachedDataItems dataItemSet client
  o.sendToFramework (if toRequestData then .requestData else .subscribe) dataItemsToSubscribe

/-- `HandleUpdateSubscriptionReq::proc`. -/
def procUpdateSubscription (o : SystemStatusOsObserver Item)
    (dataItemSet : UnorderedSet DataItemId) (client : IDataItemObserver) :
    SystemStatusOsObserver Item :=
  let updated := o.mClientToDataItems.update client dataItemSet
  let trimmed := o.mDataItemToClients.trimOrRemove (freed o.toFramework) updated.goneVals
    (single client)
  -- the set handed to `update` has lost the items that were not new
  let (dataItemToClients, dataItemsToSubscribe) :=
    trimmed.map.addAll updated.newVals (single client)
  let o := { o with
    mClientToDataItems := updated.map, mDataItemToClients := dataItemToClients }
  let o := o.sendCachedDataItems updated.newVals client
  let o := o.sendToFramework .subscribe dataItemsToSubscribe
  o.sendToFramework .unsubscribe trimmed.goneKeys

/-- `HandleUnsubscribeReq::proc`. -/
def procUnsubscribe (o : SystemStatusOsObserver Item) (dataItemSet : UnorderedSet DataItemId)
    (client : IDataItemObserver) : SystemStatusOsObserver Item :=
  -- the clients this collects are not used
  let byClient := o.mClientToDataItems.trimOrRemove id (single client) dataItemSet
  let byItem := o.mDataItemToClients.trimOrRemove (freed o.toFramework) byClient.goneVals
    (single client)
  let o := { o with mClientToDataItems := byClient.map, mDataItemToClients := byItem.map }
  o.sendToFramework .unsubscribe byItem.goneKeys

/-- `HandleUnsubscribeAllReq::proc`. -/
def procUnsubscribeAll (o : SystemStatusOsObserver Item) (client : IDataItemObserver) :
    SystemStatusOsObserver Item :=
  let diByClient := o.mClientToDataItems.getValSet client
  if diByClient.isEmpty then o
  else
    let byItem := o.mDataItemToClients.trimOrRemove (freed o.toFramework) diByClient
      (single client)
    let o := { o with
      mClientToDataItems := o.mClientToDataItems.remove client
      mDataItemToClients := byItem.map }
    o.sendToFramework .unsubscribe byItem.goneKeys

/-- A call with an empty list or without a client posts no message. -/
def handle (o : SystemStatusOsObserver Item) : ObserverMsg → SystemStatusOsObserver Item
  | .subscribe l (some client) =>
    if l.isEmpty then o else o.procSubscribe (toSet l) client false
  | .requestData l (some client) =>
    if l.isEmpty then o else o.procSubscribe (toSet l) client true
  | .updateSubscription l (some client) =>
    if l.isEmpty then o else o.procUpdateSubscription freed (toSet l) client
  | .unsubscribe l (some client) =>
    if l.isEmpty then o else o.procUnsubscribe freed (toSet l) client
  | .unsubscribeAll (some client) => o.procUnsubscribeAll freed client
  | .subscribe _ none | .requestData _ none | .updateSubscription _ none
  | .unsubscribe _ none | .unsubscribeAll none => o

end SystemStatusOsObserver

/-! ## What the helpers leave alone -/

theorem mem_toSet {l : List DataItemId} {d : DataItemId} : d ∈ toSet l ↔ d ∈ l := by
  have loop : ∀ (l : List DataItemId) (s : UnorderedSet DataItemId),
      d ∈ l.foldl (fun out item => out.insert item) s ↔ d ∈ s ∨ d ∈ l := by
    intro l
    induction l with
    | nil => simp
    | cons x xs ih =>
      intro s
      rw [List.foldl_cons, ih, mem_insert_iff, List.mem_cons, or_assoc, or_left_comm]
  exact (loop l ∅).trans (or_iff_right Std.TreeSet.not_mem_emptyc)

theorem mem_toList {s : UnorderedSet DataItemId} {d : DataItemId} : d ∈ toList s ↔ d ∈ s := by
  have loop : ∀ l out : List DataItemId,
      d ∈ l.foldl (fun out item => item :: out) out ↔ d ∈ out ∨ d ∈ l := by
    intro l
    induction l with
    | nil => simp
    | cons x xs ih =>
      intro out
      rw [List.foldl_cons, ih, List.mem_cons, List.mem_cons, or_assoc, or_left_comm]
  rw [toList, loop, Std.TreeSet.mem_toList]
  exact or_iff_right List.not_mem_nil

theorem mem_single {client c : IDataItemObserver} : c ∈ single client ↔ c = client := by
  rw [single, mem_insert_iff]
  exact or_iff_left Std.TreeSet.not_mem_emptyc

namespace SystemStatusOsObserver
variable {Item : Type} (o : SystemStatusOsObserver Item)

@[simp] theorem sendCachedDataItems_clientToDataItems (s : UnorderedSet DataItemId)
    (client : IDataItemObserver) :
    (o.sendCachedDataItems s client).mClientToDataItems = o.mClientToDataItems := by
  unfold sendCachedDataItems; dsimp only; split <;> rfl

@[simp] theorem sendCachedDataItems_dataItemToClients (s : UnorderedSet DataItemId)
    (client : IDataItemObserver) :
    (o.sendCachedDataItems s client).mDataItemToClients = o.mDataItemToClients := by
  unfold sendCachedDataItems; dsimp only; split <;> rfl

@[simp] theorem sendCachedDataItems_subscriptionObj (s : UnorderedSet DataItemId)
    (client : IDataItemObserver) :
    (o.sendCachedDataItems s client).mSubscriptionObj = o.mSubscriptionObj := by
  unfold sendCachedDataItems; dsimp only; split <;> rfl

@[simp] theorem sendCachedDataItems_toFramework (s : UnorderedSet DataItemId)
    (client : IDataItemObserver) :
    (o.sendCachedDataItems s client).toFramework = o.toFramework := by
  unfold sendCachedDataItems; dsimp only; split <;> rfl

@[simp] theorem sendToFramework_subscriptionObj (call : List DataItemId → FrameworkCall)
    (s : UnorderedSet DataItemId) :
    (o.sendToFramework call s).mSubscriptionObj = o.mSubscriptionObj := by
  unfold sendToFramework; split <;> rfl

@[simp] theorem sendToFramework_toClients (call : List DataItemId → FrameworkCall)
    (s : UnorderedSet DataItemId) : (o.sendToFramework call s).toClients = o.toClients := by
  unfold sendToFramework; split <;> rfl

@[simp] theorem sendToFramework_cache (call : List DataItemId → FrameworkCall)
    (s : UnorderedSet DataItemId) :
    (o.sendToFramework call s).mDataItemCache = o.mDataItemCache := by
  unfold sendToFramework; split <;> rfl

@[simp] theorem sendToFramework_clientToDataItems (call : List DataItemId → FrameworkCall)
    (s : UnorderedSet DataItemId) :
    (o.sendToFramework call s).mClientToDataItems = o.mClientToDataItems := by
  unfold sendToFramework; split <;> rfl

@[simp] theorem sendToFramework_dataItemToClients (call : List DataItemId → FrameworkCall)
    (s : UnorderedSet DataItemId) :
    (o.sendToFramework call s).mDataItemToClients = o.mDataItemToClients := by
  unfold sendToFramework; split <;> rfl

end SystemStatusOsObserver

end DeviceHal.Core.OsObserver
