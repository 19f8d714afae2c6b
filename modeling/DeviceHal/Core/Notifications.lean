import DeviceHal.Core.ClientNeeds
import DeviceHal.Core.NetworkInfo

/-! # Delivery of data item notifications

`notify` of `core/SystemStatusOsObserver.cpp`, with `eventDataItemNotify` of
`core/SystemStatus.cpp`, which may edit the item before it is copied into the
cache. A notification updates the cache and goes, for each changed item, to the
clients of its entry in one map, each of which gets what its entry in the other
map shares with the changed items; the mirror between the maps makes that the
client's own subscriptions. -/
namespace DeviceHal.Core.Notifications
open DeviceHal.Lib.Run DeviceHal.Core.SetMap DeviceHal.Core.OsObserver
open DeviceHal.Core.Subscriptions DeviceHal.Core.ClientNeeds DeviceHal.Core.NetworkInfo

/-- What the observer uses of the data items, and `SystemStatus` of the items
that it makes of them. -/
structure DataItems (Item ITEM : Type) where
  getId : Item → DataItemId
  /-- `DataItemsFactoryProxy::createNewDataItem`, `none` for a null pointer. -/
  createNewDataItem : DataItemId → Option Item
  /-- `copy` of the second item into the first, with `dataItemCopied`. -/
  copy : Item → Item → Item × Bool
  /-- The status item constructed from a data item. -/
  ofItem : Item → ITEM
  /-- The data item behind `mSrcObjPtr`, as the status item leaves it. -/
  srcObj : ITEM → Item → Item

/-- The flag of `copy` tells whether the contents changed. -/
def DataItems.TellsCopied {Item ITEM : Type} (p : DataItems Item ITEM) : Prop :=
  ∀ dst src, (p.copy dst src).2 = true ↔ (p.copy dst src).1 ≠ dst

/-- The reports of `mCache`, by the id of the data item they record. -/
abbrev SystemStatus (ITEM : Type) := DataItemId → List ITEM

/-- The observer with the system status it reports to. -/
structure NotifyingObserver (Item ITEM : Type) where
  o : SystemStatusOsObserver Item
  mSystemStatus : SystemStatus ITEM

def RILVERSION_DATA_ITEM_ID : DataItemId := 6
def MAX_DATA_ITEM_ID : DataItemId := 23

/-- `eventDataItemNotify` has a case for each id of the enumeration but one. -/
def isRecorded (id : DataItemId) : Bool :=
  0 ≤ id && id < MAX_DATA_ITEM_ID && id != RILVERSION_DATA_ITEM_ID

section
variable {Item ITEM : Type} [StatusItem ITEM] (p : DataItems Item ITEM)

/-! ## The code -/

/-- The return value, the reports and the item as it is left. -/
def eventDataItemNotify (mCache : SystemStatus ITEM) (dataitem : Item) :
    Bool × SystemStatus ITEM × Item :=
  let id := p.getId dataitem
  if isRecorded id then
    let (ret, report, s) := setIteminReport (mCache id) (p.ofItem dataitem)
    (ret, Function.update mCache id report, p.srcObj s dataitem)
  else (false, mCache, dataitem)

/-- The observer, the item as it is left and whether its entry was updated. -/
def updateCache (s : NotifyingObserver Item ITEM) :
    Option Item → NotifyingObserver Item ITEM × Option Item × Bool
  | none => (s, none, false)
  | some d =>
    let (handled, status, d) := eventDataItemNotify p s.mSystemStatus d
    let s := { s with mSystemStatus := status }
    if !handled then (s, some d, false)
    else match s.o.mDataItemCache[p.getId d]? with
      | none =>
        match p.createNewDataItem (p.getId d) with
        | none => (s, some d, false)
        | some dataitem =>
          let cache := s.o.mDataItemCache.insert (p.getId d) (p.copy dataitem d).1
          ({ s with o := { s.o with mDataItemCache := cache } }, some d, true)
      | some cached =>
        let (copied, dataItemUpdated) := p.copy cached d
        let cache := s.o.mDataItemCache.insert (p.getId d) copied
        ({ s with o := { s.o with mDataItemCache := cache } }, some d, dataItemUpdated)

/-- The items copied for the message. The vector is made with one null pointer
for each item of the list, and the copies are appended to these. -/
def dataItemVec (dlist : List Item) : List (Option Item) :=
  List.replicate dlist.length none ++ dlist.filterMap fun each =>
    (p.createNewDataItem (p.getId each)).map fun di => some (p.copy di each).1

/-- The first loop of `HandleNotify::proc`: the cache, and the ids to be sent. -/
def updateAll (s : NotifyingObserver Item ITEM) (vec : List (Option Item)) :
    NotifyingObserver Item ITEM × UnorderedSet DataItemId :=
  vec.foldl (fun acc item =>
    let (s, item, updated) := updateCache p acc.1 item
    match item with
    | some d => (s, if updated then acc.2.insert (p.getId d) else acc.2)
    | none => (s, acc.2)) (s, ∅)

/-- The clients recorded under the ids. -/
def clientSet (o : SystemStatusOsObserver Item) (ids : UnorderedSet DataItemId) :
    UnorderedSet IDataItemObserver :=
  ids.toList.foldl (fun clients each => match o.mDataItemToClients.getValSetPtr each with
    | some more => clients ∪ more
    | none => clients) ∅

/-- The client's ids, without those that are not to be sent. -/
def idsForThisClient (o : SystemStatusOsObserver Item) (ids : UnorderedSet DataItemId)
    (client : IDataItemObserver) : UnorderedSet DataItemId :=
  (o.mClientToDataItems.getValSet client).toList.foldl (fun left id =>
    if id ∈ ids then left else left.erase id) (o.mClientToDataItems.getValSet client)

def sendToClients (o : SystemStatusOsObserver Item) (ids : UnorderedSet DataItemId) :
    SystemStatusOsObserver Item :=
  (clientSet o ids).toList.foldl (fun o client =>
    o.sendCachedDataItems (idsForThisClient o ids client) client) o

def notify (s : NotifyingObserver Item ITEM) (dlist : List Item) : NotifyingObserver Item ITEM :=
  if dlist.isEmpty then s
  else
    let (s, dataItemIdsToBeSent) := updateAll p s (dataItemVec p dlist)
    { s with o := sendToClients s.o dataItemIdsToBeSent }

end

/-! ## Runs with the clients' subscriptions -/

inductive DeliveryMsg (Item : Type) where
  | subscribe (l : List DataItemId) (client : Option IDataItemObserver)
  | unsubscribe (l : List DataItemId) (client : Option IDataItemObserver)
  | unsubscribeAll (client : Option IDataItemObserver)
  | notify (dlist : List Item)

structure DeliveryHistory (Item ITEM : Type) where
  s : NotifyingObserver Item ITEM
  /-- By the history of the messages. -/
  subscribed : IDataItemObserver → DataItemId → Prop

section
variable {Item ITEM : Type} (freed : FreedKeys)

def DeliveryHistory.start (subscriptionObj : Bool) (cache : Std.TreeMap DataItemId Item)
    (status : SystemStatus ITEM) : DeliveryHistory Item ITEM :=
  ⟨⟨.start subscriptionObj cache, status⟩, fun _ _ => False⟩

def clientStep (h : DeliveryHistory Item ITEM) (m : ObserverMsg) : DeliveryHistory Item ITEM :=
  ⟨{ h.s with o := h.s.o.handle freed m }, wantsAfter h.subscribed m⟩

variable [StatusItem ITEM] (p : DataItems Item ITEM)

def deliveryStep (h : DeliveryHistory Item ITEM) : DeliveryMsg Item → DeliveryHistory Item ITEM
  | .subscribe l client => clientStep freed h (.subscribe l client)
  | .unsubscribe l client => clientStep freed h (.unsubscribe l client)
  | .unsubscribeAll client => clientStep freed h (.unsubscribeAll client)
  | .notify dlist => ⟨notify p h.s dlist, h.subscribed⟩

/-- Some update of the message changes the cache entry. -/
def EntryChanges : NotifyingObserver Item ITEM → List (Option Item) → DataItemId → Prop
  | _, [], _ => False
  | s, item :: vec, d =>
    (updateCache p s item).1.o.mDataItemCache[d]? ≠ s.o.mDataItemCache[d]? ∨
      EntryChanges (updateCache p s item).1 vec d

/-- The items that the notification changes and the client is subscribed to. -/
def ChangedFor (h : DeliveryHistory Item ITEM) (dlist : List Item) (c : IDataItemObserver)
    (d : DataItemId) : Prop :=
  EntryChanges p h.s (dataItemVec p dlist) d ∧ h.subscribed c d

/-- The calls a notification makes: one for each client with a changed item it
is subscribed to, with the cached values of these items, each once. -/
def NotifiesChanged (h : DeliveryHistory Item ITEM) (dlist : List Item) : Prop :=
  ∃ sent, (notify p h.s dlist).o.toClients = h.s.o.toClients ++ sent ∧ ∀ c,
    ((∀ d, ¬ ChangedFor p h dlist c d) → sent.filter (·.client == c) = []) ∧
    ((∃ d, ChangedFor p h dlist c d) → ∃ (ids : List DataItemId) (items : List Item),
      sent.filter (·.client == c) = [⟨c, items⟩] ∧ ids.Nodup ∧
      (∀ d, d ∈ ids ↔ ChangedFor p h dlist c d) ∧
      ids.map ((notify p h.s dlist).o.mDataItemCache[·]?) = items.map some)

/-- Whatever a message makes the observer send are items that the receiver is
subscribed to afterwards. -/
def SendsSubscribed (before after : DeliveryHistory Item ITEM) : Prop :=
  ∃ sent, after.s.o.toClients = before.s.o.toClients ++ sent ∧ ∀ n ∈ sent, ∃ ids : List DataItemId,
    n.items = ids.filterMap (after.s.o.mDataItemCache[·]?) ∧ ∀ d ∈ ids, after.subscribed n.client d

structure Delivers (h : DeliveryHistory Item ITEM) (m : DeliveryMsg Item) : Prop where
  notified : ∀ dlist, m = .notify dlist → NotifiesChanged p h dlist
  nothingElse : SendsSubscribed h (deliveryStep freed p h m)

end

/-! ## The cache -/

section
variable {Item ITEM : Type} [StatusItem ITEM] {p : DataItems Item ITEM}

/-- The item as `updateCache` leaves it. -/
def noted (p : DataItems Item ITEM) (s : NotifyingObserver Item ITEM) (d : Item) : Item :=
  (eventDataItemNotify p s.mSystemStatus d).2.2

theorem updateCache_item (s : NotifyingObserver Item ITEM) (d : Item) :
    (updateCache p s (some d)).2.1 = some (noted p s d) := by
  simp only [updateCache, noted]
  split
  · rfl
  · split
    · split <;> rfl
    · rfl

/-- An update edits the entry of its item only, never takes one away, and
tells whether the entry changed. -/
theorem updateCache_spec (hp : p.TellsCopied) (s : NotifyingObserver Item ITEM) (d : Item) :
    (∃ cache, (updateCache p s (some d)).1.o = { s.o with mDataItemCache := cache }) ∧
    (∀ x, x ≠ p.getId (noted p s d) →
      (updateCache p s (some d)).1.o.mDataItemCache[x]? = s.o.mDataItemCache[x]?) ∧
    ((updateCache p s (some d)).2.2 = true ↔
      (updateCache p s (some d)).1.o.mDataItemCache[p.getId (noted p s d)]? ≠
        s.o.mDataItemCache[p.getId (noted p s d)]?) ∧
    (s.o.mDataItemCache[p.getId (noted p s d)]? ≠ none →
      (updateCache p s (some d)).1.o.mDataItemCache[p.getId (noted p s d)]? ≠ none) := by
  simp only [updateCache, noted]
  generalize (eventDataItemNotify p s.mSystemStatus d).2.2 = d
  split
  · exact ⟨⟨_, rfl⟩, fun _ _ => rfl, by simp, id⟩
  · split
    · rename_i hnone
      split
      · exact ⟨⟨_, rfl⟩, fun _ _ => rfl, by simp, id⟩
      · refine ⟨⟨_, rfl⟩, fun x hx => ?_, ?_, ?_⟩
        · simp [Std.TreeMap.getElem?_insert, Ne.symm hx]
        · simp [hnone]
        · simp
    · rename_i cached hcached
      refine ⟨⟨_, rfl⟩, fun x hx => ?_, ?_, ?_⟩
      · simp [Std.TreeMap.getElem?_insert, Ne.symm hx]
      · rw [hp cached d]
        simp [hcached]
      · simp

/-- One item adds its id to the set if its cache entry changes. -/
theorem mem_updated_iff (hp : p.TellsCopied) (s : NotifyingObserver Item ITEM) (x : Item)
    (ids : UnorderedSet DataItemId) (d : DataItemId) :
    d ∈ (if (updateCache p s (some x)).2.2 = true then ids.insert (p.getId (noted p s x))
        else ids) ↔
      d ∈ ids ∨ (updateCache p s (some x)).1.o.mDataItemCache[d]? ≠ s.o.mDataItemCache[d]? := by
  obtain ⟨-, hother, hflag, -⟩ := updateCache_spec hp s x
  by_cases hd : d = p.getId (noted p s x)
  · subst hd
    split
    · rename_i hf
      exact iff_of_true (mem_insert_iff.mpr (Or.inl rfl)) (Or.inr (hflag.mp hf))
    · rename_i hf
      rw [← hflag]
      exact ⟨Or.inl, fun h => h.resolve_right hf⟩
  · have hne := hother d hd
    simp only [hne, ne_eq, not_true_eq_false, or_false]
    split
    · rw [mem_insert_iff]
      exact or_iff_right hd
    · exact Iff.rfl

/-- The ids of the set are cached, before an item and behind it. -/
theorem updated_cached (hp : p.TellsCopied) (s : NotifyingObserver Item ITEM) (x : Item)
    {ids : UnorderedSet DataItemId} (hids : ∀ d ∈ ids, s.o.mDataItemCache[d]? ≠ none)
    {d : DataItemId}
    (hd : d ∈ (if (updateCache p s (some x)).2.2 = true then ids.insert (p.getId (noted p s x))
      else ids)) :
    (updateCache p s (some x)).1.o.mDataItemCache[d]? ≠ none := by
  obtain ⟨-, hother, -, hstays⟩ := updateCache_spec hp s x
  have hmem := (mem_updated_iff hp s x ids d).mp hd
  by_cases hx : d = p.getId (noted p s x)
  · subst hx
    rcases hmem with hold | hnew
    · exact hstays (hids _ hold)
    · by_cases hnone : s.o.mDataItemCache[p.getId (noted p s x)]? = none
      · rwa [hnone] at hnew
      · exact hstays hnone
  · rw [hother d hx]
    rcases hmem with hold | hnew
    · exact hids d hold
    · exact absurd (hother d hx) hnew

theorem updateAll_spec (hp : p.TellsCopied) (vec : List (Option Item)) :
    ∀ (s : NotifyingObserver Item ITEM) (ids : UnorderedSet DataItemId),
      (∀ d ∈ ids, s.o.mDataItemCache[d]? ≠ none) →
      let r := vec.foldl (fun acc item =>
        let (s, item, updated) := updateCache p acc.1 item
        match item with
        | some d => (s, if updated then acc.2.insert (p.getId d) else acc.2)
        | none => (s, acc.2)) (s, ids)
      (∃ cache, r.1.o = { s.o with mDataItemCache := cache }) ∧
      (∀ d, d ∈ r.2 ↔ d ∈ ids ∨ EntryChanges p s vec d) ∧
      ∀ d ∈ r.2, r.1.o.mDataItemCache[d]? ≠ none := by
  induction vec with
  | nil =>
    intro s ids hids
    exact ⟨⟨_, rfl⟩, fun d => by simp [EntryChanges], hids⟩
  | cons item vec ih =>
    intro s ids hids
    cases item with
    | none =>
      have hsame : ∀ d, EntryChanges p s (none :: vec) d ↔ EntryChanges p s vec d := by
        intro d
        simp [EntryChanges, updateCache]
      simp only [List.foldl_cons, hsame]
      exact ih s ids hids
    | some x =>
      obtain ⟨⟨cache, hcache⟩, -⟩ := updateCache_spec hp s x
      obtain ⟨⟨cache', hcache'⟩, hin, hpresent⟩ := ih (updateCache p s (some x)).1
        (if (updateCache p s (some x)).2.2 = true then ids.insert (p.getId (noted p s x)) else ids)
        fun d hd => updated_cached hp s x hids hd
      simp only [List.foldl_cons, updateCache_item]
      refine ⟨⟨cache', ?_⟩, fun d => ?_, hpresent⟩
      · rw [hcache', hcache]
      · rw [hin, mem_updated_iff hp]
        simp only [EntryChanges, or_assoc]

/-! ## The calls to the clients -/

/-- The call of `sendCachedDataItems`, if it makes one. -/
def noticeOf (cache : Std.TreeMap DataItemId Item) (s : UnorderedSet DataItemId)
    (client : IDataItemObserver) : List (Notify Item) :=
  let dataItems := s.toList.reverse.filterMap (cache[·]?)
  if dataItems.isEmpty then [] else [⟨client, dataItems⟩]

/-- Every cached item goes to the front. -/
theorem foldl_pushFront (cache : Std.TreeMap DataItemId Item)
    {f : List Item → DataItemId → List Item}
    (hf : ∀ items each, f items each = (cache[each]?).toList ++ items) (l : List DataItemId) :
    ∀ items, l.foldl f items = l.reverse.filterMap (cache[·]?) ++ items := by
  induction l with
  | nil => intro items; rfl
  | cons x xs ih =>
    intro items
    rw [List.foldl_cons, ih, hf, List.reverse_cons, List.filterMap_append, List.append_assoc]
    cases hx : cache[x]? <;> simp [hx]

theorem sendCachedDataItems_eq (o : SystemStatusOsObserver Item) (s : UnorderedSet DataItemId)
    (client : IDataItemObserver) :
    o.sendCachedDataItems s client =
      { o with toClients := o.toClients ++ noticeOf o.mDataItemCache s client } := by
  unfold SystemStatusOsObserver.sendCachedDataItems
  rw [foldl_pushFront o.mDataItemCache (fun items each => by
    cases o.mDataItemCache[each]? <;> rfl), List.append_nil]
  unfold noticeOf
  dsimp only
  split <;> simp

theorem sendLoop_eq (ids : UnorderedSet DataItemId) (l : List IDataItemObserver) :
    ∀ o : SystemStatusOsObserver Item,
      l.foldl (fun o client => o.sendCachedDataItems (idsForThisClient o ids client) client) o =
        { o with
          toClients := o.toClients ++
            l.flatMap fun c => noticeOf o.mDataItemCache (idsForThisClient o ids c) c } := by
  induction l with
  | nil => intro o; simp
  | cons c cs ih =>
    intro o
    rw [List.foldl_cons, ih, sendCachedDataItems_eq, List.flatMap_cons, ← List.append_assoc]
    rfl

theorem mem_clientSet {o : SystemStatusOsObserver Item} {ids : UnorderedSet DataItemId}
    {c : IDataItemObserver} :
    c ∈ clientSet o ids ↔ ∃ d ∈ ids, o.mDataItemToClients.rel d c := by
  have loop : ∀ (l : List DataItemId) (s : UnorderedSet IDataItemObserver),
      c ∈ l.foldl (fun clients each => match o.mDataItemToClients.getValSetPtr each with
        | some more => clients ∪ more
        | none => clients) s ↔ c ∈ s ∨ ∃ d ∈ l, o.mDataItemToClients.rel d c := by
    intro l
    induction l with
    | nil => simp
    | cons x xs ih =>
      intro s
      rw [List.foldl_cons, ih, List.exists_mem_cons_iff, ← or_assoc]
      refine or_congr_left ?_
      unfold LocUnorderedSetMap.getValSetPtr
      cases hx : o.mDataItemToClients.mMap[x]? with
      | none => simp [LocUnorderedSetMap.not_rel_of_none hx]
      | some more => simp [LocUnorderedSetMap.rel_of_some hx, Std.TreeSet.mem_union_iff]
  rw [clientSet, loop]
  simp only [Std.TreeSet.mem_toList]
  exact or_iff_right Std.TreeSet.not_mem_emptyc

theorem mem_idsForThisClient {o : SystemStatusOsObserver Item} {ids : UnorderedSet DataItemId}
    {c : IDataItemObserver} {d : DataItemId} :
    d ∈ idsForThisClient o ids c ↔ o.mClientToDataItems.rel c d ∧ d ∈ ids := by
  have loop : ∀ (l : List DataItemId) (left : UnorderedSet DataItemId),
      d ∈ l.foldl (fun left id => if id ∈ ids then left else left.erase id) left ↔
        d ∈ left ∧ (d ∈ l → d ∈ ids) := by
    intro l
    induction l with
    | nil => simp
    | cons x xs ih =>
      intro left
      rw [List.foldl_cons, ih, List.mem_cons]
      split
      · rename_i hx
        by_cases hd : d = x
        · subst hd; simp [hx]
        · simp [hd]
      · rename_i hx
        rw [mem_erase_iff]
        by_cases hd : d = x
        · subst hd; simp [hx]
        · simp [hd]
  rw [idsForThisClient, loop, Std.TreeSet.mem_toList]
  exact ⟨fun h => ⟨h.1, h.2 h.1⟩, fun h => ⟨h.1, fun _ => h.2⟩⟩

theorem client_of_noticeOf {cache : Std.TreeMap DataItemId Item} {s : UnorderedSet DataItemId}
    {client : IDataItemObserver} {n : Notify Item} (hn : n ∈ noticeOf cache s client) :
    n.client = client ∧ n.items = s.toList.reverse.filterMap (cache[·]?) := by
  simp only [noticeOf] at hn
  split at hn
  · cases hn
  · obtain rfl := List.mem_singleton.mp hn
    exact ⟨rfl, rfl⟩

/-- Among the calls made for different clients, a client finds its own. -/
theorem filter_flatMap_client {f : IDataItemObserver → List (Notify Item)}
    (hf : ∀ c, ∀ n ∈ f c, n.client = c) (c : IDataItemObserver) {l : List IDataItemObserver}
    (hl : l.Nodup) : (l.flatMap f).filter (·.client == c) = if c ∈ l then f c else [] := by
  induction l with
  | nil => rfl
  | cons x xs ih =>
    obtain ⟨hx, hxs⟩ := List.nodup_cons.mp hl
    rw [List.flatMap_cons, List.filter_append, ih hxs]
    by_cases hc : c = x
    · subst hc
      have hall : (f c).filter (·.client == c) = f c :=
        List.filter_eq_self.mpr fun n hn => by simpa using hf c n hn
      rw [hall, if_neg hx, if_pos List.mem_cons_self, List.append_nil]
    · have hnone : (f x).filter (·.client == c) = [] :=
        List.filter_eq_nil_iff.mpr fun n hn => by simpa [hf x n hn] using Ne.symm hc
      rw [hnone, List.nil_append]
      simp [hc]

theorem map_getElem?_of_present {cache : Std.TreeMap DataItemId Item} {l : List DataItemId}
    (hl : ∀ d ∈ l, cache[d]? ≠ none) :
    l.map (cache[·]?) = (l.filterMap (cache[·]?)).map some := by
  induction l with
  | nil => rfl
  | cons x xs ih =>
    obtain ⟨item, hx⟩ := Option.ne_none_iff_exists'.mp (hl x List.mem_cons_self)
    rw [List.map_cons, List.filterMap_cons_some hx, List.map_cons, hx,
      ih fun d hd => hl d (List.mem_cons_of_mem _ hd)]

end

/-! ## One message -/

section
variable {Item ITEM : Type} {freed : FreedKeys}

/-- The maps are the history's subscriptions. -/
structure Agrees (h : DeliveryHistory Item ITEM) : Prop where
  mirrored : Mirrored h.s.o
  history : ∀ c d, h.s.o.mClientToDataItems.rel c d ↔ h.subscribed c d

theorem agrees_start (subscriptionObj : Bool) (cache : Std.TreeMap DataItemId Item)
    (status : SystemStatus ITEM) : Agrees (.start subscriptionObj cache status) where
  mirrored := mirrored_start subscriptionObj cache
  history c d := iff_of_false
    (LocUnorderedSetMap.not_rel_of_none (LocUnorderedSetMap.getElem?_new c) d) not_false

/-- A client's message keeps the maps and their history together. -/
theorem agrees_client {h : DeliveryHistory Item ITEM} (ha : Agrees h) {m : ObserverMsg}
    (hm : ∀ l client, m ≠ .updateSubscription l client ∧ m ≠ .requestData l client) :
    Agrees (clientStep freed h m) := by
  refine ⟨((consistent_iff freed h.s.o m ha.mirrored).mpr fun l c he => absurd he (hm l _).1).1,
    fun c d => ?_⟩
  cases m with
  | requestData l client => exact absurd rfl (hm l client).2
  | updateSubscription l client => exact absurd rfl (hm l client).1
  | subscribe l client =>
    cases client with
    | none => exact ha.history c d
    | some client =>
      by_cases hl : l = []
      · subst hl
        simpa [clientStep, SystemStatusOsObserver.handle, wantsAfter] using ha.history c d
      · simp only [clientStep, SystemStatusOsObserver.handle, List.isEmpty_iff, hl, if_false,
          SystemStatusOsObserver.procSubscribe,
          SystemStatusOsObserver.sendToFramework_clientToDataItems,
          SystemStatusOsObserver.sendCachedDataItems_clientToDataItems, wantsAfter]
        rw [LocUnorderedSetMap.rel_add, mem_toSet, ha.history]
  | unsubscribe l client =>
    cases client with
    | none => exact ha.history c d
    | some client =>
      by_cases hl : l = []
      · subst hl
        simpa [clientStep, SystemStatusOsObserver.handle, wantsAfter] using ha.history c d
      · simp only [clientStep, SystemStatusOsObserver.handle, List.isEmpty_iff, hl, if_false,
          SystemStatusOsObserver.procUnsubscribe,
          SystemStatusOsObserver.sendToFramework_clientToDataItems, wantsAfter]
        rw [LocUnorderedSetMap.rel_trimOrRemove, mem_single, mem_toSet, ha.history]
  | unsubscribeAll client =>
    cases client with
    | none => exact ha.history c d
    | some client =>
      simp only [clientStep, SystemStatusOsObserver.handle,
        SystemStatusOsObserver.procUnsubscribeAll, wantsAfter]
      split
      · -- nothing is recorded for the client, so nothing was subscribed
        rename_i hempty
        rw [ha.history]
        refine ⟨fun hs => ⟨hs, ?_⟩, And.left⟩
        rintro rfl
        exact Std.TreeSet.isEmpty_iff_forall_not_mem.mp hempty d ((ha.history c d).mpr hs)
      · simp only [SystemStatusOsObserver.sendToFramework_clientToDataItems]
        rw [LocUnorderedSetMap.rel_remove, ha.history]

/-- Only a subscription sends something, and what it sends is its own items. -/
theorem client_sends_subscribed (h : DeliveryHistory Item ITEM) {m : ObserverMsg}
    (hm : ∀ l client, m ≠ .updateSubscription l client ∧ m ≠ .requestData l client) :
    SendsSubscribed h (clientStep freed h m) := by
  have hsilent : (h.s.o.handle freed m).toClients = h.s.o.toClients →
      SendsSubscribed h (clientStep freed h m) := by
    intro ho
    exact ⟨[], by simpa [clientStep] using ho, fun n hn => absurd hn List.not_mem_nil⟩
  cases m with
  | requestData l client => exact absurd rfl (hm l client).2
  | updateSubscription l client => exact absurd rfl (hm l client).1
  | subscribe l client =>
    cases client with
    | none => exact hsilent rfl
    | some client =>
      by_cases hl : l = []
      · subst hl
        exact hsilent rfl
      · refine ⟨noticeOf h.s.o.mDataItemCache (toSet l) client, ?_, fun n hn => ?_⟩
        · simp only [clientStep, SystemStatusOsObserver.handle, List.isEmpty_iff, hl, if_false,
            SystemStatusOsObserver.procSubscribe, sendCachedDataItems_eq,
            SystemStatusOsObserver.sendToFramework_toClients]
        · obtain ⟨hc, hitems⟩ := client_of_noticeOf hn
          refine ⟨(toSet l).toList.reverse, ?_, fun d hd => ?_⟩
          · rw [hitems]
            simp only [clientStep, SystemStatusOsObserver.handle, List.isEmpty_iff, hl, if_false,
              SystemStatusOsObserver.procSubscribe, sendCachedDataItems_eq,
              SystemStatusOsObserver.sendToFramework_cache]
          · rw [List.mem_reverse, Std.TreeSet.mem_toList, mem_toSet] at hd
            exact Or.inr ⟨hc, hd⟩
  | unsubscribe l client =>
    cases client with
    | none => exact hsilent rfl
    | some client =>
      refine hsilent ?_
      simp only [SystemStatusOsObserver.handle]
      split
      · rfl
      · simp [SystemStatusOsObserver.procUnsubscribe]
  | unsubscribeAll client =>
    cases client with
    | none => exact hsilent rfl
    | some client =>
      refine hsilent ?_
      simp only [SystemStatusOsObserver.handle, SystemStatusOsObserver.procUnsubscribeAll]
      split
      · rfl
      · simp

variable [StatusItem ITEM] {p : DataItems Item ITEM}

/-- What a notification with items leaves. -/
theorem notify_spec (hp : p.TellsCopied) {s : NotifyingObserver Item ITEM} {dlist : List Item}
    (hne : dlist ≠ []) : ∃ cache ids,
      (notify p s dlist).o = { s.o with
        mDataItemCache := cache
        toClients := s.o.toClients ++ (clientSet s.o ids).toList.flatMap fun c =>
          noticeOf cache (idsForThisClient s.o ids c) c } ∧
      (∀ d, d ∈ ids ↔ EntryChanges p s (dataItemVec p dlist) d) ∧ ∀ d ∈ ids, cache[d]? ≠ none := by
  have hempty : dlist.isEmpty = false := by simpa using hne
  obtain ⟨⟨cache, hcache⟩, hin, hpresent⟩ := updateAll_spec hp (dataItemVec p dlist) s ∅
    (fun d hd => absurd hd Std.TreeSet.not_mem_emptyc)
  refine ⟨cache, (updateAll p s (dataItemVec p dlist)).2, ?_, fun d => ?_, fun d hd => ?_⟩
  · have ho : (updateAll p s (dataItemVec p dlist)).1.o = { s.o with mDataItemCache := cache } :=
      hcache
    simp only [notify, hempty, Bool.false_eq_true, if_false, sendToClients, sendLoop_eq, ho]
    rfl
  · exact (hin d).trans (or_iff_right Std.TreeSet.not_mem_emptyc)
  · have hd' := hpresent d hd
    rw [hcache] at hd'
    exact hd'

theorem not_entryChanges_nil {s : NotifyingObserver Item ITEM} {d : DataItemId} :
    ¬ EntryChanges p s (dataItemVec p []) d := id

theorem notifiesChanged (hp : p.TellsCopied) {h : DeliveryHistory Item ITEM} (ha : Agrees h)
    (dlist : List Item) : NotifiesChanged p h dlist := by
  by_cases hne : dlist = []
  · subst hne
    refine ⟨[], (List.append_nil _).symm, fun c => ⟨fun _ => rfl, fun hd => ?_⟩⟩
    obtain ⟨d, hd⟩ := hd
    exact absurd hd.1 not_entryChanges_nil
  obtain ⟨cache, ids, ho, hin, hpresent⟩ := notify_spec hp (s := h.s) hne
  have hids : ∀ c d, d ∈ idsForThisClient h.s.o ids c ↔ ChangedFor p h dlist c d := by
    intro c d
    rw [mem_idsForThisClient, hin, ha.history]
    exact and_comm
  have hclient : ∀ c, c ∈ (clientSet h.s.o ids).toList ↔ ∃ d, ChangedFor p h dlist c d := by
    intro c
    rw [Std.TreeSet.mem_toList, mem_clientSet]
    refine exists_congr fun d => ?_
    rw [hin, ha.mirrored.converse, ha.history]
    exact Iff.rfl
  refine ⟨_, by rw [ho], fun c => ?_⟩
  rw [filter_flatMap_client (fun c n hn => (client_of_noticeOf hn).1) c nodup_toList]
  constructor
  · intro hnone
    rw [if_neg]
    rw [hclient]
    exact not_exists.mpr hnone
  · intro hsome
    rw [if_pos ((hclient c).mpr hsome)]
    set l := (idsForThisClient h.s.o ids c).toList.reverse with hl
    have hmem : ∀ d, d ∈ l ↔ ChangedFor p h dlist c d := by
      intro d
      rw [hl, List.mem_reverse, Std.TreeSet.mem_toList, hids]
    have hmap : l.map (cache[·]?) = (l.filterMap (cache[·]?)).map some :=
      map_getElem?_of_present fun d hd => hpresent d ((hin d).mpr ((hmem d).mp hd).1)
    refine ⟨l, l.filterMap (cache[·]?), ?_, List.nodup_reverse.mpr nodup_toList, hmem, ?_⟩
    · obtain ⟨d, hd⟩ := hsome
      have hnil : (l.filterMap (cache[·]?)).isEmpty = false := by
        have hlen := congrArg List.length hmap
        rw [List.length_map, List.length_map] at hlen
        have hpos := List.length_pos_of_mem ((hmem d).mpr hd)
        rw [List.isEmpty_eq_false_iff, ← List.length_pos_iff]
        omega
      simp only [noticeOf, ← hl, hnil, Bool.false_eq_true, if_false]
    · rw [ho]
      exact hmap

theorem agrees_notify (hp : p.TellsCopied) {h : DeliveryHistory Item ITEM} (ha : Agrees h)
    (dlist : List Item) : Agrees (deliveryStep freed p h (.notify dlist)) := by
  by_cases hne : dlist = []
  · subst hne
    exact ha
  obtain ⟨cache, ids, ho, -, -⟩ := notify_spec hp (s := h.s) hne
  refine ⟨⟨?_, ?_, ?_⟩, ?_⟩ <;> simp only [deliveryStep, ho]
  · exact ha.mirrored.converse
  · exact ha.mirrored.clientsNoEmpty
  · exact ha.mirrored.itemsNoEmpty
  · exact ha.history

theorem notify_sends_subscribed (hp : p.TellsCopied) {h : DeliveryHistory Item ITEM}
    (ha : Agrees h) (dlist : List Item) :
    SendsSubscribed h (deliveryStep freed p h (.notify dlist)) := by
  by_cases hne : dlist = []
  · subst hne
    exact ⟨[], (List.append_nil _).symm, fun n hn => absurd hn List.not_mem_nil⟩
  obtain ⟨cache, ids, ho, -, -⟩ := notify_spec hp (s := h.s) hne
  refine ⟨_, by simp only [deliveryStep, ho]; rfl, fun n hn => ?_⟩
  obtain ⟨c, -, hc⟩ := List.mem_flatMap.mp hn
  obtain ⟨hclient, hitems⟩ := client_of_noticeOf hc
  refine ⟨(idsForThisClient h.s.o ids c).toList.reverse, ?_, fun d hd => ?_⟩
  · simp only [deliveryStep, ho]
    exact hitems
  · rw [List.mem_reverse, Std.TreeSet.mem_toList, mem_idsForThisClient] at hd
    show h.subscribed n.client d
    rw [hclient, ← ha.history]
    exact hd.1

/-! ## Runs -/

theorem delivers_step (hp : p.TellsCopied) {h : DeliveryHistory Item ITEM} (ha : Agrees h)
    (m : DeliveryMsg Item) : Delivers freed p h m ∧ Agrees (deliveryStep freed p h m) := by
  cases m with
  | notify dlist =>
    refine ⟨⟨fun dlist' he => ?_, notify_sends_subscribed hp ha dlist⟩, agrees_notify hp ha dlist⟩
    obtain rfl : dlist = dlist' := by cases he; rfl
    exact notifiesChanged hp ha dlist
  | subscribe l client =>
    have hm : ∀ l' client', ObserverMsg.subscribe l client ≠ .updateSubscription l' client' ∧
        ObserverMsg.subscribe l client ≠ .requestData l' client' := by simp
    exact ⟨⟨fun _ he => (by cases he), client_sends_subscribed h hm⟩, agrees_client ha hm⟩
  | unsubscribe l client =>
    have hm : ∀ l' client', ObserverMsg.unsubscribe l client ≠ .updateSubscription l' client' ∧
        ObserverMsg.unsubscribe l client ≠ .requestData l' client' := by simp
    exact ⟨⟨fun _ he => (by cases he), client_sends_subscribed h hm⟩, agrees_client ha hm⟩
  | unsubscribeAll client =>
    have hm : ∀ l' client', ObserverMsg.unsubscribeAll client ≠ .updateSubscription l' client' ∧
        ObserverMsg.unsubscribeAll client ≠ .requestData l' client' := by simp
    exact ⟨⟨fun _ he => (by cases he), client_sends_subscribed h hm⟩, agrees_client ha hm⟩

end

/-- A network info item, or an item with an id and a value. -/
abbrev SomeItem := NetworkInfoDataItemBase ⊕ (DataItemId × Int)
abbrev SomeStatusItem := SystemStatusNetworkInfo ⊕ (DataItemId × Int)

instance : StatusItem SomeStatusItem where
  collate
    | .inl s, .inl curInfo => .inl (s.collate curInfo)
    | s, _ => s
  equals
    | .inl s, .inl peer => s.equals peer
    | .inr s, .inr peer => s == peer
    | _, _ => false
  setReported back _ := back

def NETWORKINFO_DATA_ITEM_ID : DataItemId := 5

def someItems : DataItems SomeItem SomeStatusItem where
  getId := Sum.elim (fun _ => NETWORKINFO_DATA_ITEM_ID) Prod.fst
  createNewDataItem id :=
    if id = NETWORKINFO_DATA_ITEM_ID then some (.inl (.new TYPE_UNKNOWN 0 "" "" false false false))
    else some (.inr (id, 0))
  copy dst src := (src, decide (dst ≠ src))
  ofItem := Sum.map (SystemStatusNetworkInfo.ofItem · 0) id
  srcObj
    | .inl s, .inl item => .inl (s.mSrcObj.getD item)
    | _, item => item

end DeviceHal.Core.Notifications
