import GpsHal.Transition.Basic
import GpsHal.Util.SetMap
import Mathlib.Data.Set.Basic

/-!
# `SystemStatusOsObserver` : the subscription maps

The observer keeps which client subscribed to which data items twice: `mClientToDataItems` and
`mDataItemToClients` (`core/SystemStatusOsObserver.cpp`).  Every request of a client is a message
handled on one thread; the handlers are modelled here, over arbitrary types `C` of clients, `D` of
data item ids and `ν` of data items, together with everything they send.

The abstract view of the two maps is one relation, `Subscriptions C D`, with the operations the
interface `IDataItemSubscription` documents.

## Main results

* `refines_subscriptions` : `mClientToDataItems` follows the documented operations in every run.
* `always_consistent_iff` : the two maps stay inverse to each other, without empty sets, exactly
  in the runs whose `updateSubscription` messages come from clients that hold no subscription.
* `subscription_maps_iff` : in these runs such a message does what it has to do.
-/

namespace GpsHal

/-- A list of data item ids as the handlers get it: the callers drop empty lists. -/
abbrev ItemList (D : Type*) := {l : List D // l ≠ []}

/-- What the observer sends, to the framework or to a client. -/
inductive ObserverSent (C D ν : Type*) where
  | subscribe (l : List D)
  | requestData (l : List D)
  | unsubscribe (l : List D)
  | notify (client : C) (dataItems : List ν)

/-- The messages of the observer's queue. -/
inductive ObserverMsg (C D : Type*) where
  | setSubscriptionObj
  | subscribe (l : ItemList D) (client : C) (toRequestData : Bool)
  | updateSubscription (l : ItemList D) (client : C)
  | unsubscribe (l : ItemList D) (client : C)
  | unsubscribeAll (client : C)

/-- The state of `SystemStatusOsObserver`. -/
structure Observer (C D ν : Type*) where
  mClientToDataItems : SetMap C D
  mDataItemToClients : SetMap D C
  mDataItemCache : AList (fun _ : D => ν)
  /-- The framework's subscription object has been set. -/
  mSubscriptionObj : Bool
  /-- Everything sent so far, oldest first. -/
  sent : List (ObserverSent C D ν)

namespace Observer

variable {C D ν : Type*}

/-! ### Posting the messages -/

/-- `subscribe` and, with `toRequestData`, `requestData` : the message posted, if any. -/
def subscribe [DecidableEq D] (l : List D) (client : Option C) (toRequestData : Bool) :
    Option (ObserverMsg C D) :=
  client.bind fun c => if h : l ≠ [] then some (.subscribe ⟨l, h⟩ c toRequestData) else none

def updateSubscription [DecidableEq D] (l : List D) (client : Option C) :
    Option (ObserverMsg C D) :=
  client.bind fun c => if h : l ≠ [] then some (.updateSubscription ⟨l, h⟩ c) else none

def unsubscribe [DecidableEq D] (l : List D) (client : Option C) : Option (ObserverMsg C D) :=
  client.bind fun c => if h : l ≠ [] then some (.unsubscribe ⟨l, h⟩ c) else none

def unsubscribeAll (client : Option C) : Option (ObserverMsg C D) := client.map .unsubscribeAll

/-! ### Sending -/

/-- `containerTransfer` from a set to a list: every element is put in front. -/
def toList (s : USet D) : List D := s.elems.foldl (fun out item => item :: out) []

@[simp] theorem mem_toList {s : USet D} {d : D} : d ∈ toList s ↔ d ∈ s := by
  simp [toList, USet.mem_def]

/-- Record that `x` has been sent. -/
def send (o : Observer C D ν) (x : ObserverSent C D ν) : Observer C D ν :=
  { o with sent := o.sent ++ [x] }

/-- Tell the framework, if its object is set and the set is not empty. -/
def tell (o : Observer C D ν) (x : List D → ObserverSent C D ν) (s : USet D) : Observer C D ν :=
  if o.mSubscriptionObj && !s.isEmpty then o.send (x (toList s)) else o

@[simp] theorem tell_clients (o : Observer C D ν) (x) (s : USet D) :
    (o.tell x s).mClientToDataItems = o.mClientToDataItems := by
  unfold tell; split <;> rfl

@[simp] theorem tell_items (o : Observer C D ν) (x) (s : USet D) :
    (o.tell x s).mDataItemToClients = o.mDataItemToClients := by
  unfold tell; split <;> rfl

@[simp] theorem tell_obj (o : Observer C D ν) (x) (s : USet D) :
    (o.tell x s).mSubscriptionObj = o.mSubscriptionObj := by
  unfold tell; split <;> rfl

/-- The data items that the framework is told to unsubscribe by what is sent. -/
def unsubscribed (sent : List (ObserverSent C D ν)) : List D :=
  sent.flatMap fun x => match x with
    | .unsubscribe l => l
    | _ => []

theorem unsubscribed_append (l m : List (ObserverSent C D ν)) :
    unsubscribed (l ++ m) = unsubscribed l ++ unsubscribed m := List.flatMap_append

theorem sent_tell_subscribe (o : Observer C D ν) (s : USet D) :
    ∃ out, (o.tell .subscribe s).sent = o.sent ++ out ∧ unsubscribed out = [] := by
  unfold tell
  split
  · exact ⟨[_], rfl, rfl⟩
  · exact ⟨[], by simp, rfl⟩

theorem sent_tell_unsubscribe (o : Observer C D ν) (s : USet D) :
    ∃ out, (o.tell .unsubscribe s).sent = o.sent ++ out ∧
      ∀ d, d ∈ unsubscribed out ↔ o.mSubscriptionObj = true ∧ d ∈ s := by
  unfold tell
  split
  · rename_i h
    exact ⟨[.unsubscribe (toList s)], rfl, fun d => by simp_all [unsubscribed]⟩
  · rename_i h
    refine ⟨[], by simp, fun d => ?_⟩
    simp only [Bool.and_eq_true, Bool.not_eq_true', not_and, Bool.not_eq_false,
      USet.isEmpty_iff] at h
    simp only [unsubscribed, List.flatMap_nil, List.not_mem_nil, false_iff, not_and]
    exact fun hobj => h hobj d

variable [DecidableEq D]

/-- `containerTransfer` from a list to a set. -/
def toSet (l : List D) : USet D := USet.ofList l

@[simp] theorem mem_toSet {l : List D} {d : D} : d ∈ toSet l ↔ d ∈ l := USet.mem_ofList

/-- Give a client the cached data items of a set. -/
def sendCachedDataItems (o : Observer C D ν) (s : USet D) (client : C) : Observer C D ν :=
  let dataItems := s.elems.foldl (fun items each =>
    match o.mDataItemCache.lookup each with
    | some item => item :: items
    | none => items) []
  if dataItems.isEmpty then o else o.send (.notify client dataItems)

@[simp] theorem sendCachedDataItems_clients (o : Observer C D ν) (s : USet D) (c : C) :
    (o.sendCachedDataItems s c).mClientToDataItems = o.mClientToDataItems := by
  unfold sendCachedDataItems; simp only; split <;> rfl

@[simp] theorem sendCachedDataItems_items (o : Observer C D ν) (s : USet D) (c : C) :
    (o.sendCachedDataItems s c).mDataItemToClients = o.mDataItemToClients := by
  unfold sendCachedDataItems; simp only; split <;> rfl

@[simp] theorem sendCachedDataItems_obj (o : Observer C D ν) (s : USet D) (c : C) :
    (o.sendCachedDataItems s c).mSubscriptionObj = o.mSubscriptionObj := by
  unfold sendCachedDataItems; simp only; split <;> rfl

theorem sent_sendCachedDataItems (o : Observer C D ν) (s : USet D) (c : C) :
    ∃ out, (o.sendCachedDataItems s c).sent = o.sent ++ out ∧ unsubscribed out = [] := by
  unfold sendCachedDataItems
  simp only
  split
  · exact ⟨[], by simp, rfl⟩
  · exact ⟨[_], rfl, rfl⟩

/-! ### The handlers -/

variable [DecidableEq C]

/-- The observer before the first message, with a given cache of data items. -/
def init (cache : AList fun _ : D => ν) : Observer C D ν := ⟨.nil, .nil, cache, false, []⟩

/-- `SetSubsObj::proc`. -/
def handleSetSubsObj (o : Observer C D ν) : Observer C D ν :=
  let o := { o with mSubscriptionObj := true }
  if o.mDataItemToClients.empty then o
  else
    let dis := toList o.mDataItemToClients.getKeys
    (o.send (.subscribe dis)).send (.requestData dis)

/-- `HandleSubscribeReq::proc`. -/
def handleSubscribeReq (o : Observer C D ν) (l : ItemList D) (mClient : C) (mToRequestData : Bool) :
    Observer C D ν :=
  let mDataItemSet := toSet l.1
  let (dataItemToClients, dataItemsToSubscribe) :=
    o.mDataItemToClients.addAll mDataItemSet (USet.single mClient) ∅
  let o := { o with
    mDataItemToClients := dataItemToClients
    mClientToDataItems := (o.mClientToDataItems.add mClient mDataItemSet).1 }
  let o := o.sendCachedDataItems mDataItemSet mClient
  if mToRequestData then
    if o.mSubscriptionObj then o.send (.requestData l.1) else o
  else o.tell .subscribe dataItemsToSubscribe

/-- `HandleUpdateSubscriptionReq::proc`. -/
def handleUpdateSubscriptionReq (freed : D → D) (o : Observer C D ν) (l : ItemList D)
    (mClient : C) : Observer C D ν :=
  let clients := USet.single mClient
  -- `update` leaves the values that are new to the client in its argument
  let updated := o.mClientToDataItems.update mClient (toSet l.1)
  let mDataItemSet := updated.newVals
  let trimmed := o.mDataItemToClients.trimOrRemoveAll freed updated.goneVals clients ∅ ∅
  let dataItemsToUnsubscribe := trimmed.goneKeys
  let (dataItemToClients, dataItemsToSubscribe) := trimmed.map.addAll mDataItemSet clients ∅
  let o := { o with
    mClientToDataItems := updated.map
    mDataItemToClients := dataItemToClients }
  let o := o.sendCachedDataItems mDataItemSet mClient
  (o.tell .subscribe dataItemsToSubscribe).tell .unsubscribe dataItemsToUnsubscribe

/-- `HandleUnsubscribeReq::proc`. -/
def handleUnsubscribeReq (freed : D → D) (freedClient : C → C) (o : Observer C D ν)
    (l : ItemList D) (mClient : C) : Observer C D ν :=
  let byClient := o.mClientToDataItems.trimOrRemoveAll freedClient (USet.single mClient)
    (toSet l.1) ∅ ∅
  let dataItemsUnusedByClient := byClient.goneVals
  let byItem := o.mDataItemToClients.trimOrRemoveAll freed dataItemsUnusedByClient
    (USet.single mClient) ∅ ∅
  let o := { o with mClientToDataItems := byClient.map, mDataItemToClients := byItem.map }
  o.tell .unsubscribe byItem.goneKeys

/-- `HandleUnsubscribeAllReq::proc`. -/
def handleUnsubscribeAllReq (freed : D → D) (o : Observer C D ν) (mClient : C) : Observer C D ν :=
  let diByClient := o.mClientToDataItems.getValSet mClient
  if diByClient.isEmpty then o
  else
    let byItem := o.mDataItemToClients.trimOrRemoveAll freed diByClient (USet.single mClient) ∅ ∅
    let o := { o with
      mClientToDataItems := o.mClientToDataItems.remove mClient
      mDataItemToClients := byItem.map }
    o.tell .unsubscribe byItem.goneKeys

/-- Handle one message.  `freed` and `freedClient` are what the memory of a map entry holds after
the entry has been erased. -/
def proc (freed : D → D) (freedClient : C → C) (o : Observer C D ν) :
    ObserverMsg C D → Observer C D ν
  | .setSubscriptionObj => o.handleSetSubsObj
  | .subscribe l client toRequestData => o.handleSubscribeReq l client toRequestData
  | .updateSubscription l client => o.handleUpdateSubscriptionReq freed l client
  | .unsubscribe l client => o.handleUnsubscribeReq freed freedClient l client
  | .unsubscribeAll client => o.handleUnsubscribeAllReq freed client

/-- The observer as a transition system: the messages are handled one after the other, and the
memory of an erased entry may hold anything. -/
def system (C : Type*) [DecidableEq C] (cache : AList fun _ : D => ν) :
    System (Observer C D ν) (ObserverMsg C D) where
  init := init cache
  step o m o' := ∃ freed freedClient, o' = o.proc freed freedClient m

/-- `client` is subscribed to `item` according to `mClientToDataItems`. -/
def Holds (o : Observer C D ν) (client : C) (item : D) : Prop :=
  item ∈ o.mClientToDataItems.getValSet client

/-- The two maps are inverse to each other and hold no key with an empty set. -/
structure Consistent (o : Observer C D ν) : Prop where
  inverse : ∀ c d, o.Holds c d ↔ c ∈ o.mDataItemToClients.getValSet d
  clients : o.mClientToDataItems.NoEmptySet
  items : o.mDataItemToClients.NoEmptySet

/-- An `updateSubscription` message comes from a client that holds no subscription. -/
def FreshUpdate (o : Observer C D ν) : ObserverMsg C D → Prop
  | .updateSubscription _ client => ∀ d, ¬ o.Holds client d
  | _ => True

/-! ### The maps after each message -/

section Specs

variable {o : Observer C D ν} {freed : D → D} {freedClient : C → C}

omit [DecidableEq C] in
theorem handleSetSubsObj_maps :
    o.handleSetSubsObj.mClientToDataItems = o.mClientToDataItems ∧
      o.handleSetSubsObj.mDataItemToClients = o.mDataItemToClients := by
  unfold handleSetSubsObj
  simp only
  split <;> exact ⟨rfl, rfl⟩

theorem handleSubscribeReq_maps (l : ItemList D) (c : C) (r : Bool) :
    (o.handleSubscribeReq l c r).mClientToDataItems =
        (o.mClientToDataItems.add c (toSet l.1)).1 ∧
      (o.handleSubscribeReq l c r).mDataItemToClients =
        (o.mDataItemToClients.addAll (toSet l.1) (USet.single c) ∅).1 := by
  unfold handleSubscribeReq
  simp only
  split
  · split <;> simp [send]
  · simp

theorem Consistent.setSubsObj (h : o.Consistent) : o.handleSetSubsObj.Consistent := by
  obtain ⟨hc, hi⟩ := handleSetSubsObj_maps (o := o)
  exact ⟨fun c d => by simpa [Holds, hc, hi] using h.inverse c d, hc ▸ h.clients, hi ▸ h.items⟩

theorem Consistent.subscribeReq (h : o.Consistent) (l : ItemList D) (c : C) (r : Bool) :
    (o.handleSubscribeReq l c r).Consistent := by
  obtain ⟨hc, hi⟩ := handleSubscribeReq_maps (o := o) l c r
  obtain ⟨hne, hmem, -⟩ := SetMap.addAll_spec h.items (toSet l.1) (USet.single c) ∅
  refine ⟨fun c' d => ?_, hc ▸ h.clients.add c _, hi ▸ hne⟩
  have := h.inverse c' d
  simp only [Holds] at this
  simp only [Holds, hc, hi, SetMap.mem_add, hmem, this, USet.mem_single]
  tauto

variable (freed) in
/-- The two maps after an `updateSubscription` message, whatever they were before it. -/
theorem mem_handleUpdateSubscriptionReq (hi : o.mDataItemToClients.NoEmptySet) (l : ItemList D)
    (c c' : C) (d : D) :
    ((o.handleUpdateSubscriptionReq freed l c).Holds c' d ↔
        if c' = c then d ∈ l.1 else o.Holds c' d) ∧
      (c' ∈ (o.handleUpdateSubscriptionReq freed l c).mDataItemToClients.getValSet d ↔
        (c' ∈ o.mDataItemToClients.getValSet d ∧ ¬ (c' = c ∧ o.Holds c d ∧ d ∈ l.1)) ∨
          (c' = c ∧ d ∈ l.1 ∧ ¬ o.Holds c d)) := by
  obtain ⟨hne, hmem, -, -⟩ := SetMap.trimOrRemoveAll_spec freed hi
    (o.mClientToDataItems.update c (toSet l.1)).goneVals (USet.single c) ∅ ∅
  obtain ⟨-, hadd, -⟩ := SetMap.addAll_spec hne
    (o.mClientToDataItems.update c (toSet l.1)).newVals (USet.single c) ∅
  constructor
  · simp [Holds, handleUpdateSubscriptionReq, SetMap.mem_update]
  · simp only [handleUpdateSubscriptionReq, tell_items, sendCachedDataItems_items, hadd, hmem,
      SetMap.update_goneVals, SetMap.update_newVals, USet.mem_single, mem_toSet, Holds]
    tauto

variable (freed) in
theorem handleUpdateSubscriptionReq_noEmptySet (h : o.mClientToDataItems.NoEmptySet)
    (hi : o.mDataItemToClients.NoEmptySet) (l : ItemList D) (c : C) :
    (o.handleUpdateSubscriptionReq freed l c).mClientToDataItems.NoEmptySet ∧
      (o.handleUpdateSubscriptionReq freed l c).mDataItemToClients.NoEmptySet := by
  obtain ⟨hne, -⟩ := SetMap.trimOrRemoveAll_spec freed hi
    (o.mClientToDataItems.update c (toSet l.1)).goneVals (USet.single c) ∅ ∅
  obtain ⟨hadd, -⟩ := SetMap.addAll_spec hne
    (o.mClientToDataItems.update c (toSet l.1)).newVals (USet.single c) ∅
  simpa [handleUpdateSubscriptionReq] using ⟨h.update c (toSet l.1), hadd⟩

theorem Consistent.updateSubscriptionReq (h : o.Consistent) (l : ItemList D) (c : C)
    (hfresh : ∀ d, ¬ o.Holds c d) : (o.handleUpdateSubscriptionReq freed l c).Consistent := by
  obtain ⟨h1, h2⟩ :=
    handleUpdateSubscriptionReq_noEmptySet freed h.clients h.items l c
  refine ⟨fun c' d => ?_, h1, h2⟩
  obtain ⟨hl, hr⟩ := mem_handleUpdateSubscriptionReq freed h.items l c c' d
  rw [hl, hr, ← h.inverse c' d]
  by_cases hc : c' = c
  · subst hc; simp [hfresh d]
  · simp [hc]

/-- A client that holds a subscription breaks the maps with `updateSubscription` : an item it
keeps is forgotten in `mDataItemToClients`, an item it drops is not. -/
theorem not_consistent_of_updateSubscriptionReq (h : o.Consistent) (l : ItemList D) {c : C} {d : D}
    (hd : o.Holds c d) : ¬ (o.handleUpdateSubscriptionReq freed l c).Consistent := by
  intro h'
  obtain ⟨hl, hr⟩ := mem_handleUpdateSubscriptionReq freed h.items l c c d
  have hiff := h'.inverse c d
  rw [hl, hr, ← h.inverse c d] at hiff
  by_cases hdl : d ∈ l.1
  · simp [hd, hdl] at hiff
  · simp [hd, hdl] at hiff

theorem Consistent.unsubscribeReq (h : o.Consistent) (l : ItemList D) (c : C) :
    (o.handleUnsubscribeReq freed freedClient l c).Consistent := by
  obtain ⟨hne, hmem, hgone, -⟩ := SetMap.trimOrRemoveAll_spec freedClient h.clients
    (USet.single c) (toSet l.1) ∅ ∅
  obtain ⟨hne', hmem', -⟩ := SetMap.trimOrRemoveAll_spec freed h.items
    (o.mClientToDataItems.trimOrRemoveAll freedClient (USet.single c) (toSet l.1) ∅ ∅).goneVals
    (USet.single c) ∅ ∅
  refine ⟨fun c' d => ?_, by simpa [handleUnsubscribeReq] using hne,
    by simpa [handleUnsubscribeReq] using hne'⟩
  have := h.inverse c' d
  simp only [Holds] at this
  simp only [Holds, handleUnsubscribeReq, tell_clients, tell_items, hmem, hmem', hgone, ← this,
    USet.mem_single, USet.not_mem_empty, false_or, exists_eq_left]
  by_cases hc : c' = c
  · subst hc; tauto
  · simp [hc]

theorem Consistent.unsubscribeAllReq (h : o.Consistent) (c : C) :
    (o.handleUnsubscribeAllReq freed c).Consistent := by
  obtain ⟨hne', hmem', -⟩ := SetMap.trimOrRemoveAll_spec freed h.items
    (o.mClientToDataItems.getValSet c) (USet.single c) ∅ ∅
  unfold handleUnsubscribeAllReq
  simp only
  split
  · exact h
  · refine ⟨fun c' d => ?_, by simpa using h.clients.remove c, by simpa using hne'⟩
    have := h.inverse c' d
    simp only [Holds] at this
    simp only [Holds, tell_clients, tell_items, SetMap.mem_remove, hmem', ← this, USet.mem_single]
    by_cases hc : c' = c
    · subst hc; simp
    · simp [hc]

variable (freed) in
/-- What an `updateSubscription` message tells the framework to unsubscribe: the items that the
client keeps and no other client holds, as they are read from the erased entries. -/
theorem unsubscribed_handleUpdateSubscriptionReq (hi : o.mDataItemToClients.NoEmptySet)
    (l : ItemList D) (c : C) :
    ∃ out, (o.handleUpdateSubscriptionReq freed l c).sent = o.sent ++ out ∧
      ∀ d, d ∈ unsubscribed out ↔ o.mSubscriptionObj = true ∧ ∃ key, (o.Holds c key ∧ key ∈ l.1) ∧
        freed key = d ∧ (∃ c', c' ∈ o.mDataItemToClients.getValSet key) ∧
          ∀ c' ∈ o.mDataItemToClients.getValSet key, c' = c := by
  obtain ⟨-, -, -, hkeys⟩ := SetMap.trimOrRemoveAll_spec freed hi
    (o.mClientToDataItems.update c (toSet l.1)).goneVals (USet.single c) ∅ ∅
  simp only [SetMap.update_goneVals, mem_toSet, USet.not_mem_empty, false_or, USet.mem_single]
    at hkeys
  -- the message first answers the client, then subscribes, then unsubscribes
  let updated := o.mClientToDataItems.update c (toSet l.1)
  let trimmed := o.mDataItemToClients.trimOrRemoveAll freed updated.goneVals (USet.single c) ∅ ∅
  let added := trimmed.map.addAll updated.newVals (USet.single c) ∅
  let o₀ : Observer C D ν :=
    { o with mClientToDataItems := updated.map, mDataItemToClients := added.1 }
  let o₁ := o₀.sendCachedDataItems updated.newVals c
  let o₂ := o₁.tell .subscribe added.2
  have hobj : o₂.mSubscriptionObj = o.mSubscriptionObj := by simp [o₂, o₁, o₀]
  obtain ⟨out₁, h₁, hn₁⟩ := sent_sendCachedDataItems o₀ updated.newVals c
  obtain ⟨out₂, h₂, hn₂⟩ := sent_tell_subscribe o₁ added.2
  obtain ⟨out₃, h₃, hn₃⟩ := sent_tell_unsubscribe o₂ trimmed.goneKeys
  refine ⟨out₁ ++ out₂ ++ out₃, ?_, fun d => ?_⟩
  · calc (o₂.tell .unsubscribe trimmed.goneKeys).sent
        = o₂.sent ++ out₃ := h₃
      _ = o₁.sent ++ out₂ ++ out₃ := congrArg (· ++ out₃) h₂
      _ = o₀.sent ++ out₁ ++ out₂ ++ out₃ := congrArg (· ++ out₂ ++ out₃) h₁
      _ = o.sent ++ (out₁ ++ out₂ ++ out₃) := by simp only [List.append_assoc]; rfl
  · rw [unsubscribed_append, unsubscribed_append, hn₁, hn₂, List.nil_append, List.nil_append,
      hn₃, hobj, hkeys]
    rfl

end Specs

/-! ### Every run -/

/-- The subscriptions of the clients as `IDataItemSubscription` documents them. -/
abbrev Subscriptions (C D : Type*) := C → Set D

/-- The documented effect of a message: `subscribe` adds the items of the list, `unsubscribe`
removes them, and `updateSubscription` makes them the client's items. -/
def Subscriptions.apply (S : Subscriptions C D) : ObserverMsg C D → Subscriptions C D
  | .setSubscriptionObj => S
  | .subscribe l c _ => Function.update S c (S c ∪ {d | d ∈ l.1})
  | .updateSubscription l c => Function.update S c {d | d ∈ l.1}
  | .unsubscribe l c => Function.update S c (S c \ {d | d ∈ l.1})
  | .unsubscribeAll c => Function.update S c ∅

/-- The documented behaviour as a transition system. -/
def subscriptions (C D : Type*) [DecidableEq C] :
    System (Subscriptions C D) (ObserverMsg C D) :=
  .ofFun (fun _ => ∅) Subscriptions.apply

section Runs

variable {cache : AList fun _ : D => ν} {es : List (ObserverMsg C D)} {o : Observer C D ν}

/-- The client map holds the documented subscriptions `S`. -/
structure Represents (o : Observer C D ν) (S : Subscriptions C D) : Prop where
  holds : ∀ c d, o.Holds c d ↔ d ∈ S c
  clients : o.mClientToDataItems.NoEmptySet

omit [DecidableEq D] in
theorem mem_update_iff {S : Subscriptions C D} {c c' : C} {t : Set D} {d : D} :
    d ∈ Function.update S c t c' ↔ if c' = c then d ∈ t else d ∈ S c' := by
  by_cases h : c' = c
  · subst h; simp
  · simp [h]

theorem Represents.proc {S : Subscriptions C D} (h : o.Represents S) (freed : D → D)
    (freedClient : C → C) (m : ObserverMsg C D) :
    (o.proc freed freedClient m).Represents (S.apply m) := by
  have hS : ∀ c d, d ∈ o.mClientToDataItems.getValSet c ↔ d ∈ S c := h.holds
  cases m with
  | setSubscriptionObj =>
    have hc := (handleSetSubsObj_maps (o := o)).1
    exact ⟨fun c d => by rw [Holds, Observer.proc, hc]; exact hS c d, hc ▸ h.clients⟩
  | subscribe l c r =>
    have hc := (handleSubscribeReq_maps (o := o) l c r).1
    refine ⟨fun c' d => ?_, hc ▸ h.clients.add c _⟩
    rw [Holds, Observer.proc, hc, SetMap.mem_add, hS, mem_toSet, Subscriptions.apply, mem_update_iff]
    by_cases hcc : c' = c
    · subst hcc; simp
    · simp [hcc]
  | updateSubscription l c =>
    refine ⟨fun c' d => ?_, by
      simpa [Observer.proc, handleUpdateSubscriptionReq] using h.clients.update c (toSet l.1)⟩
    simp only [Holds, Observer.proc, handleUpdateSubscriptionReq, tell_clients,
      sendCachedDataItems_clients, SetMap.mem_update, Subscriptions.apply, mem_update_iff, hS,
      mem_toSet, Set.mem_ofPred_eq]
  | unsubscribe l c =>
    obtain ⟨hne, hmem, -⟩ := SetMap.trimOrRemoveAll_spec freedClient h.clients
      (USet.single c) (toSet l.1) ∅ ∅
    refine ⟨fun c' d => ?_, by simpa [Observer.proc, handleUnsubscribeReq] using hne⟩
    simp only [Holds, Observer.proc, handleUnsubscribeReq, tell_clients, hmem, hS, mem_toSet,
      Subscriptions.apply, mem_update_iff, USet.mem_single]
    by_cases hcc : c' = c
    · subst hcc; simp
    · simp [hcc]
  | unsubscribeAll c =>
    unfold Observer.proc handleUnsubscribeAllReq
    simp only
    split
    · rename_i he
      rw [USet.isEmpty_iff] at he
      refine ⟨fun c' d => ?_, h.clients⟩
      rw [h.holds, Subscriptions.apply, mem_update_iff]
      by_cases hcc : c' = c
      · subst hcc
        simpa [hS] using he d
      · simp [hcc]
    · refine ⟨fun c' d => ?_, by simpa using h.clients.remove c⟩
      simp only [Holds, tell_clients, SetMap.mem_remove, hS, Subscriptions.apply, mem_update_iff]
      by_cases hcc : c' = c
      · simp [hcc]
      · simp [hcc]

/-- **The client map follows the documented operations** in every run, whatever the messages and
whatever is read from erased entries. -/
theorem refines_subscriptions {G} (h : (system C cache).Run G es o) :
    ∃ S, o.Represents S ∧ (subscriptions C D).Run System.Free es S := by
  refine h.refine (R := Represents) ⟨fun c d => ?_, .nil⟩ ?_
  · change d ∈ (∅ : USet D) ↔ d ∈ (∅ : Set D)
    simp
  · rintro o m o' S hR - ⟨freed, freedClient, rfl⟩
    exact ⟨_, hR.proc freed freedClient m, trivial, rfl⟩

theorem Consistent.init : (Observer.init (C := C) cache).Consistent :=
  ⟨fun c d => by change d ∈ (∅ : USet D) ↔ c ∈ (∅ : USet C); simp, .nil, .nil⟩

theorem Consistent.step {o o' : Observer C D ν} {m : ObserverMsg C D} (h : o.Consistent)
    (hm : o.FreshUpdate m) (hst : (system C cache).step o m o') : o'.Consistent := by
  obtain ⟨freed, freedClient, rfl⟩ := hst
  cases m with
  | setSubscriptionObj => exact h.setSubsObj
  | subscribe l c r => exact h.subscribeReq l c r
  | updateSubscription l c => exact h.updateSubscriptionReq l c hm
  | unsubscribe l c => exact h.unsubscribeReq l c
  | unsubscribeAll c => exact h.unsubscribeAllReq c

/-- The maps stay consistent throughout a run exactly when every `updateSubscription` message in
it comes from a client that holds no subscription. -/
theorem always_consistent_iff :
    (system C cache).Always Consistent es o ↔ (system C cache).Run FreshUpdate es o := by
  refine System.always_iff_run (J := Consistent) .init (fun _ h => h)
    (fun o m o' h hm hst => h.step hm hst) ?_
  rintro o m o' h hm ⟨freed, freedClient, rfl⟩
  cases m with
  | updateSubscription l c =>
    obtain ⟨d, hd⟩ : ∃ d, o.Holds c d := by simpa [FreshUpdate] using hm
    exact not_consistent_of_updateSubscriptionReq h l hd
  | setSubscriptionObj | subscribe | unsubscribe | unsubscribeAll => exact absurd trivial hm

/-- What a step under an `updateSubscription` message from `s` to `s'` has to do: the client gets
exactly the items of the list, the other clients keep theirs, and the framework, if it is there,
is told to unsubscribe exactly the items the client had and nobody holds any more. -/
def UpdatesExactly (s s' : Observer C D ν) (l : ItemList D) (c : C) : Prop :=
  (∀ c' d, s'.Holds c' d ↔ if c' = c then d ∈ l.1 else s.Holds c' d) ∧
    ∃ out, s'.sent = s.sent ++ out ∧ ∀ d, d ∈ unsubscribed out ↔
      s.mSubscriptionObj = true ∧ s.Holds c d ∧ ∀ c', ¬ s'.Holds c' d

theorem updatesExactly_of_fresh (h : o.Consistent) (freed : D → D) (l : ItemList D) {c : C}
    (hfresh : ∀ d, ¬ o.Holds c d) :
    UpdatesExactly o (o.handleUpdateSubscriptionReq freed l c) l c := by
  refine ⟨fun c' d => (mem_handleUpdateSubscriptionReq _ h.items l c c' d).1, ?_⟩
  obtain ⟨out, hsent, hout⟩ := unsubscribed_handleUpdateSubscriptionReq freed h.items l c
  refine ⟨out, hsent, fun d => (hout d).trans ?_⟩
  simp [hfresh]

/-- **The subscription maps.**  The runs in which the two maps stay inverse to each other are
exactly those whose `updateSubscription` messages come from clients without a subscription, and
in these runs such a message does what it has to do. -/
theorem subscription_maps_iff :
    ((system C cache).Always Consistent es o ↔ (system C cache).Run FreshUpdate es o) ∧
      ∀ l c o', (system C cache).Run FreshUpdate (es ++ [.updateSubscription l c]) o' →
        ∃ o, (system C cache).Run FreshUpdate es o ∧ UpdatesExactly o o' l c := by
  refine ⟨always_consistent_iff, fun l c o' h => ?_⟩
  obtain ⟨o, hrun, hm, freed, freedClient, rfl⟩ := h.last
  exact ⟨o, hrun, updatesExactly_of_fresh (always_consistent_iff.2 hrun).2 freed l hm⟩

/-- Two messages of one client that break the maps: it subscribes to item 1 and then updates its
subscription to item 2. -/
theorem subscription_maps_broken :
    ∃ o, (system ℕ (∅ : AList fun _ : ℕ => ℕ)).Run System.Free
      [.subscribe ⟨[1], by decide⟩ 7 false, .updateSubscription ⟨[2], by decide⟩ 7] o ∧
        ¬ o.Consistent := by
  have h₁ : (system ℕ (∅ : AList fun _ : ℕ => ℕ)).Run System.Free
      [.subscribe ⟨[1], by decide⟩ 7 false] _ := .snoc .nil trivial ⟨id, id, rfl⟩
  refine ⟨_, h₁.snoc trivial ⟨id, id, rfl⟩, fun h => ?_⟩
  -- client 7 is still listed for item 1, which it no longer holds
  exact absurd ((h.inverse 7 1).2 (by decide)) (by unfold Holds; decide)

end Runs

end Observer

end GpsHal
