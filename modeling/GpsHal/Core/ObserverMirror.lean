import GpsHal.Core.Observer
import Mathlib.Order.BooleanAlgebra.Set

/-!
# `SystemStatusOsObserver` : the subscriptions at the framework

The observer passes the subscriptions of its clients on to one framework object, and what it asks
of that object is inferred from whether an insertion or a removal touched the last holder of an
item.  The framework's side is followed here next to the observer: `subscribed` is what the current
object has been told to subscribe and has not since been told to unsubscribe.

## Main definitions

* `followed F out` : the subscriptions at the framework after everything in `out` has been sent.
* `Mirrored`, `mirror` : the observer with the framework's side, as a transition system.
* `Mirrored.Mirrors` : the object is subscribed to exactly the items that some client holds.
* `Mirrored.Keeps` : the condition on a step under which it keeps the mirror.

## Main results

* `Mirrored.always_mirrors_iff` : the maps stay consistent and the mirror exact in precisely the
  runs whose steps all satisfy `Keeps`.
* `Mirrored.framework_mirror` : in these runs a fresh object is subscribed to exactly the items
  held, at any point.
-/

namespace GpsHal

namespace Observer

variable {C D ν : Type*}

/-- What one thing that is sent does to the subscriptions at the framework. -/
def followSent (F : Set D) : ObserverSent C D ν → Set D
  | .subscribe l => F ∪ {d | d ∈ l}
  | .unsubscribe l => F \ {d | d ∈ l}
  | .requestData _ => F
  | .notify _ _ => F

/-- The subscriptions at the framework after everything in `out` has been sent. -/
def followed (F : Set D) (out : List (ObserverSent C D ν)) : Set D := out.foldl followSent F

theorem followed_append (F : Set D) (out out' : List (ObserverSent C D ν)) :
    followed F (out ++ out') = followed (followed F out) out' := List.foldl_append

/-- Between `o` and `o'` the observer sends something that changes the subscriptions at the
framework as `f` says. -/
def Tells (o o' : Observer C D ν) (f : Set D → Set D) : Prop :=
  ∃ out, o'.sent = o.sent ++ out ∧ ∀ F, followed F out = f F

/-- Some client holds the item. -/
def Held (o : Observer C D ν) [DecidableEq C] (item : D) : Prop := ∃ c, o.Holds c item

/-- The client holds the item and nobody else does. -/
def HoldsAlone (o : Observer C D ν) [DecidableEq C] (client : C) (item : D) : Prop :=
  o.Holds client item ∧ ∀ c, o.Holds c item → c = client

section Tells

variable {o o₁ o₂ : Observer C D ν} {f g : Set D → Set D}

theorem Tells.nothing (h : o₁.sent = o.sent) : Tells o o₁ id := ⟨[], by simp [h], fun _ => rfl⟩

theorem Tells.trans (h : Tells o o₁ f) (h' : Tells o₁ o₂ g) : Tells o o₂ (g ∘ f) := by
  obtain ⟨out, hs, hf⟩ := h
  obtain ⟨out', hs', hg⟩ := h'
  refine ⟨out ++ out', by rw [hs', hs, List.append_assoc], fun F => ?_⟩
  rw [followed_append, hf, hg]
  rfl

theorem Tells.send (o : Observer C D ν) (x : ObserverSent C D ν) :
    Tells o (o.send x) (followSent · x) := ⟨[x], rfl, fun _ => rfl⟩

theorem Tells.followed_drop (h : Tells o o₁ f) (F : Set D) :
    followed F (o₁.sent.drop o.sent.length) = f F := by
  obtain ⟨out, hs, hf⟩ := h
  rw [hs, List.drop_left, hf]

theorem tells_tell_subscribe (o : Observer C D ν) (s : USet D) :
    Tells o (o.tell .subscribe s) fun F => F ∪ {d | o.mSubscriptionObj = true ∧ d ∈ s} := by
  unfold tell
  split
  · rename_i h
    rw [Bool.and_eq_true] at h
    refine ⟨[.subscribe (toList s)], rfl, fun F => ?_⟩
    ext d
    simp [followed, followSent, h.1]
  · rename_i h
    refine ⟨[], by simp, fun F => ?_⟩
    ext d
    have hnone : o.mSubscriptionObj = true → d ∉ s := by
      intro hobj
      have he : s.isEmpty = true := by simpa [hobj] using h
      exact USet.isEmpty_iff.1 he d
    simpa [followed] using fun hobj hd => absurd hd (hnone hobj)

theorem tells_tell_unsubscribe (o : Observer C D ν) (s : USet D) :
    Tells o (o.tell .unsubscribe s) fun F => F \ {d | o.mSubscriptionObj = true ∧ d ∈ s} := by
  unfold tell
  split
  · rename_i h
    rw [Bool.and_eq_true] at h
    refine ⟨[.unsubscribe (toList s)], rfl, fun F => ?_⟩
    ext d
    simp [followed, followSent, h.1]
  · rename_i h
    refine ⟨[], by simp, fun F => ?_⟩
    ext d
    have hnone : o.mSubscriptionObj = true → d ∉ s := by
      intro hobj
      have he : s.isEmpty = true := by simpa [hobj] using h
      exact USet.isEmpty_iff.1 he d
    simpa [followed] using fun _ hobj => hnone hobj

theorem tells_sendCachedDataItems [DecidableEq D] (o : Observer C D ν) (s : USet D) (c : C) :
    Tells o (o.sendCachedDataItems s c) id := by
  unfold sendCachedDataItems
  simp only
  split
  · exact .nothing rfl
  · exact Tells.send o _

end Tells

/-! ### What each handler tells the framework -/

section Handlers

variable [DecidableEq C] [DecidableEq D] {o : Observer C D ν}

theorem Consistent.held_iff (h : o.Consistent) {d : D} :
    o.Held d ↔ ∃ c, c ∈ o.mDataItemToClients.getValSet d :=
  exists_congr fun c => h.inverse c d

theorem Consistent.mem_getKeys (h : o.Consistent) {d : D} :
    d ∈ o.mDataItemToClients.getKeys ↔ o.Held d := by
  rw [h.held_iff, SetMap.getKeys, USet.mem_ofList, ← AList.mem_keys]
  constructor
  · exact h.items d
  · rintro ⟨c, hc⟩
    exact SetMap.mem_of_mem_getValSet hc

theorem tells_handleSetSubsObj (h : o.Consistent) :
    Tells o o.handleSetSubsObj fun F => F ∪ {d | o.Held d} := by
  unfold handleSetSubsObj
  simp only
  split
  · rename_i he
    refine ⟨[], by simp, fun F => ?_⟩
    have hnone : ∀ d, ¬ o.Held d := by
      intro d hd
      rw [← h.mem_getKeys, SetMap.getKeys, USet.mem_ofList, AList.keys] at hd
      rw [SetMap.empty, List.isEmpty_iff] at he
      simp [he] at hd
    simp [followed, hnone]
  · let dis := toList o.mDataItemToClients.getKeys
    refine ⟨[.subscribe dis, .requestData dis], by simp [send, dis], fun F => ?_⟩
    ext d
    simp [followed, followSent, dis, h.mem_getKeys]

theorem tells_handleSubscribeReq (h : o.Consistent) (l : ItemList D) (c : C) (r : Bool) :
    Tells o (o.handleSubscribeReq l c r) fun F =>
      F ∪ {d | r = false ∧ o.mSubscriptionObj = true ∧ d ∈ l.1 ∧ ¬ o.Held d} := by
  obtain ⟨-, -, hnew⟩ := SetMap.addAll_spec h.items (toSet l.1) (USet.single c) ∅
  have hnew' : ∀ d, d ∈ (o.mDataItemToClients.addAll (toSet l.1) (USet.single c) ∅).2 ↔
      d ∈ l.1 ∧ ¬ o.Held d := by
    intro d
    rw [hnew, h.held_iff]
    simp
  let o₀ : Observer C D ν := { o with
    mDataItemToClients := (o.mDataItemToClients.addAll (toSet l.1) (USet.single c) ∅).1
    mClientToDataItems := (o.mClientToDataItems.add c (toSet l.1)).1 }
  let o₁ := o₀.sendCachedDataItems (toSet l.1) c
  have h₁ : Tells o o₁ id := (Tells.nothing rfl).trans (tells_sendCachedDataItems o₀ _ c)
  have hobj : o₁.mSubscriptionObj = o.mSubscriptionObj := by simp [o₁, o₀]
  cases r with
  | true =>
    change Tells o (if o₁.mSubscriptionObj then o₁.send (.requestData l.1) else o₁) _
    simp only [Bool.true_eq_false, false_and, Set.ofPred_false, Set.union_empty]
    split
    · exact h₁.trans (Tells.send o₁ _)
    · exact h₁
  | false =>
    obtain ⟨out, hs, hf⟩ := h₁.trans (tells_tell_subscribe o₁
      (o.mDataItemToClients.addAll (toSet l.1) (USet.single c) ∅).2)
    refine ⟨out, hs, fun F => (hf F).trans ?_⟩
    simp [hobj, hnew']

/-- The items that are read from the erased entries when the last holder `c` of the items in `s`
lets go of them. -/
def lostBy (o : Observer C D ν) (freed : D → D) (c : C) (s : Set D) : Set D :=
  freed '' {d | o.HoldsAlone c d ∧ d ∈ s}

theorem Consistent.mem_goneKeys (h : o.Consistent) (freed : D → D) (keys : USet D) (c : C)
    (hkeys : ∀ d ∈ keys, o.Holds c d) {d : D} :
    d ∈ (o.mDataItemToClients.trimOrRemoveAll freed keys (USet.single c) ∅ ∅).goneKeys ↔
      d ∈ o.lostBy freed c {d | d ∈ keys} := by
  obtain ⟨-, -, -, hgone⟩ := SetMap.trimOrRemoveAll_spec freed h.items keys (USet.single c) ∅ ∅
  rw [hgone]
  simp only [USet.not_mem_empty, false_or, USet.mem_single, ← h.inverse, lostBy, Set.mem_image,
    Set.mem_ofPred_eq]
  constructor
  · rintro ⟨key, hkey, hfreed, -, halone⟩
    exact ⟨key, ⟨⟨hkeys key hkey, halone⟩, hkey⟩, hfreed⟩
  · rintro ⟨key, ⟨⟨hc, halone⟩, hkey⟩, hfreed⟩
    exact ⟨key, hkey, hfreed, ⟨c, hc⟩, halone⟩

theorem tells_handleUnsubscribeReq (h : o.Consistent) (freed : D → D) (freedClient : C → C)
    (l : ItemList D) (c : C) :
    Tells o (o.handleUnsubscribeReq freed freedClient l c) fun F =>
      F \ {d | o.mSubscriptionObj = true ∧ d ∈ o.lostBy freed c {d | d ∈ l.1}} := by
  obtain ⟨-, -, hgone, -⟩ := SetMap.trimOrRemoveAll_spec freedClient h.clients
    (USet.single c) (toSet l.1) ∅ ∅
  let byClient := o.mClientToDataItems.trimOrRemoveAll freedClient (USet.single c) (toSet l.1) ∅ ∅
  have hunused : ∀ d, d ∈ byClient.goneVals ↔ o.Holds c d ∧ d ∈ l.1 := by
    intro d
    simpa [byClient, Holds] using hgone d
  let byItem := o.mDataItemToClients.trimOrRemoveAll freed byClient.goneVals (USet.single c) ∅ ∅
  let o₀ : Observer C D ν :=
    { o with mClientToDataItems := byClient.map, mDataItemToClients := byItem.map }
  obtain ⟨out, hs, hf⟩ := tells_tell_unsubscribe o₀ byItem.goneKeys
  refine ⟨out, hs, fun F => (hf F).trans ?_⟩
  have hlost : o.lostBy freed c {d | d ∈ byClient.goneVals} = o.lostBy freed c {d | d ∈ l.1} := by
    unfold lostBy
    congr 1
    ext d
    simp only [Set.mem_ofPred_eq, hunused]
    constructor
    · rintro ⟨ha, -, hl⟩
      exact ⟨ha, hl⟩
    · rintro ⟨ha, hl⟩
      exact ⟨ha, ha.1, hl⟩
  have hkeys : ∀ d, d ∈ byItem.goneKeys ↔ d ∈ o.lostBy freed c {d | d ∈ l.1} := by
    intro d
    rw [← hlost]
    exact h.mem_goneKeys freed byClient.goneVals c fun d hd => ((hunused d).1 hd).1
  simp only [hkeys]
  rfl

theorem tells_handleUnsubscribeAllReq (h : o.Consistent) (freed : D → D) (c : C) :
    Tells o (o.handleUnsubscribeAllReq freed c) fun F =>
      F \ {d | o.mSubscriptionObj = true ∧ d ∈ o.lostBy freed c Set.univ} := by
  have hlost : o.lostBy freed c {d | d ∈ o.mClientToDataItems.getValSet c} =
      o.lostBy freed c Set.univ := by
    unfold lostBy
    congr 1
    ext d
    exact ⟨fun hd => ⟨hd.1, trivial⟩, fun hd => ⟨hd.1, hd.1.1⟩⟩
  have hkeys : ∀ d, d ∈ (o.mDataItemToClients.trimOrRemoveAll freed
      (o.mClientToDataItems.getValSet c) (USet.single c) ∅ ∅).goneKeys ↔
        d ∈ o.lostBy freed c Set.univ := by
    intro d
    rw [← hlost]
    exact h.mem_goneKeys freed _ c fun d hd => hd
  unfold handleUnsubscribeAllReq
  simp only
  split
  · rename_i he
    refine ⟨[], by simp, fun F => ?_⟩
    ext d
    -- a client that holds nothing has nothing to lose
    have hnone : d ∉ o.lostBy freed c Set.univ := by
      rintro ⟨key, ⟨hk, -⟩, -⟩
      exact USet.isEmpty_iff.1 he key hk.1
    simp [followed, hnone]
  · obtain ⟨out, hs, hf⟩ := tells_tell_unsubscribe
      ({ o with
        mClientToDataItems := o.mClientToDataItems.remove c
        mDataItemToClients := (o.mDataItemToClients.trimOrRemoveAll freed
          (o.mClientToDataItems.getValSet c) (USet.single c) ∅ ∅).map } : Observer C D ν)
      (o.mDataItemToClients.trimOrRemoveAll freed
          (o.mClientToDataItems.getValSet c) (USet.single c) ∅ ∅).goneKeys
    refine ⟨out, hs, fun F => (hf F).trans ?_⟩
    simp only [hkeys]

theorem tells_handleUpdateSubscriptionReq (h : o.Consistent) (freed : D → D) (l : ItemList D)
    {c : C} (hfresh : ∀ d, ¬ o.Holds c d) :
    Tells o (o.handleUpdateSubscriptionReq freed l c) fun F =>
      F ∪ {d | o.mSubscriptionObj = true ∧ d ∈ l.1 ∧ ¬ o.Held d} := by
  let updated := o.mClientToDataItems.update c (toSet l.1)
  let trimmed := o.mDataItemToClients.trimOrRemoveAll freed updated.goneVals (USet.single c) ∅ ∅
  let added := trimmed.map.addAll updated.newVals (USet.single c) ∅
  have hgone : ∀ d, d ∉ updated.goneVals := by
    intro d hd
    exact hfresh d (SetMap.update_goneVals.1 hd).1
  obtain ⟨hne, hmem, -, hkeys⟩ := SetMap.trimOrRemoveAll_spec freed h.items updated.goneVals
    (USet.single c) ∅ ∅
  obtain ⟨-, -, hnew⟩ := SetMap.addAll_spec hne updated.newVals (USet.single c) ∅
  have hkeys' : ∀ d, d ∉ trimmed.goneKeys := by
    intro d
    rw [hkeys]
    simp [hgone]
  have hnew' : ∀ d, d ∈ added.2 ↔ d ∈ l.1 ∧ ¬ o.Held d := by
    intro d
    rw [hnew, h.held_iff]
    have hd : d ∉ o.mClientToDataItems.getValSet c := hfresh d
    simp [updated, SetMap.update_newVals, hmem, hd, SetMap.update_goneVals]
  let o₀ : Observer C D ν :=
    { o with mClientToDataItems := updated.map, mDataItemToClients := added.1 }
  let o₁ := o₀.sendCachedDataItems updated.newVals c
  have h₁ : Tells o o₁ id := (Tells.nothing rfl).trans (tells_sendCachedDataItems o₀ _ c)
  have hobj : o₁.mSubscriptionObj = o.mSubscriptionObj := by simp [o₁, o₀]
  obtain ⟨out, hs, hf⟩ := (h₁.trans (tells_tell_subscribe o₁ added.2)).trans
    (tells_tell_unsubscribe (o₁.tell .subscribe added.2) trimmed.goneKeys)
  refine ⟨out, hs, fun F => (hf F).trans ?_⟩
  ext d
  simp [hobj, hnew', hkeys']

end Handlers

/-! ### The framework next to the observer -/

/-- One message together with what the observer does not determine: whether an object that is set
is a fresh one or the one set before, and what the memory of a map entry holds after the entry has been erased. -/
structure MirrorMsg (C D : Type*) where
  msg : ObserverMsg C D
  fresh : Bool
  freed : D → D
  freedClient : C → C

/-- The observer and what the framework's object is subscribed to. -/
structure Mirrored (C D ν : Type*) where
  observer : Observer C D ν
  subscribed : Set D

namespace Mirrored

variable [DecidableEq C] [DecidableEq D]

/-- The subscriptions of the object that handles what is sent next: a fresh object has none, and
the first object is a fresh one. -/
def current (s : Mirrored C D ν) (m : MirrorMsg C D) : Set D :=
  match m.msg with
  | .setSubscriptionObj =>
    if m.fresh || !s.observer.mSubscriptionObj then ∅ else s.subscribed
  | _ => s.subscribed

/-- Handle one message and let the framework's object follow what is sent. -/
def proc (s : Mirrored C D ν) (m : MirrorMsg C D) : Mirrored C D ν :=
  let o := s.observer.proc m.freed m.freedClient m.msg
  ⟨o, followed (s.current m) (o.sent.drop s.observer.sent.length)⟩

/-- The observer and the framework's object as a transition system. -/
def mirror (C : Type*) [DecidableEq C] (cache : AList fun _ : D => ν) :
    System (Mirrored C D ν) (MirrorMsg C D) :=
  .ofFun ⟨Observer.init cache, ∅⟩ proc

/-- The framework's object is subscribed to exactly the items that some client holds. -/
def Mirrors (s : Mirrored C D ν) : Prop :=
  s.observer.mSubscriptionObj = true → ∀ d, d ∈ s.subscribed ↔ s.observer.Held d

/-- What is read back from the erased entries, among the items that somebody holds, is exactly the
items in `t` that nobody but the client holds. -/
def ReadsBack (o : Observer C D ν) (freed : D → D) (c : C) (t : Set D) : Prop :=
  o.mSubscriptionObj = true → ∀ d, o.Held d →
    (d ∈ o.lostBy freed c t ↔ o.HoldsAlone c d ∧ d ∈ t)

/-- The condition on a step: `updateSubscription` comes from a client without a subscription,
`requestData` asks a set object only for items that somebody holds already, and the items of
erased entries are read back as they were. -/
def Keeps (s : Mirrored C D ν) (m : MirrorMsg C D) : Prop :=
  match m.msg with
  | .setSubscriptionObj => True
  | .subscribe l _ toRequestData =>
    toRequestData = true → s.observer.mSubscriptionObj = true → ∀ d ∈ l.1, s.observer.Held d
  | .updateSubscription _ client => ∀ d, ¬ s.observer.Holds client d
  | .unsubscribe l client => ReadsBack s.observer m.freed client {d | d ∈ l.1}
  | .unsubscribeAll client => ReadsBack s.observer m.freed client Set.univ

/-! ### One step -/

section Steps

variable {s : Mirrored C D ν} {o : Observer C D ν} {freed : D → D} {freedClient : C → C}

/-- The subscriptions that the client map holds. -/
def heldBy (o : Observer C D ν) : Subscriptions C D := fun c => {d | o.Holds c d}

theorem holds_proc (h : o.Consistent) (m : ObserverMsg C D) (c : C) (d : D) :
    (o.proc freed freedClient m).Holds c d ↔ d ∈ (heldBy o).apply m c :=
  (Represents.proc ⟨fun _ _ => Iff.rfl, h.clients⟩ freed freedClient m).holds c d

theorem held_proc (h : o.Consistent) (m : ObserverMsg C D) (d : D) :
    (o.proc freed freedClient m).Held d ↔ ∃ c, d ∈ (heldBy o).apply m c :=
  exists_congr fun c => holds_proc h m c d

omit [DecidableEq D] in
/-- The items held after a message that only adds items to a client. -/
theorem held_union {S : Subscriptions C D} {c : C} {t : Set D} {d : D} :
    (∃ c', d ∈ Function.update S c (S c ∪ t) c') ↔ (∃ c', d ∈ S c') ∨ d ∈ t := by
  simp only [mem_update_iff]
  constructor
  · rintro ⟨c', hd⟩
    by_cases hcc : c' = c
    · rw [if_pos hcc] at hd
      exact hd.imp_left fun hd => ⟨c, hd⟩
    · rw [if_neg hcc] at hd
      exact .inl ⟨c', hd⟩
  · rintro (⟨c', hd⟩ | hd)
    · refine ⟨c', ?_⟩
      split
      · rename_i hcc
        exact .inl (hcc ▸ hd)
      · exact hd
    · exact ⟨c, by simp [hd]⟩

omit [DecidableEq D] in
/-- The items held after a message that only takes items from a client. -/
theorem held_diff {S : Subscriptions C D} {c : C} {t : Set D} {d : D} :
    (∃ c', d ∈ Function.update S c (S c \ t) c') ↔
      (∃ c', d ∈ S c') ∧ ¬ ((d ∈ S c ∧ ∀ c', d ∈ S c' → c' = c) ∧ d ∈ t) := by
  simp only [mem_update_iff]
  constructor
  · rintro ⟨c', hd⟩
    by_cases hcc : c' = c
    · rw [if_pos hcc] at hd
      exact ⟨⟨c, hd.1⟩, fun h => hd.2 h.2⟩
    · rw [if_neg hcc] at hd
      exact ⟨⟨c', hd⟩, fun h => hcc (h.1.2 c' hd)⟩
  · rintro ⟨⟨c', hd⟩, hlast⟩
    by_cases hother : ∃ c'', d ∈ S c'' ∧ c'' ≠ c
    · obtain ⟨c'', hd', hne⟩ := hother
      exact ⟨c'', by rwa [if_neg hne]⟩
    · have halone : ∀ c'', d ∈ S c'' → c'' = c := by
        intro c'' hd'
        by_contra hne
        exact hother ⟨c'', hd', hne⟩
      have hc : d ∈ S c := halone c' hd ▸ hd
      refine ⟨c, ?_⟩
      rw [if_pos rfl]
      exact ⟨hc, fun ht => hlast ⟨⟨hc, halone⟩, ht⟩⟩

theorem held_subscribe (h : o.Consistent) (l : ItemList D) (c : C) (r : Bool) (d : D) :
    (o.proc freed freedClient (.subscribe l c r)).Held d ↔ o.Held d ∨ d ∈ l.1 :=
  (held_proc h _ d).trans held_union

theorem held_updateSubscription (h : o.Consistent) (l : ItemList D) {c : C}
    (hfresh : ∀ d, ¬ o.Holds c d) (d : D) :
    (o.proc freed freedClient (.updateSubscription l c)).Held d ↔ o.Held d ∨ d ∈ l.1 := by
  have hnone : heldBy o c = ∅ := Set.eq_empty_of_forall_notMem hfresh
  have hadd : (heldBy o).apply (.updateSubscription l c) =
      Function.update (heldBy o) c (heldBy o c ∪ {d | d ∈ l.1}) := by
    rw [hnone, Set.empty_union]
    rfl
  rw [held_proc h, hadd]
  exact held_union

theorem held_unsubscribe (h : o.Consistent) (l : ItemList D) (c : C) (d : D) :
    (o.proc freed freedClient (.unsubscribe l c)).Held d ↔
      o.Held d ∧ ¬ (o.HoldsAlone c d ∧ d ∈ l.1) :=
  (held_proc h _ d).trans held_diff

theorem held_unsubscribeAll (h : o.Consistent) (c : C) (d : D) :
    (o.proc freed freedClient (.unsubscribeAll c)).Held d ↔
      o.Held d ∧ ¬ (o.HoldsAlone c d ∧ d ∈ (Set.univ : Set D)) := by
  have hall : (heldBy o).apply (.unsubscribeAll c) =
      Function.update (heldBy o) c (heldBy o c \ Set.univ) := by
    rw [Set.sdiff_univ]
    rfl
  rw [held_proc h, hall]
  exact held_diff

/-- The object is set by `setSubscriptionObj` and by nothing else. -/
theorem obj_proc (m : ObserverMsg C D) :
    (o.proc freed freedClient m).mSubscriptionObj = true ↔
      m = .setSubscriptionObj ∨ o.mSubscriptionObj = true := by
  cases m with
  | setSubscriptionObj =>
    simp only [Observer.proc, handleSetSubsObj, true_or, iff_true]
    split <;> rfl
  | subscribe l c r =>
    simp only [Observer.proc, handleSubscribeReq]
    split
    · split <;> simp [send]
    · simp
  | updateSubscription l c => simp [Observer.proc, handleUpdateSubscriptionReq]
  | unsubscribe l c => simp [Observer.proc, handleUnsubscribeReq]
  | unsubscribeAll c =>
    simp only [Observer.proc, handleUnsubscribeAllReq]
    split <;> simp

omit [DecidableEq D] in
/-- Taking what is read back from the subscriptions mirrors the removal exactly when the right
items are read back. -/
theorem readsBack_iff (hm : s.Mirrors) {c : C} {t : Set D} :
    (s.observer.mSubscriptionObj = true → ∀ d,
      d ∈ s.subscribed \ {d | s.observer.mSubscriptionObj = true ∧
          d ∈ s.observer.lostBy freed c t} ↔
        s.observer.Held d ∧ ¬ (s.observer.HoldsAlone c d ∧ d ∈ t)) ↔
      ReadsBack s.observer freed c t := by
  constructor
  · intro h hobj d hd
    have hd' := h hobj d
    simp only [Set.mem_sdiff, hm hobj d, hd, true_and, Set.mem_ofPred_eq, hobj] at hd'
    exact not_iff_not.1 hd'
  · intro h hobj d
    simp only [Set.mem_sdiff, hm hobj d, Set.mem_ofPred_eq, hobj, true_and]
    exact and_congr_right fun hd => not_iff_not.2 (h hobj d hd)

/-- What the framework's object is subscribed to after a message, from what the message tells it. -/
theorem subscribed_proc {m : MirrorMsg C D} {f : Set D → Set D}
    (h : Tells s.observer (s.observer.proc m.freed m.freedClient m.msg) f) :
    (s.proc m).subscribed = f (s.current m) := h.followed_drop _

/-- The mirror after a message that sets no object, from what the message tells the framework and
from the items held after it. -/
theorem mirrors_proc_iff {m : MirrorMsg C D} (hmsg : m.msg ≠ .setSubscriptionObj)
    {f : Set D → Set D} {P : D → Prop}
    (htells : Tells s.observer (s.observer.proc m.freed m.freedClient m.msg) f)
    (hheld : ∀ d, (s.observer.proc m.freed m.freedClient m.msg).Held d ↔ P d) :
    (s.proc m).Mirrors ↔
      (s.observer.mSubscriptionObj = true → ∀ d, d ∈ f s.subscribed ↔ P d) := by
  have hcur : s.current m = s.subscribed := by
    unfold current
    split
    · rename_i h
      exact absurd h hmsg
    · rfl
  unfold Mirrors
  rw [subscribed_proc htells, hcur]
  refine imp_congr ?_ (forall_congr' fun d => iff_congr Iff.rfl (hheld d))
  exact (obj_proc m.msg).trans (or_iff_right hmsg)

theorem mirrors_setSubscriptionObj (hc : s.observer.Consistent) (hm : s.Mirrors)
    {m : MirrorMsg C D} (hmsg : m.msg = .setSubscriptionObj) : (s.proc m).Mirrors := by
  obtain ⟨msg, fresh, freed, freedClient⟩ := m
  obtain rfl : msg = .setSubscriptionObj := hmsg
  intro _ d
  have hheld : (s.observer.proc freed freedClient .setSubscriptionObj).Held d ↔
      s.observer.Held d := held_proc hc _ d
  rw [subscribed_proc (tells_handleSetSubsObj hc), Set.mem_union]
  refine Iff.trans ?_ hheld.symm
  -- what the object had before is held
  refine or_iff_right_of_imp fun hd => ?_
  simp only [current] at hd
  split at hd
  · exact absurd hd (Set.notMem_empty d)
  · rename_i hset
    have hobj : s.observer.mSubscriptionObj = true := by simp_all
    exact (hm hobj d).1 hd

/-- **Step lemma.**  From a state with consistent maps and an exact mirror a message leads to such
a state again exactly when it satisfies `Keeps`. -/
theorem keeps_iff (hc : s.observer.Consistent) (hm : s.Mirrors) (m : MirrorMsg C D) :
    s.Keeps m ↔ (s.proc m).observer.Consistent ∧ (s.proc m).Mirrors := by
  obtain ⟨msg, fresh, freed, freedClient⟩ := m
  cases msg with
  | setSubscriptionObj =>
    exact iff_of_true trivial ⟨hc.setSubsObj, mirrors_setSubscriptionObj hc hm rfl⟩
  | subscribe l c r =>
    refine Iff.trans ?_ (and_iff_right (hc.subscribeReq l c r)).symm
    refine Iff.trans ?_ (mirrors_proc_iff (m := ⟨.subscribe l c r, fresh, freed, freedClient⟩)
      (by simp) (tells_handleSubscribeReq hc l c r) (held_subscribe hc l c r)).symm
    constructor
    · intro h hobj d
      simp only [Set.mem_union, hm hobj d, Set.mem_ofPred_eq]
      refine or_congr_right' fun hd => ⟨fun h => h.2.2.1, fun hl => ⟨?_, hobj, hl, hd⟩⟩
      exact Bool.eq_false_iff.2 fun hr => hd (h hr hobj d hl)
    · intro h hr hobj d hl
      have := (h hobj d).2 (.inr hl)
      simpa [hm hobj d, hr] using this
  | updateSubscription l c =>
    constructor
    · intro hfresh
      refine ⟨hc.updateSubscriptionReq l c hfresh, ?_⟩
      refine (mirrors_proc_iff (m := ⟨.updateSubscription l c, fresh, freed, freedClient⟩)
        (by simp) (tells_handleUpdateSubscriptionReq hc freed l hfresh)
        (held_updateSubscription hc l hfresh)).2 ?_
      intro hobj d
      simp only [Set.mem_union, hm hobj d, Set.mem_ofPred_eq]
      exact or_congr_right' fun hd => ⟨fun h => h.2.1, fun hl => ⟨hobj, hl, hd⟩⟩
    · rintro ⟨hc', -⟩ d hd
      exact not_consistent_of_updateSubscriptionReq hc l hd hc'
  | unsubscribe l c =>
    refine Iff.trans ?_ (and_iff_right (hc.unsubscribeReq l c)).symm
    refine Iff.trans ?_ (mirrors_proc_iff (m := ⟨.unsubscribe l c, fresh, freed, freedClient⟩)
      (by simp) (tells_handleUnsubscribeReq hc freed freedClient l c)
      (held_unsubscribe hc l c)).symm
    exact (readsBack_iff hm).symm
  | unsubscribeAll c =>
    refine Iff.trans ?_ (and_iff_right (hc.unsubscribeAllReq c)).symm
    refine Iff.trans ?_ (mirrors_proc_iff (m := ⟨.unsubscribeAll c, fresh, freed, freedClient⟩)
      (by simp) (tells_handleUnsubscribeAllReq hc freed c) (held_unsubscribeAll hc c)).symm
    exact (readsBack_iff hm).symm

end Steps

/-! ### Every run -/

section Runs

variable {cache : AList fun _ : D => ν} {es : List (MirrorMsg C D)} {s : Mirrored C D ν}

/-- The maps stay consistent and the mirror exact throughout a run exactly when every step of the
run satisfies `Keeps`. -/
theorem always_mirrors_iff :
    (mirror C cache).Always (fun s : Mirrored C D ν => s.observer.Consistent ∧ s.Mirrors) es s ↔
      (mirror C cache).Run Keeps es s := by
  refine System.always_iff_run (J := fun s : Mirrored C D ν => s.observer.Consistent ∧ s.Mirrors)
    ⟨.init, fun h => absurd h Bool.false_ne_true⟩ (fun _ h => h) ?_ ?_
  · rintro s m s' ⟨hc, hm⟩ hk rfl
    exact (keeps_iff hc hm m).1 hk
  · rintro s m s' ⟨hc, hm⟩ hk rfl h
    exact hk ((keeps_iff hc hm m).2 h)

/-- A fresh object that is set now is told to subscribe to exactly the items that are held. -/
def SubscribesFresh (o : Observer C D ν) : Prop :=
  ∃ out, o.handleSetSubsObj.sent = o.sent ++ out ∧ ∀ d, d ∈ followed ∅ out ↔ o.Held d

/-- **The framework's subscriptions.**  In every run whose steps satisfy `Keeps` a set object is
subscribed to exactly the items that some client holds, and an object that is set freshly is told
to subscribe to exactly these items.  A step from such a run leaves the maps consistent and the
mirror exact only if it satisfies `Keeps`. -/
theorem framework_mirror (h : (mirror C cache).Run Keeps es s) :
    s.Mirrors ∧ SubscribesFresh s.observer ∧
      ∀ m, s.Keeps m ↔ (s.proc m).observer.Consistent ∧ (s.proc m).Mirrors := by
  obtain ⟨-, hc, hm⟩ := always_mirrors_iff.2 h
  obtain ⟨out, hs, hf⟩ := tells_handleSetSubsObj hc
  exact ⟨hm, ⟨out, hs, fun d => by simp [hf]⟩, fun m => keeps_iff hc hm m⟩

/-- An item requested before the object is set is mirrored once it is, and stays while another
client holds it. -/
def requestFirst : List (MirrorMsg ℕ ℕ) :=
  [⟨.subscribe ⟨[1], by decide⟩ 7 true, false, id, id⟩, ⟨.setSubscriptionObj, true, id, id⟩,
    ⟨.subscribe ⟨[1], by decide⟩ 8 false, false, id, id⟩,
    ⟨.unsubscribe ⟨[1], by decide⟩ 7, false, id, id⟩]

theorem framework_mirror_requestFirst :
    ∃ s, (mirror ℕ (∅ : AList fun _ : ℕ => ℕ)).Run Keeps requestFirst s ∧
      s.Mirrors ∧ SubscribesFresh s.observer ∧
        ∀ m, s.Keeps m ↔ (s.proc m).observer.Consistent ∧ (s.proc m).Mirrors := by
  have hkeeps : System.Allowed proc Keeps (⟨Observer.init ∅, ∅⟩ : Mirrored ℕ ℕ ℕ) requestFirst :=
    ⟨fun _ h => absurd h Bool.false_ne_true, trivial, fun h => absurd h Bool.false_ne_true,
      fun _ d _ => by simp [lostBy], trivial⟩
  exact ⟨_, System.run_foldl hkeeps, framework_mirror (System.run_foldl hkeeps)⟩

/-- A client requests an item from the object that is set. -/
def requestAlone : List (MirrorMsg ℕ ℕ) :=
  [⟨.setSubscriptionObj, true, id, id⟩, ⟨.subscribe ⟨[1], by decide⟩ 7 true, false, id, id⟩]

/-- The client holds the item, but the framework is not asked to subscribe to it. -/
theorem framework_mirror_broken :
    ∃ s, (mirror ℕ (∅ : AList fun _ : ℕ => ℕ)).Run System.Free requestAlone s ∧ ¬ s.Mirrors := by
  refine ⟨_, System.run_foldl ⟨trivial, trivial, trivial⟩, fun h => ?_⟩
  have hsub := (h rfl 1).2 ⟨7, by unfold Holds; decide⟩
  change 1 ∈ followed ∅ [(ObserverSent.requestData [1] : ObserverSent ℕ ℕ ℕ)] at hsub
  exact hsub

end Runs

end Mirrored

end Observer

end GpsHal
