import GpsHal.Core.Observer
import GpsHal.Util.Fold

/-!
# `SystemStatusOsObserver::notify` : data items on the way to the clients

The framework gives the observer a list of data items.  They are copied into a vector, which a
message takes to the observer's thread.  There each of them is put into the cache if `SystemStatus`
takes it, and every client is given the cached copies of its items that have changed.  The vector is
made with as many elements as the list, all of them `NULL`, and the copies are appended to it.

## Main definitions

* `DataItems` : what the observer calls for data items, outside of it.
* `notify` : the vector of the message.
* `handleNotify` : the handling of the message.
* `Delivers` : which client is given which items.

## Main results

* `notify_nulls` : the items are delivered, and the cache is updated with `NULL`, always.
-/

namespace GpsHal

/-- The data items: the library that makes and copies them, and `SystemStatus`, which says whether
it has taken one.  A copy has the value of its source. -/
structure DataItems (D ν σ : Type*) where
  getId : ν → D
  createNewDataItem : D → Option ν
  /-- The copy, and `dataItemCopied`. -/
  copy (dst src : ν) : ν × Bool
  eventDataItemNotify (status : σ) (item : ν) : Bool × σ
  copy_value : ∀ dst src, (copy dst src).1 = src

namespace Observer

variable {C D ν σ : Type*} [DecidableEq D]

section Functions

variable (w : DataItems D ν σ)

/-- `updateCache` : whether the item has been updated, with the observer and `SystemStatus` after
it. -/
def updateCache (o : Observer C D ν) (status : σ) : Option ν → Bool × Observer C D ν × σ
  | none => (false, o, status)
  | some d =>
    let r := w.eventDataItemNotify status d
    if r.1 then
      match o.mDataItemCache.lookup (w.getId d) with
      | none =>
        -- new data item; not found in cache
        match w.createNewDataItem (w.getId d) with
        | some dataitem =>
          (true, { o with
            mDataItemCache := o.mDataItemCache.insert (w.getId d) (w.copy dataitem d).1 }, r.2)
        | none => (false, o, r.2)
      | some cached =>
        -- found in cache; update cache if necessary
        let copied := w.copy cached d
        (copied.2, { o with mDataItemCache := o.mDataItemCache.insert (w.getId d) copied.1 }, r.2)
    else (false, o, r.2)

/-- The vector of the message. -/
def notify (dlist : {l : List ν // l ≠ []}) : List (Option ν) :=
  List.replicate dlist.1.length none ++
    (dlist.1.filterMap fun each => (w.createNewDataItem (w.getId each)).map fun di =>
      (w.copy di each).1).map some

/-- The first loop of `HandleNotify::proc`. -/
structure Noted (C D ν σ : Type*) where
  observer : Observer C D ν
  status : σ
  dataItemIdsToBeSent : USet D

def note (a : Noted C D ν σ) (item : Option ν) : Noted C D ν σ :=
  let r := updateCache w a.observer a.status item
  { observer := r.2.1
    status := r.2.2
    dataItemIdsToBeSent :=
      match item with
      | some d => if r.1 then a.dataItemIdsToBeSent.insert (w.getId d) else a.dataItemIdsToBeSent
      | none => a.dataItemIdsToBeSent }

def noted (o : Observer C D ν) (status : σ) (mDiVec : List (Option ν)) : Noted C D ν σ :=
  mDiVec.foldl (note w) ⟨o, status, ∅⟩

variable [DecidableEq C]

/-- The second loop: the clients of the items. -/
def clientSet (o : Observer C D ν) (dataItemIdsToBeSent : USet D) : USet C :=
  dataItemIdsToBeSent.elems.foldl
    (fun s each => s.insertAll (o.mDataItemToClients.getValSet each).elems) ∅

/-- The items of a client without those that are not to be sent. -/
def dataItemIdsForThisClient (o : Observer C D ν) (dataItemIdsToBeSent : USet D) (client : C) :
    USet D :=
  ⟨(o.mClientToDataItems.getValSet client).elems.filter
    fun d => decide (d ∈ dataItemIdsToBeSent),
    (o.mClientToDataItems.getValSet client).nodup.filter _⟩

/-- `HandleNotify::proc` -/
def handleNotify (o : Observer C D ν) (status : σ) (mDiVec : List (Option ν)) : Observer C D ν :=
  let a := noted w o status mDiVec
  (clientSet a.observer a.dataItemIdsToBeSent).elems.foldl (fun o client =>
    o.sendCachedDataItems (dataItemIdsForThisClient o a.dataItemIdsToBeSent client) client)
    a.observer

end Functions

/-! ### What is to be delivered -/

section Spec

variable (w : DataItems D ν σ)

/-- The items of a list that `SystemStatus` takes, one after another. -/
def taken : σ → List ν → List ν
  | _, [] => []
  | status, item :: l =>
    let r := w.eventDataItemNotify status item
    if r.1 then item :: taken r.2 l else taken r.2 l

/-- The items of the list that the library can make. -/
def creatable (dlist : List ν) : List ν :=
  dlist.filter fun each => (w.createNewDataItem (w.getId each)).isSome

variable [DecidableEq C]

/-- What a client is given by what is sent. -/
def given (c : C) (out : List (ObserverSent C D ν)) : List (List ν) :=
  out.filterMap fun x => match x with
    | .notify client dataItems => if client = c then some dataItems else none
    | .subscribe _ | .requestData _ | .unsubscribe _ => none

/-- A client is notified: it is listed for an item that has changed, and it has one. -/
def Notified (o : Observer C D ν) (changed : USet D) (c : C) : Prop :=
  (∃ d ∈ changed, c ∈ o.mDataItemToClients.getValSet d) ∧ ∃ d ∈ changed, o.Holds c d

/-- The clients that are notified are given, once, a cached copy of each of their items that have
changed, and the others nothing.  The copies have the values that have been taken last. -/
structure Delivers (o : Observer C D ν) (status : σ) (dlist : {l : List ν // l ≠ []}) : Prop where
  sent : ∃ out, (handleNotify w o status (notify w dlist)).sent = o.sent ++ out ∧ ∀ c,
    let a := noted w o status (notify w dlist)
    (¬ o.Notified a.dataItemIdsToBeSent c → given c out = []) ∧
      (o.Notified a.dataItemIdsToBeSent c → ∃ ids : List D, ids.Nodup ∧
        (∀ d, d ∈ ids ↔ o.Holds c d ∧ d ∈ a.dataItemIdsToBeSent) ∧
        ∃ dataItems, given c out = [dataItems] ∧
          dataItems.map some = ids.map a.observer.mDataItemCache.lookup)
  values : let a := noted w o status (notify w dlist)
    ∀ d ∈ a.dataItemIdsToBeSent, ∃ item,
      ((taken w status (creatable w dlist.1)).filter fun x => w.getId x = d).getLast? = some item ∧
        a.observer.mDataItemCache.lookup d = some item

/-- What is expected of a notification. -/
structure NotifiesRight (o : Observer C D ν) (status : σ) (dlist : {l : List ν // l ≠ []}) :
    Prop where
  noNull : none ∉ notify w dlist
  delivers : Delivers w o status dlist

end Spec

/-! ### The first loop -/

section Loop

variable {w : DataItems D ν σ} {a : Noted C D ν σ} {d : ν} {k : D} {l : List ν}

omit [DecidableEq D] in
/-- The copies in the vector have the values of the items that the library can make. -/
theorem notify_eq (dlist : {l : List ν // l ≠ []}) :
    notify w dlist =
      List.replicate dlist.1.length none ++ (creatable w dlist.1).map some := by
  unfold notify creatable
  congr 2
  generalize dlist.1 = l
  induction l with
  | nil => rfl
  | cons each l ih =>
    rw [List.filterMap_cons, List.filter_cons, ih]
    cases hnew : w.createNewDataItem (w.getId each) with
    | none => simp
    | some di => simp [w.copy_value]

/-- A `NULL` changes nothing. -/
theorem foldl_note_replicate (n : ℕ) : (List.replicate n none).foldl (note w) a = a := by
  induction n with
  | zero => rfl
  | succ n ih =>
    rw [List.replicate_succ, List.foldl_cons]
    exact ih

theorem noted_notify (o : Observer C D ν) (status : σ) (dlist : {l : List ν // l ≠ []}) :
    noted w o status (notify w dlist) =
      (creatable w dlist.1).foldl (fun a d => note w a (some d)) ⟨o, status, ∅⟩ := by
  unfold noted
  rw [notify_eq, List.foldl_append, foldl_note_replicate, List.foldl_map]

/-- What the loop leaves alone. -/
structure SameClients (o o' : Observer C D ν) : Prop where
  clients : o'.mClientToDataItems = o.mClientToDataItems
  items : o'.mDataItemToClients = o.mDataItemToClients
  sent : o'.sent = o.sent

omit [DecidableEq D] in
theorem SameClients.trans {o₁ o₂ o₃ : Observer C D ν} (h : SameClients o₁ o₂)
    (h' : SameClients o₂ o₃) : SameClients o₁ o₃ :=
  ⟨h'.clients.trans h.clients, h'.items.trans h.items, h'.sent.trans h.sent⟩

/-- One item that the library can make. -/
structure NotesItem (w : DataItems D ν σ) (a a' : Noted C D ν σ) (d : ν) : Prop where
  same : SameClients a.observer a'.observer
  status : a'.status = (w.eventDataItemNotify a.status d).2
  cache : ∀ k, a'.observer.mDataItemCache.lookup k =
    if (w.eventDataItemNotify a.status d).1 = true ∧ w.getId d = k then some d
    else a.observer.mDataItemCache.lookup k
  ids : ∀ k, k ∈ a'.dataItemIdsToBeSent → k ∈ a.dataItemIdsToBeSent ∨
    (w.eventDataItemNotify a.status d).1 = true ∧ w.getId d = k

theorem lookup_insert_eq (m : AList fun _ : D => ν) (id k : D) (v : ν) :
    (m.insert id v).lookup k = if id = k then some v else m.lookup k := by
  by_cases h : id = k
  · rw [if_pos h, ← h, AList.lookup_insert]
  · rw [if_neg h, AList.lookup_insert_ne (Ne.symm h)]

theorem notesItem (hd : (w.createNewDataItem (w.getId d)).isSome = true) :
    NotesItem w a (note w a (some d)) d := by
  obtain ⟨di, hdi⟩ := Option.isSome_iff_exists.1 hd
  have hids : ∀ b : Bool, ∀ k,
      k ∈ (if b then a.dataItemIdsToBeSent.insert (w.getId d) else a.dataItemIdsToBeSent) →
        k ∈ a.dataItemIdsToBeSent ∨ w.getId d = k := by
    intro b k hk
    cases b with
    | true => exact (USet.mem_insert.1 hk).imp id Eq.symm
    | false => exact .inl hk
  unfold note updateCache
  cases htaken : (w.eventDataItemNotify a.status d).1 with
  | false =>
    simp only [htaken, Bool.false_eq_true, if_false]
    refine ⟨⟨rfl, rfl, rfl⟩, rfl, fun k => ?_, fun k hk => .inl hk⟩
    rw [htaken, if_neg (by simp)]
  | true =>
    simp only [htaken, if_true]
    cases hcached : a.observer.mDataItemCache.lookup (w.getId d) with
    | none =>
      simp only [hdi]
      refine ⟨⟨rfl, rfl, rfl⟩, rfl, fun k => ?_, fun k hk => ?_⟩
      · rw [htaken, lookup_insert_eq, w.copy_value]
        simp
      · exact (hids true k hk).imp_right fun h => ⟨htaken, h⟩
    | some cached =>
      refine ⟨⟨rfl, rfl, rfl⟩, rfl, fun k => ?_, fun k hk => ?_⟩
      · simp only
        rw [htaken, lookup_insert_eq, w.copy_value]
        simp
      · exact (hids _ k hk).imp_right fun h => ⟨htaken, h⟩

omit [DecidableEq D] in
theorem taken_cons (status : σ) : taken w status (d :: l) =
    if (w.eventDataItemNotify status d).1 = true then
      d :: taken w (w.eventDataItemNotify status d).2 l
    else taken w (w.eventDataItemNotify status d).2 l := rfl

theorem getLast?_filter_cons : ((d :: l).filter fun x => w.getId x = k).getLast? =
    (l.filter fun x => w.getId x = k).getLast?.or (if w.getId d = k then some d else none) := by
  by_cases hk : w.getId d = k
  · rw [List.filter_cons, if_pos (decide_eq_true hk), List.getLast?_cons, if_pos hk]
    cases (l.filter fun x => w.getId x = k).getLast? with
    | none => rfl
    | some x => rfl
  · rw [List.filter_cons, if_neg (by simpa using hk), if_neg hk, Option.or_none]

/-- The items, one after another: the cache has what has been taken last. -/
theorem foldl_note (hl : ∀ d ∈ l, (w.createNewDataItem (w.getId d)).isSome = true) :
    let a' := l.foldl (fun a d => note w a (some d)) a
    SameClients a.observer a'.observer ∧
      (∀ k, a'.observer.mDataItemCache.lookup k =
        ((taken w a.status l).filter fun x => w.getId x = k).getLast?.or
          (a.observer.mDataItemCache.lookup k)) ∧
      ∀ k, k ∈ a'.dataItemIdsToBeSent → k ∈ a.dataItemIdsToBeSent ∨
        ∃ x ∈ taken w a.status l, w.getId x = k := by
  induction l generalizing a with
  | nil => exact ⟨⟨rfl, rfl, rfl⟩, fun k => rfl, fun k hk => .inl hk⟩
  | cons d l ih =>
    have hitem := notesItem (a := a) (hl d List.mem_cons_self)
    obtain ⟨hsame, hcache, hids⟩ := ih (a := note w a (some d))
      fun d' hd' => hl d' (List.mem_cons_of_mem _ hd')
    rw [hitem.status] at hcache hids
    refine ⟨hitem.same.trans hsame, fun k => ?_, fun k hk => ?_⟩
    · rw [List.foldl_cons, hcache k, hitem.cache k, taken_cons]
      cases htaken : (w.eventDataItemNotify a.status d).1 with
      | false => simp
      | true =>
        rw [if_pos rfl, getLast?_filter_cons, Option.or_assoc]
        by_cases hk : w.getId d = k
        · rw [if_pos ⟨rfl, hk⟩, if_pos hk, Option.some_or]
        · rw [if_neg fun h => hk h.2, if_neg hk, Option.none_or]
    · rw [taken_cons]
      rcases hids k hk with hk | ⟨x, hx, rfl⟩
      · rcases hitem.ids k hk with hk | ⟨htaken, rfl⟩
        · exact .inl hk
        · exact .inr ⟨d, by simp [htaken], rfl⟩
      · refine .inr ⟨x, ?_, rfl⟩
        split
        · exact List.mem_cons_of_mem _ hx
        · exact hx

end Loop

/-! ### The second loop -/

section Deliver

variable {o : Observer C D ν} {s : USet D} {changed : USet D} {clients : List C}

/-- What `sendCachedDataItems` gives a client. -/
def cachedItems (o : Observer C D ν) (s : USet D) : List ν :=
  s.elems.foldl (fun items each =>
    match o.mDataItemCache.lookup each with
    | some item => item :: items
    | none => items) []

/-- If everything is in the cache there is one copy of each item. -/
theorem map_cachedItems (h : ∀ d ∈ s, ∃ v, o.mDataItemCache.lookup d = some v) :
    (cachedItems o s).map some = s.elems.reverse.map o.mDataItemCache.lookup := by
  suffices key : ∀ (l : List D) (acc : List ν),
      (∀ d ∈ l, ∃ v, o.mDataItemCache.lookup d = some v) →
      (l.foldl (fun items each =>
        match o.mDataItemCache.lookup each with
        | some item => item :: items
        | none => items) acc).map some =
        l.reverse.map o.mDataItemCache.lookup ++ acc.map some by
    rw [cachedItems, key s.elems [] h, List.map_nil, List.append_nil]
  intro l
  induction l with
  | nil => exact fun acc _ => rfl
  | cons d l ih =>
    intro acc hl
    obtain ⟨v, hv⟩ := hl d List.mem_cons_self
    rw [List.foldl_cons, hv, ih _ fun d' hd' => hl d' (List.mem_cons_of_mem _ hd'),
      List.reverse_cons, List.map_append, List.map_singleton, hv, List.append_assoc]
    rfl

variable [DecidableEq C]

omit [DecidableEq D] in
theorem given_append (c : C) (out out' : List (ObserverSent C D ν)) :
    given c (out ++ out') = given c out ++ given c out' := List.filterMap_append

/-- One client: it is given its items, and nothing else changes. -/
theorem sent_sendCachedDataItems_client (o : Observer C D ν) (s : USet D) (client : C) :
    (o.sendCachedDataItems s client).mDataItemCache = o.mDataItemCache ∧
      ∃ out, (o.sendCachedDataItems s client).sent = o.sent ++ out ∧ ∀ c, given c out =
        if client = c ∧ cachedItems o s ≠ [] then [cachedItems o s] else [] := by
  have heq : o.sendCachedDataItems s client =
      if (cachedItems o s).isEmpty then o else o.send (.notify client (cachedItems o s)) := rfl
  rw [heq]
  cases hitems : cachedItems o s with
  | nil => exact ⟨rfl, [], (List.append_nil _).symm, fun c => by simp [given]⟩
  | cons item items =>
    refine ⟨rfl, [.notify client (item :: items)], rfl, fun c => ?_⟩
    by_cases hc : client = c
    · simp [given, hc]
    · simp [given, hc]

theorem cachedItems_congr {o' : Observer C D ν} (hcache : o'.mDataItemCache = o.mDataItemCache)
    (hmap : o'.mClientToDataItems = o.mClientToDataItems) (c : C) :
    cachedItems o' (dataItemIdsForThisClient o' changed c) =
      cachedItems o (dataItemIdsForThisClient o changed c) := by
  unfold cachedItems dataItemIdsForThisClient
  simp only [hcache, hmap]

/-- All clients of a list, one after another. -/
theorem sent_foldl_sendCachedDataItems (o : Observer C D ν) (changed : USet D)
    (hnodup : clients.Nodup) :
    ∃ out, (clients.foldl (fun o client =>
        o.sendCachedDataItems (dataItemIdsForThisClient o changed client) client) o).sent =
      o.sent ++ out ∧ ∀ c, given c out =
        if c ∈ clients ∧ cachedItems o (dataItemIdsForThisClient o changed c) ≠ []
        then [cachedItems o (dataItemIdsForThisClient o changed c)] else [] := by
  induction clients generalizing o with
  | nil => exact ⟨[], (List.append_nil _).symm, fun c => by simp [given]⟩
  | cons client clients ih =>
    obtain ⟨hnot, hnodup⟩ := List.nodup_cons.1 hnodup
    obtain ⟨hcache, out, hsent, hgiven⟩ :=
      sent_sendCachedDataItems_client o (dataItemIdsForThisClient o changed client) client
    have hmap := sendCachedDataItems_clients o (dataItemIdsForThisClient o changed client) client
    obtain ⟨out', hsent', hgiven'⟩ :=
      ih (o.sendCachedDataItems (dataItemIdsForThisClient o changed client) client) hnodup
    refine ⟨out ++ out', ?_, fun c => ?_⟩
    · rw [List.foldl_cons, hsent', hsent, List.append_assoc]
    · rw [given_append, hgiven c, hgiven' c, cachedItems_congr hcache hmap]
      by_cases hc : client = c
      · subst hc
        simp [hnot]
      · simp [hc, Ne.symm hc]

theorem mem_clientSet {c : C} : c ∈ clientSet o changed ↔
    ∃ d ∈ changed, c ∈ o.mDataItemToClients.getValSet d := by
  have hfold := foldl_or_iff (Q := fun s : USet C => c ∈ s) (b := ∅)
    (P := fun d => c ∈ o.mDataItemToClients.getValSet d) (l := changed.elems)
    (g := fun s each => s.insertAll (o.mDataItemToClients.getValSet each).elems)
    fun _ _ _ => USet.mem_insertAll
  rw [or_iff_right (USet.not_mem_empty c)] at hfold
  exact hfold

theorem mem_dataItemIdsForThisClient {c : C} {d : D} :
    d ∈ (dataItemIdsForThisClient o changed c).elems.reverse ↔ o.Holds c d ∧ d ∈ changed := by
  unfold dataItemIdsForThisClient
  rw [List.mem_reverse, List.mem_filter, decide_eq_true_iff]
  rfl

end Deliver

section Main

variable {w : DataItems D ν σ} [DecidableEq C]

theorem delivers (w : DataItems D ν σ) (o : Observer C D ν) (status : σ)
    (dlist : {l : List ν // l ≠ []}) : Delivers w o status dlist := by
  obtain ⟨hsame, hcache, hids⟩ := foldl_note (w := w) (a := ⟨o, status, ∅⟩)
    (l := creatable w dlist.1) fun d hd => (List.mem_filter.1 hd).2
  rw [← noted_notify] at hsame hcache hids
  have hvalues : ∀ d ∈ (noted w o status (notify w dlist)).dataItemIdsToBeSent, ∃ item,
      ((taken w status (creatable w dlist.1)).filter fun x => w.getId x = d).getLast? =
          some item ∧
        (noted w o status (notify w dlist)).observer.mDataItemCache.lookup d = some item := by
    intro d hd
    obtain ⟨x, hx, hxd⟩ := (hids d hd).resolve_left (USet.not_mem_empty d)
    have hne : (taken w status (creatable w dlist.1)).filter (fun x => w.getId x = d) ≠ [] :=
      List.ne_nil_of_mem (List.mem_filter.2 ⟨hx, decide_eq_true hxd⟩)
    refine ⟨_, List.getLast?_eq_some_getLast hne, ?_⟩
    rw [hcache d, List.getLast?_eq_some_getLast hne, Option.some_or]
  obtain ⟨out, hsent, hgiven⟩ := sent_foldl_sendCachedDataItems
    (noted w o status (notify w dlist)).observer
    (noted w o status (notify w dlist)).dataItemIdsToBeSent
    (clientSet (noted w o status (notify w dlist)).observer
      (noted w o status (notify w dlist)).dataItemIdsToBeSent).nodup
  refine ⟨⟨out, hsent.trans (by rw [hsame.sent]), fun c => ?_⟩, hvalues⟩
  generalize noted w o status (notify w dlist) = a at *
  have hcached : ∀ d ∈ dataItemIdsForThisClient a.observer a.dataItemIdsToBeSent c,
      ∃ v, a.observer.mDataItemCache.lookup d = some v := by
    intro d hd
    obtain ⟨item, -, hitem⟩ :=
      hvalues d (mem_dataItemIdsForThisClient.1 (List.mem_reverse.2 hd)).2
    exact ⟨item, hitem⟩
  have hitems := map_cachedItems hcached
  have hholds : ∀ d, a.observer.Holds c d ↔ o.Holds c d := by
    intro d
    unfold Holds
    rw [hsame.clients]
  have hnotified : (c ∈ (clientSet a.observer a.dataItemIdsToBeSent).elems ∧
      cachedItems a.observer (dataItemIdsForThisClient a.observer a.dataItemIdsToBeSent c) ≠ []) ↔
      o.Notified a.dataItemIdsToBeSent c := by
    refine and_congr ?_ ?_
    · rw [← hsame.items]
      exact mem_clientSet
    · rw [ne_eq, ← List.map_eq_nil_iff (f := some), hitems, List.map_eq_nil_iff,
        List.eq_nil_iff_forall_not_mem, not_forall_not]
      simp only [mem_dataItemIdsForThisClient, hholds, and_comm]
  refine ⟨fun hnot => ?_, fun hyes => ⟨_, ?_, fun d => ?_, _, ?_, hitems⟩⟩
  · rw [hgiven c, if_neg fun h => hnot (hnotified.1 h)]
  · exact List.nodup_reverse.2 (dataItemIdsForThisClient _ _ c).nodup
  · rw [mem_dataItemIdsForThisClient, hholds]
  · rw [hgiven c, if_pos (hnotified.2 hyes)]

/-- **Notifying the clients.**  The items are delivered, and the cache is updated with `NULL`. -/
theorem notify_nulls (w : DataItems D ν σ) (o : Observer C D ν) (status : σ)
    (dlist : {l : List ν // l ≠ []}) :
    ¬ NotifiesRight w o status dlist ∧ Delivers w o status dlist := by
  refine ⟨fun h => h.noNull ?_, delivers w o status dlist⟩
  unfold notify
  exact List.mem_append_left _ (List.mem_replicate.2
    ⟨fun hnil => dlist.2 (List.eq_nil_of_length_eq_zero hnil), rfl⟩)

/-- Items that are numbers with the ids below 10; `SystemStatus` takes all of them. -/
def numbers : DataItems ℕ (ℕ × ℕ) Unit where
  getId := Prod.fst
  createNewDataItem d := if d < 10 then some (d, 0) else none
  copy dst src := (src, decide (dst ≠ src))
  eventDataItemNotify _ _ := (true, ())
  copy_value _ _ := rfl

/-- One item: the vector begins with a `NULL`. -/
theorem notify_one_null :
    notify numbers ⟨[(3, 7)], List.cons_ne_nil _ _⟩ = [none, some (3, 7)] ∧
      ¬ NotifiesRight numbers (init ∅ : Observer ℕ ℕ (ℕ × ℕ)) ()
        ⟨[(3, 7)], List.cons_ne_nil _ _⟩ := by
  have hvector : notify numbers ⟨[(3, 7)], List.cons_ne_nil _ _⟩ = [none, some (3, 7)] := rfl
  refine ⟨hvector, fun h => h.noNull ?_⟩
  rw [hvector]
  exact List.mem_cons_self

end Main

end Observer

end GpsHal
