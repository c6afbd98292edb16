import GpsHal.Geofence.Store
import GpsHal.Location.GeofenceRemoveAll

/-!
# `GeofenceAdapter::geofenceBreach` : breaches on the way to the clients

The engine reports the hardware ids of the geofences that have been breached.  The adapter sends to
each client the ids under which it has given out the client's own ones, and `beforeGeofenceBreachCb`
of the client keeps those whose mask includes the type of the breach, under the ids of the client.
It calls back whether or not any are left.

## Main definitions

* `BreachClient` : a client as the adapter and its own base class have it.
* `geofenceBreach`, `BreachClient.beforeGeofenceBreachCb` : the two layers.
* `Routed` : what a client is to be given.
* `Fits` : the condition on a client.

## Main results

* `routed_iff` : when every client is given what it is to be given.
-/

namespace GpsHal

/-- `GeofenceBreachNotification`; `count` is the number of the ids. -/
structure GeofenceBreachNotification (L : Type*) where
  ids : List (BitVec 32)
  location : L
  type : GeofenceBreachType
  timestamp : BitVec 64

/-- A client in `mClientData`, with its callback there, and the callback of its own that its base
class has kept.  The dictionary is one that the operations of the base class leave behind. -/
structure BreachClient where
  geofenceBreachCb : Bool
  mGeofenceBreachCallback : Bool
  base : LocationAPIClientBase
  sound : base.GeofencesSound

/-- The mask includes the type. -/
def GeofenceBreachType.In (type : GeofenceBreachType) (mask : BitVec 32) : Prop :=
  type = .ENTER ∧ mask &&& GEOFENCE_BREACH_ENTER_BIT ≠ 0 ∨
    type = .EXIT ∧ mask &&& GEOFENCE_BREACH_EXIT_BIT ≠ 0

instance (type : GeofenceBreachType) (mask : BitVec 32) : Decidable (type.In mask) :=
  inferInstanceAs (Decidable (_ ∨ _))

theorem GeofenceBreachType.not_in_zero (type : GeofenceBreachType) : ¬ type.In 0 := by
  simp [GeofenceBreachType.In]

/-! ### The array that the adapter fills -/

/-- `clientIds` with the `index` that is to be written next. -/
structure ClientIds where
  clientIds : ℕ → BitVec 32
  index : BitVec 32

namespace ClientIds

def empty : ClientIds := ⟨fun _ => 0, 0⟩

variable (a : ClientIds)

/-- `clientIds[index++] = id` -/
def put (id : BitVec 32) : ClientIds :=
  ⟨Function.update a.clientIds a.index.toNat id, a.index + 1⟩

/-- The entries below the index. -/
def ids : List (BitVec 32) := (List.range a.index.toNat).map a.clientIds

/-- The index after `n` entries wraps around at `2 ^ 32`; this many of them are behind it. -/
def overwritten (n : ℕ) : ℕ := n / 4294967296 * 4294967296

theorem length_ids : a.ids.length = a.index.toNat := by
  unfold ids
  rw [List.length_map, List.length_range]

theorem toNat_index_foldl_put (l : List (BitVec 32)) :
    (l.foldl put empty).index.toNat = l.length % 4294967296 := by
  induction l using List.reverseRecOn with
  | nil => rfl
  | append_singleton l id ih =>
    rw [List.foldl_append, List.foldl_cons, List.foldl_nil, List.length_append,
      List.length_singleton]
    simp only [put, BitVec.toNat_add, ih]
    change (l.length % 4294967296 + 1) % 4294967296 = _
    omega

/-- The entries that are left are those that came after the last wrap. -/
theorem ids_foldl_put (l : List (BitVec 32)) :
    (l.foldl put empty).ids = l.drop (overwritten l.length) := by
  induction l using List.reverseRecOn with
  | nil => rfl
  | append_singleton l id ih =>
    have hindex := toNat_index_foldl_put l
    have hindex' := toNat_index_foldl_put (l ++ [id])
    rw [List.length_append, List.length_singleton] at hindex'
    by_cases hwrap : (l.length + 1) % 4294967296 = 0
    · -- the index is back at 0
      rw [hwrap] at hindex'
      have hids : ((l ++ [id]).foldl put empty).ids = [] :=
        List.eq_nil_of_length_eq_zero (by rw [length_ids, hindex'])
      rw [hids, List.drop_eq_nil_of_le]
      rw [List.length_append, List.length_singleton, overwritten]
      omega
    · have hnext : (l.length + 1) % 4294967296 = l.length % 4294967296 + 1 := by omega
      have hsame : overwritten (l.length + 1) = overwritten l.length := by
        unfold overwritten
        omega
      have hle : overwritten l.length ≤ l.length := by
        unfold overwritten
        omega
      have hids : ((l ++ [id]).foldl put empty).ids = (l.foldl put empty).ids ++ [id] := by
        unfold ids
        rw [hindex', hnext, List.range_succ, List.map_append, List.map_singleton,
          List.foldl_append, List.foldl_cons, List.foldl_nil, hindex]
        simp only [put, hindex]
        congr 1
        · refine List.map_congr_left fun j hj => ?_
          rw [Function.update_of_ne]
          exact (List.mem_range.1 hj).ne
        · rw [Function.update_self]
      rw [hids, ih, List.length_append, List.length_singleton, hsame, List.drop_append_of_le_length
        hle]

end ClientIds

/-! ### The two layers -/

section Layers

variable {L : Type*} (store : GeofenceStore) (hwIds : List (BitVec 32)) (location : L)
  (breachType : GeofenceBreachType) (timestamp : BitVec 64)

/-- The loop over the hardware ids for one client. -/
def clientIds (client : ℕ) : ClientIds :=
  hwIds.foldl (fun a hwId =>
    match store.getGeofenceKeyFromHwId hwId with
    | some key => if key.client = client then a.put key.id else a
    | none => a) ClientIds.empty

/-- What the callbacks in `mClientData` are called with: each of them once at most. -/
def geofenceBreach (mClientData : OrdMap ℕ BreachClient) :
    OrdMap ℕ (GeofenceBreachNotification L) :=
  mClientData.filterMap fun client data =>
    let a := clientIds store hwIds client
    if 0 < a.index ∧ data.geofenceBreachCb = true then
      some ⟨a.ids, location, breachType, timestamp⟩
    else none

/-- What the client's own callback is called with. -/
def BreachClient.beforeGeofenceBreachCb (c : BreachClient)
    (geofenceBreachNotification : GeofenceBreachNotification L) :
    Option (GeofenceBreachNotification L) :=
  if c.mGeofenceBreachCallback then
    some { geofenceBreachNotification with
      ids := c.base.beforeGeofenceBreachCb geofenceBreachNotification.type
        geofenceBreachNotification.ids }
  else none

/-- What the client's own callback is called with after an event. -/
def breachCallback (mClientData : OrdMap ℕ BreachClient) (client : ℕ) :
    Option (GeofenceBreachNotification L) :=
  (mClientData.find client).bind fun c =>
    ((geofenceBreach store hwIds location breachType timestamp mClientData).find client).bind
      c.beforeGeofenceBreachCb

end Layers

/-! ### What a client is to be given -/

section Spec

variable (store : GeofenceStore) (hwIds : List (BitVec 32)) (breachType : GeofenceBreachType)

/-- The sessions of the client's own geofences among the hardware ids, in their order. -/
def ownSessions (client : ℕ) : List (BitVec 32) :=
  hwIds.filterMap fun hwId => ((store.mGeofences.find hwId).filter fun object =>
    object.key.client = client).map fun object => object.key.id

/-- The id under which the client knows a session, if its mask includes the type. -/
def BreachClient.breachedId (c : BreachClient) (session : BitVec 32) : Option (BitVec 32) :=
  match c.base.mGeofenceBiDict.mExtMap.find session with
  | some mask =>
    if breachType.In mask then c.base.mGeofenceBiDict.mBackwardMap.find session else none
  | none => none

/-- The ids of the client that have been breached. -/
def BreachClient.breachedIds (c : BreachClient) (client : ℕ) : List (BitVec 32) :=
  (ownSessions store hwIds client).filterMap (c.breachedId breachType)

/-- The client's callback is given the ids that have been breached, and nothing if there are
none. -/
def Routed {L : Type*} (location : L) (timestamp : BitVec 64)
    (mClientData : OrdMap ℕ BreachClient) (client : ℕ) (c : BreachClient) : Prop :=
  breachCallback store hwIds location breachType timestamp mClientData client =
    if c.geofenceBreachCb = true ∧ c.mGeofenceBreachCallback = true ∧
        c.breachedIds store hwIds breachType client ≠ [] then
      some ⟨c.breachedIds store hwIds breachType client, location, breachType, timestamp⟩
    else none

/-- The condition on a client with a callback: if any of its geofences are sent to it, the mask of
one of them includes the type.  The geofences whose places in the array have been written again are
not sent; their masks do not include it. -/
def Fits (client : ℕ) (c : BreachClient) : Prop :=
  c.geofenceBreachCb = true → c.mGeofenceBreachCallback = true →
    let own := ownSessions store hwIds client
    let n := ClientIds.overwritten own.length
    (∀ session ∈ own.take n, ¬ breachType.In (c.base.mGeofenceBiDict.getExtBySession session)) ∧
      (own.drop n ≠ [] →
        ∃ session ∈ own.drop n, breachType.In (c.base.mGeofenceBiDict.getExtBySession session))

end Spec

section Routing

variable {L : Type*} {store : GeofenceStore} {hwIds : List (BitVec 32)} {location : L}
  {breachType : GeofenceBreachType} {timestamp : BitVec 64} {mClientData : OrdMap ℕ BreachClient}
  {client : ℕ} {c : BreachClient} {session : BitVec 32}

theorem clientIds_eq (store : GeofenceStore) (hwIds : List (BitVec 32)) (client : ℕ) :
    clientIds store hwIds client = (ownSessions store hwIds client).foldl .put .empty := by
  unfold clientIds ownSessions
  rw [List.foldl_filterMap]
  congr 1
  funext a hwId
  unfold GeofenceStore.getGeofenceKeyFromHwId
  cases store.mGeofences.find hwId with
  | none => rfl
  | some object =>
    by_cases hclient : object.key.client = client
    · simp [Option.filter, hclient]
    · simp [Option.filter, hclient]

/-- A session is known to the client if its mask includes anything. -/
theorem breachedId_eq_some (hin : breachType.In (c.base.mGeofenceBiDict.getExtBySession session)) :
    c.breachedId breachType session = some (c.base.mGeofenceBiDict.getId session) := by
  have hsound := c.sound.ext_iff session
  unfold BiDict.getExtBySession at hin
  unfold BreachClient.breachedId BiDict.getId
  cases hext : c.base.mGeofenceBiDict.mExtMap.find session with
  | none =>
    rw [hext] at hin
    exact absurd hin breachType.not_in_zero
  | some mask =>
    rw [hext] at hin hsound
    obtain ⟨id, hid⟩ := Option.isSome_iff_exists.1 hsound.symm
    have hmask : breachType.In mask := hin
    simp only [if_pos hmask, hid, Option.getD_some]

theorem breachedId_eq_none
    (hin : ¬ breachType.In (c.base.mGeofenceBiDict.getExtBySession session)) :
    c.breachedId breachType session = none := by
  unfold BiDict.getExtBySession at hin
  unfold BreachClient.breachedId
  cases hext : c.base.mGeofenceBiDict.mExtMap.find session with
  | none => rfl
  | some mask =>
    rw [hext] at hin
    exact if_neg hin

/-- What the client's base class leaves of the sessions. -/
theorem beforeGeofenceBreachCb_eq (c : BreachClient) (sessions : List (BitVec 32)) :
    c.base.beforeGeofenceBreachCb breachType sessions =
      sessions.filterMap (c.breachedId breachType) := by
  change (sessions.filter fun session =>
    decide (breachType.In (c.base.mGeofenceBiDict.getExtBySession session))).map _ = _
  induction sessions with
  | nil => rfl
  | cons session sessions ih =>
    by_cases hin : breachType.In (c.base.mGeofenceBiDict.getExtBySession session)
    · rw [List.filterMap_cons_some (breachedId_eq_some hin), ← ih, List.filter_cons,
        if_pos (decide_eq_true hin), List.map_cons]
    · rw [List.filterMap_cons_none (breachedId_eq_none hin), ← ih, List.filter_cons,
        if_neg (by simpa using hin)]

theorem filterMap_breachedId_ne_nil {sessions : List (BitVec 32)} :
    sessions.filterMap (c.breachedId breachType) ≠ [] ↔
      ∃ session ∈ sessions, breachType.In (c.base.mGeofenceBiDict.getExtBySession session) := by
  rw [ne_eq, List.filterMap_eq_nil_iff]
  push Not
  refine exists_congr fun session => and_congr_right fun _ => ⟨fun h => ?_, fun hin => ?_⟩
  · by_contra hin
    exact h (breachedId_eq_none hin)
  · rw [breachedId_eq_some hin]
    exact Option.some_ne_none _

/-- The adapter sends the sessions that are left in the array, if there are any. -/
theorem breachCallback_eq (hc : mClientData.find client = some c) :
    breachCallback store hwIds location breachType timestamp mClientData client =
      let own := ownSessions store hwIds client
      let sent := own.drop (ClientIds.overwritten own.length)
      if c.geofenceBreachCb = true ∧ c.mGeofenceBreachCallback = true ∧ sent ≠ [] then
        some ⟨sent.filterMap (c.breachedId breachType), location, breachType, timestamp⟩
      else none := by
  have hids := ClientIds.ids_foldl_put (ownSessions store hwIds client)
  have hlength := ClientIds.length_ids ((ownSessions store hwIds client).foldl .put .empty)
  rw [hids] at hlength
  unfold breachCallback geofenceBreach
  rw [OrdMap.find_filterMap, hc]
  simp only [Option.bind_some, clientIds_eq, hids]
  have hpos : 0 < ((ownSessions store hwIds client).foldl ClientIds.put .empty).index ↔
      (ownSessions store hwIds client).drop
        (ClientIds.overwritten (ownSessions store hwIds client).length) ≠ [] := by
    rw [← List.length_pos_iff, hlength]
    rfl
  simp only [hpos]
  cases hcb : c.geofenceBreachCb with
  | false => simp
  | true =>
    by_cases hnil : (ownSessions store hwIds client).drop
        (ClientIds.overwritten (ownSessions store hwIds client).length) = []
    · simp [hnil]
    · simp only [ne_eq, hnil, not_false_eq_true, and_self, if_true, Option.bind_some, true_and,
        and_true, BreachClient.beforeGeofenceBreachCb, beforeGeofenceBreachCb_eq]

theorem routed_iff_fits (hc : mClientData.find client = some c) :
    Routed store hwIds breachType location timestamp mClientData client c ↔
      Fits store hwIds breachType client c := by
  unfold Routed Fits BreachClient.breachedIds
  rw [breachCallback_eq hc]
  dsimp only
  generalize ownSessions store hwIds client = own
  generalize ClientIds.overwritten own.length = n
  have hsplit : own.filterMap (c.breachedId breachType) =
      (own.take n).filterMap (c.breachedId breachType) ++
        (own.drop n).filterMap (c.breachedId breachType) := by
    rw [← List.filterMap_append, List.take_append_drop]
  cases hcb : c.geofenceBreachCb with
  | false => simp
  | true =>
    cases hcallback : c.mGeofenceBreachCallback with
    | false => simp
    | true =>
      have hnone : (∀ session ∈ own.take n,
          ¬ breachType.In (c.base.mGeofenceBiDict.getExtBySession session)) ↔
          (own.take n).filterMap (c.breachedId breachType) = [] := by
        rw [← not_iff_not, ← ne_eq, filterMap_breachedId_ne_nil]
        push Not
        rfl
      simp only [true_and, forall_const, hnone, ← filterMap_breachedId_ne_nil, hsplit]
      generalize hearlier : (own.take n).filterMap (c.breachedId breachType) = earlier
      generalize hsent : (own.drop n).filterMap (c.breachedId breachType) = sent
      by_cases hnil : own.drop n = []
      · -- nothing is sent
        obtain rfl : sent = [] := by rw [← hsent, hnil, List.filterMap_nil]
        simp [hnil]
      · rw [if_pos hnil]
        constructor
        · intro h
          split_ifs at h with hsome
          injection h with h
          injection h with h
          have hearlier : earlier = [] := List.append_left_eq_self.1 h.symm
          rw [hearlier, List.nil_append] at hsome
          exact ⟨hearlier, fun _ => hsome⟩
        · rintro ⟨rfl, h⟩
          rw [List.nil_append, if_pos (h hnil)]

/-- **Breach routing.**  Every client with a callback is given exactly the ids of its geofences that
have been breached, if there are any, exactly if each client to which any geofences are sent has one
whose mask includes the type. -/
theorem routed_iff (store : GeofenceStore) (hwIds : List (BitVec 32))
    (breachType : GeofenceBreachType) (location : L) (timestamp : BitVec 64)
    (mClientData : OrdMap ℕ BreachClient) :
    (∀ client c, mClientData.find client = some c →
      Routed store hwIds breachType location timestamp mClientData client c) ↔
      ∀ client c, mClientData.find client = some c → Fits store hwIds breachType client c :=
  forall₃_congr fun _ _ hc => routed_iff_fits hc

/-- A client of one geofence, which is to report that it is entered. -/
def enterClient : BreachClient where
  geofenceBreachCb := true
  mGeofenceBreachCallback := true
  base := (LocationAPIClientBase.addedGeofence 3).foldl LocationAPIClientBase.step .initial
  sound := LocationAPIClientBase.geofencesSound_of_run (LocationAPIClientBase.run_addedGeofence 3)

/-- The geofence is left: the client is called back with no id. -/
theorem empty_breach :
    let store := GeofenceStore.empty.saveGeofenceItem 1 3 5 ⟨16, 1, 0, 0⟩ ⟨32, 0, 0, 0⟩
    let mClientData := (∅ : OrdMap ℕ BreachClient).insert 1 enterClient
    breachCallback store [5] () .EXIT 0 mClientData 1 = some ⟨[], (), .EXIT, 0⟩ ∧
      ¬ Routed store [5] .EXIT () 0 mClientData 1 enterClient := by
  intro store mClientData
  have hcall : breachCallback store [5] () .EXIT 0 mClientData 1 = some ⟨[], (), .EXIT, 0⟩ := by
    have hown : ownSessions store [5] 1 = [3] := rfl
    rw [breachCallback_eq (c := enterClient) rfl, hown]
    exact if_pos ⟨rfl, rfl, List.cons_ne_nil _ _⟩
  have hids : enterClient.breachedIds store [5] .EXIT 1 = [] := rfl
  refine ⟨hcall, fun h => ?_⟩
  unfold Routed at h
  rw [hcall, if_neg fun h => h.2.2 hids] at h
  cases h

end Routing

end GpsHal
