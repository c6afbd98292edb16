import GpsHal.Location.ClientBase

/-!
# `LocationAPIClientBase` : the dictionaries of sessions and geofences

The dictionaries stay consistent as long as every session that an operation stores is new: it is
not 0, and no other id has it.  The operations on sessions check that an id is not in use; the one
that adds geofences does not.

## Main results

* `LocationAPIClientBase.session_map_iff` : the dictionaries are valid in every state of a run
  exactly if every step of it stores new sessions only, and no lookup changes a dictionary.
-/

namespace GpsHal

namespace LocationAPIClientBase

open BiDict

variable {s t : LocationAPIClientBase}

/-- Both dictionaries are valid. -/
structure Consistent (s : LocationAPIClientBase) : Prop where
  session : s.mSessionBiDict.Valid
  geofence : s.mGeofenceBiDict.Valid

/-- The entity of a session knows the session. -/
def EntitiesMatch (d : BiDict SessionEntity) : Prop :=
  ∀ session entity, d.mExtMap.find session = some entity → entity.session = session

/-- Both dictionaries are valid and the entities know their sessions. -/
structure Sound (s : LocationAPIClientBase) : Prop extends Consistent s where
  entities : EntitiesMatch s.mSessionBiDict

/-! ### What does not touch the dictionaries -/

/-- `t` has the dictionaries of `s`. -/
structure SameDicts (s t : LocationAPIClientBase) : Prop where
  session_eq : t.mSessionBiDict = s.mSessionBiDict
  geofence_eq : t.mGeofenceBiDict = s.mGeofenceBiDict

theorem SameDicts.sound (h : SameDicts s t) (hs : s.Sound) : t.Sound := by
  refine ⟨⟨?_, ?_⟩, ?_⟩
  · rw [h.session_eq]
    exact hs.session
  · rw [h.geofence_eq]
    exact hs.geofence
  · rw [h.session_eq]
    exact hs.entities

theorem SameDicts.refl (s : LocationAPIClientBase) : SameDicts s s := ⟨rfl, rfl⟩

theorem SameDicts.trans {u : LocationAPIClientBase} (h : SameDicts s t) (h' : SameDicts t u) :
    SameDicts s u :=
  ⟨h'.session_eq.trans h.session_eq, h'.geofence_eq.trans h.geofence_eq⟩

@[simp] theorem issueStart_mSessionBiDict (call : SessionCall) (session : BitVec 32)
    (request : Option ClientRequest) :
    (s.issueStart call session request).mSessionBiDict = s.mSessionBiDict := by
  unfold issueStart
  split <;> rfl

@[simp] theorem issueStart_mGeofenceBiDict (call : SessionCall) (session : BitVec 32)
    (request : Option ClientRequest) :
    (s.issueStart call session request).mGeofenceBiDict = s.mGeofenceBiDict := by
  unfold issueStart
  split <;> rfl

@[simp] theorem issue_mSessionBiDict (call : SessionCall) (session : BitVec 32)
    (request : Option ClientRequest) :
    (s.issue call session request).mSessionBiDict = s.mSessionBiDict := rfl

@[simp] theorem issue_mGeofenceBiDict (call : SessionCall) (session : BitVec 32)
    (request : Option ClientRequest) :
    (s.issue call session request).mGeofenceBiDict = s.mGeofenceBiDict := rfl

@[simp] theorem setQueue_mSessionBiDict (t : RequestType) (q : RequestQueue ClientRequest) :
    (s.setQueue t q).mSessionBiDict = s.mSessionBiDict := rfl

@[simp] theorem setQueue_mGeofenceBiDict (t : RequestType) (q : RequestQueue ClientRequest) :
    (s.setQueue t q).mGeofenceBiDict = s.mGeofenceBiDict := rfl

@[simp] theorem pushRequest_mSessionBiDict (t : RequestType) (kind : ClientRequestKind) :
    (s.pushRequest t kind).mSessionBiDict = s.mSessionBiDict := rfl

@[simp] theorem pushRequest_mGeofenceBiDict (t : RequestType) (kind : ClientRequestKind) :
    (s.pushRequest t kind).mGeofenceBiDict = s.mGeofenceBiDict := rfl

@[simp] theorem setSessionBiDict_mSessionBiDict (d : BiDict SessionEntity) :
    (s.setSessionBiDict d).mSessionBiDict = d := rfl

@[simp] theorem setSessionBiDict_mGeofenceBiDict (d : BiDict SessionEntity) :
    (s.setSessionBiDict d).mGeofenceBiDict = s.mGeofenceBiDict := rfl

@[simp] theorem replaceEntity_mSessionBiDict (id : BitVec 32) (entity : SessionEntity) :
    (s.replaceEntity id entity).mSessionBiDict =
      (s.mSessionBiDict.rmById id).set id entity.session entity := rfl

@[simp] theorem replaceEntity_mGeofenceBiDict (id : BitVec 32) (entity : SessionEntity) :
    (s.replaceEntity id entity).mGeofenceBiDict = s.mGeofenceBiDict := rfl

/-- Looking up the entity of an id that is there changes nothing. -/
theorem getEntity_of_hasId {id : BitVec 32} (h : s.mSessionBiDict.hasId id = true) :
    s.getEntity id = ((s.mSessionBiDict.getExtById id).1, s) := by
  simp only [getEntity, getExtById_snd h]
  rfl

theorem sameDicts_startTracking (session : BitVec 32) :
    SameDicts s (s.locAPIStartTracking session).2 := by
  unfold locAPIStartTracking
  split
  · split
    · exact .refl s
    · exact ⟨rfl, rfl⟩
  · exact .refl s

theorem sameDicts_stopTracking : SameDicts s s.locAPIStopTracking := by
  unfold locAPIStopTracking
  split
  · exact ⟨rfl, rfl⟩
  · exact .refl s

theorem sameDicts_updateTrackingOptions : SameDicts s s.locAPIUpdateTrackingOptions := by
  unfold locAPIUpdateTrackingOptions
  split
  · exact ⟨rfl, rfl⟩
  · exact .refl s

theorem sameDicts_niResponse (id : BitVec 32) : SameDicts s (s.locAPIGnssNiResponse id) := by
  unfold locAPIGnssNiResponse
  split
  · exact ⟨rfl, rfl⟩
  · exact .refl s

theorem sameDicts_stopSession (id : BitVec 32) : SameDicts s (s.locAPIStopSession id).2 := by
  unfold locAPIStopSession
  split
  · split
    · rename_i h
      rw [getEntity_of_hasId h]
      dsimp only
      split <;> exact ⟨rfl, rfl⟩
    · exact .refl s
  · exact .refl s

theorem sameDicts_getBatchedLocations (id : BitVec 32) (count : ℕ) :
    SameDicts s (s.locAPIGetBatchedLocations id count).2 := by
  unfold locAPIGetBatchedLocations
  split
  · split
    · rename_i h
      rw [getEntity_of_hasId h]
      dsimp only
      split <;> exact ⟨rfl, rfl⟩
    · exact .refl s
  · exact .refl s

theorem sameDicts_popQueue (t : RequestType) : SameDicts s (s.popQueue t).2 := ⟨rfl, rfl⟩

theorem sameDicts_getRequestOfQueue (session : BitVec 32) :
    SameDicts s (s.getRequestOfQueue session).2 := by
  unfold getRequestOfQueue
  split
  · exact sameDicts_popQueue _
  · split
    · exact sameDicts_popQueue _
    · exact .refl s

theorem sameDicts_getRequestBySession (session : BitVec 32) :
    SameDicts s (s.getRequestBySession session).2 := by
  have h := sameDicts_getRequestOfQueue (s := s) session
  unfold getRequestBySession
  split
  · rename_i r t heq
    rw [heq] at h
    exact h
  · rename_i t heq
    rw [heq] at h
    split
    · exact h.trans (sameDicts_popQueue _)
    · exact h

theorem sameDicts_callback (request : ClientRequest) (error : LocationError) :
    SameDicts s (s.callback request error) := ⟨rfl, rfl⟩

theorem sameDicts_collectiveResponse (errors : List LocationError) (sessions : List (BitVec 32)) :
    SameDicts s (s.onCollectiveResponseCb errors sessions) := by
  unfold onCollectiveResponseCb
  split
  · exact ⟨rfl, rfl⟩
  · exact .refl s

/-! ### Removing sessions -/

theorem removeSession_callback (request : ClientRequest) (error : LocationError)
    (id : BitVec 32) :
    (s.callback request error).removeSession id = (s.removeSession id).callback request error := by
  unfold removeSession
  show (if s.mSessionBiDict.hasSession id = true then _ else _) = _
  split <;> rfl

/-- What `onResponse` does: it runs the callback, and may remove the session. -/
theorem onResponse_cases (request : ClientRequest) (error : LocationError) (id : BitVec 32) :
    s.onResponse request error id = s.callback request error ∨
      s.onResponse request error id = (s.removeSession id).callback request error := by
  unfold onResponse
  obtain ⟨kind, number⟩ := request
  have hstop : (if error = .SUCCESS then (s.callback ⟨kind, number⟩ error).removeSession id
      else s.callback ⟨kind, number⟩ error) = s.callback ⟨kind, number⟩ error ∨
      (if error = .SUCCESS then (s.callback ⟨kind, number⟩ error).removeSession id
        else s.callback ⟨kind, number⟩ error) =
        (s.removeSession id).callback ⟨kind, number⟩ error := by
    split
    · exact .inr (removeSession_callback _ _ _)
    · exact .inl rfl
  have hstart : (if error ≠ .SUCCESS then s.removeSession id else s).callback ⟨kind, number⟩ error =
        s.callback ⟨kind, number⟩ error ∨
      (if error ≠ .SUCCESS then s.removeSession id else s).callback ⟨kind, number⟩ error =
        (s.removeSession id).callback ⟨kind, number⟩ error := by
    split
    · exact .inr rfl
    · exact .inl rfl
  cases kind with
  | StartTrackingRequest | StartBatchingRequest => exact hstart
  | StopTrackingRequest | StopBatchingRequest => exact hstop
  | _ => exact .inl rfl

theorem EntitiesMatch.rmBySession {d : BiDict SessionEntity} (h : EntitiesMatch d)
    (session : BitVec 32) : EntitiesMatch (d.rmBySession session) := by
  intro session' entity hf
  rw [BiDict.rmBySession, OrdMap.find_erase] at hf
  split at hf
  · cases hf
  · exact h _ _ hf

theorem EntitiesMatch.rmById {d : BiDict SessionEntity} (h : EntitiesMatch d) (id : BitVec 32) :
    EntitiesMatch (d.rmById id) := by
  intro session' entity hf
  rw [BiDict.rmById, OrdMap.find_erase] at hf
  split at hf
  · cases hf
  · exact h _ _ hf

theorem EntitiesMatch.set {d : BiDict SessionEntity} (h : EntitiesMatch d) (id : BitVec 32)
    {session : BitVec 32} {entity : SessionEntity} (he : entity.session = session) :
    EntitiesMatch (d.set id session entity) := by
  intro session' entity' hf
  rw [BiDict.set, OrdMap.find_insert] at hf
  split at hf
  · rename_i hs
    obtain rfl := Option.some.inj hf
    rw [he, hs]
  · exact h _ _ hf

namespace Sound

theorem rmBySession (hs : s.Sound) {session : BitVec 32}
    (h : s.mSessionBiDict.hasSession session = true) :
    (s.setSessionBiDict (s.mSessionBiDict.rmBySession session)).Sound :=
  ⟨⟨valid_rmBySession hs.session h, hs.geofence⟩, hs.entities.rmBySession session⟩

theorem removeSession (hs : s.Sound) (session : BitVec 32) : (s.removeSession session).Sound := by
  unfold LocationAPIClientBase.removeSession
  split
  · rename_i h
    exact hs.rmBySession h
  · exact hs

theorem onResponse (hs : s.Sound) (request : ClientRequest) (error : LocationError)
    (id : BitVec 32) : (s.onResponse request error id).Sound := by
  rcases onResponse_cases (s := s) request error id with h | h
  · rw [h]
    exact (sameDicts_callback request error).sound hs
  · rw [h]
    exact (sameDicts_callback request error).sound (hs.removeSession id)

theorem onResponseCb (hs : s.Sound) (error : LocationError) (id : BitVec 32) :
    (s.onResponseCb error id).Sound := by
  have h := sameDicts_getRequestBySession (s := s) id
  unfold LocationAPIClientBase.onResponseCb
  split
  · rename_i r t heq
    rw [heq] at h
    exact (h.sound hs).onResponse r error id
  · rename_i t heq
    rw [heq] at h
    exact h.sound hs

theorem completeTrip {acc : List (BitVec 32) × LocationAPIClientBase} (hs : acc.2.Sound)
    (session : BitVec 32) : (completeTrip acc session).2.Sound := by
  unfold LocationAPIClientBase.completeTrip
  split
  · rename_i h
    dsimp only
    split
    · exact hs.rmBySession h
    · exact hs
  · exact hs

theorem beforeBatchingStatusCb (hs : s.Sound) (trips : List (BitVec 32)) :
    (s.beforeBatchingStatusCb trips).2.Sound := by
  unfold LocationAPIClientBase.beforeBatchingStatusCb
  suffices h : ∀ acc : List (BitVec 32) × LocationAPIClientBase, acc.2.Sound →
      (trips.foldl LocationAPIClientBase.completeTrip acc).2.Sound from h ([], s) hs
  induction trips with
  | nil => exact fun acc hacc => hacc
  | cons session trips ih => exact fun acc hacc => ih _ (completeTrip hacc session)

end Sound

/-! ### Geofences -/

theorem valid_removeGeofence {acc : RemovedGeofences} (h : acc.1.Valid) (id : BitVec 32) :
    (removeGeofence acc id).1.Valid := by
  unfold removeGeofence
  dsimp only
  split
  · rename_i hpos
    have hf := find_of_getSession (ne_of_gt hpos)
    have hb : acc.1.hasSession (acc.1.getSession id) = true := by
      rw [hasSession, (h.forward_iff _ _).1 hf]
      rfl
    exact valid_rmBySession h hb
  · exact h

theorem valid_setGeofenceMask {acc : BiDict (BitVec 32) × List (BitVec 32)} (h : acc.1.Valid)
    (x : BitVec 32 × Option (BitVec 32)) : (setGeofenceMask acc x).1.Valid := by
  unfold setGeofenceMask
  dsimp only
  split
  · rename_i hpos
    split
    · exact valid_set_again h (find_of_getSession (ne_of_gt hpos)) _
    · exact h
  · exact h

theorem Sound.removeGeofences (hs : s.Sound) (ids : List (BitVec 32)) :
    (s.locAPIRemoveGeofences ids).Sound := by
  have hloop : ∀ acc : RemovedGeofences, acc.1.Valid → (ids.foldl removeGeofence acc).1.Valid := by
    induction ids with
    | nil => exact fun acc hacc => hacc
    | cons id ids ih => exact fun acc hacc => ih _ (valid_removeGeofence hacc id)
  have hvalid := hloop (s.mGeofenceBiDict, .empty, []) hs.geofence
  unfold locAPIRemoveGeofences
  split
  · dsimp only
    split <;> exact ⟨⟨hs.session, hvalid⟩, hs.entities⟩
  · exact hs

theorem Sound.updateGeofences (hs : s.Sound) (items : List (BitVec 32 × Option (BitVec 32)))
    (request : GeofenceRequest) (call : List (BitVec 32) → GeofenceCall) :
    (s.updateGeofences items request call).Sound := by
  have hloop : ∀ acc : BiDict (BitVec 32) × List (BitVec 32), acc.1.Valid →
      (items.foldl setGeofenceMask acc).1.Valid := by
    induction items with
    | nil => exact fun acc hacc => hacc
    | cons x items ih => exact fun acc hacc => ih _ (valid_setGeofenceMask hacc x)
  have hvalid := hloop (s.mGeofenceBiDict, []) hs.geofence
  unfold LocationAPIClientBase.updateGeofences
  split
  · dsimp only
    split <;> exact ⟨⟨hs.session, hvalid⟩, hs.entities⟩
  · exact hs

/-- Masks are set by `set` only; where there is none to set, the dictionary is left alone. -/
theorem sameDicts_updateGeofences (ids : List (BitVec 32)) (request : GeofenceRequest)
    (call : List (BitVec 32) → GeofenceCall) :
    SameDicts s (s.updateGeofences (ids.map fun id => (id, none)) request call) := by
  have hloop : ∀ acc : BiDict (BitVec 32) × List (BitVec 32),
      ((ids.map fun id => (id, none)).foldl setGeofenceMask acc).1 = acc.1 := by
    induction ids with
    | nil => exact fun acc => rfl
    | cons id ids ih =>
      intro acc
      rw [List.map_cons, List.foldl_cons, ih]
      unfold setGeofenceMask
      dsimp only
      split <;> rfl
  unfold updateGeofences
  split
  · dsimp only
    split <;> exact ⟨rfl, hloop _⟩
  · exact .refl s

/-! ### Storing sessions -/

/-- An update of the session `entity` to a mode stops it and starts another one. -/
def switches (entity : SessionEntity) (sessionMode : BitVec 32) : Bool :=
  decide (entity.sessionMode = SESSION_MODE_ON_FIX) != decide (sessionMode = SESSION_MODE_ON_FIX)

/-- The entity after an update; `session` is the session that a switch has started. -/
def updatedEntity (entity : SessionEntity) (sessionMode session : BitVec 32) : SessionEntity :=
  if switches entity sessionMode then
    if sessionMode = SESSION_MODE_ON_FIX then ⟨entity.id, session, 0, sessionMode⟩
    else ⟨entity.id, 0, session, sessionMode⟩
  else { entity with sessionMode := sessionMode }

theorem updatedEntity_session (entity : SessionEntity) (sessionMode session : BitVec 32) :
    (updatedEntity entity sessionMode session).session =
      if switches entity sessionMode then session else entity.session := by
  unfold updatedEntity switches SessionEntity.session
  by_cases h : sessionMode = SESSION_MODE_ON_FIX <;>
    by_cases h' : entity.sessionMode = SESSION_MODE_ON_FIX <;> simp [h, h']

/-- What an update does to the dictionaries. -/
theorem updateSession_dicts {id : BitVec 32} (sessionMode : BitVec 32) (options : TrackingOptions)
    (session : BitVec 32) (hapi : s.mLocationAPI = true) (h : s.mSessionBiDict.hasId id = true) :
    SameDicts
      (s.replaceEntity id
        (updatedEntity (s.mSessionBiDict.getExtById id).1 sessionMode session))
      (s.locAPIUpdateSessionOptions id sessionMode options session).2 := by
  unfold locAPIUpdateSessionOptions
  rw [if_pos hapi, if_pos h, getEntity_of_hasId h]
  dsimp only
  by_cases hm : sessionMode = SESSION_MODE_ON_FIX <;>
    by_cases he : (s.mSessionBiDict.getExtById id).1.sessionMode = SESSION_MODE_ON_FIX <;>
    simp only [hm, he, if_true, if_false] <;>
    constructor <;> simp [updatedEntity, switches, hm, he]

/-- What starting a session does to the dictionaries. -/
theorem startSession_dicts {id : BitVec 32} (sessionMode : BitVec 32) (options : TrackingOptions)
    (session : BitVec 32) (hapi : s.mLocationAPI = true) (h : s.mSessionBiDict.hasId id = false) :
    ∃ entity : SessionEntity, entity.session = session ∧
      SameDicts (s.setSessionBiDict (s.mSessionBiDict.set id session entity))
        (s.locAPIStartSession id sessionMode options session).2 := by
  unfold locAPIStartSession
  rw [if_pos hapi, if_neg (by rw [h]; exact Bool.false_ne_true)]
  split
  · rename_i hm
    refine ⟨⟨id, session, 0, sessionMode⟩, by simp [SessionEntity.session, hm], ?_⟩
    constructor <;> simp
  · rename_i hm
    refine ⟨⟨id, 0, session, sessionMode⟩, by simp [SessionEntity.session, hm], ?_⟩
    constructor <;> simp

/-- A client without an API, or one that has a session of that id, starts nothing. -/
theorem startSession_refused {id : BitVec 32} (sessionMode : BitVec 32) (options : TrackingOptions)
    (session : BitVec 32)
    (h : ¬ (s.mLocationAPI = true ∧ s.mSessionBiDict.hasId id = false)) :
    (s.locAPIStartSession id sessionMode options session).2 = s := by
  unfold locAPIStartSession
  by_cases hapi : s.mLocationAPI = true
  · have hid : s.mSessionBiDict.hasId id = true := by
      rw [← Bool.not_eq_false]
      exact fun hid => h ⟨hapi, hid⟩
    rw [if_pos hapi, if_pos hid]
  · rw [if_neg hapi]

/-- A client without an API or without a session of that id updates nothing. -/
theorem updateSession_refused {id : BitVec 32} (sessionMode : BitVec 32) (options : TrackingOptions)
    (session : BitVec 32)
    (h : ¬ (s.mLocationAPI = true ∧ s.mSessionBiDict.hasId id = true)) :
    (s.locAPIUpdateSessionOptions id sessionMode options session).2 = s := by
  unfold locAPIUpdateSessionOptions
  by_cases hapi : s.mLocationAPI = true
  · rw [if_pos hapi, if_neg fun hid => h ⟨hapi, hid⟩]
  · rw [if_neg hapi]

/-- The sessions that an operation stores are new: a session that is started is not 0 and no other
id has it, and geofences may be stored. -/
def StoresNew (s : LocationAPIClientBase) : ClientEvent → Prop
  | .locAPIStartSession id _ _ session =>
    s.mLocationAPI = true → s.mSessionBiDict.hasId id = false →
      session ≠ 0 ∧ s.mSessionBiDict.hasSession session = false
  | .locAPIUpdateSessionOptions id sessionMode _ session =>
    s.mLocationAPI = true → s.mSessionBiDict.hasId id = true →
      switches (s.mSessionBiDict.getExtById id).1 sessionMode = true →
        session ≠ 0 ∧ (s.mSessionBiDict.rmById id).hasSession session = false
  | .locAPIAddGeofences items (some sessions) =>
    s.mLocationAPI = true → s.mGeofenceBiDict.Storable (geofenceItems items sessions)
  | _ => True

variable {id : BitVec 32}

theorem find_rmById (d : BiDict SessionEntity) :
    (d.rmById id).mForwardMap.find id = none := by
  rw [rmById, OrdMap.find_erase, if_pos rfl]

/-- Starting a session keeps the dictionaries valid exactly if the session is new. -/
theorem startSession_iff (hs : s.Sound) (sessionMode : BitVec 32) (options : TrackingOptions)
    (session : BitVec 32) :
    (StoresNew s (.locAPIStartSession id sessionMode options session) →
        (s.locAPIStartSession id sessionMode options session).2.Sound) ∧
      ((s.locAPIStartSession id sessionMode options session).2.Consistent →
        StoresNew s (.locAPIStartSession id sessionMode options session)) := by
  by_cases hok : s.mLocationAPI = true ∧ s.mSessionBiDict.hasId id = false
  · obtain ⟨hapi, hid⟩ := hok
    obtain ⟨entity, he, hd⟩ := startSession_dicts sessionMode options session hapi hid
    have hnone : s.mSessionBiDict.mForwardMap.find id = none := by
      simpa [hasId] using hid
    have hiff := valid_set_iff hs.session hnone session entity
    constructor
    · intro h
      exact hd.sound ⟨⟨hiff.2 (h hapi hid), hs.geofence⟩, hs.entities.set id he⟩
    · intro h _ _
      have hv := h.session
      rw [hd.session_eq] at hv
      exact hiff.1 hv
  · rw [startSession_refused sessionMode options session hok]
    exact ⟨fun _ => hs, fun _ hapi hid => absurd ⟨hapi, hid⟩ hok⟩

/-- Updating a session keeps the dictionaries valid exactly if a session that is started is new. -/
theorem updateSession_iff (hs : s.Sound) (sessionMode : BitVec 32) (options : TrackingOptions)
    (session : BitVec 32) :
    (StoresNew s (.locAPIUpdateSessionOptions id sessionMode options session) →
        (s.locAPIUpdateSessionOptions id sessionMode options session).2.Sound) ∧
      ((s.locAPIUpdateSessionOptions id sessionMode options session).2.Consistent →
        StoresNew s (.locAPIUpdateSessionOptions id sessionMode options session)) := by
  by_cases hok : s.mLocationAPI = true ∧ s.mSessionBiDict.hasId id = true
  · obtain ⟨hapi, hid⟩ := hok
    have hd := updateSession_dicts sessionMode options session hapi hid
    obtain ⟨old, hold⟩ := Option.isSome_iff_exists.1 hid
    have hentity := hs.entities _ _ (getExtById_fst hs.session hold)
    have hvalid := valid_rmById hs.session hid
    have hiff := valid_set_iff hvalid (find_rmById s.mSessionBiDict)
      (updatedEntity (s.mSessionBiDict.getExtById id).1 sessionMode session).session
      (updatedEntity (s.mSessionBiDict.getExtById id).1 sessionMode session)
    have hsession := updatedEntity_session (s.mSessionBiDict.getExtById id).1 sessionMode session
    constructor
    · intro h
      refine hd.sound ⟨⟨hiff.2 ?_, hs.geofence⟩, (hs.entities.rmById id).set id rfl⟩
      rw [hsession]
      split
      · rename_i hsw
        exact h hapi hid hsw
      · -- the session stays, and it was the one of the id
        rw [hentity]
        refine ⟨hs.session.ne_zero hold, ?_⟩
        rw [rmById_of_find hold, hasSession, OrdMap.find_erase, if_pos rfl]
        rfl
    · intro h _ _ hsw
      have hv := h.session
      rw [hd.session_eq] at hv
      have hnew := hiff.1 hv
      rw [hsession, if_pos hsw] at hnew
      exact hnew
  · rw [updateSession_refused sessionMode options session hok]
    exact ⟨fun _ => hs, fun _ hapi hid => absurd ⟨hapi, hid⟩ hok⟩

/-- Adding geofences keeps the dictionaries valid exactly if they may be stored. -/
theorem addGeofences_iff (hs : s.Sound) (items : List (BitVec 32 × GeofenceOption))
    (sessions : Option (List (BitVec 32))) :
    (StoresNew s (.locAPIAddGeofences items sessions) →
        (s.locAPIAddGeofences items sessions).2.Sound) ∧
      ((s.locAPIAddGeofences items sessions).2.Consistent →
        StoresNew s (.locAPIAddGeofences items sessions)) := by
  cases hapi : s.mLocationAPI with
  | false =>
    have hsame : (s.locAPIAddGeofences items sessions).2 = s := by
      simp [locAPIAddGeofences, hapi]
    rw [hsame]
    refine ⟨fun _ => hs, fun _ => ?_⟩
    cases sessions with
    | none => trivial
    | some sessions => exact fun h => absurd (hapi.symm.trans h) Bool.false_ne_true
  | true =>
    cases sessions with
    | none =>
      refine ⟨fun _ => ?_, fun _ => trivial⟩
      unfold locAPIAddGeofences
      rw [if_pos hapi]
      dsimp only
      split
      · exact SameDicts.sound (s := s) ⟨rfl, rfl⟩ hs
      · exact hs
    | some sessions =>
      have hd : SameDicts
          (s.setGeofenceBiDict (s.mGeofenceBiDict.setAll (geofenceItems items sessions)))
          (s.locAPIAddGeofences items (some sessions)).2 := by
        unfold locAPIAddGeofences
        rw [if_pos hapi]
        dsimp only
        split <;> exact ⟨rfl, rfl⟩
      have hiff := valid_setAll_iff hs.geofence (geofenceItems items sessions)
      constructor
      · intro h
        exact hd.sound ⟨⟨hs.session, hiff.2 (h hapi)⟩, hs.entities⟩
      · intro h _
        have hv := h.geofence
        rw [hd.geofence_eq] at hv
        exact hiff.1 hv

/-! ### Runs -/

theorem sound_initial : initial.Sound :=
  ⟨⟨valid_empty, valid_empty⟩, fun _ _ h => by cases h⟩

theorem sound_step (hs : s.Sound) {e : ClientEvent} (he : StoresNew s e) : (s.step e).Sound := by
  cases e with
  | locAPISetCallbacks created => exact SameDicts.sound (s := s) ⟨rfl, rfl⟩ hs
  | locAPIStartTracking session => exact (sameDicts_startTracking session).sound hs
  | locAPIStopTracking => exact sameDicts_stopTracking.sound hs
  | locAPIUpdateTrackingOptions => exact sameDicts_updateTrackingOptions.sound hs
  | locAPIStartSession id sessionMode options session =>
    exact (startSession_iff hs sessionMode options session).1 he
  | locAPIStopSession id => exact (sameDicts_stopSession id).sound hs
  | locAPIUpdateSessionOptions id sessionMode options session =>
    exact (updateSession_iff hs sessionMode options session).1 he
  | locAPIGetBatchedLocations id count => exact (sameDicts_getBatchedLocations id count).sound hs
  | locAPIAddGeofences items sessions => exact (addGeofences_iff hs items sessions).1 he
  | locAPIRemoveGeofences ids => exact hs.removeGeofences ids
  | locAPIModifyGeofences items =>
    show (s.locAPIModifyGeofences items).Sound
    unfold locAPIModifyGeofences
    exact hs.updateGeofences _ _ _
  | locAPIPauseGeofences ids => exact hs.updateGeofences _ _ _
  | locAPIResumeGeofences ids mask => exact hs.updateGeofences _ _ _
  | locAPIRemoveAllGeofences => exact hs.removeGeofences _
  | locAPIGnssNiResponse id => exact (sameDicts_niResponse id).sound hs
  | responseCb error id => exact hs.onResponseCb error id
  | collectiveResponseCb errors sessions =>
    exact (sameDicts_collectiveResponse errors sessions).sound hs
  | geofenceBreachCb type sessions => exact hs
  | tripsCompletedCb trips => exact hs.beforeBatchingStatusCb trips

theorem storesNew_of_consistent (hs : s.Sound) {e : ClientEvent} (h : (s.step e).Consistent) :
    StoresNew s e := by
  cases e with
  | locAPIStartSession id sessionMode options session =>
    exact (startSession_iff hs sessionMode options session).2 h
  | locAPIUpdateSessionOptions id sessionMode options session =>
    exact (updateSession_iff hs sessionMode options session).2 h
  | locAPIAddGeofences items sessions => exact (addGeofences_iff hs items sessions).2 h
  | _ => trivial

/-- An operation that looks sessions or geofences up without storing or removing any. -/
def isLookup : ClientEvent → Bool
  | .locAPIStopSession _ | .locAPIGetBatchedLocations _ _ | .locAPIPauseGeofences _
  | .locAPIResumeGeofences _ none | .geofenceBreachCb _ _ => true
  | _ => false

theorem sameDicts_of_isLookup {e : ClientEvent} (he : isLookup e = true) :
    SameDicts s (s.step e) := by
  cases e with
  | locAPIStopSession id => exact sameDicts_stopSession id
  | locAPIGetBatchedLocations id count => exact sameDicts_getBatchedLocations id count
  | locAPIPauseGeofences ids => exact sameDicts_updateGeofences ids _ _
  | locAPIResumeGeofences ids mask =>
    cases mask with
    | none => exact sameDicts_updateGeofences ids _ _
    | some mask => cases he
  | geofenceBreachCb type sessions => exact .refl s
  | _ => cases he

/-- The dictionaries are valid in every state of a run exactly if every step of it stores new
sessions only; an operation that looks something up leaves the dictionaries alone. -/
theorem session_map_iff (es : List ClientEvent) (s : LocationAPIClientBase) :
    (system.Always Consistent es s ↔ system.Run StoresNew es s) ∧
      ∀ (t : LocationAPIClientBase) (e : ClientEvent), isLookup e = true →
        SameDicts t (t.step e) := by
  refine ⟨System.always_iff_run (J := Sound) sound_initial (fun s => Sound.toConsistent)
    (fun s e t hs he hst => ?_) (fun s e t hs he hst ht => ?_), fun t e => sameDicts_of_isLookup⟩
  · rw [hst]
    exact sound_step hs he
  · rw [hst] at ht
    exact he (storesNew_of_consistent hs ht)

/-- There is no interface for tracking, so `LocationAPI` rejects the session of the id 1. -/
def rejectedStart : List ClientEvent :=
  [.locAPISetCallbacks true, .locAPIStartSession 1 SESSION_MODE_ON_FIX .zero 0]

/-- A session that is rejected is stored all the same. -/
theorem rejected_session_stored :
    ∃ s, system.Run System.Free rejectedStart s ∧ s.mSessionBiDict.mForwardMap.find 1 = some 0 ∧
      ¬ s.Consistent := by
  refine ⟨rejectedStart.foldl step initial, System.run_foldl ⟨trivial, trivial, trivial⟩,
    by decide, fun h => ?_⟩
  exact absurd h.session.backward_zero (by decide)

end LocationAPIClientBase

end GpsHal
