import GpsHal.Geofence.Adapter

/-!
# `GeofenceAdapter` : the two maps over whole runs

The maps of the store stay inverse to each other, and the geofences stay as the last successful
commands have left them, as long as each answer that changes the store meets a condition.  Between
an answer and the next, a geofence may be in `mGeofences` only: its client has been removed and the
engine has not answered yet.

## Main definitions

* `GeofenceAdapter.Keeps` : the condition on each event.
* `GeofenceAdapter.Invariant` : what holds after each event that meets it.

## Main results

* `GeofenceAdapter.store_consistent` : the maps are consistent whenever no request is under way.
-/

namespace GpsHal

namespace GeofenceAdapter

variable (s : GeofenceAdapter)

/-- A geofence may be saved: its client is there, the hardware id is free, and no geofence is
saved under the key. -/
structure Fresh (key : GeofenceKey) (hwId : BitVec 32) : Prop where
  client : s.mClientData key.client = true
  hwId : s.store.mGeofences.find hwId = none
  key : ∀ hwId' object, s.store.mGeofences.find hwId' = some object → object.key ≠ key

/-- A key and a hardware id belong together: neither is in `mGeofenceIds` with another one. -/
def Linked (key : GeofenceKey) (hwId : BitVec 32) : Prop :=
  ∀ key' hwId', s.store.mGeofenceIds.find key' = some hwId' → (key' = key ↔ hwId' = hwId)

/-- What an answer to an item has to find if the engine has succeeded. -/
def ItemKeeps (m : GeofenceMsg) (i : ℕ) (hwId : BitVec 32) : Prop :=
  match m.command with
  | .addGeofences => s.Fresh (m.keyAt i) hwId
  | .removeGeofences | .pauseGeofences | .resumeGeofences | .modifyGeofences =>
    s.Linked (m.keyAt i) hwId

/-- When the geofence of a removed client is removed, no key has its hardware id any more; if that
fails, the geofence there, if any, is a known one. -/
def StoppedKeeps (hwId : BitVec 32) (err : LocationError) : Prop :=
  if err = .SUCCESS then ∀ key, s.store.mGeofenceIds.find key ≠ some hwId
  else ∀ object, s.store.mGeofences.find hwId = some object →
    s.store.mGeofenceIds.find object.key = some hwId

/-- The condition on an event.  A callback of an item comes before the arrays of its command are
deleted.  A geofence that is added again after a restart is not paused, and no command has changed
it in the meantime. -/
def Keeps : GeofenceEvent → Prop
  | .addClient _ | .removeClient _ | .command _ _ | .engineUp => True
  | .call n _ => ∀ b, s.batches[n]? = some b → b.responses = []
  | .answer n i err hwId => ∀ b, s.batches[n]? = some b → b.responses = [] ∧
      (err = .SUCCESS → s.ItemKeeps b.toGeofenceMsg i ((b.phases i).hwId.getD hwId))
  | .restarted object err hwId => err = .SUCCESS →
      s.Fresh object.key hwId ∧ object.paused = false ∧ s.expected object.key = some object
  | .clientStopped hwId err => s.StoppedKeeps hwId err

/-- A key in `mGeofenceIds` has its geofence; a geofence has its key there, or it has no key at all
and the engine has been asked to remove it. -/
structure Invariant : Prop where
  ids : ∀ key hwId, s.store.mGeofenceIds.find key = some hwId →
    s.mClientData key.client = true ∧ ∃ object, s.store.mGeofences.find hwId = some object ∧
      object.key = key ∧ s.expected key = some object
  objects : ∀ hwId object, s.store.mGeofences.find hwId = some object →
    s.store.mGeofenceIds.find object.key = some hwId ∨
      s.store.mGeofenceIds.find object.key = none ∧ hwId ∈ s.removals

variable {s}

theorem invariant_init : init.Invariant where
  ids _ _ h := nomatch h
  objects _ _ h := nomatch h

namespace Invariant

variable (h : s.Invariant)
include h

/-- A geofence whose hardware id no key has is not known any more. -/
theorem ids_eq_none {hwId : BitVec 32} {object : GeofenceObject}
    (hobject : s.store.mGeofences.find hwId = some object)
    (hunknown : ∀ key, s.store.mGeofenceIds.find key ≠ some hwId) :
    s.store.mGeofenceIds.find object.key = none ∧ hwId ∈ s.removals :=
  (h.objects hwId object hobject).resolve_left (hunknown object.key)

theorem consistent (hremovals : s.removals = []) : s.Consistent := by
  have hobjects : ∀ hwId object, s.store.mGeofences.find hwId = some object →
      s.store.mGeofenceIds.find object.key = some hwId := by
    intro hwId object hobject
    refine (h.objects hwId object hobject).resolve_right ?_
    rintro ⟨-, hmem⟩
    rw [hremovals] at hmem
    cases hmem
  have hids : ∀ hwId object, s.store.mGeofences.find hwId = some object →
      s.mClientData object.key.client = true ∧ s.expected object.key = some object := by
    intro hwId object hobject
    obtain ⟨hclient, object', hobject', -, hexpected⟩ := h.ids _ _ (hobjects hwId object hobject)
    obtain rfl : object = object' := Option.some.inj (hobject.symm.trans hobject')
    exact ⟨hclient, hexpected⟩
  constructor
  · intro key hwId
    constructor
    · intro hkey
      obtain ⟨-, object, hobject, hobjectKey, -⟩ := h.ids key hwId hkey
      exact ⟨object, hobject, hobjectKey⟩
    · rintro ⟨object, hobject, rfl⟩
      exact hobjects hwId object hobject
  · exact fun hwId object hobject => (hids hwId object hobject).1
  · exact fun hwId object hobject => (hids hwId object hobject).2

/-! ### Changes of the store -/

/-- A geofence is saved. -/
theorem save {key : GeofenceKey} {hwId : BitVec 32} {options : GeofenceOption}
    {info : GeofenceInfo} (expected : GeofenceKey → Option GeofenceObject)
    (hfresh : s.Fresh key hwId)
    (hkey : expected key = some (GeofenceStore.newObject key options info))
    (hothers : ∀ key', key' ≠ key → expected key' = s.expected key') :
    Invariant
      { s with
        store := s.store.saveGeofenceItem key.client key.id hwId options info
        expected := expected } := by
  constructor
  · intro key' hwId' hfind
    rw [GeofenceStore.mGeofenceIds_saveGeofenceItem, OrdMap.find_insert] at hfind
    rw [GeofenceStore.mGeofences_saveGeofenceItem, OrdMap.find_insert]
    split_ifs at hfind with hk
    · obtain rfl := hk
      obtain rfl := Option.some.inj hfind
      exact ⟨hfresh.client, _, if_pos rfl, rfl, hkey⟩
    · obtain ⟨hclient, object, hobject, hobjectKey, hexpected⟩ := h.ids key' hwId' hfind
      have hne : hwId' ≠ hwId := by
        rintro rfl
        rw [hfresh.hwId] at hobject
        cases hobject
      refine ⟨hclient, object, ?_, hobjectKey, ?_⟩
      · rw [if_neg hne, hobject]
      · exact (hothers key' hk).trans hexpected
  · intro hwId' object hfind
    rw [GeofenceStore.mGeofences_saveGeofenceItem, OrdMap.find_insert] at hfind
    rw [GeofenceStore.mGeofenceIds_saveGeofenceItem, OrdMap.find_insert]
    split_ifs at hfind with hhwId
    · obtain rfl := hhwId
      obtain rfl := Option.some.inj hfind
      exact .inl (if_pos rfl)
    · rw [if_neg (hfresh.key hwId' object hfind)]
      exact h.objects hwId' object hfind

/-- The geofence of a hardware id is changed, and what is expected of its key in the same way. -/
theorem updateItem {key : GeofenceKey} {hwId : BitVec 32} {f : GeofenceObject → GeofenceObject}
    (hlinked : s.Linked key hwId) (hf : ∀ object, (f object).key = object.key) :
    Invariant
      { s with
        store := s.store.updateItem hwId f
        expected := Function.update s.expected key ((s.expected key).map f) } := by
  constructor
  · intro key' hwId' hfind
    rw [GeofenceStore.mGeofenceIds_updateItem] at hfind
    have hiff := hlinked key' hwId' hfind
    obtain ⟨hclient, object, hobject, hobjectKey, hexpected⟩ := h.ids key' hwId' hfind
    refine ⟨hclient, ?_⟩
    rw [GeofenceStore.find_updateItem]
    by_cases hk : key' = key
    · obtain rfl := hk
      refine ⟨f object, ?_, (hf object).trans hobjectKey, ?_⟩
      · rw [if_pos (hiff.1 rfl), hobject, Option.map_some]
      · show Function.update s.expected key' _ key' = _
        rw [Function.update_self, hexpected, Option.map_some]
    · refine ⟨object, ?_, hobjectKey, ?_⟩
      · rw [if_neg fun hhwId => hk (hiff.2 hhwId), hobject]
      · show Function.update s.expected key _ key' = _
        rw [Function.update_of_ne hk, hexpected]
  · intro hwId' object hfind
    rw [GeofenceStore.find_updateItem] at hfind
    rw [GeofenceStore.mGeofenceIds_updateItem]
    split_ifs at hfind with hhwId
    · obtain ⟨object', hobject', rfl⟩ := Option.map_eq_some_iff.1 hfind
      rw [hf]
      exact h.objects hwId' object' hobject'
    · exact h.objects hwId' object hfind

/-- The geofence of a hardware id is removed. -/
theorem removeItem {key : GeofenceKey} {hwId : BitVec 32} (hlinked : s.Linked key hwId) :
    Invariant
      { s with
        store := s.store.removeGeofenceItem hwId
        expected := Function.update s.expected key none } := by
  by_cases hkey : s.store.mGeofenceIds.find key = some hwId
  · obtain ⟨-, object, hobject, rfl, -⟩ := h.ids key hwId hkey
    rw [GeofenceStore.removeGeofenceItem_of_find _ hobject hkey]
    constructor
    · intro key' hwId' hfind
      rw [OrdMap.find_erase] at hfind
      split_ifs at hfind with hk
      obtain ⟨hclient, object', hobject', hobjectKey, hexpected⟩ := h.ids key' hwId' hfind
      refine ⟨hclient, object', ?_, hobjectKey, ?_⟩
      · rw [OrdMap.find_erase, if_neg fun hhwId => hk ((hlinked key' hwId' hfind).2 hhwId), hobject']
      · show Function.update s.expected object.key none key' = _
        rw [Function.update_of_ne hk, hexpected]
    · intro hwId' object' hfind
      rw [OrdMap.find_erase] at hfind
      split_ifs at hfind with hhwId
      rw [OrdMap.find_erase]
      rcases h.objects hwId' object' hfind with hids | ⟨hids, hmem⟩
      · have hne : object'.key ≠ object.key := fun hk =>
          hhwId ((hlinked object'.key hwId' hids).1 hk)
        exact .inl ((if_neg hne).trans hids)
      · refine .inr ⟨?_, hmem⟩
        split_ifs
        · rfl
        · exact hids
  · -- the key has no hardware id, and no key has this one
    have hnone : s.store.mGeofenceIds.find key = none := by
      rw [Option.eq_none_iff_forall_ne_some]
      intro hwId' hfind
      obtain rfl := (hlinked key hwId' hfind).1 rfl
      exact hkey hfind
    have hunknown : ∀ key', s.store.mGeofenceIds.find key' ≠ some hwId := by
      intro key' hfind
      obtain rfl := (hlinked key' hwId hfind).2 rfl
      exact hkey hfind
    rw [GeofenceStore.removeGeofenceItem_of_unknown _ fun object hobject =>
      (h.ids_eq_none hobject hunknown).1]
    constructor
    · intro key' hwId' hfind
      obtain ⟨hclient, object, hobject, hobjectKey, hexpected⟩ := h.ids key' hwId' hfind
      have hne : key' ≠ key := by
        rintro rfl
        rw [hnone] at hfind
        cases hfind
      refine ⟨hclient, object, hobject, hobjectKey, ?_⟩
      show Function.update s.expected key none key' = _
      rw [Function.update_of_ne hne, hexpected]
    · exact h.objects

/-- A successful item. -/
theorem onItemAnswer {m : GeofenceMsg} {i : ℕ} {err : LocationError} {hwId : BitVec 32}
    (hkeeps : err = .SUCCESS → s.ItemKeeps m i hwId) : (s.onItemAnswer m i err hwId).Invariant := by
  unfold GeofenceAdapter.onItemAnswer
  split_ifs with herr
  · have hitem := hkeeps herr
    unfold ItemKeeps at hitem
    unfold GeofenceStore.onSuccess GeofenceMsg.intend
    cases hc : m.command with
    | addGeofences =>
      rw [hc] at hitem
      refine h.save _ hitem (Function.update_self ..) fun key' hne => ?_
      exact Function.update_of_ne hne ..
    | removeGeofences =>
      rw [hc] at hitem
      exact h.removeItem hitem
    | pauseGeofences | resumeGeofences | modifyGeofences =>
      rw [hc] at hitem
      exact h.updateItem hitem fun _ => rfl
  · exact h

/-- The answer to a geofence that is added again. -/
theorem onRestarted {object : GeofenceObject} {err : LocationError} {hwId : BitVec 32}
    (hkeeps : err = .SUCCESS →
      s.Fresh object.key hwId ∧ object.paused = false ∧ s.expected object.key = some object) :
    (s.onRestarted object err hwId).Invariant := by
  unfold GeofenceAdapter.onRestarted
  split_ifs with herr
  · obtain ⟨hfresh, hpaused, hexpected⟩ := hkeeps herr
    refine h.save s.expected hfresh ?_ fun _ _ => rfl
    rw [hexpected]
    obtain ⟨key, breachMask, responsiveness, dwellTime, latitude, longitude, radius, paused⟩ := object
    obtain rfl : paused = false := hpaused
    rfl
  · exact h

/-- The answer to the removal of a geofence whose client was removed. -/
theorem onClientStopped {hwId : BitVec 32} {err : LocationError}
    (hkeeps : s.StoppedKeeps hwId err) :
    ({ s with removals := s.removals.erase hwId }.onClientStopped hwId err).Invariant := by
  unfold GeofenceAdapter.onClientStopped
  unfold StoppedKeeps at hkeeps
  split_ifs at hkeeps ⊢ with herr
  · constructor
    · intro key hwId' hfind
      obtain ⟨hclient, object, hobject, hobjectKey, hexpected⟩ := h.ids key hwId' hfind
      refine ⟨hclient, object, ?_, hobjectKey, hexpected⟩
      have hne : hwId' ≠ hwId := by
        rintro rfl
        exact hkeeps key hfind
      exact OrdMap.find_erase.trans ((if_neg hne).trans hobject)
    · intro hwId' object hfind
      rw [show (setStore _ _).store.mGeofences = s.store.mGeofences.erase hwId from rfl,
        OrdMap.find_erase] at hfind
      split_ifs at hfind with hne
      refine (h.objects hwId' object hfind).imp id fun hremoved => ⟨hremoved.1, ?_⟩
      exact (List.mem_erase_of_ne hne).2 hremoved.2
  · constructor
    · exact h.ids
    · intro hwId' object hfind
      by_cases hne : hwId' = hwId
      · obtain rfl := hne
        exact .inl (hkeeps object hfind)
      · refine (h.objects hwId' object hfind).imp id fun hremoved => ⟨hremoved.1, ?_⟩
        exact (List.mem_erase_of_ne hne).2 hremoved.2

/-- After a restart both maps are empty, or there was nothing to restart. -/
theorem restartGeofences : s.restartGeofences.Invariant := by
  unfold GeofenceAdapter.restartGeofences
  split_ifs
  · exact h
  · constructor
    · exact fun _ _ hfind => nomatch hfind
    · exact fun _ _ hfind => nomatch hfind

end Invariant

/-! ### The removal of a client -/

/-- `s'` is what is left of `s` after the entries `l` of the client have been stopped. -/
structure Stopped (client : ℕ) (l : List (GeofenceKey × BitVec 32)) (s s' : GeofenceAdapter) :
    Prop where
  mGeofences : s'.store.mGeofences = s.store.mGeofences
  mClientData : s'.mClientData = s.mClientData
  expected : s'.expected = s.expected
  ids : ∀ key, s'.store.mGeofenceIds.find key =
    if key.client = client ∧ key ∈ l.map Prod.fst then none else s.store.mGeofenceIds.find key
  removals : ∀ e, e.1.client = client → e ∈ l → e.2 ∈ s'.removals
  kept : ∀ hwId ∈ s.removals, hwId ∈ s'.removals

theorem stopped_foldl (client : ℕ) (l : List (GeofenceKey × BitVec 32)) (s : GeofenceAdapter) :
    Stopped client l s (l.foldl
      (fun s e => if client = e.1.client then s.stopGeofence e.1 e.2 else s) s) := by
  induction l generalizing s with
  | nil =>
    exact ⟨rfl, rfl, rfl, fun _ => (if_neg (by simp)).symm, fun _ _ he => (nomatch he), fun _ h => h⟩
  | cons e l ih =>
    rw [List.foldl_cons]
    split_ifs with hclient
    · have h := ih (s.stopGeofence e.1 e.2)
      refine ⟨h.mGeofences, h.mClientData, h.expected, fun key => ?_, fun e' hc he => ?_, ?_⟩
      · rw [h.ids, show (s.stopGeofence e.1 e.2).store.mGeofenceIds =
          s.store.mGeofenceIds.erase e.1 from rfl, OrdMap.find_erase]
        by_cases hk : key = e.1
        · simp [hk, hclient]
        · simp [hk]
      · rcases List.mem_cons.1 he with rfl | he
        · exact h.kept e'.2 (List.mem_append_right _ List.mem_cons_self)
        · exact h.removals e' hc he
      · exact fun hwId hmem => h.kept hwId (List.mem_append_left _ hmem)
    · have h := ih s
      refine ⟨h.mGeofences, h.mClientData, h.expected, fun key => ?_, fun e' hc he => ?_, h.kept⟩
      · have hiff : key.client = client ∧ key ∈ (e :: l).map Prod.fst ↔
            key.client = client ∧ key ∈ l.map Prod.fst := by
          refine and_congr_right fun hc => ?_
          rw [List.map_cons, List.mem_cons]
          refine or_iff_right ?_
          rintro rfl
          exact hclient hc.symm
        rw [h.ids, if_congr hiff rfl rfl]
      · rcases List.mem_cons.1 he with rfl | he
        · exact absurd hc.symm hclient
        · exact h.removals e' hc he

/-- No key of the client is left, and the engine has been asked to remove its geofences. -/
theorem Invariant.removeClient (h : s.Invariant) (client : ℕ) :
    ((s.stopClientSessions client).setClient client false).Invariant := by
  have hstop := stopped_foldl client s.store.mGeofenceIds.entries s
  change Stopped _ _ s (s.stopClientSessions client) at hstop
  have hids : ∀ key, (s.stopClientSessions client).store.mGeofenceIds.find key =
      if key.client = client then none else s.store.mGeofenceIds.find key := by
    intro key
    rw [hstop.ids]
    by_cases hc : key.client = client
    · rw [if_pos hc]
      split_ifs with hmem
      · rfl
      · rw [OrdMap.find_eq_none]
        exact fun hwId he => hmem ⟨hc, List.mem_map_of_mem (f := Prod.fst) he⟩
    · rw [if_neg hc, if_neg fun hmem => hc hmem.1]
  constructor
  · intro key hwId hfind
    change (s.stopClientSessions client).store.mGeofenceIds.find key = some hwId at hfind
    rw [hids] at hfind
    split_ifs at hfind with hc
    obtain ⟨hclient, hobject⟩ := h.ids key hwId hfind
    change Function.update (s.stopClientSessions client).mClientData client false key.client = true ∧
      ∃ object, (s.stopClientSessions client).store.mGeofences.find hwId = some object ∧
        object.key = key ∧ (s.stopClientSessions client).expected key = some object
    rw [Function.update_of_ne hc, hstop.mClientData, hstop.mGeofences, hstop.expected]
    exact ⟨hclient, hobject⟩
  · intro hwId object hfind
    change (s.stopClientSessions client).store.mGeofences.find hwId = some object at hfind
    rw [hstop.mGeofences] at hfind
    change (s.stopClientSessions client).store.mGeofenceIds.find object.key = some hwId ∨
      (s.stopClientSessions client).store.mGeofenceIds.find object.key = none ∧
        hwId ∈ (s.stopClientSessions client).removals
    rw [hids]
    rcases h.objects hwId object hfind with hkey | ⟨hnone, hmem⟩
    · by_cases hc : object.key.client = client
      · rw [if_pos hc]
        exact .inr ⟨rfl, hstop.removals (object.key, hwId) hc (OrdMap.find_eq_some.1 hkey)⟩
      · rw [if_neg hc]
        exact .inl hkey
    · rw [hnone, ite_self]
      exact .inr ⟨rfl, hstop.kept hwId hmem⟩

/-! ### Runs -/

/-- An event that meets its condition keeps the invariant. -/
theorem Invariant.step {s s' : GeofenceAdapter} {e : GeofenceEvent} (h : s.Invariant)
    (hk : s.Keeps e) (hst : s.step e = some s') : s'.Invariant := by
  cases e with
  | addClient client =>
    obtain rfl := Option.some.inj hst
    refine ⟨fun key hwId hfind => ?_, h.objects⟩
    obtain ⟨hclient, hobject⟩ := h.ids key hwId hfind
    refine ⟨?_, hobject⟩
    show Function.update s.mClientData client true key.client = true
    by_cases hc : key.client = client
    · rw [hc, Function.update_self]
    · rw [Function.update_of_ne hc, hclient]
  | removeClient client =>
    obtain rfl := Option.some.inj hst
    exact h.removeClient client
  | command m memory =>
    obtain rfl := Option.some.inj hst
    exact ⟨h.ids, h.objects⟩
  | call n i =>
    cases hb : s.batches[n]? with
    | none => simp [GeofenceAdapter.step, hb] at hst
    | some b =>
      simp only [GeofenceAdapter.step, hb, Option.map_eq_some_iff] at hst
      obtain ⟨b', -, rfl⟩ := hst
      exact ⟨h.ids, h.objects⟩
  | answer n i err hwId =>
    cases hb : s.batches[n]? with
    | none => simp [GeofenceAdapter.step, hb] at hst
    | some b =>
      simp only [GeofenceAdapter.step, hb, Option.map_eq_some_iff] at hst
      obtain ⟨b', -, rfl⟩ := hst
      have hitem := h.onItemAnswer (hk b hb).2
      exact ⟨hitem.ids, hitem.objects⟩
  | engineUp =>
    obtain rfl := Option.some.inj hst
    exact h.restartGeofences
  | restarted object err hwId =>
    simp only [GeofenceAdapter.step, Option.ite_none_right_eq_some, Option.some.injEq] at hst
    obtain ⟨-, rfl⟩ := hst
    refine Invariant.onRestarted (s := { s with restarts := s.restarts.erase object })
      ⟨h.ids, h.objects⟩ fun herr => ?_
    obtain ⟨hfresh, hobject⟩ := hk herr
    exact ⟨⟨hfresh.client, hfresh.hwId, hfresh.key⟩, hobject⟩
  | clientStopped hwId err =>
    simp only [GeofenceAdapter.step, Option.ite_none_right_eq_some, Option.some.injEq] at hst
    obtain ⟨-, rfl⟩ := hst
    exact h.onClientStopped hk

/-- **The two maps of the store.**  After a run whose events meet their condition, whenever no
answer of the engine is outstanding, the maps are inverse to each other, no geofence is left without
its client, and each is as the last successful command on it has left it. -/
theorem store_consistent {s : GeofenceAdapter} {es : List GeofenceEvent} (h : system.Run Keeps es s)
    (hquiet : s.Quiescent) : s.Consistent := by
  have hinv : s.Invariant :=
    h.invariant (I := Invariant) invariant_init fun _ _ _ h hk hst => h.step hk hst
  exact hinv.consistent hquiet.2.1

/-- A client adds one geofence. -/
def addOne : GeofenceMsg := ⟨.addGeofences, 1, [5], some [⟨16, 3, 0, 0⟩], some [⟨32, 0, 0, 7⟩]⟩

/-- The client pauses it. -/
def pauseOne : GeofenceMsg := ⟨.pauseGeofences, 1, [5], none, none⟩

/-- The geofence, as it is saved. -/
def addedObject (paused : Bool) : GeofenceObject := ⟨⟨1, 5⟩, 3, 0, 0, 0, 0, 7, paused⟩

/-- A geofence is added, and added again after a restart. -/
theorem store_consistent_restarted :
    ∃ s, system.Run Keeps
        [.addClient 1, .command addOne fun _ => .SUCCESS, .call 0 0, .answer 0 0 .SUCCESS 9, .engineUp,
          .restarted (addedObject false) .SUCCESS 10] s ∧
      s.Consistent := by
  have h₁ : system.Run Keeps [.addClient 1] _ := .snoc .nil trivial rfl
  have h₂ := h₁.snoc (e := GeofenceEvent.command addOne fun _ => .SUCCESS) trivial rfl
  have h₃ := h₂.snoc (e := GeofenceEvent.call 0 0) (fun b hb => by cases hb; rfl) rfl
  have h₄ := h₃.snoc (e := GeofenceEvent.answer 0 0 .SUCCESS 9)
    (fun b hb => by cases hb; exact ⟨rfl, fun _ => ⟨rfl, rfl, nofun⟩⟩) rfl
  have h₅ := h₄.snoc (e := GeofenceEvent.engineUp) trivial rfl
  have h₆ := h₅.snoc (e := GeofenceEvent.restarted (addedObject false) .SUCCESS 10)
    (fun _ => ⟨⟨rfl, rfl, nofun⟩, rfl, rfl⟩) rfl
  refine ⟨_, h₆, store_consistent h₆ ⟨rfl, rfl, fun b hb i hwId hphase => ?_⟩⟩
  obtain rfl := List.mem_singleton.1 hb
  cases i <;> cases hphase

/-- A geofence that is paused when the engine restarts is saved as one that is not. -/
theorem pause_lost_by_restart :
    ∃ s, system.Run System.Free
        [.addClient 1, .command addOne fun _ => .SUCCESS, .call 0 0, .answer 0 0 .SUCCESS 9,
          .command pauseOne fun _ => .SUCCESS, .call 1 0, .answer 1 0 .SUCCESS 0, .engineUp,
          .restarted (addedObject true) .SUCCESS 10] s ∧
      s.Quiescent ∧ ¬ s.Consistent := by
  refine ⟨_, System.run_foldlM rfl, ⟨rfl, rfl, fun b hb i hwId hphase => ?_⟩, fun h => ?_⟩
  · rcases List.mem_pair.1 hb with rfl | rfl <;> cases i <;> cases hphase
  · have hcurrent := h.current 10 (addedObject false) rfl
    cases hcurrent

end GeofenceAdapter

end GpsHal
