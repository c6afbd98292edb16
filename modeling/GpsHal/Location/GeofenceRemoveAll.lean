import GpsHal.Location.ClientSessions
import GpsHal.Location.GeofenceArrays
import Mathlib.Data.List.Perm.Subperm

/-!
# `LocationAPIClientBase` : all geofences are removed

`locAPIRemoveAllGeofences` collects the sessions of all geofences and hands them to
`locAPIRemoveGeofences`, which takes ids.  So it removes the geofences whose ids are sessions, perhaps
of other geofences.

## Main definitions

* `LocationAPIClientBase.RemovesAll` : all geofences are removed, with one call.

## Main results

* `LocationAPIClientBase.removesAll_iff` : this is so exactly if the ids and the sessions are the same
  numbers, in a dictionary that is valid.
-/

namespace GpsHal

/-- A map of a list onto itself that takes no element to one behind it is the identity. -/
theorem eq_self_of_not_mem_rest {α : Type*} {l : List α} {g : α → α} (hg : (l.map g).Nodup)
    (hmem : ∀ x ∈ l, g x ∈ l) (hrest : ∀ pre x post, l = pre ++ x :: post → g x ∉ post) :
    ∀ x ∈ l, g x = x := by
  suffices h : ∀ pre post, l = pre ++ post → ∀ x ∈ pre, g x = x from
    h l [] (List.append_nil l).symm
  intro pre
  induction pre using List.reverseRecOn with
  | nil => exact fun _ _ x hx => absurd hx List.not_mem_nil
  | append_singleton pre y ih =>
    intro post hl x hx
    have hl' : l = pre ++ y :: post := by
      rw [hl, List.append_assoc]
      rfl
    have hpre := ih (y :: post) hl'
    rcases List.mem_append.mp hx with hx | hx
    · exact hpre x hx
    · obtain rfl := List.mem_singleton.mp hx
      have hxl : x ∈ l := hl' ▸ List.mem_append_right _ List.mem_cons_self
      have hgx := hmem x hxl
      rw [hl'] at hgx
      rcases List.mem_append.mp hgx with hgx | hgx
      · -- an element before it is its own image
        refine List.inj_on_of_nodup_map hg ?_ hxl (hpre _ hgx)
        exact hl' ▸ List.mem_append_left _ hgx
      · exact (List.mem_cons.mp hgx).resolve_right (hrest pre x post hl')

namespace BiDict

variable {d : BiDict (BitVec 32)} {id session : BitVec 32}

theorem mem_getAllSessions : session ∈ d.getAllSessions ↔ d.hasSession session = true := by
  unfold getAllSessions hasSession
  rw [Option.isSome_iff_exists]
  constructor
  · intro h
    obtain ⟨e, he, rfl⟩ := List.mem_map.mp h
    exact ⟨e.2, OrdMap.find_eq_some.mpr he⟩
  · rintro ⟨v, hv⟩
    exact List.mem_map.mpr ⟨_, OrdMap.find_eq_some.mp hv, rfl⟩

theorem nodup_getAllSessions : d.getAllSessions.Nodup :=
  List.pairwise_map.mpr (d.mBackwardMap.sorted.imp fun h => ne_of_lt h)

theorem eq_empty_of_find {V : Type*} {m : OrdMap (BitVec 32) V} (h : ∀ k, m.find k = none) :
    m = ∅ := by
  refine OrdMap.ext (List.eq_nil_iff_forall_not_mem.mpr fun e he => ?_)
  exact OrdMap.find_eq_none.mp (h e.1) e.2 he

theorem eq_empty (hforward : ∀ id, d.mForwardMap.find id = none)
    (hbackward : ∀ session, d.mBackwardMap.find session = none)
    (hext : ∀ session, d.mExtMap.find session = none) : d = empty := by
  obtain ⟨forward, backward, ext⟩ := d
  obtain rfl : forward = ∅ := eq_empty_of_find hforward
  obtain rfl : backward = ∅ := eq_empty_of_find hbackward
  obtain rfl : ext = ∅ := eq_empty_of_find hext
  rfl

theorem hasId_of_known (h : d.Known id) : d.hasId id = true := by
  unfold hasId
  rw [find_of_getSession (ne_of_gt h)]
  rfl

theorem known_of_find (hd : d.Valid) (h : d.mForwardMap.find id = some session) : d.Known id := by
  unfold Known getSession
  rw [h]
  refine Nat.pos_of_ne_zero fun hzero => hd.ne_zero h (BitVec.eq_of_toNat_eq ?_)
  exact hzero.trans rfl

/-- Ids that are known, all different, and none of whose sessions is taken, are removed one by one. -/
theorem undisturbed_of_valid {ids : List (BitVec 32)} (hids : ids.Nodup)
    (hback : ∀ id ∈ ids, d.getId (d.getSession id) = id) :
    ∀ {taken}, (∀ id ∈ ids, d.getSession id ∉ taken) →
      d.Undisturbed taken ids ∧
        ((∀ id ∈ ids, d.Known id) → LocationAPIClientBase.filedIds d taken ids = ids) := by
  induction ids with
  | nil => exact fun _ => ⟨trivial, fun _ => rfl⟩
  | cons id ids ih =>
    intro taken htaken
    obtain ⟨hid, hids⟩ := List.nodup_cons.mp hids
    have hback' : ∀ i ∈ ids, d.getId (d.getSession i) = i :=
      fun i hi => hback i (List.mem_cons_of_mem _ hi)
    have hfiled : d.filed taken (d.getSession id) = id :=
      (filed_of_not_mem (htaken id List.mem_cons_self)).trans (hback id List.mem_cons_self)
    have hne : ∀ i ∈ ids, d.getSession i ≠ d.getSession id := by
      intro i hi heq
      have hsame : i = id := by rw [← hback' i hi, heq, hback id List.mem_cons_self]
      exact hid (hsame ▸ hi)
    unfold Undisturbed LocationAPIClientBase.filedIds
    by_cases hknown : d.Known id
    · obtain ⟨hund, hrest⟩ := @ih hids hback' (d.getSession id :: taken) fun i hi hmem =>
        (List.mem_cons.mp hmem).elim (hne i hi) (htaken i (List.mem_cons_of_mem _ hi))
      rw [if_pos hknown, if_pos hknown, hfiled]
      refine ⟨⟨fun hmem => hid (List.mem_filter.mp hmem).1, hund⟩, fun hall => ?_⟩
      rw [hrest fun i hi => hall i (List.mem_cons_of_mem _ hi)]
    · rw [if_neg hknown, if_neg hknown]
      obtain ⟨hund, -⟩ := @ih hids hback' taken fun i hi => htaken i (List.mem_cons_of_mem _ hi)
      exact ⟨hund, fun hall => absurd (hall id List.mem_cons_self) hknown⟩

/-- What goes with known ids whose sessions are all different. -/
theorem filedIds_of_nodup {ids : List (BitVec 32)} (hknown : ∀ id ∈ ids, d.Known id)
    (hsessions : (ids.map d.getSession).Nodup) :
    ∀ {taken}, (∀ id ∈ ids, d.getSession id ∉ taken) →
      LocationAPIClientBase.filedIds d taken ids = ids.map fun id => d.getId (d.getSession id) := by
  induction ids with
  | nil => exact fun _ => rfl
  | cons id ids ih =>
    intro taken htaken
    obtain ⟨hid, hrest⟩ := List.nodup_cons.mp hsessions
    unfold LocationAPIClientBase.filedIds
    rw [if_pos (hknown id List.mem_cons_self), List.map_cons]
    congr 1
    · exact filed_of_not_mem (htaken id List.mem_cons_self)
    · refine ih (fun i hi => hknown i (List.mem_cons_of_mem _ hi)) hrest fun i hi hmem => ?_
      rcases List.mem_cons.mp hmem with heq | hmem
      · exact hid (heq ▸ List.mem_map_of_mem hi)
      · exact htaken i (List.mem_cons_of_mem _ hi) hmem

/-- No removal takes away an id that is known and comes later. -/
theorem Undisturbed.not_mem {pre post : List (BitVec 32)} :
    ∀ {taken}, d.Undisturbed taken (pre ++ id :: post) → (∀ i ∈ pre ++ id :: post, d.Known i) →
      ((pre ++ id :: post).map d.getSession).Nodup →
      (∀ i ∈ pre ++ id :: post, d.getSession i ∉ taken) → d.getId (d.getSession id) ∉ post := by
  induction pre with
  | nil =>
    intro taken h hknown _ htaken
    rw [List.nil_append] at h hknown htaken
    unfold Undisturbed at h
    rw [if_pos (hknown id List.mem_cons_self)] at h
    have hfiled : d.filed taken (d.getSession id) = d.getId (d.getSession id) :=
      filed_of_not_mem (htaken id List.mem_cons_self)
    rw [hfiled] at h
    intro hmem
    exact h.1 (List.mem_filter.mpr
      ⟨hmem, decide_eq_true (hknown _ (List.mem_cons_of_mem _ hmem))⟩)
  | cons i pre ih =>
    intro taken h hknown hsessions htaken
    rw [List.cons_append] at h hknown hsessions htaken
    unfold Undisturbed at h
    rw [if_pos (hknown i List.mem_cons_self)] at h
    obtain ⟨hi, hrest⟩ := List.nodup_cons.mp hsessions
    refine ih h.2 (fun j hj => hknown j (List.mem_cons_of_mem _ hj)) hrest fun j hj hmem => ?_
    rcases List.mem_cons.mp hmem with heq | hmem
    · exact hi (heq ▸ List.mem_map_of_mem hj)
    · exact htaken j (List.mem_cons_of_mem _ hj) hmem

/-- Every id is the session of a geofence, and every session the id of one. -/
structure SameNumbers (d : BiDict (BitVec 32)) : Prop where
  valid : d.Valid
  same : ∀ n, d.hasId n = d.hasSession n

/-- Every id is a session, the sessions are known ids, and their sessions are all sessions again, from
which they are found. -/
structure Paired (d : BiDict (BitVec 32)) : Prop where
  mem : ∀ id, d.hasId id = true → id ∈ d.getAllSessions
  known : ∀ id ∈ d.getAllSessions, d.Known id
  back : ∀ id ∈ d.getAllSessions, d.getId (d.getSession id) = id
  perm : (d.getAllSessions.map d.getSession).Perm d.getAllSessions

theorem SameNumbers.paired (h : d.SameNumbers) : d.Paired := by
  have hmem (n : BitVec 32) : n ∈ d.getAllSessions ↔ d.hasId n = true := by
    rw [mem_getAllSessions, h.same]
  have hfind {id : BitVec 32} (hid : id ∈ d.getAllSessions) :
      d.mForwardMap.find id = some (d.getSession id) := by
    obtain ⟨session, hsession⟩ := Option.isSome_iff_exists.mp ((hmem id).mp hid)
    unfold getSession
    rw [hsession]
    rfl
  have hback : ∀ id ∈ d.getAllSessions, d.getId (d.getSession id) = id := by
    intro id hid
    unfold getId
    rw [(h.valid.forward_iff _ _).mp (hfind hid)]
    rfl
  refine ⟨fun id => (hmem id).mpr, fun id hid => known_of_find h.valid (hfind hid), hback, ?_⟩
  refine (List.perm_ext_iff_of_nodup ?_ nodup_getAllSessions).mpr fun n => ⟨fun hn => ?_, fun hn => ?_⟩
  · refine List.Nodup.map_on (fun id hid id' hid' heq => ?_) nodup_getAllSessions
    rw [← hback id hid, heq, hback id' hid']
  · obtain ⟨id, hid, rfl⟩ := List.mem_map.mp hn
    refine mem_getAllSessions.mpr ?_
    unfold hasSession
    rw [(h.valid.forward_iff _ _).mp (hfind hid)]
    rfl
  · obtain ⟨id, hid⟩ := Option.isSome_iff_exists.mp (mem_getAllSessions.mp hn)
    have hforward := (h.valid.forward_iff _ _).mpr hid
    have hmem' : id ∈ d.getAllSessions := by
      refine (hmem id).mpr ?_
      unfold hasId
      rw [hforward]
      rfl
    exact List.mem_map.mpr ⟨id, hmem', Option.some.inj ((hfind hmem').symm.trans hforward)⟩

theorem Paired.sameNumbers (h : d.Paired)
    (hext : ∀ session, (d.mExtMap.find session).isSome = (d.mBackwardMap.find session).isSome) :
    d.SameNumbers := by
  refine ⟨⟨fun id session => ⟨fun hforward => ?_, fun hbackward => ?_⟩, hext, ?_⟩, fun n => ?_⟩
  · have hid : d.hasId id = true := by
      unfold hasId
      rw [hforward]
      rfl
    have hsession : d.getSession id = session := by
      unfold getSession
      rw [hforward]
      rfl
    have hmem : session ∈ d.getAllSessions :=
      h.perm.mem_iff.mp (List.mem_map.mpr ⟨id, h.mem id hid, hsession⟩)
    obtain ⟨v, hv⟩ := Option.isSome_iff_exists.mp (mem_getAllSessions.mp hmem)
    have hv' : d.getId session = v := by
      unfold getId
      rw [hv]
      rfl
    rw [hv, ← hv', ← hsession, h.back id (h.mem id hid)]
  · have hmem : session ∈ d.getAllSessions := by
      refine mem_getAllSessions.mpr ?_
      unfold hasSession
      rw [hbackward]
      rfl
    obtain ⟨x, hx, rfl⟩ := List.mem_map.mp (h.perm.mem_iff.mpr hmem)
    have hid : d.getId (d.getSession x) = id := by
      unfold getId
      rw [hbackward]
      rfl
    rw [← hid, h.back x hx]
    exact find_of_getSession (ne_of_gt (h.known x hx))
  · refine Option.not_isSome_iff_eq_none.mp fun hzero => ?_
    obtain ⟨x, hx, hzero'⟩ :=
      List.mem_map.mp (h.perm.mem_iff.mpr (mem_getAllSessions.mpr hzero))
    exact ne_of_gt (h.known x hx) hzero'
  · refine Bool.eq_iff_iff.mpr ⟨fun hid => mem_getAllSessions.mp (h.mem n hid), fun hn => ?_⟩
    exact hasId_of_known (h.known n (mem_getAllSessions.mpr hn))

end BiDict

namespace LocationAPIClientBase

variable {s t : LocationAPIClientBase}

/-- All geofences are removed; there is one call, with each of their sessions, or none if there are no
geofences. -/
structure RemovesAll (s : LocationAPIClientBase) : Prop where
  emptied : s.locAPIRemoveAllGeofences.mGeofenceBiDict = .empty
  forwarded : if s.mGeofenceBiDict.getAllSessions = [] then
      s.locAPIRemoveAllGeofences.geofenceCalls = s.geofenceCalls
    else ∃ sessions, s.locAPIRemoveAllGeofences.geofenceCalls =
        s.geofenceCalls ++ [.removeGeofences sessions] ∧
      sessions.Perm s.mGeofenceBiDict.getAllSessions

/-- What holds of the geofences in every run. -/
structure GeofencesSound (s : LocationAPIClientBase) : Prop where
  ext_iff : ∀ session, (s.mGeofenceBiDict.mExtMap.find session).isSome =
    (s.mGeofenceBiDict.mBackwardMap.find session).isSome
  inUse : ∀ n, s.mGeofenceBiDict.hasId n = true ∨ s.mGeofenceBiDict.hasSession n = true →
    s.geofencesInUse = true

/-- What `locAPIRemoveAllGeofences` does while geofences are in use. -/
theorem removeAll_of_inUse (huse : s.geofencesInUse = true) {r : RemovedGeofences}
    (hr : s.mGeofenceBiDict.getAllSessions.foldl removeGeofence (s.mGeofenceBiDict, .empty, []) = r) :
    s.locAPIRemoveAllGeofences.mGeofenceBiDict = r.1 ∧
      s.locAPIRemoveAllGeofences.geofenceCalls = s.geofenceCalls ++
        if r.2.2 = [] then [] else [.removeGeofences r.2.2] := by
  unfold locAPIRemoveAllGeofences locAPIRemoveGeofences
  rw [if_pos huse, hr]
  simp only
  by_cases hnil : r.2.2 = []
  · rw [if_neg (not_not_intro hnil), if_pos hnil, List.append_nil]
    exact ⟨rfl, rfl⟩
  · rw [if_pos hnil, if_neg hnil]
    exact ⟨rfl, rfl⟩

/-- With no sessions the dictionary stays as it is, and there is no call. -/
theorem removeAll_of_nil (hnil : s.mGeofenceBiDict.getAllSessions = []) :
    s.locAPIRemoveAllGeofences.mGeofenceBiDict = s.mGeofenceBiDict ∧
      s.locAPIRemoveAllGeofences.geofenceCalls = s.geofenceCalls := by
  by_cases huse : s.geofencesInUse = true
  · obtain ⟨hdict, hcalls⟩ := removeAll_of_inUse huse rfl
    rw [hnil] at hdict hcalls
    exact ⟨hdict, hcalls.trans (List.append_nil _)⟩
  · unfold locAPIRemoveAllGeofences locAPIRemoveGeofences
    rw [if_neg huse]
    exact ⟨rfl, rfl⟩

theorem removesAll_of_sameNumbers (hs : s.GeofencesSound) (h : s.mGeofenceBiDict.SameNumbers) :
    s.RemovesAll := by
  generalize hd : s.mGeofenceBiDict = d at h
  obtain ⟨hmem, hknown, hback, hperm⟩ := h.paired
  have hids : d.knownIds d.getAllSessions = d.getAllSessions :=
    List.filter_eq_self.mpr fun id hid => decide_eq_true (hknown id hid)
  obtain ⟨hund, hfiled⟩ := BiDict.undisturbed_of_valid BiDict.nodup_getAllSessions hback
    fun _ _ => List.not_mem_nil
  have hsessions : d.knownSessions d.getAllSessions = d.getAllSessions.map d.getSession := by
    unfold BiDict.knownSessions
    rw [hids]
  by_cases hnil : d.getAllSessions = []
  · obtain ⟨hdict, hcalls⟩ := removeAll_of_nil (s := s) (by rw [hd, hnil])
    refine ⟨?_, by rw [hd, if_pos hnil]; exact hcalls⟩
    have hnone (n : BitVec 32) : d.hasSession n = false := by
      refine Bool.eq_false_iff.mpr fun hn => ?_
      have hmem' := BiDict.mem_getAllSessions.mpr hn
      rw [hnil] at hmem'
      exact List.not_mem_nil hmem'
    rw [hdict, hd]
    refine BiDict.eq_empty (fun id => ?_) (fun session => ?_) fun session => ?_
    · exact Option.not_isSome_iff_eq_none.mp (Bool.eq_false_iff.mp ((h.same id).trans (hnone id)))
    · exact Option.not_isSome_iff_eq_none.mp (Bool.eq_false_iff.mp (hnone session))
    · have hext := (h.valid.ext_iff session).trans (hnone session)
      exact Option.not_isSome_iff_eq_none.mp (Bool.eq_false_iff.mp hext)
  · obtain ⟨n, hn⟩ := List.exists_mem_of_ne_nil _ hnil
    have huse : s.geofencesInUse = true :=
      hs.inUse n (.inr (by rw [hd]; exact BiDict.mem_getAllSessions.mp hn))
    obtain ⟨hdict, hcalls⟩ := removeAll_of_inUse huse rfl
    obtain ⟨hremoved, herased⟩ := @removeGeofences_of_undisturbed d d.getAllSessions _ .empty [] _ _
      (.refl d) hund fun _ _ => List.not_mem_nil
    rw [hd] at hdict hcalls
    rw [hremoved, hsessions, List.nil_append] at hcalls
    rw [hsessions, hfiled hknown, List.append_nil, List.append_nil] at herased
    have htaken {session : BitVec 32} (hsession : d.hasSession session = true) :
        session ∈ (d.getAllSessions.map d.getSession).reverse :=
      List.mem_reverse.mpr (hperm.mem_iff.mpr (BiDict.mem_getAllSessions.mpr hsession))
    refine ⟨?_, ?_⟩
    · rw [hdict]
      refine BiDict.eq_empty (fun id => ?_) (fun session => ?_) fun session => ?_
      · rw [herased.forward]
        split
        · rfl
        · rename_i hgone
          refine Option.not_isSome_iff_eq_none.mp fun hsome => hgone ?_
          exact List.mem_reverse.mpr (hmem id hsome)
      · rw [herased.backward]
        split
        · rfl
        · rename_i hgone
          exact Option.not_isSome_iff_eq_none.mp fun hsome => hgone (htaken hsome)
      · rw [herased.ext]
        split
        · rfl
        · rename_i hgone
          refine Option.not_isSome_iff_eq_none.mp fun hsome => hgone (htaken ?_)
          exact (h.valid.ext_iff session).symm.trans hsome
    · rw [hd, if_neg hnil]
      refine ⟨_, ?_, hperm⟩
      rw [hcalls, if_neg fun h => hnil (List.map_eq_nil_iff.mp h)]

theorem sameNumbers_of_removesAll (hs : s.GeofencesSound) (h : s.RemovesAll) :
    s.mGeofenceBiDict.SameNumbers := by
  generalize hd : s.mGeofenceBiDict = d
  by_cases hnil : d.getAllSessions = []
  · obtain ⟨hdict, -⟩ := removeAll_of_nil (s := s) (by rw [hd, hnil])
    have hempty : d = .empty := by rw [← hd, ← hdict, h.emptied]
    rw [hempty]
    exact ⟨BiDict.valid_empty, fun _ => rfl⟩
  · obtain ⟨n, hn⟩ := List.exists_mem_of_ne_nil _ hnil
    have huse : s.geofencesInUse = true :=
      hs.inUse n (.inr (by rw [hd]; exact BiDict.mem_getAllSessions.mp hn))
    obtain ⟨hdict, hcalls⟩ := removeAll_of_inUse huse rfl
    obtain ⟨sessions, hsessions, hperm⟩ : ∃ sessions, s.locAPIRemoveAllGeofences.geofenceCalls =
        s.geofenceCalls ++ [.removeGeofences sessions] ∧ sessions.Perm d.getAllSessions := by
      have hforwarded := h.forwarded
      rw [hd, if_neg hnil] at hforwarded
      exact hforwarded
    rw [hd] at hdict hcalls
    generalize hr : d.getAllSessions.foldl removeGeofence (d, .empty, []) = r at hdict hcalls
    -- all sessions are removed, so all of them are known ids
    have hremoved : r.2.2 = sessions := by
      rw [hcalls, List.append_cancel_left_eq] at hsessions
      split at hsessions
      · cases hsessions
      · exact GeofenceCall.removeGeofences.inj (List.singleton_inj.mp hsessions)
    have hlength : r.2.2.length = d.getAllSessions.length := by rw [hremoved, hperm.length_eq]
    have hle : (d.knownIds d.getAllSessions).length ≤ d.getAllSessions.length :=
      List.length_filter_le _ _
    have hund : d.Undisturbed [] d.getAllSessions := by
      by_contra hund
      have hlt := @removeGeofences_of_disturbed d d.getAllSessions _ .empty [] _ _ (.refl d) hund
        fun _ _ => List.not_mem_nil
      rw [hr, hlength, List.length_nil, Nat.zero_add] at hlt
      omega
    obtain ⟨hall, herased⟩ := @removeGeofences_of_undisturbed d d.getAllSessions _ .empty [] _ _
      (.refl d) hund fun _ _ => List.not_mem_nil
    rw [hr, List.nil_append] at hall
    have hids : d.knownIds d.getAllSessions = d.getAllSessions := by
      refine List.filter_sublist.eq_of_length ?_
      have hcount := congrArg List.length hall
      unfold BiDict.knownSessions at hcount
      rw [List.length_map, hlength] at hcount
      exact hcount.symm
    have hknown : ∀ id ∈ d.getAllSessions, d.Known id := by
      intro id hid
      rw [← hids] at hid
      exact of_decide_eq_true (List.mem_filter.mp hid).2
    have hmap : d.knownSessions d.getAllSessions = d.getAllSessions.map d.getSession := by
      unfold BiDict.knownSessions
      rw [hids]
    have hpermMap : (d.getAllSessions.map d.getSession).Perm d.getAllSessions := by
      rw [← hmap, ← hall, hremoved]
      exact hperm
    have hnodup : (d.getAllSessions.map d.getSession).Nodup :=
      hpermMap.nodup_iff.mpr BiDict.nodup_getAllSessions
    rw [hr, BiDict.filedIds_of_nodup hknown hnodup fun _ _ => List.not_mem_nil, List.append_nil,
      List.append_nil, ← hdict, h.emptied] at herased
    -- every id goes with one of the sessions, so there are no other ids
    have hgone {id : BitVec 32} (hid : d.hasId id = true) :
        id ∈ d.getAllSessions.map fun id => d.getId (d.getSession id) := by
      by_contra hgone
      have hnone := herased.forward id
      rw [if_neg fun hmem => hgone (List.mem_reverse.mp hmem)] at hnone
      unfold BiDict.hasId at hid
      rw [← hnone] at hid
      cases hid
    have hpermId : d.getAllSessions.Perm
        (d.getAllSessions.map fun id => d.getId (d.getSession id)) := by
      refine (List.subperm_of_subset BiDict.nodup_getAllSessions fun id hid => ?_).perm_of_length_le
        (le_of_eq (List.length_map _))
      exact hgone (BiDict.hasId_of_known (hknown id hid))
    have hself : ∀ id ∈ d.getAllSessions, d.getId (d.getSession id) = id := by
      refine eq_self_of_not_mem_rest (hpermId.nodup_iff.mp BiDict.nodup_getAllSessions)
        (fun id hid => hpermId.mem_iff.mpr (List.mem_map.mpr ⟨id, hid, rfl⟩)) fun pre id post hl => ?_
      rw [hl] at hund hknown hnodup
      exact hund.not_mem hknown hnodup fun _ _ => List.not_mem_nil
    have hext : ∀ session, (d.mExtMap.find session).isSome = (d.mBackwardMap.find session).isSome := by
      rw [← hd]
      exact hs.ext_iff
    exact BiDict.Paired.sameNumbers ⟨fun id hid => hpermId.mem_iff.mpr (hgone hid), hknown, hself,
      hpermMap⟩ hext

/-! ### Runs -/

/-- `t` has the geofences of `s`, and they stay in use. -/
structure SameGeofences (s t : LocationAPIClientBase) : Prop where
  dict : t.mGeofenceBiDict = s.mGeofenceBiDict
  inUse : s.geofencesInUse = true → t.geofencesInUse = true

theorem SameGeofences.sound (h : SameGeofences s t) (hs : s.GeofencesSound) : t.GeofencesSound := by
  refine ⟨fun session => ?_, fun n hn => h.inUse (hs.inUse n ?_)⟩
  · rw [h.dict]
    exact hs.ext_iff session
  · rw [h.dict] at hn
    exact hn

theorem SameGeofences.refl (s : LocationAPIClientBase) : SameGeofences s s := ⟨rfl, id⟩

theorem SameGeofences.trans {u : LocationAPIClientBase} (h : SameGeofences s t)
    (h' : SameGeofences t u) : SameGeofences s u :=
  ⟨h'.dict.trans h.dict, fun huse => h'.inUse (h.inUse huse)⟩

theorem sameGeofences_setCallbacks (created : Bool) :
    SameGeofences s (s.locAPISetCallbacks created) := by
  refine ⟨rfl, fun h => ?_⟩
  unfold locAPISetCallbacks geofencesInUse
  unfold geofencesInUse at h
  rw [Bool.and_eq_true] at h ⊢
  exact ⟨Bool.or_eq_true_iff.mpr (.inl h.1), h.2⟩

theorem sameGeofences_startTracking (session : BitVec 32) :
    SameGeofences s (s.locAPIStartTracking session).2 := by
  unfold locAPIStartTracking
  split
  · split
    · exact .refl s
    · exact ⟨rfl, id⟩
  · exact .refl s

theorem sameGeofences_stopTracking : SameGeofences s s.locAPIStopTracking := by
  unfold locAPIStopTracking
  split
  · exact ⟨rfl, id⟩
  · exact .refl s

theorem sameGeofences_updateTrackingOptions : SameGeofences s s.locAPIUpdateTrackingOptions := by
  unfold locAPIUpdateTrackingOptions
  split
  · exact ⟨rfl, id⟩
  · exact .refl s

theorem sameGeofences_niResponse (id : BitVec 32) :
    SameGeofences s (s.locAPIGnssNiResponse id) := by
  unfold locAPIGnssNiResponse
  split
  · exact ⟨rfl, fun h => h⟩
  · exact .refl s

theorem sameGeofences_issueStart (call : SessionCall) (session : BitVec 32)
    (request : Option ClientRequest) : SameGeofences s (s.issueStart call session request) := by
  unfold issueStart
  split
  · exact ⟨rfl, id⟩
  · exact .refl s

theorem sameGeofences_startSession (id sessionMode : BitVec 32) (options : TrackingOptions)
    (session : BitVec 32) :
    SameGeofences s (s.locAPIStartSession id sessionMode options session).2 := by
  unfold locAPIStartSession
  split
  · split
    · exact .refl s
    · split
      · exact (sameGeofences_issueStart _ _ _).trans ⟨rfl, fun h => h⟩
      · exact (sameGeofences_issueStart _ _ _).trans ⟨rfl, fun h => h⟩
  · exact .refl s

theorem sameGeofences_getEntity (id : BitVec 32) : SameGeofences s (s.getEntity id).2 :=
  ⟨rfl, fun h => h⟩

theorem sameGeofences_stopSession (id : BitVec 32) : SameGeofences s (s.locAPIStopSession id).2 := by
  unfold locAPIStopSession
  split
  · split
    · dsimp only
      split
      · exact (sameGeofences_getEntity id).trans ⟨rfl, fun h => h⟩
      · exact (sameGeofences_getEntity id).trans ⟨rfl, fun h => h⟩
    · exact .refl s
  · exact .refl s

theorem sameGeofences_getBatchedLocations (id : BitVec 32) (count : ℕ) :
    SameGeofences s (s.locAPIGetBatchedLocations id count).2 := by
  unfold locAPIGetBatchedLocations
  split
  · split
    · dsimp only
      split
      · exact (sameGeofences_getEntity id).trans ⟨rfl, fun h => h⟩
      · exact sameGeofences_getEntity id
    · exact .refl s
  · exact .refl s

theorem sameGeofences_setQueue (t : RequestType) (q : RequestQueue ClientRequest) :
    SameGeofences s (s.setQueue t q) := ⟨rfl, fun h => h⟩

theorem sameGeofences_replaceEntity (id : BitVec 32) (entity : SessionEntity) :
    SameGeofences s (s.replaceEntity id entity) := ⟨rfl, fun h => h⟩

theorem sameGeofences_updateSession (id sessionMode : BitVec 32) (options : TrackingOptions)
    (session : BitVec 32) :
    SameGeofences s (s.locAPIUpdateSessionOptions id sessionMode options session).2 := by
  unfold locAPIUpdateSessionOptions
  split
  · split
    · dsimp only
      split
      · split
        · exact ⟨rfl, fun h => h⟩
        · refine SameGeofences.trans ?_ (sameGeofences_replaceEntity _ _)
          refine SameGeofences.trans ?_ (sameGeofences_issueStart _ _ _)
          exact ⟨rfl, fun h => h⟩
      · split
        · refine SameGeofences.trans ?_ (sameGeofences_replaceEntity _ _)
          refine SameGeofences.trans ?_ (sameGeofences_setQueue _ _)
          refine SameGeofences.trans ?_ (sameGeofences_issueStart _ _ _)
          exact ⟨rfl, fun h => h⟩
        · exact ⟨rfl, fun h => h⟩
    · exact .refl s
  · exact .refl s

theorem sameGeofences_getRequestOfQueue (session : BitVec 32) :
    SameGeofences s (s.getRequestOfQueue session).2 := by
  unfold getRequestOfQueue
  split
  · exact ⟨rfl, fun h => h⟩
  · split
    · exact ⟨rfl, fun h => h⟩
    · exact .refl s

theorem sameGeofences_getRequestBySession (session : BitVec 32) :
    SameGeofences s (s.getRequestBySession session).2 := by
  have h := sameGeofences_getRequestOfQueue (s := s) session
  unfold getRequestBySession
  split
  · rename_i r t heq
    rw [heq] at h
    exact h
  · rename_i t heq
    rw [heq] at h
    split
    · exact h.trans ⟨rfl, fun h => h⟩
    · exact h

theorem sameGeofences_removeSession (session : BitVec 32) :
    SameGeofences s (s.removeSession session) := by
  unfold removeSession
  split
  · exact ⟨rfl, fun h => h⟩
  · exact .refl s

theorem sameGeofences_responseCb (error : LocationError) (id : BitVec 32) :
    SameGeofences s (s.onResponseCb error id) := by
  have h := sameGeofences_getRequestBySession (s := s) id
  unfold onResponseCb
  split
  · rename_i r t heq
    rw [heq] at h
    rcases onResponse_cases (s := t) r error id with hr | hr
    · rw [hr]
      exact h.trans ⟨rfl, fun h => h⟩
    · rw [hr]
      exact (h.trans (sameGeofences_removeSession id)).trans ⟨rfl, fun h => h⟩
  · rename_i t heq
    rw [heq] at h
    exact h

theorem sameGeofences_completeTrip (acc : List (BitVec 32) × LocationAPIClientBase)
    (session : BitVec 32) : SameGeofences acc.2 (completeTrip acc session).2 := by
  unfold completeTrip
  split
  · dsimp only
    split
    · exact ⟨rfl, fun h => h⟩
    · exact .refl _
  · exact .refl _

theorem sameGeofences_tripsCompleted (trips : List (BitVec 32)) :
    SameGeofences s (s.beforeBatchingStatusCb trips).2 := by
  unfold beforeBatchingStatusCb
  suffices h : ∀ acc : List (BitVec 32) × LocationAPIClientBase,
      SameGeofences acc.2 (trips.foldl completeTrip acc).2 from h ([], s)
  induction trips with
  | nil => exact fun acc => .refl acc.2
  | cons session trips ih =>
    exact fun acc => (sameGeofences_completeTrip acc session).trans (ih _)

theorem sameGeofences_collectiveResponse (errors : List LocationError)
    (sessions : List (BitVec 32)) : SameGeofences s (s.onCollectiveResponseCb errors sessions) := by
  unfold onCollectiveResponseCb
  split
  · exact ⟨rfl, fun h => h⟩
  · exact .refl s

/-- Operations on geofences that are in use leave them in use. -/
theorem sound_of_inUse (huse : t.geofencesInUse = true)
    (hext : ∀ session, (t.mGeofenceBiDict.mExtMap.find session).isSome =
      (t.mGeofenceBiDict.mBackwardMap.find session).isSome) : t.GeofencesSound :=
  ⟨hext, fun _ _ => huse⟩

theorem GeofencesSound.addGeofences (hs : s.GeofencesSound)
    (items : List (BitVec 32 × GeofenceOption)) (sessions : Option (List (BitVec 32))) :
    (s.locAPIAddGeofences items sessions).2.GeofencesSound := by
  unfold locAPIAddGeofences
  split
  · rename_i hapi
    dsimp only
    generalize hu : (if s.mGeofenceRequests.mSession ≠ GEOFENCE_SESSION_ID then
      { s with mGeofenceRequests := s.mGeofenceRequests.reset GEOFENCE_SESSION_ID } else s) = u
    have hdict : u.mGeofenceBiDict = s.mGeofenceBiDict := by
      rw [← hu]
      split <;> rfl
    have huse : u.geofencesInUse = true := by
      rw [← hu]
      unfold geofencesInUse
      rw [Bool.and_eq_true]
      split
      · exact ⟨hapi, decide_eq_true rfl⟩
      · rename_i hsession
        exact ⟨hapi, decide_eq_true (not_not.mp hsession)⟩
    cases sessions with
    | none => exact SameGeofences.sound ⟨hdict, fun _ => huse⟩ hs
    | some sessions =>
      refine sound_of_inUse huse fun session => ?_
      obtain ⟨-, hbackward, hext⟩ :=
        BiDict.find_setAll (d := u.mGeofenceBiDict) (geofenceItems items sessions)
      refine (hext session).trans ?_
      have hold := hs.ext_iff session
      rw [← hdict] at hold
      rw [hold, Option.isSome_or.symm]
      exact congrArg Option.isSome (hbackward session).symm
  · exact hs

theorem GeofencesSound.removeGeofences (hs : s.GeofencesSound) (ids : List (BitVec 32)) :
    (s.locAPIRemoveGeofences ids).GeofencesSound := by
  have hstep (acc : RemovedGeofences) (id : BitVec 32) (h : ∀ session,
      (acc.1.mExtMap.find session).isSome = (acc.1.mBackwardMap.find session).isSome) :
      ∀ session, ((removeGeofence acc id).1.mExtMap.find session).isSome =
        ((removeGeofence acc id).1.mBackwardMap.find session).isSome := by
    intro session
    unfold removeGeofence
    dsimp only
    split
    · have herased := (Erased.refl acc.1).rmBySession (acc.1.getSession id)
      rw [herased.ext, herased.backward]
      split
      · rfl
      · exact h session
    · exact h session
  have hloop : ∀ acc : RemovedGeofences, (∀ session,
      (acc.1.mExtMap.find session).isSome = (acc.1.mBackwardMap.find session).isSome) →
      ∀ session, ((ids.foldl removeGeofence acc).1.mExtMap.find session).isSome =
        ((ids.foldl removeGeofence acc).1.mBackwardMap.find session).isSome := by
    induction ids with
    | nil => exact fun acc hacc => hacc
    | cons id ids ih => exact fun acc hacc => ih _ (hstep acc id hacc)
  have hext := hloop (s.mGeofenceBiDict, .empty, []) hs.ext_iff
  unfold locAPIRemoveGeofences
  split
  · rename_i huse
    dsimp only
    split <;> exact sound_of_inUse huse hext
  · exact hs

theorem GeofencesSound.updateGeofences (hs : s.GeofencesSound)
    (items : List (BitVec 32 × Option (BitVec 32))) (request : GeofenceRequest)
    (call : List (BitVec 32) → GeofenceCall) :
    (s.updateGeofences items request call).GeofencesSound := by
  have hstep (acc : BiDict (BitVec 32) × List (BitVec 32)) (x : BitVec 32 × Option (BitVec 32))
      (h : ∀ session, (acc.1.mExtMap.find session).isSome =
        (acc.1.mBackwardMap.find session).isSome) :
      ∀ session, ((setGeofenceMask acc x).1.mExtMap.find session).isSome =
        ((setGeofenceMask acc x).1.mBackwardMap.find session).isSome := by
    intro session
    unfold setGeofenceMask
    dsimp only
    split
    · split
      · show ((acc.1.mExtMap.insert _ _).find session).isSome =
          ((acc.1.mBackwardMap.insert _ _).find session).isSome
        rw [OrdMap.find_insert, OrdMap.find_insert]
        split
        · rfl
        · exact h session
      · exact h session
    · exact h session
  have hloop : ∀ acc : BiDict (BitVec 32) × List (BitVec 32), (∀ session,
      (acc.1.mExtMap.find session).isSome = (acc.1.mBackwardMap.find session).isSome) →
      ∀ session, ((items.foldl setGeofenceMask acc).1.mExtMap.find session).isSome =
        ((items.foldl setGeofenceMask acc).1.mBackwardMap.find session).isSome := by
    induction items with
    | nil => exact fun acc hacc => hacc
    | cons x items ih => exact fun acc hacc => ih _ (hstep acc x hacc)
  have hext := hloop (s.mGeofenceBiDict, []) hs.ext_iff
  unfold LocationAPIClientBase.updateGeofences
  split
  · rename_i huse
    dsimp only
    split <;> exact sound_of_inUse huse hext
  · exact hs

theorem geofencesSound_step (hs : s.GeofencesSound) (e : ClientEvent) :
    (s.step e).GeofencesSound := by
  cases e with
  | locAPISetCallbacks created => exact (sameGeofences_setCallbacks created).sound hs
  | locAPIStartTracking session => exact (sameGeofences_startTracking session).sound hs
  | locAPIStopTracking => exact sameGeofences_stopTracking.sound hs
  | locAPIUpdateTrackingOptions => exact sameGeofences_updateTrackingOptions.sound hs
  | locAPIStartSession id sessionMode options session =>
    exact (sameGeofences_startSession id sessionMode options session).sound hs
  | locAPIStopSession id => exact (sameGeofences_stopSession id).sound hs
  | locAPIUpdateSessionOptions id sessionMode options session =>
    exact (sameGeofences_updateSession id sessionMode options session).sound hs
  | locAPIGetBatchedLocations id count => exact (sameGeofences_getBatchedLocations id count).sound hs
  | locAPIAddGeofences items sessions => exact hs.addGeofences items sessions
  | locAPIRemoveGeofences ids => exact hs.removeGeofences ids
  | locAPIModifyGeofences items =>
    show (s.locAPIModifyGeofences items).GeofencesSound
    unfold locAPIModifyGeofences
    exact hs.updateGeofences _ _ _
  | locAPIPauseGeofences ids => exact hs.updateGeofences _ _ _
  | locAPIResumeGeofences ids mask => exact hs.updateGeofences _ _ _
  | locAPIRemoveAllGeofences => exact hs.removeGeofences _
  | locAPIGnssNiResponse id => exact (sameGeofences_niResponse id).sound hs
  | responseCb error id => exact (sameGeofences_responseCb error id).sound hs
  | collectiveResponseCb errors sessions =>
    exact (sameGeofences_collectiveResponse errors sessions).sound hs
  | geofenceBreachCb type sessions => exact hs
  | tripsCompletedCb trips => exact (sameGeofences_tripsCompleted trips).sound hs

theorem geofencesSound_of_run {es : List ClientEvent} (h : system.Run System.Free es s) :
    s.GeofencesSound := by
  refine h.invariant ⟨fun _ => rfl, fun n hn => ?_⟩ fun u e u' hu _ hstep => ?_
  · rcases hn with hn | hn <;> cases hn
  · rw [hstep]
    exact geofencesSound_step hu e

/-- After any run all geofences are removed exactly if their ids and their sessions are the same
numbers and the dictionary is valid. -/
theorem removesAll_iff {es : List ClientEvent} (h : system.Run System.Free es s) :
    s.RemovesAll ↔ s.mGeofenceBiDict.SameNumbers :=
  ⟨sameNumbers_of_removesAll (geofencesSound_of_run h),
    removesAll_of_sameNumbers (geofencesSound_of_run h)⟩

/-- A geofence of the id 7 gets the session. -/
def addedGeofence (session : BitVec 32) : List ClientEvent :=
  [.locAPISetCallbacks true, .locAPIAddGeofences [(7, ⟨16, 1, 0, 0⟩)] (some [session])]

theorem run_addedGeofence (session : BitVec 32) :
    system.Run System.Free (addedGeofence session) ((addedGeofence session).foldl step initial) :=
  System.run_foldl ⟨trivial, trivial, trivial⟩

/-- The session is 7 as well. -/
theorem removesAll_of_same_session : ((addedGeofence 7).foldl step initial).RemovesAll := by
  refine (removesAll_iff (run_addedGeofence 7)).mpr ⟨?_, fun n => ?_⟩
  · show ((BiDict.empty : BiDict (BitVec 32)).set 7 7 1).Valid
    exact (BiDict.valid_set_iff BiDict.valid_empty rfl 7 1).mpr ⟨by decide, rfl⟩
  · rfl

/-- The session is 3, which is no id: nothing is removed. -/
theorem removeAll_removes_nothing : ∃ s, system.Run System.Free (addedGeofence 3) s ∧
    s.mGeofenceBiDict.getAllSessions = [3] ∧
    s.locAPIRemoveAllGeofences.geofenceCalls = [] ∧
    s.locAPIRemoveAllGeofences.mGeofenceBiDict.getSession 7 = 3 ∧ ¬ s.RemovesAll := by
  refine ⟨_, run_addedGeofence 3, by decide, by decide, by decide, fun h => ?_⟩
  have hempty := congrArg (BiDict.getSession · 7) h.emptied
  exact absurd hempty (by decide)

end LocationAPIClientBase

end GpsHal
