import GpsHal.Location.ClientBase

/-!
# `LocationAPIClientBase` : the arrays of geofence commands

A client names geofences by ids of its own, and `LocationAPI` gets their sessions.  An id that is not
known is left out of the array of sessions, while the array of options is handed on as it is, so that
an option may go to another geofence.

## Main definitions

* `GeofenceArrayCommand` : a command about geofences that have been added.
* `LocationAPIClientBase.Compacted` : the arrays and the masks are those of the known ids.
* `LocationAPIClientBase.Compactable` : the condition on the ids, the options and the masks.

## Main results

* `LocationAPIClientBase.compacted_iff` : the condition is exact.
-/

namespace GpsHal

/-- A command about geofences; a mask may be given for each id that is resumed, or none at all. -/
inductive GeofenceArrayCommand where
  | modify (items : List (BitVec 32 × GeofenceOption))
  | resume (items : List (BitVec 32 × BitVec 32))
  | resumeWithoutMask (ids : List (BitVec 32))
  | pause (ids : List (BitVec 32))
  | remove (ids : List (BitVec 32))
  deriving DecidableEq, Repr

namespace GeofenceArrayCommand

def ids : GeofenceArrayCommand → List (BitVec 32)
  | .modify items => items.map Prod.fst
  | .resume items => items.map Prod.fst
  | .resumeWithoutMask ids | .pause ids | .remove ids => ids

/-- The masks that are given, with their ids. -/
def masks : GeofenceArrayCommand → List (BitVec 32 × BitVec 32)
  | .modify items => items.map fun x => (x.1, x.2.breachTypeMask)
  | .resume items => items
  | .resumeWithoutMask _ | .pause _ | .remove _ => []

end GeofenceArrayCommand

/-- What `LocationAPI` reads of the arrays: as many options as there are sessions. -/
def GeofenceCall.read : GeofenceCall → GeofenceCall
  | .modifyGeofences sessions options => .modifyGeofences sessions (options.take sessions.length)
  | .removeGeofences sessions => .removeGeofences sessions
  | .pauseGeofences sessions => .pauseGeofences sessions
  | .resumeGeofences sessions => .resumeGeofences sessions

namespace BiDict

variable (d : BiDict (BitVec 32))

def Known (id : BitVec 32) : Prop := 0 < d.getSession id

instance : DecidablePred d.Known := fun id => inferInstanceAs (Decidable (0 < d.getSession id))

def knownIds (ids : List (BitVec 32)) : List (BitVec 32) := ids.filter fun id => d.Known id

def knownSessions (ids : List (BitVec 32)) : List (BitVec 32) := (d.knownIds ids).map d.getSession

/-- The last mask for the id. -/
def maskOf (masks : List (BitVec 32 × BitVec 32)) (id : BitVec 32) : Option (BitVec 32) :=
  (masks.reverse.find? fun x => x.1 = id).map Prod.snd

/-- The last mask for a known id of the session. -/
def maskOfSession (masks : List (BitVec 32 × BitVec 32)) (session : BitVec 32) :
    Option (BitVec 32) :=
  (masks.reverse.find? fun x => d.Known x.1 ∧ d.getSession x.1 = session).map Prod.snd

/-- The id that goes with the session when it is removed, if the sessions `taken` are gone. -/
def filed (taken : List (BitVec 32)) (session : BitVec 32) : BitVec 32 :=
  if taken.contains session then 0 else d.getId session

variable {d} in
theorem filed_of_mem {taken : List (BitVec 32)} {session : BitVec 32} (h : session ∈ taken) :
    d.filed taken session = 0 := if_pos (List.contains_iff_mem.mpr h)

variable {d} in
theorem filed_of_not_mem {taken : List (BitVec 32)} {session : BitVec 32} (h : session ∉ taken) :
    d.filed taken session = d.getId session :=
  if_neg fun hcontains => h (List.contains_iff_mem.mp hcontains)

/-- No removal takes an id away that is known and comes later. -/
def Undisturbed : List (BitVec 32) → List (BitVec 32) → Prop
  | _, [] => True
  | taken, id :: ids =>
    if d.Known id then
      d.filed taken (d.getSession id) ∉ d.knownIds ids ∧ Undisturbed (d.getSession id :: taken) ids
    else Undisturbed taken ids

end BiDict

namespace LocationAPIClientBase

variable (s : LocationAPIClientBase)

def applyGeofences : GeofenceArrayCommand → LocationAPIClientBase
  | .modify items => s.locAPIModifyGeofences items
  | .resume items => s.locAPIResumeGeofences (items.map Prod.fst) (some (items.map Prod.snd))
  | .resumeWithoutMask ids => s.locAPIResumeGeofences ids none
  | .pause ids => s.locAPIPauseGeofences ids
  | .remove ids => s.locAPIRemoveGeofences ids

/-- The known ones of the geofences, with their options. -/
def knownOptions (items : List (BitVec 32 × GeofenceOption)) : List GeofenceOption :=
  (items.filter fun x => s.mGeofenceBiDict.Known x.1).map Prod.snd

/-- The call with the sessions of the known ids, in order, and the options of the same ids. -/
def callOf (cmd : GeofenceArrayCommand) : GeofenceCall :=
  let sessions := s.mGeofenceBiDict.knownSessions cmd.ids
  match cmd with
  | .modify items => .modifyGeofences sessions (s.knownOptions items)
  | .resume _ | .resumeWithoutMask _ => .resumeGeofences sessions
  | .pause _ => .pauseGeofences sessions
  | .remove _ => .removeGeofences sessions

/-! ### The property -/

/-- The arrays that are passed on are those of the known ids, if there are any, and each known id has
got its mask. -/
structure Compacted (cmd : GeofenceArrayCommand) : Prop where
  passed : (s.applyGeofences cmd).geofenceCalls.map GeofenceCall.read =
    s.geofenceCalls.map GeofenceCall.read ++
      if s.mGeofenceBiDict.knownIds cmd.ids = [] then [] else [s.callOf cmd]
  stored : ∀ id mask, s.mGeofenceBiDict.Known id → BiDict.maskOf cmd.masks id = some mask →
    (s.applyGeofences cmd).mGeofenceBiDict.mExtMap.find (s.mGeofenceBiDict.getSession id) = some mask

/-! ### The condition -/

/-- Geofences are in use if an id is known; the options of the known ids are the first of the array;
known ids with the same session get the same mask in the end; and no removal takes away an id that
comes later. -/
structure Compactable (cmd : GeofenceArrayCommand) : Prop where
  inUse : s.mGeofenceBiDict.knownIds cmd.ids ≠ [] → s.geofencesInUse = true
  options : ∀ items, cmd = .modify items → s.knownOptions items <+: items.map Prod.snd
  masks : ∀ id mask, s.mGeofenceBiDict.Known id → BiDict.maskOf cmd.masks id = some mask →
    s.mGeofenceBiDict.maskOfSession cmd.masks (s.mGeofenceBiDict.getSession id) = some mask
  undisturbed : ∀ ids, cmd = .remove ids → s.mGeofenceBiDict.Undisturbed [] ids

/-! ### Masks -/

section

variable {s : LocationAPIClientBase} {d d' : BiDict (BitVec 32)} {id session : BitVec 32}

/-- The masks among the items of a loop. -/
def masksOf (items : List (BitVec 32 × Option (BitVec 32))) : List (BitVec 32 × BitVec 32) :=
  items.filterMap fun x => x.2.map fun mask => (x.1, mask)

theorem getSession_set (hknown : d.Known id) (ext : BitVec 32) (id' : BitVec 32) :
    (d.set id (d.getSession id) ext).getSession id' = d.getSession id' := by
  unfold BiDict.set BiDict.getSession
  simp only
  rw [OrdMap.find_insert]
  split
  · rename_i hid
    subst hid
    have hfind := BiDict.find_of_getSession (ne_of_gt hknown)
    rw [hfind]
    rfl
  · rfl

/-- The dictionary after the loop: the sessions stay, and the last mask for a session counts. -/
theorem foldl_setGeofenceMask (d : BiDict (BitVec 32))
    (items : List (BitVec 32 × Option (BitVec 32))) :
    (∀ id, (items.foldl setGeofenceMask (d, [])).1.getSession id = d.getSession id) ∧
    (items.foldl setGeofenceMask (d, [])).2 = d.knownSessions (items.map Prod.fst) ∧
    ∀ session, (items.foldl setGeofenceMask (d, [])).1.mExtMap.find session =
      (d.maskOfSession (masksOf items) session).or (d.mExtMap.find session) := by
  induction items using List.reverseRecOn with
  | nil => exact ⟨fun _ => rfl, rfl, fun _ => rfl⟩
  | append_singleton items x ih =>
    obtain ⟨hsession, hsessions, hext⟩ := ih
    rw [List.foldl_append]
    show _ ∧ (setGeofenceMask _ x).2 = _ ∧ _
    generalize items.foldl setGeofenceMask (d, []) = r at *
    obtain ⟨id, mask⟩ := x
    have hmasks : masksOf (items ++ [(id, mask)]) =
        masksOf items ++ (mask.map fun mask => (id, mask)).toList := by
      unfold masksOf
      rw [List.filterMap_append]
      cases mask with
      | none => rfl
      | some mask => rfl
    have hids : d.knownSessions ((items ++ [(id, mask)]).map Prod.fst) =
        d.knownSessions (items.map Prod.fst) ++ if d.Known id then [d.getSession id] else [] := by
      unfold BiDict.knownSessions BiDict.knownIds
      rw [List.map_append, List.filter_append, List.map_append]
      by_cases hknown : d.Known id
      · rw [if_pos hknown, List.map_singleton, List.filter_singleton, decide_eq_true hknown]
        rfl
      · rw [if_neg hknown, List.map_singleton, List.filter_singleton, decide_eq_false hknown]
        rfl
    rw [hmasks, hids]
    unfold setGeofenceMask
    simp only [List.foldl_cons, List.foldl_nil, hsession]
    by_cases hknown : d.Known id
    · have hpos : 0 < d.getSession id := hknown
      rw [if_pos hknown, if_pos hpos]
      have hknown' : r.1.Known id := by
        unfold BiDict.Known
        rw [hsession]
        exact hknown
      cases mask with
      | none =>
        refine ⟨hsession, by rw [hsessions], fun session => ?_⟩
        rw [Option.map_none, Option.toList_none, List.append_nil]
        exact hext session
      | some mask =>
        refine ⟨fun id' => ?_, by rw [hsessions], fun session => ?_⟩
        · rw [← hsession id, getSession_set hknown' mask id', hsession]
        · show (r.1.mExtMap.insert (d.getSession id) mask).find session = _
          rw [OrdMap.find_insert, hext]
          unfold BiDict.maskOfSession
          rw [Option.map_some, Option.toList_some, List.reverse_append, List.reverse_singleton,
            List.singleton_append, List.find?_cons]
          by_cases hs : session = d.getSession id
          · subst hs
            rw [if_pos rfl, decide_eq_true ⟨hknown, rfl⟩]
            rfl
          · rw [if_neg hs, decide_eq_false fun h => hs h.2.symm]
    · have hpos : ¬ 0 < d.getSession id := hknown
      rw [if_neg hknown, if_neg hpos, List.append_nil]
      refine ⟨hsession, hsessions, fun session => ?_⟩
      rw [hext]
      cases mask with
      | none =>
        rw [Option.map_none, Option.toList_none, List.append_nil]
      | some mask =>
        unfold BiDict.maskOfSession
        rw [Option.map_some, Option.toList_some, List.reverse_append, List.reverse_singleton,
          List.singleton_append, List.find?_cons, decide_eq_false fun h => hknown h.1]

/-! ### Commands that keep the geofences -/

theorem length_knownOptions (s : LocationAPIClientBase)
    (items : List (BitVec 32 × GeofenceOption)) : (s.knownOptions items).length =
      (s.mGeofenceBiDict.knownSessions (items.map Prod.fst)).length := by
  unfold knownOptions BiDict.knownSessions BiDict.knownIds
  rw [List.filter_map]
  simp only [List.length_map]
  rfl

theorem knownSessions_eq_nil {ids : List (BitVec 32)} :
    d.knownSessions ids = [] ↔ d.knownIds ids = [] := List.map_eq_nil_iff

/-- What a command that keeps the geofences passes on and stores. -/
theorem updateGeofences_spec (s : LocationAPIClientBase)
    (items : List (BitVec 32 × Option (BitVec 32))) (request : GeofenceRequest)
    (call : List (BitVec 32) → GeofenceCall) (huse : s.geofencesInUse = true) :
    (s.updateGeofences items request call).geofenceCalls = s.geofenceCalls ++
      (if s.mGeofenceBiDict.knownIds (items.map Prod.fst) = [] then []
      else [call (s.mGeofenceBiDict.knownSessions (items.map Prod.fst))]) ∧
    ∀ session, (s.updateGeofences items request call).mGeofenceBiDict.mExtMap.find session =
      (s.mGeofenceBiDict.maskOfSession (masksOf items) session).or
        (s.mGeofenceBiDict.mExtMap.find session) := by
  obtain ⟨-, hsessions, hext⟩ := foldl_setGeofenceMask s.mGeofenceBiDict items
  unfold updateGeofences
  rw [if_pos huse]
  simp only [hsessions]
  by_cases hknown : s.mGeofenceBiDict.knownIds (items.map Prod.fst) = []
  · rw [if_neg (not_not_intro (knownSessions_eq_nil.mpr hknown)), if_pos hknown, List.append_nil]
    exact ⟨rfl, hext⟩
  · rw [if_pos fun h => hknown (knownSessions_eq_nil.mp h), if_neg hknown]
    exact ⟨rfl, hext⟩

theorem updateGeofences_of_not_inUse (items : List (BitVec 32 × Option (BitVec 32)))
    (request : GeofenceRequest) (call : List (BitVec 32) → GeofenceCall)
    (huse : ¬ s.geofencesInUse = true) : s.updateGeofences items request call = s := by
  unfold updateGeofences
  rw [if_neg huse]

/-- Nothing is known if nothing is passed on, and nothing is to be stored. -/
theorem known_nil_of_calls {calls : List GeofenceCall} {ids : List (BitVec 32)} {call : GeofenceCall}
    (h : calls = calls ++ if d.knownIds ids = [] then [] else [call]) : d.knownIds ids = [] := by
  by_contra hknown
  rw [if_neg hknown] at h
  have hlength := congrArg List.length h
  rw [List.length_append, List.length_singleton] at hlength
  omega

theorem not_known_of_mask {masks : List (BitVec 32 × BitVec 32)} {mask : BitVec 32}
    (hmask : BiDict.maskOf masks id = some mask) (hknown : d.Known id) :
    d.knownIds (masks.map Prod.fst) ≠ [] := by
  obtain ⟨x, hx, -⟩ := Option.map_eq_some_iff.mp hmask
  have hid : x.1 = id := by simpa using List.find?_some hx
  have hmem : x ∈ masks := List.mem_reverse.mp (List.mem_of_find?_eq_some hx)
  refine List.ne_nil_of_mem (List.mem_filter.mpr ⟨List.mem_map.mpr ⟨x, hmem, hid⟩, ?_⟩)
  exact decide_eq_true hknown

/-- A mask for a session is stored exactly if it is the last one. -/
theorem or_eq_some_iff_of_mask {masks : List (BitVec 32 × BitVec 32)} {mask : BitVec 32}
    {ext : Option (BitVec 32)} (hmask : BiDict.maskOf masks id = some mask) (hknown : d.Known id) :
    (d.maskOfSession masks (d.getSession id)).or ext = some mask ↔
      d.maskOfSession masks (d.getSession id) = some mask := by
  obtain ⟨x, hx, -⟩ := Option.map_eq_some_iff.mp hmask
  have hid : x.1 = id := by simpa using List.find?_some hx
  have hmem : x ∈ masks.reverse := List.mem_of_find?_eq_some hx
  have hsome : (masks.reverse.find? fun x => d.Known x.1 ∧ d.getSession x.1 = d.getSession id).isSome =
      true := by
    refine List.find?_isSome.mpr ⟨x, hmem, decide_eq_true ?_⟩
    rw [hid]
    exact ⟨hknown, rfl⟩
  obtain ⟨y, hy⟩ := Option.isSome_iff_exists.mp hsome
  unfold BiDict.maskOfSession
  rw [hy]
  exact Iff.rfl

/-- A command that keeps the geofences, whose call reads `call`. -/
theorem compacted_update_iff {cmd : GeofenceArrayCommand} {items : List (BitVec 32 × Option (BitVec 32))}
    {request : GeofenceRequest} {call : List (BitVec 32) → GeofenceCall}
    (happly : s.applyGeofences cmd = s.updateGeofences items request call)
    (hids : items.map Prod.fst = cmd.ids) (hmasks : masksOf items = cmd.masks)
    (hsub : ∀ id mask, s.mGeofenceBiDict.Known id → BiDict.maskOf cmd.masks id = some mask →
      s.mGeofenceBiDict.knownIds cmd.ids ≠ []) :
    s.Compacted cmd ↔
      (s.mGeofenceBiDict.knownIds cmd.ids ≠ [] → s.geofencesInUse = true) ∧
      (s.mGeofenceBiDict.knownIds cmd.ids ≠ [] →
        (call (s.mGeofenceBiDict.knownSessions cmd.ids)).read = s.callOf cmd) ∧
      ∀ id mask, s.mGeofenceBiDict.Known id → BiDict.maskOf cmd.masks id = some mask →
        s.mGeofenceBiDict.maskOfSession cmd.masks (s.mGeofenceBiDict.getSession id) = some mask := by
  by_cases huse : s.geofencesInUse = true
  · obtain ⟨hcalls, hext⟩ := updateGeofences_spec s items request call huse
    rw [hids] at hcalls
    rw [hmasks] at hext
    have hstored (id mask : BitVec 32) (hknown : s.mGeofenceBiDict.Known id)
        (hmask : BiDict.maskOf cmd.masks id = some mask) :
        (s.applyGeofences cmd).mGeofenceBiDict.mExtMap.find (s.mGeofenceBiDict.getSession id) =
          some mask ↔ s.mGeofenceBiDict.maskOfSession cmd.masks
            (s.mGeofenceBiDict.getSession id) = some mask := by
      rw [happly, hext]
      exact or_eq_some_iff_of_mask hmask hknown
    have hpassed : (s.applyGeofences cmd).geofenceCalls.map GeofenceCall.read =
        s.geofenceCalls.map GeofenceCall.read ++
          (if s.mGeofenceBiDict.knownIds cmd.ids = [] then [] else [s.callOf cmd]) ↔
        (s.mGeofenceBiDict.knownIds cmd.ids ≠ [] →
          (call (s.mGeofenceBiDict.knownSessions cmd.ids)).read = s.callOf cmd) := by
      rw [happly, hcalls, List.map_append, List.append_cancel_left_eq]
      by_cases hknown : s.mGeofenceBiDict.knownIds cmd.ids = []
      · rw [if_pos hknown, if_pos hknown]
        exact ⟨fun _ h => absurd hknown h, fun _ => rfl⟩
      · rw [if_neg hknown, if_neg hknown, List.map_singleton, List.singleton_inj]
        exact ⟨fun h _ => h, fun h => h hknown⟩
    constructor
    · intro h
      exact ⟨fun _ => huse, hpassed.mp h.passed, fun id mask hknown hmask =>
        (hstored id mask hknown hmask).mp (h.stored id mask hknown hmask)⟩
    · rintro ⟨-, hread, hagree⟩
      exact ⟨hpassed.mpr hread, fun id mask hknown hmask =>
        (hstored id mask hknown hmask).mpr (hagree id mask hknown hmask)⟩
  · have hsame := updateGeofences_of_not_inUse items request call huse
    constructor
    · intro h
      have hnone : s.mGeofenceBiDict.knownIds cmd.ids = [] := by
        have hpassed := h.passed
        rw [happly, hsame] at hpassed
        exact known_nil_of_calls hpassed
      exact ⟨fun hknown => absurd hnone hknown, fun hknown => absurd hnone hknown,
        fun id mask hknown hmask => absurd hnone (hsub id mask hknown hmask)⟩
    · rintro ⟨hknown, -, -⟩
      have hnone : s.mGeofenceBiDict.knownIds cmd.ids = [] := by
        by_contra h
        exact huse (hknown h)
      refine ⟨?_, fun id mask hid hmask => absurd hnone (hsub id mask hid hmask)⟩
      rw [happly, hsame, if_pos hnone, List.append_nil]

/-! ### Removing geofences -/

/-- The dictionary after some removals: the sessions `taken` and the ids `gone` are erased. -/
structure Erased (d d' : BiDict (BitVec 32)) (taken gone : List (BitVec 32)) : Prop where
  forward : ∀ id, d'.mForwardMap.find id = if id ∈ gone then none else d.mForwardMap.find id
  backward : ∀ session, d'.mBackwardMap.find session =
    if session ∈ taken then none else d.mBackwardMap.find session
  ext : ∀ session, d'.mExtMap.find session =
    if session ∈ taken then none else d.mExtMap.find session

theorem Erased.refl (d : BiDict (BitVec 32)) : Erased d d [] [] :=
  ⟨fun _ => rfl, fun _ => rfl, fun _ => rfl⟩

theorem fst_subscript (m : OrdMap (BitVec 32) (BitVec 32)) (key : BitVec 32) :
    (subscript m key).1 = (m.find key).getD 0 := by
  unfold subscript
  cases m.find key with
  | none => rfl
  | some v => rfl

theorem find_subscript_erase (m : OrdMap (BitVec 32) (BitVec 32)) (key k : BitVec 32) :
    ((subscript m key).2.erase key).find k = if k = key then none else m.find k := by
  rw [OrdMap.find_erase]
  unfold subscript
  cases m.find key with
  | some v => rfl
  | none =>
    split
    · rfl
    · rename_i hne
      exact OrdMap.find_insert.trans (if_neg hne)

theorem Erased.rmBySession {taken gone : List (BitVec 32)} (h : Erased d d' taken gone)
    (session : BitVec 32) :
    Erased d (d'.rmBySession session) (session :: taken) (d.filed taken session :: gone) := by
  have hid : (subscript d'.mBackwardMap session).1 = d.filed taken session := by
    rw [fst_subscript, h.backward]
    by_cases htaken : session ∈ taken
    · rw [if_pos htaken, BiDict.filed_of_mem htaken]
      rfl
    · rw [if_neg htaken, BiDict.filed_of_not_mem htaken]
      rfl
  refine ⟨fun id => ?_, fun k => ?_, fun k => ?_⟩
  · show (d'.mForwardMap.erase (subscript d'.mBackwardMap session).1).find id = _
    rw [OrdMap.find_erase, hid, h.forward]
    simp only [List.mem_cons]
    by_cases hk : id = d.filed taken session
    · rw [if_pos hk, if_pos (Or.inl hk)]
    · rw [if_neg hk]
      simp only [hk, false_or]
  · show ((subscript d'.mBackwardMap session).2.erase session).find k = _
    rw [find_subscript_erase, h.backward]
    simp only [List.mem_cons]
    by_cases hk : k = session
    · rw [if_pos hk, if_pos (Or.inl hk)]
    · rw [if_neg hk]
      simp only [hk, false_or]
  · show (d'.mExtMap.erase session).find k = _
    rw [OrdMap.find_erase, h.ext]
    simp only [List.mem_cons]
    by_cases hk : k = session
    · rw [if_pos hk, if_pos (Or.inl hk)]
    · rw [if_neg hk]
      simp only [hk, false_or]

theorem Erased.getSession {taken gone : List (BitVec 32)} (h : Erased d d' taken gone)
    (id : BitVec 32) : d'.getSession id = if id ∈ gone then 0 else d.getSession id := by
  unfold BiDict.getSession
  rw [h.forward]
  split
  · rfl
  · rfl

/-- One turn of the loop: an id that has been taken away is not known any more. -/
theorem removeGeofence_eq {r : BiDict (BitVec 32)} {sessions taken gone : List (BitVec 32)}
    (h : Erased d d' taken gone) (id : BitVec 32) :
    (d.Known id → id ∉ gone → ∃ r', removeGeofence (d', r, sessions) id =
      (d'.rmBySession (d.getSession id), r', sessions ++ [d.getSession id])) ∧
    (¬ d.Known id ∨ id ∈ gone → removeGeofence (d', r, sessions) id = (d', r, sessions)) := by
  unfold removeGeofence
  simp only [h.getSession]
  constructor
  · intro hknown hgone
    have hpos : 0 < d.getSession id := hknown
    rw [if_neg hgone, if_pos hpos]
    exact ⟨_, rfl⟩
  · rintro (hknown | hgone)
    · have hpos : ¬ 0 < d.getSession id := hknown
      by_cases hgone : id ∈ gone
      · rw [if_pos hgone, if_neg (by decide)]
      · rw [if_neg hgone, if_neg hpos]
    · rw [if_pos hgone, if_neg (by decide)]

theorem knownIds_cons (id : BitVec 32) (ids : List (BitVec 32)) :
    d.knownIds (id :: ids) = if d.Known id then id :: d.knownIds ids else d.knownIds ids := by
  unfold BiDict.knownIds
  rw [List.filter_cons]
  simp only [decide_eq_true_eq]

/-- At most the ids that are left are removed. -/
theorem length_removeGeofences (ids : List (BitVec 32)) :
    ∀ {d' r : BiDict (BitVec 32)} {sessions taken gone : List (BitVec 32)},
      Erased d d' taken gone →
      (ids.foldl removeGeofence (d', r, sessions)).2.2.length ≤
        sessions.length + ((d.knownIds ids).filter fun id => id ∉ gone).length := by
  induction ids with
  | nil => exact fun _ => Nat.le_refl _
  | cons id ids ih =>
    intro d' r sessions taken gone h
    rw [List.foldl_cons, knownIds_cons]
    by_cases hid : d.Known id ∧ id ∉ gone
    · obtain ⟨r', hstep⟩ := (removeGeofence_eq h id).1 hid.1 hid.2
      rw [hstep, if_pos hid.1, List.filter_cons, if_pos (decide_eq_true hid.2), List.length_cons]
      have hle := @ih _ r' (sessions ++ [d.getSession id]) _ _ (h.rmBySession (d.getSession id))
      have hmono : ((d.knownIds ids).filter fun i => i ∉ d.filed taken (d.getSession id) :: gone).length ≤
          ((d.knownIds ids).filter fun i => i ∉ gone).length := by
        refine (List.monotone_filter_right _ fun i hi => ?_).length_le
        have hne := of_decide_eq_true hi
        exact decide_eq_true fun hmem => hne (List.mem_cons_of_mem _ hmem)
      rw [List.length_append, List.length_singleton] at hle
      omega
    · have hid' : ¬ d.Known id ∨ id ∈ gone := by
        rw [← Classical.not_not (a := id ∈ gone)]
        exact Classical.not_and_iff_not_or_not.mp hid
      rw [(removeGeofence_eq h id).2 hid']
      refine (ih h).trans (Nat.add_le_add_left ?_ _)
      split
      · rename_i hknown
        have hgone : id ∈ gone := hid'.resolve_left (not_not_intro hknown)
        rw [List.filter_cons, if_neg fun hd => absurd hgone (of_decide_eq_true hd)]
      · exact Nat.le_refl _

/-- The ids that go with the known ones when these are removed. -/
def filedIds (d : BiDict (BitVec 32)) : List (BitVec 32) → List (BitVec 32) → List (BitVec 32)
  | _, [] => []
  | taken, id :: ids =>
    if d.Known id then
      d.filed taken (d.getSession id) :: filedIds d (d.getSession id :: taken) ids
    else filedIds d taken ids

/-- If no id is taken away before its turn, all known ids are removed. -/
theorem removeGeofences_of_undisturbed (ids : List (BitVec 32)) :
    ∀ {d' r : BiDict (BitVec 32)} {sessions taken gone : List (BitVec 32)},
      Erased d d' taken gone → d.Undisturbed taken ids → (∀ id ∈ d.knownIds ids, id ∉ gone) →
      (ids.foldl removeGeofence (d', r, sessions)).2.2 = sessions ++ d.knownSessions ids ∧
        Erased d (ids.foldl removeGeofence (d', r, sessions)).1
          ((d.knownSessions ids).reverse ++ taken) ((filedIds d taken ids).reverse ++ gone) := by
  induction ids with
  | nil => exact fun h _ _ => ⟨(List.append_nil _).symm, h⟩
  | cons id ids ih =>
    intro d' r sessions taken gone h hund hgone
    rw [List.foldl_cons]
    unfold BiDict.Undisturbed at hund
    unfold filedIds BiDict.knownSessions
    rw [knownIds_cons] at hgone ⊢
    by_cases hknown : d.Known id
    · rw [if_pos hknown] at hund hgone ⊢
      obtain ⟨r', hstep⟩ := (removeGeofence_eq h id).1 hknown (hgone id List.mem_cons_self)
      rw [hstep, if_pos hknown]
      have hrest := @ih _ r' (sessions ++ [d.getSession id]) _ _ (h.rmBySession (d.getSession id))
        hund.2 fun i hi hmem => ?_
      · rw [List.map_cons, List.reverse_cons, List.reverse_cons, List.append_assoc, List.append_assoc]
        rw [List.append_assoc] at hrest
        exact hrest
      · rcases List.mem_cons.mp hmem with rfl | hmem
        · exact hund.1 hi
        · exact hgone i (List.mem_cons_of_mem _ hi) hmem
    · rw [if_neg hknown] at hund hgone ⊢
      rw [(removeGeofence_eq h id).2 (.inl hknown), if_neg hknown]
      exact ih h hund hgone

/-- If an id is taken away before its turn, there are fewer sessions than known ids. -/
theorem removeGeofences_of_disturbed (ids : List (BitVec 32)) :
    ∀ {d' r : BiDict (BitVec 32)} {sessions taken gone : List (BitVec 32)},
      Erased d d' taken gone → ¬ d.Undisturbed taken ids → (∀ id ∈ d.knownIds ids, id ∉ gone) →
      (ids.foldl removeGeofence (d', r, sessions)).2.2.length <
        sessions.length + (d.knownIds ids).length := by
  induction ids with
  | nil => exact fun _ hund => absurd trivial hund
  | cons id ids ih =>
    intro d' r sessions taken gone h hund hgone
    rw [List.foldl_cons]
    unfold BiDict.Undisturbed at hund
    rw [knownIds_cons] at hgone ⊢
    by_cases hknown : d.Known id
    · rw [if_pos hknown] at hund hgone ⊢
      obtain ⟨r', hstep⟩ := (removeGeofence_eq h id).1 hknown (hgone id List.mem_cons_self)
      have herased := h.rmBySession (d.getSession id)
      rw [hstep, List.length_cons]
      by_cases hfiled : d.filed taken (d.getSession id) ∈ d.knownIds ids
      · have hle := @length_removeGeofences d ids _ r' (sessions ++ [d.getSession id]) _ _ herased
        have hlt : ((d.knownIds ids).filter fun i =>
            i ∉ d.filed taken (d.getSession id) :: gone).length < (d.knownIds ids).length :=
          List.length_filter_lt_length_iff_exists.mpr
            ⟨_, hfiled, fun hd => of_decide_eq_true hd List.mem_cons_self⟩
        rw [List.length_append, List.length_singleton] at hle
        omega
      · have hlt := @ih _ r' (sessions ++ [d.getSession id]) _ _ herased
          (fun hrest => hund ⟨hfiled, hrest⟩) fun i hi hmem => ?_
        · rw [List.length_append, List.length_singleton] at hlt
          omega
        · rcases List.mem_cons.mp hmem with rfl | hmem
          · exact hfiled hi
          · exact hgone i (List.mem_cons_of_mem _ hi) hmem
    · rw [if_neg hknown] at hund hgone ⊢
      rw [(removeGeofence_eq h id).2 (.inl hknown)]
      exact ih h hund hgone

theorem undisturbed_of_knownIds_nil {ids : List (BitVec 32)} (h : d.knownIds ids = []) :
    ∀ taken, d.Undisturbed taken ids := by
  induction ids with
  | nil => exact fun _ => trivial
  | cons id ids ih =>
    intro taken
    rw [knownIds_cons] at h
    unfold BiDict.Undisturbed
    split at h
    · cases h
    · rename_i hknown
      rw [if_neg hknown]
      exact ih h taken

theorem compacted_remove_iff (ids : List (BitVec 32)) :
    s.Compacted (.remove ids) ↔
      (s.mGeofenceBiDict.knownIds ids ≠ [] → s.geofencesInUse = true) ∧
      s.mGeofenceBiDict.Undisturbed [] ids := by
  have hmasks (id mask : BitVec 32) : BiDict.maskOf (GeofenceArrayCommand.remove ids).masks id ≠ some mask :=
    fun h => by cases h
  by_cases huse : s.geofencesInUse = true
  · have hcalls : (s.applyGeofences (.remove ids)).geofenceCalls = s.geofenceCalls ++
        if (ids.foldl removeGeofence (s.mGeofenceBiDict, .empty, [])).2.2 = [] then []
        else [.removeGeofences (ids.foldl removeGeofence (s.mGeofenceBiDict, .empty, [])).2.2] := by
      show (s.locAPIRemoveGeofences ids).geofenceCalls = _
      unfold locAPIRemoveGeofences
      rw [if_pos huse]
      simp only
      by_cases hnil : (ids.foldl removeGeofence (s.mGeofenceBiDict, .empty, [])).2.2 = []
      · rw [if_neg (not_not_intro hnil), if_pos hnil, List.append_nil]
        rfl
      · rw [if_pos hnil, if_neg hnil]
        rfl
    have hgone : ∀ id ∈ s.mGeofenceBiDict.knownIds ids, id ∉ ([] : List (BitVec 32)) :=
      fun _ _ => List.not_mem_nil
    constructor
    · intro h
      refine ⟨fun _ => huse, ?_⟩
      by_contra hund
      have hlt := @removeGeofences_of_disturbed _ ids _ .empty [] _ _ (.refl s.mGeofenceBiDict) hund
        hgone
      have hpassed := h.passed
      rw [hcalls, List.map_append, List.append_cancel_left_eq] at hpassed
      generalize (ids.foldl removeGeofence (s.mGeofenceBiDict, .empty, [])).2.2 = sessions at *
      have hknown : s.mGeofenceBiDict.knownIds (GeofenceArrayCommand.remove ids).ids ≠ [] := by
        intro hnil
        have hlength := congrArg List.length hnil
        change (s.mGeofenceBiDict.knownIds ids).length = 0 at hlength
        rw [hlength] at hlt
        exact absurd hlt (Nat.not_lt_zero _)
      rw [if_neg hknown] at hpassed
      split at hpassed
      · cases hpassed
      · have hsessions := GeofenceCall.removeGeofences.inj (List.singleton_inj.mp hpassed)
        rw [hsessions] at hlt
        unfold BiDict.knownSessions at hlt
        rw [List.length_map] at hlt
        change (s.mGeofenceBiDict.knownIds ids).length < 0 + _ at hlt
        omega
    · rintro ⟨-, hund⟩
      obtain ⟨hsessions, -⟩ := @removeGeofences_of_undisturbed _ ids _ .empty [] _ _
        (.refl s.mGeofenceBiDict) hund hgone
      refine ⟨?_, fun id mask _ hmask => absurd hmask (hmasks id mask)⟩
      rw [hcalls, List.map_append, List.append_cancel_left_eq, hsessions, List.nil_append]
      by_cases hknown : s.mGeofenceBiDict.knownIds ids = []
      · have hnil : s.mGeofenceBiDict.knownIds (GeofenceArrayCommand.remove ids).ids = [] := hknown
        rw [if_pos (knownSessions_eq_nil.mpr hknown), if_pos hnil]
        rfl
      · have hne : s.mGeofenceBiDict.knownIds (GeofenceArrayCommand.remove ids).ids ≠ [] := hknown
        rw [if_neg fun h => hknown (knownSessions_eq_nil.mp h), if_neg hne]
        rfl
  · have hsame : s.applyGeofences (.remove ids) = s := by
      show s.locAPIRemoveGeofences ids = s
      unfold locAPIRemoveGeofences
      rw [if_neg huse]
    constructor
    · intro h
      have hpassed := h.passed
      rw [hsame] at hpassed
      have hnil := known_nil_of_calls hpassed
      exact ⟨fun hknown => absurd hnil hknown, undisturbed_of_knownIds_nil hnil []⟩
    · rintro ⟨hknown, -⟩
      have hnil : s.mGeofenceBiDict.knownIds ids = [] := by
        by_contra h
        exact huse (hknown h)
      refine ⟨?_, fun id mask _ hmask => absurd hmask (hmasks id mask)⟩
      have hnil' : s.mGeofenceBiDict.knownIds (GeofenceArrayCommand.remove ids).ids = [] := hnil
      rw [hsame, if_pos hnil', List.append_nil]

/-! ### The arrays of every command -/

theorem masksOf_some {α : Type*} (items : List (BitVec 32 × α)) (f : α → BitVec 32) :
    masksOf (items.map fun x => (x.1, some (f x.2))) = items.map fun x => (x.1, f x.2) := by
  unfold masksOf
  rw [List.filterMap_map]
  show items.filterMap (some ∘ fun x => (x.1, f x.2)) = _
  rw [List.filterMap_eq_map]

theorem masksOf_none (ids : List (BitVec 32)) : masksOf (ids.map fun id => (id, none)) = [] := by
  unfold masksOf
  rw [List.filterMap_map]
  exact List.filterMap_eq_nil_iff.mpr fun _ _ => rfl

/-- The condition is exact: in every state of the dictionary, and whatever arrays are given. -/
theorem compacted_iff (s : LocationAPIClientBase) (cmd : GeofenceArrayCommand) :
    s.Compacted cmd ↔ s.Compactable cmd := by
  have hids {α : Type} (items : List (BitVec 32 × α)) (f : α → BitVec 32) :
      (items.map fun x => (x.1, some (f x.2))).map Prod.fst = items.map Prod.fst := by
    rw [List.map_map]
    rfl
  have hids' (ids : List (BitVec 32)) :
      (ids.map fun id => (id, (none : Option (BitVec 32)))).map Prod.fst = ids := by
    rw [List.map_map]
    exact List.map_id ids
  cases cmd with
  | modify items =>
    have happly : s.applyGeofences (.modify items) = s.updateGeofences
        (items.map fun x => (x.1, some x.2.breachTypeMask)) .ModifyGeofencesRequest
        fun sessions => .modifyGeofences sessions (items.map Prod.snd) := rfl
    rw [compacted_update_iff happly (hids items fun option => option.breachTypeMask)
      (masksOf_some items fun option => option.breachTypeMask) fun id mask hid hmask => ?_]
    · have hread : (s.mGeofenceBiDict.knownIds (items.map Prod.fst) ≠ [] →
          (GeofenceCall.modifyGeofences (s.mGeofenceBiDict.knownSessions (items.map Prod.fst))
            (items.map Prod.snd)).read = s.callOf (.modify items)) ↔
          s.knownOptions items <+: items.map Prod.snd := by
        rw [List.prefix_iff_eq_take, length_knownOptions]
        have hcall : s.callOf (.modify items) = .modifyGeofences
            (s.mGeofenceBiDict.knownSessions (items.map Prod.fst)) (s.knownOptions items) := rfl
        rw [hcall]
        constructor
        · intro h
          by_cases hknown : s.mGeofenceBiDict.knownIds (items.map Prod.fst) = []
          · have hnil := List.eq_nil_of_length_eq_zero ((length_knownOptions s items).trans
              (congrArg List.length (knownSessions_eq_nil.mpr hknown)))
            rw [hnil, knownSessions_eq_nil.mpr hknown]
            rfl
          · exact (GeofenceCall.modifyGeofences.inj (h hknown)).2.symm
        · intro h _
          exact congrArg (GeofenceCall.modifyGeofences _) h.symm
      constructor
      · rintro ⟨huse, hcall, hagree⟩
        refine ⟨huse, fun items' hcmd => ?_, hagree, fun _ hcmd => by cases hcmd⟩
        obtain rfl := GeofenceArrayCommand.modify.inj hcmd
        exact hread.mp hcall
      · intro h
        exact ⟨h.inUse, hread.mpr (h.options items rfl), h.masks⟩
    · have hne := not_known_of_mask hmask hid
      unfold GeofenceArrayCommand.masks at hne
      simp only [List.map_map] at hne
      exact hne
  | resume items =>
    have happly : s.applyGeofences (.resume items) = s.updateGeofences
        (items.map fun x => (x.1, some x.2)) .ResumeGeofencesRequest .resumeGeofences := by
      show s.updateGeofences (List.zipWith _ _ _) _ _ = _
      congr 1
      rw [List.zipWith_map, List.zipWith_self]
    rw [compacted_update_iff happly (hids items fun m => m)
      ((masksOf_some items fun m => m).trans (List.map_id items)) fun id mask hid hmask =>
        not_known_of_mask hmask hid]
    constructor
    · rintro ⟨huse, -, hagree⟩
      exact ⟨huse, fun _ hcmd => (by cases hcmd), hagree, fun _ hcmd => by cases hcmd⟩
    · intro h
      exact ⟨h.inUse, fun _ => rfl, h.masks⟩
  | resumeWithoutMask ids =>
    have happly : s.applyGeofences (.resumeWithoutMask ids) = s.updateGeofences (ids.map fun id => (id, none))
        .ResumeGeofencesRequest .resumeGeofences := rfl
    rw [compacted_update_iff happly (hids' ids) (masksOf_none ids) fun _ _ _ hmask => by cases hmask]
    constructor
    · rintro ⟨huse, -, hagree⟩
      exact ⟨huse, fun _ hcmd => (by cases hcmd), hagree, fun _ hcmd => by cases hcmd⟩
    · intro h
      exact ⟨h.inUse, fun _ => rfl, h.masks⟩
  | pause ids =>
    have happly : s.applyGeofences (.pause ids) = s.updateGeofences (ids.map fun id => (id, none))
        .PauseGeofencesRequest .pauseGeofences := rfl
    rw [compacted_update_iff happly (hids' ids) (masksOf_none ids) fun _ _ _ hmask => by cases hmask]
    constructor
    · rintro ⟨huse, -, hagree⟩
      exact ⟨huse, fun _ hcmd => (by cases hcmd), hagree, fun _ hcmd => by cases hcmd⟩
    · intro h
      exact ⟨h.inUse, fun _ => rfl, h.masks⟩
  | remove ids =>
    rw [compacted_remove_iff]
    constructor
    · rintro ⟨huse, hund⟩
      refine ⟨huse, fun _ hcmd => (by cases hcmd), fun _ _ _ hmask => (by cases hmask),
        fun ids' hcmd => ?_⟩
      obtain rfl := GeofenceArrayCommand.remove.inj hcmd
      exact hund
    · intro h
      exact ⟨h.inUse, h.undisturbed ids rfl⟩

/-- Options with the responsiveness given. -/
def respondingIn (responsiveness : BitVec 32) : GeofenceOption := ⟨16, 3, responsiveness, 0⟩

/-- A client with one geofence, whose id is 7. -/
def oneGeofence : LocationAPIClientBase :=
  ((initial.locAPISetCallbacks true).locAPIAddGeofences [(7, respondingIn 5000)] (some [3])).2

/-- The options of the unknown id 8 go to the geofence with id 7. -/
theorem modify_not_compacted :
    ¬ oneGeofence.Compacted (.modify [(8, respondingIn 1000), (7, respondingIn 2000)]) := by
  intro h
  have hpassed := h.passed
  revert hpassed
  decide

end

end LocationAPIClientBase

end GpsHal
