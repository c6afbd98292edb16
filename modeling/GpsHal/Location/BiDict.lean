import GpsHal.Util.OrdMap

/-!
# `BiDict` : ids and sessions

A client names its sessions by ids of its own, while the location API gives out session numbers.
`BiDict` keeps both directions in two maps and further data for each session in a third.  Some of
its functions read a map with `[]`, which stores a 0 under a key that is absent.

## Main definitions

* `BiDict.Valid` : the maps agree and no session is 0.

## Main results

* `BiDict.valid_setAll_iff` : when a number of entries, stored one after another, leave the maps
  valid.
* `BiDict.valid_rmById`, `BiDict.valid_rmBySession` : removing an entry that is there.
-/

namespace GpsHal

/-- `m[key]`: the value, and the map, which has got the key if it was absent. -/
def subscript (m : OrdMap (BitVec 32) (BitVec 32)) (key : BitVec 32) :
    BitVec 32 × OrdMap (BitVec 32) (BitVec 32) :=
  match m.find key with
  | some v => (v, m)
  | none => (0, m.insert key 0)

theorem subscript_of_find {m : OrdMap (BitVec 32) (BitVec 32)} {key v : BitVec 32}
    (h : m.find key = some v) : subscript m key = (v, m) := by
  simp [subscript, h]

/-- `BiDict<T>`; the default of `T` is the object with every byte zero. -/
structure BiDict (T : Type*) where
  /-- mapping id->session -/
  mForwardMap : OrdMap (BitVec 32) (BitVec 32)
  /-- mapping session->id -/
  mBackwardMap : OrdMap (BitVec 32) (BitVec 32)
  /-- mapping session->ext -/
  mExtMap : OrdMap (BitVec 32) T

/-- The arguments of one `set`. -/
structure BiDictItem (T : Type*) where
  id : BitVec 32
  session : BitVec 32
  ext : T

namespace BiDict

variable {T : Type*}

def empty : BiDict T := ⟨∅, ∅, ∅⟩

variable (d : BiDict T) (id session : BitVec 32)

def hasId : Bool := (d.mForwardMap.find id).isSome

def hasSession : Bool := (d.mBackwardMap.find session).isSome

def set (ext : T) : BiDict T where
  mForwardMap := d.mForwardMap.insert id session
  mBackwardMap := d.mBackwardMap.insert session id
  mExtMap := d.mExtMap.insert session ext

def clear (_ : BiDict T) : BiDict T := empty

def rmById : BiDict T :=
  let forward := subscript d.mForwardMap id
  { mForwardMap := forward.2.erase id
    mBackwardMap := d.mBackwardMap.erase forward.1
    mExtMap := d.mExtMap.erase forward.1 }

def rmBySession : BiDict T :=
  let backward := subscript d.mBackwardMap session
  { mForwardMap := d.mForwardMap.erase backward.1
    mBackwardMap := backward.2.erase session
    mExtMap := d.mExtMap.erase session }

def getId : BitVec 32 := (d.mBackwardMap.find session).getD 0

def getSession : BitVec 32 := (d.mForwardMap.find id).getD 0

/-- The data for an id, and the dictionary after the lookup. -/
def getExtById [Inhabited T] : T × BiDict T :=
  let forward := subscript d.mForwardMap id
  (if 0 < forward.1 then (d.mExtMap.find forward.1).getD default else default,
    { d with mForwardMap := forward.2 })

def getExtBySession [Inhabited T] : T := (d.mExtMap.find session).getD default

/-- The sessions, in their order. -/
def getAllSessions : List (BitVec 32) := d.mBackwardMap.entries.map Prod.fst

/-- One `set` after another. -/
def setAll (items : List (BiDictItem T)) : BiDict T :=
  items.foldl (fun d x => d.set x.id x.session x.ext) d

/-! ### Valid dictionaries -/

/-- The maps agree, and no entry has session 0. -/
structure Valid : Prop where
  forward_iff : ∀ id session,
    d.mForwardMap.find id = some session ↔ d.mBackwardMap.find session = some id
  ext_iff : ∀ session, (d.mExtMap.find session).isSome = (d.mBackwardMap.find session).isSome
  backward_zero : d.mBackwardMap.find 0 = none

theorem valid_empty : (empty : BiDict T).Valid :=
  ⟨fun _ _ => by simp [empty], fun _ => rfl, rfl⟩

variable {d id session}

theorem Valid.ne_zero (hd : d.Valid) (h : d.mForwardMap.find id = some session) : session ≠ 0 := by
  intro h0
  subst h0
  have hb := (hd.forward_iff id 0).1 h
  rw [hd.backward_zero] at hb
  cases hb

theorem find_of_getSession (h : d.getSession id ≠ 0) :
    d.mForwardMap.find id = some (d.getSession id) := by
  cases hf : d.mForwardMap.find id with
  | none => simp [getSession, hf] at h
  | some s => simp [getSession, hf]

/-- Looking up an id that is there leaves the dictionary alone. -/
theorem getExtById_snd [Inhabited T] (h : d.hasId id = true) : (d.getExtById id).2 = d := by
  obtain ⟨session, hs⟩ := Option.isSome_iff_exists.1 h
  simp [getExtById, subscript_of_find hs]

/-- The data for an id are those for its session. -/
theorem getExtById_fst [Inhabited T] (hd : d.Valid) (h : d.mForwardMap.find id = some session) :
    d.mExtMap.find session = some (d.getExtById id).1 := by
  have hs : (d.mExtMap.find session).isSome := by
    rw [hd.ext_iff, (hd.forward_iff _ _).1 h]
    rfl
  obtain ⟨ext, hext⟩ := Option.isSome_iff_exists.1 hs
  have hne : session ≠ 0 := hd.ne_zero h
  have hdefault : session = 0#32 → ext = default := fun h0 => absurd h0 hne
  simpa [getExtById, subscript_of_find h, hext] using hdefault

/-! ### Removing entries -/

theorem rmById_of_find (h : d.mForwardMap.find id = some session) :
    d.rmById id =
      ⟨d.mForwardMap.erase id, d.mBackwardMap.erase session, d.mExtMap.erase session⟩ := by
  simp [rmById, subscript_of_find h]

theorem rmBySession_of_find (h : d.mBackwardMap.find session = some id) :
    d.rmBySession session =
      ⟨d.mForwardMap.erase id, d.mBackwardMap.erase session, d.mExtMap.erase session⟩ := by
  simp [rmBySession, subscript_of_find h]

theorem Valid.erase (hd : d.Valid) (h : d.mForwardMap.find id = some session) :
    (⟨d.mForwardMap.erase id, d.mBackwardMap.erase session, d.mExtMap.erase session⟩ :
      BiDict T).Valid := by
  have hb := (hd.forward_iff _ _).1 h
  refine ⟨fun i s => ?_, fun s => ?_, ?_⟩
  · simp only [OrdMap.find_erase]
    by_cases hi : i = id
    · subst hi
      by_cases hs : s = session
      · simp [hs]
      · -- the backward entry of another session does not have this id
        have hne : d.mBackwardMap.find s ≠ some i := fun hsi =>
          hs (Option.some.inj (((hd.forward_iff i s).2 hsi).symm.trans h))
        simp [hs, hne]
    · by_cases hs : s = session
      · subst hs
        have hne : d.mForwardMap.find i ≠ some s := fun his =>
          hi (Option.some.inj (((hd.forward_iff i s).1 his).symm.trans hb))
        simp [hi, hne]
      · simp [hi, hs, hd.forward_iff]
  · simp only [OrdMap.find_erase]
    by_cases hs : s = session
    · simp [hs]
    · simp [hs, hd.ext_iff]
  · rw [OrdMap.find_erase]
    split
    · rfl
    · exact hd.backward_zero

theorem valid_rmById (hd : d.Valid) (h : d.hasId id = true) : (d.rmById id).Valid := by
  obtain ⟨session, hs⟩ := Option.isSome_iff_exists.1 h
  rw [rmById_of_find hs]
  exact hd.erase hs

theorem valid_rmBySession (hd : d.Valid) (h : d.hasSession session = true) :
    (d.rmBySession session).Valid := by
  obtain ⟨id, hs⟩ := Option.isSome_iff_exists.1 h
  rw [rmBySession_of_find hs]
  exact hd.erase ((hd.forward_iff id session).2 hs)

/-! ### Storing entries -/

/-- Storing an entry again, with other data. -/
theorem valid_set_again (hd : d.Valid) (h : d.mForwardMap.find id = some session) (ext : T) :
    (d.set id session ext).Valid := by
  have hb := (hd.forward_iff _ _).1 h
  have hforward : ∀ i, (d.mForwardMap.insert id session).find i = d.mForwardMap.find i := by
    intro i
    rw [OrdMap.find_insert]
    split
    · rename_i hi
      rw [hi, h]
    · rfl
  have hbackward : ∀ s, (d.mBackwardMap.insert session id).find s = d.mBackwardMap.find s := by
    intro s
    rw [OrdMap.find_insert]
    split
    · rename_i hs
      rw [hs, hb]
    · rfl
  refine ⟨fun i s => ?_, fun s => ?_, ?_⟩
  · show (d.mForwardMap.insert id session).find i = _ ↔ _ = _
    rw [hforward, hd.forward_iff]
    exact (Eq.congr_left (hbackward s)).symm
  · show ((d.mExtMap.insert session ext).find s).isSome = _
    rw [show (d.set id session ext).mBackwardMap.find s = _ from hbackward s, OrdMap.find_insert]
    split
    · rename_i hs
      rw [hs, hb]
      rfl
    · exact hd.ext_iff s
  · exact (hbackward 0).trans hd.backward_zero

/-- The session that the last item with the id gives it. -/
def lastSession (items : List (BiDictItem T)) (id : BitVec 32) : Option (BitVec 32) :=
  (items.reverse.find? (·.id = id)).map (·.session)

/-- The id that the last item with the session gives it. -/
def lastId (items : List (BiDictItem T)) (session : BitVec 32) : Option (BitVec 32) :=
  (items.reverse.find? (·.session = session)).map (·.id)

/-- Items that may be stored: their sessions are not 0, an entry that is there has its id among
theirs exactly if it has its session, and among themselves the last item with an id and the last
with a session agree. -/
structure Storable (d : BiDict T) (items : List (BiDictItem T)) : Prop where
  session_ne : ∀ x ∈ items, x.session ≠ 0
  stored_iff : ∀ id session, d.mForwardMap.find id = some session →
    ((∃ x ∈ items, x.id = id) ↔ ∃ x ∈ items, x.session = session)
  last_iff : ∀ id session, lastSession items id = some session ↔ lastId items session = some id

variable {items : List (BiDictItem T)}

theorem lastSession_isSome : (lastSession items id).isSome = true ↔ ∃ x ∈ items, x.id = id := by
  simp [lastSession]

theorem lastId_isSome : (lastId items session).isSome = true ↔ ∃ x ∈ items, x.session = session := by
  simp [lastId]

theorem mem_of_lastSession (h : lastSession items id = some session) :
    ∃ x ∈ items, x.id = id ∧ x.session = session := by
  obtain ⟨x, hx, rfl⟩ := Option.map_eq_some_iff.1 h
  exact ⟨x, List.mem_reverse.1 (List.mem_of_find?_eq_some hx), by simpa using List.find?_some hx, rfl⟩

theorem mem_of_lastId (h : lastId items session = some id) :
    ∃ x ∈ items, x.id = id ∧ x.session = session := by
  obtain ⟨x, hx, rfl⟩ := Option.map_eq_some_iff.1 h
  exact ⟨x, List.mem_reverse.1 (List.mem_of_find?_eq_some hx), rfl, by simpa using List.find?_some hx⟩

theorem setAll_append (x : BiDictItem T) :
    d.setAll (items ++ [x]) = (d.setAll items).set x.id x.session x.ext := by
  simp [setAll]

/-- The maps after all items are stored: the last item with a key counts. -/
theorem find_setAll (items : List (BiDictItem T)) :
    (∀ id, (d.setAll items).mForwardMap.find id =
      (lastSession items id).or (d.mForwardMap.find id)) ∧
    (∀ session, (d.setAll items).mBackwardMap.find session =
      (lastId items session).or (d.mBackwardMap.find session)) ∧
    ∀ session, ((d.setAll items).mExtMap.find session).isSome =
      ((lastId items session).isSome || (d.mExtMap.find session).isSome) := by
  induction items using List.reverseRecOn with
  | nil => exact ⟨fun _ => rfl, fun _ => rfl, fun _ => rfl⟩
  | append_singleton items x ih =>
    obtain ⟨hf, hb, he⟩ := ih
    simp only [setAll_append, set, OrdMap.find_insert]
    refine ⟨fun id => ?_, fun session => ?_, fun session => ?_⟩
    · by_cases h : id = x.id
      · simp [lastSession, h]
      · have h' : x.id ≠ id := Ne.symm h
        simpa [lastSession, h, h'] using hf id
    · by_cases h : session = x.session
      · simp [lastId, h]
      · have h' : x.session ≠ session := Ne.symm h
        simpa [lastId, h, h'] using hb session
    · by_cases h : session = x.session
      · simp [lastId, h]
      · have h' : x.session ≠ session := Ne.symm h
        simpa [lastId, h, h'] using he session

theorem storable_of_valid (hd : d.Valid) (h : (d.setAll items).Valid) : d.Storable items := by
  obtain ⟨hf, hb, -⟩ := find_setAll (d := d) items
  have hsession : ∀ x ∈ items, ∃ i, lastId items x.session = some i := fun x hx =>
    Option.isSome_iff_exists.1 (lastId_isSome.2 ⟨x, hx, rfl⟩)
  have hid : ∀ x ∈ items, ∃ s, lastSession items x.id = some s := fun x hx =>
    Option.isSome_iff_exists.1 (lastSession_isSome.2 ⟨x, hx, rfl⟩)
  have hlast : ∀ i s, lastSession items i = some s → lastId items s = some i := by
    intro i s his
    obtain ⟨x, hx, -, rfl⟩ := mem_of_lastSession his
    obtain ⟨j, hj⟩ := hsession x hx
    have h₁ : (d.setAll items).mForwardMap.find i = some x.session := by rw [hf, his]; rfl
    have h₂ := (h.forward_iff _ _).1 h₁
    rw [hb, hj] at h₂
    exact hj.trans h₂
  have hlast' : ∀ i s, lastId items s = some i → lastSession items i = some s := by
    intro i s hsi
    obtain ⟨x, hx, rfl, -⟩ := mem_of_lastId hsi
    obtain ⟨t, ht⟩ := hid x hx
    have h₁ : (d.setAll items).mBackwardMap.find s = some x.id := by rw [hb, hsi]; rfl
    have h₂ := (h.forward_iff _ _).2 h₁
    rw [hf, ht] at h₂
    exact ht.trans h₂
  refine ⟨fun x hx h0 => ?_, fun i s his => ⟨?_, ?_⟩, fun i s => ⟨hlast i s, hlast' i s⟩⟩
  · obtain ⟨i, hi⟩ := hsession x hx
    have hz := h.backward_zero
    rw [← h0, hb, hi] at hz
    cases hz
  · -- if the session is not among the items, the stale backward entry names the id
    rintro ⟨x, hx, rfl⟩
    obtain ⟨t, ht⟩ := hid x hx
    by_contra hs
    have hnone : lastId items s = none := by
      rw [← Option.not_isSome_iff_eq_none, lastId_isSome]
      exact hs
    have h₁ : (d.setAll items).mBackwardMap.find s = some x.id := by
      rw [hb, hnone]
      exact (hd.forward_iff _ _).1 his
    have h₂ := (h.forward_iff _ _).2 h₁
    rw [hf, ht] at h₂
    obtain ⟨y, hy, -, hys⟩ := mem_of_lastSession ht
    exact hs ⟨y, hy, hys.trans (Option.some.inj h₂)⟩
  · rintro ⟨x, hx, rfl⟩
    obtain ⟨j, hj⟩ := hsession x hx
    by_contra hi
    have hnone : lastSession items i = none := by
      rw [← Option.not_isSome_iff_eq_none, lastSession_isSome]
      exact hi
    have h₁ : (d.setAll items).mForwardMap.find i = some x.session := by
      rw [hf, hnone]
      exact his
    have h₂ := (h.forward_iff _ _).1 h₁
    rw [hb, hj] at h₂
    obtain ⟨y, hy, hyi, -⟩ := mem_of_lastId hj
    exact hi ⟨y, hy, hyi.trans (Option.some.inj h₂)⟩

theorem valid_setAll (hd : d.Valid) (h : d.Storable items) : (d.setAll items).Valid := by
  obtain ⟨hf, hb, he⟩ := find_setAll (d := d) items
  refine ⟨fun i s => ?_, fun s => ?_, ?_⟩
  · rw [hf, hb]
    cases his : lastSession items i with
    | some t =>
      have hti := (h.last_iff i t).1 his
      constructor
      · intro hts
        obtain rfl := Option.some.inj hts
        rw [hti]
        rfl
      · intro hs
        cases hsi : lastId items s with
        | some j =>
          rw [hsi] at hs
          obtain rfl := Option.some.inj hs
          exact (his.symm.trans ((h.last_iff j s).2 hsi))
        | none =>
          -- an entry of before with the same id would have its session among the items
          rw [hsi] at hs
          have hstored := (hd.forward_iff i s).2 hs
          obtain ⟨x, hx, hxi, -⟩ := mem_of_lastSession his
          have hmem := (h.stored_iff i s hstored).1 ⟨x, hx, hxi⟩
          rw [← lastId_isSome, hsi] at hmem
          cases hmem
    | none =>
      have hi : ¬ ∃ x ∈ items, x.id = i := by
        rw [← lastSession_isSome, his]
        simp
      cases hsi : lastId items s with
      | some j =>
        obtain ⟨x, hx, hxj, hxs⟩ := mem_of_lastId hsi
        constructor
        · intro hstored
          exact absurd ((h.stored_iff i s hstored).2 ⟨x, hx, hxs⟩) hi
        · intro hj
          obtain rfl := Option.some.inj hj
          exact absurd ⟨x, hx, hxj⟩ hi
      | none => exact hd.forward_iff i s
  · rw [he, hb, hd.ext_iff]
    cases lastId items s <;> rfl
  · rw [hb, hd.backward_zero]
    cases h0 : lastId items 0 with
    | none => rfl
    | some j =>
      obtain ⟨x, hx, -, hx0⟩ := mem_of_lastId h0
      exact absurd hx0 (h.session_ne x hx)

/-- Storing items keeps a dictionary valid exactly if they may be stored. -/
theorem valid_setAll_iff (hd : d.Valid) (items : List (BiDictItem T)) :
    (d.setAll items).Valid ↔ d.Storable items :=
  ⟨storable_of_valid hd, valid_setAll hd⟩

/-- Storing an entry under an id that is absent. -/
theorem valid_set_iff (hd : d.Valid) (h : d.mForwardMap.find id = none) (session : BitVec 32)
    (ext : T) :
    (d.set id session ext).Valid ↔ session ≠ 0 ∧ d.hasSession session = false := by
  have hset : d.set id session ext = d.setAll [⟨id, session, ext⟩] := rfl
  rw [hset, valid_setAll_iff hd, hasSession, ← Bool.not_eq_true, Option.isSome_iff_exists]
  constructor
  · intro hs
    refine ⟨hs.session_ne ⟨id, session, ext⟩ (List.mem_singleton_self _), fun ⟨i, hi⟩ => ?_⟩
    have hstored := (hd.forward_iff i session).2 hi
    have hmem := (hs.stored_iff i session hstored).2 ⟨_, List.mem_singleton_self _, rfl⟩
    obtain ⟨x, hx, rfl⟩ := hmem
    rw [List.mem_singleton.1 hx] at hstored
    rw [h] at hstored
    cases hstored
  · rintro ⟨h0, hs⟩
    refine ⟨fun x hx => ?_, fun i s his => ?_, fun i s => ?_⟩
    · rw [List.mem_singleton.1 hx]
      exact h0
    · have hi : id ≠ i := by
        rintro rfl
        rw [h] at his
        cases his
      have hs' : session ≠ s := by
        rintro rfl
        exact hs ⟨i, (hd.forward_iff _ _).1 his⟩
      simp [hi, hs']
    · simp only [lastSession, lastId, List.reverse_singleton, List.find?_singleton]
      by_cases hi : id = i <;> by_cases hs' : session = s <;> simp [hi, hs']

end BiDict

end GpsHal
