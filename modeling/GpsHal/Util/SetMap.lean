import GpsHal.Util.UnorderedSet

/-!
# `LocUnorderedSetMap`

A map from keys to non-empty sets (`utils/LocUnorderedSetMap.h`).  The operations keep the
source's names; the two overloads that walk over several keys are `addAll` and `trimOrRemoveAll`.

`trimOrRemoveAll` reads `iter->first` after `mMap.erase(iter)` has freed the entry.  What that
read returns is not determined by the program, so it is a parameter `freed` : the value found in
the memory of the entry that had the given key.

## Main results

* `mem_add`, `mem_addAll`, `mem_trimOrRemoveAll`, `mem_update` : the values of every key after an
  operation, in terms of the values before it.
* `NoEmptySet.*` : every operation keeps the map free of keys with an empty set.
-/

namespace GpsHal

/-- `LocUnorderedSetMap<KEY, VAL>`. -/
structure SetMap (K V : Type*) where
  mMap : AList (fun _ : K => USet V)

/-- The removed values and the new values that `update` leaves in its argument. -/
structure SetMap.Updated (K V : Type*) where
  map : SetMap K V
  goneVals : USet V
  newVals : USet V

/-- The map, the keys recorded in `goneKeys` and the values recorded in `goneVals`. -/
structure SetMap.Trimmed (K V : Type*) where
  map : SetMap K V
  goneKeys : USet K
  goneVals : USet V

namespace SetMap

variable {K V : Type*} [DecidableEq K]

/-- The empty map. -/
def nil : SetMap K V := ⟨∅⟩

def empty (m : SetMap K V) : Bool := m.mMap.entries.isEmpty

/-- A copy of the values of `key`, the empty set if the key is absent. -/
def getValSet (m : SetMap K V) (key : K) : USet V := (m.mMap.lookup key).getD ∅

/-- All the keys, collected into a set. -/
def getKeys (m : SetMap K V) : USet K := USet.ofList m.mMap.keys

def remove (m : SetMap K V) (key : K) : SetMap K V := ⟨m.mMap.erase key⟩

/-- No key has an empty set. -/
def NoEmptySet (m : SetMap K V) : Prop := ∀ k, k ∈ m.mMap → ∃ v, v ∈ m.getValSet k

/-! ### Entries of the underlying map -/

theorem getValSet_of_lookup {m : SetMap K V} {k : K} {s : USet V} (h : m.mMap.lookup k = some s) :
    m.getValSet k = s := by
  simp [getValSet, h]

theorem getValSet_of_not_mem {m : SetMap K V} {k : K} (h : k ∉ m.mMap) : m.getValSet k = ∅ := by
  simp [getValSet, AList.lookup_eq_none.2 h]

theorem mem_of_mem_getValSet {m : SetMap K V} {k : K} {v : V} (h : v ∈ m.getValSet k) :
    k ∈ m.mMap := by
  by_contra hk
  rw [getValSet_of_not_mem hk] at h
  exact USet.not_mem_empty v h

@[simp] theorem getValSet_nil (k : K) : (nil : SetMap K V).getValSet k = ∅ := rfl

@[simp] theorem getValSet_insert (a : AList fun _ : K => USet V) (key k : K) (s : USet V) :
    (SetMap.mk (a.insert key s)).getValSet k =
      if k = key then s else (SetMap.mk a).getValSet k := by
  by_cases h : k = key
  · subst h; simp [getValSet]
  · simp [getValSet, AList.lookup_insert_ne h, h]

@[simp] theorem getValSet_erase (a : AList fun _ : K => USet V) (key k : K) :
    (SetMap.mk (a.erase key)).getValSet k = if k = key then ∅ else (SetMap.mk a).getValSet k := by
  by_cases h : k = key
  · subst h; simp [getValSet]
  · simp [getValSet, AList.lookup_erase_ne h, h]

theorem NoEmptySet.nil : (nil : SetMap K V).NoEmptySet := fun k hk => absurd hk (AList.notMem_empty k)

theorem NoEmptySet.insert {a : AList fun _ : K => USet V} (h : (SetMap.mk a).NoEmptySet) {key : K}
    {s : USet V} (hs : ∃ v, v ∈ s) : (SetMap.mk (a.insert key s)).NoEmptySet := by
  intro k hk
  rw [getValSet_insert]
  by_cases hkk : k = key
  · rwa [if_pos hkk]
  · rw [if_neg hkk]
    exact h k (((AList.mem_insert a).1 hk).resolve_left hkk)

theorem NoEmptySet.erase {a : AList fun _ : K => USet V} (h : (SetMap.mk a).NoEmptySet) {key : K} :
    (SetMap.mk (a.erase key)).NoEmptySet := by
  intro k hk
  obtain ⟨hne, hk⟩ := AList.mem_erase.1 hk
  rw [getValSet_erase, if_neg hne]
  exact h k hk

theorem mem_remove {m : SetMap K V} {key k : K} {v : V} :
    v ∈ (m.remove key).getValSet k ↔ v ∈ m.getValSet k ∧ k ≠ key := by
  by_cases hk : k = key
  · simp [remove, hk]
  · simp [remove, hk]

theorem NoEmptySet.remove {m : SetMap K V} (hm : m.NoEmptySet) (key : K) :
    (m.remove key).NoEmptySet := hm.erase

/-! ### The operations on sets of keys and values -/

variable [DecidableEq V]

/-- `trimSet` : removes from `fromSet` what is in `rVals`, and records in `goneVals` what it
contained. -/
def trimSet (fromSet rVals goneVals : USet V) : USet V × USet V := fromSet.trim rVals goneVals

/-- `removeAndReturnInterset` : the intersection, taken out of both sets. -/
def removeAndReturnInterset (s1 s2 : USet V) : USet.Split V := s1.split s2

/-- The private `trimOrRemove` at the entry of `key`, whose values are `vals` : trims them and
removes the entry if nothing is left; the flag says whether it was removed. -/
def trimOrRemove (m : SetMap K V) (key : K) (vals rVals goneVals : USet V) :
    SetMap K V × Bool × USet V :=
  let (second, gone) := trimSet vals rVals goneVals
  if second.isEmpty then (⟨m.mMap.erase key⟩, true, gone)
  else (⟨m.mMap.insert key second⟩, false, gone)

/-- The loop body of `trimOrRemoveAll`. -/
def trimKey (freed : K → K) (rVals : USet V) (st : Trimmed K V) (key : K) : Trimmed K V :=
  match st.map.mMap.lookup key with
  | none => st
  | some vals =>
    let (map, removed, gone) := st.map.trimOrRemove key vals rVals st.goneVals
    -- the key is read from the erased entry
    ⟨map, if removed then st.goneKeys.insert (freed key) else st.goneKeys, gone⟩

/-- Trims the entries keyed by `keys`, recording the keys of the entries that vanish and the
values that are removed. -/
def trimOrRemoveAll (freed : K → K) (m : SetMap K V) (keys : USet K) (rVals : USet V)
    (goneKeys : USet K) (goneVals : USet V) : Trimmed K V :=
  keys.elems.foldl (trimKey freed rVals) ⟨m, goneKeys, goneVals⟩

/-- Adds `newVals` to the entry of `key`; the flag says whether a new entry was made. -/
def add (m : SetMap K V) (key : K) (newVals : USet V) : SetMap K V × Bool :=
  if newVals.isEmpty then (m, false)
  else match m.mMap.lookup key with
    | some vals => (⟨m.mMap.insert key (vals.insertAll newVals.elems)⟩, false)
    | none => (⟨m.mMap.insert key newVals⟩, true)

/-- The loop body of `addAll`. -/
def addKey (newVals : USet V) (st : SetMap K V × USet K) (key : K) : SetMap K V × USet K :=
  let (map, newEntryAdded) := st.1.add key newVals
  (map, if newEntryAdded then st.2.insert key else st.2)

/-- Adds `newVals` to the entry of every key of `keys`, recording the keys that are new. -/
def addAll (m : SetMap K V) (keys : USet K) (newVals : USet V) (newKeys : USet K) :
    SetMap K V × USet K :=
  keys.elems.foldl (addKey newVals) (m, newKeys)

/-- Puts `newVals` into the entry of `key`.  The returned `goneVals` and what is left in
`newVals` come from `removeAndReturnInterset` on the old and the new values. -/
def update (m : SetMap K V) (key : K) (newVals : USet V) : Updated K V :=
  if newVals.isEmpty then ⟨⟨m.mMap.erase key⟩, ∅, newVals⟩
  else
    let curVals := m.getValSet key
    let r := removeAndReturnInterset curVals newVals
    ⟨⟨m.mMap.insert key newVals⟩, r.common, r.right⟩

/-! ### `add` -/

theorem mem_add {m : SetMap K V} {key k : K} {newVals : USet V} {v : V} :
    v ∈ (m.add key newVals).1.getValSet k ↔ v ∈ m.getValSet k ∨ (k = key ∧ v ∈ newVals) := by
  unfold add
  split
  · rename_i he
    simp [USet.isEmpty_iff.1 he v]
  · cases hl : m.mMap.lookup key with
    | some vals =>
      by_cases hk : k = key
      · subst hk
        simp [getValSet_of_lookup hl, ← USet.mem_def]
      · simp [hk]
    | none =>
      by_cases hk : k = key
      · subst hk
        simp [getValSet_of_not_mem (AList.lookup_eq_none.1 hl)]
      · simp [hk]

theorem add_flag {m : SetMap K V} (hm : m.NoEmptySet) {key : K} {newVals : USet V} :
    (m.add key newVals).2 = true ↔ (∃ v, v ∈ newVals) ∧ ∀ v, v ∉ m.getValSet key := by
  unfold add
  split
  · rename_i he
    have hnone := USet.isEmpty_iff.1 he
    simp [hnone]
  · rename_i he
    have hne : ∃ v, v ∈ newVals := USet.isEmpty_eq_false_iff.1 (by simpa using he)
    cases hl : m.mMap.lookup key with
    | some vals =>
      have hk : key ∈ m.mMap := AList.lookup_isSome.1 (by simp [hl])
      obtain ⟨v, hv⟩ := hm key hk
      simp only [Bool.false_eq_true, false_iff, not_and, not_forall, not_not]
      exact fun _ => ⟨v, hv⟩
    | none => simp [hne, getValSet_of_not_mem (AList.lookup_eq_none.1 hl)]

theorem NoEmptySet.add {m : SetMap K V} (hm : m.NoEmptySet) (key : K) (newVals : USet V) :
    (m.add key newVals).1.NoEmptySet := by
  unfold SetMap.add
  split
  · exact hm
  · rename_i he
    obtain ⟨v, hv⟩ := USet.isEmpty_eq_false_iff.1 (by simpa using he)
    cases hl : m.mMap.lookup key with
    | some vals => exact hm.insert ⟨v, by simp [USet.mem_def.1 hv]⟩
    | none => exact hm.insert ⟨v, hv⟩

theorem addAll_spec {m : SetMap K V} (hm : m.NoEmptySet) (keys : USet K) (newVals : USet V)
    (newKeys : USet K) :
    (m.addAll keys newVals newKeys).1.NoEmptySet ∧
      (∀ k v, v ∈ (m.addAll keys newVals newKeys).1.getValSet k ↔
        v ∈ m.getValSet k ∨ (k ∈ keys ∧ v ∈ newVals)) ∧
      ∀ k, k ∈ (m.addAll keys newVals newKeys).2 ↔ k ∈ newKeys ∨
        (k ∈ keys ∧ (∃ v, v ∈ newVals) ∧ ∀ v, v ∉ m.getValSet k) := by
  obtain ⟨l, hl⟩ := keys
  simp only [addAll, USet.mem_def (s := ⟨l, hl⟩)]
  -- induction over the keys still to be visited, for any map and any keys recorded so far
  induction l generalizing m newKeys with
  | nil => simp [hm]
  | cons key l ih =>
    obtain ⟨hkey, hl⟩ := List.nodup_cons.1 hl
    have hstep : addKey newVals (m, newKeys) key =
        ((m.add key newVals).1, if (m.add key newVals).2 then newKeys.insert key else newKeys) := rfl
    rw [List.foldl_cons, hstep]
    obtain ⟨h1, h2, h3⟩ := ih (hm.add key newVals)
      (if (m.add key newVals).2 then newKeys.insert key else newKeys) hl
    refine ⟨h1, fun k v => (h2 k v).trans ?_, fun k => (h3 k).trans ?_⟩
    · rw [mem_add, List.mem_cons]; tauto
    · have hrec : k ∈ (if (m.add key newVals).2 then newKeys.insert key else newKeys) ↔
          k ∈ newKeys ∨ (k = key ∧ (∃ v, v ∈ newVals) ∧ ∀ v, v ∉ m.getValSet key) := by
        rw [← add_flag hm]
        split <;> simp [*]
      have hother : k ∈ l → ((∀ v, v ∉ (m.add key newVals).1.getValSet k) ↔
          ∀ v, v ∉ m.getValSet k) := by
        intro hk
        have hne : k ≠ key := fun h => hkey (h ▸ hk)
        simp [mem_add, hne]
      rw [hrec, List.mem_cons]
      by_cases hk : k ∈ l
      · have hne : k ≠ key := fun h => hkey (h ▸ hk)
        simp [hk, hne, hother hk]
      · by_cases hkk : k = key
        · subst hkk; simp [hk]
        · simp [hk, hkk]

/-! ### `trimOrRemoveAll` -/

theorem mem_trimOrRemove {m : SetMap K V} {key k : K} {vals rVals goneVals : USet V} {v : V}
    (hl : m.mMap.lookup key = some vals) :
    v ∈ (m.trimOrRemove key vals rVals goneVals).1.getValSet k ↔
      v ∈ m.getValSet k ∧ ¬ (k = key ∧ v ∈ rVals) := by
  have hvals := getValSet_of_lookup hl
  unfold trimOrRemove trimSet
  simp only
  split
  · rename_i he
    rw [USet.isEmpty_iff] at he
    have := he v
    rw [USet.mem_trim_fst] at this
    by_cases hk : k = key
    · subst hk; simp only [getValSet_erase, if_true, hvals, USet.not_mem_empty, true_and]; tauto
    · simp [hk]
  · by_cases hk : k = key
    · subst hk; simp [hvals]
    · simp [hk]

theorem trimOrRemove_flag {m : SetMap K V} {key : K} {vals rVals goneVals : USet V} :
    (m.trimOrRemove key vals rVals goneVals).2.1 = true ↔ ∀ v ∈ vals, v ∈ rVals := by
  unfold trimOrRemove trimSet
  simp only
  split
  · rename_i he
    simpa [USet.isEmpty_iff] using he
  · rename_i he
    simpa [USet.isEmpty_iff] using he

theorem trimOrRemove_goneVals {m : SetMap K V} {key : K} {vals rVals goneVals : USet V} {v : V} :
    v ∈ (m.trimOrRemove key vals rVals goneVals).2.2 ↔ v ∈ goneVals ∨ (v ∈ vals ∧ v ∈ rVals) := by
  unfold trimOrRemove trimSet
  simp only
  split <;> simp

theorem NoEmptySet.trimOrRemove {m : SetMap K V} (hm : m.NoEmptySet) (key : K)
    (vals rVals goneVals : USet V) : (m.trimOrRemove key vals rVals goneVals).1.NoEmptySet := by
  unfold SetMap.trimOrRemove SetMap.trimSet
  simp only
  split
  · exact hm.erase
  · rename_i he
    exact hm.insert (USet.isEmpty_eq_false_iff.1 (by simpa using he))

theorem trimOrRemoveAll_spec (freed : K → K) {m : SetMap K V} (hm : m.NoEmptySet) (keys : USet K)
    (rVals : USet V) (goneKeys : USet K) (goneVals : USet V) :
    let r := m.trimOrRemoveAll freed keys rVals goneKeys goneVals
    r.map.NoEmptySet ∧
      (∀ k v, v ∈ r.map.getValSet k ↔ v ∈ m.getValSet k ∧ ¬ (k ∈ keys ∧ v ∈ rVals)) ∧
      (∀ v, v ∈ r.goneVals ↔ v ∈ goneVals ∨ ∃ k ∈ keys, v ∈ m.getValSet k ∧ v ∈ rVals) ∧
      ∀ k, k ∈ r.goneKeys ↔ k ∈ goneKeys ∨ ∃ key ∈ keys, freed key = k ∧
        (∃ v, v ∈ m.getValSet key) ∧ ∀ v ∈ m.getValSet key, v ∈ rVals := by
  obtain ⟨l, hl⟩ := keys
  simp only [trimOrRemoveAll, USet.mem_def (s := ⟨l, hl⟩)]
  induction l generalizing m goneKeys goneVals with
  | nil => simp [hm]
  | cons key l ih =>
    obtain ⟨hkey, hl⟩ := List.nodup_cons.1 hl
    have hne : ∀ {k}, k ∈ l → k ≠ key := fun hk h => hkey (h ▸ hk)
    rw [List.foldl_cons]
    cases hlk : m.mMap.lookup key with
    | none =>
      have hstep : trimKey freed rVals ⟨m, goneKeys, goneVals⟩ key = ⟨m, goneKeys, goneVals⟩ := by
        simp [trimKey, hlk]
      have habs : ∀ v, v ∉ m.getValSet key := by
        simp [getValSet_of_not_mem (AList.lookup_eq_none.1 hlk)]
      rw [hstep]
      obtain ⟨h1, h2, h3, h4⟩ := ih hm goneKeys goneVals hl
      refine ⟨h1, fun k v => (h2 k v).trans ?_, fun v => (h3 v).trans ?_, fun k => (h4 k).trans ?_⟩
      · by_cases hk : k = key
        · subst hk; simp [habs v]
        · simp [hk]
      · simp [habs]
      · simp [habs]
    | some vals =>
      obtain rfl : m.getValSet key = vals := getValSet_of_lookup hlk
      have hex : ∃ v, v ∈ m.getValSet key := hm key (AList.lookup_isSome.1 (by simp [hlk]))
      obtain ⟨r, hr⟩ : ∃ r, r = m.trimOrRemove key (m.getValSet key) rVals goneVals := ⟨_, rfl⟩
      have hstep : trimKey freed rVals ⟨m, goneKeys, goneVals⟩ key =
          ⟨r.1, if r.2.1 then goneKeys.insert (freed key) else goneKeys, r.2.2⟩ := by
        simp [trimKey, hlk, hr]
      have hmem : ∀ k v, v ∈ r.1.getValSet k ↔ v ∈ m.getValSet k ∧ ¬ (k = key ∧ v ∈ rVals) :=
        fun k v => by rw [hr, mem_trimOrRemove hlk]
      have hkeep : ∀ {k}, k ∈ l → ∀ v, v ∈ r.1.getValSet k ↔ v ∈ m.getValSet k :=
        fun hk v => by simp [hmem, hne hk]
      have hgone : ∀ v, v ∈ r.2.2 ↔ v ∈ goneVals ∨ (v ∈ m.getValSet key ∧ v ∈ rVals) :=
        fun v => by rw [hr, trimOrRemove_goneVals]
      have hrec : ∀ k, k ∈ (if r.2.1 then goneKeys.insert (freed key) else goneKeys) ↔
          k ∈ goneKeys ∨ (freed key = k ∧ ∀ v ∈ m.getValSet key, v ∈ rVals) := by
        intro k
        have hflag : r.2.1 = true ↔ ∀ v ∈ m.getValSet key, v ∈ rVals := by
          rw [hr, trimOrRemove_flag]
        rw [← hflag]
        cases r.2.1 <;> simp [eq_comm]
      rw [hstep]
      obtain ⟨h1, h2, h3, h4⟩ := ih (hr ▸ hm.trimOrRemove key (m.getValSet key) rVals goneVals)
        (if r.2.1 then goneKeys.insert (freed key) else goneKeys) r.2.2 hl
      refine ⟨h1, fun k v => (h2 k v).trans ?_, fun v => (h3 v).trans ?_, fun k => (h4 k).trans ?_⟩
      · rw [hmem, List.mem_cons]; tauto
      · rw [hgone]
        simp only [List.mem_cons, exists_eq_or_imp, or_assoc]
        refine or_congr_right (or_congr_right ?_)
        exact exists_congr fun k => and_congr_right fun hk => and_congr_left fun _ => hkeep hk v
      · rw [hrec]
        simp only [List.mem_cons, exists_eq_or_imp, hex, true_and, or_assoc]
        refine or_congr_right (or_congr_right ?_)
        exact exists_congr fun k => and_congr_right fun hk => by simp only [hkeep hk]

/-! ### `update` -/

theorem mem_update {m : SetMap K V} {key k : K} {newVals : USet V} {v : V} :
    v ∈ (m.update key newVals).map.getValSet k ↔
      if k = key then v ∈ newVals else v ∈ m.getValSet k := by
  unfold update
  split
  · rename_i he
    by_cases hk : k = key
    · simp [hk, USet.isEmpty_iff.1 he v]
    · simp [hk]
  · by_cases hk : k = key
    · simp [hk]
    · simp [hk]

theorem update_goneVals {m : SetMap K V} {key : K} {newVals : USet V} {v : V} :
    v ∈ (m.update key newVals).goneVals ↔ v ∈ m.getValSet key ∧ v ∈ newVals := by
  unfold update removeAndReturnInterset
  split
  · rename_i he
    simp [USet.isEmpty_iff.1 he v]
  · simp

theorem update_newVals {m : SetMap K V} {key : K} {newVals : USet V} {v : V} :
    v ∈ (m.update key newVals).newVals ↔ v ∈ newVals ∧ v ∉ m.getValSet key := by
  unfold update removeAndReturnInterset
  split
  · rename_i he
    simp [USet.isEmpty_iff.1 he v]
  · simp

theorem NoEmptySet.update {m : SetMap K V} (hm : m.NoEmptySet) (key : K) (newVals : USet V) :
    (m.update key newVals).map.NoEmptySet := by
  unfold SetMap.update
  split
  · exact hm.erase
  · rename_i he
    exact hm.insert (USet.isEmpty_eq_false_iff.1 (by simpa using he))

end SetMap

end GpsHal
