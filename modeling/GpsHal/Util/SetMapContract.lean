import GpsHal.Util.SetMap
import Mathlib.Data.List.Induction

/-!
# The contract of `LocUnorderedSetMap`

What the comments in `utils/LocUnorderedSetMap.h` promise about each operation, in terms of the keys
and values before and after it, and when an operation keeps its promise in a map that any operations
have built.

## Main definitions

* `SetMap.Op`, `SetMap.run` : the operations, and a map that they build.
* `SetMap.Op.Meets` : an operation does what its comment says.
* `SetMap.Op.Reports` : when it does.

## Main results

* `SetMap.meets_iff_of_run` : no key has an empty set, and an operation meets its comment exactly then.
-/

namespace GpsHal

namespace SetMap

variable {K V : Type*}

/-- The operations that change a map, with what their output arguments hold before. -/
inductive Op (K V : Type*)
  | remove (key : K)
  | trimOrRemove (keys : USet K) (rVals : USet V) (goneKeys : USet K) (goneVals : USet V)
  | addOne (key : K) (newVals : USet V)
  | add (keys : USet K) (newVals : USet V) (newKeys : USet K)
  | update (key : K) (newVals : USet V)

variable [DecidableEq K] [DecidableEq V] (freed : K → K)

def Op.step (m : SetMap K V) : Op K V → SetMap K V
  | .remove key => m.remove key
  | .trimOrRemove keys rVals goneKeys goneVals =>
    (m.trimOrRemoveAll freed keys rVals goneKeys goneVals).map
  | .addOne key newVals => (m.add key newVals).1
  | .add keys newVals newKeys => (m.addAll keys newVals newKeys).1
  | .update key newVals => (m.update key newVals).map

/-- The map that some operations build. -/
def run (ops : List (Op K V)) : SetMap K V := ops.foldl (Op.step freed) nil

/-! ### The comments -/

/-- Which keys an operation has made, and which it has taken away. -/
def Appears (m m' : SetMap K V) (k : K) : Prop := k ∉ m.mMap ∧ k ∈ m'.mMap

def Vanishes (m m' : SetMap K V) (k : K) : Prop := k ∈ m.mMap ∧ k ∉ m'.mMap

/-- `remove` takes the values of the key away. -/
structure MeetsRemove (m m' : SetMap K V) (key : K) : Prop where
  values : ∀ k v, v ∈ m'.getValSet k ↔ v ∈ m.getValSet k ∧ k ≠ key

/-- `trimOrRemove` removes the values from the entries of the keys and from no others, and records the
keys that vanish and the values that are removed. -/
structure MeetsTrimOrRemove (m : SetMap K V) (keys : USet K) (rVals : USet V) (goneKeys : USet K)
    (goneVals : USet V) (r : Trimmed K V) : Prop where
  values : ∀ k v, v ∈ r.map.getValSet k ↔ v ∈ m.getValSet k ∧ ¬(k ∈ keys ∧ v ∈ rVals)
  goneKeys_iff : ∀ k, k ∈ r.goneKeys ↔ k ∈ goneKeys ∨ m.Vanishes r.map k
  goneVals_iff : ∀ v, v ∈ r.goneVals ↔
    v ∈ goneVals ∨ ∃ k, v ∈ m.getValSet k ∧ v ∉ r.map.getValSet k

/-- The private `add` says whether it has made an entry. -/
structure MeetsAddOne (m : SetMap K V) (key : K) (newVals : USet V) (r : SetMap K V × Bool) : Prop where
  values : ∀ k v, v ∈ r.1.getValSet k ↔ v ∈ m.getValSet k ∨ (k = key ∧ v ∈ newVals)
  added : r.2 = true ↔ m.Appears r.1 key

/-- `add` adds the values to the entries of the keys, and records the keys of those that it makes. -/
structure MeetsAdd (m : SetMap K V) (keys : USet K) (newVals : USet V) (newKeys : USet K)
    (r : SetMap K V × USet K) : Prop where
  values : ∀ k v, v ∈ r.1.getValSet k ↔ v ∈ m.getValSet k ∨ (k ∈ keys ∧ v ∈ newVals)
  newKeys_iff : ∀ k, k ∈ r.2 ↔ k ∈ newKeys ∨ m.Appears r.1 k

/-- `update` gives the values to the key, returns those that are removed by that, and leaves those
that are new. -/
structure MeetsUpdate (m : SetMap K V) (key : K) (newVals : USet V) (r : Updated K V) : Prop where
  values : ∀ k v, v ∈ r.map.getValSet k ↔ if k = key then v ∈ newVals else v ∈ m.getValSet k
  goneVals_iff : ∀ v, v ∈ r.goneVals ↔ v ∈ m.getValSet key ∧ v ∉ newVals
  newVals_iff : ∀ v, v ∈ r.newVals ↔ v ∈ newVals ∧ v ∉ m.getValSet key

/-- The operation does in this map what its comment says. -/
def Op.Meets (m : SetMap K V) : Op K V → Prop
  | .remove key => MeetsRemove m (m.remove key) key
  | .trimOrRemove keys rVals goneKeys goneVals => MeetsTrimOrRemove m keys rVals goneKeys goneVals
    (m.trimOrRemoveAll freed keys rVals goneKeys goneVals)
  | .addOne key newVals => MeetsAddOne m key newVals (m.add key newVals)
  | .add keys newVals newKeys => MeetsAdd m keys newVals newKeys (m.addAll keys newVals newKeys)
  | .update key newVals => MeetsUpdate m key newVals (m.update key newVals)

/-- The key has values, and all of them are to be removed. -/
def Emptied (m : SetMap K V) (keys : USet K) (rVals : USet V) (k : K) : Prop :=
  k ∈ keys ∧ (∃ v, v ∈ m.getValSet k) ∧ ∀ v ∈ m.getValSet k, v ∈ rVals

/-- The keys that are read from the entries that have been freed are those that vanish, up to those
that have been recorded before; and a key that is updated has no values yet. -/
def Op.Reports (m : SetMap K V) : Op K V → Prop
  | .trimOrRemove keys rVals goneKeys _ =>
    (∀ k, Emptied m keys rVals k → freed k ∈ goneKeys ∨ Emptied m keys rVals (freed k)) ∧
      ∀ k, Emptied m keys rVals k → k ∈ goneKeys ∨ ∃ k', Emptied m keys rVals k' ∧ freed k' = k
  | .update key _ => ∀ v, v ∉ m.getValSet key
  | _ => True

/-! ### Any operations -/

variable {freed}

omit [DecidableEq V] in
/-- Without empty sets the keys are those with values. -/
theorem NoEmptySet.mem_iff {m : SetMap K V} (hm : m.NoEmptySet) {k : K} :
    k ∈ m.mMap ↔ ∃ v, v ∈ m.getValSet k :=
  ⟨hm k, fun ⟨_, hv⟩ => mem_of_mem_getValSet hv⟩

theorem NoEmptySet.step {m : SetMap K V} (hm : m.NoEmptySet) (op : Op K V) :
    (op.step freed m).NoEmptySet := by
  cases op with
  | remove key => exact hm.remove key
  | trimOrRemove keys rVals goneKeys goneVals =>
    exact (trimOrRemoveAll_spec freed hm keys rVals goneKeys goneVals).1
  | addOne key newVals => exact hm.add key newVals
  | add keys newVals newKeys => exact (addAll_spec hm keys newVals newKeys).1
  | update key newVals => exact hm.update key newVals

theorem noEmptySet_run (ops : List (Op K V)) : (run freed ops).NoEmptySet := by
  induction ops using List.reverseRecOn with
  | nil => exact NoEmptySet.nil
  | append_singleton ops op ih =>
    unfold run
    rw [List.foldl_append]
    exact ih.step op

variable {m : SetMap K V}

theorem meetsAddOne (hm : m.NoEmptySet) (key : K) (newVals : USet V) :
    MeetsAddOne m key newVals (m.add key newVals) := by
  refine ⟨fun k v => mem_add, ?_⟩
  rw [add_flag hm]
  unfold Appears
  rw [hm.mem_iff, (hm.add key newVals).mem_iff, not_exists, and_comm]
  refine and_congr_right fun hnone => ?_
  refine exists_congr fun v => ?_
  rw [mem_add]
  exact ⟨fun hv => .inr ⟨rfl, hv⟩, fun hv => (hv.resolve_left (hnone v)).2⟩

theorem meetsAdd (hm : m.NoEmptySet) (keys : USet K) (newVals : USet V) (newKeys : USet K) :
    MeetsAdd m keys newVals newKeys (m.addAll keys newVals newKeys) := by
  obtain ⟨hm', hvalues, hkeys⟩ := addAll_spec hm keys newVals newKeys
  refine ⟨hvalues, fun k => (hkeys k).trans (or_congr_right ?_)⟩
  unfold Appears
  rw [hm.mem_iff, hm'.mem_iff, not_exists]
  constructor
  · rintro ⟨hk, ⟨v, hv⟩, hnone⟩
    exact ⟨hnone, v, (hvalues k v).2 (.inr ⟨hk, hv⟩)⟩
  · rintro ⟨hnone, v, hv⟩
    obtain ⟨hk, hv⟩ := ((hvalues k v).1 hv).resolve_left (hnone v)
    exact ⟨hk, ⟨v, hv⟩, hnone⟩

/-- The keys that vanish are those that lose all of their values. -/
theorem vanishes_trimOrRemoveAll (hm : m.NoEmptySet) (keys : USet K) (rVals : USet V)
    (goneKeys : USet K) (goneVals : USet V) (k : K) :
    m.Vanishes (m.trimOrRemoveAll freed keys rVals goneKeys goneVals).map k ↔
      Emptied m keys rVals k := by
  obtain ⟨hm', hvalues, -, -⟩ := trimOrRemoveAll_spec freed hm keys rVals goneKeys goneVals
  unfold Vanishes Emptied
  rw [hm.mem_iff, hm'.mem_iff, not_exists]
  constructor
  · rintro ⟨⟨v, hv⟩, hnone⟩
    have hall (w : V) (hw : w ∈ m.getValSet k) : k ∈ keys ∧ w ∈ rVals := by
      by_contra hkept
      exact hnone w ((hvalues k w).2 ⟨hw, hkept⟩)
    exact ⟨(hall v hv).1, ⟨v, hv⟩, fun w hw => (hall w hw).2⟩
  · rintro ⟨hk, hsome, hall⟩
    refine ⟨hsome, fun w hw => ?_⟩
    obtain ⟨hw, hkept⟩ := (hvalues k w).1 hw
    exact hkept ⟨hk, hall w hw⟩

theorem meetsTrimOrRemove_iff (hm : m.NoEmptySet) (keys : USet K) (rVals : USet V)
    (goneKeys : USet K) (goneVals : USet V) :
    (Op.trimOrRemove keys rVals goneKeys goneVals).Meets freed m ↔
      (Op.trimOrRemove keys rVals goneKeys goneVals).Reports freed m := by
  have hvanish (k : K) : m.Vanishes (m.trimOrRemoveAll freed keys rVals goneKeys goneVals).map k ↔
      Emptied m keys rVals k := vanishes_trimOrRemoveAll hm keys rVals goneKeys goneVals k
  obtain ⟨-, hvalues, hvals, hkeys⟩ := trimOrRemoveAll_spec freed hm keys rVals goneKeys goneVals
  have hkeys' (k : K) : k ∈ (m.trimOrRemoveAll freed keys rVals goneKeys goneVals).goneKeys ↔
      k ∈ goneKeys ∨ ∃ k', Emptied m keys rVals k' ∧ freed k' = k := by
    rw [hkeys k]
    refine or_congr_right (exists_congr fun k' => ?_)
    unfold Emptied
    tauto
  constructor
  · rintro ⟨-, hgone, -⟩
    have hsame (k : K) := ((hkeys' k).symm.trans (hgone k)).trans (or_congr_right (hvanish k))
    exact ⟨fun k hk => (hsame (freed k)).1 (.inr ⟨k, hk, rfl⟩), fun k hk => (hsame k).2 (.inr hk)⟩
  · rintro ⟨hread, hfound⟩
    refine ⟨hvalues, fun k => ?_, fun v => (hvals v).trans (or_congr_right ?_)⟩
    · rw [hkeys', hvanish]
      constructor
      · rintro (hk | ⟨k', hk', rfl⟩)
        · exact .inl hk
        · exact hread k' hk'
      · rintro (hk | hk)
        · exact .inl hk
        · exact hfound k hk
    · refine exists_congr fun k => ?_
      rw [hvalues]
      tauto

theorem meetsUpdate_iff (key : K) (newVals : USet V) :
    (Op.update key newVals).Meets freed m ↔ (Op.update key newVals).Reports freed m := by
  constructor
  · rintro ⟨-, hgone, -⟩ v hv
    -- a value that was there is returned exactly if it should not be
    have hsame : v ∈ m.getValSet key ∧ v ∈ newVals ↔ v ∈ m.getValSet key ∧ v ∉ newVals :=
      update_goneVals.symm.trans (hgone v)
    by_cases hnew : v ∈ newVals
    · exact (hsame.1 ⟨hv, hnew⟩).2 hnew
    · exact hnew (hsame.2 ⟨hv, hnew⟩).2
  · intro hnone
    refine ⟨fun k v => mem_update, fun v => ?_, fun v => update_newVals⟩
    rw [update_goneVals]
    exact iff_of_false (fun h => hnone v h.1) fun h => hnone v h.1

/-- **The contract.**  In a map that any operations have built no key has an empty set, and an
operation meets its comment exactly if it reads the right keys from freed memory, or updates a key that
has no values. -/
theorem meets_iff_of_run (freed : K → K) (ops : List (Op K V)) :
    (run freed ops).NoEmptySet ∧
      ∀ op : Op K V, op.Meets freed (run freed ops) ↔ op.Reports freed (run freed ops) := by
  have hm : (run freed ops).NoEmptySet := noEmptySet_run ops
  refine ⟨hm, fun op => ?_⟩
  cases op with
  | remove key => exact iff_of_true ⟨fun k v => mem_remove⟩ trivial
  | trimOrRemove keys rVals goneKeys goneVals =>
    exact meetsTrimOrRemove_iff hm keys rVals goneKeys goneVals
  | addOne key newVals => exact iff_of_true (meetsAddOne hm key newVals) trivial
  | add keys newVals newKeys => exact iff_of_true (meetsAdd hm keys newVals newKeys) trivial
  | update key newVals => exact meetsUpdate_iff key newVals

/-- A key is moved from one value to another: the value that it has lost is not returned. -/
theorem not_meets_update : ¬∀ (ops : List (Op ℕ ℕ)) (op : Op ℕ ℕ), op.Meets id (run id ops) := by
  intro h
  have hmeets : MeetsUpdate _ 0 _ _ := h [.update 0 (USet.single 1)] (.update 0 (USet.single 2))
  exact absurd ((hmeets.goneVals_iff 1).2 ⟨by decide, by decide⟩) (by decide)

end SetMap

end GpsHal
