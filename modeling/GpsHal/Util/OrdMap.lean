import GpsHal.Util.Fold
import Mathlib.Order.Defs.LinearOrder
import Mathlib.Data.Set.Insert
import Mathlib.Data.List.Basic
import Mathlib.Data.BitVec

/-!
# Ordered maps

A `std::map` is modelled by the list of its entries in the order of their keys, with the proof that
the keys ascend.  A traversal visits the entries in this order.  The results are stated through
membership of entries and through the set of the values.

## Main definitions

* `OrdMap K V` : the maps, with `insert`, `erase`, `find`, `filterMap` and `mapValues`.
* `OrdMap.vals` : the set of the values.

## Main results

* `OrdMap.vals_insert`, `OrdMap.vals_of_find` : the values of a map are the one under a key and
  those of the map without the key.
-/

namespace GpsHal

/-- The order of the numbers. -/
instance BitVec.instLinearOrder {w : ℕ} : LinearOrder (BitVec w) where
  le_refl a := BitVec.le_refl a
  le_trans _ _ _ h h' := BitVec.le_trans h h'
  le_antisymm _ _ h h' := BitVec.le_antisymm h h'
  le_total a b := BitVec.le_total a b
  lt_iff_le_not_ge a b := by
    rw [BitVec.lt_def, BitVec.le_def, BitVec.le_def]
    omega
  toDecidableLE := inferInstance
  toDecidableEq := inferInstance
  toDecidableLT := inferInstance

/-- A map, as the list of its entries in the order of the keys. -/
@[ext] structure OrdMap (K V : Type*) [LinearOrder K] where
  entries : List (K × V)
  sorted : entries.Pairwise fun a b => a.1 < b.1

namespace OrdMap

variable {K V : Type*} [LinearOrder K]

instance : EmptyCollection (OrdMap K V) := ⟨⟨[], .nil⟩⟩

/-- Insert an entry into a list of entries; an entry with the same key is replaced. -/
def insertEntry (k : K) (v : V) : List (K × V) → List (K × V)
  | [] => [(k, v)]
  | e :: es =>
    if k < e.1 then (k, v) :: e :: es
    else if k = e.1 then (k, v) :: es
    else e :: insertEntry k v es

theorem mem_insertEntry {k : K} {v : V} {l : List (K × V)} (hl : l.Pairwise fun a b => a.1 < b.1)
    {e : K × V} : e ∈ insertEntry k v l ↔ e = (k, v) ∨ e.1 ≠ k ∧ e ∈ l := by
  induction l with
  | nil => simp [insertEntry]
  | cons x l ih =>
    obtain ⟨hx, hl⟩ := List.pairwise_cons.1 hl
    unfold insertEntry
    split_ifs with hlt heq
    · -- the new key is smaller than all others
      have hne : ∀ e ∈ x :: l, e.1 ≠ k := fun e he => by
        rcases List.mem_cons.1 he with rfl | he
        · exact hlt.ne'
        · exact (hlt.trans (hx e he)).ne'
      rw [List.mem_cons]
      exact or_congr_right ⟨fun he => ⟨hne e he, he⟩, fun he => he.2⟩
    · subst heq
      rw [List.mem_cons, List.mem_cons]
      refine or_congr_right ⟨fun he => ⟨(hx e he).ne', .inr he⟩, fun ⟨hne, he⟩ => ?_⟩
      exact he.resolve_left fun h => hne (congrArg Prod.fst h)
    · rw [List.mem_cons, List.mem_cons, ih hl]
      constructor
      · rintro (rfl | rfl | ⟨hne, he⟩)
        · exact .inr ⟨Ne.symm heq, .inl rfl⟩
        · exact .inl rfl
        · exact .inr ⟨hne, .inr he⟩
      · rintro (rfl | ⟨hne, rfl | he⟩)
        · exact .inr (.inl rfl)
        · exact .inl rfl
        · exact .inr (.inr ⟨hne, he⟩)

theorem sorted_insertEntry {k : K} {v : V} {l : List (K × V)}
    (hl : l.Pairwise fun a b => a.1 < b.1) :
    (insertEntry k v l).Pairwise fun a b => a.1 < b.1 := by
  induction l with
  | nil => exact List.pairwise_singleton _ _
  | cons x l ih =>
    obtain ⟨hx, hl'⟩ := List.pairwise_cons.1 hl
    unfold insertEntry
    split_ifs with hlt heq
    · refine List.pairwise_cons.2 ⟨fun e he => ?_, hl⟩
      rcases List.mem_cons.1 he with rfl | he
      · exact hlt
      · exact hlt.trans (hx e he)
    · exact List.pairwise_cons.2 ⟨fun e he => heq ▸ hx e he, hl'⟩
    · refine List.pairwise_cons.2 ⟨fun e he => ?_, ih hl'⟩
      rcases (mem_insertEntry hl').1 he with rfl | ⟨-, he⟩
      · exact lt_of_le_of_ne (not_lt.1 hlt) (Ne.symm heq)
      · exact hx e he

variable (m : OrdMap K V) (k : K) (v : V)

/-- `m[k] = v` -/
def insert : OrdMap K V := ⟨insertEntry k v m.entries, sorted_insertEntry m.sorted⟩

def erase : OrdMap K V := ⟨m.entries.filter fun e => e.1 ≠ k, m.sorted.filter _⟩

def find : Option V := (m.entries.find? fun e => e.1 = k).map Prod.snd

/-- The entries that `f` keeps, with the values that it gives them. -/
def filterMap {W : Type*} (f : K → V → Option W) : OrdMap K W where
  entries := m.entries.filterMap fun e => (f e.1 e.2).map fun w => (e.1, w)
  sorted := by
    refine m.sorted.filterMap _ ?_
    rintro ⟨k, v⟩ ⟨k', v'⟩ hlt e he e' he'
    obtain ⟨w, -, rfl⟩ := Option.map_eq_some_iff.1 he
    obtain ⟨w', -, rfl⟩ := Option.map_eq_some_iff.1 he'
    exact hlt

def mapValues (f : V → V) : OrdMap K V := m.filterMap fun _ v => some (f v)

/-- The entries whose values satisfy `p`. -/
def filter (p : V → Bool) : OrdMap K V := ⟨m.entries.filter fun e => p e.2, m.sorted.filter _⟩

def isEmpty : Bool := m.entries.isEmpty

def size : ℕ := m.entries.length

/-- The values in the order of the keys. -/
def values : List V := m.entries.map Prod.snd

/-- The set of the values. -/
def vals : Set V := {v | ∃ k, (k, v) ∈ m.entries}

variable {m k v}

theorem mem_entries_insert {e : K × V} :
    e ∈ (m.insert k v).entries ↔ e = (k, v) ∨ e.1 ≠ k ∧ e ∈ m.entries :=
  mem_insertEntry m.sorted

theorem mem_entries_erase {e : K × V} : e ∈ (m.erase k).entries ↔ e.1 ≠ k ∧ e ∈ m.entries := by
  simp [erase, and_comm]

/-- No two entries have the same key. -/
theorem eq_of_key {e e' : K × V} (he : e ∈ m.entries) (he' : e' ∈ m.entries) (h : e.1 = e'.1) :
    e = e' := by
  have hne : m.entries.Pairwise fun a b => a.1 = b.1 → a = b :=
    m.sorted.imp fun hlt heq => absurd heq hlt.ne
  have hne' : m.entries.Pairwise (flip fun a b : K × V => a.1 = b.1 → a = b) :=
    m.sorted.imp fun hlt heq => absurd heq.symm hlt.ne
  exact hne.forall_of_forall_of_flip (fun _ _ _ => rfl) hne' he he' h

theorem find_eq_some : m.find k = some v ↔ (k, v) ∈ m.entries := by
  simp only [find, Option.map_eq_some_iff]
  constructor
  · rintro ⟨⟨k', v'⟩, hf, rfl⟩
    obtain rfl : k' = k := by simpa using List.find?_some hf
    exact List.mem_of_find?_eq_some hf
  · intro hmem
    cases hf : m.entries.find? fun e => e.1 = k with
    | none => exact absurd (List.find?_eq_none.1 hf (k, v) hmem) (by simp)
    | some e =>
      have hek : e.1 = k := by simpa using List.find?_some hf
      exact ⟨e, rfl, congrArg Prod.snd (eq_of_key (List.mem_of_find?_eq_some hf) hmem hek)⟩

theorem find_eq_none : m.find k = none ↔ ∀ v, (k, v) ∉ m.entries := by
  rw [Option.eq_none_iff_forall_ne_some]
  exact forall_congr' fun v => not_congr find_eq_some

@[simp] theorem find_empty : (∅ : OrdMap K V).find k = none := rfl

theorem find_insert {k' : K} :
    (m.insert k v).find k' = if k' = k then some v else m.find k' := by
  ext w
  rw [find_eq_some, mem_entries_insert]
  by_cases h : k' = k
  · subst h
    simp [eq_comm]
  · simp [h, find_eq_some]

theorem find_erase {k' : K} : (m.erase k).find k' = if k' = k then none else m.find k' := by
  ext w
  rw [find_eq_some, mem_entries_erase]
  by_cases h : k' = k
  · simp [h]
  · simp [h, find_eq_some]

/-- Only one entry has the key. -/
theorem filter_key : m.entries.filter (fun e => e.1 = k) = (m.find k).toList.map fun v => (k, v) := by
  cases hf : m.find k with
  | none =>
    refine List.filter_eq_nil_iff.2 fun e he hk => ?_
    obtain rfl : e.1 = k := of_decide_eq_true hk
    exact find_eq_none.1 hf e.2 he
  | some v =>
    obtain ⟨before, behind, hentries⟩ := List.append_of_mem (find_eq_some.1 hf)
    have hsorted := m.sorted
    rw [hentries, List.pairwise_append, List.pairwise_cons] at hsorted
    obtain ⟨-, ⟨hbehind, -⟩, hbefore⟩ := hsorted
    have hnone : before.filter (fun e => e.1 = k) = [] ∧ behind.filter (fun e => e.1 = k) = [] := by
      constructor <;> refine List.filter_eq_nil_iff.2 fun e he hk => ?_
      · exact (hbefore e he (k, v) List.mem_cons_self).ne (of_decide_eq_true hk)
      · exact (hbehind e he).ne' (of_decide_eq_true hk)
    rw [hentries, List.filter_append, List.filter_cons, hnone.1, hnone.2, if_pos (decide_eq_true rfl)]
    rfl

/-- A loop over the entries, as far as it is about one key. -/
theorem filter_flatMap_key {β : Type*} {f : K × V → List β} {key : β → K}
    (hf : ∀ e, ∀ b ∈ f e, key b = e.1) :
    (m.entries.flatMap f).filter (fun b => key b = k) = (m.find k).toList.flatMap fun v => f (k, v) := by
  have hentry : ∀ e, (f e).filter (fun b => key b = k) = if decide (e.1 = k) then f e else [] := by
    intro e
    split
    next hk =>
      exact List.filter_eq_self.2 fun b hb => decide_eq_true ((hf e b hb).trans (of_decide_eq_true hk))
    next hk =>
      refine List.filter_eq_nil_iff.2 fun b hb hkey => ?_
      exact hk (decide_eq_true ((hf e b hb).symm.trans (of_decide_eq_true hkey)))
  rw [List.filter_flatMap, funext hentry, flatMap_ite_nil, filter_key, List.flatMap_map]

theorem find_filterMap {W : Type*} (f : K → V → Option W) :
    (m.filterMap f).find k = (m.find k).bind (f k) := by
  ext w
  rw [find_eq_some, Option.bind_eq_some_iff]
  simp only [filterMap, List.mem_filterMap, Option.map_eq_some_iff, Prod.mk.injEq]
  constructor
  · rintro ⟨⟨k', v⟩, he, w', hw, rfl, rfl⟩
    exact ⟨v, find_eq_some.2 he, hw⟩
  · rintro ⟨v, hv, hw⟩
    exact ⟨(k, v), find_eq_some.1 hv, w, hw, rfl, rfl⟩

theorem find_filter (p : V → Bool) : (m.filter p).find k = (m.find k).filter p := by
  ext w
  rw [find_eq_some, Option.filter_eq_some_iff, find_eq_some]
  exact List.mem_filter

theorem find_mapValues (f : V → V) : (m.mapValues f).find k = (m.find k).map f := by
  rw [mapValues, find_filterMap]
  exact Option.map_eq_bind.symm

theorem isEmpty_iff : m.isEmpty = true ↔ ∀ e, e ∉ m.entries := by
  rw [isEmpty, List.isEmpty_iff, List.eq_nil_iff_forall_not_mem]

theorem isEmpty_iff_find : m.isEmpty = true ↔ ∀ k, m.find k = none := by
  simp only [isEmpty_iff, find_eq_none, Prod.forall]

theorem size_eq_zero : m.size = 0 ↔ ∀ k, m.find k = none := by
  rw [← isEmpty_iff_find, size, isEmpty, List.length_eq_zero_iff, List.isEmpty_iff]

theorem mem_values : v ∈ m.values ↔ v ∈ m.vals := by
  simp [values, vals]

theorem values_any_eq_false {p : V → Bool} :
    m.values.any p = false ↔ ∀ k v, m.find k = some v → p v = false := by
  simp only [List.any_eq_false, values, List.mem_map, Bool.not_eq_true]
  constructor
  · intro h k v hv
    exact h v ⟨(k, v), find_eq_some.1 hv, rfl⟩
  · rintro h v ⟨e, he, rfl⟩
    exact h e.1 e.2 (find_eq_some.2 he)

theorem vals_eq_empty : m.vals = ∅ ↔ m.isEmpty = true := by
  rw [isEmpty_iff, Set.eq_empty_iff_forall_notMem]
  exact ⟨fun h ⟨k, v⟩ he => h v ⟨k, he⟩, fun h v ⟨k, he⟩ => h (k, v) he⟩

theorem vals_insert : (m.insert k v).vals = Insert.insert v (m.erase k).vals := by
  ext v'
  simp only [vals, Set.mem_ofPred_eq, Set.mem_insert_iff, mem_entries_insert, mem_entries_erase]
  constructor
  · rintro ⟨k', he | he⟩
    · exact .inl (congrArg Prod.snd he)
    · exact .inr ⟨k', he⟩
  · rintro (rfl | ⟨k', he⟩)
    · exact ⟨k, .inl rfl⟩
    · exact ⟨k', .inr he⟩

theorem vals_of_find (h : m.find k = some v) : m.vals = Insert.insert v (m.erase k).vals := by
  ext v'
  simp only [vals, Set.mem_ofPred_eq, Set.mem_insert_iff, mem_entries_erase]
  constructor
  · rintro ⟨k', he⟩
    by_cases hk : k' = k
    · subst hk
      exact .inl (Option.some.inj ((find_eq_some.2 he).symm.trans h))
    · exact .inr ⟨k', hk, he⟩
  · rintro (rfl | ⟨k', -, he⟩)
    · exact ⟨k, find_eq_some.1 h⟩
    · exact ⟨k', he⟩

/-- A map is determined by what is found in it. -/
theorem ext_find {m' : OrdMap K V} (h : ∀ k, m.find k = m'.find k) : m = m' := by
  have hmem : ∀ e : K × V, e ∈ m.entries ↔ e ∈ m'.entries := fun e => by
    rw [← find_eq_some, h, find_eq_some]
  have hnodup (m : OrdMap K V) : m.entries.Nodup :=
    m.sorted.imp fun {a b} hlt => fun heq => lt_irrefl a.1 (heq ▸ hlt)
  have hperm : m.entries.Perm m'.entries :=
    (List.perm_ext_iff_of_nodup (hnodup m) (hnodup m')).2 hmem
  ext1
  exact hperm.eq_of_pairwise (fun a b _ _ hab hba => absurd hba (lt_asymm hab)) m.sorted m'.sorted

theorem insert_erase_of_find (h : m.find k = some v) : (m.erase k).insert k v = m := by
  refine ext_find fun k' => ?_
  rw [find_insert, find_erase]
  split
  · rename_i hk
    rw [hk, h]
  · rfl

theorem erase_of_find (h : m.find k = none) : m.erase k = m := by
  ext1
  refine List.filter_eq_self.2 fun e he => ?_
  have hne : e.1 ≠ k := fun hk => find_eq_none.1 h e.2 (hk ▸ he)
  simpa using hne

/-- A map of size one has nothing besides an entry that it has. -/
theorem size_eq_one (h : m.find k = some v) : m.size = 1 ↔ (m.erase k).isEmpty = true := by
  have hmem := find_eq_some.1 h
  rw [isEmpty_iff, size]
  constructor
  · intro hlen e he
    obtain ⟨x, hx⟩ := List.length_eq_one_iff.1 hlen
    obtain ⟨hne, he⟩ := mem_entries_erase.1 he
    rw [hx, List.mem_singleton] at he hmem
    exact hne (by rw [he, ← hmem])
  · intro hnone
    have hkey : ∀ e ∈ m.entries, e.1 = k := fun e he => by
      by_contra hne
      exact hnone e (mem_entries_erase.2 ⟨hne, he⟩)
    match hl : m.entries with
    | [] => rw [hl] at hmem; cases hmem
    | [_] => rfl
    | a :: b :: l =>
      have hlt : a.1 < b.1 :=
        (List.pairwise_cons.1 (hl ▸ m.sorted)).1 b List.mem_cons_self
      rw [hkey a (by simp [hl]), hkey b (by simp [hl])] at hlt
      exact absurd hlt (lt_irrefl k)

end OrdMap

end GpsHal
