import Mathlib.Data.List.AList
import Mathlib.Data.List.Nodup

/-!
# Unordered sets with a traversal order

A hash set is modelled by the list of its elements in the order a traversal visits them, with
the proof that no element occurs twice.  The operations are executable; the results about them
are stated through membership, so that they hold for every traversal order.

## Main definitions

* `USet α` : the sets, with `insert`, `erase`, `insertAll` and `ofList`.
* `USet.trim s r g` : take the elements of `r` out of `s` and record in `g` those it contained.
* `USet.split s t` : the common elements of `s` and `t`, and what is left of each.
-/

namespace GpsHal

/-- A set together with the order in which a traversal visits its elements. -/
structure USet (α : Type*) where
  /-- The elements, in traversal order. -/
  elems : List α
  nodup : elems.Nodup

namespace USet

variable {α : Type*}

instance : Membership α (USet α) := ⟨fun s a => a ∈ s.elems⟩

instance : EmptyCollection (USet α) := ⟨⟨[], List.nodup_nil⟩⟩

instance : Inhabited (USet α) := ⟨∅⟩

theorem mem_def {s : USet α} {a : α} : a ∈ s ↔ a ∈ s.elems := Iff.rfl

@[simp] theorem not_mem_empty (a : α) : a ∉ (∅ : USet α) := List.not_mem_nil

/-- The set has no elements. -/
def isEmpty (s : USet α) : Bool := s.elems.isEmpty

theorem isEmpty_iff {s : USet α} : s.isEmpty = true ↔ ∀ a, a ∉ s := by
  simp [isEmpty, mem_def, List.eq_nil_iff_forall_not_mem]

theorem isEmpty_eq_false_iff {s : USet α} : s.isEmpty = false ↔ ∃ a, a ∈ s := by
  rw [← Bool.not_eq_true, isEmpty_iff]; push Not; rfl

/-- The set with the one element `a`. -/
def single (a : α) : USet α := ⟨[a], List.nodup_singleton a⟩

@[simp] theorem mem_single {a b : α} : b ∈ single a ↔ b = a := List.mem_singleton

variable [DecidableEq α]

instance (a : α) (s : USet α) : Decidable (a ∈ s) := inferInstanceAs (Decidable (a ∈ s.elems))

/-- Insert an element; nothing happens if it is there already. -/
def insert (s : USet α) (a : α) : USet α :=
  if h : a ∈ s.elems then s
  else ⟨s.elems ++ [a], List.nodup_append.2 ⟨s.nodup, List.nodup_singleton a, by
    rintro x hx y hy rfl; exact h (List.mem_singleton.1 hy ▸ hx)⟩⟩

/-- Remove an element; nothing happens if it is not there. -/
def erase (s : USet α) (a : α) : USet α := ⟨s.elems.erase a, s.nodup.erase a⟩

/-- Insert the elements of a list, one after the other. -/
def insertAll (s : USet α) (l : List α) : USet α := l.foldl insert s

/-- The set of the elements of a list. -/
def ofList (l : List α) : USet α := insertAll ∅ l

@[simp] theorem mem_insert {s : USet α} {a b : α} : b ∈ s.insert a ↔ b ∈ s ∨ b = a := by
  unfold insert
  split
  · rename_i h
    constructor
    · exact Or.inl
    · rintro (hb | rfl)
      · exact hb
      · exact h
  · simp [mem_def]

@[simp] theorem mem_erase {s : USet α} {a b : α} : b ∈ s.erase a ↔ b ≠ a ∧ b ∈ s :=
  s.nodup.mem_erase_iff

@[simp] theorem mem_insertAll {s : USet α} {l : List α} {b : α} :
    b ∈ s.insertAll l ↔ b ∈ s ∨ b ∈ l := by
  unfold insertAll
  induction l generalizing s with
  | nil => simp
  | cons a l ih => simp only [List.foldl_cons, ih, mem_insert, List.mem_cons, or_assoc]

@[simp] theorem mem_ofList {l : List α} {b : α} : b ∈ ofList l ↔ b ∈ l := by
  simp [ofList]

/-! ### Trimming -/

/-- One step of `trim` : take `val` out and record it if it was there. -/
def trimStep (st : USet α × USet α) (val : α) : USet α × USet α :=
  if val ∈ st.1 then (st.1.erase val, st.2.insert val) else st

/-- Take the elements of `r` out of `s`; the second component is `g` with the elements that were
taken out added. -/
def trim (s r g : USet α) : USet α × USet α := r.elems.foldl trimStep (s, g)

theorem mem_foldl_trimStep (l : List α) (st : USet α × USet α) (b : α) :
    (b ∈ (l.foldl trimStep st).1 ↔ b ∈ st.1 ∧ b ∉ l) ∧
      (b ∈ (l.foldl trimStep st).2 ↔ b ∈ st.2 ∨ (b ∈ st.1 ∧ b ∈ l)) := by
  induction l generalizing st with
  | nil => simp
  | cons a l ih =>
    obtain ⟨h1, h2⟩ := ih (trimStep st a)
    rw [List.foldl_cons, h1, h2]
    simp only [List.mem_cons, trimStep]
    by_cases ha : a ∈ st.1
    · by_cases hb : b = a
      · subst hb; simp [ha]
      · simp [ha, hb]
    · by_cases hb : b = a
      · subst hb; simp [ha]
      · simp [ha, hb]

@[simp] theorem mem_trim_fst {s r g : USet α} {b : α} : b ∈ (s.trim r g).1 ↔ b ∈ s ∧ b ∉ r :=
  (mem_foldl_trimStep r.elems (s, g) b).1

@[simp] theorem mem_trim_snd {s r g : USet α} {b : α} :
    b ∈ (s.trim r g).2 ↔ b ∈ g ∨ (b ∈ s ∧ b ∈ r) :=
  (mem_foldl_trimStep r.elems (s, g) b).2

/-! ### Splitting off the common elements -/

/-- The state of `split` : the common elements found so far and what is left of both sets. -/
structure Split (α : Type*) where
  common : USet α
  left : USet α
  right : USet α

/-- One step of `split` : move `b` out of both sets if the left one has it. -/
def splitStep (st : Split α) (b : α) : Split α :=
  if b ∈ st.left then ⟨st.common.insert b, st.left.erase b, st.right.erase b⟩ else st

/-- Traverse `t`, moving every element that `s` contains out of both sets. -/
def split (s t : USet α) : Split α := t.elems.foldl splitStep ⟨∅, s, t⟩

theorem mem_foldl_splitStep (l : List α) (st : Split α) (b : α) :
    (b ∈ (l.foldl splitStep st).common ↔ b ∈ st.common ∨ (b ∈ st.left ∧ b ∈ l)) ∧
      (b ∈ (l.foldl splitStep st).left ↔ b ∈ st.left ∧ b ∉ l) ∧
      (b ∈ (l.foldl splitStep st).right ↔ b ∈ st.right ∧ ¬ (b ∈ st.left ∧ b ∈ l)) := by
  induction l generalizing st with
  | nil => simp
  | cons a l ih =>
    obtain ⟨h1, h2, h3⟩ := ih (splitStep st a)
    rw [List.foldl_cons, h1, h2, h3]
    simp only [List.mem_cons, splitStep]
    by_cases ha : a ∈ st.left
    · by_cases hb : b = a
      · subst hb; simp [ha]
      · simp [ha, hb]
    · by_cases hb : b = a
      · subst hb; simp [ha]
      · simp [ha, hb]

@[simp] theorem mem_split_common {s t : USet α} {b : α} :
    b ∈ (s.split t).common ↔ b ∈ s ∧ b ∈ t :=
  (mem_foldl_splitStep t.elems ⟨∅, s, t⟩ b).1.trans (by simp [← mem_def])

@[simp] theorem mem_split_left {s t : USet α} {b : α} : b ∈ (s.split t).left ↔ b ∈ s ∧ b ∉ t :=
  (mem_foldl_splitStep t.elems ⟨∅, s, t⟩ b).2.1

@[simp] theorem mem_split_right {s t : USet α} {b : α} : b ∈ (s.split t).right ↔ b ∈ t ∧ b ∉ s :=
  (mem_foldl_splitStep t.elems ⟨∅, s, t⟩ b).2.2.trans
    ⟨fun h => ⟨h.1, fun hs => h.2 ⟨hs, h.1⟩⟩, fun h => ⟨h.1, fun hst => h.2 hst.1⟩⟩

end USet

end GpsHal
