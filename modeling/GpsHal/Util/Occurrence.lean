import Mathlib.Data.List.Basic

/-!
# Occurrences of a pattern

A pattern is compared with a text from its end, and a character is found that is not the one of the
pattern.  How far the pattern can be moved without missing an occurrence depends on where in the
pattern that character, and what follows it, occurs again.

## Main definitions

* `OccursAt` : the pattern occurs in the text.
* `Border`, `Recurs` : the end of the pattern occurs again, at its start or further in.
* `Mismatch` : what a comparison from the end has found.

## Main results

* `Mismatch.char_of_occursAt`, `Mismatch.recurs_of_occursAt`, `Mismatch.border_of_occursAt` : what
  an occurrence further on says about the pattern.
-/

namespace GpsHal

variable {α : Type*} {pat str : List α} {a j k q t : ℕ}

/-- The pattern occurs in the text, `k` characters from its start. -/
def OccursAt (pat str : List α) (k : ℕ) : Prop := pat <+: str.drop k

instance [DecidableEq α] (pat str : List α) (k : ℕ) : Decidable (OccursAt pat str k) :=
  inferInstanceAs (Decidable (pat <+: str.drop k))

/-- What follows the first `q` characters of the pattern is how it starts. -/
def Border (pat : List α) (q : ℕ) : Prop := pat.drop q <+: pat

instance [DecidableEq α] (pat : List α) (q : ℕ) : Decidable (Border pat q) :=
  inferInstanceAs (Decidable (pat.drop q <+: pat))

/-- What follows the character at `j` occurs `t` characters earlier too, after another character. -/
structure Recurs (pat : List α) (t j : ℕ) : Prop where
  pos : 0 < t
  le : t ≤ j
  suffix : ∀ x, j < x → x < pat.length → pat[x - t]? = pat[x]?
  char : pat[j - t]? ≠ pat[j]?

/-- The text agrees with the pattern at `a` after the character at `j`, and not there. -/
structure Mismatch (pat str : List α) (a j : ℕ) : Prop where
  lt : j < pat.length
  suffix : ∀ x, j < x → x < pat.length → str[a + x]? = pat[x]?
  char : str[a + j]? ≠ pat[j]?

theorem prefix_iff : pat <+: str ↔ ∀ x < pat.length, str[x]? = pat[x]? := by
  rw [List.prefix_iff_getElem?]
  refine forall_congr' fun x => forall_congr' fun hx => ?_
  rw [List.getElem?_eq_getElem hx]

theorem occursAt_iff : OccursAt pat str k ↔ ∀ x < pat.length, str[k + x]? = pat[x]? := by
  rw [OccursAt, prefix_iff]
  refine forall_congr' fun x => forall_congr' fun _ => ?_
  rw [List.getElem?_drop]

theorem border_iff : Border pat q ↔ ∀ x, q ≤ x → x < pat.length → pat[x - q]? = pat[x]? := by
  rw [Border, prefix_iff]
  constructor
  · intro h x hq hx
    have hsame := h (x - q) (by rw [List.length_drop]; omega)
    rw [List.getElem?_drop, Nat.add_sub_cancel' hq] at hsame
    exact hsame
  · intro h x hx
    rw [List.length_drop] at hx
    have hsame := h (q + x) (Nat.le_add_right q x) (by omega)
    rw [Nat.add_sub_cancel_left] at hsame
    rw [hsame, List.getElem?_drop]

/-- An occurrence is one in the text, if the pattern is not empty. -/
theorem OccursAt.add_length_le (h : OccursAt pat str k) (hpat : pat ≠ []) :
    k + pat.length ≤ str.length := by
  have hlen := h.length_le
  have hpos := List.length_pos_of_ne_nil hpat
  rw [List.length_drop] at hlen
  omega

namespace Mismatch

theorem not_occursAt (h : Mismatch pat str a j) : ¬ OccursAt pat str a :=
  fun ho => h.char (occursAt_iff.mp ho j h.lt)

/-- The character of the text is the one that the occurrence has there. -/
theorem char_of_occursAt (h : Mismatch pat str a j) (ho : OccursAt pat str (a + t)) (ht : t ≤ j) :
    pat[j - t]? = str[a + j]? := by
  have hchar := occursAt_iff.mp ho (j - t) (Nat.lt_of_le_of_lt (Nat.sub_le j t) h.lt)
  rw [← hchar]
  congr 1
  omega

/-- What is common to the comparison and an occurrence further on. -/
theorem overlap (h : Mismatch pat str a j) (ho : OccursAt pat str (a + t)) {x : ℕ} (hj : j < x)
    (ht : t ≤ x) (hx : x < pat.length) : pat[x - t]? = pat[x]? := by
  have hsame := occursAt_iff.mp ho (x - t) (by omega)
  rw [← h.suffix x hj hx, ← hsame]
  congr 1
  omega

theorem recurs_of_occursAt (h : Mismatch pat str a j) (ho : OccursAt pat str (a + t))
    (hpos : 0 < t) (ht : t ≤ j) : Recurs pat t j :=
  ⟨hpos, ht, fun _ hj hx => h.overlap ho hj (by omega) hx, fun hchar =>
    h.char ((h.char_of_occursAt ho ht).symm.trans hchar)⟩

theorem border_of_occursAt (h : Mismatch pat str a j) (ho : OccursAt pat str (a + t))
    (ht : j < t) : Border pat t :=
  border_iff.mpr fun _ hx hlt => h.overlap ho (by omega) hx hlt

end Mismatch

end GpsHal
