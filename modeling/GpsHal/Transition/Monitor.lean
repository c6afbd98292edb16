import Mathlib.Data.List.Basic

/-!
# Monitors

A monitor reads the trace of a system item by item and refuses it at the first item that breaks
the rule it watches.  Safety properties of what a component sends over time are stated by a
monitor that accepts the trace of every run.  This file names nothing of any component.

## Main definitions

* `follow next c l` : the state of the monitor `next` after the items `l`, if none is refused.

## Main results

* `follow_append` : a monitor goes on where it stopped.
* `follow_silent` : items that the monitor ignores leave its state as it is.
-/

namespace GpsHal

namespace Monitor

variable {C A : Type*}

/-- The monitor state after the items `l`; `none` once an item has been refused. -/
def follow (next : C → A → Option C) (c : C) (l : List A) : Option C := l.foldlM next c

variable {next : C → A → Option C} {c c' : C} {l l' : List A} {a : A}

@[simp] theorem follow_nil : follow next c [] = some c := rfl

theorem follow_cons (h : next c a = some c') : follow next c (a :: l) = follow next c' l := by
  rw [follow, List.foldlM_cons, h]; rfl

theorem follow_cons_none (h : next c a = none) : follow next c (a :: l) = none := by
  rw [follow, List.foldlM_cons, h]; rfl

theorem follow_append (h : follow next c l = some c') :
    follow next c (l ++ l') = follow next c' l' := by
  rw [follow] at h
  rw [follow, List.foldlM_append, h]; rfl

theorem follow_silent (h : ∀ a ∈ l, next c a = some c) : follow next c l = some c := by
  induction l with
  | nil => rfl
  | cons a l ih =>
    obtain ⟨ha, hl⟩ := List.forall_mem_cons.1 h
    rw [follow_cons ha]
    exact ih hl

end Monitor

end GpsHal
