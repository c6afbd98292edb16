import Mathlib.Data.List.Basic

/-!
# Folds of updates

A list of updates is applied from left to right.  The first part is about updates that assign a
value: what counts in the end is the last one.  The second part is about updates that add to what
has been gathered.  This file names nothing of any component.

## Main definitions

* `newest f d l` : the value that the last assignment of `l` assigns, and `d` when there is none.

## Main results

* `newest_append`, `newest_concat` : later assignments win.
* `foldl_or_iff` : a property that every update keeps or brings about, exactly when it should.
* `foldl_of_mem` : a property that every update keeps and one of them brings about.
* `foldlM_range`, `foldlM_range_reverse` : loops that count up or down and can fail.
* `flatMap_ite_nil` : a loop that skips some elements.
-/

namespace GpsHal

variable {α β : Type*}

/-- What the last element of `l` that assigns a value assigns, and `d` when none does. -/
def newest (f : α → Option β) (d : β) (l : List α) : β := l.foldl (fun d a => (f a).getD d) d

section Newest

variable {f : α → Option β} {d : β} {l l' : List α} {a : α}

@[simp] theorem newest_nil : newest f d [] = d := rfl

@[simp] theorem newest_cons : newest f d (a :: l) = newest f ((f a).getD d) l := rfl

theorem newest_append : newest f d (l ++ l') = newest f (newest f d l) l' :=
  List.foldl_append

@[simp] theorem newest_concat : newest f d (l ++ [a]) = (f a).getD (newest f d l) := by
  rw [newest_append, newest_cons, newest_nil]

end Newest

/-- A loop that does something for some elements only. -/
theorem flatMap_ite_nil {p : α → Bool} {f : α → List β} {l : List α} :
    (l.flatMap fun a => if p a then f a else []) = (l.filter p).flatMap f := by
  induction l with
  | nil => rfl
  | cons a l ih =>
    rw [List.flatMap_cons, ih, List.filter_cons]
    cases p a <;> rfl

section Gather

variable {g : β → α → β} {Q : β → Prop} {l : List α} {b : β}

/-- When each update makes `Q` true exactly if it held before or the update asks for it, then `Q`
holds in the end exactly if it held initially or one of the updates asked for it. -/
theorem foldl_or_iff {P : α → Prop} (h : ∀ b, ∀ a ∈ l, Q (g b a) ↔ Q b ∨ P a) :
    Q (l.foldl g b) ↔ Q b ∨ ∃ a ∈ l, P a := by
  induction l generalizing b with
  | nil => simp
  | cons a l ih =>
    rw [List.foldl_cons, ih fun b a' ha' => h b a' (List.mem_cons_of_mem _ ha'),
      h b a List.mem_cons_self, List.exists_mem_cons_iff, or_assoc]

/-- What every update keeps and some update brings about holds in the end. -/
theorem foldl_of_mem {a : α} (hkeep : ∀ b a, Q b → Q (g b a)) (ha : a ∈ l)
    (hmake : ∀ b, Q (g b a)) : Q (l.foldl g b) := by
  obtain ⟨l₁, l₂, rfl⟩ := List.append_of_mem ha
  rw [List.foldl_append, List.foldl_cons]
  exact List.foldlRecOn l₂ g (hmake _) fun b hb a' _ => hkeep b a' hb

end Gather

section Range

variable {ε σ : Type*} {f : σ → ℕ → Except ε σ} {I : ℕ → σ → Prop} {n : ℕ} {s : σ}

/-- A loop that counts up does not fail and keeps an invariant if each of its steps does. -/
theorem foldlM_range (h₀ : I 0 s)
    (hstep : ∀ i < n, ∀ s, I i s → ∃ s', f s i = .ok s' ∧ I (i + 1) s') :
    ∃ s', (List.range n).foldlM f s = .ok s' ∧ I n s' := by
  induction n with
  | zero => exact ⟨s, rfl, h₀⟩
  | succ n ih =>
    obtain ⟨s₁, hs₁, hI₁⟩ := ih fun i hi => hstep i (Nat.lt_succ_of_lt hi)
    obtain ⟨s₂, hs₂, hI₂⟩ := hstep n (Nat.lt_succ_self n) s₁ hI₁
    refine ⟨s₂, ?_, hI₂⟩
    rw [List.range_succ, List.foldlM_append, hs₁]
    show List.foldlM f s₁ [n] = .ok s₂
    rw [List.foldlM_cons, hs₂]
    rfl

/-- A loop that counts down does not fail and keeps an invariant if each of its steps does. -/
theorem foldlM_range_reverse (h₀ : I n s)
    (hstep : ∀ i < n, ∀ s, I (i + 1) s → ∃ s', f s i = .ok s' ∧ I i s') :
    ∃ s', (List.range n).reverse.foldlM f s = .ok s' ∧ I 0 s' := by
  induction n generalizing s with
  | zero => exact ⟨s, rfl, h₀⟩
  | succ n ih =>
    obtain ⟨s₁, hs₁, hI₁⟩ := hstep n (Nat.lt_succ_self n) s h₀
    obtain ⟨s₂, hs₂, hI₂⟩ := ih hI₁ fun i hi => hstep i (Nat.lt_succ_of_lt hi)
    refine ⟨s₂, ?_, hI₂⟩
    rw [List.range_succ, List.reverse_append, List.reverse_singleton, List.singleton_append,
      List.foldlM_cons, hs₁]
    exact hs₂

end Range

end GpsHal
