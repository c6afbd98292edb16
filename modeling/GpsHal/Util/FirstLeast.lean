import Mathlib.Data.List.Induction
import Mathlib.Order.Bounds.Basic

/-!
# The first least element of a list

A loop that keeps the least element seen so far, starting from a value that stands for "not set",
ends with the first of the least elements.

## Main definitions

* `keepLeast` : one turn of the loop.
* `FirstLeast` : the first of the least elements.
* `leastSet` : the least number, by a loop in which 0 stands for "not set".

## Main results

* `firstLeast_foldl` : what the loop ends with.
* `FirstLeast.isLeast` : it is a least one.
* `leastSet_le` : 0 among the numbers does not matter in the last place.
-/

namespace GpsHal

variable {α β : Type*} [LinearOrder β] (unset : α → Prop) [DecidablePred unset] (f : α → β)

/-- Keep `x` if nothing is set or if it is smaller. -/
def keepLeast (a x : α) : α := if unset a ∨ f x < f a then x else a

/-- The first of the elements of `l` for which `f` is least. -/
def FirstLeast (l : List α) (m : α) : Prop :=
  ∃ pre post, l = pre ++ m :: post ∧ (∀ x ∈ pre, f m < f x) ∧ ∀ x ∈ post, f m ≤ f x

variable {unset f} {l : List α} {m : α}

theorem FirstLeast.mem (h : FirstLeast f l m) : m ∈ l := by
  obtain ⟨pre, post, rfl, -, -⟩ := h
  exact List.mem_append_right _ List.mem_cons_self

theorem FirstLeast.le (h : FirstLeast f l m) {x : α} (hx : x ∈ l) : f m ≤ f x := by
  obtain ⟨pre, post, rfl, hpre, hpost⟩ := h
  rcases List.mem_append.1 hx with hx | hx
  · exact (hpre x hx).le
  · rcases List.mem_cons.1 hx with rfl | hx
    · exact le_rfl
    · exact hpost x hx

theorem FirstLeast.isLeast (h : FirstLeast f l m) : IsLeast (f '' {x | x ∈ l}) (f m) := by
  refine ⟨Set.mem_image_of_mem f h.mem, ?_⟩
  rintro _ ⟨x, hx, rfl⟩
  exact h.le hx

/-- A further element takes over when it is smaller. -/
theorem FirstLeast.snoc (h : FirstLeast f l m) (x : α) :
    FirstLeast f (l ++ [x]) (if f x < f m then x else m) := by
  split_ifs with hlt
  · exact ⟨l, [], rfl, fun y hy => hlt.trans_le (h.le hy), nofun⟩
  · obtain ⟨pre, post, rfl, hpre, hpost⟩ := h
    refine ⟨pre, post ++ [x], by simp, hpre, fun y hy => ?_⟩
    rcases List.mem_append.1 hy with hy | hy
    · exact hpost y hy
    · exact List.mem_singleton.1 hy ▸ not_lt.1 hlt

variable (unset) in
/-- A loop over elements that are all set ends with the first least one. -/
theorem firstLeast_foldl {a : α} (ha : unset a) (hl : l ≠ []) (hset : ∀ x ∈ l, ¬ unset x) :
    FirstLeast f l (l.foldl (keepLeast unset f) a) := by
  induction l using List.reverseRecOn with
  | nil => exact absurd rfl hl
  | append_singleton l x ih =>
    rw [List.foldl_append, List.foldl_cons, List.foldl_nil]
    by_cases hnil : l = []
    · subst hnil
      rw [List.foldl_nil, keepLeast, if_pos (.inl ha)]
      exact ⟨[], [], rfl, nofun, nofun⟩
    · have hfirst := ih hnil fun y hy => hset y (List.mem_append_left _ hy)
      have hnot : ¬ unset (l.foldl (keepLeast unset f) a) :=
        hset _ (List.mem_append_left _ hfirst.mem)
      simp only [keepLeast, hnot, false_or]
      exact hfirst.snoc x

/-- Two loops in one. -/
theorem foldl_prod_mk {γ δ : Type*} (g : γ → α → γ) (h : δ → α → δ) (c : γ) (d : δ)
    (l : List α) :
    l.foldl (fun p x => (g p.1 x, h p.2 x)) (c, d) = (l.foldl g c, l.foldl h d) := by
  induction l generalizing c d with
  | nil => rfl
  | cons x l ih => exact ih _ _

/-! ### Numbers of which 0 stands for none -/

section LeastSet

variable {α : Type*} {f : α → ℕ} {l : List α}

def leastSet (f : α → ℕ) (l : List α) : ℕ :=
  l.foldl (fun least x => if least = 0 ∨ f x < least then f x else least) 0

/-- If there is a 0, there is one in the last place. -/
def ZeroLast (f : α → ℕ) (l : List α) : Prop :=
  (∃ x ∈ l, f x = 0) → ∃ x, l.getLast? = some x ∧ f x = 0

theorem leastSet_concat (x : α) : leastSet f (l ++ [x]) =
    if leastSet f l = 0 ∨ f x < leastSet f l then f x else leastSet f l := by
  rw [leastSet, List.foldl_append]
  rfl

theorem leastSet_mem (hl : l ≠ []) : ∃ x ∈ l, leastSet f l = f x := by
  induction l using List.reverseRecOn with
  | nil => exact absurd rfl hl
  | append_singleton l x ih =>
    rw [leastSet_concat]
    split_ifs with hless
    · exact ⟨x, List.mem_append_right _ List.mem_cons_self, rfl⟩
    · have hnil : l ≠ [] := by
        rintro rfl
        exact hless (.inl rfl)
      obtain ⟨y, hy, heq⟩ := ih hnil
      exact ⟨y, List.mem_append_left _ hy, heq⟩

theorem leastSet_le (h : ZeroLast f l) {x : α} (hx : x ∈ l) : leastSet f l ≤ f x := by
  induction l using List.reverseRecOn generalizing x with
  | nil => cases hx
  | append_singleton l y ih =>
    rw [leastSet_concat]
    by_cases hy : f y = 0
    · rw [if_pos (by omega), hy]
      exact Nat.zero_le _
    · -- there is no 0 at all
      have hne : ∀ z ∈ l ++ [y], f z ≠ 0 := by
        intro z hz hzero
        obtain ⟨z', hlast, hzero⟩ := h ⟨z, hz, hzero⟩
        rw [List.getLast?_concat] at hlast
        exact hy (Option.some.inj hlast ▸ hzero)
      have hle : ∀ z ∈ l, leastSet f l ≤ f z := by
        refine fun z hz => ih (fun hzero => ?_) hz
        obtain ⟨w, hw, hw'⟩ := hzero
        exact absurd hw' (hne w (List.mem_append_left _ hw))
      rcases List.mem_append.1 hx with hx | hx
      · have hleast := hle x hx
        have hpos : leastSet f l ≠ 0 := by
          obtain ⟨z, hz, heq⟩ := leastSet_mem (f := f) (List.ne_nil_of_mem hx)
          rw [heq]
          exact hne z (List.mem_append_left _ hz)
        split_ifs with hless
        · omega
        · exact hleast
      · obtain rfl := List.mem_singleton.1 hx
        split_ifs with hless
        · exact Nat.le_refl _
        · omega

end LeastSet

end GpsHal
