import Mathlib.Algebra.Group.Idempotent

/-!
# Replicas of a published value

A value grows by increments, which are published to those who have subscribed.  Who subscribes gets the
whole value first.  The increments form a monoid in which each element is idempotent: nothing changes when
an increment comes again.  Then everyone who has subscribed has the value, even after times in which
they had not.

## Main definitions

* `Replicated value subscribed view` : the subscribers see the value, and the value has what the others see.

## Main results

* `Replicated.publish`, `Replicated.subscribe`, `Replicated.unsubscribe` : what one step keeps.
-/

namespace GpsHal

variable {M K : Type*} [Monoid M]

structure Replicated (value : M) (subscribed : K → Bool) (view : K → M) : Prop where
  current : ∀ k, subscribed k = true → view k = value
  behind : ∀ k, view k * value = value

namespace Replicated

variable {value : M} {subscribed : K → Bool} {view : K → M}

theorem init : Replicated (1 : M) (fun _ : K => false) fun _ => 1 where
  current _ hk := absurd hk (by decide)
  behind _ := one_mul 1

section

variable [DecidableEq K] (h : Replicated value subscribed view) (k : K)

include h

theorem unsubscribe : Replicated value (Function.update subscribed k false) view where
  current k' hk' := by
    by_cases hk : k' = k
    · rw [hk, Function.update_self] at hk'
      exact absurd hk' (by decide)
    · exact h.current k' (by rwa [Function.update_of_ne hk] at hk')
  behind := h.behind

variable (hidem : ∀ a : M, IsIdempotentElem a)

include hidem

/-- A new subscriber gets the value, behind what they have seen before. -/
theorem subscribe : Replicated value (Function.update subscribed k true)
    (Function.update view k (if subscribed k then view k else view k * value)) := by
  have hview : (if subscribed k then view k else view k * value) = value := by
    split
    next hk => exact h.current k hk
    next => exact h.behind k
  rw [hview]
  refine ⟨fun k' hk' => ?_, fun k' => ?_⟩ <;> by_cases hk : k' = k
  · rw [hk, Function.update_self]
  · rw [Function.update_of_ne hk] at hk' ⊢
    exact h.current k' hk'
  · rw [hk, Function.update_self]
    exact hidem value
  · rw [Function.update_of_ne hk]
    exact h.behind k'

end

theorem publish (h : Replicated value subscribed view) (hidem : ∀ a : M, IsIdempotentElem a) (d : M) :
    Replicated (value * d) subscribed fun k => if subscribed k then view k * d else view k where
  current k hk := by rw [if_pos hk, h.current k hk]
  behind k := by
    split
    next hk =>
      rw [h.current k hk]
      exact hidem (value * d)
    next => rw [← mul_assoc, h.behind k]

end Replicated

end GpsHal
