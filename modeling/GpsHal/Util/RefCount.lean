import Mathlib.Algebra.Order.BigOperators.Group.Finset
import Mathlib.Data.Fintype.BigOperators

/-!
# Objects that are freed with their last reference

Finitely many holders have a reference to an object each.  A holder gives its reference up by
decrementing the count of references inside a critical section of the object's own mutex, and frees
the object afterwards if the count was one.

## Main definitions

* `Ref` : how far a holder has got with that.
* `Counted.Valid` : the object fits to what its holders are doing.

## Main results

* `Valid.lock`, `Valid.decrement`, `Valid.unlock`, `Valid.delete`, `Valid.forgo` : the steps of a
  holder.
* `Valid.not_freed` : who may still use the object finds it there.
* `Valid.freed_of_gone` : once all references have been given up, the object has been freed once.
-/

namespace GpsHal

/-- What a holder is doing with its reference. -/
inductive Ref where
  /-- It has its reference. -/
  | held
  /-- It has locked the mutex, to give the reference up. -/
  | locked
  /-- It has decremented the count, and holds the mutex. -/
  | unlocking (callDelete : Bool)
  /-- It has unlocked the mutex. -/
  | deleting (callDelete : Bool)
  | gone
  deriving DecidableEq, Repr

namespace Ref

/-- The reference is counted. -/
def count : Ref → ℕ
  | held | locked => 1
  | unlocking _ | deleting _ | gone => 0

/-- The holder is about to free the object. -/
def pending : Ref → ℕ
  | unlocking true | deleting true => 1
  | held | locked | unlocking false | deleting false | gone => 0

/-- The holder is in the critical section. -/
def inside : Ref → Bool
  | locked | unlocking _ => true
  | held | deleting _ | gone => false

end Ref

/-- An object with a count of its references. -/
structure Counted (ι : Type*) where
  mutex : Option ι
  refCount : ℕ
  /-- How often the object has been freed. -/
  freed : ℕ

namespace Counted

variable {ι : Type*} [Fintype ι]

/-- The object fits to what its holders are doing. -/
structure Valid (o : Counted ι) (ref : ι → Ref) : Prop where
  mutex : ∀ i, (ref i).inside = true ↔ o.mutex = some i
  count : o.refCount = ∑ i, (ref i).count
  freed : o.freed + ∑ i, (ref i).pending = if o.refCount = 0 then 1 else 0
  last : ∀ i, ref i = .unlocking false → 0 < o.refCount

theorem sum_update [DecidableEq ι] (f : Ref → ℕ) (ref : ι → Ref) (i : ι) (r : Ref) :
    ∑ j, f (Function.update ref i r j) + f (ref i) = ∑ j, f (ref j) + f r := by
  have hrest : ∑ j ∈ Finset.univ.erase i, f (Function.update ref i r j) =
      ∑ j ∈ Finset.univ.erase i, f (ref j) := by
    refine Finset.sum_congr rfl fun j hj => ?_
    rw [Function.update_of_ne (Finset.ne_of_mem_erase hj)]
  rw [← Finset.add_sum_erase _ _ (Finset.mem_univ i), ← Finset.add_sum_erase _ _ (Finset.mem_univ i),
    hrest, Function.update_self]
  omega

namespace Valid

variable {o : Counted ι} {ref : ι → Ref} {i : ι}

theorem count_le (h : o.Valid ref) (i : ι) : (ref i).count ≤ o.refCount := by
  rw [h.count]
  exact Finset.single_le_sum (f := fun j => (ref j).count) (fun _ _ => Nat.zero_le _)
    (Finset.mem_univ i)

theorem pending_le (h : o.Valid ref) (i : ι) :
    o.freed + (ref i).pending ≤ if o.refCount = 0 then 1 else 0 := by
  rw [← h.freed]
  exact Nat.add_le_add_left (Finset.single_le_sum (f := fun j => (ref j).pending)
    (fun _ _ => Nat.zero_le _) (Finset.mem_univ i)) _

/-- Nobody but the holder is in the critical section. -/
theorem outside (h : o.Valid ref) (hi : o.mutex = some i) {j : ι} (hj : j ≠ i) :
    (ref j).inside = false := by
  refine Bool.eq_false_of_not_eq_true fun hin => hj ?_
  exact Option.some.inj (((h.mutex j).mp hin).symm.trans hi)

theorem freed_le_one (h : o.Valid ref) : o.freed ≤ 1 := by
  have hsum := h.freed
  split at hsum <;> omega

/-- Who has not given up its reference, or has to free the object, finds it there. -/
theorem not_freed (h : o.Valid ref) (hi : ref i ≠ .gone) (hi' : ref i ≠ .deleting false) :
    o.freed = 0 := by
  have hcount := h.count_le i
  have hpending := h.pending_le i
  cases hr : ref i with
  | held | locked =>
    rw [hr, Ref.count] at hcount
    rw [if_neg (by omega)] at hpending
    omega
  | unlocking callDelete =>
    cases callDelete with
    | false =>
      have hpos := h.last i hr
      rw [if_neg (by omega)] at hpending
      omega
    | true =>
      rw [hr, Ref.pending] at hpending
      split at hpending <;> omega
  | deleting callDelete =>
    cases callDelete with
    | false => exact absurd hr hi'
    | true =>
      rw [hr, Ref.pending] at hpending
      split at hpending <;> omega
  | gone => exact absurd hr hi

/-- Once all references have been given up, the object has been freed. -/
theorem freed_of_gone (h : o.Valid ref) (hgone : ∀ i, ref i = .gone) : o.freed = 1 := by
  have hcount : o.refCount = 0 := by
    rw [h.count]
    exact Finset.sum_eq_zero fun i _ => by rw [hgone i]; rfl
  have hpending : ∑ i, (ref i).pending = 0 := Finset.sum_eq_zero fun i _ => by rw [hgone i]; rfl
  have hfreed := h.freed
  rw [hpending, if_pos hcount] at hfreed
  exact hfreed

/-! ### The steps of a holder -/

variable [DecidableEq ι]

/-- Whether a step leaves the critical section as it is for the other holders. -/
theorem mutex_update {o' : Counted ι} (h : o.Valid ref) {r : Ref}
    (hi : r.inside = true ↔ o'.mutex = some i)
    (hj : ∀ j, j ≠ i → (o'.mutex = some j ↔ o.mutex = some j)) (j : ι) :
    (Function.update ref i r j).inside = true ↔ o'.mutex = some j := by
  by_cases hji : j = i
  · subst hji
    rw [Function.update_self]
    exact hi
  · rw [Function.update_of_ne hji, hj j hji]
    exact h.mutex j

omit [Fintype ι] in
theorem last_update {n : ℕ} {r : Ref} (hi : r = .unlocking false → 0 < n)
    (hj : ∀ j, j ≠ i → ref j = .unlocking false → 0 < n) (j : ι)
    (h : Function.update ref i r j = .unlocking false) : 0 < n := by
  by_cases hji : j = i
  · subst hji
    rw [Function.update_self] at h
    exact hi h
  · rw [Function.update_of_ne hji] at h
    exact hj j hji h

theorem lock (h : o.Valid ref) (hi : ref i = .held) (hm : o.mutex = none) :
    Valid { o with mutex := some i } (Function.update ref i .locked) := by
  have hcount := sum_update Ref.count ref i .locked
  have hpending := sum_update Ref.pending ref i .locked
  rw [hi] at hcount hpending
  refine ⟨h.mutex_update ⟨fun _ => rfl, fun _ => rfl⟩ fun j hj => ?_, ?_, ?_,
    last_update nofun fun j _ => h.last j⟩
  · rw [hm]
    exact ⟨fun heq => absurd (Option.some.inj heq).symm hj, nofun⟩
  · exact h.count.trans (Nat.add_right_cancel hcount).symm
  · rw [Nat.add_right_cancel hpending]
    exact h.freed

theorem decrement (h : o.Valid ref) (hi : ref i = .locked) :
    Valid { o with refCount := o.refCount - 1 }
      (Function.update ref i (.unlocking (o.refCount == 1))) := by
  have hcount := sum_update Ref.count ref i (.unlocking (o.refCount == 1))
  have hpending := sum_update Ref.pending ref i (.unlocking (o.refCount == 1))
  have hmutex : o.mutex = some i := (h.mutex i).mp (by rw [hi]; rfl)
  have hle : 1 ≤ o.refCount := by
    have hone := h.count_le i
    rw [hi] at hone
    exact hone
  rw [hi] at hcount hpending
  have hfreed := h.freed
  rw [if_neg (by omega)] at hfreed
  refine ⟨h.mutex_update ⟨fun _ => hmutex, fun _ => rfl⟩ fun _ _ => Iff.rfl, ?_, ?_,
    last_update (fun hr => ?_) fun j hj hr => ?_⟩
  · have hold : o.refCount =
        ∑ j, (Function.update ref i (.unlocking (o.refCount == 1)) j).count + 1 :=
      h.count.trans hcount.symm
    exact Nat.sub_eq_of_eq_add hold
  · show o.freed + _ = if o.refCount - 1 = 0 then 1 else 0
    by_cases hone : o.refCount = 1
    · rw [hone] at hpending ⊢
      rw [if_pos rfl]
      have hnew : ∑ j, (Function.update ref i (.unlocking true) j).pending =
          ∑ j, (ref j).pending + 1 := hpending
      show o.freed + ∑ j, (Function.update ref i (.unlocking true) j).pending = 1
      omega
    · have hlast : (o.refCount == 1) = false := beq_eq_false_iff_ne.mpr hone
      rw [hlast] at hpending ⊢
      rw [if_neg (by omega)]
      have hnew : ∑ j, (Function.update ref i (.unlocking false) j).pending =
          ∑ j, (ref j).pending := hpending
      omega
  · have hlast : (o.refCount == 1) = false := (Ref.unlocking.injEq _ _).mp hr
    have hne : o.refCount ≠ 1 := beq_eq_false_iff_ne.mp hlast
    show 0 < o.refCount - 1
    omega
  · have hout := h.outside hmutex hj
    rw [hr] at hout
    cases hout

theorem unlock (h : o.Valid ref) {callDelete : Bool} (hi : ref i = .unlocking callDelete) :
    Valid { o with mutex := none } (Function.update ref i (.deleting callDelete)) := by
  have hcount := sum_update Ref.count ref i (.deleting callDelete)
  have hpending := sum_update Ref.pending ref i (.deleting callDelete)
  have hmutex : o.mutex = some i := (h.mutex i).mp (by rw [hi]; rfl)
  have hsame : (Ref.deleting callDelete).pending = (Ref.unlocking callDelete).pending := by
    cases callDelete <;> rfl
  rw [hi] at hcount hpending
  rw [hsame] at hpending
  refine ⟨h.mutex_update ⟨nofun, nofun⟩ fun j hj => ?_, ?_, ?_, last_update nofun fun j _ => h.last j⟩
  · rw [hmutex]
    exact ⟨nofun, fun heq => absurd (Option.some.inj heq).symm hj⟩
  · exact h.count.trans (Nat.add_right_cancel hcount).symm
  · rw [Nat.add_right_cancel hpending]
    exact h.freed

theorem delete (h : o.Valid ref) {callDelete : Bool} (hi : ref i = .deleting callDelete) :
    Valid { o with freed := o.freed + if callDelete then 1 else 0 }
      (Function.update ref i .gone) := by
  have hcount := sum_update Ref.count ref i .gone
  have hpending := sum_update Ref.pending ref i .gone
  have hone : (Ref.deleting callDelete).pending = if callDelete then 1 else 0 := by
    cases callDelete <;> rfl
  have hmutex : ¬ o.mutex = some i := fun hm => by
    have hin := (h.mutex i).mpr hm
    rw [hi] at hin
    cases hin
  rw [hi] at hcount hpending
  rw [hone] at hpending
  refine ⟨h.mutex_update ⟨nofun, fun hm => absurd hm hmutex⟩ fun _ _ => Iff.rfl, ?_, ?_,
    last_update nofun fun j _ => h.last j⟩
  · exact h.count.trans (Nat.add_right_cancel hcount).symm
  · have hnew : ∑ j, (Function.update ref i .gone j).pending + (if callDelete then 1 else 0) =
        ∑ j, (ref j).pending := hpending
    rw [← h.freed, ← hnew, Nat.add_comm (∑ j, _), ← Nat.add_assoc]

/-- A reference that nobody holds is given up, without the critical section. -/
theorem forgo (h : o.Valid ref) (hi : ref i = .held) (hone : 1 < o.refCount) :
    Valid { o with refCount := o.refCount - 1 } (Function.update ref i .gone) := by
  have hcount := sum_update Ref.count ref i .gone
  have hpending := sum_update Ref.pending ref i .gone
  have hmutex : ¬ o.mutex = some i := fun hm => by
    have hin := (h.mutex i).mpr hm
    rw [hi] at hin
    cases hin
  rw [hi] at hcount hpending
  refine ⟨h.mutex_update ⟨nofun, fun hm => absurd hm hmutex⟩ fun _ _ => Iff.rfl, ?_, ?_,
    last_update nofun fun j _ _ => Nat.sub_pos_of_lt hone⟩
  · show o.refCount - 1 = _
    rw [h.count]
    exact Nat.sub_eq_of_eq_add hcount.symm
  · have hfreed := h.freed
    rw [if_neg (by omega)] at hfreed
    rw [Nat.add_right_cancel hpending, hfreed]
    exact (if_neg (Nat.sub_ne_zero_of_lt hone)).symm

end Valid

end Counted

end GpsHal
