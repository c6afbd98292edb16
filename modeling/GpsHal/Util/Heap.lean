import GpsHal.Transition.Basic
import Mathlib.Data.Multiset.AddSub
import Mathlib.Algebra.Order.Group.Multiset

/-!
# `LocHeap` : a priority bag in a size-balanced tree

The heap of `utils/LocHeap.cpp` keeps its elements in a binary tree whose nodes know the size of
their subtree.  Operations never relink nodes: they swap the payloads along a path and add or
drop a leaf.  The elements are objects told apart by their address (`DecidableEq`) and compared by
a virtual method `ranks`; one object outranks another when `ranks` is positive.

## Main definitions

* `HeapNode.push`, `HeapNode.popAt`, `HeapNode.remove`, `HeapNode.checkNodes` : the node methods.
* `LocHeap.push`, `LocHeap.pop`, `LocHeap.remove` : the public operations, with their answers.
* `Ranking` : a ranking that is a total preorder.
* `bag` : the abstract priority bag, a multiset with the documented operations.

## Main results

* `HeapNode.checkNodes_iff` : the source's own consistency check accepts exactly the valid trees.
* `heap_refines_bag` : every sequence of operations keeps the tree valid and answers like the bag.
-/

namespace GpsHal

/-- A node of the heap with its subtrees; `nil` is the null pointer. -/
inductive HeapNode (α : Type*) where
  | nil
  | node (mSize : ℤ) (mLeft mRight : HeapNode α) (mData : α)
  deriving DecidableEq, Repr

/-- `a` outranks `b`. -/
abbrev OutRanks {α : Type*} (ranks : α → α → ℤ) (a b : α) : Prop := 0 < ranks a b

/-- A ranking that is a total preorder: of two elements one does not outrank the other, and not
outranking is transitive.  Ties are allowed. -/
structure Ranking (α : Type*) where
  ranks : α → α → ℤ
  total : ∀ a b, ¬ OutRanks ranks a b ∨ ¬ OutRanks ranks b a
  trans : ∀ {a b c}, ¬ OutRanks ranks a b → ¬ OutRanks ranks b c → ¬ OutRanks ranks a c

theorem Ranking.asymm {α : Type*} (R : Ranking α) {a b : α} (h : OutRanks R.ranks a b) :
    ¬ OutRanks R.ranks b a :=
  (R.total a b).resolve_left (not_not_intro h)

namespace HeapNode

variable {α : Type*} (ranks : α → α → ℤ)

/-- `new LocHeapNode(data)`. -/
def leaf (data : α) : HeapNode α := node 1 nil nil data

def getSize : HeapNode α → ℤ
  | nil => 0
  | node mSize _ _ _ => mSize

/-- The payload of the top node. -/
def data? : HeapNode α → Option α
  | nil => none
  | node _ _ _ mData => some mData

/-- `LocHeapNode::push` : the payload that ranks lower goes down into the smaller subtree. -/
def push : HeapNode α → α → HeapNode α
  | nil, data => leaf data
  | node mSize mLeft mRight mData, data =>
    -- ensure the current node ranks higher than the incoming one
    let top := if OutRanks ranks data mData then data else mData
    let low := if OutRanks ranks data mData then mData else data
    match mLeft, mRight with
    | nil, mRight => node (mSize + 1) (leaf low) mRight top
    | mLeft, nil => node (mSize + 1) mLeft (leaf low) top
    | mLeft, mRight =>
      if mLeft.getSize ≤ mRight.getSize then node (mSize + 1) (push mLeft low) mRight top
      else node (mSize + 1) mLeft (push mRight low) top

/-- `LocHeapNode::pop` on a tree whose top holds `x` in place of its own payload, as it does after
the swap with the node above: `x` is swapped down to a leaf, which is taken off the tree.  The
second component is the payload of that leaf. -/
def popAt : HeapNode α → α → HeapNode α × α
  | nil, x => (nil, x)
  | node _ nil nil _, x => (nil, x)
  | node mSize nil (node s l r d) _, x =>
    let p := popAt (node s l r d) x
    (node (mSize - 1) nil p.1 d, p.2)
  | node mSize (node s l r d) nil _, x =>
    let p := popAt (node s l r d) x
    (node (mSize - 1) p.1 nil d, p.2)
  | node mSize (node s l r d) (node s' l' r' d') _, x =>
    if OutRanks ranks d d' then
      let p := popAt (node s l r d) x
      (node (mSize - 1) p.1 (node s' l' r' d') d, p.2)
    else
      let p := popAt (node s' l' r' d') x
      (node (mSize - 1) (node s l r d) p.1 d', p.2)

/-- `LocHeapNode::remove` : the payload removed, if it was found. -/
def remove [DecidableEq α] : HeapNode α → α → HeapNode α × Option α
  | nil, _ => (nil, none)
  | node mSize mLeft mRight mData, data =>
    if data = mData then
      -- this is the node, by address
      let p := popAt ranks (node mSize mLeft mRight mData) mData
      (p.1, some p.2)
    else if ¬ OutRanks ranks data mData then
      -- subtrees might have this node
      let left := remove mLeft data
      match left.2 with
      | some removed => (node (mSize - 1) left.1 mRight mData, some removed)
      | none =>
        let right := remove mRight data
        match right.2 with
        | some removed => (node (mSize - 1) left.1 right.1 mData, some removed)
        | none => (node mSize left.1 right.1 mData, none)
    else (node mSize mLeft mRight mData, none)

/-- `mLeft->outRanks(*this) || !mLeft->checkNodes()` does not hold of a subtree, given the result
of its own check. -/
def checkBelow (mData : α) (sub : HeapNode α) (checked : Bool) : Bool :=
  match sub.data? with
  | none => true
  | some d => !decide (OutRanks ranks d mData) && checked

/-- `LocHeapNode::checkNodes` : the sizes are right and no node is outranked by a child. -/
def checkNodes : HeapNode α → Bool
  | nil => true
  | node mSize mLeft mRight mData =>
    checkBelow ranks mData mLeft (checkNodes mLeft) &&
      checkBelow ranks mData mRight (checkNodes mRight) &&
        decide (mSize - mLeft.getSize - mRight.getSize = 1)

/-- The stored elements. -/
def elems : HeapNode α → Multiset α
  | nil => 0
  | node _ mLeft mRight mData => mData ::ₘ (mLeft.elems + mRight.elems)

/-- Every node outranks or ties everything below it, and its size is that of its subtree. -/
def Valid : HeapNode α → Prop
  | nil => True
  | node mSize mLeft mRight mData =>
    mLeft.Valid ∧ mRight.Valid ∧ (∀ d ∈ mLeft.elems + mRight.elems, ¬ OutRanks ranks d mData) ∧
      mSize = (mLeft.elems + mRight.elems).card + 1

@[simp] theorem elems_leaf (d : α) : (leaf d).elems = {d} := rfl

theorem valid_leaf (d : α) : (leaf d).Valid ranks :=
  ⟨trivial, trivial, by simp [elems], by simp [elems]⟩

variable {ranks}

theorem Valid.getSize {t : HeapNode α} (h : t.Valid ranks) : t.getSize = t.elems.card := by
  cases t with
  | nil => rfl
  | node s l r d => simpa [HeapNode.getSize, elems] using h.2.2.2

/-! ### `push` -/

/-- The payload that stays at the top of a push. -/
abbrev higher (ranks : α → α → ℤ) (d x : α) : α := if OutRanks ranks d x then d else x

/-- The payload that a push sends down. -/
abbrev lower (ranks : α → α → ℤ) (d x : α) : α := if OutRanks ranks d x then x else d

variable (ranks) in
/-- A push goes into one of the two subtrees. -/
theorem push_node (s : ℤ) (l r : HeapNode α) (x d : α) :
    push ranks (node s l r x) d = node (s + 1) (push ranks l (lower ranks d x)) r (higher ranks d x) ∨
      push ranks (node s l r x) d =
        node (s + 1) l (push ranks r (lower ranks d x)) (higher ranks d x) := by
  cases l with
  | nil => exact .inl (by simp [push])
  | node sl ll lr dl =>
    cases r with
    | nil => exact .inr (by simp [push])
    | node sr rl rr dr =>
      by_cases h : (node sl ll lr dl).getSize ≤ (node sr rl rr dr).getSize
      · exact .inl (by simp only [push]; rw [if_pos h])
      · exact .inr (by simp only [push]; rw [if_neg h])

theorem higher_cons_lower (d x : α) (m : Multiset α) :
    higher ranks d x ::ₘ lower ranks d x ::ₘ m = d ::ₘ x ::ₘ m := by
  unfold higher lower
  split
  · rfl
  · exact Multiset.cons_swap x d m

theorem elems_push (t : HeapNode α) (d : α) : (t.push ranks d).elems = d ::ₘ t.elems := by
  induction t generalizing d with
  | nil => rfl
  | node s l r x ihl ihr =>
    rw [elems, ← higher_cons_lower]
    rcases push_node ranks s l r x d with h | h
    · rw [h, elems, ihl, Multiset.cons_add]
    · rw [h, elems, ihr, Multiset.add_cons]

section Order

variable {R : Ranking α}

/-- Nothing that ranks below the old top ranks above the new one. -/
theorem not_outRanks_higher {d x e : α} (h : ¬ OutRanks R.ranks e x) :
    ¬ OutRanks R.ranks e (higher R.ranks d x) := by
  unfold higher
  split
  · rename_i hd
    exact R.trans h (R.asymm hd)
  · exact h

theorem lower_not_outRanks_higher (d x : α) :
    ¬ OutRanks R.ranks (lower R.ranks d x) (higher R.ranks d x) := by
  unfold higher lower
  split
  · rename_i hd
    exact R.asymm hd
  · assumption

theorem Valid.push {t : HeapNode α} (h : t.Valid R.ranks) (d : α) :
    (t.push R.ranks d).Valid R.ranks := by
  induction t generalizing d with
  | nil => exact valid_leaf _ d
  | node s l r x ihl ihr =>
    obtain ⟨hl, hr, ho, hs⟩ := h
    have hbelow : ∀ e ∈ lower R.ranks d x ::ₘ (l.elems + r.elems),
        ¬ OutRanks R.ranks e (higher R.ranks d x) := by
      intro e he
      rcases Multiset.mem_cons.1 he with rfl | he
      · exact lower_not_outRanks_higher d x
      · exact not_outRanks_higher (ho e he)
    rcases push_node R.ranks s l r x d with h | h
    · rw [h]
      refine ⟨ihl hl _, hr, ?_, ?_⟩
      · rwa [elems_push, Multiset.cons_add]
      · rw [elems_push, Multiset.cons_add, Multiset.card_cons, hs]; push_cast; rfl
    · rw [h]
      refine ⟨hl, ihr hr _, ?_, ?_⟩
      · rwa [elems_push, Multiset.add_cons]
      · rw [elems_push, Multiset.add_cons, Multiset.card_cons, hs]; push_cast; rfl

end Order

/-! ### `pop` -/

variable (ranks) in
/-- Popping at a node either drops it, when it is a leaf, or goes on in the subtree whose top is
not outranked by the top of the other one. -/
theorem popAt_node (s : ℤ) (l r : HeapNode α) (y x : α) :
    (l = nil ∧ r = nil ∧ popAt ranks (node s l r y) x = (nil, x)) ∨
      (∃ d, l.data? = some d ∧ (∀ d', r.data? = some d' → OutRanks ranks d d') ∧
        popAt ranks (node s l r y) x =
          (node (s - 1) (popAt ranks l x).1 r d, (popAt ranks l x).2)) ∨
      ∃ d, r.data? = some d ∧ (∀ d', l.data? = some d' → ¬ OutRanks ranks d' d) ∧
        popAt ranks (node s l r y) x =
          (node (s - 1) l (popAt ranks r x).1 d, (popAt ranks r x).2) := by
  cases l with
  | nil =>
    cases r with
    | nil => exact .inl ⟨rfl, rfl, rfl⟩
    | node sr rl rr dr => exact .inr (.inr ⟨dr, rfl, by simp [data?], rfl⟩)
  | node sl ll lr dl =>
    cases r with
    | nil => exact .inr (.inl ⟨dl, rfl, by simp [data?], rfl⟩)
    | node sr rl rr dr =>
      by_cases h : OutRanks ranks dl dr
      · exact .inr (.inl ⟨dl, rfl, by simpa [data?] using h, by simp [popAt, h]⟩)
      · exact .inr (.inr ⟨dr, rfl, by simpa [data?] using h, by simp [popAt, h]⟩)

theorem popAt_snd (t : HeapNode α) (x : α) : (popAt ranks t x).2 = x := by
  induction t with
  | nil => rfl
  | node s l r y ihl ihr =>
    rcases popAt_node ranks s l r y x with ⟨-, -, h⟩ | ⟨d, -, -, h⟩ | ⟨d, -, -, h⟩
    · rw [h]
    · rw [h]; exact ihl
    · rw [h]; exact ihr

variable (ranks) in
/-- Popping at a tree takes its top payload out of its elements. -/
theorem elems_popAt (t : HeapNode α) (x d : α) (hd : t.data? = some d) :
    d ::ₘ (popAt ranks t x).1.elems = t.elems := by
  induction t generalizing d with
  | nil => cases hd
  | node s l r y ihl ihr =>
    obtain rfl : y = d := Option.some.inj hd
    rcases popAt_node ranks s l r y x with ⟨rfl, rfl, h⟩ | ⟨d, hl, -, h⟩ | ⟨d, hr, -, h⟩
    · rw [h]; simp [elems]
    · rw [h, elems, elems, ← ihl d hl, Multiset.cons_add]
    · rw [h, elems, elems, ← ihr d hr, Multiset.add_cons]

section Order

variable {R : Ranking α}

/-- Nothing in a valid tree outranks its top. -/
theorem Valid.top {t : HeapNode α} (h : t.Valid R.ranks) {d : α} (hd : t.data? = some d) :
    ∀ e ∈ t.elems, ¬ OutRanks R.ranks e d := by
  cases t with
  | nil => cases hd
  | node s l r y =>
    obtain rfl : y = d := Option.some.inj hd
    intro e he
    rcases Multiset.mem_cons.1 he with rfl | he
    · exact (R.total e e).elim id id
    · exact h.2.2.1 e he

/-- The top of one subtree, not outranked by the top of the other, is not outranked by anything
in the other. -/
theorem Valid.sibling {t : HeapNode α} (h : t.Valid R.ranks) {d : α}
    (hd : ∀ d', t.data? = some d' → ¬ OutRanks R.ranks d' d) :
    ∀ e ∈ t.elems, ¬ OutRanks R.ranks e d := by
  cases ht : t.data? with
  | none =>
    cases t with
    | nil => simp [elems]
    | node => cases ht
  | some d' => exact fun e he => R.trans (h.top ht e he) (hd d' ht)

theorem Valid.popAt {t : HeapNode α} (h : t.Valid R.ranks) (x : α) :
    (popAt R.ranks t x).1.Valid R.ranks := by
  induction t with
  | nil => trivial
  | node s l r y ihl ihr =>
    obtain ⟨hl, hr, -, hs⟩ := h
    rcases popAt_node R.ranks s l r y x with
      ⟨-, -, h⟩ | ⟨d, hd, hother, h⟩ | ⟨d, hd, hother, h⟩
    · rw [h]; trivial
    · have hel := elems_popAt R.ranks l x d hd
      have hlow : ∀ e ∈ (HeapNode.popAt R.ranks l x).1.elems, ¬ OutRanks R.ranks e d :=
        fun e he => hl.top hd e (hel ▸ Multiset.mem_cons_of_mem he)
      rw [h]
      refine ⟨ihl hl, hr, fun e he => ?_, ?_⟩
      · rcases Multiset.mem_add.1 he with he | he
        · exact hlow e he
        · exact hr.sibling (fun d' hd' => R.asymm (hother d' hd')) e he
      · rw [hs, ← hel]; simp
    · have hel := elems_popAt R.ranks r x d hd
      have hlow : ∀ e ∈ (HeapNode.popAt R.ranks r x).1.elems, ¬ OutRanks R.ranks e d :=
        fun e he => hr.top hd e (hel ▸ Multiset.mem_cons_of_mem he)
      rw [h]
      refine ⟨hl, ihr hr, fun e he => ?_, ?_⟩
      · rcases Multiset.mem_add.1 he with he | he
        · exact hl.sibling hother e he
        · exact hlow e he
      · rw [hs, ← hel]; simp

end Order

/-! ### `remove` -/

section Remove

variable [DecidableEq α] {R : Ranking α}

variable (ranks) in
/-- What a removal does at a node: the payload is there, or it is found in one of the subtrees,
or it is in neither, or it outranks the node and the subtrees are not searched. -/
theorem remove_node (s : ℤ) (l r : HeapNode α) (y x : α) :
    (x = y ∧ remove ranks (node s l r y) x = ((popAt ranks (node s l r y) y).1, some x)) ∨
      (∃ d, (l.remove ranks x).2 = some d ∧
        remove ranks (node s l r y) x = (node (s - 1) (l.remove ranks x).1 r y, some d)) ∨
      (∃ d, (l.remove ranks x).2 = none ∧ (r.remove ranks x).2 = some d ∧
        remove ranks (node s l r y) x =
          (node (s - 1) (l.remove ranks x).1 (r.remove ranks x).1 y, some d)) ∨
      (x ≠ y ∧ (l.remove ranks x).2 = none ∧ (r.remove ranks x).2 = none ∧
        remove ranks (node s l r y) x =
          (node s (l.remove ranks x).1 (r.remove ranks x).1 y, none)) ∨
      (x ≠ y ∧ OutRanks ranks x y ∧ remove ranks (node s l r y) x = (node s l r y, none)) := by
  by_cases hxy : x = y
  · exact .inl ⟨hxy, by simp [remove, hxy, popAt_snd]⟩
  · by_cases hout : OutRanks ranks x y
    · exact .inr (.inr (.inr (.inr ⟨hxy, hout, by simp [remove, hxy, hout]⟩)))
    · cases hl : (l.remove ranks x).2 with
      | some d => exact .inr (.inl ⟨d, rfl, by simp [remove, hxy, hout, hl]⟩)
      | none =>
        cases hr : (r.remove ranks x).2 with
        | some d => exact .inr (.inr (.inl ⟨d, rfl, rfl, by simp [remove, hxy, hout, hl, hr]⟩))
        | none =>
          exact .inr (.inr (.inr (.inl ⟨hxy, rfl, rfl, by simp [remove, hxy, hout, hl, hr]⟩)))

/-- A removal that finds nothing leaves the tree as it was. -/
theorem remove_none {t : HeapNode α} {x : α} (h : (t.remove ranks x).2 = none) :
    (t.remove ranks x).1 = t := by
  induction t with
  | nil => rfl
  | node s l r y ihl ihr =>
    rcases remove_node ranks s l r y x with
      ⟨-, he⟩ | ⟨d, -, he⟩ | ⟨d, -, -, he⟩ | ⟨-, hl, hr, he⟩ | ⟨-, -, he⟩
    · rw [he] at h; cases h
    · rw [he] at h; cases h
    · rw [he] at h; cases h
    · rw [he, ihl hl, ihr hr]
    · rw [he]

/-- A removal that finds something took exactly the element looked for. -/
theorem remove_some {t : HeapNode α} {x d : α} (h : (t.remove ranks x).2 = some d) :
    d = x ∧ x ::ₘ (t.remove ranks x).1.elems = t.elems := by
  induction t generalizing d with
  | nil => cases h
  | node s l r y ihl ihr =>
    rcases remove_node ranks s l r y x with
      ⟨rfl, he⟩ | ⟨d', hl, he⟩ | ⟨d', hl, hr, he⟩ | ⟨-, -, -, he⟩ | ⟨-, -, he⟩
    · rw [he] at h ⊢
      exact ⟨(Option.some.inj h).symm, elems_popAt _ _ _ _ rfl⟩
    · obtain ⟨rfl, hel⟩ := ihl hl
      rw [he] at h ⊢
      exact ⟨(Option.some.inj h).symm, by rw [elems, elems, ← hel, Multiset.cons_swap, Multiset.cons_add]⟩
    · obtain ⟨rfl, hel⟩ := ihr hr
      rw [he] at h ⊢
      refine ⟨(Option.some.inj h).symm, ?_⟩
      rw [remove_none hl, elems, elems, ← hel, Multiset.cons_swap, Multiset.add_cons]
    · rw [he] at h; cases h
    · rw [he] at h; cases h

/-- The pruning by rank hides no stored element. -/
theorem Valid.remove_mem {t : HeapNode α} (h : t.Valid R.ranks) {x : α} (hx : x ∈ t.elems) :
    (t.remove R.ranks x).2 = some x := by
  induction t with
  | nil => cases hx
  | node s l r y ihl ihr =>
    obtain ⟨hl, hr, ho, -⟩ := h
    rcases remove_node R.ranks s l r y x with
      ⟨-, he⟩ | ⟨d, hls, he⟩ | ⟨d, -, hrs, he⟩ | ⟨hne, hls, hrs, -⟩ | ⟨hne, hout, -⟩
    · rw [he]
    · rw [he, (remove_some hls).1]
    · rw [he, (remove_some hrs).1]
    · rcases Multiset.mem_add.1 ((Multiset.mem_cons.1 hx).resolve_left hne) with hm | hm
      · rw [ihl hl hm] at hls; cases hls
      · rw [ihr hr hm] at hrs; cases hrs
    · exact absurd hout (ho x ((Multiset.mem_cons.1 hx).resolve_left hne))

theorem Valid.remove {t : HeapNode α} (h : t.Valid R.ranks) (x : α) :
    (t.remove R.ranks x).1.Valid R.ranks := by
  induction t with
  | nil => trivial
  | node s l r y ihl ihr =>
    obtain ⟨hl, hr, ho, hs⟩ := h
    rcases remove_node R.ranks s l r y x with
      ⟨-, he⟩ | ⟨d, hls, he⟩ | ⟨d, hls, hrs, he⟩ | ⟨-, hls, hrs, he⟩ | ⟨-, -, he⟩
    · rw [he]
      exact Valid.popAt (t := node s l r y) ⟨hl, hr, ho, hs⟩ y
    · obtain ⟨rfl, hel⟩ := remove_some hls
      rw [he]
      refine ⟨ihl hl, hr, fun e hm => ho e ?_, ?_⟩
      · rw [← hel, Multiset.cons_add]; exact Multiset.mem_cons_of_mem hm
      · rw [hs, ← hel]; simp
    · obtain ⟨rfl, hel⟩ := remove_some hrs
      rw [he, remove_none hls]
      refine ⟨hl, ihr hr, fun e hm => ho e ?_, ?_⟩
      · rw [← hel, Multiset.add_cons]; exact Multiset.mem_cons_of_mem hm
      · rw [hs, ← hel]; simp
    · rw [he, remove_none hls, remove_none hrs]
      exact ⟨hl, hr, ho, hs⟩
    · rw [he]
      exact ⟨hl, hr, ho, hs⟩

end Remove

/-! ### `checkNodes` -/

theorem checkBelow_iff {R : Ranking α} {t : HeapNode α} (d : α)
    (h : t.checkNodes R.ranks = true ↔ t.Valid R.ranks) :
    checkBelow R.ranks d t (t.checkNodes R.ranks) = true ↔
      t.Valid R.ranks ∧ ∀ e ∈ t.elems, ¬ OutRanks R.ranks e d := by
  cases t with
  | nil => simp [checkBelow, data?, elems, Valid]
  | node s l r y =>
    simp only [checkBelow, data?, Bool.and_eq_true, Bool.not_eq_true', decide_eq_false_iff_not, h]
    constructor
    · rintro ⟨hy, hv⟩
      exact ⟨hv, hv.sibling fun d' hd' => Option.some.inj hd' ▸ hy⟩
    · rintro ⟨hv, ho⟩
      exact ⟨ho y (Multiset.mem_cons_self _ _), hv⟩

/-- The source's own check accepts exactly the valid trees. -/
theorem checkNodes_iff {R : Ranking α} {t : HeapNode α} :
    t.checkNodes R.ranks = true ↔ t.Valid R.ranks := by
  induction t with
  | nil => simp [checkNodes, Valid]
  | node s l r y ihl ihr =>
    simp only [checkNodes, Bool.and_eq_true, decide_eq_true_eq, checkBelow_iff y ihl,
      checkBelow_iff y ihr]
    constructor
    · rintro ⟨⟨⟨hl, hol⟩, hr, hor⟩, hs⟩
      refine ⟨hl, hr, fun e he => (Multiset.mem_add.1 he).elim (hol e) (hor e), ?_⟩
      rw [hl.getSize, hr.getSize] at hs
      rw [Multiset.card_add]; push_cast; omega
    · rintro ⟨hl, hr, ho, hs⟩
      refine ⟨⟨⟨hl, fun e he => ho e (Multiset.mem_add.2 (.inl he))⟩, hr,
        fun e he => ho e (Multiset.mem_add.2 (.inr he))⟩, ?_⟩
      rw [hl.getSize, hr.getSize, hs, Multiset.card_add]; push_cast; omega

end HeapNode

/-! ### The public operations -/

/-- The heap: a pointer to the top node. -/
abbrev LocHeap (α : Type*) := HeapNode α

/-- An operation on the heap. -/
inductive HeapOp (α : Type*) where
  | push (rankable : α)
  | pop
  | remove (rankable : α)

namespace LocHeap

variable {α : Type*} (ranks : α → α → ℤ)

def push (mTree : LocHeap α) (rankable : α) : LocHeap α := HeapNode.push ranks mTree rankable

def peek (mTree : LocHeap α) : Option α := mTree.data?

def pop : LocHeap α → LocHeap α × Option α
  | .nil => (.nil, none)
  | .node mSize mLeft mRight mData =>
    let p := HeapNode.popAt ranks (.node mSize mLeft mRight mData) mData
    (p.1, some p.2)

def remove [DecidableEq α] (mTree : LocHeap α) (rankable : α) : LocHeap α × Option α :=
  HeapNode.remove ranks mTree rankable

/-- Run one operation; the second component is the pointer it returns. -/
def exec [DecidableEq α] (mTree : LocHeap α) : HeapOp α → LocHeap α × Option α
  | .push x => (push ranks mTree x, none)
  | .pop => pop ranks mTree
  | .remove x => remove ranks mTree x

/-- The heap as a transition system, labelled by the operations and what they return. -/
def system [DecidableEq α] : System (LocHeap α) (HeapOp α × Option α) where
  init := .nil
  step t e t' := exec ranks t e.1 = (t', e.2)

variable {ranks}

theorem pop_none {t : LocHeap α} (h : (pop ranks t).2 = none) : t = .nil := by
  cases t with
  | nil => rfl
  | node => cases h

/-- A pop takes the payload of the top. -/
theorem pop_some {t : LocHeap α} {x : α} (h : (pop ranks t).2 = some x) :
    peek t = some x ∧ x ::ₘ (pop ranks t).1.elems = t.elems := by
  cases t with
  | nil => cases h
  | node s l r d =>
    simp only [pop, HeapNode.popAt_snd, Option.some.injEq] at h
    subst h
    exact ⟨rfl, HeapNode.elems_popAt _ _ _ _ rfl⟩

variable (ranks) in
theorem pop_snd (t : LocHeap α) : (pop ranks t).2 = peek t := by
  cases t with
  | nil => rfl
  | node s l r d => simp [pop, peek, HeapNode.data?, HeapNode.popAt_snd]

theorem mem_of_mem_pop {t : LocHeap α} {x : α} (h : x ∈ (pop ranks t).1.elems) : x ∈ t.elems := by
  cases hres : (pop ranks t).2 with
  | none =>
    obtain rfl := pop_none hres
    exact h
  | some y => exact (pop_some hres).2 ▸ Multiset.mem_cons_of_mem h

theorem valid_pop {R : Ranking α} {t : LocHeap α} (h : t.Valid R.ranks) :
    (pop R.ranks t).1.Valid R.ranks := by
  cases t with
  | nil => trivial
  | node s l r d => exact h.popAt d

variable (ranks) in
/-- A push changes the top only to an element that outranks it. -/
theorem peek_push (t : LocHeap α) (x : α) :
    peek (push ranks t x) =
      some ((peek t).elim x fun y => if OutRanks ranks x y then x else y) := by
  cases t with
  | nil => rfl
  | node s l r y =>
    rcases HeapNode.push_node ranks s l r y x with h | h
    · exact congrArg HeapNode.data? h
    · exact congrArg HeapNode.data? h

section Remove

variable [DecidableEq α]

/-- A removal of another element leaves the top. -/
theorem peek_remove {t : LocHeap α} {x : α} (h : peek t ≠ some x) :
    peek (remove ranks t x).1 = peek t := by
  cases t with
  | nil => rfl
  | node s l r y =>
    have hne : x ≠ y := fun hxy => h (congrArg some hxy.symm)
    rcases HeapNode.remove_node ranks s l r y x with
      ⟨hxy, -⟩ | ⟨d, -, he⟩ | ⟨d, -, -, he⟩ | ⟨-, -, -, he⟩ | ⟨-, -, he⟩
    · exact absurd hxy hne
    all_goals exact congrArg (fun p => HeapNode.data? p.1) he

/-- The top is always found. -/
theorem remove_peek {t : LocHeap α} {x : α} (h : peek t = some x) :
    (remove ranks t x).2 = some x := by
  cases t with
  | nil => cases h
  | node s l r y =>
    obtain rfl : y = x := Option.some.inj h
    simp [remove, HeapNode.remove, HeapNode.popAt_snd]

theorem mem_of_mem_remove {t : LocHeap α} {x y : α} (h : y ∈ (remove ranks t x).1.elems) :
    y ∈ t.elems := by
  cases hres : (remove ranks t x).2 with
  | none => rwa [remove, HeapNode.remove_none hres] at h
  | some d => exact (HeapNode.remove_some hres).2 ▸ Multiset.mem_cons_of_mem h

/-- A removal that leaves nothing took the only element. -/
theorem remove_eq_nil {t : LocHeap α} {x : α} (h : (remove ranks t x).1 = .nil) :
    t = .nil ∨ t.elems = {x} := by
  cases hres : (remove ranks t x).2 with
  | none => exact .inl ((HeapNode.remove_none hres).symm.trans h)
  | some d =>
    have hel := (HeapNode.remove_some hres).2
    rw [show HeapNode.remove ranks t x = remove ranks t x from rfl, h] at hel
    exact .inr hel.symm

end Remove

theorem peek_eq_none {t : LocHeap α} : peek t = none ↔ t = .nil := by
  cases t <;> simp [peek, HeapNode.data?]

theorem mem_of_peek {t : LocHeap α} {x : α} (h : peek t = some x) : x ∈ t.elems := by
  cases t with
  | nil => cases h
  | node s l r y =>
    obtain rfl : y = x := Option.some.inj h
    exact Multiset.mem_cons_self y _

end LocHeap

/-! ### The abstract priority bag -/

/-- A step of the priority bag: `pop` answers an element that nothing in the bag outranks, and
answers nothing exactly when the bag is empty; `remove` takes out the element named, if it is
there. -/
inductive BagStep {α : Type*} [DecidableEq α] (R : Ranking α) :
    Multiset α → HeapOp α × Option α → Multiset α → Prop
  | push (B : Multiset α) (x : α) : BagStep R B (.push x, none) (x ::ₘ B)
  | popEmpty : BagStep R 0 (.pop, none) 0
  | pop {B : Multiset α} {x : α} : x ∈ B → (∀ y ∈ B, ¬ OutRanks R.ranks y x) →
      BagStep R B (.pop, some x) (B.erase x)
  | remove {B : Multiset α} {x : α} : x ∈ B → BagStep R B (.remove x, some x) (B.erase x)
  | removeAbsent {B : Multiset α} {x : α} : x ∉ B → BagStep R B (.remove x, none) B

/-- The abstract priority bag. -/
def bag {α : Type*} [DecidableEq α] (R : Ranking α) :
    System (Multiset α) (HeapOp α × Option α) := ⟨0, BagStep R⟩

section Refinement

variable {α : Type*} [DecidableEq α] {R : Ranking α}

/-- One operation on a valid heap is a step of the bag and leaves a valid heap. -/
theorem LocHeap.step_bag {t t' : LocHeap α} {op : HeapOp α} {res : Option α}
    (h : t.Valid R.ranks) (hst : exec R.ranks t op = (t', res)) :
    t'.Valid R.ranks ∧ BagStep R t.elems (op, res) t'.elems := by
  obtain ⟨rfl, rfl⟩ := Prod.mk.inj hst
  cases op with
  | push x =>
    refine ⟨h.push x, ?_⟩
    simp only [LocHeap.push, HeapNode.elems_push]
    exact .push _ x
  | pop =>
    refine ⟨valid_pop h, ?_⟩
    cases hres : (pop R.ranks t).2 with
    | none =>
      obtain rfl := pop_none hres
      exact .popEmpty
    | some x =>
      obtain ⟨htop, hel⟩ := pop_some hres
      have hx : x ∈ t.elems := hel ▸ Multiset.mem_cons_self x _
      have herase : (pop R.ranks t).1.elems = t.elems.erase x := by
        rw [← hel, Multiset.erase_cons_head]
      change BagStep R t.elems (.pop, some x) (pop R.ranks t).1.elems
      rw [herase]
      exact .pop hx (h.top htop)
  | remove x =>
    refine ⟨h.remove x, ?_⟩
    cases hres : (remove R.ranks t x).2 with
    | none =>
      have hx : x ∉ t.elems := fun hx => by
        rw [LocHeap.remove, h.remove_mem hx] at hres; cases hres
      change BagStep R t.elems (.remove x, none) (remove R.ranks t x).1.elems
      rw [LocHeap.remove, HeapNode.remove_none hres]
      exact .removeAbsent hx
    | some d =>
      obtain ⟨rfl, hel⟩ := HeapNode.remove_some hres
      have hx : d ∈ t.elems := hel ▸ Multiset.mem_cons_self d _
      have herase : (remove R.ranks t d).1.elems = t.elems.erase d := by
        rw [LocHeap.remove, ← hel, Multiset.erase_cons_head]
      change BagStep R t.elems (.remove d, some d) (remove R.ranks t d).1.elems
      rw [herase]
      exact .remove hx

/-- **`LocHeap` is a priority bag.**  After every sequence of operations every node outranks or
ties all nodes below it and knows the size of its subtree, the operations have answered like those
of the abstract bag, the stored elements are the bag's, and removing an element that is not
stored changes nothing. -/
theorem heap_refines_bag {es : List (HeapOp α × Option α)} {t : LocHeap α}
    (h : (LocHeap.system R.ranks).Run System.Free es t) :
    t.Valid R.ranks ∧ (bag R).Run System.Free es t.elems ∧
      ∀ x ∉ t.elems, LocHeap.remove R.ranks t x = (t, none) := by
  obtain ⟨B, ⟨hv, rfl⟩, hrun⟩ := h.refine (B := bag R) (K := System.Free)
    (R := fun t B => t.Valid R.ranks ∧ t.elems = B) ⟨trivial, rfl⟩ (by
      rintro t ⟨op, res⟩ t' _ ⟨hv, rfl⟩ - hst
      obtain ⟨hv', hbag⟩ := LocHeap.step_bag hv hst
      exact ⟨_, ⟨hv', rfl⟩, trivial, hbag⟩)
  refine ⟨hv, hrun, fun x hx => ?_⟩
  cases hres : (LocHeap.remove R.ranks t x).2 with
  | none => exact Prod.ext (HeapNode.remove_none hres) hres
  | some d =>
    obtain ⟨rfl, hel⟩ := HeapNode.remove_some hres
    exact absurd (hel ▸ Multiset.mem_cons_self d _) hx

/-- Three elements, two of them tied, ranked by the first number: the third operation pops the
higher one and the fourth removes an element that has already gone. -/
def tiedRanking : Ranking (ℤ × ℤ) where
  ranks a b := b.1 - a.1
  total a b := by simp only [OutRanks]; omega
  trans h h' := by simp only [OutRanks] at *; omega

theorem heap_refines_bag_ties :
    let t : LocHeap (ℤ × ℤ) := .node 2 (.leaf (3, 0)) .nil (3, 1)
    t.Valid tiedRanking.ranks ∧
      (bag tiedRanking).Run System.Free
        [(.push (3, 0), none), (.push (1, 0), none), (.push (3, 1), none), (.pop, some (1, 0)),
          (.remove (1, 0), none)] t.elems ∧
      ∀ x ∉ t.elems, LocHeap.remove tiedRanking.ranks t x = (t, none) :=
  heap_refines_bag <| by
    have hstep {es t t' o res} (h : (LocHeap.system tiedRanking.ranks).Run System.Free es t)
        (hst : LocHeap.exec tiedRanking.ranks t o = (t', res)) :
        (LocHeap.system tiedRanking.ranks).Run System.Free (es ++ [(o, res)]) t' :=
      h.snoc trivial hst
    have h₂ := hstep (o := .push (1, 0)) (hstep (o := .push (3, 0)) .nil rfl) rfl
    have h₄ := hstep (o := .pop) (hstep (o := .push (3, 1)) h₂ rfl) rfl
    exact hstep h₄ (by decide)

end Refinement

end GpsHal
