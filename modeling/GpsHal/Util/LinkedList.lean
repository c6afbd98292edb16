import GpsHal.Util.OrdMap
import Mathlib.Data.List.Nodup

/-!
# Doubly linked lists

The list of `utils/linked_list.c`, in a heap of allocated elements.  An access to an element that is
not allocated has no result.  Data is added at the head and removed at the tail; a search can remove
an element anywhere.  The handle of a list is never `NULL` here.

Loops follow the pointers.  They have as much fuel as there are allocated elements, and no result if
that is not enough.

## Main definitions

* `LinkedList` : the heap and the ends of a list.
* `linked_list_add`, `linked_list_remove`, `linked_list_flush`, `linked_list_search`.
* `LinkedList.Represents` : the pointers describe a list of cells, in both directions.

## Main results

* `represents_add`, `represents_remove`, `represents_flush`, `represents_search` : the operations on
  the list of cells.
-/

namespace GpsHal

/-- The address of an allocated element. -/
abbrev Ptr := ℕ

structure list_element (M D : Type) where
  next : Option Ptr
  prev : Option Ptr
  data_ptr : M
  dealloc_func : Option D
  deriving DecidableEq, Repr

structure list_state where
  p_head : Option Ptr
  p_tail : Option Ptr
  deriving DecidableEq, Repr

inductive linked_list_err_type where
  | SUCCESS
  | FAILURE_GENERAL
  | INVALID_PARAMETER
  | INVALID_HANDLE
  | UNAVAILABLE_RESOURCE
  | INSUFFICIENT_BUFFER
  | EMPTY
  deriving DecidableEq, Repr

/-- The allocated elements. -/
abbrev ListHeap (M D : Type) := OrdMap Ptr (list_element M D)

structure LinkedList (M D : Type) where
  heap : ListHeap M D
  state : list_state

variable {M D : Type}

namespace ListHeap

/-- `a->next = next` -/
def setNext (h : ListHeap M D) (a : Ptr) (next : Option Ptr) : Option (ListHeap M D) :=
  (h.find a).map fun e => h.insert a ⟨next, e.prev, e.data_ptr, e.dealloc_func⟩

/-- `a->prev = prev` -/
def setPrev (h : ListHeap M D) (a : Ptr) (prev : Option Ptr) : Option (ListHeap M D) :=
  (h.find a).map fun e => h.insert a ⟨e.next, prev, e.data_ptr, e.dealloc_func⟩

end ListHeap

/-- `linked_list_init` -/
def linked_list_init : LinkedList M D := ⟨∅, none, none⟩

/-- `linked_list_add`, where `malloc` is the result of the allocation. -/
def linked_list_add (L : LinkedList M D) (malloc : Option Ptr) (data_obj : Option M)
    (dealloc : Option D) : Option (LinkedList M D × linked_list_err_type) :=
  match data_obj with
  | none => some (L, .INVALID_PARAMETER)
  | some data =>
    match malloc with
    | none => some (L, .FAILURE_GENERAL)
    | some elem =>
      let heap := L.heap.insert elem ⟨L.state.p_head, none, data, dealloc⟩
      match L.state.p_head with
      | some tmp => do
        let heap ← ListHeap.setPrev heap tmp (some elem)
        some (⟨heap, some elem, L.state.p_tail⟩, .SUCCESS)
      | none => some (⟨heap, some elem, some elem⟩, .SUCCESS)

/-- `linked_list_remove`, with the data that is copied out. -/
def linked_list_remove (L : LinkedList M D) :
    Option (LinkedList M D × linked_list_err_type × Option M) :=
  match L.state.p_tail with
  | none => some (L, .UNAVAILABLE_RESOURCE, none)
  | some tmp => do
    let e ← L.heap.find tmp
    match e.prev with
    | some p_tail => do
      let heap ← ListHeap.setNext L.heap p_tail none
      some (⟨heap.erase tmp, L.state.p_head, some p_tail⟩, .SUCCESS, some e.data_ptr)
    | none => some (⟨L.heap.erase tmp, none, none⟩, .SUCCESS, some e.data_ptr)

/-- `linked_list_empty` -/
def linked_list_empty (L : LinkedList M D) : Bool := L.state.p_head.isNone

/-- A call of an element's `dealloc_func`, if it has one. -/
def deallocCall (data : M) (dealloc : Option D) : List (D × M) :=
  match dealloc with
  | some d => [(d, data)]
  | none => []

/-- The loop of `linked_list_flush`, with the calls of deallocators so far. -/
def flushLoop : ℕ → ListHeap M D → Option Ptr → List (D × M) →
    Option (ListHeap M D × List (D × M))
  | _, heap, none, calls => some (heap, calls)
  | 0, _, some _, _ => none
  | fuel + 1, heap, some p_head, calls => do
    let e ← heap.find p_head
    flushLoop fuel (heap.erase p_head) e.next (calls ++ deallocCall e.data_ptr e.dealloc_func)

/-- `linked_list_flush`, with the calls of deallocators. -/
def linked_list_flush (L : LinkedList M D) :
    Option (LinkedList M D × linked_list_err_type × List (D × M)) := do
  let (heap, calls) ← flushLoop L.heap.size L.heap L.state.p_head []
  some (⟨heap, none, none⟩, .SUCCESS, calls)

/-- The loop of `linked_list_search`, up to the element that is found. -/
def searchLoop (equal : M → Bool) (heap : ListHeap M D) : ℕ → Option Ptr → Option (Option Ptr)
  | _, none => some none
  | 0, some _ => none
  | fuel + 1, some tmp => do
    let e ← heap.find tmp
    if equal e.data_ptr then some (some tmp) else searchLoop equal heap fuel e.next

/-- The element before a removed one, or the head, is linked with the element behind it. -/
def linkPrevious (L : LinkedList M D) (heap : ListHeap M D) (e : list_element M D) :
    Option (Option Ptr × ListHeap M D) :=
  match e.prev with
  | none => some (e.next, heap)
  | some prev => (ListHeap.setNext heap prev e.next).map (L.state.p_head, ·)

/-- The element behind a removed one, or the tail, is linked with the element before it. -/
def linkNext (L : LinkedList M D) (heap : ListHeap M D) (e : list_element M D) :
    Option (Option Ptr × ListHeap M D) :=
  match e.next with
  | none => some (e.prev, heap)
  | some next => (ListHeap.setPrev heap next e.prev).map (L.state.p_tail, ·)

/-- What `linked_list_search` does with an element that it removes. -/
def searchRemove (L : LinkedList M D) (tmp : Ptr) (e : list_element M D) :
    Option (LinkedList M D) := do
  let (p_head, heap) ← linkPrevious L L.heap e
  let (p_tail, heap) ← linkNext L heap e
  some ⟨heap.erase tmp, p_head, p_tail⟩

/-- `linked_list_search`, with the data that is found and the calls of deallocators; `data_p` says
whether the caller wants the data. -/
def linked_list_search (L : LinkedList M D) (data_p : Bool) (equal : M → Bool)
    (rm_if_found : Bool) :
    Option (LinkedList M D × linked_list_err_type × Option M × List (D × M)) :=
  match L.state.p_tail with
  | none => some (L, .UNAVAILABLE_RESOURCE, none, [])
  | some _ => do
    match ← searchLoop equal L.heap L.heap.size L.state.p_head with
    | none => some (L, .SUCCESS, none, [])
    | some tmp => do
      let e ← L.heap.find tmp
      let found := if data_p then some e.data_ptr else none
      if rm_if_found then do
        let L ← searchRemove L tmp e
        some (L, .SUCCESS, found, if data_p then [] else deallocCall e.data_ptr e.dealloc_func)
      else some (L, .SUCCESS, found, [])

/-! ### Segments -/

/-- An element of a list, with its address. -/
abbrev ListCell (M D : Type) := Ptr × M × Option D

namespace LinkedList

/-- The first address of a segment that is followed by `next`. -/
def headOf (next : Option Ptr) : List (ListCell M D) → Option Ptr
  | [] => next
  | c :: _ => some c.1

/-- The last address of a segment that follows `prev`. -/
def lastOf (prev : Option Ptr) : List (ListCell M D) → Option Ptr
  | [] => prev
  | c :: l => lastOf (some c.1) l

/-- The elements of a segment, each linked with the next and the previous one. -/
def Segment (h : ListHeap M D) (prev : Option Ptr) : List (ListCell M D) → Option Ptr → Prop
  | [], _ => True
  | c :: l, next =>
    h.find c.1 = some ⟨headOf next l, prev, c.2.1, c.2.2⟩ ∧ Segment h (some c.1) l next

def addresses (l : List (ListCell M D)) : List Ptr := l.map Prod.fst

@[simp] theorem headOf_nil {next : Option Ptr} : headOf next ([] : List (ListCell M D)) = next := rfl

@[simp] theorem headOf_cons {next : Option Ptr} {c : ListCell M D} {l : List (ListCell M D)} :
    headOf next (c :: l) = some c.1 := rfl

theorem headOf_append {next : Option Ptr} {l r : List (ListCell M D)} :
    headOf next (l ++ r) = headOf (headOf next r) l := by
  cases l with
  | nil => rfl
  | cons c l => rfl

@[simp] theorem lastOf_nil {prev : Option Ptr} : lastOf prev ([] : List (ListCell M D)) = prev := rfl

theorem lastOf_append {prev : Option Ptr} {l r : List (ListCell M D)} :
    lastOf prev (l ++ r) = lastOf (lastOf prev l) r := by
  induction l generalizing prev with
  | nil => rfl
  | cons c l ih => exact ih

@[simp] theorem lastOf_concat {prev : Option Ptr} {l : List (ListCell M D)} {c : ListCell M D} :
    lastOf prev (l ++ [c]) = some c.1 := by
  rw [lastOf_append]
  rfl

section

variable {h h' : ListHeap M D} {prev next : Option Ptr} {l r : List (ListCell M D)}
  {c : ListCell M D}

theorem segment_append : Segment h prev (l ++ r) next ↔
    Segment h prev l (headOf next r) ∧ Segment h (lastOf prev l) r next := by
  induction l generalizing prev with
  | nil => exact (and_iff_right trivial).symm
  | cons c l ih =>
    simp only [List.cons_append, Segment, headOf_append, ih, and_assoc, lastOf]

/-- A segment depends on its own elements only. -/
theorem Segment.frame (hseg : Segment h prev l next)
    (hframe : ∀ a ∈ addresses l, h'.find a = h.find a) : Segment h' prev l next := by
  induction l generalizing prev with
  | nil => trivial
  | cons c l ih =>
    obtain ⟨hc, hl⟩ := hseg
    refine ⟨?_, ih hl fun a ha => hframe a (List.mem_cons_of_mem _ ha)⟩
    rw [hframe c.1 List.mem_cons_self, hc]

/-- Relinking the last element of a segment. -/
theorem Segment.setNext (hseg : Segment h prev (l ++ [c]) next)
    (hnd : (addresses (l ++ [c])).Nodup) (next' : Option Ptr) :
    ∃ h', ListHeap.setNext h c.1 next' = some h' ∧ Segment h' prev (l ++ [c]) next' ∧
      (∀ a, a ≠ c.1 → h'.find a = h.find a) ∧ h'.find c.1 ≠ none := by
  obtain ⟨hl, hc, -⟩ := segment_append.mp hseg
  refine ⟨_, by rw [ListHeap.setNext, hc]; rfl, ?_, fun a ha => ?_, ?_⟩
  · refine segment_append.mpr ⟨hl.frame fun a ha => ?_, ?_, trivial⟩
    · rw [OrdMap.find_insert, if_neg]
      rintro rfl
      unfold addresses at hnd
      rw [List.map_append, List.nodup_append] at hnd
      exact hnd.2.2 _ ha _ List.mem_cons_self rfl
    · rw [OrdMap.find_insert, if_pos rfl]
      rfl
  · rw [OrdMap.find_insert, if_neg ha]
  · rw [OrdMap.find_insert, if_pos rfl]
    exact Option.some_ne_none _

/-- Relinking the first element of a segment. -/
theorem Segment.setPrev (hseg : Segment h prev (c :: l) next)
    (hnd : (addresses (c :: l)).Nodup) (prev' : Option Ptr) :
    ∃ h', ListHeap.setPrev h c.1 prev' = some h' ∧ Segment h' prev' (c :: l) next ∧
      (∀ a, a ≠ c.1 → h'.find a = h.find a) ∧ h'.find c.1 ≠ none := by
  obtain ⟨hc, hl⟩ := hseg
  refine ⟨_, by rw [ListHeap.setPrev, hc]; rfl, ⟨?_, hl.frame fun a ha => ?_⟩, fun a ha => ?_, ?_⟩
  · rw [OrdMap.find_insert, if_pos rfl]
  · rw [OrdMap.find_insert, if_neg]
    rintro rfl
    exact (List.nodup_cons.mp hnd).1 ha
  · rw [OrdMap.find_insert, if_neg ha]
  · rw [OrdMap.find_insert, if_pos rfl]
    exact Option.some_ne_none _

theorem Segment.find_ne_none (hseg : Segment h prev l next) {a : Ptr} (ha : a ∈ addresses l) :
    h.find a ≠ none := by
  induction l generalizing prev with
  | nil => cases ha
  | cons c l ih =>
    obtain ⟨hc, hl⟩ := hseg
    rcases List.mem_cons.mp ha with rfl | ha
    · rw [hc]
      exact Option.some_ne_none _
    · exact ih hl ha

end

/-- The pointers describe the cells, from the head to the tail and back, and nothing else is
allocated. -/
structure Represents (L : LinkedList M D) (cells : List (ListCell M D)) : Prop where
  segment : Segment L.heap none cells none
  p_head : L.state.p_head = headOf none cells
  p_tail : L.state.p_tail = lastOf none cells
  nodup : (addresses cells).Nodup
  only : ∀ a, L.heap.find a ≠ none → a ∈ addresses cells

/-- The data of a list, from the head to the tail. -/
def Lists (L : LinkedList M D) (contents : List (M × Option D)) : Prop :=
  ∃ cells, L.Represents cells ∧ cells.map Prod.snd = contents

variable {L : LinkedList M D} {cells l r : List (ListCell M D)} {c : ListCell M D}

theorem represents_init : Represents (linked_list_init : LinkedList M D) [] :=
  ⟨trivial, rfl, rfl, List.nodup_nil, fun _ ha => absurd rfl ha⟩

theorem Represents.empty_iff (hr : L.Represents cells) :
    linked_list_empty L = true ↔ cells = [] := by
  unfold linked_list_empty
  rw [hr.p_head]
  cases cells with
  | nil => exact iff_of_true rfl rfl
  | cons c l => exact iff_of_false Bool.false_ne_true (List.cons_ne_nil _ _)

/-- There is enough fuel for a loop over all cells. -/
theorem Represents.length_le (hr : L.Represents cells) : cells.length ≤ L.heap.size := by
  have hsub : addresses cells ⊆ L.heap.entries.map Prod.fst := by
    intro a ha
    obtain ⟨e, he⟩ := Option.ne_none_iff_exists'.mp (hr.segment.find_ne_none ha)
    exact List.mem_map_of_mem (f := Prod.fst) (OrdMap.find_eq_some.mp he)
  have hle := List.Nodup.length_le_of_subset hr.nodup hsub
  unfold addresses at hle
  rwa [List.length_map, List.length_map] at hle

theorem represents_add (hr : L.Represents cells) {a : Ptr} (ha : L.heap.find a = none) (data : M)
    (dealloc : Option D) :
    ∃ L', linked_list_add L (some a) (some data) dealloc = some (L', .SUCCESS) ∧
      L'.Represents ((a, data, dealloc) :: cells) := by
  have hnew : a ∉ addresses cells := fun hmem => hr.segment.find_ne_none hmem ha
  have hnd : (addresses ((a, data, dealloc) :: cells)).Nodup := List.nodup_cons.mpr ⟨hnew, hr.nodup⟩
  have hold (e : list_element M D) : Segment (L.heap.insert a e) none cells none :=
    hr.segment.frame fun b hb => by
      rw [OrdMap.find_insert, if_neg]
      rintro rfl
      exact hnew hb
  cases cells with
  | nil =>
    refine ⟨_, by rw [linked_list_add, hr.p_head]; rfl, ⟨?_, trivial⟩, rfl, rfl, hnd, ?_⟩
    · rw [OrdMap.find_insert, if_pos rfl]
    · intro b hb
      rw [OrdMap.find_insert] at hb
      split at hb
      · rename_i heq
        rw [heq]
        exact List.mem_cons_self
      · cases hr.only b hb
  | cons c l =>
    obtain ⟨heap, hset, hseg, hframe, -⟩ := (hold ⟨some c.1, none, data, dealloc⟩).setPrev hr.nodup
      (some a)
    have hne : a ≠ c.1 := fun heq => hnew (heq ▸ List.mem_cons_self)
    refine ⟨⟨heap, some a, L.state.p_tail⟩, ?_, ⟨?_, hseg⟩, rfl, ?_, hnd, ?_⟩
    · simp only [linked_list_add, hr.p_head, headOf_cons]
      rw [hset]
      rfl
    · rw [hframe a hne, OrdMap.find_insert, if_pos rfl]
      rfl
    · exact hr.p_tail
    · intro b hb
      by_cases hbc : b = c.1
      · rw [hbc]
        exact List.mem_cons_of_mem _ List.mem_cons_self
      · rw [hframe b hbc, OrdMap.find_insert] at hb
        split at hb
        · rename_i heq
          rw [heq]
          exact List.mem_cons_self
        · exact List.mem_cons_of_mem _ (hr.only b hb)

theorem represents_remove_nil (hr : L.Represents []) :
    linked_list_remove L = some (L, .UNAVAILABLE_RESOURCE, none) := by
  unfold linked_list_remove
  rw [hr.p_tail]
  rfl

/-- Freeing an element that is not among the cells any more. -/
theorem Segment.erase {h : ListHeap M D} {prev next : Option Ptr} {a : Ptr}
    (hseg : Segment h prev l next) (ha : a ∉ addresses l) : Segment (h.erase a) prev l next :=
  hseg.frame fun b hb => by
    rw [OrdMap.find_erase, if_neg]
    rintro rfl
    exact ha hb

theorem represents_remove (hr : L.Represents (l ++ [c])) :
    ∃ L', linked_list_remove L = some (L', .SUCCESS, some c.2.1) ∧ L'.Represents l := by
  obtain ⟨hl, hc, -⟩ := segment_append.mp hr.segment
  have hnd := hr.nodup
  unfold addresses at hnd
  rw [List.map_append, List.nodup_append] at hnd
  have hcl : c.1 ∉ addresses l := fun hmem => hnd.2.2 _ hmem _ List.mem_cons_self rfl
  have honly (b : Ptr) (hbc : b ≠ c.1) (hb : L.heap.find b ≠ none) : b ∈ addresses l := by
    have hmem := hr.only b hb
    unfold addresses at hmem
    rw [List.map_append, List.mem_append] at hmem
    exact hmem.resolve_right fun h => hbc (List.mem_singleton.mp h)
  have htail : L.state.p_tail = some c.1 := by rw [hr.p_tail, lastOf_concat]
  rcases List.eq_nil_or_concat l with rfl | ⟨l', p, rfl⟩
  · refine ⟨⟨L.heap.erase c.1, none, none⟩, ?_, trivial, rfl, rfl, List.nodup_nil, ?_⟩
    · simp only [linked_list_remove, htail]
      rw [hc]
      rfl
    · intro b hb
      rw [OrdMap.find_erase] at hb
      split at hb
      · exact absurd rfl hb
      · rename_i hbc
        exact honly b hbc hb
  · rw [List.concat_eq_append] at *
    obtain ⟨heap, hset, hseg, hframe, -⟩ := hl.setNext hnd.1 none
    refine ⟨⟨heap.erase c.1, L.state.p_head, some p.1⟩, ?_, hseg.erase hcl, ?_, ?_, hnd.1, ?_⟩
    · rw [lastOf_concat] at hc
      simp only [linked_list_remove, htail]
      rw [hc]
      simp only [Option.bind_eq_bind, Option.bind_some]
      rw [hset]
      rfl
    · rw [hr.p_head, headOf_append, headOf_append, headOf_append]
      rfl
    · exact lastOf_concat.symm
    · intro b hb
      rw [OrdMap.find_erase] at hb
      split at hb
      · exact absurd rfl hb
      · rename_i hbc
        by_cases hbp : b = p.1
        · rw [hbp]
          unfold addresses
          rw [List.map_append]
          exact List.mem_append_right _ List.mem_cons_self
        · rw [hframe b hbp] at hb
          exact honly b hbc hb

/-- The calls of deallocators for a list of data. -/
def deallocCalls (contents : List (M × Option D)) : List (D × M) :=
  contents.flatMap fun x => deallocCall x.1 x.2

theorem flushLoop_eq (cells : List (ListCell M D)) {h : ListHeap M D} {prev : Option Ptr}
    (hseg : Segment h prev cells none) (hnd : (addresses cells).Nodup) {fuel : ℕ}
    (hfuel : cells.length ≤ fuel) (calls : List (D × M)) :
    ∃ h', flushLoop fuel h (headOf none cells) calls =
        some (h', calls ++ deallocCalls (cells.map Prod.snd)) ∧
      ∀ a, h'.find a ≠ none → h.find a ≠ none ∧ a ∉ addresses cells := by
  induction cells generalizing h prev fuel calls with
  | nil =>
    refine ⟨h, ?_, fun a ha => ⟨ha, List.not_mem_nil⟩⟩
    cases fuel <;> simp [flushLoop, deallocCalls]
  | cons c l ih =>
    obtain ⟨hc, hl⟩ := hseg
    obtain ⟨hcl, hnd⟩ := List.nodup_cons.mp hnd
    obtain ⟨fuel, rfl⟩ := Nat.exists_eq_add_of_lt (Nat.lt_of_lt_of_le (Nat.succ_pos _) hfuel)
    rw [Nat.zero_add] at hfuel ⊢
    obtain ⟨h', heq, hframe⟩ := ih (hl.erase hcl) hnd (Nat.le_of_succ_le_succ hfuel)
      (calls ++ deallocCall c.2.1 c.2.2)
    refine ⟨h', ?_, fun a ha => ?_⟩
    · simp only [headOf_cons, flushLoop, hc, Option.bind_eq_bind, Option.bind_some]
      rw [heq, List.append_assoc]
      rfl
    · obtain ⟨hfind, hmem⟩ := hframe a ha
      rw [OrdMap.find_erase] at hfind
      split at hfind
      · exact absurd rfl hfind
      · rename_i hne
        exact ⟨hfind, fun h => (List.mem_cons.mp h).elim hne hmem⟩

theorem represents_flush (hr : L.Represents cells) :
    ∃ L', linked_list_flush L = some (L', .SUCCESS, deallocCalls (cells.map Prod.snd)) ∧
      L'.Represents [] := by
  obtain ⟨h', heq, hframe⟩ := flushLoop_eq cells hr.segment hr.nodup hr.length_le []
  refine ⟨⟨h', none, none⟩, ?_, trivial, rfl, rfl, List.nodup_nil, fun a ha => ?_⟩
  · unfold linked_list_flush
    rw [hr.p_head, heq]
    rfl
  · obtain ⟨hfind, hmem⟩ := hframe a ha
    exact absurd (hr.only a hfind) hmem

/-! ### Searching -/

/-- The search runs to the first match, from the head. -/
theorem searchLoop_eq (equal : M → Bool) (cells : List (ListCell M D)) {h : ListHeap M D}
    {prev : Option Ptr} (hseg : Segment h prev cells none) {fuel : ℕ}
    (hfuel : cells.length ≤ fuel) :
    searchLoop equal h fuel (headOf none cells) =
      some ((cells.find? fun c => equal c.2.1).map Prod.fst) := by
  induction cells generalizing prev fuel with
  | nil => cases fuel <;> rfl
  | cons c l ih =>
    obtain ⟨hc, hl⟩ := hseg
    obtain ⟨fuel, rfl⟩ := Nat.exists_eq_add_of_lt (Nat.lt_of_lt_of_le (Nat.succ_pos _) hfuel)
    rw [Nat.zero_add] at hfuel ⊢
    simp only [headOf_cons, searchLoop, hc, Option.bind_eq_bind, Option.bind_some, List.find?_cons]
    cases hequal : equal c.2.1 with
    | true => rfl
    | false => exact ih hl (Nat.le_of_succ_le_succ hfuel)

/-- An element is unlinked wherever it stands. -/
theorem represents_searchRemove (hr : L.Represents (l ++ c :: r)) :
    ∃ L', searchRemove L c.1 ⟨headOf none r, lastOf none l, c.2.1, c.2.2⟩ = some L' ∧
      L'.Represents (l ++ r) := by
  obtain ⟨hl, hc, hrest⟩ := segment_append.mp hr.segment
  have hnd := hr.nodup
  unfold addresses at hnd
  rw [List.map_append, List.nodup_append] at hnd
  obtain ⟨hndl, hndr, hdisj⟩ := hnd
  have hcr := (List.nodup_cons.mp hndr).1
  have hndr := (List.nodup_cons.mp hndr).2
  have hcl : c.1 ∉ addresses l := fun hmem => hdisj _ hmem _ List.mem_cons_self rfl
  -- relinking what stands before the element
  obtain ⟨h₁, head, hset₁, hseg₁, hframe₁, hhead⟩ : ∃ h₁ head,
      linkPrevious L L.heap ⟨headOf none r, lastOf none l, c.2.1, c.2.2⟩ = some (head, h₁) ∧
      Segment h₁ none l (headOf none r) ∧
      (∀ a, a ∉ addresses l → h₁.find a = L.heap.find a) ∧ head = headOf none (l ++ r) := by
    rcases List.eq_nil_or_concat l with rfl | ⟨l', p, rfl⟩
    · exact ⟨L.heap, headOf none r, rfl, trivial, fun _ _ => rfl, rfl⟩
    · rw [List.concat_eq_append] at *
      obtain ⟨h₁, hset, hseg, hframe, -⟩ := hl.setNext hndl (headOf none r)
      refine ⟨h₁, L.state.p_head, ?_, hseg, fun a ha => hframe a ?_, ?_⟩
      · simp only [linkPrevious, lastOf_concat, hset]
        rfl
      · rintro rfl
        exact ha (by simp [addresses])
      · rw [hr.p_head, headOf_append, headOf_append, headOf_append, headOf_append]
        rfl
  have hrest₁ : Segment h₁ (some c.1) r none := hrest.frame fun a ha =>
    hframe₁ a fun hmem => hdisj a hmem a (List.mem_cons_of_mem _ ha) rfl
  -- and what stands behind it
  obtain ⟨h₂, tail, hset₂, hseg₂, hframe₂, htail⟩ : ∃ h₂ tail,
      linkNext L h₁ ⟨headOf none r, lastOf none l, c.2.1, c.2.2⟩ = some (tail, h₂) ∧
      Segment h₂ (lastOf none l) r none ∧
      (∀ a, a ∉ addresses r → h₂.find a = h₁.find a) ∧ tail = lastOf none (l ++ r) := by
    cases r with
    | nil => exact ⟨h₁, lastOf none l, rfl, trivial, fun _ _ => rfl, by rw [List.append_nil]⟩
    | cons q r =>
      obtain ⟨h₂, hset, hseg, hframe, -⟩ := hrest₁.setPrev hndr (lastOf none l)
      refine ⟨h₂, L.state.p_tail, ?_, hseg, fun a ha => hframe a ?_, ?_⟩
      · simp only [linkNext, headOf_cons, hset]
        rfl
      · rintro rfl
        exact ha List.mem_cons_self
      · rw [hr.p_tail, lastOf_append, lastOf_append]
        rfl
  have hseg₂' : Segment h₂ none l (headOf none r) := hseg₁.frame fun a ha =>
    hframe₂ a fun hmem => hdisj a ha a (List.mem_cons_of_mem _ hmem) rfl
  refine ⟨⟨h₂.erase c.1, head, tail⟩, ?_, ?_, hhead, htail, ?_, fun a ha => ?_⟩
  · simp only [searchRemove, hset₁, hset₂, Option.bind_eq_bind, Option.bind_some]
  · exact segment_append.mpr ⟨hseg₂'.erase hcl, hseg₂.erase hcr⟩
  · unfold addresses
    rw [List.map_append, List.nodup_append]
    exact ⟨hndl, hndr, fun a ha b hb => hdisj a ha b (List.mem_cons_of_mem _ hb)⟩
  · rw [OrdMap.find_erase] at ha
    split at ha
    · exact absurd rfl ha
    · rename_i hne
      unfold addresses
      rw [List.map_append, List.mem_append]
      by_contra hnot
      obtain ⟨hal, har⟩ := not_or.mp hnot
      rw [hframe₂ a har, hframe₁ a hal] at ha
      have hmem := hr.only a ha
      unfold addresses at hmem
      rw [List.map_append, List.mem_append] at hmem
      rcases hmem with hmem | hmem
      · exact hal hmem
      · exact (List.mem_cons.mp hmem).elim hne har

/-- A search without a match leaves the list as it is. -/
theorem represents_search_none (hr : L.Represents cells) (hne : cells ≠ []) {data_p : Bool}
    {equal : M → Bool} {rm_if_found : Bool} (hnone : ∀ c ∈ cells, equal c.2.1 = false) :
    linked_list_search L data_p equal rm_if_found = some (L, .SUCCESS, none, []) := by
  obtain ⟨l, c, rfl⟩ := (List.eq_nil_or_concat cells).resolve_left hne
  rw [List.concat_eq_append] at *
  have hfind : ((l ++ [c]).find? fun c => equal c.2.1) = none :=
    List.find?_eq_none.mpr fun c hc => by rw [hnone c hc]; exact Bool.false_ne_true
  simp only [linked_list_search, hr.p_tail, lastOf_concat, hr.p_head]
  rw [searchLoop_eq equal _ hr.segment hr.length_le, hfind]
  rfl

/-- A search finds the match that was added last, and removes it if it is told to. -/
theorem represents_search (hr : L.Represents (l ++ c :: r)) {data_p : Bool} {equal : M → Bool}
    {rm_if_found : Bool} (hl : ∀ d ∈ l, equal d.2.1 = false) (hc : equal c.2.1 = true) :
    ∃ L', linked_list_search L data_p equal rm_if_found =
        some (L', .SUCCESS, if data_p then some c.2.1 else none,
          if rm_if_found && !data_p then deallocCall c.2.1 c.2.2 else []) ∧
      L'.Represents (if rm_if_found then l ++ r else l ++ c :: r) := by
  obtain ⟨-, hcell, -⟩ := segment_append.mp hr.segment
  have htail : ∃ a, L.state.p_tail = some a := by
    rw [hr.p_tail, lastOf_append]
    rcases List.eq_nil_or_concat (c :: r) with hnil | ⟨r', p, hp⟩
    · cases hnil
    · rw [hp, List.concat_eq_append, lastOf_concat]
      exact ⟨_, rfl⟩
  obtain ⟨a, ha⟩ := htail
  have hfind : ((l ++ c :: r).find? fun c => equal c.2.1) = some c := by
    rw [List.find?_append, List.find?_eq_none.mpr fun d hd => by
      rw [hl d hd]
      exact Bool.false_ne_true, List.find?_cons, hc]
    rfl
  simp only [linked_list_search, ha, hr.p_head]
  rw [searchLoop_eq equal _ hr.segment hr.length_le, hfind]
  simp only [Option.map_some, Option.bind_eq_bind, Option.bind_some]
  rw [hcell]
  simp only [Option.bind_some]
  cases rm_if_found with
  | false => exact ⟨L, by simp, by simpa using hr⟩
  | true =>
    obtain ⟨L', hremove, hr'⟩ := represents_searchRemove hr
    refine ⟨L', ?_, hr'⟩
    rw [if_pos rfl, hremove]
    cases data_p <;> rfl

end LinkedList

end GpsHal
