import Mathlib.Data.List.Induction
import Mathlib.Data.List.Infix
import Mathlib.Data.List.Nodup
import Mathlib.Data.Nat.Notation

/-!
# The adapters of `LocApiBase`

Every adapter puts itself into an array of the location API when it is made, and is taken out when it
is destroyed; the API is opened, refreshed and closed by messages to its thread
(`core/LocApiBase.cpp`).

## Main definitions

* `LocApiBase.addAdapter`, `LocApiBase.removeAdapter` : the functions.
* `Registry` : what the array and the messages should be after some calls.

## Main results

* `LocApiBase.addAdapter_spec`, `LocApiBase.removeAdapter_spec` : what they do to a packed array.
* `registry_run` : the registry, after any calls with room for the adapters.
-/

namespace GpsHal

def MAX_ADAPTERS : ℕ := 10

/-- The messages to the thread of the API. -/
inductive LocApiMsg (α : Type)
  | LocOpenMsg (mAdapter : Option α)
  | LocCloseMsg
  deriving DecidableEq, Repr

/-- `mLocAdapters` may hold NULL.  `msgs` are those that have been sent. -/
structure LocApiBase (α : Type) where
  mLocAdapters : List (Option α)
  msgs : List (LocApiMsg α)
  size_eq : mLocAdapters.length = MAX_ADAPTERS

namespace LocApiBase

variable {α : Type}

def init : LocApiBase α := ⟨List.replicate MAX_ADAPTERS none, [], List.length_replicate⟩

def slot (s : LocApiBase α) (i : ℕ) : Option α := s.mLocAdapters.getD i none

def setSlot (s : LocApiBase α) (i : ℕ) (adapter : Option α) : LocApiBase α :=
  ⟨s.mLocAdapters.set i adapter, s.msgs, (List.length_set ..).trans s.size_eq⟩

def sendMsg (s : LocApiBase α) (msg : LocApiMsg α) : LocApiBase α :=
  { s with msgs := s.msgs ++ [msg] }

section

variable [DecidableEq α] (adapter : α)

/-- The loop of `addAdapter`, with as many turns as there are slots. -/
def addLoop : ℕ → ℕ → LocApiBase α → LocApiBase α
  | 0, _, s => s
  | turns + 1, i, s =>
    if i < MAX_ADAPTERS ∧ s.slot i ≠ some adapter then
      if s.slot i = none then (s.setSlot i (some adapter)).sendMsg (.LocOpenMsg (some adapter))
      else addLoop turns (i + 1) s
    else s

def addAdapter (s : LocApiBase α) : LocApiBase α := addLoop adapter MAX_ADAPTERS 0 s

/-- The inner loop of `removeAdapter`, which starts with the increment. -/
def lastLoop : ℕ → ℕ → LocApiBase α → ℕ
  | 0, i, _ => i
  | turns + 1, i, s =>
    let i := i + 1
    if i < MAX_ADAPTERS ∧ s.slot i ≠ none then lastLoop turns i s else i

/-- The loop of `removeAdapter`. -/
def removeLoop : ℕ → ℕ → LocApiBase α → LocApiBase α
  | 0, _, s => s
  | turns + 1, i, s =>
    if i < MAX_ADAPTERS ∧ s.slot i ≠ none then
      if s.slot i = some adapter then
        let s := s.setSlot i none
        let j := i
        let i := lastLoop MAX_ADAPTERS i s - 1
        let s := s.setSlot j (s.slot i)
        let s := s.setSlot i none
        let s := s.sendMsg (if i = 0 then .LocCloseMsg else .LocOpenMsg none)
        removeLoop turns (i + 1) s
      else removeLoop turns (i + 1) s
    else s

def removeAdapter (s : LocApiBase α) : LocApiBase α := removeLoop adapter MAX_ADAPTERS 0 s

end

/-- The mask that the API is opened with when a message is processed: what any adapter asks for, up to
the first NULL. -/
def getEvtMask (evtMask : α → BitVec 64) (mExcludedMask : BitVec 64) (s : LocApiBase α) : BitVec 64 :=
  let adapters := s.mLocAdapters.takeWhile Option.isSome
  adapters.foldl (fun mask adapter => mask ||| (adapter.map evtMask).getD 0) 0 &&& ~~~mExcludedMask

/-! ### Packed arrays -/

/-- The adapters stand in front, with NULL after them. -/
structure Packed (order : List α) (s : LocApiBase α) : Prop where
  le : order.length ≤ MAX_ADAPTERS
  eq : s.mLocAdapters = order.map some ++ List.replicate (MAX_ADAPTERS - order.length) none

variable {order l r : List α} {s : LocApiBase α} {a : α} {i : ℕ}

theorem packed_init : Packed [] (init : LocApiBase α) := ⟨Nat.zero_le _, rfl⟩

@[simp] theorem msgs_setSlot (i : ℕ) (adapter : Option α) : (s.setSlot i adapter).msgs = s.msgs := rfl

@[simp] theorem slot_sendMsg (msg : LocApiMsg α) : (s.sendMsg msg).slot = s.slot := rfl

theorem slot_setSlot (h : i < MAX_ADAPTERS) (adapter : Option α) (j : ℕ) :
    (s.setSlot i adapter).slot j = if j = i then adapter else s.slot j := by
  have hi : i < s.mLocAdapters.length := by rw [s.size_eq]; exact h
  unfold slot setSlot
  rw [List.getD_eq_getElem?_getD, List.getD_eq_getElem?_getD, List.getElem?_set, if_pos hi]
  split_ifs with hij hji hji
  · rfl
  · exact absurd hij.symm hji
  · exact absurd hji.symm hij
  · rfl

namespace Packed

theorem slot_eq (h : Packed order s) (i : ℕ) : s.slot i = order[i]? := by
  unfold slot
  rw [h.eq, List.getD_eq_getElem?_getD, List.getElem?_append, List.length_map, List.getElem?_map]
  split_ifs with hi
  · rw [List.getElem?_eq_getElem hi]
    rfl
  · rw [List.getElem?_eq_none (Nat.not_lt.1 hi), List.getElem?_replicate]
    split_ifs <;> rfl

/-- The slots say all about the array. -/
theorem of_slot (hle : order.length ≤ MAX_ADAPTERS) (h : ∀ i, s.slot i = order[i]?) :
    Packed order s := by
  refine ⟨hle, List.ext_getElem? fun i => ?_⟩
  have hi := h i
  have hsize := s.size_eq
  unfold slot at hi
  rw [List.getD_eq_getElem?_getD] at hi
  rw [List.getElem?_append, List.length_map, List.getElem?_map, List.getElem?_replicate]
  by_cases hlt : i < order.length
  · have hin : i < s.mLocAdapters.length := by omega
    rw [List.getElem?_eq_getElem hlt, List.getElem?_eq_getElem hin, Option.getD_some] at hi
    rw [if_pos hlt, List.getElem?_eq_getElem hlt, List.getElem?_eq_getElem hin, hi]
    rfl
  · rw [if_neg hlt]
    rw [List.getElem?_eq_none (Nat.not_lt.1 hlt)] at hi
    split_ifs with hroom
    · have hin : i < s.mLocAdapters.length := by omega
      rw [List.getElem?_eq_getElem hin, Option.getD_some] at hi
      rw [List.getElem?_eq_getElem hin, hi]
    · exact List.getElem?_eq_none (by omega)

theorem slot_ne_none (h : Packed order s) : s.slot i ≠ none ↔ i < order.length := by
  rw [h.slot_eq, Ne, List.getElem?_eq_none_iff, Nat.not_le]

theorem takeWhile_eq (h : Packed order s) :
    s.mLocAdapters.takeWhile Option.isSome = order.map some := by
  rw [h.eq, List.takeWhile_append_of_pos]
  · cases MAX_ADAPTERS - order.length with
    | zero => exact List.append_nil _
    | succ n => exact List.append_nil _
  · intro adapter hmem
    obtain ⟨a, -, rfl⟩ := List.mem_map.1 hmem
    rfl

end Packed

/-! ### Adding -/

variable [DecidableEq α]

/-- The loop ends at the adapter, at the first NULL, or at the end of the array. -/
theorem addLoop_spec (h : Packed (l ++ r) s) (hl : a ∉ l) {turns : ℕ}
    (hturns : turns + l.length = MAX_ADAPTERS) :
    addLoop a turns l.length s =
      if a ∈ r then s
      else if (l ++ r).length < MAX_ADAPTERS then
        (s.setSlot (l ++ r).length (some a)).sendMsg (.LocOpenMsg (some a))
      else s := by
  induction r generalizing l turns with
  | nil =>
    rw [if_neg (List.not_mem_nil), List.append_nil]
    have hslot : s.slot l.length = none := by
      rw [h.slot_eq]
      rw [List.append_nil]
      exact List.getElem?_eq_none (Nat.le_refl _)
    cases turns with
    | zero =>
      rw [if_neg (by omega)]
      rfl
    | succ turns => rw [addLoop, hslot, if_pos ⟨by omega, nofun⟩, if_pos rfl, if_pos (by omega)]
  | cons b r ih =>
    have hle := h.le
    rw [List.length_append, List.length_cons] at hle
    have hslot : s.slot l.length = some b := by
      rw [h.slot_eq, List.getElem?_append_right (Nat.le_refl _), Nat.sub_self, List.getElem?_cons_zero]
    cases turns with
    | zero => omega
    | succ turns =>
      rw [addLoop, hslot]
      by_cases hb : b = a
      · subst hb
        rw [if_neg fun h => h.2 rfl, if_pos List.mem_cons_self]
      · have happend : l ++ b :: r = l ++ [b] ++ r := by
          rw [List.append_assoc, List.singleton_append]
        have hlength : (l ++ [b]).length = l.length + 1 := by
          rw [List.length_append, List.length_singleton]
        rw [happend] at h
        have hl' : a ∉ l ++ [b] := by
          rw [List.mem_append, List.mem_singleton]
          exact not_or.2 ⟨hl, Ne.symm hb⟩
        have hrest := ih h hl' (show turns + (l ++ [b]).length = MAX_ADAPTERS by omega)
        have hmem : a ∈ b :: r ↔ a ∈ r := by
          rw [List.mem_cons]
          exact or_iff_right (Ne.symm hb)
        rw [if_pos ⟨by omega, fun heq => hb (Option.some.inj heq)⟩, if_neg nofun, happend, ← hlength,
          hrest]
        simp only [hmem]

/-- An adapter that is there stays where it is, and a new one is put behind the others if there is
room. -/
theorem addAdapter_spec (h : Packed order s) :
    (a ∈ order → addAdapter a s = s) ∧
    (a ∉ order → order.length < MAX_ADAPTERS →
      Packed (order ++ [a]) (addAdapter a s) ∧
        (addAdapter a s).msgs = s.msgs ++ [.LocOpenMsg (some a)]) := by
  have hloop : addLoop a MAX_ADAPTERS ([] : List α).length s = _ :=
    addLoop_spec (l := []) h List.not_mem_nil rfl
  rw [List.length_nil, List.nil_append] at hloop
  unfold addAdapter
  rw [hloop]
  refine ⟨fun hmem => if_pos hmem, fun hmem hroom => ?_⟩
  rw [if_neg hmem, if_pos hroom]
  refine ⟨Packed.of_slot ?_ fun i => ?_, rfl⟩
  · rw [List.length_append, List.length_singleton]
    exact hroom
  · rw [slot_sendMsg, slot_setSlot hroom, h.slot_eq, List.getElem?_append]
    split_ifs with heq hlt hlt
    · omega
    · rw [heq, Nat.sub_self]
      rfl
    · rfl
    · rw [List.getElem?_eq_none (by omega), List.getElem?_eq_none]
      rw [List.length_singleton]
      omega

/-! ### Removing -/

omit [DecidableEq α] in
/-- The inner loop ends behind the last adapter. -/
theorem lastLoop_spec {n turns : ℕ} (hin : ∀ j, i < j → j < n → s.slot j ≠ none)
    (hend : s.slot n = none) (hn : n ≤ MAX_ADAPTERS) (hi : i < n) (hturns : n ≤ turns + i) :
    lastLoop turns i s = n := by
  induction turns generalizing i with
  | zero => omega
  | succ turns ih =>
    rw [lastLoop]
    by_cases hlast : i + 1 = n
    · rw [hlast, if_neg fun h => h.2 hend]
    · rw [if_pos ⟨by omega, hin (i + 1) (by omega) (by omega)⟩]
      exact ih (fun j hj => hin j (by omega)) (by omega) (by omega)

theorem removeLoop_none (h : s.slot i = none) (turns : ℕ) : removeLoop a turns i s = s := by
  cases turns with
  | zero => rfl
  | succ turns => rw [removeLoop, if_neg fun hi => hi.2 h]

/-- At the adapter the last one takes its place, and the loop ends. -/
theorem removeLoop_hit (h : Packed order s) (hi : i < order.length) (hat : s.slot i = some a) {b : α}
    (hlast : order[order.length - 1]? = some b) (turns : ℕ) :
    Packed (order.set i b).dropLast (removeLoop a (turns + 1) i s) ∧
      (removeLoop a (turns + 1) i s).msgs =
        s.msgs ++ [if order.length = 1 then .LocCloseMsg else .LocOpenMsg none] := by
  have hle := h.le
  have hslot (j : ℕ) : (s.setSlot i none).slot j = if j = i then none else order[j]? := by
    rw [slot_setSlot (by omega), h.slot_eq]
  have hend : lastLoop MAX_ADAPTERS i (s.setSlot i none) = order.length := by
    refine lastLoop_spec (fun j hij hj => ?_) ?_ hle hi (by omega)
    · rw [hslot, if_neg (by omega), List.getElem?_eq_getElem hj]
      exact nofun
    · rw [hslot, if_neg (by omega)]
      exact List.getElem?_eq_none (Nat.le_refl _)
  rw [removeLoop, if_pos ⟨by omega, by rw [hat]; exact nofun⟩, if_pos hat]
  dsimp only
  rw [hend]
  obtain ⟨s', hs'⟩ : ∃ s', s' = ((s.setSlot i none).setSlot i ((s.setSlot i none).slot
      (order.length - 1))).setSlot (order.length - 1) none := ⟨_, rfl⟩
  have hfinal (j : ℕ) : s'.slot j = (order.set i b).dropLast[j]? := by
    rw [hs', slot_setSlot (by omega), slot_setSlot (by omega), hslot, hslot, List.getElem?_dropLast,
      List.length_set, List.getElem?_set, if_pos hi, hlast]
    split_ifs <;> first | rfl | omega | exact List.getElem?_eq_none (by omega)
  have hmsgs : s'.msgs = s.msgs := (congrArg LocApiBase.msgs hs').trans rfl
  have hstop : s'.slot (order.length - 1 + 1) = none := by
    rw [hfinal]
    refine List.getElem?_eq_none ?_
    rw [List.length_dropLast, List.length_set]
    exact Nat.le_succ _
  have hone : order.length - 1 = 0 ↔ order.length = 1 := by omega
  rw [← hs', removeLoop_none (by rw [slot_sendMsg, hstop])]
  refine ⟨Packed.of_slot ?_ hfinal, ?_⟩
  · rw [List.length_dropLast, List.length_set]
    omega
  · rw [← hmsgs]
    simp only [hone]
    rfl

/-- The loop passes over the others. -/
theorem removeLoop_skip {rest : List α} (h : Packed (l ++ (r ++ rest)) s) (hr : a ∉ r) (turns : ℕ) :
    removeLoop a (r.length + turns) l.length s = removeLoop a turns (l ++ r).length s := by
  induction r generalizing l with
  | nil => rw [List.length_nil, Nat.zero_add, List.append_nil]
  | cons b r ih =>
    have hle := h.le
    rw [List.length_append, List.cons_append, List.length_cons] at hle
    have hslot : s.slot l.length = some b := by
      rw [h.slot_eq, List.getElem?_append_right (Nat.le_refl _), Nat.sub_self, List.cons_append,
        List.getElem?_cons_zero]
    have hb : some b ≠ some a := fun heq => hr (Option.some.inj heq ▸ List.mem_cons_self)
    have happend (xs : List α) : l ++ b :: xs = l ++ [b] ++ xs := by
      rw [List.append_assoc, List.singleton_append]
    have hlength : (l ++ [b]).length = l.length + 1 := by
      rw [List.length_append, List.length_singleton]
    rw [List.cons_append, happend] at h
    rw [List.length_cons, Nat.add_right_comm, removeLoop, hslot, if_pos ⟨by omega, nofun⟩,
      if_neg hb, ← hlength, ih h fun hmem => hr (List.mem_cons_of_mem _ hmem), ← happend]

omit [DecidableEq α] in
/-- The last element takes the place of another one. -/
theorem dropLast_set_perm {l r : List α} {a b : α}
    (hlast : (l ++ a :: r)[(l ++ a :: r).length - 1]? = some b) :
    ((l ++ a :: r).set l.length b).dropLast.Perm (l ++ r) := by
  rw [← List.getLast?_eq_getElem?] at hlast
  rw [List.set_append_right _ _ (Nat.le_refl _), Nat.sub_self, List.set_cons_zero]
  rcases List.eq_nil_or_concat r with rfl | ⟨r', c, rfl⟩
  · rw [List.dropLast_concat, List.append_nil]
  · rw [List.concat_eq_append] at hlast ⊢
    rw [← List.cons_append, ← List.append_assoc, List.getLast?_concat] at hlast
    obtain rfl := Option.some.inj hlast
    rw [← List.cons_append, ← List.append_assoc, List.dropLast_concat]
    exact List.Perm.append_left l (List.perm_append_singleton c r').symm

/-- An adapter that is not there changes nothing, and one that is goes. -/
theorem removeAdapter_spec (h : Packed order s) :
    (a ∉ order → removeAdapter a s = s) ∧
    (a ∈ order → ∃ order', order'.Perm (order.erase a) ∧ Packed order' (removeAdapter a s) ∧
      (removeAdapter a s).msgs =
        s.msgs ++ [if order.erase a = [] then .LocCloseMsg else .LocOpenMsg none]) := by
  have hle := h.le
  constructor
  · intro hmem
    have hskip : removeLoop a (order.length + (MAX_ADAPTERS - order.length)) 0 s =
        removeLoop a (MAX_ADAPTERS - order.length) order.length s :=
      removeLoop_skip (show Packed ([] ++ (order ++ [])) s by rw [List.append_nil]; exact h) hmem _
    rw [Nat.add_sub_cancel' hle] at hskip
    refine hskip.trans (removeLoop_none ?_ _)
    rw [h.slot_eq]
    exact List.getElem?_eq_none (Nat.le_refl _)
  · intro hmem
    obtain ⟨l, r, rfl, hl⟩ := List.eq_append_cons_of_mem hmem
    rw [List.length_append, List.length_cons] at hle
    have hskip : removeLoop a (l.length + (MAX_ADAPTERS - l.length - 1 + 1)) 0 s =
        removeLoop a (MAX_ADAPTERS - l.length - 1 + 1) l.length s :=
      removeLoop_skip (l := []) h hl _
    have hturns : l.length + (MAX_ADAPTERS - l.length - 1 + 1) = MAX_ADAPTERS := by omega
    rw [hturns] at hskip
    have hat : s.slot l.length = some a := by
      rw [h.slot_eq, List.getElem?_append_right (Nat.le_refl _), Nat.sub_self,
        List.getElem?_cons_zero]
    have hlength : (l ++ a :: r).length = l.length + (r.length + 1) := by
      rw [List.length_append, List.length_cons]
    have hlast : (l ++ a :: r)[(l ++ a :: r).length - 1]? = some _ :=
      List.getElem?_eq_getElem (by omega)
    obtain ⟨hpacked, hmsgs⟩ := removeLoop_hit h (by omega) hat hlast (MAX_ADAPTERS - l.length - 1)
    have herase : (l ++ a :: r).erase a = l ++ r := by
      rw [List.erase_append_right _ hl, List.erase_cons_head]
    have hempty : (l ++ a :: r).length = 1 ↔ l ++ r = [] := by
      rw [← List.length_eq_zero_iff, hlength, List.length_append]
      omega
    rw [herase]
    unfold removeAdapter
    refine ⟨_, dropLast_set_perm hlast, ?_, ?_⟩
    · rw [hskip]
      exact hpacked
    · rw [hskip, hmsgs]
      simp only [hempty]

end LocApiBase

/-! ### Any calls -/

/-- The calls on one `LocApiBase`. -/
inductive RegistryCall (α : Type)
  | addAdapter (adapter : α)
  | removeAdapter (adapter : α)
  deriving DecidableEq, Repr

section

variable {α : Type} [DecidableEq α]

/-- What a call does to those that are registered. -/
def RegistryCall.register (registered : List α) : RegistryCall α → List α
  | .addAdapter adapter => registered.insert adapter
  | .removeAdapter adapter => registered.erase adapter

/-- The message that a call should send. -/
def RegistryCall.message (registered : List α) : RegistryCall α → List (LocApiMsg α)
  | .addAdapter adapter => if adapter ∈ registered then [] else [.LocOpenMsg (some adapter)]
  | .removeAdapter adapter =>
    if adapter ∈ registered then
      if registered.erase adapter = [] then [.LocCloseMsg] else [.LocOpenMsg none]
    else []

def RegistryCall.step (s : LocApiBase α) : RegistryCall α → LocApiBase α
  | .addAdapter adapter => s.addAdapter adapter
  | .removeAdapter adapter => s.removeAdapter adapter

/-- The state after some calls. -/
def runCalls (calls : List (RegistryCall α)) : LocApiBase α :=
  calls.foldl RegistryCall.step LocApiBase.init

/-- The adapters that are registered after some calls. -/
def registered (calls : List (RegistryCall α)) : List α := calls.foldl RegistryCall.register []

/-- After some calls the array holds the adapters that are registered, each once and packed; the last
call has sent the message that it should, and changed nothing if it changes nothing about who is
registered; and an open that is processed now takes the mask of the registered ones. -/
structure Registry (before : List (RegistryCall α)) (call : RegistryCall α) : Prop where
  slots : ∃ order, order.Nodup ∧ order.Perm (registered (before ++ [call])) ∧
    (runCalls (before ++ [call])).Packed order
  msgs : (runCalls (before ++ [call])).msgs =
    (runCalls before).msgs ++ call.message (registered before)
  idle : call.register (registered before) = registered before →
    runCalls (before ++ [call]) = runCalls before
  mask : ∀ evtMask mExcludedMask, (runCalls (before ++ [call])).getEvtMask evtMask mExcludedMask =
    (registered (before ++ [call])).foldr (fun adapter mask => evtMask adapter ||| mask) 0 &&&
      ~~~mExcludedMask

variable {before calls : List (RegistryCall α)} {call : RegistryCall α} {reg order : List α}
  {s : LocApiBase α}

theorem nodup_register (h : reg.Nodup) (call : RegistryCall α) : (call.register reg).Nodup := by
  cases call with
  | addAdapter a => exact h.insert
  | removeAdapter a => exact h.erase a

theorem nodup_registered (calls : List (RegistryCall α)) : (registered calls).Nodup := by
  induction calls using List.reverseRecOn with
  | nil => exact List.nodup_nil
  | append_singleton calls call ih =>
    unfold registered
    rw [List.foldl_append]
    exact nodup_register ih call

/-- What one call does, if there is room. -/
theorem step_spec (hreg : reg.Nodup) (hperm : order.Perm reg) (h : s.Packed order)
    (hroom : (call.register reg).length ≤ MAX_ADAPTERS) :
    (∃ order', order'.Perm (call.register reg) ∧ (call.step s).Packed order') ∧
      (call.step s).msgs = s.msgs ++ call.message reg ∧
      (call.register reg = reg → call.step s = s) := by
  cases call with
  | addAdapter a =>
    obtain ⟨hold, hnew⟩ := LocApiBase.addAdapter_spec (a := a) h
    unfold RegistryCall.register at hroom ⊢
    unfold RegistryCall.step RegistryCall.message
    dsimp only at hroom ⊢
    by_cases hmem : a ∈ reg
    · have heq := hold (hperm.mem_iff.2 hmem)
      rw [if_pos hmem, List.insert_of_mem hmem, List.append_nil, heq]
      exact ⟨⟨order, hperm, h⟩, rfl, fun _ => rfl⟩
    · rw [List.length_insert_of_not_mem hmem, ← hperm.length_eq] at hroom
      obtain ⟨hpacked, hmsgs⟩ := hnew (fun h => hmem (hperm.mem_iff.1 h)) hroom
      rw [if_neg hmem, List.insert_of_not_mem hmem]
      refine ⟨⟨order ++ [a], ?_, hpacked⟩, hmsgs, fun heq => ?_⟩
      · exact (List.perm_append_singleton a order).trans (hperm.cons a)
      · have hlength := congrArg List.length heq
        rw [List.length_cons] at hlength
        omega
  | removeAdapter a =>
    obtain ⟨hnone, hgone⟩ := LocApiBase.removeAdapter_spec (a := a) h
    unfold RegistryCall.register
    unfold RegistryCall.step RegistryCall.message
    dsimp only
    by_cases hmem : a ∈ reg
    · obtain ⟨order', hperm', hpacked, hmsgs⟩ := hgone (hperm.mem_iff.2 hmem)
      have herase := hperm.erase a
      have hempty : order.erase a = [] ↔ reg.erase a = [] := by
        rw [← List.length_eq_zero_iff, ← List.length_eq_zero_iff, herase.length_eq]
      rw [if_pos hmem, hmsgs]
      refine ⟨⟨order', hperm'.trans herase, hpacked⟩, ?_, fun heq => ?_⟩
      · simp only [hempty]
        split_ifs <;> rfl
      · exact absurd (heq ▸ hmem) hreg.not_mem_erase
    · have heq := hnone fun h => hmem (hperm.mem_iff.1 h)
      rw [if_neg hmem, List.erase_of_not_mem hmem, List.append_nil, heq]
      exact ⟨⟨order, hperm, h⟩, rfl, fun _ => rfl⟩

theorem registered_concat (before : List (RegistryCall α)) (call : RegistryCall α) :
    registered (before ++ [call]) = call.register (registered before) := by
  unfold registered
  rw [List.foldl_append]
  rfl

theorem runCalls_concat (before : List (RegistryCall α)) (call : RegistryCall α) :
    runCalls (before ++ [call]) = call.step (runCalls before) := by
  unfold runCalls
  rw [List.foldl_append]
  rfl

/-- After any calls the array is packed. -/
theorem packed_runCalls
    (hroom : ∀ before, before <+: calls → (registered before).length ≤ MAX_ADAPTERS) :
    ∃ order, order.Perm (registered calls) ∧ (runCalls calls).Packed order := by
  induction calls using List.reverseRecOn with
  | nil => exact ⟨[], List.Perm.refl _, LocApiBase.packed_init⟩
  | append_singleton calls call ih =>
    obtain ⟨order, hperm, hpacked⟩ := ih fun before h => hroom before (h.trans (List.prefix_append _ _))
    have hfull := hroom _ (List.prefix_refl _)
    rw [registered_concat] at hfull ⊢
    rw [runCalls_concat]
    exact (step_spec (nodup_registered calls) hperm hpacked hfull).1

omit [DecidableEq α] in
/-- The mask of the registered adapters, in any order. -/
theorem getEvtMask_of_packed (h : s.Packed order) (hperm : order.Perm reg) (evtMask : α → BitVec 64)
    (mExcludedMask : BitVec 64) : s.getEvtMask evtMask mExcludedMask =
      reg.foldr (fun adapter mask => evtMask adapter ||| mask) 0 &&& ~~~mExcludedMask := by
  have hfold (order : List α) (mask : BitVec 64) :
      (order.map some).foldl (fun mask adapter => mask ||| (adapter.map evtMask).getD 0) mask =
        mask ||| order.foldr (fun adapter mask => evtMask adapter ||| mask) 0 := by
    induction order generalizing mask with
    | nil => exact BitVec.or_zero.symm
    | cons a order ih =>
      rw [List.map_cons, List.foldl_cons, List.foldr_cons, ih, BitVec.or_assoc]
      rfl
  have hzero (mask : BitVec 64) : 0 ||| mask = mask := BitVec.zero_or
  unfold LocApiBase.getEvtMask
  dsimp only
  rw [h.takeWhile_eq, hfold, hzero]
  congr 1
  refine hperm.foldr_eq' (fun a _ b _ mask => ?_) 0
  rw [← BitVec.or_assoc, ← BitVec.or_assoc, BitVec.or_comm (evtMask a)]

/-- **The registry.**  As long as there are never more adapters than slots, every call leaves them
packed and sends what it should. -/
theorem registry_run (calls : List (RegistryCall α))
    (hroom : ∀ before, before <+: calls → (registered before).length ≤ MAX_ADAPTERS) :
    ∀ before call, before ++ [call] <+: calls → Registry before call := by
  intro before call hcall
  have hbefore := (List.prefix_append before [call]).trans hcall
  obtain ⟨order, hperm, hpacked⟩ := packed_runCalls fun b h => hroom b (h.trans hbefore)
  have hfull := hroom _ hcall
  rw [registered_concat] at hfull
  obtain ⟨⟨order', hperm', hpacked'⟩, hmsgs, hidle⟩ :=
    step_spec (nodup_registered before) hperm hpacked hfull
  rw [← registered_concat] at hperm'
  rw [← runCalls_concat] at hpacked' hmsgs hidle
  exact ⟨⟨order', hperm'.nodup_iff.2 (nodup_registered _), hperm', hpacked'⟩, hmsgs, hidle,
    fun evtMask mExcludedMask => getEvtMask_of_packed hpacked' hperm' evtMask mExcludedMask⟩

/-- Two adapters are added, one of them twice; the first one is removed, and then the other. -/
theorem registry_run_two :
    let calls : List (RegistryCall ℕ) := [.addAdapter 1, .addAdapter 2, .addAdapter 1,
      .removeAdapter 1, .removeAdapter 2]
    (runCalls (calls.take 4)).mLocAdapters.take 3 = [some 2, none, none] ∧
    (runCalls calls).msgs = [.LocOpenMsg (some 1), .LocOpenMsg (some 2), .LocOpenMsg none,
      .LocCloseMsg] ∧
    Registry (calls.take 4) (.removeAdapter 2) := by
  intro calls
  have hroom : ∀ before ∈ calls.inits, (registered before).length ≤ MAX_ADAPTERS := by decide
  refine ⟨by decide, by decide, ?_⟩
  exact registry_run calls (fun before h => hroom before ((List.mem_inits _ _).2 h)) _ _
    (List.prefix_refl _)

end

end GpsHal
