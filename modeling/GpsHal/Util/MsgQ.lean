import GpsHal.Transition.Basic
import GpsHal.Util.LinkedList
import Mathlib.Data.List.Perm.Basic

/-!
# Message queues

The queue of `utils/msg_q.c`: a list behind a mutex, with a condition variable on which receivers
wait for data.  Each critical section is one step.  A receiver that waits releases the mutex, and
goes on in a later step, once it has been woken.

Handles, and pointers for results, are never `NULL` here.

## Main definitions

* `MsgQ` : the queue, its waiting threads, what calls have returned and which deallocators were called.
* `msg_q_snd`, `msg_q_rcv`, `msg_q_rmv`, `msg_q_flush`, `msg_q_unblock`.
* `MsgQ.step` : the steps, labelled by `MsgQEvent`.
* `Fifo` : a sequence of messages, and what became of those that have left it.

## Main results

* `MsgQ.msg_q_delivery` : the queue refines a sequence, and nobody sleeps for nothing.
-/

namespace GpsHal

/-- The last one is `eLINKED_LIST_EMPTY`, which `msg_q_rmv` returns as it is. -/
inductive msq_q_err_type where
  | SUCCESS
  | FAILURE_GENERAL
  | INVALID_PARAMETER
  | INVALID_HANDLE
  | UNAVAILABLE_RESOURCE
  | INSUFFICIENT_BUFFER
  | EMPTY
  deriving DecidableEq, Repr

def convert_linked_list_err_type : linked_list_err_type → msq_q_err_type
  | .SUCCESS => .SUCCESS
  | .INVALID_PARAMETER => .INVALID_PARAMETER
  | .INVALID_HANDLE => .INVALID_HANDLE
  | .UNAVAILABLE_RESOURCE => .UNAVAILABLE_RESOURCE
  | .INSUFFICIENT_BUFFER => .INSUFFICIENT_BUFFER
  | .FAILURE_GENERAL | .EMPTY => .FAILURE_GENERAL

/-- A call that has returned, with its result. -/
inductive MsgQReturn (T M D : Type) where
  | snd (t : T) (msg_obj : Option M) (dealloc : Option D) (rv : msq_q_err_type)
  | rcv (t : T) (rv : msq_q_err_type) (msg_obj : Option M)
  | rmv (t : T) (rv : msq_q_err_type) (msg_obj : Option M)
  | flush (t : T) (rv : msq_q_err_type)
  | unblock (t : T) (rv : msq_q_err_type)
  deriving DecidableEq, Repr

structure MsgQ (T M D : Type) where
  msg_list : LinkedList M D
  unblocked : Bool
  /-- The receivers that sleep on the condition variable. -/
  waiting : List T
  /-- The receivers that have been woken and want the mutex again. -/
  woken : List T
  returns : List (MsgQReturn T M D)
  deallocs : List (D × M)

inductive MsgQEvent (T M D : Type) where
  /-- A call with the result of the allocation and the receiver that is signalled. -/
  | snd (t : T) (msg_obj : Option M) (dealloc : Option D) (malloc : Option Ptr)
    (signalled : Option T)
  | rcv (t : T)
  | rmv (t : T)
  | flush (t : T)
  | unblock (t : T)
  /-- A receiver wakes up by itself. -/
  | spurious (t : T)
  /-- A receiver that was woken has the mutex again. -/
  | resume (t : T)

namespace MsgQ

variable {T M D : Type} [DecidableEq T]

def init : MsgQ T M D := ⟨linked_list_init, false, [], [], [], []⟩

/-- The call returns. -/
def ret (s : MsgQ T M D) (r : MsgQReturn T M D) : MsgQ T M D :=
  { s with
    returns := s.returns ++ [r] }

def setList (s : MsgQ T M D) (msg_list : LinkedList M D) : MsgQ T M D :=
  { s with
    msg_list := msg_list }

/-- The receiver is woken. -/
def wake (s : MsgQ T M D) (t : T) : MsgQ T M D :=
  { s with
    waiting := s.waiting.erase t
    woken := s.woken ++ [t] }

/-- `pthread_cond_signal` wakes one receiver, if any waits. -/
def signal (s : MsgQ T M D) (signalled : Option T) : Option (MsgQ T M D) :=
  match signalled with
  | none => if s.waiting = [] then some s else none
  | some t => if t ∈ s.waiting then some (s.wake t) else none

/-- `msg_q_snd` -/
def msg_q_snd (s : MsgQ T M D) (t : T) (msg_obj : Option M) (dealloc : Option D)
    (malloc : Option Ptr) (signalled : Option T) : Option (MsgQ T M D) :=
  match msg_obj with
  | none => some (s.ret (.snd t none dealloc .INVALID_PARAMETER))
  | some msg =>
    if s.unblocked then some (s.ret (.snd t (some msg) dealloc .UNAVAILABLE_RESOURCE))
    else do
      let (msg_list, rv) ← linked_list_add s.msg_list malloc (some msg) dealloc
      let s ← (s.setList msg_list).signal signalled
      some (s.ret (.snd t (some msg) dealloc (convert_linked_list_err_type rv)))

/-- The loop of `msg_q_rcv` and what follows it, up to the next wait. -/
def rcvLoop (s : MsgQ T M D) (t : T) : Option (MsgQ T M D) :=
  if linked_list_empty s.msg_list && !s.unblocked then
    some { s with
      waiting := s.waiting ++ [t] }
  else do
    let (msg_list, rv, msg_obj) ← linked_list_remove s.msg_list
    some ((s.setList msg_list).ret (.rcv t (convert_linked_list_err_type rv) msg_obj))

/-- `msg_q_rcv` -/
def msg_q_rcv (s : MsgQ T M D) (t : T) : Option (MsgQ T M D) :=
  if s.unblocked then some (s.ret (.rcv t .UNAVAILABLE_RESOURCE none)) else s.rcvLoop t

/-- `msg_q_rmv` -/
def msg_q_rmv (s : MsgQ T M D) (t : T) : Option (MsgQ T M D) :=
  if s.unblocked then some (s.ret (.rmv t .UNAVAILABLE_RESOURCE none))
  else if linked_list_empty s.msg_list then some (s.ret (.rmv t .EMPTY none))
  else do
    let (msg_list, rv, msg_obj) ← linked_list_remove s.msg_list
    some ((s.setList msg_list).ret (.rmv t (convert_linked_list_err_type rv) msg_obj))

/-- `msg_q_flush` -/
def msg_q_flush (s : MsgQ T M D) (t : T) : Option (MsgQ T M D) := do
  let (msg_list, rv, calls) ← linked_list_flush s.msg_list
  let s : MsgQ T M D := { s with
    msg_list := msg_list
    deallocs := s.deallocs ++ calls }
  some (s.ret (.flush t (convert_linked_list_err_type rv)))

/-- `msg_q_unblock` wakes every receiver. -/
def msg_q_unblock (s : MsgQ T M D) (t : T) : MsgQ T M D :=
  if s.unblocked then s.ret (.unblock t .UNAVAILABLE_RESOURCE)
  else
    let s : MsgQ T M D := { s with
      unblocked := true
      waiting := []
      woken := s.woken ++ s.waiting }
    s.ret (.unblock t .SUCCESS)

/-- The thread is not inside `msg_q_rcv`. -/
def Idle (s : MsgQ T M D) (t : T) : Prop := t ∉ s.waiting ∧ t ∉ s.woken

instance (s : MsgQ T M D) (t : T) : Decidable (s.Idle t) := inferInstanceAs (Decidable (_ ∧ _))

/-- An allocation gives memory that is not in use. -/
def Fresh (s : MsgQ T M D) (malloc : Option Ptr) : Prop :=
  ∀ a ∈ malloc, (s.msg_list.heap.find a).isNone

instance (s : MsgQ T M D) (malloc : Option Ptr) : Decidable (s.Fresh malloc) :=
  match malloc with
  | none => .isTrue fun _ h => by cases h
  | some a =>
    if h : (s.msg_list.heap.find a).isNone then .isTrue fun _ ha => by cases ha; exact h
    else .isFalse fun hf => h (hf a rfl)

def step (s : MsgQ T M D) : MsgQEvent T M D → Option (MsgQ T M D)
  | .snd t msg_obj dealloc malloc signalled =>
    if s.Idle t ∧ s.Fresh malloc then s.msg_q_snd t msg_obj dealloc malloc signalled else none
  | .rcv t => if s.Idle t then s.msg_q_rcv t else none
  | .rmv t => if s.Idle t then s.msg_q_rmv t else none
  | .flush t => if s.Idle t then s.msg_q_flush t else none
  | .unblock t => if s.Idle t then some (s.msg_q_unblock t) else none
  | .spurious t => if t ∈ s.waiting then some (s.wake t) else none
  | .resume t =>
    if t ∈ s.woken then
      rcvLoop { s with
        woken := s.woken.erase t } t
    else none

/-- The runs of the queue from a state. -/
def system (s : MsgQ T M D) : System (MsgQ T M D) (MsgQEvent T M D) := System.ofPartial s step

end MsgQ

/-! ### Sequences of messages -/

/-- What became of a message. -/
inductive Fate (T : Type) where
  | received (t : T)
  | flushed
  deriving DecidableEq, Repr

/-- A sequence of messages: those that have left it, in the order in which they were sent, and those
that are in it. -/
structure Fifo (T X : Type) where
  gone : List (X × Fate T)
  queue : List X

namespace Fifo

variable {T X : Type}

def empty : Fifo T X := ⟨[], []⟩

/-- The messages that were ever put into the sequence. -/
def sent (f : Fifo T X) : List X := f.gone.map Prod.fst ++ f.queue

def push (f : Fifo T X) (x : X) : Fifo T X := ⟨f.gone, f.queue ++ [x]⟩

/-- The first message is received. -/
def take (f : Fifo T X) (t : T) : Fifo T X :=
  ⟨f.gone ++ (f.queue.take 1).map (·, .received t), f.queue.drop 1⟩

/-- All messages are removed. -/
def flush (f : Fifo T X) : Fifo T X := ⟨f.gone ++ f.queue.map (·, .flushed), []⟩

theorem map_fst_mark (l : List X) (fate : Fate T) : (l.map (·, fate)).map Prod.fst = l := by
  rw [List.map_map]
  exact List.map_id'' (fun _ => rfl) l

theorem sent_push (f : Fifo T X) (x : X) : (f.push x).sent = f.sent ++ [x] :=
  (List.append_assoc _ _ _).symm

theorem sent_take (f : Fifo T X) (t : T) : (f.take t).sent = f.sent := by
  simp only [sent, take]
  rw [List.map_append, map_fst_mark, List.append_assoc, List.take_append_drop]

theorem sent_flush (f : Fifo T X) : f.flush.sent = f.sent := by
  simp only [sent, flush]
  rw [List.map_append, map_fst_mark, List.append_nil]

end Fifo

namespace MsgQReturn

variable {T M D : Type}

/-- The message of a call that has put one into the queue. -/
def sent : MsgQReturn T M D → Option (M × Option D)
  | .snd _ (some msg) dealloc .SUCCESS => some (msg, dealloc)
  | _ => none

/-- The message that a call has got out of the queue. -/
def received : MsgQReturn T M D → Option (T × M)
  | .rcv t .SUCCESS (some msg) | .rmv t .SUCCESS (some msg) => some (t, msg)
  | _ => none

end MsgQReturn

namespace MsgQ

variable {T M D : Type}

/-- The message of a fate as it was received. -/
def receivedBy : (M × Option D) × Fate T → Option (T × M)
  | (x, .received t) => some (t, x.1)
  | (_, .flushed) => none

/-- The call of a deallocator for a message that was flushed. -/
def deallocOf : (M × Option D) × Fate T → List (D × M)
  | (_, .received _) => []
  | (x, .flushed) => deallocCall x.1 x.2

/-- The queue stands for a sequence: the list is linked through its messages, newest first, calls
have received just those that were received, and deallocators were called for just those that were
flushed. -/
structure Refines (s : MsgQ T M D) (f : Fifo T (M × Option D)) : Prop where
  lists : s.msg_list.Lists f.queue.reverse
  sent : s.returns.filterMap MsgQReturn.sent = f.sent
  received : s.returns.filterMap MsgQReturn.received = f.gone.filterMap receivedBy
  dealloced : s.deallocs.Perm (f.gone.flatMap deallocOf)

/-- While a receiver sleeps, the queue is in use and there is a woken receiver for each message. -/
def Awake (s : MsgQ T M D) (f : Fifo T (M × Option D)) : Prop :=
  s.waiting ≠ [] → s.unblocked = false ∧ f.queue.length ≤ s.woken.length

variable {s s' : MsgQ T M D} {f : Fifo T (M × Option D)} {L : LinkedList M D} {t : T}
  {r : MsgQReturn T M D} {x : M × Option D} {q : List (M × Option D)}

/-! ### The list of a queue -/

theorem lists_init : (linked_list_init : LinkedList M D).Lists [] :=
  ⟨[], LinkedList.represents_init, rfl⟩

theorem lists_empty_iff (h : L.Lists q.reverse) : linked_list_empty L = true ↔ q = [] := by
  obtain ⟨cells, hr, heq⟩ := h
  rw [hr.empty_iff, ← List.map_eq_nil_iff (f := Prod.snd), heq, List.reverse_eq_nil_iff]

theorem lists_add (h : L.Lists q.reverse) {a : Ptr} (ha : L.heap.find a = none) :
    ∃ L', linked_list_add L (some a) (some x.1) x.2 = some (L', .SUCCESS) ∧
      L'.Lists (q ++ [x]).reverse := by
  obtain ⟨cells, hr, heq⟩ := h
  obtain ⟨L', hadd, hr'⟩ := LinkedList.represents_add hr ha x.1 x.2
  refine ⟨L', hadd, _, hr', ?_⟩
  rw [List.map_cons, heq, List.reverse_append]
  rfl

theorem lists_remove (h : L.Lists (x :: q).reverse) :
    ∃ L', linked_list_remove L = some (L', .SUCCESS, some x.1) ∧ L'.Lists q.reverse := by
  obtain ⟨cells, hr, heq⟩ := h
  rw [List.reverse_cons, List.map_eq_append_iff] at heq
  obtain ⟨l, l', rfl, hl, hl'⟩ := heq
  obtain ⟨c, rfl, rfl⟩ := List.map_eq_singleton_iff.mp hl'
  obtain ⟨L', hremove, hr'⟩ := LinkedList.represents_remove hr
  exact ⟨L', hremove, l, hr', hl⟩

theorem lists_remove_nil (h : L.Lists ([] : List (M × Option D)).reverse) :
    linked_list_remove L = some (L, .UNAVAILABLE_RESOURCE, none) := by
  obtain ⟨cells, hr, heq⟩ := h
  obtain rfl := List.map_eq_nil_iff.mp heq
  exact LinkedList.represents_remove_nil hr

theorem lists_flush (h : L.Lists q.reverse) :
    ∃ L', linked_list_flush L = some (L', .SUCCESS, LinkedList.deallocCalls q.reverse) ∧
      L'.Lists ([] : List (M × Option D)).reverse := by
  obtain ⟨cells, hr, heq⟩ := h
  obtain ⟨L', hflush, hr'⟩ := LinkedList.represents_flush hr
  rw [heq] at hflush
  exact ⟨L', hflush, [], hr', rfl⟩

/-! ### What the steps do to the sequence -/

/-- The sequence does not depend on who waits. -/
theorem Refines.congr (hr : s.Refines f) (hl : s'.msg_list = s.msg_list)
    (hret : s'.returns = s.returns) (hde : s'.deallocs = s.deallocs) : s'.Refines f :=
  ⟨hl ▸ hr.lists, hret ▸ hr.sent, hret ▸ hr.received, hde ▸ hr.dealloced⟩

/-- A call that neither puts a message into the queue nor gets one out of it. -/
theorem Refines.ret (hr : s.Refines f) (hs : r.sent = none) (hc : r.received = none) :
    (s.ret r).Refines f := by
  refine ⟨hr.lists, ?_, ?_, hr.dealloced⟩
  · show (s.returns ++ [r]).filterMap _ = _
    rw [List.filterMap_append, hr.sent, List.filterMap_cons_none hs]
    exact List.append_nil _
  · show (s.returns ++ [r]).filterMap _ = _
    rw [List.filterMap_append, hr.received, List.filterMap_cons_none hc]
    exact List.append_nil _

theorem Refines.push (hr : s.Refines f) (hL : s'.msg_list.Lists (f.queue ++ [x]).reverse)
    (hret : s'.returns = s.returns) (hde : s'.deallocs = s.deallocs) (hs : r.sent = some x)
    (hc : r.received = none) : (s'.ret r).Refines (f.push x) := by
  refine ⟨hL, ?_, ?_, ?_⟩
  · show (s'.returns ++ [r]).filterMap _ = _
    rw [hret, List.filterMap_append, hr.sent, List.filterMap_cons_some hs, f.sent_push]
    rfl
  · show (s'.returns ++ [r]).filterMap _ = _
    rw [hret, List.filterMap_append, hr.received, List.filterMap_cons_none hc]
    exact List.append_nil _
  · show s'.deallocs.Perm _
    rw [hde]
    exact hr.dealloced

theorem Refines.take (hr : s.Refines f) (hq : f.queue = x :: q) (hL : L.Lists q.reverse)
    (hs : r.sent = none) (hc : r.received = some (t, x.1)) :
    ((s.setList L).ret r).Refines (f.take t) := by
  have hgone : (f.take t).gone = f.gone ++ [(x, .received t)] := by
    unfold Fifo.take
    rw [hq]
    rfl
  refine ⟨?_, ?_, ?_, ?_⟩
  · show L.Lists (f.queue.drop 1).reverse
    rw [hq]
    exact hL
  · show (s.returns ++ [r]).filterMap _ = _
    rw [List.filterMap_append, hr.sent, List.filterMap_cons_none hs, f.sent_take]
    exact List.append_nil _
  · show (s.returns ++ [r]).filterMap _ = _
    rw [List.filterMap_append, hr.received, List.filterMap_cons_some hc, hgone,
      List.filterMap_append]
    rfl
  · show s.deallocs.Perm _
    rw [hgone, List.flatMap_append]
    exact hr.dealloced.trans (by simp [deallocOf])

/-- A flush calls the deallocators from the newest message to the oldest. -/
theorem Refines.flush (hr : s.Refines f) (hL : s'.msg_list.Lists ([] : List (M × Option D)).reverse)
    (hret : s'.returns = s.returns)
    (hde : s'.deallocs = s.deallocs ++ LinkedList.deallocCalls f.queue.reverse)
    (hs : r.sent = none) (hc : r.received = none) : (s'.ret r).Refines f.flush := by
  refine ⟨hL, ?_, ?_, ?_⟩
  · show (s'.returns ++ [r]).filterMap _ = _
    rw [hret, List.filterMap_append, hr.sent, List.filterMap_cons_none hs, f.sent_flush]
    exact List.append_nil _
  · have hnone : (f.queue.map fun x => (x, (Fate.flushed : Fate T))).filterMap receivedBy = [] := by
      rw [List.filterMap_map]
      exact List.filterMap_eq_nil_iff.mpr fun _ _ => rfl
    show (s'.returns ++ [r]).filterMap _ = _
    rw [hret, List.filterMap_append, hr.received, List.filterMap_cons_none hc]
    show _ = (f.gone ++ f.queue.map fun x => (x, Fate.flushed)).filterMap receivedBy
    rw [List.filterMap_append, hnone]
    rfl
  · have hcalls : (f.queue.map fun x => (x, (Fate.flushed : Fate T))).flatMap deallocOf =
        LinkedList.deallocCalls f.queue := by
      rw [List.flatMap_map]
      rfl
    show s'.deallocs.Perm ((f.gone ++ f.queue.map fun x => (x, Fate.flushed)).flatMap deallocOf)
    rw [hde, List.flatMap_append, hcalls]
    exact hr.dealloced.append ((List.reverse_perm _).flatMap_right _)

/-! ### Steps -/

/-- The queue stands for a sequence, and nobody sleeps for nothing. -/
structure Good (s : MsgQ T M D) (f : Fifo T (M × Option D)) : Prop where
  refines : s.Refines f
  awake : s.Awake f

theorem good_init : Good (init : MsgQ T M D) Fifo.empty :=
  ⟨⟨lists_init, rfl, rfl, .nil⟩, fun h => absurd rfl h⟩

/-- A receiver takes the first message, or waits if there is none. -/
theorem refines_rcvLoop (hr : s.Refines f) (t : T) :
    ∃ s' f', s.rcvLoop t = some s' ∧ s'.Refines f' ∧ s'.unblocked = s.unblocked ∧
      s'.woken = s.woken ∧ f'.queue = f.queue.drop 1 ∧
      (s'.waiting = s.waiting ∨ s.unblocked = false ∧ f'.queue = []) := by
  unfold rcvLoop
  cases hq : f.queue with
  | nil =>
    rw [(lists_empty_iff hr.lists).mpr hq]
    cases hunb : s.unblocked with
    | false =>
      exact ⟨_, f, rfl, hr.congr rfl rfl rfl, rfl, rfl, hq, .inr ⟨rfl, hq⟩⟩
    | true =>
      have hremove := lists_remove_nil (hq ▸ hr.lists)
      refine ⟨s.ret (.rcv t .UNAVAILABLE_RESOURCE none), f, ?_, hr.ret rfl rfl, hunb, rfl, hq,
        .inl rfl⟩
      simp only [Bool.not_true, Bool.and_false, Bool.false_eq_true, if_false, hremove,
        Option.bind_eq_bind, Option.bind_some]
      rfl
  | cons x q =>
    have hne : linked_list_empty s.msg_list = false := by
      rw [← Bool.not_eq_true, lists_empty_iff hr.lists, hq]
      exact List.cons_ne_nil _ _
    obtain ⟨L, hremove, hL⟩ := lists_remove (hq ▸ hr.lists)
    refine ⟨(s.setList L).ret (.rcv t .SUCCESS (some x.1)), f.take t, ?_,
      hr.take hq hL rfl rfl, rfl, rfl, ?_, .inl rfl⟩
    · simp only [hne, Bool.false_and, Bool.false_eq_true, if_false, hremove, Option.bind_eq_bind,
        Option.bind_some]
      rfl
    · show f.queue.drop 1 = _
      rw [hq]

theorem good_rcv (hg : s.Good f) : ∃ s' f', s.msg_q_rcv t = some s' ∧ s'.Good f' := by
  obtain ⟨hr, ha⟩ := hg
  unfold msg_q_rcv
  cases hunb : s.unblocked with
  | true => exact ⟨_, f, rfl, hr.ret rfl rfl, ha⟩
  | false =>
    obtain ⟨s', f', hloop, hr', hunb', hwoken, hq, hw⟩ := refines_rcvLoop hr t
    refine ⟨s', f', hloop, hr', fun hne => ⟨hunb'.trans hunb, ?_⟩⟩
    rw [hwoken]
    rcases hw with hw | ⟨-, hnil⟩
    · have hle := (ha (hw ▸ hne)).2
      rw [hq, List.length_drop]
      omega
    · rw [hnil]
      exact Nat.zero_le _

theorem good_rmv (hg : s.Good f) : ∃ s' f', s.msg_q_rmv t = some s' ∧ s'.Good f' := by
  obtain ⟨hr, ha⟩ := hg
  unfold msg_q_rmv
  cases hunb : s.unblocked with
  | true => exact ⟨_, f, rfl, hr.ret rfl rfl, ha⟩
  | false =>
    cases hq : f.queue with
    | nil =>
      rw [(lists_empty_iff hr.lists).mpr hq]
      exact ⟨_, f, rfl, hr.ret rfl rfl, ha⟩
    | cons x q =>
      have hne : linked_list_empty s.msg_list = false := by
        rw [← Bool.not_eq_true, lists_empty_iff hr.lists, hq]
        exact List.cons_ne_nil _ _
      obtain ⟨L, hremove, hL⟩ := lists_remove (hq ▸ hr.lists)
      refine ⟨(s.setList L).ret (.rmv t .SUCCESS (some x.1)), f.take t, ?_,
        hr.take hq hL rfl rfl, fun hw => ⟨hunb, ?_⟩⟩
      · simp only [hne, Bool.false_eq_true, if_false, hremove, Option.bind_eq_bind,
          Option.bind_some]
        rfl
      · have hle := (ha hw).2
        show (f.queue.drop 1).length ≤ s.woken.length
        rw [List.length_drop]
        omega

theorem good_flush (hg : s.Good f) : ∃ s' f', s.msg_q_flush t = some s' ∧ s'.Good f' := by
  obtain ⟨hr, ha⟩ := hg
  obtain ⟨L, hflush, hL⟩ := lists_flush hr.lists
  let s₁ : MsgQ T M D := { s with
    msg_list := L
    deallocs := s.deallocs ++ LinkedList.deallocCalls f.queue.reverse }
  have hr₁ : (s₁.ret (.flush t .SUCCESS)).Refines f.flush :=
    hr.flush hL rfl rfl rfl rfl
  refine ⟨s₁.ret (.flush t .SUCCESS), f.flush, ?_, hr₁, fun hw => ⟨(ha hw).1, Nat.zero_le _⟩⟩
  simp only [msg_q_flush, hflush, Option.bind_eq_bind, Option.bind_some]
  rfl

theorem good_unblock (hg : s.Good f) : (s.msg_q_unblock t).Good f := by
  obtain ⟨hr, ha⟩ := hg
  unfold msg_q_unblock
  split
  · exact ⟨hr.ret rfl rfl, ha⟩
  · have hr₁ : Refines { s with
        unblocked := true
        waiting := []
        woken := s.woken ++ s.waiting } f := hr.congr rfl rfl rfl
    exact ⟨hr₁.ret rfl rfl, fun hw => absurd rfl hw⟩

/-- The signal of a call wakes one of the receivers that wait. -/
def CanSignal (s : MsgQ T M D) : Option T → Prop
  | none => s.waiting = []
  | some t => t ∈ s.waiting

theorem canSignal_setList {signalled : Option T} :
    (s.setList L).CanSignal signalled ↔ s.CanSignal signalled := by
  cases signalled with
  | none => exact Iff.rfl
  | some t => exact Iff.rfl

theorem unblocked_rcvLoop (hunb : s.unblocked = true) (h : s.rcvLoop t = some s') :
    s'.unblocked = true := by
  simp only [rcvLoop, hunb, Bool.not_true, Bool.and_false, Bool.false_eq_true, if_false,
    Option.bind_eq_bind] at h
  obtain ⟨x, -, hx⟩ := Option.bind_eq_some_iff.mp h
  obtain rfl := Option.some.inj hx
  exact hunb

section

variable [DecidableEq T]

/-- The event can happen: a call is made by a thread that is not in another one, an allocation gives
memory that is not in use, and only a thread that sleeps or has been woken goes on. -/
def Enabled (s : MsgQ T M D) : MsgQEvent T M D → Prop
  | .snd t msg_obj _ malloc signalled => s.Idle t ∧ s.Fresh malloc ∧
    (msg_obj ≠ none → s.unblocked = false → s.CanSignal signalled)
  | .rcv t | .rmv t | .flush t | .unblock t => s.Idle t
  | .spurious t => t ∈ s.waiting
  | .resume t => t ∈ s.woken

theorem signal_eq {signalled : Option T} (h : s.CanSignal signalled) :
    ∃ s', s.signal signalled = some s' ∧ s'.msg_list = s.msg_list ∧ s'.returns = s.returns ∧
      s'.deallocs = s.deallocs ∧ s'.unblocked = s.unblocked ∧
      (s'.waiting ≠ [] → s.waiting ≠ [] ∧ s'.woken.length = s.woken.length + 1) := by
  cases signalled with
  | none => exact ⟨s, if_pos h, rfl, rfl, rfl, rfl, fun hne => absurd h hne⟩
  | some t =>
    refine ⟨s.wake t, if_pos h, rfl, rfl, rfl, rfl, fun _ => ⟨?_, ?_⟩⟩
    · exact List.ne_nil_of_mem h
    · exact List.length_append

theorem signal_isSome {signalled : Option T} (h : s.signal signalled = some s') :
    s.CanSignal signalled := by
  cases signalled with
  | none => exact (Option.ite_none_right_eq_some.mp h).1
  | some t => exact (Option.ite_none_right_eq_some.mp h).1

/-- Only events that can happen are steps. -/
theorem enabled_of_step {e : MsgQEvent T M D} (h : s.step e = some s') : s.Enabled e := by
  cases e with
  | snd t msg_obj dealloc malloc signalled =>
    obtain ⟨⟨hidle, hfresh⟩, hsnd⟩ := Option.ite_none_right_eq_some.mp h
    refine ⟨hidle, hfresh, fun hmsg hunb => ?_⟩
    obtain ⟨msg, rfl⟩ := Option.ne_none_iff_exists'.mp hmsg
    simp only [msg_q_snd, hunb, Bool.false_eq_true, if_false, Option.bind_eq_bind] at hsnd
    obtain ⟨⟨L, rv⟩, -, hsnd⟩ := Option.bind_eq_some_iff.mp hsnd
    obtain ⟨s₁, hsig, -⟩ := Option.bind_eq_some_iff.mp hsnd
    exact canSignal_setList.mp (signal_isSome hsig)
  | rcv t => exact (Option.ite_none_right_eq_some.mp h).1
  | rmv t => exact (Option.ite_none_right_eq_some.mp h).1
  | flush t => exact (Option.ite_none_right_eq_some.mp h).1
  | unblock t => exact (Option.ite_none_right_eq_some.mp h).1
  | spurious t => exact (Option.ite_none_right_eq_some.mp h).1
  | resume t => exact (Option.ite_none_right_eq_some.mp h).1

theorem good_snd (hg : s.Good f) {msg_obj : Option M} {dealloc : Option D} {malloc : Option Ptr}
    {signalled : Option T} (hfresh : s.Fresh malloc)
    (hcan : msg_obj ≠ none → s.unblocked = false → s.CanSignal signalled) :
    ∃ s' f', s.msg_q_snd t msg_obj dealloc malloc signalled = some s' ∧ s'.Good f' := by
  obtain ⟨hr, ha⟩ := hg
  cases msg_obj with
  | none => exact ⟨_, f, rfl, hr.ret rfl rfl, ha⟩
  | some msg =>
    simp only [msg_q_snd]
    cases hunb : s.unblocked with
    | true => exact ⟨_, f, rfl, hr.ret rfl rfl, ha⟩
    | false =>
      obtain ⟨s₁, hsig, hl, hret, hde, hunb₁, hwoken⟩ := signal_eq (hcan (Option.some_ne_none _) hunb)
      cases malloc with
      | none =>
        -- nothing has been added, but a receiver is signalled all the same
        refine ⟨s₁.ret (.snd t (some msg) dealloc .FAILURE_GENERAL), f, ?_,
          (hr.congr hl hret hde).ret rfl rfl, fun hw => ?_⟩
        · simp only [Bool.false_eq_true, if_false, linked_list_add, Option.bind_eq_bind,
            Option.bind_some]
          rw [show (s.setList s.msg_list).signal signalled = some s₁ from hsig]
          rfl
        · obtain ⟨hne, hlen⟩ := hwoken hw
          have hle := (ha hne).2
          exact ⟨hunb₁.trans hunb, by
            show f.queue.length ≤ s₁.woken.length
            omega⟩
      | some a =>
        obtain ⟨L, hadd, hL⟩ := lists_add (x := (msg, dealloc)) hr.lists
          (Option.isNone_iff_eq_none.mp (hfresh a rfl))
        obtain ⟨s₂, hsig₂, hl₂, hret₂, hde₂, hunb₂, hwoken₂⟩ :=
          signal_eq (canSignal_setList.mpr (hcan (Option.some_ne_none _) hunb))
        refine ⟨s₂.ret (.snd t (some msg) dealloc .SUCCESS), f.push (msg, dealloc), ?_,
          hr.push (hl₂ ▸ hL) hret₂ hde₂ rfl rfl, fun hw => ?_⟩
        · simp only [Bool.false_eq_true, if_false, hadd, Option.bind_eq_bind, Option.bind_some,
            hsig₂]
          rfl
        · obtain ⟨hne, hlen⟩ := hwoken₂ hw
          have hle := (ha hne).2
          refine ⟨hunb₂.trans hunb, ?_⟩
          show (f.queue ++ [(msg, dealloc)]).length ≤ s₂.woken.length
          rw [List.length_append, hlen]
          exact Nat.add_le_add_right hle 1

theorem good_resume (hg : s.Good f) (ht : t ∈ s.woken) :
    ∃ s' f', s.step (.resume t) = some s' ∧ s'.Good f' := by
  obtain ⟨hr, ha⟩ := hg
  have hr₀ : Refines { s with
      woken := s.woken.erase t } f := hr.congr rfl rfl rfl
  obtain ⟨s', f', hloop, hr', hunb', hwoken, hq, hw⟩ := refines_rcvLoop hr₀ t
  refine ⟨s', f', (if_pos ht).trans hloop, hr', fun hne => ?_⟩
  have hlen : s'.woken.length = s.woken.length - 1 := by
    rw [hwoken]
    exact List.length_erase_of_mem ht
  rcases hw with hw | ⟨hunb, hnil⟩
  · obtain ⟨hunb, hle⟩ := ha (hw ▸ hne)
    refine ⟨hunb'.trans hunb, ?_⟩
    rw [hq, List.length_drop, hlen]
    omega
  · rw [hnil]
    exact ⟨hunb'.trans hunb, Nat.zero_le _⟩

theorem good_wake (hg : s.Good f) (ht : t ∈ s.waiting) : (s.wake t).Good f := by
  obtain ⟨hr, ha⟩ := hg
  refine ⟨hr.congr rfl rfl rfl, fun _ => ?_⟩
  obtain ⟨hunb, hle⟩ := ha (List.ne_nil_of_mem ht)
  refine ⟨hunb, ?_⟩
  show f.queue.length ≤ (s.woken ++ [t]).length
  rw [List.length_append]
  exact Nat.le_add_right_of_le hle

/-- Every event that can happen has a defined result. -/
theorem good_step (hg : s.Good f) {e : MsgQEvent T M D} (he : s.Enabled e) :
    ∃ s' f', s.step e = some s' ∧ s'.Good f' := by
  cases e with
  | snd t msg_obj dealloc malloc signalled =>
    obtain ⟨hidle, hfresh, hcan⟩ := he
    obtain ⟨s', f', hsnd, hg'⟩ := @good_snd T M D s f t _ hg msg_obj dealloc malloc signalled hfresh hcan
    exact ⟨s', f', (if_pos ⟨hidle, hfresh⟩).trans hsnd, hg'⟩
  | rcv t =>
    obtain ⟨s', f', hrcv, hg'⟩ := good_rcv (t := t) hg
    exact ⟨s', f', (if_pos he).trans hrcv, hg'⟩
  | rmv t =>
    obtain ⟨s', f', hrmv, hg'⟩ := good_rmv (t := t) hg
    exact ⟨s', f', (if_pos he).trans hrmv, hg'⟩
  | flush t =>
    obtain ⟨s', f', hflush, hg'⟩ := good_flush (t := t) hg
    exact ⟨s', f', (if_pos he).trans hflush, hg'⟩
  | unblock t => exact ⟨_, f, if_pos he, good_unblock hg⟩
  | spurious t => exact ⟨_, f, if_pos he, good_wake hg he⟩
  | resume t => exact good_resume hg he

theorem good_of_run {es : List (MsgQEvent T M D)} (h : (system init).Run System.Free es s) :
    ∃ f, s.Good f := by
  refine h.invariant (I := fun s => ∃ f, s.Good f) ⟨_, good_init⟩ ?_
  rintro s e s' ⟨f, hg⟩ - hst
  obtain ⟨s₁, f₁, hst₁, hg₁⟩ := good_step hg (enabled_of_step hst)
  obtain rfl := Option.some.inj (hst₁.symm.trans hst)
  exact ⟨f₁, hg₁⟩

/-! ### After the queue is unblocked -/

/-- What a call returns when the queue has been unblocked. -/
def refused : MsgQEvent T M D → Option (MsgQReturn T M D)
  | .snd t none dealloc _ _ => some (.snd t none dealloc .INVALID_PARAMETER)
  | .snd t (some msg) dealloc _ _ => some (.snd t (some msg) dealloc .UNAVAILABLE_RESOURCE)
  | .rcv t => some (.rcv t .UNAVAILABLE_RESOURCE none)
  | .rmv t => some (.rmv t .UNAVAILABLE_RESOURCE none)
  | .flush _ | .unblock _ | .spurious _ | .resume _ => none

/-- A call that the queue refuses has no other effect. -/
theorem step_refused {e : MsgQEvent T M D} (hunb : s.unblocked = true) (hst : s.step e = some s')
    (hr : refused e = some r) : s' = s.ret r := by
  cases e with
  | snd t msg_obj dealloc malloc signalled =>
    obtain ⟨-, hsnd⟩ := Option.ite_none_right_eq_some.mp hst
    cases msg_obj with
    | none =>
      obtain rfl := Option.some.inj hr
      exact (Option.some.inj hsnd).symm
    | some msg =>
      obtain rfl := Option.some.inj hr
      rw [msg_q_snd, if_pos hunb] at hsnd
      exact (Option.some.inj hsnd).symm
  | rcv t =>
    obtain ⟨-, hrcv⟩ := Option.ite_none_right_eq_some.mp hst
    obtain rfl := Option.some.inj hr
    rw [msg_q_rcv, if_pos hunb] at hrcv
    exact (Option.some.inj hrcv).symm
  | rmv t =>
    obtain ⟨-, hrmv⟩ := Option.ite_none_right_eq_some.mp hst
    obtain rfl := Option.some.inj hr
    rw [msg_q_rmv, if_pos hunb] at hrmv
    exact (Option.some.inj hrmv).symm
  | flush t => cases hr
  | unblock t => cases hr
  | spurious t => cases hr
  | resume t => cases hr

/-- The queue stays unblocked. -/
theorem unblocked_step {e : MsgQEvent T M D} (hunb : s.unblocked = true)
    (hst : s.step e = some s') : s'.unblocked = true := by
  cases hr : refused e with
  | some r =>
    rw [step_refused hunb hst hr]
    exact hunb
  | none =>
    cases e with
    | snd t msg_obj dealloc malloc signalled => cases msg_obj <;> cases hr
    | rcv t => cases hr
    | rmv t => cases hr
    | flush t =>
      obtain ⟨-, hflush⟩ := Option.ite_none_right_eq_some.mp hst
      obtain ⟨x, -, hx⟩ := Option.bind_eq_some_iff.mp hflush
      obtain rfl := Option.some.inj hx
      exact hunb
    | unblock t =>
      obtain ⟨-, h⟩ := Option.ite_none_right_eq_some.mp hst
      rw [msg_q_unblock, if_pos hunb] at h
      obtain rfl := Option.some.inj h
      exact hunb
    | spurious t =>
      obtain ⟨-, h⟩ := Option.ite_none_right_eq_some.mp hst
      obtain rfl := Option.some.inj h
      exact hunb
    | resume t =>
      obtain ⟨-, h⟩ := Option.ite_none_right_eq_some.mp hst
      exact unblocked_rcvLoop (s := { s with
        woken := s.woken.erase t }) hunb h

/-- In every run the queue stands for a sequence, in which every message that was sent either still
is, or was received by one call, or was flushed; whoever sleeps has no reason to be awake; every
event that can happen has a defined result; and once the queue is unblocked, later calls neither put
a message into it nor get one out of it. -/
theorem msg_q_delivery {es : List (MsgQEvent T M D)} (h : (system init).Run System.Free es s) :
    (∃ f, s.Refines f ∧ s.Awake f) ∧ (∀ e, s.Enabled e → ∃ s', s.step e = some s') ∧
      (s.unblocked = true → ∀ es' s₁, (system s).Run System.Free es' s₁ →
        s₁.unblocked = true ∧ ∀ e r s₂, refused e = some r → s₁.step e = some s₂ →
          s₂ = s₁.ret r ∧ r.sent = none ∧ r.received = none) := by
  obtain ⟨f, hg⟩ := good_of_run h
  refine ⟨⟨f, hg.refines, hg.awake⟩, fun e he => ?_, fun hunb es' s₁ hrun => ?_⟩
  · obtain ⟨s', f', hst, -⟩ := good_step hg he
    exact ⟨s', hst⟩
  · have hunb₁ : s₁.unblocked = true :=
      hrun.invariant (I := fun s => s.unblocked = true) hunb
        fun _ _ _ hu _ hst => unblocked_step hu hst
    refine ⟨hunb₁, fun e r s₂ hr hst => ⟨step_refused hunb₁ hst hr, ?_⟩⟩
    cases e with
    | snd t msg_obj dealloc malloc signalled =>
      cases msg_obj <;> cases hr <;> exact ⟨rfl, rfl⟩
    | rcv t =>
      cases hr
      exact ⟨rfl, rfl⟩
    | rmv t =>
      cases hr
      exact ⟨rfl, rfl⟩
    | flush t => cases hr
    | unblock t => cases hr
    | spurious t => cases hr
    | resume t => cases hr

end

/-- Two messages are sent while a receiver sleeps; it receives the first one, and the other one is
flushed. -/
theorem msg_q_delivery_flushed :
    ∃ s, (system (init : MsgQ Bool ℕ ℕ)).Run System.Free [.rcv false,
        .snd true (some 7) (some 1) (some 100) (some false), .snd true (some 8) (some 1) (some 101) none,
        .resume false, .flush true] s ∧
      s.deallocs = [(1, 8)] ∧ ∃ f, s.Refines f ∧ s.Awake f := by
  have hrun : (system (init : MsgQ Bool ℕ ℕ)).Run System.Free [.rcv false,
      .snd true (some 7) (some 1) (some 100) (some false), .snd true (some 8) (some 1) (some 101) none,
      .resume false, .flush true] _ := System.run_foldlM rfl
  exact ⟨_, hrun, rfl, (msg_q_delivery hrun).1⟩

/-- A message that is sent without a deallocator is lost when it is flushed: it is neither received
nor deallocated. -/
theorem flushed_without_dealloc :
    ∃ s, (system (init : MsgQ Bool ℕ ℕ)).Run System.Free
        [.snd true (some 7) none (some 100) none, .flush true] s ∧
      s.returns.filterMap MsgQReturn.sent = [(7, none)] ∧
      s.returns.filterMap MsgQReturn.received = [] ∧ s.deallocs = [] ∧
      linked_list_empty s.msg_list = true :=
  ⟨_, System.run_foldlM rfl, rfl, rfl, rfl, rfl⟩

end MsgQ

end GpsHal
