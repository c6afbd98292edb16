import GpsHal.Transition.Basic
import GpsHal.Util.LocIpc

/-!
# Several senders on one `LocIpc` socket

Any number of senders send datagrams to the socket of a listener: messages through
`LocIpcSender::sendData`, the abort message through `sendAbort`, and datagrams that do not come from
this code.  Each sender's datagrams arrive in the order they were sent; those of different senders
mix in any way.  The listener is `startBlockingListening`, taken one datagram at a time
(`utils/LocIpc.cpp`, `utils/LocIpc.h`).

The loop stops when `recvData` returns `false`, which an empty datagram brings about as well as the
abort message does, and so does a header without a number.  The loop that puts a long message
together takes the next datagrams of the socket, whoever has sent them.

## Main definitions

* `Phase.take` : what the listener does with one datagram.
* `Listener.Robust` : only the abort message has stopped the listener, and each message it was given
  is one message of one sender.
* `Undisturbed` : the arriving datagram is what the listener takes it for.

## Main results

* `startBlockingListening_arrived` : datagram by datagram, the listener hears what
  `startBlockingListening` hears.
* `robust_of_run` : in an undisturbed run the listener is robust.
* `not_robust_mixed` : a long message that another message interrupts is delivered mixed with it.
-/

namespace GpsHal

namespace Senders

open Sock

/-- What a sender sends: a message, the abort message of `sendAbort`, or any datagram. -/
inductive Outgoing
  | message (p : Payload)
  | abort
  | raw (d : Datagram)

/-- The datagrams that it is sent in; `sendAbort` sends the terminator of the text as well. -/
def Outgoing.datagrams : Outgoing → List Datagram
  | message p => send p.bytes
  | abort => send (MSG_ABORT ++ [0])
  | raw d => [d]

def Outgoing.payload : Outgoing → Option (List UInt8)
  | message p => some p.bytes
  | abort => none
  | raw d => some d

/-- The datagrams, each with what it is a part of. -/
def Outgoing.pieces (o : Outgoing) : List (Outgoing × Datagram) := o.datagrams.map (o, ·)

/-- What `onReceive` was given, and the datagrams it was put together from. -/
structure Delivered (S : Type*) where
  msg : List UInt8
  parts : List (S × Outgoing)

/-- Where the listener is: before the first `recvfrom` of a message, in the loop that receives a
long message, of which `msg` has arrived in `parts`, or after the end of `startBlockingListening`. -/
inductive Phase (S : Type*)
  | idle
  | collecting (msgLen : ℕ) (msg : List UInt8) (parts : List (S × Outgoing))
  | stopped (sender : S) (last : Outgoing)

namespace Phase

variable {S : Type*}

def listening : Phase S → Bool
  | stopped _ _ => false
  | _ => true

/-- The test of the loop of a long message, and what follows the loop.  The length of the message is
the number that `recvfrom` returns. -/
def collect (s : S) (o : Outgoing) (msgLen : ℕ) (msg : List UInt8) (parts : List (S × Outgoing)) :
    Phase S × Option (Delivered S) :=
  if msg.length < msgLen then (collecting msgLen msg parts, none)
  else if msgLen > 0 then (idle, some ⟨msg, parts⟩)
  else (stopped s o, some ⟨msg, parts⟩)

/-- The listener receives the datagram `d`, which `s` has sent for `o`. -/
def take (s : S) (o : Outgoing) (d : Datagram) : Phase S → Phase S × Option (Delivered S)
  | idle =>
    let msg := d.take mMaxTxSize
    if msg.length > 0 then
      if strncmpEq msg MSG_ABORT (MSG_ABORT.length + 1) then (stopped s o, none)
      else if !strncmpEq msg LOC_IPC_HEAD LOC_IPC_HEAD.length then (idle, some ⟨msg, [(s, o)]⟩)
      else collect s o (scanSize (msg.drop LOC_IPC_HEAD.length)) [] [(s, o)]
    else (stopped s o, none)
  | collecting msgLen msg parts =>
    let d := d.take (msgLen - msg.length)
    if d.length > 0 then collect s o msgLen (msg ++ d) (parts ++ [(s, o)])
    else (stopped s o, none)
  | stopped s' o' => (stopped s' o', none)

end Phase

/-- The socket and its listener.  `queue` holds the datagrams of each sender that have not been
received, `sent` what it has sent, and `arrived` the datagrams the listener has received. -/
structure Listener (S : Type*) where
  queue : S → List (Outgoing × Datagram)
  sent : S → List Outgoing
  arrived : List Datagram
  phase : Phase S
  received : List (Delivered S)

inductive Event (S : Type*)
  | send (s : S) (o : Outgoing)
  | arrive (s : S)

namespace Listener

variable {S : Type*} [DecidableEq S]

def init : Listener S := ⟨fun _ => [], fun _ => [], [], .idle, []⟩

/-- `s` sends `o`. -/
def send (l : Listener S) (s : S) (o : Outgoing) : Listener S :=
  { l with
    queue := Function.update l.queue s (l.queue s ++ o.pieces)
    sent := Function.update l.sent s (l.sent s ++ [o]) }

/-- The listener receives the next datagram of `s`.  One that has stopped receives nothing. -/
def arrive (l : Listener S) (s : S) : Listener S :=
  match l.phase.listening, l.queue s with
  | true, (o, d) :: q =>
    { l with
      queue := Function.update l.queue s q
      arrived := l.arrived ++ [d]
      phase := (l.phase.take s o d).1
      received := l.received ++ (l.phase.take s o d).2.toList }
  | _, _ => l

def step (l : Listener S) : Event S → Listener S
  | .send s o => l.send s o
  | .arrive s => l.arrive s

/-- Nothing but the abort message, sent by `sendAbort`, has stopped the listener, and what it was
given is the payload of one message of one sender, of which all its parts come. -/
def Robust (l : Listener S) : Prop :=
  (∀ s o, l.phase = .stopped s o → o = .abort ∧ o ∈ l.sent s) ∧
    ∀ r ∈ l.received, ∃ s, ∃ o ∈ l.sent s, o.payload = some r.msg ∧ ∀ part ∈ r.parts, part = (s, o)

end Listener

def system (S : Type*) [DecidableEq S] : System (Listener S) (Event S) :=
  System.ofFun Listener.init Listener.step

/-- The receiver takes it for what it is. -/
def Outgoing.Plain : Outgoing → Prop
  | message p => ¬ Confusable p.bytes
  | abort => True
  | raw d => d ≠ [] ∧ d.length ≤ mMaxTxSize ∧ ¬ Confusable d

/-- What arrives at an idle listener is plain, and what arrives while a long message is being put
together comes from its sender. -/
def Undisturbed {S : Type*} (l : Listener S) : Event S → Prop
  | .send _ _ => True
  | .arrive s =>
    match l.phase with
    | .idle => ∀ piece ∈ (l.queue s).head?, piece.1.Plain
    | .collecting _ _ parts => ∀ part ∈ parts, part.1 = s
    | .stopped _ _ => True

variable {S : Type*}

/-! ### The listener, datagram by datagram -/

/-- What `startBlockingListening` comes to, by what its first call of `recvfrom` comes to. -/
def heardFrom : Option Received → Heard
  | none => ⟨[], true⟩
  | some r =>
    if r.nBytes > 0 then
      let h := startBlockingListening r.rest
      ⟨r.onReceive.toList ++ h.received, h.listening⟩
    else ⟨r.onReceive.toList, false⟩

theorem startBlockingListening_eq (ch : List Datagram) :
    startBlockingListening ch = heardFrom (recvfrom ch) := by
  cases ch with
  | nil => rfl
  | cons d ch =>
    rw [startBlockingListening, List.length_cons]
    cases hr : recvfrom (d :: ch) with
    | none => rw [listen_of_none hr, heardFrom]
    | some r =>
      rw [listen_succ_of_some hr, heardFrom,
        listen_congr (recvfrom_rest hr).length_le (Nat.le_refl _)]
      rfl

/-- What a listener is still going to hear. -/
def Phase.hears : Phase S → List Datagram → Heard
  | idle, ch => startBlockingListening ch
  | collecting msgLen msg _, ch => heardFrom (reassemble msgLen msg ch)
  | stopped _ _, _ => ⟨[], false⟩

/-- The loop of a long message stops waiting as soon as the message is complete. -/
theorem heardFrom_reassemble (s : S) (o : Outgoing) (msgLen : ℕ) (msg : List UInt8)
    (parts : List (S × Outgoing)) (ch : List Datagram) :
    heardFrom (reassemble msgLen msg ch) =
      ⟨(Phase.collect s o msgLen msg parts).2.toList.map Delivered.msg ++
        ((Phase.collect s o msgLen msg parts).1.hears ch).received,
        ((Phase.collect s o msgLen msg parts).1.hears ch).listening⟩ := by
  by_cases hlt : msg.length < msgLen
  · rw [Phase.collect, if_pos hlt]
    rfl
  · have hdone : reassemble msgLen msg ch = some ⟨msgLen, some msg, ch⟩ := by
      cases ch <;> rw [reassemble, if_neg hlt]
    rw [hdone, Phase.collect, if_neg hlt, heardFrom]
    split <;> rfl

/-- The loop of a long message waits only while the message is not complete. -/
def Phase.Unfinished : Phase S → Prop
  | collecting msgLen msg _ => msg.length < msgLen
  | _ => True

theorem unfinished_collect (s : S) (o : Outgoing) (msgLen : ℕ) (msg : List UInt8)
    (parts : List (S × Outgoing)) : (Phase.collect s o msgLen msg parts).1.Unfinished := by
  rw [Phase.collect]
  split_ifs with hlt hpos
  · exact hlt
  · trivial
  · trivial

theorem unfinished_take (ph : Phase S) (s : S) (o : Outgoing) (d : Datagram) :
    (ph.take s o d).1.Unfinished := by
  cases ph with
  | idle =>
    rw [Phase.take]
    split_ifs
    · trivial
    · trivial
    · exact unfinished_collect s o _ _ _
    · trivial
  | collecting msgLen msg parts =>
    rw [Phase.take]
    split_ifs
    · exact unfinished_collect s o _ _ _
    · trivial
  | stopped s' o' => trivial

/-- One datagram more. -/
theorem hears_cons {ph : Phase S} (hon : ph.listening = true) (hun : ph.Unfinished) (s : S)
    (o : Outgoing) (d : Datagram) (ch : List Datagram) :
    ph.hears (d :: ch) =
      ⟨(ph.take s o d).2.toList.map Delivered.msg ++ ((ph.take s o d).1.hears ch).received,
        ((ph.take s o d).1.hears ch).listening⟩ := by
  cases ph with
  | idle =>
    rw [Phase.hears, startBlockingListening_eq, recvfrom, Phase.take]
    split_ifs with hsome habort hhead
    · rfl
    · rw [heardFrom, if_pos hsome]
      rfl
    · exact heardFrom_reassemble s o _ [] _ ch
    · rfl
  | collecting msgLen msg parts =>
    have hlt : msg.length < msgLen := hun
    rw [Phase.hears, Phase.take, reassemble, if_pos hlt]
    simp only
    split_ifs
    · exact heardFrom_reassemble s o msgLen _ _ ch
    · rfl
  | stopped s' o' => cases hon

theorem hears_nil {ph : Phase S} (hun : ph.Unfinished) : ph.hears [] = ⟨[], ph.listening⟩ := by
  cases ph with
  | idle => rfl
  | collecting msgLen msg parts =>
    have hlt : msg.length < msgLen := hun
    rw [Phase.hears, reassemble, if_pos hlt]
    rfl
  | stopped s' o' => rfl

/-! ### What is left of a message -/

/-- The datagrams of whole messages. -/
def Whole (sent : List Outgoing) (q : List (Outgoing × Datagram)) : Prop :=
  ∃ os : List Outgoing, (∀ o ∈ os, o ∈ sent) ∧ q = os.flatMap Outgoing.pieces

theorem Whole.snoc {sent : List Outgoing} {q : List (Outgoing × Datagram)} (h : Whole sent q)
    (o : Outgoing) : Whole (sent ++ [o]) (q ++ o.pieces) := by
  obtain ⟨os, hos, rfl⟩ := h
  refine ⟨os ++ [o], fun o' ho' => ?_, by rw [List.flatMap_append, List.flatMap_singleton]⟩
  rcases List.mem_append.1 ho' with ho' | ho'
  · exact List.mem_append_left _ (hos o' ho')
  · exact List.mem_append_right _ ho'

theorem Outgoing.pieces_ne_nil (o : Outgoing) : o.pieces ≠ [] := by
  rw [pieces, Ne, List.map_eq_nil_iff]
  cases o with
  | message p =>
    rw [datagrams, send, if_neg (List.length_pos_iff.2 p.nonempty).ne', sendto]
    split
    · exact List.cons_ne_nil _ _
    · exact List.cons_ne_nil _ _
  | abort => decide
  | raw d => exact List.cons_ne_nil _ _

/-- The first datagram of whole messages starts one of them. -/
theorem Whole.head {sent : List Outgoing} {o : Outgoing} {d : Datagram}
    {q : List (Outgoing × Datagram)} (h : Whole sent ((o, d) :: q)) :
    o ∈ sent ∧ ∃ rest w, o.pieces = (o, d) :: rest ∧ Whole sent w ∧ q = rest ++ w := by
  obtain ⟨os, hos, heq⟩ := h
  cases os with
  | nil => cases heq
  | cons o' os =>
    obtain ⟨piece, rest, hpieces⟩ := List.exists_cons_of_ne_nil o'.pieces_ne_nil
    rw [List.flatMap_cons, hpieces, List.cons_append] at heq
    obtain ⟨rfl, rfl⟩ := List.cons.inj heq
    -- a piece names what it is a part of
    have hmem : (o, d) ∈ o'.pieces := by
      rw [hpieces]
      exact List.mem_cons_self
    obtain ⟨d', -, hd'⟩ := List.mem_map.1 hmem
    obtain ⟨rfl, rfl⟩ := Prod.mk.inj hd'
    refine ⟨hos _ List.mem_cons_self, rest, _, hpieces, ⟨os, fun o ho => ?_, rfl⟩, rfl⟩
    exact hos o (List.mem_cons_of_mem _ ho)

/-- Data that reads like data is delivered as it is. -/
theorem take_data {d : Datagram} (hsome : d ≠ []) (hfit : d.length ≤ mMaxTxSize)
    (hd : ¬ Confusable d) (s : S) (o : Outgoing) :
    Phase.idle.take s o d = (.idle, some ⟨d, [(s, o)]⟩) := by
  have htake : d.take mMaxTxSize = d := List.take_of_length_le hfit
  have habort : strncmpEq d MSG_ABORT (MSG_ABORT.length + 1) = false := by
    rw [← Bool.not_eq_true, isAbort_iff]
    exact fun h => hd ⟨hfit, .inr h⟩
  have hhead : strncmpEq d LOC_IPC_HEAD LOC_IPC_HEAD.length = false := by
    rw [← Bool.not_eq_true, isHead_iff]
    exact fun h => hd ⟨hfit, .inl h⟩
  rw [Phase.take]
  simp only [htake, if_pos (List.length_pos_iff.2 hsome), habort, hhead, Bool.not_false,
    Bool.false_eq_true, if_false, if_true]

theorem take_header {n : ℕ} (hpos : 0 < n) (hn : n < 2 ^ 32) (s : S) (o : Outgoing) :
    Phase.idle.take s o (LOC_IPC_HEAD ++ to_string n) = (.collecting n [] [(s, o)], none) := by
  have hfit : (LOC_IPC_HEAD ++ to_string n).take mMaxTxSize = LOC_IPC_HEAD ++ to_string n :=
    List.take_of_length_le (length_header hn)
  have habort : strncmpEq (LOC_IPC_HEAD ++ to_string n) MSG_ABORT (MSG_ABORT.length + 1) = false :=
    rfl
  have hhead : strncmpEq (LOC_IPC_HEAD ++ to_string n) LOC_IPC_HEAD LOC_IPC_HEAD.length = true :=
    (isHead_iff _).2 (List.prefix_append _ _)
  have hsome : 0 < (LOC_IPC_HEAD ++ to_string n).length := by
    rw [List.length_append]
    exact Nat.add_pos_left (by decide) _
  rw [Phase.take]
  simp only [hfit, if_pos hsome, habort, hhead, Bool.not_true, Bool.false_eq_true, if_false,
    List.drop_left, scanSize_to_string (show n < 2 ^ 64 by omega), Phase.collect, List.length_nil,
    if_pos hpos]

/-- A fragment of a long message carries on where the last one has ended. -/
theorem next_fragment {buf : List UInt8} {k : ℕ} (hk : k < buf.length) :
    0 < ((buf.drop k).take mMaxTxSize).length ∧
      k + ((buf.drop k).take mMaxTxSize).length ≤ buf.length ∧
      buf.take k ++ (buf.drop k).take mMaxTxSize =
        buf.take (k + ((buf.drop k).take mMaxTxSize).length) ∧
      (buf.drop k).drop mMaxTxSize = buf.drop (k + ((buf.drop k).take mMaxTxSize).length) := by
  have hlen : ((buf.drop k).take mMaxTxSize).length = min mMaxTxSize (buf.length - k) := by
    rw [List.length_take, List.length_drop]
  have hpos : 0 < mMaxTxSize := by decide
  refine ⟨by omega, by omega, ?_, ?_⟩
  · rw [List.take_add, List.append_cancel_left_eq, List.take_eq_take_iff, List.length_drop]
    omega
  · rw [List.drop_drop, List.drop_eq_drop_iff]
    omega

/-- What an idle listener does with the first datagram of a plain message. -/
theorem take_plain {o : Outgoing} {d : Datagram} {rest : List (Outgoing × Datagram)}
    (hplain : o.Plain) (hpieces : o.pieces = (o, d) :: rest) (s : S) :
    (o.payload = some d ∧ rest = [] ∧ Phase.idle.take s o d = (.idle, some ⟨d, [(s, o)]⟩)) ∨
      (o = .abort ∧ Phase.idle.take s o d = (.stopped s o, none)) ∨
      ∃ p, o = .message p ∧ rest = (fragments p.bytes).map (o, ·) ∧
        Phase.idle.take s o d = (.collecting p.bytes.length [] [(s, o)], none) := by
  cases o with
  | message p =>
    have hpos : 0 < p.bytes.length := List.length_pos_iff.2 p.nonempty
    rw [Outgoing.pieces, Outgoing.datagrams, send, if_neg hpos.ne', sendto] at hpieces
    by_cases hshort : p.bytes.length ≤ mMaxTxSize
    · rw [if_pos hshort] at hpieces
      obtain ⟨hd, rfl⟩ := List.cons.inj hpieces
      obtain rfl : p.bytes = d := (Prod.mk.inj hd).2
      exact .inl ⟨rfl, rfl, take_data p.nonempty hshort hplain s _⟩
    · rw [if_neg hshort] at hpieces
      obtain ⟨hd, rfl⟩ := List.cons.inj hpieces
      obtain rfl := (Prod.mk.inj hd).2
      exact .inr (.inr ⟨p, rfl, rfl, take_header hpos p.lt s _⟩)
  | abort =>
    obtain ⟨hd, -⟩ := List.cons.inj hpieces
    obtain rfl := (Prod.mk.inj hd).2
    exact .inr (.inl ⟨rfl, rfl⟩)
  | raw d' =>
    obtain ⟨hd, hrest⟩ := List.cons.inj hpieces
    obtain rfl : d' = d := (Prod.mk.inj hd).2
    exact .inl ⟨rfl, hrest.symm, take_data hplain.1 hplain.2.1 hplain.2.2 s _⟩

section Runs

variable [DecidableEq S] {es : List (Event S)} {l : Listener S}

theorem arrive_eq {s : S} {o : Outgoing} {d : Datagram} {q : List (Outgoing × Datagram)}
    (hon : l.phase.listening = true) (hq : l.queue s = (o, d) :: q) :
    l.arrive s =
      { l with
        queue := Function.update l.queue s q
        arrived := l.arrived ++ [d]
        phase := (l.phase.take s o d).1
        received := l.received ++ (l.phase.take s o d).2.toList } := by
  rw [Listener.arrive, hon, hq]

/-- What a step of the listener can be. -/
theorem arrive_cases (l : Listener S) (s : S) :
    l.arrive s = l ∨ ∃ o d q, l.phase.listening = true ∧ l.queue s = (o, d) :: q := by
  cases hon : l.phase.listening with
  | false => exact .inl (by rw [Listener.arrive, hon])
  | true =>
    cases hq : l.queue s with
    | nil => exact .inl (by rw [Listener.arrive, hon, hq])
    | cons piece q => exact .inr ⟨piece.1, piece.2, q, rfl, rfl⟩

/-- What has arrived so far, and `ch` after it, is heard as the listener has heard it. -/
def Hearing (l : Listener S) : Prop :=
  l.phase.Unfinished ∧ ∀ ch, startBlockingListening (l.arrived ++ ch) =
    ⟨l.received.map Delivered.msg ++ (l.phase.hears ch).received, (l.phase.hears ch).listening⟩

theorem hearing_arrive {s : S} (h : Hearing l) : Hearing (l.arrive s) := by
  rcases arrive_cases l s with heq | ⟨o, d, q, hon, hq⟩
  · rw [heq]
    exact h
  · rw [arrive_eq hon hq]
    refine ⟨unfinished_take l.phase s o d, fun ch => ?_⟩
    simp only [List.append_assoc, List.singleton_append, List.map_append]
    rw [h.2, hears_cons hon h.1]

/-- **Datagram by datagram.**  The listener of every run is `startBlockingListening`. -/
theorem startBlockingListening_arrived (h : (system S).Run System.Free es l) :
    startBlockingListening l.arrived = ⟨l.received.map Delivered.msg, l.phase.listening⟩ := by
  have hinv : Hearing l := by
    refine h.invariant ⟨trivial, fun ch => rfl⟩ ?_
    rintro l (⟨s, o⟩ | s) _ hl - rfl
    · exact hl
    · exact hearing_arrive hl
  have hnow := hinv.2 []
  rw [List.append_nil, hears_nil hinv.1, List.append_nil] at hnow
  exact hnow

/-! ### Undisturbed runs -/

/-- `msg` is what has arrived of the long message `p` of `s`, and the rest of it comes next. -/
structure Halfway (l : Listener S) (msgLen : ℕ) (msg : List UInt8) (parts : List (S × Outgoing))
    (s : S) (p : Payload) : Prop where
  sent : .message p ∈ l.sent s
  length : msgLen = p.bytes.length
  eq_take : msg = p.bytes.take msg.length
  lt : msg.length < msgLen
  started : parts ≠ []
  parts : ∀ part ∈ parts, part = (s, .message p)
  queue : ∃ w, Whole (l.sent s) w ∧
    l.queue s = (fragments (p.bytes.drop msg.length)).map (.message p, ·) ++ w
  others : ∀ s', s' ≠ s → Whole (l.sent s') (l.queue s')

def InPhase (l : Listener S) : Phase S → Prop
  | .idle => ∀ s, Whole (l.sent s) (l.queue s)
  | .collecting msgLen msg parts => ∃ s p, Halfway l msgLen msg parts s p
  | .stopped s o => o = .abort ∧ o ∈ l.sent s

/-- `r` is one message of one sender. -/
def OfOne (l : Listener S) (r : Delivered S) : Prop :=
  ∃ s, ∃ o ∈ l.sent s, o.payload = some r.msg ∧ ∀ part ∈ r.parts, part = (s, o)

structure Undivided (l : Listener S) : Prop where
  phase : InPhase l l.phase
  received : ∀ r ∈ l.received, OfOne l r

theorem mem_sent_send {l : Listener S} {s s' : S} {o o' : Outgoing} (h : o' ∈ l.sent s') :
    o' ∈ (l.send s o).sent s' := by
  rw [Listener.send]
  by_cases hs : s' = s
  · subst hs
    simp only [Function.update_self]
    exact List.mem_append_left _ h
  · simp only [Function.update_of_ne hs]
    exact h

theorem whole_send {l : Listener S} {s s' : S} {o : Outgoing}
    (h : Whole (l.sent s') (l.queue s')) :
    Whole ((l.send s o).sent s') ((l.send s o).queue s') := by
  rw [Listener.send]
  by_cases hs : s' = s
  · subst hs
    simp only [Function.update_self]
    exact h.snoc o
  · simp only [Function.update_of_ne hs]
    exact h

theorem inPhase_send {s : S} {o : Outgoing} {ph : Phase S} (h : InPhase l ph) :
    InPhase (l.send s o) ph := by
  cases ph with
  | idle => exact fun s' => whole_send (h s')
  | collecting msgLen msg parts =>
    obtain ⟨s', p, hp⟩ := h
    obtain ⟨w, hw, hq⟩ := hp.queue
    refine ⟨s', p, mem_sent_send hp.sent, hp.length, hp.eq_take, hp.lt, hp.started, hp.parts, ?_,
      fun s'' hs => whole_send (hp.others s'' hs)⟩
    rw [Listener.send]
    by_cases hs : s' = s
    · subst hs
      simp only [Function.update_self]
      exact ⟨w ++ o.pieces, hw.snoc o, by rw [hq, List.append_assoc]⟩
    · simp only [Function.update_of_ne hs]
      exact ⟨w, hw, hq⟩
  | stopped s' o' => exact ⟨h.1, mem_sent_send h.2⟩

theorem ofOne_send {s : S} {o : Outgoing} {r : Delivered S} (h : OfOne l r) :
    OfOne (l.send s o) r := by
  obtain ⟨s', o', ho', hr⟩ := h
  exact ⟨s', o', mem_sent_send ho', hr⟩

/-- The first datagram of a message arrives. -/
theorem undivided_first {s : S} {o : Outgoing} {d : Datagram} {q : List (Outgoing × Datagram)}
    (h : Undivided l) (hidle : l.phase = .idle) (hq : l.queue s = (o, d) :: q) (ho : o.Plain) :
    Undivided (l.arrive s) := by
  obtain ⟨hphase, hreceived⟩ := h
  rw [hidle] at hphase
  have hwhole : Whole (l.sent s) (l.queue s) := hphase s
  rw [hq] at hwhole
  obtain ⟨hsent, rest, w, hpieces, hw, rfl⟩ := hwhole.head
  have hothers : ∀ q' s', s' ≠ s → Whole (l.sent s') (Function.update l.queue s q' s') := by
    intro q' s' hs'
    rw [Function.update_of_ne hs']
    exact hphase s'
  rw [arrive_eq (by rw [hidle]; rfl) hq, hidle]
  rcases take_plain ho hpieces s with ⟨hpay, rfl, htake⟩ | ⟨rfl, htake⟩ | ⟨p, rfl, rfl, htake⟩
  · rw [htake]
    refine ⟨fun s' => ?_, fun r hr => ?_⟩
    · by_cases hs' : s' = s
      · subst hs'
        simp only [Function.update_self]
        exact hw
      · exact hothers _ s' hs'
    · rcases List.mem_append.1 hr with hr | hr
      · exact hreceived r hr
      · obtain rfl := List.mem_singleton.1 hr
        exact ⟨s, o, hsent, hpay, fun part hpart => List.mem_singleton.1 hpart⟩
  · rw [htake]
    refine ⟨⟨rfl, hsent⟩, fun r hr => ?_⟩
    simp only [Option.toList_none, List.append_nil] at hr
    exact hreceived r hr
  · rw [htake]
    refine ⟨⟨s, p, ?_⟩, fun r hr => ?_⟩
    · refine ⟨hsent, rfl, rfl, List.length_pos_iff.2 p.nonempty, List.cons_ne_nil _ _,
        fun part hpart => List.mem_singleton.1 hpart, ⟨w, hw, ?_⟩, hothers _⟩
      simp only [Function.update_self]
      rfl
    · simp only [Option.toList_none, List.append_nil] at hr
      exact hreceived r hr

/-- The next datagram of a long message arrives. -/
theorem undivided_next {s : S} {o : Outgoing} {d : Datagram} {q : List (Outgoing × Datagram)}
    {msgLen : ℕ} {msg : List UInt8} {parts : List (S × Outgoing)} {p : Payload} (h : Undivided l)
    (hcoll : l.phase = .collecting msgLen msg parts) (hp : Halfway l msgLen msg parts s p)
    (hq : l.queue s = (o, d) :: q) : Undivided (l.arrive s) := by
  obtain ⟨hsent, hlength, htake, hlt, -, hparts, ⟨w, hw, hrest⟩, hothers⟩ := hp
  have hk : msg.length < p.bytes.length := hlength ▸ hlt
  have hdrop : p.bytes.drop msg.length ≠ [] := by
    rw [Ne, List.drop_eq_nil_iff]
    omega
  rw [hq, fragments_cons hdrop, List.map_cons, List.cons_append] at hrest
  obtain ⟨hpiece, rfl⟩ := List.cons.inj hrest
  obtain ⟨rfl, rfl⟩ := Prod.mk.inj hpiece
  obtain ⟨hsome, hroom, hgrow, hleft⟩ := next_fragment hk
  rw [arrive_eq (by rw [hcoll]; rfl) hq, hcoll]
  set d := (p.bytes.drop msg.length).take mMaxTxSize with hd
  have hfit : d.take (msgLen - msg.length) = d := List.take_of_length_le (by omega)
  have hmsg : msg ++ d = p.bytes.take (msg ++ d).length := by
    rw [List.length_append, ← hgrow, ← htake]
  have hparts' : ∀ part ∈ parts ++ [(s, .message p)], part = (s, .message p) := by
    intro part hpart
    rcases List.mem_append.1 hpart with hpart | hpart
    · exact hparts part hpart
    · exact List.mem_singleton.1 hpart
  have hleft' : ((p.bytes.drop msg.length).drop mMaxTxSize) = p.bytes.drop (msg ++ d).length := by
    rw [List.length_append, hleft]
  simp only [Phase.take, hfit, if_pos hsome, hleft', Phase.collect]
  have hothers' : ∀ q' s', s' ≠ s → Whole (l.sent s') (Function.update l.queue s q' s') := by
    intro q' s' hs'
    rw [Function.update_of_ne hs']
    exact hothers s' hs'
  by_cases hmore : (msg ++ d).length < msgLen
  · -- the message goes on
    rw [if_pos hmore]
    refine ⟨⟨s, p, hsent, hlength, hmsg, hmore, ?_, hparts', ⟨w, hw, ?_⟩, hothers' _⟩,
      fun r hr => ?_⟩
    · exact List.append_ne_nil_of_right_ne_nil _ (List.cons_ne_nil _ _)
    · simp only [Function.update_self]
    · simp only [Option.toList_none, List.append_nil] at hr
      exact h.received r hr
  · -- the message is complete
    have hall : msg ++ d = p.bytes := by
      rw [hmsg, List.take_of_length_le (by omega)]
    have hnil : p.bytes.drop (msg ++ d).length = [] := by
      rw [hall, List.drop_length]
    rw [if_neg hmore, if_pos (by omega), hnil, fragments_nil, List.map_nil, List.nil_append]
    refine ⟨fun s' => ?_, fun r hr => ?_⟩
    · by_cases hs' : s' = s
      · subst hs'
        simp only [Function.update_self]
        exact hw
      · exact hothers' _ s' hs'
    · rcases List.mem_append.1 hr with hr | hr
      · exact h.received r hr
      · obtain rfl := List.mem_singleton.1 hr
        exact ⟨s, _, hsent, congrArg some hall.symm, hparts'⟩

theorem undivided_step {e : Event S} (h : Undivided l) (he : Undisturbed l e) :
    Undivided (l.step e) := by
  cases e with
  | send s o => exact ⟨inPhase_send h.phase, fun r hr => ofOne_send (h.received r hr)⟩
  | arrive s =>
    rw [Listener.step]
    rcases arrive_cases l s with heq | ⟨o, d, q, hon, hq⟩
    · rw [heq]
      exact h
    · cases hph : l.phase with
      | idle =>
        rw [Undisturbed, hph, hq] at he
        exact undivided_first h hph hq (he (o, d) rfl)
      | collecting msgLen msg parts =>
        have hinv := h.phase
        rw [hph] at hinv
        obtain ⟨s', p, hp⟩ := hinv
        -- the parts that have arrived are those of the sender that goes on
        obtain ⟨part, parts', rfl⟩ := List.exists_cons_of_ne_nil hp.started
        rw [Undisturbed, hph] at he
        have hs : part.1 = s := he part List.mem_cons_self
        rw [hp.parts part List.mem_cons_self] at hs
        obtain rfl : s' = s := hs
        exact undivided_next h hph hp hq
      | stopped s' o' =>
        rw [hph] at hon
        cases hon

/-- **Robustness.**  If each datagram that arrives at an idle listener is plain, and each that
arrives while a long message is put together comes from the sender of that message, then only the
abort message stops the listener and each message it is given is one message of one sender. -/
theorem robust_of_run (h : (system S).Run Undisturbed es l) :
    startBlockingListening l.arrived = ⟨l.received.map Delivered.msg, l.phase.listening⟩ ∧
      l.Robust := by
  refine ⟨startBlockingListening_arrived h.free, ?_⟩
  have hinv : Undivided l := by
    refine h.invariant ⟨fun s => ⟨[], List.forall_mem_nil _, rfl⟩, List.forall_mem_nil _⟩ ?_
    rintro l e _ hl he rfl
    exact undivided_step hl he
  refine ⟨fun s o hstop => ?_, hinv.received⟩
  have hphase := hinv.phase
  rw [hstop] at hphase
  exact hphase

/-- An empty datagram stops the listener as the abort message does. -/
theorem not_robust_empty {s : S} {o : Outgoing} {q : List (Outgoing × Datagram)}
    (hidle : l.phase = .idle) (hq : l.queue s = (o, []) :: q) (ho : o ≠ .abort) :
    ¬ (l.arrive s).Robust := by
  intro h
  rw [arrive_eq (by rw [hidle]; rfl) hq, hidle] at h
  exact ho (h.1 s o rfl).1

/-- A datagram of another sender that makes a long message long enough is delivered as its end. -/
theorem not_robust_mixed {s s' : S} {o o' : Outgoing} {d : Datagram}
    {q : List (Outgoing × Datagram)} {msgLen : ℕ} {msg : List UInt8} {parts : List (S × Outgoing)}
    (hcoll : l.phase = .collecting msgLen msg parts) (hlt : msg.length < msgLen)
    (hpart : (s, o) ∈ parts) (hs : s' ≠ s) (hq : l.queue s' = (o', d) :: q)
    (hlong : msgLen ≤ msg.length + d.length) : ¬ (l.arrive s').Robust := by
  intro h
  have hlen : (d.take (msgLen - msg.length)).length = msgLen - msg.length := by
    rw [List.length_take]
    omega
  have htake : l.phase.take s' o' d =
      (.idle, some ⟨msg ++ d.take (msgLen - msg.length), parts ++ [(s', o')]⟩) := by
    have hdone : ¬ (msg ++ d.take (msgLen - msg.length)).length < msgLen := by
      rw [List.length_append]
      omega
    rw [hcoll, Phase.take, if_pos (by omega), Phase.collect, if_neg hdone, if_pos (by omega)]
  rw [arrive_eq (by rw [hcoll]; rfl) hq, htake] at h
  obtain ⟨t, o'', -, -, hall⟩ := h.2 _ (List.mem_append_right _ List.mem_cons_self)
  have hfirst : (s, o) = (t, o'') := hall _ (List.mem_append_left _ hpart)
  have hlast : (s', o') = (t, o'') := hall _ (List.mem_append_right _ List.mem_cons_self)
  exact hs ((Prod.mk.inj hlast).1.trans (Prod.mk.inj hfirst).1.symm)

end Runs

theorem hiText_plain : (Outgoing.message hiText).Plain := by
  show ¬ (_ ∧ _)
  decide

def after (es : List (Event Bool)) : Listener Bool := es.foldl Listener.step Listener.init

/-- One sender sends `hi` and the other stops the listener. -/
theorem robust_of_run_stop :
    startBlockingListening [hiText.bytes, MSG_ABORT ++ [0]] = ⟨[hiText.bytes], false⟩ ∧
      (after [.send false (.message hiText), .send true .abort, .arrive false,
        .arrive true]).Robust := by
  have hallowed : System.Allowed Listener.step Undisturbed Listener.init
      [.send false (.message hiText), .send true .abort, .arrive false, .arrive true] := by
    refine ⟨trivial, trivial, ?_, ?_, trivial⟩
    · rintro _ ⟨rfl⟩
      exact hiText_plain
    · rintro _ ⟨rfl⟩
      trivial
  exact robust_of_run (System.run_foldl hallowed)

/-- An empty datagram and a header without a number stop the listener, and the message `abcd` that
it is given below has been sent by nobody. -/
theorem not_robust :
    ¬ (after [.send false (.raw []), .arrive false]).Robust ∧
      ¬ (after [.send false (.raw LOC_IPC_HEAD), .arrive false]).Robust ∧
      ¬ (after [.send false (.raw (LOC_IPC_HEAD ++ [52])), .send false (.raw [97, 98]),
        .send true (.raw [99, 100]), .arrive false, .arrive false, .arrive true]).Robust := by
  refine ⟨fun h => ?_, fun h => ?_, ?_⟩
  · cases (h.1 false (.raw []) rfl).1
  · cases (h.1 false (.raw LOC_IPC_HEAD) rfl).1
  · have hphase : (after [.send false (.raw (LOC_IPC_HEAD ++ [52])), .send false (.raw [97, 98]),
        .send true (.raw [99, 100]), .arrive false, .arrive false]).phase =
        .collecting 4 [97, 98] [(false, .raw (LOC_IPC_HEAD ++ [52])), (false, .raw [97, 98])] := rfl
    have hq : (after [.send false (.raw (LOC_IPC_HEAD ++ [52])), .send false (.raw [97, 98]),
        .send true (.raw [99, 100]), .arrive false, .arrive false]).queue true =
        [(.raw [99, 100], [99, 100])] := rfl
    exact not_robust_mixed hphase (by decide) List.mem_cons_self (by decide) hq (by decide)

end Senders

end GpsHal
