import Mathlib.Data.List.Basic
import Mathlib.Data.UInt

/-!
# `LocIpc` : messages over datagram sockets

A message that fits a datagram is sent as it is.  A longer one is announced by a text header with its
length and follows in fragments.  The receiver tells the header, and the message that makes it stop,
from data by their text, so they share the channel with the data (`utils/LocIpc.cpp`).

The channel hands the datagrams on in order and without loss.  A receiver that finds none waits.

## Main definitions

* `Sock.send` : the datagrams of a message.
* `Sock.recvfrom`, `startBlockingListening` : one message received, and the loop of the listener.
* `Sock.Confusable` : what the receiver takes for something else than data.

## Main results

* `recvfrom_sendto` : a message that is not confusable is received as it was sent.
* `listening_cost` : what is delivered has taken as many datagrams as sending it takes.
* `round_trip_iff` : a sequence of messages arrives exactly if none of them is confusable.
-/

namespace GpsHal

abbrev Datagram := List UInt8

/-- What `LocIpcSender::sendData` is given: at least one byte, and a length of 32 bits. -/
structure Payload where
  bytes : List UInt8
  nonempty : bytes ≠ []
  lt : bytes.length < 2 ^ 32

namespace Sock

def mMaxTxSize : ℕ := 8192

def byte (c : Char) : UInt8 := UInt8.ofNat c.toNat

/-- The text of `MSG_ABORT`, without its terminator. -/
def MSG_ABORT : List UInt8 := "LocIpc::Sock::ABORT".toList.map byte

/-- The text of `LOC_IPC_HEAD`, without its terminator. -/
def LOC_IPC_HEAD : List UInt8 := "$MSGLEN$".toList.map byte

/-! ### Sending -/

/-- `std::to_string` -/
def to_string (n : ℕ) : List UInt8 := (Nat.toDigits 10 n).map byte

/-- The loop that sends what is left of a long message. -/
def fragments (buf : List UInt8) : List Datagram :=
  if buf = [] then [] else buf.take mMaxTxSize :: fragments (buf.drop mMaxTxSize)
termination_by buf.length
decreasing_by
  rename_i h
  have hpos : 0 < buf.length := List.length_pos_iff.2 h
  rw [List.length_drop, mMaxTxSize]
  omega

def sendto (buf : List UInt8) : List Datagram :=
  if buf.length ≤ mMaxTxSize then [buf]
  else (LOC_IPC_HEAD ++ to_string buf.length) :: fragments buf

def send (buf : List UInt8) : List Datagram := if buf.length = 0 then [] else sendto buf

/-! ### Receiving -/

/-- `strncmp` of a buffer with a text finds no difference in `n` characters.  What the buffer does
not hold is zero, and the text ends with a zero. -/
def strncmpEq : List UInt8 → List UInt8 → ℕ → Bool
  | _, _, 0 => true
  | a, b, n + 1 =>
    a.headD 0 == b.headD 0 && (a.headD 0 == 0 || strncmpEq a.tail b.tail n)

def isspace (b : UInt8) : Bool := b == 32 || (9 ≤ b && b ≤ 13)

def isdigit (b : UInt8) : Bool := 48 ≤ b && b ≤ 57

/-- The number at the start of a text, after `acc` has been read. -/
def scanDigits : List UInt8 → ℕ → ℕ
  | [], acc => acc
  | b :: l, acc => if isdigit b then scanDigits l (10 * acc + (b.toNat - 48)) else acc

/-- `sscanf` with `%zu` into a variable that holds 0: blanks and a sign may come before the digits,
and a number that is too large becomes the largest one. -/
def scanSize (text : List UInt8) : ℕ :=
  match text.dropWhile isspace with
  | [] => 0
  | b :: l =>
    if b = 45 then (2 ^ 64 - min (scanDigits l 0) (2 ^ 64 - 1)) % 2 ^ 64
    else if b = 43 then min (scanDigits l 0) (2 ^ 64 - 1)
    else min (scanDigits (b :: l) 0) (2 ^ 64 - 1)

/-- What a call of `recvfrom` comes to: the number it returns, what it has given to `onReceive` and
the datagrams that are left. -/
structure Received where
  nBytes : ℕ
  onReceive : Option (List UInt8)
  rest : List Datagram
  deriving DecidableEq, Repr

/-- The loop that receives a long message; `msg` is the part received so far.  A datagram that is
too long for the buffer is cut off.  With no datagram left the loop waits: the result is `none`. -/
def reassemble (msgLen : ℕ) : List UInt8 → List Datagram → Option Received
  | msg, [] => if msg.length < msgLen then none else some ⟨msgLen, some msg, []⟩
  | msg, d :: ch =>
    if msg.length < msgLen then
      let d := d.take (msgLen - msg.length)
      if d.length > 0 then reassemble msgLen (msg ++ d) ch
      else some ⟨0, none, ch⟩
    else some ⟨msgLen, some msg, d :: ch⟩

def recvfrom : List Datagram → Option Received
  | [] => none
  | d :: ch =>
    let msg := d.take mMaxTxSize
    if msg.length > 0 then
      if strncmpEq msg MSG_ABORT (MSG_ABORT.length + 1) then some ⟨0, none, ch⟩
      else if !strncmpEq msg LOC_IPC_HEAD LOC_IPC_HEAD.length then some ⟨msg.length, some msg, ch⟩
      else reassemble (scanSize (msg.drop LOC_IPC_HEAD.length)) [] ch
    else some ⟨0, none, ch⟩

end Sock

/-- What a listener has been given, and whether it is still listening. -/
structure Heard where
  received : List (List UInt8)
  listening : Bool
  deriving DecidableEq, Repr

/-- The loop `while (ipcRecver.recvData())` ; it waits for ever once no datagram is left.  Every turn
takes a datagram, so as many turns as there are datagrams will do. -/
def listen : ℕ → List Datagram → Heard
  | 0, _ => ⟨[], true⟩
  | n + 1, ch =>
    match Sock.recvfrom ch with
    | none => ⟨[], true⟩
    | some r =>
      if r.nBytes > 0 then
        let h := listen n r.rest
        ⟨r.onReceive.toList ++ h.received, h.listening⟩
      else ⟨r.onReceive.toList, false⟩

def startBlockingListening (ch : List Datagram) : Heard := listen ch.length ch

namespace Sock

/-- The message fits a datagram, and the receiver takes it for a header or for the abort message. -/
def Confusable (p : List UInt8) : Prop :=
  p.length ≤ mMaxTxSize ∧ (LOC_IPC_HEAD <+: p ∨ p = MSG_ABORT ∨ MSG_ABORT ++ [0] <+: p)

/-! ### Texts -/

theorem strncmpEq_prefix {b : List UInt8} (hb : 0 ∉ b) (a : List UInt8) :
    strncmpEq a b b.length = true ↔ b <+: a := by
  induction b generalizing a with
  | nil => simp [strncmpEq]
  | cons x b ih =>
    obtain ⟨hx, hb⟩ := not_or.1 (mt List.mem_cons.2 hb)
    cases a with
    | nil => simp [strncmpEq, hx]
    | cons y a =>
      simp only [List.length_cons, strncmpEq, List.headD_cons, List.tail_cons, Bool.and_eq_true,
        beq_iff_eq, Bool.or_eq_true, ih hb, List.cons_prefix_cons]
      constructor
      · rintro ⟨rfl, h0 | hpre⟩
        · exact absurd h0.symm hx
        · exact ⟨rfl, hpre⟩
      · rintro ⟨rfl, hpre⟩
        exact ⟨rfl, .inr hpre⟩

theorem strncmpEq_whole {b : List UInt8} (hb : 0 ∉ b) (a : List UInt8) :
    strncmpEq a b (b.length + 1) = true ↔ a = b ∨ b ++ [0] <+: a := by
  induction b generalizing a with
  | nil =>
    cases a with
    | nil => simp [strncmpEq]
    | cons y a =>
      simp only [strncmpEq, List.headD_cons, List.headD_nil, Bool.and_eq_true, beq_iff_eq, and_true,
        reduceCtorEq, false_or, List.nil_append, List.cons_prefix_cons, List.nil_prefix]
      exact ⟨fun h => h.1.symm, fun h => ⟨h.symm, by simp [h.symm]⟩⟩
  | cons x b ih =>
    obtain ⟨hx, hb⟩ := not_or.1 (mt List.mem_cons.2 hb)
    cases a with
    | nil => simp [strncmpEq, hx]
    | cons y a =>
      rw [List.length_cons, strncmpEq]
      simp only [List.headD_cons, List.tail_cons, Bool.and_eq_true, beq_iff_eq, Bool.or_eq_true,
        ih hb, List.cons_append, List.cons_prefix_cons, List.cons.injEq]
      constructor
      · rintro ⟨rfl, h0 | hab | hpre⟩
        · exact absurd h0.symm hx
        · exact .inl ⟨rfl, hab⟩
        · exact .inr ⟨rfl, hpre⟩
      · rintro (⟨rfl, hab⟩ | ⟨rfl, hpre⟩)
        · exact ⟨rfl, .inr (.inl hab)⟩
        · exact ⟨rfl, .inr (.inr hpre)⟩

theorem isAbort_iff (a : List UInt8) :
    strncmpEq a MSG_ABORT (MSG_ABORT.length + 1) = true ↔ a = MSG_ABORT ∨ MSG_ABORT ++ [0] <+: a :=
  strncmpEq_whole (by decide) a

theorem isHead_iff (a : List UInt8) :
    strncmpEq a LOC_IPC_HEAD LOC_IPC_HEAD.length = true ↔ LOC_IPC_HEAD <+: a :=
  strncmpEq_prefix (by decide) a

theorem isdigit_byte {c : Char} (hc : c.isDigit = true) :
    isdigit (byte c) = true ∧ (byte c).toNat = c.toNat := by
  have hrange : 48 ≤ c.toNat ∧ c.toNat ≤ 57 := by
    simpa [Char.isDigit, UInt32.le_iff_toNat_le] using hc
  have hval : (byte c).toNat = c.toNat := by
    rw [byte, UInt8.toNat_ofNat']
    omega
  refine ⟨?_, hval⟩
  simp only [isdigit, Bool.and_eq_true, decide_eq_true_eq, UInt8.le_iff_toNat_le, hval]
  exact hrange

theorem scanDigits_map {cs : List Char} (h : ∀ c ∈ cs, c.isDigit = true) (acc : ℕ) :
    scanDigits (cs.map byte) acc = Nat.ofDigitChars 10 cs acc := by
  induction cs generalizing acc with
  | nil => simp [scanDigits]
  | cons c cs ih =>
    obtain ⟨hc, hcs⟩ := List.forall_mem_cons.1 h
    obtain ⟨hdigit, hval⟩ := isdigit_byte hc
    rw [List.map_cons, scanDigits, if_pos hdigit, ih hcs, hval, Nat.ofDigitChars_cons]
    rfl

/-- What `sscanf` reads back is the number that `to_string` has written. -/
theorem scanSize_to_string {n : ℕ} (hn : n < 2 ^ 64) : scanSize (to_string n) = n := by
  have hdigits : ∀ c ∈ Nat.toDigits 10 n, c.isDigit = true := fun c hc =>
    Nat.isDigit_of_mem_toDigits (by omega) (by omega) hc
  have hscan : scanDigits (to_string n) 0 = n := by
    rw [to_string, scanDigits_map hdigits, Nat.ofDigitChars_toDigits (by omega) (by omega)]
  obtain ⟨c, cs, hcs⟩ := List.exists_cons_of_ne_nil (Nat.toDigits_ne_nil (n := n) (b := 10))
  have hto : to_string n = byte c :: cs.map byte := by rw [to_string, hcs]; rfl
  -- the text starts with a digit, which is neither a blank nor a sign
  obtain ⟨hdigit, -⟩ := isdigit_byte (hdigits c (by rw [hcs]; exact List.mem_cons_self))
  have hrange : 48 ≤ (byte c).toNat ∧ (byte c).toNat ≤ 57 := by
    simpa [isdigit, UInt8.le_iff_toNat_le] using hdigit
  have hspace : isspace (byte c) = false := by
    simp only [isspace, Bool.or_eq_false_iff, beq_eq_false_iff_ne, Bool.and_eq_false_iff,
      decide_eq_false_iff_not, UInt8.le_iff_toNat_le, ne_eq, ← UInt8.toNat_inj]
    simp
    omega
  have hsign : ∀ k : UInt8, k.toNat < 48 → byte c ≠ k := by
    rintro k hk rfl
    omega
  rw [scanSize, hto, List.dropWhile_cons_of_neg (by rw [hspace]; decide)]
  simp only [if_neg (hsign 45 (by decide)), if_neg (hsign 43 (by decide)), ← hto, hscan]
  omega

/-! ### One message -/

theorem fragments_nil : fragments [] = [] := by rw [fragments, if_pos rfl]

theorem fragments_cons {buf : List UInt8} (h : buf ≠ []) :
    fragments buf = buf.take mMaxTxSize :: fragments (buf.drop mMaxTxSize) := by
  rw [fragments, if_neg h]

/-- The fragments of what is left of a message complete it. -/
theorem reassemble_fragments (msg buf : List UInt8) (ch : List Datagram) :
    reassemble (msg.length + buf.length) msg (fragments buf ++ ch) =
      some ⟨msg.length + buf.length, some (msg ++ buf), ch⟩ := by
  induction hn : buf.length using Nat.strong_induction_on generalizing msg buf with
  | _ n ih =>
    by_cases hbuf : buf = []
    · subst hbuf
      rw [fragments_nil, List.nil_append, List.append_nil, ← hn, List.length_nil, Nat.add_zero]
      cases ch <;> rw [reassemble, if_neg (Nat.lt_irrefl _)]
    · have hpos : 0 < buf.length := List.length_pos_iff.2 hbuf
      have hfit : (buf.take mMaxTxSize).take (msg.length + n - msg.length) =
          buf.take mMaxTxSize := by
        rw [List.take_take, Nat.add_sub_cancel_left, ← hn, List.take_eq_take_iff]
        omega
      have hsome : 0 < (buf.take mMaxTxSize).length := by
        rw [List.length_take, mMaxTxSize]
        omega
      have hlen : (msg ++ buf.take mMaxTxSize).length + (buf.drop mMaxTxSize).length =
          msg.length + n := by
        rw [List.length_append, Nat.add_assoc, ← List.length_append, List.take_append_drop, hn]
      rw [fragments_cons hbuf, List.cons_append, reassemble, if_pos (by omega)]
      simp only [hfit, if_pos hsome]
      have hrest := ih (buf.drop mMaxTxSize).length
        (by rw [List.length_drop, mMaxTxSize]; omega) (msg ++ buf.take mMaxTxSize) _ rfl
      rw [hlen, List.append_assoc, List.take_append_drop] at hrest
      exact hrest

/-- The abort message ends the listening. -/
theorem recvfrom_abort {d : Datagram} {ch : List Datagram} (hpos : d.length > 0)
    (hshort : d.length ≤ mMaxTxSize) (habort : d = MSG_ABORT ∨ MSG_ABORT ++ [0] <+: d) :
    recvfrom (d :: ch) = some ⟨0, none, ch⟩ := by
  have hfit : d.take mMaxTxSize = d := List.take_of_length_le hshort
  rw [recvfrom]
  simp only [hfit, if_pos hpos, if_pos ((isAbort_iff d).2 habort)]

theorem length_header {n : ℕ} (hn : n < 2 ^ 32) :
    (LOC_IPC_HEAD ++ to_string n).length ≤ mMaxTxSize := by
  have hdigits : (Nat.toDigits 10 n).length ≤ 10 :=
    (Nat.length_toDigits_le_iff (by omega) (by omega)).2 (by omega)
  rw [List.length_append, to_string, List.length_map]
  have hhead : LOC_IPC_HEAD.length = 8 := rfl
  rw [mMaxTxSize]
  omega

/-- A header is taken for what it is. -/
theorem recvfrom_header {n : ℕ} (hn : n < 2 ^ 32) (ch : List Datagram) :
    recvfrom ((LOC_IPC_HEAD ++ to_string n) :: ch) = reassemble n [] ch := by
  have hfit : (LOC_IPC_HEAD ++ to_string n).take mMaxTxSize = LOC_IPC_HEAD ++ to_string n :=
    List.take_of_length_le (length_header hn)
  have habort : strncmpEq (LOC_IPC_HEAD ++ to_string n) MSG_ABORT (MSG_ABORT.length + 1) = false :=
    rfl
  have hhead : strncmpEq (LOC_IPC_HEAD ++ to_string n) LOC_IPC_HEAD LOC_IPC_HEAD.length = true :=
    (isHead_iff _).2 (List.prefix_append _ _)
  have hpos : 0 < (LOC_IPC_HEAD ++ to_string n).length := by
    rw [List.length_append]
    exact Nat.add_pos_left (by decide) _
  rw [recvfrom]
  simp only [hfit, if_pos hpos, habort, hhead, Bool.not_true, Bool.false_eq_true, if_false,
    List.drop_left, scanSize_to_string (show n < 2 ^ 64 by omega)]

/-- A message that is not confusable is received as it was sent. -/
theorem recvfrom_send (p : Payload) (hp : ¬ Confusable p.bytes) (ch : List Datagram) :
    recvfrom (send p.bytes ++ ch) = some ⟨p.bytes.length, some p.bytes, ch⟩ := by
  have hpos : 0 < p.bytes.length := List.length_pos_iff.2 p.nonempty
  rw [send, if_neg hpos.ne', sendto]
  by_cases hshort : p.bytes.length ≤ mMaxTxSize
  · have hfit : p.bytes.take mMaxTxSize = p.bytes := List.take_of_length_le hshort
    have habort : strncmpEq p.bytes MSG_ABORT (MSG_ABORT.length + 1) = false := by
      rw [← Bool.not_eq_true, isAbort_iff]
      exact fun h => hp ⟨hshort, .inr h⟩
    have hhead : strncmpEq p.bytes LOC_IPC_HEAD LOC_IPC_HEAD.length = false := by
      rw [← Bool.not_eq_true, isHead_iff]
      exact fun h => hp ⟨hshort, .inl h⟩
    rw [if_pos hshort, List.singleton_append, recvfrom]
    simp only [hfit, if_pos hpos, habort, hhead, Bool.not_false, Bool.false_eq_true, if_false,
      if_true]
  · have hlong := reassemble_fragments [] p.bytes ch
    rw [List.length_nil, Nat.zero_add, List.nil_append] at hlong
    rw [if_neg hshort, List.cons_append, recvfrom_header p.lt, hlong]

/-! ### What is delivered has its price -/

theorem length_fragments_le {k : ℕ} {buf : List UInt8} (h : buf.length ≤ k * mMaxTxSize) :
    (fragments buf).length ≤ k := by
  induction k generalizing buf with
  | zero =>
    have hbuf : buf = [] := List.length_eq_zero_iff.1 (by omega)
    rw [hbuf, fragments_nil]
    rfl
  | succ k ih =>
    by_cases hbuf : buf = []
    · rw [hbuf, fragments_nil]
      exact Nat.zero_le _
    · rw [fragments_cons hbuf, List.length_cons]
      refine Nat.succ_le_succ (ih ?_)
      rw [List.length_drop]
      rw [Nat.succ_mul] at h
      omega

theorem length_of_mem_fragments {buf : List UInt8} {d : Datagram} (hd : d ∈ fragments buf) :
    d.length ≤ mMaxTxSize := by
  induction hn : buf.length using Nat.strong_induction_on generalizing buf with
  | _ n ih =>
    by_cases hbuf : buf = []
    · rw [hbuf, fragments_nil] at hd
      cases hd
    · have hpos : 0 < buf.length := List.length_pos_iff.2 hbuf
      rw [fragments_cons hbuf] at hd
      rcases List.mem_cons.1 hd with rfl | hd
      · exact List.length_take_le _ _
      · exact ih _ (by rw [List.length_drop, mMaxTxSize]; omega) hd rfl

/-- No datagram that is sent is too long. -/
theorem length_of_mem_send {p : Payload} {d : Datagram} (hd : d ∈ send p.bytes) :
    d.length ≤ mMaxTxSize := by
  have hpos : 0 < p.bytes.length := List.length_pos_iff.2 p.nonempty
  rw [send, if_neg hpos.ne', sendto] at hd
  split at hd
  · rw [List.mem_singleton.1 hd]
    assumption
  · rcases List.mem_cons.1 hd with rfl | hd
    · exact length_header p.lt
    · exact length_of_mem_fragments hd

theorem reassemble_rest {msgLen : ℕ} {msg : List UInt8} {ch : List Datagram} {r : Received}
    (hr : reassemble msgLen msg ch = some r) : r.rest <:+ ch := by
  induction ch generalizing msg with
  | nil =>
    rw [reassemble] at hr
    split at hr
    · cases hr
    · obtain rfl := Option.some.inj hr
      exact List.suffix_rfl
  | cons d ch ih =>
    rw [reassemble] at hr
    split at hr
    · simp only at hr
      split at hr
      · exact (ih hr).trans (List.suffix_cons _ _)
      · obtain rfl := Option.some.inj hr
        exact List.suffix_cons _ _
    · obtain rfl := Option.some.inj hr
      exact List.suffix_rfl

/-- A long message that is delivered has taken enough datagrams for its length. -/
theorem reassemble_cost {msgLen : ℕ} {msg : List UInt8} {ch : List Datagram} {r : Received}
    (hch : ∀ d ∈ ch, d.length ≤ mMaxTxSize) (hr : reassemble msgLen msg ch = some r)
    (hpos : r.nBytes > 0) :
    ∃ x used, r.onReceive = some x ∧ ch.length = used + r.rest.length ∧
      x.length ≤ msg.length + used * mMaxTxSize ∧ (msg.length < r.nBytes → 0 < used) := by
  induction ch generalizing msg with
  | nil =>
    rw [reassemble] at hr
    split at hr
    · cases hr
    · rename_i hlt
      obtain rfl := Option.some.inj hr
      exact ⟨msg, 0, rfl, rfl, by omega, fun h => absurd h hlt⟩
  | cons d ch ih =>
    rw [reassemble] at hr
    split at hr
    · simp only at hr
      split at hr
      · obtain ⟨x, used, hx, hlen, hle, -⟩ := ih (fun d hd => hch d (List.mem_cons_of_mem _ hd)) hr
        refine ⟨x, used + 1, hx, by rw [List.length_cons, hlen]; omega, ?_, fun _ => by omega⟩
        have hd : (d.take (msgLen - msg.length)).length ≤ mMaxTxSize :=
          (List.length_take_le' _ _).trans (hch d List.mem_cons_self)
        rw [List.length_append] at hle
        rw [Nat.succ_mul]
        omega
      · obtain rfl := Option.some.inj hr
        exact absurd hpos (Nat.lt_irrefl 0)
    · rename_i hlt
      obtain rfl := Option.some.inj hr
      exact ⟨msg, 0, rfl, by simp, by omega, fun h => absurd h hlt⟩

/-- A message that is delivered has taken as many datagrams as sending it takes, and more if it
came after a header that it does not need. -/
theorem recvfrom_cost {d : Datagram} {ch : List Datagram} {r : Received}
    (hch : ∀ d' ∈ d :: ch, d'.length ≤ mMaxTxSize) (hr : recvfrom (d :: ch) = some r)
    (hpos : r.nBytes > 0) :
    ∃ x, r.onReceive = some x ∧
      (sendto x).length + r.rest.length ≤ ch.length + 1 ∧
      (LOC_IPC_HEAD <+: d → x.length ≤ mMaxTxSize →
        (sendto x).length + r.rest.length < ch.length + 1) := by
  have hd : d.take mMaxTxSize = d := List.take_of_length_le (hch d List.mem_cons_self)
  rw [recvfrom] at hr
  simp only [hd] at hr
  split_ifs at hr with hsome habort hhead
  · obtain rfl := Option.some.inj hr
    exact absurd hpos (Nat.lt_irrefl 0)
  · obtain rfl := Option.some.inj hr
    have hshort : (sendto d).length = 1 := by
      rw [sendto, if_pos (hch d List.mem_cons_self)]
      rfl
    refine ⟨d, rfl, by rw [hshort, Nat.add_comm], fun hpre => ?_⟩
    rw [(isHead_iff d).2 hpre] at hhead
    cases hhead
  · obtain ⟨x, used, hx, hlen, hle, hused⟩ :=
      reassemble_cost (fun d' hd' => hch d' (List.mem_cons_of_mem _ hd')) hr hpos
    have hused : 0 < used := hused hpos
    rw [List.length_nil, Nat.zero_add] at hle
    refine ⟨x, hx, ?_, fun _ hshort => ?_⟩
    · rw [sendto]
      split
      · rw [List.length_singleton]
        omega
      · have := length_fragments_le hle
        rw [List.length_cons]
        omega
    · rw [sendto, if_pos hshort, List.length_singleton]
      omega
  · obtain rfl := Option.some.inj hr
    exact absurd hpos (Nat.lt_irrefl 0)

theorem recvfrom_rest {d : Datagram} {ch : List Datagram} {r : Received}
    (hr : recvfrom (d :: ch) = some r) : r.rest <:+ ch := by
  unfold recvfrom at hr
  simp only at hr
  split_ifs at hr with hsome habort hhead
  · obtain rfl := Option.some.inj hr
    exact List.suffix_rfl
  · obtain rfl := Option.some.inj hr
    exact List.suffix_rfl
  · exact reassemble_rest hr
  · obtain rfl := Option.some.inj hr
    exact List.suffix_rfl

end Sock

/-! ### The listener -/

open Sock

theorem listen_of_none {ch : List Datagram} (hr : recvfrom ch = none) (n : ℕ) :
    listen n ch = ⟨[], true⟩ := by
  cases n with
  | zero => rfl
  | succ n => rw [listen, hr]

theorem listen_succ_of_some {n : ℕ} {ch : List Datagram} {r : Received} (hr : recvfrom ch = some r) :
    listen (n + 1) ch =
      if r.nBytes > 0 then
        ⟨r.onReceive.toList ++ (listen n r.rest).received, (listen n r.rest).listening⟩
      else ⟨r.onReceive.toList, false⟩ := by
  rw [listen, hr]

/-- Turns beyond the number of datagrams make no difference. -/
theorem listen_congr {n m : ℕ} {ch : List Datagram} (hn : ch.length ≤ n) (hm : ch.length ≤ m) :
    listen n ch = listen m ch := by
  induction n generalizing m ch with
  | zero =>
    obtain rfl : ch = [] := List.length_eq_zero_iff.1 (by omega)
    rw [listen_of_none rfl, listen_of_none rfl]
  | succ n ih =>
    cases ch with
    | nil => rw [listen_of_none rfl, listen_of_none rfl]
    | cons d ch =>
      rw [List.length_cons] at hn hm
      obtain ⟨m, rfl⟩ : ∃ k, m = k + 1 := ⟨m - 1, by omega⟩
      cases hr : recvfrom (d :: ch) with
      | none => rw [listen_of_none hr, listen_of_none hr]
      | some r =>
        have hle := (recvfrom_rest hr).length_le
        rw [listen_succ_of_some hr, listen_succ_of_some hr, ih (m := m) (by omega) (by omega)]

/-- What is delivered while the listener stays alive has taken as many datagrams as sending it
takes. -/
theorem listening_cost {n : ℕ} {ch : List Datagram} (hch : ∀ d ∈ ch, d.length ≤ mMaxTxSize)
    (hon : (listen n ch).listening = true) :
    ((listen n ch).received.flatMap sendto).length ≤ ch.length := by
  induction n generalizing ch with
  | zero => exact Nat.zero_le _
  | succ n ih =>
    cases ch with
    | nil => exact Nat.le_refl _
    | cons d ch =>
      cases hr : recvfrom (d :: ch) with
      | none =>
        rw [listen_of_none hr]
        exact Nat.zero_le _
      | some r =>
        rw [listen_succ_of_some hr] at hon ⊢
        split at hon
        · rename_i hpos
          obtain ⟨x, hx, hcost, -⟩ := recvfrom_cost hch hr hpos
          have hrest := ih (fun d' hd' => hch d' (List.mem_cons_of_mem _ ((recvfrom_rest hr).subset hd')))
            hon
          rw [if_pos hpos]
          simp only [hx, Option.toList_some, List.singleton_append, List.flatMap_cons,
            List.length_append, List.length_cons]
          omega
        · cases hon

/-- A message that is not confusable is delivered, and the listener goes on. -/
theorem startBlockingListening_send (p : Payload) (hp : ¬ Confusable p.bytes) (ch : List Datagram) :
    startBlockingListening (send p.bytes ++ ch) =
      ⟨p.bytes :: (startBlockingListening ch).received, (startBlockingListening ch).listening⟩ := by
  have hr := recvfrom_send p hp ch
  have hpos : p.bytes.length > 0 := List.length_pos_iff.2 p.nonempty
  have hlen : ch.length < (send p.bytes ++ ch).length := by
    obtain ⟨d, rest, hd⟩ : ∃ d rest, send p.bytes ++ ch = d :: rest := by
      cases hs : send p.bytes ++ ch with
      | nil => rw [hs] at hr; cases hr
      | cons d rest => exact ⟨d, rest, rfl⟩
    rw [hd] at hr ⊢
    exact Nat.lt_succ_of_le (recvfrom_rest hr).length_le
  obtain ⟨k, hk⟩ : ∃ k, (send p.bytes ++ ch).length = k + 1 :=
    ⟨(send p.bytes ++ ch).length - 1, by omega⟩
  rw [startBlockingListening, hk, listen_succ_of_some hr, if_pos hpos,
    listen_congr (n := k) (m := ch.length) (by show ch.length ≤ k; omega) (Nat.le_refl _)]
  rfl

/-- A confusable message does not arrive, whatever follows it. -/
theorem startBlockingListening_confusable {p : Payload} (hp : Confusable p.bytes)
    (ps : List Payload) :
    startBlockingListening (send p.bytes ++ ps.flatMap fun p => send p.bytes) ≠
      ⟨p.bytes :: ps.map Payload.bytes, true⟩ := by
  intro h
  obtain ⟨hshort, hlooks⟩ := hp
  have hpos : p.bytes.length > 0 := List.length_pos_iff.2 p.nonempty
  have hsend : send p.bytes = [p.bytes] := by rw [send, if_neg hpos.ne', sendto, if_pos hshort]
  rw [hsend, List.singleton_append] at h
  have hch : ∀ d ∈ ps.flatMap fun p => send p.bytes, d.length ≤ mMaxTxSize := by
    intro d hd
    obtain ⟨p', -, hd⟩ := List.mem_flatMap.1 hd
    exact length_of_mem_send hd
  cases hr : recvfrom (p.bytes :: ps.flatMap fun p => send p.bytes) with
  | none =>
    rw [startBlockingListening, listen_of_none hr] at h
    cases h
  | some r =>
    rw [startBlockingListening, List.length_cons, listen_succ_of_some hr] at h
    split at h
    · rename_i hn
      obtain ⟨x, hx, -, hcost⟩ := recvfrom_cost (List.forall_mem_cons.2 ⟨hshort, hch⟩) hr hn
      obtain ⟨hreceived, hon⟩ := Heard.mk.inj h
      rw [hx, Option.toList_some, List.singleton_append] at hreceived
      obtain ⟨rfl, houts⟩ := List.cons.inj hreceived
      rcases hlooks with hhead | habort
      · -- the other messages would have to arrive in fewer datagrams than they were sent in
        have hlt := hcost hhead hshort
        have hrest := listening_cost
          (fun d hd => hch d ((recvfrom_rest hr).subset hd)) hon
        have hall : (ps.map Payload.bytes).flatMap sendto = ps.flatMap fun p => send p.bytes := by
          rw [List.flatMap_map]
          congr 1
          funext p'
          rw [send, if_neg (List.length_pos_iff.2 p'.nonempty).ne']
        rw [houts, hall] at hrest
        rw [sendto, if_pos hshort, List.length_singleton] at hlt
        omega
      · rw [recvfrom_abort hpos hshort habort] at hr
        obtain rfl := Option.some.inj hr
        exact Nat.lt_irrefl 0 hn
    · cases (Heard.mk.inj h).2

/-- **Round trip.**  A sequence of messages arrives, each of them once and in order, and the listener
goes on listening, exactly if no message that fits a datagram starts with the header or is the abort
message. -/
theorem round_trip_iff (ps : List Payload) :
    startBlockingListening (ps.flatMap fun p => send p.bytes) = ⟨ps.map Payload.bytes, true⟩ ↔
      ∀ p ∈ ps, ¬ Confusable p.bytes := by
  induction ps with
  | nil => exact iff_of_true rfl (List.forall_mem_nil _)
  | cons p ps ih =>
    rw [List.flatMap_cons, List.map_cons, List.forall_mem_cons]
    by_cases hp : Confusable p.bytes
    · exact iff_of_false (startBlockingListening_confusable hp ps) fun h => h.1 hp
    · rw [startBlockingListening_send p hp, ← ih]
      constructor
      · intro h
        obtain ⟨hreceived, hon⟩ := Heard.mk.inj h
        refine ⟨hp, ?_⟩
        rw [← (List.cons.inj hreceived).2, ← hon]
      · rintro ⟨-, h⟩
        rw [h]

/-- The messages `$MSGLEN$2`, `hi` and the text of the abort message. -/
def headerText : Payload := ⟨LOC_IPC_HEAD ++ [50], by decide, by decide⟩

def hiText : Payload := ⟨[104, 105], by decide, by decide⟩

def abortText : Payload := ⟨MSG_ABORT, by decide, by decide⟩

/-- A message that reads like a header is taken for one, and a message with the text of the abort
message stops the receiver. -/
theorem control_texts_lost :
    startBlockingListening ([headerText, hiText].flatMap fun p => send p.bytes) =
        ⟨[hiText.bytes], true⟩ ∧
      startBlockingListening ([abortText, hiText].flatMap fun p => send p.bytes) = ⟨[], false⟩ := by
  decide

end GpsHal
