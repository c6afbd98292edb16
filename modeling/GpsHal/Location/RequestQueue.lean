import Mathlib.Data.BitVec
import Mathlib.Logic.Function.Basic

/-!
# `RequestQueue` : requests that wait for an answer

The clients of the location API keep the requests that they have made in queues, first in first
out.  A queue remembers one session, or the address of one array of sessions; an answer that
carries it takes the request at the front.
-/

namespace GpsHal

/-- `RequestQueue`, for requests of type `R`; `mSessionArrayPtr` is an address, with 0 for
`nullptr`. -/
structure RequestQueue (R : Type*) where
  mSession : BitVec 32
  mSessionArrayPtr : ℕ
  mQueue : List R
  deriving DecidableEq, Repr

namespace RequestQueue

variable {R : Type*}

def empty : RequestQueue R := ⟨0, 0, []⟩

/-- `reset(uint32_t session)`: the waiting requests are deleted. -/
def reset (q : RequestQueue R) (session : BitVec 32) : RequestQueue R :=
  { q with mSession := session, mQueue := [] }

/-- `reset(uint32_t* sessionArrayPtr)` -/
def resetArray (q : RequestQueue R) (sessionArrayPtr : ℕ) : RequestQueue R :=
  { q.reset 0 with mSessionArrayPtr := sessionArrayPtr }

def push (q : RequestQueue R) (request : R) : RequestQueue R :=
  { q with mQueue := q.mQueue ++ [request] }

/-- The request at the front, if there is one, and what is left. -/
def pop (q : RequestQueue R) : Option R × RequestQueue R :=
  (q.mQueue.head?, { q with mQueue := q.mQueue.tail })

variable (q : RequestQueue R) (session : BitVec 32) (ptr : ℕ) (request : R)

@[simp] theorem mSession_reset : (q.reset session).mSession = session := rfl

@[simp] theorem mQueue_reset : (q.reset session).mQueue = [] := rfl

@[simp] theorem mSessionArrayPtr_reset :
    (q.reset session).mSessionArrayPtr = q.mSessionArrayPtr := rfl

@[simp] theorem mSession_push : (q.push request).mSession = q.mSession := rfl

@[simp] theorem mQueue_push : (q.push request).mQueue = q.mQueue ++ [request] := rfl

@[simp] theorem mSessionArrayPtr_push :
    (q.push request).mSessionArrayPtr = q.mSessionArrayPtr := rfl

@[simp] theorem mSession_pop : q.pop.2.mSession = q.mSession := rfl

@[simp] theorem mQueue_pop : q.pop.2.mQueue = q.mQueue.tail := rfl

@[simp] theorem fst_pop : q.pop.1 = q.mQueue.head? := rfl

@[simp] theorem mSessionArrayPtr_pop : q.pop.2.mSessionArrayPtr = q.mSessionArrayPtr := rfl

end RequestQueue

end GpsHal
