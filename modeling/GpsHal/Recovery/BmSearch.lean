import GpsHal.Util.Occurrence
import Mathlib.Algebra.Group.Int.Defs
import Mathlib.Algebra.Group.Nat.Defs

/-!
# Search for a string

`recovery_updater` finds the version of the modem firmware by a Boyer–Moore search.

## Main definitions

* `bm_make_delta1`, `bm_make_delta2`, `bm_search` : the search, for a pattern that is not empty.
* `Finds` : what it is to return.
-/

namespace GpsHal

/-- What the language leaves undefined. -/
inductive Fault where
  | outOfBounds
  | overflow
  deriving DecidableEq, Repr

/-- Read a character of a string. -/
def charAt (str : List UInt8) (k : ℤ) : Except Fault UInt8 :=
  if 0 ≤ k then
    match str[k.toNat]? with
    | some c => .ok c
    | none => .error .outOfBounds
  else .error .outOfBounds

/-- An array of `int`. -/
structure IntArray where
  size : ℕ
  entry : ℕ → ℤ

namespace IntArray

def get (a : IntArray) (k : ℤ) : Except Fault ℤ :=
  if 0 ≤ k ∧ k < a.size then .ok (a.entry k.toNat) else .error .outOfBounds

def set (a : IntArray) (k : ℤ) (v : ℤ) : Except Fault IntArray :=
  if 0 ≤ k ∧ k < a.size then .ok { a with entry := Function.update a.entry k.toNat v }
  else .error .outOfBounds

end IntArray

/-- The conversion of a `size_t` to an `int`. -/
def sizeToInt (n : ℕ) : ℤ := (BitVec.ofNat 32 n).toInt

def ALPHABET_LEN : ℕ := 256

/-- The loop of `max_suffix_len` from `i` on, which is `n` less than `p`. -/
def maxSuffixLenFrom (str : List UInt8) (p : ℕ) : ℕ → ℕ → Except Fault ℕ
  | 0, i => do
    let _ ← charAt str (p - i)
    let _ ← charAt str (str.length - 1 - i)
    -- `i < p` is tested last
    return i
  | n + 1, i => do
    let c ← charAt str (p - i)
    let c' ← charAt str (str.length - 1 - i)
    if c = c' then maxSuffixLenFrom str p n (i + 1) else return i

/-- The longest suffix that ends at `str[p]` too. -/
def max_suffix_len (str : List UInt8) (p : ℕ) : Except Fault ℕ := maxSuffixLenFrom str p p 0

/-- The table of distances between the last character of `pat` and the rightmost occurrence of a
character in it. -/
def bm_make_delta1 (pat : List UInt8) : Except Fault IntArray :=
  (List.range (pat.length - 1)).foldlM (fun delta1 (i : ℕ) => do
    let c ← charAt pat i
    delta1.set c.toNat (sizeToInt (pat.length - 1 - i))) ⟨ALPHABET_LEN, fun _ => sizeToInt pat.length⟩

/-- `strncmp(a, b, n) == 0` -/
def strncmpEq : ℕ → List UInt8 → List UInt8 → Except Fault Bool
  | 0, _, _ => .ok true
  | n + 1, x :: a, y :: b =>
    if x ≠ y then .ok false else if x = 0 then .ok true else strncmpEq n a b
  | _ + 1, _, _ => .error .outOfBounds

/-- The first loop of `bm_make_delta2`, with `last_prefix` and the table. -/
def delta2Prefixes (pat : List UInt8) (delta2 : IntArray) : Except Fault (ℕ × IntArray) :=
  (List.range pat.length).reverse.foldlM (fun (s : ℕ × IntArray) p => do
    let isPrefix ← strncmpEq (pat.length - p) (pat.drop p) pat
    let last_prefix := if isPrefix then p + 1 else s.1
    let delta2 ← s.2.set p (sizeToInt ( last_prefix + (pat.length - 1 - p)))
    return ( last_prefix, delta2)) (pat.length - 1, delta2)

/-- The second loop of `bm_make_delta2`. -/
def delta2Suffixes (pat : List UInt8) (delta2 : IntArray) : Except Fault IntArray :=
  (List.range (pat.length - 1)).foldlM (fun delta2 (p : ℕ) => do
    let suf_len ← max_suffix_len pat p
    let c ← charAt pat (p - suf_len)
    let c' ← charAt pat (pat.length - 1 - suf_len)
    if c ≠ c' then delta2.set (pat.length - 1 - suf_len) (sizeToInt (pat.length - 1 - p + suf_len))
    else return delta2) delta2

/-- The table of the next possible matches after a mismatch at `pat[p]`. -/
def bm_make_delta2 (pat : List UInt8) : Except Fault IntArray := do
  let s ← delta2Prefixes pat ⟨pat.length, fun _ => 0⟩
  delta2Suffixes pat s.2

/-- The inner loop of `bm_search`, with `j = n - 1` : the values of `i` and `j` after it. -/
def compareBack (str pat : List UInt8) : ℕ → ℤ → Except Fault (ℤ × ℤ)
  | 0, i => .ok (i, -1)
  | n + 1, i => do
    let c ← charAt str i
    let c' ← charAt pat n
    if c = c' then compareBack str pat n (i - 1) else return (i, (n : ℤ))

/-- The body of the outer loop of `bm_search` : the offset of the pointer that it returns, or the
new value of `i`. -/
def searchStep (str pat : List UInt8) (delta1 delta2 : IntArray) (i : ℤ) :
    Except Fault (ℤ ⊕ ℤ) := do
  let (i, j) ← compareBack str pat pat.length i
  if j < 0 then return .inl (i + 1)
  let c ← charAt str i
  let d1 ← delta1.get c.toNat
  let d2 ← delta2.get j
  let i := i + max d1 d2
  if i < 2 ^ 31 then return .inr i else throw .overflow

/-- The outer loop, a number of times at most. -/
def searchFrom (str pat : List UInt8) (delta1 delta2 : IntArray) :
    ℕ → ℤ → Option (Except Fault (Option ℤ))
  | 0, _ => none
  | fuel + 1, i =>
    if i < sizeToInt str.length then
      match searchStep str pat delta1 delta2 i with
      | .error f => some (.error f)
      | .ok (.inl k) => some (.ok (some k))
      | .ok (.inr i) => searchFrom str pat delta1 delta2 fuel i
    else some (.ok none)

def bm_search (fuel : ℕ) (str pat : List UInt8) : Option (Except Fault (Option ℤ)) :=
  let tables : Except Fault (IntArray × IntArray) := do
    let delta1 ← bm_make_delta1 pat
    let delta2 ← bm_make_delta2 pat
    return (delta1, delta2)
  match tables with
  | .error f => some (.error f)
  | .ok (delta1, delta2) =>
    if pat.length = 0 then some (.ok (some 0))
    else searchFrom str pat delta1 delta2 fuel (sizeToInt (pat.length - 1))

/-- The result is the first occurrence of the pattern, or `NULL` if there is none. -/
def Finds (str pat : List UInt8) : Option ℤ → Prop
  | some k => ∃ n : ℕ, k = n ∧ OccursAt pat str n ∧ ∀ n' < n, ¬ OccursAt pat str n'
  | none => ∀ n, ¬ OccursAt pat str n

/-- The search terminates, reads within its arrays and finds what there is. -/
def Searches (str pat : List UInt8) : Prop :=
  ∃ fuel r, bm_search fuel str pat = some (.ok r) ∧ Finds str pat r

end GpsHal
