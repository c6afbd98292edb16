import Mathlib.Data.Int.Notation
import Mathlib.Data.Nat.Notation

/-!
# Numbers in C strings

The bytes of a C string, and the functions of the C library that read a number from its beginning.
A `long` has 64 bits, and a number that does not fit is the nearest one that does.

## Main definitions

* `byte`, `cstring` : characters and literals.
* `strtol`, `strtoull`, `atoi` : the functions.
* `Libc` : what is left open, the conversions to and between floating-point numbers.

## Main results

* `strtoull_toDigits`, `strtol_toDigits` : a number that is printed in decimal is read back.
-/

namespace GpsHal

/-- The byte of a character constant. -/
def byte (c : Char) : UInt8 := c.toNat.toUInt8

/-- The bytes of a string literal. -/
def cstring (s : String) : List UInt8 := s.toList.map byte

/-- The space, and from the tab to the carriage return. -/
def isspace (c : UInt8) : Bool := c == byte ' ' || (9 ≤ c && c ≤ 13)

def tolower (c : UInt8) : UInt8 := if byte 'A' ≤ c && c ≤ byte 'Z' then c + 32 else c

/-- The value of a digit or of a letter that is one. -/
def digitValue (c : UInt8) : Option ℕ :=
  if byte '0' ≤ c && c ≤ byte '9' then some (c - byte '0').toNat
  else if byte 'a' ≤ tolower c && tolower c ≤ byte 'z' then some ((tolower c - byte 'a').toNat + 10)
  else none

/-- The number that the leading digits continue. -/
def readDigits (base : ℕ) : ℕ → List UInt8 → ℕ
  | n, [] => n
  | n, c :: cs =>
    match digitValue c with
    | some d => if d < base then readDigits base (base * n + d) cs else n
    | none => n

/-- The sign, and the number without it. -/
def readSigned (base : ℕ) (s : List UInt8) : Bool × ℕ :=
  let s := s.dropWhile isspace
  let negative := s.head? == some (byte '-')
  let s := if negative || s.head? == some (byte '+') then s.tail else s
  -- a prefix that no digit follows is read as the number 0 as well
  let s := if base == 16 && (s.take 2).map tolower == cstring "0x" then s.drop 2 else s
  (negative, readDigits base 0 s)

def strtol (s : List UInt8) (base : ℕ) : ℤ :=
  let n := readSigned base s
  if n.1 then max (-9223372036854775808) (-(n.2 : ℤ)) else min 9223372036854775807 (n.2 : ℤ)

def strtoull (s : List UInt8) (base : ℕ) : BitVec 64 :=
  let n := readSigned base s
  if 18446744073709551615 < n.2 then BitVec.allOnes 64
  else if n.1 then -BitVec.ofNat 64 n.2 else BitVec.ofNat 64 n.2

def atoi (s : List UInt8) : BitVec 32 := BitVec.ofInt 32 (strtol s 10)

example : strtol (cstring " -0x1Fz") 16 = -31 ∧ atoi (cstring "4294967295") = -1 := by decide

/-- The conversions to floating-point numbers, of the formats `D` and `F`. -/
structure Libc (D F : Type) where
  atof : List UInt8 → D
  /-- `double` to `float` -/
  narrow : D → F
  /-- `int` to `float` -/
  ofInt : BitVec 32 → F

/-! ### Decimal numbers -/

theorem toNat_byte_of_isDigit {c : Char} (hc : c.isDigit = true) : (byte c).toNat = c.toNat := by
  obtain ⟨-, hle⟩ := Char.isDigit_iff_toNat.1 hc
  have h9 : '9'.toNat = 57 := rfl
  rw [byte, Nat.toUInt8, UInt8.toNat_ofNat']
  omega

theorem digitValue_byte {c : Char} (hc : c.isDigit = true) :
    digitValue (byte c) = some (c.toNat - '0'.toNat) := by
  obtain ⟨hge, hle⟩ := Char.isDigit_iff_toNat.1 hc
  have hval := toNat_byte_of_isDigit hc
  have h0 : (byte '0').toNat = '0'.toNat := rfl
  have h9 : (byte '9').toNat = '9'.toNat := rfl
  have hlow : byte '0' ≤ byte c := UInt8.le_iff_toNat_le.2 (by rw [hval, h0]; exact hge)
  have hhigh : byte c ≤ byte '9' := UInt8.le_iff_toNat_le.2 (by rw [hval, h9]; exact hle)
  have hif : (byte '0' ≤ byte c && byte c ≤ byte '9') = true := by
    rw [decide_eq_true hlow, decide_eq_true hhigh]
    rfl
  rw [digitValue, if_pos hif, UInt8.toNat_sub_of_le _ _ hlow, hval, h0]

theorem readDigits_map {cs : List Char} (h : ∀ c ∈ cs, c.isDigit = true) (n : ℕ) :
    readDigits 10 n (cs.map byte) = Nat.ofDigitChars 10 cs n := by
  induction cs generalizing n with
  | nil => rw [Nat.ofDigitChars_nil]; rfl
  | cons c cs ih =>
    have hc := h c List.mem_cons_self
    have hlt : c.toNat - '0'.toNat < 10 := by
      obtain ⟨-, hle⟩ := Char.isDigit_iff_toNat.1 hc
      have h0 : '0'.toNat = 48 := rfl
      have h9 : '9'.toNat = 57 := rfl
      omega
    rw [List.map_cons, readDigits, digitValue_byte hc]
    dsimp only
    rw [if_pos hlt, ih fun c' hc' => h c' (List.mem_cons_of_mem c hc'), Nat.ofDigitChars_cons]

theorem isDigit_toDigits {n : ℕ} : ∀ c ∈ Nat.toDigits 10 n, c.isDigit = true :=
  fun _ hc => Nat.isDigit_of_mem_toDigits (by omega) (by omega) hc

/-- What is read from a printed number. -/
theorem readSigned_toDigits (n : ℕ) : readSigned 10 ((Nat.toDigits 10 n).map byte) = (false, n) := by
  have hdigits := isDigit_toDigits (n := n)
  have hread := readDigits_map hdigits 0
  rw [Nat.ofDigitChars_toDigits (by omega) (by omega)] at hread
  obtain ⟨c, cs, hcs⟩ := List.exists_cons_of_ne_nil (Nat.toDigits_ne_nil (n := n) (b := 10))
  rw [hcs] at hread hdigits ⊢
  have hc := hdigits c List.mem_cons_self
  have hval := toNat_byte_of_isDigit hc
  obtain ⟨hge, hle⟩ := Char.isDigit_iff_toNat.1 hc
  -- the number starts with a digit, which is neither a blank nor a sign
  have hne : ∀ k : UInt8, k.toNat < 48 → byte c ≠ k := by
    rintro k hk rfl
    have h0 : '0'.toNat = 48 := rfl
    omega
  have hspace : isspace (byte c) = false := by
    have h13 : ¬ byte c ≤ 13 := fun hle13 => by
      have := UInt8.le_iff_toNat_le.1 hle13
      have h0 : '0'.toNat = 48 := rfl
      have h13 : (13 : UInt8).toNat = 13 := rfl
      omega
    rw [isspace, beq_eq_false_iff_ne.2 (hne _ (by decide)), decide_eq_false h13, Bool.and_false]
    rfl
  have hminus : (some (byte c) == some (byte '-')) = false :=
    beq_eq_false_iff_ne.2 fun h => hne _ (by decide) (Option.some.inj h)
  have hplus : (some (byte c) == some (byte '+')) = false :=
    beq_eq_false_iff_ne.2 fun h => hne _ (by decide) (Option.some.inj h)
  rw [readSigned, List.map_cons, List.dropWhile_cons_of_neg (by rw [hspace]; decide)]
  simp only [List.head?_cons, hminus, hplus, Bool.or_self, Bool.false_eq_true, if_false]
  exact congrArg (Prod.mk false) hread

theorem readSigned_neg (n : ℕ) :
    readSigned 10 (('-' :: Nat.toDigits 10 n).map byte) = (true, n) := by
  have hread := readDigits_map (isDigit_toDigits (n := n)) 0
  rw [Nat.ofDigitChars_toDigits (by omega) (by omega)] at hread
  exact congrArg (Prod.mk true) hread

theorem strtoull_toDigits {n : ℕ} (h : n < 18446744073709551616) :
    strtoull ((Nat.toDigits 10 n).map byte) 10 = BitVec.ofNat 64 n := by
  rw [strtoull, readSigned_toDigits]
  dsimp only
  rw [if_neg (by omega), if_neg (by decide)]

theorem strtol_toDigits {n : ℕ} (h : n < 9223372036854775808) :
    strtol ((Nat.toDigits 10 n).map byte) 10 = n := by
  rw [strtol, readSigned_toDigits]
  dsimp only
  rw [if_neg (by decide)]
  omega

end GpsHal
