import GpsHal.Util.Nmea
import Mathlib.Data.List.Flatten
import Mathlib.Data.List.TakeDrop

/-!
# NMEA sentences : the sentence buffer

The sentences are printed piece by piece into a buffer of fixed size, with a marker and the size that
remains.  Most pieces are checked for truncation, some are not.  At the end the checksum is printed
behind the text, with a remaining size of its own (`utils/loc_nmea.cpp`).

## Main definitions

* `SentenceBuffer` : the buffer, its marker and the calls of `snprintf` so far.
* `SentenceBuffer.put`, `SentenceBuffer.putChecked` : the printing of a piece.
* `loc_nmea_put_checksum` : the end of a sentence.
* `NmeaSentence` : a well-formed sentence.

## Main results

* `SentenceBuffer.Fits.put` : what is printed as long as there is room.
* `SentenceBuffer.Fits.checksum` : the sentence is complete and well formed.
-/

namespace GpsHal

/-- A call of `snprintf`, with the index in the buffer it prints at and its size. -/
structure SnprintfCall where
  offset : ℕ
  size : ℤ
  deriving DecidableEq, Repr

/-- The size is positive and does not go beyond the buffer, so that nothing is written there. -/
def SnprintfCall.Safe (bufSize : ℕ) (call : SnprintfCall) : Prop :=
  0 < call.size ∧ call.offset + call.size ≤ bufSize

instance (bufSize : ℕ) : DecidablePred (SnprintfCall.Safe bufSize) :=
  fun _ => inferInstanceAs (Decidable (_ ∧ _))

/-- What is printed with a size: as much as fits before the terminating NUL.  A negative size is a
large `size_t`. -/
def printed (size : ℤ) (piece : List Char) : List Char :=
  if size < 0 then piece else piece.take (size.toNat - 1)

/-- A buffer. -/
structure SentenceBuffer where
  /-- What the buffer holds before its first NUL. -/
  text : List Char
  pMarker : ℕ
  lengthRemaining : ℤ
  calls : List SnprintfCall
  deriving DecidableEq, Repr

namespace SentenceBuffer

/-- The buffer at the start of a sentence, still with its old text. -/
def start (bufSize : ℕ) (b : SentenceBuffer) : SentenceBuffer :=
  { b with pMarker := 0, lengthRemaining := bufSize }

/-- A piece is printed and the marker advanced by its length.  Behind the first NUL, or with size 0,
nothing changes the text. -/
def put (b : SentenceBuffer) (piece : List Char) : SentenceBuffer where
  text :=
    if b.lengthRemaining = 0 ∨ b.text.length < b.pMarker then b.text
    else b.text.take b.pMarker ++ printed b.lengthRemaining piece
  pMarker := b.pMarker + piece.length
  lengthRemaining := b.lengthRemaining - piece.length
  calls := b.calls ++ [⟨b.pMarker, b.lengthRemaining⟩]

/-- A piece is printed; if it has been cut off, the sentence is given up. -/
def putChecked (b : SentenceBuffer) (piece : List Char) : Except SentenceBuffer SentenceBuffer :=
  if (piece.length : ℤ) ≥ b.lengthRemaining then .error (b.put piece) else .ok (b.put piece)

/-- Pieces are printed one after the other. -/
def putAll (b : SentenceBuffer) (pieces : List (List Char)) : Except SentenceBuffer SentenceBuffer :=
  pieces.foldlM putChecked b

end SentenceBuffer

/-! ### The checksum -/

/-- The bytes of a text, xored. -/
def nmeaXor (body : List Char) : UInt8 := body.foldl (fun checksum c => checksum ^^^ c.toNat.toUInt8) 0

def CR : Char := Char.ofNat 13
def LF : Char := Char.ofNat 10

/-- The format `*%02X` and the end of the line. -/
def checksumText (checksum : UInt8) : List Char :=
  '*' :: (List.replicate (2 - (formatX checksum.toNat).length) '0' ++ formatX checksum.toNat ++
    [CR, LF])

/-- `loc_nmea_put_checksum`: the text behind the first character is read up to its end. -/
def loc_nmea_put_checksum (b : SentenceBuffer) (maxSize : ℕ) : SentenceBuffer :=
  let body := b.text.tail
  let pNmea : SentenceBuffer :=
    { b with pMarker := 1 + body.length, lengthRemaining := maxSize - body.length - 1 }
  pNmea.put (checksumText (nmeaXor body))

/-! ### Well-formed sentences -/

/-- The upper-case hexadecimal digit. -/
def hexDigit (n : ℕ) : Char := (if n < 10 then Char.ofNat (48 + n) else Char.ofNat (55 + n))

/-- No dollar sign, asterisk or NUL. -/
def Plain (body : List Char) : Prop := ∀ c ∈ body, c ≠ '$' ∧ c ≠ '*' ∧ c ≠ Char.ofNat 0

instance (body : List Char) : Decidable (Plain body) :=
  List.decidableBAll (fun c => c ≠ '$' ∧ c ≠ '*' ∧ c ≠ Char.ofNat 0) body

/-- A complete sentence with the body, its checksum and the end of the line. -/
def nmeaSentence (body : List Char) : List Char :=
  '$' :: (body ++ ['*', hexDigit ((nmeaXor body).toNat / 16), hexDigit ((nmeaXor body).toNat % 16),
    CR, LF])

/-- The sentence is complete, and its body is plain. -/
def NmeaSentence (sentence : List Char) : Prop := ∃ body, Plain body ∧ sentence = nmeaSentence body

theorem checksumText_eq (checksum : UInt8) : checksumText checksum =
    ['*', hexDigit (checksum.toNat / 16), hexDigit (checksum.toNat % 16), CR, LF] := by
  have hall : ∀ n < 256, List.replicate (2 - (formatX n).length) '0' ++ formatX n =
      [hexDigit (n / 16), hexDigit (n % 16)] := by decide +kernel
  unfold checksumText
  rw [hall _ checksum.toNat_lt]
  rfl

namespace SentenceBuffer

variable {b : SentenceBuffer} {bufSize : ℕ} {written : List Char}

/-- A text has been written in front of the marker, with room behind it, and all calls were safe. -/
structure Fits (bufSize : ℕ) (written : List Char) (b : SentenceBuffer) : Prop where
  marker : b.pMarker = written.length
  taken : b.text.take written.length = written
  remaining : b.lengthRemaining = bufSize - written.length
  room : written.length < bufSize
  safe : ∀ call ∈ b.calls, call.Safe bufSize

theorem Fits.le_length (h : b.Fits bufSize written) : written.length ≤ b.text.length := by
  have := congrArg List.length h.taken
  rw [List.length_take] at this
  omega

/-- A piece that has room is appended, and ends the text. -/
theorem Fits.put (h : b.Fits bufSize written) (piece : List Char)
    (hroom : written.length + piece.length < bufSize) :
    (b.put piece).Fits bufSize (written ++ piece) ∧ (b.put piece).text = written ++ piece := by
  have hle := h.le_length
  have hmarker := h.marker
  have hremaining := h.remaining
  have hprinted : printed b.lengthRemaining piece = piece := by
    unfold printed
    rw [if_neg (by omega)]
    exact List.take_of_length_le (by omega)
  have htext : (b.put piece).text = written ++ piece := by
    unfold SentenceBuffer.put
    rw [if_neg (by omega), hmarker, h.taken, hprinted]
  refine ⟨⟨?_, ?_, ?_, ?_, ?_⟩, htext⟩
  · rw [List.length_append]
    exact congrArg (· + piece.length) hmarker
  · rw [htext, List.take_length]
  · change b.lengthRemaining - piece.length = _
    rw [List.length_append]
    omega
  · rwa [List.length_append]
  · intro call hcall
    rcases List.mem_append.1 hcall with hcall | hcall
    · exact h.safe call hcall
    · rw [List.mem_singleton.1 hcall]
      change 0 < b.lengthRemaining ∧ (b.pMarker : ℤ) + b.lengthRemaining ≤ bufSize
      omega

theorem Fits.putChecked (h : b.Fits bufSize written) (piece : List Char)
    (hroom : written.length + piece.length < bufSize) : b.putChecked piece = .ok (b.put piece) := by
  have hremaining := h.remaining
  unfold SentenceBuffer.putChecked
  exact if_neg (by omega)

/-- Pieces that have room are all appended. -/
theorem Fits.putAll (h : b.Fits bufSize written) (pieces : List (List Char))
    (hroom : written.length + pieces.flatten.length < bufSize) :
    ∃ b', b.putAll pieces = .ok b' ∧ b'.Fits bufSize (written ++ pieces.flatten) := by
  induction pieces generalizing b written with
  | nil =>
    rw [List.flatten_nil, List.append_nil]
    exact ⟨b, rfl, h⟩
  | cons piece pieces ih =>
    rw [List.flatten_cons, List.length_append] at hroom
    obtain ⟨b', heq, hfits⟩ := ih (h.put piece (by omega)).1 (by
      rw [List.length_append]
      omega)
    refine ⟨b', ?_, ?_⟩
    · unfold SentenceBuffer.putAll at heq ⊢
      rw [List.foldlM_cons, h.putChecked piece (by omega)]
      exact heq
    · rwa [List.flatten_cons, ← List.append_assoc]

/-- The start of a sentence. -/
theorem fits_start (hbuf : 0 < bufSize) (hsafe : ∀ call ∈ b.calls, call.Safe bufSize) :
    (b.start bufSize).Fits bufSize [] :=
  ⟨rfl, rfl, (Int.sub_zero _).symm, hbuf, hsafe⟩

/-- With room for the checksum the sentence is complete. -/
theorem Fits.checksum {body : List Char} (h : b.Fits bufSize ('$' :: body))
    (htext : b.text = '$' :: body) (hroom : body.length + 6 < bufSize) :
    (loc_nmea_put_checksum b bufSize).text = nmeaSentence body ∧
      ∀ call ∈ (loc_nmea_put_checksum b bufSize).calls, call.Safe bufSize := by
  have hfits : SentenceBuffer.Fits bufSize ('$' :: body)
      { b with pMarker := 1 + body.length, lengthRemaining := bufSize - body.length - 1 } := by
    refine ⟨?_, h.taken, ?_, h.room, h.safe⟩
    · rw [List.length_cons, Nat.add_comm]
    · rw [List.length_cons]
      dsimp only
      omega
  have hlength : (checksumText (nmeaXor body)).length = 5 := by
    rw [checksumText_eq]
    rfl
  obtain ⟨hput, hend⟩ := hfits.put (checksumText (nmeaXor body)) (by
    rw [hlength, List.length_cons]
    omega)
  have heq : loc_nmea_put_checksum b bufSize = SentenceBuffer.put
      { b with pMarker := 1 + body.length, lengthRemaining := bufSize - body.length - 1 }
      (checksumText (nmeaXor body)) := by
    unfold loc_nmea_put_checksum
    rw [htext, List.tail_cons]
  rw [heq]
  refine ⟨?_, hput.safe⟩
  rw [hend, checksumText_eq, List.cons_append]
  rfl

end SentenceBuffer

end GpsHal
