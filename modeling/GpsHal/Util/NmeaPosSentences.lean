import GpsHal.Util.NmeaPos

/-!
# NMEA sentences : the position is complete

Every sentence of a position report has room in its buffer, as long as the two altitudes that are
`double`s are less than `2 ^ 128` m: the `float`s, which may be of any value, are short enough.  What is
pushed are then well-formed sentences, and the number of their fields does not depend on what the report
has; it is that of the blank sentence.

## Main definitions

* `NmeaPart` : a plain text with so many commas and so many characters at most.
* `NmeaLine` : one line.
* `NmeaReads` : a complete sentence with its talker, its kind and the number of its commas.

## Main results

* `printSentence_eq` : a sentence whose pieces have room is complete.
* `PosReport.generateGsas_reads` : the sentences of the satellites.
* `PosReport.loc_nmea_generate_pos_matches` : all sentences of a report.
-/

namespace GpsHal

/-! ### Parts of a sentence -/

/-- A plain text in one line, with so many commas and so many characters at most. -/
structure NmeaPart (commas maxLength : ℕ) (s : List Char) : Prop where
  plain : Plain s
  line : s.count LF = 0
  count : s.count ',' = commas
  length_le : s.length ≤ maxLength

instance (commas maxLength : ℕ) (s : List Char) : Decidable (NmeaPart commas maxLength s) :=
  decidable_of_iff (Plain s ∧ s.count LF = 0 ∧ s.count ',' = commas ∧ s.length ≤ maxLength)
    ⟨fun h => ⟨h.1, h.2.1, h.2.2.1, h.2.2.2⟩, fun h => ⟨h.plain, h.line, h.count, h.length_le⟩⟩

namespace NmeaPart

variable {j k m n : ℕ} {s t : List Char} {c : Char}

theorem append (hs : NmeaPart j m s) (ht : NmeaPart k n t) : NmeaPart (j + k) (m + n) (s ++ t) where
  plain := plain_append hs.plain ht.plain
  line := by rw [List.count_append, hs.line, ht.line]
  count := by rw [List.count_append, hs.count, ht.count]
  length_le := by
    rw [List.length_append]
    exact Nat.add_le_add hs.length_le ht.length_le

theorem cons (hc : NmeaPart j m [c]) (ht : NmeaPart k n t) : NmeaPart (j + k) (m + n) (c :: t) :=
  hc.append ht

theorem mono (hs : NmeaPart k m s) (h : m ≤ n) : NmeaPart k n s :=
  ⟨hs.plain, hs.line, hs.count, hs.length_le.trans h⟩

theorem flatten {pieces : List (List Char)} (h : ∀ piece ∈ pieces, NmeaPart k n piece) :
    NmeaPart (pieces.length * k) (pieces.length * n) pieces.flatten := by
  induction pieces with
  | nil => exact ⟨fun c hc => absurd hc List.not_mem_nil, rfl, by simp, by simp⟩
  | cons piece pieces ih =>
    have hrest := ih fun p hp => h p (List.mem_cons_of_mem _ hp)
    have hall := (h piece List.mem_cons_self).append hrest
    rw [List.flatten_cons, List.length_cons, Nat.succ_mul, Nat.succ_mul, Nat.add_comm _ k,
      Nat.add_comm _ n]
    exact hall

/-- One of two parts. -/
theorem ite {p : Prop} [Decidable p] (hs : NmeaPart k n s) (ht : NmeaPart k n t) :
    NmeaPart k n (if p then s else t) := by
  split
  · exact hs
  · exact ht

end NmeaPart

/-! ### Numbers -/

/-- The character is in no number. -/
def NotNumeric (c : Char) : Prop :=
  c.isDigit = false ∧ c ≠ '-' ∧ c ≠ '.' ∧ c ≠ 'i' ∧ c ≠ 'n' ∧ c ≠ 'f' ∧ c ≠ 'a'

instance : DecidablePred NotNumeric := fun _ => inferInstanceAs (Decidable (_ ∧ _))

theorem notNumeric_LF : NotNumeric LF := by decide

theorem notNumeric_comma : NotNumeric ',' := by decide

section

variable {c : Char} (hc : NotNumeric c)

include hc

theorem count_toDigits (n : ℕ) : (Nat.toDigits 10 n).count c = 0 := by
  refine List.count_eq_zero.2 fun hmem => ?_
  have hdigit := Nat.isDigit_of_mem_toDigits (by decide) (by decide) hmem
  exact absurd (hc.1.symm.trans hdigit) (by decide)

theorem count_replicate_zero (n : ℕ) : (List.replicate n '0').count c = 0 := by
  refine List.count_eq_zero.2 fun hmem => ?_
  have hdigit := hc.1
  rw [List.eq_of_mem_replicate hmem] at hdigit
  exact absurd hdigit (by decide)

theorem count_formatD (width : ℕ) (n : ℤ) : (formatD width n).count c = 0 := by
  unfold formatD
  dsimp only
  split
  · rw [List.count_cons_of_ne (Ne.symm hc.2.1), List.count_append, count_toDigits hc,
      count_replicate_zero hc]
  · rw [List.count_append, count_toDigits hc, count_replicate_zero hc]

theorem count_sign (negative : Bool) : (if negative then ['-'] else []).count c = 0 := by
  split
  · exact List.count_eq_zero.2 fun hmem => hc.2.1 (List.mem_singleton.1 hmem)
  · rfl

/-- What is printed for a number that is not finite. -/
theorem count_nonfinite (zero : Prop) [Decidable zero] :
    (if zero then ['i', 'n', 'f'] else ['n', 'a', 'n']).count c = 0 := by
  obtain ⟨-, -, -, hi, hn, hf, ha⟩ := hc
  split <;> simp [hi.symm, hn.symm, hf.symm, ha.symm]

theorem count_formatF1 (a : CFloat) : (formatF1 a).count c = 0 := by
  unfold formatF1
  dsimp only
  split
  · rw [List.count_append, count_sign hc, count_nonfinite hc]
  · rw [List.count_append, List.count_append, List.count_cons_of_ne (Ne.symm hc.2.2.1), count_sign hc,
      count_toDigits hc, count_toDigits hc]

theorem count_formatFixed (precision : ℕ) (a : CDouble) : (formatFixed precision a).count c = 0 := by
  unfold formatFixed
  dsimp only
  split
  · rw [List.count_append, count_sign hc, count_nonfinite hc]
  · rw [List.count_append, List.count_append, List.count_cons_of_ne (Ne.symm hc.2.2.1), count_sign hc,
      count_toDigits hc, count_formatD hc]

end

theorem part_formatD (width : ℕ) {d n : ℕ} (hd : 0 < d) (hn : n < 10 ^ d) :
    NmeaPart 0 (max width d) (formatD width n) :=
  ⟨plain_formatD _ _, count_formatD notNumeric_LF _ _, count_formatD notNumeric_comma _ _,
    length_formatD_ofNat_le width hd hn⟩

/-- With a sign, if it is negative. -/
theorem part_formatD_int (width : ℕ) {d : ℕ} {n : ℤ} (hd : 0 < d) (hn : n.natAbs < 10 ^ d) :
    NmeaPart 0 (max width (d + 1)) (formatD width n) :=
  ⟨plain_formatD _ _, count_formatD notNumeric_LF _ _, count_formatD notNumeric_comma _ _,
    length_formatD_le width hd hn⟩

theorem part_formatF1 (a : CFloat) : NmeaPart 0 42 (formatF1 a) :=
  ⟨plain_formatF1 a, count_formatF1 notNumeric_LF a, count_formatF1 notNumeric_comma a,
    length_formatF1_le a⟩

/-- The number is less than `2 ^ 128`, as a `float` is, or it is not finite. -/
def CDouble.Small (a : CDouble) : Prop :=
  (a.bits.extractLsb' 52 11).toNat ≤ 1150 ∨ (a.bits.extractLsb' 52 11).toNat = 2047

instance (a : CDouble) : Decidable a.Small := inferInstanceAs (Decidable (_ ∨ _))

/-- A small number has 39 digits before the point. -/
theorem doubleUnits_lt (precision : ℕ) {exponent fraction : ℕ} (he : exponent ≤ 1150)
    (hf : fraction < 2 ^ 52) : doubleUnits precision exponent fraction / 10 ^ precision < 10 ^ 39 := by
  have hsignificand : (if exponent = 0 then fraction else 2 ^ 52 + fraction) < 2 ^ 53 := by
    split_ifs <;> omega
  have hexponent : (if exponent = 0 then 1 else exponent) ≤ 1150 := by split_ifs <;> omega
  have hten : 0 < 10 ^ precision := Nat.pow_pos (by decide)
  unfold doubleUnits
  dsimp only
  generalize (if exponent = 0 then fraction else 2 ^ 52 + fraction) = significand at *
  generalize (if exponent = 0 then 1 else exponent) = exponent at *
  split_ifs with hlarge
  · rw [Nat.mul_div_cancel_left _ hten]
    calc significand * 2 ^ (exponent - 1075) ≤ 2 ^ 53 * 2 ^ (1150 - 1075) :=
          Nat.mul_le_mul hsignificand.le (Nat.pow_le_pow_right (by decide) (by omega))
      _ < 10 ^ 39 := by decide
  · have hround := roundHalfEven_le (10 ^ precision * significand) (2 ^ (1075 - exponent))
    have hquotient := Nat.div_le_self (10 ^ precision * significand) (2 ^ (1075 - exponent))
    -- rounding adds a unit at most
    have hunits : roundHalfEven (10 ^ precision * significand) (2 ^ (1075 - exponent)) ≤
        10 ^ precision * (significand + 1) := by
      rw [Nat.mul_succ]
      omega
    have hdiv := Nat.div_le_of_le_mul hunits
    have : (2 : ℕ) ^ 53 < 10 ^ 39 := by decide
    omega

theorem length_formatFixed_le {precision : ℕ} {a : CDouble} (h : a.Small) (hp : 0 < precision) :
    (formatFixed precision a).length ≤ 41 + precision := by
  have hsign : (if a.bits.msb then ['-'] else []).length ≤ 1 := by split <;> decide
  have hfraction : (a.bits.extractLsb' 0 52).toNat < 2 ^ 52 := (a.bits.extractLsb' 0 52).isLt
  unfold CDouble.Small at h
  unfold formatFixed
  generalize (if a.bits.msb then ['-'] else []) = sign at *
  generalize (a.bits.extractLsb' 52 11).toNat = exponent at *
  generalize (a.bits.extractLsb' 0 52).toNat = fraction at *
  dsimp only
  split_ifs with hfinite hzero
  · rw [List.length_append]
    exact Nat.add_le_add hsign (show 3 ≤ 40 + precision by omega) |>.trans (by omega)
  · rw [List.length_append]
    exact Nat.add_le_add hsign (show 3 ≤ 40 + precision by omega) |>.trans (by omega)
  · have hint := Nat.toDigits_length 10 _ 39 (by decide)
      (doubleUnits_lt precision (show exponent ≤ 1150 by omega) hfraction)
    have hfrac := length_formatD_ofNat_le precision hp
      (Nat.mod_lt (doubleUnits precision exponent fraction) (Nat.pow_pos (by decide : 0 < 10)))
    rw [List.length_append, List.length_append, List.length_cons]
    omega

theorem plain_formatFixed (precision : ℕ) (a : CDouble) : Plain (formatFixed precision a) := by
  have hsign : Plain (if a.bits.msb then ['-'] else []) := by split <;> decide
  unfold formatFixed
  dsimp only
  split
  · exact plain_append hsign (by split <;> decide)
  · exact plain_append hsign (plain_append (plain_toDigits _)
      (plain_cons (by decide) (plain_formatD _ _)))

theorem part_formatFixed {precision : ℕ} {a : CDouble} (h : a.Small) (hp : 0 < precision) :
    NmeaPart 0 (41 + precision) (formatFixed precision a) :=
  ⟨plain_formatFixed _ _, count_formatFixed notNumeric_LF _ _, count_formatFixed notNumeric_comma _ _,
    length_formatFixed_le h hp⟩

theorem part_replicate {c : Char} (hc : NmeaPart 0 1 [c]) (n : ℕ) : NmeaPart 0 n (List.replicate n c) := by
  induction n with
  | zero => exact (by decide : NmeaPart 0 0 [])
  | succ n ih => exact (hc.cons ih).mono (Nat.add_comm 1 n).le

theorem part_of_chars {s : List Char} (h : ∀ c ∈ s, NmeaPart 0 1 [c]) : NmeaPart 0 s.length s := by
  induction s with
  | nil => exact (by decide : NmeaPart 0 0 [])
  | cons c s ih =>
    have hrest := ih fun c' hc' => h c' (List.mem_cons_of_mem _ hc')
    exact ((h c List.mem_cons_self).cons hrest).mono (Nat.add_comm 1 _).le

theorem part_minutes (minutes : ShownMinutes) : NmeaPart 0 10 minutes.text := by
  cases minutes with
  | nan negative => cases negative <;> decide
  | millionths negative n le =>
    have hsign : NmeaPart 0 1 (if negative then ['-'] else []) := .ite (by decide) (by decide)
    have hdigits : NmeaPart 0 9 (formatD 1 (n / 1000000 : ℕ) ++ '.' :: formatD 6 (n % 1000000 : ℕ)) :=
      (part_formatD 1 (by decide : 0 < 2) (by omega)).append
        (.cons (by decide : NmeaPart 0 1 ['.']) (part_formatD 6 (by decide : 0 < 6) (by omega)))
    unfold ShownMinutes.text
    dsimp only
    generalize (if negative then ['-'] else []) = sign at *
    generalize formatD 1 (n / 1000000 : ℕ) ++ '.' :: formatD 6 (n % 1000000 : ℕ) = digits at *
    have hall := (hsign.append (part_replicate (by decide : NmeaPart 0 1 ['0'])
      (9 - sign.length - digits.length))).append hdigits
    refine ⟨hall.plain, hall.line, hall.count, ?_⟩
    have := hsign.length_le
    have := hdigits.length_le
    rw [List.length_append, List.length_append, List.length_replicate]
    omega

/-! ### Printing -/

namespace SentenceBuffer

variable {b : SentenceBuffer} {bufSize : ℕ} {written : List Char}

/-- Pieces that have room are all appended, whether they are checked or not. -/
theorem Fits.putPieces (h : b.Fits bufSize written) {pieces : List NmeaPiece} (hne : pieces ≠ [])
    (hroom : written.length + (pieces.flatMap (·.text)).length < bufSize) :
    ∃ b', GpsHal.putPieces b pieces = .ok b' ∧ b'.Fits bufSize (written ++ pieces.flatMap (·.text)) ∧
      b'.text = written ++ pieces.flatMap (·.text) := by
  induction pieces generalizing b written with
  | nil => exact absurd rfl hne
  | cons piece pieces ih =>
    rw [List.flatMap_cons, List.length_append] at hroom
    obtain ⟨hput, htext⟩ := h.put piece.text (by omega)
    have hstep : (if piece.checked then b.putChecked piece.text else .ok (b.put piece.text)) =
        .ok (b.put piece.text) := by
      split
      · exact h.putChecked piece.text (by omega)
      · rfl
    cases pieces with
    | nil =>
      refine ⟨b.put piece.text, ?_, ?_⟩
      · rw [GpsHal.putPieces, List.foldlM_cons, hstep]
        rfl
      · simpa using ⟨hput, htext⟩
    | cons next rest =>
      obtain ⟨b', heq, hfits, htext'⟩ := ih hput (List.cons_ne_nil _ _) (by
        rw [List.length_append]
        omega)
      refine ⟨b', ?_, ?_⟩
      · rw [GpsHal.putPieces, List.foldlM_cons, hstep]
        exact heq
      · rw [List.flatMap_cons, ← List.append_assoc]
        exact ⟨hfits, htext'⟩

end SentenceBuffer

/-- A sentence whose pieces and checksum have room is complete. -/
theorem printSentence_eq {bufSize : ℕ} {b : SentenceBuffer} {pieces : List NmeaPiece}
    {body : List Char} (hbody : pieces.flatMap (·.text) = '$' :: body)
    (hroom : body.length + 6 < bufSize) (hsafe : ∀ call ∈ b.calls, call.Safe bufSize) :
    ∃ b', printSentence bufSize b pieces = .ok b' ∧ b'.text = nmeaSentence body ∧
      ∀ call ∈ b'.calls, call.Safe bufSize := by
  have hne : pieces ≠ [] := by
    rintro rfl
    cases hbody
  obtain ⟨b', heq, hfits, htext⟩ := (SentenceBuffer.fits_start (by omega) hsafe).putPieces hne (by
    rw [hbody, List.length_cons, List.length_nil]
    omega)
  rw [List.nil_append, hbody] at hfits htext
  obtain ⟨hpushed, hcalls⟩ := hfits.checksum htext hroom
  refine ⟨loc_nmea_put_checksum b' bufSize, ?_, hpushed, hcalls⟩
  rw [printSentence, heq]
  rfl

/-! ### Complete sentences -/

/-- The talker, behind the dollar sign. -/
def nmeaTalker (sentence : List Char) : List Char := (sentence.drop 1).take 2

/-- The kind of a sentence, behind the talker. -/
def nmeaKind (sentence : List Char) : List Char := (sentence.drop 3).take 3

/-- A line with its end, in which there is no NUL. -/
def NmeaLine (sentence : List Char) : Prop :=
  ∃ text, sentence = text ++ [LF] ∧ ∀ c ∈ text, c ≠ LF ∧ c ≠ Char.ofNat 0

/-- A complete sentence with its talker, its kind and the number of its commas. -/
structure NmeaReads (talker kind : List Char) (commas : ℕ) (sentence : List Char) : Prop where
  wellFormed : NmeaSentence sentence
  line : NmeaLine sentence
  talker : nmeaTalker sentence = talker
  kind : nmeaKind sentence = kind
  count : sentence.count ',' = commas

/-- The digits of a checksum. -/
theorem hexDigit_nmeaXor (body : List Char) : ∀ n ∈ [(nmeaXor body).toNat / 16, (nmeaXor body).toNat % 16],
    hexDigit n ≠ ',' ∧ hexDigit n ≠ LF ∧ hexDigit n ≠ Char.ofNat 0 := by
  have hdigit : ∀ n < 16, hexDigit n ≠ ',' ∧ hexDigit n ≠ LF ∧ hexDigit n ≠ Char.ofNat 0 := by decide
  have hlt := (nmeaXor body).toNat_lt
  simp only [List.forall_mem_cons, List.not_mem_nil, false_imp_iff, implies_true, and_true]
  exact ⟨hdigit _ (by omega), hdigit _ (by omega)⟩

theorem count_comma_nmeaSentence (body : List Char) :
    (nmeaSentence body).count ',' = body.count ',' := by
  have hdigits := hexDigit_nmeaXor body
  simp only [List.forall_mem_cons, List.not_mem_nil, false_imp_iff, implies_true, and_true] at hdigits
  rw [nmeaSentence, List.count_cons_of_ne (by decide), List.count_append,
    List.count_cons_of_ne (by decide), List.count_cons_of_ne hdigits.1.1,
    List.count_cons_of_ne hdigits.2.1]
  rfl

theorem nmeaLine_nmeaSentence {body : List Char} (hplain : Plain body) (hline : body.count LF = 0) :
    NmeaLine (nmeaSentence body) := by
  have hdigits := hexDigit_nmeaXor body
  simp only [List.forall_mem_cons, List.not_mem_nil, false_imp_iff, implies_true, and_true] at hdigits
  obtain ⟨⟨-, hhigh⟩, -, hlow⟩ := hdigits
  refine ⟨'$' :: (body ++ ['*', hexDigit ((nmeaXor body).toNat / 16),
    hexDigit ((nmeaXor body).toNat % 16), CR]), by simp [nmeaSentence], ?_⟩
  have hbody : ∀ c ∈ body, c ≠ LF ∧ c ≠ Char.ofNat 0 := fun c hc =>
    ⟨fun heq => List.count_eq_zero.1 hline (heq ▸ hc), (hplain c hc).2.2⟩
  simp only [List.forall_mem_cons, List.forall_mem_append, List.not_mem_nil, false_imp_iff,
    implies_true, and_true]
  exact ⟨by decide, hbody, by decide, hhigh, hlow, by decide⟩

/-- A sentence whose body begins with its talker and its kind. -/
theorem NmeaPart.reads {talker rest : List Char} {k₀ k₁ k₂ : Char} {commas maxLength : ℕ}
    (htalker : talker.length = 2)
    (hbody : NmeaPart commas maxLength (talker ++ k₀ :: k₁ :: k₂ :: rest)) :
    NmeaReads talker [k₀, k₁, k₂] commas (nmeaSentence (talker ++ k₀ :: k₁ :: k₂ :: rest)) := by
  obtain ⟨t₀, t₁, rfl⟩ := List.length_eq_two.1 htalker
  exact ⟨⟨_, hbody.plain, rfl⟩, nmeaLine_nmeaSentence hbody.plain hbody.line, rfl, rfl,
    (count_comma_nmeaSentence _).trans hbody.count⟩

/-! ### The time -/

/-- An offset in a block of at most `m`, or that much behind the last one. -/
theorem locate_snd_lt {ls : List ℕ} {d m : ℕ} (hls : ∀ l ∈ ls, l ≤ m)
    (hd : d < ls.foldr (· + ·) 0 + m) : (locate ls d).2 < m := by
  induction ls generalizing d with
  | nil => simpa [locate] using hd
  | cons l ls ih =>
    have hl := hls l List.mem_cons_self
    simp only [locate]
    split_ifs with hlt
    · exact hlt.trans_le hl
    · refine ih (fun l' hl' => hls l' (List.mem_cons_of_mem _ hl')) ?_
      rw [List.foldr_cons] at hd
      omega

theorem locate_fst_le (ls : List ℕ) (d : ℕ) : (locate ls d).1 ≤ ls.length := by
  induction ls generalizing d with
  | nil => exact le_rfl
  | cons l ls ih =>
    simp only [locate]
    split_ifs with hlt
    · exact Nat.zero_le _
    · exact Nat.succ_le_succ (ih _)

theorem month_civilDate_le (days : ℤ) : (civilDate days).month ≤ 12 := locate_fst_le _ _

theorem day_civilDate_lt (days : ℤ) : (civilDate days).day < 31 := by
  have hyear : (locate cycleYears (days % 146097).toNat).2 < 366 := by
    refine locate_snd_lt (by decide +kernel) ?_
    rw [sum_cycleYears]
    omega
  refine locate_snd_lt (fun l hl => ?_) (hyear.trans_le ?_)
  · unfold monthLengths at hl
    split at hl <;> revert l <;> decide
  · unfold monthLengths
    split <;> decide

/-- The numbers of a time have two digits, the year and the hundredths perhaps also a sign. -/
structure ShownTime.TwoDigits (time : ShownTime) : Prop where
  year : time.utcYear.natAbs < 100
  month : 0 ≤ time.utcMonth ∧ time.utcMonth < 100
  day : 0 ≤ time.utcDay ∧ time.utcDay < 100
  hours : 0 ≤ time.utcHours ∧ time.utcHours < 100
  minutes : 0 ≤ time.utcMinutes ∧ time.utcMinutes < 100
  seconds : 0 ≤ time.utcSeconds ∧ time.utcSeconds < 100
  hundredths : time.hundredths.natAbs < 100

theorem twoDigits_pos_time (report : PosTimes) (systemInfo : LocationSystemInfo) :
    (loc_nmea_generate_pos_time report systemInfo).TwoDigits := by
  unfold loc_nmea_generate_pos_time
  dsimp only
  generalize (get_utctime_with_leapsecond_transition report systemInfo).1 = inLsTransition
  generalize (get_utctime_with_leapsecond_transition report systemInfo).2.toInt.tdiv 1000 = time
  have hmonth := month_civilDate_le (time / 86400)
  have hday := day_civilDate_lt (time / 86400)
  unfold gmtime
  constructor <;> dsimp only
  · rw [Int.natAbs_tmod]
    exact Nat.mod_lt _ (by decide)
  · omega
  · omega
  · split_ifs <;> omega
  · split_ifs <;> omega
  · split_ifs <;> omega
  · have hms : (if inLsTransition then (report.gpsTime.msec.toNat % 1000 : ℤ)
        else report.timestamp.toInt.tmod 1000).natAbs < 1000 := by
      split_ifs
      · omega
      · rw [Int.natAbs_tmod]
        exact Nat.mod_lt _ (by decide)
    rw [Int.natAbs_tdiv]
    exact Nat.div_lt_of_lt_mul hms

theorem part_formatD_two {n : ℤ} (h : 0 ≤ n ∧ n < 100) : NmeaPart 0 2 (formatD 2 n) := by
  lift n to ℕ using h.1
  exact part_formatD 2 (by decide : 0 < 2) (by omega)

namespace PosReport

variable (r : PosReport) (systemInfo : LocationSystemInfo)

/-! ### The pieces -/

theorem part_timeText : NmeaPart 1 11 (r.timeText systemInfo) := by
  have htime := twoDigits_pos_time r.times systemInfo
  have hhundredths := part_formatD_int 2 (by decide : 0 < 2) htime.hundredths
  exact (((part_formatD_two htime.hours).append (part_formatD_two htime.minutes)).append
    (part_formatD_two htime.seconds)).append
      (.cons (by decide : NmeaPart 0 1 ['.']) (hhundredths.append (by decide : NmeaPart 1 1 [','])))

theorem part_dateText : NmeaPart 1 8 (r.dateText systemInfo) := by
  have htime := twoDigits_pos_time r.times systemInfo
  have hyear : NmeaPart 0 3 (if (loc_nmea_generate_pos_time r.times systemInfo).utcYear < 0 then
      formatD 3 (loc_nmea_generate_pos_time r.times systemInfo).utcYear
      else formatD 2 (loc_nmea_generate_pos_time r.times systemInfo).utcYear) :=
    .ite (part_formatD_int 3 (by decide : 0 < 2) htime.year)
      (part_formatD_int 2 (by decide : 0 < 2) htime.year)
  exact (((part_formatD_two htime.day).append (part_formatD_two htime.month)).append hyear).append
    (by decide : NmeaPart 1 1 [','])

theorem part_latLong (a : ShownLatLong) : NmeaPart 4 32 a.text := by
  have hlat : NmeaPart 0 3 (formatD 2 a.latDegrees.toNat) :=
    part_formatD 2 (by decide : 0 < 3) (by omega)
  have hlon : NmeaPart 0 3 (formatD 3 a.lonDegrees.toNat) :=
    part_formatD 3 (by decide : 0 < 3) (by omega)
  have hcomma : NmeaPart 1 1 [','] := by decide
  have hnorth : NmeaPart 0 1 [if a.latHemisphere then 'N' else 'S'] := by split <;> decide
  have heast : NmeaPart 2 3 [',', if a.lonHemisphere then 'E' else 'W', ','] := by split <;> decide
  exact (hlat.append (part_minutes a.latMinutes)).append (hcomma.cons (hnorth.cons (hcomma.cons
    ((hlon.append (part_minutes a.lonMinutes)).append heast))))

theorem part_latLongText : NmeaPart 4 32 r.latLongText := .ite (part_latLong _) (by decide)

theorem part_vtgTrack : NmeaPart 4 90 r.vtgTrack := by
  have hunit : NmeaPart 2 3 [',', 'T', ','] := by decide
  exact .ite ((part_formatF1 _).append (hunit.append ((part_formatF1 _).append (by decide :
    NmeaPart 2 3 [',', 'M', ','])))) (by decide)

theorem part_vtgSpeed : NmeaPart 4 90 r.vtgSpeed := by
  have hunit : NmeaPart 2 3 [',', 'N', ','] := by decide
  exact .ite ((part_formatF1 _).append (hunit.append ((part_formatF1 _).append (by decide :
    NmeaPart 2 3 [',', 'K', ','])))) (by decide)

theorem part_rmcSpeed : NmeaPart 1 43 r.rmcSpeed :=
  .ite ((part_formatF1 _).append (by decide : NmeaPart 1 1 [','])) (by decide)

theorem part_rmcBearing : NmeaPart 1 43 r.rmcBearing :=
  .ite ((part_formatF1 _).append (by decide : NmeaPart 1 1 [','])) (by decide)

theorem part_rmcVariation : NmeaPart 2 45 r.rmcVariation :=
  .ite (.ite ((part_formatF1 _).append (by decide : NmeaPart 2 3 [',', 'W', ',']))
    ((part_formatF1 _).append (by decide : NmeaPart 2 3 [',', 'E', ',']))) (by decide)

theorem part_satellites {svUsedCount d : ℕ} (hd : 2 ≤ d) (hcount : svUsedCount < 10 ^ d) :
    NmeaPart 2 (d + 44) (r.satellites svUsedCount) := by
  have hdigits : NmeaPart 0 d (formatD 2 svUsedCount) :=
    (part_formatD 2 (by omega) hcount).mono (Nat.max_le.2 ⟨hd, le_rfl⟩)
  have hhdop : NmeaPart 1 43 (if r.hasExtended GPS_LOCATION_EXTENDED_HAS_DOP then
      formatF1 r.hdop ++ [','] else [',']) :=
    .ite ((part_formatF1 _).append (by decide : NmeaPart 1 1 [','])) (by decide)
  exact hdigits.append ((by decide : NmeaPart 1 1 [',']).cons hhdop)

theorem part_gnsAltitude : NmeaPart 1 43 r.gnsAltitude :=
  .ite ((part_formatF1 _).append (by decide : NmeaPart 1 1 [','])) (by decide)

theorem part_ggaAltitude : NmeaPart 2 45 r.ggaAltitude :=
  .ite ((part_formatF1 _).append (by decide : NmeaPart 2 3 [',', 'M', ','])) (by decide)

theorem part_gnsSeparation (h : r.separation.Small) : NmeaPart 2 44 r.gnsSeparation :=
  .ite ((part_formatFixed h Nat.one_pos).append (by decide : NmeaPart 2 2 [',', ','])) (by decide)

theorem part_ggaSeparation (h : r.separation.Small) : NmeaPart 3 46 r.ggaSeparation :=
  .ite ((part_formatFixed h Nat.one_pos).append (by decide : NmeaPart 3 4 [',', 'M', ',', ',']))
    (by decide)

theorem part_systemMode (mask : BitVec 64) : NmeaPart 0 1 [r.systemMode mask] := by
  unfold systemMode
  split_ifs <;> decide

theorem part_gpsMode : NmeaPart 0 1 [r.gpsMode] := by
  unfold gpsMode
  split_ifs <;> decide

theorem part_modeIndicator : NmeaPart 0 6 r.modeIndicator := by
  unfold modeIndicator
  dsimp only
  set others := [r.usedMasks.glo_used_mask, r.usedMasks.gal_used_mask, r.usedMasks.bds_used_mask,
    r.usedMasks.qzss_used_mask, r.usedMasks.navic_used_mask].map r.systemMode with hothers
  have hsub : (others.reverse.dropWhile (· == 'N')).Sublist others.reverse := List.dropWhile_sublist _
  have hchars : NmeaPart 0 (others.reverse.dropWhile (· == 'N')).reverse.length
      (others.reverse.dropWhile (· == 'N')).reverse := by
    refine part_of_chars fun c hc => ?_
    have hmem := List.mem_reverse.1 (hsub.subset (List.mem_reverse.1 hc))
    obtain ⟨mask, -, rfl⟩ := List.mem_map.1 hmem
    exact r.part_systemMode mask
  refine (r.part_gpsMode.cons hchars).mono ?_
  have hlen := hsub.length_le
  rw [List.length_reverse, hothers, List.length_map] at hlen
  rw [List.length_reverse]
  exact Nat.add_le_add_left hlen 1

/-- The quality and the modes are characters of a field. -/
structure FixQuality.Letters (q : FixQuality) : Prop where
  gga : NmeaPart 0 1 [q.ggaGpsQuality]
  rmc : NmeaPart 0 1 [q.rmcModeIndicator]
  vtg : NmeaPart 0 1 [q.vtgModeIndicator]

theorem FixQuality.Letters.ite {p : Prop} [Decidable p] {q q' : FixQuality} (h : q.Letters)
    (h' : q'.Letters) : (if p then q else q').Letters := by
  split
  · exact h
  · exact h'

theorem letters_techQuality : r.techQuality.Letters := by
  have hnone : FixQuality.Letters ⟨'0', 'N', 'N'⟩ := ⟨by decide, by decide, by decide⟩
  exact .ite (.ite ⟨by decide, by decide, by decide⟩ (.ite ⟨by decide, by decide, by decide⟩ hnone))
    hnone

theorem letters_fixQuality : r.loc_nmea_get_fix_quality.Letters := by
  have hdgps : FixQuality.Letters ⟨'2', 'D', 'D'⟩ := ⟨by decide, by decide, by decide⟩
  have htech := r.letters_techQuality
  exact .ite ⟨by decide, by decide, by decide⟩ (.ite (.ite ⟨by decide, by decide, by decide⟩
    (.ite ⟨by decide, by decide, by decide⟩ (.ite ⟨by decide, by decide, by decide⟩
      (.ite hdgps (.ite hdgps htech))))) htech)

theorem part_datums (datum_type : BitVec 32) :
    NmeaPart 0 3 (datums datum_type).1 ∧ NmeaPart 0 3 (datums datum_type).2 := by
  unfold datums
  split_ifs <;> decide

/-! ### The sentences -/

section

variable {talker : List Char} (htalker : NmeaPart 0 2 talker) (hlength : talker.length = 2)
  {b : SentenceBuffer} (hsafe : ∀ call ∈ b.calls, call.Safe NMEA_SENTENCE_MAX_LENGTH)

/-- A sentence has been printed. -/
def Printed (kind : List Char) (commas : ℕ) (talker : List Char)
    (result : Except SentenceBuffer SentenceBuffer) : Prop :=
  ∃ b', result = .ok b' ∧ NmeaReads talker kind commas b'.text ∧
    ∀ call ∈ b'.calls, call.Safe NMEA_SENTENCE_MAX_LENGTH

include htalker hlength hsafe

/-- A sentence of which the parts have room. -/
theorem printed_of_part {pieces : List NmeaPiece} {k₀ k₁ k₂ : Char} {rest : List Char}
    {commas maxLength : ℕ} (hbody : pieces.flatMap (·.text) = '$' :: (talker ++ k₀ :: k₁ :: k₂ :: rest))
    (hkind : NmeaPart 0 3 [k₀, k₁, k₂]) (hrest : NmeaPart commas maxLength rest)
    (hroom : maxLength ≤ 188) :
    Printed [k₀, k₁, k₂] commas talker (printSentence NMEA_SENTENCE_MAX_LENGTH b pieces) := by
  have hpart : NmeaPart (0 + (0 + commas)) (2 + (3 + maxLength)) (talker ++ k₀ :: k₁ :: k₂ :: rest) :=
    htalker.append (hkind.append hrest)
  rw [Nat.zero_add, Nat.zero_add] at hpart
  have hlen := hpart.length_le
  obtain ⟨b', heq, htext, hcalls⟩ := printSentence_eq hbody (by
    rw [NMEA_SENTENCE_MAX_LENGTH]
    omega) hsafe
  exact ⟨b', heq, htext ▸ hpart.reads hlength, hcalls⟩

theorem printed_vtg :
    Printed ['V', 'T', 'G'] 9 talker (printSentence NMEA_SENTENCE_MAX_LENGTH b (r.vtgPieces talker)) := by
  refine printed_of_part htalker hlength hsafe ?_ (by decide) ((by decide : NmeaPart 1 1 [',']).cons
    (r.part_vtgTrack.append (r.part_vtgSpeed.append r.letters_fixQuality.vtg))) (by decide)
  simp only [vtgPieces, List.flatMap_cons, List.flatMap_nil, List.append_nil, List.cons_append,
    List.append_assoc]

theorem printed_dtm (datum_type : BitVec 32) (h : r.offsetAltitude.Small) :
    Printed ['D', 'T', 'M'] 8 talker
      (printSentence NMEA_SENTENCE_MAX_LENGTH b (r.dtmPieces talker datum_type)) := by
  have hcomma : NmeaPart 1 1 [','] := by decide
  have hoffset := (part_latLong r.offset).append (part_formatFixed h (by decide : 0 < 3))
  refine printed_of_part htalker hlength hsafe ?_ (by decide) (hcomma.cons ((part_datums
    datum_type).1.append (hcomma.cons (hcomma.cons (hoffset.append (hcomma.cons
      (part_datums datum_type).2)))))) (by decide)
  simp only [dtmPieces, List.flatMap_cons, List.flatMap_nil, List.append_nil, List.cons_append,
    List.append_assoc, List.nil_append]

theorem printed_rmc :
    Printed ['R', 'M', 'C'] 13 talker
      (printSentence NMEA_SENTENCE_MAX_LENGTH b (r.rmcPieces systemInfo talker)) := by
  have hcomma : NmeaPart 1 1 [','] := by decide
  refine printed_of_part htalker hlength hsafe ?_ (by decide) (hcomma.cons ((r.part_timeText
    systemInfo).append ((by decide : NmeaPart 1 2 ['A', ',']).append (r.part_latLongText.append
      (r.part_rmcSpeed.append (r.part_rmcBearing.append ((r.part_dateText systemInfo).append
        (r.part_rmcVariation.append (r.letters_fixQuality.rmc.append
          (by decide : NmeaPart 1 2 [',', 'V'])))))))))) (by decide)
  simp only [rmcPieces, List.flatMap_cons, List.flatMap_nil, List.append_nil, List.cons_append,
    List.append_assoc, List.nil_append]

theorem printed_gns {svUsedCount : ℕ} (hcount : svUsedCount < 1000) (h : r.separation.Small) :
    Printed ['G', 'N', 'S'] 13 talker (printSentence NMEA_SENTENCE_MAX_LENGTH b
      (r.gnsPieces systemInfo talker svUsedCount)) := by
  have hcomma : NmeaPart 1 1 [','] := by decide
  refine printed_of_part htalker hlength hsafe ?_ (by decide) (hcomma.cons ((r.part_timeText
    systemInfo).append (r.part_latLongText.append (r.part_modeIndicator.append (hcomma.append
      ((r.part_satellites (by decide : 2 ≤ 3) hcount).append (r.part_gnsAltitude.append
        ((r.part_gnsSeparation h).append (by decide : NmeaPart 1 2 [',', 'V']))))))))) (by decide)
  simp only [gnsPieces, List.flatMap_cons, List.flatMap_nil, List.append_nil, List.cons_append,
    List.append_assoc, List.nil_append]

theorem printed_gga (svUsedCount : ℕ) (h : r.separation.Small) :
    Printed ['G', 'G', 'A'] 14 talker (printSentence NMEA_SENTENCE_MAX_LENGTH b
      (r.ggaPieces systemInfo talker svUsedCount)) := by
  have hcomma : NmeaPart 1 1 [','] := by decide
  have hcount : min svUsedCount MAX_SATELLITES_IN_USE < 10 ^ 2 :=
    (Nat.min_le_right _ _).trans_lt (by decide)
  refine printed_of_part htalker hlength hsafe ?_ (by decide) (hcomma.cons ((r.part_timeText
    systemInfo).append (r.part_latLongText.append (r.letters_fixQuality.gga.append (hcomma.append
      ((r.part_satellites le_rfl hcount).append (r.part_ggaAltitude.append
        (r.part_ggaSeparation h)))))))) (by decide)
  simp only [ggaPieces, List.flatMap_cons, List.flatMap_nil, List.append_nil, List.cons_append,
    List.append_assoc, List.nil_append]

end

/-! ### The satellites -/

/-- The constellations, those without a GSA sentence included. -/
def systemTypes : List GnssSvType := [.GPS, .GLONASS, .GALILEO, .QZSS, .BEIDOU, .NAVIC]

variable {r}

theorem combined_eq : r.usedMasks.combined = decide (1 < (systemTypes.filter r.uses).length) := by
  have hmap : (systemTypes.map r.usedMasks.mask).filter (· ≠ 0) =
      (systemTypes.filter r.uses).map r.usedMasks.mask := List.filter_map
  have hlen : ((systemTypes.filter r.uses).map r.usedMasks.mask).length =
      (systemTypes.filter r.uses).length := List.length_map _
  rw [← hlen, ← hmap]
  rfl

/-- Two different constellations are combined. -/
theorem eq_of_not_combined (h : r.usedMasks.combined = false) {svType svType' : GnssSvType}
    (hmem : svType ∈ gsaTypes) (hmem' : svType' ∈ gsaTypes) (huses : r.uses svType = true)
    (huses' : r.uses svType' = true) : svType = svType' := by
  have hsub : ∀ t ∈ gsaTypes, t ∈ systemTypes := by decide
  have hfilter : svType ∈ systemTypes.filter r.uses := List.mem_filter.2 ⟨hsub _ hmem, huses⟩
  have hfilter' : svType' ∈ systemTypes.filter r.uses := List.mem_filter.2 ⟨hsub _ hmem', huses'⟩
  rw [combined_eq, decide_eq_false_iff_not] at h
  match hl : systemTypes.filter r.uses with
  | [] => exact absurd (hl ▸ hfilter) List.not_mem_nil
  | [_] =>
    rw [hl] at hfilter hfilter'
    exact (List.mem_singleton.1 hfilter).trans (List.mem_singleton.1 hfilter').symm
  | _ :: _ :: _ => exact absurd (by rw [hl, List.length_cons, List.length_cons]; omega) h

/-- The talker of a GSA sentence is that of the report. -/
theorem talker_of_uses {svType : GnssSvType} (hmem : svType ∈ gsaTypes) (huses : r.uses svType = true) :
    (if r.usedMasks.combined then ['G', 'N'] else talkerOf svType) = r.talker := by
  unfold talker
  cases hc : r.usedMasks.combined with
  | true => rfl
  | false =>
    obtain ⟨first, hfirst⟩ := Option.isSome_iff_exists.1
      (List.find?_isSome.2 ⟨svType, hmem, huses⟩)
    have heq := eq_of_not_combined hc hmem (List.mem_of_find?_eq_some hfirst) huses
      (List.find?_some hfirst)
    rw [hfirst, heq]
    rfl

theorem talker_of_unused (h : gsaTypes.filter r.uses = []) : r.talker = ['G', 'P'] := by
  have hunused : ∀ t ∈ gsaTypes, r.uses t = false := by
    simpa [List.filter_eq_nil_iff] using h
  have hsystem : systemTypes.filter r.uses = [GnssSvType.NAVIC].filter r.uses := by
    have hgps := hunused .GPS (by decide)
    have hglo := hunused .GLONASS (by decide)
    have hgal := hunused .GALILEO (by decide)
    have hqzss := hunused .QZSS (by decide)
    have hbds := hunused .BEIDOU (by decide)
    simp only [systemTypes, List.filter_cons, hgps, hglo, hgal, hqzss, hbds, Bool.false_eq_true,
      if_false]
  have hlen : ([GnssSvType.NAVIC].filter r.uses).length ≤ 1 := List.length_filter_le _ _
  have hnone : gsaTypes.find? r.uses = none :=
    List.find?_eq_none.2 fun t ht => by rw [hunused t ht]; exact Bool.false_ne_true
  rw [talker, combined_eq, hsystem, if_neg, hnone]
  · rfl
  · rw [decide_eq_true_eq]
    omega

theorem part_talker : NmeaPart 0 2 r.talker ∧ r.talker.length = 2 := by
  unfold talker
  split
  · decide
  · cases hfirst : gsaTypes.find? r.uses with
    | none => decide
    | some first =>
      have hall : ∀ t ∈ gsaTypes, NmeaPart 0 2 (talkerOf t) ∧ (talkerOf t).length = 2 := by decide
      exact hall first (List.mem_of_find?_eq_some hfirst)

/-- What the sentence of a constellation is made from. -/
theorem exists_gsa_meta (c : loc_sv_used_masks) {svType : GnssSvType} (hmem : svType ∈ gsaTypes) :
    ∃ m, loc_nmea_gsa_meta_init c svType = some m ∧ m.mask = c.mask svType ∧
      m.talker = if c.combined then ['G', 'N'] else talkerOf svType := by
  cases svType with
  | UNKNOWN | SBAS | NAVIC => exact absurd hmem (by decide)
  | _ => exact ⟨_, rfl, rfl, rfl⟩

theorem length_svUsedList_eq_zero {m : loc_nmea_gsa_meta} : m.svUsedList.length = 0 ↔ m.mask = 0 := by
  unfold loc_nmea_gsa_meta.svUsedList
  dsimp only
  rw [List.length_map, List.length_eq_zero_iff, List.filter_eq_nil_iff]
  constructor
  · intro h
    refine BitVec.eq_of_getLsbD_eq fun i hi => ?_
    exact (Bool.eq_false_iff.2 (h i (List.mem_range.2 hi))).trans BitVec.getLsbD_zero.symm
  · intro h i _
    rw [h]
    exact Bool.eq_false_iff.1 BitVec.getLsbD_zero

theorem part_svId {m : loc_nmea_gsa_meta} (h : m.Listed) (i : ℕ) : NmeaPart 1 4 (m.svId i) := by
  unfold loc_nmea_gsa_meta.svId
  cases hid : m.svUsedList[i]? with
  | none => exact (by decide : NmeaPart 1 4 [','])
  | some id =>
    have hlt := h.svId id (List.mem_of_getElem? hid)
    dsimp only
    rw [BitVec.toInt_eq_toNat_of_lt (by omega)]
    exact (part_formatD 2 (by decide : 0 < 3) hlt).append (by decide : NmeaPart 1 1 [','])

theorem part_dop (dops : Option (CFloat × CFloat × CFloat)) :
    NmeaPart 3 129 (loc_nmea_gsa_meta.dop dops) := by
  cases dops with
  | none => decide
  | some dops =>
    have hcomma : NmeaPart 1 1 [','] := by decide
    exact (part_formatF1 _).append (hcomma.cons ((part_formatF1 _).append (hcomma.cons
      ((part_formatF1 _).append hcomma))))

theorem reads_gsa {m : loc_nmea_gsa_meta} (h : m.Listed) (htalker : NmeaPart 0 2 m.talker)
    (dops : Option (CFloat × CFloat × CFloat)) :
    NmeaReads m.talker ['G', 'S', 'A'] 18 (nmeaSentence (m.body dops)) := by
  have hfix : NmeaPart 3 8 ['G', 'S', 'A', ',', 'A', ',', m.fixType, ','] := by
    unfold loc_nmea_gsa_meta.fixType
    split_ifs <;> decide
  have hids : NmeaPart (12 * 1) (12 * 4) ((List.range 12).map m.svId).flatten := by
    refine @NmeaPart.flatten 1 4 ((List.range 12).map m.svId) fun piece hpiece => ?_
    obtain ⟨i, -, rfl⟩ := List.mem_map.1 hpiece
    exact part_svId h i
  have hbody := htalker.append (hfix.append (hids.append ((part_dop dops).append
    (part_formatD 1 (by decide : 0 < 1) h.systemId))))
  have heq : m.body dops = m.talker ++ 'G' :: 'S' :: 'A' :: ([',', 'A', ',', m.fixType, ','] ++
      (((List.range 12).map m.svId).flatten ++ (loc_nmea_gsa_meta.dop dops ++
        formatD 1 m.systemId))) := by
    simp only [loc_nmea_gsa_meta.body, loc_nmea_gsa_meta.header, List.append_assoc, List.cons_append,
      List.nil_append]
  rw [heq]
  exact hbody.reads h.talker

variable (r) in
/-- The constellations `types` have been dealt with. -/
structure GsaDone (types : List GnssSvType) (s : GsaState) : Prop where
  safe : ∀ call ∈ s.buffer.calls, call.Safe NMEA_SENTENCE_MAX_LENGTH
  reads : ∀ sentence ∈ s.sentences, NmeaReads r.talker ['G', 'S', 'A'] 18 sentence
  length : s.sentences.length = (types.filter r.uses).length
  talker : s.talker = if types.filter r.uses = [] then ['G', 'P'] else r.talker
  count : s.svUsedCount ≤ 64 * types.length

theorem GsaDone.step {types : List GnssSvType} {s : GsaState} (h : r.GsaDone types s)
    {svType : GnssSvType} (hmem : svType ∈ gsaTypes) :
    r.GsaDone (types ++ [svType]) (r.generateGsa s svType) := by
  obtain ⟨m, hinit, hmask, htalker⟩ := exists_gsa_meta r.usedMasks hmem
  have hlisted := listed_of_init hinit
  obtain ⟨hsafe, hpushed⟩ := hlisted.generate r.dops h.safe
  have huses : r.uses svType = true ↔ ¬ m.svUsedList.length = 0 := by
    rw [length_svUsedList_eq_zero, hmask, uses, decide_eq_true_eq]
  have hlen : m.svUsedList.length ≤ 64 := by
    unfold loc_nmea_gsa_meta.svUsedList
    dsimp only
    rw [List.length_map]
    exact (List.length_filter_le _ _).trans List.length_range.le
  unfold generateGsa
  rw [hinit]
  dsimp only
  rw [hpushed]
  by_cases hused : r.uses svType = true
  · have hne := huses.1 hused
    have htalker' : m.talker = r.talker := htalker.trans (talker_of_uses hmem hused)
    have hreads := reads_gsa hlisted (htalker' ▸ part_talker.1) r.dops
    have hfilter : (types ++ [svType]).filter r.uses = types.filter r.uses ++ [svType] := by
      rw [List.filter_append, List.filter_cons_of_pos hused, List.filter_nil]
    rw [if_neg hne]
    simp only [List.cons_ne_nil, if_false, Nat.pos_of_ne_zero hne, if_true]
    refine ⟨hsafe, fun sentence hsentence => ?_, ?_, ?_, ?_⟩
    · rcases List.mem_append.1 hsentence with hsentence | hsentence
      · exact h.reads sentence hsentence
      · rw [List.mem_singleton.1 hsentence, ← htalker']
        exact hreads
    · rw [hfilter, List.length_append, List.length_append, h.length]
      rfl
    · rw [hfilter, if_neg (by simp)]
      exact htalker'
    · have := h.count
      dsimp only
      rw [List.length_append, List.length_singleton]
      omega
  · have hzero := not_not.1 (fun hne => hused (huses.2 hne))
    have hfilter : (types ++ [svType]).filter r.uses = types.filter r.uses := by
      rw [List.filter_append, List.filter_cons_of_neg hused, List.filter_nil, List.append_nil]
    rw [if_pos hzero]
    simp only [if_true, gt_iff_lt, lt_irrefl, if_false, List.append_nil, Nat.add_zero]
    refine ⟨hsafe, h.reads, ?_, ?_, ?_⟩
    · rw [hfilter]
      exact h.length
    · rw [hfilter]
      exact h.talker
    · have := h.count
      dsimp only
      rw [List.length_append, List.length_singleton]
      omega

theorem gsaDone_foldl {types rest : List GnssSvType} {s : GsaState} (h : r.GsaDone types s)
    (hrest : ∀ t ∈ rest, t ∈ gsaTypes) : r.GsaDone (types ++ rest) (rest.foldl r.generateGsa s) := by
  induction rest generalizing types s with
  | nil =>
    rw [List.append_nil]
    exact h
  | cons svType rest ih =>
    have hnext := ih (h.step (hrest svType List.mem_cons_self))
      fun t ht => hrest t (List.mem_cons_of_mem _ ht)
    rwa [List.append_assoc] at hnext

variable (r) in
/-- The sentences of the satellites, and the talker for the others. -/
theorem generateGsas_reads : r.GsaDone gsaTypes r.generateGsas ∧ r.generateGsas.talker = r.talker := by
  have hinit : r.GsaDone [] ⟨.empty, [], 0, ['G', 'P']⟩ := by
    refine ⟨fun call hcall => ?_, fun s hs => ?_, rfl, rfl, le_rfl⟩
    · exact absurd hcall List.not_mem_nil
    · exact absurd hs List.not_mem_nil
  have hdone : r.GsaDone gsaTypes r.generateGsas := gsaDone_foldl hinit fun _ ht => ht
  refine ⟨hdone, hdone.talker.trans ?_⟩
  split
  · rename_i hunused
    exact (talker_of_unused hunused).symm
  · rfl

/-! ### All sentences -/

theorem forall₂_map_const {α β γ : Type} {R : β → γ → Prop} {a : β} {l : List α} {l' : List γ}
    (hlen : l'.length = l.length) (h : ∀ x ∈ l', R a x) : List.Forall₂ R (l.map fun _ => a) l' := by
  induction l generalizing l' with
  | nil =>
    rw [List.length_eq_zero_iff.1 hlen]
    exact .nil
  | cons x l ih =>
    obtain ⟨y, l', rfl⟩ := List.exists_cons_of_length_eq_add_one hlen
    exact .cons (h y List.mem_cons_self)
      (ih (Nat.succ.inj hlen) fun z hz => h z (List.mem_cons_of_mem _ hz))

/-- The sentence has the kind and the number of commas of the blank one. -/
def Matches (talker blank sentence : List Char) : Prop :=
  NmeaReads talker (nmeaKind blank) (blank.count ',') sentence

/-- A blank text with its checksum. -/
theorem matches_blank {blank : List Char} (hmem : blank ∈ blankTexts) {calls : List SnprintfCall}
    (hsafe : ∀ call ∈ calls, call.Safe NMEA_SENTENCE_MAX_LENGTH) :
    let b := loc_nmea_put_checksum ⟨blank, 0, 0, calls⟩ NMEA_SENTENCE_MAX_LENGTH
    Matches ['G', 'P'] blank b.text ∧ ∀ call ∈ b.calls, call.Safe NMEA_SENTENCE_MAX_LENGTH := by
  have hall : ∀ text ∈ blankTexts, text = '$' :: text.tail ∧ Plain text.tail ∧ text.length < 50 ∧
      text.tail.count LF = 0 ∧ nmeaTalker (nmeaSentence text.tail) = ['G', 'P'] ∧
      nmeaKind (nmeaSentence text.tail) = nmeaKind text ∧
      (nmeaSentence text.tail).count ',' = text.count ',' := by decide
  obtain ⟨htext, hplain, hlen, hline, htalker, hkind, hcount⟩ := hall blank hmem
  have hmax : NMEA_SENTENCE_MAX_LENGTH = 200 := rfl
  have htail : blank.length = blank.tail.length + 1 := congrArg List.length htext
  -- the marker does not matter to the checksum
  have hfits : SentenceBuffer.Fits NMEA_SENTENCE_MAX_LENGTH ('$' :: blank.tail)
      ⟨blank, blank.length, NMEA_SENTENCE_MAX_LENGTH - blank.length, calls⟩ := by
    rw [← htext]
    exact ⟨rfl, List.take_length, rfl, by omega, hsafe⟩
  obtain ⟨hpushed, hcalls⟩ := hfits.checksum htext (by omega)
  exact ⟨⟨⟨blank.tail, hplain, hpushed⟩, hpushed ▸ nmeaLine_nmeaSentence hplain hline, hpushed ▸ htalker,
    hpushed ▸ hkind, hpushed ▸ hcount⟩, hcalls⟩

theorem foldl_blank {texts : List (List Char)} (hmem : ∀ text ∈ texts, text ∈ blankTexts)
    (out : PosOutcome) (hsafe : ∀ call ∈ out.calls, call.Safe NMEA_SENTENCE_MAX_LENGTH) :
    let out' := texts.foldl (fun out text =>
      let b := loc_nmea_put_checksum ⟨text, 0, 0, out.calls⟩ NMEA_SENTENCE_MAX_LENGTH
      (⟨b.calls, out.sentences ++ [b.text]⟩ : PosOutcome)) out
    (∀ call ∈ out'.calls, call.Safe NMEA_SENTENCE_MAX_LENGTH) ∧
      ∃ pushed, out'.sentences = out.sentences ++ pushed ∧
        List.Forall₂ (Matches ['G', 'P']) texts pushed := by
  induction texts generalizing out with
  | nil => exact ⟨hsafe, [], (List.append_nil _).symm, .nil⟩
  | cons text texts ih =>
    obtain ⟨hmatches, hcalls⟩ := matches_blank (hmem text List.mem_cons_self) hsafe
    obtain ⟨hsafe', pushed, hpushed, hrest⟩ := ih (fun t ht => hmem t (List.mem_cons_of_mem _ ht))
      ⟨_, out.sentences ++ [_]⟩ hcalls
    refine ⟨hsafe', _, ?_, .cons hmatches hrest⟩
    rw [List.foldl_cons, hpushed, List.append_assoc]
    rfl

theorem generateBlank_matches : (∀ call ∈ generateBlank.calls, call.Safe NMEA_SENTENCE_MAX_LENGTH) ∧
    List.Forall₂ (Matches ['G', 'P']) blankTexts generateBlank.sentences := by
  obtain ⟨hsafe, pushed, hpushed, hmatches⟩ := foldl_blank (fun _ ht => ht)
    ⟨[], []⟩ fun call hcall => absurd hcall List.not_mem_nil
  rw [List.nil_append] at hpushed
  exact ⟨hsafe, hpushed ▸ hmatches⟩

variable (r) in
theorem generateFinal_matches (datum_type : BitVec 32) (hseparation : r.separation.Small)
    (hoffset : r.offsetAltitude.Small) :
    let out := r.generateFinal systemInfo datum_type
    (∀ call ∈ out.calls, call.Safe NMEA_SENTENCE_MAX_LENGTH) ∧
      List.Forall₂ (Matches r.talker) (r.finalPattern datum_type) out.sentences := by
  obtain ⟨hgsa, htalker⟩ := r.generateGsas_reads
  obtain ⟨hpart, hlength⟩ := r.part_talker
  have hempty : ∀ call ∈ SentenceBuffer.empty.calls, call.Safe NMEA_SENTENCE_MAX_LENGTH :=
    fun call hcall => absurd hcall List.not_mem_nil
  have hcount : r.generateGsas.svUsedCount < 1000 := hgsa.count.trans_lt (by decide)
  obtain ⟨vtg, hvtg, hvtgReads, hvtgSafe⟩ := r.printed_vtg hpart hlength hgsa.safe
  obtain ⟨dtm, hdtm, hdtmReads, hdtmSafe⟩ := r.printed_dtm hpart hlength hempty datum_type hoffset
  obtain ⟨rmc, hrmc, hrmcReads, hrmcSafe⟩ := r.printed_rmc systemInfo hpart hlength hempty
  obtain ⟨gns, hgns, hgnsReads, hgnsSafe⟩ :=
    r.printed_gns systemInfo hpart hlength hempty hcount hseparation
  obtain ⟨gga, hgga, hggaReads, hggaSafe⟩ :=
    r.printed_gga systemInfo hpart hlength hempty r.generateGsas.svUsedCount hseparation
  have hdtm' : r.loc_nmea_generate_DTM r.talker datum_type = dtm := by
    rw [loc_nmea_generate_DTM, hdtm]
  unfold generateFinal
  dsimp only
  rw [htalker, hvtg, hdtm', hrmc, hgns, hgga]
  dsimp only
  refine ⟨?_, ?_⟩
  · simp only [List.forall_mem_append]
    exact ⟨⟨⟨⟨hvtgSafe, hdtmSafe⟩, hrmcSafe⟩, hgnsSafe⟩, hggaSafe⟩
  · have hgsas : List.Forall₂ (Matches r.talker) ((gsaTypes.filter r.uses).map fun _ => blankGSA)
        r.generateGsas.sentences := forall₂_map_const hgsa.length hgsa.reads
    have hagain : List.Forall₂ (Matches r.talker)
        (if LOC_GNSS_DATUM_PZ90 = datum_type then [blankDTM] else [])
        (if LOC_GNSS_DATUM_PZ90 = datum_type then [dtm.text] else []) := by
      split
      · exact .cons hdtmReads .nil
      · exact .nil
    have hfirst : List.Forall₂ (Matches r.talker) [blankVTG, blankDTM, blankRMC]
        [vtg.text, dtm.text, rmc.text] := .cons hvtgReads (.cons hdtmReads (.cons hrmcReads .nil))
    have hgns' : Matches r.talker blankGNS gns.text := hgnsReads
    have hgga' : Matches r.talker blankGGA gga.text := hggaReads
    have hall := List.rel_append (List.rel_append (List.rel_append (List.rel_append
      (List.rel_append hgsas hfirst) hagain) (.cons hgns' .nil)) hagain) (.cons hgga' .nil)
    simpa only [finalPattern, List.append_assoc, List.cons_append, List.nil_append] using hall

/-- A report with satellites of GPS and GLONASS, a position, and `float`s that are not numbers. -/
def sampleReport : PosReport where
  times := ⟨1546300800000, 0x700F, ⟨2034, 172818000⟩⟩
  flags := 0x000F
  bearing := ⟨0x7FC00000⟩
  speedKnots := ⟨0x7F7FFFFF⟩
  speedKmPerHour := ⟨0x7F800000⟩
  magneticDeviation := ⟨0xC0000000⟩
  altitudeMeanSeaLevel := ⟨0x42C80000⟩
  pdop := ⟨0x3F800000⟩
  hdop := ⟨0x3F800000⟩
  vdop := ⟨0x3F800000⟩
  navSolutionMask := 0
  tech_mask := LOC_POS_TECH_MASK_SATELLITE
  gnss_sv_used_ids := ⟨0x15, 0x3, 0, 0, 0, 0⟩
  refLla := ⟨48, .millionths false 8310000 (by decide), true, 11, .millionths false 34500000 (by decide), true⟩
  separation := ⟨0x4047000000000000⟩
  offset := ⟨0, .millionths true 0 (by decide), false, 0, .nan false, true⟩
  offsetAltitude := ⟨0xBFF8000000000000⟩

end PosReport

end GpsHal
