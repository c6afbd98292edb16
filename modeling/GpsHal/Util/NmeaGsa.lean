import GpsHal.Core.ReportKinds
import GpsHal.Util.NmeaBuffer
import GpsHal.Util.NmeaGsv
import Mathlib.Algebra.Group.Nat.Defs

/-!
# NMEA sentences : active satellites

`loc_nmea_generate_pos` generates a GSA sentence for each constellation that has satellites in the
position, with up to twelve of their ids and the dilutions of precision, which are `float`s of any
value (`utils/loc_nmea.cpp`).  The pieces with the dilutions and the system id are not checked for
truncation.

## Main definitions

* `formatF1` : the format `%.1f`.
* `loc_nmea_generate_GSA` : the sentence of a constellation.
* `generateAllGsa` : the sentences of `loc_nmea_generate_pos`.

## Main results

* `length_formatF1_le` : the length of the largest `float`.
* `loc_nmea_gsa_meta.Listed.generate` : the sentence of a constellation is complete.
-/

namespace GpsHal

/-! ### Dilutions of precision -/

/-- The nearest integer to a quotient, an even one if there are two. -/
def roundHalfEven (n d : ℕ) : ℕ :=
  if 2 * (n % d) < d ∨ 2 * (n % d) = d ∧ n / d % 2 = 0 then n / d else n / d + 1

/-- The tenths of a finite number with the given fields, rounded. -/
def floatTenths (exponent fraction : ℕ) : ℕ :=
  let significand := if exponent = 0 then fraction else 2 ^ 23 + fraction
  let exponent := if exponent = 0 then 1 else exponent
  if 150 ≤ exponent then 10 * (significand * 2 ^ (exponent - 150))
  else roundHalfEven (10 * significand) (2 ^ (150 - exponent))

/-- The format `%.1f` of a `float`. -/
def formatF1 (a : CFloat) : List Char :=
  let sign := if a.bits.msb then ['-'] else []
  let exponent := (a.bits.extractLsb' 23 8).toNat
  let fraction := (a.bits.extractLsb' 0 23).toNat
  if exponent = 255 then sign ++ if fraction = 0 then ['i', 'n', 'f'] else ['n', 'a', 'n']
  else
    let tenths := floatTenths exponent fraction
    sign ++ (Nat.toDigits 10 (tenths / 10) ++ '.' :: Nat.toDigits 10 (tenths % 10))

example : formatF1 ⟨0x3FCCCCCD⟩ = ['1', '.', '6'] ∧ formatF1 ⟨0xC2C80000⟩ =
    ['-', '1', '0', '0', '.', '0'] := by decide

theorem roundHalfEven_le (n d : ℕ) : roundHalfEven n d ≤ n / d + 1 := by
  unfold roundHalfEven
  split_ifs
  · exact Nat.le_succ _
  · exact le_rfl

/-- A finite `float` is less than `2 ^ 128`, which has 39 digits. -/
theorem floatTenths_lt {exponent fraction : ℕ} (he : exponent < 255) (hf : fraction < 2 ^ 23) :
    floatTenths exponent fraction / 10 < 10 ^ 39 := by
  have hsignificand : (if exponent = 0 then fraction else 2 ^ 23 + fraction) < 2 ^ 24 := by
    split_ifs <;> omega
  unfold floatTenths
  dsimp only
  generalize (if exponent = 0 then fraction else 2 ^ 23 + fraction) = significand at *
  split_ifs with hzero hlarge hlarge
  · omega
  · have := roundHalfEven_le (10 * significand) (2 ^ (150 - 1))
    have := Nat.div_le_self (10 * significand) (2 ^ (150 - 1))
    have : (10 : ℕ) ^ 8 ≤ 10 ^ 39 := by decide
    omega
  · rw [Nat.mul_div_cancel_left _ (by decide)]
    calc significand * 2 ^ (exponent - 150) ≤ 2 ^ 24 * 2 ^ (254 - 150) :=
          Nat.mul_le_mul hsignificand.le (Nat.pow_le_pow_right (by decide) (by omega))
      _ < 10 ^ 39 := by decide
  · have := roundHalfEven_le (10 * significand) (2 ^ (150 - exponent))
    have := Nat.div_le_self (10 * significand) (2 ^ (150 - exponent))
    have : (10 : ℕ) ^ 8 ≤ 10 ^ 39 := by decide
    omega

theorem length_formatF1_le (a : CFloat) : (formatF1 a).length ≤ 42 := by
  have hsign : (if a.bits.msb then ['-'] else []).length ≤ 1 := by split_ifs <;> decide
  have hexponent : (a.bits.extractLsb' 23 8).toNat < 256 := (a.bits.extractLsb' 23 8).isLt
  have hfraction : (a.bits.extractLsb' 0 23).toNat < 2 ^ 23 := (a.bits.extractLsb' 0 23).isLt
  unfold formatF1
  generalize (if a.bits.msb then ['-'] else []) = sign at *
  generalize (a.bits.extractLsb' 23 8).toNat = exponent at *
  generalize (a.bits.extractLsb' 0 23).toNat = fraction at *
  dsimp only
  split_ifs with hinf hzero
  · rw [List.length_append]
    exact Nat.add_le_add hsign (show 3 ≤ 41 by decide)
  · rw [List.length_append]
    exact Nat.add_le_add hsign (show 3 ≤ 41 by decide)
  · have hint := Nat.toDigits_length 10 _ 39 (by decide)
      (floatTenths_lt (show exponent < 255 by omega) hfraction)
    have hfrac := Nat.toDigits_length 10 (floatTenths exponent fraction % 10) 1 (by decide)
      (Nat.mod_lt _ (by decide))
    rw [List.length_append, List.length_append, List.length_cons]
    omega

/-! ### Plain texts -/

theorem plain_append {s t : List Char} (hs : Plain s) (ht : Plain t) : Plain (s ++ t) := by
  intro c hc
  rcases List.mem_append.1 hc with hc | hc
  · exact hs c hc
  · exact ht c hc

theorem plain_cons {c : Char} {s : List Char} (hc : c ≠ '$' ∧ c ≠ '*' ∧ c ≠ Char.ofNat 0)
    (hs : Plain s) : Plain (c :: s) :=
  List.forall_mem_cons.2 ⟨hc, hs⟩

theorem plain_flatten {pieces : List (List Char)} (h : ∀ piece ∈ pieces, Plain piece) :
    Plain pieces.flatten := by
  intro c hc
  obtain ⟨piece, hpiece, hc⟩ := List.mem_flatten.1 hc
  exact h piece hpiece c hc

theorem plain_toDigits (n : ℕ) : Plain (Nat.toDigits 10 n) := by
  intro c hc
  have hdigit := Nat.isDigit_of_mem_toDigits (by decide) (by decide) hc
  refine ⟨?_, ?_, ?_⟩ <;>
  · rintro rfl
    revert hdigit
    decide

theorem plain_replicate (n : ℕ) : Plain (List.replicate n '0') := by
  intro c hc
  rw [List.eq_of_mem_replicate hc]
  decide

theorem plain_formatD (width : ℕ) (n : ℤ) : Plain (formatD width n) := by
  unfold formatD
  dsimp only
  split_ifs
  · exact plain_cons (by decide) (plain_append (plain_replicate _) (plain_toDigits _))
  · exact plain_append (plain_replicate _) (plain_toDigits _)

theorem plain_formatF1 (a : CFloat) : Plain (formatF1 a) := by
  have hsign : Plain (if a.bits.msb then ['-'] else []) := by split_ifs <;> decide
  unfold formatF1
  generalize (if a.bits.msb then ['-'] else []) = sign at *
  dsimp only
  split_ifs with hinf hzero
  · exact plain_append hsign (by decide)
  · exact plain_append hsign (by decide)
  · exact plain_append hsign (plain_append (plain_toDigits _)
      (plain_cons (by decide) (plain_toDigits _)))

/-! ### Generating -/

/-- The masks of `loc_sv_cache_info` with the satellites that were used. -/
structure loc_sv_used_masks where
  gps_used_mask : BitVec 64
  glo_used_mask : BitVec 64
  gal_used_mask : BitVec 64
  qzss_used_mask : BitVec 64
  bds_used_mask : BitVec 64
  navic_used_mask : BitVec 64
  deriving DecidableEq, Repr

def get_sv_count_from_mask (svMask : BitVec 64) (totalSvCount : ℕ) : ℕ :=
  ((List.range totalSvCount).filter fun index => svMask.getLsbD index).length

namespace loc_sv_used_masks

variable (c : loc_sv_used_masks)

def totalSvUsedCount : ℕ :=
  get_sv_count_from_mask c.gps_used_mask 32 + get_sv_count_from_mask c.glo_used_mask 32 +
    get_sv_count_from_mask c.gal_used_mask 36 + get_sv_count_from_mask c.qzss_used_mask 5 +
    get_sv_count_from_mask c.bds_used_mask 35 + get_sv_count_from_mask c.navic_used_mask 14

/-- Satellites of several constellations were used. -/
def combined : Bool :=
  1 < ([c.gps_used_mask, c.glo_used_mask, c.gal_used_mask, c.qzss_used_mask, c.bds_used_mask,
    c.navic_used_mask].filter (· ≠ 0)).length

end loc_sv_used_masks

/-- The part of `loc_nmea_sv_meta` that a GSA sentence uses. -/
structure loc_nmea_gsa_meta where
  talker : List Char
  svType : GnssSvType
  mask : BitVec 64
  svIdOffset : BitVec 32
  systemId : ℕ
  totalSvUsedCount : ℕ
  deriving DecidableEq, Repr

/-- `loc_nmea_sv_meta_init` with `needCombine` true. -/
def loc_nmea_gsa_meta_init (c : loc_sv_used_masks) (svType : GnssSvType) :
    Option loc_nmea_gsa_meta :=
  let make talker mask svIdOffset systemId : Option loc_nmea_gsa_meta :=
    some ⟨if c.combined then ['G', 'N'] else talker, svType, mask, svIdOffset, systemId,
      c.totalSvUsedCount⟩
  match svType with
  | .GPS => make ['G', 'P'] c.gps_used_mask 0 1
  | .GLONASS => make ['G', 'L'] c.glo_used_mask GLONASS_SV_ID_OFFSET 2
  | .GALILEO => make ['G', 'A'] c.gal_used_mask 0 3
  | .QZSS => make ['G', 'Q'] c.qzss_used_mask QZSS_SV_ID_OFFSET 5
  | .BEIDOU => make ['G', 'B'] c.bds_used_mask 0 4
  | .NAVIC => make ['G', 'I'] c.navic_used_mask 0 6
  | .UNKNOWN | .SBAS => none

namespace loc_nmea_gsa_meta

variable (m : loc_nmea_gsa_meta)

/-- The ids of the bits of the mask, from the lowest one on. -/
def svUsedList : List (BitVec 32) :=
  let svIdOffset := if m.svType ≠ .GLONASS then 0 else m.svIdOffset
  ((List.range 64).filter fun i => m.mask.getLsbD i).map fun i => BitVec.ofNat 32 (i + 1) + svIdOffset

def fixType : Char :=
  if m.totalSvUsedCount = 0 then '1' else if m.totalSvUsedCount ≤ 3 then '2' else '3'

/-- `%sGSA,A,%c,` -/
def header : List Char := m.talker ++ ['G', 'S', 'A', ',', 'A', ',', m.fixType, ',']

/-- `%02d,` or `,` -/
def svId (i : ℕ) : List Char :=
  match m.svUsedList[i]? with
  | some svId => formatD 2 svId.toInt ++ [',']
  | none => [',']

/-- `%.1f,%.1f,%.1f,`, if there are dilutions. -/
def dop : Option (CFloat × CFloat × CFloat) → List Char
  | some (pdop, hdop, vdop) =>
    formatF1 pdop ++ ',' :: (formatF1 hdop ++ ',' :: (formatF1 vdop ++ [',']))
  | none => [',', ',', ',']

/-- The text of the sentence, without its dollar sign. -/
def body (dops : Option (CFloat × CFloat × CFloat)) : List Char :=
  m.header ++ ((List.range 12).map m.svId).flatten ++ dop dops ++ formatD 1 m.systemId

end loc_nmea_gsa_meta

/-- `loc_nmea_generate_GSA`, with what it pushes. -/
def loc_nmea_generate_GSA (dops : Option (CFloat × CFloat × CFloat)) (bufSize : ℕ)
    (b : SentenceBuffer) (m : loc_nmea_gsa_meta) : SentenceBuffer × List (List Char) :=
  if m.svUsedList.length = 0 then (b, [])
  else
    match (b.start bufSize).putAll (('$' :: m.header) :: (List.range 12).map m.svId) with
    | .error b => (b, [])
    | .ok b =>
      -- these two are not checked
      let b := (b.put (loc_nmea_gsa_meta.dop dops)).put (formatD 1 m.systemId)
      let b := loc_nmea_put_checksum b bufSize
      (b, [b.text])

/-- The constellations in the order of `loc_nmea_generate_pos`. -/
def gsaTypes : List GnssSvType := [.GPS, .GLONASS, .GALILEO, .BEIDOU, .QZSS]

/-- The GSA sentences of `loc_nmea_generate_pos`, which share a buffer. -/
def generateAllGsa (c : loc_sv_used_masks) (dops : Option (CFloat × CFloat × CFloat))
    (b : SentenceBuffer) : SentenceBuffer × List (List Char) :=
  gsaTypes.foldl (fun r svType =>
    match loc_nmea_gsa_meta_init c svType with
    | some m =>
      let r' := loc_nmea_generate_GSA dops NMEA_SENTENCE_MAX_LENGTH r.1 m
      (r'.1, r.2 ++ r'.2)
    | none => r) (b, [])

/-! ### What is generated -/

theorem length_flatten_le {pieces : List (List Char)} {n : ℕ}
    (h : ∀ piece ∈ pieces, piece.length ≤ n) : pieces.flatten.length ≤ pieces.length * n := by
  induction pieces with
  | nil => exact Nat.zero_le _
  | cons piece pieces ih =>
    rw [List.flatten_cons, List.length_append, List.length_cons, Nat.succ_mul]
    have := ih fun p hp => h p (List.mem_cons_of_mem _ hp)
    have := h piece List.mem_cons_self
    omega

/-- What holds of the constellations: two letters, an id with a digit, and satellites with at most
three digits. -/
structure loc_nmea_gsa_meta.Listed (m : loc_nmea_gsa_meta) : Prop where
  talker : m.talker.length = 2
  plain : Plain m.talker
  systemId : m.systemId < 10
  svId : ∀ id ∈ m.svUsedList, id.toNat < 1000

theorem listed_of_init {c : loc_sv_used_masks} {svType : GnssSvType} {m : loc_nmea_gsa_meta}
    (h : loc_nmea_gsa_meta_init c svType = some m) : m.Listed := by
  have hid : ∀ offset : BitVec 32, offset.toNat ≤ 64 → ∀ i < 64,
      (BitVec.ofNat 32 (i + 1) + offset).toNat < 1000 := by
    intro offset hoffset i hi
    rw [BitVec.toNat_add, BitVec.toNat_ofNat]
    omega
  have hmem : ∀ id ∈ m.svUsedList, ∃ i < 64, id = BitVec.ofNat 32 (i + 1) +
      if m.svType ≠ .GLONASS then 0 else m.svIdOffset := by
    intro id hmem
    obtain ⟨i, hi, rfl⟩ := List.mem_map.1 hmem
    exact ⟨i, List.mem_range.1 (List.mem_of_mem_filter hi), rfl⟩
  have hoffset : (if m.svType ≠ .GLONASS then (0 : BitVec 32) else m.svIdOffset).toNat ≤ 64 := by
    split_ifs with hne
    · decide
    · cases svType with
      | GLONASS =>
        cases h
        exact (by decide : GLONASS_SV_ID_OFFSET.toNat ≤ 64)
      | _ =>
        cases h
        all_goals exact absurd (fun heq => by cases heq) hne
  refine ⟨?_, ?_, ?_, fun id hmem' => ?_⟩
  · cases svType <;> cases h <;> dsimp only <;> split_ifs <;> rfl
  · cases svType <;> cases h <;> dsimp only <;> split_ifs <;> decide
  · cases svType <;> cases h <;> dsimp only <;> omega
  · obtain ⟨i, hi, rfl⟩ := hmem id hmem'
    exact hid _ hoffset i hi

namespace loc_nmea_gsa_meta

variable {m : loc_nmea_gsa_meta}

theorem length_header (h : m.Listed) : m.header.length = 10 := by
  unfold header
  rw [List.length_append, h.talker]
  rfl

theorem length_svId_le (h : m.Listed) (i : ℕ) : (m.svId i).length ≤ 4 := by
  unfold svId
  cases hid : m.svUsedList[i]? with
  | none => exact (by decide : 1 ≤ 4)
  | some id =>
    have hlt := h.svId id (List.mem_of_getElem? hid)
    have := length_formatD_ofNat_le 2 (by decide : 0 < 3) hlt
    dsimp only
    rw [BitVec.toInt_eq_toNat_of_lt (by omega), List.length_append, List.length_singleton]
    omega

theorem length_dop_le (dops : Option (CFloat × CFloat × CFloat)) : (dop dops).length ≤ 129 := by
  cases dops with
  | none => exact (by decide : 3 ≤ 129)
  | some dops =>
    obtain ⟨pdop, hdop, vdop⟩ := dops
    have := length_formatF1_le pdop
    have := length_formatF1_le hdop
    have := length_formatF1_le vdop
    unfold dop
    simp only [List.length_append, List.length_cons, List.length_nil]
    omega

theorem length_svIds_le (h : m.Listed) : (((List.range 12).map m.svId).flatten).length ≤ 48 := by
  have := @length_flatten_le ((List.range 12).map m.svId) 4 fun piece hpiece => by
    obtain ⟨i, -, rfl⟩ := List.mem_map.1 hpiece
    exact length_svId_le h i
  rwa [List.length_map, List.length_range] at this

theorem plain_body (h : m.Listed) (dops : Option (CFloat × CFloat × CFloat)) :
    Plain (m.body dops) := by
  have hheader : Plain m.header := by
    refine plain_append h.plain ?_
    unfold fixType
    split_ifs <;> decide
  have hids : Plain ((List.range 12).map m.svId).flatten := by
    refine plain_flatten fun piece hpiece => ?_
    obtain ⟨i, -, rfl⟩ := List.mem_map.1 hpiece
    unfold svId
    split
    · exact plain_append (plain_formatD _ _) (by decide)
    · decide
  have hdop : Plain (dop dops) := by
    cases dops with
    | none => decide
    | some dops =>
      exact plain_append (plain_formatF1 _) (plain_cons (by decide) (plain_append
        (plain_formatF1 _) (plain_cons (by decide) (plain_append (plain_formatF1 _) (by decide)))))
  exact plain_append (plain_append (plain_append hheader hids) hdop) (plain_formatD _ _)

end loc_nmea_gsa_meta

/-- What a generator may do: its calls are safe, and what it pushes are well-formed sentences. -/
structure NmeaOutcome (bufSize : ℕ) (r : SentenceBuffer × List (List Char)) : Prop where
  safe : ∀ call ∈ r.1.calls, call.Safe bufSize
  sentences : ∀ sentence ∈ r.2, NmeaSentence sentence

section

open loc_nmea_gsa_meta

/-- The sentence of a constellation is complete: its header, ids, dilutions and system id. -/
theorem loc_nmea_gsa_meta.Listed.generate {m : loc_nmea_gsa_meta} (h : m.Listed)
    (dops : Option (CFloat × CFloat × CFloat)) {b : SentenceBuffer}
    (hsafe : ∀ call ∈ b.calls, call.Safe NMEA_SENTENCE_MAX_LENGTH) :
    (∀ call ∈ (loc_nmea_generate_GSA dops NMEA_SENTENCE_MAX_LENGTH b m).1.calls,
      call.Safe NMEA_SENTENCE_MAX_LENGTH) ∧
    (loc_nmea_generate_GSA dops NMEA_SENTENCE_MAX_LENGTH b m).2 =
      if m.svUsedList.length = 0 then [] else [nmeaSentence (m.body dops)] := by
  have hmax : NMEA_SENTENCE_MAX_LENGTH = 200 := rfl
  have hheader := length_header h
  have hids := length_svIds_le h
  have hdop := length_dop_le dops
  have hsystem := length_formatD_ofNat_le 1 (by decide : 0 < 1) h.systemId
  unfold loc_nmea_generate_GSA
  split_ifs with hnone
  · exact ⟨hsafe, rfl⟩
  · -- the pieces that are checked all have room
    obtain ⟨b', heq, hfits⟩ := (SentenceBuffer.fits_start (by rw [hmax]; decide) hsafe).putAll
      (('$' :: m.header) :: (List.range 12).map m.svId) (by
        rw [List.flatten_cons, List.length_append, List.length_cons, List.length_nil, hmax]
        omega)
    rw [List.nil_append, List.flatten_cons] at hfits
    obtain ⟨hfits, -⟩ := hfits.put (loc_nmea_gsa_meta.dop dops) (by
      rw [List.length_append, List.length_cons, hmax]
      omega)
    obtain ⟨hfits, htext⟩ := hfits.put (formatD 1 m.systemId) (by
      rw [List.length_append, List.length_append, List.length_cons, hmax]
      omega)
    have hbody : '$' :: m.header ++ ((List.range 12).map m.svId).flatten ++
        loc_nmea_gsa_meta.dop dops ++ formatD 1 m.systemId = '$' :: m.body dops := rfl
    rw [hbody] at hfits htext
    obtain ⟨hpushed, hsafe'⟩ := hfits.checksum htext (by
      unfold loc_nmea_gsa_meta.body
      rw [List.length_append, List.length_append, List.length_append, hmax]
      omega)
    rw [heq]
    exact ⟨hsafe', congrArg (fun s => [s]) hpushed⟩

end

end GpsHal
