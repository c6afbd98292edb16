import Mathlib.Data.List.Basic
import Mathlib.Data.Nat.Digits.Defs
import GpsHal.Gnss.Blacklist

/-!
# NMEA sentences : satellites in view

`loc_nmea_generate_sv` counts the satellites of a report, for each constellation those of a first
and of a second signal, and then generates the GSV sentences of each constellation and signal
(`utils/loc_nmea.cpp`).  A sentence has room for four satellites, and a buffer of fixed size.

Elevation, azimuth and signal strength are given as the sentences show them, rounded to `int`s.

## Main definitions

* `GnssSvNotification` : a report.
* `convert_signalType_to_signalId` : the signal id of a signal type.
* `loc_sv_cache_info.count` : the counts.
* `loc_nmea_generate_GSV` : the sentences of one constellation and signal.
* `loc_nmea_generate_sv` : all of them.
-/

namespace GpsHal

def GNSS_SV_MAX : ℕ := 176

abbrev GnssSignalTypeMask := BitVec 32

def GNSS_SIGNAL_GPS_L1CA : GnssSignalTypeMask := 1 <<< 0
def GNSS_SIGNAL_GPS_L2 : GnssSignalTypeMask := 1 <<< 2
def GNSS_SIGNAL_GPS_L5 : GnssSignalTypeMask := 1 <<< 3
def GNSS_SIGNAL_GLONASS_G1 : GnssSignalTypeMask := 1 <<< 4
def GNSS_SIGNAL_GLONASS_G2 : GnssSignalTypeMask := 1 <<< 5
def GNSS_SIGNAL_GALILEO_E1 : GnssSignalTypeMask := 1 <<< 6
def GNSS_SIGNAL_GALILEO_E5A : GnssSignalTypeMask := 1 <<< 7
def GNSS_SIGNAL_GALILEO_E5B : GnssSignalTypeMask := 1 <<< 8
def GNSS_SIGNAL_BEIDOU_B1I : GnssSignalTypeMask := 1 <<< 9
def GNSS_SIGNAL_BEIDOU_B1C : GnssSignalTypeMask := 1 <<< 10
def GNSS_SIGNAL_BEIDOU_B2I : GnssSignalTypeMask := 1 <<< 11
def GNSS_SIGNAL_BEIDOU_B2AI : GnssSignalTypeMask := 1 <<< 12
def GNSS_SIGNAL_QZSS_L1CA : GnssSignalTypeMask := 1 <<< 13
def GNSS_SIGNAL_QZSS_L2 : GnssSignalTypeMask := 1 <<< 15
def GNSS_SIGNAL_QZSS_L5 : GnssSignalTypeMask := 1 <<< 16
def GNSS_SIGNAL_SBAS_L1 : GnssSignalTypeMask := 1 <<< 17
def GNSS_SIGNAL_NAVIC_L5 : GnssSignalTypeMask := 1 <<< 18
def GNSS_SIGNAL_BEIDOU_B2AQ : GnssSignalTypeMask := 1 <<< 19

/-- The part of `GnssSv` that the sentences show. -/
structure GnssSv where
  svId : BitVec 16
  type : GnssSvType
  /-- `(int)(0.5 + cN0Dbhz)`, if the strength is positive. -/
  cN0Dbhz : Option (BitVec 32)
  /-- `(int)(0.5 + elevation)` -/
  elevation : BitVec 32
  /-- `(int)(0.5 + azimuth)` -/
  azimuth : BitVec 32
  gnssSignalTypeMask : GnssSignalTypeMask
  deriving DecidableEq, Repr

/-- `GnssSvNotification` -/
structure GnssSvNotification where
  gnssSvs : List GnssSv
  count_le : gnssSvs.length ≤ GNSS_SV_MAX

/-- `convert_signalType_to_signalId`, with the NMEA signal ids of the constellations. -/
def convert_signalType_to_signalId (signalType : GnssSignalTypeMask) : ℕ :=
  if signalType = GNSS_SIGNAL_GPS_L1CA then 1
  else if signalType = GNSS_SIGNAL_GPS_L2 then 6
  else if signalType = GNSS_SIGNAL_GPS_L5 then 8
  else if signalType = GNSS_SIGNAL_GLONASS_G1 then 1
  else if signalType = GNSS_SIGNAL_GLONASS_G2 then 3
  else if signalType = GNSS_SIGNAL_GALILEO_E1 then 7
  else if signalType = GNSS_SIGNAL_GALILEO_E5A then 1
  else if signalType = GNSS_SIGNAL_GALILEO_E5B then 2
  else if signalType = GNSS_SIGNAL_QZSS_L1CA then 1
  else if signalType = GNSS_SIGNAL_QZSS_L2 then 6
  else if signalType = GNSS_SIGNAL_QZSS_L5 then 8
  else if signalType = GNSS_SIGNAL_BEIDOU_B1I then 1
  else if signalType = GNSS_SIGNAL_BEIDOU_B1C then 3
  else if signalType = GNSS_SIGNAL_BEIDOU_B2I then 0xB
  else if signalType = GNSS_SIGNAL_BEIDOU_B2AI ∨ signalType = GNSS_SIGNAL_BEIDOU_B2AQ then 5
  else if signalType = GNSS_SIGNAL_NAVIC_L5 then 1
  else 0

/-! ### Counting -/

/-- The counts of `loc_sv_cache_info`. -/
structure loc_sv_cache_info where
  gps_l1_count : ℕ
  gps_l5_count : ℕ
  glo_g1_count : ℕ
  glo_g2_count : ℕ
  gal_e1_count : ℕ
  gal_e5_count : ℕ
  qzss_l1_count : ℕ
  qzss_l5_count : ℕ
  bds_b1_count : ℕ
  bds_b2_count : ℕ
  navic_l5_count : ℕ
  deriving DecidableEq, Repr

namespace loc_sv_cache_info

def zero : loc_sv_cache_info := ⟨0, 0, 0, 0, 0, 0, 0, 0, 0, 0, 0⟩

/-- What `loc_nmea_generate_sv` does with one satellite: everything but the second signal counts as
the first. -/
def count (c : loc_sv_cache_info) (sv : GnssSv) : loc_sv_cache_info :=
  let signal := sv.gnssSignalTypeMask
  match sv.type with
  | .GPS =>
    if GNSS_SIGNAL_GPS_L5 = signal then { c with gps_l5_count := c.gps_l5_count + 1 }
    else { c with gps_l1_count := c.gps_l1_count + 1 }
  | .GLONASS =>
    if GNSS_SIGNAL_GLONASS_G2 = signal then { c with glo_g2_count := c.glo_g2_count + 1 }
    else { c with glo_g1_count := c.glo_g1_count + 1 }
  | .GALILEO =>
    if GNSS_SIGNAL_GALILEO_E5A = signal then { c with gal_e5_count := c.gal_e5_count + 1 }
    else { c with gal_e1_count := c.gal_e1_count + 1 }
  | .QZSS =>
    if GNSS_SIGNAL_QZSS_L5 = signal then { c with qzss_l5_count := c.qzss_l5_count + 1 }
    else { c with qzss_l1_count := c.qzss_l1_count + 1 }
  | .BEIDOU =>
    if GNSS_SIGNAL_BEIDOU_B2AI = signal then { c with bds_b2_count := c.bds_b2_count + 1 }
    else { c with bds_b1_count := c.bds_b1_count + 1 }
  | .NAVIC => { c with navic_l5_count := c.navic_l5_count + 1 }
  | .UNKNOWN | .SBAS => c

end loc_sv_cache_info

/-! ### What a group of sentences has in common -/

def GLONASS_SV_ID_OFFSET : BitVec 32 := 64
def QZSS_SV_ID_OFFSET : BitVec 32 := -192

/-- The part of `loc_nmea_sv_meta` that the sentences use. -/
structure loc_nmea_sv_meta where
  talker : List Char
  svType : GnssSvType
  svCount : ℕ
  svIdOffset : BitVec 32
  signalId : ℕ
  deriving DecidableEq, Repr

/-- `loc_nmea_sv_meta_init` with `needCombine` false; `none` for a type without a talker. -/
def loc_nmea_sv_meta_init (c : loc_sv_cache_info) (svType : GnssSvType)
    (signalType : GnssSignalTypeMask) : Option loc_nmea_sv_meta :=
  let make talker svCount svIdOffset : Option loc_nmea_sv_meta :=
    some ⟨talker, svType, svCount, svIdOffset, convert_signalType_to_signalId signalType⟩
  match svType with
  | .GPS =>
    make ['G', 'P'] (if GNSS_SIGNAL_GPS_L1CA = signalType then c.gps_l1_count
      else if GNSS_SIGNAL_GPS_L5 = signalType then c.gps_l5_count else 0) 0
  | .GLONASS =>
    make ['G', 'L'] (if GNSS_SIGNAL_GLONASS_G1 = signalType then c.glo_g1_count
      else if GNSS_SIGNAL_GLONASS_G2 = signalType then c.glo_g2_count else 0) GLONASS_SV_ID_OFFSET
  | .GALILEO =>
    make ['G', 'A'] (if GNSS_SIGNAL_GALILEO_E1 = signalType then c.gal_e1_count
      else if GNSS_SIGNAL_GALILEO_E5A = signalType then c.gal_e5_count else 0) 0
  | .QZSS =>
    make ['G', 'Q'] (if GNSS_SIGNAL_QZSS_L1CA = signalType then c.qzss_l1_count
      else if GNSS_SIGNAL_QZSS_L5 = signalType then c.qzss_l5_count else 0) QZSS_SV_ID_OFFSET
  | .BEIDOU =>
    make ['G', 'B'] (if GNSS_SIGNAL_BEIDOU_B1I = signalType then c.bds_b1_count
      else if GNSS_SIGNAL_BEIDOU_B2AI = signalType then c.bds_b2_count else 0) 0
  | .NAVIC =>
    make ['G', 'I'] (if GNSS_SIGNAL_NAVIC_L5 = signalType then c.navic_l5_count else 0) 0
  | .UNKNOWN | .SBAS => none

/-! ### Formatting -/

/-- The format `%0wd`. -/
def formatD (width : ℕ) (n : ℤ) : List Char :=
  let digits := Nat.toDigits 10 n.natAbs
  if n < 0 then '-' :: (List.replicate (width - 1 - digits.length) '0' ++ digits)
  else List.replicate (width - digits.length) '0' ++ digits

/-- The format `%X`. -/
def formatX (n : ℕ) : List Char := (Nat.toDigits 16 n).map Char.toUpper

def NMEA_SENTENCE_MAX_LENGTH : ℕ := 200

/-- A GSV sentence as it is pushed, before its checksum. -/
structure GsvSentence where
  talker : List Char
  sentenceCount : ℕ
  sentenceNumber : ℕ
  svCount : ℕ
  /-- The indices of the satellites in the report, one for each block. -/
  blocks : List ℕ
  /-- What has been written after the last block. -/
  signal : List Char
  text : List Char
  deriving DecidableEq, Repr

/-- `$%sGSV,%d,%d,%02d` -/
def gsvHeader (talker : List Char) (sentenceCount sentenceNumber svCount : ℕ) : List Char :=
  '$' :: (talker ++ ['G', 'S', 'V', ','] ++ formatD 1 sentenceCount ++ ',' ::
    (formatD 1 sentenceNumber ++ ',' :: formatD 2 svCount))

/-- `,%02d,%02d,%03d,` -/
def gsvPosition (svIdOffset : BitVec 32) (sv : GnssSv) : List Char :=
  ',' :: (formatD 2 (sv.svId.setWidth 32 + svIdOffset).toInt ++ ',' ::
    (formatD 2 sv.elevation.toInt ++ ',' :: (formatD 3 sv.azimuth.toInt ++ [','])))

/-- `%02d`, or nothing for a satellite without a signal. -/
def gsvStrength (sv : GnssSv) : List Char :=
  match sv.cN0Dbhz with
  | some cN0Dbhz => formatD 2 cN0Dbhz.toInt
  | none => []

/-- `,%X` -/
def gsvSignal (signalId : ℕ) : List Char := ',' :: formatX signalId

/-! ### Generating -/

/-- The signal type of a satellite, or the default of its constellation. -/
def reportedSignal (sv : GnssSv) : Option GnssSignalTypeMask :=
  if 0 = sv.gnssSignalTypeMask then
    match sv.type with
    | .GPS => some GNSS_SIGNAL_GPS_L1CA
    | .GLONASS => some GNSS_SIGNAL_GLONASS_G1
    | .GALILEO => some GNSS_SIGNAL_GALILEO_E1
    | .QZSS => some GNSS_SIGNAL_QZSS_L1CA
    | .BEIDOU => some GNSS_SIGNAL_BEIDOU_B1I
    | .SBAS => some GNSS_SIGNAL_SBAS_L1
    | .NAVIC => some GNSS_SIGNAL_NAVIC_L5
    | .UNKNOWN => none
  else some sv.gnssSignalTypeMask

/-- The satellite belongs to the group. -/
def loc_nmea_sv_meta.shows (m : loc_nmea_sv_meta) (sv : GnssSv) : Bool :=
  match reportedSignal sv with
  | none => false
  | some signalType => m.svType == sv.type && m.signalId == convert_signalType_to_signalId signalType

/-- The inner loop of `loc_nmea_generate_GSV`, with the text and the blocks so far: the result is
`none` if the text does not fit, and otherwise the text, the blocks and what is left of the report. -/
def putBlocks (bufSize : ℕ) (m : loc_nmea_sv_meta) (text : List Char) (blocks : List ℕ) :
    List (ℕ × GnssSv) → Option (List Char × List ℕ × List (ℕ × GnssSv))
  | [] => some (text, blocks, [])
  | (k, sv) :: rest =>
    if blocks.length < 4 then
      if m.shows sv then
        let text := text ++ gsvPosition m.svIdOffset sv
        if text.length ≥ bufSize then none
        else
          let text := text ++ gsvStrength sv
          if text.length ≥ bufSize then none else putBlocks bufSize m text (blocks ++ [k]) rest
      else putBlocks bufSize m text blocks rest
    else some (text, blocks, (k, sv) :: rest)

/-- The outer loop, with the number of sentences left.  Once a text does not fit, nothing more is
generated. -/
def putSentences (bufSize : ℕ) (m : loc_nmea_sv_meta) (sentenceCount : ℕ) :
    ℕ → ℕ → List (ℕ × GnssSv) → List GsvSentence
  | 0, _, _ => []
  | left + 1, sentenceNumber, rest =>
    let header := gsvHeader m.talker sentenceCount sentenceNumber m.svCount
    if header.length ≥ bufSize then []
    else
      match putBlocks bufSize m header [] rest with
      | none => []
      | some (text, blocks, rest) =>
        -- this is cut off if it does not fit
        let signal := (gsvSignal m.signalId).take (bufSize - text.length - 1)
        ⟨m.talker, sentenceCount, sentenceNumber, m.svCount, blocks, signal, text ++ signal⟩ ::
          putSentences bufSize m sentenceCount left (sentenceNumber + 1) rest

/-- `loc_nmea_generate_GSV` -/
def loc_nmea_generate_GSV (svNotify : GnssSvNotification) (bufSize : ℕ) (m : loc_nmea_sv_meta) :
    List GsvSentence :=
  if m.svCount ≤ 0 then []
  else
    let sentenceCount := m.svCount / 4 + (if m.svCount % 4 ≠ 0 then 1 else 0)
    putSentences bufSize m sentenceCount sentenceCount 1 ((List.range svNotify.gnssSvs.length).zip
      svNotify.gnssSvs)

/-- The constellations and signals in the order of `loc_nmea_generate_sv`. -/
def gsvGroups : List (GnssSvType × GnssSignalTypeMask) :=
  [(.GPS, GNSS_SIGNAL_GPS_L1CA), (.GPS, GNSS_SIGNAL_GPS_L5),
    (.GLONASS, GNSS_SIGNAL_GLONASS_G1), (.GLONASS, GNSS_SIGNAL_GLONASS_G2),
    (.GALILEO, GNSS_SIGNAL_GALILEO_E1), (.GALILEO, GNSS_SIGNAL_GALILEO_E5A),
    (.QZSS, GNSS_SIGNAL_QZSS_L1CA), (.QZSS, GNSS_SIGNAL_QZSS_L5),
    (.BEIDOU, GNSS_SIGNAL_BEIDOU_B1I), (.BEIDOU, GNSS_SIGNAL_BEIDOU_B2AI),
    (.NAVIC, GNSS_SIGNAL_NAVIC_L5)]

/-- `loc_nmea_generate_sv` -/
def loc_nmea_generate_sv (svNotify : GnssSvNotification) : List GsvSentence :=
  let sv_cache_info := svNotify.gnssSvs.foldl loc_sv_cache_info.count .zero
  gsvGroups.flatMap fun group =>
    match loc_nmea_sv_meta_init sv_cache_info group.1 group.2 with
    | some m => loc_nmea_generate_GSV svNotify NMEA_SENTENCE_MAX_LENGTH m
    | none => []

end GpsHal
