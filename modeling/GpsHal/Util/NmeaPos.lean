import GpsHal.Gnss.SvUsedInFix
import GpsHal.Util.LeapSecond
import GpsHal.Util.NmeaGsa

/-!
# NMEA sentences : the position

`loc_nmea_generate_pos` generates the sentences of a position report: those of the satellites that were
used, and then VTG, DTM, RMC, GNS and GGA, which are printed into buffers of their own.  A part that the
report does not have is left empty, but its commas are printed.  A report that is not final is answered
with blank sentences (`utils/loc_nmea.cpp`).

Numbers are given as the sentences show them, after the conversions between the datums and the units:
an angle by its degrees, an `uint8_t`, and its minutes in millionths, the others by their bits.

## Main definitions

* `formatFixed` : the formats `%.1lf` and `%.3lf` of a `double`.
* `PosReport` : a position report.
* `printSentence` : the printing of a sentence, piece by piece.
* `PosReport.loc_nmea_generate_pos` : the calls of `snprintf` and the sentences.
* `PosReport.finalPattern` : the kinds of sentences for a final fix.
-/

namespace GpsHal

def LOC_GPS_LOCATION_HAS_LAT_LONG : BitVec 16 := 0x0001
def LOC_GPS_LOCATION_HAS_ALTITUDE : BitVec 16 := 0x0002
def LOC_GPS_LOCATION_HAS_SPEED : BitVec 16 := 0x0004
def LOC_GPS_LOCATION_HAS_BEARING : BitVec 16 := 0x0008

def GPS_LOCATION_EXTENDED_HAS_DOP : BitVec 64 := 0x0001
def GPS_LOCATION_EXTENDED_HAS_ALTITUDE_MEAN_SEA_LEVEL : BitVec 64 := 0x0002
def GPS_LOCATION_EXTENDED_HAS_MAG_DEV : BitVec 64 := 0x0004
def GPS_LOCATION_EXTENDED_HAS_NAV_SOLUTION_MASK : BitVec 64 := 0x2000
def GPS_LOCATION_EXTENDED_HAS_POS_TECH_MASK : BitVec 64 := 0x4000

def LOC_NAV_MASK_SBAS_CORRECTION_IONO : BitVec 32 := 0x0001
def LOC_NAV_MASK_DGNSS_CORRECTION : BitVec 32 := 0x0010
def LOC_NAV_MASK_RTK_CORRECTION : BitVec 32 := 0x0020
def LOC_NAV_MASK_PPP_CORRECTION : BitVec 32 := 0x0040
def LOC_NAV_MASK_RTK_FIXED_CORRECTION : BitVec 32 := 0x0080

def LOC_POS_TECH_MASK_SATELLITE : BitVec 32 := 0x00000001
def LOC_POS_TECH_MASK_SENSORS : BitVec 32 := 0x00000008

def LOC_GNSS_DATUM_WGS84 : BitVec 32 := 0
def LOC_GNSS_DATUM_PZ90 : BitVec 32 := 1

def MAX_SATELLITES_IN_USE : ℕ := 12

/-! ### Numbers -/

/-- A finite number with the given fields in units of the last decimal place, rounded. -/
def doubleUnits (precision exponent fraction : ℕ) : ℕ :=
  let significand := if exponent = 0 then fraction else 2 ^ 52 + fraction
  let exponent := if exponent = 0 then 1 else exponent
  if 1075 ≤ exponent then 10 ^ precision * (significand * 2 ^ (exponent - 1075))
  else roundHalfEven (10 ^ precision * significand) (2 ^ (1075 - exponent))

/-- The formats `%.1lf` and `%.3lf` of a `double`, with the precision. -/
def formatFixed (precision : ℕ) (a : CDouble) : List Char :=
  let sign := if a.bits.msb then ['-'] else []
  let exponent := (a.bits.extractLsb' 52 11).toNat
  let fraction := (a.bits.extractLsb' 0 52).toNat
  if exponent = 2047 then sign ++ if fraction = 0 then ['i', 'n', 'f'] else ['n', 'a', 'n']
  else
    let units := doubleUnits precision exponent fraction
    sign ++ (Nat.toDigits 10 (units / 10 ^ precision) ++
      '.' :: formatD precision (units % 10 ^ precision : ℕ))

example : formatFixed 3 ⟨0xBFF8000000000000⟩ = ['-', '1', '.', '5', '0', '0'] := by decide

/-- `x < 0.0` -/
def CFloat.isNegative (x : CFloat) : Bool := x.bits.msb && !x.isNaN && !x.isZero

/-- `x * -1.0` -/
def CFloat.negate (x : CFloat) : CFloat := ⟨x.bits ^^^ 0x80000000⟩

/-- The minutes of an angle, an `fmod` by 60, as they are printed. -/
inductive ShownMinutes
  /-- In millionths.  Only a zero can be negative. -/
  | millionths (negative : Bool) (n : ℕ) (le : n ≤ 60000000)
  | nan (negative : Bool)

/-- The format `%09.6lf`. -/
def ShownMinutes.text : ShownMinutes → List Char
  | .millionths negative n _ =>
    let sign := if negative then ['-'] else []
    let digits := formatD 1 (n / 1000000 : ℕ) ++ '.' :: formatD 6 (n % 1000000 : ℕ)
    sign ++ List.replicate (9 - sign.length - digits.length) '0' ++ digits
  | .nan negative =>
    let text := (if negative then ['-'] else []) ++ ['n', 'a', 'n']
    List.replicate (9 - text.length) ' ' ++ text

/-- A latitude and a longitude. -/
structure ShownLatLong where
  latDegrees : BitVec 8
  latMinutes : ShownMinutes
  latHemisphere : Bool
  lonDegrees : BitVec 8
  lonMinutes : ShownMinutes
  lonHemisphere : Bool

/-- `%02d%09.6lf,%c,%03d%09.6lf,%c,` -/
def ShownLatLong.text (a : ShownLatLong) : List Char :=
  formatD 2 a.latDegrees.toNat ++ a.latMinutes.text ++
    ',' :: (if a.latHemisphere then 'N' else 'S') :: ',' ::
      (formatD 3 a.lonDegrees.toNat ++ a.lonMinutes.text ++
        [',', if a.lonHemisphere then 'E' else 'W', ','])

/-- The parts of `UlpLocation` and `GpsLocationExtended` that are printed.  The flags of the latter are
those of `times`. -/
structure PosReport where
  times : PosTimes
  flags : BitVec 16
  bearing : CFloat
  speedKnots : CFloat
  speedKmPerHour : CFloat
  magneticDeviation : CFloat
  altitudeMeanSeaLevel : CFloat
  pdop : CFloat
  hdop : CFloat
  vdop : CFloat
  navSolutionMask : BitVec 32
  tech_mask : BitVec 32
  gnss_sv_used_ids : loc_sv_used_masks
  /-- `ref_lla`, the position by the datum that is set. -/
  refLla : ShownLatLong
  /-- `ref_lla.alt - locationExtended.altitudeMeanSeaLevel` -/
  separation : CDouble
  /-- `lla_offset`, from this datum to the other one. -/
  offset : ShownLatLong
  offsetAltitude : CDouble

/-! ### Printing -/

/-- A piece of a sentence, and whether it is checked for truncation. -/
structure NmeaPiece where
  checked : Bool
  text : List Char

/-- The pieces are printed one after the other. -/
def putPieces (b : SentenceBuffer) (pieces : List NmeaPiece) : Except SentenceBuffer SentenceBuffer :=
  pieces.foldlM (fun b piece => if piece.checked then b.putChecked piece.text else .ok (b.put piece.text)) b

/-- A sentence with its checksum.  It is given up if a piece that is checked has been cut off. -/
def printSentence (bufSize : ℕ) (b : SentenceBuffer) (pieces : List NmeaPiece) :
    Except SentenceBuffer SentenceBuffer :=
  (putPieces (b.start bufSize) pieces).map fun b => loc_nmea_put_checksum b bufSize

/-- A buffer of zeros. -/
def SentenceBuffer.empty : SentenceBuffer := ⟨[], 0, 0, []⟩

/-- What `loc_nmea_generate_pos` does: the calls of `snprintf` in all buffers, which are of one size, and
what is pushed. -/
structure PosOutcome where
  calls : List SnprintfCall
  sentences : List (List Char)
  deriving DecidableEq, Repr

/-- The mask of a constellation. -/
def loc_sv_used_masks.mask (c : loc_sv_used_masks) : GnssSvType → BitVec 64
  | .GPS => c.gps_used_mask
  | .GLONASS => c.glo_used_mask
  | .GALILEO => c.gal_used_mask
  | .QZSS => c.qzss_used_mask
  | .BEIDOU => c.bds_used_mask
  | .NAVIC => c.navic_used_mask
  | .UNKNOWN | .SBAS => 0

namespace PosReport

variable (r : PosReport)

def has (flag : BitVec 16) : Bool := r.flags &&& flag ≠ 0

def hasExtended (flag : BitVec 64) : Bool := r.times.flags &&& flag ≠ 0

/-! ### Satellites -/

/-- `sv_cache_info` -/
def usedMasks : loc_sv_used_masks :=
  if r.hasExtended GPS_LOCATION_EXTENDED_HAS_GNSS_SV_USED_DATA then r.gnss_sv_used_ids
  else ⟨0, 0, 0, 0, 0, 0⟩

def dops : Option (CFloat × CFloat × CFloat) :=
  if r.hasExtended GPS_LOCATION_EXTENDED_HAS_DOP then some (r.pdop, r.hdop, r.vdop) else none

/-- What the calls of `loc_nmea_generate_GSA` have led to. -/
structure GsaState where
  buffer : SentenceBuffer
  sentences : List (List Char)
  svUsedCount : ℕ
  talker : List Char

/-- A call of `loc_nmea_generate_GSA`, which returns the number of satellites if it pushes something. -/
def generateGsa (s : GsaState) (svType : GnssSvType) : GsaState :=
  match loc_nmea_gsa_meta_init r.usedMasks svType with
  | some m =>
    let result := loc_nmea_generate_GSA r.dops NMEA_SENTENCE_MAX_LENGTH s.buffer m
    let count := if result.2 = [] then 0 else m.svUsedList.length
    { buffer := result.1
      sentences := s.sentences ++ result.2
      svUsedCount := s.svUsedCount + count
      talker := if count > 0 then m.talker else s.talker }
  | none => s

def generateGsas : GsaState := gsaTypes.foldl r.generateGsa ⟨.empty, [], 0, ['G', 'P']⟩

/-! ### Indicators -/

/-- The quality of GGA, and the mode indicators of RMC and VTG. -/
structure FixQuality where
  ggaGpsQuality : Char
  rmcModeIndicator : Char
  vtgModeIndicator : Char
  deriving DecidableEq, Repr

/-- `loc_nmea_get_fix_quality`, by the technologies. -/
def techQuality : FixQuality :=
  if r.hasExtended GPS_LOCATION_EXTENDED_HAS_POS_TECH_MASK then
    if LOC_POS_TECH_MASK_SATELLITE &&& r.tech_mask ≠ 0 then ⟨'1', 'A', 'A'⟩
    else if LOC_POS_TECH_MASK_SENSORS &&& r.tech_mask ≠ 0 then ⟨'6', 'E', 'E'⟩
    else ⟨'0', 'N', 'N'⟩
  else ⟨'0', 'N', 'N'⟩

/-- `loc_nmea_get_fix_quality` -/
def loc_nmea_get_fix_quality : FixQuality :=
  if !r.has LOC_GPS_LOCATION_HAS_LAT_LONG then ⟨'0', 'N', 'N'⟩
  else if r.hasExtended GPS_LOCATION_EXTENDED_HAS_NAV_SOLUTION_MASK then
    if LOC_NAV_MASK_PPP_CORRECTION &&& r.navSolutionMask ≠ 0 then ⟨'2', 'P', 'P'⟩
    else if LOC_NAV_MASK_RTK_FIXED_CORRECTION &&& r.navSolutionMask ≠ 0 then ⟨'4', 'R', 'D'⟩
    else if LOC_NAV_MASK_RTK_CORRECTION &&& r.navSolutionMask ≠ 0 then ⟨'5', 'F', 'D'⟩
    else if LOC_NAV_MASK_DGNSS_CORRECTION &&& r.navSolutionMask ≠ 0 then ⟨'2', 'D', 'D'⟩
    else if LOC_NAV_MASK_SBAS_CORRECTION_IONO &&& r.navSolutionMask ≠ 0 then ⟨'2', 'D', 'D'⟩
    else r.techQuality
  else r.techQuality

/-- The mode of a constellation in GNS. -/
def systemMode (mask : BitVec 64) : Char :=
  if mask = 0 then 'N' else if LOC_POS_TECH_MASK_SENSORS = r.tech_mask then 'E' else 'A'

/-- The mode of GPS in GNS. -/
def gpsMode : Char :=
  if r.usedMasks.gps_used_mask = 0 then 'N'
  else if LOC_NAV_MASK_SBAS_CORRECTION_IONO &&& r.navSolutionMask ≠ 0 then 'D'
  else if LOC_POS_TECH_MASK_SENSORS = r.tech_mask then 'E' else 'A'

/-- `modeIndicator`, whose last letters are left out as long as they are an N. -/
def modeIndicator : List Char :=
  let others := [r.usedMasks.glo_used_mask, r.usedMasks.gal_used_mask, r.usedMasks.bds_used_mask,
    r.usedMasks.qzss_used_mask, r.usedMasks.navic_used_mask].map r.systemMode
  r.gpsMode :: (others.reverse.dropWhile (· == 'N')).reverse

/-! ### The pieces -/

section

variable (systemInfo : LocationSystemInfo) (talker : List Char) (svUsedCount : ℕ)

/-- `%02d%02d%02d.%02d,` -/
def timeText : List Char :=
  let time := loc_nmea_generate_pos_time r.times systemInfo
  formatD 2 time.utcHours ++ formatD 2 time.utcMinutes ++ formatD 2 time.utcSeconds ++
    '.' :: (formatD 2 time.hundredths ++ [','])

/-- `%2.2d%2.2d%2.2d,`, whose signs do not count as digits. -/
def dateText : List Char :=
  let time := loc_nmea_generate_pos_time r.times systemInfo
  let year := if time.utcYear < 0 then formatD 3 time.utcYear else formatD 2 time.utcYear
  formatD 2 time.utcDay ++ formatD 2 time.utcMonth ++ year ++ [',']

def latLongText : List Char :=
  if r.has LOC_GPS_LOCATION_HAS_LAT_LONG then r.refLla.text else [',', ',', ',', ',']

/-- The track twice: `magTrack` is declared again where the deviation is taken into account, so that the
one which is printed is the bearing. -/
def vtgTrack : List Char :=
  if r.has LOC_GPS_LOCATION_HAS_BEARING then
    formatF1 r.bearing ++ ',' :: 'T' :: ',' :: (formatF1 r.bearing ++ [',', 'M', ','])
  else [',', 'T', ',', ',', 'M', ',']

def vtgSpeed : List Char :=
  if r.has LOC_GPS_LOCATION_HAS_SPEED then
    formatF1 r.speedKnots ++ ',' :: 'N' :: ',' :: (formatF1 r.speedKmPerHour ++ [',', 'K', ','])
  else [',', 'N', ',', ',', 'K', ',']

def rmcSpeed : List Char :=
  if r.has LOC_GPS_LOCATION_HAS_SPEED then formatF1 r.speedKnots ++ [','] else [',']

def rmcBearing : List Char :=
  if r.has LOC_GPS_LOCATION_HAS_BEARING then formatF1 r.bearing ++ [','] else [',']

def rmcVariation : List Char :=
  if r.hasExtended GPS_LOCATION_EXTENDED_HAS_MAG_DEV then
    if r.magneticDeviation.isNegative then formatF1 r.magneticDeviation.negate ++ [',', 'W', ',']
    else formatF1 r.magneticDeviation ++ [',', 'E', ',']
  else [',', ',']

/-- `%02d,%.1f,` or `%02d,,` -/
def satellites : List Char :=
  formatD 2 svUsedCount ++ ',' ::
    if r.hasExtended GPS_LOCATION_EXTENDED_HAS_DOP then formatF1 r.hdop ++ [','] else [',']

def hasSeparation : Bool :=
  r.has LOC_GPS_LOCATION_HAS_ALTITUDE && r.hasExtended GPS_LOCATION_EXTENDED_HAS_ALTITUDE_MEAN_SEA_LEVEL

def gnsAltitude : List Char :=
  if r.hasExtended GPS_LOCATION_EXTENDED_HAS_ALTITUDE_MEAN_SEA_LEVEL then
    formatF1 r.altitudeMeanSeaLevel ++ [',']
  else [',']

def gnsSeparation : List Char :=
  if r.hasSeparation then formatFixed 1 r.separation ++ [',', ','] else [',', ',']

def ggaAltitude : List Char :=
  if r.hasExtended GPS_LOCATION_EXTENDED_HAS_ALTITUDE_MEAN_SEA_LEVEL then
    formatF1 r.altitudeMeanSeaLevel ++ [',', 'M', ',']
  else [',', ',']

def ggaSeparation : List Char :=
  if r.hasSeparation then formatFixed 1 r.separation ++ [',', 'M', ',', ','] else [',', ',', ',']

def vtgPieces : List NmeaPiece :=
  [⟨true, '$' :: (talker ++ 'V' :: 'T' :: 'G' :: ',' :: r.vtgTrack)⟩, ⟨true, r.vtgSpeed⟩,
    ⟨false, [r.loc_nmea_get_fix_quality.vtgModeIndicator]⟩]

/-- `local_datum` and `ref_datum` -/
def datums (datum_type : BitVec 32) : List Char × List Char :=
  if datum_type = LOC_GNSS_DATUM_WGS84 then (['P', '9', '0'], ['W', '8', '4'])
  else if datum_type = LOC_GNSS_DATUM_PZ90 then (['W', '8', '4'], ['P', '9', '0'])
  else ([], [])

def dtmPieces (datum_type : BitVec 32) : List NmeaPiece :=
  [⟨true, '$' :: (talker ++ 'D' :: 'T' :: 'M' :: ',' :: ((datums datum_type).1 ++ [',', ',']))⟩,
    ⟨true, r.offset.text ++ formatFixed 3 r.offsetAltitude ++ [',']⟩, ⟨true, (datums datum_type).2⟩]

def rmcPieces : List NmeaPiece :=
  [⟨true, '$' :: (talker ++ 'R' :: 'M' :: 'C' :: ',' :: (r.timeText systemInfo ++ ['A', ',']))⟩,
    ⟨true, r.latLongText⟩, ⟨true, r.rmcSpeed⟩, ⟨true, r.rmcBearing⟩, ⟨true, r.dateText systemInfo⟩,
    ⟨true, r.rmcVariation⟩, ⟨false, [r.loc_nmea_get_fix_quality.rmcModeIndicator]⟩,
    ⟨false, [',', 'V']⟩]

def gnsPieces : List NmeaPiece :=
  [⟨true, '$' :: (talker ++ 'G' :: 'N' :: 'S' :: ',' :: r.timeText systemInfo)⟩,
    ⟨true, r.latLongText⟩, ⟨false, r.modeIndicator ++ [',']⟩, ⟨true, r.satellites svUsedCount⟩,
    ⟨true, r.gnsAltitude⟩, ⟨false, r.gnsSeparation⟩, ⟨false, [',', 'V']⟩]

def ggaPieces : List NmeaPiece :=
  [⟨true, '$' :: (talker ++ 'G' :: 'G' :: 'A' :: ',' :: r.timeText systemInfo)⟩,
    ⟨true, r.latLongText⟩,
    ⟨true, r.loc_nmea_get_fix_quality.ggaGpsQuality :: ',' ::
      r.satellites (min svUsedCount MAX_SATELLITES_IN_USE)⟩,
    ⟨true, r.ggaAltitude⟩, ⟨false, r.ggaSeparation⟩]

/-- `loc_nmea_generate_DTM`, which leaves an unfinished sentence in its buffer if it is given up. -/
def loc_nmea_generate_DTM (datum_type : BitVec 32) : SentenceBuffer :=
  match printSentence NMEA_SENTENCE_MAX_LENGTH .empty (r.dtmPieces talker datum_type) with
  | .ok b => b
  | .error b => b

/-! ### Generating -/

/-- `loc_nmea_generate_pos` for a final fix. -/
def generateFinal (datum_type : BitVec 32) : PosOutcome :=
  let gsa := r.generateGsas
  match printSentence NMEA_SENTENCE_MAX_LENGTH gsa.buffer (r.vtgPieces gsa.talker) with
  | .error b => ⟨b.calls, gsa.sentences⟩
  | .ok vtg =>
    let sentences := gsa.sentences ++ [vtg.text]
    let dtm := r.loc_nmea_generate_DTM gsa.talker datum_type
    let calls := vtg.calls ++ dtm.calls
    match printSentence NMEA_SENTENCE_MAX_LENGTH .empty (r.rmcPieces systemInfo gsa.talker) with
    | .error b => ⟨calls ++ b.calls, sentences⟩
    | .ok rmc =>
      let calls := calls ++ rmc.calls
      match printSentence NMEA_SENTENCE_MAX_LENGTH .empty
          (r.gnsPieces systemInfo gsa.talker gsa.svUsedCount) with
      | .error b => ⟨calls ++ b.calls, sentences⟩
      | .ok gns =>
        let calls := calls ++ gns.calls
        match printSentence NMEA_SENTENCE_MAX_LENGTH .empty
            (r.ggaPieces systemInfo gsa.talker gsa.svUsedCount) with
        | .error b => ⟨calls ++ b.calls, sentences⟩
        | .ok gga =>
          let again := if LOC_GNSS_DATUM_PZ90 = datum_type then [dtm.text] else []
          ⟨calls ++ gga.calls,
            sentences ++ [dtm.text, rmc.text] ++ again ++ [gns.text] ++ again ++ [gga.text]⟩

/-! ### Blank sentences -/

def blankGSA : List Char := "$GPGSA,A,1,,,,,,,,,,,,,,,,".toList
def blankVTG : List Char := "$GPVTG,,T,,M,,N,,K,N".toList
def blankDTM : List Char := "$GPDTM,,,,,,,,".toList
def blankRMC : List Char := "$GPRMC,,V,,,,,,,,,,N,V".toList
def blankGNS : List Char := "$GPGNS,,,,,,N,,,,,,,V".toList
def blankGGA : List Char := "$GPGGA,,,,,,0,,,,,,,,".toList

/-- The texts for a fix that is not final. -/
def blankTexts : List (List Char) := [blankGSA, blankVTG, blankDTM, blankRMC, blankGNS, blankGGA]

/-- The texts are copied into the buffer one after the other, with their checksums. -/
def generateBlank : PosOutcome :=
  blankTexts.foldl (fun out text =>
    let b := loc_nmea_put_checksum ⟨text, 0, 0, out.calls⟩ NMEA_SENTENCE_MAX_LENGTH
    ⟨b.calls, out.sentences ++ [b.text]⟩) ⟨[], []⟩

/-- `loc_nmea_generate_pos` -/
def loc_nmea_generate_pos (datum_type : BitVec 32) (generate_nmea : Bool) : PosOutcome :=
  if generate_nmea then r.generateFinal systemInfo datum_type else generateBlank

end

/-! ### What is to be generated -/

/-- Satellites of the constellation were used. -/
def uses (svType : GnssSvType) : Bool := r.usedMasks.mask svType ≠ 0

/-- GN if satellites of several constellations were used, and otherwise the talker of the constellation,
or GP if it has no GSA sentence. -/
def talker : List Char :=
  if r.usedMasks.combined then ['G', 'N'] else (gsaTypes.find? r.uses).elim ['G', 'P'] talkerOf

/-- The blank sentences of the kinds that are generated for a final fix: a GSA for each constellation that
was used, and then the others. -/
def finalPattern (datum_type : BitVec 32) : List (List Char) :=
  let again := if LOC_GNSS_DATUM_PZ90 = datum_type then [blankDTM] else []
  (gsaTypes.filter r.uses).map (fun _ => blankGSA) ++ [blankVTG, blankDTM, blankRMC] ++ again ++
    [blankGNS] ++ again ++ [blankGGA]

end PosReport

end GpsHal
