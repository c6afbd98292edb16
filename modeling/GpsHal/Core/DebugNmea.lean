import GpsHal.Core.ReportKinds
import GpsHal.Util.CNumber
import Mathlib.Data.List.TakeDrop

/-!
# `SystemStatus` : the parsers of debug sentences

The modem reports its state in NMEA sentences of its own, of nine types.  Each type has a parser, whose
constructor splits the sentence at its commas and reads the record from the fields
(`core/SystemStatus.cpp`).  A record lives in uninitialised memory until it is cleared, so that a
parser is given the record that it starts with; a read outside the fields is `none`.

A record has the members of the reports that are made from it.

## Main definitions

* `SystemStatusNmeaBase.mField` : the fields.
* `SystemStatusPQWM1parser` to `SystemStatusPQWS1parser` : the parsers.
* `DebugSentence` : the types, with the field count `eMax` that each demands.

## Main results

* `DebugSentence.parser_short`, `DebugSentence.exists_parser_eq` : what the parsers make of too few
  and of enough fields.
-/

namespace GpsHal

/-! ### Fields -/

def DEBUG_NMEA_MINSIZE : ℕ := 6
def DEBUG_NMEA_MAXSIZE : ℕ := 4096

/-- `loc_nmea_is_debug`, for a string with its length. -/
def loc_nmea_is_debug (nmea : List UInt8) : Bool :=
  DEBUG_NMEA_MINSIZE ≤ nmea.length && nmea.length ≤ DEBUG_NMEA_MAXSIZE &&
    nmea.take 4 == cstring "$PQW"

namespace SystemStatusNmeaBase

/-- The loop over the commas. -/
def tokenize (parser : List UInt8) : List (List UInt8) :=
  if h : byte ',' ∈ parser then
    parser.take (parser.idxOf (byte ',')) :: tokenize (parser.drop (parser.idxOf (byte ',') + 1))
  else []
termination_by parser.length
decreasing_by
  have := List.length_pos_of_mem h
  rw [List.length_drop]
  omega

/-- The constructor of `SystemStatusNmeaBase`. -/
def mField (str_in : List UInt8) : List (List UInt8) :=
  if !loc_nmea_is_debug str_in then []
  else if byte '*' ∈ str_in then tokenize (str_in.set (str_in.idxOf (byte '*')) (byte ','))
  else []

end SystemStatusNmeaBase

/-! ### Parsers -/

section Parsers

variable (libc : Libc CDouble CFloat) (mField : List (List UInt8))

/-- A member that is `atoi` of a field. -/
def atoiAt (w : ℕ) (i : ℕ) : Option (BitVec w) := (mField[i]?).map fun f => (atoi f).setWidth w

/-- A member that is `strtol` of a field, in hexadecimal. -/
def strtolAt (w : ℕ) (i : ℕ) : Option (BitVec w) :=
  (mField[i]?).map fun f => BitVec.ofInt w (strtol f 16)

/-- A `double` member that is `atof` of a field. -/
def atofAt (i : ℕ) : Option CDouble := (mField[i]?).map libc.atof

/-- A `float` member that is `atof` of a field. -/
def narrowAt (i : ℕ) : Option CFloat := (mField[i]?).map fun f => libc.narrow (libc.atof f)

section Reads

variable {mField} {i : ℕ}

theorem atoiAt_eq (w : ℕ) (h : i < mField.length) :
    atoiAt mField w i = some ((atoi mField[i]).setWidth w) := by
  unfold atoiAt
  rw [List.getElem?_eq_getElem h, Option.map_some]

theorem strtolAt_eq (w : ℕ) (h : i < mField.length) :
    strtolAt mField w i = some (BitVec.ofInt w (strtol mField[i] 16)) := by
  unfold strtolAt
  rw [List.getElem?_eq_getElem h, Option.map_some]

theorem atofAt_eq (h : i < mField.length) :
    atofAt libc mField i = some (libc.atof mField[i]) := by
  unfold atofAt
  rw [List.getElem?_eq_getElem h, Option.map_some]

theorem narrowAt_eq (h : i < mField.length) :
    narrowAt libc mField i = some (libc.narrow (libc.atof mField[i])) := by
  unfold narrowAt
  rw [List.getElem?_eq_getElem h, Option.map_some]

end Reads

/-- `SystemStatusPQWM1`, by the reports that its members go to. -/
structure SystemStatusPQWM1 where
  timeAndClock : SystemStatusTimeAndClock
  xoState : SystemStatusXoState
  rfAndParams : SystemStatusRfAndParams
  errRecovery : SystemStatusErrRecovery

/-- The number 0 in a floating-point format. -/
def Ieee.zero (e f : ℕ) : Ieee e f := ⟨0⟩

/-- `memset(&mM1, 0, sizeof(mM1))` -/
def SystemStatusPQWM1.cleared : SystemStatusPQWM1 where
  timeAndClock := ⟨0, 0, 0, 0, 0, 0, 0, 0, 0, 0⟩
  xoState := ⟨0⟩
  rfAndParams := ⟨0, 0, 0, 0, 0, 0, 0, 0, 0, .zero _ _, .zero _ _, .zero _ _, .zero _ _, 0, 0, 0, 0,
    0, 0⟩
  errRecovery := ⟨0⟩

/-- The members of `mM1` that are read from the fields, those of the end only if there are so many. -/
def SystemStatusPQWM1.read : Option SystemStatusPQWM1 := do
  let eLeapSecUnc := 24
  let eGalBpAmpQ := 30
  let eTimeUncNs := 31
  let mGpsWeek ← atoiAt mField 16 1
  let mGpsTowMs ← atoiAt mField 32 2
  let mTimeValid ← atoiAt mField 8 3
  let mTimeSource ← atoiAt mField 8 4
  let mTimeUnc ← atoiAt mField 32 5
  let mClockFreqBias ← atoiAt mField 32 6
  let mClockFreqBiasUnc ← atoiAt mField 32 7
  let mXoState ← atoiAt mField 8 8
  let mPgaGain ← atoiAt mField 32 9
  let mGpsBpAmpI ← atoiAt mField 32 10
  let mGpsBpAmpQ ← atoiAt mField 32 11
  let mAdcI ← atoiAt mField 32 12
  let mAdcQ ← atoiAt mField 32 13
  let mJammerGps ← atoiAt mField 32 14
  let mJammerGlo ← atoiAt mField 32 15
  let mJammerBds ← atoiAt mField 32 16
  let mJammerGal ← atoiAt mField 32 17
  let mRecErrorRecovery ← atoiAt mField 32 18
  let mAgcGps ← atofAt libc mField 19
  let mAgcGlo ← atofAt libc mField 20
  let mAgcBds ← atofAt libc mField 21
  let mAgcGal ← atofAt libc mField 22
  let leap (i : ℕ) := if mField.length > eLeapSecUnc then atoiAt mField 32 i else some 0
  let amp (i : ℕ) := if mField.length > eGalBpAmpQ then atoiAt mField 32 i else some 0
  let mLeapSeconds ← leap 23
  let mLeapSecUnc ← leap 24
  let mGloBpAmpI ← amp 25
  let mGloBpAmpQ ← amp 26
  let mBdsBpAmpI ← amp 27
  let mBdsBpAmpQ ← amp 28
  let mGalBpAmpI ← amp 29
  let mGalBpAmpQ ← amp 30
  let mTimeUncNs ←
    if mField.length > eTimeUncNs then (mField[eTimeUncNs]?).map (strtoull · 10) else some 0
  some
    { timeAndClock := ⟨mGpsWeek, mGpsTowMs, mTimeValid, mTimeSource, mTimeUnc, mClockFreqBias,
        mClockFreqBiasUnc, mLeapSeconds, mLeapSecUnc, mTimeUncNs⟩
      xoState := ⟨mXoState⟩
      rfAndParams := ⟨mPgaGain, mGpsBpAmpI, mGpsBpAmpQ, mAdcI, mAdcQ, mJammerGps, mJammerGlo,
        mJammerBds, mJammerGal, mAgcGps, mAgcGlo, mAgcBds, mAgcGal, mGloBpAmpI, mGloBpAmpQ,
        mBdsBpAmpI, mBdsBpAmpQ, mGalBpAmpI, mGalBpAmpQ⟩
      errRecovery := ⟨mRecErrorRecovery⟩ }

/-- The record is cleared before the fields are counted. -/
def SystemStatusPQWM1parser (_mM1 : SystemStatusPQWM1) : Option SystemStatusPQWM1 :=
  let eMax0 := 30
  if mField.length ≤ eMax0 then some .cleared else SystemStatusPQWM1.read libc mField

/-- The constructor of a parser that leaves the record as it is if there are less than `eMax` fields,
and otherwise clears and reads it. -/
def parseOrKeep {Record : Type} (eMax : ℕ) (read : Option Record) (record : Record) :
    Option Record :=
  if mField.length < eMax then some record else read

def SystemStatusPQWP1parser : SystemStatusInjectedPosition → Option SystemStatusInjectedPosition :=
  parseOrKeep mField 9 do
    let mEpiValidity ← strtolAt mField 8 2
    let mEpiLat ← narrowAt libc mField 3
    let mEpiLon ← narrowAt libc mField 4
    let mEpiAlt ← narrowAt libc mField 5
    let mEpiHepe ← atoiAt mField 32 6
    let mEpiAltUnc ← narrowAt libc mField 7
    let mEpiSrc ← atoiAt mField 8 8
    some ⟨mEpiValidity, mEpiLat, mEpiLon, mEpiAlt, libc.ofInt mEpiHepe, mEpiAltUnc, mEpiSrc⟩

/-- `mValid` is set when the report is made. -/
def SystemStatusPQWP2parser : SystemStatusBestPosition → Option SystemStatusBestPosition :=
  parseOrKeep mField 7 do
    let mBestLat ← narrowAt libc mField 2
    let mBestLon ← narrowAt libc mField 3
    let mBestAlt ← narrowAt libc mField 4
    let mBestHepe ← narrowAt libc mField 5
    let mBestAltUnc ← narrowAt libc mField 6
    some ⟨true, mBestLat, mBestLon, mBestAlt, mBestHepe, mBestAltUnc⟩

def SystemStatusPQWP3parser : SystemStatusXtra → Option SystemStatusXtra :=
  parseOrKeep mField 13 do
    let mXtraValidMask ← strtolAt mField 8 2
    let mGpsXtraAge ← atoiAt mField 32 3
    let mGloXtraAge ← atoiAt mField 32 4
    let mBdsXtraAge ← atoiAt mField 32 5
    let mGalXtraAge ← atoiAt mField 32 6
    let mQzssXtraAge ← atoiAt mField 32 7
    let mGpsXtraValid ← strtolAt mField 32 8
    let mGloXtraValid ← strtolAt mField 32 9
    let mBdsXtraValid ← strtolAt mField 64 10
    let mGalXtraValid ← strtolAt mField 64 11
    let mQzssXtraValid ← strtolAt mField 8 12
    let mNavicXtraAge := 0
    let mNavicXtraValid := 0
    some ⟨mXtraValidMask, mGpsXtraAge, mGloXtraAge, mBdsXtraAge, mGalXtraAge, mQzssXtraAge,
      mNavicXtraAge, mGpsXtraValid, mGloXtraValid, mBdsXtraValid, mGalXtraValid, mQzssXtraValid,
      mNavicXtraValid⟩

def SystemStatusPQWP4parser : SystemStatusEphemeris → Option SystemStatusEphemeris :=
  parseOrKeep mField 7 do
    let mGpsEpheValid ← strtolAt mField 32 2
    let mGloEpheValid ← strtolAt mField 32 3
    let mBdsEpheValid ← strtolAt mField 64 4
    let mGalEpheValid ← strtolAt mField 64 5
    let mQzssEpheValid ← strtolAt mField 8 6
    some ⟨mGpsEpheValid, mGloEpheValid, mBdsEpheValid, mGalEpheValid, mQzssEpheValid⟩

def SystemStatusPQWP5parser : SystemStatusSvHealth → Option SystemStatusSvHealth :=
  parseOrKeep mField 17 do
    let mGpsUnknownMask ← strtolAt mField 32 2
    let mGloUnknownMask ← strtolAt mField 32 3
    let mBdsUnknownMask ← strtolAt mField 64 4
    let mGalUnknownMask ← strtolAt mField 64 5
    let mQzssUnknownMask ← strtolAt mField 8 6
    let mGpsGoodMask ← strtolAt mField 32 7
    let mGloGoodMask ← strtolAt mField 32 8
    let mBdsGoodMask ← strtolAt mField 64 9
    let mGalGoodMask ← strtolAt mField 64 10
    let mQzssGoodMask ← strtolAt mField 8 11
    let mGpsBadMask ← strtolAt mField 32 12
    let mGloBadMask ← strtolAt mField 32 13
    let mBdsBadMask ← strtolAt mField 64 14
    let mGalBadMask ← strtolAt mField 64 15
    let mQzssBadMask ← strtolAt mField 8 16
    let mNavicUnknownMask := 0
    let mNavicGoodMask := 0
    let mNavicBadMask := 0
    some ⟨mGpsUnknownMask, mGloUnknownMask, mBdsUnknownMask, mGalUnknownMask, mQzssUnknownMask,
      mNavicUnknownMask, mGpsGoodMask, mGloGoodMask, mBdsGoodMask, mGalGoodMask, mQzssGoodMask,
      mNavicGoodMask, mGpsBadMask, mGloBadMask, mBdsBadMask, mGalBadMask, mQzssBadMask,
      mNavicBadMask⟩

def SystemStatusPQWP6parser : SystemStatusPdr → Option SystemStatusPdr :=
  parseOrKeep mField 3 do
    let mFixInfoMask ← strtolAt mField 32 2
    some ⟨mFixInfoMask⟩

def SV_ALL_NUM_MIN : ℕ := 134
def SV_ALL_NUM : ℕ := 148

/-- The entry of one SV. -/
def navAt (i : ℕ) : Option SystemStatusNav := do
  let mType ← atoiAt mField 32 (i * 3 + 2)
  let mSource ← atoiAt mField 32 (i * 3 + 3)
  let mAgeSec ← atoiAt mField 32 (i * 3 + 4)
  some ⟨mType, mSource, mAgeSec⟩

/-- The entries of the SVs, those from `svLimit` on being left cleared. -/
def readNavs (svLimit : ℕ) : Option SystemStatusNavData :=
  if ∀ i < svLimit, (navAt mField i).isSome then
    some ⟨(List.range 148).map fun i =>
      if i < svLimit then (navAt mField i).getD ⟨0, 0, 0⟩ else ⟨0, 0, 0⟩,
      by rw [List.length_map, List.length_range]⟩
  else none

/-- There may be no fields for the last SVs. -/
def SystemStatusPQWP7parser : SystemStatusNavData → Option SystemStatusNavData :=
  parseOrKeep mField (2 + SV_ALL_NUM_MIN * 3)
    (readNavs mField (if mField.length < 2 + SV_ALL_NUM * 3 then SV_ALL_NUM_MIN else SV_ALL_NUM))

def SystemStatusPQWS1parser : SystemStatusPositionFailure → Option SystemStatusPositionFailure :=
  parseOrKeep mField 4 do
    let mFixInfoMask ← atoiAt mField 32 2
    let mHepeLimit ← atoiAt mField 32 3
    some ⟨mFixInfoMask, mHepeLimit⟩

end Parsers

/-! ### Types -/

/-- The types of debug sentences. -/
inductive DebugSentence
  | PQWM1
  | PQWP1
  | PQWP2
  | PQWP3
  | PQWP4
  | PQWP5
  | PQWP6
  | PQWP7
  | PQWS1
  deriving DecidableEq, Repr

namespace DebugSentence

/-- The first bytes of the sentence. -/
def talker : DebugSentence → List UInt8
  | PQWM1 => cstring "$PQWM1"
  | PQWP1 => cstring "$PQWP1"
  | PQWP2 => cstring "$PQWP2"
  | PQWP3 => cstring "$PQWP3"
  | PQWP4 => cstring "$PQWP4"
  | PQWP5 => cstring "$PQWP5"
  | PQWP6 => cstring "$PQWP6"
  | PQWP7 => cstring "$PQWP7"
  | PQWS1 => cstring "$PQWS1"

abbrev Record : DebugSentence → Type
  | PQWM1 => SystemStatusPQWM1
  | PQWP1 => SystemStatusInjectedPosition
  | PQWP2 => SystemStatusBestPosition
  | PQWP3 => SystemStatusXtra
  | PQWP4 => SystemStatusEphemeris
  | PQWP5 => SystemStatusSvHealth
  | PQWP6 => SystemStatusPdr
  | PQWP7 => SystemStatusNavData
  | PQWS1 => SystemStatusPositionFailure

/-- The number of fields that the parser demands. -/
def eMax : DebugSentence → ℕ
  | PQWM1 => 31
  | PQWP1 => 9
  | PQWP2 => 7
  | PQWP3 => 13
  | PQWP4 => 7
  | PQWP5 => 17
  | PQWP6 => 3
  | PQWP7 => 404
  | PQWS1 => 4

/-- The constructor of the parser, in memory that holds `record`, followed by `get`. -/
def parser (libc : Libc CDouble CFloat) (mField : List (List UInt8)) :
    (s : DebugSentence) → (record : s.Record) → Option s.Record
  | PQWM1 => SystemStatusPQWM1parser libc mField
  | PQWP1 => SystemStatusPQWP1parser libc mField
  | PQWP2 => SystemStatusPQWP2parser libc mField
  | PQWP3 => SystemStatusPQWP3parser mField
  | PQWP4 => SystemStatusPQWP4parser mField
  | PQWP5 => SystemStatusPQWP5parser mField
  | PQWP6 => SystemStatusPQWP6parser mField
  | PQWP7 => SystemStatusPQWP7parser mField
  | PQWS1 => SystemStatusPQWS1parser mField

/-- What is left of the record if there are too few fields. -/
def kept : (s : DebugSentence) → s.Record → s.Record
  | PQWM1, _ => SystemStatusPQWM1.cleared
  | PQWP1, record => record
  | PQWP2, record => record
  | PQWP3, record => record
  | PQWP4, record => record
  | PQWP5, record => record
  | PQWP6, record => record
  | PQWP7, record => record
  | PQWS1, record => record

variable {libc : Libc CDouble CFloat} {mField : List (List UInt8)}

theorem parser_short {s : DebugSentence} (h : mField.length < s.eMax) (record : s.Record) :
    s.parser libc mField record = some (s.kept record) := by
  cases s with
  | PQWM1 => exact if_pos (Nat.le_of_lt_succ h)
  | _ => exact if_pos h

theorem exists_parseOrKeep_eq {Record : Type} {eMax : ℕ} {read : Option Record}
    (h : eMax ≤ mField.length) (hread : read.isSome) :
    ∃ r, ∀ record, parseOrKeep mField eMax read record = some r := by
  obtain ⟨r, hr⟩ := Option.isSome_iff_exists.1 hread
  exact ⟨r, fun _ => (if_neg (not_lt.2 h)).trans hr⟩

theorem isSome_navAt {i : ℕ} (h : i * 3 + 4 < mField.length) : (navAt mField i).isSome := by
  unfold navAt
  simp (disch := omega) only [atoiAt_eq, Option.bind_eq_bind, Option.bind_some, Option.isSome_some]

theorem isSome_readNavs {svLimit : ℕ} (h : 2 + svLimit * 3 ≤ mField.length) :
    (readNavs mField svLimit).isSome := by
  unfold readNavs
  rw [if_pos fun i hi => isSome_navAt (by omega)]
  rfl

theorem isSome_read (libc : Libc CDouble CFloat) (h : 31 ≤ mField.length) :
    (SystemStatusPQWM1.read libc mField).isSome := by
  have hleap : mField.length > 24 := by omega
  have hamp : mField.length > 30 := by omega
  unfold SystemStatusPQWM1.read
  simp (disch := omega) only [atoiAt_eq, atofAt_eq, if_pos hleap, if_pos hamp, Option.bind_eq_bind,
    Option.bind_some]
  split_ifs with htime
  · rw [List.getElem?_eq_getElem htime]
    rfl
  · rfl

/-- With enough fields the record is read, whatever it was. -/
theorem exists_parser_eq (libc : Libc CDouble CFloat) {s : DebugSentence}
    (h : s.eMax ≤ mField.length) :
    ∃ r, ∀ record, s.parser libc mField record = some r := by
  cases s with
  | PQWM1 =>
    obtain ⟨r, hr⟩ := Option.isSome_iff_exists.1 (isSome_read libc h)
    exact ⟨r, fun _ => (if_neg (not_le.2 (Nat.lt_of_succ_le h))).trans hr⟩
  | PQWP7 =>
    refine exists_parseOrKeep_eq h (isSome_readNavs ?_)
    change 404 ≤ mField.length at h
    unfold SV_ALL_NUM_MIN SV_ALL_NUM
    split_ifs <;> omega
  | _ =>
    refine exists_parseOrKeep_eq h ?_
    simp only [eMax] at h
    simp (disch := omega) only [atoiAt_eq, strtolAt_eq, narrowAt_eq, Option.bind_eq_bind,
      Option.bind_some, Option.isSome_some]

end DebugSentence

end GpsHal
