import Mathlib.Data.Int.Order.Lemmas
import GpsHal.Util.Calendar

/-!
# NMEA sentences : the leap second

`loc_nmea_generate_pos` prints the time of a position, the date with two digits of the year and the
time with hundredths of a second.  It is the UTC timestamp of the report, except in a leap second that
has been announced : the second is then printed as 23:59:60, with the date of the day that it ends
(`utils/loc_nmea.cpp`).  A `time_t` has 64 bits.

## Main definitions

* `get_utctime_with_leapsecond_transition` : the timestamp, and whether it is in a leap second.
* `loc_nmea_generate_pos_time` : the time that is printed.
* `UtcLabel` : a UTC day and the milliseconds in it, of which the last day before a leap second has
  86401000.
* `PositiveChange` : a leap second at the end of a UTC day has been announced.

## Main results

* `UtcLabel.fields_shown_lt` : later labels show later times.
* `PositiveChange.timeShown` : what is printed around a leap second.
-/

namespace GpsHal

def GPS_LOCATION_EXTENDED_HAS_GPS_TIME : BitVec 64 := 0x20000

def LOCATION_SYS_INFO_LEAP_SECOND : BitVec 32 := 1 <<< 0
def LEAP_SECOND_SYS_INFO_LEAP_SECOND_CHANGE_BIT : BitVec 32 := 1 <<< 1

def MSEC_IN_ONE_WEEK : BitVec 64 := 604800000
def UTC_GPS_OFFSET_MSECS : BitVec 64 := 315964800000

/-- A week and the milliseconds in it, as in `GPSTimeStruct` and `GnssSystemTimeStructType`. -/
structure WeekTime where
  week : BitVec 16
  msec : BitVec 32
  deriving DecidableEq, Repr

/-- The times of a position report, the timestamp being an `int64_t`. -/
structure PosTimes where
  timestamp : BitVec 64
  flags : BitVec 64
  gpsTime : WeekTime
  deriving DecidableEq, Repr

/-- `LocationSystemInfo`, with its `LeapSecondSystemInfo` and `LeapSecondChangeInfo`. -/
structure LocationSystemInfo where
  systemInfoMask : BitVec 32
  leapSecondInfoMask : BitVec 32
  gpsTimestampLsChange : WeekTime
  leapSecondsBeforeChange : BitVec 8
  leapSecondsAfterChange : BitVec 8
  deriving DecidableEq, Repr

/-- The `uint64_t` that a week and its milliseconds are combined to. -/
def WeekTime.combine (t : WeekTime) : BitVec 64 :=
  t.week.setWidth 64 * MSEC_IN_ONE_WEEK + t.msec.setWidth 64

/-- The timestamp in a leap second, one second before the change. -/
def LocationSystemInfo.frozenTimestamp (systemInfo : LocationSystemInfo) : BitVec 64 :=
  systemInfo.gpsTimestampLsChange.combine + UTC_GPS_OFFSET_MSECS -
    systemInfo.leapSecondsBeforeChange.setWidth 64 * 1000 - 1000

/-- `get_utctime_with_leapsecond_transition` -/
def get_utctime_with_leapsecond_transition (report : PosTimes) (systemInfo : LocationSystemInfo) :
    Bool × BitVec 64 :=
  if report.flags &&& GPS_LOCATION_EXTENDED_HAS_GPS_TIME ≠ 0 ∧
      systemInfo.systemInfoMask &&& LOCATION_SYS_INFO_LEAP_SECOND ≠ 0 ∧
      systemInfo.leapSecondInfoMask &&& LEAP_SECOND_SYS_INFO_LEAP_SECOND_CHANGE_BIT ≠ 0 then
    let gpsTimeLsChange := systemInfo.gpsTimestampLsChange.combine
    let gpsTimePosReport := report.gpsTime.combine
    if systemInfo.leapSecondsAfterChange > systemInfo.leapSecondsBeforeChange then
      if gpsTimePosReport ≥ gpsTimeLsChange ∧ gpsTimePosReport < gpsTimeLsChange + 1000 then
        (true, systemInfo.frozenTimestamp)
      else (false, report.timestamp)
    else (false, report.timestamp)
  else (false, report.timestamp)

/-- `struct tm` -/
structure tm where
  tm_year : ℤ
  tm_mon : ℤ
  tm_mday : ℤ
  tm_hour : ℤ
  tm_min : ℤ
  tm_sec : ℤ
  deriving DecidableEq, Repr

/-- `gmtime` of the C library. -/
def gmtime (time : ℤ) : tm :=
  let date := civilDate (time / 86400)
  { tm_year := date.year - 1900
    tm_mon := date.month
    tm_mday := date.day + 1
    tm_hour := time % 86400 / 3600
    tm_min := time % 3600 / 60
    tm_sec := time % 60 }

/-- The numbers of `%2.2d%2.2d%2.2d` and `%02d%02d%02d.%02d`. -/
structure ShownTime where
  utcYear : ℤ
  utcMonth : ℤ
  utcDay : ℤ
  utcHours : ℤ
  utcMinutes : ℤ
  utcSeconds : ℤ
  /-- `utcMSeconds/10` -/
  hundredths : ℤ
  deriving DecidableEq, Repr

/-- The time as a list of numbers, the year first. -/
def ShownTime.fields (shown : ShownTime) : List ℤ :=
  [shown.utcYear, shown.utcMonth, shown.utcDay, shown.utcHours, shown.utcMinutes, shown.utcSeconds,
    shown.hundredths]

/-- The time in the sentences of `loc_nmea_generate_pos`; divisions are those of C. -/
def loc_nmea_generate_pos_time (report : PosTimes) (systemInfo : LocationSystemInfo) : ShownTime :=
  let transition := get_utctime_with_leapsecond_transition report systemInfo
  let inLsTransition := transition.1
  let pTm := gmtime (transition.2.toInt.tdiv 1000)
  let utcMSeconds :=
    if inLsTransition then (report.gpsTime.msec.toNat % 1000 : ℤ)
    else report.timestamp.toInt.tmod 1000
  { utcYear := pTm.tm_year.tmod 100
    utcMonth := pTm.tm_mon + 1
    utcDay := pTm.tm_mday
    utcHours := if inLsTransition then 23 else pTm.tm_hour
    utcMinutes := if inLsTransition then 59 else pTm.tm_min
    utcSeconds := if inLsTransition then 60 else pTm.tm_sec
    hundredths := utcMSeconds.tdiv 10 }

/-! ### Labels -/

/-- A UTC day, counted from January 1st 1970, and the milliseconds in it.  Those from 86400000 on are
in the leap second at the end of the day. -/
structure UtcLabel where
  day : ℤ
  ms : ℤ

namespace UtcLabel

variable {a b : UtcLabel}

/-- The label of a UTC timestamp in milliseconds. -/
def ofTimestamp (timestamp : ℤ) : UtcLabel := ⟨timestamp / 86400000, timestamp % 86400000⟩

theorem ms_ofTimestamp (timestamp : ℤ) :
    0 ≤ (ofTimestamp timestamp).ms ∧ (ofTimestamp timestamp).ms < 86401000 := by
  simp only [ofTimestamp]
  omega

/-- The date and the time of a label. -/
def shown (a : UtcLabel) : ShownTime where
  utcYear := (civilDate a.day).year % 100
  utcMonth := (civilDate a.day).month + 1
  utcDay := (civilDate a.day).day + 1
  utcHours := if a.ms < 86400000 then a.ms / 3600000 else 23
  utcMinutes := if a.ms < 86400000 then a.ms % 3600000 / 60000 else 59
  utcSeconds := if a.ms < 86400000 then a.ms % 60000 / 1000 else 60
  hundredths := a.ms % 1000 / 10

/-- The label comes before the other one, by hundredths of a second. -/
def Before (a b : UtcLabel) : Prop := a.day < b.day ∨ a.day = b.day ∧ a.ms / 10 < b.ms / 10

/-- The dates of the labels are in one century. -/
def SameCentury (a b : UtcLabel) : Prop :=
  (civilDate a.day).year / 100 = (civilDate b.day).year / 100

theorem fields_shown_lt_of_day (hday : a.day < b.day) (hcentury : a.SameCentury b) :
    a.shown.fields < b.shown.fields := by
  have hdate := fields_civilDate_lt hday
  unfold SameCentury at hcentury
  simp only [CivilDate.fields, ShownTime.fields, shown, List.cons_lt_cons_iff, List.not_lt_nil,
    and_false, or_false] at hdate ⊢
  omega

theorem fields_shown_lt_of_ms (hday : a.day = b.day) (ha : 0 ≤ a.ms) (hb : b.ms < 86401000)
    (hms : a.ms / 10 < b.ms / 10) : a.shown.fields < b.shown.fields := by
  simp only [ShownTime.fields, shown, hday, List.cons_lt_cons_iff, lt_irrefl, false_or, true_and]
  split_ifs <;> omega

/-- Later labels show later times. -/
theorem fields_shown_lt (h : a.Before b) (hcentury : a.SameCentury b) (ha : 0 ≤ a.ms)
    (hb : b.ms < 86401000) : a.shown.fields < b.shown.fields := by
  rcases h with hday | ⟨hday, hms⟩
  · exact fields_shown_lt_of_day hday hcentury
  · exact fields_shown_lt_of_ms hday ha hb hms

theorem before_ofTimestamp {t t' : ℤ} (h : t / 10 < t' / 10) :
    (ofTimestamp t).Before (ofTimestamp t') := by
  simp only [Before, ofTimestamp]
  omega

/-- The timestamps of a day come before the leap second at its end. -/
theorem before_leapSecond {t day x : ℤ} (h : t < 86400000 * day) (hx : 0 ≤ x) :
    (ofTimestamp t).Before ⟨day - 1, 86400000 + x⟩ := by
  simp only [Before, ofTimestamp]
  omega

theorem leapSecond_before {t day x : ℤ} (h : 86400000 * day ≤ t) :
    Before ⟨day - 1, x⟩ (ofTimestamp t) := by
  simp only [Before, ofTimestamp]
  omega

theorem ofTimestamp_same {t t' : ℤ} (h : t / 10 = t' / 10) :
    (ofTimestamp t).day = (ofTimestamp t').day ∧ (ofTimestamp t).ms / 10 = (ofTimestamp t').ms / 10 := by
  simp only [ofTimestamp]
  omega

/-- Labels in the same hundredth of a second show the same time. -/
theorem shown_eq_of_ms (hday : a.day = b.day) (hms : a.ms / 10 = b.ms / 10) :
    a.shown = b.shown := by
  simp only [shown, hday, ShownTime.mk.injEq, true_and]
  refine ⟨?_, ?_, ?_, by omega⟩ <;> split_ifs <;> omega

end UtcLabel

/-! ### What is printed -/

/-- The milliseconds of a GPS time. -/
def WeekTime.ms (t : WeekTime) : ℕ := t.week.toNat * 604800000 + t.msec.toNat

theorem WeekTime.toNat_combine (t : WeekTime) : t.combine.toNat = t.ms := by
  have hweek := t.week.isLt
  have hmsec := t.msec.isLt
  have hconst : MSEC_IN_ONE_WEEK.toNat = 604800000 := rfl
  unfold combine ms
  rw [BitVec.toNat_add, BitVec.toNat_mul, BitVec.toNat_setWidth, BitVec.toNat_setWidth, hconst]
  omega

theorem WeekTime.ms_lt (t : WeekTime) : t.ms < 40000000000000 := by
  have hweek := t.week.isLt
  have hmsec := t.msec.isLt
  unfold ms
  omega

namespace LocationSystemInfo

variable (systemInfo : LocationSystemInfo)

/-- The UTC timestamp of the change, by the leap seconds before it. -/
def changeTimestamp : ℤ :=
  systemInfo.gpsTimestampLsChange.ms + 315964800000 - 1000 * systemInfo.leapSecondsBeforeChange.toNat

/-- The day that begins after the leap second. -/
def nextDay : ℤ := systemInfo.changeTimestamp / 86400000

theorem changeTimestamp_nonneg : 1000 ≤ systemInfo.changeTimestamp := by
  have hbefore := systemInfo.leapSecondsBeforeChange.isLt
  unfold changeTimestamp
  omega

theorem toInt_frozenTimestamp :
    systemInfo.frozenTimestamp.toInt = systemInfo.changeTimestamp - 1000 := by
  have hms := systemInfo.gpsTimestampLsChange.ms_lt
  have hbefore := systemInfo.leapSecondsBeforeChange.isLt
  have hnat : systemInfo.frozenTimestamp.toNat = systemInfo.gpsTimestampLsChange.ms + 315964800000 -
      1000 * systemInfo.leapSecondsBeforeChange.toNat - 1000 := by
    have hconst : UTC_GPS_OFFSET_MSECS.toNat = 315964800000 := rfl
    have hthousand : (1000 : BitVec 64).toNat = 1000 := rfl
    unfold frozenTimestamp
    rw [BitVec.toNat_sub, BitVec.toNat_sub, BitVec.toNat_add, BitVec.toNat_mul,
      BitVec.toNat_setWidth, WeekTime.toNat_combine, hconst, hthousand]
    omega
  rw [BitVec.toInt_eq_toNat_of_lt (by omega), hnat]
  unfold changeTimestamp
  omega

end LocationSystemInfo

/-- A leap second has been announced, at the end of a UTC day. -/
structure PositiveChange (systemInfo : LocationSystemInfo) : Prop where
  announced : systemInfo.systemInfoMask &&& LOCATION_SYS_INFO_LEAP_SECOND ≠ 0 ∧
    systemInfo.leapSecondInfoMask &&& LEAP_SECOND_SYS_INFO_LEAP_SECOND_CHANGE_BIT ≠ 0
  positive :
    systemInfo.leapSecondsAfterChange.toNat = systemInfo.leapSecondsBeforeChange.toNat + 1
  dayEnd : systemInfo.changeTimestamp = 86400000 * systemInfo.nextDay

namespace PosTimes

variable (report : PosTimes) (systemInfo : LocationSystemInfo)

def HasGpsTime : Prop := report.flags &&& GPS_LOCATION_EXTENDED_HAS_GPS_TIME ≠ 0

/-- The GPS time is less than a second after the change. -/
def InLeapSecond : Prop :=
  systemInfo.gpsTimestampLsChange.ms ≤ report.gpsTime.ms ∧
    report.gpsTime.ms < systemInfo.gpsTimestampLsChange.ms + 1000

instance : Decidable (report.InLeapSecond systemInfo) := inferInstanceAs (Decidable (_ ∧ _))

/-- The timestamp is the GPS time less the leap seconds in force, whichever they are in the leap
second. -/
structure Follows : Prop where
  before : report.gpsTime.ms < systemInfo.gpsTimestampLsChange.ms → report.timestamp.toInt =
    report.gpsTime.ms + 315964800000 - 1000 * systemInfo.leapSecondsBeforeChange.toNat
  after : systemInfo.gpsTimestampLsChange.ms + 1000 ≤ report.gpsTime.ms → report.timestamp.toInt =
    report.gpsTime.ms + 315964800000 - 1000 * systemInfo.leapSecondsAfterChange.toNat

/-- The UTC time of the report. -/
def label : UtcLabel :=
  if report.InLeapSecond systemInfo then
    ⟨systemInfo.nextDay - 1,
      86400000 + (report.gpsTime.ms - systemInfo.gpsTimestampLsChange.ms)⟩
  else .ofTimestamp report.timestamp.toInt

end PosTimes

namespace PositiveChange

variable {systemInfo : LocationSystemInfo} {report report' : PosTimes}

theorem get_utctime_eq (h : PositiveChange systemInfo) (hgps : report.HasGpsTime) :
    get_utctime_with_leapsecond_transition report systemInfo =
      if report.InLeapSecond systemInfo then (true, systemInfo.frozenTimestamp)
      else (false, report.timestamp) := by
  have hms := systemInfo.gpsTimestampLsChange.ms_lt
  have hpositive : systemInfo.leapSecondsAfterChange > systemInfo.leapSecondsBeforeChange := by
    have := h.positive
    exact BitVec.lt_def.2 (by omega)
  have hwindow : (report.gpsTime.combine ≥ systemInfo.gpsTimestampLsChange.combine ∧
      report.gpsTime.combine < systemInfo.gpsTimestampLsChange.combine + 1000) ↔
      report.InLeapSecond systemInfo := by
    have hthousand : (1000 : BitVec 64).toNat = 1000 := rfl
    unfold PosTimes.InLeapSecond
    rw [ge_iff_le, BitVec.le_def, BitVec.lt_def, BitVec.toNat_add, WeekTime.toNat_combine,
      WeekTime.toNat_combine, hthousand]
    omega
  unfold get_utctime_with_leapsecond_transition
  rw [if_pos ⟨hgps, h.announced⟩]
  simp only [if_pos hpositive, hwindow]

theorem ms_mod_ten (h : PositiveChange systemInfo) :
    (systemInfo.gpsTimestampLsChange.ms : ℤ) % 10 = 0 := by
  have hday := h.dayEnd
  unfold LocationSystemInfo.changeTimestamp at hday
  omega

/-- Outside the leap second the timestamp is printed. -/
theorem time_outside (h : PositiveChange systemInfo) (hgps : report.HasGpsTime)
    (hout : ¬ report.InLeapSecond systemInfo) (hts : 0 ≤ report.timestamp.toInt) :
    loc_nmea_generate_pos_time report systemInfo =
      (UtcLabel.ofTimestamp report.timestamp.toInt).shown := by
  have hday : report.timestamp.toInt / 1000 / 86400 = report.timestamp.toInt / 86400000 := by omega
  have hyear := @le_year_civilDate (report.timestamp.toInt / 86400000) (by omega)
  have hms : report.timestamp.toInt % 86400000 < 86400000 := by omega
  unfold loc_nmea_generate_pos_time gmtime UtcLabel.shown UtcLabel.ofTimestamp
  rw [h.get_utctime_eq hgps, if_neg hout]
  dsimp only
  rw [Int.tdiv_eq_ediv_of_nonneg hts, Int.tmod_eq_emod_of_nonneg hts, hday,
    Int.tmod_eq_emod_of_nonneg (by omega)]
  simp only [Bool.false_eq_true, if_false, if_pos hms, ShownTime.mk.injEq, true_and]
  rw [Int.tdiv_eq_ediv_of_nonneg (by omega)]
  omega

/-- In the leap second the second 60 of the day that ends is printed. -/
theorem time_within (h : PositiveChange systemInfo) (hgps : report.HasGpsTime)
    (hin : report.InLeapSecond systemInfo) :
    loc_nmea_generate_pos_time report systemInfo =
      { utcYear := (civilDate (systemInfo.nextDay - 1)).year % 100
        utcMonth := (civilDate (systemInfo.nextDay - 1)).month + 1
        utcDay := (civilDate (systemInfo.nextDay - 1)).day + 1
        utcHours := 23
        utcMinutes := 59
        utcSeconds := 60
        hundredths := report.gpsTime.msec.toNat % 1000 / 10 } := by
  have hnonneg := systemInfo.changeTimestamp_nonneg
  have hday : (systemInfo.changeTimestamp - 1000) / 1000 / 86400 = systemInfo.nextDay - 1 := by
    have := h.dayEnd
    omega
  have hyear := @le_year_civilDate (systemInfo.nextDay - 1) (by omega)
  unfold loc_nmea_generate_pos_time gmtime
  rw [h.get_utctime_eq hgps, if_pos hin]
  dsimp only
  rw [systemInfo.toInt_frozenTimestamp, Int.tdiv_eq_ediv_of_nonneg (by omega), hday,
    Int.tmod_eq_emod_of_nonneg (by omega)]
  simp only [if_true, ShownTime.mk.injEq, true_and]
  rw [Int.tdiv_eq_ediv_of_nonneg (by omega)]
  omega

theorem time_eq_shown (h : PositiveChange systemInfo) (hgps : report.HasGpsTime)
    (hts : report.InLeapSecond systemInfo ∨ 0 ≤ report.timestamp.toInt) :
    loc_nmea_generate_pos_time report systemInfo = (report.label systemInfo).shown := by
  unfold PosTimes.label
  split_ifs with hin
  · have hthousand : (systemInfo.gpsTimestampLsChange.ms : ℤ) % 1000 = 0 := by
      have := h.dayEnd
      unfold LocationSystemInfo.changeTimestamp at this
      omega
    have hms : ¬ (86400000 + ((report.gpsTime.ms : ℤ) - systemInfo.gpsTimestampLsChange.ms) <
        86400000) := by
      have := hin.1
      omega
    rw [h.time_within hgps hin]
    simp only [UtcLabel.shown, if_neg hms, ShownTime.mk.injEq, true_and]
    have : (report.gpsTime.ms : ℤ) % 1000 = report.gpsTime.msec.toNat % 1000 := by
      unfold WeekTime.ms
      omega
    omega
  · exact h.time_outside hgps hin (hts.resolve_left hin)

/-- The timestamp of a report before the change, or after the leap second, is not negative. -/
theorem timestamp_nonneg (hfollows : report.Follows systemInfo) :
    report.InLeapSecond systemInfo ∨ 0 ≤ report.timestamp.toInt := by
  have hafter := systemInfo.leapSecondsAfterChange.isLt
  have hbefore := systemInfo.leapSecondsBeforeChange.isLt
  rcases lt_or_ge report.gpsTime.ms systemInfo.gpsTimestampLsChange.ms with hlt | hge
  · right
    rw [hfollows.before hlt]
    omega
  · rcases lt_or_ge report.gpsTime.ms (systemInfo.gpsTimestampLsChange.ms + 1000) with hlt | hge'
    · exact .inl ⟨hge, hlt⟩
    · right
      rw [hfollows.after hge']
      omega

/-- The three parts of the line of GPS times, and the labels there. -/
theorem label_cases (h : PositiveChange systemInfo) (hfollows : report.Follows systemInfo) :
    (report.gpsTime.ms < systemInfo.gpsTimestampLsChange.ms ∧ report.label systemInfo =
      .ofTimestamp (systemInfo.changeTimestamp +
        (report.gpsTime.ms - systemInfo.gpsTimestampLsChange.ms))) ∨
    (report.InLeapSecond systemInfo ∧ report.label systemInfo = ⟨systemInfo.nextDay - 1,
      86400000 + (report.gpsTime.ms - systemInfo.gpsTimestampLsChange.ms)⟩) ∨
    (systemInfo.gpsTimestampLsChange.ms + 1000 ≤ report.gpsTime.ms ∧ report.label systemInfo =
      .ofTimestamp (systemInfo.changeTimestamp - 1000 +
        (report.gpsTime.ms - systemInfo.gpsTimestampLsChange.ms))) := by
  have hpositive := h.positive
  unfold PosTimes.label LocationSystemInfo.changeTimestamp
  split_ifs with hin
  · exact .inr (.inl ⟨hin, rfl⟩)
  · unfold PosTimes.InLeapSecond at hin
    rcases lt_or_ge report.gpsTime.ms systemInfo.gpsTimestampLsChange.ms with hlt | hge
    · refine .inl ⟨hlt, congrArg _ ?_⟩
      rw [hfollows.before hlt]
      omega
    · have hge' : systemInfo.gpsTimestampLsChange.ms + 1000 ≤ report.gpsTime.ms := by omega
      refine .inr (.inr ⟨hge', congrArg _ ?_⟩)
      rw [hfollows.after hge']
      omega

theorem label_ms_bounds (h : PositiveChange systemInfo) (hfollows : report.Follows systemInfo) :
    0 ≤ (report.label systemInfo).ms ∧ (report.label systemInfo).ms < 86401000 := by
  rcases h.label_cases hfollows with ⟨-, hlabel⟩ | ⟨hin, hlabel⟩ | ⟨-, hlabel⟩
  · rw [hlabel]
    exact UtcLabel.ms_ofTimestamp _
  · have := hin.1
    have := hin.2
    rw [hlabel]
    dsimp only
    omega
  · rw [hlabel]
    exact UtcLabel.ms_ofTimestamp _

/-- Later GPS times have later labels. -/
theorem label_before (h : PositiveChange systemInfo) (hfollows : report.Follows systemInfo)
    (hfollows' : report'.Follows systemInfo)
    (hlater : report.gpsTime.ms / 10 < report'.gpsTime.ms / 10) :
    (report.label systemInfo).Before (report'.label systemInfo) := by
  have hday := h.dayEnd
  have hsecond : (systemInfo.gpsTimestampLsChange.ms : ℤ) % 10 = 0 := h.ms_mod_ten
  rcases h.label_cases hfollows with ⟨hg, hlabel⟩ | ⟨hg, hlabel⟩ | ⟨hg, hlabel⟩
  · rw [hlabel]
    rcases h.label_cases hfollows' with ⟨hg', hlabel'⟩ | ⟨hg', hlabel'⟩ | ⟨hg', hlabel'⟩
    · rw [hlabel']
      exact UtcLabel.before_ofTimestamp (by omega)
    · rw [hlabel']
      exact UtcLabel.before_leapSecond (by omega) (by have := hg'.1; omega)
    · rw [hlabel']
      exact UtcLabel.before_ofTimestamp (by omega)
  · rw [hlabel]
    rcases h.label_cases hfollows' with ⟨hg', hlabel'⟩ | ⟨hg', hlabel'⟩ | ⟨hg', hlabel'⟩
    · have := hg.1
      omega
    · rw [hlabel']
      exact .inr ⟨rfl, by dsimp only; omega⟩
    · rw [hlabel']
      exact UtcLabel.leapSecond_before (by omega)
  · rw [hlabel]
    rcases h.label_cases hfollows' with ⟨hg', hlabel'⟩ | ⟨hg', hlabel'⟩ | ⟨hg', hlabel'⟩
    · omega
    · have := hg'.2
      omega
    · rw [hlabel']
      exact UtcLabel.before_ofTimestamp (by omega)

/-- GPS times in the same hundredth of a second have labels in the same one. -/
theorem label_same (h : PositiveChange systemInfo) (hfollows : report.Follows systemInfo)
    (hfollows' : report'.Follows systemInfo)
    (hsame : report.gpsTime.ms / 10 = report'.gpsTime.ms / 10) :
    (report.label systemInfo).day = (report'.label systemInfo).day ∧
      (report.label systemInfo).ms / 10 = (report'.label systemInfo).ms / 10 := by
  have hday := h.dayEnd
  have hsecond := h.ms_mod_ten
  rcases h.label_cases hfollows with ⟨hg, hlabel⟩ | ⟨hg, hlabel⟩ | ⟨hg, hlabel⟩
  · rcases h.label_cases hfollows' with ⟨hg', hlabel'⟩ | ⟨hg', -⟩ | ⟨hg', -⟩
    · rw [hlabel, hlabel']
      exact UtcLabel.ofTimestamp_same (by omega)
    · have := hg'.1
      omega
    · omega
  · obtain ⟨hge, hlt⟩ := hg
    rcases h.label_cases hfollows' with ⟨hg', -⟩ | ⟨-, hlabel'⟩ | ⟨hg', -⟩
    · omega
    · rw [hlabel, hlabel']
      exact ⟨rfl, by dsimp only; omega⟩
    · omega
  · rcases h.label_cases hfollows' with ⟨hg', -⟩ | ⟨hg', -⟩ | ⟨hg', hlabel'⟩
    · omega
    · have := hg'.2
      omega
    · rw [hlabel, hlabel']
      exact UtcLabel.ofTimestamp_same (by omega)

end PositiveChange

/-- What is printed around a leap second, and that the arithmetic does not overflow. -/
structure LeapSecondShown (systemInfo : LocationSystemInfo) : Prop where
  combine : ∀ t : WeekTime, t.combine.toNat = t.week.toNat * 604800000 + t.msec.toNat
  windowEnd : (systemInfo.gpsTimestampLsChange.combine + 1000).toNat =
    systemInfo.gpsTimestampLsChange.ms + 1000
  frozenTimestamp : systemInfo.frozenTimestamp.toInt = systemInfo.gpsTimestampLsChange.ms +
    315964800000 - 1000 * systemInfo.leapSecondsBeforeChange.toNat - 1000
  within : ∀ report : PosTimes, report.HasGpsTime → report.InLeapSecond systemInfo →
    loc_nmea_generate_pos_time report systemInfo =
      { utcYear := (civilDate (systemInfo.nextDay - 1)).year % 100
        utcMonth := (civilDate (systemInfo.nextDay - 1)).month + 1
        utcDay := (civilDate (systemInfo.nextDay - 1)).day + 1
        utcHours := 23
        utcMinutes := 59
        utcSeconds := 60
        hundredths := report.gpsTime.msec.toNat % 1000 / 10 }
  within_iff : ∀ report : PosTimes, report.HasGpsTime →
    ((loc_nmea_generate_pos_time report systemInfo).utcSeconds = 60 ↔
      report.InLeapSecond systemInfo)
  outside : ∀ report : PosTimes, report.HasGpsTime → ¬ report.InLeapSecond systemInfo →
    0 ≤ report.timestamp.toInt → loc_nmea_generate_pos_time report systemInfo =
      (UtcLabel.ofTimestamp report.timestamp.toInt).shown
  same : ∀ report report' : PosTimes, report.HasGpsTime → report'.HasGpsTime →
    report.Follows systemInfo → report'.Follows systemInfo →
    report.gpsTime.ms / 10 = report'.gpsTime.ms / 10 →
    loc_nmea_generate_pos_time report systemInfo = loc_nmea_generate_pos_time report' systemInfo
  increasing : ∀ report report' : PosTimes, report.HasGpsTime → report'.HasGpsTime →
    report.Follows systemInfo → report'.Follows systemInfo →
    (report.label systemInfo).SameCentury (report'.label systemInfo) →
    report.gpsTime.ms / 10 < report'.gpsTime.ms / 10 →
    (loc_nmea_generate_pos_time report systemInfo).fields <
      (loc_nmea_generate_pos_time report' systemInfo).fields

namespace PositiveChange

variable {systemInfo : LocationSystemInfo} {report report' : PosTimes}

theorem utcSeconds_iff (h : PositiveChange systemInfo) (hgps : report.HasGpsTime) :
    (loc_nmea_generate_pos_time report systemInfo).utcSeconds = 60 ↔
      report.InLeapSecond systemInfo := by
  unfold loc_nmea_generate_pos_time gmtime
  rw [h.get_utctime_eq hgps]
  split_ifs with hin
  · simp [hin]
  · simp only [Bool.false_eq_true, if_false, hin, iff_false]
    omega

/-- In a leap second 23:59:60 is printed, with the date of the day that ends, and otherwise the
timestamp.  The times that are printed increase with GPS time, by hundredths of a second. -/
theorem timeShown (h : PositiveChange systemInfo) : LeapSecondShown systemInfo where
  combine := WeekTime.toNat_combine
  windowEnd := by
    have hms := systemInfo.gpsTimestampLsChange.ms_lt
    have hthousand : (1000 : BitVec 64).toNat = 1000 := rfl
    rw [BitVec.toNat_add, WeekTime.toNat_combine, hthousand]
    omega
  frozenTimestamp := systemInfo.toInt_frozenTimestamp
  within _ hgps hin := h.time_within hgps hin
  within_iff _ hgps := h.utcSeconds_iff hgps
  outside _ hgps hout hts := h.time_outside hgps hout hts
  same report report' hgps hgps' hfollows hfollows' hsame := by
    obtain ⟨hday, hms⟩ := h.label_same hfollows hfollows' hsame
    rw [h.time_eq_shown hgps (timestamp_nonneg hfollows),
      h.time_eq_shown hgps' (timestamp_nonneg hfollows')]
    exact UtcLabel.shown_eq_of_ms hday hms
  increasing report report' hgps hgps' hfollows hfollows' hcentury hlater := by
    rw [h.time_eq_shown hgps (timestamp_nonneg hfollows),
      h.time_eq_shown hgps' (timestamp_nonneg hfollows')]
    exact UtcLabel.fields_shown_lt (h.label_before hfollows hfollows' hlater) hcentury
      (h.label_ms_bounds hfollows).1 (h.label_ms_bounds hfollows').2

end PositiveChange

/-- The change at the end of 2016. -/
def leapSecond2016 : LocationSystemInfo :=
  ⟨LOCATION_SYS_INFO_LEAP_SECOND, LEAP_SECOND_SYS_INFO_LEAP_SECOND_CHANGE_BIT, ⟨1930, 17000⟩, 17, 18⟩

theorem leapSecond2016_shown :
    PositiveChange leapSecond2016 ∧ LeapSecondShown leapSecond2016 := by
  have h : PositiveChange leapSecond2016 := ⟨by decide, by decide, by decide⟩
  exact ⟨h, h.timeShown⟩

/-- A change at the end of 2099. -/
def leapSecond2099 : LocationSystemInfo :=
  ⟨LOCATION_SYS_INFO_LEAP_SECOND, LEAP_SECOND_SYS_INFO_LEAP_SECOND_CHANGE_BIT,
    ⟨6260, 432030000⟩, 30, 31⟩

/-- A report with a GPS time. -/
def PosTimes.at (timestamp : BitVec 64) (gpsTime : WeekTime) : PosTimes :=
  ⟨timestamp, GPS_LOCATION_EXTENDED_HAS_GPS_TIME, gpsTime⟩

/-- Five milliseconds do not show, at the end of a century the year starts from 0, and a timestamp
before 1970 has a negative part of a second. -/
theorem leapSecond_shown_limits :
    let first : PosTimes := .at 0 ⟨1930, 17000⟩
    let second : PosTimes := .at 0 ⟨1930, 17005⟩
    let last : PosTimes := .at 0 ⟨6260, 432030000⟩
    let next : PosTimes := .at 4102444800000 ⟨6260, 432031000⟩
    let early : PosTimes := .at (-500) ⟨0, 0⟩
    (first.Follows leapSecond2016 ∧ second.Follows leapSecond2016 ∧
      first.gpsTime.ms < second.gpsTime.ms ∧
      ¬ (loc_nmea_generate_pos_time first leapSecond2016).fields <
        (loc_nmea_generate_pos_time second leapSecond2016).fields) ∧
    (PositiveChange leapSecond2099 ∧ last.Follows leapSecond2099 ∧ next.Follows leapSecond2099 ∧
      last.gpsTime.ms < next.gpsTime.ms ∧
      ¬ (loc_nmea_generate_pos_time last leapSecond2099).fields <
        (loc_nmea_generate_pos_time next leapSecond2099).fields) ∧
    early.HasGpsTime ∧ ¬ early.InLeapSecond leapSecond2016 ∧
      (loc_nmea_generate_pos_time early leapSecond2016).hundredths = -50 ∧
      loc_nmea_generate_pos_time early leapSecond2016 ≠
        (UtcLabel.ofTimestamp early.timestamp.toInt).shown := by
  refine ⟨⟨?_, ?_, ?_, ?_⟩, ⟨?_, ?_, ?_, ?_, ?_⟩, ?_, ?_, ?_, ?_⟩
  · exact ⟨by decide, by decide⟩
  · exact ⟨by decide, by decide⟩
  · decide
  · decide
  · exact ⟨by decide, by decide, by decide⟩
  · exact ⟨by decide, by decide⟩
  · exact ⟨by decide, by decide⟩
  · decide
  · decide +kernel
  · change _ ≠ _
    decide
  · decide
  · decide
  · decide +kernel

end GpsHal
