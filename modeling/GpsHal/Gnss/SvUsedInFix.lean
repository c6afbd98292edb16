import GpsHal.Gnss.BlacklistRoundTrip
import GpsHal.Util.Nmea

/-!
# `GnssAdapter` : satellites that were used in the fix

A position comes with masks of the SVs that it was computed from, one mask for each constellation
and, if there are several bands, one for each signal.  `reportSv` looks every SV of the next report up
in them and marks it with `GNSS_SV_OPTIONS_USED_IN_FIX_BIT`.  The bit of an SV is shifted in an `int`,
as in `convertToGnssSvIdConfig`, and the mark of an SV that was not used is left as it is.

## Main definitions

* `GnssUsedSvs` : the masks that `reportPosition` keeps.
* `GnssUsedSvs.reportSv` : the report with its marks.
* `GnssUsedSvs.appliedMask` : the mask that applies to an SV, looked up in a table.
* `GnssUsedSvs.Markable` : the condition on an SV.

## Main results

* `GnssUsedSvs.svUsedIdMask_eq` : `reportSv` uses the mask that applies.
* `GnssUsedSvs.marksUsed_iff` : when the SVs are marked that were used, and no others.
-/

namespace GpsHal

def GNSS_SIGNAL_GPS_L1C : GnssSignalTypeMask := 1 <<< 1
def GNSS_SIGNAL_QZSS_L1S : GnssSignalTypeMask := 1 <<< 14

def GNSS_SV_OPTIONS_USED_IN_FIX_BIT : BitVec 16 := 1 <<< 2

def QZSS_SV_PRN_MIN : BitVec 16 := 193

def GPS_LOCATION_EXTENDED_HAS_GNSS_SV_USED_DATA : BitVec 64 := 0x1000
def GPS_LOCATION_EXTENDED_HAS_MULTIBAND : BitVec 64 := 0x400000000

/-- `GnssSv` with the options that `reportSv` writes. -/
structure ReportedSv extends GnssSv where
  gnssSvOptionsMask : BitVec 16
  deriving DecidableEq, Repr

def ReportedSv.UsedInFix (sv : ReportedSv) : Prop :=
  sv.gnssSvOptionsMask &&& GNSS_SV_OPTIONS_USED_IN_FIX_BIT ≠ 0

instance : DecidablePred ReportedSv.UsedInFix := fun sv =>
  inferInstanceAs (Decidable (sv.gnssSvOptionsMask &&& GNSS_SV_OPTIONS_USED_IN_FIX_BIT ≠ 0))

/-- `GnssSvUsedInPosition` -/
structure GnssSvUsedInPosition where
  gps_sv_used_ids_mask : BitVec 64
  glo_sv_used_ids_mask : BitVec 64
  gal_sv_used_ids_mask : BitVec 64
  bds_sv_used_ids_mask : BitVec 64
  qzss_sv_used_ids_mask : BitVec 64
  navic_sv_used_ids_mask : BitVec 64
  deriving DecidableEq, Repr

/-- `GnssSvMbUsedInPosition` -/
structure GnssSvMbUsedInPosition where
  gps_l1ca_sv_used_ids_mask : BitVec 64
  gps_l1c_sv_used_ids_mask : BitVec 64
  gps_l2_sv_used_ids_mask : BitVec 64
  gps_l5_sv_used_ids_mask : BitVec 64
  glo_g1_sv_used_ids_mask : BitVec 64
  glo_g2_sv_used_ids_mask : BitVec 64
  gal_e1_sv_used_ids_mask : BitVec 64
  gal_e5a_sv_used_ids_mask : BitVec 64
  gal_e5b_sv_used_ids_mask : BitVec 64
  bds_b1i_sv_used_ids_mask : BitVec 64
  bds_b1c_sv_used_ids_mask : BitVec 64
  bds_b2i_sv_used_ids_mask : BitVec 64
  bds_b2ai_sv_used_ids_mask : BitVec 64
  qzss_l1ca_sv_used_ids_mask : BitVec 64
  qzss_l1s_sv_used_ids_mask : BitVec 64
  qzss_l2_sv_used_ids_mask : BitVec 64
  qzss_l5_sv_used_ids_mask : BitVec 64
  sbas_l1_sv_used_ids_mask : BitVec 64
  bds_b2aq_sv_used_ids_mask : BitVec 64
  deriving DecidableEq, Repr

/-- The part of `GpsLocationExtended` that says which SVs were used. -/
structure GpsLocationExtended where
  flags : BitVec 64
  gnss_sv_used_ids : GnssSvUsedInPosition
  gnss_mb_sv_used_ids : GnssSvMbUsedInPosition
  deriving DecidableEq, Repr

/-- The masks of the last position. -/
structure GnssUsedSvs where
  mGnssSvIdUsedInPosition : GnssSvUsedInPosition
  mGnssSvIdUsedInPosAvail : Bool
  mGnssMbSvIdUsedInPosition : GnssSvMbUsedInPosition
  mGnssMbSvIdUsedInPosAvail : Bool
  deriving DecidableEq, Repr

namespace GnssUsedSvs

-- what the compiler makes of `1 << n` for an `n` that is out of range
variable (overshift : ℕ → BitVec 64) (s : GnssUsedSvs)

/-- `reportPosition`, as far as the masks go. -/
def reportPosition (locationExtended : GpsLocationExtended) (reportToGnssClient : Bool) :
    GnssUsedSvs :=
  let s := { s with mGnssSvIdUsedInPosAvail := false, mGnssMbSvIdUsedInPosAvail := false }
  if reportToGnssClient then
    if locationExtended.flags &&& GPS_LOCATION_EXTENDED_HAS_GNSS_SV_USED_DATA ≠ 0 then
      let s := { s with
        mGnssSvIdUsedInPosAvail := true
        mGnssSvIdUsedInPosition := locationExtended.gnss_sv_used_ids }
      if locationExtended.flags &&& GPS_LOCATION_EXTENDED_HAS_MULTIBAND ≠ 0 then
        { s with
          mGnssMbSvIdUsedInPosAvail := true
          mGnssMbSvIdUsedInPosition := locationExtended.gnss_mb_sv_used_ids }
      else s
    else s
  else s

/-- The cases of `reportSv` : `svUsedIdMask`. -/
def svUsedIdMask (sv : ReportedSv) : BitVec 64 :=
  let signalTypeMask := sv.gnssSignalTypeMask
  let used := s.mGnssSvIdUsedInPosition
  let mb := s.mGnssMbSvIdUsedInPosition
  match sv.type with
  | .GPS =>
    if s.mGnssSvIdUsedInPosAvail then
      if s.mGnssMbSvIdUsedInPosAvail then
        if signalTypeMask = GNSS_SIGNAL_GPS_L1CA then mb.gps_l1ca_sv_used_ids_mask
        else if signalTypeMask = GNSS_SIGNAL_GPS_L1C then mb.gps_l1c_sv_used_ids_mask
        else if signalTypeMask = GNSS_SIGNAL_GPS_L2 then mb.gps_l2_sv_used_ids_mask
        else if signalTypeMask = GNSS_SIGNAL_GPS_L5 then mb.gps_l5_sv_used_ids_mask
        else 0
      else used.gps_sv_used_ids_mask
    else 0
  | .GLONASS =>
    if s.mGnssSvIdUsedInPosAvail then
      if s.mGnssMbSvIdUsedInPosAvail then
        if signalTypeMask = GNSS_SIGNAL_GLONASS_G1 then mb.glo_g1_sv_used_ids_mask
        else if signalTypeMask = GNSS_SIGNAL_GLONASS_G2 then mb.glo_g2_sv_used_ids_mask
        else 0
      else used.glo_sv_used_ids_mask
    else 0
  | .BEIDOU =>
    if s.mGnssSvIdUsedInPosAvail then
      if s.mGnssMbSvIdUsedInPosAvail then
        if signalTypeMask = GNSS_SIGNAL_BEIDOU_B1I then mb.bds_b1i_sv_used_ids_mask
        else if signalTypeMask = GNSS_SIGNAL_BEIDOU_B1C then mb.bds_b1c_sv_used_ids_mask
        else if signalTypeMask = GNSS_SIGNAL_BEIDOU_B2I then mb.bds_b2i_sv_used_ids_mask
        else if signalTypeMask = GNSS_SIGNAL_BEIDOU_B2AI then mb.bds_b2ai_sv_used_ids_mask
        else if signalTypeMask = GNSS_SIGNAL_BEIDOU_B2AQ then mb.bds_b2aq_sv_used_ids_mask
        else 0
      else used.bds_sv_used_ids_mask
    else 0
  | .GALILEO =>
    if s.mGnssSvIdUsedInPosAvail then
      if s.mGnssMbSvIdUsedInPosAvail then
        if signalTypeMask = GNSS_SIGNAL_GALILEO_E1 then mb.gal_e1_sv_used_ids_mask
        else if signalTypeMask = GNSS_SIGNAL_GALILEO_E5A then mb.gal_e5a_sv_used_ids_mask
        else if signalTypeMask = GNSS_SIGNAL_GALILEO_E5B then mb.gal_e5b_sv_used_ids_mask
        else 0
      else used.gal_sv_used_ids_mask
    else 0
  | .QZSS =>
    if s.mGnssSvIdUsedInPosAvail then
      if s.mGnssMbSvIdUsedInPosAvail then
        if signalTypeMask = GNSS_SIGNAL_QZSS_L1CA then mb.qzss_l1ca_sv_used_ids_mask
        else if signalTypeMask = GNSS_SIGNAL_QZSS_L1S then mb.qzss_l1s_sv_used_ids_mask
        else if signalTypeMask = GNSS_SIGNAL_QZSS_L2 then mb.qzss_l2_sv_used_ids_mask
        else if signalTypeMask = GNSS_SIGNAL_QZSS_L5 then mb.qzss_l5_sv_used_ids_mask
        else 0
      else used.qzss_sv_used_ids_mask
    else 0
  | .NAVIC => if s.mGnssSvIdUsedInPosAvail then used.navic_sv_used_ids_mask else 0
  | .UNKNOWN | .SBAS => 0

/-- `(uint64_t)(1 << (gnssSvId - 1))`, where `gnssSvId` is an `int16_t`. -/
def svIdBit (svId : BitVec 16) : BitVec 64 :=
  shiftOne overshift (svId.signExtend 32 - 1).toNat

/-- One turn of the loop of `reportSv`.  The flag is set, and never cleared. -/
def markSv (sv : ReportedSv) : ReportedSv :=
  let svUsedIdMask := s.svUsedIdMask sv
  let gnssSvId := sv.svId
  let sv := if sv.type = .QZSS then { sv with svId := sv.svId + (QZSS_SV_PRN_MIN - 1) } else sv
  if svUsedIdMask &&& svIdBit overshift gnssSvId ≠ 0 then
    { sv with gnssSvOptionsMask := sv.gnssSvOptionsMask ||| GNSS_SV_OPTIONS_USED_IN_FIX_BIT }
  else sv

/-- `reportSv` : the report that the clients get. -/
def reportSv (svNotify : List ReportedSv) : List ReportedSv × GnssUsedSvs :=
  (svNotify.map (s.markSv overshift), { s with mGnssSvIdUsedInPosAvail := false })

end GnssUsedSvs

/-! ### The mask that applies -/

namespace GnssSvType

/-- The mask of the constellation for all its signals. -/
def usedMask : GnssSvType → Option (GnssSvUsedInPosition → BitVec 64)
  | GPS => some (·.gps_sv_used_ids_mask)
  | GLONASS => some (·.glo_sv_used_ids_mask)
  | GALILEO => some (·.gal_sv_used_ids_mask)
  | BEIDOU => some (·.bds_sv_used_ids_mask)
  | QZSS => some (·.qzss_sv_used_ids_mask)
  | NAVIC => some (·.navic_sv_used_ids_mask)
  | UNKNOWN | SBAS => none

/-- The masks of the constellation, each for one of its signals; NavIC has none. -/
def signalMasks : GnssSvType → List (GnssSignalTypeMask × (GnssSvMbUsedInPosition → BitVec 64))
  | GPS =>
    [(GNSS_SIGNAL_GPS_L1CA, (·.gps_l1ca_sv_used_ids_mask)),
      (GNSS_SIGNAL_GPS_L1C, (·.gps_l1c_sv_used_ids_mask)),
      (GNSS_SIGNAL_GPS_L2, (·.gps_l2_sv_used_ids_mask)),
      (GNSS_SIGNAL_GPS_L5, (·.gps_l5_sv_used_ids_mask))]
  | GLONASS =>
    [(GNSS_SIGNAL_GLONASS_G1, (·.glo_g1_sv_used_ids_mask)),
      (GNSS_SIGNAL_GLONASS_G2, (·.glo_g2_sv_used_ids_mask))]
  | GALILEO =>
    [(GNSS_SIGNAL_GALILEO_E1, (·.gal_e1_sv_used_ids_mask)),
      (GNSS_SIGNAL_GALILEO_E5A, (·.gal_e5a_sv_used_ids_mask)),
      (GNSS_SIGNAL_GALILEO_E5B, (·.gal_e5b_sv_used_ids_mask))]
  | BEIDOU =>
    [(GNSS_SIGNAL_BEIDOU_B1I, (·.bds_b1i_sv_used_ids_mask)),
      (GNSS_SIGNAL_BEIDOU_B1C, (·.bds_b1c_sv_used_ids_mask)),
      (GNSS_SIGNAL_BEIDOU_B2I, (·.bds_b2i_sv_used_ids_mask)),
      (GNSS_SIGNAL_BEIDOU_B2AI, (·.bds_b2ai_sv_used_ids_mask)),
      (GNSS_SIGNAL_BEIDOU_B2AQ, (·.bds_b2aq_sv_used_ids_mask))]
  | QZSS =>
    [(GNSS_SIGNAL_QZSS_L1CA, (·.qzss_l1ca_sv_used_ids_mask)),
      (GNSS_SIGNAL_QZSS_L1S, (·.qzss_l1s_sv_used_ids_mask)),
      (GNSS_SIGNAL_QZSS_L2, (·.qzss_l2_sv_used_ids_mask)),
      (GNSS_SIGNAL_QZSS_L5, (·.qzss_l5_sv_used_ids_mask))]
  | NAVIC | UNKNOWN | SBAS => []

end GnssSvType

/-- The mask that the list has for the signal; no SV was used for another signal. -/
def GnssSvMbUsedInPosition.maskOf (mb : GnssSvMbUsedInPosition) (signal : GnssSignalTypeMask) :
    List (GnssSignalTypeMask × (GnssSvMbUsedInPosition → BitVec 64)) → BitVec 64
  | [] => 0
  | e :: es => if signal = e.1 then e.2 mb else mb.maskOf signal es

namespace GnssUsedSvs

variable {overshift : ℕ → BitVec 64} {s : GnssUsedSvs} {sv : ReportedSv}
  {svNotify : List ReportedSv}

/-- The mask of the constellation, or that of the signal if there are such masks; no SV is used as
long as there are no masks at all. -/
def appliedMask (s : GnssUsedSvs) (sv : ReportedSv) : BitVec 64 :=
  if s.mGnssSvIdUsedInPosAvail then
    if s.mGnssMbSvIdUsedInPosAvail ∧ sv.type.signalMasks ≠ [] then
      s.mGnssMbSvIdUsedInPosition.maskOf sv.gnssSignalTypeMask sv.type.signalMasks
    else sv.type.usedMask.elim 0 fun mask => mask s.mGnssSvIdUsedInPosition
  else 0

theorem svUsedIdMask_eq : s.svUsedIdMask sv = s.appliedMask sv := by
  unfold svUsedIdMask appliedMask
  by_cases havail : s.mGnssSvIdUsedInPosAvail = true
  · rw [if_pos havail]
    by_cases hmb : s.mGnssMbSvIdUsedInPosAvail = true
    · cases htype : sv.type with
      | NAVIC | UNKNOWN | SBAS =>
        rw [if_neg fun h => h.2 rfl]
        simp only [if_pos havail]
        rfl
      | _ =>
        rw [if_pos ⟨hmb, List.cons_ne_nil _ _⟩]
        simp only [if_pos havail, if_pos hmb]
        rfl
    · rw [if_neg fun h => hmb h.1]
      cases sv.type <;> simp only [if_pos havail, if_neg hmb] <;> rfl
  · rw [if_neg havail]
    cases sv.type <;> simp only [if_neg havail]

/-! ### The marks -/

theorem usedInFix_or (options : BitVec 16) :
    (options ||| GNSS_SV_OPTIONS_USED_IN_FIX_BIT) &&& GNSS_SV_OPTIONS_USED_IN_FIX_BIT ≠ 0 := by
  have hbit : ((options ||| GNSS_SV_OPTIONS_USED_IN_FIX_BIT) &&&
      GNSS_SV_OPTIONS_USED_IN_FIX_BIT).getLsbD 2 = true := by
    rw [BitVec.getLsbD_and, BitVec.getLsbD_or]
    have h2 : GNSS_SV_OPTIONS_USED_IN_FIX_BIT.getLsbD 2 = true := by decide
    rw [h2, Bool.or_true, Bool.and_true]
  intro h
  rw [h] at hbit
  cases hbit

theorem markSv_usedInFix : (s.markSv overshift sv).UsedInFix ↔
    sv.UsedInFix ∨ s.appliedMask sv &&& svIdBit overshift sv.svId ≠ 0 := by
  unfold markSv ReportedSv.UsedInFix
  dsimp only
  rw [svUsedIdMask_eq]
  by_cases hused : s.appliedMask sv &&& svIdBit overshift sv.svId ≠ 0
  · rw [if_pos hused]
    exact iff_of_true (usedInFix_or _) (.inr hused)
  · rw [if_neg hused, or_iff_left hused]
    split <;> exact Iff.rfl

theorem and_ne_zero_iff {x y : BitVec 64} :
    x &&& y ≠ 0 ↔ ∃ i < 64, x.getLsbD i = true ∧ y.getLsbD i = true := by
  constructor
  · intro h
    by_contra hnone
    refine h (BitVec.eq_of_getLsbD_eq fun i hi => ?_)
    rw [BitVec.getLsbD_and]
    refine (Bool.eq_false_iff.mpr fun hbit => hnone ⟨i, hi, ?_⟩).trans BitVec.getLsbD_zero.symm
    exact (Bool.and_eq_true _ _).mp hbit
  · rintro ⟨i, -, hx, hy⟩ h
    have hbit := congrArg (BitVec.getLsbD · i) h
    simp only [BitVec.getLsbD_and, hx, hy] at hbit
    exact absurd (hbit.trans BitVec.getLsbD_zero) (by decide)

/-- A 1-based id. -/
def ValidId (sv : ReportedSv) : Prop := 1 ≤ sv.svId.toNat ∧ sv.svId.toNat ≤ 64

instance : DecidablePred ValidId := fun sv =>
  inferInstanceAs (Decidable (1 ≤ sv.svId.toNat ∧ sv.svId.toNat ≤ 64))

theorem svIdBit_eq (h : ValidId sv) :
    svIdBit overshift sv.svId = shiftOne overshift (sv.svId.toNat - 1) := by
  obtain ⟨h₁, h₆₄⟩ := h
  have hmsb : sv.svId.msb = false := BitVec.msb_eq_false_iff_two_mul_lt.mpr (by omega)
  unfold svIdBit
  congr 1
  rw [BitVec.signExtend_eq_setWidth_of_msb_false hmsb]
  bv_omega

/-- The SV was used, as the mask says. -/
def Used (s : GnssUsedSvs) (sv : ReportedSv) : Prop :=
  (s.appliedMask sv).getLsbD (sv.svId.toNat - 1) = true

instance (s : GnssUsedSvs) : DecidablePred s.Used := fun sv =>
  inferInstanceAs (Decidable ((s.appliedMask sv).getLsbD (sv.svId.toNat - 1) = true))

/-- The mark that an SV has is right if it has one; if the SV has the id 32 it was used, or none of
those behind it were; and if its id is greater it was used and is marked, or no SV at all was used and
it is not marked. -/
structure Markable (s : GnssUsedSvs) (sv : ReportedSv) : Prop where
  marked : sv.UsedInFix → s.Used sv
  sign : sv.svId.toNat = 32 → s.Used sv ∨ ∀ i < 64, 32 ≤ i → (s.appliedMask sv).getLsbD i = false
  beyond : 32 < sv.svId.toNat → s.Used sv ∧ sv.UsedInFix ∨ s.appliedMask sv = 0

/-- Below the sign bit the shift is right. -/
theorem and_svIdBit_of_lt (h : ValidId sv) (hlt : sv.svId.toNat < 32) :
    s.appliedMask sv &&& svIdBit overshift sv.svId ≠ 0 ↔ s.Used sv := by
  have hn : sv.svId.toNat - 1 < 31 := by
    have h₁ := h.1
    omega
  rw [and_ne_zero_iff, svIdBit_eq h]
  constructor
  · rintro ⟨i, hi, hbit, hshift⟩
    rw [(getLsbD_shiftOne hn hi).mp hshift] at hbit
    exact hbit
  · intro hbit
    have hi : sv.svId.toNat - 1 < 64 := hn.trans (by decide)
    exact ⟨_, hi, hbit, (getLsbD_shiftOne hn hi).mpr rfl⟩

theorem and_svIdBit_of_eq (h : ValidId sv) (heq : sv.svId.toNat = 32) :
    s.appliedMask sv &&& svIdBit overshift sv.svId ≠ 0 ↔
      s.Used sv ∨ ∃ i < 64, 32 ≤ i ∧ (s.appliedMask sv).getLsbD i = true := by
  unfold Used
  rw [and_ne_zero_iff, svIdBit_eq h, heq]
  constructor
  · rintro ⟨i, hi, hbit, hshift⟩
    rcases eq_or_lt_of_le ((getLsbD_shiftOne_sign hi).mp hshift) with rfl | hlt
    · exact .inl hbit
    · exact .inr ⟨i, hi, hlt, hbit⟩
  · rintro (hbit | ⟨i, hi, hlt, hbit⟩)
    · exact ⟨31, by decide, hbit, (getLsbD_shiftOne_sign (by decide)).mpr (le_refl 31)⟩
    · exact ⟨i, hi, hbit, (getLsbD_shiftOne_sign hi).mpr (Nat.le_of_succ_le hlt)⟩

/-- Behind it the compiler decides. -/
theorem svIdBit_of_gt (h : ValidId sv) (hgt : 32 < sv.svId.toNat) :
    svIdBit overshift sv.svId = overshift (sv.svId.toNat - 1) := by
  rw [svIdBit_eq h]
  exact if_neg (by omega)

/-- One SV. -/
theorem markable_iff (h : ValidId sv) :
    (∀ overshift, (s.markSv overshift sv).UsedInFix ↔ s.Used sv) ↔ s.Markable sv := by
  simp only [markSv_usedInFix]
  rcases lt_trichotomy sv.svId.toNat 32 with hlt | heq | hgt
  · constructor
    · intro hmark
      exact ⟨fun hused => (hmark fun _ => 0).mp (.inl hused), fun heq => absurd heq hlt.ne,
        fun hgt => absurd hgt hlt.asymm⟩
    · intro hmark overshift
      rw [and_svIdBit_of_lt h hlt]
      exact or_iff_right_of_imp hmark.marked
  · constructor
    · intro hmark
      refine ⟨fun hused => (hmark fun _ => 0).mp (.inl hused), fun _ => ?_,
        fun hgt => absurd heq hgt.ne'⟩
      refine or_iff_not_imp_left.mpr fun hnot i hi hle => Bool.eq_false_iff.mpr fun hbit => hnot ?_
      exact (hmark fun _ => 0).mp (.inr ((and_svIdBit_of_eq h heq).mpr (.inr ⟨i, hi, hle, hbit⟩)))
    · intro hmark overshift
      rw [and_svIdBit_of_eq h heq]
      refine ⟨?_, fun hused => .inr (.inl hused)⟩
      rintro (hused | hused | ⟨i, hi, hle, hbit⟩)
      · exact hmark.marked hused
      · exact hused
      · refine (hmark.sign heq).resolve_right fun hnone => ?_
        exact absurd ((hnone i hi hle).symm.trans hbit) Bool.false_ne_true
  · constructor
    · intro hmark
      refine ⟨fun hused => (hmark fun _ => 0).mp (.inl hused), fun heq => absurd heq hgt.ne',
        fun _ => or_iff_not_imp_right.mpr fun hmask => ?_⟩
      have hused : s.Used sv := by
        refine (hmark fun _ => GNSS_SV_CONFIG_ALL_BITS_ENABLED_MASK).mp (.inr ?_)
        rw [svIdBit_of_gt h hgt, show GNSS_SV_CONFIG_ALL_BITS_ENABLED_MASK = BitVec.allOnes 64 from rfl,
          BitVec.and_allOnes]
        exact hmask
      refine ⟨hused, ((hmark fun _ => 0).mpr hused).resolve_right fun hne => hne ?_⟩
      rw [svIdBit_of_gt h hgt]
      exact BitVec.and_zero
    · intro hmark overshift
      rcases hmark.beyond hgt with ⟨hused, hflag⟩ | hzero
      · exact iff_of_true (.inl hflag) hused
      · have hnot : ¬ s.Used sv := by
          unfold Used
          rw [hzero]
          exact Bool.eq_false_iff.mp BitVec.getLsbD_zero
        refine iff_of_false ?_ hnot
        rintro (hflag | hne)
        · exact hnot (hmark.marked hflag)
        · rw [hzero] at hne
          exact hne BitVec.zero_and

/-- Every SV of the six constellations that have masks is marked exactly if it was used. -/
def MarksUsed (overshift : ℕ → BitVec 64) (s : GnssUsedSvs) (svNotify : List ReportedSv) : Prop :=
  ∀ (i : ℕ) (sv sv' : ReportedSv), svNotify[i]? = some sv →
    (s.reportSv overshift svNotify).1[i]? = some sv' → sv.type.usedMask ≠ none →
      (sv'.UsedInFix ↔ s.Used sv)

theorem marksUsed_iff_forall : MarksUsed overshift s svNotify ↔
    ∀ sv ∈ svNotify, sv.type.usedMask ≠ none →
      ((s.markSv overshift sv).UsedInFix ↔ s.Used sv) := by
  unfold MarksUsed reportSv
  constructor
  · intro h sv hmem htype
    obtain ⟨i, hi⟩ := List.mem_iff_getElem?.mp hmem
    refine h i sv _ hi ?_ htype
    rw [List.getElem?_map, hi]
    rfl
  · intro h i sv sv' hi hi' htype
    rw [List.getElem?_map, hi] at hi'
    rw [← Option.some.inj hi']
    exact h sv (List.mem_of_getElem? hi) htype

/-- **The marks of a report** are right, whatever the compiler makes of the shifts that are too far,
exactly if each SV meets the condition. -/
theorem marksUsed_iff (hids : ∀ sv ∈ svNotify, ValidId sv) :
    (∀ overshift, MarksUsed overshift s svNotify) ↔
      ∀ sv ∈ svNotify, sv.type.usedMask ≠ none → s.Markable sv := by
  simp only [marksUsed_iff_forall]
  constructor
  · exact fun h sv hmem htype => (markable_iff (hids sv hmem)).mp fun o => h o sv hmem htype
  · exact fun h o sv hmem htype => (markable_iff (hids sv hmem)).mpr (h sv hmem htype) o

/-- The masks after a position that was computed from the GPS SVs of the mask. -/
def afterGpsPosition (gps : BitVec 64) : GnssUsedSvs where
  mGnssSvIdUsedInPosition := ⟨gps, 0, 0, 0, 0, 0⟩
  mGnssSvIdUsedInPosAvail := true
  mGnssMbSvIdUsedInPosition := ⟨0, 0, 0, 0, 0, 0, 0, 0, 0, 0, 0, 0, 0, 0, 0, 0, 0, 0, 0⟩
  mGnssMbSvIdUsedInPosAvail := false

/-- A GPS SV with the id and the options. -/
def gpsSv (svId options : BitVec 16) : ReportedSv :=
  ⟨⟨svId, .GPS, some 40, 45, 90, GNSS_SIGNAL_GPS_L1CA⟩, options⟩

/-- SV 5 was used and SV 6 was not. -/
theorem marksUsed_gps : MarksUsed (fun _ => 0) (afterGpsPosition 0x10) [gpsSv 5 0, gpsSv 6 0] := by
  refine (marksUsed_iff (by decide)).mpr (fun sv hmem _ => ?_) _
  rcases List.mem_cons.mp hmem with rfl | hmem
  · exact ⟨by decide, by decide, by decide⟩
  · obtain rfl := List.mem_singleton.mp hmem
    exact ⟨by decide, by decide, by decide⟩

/-- An SV that is marked already, and was not used, stays marked; and where a shift by 32 is one by 0,
SV 33 is not marked though it was used. -/
theorem not_marksUsed :
    ¬ MarksUsed (fun _ => 0) (afterGpsPosition 0x10) [gpsSv 6 GNSS_SV_OPTIONS_USED_IN_FIX_BIT] ∧
      ¬ MarksUsed (fun n => shiftOne (fun _ => 0) (n % 32)) (afterGpsPosition 0x100000000)
        [gpsSv 33 0] := by
  constructor
  · intro h
    exact absurd ((h 0 _ _ rfl rfl (by decide)).mp (by decide)) (by decide)
  · intro h
    exact absurd ((h 0 _ _ rfl rfl (by decide)).mpr (by decide)) (by decide)

end GnssUsedSvs

end GpsHal
