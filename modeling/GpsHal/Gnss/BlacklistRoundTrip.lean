import GpsHal.Gnss.BlacklistCompose

/-!
# The blacklist : from lists to masks and back

`convertFromGnssSvIdConfig` lists the SVs of the masks, a full mask as SV id 0.  It inverts
`convertToGnssSvIdConfig` where that is right: the latter shifts an `int`, and so it is right for the
first 31 SVs of a constellation only, unless it does not matter since all of them are listed.

## Main definitions

* `convertFromGnssSvIdConfig`, `convertGnssSvIdMaskToList` : from masks to lists.
* `ListConverts`, `MasksConvert` : a list, and a config, survive both conversions.

## Main results

* `listed_convertFromGnssSvIdConfig` : the SVs of the list are those of the masks.
* `roundTrip_iff` : which lists and which configs survive.
-/

namespace GpsHal

/-! ### From masks to lists -/

/-- `sizeof(GnssSvIdSource)` -/
def GnssSvIdSource.sizeof : ℕ := 12

/-- The constellation of the mask. -/
def SvMask.svType : SvMask → GnssSvType
  | glo => .GLONASS
  | bds => .BEIDOU
  | qzss => .QZSS
  | gal => .GALILEO

theorem SvMask.svMask_svType (m : SvMask) : m.svType.svMask = some m := by
  cases m <;> rfl

/-- The loop of `convertGnssSvIdMaskToList` : convert each bit in `svIdMask` to an entry. -/
def listBits (source : GnssSvIdSource) (initialSvId : ℕ) (svIdMask : BitVec 64) (bitNumber : ℕ)
    (svIds : List GnssSvIdSource) : List GnssSvIdSource :=
  if 0 < svIdMask then
    let svIds :=
      if svIdMask &&& 0x1 ≠ 0 then svIds ++ [{ source with svId := bitNumber + initialSvId }]
      else svIds
    listBits source initialSvId (svIdMask >>> 1) (bitNumber + 1) svIds
  else svIds
termination_by svIdMask.toNat
decreasing_by
  rw [BitVec.toNat_ushiftRight, Nat.shiftRight_eq_div_pow]
  have hpos : 0 < svIdMask.toNat := by assumption
  omega

def convertGnssSvIdMaskToList (svIdMask : BitVec 64) (svIds : List GnssSvIdSource)
    (initialSvId : ℕ) (svType : GnssSvType) : List GnssSvIdSource :=
  let source : GnssSvIdSource := ⟨GnssSvIdSource.sizeof, svType, 0⟩
  if GNSS_SV_CONFIG_ALL_BITS_ENABLED_MASK = svIdMask then svIds ++ [{ source with svId := 0 }]
  else listBits source initialSvId svIdMask 0 svIds

/-- What `convertFromGnssSvIdConfig` does for one of the masks. -/
def convertMask (svConfig : GnssSvIdConfig) (config : GnssConfig) (m : SvMask) : GnssConfig :=
  if svConfig.get m ≠ 0 then
    { flags := config.flags ||| GNSS_CONFIG_FLAGS_BLACKLISTED_SV_IDS_BIT
      blacklistedSvIds := convertGnssSvIdMaskToList (svConfig.get m) config.blacklistedSvIds
        m.initialSvId m.svType }
  else config

def convertFromGnssSvIdConfig (svConfig : GnssSvIdConfig) (config : GnssConfig) : GnssConfig :=
  [SvMask.bds, .gal, .glo, .qzss].foldl (convertMask svConfig) config

/-- A config without flags. -/
def GnssConfig.zero : GnssConfig := ⟨0, []⟩

/-- The list that a config gives. -/
def GnssSvIdConfig.svIds (svConfig : GnssSvIdConfig) : List GnssSvIdSource :=
  (convertFromGnssSvIdConfig svConfig .zero).blacklistedSvIds

/-! ### The SVs that are listed -/

section

variable {source x : GnssSvIdSource} {svIdMask : BitVec 64} {svIds l : List GnssSvIdSource}
  {initialSvId bitNumber i n : ℕ} {m : SvMask} {svConfig : GnssSvIdConfig} {config : GnssConfig}
  {overshift : ℕ → BitVec 64}

theorem and_one_ne_zero : svIdMask &&& 0x1 ≠ 0 ↔ svIdMask.getLsbD 0 = true := by
  have hbit : svIdMask &&& 0x1 = BitVec.setWidth 64 (BitVec.ofBool (svIdMask.getLsbD 0)) :=
    BitVec.and_one_eq_setWidth_ofBool_getLsbD
  rw [hbit]
  cases svIdMask.getLsbD 0 <;> decide

theorem getLsbD_of_not_pos (h : ¬ 0 < svIdMask) : svIdMask.getLsbD i = false := by
  obtain rfl : svIdMask = 0 := BitVec.eq_of_toNat_eq (Nat.eq_zero_of_not_pos h)
  exact BitVec.getLsbD_zero

theorem mem_listBits : x ∈ listBits source initialSvId svIdMask bitNumber svIds ↔
    x ∈ svIds ∨ ∃ i, svIdMask.getLsbD i = true ∧
      x = { source with svId := bitNumber + i + initialSvId } := by
  fun_induction listBits source initialSvId svIdMask bitNumber svIds with
  | case1 svIdMask bitNumber svIds hpos svIds' ih =>
    have hfirst : x ∈ svIds' ↔ x ∈ svIds ∨ svIdMask.getLsbD 0 = true ∧
        x = { source with svId := bitNumber + initialSvId } := by
      rw [← and_one_ne_zero]
      show x ∈ (if svIdMask &&& 0x1 ≠ 0 then _ else _) ↔ _
      by_cases hbit : svIdMask &&& 0x1 ≠ 0
      · rw [if_pos hbit, List.mem_append, List.mem_singleton, and_iff_right hbit]
      · rw [if_neg hbit, or_iff_left fun h => hbit h.1]
    rw [ih, hfirst, or_assoc]
    refine or_congr_right ⟨?_, ?_⟩
    · rintro (h | ⟨i, hi, hx⟩)
      · exact ⟨0, h⟩
      · rw [BitVec.getLsbD_ushiftRight] at hi
        refine ⟨1 + i, hi, ?_⟩
        rw [hx]
        congr 2
        omega
    · rintro ⟨i, hi, hx⟩
      cases i with
      | zero => exact .inl ⟨hi, hx⟩
      | succ i =>
        refine .inr ⟨i, ?_, ?_⟩
        · rw [BitVec.getLsbD_ushiftRight, Nat.add_comm]
          exact hi
        · rw [hx]
          congr 2
          omega
  | case2 svIdMask bitNumber svIds hpos =>
    refine (or_iff_left ?_).symm
    rintro ⟨i, hi, -⟩
    rw [getLsbD_of_not_pos hpos] at hi
    cases hi

/-- The entry is one of those for the mask `m`. -/
def GnssSvIdConfig.Entry (svConfig : GnssSvIdConfig) (m : SvMask) (x : GnssSvIdSource) : Prop :=
  if GNSS_SV_CONFIG_ALL_BITS_ENABLED_MASK = svConfig.get m then
    x = ⟨GnssSvIdSource.sizeof, m.svType, 0⟩
  else ∃ i, (svConfig.get m).getLsbD i = true ∧
    x = ⟨GnssSvIdSource.sizeof, m.svType, m.initialSvId + i⟩

theorem mem_convertGnssSvIdMaskToList : x ∈ convertGnssSvIdMaskToList (svConfig.get m) svIds
      m.initialSvId m.svType ↔ x ∈ svIds ∨ svConfig.Entry m x := by
  unfold convertGnssSvIdMaskToList GnssSvIdConfig.Entry
  dsimp only
  split
  · rw [List.mem_append, List.mem_singleton]
  · rw [mem_listBits]
    refine or_congr_right (exists_congr fun i => and_congr_right fun _ => ?_)
    rw [Nat.zero_add, Nat.add_comm]

theorem mem_convertMask : x ∈ (convertMask svConfig config m).blacklistedSvIds ↔
    x ∈ config.blacklistedSvIds ∨ svConfig.Entry m x := by
  unfold convertMask
  split
  · exact mem_convertGnssSvIdMaskToList
  · rename_i hzero
    refine (or_iff_left ?_).symm
    unfold GnssSvIdConfig.Entry
    rw [not_not.mp hzero, if_neg (by decide)]
    rintro ⟨i, hi, -⟩
    exact absurd (BitVec.getLsbD_zero.symm.trans hi) Bool.false_ne_true

theorem mem_convertFromGnssSvIdConfig :
    x ∈ (convertFromGnssSvIdConfig svConfig config).blacklistedSvIds ↔
      x ∈ config.blacklistedSvIds ∨ ∃ m, svConfig.Entry m x := by
  unfold convertFromGnssSvIdConfig
  simp only [List.foldl_cons, List.foldl_nil]
  rw [mem_convertMask, mem_convertMask, mem_convertMask, mem_convertMask]
  constructor
  · rintro ((((h | h) | h) | h) | h)
    · exact .inl h
    · exact .inr ⟨.bds, h⟩
    · exact .inr ⟨.gal, h⟩
    · exact .inr ⟨.glo, h⟩
    · exact .inr ⟨.qzss, h⟩
  · rintro (h | ⟨m, h⟩)
    · exact .inl (.inl (.inl (.inl h)))
    · cases m with
      | bds => exact .inl (.inl (.inl (.inr h)))
      | gal => exact .inl (.inl (.inr h))
      | glo => exact .inl (.inr h)
      | qzss => exact .inr h

theorem mem_svIds : x ∈ svConfig.svIds ↔ ∃ m, svConfig.Entry m x :=
  mem_convertFromGnssSvIdConfig.trans (or_iff_right List.not_mem_nil)

/-- The constellation of an entry is that of its mask. -/
theorem GnssSvIdConfig.Entry.svMask (h : svConfig.Entry m x) :
    x.constellation.svMask = some m := by
  unfold GnssSvIdConfig.Entry at h
  split at h
  · rw [h]
    exact m.svMask_svType
  · obtain ⟨i, -, rfl⟩ := h
    exact m.svMask_svType

/-- The SVs that the entries for a mask name are those of its bits. -/
theorem exists_entry_names (hi : i < 64) :
    (∃ x, svConfig.Entry m x ∧ (x.svId = 0 ∨ x.svId = m.initialSvId + i)) ↔
      (svConfig.get m).getLsbD i = true := by
  have hpos : 0 < m.initialSvId := by cases m <;> decide
  unfold GnssSvIdConfig.Entry
  split
  · rename_i hall
    rw [← hall]
    exact iff_of_true ⟨_, rfl, .inl rfl⟩ (getLsbD_allBits hi)
  · constructor
    · rintro ⟨x, ⟨j, hj, rfl⟩, hx | hx⟩
      · exact absurd hx (Nat.ne_of_gt (Nat.add_pos_left hpos j))
      · obtain rfl := Nat.add_left_cancel hx
        exact hj
    · exact fun hbit => ⟨_, ⟨i, hbit, rfl⟩, .inr rfl⟩

/-- **The list of a config** names the SVs of its masks. -/
theorem listed_svIds (hi : i < 64) :
    Listed svConfig.svIds m i ↔ (svConfig.get m).getLsbD i = true := by
  rw [← exists_entry_names hi]
  constructor
  · rintro ⟨x, hx, hm, hid⟩
    obtain ⟨m', hentry⟩ := mem_svIds.mp hx
    obtain rfl := Option.some.inj (hentry.svMask.symm.trans hm)
    exact ⟨x, hentry, hid⟩
  · rintro ⟨x, hentry, hid⟩
    exact ⟨x, mem_svIds.mpr ⟨m, hentry⟩, hentry.svMask, hid⟩

/-- A mask that is not full is listed bit by bit. -/
theorem svId_of_not_full (hfull : svConfig.get m ≠ GNSS_SV_CONFIG_ALL_BITS_ENABLED_MASK)
    (hx : x ∈ svConfig.svIds) (hm : x.constellation.svMask = some m) :
    ∃ i, (svConfig.get m).getLsbD i = true ∧ x.svId = m.initialSvId + i := by
  obtain ⟨m', hentry⟩ := mem_svIds.mp hx
  obtain rfl := Option.some.inj (hentry.svMask.symm.trans hm)
  unfold GnssSvIdConfig.Entry at hentry
  rw [if_neg hfull.symm] at hentry
  obtain ⟨i, hbit, rfl⟩ := hentry
  exact ⟨i, hbit, rfl⟩

/-- A full mask is listed as SV id 0. -/
theorem svId_of_full (hfull : svConfig.get m = GNSS_SV_CONFIG_ALL_BITS_ENABLED_MASK)
    (hx : x ∈ svConfig.svIds) (hm : x.constellation.svMask = some m) : x.svId = 0 := by
  obtain ⟨m', hentry⟩ := mem_svIds.mp hx
  obtain rfl := Option.some.inj (hentry.svMask.symm.trans hm)
  unfold GnssSvIdConfig.Entry at hentry
  rw [if_pos hfull.symm] at hentry
  rw [hentry]

/-! ### Both conversions -/

/-- The list names all SVs of the constellation, or only SVs whose bit can be shifted in an `int`. -/
def Covered (l : List GnssSvIdSource) (m : SvMask) : Prop :=
  (∀ i < 64, Listed l m i) ∨ ∀ source ∈ l, source.Shiftable m

/-- The masks of the list are those of its SVs, and they give a list of the same SVs back, with SV id
0 for a full mask. -/
structure ListConverts (overshift : ℕ → BitVec 64) (l : List GnssSvIdSource) : Prop where
  masks : (convertToGnssSvIdConfig overshift l .zero).Represents (Listed l)
  list : SameSvs (convertToGnssSvIdConfig overshift l .zero).svIds l
  full : ∀ m, (convertToGnssSvIdConfig overshift l .zero).get m =
      GNSS_SV_CONFIG_ALL_BITS_ENABLED_MASK →
    ∀ x ∈ (convertToGnssSvIdConfig overshift l .zero).svIds, x.constellation.svMask = some m →
      x.svId = 0

/-- The list of the config gives its masks back. -/
def MasksConvert (overshift : ℕ → BitVec 64) (svConfig : GnssSvIdConfig) : Prop :=
  ∀ m, (convertToGnssSvIdConfig overshift svConfig.svIds .zero).get m = svConfig.get m

theorem listConverts_iff : ListConverts overshift l ↔
    (convertToGnssSvIdConfig overshift l .zero).Represents (Listed l) := by
  refine ⟨fun h => h.masks, fun h => ⟨h, fun m i hi => ?_, fun m hfull x => svId_of_full hfull⟩⟩
  exact (listed_svIds hi).trans (h m i hi)

theorem masksConvert_iff : MasksConvert overshift svConfig ↔
    (convertToGnssSvIdConfig overshift svConfig.svIds .zero).Represents (Listed svConfig.svIds) := by
  constructor
  · intro h m i hi
    rw [h m, listed_svIds hi]
  · intro h m
    refine BitVec.eq_of_getLsbD_eq fun i hi => Bool.eq_iff_iff.mpr ?_
    exact (h m i hi).trans (listed_svIds hi)

/-- The SV of bit 31 brings all SVs behind it along. -/
theorem getLsbD_shiftOne_sign (hi : i < 64) :
    (shiftOne overshift 31).getLsbD i = true ↔ 31 ≤ i := by
  have hbits : ∀ i : Fin 64, ((1#32 <<< 31).signExtend 64).getLsbD i = true ↔ 31 ≤ i.val := by decide
  unfold shiftOne
  rw [if_pos (by decide)]
  exact hbits ⟨i, hi⟩

/-- What a source that names one SV adds. -/
theorem getLsbD_addSource_of_shift (hm : source.constellation.svMask = some m)
    (hid : source.svId = m.initialSvId + n) (hn : n < 64)
    (hbit : (shiftOne overshift n).getLsbD i = true) :
    ((addSource overshift svConfig source).get m).getLsbD i = true := by
  have hpos : 0 < m.initialSvId := by cases m <;> decide
  rw [get_addSource hm, if_neg (by omega), if_neg (by omega), BitVec.getLsbD_or]
  have hsub : source.svId - m.initialSvId = n := by omega
  rw [hsub, hbit, Bool.or_true]

theorem getLsbD_addSource_of_all (hm : source.constellation.svMask = some m)
    (hid : source.svId = 0) (hi : i < 64) :
    ((addSource overshift svConfig source).get m).getLsbD i = true := by
  rw [get_addSource hm, if_pos hid]
  exact getLsbD_allBits hi

/-- All SVs are listed, so that every bit is set. -/
theorem getLsbD_convert_of_all (hall : ∀ i < 64, Listed l m i) (hi : i < 64) :
    ((convertToGnssSvIdConfig overshift l .zero).get m).getLsbD i = true := by
  -- the bits behind the sign come from the SV of bit 31
  obtain ⟨n, hn, hbit⟩ : ∃ n < 64, (shiftOne overshift n).getLsbD i = true := by
    by_cases hlow : i < 31
    · exact ⟨i, hi, (getLsbD_shiftOne hlow hi).mpr rfl⟩
    · exact ⟨31, by decide, (getLsbD_shiftOne_sign hi).mpr (Nat.not_lt.mp hlow)⟩
  obtain ⟨source, hmem, hm, hid⟩ := hall n hn
  refine getLsbD_convert_of_mem hi hmem fun c => ?_
  rcases hid with hid | hid
  · exact getLsbD_addSource_of_all hm hid hi
  · exact getLsbD_addSource_of_shift hm hid hn hbit

theorem represents_of_covered (h : ∀ m, Covered l m) :
    (convertToGnssSvIdConfig overshift l .zero).Represents (Listed l) := by
  intro m i hi
  rcases h m with hall | hshift
  · exact iff_of_true (getLsbD_convert_of_all hall hi) (hall i hi)
  · exact getLsbD_convert_of_shiftable hshift hi

/-- If the compiler makes all ones of the shifts that are too far, an SV behind bit 31 brings all SVs
along. -/
theorem covered_of_represents
    (h : (convertToGnssSvIdConfig (fun _ => GNSS_SV_CONFIG_ALL_BITS_ENABLED_MASK) l .zero).Represents
      (Listed l)) (m : SvMask) : Covered l m := by
  have hfar {source : GnssSvIdSource} {n : ℕ} (hmem : source ∈ l)
      (hm : source.constellation.svMask = some m) (hid : source.svId = m.initialSvId + n)
      (hn : 32 ≤ n) (hn' : n < 64) : ∀ i < 64, Listed l m i := by
    intro i hi
    refine (h m i hi).mp (getLsbD_convert_of_mem hi hmem fun c => ?_)
    refine getLsbD_addSource_of_shift hm hid hn' ?_
    unfold shiftOne
    rw [if_neg (by omega)]
    exact getLsbD_allBits hi
  by_contra hnot
  obtain ⟨hall, hshift⟩ := not_or.mp hnot
  refine hshift fun source hmem hm => ?_
  by_contra hrange
  rw [not_or, Nat.not_lt, Nat.not_le] at hrange
  obtain ⟨n, hn⟩ := Nat.exists_eq_add_of_le hrange.1
  rw [Nat.add_assoc] at hn
  by_cases hzero : n = 0
  · have hbit : Listed l m 32 := by
      refine (h m 32 (by decide)).mp (getLsbD_convert_of_mem (by decide) hmem fun c => ?_)
      refine getLsbD_addSource_of_shift hm hn (by omega) ?_
      rw [hzero]
      exact (getLsbD_shiftOne_sign (by decide)).mpr (by decide)
    obtain ⟨source', hmem', hm', hid' | hid'⟩ := hbit
    · exact hall fun i _ => ⟨source', hmem', hm', .inl hid'⟩
    · exact hall (hfar hmem' hm' hid' (by decide) (by decide))
  · exact hall (hfar hmem hm hn (by omega) (by omega))

/-- The mask is full, or it has none of the bits from 31 on. -/
theorem covered_svIds : Covered svConfig.svIds m ↔
    svConfig.get m = GNSS_SV_CONFIG_ALL_BITS_ENABLED_MASK ∨
      ∀ i < 64, (svConfig.get m).getLsbD i = true → i < 31 := by
  have hfull : (∀ i < 64, Listed svConfig.svIds m i) ↔
      svConfig.get m = GNSS_SV_CONFIG_ALL_BITS_ENABLED_MASK := by
    constructor
    · intro h
      refine BitVec.eq_of_getLsbD_eq fun i hi => ?_
      rw [(listed_svIds hi).mp (h i hi), getLsbD_allBits hi]
    · intro h i hi
      rw [listed_svIds hi, h]
      exact getLsbD_allBits hi
  unfold Covered
  rw [hfull]
  by_cases hall : svConfig.get m = GNSS_SV_CONFIG_ALL_BITS_ENABLED_MASK
  · exact iff_of_true (.inl hall) (.inl hall)
  · refine or_congr_right ⟨fun h i hi hbit => ?_, fun h x hx hm => ?_⟩
    · obtain ⟨x, hx, hm, hid⟩ := (listed_svIds hi).mpr hbit
      obtain ⟨j, -, hj⟩ := svId_of_not_full hall hx hm
      have hpos : 0 < m.initialSvId := by cases m <;> decide
      have hshift := h x hx hm
      omega
    · obtain ⟨j, hbit, hj⟩ := svId_of_not_full hall hx hm
      have hlow := h j (BitVec.lt_of_getLsbD hbit) hbit
      exact .inl (hj ▸ Nat.add_lt_add_left hlow _)

/-- **The round trips.**  Whatever the compiler makes of a shift of an `int` that is too far, a list
survives both conversions exactly if each constellation is listed as a whole or up to bit 30, and a
config exactly if each of its masks is full or has no bits behind that. -/
theorem roundTrip_iff (l : List GnssSvIdSource) (svConfig : GnssSvIdConfig) :
    ((∀ overshift, ListConverts overshift l) ↔ ∀ m, Covered l m) ∧
      ((∀ overshift, MasksConvert overshift svConfig) ↔
        ∀ m, svConfig.get m = GNSS_SV_CONFIG_ALL_BITS_ENABLED_MASK ∨
          ∀ i < 64, (svConfig.get m).getLsbD i = true → i < 31) := by
  have hlist (l : List GnssSvIdSource) :
      (∀ overshift, (convertToGnssSvIdConfig overshift l .zero).Represents (Listed l)) ↔
        ∀ m, Covered l m :=
    ⟨fun h => covered_of_represents (h _), fun h _ => represents_of_covered h⟩
  constructor
  · rw [← hlist]
    exact forall_congr' fun overshift => listConverts_iff
  · rw [← forall_congr' fun m => covered_svIds (m := m), ← hlist]
    exact forall_congr' fun overshift => masksConvert_iff

/-- SV 224 is the one of bit 31 of QZSS : SV 225 and all others behind it are blacklisted too. -/
theorem list_not_converted :
    (convertToGnssSvIdConfig (fun _ => 0) [⟨12, .QZSS, 224⟩] .zero).qzssBlacklistSvMask =
        0xFFFFFFFF80000000#64 ∧
      ¬ ListConverts (fun _ => 0) [⟨12, .QZSS, 224⟩] := by
  refine ⟨by decide, fun h => ?_⟩
  have hbit := (h.masks .qzss 32 (by decide)).mp (by decide)
  exact absurd hbit (by decide)

end

end GpsHal
