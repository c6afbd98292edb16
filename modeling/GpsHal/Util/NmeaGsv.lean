import GpsHal.Util.Nmea
import Mathlib.Data.List.Count
import Mathlib.Data.List.Nodup

/-!
# NMEA sentences : completeness of the satellites in view

The sentences of a group show the satellites that its second pass selects, four at a time, for as
many sentences as its first pass has counted.  The buffer is always large enough, so the list of
sentences is right exactly if both passes agree on every satellite.

## Main definitions

* `GsvComplete` : the sentences list the satellites of a report.
* `GnssSv.Agrees` : a satellite is shown with the signal that it was counted for.

## Main results

* `loc_nmea_generate_GSV_eq` : the sentences of a group.
* `gsvComplete_iff` : the sentences are complete exactly if both passes agree.
-/

namespace GpsHal

/-! ### The texts fit -/

theorem length_formatD_le (width : ℕ) {d : ℕ} {n : ℤ} (hd : 0 < d) (hn : n.natAbs < 10 ^ d) :
    (formatD width n).length ≤ max width (d + 1) := by
  have hlen := Nat.toDigits_length 10 n.natAbs d hd hn
  unfold formatD
  simp only
  split
  · simp only [List.length_cons, List.length_append, List.length_replicate]
    omega
  · simp only [List.length_append, List.length_replicate]
    omega

theorem length_formatD_ofNat_le (width : ℕ) {d n : ℕ} (hd : 0 < d) (hn : n < 10 ^ d) :
    (formatD width n).length ≤ max width d := by
  have hlen := Nat.toDigits_length 10 n d hd hn
  unfold formatD
  simp only
  split
  · omega
  · simp only [List.length_append, List.length_replicate, Int.natAbs_natCast]
    omega

theorem length_formatD_int_le (width : ℕ) (hw : width ≤ 11) (b : BitVec 32) :
    (formatD width b.toInt).length ≤ 11 := by
  have hb : b.toInt.natAbs < 10 ^ 10 := by
    have h1 := BitVec.toInt_lt (x := b)
    have h2 := BitVec.le_toInt (x := b)
    omega
  have hlen : (formatD width b.toInt).length ≤ max width 11 :=
    length_formatD_le width (by decide) hb
  omega

theorem ite_lt_of {c : Prop} [Decidable c] {a b n : ℕ} (ha : a < n) (hb : b < n) :
    (if c then a else b) < n := by
  split
  · exact ha
  · exact hb

theorem convert_signalType_to_signalId_lt (signalType : GnssSignalTypeMask) :
    convert_signalType_to_signalId signalType < 16 := by
  unfold convert_signalType_to_signalId
  iterate 15 refine ite_lt_of (by decide) ?_
  exact ite_lt_of (by decide) (by decide)

theorem length_gsvSignal {signalId : ℕ} (h : signalId < 16) : (gsvSignal signalId).length = 2 := by
  unfold gsvSignal formatX
  rw [Nat.toDigits_of_lt_base h]
  rfl

theorem length_gsvHeader_le {talker : List Char} {sentenceCount sentenceNumber svCount : ℕ}
    (ht : talker.length = 2) (hc : sentenceCount < 100) (hn : sentenceNumber < 100)
    (hs : svCount < 1000) :
    (gsvHeader talker sentenceCount sentenceNumber svCount).length ≤ 16 := by
  have h1 := length_formatD_ofNat_le 1 (d := 2) (by decide) hc
  have h2 := length_formatD_ofNat_le 1 (d := 2) (by decide) hn
  have h3 := length_formatD_ofNat_le 2 (d := 3) (by decide) hs
  unfold gsvHeader
  simp only [List.length_cons, List.length_append, List.length_nil, ht]
  omega

/-- What a sentence shows of one satellite. -/
def gsvBlock (svIdOffset : BitVec 32) (sv : GnssSv) : List Char :=
  gsvPosition svIdOffset sv ++ gsvStrength sv

/-- The ids that the sentences show have at most five digits. -/
def SvIdFits (svIdOffset : BitVec 32) : Prop :=
  ∀ svId : BitVec 16, (svId.setWidth 32 + svIdOffset).toInt.natAbs < 10 ^ 5

theorem length_gsvBlock_le {svIdOffset : BitVec 32} (h : SvIdFits svIdOffset) (sv : GnssSv) :
    (gsvBlock svIdOffset sv).length ≤ 43 := by
  have h1 := length_formatD_le 2 (by decide) (h sv.svId)
  have h2 := length_formatD_int_le 2 (by decide) sv.elevation
  have h3 := length_formatD_int_le 3 (by decide) sv.azimuth
  have h4 : (gsvStrength sv).length ≤ 11 := by
    unfold gsvStrength
    split
    · exact length_formatD_int_le 2 (by decide) _
    · exact Nat.zero_le _
  unfold gsvBlock gsvPosition
  simp only [List.length_cons, List.length_append, List.length_nil]
  omega

/-! ### The sentences of one group -/

/-- The satellites of a report with their indices. -/
def GnssSvNotification.indexed (svNotify : GnssSvNotification) : List (ℕ × GnssSv) :=
  (List.range svNotify.gnssSvs.length).zip svNotify.gnssSvs

/-- The satellites that a group shows. -/
def loc_nmea_sv_meta.shown (m : loc_nmea_sv_meta) (svs : List (ℕ × GnssSv)) : List (ℕ × GnssSv) :=
  svs.filter fun p => m.shows p.2

/-- The sentence of a group that shows the given satellites. -/
def gsvSentence (m : loc_nmea_sv_meta) (sentenceCount sentenceNumber : ℕ)
    (svs : List (ℕ × GnssSv)) : GsvSentence :=
  ⟨m.talker, sentenceCount, sentenceNumber, m.svCount, svs.map Prod.fst, gsvSignal m.signalId,
    gsvHeader m.talker sentenceCount sentenceNumber m.svCount ++
      svs.flatMap (fun p => gsvBlock m.svIdOffset p.2) ++ gsvSignal m.signalId⟩

theorem length_flatMap_gsvBlock_le {svIdOffset : BitVec 32} (h : SvIdFits svIdOffset)
    (svs : List (ℕ × GnssSv)) :
    (svs.flatMap fun p => gsvBlock svIdOffset p.2).length ≤ 43 * svs.length := by
  induction svs with
  | nil => exact Nat.le_refl _
  | cons p svs ih =>
    have := length_gsvBlock_le h p.2
    simp only [List.flatMap_cons, List.length_append, List.length_cons]
    omega

section

variable {m : loc_nmea_sv_meta} {bufSize : ℕ}

theorem shown_cons (p : ℕ × GnssSv) (svs : List (ℕ × GnssSv)) :
    m.shown (p :: svs) = if m.shows p.2 then p :: m.shown svs else m.shown svs := by
  unfold loc_nmea_sv_meta.shown
  rw [List.filter_cons]

/-- As long as there is room for what may follow, the inner loop shows the next satellites. -/
theorem putBlocks_eq (hm : SvIdFits m.svIdOffset) (svs : List (ℕ × GnssSv)) (text : List Char)
    (blocks : List ℕ) (hroom : text.length + 43 * (4 - blocks.length) < bufSize) :
    ∃ rest, putBlocks bufSize m text blocks svs =
        some (text ++ ((m.shown svs).take (4 - blocks.length)).flatMap
            (fun p => gsvBlock m.svIdOffset p.2),
          blocks ++ ((m.shown svs).take (4 - blocks.length)).map Prod.fst, rest) ∧
      m.shown rest = (m.shown svs).drop (4 - blocks.length) := by
  induction svs generalizing text blocks with
  | nil => exact ⟨[], by simp [putBlocks, loc_nmea_sv_meta.shown], by simp [loc_nmea_sv_meta.shown]⟩
  | cons p svs ih =>
    obtain ⟨k, sv⟩ := p
    unfold putBlocks
    rcases Nat.lt_or_ge blocks.length 4 with hlt | hge
    · rw [if_pos hlt, shown_cons]
      obtain ⟨c, hc⟩ : ∃ c, 4 - blocks.length = c + 1 := ⟨3 - blocks.length, by omega⟩
      rcases Bool.eq_false_or_eq_true (m.shows sv) with hs | hs
      · rw [if_pos hs, if_pos hs]
        have hblock : ((text ++ gsvPosition m.svIdOffset sv) ++ gsvStrength sv) =
            text ++ gsvBlock m.svIdOffset sv := List.append_assoc _ _ _
        have hle := length_gsvBlock_le hm sv
        have hpos : (gsvPosition m.svIdOffset sv).length ≤ (gsvBlock m.svIdOffset sv).length := by
          unfold gsvBlock
          simp
        simp only [hblock]
        have h1 : ¬ (text ++ gsvPosition m.svIdOffset sv).length ≥ bufSize := by
          rw [List.length_append]
          omega
        have h2 : ¬ (text ++ gsvBlock m.svIdOffset sv).length ≥ bufSize := by
          rw [List.length_append]
          omega
        rw [if_neg h1, if_neg h2]
        have hc' : 4 - (blocks ++ [k]).length = c := by
          rw [List.length_append, List.length_singleton]
          omega
        obtain ⟨rest, heq, hrest⟩ := ih (text ++ gsvBlock m.svIdOffset sv) (blocks ++ [k]) (by
          rw [hc', List.length_append]
          omega)
        refine ⟨rest, ?_, ?_⟩
        · rw [heq, hc', hc, List.take_succ_cons, List.flatMap_cons, List.map_cons,
            List.append_assoc, List.append_assoc, List.singleton_append]
        · rw [hrest, hc', hc, List.drop_succ_cons]
      · rw [if_neg (by rw [hs]; decide), if_neg (by simp only [hs]; decide)]
        exact ih text blocks hroom
    · rw [if_neg (Nat.not_lt.mpr hge)]
      have hc : 4 - blocks.length = 0 := by omega
      refine ⟨(k, sv) :: svs, ?_, ?_⟩
      · rw [hc]
        simp
      · rw [hc, List.drop_zero]

/-- The outer loop shows four satellites in each of the sentences that are left. -/
theorem putSentences_eq (hm : SvIdFits m.svIdOffset) (ht : m.talker.length = 2)
    (hid : m.signalId < 16) (hcount : m.svCount < 1000) {sentenceCount : ℕ}
    (hsc : sentenceCount < 100) (left number : ℕ) (hleft : number + left ≤ sentenceCount + 1)
    (svs : List (ℕ × GnssSv)) :
    putSentences NMEA_SENTENCE_MAX_LENGTH m sentenceCount left number svs =
      (List.range left).map fun i =>
        gsvSentence m sentenceCount (number + i) (((m.shown svs).drop (4 * i)).take 4) := by
  induction left generalizing number svs with
  | zero => rfl
  | succ left ih =>
    have hnumber : number < 100 := by omega
    have hheader := length_gsvHeader_le ht hsc hnumber hcount
    have hmax : NMEA_SENTENCE_MAX_LENGTH = 200 := rfl
    have hroom : (gsvHeader m.talker sentenceCount number m.svCount).length +
        43 * (4 - ([] : List ℕ).length) < NMEA_SENTENCE_MAX_LENGTH := by
      rw [hmax, List.length_nil]
      omega
    obtain ⟨rest, heq, hrest⟩ := putBlocks_eq hm svs _ [] hroom
    have hflat := length_flatMap_gsvBlock_le hm ((m.shown svs).take 4)
    have htake := List.length_take_le 4 (m.shown svs)
    have hsignal : (gsvSignal m.signalId).take (NMEA_SENTENCE_MAX_LENGTH -
        (gsvHeader m.talker sentenceCount number m.svCount ++ ((m.shown svs).take 4).flatMap
          (fun p => gsvBlock m.svIdOffset p.2)).length - 1) = gsvSignal m.signalId := by
      apply List.take_of_length_le
      rw [length_gsvSignal hid, hmax, List.length_append]
      omega
    unfold putSentences
    simp only [heq, List.length_nil, Nat.sub_zero, List.nil_append]
    rw [if_neg (by rw [hmax]; omega), hsignal, ih (number + 1) (by omega), List.range_succ_eq_map,
      List.map_cons, List.map_map]
    refine congrArg₂ List.cons rfl (List.map_congr_left fun i _ => ?_)
    show gsvSentence m sentenceCount (number + 1 + i) _ =
      gsvSentence m sentenceCount (number + (i + 1)) _
    rw [hrest, List.length_nil, Nat.sub_zero, List.drop_drop, Nat.add_assoc number 1 i,
      Nat.add_comm 1 i, Nat.mul_succ, Nat.add_comm 4]

/-- The number of sentences for so many satellites. -/
def gsvSentenceCount (svCount : ℕ) : ℕ := svCount / 4 + (if svCount % 4 ≠ 0 then 1 else 0)

theorem lt_gsvSentenceCount {svCount i : ℕ} : i < gsvSentenceCount svCount ↔ 4 * i < svCount := by
  unfold gsvSentenceCount
  split <;> omega

theorem le_four_mul_gsvSentenceCount (svCount : ℕ) : svCount ≤ 4 * gsvSentenceCount svCount := by
  unfold gsvSentenceCount
  split <;> omega

theorem gsvSentenceCount_lt {svCount : ℕ} (h : svCount ≤ GNSS_SV_MAX) :
    gsvSentenceCount svCount < 100 := by
  have hmax : GNSS_SV_MAX = 176 := rfl
  unfold gsvSentenceCount
  split <;> omega

theorem loc_nmea_generate_GSV_eq {svNotify : GnssSvNotification} (hm : SvIdFits m.svIdOffset)
    (ht : m.talker.length = 2) (hid : m.signalId < 16) (hcount : m.svCount ≤ GNSS_SV_MAX) :
    loc_nmea_generate_GSV svNotify NMEA_SENTENCE_MAX_LENGTH m =
      (List.range (gsvSentenceCount m.svCount)).map fun i =>
        gsvSentence m (gsvSentenceCount m.svCount) (1 + i)
          (((m.shown svNotify.indexed).drop (4 * i)).take 4) := by
  have hmax : GNSS_SV_MAX = 176 := rfl
  unfold loc_nmea_generate_GSV
  split
  · rename_i hzero
    rw [Nat.le_zero.mp hzero]
    rfl
  · exact putSentences_eq hm ht hid (by omega) (gsvSentenceCount_lt hcount) _ _ (by
      rw [Nat.add_comm]
      exact Nat.le_refl _) _

end

/-! ### Counting -/

/-- The signal that a constellation has by default. -/
def firstSignal : GnssSvType → GnssSignalTypeMask
  | .GPS => GNSS_SIGNAL_GPS_L1CA
  | .GLONASS => GNSS_SIGNAL_GLONASS_G1
  | .GALILEO => GNSS_SIGNAL_GALILEO_E1
  | .QZSS => GNSS_SIGNAL_QZSS_L1CA
  | .BEIDOU => GNSS_SIGNAL_BEIDOU_B1I
  | .NAVIC => GNSS_SIGNAL_NAVIC_L5
  | .UNKNOWN | .SBAS => 0

/-- The signal that is counted apart. -/
def secondSignal : GnssSvType → Option GnssSignalTypeMask
  | .GPS => some GNSS_SIGNAL_GPS_L5
  | .GLONASS => some GNSS_SIGNAL_GLONASS_G2
  | .GALILEO => some GNSS_SIGNAL_GALILEO_E5A
  | .QZSS => some GNSS_SIGNAL_QZSS_L5
  | .BEIDOU => some GNSS_SIGNAL_BEIDOU_B2AI
  | .NAVIC | .UNKNOWN | .SBAS => none

/-- The signal that the first pass counts a satellite for. -/
def GnssSv.countedSignal (sv : GnssSv) : GnssSignalTypeMask :=
  if secondSignal sv.type = some sv.gnssSignalTypeMask then sv.gnssSignalTypeMask
  else firstSignal sv.type

/-- The satellite is counted for the group. -/
def countedIn (group : GnssSvType × GnssSignalTypeMask) (sv : GnssSv) : Bool :=
  sv.type == group.1 && sv.countedSignal == group.2

/-- The talker of a constellation. -/
def talkerOf : GnssSvType → List Char
  | .GPS => ['G', 'P']
  | .GLONASS => ['G', 'L']
  | .GALILEO => ['G', 'A']
  | .QZSS => ['G', 'Q']
  | .BEIDOU => ['G', 'B']
  | .NAVIC => ['G', 'I']
  | .UNKNOWN | .SBAS => []

def svIdOffsetOf : GnssSvType → BitVec 32
  | .GLONASS => GLONASS_SV_ID_OFFSET
  | .QZSS => QZSS_SV_ID_OFFSET
  | _ => 0

/-- What `loc_nmea_sv_meta_init` takes from the counts. -/
def svCountOf (c : loc_sv_cache_info) (group : GnssSvType × GnssSignalTypeMask) : ℕ :=
  ((loc_nmea_sv_meta_init c group.1 group.2).map loc_nmea_sv_meta.svCount).getD 0

theorem loc_nmea_sv_meta_init_eq (c : loc_sv_cache_info) {group : GnssSvType × GnssSignalTypeMask}
    (hg : group ∈ gsvGroups) :
    loc_nmea_sv_meta_init c group.1 group.2 = some ⟨talkerOf group.1, group.1, svCountOf c group,
      svIdOffsetOf group.1, convert_signalType_to_signalId group.2⟩ := by
  simp only [gsvGroups, List.mem_cons, List.not_mem_nil, or_false] at hg
  rcases hg with rfl | rfl | rfl | rfl | rfl | rfl | rfl | rfl | rfl | rfl | rfl <;> rfl

/-- Any other signal counts as the default. -/
theorem count_of_ne_second (c : loc_sv_cache_info) {sv : GnssSv}
    (h : secondSignal sv.type ≠ some sv.gnssSignalTypeMask) :
    c.count sv = c.count ⟨sv.svId, sv.type, sv.cN0Dbhz, sv.elevation, sv.azimuth, 0⟩ := by
  obtain ⟨svId, type, cN0Dbhz, elevation, azimuth, mask⟩ := sv
  unfold loc_sv_cache_info.count
  cases type with
  | GPS | GLONASS | GALILEO | QZSS | BEIDOU =>
    simp only
    rw [if_neg fun heq => h (congrArg some heq)]
    rfl
  | NAVIC | UNKNOWN | SBAS => rfl

theorem svCountOf_count (c : loc_sv_cache_info) (sv : GnssSv)
    {group : GnssSvType × GnssSignalTypeMask} (hg : group ∈ gsvGroups) :
    svCountOf (c.count sv) group = svCountOf c group + (if countedIn group sv then 1 else 0) := by
  have hcases := hg
  simp only [gsvGroups, List.mem_cons, List.not_mem_nil, or_false] at hcases
  unfold countedIn GnssSv.countedSignal
  by_cases h : secondSignal sv.type = some sv.gnssSignalTypeMask
  · rw [if_pos h]
    obtain ⟨svId, type, cN0Dbhz, elevation, azimuth, mask⟩ := sv
    cases type <;> cases h <;>
      rcases hcases with rfl | rfl | rfl | rfl | rfl | rfl | rfl | rfl | rfl | rfl | rfl <;> rfl
  · rw [if_neg h, count_of_ne_second c h]
    obtain ⟨svId, type, cN0Dbhz, elevation, azimuth, mask⟩ := sv
    cases type <;>
      rcases hcases with rfl | rfl | rfl | rfl | rfl | rfl | rfl | rfl | rfl | rfl | rfl <;> rfl

theorem svCountOf_foldl (svs : List GnssSv) (c : loc_sv_cache_info)
    {group : GnssSvType × GnssSignalTypeMask} (hg : group ∈ gsvGroups) :
    svCountOf (svs.foldl loc_sv_cache_info.count c) group =
      svCountOf c group + svs.countP (countedIn group) := by
  induction svs generalizing c with
  | nil => rfl
  | cons sv svs ih =>
    rw [List.foldl_cons, ih (c.count sv), svCountOf_count c sv hg, List.countP_cons, Nat.add_assoc,
      Nat.add_comm (List.countP _ _)]

/-! ### The sentences of a report -/

/-- Pieces of one length, one after the other, are the start of the list. -/
theorem flatMap_chunks {α : Type*} (l : List α) (width count : ℕ) :
    ((List.range count).flatMap fun i => (l.drop (width * i)).take width) =
      l.take (width * count) := by
  induction count with
  | zero => simp
  | succ count ih =>
    rw [List.range_succ, List.flatMap_append, ih, List.flatMap_singleton, Nat.mul_succ,
      List.take_add]

theorem svIdFits_of_mem :
    ∀ d ∈ [0, GLONASS_SV_ID_OFFSET, QZSS_SV_ID_OFFSET], SvIdFits d := by
  intro d hd svId
  have hlt := svId.isLt
  have hnat : (svId.setWidth 32 + d).toNat = (svId.toNat + d.toNat) % 2 ^ 32 := by
    rw [BitVec.toNat_add, BitVec.toNat_setWidth]
    omega
  have h0 : (0 : BitVec 32).toNat = 0 := rfl
  have h1 : GLONASS_SV_ID_OFFSET.toNat = 64 := rfl
  have h2 : QZSS_SV_ID_OFFSET.toNat = 2 ^ 32 - 192 := rfl
  rw [BitVec.toInt_eq_toNat_cond, hnat]
  simp only [List.mem_cons, List.not_mem_nil, or_false] at hd
  rcases hd with rfl | rfl | rfl
  · split <;> omega
  · split <;> omega
  · split <;> omega

theorem svIdFits_svIdOffsetOf (svType : GnssSvType) : SvIdFits (svIdOffsetOf svType) := by
  apply svIdFits_of_mem
  cases svType <;> decide

/-- What `loc_nmea_sv_meta_init` makes of a group. -/
def gsvMeta (svNotify : GnssSvNotification) (group : GnssSvType × GnssSignalTypeMask) :
    loc_nmea_sv_meta :=
  ⟨talkerOf group.1, group.1, svNotify.gnssSvs.countP (countedIn group), svIdOffsetOf group.1,
    convert_signalType_to_signalId group.2⟩

/-- The satellites that a group shows. -/
def gsvShown (svNotify : GnssSvNotification) (group : GnssSvType × GnssSignalTypeMask) :
    List (ℕ × GnssSv) :=
  (gsvMeta svNotify group).shown svNotify.indexed

/-- The sentences of a group. -/
def gsvSentences (svNotify : GnssSvNotification) (group : GnssSvType × GnssSignalTypeMask) :
    List GsvSentence :=
  let sentenceCount := gsvSentenceCount (gsvMeta svNotify group).svCount
  (List.range sentenceCount).map fun i =>
    gsvSentence (gsvMeta svNotify group) sentenceCount (1 + i)
      (((gsvShown svNotify group).drop (4 * i)).take 4)

theorem talkerOf_length {group : GnssSvType × GnssSignalTypeMask} (hg : group ∈ gsvGroups) :
    (talkerOf group.1).length = 2 := by
  revert hg
  revert group
  decide

theorem loc_nmea_generate_sv_eq (svNotify : GnssSvNotification) :
    loc_nmea_generate_sv svNotify = gsvGroups.flatMap (gsvSentences svNotify) := by
  unfold loc_nmea_generate_sv
  refine List.flatMap_congr fun group hg => ?_
  have hcount : svCountOf (svNotify.gnssSvs.foldl loc_sv_cache_info.count .zero) group =
      svNotify.gnssSvs.countP (countedIn group) := by
    rw [svCountOf_foldl _ _ hg]
    have hzero : ∀ g ∈ gsvGroups, svCountOf .zero g = 0 := by decide
    rw [hzero group hg, Nat.zero_add]
  simp only [loc_nmea_sv_meta_init_eq _ hg, hcount]
  exact loc_nmea_generate_GSV_eq (m := gsvMeta svNotify group) (svIdFits_svIdOffsetOf _)
    (talkerOf_length hg) (convert_signalType_to_signalId_lt _)
    (Nat.le_trans List.countP_le_length svNotify.count_le)

/-! ### Complete sentences -/

/-- The constellations that are listed. -/
def GnssSvType.listed : GnssSvType → Bool
  | .GPS | .GLONASS | .GALILEO | .QZSS | .BEIDOU | .NAVIC => true
  | .UNKNOWN | .SBAS => false

/-- The signal id of the signal that a satellite is reported with. -/
def GnssSv.signalId (sv : GnssSv) : ℕ :=
  match reportedSignal sv with
  | some signalType => convert_signalType_to_signalId signalType
  | none => 0

/-- The sentences of one talker and signal. -/
def gsvGroup (out : List GsvSentence) (talker signal : List Char) : List GsvSentence :=
  out.filter fun s => s.talker == talker && s.signal == signal

/-- The indices of the satellites that the sentences list. -/
def gsvListed (out : List GsvSentence) : List ℕ := out.flatMap GsvSentence.blocks

/-- The fields of a group's sentences agree with each other. -/
structure GsvGroupComplete (sentences : List GsvSentence) : Prop where
  sentenceCount : ∀ s ∈ sentences, s.sentenceCount = sentences.length
  sentenceNumber : sentences.map GsvSentence.sentenceNumber = List.range' 1 sentences.length
  blocks : ∀ s ∈ sentences, 1 ≤ s.blocks.length ∧ s.blocks.length ≤ 4
  svCount : ∀ s ∈ sentences, s.svCount = (gsvListed sentences).length

/-- The sentences list each satellite of the report once, in the group of its talker and signal, and
each group is complete. -/
structure GsvComplete (svNotify : GnssSvNotification) (out : List GsvSentence) : Prop where
  once : ∀ p ∈ svNotify.indexed, p.2.type.listed = true → (gsvListed out).count p.1 = 1
  grouped : ∀ p ∈ svNotify.indexed, p.2.type.listed = true →
    (gsvListed (gsvGroup out (talkerOf p.2.type) (gsvSignal p.2.signalId))).count p.1 = 1
  group : ∀ talker signal, GsvGroupComplete (gsvGroup out talker signal)

/-- Both passes take the satellite for the same signal. -/
def GnssSv.Agrees (sv : GnssSv) : Prop :=
  sv.signalId = convert_signalType_to_signalId sv.countedSignal

instance (sv : GnssSv) : Decidable sv.Agrees := inferInstanceAs (Decidable (_ = _))

/-! ### Groups -/

/-- What the sentences of a group have in common. -/
def groupKey (group : GnssSvType × GnssSignalTypeMask) : List Char × List Char :=
  (talkerOf group.1, gsvSignal (convert_signalType_to_signalId group.2))

theorem pairwise_groupKey : gsvGroups.Pairwise fun g g' => groupKey g ≠ groupKey g' := by decide

theorem eq_of_groupKey_eq {g g' : GnssSvType × GnssSignalTypeMask} (hg : g ∈ gsvGroups)
    (hg' : g' ∈ gsvGroups) (h : groupKey g = groupKey g') : g = g' := by
  have key : ∀ a ∈ gsvGroups, ∀ b ∈ gsvGroups, groupKey a = groupKey b → a = b := by decide
  exact key g hg g' hg' h

theorem listed_of_mem {g : GnssSvType × GnssSignalTypeMask} (hg : g ∈ gsvGroups) :
    g.1.listed = true := by
  have key : ∀ a ∈ gsvGroups, a.1.listed = true := by decide
  exact key g hg

theorem first_or_second {g : GnssSvType × GnssSignalTypeMask} (hg : g ∈ gsvGroups) :
    g.2 = firstSignal g.1 ∨ secondSignal g.1 = some g.2 := by
  have key : ∀ a ∈ gsvGroups, a.2 = firstSignal a.1 ∨ secondSignal a.1 = some a.2 := by decide
  exact key g hg

theorem first_mem {svType : GnssSvType} (h : svType.listed = true) :
    (svType, firstSignal svType) ∈ gsvGroups := by
  cases svType with
  | GPS | GLONASS | GALILEO | QZSS | BEIDOU | NAVIC => decide
  | UNKNOWN | SBAS => cases h

theorem second_mem {svType : GnssSvType} {signal : GnssSignalTypeMask}
    (h : secondSignal svType = some signal) : (svType, signal) ∈ gsvGroups := by
  cases svType with
  | GPS | GLONASS | GALILEO | QZSS | BEIDOU =>
    cases h
    decide
  | NAVIC | UNKNOWN | SBAS => cases h

theorem counted_mem {sv : GnssSv} (h : sv.type.listed = true) :
    (sv.type, sv.countedSignal) ∈ gsvGroups := by
  unfold GnssSv.countedSignal
  split
  · rename_i hsecond
    exact second_mem hsecond
  · exact first_mem h

theorem gsvSignal_inj {i j : ℕ} (hi : i < 16) (hj : j < 16) (h : gsvSignal i = gsvSignal j) :
    i = j := by
  have key : ∀ a < 16, ∀ b < 16, gsvSignal a = gsvSignal b → a = b := by decide
  exact key i hi j hj h

theorem talkerOf_inj {t t' : GnssSvType} (ht : t.listed = true) (ht' : t'.listed = true)
    (h : talkerOf t = talkerOf t') : t = t' := by
  revert h ht ht'
  cases t <;> cases t' <;> decide

theorem signalId_lt (sv : GnssSv) : sv.signalId < 16 := by
  unfold GnssSv.signalId
  split
  · exact convert_signalType_to_signalId_lt _
  · decide

theorem reportedSignal_eq {sv : GnssSv} (h : sv.type.listed = true) :
    reportedSignal sv = some (if 0 = sv.gnssSignalTypeMask then firstSignal sv.type
      else sv.gnssSignalTypeMask) := by
  unfold reportedSignal
  split
  · cases htype : sv.type with
    | GPS | GLONASS | GALILEO | QZSS | BEIDOU | NAVIC => rfl
    | UNKNOWN | SBAS =>
      rw [htype] at h
      cases h
  · rfl

/-- A group shows the satellites of its constellation that are reported with its signal id. -/
theorem shows_iff {svNotify : GnssSvNotification} {group : GnssSvType × GnssSignalTypeMask}
    (hg : group ∈ gsvGroups) (sv : GnssSv) :
    (gsvMeta svNotify group).shows sv = true ↔
      sv.type = group.1 ∧ sv.signalId = convert_signalType_to_signalId group.2 := by
  have hlisted := listed_of_mem hg
  unfold loc_nmea_sv_meta.shows GnssSv.signalId gsvMeta
  cases hr : reportedSignal sv with
  | some signalType =>
    simp only [Bool.and_eq_true, beq_iff_eq]
    exact and_congr eq_comm eq_comm
  | none =>
    simp only [Bool.false_eq_true, false_iff]
    rintro ⟨htype, -⟩
    rw [reportedSignal_eq (htype ▸ hlisted)] at hr
    cases hr

section

variable {svNotify : GnssSvNotification} {group : GnssSvType × GnssSignalTypeMask}

theorem map_fst_indexed : svNotify.indexed.map Prod.fst = List.range svNotify.gnssSvs.length :=
  List.map_fst_zip (by rw [List.length_range])

theorem map_snd_indexed : svNotify.indexed.map Prod.snd = svNotify.gnssSvs :=
  List.map_snd_zip (by rw [List.length_range])

theorem nodup_indexed : (svNotify.indexed.map Prod.fst).Nodup := by
  rw [map_fst_indexed]
  exact List.nodup_range

theorem nodup_gsvShown : ((gsvShown svNotify group).map Prod.fst).Nodup :=
  List.Nodup.sublist (List.Sublist.map _ List.filter_sublist) nodup_indexed

theorem length_gsvShown :
    (gsvShown svNotify group).length =
      svNotify.gnssSvs.countP (gsvMeta svNotify group).shows := by
  unfold gsvShown loc_nmea_sv_meta.shown
  rw [← List.countP_eq_length_filter]
  conv_rhs => rw [← map_snd_indexed, List.countP_map]
  rfl

theorem mem_gsvShown {p : ℕ × GnssSv} (hg : group ∈ gsvGroups) :
    p ∈ gsvShown svNotify group ↔ p ∈ svNotify.indexed ∧ p.2.type = group.1 ∧
      p.2.signalId = convert_signalType_to_signalId group.2 := by
  unfold gsvShown loc_nmea_sv_meta.shown
  rw [List.mem_filter, shows_iff hg]

/-- An index belongs to one satellite. -/
theorem eq_of_fst_eq {p q : ℕ × GnssSv} (hp : p ∈ svNotify.indexed) (hq : q ∈ svNotify.indexed)
    (h : p.1 = q.1) : p = q :=
  List.inj_on_of_nodup_map nodup_indexed hp hq h

/-- A group lists the first satellites that it shows. -/
theorem gsvListed_gsvSentences : gsvListed (gsvSentences svNotify group) =
    ((gsvShown svNotify group).take
      (4 * gsvSentenceCount (gsvMeta svNotify group).svCount)).map Prod.fst := by
  unfold gsvListed gsvSentences
  rw [List.flatMap_map, ← flatMap_chunks, List.map_flatMap]
  rfl

theorem nodup_gsvListed_gsvSentences : (gsvListed (gsvSentences svNotify group)).Nodup := by
  rw [gsvListed_gsvSentences]
  exact List.Nodup.sublist (List.Sublist.map _ (List.take_sublist _ _)) nodup_gsvShown

theorem mem_gsvListed_gsvSentences {k : ℕ} (h : k ∈ gsvListed (gsvSentences svNotify group)) :
    ∃ p ∈ gsvShown svNotify group, p.1 = k := by
  rw [gsvListed_gsvSentences] at h
  obtain ⟨p, hp, hk⟩ := List.mem_map.mp h
  exact ⟨p, List.mem_of_mem_take hp, hk⟩

theorem gsvListed_flatMap (groups : List (GnssSvType × GnssSignalTypeMask)) :
    gsvListed (groups.flatMap (gsvSentences svNotify)) =
      groups.flatMap fun g => gsvListed (gsvSentences svNotify g) :=
  List.flatMap_assoc

/-- No satellite is ever listed twice: it is shown by one group only. -/
theorem nodup_gsvListed : (gsvListed (loc_nmea_generate_sv svNotify)).Nodup := by
  rw [loc_nmea_generate_sv_eq, gsvListed_flatMap, List.nodup_flatMap]
  refine ⟨fun g _ => nodup_gsvListed_gsvSentences, ?_⟩
  refine pairwise_groupKey.imp_of_mem fun {g g'} hg hg' hne => ?_
  intro k hk hk'
  obtain ⟨p, hp, rfl⟩ := mem_gsvListed_gsvSentences hk
  obtain ⟨q, hq, hqp⟩ := mem_gsvListed_gsvSentences hk'
  obtain ⟨hpi, hpt, hps⟩ := (mem_gsvShown hg).mp hp
  obtain ⟨hqi, hqt, hqs⟩ := (mem_gsvShown hg').mp hq
  have heq : q = p := eq_of_fst_eq hqi hpi hqp
  rw [heq] at hqt hqs
  apply hne
  unfold groupKey
  rw [← hpt, ← hps, hqt, hqs]

theorem key_of_mem_gsvSentences {s : GsvSentence} (h : s ∈ gsvSentences svNotify group) :
    (s.talker, s.signal) = groupKey group := by
  unfold gsvSentences at h
  obtain ⟨i, -, rfl⟩ := List.mem_map.mp h
  rfl

theorem filter_flatMap_eq {α β : Type*} (f : α → List β) (q : β → Bool) (l : List α) :
    (l.flatMap f).filter q = l.flatMap fun a => (f a).filter q := by
  induction l with
  | nil => rfl
  | cons a l ih => rw [List.flatMap_cons, List.flatMap_cons, List.filter_append, ih]

/-- Sentences of one talker and signal come from one group. -/
theorem gsvGroup_gsvSentences (talker signal : List Char) :
    gsvGroup (gsvSentences svNotify group) talker signal =
      if groupKey group = (talker, signal) then gsvSentences svNotify group else [] := by
  unfold gsvGroup
  split
  · rename_i hkey
    refine List.filter_eq_self.mpr fun s hs => ?_
    have hk := (key_of_mem_gsvSentences hs).trans hkey
    simp only [Prod.mk.injEq] at hk
    simp [hk.1, hk.2]
  · rename_i hkey
    refine List.filter_eq_nil_iff.mpr fun s hs hq => hkey ?_
    simp only [Bool.and_eq_true, beq_iff_eq] at hq
    rw [← key_of_mem_gsvSentences hs, hq.1, hq.2]

theorem flatMap_ite_of_nodup {α β : Type*} [DecidableEq α] {a : α} (f : α → List β) {l : List α}
    (hnd : l.Nodup) (ha : a ∈ l) : (l.flatMap fun x => if x = a then f x else []) = f a := by
  induction l with
  | nil => cases ha
  | cons b l ih =>
    obtain ⟨hb, hl⟩ := List.nodup_cons.mp hnd
    rw [List.flatMap_cons]
    rcases List.mem_cons.mp ha with rfl | hmem
    · rw [if_pos rfl, List.flatMap_eq_nil_iff.mpr, List.append_nil]
      intro x hx
      rw [if_neg]
      rintro rfl
      exact hb hx
    · rw [if_neg, List.nil_append, ih hl hmem]
      rintro rfl
      exact hb hmem

theorem nodup_gsvGroups : gsvGroups.Nodup := by decide

theorem gsvGroup_eq (hg : group ∈ gsvGroups) :
    gsvGroup (loc_nmea_generate_sv svNotify) (groupKey group).1 (groupKey group).2 =
      gsvSentences svNotify group := by
  rw [loc_nmea_generate_sv_eq, gsvGroup, filter_flatMap_eq]
  rw [← flatMap_ite_of_nodup (gsvSentences svNotify) nodup_gsvGroups hg]
  refine List.flatMap_congr fun g hmem => ?_
  refine (gsvGroup_gsvSentences _ _).trans ?_
  by_cases h : g = group
  · rw [if_pos h, if_pos (by rw [h])]
  · rw [if_neg h, if_neg fun hkey => h (eq_of_groupKey_eq hmem hg hkey)]

theorem gsvGroup_eq_nil {talker signal : List Char}
    (h : ∀ g ∈ gsvGroups, groupKey g ≠ (talker, signal)) :
    gsvGroup (loc_nmea_generate_sv svNotify) talker signal = [] := by
  rw [loc_nmea_generate_sv_eq, gsvGroup, filter_flatMap_eq]
  refine List.flatMap_eq_nil_iff.mpr fun g hmem => ?_
  exact (gsvGroup_gsvSentences _ _).trans (if_neg (h g hmem))

theorem gsvGroupComplete_nil : GsvGroupComplete [] where
  sentenceCount s hs := by cases hs
  sentenceNumber := rfl
  blocks s hs := by cases hs
  svCount s hs := by cases hs

/-- The sentences of a group are complete if it shows as many satellites as it counts. -/
theorem gsvGroupComplete_gsvSentences
    (h : (gsvShown svNotify group).length = (gsvMeta svNotify group).svCount) :
    GsvGroupComplete (gsvSentences svNotify group) := by
  have hlen : (gsvSentences svNotify group).length =
      gsvSentenceCount (gsvMeta svNotify group).svCount := by
    unfold gsvSentences
    rw [List.length_map, List.length_range]
  refine ⟨?_, ?_, ?_, ?_⟩
  · intro s hs
    rw [hlen]
    obtain ⟨i, -, rfl⟩ := List.mem_map.mp hs
    rfl
  · rw [hlen, gsvSentences, List.map_map, List.range'_eq_map_range]
    rfl
  · intro s hs
    obtain ⟨i, hi, rfl⟩ := List.mem_map.mp hs
    have hroom := lt_gsvSentenceCount.mp (List.mem_range.mp hi)
    show 1 ≤ (List.map Prod.fst _).length ∧ (List.map Prod.fst _).length ≤ 4
    rw [List.length_map, List.length_take, List.length_drop, h]
    omega
  · intro s hs
    have hle := le_four_mul_gsvSentenceCount (gsvMeta svNotify group).svCount
    rw [gsvListed_gsvSentences, List.length_map, List.length_take, h, Nat.min_eq_right hle]
    obtain ⟨i, -, rfl⟩ := List.mem_map.mp hs
    rfl

/-- Conversely, a group that lists all that it shows has counted it. -/
theorem length_gsvShown_of_complete (hc : GsvGroupComplete (gsvSentences svNotify group))
    (hall : ∀ p ∈ gsvShown svNotify group, p.1 ∈ gsvListed (gsvSentences svNotify group)) :
    (gsvShown svNotify group).length = (gsvMeta svNotify group).svCount := by
  have hsub : (gsvShown svNotify group).map Prod.fst ⊆
      gsvListed (gsvSentences svNotify group) := by
    intro k hk
    obtain ⟨p, hp, rfl⟩ := List.mem_map.mp hk
    exact hall p hp
  have hle := List.Nodup.length_le_of_subset nodup_gsvShown hsub
  rw [gsvListed_gsvSentences, List.length_map, List.length_map, List.length_take] at hle
  rcases Nat.eq_zero_or_pos (gsvMeta svNotify group).svCount with hzero | hpos
  · rw [hzero] at hle ⊢
    have : gsvSentenceCount 0 = 0 := rfl
    omega
  · -- the field of the first sentence
    have hfirst : 0 < gsvSentenceCount (gsvMeta svNotify group).svCount :=
      lt_gsvSentenceCount.mpr hpos
    have hmem := List.mem_map_of_mem (f := fun i => gsvSentence (gsvMeta svNotify group)
      (gsvSentenceCount (gsvMeta svNotify group).svCount) (1 + i)
      (((gsvShown svNotify group).drop (4 * i)).take 4)) (List.mem_range.mpr hfirst)
    have hfield := hc.svCount _ hmem
    rw [gsvListed_gsvSentences, List.length_map, List.length_take] at hfield
    have hfield' : (gsvMeta svNotify group).svCount =
      min (4 * gsvSentenceCount (gsvMeta svNotify group).svCount)
        (gsvShown svNotify group).length := hfield
    omega

/-- A satellite on which both passes agree is counted for the group that shows it. -/
theorem countedIn_iff_shows {sv : GnssSv} (hg : group ∈ gsvGroups)
    (h : sv.type.listed = true → sv.Agrees) :
    countedIn group sv = true ↔ (gsvMeta svNotify group).shows sv = true := by
  rw [shows_iff hg]
  unfold countedIn
  rw [Bool.and_eq_true, beq_iff_eq, beq_iff_eq]
  refine and_congr_right fun htype => ?_
  have hlisted : sv.type.listed = true := htype ▸ listed_of_mem hg
  rw [h hlisted]
  constructor
  · intro hsignal
    rw [hsignal]
  · intro hid
    have heq := eq_of_groupKey_eq (counted_mem hlisted) hg (by
      unfold groupKey
      rw [htype, hid])
    exact congrArg Prod.snd heq

theorem length_gsvShown_of_agrees (hg : group ∈ gsvGroups)
    (h : ∀ sv ∈ svNotify.gnssSvs, sv.type.listed = true → sv.Agrees) :
    (gsvShown svNotify group).length = (gsvMeta svNotify group).svCount := by
  rw [length_gsvShown]
  exact List.countP_congr fun sv hsv => (countedIn_iff_shows hg (h sv hsv)).symm

/-- A group that shows as many satellites as it counts lists them all. -/
theorem mem_gsvListed_of_mem_gsvShown {p : ℕ × GnssSv}
    (hlen : (gsvShown svNotify group).length = (gsvMeta svNotify group).svCount)
    (hp : p ∈ gsvShown svNotify group) : p.1 ∈ gsvListed (gsvSentences svNotify group) := by
  rw [gsvListed_gsvSentences, List.take_of_length_le]
  · exact List.mem_map_of_mem hp
  · rw [hlen]
    exact le_four_mul_gsvSentenceCount _

theorem gsvComplete_of_agrees
    (h : ∀ sv ∈ svNotify.gnssSvs, sv.type.listed = true → sv.Agrees) :
    GsvComplete svNotify (loc_nmea_generate_sv svNotify) := by
  have hmem : ∀ p ∈ svNotify.indexed, p.2.type.listed = true →
      p.1 ∈ gsvListed (gsvSentences svNotify (p.2.type, p.2.countedSignal)) := by
    intro p hp hlisted
    have hg := counted_mem hlisted
    have hsv : p.2 ∈ svNotify.gnssSvs := by
      rw [← map_snd_indexed]
      exact List.mem_map_of_mem hp
    refine mem_gsvListed_of_mem_gsvShown (length_gsvShown_of_agrees hg h) ?_
    exact (mem_gsvShown hg).mpr ⟨hp, rfl, h p.2 hsv hlisted⟩
  refine ⟨?_, ?_, ?_⟩
  · intro p hp hlisted
    refine List.count_eq_one_of_mem nodup_gsvListed ?_
    rw [loc_nmea_generate_sv_eq, gsvListed_flatMap]
    exact List.mem_flatMap.mpr ⟨_, counted_mem hlisted, hmem p hp hlisted⟩
  · intro p hp hlisted
    have hsv : p.2 ∈ svNotify.gnssSvs := by
      rw [← map_snd_indexed]
      exact List.mem_map_of_mem hp
    have hgroup := @gsvGroup_eq svNotify _ (counted_mem hlisted)
    unfold groupKey at hgroup
    rw [h p.2 hsv hlisted, hgroup]
    exact List.count_eq_one_of_mem nodup_gsvListed_gsvSentences (hmem p hp hlisted)
  · intro talker signal
    by_cases hex : ∃ g ∈ gsvGroups, groupKey g = (talker, signal)
    · obtain ⟨g, hg, hkey⟩ := hex
      have hgroup := @gsvGroup_eq svNotify _ hg
      rw [hkey] at hgroup
      rw [hgroup]
      exact gsvGroupComplete_gsvSentences (length_gsvShown_of_agrees hg h)
    · rw [gsvGroup_eq_nil fun g hg hkey => hex ⟨g, hg, hkey⟩]
      exact gsvGroupComplete_nil

/-- What complete sentences list is shown by a group. -/
theorem exists_gsvShown_of_complete (hc : GsvComplete svNotify (loc_nmea_generate_sv svNotify))
    {p : ℕ × GnssSv} (hp : p ∈ svNotify.indexed) (hlisted : p.2.type.listed = true) :
    ∃ g ∈ gsvGroups, p ∈ gsvShown svNotify g ∧ p.1 ∈ gsvListed (gsvSentences svNotify g) := by
  have hone := hc.grouped p hp hlisted
  have hmem : p.1 ∈ gsvListed (gsvGroup (loc_nmea_generate_sv svNotify) (talkerOf p.2.type)
      (gsvSignal p.2.signalId)) := List.count_pos_iff.mp (by omega)
  by_cases hex : ∃ g ∈ gsvGroups, groupKey g = (talkerOf p.2.type, gsvSignal p.2.signalId)
  · obtain ⟨g, hg, hkey⟩ := hex
    have hgroup := @gsvGroup_eq svNotify _ hg
    rw [hkey] at hgroup
    rw [hgroup] at hmem
    simp only [groupKey, Prod.mk.injEq] at hkey
    refine ⟨g, hg, (mem_gsvShown hg).mpr ⟨hp, ?_, ?_⟩, hmem⟩
    · exact talkerOf_inj hlisted (listed_of_mem hg) hkey.1.symm
    · exact gsvSignal_inj (signalId_lt _) (convert_signalType_to_signalId_lt _) hkey.2.symm
  · rw [gsvGroup_eq_nil fun g hg hkey => hex ⟨g, hg, hkey⟩] at hmem
    cases hmem

/-- Every group of complete sentences has counted what it shows. -/
theorem countP_shows_of_complete (hc : GsvComplete svNotify (loc_nmea_generate_sv svNotify))
    (hg : group ∈ gsvGroups) :
    svNotify.gnssSvs.countP (gsvMeta svNotify group).shows =
      svNotify.gnssSvs.countP (countedIn group) := by
  have hkey : GsvGroupComplete (gsvSentences svNotify group) := by
    rw [← gsvGroup_eq hg]
    exact hc.group _ _
  rw [← length_gsvShown]
  refine length_gsvShown_of_complete hkey fun p hp => ?_
  obtain ⟨hpi, htype, hid⟩ := (mem_gsvShown hg).mp hp
  obtain ⟨g, hg', hshown, hlisted⟩ := exists_gsvShown_of_complete hc hpi
    (htype ▸ listed_of_mem hg)
  obtain ⟨-, htype', hid'⟩ := (mem_gsvShown hg').mp hshown
  have heq : g = group := eq_of_groupKey_eq hg' hg (by
    unfold groupKey
    rw [← htype, ← hid, htype', hid'])
  rw [← heq]
  exact hlisted

/-- If one predicate implies another and both hold as often, then they agree. -/
theorem of_countP_eq {α : Type*} {a b : α → Bool} {l : List α} (hab : ∀ x, a x = true → b x = true)
    (hcount : l.countP b = l.countP a) {x : α} (hx : x ∈ l) (hb : b x = true) : a x = true := by
  rw [List.countP_eq_length_filter, List.countP_eq_length_filter] at hcount
  have hsub : (l.filter a).Sublist (l.filter b) := List.monotone_filter_right l hab
  have heq := hsub.eq_of_length hcount.symm
  have hmem : x ∈ l.filter a := heq ▸ List.mem_filter.mpr ⟨hx, hb⟩
  exact (List.mem_filter.mp hmem).2

/-- A satellite that is counted for a second signal is reported with it. -/
theorem shows_of_countedIn_second {sv : GnssSv} (hg : group ∈ gsvGroups)
    (hsecond : secondSignal group.1 = some group.2) (h : countedIn group sv = true) :
    (gsvMeta svNotify group).shows sv = true := by
  have hfirst : ∀ g ∈ gsvGroups, secondSignal g.1 = some g.2 → g.2 ≠ firstSignal g.1 := by decide
  have hzero : ∀ g ∈ gsvGroups, 0 ≠ g.2 := by decide
  unfold countedIn GnssSv.countedSignal at h
  rw [Bool.and_eq_true, beq_iff_eq, beq_iff_eq] at h
  obtain ⟨htype, hcounted⟩ := h
  split at hcounted
  · refine (shows_iff hg sv).mpr ⟨htype, ?_⟩
    unfold GnssSv.signalId
    rw [reportedSignal_eq (htype ▸ listed_of_mem hg), hcounted, if_neg (hzero group hg)]
  · rw [htype] at hcounted
    exact absurd hcounted.symm (hfirst group hg hsecond)

theorem agrees_of_gsvComplete (hc : GsvComplete svNotify (loc_nmea_generate_sv svNotify))
    {sv : GnssSv} (hsv : sv ∈ svNotify.gnssSvs) (hlisted : sv.type.listed = true) : sv.Agrees := by
  obtain ⟨p, hp, rfl⟩ := List.mem_map.mp (@map_snd_indexed svNotify ▸ hsv)
  obtain ⟨g, hg, hshown, -⟩ := exists_gsvShown_of_complete hc hp hlisted
  obtain ⟨-, htype, hid⟩ := (mem_gsvShown hg).mp hshown
  unfold GnssSv.Agrees
  rw [hid]
  by_cases hsecond : secondSignal p.2.type = some p.2.gnssSignalTypeMask
  · -- it is counted for the second signal, which shows it
    have hcounted : p.2.countedSignal = p.2.gnssSignalTypeMask := if_pos hsecond
    have hg' := second_mem hsecond
    have hshows := @shows_of_countedIn_second svNotify _ p.2 hg' hsecond (by
      unfold countedIn
      rw [hcounted]
      simp)
    rw [← hid, ((shows_iff hg' p.2).mp hshows).2, hcounted]
  · have hcounted : p.2.countedSignal = firstSignal p.2.type := if_neg hsecond
    rcases first_or_second hg with hfirst | hsnd
    · rw [hcounted, hfirst, htype]
    · -- the second signal would show more than it counts
      have hin := of_countP_eq (fun sv => shows_of_countedIn_second hg hsnd)
        (countP_shows_of_complete hc hg) hsv ((shows_iff hg p.2).mpr ⟨htype, hid⟩)
      unfold countedIn at hin
      rw [Bool.and_eq_true, beq_iff_eq, beq_iff_eq] at hin
      rw [hin.2]

end

/-- The sentences generated for a report are complete exactly if every satellite is reported with
the signal that it is counted for. -/
theorem gsvComplete_iff (svNotify : GnssSvNotification) :
    GsvComplete svNotify (loc_nmea_generate_sv svNotify) ↔
      ∀ sv ∈ svNotify.gnssSvs, sv.type.listed = true → sv.Agrees :=
  ⟨fun hc _ hsv hlisted => agrees_of_gsvComplete hc hsv hlisted, gsvComplete_of_agrees⟩

/-- A GPS satellite that is reported with its L2 signal is counted for L1, but not shown: there is a
sentence without a satellite. -/
theorem gps_l2_not_listed :
    let sv : GnssSv := ⟨7, .GPS, some 40, 35, 120, GNSS_SIGNAL_GPS_L2⟩
    let out := loc_nmea_generate_sv ⟨[sv], by decide⟩
    (out.map fun s => (s.svCount, s.blocks)) = [(1, [])] ∧ ¬ GsvComplete ⟨[sv], by decide⟩ out := by
  intro sv out
  have hout : (out.map fun s => (s.svCount, s.blocks)) = [(1, [])] := by decide +kernel
  refine ⟨hout, fun hc => ?_⟩
  have hone := hc.once (0, sv) (by decide) rfl
  have hlisted : gsvListed out = [] := by decide +kernel
  rw [hlisted] at hone
  cases hone

end GpsHal
