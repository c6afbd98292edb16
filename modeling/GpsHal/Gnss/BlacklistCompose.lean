import GpsHal.Gnss.Blacklist

/-!
# Composition of the blacklist

The blacklist last sent to the modem should be the list of SVs configured last, united with all SVs
of the constellations that the SV type config in force blacklists.  `gnssSvTypeConfigUpdate` unites
the two, but a list of SVs is sent as it is, and so it frees the constellations that are
blacklisted.  The other ways to go wrong are a shift of an `int`, an SV type config of the wrong
size, and an engine that comes up while a newer list is on its way.

## Main definitions

* `Listed`, `WhollyListed`, `Convertible` : what a list of SVs names.
* `GnssSvIdConfig.Represents` : the masks are those of a set of SVs.
* `GnssBlacklist.Composes` : the condition on a step.

## Main results

* `represents_convertToGnssSvIdConfig` : the masks of a list are those of the SVs it names.
* `GnssBlacklist.blacklist_composed` : the composition, for runs of steps that meet the condition.
-/

namespace GpsHal

/-! ### Lists of SVs -/

namespace GnssSvIdSource

/-- The source names the SV of bit `i`. -/
def Names (source : GnssSvIdSource) (m : SvMask) (i : ℕ) : Prop :=
  source.constellation.svMask = some m ∧ (source.svId = 0 ∨ source.svId = m.initialSvId + i)

/-- The source names the whole constellation. -/
def NamesAll (source : GnssSvIdSource) (m : SvMask) : Prop :=
  source.constellation.svMask = some m ∧ source.svId = 0

/-- The bit of the source can be shifted in an `int`, if the source is in range. -/
def Shiftable (source : GnssSvIdSource) (m : SvMask) : Prop :=
  source.constellation.svMask = some m →
    source.svId < m.initialSvId + 31 ∨ m.initialSvId + 64 ≤ source.svId

instance (source : GnssSvIdSource) (m : SvMask) (i : ℕ) : Decidable (source.Names m i) :=
  inferInstanceAs (Decidable (_ ∧ _))

instance (source : GnssSvIdSource) (m : SvMask) : Decidable (source.NamesAll m) :=
  inferInstanceAs (Decidable (_ ∧ _))

instance (source : GnssSvIdSource) (m : SvMask) : Decidable (source.Shiftable m) :=
  inferInstanceAs (Decidable (_ → _))

theorem NamesAll.names {source : GnssSvIdSource} {m : SvMask} (h : source.NamesAll m) (i : ℕ) :
    source.Names m i := ⟨h.1, .inl h.2⟩

end GnssSvIdSource

/-- The list names the SV of bit `i`. -/
def Listed (l : List GnssSvIdSource) (m : SvMask) (i : ℕ) : Prop := ∃ source ∈ l, source.Names m i

/-- The list names the whole constellation, by SV id 0. -/
def WhollyListed (l : List GnssSvIdSource) (m : SvMask) : Prop := ∃ source ∈ l, source.NamesAll m

/-- The list names the whole constellation, or only SVs whose bit can be shifted in an `int`. -/
def Convertible (l : List GnssSvIdSource) (m : SvMask) : Prop :=
  WhollyListed l m ∨ ∀ source ∈ l, source.Shiftable m

/-- The lists name the same SVs. -/
def SameSvs (l l' : List GnssSvIdSource) : Prop := ∀ m, ∀ i < 64, Listed l m i ↔ Listed l' m i

instance (l : List GnssSvIdSource) (m : SvMask) (i : ℕ) : Decidable (Listed l m i) :=
  inferInstanceAs (Decidable (∃ _ ∈ l, _))

instance (l : List GnssSvIdSource) (m : SvMask) : Decidable (WhollyListed l m) :=
  inferInstanceAs (Decidable (∃ _ ∈ l, _))

instance (l : List GnssSvIdSource) (m : SvMask) : Decidable (Convertible l m) :=
  inferInstanceAs (Decidable (_ ∨ _))

/-- The masks are those of the SVs in `B`. -/
def GnssSvIdConfig.Represents (config : GnssSvIdConfig) (B : SvMask → ℕ → Prop) : Prop :=
  ∀ m, ∀ i < 64, (config.get m).getLsbD i = true ↔ B m i

variable {l l' : List GnssSvIdSource} {m : SvMask} {i n : ℕ}

theorem WhollyListed.listed (h : WhollyListed l m) (i : ℕ) : Listed l m i :=
  let ⟨source, hmem, hall⟩ := h
  ⟨source, hmem, hall.names i⟩

theorem SameSvs.refl (l : List GnssSvIdSource) : SameSvs l l := fun _ _ _ => Iff.rfl

theorem SameSvs.trans {l₁ l₂ l₃ : List GnssSvIdSource} (h₁ : SameSvs l₁ l₂) (h₂ : SameSvs l₂ l₃) :
    SameSvs l₁ l₃ := fun m i hi => (h₁ m i hi).trans (h₂ m i hi)

theorem SameSvs.symm (h : SameSvs l l') : SameSvs l' l := fun m i hi => (h m i hi).symm

/-- The same further assignment is made to lists that name the same SVs. -/
theorem SameSvs.getD (h : SameSvs l l') (o : Option (List GnssSvIdSource)) :
    SameSvs (o.getD l) (o.getD l') := by
  cases o with
  | none => exact h
  | some l₀ => exact .refl l₀

/-! ### Bits of the masks -/

section Bits

variable {overshift : ℕ → BitVec 64} {config : GnssSvIdConfig} {source : GnssSvIdSource}

theorem getLsbD_allBits (hi : i < 64) :
    GNSS_SV_CONFIG_ALL_BITS_ENABLED_MASK.getLsbD i = true := by
  have hall : GNSS_SV_CONFIG_ALL_BITS_ENABLED_MASK = BitVec.allOnes 64 := by decide
  rw [hall, BitVec.getLsbD_allOnes, decide_eq_true hi]

/-- Below the sign bit the shift gives the one bit it should. -/
theorem getLsbD_shiftOne (hn : n < 31) (hi : i < 64) :
    (shiftOne overshift n).getLsbD i = true ↔ i = n := by
  have hmsb : (1#32 <<< n).msb = false := by
    rw [BitVec.msb_shiftLeft, BitVec.getMsbD_one]
    simp
    omega
  rw [shiftOne, if_pos (by omega), BitVec.getLsbD_signExtend, hmsb]
  simp only [hi, decide_true, Bool.true_and, BitVec.getLsbD_shiftLeft, BitVec.getLsbD_one]
  split_ifs <;> simp <;> omega

/-- The masks of the other constellations are left alone. -/
theorem get_addSource_of_ne (h : source.constellation.svMask ≠ some m) :
    (addSource overshift config source).get m = config.get m := by
  unfold addSource
  split
  · rfl
  · rename_i m' hm'
    have hne : m' ≠ m := fun heq => h (heq ▸ hm')
    split_ifs
    · exact GnssSvIdConfig.get_set_of_ne hne
    · rfl
    · exact GnssSvIdConfig.get_set_of_ne hne

/-- The mask of the constellation of the source. -/
theorem get_addSource (h : source.constellation.svMask = some m) :
    (addSource overshift config source).get m =
      if source.svId = 0 then GNSS_SV_CONFIG_ALL_BITS_ENABLED_MASK
      else if source.svId < m.initialSvId ∨ m.initialSvId + 64 ≤ source.svId then config.get m
      else config.get m ||| shiftOne overshift (source.svId - m.initialSvId) := by
  simp only [addSource, h]
  split_ifs <;> simp

/-- A source adds the bits that it names. -/
theorem getLsbD_addSource (hs : source.Shiftable m) (hi : i < 64) :
    ((addSource overshift config source).get m).getLsbD i = true ↔
      (config.get m).getLsbD i = true ∨ source.Names m i := by
  by_cases h : source.constellation.svMask = some m
  · rw [get_addSource h]
    have hnames : source.Names m i ↔ source.svId = 0 ∨ source.svId = m.initialSvId + i :=
      and_iff_right h
    have hpos : 0 < m.initialSvId := by cases m <;> decide
    rw [hnames]
    split_ifs with hzero hrange
    · simp [getLsbD_allBits hi, hzero]
    · have hnot : ¬ (source.svId = 0 ∨ source.svId = m.initialSvId + i) := by omega
      rw [or_iff_left hnot]
    · have hn : source.svId - m.initialSvId < 31 := by have := hs h; omega
      rw [BitVec.getLsbD_or, Bool.or_eq_true, getLsbD_shiftOne hn hi]
      have hbit : i = source.svId - m.initialSvId ↔
          source.svId = 0 ∨ source.svId = m.initialSvId + i := by omega
      rw [hbit]
  · rw [get_addSource_of_ne h]
    exact (or_iff_left fun hnames => h hnames.1).symm

/-- A full mask stays full. -/
theorem getLsbD_addSource_of_full (hi : i < 64) (h : (config.get m).getLsbD i = true) :
    ((addSource overshift config source).get m).getLsbD i = true := by
  by_cases hm : source.constellation.svMask = some m
  · rw [get_addSource hm]
    split_ifs
    · exact getLsbD_allBits hi
    · exact h
    · rw [BitVec.getLsbD_or, h, Bool.true_or]
  · rwa [get_addSource_of_ne hm]

/-- On cleared masks the branch for the empty list does what the loop does. -/
theorem convertToGnssSvIdConfig_zero :
    convertToGnssSvIdConfig overshift l .zero =
      l.foldl (addSource overshift) ⟨GnssSvIdConfig.sizeof, 0, 0, 0, 0⟩ := by
  cases l <;> rfl

/-- Nothing takes a bit back that a source of the list sets. -/
theorem getLsbD_convert_of_mem (hi : i < 64) (hmem : source ∈ l)
    (hset : ∀ c, ((addSource overshift c source).get m).getLsbD i = true) :
    ((convertToGnssSvIdConfig overshift l .zero).get m).getLsbD i = true := by
  rw [convertToGnssSvIdConfig_zero]
  exact foldl_of_mem (Q := fun c : GnssSvIdConfig => (c.get m).getLsbD i = true)
    (fun _ _ => getLsbD_addSource_of_full hi) hmem hset

/-- The bits of a constellation whose sources can be shifted. -/
theorem getLsbD_convert_of_shiftable (h : ∀ source ∈ l, source.Shiftable m) (hi : i < 64) :
    ((convertToGnssSvIdConfig overshift l .zero).get m).getLsbD i = true ↔ Listed l m i := by
  rw [convertToGnssSvIdConfig_zero,
    foldl_or_iff (g := addSource overshift) (P := fun source => source.Names m i)
      (Q := fun c : GnssSvIdConfig => (c.get m).getLsbD i = true)
      fun c source hmem => getLsbD_addSource (h source hmem) hi]
  refine or_iff_right ?_
  cases m <;> simp [GnssSvIdConfig.get]

/-- **The masks of a list** are those of the SVs that it names. -/
theorem represents_convertToGnssSvIdConfig (h : ∀ m, Convertible l m) :
    (convertToGnssSvIdConfig overshift l .zero).Represents (Listed l) := by
  intro m i hi
  rcases h m with hall | hshift
  · obtain ⟨source, hmem, hm, hzero⟩ := id hall
    refine iff_of_true (getLsbD_convert_of_mem hi hmem fun c => ?_) (hall.listed i)
    rw [get_addSource hm, if_pos hzero]
    exact getLsbD_allBits hi
  · exact getLsbD_convert_of_shiftable hshift hi

end Bits

/-! ### Blacklisted constellations -/

section Types

variable {config : GnssSvTypeConfig} {b : GnssSvIdConfig}

theorem get_blacklistType (m' : SvMask) :
    (blacklistType config b m').get m =
      if m' = m ∧ config.Blacklists m then GNSS_SV_CONFIG_ALL_BITS_ENABLED_MASK else b.get m := by
  unfold blacklistType
  by_cases hm : m' = m
  · subst hm
    by_cases hb : config.Blacklists m'
    · rw [if_pos hb, if_pos ⟨rfl, hb⟩, GnssSvIdConfig.get_set_self]
    · have hnot : ¬ (m' = m' ∧ config.Blacklists m') := fun h => hb h.2
      rw [if_neg hb, if_neg hnot]
  · have hnot : ¬ (m' = m ∧ config.Blacklists m) := fun h => hm h.1
    rw [if_neg hnot]
    split_ifs
    · exact GnssSvIdConfig.get_set_of_ne hm
    · rfl

theorem get_blacklistTypes :
    (blacklistTypes config b).get m =
      if config.Blacklists m then GNSS_SV_CONFIG_ALL_BITS_ENABLED_MASK else b.get m := by
  unfold blacklistTypes
  split_ifs with hmask hb hb
  · cases m <;> simp [get_blacklistType, hb]
  · cases m <;> simp [get_blacklistType, hb]
  · exact absurd (by simp [not_not.1 hmask]) hb
  · rfl

/-- The SVs of a config united with those of the blacklisted constellations. -/
theorem GnssSvIdConfig.Represents.blacklistTypes {B : SvMask → ℕ → Prop} (h : b.Represents B) :
    (blacklistTypes config b).Represents fun m i => B m i ∨ config.Blacklists m := by
  intro m i hi
  rw [get_blacklistTypes]
  split_ifs with hb
  · exact iff_of_true (getLsbD_allBits hi) (.inr hb)
  · exact (h m i hi).trans (or_iff_left hb).symm

/-- Only the SVs of bits that exist count. -/
theorem GnssSvIdConfig.Represents.congr {B B' : SvMask → ℕ → Prop} (h : b.Represents B)
    (hiff : ∀ m, ∀ i < 64, B m i ↔ B' m i) : b.Represents B' :=
  fun m i hi => (h m i hi).trans (hiff m i hi)

end Types

namespace GnssBlacklist

variable {overshift : ℕ → BitVec 64} {s s' : GnssBlacklist} {e : BlacklistEvent}

/-! ### The list configured last -/

/-- The list of SVs that the last command configures. -/
def configured (es : List BlacklistEvent) : List GnssSvIdSource :=
  newest BlacklistEvent.svIds? [] es

/-- The list that is in force when the threads have taken all their messages, the pending messages
before the queue: they were sent earlier. -/
def upcoming (s : GnssBlacklist) : List GnssSvIdSource :=
  newest BlacklistMsg.svIds?
    (newest BlacklistMsg.svIds? (newest GnssConfig.svIds s.mBlacklistedSvIds s.locApiQueue)
      s.mPendingMsgs)
    s.queue

/-- The list that is in force then if the engine comes up now: the present list is injected again,
and the pending messages are put behind the rest of the queue. -/
def replayed (s : GnssBlacklist) (queue : List BlacklistMsg) : List GnssSvIdSource :=
  newest BlacklistMsg.svIds? s.mBlacklistedSvIds (queue ++ s.mPendingMsgs)

/-! ### The condition -/

/-- What the SV type config blacklists is blacklisted by the list `l` as well. -/
def Redundant (config : GnssSvTypeConfig) (l : List GnssSvIdSource) : Prop :=
  ∀ m, config.Blacklists m → WhollyListed l m

/-- The condition on a message that is taken off the queue, which leaves `queue`. -/
def MsgComposes (s : GnssBlacklist) (queue : List BlacklistMsg) : BlacklistMsg → Prop
  | .gnssUpdateSvTypeConfig config =>
    -- a config of the wrong size is saved, but not sent
    s.mIsEngineCapabilitiesKnown = true → config.size = GnssSvTypeConfig.sizeof ∨
      ∀ m, WhollyListed s.mBlacklistedSvIds m ∨
        (config.Blacklists m ↔ s.mGnssSvTypeConfig.Blacklists m)
  | .handleEngineUpEvent =>
    SameSvs s.upcoming (s.replayed queue) ∧
      (s.mGnssSvTypeConfig.size = GnssSvTypeConfig.sizeof ∨
        Redundant s.mGnssSvTypeConfig s.mBlacklistedSvIds)
  | _ => True

/-- The condition on a list that takes effect. -/
def ListComposes (s : GnssBlacklist) (l : List GnssSvIdSource) : Prop :=
  (∀ m, Convertible l m) ∧ Redundant s.mGnssSvTypeConfig l

/-- The condition on a step. -/
def Composes (s : GnssBlacklist) : BlacklistEvent → Prop
  | .process => ∀ msg queue, s.queue = msg :: queue → s.MsgComposes queue msg
  | .processLocApi =>
    ∀ config locApiQueue l, s.locApiQueue = config :: locApiQueue → config.svIds = some l →
      s.ListComposes l
  | _ => True

/-! ### Requests -/

section Requests

variable {r : ModemRequest} {b : Bool}

@[simp] theorem lastBlacklist_request :
    (s.request r).lastBlacklist = r.blacklist?.getD s.lastBlacklist :=
  newest_concat

/-- Only the requests change. -/
theorem gnssSvTypeConfigUpdate_frame :
    ∃ rs, s.gnssSvTypeConfigUpdate b = { s with requests := rs } := by
  unfold gnssSvTypeConfigUpdate
  dsimp only
  split_ifs <;> exact ⟨_, rfl⟩

/-- The blacklist is sent if the size is right. -/
theorem lastBlacklist_gnssSvTypeConfigUpdate :
    (s.gnssSvTypeConfigUpdate b).lastBlacklist =
      if s.mGnssSvTypeConfig.size = GnssSvTypeConfig.sizeof then
        blacklistTypes s.mGnssSvTypeConfig s.mGnssSvIdConfig
      else s.lastBlacklist := by
  unfold gnssSvTypeConfigUpdate
  dsimp only
  split_ifs <;> simp only [lastBlacklist_request, ModemRequest.blacklist?] <;> rfl

end Requests

/-! ### The invariant -/

/-- The configs that are saved, and the blacklist last sent, agree. -/
structure Agrees (s : GnssBlacklist) : Prop where
  svIds : s.mGnssSvIdConfig.Represents (Listed s.mBlacklistedSvIds)
  sent : s.lastBlacklist.Represents fun m i =>
    Listed s.mBlacklistedSvIds m i ∨ s.mGnssSvTypeConfig.Blacklists m

/-- Messages are pending only before the engine is up. -/
def PendsEarly (s : GnssBlacklist) : Prop :=
  s.mIsEngineCapabilitiesKnown = true → s.mPendingMsgs = []

/-- It does not matter which messages are waiting. -/
theorem Agrees.waiting (h : s.Agrees) {k : Bool} {p q : List BlacklistMsg} {c : List GnssConfig} :
    Agrees { s with
      mIsEngineCapabilitiesKnown := k, mPendingMsgs := p, queue := q, locApiQueue := c } :=
  ⟨h.svIds, h.sent⟩

/-- A request that sends no blacklist. -/
theorem Agrees.request (h : s.Agrees) {r : ModemRequest} (hr : r.blacklist? = none) :
    (s.request r).Agrees := by
  refine ⟨h.svIds, ?_⟩
  rw [lastBlacklist_request, hr]
  exact h.sent

/-- Sending the list of SVs as it is, when no constellation is blacklisted besides. -/
theorem Agrees.of_raw (hl : s.mGnssSvIdConfig.Represents (Listed s.mBlacklistedSvIds))
    (hred : Redundant s.mGnssSvTypeConfig s.mBlacklistedSvIds) {r : ModemRequest}
    (hr : r.blacklist? = some s.mGnssSvIdConfig) : (s.request r).Agrees := by
  refine ⟨hl, ?_⟩
  rw [lastBlacklist_request, hr]
  exact hl.congr fun m i _ => (or_iff_left_of_imp fun hb => (hred m hb).listed i).symm

/-- Sending the two configs united. -/
theorem Agrees.of_united (hl : s.mGnssSvIdConfig.Represents (Listed s.mBlacklistedSvIds))
    (hsize : s.mGnssSvTypeConfig.size = GnssSvTypeConfig.sizeof) (b : Bool) :
    (s.gnssSvTypeConfigUpdate b).Agrees := by
  have hlast := lastBlacklist_gnssSvTypeConfigUpdate (s := s) (b := b)
  obtain ⟨rs, hrs⟩ := gnssSvTypeConfigUpdate_frame (s := s) (b := b)
  rw [hrs] at hlast ⊢
  refine ⟨hl, ?_⟩
  rw [hlast, if_pos hsize]
  exact hl.blacklistTypes

/-- An update that is not sent. -/
theorem Agrees.unsent (h : s.Agrees) (hsize : s.mGnssSvTypeConfig.size ≠ GnssSvTypeConfig.sizeof)
    (b : Bool) : (s.gnssSvTypeConfigUpdate b).Agrees := by
  unfold gnssSvTypeConfigUpdate
  rwa [if_neg hsize]

theorem Agrees.gnssSetAndUpdateSvTypeConfig (h : s.Agrees) {config : GnssSvTypeConfig}
    (hc : config.size = GnssSvTypeConfig.sizeof ∨
      ∀ m, WhollyListed s.mBlacklistedSvIds m ∨
        (config.Blacklists m ↔ s.mGnssSvTypeConfig.Blacklists m)) :
    (s.gnssSetAndUpdateSvTypeConfig config).Agrees := by
  unfold GnssBlacklist.gnssSetAndUpdateSvTypeConfig
  by_cases hsize : config.size = GnssSvTypeConfig.sizeof
  · exact .of_united (s := { s with mGnssSvTypeConfig := config }) h.svIds hsize _
  · refine unsent (s := { s with mGnssSvTypeConfig := config })
      ⟨h.svIds, h.sent.congr fun m i _ => ?_⟩ hsize _
    rcases hc.resolve_left hsize m with hall | hiff
    · exact iff_of_true (.inl (hall.listed i)) (.inl (hall.listed i))
    · exact or_congr_right hiff.symm

theorem Agrees.gnssUpdateConfig (h : s.Agrees) {config : GnssConfig}
    (hc : ∀ l, config.svIds = some l → s.ListComposes l) :
    (s.gnssUpdateConfig true overshift config).Agrees := by
  unfold GnssBlacklist.gnssUpdateConfig
  split
  · exact h
  · rename_i l hl
    rw [if_pos rfl]
    have hmasks : (convertToGnssSvIdConfig overshift l .zero).Represents (Listed l) :=
      represents_convertToGnssSvIdConfig (hc l hl).1
    unfold GnssBlacklist.gnssSvIdConfigUpdateSync
    dsimp only
    generalize convertToGnssSvIdConfig overshift l .zero = masks at hmasks ⊢
    exact .of_raw hmasks (hc l hl).2 rfl

/-- Both configs are sent again, the list of SVs as it is. -/
theorem Agrees.resend (h : s.Agrees)
    (hc : s.mGnssSvTypeConfig.size = GnssSvTypeConfig.sizeof ∨
      Redundant s.mGnssSvTypeConfig s.mBlacklistedSvIds) :
    (s.gnssSvIdConfigUpdate.gnssSvTypeConfigUpdate false).Agrees := by
  by_cases hsize : s.mGnssSvTypeConfig.size = GnssSvTypeConfig.sizeof
  · exact of_united (s := s.gnssSvIdConfigUpdate) h.svIds hsize false
  · have hraw : s.gnssSvIdConfigUpdate.Agrees := of_raw h.svIds (hc.resolve_left hsize) rfl
    exact hraw.unsent hsize false

theorem Agrees.procEngineUp (h : s.Agrees)
    (hc : s.mGnssSvTypeConfig.size = GnssSvTypeConfig.sizeof ∨
      Redundant s.mGnssSvTypeConfig s.mBlacklistedSvIds) : s.procEngineUp.Agrees := by
  have hset : ({ s with mIsEngineCapabilitiesKnown := true }.setConfig).Agrees := h.waiting
  exact (hset.resend hc).waiting

/-! ### One step -/

section Steps

variable {msg : BlacklistMsg} {queue : List BlacklistMsg}

/-- What is sent while a message is taken agrees with what is saved. -/
theorem Agrees.process (h : s.Agrees) (hc : s.MsgComposes queue msg) :
    ({ s with queue := queue }.proc true msg).Agrees := by
  have h₀ : ({ s with queue := queue } : GnssBlacklist).Agrees := h.waiting
  cases msg with
  | gnssUpdateConfig config =>
    simp only [proc]
    split_ifs
    · exact h.waiting
    · exact h.waiting
  | gnssUpdateSvTypeConfig config =>
    simp only [proc]
    split_ifs with hknown
    · exact h.waiting
    · exact h₀.gnssSetAndUpdateSvTypeConfig (hc (eq_true_of_ne_false hknown))
  | gnssResetSvTypeConfig =>
    simp only [proc]
    split_ifs
    · exact h.waiting
    · have hred : Redundant ⟨GnssSvTypeConfig.sizeof, 0, 0⟩ s.mBlacklistedSvIds :=
        fun m hb => absurd BitVec.zero_and hb
      have hraw := of_raw (s := { s with
        queue := queue, mGnssSvTypeConfig := ⟨GnssSvTypeConfig.sizeof, 0, 0⟩ }) h.svIds hred
        (r := .setBlacklistSv s.mGnssSvIdConfig) rfl
      exact hraw.request rfl
  | handleEngineUpEvent => exact h₀.procEngineUp hc.2

theorem Agrees.step (h : s.Agrees) (hc : s.Composes e)
    (hst : step true overshift s e = some s') : s'.Agrees := by
  cases e with
  | gnssUpdateConfigCommand config =>
    obtain rfl := Option.some.inj hst
    split_ifs
    · exact h.waiting
    · exact h
  | gnssUpdateSvTypeConfigCommand config =>
    obtain rfl := Option.some.inj hst
    exact h.waiting
  | gnssResetSvTypeConfigCommand =>
    obtain rfl := Option.some.inj hst
    exact h.waiting
  | handleEngineUpEvent =>
    obtain rfl := Option.some.inj hst
    exact h.waiting
  | process =>
    cases hqueue : s.queue with
    | nil => simp [GnssBlacklist.step, hqueue] at hst
    | cons msg queue =>
      simp only [GnssBlacklist.step, hqueue] at hst
      obtain rfl := Option.some.inj hst
      exact h.process (hc msg queue hqueue)
  | processLocApi =>
    cases hlambdas : s.locApiQueue with
    | nil => simp [GnssBlacklist.step, hlambdas] at hst
    | cons config locApiQueue =>
      simp only [GnssBlacklist.step, hlambdas] at hst
      obtain rfl := Option.some.inj hst
      have h₀ : ({ s with locApiQueue := locApiQueue } : GnssBlacklist).Agrees := h.waiting
      exact h₀.gnssUpdateConfig fun l hl => hc config locApiQueue l hlambdas hl

/-- The list of SVs is injected again, and the pending messages go behind the queue. -/
theorem procEngineUp_frame :
    ∃ config rs, config.svIds = some s.mBlacklistedSvIds ∧ s.procEngineUp =
      { s with
        mIsEngineCapabilitiesKnown := true
        mPendingMsgs := []
        queue := s.queue ++ s.mPendingMsgs
        locApiQueue := s.locApiQueue ++ [config]
        requests := rs } := by
  have hflags : (GNSS_CONFIG_FLAGS_GPS_LOCK_VALID_BIT |||
      GNSS_CONFIG_FLAGS_BLACKLISTED_SV_IDS_BIT) &&&
        GNSS_CONFIG_FLAGS_BLACKLISTED_SV_IDS_BIT ≠ 0 := by decide
  obtain ⟨rs, hrs⟩ := gnssSvTypeConfigUpdate_frame (b := false)
    (s := { s with mIsEngineCapabilitiesKnown := true }.setConfig.gnssSvIdConfigUpdate)
  refine ⟨⟨GNSS_CONFIG_FLAGS_GPS_LOCK_VALID_BIT ||| GNSS_CONFIG_FLAGS_BLACKLISTED_SV_IDS_BIT,
    s.mBlacklistedSvIds⟩, rs, if_pos hflags, ?_⟩
  simp only [procEngineUp, hrs]
  rfl

/-- A message that is taken changes nothing in the list that is in force in the end. -/
theorem upcoming_process (hp : s.PendsEarly) (hqueue : s.queue = msg :: queue)
    (hc : s.MsgComposes queue msg) :
    SameSvs s.upcoming ({ s with queue := queue }.proc true msg).upcoming := by
  have htaken : s.upcoming = newest BlacklistMsg.svIds? (msg.svIds?.getD
      (newest BlacklistMsg.svIds? (newest GnssConfig.svIds s.mBlacklistedSvIds s.locApiQueue)
        s.mPendingMsgs)) queue := by
    rw [upcoming, hqueue, newest_cons]
  -- a message that is pended goes behind the others that are pending
  have hpend : (({ s with queue := queue } : GnssBlacklist).pend msg).upcoming = s.upcoming := by
    rw [htaken]
    simp only [upcoming, pend, newest_concat]
  cases msg with
  | gnssUpdateConfig config =>
    simp only [proc]
    split_ifs with hknown
    · rw [hpend]
      exact .refl _
    · have hnone : s.mPendingMsgs = [] := hp (eq_true_of_ne_false hknown)
      rw [htaken]
      simp only [upcoming, hnone, newest_concat, newest_nil]
      exact .refl _
  | gnssUpdateSvTypeConfig config =>
    simp only [proc]
    split_ifs
    · rw [hpend]
      exact .refl _
    · unfold gnssSetAndUpdateSvTypeConfig
      obtain ⟨rs, hrs⟩ := gnssSvTypeConfigUpdate_frame
        (s := { s with queue := queue, mGnssSvTypeConfig := config })
      rw [hrs, htaken]
      exact .refl _
  | gnssResetSvTypeConfig =>
    simp only [proc]
    split_ifs
    · rw [hpend]
      exact .refl _
    · rw [htaken]
      exact .refl _
  | handleEngineUpEvent =>
    obtain ⟨config, rs, hconfig, hup⟩ := procEngineUp_frame (s := { s with queue := queue })
    have hreplayed : ({ s with queue := queue }.procEngineUp).upcoming = s.replayed queue := by
      rw [hup]
      simp only [upcoming, replayed, newest_concat, newest_nil, hconfig, Option.getD_some]
    rw [proc, hreplayed]
    exact hc.1

/-- A step changes the list that is in force in the end as the command says. -/
theorem upcoming_step (hp : s.PendsEarly) (hc : s.Composes e)
    (hst : step true overshift s e = some s') :
    SameSvs (e.svIds?.getD s.upcoming) s'.upcoming := by
  cases e with
  | gnssUpdateConfigCommand config =>
    obtain rfl := Option.some.inj hst
    split_ifs with hflags
    · simp only [upcoming, sendMsg, newest_concat]
      exact .refl _
    · have hnone : config.svIds = none := if_neg (by simp [not_not.1 hflags])
      simp only [BlacklistEvent.svIds?, hnone]
      exact .refl _
  | gnssUpdateSvTypeConfigCommand config =>
    obtain rfl := Option.some.inj hst
    simp only [upcoming, sendMsg, newest_concat]
    exact .refl _
  | gnssResetSvTypeConfigCommand =>
    obtain rfl := Option.some.inj hst
    simp only [upcoming, sendMsg, newest_concat]
    exact .refl _
  | handleEngineUpEvent =>
    obtain rfl := Option.some.inj hst
    simp only [upcoming, sendMsg, newest_concat]
    exact .refl _
  | process =>
    cases hqueue : s.queue with
    | nil => simp [GnssBlacklist.step, hqueue] at hst
    | cons msg queue =>
      simp only [GnssBlacklist.step, hqueue] at hst
      obtain rfl := Option.some.inj hst
      exact upcoming_process hp hqueue (hc msg queue hqueue)
  | processLocApi =>
    cases hlambdas : s.locApiQueue with
    | nil => simp [GnssBlacklist.step, hlambdas] at hst
    | cons config locApiQueue =>
      simp only [GnssBlacklist.step, hlambdas] at hst
      obtain rfl := Option.some.inj hst
      simp only [upcoming, hlambdas, newest_cons, GnssBlacklist.gnssUpdateConfig]
      cases config.svIds with
      | none => exact .refl _
      | some l => exact .refl _

theorem PendsEarly.proc (hp : s.PendsEarly) : (s.proc true msg).PendsEarly := by
  cases msg with
  | gnssUpdateConfig config =>
    simp only [GnssBlacklist.proc]
    split_ifs with hknown
    · exact fun h => absurd (hknown.symm.trans h) Bool.false_ne_true
    · exact hp
  | gnssUpdateSvTypeConfig config =>
    simp only [GnssBlacklist.proc]
    split_ifs with hknown
    · exact fun h => absurd (hknown.symm.trans h) Bool.false_ne_true
    · unfold gnssSetAndUpdateSvTypeConfig
      obtain ⟨rs, hrs⟩ := gnssSvTypeConfigUpdate_frame
        (s := { s with mGnssSvTypeConfig := config })
      rw [hrs]
      exact hp
  | gnssResetSvTypeConfig =>
    simp only [GnssBlacklist.proc]
    split_ifs with hknown
    · exact fun h => absurd (hknown.symm.trans h) Bool.false_ne_true
    · exact hp
  | handleEngineUpEvent =>
    obtain ⟨config, rs, -, hup⟩ := procEngineUp_frame (s := s)
    rw [GnssBlacklist.proc, hup]
    exact fun _ => rfl

theorem PendsEarly.step (hp : s.PendsEarly) (hst : step true overshift s e = some s') :
    s'.PendsEarly := by
  cases e with
  | process =>
    cases hqueue : s.queue with
    | nil => simp [GnssBlacklist.step, hqueue] at hst
    | cons msg queue =>
      simp only [GnssBlacklist.step, hqueue] at hst
      obtain rfl := Option.some.inj hst
      exact PendsEarly.proc (s := { s with queue := queue }) hp
  | processLocApi =>
    cases hlambdas : s.locApiQueue with
    | nil => simp [GnssBlacklist.step, hlambdas] at hst
    | cons config locApiQueue =>
      simp only [GnssBlacklist.step, hlambdas] at hst
      obtain rfl := Option.some.inj hst
      unfold GnssBlacklist.gnssUpdateConfig
      cases config.svIds with
      | none => exact hp
      | some l => exact hp
  | gnssUpdateConfigCommand config =>
    obtain rfl := Option.some.inj hst
    split_ifs
    · exact hp
    · exact hp
  | _ =>
    obtain rfl := Option.some.inj hst
    exact hp

end Steps

/-! ### Runs -/

section Runs

/-- No message is waiting. -/
def Processed (s : GnssBlacklist) : Prop :=
  s.queue = [] ∧ s.mPendingMsgs = [] ∧ s.locApiQueue = []

/-- The invariant of the runs whose steps meet the condition. -/
theorem agrees_run {es : List BlacklistEvent}
    (h : (system true overshift).Run Composes es s) :
    s.Agrees ∧ s.PendsEarly ∧ SameSvs (configured es) s.upcoming := by
  induction h with
  | nil =>
    have hzero : GnssSvIdConfig.zero.Represents fun _ _ => False := by
      intro m i hi
      simp
    refine ⟨⟨hzero.congr fun m i _ => ?_, hzero.congr fun m i _ => ?_⟩, nofun, .refl _⟩
    · exact iff_of_false id (by simp [Listed, system, initial, System.ofPartial])
    · refine iff_of_false id ?_
      rintro (⟨source, hmem, -⟩ | hb)
      · cases hmem
      · exact hb BitVec.zero_and
  | @snoc es s s' e _ hc hst ih =>
    obtain ⟨hagrees, hp, hsame⟩ := ih
    refine ⟨hagrees.step hc hst, hp.step hst, ?_⟩
    rw [configured, newest_concat]
    exact (hsame.getD e.svIds?).trans (upcoming_step hp hc hst)

/-- **The blacklist is composed.**  After a run of steps that meet the condition, when all messages
have been processed, the blacklist last sent to the modem is the list of SVs configured last, united
with all SVs of the constellations that the SV type config in force blacklists. -/
theorem blacklist_composed {es : List BlacklistEvent}
    (h : (system true overshift).Run Composes es s) (hs : s.Processed) :
    s.lastBlacklist.Represents fun m i =>
      Listed (configured es) m i ∨ s.mGnssSvTypeConfig.Blacklists m := by
  obtain ⟨hagrees, -, hsame⟩ := agrees_run h
  have hpresent : s.upcoming = s.mBlacklistedSvIds := by
    rw [upcoming, hs.1, hs.2.1, hs.2.2]
    rfl
  rw [hpresent] at hsame
  exact hagrees.sent.congr fun m i hi => or_congr_left (hsame m i hi).symm

/-- A request for a list of SVs and nothing else. -/
def blacklistConfig (l : List GnssSvIdSource) : GnssConfig :=
  ⟨GNSS_CONFIG_FLAGS_BLACKLISTED_SV_IDS_BIT, l⟩

/-- An SV type config that blacklists GLONASS. -/
def noGlonass : GnssSvTypeConfig := ⟨GnssSvTypeConfig.sizeof, 0, SvMask.typeBit .glo⟩

/-- GLONASS is blacklisted, and so it is in the list that comes after. -/
def wholeGlonass : List GnssSvIdSource := [⟨12, .GLONASS, 0⟩, ⟨12, .GALILEO, 305⟩]

theorem blacklist_composed_glonass :
    ∃ s, (system true fun _ => 0).Run Composes
        [.handleEngineUpEvent, .process, .processLocApi,
          .gnssUpdateSvTypeConfigCommand noGlonass, .process,
          .gnssUpdateConfigCommand (blacklistConfig wholeGlonass), .process, .processLocApi] s ∧
      s.Processed ∧
      s.lastBlacklist.Represents fun m i =>
        Listed wholeGlonass m i ∨ s.mGnssSvTypeConfig.Blacklists m := by
  have hnone : ∀ m, ¬ GnssSvTypeConfig.Blacklists ⟨0, 0, 0⟩ m := fun m hb => hb BitVec.zero_and
  have h₁ : (system true fun _ => 0).Run Composes [.handleEngineUpEvent] _ := .snoc .nil trivial rfl
  have h₂ := h₁.snoc (e := BlacklistEvent.process) (fun msg queue hq => by
    cases hq
    exact ⟨.refl _, .inr fun m hb => absurd hb (hnone m)⟩) rfl
  have h₃ := h₂.snoc (e := BlacklistEvent.processLocApi) (fun config _ l hq hl => by
    cases hq
    cases hl
    exact ⟨fun m => .inr nofun, fun m hb => absurd hb (hnone m)⟩) rfl
  have h₄ := h₃.snoc (e := BlacklistEvent.gnssUpdateSvTypeConfigCommand noGlonass) trivial rfl
  have h₅ := h₄.snoc (e := BlacklistEvent.process) (fun msg queue hq => by
    cases hq
    exact fun _ => .inl rfl) rfl
  have h₆ := h₅.snoc (e := BlacklistEvent.gnssUpdateConfigCommand (blacklistConfig wholeGlonass))
    trivial rfl
  have h₇ := h₆.snoc (e := BlacklistEvent.process) (fun msg queue hq => by
    cases hq
    trivial) rfl
  have h₈ := h₇.snoc (e := BlacklistEvent.processLocApi) (fun config _ l hq hl => by
    cases hq
    cases hl
    refine ⟨fun m => ?_, fun m => ?_⟩
    · cases m <;> decide
    · cases m <;> decide) rfl
  exact ⟨_, h₈, ⟨rfl, rfl, rfl⟩, blacklist_composed h₈ ⟨rfl, rfl, rfl⟩⟩

/-- GLONASS is blacklisted, and then a list with one Galileo SV is configured. -/
def glonassThenList : List BlacklistEvent :=
  [.handleEngineUpEvent, .process, .processLocApi, .gnssUpdateSvTypeConfigCommand noGlonass,
    .process, .gnssUpdateConfigCommand (blacklistConfig [⟨12, .GALILEO, 305⟩]), .process,
    .processLocApi]

/-- The blacklist that is sent for the list frees GLONASS. -/
theorem blacklist_not_composed :
    ∃ s, (system true fun _ => 0).Run System.Free glonassThenList s ∧ s.Processed ∧
      ¬ s.lastBlacklist.Represents fun m i =>
        Listed (configured glonassThenList) m i ∨ s.mGnssSvTypeConfig.Blacklists m := by
  have h₁ : (system true fun _ => 0).Run System.Free [.handleEngineUpEvent] _ :=
    .snoc .nil trivial rfl
  have h₂ := h₁.snoc (e := BlacklistEvent.process) trivial rfl
  have h₃ := h₂.snoc (e := BlacklistEvent.processLocApi) trivial rfl
  have h₄ := h₃.snoc (e := BlacklistEvent.gnssUpdateSvTypeConfigCommand noGlonass) trivial rfl
  have h₅ := h₄.snoc (e := BlacklistEvent.process) trivial rfl
  have h₆ := h₅.snoc
    (e := BlacklistEvent.gnssUpdateConfigCommand (blacklistConfig [⟨12, .GALILEO, 305⟩]))
    trivial rfl
  have h₇ := h₆.snoc (e := BlacklistEvent.process) trivial rfl
  refine ⟨_, h₇.snoc (e := BlacklistEvent.processLocApi) trivial rfl, ⟨rfl, rfl, rfl⟩, fun h => ?_⟩
  have hbit := (h .glo 0 (by decide)).2 (.inr (by decide))
  exact absurd hbit (by decide)

end Runs

end GnssBlacklist

end GpsHal
