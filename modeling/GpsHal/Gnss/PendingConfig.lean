import GpsHal.Gnss.ConfigAlign
import GpsHal.Util.Fold

/-!
# `Gnss` : the pending configuration

A `GnssAPIClient` is only made when one of the callback interfaces is set.  Until then
`updateConfiguration` gathers the settings in `mPendingConfig`, which `getApi` submits to the client
once it has been made (`android/2.0/Gnss.cpp`).

## Main definitions

* `PendingConfig.merge` : one update is merged.
* `Gnss.updateConfiguration`, `Gnss.getApi` : the functions under their names.
* `mergedConfig` : what a list of updates comes to, each setting from the last one that has it.
* `Gnss.Flushes` : what is submitted is the merged config, once.
* `Mergeable` : the condition on the updates.

## Main results

* `Gnss.mPendingConfig_foldl` : what is pending after a list of updates.
* `Gnss.flushes_iff` : when the merged config is submitted.
-/

namespace GpsHal

/-- `sizeof(GnssConfigSetAssistanceServer)` -/
def GnssConfigSetAssistanceServer.sizeof : ℕ := 24

/-- `mPendingConfig`; its size says whether there is anything pending. -/
@[ext] structure PendingConfig extends GnssConfigSettings where
  size : ℕ
  deriving DecidableEq, Repr

namespace PendingConfig

/-- `sizeof(GnssConfig)` -/
def sizeof : ℕ := 96

/-- What `memset` leaves. -/
def zero : PendingConfig := { GnssConfigSettings.zero with size := 0 }

/-- The flags in the order in which they are merged. -/
def mergedFlags : List (BitVec 32) :=
  [GNSS_CONFIG_FLAGS_GPS_LOCK_VALID_BIT, GNSS_CONFIG_FLAGS_SUPL_VERSION_VALID_BIT,
    GNSS_CONFIG_FLAGS_SET_ASSISTANCE_DATA_VALID_BIT, GNSS_CONFIG_FLAGS_LPP_PROFILE_VALID_BIT,
    GNSS_CONFIG_FLAGS_LPPE_CONTROL_PLANE_VALID_BIT, GNSS_CONFIG_FLAGS_LPPE_USER_PLANE_VALID_BIT,
    GNSS_CONFIG_FLAGS_AGLONASS_POSITION_PROTOCOL_VALID_BIT,
    GNSS_CONFIG_FLAGS_EM_PDN_FOR_EM_SUPL_VALID_BIT, GNSS_CONFIG_FLAGS_SUPL_EM_SERVICES_BIT,
    GNSS_CONFIG_FLAGS_SUPL_MODE_BIT, GNSS_CONFIG_FLAGS_BLACKLISTED_SV_IDS_BIT,
    GNSS_CONFIG_FLAGS_EMERGENCY_EXTENSION_SECONDS_BIT]

/-- The server is merged.  The name of the host is copied if there was one before. -/
def mergeServer (server : GnssConfigSetAssistanceServer)
    (assistanceServer : GnssConfigSetAssistanceServer) : GnssConfigSetAssistanceServer where
  size := GnssConfigSetAssistanceServer.sizeof
  type := assistanceServer.type
  hostName := if server.hostName ≠ none then assistanceServer.hostName else server.hostName
  port := assistanceServer.port

/-- `updateConfiguration` while the api is not ready: each setting whose flag is set is copied, and
its flag is set. -/
def merge (p : PendingConfig) (gnssConfig : GnssConfigSettings) : PendingConfig where
  size := sizeof
  flags := mergedFlags.foldl
    (fun flags flag => if hasFlag gnssConfig.flags flag then flags ||| flag else flags) p.flags
  gpsLock :=
    if hasFlag gnssConfig.flags GNSS_CONFIG_FLAGS_GPS_LOCK_VALID_BIT then gnssConfig.gpsLock
    else p.gpsLock
  suplVersion :=
    if hasFlag gnssConfig.flags GNSS_CONFIG_FLAGS_SUPL_VERSION_VALID_BIT then gnssConfig.suplVersion
    else p.suplVersion
  assistanceServer :=
    if hasFlag gnssConfig.flags GNSS_CONFIG_FLAGS_SET_ASSISTANCE_DATA_VALID_BIT then
      mergeServer p.assistanceServer gnssConfig.assistanceServer
    else p.assistanceServer
  lppProfile :=
    if hasFlag gnssConfig.flags GNSS_CONFIG_FLAGS_LPP_PROFILE_VALID_BIT then gnssConfig.lppProfile
    else p.lppProfile
  lppeControlPlaneMask :=
    if hasFlag gnssConfig.flags GNSS_CONFIG_FLAGS_LPPE_CONTROL_PLANE_VALID_BIT then
      gnssConfig.lppeControlPlaneMask
    else p.lppeControlPlaneMask
  lppeUserPlaneMask :=
    if hasFlag gnssConfig.flags GNSS_CONFIG_FLAGS_LPPE_USER_PLANE_VALID_BIT then
      gnssConfig.lppeUserPlaneMask
    else p.lppeUserPlaneMask
  aGlonassPositionProtocolMask :=
    if hasFlag gnssConfig.flags GNSS_CONFIG_FLAGS_AGLONASS_POSITION_PROTOCOL_VALID_BIT then
      gnssConfig.aGlonassPositionProtocolMask
    else p.aGlonassPositionProtocolMask
  emergencyPdnForEmergencySupl :=
    if hasFlag gnssConfig.flags GNSS_CONFIG_FLAGS_EM_PDN_FOR_EM_SUPL_VALID_BIT then
      gnssConfig.emergencyPdnForEmergencySupl
    else p.emergencyPdnForEmergencySupl
  suplEmergencyServices :=
    if hasFlag gnssConfig.flags GNSS_CONFIG_FLAGS_SUPL_EM_SERVICES_BIT then
      gnssConfig.suplEmergencyServices
    else p.suplEmergencyServices
  suplModeMask :=
    if hasFlag gnssConfig.flags GNSS_CONFIG_FLAGS_SUPL_MODE_BIT then gnssConfig.suplModeMask
    else p.suplModeMask
  blacklistedSvIds :=
    if hasFlag gnssConfig.flags GNSS_CONFIG_FLAGS_BLACKLISTED_SV_IDS_BIT then
      gnssConfig.blacklistedSvIds
    else p.blacklistedSvIds
  emergencyExtensionSeconds :=
    if hasFlag gnssConfig.flags GNSS_CONFIG_FLAGS_EMERGENCY_EXTENSION_SECONDS_BIT then
      gnssConfig.emergencyExtensionSeconds
    else p.emergencyExtensionSeconds

end PendingConfig

/-- `class Gnss`, as far as the configuration goes: whether one of `mGnssCbIface`,
`mGnssCbIface_1_1` and `mGnssCbIface_2_0` is set, whether `mApi` is, and the configs that the client
has been given. -/
structure Gnss where
  callbackSet : Bool
  mApi : Bool
  mPendingConfig : PendingConfig
  submitted : List GnssConfigSettings
  deriving DecidableEq, Repr

namespace Gnss

/-- The constructor. -/
def init : Gnss := ⟨false, false, .zero, []⟩

variable (s : Gnss)

/-- `mApi->gnssConfigurationUpdate` -/
def gnssConfigurationUpdate (gnssConfig : GnssConfigSettings) : Gnss :=
  { s with submitted := s.submitted ++ [gnssConfig] }

def getApi : Gnss :=
  if s.mApi then s
  else if s.callbackSet then
    let s := { s with mApi := true }
    if s.mPendingConfig.size = PendingConfig.sizeof then
      let s := s.gnssConfigurationUpdate s.mPendingConfig.toGnssConfigSettings
      -- clear size to invalidate mPendingConfig
      { s with mPendingConfig := { s.mPendingConfig with size := 0 } }
    else s
  else s

def updateConfiguration (gnssConfig : GnssConfigSettings) : Gnss :=
  let s := s.getApi
  if s.mApi then s.gnssConfigurationUpdate gnssConfig
  else if gnssConfig.flags ≠ 0 then
    { s with mPendingConfig := s.mPendingConfig.merge gnssConfig }
  else s

/-- A callback interface is set, and the client is made. -/
def setCallback : Gnss := { s with callbackSet := true }.getApi

end Gnss

/-! ### What the updates come to -/

/-- The value that the last update with the flag gives a setting. -/
def lastSet {α : Type*} (flag : BitVec 32) (f : GnssConfigSettings → α) (d : α)
    (updates : List GnssConfigSettings) : α :=
  newest (fun u => if hasFlag u.flags flag then some (f u) else none) d updates

/-- All flags that the updates have. -/
def unionFlags (updates : List GnssConfigSettings) : BitVec 32 :=
  updates.foldl (fun flags u => flags ||| u.flags) 0

/-- Each setting is that of the last update that flags it. -/
def mergedConfig (updates : List GnssConfigSettings) : GnssConfigSettings where
  flags := unionFlags updates
  gpsLock := lastSet GNSS_CONFIG_FLAGS_GPS_LOCK_VALID_BIT (·.gpsLock) 0 updates
  suplVersion := lastSet GNSS_CONFIG_FLAGS_SUPL_VERSION_VALID_BIT (·.suplVersion) .UNSET updates
  assistanceServer := lastSet GNSS_CONFIG_FLAGS_SET_ASSISTANCE_DATA_VALID_BIT
    (fun u => { u.assistanceServer with size := GnssConfigSetAssistanceServer.sizeof })
    ⟨0, .SUPL, none, 0⟩ updates
  lppProfile := lastSet GNSS_CONFIG_FLAGS_LPP_PROFILE_VALID_BIT (·.lppProfile) .RRLP_ON_LTE updates
  lppeControlPlaneMask := lastSet GNSS_CONFIG_FLAGS_LPPE_CONTROL_PLANE_VALID_BIT
    (·.lppeControlPlaneMask) 0 updates
  lppeUserPlaneMask := lastSet GNSS_CONFIG_FLAGS_LPPE_USER_PLANE_VALID_BIT (·.lppeUserPlaneMask) 0
    updates
  aGlonassPositionProtocolMask := lastSet GNSS_CONFIG_FLAGS_AGLONASS_POSITION_PROTOCOL_VALID_BIT
    (·.aGlonassPositionProtocolMask) 0 updates
  emergencyPdnForEmergencySupl := lastSet GNSS_CONFIG_FLAGS_EM_PDN_FOR_EM_SUPL_VALID_BIT
    (·.emergencyPdnForEmergencySupl) .NO updates
  suplEmergencyServices := lastSet GNSS_CONFIG_FLAGS_SUPL_EM_SERVICES_BIT (·.suplEmergencyServices)
    .NO updates
  suplModeMask := lastSet GNSS_CONFIG_FLAGS_SUPL_MODE_BIT (·.suplModeMask) 0 updates
  blacklistedSvIds := lastSet GNSS_CONFIG_FLAGS_BLACKLISTED_SV_IDS_BIT (·.blacklistedSvIds) [] updates
  emergencyExtensionSeconds := lastSet GNSS_CONFIG_FLAGS_EMERGENCY_EXTENSION_SECONDS_BIT
    (·.emergencyExtensionSeconds) 0 updates

section

variable {α : Type*} {flag : BitVec 32} {f : GnssConfigSettings → α} {d : α}
  {updates : List GnssConfigSettings} {u : GnssConfigSettings}

theorem lastSet_concat : lastSet flag f d (updates ++ [u]) =
    if hasFlag u.flags flag then f u else lastSet flag f d updates := by
  unfold lastSet
  rw [newest_concat]
  split <;> rfl

theorem map_lastSet {β : Type*} (g : α → β) :
    g (lastSet flag f d updates) = lastSet flag (fun u => g (f u)) (g d) updates := by
  induction updates using List.reverseRecOn with
  | nil => rfl
  | append_singleton updates u ih =>
    rw [lastSet_concat, lastSet_concat, ← ih]
    split <;> rfl

theorem unionFlags_concat : unionFlags (updates ++ [u]) = unionFlags updates ||| u.flags := by
  unfold unionFlags
  rw [List.foldl_append]
  rfl

theorem hasFlag_zero (flag : BitVec 32) : hasFlag 0 flag = false :=
  decide_eq_false fun h => h BitVec.zero_and

end

/-- All flags that there are. -/
def allFlags : BitVec 32 := 0xFFF

theorem and_allFlags_eq_iff {flags : BitVec 32} : flags &&& allFlags = flags ↔
    ∀ i < 32, flags.getLsbD i = true → allFlags.getLsbD i = true := by
  constructor
  · intro h i _ hbit
    rw [← h, BitVec.getLsbD_and, Bool.and_eq_true] at hbit
    exact hbit.2
  · intro h
    refine BitVec.eq_of_getLsbD_eq fun i hi => Bool.eq_iff_iff.mpr ?_
    rw [BitVec.getLsbD_and, Bool.and_eq_true]
    exact and_iff_left_of_imp (h i hi)

theorem getLsbD_unionFlags {updates : List GnssConfigSettings} {i : ℕ} :
    (unionFlags updates).getLsbD i = true ↔ ∃ u ∈ updates, u.flags.getLsbD i = true := by
  have hfold := foldl_or_iff (Q := fun flags : BitVec 32 => flags.getLsbD i = true)
    (P := fun u : GnssConfigSettings => u.flags.getLsbD i = true)
    (g := fun flags u => flags ||| u.flags) (l := updates) (b := 0) fun flags u _ => by
      rw [BitVec.getLsbD_or, Bool.or_eq_true]
  refine hfold.trans (or_iff_right ?_)
  exact Bool.eq_false_iff.mp BitVec.getLsbD_zero

/-- The union has only flags that there are exactly if each update has. -/
theorem unionFlags_and_allFlags {updates : List GnssConfigSettings} :
    unionFlags updates &&& allFlags = unionFlags updates ↔
      ∀ u ∈ updates, u.flags &&& allFlags = u.flags := by
  simp only [and_allFlags_eq_iff, getLsbD_unionFlags]
  constructor
  · exact fun h u hu i hi hbit => h i hi ⟨u, hu, hbit⟩
  · rintro h i hi ⟨u, hu, hbit⟩
    exact h u hu i hi hbit

theorem getLsbD_allFlags {i : ℕ} (hi : i < 32) : allFlags.getLsbD i = decide (i < 12) := by
  have hbits : ∀ i : Fin 32, allFlags.getLsbD i = decide (i.val < 12) := by decide
  exact hbits ⟨i, hi⟩

namespace PendingConfig

theorem mergedFlags_eq : mergedFlags = (List.range 12).map fun k => 1#32 <<< k := by decide

/-- The flags of an update are merged, as far as there are such flags. -/
theorem flags_merge (p : PendingConfig) (u : GnssConfigSettings) :
    (p.merge u).flags = p.flags ||| (u.flags &&& allFlags) := by
  refine BitVec.eq_of_getLsbD_eq fun i hi => Bool.eq_iff_iff.mpr ?_
  have hfold : (p.merge u).flags.getLsbD i = true ↔ p.flags.getLsbD i = true ∨
      ∃ flag ∈ mergedFlags, hasFlag u.flags flag = true ∧ flag.getLsbD i = true := by
    refine foldl_or_iff (Q := fun flags : BitVec 32 => flags.getLsbD i = true) fun flags flag _ => ?_
    by_cases hflag : hasFlag u.flags flag = true
    · rw [if_pos hflag, BitVec.getLsbD_or, Bool.or_eq_true, and_iff_right hflag]
    · rw [if_neg hflag, or_iff_left fun h => hflag h.1]
  rw [hfold, BitVec.getLsbD_or, Bool.or_eq_true, BitVec.getLsbD_and, Bool.and_eq_true,
    getLsbD_allFlags hi, decide_eq_true_eq, mergedFlags_eq]
  refine or_congr_right ⟨?_, fun ⟨hbit, hlt⟩ => ?_⟩
  · rintro ⟨flag, hmem, hflag, hbit⟩
    obtain ⟨k, hk, rfl⟩ := List.mem_map.mp hmem
    have hk12 : k < 12 := List.mem_range.mp hk
    have hk32 : k < 32 := hk12.trans (by decide)
    rw [getLsbD_oneShift hk32] at hbit
    rw [hasFlag_bit _ _ k hk32 rfl] at hflag
    rw [of_decide_eq_true hbit]
    exact ⟨hflag, hk12⟩
  · refine ⟨_, List.mem_map.mpr ⟨i, List.mem_range.mpr hlt, rfl⟩, ?_, ?_⟩
    · rw [hasFlag_bit _ _ i hi rfl]
      exact hbit
    · rw [getLsbD_oneShift hi]
      exact decide_eq_true rfl

/-- What is pending after a list of updates: the name of the host is lost. -/
def ofUpdates (updates : List GnssConfigSettings) : PendingConfig :=
  { mergedConfig updates with
    flags := unionFlags updates &&& allFlags
    assistanceServer := { (mergedConfig updates).assistanceServer with hostName := none }
    size := if ∀ u ∈ updates, u.flags = 0 then 0 else sizeof }

theorem assistanceServer_merge (updates : List GnssConfigSettings) (u : GnssConfigSettings) :
    ((ofUpdates updates).merge u).assistanceServer =
      (ofUpdates (updates ++ [u])).assistanceServer := by
  have hconcat : (mergedConfig (updates ++ [u])).assistanceServer =
      if hasFlag u.flags GNSS_CONFIG_FLAGS_SET_ASSISTANCE_DATA_VALID_BIT then
        { u.assistanceServer with size := GnssConfigSetAssistanceServer.sizeof }
      else (mergedConfig updates).assistanceServer := lastSet_concat
  show (if hasFlag u.flags _ then mergeServer (ofUpdates updates).assistanceServer _ else _) =
    { (mergedConfig (updates ++ [u])).assistanceServer with hostName := none }
  rw [hconcat]
  split <;> rfl

theorem ofUpdates_concat_of_flags {updates : List GnssConfigSettings} {u : GnssConfigSettings}
    (hu : u.flags ≠ 0) : (ofUpdates updates).merge u = ofUpdates (updates ++ [u]) := by
  have hsize : ¬ ∀ u' ∈ updates ++ [u], u'.flags = 0 := fun h =>
    hu (h u (List.mem_append_right _ (List.mem_singleton_self u)))
  ext1
  case flags =>
    rw [flags_merge]
    show (unionFlags updates &&& allFlags) ||| (u.flags &&& allFlags) =
      unionFlags (updates ++ [u]) &&& allFlags
    rw [unionFlags_concat, BitVec.and_or_distrib_right]
  case assistanceServer => exact assistanceServer_merge updates u
  case size => exact (if_neg hsize).symm
  all_goals exact lastSet_concat.symm

/-- An update without flags changes nothing. -/
theorem ofUpdates_concat_of_no_flags {updates : List GnssConfigSettings} {u : GnssConfigSettings}
    (hu : u.flags = 0) : ofUpdates (updates ++ [u]) = ofUpdates updates := by
  have hlast {α : Type} (flag : BitVec 32) (f : GnssConfigSettings → α) (d : α) :
      lastSet flag f d (updates ++ [u]) = lastSet flag f d updates := by
    rw [lastSet_concat, hu, hasFlag_zero]
    rfl
  ext1
  case flags =>
    show unionFlags (updates ++ [u]) &&& allFlags = unionFlags updates &&& allFlags
    rw [unionFlags_concat, hu]
    exact congrArg (· &&& allFlags) BitVec.or_zero
  case assistanceServer =>
    exact congrArg (fun server : GnssConfigSetAssistanceServer => { server with hostName := none })
      (hlast _ _ _)
  case size =>
    refine if_congr ?_ rfl rfl
    rw [List.forall_mem_append, List.forall_mem_singleton]
    exact and_iff_left hu
  all_goals exact hlast _ _ _

end PendingConfig

namespace Gnss

variable {updates : List GnssConfigSettings}

/-- What is pending after a list of updates while no callback is set. -/
theorem mPendingConfig_foldl :
    updates.foldl updateConfiguration init = ⟨false, false, .ofUpdates updates, []⟩ := by
  induction updates using List.reverseRecOn with
  | nil => decide
  | append_singleton updates u ih =>
    rw [List.foldl_append, ih]
    by_cases hu : u.flags = 0
    · rw [PendingConfig.ofUpdates_concat_of_no_flags hu]
      exact if_neg (not_not_intro hu)
    · rw [← PendingConfig.ofUpdates_concat_of_flags hu]
      exact if_pos hu

/-- While no callback is set, `getApi` does nothing. -/
theorem getApi_of_not_set {s : Gnss} (hapi : s.mApi = false) (hset : s.callbackSet = false) :
    s.getApi = s := by
  unfold getApi
  rw [hapi, hset]
  rfl

/-- The updates are submitted as one config when the client has been made, if they have any flag, and
not again afterwards. -/
structure Flushes (updates : List GnssConfigSettings) : Prop where
  waits : (updates.foldl updateConfiguration init).submitted = []
  submits : (updates.foldl updateConfiguration init).setCallback.submitted =
    if ∀ u ∈ updates, u.flags = 0 then [] else [mergedConfig updates]
  ready : (updates.foldl updateConfiguration init).setCallback.mApi = true
  once : (updates.foldl updateConfiguration init).setCallback.getApi =
    (updates.foldl updateConfiguration init).setCallback

/-- The updates have no flags besides the ones that there are, and the last one with an assistance
server, if any has one, has none with a name. -/
structure Mergeable (updates : List GnssConfigSettings) : Prop where
  flags : ∀ u ∈ updates, u.flags &&& allFlags = u.flags
  hostName : lastSet GNSS_CONFIG_FLAGS_SET_ASSISTANCE_DATA_VALID_BIT (·.assistanceServer.hostName)
    none updates = none

/-- What is pending is the merged config, but for unknown flags and the name of the host. -/
theorem ofUpdates_eq_iff : (PendingConfig.ofUpdates updates).toGnssConfigSettings =
    mergedConfig updates ↔ Mergeable updates := by
  have hhost : (mergedConfig updates).assistanceServer.hostName =
      lastSet GNSS_CONFIG_FLAGS_SET_ASSISTANCE_DATA_VALID_BIT (·.assistanceServer.hostName) none
        updates :=
    map_lastSet GnssConfigSetAssistanceServer.hostName
  constructor
  · intro h
    refine ⟨unionFlags_and_allFlags.mp (congrArg (·.flags) h), ?_⟩
    rw [← hhost, ← h]
    rfl
  · intro h
    have hflags : unionFlags updates &&& allFlags = (mergedConfig updates).flags :=
      unionFlags_and_allFlags.mpr h.flags
    have hserver : { (mergedConfig updates).assistanceServer with hostName := none } =
        (mergedConfig updates).assistanceServer := by
      rw [← h.hostName, ← hhost]
    unfold PendingConfig.ofUpdates
    rw [hflags, hserver]

/-- Without flags there is nothing to merge. -/
theorem mergeable_of_no_flags (hall : ∀ u ∈ updates, u.flags = 0) : Mergeable updates := by
  refine ⟨fun u hu => by rw [hall u hu]; rfl, ?_⟩
  induction updates using List.reverseRecOn with
  | nil => rfl
  | append_singleton updates u ih =>
    obtain ⟨hupdates, hu⟩ := List.forall_mem_append.mp hall
    rw [lastSet_concat, List.forall_mem_singleton.mp hu, hasFlag_zero]
    exact ih hupdates

/-- The client is made: the pending config is submitted if its size says so. -/
theorem setCallback_pending (p : PendingConfig) :
    (⟨false, false, p, []⟩ : Gnss).setCallback =
      if p.size = PendingConfig.sizeof then
        ⟨true, true, { p with size := 0 }, [p.toGnssConfigSettings]⟩
      else ⟨true, true, p, []⟩ := rfl

/-- **The pending configuration** : the updates are submitted as one config, each setting as the last
update has it, exactly if the condition holds. -/
theorem flushes_iff (updates : List GnssConfigSettings) : Flushes updates ↔ Mergeable updates := by
  by_cases hall : ∀ u ∈ updates, u.flags = 0
  · have hsize : (PendingConfig.ofUpdates updates).size ≠ PendingConfig.sizeof := by
      show (if ∀ u ∈ updates, u.flags = 0 then 0 else PendingConfig.sizeof) ≠ _
      rw [if_pos hall]
      decide
    refine iff_of_true ?_ (mergeable_of_no_flags hall)
    constructor <;> rw [mPendingConfig_foldl]
    · rw [setCallback_pending, if_neg hsize, if_pos hall]
    · rw [setCallback_pending, if_neg hsize]
    · rw [setCallback_pending, if_neg hsize]
      rfl
  · have hsize : (PendingConfig.ofUpdates updates).size = PendingConfig.sizeof := if_neg hall
    rw [← ofUpdates_eq_iff]
    constructor
    · intro h
      have hsubmits := h.submits
      rw [mPendingConfig_foldl, setCallback_pending, if_pos hsize, if_neg hall] at hsubmits
      exact List.singleton_inj.mp hsubmits
    · intro h
      constructor <;> rw [mPendingConfig_foldl]
      · rw [setCallback_pending, if_pos hsize, if_neg hall, h]
      · rw [setCallback_pending, if_pos hsize]
      · rw [setCallback_pending, if_pos hsize]
        rfl

/-- An update of the assistance server. -/
def serverUpdate (hostName : Option String) : GnssConfigSettings :=
  { GnssConfigSettings.zero with
    flags := GNSS_CONFIG_FLAGS_SET_ASSISTANCE_DATA_VALID_BIT
    assistanceServer := ⟨GnssConfigSetAssistanceServer.sizeof, .SUPL, hostName, 7275⟩ }

/-- The client gets a server without a name. -/
theorem hostName_lost :
    ([serverUpdate (some "supl.example")].foldl updateConfiguration init).setCallback.submitted =
        [serverUpdate none] ∧
      ¬ Flushes [serverUpdate (some "supl.example")] := by
  refine ⟨by decide, fun h => ?_⟩
  exact absurd h.submits (by decide)

end Gnss

end GpsHal
