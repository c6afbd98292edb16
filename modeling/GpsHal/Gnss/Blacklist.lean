import GpsHal.Transition.Basic
import GpsHal.Util.Fold

/-!
# `GnssAdapter` : the blacklist of the modem

Two configurations decide which satellites the modem must not use: a list of SVs
(`gnssUpdateConfigCommand`) and a set of constellations (`gnssUpdateSvTypeConfigCommand`).
`gnss/GnssAdapter.cpp` keeps both and sends one message to the modem, with a mask of 64 bits for
each of four constellations.

Commands are messages of the adapter's thread.  A list of SVs is only handed on there: it takes
effect in a message of the thread of `LocApiBase`.  Before the engine is up for the first time, the
messages are pending.

## Main definitions

* `GnssSvIdConfig` and its masks, `convertToGnssSvIdConfig`, `blacklistTypes`.
* `GnssBlacklist` : the state of the adapter, its queues and what was sent to the modem.
* `GnssBlacklist.step` : the steps, labelled by `BlacklistEvent`.
-/

namespace GpsHal

inductive GnssSvType where
  | UNKNOWN | GPS | SBAS | GLONASS | QZSS | BEIDOU | GALILEO | NAVIC
  deriving DecidableEq, Repr

/-- `struct GnssSvIdSource` -/
structure GnssSvIdSource where
  size : ℕ
  constellation : GnssSvType
  svId : ℕ
  deriving DecidableEq, Repr

def GNSS_SV_CONFIG_ALL_BITS_ENABLED_MASK : BitVec 64 := 0xFFFFFFFFFFFFFFFF#64

/-- The four masks of `GnssSvIdConfig`. -/
inductive SvMask where
  | glo | bds | qzss | gal
  deriving DecidableEq, Repr

namespace SvMask

/-- The SV of bit 0 : `GNSS_SV_CONFIG_GLO_INITIAL_SV_ID` and so on. -/
def initialSvId : SvMask → ℕ
  | glo => 65
  | bds => 201
  | qzss => 193
  | gal => 301

/-- `GNSS_SV_TYPES_MASK_GLO_BIT` and so on. -/
def typeBit : SvMask → BitVec 64
  | glo => 1 <<< 0
  | bds => 1 <<< 1
  | qzss => 1 <<< 2
  | gal => 1 <<< 3

end SvMask

/-- The mask that `svMaskPtr` points to, if any. -/
def GnssSvType.svMask : GnssSvType → Option SvMask
  | GLONASS => some .glo
  | BEIDOU => some .bds
  | QZSS => some .qzss
  | GALILEO => some .gal
  | _ => none

/-- `struct GnssSvIdConfig` -/
structure GnssSvIdConfig where
  size : ℕ
  gloBlacklistSvMask : BitVec 64
  bdsBlacklistSvMask : BitVec 64
  qzssBlacklistSvMask : BitVec 64
  galBlacklistSvMask : BitVec 64
  deriving DecidableEq, Repr

namespace GnssSvIdConfig

/-- `sizeof(GnssSvIdConfig)` -/
def sizeof : ℕ := 40

/-- What `memset` leaves. -/
def zero : GnssSvIdConfig := ⟨0, 0, 0, 0, 0⟩

def get (config : GnssSvIdConfig) : SvMask → BitVec 64
  | .glo => config.gloBlacklistSvMask
  | .bds => config.bdsBlacklistSvMask
  | .qzss => config.qzssBlacklistSvMask
  | .gal => config.galBlacklistSvMask

def set (config : GnssSvIdConfig) (mask : BitVec 64) : SvMask → GnssSvIdConfig
  | .glo => { config with gloBlacklistSvMask := mask }
  | .bds => { config with bdsBlacklistSvMask := mask }
  | .qzss => { config with qzssBlacklistSvMask := mask }
  | .gal => { config with galBlacklistSvMask := mask }

variable {config : GnssSvIdConfig} {mask : BitVec 64} {m m' : SvMask} {n : ℕ}

@[simp] theorem get_zero : zero.get m = 0 := by
  cases m <;> rfl

@[simp] theorem get_size : { config with size := n }.get m = config.get m := by
  cases m <;> rfl

@[simp] theorem get_set_self : (config.set mask m).get m = mask := by
  cases m <;> rfl

theorem get_set_of_ne (h : m' ≠ m) : (config.set mask m').get m = config.get m := by
  cases m <;> cases m' <;> first | rfl | exact absurd rfl h

end GnssSvIdConfig

/-- `struct GnssSvTypeConfig` -/
structure GnssSvTypeConfig where
  size : ℕ
  enabledSvTypesMask : BitVec 64
  blacklistedSvTypesMask : BitVec 64
  deriving DecidableEq, Repr

namespace GnssSvTypeConfig

/-- `sizeof(GnssSvTypeConfig)` -/
def sizeof : ℕ := 24

/-- The config blacklists the constellation of the mask. -/
def Blacklists (config : GnssSvTypeConfig) (m : SvMask) : Prop :=
  config.blacklistedSvTypesMask &&& m.typeBit ≠ 0

instance (config : GnssSvTypeConfig) (m : SvMask) : Decidable (config.Blacklists m) :=
  inferInstanceAs (Decidable (_ ≠ _))

end GnssSvTypeConfig

def GNSS_CONFIG_FLAGS_GPS_LOCK_VALID_BIT : BitVec 32 := 1 <<< 0

def GNSS_CONFIG_FLAGS_BLACKLISTED_SV_IDS_BIT : BitVec 32 := 1 <<< 10

/-- `struct GnssConfig`, as far as the blacklist goes. -/
structure GnssConfig where
  flags : BitVec 32
  blacklistedSvIds : List GnssSvIdSource
  deriving DecidableEq, Repr

/-- The list of SVs of the config, if its flag is set. -/
def GnssConfig.svIds (config : GnssConfig) : Option (List GnssSvIdSource) :=
  if config.flags &&& GNSS_CONFIG_FLAGS_BLACKLISTED_SV_IDS_BIT ≠ 0 then
    some config.blacklistedSvIds
  else none

/-! ### From lists to masks -/

section Convert

-- what the compiler makes of `1 << n` for `n` from 32 on
variable (overshift : ℕ → BitVec 64)

/-- `(uint64_t)(1 << n)` : an `int` is shifted, so bit 31 is the sign and is extended. -/
def shiftOne (n : ℕ) : BitVec 64 :=
  if n < 32 then (1#32 <<< n).signExtend 64 else overshift n

/-- One turn of the loop of `convertToGnssSvIdConfig`. -/
def addSource (config : GnssSvIdConfig) (source : GnssSvIdSource) : GnssSvIdConfig :=
  match source.constellation.svMask with
  | none => config
  | some m =>
    if source.svId = 0 then config.set GNSS_SV_CONFIG_ALL_BITS_ENABLED_MASK m
    else if source.svId < m.initialSvId ∨ m.initialSvId + 64 ≤ source.svId then config
    else config.set (config.get m ||| shiftOne overshift (source.svId - m.initialSvId)) m

/-- `convertToGnssSvIdConfig`.  The empty list has a branch of its own, which clears the masks.
Nothing here reads the result that says whether any source was valid. -/
def convertToGnssSvIdConfig (blacklistedSvIds : List GnssSvIdSource) (config : GnssSvIdConfig) :
    GnssSvIdConfig :=
  let config := { config with size := GnssSvIdConfig.sizeof }
  if blacklistedSvIds.length = 0 then
    { config with
      gloBlacklistSvMask := 0
      bdsBlacklistSvMask := 0
      qzssBlacklistSvMask := 0
      galBlacklistSvMask := 0 }
  else blacklistedSvIds.foldl (addSource overshift) config

end Convert

/-- Blacklist all SVs of the constellation of `m` if it is disabled. -/
def blacklistType (config : GnssSvTypeConfig) (blacklistConfig : GnssSvIdConfig) (m : SvMask) :
    GnssSvIdConfig :=
  if config.Blacklists m then blacklistConfig.set GNSS_SV_CONFIG_ALL_BITS_ENABLED_MASK m
  else blacklistConfig

/-- Blacklist all SVs for each disabled constellation. -/
def blacklistTypes (config : GnssSvTypeConfig) (blacklistConfig : GnssSvIdConfig) :
    GnssSvIdConfig :=
  if config.blacklistedSvTypesMask ≠ 0 then
    [SvMask.glo, .bds, .qzss, .gal].foldl (blacklistType config) blacklistConfig
  else blacklistConfig

/-- A call of `LocApiBase` that goes to the modem. -/
inductive ModemRequest where
  | setBlacklistSvSync (config : GnssSvIdConfig)
  | setBlacklistSv (config : GnssSvIdConfig)
  | resetConstellationControl
  | setConstellationControl (config : GnssSvTypeConfig)
  deriving DecidableEq, Repr

/-- The blacklist that the request sends. -/
def ModemRequest.blacklist? : ModemRequest → Option GnssSvIdConfig
  | setBlacklistSvSync config => some config
  | setBlacklistSv config => some config
  | _ => none

/-- A message of the adapter. -/
inductive BlacklistMsg where
  | gnssUpdateConfig (config : GnssConfig)
  | gnssUpdateSvTypeConfig (config : GnssSvTypeConfig)
  | gnssResetSvTypeConfig
  | handleEngineUpEvent
  deriving DecidableEq, Repr

/-- The list of SVs that the message configures. -/
def BlacklistMsg.svIds? : BlacklistMsg → Option (List GnssSvIdSource)
  | gnssUpdateConfig config => config.svIds
  | _ => none

/-- What can happen. -/
inductive BlacklistEvent where
  | gnssUpdateConfigCommand (config : GnssConfig)
  | gnssUpdateSvTypeConfigCommand (config : GnssSvTypeConfig)
  | gnssResetSvTypeConfigCommand
  | handleEngineUpEvent
  /-- The adapter takes its next message. -/
  | process
  /-- The thread of `LocApiBase` takes its next message. -/
  | processLocApi
  deriving DecidableEq, Repr

/-- The list of SVs that the command configures. -/
def BlacklistEvent.svIds? : BlacklistEvent → Option (List GnssSvIdSource)
  | gnssUpdateConfigCommand config => config.svIds
  | _ => none

/-- The state of the adapter, as far as the blacklist goes. -/
structure GnssBlacklist where
  mIsEngineCapabilitiesKnown : Bool
  mBlacklistedSvIds : List GnssSvIdSource
  mGnssSvIdConfig : GnssSvIdConfig
  mGnssSvTypeConfig : GnssSvTypeConfig
  mPendingMsgs : List BlacklistMsg
  queue : List BlacklistMsg
  /-- The messages of `LocApiBase` : each of them calls `gnssUpdateConfig`. -/
  locApiQueue : List GnssConfig
  /-- What was sent to the modem, oldest first. -/
  requests : List ModemRequest

namespace GnssBlacklist

/-- The blacklist last sent to the modem, which has none before the first one. -/
def lastBlacklist (s : GnssBlacklist) : GnssSvIdConfig :=
  newest ModemRequest.blacklist? .zero s.requests

def request (s : GnssBlacklist) (r : ModemRequest) : GnssBlacklist :=
  { s with requests := s.requests ++ [r] }

def sendMsg (s : GnssBlacklist) (msg : BlacklistMsg) : GnssBlacklist :=
  { s with queue := s.queue ++ [msg] }

/-- Keep the message until the engine is up. -/
def pend (s : GnssBlacklist) (msg : BlacklistMsg) : GnssBlacklist :=
  { s with mPendingMsgs := s.mPendingMsgs ++ [msg] }

/-- `gnssSvIdConfigUpdate()` -/
def gnssSvIdConfigUpdate (s : GnssBlacklist) : GnssBlacklist :=
  s.request (.setBlacklistSv s.mGnssSvIdConfig)

/-- `gnssSvTypeConfigUpdate(bool)` -/
def gnssSvTypeConfigUpdate (s : GnssBlacklist) (sendReset : Bool) : GnssBlacklist :=
  if s.mGnssSvTypeConfig.size = GnssSvTypeConfig.sizeof then
    let s := if sendReset = true then s.request .resetConstellationControl else s
    let s := s.request (.setBlacklistSv (blacklistTypes s.mGnssSvTypeConfig s.mGnssSvIdConfig))
    -- Send only enabled constellation config
    if s.mGnssSvTypeConfig.enabledSvTypesMask ≠ 0 then
      s.request (.setConstellationControl
        ⟨GnssSvTypeConfig.sizeof, s.mGnssSvTypeConfig.enabledSvTypesMask, 0⟩)
    else s
  else s

/-- `gnssSvTypeConfigUpdate(const GnssSvTypeConfig&)` -/
def gnssSetAndUpdateSvTypeConfig (s : GnssBlacklist) (config : GnssSvTypeConfig) :
    GnssBlacklist :=
  let enabledRemoved := s.mGnssSvTypeConfig.enabledSvTypesMask &&&
    (s.mGnssSvTypeConfig.enabledSvTypesMask ^^^ config.enabledSvTypesMask)
  { s with mGnssSvTypeConfig := config }.gnssSvTypeConfigUpdate (enabledRemoved ≠ 0)

/-- `setConfig` : the configs are injected again, the list of SVs as it is now. -/
def setConfig (s : GnssBlacklist) : GnssBlacklist :=
  let gnssConfigRequested : GnssConfig :=
    ⟨GNSS_CONFIG_FLAGS_GPS_LOCK_VALID_BIT ||| GNSS_CONFIG_FLAGS_BLACKLISTED_SV_IDS_BIT,
      s.mBlacklistedSvIds⟩
  { s with locApiQueue := s.locApiQueue ++ [gnssConfigRequested] }

section Proc

-- `LOC_SUPPORTED_FEATURE_CONSTELLATION_ENABLEMENT_V02`
variable (supported : Bool) (overshift : ℕ → BitVec 64)

/-- `gnssSvIdConfigUpdateSync(const std::vector<GnssSvIdSource>&)` -/
def gnssSvIdConfigUpdateSync (s : GnssBlacklist) (blacklistedSvIds : List GnssSvIdSource) :
    GnssBlacklist :=
  let config := convertToGnssSvIdConfig overshift blacklistedSvIds .zero
  { s with mGnssSvIdConfig := config }.request (.setBlacklistSvSync config)

/-- `gnssUpdateConfig`, on the thread of `LocApiBase`. -/
def gnssUpdateConfig (s : GnssBlacklist) (gnssConfigRequested : GnssConfig) : GnssBlacklist :=
  match gnssConfigRequested.svIds with
  | none => s
  | some blacklistedSvIds =>
    if supported = true then
      { s with mBlacklistedSvIds := blacklistedSvIds }.gnssSvIdConfigUpdateSync overshift
        blacklistedSvIds
    else s

/-- `MsgHandleEngineUpEvent::proc` -/
def procEngineUp (s : GnssBlacklist) : GnssBlacklist :=
  let s := { s with mIsEngineCapabilitiesKnown := true }.setConfig
  let s := s.gnssSvIdConfigUpdate.gnssSvTypeConfigUpdate false
  { s with queue := s.queue ++ s.mPendingMsgs, mPendingMsgs := [] }

def proc (s : GnssBlacklist) : BlacklistMsg → GnssBlacklist
  | .gnssUpdateConfig config =>
    if s.mIsEngineCapabilitiesKnown = false then s.pend (.gnssUpdateConfig config)
    else { s with locApiQueue := s.locApiQueue ++ [config] }
  | .gnssUpdateSvTypeConfig config =>
    if s.mIsEngineCapabilitiesKnown = false then s.pend (.gnssUpdateSvTypeConfig config)
    else if supported = true then s.gnssSetAndUpdateSvTypeConfig config
    else s
  | .gnssResetSvTypeConfig =>
    if s.mIsEngineCapabilitiesKnown = false then s.pend .gnssResetSvTypeConfig
    else if supported = true then
      let s := { s with mGnssSvTypeConfig := ⟨GnssSvTypeConfig.sizeof, 0, 0⟩ }
      -- Re-enforce SV blacklist config
      s.gnssSvIdConfigUpdate.request .resetConstellationControl
    else s
  | .handleEngineUpEvent => s.procEngineUp

/-! #### Steps -/

def step (s : GnssBlacklist) : BlacklistEvent → Option GnssBlacklist
  | .gnssUpdateConfigCommand config =>
    -- without a flag there is nothing to update, and no message
    some (if config.flags ≠ 0 then s.sendMsg (.gnssUpdateConfig config) else s)
  | .gnssUpdateSvTypeConfigCommand config => some (s.sendMsg (.gnssUpdateSvTypeConfig config))
  | .gnssResetSvTypeConfigCommand => some (s.sendMsg .gnssResetSvTypeConfig)
  | .handleEngineUpEvent => some (s.sendMsg .handleEngineUpEvent)
  | .process =>
    match s.queue with
    | [] => none
    | msg :: queue => some ({ s with queue := queue }.proc supported msg)
  | .processLocApi =>
    match s.locApiQueue with
    | [] => none
    | config :: locApiQueue =>
      some ({ s with locApiQueue := locApiQueue }.gnssUpdateConfig supported overshift config)

/-- Nothing has been configured. -/
def initial : GnssBlacklist where
  mIsEngineCapabilitiesKnown := false
  mBlacklistedSvIds := []
  mGnssSvIdConfig := .zero
  mGnssSvTypeConfig := ⟨0, 0, 0⟩
  mPendingMsgs := []
  queue := []
  locApiQueue := []
  requests := []

/-- The blacklist, from the start of the adapter. -/
def system : System GnssBlacklist BlacklistEvent := .ofPartial initial (step supported overshift)

end Proc

end GnssBlacklist

end GpsHal
