import GpsHal.Gnss.Blacklist
import GpsHal.Location.DataTypes

/-!
# `GnssAdapter` : updating the configuration

`gnssUpdateConfigCommand` takes a set of settings, marked by flags, and reserves an id for each of
them.  Its message writes what is requested into `ContextBase::mGps_conf`; a message of `LocApiBase`
then hands the settings on to the engine in `gnssUpdateConfig`, which returns a list of errors.
That list goes back to the client together with the ids.

## Main definitions

* `GnssConfigSettings` : the configuration that is requested.
* `ConfigAdapter.gnssUpdateConfigCommand`, `ConfigAdapter.procUpdateConfig`,
  `ConfigAdapter.gnssUpdateConfig` : the command, its message, and the part on the thread of
  `LocApiBase`.
-/

namespace GpsHal

def GNSS_CONFIG_FLAGS_SUPL_VERSION_VALID_BIT : BitVec 32 := 1 <<< 1
def GNSS_CONFIG_FLAGS_SET_ASSISTANCE_DATA_VALID_BIT : BitVec 32 := 1 <<< 2
def GNSS_CONFIG_FLAGS_LPP_PROFILE_VALID_BIT : BitVec 32 := 1 <<< 3
def GNSS_CONFIG_FLAGS_LPPE_CONTROL_PLANE_VALID_BIT : BitVec 32 := 1 <<< 4
def GNSS_CONFIG_FLAGS_LPPE_USER_PLANE_VALID_BIT : BitVec 32 := 1 <<< 5
def GNSS_CONFIG_FLAGS_AGLONASS_POSITION_PROTOCOL_VALID_BIT : BitVec 32 := 1 <<< 6
def GNSS_CONFIG_FLAGS_EM_PDN_FOR_EM_SUPL_VALID_BIT : BitVec 32 := 1 <<< 7
def GNSS_CONFIG_FLAGS_SUPL_EM_SERVICES_BIT : BitVec 32 := 1 <<< 8
def GNSS_CONFIG_FLAGS_SUPL_MODE_BIT : BitVec 32 := 1 <<< 9
def GNSS_CONFIG_FLAGS_EMERGENCY_EXTENSION_SECONDS_BIT : BitVec 32 := 1 <<< 11

def GNSS_CONFIG_GPS_LOCK_NONE : BitVec 32 := 0
def GNSS_CONFIG_GPS_LOCK_MO : BitVec 32 := 1

/-- `struct GnssConfig`, with the settings besides the blacklist. -/
structure GnssConfigSettings extends GnssConfig where
  gpsLock : BitVec 32
  suplVersion : GnssConfigSuplVersion
  assistanceServer : GnssConfigSetAssistanceServer
  lppProfile : GnssConfigLppProfile
  lppeControlPlaneMask : BitVec 16
  lppeUserPlaneMask : BitVec 16
  aGlonassPositionProtocolMask : BitVec 16
  emergencyPdnForEmergencySupl : GnssConfigEmergencyPdnForEmergencySupl
  suplEmergencyServices : GnssConfigSuplEmergencyServices
  suplModeMask : BitVec 16
  emergencyExtensionSeconds : BitVec 32
  deriving DecidableEq, Repr

namespace GnssConfigSettings

/-- The configuration with every byte zero. -/
def zero : GnssConfigSettings where
  flags := 0
  blacklistedSvIds := []
  gpsLock := 0
  suplVersion := .UNSET
  assistanceServer := ⟨0, .SUPL, none, 0⟩
  lppProfile := .RRLP_ON_LTE
  lppeControlPlaneMask := 0
  lppeUserPlaneMask := 0
  aGlonassPositionProtocolMask := 0
  emergencyPdnForEmergencySupl := .NO
  suplEmergencyServices := .NO
  suplModeMask := 0
  emergencyExtensionSeconds := 0

/-- `GnssConfig::equals` -/
def equals (c config : GnssConfigSettings) : Bool :=
  c.flags == config.flags && c.gpsLock == config.gpsLock && c.suplVersion == config.suplVersion &&
    c.assistanceServer.equals config.assistanceServer && c.lppProfile == config.lppProfile &&
    c.lppeControlPlaneMask == config.lppeControlPlaneMask &&
    c.lppeUserPlaneMask == config.lppeUserPlaneMask &&
    c.aGlonassPositionProtocolMask == config.aGlonassPositionProtocolMask &&
    c.emergencyPdnForEmergencySupl == config.emergencyPdnForEmergencySupl &&
    c.suplEmergencyServices == config.suplEmergencyServices &&
    c.suplModeMask == config.suplModeMask && c.blacklistedSvIds == config.blacklistedSvIds &&
    c.emergencyExtensionSeconds == config.emergencyExtensionSeconds

end GnssConfigSettings

/-- The flag of a setting is among the flags. -/
def hasFlag (flags flag : BitVec 32) : Bool := flags &&& flag ≠ 0

/-! ### Values for `mGps_conf` -/

def convertSuplVersion : GnssConfigSuplVersion → BitVec 32
  | .V2_0_0 => 0x00020000
  | .V2_0_2 => 0x00020002
  | .V1_0_0 | .UNSET => 0x00010000

def convertLppProfile : GnssConfigLppProfile → BitVec 32
  | .USER_PLANE => 1
  | .CONTROL_PLANE => 2
  | .USER_PLANE_AND_CONTROL_PLANE => 3
  | .RRLP_ON_LTE => 0

/-- The mask whose bit `i` is set for each bit `i` of the list that the given mask has. -/
def convertBits (bits : List ℕ) (given : BitVec 16) : BitVec 32 :=
  bits.foldl (fun mask i => if (1 <<< i : BitVec 16) &&& given ≠ 0 then mask ||| (1 <<< i) else mask) 0

def convertLppeCp (lppeControlPlaneMask : BitVec 16) : BitVec 32 :=
  convertBits [0, 1, 2, 3] lppeControlPlaneMask

def convertLppeUp (lppeUserPlaneMask : BitVec 16) : BitVec 32 :=
  convertBits [0, 1, 2, 3] lppeUserPlaneMask

def convertAGloProt (aGloPositionProtocolMask : BitVec 16) : BitVec 32 :=
  convertBits [0, 1, 2, 3] aGloPositionProtocolMask

def convertEP4ES : GnssConfigEmergencyPdnForEmergencySupl → BitVec 32
  | .YES => 1
  | .NO => 0

def convertSuplEs : GnssConfigSuplEmergencyServices → BitVec 32
  | .YES => 1
  | .NO => 0

def convertSuplMode (suplModeMask : BitVec 16) : BitVec 32 := convertBits [0, 1] suplModeMask

/-- The part of `loc_gps_cfg_s` that the commands write. -/
structure GpsConf where
  GPS_LOCK : BitVec 32
  SUPL_VER : BitVec 32
  SUPL_HOST : String
  SUPL_PORT : BitVec 32
  LPP_PROFILE : BitVec 32
  LPPE_CP_TECHNOLOGY : BitVec 32
  LPPE_UP_TECHNOLOGY : BitVec 32
  A_GLONASS_POS_PROTOCOL_SELECT : BitVec 32
  USE_EMERGENCY_PDN_FOR_EMERGENCY_SUPL : BitVec 32
  SUPL_ES : BitVec 32
  SUPL_MODE : BitVec 32
  AGPS_CONFIG_INJECT : Bool
  deriving DecidableEq, Repr

inductive LocServerType where
  | CDMA_PDE_SERVER | CUSTOM_PDE_SERVER | MPC_SERVER | SUPL_SERVER | MO_SUPL_SERVER
  deriving DecidableEq, Repr

/-- The calls of `LocApiBase` that hand a setting on to the engine and wait for its answer. -/
inductive ConfigRequest where
  | setGpsLockSync (lock : BitVec 32)
  | setServerSync (url : String) (type : LocServerType)
  | setServerIpSync (ip : BitVec 32) (port : BitVec 32) (type : LocServerType)
  | setSUPLVersionSync (version : GnssConfigSuplVersion)
  | setLPPConfigSync (profile : GnssConfigLppProfile)
  | setLPPeProtocolCpSync (lppeCP : BitVec 16)
  | setLPPeProtocolUpSync (lppeUP : BitVec 16)
  | setAGLONASSProtocolSync (aGlonassProtocol : BitVec 16)
  | setBlacklistSvSync (config : GnssSvIdConfig)
  | setEmergencyExtensionWindowSync (emergencyExtensionSeconds : BitVec 32)
  deriving DecidableEq, Repr

/-- `MsgGnssUpdateConfig` -/
structure MsgGnssUpdateConfig where
  mConfig : GnssConfigSettings
  mCount : ℕ
  mIds : List (BitVec 32)
  deriving DecidableEq, Repr

/-- The state of `GnssAdapter` that the commands use. -/
structure ConfigAdapter where
  mIsEngineCapabilitiesKnown : Bool
  mGps_conf : GpsConf
  mServerUrl : String
  mMoServerUrl : String
  mAfwControlId : BitVec 32
  mSupportNfwControl : Bool
  mBlacklistedSvIds : List GnssSvIdSource
  mGnssSvIdConfig : GnssSvIdConfig
  mSessionIdCounter : BitVec 32
  mPendingMsgs : List MsgGnssUpdateConfig
  deriving DecidableEq, Repr

/-- What `MsgGnssUpdateConfig::proc` hands on to the thread of `LocApiBase`. -/
structure UpdateConfigRequest where
  gnssConfigRequested : GnssConfigSettings
  gnssConfigNeedEngineUpdate : GnssConfigSettings
  countOfConfigs : ℕ
  sessionIds : List (BitVec 32)
  /-- The errors that the adapter has found itself. -/
  errs : List LocationError
  deriving DecidableEq, Repr

/-- A call of the collective response callback. -/
structure CollectiveResponse where
  count : ℕ
  errs : List LocationError
  ids : List (BitVec 32)
  deriving DecidableEq, Repr

namespace ConfigAdapter

/-! ### The command -/

/-- The loop that counts the bits that are set; a flag mask has `n` bits at most. -/
def countFlags : ℕ → BitVec 32 → ℕ
  | 0, _ => 0
  | n + 1, flagsCopy =>
    if flagsCopy > 0 then (if flagsCopy &&& 1 ≠ 0 then 1 else 0) + countFlags n (flagsCopy >>> 1)
    else 0

def generateSessionId (s : ConfigAdapter) : ConfigAdapter × BitVec 32 :=
  let next := s.mSessionIdCounter + 1
  let next := if next = 0xFFFFFFFF then 1 else next
  ({ s with mSessionIdCounter := next }, next)

/-- The ids of `count` settings. -/
def generateIds : ℕ → ConfigAdapter → ConfigAdapter × List (BitVec 32)
  | 0, s => (s, [])
  | count + 1, s =>
    let (s, id) := s.generateSessionId
    let (s, ids) := generateIds count s
    (s, id :: ids)

/-- `gnssUpdateConfigCommand` : the message it sends, if there is anything to update.  The ids of
the message are returned to the client. -/
def gnssUpdateConfigCommand (s : ConfigAdapter) (config : GnssConfigSettings) :
    ConfigAdapter × Option MsgGnssUpdateConfig :=
  let count := countFlags 32 config.flags
  if count > 0 then
    let (s, ids) := generateIds count s
    (s, some ⟨config, count, ids⟩)
  else (s, none)

/-! ### The message -/

def MAX_URL_LEN : ℕ := 256

def LOC_MAX_PARAM_STRING : ℕ := 172

/-- What `snprintf` and `strlcpy` leave in a buffer of the given size. -/
def truncate (size : ℕ) (s : String) : String := String.ofList (s.toList.take (size - 1))

/-- The host and port as the engine gets them, if they are accepted. -/
def suplUrl (server : Option String) (port : BitVec 32) : Option String :=
  match server with
  | none => some ""
  | some server =>
    if server.toList = [] ∨ server.toList.map Char.toLower = ['n', 'o', 'n', 'e'] then some ""
    else if port.toInt > 0 then some (truncate MAX_URL_LEN (server ++ ":" ++ toString port.toNat))
    else none

/-- `setSuplHostServer` with type `LOC_AGPS_SUPL_SERVER`. -/
def setSuplHostServer (s : ConfigAdapter) (server : Option String) (port : BitVec 32) :
    ConfigAdapter :=
  if s.mGps_conf.AGPS_CONFIG_INJECT then
    match suplUrl server port with
    | some serverUrl =>
      { s with
        mServerUrl := serverUrl
        mGps_conf := { s.mGps_conf with
          -- the copy from a `NULL` host is undefined
          SUPL_HOST := (server.map (truncate LOC_MAX_PARAM_STRING)).getD s.mGps_conf.SUPL_HOST
          SUPL_PORT := port } }
    | none => s
  else s

/-- Write one setting into `mGps_conf` if its flag is set. -/
def writeConf (flags flag : BitVec 32) (f : GpsConf → GpsConf) (s : ConfigAdapter) :
    ConfigAdapter :=
  if hasFlag flags flag then { s with mGps_conf := f s.mGps_conf } else s

/-- The GPS lock of `MsgGnssUpdateConfig::proc` : the lock that is handed on, whether the engine
needs it, and the adapter after it. -/
def procGpsLock (s : ConfigAdapter) (gpsLock : BitVec 32) : ConfigAdapter × BitVec 32 × Bool :=
  let newGpsLock := gpsLock ||| GNSS_CONFIG_GPS_LOCK_MO
  let s' := { s with
    mGps_conf := { s.mGps_conf with GPS_LOCK := newGpsLock }
    mSupportNfwControl := false }
  if s.mAfwControlId ≠ 0 then
    if s.mSupportNfwControl then (s', GNSS_CONFIG_GPS_LOCK_NONE, true)
    else (s', newGpsLock, false)
  else (s', newGpsLock, true)

/-- `MsgGnssUpdateConfig::proc` once the engine is up. -/
def procUpdateConfig (s : ConfigAdapter) (m : MsgGnssUpdateConfig) :
    ConfigAdapter × UpdateConfigRequest :=
  let config := m.mConfig
  let flags := config.flags
  let (s, gpsLock, needsLock) :=
    if hasFlag flags GNSS_CONFIG_FLAGS_GPS_LOCK_VALID_BIT then s.procGpsLock config.gpsLock
    else (s, config.gpsLock, true)
  let s := s.writeConf flags GNSS_CONFIG_FLAGS_SUPL_VERSION_VALID_BIT
    fun c => { c with SUPL_VER := convertSuplVersion config.suplVersion }
  let isSupl := config.assistanceServer.type = .SUPL
  let assists := hasFlag flags GNSS_CONFIG_FLAGS_SET_ASSISTANCE_DATA_VALID_BIT
  let s := if assists ∧ isSupl then
      s.setSuplHostServer config.assistanceServer.hostName config.assistanceServer.port
    else s
  -- the running index of the assistance server
  let index := (if hasFlag flags GNSS_CONFIG_FLAGS_GPS_LOCK_VALID_BIT then 1 else 0) +
    (if hasFlag flags GNSS_CONFIG_FLAGS_SUPL_VERSION_VALID_BIT then 1 else 0)
  let errs := List.replicate m.mCount LocationError.SUCCESS
  let errs := if assists ∧ ¬ isSupl then errs.set index .INVALID_PARAMETER else errs
  let s := s.writeConf flags GNSS_CONFIG_FLAGS_LPP_PROFILE_VALID_BIT
    fun c => { c with LPP_PROFILE := convertLppProfile config.lppProfile }
  let s := s.writeConf flags GNSS_CONFIG_FLAGS_LPPE_CONTROL_PLANE_VALID_BIT
    fun c => { c with LPPE_CP_TECHNOLOGY := convertLppeCp config.lppeControlPlaneMask }
  let s := s.writeConf flags GNSS_CONFIG_FLAGS_LPPE_USER_PLANE_VALID_BIT
    fun c => { c with LPPE_UP_TECHNOLOGY := convertLppeUp config.lppeUserPlaneMask }
  let s := s.writeConf flags GNSS_CONFIG_FLAGS_AGLONASS_POSITION_PROTOCOL_VALID_BIT fun c =>
    { c with
      A_GLONASS_POS_PROTOCOL_SELECT := convertAGloProt config.aGlonassPositionProtocolMask }
  let s := s.writeConf flags GNSS_CONFIG_FLAGS_EM_PDN_FOR_EM_SUPL_VALID_BIT fun c =>
    { c with
      USE_EMERGENCY_PDN_FOR_EMERGENCY_SUPL := convertEP4ES config.emergencyPdnForEmergencySupl }
  let s := s.writeConf flags GNSS_CONFIG_FLAGS_SUPL_EM_SERVICES_BIT
    fun c => { c with SUPL_ES := convertSuplEs config.suplEmergencyServices }
  let s := s.writeConf flags GNSS_CONFIG_FLAGS_SUPL_MODE_BIT
    fun c => { c with SUPL_MODE := convertSuplMode config.suplModeMask }
  let needed := if needsLock then flags else flags &&& ~~~GNSS_CONFIG_FLAGS_GPS_LOCK_VALID_BIT
  let needed := if assists ∧ ¬ isSupl then
      needed &&& ~~~GNSS_CONFIG_FLAGS_SET_ASSISTANCE_DATA_VALID_BIT
    else needed
  (s, { gnssConfigRequested := { config with gpsLock := gpsLock }
        gnssConfigNeedEngineUpdate := { config with flags := needed }
        countOfConfigs := m.mCount
        sessionIds := m.mIds
        errs := errs })

/-- `MsgGnssUpdateConfig::proc` : before the engine is up, the message is kept and processed
later. -/
def proc (s : ConfigAdapter) (m : MsgGnssUpdateConfig) :
    ConfigAdapter × Option UpdateConfigRequest :=
  if s.mIsEngineCapabilitiesKnown then
    let (s, u) := s.procUpdateConfig m
    (s, some u)
  else ({ s with mPendingMsgs := s.mPendingMsgs ++ [m] }, none)

/-! ### On the thread of `LocApiBase` -/

/-- What `gnssUpdateConfig` finds around it. -/
structure Env where
  /-- The engine's answer to a request. -/
  engine : ConfigRequest → LocationError
  /-- `LOC_SUPPORTED_FEATURE_CONSTELLATION_ENABLEMENT_V02` -/
  supported : Bool
  /-- What the compiler makes of `1 << n` for `n` from 32 on. -/
  overshift : ℕ → BitVec 64
  gethostbyname : String → Option (BitVec 32)
  inet_aton : String → Option (BitVec 32)
  /-- What an address that has not been set holds. -/
  addr : BitVec 32

/-- What one part of `gnssUpdateConfig` does: the requests to the engine, and the error it writes
at the running index, if it writes one. -/
structure Handed where
  requests : List ConfigRequest
  err : Option LocationError

/-- The variables of `gnssUpdateConfig` and everything sent to the engine. -/
structure ConfigErrors where
  errsList : List LocationError
  index : ℕ
  requests : List ConfigRequest

/-- One part of `gnssUpdateConfig` : if the setting is requested, its error is written at the
running index, which then advances. -/
def ConfigErrors.hand (u : ConfigErrors) (count : ℕ) (requested flag : BitVec 32) (h : Handed) :
    ConfigErrors :=
  if hasFlag requested flag then
    { errsList := match h.err with
        | some err => if u.index < count then u.errsList.set u.index err else u.errsList
        | none => u.errsList
      index := u.index + 1
      requests := u.requests ++ h.requests }
  else u

section Engine

variable (env : Env)

/-- Send a request if the engine needs the setting. -/
def handIfNeeded (needed flag : BitVec 32) (r : ConfigRequest) : Handed :=
  if hasFlag needed flag then ⟨[r], some (env.engine r)⟩ else ⟨[], none⟩

/-- `htonl` -/
def htonl (a : BitVec 32) : BitVec 32 :=
  a.extractLsb' 0 8 ++ a.extractLsb' 8 8 ++ a.extractLsb' 16 8 ++ a.extractLsb' 24 8

/-- The assistance server of type C2K.  After an address that does not parse, what `addr` holds is
sent, and the answer replaces the error; an address that does parse is not sent. -/
def handC2K (server : GnssConfigSetAssistanceServer) : Handed :=
  let hostName := server.hostName.getD ""
  let send (ip : BitVec 32) : Handed :=
    let r := ConfigRequest.setServerIpSync (htonl ip) server.port .CDMA_PDE_SERVER
    ⟨[r], some (env.engine r)⟩
  match env.gethostbyname hostName with
  | some ip => send ip
  | none => match env.inet_aton hostName with
    | none => send env.addr
    | some _ => ⟨[], none⟩

/-- The assistance server. -/
def handAssistanceServer (s : ConfigAdapter) (oldMoServerUrl : String)
    (need : GnssConfigSettings) : Handed :=
  if hasFlag need.flags GNSS_CONFIG_FLAGS_SET_ASSISTANCE_DATA_VALID_BIT then
    if need.assistanceServer.type = .SUPL then
      let r := ConfigRequest.setServerSync s.mServerUrl .SUPL_SERVER
      -- an error of the second server is only logged
      ⟨r :: (if oldMoServerUrl ≠ s.mMoServerUrl then
          [.setServerSync s.mMoServerUrl .MO_SUPL_SERVER] else []), some (env.engine r)⟩
    else if need.assistanceServer.type = .C2K then
      handC2K env need.assistanceServer
    else ⟨[], none⟩
  else ⟨[], none⟩

/-- The blacklist, which is sent whether or not the engine needs it. -/
def handBlacklist (blacklistedSvIds : List GnssSvIdSource) : Handed :=
  if env.supported then
    let r := ConfigRequest.setBlacklistSvSync
      (convertToGnssSvIdConfig env.overshift blacklistedSvIds .zero)
    ⟨[r], some (env.engine r)⟩
  else ⟨[], some .NOT_SUPPORTED⟩

/-- The parts of `gnssUpdateConfig`, in their order, with the flags of the settings. -/
def handed (s : ConfigAdapter) (oldMoServerUrl : String) (requested need : GnssConfigSettings) :
    List (BitVec 32 × Handed) :=
  let ask flag r := (flag, handIfNeeded env need.flags flag r)
  [ask GNSS_CONFIG_FLAGS_GPS_LOCK_VALID_BIT (.setGpsLockSync requested.gpsLock),
    (GNSS_CONFIG_FLAGS_SET_ASSISTANCE_DATA_VALID_BIT,
      s.handAssistanceServer env oldMoServerUrl need),
    ask GNSS_CONFIG_FLAGS_SUPL_VERSION_VALID_BIT (.setSUPLVersionSync requested.suplVersion),
    ask GNSS_CONFIG_FLAGS_LPP_PROFILE_VALID_BIT (.setLPPConfigSync requested.lppProfile),
    ask GNSS_CONFIG_FLAGS_LPPE_CONTROL_PLANE_VALID_BIT
      (.setLPPeProtocolCpSync requested.lppeControlPlaneMask),
    ask GNSS_CONFIG_FLAGS_LPPE_USER_PLANE_VALID_BIT
      (.setLPPeProtocolUpSync requested.lppeUserPlaneMask),
    ask GNSS_CONFIG_FLAGS_AGLONASS_POSITION_PROTOCOL_VALID_BIT
      (.setAGLONASSProtocolSync requested.aGlonassPositionProtocolMask),
    (GNSS_CONFIG_FLAGS_BLACKLISTED_SV_IDS_BIT,
      handBlacklist env requested.blacklistedSvIds),
    ask GNSS_CONFIG_FLAGS_EMERGENCY_EXTENSION_SECONDS_BIT
      (.setEmergencyExtensionWindowSync requested.emergencyExtensionSeconds)]

/-- `gnssUpdateConfig` : the list of errors it returns, with an entry more than `count`. -/
def gnssUpdateConfig (s : ConfigAdapter) (oldMoServerUrl : String)
    (requested need : GnssConfigSettings) (count : ℕ) : ConfigErrors :=
  (s.handed env oldMoServerUrl requested need).foldl
    (fun u p => u.hand count requested.flags p.1 p.2) ⟨List.replicate (count + 1) .SUCCESS, 0, []⟩

/-- The adapter after `gnssUpdateConfig`. -/
def afterUpdateConfig (s : ConfigAdapter) (requested : GnssConfigSettings) : ConfigAdapter :=
  if hasFlag requested.flags GNSS_CONFIG_FLAGS_BLACKLISTED_SV_IDS_BIT ∧ env.supported then
    { s with
      mBlacklistedSvIds := requested.blacklistedSvIds
      mGnssSvIdConfig := convertToGnssSvIdConfig env.overshift requested.blacklistedSvIds .zero }
  else s

/-- The message of `LocApiBase` and the collective response it leads to. -/
def respondUpdateConfig (s : ConfigAdapter) (u : UpdateConfigRequest) :
    ConfigAdapter × CollectiveResponse :=
  let errsList := (s.gnssUpdateConfig env "" u.gnssConfigRequested
    u.gnssConfigNeedEngineUpdate u.countOfConfigs).errsList
  -- the callback gets a pointer to `count` entries; `u.errs` is not used
  (s.afterUpdateConfig env u.gnssConfigRequested,
    ⟨u.countOfConfigs, errsList.take u.countOfConfigs, u.sessionIds⟩)

end Engine

end ConfigAdapter

end GpsHal
