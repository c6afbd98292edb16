import GpsHal.Gnss.ConfigAlign
import GpsHal.Transition.Basic

/-!
# `GnssAdapter` : the GPS lock

Enabling and disabling the location service, the control of network initiated requests, an update of
the configuration and an engine that comes up each compute a lock for the modem from three variables
of the adapter.  Commands only queue a message; the adapter processes it later, and the lock that it
computes goes through the queue of `LocApiBase` to the modem.

## Main definitions

* `LockAdapter` : the adapter with its queue, the queue of `LocApiBase` and the locks sent so far.
* `LockAdapter.proc`, `LockAdapter.procApi` : one message of the adapter and one of `LocApiBase`.
* `LockAdapter.prescribed` : the lock that the comment in `setConfig` prescribes.
* `LockAdapter.Supported` : the condition on a step under which it keeps the lock coherent.

## Main results

* `LockAdapter.Coherent.step` : a supported step keeps the invariant.
* `LockAdapter.lock_coherent` : the lock sent last is the one that is prescribed, in every run of
  supported steps; a step that is not supported makes it another one.
-/

namespace GpsHal

def GNSS_CONFIG_GPS_LOCK_NI : BitVec 32 := 2
def GNSS_CONFIG_GPS_LOCK_MO_AND_NI : BitVec 32 := 3

def LOCATION_TECHNOLOGY_TYPE_GNSS : BitVec 32 := 0

/-- The messages of the adapter that have to do with the lock. -/
inductive LockMsg where
  | readConfig
  | engineUp
  | enable (mSessionId mTechType : BitVec 32)
  | disable (mSessionId : BitVec 32)
  | controlNfwLocationAccess (mEnable : Bool)
  | updateConfig (m : MsgGnssUpdateConfig)
  deriving DecidableEq, Repr

/-- The messages of `LocApiBase` that have to do with the lock. -/
inductive LockApiMsg where
  | setGpsLock (gpsLock : BitVec 32)
  | setConfig (oldMoServerUrl : String) (gnssConfigRequested : GnssConfigSettings)
  | updateConfig (u : UpdateConfigRequest)
  deriving DecidableEq, Repr

/-- The locks that processing a message sends to the modem. -/
def LockApiMsg.locks : LockApiMsg → List (BitVec 32)
  | .setGpsLock gpsLock => [gpsLock]
  | .setConfig _ requested =>
    if hasFlag requested.flags GNSS_CONFIG_FLAGS_GPS_LOCK_VALID_BIT then [requested.gpsLock] else []
  | .updateConfig u =>
    if hasFlag u.gnssConfigRequested.flags GNSS_CONFIG_FLAGS_GPS_LOCK_VALID_BIT ∧
      hasFlag u.gnssConfigNeedEngineUpdate.flags GNSS_CONFIG_FLAGS_GPS_LOCK_VALID_BIT
    then [u.gnssConfigRequested.gpsLock] else []

/-- The conversions that the engine's implementation of `LocApiBase` overrides. -/
structure LocApiConversions where
  convertSuplVersion : BitVec 32 → GnssConfigSuplVersion
  convertLppProfile : BitVec 32 → GnssConfigLppProfile
  convertLppeCp : BitVec 32 → BitVec 16
  convertLppeUp : BitVec 32 → BitVec 16

/-- The adapter, what is queued for it and for `LocApiBase`, and what it has sent. -/
structure LockAdapter extends ConfigAdapter where
  confReadDone : Bool
  msgs : List LockMsg
  apiMsgs : List LockApiMsg
  /-- The locks that `setGpsLockSync` has been called with, oldest first. -/
  locks : List (BitVec 32)
  /-- The calls of `reportResponse`, oldest first. -/
  responses : List (LocationError × BitVec 32)
  /-- An enable or disable has been accepted, a lock has been updated or the engine has come up. -/
  touched : Bool
  deriving DecidableEq, Repr

namespace LockAdapter

/-- Write `ContextBase::mGps_conf.GPS_LOCK`. -/
def setGpsLock (s : LockAdapter) (gpsLock : BitVec 32) : LockAdapter :=
  { s with mGps_conf := { s.mGps_conf with GPS_LOCK := gpsLock } }

def setAfwControlId (s : LockAdapter) (id : BitVec 32) : LockAdapter :=
  { s with mAfwControlId := id }

/-- `sendMsg` of the adapter. -/
def sendMsg (s : LockAdapter) (m : LockMsg) : LockAdapter := { s with msgs := s.msgs ++ [m] }

/-- `sendMsg` of `LocApiBase`. -/
def sendApiMsg (s : LockAdapter) (m : LockApiMsg) : LockAdapter :=
  { s with apiMsgs := s.apiMsgs ++ [m] }

def reportResponse (s : LockAdapter) (err : LocationError) (id : BitVec 32) : LockAdapter :=
  { s with responses := s.responses ++ [(err, id)] }

def touch (s : LockAdapter) : LockAdapter := { s with touched := true }

/-- What is done with the part of the adapter that the configuration is kept in. -/
def onConfig (s : LockAdapter) (c : ConfigAdapter) : LockAdapter := { s with toConfigAdapter := c }

/-! ### The messages of the adapter -/

/-- `MsgReadConfig::proc` : the configuration file, with the lock `confLock`, is read once. -/
def procReadConfig (confLock : BitVec 32) (s : LockAdapter) : LockAdapter :=
  if s.confReadDone then s
  else
    let s := { s with confReadDone := true }
    s.setGpsLock confLock

/-- `MsgEnableGnss::proc` -/
def procEnable (s : LockAdapter) (mSessionId mTechType : BitVec 32) : LockAdapter :=
  if mTechType ≠ LOCATION_TECHNOLOGY_TYPE_GNSS then s.reportResponse .INVALID_PARAMETER mSessionId
  else if s.mAfwControlId > 0 then s.reportResponse .ALREADY_STARTED mSessionId
  else
    let s := (s.setAfwControlId mSessionId).touch
    let s := if s.mSupportNfwControl then
        let s := s.setGpsLock (s.mGps_conf.GPS_LOCK &&& GNSS_CONFIG_GPS_LOCK_NI)
        s.sendApiMsg (.setGpsLock s.mGps_conf.GPS_LOCK)
      else s.sendApiMsg (.setGpsLock GNSS_CONFIG_GPS_LOCK_NONE)
    s.reportResponse .SUCCESS mSessionId

/-- `MsgDisableGnss::proc` -/
def procDisable (s : LockAdapter) (mSessionId : BitVec 32) : LockAdapter :=
  if s.mAfwControlId ≠ mSessionId then s.reportResponse .ID_UNKNOWN mSessionId
  else
    let s := (s.setAfwControlId 0).touch
    let s := if s.mSupportNfwControl then
        s.setGpsLock (s.mGps_conf.GPS_LOCK ||| GNSS_CONFIG_GPS_LOCK_MO)
      else s
    (s.sendApiMsg (.setGpsLock s.mGps_conf.GPS_LOCK)).reportResponse .SUCCESS mSessionId

/-- `MsgControlNfwLocationAccess::proc` -/
def procControl (s : LockAdapter) (mEnable : Bool) : LockAdapter :=
  let gpsLock := s.mGps_conf.GPS_LOCK
  let gpsLock := if mEnable then gpsLock &&& ~~~GNSS_CONFIG_GPS_LOCK_NI
    else gpsLock ||| GNSS_CONFIG_GPS_LOCK_NI
  (s.setGpsLock gpsLock).sendApiMsg (.setGpsLock gpsLock)

/-- `MsgGnssUpdateConfig::proc` -/
def procUpdateConfig (s : LockAdapter) (m : MsgGnssUpdateConfig) : LockAdapter :=
  let (c, u) := s.toConfigAdapter.proc m
  let s := s.onConfig c
  match u with
  | none => s
  | some u =>
    let s := if hasFlag m.mConfig.flags GNSS_CONFIG_FLAGS_GPS_LOCK_VALID_BIT then s.touch else s
    s.sendApiMsg (.updateConfig u)

variable (conv : LocApiConversions)

/-- What `setConfig` requests from the engine; `s` is the adapter after the SUPL server is set. -/
def configRequested (s : ConfigAdapter) : GnssConfigSettings :=
  let gpsConf := s.mGps_conf
  let c : GnssConfigSettings := .zero
  let c := { c with
    flags := c.flags ||| GNSS_CONFIG_FLAGS_GPS_LOCK_VALID_BIT |||
      GNSS_CONFIG_FLAGS_BLACKLISTED_SV_IDS_BIT
    gpsLock := if s.mSupportNfwControl ∨ 0 = s.mAfwControlId then gpsConf.GPS_LOCK
      else GNSS_CONFIG_GPS_LOCK_NONE }
  let c := if gpsConf.AGPS_CONFIG_INJECT then
      { c with
        flags := c.flags ||| (GNSS_CONFIG_FLAGS_SET_ASSISTANCE_DATA_VALID_BIT |||
          GNSS_CONFIG_FLAGS_SUPL_VERSION_VALID_BIT |||
          GNSS_CONFIG_FLAGS_AGLONASS_POSITION_PROTOCOL_VALID_BIT |||
          GNSS_CONFIG_FLAGS_LPP_PROFILE_VALID_BIT)
        suplVersion := conv.convertSuplVersion gpsConf.SUPL_VER
        lppProfile := conv.convertLppProfile gpsConf.LPP_PROFILE
        aGlonassPositionProtocolMask := gpsConf.A_GLONASS_POS_PROTOCOL_SELECT.truncate 16 }
    else c
  let c := if gpsConf.LPPE_CP_TECHNOLOGY ≠ 0 then
      { c with
        flags := c.flags ||| GNSS_CONFIG_FLAGS_LPPE_CONTROL_PLANE_VALID_BIT
        lppeControlPlaneMask := conv.convertLppeCp gpsConf.LPPE_CP_TECHNOLOGY }
    else c
  let c := if gpsConf.LPPE_UP_TECHNOLOGY ≠ 0 then
      { c with
        flags := c.flags ||| GNSS_CONFIG_FLAGS_LPPE_USER_PLANE_VALID_BIT
        lppeUserPlaneMask := conv.convertLppeUp gpsConf.LPPE_UP_TECHNOLOGY }
    else c
  { c with blacklistedSvIds := s.mBlacklistedSvIds }

/-- `setConfig`, without the NMEA types, the second SUPL server and the sensors. -/
def setConfig (s : LockAdapter) : LockAdapter :=
  let oldMoServerUrl := s.mMoServerUrl
  let s := s.onConfig
    (s.toConfigAdapter.setSuplHostServer (some s.mGps_conf.SUPL_HOST) s.mGps_conf.SUPL_PORT)
  s.sendApiMsg (.setConfig oldMoServerUrl (configRequested conv s.toConfigAdapter))

/-- `MsgHandleEngineUpEvent::proc` -/
def procEngineUp (s : LockAdapter) : LockAdapter :=
  let s := { s with mIsEngineCapabilitiesKnown := true }
  let s := (s.setConfig conv).touch
  { s with
    msgs := s.msgs ++ s.mPendingMsgs.map .updateConfig
    mPendingMsgs := [] }

variable (confLock : BitVec 32)

/-- What processing a message does. -/
def procMsg (s : LockAdapter) : LockMsg → LockAdapter
  | .readConfig => s.procReadConfig confLock
  | .engineUp => s.procEngineUp conv
  | .enable mSessionId mTechType => s.procEnable mSessionId mTechType
  | .disable mSessionId => s.procDisable mSessionId
  | .controlNfwLocationAccess mEnable => s.procControl mEnable
  | .updateConfig m => s.procUpdateConfig m

/-- The adapter processes the message at the head of its queue. -/
def proc (s : LockAdapter) : Option LockAdapter :=
  match s.msgs with
  | [] => none
  | m :: ms => some ({ s with msgs := ms }.procMsg conv confLock m)

/-! ### The messages of `LocApiBase` -/

variable (env : ConfigAdapter.Env)

/-- The locks among what the engine is asked. -/
def gpsLocks (requests : List ConfigRequest) : List (BitVec 32) :=
  requests.filterMap fun
    | .setGpsLockSync lock => some lock
    | _ => none

/-- What processing a message of `LocApiBase` does. -/
def procApiMsg (s : LockAdapter) : LockApiMsg → LockAdapter
  | .setGpsLock gpsLock => { s with locks := s.locks ++ [gpsLock] }
  | .setConfig oldMoServerUrl requested =>
    let out := s.toConfigAdapter.gnssUpdateConfig env oldMoServerUrl requested requested 0
    let s := s.onConfig (s.toConfigAdapter.afterUpdateConfig env requested)
    { s with locks := s.locks ++ gpsLocks out.requests }
  | .updateConfig u =>
    let out := s.toConfigAdapter.gnssUpdateConfig env "" u.gnssConfigRequested
      u.gnssConfigNeedEngineUpdate u.countOfConfigs
    let s := s.onConfig (s.toConfigAdapter.afterUpdateConfig env u.gnssConfigRequested)
    { s with locks := s.locks ++ gpsLocks out.requests }

/-- `LocApiBase` processes the message at the head of its queue. -/
def procApi (s : LockAdapter) : Option LockAdapter :=
  match s.apiMsgs with
  | [] => none
  | m :: ms => some ({ s with apiMsgs := ms }.procApiMsg env m)

/-! ### The commands -/

/-- Draw a session id. -/
def generateSessionId (s : LockAdapter) : LockAdapter × BitVec 32 :=
  let (c, id) := s.toConfigAdapter.generateSessionId
  (s.onConfig c, id)

def enableCommand (s : LockAdapter) (techType : BitVec 32) : LockAdapter :=
  let (s, sessionId) := s.generateSessionId
  s.sendMsg (.enable sessionId techType)

def disableCommand (s : LockAdapter) (id : BitVec 32) : LockAdapter := s.sendMsg (.disable id)

def nfwControlCommand (s : LockAdapter) (enable : Bool) : LockAdapter :=
  if s.mSupportNfwControl then s.sendMsg (.controlNfwLocationAccess enable) else s

def gnssUpdateConfigCommand (s : LockAdapter) (config : GnssConfigSettings) : LockAdapter :=
  let (c, m) := s.toConfigAdapter.gnssUpdateConfigCommand config
  let s := s.onConfig c
  match m with
  | none => s
  | some m => s.sendMsg (.updateConfig m)

def handleEngineUpEvent (s : LockAdapter) : LockAdapter :=
  (s.sendMsg .readConfig).sendMsg .engineUp

/-- What can happen: a command, the engine coming up, some other command that draws an id, or one
of the two threads processing a message. -/
inductive Input where
  | enableCommand (techType : BitVec 32)
  | disableCommand (id : BitVec 32)
  | nfwControlCommand (enable : Bool)
  | gnssUpdateConfigCommand (config : GnssConfigSettings)
  | handleEngineUpEvent
  | generateSessionId
  | proc
  | procApi
  deriving DecidableEq, Repr

def step (s : LockAdapter) : Input → Option LockAdapter
  | .enableCommand techType => some (s.enableCommand techType)
  | .disableCommand id => some (s.disableCommand id)
  | .nfwControlCommand enable => some (s.nfwControlCommand enable)
  | .gnssUpdateConfigCommand config => some (s.gnssUpdateConfigCommand config)
  | .handleEngineUpEvent => some s.handleEngineUpEvent
  | .generateSessionId => some s.generateSessionId.1
  | .proc => s.proc conv confLock
  | .procApi => s.procApi env

/-- The adapter that its constructor leaves, over what the other variables hold then. -/
def init (c : ConfigAdapter) : LockAdapter where
  toConfigAdapter := { c with
    mIsEngineCapabilitiesKnown := false
    mAfwControlId := 0
    mSupportNfwControl := true
    mSessionIdCounter := 1
    mPendingMsgs := [] }
  confReadDone := false
  msgs := [.readConfig]
  apiMsgs := []
  locks := []
  responses := []
  touched := false

/-- The adapter as a transition system. -/
def system (c : ConfigAdapter) : System LockAdapter Input :=
  .ofPartial (init c) (step conv confLock env)

/-- The lock that the comment in `setConfig` prescribes. -/
def prescribed (s : LockAdapter) : BitVec 32 :=
  if s.mSupportNfwControl ∨ s.mAfwControlId = 0 then s.mGps_conf.GPS_LOCK
  else GNSS_CONFIG_GPS_LOCK_NONE

/-- A message that controls network initiated requests is processed while that is supported, or
while no enable is in force. -/
def Supported (s : LockAdapter) : Input → Prop
  | .proc => ∀ mEnable, s.msgs.head? = some (.controlNfwLocationAccess mEnable) →
      s.mSupportNfwControl = true ∨ s.mAfwControlId = 0
  | _ => True

/-! ### What the engine is asked -/

section Requests

variable {env : ConfigAdapter.Env}

theorem gpsLocks_append (l l' : List ConfigRequest) :
    gpsLocks (l ++ l') = gpsLocks l ++ gpsLocks l' := List.filterMap_append

theorem gpsLocks_handC2K (server : GnssConfigSetAssistanceServer) :
    gpsLocks (ConfigAdapter.handC2K env server).requests = [] := by
  unfold ConfigAdapter.handC2K
  simp only
  split
  · rfl
  · split <;> rfl

theorem gpsLocks_handAssistanceServer (s : ConfigAdapter) (oldMoServerUrl : String)
    (need : GnssConfigSettings) :
    gpsLocks (s.handAssistanceServer env oldMoServerUrl need).requests = [] := by
  unfold ConfigAdapter.handAssistanceServer
  split
  · split
    · simp only
      split <;> rfl
    · split
      · exact gpsLocks_handC2K _
      · rfl
  · rfl

theorem gpsLocks_handBlacklist (ids : List GnssSvIdSource) :
    gpsLocks (ConfigAdapter.handBlacklist env ids).requests = [] := by
  unfold ConfigAdapter.handBlacklist
  split <;> rfl

theorem gpsLocks_handIfNeeded (needed flag : BitVec 32) (r : ConfigRequest)
    (h : gpsLocks [r] = []) :
    gpsLocks (ConfigAdapter.handIfNeeded env needed flag r).requests = [] := by
  unfold ConfigAdapter.handIfNeeded
  split
  · exact h
  · rfl

theorem gpsLocks_hand (u : ConfigAdapter.ConfigErrors) (count : ℕ) (requested flag : BitVec 32)
    (h : ConfigAdapter.Handed) :
    gpsLocks (u.hand count requested flag h).requests =
      gpsLocks u.requests ++ if hasFlag requested flag then gpsLocks h.requests else [] := by
  unfold ConfigAdapter.ConfigErrors.hand
  split
  · exact gpsLocks_append _ _
  · simp

/-- Of all the parts of `gnssUpdateConfig` only the first one asks for a lock. -/
theorem gpsLocks_gnssUpdateConfig (s : ConfigAdapter) (oldMoServerUrl : String)
    (requested need : GnssConfigSettings) (count : ℕ) :
    gpsLocks (s.gnssUpdateConfig env oldMoServerUrl requested need count).requests =
      if hasFlag requested.flags GNSS_CONFIG_FLAGS_GPS_LOCK_VALID_BIT ∧
        hasFlag need.flags GNSS_CONFIG_FLAGS_GPS_LOCK_VALID_BIT then [requested.gpsLock] else [] := by
  have hfirst : gpsLocks (ConfigAdapter.handIfNeeded env need.flags
      GNSS_CONFIG_FLAGS_GPS_LOCK_VALID_BIT (.setGpsLockSync requested.gpsLock)).requests =
      if hasFlag need.flags GNSS_CONFIG_FLAGS_GPS_LOCK_VALID_BIT then [requested.gpsLock] else [] := by
    unfold ConfigAdapter.handIfNeeded
    split <;> rfl
  have hrest : ∀ flag r, gpsLocks [r] = [] →
      gpsLocks (ConfigAdapter.handIfNeeded env need.flags flag r).requests = [] :=
    fun flag r h => gpsLocks_handIfNeeded need.flags flag r h
  unfold ConfigAdapter.gnssUpdateConfig ConfigAdapter.handed
  simp only [List.foldl_cons, List.foldl_nil, gpsLocks_hand, hfirst,
    gpsLocks_handAssistanceServer, gpsLocks_handBlacklist]
  rw [hrest _ _ rfl, hrest _ _ rfl, hrest _ _ rfl, hrest _ _ rfl, hrest _ _ rfl, hrest _ _ rfl]
  by_cases hr : hasFlag requested.flags GNSS_CONFIG_FLAGS_GPS_LOCK_VALID_BIT = true
  · simp [hr, gpsLocks]
  · simp [hr, gpsLocks]

end Requests

/-! ### The invariant -/

/-- The locks that have been sent, and those that are on their way. -/
def outgoing (s : LockAdapter) : List (BitVec 32) := s.locks ++ s.apiMsgs.flatMap LockApiMsg.locks

/-- The lock that goes out last is the one that is prescribed. -/
structure Coherent (s : LockAdapter) : Prop where
  last : s.outgoing.getLast? = some s.prescribed ∨ s.touched = false ∧ s.outgoing = []
  enabled : s.mAfwControlId ≠ 0 → s.touched = true
  mo : s.mSupportNfwControl = false → s.mGps_conf.GPS_LOCK &&& GNSS_CONFIG_GPS_LOCK_MO ≠ 0

/-- What holds of the queue: the ids of the enables are real ones, and the configuration is read
before anything else. -/
structure Queued (s : LockAdapter) : Prop where
  counter : s.mSessionIdCounter ≠ 0 ∧ s.mSessionIdCounter ≠ 0xFFFFFFFF
  ids : ∀ id techType, .enable id techType ∈ s.msgs → id ≠ 0
  unread : s.confReadDone = false → s.msgs.head? = some .readConfig ∧ s.outgoing = [] ∧
    s.touched = false ∧ s.mSupportNfwControl = true

section Lemmas

variable {s s' : LockAdapter} {conv : LocApiConversions} {confLock : BitVec 32}
  {env : ConfigAdapter.Env}

theorem procApiMsg_locks (s : LockAdapter) (m : LockApiMsg) :
    (s.procApiMsg env m).locks = s.locks ++ m.locks := by
  cases m with
  | setGpsLock gpsLock => rfl
  | setConfig oldMoServerUrl requested =>
    show s.locks ++ gpsLocks _ = _
    rw [gpsLocks_gnssUpdateConfig, LockApiMsg.locks]
    simp
  | updateConfig u =>
    show s.locks ++ gpsLocks _ = _
    rw [gpsLocks_gnssUpdateConfig, LockApiMsg.locks]

theorem outgoing_sendApiMsg (s : LockAdapter) (m : LockApiMsg) :
    (s.sendApiMsg m).outgoing = s.outgoing ++ m.locks := by
  simp [outgoing, sendApiMsg]

theorem prescribed_lock (h : s.mSupportNfwControl = true ∨ s.mAfwControlId = 0) :
    s.prescribed = s.mGps_conf.GPS_LOCK := if_pos h

theorem prescribed_none (hsupp : ¬ s.mSupportNfwControl = true) (hafw : s.mAfwControlId ≠ 0) :
    s.prescribed = GNSS_CONFIG_GPS_LOCK_NONE := if_neg (not_or.2 ⟨hsupp, hafw⟩)

/-- A lock that is sent last is coherent if it is the one that is prescribed. -/
theorem Coherent.of_sent {gpsLock : BitVec 32} (hlock : gpsLock = s.prescribed)
    (henabled : s.mAfwControlId ≠ 0 → s.touched = true)
    (hmo : s.mSupportNfwControl = false → s.mGps_conf.GPS_LOCK &&& GNSS_CONFIG_GPS_LOCK_MO ≠ 0) :
    (s.sendApiMsg (.setGpsLock gpsLock)).Coherent := by
  refine ⟨.inl ?_, henabled, hmo⟩
  rw [outgoing_sendApiMsg, hlock]
  exact List.getLast?_concat

theorem Coherent.congr (h : s.Coherent) (hout : s'.outgoing = s.outgoing)
    (hlock : s'.mGps_conf.GPS_LOCK = s.mGps_conf.GPS_LOCK)
    (hsupp : s'.mSupportNfwControl = s.mSupportNfwControl)
    (hafw : s'.mAfwControlId = s.mAfwControlId) (htouch : s'.touched = s.touched) :
    s'.Coherent := by
  have hpre : s'.prescribed = s.prescribed := by rw [prescribed, prescribed, hlock, hsupp, hafw]
  exact ⟨by rw [hout, hpre, htouch]; exact h.last, by rw [hafw, htouch]; exact h.enabled,
    by rw [hsupp, hlock]; exact h.mo⟩

/-! ### The messages of the adapter -/

theorem or_mo_ne (lock : BitVec 32) :
    (lock ||| GNSS_CONFIG_GPS_LOCK_MO) &&& GNSS_CONFIG_GPS_LOCK_MO ≠ 0 := by
  intro h
  have hbit : ((lock ||| GNSS_CONFIG_GPS_LOCK_MO) &&& GNSS_CONFIG_GPS_LOCK_MO).getLsbD 0 = true := by
    simp [GNSS_CONFIG_GPS_LOCK_MO]
  rw [h] at hbit
  cases hbit

/-- The control of network initiated requests does not touch the other bit. -/
theorem control_mo (lock : BitVec 32) (mEnable : Bool) :
    (if mEnable then lock &&& ~~~GNSS_CONFIG_GPS_LOCK_NI else lock ||| GNSS_CONFIG_GPS_LOCK_NI) &&&
      GNSS_CONFIG_GPS_LOCK_MO = lock &&& GNSS_CONFIG_GPS_LOCK_MO := by
  cases mEnable with
  | true =>
    rw [if_pos rfl, BitVec.and_assoc]
    rfl
  | false =>
    rw [if_neg Bool.false_ne_true]
    ext i hi
    simp only [BitVec.getElem_and, BitVec.getElem_or, GNSS_CONFIG_GPS_LOCK_MO,
      GNSS_CONFIG_GPS_LOCK_NI]
    rcases i with - | i
    · simp
    · simp [BitVec.getElem_one]

theorem Coherent.procReadConfig (h : s.Coherent)
    (hunread : s.confReadDone = false → s.outgoing = [] ∧ s.touched = false ∧
      s.mSupportNfwControl = true) : (s.procReadConfig confLock).Coherent := by
  unfold LockAdapter.procReadConfig
  split
  · exact h
  · rename_i hread
    obtain ⟨hout, htouch, hsupp⟩ := hunread (by simpa using hread)
    exact ⟨.inr ⟨htouch, hout⟩, h.enabled, fun hs => by simp [setGpsLock, hsupp] at hs⟩

theorem Coherent.reportResponse (h : s.Coherent) (err : LocationError) (id : BitVec 32) :
    (s.reportResponse err id).Coherent := h.congr rfl rfl rfl rfl rfl

theorem Coherent.procEnable (h : s.Coherent) {id techType : BitVec 32} (hid : id ≠ 0) :
    (s.procEnable id techType).Coherent := by
  unfold LockAdapter.procEnable
  split
  · exact h.reportResponse _ _
  split
  · exact h.reportResponse _ _
  simp only
  refine Coherent.reportResponse ?_ _ _
  split
  · rename_i hsupp
    refine Coherent.of_sent ?_ (fun _ => rfl) fun hs => ?_
    · refine (prescribed_lock ?_).symm
      exact .inl hsupp
    · exact absurd (hsupp.symm.trans hs) (by decide)
  · rename_i hsupp
    exact .of_sent (prescribed_none hsupp hid).symm (fun _ => rfl) h.mo

theorem Coherent.procDisable (h : s.Coherent) (id : BitVec 32) : (s.procDisable id).Coherent := by
  unfold LockAdapter.procDisable
  split
  · exact h.reportResponse _ _
  simp only
  refine Coherent.reportResponse (Coherent.of_sent ?_ ?_ ?_) _ _
  · -- no enable is in force any more
    refine (prescribed_lock (.inr ?_)).symm
    split <;> rfl
  · split <;> exact fun _ => rfl
  · split
    · exact fun _ => or_mo_ne _
    · exact h.mo

theorem Coherent.procControl (h : s.Coherent) {mEnable : Bool}
    (hsupp : s.mSupportNfwControl = true ∨ s.mAfwControlId = 0) :
    (s.procControl mEnable).Coherent := by
  unfold LockAdapter.procControl
  refine Coherent.of_sent ?_ h.enabled fun hs => ?_
  · rw [prescribed_lock]
    · rfl
    · exact hsupp
  · have hmo := h.mo hs
    simpa only [setGpsLock, control_mo] using hmo

/-- Processed where it is not supported, the control sends a lock that is not prescribed. -/
theorem Coherent.not_procControl (h : s.Coherent) {mEnable : Bool}
    (hsupp : ¬ s.mSupportNfwControl = true) (hafw : s.mAfwControlId ≠ 0) :
    (s.procControl mEnable).outgoing.getLast? ≠ some (s.procControl mEnable).prescribed := by
  have hpre : (s.procControl mEnable).prescribed = 0 := prescribed_none hsupp hafw
  rw [hpre, LockAdapter.procControl, outgoing_sendApiMsg, LockApiMsg.locks, List.getLast?_concat]
  intro hlock
  have hmo := h.mo (Bool.eq_false_iff.2 hsupp)
  rw [← control_mo _ mEnable, Option.some.inj hlock] at hmo
  exact hmo rfl

/-- The variables that the lock is computed from are the same, and so is the counter of the ids. -/
structure SameLock (c c' : ConfigAdapter) : Prop where
  gpsLock : c'.mGps_conf.GPS_LOCK = c.mGps_conf.GPS_LOCK
  support : c'.mSupportNfwControl = c.mSupportNfwControl
  afwControlId : c'.mAfwControlId = c.mAfwControlId
  counter : c'.mSessionIdCounter = c.mSessionIdCounter

theorem SameLock.trans {c₁ c₂ c₃ : ConfigAdapter} (h : SameLock c₁ c₂) (h' : SameLock c₂ c₃) :
    SameLock c₁ c₃ :=
  ⟨h'.gpsLock.trans h.gpsLock, h'.support.trans h.support, h'.afwControlId.trans h.afwControlId,
    h'.counter.trans h.counter⟩

theorem sameLock_writeConf (c : ConfigAdapter) (flags flag : BitVec 32) {f : GpsConf → GpsConf}
    (hf : ∀ g, (f g).GPS_LOCK = g.GPS_LOCK) : SameLock c (c.writeConf flags flag f) := by
  unfold ConfigAdapter.writeConf
  split
  · exact ⟨hf _, rfl, rfl, rfl⟩
  · exact ⟨rfl, rfl, rfl, rfl⟩

theorem sameLock_setSuplHostServer (c : ConfigAdapter) (server : Option String)
    (port : BitVec 32) : SameLock c (c.setSuplHostServer server port) := by
  unfold ConfigAdapter.setSuplHostServer
  split
  · split <;> exact ⟨rfl, rfl, rfl, rfl⟩
  · exact ⟨rfl, rfl, rfl, rfl⟩

/-- The adapter after the lock of an update has been written. -/
def afterLock (c : ConfigAdapter) (config : GnssConfigSettings) : ConfigAdapter :=
  if hasFlag config.flags GNSS_CONFIG_FLAGS_GPS_LOCK_VALID_BIT then (c.procGpsLock config.gpsLock).1
  else c

/-- The rest of an update leaves the variables of the lock alone. -/
theorem sameLock_procUpdateConfig (c : ConfigAdapter) (m : MsgGnssUpdateConfig) :
    SameLock (afterLock c m.mConfig) (c.procUpdateConfig m).1 := by
  have hlock : (if hasFlag m.mConfig.flags GNSS_CONFIG_FLAGS_GPS_LOCK_VALID_BIT
      then c.procGpsLock m.mConfig.gpsLock else (c, m.mConfig.gpsLock, true)).1 =
      afterLock c m.mConfig := by
    unfold afterLock
    split <;> rfl
  unfold ConfigAdapter.procUpdateConfig
  simp only [hlock]
  refine SameLock.trans ?_ (sameLock_writeConf _ _ _ fun _ => rfl)
  refine SameLock.trans ?_ (sameLock_writeConf _ _ _ fun _ => rfl)
  refine SameLock.trans ?_ (sameLock_writeConf _ _ _ fun _ => rfl)
  refine SameLock.trans ?_ (sameLock_writeConf _ _ _ fun _ => rfl)
  refine SameLock.trans ?_ (sameLock_writeConf _ _ _ fun _ => rfl)
  refine SameLock.trans ?_ (sameLock_writeConf _ _ _ fun _ => rfl)
  refine SameLock.trans ?_ (sameLock_writeConf _ _ _ fun _ => rfl)
  split
  · refine SameLock.trans ?_ (sameLock_setSuplHostServer _ _ _)
    exact sameLock_writeConf _ _ _ fun _ => rfl
  · exact sameLock_writeConf _ _ _ fun _ => rfl

/-- What the update of a lock hands on: nothing where the engine need not know. -/
theorem updateConfig_locks (c : ConfigAdapter) (m : MsgGnssUpdateConfig) :
    (LockApiMsg.updateConfig (c.procUpdateConfig m).2).locks =
      if hasFlag m.mConfig.flags GNSS_CONFIG_FLAGS_GPS_LOCK_VALID_BIT ∧
        (c.procGpsLock m.mConfig.gpsLock).2.2 then [(c.procGpsLock m.mConfig.gpsLock).2.1]
      else [] := by
  obtain ⟨-, -, gpsLock, needsLock, hlock, hreq, hneed⟩ := c.procUpdateConfig_snd (m := m) rfl
  have hbit : ∀ f, hasFlag f GNSS_CONFIG_FLAGS_GPS_LOCK_VALID_BIT = f.getLsbD 0 :=
    fun f => hasFlag_bit f _ 0 (by omega) rfl
  rw [LockApiMsg.locks, hreq, hneed]
  simp only [ConfigAdapter.hasFlag_neededFlags GNSS_CONFIG_FLAGS_GPS_LOCK_VALID_BIT
    (by omega : 0 < 32) rfl, hbit] at hlock ⊢
  by_cases hf : m.mConfig.flags.getLsbD 0 = true
  · obtain ⟨rfl, rfl⟩ := Prod.mk.inj (hlock hf)
    simp [hf]
  · rw [if_neg fun h => hf h.1, if_neg fun h => hf h.1]

/-- Whatever the case, the lock of an update is written and the control is not supported any more. -/
theorem procGpsLock_fst (c : ConfigAdapter) (gpsLock : BitVec 32) :
    (c.procGpsLock gpsLock).1 = { c with
      mGps_conf := { c.mGps_conf with GPS_LOCK := gpsLock ||| GNSS_CONFIG_GPS_LOCK_MO }
      mSupportNfwControl := false } := by
  unfold ConfigAdapter.procGpsLock
  simp only
  split
  · split <;> rfl
  · rfl

theorem Coherent.onUpdate (h : s.Coherent) (m : MsgGnssUpdateConfig) (c' : ConfigAdapter)
    (hc : SameLock (afterLock s.toConfigAdapter m.mConfig) c') {u : UpdateConfigRequest}
    (hu : (LockApiMsg.updateConfig u).locks =
      if hasFlag m.mConfig.flags GNSS_CONFIG_FLAGS_GPS_LOCK_VALID_BIT ∧
        (s.procGpsLock m.mConfig.gpsLock).2.2 then [(s.procGpsLock m.mConfig.gpsLock).2.1]
      else []) :
    ((if hasFlag m.mConfig.flags GNSS_CONFIG_FLAGS_GPS_LOCK_VALID_BIT then (s.onConfig c').touch
      else s.onConfig c').sendApiMsg (.updateConfig u)).Coherent := by
  obtain ⟨hlock, hsupp, hafw, -⟩ := hc
  by_cases hf : hasFlag m.mConfig.flags GNSS_CONFIG_FLAGS_GPS_LOCK_VALID_BIT = true
  · rw [afterLock, if_pos hf] at hlock hsupp hafw
    rw [if_pos hf]
    rw [procGpsLock_fst] at hlock hsupp hafw
    have hmo : c'.mGps_conf.GPS_LOCK &&& GNSS_CONFIG_GPS_LOCK_MO ≠ 0 := by
      rw [hlock]
      exact or_mo_ne _
    refine ⟨.inl ?_, fun _ => rfl, fun _ => hmo⟩
    show List.getLast? _ = some (prescribed (s.onConfig c'))
    rw [outgoing_sendApiMsg, hu]
    unfold ConfigAdapter.procGpsLock
    simp only [hf, true_and]
    by_cases hoff : s.mAfwControlId = 0
    · rw [prescribed_lock (.inr (hafw.trans hoff)), if_neg (not_not.2 hoff), if_pos rfl,
        List.getLast?_concat]
      exact congrArg some hlock.symm
    · have hpre : (s.onConfig c').prescribed = GNSS_CONFIG_GPS_LOCK_NONE :=
        prescribed_none (by rw [show (s.onConfig c').mSupportNfwControl = false from hsupp]; decide)
          fun h0 => hoff (hafw.symm.trans h0)
      rw [hpre, if_pos hoff]
      by_cases hs : s.mSupportNfwControl = true
      · rw [if_pos hs, if_pos rfl, List.getLast?_concat]
      · -- the modem has been unlocked already
        rw [if_neg hs, if_neg Bool.false_ne_true, List.append_nil]
        rcases h.last with hlast | ⟨htouch, -⟩
        · rw [prescribed_none hs hoff] at hlast
          exact hlast
        · exact absurd ((h.enabled hoff).symm.trans htouch) (by decide)
  · rw [afterLock, if_neg hf] at hlock hsupp hafw
    rw [if_neg hf]
    refine h.congr ?_ hlock hsupp hafw rfl
    rw [outgoing_sendApiMsg, hu, if_neg (fun hc => hf hc.1), List.append_nil]
    rfl

theorem Coherent.procUpdateConfig (h : s.Coherent) (m : MsgGnssUpdateConfig) :
    (s.procUpdateConfig m).Coherent := by
  unfold LockAdapter.procUpdateConfig ConfigAdapter.proc
  cases hknown : s.mIsEngineCapabilitiesKnown with
  | false =>
    rw [if_neg Bool.false_ne_true]
    exact h.congr rfl rfl rfl rfl rfl
  | true =>
    rw [if_pos rfl]
    exact h.onUpdate m _ (sameLock_procUpdateConfig _ m) (updateConfig_locks _ m)

/-- `setConfig` requests the lock that its comment prescribes. -/
theorem configRequested_lock (s : LockAdapter) (c : ConfigAdapter)
    (hc : SameLock s.toConfigAdapter c) (oldMoServerUrl : String) :
    (LockApiMsg.setConfig oldMoServerUrl (configRequested conv c)).locks = [s.prescribed] := by
  have hflag : hasFlag (configRequested conv c).flags GNSS_CONFIG_FLAGS_GPS_LOCK_VALID_BIT = true := by
    rw [hasFlag_bit _ GNSS_CONFIG_FLAGS_GPS_LOCK_VALID_BIT 0 (by omega) rfl]
    unfold configRequested
    simp only
    split <;> split <;> split <;> simp only [BitVec.getLsbD_or] <;> rfl
  have hlock : (configRequested conv c).gpsLock = s.prescribed := by
    obtain ⟨hlock, hsupp, hafw, -⟩ := hc
    rw [prescribed, ← hlock, ← hsupp, ← hafw]
    unfold configRequested
    simp only [eq_comm (a := (0 : BitVec 32))]
    split <;> split <;> split <;> rfl
  rw [LockApiMsg.locks, if_pos hflag, hlock]

theorem Coherent.procEngineUp (h : s.Coherent) : (s.procEngineUp conv).Coherent := by
  let s₁ : LockAdapter := { s with mIsEngineCapabilitiesKnown := true }
  let c := s₁.toConfigAdapter.setSuplHostServer (some s₁.mGps_conf.SUPL_HOST) s₁.mGps_conf.SUPL_PORT
  have hc : SameLock s.toConfigAdapter c := by
    obtain ⟨hlock, hsupp, hafw, hcounter⟩ := sameLock_setSuplHostServer s₁.toConfigAdapter
      (some s₁.mGps_conf.SUPL_HOST) s₁.mGps_conf.SUPL_PORT
    exact ⟨hlock, hsupp, hafw, hcounter⟩
  obtain ⟨hlock, hsupp, hafw, -⟩ := id hc
  refine ⟨.inl ?_, fun _ => rfl, fun hs => ?_⟩
  · have hout : (s.procEngineUp conv).outgoing = s.outgoing ++ [s.prescribed] := by
      rw [← @configRequested_lock conv s c hc s₁.mMoServerUrl]
      exact outgoing_sendApiMsg (s₁.onConfig c) _
    have hpre : (s.procEngineUp conv).prescribed = s.prescribed := by
      show (if c.mSupportNfwControl ∨ c.mAfwControlId = 0 then c.mGps_conf.GPS_LOCK else _) = _
      rw [hlock, hsupp, hafw]
      rfl
    rw [hout, hpre, List.getLast?_concat]
  · show c.mGps_conf.GPS_LOCK &&& _ ≠ 0
    rw [hlock]
    exact h.mo (hsupp.symm.trans hs)

/-! ### The steps -/

/-- What processing a message leaves alone. -/
structure Frame (s s' : LockAdapter) : Prop where
  counter : s'.mSessionIdCounter = s.mSessionIdCounter
  confReadDone : s'.confReadDone = s.confReadDone
  msgs : ∀ x ∈ s'.msgs, x ∈ s.msgs ∨ ∃ u, x = .updateConfig u

theorem frame_procUpdateConfig (s : LockAdapter) (m : MsgGnssUpdateConfig) :
    Frame s (s.procUpdateConfig m) := by
  unfold LockAdapter.procUpdateConfig ConfigAdapter.proc
  cases hknown : s.mIsEngineCapabilitiesKnown with
  | false =>
    rw [if_neg Bool.false_ne_true]
    exact ⟨rfl, rfl, fun _ hx => .inl hx⟩
  | true =>
    have hcounter : (s.toConfigAdapter.procUpdateConfig m).1.mSessionIdCounter =
        s.mSessionIdCounter := by
      rw [(sameLock_procUpdateConfig s.toConfigAdapter m).counter]
      unfold afterLock
      split
      · rw [procGpsLock_fst]
      · rfl
    rw [if_pos rfl]
    simp only
    split <;> exact ⟨hcounter, rfl, fun _ hx => .inl hx⟩

theorem frame_procEngineUp (s : LockAdapter) : Frame s (s.procEngineUp conv) := by
  let s₁ : LockAdapter := { s with mIsEngineCapabilitiesKnown := true }
  refine ⟨?_, rfl, fun x hx => ?_⟩
  · exact (sameLock_setSuplHostServer s₁.toConfigAdapter _ _).counter
  · have hx : x ∈ s.msgs ++ _ := hx
    rcases List.mem_append.1 hx with hin | hpend
    · exact .inl hin
    · obtain ⟨u, -, rfl⟩ := List.mem_map.1 hpend
      exact .inr ⟨u, rfl⟩

/-- Every message but the first leaves the ids alone and queues no enable. -/
theorem frame_procMsg (s : LockAdapter) {m : LockMsg} (hm : m ≠ .readConfig) :
    Frame s (s.procMsg conv confLock m) := by
  cases m with
  | readConfig => exact absurd rfl hm
  | engineUp => exact frame_procEngineUp s
  | enable id techType =>
    change Frame s (s.procEnable id techType)
    unfold LockAdapter.procEnable
    split
    · exact ⟨rfl, rfl, fun _ hx => .inl hx⟩
    · split
      · exact ⟨rfl, rfl, fun _ hx => .inl hx⟩
      · simp only
        split <;> exact ⟨rfl, rfl, fun _ hx => .inl hx⟩
  | disable id =>
    change Frame s (s.procDisable id)
    unfold LockAdapter.procDisable
    split
    · exact ⟨rfl, rfl, fun _ hx => .inl hx⟩
    · simp only
      split <;> exact ⟨rfl, rfl, fun _ hx => .inl hx⟩
  | controlNfwLocationAccess mEnable => exact ⟨rfl, rfl, fun _ hx => .inl hx⟩
  | updateConfig m => exact frame_procUpdateConfig s m

theorem procReadConfig_frame (s : LockAdapter) :
    (s.procReadConfig confLock).mSessionIdCounter = s.mSessionIdCounter ∧
      (s.procReadConfig confLock).confReadDone = true ∧
      ∀ x ∈ (s.procReadConfig confLock).msgs, x ∈ s.msgs := by
  unfold LockAdapter.procReadConfig
  split
  · rename_i hread
    exact ⟨rfl, hread, fun _ hx => hx⟩
  · exact ⟨rfl, rfl, fun _ hx => hx⟩

theorem Coherent.proc (h : s.Coherent) (hq : s.Queued) (hsupp : s.Supported .proc)
    (hst : s.proc conv confLock = some s') : s'.Coherent := by
  unfold LockAdapter.proc at hst
  cases hm : s.msgs with
  | nil => rw [hm] at hst; cases hst
  | cons m ms =>
    rw [hm] at hst
    obtain rfl := Option.some.inj hst
    have h' : ({ s with msgs := ms } : LockAdapter).Coherent := h.congr rfl rfl rfl rfl rfl
    cases m with
    | readConfig => exact h'.procReadConfig fun hr => (hq.unread hr).2
    | engineUp => exact h'.procEngineUp
    | enable id techType => exact h'.procEnable (hq.ids id techType (by simp [hm]))
    | disable id => exact h'.procDisable id
    | controlNfwLocationAccess mEnable => exact h'.procControl (hsupp mEnable (by simp [hm]))
    | updateConfig m => exact h'.procUpdateConfig m

theorem Queued.proc (hq : s.Queued) (hst : s.proc conv confLock = some s') : s'.Queued := by
  unfold LockAdapter.proc at hst
  cases hm : s.msgs with
  | nil => rw [hm] at hst; cases hst
  | cons m ms =>
    rw [hm] at hst
    obtain rfl := Option.some.inj hst
    by_cases hm' : m = .readConfig
    · subst hm'
      obtain ⟨hcounter, hread, hmsgs⟩ :=
        @procReadConfig_frame confLock { s with msgs := ms }
      refine ⟨hcounter ▸ hq.counter, fun id techType hid => ?_, fun hr => ?_⟩
      · exact hq.ids id techType (by rw [hm]; exact List.mem_cons_of_mem _ (hmsgs _ hid))
      · exact absurd (hread.symm.trans hr) (by decide)
    · obtain ⟨hcounter, hread, hmsgs⟩ :=
        @frame_procMsg conv confLock { s with msgs := ms } _ hm'
      refine ⟨hcounter ▸ hq.counter, fun id techType hid => ?_, fun hr => ?_⟩
      · rcases hmsgs _ hid with hin | ⟨u, hu⟩
        · exact hq.ids id techType (by rw [hm]; exact List.mem_cons_of_mem _ hin)
        · cases hu
      · -- before the configuration is read, the head of the queue is the message that reads it
        obtain ⟨hhead, -⟩ := hq.unread (hread.symm.trans hr)
        rw [hm] at hhead
        exact absurd (Option.some.inj hhead) hm'

/-! ### The commands -/

theorem generateSessionId_spec (c : ConfigAdapter)
    (h : c.mSessionIdCounter ≠ 0 ∧ c.mSessionIdCounter ≠ 0xFFFFFFFF) :
    ∃ next, next ≠ 0 ∧ next ≠ 0xFFFFFFFF ∧
      c.generateSessionId = ({ c with mSessionIdCounter := next }, next) := by
  refine ⟨_, ?_, ?_, rfl⟩
  · split
    · decide
    · intro h0
      have hmax : c.mSessionIdCounter = 0xFFFFFFFF := by
        rw [← BitVec.add_sub_cancel c.mSessionIdCounter 1, h0]
        rfl
      exact h.2 hmax
  · split
    · decide
    · assumption

theorem generateIds_spec (count : ℕ) (c : ConfigAdapter)
    (h : c.mSessionIdCounter ≠ 0 ∧ c.mSessionIdCounter ≠ 0xFFFFFFFF) :
    ∃ next, next ≠ 0 ∧ next ≠ 0xFFFFFFFF ∧
      (ConfigAdapter.generateIds count c).1 = { c with mSessionIdCounter := next } := by
  induction count generalizing c with
  | zero => exact ⟨_, h.1, h.2, rfl⟩
  | succ count ih =>
    obtain ⟨next, h0, hmax, hgen⟩ := generateSessionId_spec c h
    obtain ⟨next', h0', hmax', hids⟩ := ih { c with mSessionIdCounter := next } ⟨h0, hmax⟩
    refine ⟨next', h0', hmax', ?_⟩
    show (ConfigAdapter.generateIds count c.generateSessionId.1).1 = _
    rw [hgen, hids]

/-- What a command does: it draws ids and queues messages. -/
theorem command_eq (hq : s.Queued) {e : Input} (hp : e ≠ .proc) (ha : e ≠ .procApi)
    (hst : step conv confLock env s e = some s') :
    ∃ next ms, next ≠ 0 ∧ next ≠ 0xFFFFFFFF ∧
      (∀ id techType, .enable id techType ∈ ms → id ≠ 0) ∧
      s' = { s with mSessionIdCounter := next, msgs := s.msgs ++ ms } := by
  obtain ⟨h0, hmax⟩ := hq.counter
  cases e with
  | enableCommand techType =>
    obtain ⟨next, h0', hmax', hgen⟩ := generateSessionId_spec s.toConfigAdapter hq.counter
    refine ⟨next, [.enable next techType], h0', hmax', fun id _ hid => ?_, ?_⟩
    · cases List.mem_singleton.1 hid
      exact h0'
    · obtain rfl := Option.some.inj hst
      show sendMsg (s.onConfig s.toConfigAdapter.generateSessionId.1)
        (.enable s.toConfigAdapter.generateSessionId.2 techType) = _
      rw [hgen]
      rfl
  | disableCommand id =>
    exact ⟨_, [.disable id], h0, hmax, by simp, (Option.some.inj hst).symm⟩
  | nfwControlCommand enable =>
    obtain rfl := Option.some.inj hst
    unfold nfwControlCommand
    split
    · exact ⟨_, [.controlNfwLocationAccess enable], h0, hmax, by simp, rfl⟩
    · exact ⟨_, [], h0, hmax, by simp, by simp⟩
  | gnssUpdateConfigCommand config =>
    obtain rfl := Option.some.inj hst
    obtain ⟨next, h0', hmax', hids⟩ :=
      generateIds_spec (ConfigAdapter.countFlags 32 config.flags) s.toConfigAdapter hq.counter
    unfold LockAdapter.gnssUpdateConfigCommand ConfigAdapter.gnssUpdateConfigCommand
    by_cases hcount : ConfigAdapter.countFlags 32 config.flags > 0
    · rw [if_pos hcount]
      refine ⟨next, [.updateConfig ⟨config, ConfigAdapter.countFlags 32 config.flags,
        (ConfigAdapter.generateIds (ConfigAdapter.countFlags 32 config.flags) s.toConfigAdapter).2⟩],
        h0', hmax', by simp, ?_⟩
      show sendMsg (s.onConfig (ConfigAdapter.generateIds _ _).1) _ = _
      rw [hids]
      rfl
    · rw [if_neg hcount]
      exact ⟨_, [], h0, hmax, by simp, by simp [onConfig]⟩
  | handleEngineUpEvent =>
    refine ⟨_, [.readConfig, .engineUp], h0, hmax, by simp, ?_⟩
    rw [← Option.some.inj hst]
    simp [LockAdapter.handleEngineUpEvent, sendMsg]
  | generateSessionId =>
    obtain ⟨next, h0', hmax', hgen⟩ := generateSessionId_spec s.toConfigAdapter hq.counter
    refine ⟨next, [], h0', hmax', by simp, ?_⟩
    rw [← Option.some.inj hst]
    show s.onConfig s.toConfigAdapter.generateSessionId.1 = _
    rw [hgen, List.append_nil]
    rfl
  | proc => exact absurd rfl hp
  | procApi => exact absurd rfl ha

theorem Queued.command (hq : s.Queued) {next : BitVec 32} {ms : List LockMsg} (h0 : next ≠ 0)
    (hmax : next ≠ 0xFFFFFFFF) (hids : ∀ id techType, .enable id techType ∈ ms → id ≠ 0) :
    ({ s with mSessionIdCounter := next, msgs := s.msgs ++ ms } : LockAdapter).Queued := by
  refine ⟨⟨h0, hmax⟩, fun id techType hid => ?_, fun hr => ?_⟩
  · rcases List.mem_append.1 hid with hin | hin
    · exact hq.ids id techType hin
    · exact hids id techType hin
  · obtain ⟨hhead, hrest⟩ := hq.unread hr
    refine ⟨?_, hrest⟩
    show (s.msgs ++ ms).head? = _
    rw [List.head?_append, hhead]
    rfl

/-- A message of `LocApiBase` sends what was on its way. -/
theorem procApi_eq (hst : s.procApi env = some s') :
    s'.outgoing = s.outgoing ∧ SameLock s.toConfigAdapter s'.toConfigAdapter ∧
      s'.touched = s.touched ∧ s'.msgs = s.msgs ∧ s'.confReadDone = s.confReadDone := by
  unfold LockAdapter.procApi at hst
  cases hm : s.apiMsgs with
  | nil => rw [hm] at hst; cases hst
  | cons m ms =>
    rw [hm] at hst
    obtain rfl := Option.some.inj hst
    have hafter : ∀ c requested, SameLock c (c.afterUpdateConfig env requested) := by
      intro c requested
      unfold ConfigAdapter.afterUpdateConfig
      split <;> exact ⟨rfl, rfl, rfl, rfl⟩
    have hout : (({ s with apiMsgs := ms } : LockAdapter).procApiMsg env m).outgoing =
        s.outgoing := by
      have hms : (({ s with apiMsgs := ms } : LockAdapter).procApiMsg env m).apiMsgs = ms := by
        cases m <;> rfl
      rw [outgoing, procApiMsg_locks, hms, outgoing, hm, List.flatMap_cons, List.append_assoc]
    refine ⟨hout, ?_⟩
    cases m with
    | setGpsLock gpsLock => exact ⟨⟨rfl, rfl, rfl, rfl⟩, rfl, rfl, rfl⟩
    | setConfig oldMoServerUrl requested => exact ⟨hafter s.toConfigAdapter _, rfl, rfl, rfl⟩
    | updateConfig u => exact ⟨hafter s.toConfigAdapter _, rfl, rfl, rfl⟩

/-- **Step lemma.** -/
theorem Coherent.step {e : Input} (h : s.Coherent) (hq : s.Queued) (hsupp : s.Supported e)
    (hst : step conv confLock env s e = some s') : s'.Coherent ∧ s'.Queued := by
  by_cases hp : e = .proc
  · subst hp
    exact ⟨h.proc hq hsupp hst, hq.proc hst⟩
  by_cases ha : e = .procApi
  · subst ha
    obtain ⟨hout, hlock, htouch, hmsgs, hread⟩ := procApi_eq hst
    refine ⟨h.congr hout hlock.gpsLock hlock.support hlock.afwControlId htouch, ?_⟩
    refine ⟨hlock.counter ▸ hq.counter, hmsgs ▸ hq.ids, fun hr => ?_⟩
    rw [hmsgs, hout, htouch, hlock.support]
    exact hq.unread (hread.symm.trans hr)
  · obtain ⟨next, ms, h0, hmax, hids, rfl⟩ := command_eq hq hp ha hst
    exact ⟨h.congr rfl rfl rfl rfl rfl, hq.command h0 hmax hids⟩

theorem coherent_init (c : ConfigAdapter) : (init c).Coherent :=
  ⟨.inr ⟨rfl, rfl⟩, fun h => absurd rfl h, nofun⟩

theorem queued_init (c : ConfigAdapter) : (init c).Queued := by
  refine ⟨⟨by show (1 : BitVec 32) ≠ 0; decide, by show (1 : BitVec 32) ≠ _; decide⟩, ?_,
    fun _ => ⟨rfl, rfl, rfl, rfl⟩⟩
  intro id techType hid
  cases List.mem_singleton.1 hid

/-- **GPS lock.**  In a run whose steps are all supported, once every queued message has been
processed, the modem has the lock that `setConfig` prescribes, if anything has touched the lock at
all.  A step that is not supported sends a lock that is not the one prescribed. -/
theorem lock_coherent {c : ConfigAdapter} {es : List Input}
    (h : (system conv confLock env c).Run Supported es s) :
    (s.msgs = [] → s.apiMsgs = [] → s.touched = true → s.locks.getLast? = some s.prescribed) ∧
      ∀ s', step conv confLock env s .proc = some s' → ¬ s.Supported .proc →
        s'.outgoing.getLast? ≠ some s'.prescribed := by
  obtain ⟨hc, hq⟩ : s.Coherent ∧ s.Queued :=
    h.invariant (I := fun s => s.Coherent ∧ s.Queued) ⟨coherent_init c, queued_init c⟩
      fun _ _ _ hI hG hst => hI.1.step hI.2 hG hst
  constructor
  · intro _ hapi htouch
    rcases hc.last with hlast | ⟨hno, -⟩
    · rwa [outgoing, hapi, List.flatMap_nil, List.append_nil] at hlast
    · exact absurd (htouch.symm.trans hno) (by decide)
  · intro s' hst hno
    simp only [Supported, not_forall, not_or] at hno
    obtain ⟨mEnable, hhead, hsupp, hafw⟩ := hno
    obtain ⟨ms, hms⟩ := List.head?_eq_some_iff.1 hhead
    have hst : s.proc conv confLock = some s' := hst
    rw [LockAdapter.proc, hms] at hst
    obtain rfl := Option.some.inj hst
    have h' : ({ s with msgs := ms } : LockAdapter).Coherent := hc.congr rfl rfl rfl rfl rfl
    exact h'.not_procControl hsupp hafw

end Lemmas

/-! ### Runs on fixed inputs -/

instance (s : LockAdapter) : ∀ e, Decidable (s.Supported e)
  | .proc => inferInstanceAs (Decidable (∀ _ : Bool, _ → _))
  | .enableCommand _ | .disableCommand _ | .nfwControlCommand _ | .gnssUpdateConfigCommand _
  | .handleEngineUpEvent | .generateSessionId | .procApi => inferInstanceAs (Decidable True)

/-- An engine that accepts everything. -/
def acceptingEnv : ConfigAdapter.Env where
  engine := fun _ => .SUCCESS
  supported := true
  overshift := fun _ => 0
  gethostbyname := fun _ => none
  inet_aton := fun _ => none
  addr := 0

def plainConversions : LocApiConversions where
  convertSuplVersion := fun _ => .V1_0_0
  convertLppProfile := fun _ => .RRLP_ON_LTE
  convertLppeCp := fun _ => 0
  convertLppeUp := fun _ => 0

/-- An adapter with nothing configured. -/
def plainAdapter : ConfigAdapter where
  mIsEngineCapabilitiesKnown := false
  mGps_conf := ⟨0, 0, "", 0, 0, 0, 0, 0, 0, 0, 0, false⟩
  mServerUrl := ""
  mMoServerUrl := ""
  mAfwControlId := 0
  mSupportNfwControl := true
  mBlacklistedSvIds := []
  mGnssSvIdConfig := .zero
  mSessionIdCounter := 1
  mPendingMsgs := []

/-- A request to update the lock, to the lock of network initiated requests. -/
def lockUpdate : GnssConfigSettings :=
  { GnssConfigSettings.zero with
    flags := GNSS_CONFIG_FLAGS_GPS_LOCK_VALID_BIT
    gpsLock := GNSS_CONFIG_GPS_LOCK_NI }

/-- The location service is enabled, network initiated requests are forbidden, and then the lock is
updated. -/
theorem lock_coherent_updated :
    ∃ s, (system plainConversions GNSS_CONFIG_GPS_LOCK_MO_AND_NI acceptingEnv plainAdapter).Run
        Supported [.handleEngineUpEvent, .proc, .enableCommand LOCATION_TECHNOLOGY_TYPE_GNSS,
          .nfwControlCommand false, .proc, .proc, .proc, .proc, .gnssUpdateConfigCommand lockUpdate,
          .proc, .procApi, .procApi, .procApi, .procApi] s ∧
      s.locks = [3, 2, 2, 0] ∧ s.locks.getLast? = some s.prescribed := by
  have hrun : (system plainConversions GNSS_CONFIG_GPS_LOCK_MO_AND_NI acceptingEnv plainAdapter).Run
      Supported [.handleEngineUpEvent, .proc, .enableCommand LOCATION_TECHNOLOGY_TYPE_GNSS,
        .nfwControlCommand false, .proc, .proc, .proc, .proc, .gnssUpdateConfigCommand lockUpdate,
        .proc, .procApi, .procApi, .procApi, .procApi] _ :=
    System.run_guarded rfl
  exact ⟨_, hrun, rfl, (lock_coherent hrun).1 rfl rfl rfl⟩

/-- Network initiated requests are controlled after an update has been requested and before it is
processed: the modem is left with a lock although the location service is enabled. -/
theorem control_overtaken_by_update :
    ∃ s, (system plainConversions GNSS_CONFIG_GPS_LOCK_MO_AND_NI acceptingEnv plainAdapter).Run
        System.Free [.handleEngineUpEvent, .proc, .proc, .proc,
          .enableCommand LOCATION_TECHNOLOGY_TYPE_GNSS, .proc, .gnssUpdateConfigCommand lockUpdate,
          .nfwControlCommand false, .proc, .proc, .procApi, .procApi, .procApi, .procApi] s ∧
      s.msgs = [] ∧ s.apiMsgs = [] ∧ s.touched = true ∧
      s.locks.getLast? = some GNSS_CONFIG_GPS_LOCK_MO_AND_NI ∧
      s.prescribed = GNSS_CONFIG_GPS_LOCK_NONE := by
  exact ⟨_, System.run_foldlM rfl, rfl, rfl, rfl, rfl, rfl⟩

end LockAdapter

end GpsHal
