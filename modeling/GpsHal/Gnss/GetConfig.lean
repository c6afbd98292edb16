import GpsHal.Gnss.ConfigAlign
import GpsHal.Transition.Basic
import Mathlib.Logic.Function.Basic

/-!
# `GnssAdapter` : reading the configuration

`gnssGetConfigCommand` reserves an id for each setting that is asked for and returns the array of the
ids to the client, which later knows the answer by the array.  The array belongs to the message, which
frees it when it is destroyed.  A message that comes before the capabilities of the engine are known is
kept as a copy with an array of its own, and sent again when the engine is up.

Arrays are told apart by numbers, in the order of their allocation.

## Main definitions

* `MsgGnssGetConfig`, `GetConfigAnswer`, `GetConfigAdapter` : the messages, the answers and the adapter.
* `GetConfigAdapter.gnssGetConfigCommand`, `GetConfigAdapter.procGetConfig` : the command and its message.
* `GetConfigAdapter.system` : commands, engine restarts and the thread of the adapter's messages.
* `GetConfigAdapter.Accounted` : the commands that wait or are answered, and who owns the arrays.
-/

namespace GpsHal

/-- `MsgGnssGetConfig`.  The last two fields are records that no function reads: the number of the
command, and whether the message is a copy. -/
structure MsgGnssGetConfig where
  mConfigMask : BitVec 32
  mIds : ℕ
  mCount : ℕ
  command : ℕ
  copied : Bool
  deriving DecidableEq, Repr

inductive GetConfigMsg
  | MsgGnssGetConfig (m : MsgGnssGetConfig)
  /-- With whether the engine can enable constellations. -/
  | MsgHandleEngineUpEvent (supported : Bool)
  deriving DecidableEq, Repr

/-- A call `reportResponse(index, errs, mIds)` : the array and what is in it, the errors, and the message
that is answered. -/
structure GetConfigAnswer where
  msg : MsgGnssGetConfig
  ids : Option (List (BitVec 32))
  errs : List LocationError
  supported : Bool
  deriving DecidableEq, Repr

/-- A command that has sent a message: what is asked for, the array that is returned, and its ids. -/
structure GetConfigCommand where
  configMask : BitVec 32
  array : ℕ
  ids : List (BitVec 32)
  deriving DecidableEq, Repr

/-- `arrays` are those that are allocated.  `blacklistRequests` counts the calls of `getBlacklistSv`; the
last four fields are records, `generatedIds` of all ids that have been given out. -/
structure GetConfigAdapter where
  mIsEngineCapabilitiesKnown : Bool
  supported : Bool
  mSessionIdCounter : BitVec 32
  arrays : ℕ → Option (List (BitVec 32))
  allocated : ℕ
  queue : List GetConfigMsg
  mPendingMsgs : List MsgGnssGetConfig
  blacklistRequests : ℕ
  generatedIds : List (BitVec 32)
  commands : List GetConfigCommand
  answers : List GetConfigAnswer
  doubleFrees : ℕ

inductive GetConfigEvent
  | gnssGetConfigCommand (configMask : BitVec 32)
  | handleEngineUpEvent (supported : Bool)
  /-- The thread takes its next message. -/
  | process
  /-- An id for a command of another kind, of this adapter or of another one. -/
  | generateSessionId
  deriving DecidableEq, Repr

namespace GetConfigAdapter

def init : GetConfigAdapter where
  mIsEngineCapabilitiesKnown := false
  supported := false
  mSessionIdCounter := 1
  arrays _ := none
  allocated := 0
  queue := []
  mPendingMsgs := []
  blacklistRequests := 0
  generatedIds := []
  commands := []
  answers := []
  doubleFrees := 0

variable (s : GetConfigAdapter)

/-! ### The command -/

/-- `LocAdapterBase::generateSessionId` -/
def generateSessionId : GetConfigAdapter × BitVec 32 :=
  let next := s.mSessionIdCounter + 1
  let next := if next = 0xFFFFFFFF then 1 else next
  ({ s with mSessionIdCounter := next, generatedIds := s.generatedIds ++ [next] }, next)

/-- The ids of `count` settings. -/
def generateIds : ℕ → GetConfigAdapter → GetConfigAdapter × List (BitVec 32)
  | 0, s => (s, [])
  | count + 1, s =>
    let (s, id) := s.generateSessionId
    let (s, ids) := generateIds count s
    (s, id :: ids)

/-- `new uint32_t[]` with its contents. -/
def alloc (ids : List (BitVec 32)) : GetConfigAdapter :=
  { s with arrays := Function.update s.arrays s.allocated (some ids), allocated := s.allocated + 1 }

/-- `delete[]` -/
def free (array : ℕ) : GetConfigAdapter :=
  { s with
    arrays := Function.update s.arrays array none
    doubleFrees := if s.arrays array = none then s.doubleFrees + 1 else s.doubleFrees }

def sendMsg (msg : GetConfigMsg) : GetConfigAdapter := { s with queue := s.queue ++ [msg] }

/-- The message of a command whose ids are in a new array. -/
def issue (configMask : BitVec 32) (count : ℕ) (ids : List (BitVec 32)) : GetConfigAdapter :=
  let msg : MsgGnssGetConfig := ⟨configMask, s.allocated, count, s.commands.length, false⟩
  let s := { s.alloc ids with commands := s.commands ++ [GetConfigCommand.mk configMask s.allocated ids] }
  s.sendMsg (.MsgGnssGetConfig msg)

/-- `gnssGetConfigCommand` -/
def gnssGetConfigCommand (configMask : BitVec 32) : GetConfigAdapter :=
  let count := ConfigAdapter.countFlags 32 configMask
  if count > 0 then
    let (s, ids) := generateIds count s
    s.issue configMask count ids
  else s

/-! ### The message -/

/-- The errors of `proc`, flag by flag, with the error of the setting. -/
def settings (supported : Bool) : List (BitVec 32 × LocationError) :=
  [(GNSS_CONFIG_FLAGS_GPS_LOCK_VALID_BIT, .NOT_SUPPORTED),
    (GNSS_CONFIG_FLAGS_SUPL_VERSION_VALID_BIT, .NOT_SUPPORTED),
    (GNSS_CONFIG_FLAGS_SET_ASSISTANCE_DATA_VALID_BIT, .NOT_SUPPORTED),
    (GNSS_CONFIG_FLAGS_LPP_PROFILE_VALID_BIT, .NOT_SUPPORTED),
    (GNSS_CONFIG_FLAGS_LPPE_CONTROL_PLANE_VALID_BIT, .NOT_SUPPORTED),
    (GNSS_CONFIG_FLAGS_LPPE_USER_PLANE_VALID_BIT, .NOT_SUPPORTED),
    (GNSS_CONFIG_FLAGS_AGLONASS_POSITION_PROTOCOL_VALID_BIT, .NOT_SUPPORTED),
    (GNSS_CONFIG_FLAGS_EM_PDN_FOR_EM_SUPL_VALID_BIT, .NOT_SUPPORTED),
    (GNSS_CONFIG_FLAGS_SUPL_EM_SERVICES_BIT, .NOT_SUPPORTED),
    (GNSS_CONFIG_FLAGS_SUPL_MODE_BIT, .NOT_SUPPORTED),
    (GNSS_CONFIG_FLAGS_BLACKLISTED_SV_IDS_BIT, if supported then .SUCCESS else .NOT_SUPPORTED),
    (GNSS_CONFIG_FLAGS_EMERGENCY_EXTENSION_SECONDS_BIT, .NOT_SUPPORTED)]

/-- The error of one setting is written if it is asked for and there is room. -/
def writeErr (m : MsgGnssGetConfig) (errs : List LocationError) (setting : BitVec 32 × LocationError) :
    List LocationError :=
  if hasFlag m.mConfigMask setting.1 && decide (errs.length < m.mCount) then errs ++ [setting.2] else errs

/-- `MsgGnssGetConfig::proc` -/
def procGetConfig (m : MsgGnssGetConfig) : GetConfigAdapter :=
  if s.mIsEngineCapabilitiesKnown then
    let errs := (settings s.supported).foldl (writeErr m) []
    let asks := hasFlag m.mConfigMask GNSS_CONFIG_FLAGS_BLACKLISTED_SV_IDS_BIT && s.supported
    { s with
      blacklistRequests := if asks then s.blacklistRequests + 1 else s.blacklistRequests
      answers := s.answers ++ [GetConfigAnswer.mk m (s.arrays m.mIds) errs s.supported] }
  else
    -- the ids are copied into a new array
    let copy := { m with mIds := s.allocated, copied := true }
    { s.alloc ((s.arrays m.mIds).getD []) with mPendingMsgs := s.mPendingMsgs ++ [copy] }

/-- The parts of `MsgHandleEngineUpEvent::proc` that the commands depend on. -/
def procEngineUp (supported : Bool) : GetConfigAdapter :=
  { s with
    mIsEngineCapabilitiesKnown := true
    supported
    queue := s.queue ++ s.mPendingMsgs.map .MsgGnssGetConfig
    mPendingMsgs := [] }

/-- A message is destroyed once it has been processed. -/
def step : GetConfigEvent → Option GetConfigAdapter
  | .gnssGetConfigCommand configMask => some (s.gnssGetConfigCommand configMask)
  | .handleEngineUpEvent supported => some (s.sendMsg (.MsgHandleEngineUpEvent supported))
  | .generateSessionId => some s.generateSessionId.1
  | .process =>
    match s.queue with
    | [] => none
    | .MsgGnssGetConfig m :: queue => some (({ s with queue }.procGetConfig m).free m.mIds)
    | .MsgHandleEngineUpEvent supported :: queue => some ({ s with queue }.procEngineUp supported)

def system : System GetConfigAdapter GetConfigEvent := .ofPartial init step

/-! ### What becomes of the commands -/

/-- The answer to a requested setting. -/
def outcome (supported : Bool) (bit : ℕ) : LocationError :=
  if bit = 10 ∧ supported = true then .SUCCESS else .NOT_SUPPORTED

/-- The message of a command, if it is one. -/
def getConfig? : GetConfigMsg → Option MsgGnssGetConfig
  | .MsgGnssGetConfig m => some m
  | .MsgHandleEngineUpEvent _ => none

/-- The messages that wait, for the thread or for the engine. -/
def held : List MsgGnssGetConfig :=
  s.mPendingMsgs ++ s.queue.filterMap getConfig?

/-- The message carries the command `c` : its mask, and its array as long as it has not been copied. -/
structure Carries (m : MsgGnssGetConfig) (c : GetConfigCommand) : Prop where
  configMask : m.mConfigMask = c.configMask
  count : m.mCount = c.ids.length
  array : m.mIds = c.array ↔ m.copied = false

/-- The commands of an adapter for which the messages `held` wait. -/
structure Accounted (held : List MsgGnssGetConfig) : Prop where
  /-- Each command waits or has been answered, and only once. -/
  once : ((held ++ s.answers.map (·.msg)).map (·.command)).Perm (List.range s.commands.length)
  /-- A message that waits has the ids of its command in an array. -/
  waits : ∀ m ∈ held, ∃ c, s.commands[m.command]? = some c ∧ Carries m c ∧ s.arrays m.mIds = some c.ids
  /-- Each array belongs to one message that waits, and has been freed at most once. -/
  owner : ∀ array, s.arrays array ≠ none → ∃ m ∈ held, m.mIds = array
  distinct : (held.map (·.mIds)).Nodup
  freedOnce : s.doubleFrees = 0
  /-- An answer shows the ids of its command, and an error for each setting in the order of the bits. -/
  answered : ∀ a ∈ s.answers, ∃ c, s.commands[a.msg.command]? = some c ∧ Carries a.msg c ∧
    a.ids = some c.ids ∧
    a.errs = ((List.range 12).filter c.configMask.getLsbD).map (outcome a.supported)
  requests : s.blacklistRequests =
    s.answers.countP fun a => a.msg.mConfigMask.getLsbD 10 && a.supported
  /-- A command has an id for each bit of its mask, and these are given out for it alone. -/
  idsLength : ∀ c ∈ s.commands, c.ids.length = (requestedBits c.configMask).length
  generated : (s.commands.flatMap (·.ids)).Sublist s.generatedIds

end GetConfigAdapter

end GpsHal
