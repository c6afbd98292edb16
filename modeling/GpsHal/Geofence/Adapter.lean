import GpsHal.Geofence.Batch
import GpsHal.Geofence.Store

/-!
# `GeofenceAdapter` : the store over commands, client removals and engine restarts

The saved geofences are changed where an answer of the engine is taken: the answers to the items of
commands, the answers to the removals that follow the removal of a client, and the answers to the
additions that follow a restart of the engine.  The adapter is a transition system with one event
for each message or callback; requests that are under way are part of its state, and the engine may
answer them in any order and with any result.

## Main definitions

* `GeofenceAdapter` : the store, the clients and what is under way.
* `GeofenceAdapter.expected` : the geofences as the successful commands have left them; no function
  of the adapter reads it.
* `GeofenceAdapter.step`, `GeofenceAdapter.system` : the events.
* `GeofenceAdapter.Consistent` : what is expected of the two maps of the store.
-/

namespace GpsHal

namespace GeofenceOption

/-- `sizeof(GeofenceOption)` -/
def sizeof : ℕ := 16

end GeofenceOption

namespace GeofenceInfo

/-- `sizeof(GeofenceInfo)` -/
def sizeof : ℕ := 32

end GeofenceInfo

namespace GeofenceMsg

variable (m : GeofenceMsg) (i : ℕ)

/-- `mIds[i]` -/
def idAt : BitVec 32 := m.mIds.getD i 0

def keyAt : GeofenceKey := ⟨m.mClient, m.idAt i⟩

/-- `mOptions[i]` -/
def optionsAt : GeofenceOption := (m.mOptions.getD []).getD i ⟨0, 0, 0, 0⟩

/-- `mInfos[i]` -/
def infoAt : GeofenceInfo := (m.mInfos.getD []).getD i ⟨0, 0, 0, 0⟩

end GeofenceMsg

namespace GeofenceStore

/-- What the answer to an item does to the store if the engine has succeeded. -/
def onSuccess (s : GeofenceStore) (m : GeofenceMsg) (i : ℕ) (hwId : BitVec 32) : GeofenceStore :=
  match m.command with
  | .addGeofences => s.saveGeofenceItem m.mClient (m.idAt i) hwId (m.optionsAt i) (m.infoAt i)
  | .removeGeofences => s.removeGeofenceItem hwId
  | .pauseGeofences => s.pauseGeofenceItem hwId
  | .resumeGeofences => s.resumeGeofenceItem hwId
  | .modifyGeofences => s.modifyGeofenceItem hwId (m.optionsAt i)

end GeofenceStore

namespace GeofenceObject

variable (object : GeofenceObject)

/-- The options with which a geofence is added again. -/
def options : GeofenceOption :=
  ⟨GeofenceOption.sizeof, object.breachMask, object.responsiveness, object.dwellTime⟩

/-- The position with which a geofence is added again. -/
def info : GeofenceInfo := ⟨GeofenceInfo.sizeof, object.latitude, object.longitude, object.radius⟩

end GeofenceObject

/-- What a successful item makes of a geofence. -/
def GeofenceMsg.intend (m : GeofenceMsg) (i : ℕ) (object : Option GeofenceObject) :
    Option GeofenceObject :=
  match m.command with
  | .addGeofences => some (GeofenceStore.newObject (m.keyAt i) (m.optionsAt i) (m.infoAt i))
  | .removeGeofences => none
  | .pauseGeofences => object.map fun object => { object with paused := true }
  | .resumeGeofences => object.map fun object => { object with paused := false }
  | .modifyGeofences => object.map (GeofenceStore.modifyObject (m.optionsAt i))

/-- The adapter: its two maps, which clients `mClientData` has, and what is under way: the commands
with the progress of their items, the geofences that are added again after a restart, and the
hardware ids that are removed because their client was.  `expected` records what the successful
commands have made of each geofence. -/
structure GeofenceAdapter where
  store : GeofenceStore
  mClientData : ℕ → Bool
  batches : List GeofenceBatch
  restarts : List GeofenceObject
  removals : List (BitVec 32)
  expected : GeofenceKey → Option GeofenceObject

/-- What happens to the adapter.  The hardware id of an answer is the one that the engine returns
with an added geofence. -/
inductive GeofenceEvent where
  | addClient (client : ℕ)
  | removeClient (client : ℕ)
  | command (m : GeofenceMsg) (memory : ℕ → LocationError)
  | call (n i : ℕ)
  | answer (n i : ℕ) (err : LocationError) (hwId : BitVec 32)
  | engineUp
  | restarted (object : GeofenceObject) (err : LocationError) (hwId : BitVec 32)
  | clientStopped (hwId : BitVec 32) (err : LocationError)

namespace GeofenceItemPhase

/-- The hardware id with which the engine has been asked. -/
def hwId : GeofenceItemPhase → Option (BitVec 32)
  | requested hwId => hwId
  | queued | unknownId | answered _ | rejected => none

end GeofenceItemPhase

namespace GeofenceAdapter

def init : GeofenceAdapter := ⟨GeofenceStore.empty, fun _ => false, [], [], [], fun _ => none⟩

variable (s : GeofenceAdapter)

def setStore (store : GeofenceStore) : GeofenceAdapter := { s with store := store }

def setBatch (n : ℕ) (b : GeofenceBatch) : GeofenceAdapter :=
  { s with batches := s.batches.set n b }

def setClient (client : ℕ) (present : Bool) : GeofenceAdapter :=
  { s with mClientData := Function.update s.mClientData client present }

/-- Forget the hardware id of a geofence and ask the engine to remove it. -/
def stopGeofence (key : GeofenceKey) (hwId : BitVec 32) : GeofenceAdapter :=
  { s with
    store := { s.store with mGeofenceIds := s.store.mGeofenceIds.erase key }
    removals := s.removals ++ [hwId] }

/-- `stopClientSessions` : the geofences of the client stay in `mGeofences` until the engine has
removed them. -/
def stopClientSessions (client : ℕ) : GeofenceAdapter :=
  s.store.mGeofenceIds.entries.foldl
    (fun s e => if client = e.1.client then s.stopGeofence e.1 e.2 else s) s

/-- `restartGeofences` : both maps are cleared, and filled again as the engine answers. -/
def restartGeofences : GeofenceAdapter :=
  if s.store.mGeofences.isEmpty then s
  else { s with
    store := GeofenceStore.empty
    restarts := s.restarts ++ s.store.mGeofences.values }

/-- The answer to a geofence that is added again.  If it was paused the engine is asked to pause it,
and whatever it says to that is ignored. -/
def onRestarted (object : GeofenceObject) (err : LocationError) (hwId : BitVec 32) :
    GeofenceAdapter :=
  if err = .SUCCESS then
    s.setStore
      (s.store.saveGeofenceItem object.key.client object.key.id hwId object.options object.info)
  else s

/-- The answer to the removal of a geofence whose client was removed. -/
def onClientStopped (hwId : BitVec 32) (err : LocationError) : GeofenceAdapter :=
  if err = .SUCCESS then
    s.setStore { s.store with mGeofences := s.store.mGeofences.erase hwId }
  else s

/-- The answer to an item, as far as it changes the store. -/
def onItemAnswer (m : GeofenceMsg) (i : ℕ) (err : LocationError) (hwId : BitVec 32) :
    GeofenceAdapter :=
  if err = .SUCCESS then
    { s with
      store := s.store.onSuccess m i hwId
      expected := Function.update s.expected (m.keyAt i) (m.intend i (s.expected (m.keyAt i))) }
  else s

/-- One message or callback.  The callback of an added geofence ignores what is looked up. -/
def step : GeofenceEvent → Option GeofenceAdapter
  | .addClient client => some (s.setClient client true)
  | .removeClient client => some ((s.stopClientSessions client).setClient client false)
  | .command m memory => some { s with batches := s.batches ++ [m.proc memory] }
  | .call n i =>
    match s.batches[n]? with
    | none => none
    | some b =>
      (b.step (.call i (s.store.getHwIdFromClient b.mClient (b.idAt i)))).map (s.setBatch n)
  | .answer n i err hwId =>
    match s.batches[n]? with
    | none => none
    | some b =>
      (b.step (.answer i err)).map fun b' =>
        (s.onItemAnswer b.toGeofenceMsg i err ((b.phases i).hwId.getD hwId)).setBatch n b'
  | .engineUp => some s.restartGeofences
  | .restarted object err hwId =>
    if object ∈ s.restarts then
      some ({ s with restarts := s.restarts.erase object }.onRestarted object err hwId)
    else none
  | .clientStopped hwId err =>
    if hwId ∈ s.removals then
      some ({ s with removals := s.removals.erase hwId }.onClientStopped hwId err)
    else none

def system : System GeofenceAdapter GeofenceEvent := .ofPartial init step

/-- No answer of the engine is outstanding. -/
def Quiescent : Prop :=
  s.restarts = [] ∧ s.removals = [] ∧
    ∀ b ∈ s.batches, ∀ i hwId, b.phases i ≠ .requested hwId

/-- The two maps are inverse to each other, every geofence has its client, and each of them is as
the last successful command on it has left it. -/
structure Consistent : Prop where
  inverse : ∀ key hwId, s.store.mGeofenceIds.find key = some hwId ↔
    ∃ object, s.store.mGeofences.find hwId = some object ∧ object.key = key
  client : ∀ hwId object, s.store.mGeofences.find hwId = some object →
    s.mClientData object.key.client = true
  current : ∀ hwId object, s.store.mGeofences.find hwId = some object →
    s.expected object.key = some object

end GeofenceAdapter

end GpsHal
