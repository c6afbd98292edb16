import GpsHal.Transition.Basic
import Mathlib.Data.BitVec
import Mathlib.Logic.Function.Basic

/-!
# `LocationAPI` : clients and adapters

A client of the location API registers callbacks with `createInstance` and `updateCallbacks`; they
decide which of three adapters get to know it.  `destroy` asks adapters to remove the client, and
each of them reports from its own thread when it has done so.  The last report runs the callback
given to `destroy`.

The public functions and the reports hold one lock (`gDataMutex`), so each is one step.  An adapter
takes its messages one by one on a thread of its own.

## Main definitions

* `LocationCallbacks`, `LocationAdapterType` : which adapters a set of callbacks concerns.
* `LocationAPI` : `gData`, the adapters' clients and queues, and what has become of each object.
* `LocationAPI.system` : the steps, labelled by `LocationApiEvent`.
-/

namespace GpsHal

/-- The adapters, with the bits of `LocationAdapterTypeMask`. -/
inductive LocationAdapterType where
  | GNSS | BATCHING | GEOFENCE
  deriving DecidableEq, Repr

namespace LocationAdapterType

/-- `LOCATION_ADAPTER_GNSS_TYPE_BIT` and so on. -/
def bit : LocationAdapterType → BitVec 16
  | GNSS => 1 <<< 0
  | BATCHING => 1 <<< 1
  | GEOFENCE => 1 <<< 2

end LocationAdapterType

/-- The callbacks of `LocationCallbacks` that are looked at here: whether each is set. -/
structure LocationCallbacks where
  capabilitiesCb : Bool
  responseCb : Bool
  collectiveResponseCb : Bool
  trackingCb : Bool
  batchingCb : Bool
  geofenceBreachCb : Bool
  geofenceStatusCb : Bool
  gnssLocationInfoCb : Bool
  gnssNiCb : Bool
  gnssMeasurementsCb : Bool
  engineLocationsInfoCb : Bool
  deriving DecidableEq, Repr

namespace LocationCallbacks

/-- The mandatory callbacks are set. -/
def complete (cbs : LocationCallbacks) : Bool :=
  cbs.capabilitiesCb && cbs.responseCb && cbs.collectiveResponseCb

def isGnssClient (cbs : LocationCallbacks) : Bool :=
  cbs.gnssNiCb || cbs.trackingCb || cbs.gnssLocationInfoCb || cbs.engineLocationsInfoCb ||
    cbs.gnssMeasurementsCb

def isBatchingClient (cbs : LocationCallbacks) : Bool := cbs.batchingCb

def isGeofenceClient (cbs : LocationCallbacks) : Bool :=
  cbs.geofenceBreachCb || cbs.geofenceStatusCb

/-- The callbacks concern the adapter. -/
def isClientOf (cbs : LocationCallbacks) : LocationAdapterType → Bool
  | .GNSS => cbs.isGnssClient
  | .BATCHING => cbs.isBatchingClient
  | .GEOFENCE => cbs.isGeofenceClient

end LocationCallbacks

/-- `gData.gnssInterface` and `gGnssLoadFailed`, and so on for the other adapters. -/
inductive LocationInterface where
  | unloaded | loaded | loadFailed
  deriving DecidableEq, Repr

/-- The messages of an adapter. -/
inductive AdapterMsg (C : Type*) where
  | addClient (client : C) (callbacks : LocationCallbacks)
  /-- Remove the client and report it. -/
  | removeClient (client : C)
  deriving DecidableEq

/-- The clients of an adapter and its queue. -/
structure AdapterClients (C : Type*) where
  mClientData : C → Option LocationCallbacks
  queue : List (AdapterMsg C)

/-- `LocationAPIDestroyCbData`; an entry is made only if there is a callback. -/
structure LocationAPIDestroyCbData where
  waitAdapterMask : BitVec 16
  deriving DecidableEq, Repr

/-- What has become of an object: `destroyed withCb calls` has been destroyed, with or without a
callback, and this callback has run `calls` times. -/
inductive ClientLife where
  | unused
  | live
  | destroyed (withCb : Bool) (calls : ℕ)
  deriving DecidableEq, Repr

/-- There is no object: it has not been created, or its callback has run and it is deleted. -/
def ClientLife.isFree : ClientLife → Bool
  | unused => true
  | live => false
  | destroyed withCb calls => withCb && calls != 0

/-- The callback has run once more. -/
def ClientLife.called : ClientLife → ClientLife
  | destroyed withCb calls => destroyed withCb (calls + 1)
  | life => life

inductive LocationApiEvent (C : Type*) where
  | createInstance (client : C) (callbacks : LocationCallbacks)
  | updateCallbacks (client : C) (callbacks : LocationCallbacks)
  | destroy (client : C) (withCb : Bool)
  /-- The adapter takes its next message. -/
  | process (adapter : LocationAdapterType)

/-- `gData` and the adapters. -/
structure LocationAPI (C : Type*) where
  clientData : C → Option LocationCallbacks
  destroyClientData : C → Option LocationAPIDestroyCbData
  interface : LocationAdapterType → LocationInterface
  adapter : LocationAdapterType → AdapterClients C
  life : C → ClientLife

namespace LocationAPI

variable {C : Type*}

open LocationAdapterType

/-- The adapter with another queue. -/
def setQueue (s : LocationAPI C) (k : LocationAdapterType) (queue : List (AdapterMsg C)) :
    LocationAPI C :=
  { s with adapter := Function.update s.adapter k { s.adapter k with queue := queue } }

/-- Put a message into the queue of an adapter. -/
def sendMsg (s : LocationAPI C) (k : LocationAdapterType) (m : AdapterMsg C) : LocationAPI C :=
  s.setQueue k ((s.adapter k).queue ++ [m])

variable [DecidableEq C]

def setLife (s : LocationAPI C) (client : C) (life : ClientLife) : LocationAPI C :=
  { s with life := Function.update s.life client life }

/-- Let the entry of a client in `gData.clientData` be `callbacks`. -/
def setClientData (s : LocationAPI C) (client : C) (callbacks : Option LocationCallbacks) :
    LocationAPI C :=
  { s with clientData := Function.update s.clientData client callbacks }

/-- Let the entry of a client in `gData.destroyClientData` be `d`. -/
def setDestroyClientData (s : LocationAPI C) (client : C) (d : Option LocationAPIDestroyCbData) :
    LocationAPI C :=
  { s with destroyClientData := Function.update s.destroyClientData client d }

/-- Let the entry of a client in an adapter's `mClientData` be `callbacks`. -/
def setEntry (s : LocationAPI C) (k : LocationAdapterType) (client : C)
    (callbacks : Option LocationCallbacks) : LocationAPI C :=
  { s with
    adapter := Function.update s.adapter k
      { s.adapter k with
        mClientData := Function.update (s.adapter k).mClientData client callbacks } }

section Load

-- whether the library of an adapter can be loaded
variable (available : LocationAdapterType → Bool)

/-- Load the interface of an adapter, once. -/
def load (s : LocationAPI C) (k : LocationAdapterType) : LocationAPI C :=
  if s.interface k = .unloaded then
    { s with
      interface := Function.update s.interface k
        (if available k then .loaded else .loadFailed) }
  else s

/-- The part of `createInstance` and `updateCallbacks` for one adapter. -/
def addClient (client : C) (callbacks : LocationCallbacks) (s : LocationAPI C)
    (k : LocationAdapterType) : LocationAPI C :=
  if callbacks.isClientOf k then
    let s := s.load available k
    if s.interface k = .loaded then s.sendMsg k (.addClient client callbacks) else s
  else s

/-- What `createInstance` and `updateCallbacks` do for a client. -/
def setCallbacks (s : LocationAPI C) (client : C) (callbacks : LocationCallbacks) :
    LocationAPI C :=
  let s := [GNSS, BATCHING, GEOFENCE].foldl (addClient available client callbacks) s
  s.setClientData client (some callbacks)

/-- `createInstance`, if the new object is `client`. -/
def createInstance (s : LocationAPI C) (client : C) (callbacks : LocationCallbacks) :
    LocationAPI C :=
  if callbacks.complete then (s.setCallbacks available client callbacks).setLife client .live
  else s

def updateCallbacks (s : LocationAPI C) (client : C) (callbacks : LocationCallbacks) :
    LocationAPI C :=
  if callbacks.complete then s.setCallbacks available client callbacks else s

end Load

/-- Run the callback of `destroy`; the object is deleted after it. -/
def invokeDestroyCb (s : LocationAPI C) (client : C) : LocationAPI C :=
  s.setLife client (s.life client).called

/-- `onRemoveClientCompleteCb` -/
def onRemoveClientCompleteCb (s : LocationAPI C) (client : C) (adapterType : LocationAdapterType) :
    LocationAPI C :=
  match s.destroyClientData client with
  | none => s
  | some d =>
    let waitAdapterMask := d.waitAdapterMask &&& ~~~adapterType.bit
    if waitAdapterMask = 0 then (s.setDestroyClientData client none).invokeDestroyCb client
    else s.setDestroyClientData client (some ⟨waitAdapterMask⟩)

/-- The adapter is asked to remove a client with these callbacks. -/
def removeFrom (s : LocationAPI C) (callbacks : LocationCallbacks) (k : LocationAdapterType) :
    Bool :=
  callbacks.isClientOf k && s.interface k = .loaded

/-- The mask of the adapters to wait for. -/
def waitMask (wait : LocationAdapterType → Bool) : BitVec 16 :=
  (if wait GNSS then bit GNSS else 0) ||| (if wait BATCHING then bit BATCHING else 0) |||
    (if wait GEOFENCE then bit GEOFENCE else 0)

/-- Ask one adapter to remove the client, if it is to be asked. -/
def removeClient (client : C) (wait : LocationAdapterType → Bool) (s : LocationAPI C)
    (k : LocationAdapterType) : LocationAPI C :=
  if wait k then s.sendMsg k (.removeClient client) else s

def destroy (s : LocationAPI C) (client : C) (withCb : Bool) : LocationAPI C :=
  match s.clientData client with
  | none => s
  | some callbacks =>
    let wait := s.removeFrom callbacks
    let needToWait := wait GNSS || wait BATCHING || wait GEOFENCE
    let s := s.setLife client (.destroyed withCb 0)
    let s := if withCb && needToWait then
        s.setDestroyClientData client (some ⟨waitMask wait⟩)
      else s
    let s := [GNSS, BATCHING, GEOFENCE].foldl (removeClient client wait) s
    let s := s.setClientData client none
    if withCb && !needToWait then s.invokeDestroyCb client else s

/-- `MsgAddClient::proc` and `MsgRemoveClient::proc` -/
def proc (s : LocationAPI C) (k : LocationAdapterType) : AdapterMsg C → LocationAPI C
  | .addClient client callbacks => s.setEntry k client (some callbacks)
  | .removeClient client => (s.setEntry k client none).onRemoveClientCompleteCb client k

/-- A new object gets an address where there is none, and a client calls only objects that it has
not destroyed. -/
def step (available : LocationAdapterType → Bool) (s : LocationAPI C) :
    LocationApiEvent C → Option (LocationAPI C)
  | .createInstance client callbacks =>
    if (s.life client).isFree then some (s.createInstance available client callbacks) else none
  | .updateCallbacks client callbacks =>
    if s.life client = .live then some (s.updateCallbacks available client callbacks) else none
  | .destroy client withCb =>
    if s.life client = .live then some (s.destroy client withCb) else none
  | .process k =>
    match (s.adapter k).queue with
    | [] => none
    | m :: queue => some ((s.setQueue k queue).proc k m)

/-- No client and nothing loaded. -/
def initial : LocationAPI C where
  clientData _ := none
  destroyClientData _ := none
  interface _ := .unloaded
  adapter _ := ⟨fun _ => none, []⟩
  life _ := .unused

/-- The clients and the adapters as a transition system. -/
def system (C : Type*) [DecidableEq C] (available : LocationAdapterType → Bool) :
    System (LocationAPI C) (LocationApiEvent C) := .ofPartial initial (step available)

end LocationAPI

end GpsHal
