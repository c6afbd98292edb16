import GpsHal.Location.DataTypes
import GpsHal.Transition.Basic
import GpsHal.Util.OrdMap

/-!
# `GnssAdapter` : tracking sessions

The engine runs one time based session for all clients, so `gnss/GnssAdapter.cpp` multiplexes the
sessions of the clients: the engine gets the least interval and the least power mode of all time
based sessions.  Starting, updating and stopping a session compute the new pair from the sessions
that are saved and from the options of the session; only a restart of the engine computes it from
scratch.

Commands of the clients and responses of the engine are messages; a single thread processes them
in order.  The engine accepts every request, and answers in any order.

## Main definitions

* `TrackingOptions`, `TrackingOptionsMap` : the saved sessions.
* `multiplex`, `lowered`, `restartOptions` : the computations of the pair.
* `GnssTracking` : the state of the adapter, the queue and the engine.
* `GnssTracking.step` : the steps, labelled by `TrackingEvent`.
-/

namespace GpsHal

/-- `GnssPowerMode`, ordered by its numbers. -/
inductive GnssPowerMode where
  | INVALID | M1 | M2 | M3 | M4 | M5
  deriving DecidableEq, Repr

namespace GnssPowerMode

def toNat : GnssPowerMode → ℕ
  | INVALID => 0
  | M1 => 1
  | M2 => 2
  | M3 => 3
  | M4 => 4
  | M5 => 5

theorem toNat_injective : Function.Injective toNat := by
  intro a b h
  cases a <;> cases b <;> first | rfl | cases h

instance : LinearOrder GnssPowerMode := LinearOrder.lift' toNat toNat_injective

end GnssPowerMode

/-- `struct TrackingOptions` -/
structure TrackingOptions where
  size : ℕ
  minInterval : ℕ
  minDistance : ℕ
  mode : GnssSuplMode
  locReqEngTypeMask : ℕ
  powerMode : GnssPowerMode
  tbm : ℕ
  deriving DecidableEq, Repr

namespace TrackingOptions

/-- What `memset` leaves. -/
def zero : TrackingOptions := ⟨0, 0, 0, .STANDALONE, 0, .INVALID, 0⟩

/-- `sizeof(TrackingOptions)` -/
def sizeof : ℕ := 28

def setLocationOptions (o options : TrackingOptions) : TrackingOptions :=
  { o with
    size := sizeof
    minInterval := options.minInterval
    minDistance := options.minDistance
    mode := options.mode
    locReqEngTypeMask := options.locReqEngTypeMask }

def MIN_TRACKING_INTERVAL : ℕ := 100

def TRACKING_TBM_THRESHOLD_MILLIS : ℕ := 480000

/-- The interval is at least `MIN_TRACKING_INTERVAL`. -/
def clampInterval (o : TrackingOptions) : TrackingOptions :=
  if o.minInterval < MIN_TRACKING_INTERVAL then { o with minInterval := MIN_TRACKING_INTERVAL }
  else o

/-- Fall back to M2 power mode. -/
def fallBack (o : TrackingOptions) : TrackingOptions :=
  if o.powerMode = .M4 ∧ TRACKING_TBM_THRESHOLD_MILLIS < o.tbm then { o with powerMode := .M2 }
  else o

end TrackingOptions

abbrev TrackingOptionsMap := OrdMap LocationSessionKey TrackingOptions

/-! ### Multiplexing -/

/-- One turn of the loops that look for the smallest interval and the smallest power mode. -/
def multiplexStep (m : TrackingOptions × GnssPowerMode)
    (it : LocationSessionKey × TrackingOptions) : TrackingOptions × GnssPowerMode :=
  (if m.1.size = 0 ∨ it.2.minInterval < m.1.minInterval then it.2 else m.1,
    if m.2 = .INVALID ∨ it.2.powerMode < m.2 then it.2.powerMode else m.2)

/-- The smallest interval, with the options of the first session that has it, and the smallest power
mode; the session `key`, if given, is left out. -/
def multiplex (sessions : TrackingOptionsMap) (key : Option LocationSessionKey) :
    TrackingOptions × GnssPowerMode :=
  sessions.entries.foldl (fun m it => if some it.1 = key then m else multiplexStep m it)
    (.zero, .INVALID)

/-- The multiplexed options with what is smaller in `options`, and whether anything is. -/
def lowered (m : TrackingOptions × GnssPowerMode) (options : TrackingOptions) :
    TrackingOptions × Bool :=
  let smallerInterval := decide (options.minInterval < m.1.minInterval)
  let smallerPowerMode := decide (options.powerMode < m.2)
  let o := if smallerInterval then { m.1 with minInterval := options.minInterval } else m.1
  let o := if smallerPowerMode then { o with powerMode := options.powerMode } else o
  (o, smallerInterval || smallerPowerMode)

/-- One turn of the loop of `restartSessions`. -/
def restartStep (m : TrackingOptions × TrackingOptions)
    (it : LocationSessionKey × TrackingOptions) : TrackingOptions × TrackingOptions :=
  (if m.1.size = 0 ∨ it.2.minInterval < m.1.minInterval then it.2 else m.1,
    if m.2.size = 0 ∨ it.2.powerMode ≠ .INVALID ∧ it.2.powerMode < m.2.powerMode then it.2
    else m.2)

/-- The options that `restartSessions` computes from scratch. -/
def restartOptions (sessions : TrackingOptionsMap) : TrackingOptions :=
  let m := sessions.entries.foldl restartStep (.zero, .zero)
  m.2.setLocationOptions m.1

/-! ### The adapter -/

/-- The requests to the engine. -/
inductive EngineRequest where
  | startTimeBasedTracking (options : TrackingOptions)
  | stopFix
  | startDistanceBasedTracking (id : ℕ) (options : TrackingOptions)
  | stopDistanceBasedTracking (id : ℕ)
  deriving DecidableEq, Repr

/-- The options of a request for time based tracking. -/
def EngineRequest.timeBased? : EngineRequest → Option TrackingOptions
  | startTimeBasedTracking options => some options
  | _ => none

/-- What is done when the engine has accepted a request. -/
inductive TrackingResponse where
  | report (client id : ℕ)
  | erase (client id : ℕ)
  | eraseAndReport (client id : ℕ)
  /-- A distance based session has been stopped and goes on as a time based one. -/
  | startTimeBased (client id : ℕ) (options : TrackingOptions)
  /-- A distance based session has been stopped and is to be started with new options. -/
  | startDistanceBased (client id : ℕ) (options : TrackingOptions)
  | saveAndReport (client id : ℕ) (options : TrackingOptions)
  deriving DecidableEq, Repr

/-- The messages of the adapter. -/
inductive TrackingMsg where
  | addClient (client : ℕ) (hasCallback : Bool)
  | removeClient (client : ℕ)
  | startTracking (client id : ℕ) (options : TrackingOptions)
  | updateTracking (client id : ℕ) (options : TrackingOptions)
  | stopTracking (client id : ℕ)
  | handleEngineUpEvent
  | response (r : TrackingResponse)
  deriving DecidableEq, Repr

structure GnssTracking where
  mSessionIdCounter : ℕ
  mIsEngineCapabilitiesKnown : Bool
  /-- Whether the engine supports `LOC_API_ADAPTER_MESSAGE_DISTANCE_BASE_TRACKING`, once it has
  said so. -/
  sSupportedMsg : Option Bool
  /-- The clients, and whether one of their tracking and measurement callbacks is set. -/
  mClientData : ℕ → Option Bool
  mTimeBasedTrackingSessions : TrackingOptionsMap
  mDistanceBasedTrackingSessions : TrackingOptionsMap
  mPendingMsgs : List TrackingMsg
  queue : List TrackingMsg
  /-- The requests that the engine has not answered. -/
  outstanding : List TrackingResponse
  /-- The requests to the engine, the last one first. -/
  requests : List EngineRequest
  /-- The calls of `reportResponse`, the last one first. -/
  reports : List (ℕ × LocationError × ℕ)

inductive TrackingEvent where
  | addClientCommand (client : ℕ) (hasCallback : Bool)
  | removeClientCommand (client : ℕ)
  | startTrackingCommand (client : ℕ) (options : TrackingOptions)
  | updateTrackingOptionsCommand (client id : ℕ) (options : TrackingOptions)
  | stopTrackingCommand (client id : ℕ)
  | handleEngineUpEvent
  /-- Another adapter takes a session id. -/
  | generateSessionId
  | setEngineCapabilities (distanceBased : Bool)
  /-- The engine answers one of the outstanding requests. -/
  | returnToSender (r : TrackingResponse)
  /-- The thread of the adapter processes the next message. -/
  | process
  deriving DecidableEq, Repr

namespace GnssTracking

/-- The options last sent to the engine. -/
def lastSent (s : GnssTracking) : Option TrackingOptions :=
  s.requests.findSome? EngineRequest.timeBased?

/-- `ContextBase::isMessageSupported(LOC_API_ADAPTER_MESSAGE_DISTANCE_BASE_TRACKING)` -/
def isMessageSupported (s : GnssTracking) : Bool := s.sSupportedMsg == some true

def hasCallback (s : GnssTracking) (client : ℕ) : Bool := s.mClientData client == some true

def isTimeBasedTrackingSession (s : GnssTracking) (client sessionId : ℕ) : Bool :=
  (s.mTimeBasedTrackingSessions.find ⟨client, sessionId⟩).isSome

def isDistanceBasedTrackingSession (s : GnssTracking) (client sessionId : ℕ) : Bool :=
  (s.mDistanceBasedTrackingSessions.find ⟨client, sessionId⟩).isSome

def sendMsg (s : GnssTracking) (msg : TrackingMsg) : GnssTracking :=
  { s with queue := s.queue ++ [msg] }

/-- A request to the engine and what is to be done when it is answered. -/
def request (s : GnssTracking) (q : EngineRequest) (r : List TrackingResponse) : GnssTracking :=
  { s with requests := q :: s.requests, outstanding := s.outstanding ++ r }

def reportResponse (s : GnssTracking) (client : ℕ) (err : LocationError) (sessionId : ℕ) :
    GnssTracking :=
  { s with reports := (client, err, sessionId) :: s.reports }

/-- Report success to the client right away. -/
def reportWithNoWait (p : GnssTracking × Bool) (client sessionId : ℕ) : GnssTracking :=
  if p.2 then p.1.reportResponse client .SUCCESS sessionId else p.1

def saveTrackingSession (s : GnssTracking) (client sessionId : ℕ) (options : TrackingOptions) :
    GnssTracking :=
  if 0 < options.minDistance ∧ s.isMessageSupported = true then
    { s with
      mDistanceBasedTrackingSessions :=
        s.mDistanceBasedTrackingSessions.insert ⟨client, sessionId⟩ options }
  else
    { s with
      mTimeBasedTrackingSessions :=
        s.mTimeBasedTrackingSessions.insert ⟨client, sessionId⟩ options }

def eraseTrackingSession (s : GnssTracking) (client sessionId : ℕ) : GnssTracking :=
  if s.isTimeBasedTrackingSession client sessionId = true then
    { s with
      mTimeBasedTrackingSessions := s.mTimeBasedTrackingSessions.erase ⟨client, sessionId⟩ }
  else
    { s with
      mDistanceBasedTrackingSessions :=
        s.mDistanceBasedTrackingSessions.erase ⟨client, sessionId⟩ }

/-- `startTimeBasedTracking`, and `updateTracking` as well: they differ in what they do when the
request fails. -/
def startTimeBasedTracking (s : GnssTracking) (client sessionId : ℕ)
    (trackingOptions : TrackingOptions) : GnssTracking :=
  s.request (.startTimeBasedTracking trackingOptions) [.report client sessionId]

/-- The second component is `reportToClientWithNoWait`. -/
def startTimeBasedTrackingMultiplex (s : GnssTracking) (client sessionId : ℕ)
    (options : TrackingOptions) : GnssTracking × Bool :=
  if s.mTimeBasedTrackingSessions.isEmpty = true then
    (s.startTimeBasedTracking client sessionId options, false)
  else
    let p := lowered (multiplex s.mTimeBasedTrackingSessions none) options
    if p.2 = true then (s.startTimeBasedTracking client sessionId p.1, false) else (s, true)

def updateTrackingMultiplex (s : GnssTracking) (client id : ℕ)
    (trackingOptions : TrackingOptions) : GnssTracking × Bool :=
  match s.mTimeBasedTrackingSessions.find ⟨client, id⟩ with
  | none => (s, true)
  | some old =>
    if old.minInterval ≠ trackingOptions.minInterval ∨
        old.powerMode ≠ trackingOptions.powerMode then
      let p := lowered (multiplex s.mTimeBasedTrackingSessions (some ⟨client, id⟩)) trackingOptions
      -- if only one session exists, then tracking should be updated with it
      let p := if s.mTimeBasedTrackingSessions.size = 1 then (trackingOptions, true) else p
      if p.2 = true then (s.startTimeBasedTracking client id p.1, false) else (s, true)
    else (s, true)

def stopTracking (s : GnssTracking) (client id : ℕ) : GnssTracking :=
  s.request .stopFix [.report client id]

def stopTimeBasedTrackingMultiplex (s : GnssTracking) (client id : ℕ) : GnssTracking × Bool :=
  if s.mTimeBasedTrackingSessions.size = 1 then (s.stopTracking client id, false)
  else
    match s.mTimeBasedTrackingSessions.find ⟨client, id⟩ with
    | none => (s, true)
    | some old =>
      let m := multiplex s.mTimeBasedTrackingSessions (some ⟨client, id⟩)
      if old.minInterval < m.1.minInterval ∨ old.powerMode < m.2 then
        (s.startTimeBasedTracking client id { m.1 with powerMode := m.2 }, false)
      else (s, true)

/-- `stopClientSessions` : no time based session is erased here, and a distance based one only when
the engine has stopped it. -/
def stopClientSessions (s : GnssTracking) (client : ℕ) : GnssTracking :=
  let keys := (s.mTimeBasedTrackingSessions.entries.map Prod.fst).filter fun key =>
    client = key.client
  let s := keys.foldl (fun s key => (s.stopTimeBasedTrackingMultiplex key.client key.id).1) s
  let distanceBased := (s.mDistanceBasedTrackingSessions.entries.map Prod.fst).filter fun key =>
    client = key.client
  distanceBased.foldl
    (fun s key => s.request (.stopDistanceBasedTracking key.id) [.erase client key.id]) s

def restartSessions (s : GnssTracking) : GnssTracking :=
  let s := if s.mTimeBasedTrackingSessions.isEmpty = true then s
    else s.request (.startTimeBasedTracking (restartOptions s.mTimeBasedTrackingSessions)) []
  s.mDistanceBasedTrackingSessions.entries.foldl
    (fun s it => s.request (.startDistanceBasedTracking it.1.id it.2) []) s

/-! #### The messages -/

/-- `MsgStartTracking::proc` -/
def procStartTracking (s : GnssTracking) (client id : ℕ) (options : TrackingOptions) :
    GnssTracking :=
  -- distance based tracking will need to know engine capabilities before it can start
  if s.mIsEngineCapabilitiesKnown = false ∧ 0 < options.minDistance then
    { s with mPendingMsgs := s.mPendingMsgs ++ [.startTracking client id options] }
  else if s.hasCallback client = false ∨ options.size = 0 then s
  else
    let options := options.clampInterval
    if 0 < options.minDistance ∧ s.isMessageSupported = true then
      (s.saveTrackingSession client id options).request (.startDistanceBasedTracking id options)
        [.report client id]
    else
      let options := options.fallBack
      let p := s.startTimeBasedTrackingMultiplex client id options
      reportWithNoWait (p.1.saveTrackingSession client id options, p.2) client id

/-- `MsgUpdateTracking::proc` for a session that is saved, with options that have been adjusted. -/
def updateSession (s : GnssTracking) (client id : ℕ) (options : TrackingOptions) : GnssTracking :=
  let isTimeBased := s.isTimeBasedTrackingSession client id
  let isDistanceBased := s.isDistanceBasedTrackingSession client id
  if isTimeBased = true ∧ 0 < options.minDistance then
    -- switch from time based to distance based
    let p := s.stopTimeBasedTrackingMultiplex client id
    let s := reportWithNoWait (p.1.eraseTrackingSession client id, p.2) client id
    (s.saveTrackingSession client id options).request (.startDistanceBasedTracking id options) []
  else if isDistanceBased = true ∧ options.minDistance = 0 then
    -- switch from distance based to time based
    (s.eraseTrackingSession client id).request (.stopDistanceBasedTracking id)
      [.startTimeBased client id options]
  else if isTimeBased = true then
    let p := s.updateTrackingMultiplex client id options
    reportWithNoWait (p.1.saveTrackingSession client id options, p.2) client id
  else
    -- restart distance based tracking
    s.request (.stopDistanceBasedTracking id) [.startDistanceBased client id options]

/-- `MsgUpdateTracking::proc` -/
def procUpdateTracking (s : GnssTracking) (client id : ℕ) (options : TrackingOptions) :
    GnssTracking :=
  if s.mIsEngineCapabilitiesKnown = false ∧ 0 < options.minDistance then
    { s with mPendingMsgs := s.mPendingMsgs ++ [.updateTracking client id options] }
  else if s.isTimeBasedTrackingSession client id = false ∧
      s.isDistanceBasedTrackingSession client id = false then
    s.reportResponse client .ID_UNKNOWN id
  else if options.size = 0 then s.reportResponse client .INVALID_PARAMETER id
  else s.updateSession client id options.fallBack.clampInterval

/-- `MsgStopTracking::proc` -/
def procStopTracking (s : GnssTracking) (client id : ℕ) : GnssTracking :=
  if s.isTimeBasedTrackingSession client id = true then
    let p := s.stopTimeBasedTrackingMultiplex client id
    reportWithNoWait (p.1.eraseTrackingSession client id, p.2) client id
  else if s.isDistanceBasedTrackingSession client id = true then
    s.request (.stopDistanceBasedTracking id) [.eraseAndReport client id]
  else s.reportResponse client .ID_UNKNOWN id

/-- `MsgHandleEngineUpEvent::proc` -/
def procEngineUp (s : GnssTracking) : GnssTracking :=
  let s := { s with mIsEngineCapabilitiesKnown := true }.restartSessions
  { s with queue := s.queue ++ s.mPendingMsgs, mPendingMsgs := [] }

/-- The engine has accepted a request. -/
def procResponse (s : GnssTracking) : TrackingResponse → GnssTracking
  | .report client id => s.reportResponse client .SUCCESS id
  | .erase client id => s.eraseTrackingSession client id
  | .eraseAndReport client id =>
    (s.eraseTrackingSession client id).reportResponse client .SUCCESS id
  | .startTimeBased client id options =>
    let p := s.startTimeBasedTrackingMultiplex client id options
    reportWithNoWait (p.1.saveTrackingSession client id options, p.2) client id
  | .startDistanceBased client id options =>
    s.request (.startDistanceBasedTracking id options) [.saveAndReport client id options]
  | .saveAndReport client id options =>
    (s.saveTrackingSession client id options).reportResponse client .SUCCESS id

def proc (s : GnssTracking) : TrackingMsg → GnssTracking
  | .addClient client hasCallback =>
    { s with mClientData := fun k => if k = client then some hasCallback else s.mClientData k }
  | .removeClient client =>
    let s := s.stopClientSessions client
    { s with mClientData := fun k => if k = client then none else s.mClientData k }
  | .startTracking client id options => s.procStartTracking client id options
  | .updateTracking client id options => s.procUpdateTracking client id options
  | .stopTracking client id => s.procStopTracking client id
  | .handleEngineUpEvent => s.procEngineUp
  | .response r => s.procResponse r

/-! #### Steps -/

/-- `generateSessionId` -/
def generateSessionId (s : GnssTracking) : ℕ :=
  if s.mSessionIdCounter + 1 = 0xFFFFFFFF then 1 else s.mSessionIdCounter + 1

def step (s : GnssTracking) : TrackingEvent → Option GnssTracking
  | .addClientCommand client hasCallback => some (s.sendMsg (.addClient client hasCallback))
  | .removeClientCommand client => some (s.sendMsg (.removeClient client))
  | .startTrackingCommand client options =>
    some ({ s with mSessionIdCounter := s.generateSessionId }.sendMsg
      (.startTracking client s.generateSessionId options))
  | .updateTrackingOptionsCommand client id options =>
    some (s.sendMsg (.updateTracking client id options))
  | .stopTrackingCommand client id => some (s.sendMsg (.stopTracking client id))
  | .handleEngineUpEvent => some (s.sendMsg .handleEngineUpEvent)
  | .generateSessionId => some { s with mSessionIdCounter := s.generateSessionId }
  | .setEngineCapabilities distanceBased =>
    -- the engine is asked once only
    some { s with sSupportedMsg := s.sSupportedMsg.or (some distanceBased) }
  | .returnToSender r =>
    if r ∈ s.outstanding then
      some ({ s with outstanding := s.outstanding.erase r }.sendMsg (.response r))
    else none
  | .process =>
    match s.queue with
    | [] => none
    | msg :: queue => some ({ s with queue := queue }.proc msg)

/-- Nothing has been started. -/
def initial : GnssTracking where
  mSessionIdCounter := 1
  mIsEngineCapabilitiesKnown := false
  sSupportedMsg := none
  mClientData := fun _ => none
  mTimeBasedTrackingSessions := ∅
  mDistanceBasedTrackingSessions := ∅
  mPendingMsgs := []
  queue := []
  outstanding := []
  requests := []
  reports := []

/-- The tracking sessions, from the start of the adapter. -/
def system : System GnssTracking TrackingEvent := .ofPartial initial step

end GnssTracking

end GpsHal
