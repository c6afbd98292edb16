import GpsHal.Gnss.Tracking

/-!
# `GnssAdapter` : tracking commands and the answers of the engine

The tracking sessions of `gnss/GnssAdapter.cpp` with an engine that may refuse any request.  Each
request carries a callback, which the adapter's thread runs with the engine's answer; a callback
knows the client and the session only.

What the callbacks do not know is kept beside them: which command made a request, what has been
reported for which command, and how the engine has answered.  Sessions are *live* from the report
that their start succeeded to the report that their stop succeeded, or to the removal of their
client.

## Main definitions

* `TrackingCommand`, `TrackingCallback`, `EngineCall` : commands, callbacks, requests with callbacks.
* `TrackingAdapter` : the state of the adapter, its queue, the engine, and what has happened.
* `TrackingAdapter.runCallback` : the callbacks.
* `TrackingAdapter.step` : the steps, labelled by `TrackingAdapter.Event`.
-/

namespace GpsHal

inductive TrackingCommandKind where
  | start | update | stop
  deriving DecidableEq, Repr

/-- A command of a client, with its number. -/
structure TrackingCommand where
  num : ℕ
  kind : TrackingCommandKind
  client : ℕ
  id : ℕ
  deriving DecidableEq, Repr

def TrackingCommand.key (cmd : TrackingCommand) : LocationSessionKey := ⟨cmd.client, cmd.id⟩

/-- What is done with the engine's answer to a request. -/
inductive TrackingCallback where
  /-- Nobody waits for the answer. -/
  | none
  /-- `startTimeBasedTracking` : erase the session on failure, and report. -/
  | startTimeBased (client id : ℕ)
  /-- `updateTracking` : restore the old options on failure, and report. -/
  | update (client id : ℕ) (oldOptions : TrackingOptions)
  /-- `stopTracking` : report. -/
  | stop (client id : ℕ)
  /-- A distance based session is started : erase it on failure, and report. -/
  | startDistanceBased (client id : ℕ)
  /-- The answer is ignored. -/
  | ignore
  /-- A distance based session goes on as a time based one, whatever the answer is. -/
  | switchToTimeBased (client id : ℕ) (options : TrackingOptions)
  /-- A distance based session is stopped : erase it on success, and report. -/
  | stopDistanceBased (client id : ℕ)
  /-- A distance based session is stopped : start it with new options on success. -/
  | restartDistanceBased (client id : ℕ) (options : TrackingOptions)
  /-- It is started again : save the options on success, and report. -/
  | saveDistanceBased (client id : ℕ) (options : TrackingOptions)
  /-- The client has been removed : erase the session on success. -/
  | removeDistanceBased (client id : ℕ)
  deriving DecidableEq, Repr

/-- A request to the engine, with the command that made it, if any. -/
structure EngineCall where
  serial : ℕ
  cmd : Option TrackingCommand
  request : EngineRequest
  callback : TrackingCallback
  deriving DecidableEq, Repr

/-- A request starts or stops time based tracking. -/
def EngineRequest.start? : EngineRequest → Option Bool
  | startTimeBasedTracking _ => some true
  | stopFix => some false
  | startDistanceBasedTracking _ _ | stopDistanceBasedTracking _ => none

/-- A request for time based tracking, and the engine's answer. -/
structure TimeBasedRequest where
  serial : ℕ
  start : Bool
  result : Option LocationError
  deriving DecidableEq, Repr

/-- A call of `reportResponse`, with the command that it answers. -/
structure TrackingReport where
  cmd : Option TrackingCommand
  client : ℕ
  err : LocationError
  id : ℕ
  deriving DecidableEq, Repr

namespace TrackingAdapter

/-- The messages of the adapter. -/
inductive Msg where
  | addClient (client : ℕ) (hasCallback : Bool)
  | removeClient (client : ℕ)
  | start (cmd : TrackingCommand) (options : TrackingOptions)
  | update (cmd : TrackingCommand) (options : TrackingOptions)
  | stop (cmd : TrackingCommand)
  | handleEngineUpEvent
  | answer (call : EngineCall) (err : LocationError)
  deriving DecidableEq, Repr

inductive Event where
  | addClientCommand (client : ℕ) (hasCallback : Bool)
  | removeClientCommand (client : ℕ)
  | startTrackingCommand (client : ℕ) (options : TrackingOptions)
  | updateTrackingOptionsCommand (client id : ℕ) (options : TrackingOptions)
  | stopTrackingCommand (client id : ℕ)
  | handleEngineUpEvent
  /-- Another adapter takes a session id. -/
  | generateSessionId
  | setEngineCapabilities (distanceBased : Bool)
  /-- The engine answers one of the outstanding requests. -/
  | answer (call : EngineCall) (err : LocationError)
  /-- The thread of the adapter processes the next message. -/
  | process
  deriving DecidableEq, Repr

end TrackingAdapter

structure TrackingAdapter where
  mSessionIdCounter : ℕ
  mIsEngineCapabilitiesKnown : Bool
  /-- Whether the engine supports `LOC_API_ADAPTER_MESSAGE_DISTANCE_BASE_TRACKING`, once it has
  said so. -/
  sSupportedMsg : Option Bool
  /-- The clients, and whether one of their tracking and measurement callbacks is set. -/
  mClientData : ℕ → Option Bool
  mTimeBasedTrackingSessions : TrackingOptionsMap
  mDistanceBasedTrackingSessions : TrackingOptionsMap
  mPendingMsgs : List TrackingAdapter.Msg
  queue : List TrackingAdapter.Msg
  /-- The requests that the engine has not answered. -/
  outstanding : List EngineCall
  /-- The number of requests so far. -/
  calls : ℕ
  /-- The requests for time based tracking, in order. -/
  timeBased : List TimeBasedRequest
  /-- The commands so far. -/
  issued : List TrackingCommand
  reports : List TrackingReport
  /-- The answers that have been processed. -/
  answers : List (EngineCall × LocationError)
  /-- The sessions that have been started and neither been stopped nor lost their client. -/
  live : List LocationSessionKey

namespace TrackingAdapter

/-- `ContextBase::isMessageSupported(LOC_API_ADAPTER_MESSAGE_DISTANCE_BASE_TRACKING)` -/
def isMessageSupported (s : TrackingAdapter) : Bool := s.sSupportedMsg == some true

def hasCallback (s : TrackingAdapter) (client : ℕ) : Bool := s.mClientData client == some true

def isTimeBasedTrackingSession (s : TrackingAdapter) (client sessionId : ℕ) : Bool :=
  (s.mTimeBasedTrackingSessions.find ⟨client, sessionId⟩).isSome

def isDistanceBasedTrackingSession (s : TrackingAdapter) (client sessionId : ℕ) : Bool :=
  (s.mDistanceBasedTrackingSessions.find ⟨client, sessionId⟩).isSome

def sendMsg (s : TrackingAdapter) (msg : Msg) : TrackingAdapter :=
  { s with
    queue := s.queue ++ [msg] }

/-- A request to the engine with its callback. -/
def call (s : TrackingAdapter) (cmd : Option TrackingCommand) (request : EngineRequest)
    (callback : TrackingCallback) : TrackingAdapter :=
  { s with
    calls := s.calls + 1
    outstanding := s.outstanding ++ [⟨s.calls, cmd, request, callback⟩]
    timeBased :=
      match request.start? with
      | some start => s.timeBased ++ [⟨s.calls, start, none⟩]
      | none => s.timeBased }

/-- The sessions that are live after a report. -/
def liveAfter (live : List LocationSessionKey) (cmd : Option TrackingCommand) (err : LocationError) :
    List LocationSessionKey :=
  match cmd with
  | none => live
  | some cmd =>
    if err ≠ .SUCCESS then live
    else
      match cmd.kind with
      | .start => cmd.key :: live
      | .update => live
      | .stop => live.filter (· ≠ cmd.key)

def reportResponse (s : TrackingAdapter) (cmd : Option TrackingCommand) (client : ℕ)
    (err : LocationError) (sessionId : ℕ) : TrackingAdapter :=
  { s with
    reports := s.reports ++ [⟨cmd, client, err, sessionId⟩]
    live := liveAfter s.live cmd err }

/-- Report success to the client right away. -/
def reportWithNoWait (p : TrackingAdapter × Bool) (cmd : Option TrackingCommand)
    (client sessionId : ℕ) : TrackingAdapter :=
  if p.2 then p.1.reportResponse cmd client .SUCCESS sessionId else p.1

def saveTrackingSession (s : TrackingAdapter) (client sessionId : ℕ) (options : TrackingOptions) :
    TrackingAdapter :=
  if 0 < options.minDistance ∧ s.isMessageSupported = true then
    { s with
      mDistanceBasedTrackingSessions :=
        s.mDistanceBasedTrackingSessions.insert ⟨client, sessionId⟩ options }
  else
    { s with
      mTimeBasedTrackingSessions :=
        s.mTimeBasedTrackingSessions.insert ⟨client, sessionId⟩ options }

def eraseTrackingSession (s : TrackingAdapter) (client sessionId : ℕ) : TrackingAdapter :=
  if s.isTimeBasedTrackingSession client sessionId = true then
    { s with
      mTimeBasedTrackingSessions := s.mTimeBasedTrackingSessions.erase ⟨client, sessionId⟩ }
  else
    { s with
      mDistanceBasedTrackingSessions :=
        s.mDistanceBasedTrackingSessions.erase ⟨client, sessionId⟩ }

def startTimeBasedTracking (s : TrackingAdapter) (cmd : Option TrackingCommand)
    (client sessionId : ℕ) (trackingOptions : TrackingOptions) : TrackingAdapter :=
  s.call cmd (.startTimeBasedTracking trackingOptions) (.startTimeBased client sessionId)

def updateTracking (s : TrackingAdapter) (cmd : Option TrackingCommand) (client sessionId : ℕ)
    (updatedOptions oldOptions : TrackingOptions) : TrackingAdapter :=
  s.call cmd (.startTimeBasedTracking updatedOptions) (.update client sessionId oldOptions)

def stopTracking (s : TrackingAdapter) (cmd : Option TrackingCommand) (client id : ℕ) :
    TrackingAdapter :=
  s.call cmd .stopFix (.stop client id)

/-- The second component is `reportToClientWithNoWait`. -/
def startTimeBasedTrackingMultiplex (s : TrackingAdapter) (cmd : Option TrackingCommand)
    (client sessionId : ℕ) (options : TrackingOptions) : TrackingAdapter × Bool :=
  if s.mTimeBasedTrackingSessions.isEmpty = true then
    (s.startTimeBasedTracking cmd client sessionId options, false)
  else
    let p := lowered (multiplex s.mTimeBasedTrackingSessions none) options
    if p.2 = true then (s.startTimeBasedTracking cmd client sessionId p.1, false) else (s, true)

def updateTrackingMultiplex (s : TrackingAdapter) (cmd : Option TrackingCommand)
    (client id : ℕ) (trackingOptions : TrackingOptions) : TrackingAdapter × Bool :=
  match s.mTimeBasedTrackingSessions.find ⟨client, id⟩ with
  | none => (s, true)
  | some old =>
    if old.minInterval ≠ trackingOptions.minInterval ∨
        old.powerMode ≠ trackingOptions.powerMode then
      let p := lowered (multiplex s.mTimeBasedTrackingSessions (some ⟨client, id⟩)) trackingOptions
      -- if only one session exists, then tracking should be updated with it
      let p := if s.mTimeBasedTrackingSessions.size = 1 then (trackingOptions, true) else p
      if p.2 = true then (s.updateTracking cmd client id p.1 old, false) else (s, true)
    else (s, true)

def stopTimeBasedTrackingMultiplex (s : TrackingAdapter) (cmd : Option TrackingCommand)
    (client id : ℕ) : TrackingAdapter × Bool :=
  if s.mTimeBasedTrackingSessions.size = 1 then (s.stopTracking cmd client id, false)
  else
    match s.mTimeBasedTrackingSessions.find ⟨client, id⟩ with
    | none => (s, true)
    | some old =>
      let m := multiplex s.mTimeBasedTrackingSessions (some ⟨client, id⟩)
      if old.minInterval < m.1.minInterval ∨ old.powerMode < m.2 then
        (s.startTimeBasedTracking cmd client id { m.1 with powerMode := m.2 }, false)
      else (s, true)

/-- `stopClientSessions` : no time based session is erased here. -/
def stopClientSessions (s : TrackingAdapter) (client : ℕ) : TrackingAdapter :=
  let keys := (s.mTimeBasedTrackingSessions.entries.map Prod.fst).filter fun key =>
    client = key.client
  let s := keys.foldl (fun s key => (s.stopTimeBasedTrackingMultiplex none key.client key.id).1) s
  let distanceBased := (s.mDistanceBasedTrackingSessions.entries.map Prod.fst).filter fun key =>
    client = key.client
  distanceBased.foldl (fun s key =>
    s.call none (.stopDistanceBasedTracking key.id) (.removeDistanceBased client key.id)) s

def restartSessions (s : TrackingAdapter) : TrackingAdapter :=
  let s := if s.mTimeBasedTrackingSessions.isEmpty = true then s
    else s.call none (.startTimeBasedTracking (restartOptions s.mTimeBasedTrackingSessions)) .none
  s.mDistanceBasedTrackingSessions.entries.foldl
    (fun s it => s.call none (.startDistanceBasedTracking it.1.id it.2) .ignore) s

/-! ### The messages -/

/-- `MsgStartTracking::proc` with the capabilities known or not needed, and checked options. -/
def startSession (s : TrackingAdapter) (cmd : TrackingCommand) (options : TrackingOptions) :
    TrackingAdapter :=
  let options := options.clampInterval
  if 0 < options.minDistance ∧ s.isMessageSupported = true then
    (s.saveTrackingSession cmd.client cmd.id options).call (some cmd)
      (.startDistanceBasedTracking cmd.id options) (.startDistanceBased cmd.client cmd.id)
  else
    let options := options.fallBack
    let p := s.startTimeBasedTrackingMultiplex (some cmd) cmd.client cmd.id options
    reportWithNoWait (p.1.saveTrackingSession cmd.client cmd.id options, p.2) (some cmd) cmd.client
      cmd.id

/-- The message waits until the engine's capabilities are known. -/
def pend (s : TrackingAdapter) (msg : Msg) : TrackingAdapter :=
  { s with
    mPendingMsgs := s.mPendingMsgs ++ [msg] }

/-- `MsgStartTracking::proc` : without a callback, or with empty options, nothing is reported. -/
def procStartTracking (s : TrackingAdapter) (cmd : TrackingCommand) (options : TrackingOptions) :
    TrackingAdapter :=
  -- distance based tracking will need to know engine capabilities before it can start
  if s.mIsEngineCapabilitiesKnown = false ∧ 0 < options.minDistance then s.pend (.start cmd options)
  else if s.hasCallback cmd.client = false ∨ options.size = 0 then s
  else s.startSession cmd options

/-- `MsgUpdateTracking::proc` for a session that is saved, with options that have been adjusted. -/
def updateSession (s : TrackingAdapter) (cmd : TrackingCommand) (options : TrackingOptions) :
    TrackingAdapter :=
  let isTimeBased := s.isTimeBasedTrackingSession cmd.client cmd.id
  let isDistanceBased := s.isDistanceBasedTrackingSession cmd.client cmd.id
  if isTimeBased = true ∧ 0 < options.minDistance then
    -- switch from time based to distance based
    let p := s.stopTimeBasedTrackingMultiplex (some cmd) cmd.client cmd.id
    let s := reportWithNoWait (p.1.eraseTrackingSession cmd.client cmd.id, p.2) (some cmd)
      cmd.client cmd.id
    (s.saveTrackingSession cmd.client cmd.id options).call (some cmd)
      (.startDistanceBasedTracking cmd.id options) .ignore
  else if isDistanceBased = true ∧ options.minDistance = 0 then
    -- switch from distance based to time based
    (s.eraseTrackingSession cmd.client cmd.id).call (some cmd) (.stopDistanceBasedTracking cmd.id)
      (.switchToTimeBased cmd.client cmd.id options)
  else if isTimeBased = true then
    let p := s.updateTrackingMultiplex (some cmd) cmd.client cmd.id options
    reportWithNoWait (p.1.saveTrackingSession cmd.client cmd.id options, p.2) (some cmd) cmd.client
      cmd.id
  else
    -- restart distance based tracking
    s.call (some cmd) (.stopDistanceBasedTracking cmd.id)
      (.restartDistanceBased cmd.client cmd.id options)

/-- `MsgUpdateTracking::proc` -/
def procUpdateTracking (s : TrackingAdapter) (cmd : TrackingCommand) (options : TrackingOptions) :
    TrackingAdapter :=
  if s.mIsEngineCapabilitiesKnown = false ∧ 0 < options.minDistance then s.pend (.update cmd options)
  else if s.isTimeBasedTrackingSession cmd.client cmd.id = false ∧
      s.isDistanceBasedTrackingSession cmd.client cmd.id = false then
    s.reportResponse (some cmd) cmd.client .ID_UNKNOWN cmd.id
  else if options.size = 0 then
    s.reportResponse (some cmd) cmd.client .INVALID_PARAMETER cmd.id
  else s.updateSession cmd options.fallBack.clampInterval

/-- `MsgStopTracking::proc` -/
def procStopTracking (s : TrackingAdapter) (cmd : TrackingCommand) : TrackingAdapter :=
  if s.isTimeBasedTrackingSession cmd.client cmd.id = true then
    let p := s.stopTimeBasedTrackingMultiplex (some cmd) cmd.client cmd.id
    reportWithNoWait (p.1.eraseTrackingSession cmd.client cmd.id, p.2) (some cmd) cmd.client cmd.id
  else if s.isDistanceBasedTrackingSession cmd.client cmd.id = true then
    s.call (some cmd) (.stopDistanceBasedTracking cmd.id) (.stopDistanceBased cmd.client cmd.id)
  else s.reportResponse (some cmd) cmd.client .ID_UNKNOWN cmd.id

/-- `MsgHandleEngineUpEvent::proc` -/
def procEngineUp (s : TrackingAdapter) : TrackingAdapter :=
  let s := restartSessions { s with
    mIsEngineCapabilitiesKnown := true }
  { s with
    queue := s.queue ++ s.mPendingMsgs
    mPendingMsgs := [] }

/-- The client is removed, and with it its sessions. -/
def eraseClient (s : TrackingAdapter) (client : ℕ) : TrackingAdapter :=
  { s with
    mClientData := fun k => if k = client then none else s.mClientData k
    live := s.live.filter fun key => key.client ≠ client }

/-! ### Answers -/

/-- The callback of a request, run with the engine's answer. -/
def runCallback (s : TrackingAdapter) (cmd : Option TrackingCommand) (err : LocationError) :
    TrackingCallback → TrackingAdapter
  | .none | .ignore => s
  | .startTimeBased client id | .startDistanceBased client id =>
    let s := if err ≠ .SUCCESS then s.eraseTrackingSession client id else s
    s.reportResponse cmd client err id
  | .update client id oldOptions =>
    -- restore the old options
    let s := if err ≠ .SUCCESS then s.saveTrackingSession client id oldOptions else s
    s.reportResponse cmd client err id
  | .stop client id => s.reportResponse cmd client err id
  | .switchToTimeBased client id options =>
    let p := s.startTimeBasedTrackingMultiplex cmd client id options
    reportWithNoWait (p.1.saveTrackingSession client id options, p.2) cmd client id
  | .stopDistanceBased client id =>
    let s := if err = .SUCCESS then s.eraseTrackingSession client id else s
    s.reportResponse cmd client err id
  | .restartDistanceBased client id options =>
    if err = .SUCCESS then
      s.call cmd (.startDistanceBasedTracking id options) (.saveDistanceBased client id options)
    else s
  | .saveDistanceBased client id options =>
    let s := if err = .SUCCESS then s.saveTrackingSession client id options else s
    s.reportResponse cmd client err id
  | .removeDistanceBased client id =>
    if err = .SUCCESS then s.eraseTrackingSession client id else s

/-- The answer is noted. -/
def note (s : TrackingAdapter) (call : EngineCall) (err : LocationError) : TrackingAdapter :=
  { s with
    answers := s.answers ++ [(call, err)]
    timeBased := s.timeBased.map fun r =>
      if r.serial = call.serial then ⟨r.serial, r.start, some err⟩ else r }

def proc (s : TrackingAdapter) : Msg → TrackingAdapter
  | .addClient client hasCallback =>
    { s with
      mClientData := fun k => if k = client then some hasCallback else s.mClientData k }
  | .removeClient client => (s.stopClientSessions client).eraseClient client
  | .start cmd options => s.procStartTracking cmd options
  | .update cmd options => s.procUpdateTracking cmd options
  | .stop cmd => s.procStopTracking cmd
  | .handleEngineUpEvent => s.procEngineUp
  | .answer call err => (s.note call err).runCallback call.cmd err call.callback

/-! ### Steps -/

/-- `generateSessionId` -/
def generateSessionId (s : TrackingAdapter) : ℕ :=
  if s.mSessionIdCounter + 1 = 0xFFFFFFFF then 1 else s.mSessionIdCounter + 1

/-- A client gives a command, and its message is sent. -/
def issue (s : TrackingAdapter) (kind : TrackingCommandKind) (client id : ℕ)
    (msg : TrackingCommand → Msg) : TrackingAdapter :=
  let cmd : TrackingCommand := ⟨s.issued.length, kind, client, id⟩
  { s with
    issued := s.issued ++ [cmd]
    queue := s.queue ++ [msg cmd] }

def step (s : TrackingAdapter) : Event → Option TrackingAdapter
  | .addClientCommand client hasCallback => some (s.sendMsg (.addClient client hasCallback))
  | .removeClientCommand client => some (s.sendMsg (.removeClient client))
  | .startTrackingCommand client options =>
    let s' : TrackingAdapter := { s with
      mSessionIdCounter := s.generateSessionId }
    some (s'.issue .start client s.generateSessionId (.start · options))
  | .updateTrackingOptionsCommand client id options =>
    some (s.issue .update client id (.update · options))
  | .stopTrackingCommand client id => some (s.issue .stop client id .stop)
  | .handleEngineUpEvent => some (s.sendMsg .handleEngineUpEvent)
  | .generateSessionId =>
    some { s with
      mSessionIdCounter := s.generateSessionId }
  | .setEngineCapabilities distanceBased =>
    -- the engine is asked once only
    some { s with
      sSupportedMsg := s.sSupportedMsg.or (some distanceBased) }
  | .answer call err =>
    if call ∈ s.outstanding then
      let s' : TrackingAdapter := { s with
        outstanding := s.outstanding.erase call }
      some (s'.sendMsg (.answer call err))
    else none
  | .process =>
    match s.queue with
    | [] => none
    | msg :: queue =>
      let s' : TrackingAdapter := { s with
        queue := queue }
      some (s'.proc msg)

/-- Nothing has been started. -/
def initial : TrackingAdapter where
  mSessionIdCounter := 1
  mIsEngineCapabilitiesKnown := false
  sSupportedMsg := none
  mClientData := fun _ => none
  mTimeBasedTrackingSessions := ∅
  mDistanceBasedTrackingSessions := ∅
  mPendingMsgs := []
  queue := []
  outstanding := []
  calls := 0
  timeBased := []
  issued := []
  reports := []
  answers := []
  live := []

/-- The tracking sessions, from the start of the adapter. -/
def system : System TrackingAdapter Event := .ofPartial initial step

end TrackingAdapter

end GpsHal
