import GpsHal.Location.DataTypes
import GpsHal.Transition.Basic
import GpsHal.Util.OrdMap
import Mathlib.Logic.Function.Basic

/-!
# `BatchingAdapter` : batching sessions and trips

A session in one of the modes without trips has a batch of its own in the engine.  All trips share
one outdoor batch, which runs for the least distance and the least interval that any of them needs;
the adapter keeps for each trip what it has covered in the batches before, and starts the batch
again when a trip with a smaller distance or interval joins, or when the one that needed it is gone.

Each function is given with the callbacks of the requests that it sends.  A request that is under
way is kept with the data that its callback has captured; the requests whose callbacks do nothing
are left out.  Commands are taken when the capabilities of the engine are known, and otherwise later.

## Main definitions

* `TripSessionStatus`, `BatchingRequest`, `BatchingAdapter` : the state.
* `BatchingAdapter.startTripBatchingMultiplex`, `BatchingAdapter.stopTripBatchingMultiplex`,
  `BatchingAdapter.restartTripBatching` : the trips.
* `BatchingAdapter.step`, `BatchingAdapter.system` : commands, events and answers of the engine.
-/

namespace GpsHal

/-! ### Numbers -/

/-- The sum of two numbers of type `uint32_t`. -/
def uint32Add (a b : ℕ) : ℕ := (a + b) % 2 ^ 32

/-- The difference of two numbers of type `uint32_t`. -/
def uint32Sub (a b : ℕ) : ℕ := if b ≤ a then a - b else a + 2 ^ 32 - b

theorem uint32Add_of_lt {a b : ℕ} (h : a + b < 2 ^ 32) : uint32Add a b = a + b := Nat.mod_eq_of_lt h

theorem uint32Sub_of_le {a b : ℕ} (h : b ≤ a) : uint32Sub a b = a - b := if_pos h

/-- What the adapter knows of a trip; distances are in metres. -/
structure TripSessionStatus where
  accumulatedDistanceOngoingBatch : ℕ
  accumulatedDistanceThisTrip : ℕ
  accumulatedDistanceOnTripRestart : ℕ
  tripDistance : ℕ
  tripTBFInterval : ℕ
  deriving DecidableEq, Repr

namespace TripSessionStatus

variable (st : TripSessionStatus)

/-- The distance of the trip when the engine has counted `distance` for the ongoing batch. -/
def distanceAt (distance : ℕ) : ℕ :=
  uint32Add st.accumulatedDistanceOnTripRestart
    (uint32Sub distance st.accumulatedDistanceOngoingBatch)

def report (distance : ℕ) : TripSessionStatus :=
  { st with accumulatedDistanceThisTrip := st.distanceAt distance }

/-- The ongoing batch starts again. -/
def rebase : TripSessionStatus :=
  { st with
    accumulatedDistanceOngoingBatch := 0
    accumulatedDistanceOnTripRestart := st.accumulatedDistanceThisTrip }

/-- `tripDistance - accumulatedDistanceThisTrip` -/
def remaining : ℕ := uint32Sub st.tripDistance st.accumulatedDistanceThisTrip

/-- The subtraction of `distanceAt` wraps. -/
def distanceWraps (distance : ℕ) : Bool := decide (distance < st.accumulatedDistanceOngoingBatch)

/-- The subtraction of `remaining` wraps. -/
def remainingWraps : Bool := decide (st.tripDistance < st.accumulatedDistanceThisTrip)

end TripSessionStatus

/-- A request that the engine has not answered, with what its callback has captured. -/
inductive BatchingRequest where
  | startBatching (client id : ℕ) (options : BatchingOptions)
  | stopBatching (client id : ℕ) (flpOptions : BatchingOptions) (restartNeeded : Bool)
    (options : BatchingOptions)
  | startTrip (client id : ℕ) (options : BatchingOptions)
  | joinTrip (client id : ℕ) (options : BatchingOptions)
  | joinRestart (client id : ℕ)
  | stopTrip (client id : ℕ) (restartNeeded : Bool) (options : BatchingOptions)
  | queryTrips (queryAccumulatedDistance : Bool) (minRemainingDistance minTBFInterval accDist : ℕ)
  | restartTrips (accumulatedDistance ongoingTripDistance ongoingTripInterval : ℕ)
  | restartSessions
  deriving DecidableEq, Repr

/-- The adapter.  `mClientData` tells whether a client has a batching callback, and `batchFull`
whether `mEvtMask` has `LOC_API_ADAPTER_BIT_BATCH_FULL`.  The last three fields are records that no
function reads: the lists of completed trips that have been reported; the sessions for which the
last answer to a start was `SUCCESS` and that have not been stopped since; and whether a subtraction
of distances has wrapped. -/
structure BatchingAdapter where
  mClientData : ℕ → Option Bool
  mBatchingSessions : OrdMap LocationSessionKey BatchingOptions
  mTripSessions : OrdMap ℕ TripSessionStatus
  mOngoingTripDistance : ℕ
  mOngoingTripTBFInterval : ℕ
  mTripWithOngoingTBFDropped : Bool
  mTripWithOngoingTripDistanceDropped : Bool
  batchFull : Bool
  distanceBatchingSupported : Bool
  outstanding : List BatchingRequest
  completedTrips : List (List ℕ)
  started : LocationSessionKey → Bool
  wrapped : Bool

namespace BatchingAdapter

def init : BatchingAdapter where
  mClientData _ := none
  mBatchingSessions := ∅
  mTripSessions := ∅
  mOngoingTripDistance := 0
  mOngoingTripTBFInterval := 0
  mTripWithOngoingTBFDropped := false
  mTripWithOngoingTripDistanceDropped := false
  batchFull := false
  distanceBatchingSupported := false
  outstanding := []
  completedTrips := []
  started _ := false
  wrapped := false

variable (s : BatchingAdapter)

/-! ### Updates -/

/-- `updateEvtMask` for `LOC_API_ADAPTER_BIT_BATCH_FULL` -/
def setBatchFull (b : Bool) : BatchingAdapter := { s with batchFull := b }

theorem ite_setBatchFull (p : Prop) [Decidable p] (b : Bool) :
    (if p then s.setBatchFull b else s) = s.setBatchFull (if p then b else s.batchFull) := by
  split_ifs <;> rfl

def request (r : BatchingRequest) : BatchingAdapter := { s with outstanding := s.outstanding ++ [r] }

/-- A request is not under way any more. -/
def take (r : BatchingRequest) : BatchingAdapter :=
  { s with outstanding := s.outstanding.erase r }

def setTripSessions (m : OrdMap ℕ TripSessionStatus) : BatchingAdapter :=
  { s with mTripSessions := m }

def setOngoing (distance interval : ℕ) : BatchingAdapter :=
  { s with
    mOngoingTripDistance := distance
    mOngoingTripTBFInterval := interval }

def noteWrap (b : Bool) : BatchingAdapter := { s with wrapped := s.wrapped || b }

/-- The answer to a start of a session is reported. -/
def reportStart (client id : ℕ) (err : LocationError) : BatchingAdapter :=
  { s with started := Function.update s.started ⟨client, id⟩ (decide (err = .SUCCESS)) }

/-- The answer to a stop of a session is reported. -/
def reportStop (client id : ℕ) (err : LocationError) : BatchingAdapter :=
  if err = .SUCCESS then { s with started := Function.update s.started ⟨client, id⟩ false } else s

def saveBatchingSession (client id : ℕ) (options : BatchingOptions) : BatchingAdapter :=
  { s with mBatchingSessions := s.mBatchingSessions.insert ⟨client, id⟩ options }

def eraseBatchingSession (client id : ℕ) : BatchingAdapter :=
  { s with mBatchingSessions := s.mBatchingSessions.erase ⟨client, id⟩ }

/-! ### Queries -/

def hasBatchingCallback (client : ℕ) : Bool := (s.mClientData client).getD false

def isBatchingSession (client id : ℕ) : Bool := (s.mBatchingSessions.find ⟨client, id⟩).isSome

def isTripSession (id : ℕ) : Bool := (s.mTripSessions.find id).isSome

/-- A trip is counted in both maps. -/
def autoReportBatchingSessionsCount : ℕ :=
  s.mBatchingSessions.entries.countP (fun e => decide (e.2.batchingMode ≠ .NO_AUTO_REPORT)) +
    s.mTripSessions.size

def updateClientsEventMask : BatchingAdapter :=
  s.setBatchFull (decide (0 < s.autoReportBatchingSessionsCount))

/-- The least distance that a trip has left; 0 stands for none. -/
def minRemainingDistance : ℕ :=
  s.mTripSessions.values.foldl
    (fun least st => if least = 0 ∨ st.remaining < least then st.remaining else least) 0

def minTBFInterval : ℕ :=
  s.mTripSessions.values.foldl
    (fun least st => if least = 0 ∨ st.tripTBFInterval < least then st.tripTBFInterval else least) 0

/-- Some `remaining` wraps. -/
def remainingWraps : Bool := s.mTripSessions.values.any (·.remainingWraps)

/-- Some `distanceAt` wraps. -/
def distanceWraps (distance : ℕ) : Bool :=
  s.mTripSessions.values.any (·.distanceWraps distance)

/-! ### Trips that run together -/

/-- `restartTripBatching`; without trips the outdoor batch is stopped. -/
def restartTripBatching (queryAccumulatedDistance : Bool) (accDist : ℕ) : BatchingAdapter :=
  if s.mTripSessions.isEmpty then
    let s := s.setOngoing 0 0
    if s.autoReportBatchingSessionsCount = 0 then s.setBatchFull false else s
  else
    (s.noteWrap s.remainingWraps).request
      (.queryTrips queryAccumulatedDistance s.minRemainingDistance s.minTBFInterval accDist)

/-- The answer to the query of `restartTripBatching`. -/
def onQueryTrips (queryAccumulatedDistance : Bool)
    (minRemainingDistance minTBFInterval accDist accumulatedDistance : ℕ) : BatchingAdapter :=
  let accumulatedDistance := if queryAccumulatedDistance then accumulatedDistance else accDist
  let remaining := uint32Sub s.mOngoingTripDistance accumulatedDistance
  let distance : Option ℕ :=
    if s.mTripWithOngoingTripDistanceDropped = false ∧ remaining ≠ 0 then
      if minRemainingDistance < remaining then some minRemainingDistance else none
    else if minRemainingDistance ≠ 0 then some minRemainingDistance
    else none
  let interval : Option ℕ :=
    if minTBFInterval < s.mOngoingTripTBFInterval ∨
        minTBFInterval ≠ s.mOngoingTripTBFInterval ∧ s.mTripWithOngoingTBFDropped = true then
      some minTBFInterval
    else none
  let s := s.noteWrap (!s.mTripWithOngoingTripDistanceDropped &&
    decide (s.mOngoingTripDistance < accumulatedDistance))
  if distance.isSome || interval.isSome then
    s.request (.restartTrips accumulatedDistance (distance.getD s.mOngoingTripDistance)
      (interval.getD s.mOngoingTripTBFInterval))
  else s

/-- The answer to the restart of `restartTripBatching`. -/
def onRestartTrips (accumulatedDistance ongoingTripDistance ongoingTripInterval : ℕ)
    (err : LocationError) : BatchingAdapter :=
  if err = .SUCCESS then
    let s := s.noteWrap (s.distanceWraps accumulatedDistance)
    let s := s.setTripSessions
      (s.mTripSessions.mapValues fun st => (st.report accumulatedDistance).rebase)
    s.setOngoing ongoingTripDistance ongoingTripInterval
  else s

/-! ### Starting a session -/

def startBatching (client id : ℕ) (options : BatchingOptions) : BatchingAdapter :=
  let s :=
    if options.batchingMode ≠ .NO_AUTO_REPORT ∧ s.autoReportBatchingSessionsCount = 0 then
      s.setBatchFull true
    else s
  (s.saveBatchingSession client id options).request (.startBatching client id options)

/-- The answer to the start of `startBatching`. -/
def onStartBatching (client id : ℕ) (options : BatchingOptions) (err : LocationError) :
    BatchingAdapter :=
  let s := if err ≠ .SUCCESS then s.eraseBatchingSession client id else s
  let s :=
    if err ≠ .SUCCESS ∧ options.batchingMode ≠ .NO_AUTO_REPORT ∧
        s.autoReportBatchingSessionsCount = 0 then
      s.setBatchFull false
    else s
  s.reportStart client id err

/-- The first trip starts the outdoor batch; another one asks how far that has come. -/
def startTripBatchingMultiplex (client id : ℕ) (options : BatchingOptions) : BatchingAdapter :=
  if s.mTripSessions.size = 0 then
    let s := if s.autoReportBatchingSessionsCount = 0 then s.setBatchFull true else s
    let s := s.saveBatchingSession client id options
    let s := s.setTripSessions
      (s.mTripSessions.insert id ⟨0, 0, 0, options.minDistance, options.minInterval⟩)
    s.request (.startTrip client id options)
  else s.request (.joinTrip client id options)

/-- The answer to the start of the first trip. -/
def onStartTrip (client id : ℕ) (options : BatchingOptions) (err : LocationError) :
    BatchingAdapter :=
  let s :=
    if err = .SUCCESS then s.setOngoing options.minDistance options.minInterval
    else
      let s := s.eraseBatchingSession client id
      let s := s.setTripSessions (s.mTripSessions.erase id)
      if s.autoReportBatchingSessionsCount = 0 then s.setBatchFull false else s
  s.reportStart client id err

/-- The distance and the interval with which the batch has to start again when a trip joins it, if
it has to.  `remaining` is what the batch has left. -/
def joinOngoing (options : BatchingOptions) (remaining : Option ℕ) : Option (ℕ × ℕ) :=
  let lessInterval := decide (options.minInterval < s.mOngoingTripTBFInterval)
  let interval := if lessInterval then options.minInterval else s.mOngoingTripTBFInterval
  match remaining with
  | none =>
    -- the query has failed: assume that all of the distance is left
    if options.minDistance < s.mOngoingTripDistance then some (options.minDistance, interval)
    else if lessInterval then some (s.mOngoingTripDistance, interval)
    else none
  | some remaining =>
    if options.minDistance < remaining then some (options.minDistance, interval)
    else if lessInterval then some (remaining, interval)
    else none

/-- The answer to the query of a trip that joins the batch.  The trip is saved among the trips
only. -/
def onJoinTrip (client id : ℕ) (options : BatchingOptions) (err : LocationError)
    (accumulatedDistance : ℕ) : BatchingAdapter :=
  let remaining : Option ℕ :=
    if err ≠ .SUCCESS then none else some (uint32Sub s.mOngoingTripDistance accumulatedDistance)
  let ongoing := s.joinOngoing options remaining
  let s :=
    if err ≠ .SUCCESS then s
    else
      (s.noteWrap (decide (s.mOngoingTripDistance < accumulatedDistance))).setTripSessions
        (s.mTripSessions.insert id
          ⟨accumulatedDistance, 0, 0, options.minDistance, options.minInterval⟩)
  match ongoing with
  | some (distance, interval) =>
    let s := s.setOngoing distance interval
    let s := s.setTripSessions (s.mTripSessions.mapValues (·.rebase))
    s.request (.joinRestart client id)
  | none => s.reportStart client id .SUCCESS

/-- A session is started in its mode. -/
def startSession (client id : ℕ) (options : BatchingOptions) : BatchingAdapter :=
  match options.batchingMode with
  | .ROUTINE | .NO_AUTO_REPORT => s.startBatching client id options
  | .TRIP => s.startTripBatchingMultiplex client id options

/-! ### Stopping a session -/

def stopBatching (client id : ℕ) (restartNeeded : Bool) (options : BatchingOptions) :
    BatchingAdapter :=
  match s.mBatchingSessions.find ⟨client, id⟩ with
  | some flpOptions =>
    (s.eraseBatchingSession client id).request
      (.stopBatching client id flpOptions restartNeeded options)
  | none => s

/-- The answer to the stop of `stopBatching`.  After a failure the session is saved with the options
of the command. -/
def onStopBatching (client id : ℕ) (flpOptions : BatchingOptions) (restartNeeded : Bool)
    (options : BatchingOptions) (err : LocationError) : BatchingAdapter :=
  let s :=
    if err ≠ .SUCCESS then s.saveBatchingSession client id options
    else
      let s :=
        if s.autoReportBatchingSessionsCount = 0 ∧ flpOptions.batchingMode ≠ .NO_AUTO_REPORT then
          s.setBatchFull false
        else s
      if restartNeeded then s.startSession client id options else s
  s.reportStop client id err

/-- What is read through the iterator of `find`; nothing sensible if there is no such trip. -/
def tripStatus (id : ℕ) : TripSessionStatus := (s.mTripSessions.find id).getD ⟨0, 0, 0, 0, 0⟩

/-- Note that a trip with the interval or the distance of the batch is gone. -/
def dropTrip (st : TripSessionStatus) : BatchingAdapter :=
  { s with
    mTripWithOngoingTBFDropped :=
      s.mTripWithOngoingTBFDropped || decide (st.tripTBFInterval = s.mOngoingTripTBFInterval)
    mTripWithOngoingTripDistanceDropped :=
      s.mTripWithOngoingTripDistanceDropped || decide (st.tripDistance = s.mOngoingTripDistance) }

/-- The session is erased from `mBatchingSessions` only if it is started again. -/
def stopTripBatchingMultiplexCommon (err : LocationError) (client id : ℕ) (restartNeeded : Bool)
    (options : BatchingOptions) : BatchingAdapter :=
  let s := s.dropTrip (s.tripStatus id)
  let s := s.setTripSessions (s.mTripSessions.erase id)
  let s := if s.mTripSessions.size = 0 then s.setOngoing 0 0 else s.restartTripBatching true 0
  let s :=
    if restartNeeded then (s.eraseBatchingSession client id).startSession client id options else s
  s.reportStop client id err

def stopTripBatchingMultiplex (client id : ℕ) (restartNeeded : Bool) (options : BatchingOptions) :
    BatchingAdapter :=
  if s.mTripSessions.size = 1 then s.request (.stopTrip client id restartNeeded options)
  else s.stopTripBatchingMultiplexCommon .SUCCESS client id restartNeeded options

/-- The answer to the stop of the last trip. -/
def onStopTrip (client id : ℕ) (restartNeeded : Bool) (options : BatchingOptions)
    (err : LocationError) : BatchingAdapter :=
  let s :=
    if err = .SUCCESS ∧ s.autoReportBatchingSessionsCount = 1 then s.setBatchFull false else s
  s.stopTripBatchingMultiplexCommon err client id restartNeeded options

/-- `BatchingOptions()` -/
def defaultOptions : BatchingOptions := ⟨0, 0, 0, .STANDALONE, 0, .ROUTINE⟩

/-! ### Clients -/

/-- Stop one session of a client that is removed. -/
def stopSession (key : LocationSessionKey) (batchingMode : BatchingMode) : BatchingAdapter :=
  if batchingMode ≠ .TRIP then s.stopBatching key.client key.id false defaultOptions
  else s.stopTripBatchingMultiplex key.client key.id false defaultOptions

/-- `stopClientSessions` : the sessions are collected before the first of them is stopped. -/
def stopClientSessions (client : ℕ) : BatchingAdapter :=
  (s.mBatchingSessions.entries.filter fun e => client = e.1.client).foldl
    (fun s e => s.stopSession e.1 e.2.batchingMode) s

def saveClient (client : ℕ) (batchingCb : Bool) : BatchingAdapter :=
  { s with
    mClientData := Function.update s.mClientData client (some batchingCb) }.updateClientsEventMask

def eraseClient (client : ℕ) : BatchingAdapter :=
  { s with
    mClientData := Function.update s.mClientData client none
    started := fun key => decide (key.client ≠ client) && s.started key }.updateClientsEventMask

/-! ### Commands -/

/-- `startBatchingCommand` -/
def procStartBatching (client id : ℕ) (options : BatchingOptions) : BatchingAdapter :=
  if s.hasBatchingCallback client = false then s
  else if options.size = 0 then s
  else if s.distanceBatchingSupported = false then s
  else s.startSession client id options

/-- `updateBatchingOptionsCommand` -/
def procUpdateBatching (client id : ℕ) (options : BatchingOptions) : BatchingAdapter :=
  if s.isBatchingSession client id = false then s
  else if options.size = 0 then s
  else if s.isTripSession id = false then s.stopBatching client id true options
  else s.stopTripBatchingMultiplex client id true options

/-- `stopBatchingCommand` -/
def procStopBatching (client id : ℕ) : BatchingAdapter :=
  if s.isBatchingSession client id = false then s
  else if s.isTripSession id then s.stopTripBatchingMultiplex client id false defaultOptions
  else s.stopBatching client id false defaultOptions

/-! ### Events -/

/-- The status of a trip after a report, unless it is completed. -/
def reportTrip (accumulatedDistance : ℕ) (st : TripSessionStatus) : Option TripSessionStatus :=
  if st.tripDistance ≤ st.distanceAt accumulatedDistance then none
  else some (st.report accumulatedDistance)

/-- The trips that a report completes. -/
def completedTripsList (accumulatedDistance : ℕ) : List ℕ :=
  s.mTripSessions.entries.filterMap fun e =>
    if (reportTrip accumulatedDistance e.2).isNone then some e.1 else none

/-- `reportCompletedTripsEvent`; what is noted of a completed trip is read from its entry after that
has been erased, which gives `memory`. -/
def procReportCompletedTrips (accumulatedDistance : ℕ) (memory : ℕ → TripSessionStatus) :
    BatchingAdapter :=
  let completed := s.completedTripsList accumulatedDistance
  let s := s.noteWrap (s.distanceWraps accumulatedDistance)
  let s := s.setTripSessions
    (s.mTripSessions.filterMap fun _ st => reportTrip accumulatedDistance st)
  let s := completed.foldl (fun s id => s.dropTrip (memory id)) s
  if completed ≠ [] then
    { s with
      completedTrips := s.completedTrips ++ [completed] }.restartTripBatching false
        accumulatedDistance
  else s

/-- `restartSessions`; the trips are read by value, so their counters are not reset. -/
def restartSessions : BatchingAdapter :=
  let s := if 0 < s.autoReportBatchingSessionsCount then s.setBatchFull true else s
  if 0 < s.mTripSessions.size then
    ((s.noteWrap s.remainingWraps).setOngoing s.minRemainingDistance s.minTBFInterval).request
      .restartSessions
  else s

/-- The answer to the start of the outdoor batch in `restartSessions`. -/
def onRestartSessions (err : LocationError) : BatchingAdapter :=
  if err ≠ .SUCCESS then s.setOngoing 0 0 else s

/-- The callback of a request. -/
def onAnswer (r : BatchingRequest) (err : LocationError) (accumulatedDistance : ℕ) :
    BatchingAdapter :=
  match r with
  | .startBatching client id options => s.onStartBatching client id options err
  | .stopBatching client id flpOptions restartNeeded options =>
    s.onStopBatching client id flpOptions restartNeeded options err
  | .startTrip client id options => s.onStartTrip client id options err
  | .joinTrip client id options => s.onJoinTrip client id options err accumulatedDistance
  | .joinRestart client id => s.reportStart client id err
  | .stopTrip client id restartNeeded options => s.onStopTrip client id restartNeeded options err
  | .queryTrips queryAccumulatedDistance minRemainingDistance minTBFInterval accDist =>
    s.onQueryTrips queryAccumulatedDistance minRemainingDistance minTBFInterval accDist
      accumulatedDistance
  | .restartTrips distance ongoingTripDistance ongoingTripInterval =>
    s.onRestartTrips distance ongoingTripDistance ongoingTripInterval err
  | .restartSessions => s.onRestartSessions err

end BatchingAdapter

/-- What happens to the adapter.  The id of a session that is started is the one that
`generateSessionId` has given. -/
inductive BatchingEvent where
  | addClient (client : ℕ) (batchingCb : Bool)
  | removeClient (client : ℕ)
  | startBatching (client id : ℕ) (options : BatchingOptions)
  | updateBatchingOptions (client id : ℕ) (options : BatchingOptions)
  | stopBatching (client id : ℕ)
  | reportCompletedTrips (accumulatedDistance : ℕ) (memory : ℕ → TripSessionStatus)
  | engineUp (distanceBatchingSupported : Bool)
  | answer (r : BatchingRequest) (err : LocationError) (accumulatedDistance : ℕ)

namespace BatchingAdapter

variable (s : BatchingAdapter)

/-- One message, or the callback of a request that has been under way. -/
def step : BatchingEvent → Option BatchingAdapter
  | .addClient client batchingCb => some (s.saveClient client batchingCb)
  | .removeClient client => some ((s.stopClientSessions client).eraseClient client)
  | .startBatching client id options => some (s.procStartBatching client id options)
  | .updateBatchingOptions client id options => some (s.procUpdateBatching client id options)
  | .stopBatching client id => some (s.procStopBatching client id)
  | .reportCompletedTrips distance memory => some (s.procReportCompletedTrips distance memory)
  | .engineUp supported => some { s with distanceBatchingSupported := supported }.restartSessions
  | .answer r err accumulatedDistance =>
    if r ∈ s.outstanding then
      some ((s.take r).onAnswer r err accumulatedDistance)
    else none

def system : System BatchingAdapter BatchingEvent := .ofPartial init step

end BatchingAdapter

end GpsHal
