import GpsHal.Gnss.Tracking
import GpsHal.Location.BiDict
import GpsHal.Location.RequestQueue
import GpsHal.Transition.Basic

/-!
# `LocationAPIClientBase` : sessions, geofences and requests

The base class of the clients hands requests on to `LocationAPI` and keeps, for each of them, an
object in a queue; its callback runs when the answer comes.  Sessions and geofences are known to the
client by ids of its own, which two dictionaries translate.

An answer carries the session of the call.  If a tracking request or a response to the network was
made with this session, the answer belongs to it; otherwise, if the session is in the dictionary,
the answer goes to the request at the front of the queue that all sessions share.

## Main definitions

* `LocationAPIClientBase` : the queues and the dictionaries, with what has been requested and
  called back.
* `LocationAPIClientBase.locAPIStartSession`, and so on : the operations, under their names.
* `LocationAPIClientBase.step` : the operations and the answers as labels `ClientEvent`.
-/

namespace GpsHal

def GEOFENCE_SESSION_ID : BitVec 32 := 0xFFFFFFFF

def SESSION_MODE_NONE : BitVec 32 := 0
def SESSION_MODE_ON_FULL : BitVec 32 := 1
def SESSION_MODE_ON_FIX : BitVec 32 := 2
def SESSION_MODE_ON_TRIP_COMPLETED : BitVec 32 := 3

/-- The queues of requests that are answered one by one; the one for geofences is kept apart. -/
inductive RequestType where
  | TRACKING | SESSION | NIRESPONSE
  deriving DecidableEq, Repr

inductive ClientRequestKind where
  | StartTrackingRequest
  | StopTrackingRequest
  | UpdateTrackingOptionsRequest
  | StartBatchingRequest
  | StopBatchingRequest
  | UpdateBatchingOptionsRequest
  | GetBatchedLocationsRequest
  | GnssNiResponseRequest
  deriving DecidableEq, Repr

/-- A request object.  The number is not in the code; it tells the objects apart. -/
structure ClientRequest where
  kind : ClientRequestKind
  number : ℕ
  deriving DecidableEq, Repr

/-- The requests for geofences; one that removes them keeps what it has taken off the dictionary. -/
inductive GeofenceRequest where
  | AddGeofencesRequest
  | RemoveGeofencesRequest (mRemovedGeofenceBiDict : BiDict (BitVec 32))
  | ModifyGeofencesRequest
  | PauseGeofencesRequest
  | ResumeGeofencesRequest

/-- The callbacks for geofences. -/
inductive GeofenceCallback where
  | onAddGeofencesCb (errors : List LocationError) (ids : List (BitVec 32))
  | onRemoveGeofencesCb (errors : List LocationError) (ids : List (BitVec 32))
  | onModifyGeofencesCb (errors : List LocationError) (ids : List (BitVec 32))
  | onPauseGeofencesCb (errors : List LocationError) (ids : List (BitVec 32))
  | onResumeGeofencesCb (errors : List LocationError) (ids : List (BitVec 32))
  deriving DecidableEq, Repr

/-- `SessionEntity` -/
structure SessionEntity where
  id : BitVec 32
  trackingSession : BitVec 32
  batchingSession : BitVec 32
  sessionMode : BitVec 32
  deriving DecidableEq, Repr

namespace SessionEntity

instance : Inhabited SessionEntity := ⟨⟨0, 0, 0, 0⟩⟩

/-- The session of the mode that the entity is in. -/
def session (entity : SessionEntity) : BitVec 32 :=
  if entity.sessionMode ≠ SESSION_MODE_ON_FIX then entity.batchingSession
  else entity.trackingSession

end SessionEntity

/-- What the client asks `LocationAPI` for, about sessions. -/
inductive SessionCall where
  | startTracking (options : TrackingOptions)
  | updateTrackingOptions (options : TrackingOptions)
  | stopTracking
  | startBatching (options : BatchingOptions)
  | updateBatchingOptions (options : BatchingOptions)
  | stopBatching
  | getBatchedLocations (count : ℕ)
  deriving DecidableEq, Repr

/-- A call that `LocationAPI` has been given: its session, and the request that was made for it. -/
structure IssuedCall where
  call : SessionCall
  session : BitVec 32
  request : Option ClientRequest
  deriving DecidableEq, Repr

/-- What the client asks `LocationAPI` for, about geofences. -/
inductive GeofenceCall where
  | removeGeofences (sessions : List (BitVec 32))
  | modifyGeofences (sessions : List (BitVec 32)) (options : List GeofenceOption)
  | pauseGeofences (sessions : List (BitVec 32))
  | resumeGeofences (sessions : List (BitVec 32))
  deriving DecidableEq, Repr

/-- `LocationAPIClientBase`; `mLocationAPI` says whether the pointer is set.  The last fields record
the requests made so far, the callbacks that have run with the errors they were given, the calls
about sessions that have no answer yet, the requests whose calls have one, with its error, and what
has become of geofences. -/
structure LocationAPIClientBase where
  mLocationAPI : Bool
  mRequestQueues : RequestType → RequestQueue ClientRequest
  mGeofenceRequests : RequestQueue GeofenceRequest
  mGeofenceBiDict : BiDict (BitVec 32)
  mSessionBiDict : BiDict SessionEntity
  mTracking : Bool
  accepted : List ClientRequest
  callbacks : List (ClientRequest × LocationError)
  outstanding : List IssuedCall
  answered : List (ClientRequest × LocationError)
  geofenceCalls : List GeofenceCall
  geofenceCallbacks : List GeofenceCallback

namespace LocationAPIClientBase

/-- The constructor. -/
def initial : LocationAPIClientBase where
  mLocationAPI := false
  mRequestQueues _ := .empty
  mGeofenceRequests := .empty
  mGeofenceBiDict := .empty
  mSessionBiDict := .empty
  mTracking := false
  accepted := []
  callbacks := []
  outstanding := []
  answered := []
  geofenceCalls := []
  geofenceCallbacks := []

/-- `locAPISetCallbacks`, the first time; `LocationAPI::createInstance` may fail. -/
def locAPISetCallbacks (s : LocationAPIClientBase) (created : Bool) : LocationAPIClientBase :=
  { s with mLocationAPI := s.mLocationAPI || created }

variable (s : LocationAPIClientBase)

def setQueue (t : RequestType) (q : RequestQueue ClientRequest) : LocationAPIClientBase :=
  { s with mRequestQueues := Function.update s.mRequestQueues t q }

def setSessionBiDict (d : BiDict SessionEntity) : LocationAPIClientBase :=
  { s with mSessionBiDict := d }

/-- The next request object. -/
def newRequest (kind : ClientRequestKind) : ClientRequest := ⟨kind, s.accepted.length⟩

/-- Push a new request object. -/
def pushRequest (t : RequestType) (kind : ClientRequestKind) : LocationAPIClientBase :=
  { s.setQueue t ((s.mRequestQueues t).push (s.newRequest kind)) with
    accepted := s.accepted ++ [s.newRequest kind] }

/-- Give `LocationAPI` a call. -/
def issue (call : SessionCall) (session : BitVec 32) (request : Option ClientRequest) :
    LocationAPIClientBase :=
  { s with outstanding := s.outstanding ++ [⟨call, session, request⟩] }

/-- Give `LocationAPI` a call that starts a session; the session is 0 if it is rejected, and then
there is no answer. -/
def issueStart (call : SessionCall) (session : BitVec 32) (request : Option ClientRequest) :
    LocationAPIClientBase :=
  if session ≠ 0 then s.issue call session request else s

/-! ### Tracking -/

def locAPIStartTracking (session : BitVec 32) : LocationError × LocationAPIClientBase :=
  if s.mLocationAPI then
    if s.mTracking then (.SUCCESS, s)
    else
      let s := s.setQueue .TRACKING ((s.mRequestQueues .TRACKING).reset session)
      (.SUCCESS, { s.pushRequest .TRACKING .StartTrackingRequest with mTracking := true })
  else (.GENERAL_FAILURE, s)

def locAPIStopTracking : LocationAPIClientBase :=
  if s.mLocationAPI && (s.mRequestQueues .TRACKING).mSession ≠ 0 then
    { s.pushRequest .TRACKING .StopTrackingRequest with mTracking := false }
  else s

def locAPIUpdateTrackingOptions : LocationAPIClientBase :=
  if s.mLocationAPI && (s.mRequestQueues .TRACKING).mSession ≠ 0 then
    s.pushRequest .TRACKING .UpdateTrackingOptionsRequest
  else s

def locAPIGnssNiResponse (id : BitVec 32) : LocationAPIClientBase :=
  if s.mLocationAPI then
    (s.setQueue .NIRESPONSE ((s.mRequestQueues .NIRESPONSE).reset id)).pushRequest .NIRESPONSE
      .GnssNiResponseRequest
  else s

/-! ### Sessions -/

def batchingMode (sessionMode : BitVec 32) : BatchingMode :=
  if sessionMode = SESSION_MODE_ON_FULL then .ROUTINE
  else if sessionMode = SESSION_MODE_ON_TRIP_COMPLETED then .TRIP
  else .NO_AUTO_REPORT

/-- `batchOptions` with the location options of `options`. -/
def batchOptions (sessionMode : BitVec 32) (options : TrackingOptions) : BatchingOptions where
  size := 24
  minInterval := options.minInterval
  minDistance := options.minDistance
  mode := options.mode
  locReqEngTypeMask := 0
  batchingMode := batchingMode sessionMode

/-- `batchOptions` as `locAPIUpdateSessionOptions` leaves them for a session that goes on
batching: only the mode is filled in. -/
def batchOptionsUpdate (sessionMode : BitVec 32) : BatchingOptions where
  size := 24
  minInterval := 0
  minDistance := 0
  mode := .STANDALONE
  locReqEngTypeMask := 0
  batchingMode := batchingMode sessionMode

/-- `locAPIStartSession`, if `LocationAPI` returns `session`. -/
def locAPIStartSession (id sessionMode : BitVec 32) (options : TrackingOptions)
    (session : BitVec 32) : LocationError × LocationAPIClientBase :=
  if s.mLocationAPI then
    if s.mSessionBiDict.hasId id then (.ALREADY_STARTED, s)
    else if sessionMode = SESSION_MODE_ON_FIX then
      let request := s.newRequest .StartTrackingRequest
      let s := s.issueStart (.startTracking options) session request
      let s := s.pushRequest .SESSION .StartTrackingRequest
      (.SUCCESS, s.setSessionBiDict (s.mSessionBiDict.set id session ⟨id, session, 0, sessionMode⟩))
    else
      let request := s.newRequest .StartBatchingRequest
      let s := s.issueStart (.startBatching (batchOptions sessionMode options)) session request
      let s := s.setQueue .SESSION
        { s.mRequestQueues .SESSION with mSession := session }
      let s := s.pushRequest .SESSION .StartBatchingRequest
      (.SUCCESS, s.setSessionBiDict (s.mSessionBiDict.set id session ⟨id, 0, session, sessionMode⟩))
  else (.GENERAL_FAILURE, s)

/-- The entity of an id; the lookup writes the dictionary. -/
def getEntity (id : BitVec 32) : SessionEntity × LocationAPIClientBase :=
  let r := s.mSessionBiDict.getExtById id
  (r.1, s.setSessionBiDict r.2)

def locAPIStopSession (id : BitVec 32) : LocationError × LocationAPIClientBase :=
  if s.mLocationAPI then
    if s.mSessionBiDict.hasId id then
      let (entity, s) := s.getEntity id
      if entity.sessionMode = SESSION_MODE_ON_FIX then
        let request := s.newRequest .StopTrackingRequest
        let s := s.pushRequest .SESSION .StopTrackingRequest
        (.SUCCESS, s.issue .stopTracking entity.trackingSession request)
      else
        let request := s.newRequest .StopBatchingRequest
        let s := s.pushRequest .SESSION .StopBatchingRequest
        (.SUCCESS, s.issue .stopBatching entity.batchingSession request)
    else (.ID_UNKNOWN, s)
  else (.GENERAL_FAILURE, s)

/-- Replace the entity of an id. -/
def replaceEntity (id : BitVec 32) (entity : SessionEntity) : LocationAPIClientBase :=
  s.setSessionBiDict ((s.mSessionBiDict.rmById id).set id entity.session entity)

/-- `locAPIUpdateSessionOptions`; if a session is started, `LocationAPI` returns `session`.  A
session that leaves or enters `SESSION_MODE_ON_FIX` is stopped, for which there is no request, and
another one is started. -/
def locAPIUpdateSessionOptions (id sessionMode : BitVec 32) (options : TrackingOptions)
    (session : BitVec 32) : LocationError × LocationAPIClientBase :=
  if s.mLocationAPI then
    if s.mSessionBiDict.hasId id then
      let (entity, s) := s.getEntity id
      let sMode := entity.sessionMode
      if sessionMode = SESSION_MODE_ON_FIX then
        let request := s.newRequest .UpdateTrackingOptionsRequest
        let s := s.pushRequest .SESSION .UpdateTrackingOptionsRequest
        if sMode = SESSION_MODE_ON_FIX then
          let s := s.issue (.updateTrackingOptions options) entity.trackingSession request
          (.SUCCESS, s.replaceEntity id { entity with sessionMode := sessionMode })
        else
          -- stop batching
          let s := s.issue .stopBatching entity.batchingSession none
          let s := s.setQueue .SESSION { s.mRequestQueues .SESSION with mSession := 0 }
          -- start tracking
          let s := s.issueStart (.startTracking options) session request
          (.SUCCESS, s.replaceEntity id ⟨entity.id, session, 0, sessionMode⟩)
      else
        let request := s.newRequest .UpdateBatchingOptionsRequest
        let s := s.pushRequest .SESSION .UpdateBatchingOptionsRequest
        if sMode = SESSION_MODE_ON_FIX then
          -- stop tracking
          let s := s.issue .stopTracking entity.trackingSession none
          -- start batching
          let s := s.issueStart (.startBatching (batchOptions sessionMode options)) session request
          let s := s.setQueue .SESSION { s.mRequestQueues .SESSION with mSession := session }
          (.SUCCESS, s.replaceEntity id ⟨entity.id, 0, session, sessionMode⟩)
        else
          let s := s.issue (.updateBatchingOptions (batchOptionsUpdate sessionMode))
            entity.batchingSession request
          (.SUCCESS, s.replaceEntity id { entity with sessionMode := sessionMode })
    else (.ID_UNKNOWN, s)
  else (.GENERAL_FAILURE, s)

def locAPIGetBatchedLocations (id : BitVec 32) (count : ℕ) :
    LocationError × LocationAPIClientBase :=
  if s.mLocationAPI then
    if s.mSessionBiDict.hasId id then
      let (entity, s) := s.getEntity id
      if entity.sessionMode ≠ SESSION_MODE_ON_FIX then
        let request := s.newRequest .GetBatchedLocationsRequest
        let s := s.pushRequest .SESSION .GetBatchedLocationsRequest
        (.SUCCESS, s.issue (.getBatchedLocations count) entity.batchingSession request)
      else (.NOT_SUPPORTED, s)
    else (.ID_UNKNOWN, s)
  else (.GENERAL_FAILURE, s)

/-! ### Geofences -/

def setGeofenceBiDict (d : BiDict (BitVec 32)) : LocationAPIClientBase :=
  { s with mGeofenceBiDict := d }

/-- Push a request about geofences, and give `LocationAPI` its call. -/
def requestGeofences (request : GeofenceRequest) (call : Option GeofenceCall) :
    LocationAPIClientBase :=
  { s with
    mGeofenceRequests := s.mGeofenceRequests.push request
    geofenceCalls := s.geofenceCalls ++ call.toList }

/-- What `locAPIAddGeofences` stores for the ids, if `sessions` are the sessions returned. -/
def geofenceItems (items : List (BitVec 32 × GeofenceOption)) (sessions : List (BitVec 32)) :
    List (BiDictItem (BitVec 32)) :=
  List.zipWith (fun x session => ⟨x.1, session, x.2.breachTypeMask⟩) items sessions

/-- `locAPIAddGeofences`, if `LocationAPI` returns `sessions`, or `NULL`. -/
def locAPIAddGeofences (items : List (BitVec 32 × GeofenceOption))
    (sessions : Option (List (BitVec 32))) : LocationError × LocationAPIClientBase :=
  if s.mLocationAPI then
    let s := if s.mGeofenceRequests.mSession ≠ GEOFENCE_SESSION_ID then
        { s with mGeofenceRequests := s.mGeofenceRequests.reset GEOFENCE_SESSION_ID }
      else s
    match sessions with
    | some sessions =>
      let s := s.requestGeofences .AddGeofencesRequest none
      (.SUCCESS, s.setGeofenceBiDict (s.mGeofenceBiDict.setAll (geofenceItems items sessions)))
    | none => (.GENERAL_FAILURE, s)
  else (.GENERAL_FAILURE, s)

/-- What the loop of `locAPIRemoveGeofences` has done: the dictionary, the one of the removed
geofences, and `sessions`. -/
abbrev RemovedGeofences := BiDict (BitVec 32) × BiDict (BitVec 32) × List (BitVec 32)

def removeGeofence (acc : RemovedGeofences) (id : BitVec 32) : RemovedGeofences :=
  let session := acc.1.getSession id
  if 0 < session then
    let type := acc.1.getExtBySession session
    (acc.1.rmBySession session, acc.2.1.set id session type, acc.2.2 ++ [session])
  else acc

/-- The operations on geofences that are there: they have been added, so the queue is in use. -/
def geofencesInUse : Bool :=
  s.mLocationAPI && s.mGeofenceRequests.mSession = GEOFENCE_SESSION_ID

def locAPIRemoveGeofences (ids : List (BitVec 32)) : LocationAPIClientBase :=
  if s.geofencesInUse then
    let r := ids.foldl removeGeofence (s.mGeofenceBiDict, .empty, [])
    let s := s.setGeofenceBiDict r.1
    if r.2.2 ≠ [] then
      s.requestGeofences (.RemoveGeofencesRequest r.2.1) (some (.removeGeofences r.2.2))
    else s
  else s

/-- Let a geofence that is there have another mask; its session. -/
def setGeofenceMask (acc : BiDict (BitVec 32) × List (BitVec 32))
    (x : BitVec 32 × Option (BitVec 32)) : BiDict (BitVec 32) × List (BitVec 32) :=
  let session := acc.1.getSession x.1
  if 0 < session then
    match x.2 with
    | some mask => (acc.1.set x.1 session mask, acc.2 ++ [session])
    | none => (acc.1, acc.2 ++ [session])
  else acc

/-- Set masks and request something for the geofences among the ids that are there. -/
def updateGeofences (items : List (BitVec 32 × Option (BitVec 32))) (request : GeofenceRequest)
    (call : List (BitVec 32) → GeofenceCall) : LocationAPIClientBase :=
  if s.geofencesInUse then
    let r := items.foldl setGeofenceMask (s.mGeofenceBiDict, [])
    let s := s.setGeofenceBiDict r.1
    if r.2 ≠ [] then s.requestGeofences request (some (call r.2)) else s
  else s

/-- The options are handed on as they are, those of unknown ids among them. -/
def locAPIModifyGeofences (items : List (BitVec 32 × GeofenceOption)) : LocationAPIClientBase :=
  s.updateGeofences (items.map fun x => (x.1, some x.2.breachTypeMask)) .ModifyGeofencesRequest
    fun sessions => .modifyGeofences sessions (items.map Prod.snd)

def locAPIPauseGeofences (ids : List (BitVec 32)) : LocationAPIClientBase :=
  s.updateGeofences (ids.map fun id => (id, none)) .PauseGeofencesRequest .pauseGeofences

/-- `locAPIResumeGeofences`, with a mask for each id or with none at all. -/
def locAPIResumeGeofences (ids : List (BitVec 32)) (mask : Option (List (BitVec 32))) :
    LocationAPIClientBase :=
  let items := match mask with
    | some mask => List.zipWith (fun id m => (id, some m)) ids mask
    | none => ids.map fun id => (id, none)
  s.updateGeofences items .ResumeGeofencesRequest .resumeGeofences

/-- The sessions of all geofences are taken for ids. -/
def locAPIRemoveAllGeofences : LocationAPIClientBase :=
  s.locAPIRemoveGeofences s.mGeofenceBiDict.getAllSessions

/-- The ids that `beforeGeofenceBreachCb` hands on. -/
def beforeGeofenceBreachCb (type : GeofenceBreachType) (sessions : List (BitVec 32)) :
    List (BitVec 32) :=
  (sessions.filter fun session =>
    let mask := s.mGeofenceBiDict.getExtBySession session
    type = .ENTER ∧ mask &&& GEOFENCE_BREACH_ENTER_BIT ≠ 0 ∨
      type = .EXIT ∧ mask &&& GEOFENCE_BREACH_EXIT_BIT ≠ 0).map s.mGeofenceBiDict.getId

/-! ### Answers -/

/-- One completed trip of `beforeBatchingStatusCb`: the ids so far and the client. -/
def completeTrip (acc : List (BitVec 32) × LocationAPIClientBase) (session : BitVec 32) :
    List (BitVec 32) × LocationAPIClientBase :=
  if acc.2.mSessionBiDict.hasSession session then
    let sessEntity := acc.2.mSessionBiDict.getExtBySession session
    if sessEntity.sessionMode = SESSION_MODE_ON_TRIP_COMPLETED then
      (acc.1 ++ [sessEntity.id],
        acc.2.setSessionBiDict (acc.2.mSessionBiDict.rmBySession session))
    else acc
  else acc

/-- `beforeBatchingStatusCb` for completed trips: the ids that are handed on, and the client. -/
def beforeBatchingStatusCb (tripCompletedList : List (BitVec 32)) :
    List (BitVec 32) × LocationAPIClientBase :=
  tripCompletedList.foldl completeTrip ([], s)

def removeSession (session : BitVec 32) : LocationAPIClientBase :=
  if s.mSessionBiDict.hasSession session then
    s.setSessionBiDict (s.mSessionBiDict.rmBySession session)
  else s

/-- Take the request at the front of a queue. -/
def popQueue (t : RequestType) : Option ClientRequest × LocationAPIClientBase :=
  let r := (s.mRequestQueues t).pop
  (r.1, s.setQueue t r.2)

/-- The request that was made with the session, if it is not one about a session. -/
def getRequestOfQueue (session : BitVec 32) : Option ClientRequest × LocationAPIClientBase :=
  if (s.mRequestQueues .TRACKING).mSession = session then s.popQueue .TRACKING
  else if (s.mRequestQueues .NIRESPONSE).mSession = session then s.popQueue .NIRESPONSE
  else (none, s)

def getRequestBySession (session : BitVec 32) : Option ClientRequest × LocationAPIClientBase :=
  match s.getRequestOfQueue session with
  | (some request, s) => (some request, s)
  | (none, s) => if s.mSessionBiDict.hasSession session then s.popQueue .SESSION else (none, s)

/-- Run the callback of a request. -/
def callback (request : ClientRequest) (error : LocationError) : LocationAPIClientBase :=
  { s with callbacks := s.callbacks ++ [(request, error)] }

/-- `onResponse` of a request. -/
def onResponse (request : ClientRequest) (error : LocationError) (id : BitVec 32) :
    LocationAPIClientBase :=
  match request.kind with
  | .StartTrackingRequest | .StartBatchingRequest =>
    (if error ≠ .SUCCESS then s.removeSession id else s).callback request error
  | .StopTrackingRequest | .StopBatchingRequest =>
    let s := s.callback request error
    if error = .SUCCESS then s.removeSession id else s
  | .UpdateTrackingOptionsRequest | .UpdateBatchingOptionsRequest | .GetBatchedLocationsRequest
  | .GnssNiResponseRequest => s.callback request error

def onResponseCb (error : LocationError) (id : BitVec 32) : LocationAPIClientBase :=
  match s.getRequestBySession id with
  | (some request, s) => s.onResponse request error id
  | (none, s) => s

/-- `onCollectiveResponse` of a request about geofences. -/
def onCollectiveResponse (request : GeofenceRequest) (errors : List LocationError)
    (sessions : List (BitVec 32)) : GeofenceCallback :=
  let ids := sessions.map s.mGeofenceBiDict.getId
  match request with
  | .AddGeofencesRequest => .onAddGeofencesCb errors ids
  | .RemoveGeofencesRequest removed => .onRemoveGeofencesCb errors (sessions.map removed.getId)
  | .ModifyGeofencesRequest => .onModifyGeofencesCb errors ids
  | .PauseGeofencesRequest => .onPauseGeofencesCb errors ids
  | .ResumeGeofencesRequest => .onResumeGeofencesCb errors ids

def onCollectiveResponseCb (errors : List LocationError) (sessions : List (BitVec 32)) :
    LocationAPIClientBase :=
  if s.mGeofenceRequests.mSession = GEOFENCE_SESSION_ID then
    let r := s.mGeofenceRequests.pop
    { s with
      mGeofenceRequests := r.2
      geofenceCallbacks := s.geofenceCallbacks ++
        (r.1.map fun request => s.onCollectiveResponse request errors sessions).toList }
  else s

end LocationAPIClientBase

/-! ### Operations and answers as labels -/

/-- The operations, with what `LocationAPI` returns, and the callbacks that it makes. -/
inductive ClientEvent where
  | locAPISetCallbacks (created : Bool)
  | locAPIStartTracking (session : BitVec 32)
  | locAPIStopTracking
  | locAPIUpdateTrackingOptions
  | locAPIStartSession (id sessionMode : BitVec 32) (options : TrackingOptions)
      (session : BitVec 32)
  | locAPIStopSession (id : BitVec 32)
  | locAPIUpdateSessionOptions (id sessionMode : BitVec 32) (options : TrackingOptions)
      (session : BitVec 32)
  | locAPIGetBatchedLocations (id : BitVec 32) (count : ℕ)
  | locAPIAddGeofences (items : List (BitVec 32 × GeofenceOption))
      (sessions : Option (List (BitVec 32)))
  | locAPIRemoveGeofences (ids : List (BitVec 32))
  | locAPIModifyGeofences (items : List (BitVec 32 × GeofenceOption))
  | locAPIPauseGeofences (ids : List (BitVec 32))
  | locAPIResumeGeofences (ids : List (BitVec 32)) (mask : Option (List (BitVec 32)))
  | locAPIRemoveAllGeofences
  | locAPIGnssNiResponse (id : BitVec 32)
  | responseCb (error : LocationError) (id : BitVec 32)
  | collectiveResponseCb (errors : List LocationError) (sessions : List (BitVec 32))
  | geofenceBreachCb (type : GeofenceBreachType) (sessions : List (BitVec 32))
  | tripsCompletedCb (tripCompletedList : List (BitVec 32))

namespace LocationAPIClientBase

def step (s : LocationAPIClientBase) : ClientEvent → LocationAPIClientBase
  | .locAPISetCallbacks created => s.locAPISetCallbacks created
  | .locAPIStartTracking session => (s.locAPIStartTracking session).2
  | .locAPIStopTracking => s.locAPIStopTracking
  | .locAPIUpdateTrackingOptions => s.locAPIUpdateTrackingOptions
  | .locAPIStartSession id sessionMode options session =>
    (s.locAPIStartSession id sessionMode options session).2
  | .locAPIStopSession id => (s.locAPIStopSession id).2
  | .locAPIUpdateSessionOptions id sessionMode options session =>
    (s.locAPIUpdateSessionOptions id sessionMode options session).2
  | .locAPIGetBatchedLocations id count => (s.locAPIGetBatchedLocations id count).2
  | .locAPIAddGeofences items sessions => (s.locAPIAddGeofences items sessions).2
  | .locAPIRemoveGeofences ids => s.locAPIRemoveGeofences ids
  | .locAPIModifyGeofences items => s.locAPIModifyGeofences items
  | .locAPIPauseGeofences ids => s.locAPIPauseGeofences ids
  | .locAPIResumeGeofences ids mask => s.locAPIResumeGeofences ids mask
  | .locAPIRemoveAllGeofences => s.locAPIRemoveAllGeofences
  | .locAPIGnssNiResponse id => s.locAPIGnssNiResponse id
  | .responseCb error id => s.onResponseCb error id
  | .collectiveResponseCb errors sessions => s.onCollectiveResponseCb errors sessions
  | .geofenceBreachCb _ _ => s
  | .tripsCompletedCb tripCompletedList => (s.beforeBatchingStatusCb tripCompletedList).2

/-- The client as a transition system. -/
def system : System LocationAPIClientBase ClientEvent := System.ofFun initial step

end LocationAPIClientBase

end GpsHal
