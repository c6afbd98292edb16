import GpsHal.Batching.Adapter
import Mathlib.Data.List.Count

/-!
# `BatchingAdapter` : the answers to batching commands

A client that gives a command waits for one call of `reportResponse`.  The command may be answered by
its message, by the callback of its request, or by a callback further on; this file keeps beside the
adapter which command has sent a request, what has been reported for which command, and whether the
session was then in the state that the command had asked for.

The error that a check of a command computes is reported by nobody, an update is answered by the
callback of its stop and again by that of its start, and the stop of a trip leaves the session saved.
`BatchingLedger.Answerable` says when a run does not come to that.

## Main definitions

* `BatchingCommand.Fulfilled` : the session is in the state that the command has asked for.
* `BatchingAdapter.commandResponses`, `BatchingAdapter.answerResponses` : the calls of
  `reportResponse`.
* `BatchingLedger`, `BatchingLedger.step` : the adapter with what has been reported.
* `BatchingLedger.Answered` : a command has been answered once, and truthfully.
* `BatchingLedger.Answerable` : the condition on the steps.

## Main results

* `Sound.save`, `Sound.erase`, `Sound.insertTrip`, `Sound.cons` : what keeps the open requests and the
  sessions together.
-/

namespace GpsHal

inductive BatchingCommandKind where
  | start (options : BatchingOptions)
  | update (options : BatchingOptions)
  | stop
  deriving DecidableEq, Repr

/-- A command of a client, with its number. -/
structure BatchingCommand where
  num : ℕ
  kind : BatchingCommandKind
  client : ℕ
  id : ℕ
  deriving DecidableEq, Repr

/-- A request under way, with the command that has sent it, if any. -/
structure BatchingCall where
  cmd : Option BatchingCommand
  request : BatchingRequest
  deriving DecidableEq, Repr

/-- A call of `reportResponse`. -/
structure BatchingResponse where
  client : ℕ
  err : LocationError
  id : ℕ
  deriving DecidableEq, Repr

/-! ### What a command asks for -/

namespace BatchingAdapter

variable (s : BatchingAdapter)

/-- The distance and the interval of a trip. -/
def trip (id : ℕ) : Option (ℕ × ℕ) :=
  (s.mTripSessions.find id).map fun st => (st.tripDistance, st.tripTBFInterval)

/-- The session runs with the options: a trip is among the trips, another session is saved. -/
def Running (client id : ℕ) (options : BatchingOptions) : Prop :=
  if options.batchingMode = .TRIP then s.trip id = some (options.minDistance, options.minInterval)
  else s.mBatchingSessions.find ⟨client, id⟩ = some options

/-- The session is gone from both maps. -/
def Gone (client id : ℕ) : Prop := s.mBatchingSessions.find ⟨client, id⟩ = none ∧ s.trip id = none

instance (client id : ℕ) (options : BatchingOptions) : Decidable (s.Running client id options) :=
  inferInstanceAs (Decidable (if options.batchingMode = .TRIP then
    s.trip id = some (options.minDistance, options.minInterval) else
      s.mBatchingSessions.find ⟨client, id⟩ = some options))

instance (client id : ℕ) : Decidable (s.Gone client id) := inferInstanceAs (Decidable (_ ∧ _))

end BatchingAdapter

/-- The session of the command is in the state that the command asks for. -/
def BatchingCommand.Fulfilled (cmd : BatchingCommand) (s : BatchingAdapter) : Prop :=
  match cmd.kind with
  | .start options | .update options => s.Running cmd.client cmd.id options
  | .stop => s.Gone cmd.client cmd.id

instance : ∀ (cmd : BatchingCommand) (s : BatchingAdapter), Decidable (cmd.Fulfilled s)
  | ⟨_, .start options, client, id⟩, s => inferInstanceAs (Decidable (s.Running client id options))
  | ⟨_, .update options, client, id⟩, s => inferInstanceAs (Decidable (s.Running client id options))
  | ⟨_, .stop, client, id⟩, s => inferInstanceAs (Decidable (s.Gone client id))

/-! ### The calls of `reportResponse` -/

namespace BatchingAdapter

variable (s : BatchingAdapter)

/-- The message of a command. -/
def procCommand (cmd : BatchingCommand) : BatchingAdapter :=
  match cmd.kind with
  | .start options => s.procStartBatching cmd.client cmd.id options
  | .update options => s.procUpdateBatching cmd.client cmd.id options
  | .stop => s.procStopBatching cmd.client cmd.id

/-- `stopTripBatchingMultiplex` reports right away if the engine is not asked. -/
def stopTripResponses (client id : ℕ) : List BatchingResponse :=
  if s.mTripSessions.size = 1 then [] else [⟨client, .SUCCESS, id⟩]

/-- What the message of a command reports: not the errors of its checks. -/
def commandResponses (cmd : BatchingCommand) : List BatchingResponse :=
  match cmd.kind with
  | .start _ => []
  | .update options =>
    if s.isBatchingSession cmd.client cmd.id = false then []
    else if options.size = 0 then []
    else if s.isTripSession cmd.id = false then []
    else s.stopTripResponses cmd.client cmd.id
  | .stop =>
    if s.isBatchingSession cmd.client cmd.id = false then []
    else if s.isTripSession cmd.id then s.stopTripResponses cmd.client cmd.id
    else []

/-- What is left of the ongoing batch when a trip joins it, if the engine has told. -/
def joinRemaining (err : LocationError) (accumulatedDistance : ℕ) : Option ℕ :=
  if err ≠ .SUCCESS then none else some (uint32Sub s.mOngoingTripDistance accumulatedDistance)

/-- What the callback of a request reports. -/
def answerResponses (err : LocationError) (accumulatedDistance : ℕ) :
    BatchingRequest → List BatchingResponse
  | .startBatching client id _ | .stopBatching client id _ _ _ | .startTrip client id _
  | .joinRestart client id | .stopTrip client id _ _ => [⟨client, err, id⟩]
  | .joinTrip client id options =>
    if (s.joinOngoing options (s.joinRemaining err accumulatedDistance)).isSome then []
    else [⟨client, .SUCCESS, id⟩]
  | .queryTrips _ _ _ _ | .restartTrips _ _ _ | .restartSessions => []

end BatchingAdapter

/-! ### The ledger -/

/-- A call of `reportResponse` for a command, and whether the session was then as it was to be. -/
structure BatchingReport where
  cmd : Option BatchingCommand
  response : BatchingResponse
  fulfilled : Bool
  deriving DecidableEq, Repr

/-- The adapter, and beside it the requests under way with their commands, the commands, the reports
and the last command for each session; that is forgotten when the client is removed. -/
structure BatchingLedger where
  adapter : BatchingAdapter
  calls : List BatchingCall
  commands : List BatchingCommand
  reports : List BatchingReport
  last : ℕ → Option BatchingCommand

namespace BatchingLedger

inductive Event where
  | addClient (client : ℕ) (batchingCb : Bool)
  | removeClient (client : ℕ)
  | command (kind : BatchingCommandKind) (client id : ℕ)
  | reportCompletedTrips (accumulatedDistance : ℕ) (memory : ℕ → TripSessionStatus)
  | engineUp (distanceBatchingSupported : Bool)
  | answer (call : BatchingCall) (err : LocationError) (accumulatedDistance : ℕ)

/-- The adapter goes on to `adapter`; its new requests and the responses are those of `cmd`. -/
def advance (l : BatchingLedger) (cmd : Option BatchingCommand) (adapter : BatchingAdapter)
    (responses : List BatchingResponse) : BatchingLedger :=
  { l with
    adapter := adapter
    calls := l.calls ++
      (adapter.outstanding.drop l.adapter.outstanding.length).map fun r => ⟨cmd, r⟩
    reports := l.reports ++ responses.map fun r =>
      ⟨cmd, r, cmd.all fun cmd => cmd.Fulfilled adapter⟩ }

/-- A command is processed. -/
def procCommand (l : BatchingLedger) (kind : BatchingCommandKind) (client id : ℕ) : BatchingLedger :=
  let cmd : BatchingCommand := ⟨l.commands.length, kind, client, id⟩
  let l' : BatchingLedger := { l with
    commands := l.commands ++ [cmd]
    last := fun k => if k = id then some cmd else l.last k }
  l'.advance (some cmd) (l.adapter.procCommand cmd) (l.adapter.commandResponses cmd)

/-- What stopping the sessions of a removed client reports is no answer to a command. -/
def removeClient (l : BatchingLedger) (client : ℕ) : BatchingLedger :=
  let l' : BatchingLedger := { l with
    last := fun id => if l.adapter.isBatchingSession client id then none else l.last id }
  l'.advance none ((l.adapter.stopClientSessions client).eraseClient client) []

def step (l : BatchingLedger) : Event → Option BatchingLedger
  | .addClient client batchingCb => some (l.advance none (l.adapter.saveClient client batchingCb) [])
  | .removeClient client => some (l.removeClient client)
  | .command kind client id => some (l.procCommand kind client id)
  | .reportCompletedTrips distance memory =>
    some (l.advance none (l.adapter.procReportCompletedTrips distance memory) [])
  | .engineUp supported =>
    some (l.advance none (BatchingAdapter.restartSessions { l.adapter with
      distanceBatchingSupported := supported }) [])
  | .answer call err distance =>
    if call ∈ l.calls then
      let l' : BatchingLedger := { l with
        adapter := l.adapter.take call.request
        calls := l.calls.erase call }
      some (l'.advance call.cmd (l'.adapter.onAnswer call.request err distance)
        (l'.adapter.answerResponses err distance call.request))
    else none

def initial : BatchingLedger where
  adapter := .init
  calls := []
  commands := []
  reports := []
  last _ := none

def system : System BatchingLedger Event := .ofPartial initial step

/-! ### The property -/

/-- The command has been processed, and all of its requests have been answered. -/
structure Settled (l : BatchingLedger) (c : BatchingCommand) : Prop where
  processed : c ∈ l.commands
  answered : ∀ call ∈ l.calls, call.cmd ≠ some c

/-- There is one report for the command, to its client and with its session id; if it is of success,
the session was then in the state that the command had asked for. -/
def Answered (l : BatchingLedger) (c : BatchingCommand) : Prop :=
  ∃ r, (l.reports.filter fun r => r.cmd = some c) = [r] ∧ r.response.client = c.client ∧
    r.response.id = c.id ∧ (r.response.err = .SUCCESS → r.fulfilled = true)

/-! ### The condition -/

end BatchingLedger

namespace BatchingRequest

/-- The session for which the callback reports, now or later. -/
def session? : BatchingRequest → Option (ℕ × ℕ)
  | .startBatching client id _ | .stopBatching client id _ _ _ | .startTrip client id _
  | .joinTrip client id _ | .joinRestart client id | .stopTrip client id _ _ => some (client, id)
  | .queryTrips _ _ _ _ | .restartTrips _ _ _ | .restartSessions => none

end BatchingRequest

namespace BatchingLedger

/-- No session, trip or open request has the id. -/
def New (l : BatchingLedger) (id : ℕ) : Prop :=
  (∀ e ∈ l.adapter.mBatchingSessions.entries, e.1.id ≠ id) ∧ l.adapter.isTripSession id = false ∧
    ∀ call ∈ l.calls, ∀ session ∈ call.request.session?, session.2 ≠ id

/-- A start passes its checks, and has an id that is not in use; an update is for a saved session that
is no trip, with options; a stop is for a saved session, and if that is a trip for the last one. -/
def CommandAnswerable (l : BatchingLedger) (client id : ℕ) : BatchingCommandKind → Prop
  | .start options => l.adapter.hasBatchingCallback client = true ∧ options.size ≠ 0 ∧
      l.adapter.distanceBatchingSupported = true ∧ l.New id
  | .update options => l.adapter.isBatchingSession client id = true ∧ options.size ≠ 0 ∧
      l.adapter.isTripSession id = false
  | .stop => l.adapter.isBatchingSession client id = true ∧
      (l.adapter.isTripSession id = true → l.adapter.mTripSessions.size = 1)

/-- A start is accepted only if no later command for its session has been processed, and the trip has
not been completed; the stop of an update is refused; a trip joins the others if the engine answers or
if the batch has to start again; the stop of the last trip is refused. -/
def AnswerAnswerable (l : BatchingLedger) (cmd : Option BatchingCommand) (err : LocationError)
    (accumulatedDistance : ℕ) : BatchingRequest → Prop
  | .startBatching _ id _ => err = .SUCCESS → l.last id = cmd
  | .stopBatching _ _ _ restartNeeded _ => restartNeeded = true → err ≠ .SUCCESS
  | .startTrip _ id _ | .joinRestart _ id => err = .SUCCESS → l.adapter.isTripSession id = true
  | .joinTrip _ _ options => err ≠ .SUCCESS →
      (l.adapter.joinOngoing options (l.adapter.joinRemaining err accumulatedDistance)).isSome = true
  | .stopTrip client id _ _ => err = .SUCCESS → l.adapter.isBatchingSession client id = false
  | .queryTrips _ _ _ _ | .restartTrips _ _ _ | .restartSessions => True

def Answerable (l : BatchingLedger) : Event → Prop
  | .command kind client id => l.CommandAnswerable client id kind
  | .answer call err distance =>
    call.cmd ≠ none → l.AnswerAnswerable call.cmd err distance call.request
  | .addClient _ _ | .removeClient _ | .reportCompletedTrips _ _ | .engineUp _ => True

end BatchingLedger

/-! ### Requests -/

namespace BatchingRequest

/-- The session that is erased until the answer comes. -/
def stopKey? : BatchingRequest → Option LocationSessionKey
  | .stopBatching client id _ _ _ => some ⟨client, id⟩
  | .startBatching _ _ _ | .startTrip _ _ _ | .joinTrip _ _ _ | .joinRestart _ _ | .stopTrip _ _ _ _
  | .queryTrips _ _ _ _ | .restartTrips _ _ _ | .restartSessions => none

/-- The id of the session that is being started. -/
def startId? : BatchingRequest → Option ℕ
  | .startBatching _ id _ | .startTrip _ id _ | .joinTrip _ id _ | .joinRestart _ id => some id
  | .stopBatching _ _ _ _ _ | .stopTrip _ _ _ _ | .queryTrips _ _ _ _ | .restartTrips _ _ _
  | .restartSessions => none

/-- The id of the trip that is being started. -/
def tripId? : BatchingRequest → Option ℕ
  | .startTrip _ id _ | .joinTrip _ id _ | .joinRestart _ id => some id
  | .startBatching _ _ _ | .stopBatching _ _ _ _ _ | .stopTrip _ _ _ _ | .queryTrips _ _ _ _
  | .restartTrips _ _ _ | .restartSessions => none

end BatchingRequest

/-- The command of a request. -/
def BatchingCall.Ok (call : BatchingCall) : Prop :=
  match call.request with
  | .startBatching client id options => ∃ c, call.cmd = some c ∧ c.client = client ∧ c.id = id ∧
      c.kind = .start options ∧ options.batchingMode ≠ .TRIP
  | .startTrip client id options | .joinTrip client id options => ∃ c, call.cmd = some c ∧
      c.client = client ∧ c.id = id ∧ c.kind = .start options ∧ options.batchingMode = .TRIP
  | .joinRestart client id => ∃ c, call.cmd = some c ∧ c.client = client ∧ c.id = id ∧
      ∃ options, c.kind = .start options ∧ options.batchingMode = .TRIP
  | .stopBatching client id _ restartNeeded options => (call.cmd = none → restartNeeded = false) ∧
      ∀ c ∈ call.cmd, c.client = client ∧ c.id = id ∧
        c.kind = if restartNeeded then .update options else .stop
  | .stopTrip client id restartNeeded _ => restartNeeded = false ∧
      ∀ c ∈ call.cmd, c.client = client ∧ c.id = id ∧ c.kind = .stop
  | .queryTrips _ _ _ _ | .restartTrips _ _ _ | .restartSessions => True

namespace BatchingAdapter

section

variable {s s' s'' : BatchingAdapter} {news news' : List BatchingRequest} {client id : ℕ}
  {options : BatchingOptions} {err : LocationError}

/-- The sessions stay as they are, and trips may be gone; there are only inert requests. -/
structure Mild (s s' : BatchingAdapter) (news : List BatchingRequest) : Prop where
  sessions : s'.mBatchingSessions = s.mBatchingSessions
  trips : ∀ id v, s'.trip id = some v → s.trip id = some v
  outstanding : s'.outstanding = s.outstanding ++ news
  quiet : ∀ r ∈ news, r.session? = none

theorem Mild.refl : Mild s s [] :=
  ⟨rfl, fun _ _ h => h, (List.append_nil _).symm, fun _ h => absurd h List.not_mem_nil⟩

theorem Mild.trans (h : Mild s s' news) (h' : Mild s' s'' news') : Mild s s'' (news ++ news') where
  sessions := h'.sessions.trans h.sessions
  trips id v hv := h.trips id v (h'.trips id v hv)
  outstanding := by rw [h'.outstanding, h.outstanding, List.append_assoc]
  quiet r hr := (List.mem_append.mp hr).elim (h.quiet r) (h'.quiet r)

theorem mild_of_eq (hs : s'.mBatchingSessions = s.mBatchingSessions)
    (ht : s'.mTripSessions = s.mTripSessions) (ho : s'.outstanding = s.outstanding) :
    Mild s s' [] := by
  refine ⟨hs, fun id v hv => ?_, ho.trans (List.append_nil _).symm,
    fun _ h => absurd h List.not_mem_nil⟩
  unfold trip at hv ⊢
  rwa [ht] at hv

theorem mild_noteWrap {b : Bool} : Mild s (s.noteWrap b) [] := mild_of_eq rfl rfl rfl

theorem mild_setOngoing {distance interval : ℕ} : Mild s (s.setOngoing distance interval) [] :=
  mild_of_eq rfl rfl rfl

theorem mild_setBatchFull {b : Bool} : Mild s (s.setBatchFull b) [] := mild_of_eq rfl rfl rfl

theorem mild_dropTrip {st : TripSessionStatus} : Mild s (s.dropTrip st) [] := mild_of_eq rfl rfl rfl

theorem mild_completedTrips {l : List (List ℕ)} : Mild s { s with completedTrips := l } [] :=
  mild_of_eq rfl rfl rfl

theorem mild_reportStart : Mild s (s.reportStart client id err) [] := mild_of_eq rfl rfl rfl

theorem mild_request {r : BatchingRequest} (hr : r.session? = none) : Mild s (s.request r) [r] where
  sessions := rfl
  trips _ _ h := h
  outstanding := rfl
  quiet r' hr' := by rw [List.mem_singleton.mp hr', hr]

theorem trip_mapValues {f : TripSessionStatus → TripSessionStatus}
    (hf : ∀ st, (f st).tripDistance = st.tripDistance ∧ (f st).tripTBFInterval = st.tripTBFInterval) :
    (s.setTripSessions (s.mTripSessions.mapValues f)).trip id = s.trip id := by
  unfold trip
  show ((s.mTripSessions.mapValues f).find id).map _ = _
  rw [OrdMap.find_mapValues, Option.map_map]
  congr 1
  funext st
  exact Prod.ext (hf st).1 (hf st).2

theorem mild_mapValues {f : TripSessionStatus → TripSessionStatus}
    (hf : ∀ st, (f st).tripDistance = st.tripDistance ∧ (f st).tripTBFInterval = st.tripTBFInterval) :
    Mild s (s.setTripSessions (s.mTripSessions.mapValues f)) [] where
  sessions := rfl
  trips _ _ hv := (trip_mapValues hf).symm.trans hv
  outstanding := (List.append_nil _).symm
  quiet _ h := absurd h List.not_mem_nil

theorem mild_eraseTrip : Mild s (s.setTripSessions (s.mTripSessions.erase id)) [] where
  sessions := rfl
  trips id' v hv := by
    unfold trip at hv ⊢
    change ((s.mTripSessions.erase id).find id').map _ = some v at hv
    rw [OrdMap.find_erase] at hv
    split at hv
    · cases hv
    · exact hv
  outstanding := (List.append_nil _).symm
  quiet _ h := absurd h List.not_mem_nil

theorem mild_ite {p : Prop} [Decidable p] (h : Mild s s' news) (h' : Mild s s'' news) :
    Mild s (if p then s' else s'') news := by
  split
  · exact h
  · exact h'

theorem mild_restartTripBatching (queryAccumulatedDistance : Bool) (accDist : ℕ) :
    ∃ news, Mild s (s.restartTripBatching queryAccumulatedDistance accDist) news := by
  unfold restartTripBatching
  split
  · exact ⟨_, mild_ite (mild_setOngoing.trans mild_setBatchFull) mild_setOngoing⟩
  · exact ⟨_, mild_noteWrap.trans (mild_request rfl)⟩

theorem mild_onQueryTrips (queryAccumulatedDistance : Bool)
    (minRemainingDistance minTBFInterval accDist accumulatedDistance : ℕ) :
    ∃ news, Mild s (s.onQueryTrips queryAccumulatedDistance minRemainingDistance minTBFInterval
      accDist accumulatedDistance) news := by
  generalize h : s.onQueryTrips queryAccumulatedDistance minRemainingDistance minTBFInterval accDist
    accumulatedDistance = t
  unfold onQueryTrips at h
  extract_lets _ _ distance interval at h
  split at h
  · exact h ▸ ⟨_, mild_noteWrap.trans (mild_request rfl)⟩
  · exact h ▸ ⟨_, mild_noteWrap⟩

theorem mild_onRestartTrips (accumulatedDistance ongoingTripDistance ongoingTripInterval : ℕ) :
    Mild s (s.onRestartTrips accumulatedDistance ongoingTripDistance ongoingTripInterval err) [] := by
  unfold onRestartTrips
  split
  · have hmap : Mild (s.noteWrap (s.distanceWraps accumulatedDistance)) _ [] :=
      mild_mapValues (f := fun st => (st.report accumulatedDistance).rebase) fun _ => ⟨rfl, rfl⟩
    exact (mild_noteWrap.trans hmap).trans mild_setOngoing
  · exact .refl

theorem mild_restartSessions : ∃ news, Mild s s.restartSessions news := by
  unfold restartSessions
  rw [ite_setBatchFull]
  generalize (if 0 < s.autoReportBatchingSessionsCount then true else s.batchFull) = b
  simp only
  split
  · exact ⟨_, ((mild_setBatchFull.trans mild_noteWrap).trans mild_setOngoing).trans
      (mild_request rfl)⟩
  · exact ⟨_, mild_setBatchFull⟩

theorem mild_procReportCompletedTrips (accumulatedDistance : ℕ) (memory : ℕ → TripSessionStatus) :
    ∃ news, Mild s (s.procReportCompletedTrips accumulatedDistance memory) news := by
  have hdrop : ∀ (l : List ℕ) (s : BatchingAdapter),
      Mild s (l.foldl (fun s id => s.dropTrip (memory id)) s) [] := by
    intro l
    induction l with
    | nil => exact fun _ => .refl
    | cons id l ih => exact fun s => mild_dropTrip.trans (ih (s.dropTrip (memory id)))
  have hreport (st st' : TripSessionStatus) (h : reportTrip accumulatedDistance st = some st') :
      st'.tripDistance = st.tripDistance ∧ st'.tripTBFInterval = st.tripTBFInterval := by
    unfold reportTrip at h
    split at h
    · cases h
    · obtain rfl := Option.some.inj h
      exact ⟨rfl, rfl⟩
  have hfilter (s : BatchingAdapter) : Mild s (s.setTripSessions
      (s.mTripSessions.filterMap fun _ st => reportTrip accumulatedDistance st)) [] := by
    refine ⟨rfl, fun id v hv => ?_, (List.append_nil _).symm, fun _ h => absurd h List.not_mem_nil⟩
    unfold trip at hv ⊢
    change ((s.mTripSessions.filterMap _).find id).map _ = some v at hv
    rw [OrdMap.find_filterMap] at hv
    obtain ⟨st', hst', rfl⟩ := Option.map_eq_some_iff.mp hv
    obtain ⟨st, hst, hrep⟩ := Option.bind_eq_some_iff.mp hst'
    rw [hst, Option.map_some, (hreport st st' hrep).1, (hreport st st' hrep).2]
  unfold procReportCompletedTrips
  simp only
  have hbefore := (mild_noteWrap.trans
    (hfilter (s.noteWrap (s.distanceWraps accumulatedDistance)))).trans
      (hdrop (s.completedTripsList accumulatedDistance) _)
  split
  · obtain ⟨news, hnews⟩ := mild_restartTripBatching (s := _) false accumulatedDistance
    exact ⟨_, (hbefore.trans mild_completedTrips).trans hnews⟩
  · exact ⟨_, hbefore⟩

theorem Mild.trip_eq_none (h : Mild s s' news) (hnone : s.trip id = none) : s'.trip id = none := by
  refine Option.eq_none_iff_forall_not_mem.mpr fun v hv => ?_
  rw [h.trips id v hv] at hnone
  cases hnone

/-- The stop of a trip that is not started again. -/
theorem mild_stopTripBatchingMultiplexCommon (s : BatchingAdapter) (err : LocationError)
    (client id : ℕ) (options : BatchingOptions) : ∃ news,
    Mild s (s.stopTripBatchingMultiplexCommon err client id false options) news ∧
      (s.stopTripBatchingMultiplexCommon err client id false options).trip id = none := by
  have hbefore : Mild s ((s.dropTrip (s.tripStatus id)).setTripSessions
      ((s.dropTrip (s.tripStatus id)).mTripSessions.erase id)) [] :=
    mild_dropTrip.trans mild_eraseTrip
  have hgone : ((s.dropTrip (s.tripStatus id)).setTripSessions
      ((s.dropTrip (s.tripStatus id)).mTripSessions.erase id)).trip id = none := by
    show ((s.mTripSessions.erase id).find id).map _ = none
    rw [OrdMap.find_erase, if_pos rfl]
    rfl
  have hreport (s : BatchingAdapter) : Mild s (s.reportStop client id err) [] :=
    mild_ite (mild_of_eq rfl rfl rfl) .refl
  unfold stopTripBatchingMultiplexCommon
  simp only [Bool.false_eq_true, if_false]
  split
  · exact ⟨_, (hbefore.trans mild_setOngoing).trans (hreport _),
      (mild_setOngoing.trans (hreport _)).trip_eq_none hgone⟩
  · obtain ⟨news, hnews⟩ := mild_restartTripBatching (s := _) true 0
    exact ⟨_, (hbefore.trans hnews).trans (hreport _), (hnews.trans (hreport _)).trip_eq_none hgone⟩

end

end BatchingAdapter

/-! ### Sessions and open requests -/

def stopKeys (calls : List BatchingCall) : List LocationSessionKey :=
  calls.filterMap fun call => call.request.stopKey?

def startIds (calls : List BatchingCall) : List ℕ :=
  calls.filterMap fun call => call.request.startId?

/-- The open requests and the maps: a session is erased while it is being stopped, a trip that joins
the others is not saved, and a start finds what it has saved if it has not been overtaken. -/
structure Sound (s : BatchingAdapter) (calls : List BatchingCall)
    (last : ℕ → Option BatchingCommand) : Prop where
  ok : ∀ call ∈ calls, call.Ok
  stops : (stopKeys calls).Nodup
  starts : (startIds calls).Nodup
  erased : ∀ k ∈ stopKeys calls, s.mBatchingSessions.find k = none
  stopped : ∀ call ∈ calls, call.cmd ≠ none → ∀ k ∈ call.request.stopKey?, s.trip k.id = none
  joining : ∀ call ∈ calls, ∀ client id options, call.request = .joinTrip client id options →
    ∀ k : LocationSessionKey, k.id = id → s.mBatchingSessions.find k = none ∧ k ∉ stopKeys calls
  trips : ∀ call ∈ calls, ∀ id ∈ call.request.tripId?, ∀ c options, call.cmd = some c →
    c.kind = .start options → ∀ v, s.trip id = some v → v = (options.minDistance, options.minInterval)
  saved : ∀ call ∈ calls, ∀ client id options, call.request = .startBatching client id options →
    last id = call.cmd → s.mBatchingSessions.find ⟨client, id⟩ = some options

section

variable {s s' : BatchingAdapter} {calls calls' : List BatchingCall} {call : BatchingCall}
  {last last' : ℕ → Option BatchingCommand} {news : List BatchingRequest} {client id : ℕ}
  {options : BatchingOptions} {cmd : Option BatchingCommand} {k : LocationSessionKey}

theorem mem_startIds_of_tripId (h : call ∈ calls) (hid : call.request.tripId? = some id) :
    id ∈ startIds calls := by
  refine List.mem_filterMap.mpr ⟨call, h, ?_⟩
  revert hid
  cases call.request with
  | startTrip | joinTrip | joinRestart => exact fun hid => hid
  | startBatching | stopBatching | stopTrip | queryTrips | restartTrips | restartSessions =>
    exact fun hid => by cases hid

theorem Sound.perm (h : Sound s calls last) (hp : calls'.Perm calls) : Sound s calls' last where
  ok call hcall := h.ok call (hp.mem_iff.mp hcall)
  stops := (hp.filterMap _).nodup_iff.mpr h.stops
  starts := (hp.filterMap _).nodup_iff.mpr h.starts
  erased k hk := h.erased k ((hp.filterMap _).mem_iff.mp hk)
  stopped call hcall := h.stopped call (hp.mem_iff.mp hcall)
  joining call hcall client id options hr k hk := by
    obtain ⟨hfind, hnot⟩ := h.joining call (hp.mem_iff.mp hcall) client id options hr k hk
    exact ⟨hfind, fun hmem => hnot ((hp.filterMap _).mem_iff.mp hmem)⟩
  trips call hcall := h.trips call (hp.mem_iff.mp hcall)
  saved call hcall := h.saved call (hp.mem_iff.mp hcall)

theorem stopKeys_cons : stopKeys (call :: calls) = call.request.stopKey?.toList ++ stopKeys calls := by
  unfold stopKeys
  rw [List.filterMap_cons]
  cases call.request.stopKey? with
  | none => rfl
  | some k => rfl

theorem startIds_cons : startIds (call :: calls) = call.request.startId?.toList ++ startIds calls := by
  unfold startIds
  rw [List.filterMap_cons]
  cases call.request.startId? with
  | none => rfl
  | some id => rfl

/-- A request has been answered. -/
theorem Sound.tail (h : Sound s (call :: calls) last) : Sound s calls last where
  ok call' hcall := h.ok call' (List.mem_cons_of_mem _ hcall)
  stops := by
    have hstops := h.stops
    rw [stopKeys_cons] at hstops
    exact (List.nodup_append.mp hstops).2.1
  starts := by
    have hstarts := h.starts
    rw [startIds_cons] at hstarts
    exact (List.nodup_append.mp hstarts).2.1
  erased k hk := h.erased k (by
    rw [stopKeys_cons]
    exact List.mem_append_right _ hk)
  stopped call' hcall := h.stopped call' (List.mem_cons_of_mem _ hcall)
  joining call' hcall client id options hr k hk := by
    obtain ⟨hfind, hnot⟩ :=
      h.joining call' (List.mem_cons_of_mem _ hcall) client id options hr k hk
    refine ⟨hfind, fun hmem => hnot ?_⟩
    rw [stopKeys_cons]
    exact List.mem_append_right _ hmem
  trips call' hcall := h.trips call' (List.mem_cons_of_mem _ hcall)
  saved call' hcall := h.saved call' (List.mem_cons_of_mem _ hcall)

/-- A request is sent. -/
theorem Sound.cons (h : Sound s calls last) (hok : call.Ok)
    (hstop : ∀ k ∈ call.request.stopKey?, k ∉ stopKeys calls ∧ s.mBatchingSessions.find k = none ∧
      (call.cmd ≠ none → s.trip k.id = none) ∧ ∀ call' ∈ calls, ∀ client options,
        call'.request ≠ .joinTrip client k.id options)
    (hstart : ∀ id ∈ call.request.startId?, id ∉ startIds calls)
    (hjoin : ∀ client id options, call.request = .joinTrip client id options →
      ∀ k : LocationSessionKey, k.id = id → s.mBatchingSessions.find k = none ∧ k ∉ stopKeys calls)
    (htrip : ∀ id ∈ call.request.tripId?, ∀ c options, call.cmd = some c →
      c.kind = .start options → ∀ v, s.trip id = some v →
        v = (options.minDistance, options.minInterval))
    (hsaved : ∀ client id options, call.request = .startBatching client id options →
      last id = call.cmd → s.mBatchingSessions.find ⟨client, id⟩ = some options) :
    Sound s (call :: calls) last where
  ok := List.forall_mem_cons.mpr ⟨hok, h.ok⟩
  stops := by
    rw [stopKeys_cons]
    refine List.nodup_append.mpr ⟨?_, h.stops, fun k hk k' hk' heq => ?_⟩
    · cases call.request.stopKey? with
      | none => exact List.nodup_nil
      | some k => exact List.nodup_singleton k
    · exact (hstop k (Option.mem_toList.mp hk)).1 (heq ▸ hk')
  starts := by
    rw [startIds_cons]
    refine List.nodup_append.mpr ⟨?_, h.starts, fun id hid id' hid' heq => ?_⟩
    · cases call.request.startId? with
      | none => exact List.nodup_nil
      | some id => exact List.nodup_singleton id
    · exact hstart id (Option.mem_toList.mp hid) (heq ▸ hid')
  erased k hk := by
    rw [stopKeys_cons] at hk
    rcases List.mem_append.mp hk with hk | hk
    · exact (hstop k (Option.mem_toList.mp hk)).2.1
    · exact h.erased k hk
  stopped := List.forall_mem_cons.mpr ⟨fun hcmd k hk => (hstop k hk).2.2.1 hcmd, h.stopped⟩
  joining := by
    intro call' hcall client id options hr k hk
    rw [stopKeys_cons, List.mem_append, not_or, Option.mem_toList]
    rcases List.mem_cons.mp hcall with rfl | hcall
    · obtain ⟨hfind, hnot⟩ := hjoin client id options hr k hk
      refine ⟨hfind, ?_, hnot⟩
      rw [hr]
      exact fun heq => by cases heq
    · obtain ⟨hfind, hnot⟩ := h.joining call' hcall client id options hr k hk
      exact ⟨hfind, fun hmem => (hstop k hmem).2.2.2 call' hcall client options (hk ▸ hr), hnot⟩
  trips := List.forall_mem_cons.mpr ⟨htrip, h.trips⟩
  saved := List.forall_mem_cons.mpr ⟨hsaved, h.saved⟩

/-- A request that neither starts nor stops a saved session is sent. -/
theorem Sound.inert (h : Sound s calls last) (hok : call.Ok) (hstop : call.request.stopKey? = none)
    (hstart : call.request.startId? = none) : Sound s (call :: calls) last := by
  refine h.cons hok (fun k hk => ?_) (fun id hid => ?_) (fun client id options hr => ?_)
    (fun id hid => ?_) fun client id options hr => ?_
  · rw [hstop] at hk
    cases hk
  · rw [hstart] at hid
    cases hid
  · rw [hr] at hstart
    cases hstart
  · have hmem := mem_startIds_of_tripId (List.mem_singleton.mpr rfl) hid
    rw [startIds_cons, hstart] at hmem
    cases hmem
  · rw [hr] at hstart
    cases hstart

/-- Quiet requests are sent. -/
theorem Sound.quiet (h : Sound s calls last) (hquiet : ∀ r ∈ news, r.session? = none) :
    Sound s (calls ++ news.map fun r => ⟨cmd, r⟩) last := by
  refine Sound.perm ?_ List.perm_append_comm
  induction news with
  | nil => exact h
  | cons r news ih =>
    have hr := hquiet r List.mem_cons_self
    refine (ih fun r hr => hquiet r (List.mem_cons_of_mem _ hr)).inert ?_ ?_ ?_
    · cases r with
      | queryTrips | restartTrips | restartSessions => trivial
      | startBatching | stopBatching | startTrip | joinTrip | joinRestart | stopTrip => cases hr
    · cases r with
      | queryTrips | restartTrips | restartSessions => rfl
      | startBatching | stopBatching | startTrip | joinTrip | joinRestart | stopTrip => cases hr
    · cases r with
      | queryTrips | restartTrips | restartSessions => rfl
      | startBatching | stopBatching | startTrip | joinTrip | joinRestart | stopTrip => cases hr

/-- The sessions stay as they are, and trips may be gone. -/
theorem Sound.shrink (h : Sound s calls last) (hs : s'.mBatchingSessions = s.mBatchingSessions)
    (ht : ∀ id v, s'.trip id = some v → s.trip id = some v) : Sound s' calls last where
  ok := h.ok
  stops := h.stops
  starts := h.starts
  erased k hk := by
    rw [hs]
    exact h.erased k hk
  stopped call hcall hcmd k hk := by
    refine Option.eq_none_iff_forall_not_mem.mpr fun v hv => ?_
    have hnone := h.stopped call hcall hcmd k hk
    rw [ht k.id v hv] at hnone
    cases hnone
  joining := by
    rw [hs]
    exact h.joining
  trips call hcall id hid c options hcmd hkind v hv :=
    h.trips call hcall id hid c options hcmd hkind v (ht id v hv)
  saved := by
    rw [hs]
    exact h.saved

theorem Sound.mild (h : Sound s calls last) (hm : s.Mild s' news) : Sound s' calls last :=
  h.shrink hm.sessions hm.trips

/-- A session is saved. -/
theorem Sound.save (h : Sound s calls last)
    (hstop : (⟨client, id⟩ : LocationSessionKey) ∉ stopKeys calls)
    (hjoin : ∀ call ∈ calls, ∀ client' options', call.request ≠ .joinTrip client' id options')
    (hsaved : ∀ call ∈ calls, ∀ options', call.request = .startBatching client id options' →
      last id = call.cmd → options' = options) :
    Sound (s.saveBatchingSession client id options) calls last := by
  have hfind {k : LocationSessionKey} (hk : k ≠ ⟨client, id⟩) :
      (s.mBatchingSessions.insert ⟨client, id⟩ options).find k = s.mBatchingSessions.find k := by
    rw [OrdMap.find_insert, if_neg hk]
  refine ⟨h.ok, h.stops, h.starts, fun k hk => ?_, h.stopped, ?_, h.trips, ?_⟩
  · exact (hfind fun heq => hstop (heq ▸ hk)).trans (h.erased k hk)
  · intro call hcall client' id' options' hr k hk
    obtain ⟨hnone, hnot⟩ := h.joining call hcall client' id' options' hr k hk
    refine ⟨(hfind fun heq => ?_).trans hnone, hnot⟩
    obtain rfl : id = id' := by rw [← hk, heq]
    exact hjoin call hcall client' options' hr
  · intro call hcall client' id' options' hr hlast
    by_cases hk : (⟨client', id'⟩ : LocationSessionKey) = ⟨client, id⟩
    · obtain ⟨rfl, rfl⟩ := LocationSessionKey.mk.inj hk
      rw [hsaved call hcall options' hr hlast]
      exact (OrdMap.find_insert).trans (if_pos rfl)
    · exact (hfind hk).trans (h.saved call hcall client' id' options' hr hlast)

/-- A session is erased. -/
theorem Sound.erase (h : Sound s calls last)
    (hsaved : ∀ call ∈ calls, ∀ options, call.request = .startBatching client id options →
      last id ≠ call.cmd) : Sound (s.eraseBatchingSession client id) calls last := by
  have hfind (k : LocationSessionKey) : s.mBatchingSessions.find k = none →
      (s.mBatchingSessions.erase ⟨client, id⟩).find k = none := by
    intro hnone
    rw [OrdMap.find_erase, hnone, ite_self]
  refine ⟨h.ok, h.stops, h.starts, fun k hk => hfind k (h.erased k hk), h.stopped, ?_, h.trips, ?_⟩
  · intro call hcall client' id' options hr k hk
    exact (h.joining call hcall client' id' options hr k hk).imp_left (hfind k)
  · intro call hcall client' id' options hr hlast
    refine (OrdMap.find_erase).trans ((if_neg fun hk => ?_).trans
      (h.saved call hcall client' id' options hr hlast))
    obtain ⟨rfl, rfl⟩ := LocationSessionKey.mk.inj hk
    exact hsaved call hcall options hr hlast

/-- A trip is saved. -/
theorem Sound.insertTrip (h : Sound s calls last) {st : TripSessionStatus}
    (hstop : ∀ call ∈ calls, call.cmd ≠ none → ∀ k ∈ call.request.stopKey?, k.id ≠ id)
    (htrip : id ∉ startIds calls) :
    Sound (s.setTripSessions (s.mTripSessions.insert id st)) calls last := by
  have hfind {id' : ℕ} (hid : id' ≠ id) :
      (s.setTripSessions (s.mTripSessions.insert id st)).trip id' = s.trip id' := by
    show ((s.mTripSessions.insert id st).find id').map _ = _
    rw [OrdMap.find_insert, if_neg hid]
    rfl
  refine ⟨h.ok, h.stops, h.starts, h.erased, fun call hcall hcmd k hk => ?_, h.joining, ?_, h.saved⟩
  · exact (hfind (hstop call hcall hcmd k hk)).trans (h.stopped call hcall hcmd k hk)
  · intro call hcall id' hid c options hcmd hkind v hv
    rw [hfind fun heq => htrip (heq ▸ mem_startIds_of_tripId hcall hid)] at hv
    exact h.trips call hcall id' hid c options hcmd hkind v hv

/-- Another command is the last one of a session. -/
theorem Sound.overtake (h : Sound s calls last)
    (hlast : ∀ call ∈ calls, ∀ client id options, call.request = .startBatching client id options →
      last' id = call.cmd → last id = call.cmd) : Sound s calls last' :=
  { h with
    saved := fun call hcall client id options hr hl =>
      h.saved call hcall client id options hr (hlast call hcall client id options hr hl) }

end

end GpsHal
