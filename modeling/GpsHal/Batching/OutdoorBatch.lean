import GpsHal.Batching.TripDistance
import GpsHal.Util.FirstLeast
import GpsHal.Util.Fold

/-!
# `BatchingAdapter` : what the engine runs the outdoor batch with

The engine reports a completion when it has counted the distance with which the outdoor batch has
been started.  The adapter has to start the batch again when that would come too late for a trip,
and when the trip whose interval the batch has is gone.  The distance and the interval that it asks
for are computed from the trips when `restartTripBatching` or `restartSessions` is called, and
compared with those of the batch when the engine answers.

## Main definitions

* `OutdoorBatch`, `SentRequest`, `OutdoorEngine` : the adapter and the engine, with the batch that
  the engine runs.
* `OutdoorEngine.Keeps` : the condition on each event.
* `OutdoorEngine.InForce` : the batch suits the trips.
* `OutdoorEngine.Programmed` : what a restart of the trips leaves behind.
-/

namespace GpsHal

/-- The distance and the interval that the engine has been asked for. -/
structure OutdoorBatch where
  tripDistance : ℕ
  tripTBFInterval : ℕ
  deriving DecidableEq, Repr

/-- A request under way, with the state in which it has been sent. -/
structure SentRequest where
  request : BatchingRequest
  state : TripEngine

namespace SentRequest

variable (x : SentRequest)

/-- What a request asks for that starts the batch for trips whose counters have been set. -/
def startedWith : Option OutdoorBatch :=
  match x.request with
  | .startTrip _ _ options => some ⟨options.minDistance, options.minInterval⟩
  | .joinRestart .. | .restartSessions =>
    some ⟨x.state.adapter.mOngoingTripDistance, x.state.adapter.mOngoingTripTBFInterval⟩
  | .startBatching .. | .stopBatching .. | .joinTrip .. | .stopTrip .. | .queryTrips .. |
    .restartTrips .. => none

/-- The batch that the engine runs when it has taken the request. -/
def runs (batch : Option OutdoorBatch) : Option OutdoorBatch :=
  match x.request with
  | .startTrip .. | .joinRestart .. | .restartSessions => x.startedWith
  | .restartTrips _ distance interval => some ⟨distance, interval⟩
  | .stopTrip .. => none
  | .startBatching .. | .stopBatching .. | .joinTrip .. | .queryTrips .. => batch

end SentRequest

namespace BatchingRequest

/-- The request belongs to `restartTripBatching` or `restartSessions`. -/
def restarts : BatchingRequest → Bool
  | queryTrips .. | restartTrips .. | restartSessions => true
  | startBatching .. | stopBatching .. | startTrip .. | joinTrip .. | joinRestart .. |
    stopTrip .. => false

end BatchingRequest

/-- The adapter and the engine, with the batch that the engine runs and the requests under way. -/
structure OutdoorEngine where
  trip : TripEngine
  batch : Option OutdoorBatch
  sent : List SentRequest

namespace OutdoorEngine

def init : OutdoorEngine := ⟨TripEngine.init, none, []⟩

variable (s : OutdoorEngine)

/-- The engine takes the oldest request. -/
def pop : OutdoorEngine :=
  match s.sent with
  | [] => s
  | x :: rest => { s with
      batch := x.runs s.batch
      sent := rest }

/-- The adapter goes on to `t`, and the requests that it has sent are noted. -/
def follow (t : TripEngine) : OutdoorEngine := { s with
  trip := t
  sent := s.sent ++ (t.adapter.outstanding.drop s.sent.length).map fun r => ⟨r, t⟩ }

def step (e : TripEvent) : Option OutdoorEngine :=
  (s.trip.step e).map
    (match e with
    | .answer => s.pop.follow
    | .count .. | .addClient .. | .startBatching .. | .updateBatchingOptions .. |
      .stopBatching .. | .reportCompletedTrips .. | .engineUp .. => s.follow)

def system : System OutdoorEngine TripEvent := .ofPartial init step

/-! ### What a restart leaves behind -/

/-- `s` has the trip `id` with the status `st`. -/
def HasTrip (id : ℕ) (st : TripSessionStatus) : Prop :=
  s.trip.adapter.mTripSessions.find id = some st

/-- The batch that runs has at most as much of its distance left as any trip has of its own, and the
least interval of the trips. -/
def InForce : Prop := ∃ batch, s.batch = some batch ∧
  (∀ id st, s.HasTrip id st →
    batch.tripDistance + s.trip.total id ≤ st.tripDistance + s.trip.counter) ∧
  (∀ id st, s.HasTrip id st → batch.tripTBFInterval ≤ st.tripTBFInterval) ∧
  ∃ id st, s.HasTrip id st ∧ st.tripTBFInterval = batch.tripTBFInterval

variable {s} in
/-- When a restart is over, the batch is in force for the trips that are left; and a restart of the
sessions resets the counters for the ongoing batch. -/
def Programmed (s : OutdoorEngine) (e : TripEvent) (s' : OutdoorEngine) : Prop :=
  match e with
  | .answer => ∀ r rest, s.trip.adapter.outstanding = r :: rest → r.restarts = true →
      s'.trip.adapter.outstanding = rest → (∃ id st, s'.HasTrip id st) → s'.InForce
  | .engineUp _ => ∀ id st, s'.HasTrip id st → st.accumulatedDistanceOngoingBatch = 0
  | .count .. | .addClient .. | .startBatching .. | .updateBatchingOptions .. |
    .stopBatching .. | .reportCompletedTrips .. => True

/-! ### The condition on an event -/

/-- No trip has less left than some trip of `m` was known to have, unless it awaits its start. -/
def KnownWithin (m : OrdMap ℕ TripSessionStatus) : Prop :=
  ∀ id st, s.HasTrip id st → s.trip.adapter.Awaited id ∨
    ∃ id₀ st₀, m.find id₀ = some st₀ ∧ st₀.remaining + s.trip.total id ≤ st.tripDistance

/-- The least interval of the trips is that of the trips of `m`. -/
structure SameInterval (m : OrdMap ℕ TripSessionStatus) : Prop where
  le : ∀ id st, s.HasTrip id st →
    ∃ id₀ st₀, m.find id₀ = some st₀ ∧ st₀.tripTBFInterval ≤ st.tripTBFInterval
  ge : ∃ id st, s.HasTrip id st ∧
    ∀ id₀ st₀, m.find id₀ = some st₀ → st.tripTBFInterval ≤ st₀.tripTBFInterval

/-- None of the trips of `m` makes the batch start with another distance, when `accumulatedDistance`
has been covered. -/
def DistanceStays (m : OrdMap ℕ TripSessionStatus) (accumulatedDistance : ℕ) : Prop :=
  let remaining := uint32Sub s.trip.adapter.mOngoingTripDistance accumulatedDistance
  if s.trip.adapter.mTripWithOngoingTripDistanceDropped = false ∧ remaining ≠ 0 then
    ∀ id st, m.find id = some st → remaining ≤ st.remaining
  else ∃ id st, m.find id = some st ∧ st.remaining = 0

/-- What the query of `restartTripBatching` has to find that was sent for the trips of `m`.  The
distance that was known to be left is used only if no trip has come closer to its end since, and the
distance of the batch is used again only if it is not too long for a trip. -/
structure QueryKeeps (m : OrdMap ℕ TripSessionStatus) (accumulatedDistance : ℕ) : Prop where
  settled : ¬ s.trip.adapter.Resetting
  distances : ZeroLast TripSessionStatus.remaining m.values
  intervals : ZeroLast TripSessionStatus.tripTBFInterval m.values
  interval : s.SameInterval m
  changes : ¬ s.DistanceStays m accumulatedDistance → s.KnownWithin m
  stays : s.DistanceStays m accumulatedDistance →
    s.trip.adapter.mTripWithOngoingTBFDropped = true →
    (∀ id st, s.HasTrip id st → st.tripTBFInterval ≠ s.trip.adapter.mOngoingTripTBFInterval) →
    ∀ id st, s.HasTrip id st →
      s.trip.adapter.mOngoingTripDistance + s.trip.total id ≤ st.tripDistance

/-- What the restart has to find that was sent in the state `t`. -/
structure RestartKeeps (t : TripEngine) : Prop where
  settled : ¬ s.trip.adapter.Resetting
  interval : s.SameInterval t.adapter.mTripSessions
  distance : ∀ id st, s.HasTrip id st → ∃ id₀ st₀, t.adapter.mTripSessions.find id₀ = some st₀ ∧
    st₀.tripDistance + s.trip.total id ≤ st.tripDistance + t.total id₀

/-- What a request has to find when the engine takes it: a trip that joins finds the batch under way
and within its distance; the last trip that is stopped is the only one; a restart of the trips finds
what it was sent for. -/
def RequestKeeps (x : SentRequest) (rest : List SentRequest) : Prop :=
  match x.request with
  | .joinTrip _ id _ => (∃ id st, s.HasTrip id st) ∧ (∀ st, ¬ s.HasTrip id st) ∧
      (∀ id, ¬ s.trip.adapter.Awaited id) ∧
      s.trip.counter ≤ s.trip.adapter.mOngoingTripDistance ∧
      (s.trip.adapter.Resetting → s.trip.counter = 0)
  | .stopTrip _ id _ _ => (∃ st, s.HasTrip id st) ∧ ¬ s.trip.adapter.Awaited id ∧
      ∀ id' st, s.HasTrip id' st → id' = id
  | .queryTrips queryAccumulatedDistance _ _ accDist => (∃ id st, s.HasTrip id st) →
      s.QueryKeeps x.state.adapter.mTripSessions
        (if queryAccumulatedDistance then s.trip.counter else accDist)
  | .restartTrips .. => (∃ id st, s.HasTrip id st) → s.RestartKeeps x.state
  | .restartSessions => (∃ id st, s.HasTrip id st) →
      (∀ y ∈ rest, y.request.startsBatch = false) ∧
      s.SameInterval x.state.adapter.mTripSessions
  | .startBatching .. | .stopBatching .. | .startTrip .. | .joinRestart .. => True

/-- The condition on an event.  While a start of the batch is under way nothing is counted for trips
that have begun.  A report finds no trip that awaits its start, and what it reads of a completed trip
has the interval of the batch if the trip has.  A restart of the engine finds the trips with what they
have left, and none that has joined the ongoing batch after it was started. -/
def Keeps : TripEvent → Prop
  | .count distance => distance = 0 ∨ ∀ id st, s.HasTrip id st →
      s.trip.adapter.Awaited id ∨ ¬ s.trip.adapter.Resetting
  | .addClient .. | .startBatching .. | .updateBatchingOptions .. | .stopBatching .. => True
  | .reportCompletedTrips memory => ∀ id st, s.HasTrip id st → ¬ s.trip.adapter.Awaited id ∧
      (st.tripDistance ≤ st.distanceAt s.trip.counter →
        st.tripTBFInterval = s.trip.adapter.mOngoingTripTBFInterval →
          (memory id).tripTBFInterval = s.trip.adapter.mOngoingTripTBFInterval)
  | .engineUp _ => (∀ id st, s.HasTrip id st → st.accumulatedDistanceOngoingBatch = 0) ∧
      s.KnownWithin s.trip.adapter.mTripSessions ∧
      ZeroLast TripSessionStatus.remaining s.trip.adapter.mTripSessions.values ∧
      ZeroLast TripSessionStatus.tripTBFInterval s.trip.adapter.mTripSessions.values
  | .answer => ∀ x rest, s.sent = x :: rest → s.RequestKeeps x rest

end OutdoorEngine

end GpsHal
