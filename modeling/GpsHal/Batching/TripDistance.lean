import GpsHal.Batching.Adapter

/-!
# `BatchingAdapter` : the distance of a trip

The engine counts the distance of the ongoing outdoor batch, from 0 each time the batch is started.
The adapter adds up what the engine has counted for a trip in one batch after the other.  Here the
engine takes the requests in the order in which they are sent, does what they ask and answers
`SUCCESS`; queries and reports give what it has counted.

## Main definitions

* `TripEngine` : the adapter and the engine, with the distance that has been counted for each trip.
* `TripEngine.Keeps` : the condition on each event.
* `TripEngine.TripExact` : what the counters of a trip say, between the events of a run.

## Main results

* `TripEngine.distance_conserved` : no subtraction wraps, and a report finds the distance of every
  trip and completes exactly those that have reached theirs.
-/

namespace GpsHal

namespace BatchingRequest

/-- The batch starts anew for trips whose counters have been set already. -/
def startsBatch : BatchingRequest → Bool
  | startTrip .. | joinRestart .. | restartSessions => true
  | startBatching .. | stopBatching .. | joinTrip .. | stopTrip .. | queryTrips .. |
    restartTrips .. => false

/-- The engine counts from 0 again. -/
def resetsCounter : BatchingRequest → Bool
  | startTrip .. | joinRestart .. | restartSessions | restartTrips .. => true
  | startBatching .. | stopBatching .. | joinTrip .. | stopTrip .. | queryTrips .. => false

/-- The trip that begins when the request is answered. -/
def begins : BatchingRequest → Option ℕ
  | startTrip _ id _ | joinTrip _ id _ => some id
  | startBatching .. | stopBatching .. | joinRestart .. | stopTrip .. | queryTrips .. |
    restartTrips .. | restartSessions => none

end BatchingRequest

/-- The adapter and the engine.  `total` records what has been counted for each trip since it was
started or joined. -/
structure TripEngine where
  adapter : BatchingAdapter
  counter : ℕ
  total : ℕ → ℕ

/-- The engine counts; a message of the adapter; or the engine takes the oldest request. -/
inductive TripEvent where
  | count (distance : ℕ)
  | addClient (client : ℕ) (batchingCb : Bool)
  | startBatching (client id : ℕ) (options : BatchingOptions)
  | updateBatchingOptions (client id : ℕ) (options : BatchingOptions)
  | stopBatching (client id : ℕ)
  | reportCompletedTrips (memory : ℕ → TripSessionStatus)
  | engineUp (distanceBatchingSupported : Bool)
  | answer

namespace TripEngine

def init : TripEngine := ⟨BatchingAdapter.init, 0, fun _ => 0⟩

variable (s : TripEngine)

def setAdapter (a : BatchingAdapter) : TripEngine := { s with adapter := a }

/-- The engine does what a request asks, and its callback runs. -/
def handle (r : BatchingRequest) : TripEngine where
  adapter := (s.adapter.take r).onAnswer r .SUCCESS s.counter
  counter := if r.resetsCounter then 0 else s.counter
  total :=
    match r.begins with
    | some id => Function.update s.total id 0
    | none => s.total

/-- The counter of the engine is a `uint32_t`. -/
def step : TripEvent → Option TripEngine
  | .count distance =>
    if s.counter + distance < 2 ^ 32 then
      some { s with
        counter := s.counter + distance
        total := fun id => s.total id + distance }
    else none
  | .addClient client batchingCb =>
    (s.adapter.step (.addClient client batchingCb)).map s.setAdapter
  | .startBatching client id options =>
    (s.adapter.step (.startBatching client id options)).map s.setAdapter
  | .updateBatchingOptions client id options =>
    (s.adapter.step (.updateBatchingOptions client id options)).map s.setAdapter
  | .stopBatching client id => (s.adapter.step (.stopBatching client id)).map s.setAdapter
  | .reportCompletedTrips memory =>
    (s.adapter.step (.reportCompletedTrips s.counter memory)).map s.setAdapter
  | .engineUp supported => (s.adapter.step (.engineUp supported)).map s.setAdapter
  | .answer =>
    match s.adapter.outstanding with
    | [] => none
    | r :: _ => some (s.handle r)

def system : System TripEngine TripEvent := .ofPartial init step

/-- What a report that leads from `s` to `s'` says: the trips that are left have the distance that
has been counted for them, and those that have reached their distance are reported and gone. -/
structure ReportExact (s s' : TripEngine) : Prop where
  live : ∀ id st, s'.adapter.mTripSessions.find id = some st →
    st.accumulatedDistanceThisTrip = s'.total id
  reported : ∀ id st, s.adapter.mTripSessions.find id = some st →
    (id ∈ (s'.adapter.completedTrips.drop s.adapter.completedTrips.length).flatten ↔
      st.tripDistance ≤ s'.total id)
  gone : ∀ id st, s.adapter.mTripSessions.find id = some st →
    (s'.adapter.mTripSessions.find id = none ↔ st.tripDistance ≤ s'.total id)

end TripEngine

namespace BatchingAdapter

variable (a : BatchingAdapter)

/-- A start of the batch is under way. -/
def Resetting : Prop := ∃ r ∈ a.outstanding, r.startsBatch = true

/-- The trip starts with a batch that is under way. -/
def Awaited (id : ℕ) : Prop := ∃ client options, .startTrip client id options ∈ a.outstanding

/-- No trip besides `id` has gone further than its distance without being completed. -/
def OthersWithin (id : ℕ) : Prop :=
  ∀ id' st, id' ≠ id → a.mTripSessions.find id' = some st →
    st.accumulatedDistanceThisTrip ≤ st.tripDistance

variable {a}

theorem Awaited.resetting {id : ℕ} (h : a.Awaited id) : a.Resetting := by
  obtain ⟨client, options, hmem⟩ := h
  exact ⟨_, hmem, rfl⟩

end BatchingAdapter

namespace TripEngine

variable (s : TripEngine)

/-- What the request has to find when the engine takes it.  A trip that joins finds the batch within
its distance, and if the batch is started again, every other trip up to date; the distance that is
added when the batch is started again has to be the one that has been counted. -/
def RequestKeeps : BatchingRequest → Prop
  | .joinTrip _ id options =>
    s.counter ≤ s.adapter.mOngoingTripDistance ∧ (s.adapter.Resetting → s.counter = 0) ∧
    ((s.adapter.joinOngoing options
        (some (uint32Sub s.adapter.mOngoingTripDistance s.counter))).isSome = true →
      ∀ id' st, id' ≠ id → s.adapter.mTripSessions.find id' = some st →
        st.accumulatedDistanceThisTrip = st.distanceAt s.counter)
  | .stopTrip _ id _ _ =>
    (s.adapter.mTripSessions.find id).isSome = true ∧ s.adapter.OthersWithin id
  | .queryTrips queryAccumulatedDistance _ _ accDist =>
    s.adapter.mTripWithOngoingTripDistanceDropped = true ∨
      (if queryAccumulatedDistance then s.counter else accDist) ≤ s.adapter.mOngoingTripDistance
  | .restartTrips accumulatedDistance _ _ =>
    ∀ id st, s.adapter.mTripSessions.find id = some st →
      s.adapter.Resetting ∧ accumulatedDistance = 0 ∨
        ¬ s.adapter.Resetting ∧ accumulatedDistance = s.counter
  | .startBatching .. | .stopBatching .. | .startTrip .. | .joinRestart .. | .restartSessions => True

/-- A command to stop or update a session finds the other trips within their distance, if the
session is a trip. -/
def CommandKeeps (client id : ℕ) : Prop :=
  s.adapter.isBatchingSession client id = true → s.adapter.isTripSession id = true →
    s.adapter.OthersWithin id

/-- The condition on an event.  While a start of the batch is under way nothing is counted for
trips that have begun; a report comes while none is under way, or while all trips have begun and
nothing has been counted for the ongoing batch; and a restart of the engine finds that nothing has
been counted for it, or that a start is under way. -/
def Keeps : TripEvent → Prop
  | .count distance => distance = 0 ∨ ∀ id st, s.adapter.mTripSessions.find id = some st →
      s.adapter.Awaited id ∨ ¬ s.adapter.Resetting ∧ s.total id + distance < 2 ^ 32
  | .addClient .. | .startBatching .. => True
  | .updateBatchingOptions client id _ | .stopBatching client id => s.CommandKeeps client id
  | .reportCompletedTrips _ => ∀ id st, s.adapter.mTripSessions.find id = some st →
      ¬ s.adapter.Resetting ∨ s.counter = 0 ∧ ¬ s.adapter.Awaited id
  | .engineUp _ => ∀ id st, s.adapter.mTripSessions.find id = some st →
      (s.adapter.Resetting ∨ s.counter = 0) ∧ st.accumulatedDistanceThisTrip ≤ st.tripDistance
  | .answer => ∀ r rest, s.adapter.outstanding = r :: rest → s.RequestKeeps r

/-- What the counters of a trip say: it awaits its start and has none; a start of the batch is under
way, and they say what has been counted before; or they say with the counter of the engine what has
been counted. -/
inductive TripExact (id : ℕ) (st : TripSessionStatus) : Prop
  | awaited (h : s.adapter.Awaited id) (hongoing : st.accumulatedDistanceOngoingBatch = 0)
      (hrestart : st.accumulatedDistanceOnTripRestart = 0)
  | resetting (h : ¬ s.adapter.Awaited id) (hreset : s.adapter.Resetting)
      (hongoing : st.accumulatedDistanceOngoingBatch = 0)
      (hrestart : st.accumulatedDistanceOnTripRestart = s.total id) (hlt : s.total id < 2 ^ 32)
  | settled (h : ¬ s.adapter.Resetting) (hle : st.accumulatedDistanceOngoingBatch ≤ s.counter)
      (htotal : s.total id = st.accumulatedDistanceOnTripRestart +
        (s.counter - st.accumulatedDistanceOngoingBatch)) (hlt : s.total id < 2 ^ 32)

/-- The counters of every trip are exact, and no subtraction has wrapped. -/
structure Exact : Prop where
  trips : ∀ id st, s.adapter.mTripSessions.find id = some st → s.TripExact id st
  wrapped : s.adapter.wrapped = false

variable {s}

theorem exact_init : init.Exact := ⟨nofun, rfl⟩

/-! ### Steps that start no trip -/

/-- `a'` has no trips besides those of `a`, with the same counters for the ongoing batch, and the
same starts of the batch under way. -/
structure Fewer (a a' : BatchingAdapter) : Prop where
  trips : ∀ id st, a'.mTripSessions.find id = some st →
    ∃ st₀, a.mTripSessions.find id = some st₀ ∧
      st.accumulatedDistanceOngoingBatch = st₀.accumulatedDistanceOngoingBatch ∧
      st.accumulatedDistanceOnTripRestart = st₀.accumulatedDistanceOnTripRestart
  starts : ∀ r, r.startsBatch = true → (r ∈ a'.outstanding ↔ r ∈ a.outstanding)
  wrapped : a'.wrapped = a.wrapped

section Fewer

variable {a a' a'' : BatchingAdapter}

theorem Fewer.awaited (h : Fewer a a') {id : ℕ} : a'.Awaited id ↔ a.Awaited id :=
  exists_congr fun client => exists_congr fun options => h.starts (.startTrip client id options) rfl

theorem Fewer.resetting (h : Fewer a a') : a'.Resetting ↔ a.Resetting := by
  refine exists_congr fun r => and_congr_left fun hr => ?_
  exact h.starts r hr

theorem Fewer.refl (a : BatchingAdapter) : Fewer a a :=
  ⟨fun _ st h => ⟨st, h, rfl, rfl⟩, fun _ _ => Iff.rfl, rfl⟩

theorem Fewer.trans (h : Fewer a a') (h' : Fewer a' a'') : Fewer a a'' := by
  refine ⟨fun id st hst => ?_, fun r hr => (h'.starts r hr).trans (h.starts r hr),
    h'.wrapped.trans h.wrapped⟩
  obtain ⟨st₁, hst₁, hongoing₁, hrestart₁⟩ := h'.trips id st hst
  obtain ⟨st₀, hst₀, hongoing₀, hrestart₀⟩ := h.trips id st₁ hst₁
  exact ⟨st₀, hst₀, hongoing₁.trans hongoing₀, hrestart₁.trans hrestart₀⟩

/-- Exact counters stay exact. -/
theorem Exact.fewer (h : s.Exact) (hf : Fewer s.adapter a') : (s.setAdapter a').Exact := by
  refine ⟨fun id st hst => ?_, hf.wrapped.trans h.wrapped⟩
  obtain ⟨st₀, hst₀, hongoing, hrestart⟩ := hf.trips id st hst
  cases h.trips id st₀ hst₀ with
  | awaited hawaited hongoing₀ hrestart₀ =>
    exact .awaited (hf.awaited.2 hawaited) (hongoing.trans hongoing₀) (hrestart.trans hrestart₀)
  | resetting hnot hreset hongoing₀ hrestart₀ hlt =>
    exact .resetting (fun hawaited => hnot (hf.awaited.1 hawaited)) (hf.resetting.2 hreset)
      (hongoing.trans hongoing₀) (hrestart.trans hrestart₀) hlt
  | settled hnot hle htotal hlt =>
    refine .settled (fun hreset => hnot (hf.resetting.1 hreset)) ?_ ?_ hlt
    · rw [hongoing]
      exact hle
    · rw [hongoing, hrestart]
      exact htotal

theorem fewer_of_eq (htrips : a'.mTripSessions = a.mTripSessions)
    (houtstanding : a'.outstanding = a.outstanding) (hwrapped : a'.wrapped = a.wrapped) :
    Fewer a a' := by
  refine ⟨fun id st hst => ?_, fun r _ => by rw [houtstanding], hwrapped⟩
  rw [htrips] at hst
  exact ⟨st, hst, rfl, rfl⟩

theorem fewer_request {r : BatchingRequest} (hr : r.startsBatch = false) :
    Fewer a (a.request r) := by
  refine ⟨fun _ st hst => ⟨st, hst, rfl, rfl⟩, fun r' hr' => ?_, rfl⟩
  refine List.mem_append.trans (or_iff_left ?_)
  rw [List.mem_singleton]
  rintro rfl
  rw [hr] at hr'
  cases hr'

theorem awaited_request {r : BatchingRequest} {id : ℕ} (hr : r.begins ≠ some id) :
    (a.request r).Awaited id ↔ a.Awaited id := by
  refine exists_congr fun client => exists_congr fun options => List.mem_append.trans ?_
  refine or_iff_left ?_
  rw [List.mem_singleton]
  rintro rfl
  exact hr rfl

theorem resetting_request {r : BatchingRequest} (hr : r.startsBatch = true) :
    (a.request r).Resetting := ⟨r, List.mem_append_right _ List.mem_cons_self, hr⟩

theorem fewer_take {r : BatchingRequest} (hr : r.startsBatch = false) : Fewer a (a.take r) := by
  refine ⟨fun _ st hst => ⟨st, hst, rfl, rfl⟩, fun r' hr' => List.mem_erase_of_ne ?_, rfl⟩
  rintro rfl
  rw [hr] at hr'
  cases hr'

theorem fewer_setOngoing (distance interval : ℕ) : Fewer a (a.setOngoing distance interval) :=
  fewer_of_eq rfl rfl rfl

theorem Fewer.ite {p : Prop} [Decidable p] (h : Fewer a a') (h' : Fewer a a'') :
    Fewer a (if p then a' else a'') := by
  split_ifs
  · exact h
  · exact h'

end Fewer

/-! ### Commands -/

section Commands

variable {a : BatchingAdapter} {client id : ℕ} {options : BatchingOptions} {err : LocationError}
  {restartNeeded : Bool}

theorem fewer_reportStart : Fewer a (a.reportStart client id err) := fewer_of_eq rfl rfl rfl

theorem fewer_eraseBatchingSession (client id : ℕ) :
    Fewer a (a.eraseBatchingSession client id) := fewer_of_eq rfl rfl rfl

theorem fewer_reportStop : Fewer a (a.reportStop client id err) := by
  unfold BatchingAdapter.reportStop
  exact Fewer.ite (fewer_of_eq rfl rfl rfl) (.refl a)

theorem fewer_eraseTrip (st : TripSessionStatus) :
    Fewer a ((a.dropTrip st).setTripSessions (a.mTripSessions.erase id)) := by
  refine ⟨fun id' st' hst => ⟨st', ?_, rfl, rfl⟩, fun _ _ => Iff.rfl, rfl⟩
  change (a.mTripSessions.erase id).find id' = some st' at hst
  rw [OrdMap.find_erase] at hst
  split_ifs at hst
  exact hst

theorem remainingWraps_eq_false :
    a.remainingWraps = false ↔ ∀ id st, a.mTripSessions.find id = some st →
      st.accumulatedDistanceThisTrip ≤ st.tripDistance := by
  simp only [BatchingAdapter.remainingWraps, OrdMap.values_any_eq_false,
    TripSessionStatus.remainingWraps, decide_eq_false_iff_not, Nat.not_lt]

theorem distanceWraps_eq_false {distance : ℕ} :
    a.distanceWraps distance = false ↔ ∀ id st, a.mTripSessions.find id = some st →
      st.accumulatedDistanceOngoingBatch ≤ distance := by
  simp only [BatchingAdapter.distanceWraps, OrdMap.values_any_eq_false,
    TripSessionStatus.distanceWraps, decide_eq_false_iff_not, Nat.not_lt]

/-- Nothing is noted where nothing wraps. -/
theorem fewer_noteWrap {b : Bool} (hb : b = false) : Fewer a (a.noteWrap b) := by
  refine fewer_of_eq rfl rfl ?_
  rw [hb]
  exact Bool.or_false a.wrapped

theorem fewer_restartTripBatching (queryAccumulatedDistance : Bool) (accDist : ℕ)
    (h : a.remainingWraps = false) :
    Fewer a (a.restartTripBatching queryAccumulatedDistance accDist) := by
  unfold BatchingAdapter.restartTripBatching
  dsimp only
  refine Fewer.ite (Fewer.ite ?_ ?_) ((fewer_noteWrap h).trans (fewer_request rfl))
  · exact fewer_of_eq rfl rfl rfl
  · exact fewer_of_eq rfl rfl rfl

theorem fewer_startBatching : Fewer a (a.startBatching client id options) := by
  unfold BatchingAdapter.startBatching
  dsimp only
  rw [BatchingAdapter.ite_setBatchFull]
  refine Fewer.trans ?_ (fewer_request rfl)
  exact fewer_of_eq rfl rfl rfl

theorem fewer_stopBatching : Fewer a (a.stopBatching client id restartNeeded options) := by
  unfold BatchingAdapter.stopBatching
  split
  · refine Fewer.trans ?_ (fewer_request rfl)
    exact fewer_of_eq rfl rfl rfl
  · exact .refl a

/-- The first trip awaits its start. -/
theorem Exact.startTrip (h : s.Exact) :
    (s.setAdapter (s.adapter.startTripBatchingMultiplex client id options)).Exact := by
  unfold BatchingAdapter.startTripBatchingMultiplex
  by_cases hsize : s.adapter.mTripSessions.size = 0
  · rw [if_pos hsize]
    dsimp only
    rw [BatchingAdapter.ite_setBatchFull]
    refine ⟨fun id' st hst => ?_, h.wrapped⟩
    change (s.adapter.mTripSessions.insert id _).find id' = some st at hst
    rw [OrdMap.find_insert, OrdMap.size_eq_zero.1 hsize] at hst
    split_ifs at hst with hid
    obtain rfl := hid
    obtain rfl := Option.some.inj hst
    exact .awaited ⟨client, options, List.mem_append_right _ List.mem_cons_self⟩ rfl rfl
  · rw [if_neg hsize]
    exact h.fewer (fewer_request rfl)

theorem Exact.startSession (h : s.Exact) :
    (s.setAdapter (s.adapter.startSession client id options)).Exact := by
  unfold BatchingAdapter.startSession
  split
  · exact h.fewer fewer_startBatching
  · exact h.fewer fewer_startBatching
  · exact h.startTrip

/-- A trip is stopped while the others are within their distance. -/
theorem Exact.stopCommon (h : s.Exact) (hothers : s.adapter.OthersWithin id) :
    (s.setAdapter (s.adapter.stopTripBatchingMultiplexCommon err client id restartNeeded
      options)).Exact := by
  unfold BatchingAdapter.stopTripBatchingMultiplexCommon
  dsimp only
  have herase : Fewer s.adapter ((s.adapter.dropTrip (s.adapter.tripStatus id)).setTripSessions
      (s.adapter.mTripSessions.erase id)) := fewer_eraseTrip (s.adapter.tripStatus id)
  generalize hs₁ : (s.adapter.dropTrip (s.adapter.tripStatus id)).setTripSessions _ = a₁
  have hs₁' : (s.adapter.dropTrip (s.adapter.tripStatus id)).setTripSessions
      (s.adapter.mTripSessions.erase id) = a₁ := hs₁
  rw [hs₁'] at herase
  have hwithin : a₁.remainingWraps = false := by
    rw [remainingWraps_eq_false]
    intro id' st hst
    rw [← hs₁'] at hst
    change (s.adapter.mTripSessions.erase id).find id' = some st at hst
    rw [OrdMap.find_erase] at hst
    split_ifs at hst with hid
    exact hothers id' st hid hst
  have hrestart : Fewer a₁
      (if a₁.mTripSessions.size = 0 then a₁.setOngoing 0 0 else a₁.restartTripBatching true 0) :=
    Fewer.ite (fewer_setOngoing 0 0) (fewer_restartTripBatching true 0 hwithin)
  have h₂ := h.fewer (herase.trans hrestart)
  by_cases hneeded : restartNeeded = true
  · rw [if_pos hneeded]
    have h₃ := h₂.fewer (fewer_eraseBatchingSession client id)
    have h₄ : (TripEngine.setAdapter _ (BatchingAdapter.startSession _ client id options)).Exact :=
      h₃.startSession
    exact h₄.fewer fewer_reportStop
  · rw [if_neg hneeded]
    exact h₂.fewer fewer_reportStop

theorem Exact.stopTrip (h : s.Exact) (hothers : s.adapter.OthersWithin id) :
    (s.setAdapter (s.adapter.stopTripBatchingMultiplex client id restartNeeded options)).Exact := by
  unfold BatchingAdapter.stopTripBatchingMultiplex
  split_ifs
  · exact h.fewer (fewer_request rfl)
  · exact h.stopCommon hothers

theorem Exact.procStartBatching (h : s.Exact) :
    (s.setAdapter (s.adapter.procStartBatching client id options)).Exact := by
  unfold BatchingAdapter.procStartBatching
  split_ifs
  · exact h
  · exact h
  · exact h
  · exact h.startSession

theorem Exact.procUpdateBatching (h : s.Exact) (hkeeps : s.CommandKeeps client id) :
    (s.setAdapter (s.adapter.procUpdateBatching client id options)).Exact := by
  unfold BatchingAdapter.procUpdateBatching
  split_ifs with hknown hsize htrip
  · exact h
  · exact h
  · exact h.fewer fewer_stopBatching
  · exact h.stopTrip (hkeeps (by simpa using hknown) (by simpa using htrip))

theorem Exact.procStopBatching (h : s.Exact) (hkeeps : s.CommandKeeps client id) :
    (s.setAdapter (s.adapter.procStopBatching client id)).Exact := by
  unfold BatchingAdapter.procStopBatching
  split_ifs with hknown htrip
  · exact h
  · exact h.stopTrip (hkeeps (by simpa using hknown) htrip)
  · exact h.fewer fewer_stopBatching

end Commands

/-! ### The engine counts, or restarts -/

section Engine

variable {distance : ℕ}

theorem Exact.count (h : s.Exact) (hkeeps : s.Keeps (.count distance)) :
    Exact { s with
      counter := s.counter + distance
      total := fun id => s.total id + distance } := by
  refine ⟨fun id st hst => ?_, h.wrapped⟩
  have hexact := h.trips id st hst
  rcases hkeeps with rfl | hkeeps
  · exact hexact
  · cases hexact with
    | awaited hawaited hongoing hrestart => exact .awaited hawaited hongoing hrestart
    | resetting hnot hreset hongoing hrestart hlt =>
      rcases hkeeps id st hst with hawaited | ⟨hnone, -⟩
      · exact absurd hawaited hnot
      · exact absurd hreset hnone
    | settled hnot hle htotal hlt =>
      rcases hkeeps id st hst with hawaited | ⟨-, hbound⟩
      · exact absurd hawaited.resetting hnot
      · refine .settled hnot (Nat.le_add_right_of_le hle) ?_ hbound
        show s.total id + distance = st.accumulatedDistanceOnTripRestart +
          (s.counter + distance - st.accumulatedDistanceOngoingBatch)
        omega

/-- A start of the batch that is sent while nothing has been counted for the ongoing one. -/
theorem Exact.requestStart (h : s.Exact) {r : BatchingRequest} (hr : r.startsBatch = true)
    (hnew : ∀ id, r.begins ≠ some id)
    (hkeeps : ∀ id st, s.adapter.mTripSessions.find id = some st →
      s.adapter.Resetting ∨ s.counter = 0) : (s.setAdapter (s.adapter.request r)).Exact := by
  have hreset : (s.adapter.request r).Resetting := resetting_request hr
  refine ⟨fun id st hst => ?_, h.wrapped⟩
  have hawaited : (s.adapter.request r).Awaited id ↔ s.adapter.Awaited id :=
    awaited_request (hnew id)
  cases h.trips id st hst with
  | awaited hwait hongoing hrestart => exact .awaited (hawaited.2 hwait) hongoing hrestart
  | resetting hnot _ hongoing hrestart hlt =>
    exact .resetting (fun hwait => hnot (hawaited.1 hwait)) hreset hongoing hrestart hlt
  | settled hnot hle htotal hlt =>
    have hcounter : s.counter = 0 := (hkeeps id st hst).resolve_left hnot
    refine .resetting (fun hwait => ?_) hreset ?_ ?_ hlt
    · exact hnot (hawaited.1 hwait).resetting
    · omega
    · show st.accumulatedDistanceOnTripRestart = s.total id
      omega

theorem Exact.restartSessions (h : s.Exact)
    (hkeeps : ∀ id st, s.adapter.mTripSessions.find id = some st →
      (s.adapter.Resetting ∨ s.counter = 0) ∧ st.accumulatedDistanceThisTrip ≤ st.tripDistance) :
    (s.setAdapter s.adapter.restartSessions).Exact := by
  unfold BatchingAdapter.restartSessions
  dsimp only
  rw [BatchingAdapter.ite_setBatchFull]
  generalize (if 0 < s.adapter.autoReportBatchingSessionsCount then true
    else s.adapter.batchFull) = full
  have hf : Fewer s.adapter (s.adapter.setBatchFull full) := fewer_of_eq rfl rfl rfl
  split_ifs
  · have hwithin : (s.adapter.setBatchFull full).remainingWraps = false := by
      rw [remainingWraps_eq_false]
      exact fun id st hst => (hkeeps id st hst).2
    have hset := (hf.trans (fewer_noteWrap hwithin)).trans
      (fewer_setOngoing (s.adapter.setBatchFull full).minRemainingDistance
        (s.adapter.setBatchFull full).minTBFInterval)
    refine (h.fewer hset).requestStart (r := .restartSessions) rfl (fun _ => nofun) ?_
    exact fun id st hst => (hkeeps id st hst).1.imp_left hset.resetting.2
  · exact h.fewer hf

end Engine

/-! ### Reports -/

section Report

variable {a : BatchingAdapter} {distance : ℕ} {memory : ℕ → TripSessionStatus}

/-- Noting what is gone changes two flags. -/
theorem foldl_dropTrip (memory : ℕ → TripSessionStatus) (l : List ℕ) (a : BatchingAdapter) :
    ∃ interval distance, l.foldl (fun a id => a.dropTrip (memory id)) a =
      { a with
        mTripWithOngoingTBFDropped := interval
        mTripWithOngoingTripDistanceDropped := distance } := by
  induction l generalizing a with
  | nil => exact ⟨a.mTripWithOngoingTBFDropped, a.mTripWithOngoingTripDistanceDropped, rfl⟩
  | cons id l ih =>
    obtain ⟨interval, distance, h⟩ := ih (a.dropTrip (memory id))
    exact ⟨interval, distance, h⟩

theorem reportTrip_eq_some {st st' : TripSessionStatus} :
    BatchingAdapter.reportTrip distance st = some st' ↔
      st.distanceAt distance < st.tripDistance ∧ st' = st.report distance := by
  unfold BatchingAdapter.reportTrip
  split_ifs with hle
  · exact iff_of_false nofun fun h => Nat.not_le.2 h.1 hle
  · rw [Option.some.injEq, and_iff_right (Nat.not_le.1 hle), eq_comm]

theorem mem_completedTripsList {id : ℕ} : id ∈ a.completedTripsList distance ↔
    ∃ st, a.mTripSessions.find id = some st ∧ st.tripDistance ≤ st.distanceAt distance := by
  unfold BatchingAdapter.completedTripsList BatchingAdapter.reportTrip
  rw [List.mem_filterMap]
  constructor
  · rintro ⟨e, he, hid⟩
    by_cases hle : e.2.tripDistance ≤ e.2.distanceAt distance
    · rw [if_pos hle] at hid
      obtain rfl : e.1 = id := Option.some.inj hid
      exact ⟨e.2, OrdMap.find_eq_some.2 he, hle⟩
    · rw [if_neg hle] at hid
      cases hid
  · rintro ⟨st, hst, hle⟩
    refine ⟨(id, st), OrdMap.find_eq_some.1 hst, ?_⟩
    rw [if_pos hle]
    rfl

theorem restartTripBatching_mTripSessions (queryAccumulatedDistance : Bool) (accDist : ℕ) :
    (a.restartTripBatching queryAccumulatedDistance accDist).mTripSessions = a.mTripSessions := by
  unfold BatchingAdapter.restartTripBatching
  dsimp only
  split_ifs <;> rfl

theorem restartTripBatching_completedTrips (queryAccumulatedDistance : Bool) (accDist : ℕ) :
    (a.restartTripBatching queryAccumulatedDistance accDist).completedTrips = a.completedTrips := by
  unfold BatchingAdapter.restartTripBatching
  dsimp only
  split_ifs <;> rfl

/-- What a report does: the trips that have reached their distance are reported and gone, and the
counters of the others stay. -/
structure Reports (distance : ℕ) (a a' : BatchingAdapter) : Prop where
  fewer : Fewer a a'
  trips : ∀ id, a'.mTripSessions.find id =
    (a.mTripSessions.find id).bind (BatchingAdapter.reportTrip distance)
  completed : a'.completedTrips = a.completedTrips ++
    if a.completedTripsList distance ≠ [] then [a.completedTripsList distance] else []

theorem reports_procReportCompletedTrips (hdistance : a.distanceWraps distance = false) :
    Reports distance a (a.procReportCompletedTrips distance memory) := by
  unfold BatchingAdapter.procReportCompletedTrips
  dsimp only
  obtain ⟨interval, dropped, hfold⟩ := foldl_dropTrip memory (a.completedTripsList distance)
    ((a.noteWrap (a.distanceWraps distance)).setTripSessions
      ((a.noteWrap (a.distanceWraps distance)).mTripSessions.filterMap fun _ st =>
        BatchingAdapter.reportTrip distance st))
  rw [hfold]
  generalize ha₁ : ({ BatchingAdapter.setTripSessions _ _ with
    mTripWithOngoingTBFDropped := interval
    mTripWithOngoingTripDistanceDropped := dropped } : BatchingAdapter) = a₁
  have htrips : ∀ id, a₁.mTripSessions.find id =
      (a.mTripSessions.find id).bind (BatchingAdapter.reportTrip distance) := by
    intro id
    rw [← ha₁]
    exact OrdMap.find_filterMap _
  have hreport : ∀ id st, a₁.mTripSessions.find id = some st →
      ∃ st₀, a.mTripSessions.find id = some st₀ ∧ st₀.distanceAt distance < st₀.tripDistance ∧
        st = st₀.report distance := by
    intro id st hst
    rw [htrips, Option.bind_eq_some_iff] at hst
    obtain ⟨st₀, hst₀, hst⟩ := hst
    exact ⟨st₀, hst₀, reportTrip_eq_some.1 hst⟩
  have hf : Fewer a a₁ := by
    refine ⟨fun id st hst => ?_, fun r _ => by rw [← ha₁]; rfl, ?_⟩
    · obtain ⟨st₀, hst₀, -, rfl⟩ := hreport id st hst
      exact ⟨st₀, hst₀, rfl, rfl⟩
    · rw [← ha₁]
      exact (fewer_noteWrap hdistance).wrapped
  have hwithin : a₁.remainingWraps = false := by
    rw [remainingWraps_eq_false]
    intro id st hst
    obtain ⟨st₀, -, hlt, rfl⟩ := hreport id st hst
    exact hlt.le
  have hcompleted : a₁.completedTrips = a.completedTrips := by rw [← ha₁]; rfl
  split_ifs with hany
  · generalize ha₂ : ({ a₁ with
      completedTrips := a₁.completedTrips ++ [a.completedTripsList distance] } : BatchingAdapter) = a₂
    have htrips₂ : a₂.mTripSessions = a₁.mTripSessions := by rw [← ha₂]
    have hf₂ : Fewer a₁ a₂ := by
      rw [← ha₂]
      exact fewer_of_eq rfl rfl rfl
    have hwithin₂ : a₂.remainingWraps = false := by
      rw [← hwithin, BatchingAdapter.remainingWraps, htrips₂]
      rfl
    refine ⟨(hf.trans hf₂).trans (fewer_restartTripBatching false distance hwithin₂), ?_, ?_⟩
    · intro id
      rw [restartTripBatching_mTripSessions, htrips₂, htrips]
    · rw [restartTripBatching_completedTrips, if_pos hany, ← ha₂, ← hcompleted]
  · refine ⟨hf, htrips, ?_⟩
    rw [if_neg hany, hcompleted, List.append_nil]

/-- The distance of a trip, if what is added is what has been counted for the ongoing batch; nothing
while a start of the batch is under way. -/
theorem TripExact.distanceAt_eq {id : ℕ} {st : TripSessionStatus} (h : s.TripExact id st)
    (hdistance : s.adapter.Resetting ∧ distance = 0 ∨ ¬ s.adapter.Resetting ∧ distance = s.counter) :
    st.accumulatedDistanceOngoingBatch ≤ distance ∧
      (s.adapter.Awaited id → st.distanceAt distance = 0) ∧
      (¬ s.adapter.Awaited id → st.distanceAt distance = s.total id ∧ s.total id < 2 ^ 32) := by
  cases h with
  | awaited hawaited hongoing hrestart =>
    obtain rfl : distance = 0 := (hdistance.resolve_right fun h => h.1 hawaited.resetting).2
    refine ⟨hongoing.le, fun _ => ?_, fun hnot => absurd hawaited hnot⟩
    rw [TripSessionStatus.distanceAt, hongoing, hrestart]
    rfl
  | resetting hnot hreset hongoing hrestart hlt =>
    obtain rfl : distance = 0 := (hdistance.resolve_right fun h => h.1 hreset).2
    refine ⟨hongoing.le, fun hawaited => absurd hawaited hnot, fun _ => ⟨?_, hlt⟩⟩
    rw [TripSessionStatus.distanceAt, hongoing, hrestart]
    exact uint32Add_of_lt hlt
  | settled hnot hle htotal hlt =>
    obtain rfl : distance = s.counter := (hdistance.resolve_left fun h => hnot h.1).2
    refine ⟨hle, fun hawaited => absurd hawaited.resetting hnot, fun _ => ⟨?_, hlt⟩⟩
    rw [TripSessionStatus.distanceAt, uint32Sub_of_le hle, uint32Add_of_lt (htotal ▸ hlt), htotal]

/-- What a report reads of a trip. -/
theorem Exact.distanceAt (h : s.Exact) (hkeeps : s.Keeps (.reportCompletedTrips memory)) {id : ℕ}
    {st : TripSessionStatus} (hst : s.adapter.mTripSessions.find id = some st) :
    st.accumulatedDistanceOngoingBatch ≤ s.counter ∧ st.distanceAt s.counter = s.total id := by
  have hexact := h.trips id st hst
  by_cases hreset : s.adapter.Resetting
  · obtain ⟨hcounter, hnot⟩ := (hkeeps id st hst).resolve_left fun h => h hreset
    obtain ⟨hle, -, htotal⟩ := hexact.distanceAt_eq (.inl ⟨hreset, hcounter⟩)
    exact ⟨hle, (htotal hnot).1⟩
  · obtain ⟨hle, -, htotal⟩ := hexact.distanceAt_eq (.inr ⟨hreset, rfl⟩)
    exact ⟨hle, (htotal fun hwait => hreset hwait.resetting).1⟩

theorem Exact.report (h : s.Exact) (hkeeps : s.Keeps (.reportCompletedTrips memory)) :
    Reports s.counter s.adapter (s.adapter.procReportCompletedTrips s.counter memory) := by
  refine reports_procReportCompletedTrips ?_
  rw [distanceWraps_eq_false]
  exact fun id st hst => (h.distanceAt hkeeps hst).1

end Report

/-! ### Answers -/

section Answers

variable {a a' : BatchingAdapter} {id : ℕ} {st : TripSessionStatus} {r : BatchingRequest}
  {rest : List BatchingRequest} {distance : ℕ}

/-- A trip whose counters are those of a batch that starts, or has not gone anywhere. -/
theorem TripExact.of_zero (hongoing : st.accumulatedDistanceOngoingBatch = 0)
    (hawaited : s.adapter.Awaited id → st.accumulatedDistanceOnTripRestart = 0)
    (htotal : ¬ s.adapter.Awaited id → st.accumulatedDistanceOnTripRestart = s.total id ∧
      s.total id < 2 ^ 32)
    (hcounter : ¬ s.adapter.Resetting → s.counter = 0) : s.TripExact id st := by
  by_cases h : s.adapter.Awaited id
  · exact .awaited h hongoing (hawaited h)
  · obtain ⟨hrestart, hlt⟩ := htotal h
    by_cases hreset : s.adapter.Resetting
    · exact .resetting h hreset hongoing hrestart hlt
    · refine .settled hreset ?_ ?_ hlt
      · omega
      · rw [hcounter hreset, hrestart]
        omega

theorem startsBatch_begins (hr : r.startsBatch = true) (hid : r.begins = some id) :
    ∃ client options, r = .startTrip client id options := by
  cases r with
  | startTrip client id' options =>
    obtain rfl : id' = id := Option.some.inj hid
    exact ⟨client, options, rfl⟩
  | joinRestart => cases hid
  | restartSessions => cases hid
  | _ => cases hr

/-- The engine starts the batch: it counts from 0, for the trips that have waited for it too. -/
theorem Exact.started (h : s.Exact) (ho : s.adapter.outstanding = r :: rest)
    (hr : r.startsBatch = true) (htrips : a'.mTripSessions = s.adapter.mTripSessions)
    (hrest : a'.outstanding = rest) (hwrapped : a'.wrapped = s.adapter.wrapped) :
    Exact ⟨a', 0, match r.begins with
      | some id => Function.update s.total id 0
      | none => s.total⟩ := by
  have hreset : s.adapter.Resetting := ⟨r, by rw [ho]; exact List.mem_cons_self, hr⟩
  have hawaited : ∀ id, s.adapter.Awaited id → a'.Awaited id ∨ r.begins = some id := by
    rintro id ⟨client, options, hmem⟩
    rw [ho] at hmem
    rcases List.mem_cons.1 hmem with rfl | hmem
    · exact .inr rfl
    · exact .inl ⟨client, options, hrest ▸ hmem⟩
  have hback : ∀ id, a'.Awaited id → s.adapter.Awaited id := by
    rintro id ⟨client, options, hmem⟩
    exact ⟨client, options, by rw [ho, ← hrest]; exact List.mem_cons_of_mem r hmem⟩
  refine ⟨fun id st hst => ?_, hwrapped.trans h.wrapped⟩
  change a'.mTripSessions.find id = some st at hst
  rw [htrips] at hst
  cases h.trips id st hst with
  | awaited hwait hongoing hrestart =>
    refine .of_zero hongoing (fun _ => hrestart) (fun hnot => ?_) fun _ => rfl
    have hbegins : r.begins = some id := (hawaited id hwait).resolve_left hnot
    rw [hbegins]
    have htotal : Function.update s.total id 0 id = 0 := Function.update_self ..
    exact ⟨hrestart.trans htotal.symm, htotal.trans_lt (by decide)⟩
  | resetting hnot _ hongoing hrestart hlt =>
    refine .of_zero hongoing (fun hwait => absurd (hback id hwait) hnot) (fun _ => ?_) fun _ => rfl
    cases hbegins : r.begins with
    | none => exact ⟨hrestart, hlt⟩
    | some id' =>
      have hne : id ≠ id' := by
        rintro rfl
        obtain ⟨client, options, rfl⟩ := startsBatch_begins hr hbegins
        exact hnot ⟨client, options, by rw [ho]; exact List.mem_cons_self⟩
      have htotal : Function.update s.total id' 0 id = s.total id := Function.update_of_ne hne ..
      rw [← htotal] at hrestart hlt
      exact ⟨hrestart, hlt⟩
  | settled hnot => exact absurd hreset hnot

/-- The batch has started again, and what had been counted for it is added. -/
theorem Exact.onRestartTrips (h : s.Exact) (interval total : ℕ)
    (hkeeps : ∀ id st, s.adapter.mTripSessions.find id = some st →
      s.adapter.Resetting ∧ distance = 0 ∨ ¬ s.adapter.Resetting ∧ distance = s.counter) :
    Exact ⟨s.adapter.onRestartTrips distance total interval .SUCCESS, 0, s.total⟩ := by
  unfold BatchingAdapter.onRestartTrips
  rw [if_pos rfl]
  dsimp only
  have hnote : s.adapter.distanceWraps distance = false := by
    rw [distanceWraps_eq_false]
    exact fun id st hst => ((h.trips id st hst).distanceAt_eq (hkeeps id st hst)).1
  refine ⟨fun id st hst => ?_, (fewer_noteWrap hnote).wrapped.trans h.wrapped⟩
  change (s.adapter.mTripSessions.mapValues _).find id = some st at hst
  rw [OrdMap.find_mapValues, Option.map_eq_some_iff] at hst
  obtain ⟨st₀, hst₀, rfl⟩ := hst
  obtain ⟨-, hawaited, htotal⟩ := (h.trips id st₀ hst₀).distanceAt_eq (hkeeps id st₀ hst₀)
  exact .of_zero rfl hawaited htotal fun _ => rfl

/-- A trip is put among the others. -/
theorem Exact.insert (h : s.Exact) (hcounter : s.adapter.Resetting → s.counter = 0)
    (tripDistance tripTBFInterval : ℕ) :
    Exact ⟨s.adapter.setTripSessions (s.adapter.mTripSessions.insert id
      ⟨s.counter, 0, 0, tripDistance, tripTBFInterval⟩), s.counter,
      Function.update s.total id 0⟩ := by
  refine ⟨fun id' st hst => ?_, h.wrapped⟩
  change (s.adapter.mTripSessions.insert id _).find id' = some st at hst
  rw [OrdMap.find_insert] at hst
  split_ifs at hst with hid
  · obtain rfl := hid
    obtain rfl := Option.some.inj hst
    have htotal : Function.update s.total id' 0 id' = 0 := Function.update_self ..
    by_cases hreset : s.adapter.Resetting
    · exact .of_zero (hcounter hreset) (fun _ => rfl)
        (fun _ => ⟨htotal.symm, htotal.trans_lt (by decide)⟩) fun hnot => absurd hreset hnot
    · refine .settled hreset le_rfl ?_ ?_
      · show Function.update s.total id' 0 id' = 0 + (s.counter - s.counter)
        omega
      · show Function.update s.total id' 0 id' < 2 ^ 32
        omega
  · have htotal : Function.update s.total id 0 id' = s.total id' := Function.update_of_ne hid ..
    cases h.trips id' st hst with
    | awaited hawaited hongoing hrestart => exact .awaited hawaited hongoing hrestart
    | resetting hnot hreset hongoing hrestart hlt =>
      exact .resetting hnot hreset hongoing (hrestart.trans htotal.symm) (htotal.trans_lt hlt)
    | settled hnot hle hsum hlt => exact .settled hnot hle (htotal.trans hsum) (htotal.trans_lt hlt)

/-- The batch is started again for trips that are up to date. -/
theorem Exact.rebase (h : s.Exact) (hcounter : s.adapter.Resetting → s.counter = 0)
    (hupToDate : ∀ id st, s.adapter.mTripSessions.find id = some st →
      st.accumulatedDistanceThisTrip = st.distanceAt s.counter) (client id : ℕ) :
    (s.setAdapter ((s.adapter.setTripSessions
      (s.adapter.mTripSessions.mapValues (·.rebase))).request (.joinRestart client id))).Exact := by
  refine ⟨fun id' st hst => ?_, h.wrapped⟩
  change (s.adapter.mTripSessions.mapValues _).find id' = some st at hst
  rw [OrdMap.find_mapValues, Option.map_eq_some_iff] at hst
  obtain ⟨st₀, hst₀, rfl⟩ := hst
  have hdistance : s.adapter.Resetting ∧ s.counter = 0 ∨
      ¬ s.adapter.Resetting ∧ s.counter = s.counter := by
    by_cases hreset : s.adapter.Resetting
    · exact .inl ⟨hreset, hcounter hreset⟩
    · exact .inr ⟨hreset, rfl⟩
  obtain ⟨-, hzero, htotal⟩ := (h.trips id' st₀ hst₀).distanceAt_eq hdistance
  have hthis := hupToDate id' st₀ hst₀
  have hawaited : (s.adapter.setTripSessions (s.adapter.mTripSessions.mapValues (·.rebase))
      |>.request (.joinRestart client id)).Awaited id' ↔ s.adapter.Awaited id' :=
    awaited_request nofun
  refine .of_zero rfl (fun hwait => hthis.trans (hzero (hawaited.1 hwait))) (fun hnot => ?_) ?_
  · have hcounted := htotal fun hwait => hnot (hawaited.2 hwait)
    exact ⟨hthis.trans hcounted.1, hcounted.2⟩
  · exact fun hnot => absurd (resetting_request rfl) hnot

/-- A trip has joined, and its status is that of the ongoing batch. -/
def joined (a : BatchingAdapter) (id : ℕ) (options : BatchingOptions) (accumulatedDistance : ℕ) :
    BatchingAdapter :=
  (a.noteWrap (decide (a.mOngoingTripDistance < accumulatedDistance))).setTripSessions
    (a.mTripSessions.insert id
      ⟨accumulatedDistance, 0, 0, options.minDistance, options.minInterval⟩)

theorem onJoinTrip_success (client : ℕ) (options : BatchingOptions) :
    a.onJoinTrip client id options .SUCCESS distance =
      match a.joinOngoing options (some (uint32Sub a.mOngoingTripDistance distance)) with
      | some (ongoingDistance, interval) =>
        (((joined a id options distance).setOngoing ongoingDistance interval).setTripSessions
          ((joined a id options distance).mTripSessions.mapValues (·.rebase))).request
            (.joinRestart client id)
      | none => (joined a id options distance).reportStart client id .SUCCESS := rfl

/-- A trip joins the ongoing batch, or makes it start again. -/
theorem Exact.joinTrip {client : ℕ} {options : BatchingOptions} (h : s.Exact)
    (hkeeps : s.RequestKeeps (.joinTrip client id options)) :
    (s.handle (.joinTrip client id options)).Exact := by
  obtain ⟨hle, hcounter, hupToDate⟩ := hkeeps
  generalize ha : s.adapter.take (.joinTrip client id options) = a
  have hnote : decide (a.mOngoingTripDistance < s.counter) = false := by
    rw [← ha]
    exact decide_eq_false (Nat.not_lt.2 hle)
  have htake : Fewer s.adapter a := by
    rw [← ha]
    exact fewer_take rfl
  have hf : Fewer s.adapter (a.noteWrap (decide (a.mOngoingTripDistance < s.counter))) :=
    htake.trans (fewer_noteWrap hnote)
  have hcounter' : a.Resetting → s.counter = 0 := fun hreset => hcounter (htake.resetting.1 hreset)
  have hjoined : Exact ⟨joined a id options s.counter, s.counter, Function.update s.total id 0⟩ :=
    (h.fewer hf).insert hcounter' options.minDistance options.minInterval
  have htrips : ∀ id' st, (joined a id options s.counter).mTripSessions.find id' = some st →
      id' = id ∧ st = ⟨s.counter, 0, 0, options.minDistance, options.minInterval⟩ ∨
        id' ≠ id ∧ s.adapter.mTripSessions.find id' = some st := by
    intro id' st hst
    change (a.mTripSessions.insert id _).find id' = some st at hst
    rw [OrdMap.find_insert, ← ha] at hst
    split_ifs at hst with hid
    · exact .inl ⟨hid, (Option.some.inj hst).symm⟩
    · exact .inr ⟨hid, hst⟩
  have hhandle : s.handle (.joinTrip client id options) =
      ⟨a.onJoinTrip client id options .SUCCESS s.counter, s.counter,
        Function.update s.total id 0⟩ := by
    rw [← ha]
    rfl
  have hongoing : a.joinOngoing options (some (uint32Sub a.mOngoingTripDistance s.counter)) =
      s.adapter.joinOngoing options
        (some (uint32Sub s.adapter.mOngoingTripDistance s.counter)) := by
    rw [← ha]
    rfl
  rw [hhandle, onJoinTrip_success, hongoing]
  cases hrestart : s.adapter.joinOngoing options
      (some (uint32Sub s.adapter.mOngoingTripDistance s.counter)) with
  | none => exact hjoined.fewer fewer_reportStart
  | some ongoing =>
    obtain ⟨ongoingDistance, interval⟩ := ongoing
    have hset := hjoined.fewer (fewer_setOngoing ongoingDistance interval)
    refine hset.rebase hcounter' (fun id' st hst => ?_) client id
    rcases htrips id' st hst with ⟨rfl, rfl⟩ | ⟨hne, hst⟩
    · show 0 = uint32Add 0 (uint32Sub s.counter s.counter)
      rw [uint32Sub_of_le le_rfl, Nat.sub_self]
      rfl
    · exact hupToDate (by rw [hrestart]; rfl) id' st hne hst

/-- What has been saved for a session changes nothing for the trips. -/
theorem fewer_onStartBatching {client : ℕ} {options : BatchingOptions} :
    Fewer a (a.onStartBatching client id options .SUCCESS) := fewer_reportStart

theorem Exact.onStopBatching {client : ℕ} {flpOptions options : BatchingOptions}
    {restartNeeded : Bool} (h : s.Exact) :
    (s.setAdapter (s.adapter.onStopBatching client id flpOptions restartNeeded options
      .SUCCESS)).Exact := by
  unfold BatchingAdapter.onStopBatching
  rw [if_neg (by nofun)]
  dsimp only
  rw [BatchingAdapter.ite_setBatchFull]
  generalize (if s.adapter.autoReportBatchingSessionsCount = 0 ∧
    flpOptions.batchingMode ≠ .NO_AUTO_REPORT then false else s.adapter.batchFull) = full
  have hfull : (s.setAdapter (s.adapter.setBatchFull full)).Exact :=
    h.fewer (fewer_of_eq rfl rfl rfl)
  split_ifs
  · have hstart : (s.setAdapter
        ((s.adapter.setBatchFull full).startSession client id options)).Exact :=
      hfull.startSession
    exact hstart.fewer fewer_reportStop
  · exact hfull.fewer fewer_reportStop

theorem Exact.onStopTrip {client : ℕ} {options : BatchingOptions} {restartNeeded : Bool}
    (h : s.Exact) (hothers : s.adapter.OthersWithin id) :
    (s.setAdapter (s.adapter.onStopTrip client id restartNeeded options .SUCCESS)).Exact := by
  unfold BatchingAdapter.onStopTrip
  dsimp only
  rw [BatchingAdapter.ite_setBatchFull]
  generalize (if LocationError.SUCCESS = .SUCCESS ∧ s.adapter.autoReportBatchingSessionsCount = 1
    then false else s.adapter.batchFull) = full
  have hfull : (s.setAdapter (s.adapter.setBatchFull full)).Exact :=
    h.fewer (fewer_of_eq rfl rfl rfl)
  exact hfull.stopCommon hothers

/-- The answer to a query sends no start of which the trips would have to know. -/
theorem fewer_onQueryTrips {queryAccumulatedDistance : Bool} {minDistance minInterval accDist : ℕ}
    (hkeeps : a.mTripWithOngoingTripDistanceDropped = true ∨
      (if queryAccumulatedDistance then distance else accDist) ≤ a.mOngoingTripDistance) :
    Fewer a (a.onQueryTrips queryAccumulatedDistance minDistance minInterval accDist distance) := by
  have hnote : (!a.mTripWithOngoingTripDistanceDropped && decide (a.mOngoingTripDistance <
      if queryAccumulatedDistance then distance else accDist)) = false := by
    rcases hkeeps with hdropped | hle
    · rw [hdropped]
      rfl
    · rw [decide_eq_false (Nat.not_lt.2 hle), Bool.and_false]
  unfold BatchingAdapter.onQueryTrips
  dsimp only
  exact Fewer.ite ((fewer_noteWrap hnote).trans (fewer_request rfl)) (fewer_noteWrap hnote)

/-- The engine takes a request. -/
theorem Exact.handle (h : s.Exact) (ho : s.adapter.outstanding = r :: rest)
    (hkeeps : s.RequestKeeps r) : (s.handle r).Exact := by
  have hrest : (s.adapter.take r).outstanding = rest := by
    show s.adapter.outstanding.erase r = rest
    rw [ho, List.erase_cons_head]
  cases r with
  | startBatching client id options =>
    exact h.fewer ((fewer_take rfl).trans fewer_onStartBatching)
  | stopBatching client id flpOptions restartNeeded options =>
    exact (h.fewer (fewer_take rfl)).onStopBatching
  | startTrip client id options => exact h.started ho rfl rfl hrest rfl
  | joinTrip client id options => exact h.joinTrip hkeeps
  | joinRestart client id => exact h.started ho rfl rfl hrest rfl
  | stopTrip client id restartNeeded options =>
    exact (h.fewer (fewer_take rfl)).onStopTrip hkeeps.2
  | queryTrips queryAccumulatedDistance minDistance minInterval accDist =>
    exact h.fewer ((fewer_take rfl).trans (fewer_onQueryTrips hkeeps))
  | restartTrips distance ongoingDistance interval =>
    have htake : Fewer s.adapter (s.adapter.take (.restartTrips distance ongoingDistance interval)) :=
      fewer_take rfl
    refine (h.fewer htake).onRestartTrips interval ongoingDistance fun id st hst => ?_
    refine (hkeeps id st hst).imp ?_ ?_
    · exact fun hd => ⟨htake.resetting.2 hd.1, hd.2⟩
    · exact fun hd => ⟨fun hreset => hd.1 (htake.resetting.1 hreset), hd.2⟩
  | restartSessions => exact h.started ho rfl rfl hrest rfl

end Answers

/-! ### Runs -/

section Runs

variable {s' : TripEngine} {e : TripEvent} {es : List TripEvent}

/-- A step whose condition is met keeps the counters exact. -/
theorem Exact.step (h : s.Exact) (hkeeps : s.Keeps e) (hstep : s.step e = some s') :
    s'.Exact := by
  cases e with
  | count distance =>
    simp only [TripEngine.step, Option.ite_none_right_eq_some, Option.some.injEq] at hstep
    obtain ⟨-, rfl⟩ := hstep
    exact h.count hkeeps
  | addClient client batchingCb =>
    cases hstep
    exact h.fewer (fewer_of_eq rfl rfl rfl)
  | startBatching client id options =>
    cases hstep
    exact h.procStartBatching
  | updateBatchingOptions client id options =>
    cases hstep
    exact h.procUpdateBatching hkeeps
  | stopBatching client id =>
    cases hstep
    exact h.procStopBatching hkeeps
  | reportCompletedTrips memory =>
    cases hstep
    exact h.fewer (h.report hkeeps).fewer
  | engineUp supported =>
    cases hstep
    have hsupported : (s.setAdapter { s.adapter with distanceBatchingSupported := supported }).Exact :=
      h.fewer (fewer_of_eq rfl rfl rfl)
    exact hsupported.restartSessions hkeeps
  | answer =>
    simp only [TripEngine.step] at hstep
    split at hstep
    · cases hstep
    · next r rest ho =>
      obtain rfl := Option.some.inj hstep
      exact h.handle ho (hkeeps r rest ho)

/-- A report of exact counters is exact. -/
theorem Exact.reportExact (h : s.Exact) {memory : ℕ → TripSessionStatus}
    (hkeeps : s.Keeps (.reportCompletedTrips memory))
    (hstep : s.step (.reportCompletedTrips memory) = some s') : ReportExact s s' := by
  cases hstep
  have hreports := h.report hkeeps
  refine ⟨fun id st hst => ?_, fun id st hst => ?_, fun id st hst => ?_⟩
  · have hbind := (hreports.trips id).symm.trans hst
    obtain ⟨st₀, hst₀, hreport⟩ := Option.bind_eq_some_iff.1 hbind
    obtain ⟨-, rfl⟩ := reportTrip_eq_some.1 hreport
    exact (h.distanceAt hkeeps hst₀).2
  · have hcompleted : ((s.adapter.procReportCompletedTrips s.counter memory).completedTrips.drop
        s.adapter.completedTrips.length).flatten = s.adapter.completedTripsList s.counter := by
      rw [hreports.completed, List.drop_left]
      split_ifs with hnone
      · exact List.append_nil _
      · exact (not_not.1 hnone).symm
    show id ∈ ((s.adapter.procReportCompletedTrips s.counter memory).completedTrips.drop
      s.adapter.completedTrips.length).flatten ↔ st.tripDistance ≤ s.total id
    rw [hcompleted, mem_completedTripsList, ← (h.distanceAt hkeeps hst).2]
    constructor
    · rintro ⟨st', hst', hle⟩
      obtain rfl := Option.some.inj (hst.symm.trans hst')
      exact hle
    · exact fun hle => ⟨st, hst, hle⟩
  · show (s.adapter.procReportCompletedTrips s.counter memory).mTripSessions.find id = none ↔
      st.tripDistance ≤ s.total id
    rw [hreports.trips, hst, ← (h.distanceAt hkeeps hst).2, Option.bind_some,
      BatchingAdapter.reportTrip]
    split_ifs with hle
    · exact iff_of_true rfl hle
    · exact iff_of_false nofun hle

/-- **Trip distance.**  In a run whose events meet their condition no subtraction wraps, and every
report gives the live trips the distance that has been counted for them and completes exactly those
that have reached theirs. -/
theorem distance_conserved (h : system.Run Keeps es s) :
    s.adapter.wrapped = false ∧
      ∀ memory s', s.Keeps (.reportCompletedTrips memory) →
        s.step (.reportCompletedTrips memory) = some s' → ReportExact s s' := by
  have hexact : s.Exact :=
    h.invariant (I := Exact) exact_init fun _ _ _ h hkeeps hstep => h.step hkeeps hstep
  exact ⟨hexact.wrapped, fun memory s' hkeeps hstep => hexact.reportExact hkeeps hstep⟩

/-- Options of a trip. -/
def tripOptions (minInterval minDistance : ℕ) : BatchingOptions :=
  ⟨24, minInterval, minDistance, .STANDALONE, 0, .TRIP⟩

/-- A trip is reported after 100 metres. -/
theorem distance_conserved_trip :
    ∃ s s', system.Run Keeps
        [.engineUp true, .addClient 1 true, .startBatching 1 5 (tripOptions 10 1000), .answer,
          .count 100] s ∧
      s.step (.reportCompletedTrips fun _ => ⟨0, 0, 0, 0, 0⟩) = some s' ∧ ReportExact s s' := by
  have h₁ : system.Run Keeps [.engineUp true] _ := .snoc .nil nofun rfl
  have h₂ := h₁.snoc (e := TripEvent.addClient 1 true) trivial rfl
  have h₃ := h₂.snoc (e := TripEvent.startBatching 1 5 (tripOptions 10 1000)) trivial rfl
  have h₄ := h₃.snoc (e := TripEvent.answer) (fun _ _ ho => by cases ho; trivial) rfl
  have hquiet : ∀ s : TripEngine, s.adapter.outstanding = [] → ¬ s.adapter.Resetting := by
    rintro s hs ⟨r, hmem, -⟩
    rw [hs] at hmem
    cases hmem
  have h₅ := h₄.snoc (e := TripEvent.count 100)
    (.inr fun id st hst => .inr ⟨hquiet _ rfl, by
      show Function.update (fun _ => 0) 5 0 id + 100 < 2 ^ 32
      rw [Function.update_apply, ite_self]
      decide⟩) rfl
  exact ⟨_, _, h₅, rfl, (distance_conserved h₅).2 (fun _ => ⟨0, 0, 0, 0, 0⟩) _
    (fun _ _ _ => .inl (hquiet _ rfl)) rfl⟩

/-- A trip with a smaller interval joins after 100 metres, and after another 50 the first trip is
reported with 50. -/
theorem distance_lost_by_join :
    ∃ s s', system.Run System.Free
        [.engineUp true, .addClient 1 true, .startBatching 1 5 (tripOptions 10 1000), .answer,
          .count 100, .startBatching 1 6 (tripOptions 5 1000), .answer, .answer, .count 50] s ∧
      s.step (.reportCompletedTrips fun _ => ⟨0, 0, 0, 0, 0⟩) = some s' ∧
      ¬ ReportExact s s' := by
  refine ⟨_, _, System.run_foldlM rfl, rfl, fun h => ?_⟩
  have hlive : (50 : ℕ) = 150 := h.live 5 ⟨0, 50, 0, 1000, 10⟩ rfl
  cases hlive

end Runs

end TripEngine

end GpsHal
