import GpsHal.Batching.OutdoorBatch

/-!
# `BatchingAdapter` : the outdoor batch suits the trips

The batch that will run when all starts under way are taken suits the trips: its distance ends no
later than theirs, its interval is at most theirs, and it is that of a trip unless the adapter has
noted that the trip is gone.  Commands, reports and restarts of the engine keep this.

## Main definitions

* `OutdoorEngine.upcoming` : the batch that will run.
* `OutdoorEngine.Suits`, `OutdoorEngine.Good`, `OutdoorEngine.Inv` : the invariant.
* `OutdoorEngine.Drops`, `OutdoorEngine.Begins` : what a message of the adapter does to the trips.

## Main results

* `OutdoorEngine.Inv.drops`, `OutdoorEngine.Inv.begins` : they keep the invariant.
* `OutdoorEngine.Inv.report`, `OutdoorEngine.Inv.engineUp` : so do reports and restarts.
-/

namespace GpsHal

namespace OutdoorEngine

open TripEngine

/-! ### The batch that will run -/

section Upcoming

variable (s : OutdoorEngine)

/-- The batch that runs when the starts among `sent` are taken. -/
def startedLast (batch : Option OutdoorBatch) (sent : List SentRequest) : Option OutdoorBatch :=
  newest (fun x => x.startedWith.map some) batch sent

/-- The batch that runs when all starts under way are taken. -/
def upcoming : Option OutdoorBatch := startedLast s.batch s.sent

/-- What the engine has counted of that batch. -/
def covered : ℕ := if s.trip.adapter.outstanding.any (·.startsBatch) then 0 else s.trip.counter

variable {s} {x : SentRequest} {batch : Option OutdoorBatch} {sent : List SentRequest}

theorem any_startsBatch_iff :
    s.trip.adapter.outstanding.any (·.startsBatch) = true ↔ s.trip.adapter.Resetting :=
  List.any_eq_true

theorem covered_of_resetting (h : s.trip.adapter.Resetting) : s.covered = 0 :=
  if_pos (any_startsBatch_iff.2 h)

theorem covered_of_settled (h : ¬ s.trip.adapter.Resetting) : s.covered = s.trip.counter :=
  if_neg (mt any_startsBatch_iff.1 h)

theorem startedWith_of_starts (batch : Option OutdoorBatch) (h : x.request.startsBatch = true) :
    x.startedWith = x.runs batch ∧ ∃ b, x.startedWith = some b := by
  unfold SentRequest.startedWith SentRequest.runs SentRequest.startedWith
  cases hx : x.request with
  | startTrip => exact ⟨rfl, _, rfl⟩
  | joinRestart => exact ⟨rfl, _, rfl⟩
  | restartSessions => exact ⟨rfl, _, rfl⟩
  | _ => rw [hx] at h; cases h

theorem startedWith_eq_none (h : x.request.startsBatch = false) : x.startedWith = none := by
  unfold SentRequest.startedWith
  cases hx : x.request with
  | startTrip => rw [hx] at h; cases h
  | joinRestart => rw [hx] at h; cases h
  | restartSessions => rw [hx] at h; cases h
  | _ => rfl

theorem startedLast_of_none (h : ∀ x ∈ sent, x.request.startsBatch = false) :
    startedLast batch sent = batch := by
  induction sent with
  | nil => rfl
  | cons x sent ih =>
    have hx := startedWith_eq_none (h x List.mem_cons_self)
    rw [startedLast, newest_cons, hx]
    exact ih fun y hy => h y (List.mem_cons_of_mem x hy)

theorem startedLast_append (batch : Option OutdoorBatch) (sent new : List SentRequest) :
    startedLast batch (sent ++ new) = startedLast (startedLast batch sent) new := newest_append

theorem startedLast_concat (h : x.request.startsBatch = true) :
    startedLast batch (sent ++ [x]) = x.startedWith := by
  obtain ⟨-, b, hb⟩ := startedWith_of_starts batch h
  rw [startedLast, newest_concat, hb]
  rfl

end Upcoming

/-! ### What is known of a request -/

/-- The least interval of the trips of `m`. -/
structure LeastInterval (m : OrdMap ℕ TripSessionStatus) (interval : ℕ) : Prop where
  le : ∀ id st, m.find id = some st → interval ≤ st.tripTBFInterval
  attained : ∃ id st, m.find id = some st ∧ st.tripTBFInterval = interval

/-- What is known of a request under way: a query has the least numbers of the trips for which it was
sent; a restart of the trips ends no later than they did; and a restart of the sessions has the least
interval. -/
def Good (x : SentRequest) : Prop :=
  match x.request with
  | .queryTrips _ minRemainingDistance minTBFInterval _ =>
    minRemainingDistance = x.state.adapter.minRemainingDistance ∧
      minTBFInterval = x.state.adapter.minTBFInterval
  | .restartTrips _ distance interval =>
    (∀ id st, x.state.adapter.mTripSessions.find id = some st →
      distance + x.state.total id ≤ st.tripDistance) ∧
      ((∃ id st, x.state.adapter.mTripSessions.find id = some st) →
        LeastInterval x.state.adapter.mTripSessions interval)
  | .restartSessions =>
    LeastInterval x.state.adapter.mTripSessions x.state.adapter.mOngoingTripTBFInterval
  | .startBatching .. | .stopBatching .. | .startTrip .. | .joinTrip .. | .joinRestart .. |
    .stopTrip .. => True

theorem good_of_not_restarts {x : SentRequest} (h : x.request.restarts = false) : Good x := by
  unfold Good
  cases hx : x.request with
  | queryTrips => rw [hx] at h; cases h
  | restartTrips => rw [hx] at h; cases h
  | restartSessions => rw [hx] at h; cases h
  | _ => trivial

theorem find_of_mem_values {m : OrdMap ℕ TripSessionStatus} {st : TripSessionStatus}
    (h : st ∈ m.values) : ∃ id, m.find id = some st := by
  obtain ⟨id, hid⟩ := OrdMap.mem_values.1 h
  exact ⟨id, OrdMap.find_eq_some.2 hid⟩

theorem mem_values_of_find {m : OrdMap ℕ TripSessionStatus} {id : ℕ} {st : TripSessionStatus}
    (h : m.find id = some st) : st ∈ m.values := OrdMap.mem_values.2 ⟨id, OrdMap.find_eq_some.1 h⟩

/-- The least of the numbers of some trips is that of one of them. -/
theorem leastSet_values {m : OrdMap ℕ TripSessionStatus} (f : TripSessionStatus → ℕ) {id : ℕ}
    {st : TripSessionStatus} (h : m.find id = some st) :
    ∃ id st, m.find id = some st ∧ leastSet f m.values = f st := by
  obtain ⟨st', hst', heq⟩ := leastSet_mem (f := f) (List.ne_nil_of_mem (mem_values_of_find h))
  obtain ⟨id', hid'⟩ := find_of_mem_values hst'
  exact ⟨id', st', hid', heq⟩

/-! ### The invariant -/

variable (s : OutdoorEngine)

/-- The batch suits the trips. -/
structure Suits (batch : OutdoorBatch) : Prop where
  distance : ∀ id st, s.HasTrip id st → s.trip.adapter.Awaited id ∨
    batch.tripDistance + s.trip.total id ≤ st.tripDistance + s.covered
  interval : ∀ id st, s.HasTrip id st → batch.tripTBFInterval ≤ st.tripTBFInterval
  attained : s.trip.adapter.mTripWithOngoingTBFDropped = true ∨
    ∃ id st, s.HasTrip id st ∧ st.tripTBFInterval = batch.tripTBFInterval
  ongoing : (∀ id, ¬ s.trip.adapter.Awaited id) →
    s.trip.adapter.mOngoingTripDistance = batch.tripDistance ∧
      s.trip.adapter.mOngoingTripTBFInterval = batch.tripTBFInterval

/-- The trip with these options is the only one, and the batch that will run is its own. -/
structure Alone (id : ℕ) (options : BatchingOptions) : Prop where
  batch : s.upcoming = some ⟨options.minDistance, options.minInterval⟩
  trip : s.HasTrip id ⟨0, 0, 0, options.minDistance, options.minInterval⟩
  only : ∀ id' st, s.HasTrip id' st → id' = id

structure Inv : Prop where
  noted : s.sent.map SentRequest.request = s.trip.adapter.outstanding
  good : ∀ x ∈ s.sent, Good x
  batch : (∃ id st, s.HasTrip id st) → ∃ batch, s.upcoming = some batch ∧ s.Suits batch
  awaited : ∀ client id options, .startTrip client id options ∈ s.trip.adapter.outstanding →
    s.Alone id options

variable {s}

theorem inv_init : init.Inv := by
  refine ⟨rfl, List.forall_mem_nil _, ?_, ?_⟩
  · rintro ⟨id, st, hst⟩
    cases hst
  · intro client id options hmem
    cases hmem

theorem Inv.alone (h : s.Inv) {id : ℕ} (hid : s.trip.adapter.Awaited id) :
    ∃ options, s.Alone id options := by
  obtain ⟨client, options, hmem⟩ := hid
  exact ⟨options, h.awaited client id options hmem⟩

/-! ### Requests that are added -/

variable {t : TripEngine} {a a' a'' : BatchingAdapter} {new new' : List BatchingRequest}
  {client id : ℕ} {options : BatchingOptions}

theorem Inv.sent_follow (h : s.Inv)
    (hnew : t.adapter.outstanding = s.trip.adapter.outstanding ++ new) :
    (s.follow t).sent = s.sent ++ new.map fun r => ⟨r, t⟩ := by
  have hlen : s.sent.length = s.trip.adapter.outstanding.length := by
    rw [← h.noted, List.length_map]
  rw [follow, hnew, hlen, List.drop_left]

theorem Inv.noted_follow (h : s.Inv)
    (hnew : t.adapter.outstanding = s.trip.adapter.outstanding ++ new) :
    (s.follow t).sent.map SentRequest.request = t.adapter.outstanding := by
  rw [h.sent_follow hnew, List.map_append, h.noted, List.map_map, hnew]
  exact congrArg _ (List.map_id new)

theorem Inv.good_follow (h : s.Inv)
    (hnew : t.adapter.outstanding = s.trip.adapter.outstanding ++ new)
    (hgood : ∀ r ∈ new, Good ⟨r, t⟩) : ∀ x ∈ (s.follow t).sent, Good x := by
  rw [h.sent_follow hnew]
  intro x hx
  rcases List.mem_append.1 hx with hx | hx
  · exact h.good x hx
  · obtain ⟨r, hr, rfl⟩ := List.mem_map.1 hx
    exact hgood r hr

/-- What leaves the trips, but for some that are gone, with their distances and their intervals, and
does not start the batch. -/
structure Drops (a a' : BatchingAdapter) (new : List BatchingRequest) : Prop where
  outstanding : a'.outstanding = a.outstanding ++ new
  starts : ∀ r ∈ new, r.startsBatch = false
  trips : ∀ id st, a'.mTripSessions.find id = some st →
    ∃ st₀, a.mTripSessions.find id = some st₀ ∧ st.tripDistance = st₀.tripDistance ∧
      st.tripTBFInterval = st₀.tripTBFInterval
  ongoing : (∃ id st, a'.mTripSessions.find id = some st) →
    a'.mOngoingTripDistance = a.mOngoingTripDistance ∧
      a'.mOngoingTripTBFInterval = a.mOngoingTripTBFInterval
  flag : a.mTripWithOngoingTBFDropped = true → a'.mTripWithOngoingTBFDropped = true
  dropped : ∀ id st, a.mTripSessions.find id = some st →
    st.tripTBFInterval = a.mOngoingTripTBFInterval → a'.mTripWithOngoingTBFDropped = true ∨
      ∃ id' st', a'.mTripSessions.find id' = some st' ∧
        st'.tripTBFInterval = a.mOngoingTripTBFInterval
  awaited : ∀ id, a.Awaited id → a'.mTripSessions.find id = a.mTripSessions.find id

section Drops

theorem Drops.mem_starts (h : Drops a a' new) {r : BatchingRequest} (hr : r.startsBatch = true) :
    r ∈ a'.outstanding ↔ r ∈ a.outstanding := by
  rw [h.outstanding, List.mem_append, or_iff_left]
  intro hmem
  rw [h.starts r hmem] at hr
  cases hr

theorem Drops.awaited_iff (h : Drops a a' new) : a'.Awaited id ↔ a.Awaited id :=
  exists_congr fun _ => exists_congr fun _ => h.mem_starts rfl

theorem Drops.resetting_iff (h : Drops a a' new) : a'.Resetting ↔ a.Resetting :=
  exists_congr fun _ => and_congr_left h.mem_starts

theorem drops_of_eq (htrips : a'.mTripSessions = a.mTripSessions)
    (hdistance : a'.mOngoingTripDistance = a.mOngoingTripDistance)
    (hinterval : a'.mOngoingTripTBFInterval = a.mOngoingTripTBFInterval)
    (hflag : a'.mTripWithOngoingTBFDropped = a.mTripWithOngoingTBFDropped)
    (hout : a'.outstanding = a.outstanding ++ new) (hstarts : ∀ r ∈ new, r.startsBatch = false) :
    Drops a a' new := by
  refine ⟨hout, hstarts, fun id st hst => ?_, fun _ => ⟨hdistance, hinterval⟩,
    fun hf => hflag.trans hf, fun id st hst heq => .inr ?_, fun _ _ => by rw [htrips]⟩
  · rw [htrips] at hst
    exact ⟨st, hst, rfl, rfl⟩
  · rw [htrips]
    exact ⟨id, st, hst, heq⟩

theorem Drops.trans (h : Drops a a' new) (h' : Drops a' a'' new') :
    Drops a a'' (new ++ new') := by
  have hback : (∃ id st, a''.mTripSessions.find id = some st) →
      ∃ id st, a'.mTripSessions.find id = some st := by
    rintro ⟨id, st, hst⟩
    obtain ⟨st₁, hst₁, -⟩ := h'.trips id st hst
    exact ⟨id, st₁, hst₁⟩
  refine ⟨?_, fun r hr => ?_, fun id st hst => ?_, fun hex => ?_, fun hf => h'.flag (h.flag hf),
    fun id st hst heq => ?_, fun id hid => ?_⟩
  · rw [h'.outstanding, h.outstanding, List.append_assoc]
  · exact (List.mem_append.1 hr).elim (h.starts r) (h'.starts r)
  · obtain ⟨st₁, hst₁, hdistance₁, hinterval₁⟩ := h'.trips id st hst
    obtain ⟨st₀, hst₀, hdistance₀, hinterval₀⟩ := h.trips id st₁ hst₁
    exact ⟨st₀, hst₀, hdistance₁.trans hdistance₀, hinterval₁.trans hinterval₀⟩
  · obtain ⟨hdistance', hinterval'⟩ := h'.ongoing hex
    obtain ⟨hdistance, hinterval⟩ := h.ongoing (hback hex)
    exact ⟨hdistance'.trans hdistance, hinterval'.trans hinterval⟩
  · rcases h.dropped id st hst heq with hflag | ⟨id₁, st₁, hst₁, heq₁⟩
    · exact .inl (h'.flag hflag)
    · have hsame := (h.ongoing ⟨id₁, st₁, hst₁⟩).2
      rw [← hsame] at heq₁ ⊢
      exact h'.dropped id₁ st₁ hst₁ heq₁
  · rw [h'.awaited id (h.awaited_iff.2 hid), h.awaited id hid]

/-- Nothing has changed for the batch. -/
theorem Inv.drops (h : s.Inv) (hd : Drops s.trip.adapter a' new)
    (hgood : ∀ r ∈ new, Good ⟨r, s.trip.setAdapter a'⟩) :
    (s.follow (s.trip.setAdapter a')).Inv := by
  have hsent : (s.follow (s.trip.setAdapter a')).sent = _ := h.sent_follow hd.outstanding
  have hupcoming : (s.follow (s.trip.setAdapter a')).upcoming = s.upcoming := by
    rw [upcoming, hsent, follow, startedLast_append]
    refine startedLast_of_none fun x hx => ?_
    obtain ⟨r, hr, rfl⟩ := List.mem_map.1 hx
    exact hd.starts r hr
  have hcovered : (s.follow (s.trip.setAdapter a')).covered = s.covered := by
    by_cases hreset : s.trip.adapter.Resetting
    · rw [covered_of_resetting hreset]
      exact covered_of_resetting (hd.resetting_iff.2 hreset)
    · rw [covered_of_settled hreset]
      exact covered_of_settled (mt hd.resetting_iff.1 hreset)
  refine ⟨h.noted_follow hd.outstanding, h.good_follow hd.outstanding hgood, ?_, ?_⟩
  · rintro ⟨id, st, hst⟩
    obtain ⟨st₀, hst₀, -⟩ := hd.trips id st hst
    obtain ⟨batch, hbatch, hsuits⟩ := h.batch ⟨id, st₀, hst₀⟩
    refine ⟨batch, hupcoming.trans hbatch, fun id' st' hst' => ?_, fun id' st' hst' => ?_, ?_, ?_⟩
    · obtain ⟨st₁, hst₁, hdistance, -⟩ := hd.trips id' st' hst'
      rw [hcovered, hdistance]
      exact (hsuits.distance id' st₁ hst₁).imp_left hd.awaited_iff.2
    · obtain ⟨st₁, hst₁, -, hinterval⟩ := hd.trips id' st' hst'
      rw [hinterval]
      exact hsuits.interval id' st₁ hst₁
    · rcases hsuits.attained with hflag | ⟨id₁, st₁, hst₁, heq⟩
      · exact .inl (hd.flag hflag)
      · by_cases hid : s.trip.adapter.Awaited id₁
        · exact .inr ⟨id₁, st₁, (hd.awaited id₁ hid).trans hst₁, heq⟩
        · -- no other trip awaits its start either
          have hnone : ∀ id₂, ¬ s.trip.adapter.Awaited id₂ := by
            intro id₂ hid₂
            obtain ⟨options, halone⟩ := h.alone hid₂
            rw [halone.only id₁ st₁ hst₁] at hid
            exact hid hid₂
          rw [← (hsuits.ongoing hnone).2] at heq ⊢
          exact hd.dropped id₁ st₁ hst₁ heq
    · intro hnone
      obtain ⟨hdistance, hinterval⟩ := hd.ongoing ⟨id, st, hst⟩
      obtain ⟨hdistance₀, hinterval₀⟩ := hsuits.ongoing fun id₁ hid₁ => hnone id₁ (hd.awaited_iff.2 hid₁)
      exact ⟨hdistance.trans hdistance₀, hinterval.trans hinterval₀⟩
  · intro client id options hmem
    have hmem₀ := (hd.mem_starts rfl).1 hmem
    have halone := h.awaited client id options hmem₀
    refine ⟨hupcoming.trans halone.batch, (hd.awaited id ⟨client, options, hmem₀⟩).trans halone.trip,
      fun id' st hst => ?_⟩
    obtain ⟨st₀, hst₀, -⟩ := hd.trips id' st hst
    exact halone.only id' st₀ hst₀

end Drops

/-! ### The first trip -/

/-- The first trip starts the batch. -/
structure Begins (a a' : BatchingAdapter) (client id : ℕ) (options : BatchingOptions) : Prop where
  outstanding : a'.outstanding = a.outstanding ++ [.startTrip client id options]
  trips : ∀ id', a'.mTripSessions.find id' =
    if id' = id then some ⟨0, 0, 0, options.minDistance, options.minInterval⟩ else none

section Begins

variable {err : LocationError} {restartNeeded : Bool}

/-- The batch of the first trip is the one that will run. -/
theorem Inv.begins (h : s.Inv) (hb : Begins s.trip.adapter a' client id options)
    (hnone : ∀ id, ¬ s.trip.adapter.Awaited id) : (s.follow (s.trip.setAdapter a')).Inv := by
  have hsent : (s.follow (s.trip.setAdapter a')).sent = _ := h.sent_follow hb.outstanding
  have hupcoming : (s.follow (s.trip.setAdapter a')).upcoming =
      some ⟨options.minDistance, options.minInterval⟩ := by
    rw [upcoming, hsent, follow]
    exact startedLast_concat rfl
  have hawaited : a'.Awaited id := by
    refine ⟨client, options, ?_⟩
    rw [hb.outstanding]
    exact List.mem_append_right _ List.mem_cons_self
  have htrips : ∀ id' st, a'.mTripSessions.find id' = some st →
      id' = id ∧ st = ⟨0, 0, 0, options.minDistance, options.minInterval⟩ := by
    intro id' st hst
    rw [hb.trips] at hst
    split_ifs at hst with hid
    exact ⟨hid, (Option.some.inj hst).symm⟩
  refine ⟨h.noted_follow hb.outstanding, h.good_follow hb.outstanding fun r hr => ?_,
    fun _ => ⟨_, hupcoming, fun id' st hst => ?_, fun id' st hst => ?_, ?_, ?_⟩, ?_⟩
  · obtain rfl := List.mem_singleton.1 hr
    trivial
  · obtain ⟨rfl, -⟩ := htrips id' st hst
    exact .inl hawaited
  · obtain ⟨-, rfl⟩ := htrips id' st hst
    exact Nat.le_refl _
  · refine .inr ⟨id, ⟨0, 0, 0, options.minDistance, options.minInterval⟩, ?_, rfl⟩
    exact (hb.trips id).trans (if_pos rfl)
  · exact fun hnot => absurd hawaited (hnot id)
  · intro client' id' options' hmem
    change _ ∈ a'.outstanding at hmem
    rw [hb.outstanding] at hmem
    rcases List.mem_append.1 hmem with hmem | hmem
    · exact absurd ⟨client', options', hmem⟩ (hnone id')
    · cases List.mem_singleton.1 hmem
      exact ⟨hupcoming, (hb.trips id).trans (if_pos rfl), fun id' st hst => (htrips id' st hst).1⟩

/-- What starting a session does: a request that does not concern the batch, or the first trip. -/
theorem startSession_cases (a : BatchingAdapter) (client id : ℕ) (options : BatchingOptions) :
    (∃ r : BatchingRequest, r.restarts = false ∧
      Drops a (a.startSession client id options) [r] ∧
      (a.startSession client id options).mTripSessions = a.mTripSessions) ∨
    a.mTripSessions.size = 0 ∧ Begins a (a.startSession client id options) client id options := by
  have hbatch : Drops a (a.startBatching client id options)
      [.startBatching client id options] := by
    unfold BatchingAdapter.startBatching
    dsimp only
    rw [BatchingAdapter.ite_setBatchFull]
    exact drops_of_eq rfl rfl rfl rfl rfl fun r hr => by rw [List.mem_singleton.1 hr]; rfl
  have hbatch' : (a.startBatching client id options).mTripSessions = a.mTripSessions := by
    unfold BatchingAdapter.startBatching
    dsimp only
    rw [BatchingAdapter.ite_setBatchFull]
    rfl
  unfold BatchingAdapter.startSession
  cases options.batchingMode with
  | ROUTINE => exact .inl ⟨_, rfl, hbatch, hbatch'⟩
  | NO_AUTO_REPORT => exact .inl ⟨_, rfl, hbatch, hbatch'⟩
  | TRIP =>
    dsimp only
    unfold BatchingAdapter.startTripBatchingMultiplex
    by_cases hsize : a.mTripSessions.size = 0
    · refine .inr ⟨hsize, ?_⟩
      rw [if_pos hsize]
      dsimp only
      rw [BatchingAdapter.ite_setBatchFull]
      refine ⟨rfl, fun id' => ?_⟩
      change (a.mTripSessions.insert id _).find id' = _
      rw [OrdMap.find_insert, OrdMap.size_eq_zero.1 hsize]
    · rw [if_neg hsize]
      exact .inl ⟨.joinTrip client id options, rfl,
        drops_of_eq rfl rfl rfl rfl rfl fun r hr => by rw [List.mem_singleton.1 hr]; rfl, rfl⟩

theorem Inv.not_awaited (h : s.Inv) (hsize : s.trip.adapter.mTripSessions.size ≠ 1) (id : ℕ) :
    ¬ s.trip.adapter.Awaited id := by
  intro hid
  obtain ⟨options, halone⟩ := h.alone hid
  refine hsize ((OrdMap.size_eq_one halone.trip).2 (OrdMap.isEmpty_iff_find.2 fun id' => ?_))
  rw [OrdMap.find_erase]
  split_ifs with hid'
  · rfl
  · cases hst : s.trip.adapter.mTripSessions.find id' with
    | none => rfl
    | some st => exact absurd (halone.only id' st hst) hid'

end Begins

/-! ### Commands -/

section Commands

variable {err : LocationError} {restartNeeded : Bool} {memory : ℕ → TripSessionStatus}

/-- One request more that does not concern the batch. -/
theorem drops_request {r : BatchingRequest} (hr : r.startsBatch = false) :
    Drops a (a.request r) [r] :=
  drops_of_eq rfl rfl rfl rfl rfl fun r' hr' => by rw [List.mem_singleton.1 hr']; exact hr

/-- Nothing that concerns the batch. -/
theorem drops_nil (htrips : a'.mTripSessions = a.mTripSessions)
    (hdistance : a'.mOngoingTripDistance = a.mOngoingTripDistance)
    (hinterval : a'.mOngoingTripTBFInterval = a.mOngoingTripTBFInterval)
    (hflag : a'.mTripWithOngoingTBFDropped = a.mTripWithOngoingTBFDropped)
    (hout : a'.outstanding = a.outstanding) : Drops a a' [] :=
  drops_of_eq htrips hdistance hinterval hflag (hout.trans (List.append_nil _).symm)
    (List.forall_mem_nil _)

theorem reportStop_eq (a : BatchingAdapter) (client id : ℕ) (err : LocationError) :
    ∃ started, a.reportStop client id err = { a with started := started } := by
  unfold BatchingAdapter.reportStop
  split_ifs
  · exact ⟨_, rfl⟩
  · exact ⟨a.started, rfl⟩

theorem drops_stopBatching (a : BatchingAdapter) (client id : ℕ) (restartNeeded : Bool)
    (options : BatchingOptions) : ∃ new, Drops a (a.stopBatching client id restartNeeded options) new ∧
      ∀ r ∈ new, r.restarts = false := by
  unfold BatchingAdapter.stopBatching
  split
  · rename_i flpOptions _
    have herase : Drops a (a.eraseBatchingSession client id) [] := drops_nil rfl rfl rfl rfl rfl
    refine ⟨_, herase.trans (drops_request rfl), fun r hr => ?_⟩
    rw [List.mem_singleton.1 hr]
    rfl
  · exact ⟨[], drops_nil rfl rfl rfl rfl rfl, List.forall_mem_nil _⟩

/-- Without trips the numbers of the batch do not matter. -/
theorem drops_setOngoing (hempty : ∀ id, a.mTripSessions.find id = none) :
    Drops a (a.setOngoing 0 0) [] := by
  refine ⟨(List.append_nil _).symm, List.forall_mem_nil _, fun id st hst => ⟨st, hst, rfl, rfl⟩, ?_,
    fun hf => hf, fun id st hst heq => .inr ⟨id, st, hst, heq⟩, fun _ _ => rfl⟩
  rintro ⟨id, st, hst⟩
  cases hst.symm.trans (hempty id)

/-- A restart of the trips that are left asks for what has been counted. -/
theorem drops_restartTripBatching (a : BatchingAdapter) (query : Bool) (accDist : ℕ) :
    ∃ new, Drops a (a.restartTripBatching query accDist) new ∧
      (a.restartTripBatching query accDist).mTripSessions = a.mTripSessions ∧
      ∀ r ∈ new, a.mTripSessions.isEmpty = false ∧
        r = .queryTrips query a.minRemainingDistance a.minTBFInterval accDist := by
  unfold BatchingAdapter.restartTripBatching
  by_cases hempty : a.mTripSessions.isEmpty = true
  · rw [if_pos hempty]
    dsimp only
    rw [BatchingAdapter.ite_setBatchFull]
    have hongoing := drops_setOngoing (OrdMap.isEmpty_iff_find.1 hempty)
    exact ⟨[], hongoing.trans (drops_nil rfl rfl rfl rfl rfl), rfl, List.forall_mem_nil _⟩
  · rw [if_neg hempty]
    have hnote : Drops a (a.noteWrap a.remainingWraps) [] := drops_nil rfl rfl rfl rfl rfl
    refine ⟨_, hnote.trans (drops_request rfl), rfl, fun r hr => ?_⟩
    exact ⟨by simpa using hempty, List.mem_singleton.1 hr⟩

theorem good_queryTrips {query : Bool} {accDist : ℕ} {r : BatchingRequest}
    (hr : r = .queryTrips query a.minRemainingDistance a.minTBFInterval accDist)
    (htrips : t.adapter.mTripSessions = a.mTripSessions) : Good ⟨r, t⟩ := by
  rw [hr]
  refine ⟨?_, ?_⟩
  · rw [BatchingAdapter.minRemainingDistance, BatchingAdapter.minRemainingDistance, htrips]
  · rw [BatchingAdapter.minTBFInterval, BatchingAdapter.minTBFInterval, htrips]

theorem Inv.startSession (h : s.Inv) :
    (s.follow (s.trip.setAdapter (s.trip.adapter.startSession client id options))).Inv := by
  rcases startSession_cases s.trip.adapter client id options with ⟨r, hr, hd, -⟩ | ⟨hsize, hb⟩
  · refine h.drops hd fun r' hr' => ?_
    rw [List.mem_singleton.1 hr']
    exact good_of_not_restarts hr
  · exact h.begins hb (h.not_awaited (by omega))

/-- A trip is gone, and that is noted if it had the interval of the batch. -/
theorem drops_dropTrip (hnone : ∀ id, ¬ a.Awaited id) (id : ℕ) :
    Drops a ((a.dropTrip (a.tripStatus id)).setTripSessions
      ((a.dropTrip (a.tripStatus id)).mTripSessions.erase id)) [] := by
  refine ⟨(List.append_nil _).symm, List.forall_mem_nil _, fun id' st hst => ?_,
    fun _ => ⟨rfl, rfl⟩, fun hf => ?_, fun id' st hst heq => ?_,
    fun id' hid' => absurd hid' (hnone id')⟩
  · change (a.mTripSessions.erase id).find id' = some st at hst
    rw [OrdMap.find_erase] at hst
    split_ifs at hst
    exact ⟨st, hst, rfl, rfl⟩
  · show (a.mTripWithOngoingTBFDropped || _) = true
    rw [hf, Bool.true_or]
  · by_cases hid : id' = id
    · subst hid
      refine .inl ?_
      show (_ || decide ((a.tripStatus id').tripTBFInterval = a.mOngoingTripTBFInterval)) = true
      have hstatus : a.tripStatus id' = st := by
        rw [BatchingAdapter.tripStatus, hst]
        rfl
      rw [hstatus, heq, decide_eq_true rfl, Bool.or_true]
    · refine .inr ⟨id', st, ?_, heq⟩
      show (a.mTripSessions.erase id).find id' = some st
      rw [OrdMap.find_erase, if_neg hid, hst]

/-- A session is started again, if that is asked for, and its stop is reported.  Before that nothing
has been sent, or for trips that are left. -/
theorem Inv.startAgain (h : s.Inv) (hd : Drops s.trip.adapter a new)
    (hd' : Drops s.trip.adapter a' new) (htrips : a'.mTripSessions = a.mTripSessions)
    (hnew : ∀ r ∈ new, a.mTripSessions.isEmpty = false ∧
      ∀ t : TripEngine, t.adapter.mTripSessions = a.mTripSessions → Good ⟨r, t⟩) :
    (s.follow (s.trip.setAdapter ((if restartNeeded = true then a.startSession client id options
      else a').reportStop client id err))).Inv := by
  obtain ⟨started, hreport⟩ := reportStop_eq
    (if restartNeeded = true then a.startSession client id options else a') client id err
  rw [hreport]
  split_ifs
  · rcases startSession_cases a client id options with ⟨r, hr, hd₂, htrips₂⟩ | ⟨hsize, hb⟩
    · have hd₃ : Drops (a.startSession client id options)
          { a.startSession client id options with started := started } [] :=
        drops_nil rfl rfl rfl rfl rfl
      refine h.drops ((hd.trans hd₂).trans hd₃) fun r' hr' => ?_
      rw [List.append_nil] at hr'
      rcases List.mem_append.1 hr' with hr' | hr'
      · exact (hnew r' hr').2 _ htrips₂
      · rw [List.mem_singleton.1 hr']
        exact good_of_not_restarts hr
    · -- without trips nothing has been sent
      have hempty : a.mTripSessions.isEmpty = true :=
        OrdMap.isEmpty_iff_find.2 (OrdMap.size_eq_zero.1 hsize)
      have hnil : new = [] := by
        rw [List.eq_nil_iff_forall_not_mem]
        intro r hr
        cases hempty.symm.trans (hnew r hr).1
      have hout : a.outstanding = s.trip.adapter.outstanding := by
        rw [hd.outstanding, hnil, List.append_nil]
      have hbegins : Begins s.trip.adapter
          { a.startSession client id options with started := started } client id options := by
        refine ⟨?_, hb.trips⟩
        rw [← hout]
        exact hb.outstanding
      refine h.begins hbegins fun id' hid' => ?_
      obtain ⟨options', halone⟩ := h.alone hid'
      have hfind := (hd.awaited id' hid').trans halone.trip
      cases hfind.symm.trans (OrdMap.size_eq_zero.1 hsize id')
  · have hd₂ : Drops a' { a' with started := started } [] := drops_nil rfl rfl rfl rfl rfl
    refine h.drops (hd'.trans hd₂) fun r hr => ?_
    rw [List.append_nil] at hr
    exact (hnew r hr).2 _ htrips

theorem Inv.stopCommon (h : s.Inv) (hnone : ∀ id, ¬ s.trip.adapter.Awaited id) :
    (s.follow (s.trip.setAdapter (s.trip.adapter.stopTripBatchingMultiplexCommon err client id
      restartNeeded options))).Inv := by
  unfold BatchingAdapter.stopTripBatchingMultiplexCommon
  dsimp only
  have herase := drops_dropTrip hnone id
  generalize (s.trip.adapter.dropTrip (s.trip.adapter.tripStatus id)).setTripSessions _ = a₁
    at herase ⊢
  have hrestart : ∃ new, Drops a₁
      (if a₁.mTripSessions.size = 0 then a₁.setOngoing 0 0 else a₁.restartTripBatching true 0) new ∧
      (if a₁.mTripSessions.size = 0 then a₁.setOngoing 0 0
        else a₁.restartTripBatching true 0).mTripSessions = a₁.mTripSessions ∧
      ∀ r ∈ new, a₁.mTripSessions.isEmpty = false ∧
        r = .queryTrips true a₁.minRemainingDistance a₁.minTBFInterval 0 := by
    split_ifs with hsize
    · exact ⟨[], drops_setOngoing (OrdMap.size_eq_zero.1 hsize), rfl, List.forall_mem_nil _⟩
    · exact drops_restartTripBatching a₁ true 0
  obtain ⟨new, hd, htrips, hnew⟩ := hrestart
  generalize (if a₁.mTripSessions.size = 0 then a₁.setOngoing 0 0
    else a₁.restartTripBatching true 0) = a₂ at hd htrips ⊢
  have hd₂ := herase.trans hd
  rw [List.nil_append] at hd₂
  have hforget : Drops s.trip.adapter (a₂.eraseBatchingSession client id) (new ++ []) :=
    hd₂.trans (drops_nil rfl rfl rfl rfl rfl)
  rw [List.append_nil] at hforget
  have htrips' : (a₂.eraseBatchingSession client id).mTripSessions = a₁.mTripSessions := htrips
  refine h.startAgain hforget hd₂ rfl fun r hr => ?_
  rw [htrips']
  exact ⟨(hnew r hr).1, fun t ht => good_queryTrips (hnew r hr).2 ht⟩

theorem Inv.stopTrip (h : s.Inv) :
    (s.follow (s.trip.setAdapter (s.trip.adapter.stopTripBatchingMultiplex client id restartNeeded
      options))).Inv := by
  unfold BatchingAdapter.stopTripBatchingMultiplex
  split_ifs with hsize
  · refine h.drops (drops_request rfl) fun r hr => ?_
    rw [List.mem_singleton.1 hr]
    trivial
  · exact h.stopCommon (h.not_awaited hsize)

theorem Inv.stopBatching (h : s.Inv) :
    (s.follow (s.trip.setAdapter (s.trip.adapter.stopBatching client id restartNeeded
      options))).Inv := by
  obtain ⟨new, hd, hnew⟩ := drops_stopBatching s.trip.adapter client id restartNeeded options
  exact h.drops hd fun r hr => good_of_not_restarts (hnew r hr)

/-- A message that has been refused. -/
theorem Inv.refused (h : s.Inv) : (s.follow (s.trip.setAdapter s.trip.adapter)).Inv :=
  h.drops (drops_nil rfl rfl rfl rfl rfl) (List.forall_mem_nil _)

theorem Inv.procStartBatching (h : s.Inv) :
    (s.follow (s.trip.setAdapter (s.trip.adapter.procStartBatching client id options))).Inv := by
  unfold BatchingAdapter.procStartBatching
  split_ifs
  · exact h.refused
  · exact h.refused
  · exact h.refused
  · exact h.startSession

theorem Inv.procUpdateBatching (h : s.Inv) :
    (s.follow (s.trip.setAdapter (s.trip.adapter.procUpdateBatching client id options))).Inv := by
  unfold BatchingAdapter.procUpdateBatching
  split_ifs
  · exact h.refused
  · exact h.refused
  · exact h.stopBatching
  · exact h.stopTrip

theorem Inv.procStopBatching (h : s.Inv) :
    (s.follow (s.trip.setAdapter (s.trip.adapter.procStopBatching client id))).Inv := by
  unfold BatchingAdapter.procStopBatching
  split_ifs
  · exact h.refused
  · exact h.stopTrip
  · exact h.stopBatching

end Commands

/-! ### Events of the engine -/

section Events

variable {memory : ℕ → TripSessionStatus}

/-- What is noted of the trips that a report completes. -/
theorem foldl_dropTrip_flag (memory : ℕ → TripSessionStatus) (l : List ℕ) (a : BatchingAdapter) :
    (l.foldl (fun a id => a.dropTrip (memory id)) a).mTripWithOngoingTBFDropped =
      (a.mTripWithOngoingTBFDropped ||
        l.any fun id => decide ((memory id).tripTBFInterval = a.mOngoingTripTBFInterval)) := by
  induction l generalizing a with
  | nil => exact (Bool.or_false _).symm
  | cons id l ih =>
    rw [List.foldl_cons, ih, List.any_cons, ← Bool.or_assoc]
    rfl

/-- The trips come closer to their end with the batch. -/
theorem Inv.count (h : s.Inv) {distance : ℕ} (hkeeps : s.Keeps (.count distance)) :
    Inv { s with trip := { s.trip with
      counter := s.trip.counter + distance
      total := fun id => s.trip.total id + distance } } := by
  refine ⟨h.noted, h.good, fun hex => ?_, fun client id options hmem => ?_⟩
  · obtain ⟨batch, hbatch, hsuits⟩ := h.batch hex
    refine ⟨batch, hbatch, fun id st hst => ?_, hsuits.interval, hsuits.attained, hsuits.ongoing⟩
    have hle := hsuits.distance id st hst
    rcases hkeeps with rfl | hkeeps
    · exact hle
    · rcases hkeeps id st hst with hid | hreset
      · exact .inl hid
      · refine hle.imp_right fun hle => ?_
        rw [covered_of_settled hreset] at hle
        show batch.tripDistance + (s.trip.total id + distance) ≤ st.tripDistance +
          (if s.trip.adapter.outstanding.any (·.startsBatch) then 0 else s.trip.counter + distance)
        rw [if_neg (mt any_startsBatch_iff.1 hreset)]
        omega
  · obtain ⟨hbatch, htrip, honly⟩ := h.awaited client id options hmem
    exact ⟨hbatch, htrip, honly⟩

/-- A report leaves the trips that are not completed, and notes that the trip with the interval of the
batch is gone if what it reads of that trip says so. -/
theorem drops_report {distance : ℕ} (memory : ℕ → TripSessionStatus) (hnone : ∀ id, ¬ a.Awaited id)
    (hmemory : ∀ id st, a.mTripSessions.find id = some st →
      st.tripDistance ≤ st.distanceAt distance →
        st.tripTBFInterval = a.mOngoingTripTBFInterval →
          (memory id).tripTBFInterval = a.mOngoingTripTBFInterval) :
    Drops a ((a.completedTripsList distance).foldl (fun a id => a.dropTrip (memory id))
      ((a.noteWrap (a.distanceWraps distance)).setTripSessions
        ((a.noteWrap (a.distanceWraps distance)).mTripSessions.filterMap fun _ st =>
          BatchingAdapter.reportTrip distance st))) [] := by
  obtain ⟨interval, dropped, hfold⟩ := foldl_dropTrip memory (a.completedTripsList distance)
    ((a.noteWrap (a.distanceWraps distance)).setTripSessions
      ((a.noteWrap (a.distanceWraps distance)).mTripSessions.filterMap fun _ st =>
        BatchingAdapter.reportTrip distance st))
  have hflag := foldl_dropTrip_flag memory (a.completedTripsList distance)
    ((a.noteWrap (a.distanceWraps distance)).setTripSessions
      ((a.noteWrap (a.distanceWraps distance)).mTripSessions.filterMap fun _ st =>
        BatchingAdapter.reportTrip distance st))
  rw [hfold] at hflag ⊢
  change interval = (a.mTripWithOngoingTBFDropped || (a.completedTripsList distance).any fun id =>
    decide ((memory id).tripTBFInterval = a.mOngoingTripTBFInterval)) at hflag
  have htrips : ∀ id, (a.mTripSessions.filterMap fun _ st =>
      BatchingAdapter.reportTrip distance st).find id =
        (a.mTripSessions.find id).bind (BatchingAdapter.reportTrip distance) :=
    fun id => OrdMap.find_filterMap _
  refine ⟨(List.append_nil _).symm, List.forall_mem_nil _, fun id st hst => ?_,
    fun _ => ⟨rfl, rfl⟩, fun hf => ?_, fun id st hst heq => ?_,
    fun id hid => absurd hid (hnone id)⟩
  · obtain ⟨st₀, hst₀, hreport⟩ := Option.bind_eq_some_iff.1 ((htrips id).symm.trans hst)
    obtain ⟨-, rfl⟩ := reportTrip_eq_some.1 hreport
    exact ⟨st₀, hst₀, rfl, rfl⟩
  · show interval = true
    rw [hflag, hf, Bool.true_or]
  · by_cases hle : st.tripDistance ≤ st.distanceAt distance
    · refine .inl ?_
      show interval = true
      rw [hflag, Bool.or_eq_true, List.any_eq_true]
      exact .inr ⟨id, mem_completedTripsList.2 ⟨st, hst, hle⟩,
        decide_eq_true (hmemory id st hst hle heq)⟩
    · refine .inr ⟨id, st.report distance, (htrips id).trans ?_, heq⟩
      rw [hst, Option.bind_some]
      exact reportTrip_eq_some.2 ⟨Nat.not_le.1 hle, rfl⟩

theorem Inv.report (h : s.Inv) (hkeeps : s.Keeps (.reportCompletedTrips memory)) :
    (s.follow (s.trip.setAdapter
      (s.trip.adapter.procReportCompletedTrips s.trip.counter memory))).Inv := by
  have hnone : ∀ id, ¬ s.trip.adapter.Awaited id := by
    intro id hid
    obtain ⟨options, halone⟩ := h.alone hid
    exact (hkeeps id _ halone.trip).1 hid
  unfold BatchingAdapter.procReportCompletedTrips
  dsimp only
  have hd := drops_report memory hnone fun id st hst => (hkeeps id st hst).2
  generalize List.foldl _ _ (s.trip.adapter.completedTripsList s.trip.counter) = a₁ at hd ⊢
  split_ifs with hany
  · have hd₂ : Drops a₁ { a₁ with
        completedTrips := a₁.completedTrips ++
          [s.trip.adapter.completedTripsList s.trip.counter] } [] := drops_nil rfl rfl rfl rfl rfl
    generalize ({ a₁ with completedTrips := _ } : BatchingAdapter) = a₂ at hd₂ ⊢
    obtain ⟨new, hd₃, htrips, hnew⟩ := drops_restartTripBatching a₂ false s.trip.counter
    refine h.drops ((hd.trans hd₂).trans hd₃) fun r hr => ?_
    rw [List.append_nil, List.nil_append] at hr
    exact good_queryTrips (hnew r hr).2 htrips
  · exact h.drops hd (List.forall_mem_nil _)

/-- The least interval of trips among which a 0 comes last. -/
theorem leastInterval_leastSet {m : OrdMap ℕ TripSessionStatus}
    (hzero : ZeroLast TripSessionStatus.tripTBFInterval m.values) {st : TripSessionStatus}
    (hst : m.find id = some st) :
    LeastInterval m (leastSet TripSessionStatus.tripTBFInterval m.values) := by
  refine ⟨fun id' st' hst' => leastSet_le hzero (mem_values_of_find hst'), ?_⟩
  obtain ⟨id', st', hst', heq⟩ := leastSet_values TripSessionStatus.tripTBFInterval hst
  exact ⟨id', st', hst', heq.symm⟩

theorem restartSessions_mTripSessions (a : BatchingAdapter) :
    a.restartSessions.mTripSessions = a.mTripSessions := by
  unfold BatchingAdapter.restartSessions
  dsimp only
  split_ifs <;> rfl

/-- A restart of the sessions starts the batch with what the trips have left. -/
theorem Inv.restartSessions (h : s.Inv) (hknown : s.KnownWithin s.trip.adapter.mTripSessions)
    (hremaining : ZeroLast TripSessionStatus.remaining s.trip.adapter.mTripSessions.values)
    (hinterval : ZeroLast TripSessionStatus.tripTBFInterval s.trip.adapter.mTripSessions.values)
    (ha : a'.mTripSessions = s.trip.adapter.mTripSessions)
    (hdistance : a'.mOngoingTripDistance = s.trip.adapter.minRemainingDistance)
    (htbf : a'.mOngoingTripTBFInterval = s.trip.adapter.minTBFInterval)
    (hout : a'.outstanding = s.trip.adapter.outstanding ++ [.restartSessions])
    {st : TripSessionStatus} (hst : s.HasTrip id st) :
    (s.follow (s.trip.setAdapter a')).Inv := by
  have hleast : LeastInterval s.trip.adapter.mTripSessions s.trip.adapter.minTBFInterval :=
    leastInterval_leastSet hinterval hst
  have hsent : (s.follow (s.trip.setAdapter a')).sent = _ := h.sent_follow hout
  have hupcoming : (s.follow (s.trip.setAdapter a')).upcoming =
      some ⟨s.trip.adapter.minRemainingDistance, s.trip.adapter.minTBFInterval⟩ := by
    rw [upcoming, hsent, follow, List.map_singleton, startedLast_concat rfl, ← hdistance, ← htbf]
    rfl
  have hreset : a'.Resetting := by
    refine ⟨.restartSessions, ?_, rfl⟩
    rw [hout]
    exact List.mem_append_right _ List.mem_cons_self
  have hawaited : ∀ id client options, BatchingRequest.startTrip client id options ∈ a'.outstanding ↔
      BatchingRequest.startTrip client id options ∈ s.trip.adapter.outstanding := by
    intro id client options
    rw [hout, List.mem_append, or_iff_left]
    rw [List.mem_singleton]
    nofun
  refine ⟨h.noted_follow hout, h.good_follow hout fun r hr => ?_, fun _ => ⟨_, hupcoming, ?_⟩, ?_⟩
  · rw [List.mem_singleton.1 hr]
    show LeastInterval a'.mTripSessions a'.mOngoingTripTBFInterval
    rw [ha, htbf]
    exact hleast
  · refine ⟨fun id' st' hst' => ?_, fun id' st' hst' => ?_, .inr ?_, fun _ => ⟨hdistance, htbf⟩⟩
    · change a'.mTripSessions.find id' = some st' at hst'
      rw [ha] at hst'
      rcases hknown id' st' hst' with ⟨client, options, hmem⟩ | ⟨id₀, st₀, hst₀, hle⟩
      · exact .inl ⟨client, options, (hawaited id' client options).2 hmem⟩
      · refine .inr ?_
        rw [covered_of_resetting hreset]
        have hmin : s.trip.adapter.minRemainingDistance ≤ st₀.remaining :=
          leastSet_le hremaining (mem_values_of_find hst₀)
        show s.trip.adapter.minRemainingDistance + s.trip.total id' ≤ st'.tripDistance + 0
        omega
    · change a'.mTripSessions.find id' = some st' at hst'
      rw [ha] at hst'
      exact hleast.le id' st' hst'
    · obtain ⟨id', st', hst', heq⟩ := hleast.attained
      refine ⟨id', st', ?_, heq⟩
      show a'.mTripSessions.find id' = some st'
      rw [ha, hst']
  · intro client id options hmem
    obtain ⟨-, htrip, honly⟩ := h.awaited client id options ((hawaited id client options).1 hmem)
    -- the numbers are those of the only trip
    have hvalue : ∀ id' st', s.HasTrip id' st' →
        st' = ⟨0, 0, 0, options.minDistance, options.minInterval⟩ := by
      intro id' st' hst'
      obtain rfl := honly id' st' hst'
      exact Option.some.inj (hst'.symm.trans htrip)
    obtain ⟨id₁, st₁, hst₁, hmin₁⟩ := leastSet_values TripSessionStatus.remaining hst
    obtain ⟨id₂, st₂, hst₂, hmin₂⟩ := hleast.attained
    have hdistance' : s.trip.adapter.minRemainingDistance = options.minDistance := by
      refine hmin₁.trans ?_
      rw [hvalue id₁ st₁ hst₁, TripSessionStatus.remaining, uint32Sub_of_le (Nat.zero_le _)]
      rfl
    have hinterval' : s.trip.adapter.minTBFInterval = options.minInterval := by
      rw [← hmin₂, hvalue id₂ st₂ hst₂]
    refine ⟨?_, ?_, fun id' st' hst' => ?_⟩
    · rw [hupcoming, hdistance', hinterval']
    · show a'.mTripSessions.find id = _
      rw [ha]
      exact htrip
    · change a'.mTripSessions.find id' = some st' at hst'
      rw [ha] at hst'
      exact honly id' st' hst'

theorem Inv.engineUp (h : s.Inv) {supported : Bool} (hkeeps : s.Keeps (.engineUp supported)) :
    (s.follow (s.trip.setAdapter ({ s.trip.adapter with
      distanceBatchingSupported := supported }.restartSessions))).Inv := by
  obtain ⟨-, hknown, hremaining, hinterval⟩ := hkeeps
  unfold BatchingAdapter.restartSessions
  dsimp only
  rw [BatchingAdapter.ite_setBatchFull]
  generalize (if 0 < BatchingAdapter.autoReportBatchingSessionsCount _ then true else _) = full
  split_ifs with hsize
  · obtain ⟨e, he⟩ := List.exists_mem_of_length_pos hsize
    have hst : s.HasTrip e.1 e.2 := OrdMap.find_eq_some.2 he
    exact h.restartSessions hknown hremaining hinterval rfl rfl rfl rfl hst
  · exact h.drops (drops_nil rfl rfl rfl rfl rfl) (List.forall_mem_nil _)

end Events

end OutdoorEngine

end GpsHal
