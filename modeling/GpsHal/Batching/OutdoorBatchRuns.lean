import GpsHal.Batching.OutdoorBatchTrips

/-!
# `BatchingAdapter` : runs of the outdoor batch

What the engine takes and answers keeps the invariant of the outdoor batch, and with it a restart
that is over leaves the batch in force for the trips.

## Main definitions

* `OutdoorEngine.taken` : the engine has taken a request.
* `newDistance`, `newInterval` : what the answer to a query changes.

## Main results

* `OutdoorEngine.programmed_of_run` : after each restart the batch is in force.
* `OutdoorEngine.not_programmed` : a restart of the sessions leaves counters as they are, and starts
  the batch with what a trip had left when it was last reported.
-/

namespace GpsHal

namespace OutdoorEngine

open TripEngine

variable {s : OutdoorEngine} {t : TripEngine} {a : BatchingAdapter} {client id : ℕ}
  {options : BatchingOptions}

/-! ### Requests that are taken -/

/-- The engine has taken the request `x`, and `rest` are left. -/
def taken (s : OutdoorEngine) (x : SentRequest) (rest : List SentRequest) : OutdoorEngine where
  trip :=
    { adapter := s.trip.adapter.take x.request
      counter := if x.request.resetsCounter then 0 else s.trip.counter
      total :=
        match x.request.begins with
        | some id => Function.update s.trip.total id 0
        | none => s.trip.total }
  batch := x.runs s.batch
  sent := rest

section Taken

variable {x : SentRequest} {rest : List SentRequest}

theorem Inv.outstanding_eq (h : s.Inv) (hs : s.sent = x :: rest) :
    s.trip.adapter.outstanding = x.request :: rest.map SentRequest.request := by
  rw [← h.noted, hs, List.map_cons]

theorem Inv.outstanding_take (h : s.Inv) (hs : s.sent = x :: rest) :
    (s.trip.adapter.take x.request).outstanding = rest.map SentRequest.request := by
  show s.trip.adapter.outstanding.erase x.request = _
  rw [h.outstanding_eq hs, List.erase_cons_head]

theorem Inv.good_rest (h : s.Inv) (hs : s.sent = x :: rest) : ∀ y ∈ rest, Good y := by
  intro y hy
  refine h.good y ?_
  rw [hs]
  exact List.mem_cons_of_mem x hy

theorem Inv.mem_take (h : s.Inv) (hs : s.sent = x :: rest) {r : BatchingRequest}
    (hr : r ≠ x.request) :
    r ∈ (s.trip.adapter.take x.request).outstanding ↔ r ∈ s.trip.adapter.outstanding := by
  rw [h.outstanding_take hs, h.outstanding_eq hs, List.mem_cons, or_iff_right hr]

theorem Inv.resetting_of_take (h : s.Inv) (hs : s.sent = x :: rest)
    (hreset : (s.trip.adapter.take x.request).Resetting) : s.trip.adapter.Resetting := by
  obtain ⟨r, hr, hstart⟩ := hreset
  rw [h.outstanding_take hs] at hr
  refine ⟨r, ?_, hstart⟩
  rw [h.outstanding_eq hs]
  exact List.mem_cons_of_mem _ hr

/-- The request does not concern the batch. -/
theorem Inv.taken_other (h : s.Inv) (hs : s.sent = x :: rest)
    (hstart : x.request.startsBatch = false) (hreset : x.request.resetsCounter = false)
    (hruns : x.runs s.batch = s.batch)
    (hbegins : ∀ id, x.request.begins = some id → ∀ st, ¬ s.HasTrip id st) :
    (s.taken x rest).Inv := by
  have hne : ∀ r : BatchingRequest, r.startsBatch = true → r ≠ x.request := by
    rintro r hr rfl
    rw [hstart] at hr
    cases hr
  have hupcoming : (s.taken x rest).upcoming = s.upcoming := by
    rw [upcoming, upcoming, taken, hruns, hs, startedLast, startedLast, newest_cons,
      startedWith_eq_none hstart]
    rfl
  have hawaited : ∀ id, (s.taken x rest).trip.adapter.Awaited id ↔ s.trip.adapter.Awaited id :=
    fun id => exists_congr fun _ => exists_congr fun _ => h.mem_take hs (hne _ rfl)
  have hresetting : (s.taken x rest).trip.adapter.Resetting ↔ s.trip.adapter.Resetting :=
    exists_congr fun r => and_congr_left fun hr => h.mem_take hs (hne r hr)
  have hcounter : (s.taken x rest).trip.counter = s.trip.counter := by
    show (if x.request.resetsCounter then 0 else s.trip.counter) = s.trip.counter
    rw [hreset]
    rfl
  have hcovered : (s.taken x rest).covered = s.covered := by
    by_cases hr : s.trip.adapter.Resetting
    · rw [covered_of_resetting hr, covered_of_resetting (hresetting.2 hr)]
    · rw [covered_of_settled hr, covered_of_settled (mt hresetting.1 hr), hcounter]
  have htotal : ∀ id st, s.HasTrip id st → (s.taken x rest).trip.total id = s.trip.total id := by
    intro id st hst
    rw [taken]
    dsimp only
    cases hid : x.request.begins with
    | none => rfl
    | some id' =>
      refine Function.update_of_ne ?_ ..
      rintro rfl
      exact hbegins id hid st hst
  refine ⟨(h.outstanding_take hs).symm, h.good_rest hs, fun hex => ?_,
    fun client id options hm => ?_⟩
  · obtain ⟨batch, hbatch, hsuits⟩ := h.batch hex
    refine ⟨batch, hupcoming.trans hbatch, fun id st hst => ?_, hsuits.interval, hsuits.attained,
      fun hnone => hsuits.ongoing fun id hid => hnone id ((hawaited id).2 hid)⟩
    rw [hcovered, htotal id st hst]
    exact (hsuits.distance id st hst).imp_left (hawaited id).2
  · obtain ⟨hbatch, htrip, honly⟩ := h.awaited client id options ((h.mem_take hs (hne _ rfl)).1 hm)
    exact ⟨hupcoming.trans hbatch, htrip, honly⟩

theorem startedLast_cons (hstart : x.request.startsBatch = true) (batch : Option OutdoorBatch) :
    startedLast (x.runs batch) rest = startedLast batch (x :: rest) := by
  obtain ⟨hruns, b, hb⟩ := startedWith_of_starts batch hstart
  rw [startedLast, startedLast, newest_cons, ← hruns, hb]
  rfl

/-- The engine starts the batch for trips that have begun. -/
theorem Inv.taken_start (h : s.Inv) (hs : s.sent = x :: rest)
    (hstart : x.request.startsBatch = true) (hbegins : x.request.begins = none) :
    (s.taken x rest).Inv := by
  have hupcoming : (s.taken x rest).upcoming = s.upcoming := by
    rw [upcoming, upcoming, hs]
    exact startedLast_cons hstart s.batch
  have hne : ∀ client id options, BatchingRequest.startTrip client id options ≠ x.request := by
    intro client id options heq
    rw [← heq] at hbegins
    cases hbegins
  have hawaited : ∀ id, (s.taken x rest).trip.adapter.Awaited id ↔ s.trip.adapter.Awaited id :=
    fun id => exists_congr fun _ => exists_congr fun _ => h.mem_take hs (hne _ _ _)
  have hresetting : s.trip.adapter.Resetting := by
    refine ⟨x.request, ?_, hstart⟩
    rw [h.outstanding_eq hs]
    exact List.mem_cons_self
  have htotal : (s.taken x rest).trip.total = s.trip.total := by
    rw [taken]
    dsimp only
    rw [hbegins]
  refine ⟨(h.outstanding_take hs).symm, h.good_rest hs, fun hex => ?_,
    fun client id options hm => ?_⟩
  · obtain ⟨batch, hbatch, hsuits⟩ := h.batch hex
    refine ⟨batch, hupcoming.trans hbatch, fun id st hst => ?_, hsuits.interval, hsuits.attained,
      fun hnone => hsuits.ongoing fun id hid => hnone id ((hawaited id).2 hid)⟩
    have hle := hsuits.distance id st hst
    rw [covered_of_resetting hresetting] at hle
    rw [htotal]
    exact hle.imp (hawaited id).2 fun hle => hle.trans (Nat.le_add_right _ _)
  · obtain ⟨hbatch, htrip, honly⟩ := h.awaited client id options ((h.mem_take hs (hne _ _ _)).1 hm)
    exact ⟨hupcoming.trans hbatch, htrip, honly⟩

/-- Nothing is sent. -/
theorem follow_eq (hout : t.adapter.outstanding = s.sent.map SentRequest.request) :
    s.follow t = ⟨t, s.batch, s.sent⟩ := by
  have hlen : s.sent.length = t.adapter.outstanding.length := by rw [hout, List.length_map]
  rw [follow, hlen, List.drop_length, List.map_nil, List.append_nil]

/-- The engine starts the batch for the first trip. -/
theorem Inv.onStartTrip (h : s.Inv) (hs : s.sent = x :: rest)
    (hx : x.request = .startTrip client id options) :
    ((s.taken x rest).follow ((s.taken x rest).trip.setAdapter
      ((s.trip.adapter.take x.request).onStartTrip client id options .SUCCESS))).Inv := by
  have hstart : x.request.startsBatch = true := by rw [hx]; rfl
  have hmem : BatchingRequest.startTrip client id options ∈ s.trip.adapter.outstanding := by
    rw [h.outstanding_eq hs, hx]
    exact List.mem_cons_self
  obtain ⟨hbatch, htrip, honly⟩ := h.awaited client id options hmem
  have hupcoming : startedLast (x.runs s.batch) rest =
      some ⟨options.minDistance, options.minInterval⟩ := by
    rw [startedLast_cons hstart, ← hs]
    exact hbatch
  have hvalue : ∀ id' st, s.HasTrip id' st →
      id' = id ∧ st = ⟨0, 0, 0, options.minDistance, options.minInterval⟩ := by
    intro id' st hst
    obtain rfl := honly id' st hst
    exact ⟨rfl, Option.some.inj (hst.symm.trans htrip)⟩
  rw [follow_eq (h.outstanding_take hs)]
  unfold BatchingAdapter.onStartTrip
  rw [if_pos rfl]
  refine ⟨(h.outstanding_take hs).symm, h.good_rest hs, fun _ => ⟨_, hupcoming, ?_⟩,
    fun client' id' options' hmem' => ?_⟩
  · refine ⟨fun id' st hst => .inr ?_, fun id' st hst => ?_, .inr ⟨id, _, htrip, rfl⟩,
      fun _ => ⟨rfl, rfl⟩⟩
    · obtain ⟨rfl, rfl⟩ := hvalue id' st hst
      have htotal : ((s.taken x rest).trip.total id') = 0 := by
        rw [taken, hx]
        exact Function.update_self ..
      show options.minDistance + (s.taken x rest).trip.total id' ≤ options.minDistance + _
      rw [htotal]
      exact Nat.le_add_right _ _
    · obtain ⟨-, rfl⟩ := hvalue id' st hst
      exact Nat.le_refl _
  · change _ ∈ (s.trip.adapter.take x.request).outstanding at hmem'
    have hmem₀ : BatchingRequest.startTrip client' id' options' ∈ s.trip.adapter.outstanding := by
      rw [h.outstanding_take hs] at hmem'
      rw [h.outstanding_eq hs]
      exact List.mem_cons_of_mem _ hmem'
    obtain ⟨hbatch', htrip', honly'⟩ := h.awaited client' id' options' hmem₀
    exact ⟨hupcoming.trans (hbatch.symm.trans hbatch'), htrip', honly'⟩

/-- Trips that have the least interval of `m` have that of which `m` is known to have the least. -/
theorem SameInterval.leastInterval {m : OrdMap ℕ TripSessionStatus} {interval : ℕ}
    (h : s.SameInterval m) (hm : LeastInterval m interval) :
    LeastInterval s.trip.adapter.mTripSessions interval := by
  have hle : ∀ id st, s.HasTrip id st → interval ≤ st.tripTBFInterval := by
    intro id st hst
    obtain ⟨id₀, st₀, hst₀, hle⟩ := h.le id st hst
    exact (hm.le id₀ st₀ hst₀).trans hle
  obtain ⟨id, st, hst, hge⟩ := h.ge
  obtain ⟨id₀, st₀, hst₀, heq⟩ := hm.attained
  exact ⟨hle, id, st, hst, Nat.le_antisymm (heq ▸ hge id₀ st₀ hst₀) (hle id st hst)⟩

/-- The engine has restarted the batch for the trips. -/
theorem Inv.restarted (h : s.Inv) (hs : s.sent = x :: rest) {accDist distance interval : ℕ}
    (hx : x.request = .restartTrips accDist distance interval) (hkeeps : s.RequestKeeps x rest)
    (hout : a.outstanding = rest.map SentRequest.request)
    (htrips : a.mTripSessions =
      s.trip.adapter.mTripSessions.mapValues fun st => (st.report accDist).rebase)
    (hdistance : a.mOngoingTripDistance = distance)
    (hinterval : a.mOngoingTripTBFInterval = interval) :
    Inv ⟨⟨a, 0, s.trip.total⟩, some ⟨distance, interval⟩, rest⟩ ∧
      ((∃ id st, HasTrip ⟨⟨a, 0, s.trip.total⟩, some ⟨distance, interval⟩, rest⟩ id st) →
        InForce ⟨⟨a, 0, s.trip.total⟩, some ⟨distance, interval⟩, rest⟩) := by
  have hfind : ∀ id st, a.mTripSessions.find id = some st ↔
      ∃ st₀, s.HasTrip id st₀ ∧ (st₀.report accDist).rebase = st := by
    intro id st
    rw [htrips, OrdMap.find_mapValues, Option.map_eq_some_iff]
    rfl
  have hgood : Good x := h.good x (by rw [hs]; exact List.mem_cons_self)
  rw [Good, hx] at hgood
  obtain ⟨hend, hleast⟩ := hgood
  rw [RequestKeeps, hx] at hkeeps
  -- what holds if there is a trip
  have hheld : (∃ id st, a.mTripSessions.find id = some st) →
      (∀ y ∈ rest, y.request.startsBatch = false) ∧
      (∀ id st, a.mTripSessions.find id = some st →
        distance + s.trip.total id ≤ st.tripDistance) ∧
      LeastInterval a.mTripSessions interval := by
    rintro ⟨id, st, hst⟩
    obtain ⟨st₀, hst₀, -⟩ := (hfind id st).1 hst
    obtain ⟨hsettled, hsame, hfar⟩ := hkeeps ⟨id, st₀, hst₀⟩
    obtain ⟨id₁, st₁, hst₁, -⟩ := hsame.le id st₀ hst₀
    have hnow := hsame.leastInterval (hleast ⟨id₁, st₁, hst₁⟩)
    refine ⟨fun y hy => ?_, fun id' st' hst' => ?_, fun id' st' hst' => ?_, ?_⟩
    · rw [← Bool.not_eq_true]
      refine fun hstart => hsettled ⟨y.request, ?_, hstart⟩
      rw [h.outstanding_eq hs]
      exact List.mem_cons_of_mem _ (List.mem_map_of_mem hy)
    · obtain ⟨st₁, hst₁, rfl⟩ := (hfind id' st').1 hst'
      obtain ⟨id₂, st₂, hst₂, hle⟩ := hfar id' st₁ hst₁
      have hle₂ := hend id₂ st₂ hst₂
      show distance + s.trip.total id' ≤ st₁.tripDistance
      omega
    · obtain ⟨st₁, hst₁, rfl⟩ := (hfind id' st').1 hst'
      exact hnow.le id' st₁ hst₁
    · obtain ⟨id₁, st₁, hst₁, heq⟩ := hnow.attained
      exact ⟨id₁, _, (hfind id₁ _).2 ⟨st₁, hst₁, rfl⟩, heq⟩
  refine ⟨⟨hout.symm, h.good_rest hs, fun hex => ?_, fun client id options hmem => ?_⟩, fun hex => ?_⟩
  · obtain ⟨hstarts, hle, hnow⟩ := hheld hex
    refine ⟨⟨distance, interval⟩, startedLast_of_none hstarts, fun id st hst => .inr ?_, hnow.le,
      .inr hnow.attained, fun _ => ⟨hdistance, hinterval⟩⟩
    exact (hle id st hst).trans (Nat.le_add_right _ _)
  · -- a trip that awaits its start would be among the trips
    change _ ∈ a.outstanding at hmem
    rw [hout] at hmem
    have hmem₀ : BatchingRequest.startTrip client id options ∈ s.trip.adapter.outstanding := by
      rw [h.outstanding_eq hs]
      exact List.mem_cons_of_mem _ hmem
    have htrip := (h.awaited client id options hmem₀).trip
    obtain ⟨y, hy, heq⟩ := List.mem_map.1 hmem
    have hno := (hheld ⟨id, _, (hfind id _).2 ⟨_, htrip, rfl⟩⟩).1 y hy
    rw [heq] at hno
    cases hno
  · obtain ⟨-, hle, hnow⟩ := hheld hex
    exact ⟨_, rfl, hle, hnow.le, hnow.attained⟩

/-- The last trip is stopped. -/
theorem Inv.onStopTrip (h : s.Inv) (hs : s.sent = x :: rest) {restartNeeded : Bool}
    (hx : x.request = .stopTrip client id restartNeeded options) (hkeeps : s.RequestKeeps x rest) :
    ((s.taken x rest).follow ((s.taken x rest).trip.setAdapter
      ((s.trip.adapter.take x.request).onStopTrip client id restartNeeded options .SUCCESS))).Inv := by
  rw [RequestKeeps, hx] at hkeeps
  obtain ⟨⟨st, hst⟩, hnot, honly⟩ := hkeeps
  have htaken : s.taken x rest =
      ⟨⟨s.trip.adapter.take x.request, s.trip.counter, s.trip.total⟩, none, rest⟩ := by
    rw [taken, SentRequest.runs, hx]
    rfl
  have hout := h.outstanding_take hs
  rw [htaken]
  unfold BatchingAdapter.onStopTrip BatchingAdapter.stopTripBatchingMultiplexCommon
  dsimp only
  rw [BatchingAdapter.ite_setBatchFull]
  generalize (if LocationError.SUCCESS = .SUCCESS ∧
    (s.trip.adapter.take x.request).autoReportBatchingSessionsCount = 1 then false
    else (s.trip.adapter.take x.request).batchFull) = full
  have hfull : ((s.trip.adapter.take x.request).setBatchFull full).mTripSessions =
      s.trip.adapter.mTripSessions := rfl
  have hfull' : ((s.trip.adapter.take x.request).setBatchFull full).outstanding =
      rest.map SentRequest.request := hout
  generalize (s.trip.adapter.take x.request).setBatchFull full = b at hfull hfull' ⊢
  have hempty : ∀ id', ((b.dropTrip (b.tripStatus id)).setTripSessions
      ((b.dropTrip (b.tripStatus id)).mTripSessions.erase id)).mTripSessions.find id' = none := by
    intro id'
    show (b.mTripSessions.erase id).find id' = none
    rw [OrdMap.find_erase, hfull]
    split_ifs with hid
    · rfl
    · cases hst' : s.trip.adapter.mTripSessions.find id' with
      | none => rfl
      | some st' => exact absurd (honly id' st' hst') hid
  have hout₁ : ((b.dropTrip (b.tripStatus id)).setTripSessions
      ((b.dropTrip (b.tripStatus id)).mTripSessions.erase id)).outstanding =
      rest.map SentRequest.request := hfull'
  generalize (b.dropTrip (b.tripStatus id)).setTripSessions
    ((b.dropTrip (b.tripStatus id)).mTripSessions.erase id) = a₁ at hempty hout₁ ⊢
  rw [if_pos (OrdMap.size_eq_zero.2 hempty)]
  have hinv : Inv ⟨⟨a₁.setOngoing 0 0, s.trip.counter, s.trip.total⟩, none, rest⟩ := by
    refine ⟨hout₁.symm, h.good_rest hs, ?_, fun client' id' options' hmem => ?_⟩
    · rintro ⟨id', st', hst'⟩
      cases (hempty id').symm.trans hst'
    · -- a trip that awaits its start would be the one that is stopped
      change _ ∈ a₁.outstanding at hmem
      have hmem₀ : BatchingRequest.startTrip client' id' options' ∈ s.trip.adapter.outstanding := by
        rw [h.outstanding_eq hs]
        rw [hout₁] at hmem
        exact List.mem_cons_of_mem _ hmem
      have hid : id' = id := honly id' _ (h.awaited client' id' options' hmem₀).trip
      exact absurd ⟨client', options', hid ▸ hmem₀⟩ hnot
  have hforget : Drops (a₁.setOngoing 0 0) ((a₁.setOngoing 0 0).eraseBatchingSession client id) [] :=
    drops_nil rfl rfl rfl rfl rfl
  have hsame : Drops (a₁.setOngoing 0 0) (a₁.setOngoing 0 0) [] := drops_nil rfl rfl rfl rfl rfl
  exact hinv.startAgain hforget hsame rfl (List.forall_mem_nil _)

end Taken

/-! ### Trips that join -/

section Join

/-- With what a trip makes the batch start again: no later than before, no later than for the trip,
and with the least of the two intervals. -/
theorem joinOngoing_spec {counter : ℕ} (options : BatchingOptions)
    (hle : counter ≤ a.mOngoingTripDistance) :
    match a.joinOngoing options (some (uint32Sub a.mOngoingTripDistance counter)) with
    | none => a.mOngoingTripDistance ≤ options.minDistance + counter ∧
        a.mOngoingTripTBFInterval ≤ options.minInterval
    | some (distance, interval) => distance ≤ options.minDistance ∧
        distance + counter ≤ a.mOngoingTripDistance ∧
        interval ≤ a.mOngoingTripTBFInterval ∧ interval ≤ options.minInterval ∧
        (interval = a.mOngoingTripTBFInterval ∨ interval = options.minInterval) := by
  rw [uint32Sub_of_le hle]
  unfold BatchingAdapter.joinOngoing
  by_cases hless : options.minInterval < a.mOngoingTripTBFInterval
  · simp only [decide_eq_true hless, if_true]
    split_ifs with hdistance
    · exact ⟨Nat.le_refl _, by omega, hless.le, Nat.le_refl _, .inr rfl⟩
    · exact ⟨by omega, by omega, hless.le, Nat.le_refl _, .inr rfl⟩
  · simp only [decide_eq_false hless, Bool.false_eq_true, if_false]
    split_ifs with hdistance
    · exact ⟨Nat.le_refl _, by omega, Nat.le_refl _, by omega, .inl rfl⟩
    · exact ⟨by omega, by omega⟩

/-- A trip has joined the batch, which goes on or starts again. -/
theorem Inv.onJoinTrip (h : s.Inv) (hex : ∃ id st, s.HasTrip id st) (hnew : ∀ st, ¬ s.HasTrip id st)
    (hnone : ∀ id, ¬ s.trip.adapter.Awaited id) (hzero : s.trip.total id = 0)
    (hle : s.trip.counter ≤ s.trip.adapter.mOngoingTripDistance)
    (hcounter : s.trip.adapter.Resetting → s.trip.counter = 0) :
    (s.follow (s.trip.setAdapter
      (s.trip.adapter.onJoinTrip client id options .SUCCESS s.trip.counter))).Inv := by
  obtain ⟨batch, hbatch, hsuits⟩ := h.batch hex
  obtain ⟨hongoing, hongoing'⟩ := hsuits.ongoing hnone
  have hcovered : s.covered = s.trip.counter := by
    by_cases hreset : s.trip.adapter.Resetting
    · rw [covered_of_resetting hreset, hcounter hreset]
    · exact covered_of_settled hreset
  have hspec := joinOngoing_spec options hle
  have hjoined : ∀ id' st, (joined s.trip.adapter id options s.trip.counter).mTripSessions.find id' =
      some st ↔ id' = id ∧ st = ⟨s.trip.counter, 0, 0, options.minDistance, options.minInterval⟩ ∨
        s.HasTrip id' st := by
    intro id' st
    show (s.trip.adapter.mTripSessions.insert id _).find id' = some st ↔ _
    rw [OrdMap.find_insert]
    split_ifs with hid
    · subst hid
      rw [Option.some.injEq, eq_comm, or_iff_left (hnew st), and_iff_right rfl]
    · rw [or_iff_right fun hst => hid hst.1]
      rfl
  rw [onJoinTrip_success]
  cases hrestart : s.trip.adapter.joinOngoing options
      (some (uint32Sub s.trip.adapter.mOngoingTripDistance s.trip.counter)) with
  | none =>
    rw [hrestart] at hspec
    obtain ⟨hlate, hlong⟩ := hspec
    dsimp only
    have hfollow := follow_eq (s := s) (t := s.trip.setAdapter
      ((joined s.trip.adapter id options s.trip.counter).reportStart client id .SUCCESS))
      h.noted.symm
    rw [hfollow]
    refine ⟨h.noted, h.good, fun _ => ⟨batch, hbatch, fun id' st hst => ?_, fun id' st hst => ?_, ?_,
      fun _ => ⟨hongoing, hongoing'⟩⟩, fun client' id' options' hmem => ?_⟩
    · rcases (hjoined id' st).1 hst with ⟨rfl, rfl⟩ | hst
      · refine .inr ?_
        show batch.tripDistance + s.trip.total id' ≤ options.minDistance + s.covered
        omega
      · exact hsuits.distance id' st hst
    · rcases (hjoined id' st).1 hst with ⟨rfl, rfl⟩ | hst
      · exact hongoing' ▸ hlong
      · exact hsuits.interval id' st hst
    · rcases hsuits.attained with hflag | ⟨id', st, hst, heq⟩
      · exact .inl hflag
      · exact .inr ⟨id', st, (hjoined id' st).2 (.inr hst), heq⟩
    · exact absurd ⟨client', options', hmem⟩ (hnone id')
  | some ongoing =>
    obtain ⟨distance, interval⟩ := ongoing
    rw [hrestart] at hspec
    obtain ⟨hshort, hearly, hless, hless', hof⟩ := hspec
    dsimp only
    generalize ha : (BatchingAdapter.request _ (.joinRestart client id) : BatchingAdapter) = a
    have hout : a.outstanding = s.trip.adapter.outstanding ++ [.joinRestart client id] := by
      rw [← ha]
      rfl
    have hdistance : a.mOngoingTripDistance = distance := by
      rw [← ha]
      rfl
    have hinterval : a.mOngoingTripTBFInterval = interval := by
      rw [← ha]
      rfl
    have hflag : a.mTripWithOngoingTBFDropped = s.trip.adapter.mTripWithOngoingTBFDropped := by
      rw [← ha]
      rfl
    have htrips : ∀ id' st, a.mTripSessions.find id' = some st ↔
        ∃ st₀, (joined s.trip.adapter id options s.trip.counter).mTripSessions.find id' = some st₀ ∧
          st₀.rebase = st := by
      intro id' st
      rw [← ha, ← Option.map_eq_some_iff, ← OrdMap.find_mapValues]
      rfl
    have hreset : a.Resetting := by
      refine ⟨.joinRestart client id, ?_, rfl⟩
      rw [hout]
      exact List.mem_append_right _ List.mem_cons_self
    have hsent : (s.follow (s.trip.setAdapter a)).sent = _ := h.sent_follow hout
    have hupcoming : (s.follow (s.trip.setAdapter a)).upcoming = some ⟨distance, interval⟩ := by
      rw [upcoming, hsent, follow, List.map_singleton, startedLast_concat rfl, ← hdistance,
        ← hinterval]
      rfl
    refine ⟨h.noted_follow hout, h.good_follow hout fun r hr => ?_,
      fun _ => ⟨_, hupcoming, fun id' st hst => .inr ?_, fun id' st hst => ?_, ?_,
        fun _ => ⟨hdistance, hinterval⟩⟩, fun client' id' options' hmem => ?_⟩
    · rw [List.mem_singleton.1 hr]
      trivial
    · obtain ⟨st₀, hst₀, rfl⟩ := (htrips id' st).1 hst
      show distance + s.trip.total id' ≤ st₀.tripDistance + _
      rcases (hjoined id' st₀).1 hst₀ with ⟨rfl, rfl⟩ | hst₀
      · rw [hzero]
        exact hshort.trans (Nat.le_add_right _ _)
      · have hle' := (hsuits.distance id' st₀ hst₀).resolve_left (hnone id')
        omega
    · obtain ⟨st₀, hst₀, rfl⟩ := (htrips id' st).1 hst
      show interval ≤ st₀.tripTBFInterval
      rcases (hjoined id' st₀).1 hst₀ with ⟨rfl, rfl⟩ | hst₀
      · exact hless'
      · exact hless.trans (hongoing' ▸ hsuits.interval id' st₀ hst₀)
    · rcases hof with rfl | rfl
      · rcases hsuits.attained with hf | ⟨id', st, hst, heq⟩
        · exact .inl (hflag.trans hf)
        · exact .inr ⟨id', st.rebase, (htrips id' _).2 ⟨st, (hjoined id' st).2 (.inr hst), rfl⟩,
            heq.trans hongoing'.symm⟩
      · exact .inr ⟨id, _, (htrips id _).2 ⟨_, (hjoined id _).2 (.inl ⟨rfl, rfl⟩), rfl⟩, rfl⟩
    · change _ ∈ a.outstanding at hmem
      rw [hout] at hmem
      rcases List.mem_append.1 hmem with hmem | hmem
      · exact absurd ⟨client', options', hmem⟩ (hnone id')
      · cases List.mem_singleton.1 hmem

end Join

/-! ### Answers to a query -/

section Query

variable {query : Bool} {accDist minRemainingDistance minTBFInterval : ℕ}

/-- The distance with which the batch has to start again, if that is another one. -/
def newDistance (a : BatchingAdapter) (minRemainingDistance accumulatedDistance : ℕ) : Option ℕ :=
  if a.mTripWithOngoingTripDistanceDropped = false ∧
      uint32Sub a.mOngoingTripDistance accumulatedDistance ≠ 0 then
    if minRemainingDistance < uint32Sub a.mOngoingTripDistance accumulatedDistance then
      some minRemainingDistance
    else none
  else if minRemainingDistance ≠ 0 then some minRemainingDistance
  else none

/-- The interval with which it has to start again, if that is another one. -/
def newInterval (a : BatchingAdapter) (minTBFInterval : ℕ) : Option ℕ :=
  if minTBFInterval < a.mOngoingTripTBFInterval ∨
      minTBFInterval ≠ a.mOngoingTripTBFInterval ∧ a.mTripWithOngoingTBFDropped = true then
    some minTBFInterval
  else none

theorem onQueryTrips_eq (a : BatchingAdapter) (query : Bool)
    (minRemainingDistance minTBFInterval accDist distance : ℕ) :
    ∃ b accumulatedDistance,
      a.onQueryTrips query minRemainingDistance minTBFInterval accDist distance =
        if (newDistance a minRemainingDistance (if query then distance else accDist)).isSome ||
            (newInterval a minTBFInterval).isSome then
          (a.noteWrap b).request (.restartTrips accumulatedDistance
            ((newDistance a minRemainingDistance (if query then distance else accDist)).getD
              a.mOngoingTripDistance)
            ((newInterval a minTBFInterval).getD a.mOngoingTripTBFInterval))
        else a.noteWrap b := ⟨_, _, rfl⟩

theorem newDistance_eq_some {accumulatedDistance distance : ℕ}
    (h : newDistance a minRemainingDistance accumulatedDistance = some distance) :
    distance = minRemainingDistance := by
  unfold newDistance at h
  split_ifs at h
  · exact (Option.some.inj h).symm
  · exact (Option.some.inj h).symm

/-- The distance stays if no trip of `m` makes it another one. -/
theorem newDistance_eq_none_iff (accumulatedDistance : ℕ) {m : OrdMap ℕ TripSessionStatus}
    (hzero : ZeroLast TripSessionStatus.remaining m.values) {st : TripSessionStatus}
    (hst : m.find id = some st) :
    newDistance s.trip.adapter (leastSet TripSessionStatus.remaining m.values)
      accumulatedDistance = none ↔ s.DistanceStays m accumulatedDistance := by
  have hle : ∀ id st, m.find id = some st →
      leastSet TripSessionStatus.remaining m.values ≤ st.remaining := fun id st hst =>
    leastSet_le hzero (mem_values_of_find hst)
  obtain ⟨id₀, st₀, hst₀, hmin⟩ := leastSet_values TripSessionStatus.remaining hst
  unfold newDistance DistanceStays
  dsimp only
  split_ifs with hongoing hless hsome
  · refine iff_of_false nofun fun hall => ?_
    have := hall id₀ st₀ hst₀
    omega
  · refine iff_of_true rfl fun id₁ st₁ hst₁ => ?_
    have := hle id₁ st₁ hst₁
    omega
  · refine iff_of_false nofun ?_
    rintro ⟨id₁, st₁, hst₁, hno⟩
    have := hle id₁ st₁ hst₁
    omega
  · exact iff_of_true rfl ⟨id₀, st₀, hst₀, by omega⟩

/-- The interval that the batch has after the query is the least of the trips, if its interval was at
most theirs, and if it is noted when it is that of no trip. -/
theorem leastInterval_newInterval (hleast : LeastInterval a.mTripSessions minTBFInterval)
    (hle : ∀ id st, a.mTripSessions.find id = some st →
      a.mOngoingTripTBFInterval ≤ st.tripTBFInterval)
    (hattained : a.mTripWithOngoingTBFDropped = true ∨ ∃ id st, a.mTripSessions.find id = some st ∧
      st.tripTBFInterval = a.mOngoingTripTBFInterval) :
    LeastInterval a.mTripSessions
      ((newInterval a minTBFInterval).getD a.mOngoingTripTBFInterval) := by
  unfold newInterval
  split_ifs with hother
  · exact hleast
  · rcases hattained with hflag | hattained
    · have heq : minTBFInterval = a.mOngoingTripTBFInterval := by
        by_contra hne
        exact hother (.inr ⟨hne, hflag⟩)
      exact heq ▸ hleast
    · exact ⟨hle, hattained⟩

theorem Inv.upcoming_of_settled (h : s.Inv) (hsettled : ¬ s.trip.adapter.Resetting) :
    s.upcoming = s.batch := by
  refine startedLast_of_none fun y hy => ?_
  rw [← Bool.not_eq_true]
  refine fun hstart => hsettled ⟨y.request, ?_, hstart⟩
  rw [← h.noted]
  exact List.mem_map_of_mem hy

/-- A query that finds what it was sent for makes the batch start again with numbers that suit the
trips, or the interval of the batch is the least. -/
theorem Inv.queryTrips (h : s.Inv) {m : OrdMap ℕ TripSessionStatus} {accumulatedDistance : ℕ}
    (hkeeps : s.QueryKeeps m accumulatedDistance) (hex : ∃ id st, s.HasTrip id st)
    (distance interval : Option ℕ)
    (hdistance : newDistance s.trip.adapter (leastSet TripSessionStatus.remaining m.values)
      accumulatedDistance = distance)
    (hinterval : newInterval s.trip.adapter
      (leastSet TripSessionStatus.tripTBFInterval m.values) = interval) :
    LeastInterval s.trip.adapter.mTripSessions
        (interval.getD s.trip.adapter.mOngoingTripTBFInterval) ∧
      ((distance.isSome || interval.isSome) = true → ∀ id st, s.HasTrip id st →
        distance.getD s.trip.adapter.mOngoingTripDistance + s.trip.total id ≤ st.tripDistance) := by
  have hnone : ∀ id, ¬ s.trip.adapter.Awaited id := fun id hid => hkeeps.settled hid.resetting
  obtain ⟨batch, hbatch, hsuits⟩ := h.batch hex
  obtain ⟨hongoing, hongoing'⟩ := hsuits.ongoing hnone
  obtain ⟨id₀, st₀, hst₀⟩ : ∃ id st, m.find id = some st := by
    obtain ⟨id, st, hst⟩ := hex
    obtain ⟨id₀, st₀, hst₀, -⟩ := hkeeps.interval.le id st hst
    exact ⟨id₀, st₀, hst₀⟩
  have hleast : LeastInterval s.trip.adapter.mTripSessions
      (leastSet TripSessionStatus.tripTBFInterval m.values) :=
    hkeeps.interval.leastInterval (leastInterval_leastSet hkeeps.intervals hst₀)
  have hle : ∀ id st, s.HasTrip id st →
      s.trip.adapter.mOngoingTripTBFInterval ≤ st.tripTBFInterval := by
    rw [hongoing']
    exact hsuits.interval
  refine ⟨?_, fun hsome id st hst => ?_⟩
  · rw [← hinterval]
    refine leastInterval_newInterval hleast hle ?_
    rw [hongoing']
    exact hsuits.attained
  · have hstays := newDistance_eq_none_iff (s := s) accumulatedDistance hkeeps.distances hst₀
    rw [hdistance] at hstays
    cases distance with
    | some distance =>
      rcases hkeeps.changes (mt hstays.2 nofun) id st hst with hid | ⟨id₁, st₁, hst₁, hknown⟩
      · exact absurd hid (hnone id)
      · have hmin : leastSet TripSessionStatus.remaining m.values ≤ st₁.remaining :=
          leastSet_le hkeeps.distances (mem_values_of_find hst₁)
        rw [Option.getD_some, newDistance_eq_some hdistance]
        omega
    | none =>
      -- the interval is another one, so the trip with that of the batch is gone
      rw [Option.isSome_none, Bool.false_or, ← hinterval] at hsome
      obtain ⟨id₁, st₁, hst₁, heq⟩ := hleast.attained
      have hle₁ := hle id₁ st₁ hst₁
      unfold newInterval at hsome
      split_ifs at hsome with hother
      · have hgone : leastSet TripSessionStatus.tripTBFInterval m.values ≠
            s.trip.adapter.mOngoingTripTBFInterval ∧
            s.trip.adapter.mTripWithOngoingTBFDropped = true :=
          hother.resolve_left (by omega)
        refine hkeeps.stays (hstays.1 rfl) hgone.2 (fun id₂ st₂ hst₂ => ?_) id st hst
        have := hleast.le id₂ st₂ hst₂
        omega
      · cases hsome

/-- The engine has answered a query. -/
theorem Inv.onQueryTrips (h : s.Inv) {x : SentRequest} {rest : List SentRequest}
    (hs : s.sent = x :: rest)
    (hx : x.request = .queryTrips query minRemainingDistance minTBFInterval accDist)
    (hkeeps : s.RequestKeeps x rest) :
    let s' := (s.taken x rest).follow ((s.taken x rest).trip.setAdapter
      ((s.trip.adapter.take x.request).onQueryTrips query minRemainingDistance minTBFInterval accDist
        s.trip.counter))
    s'.Inv ∧ (s'.trip.adapter.outstanding = rest.map SentRequest.request →
      (∃ id st, s'.HasTrip id st) → s'.InForce) := by
  have hinv : (s.taken x rest).Inv := by
    refine h.taken_other hs ?_ ?_ ?_ ?_
    · rw [hx]; rfl
    · rw [hx]; rfl
    · rw [SentRequest.runs, hx]
    · rw [hx]; nofun
  have hgood : Good x := h.good x (by rw [hs]; exact List.mem_cons_self)
  rw [Good, hx] at hgood
  obtain ⟨rfl, rfl⟩ := hgood
  rw [RequestKeeps, hx] at hkeeps
  dsimp only at hkeeps
  obtain ⟨b, accumulatedDistance, heq⟩ := onQueryTrips_eq (s.trip.adapter.take x.request) query
    x.state.adapter.minRemainingDistance x.state.adapter.minTBFInterval accDist s.trip.counter
  rw [heq]
  generalize hdistance : newDistance (s.trip.adapter.take x.request) _ _ = distance
  generalize hinterval : newInterval (s.trip.adapter.take x.request) _ = interval
  have hquery := fun hex : ∃ id st, s.HasTrip id st =>
    h.queryTrips (hkeeps hex) hex distance interval hdistance hinterval
  have htotal : (s.taken x rest).trip.total = s.trip.total := by
    rw [taken, hx]
    rfl
  have hnote : Drops (s.trip.adapter.take x.request) ((s.trip.adapter.take x.request).noteWrap b)
      [] := drops_nil rfl rfl rfl rfl rfl
  dsimp only
  by_cases hsome : (distance.isSome || interval.isSome) = true
  · rw [if_pos hsome]
    refine ⟨hinv.drops (hnote.trans (drops_request rfl)) fun r hr => ?_, fun hout => ?_⟩
    · rw [List.mem_singleton.1 hr]
      refine ⟨fun id st hst => ?_, fun hex => (hquery hex).1⟩
      show _ + (s.taken x rest).trip.total id ≤ _
      rw [htotal]
      exact (hquery ⟨id, st, hst⟩).2 hsome id st hst
    · -- the restart has been sent
      have hlen := congrArg List.length hout
      change ((s.trip.adapter.take x.request).outstanding ++ [_]).length = _ at hlen
      rw [h.outstanding_take hs, List.length_append, List.length_singleton] at hlen
      omega
  · rw [if_neg hsome]
    refine ⟨hinv.drops hnote (List.forall_mem_nil _), fun _ hex => ?_⟩
    have hruns : x.runs s.batch = s.batch := by rw [SentRequest.runs, hx]
    have hsettled := (hkeeps hex).settled
    obtain ⟨batch, hbatch, hsuits⟩ := h.batch hex
    have hnone : ∀ id, ¬ s.trip.adapter.Awaited id := fun id hid => hsettled hid.resetting
    obtain ⟨-, hongoing⟩ := hsuits.ongoing hnone
    rw [h.upcoming_of_settled hsettled] at hbatch
    obtain ⟨hno, hno'⟩ : distance = none ∧ interval = none := by
      simpa using hsome
    obtain ⟨hleast, -⟩ := hquery hex
    rw [hno', Option.getD_none, hongoing] at hleast
    refine ⟨batch, hruns.trans hbatch, fun id st hst => ?_, hleast.le, hleast.attained⟩
    have hle := (hsuits.distance id st hst).resolve_left (hnone id)
    rw [covered_of_settled hsettled] at hle
    show batch.tripDistance + (s.taken x rest).trip.total id ≤
      st.tripDistance + (s.taken x rest).trip.counter
    rw [htotal, taken, hx]
    exact hle

end Query

/-! ### Runs -/

section Runs

variable {s' : OutdoorEngine} {e : TripEvent} {es : List TripEvent}

/-- The engine takes the oldest request, and its callback runs. -/
theorem step_answer (h : s.Inv) (hstep : s.step .answer = some s') :
    ∃ x rest, s.sent = x :: rest ∧ s' = (s.taken x rest).follow ((s.taken x rest).trip.setAdapter
      ((s.trip.adapter.take x.request).onAnswer x.request .SUCCESS s.trip.counter)) := by
  cases hs : s.sent with
  | nil =>
    have hout : s.trip.adapter.outstanding = [] := by rw [← h.noted, hs, List.map_nil]
    rw [step, TripEngine.step, hout] at hstep
    cases hstep
  | cons x rest =>
    refine ⟨x, rest, rfl, ?_⟩
    rw [step, TripEngine.step, h.outstanding_eq hs] at hstep
    obtain rfl := Option.some.inj hstep
    rw [pop, hs]
    rfl

/-- The answer to a request that belongs to no restart. -/
theorem Inv.programmed_other (h : s.Inv) {x : SentRequest} {rest : List SentRequest}
    (hs : s.sent = x :: rest) (hx : x.request.restarts = false) : s.Programmed .answer s' := by
  intro r rest' hout hr
  rw [h.outstanding_eq hs] at hout
  obtain ⟨rfl, -⟩ := List.cons.inj hout
  rw [hx] at hr
  cases hr

/-- A restart of the sessions is over. -/
theorem Inv.onRestartSessions (h : s.Inv) {x : SentRequest} {rest : List SentRequest}
    (hs : s.sent = x :: rest) (hx : x.request = .restartSessions) (hkeeps : s.RequestKeeps x rest) :
    (s.taken x rest).Inv ∧ ((∃ id st, (s.taken x rest).HasTrip id st) → (s.taken x rest).InForce) := by
  have hinv : (s.taken x rest).Inv := by
    refine h.taken_start hs ?_ ?_
    · rw [hx]; rfl
    · rw [hx]; rfl
  refine ⟨hinv, fun hex => ?_⟩
  have hgood : Good x := h.good x (by rw [hs]; exact List.mem_cons_self)
  rw [Good, hx] at hgood
  rw [RequestKeeps, hx] at hkeeps
  obtain ⟨hstarts, hsame⟩ := hkeeps hex
  have hleast := hsame.leastInterval hgood
  have hsettled : ¬ (s.taken x rest).trip.adapter.Resetting := by
    rintro ⟨r, hr, hstart⟩
    rw [← hinv.noted] at hr
    obtain ⟨y, hy, rfl⟩ := List.mem_map.1 hr
    rw [hstarts y hy] at hstart
    cases hstart
  have hbatch : (s.taken x rest).batch = some ⟨x.state.adapter.mOngoingTripDistance,
      x.state.adapter.mOngoingTripTBFInterval⟩ := by
    rw [taken, SentRequest.runs, SentRequest.startedWith, hx]
  obtain ⟨batch, hupcoming, hsuits⟩ := hinv.batch hex
  rw [hinv.upcoming_of_settled hsettled, hbatch] at hupcoming
  obtain rfl := Option.some.inj hupcoming
  refine ⟨_, hbatch, fun id st hst => ?_, hleast.le, hleast.attained⟩
  have hle := (hsuits.distance id st hst).resolve_left fun hid => hsettled hid.resetting
  rw [covered_of_settled hsettled] at hle
  exact hle

/-- An answer of the engine. -/
theorem Inv.answer (h : s.Inv) (hkeeps : s.Keeps .answer) (hstep : s.step .answer = some s') :
    s'.Inv ∧ s.Programmed .answer s' := by
  obtain ⟨x, rest, hs, rfl⟩ := step_answer h hstep
  have hkeeps : s.RequestKeeps x rest := hkeeps x rest hs
  have hover : ∀ r rest', s.trip.adapter.outstanding = r :: rest' →
      rest' = rest.map SentRequest.request := by
    intro r rest' hout
    rw [h.outstanding_eq hs] at hout
    exact (List.cons.inj hout).2.symm
  cases hx : x.request with
  | startBatching client id options =>
    have htaken : (s.taken x rest).Inv := by
      refine h.taken_other hs ?_ ?_ ?_ ?_
      · rw [hx]; rfl
      · rw [hx]; rfl
      · rw [SentRequest.runs, hx]
      · rw [hx]; nofun
    refine ⟨htaken.drops ?_ (List.forall_mem_nil _), h.programmed_other hs (by rw [hx]; rfl)⟩
    rw [taken, hx]
    exact drops_nil rfl rfl rfl rfl rfl
  | stopBatching client id flpOptions restartNeeded options =>
    have htaken : (s.taken x rest).Inv := by
      refine h.taken_other hs ?_ ?_ ?_ ?_
      · rw [hx]; rfl
      · rw [hx]; rfl
      · rw [SentRequest.runs, hx]
      · rw [hx]; nofun
    refine ⟨?_, h.programmed_other hs (by rw [hx]; rfl)⟩
    unfold BatchingAdapter.onAnswer BatchingAdapter.onStopBatching
    dsimp only
    rw [if_neg (by nofun), BatchingAdapter.ite_setBatchFull]
    have hfull : ∀ full, Drops (s.taken x rest).trip.adapter ((s.trip.adapter.take
        (.stopBatching client id flpOptions restartNeeded options)).setBatchFull full) [] := by
      intro full
      rw [taken, hx]
      exact drops_nil rfl rfl rfl rfl rfl
    exact htaken.startAgain (hfull _) (hfull _) rfl (List.forall_mem_nil _)
  | startTrip client id options =>
    have hinv := h.onStartTrip hs hx
    rw [hx] at hinv
    exact ⟨hinv, h.programmed_other hs (by rw [hx]; rfl)⟩
  | joinTrip client id options =>
    rw [RequestKeeps, hx] at hkeeps
    obtain ⟨hex, hnew, hnone, hle, hcounter⟩ := hkeeps
    have htaken : (s.taken x rest).Inv := by
      refine h.taken_other hs ?_ ?_ ?_ ?_
      · rw [hx]; rfl
      · rw [hx]; rfl
      · rw [SentRequest.runs, hx]
      · rintro id' hid
        rw [hx] at hid
        obtain rfl := Option.some.inj hid
        exact hnew
    have heq : s.taken x rest = ⟨⟨s.trip.adapter.take (.joinTrip client id options), s.trip.counter,
        Function.update s.trip.total id 0⟩, s.batch, rest⟩ := by
      rw [taken, SentRequest.runs, hx]
      rfl
    refine ⟨?_, h.programmed_other hs (by rw [hx]; rfl)⟩
    rw [heq] at htaken ⊢
    refine htaken.onJoinTrip hex hnew ?_ (Function.update_self ..) hle ?_
    · rintro id' ⟨client', options', hmem⟩
      rw [← hx] at hmem
      refine hnone id' ⟨client', options', (h.mem_take hs ?_).1 hmem⟩
      rw [hx]
      nofun
    · intro hreset
      rw [← hx] at hreset
      exact hcounter (h.resetting_of_take hs hreset)
  | joinRestart client id =>
    have htaken : (s.taken x rest).Inv := by
      refine h.taken_start hs ?_ ?_
      · rw [hx]; rfl
      · rw [hx]; rfl
    refine ⟨htaken.drops ?_ (List.forall_mem_nil _), h.programmed_other hs (by rw [hx]; rfl)⟩
    rw [taken, hx]
    exact drops_nil rfl rfl rfl rfl rfl
  | stopTrip client id restartNeeded options =>
    have hinv := h.onStopTrip hs hx hkeeps
    rw [hx] at hinv
    exact ⟨hinv, h.programmed_other hs (by rw [hx]; rfl)⟩
  | queryTrips query minRemainingDistance minTBFInterval accDist =>
    have hquery := h.onQueryTrips hs hx hkeeps
    rw [hx] at hquery
    refine ⟨hquery.1, fun r rest' hout _ hnothing => ?_⟩
    rw [hover r rest' hout] at hnothing
    exact hquery.2 hnothing
  | restartTrips accDist distance interval =>
    have hout : ((s.trip.adapter.take x.request).onRestartTrips accDist distance interval
        .SUCCESS).outstanding = rest.map SentRequest.request := h.outstanding_take hs
    have hrestarted := h.restarted hs hx hkeeps hout rfl rfl rfl
    have heq : s.taken x rest =
        ⟨⟨s.trip.adapter.take x.request, 0, s.trip.total⟩, some ⟨distance, interval⟩, rest⟩ := by
      rw [taken, SentRequest.runs, hx]
      rfl
    rw [heq, hx]
    rw [hx] at hout hrestarted
    have hfollow := follow_eq (s := ⟨⟨s.trip.adapter.take (.restartTrips accDist distance interval),
      0, s.trip.total⟩, some ⟨distance, interval⟩, rest⟩) (t := ⟨(s.trip.adapter.take
      (.restartTrips accDist distance interval)).onRestartTrips accDist distance interval .SUCCESS,
      0, s.trip.total⟩) hout
    have hanswer : TripEngine.setAdapter
        ⟨s.trip.adapter.take (.restartTrips accDist distance interval), 0, s.trip.total⟩
        ((s.trip.adapter.take (.restartTrips accDist distance interval)).onAnswer
          (.restartTrips accDist distance interval) .SUCCESS s.trip.counter) =
        ⟨(s.trip.adapter.take (.restartTrips accDist distance interval)).onRestartTrips accDist
          distance interval .SUCCESS, 0, s.trip.total⟩ := rfl
    rw [hanswer, hfollow]
    exact ⟨hrestarted.1, fun _ _ _ _ _ => hrestarted.2⟩
  | restartSessions =>
    obtain ⟨hinv, hforce⟩ := h.onRestartSessions hs hx hkeeps
    have hfollow := follow_eq (s := s.taken x rest) (t := (s.taken x rest).trip)
      (h.outstanding_take hs)
    have hanswer : (s.taken x rest).trip.setAdapter
        ((s.trip.adapter.take .restartSessions).onAnswer .restartSessions .SUCCESS
          s.trip.counter) = (s.taken x rest).trip := by
      rw [taken, hx]
      rfl
    rw [hanswer, hfollow]
    exact ⟨hinv, fun _ _ _ _ _ => hforce⟩

theorem Inv.step (h : s.Inv) (hkeeps : s.Keeps e) (hstep : s.step e = some s') :
    s'.Inv ∧ s.Programmed e s' := by
  cases e with
  | count distance =>
    rw [OutdoorEngine.step, Option.map_eq_some_iff] at hstep
    obtain ⟨t, ht, rfl⟩ := hstep
    simp only [TripEngine.step, Option.ite_none_right_eq_some, Option.some.injEq] at ht
    obtain ⟨-, rfl⟩ := ht
    refine ⟨?_, trivial⟩
    have hfollow := follow_eq (s := s) (t := { s.trip with
      counter := s.trip.counter + distance
      total := fun id => s.trip.total id + distance }) h.noted.symm
    rw [hfollow]
    exact h.count hkeeps
  | addClient client batchingCb =>
    obtain rfl := Option.some.inj hstep
    exact ⟨h.drops (drops_nil rfl rfl rfl rfl rfl) (List.forall_mem_nil _), trivial⟩
  | startBatching client id options =>
    obtain rfl := Option.some.inj hstep
    exact ⟨h.procStartBatching, trivial⟩
  | updateBatchingOptions client id options =>
    obtain rfl := Option.some.inj hstep
    exact ⟨h.procUpdateBatching, trivial⟩
  | stopBatching client id =>
    obtain rfl := Option.some.inj hstep
    exact ⟨h.procStopBatching, trivial⟩
  | reportCompletedTrips memory =>
    obtain rfl := Option.some.inj hstep
    exact ⟨h.report hkeeps, trivial⟩
  | engineUp supported =>
    obtain rfl := Option.some.inj hstep
    refine ⟨h.engineUp hkeeps, fun id st hst => hkeeps.1 id st ?_⟩
    have hfind : ({ s.trip.adapter with distanceBatchingSupported := supported } :
        BatchingAdapter).restartSessions.mTripSessions.find id = some st := hst
    rw [restartSessions_mTripSessions] at hfind
    exact hfind
  | answer => exact h.answer hkeeps hstep

/-- **Programming of the engine.**  In a run whose events meet their condition, a restart of the
trips or of the sessions that is over and leaves a trip leaves a batch that ends no later than the
closest trip and has the least interval, and a restart of the sessions resets the counters for the
ongoing batch. -/
theorem programmed_of_run (h : system.Run Keeps es s) :
    ∀ e s', s.Keeps e → s.step e = some s' → s.Programmed e s' := by
  have hinv : s.Inv :=
    h.invariant (I := Inv) inv_init fun _ _ _ h hkeeps hstep => (h.step hkeeps hstep).1
  exact fun e s' hkeeps hstep => (hinv.step hkeeps hstep).2

/-- One trip of 1000 metres, as the adapter has it. -/
def oneTrip (thisTrip ongoing : ℕ) (outstanding : List BatchingRequest) : BatchingAdapter where
  mClientData := Function.update (fun _ => none) 1 (some true)
  mBatchingSessions := (∅ : OrdMap LocationSessionKey BatchingOptions).insert ⟨1, 5⟩
    (tripOptions 10 1000)
  mTripSessions := (∅ : OrdMap ℕ TripSessionStatus).insert 5 ⟨0, thisTrip, 0, 1000, 10⟩
  mOngoingTripDistance := ongoing
  mOngoingTripTBFInterval := 10
  mTripWithOngoingTBFDropped := false
  mTripWithOngoingTripDistanceDropped := false
  batchFull := true
  distanceBatchingSupported := true
  outstanding := outstanding
  completedTrips := []
  started := Function.update (fun _ => false) ⟨1, 5⟩ true
  wrapped := false

theorem oneTrip_find {thisTrip ongoing : ℕ} {outstanding : List BatchingRequest}
    {st : TripSessionStatus} :
    (oneTrip thisTrip ongoing outstanding).mTripSessions.find id = some st ↔
      id = 5 ∧ st = ⟨0, thisTrip, 0, 1000, 10⟩ := by
  show OrdMap.find (OrdMap.insert ∅ 5 _) id = some st ↔ _
  rw [OrdMap.find_insert]
  split_ifs with hid
  · rw [Option.some.injEq, eq_comm, and_iff_right hid]
  · exact iff_of_false nofun fun h => hid h.1

theorem zeroLast_oneTrip {f : TripSessionStatus → ℕ} {thisTrip ongoing : ℕ}
    {outstanding : List BatchingRequest} (hf : f ⟨0, thisTrip, 0, 1000, 10⟩ ≠ 0) :
    ZeroLast f (oneTrip thisTrip ongoing outstanding).mTripSessions.values := by
  rintro ⟨st, hst, hzero⟩
  obtain rfl := List.mem_singleton.1 hst
  exact absurd hzero hf

/-- The engine restarts after a trip of 1000 metres has been reported with 100, and runs it on with
900. -/
theorem programmed_of_run_restart :
    ∃ s s', system.Run Keeps
        [.engineUp true, .addClient 1 true, .startBatching 1 5 (tripOptions 10 1000), .answer,
          .count 100, .reportCompletedTrips fun _ => ⟨0, 0, 0, 0, 0⟩, .engineUp true] s ∧
      s.step .answer = some s' ∧ s'.batch = some ⟨900, 10⟩ ∧ s.Programmed .answer s' := by
  have hquiet : ∀ {a : BatchingAdapter}, a.outstanding = [] → ¬ a.Resetting := by
    rintro a ha ⟨r, hr, -⟩
    rw [ha] at hr
    cases hr
  have h₁ : system.Run Keeps [.engineUp true] _ := .snoc .nil ⟨nofun, nofun, nofun, nofun⟩ rfl
  have h₂ := h₁.snoc (e := TripEvent.addClient 1 true) trivial rfl
  have h₃ := h₂.snoc (e := TripEvent.startBatching 1 5 (tripOptions 10 1000)) trivial rfl
  have h₄ : system.Run Keeps
      [.engineUp true, .addClient 1 true, .startBatching 1 5 (tripOptions 10 1000), .answer]
      ⟨⟨oneTrip 0 1000 [], 0, Function.update (fun _ => 0) 5 0⟩, some ⟨1000, 10⟩, []⟩ :=
    h₃.snoc (e := TripEvent.answer) (fun _ _ hs => by cases hs; trivial) rfl
  have h₅ := h₄.snoc (e := TripEvent.count 100) (.inr fun id st hst => .inr (hquiet rfl)) rfl
  have h₆ : system.Run Keeps
      [.engineUp true, .addClient 1 true, .startBatching 1 5 (tripOptions 10 1000), .answer,
        .count 100, .reportCompletedTrips fun _ => ⟨0, 0, 0, 0, 0⟩]
      ⟨⟨oneTrip 100 1000 [], 100, fun id => Function.update (fun _ => 0) 5 0 id + 100⟩,
        some ⟨1000, 10⟩, []⟩ := by
    refine h₅.snoc (e := TripEvent.reportCompletedTrips fun _ => ⟨0, 0, 0, 0, 0⟩) ?_ rfl
    intro id st hst
    obtain ⟨rfl, rfl⟩ := oneTrip_find.1 hst
    refine ⟨fun hid => hquiet rfl hid.resetting, fun hle => ?_⟩
    exact absurd hle (by decide)
  have h₇ : system.Run Keeps
      [.engineUp true, .addClient 1 true, .startBatching 1 5 (tripOptions 10 1000), .answer,
        .count 100, .reportCompletedTrips fun _ => ⟨0, 0, 0, 0, 0⟩, .engineUp true]
      ⟨⟨oneTrip 100 900 [.restartSessions], 100, fun id => Function.update (fun _ => 0) 5 0 id + 100⟩,
        some ⟨1000, 10⟩, [⟨.restartSessions, ⟨oneTrip 100 900 [.restartSessions], 100,
          fun id => Function.update (fun _ => 0) 5 0 id + 100⟩⟩]⟩ := by
    refine h₆.snoc (e := TripEvent.engineUp true) ⟨fun id st hst => ?_, fun id st hst => ?_,
      zeroLast_oneTrip (by decide), zeroLast_oneTrip (by decide)⟩ rfl
    · obtain ⟨rfl, rfl⟩ := oneTrip_find.1 hst
      rfl
    · obtain ⟨rfl, rfl⟩ := oneTrip_find.1 hst
      exact .inr ⟨5, _, hst, by decide⟩
  refine ⟨_, _, h₇, rfl, rfl, programmed_of_run h₇ .answer _ ?_ rfl⟩
  intro x rest hs
  cases hs
  rintro ⟨id, st, hst⟩
  refine ⟨List.forall_mem_nil _, fun id' st' hst' => ⟨id', st', hst', Nat.le_refl _⟩,
    id, st, hst, ?_⟩
  intro id' st' hst'
  have hst₀ : (oneTrip 100 900 [.restartSessions]).mTripSessions.find id' = some st' := hst'
  obtain ⟨-, rfl⟩ := oneTrip_find.1 hst
  obtain ⟨-, rfl⟩ := oneTrip_find.1 hst₀
  exact Nat.le_refl _

/-- A restart of the sessions leaves the counter of a trip that has joined after 100 metres; and it
starts the batch with 1000 metres for a trip that has 900 left and has not been reported. -/
theorem not_programmed :
    (∃ s s', system.Run System.Free
        [.engineUp true, .addClient 1 true, .startBatching 1 5 (tripOptions 10 1000), .answer,
          .count 100, .startBatching 1 6 (tripOptions 20 2000), .answer] s ∧
      s.step (.engineUp true) = some s' ∧ ¬ s.Programmed (.engineUp true) s') ∧
    ∃ s s', system.Run System.Free
        [.engineUp true, .addClient 1 true, .startBatching 1 5 (tripOptions 10 1000), .answer,
          .count 100, .engineUp true] s ∧
      s.step .answer = some s' ∧ ¬ s.Programmed .answer s' := by
  refine ⟨⟨_, _, System.run_foldlM rfl, rfl, fun h => ?_⟩,
    ⟨_, _, System.run_foldlM rfl, rfl, fun h => ?_⟩⟩
  · have hcounter : (100 : ℕ) = 0 := h 6 ⟨100, 0, 0, 2000, 20⟩ rfl
    cases hcounter
  · obtain ⟨batch, hbatch, hdistance, -⟩ :=
      h .restartSessions [] rfl rfl rfl ⟨5, ⟨0, 0, 0, 1000, 10⟩, rfl⟩
    obtain rfl : (⟨1000, 10⟩ : OutdoorBatch) = batch := Option.some.inj hbatch
    have hle : (1000 + 100 : ℕ) ≤ 1000 + 0 := hdistance 5 ⟨0, 0, 0, 1000, 10⟩ rfl
    omega

end Runs

end OutdoorEngine

end GpsHal
