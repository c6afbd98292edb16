import GpsHal.Batching.Adapter

/-!
# `BatchingAdapter` : which sessions are known

`mBatchingSessions` has the sessions of the clients, and `mTripSessions` those of them that are
trips.  The two maps and the registration for the batch full event are followed over runs in which
the engine answers in any order and with any result.

## Main definitions

* `BatchingAdapter.Bookkept` : what is expected of the two maps and of the registration.
* `BatchingAdapter.Keeps` : the condition on each event.
* `BatchingAdapter.Invariant` : what holds after each event that meets it.

## Main results

* `BatchingAdapter.sessions_bookkept` : what is expected holds whenever no request is under way.
-/

namespace GpsHal

namespace BatchingAdapter

variable (s : BatchingAdapter)

/-- A session that reports by itself exists. -/
def AutoReports : Prop :=
  (∃ key options, s.mBatchingSessions.find key = some options ∧
    options.batchingMode ≠ .NO_AUTO_REPORT) ∨
  ∃ id, (s.mTripSessions.find id).isSome = true

/-- The command to stop a session is not refused: the engine is asked something. -/
def Stoppable (client id : ℕ) : Prop :=
  ∃ r, (s.procStopBatching client id).outstanding = s.outstanding ++ [r]

/-- The trips are the sessions in trip mode; a session that has been started and not stopped since
can be stopped; and the adapter is registered for the batch full event exactly if a session needs
it. -/
structure Bookkept : Prop where
  trips : ∀ id, (s.mTripSessions.find id).isSome = true ↔
    ∃ client options, s.mBatchingSessions.find ⟨client, id⟩ = some options ∧
      options.batchingMode = .TRIP
  stoppable : ∀ client id, s.started ⟨client, id⟩ = true → s.Stoppable client id
  batchFull : s.batchFull = true ↔ s.AutoReports

/-! ### The condition -/

/-- No session has the id. -/
def Unused (id : ℕ) : Prop :=
  (∀ client, s.mBatchingSessions.find ⟨client, id⟩ = none) ∧ s.mTripSessions.find id = none

/-- The engine has been asked to stop a session that is not a trip. -/
def Stopping (client id : ℕ) : Prop :=
  ∃ flpOptions restartNeeded options,
    BatchingRequest.stopBatching client id flpOptions restartNeeded options ∈ s.outstanding

/-- Such a session has reported by itself. -/
def AutoStopping : Prop :=
  ∃ client id flpOptions restartNeeded options,
    BatchingRequest.stopBatching client id flpOptions restartNeeded options ∈ s.outstanding ∧
      flpOptions.batchingMode ≠ .NO_AUTO_REPORT

/-- A start that is answered: after a success the session is known or being stopped, and after a
failure the session that is known, if any, is no trip, and does not report by itself if the one that
failed would not. -/
def StartKeeps (client id : ℕ) (options : BatchingOptions) (err : LocationError) : Prop :=
  if err = .SUCCESS then s.isBatchingSession client id = true ∨ s.Stopping client id
  else ∀ options', s.mBatchingSessions.find ⟨client, id⟩ = some options' →
    options'.batchingMode ≠ .TRIP ∧
      (options.batchingMode = .NO_AUTO_REPORT → options'.batchingMode = .NO_AUTO_REPORT)

/-- The start of the first trip is answered. -/
def StartTripKeeps (client id : ℕ) (err : LocationError) : Prop :=
  if err = .SUCCESS then s.isBatchingSession client id = true ∨ s.Stopping client id
  else ∀ client', s.isBatchingSession client' id = true → client' = client

/-- A stop is answered: a session that is saved or started again finds its id unused, is no trip if
the engine has failed, and then fits the registration. -/
def StopKeeps (id : ℕ) (flpOptions : BatchingOptions) (restartNeeded : Bool)
    (options : BatchingOptions) (err : LocationError) : Prop :=
  if err = .SUCCESS then restartNeeded = true → s.Unused id
  else s.Unused id ∧ options.batchingMode ≠ .TRIP ∧
    if options.batchingMode ≠ .NO_AUTO_REPORT then s.batchFull = true
    else flpOptions.batchingMode ≠ .NO_AUTO_REPORT → s.batchFull = true → s.AutoReports

/-- A trip is stopped only to be started again, while it is known, and if it does not report by
itself any more another session needs the registration. -/
def StopTripKeeps (client id : ℕ) (restartNeeded : Bool) (options : BatchingOptions) : Prop :=
  restartNeeded = true ∧
  (∃ options', s.mBatchingSessions.find ⟨client, id⟩ = some options' ∧
    options'.batchingMode = .TRIP) ∧
  (options.batchingMode = .NO_AUTO_REPORT → s.AutoStopping ∨
    ∃ key options', key ≠ ⟨client, id⟩ ∧ s.mBatchingSessions.find key = some options' ∧
      options'.batchingMode ≠ .NO_AUTO_REPORT)

/-- What the answer to a request has to find.  A trip may join others only if the query fails and
the batch is then not started again. -/
def AnswerKeeps (err : LocationError) : BatchingRequest → Prop
  | .startBatching client id options => s.StartKeeps client id options err
  | .stopBatching _ id flpOptions restartNeeded options =>
    s.StopKeeps id flpOptions restartNeeded options err
  | .startTrip client id _ => s.StartTripKeeps client id err
  | .joinTrip _ _ options => err ≠ .SUCCESS ∧ (s.joinOngoing options none).isSome = true
  | .joinRestart _ _ => err ≠ .SUCCESS
  | .stopTrip client id restartNeeded options => s.StopTripKeeps client id restartNeeded options
  | .queryTrips .. | .restartTrips .. | .restartSessions => True

/-- The condition on an event: a session that is started has a new id, no trip is completed, and an
answer finds what it has to. -/
def Keeps : BatchingEvent → Prop
  | .addClient .. | .removeClient _ | .updateBatchingOptions .. | .stopBatching .. | .engineUp _ =>
    True
  | .startBatching _ id _ => s.Unused id
  | .reportCompletedTrips distance _ =>
    ∀ id st, s.mTripSessions.find id = some st → st.distanceAt distance < st.tripDistance
  | .answer r err _ => s.AnswerKeeps err r

/-- What holds of the maps also between two functions of one message: the ids are used once, the
trips are the sessions in trip mode, there is at most one of them, and the adapter is registered if
a session needs it. -/
structure Core : Prop where
  unique : ∀ client client' id, s.isBatchingSession client id = true →
    s.isBatchingSession client' id = true → client = client'
  trips : ∀ id, (s.mTripSessions.find id).isSome = true ↔
    ∃ client options, s.mBatchingSessions.find ⟨client, id⟩ = some options ∧
      options.batchingMode = .TRIP
  single : ∀ id id', (s.mTripSessions.find id).isSome = true →
    (s.mTripSessions.find id').isSome = true → id = id'
  full : s.AutoReports → s.batchFull = true

/-- A session that has been started is known or is being stopped, and the registration is needed by
a session or by one that is being stopped. -/
structure Invariant : Prop extends Core s where
  started : ∀ client id, s.started ⟨client, id⟩ = true →
    s.isBatchingSession client id = true ∨ s.Stopping client id
  needed : s.batchFull = true → s.AutoReports ∨ s.AutoStopping

variable {s}

theorem invariant_init : init.Invariant where
  unique _ _ _ h := nomatch h
  trips _ := ⟨nofun, fun ⟨_, _, h, _⟩ => nomatch h⟩
  single _ _ h := nomatch h
  full := by
    rintro (⟨_, _, h, _⟩ | ⟨_, h⟩) <;> cases h
  started _ _ h := nomatch h
  needed h := nomatch h

/-! ### Counting -/

theorem autoReportBatchingSessionsCount_eq_zero :
    s.autoReportBatchingSessionsCount = 0 ↔ ¬ s.AutoReports := by
  rw [autoReportBatchingSessionsCount, Nat.add_eq_zero_iff, List.countP_eq_zero,
    OrdMap.size_eq_zero, AutoReports, not_or]
  refine and_congr ?_ ?_
  · constructor
    · rintro h ⟨key, options, hfind, hmode⟩
      exact h (key, options) (OrdMap.find_eq_some.1 hfind) (decide_eq_true hmode)
    · intro h e he hmode
      exact h ⟨e.1, e.2, OrdMap.find_eq_some.2 he, of_decide_eq_true hmode⟩
  · simp [Option.isSome_iff_ne_none]

theorem isBatchingSession_iff {client id : ℕ} :
    s.isBatchingSession client id = true ↔
      ∃ options, s.mBatchingSessions.find ⟨client, id⟩ = some options :=
  Option.isSome_iff_exists

/-- With one trip at most, there is none or exactly one. -/
theorem Core.size_mTripSessions (h : s.Core) {id : ℕ}
    (hid : (s.mTripSessions.find id).isSome = true) : s.mTripSessions.size = 1 := by
  obtain ⟨st, hst⟩ := Option.isSome_iff_exists.1 hid
  rw [OrdMap.size_eq_one hst, OrdMap.isEmpty_iff_find]
  intro id'
  rw [OrdMap.find_erase]
  split_ifs with hne
  · rfl
  · by_contra hsome
    exact hne (h.single _ _ (Option.isSome_iff_ne_none.2 hsome) hid)

/-! ### Steps that leave the sessions alone -/

/-- The request is not one to stop a session that is not a trip. -/
def NoStop : BatchingRequest → Prop
  | .stopBatching .. => False
  | .startBatching .. | .startTrip .. | .joinTrip .. | .joinRestart .. | .stopTrip .. |
    .queryTrips .. | .restartTrips .. | .restartSessions => True

/-- `s'` has the same stops under way as `s`. -/
def SameStops (s s' : BatchingAdapter) : Prop :=
  ∀ client id flpOptions restartNeeded options,
    .stopBatching client id flpOptions restartNeeded options ∈ s'.outstanding ↔
      .stopBatching client id flpOptions restartNeeded options ∈ s.outstanding

/-- `s'` has the same sessions as `s` and the same trips, maybe with other counters. -/
structure SameSessions (s s' : BatchingAdapter) : Prop where
  sessions : s'.mBatchingSessions = s.mBatchingSessions
  trips : ∀ id, (s'.mTripSessions.find id).isSome = (s.mTripSessions.find id).isSome
  full : s'.batchFull = s.batchFull
  started : s'.started = s.started
  stops : SameStops s s'

section Same

variable {s' s'' : BatchingAdapter} {r : BatchingRequest}

theorem NoStop.ne (hr : NoStop r) (client id : ℕ) (flpOptions : BatchingOptions)
    (restartNeeded : Bool) (options : BatchingOptions) :
    .stopBatching client id flpOptions restartNeeded options ≠ r := by
  rintro rfl
  exact hr

theorem SameStops.stopping (h : SameStops s s') {client id : ℕ} :
    s'.Stopping client id ↔ s.Stopping client id := by
  simp only [Stopping, h client id]

theorem SameStops.autoStopping (h : SameStops s s') : s'.AutoStopping ↔ s.AutoStopping := by
  simp only [AutoStopping, h _ _]

theorem SameStops.trans (h : SameStops s s') (h' : SameStops s' s'') : SameStops s s'' :=
  fun client id flpOptions restartNeeded options =>
    (h' client id flpOptions restartNeeded options).trans
      (h client id flpOptions restartNeeded options)

theorem sameStops_of_eq (h : s'.outstanding = s.outstanding) : SameStops s s' := by
  intro client id flpOptions restartNeeded options
  rw [h]

theorem sameStops_append (hr : NoStop r) (h : s'.outstanding = s.outstanding ++ [r]) :
    SameStops s s' := by
  intro client id flpOptions restartNeeded options
  rw [h, List.mem_append, List.mem_singleton]
  exact or_iff_left (hr.ne client id flpOptions restartNeeded options)

theorem sameStops_erase (hr : NoStop r) (h : s'.outstanding = s.outstanding.erase r) :
    SameStops s s' := by
  intro client id flpOptions restartNeeded options
  rw [h]
  exact List.mem_erase_of_ne (hr.ne client id flpOptions restartNeeded options)

theorem SameSessions.refl (s : BatchingAdapter) : SameSessions s s :=
  ⟨rfl, fun _ => rfl, rfl, rfl, sameStops_of_eq rfl⟩

theorem SameSessions.trans (h : SameSessions s s') (h' : SameSessions s' s'') :
    SameSessions s s'' :=
  ⟨h'.sessions.trans h.sessions, fun id => (h'.trips id).trans (h.trips id), h'.full.trans h.full,
    h'.started.trans h.started, h.stops.trans h'.stops⟩

theorem SameSessions.ite {p : Prop} [Decidable p] (h : SameSessions s s')
    (h' : SameSessions s s'') : SameSessions s (if p then s' else s'') := by
  split_ifs
  · exact h
  · exact h'

theorem SameSessions.autoReports (h : SameSessions s s') : s'.AutoReports ↔ s.AutoReports := by
  simp only [AutoReports, h.sessions, h.trips]

theorem Core.congr (h : s.Core) (hs : SameSessions s s') : s'.Core := by
  constructor
  · simpa only [isBatchingSession, hs.sessions] using h.unique
  · simpa only [hs.sessions, hs.trips] using h.trips
  · simpa only [hs.trips] using h.single
  · rw [hs.autoReports, hs.full]
    exact h.full

theorem Invariant.congr (h : s.Invariant) (hs : SameSessions s s') : s'.Invariant where
  toCore := h.toCore.congr hs
  started client id hstarted := by
    rw [hs.started] at hstarted
    rw [isBatchingSession, hs.sessions, hs.stops.stopping]
    exact h.started client id hstarted
  needed hfull := by
    rw [hs.full] at hfull
    rw [hs.autoReports, hs.stops.autoStopping]
    exact h.needed hfull

theorem sameSessions_request (hr : NoStop r) : SameSessions s (s.request r) :=
  ⟨rfl, fun _ => rfl, rfl, rfl, sameStops_append hr rfl⟩

theorem sameSessions_joinTrip (s : BatchingAdapter) (client id : ℕ) (options : BatchingOptions) :
    SameSessions s (s.request (.joinTrip client id options)) :=
  sameSessions_request trivial

theorem sameSessions_mapValues (f : TripSessionStatus → TripSessionStatus) :
    SameSessions s (s.setTripSessions (s.mTripSessions.mapValues f)) := by
  refine ⟨rfl, fun id => ?_, rfl, rfl, sameStops_of_eq rfl⟩
  show ((s.mTripSessions.mapValues f).find id).isSome = _
  rw [OrdMap.find_mapValues, Option.isSome_map]

/-- A request that stops no session is taken. -/
theorem sameSessions_take (hr : NoStop r) :
    SameSessions s (s.take r) :=
  ⟨rfl, fun _ => rfl, rfl, rfl, sameStops_erase hr rfl⟩

theorem sameSessions_restartSessions (h : s.AutoReports → s.batchFull = true) :
    SameSessions s s.restartSessions := by
  have hfull : SameSessions s
      (if 0 < s.autoReportBatchingSessionsCount then s.setBatchFull true else s) := by
    split_ifs with hcount
    · refine ⟨rfl, fun _ => rfl, ?_, rfl, sameStops_of_eq rfl⟩
      refine (h ?_).symm
      by_contra hnone
      exact hcount.ne' (autoReportBatchingSessionsCount_eq_zero.2 hnone)
    · exact .refl s
  refine hfull.trans ?_
  unfold restartSessions
  dsimp only
  generalize (if 0 < s.autoReportBatchingSessionsCount then s.setBatchFull true else s) = s'
  split_ifs
  · exact ⟨rfl, fun _ => rfl, rfl, rfl,
      sameStops_append (r := .restartSessions) trivial rfl⟩
  · exact .refl _

end Same

/-! ### A session enters -/

section Enter

variable {s' : BatchingAdapter} {client id : ℕ} {options : BatchingOptions}

/-- `s'` is `s` with one more session. -/
structure Enters (client id : ℕ) (options : BatchingOptions) (s s' : BatchingAdapter) : Prop where
  sessions : s'.mBatchingSessions = s.mBatchingSessions.insert ⟨client, id⟩ options
  trips : ∀ id', (s'.mTripSessions.find id').isSome = true ↔
    options.batchingMode = .TRIP ∧ id' = id ∨ (s.mTripSessions.find id').isSome = true
  full : s'.batchFull = true ↔
    s.batchFull = true ∨ options.batchingMode ≠ .NO_AUTO_REPORT ∧ ¬ s.AutoReports
  started : s'.started = s.started
  stops : SameStops s s'

theorem enters_startBatching (hmode : options.batchingMode ≠ .TRIP) :
    Enters client id options s (s.startBatching client id options) := by
  unfold startBatching
  dsimp only
  constructor
  · split_ifs <;> rfl
  · intro id'
    rw [or_iff_right fun h => hmode h.1]
    split_ifs <;> rfl
  · split_ifs with h
    · exact ⟨fun _ => .inr ⟨h.1, autoReportBatchingSessionsCount_eq_zero.1 h.2⟩, fun _ => rfl⟩
    · refine (or_iff_left ?_).symm
      exact fun h' => h ⟨h'.1, autoReportBatchingSessionsCount_eq_zero.2 h'.2⟩
  · split_ifs <;> rfl
  · refine sameStops_append (r := .startBatching client id options) trivial ?_
    split_ifs <;> rfl

theorem enters_startTrip (hmode : options.batchingMode = .TRIP) (hsize : s.mTripSessions.size = 0) :
    Enters client id options s (s.startTripBatchingMultiplex client id options) := by
  unfold startTripBatchingMultiplex
  rw [if_pos hsize]
  dsimp only
  have hauto : options.batchingMode ≠ .NO_AUTO_REPORT := by
    rw [hmode]
    nofun
  constructor
  · split_ifs <;> rfl
  · intro id'
    have hfind : ∀ st, ((s.mTripSessions.insert id st).find id').isSome = true ↔
        options.batchingMode = .TRIP ∧ id' = id ∨ (s.mTripSessions.find id').isSome = true := by
      intro st
      rw [OrdMap.find_insert]
      split_ifs with h <;> simp [h, hmode]
    split_ifs <;> exact hfind _
  · split_ifs with h
    · exact ⟨fun _ => .inr ⟨hauto, autoReportBatchingSessionsCount_eq_zero.1 h⟩, fun _ => rfl⟩
    · refine (or_iff_left ?_).symm
      exact fun h' => h (autoReportBatchingSessionsCount_eq_zero.2 h'.2)
  · split_ifs <;> rfl
  · refine sameStops_append (r := .startTrip client id options) trivial ?_
    split_ifs <;> rfl

/-- A session enters, unless it is a trip that has to ask the engine first. -/
theorem startSession_cases (s : BatchingAdapter) (client id : ℕ) (options : BatchingOptions) :
    s.mTripSessions.size ≠ 0 ∧
        s.startSession client id options = s.request (.joinTrip client id options) ∨
      (options.batchingMode = .TRIP → s.mTripSessions.size = 0) ∧
        Enters client id options s (s.startSession client id options) := by
  unfold startSession
  cases hmode : options.batchingMode with
  | ROUTINE | NO_AUTO_REPORT =>
    exact .inr ⟨nofun, enters_startBatching (by rw [hmode]; nofun)⟩
  | TRIP =>
    by_cases hsize : s.mTripSessions.size = 0
    · exact .inr ⟨fun _ => hsize, enters_startTrip hmode hsize⟩
    · refine .inl ⟨hsize, ?_⟩
      show s.startTripBatchingMultiplex client id options = _
      rw [startTripBatchingMultiplex, if_neg hsize]

theorem Enters.find_of_ne (he : Enters client id options s s') {key : LocationSessionKey}
    (hne : key ≠ ⟨client, id⟩) : s'.mBatchingSessions.find key = s.mBatchingSessions.find key := by
  rw [he.sessions, OrdMap.find_insert, if_neg hne]

theorem Enters.find_self (he : Enters client id options s s') :
    s'.mBatchingSessions.find ⟨client, id⟩ = some options := by
  rw [he.sessions, OrdMap.find_insert, if_pos rfl]

theorem Enters.isBatchingSession_iff (he : Enters client id options s s') {client' id' : ℕ} :
    s'.isBatchingSession client' id' = true ↔
      client' = client ∧ id' = id ∨ s.isBatchingSession client' id' = true := by
  unfold isBatchingSession
  rw [he.sessions, OrdMap.find_insert]
  split_ifs with h
  · cases h
    simp
  · refine (or_iff_right ?_).symm
    rintro ⟨rfl, rfl⟩
    exact h rfl

theorem Enters.autoReports (he : Enters client id options s s') (hunused : s.Unused id) :
    s'.AutoReports ↔ options.batchingMode ≠ .NO_AUTO_REPORT ∨ s.AutoReports := by
  constructor
  · rintro (⟨key, options', hfind, hmode⟩ | ⟨id', hid'⟩)
    · by_cases hkey : key = ⟨client, id⟩
      · subst hkey
        obtain rfl := Option.some.inj (he.find_self.symm.trans hfind)
        exact .inl hmode
      · rw [he.find_of_ne hkey] at hfind
        exact .inr (.inl ⟨key, options', hfind, hmode⟩)
    · rcases (he.trips id').1 hid' with ⟨hmode, -⟩ | hid'
      · exact .inl (by rw [hmode]; nofun)
      · exact .inr (.inr ⟨id', hid'⟩)
  · rintro (hmode | ⟨key, options', hfind, hmode⟩ | ⟨id', hid'⟩)
    · exact .inl ⟨⟨client, id⟩, options, he.find_self, hmode⟩
    · refine .inl ⟨key, options', ?_, hmode⟩
      have hne : key ≠ ⟨client, id⟩ := by
        rintro rfl
        rw [hunused.1 client] at hfind
        cases hfind
      rw [he.find_of_ne hne, hfind]
    · exact .inr ⟨id', (he.trips id').2 (.inr hid')⟩

theorem Core.enter (h : s.Core) (hunused : s.Unused id)
    (hsize : options.batchingMode = .TRIP → s.mTripSessions.size = 0)
    (he : Enters client id options s s') : s'.Core := by
  have hother : ∀ client', client' ≠ client →
      s'.mBatchingSessions.find ⟨client', id⟩ = none := by
    intro client' hne
    rw [he.find_of_ne fun heq => hne (congrArg LocationSessionKey.client heq), hunused.1]
  constructor
  · intro client₁ client₂ id' h₁ h₂
    rw [he.isBatchingSession_iff] at h₁ h₂
    have hnot : ∀ client', ¬ s.isBatchingSession client' id = true := by
      intro client' hknown
      obtain ⟨options', hfind⟩ := isBatchingSession_iff.1 hknown
      rw [hunused.1] at hfind
      cases hfind
    rcases h₁ with ⟨rfl, rfl⟩ | h₁
    · rcases h₂ with ⟨rfl, -⟩ | h₂
      · rfl
      · exact absurd h₂ (hnot client₂)
    · rcases h₂ with ⟨rfl, rfl⟩ | h₂
      · exact absurd h₁ (hnot client₁)
      · exact h.unique _ _ _ h₁ h₂
  · intro id'
    rw [he.trips]
    by_cases hid : id' = id
    · subst hid
      rw [hunused.2, and_iff_left rfl, or_iff_left (by simp)]
      constructor
      · exact fun hmode => ⟨client, options, he.find_self, hmode⟩
      · rintro ⟨client', options', hfind, hmode⟩
        by_cases hc : client' = client
        · subst hc
          obtain rfl := Option.some.inj (he.find_self.symm.trans hfind)
          exact hmode
        · rw [hother client' hc] at hfind
          cases hfind
    · rw [or_iff_right fun hnew => hid hnew.2, h.trips id']
      have hkey : ∀ client', (⟨client', id'⟩ : LocationSessionKey) ≠ ⟨client, id⟩ :=
        fun client' heq => hid (congrArg LocationSessionKey.id heq)
      simp only [he.find_of_ne (hkey _)]
  · intro id₁ id₂ h₁ h₂
    rw [he.trips] at h₁ h₂
    rcases h₁ with ⟨hmode, rfl⟩ | h₁
    · rcases h₂ with ⟨-, rfl⟩ | h₂
      · rfl
      · rw [OrdMap.size_eq_zero.1 (hsize hmode) id₂] at h₂
        cases h₂
    · rcases h₂ with ⟨hmode, rfl⟩ | h₂
      · rw [OrdMap.size_eq_zero.1 (hsize hmode) id₁] at h₁
        cases h₁
      · exact h.single _ _ h₁ h₂
  · intro hauto
    rw [he.full]
    by_cases hs : s.AutoReports
    · exact .inl (h.full hs)
    · exact .inr ⟨((he.autoReports hunused).1 hauto).resolve_right hs, hs⟩

/-- After a session has entered the invariant holds, also if before it was only this session that
had been started without being known, or that the adapter was registered for. -/
theorem Core.invariant_enter (h : s.Core) (hunused : s.Unused id)
    (hsize : options.batchingMode = .TRIP → s.mTripSessions.size = 0)
    (hstarted : ∀ client' id', s.started ⟨client', id'⟩ = true → client' = client ∧ id' = id ∨
      s.isBatchingSession client' id' = true ∨ s.Stopping client' id')
    (hneeded : options.batchingMode = .NO_AUTO_REPORT → s.batchFull = true →
      s.AutoReports ∨ s.AutoStopping)
    (he : Enters client id options s s') : s'.Invariant where
  toCore := h.enter hunused hsize he
  started client' id' hstart := by
    rw [he.started] at hstart
    rw [he.isBatchingSession_iff, he.stops.stopping, or_assoc]
    exact hstarted client' id' hstart
  needed hfull := by
    rw [he.autoReports hunused, he.stops.autoStopping, or_assoc]
    by_cases hmode : options.batchingMode = .NO_AUTO_REPORT
    · refine .inr (hneeded hmode ?_)
      exact (he.full.1 hfull).resolve_right fun hnew => hnew.1 hmode
    · exact .inl hmode

theorem Invariant.startSession (h : s.Invariant) (hunused : s.Unused id) :
    (s.startSession client id options).Invariant := by
  rcases startSession_cases s client id options with ⟨-, heq⟩ | ⟨hsize, he⟩
  · rw [heq]
    exact h.congr (sameSessions_joinTrip s client id options)
  · exact h.toCore.invariant_enter hunused hsize
      (fun client' id' hstart => .inr (h.started client' id' hstart)) (fun _ => h.needed) he

end Enter

/-! ### A session leaves -/

section Leave

variable {client id : ℕ} {options : BatchingOptions} {err : LocationError}

theorem find_eraseBatchingSession {key : LocationSessionKey} {options' : BatchingOptions} :
    (s.eraseBatchingSession client id).mBatchingSessions.find key = some options' ↔
      key ≠ ⟨client, id⟩ ∧ s.mBatchingSessions.find key = some options' := by
  show (s.mBatchingSessions.erase _).find key = some options' ↔ _
  rw [OrdMap.find_erase]
  split_ifs with h <;> simp [h]

theorem autoReports_of_erase (h : (s.eraseBatchingSession client id).AutoReports) :
    s.AutoReports := by
  refine h.imp_left ?_
  rintro ⟨key, options', hfind, hmode⟩
  exact ⟨key, options', (find_eraseBatchingSession.1 hfind).2, hmode⟩

/-- A session that is not a trip is erased. -/
theorem Core.erase (h : s.Core)
    (hmode : ∀ options', s.mBatchingSessions.find ⟨client, id⟩ = some options' →
      options'.batchingMode ≠ .TRIP) : (s.eraseBatchingSession client id).Core where
  unique client₁ client₂ id' h₁ h₂ := by
    rw [isBatchingSession_iff] at h₁ h₂
    simp only [find_eraseBatchingSession] at h₁ h₂
    obtain ⟨options₁, -, h₁⟩ := h₁
    obtain ⟨options₂, -, h₂⟩ := h₂
    exact h.unique _ _ id' (isBatchingSession_iff.2 ⟨_, h₁⟩) (isBatchingSession_iff.2 ⟨_, h₂⟩)
  trips id' := by
    refine (h.trips id').trans (exists_congr fun client' => exists_congr fun options' => ?_)
    rw [find_eraseBatchingSession, and_assoc]
    refine (and_iff_right_of_imp ?_).symm
    rintro ⟨hfind, htrip⟩ heq
    rw [heq] at hfind
    exact hmode options' hfind htrip
  single := h.single
  full hauto := h.full (autoReports_of_erase hauto)

/-- A trip is erased from both maps. -/
theorem Core.eraseTrip (h : s.Core)
    (honly : ∀ client', s.isBatchingSession client' id = true → client' = client) :
    ((s.eraseBatchingSession client id).setTripSessions (s.mTripSessions.erase id)).Core := by
  have htrip : ∀ id', ((s.mTripSessions.erase id).find id').isSome = true ↔
      id' ≠ id ∧ (s.mTripSessions.find id').isSome = true := by
    intro id'
    rw [OrdMap.find_erase]
    split_ifs with hid <;> simp [hid]
  constructor
  · intro client₁ client₂ id' h₁ h₂
    change (s.eraseBatchingSession client id).isBatchingSession client₁ id' = true at h₁
    change (s.eraseBatchingSession client id).isBatchingSession client₂ id' = true at h₂
    rw [isBatchingSession_iff] at h₁ h₂
    simp only [find_eraseBatchingSession] at h₁ h₂
    obtain ⟨options₁, -, h₁⟩ := h₁
    obtain ⟨options₂, -, h₂⟩ := h₂
    exact h.unique _ _ id' (isBatchingSession_iff.2 ⟨_, h₁⟩) (isBatchingSession_iff.2 ⟨_, h₂⟩)
  · intro id'
    change ((s.mTripSessions.erase id).find id').isSome = true ↔ ∃ client' options',
      (s.eraseBatchingSession client id).mBatchingSessions.find ⟨client', id'⟩ = some options' ∧ _
    rw [htrip, h.trips]
    simp only [find_eraseBatchingSession]
    constructor
    · rintro ⟨hid, client', options', hfind, hmode⟩
      exact ⟨client', options', ⟨fun heq => hid (congrArg LocationSessionKey.id heq), hfind⟩, hmode⟩
    · rintro ⟨client', options', ⟨hne, hfind⟩, hmode⟩
      refine ⟨?_, client', options', hfind, hmode⟩
      rintro rfl
      obtain rfl := honly client' (isBatchingSession_iff.2 ⟨_, hfind⟩)
      exact hne rfl
  · intro id₁ id₂ h₁ h₂
    exact h.single _ _ ((htrip id₁).1 h₁).2 ((htrip id₂).1 h₂).2
  · intro hauto
    refine h.full ?_
    rcases hauto with ⟨key, options', hfind, hmode⟩ | ⟨id', hid'⟩
    · exact autoReports_of_erase (.inl ⟨key, options', hfind, hmode⟩)
    · exact .inr ⟨id', ((htrip id').1 hid').2⟩

/-- The registration follows the sessions. -/
theorem Core.setBatchFull (h : s.Core) {b : Bool} (hb : s.AutoReports → b = true) :
    (s.setBatchFull b).Core :=
  ⟨h.unique, h.trips, h.single, hb⟩

theorem Invariant.updateClientsEventMask (h : s.Invariant) : s.updateClientsEventMask.Invariant := by
  have hcount : decide (0 < s.autoReportBatchingSessionsCount) = true ↔ s.AutoReports := by
    rw [decide_eq_true_eq, Nat.pos_iff_ne_zero, ne_eq, autoReportBatchingSessionsCount_eq_zero,
      not_not]
  exact ⟨h.toCore.setBatchFull hcount.2, h.started, fun hfull => .inl (hcount.1 hfull)⟩

/-! ### Requests to stop -/

/-- The engine is asked to stop a session that is not a trip. -/
theorem Invariant.stopBatching (h : s.Invariant) (restartNeeded : Bool)
    (hmode : ∀ options', s.mBatchingSessions.find ⟨client, id⟩ = some options' →
      options'.batchingMode ≠ .TRIP) :
    (s.stopBatching client id restartNeeded options).Invariant := by
  unfold BatchingAdapter.stopBatching
  split
  next flpOptions hflp =>
    have hcore := h.toCore.erase hmode
    refine ⟨⟨hcore.unique, hcore.trips, hcore.single, hcore.full⟩, ?_, ?_⟩
    · intro client' id' hstart
      by_cases hkey : (⟨client', id'⟩ : LocationSessionKey) = ⟨client, id⟩
      · cases hkey
        exact .inr ⟨flpOptions, restartNeeded, options,
          List.mem_append_right _ List.mem_cons_self⟩
      · refine (h.started client' id' hstart).imp ?_ ?_
        · intro hknown
          obtain ⟨options', hfind⟩ := isBatchingSession_iff.1 hknown
          exact isBatchingSession_iff.2 ⟨options', find_eraseBatchingSession.2 ⟨hkey, hfind⟩⟩
        · rintro ⟨flpOptions', restartNeeded', options', hmem⟩
          exact ⟨flpOptions', restartNeeded', options', List.mem_append_left _ hmem⟩
    · intro hfull
      rcases h.needed hfull with (⟨key, options', hfind, hauto⟩ | hid) |
        ⟨client', id', flpOptions', restartNeeded', options', hmem, hauto⟩
      · by_cases hkey : key = ⟨client, id⟩
        · subst hkey
          obtain rfl := Option.some.inj (hflp.symm.trans hfind)
          exact .inr ⟨client, id, flpOptions, restartNeeded, options,
            List.mem_append_right _ List.mem_cons_self, hauto⟩
        · exact .inl (.inl ⟨key, options', find_eraseBatchingSession.2 ⟨hkey, hfind⟩, hauto⟩)
      · exact .inl (.inr hid)
      · exact .inr ⟨client', id', flpOptions', restartNeeded', options',
          List.mem_append_left _ hmem, hauto⟩
  next => exact h

/-- The engine is asked to stop the only trip. -/
theorem Invariant.stopTripBatchingMultiplex (h : s.Invariant)
    (htrip : (s.mTripSessions.find id).isSome = true) (restartNeeded : Bool) :
    (s.stopTripBatchingMultiplex client id restartNeeded options).Invariant := by
  rw [BatchingAdapter.stopTripBatchingMultiplex, if_pos (h.size_mTripSessions htrip)]
  exact h.congr (sameSessions_request trivial)

end Leave

/-! ### One session between two states -/

section But

variable {s' : BatchingAdapter} {client id : ℕ} {options : BatchingOptions} {err : LocationError}

/-- The invariant, except that one session may have been started without being known. -/
structure InvariantBut (client id : ℕ) (s : BatchingAdapter) : Prop extends Core s where
  started : ∀ client' id', (⟨client', id'⟩ : LocationSessionKey) ≠ ⟨client, id⟩ →
    s.started ⟨client', id'⟩ = true →
    s.isBatchingSession client' id' = true ∨ s.Stopping client' id'
  needed : s.batchFull = true → s.AutoReports ∨ s.AutoStopping

theorem InvariantBut.congr (h : InvariantBut client id s) (hs : SameSessions s s') :
    InvariantBut client id s' where
  toCore := h.toCore.congr hs
  started client' id' hne hstarted := by
    rw [hs.started] at hstarted
    rw [isBatchingSession, hs.sessions, hs.stops.stopping]
    exact h.started client' id' hne hstarted
  needed hfull := by
    rw [hs.full] at hfull
    rw [hs.autoReports, hs.stops.autoStopping]
    exact h.needed hfull

/-- The session is not started any more. -/
theorem InvariantBut.invariant (h : InvariantBut client id s) :
    Invariant { s with started := Function.update s.started ⟨client, id⟩ false } := by
  refine ⟨⟨h.unique, h.trips, h.single, h.full⟩, fun client' id' hstart => ?_, h.needed⟩
  change Function.update s.started _ _ _ = true at hstart
  by_cases hkey : (⟨client', id'⟩ : LocationSessionKey) = ⟨client, id⟩
  · rw [hkey, Function.update_self] at hstart
    cases hstart
  · rw [Function.update_of_ne hkey] at hstart
    exact h.started client' id' hkey hstart

theorem InvariantBut.reportStart (h : InvariantBut client id s) (herr : err ≠ .SUCCESS) :
    (s.reportStart client id err).Invariant := by
  rw [BatchingAdapter.reportStart, decide_eq_false herr]
  exact h.invariant

theorem InvariantBut.reportStop (h : InvariantBut client id s) :
    (s.reportStop client id .SUCCESS).Invariant := by
  rw [BatchingAdapter.reportStop, if_pos rfl]
  exact h.invariant

theorem Invariant.reportStart (h : s.Invariant)
    (hknown : err = .SUCCESS → s.isBatchingSession client id = true ∨ s.Stopping client id) :
    (s.reportStart client id err).Invariant := by
  refine ⟨⟨h.unique, h.trips, h.single, h.full⟩, fun client' id' hstart => ?_, h.needed⟩
  change Function.update s.started _ _ _ = true at hstart
  by_cases hkey : (⟨client', id'⟩ : LocationSessionKey) = ⟨client, id⟩
  · cases hkey
    rw [Function.update_self, decide_eq_true_eq] at hstart
    exact hknown hstart
  · rw [Function.update_of_ne hkey] at hstart
    exact h.started client' id' hstart

theorem Invariant.reportStop (h : s.Invariant) : (s.reportStop client id err).Invariant := by
  by_cases herr : err = .SUCCESS
  · subst herr
    refine InvariantBut.reportStop ⟨h.toCore, fun client' id' _ => h.started client' id', h.needed⟩
  · rw [BatchingAdapter.reportStop, if_neg herr]
    exact h

/-- A session that has been started is known after another one has been erased. -/
theorem Invariant.started_of_ne (h : s.Invariant) {client' id' : ℕ}
    (hne : (⟨client', id'⟩ : LocationSessionKey) ≠ ⟨client, id⟩)
    (hstart : s.started ⟨client', id'⟩ = true) :
    (s.eraseBatchingSession client id).isBatchingSession client' id' = true ∨
      s.Stopping client' id' := by
  refine (h.started client' id' hstart).imp_left fun hknown => ?_
  obtain ⟨options', hfind⟩ := isBatchingSession_iff.1 hknown
  exact isBatchingSession_iff.2 ⟨options', find_eraseBatchingSession.2 ⟨hne, hfind⟩⟩

/-! ### The answers to starts -/

theorem Invariant.onStartBatching (h : s.Invariant)
    (hkeeps : s.StartKeeps client id options err) :
    (s.onStartBatching client id options err).Invariant := by
  unfold BatchingAdapter.onStartBatching
  unfold StartKeeps at hkeeps
  by_cases herr : err = .SUCCESS
  · simp only [herr, ne_eq, not_true_eq_false, false_and, if_false, if_true] at hkeeps ⊢
    exact h.reportStart fun _ => hkeeps
  · simp only [herr, ne_eq, not_false_eq_true, true_and, if_true, if_false] at hkeeps ⊢
    rw [ite_setBatchFull]
    have hcore := h.toCore.erase fun options' hfind => (hkeeps options' hfind).1
    refine InvariantBut.reportStart ⟨hcore.setBatchFull fun hauto => ?_, ?_, fun hfull => ?_⟩ herr
    · rw [if_neg fun hnone => autoReportBatchingSessionsCount_eq_zero.1 hnone.2 hauto]
      exact hcore.full hauto
    · exact fun client' id' hne => h.started_of_ne hne
    · by_cases hauto : (s.eraseBatchingSession client id).AutoReports
      · exact .inl hauto
      · change (if _ then false else s.batchFull) = true at hfull
        split_ifs at hfull with hcond
        have hmode : options.batchingMode = .NO_AUTO_REPORT := by
          by_contra hmode
          exact hcond ⟨hmode, autoReportBatchingSessionsCount_eq_zero.2 hauto⟩
        -- the session that is gone did not report by itself either
        refine (h.needed hfull).imp_left ?_
        rintro (⟨key, options', hfind, hmode'⟩ | hid)
        · refine .inl ⟨key, options', find_eraseBatchingSession.2 ⟨?_, hfind⟩, hmode'⟩
          rintro rfl
          exact hmode' ((hkeeps options' hfind).2 hmode)
        · exact .inr hid

theorem Invariant.onStartTrip (h : s.Invariant) (hkeeps : s.StartTripKeeps client id err) :
    (s.onStartTrip client id options err).Invariant := by
  unfold BatchingAdapter.onStartTrip
  unfold StartTripKeeps at hkeeps
  by_cases herr : err = .SUCCESS
  · simp only [herr, if_true] at hkeeps ⊢
    have hs : SameSessions s (s.setOngoing options.minDistance options.minInterval) :=
      ⟨rfl, fun _ => rfl, rfl, rfl, sameStops_of_eq rfl⟩
    exact (h.congr hs).reportStart fun _ => hkeeps
  · simp only [herr, if_false] at hkeeps ⊢
    rw [ite_setBatchFull]
    have hcore : ((s.eraseBatchingSession client id).setTripSessions
        ((s.eraseBatchingSession client id).mTripSessions.erase id)).Core :=
      h.toCore.eraseTrip hkeeps
    refine InvariantBut.reportStart ⟨hcore.setBatchFull fun hauto => ?_, ?_, fun hfull => ?_⟩ herr
    · rw [if_neg fun hnone => autoReportBatchingSessionsCount_eq_zero.1 hnone hauto]
      exact hcore.full hauto
    · exact fun client' id' hne => h.started_of_ne hne
    · change (if _ then false else s.batchFull) = true at hfull
      split_ifs at hfull with hcond
      rw [autoReportBatchingSessionsCount_eq_zero, not_not] at hcond
      exact .inl hcond

theorem Invariant.onJoinTrip (h : s.Invariant) (herr : err ≠ .SUCCESS)
    (hjoin : (s.joinOngoing options none).isSome = true) (distance : ℕ) :
    (s.onJoinTrip client id options err distance).Invariant := by
  unfold BatchingAdapter.onJoinTrip
  obtain ⟨⟨ongoingDistance, ongoingInterval⟩, hjoin⟩ := Option.isSome_iff_exists.1 hjoin
  simp only [herr, ne_eq, not_false_eq_true, if_true, hjoin]
  have hs : SameSessions s (s.setOngoing ongoingDistance ongoingInterval) :=
    ⟨rfl, fun _ => rfl, rfl, rfl, sameStops_of_eq rfl⟩
  have hs' := hs.trans (sameSessions_mapValues TripSessionStatus.rebase)
  exact h.congr (hs'.trans (sameSessions_request trivial))

/-! ### The answers to stops -/

section Stopped

variable {flpOptions : BatchingOptions} {restartNeeded : Bool} {r : BatchingRequest}

/-- Other sessions that are being stopped still are when the answer to a stop is taken. -/
theorem stopping_erase (hr : r = .stopBatching client id flpOptions restartNeeded options)
    {client' id' : ℕ} (hne : (⟨client', id'⟩ : LocationSessionKey) ≠ ⟨client, id⟩)
    (h : s.Stopping client' id') :
    (s.take r).Stopping client' id' := by
  obtain ⟨flpOptions', restartNeeded', options', hmem⟩ := h
  refine ⟨flpOptions', restartNeeded', options', (List.mem_erase_of_ne ?_).2 hmem⟩
  rintro rfl
  cases hr
  exact hne rfl

theorem autoStopping_erase (hr : r = .stopBatching client id flpOptions restartNeeded options)
    (hflp : flpOptions.batchingMode = .NO_AUTO_REPORT) (h : s.AutoStopping) :
    (s.take r).AutoStopping := by
  obtain ⟨client', id', flpOptions', restartNeeded', options', hmem, hauto⟩ := h
  refine ⟨client', id', flpOptions', restartNeeded', options', (List.mem_erase_of_ne ?_).2 hmem,
    hauto⟩
  rintro rfl
  cases hr
  exact hauto hflp

/-- The session is not started again, or is not saved yet. -/
theorem Invariant.stopped (h : s.Invariant)
    (hr : r = .stopBatching client id flpOptions restartNeeded options) :
    InvariantBut client id ((s.take r).setBatchFull
      (if (s.take r).autoReportBatchingSessionsCount = 0 ∧
          flpOptions.batchingMode ≠ BatchingMode.NO_AUTO_REPORT then false
      else (s.take r).batchFull)) := by
  refine ⟨⟨h.unique, h.trips, h.single, fun hauto => ?_⟩, fun client' id' hne hstart => ?_, ?_⟩
  · refine (if_neg fun hnone => ?_).trans (h.full hauto)
    exact autoReportBatchingSessionsCount_eq_zero.1 hnone.1 hauto
  · exact (h.started client' id' hstart).imp_right (stopping_erase hr hne)
  · intro hfull
    change (if _ then false else s.batchFull) = true at hfull
    split_ifs at hfull with hcond
    refine (h.needed hfull).elim .inl fun hstopping => ?_
    by_cases hauto : s.AutoReports
    · exact .inl hauto
    · refine .inr (autoStopping_erase hr ?_ hstopping)
      by_contra hflp
      exact hcond ⟨autoReportBatchingSessionsCount_eq_zero.2 hauto, hflp⟩

/-- The session is saved again with the options of the command. -/
theorem Invariant.restored (h : s.Invariant)
    (hr : r = .stopBatching client id flpOptions restartNeeded options) (hunused : s.Unused id)
    (hmode : options.batchingMode ≠ .TRIP)
    (hfull : if options.batchingMode ≠ .NO_AUTO_REPORT then s.batchFull = true
      else flpOptions.batchingMode ≠ .NO_AUTO_REPORT → s.batchFull = true → s.AutoReports) :
    ((s.take r).saveBatchingSession client id options).Invariant := by
  have hcore : (s.take r).Core := ⟨h.unique, h.trips, h.single, h.full⟩
  refine hcore.invariant_enter hunused (fun htrip => absurd htrip hmode)
    (fun client' id' hstart => ?_) (fun hno hbatch => ?_)
    ⟨rfl, fun id' => (or_iff_right fun htrip => hmode htrip.1).symm, ?_, rfl, sameStops_of_eq rfl⟩
  · by_cases hkey : (⟨client', id'⟩ : LocationSessionKey) = ⟨client, id⟩
    · cases hkey
      exact .inl ⟨rfl, rfl⟩
    · exact .inr ((h.started client' id' hstart).imp_right (stopping_erase hr hkey))
  · rw [if_neg (not_not.2 hno)] at hfull
    by_cases hflp : flpOptions.batchingMode = .NO_AUTO_REPORT
    · exact (h.needed hbatch).imp_right (autoStopping_erase hr hflp)
    · exact .inl (hfull hflp hbatch)
  · refine (or_iff_left_of_imp fun hauto => ?_).symm
    rw [if_pos hauto.1] at hfull
    exact hfull

theorem Invariant.onStopBatching (h : s.Invariant)
    (hr : r = .stopBatching client id flpOptions restartNeeded options)
    (hkeeps : s.StopKeeps id flpOptions restartNeeded options err) :
    ((s.take r).onStopBatching client id flpOptions restartNeeded options err).Invariant := by
  unfold BatchingAdapter.onStopBatching
  unfold StopKeeps at hkeeps
  dsimp only
  by_cases herr : err = .SUCCESS
  · subst herr
    rw [if_pos rfl] at hkeeps
    rw [if_neg (not_not.2 rfl), ite_setBatchFull]
    have hbut := h.stopped hr
    by_cases hrestart : restartNeeded = true
    · rw [if_pos hrestart]
      rcases startSession_cases _ client id options with ⟨-, heq⟩ | ⟨hsize, he⟩
      · rw [heq]
        exact (hbut.congr (sameSessions_joinTrip _ client id options)).reportStop
      · refine (hbut.toCore.invariant_enter (hkeeps hrestart) hsize (fun client' id' hstart => ?_)
          (fun _ => hbut.needed) he).reportStop
        by_cases hkey : (⟨client', id'⟩ : LocationSessionKey) = ⟨client, id⟩
        · cases hkey
          exact .inl ⟨rfl, rfl⟩
        · exact .inr (hbut.started client' id' hkey hstart)
    · rw [if_neg hrestart]
      exact hbut.reportStop
  · rw [if_neg herr] at hkeeps
    rw [if_pos herr]
    obtain ⟨hunused, hmode, hfull⟩ := hkeeps
    exact (h.restored hr hunused hmode hfull).reportStop

/-- The last trip is stopped, and its session is started again. -/
theorem stopTripBatchingMultiplexCommon_last (hempty : (s.mTripSessions.erase id).size = 0) :
    s.stopTripBatchingMultiplexCommon err client id true options =
      (((((s.dropTrip (s.tripStatus id)).setTripSessions (s.mTripSessions.erase id)).setOngoing 0
        0).eraseBatchingSession client id).startSession client id options).reportStop client id
          err := by
  have hsize : ((s.dropTrip (s.tripStatus id)).setTripSessions
      ((s.dropTrip (s.tripStatus id)).mTripSessions.erase id)).mTripSessions.size = 0 := hempty
  unfold stopTripBatchingMultiplexCommon
  dsimp only
  rw [if_pos hsize, if_pos rfl]
  rfl

/-- The only trip is counted twice. -/
theorem Core.autoReportBatchingSessionsCount_ne_one (h : s.Core) {options' : BatchingOptions}
    (hfind : s.mBatchingSessions.find ⟨client, id⟩ = some options')
    (htrip : options'.batchingMode = .TRIP) : s.autoReportBatchingSessionsCount ≠ 1 := by
  have hsize := h.size_mTripSessions ((h.trips id).2 ⟨client, options', hfind, htrip⟩)
  have hpos : 0 < s.mBatchingSessions.entries.countP
      (fun e => decide (e.2.batchingMode ≠ .NO_AUTO_REPORT)) := by
    rw [List.countP_pos_iff]
    refine ⟨(⟨client, id⟩, options'), OrdMap.find_eq_some.1 hfind, ?_⟩
    rw [decide_eq_true_eq, htrip]
    nofun
  rw [autoReportBatchingSessionsCount, hsize]
  omega

/-- No trip is left without the only one. -/
theorem Core.size_erase_mTripSessions (h : s.Core) (hid : (s.mTripSessions.find id).isSome = true) :
    (s.mTripSessions.erase id).size = 0 := by
  rw [OrdMap.size_eq_zero]
  intro id'
  rw [OrdMap.find_erase]
  split_ifs with hne
  · rfl
  · by_contra hsome
    exact hne (h.single _ _ (Option.isSome_iff_ne_none.2 hsome) hid)

/-- The only trip is stopped, and its session is started again. -/
theorem Invariant.onStopTrip (h : s.Invariant)
    (hkeeps : s.StopTripKeeps client id restartNeeded options) :
    (s.onStopTrip client id restartNeeded options err).Invariant := by
  obtain ⟨hrestart, ⟨options', hfind, htrip⟩, hauto⟩ := hkeeps
  have hid : (s.mTripSessions.find id).isSome = true := (h.trips id).2 ⟨client, options', hfind, htrip⟩
  have hcount := h.autoReportBatchingSessionsCount_ne_one hfind htrip
  have hempty := h.size_erase_mTripSessions hid
  have honly : ∀ client', s.isBatchingSession client' id = true → client' = client :=
    fun client' hknown => h.unique _ _ id hknown (isBatchingSession_iff.2 ⟨_, hfind⟩)
  obtain rfl := hrestart
  unfold BatchingAdapter.onStopTrip
  rw [if_neg fun hone => hcount hone.2, stopTripBatchingMultiplexCommon_last hempty]
  generalize hs₁ : eraseBatchingSession _ client id = s₁
  have hsame : SameSessions
      ((s.eraseBatchingSession client id).setTripSessions (s.mTripSessions.erase id)) s₁ := by
    rw [← hs₁]
    exact ⟨rfl, fun _ => rfl, rfl, rfl, sameStops_of_eq rfl⟩
  have hcore : s₁.Core := (h.toCore.eraseTrip honly).congr hsame
  have htrips : s₁.mTripSessions = s.mTripSessions.erase id := by rw [← hs₁]; rfl
  have hfind₁ : ∀ {key options}, s₁.mBatchingSessions.find key = some options ↔
      key ≠ ⟨client, id⟩ ∧ s.mBatchingSessions.find key = some options := by
    rw [hsame.sessions]
    exact find_eraseBatchingSession
  have hstops : SameStops s s₁ := hsame.stops
  have hunused : s₁.Unused id := by
    refine ⟨fun client' => ?_, ?_⟩
    · by_contra hsome
      obtain ⟨options₁, hoptions₁⟩ := Option.ne_none_iff_exists'.1 hsome
      obtain ⟨hne, hknown⟩ := hfind₁.1 hoptions₁
      obtain rfl := honly client' (isBatchingSession_iff.2 ⟨_, hknown⟩)
      exact hne rfl
    · rw [htrips, OrdMap.find_erase, if_pos rfl]
  refine Invariant.reportStop ?_
  rcases startSession_cases s₁ client id options with ⟨hne, -⟩ | ⟨hsize₁, he⟩
  · rw [htrips] at hne
    exact absurd hempty hne
  · refine hcore.invariant_enter hunused hsize₁ (fun client' id' hstart => ?_) (fun hno _ => ?_) he
    · rw [hsame.started] at hstart
      by_cases hkey : (⟨client', id'⟩ : LocationSessionKey) = ⟨client, id⟩
      · cases hkey
        exact .inl ⟨rfl, rfl⟩
      · refine .inr ((h.started client' id' hstart).imp (fun hknown => ?_) hstops.stopping.2)
        obtain ⟨options₁, hoptions₁⟩ := isBatchingSession_iff.1 hknown
        exact isBatchingSession_iff.2 ⟨options₁, hfind₁.2 ⟨hkey, hoptions₁⟩⟩
    · rcases hauto hno with hstopping | ⟨key, options₁, hne, hoptions₁, hmode⟩
      · exact .inr (hstops.autoStopping.2 hstopping)
      · exact .inl (.inl ⟨key, options₁, hfind₁.2 ⟨hne, hoptions₁⟩, hmode⟩)

end Stopped

end But

/-! ### Messages and callbacks -/

section Steps

variable {client id : ℕ} {options : BatchingOptions} {err : LocationError} {r : BatchingRequest}

theorem SameSessions.startKeeps {s' : BatchingAdapter} (hs : SameSessions s s') :
    s'.StartKeeps client id options err ↔ s.StartKeeps client id options err := by
  simp only [StartKeeps, isBatchingSession, hs.sessions, hs.stops.stopping]

theorem SameSessions.startTripKeeps {s' : BatchingAdapter} (hs : SameSessions s s') :
    s'.StartTripKeeps client id err ↔ s.StartTripKeeps client id err := by
  simp only [StartTripKeeps, isBatchingSession, hs.sessions, hs.stops.stopping]

theorem SameSessions.stopTripKeeps {s' : BatchingAdapter} (hs : SameSessions s s')
    {restartNeeded : Bool} :
    s'.StopTripKeeps client id restartNeeded options ↔
      s.StopTripKeeps client id restartNeeded options := by
  simp only [StopTripKeeps, hs.sessions, hs.stops.autoStopping]

theorem sameSessions_onQueryTrips (queryAccumulatedDistance : Bool)
    (minRemainingDistance minTBFInterval accDist accumulatedDistance : ℕ) :
    SameSessions s (s.onQueryTrips queryAccumulatedDistance minRemainingDistance minTBFInterval
      accDist accumulatedDistance) := by
  unfold onQueryTrips
  dsimp only
  generalize hs₁ : s.noteWrap _ = s₁
  have hs : SameSessions s s₁ := by
    rw [← hs₁]
    exact ⟨rfl, fun _ => rfl, rfl, rfl, sameStops_of_eq rfl⟩
  refine SameSessions.ite (hs.trans ?_) hs
  exact sameSessions_request trivial

theorem sameSessions_onRestartTrips (accumulatedDistance ongoingTripDistance ongoingTripInterval : ℕ)
    (err : LocationError) :
    SameSessions s (s.onRestartTrips accumulatedDistance ongoingTripDistance ongoingTripInterval
      err) := by
  unfold onRestartTrips
  dsimp only
  split_ifs
  · have hnote : SameSessions s (s.noteWrap (s.distanceWraps accumulatedDistance)) :=
      ⟨rfl, fun _ => rfl, rfl, rfl, sameStops_of_eq rfl⟩
    refine (hnote.trans (sameSessions_mapValues fun st =>
      (st.report accumulatedDistance).rebase)).trans ?_
    exact ⟨rfl, fun _ => rfl, rfl, rfl, sameStops_of_eq rfl⟩
  · exact .refl s

theorem Invariant.onAnswer (h : s.Invariant) (hkeeps : s.AnswerKeeps err r) (distance : ℕ) :
    ((s.take r).onAnswer r err distance).Invariant := by
  cases r with
  | stopBatching client id flpOptions restartNeeded options => exact h.onStopBatching rfl hkeeps
  | startBatching client id options =>
    have hs := sameSessions_take (s := s) (r := .startBatching client id options) trivial
    exact (h.congr hs).onStartBatching (hs.startKeeps.2 hkeeps)
  | startTrip client id options =>
    have hs := sameSessions_take (s := s) (r := .startTrip client id options) trivial
    exact (h.congr hs).onStartTrip (hs.startTripKeeps.2 hkeeps)
  | joinTrip client id options =>
    have hs := sameSessions_take (s := s) (r := .joinTrip client id options) trivial
    exact (h.congr hs).onJoinTrip hkeeps.1 hkeeps.2 distance
  | joinRestart client id =>
    have hs := sameSessions_take (s := s) (r := .joinRestart client id) trivial
    exact (h.congr hs).reportStart fun herr => absurd herr hkeeps
  | stopTrip client id restartNeeded options =>
    have hs := sameSessions_take (s := s) (r := .stopTrip client id restartNeeded options) trivial
    exact (h.congr hs).onStopTrip (hs.stopTripKeeps.2 hkeeps)
  | queryTrips =>
    refine (h.congr (sameSessions_take ?_)).congr (sameSessions_onQueryTrips ..)
    trivial
  | restartTrips =>
    refine (h.congr (sameSessions_take ?_)).congr (sameSessions_onRestartTrips ..)
    trivial
  | restartSessions =>
    refine (h.congr (sameSessions_take (r := .restartSessions) trivial)).congr ?_
    unfold BatchingAdapter.onAnswer onRestartSessions
    dsimp only
    split_ifs
    · exact ⟨rfl, fun _ => rfl, rfl, rfl, sameStops_of_eq rfl⟩
    · exact .refl _

/-- Without a trip that is completed a report changes only counters. -/
theorem sameSessions_report {distance : ℕ} {memory : ℕ → TripSessionStatus}
    (hkeeps : s.Keeps (.reportCompletedTrips distance memory)) :
    SameSessions s (s.procReportCompletedTrips distance memory) := by
  have hreport : ∀ id st, s.mTripSessions.find id = some st →
      reportTrip distance st = some (st.report distance) :=
    fun id st hst => if_neg (Nat.not_le.2 (hkeeps id st hst))
  have hnone : s.completedTripsList distance = [] := by
    rw [completedTripsList, List.filterMap_eq_nil_iff]
    intro e he
    rw [hreport e.1 e.2 (OrdMap.find_eq_some.2 he)]
    rfl
  unfold procReportCompletedTrips
  rw [hnone]
  refine ⟨rfl, fun id => ?_, rfl, rfl, sameStops_of_eq rfl⟩
  show ((s.mTripSessions.filterMap fun _ st => reportTrip distance st).find id).isSome = _
  rw [OrdMap.find_filterMap]
  cases hst : s.mTripSessions.find id with
  | none => rfl
  | some st =>
    rw [Option.bind_some, hreport id st hst]
    rfl

theorem Invariant.procStartBatching (h : s.Invariant) (hunused : s.Unused id) :
    (s.procStartBatching client id options).Invariant := by
  unfold BatchingAdapter.procStartBatching
  split_ifs
  · exact h
  · exact h
  · exact h
  · exact h.startSession hunused

/-- A session whose id is not that of a trip is not in trip mode. -/
theorem Core.mode_of_not_isTripSession (h : s.Core) (hid : ¬ s.isTripSession id = true)
    (options' : BatchingOptions) (hfind : s.mBatchingSessions.find ⟨client, id⟩ = some options') :
    options'.batchingMode ≠ .TRIP :=
  fun hmode => hid ((h.trips id).2 ⟨client, options', hfind, hmode⟩)

theorem Invariant.procUpdateBatching (h : s.Invariant) :
    (s.procUpdateBatching client id options).Invariant := by
  unfold BatchingAdapter.procUpdateBatching
  split_ifs with hknown hsize htrip
  · exact h
  · exact h
  · refine h.stopBatching true fun options' hfind => ?_
    exact h.mode_of_not_isTripSession (by rw [htrip]; nofun) options' hfind
  · have hid : s.isTripSession id = true := by simpa using htrip
    exact h.stopTripBatchingMultiplex hid true

theorem Invariant.procStopBatching (h : s.Invariant) :
    (s.procStopBatching client id).Invariant := by
  unfold BatchingAdapter.procStopBatching
  split_ifs with hknown htrip
  · exact h
  · exact h.stopTripBatchingMultiplex htrip false
  · exact h.stopBatching false fun options' hfind => h.mode_of_not_isTripSession htrip options' hfind

/-- The sessions of a client are stopped one by one: those that are left keep their options, and
the trips wait for the engine. -/
theorem Invariant.stopClientSessions (h : s.Invariant) (client : ℕ) :
    (s.stopClientSessions client).Invariant := by
  suffices key : ∀ (l : List (LocationSessionKey × BatchingOptions)) (s' : BatchingAdapter),
      (∀ e ∈ l, s.mBatchingSessions.find e.1 = some e.2) → s'.Invariant →
      s'.mTripSessions = s.mTripSessions →
      (∀ key options, s'.mBatchingSessions.find key = some options →
        s.mBatchingSessions.find key = some options) →
      (l.foldl (fun s e => s.stopSession e.1 e.2.batchingMode) s').Invariant from
    key _ s (fun e he => OrdMap.find_eq_some.2 (List.mem_of_mem_filter he)) h rfl fun _ _ h => h
  intro l
  induction l with
  | nil => exact fun _ _ h' _ _ => h'
  | cons e l ih =>
    intro s' hl h' htrips hsub
    have he := hl e List.mem_cons_self
    rw [List.foldl_cons]
    unfold stopSession
    split_ifs with hmode
    · refine ih _ (fun e' he' => hl e' (List.mem_cons_of_mem e he')) ?_ ?_ ?_
      · refine h'.stopBatching false fun options' hfind => ?_
        obtain rfl := Option.some.inj (he.symm.trans (hsub _ _ hfind))
        exact hmode
      · unfold BatchingAdapter.stopBatching
        split
        · exact htrips
        · exact htrips
      · intro key options' hfind
        refine hsub key options' ?_
        unfold BatchingAdapter.stopBatching at hfind
        split at hfind
        · exact (find_eraseBatchingSession.1 hfind).2
        · exact hfind
    · have hid : (s'.mTripSessions.find e.1.id).isSome = true := by
        rw [htrips, h.trips]
        exact ⟨e.1.client, e.2, he, not_not.1 hmode⟩
      have hreq : s'.stopTripBatchingMultiplex e.1.client e.1.id false defaultOptions =
          s'.request (.stopTrip e.1.client e.1.id false defaultOptions) :=
        if_pos (h'.size_mTripSessions hid)
      refine ih _ (fun e' he' => hl e' (List.mem_cons_of_mem e he')) ?_ ?_ ?_
      · exact h'.stopTripBatchingMultiplex hid false
      · rw [hreq]
        exact htrips
      · rw [hreq]
        exact hsub

theorem Invariant.eraseClient (h : s.Invariant) (client : ℕ) : (s.eraseClient client).Invariant := by
  refine Invariant.updateClientsEventMask ⟨⟨h.unique, h.trips, h.single, h.full⟩, ?_, h.needed⟩
  intro client' id' hstart
  exact h.started client' id' (Bool.and_eq_true_iff.1 hstart).2

/-- An event that meets its condition keeps the invariant. -/
theorem Invariant.step {s s' : BatchingAdapter} {e : BatchingEvent} (h : s.Invariant)
    (hk : s.Keeps e) (hst : s.step e = some s') : s'.Invariant := by
  cases e with
  | addClient client batchingCb =>
    obtain rfl := Option.some.inj hst
    exact Invariant.updateClientsEventMask
      ⟨⟨h.unique, h.trips, h.single, h.full⟩, h.started, h.needed⟩
  | removeClient client =>
    obtain rfl := Option.some.inj hst
    exact (h.stopClientSessions client).eraseClient client
  | startBatching client id options =>
    obtain rfl := Option.some.inj hst
    exact h.procStartBatching hk
  | updateBatchingOptions client id options =>
    obtain rfl := Option.some.inj hst
    exact h.procUpdateBatching
  | stopBatching client id =>
    obtain rfl := Option.some.inj hst
    exact h.procStopBatching
  | reportCompletedTrips distance memory =>
    obtain rfl := Option.some.inj hst
    exact h.congr (sameSessions_report hk)
  | engineUp supported =>
    obtain rfl := Option.some.inj hst
    have h' : Invariant { s with distanceBatchingSupported := supported } :=
      ⟨⟨h.unique, h.trips, h.single, h.full⟩, h.started, h.needed⟩
    exact h'.congr (sameSessions_restartSessions h'.full)
  | answer r err distance =>
    simp only [BatchingAdapter.step, Option.ite_none_right_eq_some, Option.some.injEq] at hst
    obtain ⟨-, rfl⟩ := hst
    exact h.onAnswer hk distance

end Steps

/-! ### Runs -/

/-- Without requests under way the invariant says what is expected. -/
theorem Invariant.bookkept (h : s.Invariant) (hquiet : s.outstanding = []) : s.Bookkept := by
  refine ⟨h.trips, fun client id hstart => ?_, fun hfull => ?_, h.full⟩
  · rcases h.started client id hstart with hknown | ⟨_, _, _, hmem⟩
    · obtain ⟨options, hfind⟩ := isBatchingSession_iff.1 hknown
      unfold Stoppable BatchingAdapter.procStopBatching
      rw [if_neg (by rw [hknown]; nofun)]
      split_ifs with htrip
      · rw [BatchingAdapter.stopTripBatchingMultiplex, if_pos (h.size_mTripSessions htrip)]
        exact ⟨_, rfl⟩
      · rw [BatchingAdapter.stopBatching, hfind]
        exact ⟨_, rfl⟩
    · rw [hquiet] at hmem
      cases hmem
  · refine (h.needed hfull).resolve_right ?_
    rintro ⟨_, _, _, _, _, hmem, -⟩
    rw [hquiet] at hmem
    cases hmem

/-- **Batching sessions.**  After a run whose events meet their condition, whenever no answer of the
engine is outstanding, the trips are the sessions in trip mode, every session that has been started
can be stopped, and the adapter is registered for the batch full event exactly if a session reports
by itself. -/
theorem sessions_bookkept {s : BatchingAdapter} {es : List BatchingEvent}
    (h : system.Run Keeps es s) (hquiet : s.outstanding = []) : s.Bookkept := by
  have hinv : s.Invariant :=
    h.invariant (I := Invariant) invariant_init fun _ _ _ h hk hst => h.step hk hst
  exact hinv.bookkept hquiet

/-- Options of a session. -/
def optionsOf (batchingMode : BatchingMode) : BatchingOptions :=
  ⟨24, 1000, 500, .STANDALONE, 0, batchingMode⟩

/-- A client starts a trip. -/
theorem sessions_bookkept_trip :
    ∃ s, system.Run Keeps
        [.engineUp true, .addClient 1 true, .startBatching 1 5 (optionsOf .TRIP),
          .answer (.startTrip 1 5 (optionsOf .TRIP)) .SUCCESS 0] s ∧
      s.Bookkept := by
  have h₁ : system.Run Keeps [.engineUp true] _ := .snoc .nil trivial rfl
  have h₂ := h₁.snoc (e := BatchingEvent.addClient 1 true) trivial rfl
  have h₃ := h₂.snoc (e := BatchingEvent.startBatching 1 5 (optionsOf .TRIP))
    ⟨fun _ => rfl, rfl⟩ rfl
  have h₄ := h₃.snoc (e := BatchingEvent.answer (.startTrip 1 5 (optionsOf .TRIP)) .SUCCESS 0)
    (.inl rfl) rfl
  exact ⟨_, h₄, sessions_bookkept h₄ rfl⟩

/-- A trip that has been stopped is still a session in trip mode. -/
theorem stopped_trip_kept :
    ∃ s, system.Run System.Free
        [.engineUp true, .addClient 1 true, .startBatching 1 5 (optionsOf .TRIP),
          .answer (.startTrip 1 5 (optionsOf .TRIP)) .SUCCESS 0, .stopBatching 1 5,
          .answer (.stopTrip 1 5 false defaultOptions) .SUCCESS 0] s ∧
      s.outstanding = [] ∧ ¬ s.Bookkept := by
  refine ⟨_, System.run_foldlM rfl, rfl, fun h => ?_⟩
  have htrips := (h.trips 5).2 ⟨1, optionsOf .TRIP, rfl, rfl⟩
  cases htrips

end BatchingAdapter

end GpsHal
