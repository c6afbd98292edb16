import GpsHal.Batching.Reports

/-!
# `BatchingAdapter` : every batching command is answered once

A command owes its client one report.  The message of the command passes the debt on to a request, or
reports right away; the callback of the request passes it on to another one, or reports.  What a
message or a callback does for its command is `BatchingAdapter.Carries`; the sessions that later
callbacks will find are in `Sound`.

## Main definitions

* `BatchingAdapter.Carries` : the requests and the reports of a message or of a callback.
* `BatchingLedger.Balanced` : every command has one request under way, or one report.

## Main results

* `BatchingLedger.batching_answered` : every command is answered once its requests are.
* `BatchingLedger.run_adapter`, `BatchingLedger.exists_run` : the ledger is the adapter, with a record.
-/

namespace GpsHal

namespace BatchingAdapter

/-- A message or a callback for `cmd` sends `news` and reports `responses`.  If there is a command, as
many of these stand for its answer as `debt` says, and the reports are truthful. -/
structure Carries (s s' : BatchingAdapter) (calls : List BatchingCall)
    (last : ℕ → Option BatchingCommand) (cmd : Option BatchingCommand) (debt : ℕ)
    (news : List BatchingRequest) (responses : List BatchingResponse) : Prop where
  outstanding : s'.outstanding = s.outstanding ++ news
  sound : Sound s' (calls ++ news.map fun r => ⟨cmd, r⟩) last
  debt : cmd ≠ none → (news.countP fun r => r.session?.isSome) + responses.length = debt
  truthful : ∀ r ∈ responses, ∀ c ∈ cmd, r.client = c.client ∧ r.id = c.id ∧
    (r.err = .SUCCESS → c.Fulfilled s')

section

variable {s s' t : BatchingAdapter} {calls : List BatchingCall} {call : BatchingCall}
  {last : ℕ → Option BatchingCommand} {cmd : Option BatchingCommand} {c : BatchingCommand}
  {news : List BatchingRequest} {responses : List BatchingResponse} {client id debt : ℕ}
  {options : BatchingOptions} {err : LocationError}

theorem Carries.before (h : Carries t s' calls last cmd debt news responses)
    (ho : t.outstanding = s.outstanding) : Carries s s' calls last cmd debt news responses :=
  { h with outstanding := by rw [h.outstanding, ho] }

/-- Nothing is done for a command. -/
theorem Carries.mild (h : Sound s calls last) (hm : Mild s s' news) :
    Carries s s' calls last cmd 0 news [] where
  outstanding := hm.outstanding
  sound := (h.mild hm).quiet hm.quiet
  debt _ := by
    have hcount : (news.countP fun r => r.session?.isSome) = 0 := by
      refine List.countP_eq_zero.mpr fun r hr => ?_
      rw [hm.quiet r hr]
      exact Bool.false_ne_true
    rw [hcount]
    rfl
  truthful _ hr := absurd hr List.not_mem_nil

/-- The command is answered. -/
theorem Carries.report (h : Sound s calls last) (hm : Mild s s' news)
    (hclient : ∀ c ∈ cmd, client = c.client ∧ id = c.id)
    (hful : ∀ c ∈ cmd, err = .SUCCESS → c.Fulfilled s') :
    Carries s s' calls last cmd 1 news [⟨client, err, id⟩] where
  outstanding := hm.outstanding
  sound := (h.mild hm).quiet hm.quiet
  debt hcmd := by
    have hmild : Carries s s' calls last cmd 0 news [] := .mild h hm
    exact congrArg (· + 1) (hmild.debt hcmd)
  truthful r hr c hc := by
    obtain rfl := List.mem_singleton.mp hr
    exact ⟨(hclient c hc).1, (hclient c hc).2, hful c hc⟩

/-- The answer has to wait for a request. -/
theorem Carries.wait {r : BatchingRequest} (h : Sound s (⟨cmd, r⟩ :: calls) last)
    (hr : r.session?.isSome = true) : Carries s (s.request r) calls last cmd 1 [r] [] where
  outstanding := rfl
  sound := by
    have hsound : Sound (s.request r) (⟨cmd, r⟩ :: calls) last := h.shrink rfl fun _ _ hv => hv
    exact hsound.perm List.perm_append_comm
  debt _ := by
    show [r].countP (fun r => r.session?.isSome) + 0 = 1
    rw [List.countP_singleton, if_pos hr]
  truthful _ hr := absurd hr List.not_mem_nil

/-! ### Commands -/

theorem session_of_stopKey {r : BatchingRequest} {k : LocationSessionKey} (h : r.stopKey? = some k) :
    r.session? = some (k.client, k.id) := by
  cases r with
  | stopBatching client id => exact Option.some.inj h ▸ rfl
  | startBatching | startTrip | joinTrip | joinRestart | stopTrip => cases h
  | queryTrips | restartTrips | restartSessions => cases h

theorem session_of_startId {r : BatchingRequest} (h : r.startId? = some id) :
    ∃ client, r.session? = some (client, id) := by
  cases r with
  | startBatching client | startTrip client | joinTrip client | joinRestart client =>
    exact ⟨client, Option.some.inj h ▸ rfl⟩
  | stopBatching | stopTrip | queryTrips | restartTrips | restartSessions => cases h

theorem not_mem_startIds (hnew : ∀ call ∈ calls, ∀ session ∈ call.request.session?, session.2 ≠ id) :
    id ∉ startIds calls := by
  intro hmem
  obtain ⟨call, hcall, hid⟩ := List.mem_filterMap.mp hmem
  obtain ⟨client, hsession⟩ := session_of_startId hid
  exact hnew call hcall _ hsession rfl

theorem not_mem_stopKeys {k : LocationSessionKey}
    (hnew : ∀ call ∈ calls, ∀ session ∈ call.request.session?, session.2 ≠ k.id) :
    k ∉ stopKeys calls := by
  intro hmem
  obtain ⟨call, hcall, hk⟩ := List.mem_filterMap.mp hmem
  exact hnew call hcall _ (session_of_stopKey hk) rfl

/-- A session with an id that is not in use is started. -/
theorem carries_startSession (h : Sound s calls last) (hkind : c.kind = .start options)
    (hfind : ∀ k : LocationSessionKey, k.id = c.id → s.mBatchingSessions.find k = none)
    (htrip : s.trip c.id = none)
    (hnew : ∀ call ∈ calls, ∀ session ∈ call.request.session?, session.2 ≠ c.id) :
    ∃ news, Carries s (s.startSession c.client c.id options) calls last (some c) 1 news [] := by
  have hsave {s : BatchingAdapter} (h : Sound s calls last) :
      Sound (s.saveBatchingSession c.client c.id options) calls last := by
    refine h.save (not_mem_stopKeys hnew) (fun call hcall client' options' hr => ?_)
      fun call hcall options' hr => ?_
    · exact absurd rfl (hnew call hcall (client', c.id) (by rw [hr]; rfl))
    · exact absurd rfl (hnew call hcall (c.client, c.id) (by rw [hr]; rfl))
  have hstart (r : BatchingRequest) (hr : r.startId? = some c.id) :
      ∀ id ∈ r.startId?, id ∉ startIds calls := by
    rintro id hid
    obtain rfl := Option.some.inj (hr.symm.trans hid)
    exact not_mem_startIds hnew
  have hsession (hmode : options.batchingMode ≠ .TRIP) :
      ∃ news, Carries s (s.startBatching c.client c.id options) calls last (some c) 1 news [] := by
    unfold startBatching
    simp only
    rw [ite_setBatchFull]
    refine ⟨_, (Carries.wait ?_ rfl).before rfl⟩
    refine (hsave (h.mild mild_setBatchFull)).cons ⟨c, rfl, rfl, rfl, hkind, hmode⟩
      (fun _ hk => by cases hk) (hstart _ rfl) (fun _ _ _ hr => by cases hr)
      (fun _ hid => by cases hid) fun client id options' hr _ => ?_
    cases hr
    exact OrdMap.find_insert.trans (if_pos rfl)
  have htripMode (hmode : options.batchingMode = .TRIP) : ∃ news, Carries s
      (s.startTripBatchingMultiplex c.client c.id options) calls last (some c) 1 news [] := by
    unfold startTripBatchingMultiplex
    split
    · simp only
      rw [ite_setBatchFull]
      refine ⟨_, (Carries.wait ?_ rfl).before rfl⟩
      have hinsert := @Sound.insertTrip _ calls last c.id (hsave (h.mild (mild_setBatchFull (b :=
        if s.autoReportBatchingSessionsCount = 0 then true else s.batchFull))))
          ⟨0, 0, 0, options.minDistance, options.minInterval⟩
          (fun call hcall _ k hk => hnew call hcall _ (session_of_stopKey hk)) (not_mem_startIds hnew)
      refine hinsert.cons ⟨c, rfl, rfl, rfl, hkind, hmode⟩ (fun _ hk => by cases hk) (hstart _ rfl)
        (fun _ _ _ hr => by cases hr) (fun id hid c' options' hc' hkind' v hv => ?_)
        fun _ _ _ hr => by cases hr
      obtain rfl := Option.some.inj hid
      obtain rfl := Option.some.inj hc'
      obtain rfl : options = options' := by
        rw [hkind] at hkind'
        exact BatchingCommandKind.start.inj hkind'
      have hins : (s.mTripSessions.insert c.id ⟨0, 0, 0, options.minDistance,
          options.minInterval⟩).find c.id = some ⟨0, 0, 0, options.minDistance,
          options.minInterval⟩ := OrdMap.find_insert.trans (if_pos rfl)
      change ((s.mTripSessions.insert c.id _).find c.id).map _ = some v at hv
      rw [hins] at hv
      exact (Option.some.inj hv).symm
    · refine ⟨_, Carries.wait (h.cons ⟨c, rfl, rfl, rfl, hkind, hmode⟩ (fun _ hk => by cases hk)
        (hstart _ rfl) (fun client id options' hr k hk => ?_) (fun id hid _ _ _ _ v hv => ?_)
        fun _ _ _ hr => by cases hr) rfl⟩
      · cases hr
        exact ⟨hfind k hk, not_mem_stopKeys (hk ▸ hnew)⟩
      · obtain rfl := Option.some.inj hid
        rw [htrip] at hv
        cases hv
  unfold startSession
  cases hmode : options.batchingMode with
  | ROUTINE => exact hsession (by rw [hmode]; exact fun h => by cases h)
  | NO_AUTO_REPORT => exact hsession (by rw [hmode]; exact fun h => by cases h)
  | TRIP => exact htripMode hmode

/-- A saved session is stopped; the start of it has been overtaken. -/
theorem carries_stopBatching (h : Sound s calls last) {restartNeeded : Bool}
    (hsaved : s.isBatchingSession client id = true)
    (hok : ∀ flpOptions, (⟨cmd, .stopBatching client id flpOptions restartNeeded options⟩ :
      BatchingCall).Ok)
    (htrip : cmd ≠ none → s.trip id = none)
    (hlast : ∀ call ∈ calls, ∀ options', call.request = .startBatching client id options' →
      last id ≠ call.cmd) :
    ∃ news, Carries s (s.stopBatching client id restartNeeded options) calls last cmd 1 news [] := by
  obtain ⟨flpOptions, hfind⟩ := Option.isSome_iff_exists.mp hsaved
  unfold stopBatching
  rw [hfind]
  refine ⟨_, (Carries.wait ?_ rfl).before rfl⟩
  refine (h.erase hlast).cons (hok flpOptions) (fun k hk => ?_) (fun _ hid => by cases hid)
    (fun _ _ _ hr => by cases hr) (fun _ hid => by cases hid) fun _ _ _ hr => by cases hr
  obtain rfl := Option.some.inj hk
  refine ⟨fun hmem => ?_, OrdMap.find_erase.trans (if_pos rfl), htrip,
    fun call hcall client' options' hr => ?_⟩
  · rw [h.erased _ hmem] at hfind
    cases hfind
  · rw [(h.joining call hcall client' id options' hr ⟨client, id⟩ rfl).1] at hfind
    cases hfind

/-- A trip is stopped, and not started again. -/
theorem carries_stopTrip (h : Sound s calls last) (hsize : s.mTripSessions.size = 1)
    (hok : (⟨cmd, .stopTrip client id false options⟩ : BatchingCall).Ok) :
    ∃ news, Carries s (s.stopTripBatchingMultiplex client id false options) calls last cmd 1 news
      [] := by
  unfold stopTripBatchingMultiplex
  rw [if_pos hsize]
  exact ⟨_, Carries.wait (h.inert hok rfl rfl) rfl⟩

/-- The trip that a request joins or starts is not there if its id is not in use. -/
theorem trip_eq_none : s.trip id = none ↔ s.isTripSession id = false := by
  unfold trip isTripSession
  rw [Option.map_eq_none_iff, Option.isSome_eq_false_iff, Option.isNone_iff_eq_none]

/-! ### Answers -/

/-- The callback of the start of a session. -/
theorem carries_onStartBatching
    (h : Sound s (⟨cmd, .startBatching client id options⟩ :: calls) last)
    (hg : cmd ≠ none → err = .SUCCESS → last id = cmd) :
    Carries s (s.onStartBatching client id options err) calls last cmd 1 []
      [⟨client, err, id⟩] := by
  obtain ⟨c, hcmd, rfl, rfl, hkind, hmode⟩ := h.ok _ List.mem_cons_self
  obtain rfl : cmd = some c := hcmd
  have howner : ∀ c' ∈ some c, c.client = c'.client ∧ c.id = c'.id := by
    intro c' hc'
    obtain rfl := Option.some.inj hc'
    exact ⟨rfl, rfl⟩
  unfold onStartBatching
  by_cases herr : err = .SUCCESS
  · simp only [herr, ne_eq, not_true_eq_false, if_false, false_and]
    refine Carries.report h.tail mild_reportStart howner fun c' hc' _ => ?_
    obtain rfl := Option.some.inj hc'
    unfold BatchingCommand.Fulfilled
    rw [hkind]
    unfold Running
    simp only
    rw [if_neg hmode]
    exact h.saved _ List.mem_cons_self c.client c.id options rfl (hg (Option.some_ne_none c) herr)
  · simp only [herr, ne_eq, not_false_eq_true, if_true, true_and]
    rw [ite_setBatchFull]
    have hstarts := h.starts
    rw [startIds_cons] at hstarts
    have herase : Sound (s.eraseBatchingSession c.client c.id) calls last := by
      refine h.tail.erase fun call hcall options' hr _ => ?_
      exact (List.nodup_cons.mp hstarts).1 (List.mem_filterMap.mpr ⟨call, hcall, by rw [hr]; rfl⟩)
    exact (Carries.report herase (mild_setBatchFull.trans mild_reportStart) howner
      fun _ _ h => absurd h herr).before rfl

/-- The callback of the stop of a session. -/
theorem carries_onStopBatching {flpOptions : BatchingOptions} {restartNeeded : Bool}
    (h : Sound s (⟨cmd, .stopBatching client id flpOptions restartNeeded options⟩ :: calls) last)
    (hg : cmd ≠ none → restartNeeded = true → err ≠ .SUCCESS) :
    Carries s (s.onStopBatching client id flpOptions restartNeeded options err) calls last cmd 1 []
      [⟨client, err, id⟩] := by
  obtain ⟨hnone, hsome⟩ := h.ok _ List.mem_cons_self
  have howner : ∀ c ∈ cmd, client = c.client ∧ id = c.id := fun c hc =>
    ⟨(hsome c hc).1.symm, (hsome c hc).2.1.symm⟩
  have hmem : (⟨client, id⟩ : LocationSessionKey) ∈
      stopKeys (⟨cmd, .stopBatching client id flpOptions restartNeeded options⟩ :: calls) := by
    rw [stopKeys_cons]
    exact List.mem_cons_self
  unfold onStopBatching
  by_cases herr : err = .SUCCESS
  · have hrestart : restartNeeded = false := by
      cases hcmd : cmd with
      | none => exact hnone hcmd
      | some c =>
        refine Bool.eq_false_iff.mpr fun htrue => hg ?_ htrue herr
        rw [hcmd]
        exact Option.some_ne_none c
    subst hrestart
    simp only [herr, ne_eq, not_true_eq_false, if_false, Bool.false_eq_true]
    rw [ite_setBatchFull]
    have hreport {s : BatchingAdapter} : Mild s (s.reportStop client id .SUCCESS) [] :=
      mild_of_eq rfl rfl rfl
    refine Carries.report h.tail (mild_setBatchFull.trans hreport) howner fun c hc _ => ?_
    unfold BatchingCommand.Fulfilled
    rw [(hsome c hc).2.2, if_neg Bool.false_ne_true, ← (howner c hc).1, ← (howner c hc).2]
    have hcmd : cmd ≠ none := by
      rw [Option.mem_def.mp hc]
      exact Option.some_ne_none c
    exact ⟨h.erased _ hmem, h.stopped _ List.mem_cons_self hcmd ⟨client, id⟩ rfl⟩
  · simp only [herr, ne_eq, not_false_eq_true, if_true]
    have hstops := h.stops
    rw [stopKeys_cons] at hstops
    have hreport {s : BatchingAdapter} : Mild s (s.reportStop client id err) [] :=
      mild_ite (mild_of_eq rfl rfl rfl) .refl
    have hsave : Sound (s.saveBatchingSession client id options) calls last := by
      refine h.tail.save (List.nodup_cons.mp hstops).1 (fun call hcall client' options' hr => ?_)
        fun call hcall options' hr hlast => ?_
      · exact (h.joining call (List.mem_cons_of_mem _ hcall) client' id options' hr ⟨client, id⟩
          rfl).2 hmem
      · have hsaved := h.saved call (List.mem_cons_of_mem _ hcall) client id options' hr hlast
        rw [h.erased _ hmem] at hsaved
        cases hsaved
    exact (Carries.report hsave hreport howner fun _ _ h => absurd h herr).before rfl

/-- A trip that is there, and for which the command is, runs as it is to run. -/
theorem fulfilled_trip (h : Sound s (call :: calls) last) (hcmd : call.cmd = some c)
    (hkind : c.kind = .start options) (hmode : options.batchingMode = .TRIP)
    (hid : call.request.tripId? = some c.id) (htrip : s.isTripSession c.id = true) :
    c.Fulfilled s := by
  obtain ⟨v, hv⟩ : ∃ v, s.trip c.id = some v := by
    obtain ⟨st, hst⟩ := Option.isSome_iff_exists.mp htrip
    exact ⟨_, congrArg (Option.map _) hst⟩
  unfold BatchingCommand.Fulfilled
  rw [hkind]
  unfold Running
  simp only
  rw [if_pos hmode, hv, h.trips call List.mem_cons_self c.id hid c options hcmd hkind v hv]

/-- The callback of the start of the first trip. -/
theorem carries_onStartTrip (h : Sound s (⟨cmd, .startTrip client id options⟩ :: calls) last)
    (hg : cmd ≠ none → err = .SUCCESS → s.isTripSession id = true) :
    Carries s (s.onStartTrip client id options err) calls last cmd 1 [] [⟨client, err, id⟩] := by
  obtain ⟨c, hcmd, rfl, rfl, hkind, hmode⟩ := h.ok _ List.mem_cons_self
  obtain rfl : cmd = some c := hcmd
  have howner : ∀ c' ∈ some c, c.client = c'.client ∧ c.id = c'.id := by
    rintro c' hc'
    obtain rfl := Option.some.inj hc'
    exact ⟨rfl, rfl⟩
  unfold onStartTrip
  by_cases herr : err = .SUCCESS
  · simp only [herr, if_true]
    refine Carries.report h.tail (mild_setOngoing.trans mild_reportStart) howner fun c' hc' _ => ?_
    obtain rfl := Option.some.inj hc'
    exact fulfilled_trip (h.mild (mild_setOngoing.trans mild_reportStart)) rfl hkind hmode rfl
      (hg (Option.some_ne_none _) herr)
  · simp only [herr, if_false]
    rw [ite_setBatchFull]
    have hstarts := h.starts
    rw [startIds_cons] at hstarts
    have herase : Sound (s.eraseBatchingSession c.client c.id) calls last := by
      refine h.tail.erase fun call hcall options' hr _ => ?_
      exact (List.nodup_cons.mp hstarts).1 (List.mem_filterMap.mpr ⟨call, hcall, by rw [hr]; rfl⟩)
    exact (Carries.report herase ((mild_eraseTrip.trans mild_setBatchFull).trans mild_reportStart)
      howner fun _ _ h => absurd h herr).before rfl

/-- The callback of the restart for a trip that has joined the others. -/
theorem carries_joinRestart (h : Sound s (⟨cmd, .joinRestart client id⟩ :: calls) last)
    (hg : cmd ≠ none → err = .SUCCESS → s.isTripSession id = true) :
    Carries s (s.reportStart client id err) calls last cmd 1 [] [⟨client, err, id⟩] := by
  obtain ⟨c, hcmd, rfl, rfl, options, hkind, hmode⟩ := h.ok _ List.mem_cons_self
  obtain rfl : cmd = some c := hcmd
  refine Carries.report h.tail mild_reportStart (fun c' hc' => ?_) fun c' hc' herr => ?_
  · obtain rfl := Option.some.inj hc'
    exact ⟨rfl, rfl⟩
  · obtain rfl := Option.some.inj hc'
    exact fulfilled_trip (h.mild mild_reportStart) rfl hkind hmode rfl
      (hg (Option.some_ne_none _) herr)

/-- The callback of the stop of the last trip. -/
theorem carries_onStopTrip {restartNeeded : Bool}
    (h : Sound s (⟨cmd, .stopTrip client id restartNeeded options⟩ :: calls) last)
    (hg : cmd ≠ none → err = .SUCCESS → s.isBatchingSession client id = false) : ∃ news,
    Carries s (s.onStopTrip client id restartNeeded options err) calls last cmd 1 news
      [⟨client, err, id⟩] := by
  obtain ⟨rfl, hsome⟩ := h.ok _ List.mem_cons_self
  unfold onStopTrip
  simp only
  rw [ite_setBatchFull]
  obtain ⟨news, hmild, hgone⟩ := mild_stopTripBatchingMultiplexCommon (s.setBatchFull
    (if err = .SUCCESS ∧ s.autoReportBatchingSessionsCount = 1 then false else s.batchFull)) err client
      id options
  refine ⟨news, (Carries.report (h.tail.mild mild_setBatchFull) hmild (fun c hc => ?_)
    fun c hc herr => ?_).before rfl⟩
  · exact ⟨(hsome c hc).1.symm, (hsome c hc).2.1.symm⟩
  · obtain ⟨rfl, rfl, hkind⟩ := hsome c hc
    have hcmd : cmd ≠ none := by
      rw [Option.mem_def.mp hc]
      exact Option.some_ne_none c
    unfold BatchingCommand.Fulfilled
    rw [hkind]
    have hsaved := hg hcmd herr
    refine ⟨?_, hgone⟩
    rw [hmild.sessions]
    exact Option.not_isSome_iff_eq_none.mp (Bool.eq_false_iff.mp hsaved)

/-- What the callback of the query of a joining trip saves, if the engine has answered. -/
theorem sound_join {accumulatedDistance : ℕ}
    (h : Sound s (⟨cmd, .joinTrip client id options⟩ :: calls) last) :
    Sound ((s.noteWrap (decide (s.mOngoingTripDistance < accumulatedDistance))).setTripSessions
      (s.mTripSessions.insert id
        ⟨accumulatedDistance, 0, 0, options.minDistance, options.minInterval⟩)) calls last := by
  have hstarts := h.starts
  rw [startIds_cons] at hstarts
  refine (h.tail.mild mild_noteWrap).insertTrip (fun call hcall _ k hk hid => ?_)
    (List.nodup_cons.mp hstarts).1
  refine (h.joining _ List.mem_cons_self client id options rfl k hid).2 ?_
  rw [stopKeys_cons]
  exact List.mem_append_right _ (List.mem_filterMap.mpr ⟨call, hcall, hk⟩)

/-- The callback of the query of a trip that joins the others. -/
theorem carries_onJoinTrip {accumulatedDistance : ℕ}
    (h : Sound s (⟨cmd, .joinTrip client id options⟩ :: calls) last)
    (hg : cmd ≠ none → err ≠ .SUCCESS →
      (s.joinOngoing options (s.joinRemaining err accumulatedDistance)).isSome = true) : ∃ news,
    Carries s (s.onJoinTrip client id options err accumulatedDistance) calls last cmd 1 news
      (s.answerResponses err accumulatedDistance (.joinTrip client id options)) := by
  obtain ⟨c, hcmd, rfl, rfl, hkind, hmode⟩ := h.ok _ List.mem_cons_self
  obtain rfl : cmd = some c := hcmd
  have hstarts := h.starts
  rw [startIds_cons] at hstarts
  -- the trip is saved if the engine has answered
  obtain ⟨t, ht, hsound, hout, hval, hsaved⟩ : ∃ t : BatchingAdapter,
      t = (if err ≠ .SUCCESS then s else
        (s.noteWrap (decide (s.mOngoingTripDistance < accumulatedDistance))).setTripSessions
          (s.mTripSessions.insert c.id
            ⟨accumulatedDistance, 0, 0, options.minDistance, options.minInterval⟩)) ∧
      Sound t calls last ∧ t.outstanding = s.outstanding ∧
      (∀ v, t.trip c.id = some v → v = (options.minDistance, options.minInterval)) ∧
      (err = .SUCCESS → t.trip c.id = some (options.minDistance, options.minInterval)) := by
    refine ⟨_, rfl, ?_⟩
    by_cases herr : err = .SUCCESS
    · rw [if_neg (not_not_intro herr)]
      have hins : ((s.mTripSessions.insert c.id ⟨accumulatedDistance, 0, 0, options.minDistance,
          options.minInterval⟩).find c.id).map (fun st => (st.tripDistance, st.tripTBFInterval)) =
          some (options.minDistance, options.minInterval) := by
        rw [OrdMap.find_insert, if_pos rfl]
        rfl
      exact ⟨sound_join h, rfl, fun v hv => Option.some.inj (hv.symm.trans hins), fun _ => hins⟩
    · rw [if_pos herr]
      exact ⟨h.tail, rfl, fun v hv => h.trips _ List.mem_cons_self c.id rfl c options rfl hkind v hv,
        fun h => absurd h herr⟩
  have hresponses : s.answerResponses err accumulatedDistance (.joinTrip c.client c.id options) =
      if (s.joinOngoing options (s.joinRemaining err accumulatedDistance)).isSome then []
      else [⟨c.client, .SUCCESS, c.id⟩] := rfl
  rw [hresponses]
  have hnone (h : s.joinOngoing options (s.joinRemaining err accumulatedDistance) = none) :
      s.onJoinTrip c.client c.id options err accumulatedDistance =
        t.reportStart c.client c.id .SUCCESS := by
    unfold joinRemaining at h
    rw [ht]
    unfold onJoinTrip
    simp only [h]
  have hsome {distance interval : ℕ} (h : s.joinOngoing options
      (s.joinRemaining err accumulatedDistance) = some (distance, interval)) :
      s.onJoinTrip c.client c.id options err accumulatedDistance =
        ((t.setOngoing distance interval).setTripSessions
          (t.mTripSessions.mapValues (·.rebase))).request (.joinRestart c.client c.id) := by
    unfold joinRemaining at h
    rw [ht]
    unfold onJoinTrip
    simp only [h]
    rfl
  cases hongoing : s.joinOngoing options (s.joinRemaining err accumulatedDistance) with
  | none =>
    have herr : err = .SUCCESS := by
      by_contra herr
      have hsome := hg (Option.some_ne_none c) herr
      rw [hongoing] at hsome
      cases hsome
    rw [hnone hongoing]
    refine ⟨[], (Carries.report hsound mild_reportStart (fun c' hc' => ?_) fun c' hc' _ => ?_).before
      hout⟩
    · obtain rfl := Option.some.inj hc'
      exact ⟨rfl, rfl⟩
    · obtain rfl := Option.some.inj hc'
      unfold BatchingCommand.Fulfilled
      rw [hkind]
      unfold Running
      simp only
      rw [if_pos hmode]
      exact hsaved herr
  | some ongoing =>
    obtain ⟨distance, interval⟩ := ongoing
    have hrebase (id : ℕ) : ((t.setOngoing distance interval).setTripSessions
        (t.mTripSessions.mapValues (·.rebase))).trip id = t.trip id :=
      trip_mapValues (s := t.setOngoing distance interval) fun _ => ⟨rfl, rfl⟩
    have hmild : Sound ((t.setOngoing distance interval).setTripSessions
        (t.mTripSessions.mapValues (·.rebase))) calls last :=
      hsound.shrink rfl fun id v hv => (hrebase id).symm.trans hv
    rw [hsome hongoing]
    have hok : (⟨some c, .joinRestart c.client c.id⟩ : BatchingCall).Ok :=
      ⟨c, rfl, rfl, rfl, options, hkind, hmode⟩
    refine ⟨_, (Carries.wait (hmild.cons hok
      (fun _ hk => by cases hk) (fun id hid => ?_) (fun _ _ _ hr => by cases hr)
      (fun id hid c' options' hc' hkind' v hv => ?_) fun _ _ _ hr => by cases hr) rfl).before hout⟩
    · obtain rfl := Option.some.inj hid
      exact (List.nodup_cons.mp hstarts).1
    · obtain rfl := Option.some.inj hid
      obtain rfl := Option.some.inj hc'
      obtain rfl : options = options' := by
        rw [hkind] at hkind'
        exact BatchingCommandKind.start.inj hkind'
      exact hval v ((hrebase c.id).symm.trans hv)

/-- The callback of a request. -/
theorem carries_onAnswer {accumulatedDistance : ℕ} (h : Sound s (call :: calls) last)
    (hg : call.cmd ≠ none → (⟨s, calls, [], [], last⟩ : BatchingLedger).AnswerAnswerable call.cmd err
      accumulatedDistance call.request) : ∃ news,
    Carries s (s.onAnswer call.request err accumulatedDistance) calls last call.cmd
      (if call.request.session?.isSome then 1 else 0) news
      (s.answerResponses err accumulatedDistance call.request) := by
  obtain ⟨cmd, r⟩ := call
  cases r with
  | startBatching client id options => exact ⟨_, carries_onStartBatching h hg⟩
  | stopBatching client id flpOptions restartNeeded options => exact ⟨_, carries_onStopBatching h hg⟩
  | startTrip client id options => exact ⟨_, carries_onStartTrip h hg⟩
  | joinTrip client id options => exact carries_onJoinTrip h hg
  | joinRestart client id => exact ⟨_, carries_joinRestart h hg⟩
  | stopTrip client id restartNeeded options => exact carries_onStopTrip h hg
  | queryTrips queryAccumulatedDistance minRemainingDistance minTBFInterval accDist =>
    obtain ⟨news, hmild⟩ := mild_onQueryTrips (s := s) queryAccumulatedDistance minRemainingDistance
      minTBFInterval accDist accumulatedDistance
    exact ⟨news, .mild h.tail hmild⟩
  | restartTrips distance ongoingTripDistance ongoingTripInterval =>
    exact ⟨_, .mild h.tail (mild_onRestartTrips distance ongoingTripDistance ongoingTripInterval)⟩
  | restartSessions => exact ⟨_, .mild h.tail (mild_ite mild_setOngoing .refl)⟩

/-! ### Clients -/

/-- Nobody waits for what is done when a client is removed. -/
theorem Carries.quietly {news' : List BatchingRequest}
    (h : Carries s s' calls last none debt news [])
    (h' : Carries s' t (calls ++ news.map fun r => ⟨none, r⟩) last none debt news' []) :
    Carries s t calls last none debt (news ++ news') [] where
  outstanding := by rw [h'.outstanding, h.outstanding, List.append_assoc]
  sound := by
    rw [List.map_append, ← List.append_assoc]
    exact h'.sound
  debt hcmd := absurd rfl hcmd
  truthful _ hr := absurd hr List.not_mem_nil

theorem carries_stopSession {key : LocationSessionKey} (batchingMode : BatchingMode)
    (h : Sound s calls last) (hlast : last key.id = none) : ∃ news,
    Carries s (s.stopSession key batchingMode) calls last none 1 news [] := by
  have hnobody {news : List BatchingRequest} {s' : BatchingAdapter} {debt : ℕ}
      (hc : Carries s s' calls last none debt news []) : Carries s s' calls last none 1 news [] :=
    ⟨hc.outstanding, hc.sound, fun hcmd => absurd rfl hcmd, hc.truthful⟩
  unfold stopSession
  split
  · cases hsaved : s.isBatchingSession key.client key.id with
    | false =>
      have hstop : s.stopBatching key.client key.id false defaultOptions = s := by
        unfold stopBatching
        rw [Option.not_isSome_iff_eq_none.mp (Bool.eq_false_iff.mp hsaved)]
      rw [hstop]
      exact ⟨_, hnobody (.mild h .refl)⟩
    | true =>
      refine carries_stopBatching h hsaved (fun _ => ⟨fun _ => rfl, fun c hc => by cases hc⟩)
        (fun hcmd => absurd rfl hcmd) fun call hcall options' hr heq => ?_
      have hok := h.ok call hcall
      unfold BatchingCall.Ok at hok
      rw [hr] at hok
      obtain ⟨c, hcmd, -⟩ := hok
      rw [hlast, hcmd] at heq
      cases heq
  · by_cases hsize : s.mTripSessions.size = 1
    · exact carries_stopTrip h hsize ⟨rfl, fun c hc => by cases hc⟩
    · unfold stopTripBatchingMultiplex
      rw [if_neg hsize]
      obtain ⟨news, hmild, -⟩ := mild_stopTripBatchingMultiplexCommon s .SUCCESS key.client key.id
        defaultOptions
      exact ⟨news, hnobody (.mild h hmild)⟩

/-- The sessions of a client that is removed are stopped one by one. -/
theorem carries_stopClientSessions (h : Sound s calls last) (client : ℕ)
    (hlast : ∀ id, s.isBatchingSession client id = true → last id = none) : ∃ news,
    Carries s (s.stopClientSessions client) calls last none 1 news [] := by
  have hfold (l : List (LocationSessionKey × BatchingOptions)) : ∀ s calls, Sound s calls last →
      (∀ e ∈ l, last e.1.id = none) → ∃ news,
        Carries s (l.foldl (fun s e => s.stopSession e.1 e.2.batchingMode) s) calls last none 1 news
          [] := by
    induction l with
    | nil =>
      intro s calls h _
      have hmild : Carries s s calls last none 0 [] [] := .mild h .refl
      exact ⟨[], hmild.outstanding, hmild.sound, fun hcmd => absurd rfl hcmd, hmild.truthful⟩
    | cons e l ih =>
      intro s calls h hl
      obtain ⟨news, hstop⟩ := carries_stopSession e.2.batchingMode h (hl e List.mem_cons_self)
      obtain ⟨news', hrest⟩ := ih _ _ hstop.sound fun e he => hl e (List.mem_cons_of_mem _ he)
      exact ⟨_, hstop.quietly hrest⟩
  refine hfold _ s calls h fun e he => hlast e.1.id ?_
  obtain ⟨hmem, hclient⟩ := List.mem_filter.mp he
  have hfind : s.mBatchingSessions.find ⟨client, e.1.id⟩ = some e.2 := by
    rw [of_decide_eq_true hclient]
    exact OrdMap.find_eq_some.mpr hmem
  unfold isBatchingSession
  rw [hfind]
  rfl

end

end BatchingAdapter

namespace BatchingLedger

variable {l : BatchingLedger} {c : BatchingCommand} {cmd : Option BatchingCommand}
  {adapter : BatchingAdapter} {news : List BatchingRequest} {responses : List BatchingResponse}
  {debt : ℕ}

/-- The requests under way that will answer the command. -/
def debts (l : BatchingLedger) (c : BatchingCommand) : ℕ :=
  l.calls.countP fun call => decide (call.cmd = some c) && call.request.session?.isSome

/-- The reports for the command. -/
def answers (l : BatchingLedger) (c : BatchingCommand) : ℕ :=
  l.reports.countP fun r => decide (r.cmd = some c)

/-- Commands are numbered; requests and reports are of commands, and the reports are truthful. -/
structure Owned (l : BatchingLedger) : Prop where
  numbered : ∀ c ∈ l.commands, c.num < l.commands.length
  owners : ∀ call ∈ l.calls, ∀ c ∈ call.cmd, c ∈ l.commands
  reporters : ∀ r ∈ l.reports, ∀ c ∈ r.cmd, c ∈ l.commands
  truthful : ∀ r ∈ l.reports, ∀ c ∈ r.cmd, r.response.client = c.client ∧ r.response.id = c.id ∧
    (r.response.err = .SUCCESS → r.fulfilled = true)

/-- Every command has one request under way, or one report. -/
structure Balanced (l : BatchingLedger) : Prop extends Owned l where
  sound : Sound l.adapter l.calls l.last
  balance : ∀ c ∈ l.commands, l.debts c + l.answers c = 1

theorem advance_eq (h : adapter.outstanding = l.adapter.outstanding ++ news) :
    l.advance cmd adapter responses = { l with
      adapter := adapter
      calls := l.calls ++ news.map fun r => ⟨cmd, r⟩
      reports := l.reports ++ responses.map fun r =>
        ⟨cmd, r, cmd.all fun cmd => cmd.Fulfilled adapter⟩ } := by
  unfold advance
  rw [h, List.drop_left]

/-- What a message or a callback adds to the account of a command. -/
theorem balance_advance (h : adapter.outstanding = l.adapter.outstanding ++ news)
    (hdebt : cmd ≠ none → (news.countP fun r => r.session?.isSome) + responses.length = debt)
    (c : BatchingCommand) :
    (l.advance cmd adapter responses).debts c + (l.advance cmd adapter responses).answers c =
      l.debts c + l.answers c + if cmd = some c then debt else 0 := by
  rw [advance_eq h]
  unfold debts answers
  simp only [List.countP_append, List.countP_map]
  by_cases hcmd : cmd = some c
  · have hcalls : news.countP ((fun call : BatchingCall => decide (call.cmd = some c) &&
        call.request.session?.isSome) ∘ fun r => ⟨cmd, r⟩) =
          news.countP fun r => r.session?.isSome := by
      refine List.countP_congr fun r _ => ?_
      simp only [Function.comp_apply, hcmd, decide_true, Bool.true_and]
    have hreports : responses.countP ((fun r : BatchingReport => decide (r.cmd = some c)) ∘ fun r =>
        ⟨cmd, r, cmd.all fun cmd => cmd.Fulfilled adapter⟩) = responses.length := by
      refine List.countP_eq_length.mpr fun r _ => ?_
      simp only [Function.comp_apply, hcmd, decide_true]
    rw [hcalls, hreports, if_pos hcmd]
    have hnone : cmd ≠ none := by
      rw [hcmd]
      exact Option.some_ne_none c
    have := hdebt hnone
    omega
  · have hcalls : news.countP ((fun call : BatchingCall => decide (call.cmd = some c) &&
        call.request.session?.isSome) ∘ fun r => ⟨cmd, r⟩) = 0 := by
      refine List.countP_eq_zero.mpr fun r _ => ?_
      simp only [Function.comp_apply, hcmd, decide_false, Bool.false_and]
      exact Bool.false_ne_true
    have hreports : responses.countP ((fun r : BatchingReport => decide (r.cmd = some c)) ∘ fun r =>
        ⟨cmd, r, cmd.all fun cmd => cmd.Fulfilled adapter⟩) = 0 := by
      refine List.countP_eq_zero.mpr fun r _ => ?_
      simp only [Function.comp_apply, hcmd, decide_false]
      exact Bool.false_ne_true
    rw [hcalls, hreports, if_neg hcmd]
    omega

theorem Owned.advance (h : l.Owned) (hcmd : ∀ c ∈ cmd, c ∈ l.commands)
    (hc : l.adapter.Carries adapter l.calls l.last cmd debt news responses)
    (hbalance : ∀ c ∈ l.commands, l.debts c + l.answers c + (if cmd = some c then debt else 0) = 1) :
    (l.advance cmd adapter responses).Balanced := by
  have heq := @advance_eq l cmd adapter news responses hc.outstanding
  have hcommands : (l.advance cmd adapter responses).commands = l.commands := by rw [heq]
  have hreports {r : BatchingReport} (hr : r ∈ (l.advance cmd adapter responses).reports) :
      r ∈ l.reports ∨ ∃ response ∈ responses,
        r = ⟨cmd, response, cmd.all fun cmd => cmd.Fulfilled adapter⟩ := by
    rw [heq] at hr
    refine (List.mem_append.mp hr).imp_right fun hr => ?_
    obtain ⟨response, hresponse, rfl⟩ := List.mem_map.mp hr
    exact ⟨response, hresponse, rfl⟩
  refine ⟨⟨?_, fun call hcall c' hc' => ?_, fun r hr c' hc' => ?_, fun r hr c' hc' => ?_⟩, ?_,
    fun c' hc' => ?_⟩
  · rw [hcommands]
    exact h.numbered
  · rw [hcommands]
    rw [heq] at hcall
    rcases List.mem_append.mp hcall with hcall | hcall
    · exact h.owners call hcall c' hc'
    · obtain ⟨r, -, rfl⟩ := List.mem_map.mp hcall
      exact hcmd c' hc'
  · rw [hcommands]
    rcases hreports hr with hr | ⟨response, -, rfl⟩
    · exact h.reporters r hr c' hc'
    · exact hcmd c' hc'
  · rcases hreports hr with hr | ⟨response, hresponse, rfl⟩
    · exact h.truthful r hr c' hc'
    · obtain ⟨hclient, hid, hful⟩ := hc.truthful response hresponse c' hc'
      refine ⟨hclient, hid, fun herr => ?_⟩
      obtain rfl : cmd = some c' := hc'
      exact decide_eq_true (hful herr)
  · rw [heq]
    exact hc.sound
  · rw [hcommands] at hc'
    rw [balance_advance hc.outstanding hc.debt c']
    exact hbalance c' hc'

theorem Balanced.initial : initial.Balanced where
  numbered _ hc := absurd hc List.not_mem_nil
  owners _ hcall := absurd hcall List.not_mem_nil
  reporters _ hr := absurd hr List.not_mem_nil
  truthful _ hr := absurd hr List.not_mem_nil
  sound :=
    { ok := fun _ hcall => absurd hcall List.not_mem_nil
      stops := List.nodup_nil
      starts := List.nodup_nil
      erased := fun _ hk => absurd hk List.not_mem_nil
      stopped := fun _ hcall => absurd hcall List.not_mem_nil
      joining := fun _ hcall => absurd hcall List.not_mem_nil
      trips := fun _ hcall => absurd hcall List.not_mem_nil
      saved := fun _ hcall => absurd hcall List.not_mem_nil }
  balance _ hc := absurd hc List.not_mem_nil

/-- A step for which no command waits. -/
theorem Balanced.quiet {last : ℕ → Option BatchingCommand} (h : l.Balanced)
    (hc : l.adapter.Carries adapter l.calls last none debt news []) :
    (BatchingLedger.advance { l with last := last } none adapter []).Balanced := by
  have howned : BatchingLedger.Owned { l with last := last } :=
    ⟨h.numbered, h.owners, h.reporters, h.truthful⟩
  refine howned.advance (fun _ hc => by cases hc) hc fun c hmem => ?_
  rw [if_neg (Option.some_ne_none c).symm]
  exact h.balance c hmem

theorem Balanced.removeClient (h : l.Balanced) (client : ℕ) : (l.removeClient client).Balanced := by
  have hsound : Sound l.adapter l.calls
      (fun id => if l.adapter.isBatchingSession client id then none else l.last id) := by
    refine h.sound.overtake fun call hcall client' id options hr hl => ?_
    split at hl
    · have hok := h.sound.ok call hcall
      unfold BatchingCall.Ok at hok
      rw [hr] at hok
      obtain ⟨c, hcmd, -⟩ := hok
      rw [hcmd] at hl
      cases hl
    · exact hl
  obtain ⟨news, hstop⟩ := BatchingAdapter.carries_stopClientSessions hsound client
    fun _ hid => if_pos hid
  have herase : (l.adapter.stopClientSessions client).Mild
      ((l.adapter.stopClientSessions client).eraseClient client) [] :=
    BatchingAdapter.mild_of_eq rfl rfl rfl
  have hmild : BatchingAdapter.Carries _ _ _ _ none 0 _ _ := .mild hstop.sound herase
  exact h.quiet (hstop.quietly ⟨hmild.outstanding, hmild.sound, fun hcmd => absurd rfl hcmd,
    hmild.truthful⟩)

/-- A command that meets the condition is passed on to a request. -/
theorem carries_procCommand {last : ℕ → Option BatchingCommand}
    (h : Sound l.adapter l.calls last) (hg : l.CommandAnswerable c.client c.id c.kind)
    (hlast : last c.id = some c) (hfresh : ∀ call ∈ l.calls, call.cmd ≠ some c) : ∃ news,
    l.adapter.Carries (l.adapter.procCommand c) l.calls last (some c) 1 news
      (l.adapter.commandResponses c) := by
  have hovertaken : ∀ call ∈ l.calls, ∀ options',
      call.request = .startBatching c.client c.id options' → last c.id ≠ call.cmd := by
    intro call hcall _ _ heq
    exact hfresh call hcall (heq.symm.trans hlast)
  unfold BatchingAdapter.procCommand BatchingAdapter.commandResponses
  cases hkind : c.kind with
  | start options =>
    rw [hkind] at hg
    obtain ⟨hcallback, hsize, hsupported, hsessions, htrip, hnew⟩ := hg
    simp only
    unfold BatchingAdapter.procStartBatching
    simp only [hcallback, hsize, hsupported, Bool.true_eq_false, if_false]
    refine BatchingAdapter.carries_startSession h hkind (fun k hk => ?_)
      (BatchingAdapter.trip_eq_none.mpr htrip) hnew
    exact OrdMap.find_eq_none.mpr fun v hv => hsessions _ hv hk
  | update options =>
    rw [hkind] at hg
    obtain ⟨hsaved, hsize, htrip⟩ := hg
    simp only
    unfold BatchingAdapter.procUpdateBatching
    simp only [hsaved, hsize, htrip, Bool.true_eq_false, if_false, if_true]
    refine BatchingAdapter.carries_stopBatching h hsaved (fun _ => ⟨fun hnone => (by cases hnone),
      fun c' hc' => ?_⟩) (fun _ => BatchingAdapter.trip_eq_none.mpr htrip) hovertaken
    obtain rfl := Option.some.inj hc'
    exact ⟨rfl, rfl, hkind.trans (if_pos rfl).symm⟩
  | stop =>
    rw [hkind] at hg
    obtain ⟨hsaved, hlastTrip⟩ := hg
    simp only
    unfold BatchingAdapter.procStopBatching
    simp only [hsaved, Bool.true_eq_false, if_false]
    cases htrip : l.adapter.isTripSession c.id with
    | true =>
      unfold BatchingAdapter.stopTripResponses
      rw [if_pos rfl, if_pos rfl, if_pos (hlastTrip htrip)]
      refine BatchingAdapter.carries_stopTrip h (hlastTrip htrip) ⟨rfl, fun c' hc' => ?_⟩
      obtain rfl := Option.some.inj hc'
      exact ⟨rfl, rfl, hkind⟩
    | false =>
      rw [if_neg Bool.false_ne_true, if_neg Bool.false_ne_true]
      refine BatchingAdapter.carries_stopBatching h hsaved (fun _ => ⟨fun _ => rfl,
        fun c' hc' => ?_⟩) (fun _ => BatchingAdapter.trip_eq_none.mpr htrip) hovertaken
      obtain rfl := Option.some.inj hc'
      exact ⟨rfl, rfl, hkind⟩

theorem Balanced.procCommand {kind : BatchingCommandKind} {client id : ℕ} (h : l.Balanced)
    (hg : l.CommandAnswerable client id kind) : (l.procCommand kind client id).Balanced := by
  unfold BatchingLedger.procCommand
  simp only
  generalize hc : (⟨l.commands.length, kind, client, id⟩ : BatchingCommand) = c
  have hnum : c.num = l.commands.length := by rw [← hc]
  have hid : c.id = id := by rw [← hc]
  have hg' : l.CommandAnswerable c.client c.id c.kind := by
    rw [← hc]
    exact hg
  have hnew : c ∉ l.commands := fun hmem => absurd (h.numbered c hmem) (by omega)
  have hfresh : ∀ call ∈ l.calls, call.cmd ≠ some c := fun call hcall hcmd =>
    hnew (h.owners call hcall c hcmd)
  have hsound : Sound l.adapter l.calls (fun k => if k = id then some c else l.last k) := by
    refine h.sound.overtake fun call hcall client' id' options hr hl => ?_
    split at hl
    · exact absurd hl.symm (hfresh call hcall)
    · exact hl
  obtain ⟨news, hcarries⟩ := carries_procCommand hsound hg' (if_pos hid) hfresh
  have howned : BatchingLedger.Owned { l with
      commands := l.commands ++ [c]
      last := fun k => if k = id then some c else l.last k } := by
    refine ⟨fun c' hc' => ?_, fun call hcall c' hc' => ?_, fun r hr c' hc' => ?_, h.truthful⟩
    · show c'.num < (l.commands ++ [c]).length
      rw [List.length_append, List.length_singleton]
      rcases List.mem_append.mp hc' with hc' | hc'
      · exact Nat.lt_succ_of_lt (h.numbered c' hc')
      · rw [List.mem_singleton.mp hc', hnum]
        exact Nat.lt_succ_self _
    · exact List.mem_append_left _ (h.owners call hcall c' hc')
    · exact List.mem_append_left _ (h.reporters r hr c' hc')
  refine howned.advance (fun c' hc' => ?_) hcarries fun c' hc' => ?_
  · obtain rfl := Option.some.inj hc'
    exact List.mem_append_right _ (List.mem_singleton.mpr rfl)
  · show l.debts c' + l.answers c' + _ = 1
    by_cases heq : c = c'
    · subst heq
      have hdebts : l.debts c = 0 := by
        refine List.countP_eq_zero.mpr fun call hcall => ?_
        rw [decide_eq_false (hfresh call hcall), Bool.false_and]
        exact Bool.false_ne_true
      have hanswers : l.answers c = 0 := by
        refine List.countP_eq_zero.mpr fun r hr => ?_
        have hcmd : r.cmd ≠ some c := fun hcmd => hnew (h.reporters r hr c hcmd)
        rw [decide_eq_false hcmd]
        exact Bool.false_ne_true
      rw [hdebts, hanswers, if_pos rfl]
    · rw [if_neg fun h => heq (Option.some.inj h)]
      refine h.balance c' ((List.mem_append.mp hc').resolve_right fun hmem => ?_)
      exact heq (List.mem_singleton.mp hmem).symm

theorem Balanced.answer {call : BatchingCall} {err : LocationError} {distance : ℕ} (h : l.Balanced)
    (hcall : call ∈ l.calls)
    (hg : call.cmd ≠ none → l.AnswerAnswerable call.cmd err distance call.request) :
    (BatchingLedger.advance { l with
      adapter := l.adapter.take call.request
      calls := l.calls.erase call } call.cmd
        ((l.adapter.take call.request).onAnswer call.request err distance)
          ((l.adapter.take call.request).answerResponses err distance call.request)).Balanced := by
  have hperm : (call :: l.calls.erase call).Perm l.calls := (List.perm_cons_erase hcall).symm
  have hsound : Sound (l.adapter.take call.request) (call :: l.calls.erase call) l.last :=
    (h.sound.perm hperm).shrink rfl fun _ _ hv => hv
  have hg' : call.cmd ≠ none → (⟨l.adapter.take call.request, l.calls.erase call, [], [],
      l.last⟩ : BatchingLedger).AnswerAnswerable call.cmd err distance call.request := by
    intro hcmd
    have hanswer := hg hcmd
    obtain ⟨cmd, r⟩ := call
    cases r with
    | startBatching | stopBatching | startTrip | joinTrip | joinRestart | stopTrip => exact hanswer
    | queryTrips | restartTrips | restartSessions => exact hanswer
  obtain ⟨news, hcarries⟩ := BatchingAdapter.carries_onAnswer hsound hg'
  have howned : BatchingLedger.Owned { l with
      adapter := l.adapter.take call.request
      calls := l.calls.erase call } :=
    ⟨h.numbered, fun call' hcall' => h.owners call' (List.mem_of_mem_erase hcall'), h.reporters,
      h.truthful⟩
  refine howned.advance (h.owners call hcall) hcarries fun c hc => ?_
  have hbalance := h.balance c hc
  have hdebts : l.debts c = (call :: l.calls.erase call).countP fun call =>
      decide (call.cmd = some c) && call.request.session?.isSome := (hperm.countP_eq _).symm
  rw [List.countP_cons] at hdebts
  show (l.calls.erase call).countP _ + l.answers c + _ = 1
  by_cases hcmd : call.cmd = some c
  · rw [if_pos hcmd]
    rw [decide_eq_true hcmd, Bool.true_and] at hdebts
    omega
  · rw [if_neg hcmd]
    rw [decide_eq_false hcmd, Bool.false_and, if_neg Bool.false_ne_true] at hdebts
    omega

theorem Balanced.step {l' : BatchingLedger} {e : Event} (h : l.Balanced) (hg : l.Answerable e)
    (hst : l.step e = some l') : l'.Balanced := by
  cases e with
  | addClient client batchingCb =>
    obtain rfl := Option.some.inj hst
    exact h.quiet (.mild h.sound (BatchingAdapter.mild_of_eq rfl rfl rfl))
  | removeClient client =>
    obtain rfl := Option.some.inj hst
    exact h.removeClient client
  | command kind client id =>
    obtain rfl := Option.some.inj hst
    exact h.procCommand hg
  | reportCompletedTrips distance memory =>
    obtain rfl := Option.some.inj hst
    obtain ⟨news, hmild⟩ :=
      BatchingAdapter.mild_procReportCompletedTrips (s := l.adapter) distance memory
    exact h.quiet (.mild h.sound hmild)
  | engineUp supported =>
    obtain rfl := Option.some.inj hst
    have hsupported : l.adapter.Mild { l.adapter with distanceBatchingSupported := supported } [] :=
      BatchingAdapter.mild_of_eq rfl rfl rfl
    obtain ⟨news, hmild⟩ := BatchingAdapter.mild_restartSessions
      (s := { l.adapter with distanceBatchingSupported := supported })
    exact h.quiet (.mild h.sound (hsupported.trans hmild))
  | answer call err distance =>
    unfold BatchingLedger.step at hst
    simp only at hst
    split at hst
    · obtain rfl := Option.some.inj hst
      exact h.answer ‹_› hg
    · cases hst

theorem Balanced.answered (h : l.Balanced) (hs : l.Settled c) : l.Answered c := by
  have hdebts : l.debts c = 0 := by
    refine List.countP_eq_zero.mpr fun call hcall => ?_
    rw [decide_eq_false (hs.answered call hcall), Bool.false_and]
    exact Bool.false_ne_true
  have hanswers : (l.reports.filter fun r => r.cmd = some c).length = 1 := by
    have hbalance := h.balance c hs.processed
    rw [hdebts, Nat.zero_add] at hbalance
    rw [← hbalance, ← List.countP_eq_length_filter]
    rfl
  obtain ⟨r, hr⟩ := List.length_eq_one_iff.mp hanswers
  have hmem : r ∈ l.reports.filter fun r => r.cmd = some c := by
    rw [hr]
    exact List.mem_singleton.mpr rfl
  obtain ⟨hreport, hcmd⟩ := List.mem_filter.mp hmem
  exact ⟨r, hr, h.truthful r hreport c (of_decide_eq_true hcmd)⟩

/-- In a run that meets the condition, every command whose requests have been answered has been
answered once, and truthfully. -/
theorem batching_answered {l : BatchingLedger} {es : List Event} (h : system.Run Answerable es l) :
    ∀ c, l.Settled c → l.Answered c := by
  have hbalanced : l.Balanced :=
    h.invariant Balanced.initial fun _ _ _ hbal hg hst => hbal.step hg hst
  exact fun c hs => hbalanced.answered hs

section

variable (l : BatchingLedger)

instance (id : ℕ) : Decidable (l.New id) :=
  inferInstanceAs (Decidable ((∀ _ ∈ _, _) ∧ _ ∧ ∀ call ∈ l.calls, ∀ _ ∈ call.request.session?, _))

instance (client id : ℕ) : ∀ kind, Decidable (l.CommandAnswerable client id kind)
  | .start options => inferInstanceAs (Decidable (_ ∧ options.size ≠ 0 ∧ _ ∧ l.New id))
  | .update options => inferInstanceAs (Decidable (_ ∧ options.size ≠ 0 ∧ _))
  | .stop => inferInstanceAs (Decidable (_ ∧ (_ → _)))

instance (cmd : Option BatchingCommand) (err : LocationError) (distance : ℕ) :
    ∀ r, Decidable (l.AnswerAnswerable cmd err distance r)
  | .startBatching _ _ _ | .stopBatching _ _ _ _ _ | .startTrip _ _ _ | .joinRestart _ _
  | .joinTrip _ _ _ | .stopTrip _ _ _ _ => inferInstanceAs (Decidable (_ → _))
  | .queryTrips _ _ _ _ | .restartTrips _ _ _ | .restartSessions => inferInstanceAs (Decidable True)

instance : ∀ e, Decidable (l.Answerable e)
  | .command kind client id => inferInstanceAs (Decidable (l.CommandAnswerable client id kind))
  | .answer call err distance => inferInstanceAs
      (Decidable (call.cmd ≠ none → l.AnswerAnswerable call.cmd err distance call.request))
  | .addClient _ _ | .removeClient _ | .reportCompletedTrips _ _ | .engineUp _ =>
    inferInstanceAs (Decidable True)

instance (c : BatchingCommand) : Decidable (l.Settled c) :=
  decidable_of_iff (c ∈ l.commands ∧ ∀ call ∈ l.calls, call.cmd ≠ some c)
    ⟨fun h => ⟨h.1, h.2⟩, fun h => ⟨h.processed, h.answered⟩⟩

end

/-- Options of a session that asks for a fix every second. -/
def everySecond (batchingMode : BatchingMode) (minDistance : ℕ) : BatchingOptions :=
  ⟨24, 1000, minDistance, .STANDALONE, 0, batchingMode⟩

/-- The first command of the runs below. -/
def started (batchingMode : BatchingMode) : BatchingCommand :=
  ⟨0, .start (everySecond batchingMode 500), 1, 2⟩

/-- A trip is started, another one joins it and has the batch start again, and a routine session is
started and stopped. -/
theorem batching_answered_trips : ∃ l,
    system.Run Answerable [.addClient 1 true, .engineUp true,
      .command (.start (everySecond .TRIP 500)) 1 2,
      .answer ⟨some (started .TRIP), .startTrip 1 2 (everySecond .TRIP 500)⟩ .SUCCESS 0,
      .command (.start (everySecond .TRIP 100)) 1 3,
      .answer ⟨some ⟨1, .start (everySecond .TRIP 100), 1, 3⟩, .joinTrip 1 3 (everySecond .TRIP 100)⟩
        .SUCCESS 200,
      .answer ⟨some ⟨1, .start (everySecond .TRIP 100), 1, 3⟩, .joinRestart 1 3⟩ .SUCCESS 0,
      .command (.start (everySecond .ROUTINE 0)) 1 4,
      .answer ⟨some ⟨2, .start (everySecond .ROUTINE 0), 1, 4⟩,
        .startBatching 1 4 (everySecond .ROUTINE 0)⟩ .SUCCESS 0,
      .command .stop 1 4,
      .answer ⟨some ⟨3, .stop, 1, 4⟩, .stopBatching 1 4 (everySecond .ROUTINE 0) false
        BatchingAdapter.defaultOptions⟩ .SUCCESS 0] l ∧
      l.calls = [] ∧ l.reports.length = 4 ∧ ∀ c, l.Settled c → l.Answered c := by
  have hrun : system.Run Answerable [.addClient 1 true, .engineUp true,
      .command (.start (everySecond .TRIP 500)) 1 2,
      .answer ⟨some (started .TRIP), .startTrip 1 2 (everySecond .TRIP 500)⟩ .SUCCESS 0,
      .command (.start (everySecond .TRIP 100)) 1 3,
      .answer ⟨some ⟨1, .start (everySecond .TRIP 100), 1, 3⟩, .joinTrip 1 3 (everySecond .TRIP 100)⟩
        .SUCCESS 200,
      .answer ⟨some ⟨1, .start (everySecond .TRIP 100), 1, 3⟩, .joinRestart 1 3⟩ .SUCCESS 0,
      .command (.start (everySecond .ROUTINE 0)) 1 4,
      .answer ⟨some ⟨2, .start (everySecond .ROUTINE 0), 1, 4⟩,
        .startBatching 1 4 (everySecond .ROUTINE 0)⟩ .SUCCESS 0,
      .command .stop 1 4,
      .answer ⟨some ⟨3, .stop, 1, 4⟩, .stopBatching 1 4 (everySecond .ROUTINE 0) false
        BatchingAdapter.defaultOptions⟩ .SUCCESS 0] _ := System.run_guarded rfl
  exact ⟨_, hrun, rfl, rfl, batching_answered hrun⟩

/-- A start without options is not answered, an update is answered twice, and a trip is reported as
stopped that is still saved. -/
theorem batching_unanswered :
    (∃ l, system.Run System.Free [.addClient 1 true, .engineUp true,
      .command (.start { everySecond .ROUTINE 500 with size := 0 }) 1 2] l ∧
      l.Settled ⟨0, .start { everySecond .ROUTINE 500 with size := 0 }, 1, 2⟩ ∧ l.reports = []) ∧
    (∃ l, system.Run System.Free [.addClient 1 true, .engineUp true,
      .command (.start (everySecond .ROUTINE 500)) 1 2,
      .answer ⟨some (started .ROUTINE), .startBatching 1 2 (everySecond .ROUTINE 500)⟩ .SUCCESS 0,
      .command (.update (everySecond .ROUTINE 100)) 1 2,
      .answer ⟨some ⟨1, .update (everySecond .ROUTINE 100), 1, 2⟩, .stopBatching 1 2
        (everySecond .ROUTINE 500) true (everySecond .ROUTINE 100)⟩ .SUCCESS 0,
      .answer ⟨some ⟨1, .update (everySecond .ROUTINE 100), 1, 2⟩, .startBatching 1 2
        (everySecond .ROUTINE 100)⟩ .GENERAL_FAILURE 0] l ∧
      l.Settled ⟨1, .update (everySecond .ROUTINE 100), 1, 2⟩ ∧
      (l.reports.filter fun r => r.cmd = some ⟨1, .update (everySecond .ROUTINE 100), 1, 2⟩).map
        (fun r => r.response) = [⟨1, .SUCCESS, 2⟩, ⟨1, .GENERAL_FAILURE, 2⟩]) ∧
    ∃ l, system.Run System.Free [.addClient 1 true, .engineUp true,
      .command (.start (everySecond .TRIP 500)) 1 2,
      .answer ⟨some (started .TRIP), .startTrip 1 2 (everySecond .TRIP 500)⟩ .SUCCESS 0,
      .command .stop 1 2,
      .answer ⟨some ⟨1, .stop, 1, 2⟩, .stopTrip 1 2 false BatchingAdapter.defaultOptions⟩ .SUCCESS
        0] l ∧
      l.Settled ⟨1, .stop, 1, 2⟩ ∧ ¬ l.Answered ⟨1, .stop, 1, 2⟩ := by
  refine ⟨⟨_, System.run_foldlM rfl, ⟨by decide, by decide⟩, rfl⟩,
    ⟨_, System.run_foldlM rfl, ⟨by decide, by decide⟩, rfl⟩,
    _, System.run_foldlM rfl, ⟨by decide, by decide⟩, ?_⟩
  rintro ⟨r, hr, -, -, htrue⟩
  obtain rfl := List.singleton_inj.mp hr
  exact absurd (htrue rfl) Bool.false_ne_true

end BatchingLedger

/-! ### The adapter beside the ledger -/

namespace BatchingAdapter

variable {s s' : BatchingAdapter} {news : List BatchingRequest} {client id : ℕ}
  {options : BatchingOptions} {err : LocationError}

theorem Mild.isPrefix (h : Mild s s' news) : s.outstanding <+: s'.outstanding := by
  rw [h.outstanding]
  exact List.prefix_append _ _

theorem isPrefix_startSession :
    s.outstanding <+: (s.startSession client id options).outstanding := by
  have hsession : s.outstanding <+: (s.startBatching client id options).outstanding := by
    unfold startBatching
    simp only
    rw [ite_setBatchFull]
    exact List.prefix_append _ _
  unfold startSession
  cases options.batchingMode with
  | ROUTINE => exact hsession
  | NO_AUTO_REPORT => exact hsession
  | TRIP =>
    simp only
    unfold startTripBatchingMultiplex
    split
    · simp only
      rw [ite_setBatchFull]
      exact List.prefix_append _ _
    · exact List.prefix_append _ _

theorem isPrefix_stopBatching (restartNeeded : Bool) :
    s.outstanding <+: (s.stopBatching client id restartNeeded options).outstanding := by
  unfold stopBatching
  split
  · exact List.prefix_append _ _
  · exact List.prefix_rfl

theorem outstanding_reportStop : (s.reportStop client id err).outstanding = s.outstanding := by
  unfold reportStop
  split
  · rfl
  · rfl

theorem isPrefix_stopTripBatchingMultiplexCommon (restartNeeded : Bool) : s.outstanding <+:
    (s.stopTripBatchingMultiplexCommon err client id restartNeeded options).outstanding := by
  unfold stopTripBatchingMultiplexCommon
  extract_lets s₁ s₂ s₃ s₄
  have h₃ : s.outstanding <+: s₃.outstanding := by
    show s₂.outstanding <+: (if s₂.mTripSessions.size = 0 then s₂.setOngoing 0 0 else
      s₂.restartTripBatching true 0).outstanding
    split
    · exact List.prefix_rfl
    · obtain ⟨news, hmild⟩ := mild_restartTripBatching (s := s₂) true 0
      exact hmild.isPrefix
  have h₄ : s₃.outstanding <+: s₄.outstanding := by
    show s₃.outstanding <+: (if restartNeeded then
      (s₃.eraseBatchingSession client id).startSession client id options else s₃).outstanding
    split
    · exact isPrefix_startSession (s := s₃.eraseBatchingSession client id)
    · exact List.prefix_rfl
  rw [outstanding_reportStop]
  exact h₃.trans h₄

theorem isPrefix_stopTripBatchingMultiplex (restartNeeded : Bool) : s.outstanding <+:
    (s.stopTripBatchingMultiplex client id restartNeeded options).outstanding := by
  unfold stopTripBatchingMultiplex
  split
  · exact List.prefix_append _ _
  · exact isPrefix_stopTripBatchingMultiplexCommon restartNeeded

theorem isPrefix_procCommand (cmd : BatchingCommand) :
    s.outstanding <+: (s.procCommand cmd).outstanding := by
  unfold procCommand
  cases cmd.kind with
  | start options =>
    simp only
    unfold procStartBatching
    split_ifs
    · exact List.prefix_rfl
    · exact List.prefix_rfl
    · exact List.prefix_rfl
    · exact isPrefix_startSession
  | update options =>
    simp only
    unfold procUpdateBatching
    split_ifs
    · exact List.prefix_rfl
    · exact List.prefix_rfl
    · exact isPrefix_stopBatching true
    · exact isPrefix_stopTripBatchingMultiplex true
  | stop =>
    simp only
    unfold procStopBatching
    split_ifs
    · exact List.prefix_rfl
    · exact isPrefix_stopTripBatchingMultiplex false
    · exact isPrefix_stopBatching false

theorem isPrefix_onStopBatching (flpOptions : BatchingOptions) (restartNeeded : Bool) : s.outstanding <+:
    (s.onStopBatching client id flpOptions restartNeeded options err).outstanding := by
  unfold onStopBatching
  simp only
  rw [outstanding_reportStop, ite_setBatchFull]
  split
  · exact List.prefix_rfl
  · split
    · refine List.IsPrefix.trans ?_ isPrefix_startSession
      exact List.prefix_rfl
    · exact List.prefix_rfl

theorem isPrefix_onJoinTrip (accumulatedDistance : ℕ) : s.outstanding <+:
    (s.onJoinTrip client id options err accumulatedDistance).outstanding := by
  unfold onJoinTrip
  extract_lets remaining ongoing t
  have ht : t.outstanding = s.outstanding := by
    show (if err ≠ .SUCCESS then s else _).outstanding = _
    split
    · rfl
    · rfl
  clear_value ongoing
  rw [← ht]
  cases ongoing with
  | none => exact List.prefix_rfl
  | some distances => exact List.prefix_append _ _

theorem isPrefix_onAnswer (r : BatchingRequest) (accumulatedDistance : ℕ) :
    s.outstanding <+: (s.onAnswer r err accumulatedDistance).outstanding := by
  cases r with
  | startBatching client id options =>
    show s.outstanding <+: (s.onStartBatching client id options err).outstanding
    unfold onStartBatching
    simp only
    rw [ite_setBatchFull]
    split
    · exact List.prefix_rfl
    · exact List.prefix_rfl
  | stopBatching client id flpOptions restartNeeded options =>
    exact isPrefix_onStopBatching flpOptions restartNeeded
  | startTrip client id options =>
    show s.outstanding <+: (s.onStartTrip client id options err).outstanding
    unfold onStartTrip
    simp only
    rw [ite_setBatchFull]
    split
    · exact List.prefix_rfl
    · exact List.prefix_rfl
  | joinTrip client id options => exact isPrefix_onJoinTrip accumulatedDistance
  | joinRestart client id => exact List.prefix_rfl
  | stopTrip client id restartNeeded options =>
    show s.outstanding <+: (s.onStopTrip client id restartNeeded options err).outstanding
    unfold onStopTrip
    simp only
    rw [ite_setBatchFull]
    refine List.IsPrefix.trans ?_ (isPrefix_stopTripBatchingMultiplexCommon restartNeeded)
    exact List.prefix_rfl
  | queryTrips queryAccumulatedDistance minRemainingDistance minTBFInterval accDist =>
    obtain ⟨news, hmild⟩ := mild_onQueryTrips (s := s) queryAccumulatedDistance minRemainingDistance
      minTBFInterval accDist accumulatedDistance
    exact hmild.isPrefix
  | restartTrips distance ongoingTripDistance ongoingTripInterval =>
    exact (mild_onRestartTrips (s := s) distance ongoingTripDistance ongoingTripInterval).isPrefix
  | restartSessions =>
    have hmild : Mild s (s.onRestartSessions err) [] := mild_ite mild_setOngoing .refl
    exact hmild.isPrefix

theorem isPrefix_stopClientSessions :
    s.outstanding <+: (s.stopClientSessions client).outstanding := by
  have hfold (l : List (LocationSessionKey × BatchingOptions)) : ∀ s : BatchingAdapter,
      s.outstanding <+: (l.foldl (fun s e => s.stopSession e.1 e.2.batchingMode) s).outstanding := by
    induction l with
    | nil => exact fun s => List.prefix_rfl
    | cons e l ih =>
      intro s
      refine List.IsPrefix.trans ?_ (ih (s.stopSession e.1 e.2.batchingMode))
      unfold stopSession
      split
      · exact isPrefix_stopBatching false
      · exact isPrefix_stopTripBatchingMultiplex false
  exact hfold _ s

end BatchingAdapter

namespace BatchingLedger

variable {l l' : BatchingLedger} {adapter : BatchingAdapter} {cmd : Option BatchingCommand}
  {responses : List BatchingResponse}

/-- What the step is for the adapter. -/
def Event.message : Event → BatchingEvent
  | .addClient client batchingCb => .addClient client batchingCb
  | .removeClient client => .removeClient client
  | .command (.start options) client id => .startBatching client id options
  | .command (.update options) client id => .updateBatchingOptions client id options
  | .command .stop client id => .stopBatching client id
  | .reportCompletedTrips distance memory => .reportCompletedTrips distance memory
  | .engineUp supported => .engineUp supported
  | .answer call err distance => .answer call.request err distance

/-- The ledger has the requests of the adapter. -/
def Matches (l : BatchingLedger) : Prop :=
  (l.calls.map fun call => call.request).Perm l.adapter.outstanding

theorem Matches.advance (h : l.Matches) (ho : l.adapter.outstanding <+: adapter.outstanding) :
    (l.advance cmd adapter responses).Matches := by
  obtain ⟨news, hnews⟩ := ho
  rw [advance_eq hnews.symm]
  show ((l.calls ++ news.map _).map _).Perm adapter.outstanding
  rw [List.map_append, List.map_map, ← hnews]
  exact h.append (.of_eq (List.map_id _))

/-- A step of the ledger is one of the adapter. -/
theorem Matches.step {e : Event} (h : l.Matches) (hst : l.step e = some l') :
    l'.Matches ∧ l.adapter.step e.message = some l'.adapter := by
  cases e with
  | addClient client batchingCb =>
    obtain rfl := Option.some.inj hst
    exact ⟨h.advance List.prefix_rfl, rfl⟩
  | removeClient client =>
    obtain rfl := Option.some.inj hst
    refine ⟨Matches.advance (l := { l with last := _ }) h ?_, rfl⟩
    exact BatchingAdapter.isPrefix_stopClientSessions
  | command kind client id =>
    obtain rfl := Option.some.inj hst
    refine ⟨Matches.advance (l := { l with commands := _, last := _ }) h
      (BatchingAdapter.isPrefix_procCommand _), ?_⟩
    cases kind with
    | start options => rfl
    | update options => rfl
    | stop => rfl
  | reportCompletedTrips distance memory =>
    obtain rfl := Option.some.inj hst
    obtain ⟨news, hmild⟩ :=
      BatchingAdapter.mild_procReportCompletedTrips (s := l.adapter) distance memory
    exact ⟨h.advance hmild.isPrefix, rfl⟩
  | engineUp supported =>
    obtain rfl := Option.some.inj hst
    obtain ⟨news, hmild⟩ := BatchingAdapter.mild_restartSessions
      (s := { l.adapter with distanceBatchingSupported := supported })
    exact ⟨h.advance hmild.isPrefix, rfl⟩
  | answer call err distance =>
    unfold BatchingLedger.step at hst
    simp only at hst
    split at hst
    · rename_i hcall
      obtain rfl := Option.some.inj hst
      have hmem : call.request ∈ l.adapter.outstanding :=
        h.mem_iff.mp (List.mem_map.mpr ⟨call, hcall, rfl⟩)
      have htake : BatchingLedger.Matches { l with
          adapter := l.adapter.take call.request
          calls := l.calls.erase call } := by
        have hcons : (call.request :: (l.calls.erase call).map fun call => call.request).Perm
            (call.request :: l.adapter.outstanding.erase call.request) :=
          (((List.perm_cons_erase hcall).map _).symm.trans h).trans (List.perm_cons_erase hmem)
        exact hcons.cons_inv
      exact ⟨htake.advance (BatchingAdapter.isPrefix_onAnswer _ _), if_pos hmem⟩
    · cases hst

/-- The adapter beside the ledger runs as it does alone. -/
theorem run_adapter {es : List Event} (h : system.Run System.Free es l) :
    BatchingAdapter.system.Run System.Free (es.map Event.message) l.adapter := by
  suffices hrun : l.Matches ∧
      BatchingAdapter.system.Run System.Free (es.map Event.message) l.adapter from hrun.2
  induction h with
  | nil => exact ⟨.nil, .nil⟩
  | snoc _ _ hst ih =>
    obtain ⟨hmatch, hrun⟩ := ih
    obtain ⟨hmatch', hstep⟩ := hmatch.step hst
    rw [List.map_append, List.map_singleton]
    exact ⟨hmatch', hrun.snoc trivial hstep⟩

/-- Every run of the adapter is beside one of the ledger. -/
theorem exists_run {es : List BatchingEvent} {s : BatchingAdapter}
    (h : BatchingAdapter.system.Run System.Free es s) :
    ∃ es' l, system.Run System.Free es' l ∧ es'.map Event.message = es ∧ l.adapter = s := by
  suffices hrun : ∃ es' l, system.Run System.Free es' l ∧ es'.map Event.message = es ∧
      l.adapter = s ∧ l.Matches by
    obtain ⟨es', l, hl, hes, hs, -⟩ := hrun
    exact ⟨es', l, hl, hes, hs⟩
  induction h with
  | nil => exact ⟨[], _, .nil, rfl, rfl, .nil⟩
  | @snoc es s s' e _ _ hst ih =>
    obtain ⟨es', l, hl, rfl, rfl, hmatch⟩ := ih
    suffices hnext : ∃ e' l', e'.message = e ∧ l.step e' = some l' by
      obtain ⟨e', l', rfl, hl'⟩ := hnext
      obtain ⟨hmatch', hstep⟩ := hmatch.step hl'
      refine ⟨es' ++ [e'], l', hl.snoc trivial hl', ?_, ?_, hmatch'⟩
      · rw [List.map_append, List.map_singleton]
      · exact Option.some.inj (hstep.symm.trans hst)
    cases e with
    | addClient client batchingCb => exact ⟨.addClient client batchingCb, _, rfl, rfl⟩
    | removeClient client => exact ⟨.removeClient client, _, rfl, rfl⟩
    | startBatching client id options => exact ⟨.command (.start options) client id, _, rfl, rfl⟩
    | updateBatchingOptions client id options =>
      exact ⟨.command (.update options) client id, _, rfl, rfl⟩
    | stopBatching client id => exact ⟨.command .stop client id, _, rfl, rfl⟩
    | reportCompletedTrips distance memory =>
      exact ⟨.reportCompletedTrips distance memory, _, rfl, rfl⟩
    | engineUp supported => exact ⟨.engineUp supported, _, rfl, rfl⟩
    | answer r err distance =>
      have hr : r ∈ l.adapter.outstanding := by
        by_contra hr
        have hnone : l.adapter.step (.answer r err distance) = none := if_neg hr
        rw [show l.adapter.step (.answer r err distance) = some s' from hst] at hnone
        cases hnone
      obtain ⟨call, hcall, rfl⟩ := List.mem_map.mp (hmatch.mem_iff.mpr hr)
      exact ⟨.answer call err distance, _, rfl, if_pos hcall⟩

end BatchingLedger

end GpsHal
