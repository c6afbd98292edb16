import GpsHal.Batching.Adapter

/-!
# `BatchingAdapter` : a stop that fails

`stopBatching` erases the session before the engine has answered, and after a failure it saves the
session again.  What it saves are the options of the command, which are those of an update or, for a
stop, the default ones, and not the options that it has read before.

## Main definitions

* `SessionStop` : the commands that stop the batch of a session.
* `BatchingAdapter.Intact` : sessions, trips and the registration are as before.

## Main results

* `BatchingAdapter.failedStop_sessions` : what a failure leaves.
* `BatchingAdapter.failedStop_intact_iff` : the state is as before exactly if the options of the
  command are the saved ones.
-/

namespace GpsHal

/-- A command that stops the batch of a session, for good or in order to start it again. -/
inductive SessionStop where
  | stopBatching
  | updateBatchingOptions (options : BatchingOptions)
  deriving DecidableEq, Repr

namespace SessionStop

def event (client id : ℕ) : SessionStop → BatchingEvent
  | .stopBatching => .stopBatching client id
  | .updateBatchingOptions options => .updateBatchingOptions client id options

/-- The options that go with the command to the engine and back. -/
def options : SessionStop → BatchingOptions
  | .stopBatching => BatchingAdapter.defaultOptions
  | .updateBatchingOptions options => options

def restartNeeded : SessionStop → Bool
  | .stopBatching => false
  | .updateBatchingOptions _ => true

end SessionStop

namespace BatchingAdapter

variable {s t u : BatchingAdapter} {client id : ℕ}

/-- `t` has the sessions, with their options, the trips and the registration of `s`. -/
structure Intact (s t : BatchingAdapter) : Prop where
  mBatchingSessions : t.mBatchingSessions = s.mBatchingSessions
  mTripSessions : t.mTripSessions = s.mTripSessions
  batchFull : t.batchFull = s.batchFull

theorem step_answer {r : BatchingRequest} (h : r ∈ s.outstanding) (err : LocationError)
    (accumulatedDistance : ℕ) : s.step (.answer r err accumulatedDistance) =
      some ((s.take r).onAnswer r err accumulatedDistance) :=
  if_pos h

/-- For a session that is no trip both commands come to `stopBatching`, unless they are refused. -/
theorem step_stop_cases {cmd : SessionStop} (htrip : s.isTripSession id = false)
    (h : s.step (cmd.event client id) = some u) :
    u = s ∨ u = s.stopBatching client id cmd.restartNeeded cmd.options := by
  cases cmd with
  | stopBatching =>
    obtain rfl := Option.some.inj h
    unfold procStopBatching
    split
    · exact .inl rfl
    · rw [if_neg (Bool.eq_false_iff.mp htrip)]
      exact .inr rfl
  | updateBatchingOptions options =>
    obtain rfl := Option.some.inj h
    unfold procUpdateBatching
    split
    · exact .inl rfl
    · split
      · exact .inl rfl
      · exact .inr rfl

/-- A request of `stopBatching` : the session was saved, and is not any more. -/
theorem stopBatching_request {restartNeeded : Bool} {options : BatchingOptions}
    {r : BatchingRequest}
    (h : (s.stopBatching client id restartNeeded options).outstanding = s.outstanding ++ [r]) :
    ∃ saved, s.mBatchingSessions.find ⟨client, id⟩ = some saved ∧
      r = .stopBatching client id saved restartNeeded options ∧
      s.stopBatching client id restartNeeded options =
        (s.eraseBatchingSession client id).request r := by
  unfold stopBatching at h ⊢
  cases hfind : s.mBatchingSessions.find ⟨client, id⟩ with
  | none =>
    rw [hfind] at h
    exact absurd (List.self_eq_append_right.mp h) (List.cons_ne_nil _ _)
  | some saved =>
    rw [hfind] at h
    have hr := List.singleton_inj.mp (List.append_cancel_left h)
    exact ⟨saved, rfl, hr.symm, congrArg (s.eraseBatchingSession client id).request hr⟩

/-- What a failure leaves: the session is saved again, with the options of the command. -/
theorem failedStop_sessions {cmd : SessionStop} {r : BatchingRequest} {err : LocationError}
    {accumulatedDistance : ℕ} (htrip : s.isTripSession id = false)
    (hcmd : s.step (cmd.event client id) = some u) (hr : u.outstanding = s.outstanding ++ [r])
    (hanswer : u.step (.answer r err accumulatedDistance) = some t) (herr : err ≠ .SUCCESS) :
    t.mBatchingSessions =
        (s.mBatchingSessions.erase ⟨client, id⟩).insert ⟨client, id⟩ cmd.options ∧
      t.mTripSessions = s.mTripSessions ∧ t.batchFull = s.batchFull ∧
      ∃ saved, s.mBatchingSessions.find ⟨client, id⟩ = some saved := by
  rcases step_stop_cases htrip hcmd with rfl | rfl
  · exact absurd (List.self_eq_append_right.mp hr) (List.cons_ne_nil _ _)
  obtain ⟨saved, hsaved, hreq, hstop⟩ := stopBatching_request hr
  have hmem : r ∈ (s.stopBatching client id cmd.restartNeeded cmd.options).outstanding := by
    rw [hr]
    exact List.mem_append_right _ (List.mem_singleton_self r)
  have ht : ((s.stopBatching client id cmd.restartNeeded cmd.options).take r).onAnswer r err
      accumulatedDistance = t := by
    exact Option.some.inj ((step_answer hmem err accumulatedDistance).symm.trans hanswer)
  rw [hreq] at ht
  unfold onAnswer onStopBatching reportStop at ht
  simp only [if_pos herr, if_neg herr] at ht
  rw [← ht, hstop]
  exact ⟨rfl, rfl, rfl, saved, hsaved⟩

/-- A stop that fails leaves the state as it was exactly if the options of the command are the ones
that are saved. -/
theorem failedStop_intact_iff {cmd : SessionStop} {r : BatchingRequest} {err : LocationError}
    {accumulatedDistance : ℕ} (htrip : s.isTripSession id = false)
    (hcmd : s.step (cmd.event client id) = some u) (hr : u.outstanding = s.outstanding ++ [r])
    (hanswer : u.step (.answer r err accumulatedDistance) = some t) (herr : err ≠ .SUCCESS) :
    s.Intact t ↔ s.mBatchingSessions.find ⟨client, id⟩ = some cmd.options := by
  obtain ⟨hsessions, htrips, hfull, saved, hsaved⟩ :=
    failedStop_sessions htrip hcmd hr hanswer herr
  constructor
  · intro h
    rw [← h.mBatchingSessions, hsessions, OrdMap.find_insert, if_pos rfl]
  · intro h
    refine ⟨?_, htrips, hfull⟩
    rw [hsessions, OrdMap.insert_erase_of_find h]

/-- Options of a session that batches without reports. -/
def quietOptions : BatchingOptions := ⟨24, 1000, 0, .STANDALONE, 0, .NO_AUTO_REPORT⟩

/-- Such a session is started. -/
def startQuiet : List BatchingEvent :=
  [.engineUp true, .addClient 1 true, .startBatching 1 1 quietOptions,
    .answer (.startBatching 1 1 quietOptions) .SUCCESS 0]

/-- An update to the options that the session has leaves the state as it was. -/
theorem failedStop_intact_same_options : ∃ s u t, system.Run System.Free startQuiet s ∧
    s.step (SessionStop.event 1 1 (.updateBatchingOptions quietOptions)) = some u ∧
    u.step (.answer (.stopBatching 1 1 quietOptions true quietOptions) .GENERAL_FAILURE 0) = some t ∧
    s.Intact t := by
  refine ⟨_, _, _, System.run_foldlM rfl, rfl, rfl, ?_⟩
  exact (@failedStop_intact_iff _ _ _ 1 1 (.updateBatchingOptions quietOptions) _ _ _ (by decide) rfl
    rfl rfl (by decide)).mpr rfl

/-- A stop that fails leaves the session in the mode of the default options, in which it wants
reports, without the registration for them. -/
theorem failedStop_not_intact : ∃ s u t, system.Run System.Free startQuiet s ∧
    s.step (SessionStop.event 1 1 .stopBatching) = some u ∧
    u.step (.answer (.stopBatching 1 1 quietOptions false defaultOptions) .GENERAL_FAILURE 0) =
      some t ∧
    s.mBatchingSessions.find ⟨1, 1⟩ = some quietOptions ∧
    t.mBatchingSessions.find ⟨1, 1⟩ = some defaultOptions ∧
    t.autoReportBatchingSessionsCount = 1 ∧ t.batchFull = false ∧ ¬ s.Intact t := by
  refine ⟨_, _, _, System.run_foldlM rfl, rfl, rfl, by decide, by decide, by decide, by decide,
    fun h => ?_⟩
  have hfind := congrArg (OrdMap.find · ⟨1, 1⟩) h.mBatchingSessions
  exact absurd hfind (by decide)

end BatchingAdapter

end GpsHal
