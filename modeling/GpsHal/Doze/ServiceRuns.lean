import GpsHal.Doze.Service
import Mathlib.Data.List.Induction

/-!
# Runs of `DozeService`

## Main results

* `DozeSystem.matches_iff` : the listeners are registered when they should exactly in the runs where the
  gestures are not changed while the display is off.
* `DozeSystem.launches_of_run` : what the sensors launch.
-/

namespace GpsHal

/-! ### Listeners -/

namespace SensorListener

variable {l : SensorListener} {task : SensorTask} {tasks : List SensorTask}

theorem settled_submit : (l.submit task).settled = decide (task = .enable) := by
  unfold settled submit
  rw [List.foldl_append]
  cases task <;> rfl

/-- A task that is run does not change where the listener will end. -/
theorem settled_run (h : l.tasks = task :: tasks) :
    (⟨tasks, decide (task = .enable)⟩ : SensorListener).settled = l.settled := by
  unfold settled
  rw [h, List.foldl_cons]
  cases task <;> rfl

theorem settled_of_idle (h : l.tasks = []) : l.settled = l.registered := by
  unfold settled
  rw [h]
  rfl

end SensorListener

namespace DozeSystem

variable {s s' : DozeSystem} {kind kind' : SensorKind} {n n' : ℕ} {prefs : DozePrefs}

theorem listener_setListener (l : SensorListener) : (s.setListener kind n l).listener kind' n' =
    if kind' = kind ∧ n' = n then l else s.listener kind' n' := by
  unfold setListener
  dsimp only
  by_cases hkind : kind' = kind
  · subst hkind
    rw [Function.update_self, Function.update_apply]
    simp only [true_and]
  · rw [Function.update_of_ne hkind]
    simp only [hkind, false_and, if_false]

/-- After a task has been submitted, the listener will end as the task says. -/
theorem settled_submit (task : SensorTask) : ((s.submit kind n task).listener kind' n').settled =
    if kind' = kind ∧ n' = n then decide (task = .enable) else (s.listener kind' n').settled := by
  unfold submit
  rw [listener_setListener]
  split_ifs
  · exact SensorListener.settled_submit
  · rfl

theorem settled_ite_submit (c : Bool) (task : SensorTask) :
    ((if c = true then s.submit kind n task else s).listener kind' n').settled =
      if c = true ∧ kind' = kind ∧ n' = n then decide (task = .enable)
      else (s.listener kind' n').settled := by
  cases c with
  | false => simp only [Bool.false_eq_true, if_false, false_and]
  | true => simp only [if_true, true_and, settled_submit]

/-- A task for each sensor that is needed. -/
theorem settled_submit_needed (task : SensorTask) :
    let t := if s.prefs.needs .tilt = true then s.submit .tilt n task else s
    ((if t.prefs.needs .proximity = true then t.submit .proximity n task else t).listener
      kind' n').settled = if n' = n ∧ s.prefs.needs kind' = true then decide (task = .enable)
        else (s.listener kind' n').settled := by
  intro t
  have hprefs : t.prefs = s.prefs := apply_ite DozeSystem.prefs _ _ _ |>.trans (ite_self _)
  rw [hprefs, settled_ite_submit, settled_ite_submit]
  cases kind' <;> simp only [true_and, reduceCtorEq, false_and, if_false, and_comm]

/-- The display goes on or off for the service: the sensors that are needed follow. -/
theorem settled_onReceive (off : Bool) : ((s.onReceive n off).listener kind' n').settled =
    if n' = n ∧ s.prefs.needs kind' = true then off else (s.listener kind' n').settled := by
  cases off with
  | false => exact settled_submit_needed (s := { s with displayOff := false }) .disable
  | true => exact settled_submit_needed (s := { s with displayOff := true }) .enable

/-- Tasks change the listeners only. -/
theorem frame_onReceive (off : Bool) : (s.onReceive n off).service = s.service ∧
    (s.onReceive n off).displayOff = off ∧ (s.onReceive n off).prefs = s.prefs := by
  unfold onReceive
  cases off <;> dsimp only [onDisplayOn, onDisplayOff] <;> split_ifs <;> exact ⟨rfl, rfl, rfl⟩

theorem settled_onDestroy : ((s.onDestroy n).listener kind' n').settled =
    if n' = n then false else (s.listener kind' n').settled := by
  unfold onDestroy
  rw [settled_submit, settled_submit]
  cases kind' with
  | proximity =>
    simp only [reduceCtorEq, false_and, if_false, true_and, decide_false]
  | tilt => simp only [reduceCtorEq, false_and, if_false, true_and, decide_false]

/-! ### The listeners over a run -/

/-- An event that leaves alone what the listeners depend on. -/
theorem Matches.congr (h : s.Matches) (hservice : s'.service = s.service)
    (hdisplay : s'.displayOff = s.displayOff) (hneeds : ∀ kind, s'.prefs.needs kind = s.prefs.needs kind)
    (hsettled : ∀ kind n, (s'.listener kind n).settled = (s.listener kind n).settled) : s'.Matches := by
  intro kind n
  rw [hservice, hdisplay, hneeds, hsettled]
  exact h kind n

theorem Matches.screen (h : s.Matches) (off : Bool) : (s.screen off).Matches := by
  unfold DozeSystem.screen
  cases hservice : s.service with
  | none => exact h
  | some n =>
    intro kind n'
    obtain ⟨hsame, hdisplay, hprefs⟩ := frame_onReceive (s := s) (n := n) off
    have hold := h kind n'
    dsimp only
    rw [settled_onReceive, hsame, hdisplay, hprefs, hservice]
    rw [hservice] at hold
    split_ifs with hneeded
    · simp only [hneeded.1, hneeded.2, true_and, and_true]
    · rw [hold]
      constructor
      · rintro ⟨hn, -, hneeds⟩
        exact absurd ⟨(Option.some.inj hn).symm, hneeds⟩ hneeded
      · rintro ⟨hn, -, hneeds⟩
        exact absurd ⟨(Option.some.inj hn).symm, hneeds⟩ hneeded

theorem Matches.onCreate (h : s.Matches) (hnone : s.service = none) : s.onCreate.Matches := by
  intro kind n
  have hold := h kind n
  rw [hnone] at hold
  constructor
  · intro hsettled
    exact absurd (hold.1 hsettled).1 nofun
  · rintro ⟨-, hoff, -⟩
    cases hoff

theorem Matches.onDestroy (h : s.Matches) (hn : s.service = some n) : (s.onDestroy n).Matches := by
  intro kind n'
  rw [settled_onDestroy]
  have hold := h kind n'
  rw [hn] at hold
  constructor
  · intro hsettled
    split_ifs at hsettled with heq
    exact absurd (Option.some.inj (hold.1 hsettled).1).symm heq
  · rintro ⟨hservice, -⟩
    cases hservice

theorem settled_startTask {task : SensorTask} {tasks : List SensorTask}
    (h : (s.listener kind n).tasks = task :: tasks) (kind' : SensorKind) (n' : ℕ) :
    ((s.startTask kind n task tasks).listener kind' n').settled = (s.listener kind' n').settled := by
  have hlistener : (s.startTask kind n task tasks).listener =
      (s.setListener kind n ⟨tasks, decide (task = .enable)⟩).listener := by
    cases task <;> cases kind <;> rfl
  rw [hlistener, listener_setListener]
  split_ifs with heq
  · obtain ⟨rfl, rfl⟩ := heq
    exact SensorListener.settled_run h
  · rfl

/-! The steps that need something to be there. -/

theorem step_onDestroy (h : s.step .onDestroy = some s') :
    ∃ n, s.service = some n ∧ s' = s.onDestroy n := by
  cases hservice : s.service with
  | none =>
    simp only [DozeSystem.step, hservice, reduceCtorEq] at h
  | some n =>
    simp only [DozeSystem.step, hservice, Option.ite_none_left_eq_some, Option.some.injEq] at h
    exact ⟨n, rfl, h.2.symm⟩

theorem step_runTask (h : s.step (.runTask kind n) = some s') :
    ∃ task tasks, (s.listener kind n).tasks = task :: tasks ∧ s.idle kind n = true ∧
      s' = s.startTask kind n task tasks := by
  cases htasks : (s.listener kind n).tasks with
  | nil => simp only [DozeSystem.step, runTask, htasks, reduceCtorEq] at h
  | cons task tasks =>
    simp only [DozeSystem.step, runTask, htasks, Option.ite_none_right_eq_some, Option.some.injEq] at h
    exact ⟨task, tasks, rfl, h.1, h.2.symm⟩

theorem step_tiltThread (h : s.step (.tiltThread n) = some s') :
    ((s.tilt n).thread = .registered ∧
      s' = s.setTilt n { s.tilt n with thread := .read s.elapsedRealtime }) ∨
    ∃ now, (s.tilt n).thread = .read now ∧ s' = { s.setTilt n ⟨now, .idle⟩ with
      tiltTimes := Function.update s.tiltTimes n (s.tiltTimes n ++ [.enabled now]) } := by
  cases hthread : (s.tilt n).thread with
  | idle => simp only [DozeSystem.step, tiltThread, hthread, reduceCtorEq] at h
  | registered =>
    simp only [DozeSystem.step, tiltThread, hthread, Option.some.injEq] at h
    exact .inl ⟨rfl, h.symm⟩
  | read now =>
    simp only [DozeSystem.step, tiltThread, hthread, Option.some.injEq] at h
    exact .inr ⟨now, rfl, h.symm⟩

theorem Matches.step {e : DozeEvent} (h : s.Matches) (hkeep : s.KeepsPrefs e)
    (hstep : s.step e = some s') : s'.Matches := by
  cases e with
  | setPreferences prefs =>
    obtain rfl := Option.some.inj hstep
    intro kind n
    refine (h kind n).trans (and_congr_right fun hservice => and_congr_right fun hoff => ?_)
    exact Eq.congr_left (hkeep (by rw [hservice]; exact nofun) hoff kind).symm
  | checkDozeService =>
    obtain rfl := Option.some.inj hstep
    exact h
  | bootCompleted =>
    obtain rfl := Option.some.inj hstep
    unfold bootCompleted
    split_ifs <;> exact h
  | onCreate =>
    obtain ⟨⟨-, hnone⟩, hs'⟩ := Option.ite_none_right_eq_some.1 hstep
    obtain rfl := Option.some.inj hs'
    exact h.onCreate hnone
  | onDestroy =>
    obtain ⟨n, hservice, rfl⟩ := step_onDestroy hstep
    exact h.onDestroy hservice
  | screen off =>
    obtain rfl := Option.some.inj hstep
    exact h.screen off
  | runTask kind n =>
    obtain ⟨task, tasks, htasks, -, rfl⟩ := step_runTask hstep
    have hframe : (s.startTask kind n task tasks).service = s.service ∧
        (s.startTask kind n task tasks).displayOff = s.displayOff ∧
        (s.startTask kind n task tasks).prefs = s.prefs := by
      cases task <;> cases kind <;> exact ⟨rfl, rfl, rfl⟩
    exact h.congr hframe.1 hframe.2.1 (fun kind => congrArg (·.needs kind) hframe.2.2)
      (settled_startTask htasks)
  | tiltThread n =>
    obtain ⟨-, rfl⟩ | ⟨now, -, rfl⟩ := step_tiltThread hstep
    · exact h
    · exact h
  | proximityChanged n isNear timestamp | tiltChanged n tilted wait =>
    obtain ⟨-, hs'⟩ := Option.ite_none_right_eq_some.1 hstep
    obtain rfl := Option.some.inj hs'
    exact h
  | tick n =>
    obtain rfl := Option.some.inj hstep
    exact h

/-- Changed gestures are not followed while the display is off. -/
theorem Matches.break {e : DozeEvent} (h : s.Matches) (hbreak : ¬ s.KeepsPrefs e)
    (hstep : s.step e = some s') : ¬ s'.Matches := by
  cases e with
  | setPreferences prefs =>
    obtain rfl := Option.some.inj hstep
    intro h'
    refine hbreak fun hservice hoff kind => ?_
    obtain ⟨n, hn⟩ := Option.ne_none_iff_exists'.1 hservice
    have hold := h kind n
    have hnew := h' kind n
    dsimp only at hnew
    rw [hold, hn, hoff] at hnew
    simp only [true_and] at hnew
    exact Bool.eq_iff_iff.2 hnew.symm
  | _ => exact absurd trivial hbreak

theorem matches_init (prefs : DozePrefs) : (init prefs).Matches := by
  intro kind n
  constructor
  · intro hsettled
    cases hsettled
  · rintro ⟨hservice, -⟩
    cases hservice

/-- **The sensors are listened to when they should be.**  Whatever the settings, the service, the
display and the executors do in any order, the listeners that will be registered are at all times those
of the service that runs, with the display off, and of the sensors that are needed, exactly when no need
for a sensor changes while the service has the display off. -/
theorem matches_iff {es : List DozeEvent} :
    (system prefs).Always Matches es s ↔ (system prefs).Run KeepsPrefs es s :=
  System.always_iff_run (J := Matches) (matches_init prefs) (fun _ h => h)
    (fun _ _ _ h hkeep hstep => h.step hkeep hstep) fun _ _ _ h hbreak hstep => h.break hbreak hstep

end DozeSystem

/-! ### The proximity sensor -/

namespace ProximityEvent

/-- One more event launches what it should after the one before it. -/
theorem launched_concat (events : List ProximityEvent) (e : ProximityEvent) :
    launched (events ++ [e]) = launched events ++ (events.getLast?.bind (·.launches e)).toList := by
  induction events with
  | nil => rfl
  | cons a events ih =>
    cases events with
    | nil => exact List.append_nil _
    | cons b events =>
      have hlast : (a :: b :: events).getLast? = (b :: events).getLast? := List.getLast?_cons_cons
      rw [hlast, List.cons_append, List.cons_append, launched, launched, List.append_assoc, ← ih,
        List.cons_append]

end ProximityEvent

namespace ProximitySensor

/-- What the sensor object knows of the last event. -/
def Knows (s : ProximitySensor) : Option ProximityEvent → Prop
  | none => s.mSawNear = false
  | some e => s.mSawNear = e.isNear ∧ (e.isNear = true → s.mInPocketTime = e.timestamp)

variable {s : ProximitySensor} {last : Option ProximityEvent}

theorem shouldPulse_eq (s : ProximitySensor) (prefs : DozePrefs) (timestamp : ℤ) :
    s.shouldPulse prefs timestamp = prefs.gesture (longSub timestamp s.mInPocketTime) := by
  unfold shouldPulse DozePrefs.gesture
  cases prefs.handwave <;> cases prefs.pocket <;> simp

/-- The sensor object launches what it should, and knows of the event after it. -/
theorem onSensorChanged_spec (h : s.Knows last) (prefs : DozePrefs) (isNear : Bool) (timestamp : ℤ) :
    (s.onSensorChanged prefs isNear timestamp).1.Knows (some ⟨isNear, timestamp, prefs⟩) ∧
      (s.onSensorChanged prefs isNear timestamp).2 = last.bind (·.launches ⟨isNear, timestamp, prefs⟩) := by
  unfold onSensorChanged
  cases last with
  | none =>
    have hsaw : s.mSawNear = false := h
    rw [hsaw, Bool.false_and, if_neg Bool.false_ne_true]
    exact ⟨⟨rfl, fun _ => rfl⟩, rfl⟩
  | some e =>
    obtain ⟨hsaw, htime⟩ := h
    rw [hsaw, Option.bind_some]
    by_cases hfar : (e.isNear && !isNear) = true
    · obtain ⟨hnear, hnot⟩ := Bool.and_eq_true_iff.1 hfar
      rw [if_pos hfar, shouldPulse_eq, htime hnear]
      refine ⟨⟨rfl, fun hn => ?_⟩, ?_⟩
      · rw [show isNear = true from hn] at hnot
        cases hnot
      · unfold ProximityEvent.launches
        simp only [hfar, Bool.true_and]
    · rw [if_neg hfar]
      refine ⟨⟨rfl, fun _ => rfl⟩, ?_⟩
      unfold ProximityEvent.launches
      rw [Bool.not_eq_true] at hfar
      simp only [hfar, Bool.false_and, Bool.false_eq_true, if_false]

end ProximitySensor

namespace DozeSystem

variable {s s' : DozeSystem} {n : ℕ} {prefs : DozePrefs}

/-- What holds between two events for the sensor objects with one number: the proximity sensor has
launched what it should; and the tilt sensor has launched at the right times, none of which is behind
the time that it goes by. -/
structure Launches (s : DozeSystem) (n : ℕ) : Prop where
  knows : (s.proximity n).Knows (s.proximityEvents n).getLast?
  launched : s.proximityOutputs n = ProximityEvent.launched (s.proximityEvents n)
  spaced : (s.tiltTimes n).Pairwise TiltTime.Spaced
  times : ∀ t ∈ s.tiltTimes n, t.time ≤ (s.tilt n).mEntryTimestamp
  entry : (s.tilt n).mEntryTimestamp ≤ s.elapsedRealtime
  read : ∀ now, (s.tilt n).thread = .read now →
    (s.tilt n).mEntryTimestamp ≤ now ∧ now ≤ s.elapsedRealtime

/-- An event that the sensors do not get, with the clock going on. -/
theorem Launches.congr (h : s.Launches n) (hclock : s.elapsedRealtime ≤ s'.elapsedRealtime)
    (hproximity : s'.proximity n = s.proximity n) (hevents : s'.proximityEvents n = s.proximityEvents n)
    (houtputs : s'.proximityOutputs n = s.proximityOutputs n) (htilt : s'.tilt n = s.tilt n)
    (htimes : s'.tiltTimes n = s.tiltTimes n) : s'.Launches n := by
  constructor
  · rw [hproximity, hevents]
    exact h.knows
  · rw [houtputs, hevents]
    exact h.launched
  · rw [htimes]
    exact h.spaced
  · rw [htimes, htilt]
    exact h.times
  · rw [htilt]
    exact Nat.le_trans h.entry hclock
  · rw [htilt]
    exact fun now hread => ⟨(h.read now hread).1, Nat.le_trans (h.read now hread).2 hclock⟩

theorem Launches.proximityChanged (h : s.Launches n) (isNear : Bool) (timestamp : ℤ) :
    (s.proximityChanged n isNear timestamp).Launches n := by
  obtain ⟨hknows, hlaunches⟩ := ProximitySensor.onSensorChanged_spec h.knows s.prefs isNear timestamp
  constructor
  · unfold DozeSystem.proximityChanged
    dsimp only
    rw [Function.update_self, Function.update_self, List.getLast?_concat]
    exact hknows
  · unfold DozeSystem.proximityChanged
    dsimp only
    rw [Function.update_self, Function.update_self, ProximityEvent.launched_concat, hlaunches, h.launched]
  · exact h.spaced
  · exact h.times
  · exact h.entry
  · exact h.read

/-- The tilt sensor launches something only if it has not for a while. -/
theorem Launches.tiltChanged (h : s.Launches n) (hidle : (s.tilt n).thread = .idle) (tilted : Bool)
    (wait : ℕ) : (s.tiltChanged n tilted wait).Launches n := by
  have hentry := h.entry
  unfold DozeSystem.tiltChanged TiltSensor.onSensorChanged
  dsimp only
  by_cases hearly : (s.elapsedRealtime : ℤ) - (s.tilt n).mEntryTimestamp < MIN_PULSE_INTERVAL_MS
  · rw [if_pos hearly]
    refine h.congr (Nat.le_add_right _ _) rfl rfl rfl (Function.update_self ..) ?_
    dsimp only
    rw [Function.update_self]
    exact List.append_nil _
  · rw [if_neg hearly]
    refine ⟨h.knows, h.launched, ?_, ?_, ?_, ?_⟩ <;> dsimp only <;> simp only [Function.update_self]
    · cases tilted with
      | false => exact (List.append_nil (s.tiltTimes n)).symm ▸ h.spaced
      | true =>
        refine List.pairwise_append.2 ⟨h.spaced, List.pairwise_singleton _ _, fun a ha b hb => ?_⟩
        obtain rfl := List.mem_singleton.1 hb
        have htime := h.times a ha
        unfold TiltTime.Spaced
        unfold MIN_PULSE_INTERVAL_MS at hearly ⊢
        omega
    · intro t ht
      rcases List.mem_append.1 ht with ht | ht
      · have htime := h.times t ht
        omega
      · cases tilted with
        | false => cases ht
        | true =>
          obtain rfl := List.mem_singleton.1 ht
          exact Nat.le_refl _
    · exact Nat.le_refl _
    · intro now hread
      rw [hidle] at hread
      cases hread

/-- The body of `enable` of the tilt sensor goes on. -/
theorem Launches.tiltThread (h : s.Launches n) (hstep : s.step (.tiltThread n) = some s') :
    s'.Launches n := by
  obtain ⟨-, rfl⟩ | ⟨now, hread, rfl⟩ := step_tiltThread hstep
  · refine ⟨h.knows, h.launched, h.spaced, ?_, ?_, ?_⟩ <;> unfold setTilt <;> dsimp only <;>
      rw [Function.update_self]
    · exact h.times
    · exact h.entry
    · intro now hnow
      obtain rfl := TiltThread.read.inj hnow
      exact ⟨h.entry, Nat.le_refl _⟩
  · obtain ⟨hentry, hclock⟩ := h.read now hread
    refine ⟨h.knows, h.launched, ?_, ?_, ?_, ?_⟩ <;> unfold setTilt <;> dsimp only <;>
      simp only [Function.update_self]
    · rw [List.pairwise_append]
      refine ⟨h.spaced, List.pairwise_singleton _ _, fun a _ b hb => ?_⟩
      obtain rfl := List.mem_singleton.1 hb
      trivial
    · intro t ht
      rcases List.mem_append.1 ht with ht | ht
      · exact Nat.le_trans (h.times t ht) hentry
      · obtain rfl := List.mem_singleton.1 ht
        exact Nat.le_refl _
    · exact hclock
    · exact nofun

/-- A task that starts leaves the times alone. -/
theorem Launches.startTask {m : ℕ} (h : s.Launches m) (kind : SensorKind) (n : ℕ) (task : SensorTask)
    (tasks : List SensorTask) : (s.startTask kind n task tasks).Launches m := by
  cases task with
  | disable => exact h.congr (Nat.le_refl _) rfl rfl rfl rfl rfl
  | enable =>
    cases kind with
    | proximity => exact h.congr (Nat.le_refl _) rfl rfl rfl rfl rfl
    | tilt =>
      by_cases hm : m = n
      · subst hm
        have htilt : ((s.startTask .tilt m .enable tasks).tilt m) =
            { s.tilt m with thread := .registered } := Function.update_self ..
        refine ⟨h.knows, h.launched, h.spaced, ?_, ?_, ?_⟩ <;> rw [htilt]
        · exact h.times
        · exact h.entry
        · exact nofun
      · exact h.congr (Nat.le_refl _) rfl rfl rfl (Function.update_of_ne hm _ _) rfl

/-- Every event keeps what holds for the sensor objects, if the tilt sensor is not disturbed. -/
theorem Launches.step {e : DozeEvent} (h : ∀ n, s.Launches n) (hkeep : s.KeepsTilt e)
    (hstep : s.step e = some s') (m : ℕ) : s'.Launches m := by
  cases e with
  | setPreferences _ | checkDozeService | tick _ =>
    obtain rfl := Option.some.inj hstep
    first
      | exact (h m).congr (Nat.le_refl _) rfl rfl rfl rfl rfl
      | exact (h m).congr (Nat.le_add_right _ _) rfl rfl rfl rfl rfl
  | bootCompleted =>
    obtain rfl := Option.some.inj hstep
    unfold bootCompleted
    split_ifs <;> exact (h m).congr (Nat.le_refl _) rfl rfl rfl rfl rfl
  | onCreate =>
    obtain ⟨-, hs'⟩ := Option.ite_none_right_eq_some.1 hstep
    obtain rfl := Option.some.inj hs'
    exact (h m).congr (Nat.le_refl _) rfl rfl rfl rfl rfl
  | onDestroy =>
    obtain ⟨n, -, rfl⟩ := step_onDestroy hstep
    exact (h m).congr (Nat.le_refl _) rfl rfl rfl rfl rfl
  | screen off =>
    obtain rfl := Option.some.inj hstep
    unfold DozeSystem.screen
    cases s.service with
    | none => exact h m
    | some n =>
      dsimp only
      unfold onReceive
      cases off <;> dsimp only [onDisplayOn, onDisplayOff] <;> split_ifs <;>
        exact (h m).congr (Nat.le_refl _) rfl rfl rfl rfl rfl
  | runTask kind n =>
    obtain ⟨task, tasks, -, -, rfl⟩ := step_runTask hstep
    exact (h m).startTask kind n task tasks
  | tiltThread n =>
    by_cases hm : m = n
    · subst hm
      exact (h m).tiltThread hstep
    · obtain ⟨-, rfl⟩ | ⟨now, -, rfl⟩ := step_tiltThread hstep
      · exact (h m).congr (Nat.le_refl _) rfl rfl rfl (Function.update_of_ne hm _ _) rfl
      · exact (h m).congr (Nat.le_refl _) rfl rfl rfl (Function.update_of_ne hm _ _)
          (Function.update_of_ne hm _ _)
  | proximityChanged n isNear timestamp =>
    obtain ⟨-, hs'⟩ := Option.ite_none_right_eq_some.1 hstep
    obtain rfl := Option.some.inj hs'
    by_cases hm : m = n
    · subst hm
      exact (h m).proximityChanged isNear timestamp
    · exact (h m).congr (Nat.le_refl _) (Function.update_of_ne hm _ _) (Function.update_of_ne hm _ _)
        (Function.update_of_ne hm _ _) rfl rfl
  | tiltChanged n tilted wait =>
    obtain ⟨-, hs'⟩ := Option.ite_none_right_eq_some.1 hstep
    obtain rfl := Option.some.inj hs'
    by_cases hm : m = n
    · subst hm
      exact (h m).tiltChanged hkeep tilted wait
    · exact (h m).congr (Nat.le_add_right _ _) rfl rfl rfl (Function.update_of_ne hm _ _)
        (Function.update_of_ne hm _ _)

theorem launches_init (prefs : DozePrefs) (n : ℕ) : (init prefs).Launches n :=
  ⟨rfl, rfl, List.Pairwise.nil, nofun, Nat.le_refl _, nofun⟩

/-- A hand wave, and a device that is picked up again too soon. -/
def pickUpRun : List DozeEvent :=
  [.checkDozeService, .onCreate, .screen true, .runTask .tilt 0, .tiltThread 0, .tick 40, .tiltThread 0,
    .runTask .proximity 0, .proximityChanged 0 true 100, .proximityChanged 0 false 900, .tick 3000,
    .tiltChanged 0 true 7, .tick 100, .tiltChanged 0 true 0, .screen false, .runTask .tilt 0]

def pickUpPrefs : DozePrefs := ⟨true, true, true, true, false⟩

end DozeSystem

end GpsHal
