import GpsHal.Util.Timer

/-!
# No timer fires early

A callback has to come at or after the expiry time that was fixed when the timer was started, at
most once for each start, and not after the remove message of its stop.

The last two hold of every run: a callback is preceded by a `stop` that takes the delegate from its
client, and nothing can take it twice.  The first one needs two conditions.  `MsgTimerExpire` pops
the top of the heap without looking at its time, so the timer whose kernel timer posted the message
must not have been replaced by one that is not due.  And between reading `mClient` and taking the
lock of the client the timer may be stopped and started again.

## Main definitions

* `TimerSystem.Punctual` : the steps of the message thread that meet these two conditions.
* `TimerLog.Apart` : the order of two log entries.

## Main results

* `TimerSystem.fires_on_time` : in every run a delegate is called back at most once and not after it
  is deleted, and in every punctual run it is called back on time.
* `TimerSystem.fires_early` : a run that calls a timer back a minute early.
-/

namespace GpsHal

/-- A later entry `y` is not the callback of a delegate that the entry `x` is about. -/
def TimerLog.Apart (x y : TimerLog) : Prop :=
  ∀ timer time, y = .timeOutCallback timer time →
    x ≠ .removed timer ∧ ∀ time', x ≠ .timeOutCallback timer time'

/-- The delegate that a log entry is about. -/
def TimerLog.timer : TimerLog → LocTimerDelegate
  | .timeOutCallback timer _ | .removed timer => timer

namespace LocTimerDelegate

/-- The delegate was started before `time` : no `unsigned int` of milliseconds leads further, and
the difference of the seconds fits an `int`. -/
structure Within (timer : LocTimerDelegate) (time : Timespec) : Prop where
  sec : timer.mFutureTime.tv_sec ≤ time.tv_sec + 4294968
  nsec : timer.mFutureTime.tv_nsec < 1000000000

theorem Within.mono {timer : LocTimerDelegate} {time time' : Timespec} (h : timer.Within time)
    (hle : time.Le time') : timer.Within time' := by
  refine ⟨h.sec.trans ?_, h.nsec⟩
  unfold Timespec.Le at hle
  omega

theorem within_futureTime (id client : ℕ) (now : BootTime) (timeOutInMs : UInt32) (c : Bool)
    (ticking : futureTime now.time timeOutInMs ≠ .zero) :
    Within ⟨id, client, futureTime now.time timeOutInMs, c, ticking⟩ now.time := by
  have hms : timeOutInMs.toNat < 4294967296 := timeOutInMs.toNat_lt
  have hnow := now.normal
  constructor
  · unfold futureTime
    dsimp only
    split_ifs <;> dsimp only <;> omega
  · unfold futureTime
    dsimp only
    split_ifs <;> dsimp only <;> omega

/-- A delegate that a timer of now does not outrank is due. -/
theorem Within.due {timer : LocTimerDelegate} {now : Timespec} (h : timer.Within now)
    (hnow : now.tv_nsec < 1000000000) (hrank : ¬ 0 < rankTimes now timer.mFutureTime) :
    timer.mFutureTime.Le now := by
  obtain ⟨hsec, hnsec⟩ := h
  unfold rankTimes toInt Int.bmod at hrank
  unfold Timespec.Le
  dsimp only at hrank
  split_ifs at hrank <;> omega

end LocTimerDelegate

namespace TimerSystem

/-- An expire message finds nothing in the heap, or a top that is due or was stopped; and the timer
that `client->stop()` takes is the one that was popped. -/
def Punctual (s : TimerSystem) : TimerStep → Prop
  | .receive => ∀ c rest top, s.queue = .expire c :: rest →
      (s.container c).getSoonestTimer = some top →
      top.mFutureTime.Le s.clock.time ∨ top ∈ s.stopped
  | .stopClient => ∀ c now timer client current, s.msgTask = .stopping c now timer client →
      s.mTimer client = some current → current = timer
  | _ => True

/-! ### What the parts of a step leave alone -/

/-- Only the containers and the message thread have changed. -/
structure Frame (s s' : TimerSystem) : Prop where
  clock : s'.clock = s.clock
  queue : s'.queue = s.queue
  mTimer : s'.mTimer = s.mTimer
  stopped : s'.stopped = s.stopped
  created : s'.created = s.created
  log : s'.log = s.log

/-- The message thread is about to call a client back. -/
def CallingBack (s : TimerSystem) (timer : LocTimerDelegate) : Prop :=
  ∃ c now, s.msgTask = .callingBack c now timer

section Keep

variable {s s' : TimerSystem}

theorem frame_setContainer (s : TimerSystem) (c : Bool) (k : LocTimerContainer)
    (task : TimerMsgTask) : Frame s { s.setContainer c k with msgTask := task } :=
  ⟨setContainer_clock s c k, setContainer_queue s c k, setContainer_mTimer s c k,
    setContainer_stopped s c k, setContainer_created s c k, setContainer_log s c k⟩

theorem frame_next (s : TimerSystem) (c : Bool) (now : Timespec) : Frame s (s.next c now) := by
  rcases next_cases s c now with he | ⟨timer, -, -, he⟩
  · rw [he]; exact ⟨rfl, rfl, rfl, rfl, rfl, rfl⟩
  · rw [he]; exact frame_setContainer s c _ _

theorem not_callingBack_next (s : TimerSystem) (c : Bool) (now : Timespec)
    (timer : LocTimerDelegate) : ¬ (s.next c now).CallingBack timer := by
  rintro ⟨_, _, hcalling⟩
  rcases next_cases s c now with he | ⟨_, -, -, he⟩
  · rw [he] at hcalling; cases hcalling
  · rw [he] at hcalling; cases hcalling

theorem frame_procRemove (s : TimerSystem) (timer : LocTimerDelegate) :
    Frame { s with log := s.log ++ [.removed timer] } (s.procRemove timer) := by
  unfold procRemove
  dsimp only
  split_ifs
  all_goals
    exact ⟨setContainer_clock s _ _, setContainer_queue s _ _, setContainer_mTimer s _ _,
      setContainer_stopped s _ _, setContainer_created s _ _, rfl⟩

theorem frame_procExpire (s : TimerSystem) (c : Bool) : Frame s (s.procExpire c) := by
  rcases procExpire_cases s c with ⟨-, he⟩ | ⟨timer, -, he⟩
  · rw [he]; exact ⟨rfl, rfl, rfl, rfl, rfl, rfl⟩
  · rw [he]; exact frame_setContainer s c _ _

theorem not_callingBack_proc (s : TimerSystem) (msg : TimerMsg) (timer : LocTimerDelegate) :
    ¬ (s.proc msg).CallingBack timer := by
  rintro ⟨_, _, hcalling⟩
  cases msg with
  | push => cases hcalling
  | remove removed =>
    dsimp only [proc, procRemove] at hcalling
    split_ifs at hcalling
    all_goals cases hcalling
  | expire c =>
    dsimp only [proc] at hcalling
    rcases procExpire_cases s c with ⟨-, he⟩ | ⟨_, -, he⟩
    · rw [he] at hcalling; cases hcalling
    · rw [he] at hcalling; cases hcalling

/-! ### At most one callback -/

/-- The invariant of all runs: a delegate that a client holds is the client's own and has not been
stopped, and a delegate that is in the log or to be removed has.  The delegate of the next callback
is not in the log. -/
structure Accounted (s : TimerSystem) : Prop where
  mTimer : ∀ client timer, s.mTimer client = some timer →
    timer.client = client ∧ timer.id < s.created ∧ timer ∉ s.stopped
  stopped : ∀ timer ∈ s.stopped, timer.id < s.created
  queue : ∀ timer, TimerMsg.remove timer ∈ s.queue → timer ∈ s.stopped
  log : ∀ entry ∈ s.log, entry.timer ∈ s.stopped
  calling : ∀ timer, s.CallingBack timer →
    timer ∈ s.stopped ∧ ∀ entry ∈ s.log, entry.timer ≠ timer
  apart : s.log.Pairwise TimerLog.Apart

theorem Accounted.frame (h : s.Accounted) (hf : Frame s s')
    (hcalling : ∀ timer, s'.CallingBack timer → s.CallingBack timer) : s'.Accounted where
  mTimer := by rw [hf.mTimer, hf.created, hf.stopped]; exact h.mTimer
  stopped := by rw [hf.created, hf.stopped]; exact h.stopped
  queue := by rw [hf.queue, hf.stopped]; exact h.queue
  log := by rw [hf.log, hf.stopped]; exact h.log
  calling := fun timer hc => by rw [hf.log, hf.stopped]; exact h.calling timer (hcalling timer hc)
  apart := by rw [hf.log]; exact h.apart

/-- The queue may change as long as no remove message is added. -/
theorem Accounted.setQueue (h : s.Accounted) (queue : List TimerMsg)
    (hq : ∀ timer, TimerMsg.remove timer ∈ queue → TimerMsg.remove timer ∈ s.queue) :
    ({ s with queue := queue } : TimerSystem).Accounted :=
  { h with queue := fun timer hm => h.queue timer (hq timer hm) }

/-- A new entry of the log is about a stopped delegate, and a callback is the first entry of its
delegate. -/
theorem Accounted.addLog (h : s.Accounted) (entry : TimerLog) (hstopped : entry.timer ∈ s.stopped)
    (hcalling : ∀ timer, ¬ s'.CallingBack timer)
    (hcallback : ∀ timer time, entry = .timeOutCallback timer time →
      ∀ entry' ∈ s.log, entry'.timer ≠ timer)
    (hf : Frame { s with log := s.log ++ [entry] } s') : s'.Accounted where
  mTimer := by rw [hf.mTimer, hf.created, hf.stopped]; exact h.mTimer
  stopped := by rw [hf.created, hf.stopped]; exact h.stopped
  queue := by rw [hf.queue, hf.stopped]; exact h.queue
  log := by
    rw [hf.log, hf.stopped]
    intro entry' hm
    rcases List.mem_append.1 hm with hm | hm
    · exact h.log entry' hm
    · exact List.mem_singleton.1 hm ▸ hstopped
  calling := fun timer hc => absurd hc (hcalling timer)
  apart := by
    rw [hf.log]
    refine List.pairwise_append.2 ⟨h.apart, List.pairwise_singleton _ _, fun x hx y hy => ?_⟩
    obtain rfl := List.mem_singleton.1 hy
    intro timer time hy
    have hne := hcallback timer time hy x hx
    exact ⟨fun he => hne (by rw [he]; rfl), fun time' he => hne (by rw [he]; rfl)⟩

theorem accounted_start (h : s.Accounted) (client : ℕ) (timeOutInMs : UInt32)
    (wakeOnExpire : Bool) : (s.start client timeOutInMs wakeOnExpire).Accounted := by
  unfold TimerSystem.start
  cases hclient : s.mTimer client with
  | some timer => exact h
  | none =>
    refine { h with mTimer := fun k timer hk => ?_, stopped := fun timer hm => ?_,
                    queue := fun timer hm => h.queue timer ?_ }
    · -- the new delegate is not among the stopped ones
      dsimp only [sendMsg] at hk
      split_ifs at hk with hkc
      · obtain rfl := Option.some.inj hk
        exact ⟨hkc.symm, Nat.lt_succ_self _, fun hm => absurd (h.stopped _ hm) (lt_irrefl _)⟩
      · obtain ⟨hown, hid, hnot⟩ := h.mTimer k timer hk
        exact ⟨hown, Nat.lt_succ_of_lt hid, hnot⟩
    · exact Nat.lt_succ_of_lt (h.stopped timer hm)
    · simpa [sendMsg] using hm

/-- A stop takes a delegate from its client; the message thread may go on to call it back. -/
theorem accounted_stop (h : s.Accounted) (client : ℕ) (task : TimerMsgTask)
    (htask : ∀ c now timer, task = .callingBack c now timer →
      s.mTimer client = some timer ∨ s.msgTask = task) :
    ({ (s.stop client).1 with msgTask := task } : TimerSystem).Accounted := by
  unfold TimerSystem.stop
  cases hclient : s.mTimer client with
  | none =>
    refine { h with calling := ?_ }
    rintro timer ⟨c, now, hc⟩
    refine h.calling timer ⟨c, now, ?_⟩
    exact ((htask c now timer hc).resolve_left fun he => nomatch hclient ▸ he).trans hc
  | some timer =>
    obtain ⟨hown, hid, hnot⟩ := h.mTimer client timer hclient
    refine ⟨fun k timer' hk => ?_, fun timer' hm => ?_, fun timer' hm => ?_, fun entry hm => ?_, ?_,
      h.apart⟩
    · dsimp only [sendMsg] at hk ⊢
      split_ifs at hk with hkc
      obtain ⟨hown', hid', hnot'⟩ := h.mTimer k timer' hk
      refine ⟨hown', hid', fun hm => ?_⟩
      rcases List.mem_cons.1 hm with rfl | hm
      · exact hkc (hown'.symm.trans hown)
      · exact hnot' hm
    · rcases List.mem_cons.1 hm with rfl | hm
      · exact hid
      · exact h.stopped timer' hm
    · rcases List.mem_append.1 hm with hm | hm
      · exact List.mem_cons_of_mem _ (h.queue timer' hm)
      · cases List.mem_singleton.1 hm
        exact List.mem_cons_self
    · exact List.mem_cons_of_mem _ (h.log entry hm)
    · rintro timer' ⟨c, now, hc⟩
      rcases htask c now timer' hc with he | he
      · obtain rfl : timer = timer' := Option.some.inj (hclient.symm.trans he)
        exact ⟨List.mem_cons_self, fun entry hm heq => hnot (heq ▸ h.log entry hm)⟩
      · obtain ⟨hmem, hlog⟩ := h.calling timer' ⟨c, now, he.trans hc⟩
        exact ⟨List.mem_cons_of_mem _ hmem, hlog⟩

theorem accounted_pollCall (h : s.Accounted) (c : Bool) (k : LocTimerContainer)
    (task : TimerPollTask) :
    ({ s.setContainer c k with pollTask := task } : TimerSystem).Accounted := by
  have hf := frame_setContainer s c k s.msgTask
  exact h.frame ⟨hf.clock, hf.queue, hf.mTimer, hf.stopped, hf.created, hf.log⟩
    fun timer ⟨c', now, hc⟩ => ⟨c', now, (setContainer_msgTask s c k).symm.trans hc⟩

/-- Every step keeps the invariant. -/
theorem Accounted.step {e : TimerStep} (h : s.Accounted) (hst : s.step e = some s') :
    s'.Accounted := by
  cases e with
  | tick now =>
    obtain ⟨-, rfl⟩ := step_tick hst
    exact { h with }
  | start client timeOutInMs wakeOnExpire =>
    exact Option.some.inj hst ▸ accounted_start h client timeOutInMs wakeOnExpire
  | stop client =>
    obtain rfl := Option.some.inj hst
    exact accounted_stop h client (s.stop client).1.msgTask fun _ _ _ _ =>
      .inr (stop_msgTask s client).symm
  | receive =>
    obtain ⟨msg, queue, -, hqueue, rfl⟩ := step_receive hst
    have h₀ := h.setQueue queue fun timer hm => hqueue ▸ List.mem_cons_of_mem msg hm
    have hno := not_callingBack_proc { s with queue := queue } msg
    cases msg with
    | push timer =>
      exact h₀.frame (frame_setContainer _ timer.mContainer _ _) fun timer' hc => absurd hc (hno _)
    | remove timer =>
      have hstopped : timer ∈ s.stopped := h.queue timer (hqueue ▸ List.mem_cons_self)
      exact h₀.addLog (.removed timer) hstopped hno (fun _ _ he => nomatch he)
        (frame_procRemove _ timer)
    | expire c => exact h₀.frame (frame_procExpire _ c) fun timer' hc => absurd hc (hno _)
  | readClient =>
    obtain ⟨c, now, timer, htask, ⟨-, rfl⟩ | ⟨-, rfl⟩⟩ := step_readClient hst
    · exact h.frame (frame_next s c now) fun timer' hc =>
        absurd hc (not_callingBack_next s c now timer')
    · exact h.frame ⟨rfl, rfl, rfl, rfl, rfl, rfl⟩ fun timer' ⟨_, _, hc⟩ => nomatch hc
  | stopClient =>
    obtain ⟨c, now, popped, client, htask, ⟨-, rfl⟩ | ⟨timer, hclient, rfl⟩⟩ := step_stopClient hst
    · exact h.frame (frame_next s c now) fun timer' hc =>
        absurd hc (not_callingBack_next s c now timer')
    · refine accounted_stop h client _ fun c' now' timer' he => .inl ?_
      cases he
      exact hclient
  | timeOutCallback =>
    obtain ⟨c, now, timer, htask, rfl⟩ := step_timeOutCallback hst
    obtain ⟨hstopped, hfirst⟩ := h.calling timer ⟨c, now, htask⟩
    refine h.addLog (.timeOutCallback timer s.clock.time) hstopped
      (not_callingBack_next _ c now) (fun timer' _ he => ?_) (frame_next _ c now)
    cases he
    exact hfirst
  | sysCall =>
    obtain ⟨c, call, todo, htask, rfl⟩ := step_sysCall hst
    exact h.frame (frame_setContainer s c _ _) fun timer' ⟨_, _, hc⟩ => nomatch hc
  | finish =>
    obtain ⟨-, rfl⟩ := step_finish hst
    exact h.frame ⟨rfl, rfl, rfl, rfl, rfl, rfl⟩ fun timer' ⟨_, _, hc⟩ => nomatch hc
  | wake events =>
    obtain ⟨-, rfl⟩ := step_wake hst
    exact h.frame ⟨rfl, rfl, rfl, rfl, rfl, rfl⟩ fun timer' => id
  | poll =>
    obtain ⟨phase, c, rest, -, rfl⟩ := step_poll hst
    cases phase with
    | woken => exact accounted_pollCall h c _ _
    | disarmed => exact accounted_pollCall h c _ _
    | unpolled =>
      have h₀ := h.setQueue (s.queue ++ [.expire c]) fun timer hm => by simpa using hm
      exact { h₀ with }

theorem accounted_initial (boot : BootTime) : (initial boot).Accounted where
  mTimer := fun _ _ => nofun
  stopped := fun _ => nofun
  queue := fun _ => nofun
  log := fun _ => nofun
  calling := fun _ ⟨_, _, hc⟩ => nomatch hc
  apart := .nil


/-! ### No early callback -/

/-- In the loop of `MsgTimerExpire` : `now` is in the past, and what is in the heap was started
before it. -/
structure Loop (s : TimerSystem) (c : Bool) (now : Timespec) : Prop where
  past : now.Le s.clock.time
  normal : now.tv_nsec < 1000000000
  within : ∀ timer ∈ (s.container c).heap.elems, timer.Within now

/-- What is known while a popped timer expires: it is due, or its callback will not come. -/
def TaskDue (s : TimerSystem) : TimerMsgTask → Prop
  | .expiring c now timer | .stopping c now timer _ =>
    s.Loop c now ∧ (timer.mFutureTime.Le now ∨ timer ∈ s.stopped)
  | .callingBack c now timer => s.Loop c now ∧ timer.mFutureTime.Le now
  | .idle | .updating _ _ => True

/-- The timers in the queue and in the heaps were started in the past, and so far all callbacks came
on time. -/
structure Dated (s : TimerSystem) : Prop where
  queue : ∀ timer, TimerMsg.push timer ∈ s.queue → timer.Within s.clock.time
  heap : ∀ b, ∀ timer ∈ (s.container b).heap.elems, timer.Within s.clock.time
  log : ∀ timer time, TimerLog.timeOutCallback timer time ∈ s.log → timer.mFutureTime.Le time

/-- The invariant of the punctual runs. -/
structure Due (s : TimerSystem) : Prop extends s.Dated where
  task : s.TaskDue s.msgTask

/-- The heaps of `s'` hold no more than those of `s`. -/
def HeapLe (s' s : TimerSystem) : Prop :=
  ∀ b, ∀ timer ∈ (s'.container b).heap.elems, timer ∈ (s.container b).heap.elems

theorem heapLe_setContainer {c : Bool} {k : LocTimerContainer}
    (h : ∀ timer ∈ k.heap.elems, timer ∈ (s.container c).heap.elems) :
    HeapLe (s.setContainer c k) s := by
  intro b timer hm
  rw [container_setContainer] at hm
  split_ifs at hm with hb
  · exact hb ▸ h timer hm
  · exact hm

theorem heapLe_procRemove (s : TimerSystem) (timer : LocTimerDelegate) :
    HeapLe (s.procRemove timer) s := by
  unfold procRemove
  dsimp only
  split_ifs
  all_goals exact heapLe_setContainer fun _ hm => LocHeap.mem_of_mem_remove hm

theorem Dated.mono (h : s.Dated) (hclock : s.clock.time.Le s'.clock.time)
    (hq : ∀ timer, TimerMsg.push timer ∈ s'.queue → TimerMsg.push timer ∈ s.queue)
    (hheap : HeapLe s' s) (hlog : ∀ timer time, TimerLog.timeOutCallback timer time ∈ s'.log →
      TimerLog.timeOutCallback timer time ∈ s.log) : s'.Dated where
  queue := fun timer hm => (h.queue timer (hq timer hm)).mono hclock
  heap := fun b timer hm => (h.heap b timer (hheap b timer hm)).mono hclock
  log := fun timer time hm => h.log timer time (hlog timer time hm)

theorem Dated.frame (h : s.Dated) (hf : Frame s s') (hheap : HeapLe s' s) : s'.Dated :=
  h.mono (hf.clock ▸ Timespec.Le.refl _) (fun _ hm => hf.queue ▸ hm) hheap
    fun _ _ hm => hf.log ▸ hm

theorem Loop.mono {c : Bool} {now : Timespec} (h : s.Loop c now)
    (hclock : s.clock.time.Le s'.clock.time) (hheap : HeapLe s' s) : s'.Loop c now where
  past := h.past.trans hclock
  normal := h.normal
  within := fun timer hm => h.within timer (hheap c timer hm)

theorem TaskDue.mono {task : TimerMsgTask} (h : s.TaskDue task)
    (hclock : s.clock.time.Le s'.clock.time) (hheap : HeapLe s' s)
    (hstopped : ∀ timer ∈ s.stopped, timer ∈ s'.stopped) : s'.TaskDue task := by
  cases task with
  | idle | updating => trivial
  | expiring c now timer | stopping c now timer _ =>
    exact ⟨h.1.mono hclock hheap, h.2.imp_right (hstopped timer)⟩
  | callingBack c now timer => exact ⟨h.1.mono hclock hheap, h.2⟩

/-- A timer is popped that is due or has been stopped. -/
theorem due_popped (h : s.Dated) {c : Bool} {now : Timespec} (hloop : s.Loop c now)
    {timer : LocTimerDelegate} (hdue : timer.mFutureTime.Le now ∨ timer ∈ s.stopped) :
    (s.popped c now timer).Due := by
  have hheap : HeapLe (s.popped c now timer) s :=
    heapLe_setContainer fun _ hm => LocHeap.mem_of_mem_pop hm
  have hf : Frame s (s.popped c now timer) := frame_setContainer s c _ _
  exact ⟨h.frame hf hheap, hloop.mono (hf.clock ▸ Timespec.Le.refl _) hheap, hf.stopped ▸ hdue⟩

/-- What the loop pops after the first timer is due. -/
theorem due_next (h : s.Dated) {c : Bool} {now : Timespec} (hloop : s.Loop c now) :
    (s.next c now).Due := by
  rcases next_cases s c now with he | ⟨timer, htop, hrank, he⟩
  · rw [he]
    exact ⟨⟨h.queue, h.heap, h.log⟩, trivial⟩
  · rw [he]
    have hwithin := hloop.within timer (LocHeap.mem_of_peek htop)
    exact due_popped h hloop (.inl (hwithin.due hloop.normal hrank))

theorem due_start (h : s.Due) (client : ℕ) (timeOutInMs : UInt32) (wakeOnExpire : Bool) :
    (s.start client timeOutInMs wakeOnExpire).Due := by
  unfold TimerSystem.start
  split
  · exact h
  · refine ⟨⟨fun timer hm => ?_, h.heap, h.log⟩,
      h.task.mono (Timespec.Le.refl _) (fun _ _ => id) fun _ => id⟩
    rcases List.mem_append.1 hm with hm | hm
    · exact h.queue timer hm
    · cases List.mem_singleton.1 hm
      exact LocTimerDelegate.within_futureTime _ _ _ _ _ _

theorem due_stop (h : s.Due) (client : ℕ) : (s.stop client).1.Due := by
  unfold TimerSystem.stop
  split
  · exact h
  · refine ⟨⟨fun timer hm => ?_, h.heap, h.log⟩,
      h.task.mono (Timespec.Le.refl _) (fun _ _ => id) fun _ => List.mem_cons_of_mem _⟩
    exact h.queue timer (by simpa [sendMsg] using hm)

theorem due_receive (h : s.Due) (hg : s.Punctual .receive) (hst : s.step .receive = some s') :
    s'.Due := by
  obtain ⟨msg, queue, -, hqueue, rfl⟩ := step_receive hst
  set s₀ : TimerSystem := { s with queue := queue } with hs₀
  have h₀ : s₀.Dated := h.toDated.mono (Timespec.Le.refl _)
    (fun _ hm => hqueue ▸ List.mem_cons_of_mem msg hm) (fun _ _ => id) fun _ _ => id
  cases msg with
  | push timer =>
    have htimer : timer.Within s.clock.time := h.queue timer (hqueue ▸ List.mem_cons_self)
    have hf : Frame s₀ (s₀.procPush timer) := frame_setContainer s₀ timer.mContainer _ _
    refine ⟨⟨fun timer' hm => ?_, fun b timer' hm => ?_, fun timer' time hm => ?_⟩, trivial⟩
    · exact hf.clock ▸ h₀.queue timer' (hf.queue ▸ hm)
    · rw [show (s₀.proc (.push timer)).clock = s.clock from hf.clock]
      replace hm : timer' ∈ ((s₀.setContainer timer.mContainer _).container b).heap.elems := hm
      rw [container_setContainer] at hm
      split_ifs at hm with hb
      · rcases Multiset.mem_cons.1 (HeapNode.elems_push _ _ ▸ hm) with rfl | hm
        · exact htimer
        · exact h₀.heap _ timer' hm
      · exact h₀.heap b timer' hm
    · exact h₀.log timer' time (hf.log ▸ hm)
  | remove timer =>
    have hf := frame_procRemove s₀ timer
    refine ⟨h₀.mono (hf.clock ▸ Timespec.Le.refl _) (fun _ hm => hf.queue ▸ hm)
      (heapLe_procRemove s₀ timer) fun timer' time hm => ?_, ?_⟩
    · rw [show (s₀.proc (.remove timer)).log = s₀.log ++ [.removed timer] from hf.log] at hm
      simpa using hm
    · dsimp only [proc, procRemove]
      split_ifs
      all_goals trivial
  | expire c =>
    rcases procExpire_cases s₀ c with ⟨-, he⟩ | ⟨timer, htop, he⟩
    · rw [show s₀.proc (.expire c) = s₀.procExpire c from rfl, he]
      exact ⟨⟨h₀.queue, h₀.heap, h₀.log⟩, trivial⟩
    · rw [show s₀.proc (.expire c) = s₀.procExpire c from rfl, he]
      exact due_popped h₀ ⟨Timespec.Le.refl _, s.clock.normal, h.heap c⟩
        (hg c queue timer hqueue htop)

theorem due_stopClient (hacc : s.Accounted) (h : s.Due) (hg : s.Punctual .stopClient)
    (hst : s.step .stopClient = some s') : s'.Due := by
  obtain ⟨c, now, popped, client, htask, ⟨-, rfl⟩ | ⟨timer, hclient, rfl⟩⟩ := step_stopClient hst
  all_goals
    obtain ⟨hloop, hdue⟩ : s.TaskDue (.stopping c now popped client) := htask ▸ h.task
  · exact due_next h.toDated hloop
  · obtain rfl := hg c now popped client timer htask hclient
    have hnot := (hacc.mTimer client timer hclient).2.2
    have hd := due_stop h client
    refine ⟨⟨hd.queue, hd.heap, hd.log⟩, hloop.mono ?_ ?_, hdue.resolve_right hnot⟩
    · simp only [TimerSystem.stop, hclient]
      exact Timespec.Le.refl _
    · simp only [TimerSystem.stop, hclient]
      exact fun _ _ => id

theorem due_timeOutCallback (h : s.Due) (hst : s.step .timeOutCallback = some s') : s'.Due := by
  obtain ⟨c, now, timer, htask, rfl⟩ := step_timeOutCallback hst
  obtain ⟨hloop, hdue⟩ : s.TaskDue (.callingBack c now timer) := htask ▸ h.task
  set s₀ : TimerSystem := { s with log := s.log ++ [.timeOutCallback timer s.clock.time] }
  refine due_next (s := s₀) ⟨h.queue, h.heap, fun timer' time hm => ?_⟩
    ⟨hloop.past, hloop.normal, hloop.within⟩
  rcases List.mem_append.1 hm with hm | hm
  · exact h.log timer' time hm
  · cases List.mem_singleton.1 hm
    exact hdue.trans hloop.past

/-- A system call changes no heap. -/
theorem heapLe_sysCall (s : TimerSystem) (c : Bool) (call : TimerSysCall) :
    HeapLe (s.setContainer c ((s.container c).sysCall call)) s :=
  heapLe_setContainer fun _ hm => by cases call <;> exact hm

theorem due_poll (h : s.Due) (hst : s.step .poll = some s') : s'.Due := by
  obtain ⟨phase, c, rest, -, rfl⟩ := step_poll hst
  have hcall : ∀ call task, ({ s.setContainer c ((s.container c).sysCall call) with
      pollTask := task } : TimerSystem).Due := fun call task => by
    have hf := frame_setContainer s c ((s.container c).sysCall call) s.msgTask
    have hheap := heapLe_sysCall s c call
    refine ⟨h.toDated.mono (hf.clock ▸ Timespec.Le.refl _) (fun _ hm => hf.queue ▸ hm) hheap
      fun _ _ hm => hf.log ▸ hm, ?_⟩
    rw [show ({ s.setContainer c ((s.container c).sysCall call) with pollTask := task } :
      TimerSystem).msgTask = s.msgTask from setContainer_msgTask s c _]
    exact h.task.mono (hf.clock ▸ Timespec.Le.refl _) hheap fun _ hm => hf.stopped ▸ hm
  cases phase with
  | woken => exact hcall _ _
  | disarmed => exact hcall _ _
  | unpolled =>
    refine ⟨⟨fun timer hm => h.queue timer ?_, h.heap, h.log⟩,
      h.task.mono (Timespec.Le.refl _) (fun _ _ => id) fun _ => id⟩
    simpa [TimerSystem.poll, sendMsg] using hm

/-- Punctual steps keep the invariant. -/
theorem Due.step {e : TimerStep} (hacc : s.Accounted) (h : s.Due) (hg : s.Punctual e)
    (hst : s.step e = some s') : s'.Due := by
  cases e with
  | tick now =>
    obtain ⟨hle, rfl⟩ := step_tick hst
    exact ⟨h.toDated.mono hle (fun _ => id) (fun _ _ => id) fun _ _ => id,
      h.task.mono hle (fun _ _ => id) fun _ => id⟩
  | start client timeOutInMs wakeOnExpire =>
    exact Option.some.inj hst ▸ due_start h client timeOutInMs wakeOnExpire
  | stop client => exact Option.some.inj hst ▸ due_stop h client
  | receive => exact due_receive h hg hst
  | readClient =>
    obtain ⟨c, now, timer, htask, ⟨-, rfl⟩ | ⟨-, rfl⟩⟩ := step_readClient hst
    all_goals obtain ⟨hloop, hdue⟩ : s.TaskDue (.expiring c now timer) := htask ▸ h.task
    · exact due_next h.toDated hloop
    · exact ⟨⟨h.queue, h.heap, h.log⟩, ⟨hloop.past, hloop.normal, hloop.within⟩, hdue⟩
  | stopClient => exact due_stopClient hacc h hg hst
  | timeOutCallback => exact due_timeOutCallback h hst
  | sysCall =>
    obtain ⟨c, call, todo, -, rfl⟩ := step_sysCall hst
    exact ⟨h.toDated.frame (frame_setContainer s c _ _) (heapLe_sysCall s c call), trivial⟩
  | finish =>
    obtain ⟨-, rfl⟩ := step_finish hst
    exact ⟨⟨h.queue, h.heap, h.log⟩, trivial⟩
  | wake events =>
    obtain ⟨-, rfl⟩ := step_wake hst
    exact ⟨⟨h.queue, h.heap, h.log⟩, h.task.mono (Timespec.Le.refl _) (fun _ _ => id) fun _ => id⟩
  | poll => exact due_poll h hst

end Keep

theorem due_initial (boot : BootTime) : (initial boot).Due where
  queue := fun _ => nofun
  heap := fun b _ hm => by cases b <;> cases hm
  log := fun _ _ => nofun
  task := trivial

/-- **No timer fires early.**  In every run a delegate is called back at most once, and not after
its remove message has been processed.  In every punctual run it is called back at or after its
expiry time. -/
theorem fires_on_time {boot : BootTime} {es : List TimerStep} {s : TimerSystem} :
    ((system boot).Run System.Free es s → s.log.Pairwise TimerLog.Apart) ∧
      ((system boot).Run Punctual es s → ∀ timer time,
        TimerLog.timeOutCallback timer time ∈ s.log → timer.mFutureTime.Le time) := by
  constructor
  · intro h
    exact (h.invariant (accounted_initial boot) fun _ _ _ h _ hst => h.step hst).apart
  · intro h
    have hinv : s.Accounted ∧ s.Due := h.invariant (I := fun s => s.Accounted ∧ s.Due)
      ⟨accounted_initial boot, due_initial boot⟩
      fun _ _ _ h hg hst => ⟨h.1.step hst, h.2.step h.1 hg hst⟩
    exact hinv.2.log

/-- A timer of ten milliseconds is started and called back ten milliseconds later. -/
theorem fires_on_time_once :
    ∃ s, (system ⟨⟨1, 0⟩, by decide, by decide⟩).Run Punctual
        [.start 0 10 true, .receive, .sysCall, .sysCall, .finish,
          .tick ⟨⟨1, 10000000⟩, by decide, by decide⟩, .wake [true], .poll, .poll, .poll, .receive,
          .readClient, .stopClient, .timeOutCallback] s ∧
      s.log.length = 1 ∧ s.log.Pairwise TimerLog.Apart ∧
      ∀ timer time, TimerLog.timeOutCallback timer time ∈ s.log → timer.mFutureTime.Le time := by
  have h₁ : (system ⟨⟨1, 0⟩, by decide, by decide⟩).Run Punctual
      [.start 0 10 true] _ := .snoc .nil trivial rfl
  have h₂ := h₁.snoc (e := TimerStep.receive) (fun c rest top hq => by cases hq) rfl
  have h₃ := h₂.snoc (e := TimerStep.sysCall) trivial rfl
  have h₄ := h₃.snoc (e := TimerStep.sysCall) trivial rfl
  have h₅ := h₄.snoc (e := TimerStep.finish) trivial rfl
  have h₆ := h₅.snoc (e := TimerStep.tick ⟨⟨1, 10000000⟩, by decide, by decide⟩) trivial rfl
  have h₇ := h₆.snoc (e := TimerStep.wake [true]) trivial rfl
  have h₈ := h₇.snoc (e := TimerStep.poll) trivial rfl
  have h₉ := h₈.snoc (e := TimerStep.poll) trivial rfl
  have h₁₀ := h₉.snoc (e := TimerStep.poll) trivial rfl
  have h₁₁ := h₁₀.snoc (e := TimerStep.receive) (fun c rest top hq htop => by
    cases hq; cases htop; exact .inl (by decide)) rfl
  have h₁₂ := h₁₁.snoc (e := TimerStep.readClient) trivial rfl
  have h₁₃ := h₁₂.snoc (e := TimerStep.stopClient) (fun c now timer client current htask hc => by
    cases htask; cases hc; rfl) rfl
  have h₁₄ := h₁₃.snoc (e := TimerStep.timeOutCallback) trivial rfl
  exact ⟨_, h₁₄, rfl, fires_on_time.1 h₁₄.free, fires_on_time.2 h₁₄⟩

/-- A timer that is due is stopped after its kernel timer has expired, and before the expire message
is processed.  The message pops the next timer, which is not due for a minute. -/
theorem fires_early :
    ∃ s timer, (system ⟨⟨1, 0⟩, by decide, by decide⟩).Run System.Free
        [.start 0 0 true, .start 1 60000 true, .receive, .sysCall, .sysCall, .finish, .receive,
          .finish, .wake [true], .stop 0, .poll, .poll, .poll, .receive, .sysCall, .sysCall, .finish,
          .receive, .readClient, .stopClient, .timeOutCallback] s ∧
      TimerLog.timeOutCallback timer ⟨1, 0⟩ ∈ s.log ∧ timer.mFutureTime = ⟨61, 0⟩ := by
  have h₁ : (system ⟨⟨1, 0⟩, by decide, by decide⟩).Run System.Free
      [.start 0 0 true] _ := .snoc .nil trivial rfl
  have h₂ := h₁.snoc (e := TimerStep.start 1 60000 true) trivial rfl
  have h₃ := h₂.snoc (e := TimerStep.receive) trivial rfl
  have h₄ := h₃.snoc (e := TimerStep.sysCall) trivial rfl
  have h₅ := h₄.snoc (e := TimerStep.sysCall) trivial rfl
  have h₆ := h₅.snoc (e := TimerStep.finish) trivial rfl
  have h₇ := h₆.snoc (e := TimerStep.receive) trivial rfl
  have h₈ := h₇.snoc (e := TimerStep.finish) trivial rfl
  have h₉ := h₈.snoc (e := TimerStep.wake [true]) trivial rfl
  have h₁₀ := h₉.snoc (e := TimerStep.stop 0) trivial rfl
  have h₁₁ := h₁₀.snoc (e := TimerStep.poll) trivial rfl
  have h₁₂ := h₁₁.snoc (e := TimerStep.poll) trivial rfl
  have h₁₃ := h₁₂.snoc (e := TimerStep.poll) trivial rfl
  have h₁₄ := h₁₃.snoc (e := TimerStep.receive) trivial rfl
  have h₁₅ := h₁₄.snoc (e := TimerStep.sysCall) trivial rfl
  have h₁₆ := h₁₅.snoc (e := TimerStep.sysCall) trivial rfl
  have h₁₇ := h₁₆.snoc (e := TimerStep.finish) trivial rfl
  have h₁₈ := h₁₇.snoc (e := TimerStep.receive) trivial rfl
  have h₁₉ := h₁₈.snoc (e := TimerStep.readClient) trivial rfl
  have h₂₀ := h₁₉.snoc (e := TimerStep.stopClient) trivial rfl
  refine ⟨_, _, h₂₀.snoc (e := TimerStep.timeOutCallback) trivial rfl,
    List.mem_append_right _ (List.mem_singleton_self _), ?_⟩
  decide +kernel

end TimerSystem

end GpsHal
