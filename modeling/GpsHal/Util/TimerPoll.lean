import GpsHal.Util.Timer

/-!
# No timer is lost

After each message the kernel timer of a container with timers has to be armed for the top of the
heap and be in the epoll set, or an expire message has to be in the queue; and the kernel timer of
an empty heap has to be off.

`updateSoonestTime(NULL)` does nothing for an empty heap, although it has a branch that turns the
kernel timer off.  So a message that takes the last timer off a heap leaves the kernel timer as it
finds it.

## Main definitions

* `TimerSystem.NoneLost` : what has to hold after a message.
* `TimerSystem.Expiring` : the poll thread is in the middle of `LocTimerContainer::expire`.
* `TimerSystem.Undisturbed` : the steps that do not empty a heap and leave its kernel timer on.

## Main results

* `TimerSystem.no_timer_lost` : after each message of an undisturbed run no timer is lost.
* `TimerSystem.timer_left_armed` : a timer that is started and stopped leaves the kernel timer on.
-/

namespace GpsHal

namespace LocTimerContainer

/-- The kernel timer is armed for the top of the heap and in the epoll set. -/
def Armed (c : LocTimerContainer) : Prop :=
  ∃ top, c.getSoonestTimer = some top ∧ c.armed = some top.mFutureTime ∧ c.polled = true

/-- The kernel timer is off: neither armed nor in the epoll set. -/
structure Off (c : LocTimerContainer) : Prop where
  armed : c.armed = none
  polled : c.polled = false

theorem getSoonestTimer_eq_none {c : LocTimerContainer} :
    c.getSoonestTimer = none ↔ c.heap = .nil := LocHeap.peek_eq_none

end LocTimerContainer

namespace TimerSystem

/-- No timer of a container is lost: a heap with timers is served, and the kernel timer of an empty
one is off. -/
def NoneLost (s : TimerSystem) (b : Bool) : Prop :=
  ((s.container b).heap ≠ .nil → (s.container b).Armed ∨ TimerMsg.expire b ∈ s.queue) ∧
    ((s.container b).heap = .nil → (s.container b).Off)

/-- The poll thread has turned the kernel timer off and is about to post an expire message. -/
def Expiring (s : TimerSystem) (b : Bool) : Prop :=
  ∃ phase rest, s.pollTask = .expiring phase b rest ∧ phase ≠ .woken

/-- A message that takes the last timer off a heap finds the kernel timer off: when it removes the
only timer, and when the last timer that it popped has expired. -/
def Undisturbed (s : TimerSystem) : TimerStep → Prop
  | .receive => ∀ timer rest, s.queue = .remove timer :: rest →
      (s.container timer.mContainer).heap.elems = {timer} → (s.container timer.mContainer).Off
  | .readClient => ∀ c now timer, s.msgTask = .expiring c now timer → timer ∈ s.stopped →
      (s.container c).heap = .nil → (s.container c).Off
  | .stopClient => ∀ c now timer client, s.msgTask = .stopping c now timer client →
      s.mTimer client = none → (s.container c).heap = .nil → (s.container c).Off
  | .timeOutCallback => ∀ c now timer, s.msgTask = .callingBack c now timer →
      (s.container c).heap = .nil → (s.container c).Off
  | _ => True

/-! ### The invariant -/

/-- An expire message is in the queue, or the poll thread is on its way to post it. -/
def Pending (s : TimerSystem) (b : Bool) : Prop := TimerMsg.expire b ∈ s.queue ∨ s.Expiring b

/-- No message of the container is being worked on. -/
structure Covered (s : TimerSystem) (b : Bool) : Prop where
  served : (s.container b).heap ≠ .nil → (s.container b).Armed ∨ s.Pending b
  off : (s.container b).heap = .nil → (s.container b).Off

/-- The system calls that are left will arm the kernel timer for the top of the heap. -/
def WillArm (c : LocTimerContainer) (todo : List TimerSysCall) : Prop :=
  ∃ top, c.getSoonestTimer = some top ∧
    (todo = [.addPoll, .settime top.mFutureTime] ∨
      todo = [.settime top.mFutureTime] ∧ c.polled = true ∨
      todo = [] ∧ c.armed = some top.mFutureTime ∧ c.polled = true)

/-- The end of a message of the container. -/
structure Promised (s : TimerSystem) (b : Bool) (todo : List TimerSysCall) : Prop where
  served : (s.container b).heap ≠ .nil → WillArm (s.container b) todo ∨
    s.Pending b
  off : (s.container b).heap = .nil → todo = [] ∧ (s.container b).Off

/-- What is owed to a container, depending on what the message thread is doing. -/
def Owed (s : TimerSystem) (b : Bool) : TimerMsgTask → Prop
  | .idle => s.Covered b
  | .updating c todo => if b = c then s.Promised b todo else s.Covered b
  | .expiring c _ _ | .stopping c _ _ _ | .callingBack c _ _ => b ≠ c → s.Covered b

/-- The invariant of the undisturbed runs. -/
def Served (s : TimerSystem) : Prop := ∀ b, s.Owed b s.msgTask

section Keep

variable {s s' : TimerSystem} {b c : Bool} {todo : List TimerSysCall}

/-- What is owed depends on the container, and an expire message may come. -/
theorem Covered.mono (h : s.Covered b) (hc : s'.container b = s.container b)
    (hp : s.Pending b → s'.Pending b) : s'.Covered b :=
  ⟨fun hne => by rw [hc] at hne ⊢; exact (h.served hne).imp_right hp,
    fun hnil => by rw [hc] at hnil ⊢; exact h.off hnil⟩

theorem Promised.mono (h : s.Promised b todo) (hc : s'.container b = s.container b)
    (hp : s.Pending b → s'.Pending b) : s'.Promised b todo :=
  ⟨fun hne => by rw [hc] at hne ⊢; exact (h.served hne).imp_right hp,
    fun hnil => by rw [hc] at hnil ⊢; exact h.off hnil⟩

theorem Owed.mono {task : TimerMsgTask} (h : s.Owed b task) (hc : s'.container b = s.container b)
    (hp : s.Pending b → s'.Pending b) : s'.Owed b task := by
  cases task with
  | idle => exact Covered.mono h hc hp
  | updating c todo =>
    dsimp only [Owed] at h ⊢
    split_ifs at h ⊢
    · exact h.mono hc hp
    · exact h.mono hc hp
  | expiring | stopping | callingBack => exact fun hne => (h hne).mono hc hp

/-- The poll thread turns a kernel timer off when it will post an expire message. -/
theorem Owed.turnOff {task : TimerMsgTask} (h : s.Owed b task)
    (hheap : (s'.container b).heap = (s.container b).heap)
    (hoff : (s.container b).Off → (s'.container b).Off) (hp : s'.Pending b) : s'.Owed b task := by
  have hcov : s.Covered b → s'.Covered b := fun hc =>
    ⟨fun _ => .inr hp, fun hnil => hoff (hc.off (hheap ▸ hnil))⟩
  cases task with
  | idle => exact hcov h
  | updating c todo =>
    dsimp only [Owed] at h ⊢
    split_ifs at h ⊢
    · exact ⟨fun _ => .inr hp, fun hnil => (h.off (hheap ▸ hnil)).imp_right hoff⟩
    · exact hcov h
  | expiring | stopping | callingBack => exact fun hne => hcov (h hne)

/-- `updateSoonestTime(NULL)` promises to serve the heap. -/
theorem promised_update (hoff : (s.container b).heap = .nil → (s.container b).Off) :
    s.Promised b ((s.container b).updateSoonestTime none) := by
  unfold LocTimerContainer.updateSoonestTime
  cases htop : (s.container b).getSoonestTimer with
  | none =>
    have hnil := LocTimerContainer.getSoonestTimer_eq_none.1 htop
    exact ⟨fun hne => absurd hnil hne, fun _ => ⟨by simp, hoff hnil⟩⟩
  | some top =>
    have hne : (s.container b).heap ≠ .nil := fun hnil => by
      rw [LocTimerContainer.getSoonestTimer_eq_none.2 hnil] at htop; cases htop
    exact ⟨fun _ => .inl ⟨top, htop, .inl (by simp)⟩, fun hnil => absurd hnil hne⟩

/-! ### The steps of the message thread -/

/-- The message thread works on container `c` : nothing is owed to it, and the others are as they
were. -/
structure WorksOn (s s' : TimerSystem) (c : Bool) : Prop where
  others : ∀ b, b ≠ c → s.Covered b
  same : ∀ b, b ≠ c → s'.container b = s.container b
  queue : ∀ msg ∈ s.queue, msg ∈ s'.queue
  pollTask : s'.pollTask = s.pollTask

theorem WorksOn.pending (h : WorksOn s s' c) (hp : s.Pending b) : s'.Pending b :=
  hp.imp (h.queue _) fun hp => by unfold Expiring at *; rwa [h.pollTask]

theorem WorksOn.covered (h : WorksOn s s' c) (hb : b ≠ c) : s'.Covered b :=
  (h.others b hb).mono (h.same b hb) h.pending

/-- The last part of a message. -/
theorem WorksOn.served (h : WorksOn s s' c) (htask : s'.msgTask = .updating c todo)
    (hp : s'.Promised c todo) : s'.Served := by
  intro b
  rw [htask]
  dsimp only [Owed]
  split_ifs with hb
  · exact hb ▸ hp
  · exact h.covered hb

/-- A timer is popped. -/
theorem WorksOn.popped (h : WorksOn s s' c) (now : Timespec) (timer : LocTimerDelegate) :
    (s'.popped c now timer).Served := by
  intro b hb
  refine (h.others b hb).mono ?_ fun hp => ?_
  · rw [← h.same b hb]
    exact (container_setContainer s' c b _).trans (if_neg hb)
  · simpa [TimerSystem.popped, Pending, Expiring] using h.pending hp

/-- The loop of `MsgTimerExpire` ends with `updateSoonestTime(NULL)`. -/
theorem WorksOn.update (h : WorksOn s s' c)
    (hoff : (s'.container c).heap = .nil → (s'.container c).Off) : (s'.update c none).Served := by
  have htask : (s'.update c none).msgTask =
      .updating c ((s'.container c).updateSoonestTime none) := rfl
  exact WorksOn.served (s := s) ⟨h.others, h.same, h.queue, h.pollTask⟩ htask
    (promised_update hoff)

/-- After a timer has expired, the next one is popped or the kernel timer is updated. -/
theorem WorksOn.next (h : WorksOn s s' c) (now : Timespec)
    (hoff : (s'.container c).heap = .nil → (s'.container c).Off) : (s'.next c now).Served := by
  rcases next_cases s' c now with he | ⟨timer, -, -, he⟩
  · rw [he]; exact h.update hoff
  · rw [he]; exact h.popped now timer

/-- A message that leaves the top leaves the kernel timer. -/
theorem Covered.promised (h : s.Covered b)
    (htop : (s'.container b).getSoonestTimer = (s.container b).getSoonestTimer)
    (harmed : (s'.container b).armed = (s.container b).armed)
    (hpolled : (s'.container b).polled = (s.container b).polled)
    (hp : s.Pending b → s'.Pending b) : s'.Promised b [] := by
  have hnil : (s'.container b).heap = .nil ↔ (s.container b).heap = .nil := by
    rw [← LocTimerContainer.getSoonestTimer_eq_none, htop,
      LocTimerContainer.getSoonestTimer_eq_none]
  constructor
  · intro hne
    rcases h.served fun h => hne (hnil.2 h) with ⟨top, ht, ha, hpo⟩ | hpend
    · exact .inl ⟨top, htop.trans ht, .inr (.inr ⟨rfl, harmed.trans ha, hpolled.trans hpo⟩)⟩
    · exact .inr (hp hpend)
  · intro h'
    have hoff := h.off (hnil.1 h')
    exact ⟨rfl, harmed.trans hoff.armed, hpolled.trans hoff.polled⟩

theorem served_procPush (h : ∀ b, s.Covered b) (timer : LocTimerDelegate) :
    (s.procPush timer).Served := by
  set c := timer.mContainer with hc
  set k := s.container c with hk
  set k' : LocTimerContainer :=
    { k with heap := LocHeap.push LocTimerDelegate.ranks k.heap timer } with hk'
  set s' := (s.setContainer c k').update c k.getSoonestTimer with hs'
  have hproc : s.procPush timer = s' := rfl
  have hcont : s'.container c = k' := container_setContainer_self s c k'
  have hworks : WorksOn s s' c :=
    ⟨fun b _ => h b, fun b hb => (container_setContainer s c b k').trans (if_neg hb),
      fun msg hm => (setContainer_queue s c k').symm ▸ hm, setContainer_pollTask s c k'⟩
  have htask : s'.msgTask = .updating c (k'.updateSoonestTime k.getSoonestTimer) := by
    simp [hs', update]
  have htop' : k'.getSoonestTimer = some (k.getSoonestTimer.elim timer fun y =>
      if OutRanks LocTimerDelegate.ranks timer y then timer else y) :=
    LocHeap.peek_push LocTimerDelegate.ranks k.heap timer
  have hne : k'.heap ≠ .nil := fun hnil => by
    rw [LocTimerContainer.getSoonestTimer_eq_none.2 hnil] at htop'; cases htop'
  rw [hproc]
  refine hworks.served htask ?_
  unfold LocTimerContainer.updateSoonestTime
  cases htop : k.getSoonestTimer with
  | none =>
    rw [htop] at htop'
    refine ⟨fun _ => .inl ⟨timer, hcont ▸ htop', .inl ?_⟩, fun hnil => absurd (hcont ▸ hnil) hne⟩
    simp [htop']
  | some y =>
    rw [htop] at htop'
    dsimp only [Option.elim] at htop'
    by_cases hout : OutRanks LocTimerDelegate.ranks timer y
    · rw [if_pos hout] at htop'
      have hty : timer ≠ y := fun hty => LocTimerDelegate.not_outRanks_self y (hty ▸ hout)
      refine ⟨fun _ => .inl ⟨timer, hcont ▸ htop', .inl ?_⟩, fun hnil => absurd (hcont ▸ hnil) hne⟩
      simp [htop', hty, hout]
    · -- the top stays, and so does what serves it
      rw [if_neg hout] at htop'
      rw [if_pos htop']
      exact (h c).promised (by rw [hcont, htop', ← hk, htop]) (by rw [hcont]) (by rw [hcont])
        hworks.pending

theorem served_procRemove (h : ∀ b, s.Covered b) (timer : LocTimerDelegate)
    (honly : (s.container timer.mContainer).heap.elems = {timer} →
      (s.container timer.mContainer).Off) : (s.procRemove timer).Served := by
  set c := timer.mContainer with hc
  set k := s.container c with hk
  set p := LocHeap.remove LocTimerDelegate.ranks k.heap timer with hp
  set k' : LocTimerContainer := { k with heap := p.1 } with hk'
  set s' : TimerSystem := { s.setContainer c k' with log := s.log ++ [TimerLog.removed timer] }
    with hs'
  have hproc : s.procRemove timer = if k.getSoonestTimer = p.2 then s'.update c none
    else { s' with msgTask := .updating c [] } := rfl
  have hcont : s'.container c = k' := container_setContainer_self s c k'
  have hworks : WorksOn s s' c :=
    ⟨fun b _ => h b, fun b hb => (container_setContainer s c b k').trans (if_neg hb),
      fun msg hm => (setContainer_queue s c k').symm ▸ hm, setContainer_pollTask s c k'⟩
  rw [hproc]
  split_ifs with htop
  · refine hworks.update fun hnil => ?_
    rw [hcont] at hnil ⊢
    have hoff : k.Off := (LocHeap.remove_eq_nil hnil).elim (h c).off honly
    exact ⟨hoff.armed, hoff.polled⟩
  · have hpeek : LocHeap.peek k.heap ≠ some timer := fun hpeek =>
      htop (hpeek.trans (LocHeap.remove_peek hpeek).symm)
    have htop' : k'.getSoonestTimer = k.getSoonestTimer := LocHeap.peek_remove hpeek
    have hcont' : ({ s' with msgTask := .updating c [] } : TimerSystem).container c = k' := hcont
    have htask : ({ s' with msgTask := .updating c [] } : TimerSystem).msgTask =
      .updating c [] := rfl
    refine WorksOn.served (s := s) (c := c)
      ⟨hworks.others, hworks.same, hworks.queue, hworks.pollTask⟩ htask ?_
    exact (h c).promised (by rw [hcont', htop', hk]) (by rw [hcont']) (by rw [hcont'])
      hworks.pending

theorem served_procExpire (h : ∀ b, b ≠ c → s.Covered b)
    (hoff : (s.container c).heap = .nil → (s.container c).Off) : (s.procExpire c).Served := by
  have hworks : WorksOn s s c := ⟨h, fun _ _ => rfl, fun _ => id, rfl⟩
  rcases procExpire_cases s c with ⟨-, he⟩ | ⟨timer, -, he⟩
  · rw [he]; exact hworks.update hoff
  · rw [he]; exact hworks.popped s.clock.time timer

/-- Steps that touch neither the containers nor the message thread, and may post messages. -/
theorem Served.mono (h : s.Served) (htask : s'.msgTask = s.msgTask)
    (hc : ∀ b, s'.container b = s.container b) (hp : ∀ b, s.Pending b → s'.Pending b) :
    s'.Served := fun b => htask ▸ (h b).mono (hc b) (hp b)

theorem served_receive (h : s.Served) (hu : s.Undisturbed .receive)
    (hst : s.step .receive = some s') : s'.Served := by
  obtain ⟨msg, queue, htask, hqueue, rfl⟩ := step_receive hst
  have hcov : ∀ b, s.Covered b := fun b => by
    have hb := h b
    rwa [htask] at hb
  -- the message is gone from the queue; this matters to its own container only
  have hrest : ∀ b, msg ≠ .expire b → ({ s with queue := queue } : TimerSystem).Covered b :=
    fun b hb => (hcov b).mono rfl fun hp => hp.imp_left fun hm => by
      rw [hqueue] at hm
      exact (List.mem_cons.1 hm).resolve_left fun h => hb h.symm
  cases msg with
  | push timer => exact served_procPush (fun b => hrest b nofun) timer
  | remove timer => exact served_procRemove (fun b => hrest b nofun) timer (hu timer queue hqueue)
  | expire c =>
    exact served_procExpire (fun b hb => hrest b fun h => hb (by cases h; rfl)) (hcov c).off

theorem served_readClient (h : s.Served) (hu : s.Undisturbed .readClient)
    (hst : s.step .readClient = some s') : s'.Served := by
  obtain ⟨c, now, timer, htask, ⟨hstopped, rfl⟩ | ⟨-, rfl⟩⟩ := step_readClient hst
  all_goals
    have hcov : ∀ b, b ≠ c → s.Covered b := fun b hb => by
      have hb' := h b
      rw [htask] at hb'
      exact hb' hb
  · exact WorksOn.next (s := s) ⟨hcov, fun _ _ => rfl, fun _ => id, rfl⟩ now
      (hu c now timer htask hstopped)
  · exact fun b hb => (hcov b hb).mono rfl id

theorem served_stopClient (h : s.Served) (hu : s.Undisturbed .stopClient)
    (hst : s.step .stopClient = some s') : s'.Served := by
  obtain ⟨c, now, popped, client, htask, ⟨hnone, rfl⟩ | ⟨timer, hsome, rfl⟩⟩ := step_stopClient hst
  all_goals
    have hcov : ∀ b, b ≠ c → s.Covered b := fun b hb => by
      have hb' := h b
      rw [htask] at hb'
      exact hb' hb
  · exact WorksOn.next (s := s) ⟨hcov, fun _ _ => rfl, fun _ => id, rfl⟩ now
      (hu c now popped client htask hnone)
  · simp only [TimerSystem.stop, hsome]
    exact fun b hb => (hcov b hb).mono rfl fun hp => hp.imp_left (List.mem_append_left _)

theorem served_timeOutCallback (h : s.Served) (hu : s.Undisturbed .timeOutCallback)
    (hst : s.step .timeOutCallback = some s') : s'.Served := by
  obtain ⟨c, now, timer, htask, rfl⟩ := step_timeOutCallback hst
  have hcov : ∀ b, b ≠ c → s.Covered b := fun b hb => by
    have hb' := h b
    rw [htask] at hb'
    exact hb' hb
  set s' : TimerSystem := { s with log := s.log ++ [.timeOutCallback timer s.clock.time] }
  have hworks : WorksOn s s' c := ⟨hcov, fun _ _ => rfl, fun _ => id, rfl⟩
  exact hworks.next now (hu c now timer htask)

theorem WillArm.sysCall {k : LocTimerContainer} {call : TimerSysCall}
    (h : WillArm k (call :: todo)) : WillArm (k.sysCall call) todo := by
  obtain ⟨top, htop, ⟨rfl, rfl⟩ | ⟨htodo, hpolled⟩ | ⟨hnil, -⟩⟩ := h
  · exact ⟨top, htop, .inr (.inl ⟨rfl, rfl⟩)⟩
  · obtain ⟨rfl, rfl⟩ := List.cons.inj htodo
    exact ⟨top, htop, .inr (.inr ⟨rfl, if_neg top.ticking, hpolled⟩)⟩
  · cases hnil

theorem served_sysCall (h : s.Served) (hst : s.step .sysCall = some s') : s'.Served := by
  obtain ⟨c, call, todo, htask, rfl⟩ := step_sysCall hst
  set k := (s.container c).sysCall call with hk
  set s' : TimerSystem := { s.setContainer c k with msgTask := .updating c todo } with hs'
  have hcont : ∀ b, s'.container b = if b = c then k else s.container b :=
    fun b => container_setContainer s c b k
  have hpend : ∀ b, s.Pending b → s'.Pending b := fun b hp => by
    simpa [hs', Pending, Expiring] using hp
  intro b
  have hb := h b
  rw [htask] at hb
  dsimp only [Owed, s'] at hb ⊢
  split_ifs at hb ⊢ with hbc
  · subst hbc
    have hheap : k.heap = (s.container b).heap := by cases call <;> rfl
    refine ⟨fun hne => ?_, fun hnil => ?_⟩
    · rw [hcont, if_pos rfl] at hne ⊢
      exact (hb.served (hheap ▸ hne)).imp WillArm.sysCall (hpend b)
    · rw [hcont, if_pos rfl, hheap] at hnil
      exact absurd (hb.off hnil).1 (by simp)
  · exact hb.mono ((hcont b).trans (if_neg hbc)) (hpend b)

theorem served_finish (h : s.Served) (hst : s.step .finish = some s') : s'.Served := by
  obtain ⟨⟨c, htask⟩, rfl⟩ := step_finish hst
  intro b
  have hb := h b
  rw [htask] at hb
  dsimp only [Owed] at hb ⊢
  split_ifs at hb with hbc
  · refine ⟨fun hne => (hb.served hne).imp_left ?_, fun hnil => (hb.off hnil).2⟩
    rintro ⟨top, htop, hcalls⟩
    have harmed : (s.container b).armed = some top.mFutureTime ∧ (s.container b).polled = true := by
      simpa using hcalls
    exact ⟨top, htop, harmed⟩
  · exact hb.mono rfl id

/-! ### The steps of the poll thread -/

theorem pending_of_ne {phase : PollPhase} {rest : List Bool}
    (hpoll : s.pollTask = .expiring phase c rest) (hb : b ≠ c) (hp : s.Pending b) :
    TimerMsg.expire b ∈ s.queue := by
  rcases hp with hq | ⟨_, _, hpoll', -⟩
  · exact hq
  · rw [hpoll] at hpoll'
    cases hpoll'
    exact absurd rfl hb

/-- The poll thread makes a system call on the way to posting an expire message. -/
theorem served_pollCall (h : s.Served) {phase phase' : PollPhase} {rest : List Bool}
    (hpoll : s.pollTask = .expiring phase c rest) (hphase : phase' ≠ .woken) (call : TimerSysCall)
    (hoff : (s.container c).Off → ((s.container c).sysCall call).Off) :
    ({ s.setContainer c ((s.container c).sysCall call) with
      pollTask := .expiring phase' c rest } : TimerSystem).Served := by
  set s' : TimerSystem := { s.setContainer c ((s.container c).sysCall call) with
    pollTask := .expiring phase' c rest } with hs'
  have hcont : ∀ b, s'.container b = if b = c then (s.container c).sysCall call else s.container b :=
    fun b => container_setContainer s c b _
  have htask : s'.msgTask = s.msgTask := setContainer_msgTask s c _
  intro b
  rw [htask]
  by_cases hb : b = c
  · subst hb
    refine (h b).turnOff ?_ ?_ (.inr ⟨phase', rest, rfl, hphase⟩)
    · rw [hcont, if_pos rfl]; cases call <;> rfl
    · rw [hcont, if_pos rfl]; exact hoff
  · refine (h b).mono ((hcont b).trans (if_neg hb)) fun hp => .inl ?_
    simpa [hs'] using pending_of_ne hpoll hb hp

theorem served_poll (h : s.Served) (hst : s.step .poll = some s') : s'.Served := by
  obtain ⟨phase, c, rest, hpoll, rfl⟩ := step_poll hst
  cases phase with
  | woken =>
    exact served_pollCall h hpoll (by simp) (.settime .zero) fun hoff => ⟨rfl, hoff.polled⟩
  | disarmed =>
    exact served_pollCall h hpoll (by simp) .removePoll fun hoff => ⟨hoff.armed, rfl⟩
  | unpolled =>
    refine Served.mono h rfl (fun _ => rfl) fun b hp => .inl ?_
    by_cases hb : b = c
    · exact List.mem_append_right _ (by simp [hb])
    · exact List.mem_append_left _ (pending_of_ne hpoll hb hp)

theorem served_wake {events : List Bool} (h : s.Served)
    (hst : s.step (.wake events) = some s') : s'.Served := by
  obtain ⟨hwait, rfl⟩ := step_wake hst
  refine Served.mono h rfl (fun _ => rfl) fun b hp => ?_
  refine hp.imp id ?_
  rintro ⟨_, _, hpoll, -⟩
  rw [hwait] at hpoll
  cases hpoll

/-! ### The steps of the clients -/

theorem served_start (h : s.Served) (client : ℕ) (timeOutInMs : UInt32) (wakeOnExpire : Bool) :
    (s.start client timeOutInMs wakeOnExpire).Served := by
  unfold TimerSystem.start
  split
  · exact h
  · exact h.mono rfl (fun _ => rfl) fun b hp => hp.imp_left (List.mem_append_left _)

theorem served_stop (h : s.Served) (client : ℕ) : (s.stop client).1.Served := by
  unfold TimerSystem.stop
  split
  · exact h
  · exact h.mono rfl (fun _ => rfl) fun b hp => hp.imp_left (List.mem_append_left _)

/-- Undisturbed steps keep the invariant. -/
theorem Served.step {e : TimerStep} (h : s.Served) (hu : s.Undisturbed e)
    (hst : s.step e = some s') : s'.Served := by
  cases e with
  | tick now =>
    obtain ⟨-, rfl⟩ := step_tick hst
    exact h.mono rfl (fun _ => rfl) fun _ => id
  | start client timeOutInMs wakeOnExpire =>
    exact Option.some.inj hst ▸ served_start h client timeOutInMs wakeOnExpire
  | stop client => exact Option.some.inj hst ▸ served_stop h client
  | receive => exact served_receive h hu hst
  | readClient => exact served_readClient h hu hst
  | stopClient => exact served_stopClient h hu hst
  | timeOutCallback => exact served_timeOutCallback h hu hst
  | sysCall => exact served_sysCall h hst
  | finish => exact served_finish h hst
  | wake events => exact served_wake h hst
  | poll => exact served_poll h hst

end Keep

theorem served_initial (boot : BootTime) : (initial boot).Served := fun b =>
  ⟨fun hne => absurd (by cases b <;> rfl) hne, fun _ => by cases b <;> exact ⟨rfl, rfl⟩⟩

/-- **No timer is lost.**  After each message of an undisturbed run, every container with timers is
served and the kernel timer of every empty one is off, unless the poll thread is just about to post
the expire message of the container. -/
theorem no_timer_lost {boot : BootTime} {es : List TimerStep} {s : TimerSystem}
    (h : (system boot).Run Undisturbed (es ++ [.finish]) s) {b : Bool} (hb : ¬ s.Expiring b) :
    s.NoneLost b := by
  have hserved : s.Served := h.invariant (served_initial boot) fun _ _ _ h hu hst => h.step hu hst
  obtain ⟨s₀, -, -, hst⟩ := h.last
  have hidle : s.msgTask = .idle := by rw [(step_finish hst).2]
  have hcov : s.Covered b := by
    have howed := hserved b
    rwa [hidle] at howed
  exact ⟨fun hne => (hcov.served hne).imp_right fun hp => hp.resolve_right hb, hcov.off⟩

/-- A timer of ten milliseconds is started; its message arms the kernel timer. -/
theorem no_timer_lost_started :
    ∃ s, (system ⟨⟨1, 0⟩, by decide, by decide⟩).Run Undisturbed
        [.start 0 10 true, .receive, .sysCall, .sysCall, .finish] s ∧ s.NoneLost true := by
  have h₁ : (system ⟨⟨1, 0⟩, by decide, by decide⟩).Run Undisturbed
      [.start 0 10 true] _ := .snoc .nil trivial rfl
  have h₂ := h₁.snoc (e := TimerStep.receive) (fun timer rest hq => by cases hq) rfl
  have h₃ := h₂.snoc (e := TimerStep.sysCall) trivial rfl
  have h₄ := h₃.snoc (e := TimerStep.sysCall) trivial rfl
  have h₅ : (system ⟨⟨1, 0⟩, by decide, by decide⟩).Run Undisturbed
      ([.start 0 10 true, .receive, .sysCall, .sysCall] ++ [.finish]) _ :=
    h₄.snoc (e := TimerStep.finish) trivial rfl
  refine ⟨_, h₅, no_timer_lost h₅ ?_⟩
  rintro ⟨_, _, hpoll, -⟩
  cases hpoll

/-- When that timer is stopped, its heap is empty, but the kernel timer stays on. -/
theorem timer_left_armed :
    ∃ s, (system ⟨⟨1, 0⟩, by decide, by decide⟩).Run System.Free
        [.start 0 10 true, .receive, .sysCall, .sysCall, .finish, .stop 0, .receive, .finish] s ∧
      ¬ s.Expiring true ∧ ¬ s.NoneLost true := by
  have h₁ : (system ⟨⟨1, 0⟩, by decide, by decide⟩).Run System.Free
      [.start 0 10 true] _ := .snoc .nil trivial rfl
  have h₂ := h₁.snoc (e := TimerStep.receive) trivial rfl
  have h₃ := h₂.snoc (e := TimerStep.sysCall) trivial rfl
  have h₄ := h₃.snoc (e := TimerStep.sysCall) trivial rfl
  have h₅ := h₄.snoc (e := TimerStep.finish) trivial rfl
  have h₆ := h₅.snoc (e := TimerStep.stop 0) trivial rfl
  have h₇ := h₆.snoc (e := TimerStep.receive) trivial rfl
  refine ⟨_, h₇.snoc (e := TimerStep.finish) trivial rfl, ?_, fun h => nomatch (h.2 rfl).polled⟩
  rintro ⟨_, _, hpoll, -⟩
  cases hpoll

end TimerSystem

end GpsHal
