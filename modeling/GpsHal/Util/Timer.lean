import GpsHal.Util.Heap

/-!
# `LocTimer` : timers, the heaps they tick in and the threads that serve them

A timer that is started becomes a `LocTimerDelegate` in one of two containers, the hardware timers
and the software timers (`utils/LocTimer.cpp`).  A container is a heap of delegates with a kernel
timer that is to be armed for the top of the heap.  Three kinds of threads take part.

* Clients start and stop timers under a lock; this posts messages to the message thread.
* The message thread pushes and removes delegates, and expires them when it is told to.
* The poll thread waits in `epoll_wait` for the kernel timers.  When one has expired it disarms it,
  takes it out of the epoll set and posts an expire message.

The model interleaves the single system calls, lock sections and accesses to shared memory of the
threads.  The heaps belong to the message thread alone.

## Main definitions

* `TimerSystem` : the state of everything.
* `TimerSystem.step` : the steps of the threads, labelled by `TimerStep`.
-/

namespace GpsHal

/-! ### Time -/

/-- `struct timespec` -/
structure Timespec where
  tv_sec : ℕ
  tv_nsec : ℕ
  deriving DecidableEq, Repr

namespace Timespec

/-- The time is not later than another. -/
def Le (a b : Timespec) : Prop := a.tv_sec < b.tv_sec ∨ a.tv_sec = b.tv_sec ∧ a.tv_nsec ≤ b.tv_nsec

instance (a b : Timespec) : Decidable (a.Le b) := inferInstanceAs (Decidable (_ ∨ _))

/-- The value of an `itimerspec` that disarms. -/
def zero : Timespec := ⟨0, 0⟩

theorem Le.refl (a : Timespec) : a.Le a := .inr ⟨rfl, le_refl _⟩

theorem Le.trans {a b c : Timespec} (h : a.Le b) (h' : b.Le c) : a.Le c := by
  unfold Le at *; omega

end Timespec

/-- A reading of the boot clock, which has started. -/
structure BootTime where
  time : Timespec
  normal : time.tv_nsec < 1000000000
  running : time ≠ .zero
  deriving DecidableEq

/-- The expiry time that `LocTimer::start` computes. -/
def futureTime (now : Timespec) (timeOutInMs : UInt32) : Timespec :=
  let tv_sec := now.tv_sec + timeOutInMs.toNat / 1000
  let tv_nsec := now.tv_nsec + timeOutInMs.toNat % 1000 * 1000000
  if 1000000000 ≤ tv_nsec then ⟨tv_sec + tv_nsec / 1000000000, tv_nsec % 1000000000⟩
  else ⟨tv_sec, tv_nsec⟩

theorem futureTime_ne_zero (now : BootTime) (timeOutInMs : UInt32) :
    futureTime now.time timeOutInMs ≠ .zero := by
  have hrun := now.running
  unfold futureTime
  simp only [Timespec.zero] at hrun ⊢
  intro h
  apply hrun
  split_ifs at h with hcarry
  · have hsec := congrArg Timespec.tv_sec h
    simp only at hsec
    omega
  · have hsec := congrArg Timespec.tv_sec h
    have hnsec := congrArg Timespec.tv_nsec h
    simp only at hsec hnsec
    cases htime : now.time
    rw [htime] at hsec hnsec
    simp only [Timespec.mk.injEq] at hsec hnsec ⊢
    omega

/-! ### Delegates and containers -/

/-- A `LocTimerDelegate`.  Delegates are objects, told apart by `id`. -/
structure LocTimerDelegate where
  id : ℕ
  /-- The `LocTimer` that was started. -/
  client : ℕ
  mFutureTime : Timespec
  /-- `wakeOnExpire`, which selects the container. -/
  mContainer : Bool
  ticking : mFutureTime ≠ .zero
  deriving DecidableEq

/-- The value of a `long` in an `int`. -/
def toInt (n : ℤ) : ℤ := n.bmod (2 ^ 32)

/-- `ranks` on the times of two delegates: larger time ranks lower. -/
def rankTimes (a b : Timespec) : ℤ :=
  let rank := toInt ((b.tv_sec : ℤ) - a.tv_sec)
  if rank = 0 then toInt ((b.tv_nsec : ℤ) - a.tv_nsec) else rank

namespace LocTimerDelegate

def ranks (timer rankable : LocTimerDelegate) : ℤ :=
  rankTimes timer.mFutureTime rankable.mFutureTime

theorem not_outRanks_self (timer : LocTimerDelegate) : ¬ OutRanks ranks timer timer := by
  simp [OutRanks, ranks, rankTimes, toInt]

end LocTimerDelegate

/-- A container and the kernel timer of its `mDevFd`. -/
structure LocTimerContainer where
  heap : LocHeap LocTimerDelegate
  /-- The absolute time the kernel timer is armed with. -/
  armed : Option Timespec
  /-- The kernel timer is in the epoll set. -/
  polled : Bool
  deriving DecidableEq

/-- The system calls of `updateSoonestTime`, on the kernel timer of one container. -/
inductive TimerSysCall where
  | addPoll
  | removePoll
  | settime (it_value : Timespec)
  deriving DecidableEq, Repr

namespace LocTimerContainer

def getSoonestTimer (c : LocTimerContainer) : Option LocTimerDelegate := LocHeap.peek c.heap

/-- `updateSoonestTime` : the system calls it makes. -/
def updateSoonestTime (c : LocTimerContainer) (priorTop : Option LocTimerDelegate) :
    List TimerSysCall :=
  -- check if top has changed
  if c.getSoonestTimer = priorTop then []
  else match c.getSoonestTimer with
    | none => [.removePoll, .settime .zero]
    | some curTop =>
      match priorTop with
      | none => [.addPoll, .settime curTop.mFutureTime]
      | some prior =>
        if OutRanks LocTimerDelegate.ranks curTop prior then
          [.addPoll, .settime curTop.mFutureTime]
        else []

/-- The kernel's side of a system call. -/
def sysCall (c : LocTimerContainer) : TimerSysCall → LocTimerContainer
  | .addPoll => { c with polled := true }
  | .removePoll => { c with polled := false }
  | .settime it_value => { c with armed := if it_value = .zero then none else some it_value }

/-- `popIfOutRanks` : the top, when a delegate of the time `now` does not outrank it. -/
def popIfOutRanks (c : LocTimerContainer) (now : Timespec) :
    LocTimerContainer × Option LocTimerDelegate :=
  match c.getSoonestTimer with
  | none => (c, none)
  | some top =>
    if 0 < rankTimes now top.mFutureTime then (c, none)
    else
      let p := LocHeap.pop LocTimerDelegate.ranks c.heap
      ({ c with heap := p.1 }, p.2)

end LocTimerContainer

/-! ### The threads -/

/-- The messages of the message thread. -/
inductive TimerMsg where
  | push (timer : LocTimerDelegate)
  | remove (timer : LocTimerDelegate)
  | expire (container : Bool)
  deriving DecidableEq

/-- What the message thread is doing. -/
inductive TimerMsgTask where
  | idle
  /-- `timer` has been popped; `timer->expire()` is about to read `mClient`. -/
  | expiring (container : Bool) (now : Timespec) (timer : LocTimerDelegate)
  /-- `client` has been read from `timer`; `client->stop()` is about to take the lock. -/
  | stopping (container : Bool) (now : Timespec) (timer : LocTimerDelegate) (client : ℕ)
  /-- The stop took `timer` from its client, whose `timeOutCallback()` is about to be called. -/
  | callingBack (container : Bool) (now : Timespec) (timer : LocTimerDelegate)
  /-- The system calls that are left of `updateSoonestTime`. -/
  | updating (container : Bool) (todo : List TimerSysCall)
  deriving DecidableEq

/-- How far the poll thread is with one container. -/
inductive PollPhase where
  | woken | disarmed | unpolled
  deriving DecidableEq, Repr

/-- What the poll thread is doing. -/
inductive TimerPollTask where
  | waiting
  /-- In `container->expire()`, with the containers of the remaining events. -/
  | expiring (phase : PollPhase) (container : Bool) (rest : List Bool)
  deriving DecidableEq, Repr

/-- What the clients see, and when their timers are deleted. -/
inductive TimerLog where
  | timeOutCallback (timer : LocTimerDelegate) (time : Timespec)
  | removed (timer : LocTimerDelegate)
  deriving DecidableEq

structure TimerSystem where
  /-- `CLOCK_BOOTTIME` -/
  clock : BootTime
  mHwTimers : LocTimerContainer
  mSwTimers : LocTimerContainer
  queue : List TimerMsg
  msgTask : TimerMsgTask
  pollTask : TimerPollTask
  /-- The delegate of each `LocTimer`. -/
  mTimer : ℕ → Option LocTimerDelegate
  /-- The delegates that have been stopped: their `mClient` is `NULL`. -/
  stopped : List LocTimerDelegate
  /-- The number of delegates created so far. -/
  created : ℕ
  log : List TimerLog

/-- The steps of the threads. -/
inductive TimerStep where
  | tick (now : BootTime)
  | start (client : ℕ) (timeOutInMs : UInt32) (wakeOnExpire : Bool)
  | stop (client : ℕ)
  /-- The message thread takes a message and works on the heap. -/
  | receive
  | readClient
  | stopClient
  | timeOutCallback
  | sysCall
  /-- The message thread is done with its message. -/
  | finish
  /-- `epoll_wait` returns with events for the containers. -/
  | wake (events : List Bool)
  /-- The next call of `LocTimerContainer::expire`. -/
  | poll
  deriving DecidableEq

namespace TimerSystem

/-- `LocTimerContainer::get` -/
def container (s : TimerSystem) (wakeOnExpire : Bool) : LocTimerContainer :=
  if wakeOnExpire = true then s.mHwTimers else s.mSwTimers

def setContainer (s : TimerSystem) (wakeOnExpire : Bool) (c : LocTimerContainer) : TimerSystem :=
  if wakeOnExpire = true then { s with mHwTimers := c } else { s with mSwTimers := c }

section SetContainer

variable (s : TimerSystem) (b b' : Bool) (c : LocTimerContainer)

theorem container_setContainer :
    (s.setContainer b c).container b' = if b' = b then c else s.container b' := by
  cases b <;> cases b' <;> rfl

@[simp] theorem container_setContainer_self : (s.setContainer b c).container b = c := by
  cases b <;> rfl

@[simp] theorem setContainer_clock : (s.setContainer b c).clock = s.clock := by cases b <;> rfl

@[simp] theorem setContainer_queue : (s.setContainer b c).queue = s.queue := by cases b <;> rfl

@[simp] theorem setContainer_msgTask : (s.setContainer b c).msgTask = s.msgTask := by
  cases b <;> rfl

@[simp] theorem setContainer_pollTask : (s.setContainer b c).pollTask = s.pollTask := by
  cases b <;> rfl

@[simp] theorem setContainer_mTimer : (s.setContainer b c).mTimer = s.mTimer := by cases b <;> rfl

@[simp] theorem setContainer_stopped : (s.setContainer b c).stopped = s.stopped := by
  cases b <;> rfl

@[simp] theorem setContainer_created : (s.setContainer b c).created = s.created := by
  cases b <;> rfl

@[simp] theorem setContainer_log : (s.setContainer b c).log = s.log := by cases b <;> rfl

end SetContainer

def sendMsg (s : TimerSystem) (msg : TimerMsg) : TimerSystem := { s with queue := s.queue ++ [msg] }

/-! #### The clients -/

/-- `LocTimer::start`, under the lock of the client. -/
def start (s : TimerSystem) (client : ℕ) (timeOutInMs : UInt32) (wakeOnExpire : Bool) :
    TimerSystem :=
  match s.mTimer client with
  | some _ => s
  | none =>
    let timer : LocTimerDelegate :=
      ⟨s.created, client, futureTime s.clock.time timeOutInMs, wakeOnExpire,
        futureTime_ne_zero s.clock timeOutInMs⟩
    { s with
      mTimer := fun k => if k = client then some timer else s.mTimer k
      created := s.created + 1 }.sendMsg (.push timer)

/-- `LocTimer::stop`, under the lock of the client: the delegate loses its client and is to be
removed.  The second component is the delegate, if the timer was running. -/
def stop (s : TimerSystem) (client : ℕ) : TimerSystem × Option LocTimerDelegate :=
  match s.mTimer client with
  | none => (s, none)
  | some timer =>
    ({ s with
      mTimer := fun k => if k = client then none else s.mTimer k
      stopped := timer :: s.stopped }.sendMsg (.remove timer), some timer)

@[simp] theorem stop_msgTask (s : TimerSystem) (client : ℕ) :
    (s.stop client).1.msgTask = s.msgTask := by
  unfold stop; split <;> rfl

/-! #### The message thread -/

/-- The end of a message: `updateSoonestTime`. -/
def update (s : TimerSystem) (c : Bool) (priorTop : Option LocTimerDelegate) : TimerSystem :=
  { s with msgTask := .updating c ((s.container c).updateSoonestTime priorTop) }

/-- The loop of `MsgTimerExpire` after a timer has expired: pop the next one, or update. -/
def next (s : TimerSystem) (c : Bool) (now : Timespec) : TimerSystem :=
  match (s.container c).popIfOutRanks now with
  | (_, none) => s.update c none
  | (popped, some timer) =>
    { s.setContainer c popped with msgTask := .expiring c now timer }

/-- `MsgTimerPush::proc` -/
def procPush (s : TimerSystem) (timer : LocTimerDelegate) : TimerSystem :=
  let c := s.container timer.mContainer
  (s.setContainer timer.mContainer
    { c with heap := LocHeap.push LocTimerDelegate.ranks c.heap timer }).update timer.mContainer
    c.getSoonestTimer

/-- `MsgTimerRemove::proc` -/
def procRemove (s : TimerSystem) (timer : LocTimerDelegate) : TimerSystem :=
  let c := s.container timer.mContainer
  let p := LocHeap.remove LocTimerDelegate.ranks c.heap timer
  let s' := { s.setContainer timer.mContainer { c with heap := p.1 } with
    log := s.log ++ [TimerLog.removed timer] }
  if c.getSoonestTimer = p.2 then s'.update timer.mContainer none
  else { s' with msgTask := .updating timer.mContainer [] }

/-- `MsgTimerExpire::proc` up to the first `expire()` : the first pop is unconditional. -/
def procExpire (s : TimerSystem) (c : Bool) : TimerSystem :=
  let p := LocHeap.pop LocTimerDelegate.ranks (s.container c).heap
  match p.2 with
  | none => s.update c none
  | some timer =>
    { s.setContainer c { s.container c with heap := p.1 } with
      msgTask := .expiring c s.clock.time timer }

def proc (s : TimerSystem) : TimerMsg → TimerSystem
  | .push timer => s.procPush timer
  | .remove timer => s.procRemove timer
  | .expire c => s.procExpire c

/-! #### The poll thread -/

/-- The kernel timer has expired and is in the epoll set. -/
def Ready (s : TimerSystem) (c : Bool) : Prop :=
  (s.container c).polled = true ∧ ∃ t, (s.container c).armed = some t ∧ t.Le s.clock.time

instance (s : TimerSystem) (c : Bool) : Decidable (s.Ready c) :=
  decidable_of_iff ((s.container c).polled = true ∧
    (s.container c).armed.any fun t => decide (t.Le s.clock.time)) (by
      unfold Ready
      cases (s.container c).armed <;> simp)

/-- The loop of `LocTimerPollTask::run` over the events that are left. -/
def nextEvent : List Bool → TimerPollTask
  | [] => .waiting
  | c :: rest => .expiring .woken c rest

/-- The next call of `LocTimerContainer::expire`. -/
def poll (s : TimerSystem) (phase : PollPhase) (c : Bool) (rest : List Bool) : TimerSystem :=
  match phase with
  | .woken =>
    { s.setContainer c ((s.container c).sysCall (.settime .zero)) with
      pollTask := .expiring .disarmed c rest }
  | .disarmed =>
    { s.setContainer c ((s.container c).sysCall .removePoll) with
      pollTask := .expiring .unpolled c rest }
  | .unpolled => { s.sendMsg (.expire c) with pollTask := nextEvent rest }

/-! #### Steps -/

/-- One step of one thread; `none` when the thread cannot make it. -/
def step (s : TimerSystem) : TimerStep → Option TimerSystem
  | .tick now => if s.clock.time.Le now.time then some { s with clock := now } else none
  | .start client timeOutInMs wakeOnExpire => some (s.start client timeOutInMs wakeOnExpire)
  | .stop client => some (s.stop client).1
  | .receive =>
    match s.msgTask, s.queue with
    | .idle, msg :: queue => some ({ s with queue := queue }.proc msg)
    | _, _ => none
  | .readClient =>
    match s.msgTask with
    | .expiring c now timer =>
      some (if timer ∈ s.stopped then s.next c now
        else { s with msgTask := .stopping c now timer timer.client })
    | _ => none
  | .stopClient =>
    match s.msgTask with
    | .stopping c now _ client =>
      match s.stop client with
      | (_, none) => some (s.next c now)
      | (s', some timer) => some { s' with msgTask := .callingBack c now timer }
    | _ => none
  | .timeOutCallback =>
    match s.msgTask with
    | .callingBack c now timer =>
      some ({ s with log := s.log ++ [TimerLog.timeOutCallback timer s.clock.time] }.next c now)
    | _ => none
  | .sysCall =>
    match s.msgTask with
    | .updating c (call :: todo) =>
      some { s.setContainer c ((s.container c).sysCall call) with msgTask := .updating c todo }
    | _ => none
  | .finish =>
    match s.msgTask with
    | .updating _ [] => some { s with msgTask := .idle }
    | _ => none
  | .wake events =>
    if s.pollTask = .waiting ∧ events ≠ [] ∧ events.Nodup ∧ ∀ c ∈ events, s.Ready c then
      some { s with pollTask := nextEvent events }
    else none
  | .poll =>
    match s.pollTask with
    | .expiring phase c rest => some (s.poll phase c rest)
    | .waiting => none

/-! #### What the loop of `MsgTimerExpire` can do -/

section Loop

variable (s : TimerSystem) (c : Bool) (now : Timespec)

/-- The message thread pops `timer` off the heap of container `c`. -/
def popped (timer : LocTimerDelegate) : TimerSystem :=
  { s.setContainer c { s.container c with
      heap := (LocHeap.pop LocTimerDelegate.ranks (s.container c).heap).1 } with
    msgTask := .expiring c now timer }

theorem next_cases :
    s.next c now = s.update c none ∨
      ∃ timer, (s.container c).getSoonestTimer = some timer ∧
        ¬ 0 < rankTimes now timer.mFutureTime ∧ s.next c now = s.popped c now timer := by
  unfold next LocTimerContainer.popIfOutRanks
  cases htop : (s.container c).getSoonestTimer with
  | none => exact .inl rfl
  | some top =>
    by_cases hrank : 0 < rankTimes now top.mFutureTime
    · exact .inl (by simp only [if_pos hrank])
    · have hpop : (LocHeap.pop LocTimerDelegate.ranks (s.container c).heap).2 = some top :=
        (LocHeap.pop_snd _ _).trans htop
      exact .inr ⟨top, rfl, hrank, by simp only [if_neg hrank, hpop, popped]⟩

theorem procExpire_cases :
    (s.container c).getSoonestTimer = none ∧ s.procExpire c = s.update c none ∨
      ∃ timer, (s.container c).getSoonestTimer = some timer ∧
        s.procExpire c = s.popped c s.clock.time timer := by
  have hpop := LocHeap.pop_snd LocTimerDelegate.ranks (s.container c).heap
  unfold procExpire
  cases htop : (s.container c).getSoonestTimer with
  | none => exact .inl ⟨rfl, by simp only [hpop.trans htop]⟩
  | some top => exact .inr ⟨top, rfl, by simp only [hpop.trans htop, popped]⟩

end Loop

/-! #### What a step can do -/

section Inversion

variable {s s' : TimerSystem}

theorem step_tick {now : BootTime} (h : s.step (.tick now) = some s') :
    s.clock.time.Le now.time ∧ s' = { s with clock := now } := by
  dsimp only [step] at h
  split_ifs at h with hle
  exact ⟨hle, (Option.some.inj h).symm⟩

theorem step_receive (h : s.step .receive = some s') :
    ∃ msg queue, s.msgTask = .idle ∧ s.queue = msg :: queue ∧
      s' = { s with queue := queue }.proc msg := by
  dsimp only [step] at h
  split at h
  · rename_i msg queue htask hqueue
    exact ⟨msg, queue, htask, hqueue, (Option.some.inj h).symm⟩
  · cases h

theorem step_readClient (h : s.step .readClient = some s') :
    ∃ c now timer, s.msgTask = .expiring c now timer ∧
      (timer ∈ s.stopped ∧ s' = s.next c now ∨
        timer ∉ s.stopped ∧ s' = { s with msgTask := .stopping c now timer timer.client }) := by
  dsimp only [step] at h
  split at h
  · rename_i c now timer htask
    refine ⟨c, now, timer, htask, ?_⟩
    split_ifs at h with hstopped
    · exact .inl ⟨hstopped, (Option.some.inj h).symm⟩
    · exact .inr ⟨hstopped, (Option.some.inj h).symm⟩
  · cases h

theorem step_stopClient (h : s.step .stopClient = some s') :
    ∃ c now popped client, s.msgTask = .stopping c now popped client ∧
      (s.mTimer client = none ∧ s' = s.next c now ∨
        ∃ timer, s.mTimer client = some timer ∧
          s' = { (s.stop client).1 with msgTask := .callingBack c now timer }) := by
  dsimp only [step] at h
  split at h
  · rename_i c now popped client htask
    refine ⟨c, now, popped, client, htask, ?_⟩
    cases hclient : s.mTimer client with
    | none =>
      rw [show s.stop client = (s, none) by simp only [stop, hclient]] at h
      exact .inl ⟨rfl, (Option.some.inj h).symm⟩
    | some timer =>
      refine .inr ⟨timer, rfl, ?_⟩
      rw [show s.stop client = ((s.stop client).1, some timer) by simp only [stop, hclient]] at h
      exact (Option.some.inj h).symm
  · cases h

theorem step_timeOutCallback (h : s.step .timeOutCallback = some s') :
    ∃ c now timer, s.msgTask = .callingBack c now timer ∧
      s' = { s with log := s.log ++ [TimerLog.timeOutCallback timer s.clock.time] }.next c now := by
  dsimp only [step] at h
  split at h
  · rename_i c now timer htask
    exact ⟨c, now, timer, htask, (Option.some.inj h).symm⟩
  · cases h

theorem step_sysCall (h : s.step .sysCall = some s') :
    ∃ c call todo, s.msgTask = .updating c (call :: todo) ∧
      s' = { s.setContainer c ((s.container c).sysCall call) with msgTask := .updating c todo } := by
  dsimp only [step] at h
  split at h
  · rename_i c call todo htask
    exact ⟨c, call, todo, htask, (Option.some.inj h).symm⟩
  · cases h

theorem step_finish (h : s.step .finish = some s') :
    (∃ c, s.msgTask = .updating c []) ∧ s' = { s with msgTask := .idle } := by
  dsimp only [step] at h
  split at h
  · rename_i c htask
    exact ⟨⟨c, htask⟩, (Option.some.inj h).symm⟩
  · cases h

theorem step_wake {events : List Bool} (h : s.step (.wake events) = some s') :
    s.pollTask = .waiting ∧ s' = { s with pollTask := nextEvent events } := by
  dsimp only [step] at h
  split_ifs at h with hwait
  exact ⟨hwait.1, (Option.some.inj h).symm⟩

theorem step_poll (h : s.step .poll = some s') :
    ∃ phase c rest, s.pollTask = .expiring phase c rest ∧ s' = s.poll phase c rest := by
  dsimp only [step] at h
  split at h
  · rename_i phase c rest htask
    exact ⟨phase, c, rest, htask, (Option.some.inj h).symm⟩
  · cases h

end Inversion

/-- Nothing has been started. -/
def initial (boot : BootTime) : TimerSystem where
  clock := boot
  mHwTimers := ⟨.nil, none, false⟩
  mSwTimers := ⟨.nil, none, false⟩
  queue := []
  msgTask := .idle
  pollTask := .waiting
  mTimer := fun _ => none
  stopped := []
  created := 0
  log := []

/-- The timers, from boot. -/
def system (boot : BootTime) : System TimerSystem TimerStep := .ofPartial (initial boot) step

end TimerSystem

end GpsHal
