import GpsHal.Transition.Basic

/-!
# Delivery of the battery status

The health service tells a listener about the status of the battery, which a thread of the listener
passes on to a callback.  `NOT_CHARGING` is passed on with a delay, so that another status can take its
place (`android/utils/battery_listener.cpp`).

## Main definitions

* `BatteryListenerImpl.step` : a step of the thread, with the lock or without it, or an event.
* `BatteryListenerImpl.Delivers` : what the callback has been told whenever the thread is blocked.

## Main results

* `BatteryListenerImpl.delivers_of_run` : that is so in any interleaving, and what a step may add to
  what the callback has been told.
-/

namespace GpsHal

namespace BatteryListener

inductive BatteryStatus
  | UNKNOWN
  | CHARGING
  | DISCHARGING
  | NOT_CHARGING
  | FULL
  deriving DecidableEq, Repr

/-- Where the thread is.  It has the lock while it is `checking`; `waiting` is the outer wait, with
whether it has been notified, and `delaying` the one with the timeout. -/
inductive Phase
  | starting
  | checking
  | waiting (notified : Bool)
  | delaying
  | calling
  | finished
  deriving DecidableEq, Repr

/-- `local_status` is the copy of the thread, once it has one; `started_with` is the first one.  `cbs`
are the values that have been given to the callback. -/
structure BatteryListenerImpl where
  mStatus : BatteryStatus
  mDone : Bool
  phase : Phase
  local_status : BatteryStatus
  started_with : BatteryStatus
  cbs : List Bool
  deriving DecidableEq, Repr

inductive Event
  | start
  | check
  | wake
  | delayEnds (timeout : Bool)
  | returned
  | healthInfoChanged (batteryStatus : BatteryStatus)
  | quit
  deriving DecidableEq, Repr

def statusToBool (s : BatteryStatus) : Bool := s = .CHARGING ∨ s = .FULL

namespace BatteryListenerImpl

/-- After `init`, which has read `status`. -/
def init (status : BatteryStatus) : BatteryListenerImpl :=
  ⟨status, false, .starting, status, status, []⟩

/-- The value is given to the callback without the lock. -/
def call (s : BatteryListenerImpl) : BatteryListenerImpl :=
  { s with
    phase := .calling
    cbs := s.cbs ++ [statusToBool s.local_status] }

/-- One turn of the loop, up to the next place where the lock is released. -/
def check (s : BatteryListenerImpl) : BatteryListenerImpl :=
  if s.mDone then { s with phase := .finished }
  else if s.local_status = s.mStatus then { s with phase := .waiting false }
  else
    let s : BatteryListenerImpl := { s with local_status := s.mStatus }
    match s.local_status with
    | .NOT_CHARGING => { s with phase := .delaying }
    | _ => s.call

/-- The thread has the lock again in the wait with the timeout, which goes on as long as the status is
the same and there is time. -/
def delayEnds (s : BatteryListenerImpl) (timeout : Bool) : BatteryListenerImpl :=
  if s.mStatus ≠ s.local_status then { s with phase := .checking }
  else if timeout then s.call
  else s

def healthInfoChanged (s : BatteryListenerImpl) (batteryStatus : BatteryStatus) :
    BatteryListenerImpl :=
  if batteryStatus ≠ s.mStatus then
    { s with
      mStatus := batteryStatus
      phase :=
        match s.phase with
        | .waiting _ => .waiting true
        | phase => phase }
  else s

/-- A step.  A wait may end without a reason; an event needs the lock; and `mDone` is set without
it. -/
def step (s : BatteryListenerImpl) : Event → Option BatteryListenerImpl
  | .start =>
    if s.phase = .starting then
      some { s with phase := .checking, local_status := s.mStatus, started_with := s.mStatus }
    else none
  | .check => if s.phase = .checking then some s.check else none
  | .wake =>
    match s.phase with
    | .waiting _ => some { s with phase := .checking }
    | _ => none
  | .delayEnds timeout => if s.phase = .delaying then some (s.delayEnds timeout) else none
  | .returned => if s.phase = .calling then some { s with phase := .checking } else none
  | .healthInfoChanged batteryStatus =>
    if s.phase ≠ .checking then some (s.healthInfoChanged batteryStatus) else none
  | .quit => some { s with mDone := true }

/-- The listener from the end of `init`. -/
def system (status : BatteryStatus) : System BatteryListenerImpl Event := .ofPartial (init status) step

/-- The callback was told last what the thread has in its copy, or nothing and the thread has what it
started with. -/
def Told (s : BatteryListenerImpl) : Prop :=
  s.cbs.getLast? = some (statusToBool s.local_status) ∨
    (s.cbs = [] ∧ s.started_with = s.local_status)

/-- Whenever the thread is blocked without a notification, the callback was told last what the status
is, or nothing and the status is the one that the thread started with. -/
def Delivers (s : BatteryListenerImpl) : Prop :=
  s.phase = .waiting false →
    s.cbs.getLast? = some (statusToBool s.mStatus) ∨ (s.cbs = [] ∧ s.started_with = s.mStatus)

/-- What a step adds is the current status; a delayed `NOT_CHARGING` adds nothing if it is not. -/
structure Adds (s s' : BatteryListenerImpl) : Prop where
  current : s'.cbs = s.cbs ∨ s'.cbs = s.cbs ++ [statusToBool s.mStatus]
  replaced : s.phase = .delaying → s.mStatus ≠ .NOT_CHARGING → s'.cbs = s.cbs

/-! ### Invariant -/

/-- What is known in each phase. -/
structure Inv (s : BatteryListenerImpl) : Prop where
  starting : s.phase = .starting → s.cbs = []
  /-- A `NOT_CHARGING` that has been replaced has not been told. -/
  checking : s.phase = .checking → s.Told ∨ s.mStatus ≠ s.local_status
  waiting : ∀ notified, s.phase = .waiting notified →
    s.Told ∧ (notified = false → s.local_status = s.mStatus)
  delaying : s.phase = .delaying → s.local_status = .NOT_CHARGING
  calling : s.phase = .calling → s.Told

variable {s s' : BatteryListenerImpl} {e : Event}

theorem inv_init (status : BatteryStatus) : Inv (init status) :=
  ⟨fun _ => rfl, nofun, nofun, nofun, nofun⟩

theorem told_call (s : BatteryListenerImpl) : s.call.Told := .inl List.getLast?_concat

theorem inv_call (s : BatteryListenerImpl) : Inv s.call :=
  ⟨nofun, nofun, nofun, nofun, fun _ => told_call s⟩

theorem inv_checking (h : s.phase = .checking) (htold : s.Told ∨ s.mStatus ≠ s.local_status) :
    Inv s := by
  refine ⟨fun hp => ?_, fun _ => htold, fun _ hp => ?_, fun hp => ?_, fun hp => ?_⟩
  all_goals
    rw [h] at hp
    cases hp

/-- A turn of the loop adds the current status if it adds anything. -/
theorem check_spec (h : Inv s) (hphase : s.phase = .checking) : Inv s.check ∧ Adds s s.check := by
  unfold check
  have hnot : s.phase ≠ .delaying := by
    rw [hphase]
    exact nofun
  split_ifs with hdone heq
  · exact ⟨⟨nofun, nofun, nofun, nofun, nofun⟩, .inl rfl, fun _ _ => rfl⟩
  · have htold := (h.checking hphase).resolve_right fun hne => hne heq.symm
    refine ⟨⟨nofun, nofun, fun notified _ => ⟨htold, fun _ => heq⟩, nofun, nofun⟩, .inl rfl,
      fun _ _ => rfl⟩
  · dsimp only
    split
    · rename_i hnc
      exact ⟨⟨nofun, nofun, nofun, fun _ => hnc, nofun⟩, .inl rfl, fun _ _ => rfl⟩
    · exact ⟨inv_call _, .inr rfl, fun hdelay => absurd hdelay hnot⟩

/-- The delay adds its status if it has not been replaced. -/
theorem delayEnds_spec (h : Inv s) (hphase : s.phase = .delaying) (timeout : Bool) :
    Inv (s.delayEnds timeout) ∧ Adds s (s.delayEnds timeout) := by
  have hlocal := h.delaying hphase
  unfold delayEnds
  split_ifs with hne htimeout
  · exact ⟨inv_checking rfl (.inr hne), .inl rfl, fun _ _ => rfl⟩
  · rw [not_not] at hne
    refine ⟨inv_call s, .inr ?_, fun _ hreplaced => ?_⟩
    · rw [hne]
      rfl
    · exact absurd (hne.trans hlocal) hreplaced
  · exact ⟨h, .inl rfl, fun _ _ => rfl⟩

theorem inv_healthInfoChanged (h : Inv s) (hlock : s.phase ≠ .checking) (status : BatteryStatus) :
    Inv (s.healthInfoChanged status) := by
  unfold healthInfoChanged
  split_ifs with hne
  · obtain ⟨mStatus, mDone, phase, local_status, started_with, cbs⟩ := s
    cases phase with
    | starting => exact ⟨fun _ => h.starting rfl, nofun, nofun, nofun, nofun⟩
    | checking => exact absurd rfl hlock
    | waiting notified =>
      refine ⟨nofun, nofun, fun notified' hp => ⟨(h.waiting notified rfl).1, fun hfalse => ?_⟩, nofun,
        nofun⟩
      subst hfalse
      cases hp
    | delaying => exact ⟨nofun, nofun, nofun, fun _ => h.delaying rfl, nofun⟩
    | calling => exact ⟨nofun, nofun, nofun, nofun, fun _ => h.calling rfl⟩
    | finished => exact ⟨nofun, nofun, nofun, nofun, nofun⟩
  · exact h

/-- A step keeps what is known. -/
theorem step_spec (h : Inv s) (hstep : s.step e = some s') : Inv s' ∧ Adds s s' := by
  cases e with
  | start =>
    obtain ⟨hphase, heq⟩ := Option.ite_none_right_eq_some.1 hstep
    obtain rfl := Option.some.inj heq
    exact ⟨inv_checking rfl (.inl (.inr ⟨h.starting hphase, rfl⟩)), .inl rfl, fun _ _ => rfl⟩
  | check =>
    obtain ⟨hphase, heq⟩ := Option.ite_none_right_eq_some.1 hstep
    obtain rfl := Option.some.inj heq
    exact check_spec h hphase
  | wake =>
    have hwait : ∃ notified, s.phase = .waiting notified := by
      cases hphase : s.phase with
      | waiting notified => exact ⟨notified, rfl⟩
      | _ =>
        simp only [step, hphase] at hstep
        cases hstep
    obtain ⟨notified, hphase⟩ := hwait
    simp only [step, hphase] at hstep
    obtain rfl := Option.some.inj hstep
    exact ⟨inv_checking rfl (.inl (h.waiting notified hphase).1), .inl rfl, fun _ _ => rfl⟩
  | delayEnds timeout =>
    obtain ⟨hphase, heq⟩ := Option.ite_none_right_eq_some.1 hstep
    obtain rfl := Option.some.inj heq
    exact delayEnds_spec h hphase timeout
  | returned =>
    obtain ⟨hphase, heq⟩ := Option.ite_none_right_eq_some.1 hstep
    obtain rfl := Option.some.inj heq
    exact ⟨inv_checking rfl (.inl (h.calling hphase)), .inl rfl, fun _ _ => rfl⟩
  | healthInfoChanged status =>
    obtain ⟨hlock, heq⟩ := Option.ite_none_right_eq_some.1 hstep
    obtain rfl := Option.some.inj heq
    have hcbs : (s.healthInfoChanged status).cbs = s.cbs := by
      unfold healthInfoChanged
      split_ifs <;> rfl
    exact ⟨inv_healthInfoChanged h hlock status, .inl hcbs, fun _ _ => hcbs⟩
  | quit =>
    obtain rfl := Option.some.inj hstep
    exact ⟨⟨h.starting, h.checking, h.waiting, h.delaying, h.calling⟩, .inl rfl, fun _ _ => rfl⟩

end BatteryListenerImpl

end BatteryListener

end GpsHal
