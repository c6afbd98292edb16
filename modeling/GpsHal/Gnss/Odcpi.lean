import GpsHal.Transition.Basic
import Mathlib.Data.List.Chain

/-!
# `GnssAdapter` : on demand cell positioning

The modem starts and stops requests for a position that the framework injects.  A request is passed
on to the framework at once, and again whenever the timer expires while it is still active.  The
timer also runs on after a stop, so that requests in quick succession do not flood the framework.
Its expiry only queues a message.

## Main definitions

* `OdcpiAdapter` : the adapter, its queue, the time and the calls of the framework so far.
* `OdcpiAdapter.requestOdcpi`, `OdcpiAdapter.odcpiTimerExpire` : a request and an expiry.
* `OdcpiAdapter.Paced` : consecutive calls are a period apart, unless an emergency request replaces
  one that is none.
* `OdcpiAdapter.OnTime` : the condition on a step under which it keeps the pace.

## Main results

* `OdcpiAdapter.watched_run` : an active request always has the timer or its message.
* `OdcpiAdapter.odcpi_pacing` : this, and the pace of all runs whose steps are on time.
-/

namespace GpsHal

def ODCPI_EXPECTED_INJECTION_TIME_MS : ℕ := 10000

inductive OdcpiRequestType where
  | START | STOP
  deriving DecidableEq, Repr

structure OdcpiRequestInfo where
  type : OdcpiRequestType
  tbfMillis : BitVec 32
  isEmergencyMode : Bool
  deriving DecidableEq, Repr

/-- `OdcpiTimer` -/
structure OdcpiTimer where
  mActive : Bool
  /-- The time that the timer is due at, while it is running. -/
  due : Option ℕ
  deriving DecidableEq, Repr

namespace OdcpiTimer

/-- A timer that is running is left as it is. -/
def start (t : OdcpiTimer) (now : ℕ) : OdcpiTimer where
  mActive := true
  due := t.due <|> some (now + ODCPI_EXPECTED_INJECTION_TIME_MS)

def stop (_ : OdcpiTimer) : OdcpiTimer where
  mActive := false
  due := none

def restart (t : OdcpiTimer) (now : ℕ) : OdcpiTimer := t.stop.start now

def isActive (t : OdcpiTimer) : Bool := t.mActive

end OdcpiTimer

/-- Why the framework is called: for a request, with the request in force when it arrives, or
because the timer has expired. -/
inductive OdcpiCause where
  | start (inForce : Option OdcpiRequestInfo)
  | expire
  deriving DecidableEq, Repr

/-- A call of `mOdcpiRequestCb`. -/
structure OdcpiCall where
  time : ℕ
  request : OdcpiRequestInfo
  cause : OdcpiCause
  deriving DecidableEq, Repr

/-- The messages of the adapter that have to do with the requests. -/
inductive OdcpiMsg where
  | initOdcpi
  | requestOdcpi (request : OdcpiRequestInfo)
  | engineUp
  | timerExpire
  deriving DecidableEq, Repr

/-- The adapter, with the time in milliseconds. -/
structure OdcpiAdapter where
  /-- There is a callback. -/
  mOdcpiRequestCb : Bool
  mOdcpiRequestActive : Bool
  mOdcpiTimer : OdcpiTimer
  mOdcpiRequest : OdcpiRequestInfo
  msgs : List OdcpiMsg
  now : ℕ
  /-- The calls of the framework, oldest first. -/
  calls : List OdcpiCall
  deriving DecidableEq, Repr

namespace OdcpiAdapter

/-- The request in force, if there is an active one. -/
def inForce (s : OdcpiAdapter) : Option OdcpiRequestInfo :=
  if s.mOdcpiRequestActive then some s.mOdcpiRequest else none

/-- Call the framework. -/
def callFramework (s : OdcpiAdapter) (request : OdcpiRequestInfo) (cause : OdcpiCause) :
    OdcpiAdapter := { s with calls := s.calls ++ [⟨s.now, request, cause⟩] }

def setTimer (s : OdcpiAdapter) (t : OdcpiTimer) : OdcpiAdapter := { s with mOdcpiTimer := t }

def setActive (s : OdcpiAdapter) (active : Bool) : OdcpiAdapter :=
  { s with mOdcpiRequestActive := active }

/-- The part of `requestOdcpi` for a request of type START, before the request is stored. -/
def startOdcpi (s : OdcpiAdapter) (request : OdcpiRequestInfo) : OdcpiAdapter :=
  if s.mOdcpiRequestActive = false ∧ s.mOdcpiTimer.isActive = false then
    ((s.callFramework request (.start s.inForce)).setActive true).setTimer
      (s.mOdcpiTimer.start s.now)
  else if s.mOdcpiRequest.isEmergencyMode = false ∧ request.isEmergencyMode = true then
    let s' := (s.callFramework request (.start s.inForce)).setActive true
    if s.mOdcpiTimer.isActive then s'.setTimer (s.mOdcpiTimer.restart s.now)
    else s'.setTimer (s.mOdcpiTimer.start s.now)
  else if s.mOdcpiRequestActive = false ∧ s.mOdcpiTimer.isActive = true then
    -- wait for the timer to expire
    s.setActive true
  else s

def requestOdcpi (s : OdcpiAdapter) (request : OdcpiRequestInfo) : OdcpiAdapter :=
  if s.mOdcpiRequestCb then
    match request.type with
    | .START =>
      let s := s.startOdcpi request
      { s with mOdcpiRequest := request }
    | .STOP => s.setActive false
  else s

def odcpiTimerExpire (s : OdcpiAdapter) : OdcpiAdapter :=
  if s.mOdcpiRequestActive then
    (s.callFramework s.mOdcpiRequest .expire).setTimer (s.mOdcpiTimer.restart s.now)
  else s.setTimer s.mOdcpiTimer.stop

def initOdcpi (s : OdcpiAdapter) : OdcpiAdapter := { s with mOdcpiRequestCb := true }

/-- What processing a message does; `restartSessions` is the part of an engine that comes up. -/
def procMsg (s : OdcpiAdapter) : OdcpiMsg → OdcpiAdapter
  | .initOdcpi => s.initOdcpi
  | .requestOdcpi request => s.requestOdcpi request
  | .engineUp => s.setActive false
  | .timerExpire => s.odcpiTimerExpire

def proc (s : OdcpiAdapter) : Option OdcpiAdapter :=
  match s.msgs with
  | [] => none
  | m :: ms => some ({ s with msgs := ms }.procMsg m)

def sendMsg (s : OdcpiAdapter) (m : OdcpiMsg) : OdcpiAdapter := { s with msgs := s.msgs ++ [m] }

/-- A timer that is due expires: it does not run any more, and its message is queued. -/
def timeOut (s : OdcpiAdapter) : Option OdcpiAdapter :=
  match s.mOdcpiTimer.due with
  | none => none
  | some due =>
    if due ≤ s.now then some ((s.setTimer { s.mOdcpiTimer with due := none }).sendMsg .timerExpire)
    else none

/-- What can happen. -/
inductive Input where
  | initOdcpiCommand
  | requestOdcpiEvent (request : OdcpiRequestInfo)
  | handleEngineUpEvent
  | timeOut
  | elapse (ms : ℕ)
  | proc
  deriving DecidableEq, Repr

def step (s : OdcpiAdapter) : Input → Option OdcpiAdapter
  | .initOdcpiCommand => some (s.sendMsg .initOdcpi)
  | .requestOdcpiEvent request => some (s.sendMsg (.requestOdcpi request))
  | .handleEngineUpEvent => some (s.sendMsg .engineUp)
  | .timeOut => s.timeOut
  | .elapse ms => some { s with now := s.now + ms }
  | .proc => s.proc

def init : OdcpiAdapter where
  mOdcpiRequestCb := false
  mOdcpiRequestActive := false
  mOdcpiTimer := ⟨false, none⟩
  mOdcpiRequest := ⟨.START, 0, false⟩
  msgs := []
  now := 0
  calls := []

def system : System OdcpiAdapter Input := .ofPartial init step

/-! ### The pace -/

/-- The call is made because an emergency request arrives while the request in force is none. -/
def Replaces (c : OdcpiCall) : Prop :=
  c.request.isEmergencyMode = true ∧
    ∃ request, c.cause = .start (some request) ∧ request.isEmergencyMode = false

/-- Two consecutive calls are a period apart, or the second one replaces a request. -/
def Spaced (c c' : OdcpiCall) : Prop :=
  c.time + ODCPI_EXPECTED_INJECTION_TIME_MS ≤ c'.time ∨ Replaces c'

/-- Every call keeps its distance from the one before. -/
def Paced (calls : List OdcpiCall) : Prop := calls.IsChain Spaced

/-- No call has been made for a period. -/
def Rested (s : OdcpiAdapter) : Prop :=
  ∀ c ∈ s.calls.getLast?, c.time + ODCPI_EXPECTED_INJECTION_TIME_MS ≤ s.now

/-- The condition on a message: an emergency request that restarts the timer finds a request in
force or comes late enough, and an expiry finds the timer stopped or due again. -/
def MsgOnTime (s : OdcpiAdapter) : OdcpiMsg → Prop
  | .requestOdcpi request => s.mOdcpiRequestCb = true → request.type = .START →
      s.mOdcpiTimer.isActive = true → s.mOdcpiRequest.isEmergencyMode = false →
      request.isEmergencyMode = true → s.mOdcpiRequestActive = true ∨ s.Rested
  | .timerExpire => ∀ due ∈ s.mOdcpiTimer.due, due ≤ s.now
  | _ => True

/-- The condition on a step. -/
def OnTime (s : OdcpiAdapter) : Input → Prop
  | .proc => ∀ m ∈ s.msgs.head?, s.MsgOnTime m
  | _ => True

/-- An active request has the timer running or its message queued. -/
def Watched (s : OdcpiAdapter) : Prop :=
  s.mOdcpiRequestActive = true → s.mOdcpiTimer.due ≠ none ∨ .timerExpire ∈ s.msgs

section Lemmas

variable {s s' : OdcpiAdapter} {es : List Input}

/-! ### The timer -/

/-- The flag of the timer is on while a request is active, and only while the timer is running or
its message is queued. -/
structure Ticking (s : OdcpiAdapter) : Prop where
  active : s.mOdcpiRequestActive = true → s.mOdcpiTimer.mActive = true
  due : s.mOdcpiTimer.mActive = true → s.mOdcpiTimer.due ≠ none ∨ .timerExpire ∈ s.msgs
  off : s.mOdcpiTimer.mActive = false → s.mOdcpiTimer.due = none

theorem Ticking.watched (h : s.Ticking) : s.Watched := fun ha => h.due (h.active ha)

theorem start_due_ne (t : OdcpiTimer) (now : ℕ) : (t.start now).due ≠ none := by
  unfold OdcpiTimer.start
  cases t.due <;> simp

/-- A timer that has just been started runs. -/
theorem Ticking.of_start {t : OdcpiTimer} {now : ℕ} (h : s.mOdcpiTimer = t.start now) :
    s.Ticking := by
  refine ⟨fun _ => ?_, fun _ => .inl ?_, fun hoff => ?_⟩
  · rw [h]; rfl
  · rw [h]; exact start_due_ne t now
  · rw [h] at hoff; cases hoff

theorem Ticking.setActive_false (h : s.Ticking) : (s.setActive false).Ticking :=
  ⟨nofun, h.due, h.off⟩

theorem Ticking.startOdcpi (h : s.Ticking) (request : OdcpiRequestInfo) :
    (s.startOdcpi request).Ticking := by
  unfold OdcpiAdapter.startOdcpi
  split
  · exact .of_start rfl
  split
  · simp only
    split <;> exact .of_start rfl
  split
  · rename_i hactive
    exact ⟨fun _ => hactive.2, h.due, h.off⟩
  · exact h

theorem Ticking.requestOdcpi (h : s.Ticking) (request : OdcpiRequestInfo) :
    (s.requestOdcpi request).Ticking := by
  unfold OdcpiAdapter.requestOdcpi
  split
  · cases request.type with
    | START =>
      have h' := h.startOdcpi request
      exact ⟨h'.active, h'.due, h'.off⟩
    | STOP => exact h.setActive_false
  · exact h

/-- Whatever the timer was like, after an expiry it runs exactly if a request is active. -/
theorem Ticking.odcpiTimerExpire (s : OdcpiAdapter) : s.odcpiTimerExpire.Ticking := by
  unfold OdcpiAdapter.odcpiTimerExpire
  split
  · exact .of_start rfl
  · rename_i hactive
    exact ⟨fun ha => absurd ha hactive, nofun, fun _ => rfl⟩

theorem Ticking.proc (h : s.Ticking) (hst : s.proc = some s') : s'.Ticking := by
  unfold OdcpiAdapter.proc at hst
  cases hm : s.msgs with
  | nil => rw [hm] at hst; cases hst
  | cons m ms =>
    rw [hm] at hst
    obtain rfl := Option.some.inj hst
    -- every message but the expiry leaves the expiry in the queue
    have hrest (hne : m ≠ .timerExpire) : ({ s with msgs := ms } : OdcpiAdapter).Ticking := by
      refine ⟨h.active, fun hon => (h.due hon).imp_right fun hin => ?_, h.off⟩
      rw [hm, List.mem_cons] at hin
      exact hin.resolve_left hne.symm
    cases m with
    | initOdcpi =>
      have h' := hrest nofun
      exact ⟨h'.active, h'.due, h'.off⟩
    | requestOdcpi request => exact (hrest nofun).requestOdcpi request
    | engineUp => exact (hrest nofun).setActive_false
    | timerExpire => exact .odcpiTimerExpire _

theorem Ticking.sendMsg (h : s.Ticking) (m : OdcpiMsg) : (s.sendMsg m).Ticking :=
  ⟨h.active, fun hon => (h.due hon).imp_right fun hin => List.mem_append_left _ hin, h.off⟩

theorem timeOut_eq (hst : s.timeOut = some s') : ∃ due ≤ s.now, s.mOdcpiTimer.due = some due ∧
    s' = (s.setTimer { s.mOdcpiTimer with due := none }).sendMsg .timerExpire := by
  unfold OdcpiAdapter.timeOut at hst
  cases hdue : s.mOdcpiTimer.due with
  | none => rw [hdue] at hst; cases hst
  | some due =>
    rw [hdue] at hst
    simp only [Option.ite_none_right_eq_some] at hst
    exact ⟨due, hst.1, rfl, (Option.some.inj hst.2).symm⟩

theorem Ticking.step (h : s.Ticking) {e : Input} (hst : step s e = some s') : s'.Ticking := by
  cases e with
  | initOdcpiCommand => obtain rfl := Option.some.inj hst; exact h.sendMsg _
  | requestOdcpiEvent request => obtain rfl := Option.some.inj hst; exact h.sendMsg _
  | handleEngineUpEvent => obtain rfl := Option.some.inj hst; exact h.sendMsg _
  | timeOut =>
    obtain ⟨due, -, -, rfl⟩ := timeOut_eq hst
    exact ⟨h.active, fun _ => .inr (List.mem_append_right _ (List.mem_singleton.2 rfl)),
      fun _ => rfl⟩
  | elapse ms =>
    obtain rfl := Option.some.inj hst
    exact ⟨h.active, h.due, h.off⟩
  | proc => exact h.proc hst

theorem ticking_init : init.Ticking := ⟨nofun, nofun, fun _ => rfl⟩

theorem ticking_run {G : OdcpiAdapter → Input → Prop} (h : system.Run G es s) : s.Ticking :=
  h.invariant (I := Ticking) ticking_init fun _ _ _ hI _ hst => hI.step hst

/-! ### The calls -/

theorem paced_snoc {calls : List OdcpiCall} {c : OdcpiCall} :
    Paced (calls ++ [c]) ↔ Paced calls ∧ ∀ c' ∈ calls.getLast?, Spaced c' c := by
  simp [Paced, List.isChain_append]

/-- The calls are paced so far, and the timer tells when the next one may be made. -/
structure OnPace (s : OdcpiAdapter) : Prop where
  paced : Paced s.calls
  rested : s.mOdcpiTimer.due = none → s.Rested
  due : ∀ due ∈ s.mOdcpiTimer.due,
    ∃ c ∈ s.calls.getLast?, due = c.time + ODCPI_EXPECTED_INJECTION_TIME_MS
  callback : s.mOdcpiRequestCb = false → s.calls = [] ∧ s.mOdcpiRequestActive = false

theorem OnPace.congr (h : s.OnPace) (hcalls : s'.calls = s.calls)
    (hdue : s'.mOdcpiTimer.due = s.mOdcpiTimer.due) (hnow : s.now ≤ s'.now)
    (hcb : s'.mOdcpiRequestCb = false → s.mOdcpiRequestCb = false ∧
      (s.mOdcpiRequestActive = false → s'.mOdcpiRequestActive = false)) : s'.OnPace := by
  refine ⟨by rw [hcalls]; exact h.paced, fun hnone c hc => ?_, ?_, fun hno => ?_⟩
  · rw [hcalls] at hc
    exact (h.rested (hdue ▸ hnone) c hc).trans hnow
  · rw [hdue, hcalls]
    exact h.due
  · obtain ⟨hnone, hidle⟩ := h.callback (hcb hno).1
    exact ⟨hcalls.trans hnone, (hcb hno).2 hidle⟩

/-- A call that keeps its distance, after which the timer runs for a period. -/
theorem OnPace.called (h : s.OnPace) {request : OdcpiRequestInfo} {cause : OdcpiCause}
    (hcalls : s'.calls = s.calls ++ [⟨s.now, request, cause⟩])
    (hdue : s'.mOdcpiTimer.due = some (s.now + ODCPI_EXPECTED_INJECTION_TIME_MS))
    (hcb : s'.mOdcpiRequestCb = true)
    (hspaced : s.Rested ∨ Replaces ⟨s.now, request, cause⟩) : s'.OnPace := by
  refine ⟨?_, fun hnone => ?_, fun due hd => ?_, fun hno => ?_⟩
  · rw [hcalls, paced_snoc]
    refine ⟨h.paced, fun c hc => ?_⟩
    exact hspaced.imp (fun hr => hr c hc) id
  · rw [hdue] at hnone; cases hnone
  · rw [hdue] at hd
    obtain rfl := Option.some.inj hd
    rw [hcalls, List.getLast?_concat]
    exact ⟨_, rfl, rfl⟩
  · exact absurd (hcb.symm.trans hno) (by decide)

theorem start_due (t : OdcpiTimer) (now : ℕ) (h : t.due = none) :
    (t.start now).due = some (now + ODCPI_EXPECTED_INJECTION_TIME_MS) := by
  unfold OdcpiTimer.start
  rw [h]
  rfl

theorem OnPace.startOdcpi (h : s.OnPace)
    (hoff : s.mOdcpiTimer.mActive = false → s.mOdcpiTimer.due = none) {request : OdcpiRequestInfo}
    (hcb : s.mOdcpiRequestCb = true)
    (hok : s.mOdcpiTimer.isActive = true → s.mOdcpiRequest.isEmergencyMode = false →
      request.isEmergencyMode = true → s.mOdcpiRequestActive = true ∨ s.Rested) :
    (s.startOdcpi request).OnPace := by
  unfold OdcpiAdapter.startOdcpi
  split
  · rename_i hidle
    have hnone := hoff hidle.2
    exact h.called rfl (start_due _ _ hnone) hcb (.inl (h.rested hnone))
  rename_i hbusy
  split
  · rename_i hem
    have hspaced : s.Rested ∨ Replaces ⟨s.now, request, .start s.inForce⟩ := by
      cases hactive : s.mOdcpiRequestActive with
      | true =>
        refine .inr ⟨hem.2, s.mOdcpiRequest, ?_, hem.1⟩
        simp [inForce, hactive]
      | false =>
        have hon : s.mOdcpiTimer.isActive = true :=
          eq_true_of_ne_false fun hoff => hbusy ⟨hactive, hoff⟩
        have hok := hok hon hem.1 hem.2
        rw [hactive] at hok
        exact .inl (hok.resolve_left (by decide))
    simp only
    split
    · exact h.called rfl rfl hcb hspaced
    · rename_i hidle
      exact h.called rfl (start_due _ _ (hoff (Bool.eq_false_iff.2 hidle))) hcb hspaced
  split
  · exact h.congr rfl rfl le_rfl fun hno => absurd (hcb.symm.trans hno) (by decide)
  · exact h

theorem OnPace.requestOdcpi (h : s.OnPace)
    (hoff : s.mOdcpiTimer.mActive = false → s.mOdcpiTimer.due = none) {request : OdcpiRequestInfo}
    (hok : s.MsgOnTime (.requestOdcpi request)) : (s.requestOdcpi request).OnPace := by
  unfold OdcpiAdapter.requestOdcpi
  split
  · rename_i hcb
    cases htype : request.type with
    | START =>
      exact (h.startOdcpi hoff hcb (hok hcb htype)).congr rfl rfl le_rfl fun hno => ⟨hno, id⟩
    | STOP => exact h.congr rfl rfl le_rfl fun hno => ⟨hno, fun _ => rfl⟩
  · exact h

theorem OnPace.rested_of_due (h : s.OnPace) (hdue : ∀ due ∈ s.mOdcpiTimer.due, due ≤ s.now) :
    s.Rested := by
  cases hd : s.mOdcpiTimer.due with
  | none => exact h.rested hd
  | some due =>
    obtain ⟨c, hc, rfl⟩ := h.due due hd
    intro c' hc'
    obtain rfl := Option.mem_unique hc hc'
    exact hdue _ hd

theorem OnPace.odcpiTimerExpire (h : s.OnPace) (hok : s.MsgOnTime .timerExpire) :
    s.odcpiTimerExpire.OnPace := by
  have hrested := h.rested_of_due hok
  unfold OdcpiAdapter.odcpiTimerExpire
  split
  · rename_i hactive
    have hcb : s.mOdcpiRequestCb = true := eq_true_of_ne_false fun hno =>
      absurd (hactive.symm.trans (h.callback hno).2) (by decide)
    exact h.called rfl rfl hcb (.inl hrested)
  · exact ⟨h.paced, fun _ => hrested, nofun, h.callback⟩

theorem OnPace.proc (h : s.OnPace) (ht : s.Ticking) (hok : s.OnTime .proc)
    (hst : s.proc = some s') : s'.OnPace := by
  unfold OdcpiAdapter.proc at hst
  cases hm : s.msgs with
  | nil => rw [hm] at hst; cases hst
  | cons m ms =>
    rw [hm] at hst
    obtain rfl := Option.some.inj hst
    have h' : ({ s with msgs := ms } : OdcpiAdapter).OnPace :=
      h.congr rfl rfl le_rfl fun hno => ⟨hno, id⟩
    have hok : s.MsgOnTime m := hok m (by rw [hm]; rfl)
    cases m with
    | initOdcpi => exact h'.congr rfl rfl le_rfl nofun
    | requestOdcpi request => exact h'.requestOdcpi ht.off hok
    | engineUp => exact h'.congr rfl rfl le_rfl fun hno => ⟨hno, fun _ => rfl⟩
    | timerExpire => exact h'.odcpiTimerExpire hok

theorem OnPace.step (h : s.OnPace) (ht : s.Ticking) {e : Input} (hok : s.OnTime e)
    (hst : step s e = some s') : s'.OnPace := by
  cases e with
  | initOdcpiCommand | requestOdcpiEvent | handleEngineUpEvent =>
    obtain rfl := Option.some.inj hst
    exact h.congr rfl rfl le_rfl fun hno => ⟨hno, id⟩
  | timeOut =>
    obtain ⟨due, hle, hdue, rfl⟩ := timeOut_eq hst
    refine ⟨h.paced, fun _ => h.rested_of_due fun d hd => ?_, nofun, h.callback⟩
    obtain rfl := Option.mem_unique hdue hd
    exact hle
  | elapse ms =>
    obtain rfl := Option.some.inj hst
    exact h.congr rfl rfl (Nat.le_add_right _ _) fun hno => ⟨hno, id⟩
  | proc => exact h.proc ht hok hst

theorem onPace_init : init.OnPace := by
  refine ⟨List.IsChain.nil, fun _ c hc => ?_, nofun, fun _ => ⟨rfl, rfl⟩⟩
  cases hc

/-! ### What happens off time -/

/-- The next request of type START, if it is processed at once, calls the framework too early. -/
def Hasty (s : OdcpiAdapter) : Prop :=
  ∀ request : OdcpiRequestInfo, request.type = .START → ¬ Paced (s.requestOdcpi request).calls

/-- A call without a request in force that is made before its time. -/
theorem not_paced_call {request : OdcpiRequestInfo} {cause : OdcpiCause} (hno : ¬ s.Rested)
    (hcause : ∀ r, cause ≠ .start (some r)) :
    ¬ Paced (s.calls ++ [⟨s.now, request, cause⟩]) := by
  rw [paced_snoc]
  rintro ⟨-, hspaced⟩
  refine hno fun c hc => (hspaced c hc).resolve_right ?_
  rintro ⟨-, r, hr, -⟩
  exact hcause r hr

theorem not_paced_requestOdcpi {request : OdcpiRequestInfo}
    (hbad : ¬ s.MsgOnTime (.requestOdcpi request)) : ¬ Paced (s.requestOdcpi request).calls := by
  simp only [MsgOnTime, not_forall, not_or] at hbad
  obtain ⟨hcb, htype, hon, hnon, hem, hidle, hno⟩ := hbad
  have hforce : s.inForce = none := by simp [inForce, hidle]
  have hcalls : (s.requestOdcpi request).calls =
      s.calls ++ [⟨s.now, request, .start s.inForce⟩] := by
    unfold OdcpiAdapter.requestOdcpi OdcpiAdapter.startOdcpi
    rw [if_pos hcb, htype]
    simp only [hon, hnon, hem, Bool.true_eq_false, and_false, if_false, and_self, if_true]
    rfl
  rw [hcalls, hforce]
  exact not_paced_call hno nofun

/-- A request that finds neither an active request nor the timer is passed on. -/
theorem requestOdcpi_idle {request : OdcpiRequestInfo} (hcb : s.mOdcpiRequestCb = true)
    (hidle : s.mOdcpiRequestActive = false) (hoff : s.mOdcpiTimer.isActive = false)
    (htype : request.type = .START) :
    (s.requestOdcpi request).calls = s.calls ++ [⟨s.now, request, .start none⟩] := by
  have hforce : s.inForce = none := by simp [inForce, hidle]
  unfold OdcpiAdapter.requestOdcpi OdcpiAdapter.startOdcpi
  rw [if_pos hcb, htype, if_pos ⟨hidle, hoff⟩, hforce]
  rfl

/-- An expiry that comes while the timer is not due again calls the framework too early, or lets
the next request do so. -/
theorem hasty_odcpiTimerExpire (h : s.OnPace) (hbad : ¬ s.MsgOnTime .timerExpire) :
    ¬ Paced s.odcpiTimerExpire.calls ∨ s.odcpiTimerExpire.Hasty := by
  simp only [MsgOnTime, not_forall, not_le] at hbad
  obtain ⟨due, hdue, hlt⟩ := hbad
  obtain ⟨c, hc, rfl⟩ := h.due due hdue
  have hno : ¬ s.Rested := fun hr => absurd (hr c hc) (Nat.not_le.2 hlt)
  have hcb : s.mOdcpiRequestCb = true := by
    refine eq_true_of_ne_false fun hoff => ?_
    rw [(h.callback hoff).1] at hc
    cases hc
  unfold OdcpiAdapter.odcpiTimerExpire
  split
  · exact .inl (not_paced_call hno nofun)
  · rename_i hidle
    have hidle : s.mOdcpiRequestActive = false := Bool.eq_false_iff.2 hidle
    refine .inr fun request htype => ?_
    rw [requestOdcpi_idle (s := s.setTimer s.mOdcpiTimer.stop) hcb hidle rfl htype]
    exact not_paced_call (s := s.setTimer s.mOdcpiTimer.stop) hno nofun

theorem not_onTime_proc (h : s.OnPace) (hst : s.proc = some s') (hbad : ¬ s.OnTime .proc) :
    ¬ Paced s'.calls ∨ s'.Hasty := by
  simp only [OnTime, not_forall] at hbad
  obtain ⟨m, hm, hbad⟩ := hbad
  obtain ⟨ms, hms⟩ := List.head?_eq_some_iff.1 hm
  rw [OdcpiAdapter.proc, hms] at hst
  obtain rfl := Option.some.inj hst
  cases m with
  | requestOdcpi request =>
    exact .inl (not_paced_requestOdcpi (s := { s with msgs := ms }) hbad)
  | timerExpire =>
    have h' : ({ s with msgs := ms } : OdcpiAdapter).OnPace :=
      h.congr rfl rfl le_rfl fun hno => ⟨hno, id⟩
    exact hasty_odcpiTimerExpire h' hbad
  | initOdcpi | engineUp => exact absurd trivial hbad

/-- **Pacing of the requests.**  An active request always has the timer running or its message
queued.  In a run whose steps are all on time, consecutive calls of the framework are a period
apart or the later one is an emergency request that replaces one that is none; a step that is not
on time makes a call too early, or lets the next request do so. -/
theorem odcpi_pacing (h : system.Run System.Free es s) :
    s.Watched ∧ (system.Run OnTime es s → Paced s.calls ∧
      ∀ s', step s .proc = some s' → ¬ s.OnTime .proc → ¬ Paced s'.calls ∨ s'.Hasty) := by
  refine ⟨(ticking_run h).watched, fun hrun => ?_⟩
  have hpace : s.Ticking ∧ s.OnPace :=
    hrun.invariant (I := fun s => s.Ticking ∧ s.OnPace) ⟨ticking_init, onPace_init⟩
      fun _ _ _ hI hG hst => ⟨hI.1.step hst, hI.2.step hI.1 hG hst⟩
  exact ⟨hpace.2.paced, fun s' hst hbad => not_onTime_proc hpace.2 hst hbad⟩

end Lemmas

/-! ### Runs on fixed inputs -/

instance (s : OdcpiAdapter) : Decidable s.Rested :=
  inferInstanceAs (Decidable (∀ c ∈ s.calls.getLast?, _ ≤ _))

instance (s : OdcpiAdapter) : ∀ m, Decidable (s.MsgOnTime m)
  | .requestOdcpi _ => inferInstanceAs (Decidable (_ → _ → _ → _ → _ → _ ∨ _))
  | .timerExpire => inferInstanceAs (Decidable (∀ due ∈ s.mOdcpiTimer.due, _ ≤ _))
  | .initOdcpi | .engineUp => inferInstanceAs (Decidable True)

instance (s : OdcpiAdapter) : ∀ e, Decidable (s.OnTime e)
  | .proc => inferInstanceAs (Decidable (∀ m ∈ s.msgs.head?, s.MsgOnTime m))
  | .initOdcpiCommand | .requestOdcpiEvent _ | .handleEngineUpEvent | .timeOut | .elapse _ =>
    inferInstanceAs (Decidable True)

def normalStart : OdcpiRequestInfo := ⟨.START, 1000, false⟩

def emergencyStart : OdcpiRequestInfo := ⟨.START, 1000, true⟩

/-- A request that is passed on again when the timer expires, and is then replaced. -/
theorem odcpi_pacing_replaced :
    ∃ s, system.Run OnTime [.initOdcpiCommand, .proc, .requestOdcpiEvent normalStart, .proc,
        .elapse 10000, .timeOut, .proc, .elapse 5, .requestOdcpiEvent emergencyStart, .proc] s ∧
      s.calls.map OdcpiCall.time = [0, 10000, 10005] ∧ s.Watched ∧ Paced s.calls := by
  have hrun : system.Run OnTime [.initOdcpiCommand, .proc, .requestOdcpiEvent normalStart, .proc,
      .elapse 10000, .timeOut, .proc, .elapse 5, .requestOdcpiEvent emergencyStart, .proc] _ :=
    System.run_guarded rfl
  have h := odcpi_pacing hrun.free
  exact ⟨_, hrun, rfl, h.1, (h.2 hrun).1⟩

/-- An emergency request overtakes the message of a timer that has expired: the framework is called
for the request and, at once, for the expiry. -/
theorem expiry_overtaken :
    ∃ s, system.Run System.Free [.initOdcpiCommand, .proc, .requestOdcpiEvent normalStart, .proc,
        .elapse 10000, .requestOdcpiEvent emergencyStart, .timeOut, .proc, .proc] s ∧
      s.calls = [⟨0, normalStart, .start none⟩, ⟨10000, emergencyStart, .start (some normalStart)⟩,
        ⟨10000, emergencyStart, .expire⟩] ∧ ¬ Paced s.calls := by
  refine ⟨_, System.run_foldlM rfl, rfl, fun h => ?_⟩
  obtain ⟨-, hlast⟩ := (@paced_snoc [⟨0, normalStart, .start none⟩,
    ⟨10000, emergencyStart, .start (some normalStart)⟩] _).1 h
  rcases hlast _ rfl with hle | ⟨-, request, hcause, -⟩
  · exact absurd hle (by decide)
  · cases hcause

end OdcpiAdapter

end GpsHal
