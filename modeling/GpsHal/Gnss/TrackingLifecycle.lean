import GpsHal.Gnss.TrackingMultiplex
import GpsHal.Gnss.TrackingReports

/-!
# `GnssAdapter` : the saved tracking sessions

The sessions that are saved are the sessions that are live, whenever the engine has answered all
requests.  In between a session may be on its way: a start is saved before it is accepted, a session
is erased before its stop is accepted, and a switch to time based tracking erases it and saves it
again later.

Callbacks know the session only, and not what has become of it since, and a removed client leaves its
time based sessions behind.  `Keeps` says what must not happen for that to matter.

## Main definitions

* `TrackingAdapter.Consistent` : the maps, the live sessions and the engine agree.
* `TrackingAdapter.keyState` : where a session is.
* `TrackingAdapter.Keeps` : the condition on the steps.
* `TrackingAdapter.Lifecycle` : the invariant.

## Main results

* `TrackingAdapter.tracking_lifecycle` : when all requests are answered, the maps agree.
-/

namespace GpsHal

/-- The session of a callback. -/
def TrackingCallback.key? : TrackingCallback → Option LocationSessionKey
  | .none | .ignore => Option.none
  | .startTimeBased client id | .update client id _ | .stop client id
  | .startDistanceBased client id | .switchToTimeBased client id _ | .stopDistanceBased client id
  | .restartDistanceBased client id _ | .saveDistanceBased client id _
  | .removeDistanceBased client id => some ⟨client, id⟩

namespace EngineCall

def kind? (call : EngineCall) : Option TrackingCommandKind := call.cmd.map TrackingCommand.kind

/-- The session that has been erased until the answer comes: its stop, or its switch to time based
tracking, is under way. -/
def away? (call : EngineCall) : Option LocationSessionKey :=
  match call.callback with
  | .startTimeBased client id | .stop client id =>
    if call.kind? = some .stop then some ⟨client, id⟩ else none
  | .switchToTimeBased client id _ => some ⟨client, id⟩
  | .none | .update _ _ _ | .startDistanceBased _ _ | .ignore | .stopDistanceBased _ _
  | .restartDistanceBased _ _ _ | .saveDistanceBased _ _ _ | .removeDistanceBased _ _ => none

/-- The session that is saved without being live until the answer comes: it has been started, or its
client has been removed. -/
def coming? (call : EngineCall) : Option LocationSessionKey :=
  match call.callback with
  | .startTimeBased client id | .startDistanceBased client id =>
    if call.kind? = some .start then some ⟨client, id⟩ else none
  | .removeDistanceBased client id => some ⟨client, id⟩
  | .none | .update _ _ _ | .stop _ _ | .ignore | .switchToTimeBased _ _ _
  | .stopDistanceBased _ _ | .restartDistanceBased _ _ _ | .saveDistanceBased _ _ _ => none

end EngineCall

/-- Where a session is. -/
structure SessionState where
  timeBased : Bool
  distanceBased : Bool
  live : Bool
  /-- The requests that have erased the session until they are answered. -/
  away : ℕ
  /-- The requests that will make the session live, or erase it, when they are answered. -/
  coming : ℕ

namespace SessionState

/-- The maps that the session is saved in, and the requests that have erased it for a while. -/
def held (x : SessionState) : ℕ := x.timeBased.toNat + x.distanceBased.toNat + x.away

/-- A session is in one place at most, a live one is somewhere, and a saved one is live or is to
become so or to be erased. -/
structure Ok (x : SessionState) : Prop where
  one : x.held ≤ 1
  live : x.live = true → x.held = 1
  saved : x.timeBased = true ∨ x.distanceBased = true → x.live = true ∨ 0 < x.coming

def setTimeBased (x : SessionState) (b : Bool) : SessionState := { x with timeBased := b }

def setDistanceBased (x : SessionState) (b : Bool) : SessionState := { x with distanceBased := b }

def setLive (x : SessionState) (b : Bool) : SessionState := { x with live := b }

def addAway (x : SessionState) : SessionState := { x with away := x.away + 1 }

def addComing (x : SessionState) : SessionState := { x with coming := x.coming + 1 }

/-- Erased from the time based sessions, or if it is none from the distance based ones. -/
def erase (x : SessionState) : SessionState :=
  if x.timeBased = true then x.setTimeBased false else x.setDistanceBased false

/-- With one more request. -/
def add (x : SessionState) (k : LocationSessionKey) (call : EngineCall) : SessionState :=
  { x with
    away := x.away + if call.away? = some k then 1 else 0
    coming := x.coming + if call.coming? = some k then 1 else 0 }

end SessionState

theorem EngineCall.key_of_away {call : EngineCall} {k : LocationSessionKey}
    (h : call.away? = some k) : call.callback.key? = some k := by
  unfold away? at h
  unfold TrackingCallback.key?
  split at h
  · rename_i hcb
    rw [hcb]
    exact (Option.ite_none_right_eq_some.mp h).2
  · rename_i hcb
    rw [hcb]
    exact (Option.ite_none_right_eq_some.mp h).2
  · rename_i hcb
    rw [hcb]
    exact h
  all_goals cases h

theorem EngineCall.key_of_coming {call : EngineCall} {k : LocationSessionKey}
    (h : call.coming? = some k) : call.callback.key? = some k := by
  unfold coming? at h
  unfold TrackingCallback.key?
  split at h
  · rename_i hcb
    rw [hcb]
    exact (Option.ite_none_right_eq_some.mp h).2
  · rename_i hcb
    rw [hcb]
    exact (Option.ite_none_right_eq_some.mp h).2
  · rename_i hcb
    rw [hcb]
    exact h
  all_goals cases h

namespace SessionState

variable {x : SessionState} {k : LocationSessionKey} {call : EngineCall}

theorem add_idle (ha : call.away? = none) (hc : call.coming? = none) : x.add k call = x := by
  unfold add
  rw [ha, hc]
  rfl

theorem add_away (ha : call.away? = some k) (hc : call.coming? = none) : x.add k call = x.addAway := by
  unfold add
  rw [if_pos ha, hc]
  rfl

theorem add_coming (ha : call.away? = none) (hc : call.coming? = some k) :
    x.add k call = x.addComing := by
  unfold add
  rw [ha, if_pos hc]
  rfl

/-- A request with a callback for another session. -/
theorem add_of_ne (h : call.callback.key? ≠ some k) : x.add k call = x := by
  unfold add
  rw [if_neg fun haway => h (EngineCall.key_of_away haway),
    if_neg fun hcoming => h (EngineCall.key_of_coming hcoming)]
  rfl

/-! #### What becomes of a session -/

/-- A session is started; the engine is asked. -/
theorem Ok.startTimeBased (h : x.Ok) (hheld : x.held = 0) :
    (x.setTimeBased true).addComing.Ok := by
  obtain ⟨hone, hlive, hsaved⟩ := h
  constructor <;> grind [held, setTimeBased, addComing]

theorem Ok.startDistanceBased (h : x.Ok) (hheld : x.held = 0) :
    (x.setDistanceBased true).addComing.Ok := by
  obtain ⟨hone, hlive, hsaved⟩ := h
  constructor <;> grind [held, setDistanceBased, addComing]

/-- A session is started; the engine need not be asked. -/
theorem Ok.startNoWait (h : x.Ok) (hheld : x.held = 0) : ((x.setTimeBased true).setLive true).Ok := by
  obtain ⟨hone, hlive, hsaved⟩ := h
  constructor <;> grind [held, setTimeBased, setLive]

/-- A session is erased, and is live no longer. -/
theorem Ok.stopNoWait (h : x.Ok) : (x.erase.setLive false).Ok := by
  obtain ⟨hone, hlive, hsaved⟩ := h
  constructor <;> grind [held, erase, setTimeBased, setDistanceBased, setLive]

/-- A session is erased; the engine is asked. -/
theorem Ok.away (h : x.Ok) (hx : x.timeBased = true ∨ x.distanceBased = true) :
    x.addAway.erase.Ok := by
  obtain ⟨hone, hlive, hsaved⟩ := h
  constructor <;> grind [held, erase, setTimeBased, setDistanceBased, addAway]

theorem Ok.awayErased (h : x.Ok) (hx : x.timeBased = true ∨ x.distanceBased = true) :
    x.erase.addAway.Ok := by
  obtain ⟨hone, hlive, hsaved⟩ := h
  constructor <;> grind [held, erase, setTimeBased, setDistanceBased, addAway]

/-- A time based session becomes a distance based one. -/
theorem Ok.switchDistanceBased (h : x.Ok) (hx : x.timeBased = true) :
    (x.erase.setDistanceBased true).Ok := by
  obtain ⟨hone, hlive, hsaved⟩ := h
  constructor <;> grind [held, erase, setTimeBased, setDistanceBased]

theorem Ok.resaveTimeBased (h : x.Ok) (hx : x.timeBased = true) : (x.erase.setTimeBased true).Ok := by
  obtain ⟨hone, hlive, hsaved⟩ := h
  constructor <;> grind [held, erase, setTimeBased, setDistanceBased]

theorem setTimeBased_of_true (hx : x.timeBased = true) : x.setTimeBased true = x := by
  unfold setTimeBased
  rw [← hx]

theorem setDistanceBased_of_true (hx : x.distanceBased = true) : x.setDistanceBased true = x := by
  unfold setDistanceBased
  rw [← hx]

theorem Ok.not_both (h : x.Ok) (hx : x.distanceBased = true) : x.timeBased = false := by
  obtain ⟨hone, hlive, hsaved⟩ := h
  grind [held]

theorem Ok.addComing (h : x.Ok) : x.addComing.Ok := by
  obtain ⟨hone, hlive, hsaved⟩ := h
  exact ⟨hone, hlive, fun hx => .inr (Nat.succ_pos _)⟩

/-- The client of a session is removed. -/
theorem Ok.remove (h : x.Ok)
    (hx : x.timeBased = true ∨ x.distanceBased = true → 0 < x.coming) : (x.setLive false).Ok where
  one := h.one
  live hlive := by cases hlive
  saved hsaved := .inr (hx hsaved)

/-! Answers: `x` is the state of the session without the request that has been answered. -/

theorem Ok.accepted (h : x.addComing.Ok) (hx : x.held = 1) : (x.setLive true).Ok where
  one := h.one
  live _ := hx
  saved _ := .inl rfl

theorem Ok.stopped (h : x.addAway.Ok) : (x.setLive false).Ok := by
  obtain ⟨hone, hlive, hsaved⟩ := h
  constructor <;> grind [held, addAway, setLive]

/-- The session is erased, and is not live unless it is away. -/
theorem Ok.refused (h : (x.add k call).Ok) (hx : x.live = true → 0 < x.away) : x.erase.Ok := by
  obtain ⟨hone, hlive, hsaved⟩ := h
  constructor <;> grind [held, add, erase, setTimeBased, setDistanceBased]

/-- Its stop has been refused. -/
theorem Ok.stopRefused (h : (x.add k call).Ok) (hc : call.coming? = none)
    (hx : x.live = true → x.held = 1) : x.Ok := by
  obtain ⟨hone, hlive, hsaved⟩ := h
  constructor <;> grind [held, add]

/-- It is saved again. -/
theorem Ok.switched (h : x.addAway.Ok) (hx : x.live = true ∨ 0 < x.coming) :
    (x.setTimeBased true).Ok := by
  obtain ⟨hone, hlive, hsaved⟩ := h
  constructor <;> grind [held, addAway, setTimeBased]

/-- Its removal has been refused. -/
theorem Ok.removalRefused (h : x.addComing.Ok)
    (hx : x.timeBased = true ∨ x.distanceBased = true → x.live = true ∨ 0 < x.coming) : x.Ok where
  one := h.one
  live := h.live
  saved := hx

end SessionState

namespace TrackingAdapter

def keyState (s : TrackingAdapter) (k : LocationSessionKey) : SessionState where
  timeBased := (s.mTimeBasedTrackingSessions.find k).isSome
  distanceBased := (s.mDistanceBasedTrackingSessions.find k).isSome
  live := decide (k ∈ s.live)
  away := s.pool.countP fun call => call.away? = some k
  coming := s.pool.countP fun call => call.coming? = some k

/-! ### The property -/

/-- The last request for time based tracking that the engine has accepted is a start, or a stop. -/
def lastAccepted (s : TrackingAdapter) : Option Bool :=
  (s.timeBased.filter fun r => r.result = some .SUCCESS).getLast?.map TimeBasedRequest.start

/-- The engine has no request to answer, and nothing waits for its capabilities. -/
structure Quiet (s : TrackingAdapter) : Prop where
  answered : s.pool = []
  pending : s.mPendingMsgs = []

/-- No session is saved twice, the saved sessions are the live ones, and the engine has been started
last if there is a time based session. -/
structure Consistent (s : TrackingAdapter) : Prop where
  single : ∀ k, (s.mTimeBasedTrackingSessions.find k).isSome = true →
    (s.mDistanceBasedTrackingSessions.find k).isSome = false
  saved : ∀ k, (s.mTimeBasedTrackingSessions.find k).isSome = true ∨
    (s.mDistanceBasedTrackingSessions.find k).isSome = true ↔ k ∈ s.live
  started : s.mTimeBasedTrackingSessions.isEmpty = false → s.lastAccepted = some true
  stopped : s.mTimeBasedTrackingSessions.isEmpty = true → ∀ start ∈ s.lastAccepted, start = false

/-! ### The condition -/

/-- The last request for time based tracking that has not been refused is a start. -/
def lastStart (requests : List TimeBasedRequest) : Bool :=
  (requests.filter fun r => r.result = none ∨ r.result = some .SUCCESS).getLast?.any
    TimeBasedRequest.start

/-- The time based sessions that a refused request leaves. -/
def remaining (s : TrackingAdapter) : TrackingCallback → TrackingOptionsMap
  | .startTimeBased client id | .startDistanceBased client id =>
    s.mTimeBasedTrackingSessions.erase ⟨client, id⟩
  | .none | .update _ _ _ | .stop _ _ | .ignore | .switchToTimeBased _ _ _ | .stopDistanceBased _ _
  | .restartDistanceBased _ _ _ | .saveDistanceBased _ _ _ | .removeDistanceBased _ _ =>
    s.mTimeBasedTrackingSessions

/-- Without a request that has been refused, the engine is still started last if there is a time
based session. -/
def Fits (s : TrackingAdapter) (call : EngineCall) (err : LocationError) : Prop :=
  lastStart (s.note call err).timeBased = !(s.remaining call.callback).isEmpty

/-- What has become of the session when its request has been accepted. -/
def AcceptedKeeps (s : TrackingAdapter) (kind? : Option TrackingCommandKind) :
    TrackingCallback → Prop
  | .startTimeBased client id | .startDistanceBased client id =>
    kind? = some .start → (s.keyState ⟨client, id⟩).held = 1
  | .switchToTimeBased client id _ =>
    (s.keyState ⟨client, id⟩).live = true ∨ 0 < (s.keyState ⟨client, id⟩).coming
  | .stopDistanceBased client id => (s.keyState ⟨client, id⟩).timeBased = false
  | .saveDistanceBased client id _ => (s.keyState ⟨client, id⟩).distanceBased = true
  | .removeDistanceBased client id => (s.keyState ⟨client, id⟩).timeBased = false ∧
    ((s.keyState ⟨client, id⟩).live = true → 0 < (s.keyState ⟨client, id⟩).away)
  | .none | .ignore | .update _ _ _ | .stop _ _ | .restartDistanceBased _ _ _ => True

/-- What has become of the session when its request has been refused. -/
def RefusedKeeps (s : TrackingAdapter) : TrackingCallback → Prop
  | .startTimeBased client id | .startDistanceBased client id =>
    (s.keyState ⟨client, id⟩).live = true → 0 < (s.keyState ⟨client, id⟩).away
  | .stop client id => (s.keyState ⟨client, id⟩).live = true → (s.keyState ⟨client, id⟩).held = 1
  | .update client id _ => (s.keyState ⟨client, id⟩).timeBased = true
  | .switchToTimeBased client id _ =>
    (s.keyState ⟨client, id⟩).live = true ∨ 0 < (s.keyState ⟨client, id⟩).coming
  | .removeDistanceBased client id =>
    (s.keyState ⟨client, id⟩).timeBased = true ∨ (s.keyState ⟨client, id⟩).distanceBased = true →
      (s.keyState ⟨client, id⟩).live = true ∨ 0 < (s.keyState ⟨client, id⟩).coming
  | .none | .ignore | .stopDistanceBased _ _ | .restartDistanceBased _ _ _
  | .saveDistanceBased _ _ _ => True

def AnswerKeeps (s : TrackingAdapter) (call : EngineCall) (err : LocationError) : Prop :=
  if err = .SUCCESS then s.AcceptedKeeps call.kind? call.callback
  else s.RefusedKeeps call.callback ∧ s.Fits call err

/-- The condition on a message, which has been taken from the queue. -/
def MsgKeeps (s : TrackingAdapter) : Msg → Prop
  | .start cmd options =>
    ¬ (s.mIsEngineCapabilitiesKnown = false ∧ 0 < options.minDistance) →
      ¬ (s.hasCallback cmd.client = false ∨ options.size = 0) → (s.keyState cmd.key).held = 0
  | .update cmd options =>
    s.mIsEngineCapabilitiesKnown = true → options.size ≠ 0 → 0 < options.minDistance →
      s.isTimeBasedTrackingSession cmd.client cmd.id = true → s.isMessageSupported = false →
        s.mTimeBasedTrackingSessions.size ≠ 1
  | .removeClient client => ∀ e ∈ s.mTimeBasedTrackingSessions.entries, e.1.client ≠ client
  | .answer call err => s.AnswerKeeps call err
  | .addClient _ _ | .stop _ | .handleEngineUpEvent => True

def Keeps (s : TrackingAdapter) : Event → Prop
  | .process => ∀ m ∈ s.queue.head?, MsgKeeps { s with queue := s.queue.tail } m
  | .setEngineCapabilities distanceBased =>
    s.mIsEngineCapabilitiesKnown = true → s.sSupportedMsg = none → distanceBased = false
  | _ => True

/-! ### The invariant -/

/-- The requests for time based tracking and the requests that have not been answered. -/
structure Serials (pool : List EngineCall) (timeBased : List TimeBasedRequest) (calls : ℕ) :
    Prop where
  nodup : (pool.map EngineCall.serial).Nodup
  fresh : ∀ call ∈ pool, call.serial < calls
  requests : ∀ r ∈ timeBased, r.serial < calls
  waiting : ∀ call ∈ pool, ∀ r ∈ timeBased, r.serial = call.serial → r.result = none
  answered : ∀ r ∈ timeBased, r.result = none → ∃ call ∈ pool, call.serial = r.serial

/-- A session with these options is saved as a time based one. -/
def Undistanced (s : TrackingAdapter) (o : TrackingOptions) : Prop :=
  o.minDistance = 0 ∨ s.mIsEngineCapabilitiesKnown = true ∧ s.isMessageSupported = false

def Distanced (s : TrackingAdapter) (o : TrackingOptions) : Prop :=
  0 < o.minDistance ∧ s.isMessageSupported = true

/-- The command of a request is for the session, and of the given kind. -/
def CommandOf (P : TrackingCommandKind → Prop) (client id : ℕ) (cmd : Option TrackingCommand) :
    Prop :=
  ∃ c, cmd = some c ∧ c.client = client ∧ c.id = id ∧ P c.kind

/-- The command and the options of a callback. -/
def CallbackOk (s : TrackingAdapter) (cmd : Option TrackingCommand) : TrackingCallback → Prop
  | .none | .ignore | .removeDistanceBased _ _ => True
  | .startTimeBased client id => CommandOf (fun _ => True) client id cmd
  | .startDistanceBased client id => CommandOf (· = .start) client id cmd
  | .stop client id => CommandOf (· ≠ .start) client id cmd
  | .stopDistanceBased client id => CommandOf (· = .stop) client id cmd
  | .update client id oldOptions =>
    CommandOf (· = .update) client id cmd ∧ s.Undistanced oldOptions
  | .switchToTimeBased client id options =>
    CommandOf (· = .update) client id cmd ∧ options.minDistance = 0
  | .restartDistanceBased client id options | .saveDistanceBased client id options =>
    CommandOf (· = .update) client id cmd ∧ s.Distanced options

/-- The options go with the maps that the sessions are saved in. -/
structure Modes (s : TrackingAdapter) : Prop where
  timeBased : ∀ e ∈ s.mTimeBasedTrackingSessions.entries, s.Undistanced e.2
  distanceBased : ∀ e ∈ s.mDistanceBasedTrackingSessions.entries, s.isMessageSupported = true
  calls : ∀ call ∈ s.pool, s.CallbackOk call.cmd call.callback

/-- The commands of a message are of its kind. -/
def Msg.KindOk : Msg → Prop
  | .start cmd _ => cmd.kind = .start
  | .update cmd _ => cmd.kind = .update
  | .stop cmd => cmd.kind = .stop
  | .addClient _ _ | .removeClient _ | .handleEngineUpEvent | .answer _ _ => True

/-- What every operation keeps. -/
structure Books (s : TrackingAdapter) : Prop where
  modes : s.Modes
  serials : Serials s.pool s.timeBased s.calls
  kinds : ∀ m ∈ s.queue ++ s.mPendingMsgs, m.KindOk

/-- The engine has been started last, requests that it has refused apart, if there is a time based
session. -/
def EngineOk (s : TrackingAdapter) : Prop :=
  lastStart s.timeBased = !s.mTimeBasedTrackingSessions.isEmpty

structure Lifecycle (s : TrackingAdapter) : Prop where
  keys : ∀ k, (s.keyState k).Ok
  engine : s.EngineOk
  books : s.Books

/-! ### Single operations -/

def insertTimeBased (s : TrackingAdapter) (key : LocationSessionKey) (o : TrackingOptions) :
    TrackingAdapter :=
  { s with
    mTimeBasedTrackingSessions := s.mTimeBasedTrackingSessions.insert key o }

def insertDistanceBased (s : TrackingAdapter) (key : LocationSessionKey) (o : TrackingOptions) :
    TrackingAdapter :=
  { s with
    mDistanceBasedTrackingSessions := s.mDistanceBasedTrackingSessions.insert key o }

section

variable {s : TrackingAdapter} {k key : LocationSessionKey} {client id : ℕ} {o : TrackingOptions}
  {cmd : Option TrackingCommand} {c : TrackingCommand} {err : LocationError} {q : EngineRequest}
  {cb : TrackingCallback} {x : SessionState}

/-! #### Where a session is -/

theorem pool_call : (s.call cmd q cb).pool.Perm (⟨s.calls, cmd, q, cb⟩ :: s.pool) := by
  unfold pool call
  rw [List.append_assoc]
  exact List.perm_middle

/-- The state of a session depends on the maps, the live sessions and the open requests. -/
theorem keyState_congr {s' : TrackingAdapter}
    (ht : s'.mTimeBasedTrackingSessions = s.mTimeBasedTrackingSessions)
    (hd : s'.mDistanceBasedTrackingSessions = s.mDistanceBasedTrackingSessions)
    (hl : s'.live = s.live) (hp : s'.pool.Perm s.pool) : s'.keyState k = s.keyState k := by
  unfold keyState
  rw [ht, hd, hl, hp.countP_eq, hp.countP_eq]

/-- One more request is open. -/
theorem keyState_add {s' : TrackingAdapter} {call : EngineCall}
    (ht : s'.mTimeBasedTrackingSessions = s.mTimeBasedTrackingSessions)
    (hd : s'.mDistanceBasedTrackingSessions = s.mDistanceBasedTrackingSessions)
    (hl : s'.live = s.live) (hp : s'.pool.Perm (call :: s.pool)) :
    s'.keyState k = (s.keyState k).add k call := by
  unfold keyState SessionState.add
  rw [ht, hd, hl, hp.countP_eq, hp.countP_eq, List.countP_cons, List.countP_cons]
  simp only [decide_eq_true_eq]

theorem keyState_call :
    (s.call cmd q cb).keyState k = (s.keyState k).add k ⟨s.calls, cmd, q, cb⟩ :=
  keyState_add rfl rfl rfl pool_call

theorem saveTrackingSession_undistanced (h : s.Undistanced o) :
    s.saveTrackingSession client id o = s.insertTimeBased ⟨client, id⟩ o := by
  refine if_neg ?_
  rintro ⟨hpos, hsupported⟩
  rcases h with hzero | ⟨-, hnot⟩
  · exact hpos.ne' hzero
  · exact Bool.noConfusion (hnot.symm.trans hsupported)

theorem saveTrackingSession_distanced (h : s.Distanced o) :
    s.saveTrackingSession client id o = s.insertDistanceBased ⟨client, id⟩ o :=
  if_pos h

theorem keyState_insertTimeBased_self :
    (s.insertTimeBased key o).keyState key = (s.keyState key).setTimeBased true := by
  unfold keyState insertTimeBased
  simp only [OrdMap.find_insert, if_pos]
  rfl

theorem keyState_insertTimeBased_of_ne (h : k ≠ key) :
    (s.insertTimeBased key o).keyState k = s.keyState k := by
  unfold keyState insertTimeBased
  simp only [OrdMap.find_insert, if_neg h]
  rfl

theorem keyState_insertDistanceBased_self :
    (s.insertDistanceBased key o).keyState key = (s.keyState key).setDistanceBased true := by
  unfold keyState insertDistanceBased
  simp only [OrdMap.find_insert, if_pos]
  rfl

theorem keyState_insertDistanceBased_of_ne (h : k ≠ key) :
    (s.insertDistanceBased key o).keyState k = s.keyState k := by
  unfold keyState insertDistanceBased
  simp only [OrdMap.find_insert, if_neg h]
  rfl

theorem keyState_erase_self :
    (s.eraseTrackingSession client id).keyState ⟨client, id⟩ =
      (s.keyState ⟨client, id⟩).erase := by
  by_cases h : s.isTimeBasedTrackingSession client id = true
  · rw [eraseTrackingSession, if_pos h]
    refine Eq.trans ?_ (if_pos h).symm
    unfold keyState
    simp only [OrdMap.find_erase, if_pos]
    rfl
  · rw [eraseTrackingSession, if_neg h]
    refine Eq.trans ?_ (if_neg h).symm
    unfold keyState
    simp only [OrdMap.find_erase, if_pos]
    rfl

theorem keyState_erase_of_ne (h : k ≠ ⟨client, id⟩) :
    (s.eraseTrackingSession client id).keyState k = s.keyState k := by
  unfold eraseTrackingSession
  split
  · unfold keyState
    simp only [OrdMap.find_erase, if_neg h]
    rfl
  · unfold keyState
    simp only [OrdMap.find_erase, if_neg h]
    rfl

/-- A report changes nothing but whether the session of its command is live. -/
theorem keyState_report_of_ne (h : err = .SUCCESS → k = c.key → c.kind = .update) :
    (s.reportResponse (some c) client err id).keyState k = s.keyState k := by
  have hlive : k ∈ liveAfter s.live (some c) err ↔ k ∈ s.live := by
    unfold liveAfter
    by_cases herr : err = .SUCCESS
    · by_cases hk : k = c.key
      · simp [herr, h herr hk]
      · cases hc : c.kind with
        | start => simp [herr, hc, hk]
        | update => simp [herr, hc]
        | stop => simp [herr, hc, hk]
    · simp [herr]
  show { s.keyState k with live := decide (k ∈ liveAfter s.live (some c) err) } = s.keyState k
  rw [decide_eq_decide.mpr hlive]
  rfl

theorem keyState_report_start (h : c.kind = .start) :
    (s.reportResponse (some c) client .SUCCESS id).keyState ⟨c.client, c.id⟩ =
      (s.keyState ⟨c.client, c.id⟩).setLive true := by
  show { s.keyState c.key with live := decide (c.key ∈ liveAfter s.live (some c) .SUCCESS) } = _
  simp only [liveAfter, h]
  rw [decide_eq_true]
  · rfl
  · exact List.mem_cons_self

theorem keyState_report_stop (h : c.kind = .stop) :
    (s.reportResponse (some c) client .SUCCESS id).keyState ⟨c.client, c.id⟩ =
      (s.keyState ⟨c.client, c.id⟩).setLive false := by
  show { s.keyState c.key with live := decide (c.key ∈ liveAfter s.live (some c) .SUCCESS) } = _
  simp only [liveAfter, h]
  rw [decide_eq_false]
  · rfl
  · exact fun hmem => of_decide_eq_true (List.mem_filter.mp hmem).2 rfl

/-! #### Requests -/

theorem lastStart_append (l : List TimeBasedRequest) (n : ℕ) (start : Bool) :
    lastStart (l ++ [⟨n, start, none⟩]) = start := by
  unfold lastStart
  rw [List.filter_append, List.filter_cons_of_pos (by simp), List.filter_nil,
    List.getLast?_append, List.getLast?_singleton, Option.some_or, Option.any_some]

theorem timeBased_call : (s.call cmd q cb).timeBased =
    s.timeBased ++ (q.start?.map fun start => TimeBasedRequest.mk s.calls start none).toList := by
  unfold call
  cases q.start? with
  | none => exact (List.append_nil _).symm
  | some start => rfl

theorem lastStart_call : lastStart (s.call cmd q cb).timeBased =
    q.start?.getD (lastStart s.timeBased) := by
  rw [timeBased_call]
  cases q.start? with
  | none => exact congrArg lastStart (List.append_nil _)
  | some start => exact lastStart_append _ _ _

/-- An answer that a request has been waiting for, and that accepts it. -/
theorem lastStart_note {call : EngineCall}
    (h : ∀ r ∈ s.timeBased, r.serial = call.serial → r.result = none) :
    lastStart (s.note call .SUCCESS).timeBased = lastStart s.timeBased := by
  unfold lastStart note
  rw [List.filter_map, List.getLast?_map, Option.any_map]
  have hfilter : (s.timeBased.filter ((fun r : TimeBasedRequest => decide (r.result = none ∨
      r.result = some .SUCCESS)) ∘ fun r => if r.serial = call.serial then
        ⟨r.serial, r.start, some .SUCCESS⟩ else r)) =
      s.timeBased.filter fun r => decide (r.result = none ∨ r.result = some .SUCCESS) := by
    refine List.filter_congr fun r hr => ?_
    by_cases hserial : r.serial = call.serial
    · simp [hserial, h r hr hserial]
    · simp [hserial]
  rw [hfilter]
  congr 1
  funext r
  show (if r.serial = call.serial then _ else r).start = r.start
  split
  · rfl
  · rfl

theorem Serials.perm {pool pool' : List EngineCall} {requests : List TimeBasedRequest} {n : ℕ}
    (h : Serials pool requests n) (hp : pool'.Perm pool) : Serials pool' requests n where
  nodup := (hp.map _).nodup_iff.mpr h.nodup
  fresh call hcall := h.fresh call (hp.mem_iff.mp hcall)
  requests := h.requests
  waiting call hcall := h.waiting call (hp.mem_iff.mp hcall)
  answered r hr hnone := by
    obtain ⟨call, hcall, hserial⟩ := h.answered r hr hnone
    exact ⟨call, hp.mem_iff.mpr hcall, hserial⟩

theorem Serials.call (h : Serials s.pool s.timeBased s.calls) :
    Serials (s.call cmd q cb).pool (s.call cmd q cb).timeBased (s.call cmd q cb).calls := by
  refine Serials.perm ?_ pool_call
  have hnew : ∀ r ∈ (s.call cmd q cb).timeBased, r ∈ s.timeBased ∨
      r.serial = s.calls ∧ r.result = none := by
    intro r hr
    rw [timeBased_call, List.mem_append, Option.mem_toList, Option.map_eq_some_iff] at hr
    refine hr.imp_right ?_
    rintro ⟨start, -, rfl⟩
    exact ⟨rfl, rfl⟩
  refine ⟨?_, fun call hcall => ?_, fun r hr => ?_, fun call hcall r hr hserial => ?_,
    fun r hr hnone => ?_⟩
  · rw [List.map_cons, List.nodup_cons]
    refine ⟨fun hmem => ?_, h.nodup⟩
    obtain ⟨call, hcall, hserial⟩ := List.mem_map.mp hmem
    exact absurd hserial (h.fresh call hcall).ne
  · rcases List.mem_cons.mp hcall with rfl | hcall
    · exact Nat.lt_succ_self _
    · exact Nat.lt_succ_of_lt (h.fresh call hcall)
  · rcases hnew r hr with hr | ⟨hr, -⟩
    · exact Nat.lt_succ_of_lt (h.requests r hr)
    · rw [hr]
      exact Nat.lt_succ_self _
  · rcases hnew r hr with hr | ⟨-, hnone⟩
    · rcases List.mem_cons.mp hcall with rfl | hcall
      · exact absurd hserial (h.requests r hr).ne
      · exact h.waiting call hcall r hr hserial
    · exact hnone
  · rcases hnew r hr with hr | ⟨hserial, -⟩
    · obtain ⟨call, hcall, hserial⟩ := h.answered r hr hnone
      exact ⟨call, List.mem_cons_of_mem _ hcall, hserial⟩
    · exact ⟨_, List.mem_cons_self, hserial.symm⟩

/-- One of the open requests is answered. -/
theorem Serials.note {call : EngineCall} (h : Serials (call :: s.pool) s.timeBased s.calls) :
    Serials (s.note call err).pool (s.note call err).timeBased (s.note call err).calls := by
  obtain ⟨hnot, hnodup⟩ := List.nodup_cons.mp h.nodup
  have hold : ∀ r ∈ (s.note call err).timeBased, ∃ r' ∈ s.timeBased, r.serial = r'.serial ∧
      (r' = r ∨ r'.serial = call.serial ∧ r.result = some err) := by
    intro r hr
    obtain ⟨r', hr', rfl⟩ := List.mem_map.mp hr
    refine ⟨r', hr', ?_⟩
    split
    · rename_i hserial
      exact ⟨rfl, .inr ⟨hserial, rfl⟩⟩
    · exact ⟨rfl, .inl rfl⟩
  refine ⟨hnodup, fun call' hcall => h.fresh call' (List.mem_cons_of_mem _ hcall),
    fun r hr => ?_, fun call' hcall r hr hserial => ?_, fun r hr hnone => ?_⟩
  · obtain ⟨r', hr', hserial, -⟩ := hold r hr
    rw [hserial]
    exact h.requests r' hr'
  · obtain ⟨r', hr', hserial', rfl | ⟨hcall', -⟩⟩ := hold r hr
    · exact h.waiting call' (List.mem_cons_of_mem _ hcall) r' hr' hserial
    · refine absurd (List.mem_map.mpr ⟨call', hcall, ?_⟩) hnot
      rw [← hserial, hserial', hcall']
  · obtain ⟨r', hr', hserial', rfl | ⟨-, hsome⟩⟩ := hold r hr
    · obtain ⟨call', hcall, hserial⟩ := h.answered r' hr' hnone
      rcases List.mem_cons.mp hcall with rfl | hcall
      · -- its request is not among those that are still waiting
        obtain ⟨r₀, hr₀, hr'⟩ := List.mem_map.mp hr
        split at hr'
        · rw [← hr'] at hnone
          cases hnone
        · rename_i hne
          rw [hr'] at hne
          exact absurd hserial.symm hne
      · exact ⟨call', hcall, hserial⟩
    · rw [hnone] at hsome
      cases hsome

/-! #### Books -/

/-- Erasing touches the maps only. -/
theorem eraseTrackingSession_eq : ∃ distanceBased : TrackingOptionsMap,
    (∀ e ∈ distanceBased.entries, e ∈ s.mDistanceBasedTrackingSessions.entries) ∧
      s.eraseTrackingSession client id = { s with
        mTimeBasedTrackingSessions := s.mTimeBasedTrackingSessions.erase ⟨client, id⟩
        mDistanceBasedTrackingSessions := distanceBased } := by
  unfold eraseTrackingSession
  split
  · exact ⟨_, fun _ he => he, rfl⟩
  · rename_i h
    refine ⟨s.mDistanceBasedTrackingSessions.erase ⟨client, id⟩,
      fun e he => (OrdMap.mem_entries_erase.mp he).2, ?_⟩
    rw [OrdMap.erase_of_find (Option.not_isSome_iff_eq_none.mp h)]

theorem Books.call (h : s.Books) (hok : s.CallbackOk cmd cb) : (s.call cmd q cb).Books where
  modes :=
    { timeBased := h.modes.timeBased
      distanceBased := h.modes.distanceBased
      calls := fun call hcall => by
        rcases List.mem_cons.mp (pool_call.mem_iff.mp hcall) with rfl | hcall
        · exact hok
        · exact h.modes.calls call hcall }
  serials := h.serials.call
  kinds := h.kinds

theorem Books.insertTimeBased (h : s.Books) (ho : s.Undistanced o) :
    (s.insertTimeBased key o).Books where
  modes :=
    { timeBased := fun e he => by
        rcases OrdMap.mem_entries_insert.mp he with rfl | ⟨-, he⟩
        · exact ho
        · exact h.modes.timeBased e he
      distanceBased := h.modes.distanceBased
      calls := h.modes.calls }
  serials := h.serials
  kinds := h.kinds

theorem Books.insertDistanceBased (h : s.Books) (ho : s.Distanced o) :
    (s.insertDistanceBased key o).Books where
  modes := ⟨h.modes.timeBased, fun _ _ => ho.2, h.modes.calls⟩
  serials := h.serials
  kinds := h.kinds

theorem Books.erase (h : s.Books) : (s.eraseTrackingSession client id).Books := by
  obtain ⟨distanceBased, hsub, heq⟩ := @eraseTrackingSession_eq s client id
  rw [heq]
  exact ⟨⟨fun e he => h.modes.timeBased e (OrdMap.mem_entries_erase.mp he).2,
    fun e he => h.modes.distanceBased e (hsub e he), h.modes.calls⟩, h.serials, h.kinds⟩

theorem Books.report (h : s.Books) : (s.reportResponse cmd client err id).Books where
  modes := ⟨h.modes.timeBased, h.modes.distanceBased, h.modes.calls⟩
  serials := h.serials
  kinds := h.kinds

theorem Books.reportWithNoWait {p : TrackingAdapter × Bool} (h : p.1.Books) :
    (reportWithNoWait p cmd client id).Books := by
  unfold TrackingAdapter.reportWithNoWait
  split
  · exact h.report
  · exact h

/-! #### Multiplexing -/

/-- There is one request with a callback of the given kind, or nobody has to wait. -/
def Sends (s : TrackingAdapter) (cmd : Option TrackingCommand) (P : TrackingCallback → Prop)
    (p : TrackingAdapter × Bool) : Prop :=
  p = (s, true) ∨ ∃ q cb, p = (s.call cmd q cb, false) ∧ P cb

theorem sends_call {P : TrackingCallback → Prop} (h : P cb) : s.Sends cmd P (s.call cmd q cb, false) :=
  .inr ⟨q, cb, rfl, h⟩

theorem sends_nothing {P : TrackingCallback → Prop} : s.Sends cmd P (s, true) := .inl rfl

theorem sends_start (he : s.EngineOk) :
    s.Sends cmd (· = .startTimeBased client id) (s.startTimeBasedTrackingMultiplex cmd client id o) ∧
      lastStart (s.startTimeBasedTrackingMultiplex cmd client id o).1.timeBased = true := by
  unfold startTimeBasedTrackingMultiplex
  split
  · exact ⟨sends_call rfl, lastStart_call⟩
  · rename_i hne
    simp only
    split
    · exact ⟨sends_call rfl, lastStart_call⟩
    · rw [Bool.not_eq_true] at hne
      exact ⟨sends_nothing, by rw [he, hne]; rfl⟩

theorem sends_update {old : TrackingOptions} (he : s.EngineOk)
    (hfind : s.mTimeBasedTrackingSessions.find ⟨client, id⟩ = some old) :
    s.Sends cmd (· = .update client id old) (s.updateTrackingMultiplex cmd client id o) ∧
      lastStart (s.updateTrackingMultiplex cmd client id o).1.timeBased = true := by
  have hne : s.mTimeBasedTrackingSessions.isEmpty = false := by
    refine Bool.eq_false_iff.mpr fun hempty => ?_
    rw [OrdMap.isEmpty_iff_find.mp hempty] at hfind
    cases hfind
  have hnothing : s.Sends cmd (· = .update client id old) (s, true) ∧
      lastStart s.timeBased = true := ⟨sends_nothing, by rw [he, hne]; rfl⟩
  unfold updateTrackingMultiplex
  rw [hfind]
  simp only
  split
  · generalize (if s.mTimeBasedTrackingSessions.size = 1 then (o, true) else
      lowered (multiplex s.mTimeBasedTrackingSessions (some ⟨client, id⟩)) o) = p
    split
    · exact ⟨sends_call rfl, lastStart_call⟩
    · exact hnothing
  · exact hnothing

theorem sends_stop (he : s.EngineOk) (hs : s.isTimeBasedTrackingSession client id = true) :
    s.Sends cmd (fun cb => cb = .stop client id ∨ cb = .startTimeBased client id)
        (s.stopTimeBasedTrackingMultiplex cmd client id) ∧
      lastStart (s.stopTimeBasedTrackingMultiplex cmd client id).1.timeBased =
        !(s.mTimeBasedTrackingSessions.erase ⟨client, id⟩).isEmpty := by
  obtain ⟨old, hfind⟩ := Option.isSome_iff_exists.mp hs
  have hone := OrdMap.size_eq_one hfind
  unfold stopTimeBasedTrackingMultiplex
  split
  · rename_i hsize
    refine ⟨sends_call (.inl rfl), ?_⟩
    rw [hone.mp hsize]
    exact lastStart_call
  · rename_i hsize
    have hne : (s.mTimeBasedTrackingSessions.erase ⟨client, id⟩).isEmpty = false :=
      Bool.eq_false_iff.mpr fun hempty => hsize (hone.mpr hempty)
    rw [hfind, hne]
    simp only
    split
    · exact ⟨sends_call (.inr rfl), lastStart_call⟩
    · refine ⟨sends_nothing, ?_⟩
      have hsome : s.mTimeBasedTrackingSessions.isEmpty = false := by
        refine Bool.eq_false_iff.mpr fun hempty => ?_
        rw [OrdMap.isEmpty_iff_find.mp hempty] at hfind
        cases hfind
      rw [he, hsome]

section

variable {P : TrackingCallback → Prop} {p : TrackingAdapter × Bool}

theorem Sends.frame (h : s.Sends cmd P p) :
    p.1.mTimeBasedTrackingSessions = s.mTimeBasedTrackingSessions ∧
      p.1.mDistanceBasedTrackingSessions = s.mDistanceBasedTrackingSessions ∧
      p.1.mIsEngineCapabilitiesKnown = s.mIsEngineCapabilitiesKnown ∧
      p.1.sSupportedMsg = s.sSupportedMsg := by
  rcases h with rfl | ⟨q, cb, rfl, -⟩
  · exact ⟨rfl, rfl, rfl, rfl⟩
  · exact ⟨rfl, rfl, rfl, rfl⟩

theorem Sends.books (h : s.Sends cmd P p) (hs : s.Books) (hok : ∀ cb, P cb → s.CallbackOk cmd cb) :
    p.1.Books := by
  rcases h with rfl | ⟨q, cb, rfl, hP⟩
  · exact hs
  · exact hs.call (hok cb hP)

theorem keyState_call_of_ne (h : cb.key? ≠ some k) : (s.call cmd q cb).keyState k = s.keyState k :=
  keyState_call.trans (SessionState.add_of_ne h)

theorem Sends.keyState_of_ne (h : s.Sends cmd P p) (hP : ∀ cb, P cb → cb.key? ≠ some k) :
    p.1.keyState k = s.keyState k := by
  rcases h with rfl | ⟨q, cb, rfl, hcb⟩
  · rfl
  · exact keyState_call_of_ne (hP cb hcb)

end

/-! #### Commands -/

/-- Only one session has changed. -/
theorem keys_of_ne {s' : TrackingAdapter} (key : LocationSessionKey) (h : ∀ k, (s.keyState k).Ok)
    (hother : ∀ k, k ≠ key → s'.keyState k = s.keyState k) (hown : (s'.keyState key).Ok) :
    ∀ k, (s'.keyState k).Ok := by
  intro k
  by_cases hk : k = key
  · exact hk ▸ hown
  · rw [hother k hk]
    exact h k

theorem isEmpty_insert (m : TrackingOptionsMap) : (m.insert key o).isEmpty = false := by
  refine Bool.eq_false_iff.mpr fun hempty => ?_
  have hfind := OrdMap.isEmpty_iff_find.mp hempty key
  rw [OrdMap.find_insert, if_pos rfl] at hfind
  cases hfind

theorem EngineOk.insertTimeBased (h : lastStart s.timeBased = true) :
    (s.insertTimeBased key o).EngineOk := by
  show lastStart s.timeBased = !(s.mTimeBasedTrackingSessions.insert key o).isEmpty
  rw [h, isEmpty_insert]
  rfl

theorem commandOf (P : TrackingCommandKind → Prop) (h : P c.kind) :
    CommandOf P c.client c.id (some c) :=
  ⟨c, rfl, rfl, rfl, h⟩

theorem key_ne (h : k ≠ ⟨client, id⟩) : some (⟨client, id⟩ : LocationSessionKey) ≠ some k :=
  fun heq => h (Option.some.inj heq).symm

theorem Lifecycle.startSession (h : s.Lifecycle) (hkind : c.kind = .start)
    (hheld : (s.keyState ⟨c.client, c.id⟩).held = 0)
    (hready : ¬ (s.mIsEngineCapabilitiesKnown = false ∧ 0 < o.minDistance)) :
    (s.startSession c o).Lifecycle := by
  have hown := h.keys ⟨c.client, c.id⟩
  have hkind? : (some c).map TrackingCommand.kind = some .start := congrArg some hkind
  have hmin : o.clampInterval.minDistance = o.minDistance := GnssTracking.minDistance_clampInterval
  unfold TrackingAdapter.startSession
  simp only
  split
  · -- distance based
    rename_i hdist
    rw [saveTrackingSession_distanced hdist]
    refine ⟨keys_of_ne ⟨c.client, c.id⟩ h.keys (fun k hk => ?_) ?_, h.engine,
      (h.books.insertDistanceBased hdist).call (commandOf (· = .start) hkind)⟩
    · rw [keyState_call_of_ne]
      · exact keyState_insertDistanceBased_of_ne hk
      · exact key_ne hk
    · rw [keyState_call, keyState_insertDistanceBased_self, SessionState.add_coming]
      · exact hown.startDistanceBased hheld
      · rfl
      · exact if_pos hkind?
  · -- time based
    rename_i hdist
    have hundistanced : s.Undistanced o.clampInterval.fallBack := by
      unfold Undistanced
      rw [GnssTracking.minDistance_fallBack, hmin]
      rw [hmin] at hdist
      rcases Nat.eq_zero_or_pos o.minDistance with hzero | hpos
      · exact .inl hzero
      · refine .inr ⟨?_, Bool.eq_false_iff.mpr fun hsupported => hdist ⟨hpos, hsupported⟩⟩
        exact Bool.of_not_eq_false fun hknown => hready ⟨hknown, hpos⟩
    obtain ⟨hsends, hlast⟩ := @sends_start s c.client c.id o.clampInterval.fallBack (some c) h.engine
    generalize s.startTimeBasedTrackingMultiplex (some c) c.client c.id o.clampInterval.fallBack = p
      at hsends hlast
    have hbooks := hsends.books h.books fun cb hcb => hcb ▸ commandOf (fun _ => True) trivial
    rcases hsends with rfl | ⟨q, cb, rfl, rfl⟩
    · rw [saveTrackingSession_undistanced hundistanced]
      refine ⟨keys_of_ne ⟨c.client, c.id⟩ h.keys (fun k hk => ?_) ?_, .insertTimeBased hlast,
        (hbooks.insertTimeBased hundistanced).report⟩
      · refine (keyState_report_of_ne fun _ heq => absurd heq hk).trans ?_
        exact keyState_insertTimeBased_of_ne hk
      · refine (keyState_report_start hkind).symm ▸ ?_
        rw [keyState_insertTimeBased_self]
        exact hown.startNoWait hheld
    · have hundistanced' : (s.call (some c) q (.startTimeBased c.client c.id)).Undistanced
        o.clampInterval.fallBack := hundistanced
      rw [saveTrackingSession_undistanced hundistanced']
      refine ⟨keys_of_ne ⟨c.client, c.id⟩ h.keys (fun k hk => ?_) ?_, .insertTimeBased hlast,
        hbooks.insertTimeBased hundistanced'⟩
      · refine (keyState_insertTimeBased_of_ne hk).trans ?_
        exact keyState_call_of_ne (key_ne hk)
      · refine keyState_insertTimeBased_self.symm ▸ ?_
        rw [keyState_call, SessionState.add_coming]
        · exact hown.startTimeBased hheld
        · exact if_neg fun heq => by cases hkind?.symm.trans heq
        · exact if_pos hkind?

theorem EngineOk.erase
    (h : lastStart s.timeBased = !(s.mTimeBasedTrackingSessions.erase ⟨client, id⟩).isEmpty) :
    (s.eraseTrackingSession client id).EngineOk := by
  obtain ⟨distanceBased, -, heq⟩ := @eraseTrackingSession_eq s client id
  rw [heq]
  exact h

theorem EngineOk.reportWithNoWait {p : TrackingAdapter × Bool} (h : p.1.EngineOk) :
    (reportWithNoWait p cmd client id).EngineOk := by
  unfold TrackingAdapter.reportWithNoWait
  split
  · exact h
  · exact h

theorem Lifecycle.procStopTracking (h : s.Lifecycle) (hkind : c.kind = .stop) :
    (s.procStopTracking c).Lifecycle := by
  have hown := h.keys ⟨c.client, c.id⟩
  have hkind? : (some c).map TrackingCommand.kind = some .stop := congrArg some hkind
  unfold TrackingAdapter.procStopTracking
  split
  · rename_i hs
    obtain ⟨hsends, hlast⟩ := @sends_stop s c.client c.id (some c) h.engine hs
    have hok (cb : TrackingCallback)
        (hcb : cb = .stop c.client c.id ∨ cb = .startTimeBased c.client c.id) :
        s.CallbackOk (some c) cb ∧ cb.key? = some ⟨c.client, c.id⟩ := by
      rcases hcb with rfl | rfl
      · refine ⟨commandOf (· ≠ .start) ?_, rfl⟩
        rw [hkind]
        exact fun heq => by cases heq
      · exact ⟨commandOf (fun _ => True) trivial, rfl⟩
    simp only
    generalize s.stopTimeBasedTrackingMultiplex (some c) c.client c.id = p at hsends hlast
    have hbooks := hsends.books h.books fun cb hcb => (hok cb hcb).1
    rw [← hsends.frame.1] at hlast
    refine ⟨keys_of_ne ⟨c.client, c.id⟩ h.keys (fun k hk => ?_) ?_,
      .reportWithNoWait (.erase hlast), .reportWithNoWait hbooks.erase⟩
    · have hp : p.1.keyState k = s.keyState k := hsends.keyState_of_ne fun cb hcb => by
        rw [(hok cb hcb).2]
        exact key_ne hk
      refine Eq.trans ?_ ((keyState_erase_of_ne hk).trans hp)
      unfold reportWithNoWait
      split
      · exact keyState_report_of_ne fun _ heq => absurd heq hk
      · rfl
    · rcases hsends with rfl | ⟨q, cb, rfl, hcb⟩
      · refine (keyState_report_stop hkind).symm ▸ ?_
        rw [keyState_erase_self]
        exact hown.stopNoWait
      · refine keyState_erase_self.symm ▸ ?_
        rw [keyState_call, SessionState.add_away]
        · exact hown.away (.inl hs)
        · rcases hcb with rfl | rfl
          · exact if_pos hkind?
          · exact if_pos hkind?
        · rcases hcb with rfl | rfl
          · rfl
          · exact if_neg fun heq => by cases hkind?.symm.trans heq
  · split
    · refine ⟨keys_of_ne ⟨c.client, c.id⟩ h.keys (fun k hk => ?_) ?_, h.engine,
        h.books.call (commandOf (· = .stop) hkind)⟩
      · exact keyState_call_of_ne (key_ne hk)
      · rw [keyState_call, SessionState.add_idle rfl rfl]
        exact hown
    · refine ⟨fun k => ?_, h.engine, h.books.report⟩
      rw [keyState_report_of_ne fun heq => by cases heq]
      exact h.keys k

/-- The commands that update a session leave it where it is. -/
theorem keyState_call_update (hkind : c.kind = .update)
    (hcb : ∀ client id options, cb ≠ .switchToTimeBased client id options)
    (hcb' : ∀ client id, cb ≠ .removeDistanceBased client id) :
    (s.call (some c) q cb).keyState k = s.keyState k := by
  have hkind? : (EngineCall.mk s.calls (some c) q cb).kind? = some .update := congrArg some hkind
  refine keyState_call.trans (SessionState.add_idle ?_ ?_)
  · unfold EngineCall.away?
    rw [hkind?]
    cases cb with
    | switchToTimeBased client id options => exact absurd rfl (hcb client id options)
    | none | startTimeBased | update | stop | startDistanceBased | ignore | stopDistanceBased |
      restartDistanceBased | saveDistanceBased | removeDistanceBased => rfl
  · unfold EngineCall.coming?
    rw [hkind?]
    cases cb with
    | removeDistanceBased client id => exact absurd rfl (hcb' client id)
    | none | startTimeBased | update | stop | startDistanceBased | ignore | stopDistanceBased |
      restartDistanceBased | saveDistanceBased | switchToTimeBased => rfl

theorem keyState_reportWithNoWait_update {p : TrackingAdapter × Bool} (hkind : c.kind = .update) :
    (reportWithNoWait p (some c) client id).keyState k = p.1.keyState k := by
  unfold reportWithNoWait
  split
  · exact keyState_report_of_ne fun _ _ => hkind
  · rfl

theorem frame_reportWithNoWait {p : TrackingAdapter × Bool} :
    (reportWithNoWait p cmd client id).timeBased = p.1.timeBased ∧
      (reportWithNoWait p cmd client id).mIsEngineCapabilitiesKnown =
        p.1.mIsEngineCapabilitiesKnown ∧
      (reportWithNoWait p cmd client id).sSupportedMsg = p.1.sSupportedMsg := by
  unfold reportWithNoWait
  split
  · exact ⟨rfl, rfl, rfl⟩
  · exact ⟨rfl, rfl, rfl⟩

theorem frame_erase :
    (s.eraseTrackingSession client id).timeBased = s.timeBased ∧
      (s.eraseTrackingSession client id).mIsEngineCapabilitiesKnown =
        s.mIsEngineCapabilitiesKnown ∧
      (s.eraseTrackingSession client id).sSupportedMsg = s.sSupportedMsg := by
  unfold eraseTrackingSession
  split
  · exact ⟨rfl, rfl, rfl⟩
  · exact ⟨rfl, rfl, rfl⟩

/-- A request whose answer is ignored. -/
theorem Lifecycle.ignore (h : s.Lifecycle) (hcb : cb = .none ∨ cb = .ignore)
    (hq : ∀ start ∈ q.start?, start = !s.mTimeBasedTrackingSessions.isEmpty) :
    (s.call cmd q cb).Lifecycle where
  keys k := by
    have hkey : cb.key? ≠ some k := by
      rcases hcb with rfl | rfl
      · exact fun heq => by cases heq
      · exact fun heq => by cases heq
    rw [keyState_call_of_ne hkey]
    exact h.keys k
  engine := by
    unfold EngineOk
    rw [lastStart_call]
    cases hstart : q.start? with
    | none => exact h.engine
    | some start => exact hq start hstart
  books := by
    refine h.books.call ?_
    rcases hcb with rfl | rfl
    · trivial
    · trivial

theorem not_isEmpty_erase (hs : s.isTimeBasedTrackingSession client id = true)
    (hsize : s.mTimeBasedTrackingSessions.size ≠ 1) :
    (s.mTimeBasedTrackingSessions.erase ⟨client, id⟩).isEmpty = false := by
  obtain ⟨old, hfind⟩ := Option.isSome_iff_exists.mp hs
  exact Bool.eq_false_iff.mpr fun hempty => hsize ((OrdMap.size_eq_one hfind).mpr hempty)

/-- A time based session is stopped, and saved as a distance based one; or as a time based one, which
is no matter if it is not the only one. -/
theorem Lifecycle.switchDistanceBased (h : s.Lifecycle) (hkind : c.kind = .update)
    (hs : s.isTimeBasedTrackingSession c.client c.id = true) (hpos : 0 < o.minDistance)
    (hknown : s.mIsEngineCapabilitiesKnown = true)
    (hg : s.isMessageSupported = false → s.mTimeBasedTrackingSessions.size ≠ 1) :
    let p := s.stopTimeBasedTrackingMultiplex (some c) c.client c.id
    ((reportWithNoWait (p.1.eraseTrackingSession c.client c.id, p.2) (some c) c.client
      c.id).saveTrackingSession c.client c.id o).Lifecycle := by
  have hown := h.keys ⟨c.client, c.id⟩
  obtain ⟨hsends, hlast⟩ := @sends_stop s c.client c.id (some c) h.engine hs
  simp only
  generalize s.stopTimeBasedTrackingMultiplex (some c) c.client c.id = p at hsends hlast
  have hp (k : LocationSessionKey) : p.1.keyState k = s.keyState k := by
    rcases hsends with rfl | ⟨q, cb, rfl, hcb⟩
    · rfl
    · rcases hcb with rfl | rfl
      · exact keyState_call_update hkind (fun _ _ _ => by simp) fun _ _ => by simp
      · exact keyState_call_update hkind (fun _ _ _ => by simp) fun _ _ => by simp
  have hbooks := hsends.books h.books fun cb hcb => by
    rcases hcb with rfl | rfl
    · refine commandOf (· ≠ .start) ?_
      rw [hkind]
      exact fun heq => by cases heq
    · exact commandOf (fun _ => True) trivial
  obtain ⟨hframe, -, hknown', hsupported'⟩ := hsends.frame
  generalize ht : reportWithNoWait (p.1.eraseTrackingSession c.client c.id, p.2) (some c) c.client
    c.id = t
  have htkey (k : LocationSessionKey) :
      t.keyState k = (p.1.eraseTrackingSession c.client c.id).keyState k := by
    rw [← ht]
    exact keyState_reportWithNoWait_update hkind
  have htbooks : t.Books := ht ▸ .reportWithNoWait hbooks.erase
  have htengine : t.EngineOk := ht ▸ .reportWithNoWait (.erase (hframe.symm ▸ hlast))
  obtain ⟨htlast, htknown, htsupported⟩ := @frame_reportWithNoWait c.client c.id (some c)
    (p.1.eraseTrackingSession c.client c.id, p.2)
  obtain ⟨helast, heknown, hesupported⟩ := @frame_erase p.1 c.client c.id
  rw [ht, helast] at htlast
  rw [ht, heknown, hknown', hknown] at htknown
  rw [ht, hesupported, hsupported'] at htsupported
  have hsame : t.isMessageSupported = s.isMessageSupported := congrArg (· == some true) htsupported
  have hother {k : LocationSessionKey} (hk : k ≠ ⟨c.client, c.id⟩) : t.keyState k = s.keyState k := by
    rw [htkey, keyState_erase_of_ne hk, hp]
  have hself : t.keyState ⟨c.client, c.id⟩ = (s.keyState ⟨c.client, c.id⟩).erase := by
    rw [htkey, keyState_erase_self, hp]
  by_cases hsupported : s.isMessageSupported = true
  · have ho : t.Distanced o := ⟨hpos, hsame.trans hsupported⟩
    rw [saveTrackingSession_distanced ho]
    refine ⟨keys_of_ne ⟨c.client, c.id⟩ h.keys (fun k hk => ?_) ?_, htengine,
      htbooks.insertDistanceBased ho⟩
    · rw [keyState_insertDistanceBased_of_ne hk, hother hk]
    · rw [keyState_insertDistanceBased_self, hself]
      exact hown.switchDistanceBased hs
  · rw [Bool.not_eq_true] at hsupported
    have ho : t.Undistanced o := .inr ⟨htknown, hsame.trans hsupported⟩
    rw [saveTrackingSession_undistanced ho]
    refine ⟨keys_of_ne ⟨c.client, c.id⟩ h.keys (fun k hk => ?_) ?_, .insertTimeBased ?_,
      htbooks.insertTimeBased ho⟩
    · rw [keyState_insertTimeBased_of_ne hk, hother hk]
    · rw [keyState_insertTimeBased_self, hself]
      exact hown.resaveTimeBased hs
    · rw [htlast, hlast, not_isEmpty_erase hs (hg hsupported)]
      rfl

/-- A distance based session is erased, to be saved as a time based one later. -/
theorem Lifecycle.switchTimeBased (h : s.Lifecycle) (hkind : c.kind = .update)
    (hs : s.isDistanceBasedTrackingSession c.client c.id = true) (ho : o.minDistance = 0)
    (hq : q.start? = none) :
    ((s.eraseTrackingSession c.client c.id).call (some c) q
      (.switchToTimeBased c.client c.id o)).Lifecycle := by
  have hown := h.keys ⟨c.client, c.id⟩
  have hnot : s.mTimeBasedTrackingSessions.find ⟨c.client, c.id⟩ = none :=
    Option.not_isSome_iff_eq_none.mp (Bool.eq_false_iff.mp (hown.not_both hs))
  refine ⟨keys_of_ne ⟨c.client, c.id⟩ h.keys (fun k hk => ?_) ?_, ?_,
    h.books.erase.call ⟨commandOf (· = .update) hkind, ho⟩⟩
  · rw [keyState_call_of_ne]
    · exact keyState_erase_of_ne hk
    · exact key_ne hk
  · rw [keyState_call, keyState_erase_self, SessionState.add_away rfl rfl]
    exact hown.awayErased (.inr hs)
  · unfold EngineOk
    rw [lastStart_call, hq]
    refine EngineOk.erase ?_
    rw [OrdMap.erase_of_find hnot]
    exact h.engine

theorem Lifecycle.updateTimeBased (h : s.Lifecycle) (hkind : c.kind = .update)
    (hs : s.isTimeBasedTrackingSession c.client c.id = true) (ho : o.minDistance = 0) :
    let p := s.updateTrackingMultiplex (some c) c.client c.id o
    (reportWithNoWait (p.1.saveTrackingSession c.client c.id o, p.2) (some c) c.client
      c.id).Lifecycle := by
  obtain ⟨old, hfind⟩ := Option.isSome_iff_exists.mp hs
  have hold : s.Undistanced old := h.books.modes.timeBased _ (OrdMap.find_eq_some.mp hfind)
  obtain ⟨hsends, hlast⟩ := @sends_update s c.client c.id o (some c) old h.engine hfind
  simp only
  generalize s.updateTrackingMultiplex (some c) c.client c.id o = p at hsends hlast
  have hp (k : LocationSessionKey) : p.1.keyState k = s.keyState k := by
    rcases hsends with rfl | ⟨q, cb, rfl, rfl⟩
    · rfl
    · exact keyState_call_update hkind (fun _ _ _ => by simp) fun _ _ => by simp
  have hbooks := hsends.books h.books fun cb hcb =>
    hcb ▸ ⟨commandOf (· = .update) hkind, hold⟩
  have hsave : p.1.saveTrackingSession c.client c.id o = p.1.insertTimeBased ⟨c.client, c.id⟩ o :=
    saveTrackingSession_undistanced (.inl ho)
  rw [hsave]
  refine ⟨keys_of_ne ⟨c.client, c.id⟩ h.keys (fun k hk => ?_) ?_,
    .reportWithNoWait (.insertTimeBased hlast), .reportWithNoWait (hbooks.insertTimeBased (.inl ho))⟩
  · rw [keyState_reportWithNoWait_update hkind, keyState_insertTimeBased_of_ne hk, hp]
  · rw [keyState_reportWithNoWait_update hkind, keyState_insertTimeBased_self, hp,
      SessionState.setTimeBased_of_true hs]
    exact h.keys _

theorem Lifecycle.updateSession (h : s.Lifecycle) (hkind : c.kind = .update)
    (hsaved : s.isTimeBasedTrackingSession c.client c.id = true ∨
      s.isDistanceBasedTrackingSession c.client c.id = true)
    (hknown : 0 < o.minDistance → s.mIsEngineCapabilitiesKnown = true)
    (hg : 0 < o.minDistance → s.isTimeBasedTrackingSession c.client c.id = true →
      s.isMessageSupported = false → s.mTimeBasedTrackingSessions.size ≠ 1) :
    (s.updateSession c o).Lifecycle := by
  unfold TrackingAdapter.updateSession
  simp only
  split
  · rename_i hswitch
    obtain ⟨hs, hpos⟩ := hswitch
    exact (h.switchDistanceBased hkind hs hpos (hknown hpos) (hg hpos hs)).ignore (.inr rfl)
      fun _ hstart => by cases hstart
  · rename_i hnot
    split
    · rename_i hswitch
      exact h.switchTimeBased hkind hswitch.1 hswitch.2 rfl
    · rename_i hnot'
      split
      · rename_i hs
        exact h.updateTimeBased hkind hs (Nat.eq_zero_of_not_pos fun hpos => hnot ⟨hs, hpos⟩)
      · rename_i hs
        have hd := hsaved.resolve_left hs
        have hpos : 0 < o.minDistance := Nat.pos_of_ne_zero fun hzero => hnot' ⟨hd, hzero⟩
        obtain ⟨old, hfind⟩ := Option.isSome_iff_exists.mp hd
        have hsupported := h.books.modes.distanceBased _ (OrdMap.find_eq_some.mp hfind)
        refine ⟨fun k => ?_, h.engine,
          h.books.call ⟨commandOf (· = .update) hkind, hpos, hsupported⟩⟩
        rw [keyState_call_update hkind (fun _ _ _ => by simp) fun _ _ => by simp]
        exact h.keys k

/-! #### Messages -/

/-- What the invariant looks at, the order of open requests apart. -/
structure Alike (s s' : TrackingAdapter) : Prop where
  timeBased : s'.mTimeBasedTrackingSessions = s.mTimeBasedTrackingSessions
  distanceBased : s'.mDistanceBasedTrackingSessions = s.mDistanceBasedTrackingSessions
  live : s'.live = s.live
  requests : s'.timeBased = s.timeBased
  calls : s'.calls = s.calls
  known : s'.mIsEngineCapabilitiesKnown = s.mIsEngineCapabilitiesKnown
  supported : s'.sSupportedMsg = s.sSupportedMsg

theorem CallbackOk.congr {s' : TrackingAdapter}
    (hknown : s.mIsEngineCapabilitiesKnown = true → s'.mIsEngineCapabilitiesKnown = true ∧
      (s.isMessageSupported = false → s'.isMessageSupported = false))
    (hsupported : s.isMessageSupported = true → s'.isMessageSupported = true)
    (h : s.CallbackOk cmd cb) : s'.CallbackOk cmd cb := by
  cases cb with
  | update client id oldOptions =>
    exact h.imp_right fun hold => hold.imp_right fun hk => ⟨(hknown hk.1).1, (hknown hk.1).2 hk.2⟩
  | restartDistanceBased client id options | saveDistanceBased client id options =>
    exact h.imp_right fun hdist => hdist.imp_right hsupported
  | none | startTimeBased | stop | startDistanceBased | ignore | switchToTimeBased |
    stopDistanceBased | removeDistanceBased => exact h

/-- Messages and requests may be moved about. -/
theorem Lifecycle.alike {s' : TrackingAdapter} (h : s.Lifecycle) (ha : Alike s s')
    (hpool : s'.pool.Perm s.pool) (hkinds : ∀ m ∈ s'.queue ++ s'.mPendingMsgs, m.KindOk) :
    s'.Lifecycle where
  keys k := by
    rw [keyState_congr ha.timeBased ha.distanceBased ha.live hpool]
    exact h.keys k
  engine := by
    unfold EngineOk
    rw [ha.requests, ha.timeBased]
    exact h.engine
  books := by
    have hsupported : s'.isMessageSupported = s.isMessageSupported := by
      unfold isMessageSupported
      rw [ha.supported]
    refine ⟨⟨fun e he => ?_, fun e he => ?_, fun call hcall => ?_⟩, ?_, hkinds⟩
    · rw [ha.timeBased] at he
      unfold Undistanced
      rw [ha.known, hsupported]
      exact h.books.modes.timeBased e he
    · rw [ha.distanceBased] at he
      rw [hsupported]
      exact h.books.modes.distanceBased e he
    · refine CallbackOk.congr (fun hk => ⟨ha.known.trans hk, hsupported.trans⟩) hsupported.trans
        (h.books.modes.calls call (hpool.mem_iff.mp hcall))
    · rw [ha.requests, ha.calls]
      exact h.books.serials.perm hpool

variable {m : Msg}

/-- A message that is no answer is moved about, or comes to the others. -/
theorem Lifecycle.send (h : s.Lifecycle) (hm : m.call? = none) (hkind : m.KindOk) :
    (s.sendMsg m).Lifecycle := by
  refine h.alike ⟨rfl, rfl, rfl, rfl, rfl, rfl, rfl⟩ (.of_eq ?_) fun m' hm' => ?_
  · show s.outstanding ++ ((s.queue ++ [m]) ++ s.mPendingMsgs).filterMap Msg.call? = s.pool
    rw [List.append_assoc, List.filterMap_append, List.filterMap_append,
      List.filterMap_cons_none hm, List.filterMap_nil, List.nil_append, ← List.filterMap_append]
    rfl
  · change m' ∈ (s.queue ++ [m]) ++ s.mPendingMsgs at hm'
    rw [List.append_assoc, List.mem_append, List.mem_append, List.mem_singleton] at hm'
    rcases hm' with hq | rfl | hp
    · exact h.books.kinds m' (List.mem_append_left _ hq)
    · exact hkind
    · exact h.books.kinds m' (List.mem_append_right _ hp)

theorem Lifecycle.pend (h : s.Lifecycle) (hm : m.call? = none) (hkind : m.KindOk) :
    (s.pend m).Lifecycle := by
  refine h.alike ⟨rfl, rfl, rfl, rfl, rfl, rfl, rfl⟩ (.of_eq ?_) fun m' hm' => ?_
  · show s.outstanding ++ (s.queue ++ (s.mPendingMsgs ++ [m])).filterMap Msg.call? = s.pool
    rw [← List.append_assoc, List.filterMap_append, List.filterMap_cons_none hm, List.filterMap_nil,
      List.append_nil]
    rfl
  · change m' ∈ s.queue ++ (s.mPendingMsgs ++ [m]) at hm'
    rw [← List.append_assoc, List.mem_append, List.mem_singleton] at hm'
    rcases hm' with hold | rfl
    · exact h.books.kinds m' hold
    · exact hkind

theorem Lifecycle.procStartTracking (h : s.Lifecycle) (hkind : c.kind = .start)
    (hg : s.MsgKeeps (.start c o)) : (s.procStartTracking c o).Lifecycle := by
  unfold TrackingAdapter.procStartTracking
  split
  · exact h.pend rfl hkind
  · rename_i hready
    split
    · exact h
    · rename_i hstart
      exact h.startSession hkind (hg hready hstart) hready

theorem Lifecycle.procUpdateTracking (h : s.Lifecycle) (hkind : c.kind = .update)
    (hg : s.MsgKeeps (.update c o)) : (s.procUpdateTracking c o).Lifecycle := by
  have hreport (err : LocationError) :
      (s.reportResponse (some c) c.client err c.id).Lifecycle := by
    refine ⟨fun k => ?_, h.engine, h.books.report⟩
    rw [keyState_report_of_ne fun _ _ => hkind]
    exact h.keys k
  unfold TrackingAdapter.procUpdateTracking
  split
  · exact h.pend rfl hkind
  · rename_i hready
    split
    · exact hreport _
    · rename_i hsaved
      split
      · exact hreport _
      · rename_i hsize
        have hmin : o.fallBack.clampInterval.minDistance = o.minDistance := by
          rw [GnssTracking.minDistance_clampInterval, GnssTracking.minDistance_fallBack]
        have hknown (hpos : 0 < o.minDistance) : s.mIsEngineCapabilitiesKnown = true :=
          Bool.of_not_eq_false fun hknown => hready ⟨hknown, hpos⟩
        refine h.updateSession hkind ?_ (hmin ▸ hknown) (hmin ▸ fun hpos => ?_)
        · rw [← Bool.not_eq_true, ← Bool.not_eq_true] at hsaved
          exact or_iff_not_and_not.mpr hsaved
        · exact hg (hknown hpos) hsize hpos

theorem keyState_eraseClient : (s.eraseClient client).keyState k =
    if k.client = client then (s.keyState k).setLive false else s.keyState k := by
  have hlive : decide (k ∈ s.live.filter fun key => key.client ≠ client) =
      if k.client = client then false else decide (k ∈ s.live) := by
    split
    · rename_i hk
      exact decide_eq_false fun hmem => of_decide_eq_true (List.mem_filter.mp hmem).2 hk
    · rename_i hk
      refine decide_eq_decide.mpr ⟨fun hmem => (List.mem_filter.mp hmem).1, fun hmem => ?_⟩
      exact List.mem_filter.mpr ⟨hmem, decide_eq_true hk⟩
  show (s.keyState k).setLive (decide (k ∈ s.live.filter fun key => key.client ≠ client)) = _
  rw [hlive]
  split
  · rfl
  · rfl

/-- Distance based sessions of a removed client are stopped. -/
theorem Lifecycle.removeSessions (h : s.Lifecycle) {keys : List LocationSessionKey}
    (hkeys : ∀ key ∈ keys, key.client = client) :
    let s' := keys.foldl (fun s key =>
      s.call none (.stopDistanceBasedTracking key.id) (.removeDistanceBased client key.id)) s
    s'.Lifecycle ∧ s'.mTimeBasedTrackingSessions = s.mTimeBasedTrackingSessions ∧
      s'.mDistanceBasedTrackingSessions = s.mDistanceBasedTrackingSessions ∧
      ∀ k, 0 < (s.keyState k).coming ∨ k ∈ keys → 0 < (s'.keyState k).coming := by
  induction keys generalizing s with
  | nil =>
    refine ⟨h, rfl, rfl, fun k hk => hk.resolve_right List.not_mem_nil⟩
  | cons key keys ih =>
    have hadd (k : LocationSessionKey) :
        (s.call none (.stopDistanceBasedTracking key.id)
          (.removeDistanceBased client key.id)).keyState k =
        if k = ⟨client, key.id⟩ then (s.keyState k).addComing else s.keyState k := by
      split
      · rename_i hk
        rw [keyState_call, hk, SessionState.add_coming rfl rfl]
      · rename_i hk
        rw [keyState_call_of_ne]
        exact key_ne hk
    have hcall : (s.call none (.stopDistanceBasedTracking key.id)
        (.removeDistanceBased client key.id)).Lifecycle := by
      refine ⟨fun k => ?_, h.engine, h.books.call trivial⟩
      rw [hadd]
      split
      · exact (h.keys k).addComing
      · exact h.keys k
    obtain ⟨hlife, ht, hd, hcoming⟩ := ih hcall fun k hk => hkeys k (List.mem_cons_of_mem _ hk)
    refine ⟨hlife, ht, hd, fun k hk => hcoming k ?_⟩
    rcases hk with hk | hk
    · left
      rw [hadd]
      split
      · exact Nat.succ_pos _
      · exact hk
    · refine (List.mem_cons.mp hk).imp_left fun hk => ?_
      obtain rfl := hkeys key List.mem_cons_self
      rw [hadd, if_pos hk]
      exact Nat.succ_pos _

theorem Lifecycle.removeClient (h : s.Lifecycle) (hg : s.MsgKeeps (.removeClient client)) :
    ((s.stopClientSessions client).eraseClient client).Lifecycle := by
  have hnone : ((s.mTimeBasedTrackingSessions.entries.map Prod.fst).filter fun key =>
      client = key.client) = [] := by
    refine List.filter_eq_nil_iff.mpr fun key hkey heq => ?_
    obtain ⟨e, he, rfl⟩ := List.mem_map.mp hkey
    exact hg e he (of_decide_eq_true heq).symm
  unfold stopClientSessions
  rw [hnone]
  simp only [List.foldl_nil]
  have hclient : ∀ key ∈ (s.mDistanceBasedTrackingSessions.entries.map Prod.fst).filter fun key =>
      client = key.client, key.client = client :=
    fun key hkey => (of_decide_eq_true (List.mem_filter.mp hkey).2).symm
  obtain ⟨hlife, ht, hd, hcoming⟩ := h.removeSessions hclient
  generalize (List.foldl _ s _) = s' at hlife ht hd hcoming
  refine ⟨fun k => ?_, hlife.engine, ⟨hlife.books.modes.timeBased, hlife.books.modes.distanceBased,
    hlife.books.modes.calls⟩, hlife.books.serials, hlife.books.kinds⟩
  rw [keyState_eraseClient]
  split
  · rename_i hk
    refine (hlife.keys k).remove fun hsaved => hcoming k (.inr ?_)
    have hsaved : (s.mTimeBasedTrackingSessions.find k).isSome = true ∨
        (s.mDistanceBasedTrackingSessions.find k).isSome = true := ht ▸ hd ▸ hsaved
    rcases hsaved with hsome | hsome
    · obtain ⟨o, ho⟩ := Option.isSome_iff_exists.mp hsome
      exact absurd hk (hg _ (OrdMap.find_eq_some.mp ho))
    · obtain ⟨o, ho⟩ := Option.isSome_iff_exists.mp hsome
      refine List.mem_filter.mpr ⟨List.mem_map.mpr ⟨_, OrdMap.find_eq_some.mp ho, rfl⟩, ?_⟩
      exact decide_eq_true hk.symm
  · exact hlife.keys k

/-- The engine's capabilities are known. -/
theorem Lifecycle.known (h : s.Lifecycle) : Lifecycle { s with
    mIsEngineCapabilitiesKnown := true } where
  keys := h.keys
  engine := h.engine
  books :=
    { modes :=
        { timeBased := fun e he =>
            (h.books.modes.timeBased e he).imp_right fun hnot => ⟨rfl, hnot.2⟩
          distanceBased := h.books.modes.distanceBased
          calls := fun call hcall =>
            @CallbackOk.congr s call.cmd call.callback _ (fun _ => ⟨rfl, id⟩) id
              (h.books.modes.calls call hcall) }
      serials := h.books.serials
      kinds := h.books.kinds }

theorem Lifecycle.restartSessions (h : s.Lifecycle) : s.restartSessions.Lifecycle := by
  have hrestart {l : List (LocationSessionKey × TrackingOptions)} : ∀ {s : TrackingAdapter},
      s.Lifecycle → (l.foldl (fun s it =>
        s.call none (.startDistanceBasedTracking it.1.id it.2) .ignore) s).Lifecycle := by
    induction l with
    | nil => exact fun h => h
    | cons it l ih => exact fun h => ih (h.ignore (.inr rfl) fun _ hstart => by cases hstart)
  unfold TrackingAdapter.restartSessions
  simp only
  split
  · exact hrestart h
  · rename_i hne
    refine hrestart (h.ignore (.inl rfl) fun start hstart => ?_)
    rw [Bool.not_eq_true] at hne
    rw [hne]
    exact (Option.some.inj hstart).symm

theorem Lifecycle.procEngineUp (h : s.Lifecycle) : s.procEngineUp.Lifecycle := by
  have hlife := h.known.restartSessions
  refine hlife.alike ⟨rfl, rfl, rfl, rfl, rfl, rfl, rfl⟩ (.of_eq ?_) fun m hm => ?_
  · unfold TrackingAdapter.procEngineUp pool
    rw [List.append_nil]
  · unfold TrackingAdapter.procEngineUp at hm
    rw [List.append_nil] at hm
    exact hlife.books.kinds m hm

/-! #### Answers -/

/-- The answer to a request has been noted, and the callback of the request is about to run. -/
structure Answering (s : TrackingAdapter) (call : EngineCall) : Prop where
  keys : ∀ k, ((s.keyState k).add k call).Ok
  books : s.Books
  callback : s.CallbackOk call.cmd call.callback

variable {n : ℕ}

/-- A callback that holds nothing. -/
theorem Answering.lifecycle {call : EngineCall} (h : s.Answering call) (he : s.EngineOk)
    (ha : call.away? = none) (hc : call.coming? = none) : s.Lifecycle where
  keys k := by
    have hk := h.keys k
    rwa [SessionState.add_idle ha hc] at hk
  engine := he
  books := h.books

theorem Answering.keys_of_ne {s' : TrackingAdapter} {call : EngineCall} (h : s.Answering call)
    (hkey : call.callback.key? = some key)
    (hother : ∀ k, k ≠ key → s'.keyState k = s.keyState k) (hown : (s'.keyState key).Ok) :
    ∀ k, (s'.keyState k).Ok := by
  intro k
  by_cases hk : k = key
  · exact hk ▸ hown
  · have hne : call.callback.key? ≠ some k := hkey ▸ fun heq => hk (Option.some.inj heq).symm
    have hok := h.keys k
    rw [SessionState.add_of_ne hne] at hok
    rw [hother k hk]
    exact hok

theorem Lifecycle.report (h : s.Lifecycle) (hkind : err = .SUCCESS → c.kind = .update) :
    (s.reportResponse (some c) client err id).Lifecycle := by
  refine ⟨fun k => ?_, h.engine, h.books.report⟩
  rw [keyState_report_of_ne fun herr _ => hkind herr]
  exact h.keys k

variable {call : EngineCall}

/-- The start of a session is accepted. -/
theorem Answering.started (h : s.Answering call) (he : s.EngineOk) (hkind : c.kind = .start)
    (ha : call.away? = none) (hc : call.coming? = some ⟨c.client, c.id⟩)
    (hg : (s.keyState ⟨c.client, c.id⟩).held = 1) :
    (s.reportResponse (some c) c.client .SUCCESS c.id).Lifecycle := by
  have hown := h.keys ⟨c.client, c.id⟩
  rw [SessionState.add_coming ha hc] at hown
  refine ⟨h.keys_of_ne (EngineCall.key_of_coming hc) (fun k hk => ?_) ?_, he, h.books.report⟩
  · exact keyState_report_of_ne fun _ heq => absurd heq hk
  · rw [keyState_report_start hkind]
    exact hown.accepted hg

/-- The stop of a session is accepted. -/
theorem Answering.stopped (h : s.Answering call) (he : s.EngineOk) (hkind : c.kind = .stop)
    (ha : call.away? = some ⟨c.client, c.id⟩) (hc : call.coming? = none) :
    (s.reportResponse (some c) c.client .SUCCESS c.id).Lifecycle := by
  have hown := h.keys ⟨c.client, c.id⟩
  rw [SessionState.add_away ha hc] at hown
  refine ⟨h.keys_of_ne (EngineCall.key_of_away ha) (fun k hk => ?_) ?_, he, h.books.report⟩
  · exact keyState_report_of_ne fun _ heq => absurd heq hk
  · rw [keyState_report_stop hkind]
    exact hown.stopped

/-- The session is erased. -/
theorem Answering.erased (h : s.Answering call) (hkey : call.callback.key? = some ⟨client, id⟩)
    (he : lastStart s.timeBased = !(s.mTimeBasedTrackingSessions.erase ⟨client, id⟩).isEmpty)
    (hg : (s.keyState ⟨client, id⟩).live = true → 0 < (s.keyState ⟨client, id⟩).away) :
    (s.eraseTrackingSession client id).Lifecycle := by
  refine ⟨h.keys_of_ne hkey (fun k hk => keyState_erase_of_ne hk) ?_, .erase he, h.books.erase⟩
  rw [keyState_erase_self]
  exact (h.keys ⟨client, id⟩).refused hg

theorem engine_erase (he : s.EngineOk) (hs : (s.keyState ⟨client, id⟩).timeBased = false) :
    lastStart s.timeBased = !(s.mTimeBasedTrackingSessions.erase ⟨client, id⟩).isEmpty := by
  rw [OrdMap.erase_of_find (Option.not_isSome_iff_eq_none.mp (Bool.eq_false_iff.mp hs))]
  exact he

/-- What `AnswerKeeps` says once the answer has been noted. -/
structure Noted (s : TrackingAdapter) (call : EngineCall) (err : LocationError) : Prop where
  accepted : err = .SUCCESS → s.AcceptedKeeps call.kind? call.callback
  refused : err ≠ .SUCCESS → s.RefusedKeeps call.callback ∧
    lastStart s.timeBased = !(s.remaining call.callback).isEmpty

theorem Answering.startTimeBased (h : s.Answering ⟨n, cmd, q, .startTimeBased client id⟩)
    (he : err = .SUCCESS → s.EngineOk) (hg : s.Noted ⟨n, cmd, q, .startTimeBased client id⟩ err) :
    (s.runCallback cmd err (.startTimeBased client id)).Lifecycle := by
  obtain ⟨c, rfl, rfl, rfl, -⟩ := h.callback
  by_cases herr : err = .SUCCESS
  · subst herr
    have he := he rfl
    show (s.reportResponse (some c) c.client .SUCCESS c.id).Lifecycle
    cases hkind : c.kind with
    | start =>
      have hkind? : (some c).map TrackingCommand.kind = some .start := congrArg some hkind
      refine h.started he hkind (if_neg fun heq => ?_) (if_pos hkind?) (hg.accepted rfl hkind?)
      cases hkind?.symm.trans heq
    | update =>
      have hkind? : (some c).map TrackingCommand.kind = some .update := congrArg some hkind
      refine (h.lifecycle he (if_neg fun heq => ?_) (if_neg fun heq => ?_)).report fun _ => hkind
      · cases hkind?.symm.trans heq
      · cases hkind?.symm.trans heq
    | stop =>
      have hkind? : (some c).map TrackingCommand.kind = some .stop := congrArg some hkind
      refine h.stopped he hkind (if_pos hkind?) (if_neg fun heq => ?_)
      cases hkind?.symm.trans heq
  · have hg := hg.refused herr
    simp only [runCallback, if_pos herr]
    exact (h.erased rfl hg.2 hg.1).report fun hsuccess => absurd hsuccess herr

theorem Answering.startDistanceBased (h : s.Answering ⟨n, cmd, q, .startDistanceBased client id⟩)
    (he : err = .SUCCESS → s.EngineOk)
    (hg : s.Noted ⟨n, cmd, q, .startDistanceBased client id⟩ err) :
    (s.runCallback cmd err (.startDistanceBased client id)).Lifecycle := by
  obtain ⟨c, rfl, rfl, rfl, hkind⟩ := h.callback
  have hkind? : (some c).map TrackingCommand.kind = some .start := congrArg some hkind
  by_cases herr : err = .SUCCESS
  · subst herr
    exact h.started (he rfl) hkind rfl (if_pos hkind?) (hg.accepted rfl hkind?)
  · have hg := hg.refused herr
    simp only [runCallback, if_pos herr]
    exact (h.erased rfl hg.2 hg.1).report fun hsuccess => absurd hsuccess herr

/-- The engine is started, or stopped, as it is to be, if the answer erases nothing. -/
theorem Noted.engine (hg : s.Noted call err) (he : err = .SUCCESS → s.EngineOk)
    (hr : s.remaining call.callback = s.mTimeBasedTrackingSessions) : s.EngineOk := by
  by_cases herr : err = .SUCCESS
  · exact he herr
  · have hengine := (hg.refused herr).2
    rw [hr] at hengine
    exact hengine

theorem Answering.update (h : s.Answering ⟨n, cmd, q, .update client id o⟩)
    (he : err = .SUCCESS → s.EngineOk) (hg : s.Noted ⟨n, cmd, q, .update client id o⟩ err) :
    (s.runCallback cmd err (.update client id o)).Lifecycle := by
  obtain ⟨⟨c, rfl, rfl, rfl, hkind⟩, hold⟩ := h.callback
  have hlife := h.lifecycle (hg.engine he rfl) rfl rfl
  by_cases herr : err = .SUCCESS
  · subst herr
    exact hlife.report fun _ => hkind
  · have hs := (hg.refused herr).1
    have hlast : lastStart s.timeBased = true := by
      rw [hlife.engine]
      obtain ⟨old, hfind⟩ := Option.isSome_iff_exists.mp hs
      refine congrArg not (Bool.eq_false_iff.mpr fun hempty => ?_)
      rw [OrdMap.isEmpty_iff_find.mp hempty] at hfind
      cases hfind
    simp only [runCallback, if_pos herr]
    rw [saveTrackingSession_undistanced hold]
    refine Lifecycle.report ⟨TrackingAdapter.keys_of_ne ⟨c.client, c.id⟩ hlife.keys
      (fun k hk => keyState_insertTimeBased_of_ne hk) ?_, .insertTimeBased hlast,
      hlife.books.insertTimeBased hold⟩ fun hsuccess => absurd hsuccess herr
    rw [keyState_insertTimeBased_self, SessionState.setTimeBased_of_true hs]
    exact hlife.keys _

theorem Answering.stop (h : s.Answering ⟨n, cmd, q, .stop client id⟩)
    (he : err = .SUCCESS → s.EngineOk) (hg : s.Noted ⟨n, cmd, q, .stop client id⟩ err) :
    (s.runCallback cmd err (.stop client id)).Lifecycle := by
  obtain ⟨c, rfl, rfl, rfl, hnot⟩ := h.callback
  have hengine := hg.engine he rfl
  show (s.reportResponse (some c) c.client err c.id).Lifecycle
  by_cases herr : err = .SUCCESS
  · subst herr
    cases hkind : c.kind with
    | start => exact absurd hkind hnot
    | update =>
      refine (h.lifecycle hengine (if_neg fun heq => ?_) rfl).report fun _ => hkind
      cases (congrArg some hkind).symm.trans heq
    | stop => exact h.stopped hengine hkind (if_pos (congrArg some hkind)) rfl
  · have hlife : s.Lifecycle := by
      refine ⟨h.keys_of_ne rfl (fun _ _ => rfl) ?_, hengine, h.books⟩
      exact (h.keys ⟨c.client, c.id⟩).stopRefused rfl (hg.refused herr).1
    exact hlife.report fun hsuccess => absurd hsuccess herr

theorem Answering.switchToTimeBased (h : s.Answering ⟨n, cmd, q, .switchToTimeBased client id o⟩)
    (he : err = .SUCCESS → s.EngineOk)
    (hg : s.Noted ⟨n, cmd, q, .switchToTimeBased client id o⟩ err) :
    (s.runCallback cmd err (.switchToTimeBased client id o)).Lifecycle := by
  obtain ⟨⟨c, rfl, rfl, rfl, hkind⟩, ho⟩ := h.callback
  have hheld : (s.keyState ⟨c.client, c.id⟩).live = true ∨
      0 < (s.keyState ⟨c.client, c.id⟩).coming := by
    by_cases herr : err = .SUCCESS
    · exact hg.accepted herr
    · exact (hg.refused herr).1
  have hown := h.keys ⟨c.client, c.id⟩
  rw [SessionState.add_away rfl rfl] at hown
  obtain ⟨hsends, hlast⟩ := @sends_start s c.client c.id o (some c) (hg.engine he rfl)
  simp only [runCallback]
  generalize s.startTimeBasedTrackingMultiplex (some c) c.client c.id o = p at hsends hlast
  have hp (k : LocationSessionKey) : p.1.keyState k = s.keyState k := by
    rcases hsends with rfl | ⟨q, cb, rfl, rfl⟩
    · rfl
    · exact keyState_call_update hkind (fun _ _ _ => by simp) fun _ _ => by simp
  have hbooks := hsends.books h.books fun cb hcb => hcb ▸ commandOf (fun _ => True) trivial
  have hsave : p.1.saveTrackingSession c.client c.id o = p.1.insertTimeBased ⟨c.client, c.id⟩ o :=
    saveTrackingSession_undistanced (.inl ho)
  rw [hsave]
  refine ⟨h.keys_of_ne rfl (fun k hk => ?_) ?_, .reportWithNoWait (.insertTimeBased hlast),
    .reportWithNoWait (hbooks.insertTimeBased (.inl ho))⟩
  · rw [keyState_reportWithNoWait_update hkind, keyState_insertTimeBased_of_ne hk, hp]
  · rw [keyState_reportWithNoWait_update hkind, keyState_insertTimeBased_self, hp]
    exact hown.switched hheld

theorem Answering.stopDistanceBased (h : s.Answering ⟨n, cmd, q, .stopDistanceBased client id⟩)
    (he : err = .SUCCESS → s.EngineOk)
    (hg : s.Noted ⟨n, cmd, q, .stopDistanceBased client id⟩ err) :
    (s.runCallback cmd err (.stopDistanceBased client id)).Lifecycle := by
  obtain ⟨c, rfl, rfl, rfl, hkind⟩ := h.callback
  have hlife := h.lifecycle (hg.engine he rfl) rfl rfl
  by_cases herr : err = .SUCCESS
  · subst herr
    simp only [runCallback, if_pos]
    refine ⟨h.keys_of_ne rfl (fun k hk => ?_) ?_,
      .erase (engine_erase hlife.engine (hg.accepted rfl)), h.books.erase.report⟩
    · exact (keyState_report_of_ne fun _ heq => absurd heq hk).trans (keyState_erase_of_ne hk)
    · rw [keyState_report_stop hkind, keyState_erase_self]
      exact (hlife.keys _).stopNoWait
  · simp only [runCallback, if_neg herr]
    exact hlife.report fun hsuccess => absurd hsuccess herr

theorem Answering.restartDistanceBased
    (h : s.Answering ⟨n, cmd, q, .restartDistanceBased client id o⟩)
    (he : err = .SUCCESS → s.EngineOk)
    (hg : s.Noted ⟨n, cmd, q, .restartDistanceBased client id o⟩ err) :
    (s.runCallback cmd err (.restartDistanceBased client id o)).Lifecycle := by
  obtain ⟨⟨c, rfl, rfl, rfl, hkind⟩, ho⟩ := h.callback
  have hlife := h.lifecycle (hg.engine he rfl) rfl rfl
  simp only [runCallback]
  split
  · refine ⟨fun k => ?_, hlife.engine, h.books.call ⟨commandOf (· = .update) hkind, ho⟩⟩
    rw [keyState_call_update hkind (fun _ _ _ => by simp) fun _ _ => by simp]
    exact hlife.keys k
  · exact hlife

theorem Answering.saveDistanceBased (h : s.Answering ⟨n, cmd, q, .saveDistanceBased client id o⟩)
    (he : err = .SUCCESS → s.EngineOk)
    (hg : s.Noted ⟨n, cmd, q, .saveDistanceBased client id o⟩ err) :
    (s.runCallback cmd err (.saveDistanceBased client id o)).Lifecycle := by
  obtain ⟨⟨c, rfl, rfl, rfl, hkind⟩, ho⟩ := h.callback
  have hlife := h.lifecycle (hg.engine he rfl) rfl rfl
  by_cases herr : err = .SUCCESS
  · have hs := hg.accepted herr
    simp only [runCallback, if_pos herr]
    rw [saveTrackingSession_distanced ho]
    refine Lifecycle.report ⟨h.keys_of_ne rfl (fun k hk => ?_) ?_, hlife.engine,
      h.books.insertDistanceBased ho⟩ fun _ => hkind
    · exact keyState_insertDistanceBased_of_ne hk
    · rw [keyState_insertDistanceBased_self, SessionState.setDistanceBased_of_true hs]
      exact hlife.keys _
  · simp only [runCallback, if_neg herr]
    exact hlife.report fun hsuccess => absurd hsuccess herr

theorem Answering.removeDistanceBased (h : s.Answering ⟨n, cmd, q, .removeDistanceBased client id⟩)
    (he : err = .SUCCESS → s.EngineOk)
    (hg : s.Noted ⟨n, cmd, q, .removeDistanceBased client id⟩ err) :
    (s.runCallback cmd err (.removeDistanceBased client id)).Lifecycle := by
  by_cases herr : err = .SUCCESS
  · obtain ⟨hs, hlive⟩ := hg.accepted herr
    simp only [runCallback, if_pos herr]
    exact h.erased rfl (engine_erase (he herr) hs) hlive
  · simp only [runCallback, if_neg herr]
    have hown := h.keys ⟨client, id⟩
    rw [SessionState.add_coming rfl rfl] at hown
    refine ⟨h.keys_of_ne rfl (fun _ _ => rfl) ?_, hg.engine he rfl, h.books⟩
    exact hown.removalRefused (hg.refused herr).1

/-- The callback of a request that has been answered. -/
theorem Answering.runCallback (h : s.Answering call) (he : err = .SUCCESS → s.EngineOk)
    (hg : s.Noted call err) : (s.runCallback call.cmd err call.callback).Lifecycle := by
  obtain ⟨n, cmd, q, cb⟩ := call
  cases cb with
  | none => exact h.lifecycle (hg.engine he rfl) rfl rfl
  | ignore => exact h.lifecycle (hg.engine he rfl) rfl rfl
  | startTimeBased client id => exact h.startTimeBased he hg
  | startDistanceBased client id => exact h.startDistanceBased he hg
  | update client id oldOptions => exact h.update he hg
  | stop client id => exact h.stop he hg
  | switchToTimeBased client id options => exact h.switchToTimeBased he hg
  | stopDistanceBased client id => exact h.stopDistanceBased he hg
  | restartDistanceBased client id options => exact h.restartDistanceBased he hg
  | saveDistanceBased client id options => exact h.saveDistanceBased he hg
  | removeDistanceBased client id => exact h.removeDistanceBased he hg

/-! #### Steps -/

variable {queue : List Msg}

/-- The first message is taken from the queue. -/
theorem Lifecycle.pop (h : s.Lifecycle) (hq : s.queue = m :: queue) (hm : m.call? = none) :
    Lifecycle { s with queue := queue } := by
  refine h.alike ⟨rfl, rfl, rfl, rfl, rfl, rfl, rfl⟩ (.of_eq ?_) fun m' hm' => ?_
  · unfold pool
    rw [hq, List.cons_append, List.filterMap_cons_none hm]
  · refine h.books.kinds m' ?_
    rw [hq, List.cons_append]
    exact List.mem_cons_of_mem _ hm'

theorem Lifecycle.answering (h : s.Lifecycle) (hq : s.queue = .answer call err :: queue) :
    Answering (note { s with queue := queue } call err) call ∧
      (err = .SUCCESS → EngineOk (note { s with queue := queue } call err)) := by
  have hpool : s.pool.Perm (call :: (note { s with queue := queue } call err).pool) := by
    have hcall : (Msg.answer call err).call? = some call := rfl
    unfold pool
    rw [hq, List.cons_append, List.filterMap_cons_some hcall]
    exact List.perm_middle
  have hserials := h.books.serials.perm hpool.symm
  refine ⟨⟨fun k => ?_, ⟨⟨h.books.modes.timeBased, h.books.modes.distanceBased,
    fun call' hcall => ?_⟩, ?_, fun m' hm' => ?_⟩, ?_⟩, fun herr => ?_⟩
  · have hadd : s.keyState k = (keyState (note { s with queue := queue } call err) k).add k call :=
      keyState_add rfl rfl rfl hpool
    rw [← hadd]
    exact h.keys k
  · exact .congr (fun hk => ⟨hk, id⟩) id
      (h.books.modes.calls call' (hpool.mem_iff.mpr (List.mem_cons_of_mem _ hcall)))
  · exact Serials.note (s := { s with queue := queue }) hserials
  · refine h.books.kinds m' ?_
    rw [hq, List.cons_append]
    exact List.mem_cons_of_mem _ hm'
  · exact .congr (fun hk => ⟨hk, id⟩) id
      (h.books.modes.calls call (hpool.mem_iff.mpr List.mem_cons_self))
  · subst herr
    exact (lastStart_note (hserials.waiting call List.mem_cons_self)).trans h.engine

theorem AnswerKeeps.noted (hg : s.AnswerKeeps call err) : (s.note call err).Noted call err := by
  unfold AnswerKeeps at hg
  split at hg
  · rename_i herr
    exact ⟨fun _ => hg, fun hne => absurd herr hne⟩
  · rename_i herr
    exact ⟨fun hsuccess => absurd hsuccess herr, fun _ => hg⟩

theorem Lifecycle.proc (h : s.Lifecycle) (hq : s.queue = m :: queue)
    (hg : MsgKeeps { s with queue := queue } m) :
    Lifecycle (proc { s with queue := queue } m) := by
  have hkind : m.KindOk := h.books.kinds m (by
    rw [hq]
    exact List.mem_append_left _ List.mem_cons_self)
  cases m with
  | addClient client hasCallback =>
    have hpop := h.pop hq rfl
    exact hpop.alike ⟨rfl, rfl, rfl, rfl, rfl, rfl, rfl⟩ (.of_eq rfl) hpop.books.kinds
  | removeClient client => exact (h.pop hq rfl).removeClient hg
  | start cmd options => exact (h.pop hq rfl).procStartTracking hkind hg
  | update cmd options => exact (h.pop hq rfl).procUpdateTracking hkind hg
  | stop cmd => exact (h.pop hq rfl).procStopTracking hkind
  | handleEngineUpEvent => exact (h.pop hq rfl).procEngineUp
  | answer call err =>
    obtain ⟨hanswering, he⟩ := h.answering hq
    exact hanswering.runCallback he (AnswerKeeps.noted hg)

/-- A client gives a command. -/
theorem Lifecycle.issue (h : s.Lifecycle) {kind : TrackingCommandKind} {msg : TrackingCommand → Msg}
    (hmsg : ∀ c, (msg c).call? = none ∧ (c.kind = kind → (msg c).KindOk)) :
    (s.issue kind client id msg).Lifecycle := by
  have hsend := h.send (hmsg ⟨s.issued.length, kind, client, id⟩).1
    ((hmsg ⟨s.issued.length, kind, client, id⟩).2 rfl)
  exact hsend.alike ⟨rfl, rfl, rfl, rfl, rfl, rfl, rfl⟩ (.of_eq rfl) hsend.books.kinds

/-- The engine answers. -/
theorem Lifecycle.answer (h : s.Lifecycle) (hmem : call ∈ s.outstanding) :
    Lifecycle (sendMsg { s with
      outstanding := s.outstanding.erase call } (.answer call err)) := by
  refine h.alike ⟨rfl, rfl, rfl, rfl, rfl, rfl, rfl⟩ ?_ fun m hm => ?_
  · show (s.outstanding.erase call ++ ((s.queue ++ [Msg.answer call err]) ++
      s.mPendingMsgs).filterMap Msg.call?).Perm s.pool
    have hone : [Msg.answer call err].filterMap Msg.call? = [call] := rfl
    rw [List.append_assoc, List.filterMap_append, List.filterMap_append, hone]
    unfold pool
    rw [List.filterMap_append]
    -- the request goes from the engine to the end of the queue
    refine (List.Perm.append_left _ List.perm_middle).trans ?_
    exact List.perm_middle.trans ((List.perm_cons_erase hmem).symm.append_right _)
  · change m ∈ (s.queue ++ [Msg.answer call err]) ++ s.mPendingMsgs at hm
    rw [List.append_assoc, List.mem_append, List.mem_append, List.mem_singleton] at hm
    rcases hm with hq | rfl | hp
    · exact h.books.kinds m (List.mem_append_left _ hq)
    · trivial
    · exact h.books.kinds m (List.mem_append_right _ hp)

/-- The engine says whether it supports distance based tracking. -/
theorem Lifecycle.setEngineCapabilities (h : s.Lifecycle) {distanceBased : Bool}
    (hg : s.Keeps (.setEngineCapabilities distanceBased)) : Lifecycle { s with
      sSupportedMsg := s.sSupportedMsg.or (some distanceBased) } := by
  have hsupported (hs : s.isMessageSupported = true) :
      isMessageSupported { s with
        sSupportedMsg := s.sSupportedMsg.or (some distanceBased) } = true := by
    have hsome : s.sSupportedMsg = some true := beq_iff_eq.mp hs
    unfold isMessageSupported
    rw [hsome]
    rfl
  have hknown (hk : s.mIsEngineCapabilitiesKnown = true) (hs : s.isMessageSupported = false) :
      isMessageSupported { s with
        sSupportedMsg := s.sSupportedMsg.or (some distanceBased) } = false := by
    unfold isMessageSupported at hs ⊢
    cases hmsg : s.sSupportedMsg with
    | none =>
      rw [hg hk hmsg]
      rfl
    | some supported =>
      rw [hmsg] at hs
      exact hs
  refine ⟨h.keys, h.engine, ⟨⟨fun e he => ?_, fun e he => ?_, fun call hcall => ?_⟩,
    h.books.serials, h.books.kinds⟩⟩
  · exact (h.books.modes.timeBased e he).imp_right fun hnot => ⟨hnot.1, hknown hnot.1 hnot.2⟩
  · exact hsupported (h.books.modes.distanceBased e he)
  · exact @CallbackOk.congr s call.cmd call.callback _ (fun hk => ⟨hk, hknown hk⟩) hsupported
      (h.books.modes.calls call hcall)

end

/-! ### Runs -/

theorem lifecycle_initial : initial.Lifecycle where
  keys k :=
    { one := Nat.zero_le _
      live := fun h => by cases h
      saved := fun h => by
        rcases h with h | h
        · cases h
        · cases h }
  engine := rfl
  books :=
    { modes := ⟨fun _ he => (by cases he), fun _ he => (by cases he), fun _ hc => by cases hc⟩
      serials := ⟨List.nodup_nil, fun _ hc => (by cases hc), fun _ hr => (by cases hr),
        fun _ hc => (by cases hc), fun _ hr => by cases hr⟩
      kinds := fun _ hm => by cases hm }

theorem lifecycle_step {s s' : TrackingAdapter} {e : Event} (h : s.Lifecycle) (hg : s.Keeps e)
    (hs : s.step e = some s') : s'.Lifecycle := by
  cases e with
  | addClientCommand client hasCallback =>
    obtain rfl := Option.some.inj hs
    exact h.send rfl trivial
  | removeClientCommand client =>
    obtain rfl := Option.some.inj hs
    exact h.send rfl trivial
  | startTrackingCommand client options =>
    obtain rfl := Option.some.inj hs
    have hlife : Lifecycle { s with
      mSessionIdCounter := s.generateSessionId } :=
      h.alike ⟨rfl, rfl, rfl, rfl, rfl, rfl, rfl⟩ (.of_eq rfl) h.books.kinds
    exact hlife.issue fun c => ⟨rfl, id⟩
  | updateTrackingOptionsCommand client id options =>
    obtain rfl := Option.some.inj hs
    exact h.issue fun c => ⟨rfl, fun hk => hk⟩
  | stopTrackingCommand client id =>
    obtain rfl := Option.some.inj hs
    exact h.issue fun c => ⟨rfl, fun hk => hk⟩
  | handleEngineUpEvent =>
    obtain rfl := Option.some.inj hs
    exact h.send rfl trivial
  | generateSessionId =>
    obtain rfl := Option.some.inj hs
    exact h.alike ⟨rfl, rfl, rfl, rfl, rfl, rfl, rfl⟩ (.of_eq rfl) h.books.kinds
  | setEngineCapabilities distanceBased =>
    obtain rfl := Option.some.inj hs
    exact h.setEngineCapabilities hg
  | answer call err =>
    obtain ⟨hmem, hs⟩ := Option.ite_none_right_eq_some.mp hs
    obtain rfl := Option.some.inj hs
    exact h.answer hmem
  | process =>
    simp only [step] at hs
    split at hs
    · cases hs
    · rename_i m queue hq
      obtain rfl := Option.some.inj hs
      refine h.proc hq ?_
      have hkeeps := hg m (by rw [hq]; rfl)
      rwa [hq] at hkeeps

/-- **The saved tracking sessions are the live ones**, each in one map, and the engine has been
started last if there is a time based one, whenever all requests are answered. -/
theorem tracking_lifecycle {es : List Event} {s : TrackingAdapter} (h : system.Run Keeps es s)
    (hq : s.Quiet) : s.Consistent := by
  have hlife : s.Lifecycle :=
    h.invariant lifecycle_initial fun _ _ _ hi hg hst => lifecycle_step hi hg hst
  have hidle (k : LocationSessionKey) : (s.keyState k).away = 0 ∧ (s.keyState k).coming = 0 := by
    unfold keyState
    rw [hq.answered]
    exact ⟨rfl, rfl⟩
  -- all requests have been accepted or refused
  have hrequests : (s.timeBased.filter fun r => r.result = none ∨ r.result = some .SUCCESS) =
      s.timeBased.filter fun r => r.result = some .SUCCESS := by
    refine List.filter_congr fun r hr => ?_
    have hsome : r.result ≠ none := by
      intro hnone
      obtain ⟨call, hcall, -⟩ := hlife.books.serials.answered r hr hnone
      rw [hq.answered] at hcall
      cases hcall
    simp [hsome]
  have hengine : lastStart s.timeBased = (s.lastAccepted == some true) := by
    unfold lastStart lastAccepted
    rw [hrequests]
    cases (s.timeBased.filter fun r => r.result = some .SUCCESS).getLast? with
    | none => rfl
    | some r => cases hr : r.start <;> simp [hr]
  rw [hlife.engine] at hengine
  refine ⟨fun k hk => ?_, fun k => ⟨fun hk => ?_, fun hk => ?_⟩, fun hne => ?_,
    fun hempty start hstart => ?_⟩
  · refine Bool.eq_false_iff.mpr fun hd => ?_
    have hnot : (s.keyState k).timeBased = false := (hlife.keys k).not_both hd
    exact Bool.noConfusion (hnot.symm.trans hk)
  · refine of_decide_eq_true (((hlife.keys k).saved hk).resolve_right ?_)
    rw [(hidle k).2]
    exact Nat.lt_irrefl 0
  · have hheld := (hlife.keys k).live (decide_eq_true hk)
    by_contra hnot
    obtain ⟨ht, hd⟩ := not_or.mp hnot
    unfold SessionState.held at hheld
    rw [(hidle k).1] at hheld
    change (s.mTimeBasedTrackingSessions.find k).isSome.toNat +
      (s.mDistanceBasedTrackingSessions.find k).isSome.toNat + 0 = 1 at hheld
    rw [Bool.eq_false_iff.mpr ht, Bool.eq_false_iff.mpr hd] at hheld
    cases hheld
  · rw [hne] at hengine
    exact beq_iff_eq.mp hengine.symm
  · rw [hempty] at hengine
    cases start with
    | false => rfl
    | true => exact absurd hstart (beq_eq_false_iff_ne.mp hengine.symm)

section

instance {s : TrackingAdapter} {call : EngineCall} {err : LocationError} :
    Decidable (s.Fits call err) :=
  inferInstanceAs (Decidable (_ = _))

instance {s : TrackingAdapter} {kind? : Option TrackingCommandKind} :
    ∀ cb, Decidable (s.AcceptedKeeps kind? cb)
  | .startTimeBased _ _ | .startDistanceBased _ _ => inferInstanceAs (Decidable (_ → _))
  | .switchToTimeBased _ _ _ => inferInstanceAs (Decidable (_ ∨ _))
  | .stopDistanceBased _ _ | .saveDistanceBased _ _ _ => inferInstanceAs (Decidable (_ = _))
  | .removeDistanceBased _ _ => inferInstanceAs (Decidable (_ ∧ _))
  | .none | .ignore | .update _ _ _ | .stop _ _ | .restartDistanceBased _ _ _ =>
    inferInstanceAs (Decidable True)

instance {s : TrackingAdapter} : ∀ cb, Decidable (s.RefusedKeeps cb)
  | .startTimeBased _ _ | .startDistanceBased _ _ | .stop _ _ | .removeDistanceBased _ _ =>
    inferInstanceAs (Decidable (_ → _))
  | .update _ _ _ => inferInstanceAs (Decidable (_ = _))
  | .switchToTimeBased _ _ _ => inferInstanceAs (Decidable (_ ∨ _))
  | .none | .ignore | .stopDistanceBased _ _ | .restartDistanceBased _ _ _
  | .saveDistanceBased _ _ _ => inferInstanceAs (Decidable True)

instance {s : TrackingAdapter} {call : EngineCall} {err : LocationError} :
    Decidable (s.AnswerKeeps call err) :=
  inferInstanceAs (Decidable (if err = .SUCCESS then _ else _ ∧ _))

instance {s : TrackingAdapter} : ∀ m, Decidable (s.MsgKeeps m)
  | .start _ _ | .update _ _ => inferInstanceAs (Decidable (_ → _))
  | .removeClient _ => inferInstanceAs (Decidable (∀ _ ∈ _, _))
  | .answer call err => inferInstanceAs (Decidable (s.AnswerKeeps call err))
  | .addClient _ _ | .stop _ | .handleEngineUpEvent => inferInstanceAs (Decidable True)

instance : ∀ (s : TrackingAdapter) e, Decidable (s.Keeps e)
  | s, .process => inferInstanceAs (Decidable (∀ m ∈ s.queue.head?, MsgKeeps _ m))
  | _, .setEngineCapabilities _ => inferInstanceAs (Decidable (_ → _))
  | _, .addClientCommand _ _ | _, .removeClientCommand _ | _, .startTrackingCommand _ _
  | _, .updateTrackingOptionsCommand _ _ _ | _, .stopTrackingCommand _ _ | _, .handleEngineUpEvent
  | _, .generateSessionId | _, .answer _ _ => inferInstanceAs (Decidable True)

end

/-- Options that ask for a fix every ten metres. -/
def everyTenMetres : TrackingOptions := { everySecond with minDistance := 10 }

def firstUpdate : TrackingCommand := ⟨1, .update, 1, 2⟩

/-- A session is started as a time based one, and goes on as a distance based one. -/
theorem lifecycle_switched : ∃ s,
    system.Run Keeps [.addClientCommand 1 true, .process, .setEngineCapabilities true,
      .handleEngineUpEvent, .process, .startTrackingCommand 1 everySecond, .process,
      .answer ⟨0, some firstStart, .startTimeBasedTracking everySecond, .startTimeBased 1 2⟩ .SUCCESS,
      .process, .updateTrackingOptionsCommand 1 2 everyTenMetres, .process,
      .answer ⟨2, some firstUpdate, .startDistanceBasedTracking 2 everyTenMetres, .ignore⟩ .SUCCESS,
      .answer ⟨1, some firstUpdate, .stopFix, .stop 1 2⟩ .SUCCESS, .process, .process] s ∧
      s.Quiet ∧ s.Consistent ∧ s.live = [⟨1, 2⟩] ∧
      (s.mDistanceBasedTrackingSessions.find ⟨1, 2⟩).isSome = true := by
  have hrun : system.Run Keeps [.addClientCommand 1 true, .process, .setEngineCapabilities true,
      .handleEngineUpEvent, .process, .startTrackingCommand 1 everySecond, .process,
      .answer ⟨0, some firstStart, .startTimeBasedTracking everySecond, .startTimeBased 1 2⟩ .SUCCESS,
      .process, .updateTrackingOptionsCommand 1 2 everyTenMetres, .process,
      .answer ⟨2, some firstUpdate, .startDistanceBasedTracking 2 everyTenMetres, .ignore⟩ .SUCCESS,
      .answer ⟨1, some firstUpdate, .stopFix, .stop 1 2⟩ .SUCCESS, .process, .process] _ :=
    System.run_guarded rfl
  exact ⟨_, hrun, ⟨rfl, rfl⟩, tracking_lifecycle hrun ⟨rfl, rfl⟩, rfl, rfl⟩

/-- A client is removed while it has a time based session: the engine is stopped, and the session is
still saved. -/
theorem session_left_behind : ∃ s,
    system.Run System.Free [.addClientCommand 1 true, .process,
      .startTrackingCommand 1 everySecond, .process,
      .answer ⟨0, some firstStart, .startTimeBasedTracking everySecond, .startTimeBased 1 2⟩ .SUCCESS,
      .process, .removeClientCommand 1, .process, .answer ⟨1, none, .stopFix, .stop 1 2⟩ .SUCCESS,
      .process] s ∧
      s.Quiet ∧ s.lastAccepted = some false ∧ ¬ s.Consistent := by
  refine ⟨_, System.run_foldlM rfl, ⟨rfl, rfl⟩, rfl, fun h => ?_⟩
  exact List.not_mem_nil ((h.saved ⟨1, 2⟩).mp (.inl rfl))

end TrackingAdapter

end GpsHal
