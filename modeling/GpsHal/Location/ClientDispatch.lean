import GpsHal.Location.ClientSessions
import Mathlib.Data.List.Perm.Basic

/-!
# `LocationAPIClientBase` : answers to requests about sessions

All requests about sessions wait in one queue.  The answer to a call carries the session of the
call, and takes the request at the front if the dictionary has the session.  So it reaches the
request that was made for the call only if that request is at the front.

## Main definitions

* `LocationAPIClientBase.dispatchSystem` : the operations on sessions, and `LocationAPI`, which
  answers the calls it was given in any order.
* `LocationAPIClientBase.Dispatched` : every answer has run the callback of its request.

## Main results

* `LocationAPIClientBase.dispatch_iff` : the answers are dispatched right throughout a run exactly
  if each of them comes when its request is at the front and its session in the dictionary.
-/

namespace GpsHal

/-- The operations on sessions, and the answer to a call. -/
inductive SessionEvent where
  | locAPIStartSession (id sessionMode : BitVec 32) (options : TrackingOptions)
      (session : BitVec 32)
  | locAPIStopSession (id : BitVec 32)
  | locAPIUpdateSessionOptions (id sessionMode : BitVec 32) (options : TrackingOptions)
      (session : BitVec 32)
  | locAPIGetBatchedLocations (id : BitVec 32) (count : ℕ)
  | answer (call : IssuedCall) (error : LocationError)

namespace LocationAPIClientBase

/-- The answer to a call, which is given once. -/
def answer (s : LocationAPIClientBase) (call : IssuedCall) (error : LocationError) :
    LocationAPIClientBase :=
  let t := s.onResponseCb error call.session
  { t with
    outstanding := s.outstanding.erase call
    answered := s.answered ++ (call.request.map fun request => (request, error)).toList }

def dispatchStep (s : LocationAPIClientBase) : SessionEvent → Option LocationAPIClientBase
  | .locAPIStartSession id sessionMode options session =>
    some (s.locAPIStartSession id sessionMode options session).2
  | .locAPIStopSession id => some (s.locAPIStopSession id).2
  | .locAPIUpdateSessionOptions id sessionMode options session =>
    some (s.locAPIUpdateSessionOptions id sessionMode options session).2
  | .locAPIGetBatchedLocations id count => some (s.locAPIGetBatchedLocations id count).2
  | .answer call error => if call ∈ s.outstanding then some (s.answer call error) else none

/-- The client and `LocationAPI`, whose object may be missing. -/
def dispatchSystem (created : Bool) : System LocationAPIClientBase SessionEvent :=
  System.ofPartial (initial.locAPISetCallbacks created) dispatchStep

/-- The queue that the requests about sessions share. -/
def sessionQueue (s : LocationAPIClientBase) : List ClientRequest :=
  (s.mRequestQueues .SESSION).mQueue

/-- The requests of some calls. -/
def requestsOf (calls : List IssuedCall) : List ClientRequest := calls.filterMap (·.request)

/-- Each answer has run the callback of the request that was made for its call, with its error;
each request has been called back or is in the queue, and the queue holds the requests whose calls
have no answer. -/
structure Dispatched (s : LocationAPIClientBase) : Prop where
  callbacks_eq : s.callbacks = s.answered
  accepted_perm : s.accepted.Perm (s.callbacks.map Prod.fst ++ s.sessionQueue)
  queue_perm : s.sessionQueue.Perm (requestsOf s.outstanding)

/-- Once all calls are answered, the queue is empty and each request has had its callback. -/
theorem Dispatched.settled {s : LocationAPIClientBase} (h : s.Dispatched)
    (hout : s.outstanding = []) :
    s.sessionQueue = [] ∧ s.accepted.Perm (s.callbacks.map Prod.fst) := by
  have hq : s.sessionQueue = [] := by
    have hp := h.queue_perm
    rw [hout] at hp
    exact List.perm_nil.1 hp
  refine ⟨hq, ?_⟩
  have hp := h.accepted_perm
  rwa [hq, List.append_nil] at hp

/-! ### Operations -/

/-- `t` has the requests of `s`, and calls that have been given to `LocationAPI`. -/
structure Issued (s t : LocationAPIClientBase) (calls : List IssuedCall) : Prop where
  accepted_eq : t.accepted = s.accepted
  queues_eq : ∀ k, (t.mRequestQueues k).mQueue = (s.mRequestQueues k).mQueue
  callbacks_eq : t.callbacks = s.callbacks
  outstanding_eq : t.outstanding = s.outstanding ++ calls
  answered_eq : t.answered = s.answered

/-- `t` has one more request than `s`, and calls that have been given to `LocationAPI`. -/
structure Requested (s t : LocationAPIClientBase) (request : ClientRequest)
    (calls : List IssuedCall) : Prop where
  number_eq : request.number = s.accepted.length
  accepted_eq : t.accepted = s.accepted ++ [request]
  session_eq : t.sessionQueue = s.sessionQueue ++ [request]
  queues_eq : ∀ k, k ≠ .SESSION → (t.mRequestQueues k).mQueue = (s.mRequestQueues k).mQueue
  callbacks_eq : t.callbacks = s.callbacks
  outstanding_eq : t.outstanding = s.outstanding ++ calls
  answered_eq : t.answered = s.answered

variable {s t : LocationAPIClientBase}

theorem Issued.refl (s : LocationAPIClientBase) : Issued s s [] :=
  ⟨rfl, fun _ => rfl, rfl, (List.append_nil _).symm, rfl⟩

/-- The calls of `issueStart`. -/
def startCalls (call : SessionCall) (session : BitVec 32) (request : Option ClientRequest) :
    List IssuedCall :=
  if session ≠ 0 then [⟨call, session, request⟩] else []

theorem issueStart_eq (call : SessionCall) (session : BitVec 32) (request : Option ClientRequest) :
    s.issueStart call session request =
      { s with outstanding := s.outstanding ++ startCalls call session request } := by
  unfold issueStart startCalls
  split
  · rfl
  · simp

theorem requestsOf_startCalls (call : SessionCall) (session : BitVec 32)
    (request : ClientRequest) :
    requestsOf (startCalls call session (some request)) = [request] ↔ session ≠ 0 := by
  unfold startCalls
  split
  · rename_i h
    exact ⟨fun _ => h, fun _ => rfl⟩
  · rename_i h
    exact ⟨fun hnil => (List.cons_ne_nil _ _ hnil.symm).elim, fun hne => absurd hne h⟩

theorem issued_issueStart (call : SessionCall) (session : BitVec 32)
    (request : Option ClientRequest) :
    Issued s (s.issueStart call session request) (startCalls call session request) := by
  rw [issueStart_eq]
  exact ⟨rfl, fun _ => rfl, rfl, rfl, rfl⟩

namespace Issued

variable {calls : List IssuedCall}

/-- The session of the queue may change. -/
theorem setSession (h : Issued s t calls) (session : BitVec 32) :
    Issued s (t.setQueue .SESSION { t.mRequestQueues .SESSION with mSession := session }) calls := by
  refine ⟨h.accepted_eq, fun k => ?_, h.callbacks_eq, h.outstanding_eq, h.answered_eq⟩
  rw [← h.queues_eq k]
  by_cases hk : k = .SESSION
  · subst hk
    simp [setQueue]
  · simp [setQueue, hk]

theorem pushRequest (h : Issued s t calls) (kind : ClientRequestKind) :
    Requested s (t.pushRequest .SESSION kind) (s.newRequest kind) calls := by
  have hnew : t.newRequest kind = s.newRequest kind := by
    rw [newRequest, newRequest, h.accepted_eq]
  refine ⟨rfl, ?_, ?_, fun k hk => ?_, h.callbacks_eq, h.outstanding_eq, h.answered_eq⟩
  · show t.accepted ++ [t.newRequest kind] = _
    rw [h.accepted_eq, hnew]
  · rw [sessionQueue, sessionQueue, ← h.queues_eq, ← hnew]
    simp [LocationAPIClientBase.pushRequest, setQueue]
  · rw [← h.queues_eq k]
    simp [LocationAPIClientBase.pushRequest, setQueue, hk]

end Issued

theorem requested_pushRequest (kind : ClientRequestKind) :
    Requested s (s.pushRequest .SESSION kind) (s.newRequest kind) [] :=
  (Issued.refl s).pushRequest kind

namespace Requested

variable {request : ClientRequest} {calls : List IssuedCall}

theorem issue (h : Requested s t request calls) (call : SessionCall) (session : BitVec 32)
    (r : Option ClientRequest) :
    Requested s (t.issue call session r) request (calls ++ [⟨call, session, r⟩]) := by
  refine ⟨h.number_eq, h.accepted_eq, h.session_eq, h.queues_eq, h.callbacks_eq, ?_, h.answered_eq⟩
  show t.outstanding ++ [_] = _
  rw [h.outstanding_eq, List.append_assoc]

theorem issueStart (h : Requested s t request calls) (call : SessionCall) (session : BitVec 32)
    (r : Option ClientRequest) :
    Requested s (t.issueStart call session r) request (calls ++ startCalls call session r) := by
  rw [issueStart_eq]
  refine ⟨h.number_eq, h.accepted_eq, h.session_eq, h.queues_eq, h.callbacks_eq, ?_, h.answered_eq⟩
  show t.outstanding ++ _ = _
  rw [h.outstanding_eq, List.append_assoc]

/-- The session of the queue may change. -/
theorem setSession (h : Requested s t request calls) (session : BitVec 32) :
    Requested s (t.setQueue .SESSION { t.mRequestQueues .SESSION with mSession := session })
      request calls := by
  refine ⟨h.number_eq, h.accepted_eq, ?_, fun k hk => ?_, h.callbacks_eq, h.outstanding_eq,
    h.answered_eq⟩
  · rw [← h.session_eq]
    simp [sessionQueue, setQueue]
  · rw [← h.queues_eq k hk]
    simp [setQueue, hk]

theorem setSessionBiDict (h : Requested s t request calls) (d : BiDict SessionEntity) :
    Requested s (t.setSessionBiDict d) request calls :=
  ⟨h.number_eq, h.accepted_eq, h.session_eq, h.queues_eq, h.callbacks_eq, h.outstanding_eq,
    h.answered_eq⟩

theorem replaceEntity (h : Requested s t request calls) (id : BitVec 32) (entity : SessionEntity) :
    Requested s (t.replaceEntity id entity) request calls :=
  h.setSessionBiDict _

end Requested

variable {id : BitVec 32}

/-- An operation makes one request with one call for it, or nothing at all. -/
def Plain (s t : LocationAPIClientBase) : Prop :=
  Issued s t [] ∨ ∃ request calls, Requested s t request calls ∧ requestsOf calls = [request]

theorem plain_stopSession : Plain s (s.locAPIStopSession id).2 := by
  unfold locAPIStopSession
  split
  · split
    · rename_i h
      rw [getEntity_of_hasId h]
      dsimp only
      split
      · exact .inr ⟨_, _, (requested_pushRequest .StopTrackingRequest).issue _ _ _, rfl⟩
      · exact .inr ⟨_, _, (requested_pushRequest .StopBatchingRequest).issue _ _ _, rfl⟩
    · exact .inl (.refl s)
  · exact .inl (.refl s)

theorem plain_getBatchedLocations (count : ℕ) :
    Plain s (s.locAPIGetBatchedLocations id count).2 := by
  unfold locAPIGetBatchedLocations
  split
  · split
    · rename_i h
      rw [getEntity_of_hasId h]
      dsimp only
      split
      · exact .inr ⟨_, _, (requested_pushRequest .GetBatchedLocationsRequest).issue _ _ _, rfl⟩
      · exact .inl (.refl s)
    · exact .inl (.refl s)
  · exact .inl (.refl s)

/-- Starting a session makes a request, with a call for it unless the session is rejected. -/
theorem requested_startSession (sessionMode : BitVec 32) (options : TrackingOptions)
    (session : BitVec 32) (hapi : s.mLocationAPI = true)
    (h : s.mSessionBiDict.hasId id = false) :
    ∃ request calls,
      Requested s (s.locAPIStartSession id sessionMode options session).2 request calls ∧
        (requestsOf calls = [request] ↔ session ≠ 0) := by
  unfold locAPIStartSession
  rw [if_pos hapi, if_neg (by rw [h]; exact Bool.false_ne_true)]
  split
  · exact ⟨_, _, ((issued_issueStart _ _ _).pushRequest .StartTrackingRequest).setSessionBiDict _,
      requestsOf_startCalls _ _ _⟩
  · exact ⟨_, _, (((issued_issueStart _ _ _).setSession _).pushRequest
      .StartBatchingRequest).setSessionBiDict _, requestsOf_startCalls _ _ _⟩

/-- Updating a session makes a request, with a call for it unless a session is started and
rejected. -/
theorem requested_updateSession (sessionMode : BitVec 32) (options : TrackingOptions)
    (session : BitVec 32) (hapi : s.mLocationAPI = true)
    (h : s.mSessionBiDict.hasId id = true) :
    ∃ request calls,
      Requested s (s.locAPIUpdateSessionOptions id sessionMode options session).2 request calls ∧
        (requestsOf calls = [request] ↔
          (switches (s.mSessionBiDict.getExtById id).1 sessionMode = true → session ≠ 0)) := by
  unfold locAPIUpdateSessionOptions
  rw [if_pos hapi, if_pos h, getEntity_of_hasId h]
  dsimp only
  have hstart : ∀ (call call' : SessionCall) (session' : BitVec 32) (request : ClientRequest),
      requestsOf ([] ++ [⟨call', session', none⟩] ++ startCalls call session (some request)) =
        [request] ↔ session ≠ 0 := fun call call' session' request =>
    requestsOf_startCalls call session request
  by_cases hm : sessionMode = SESSION_MODE_ON_FIX <;>
    by_cases he : (s.mSessionBiDict.getExtById id).1.sessionMode = SESSION_MODE_ON_FIX <;>
    simp only [hm, he, if_true, if_false, switches, decide_true, decide_false, bne_self_eq_false,
      Bool.false_eq_true, false_implies, iff_true, Bool.true_bne, Bool.not_false, Bool.false_bne,
      true_implies]
  · exact ⟨_, _, ((requested_pushRequest .UpdateTrackingOptionsRequest).issue _ _ _).replaceEntity
      _ _, rfl⟩
  · exact ⟨_, _, ((((requested_pushRequest .UpdateTrackingOptionsRequest).issue _ _ _).setSession
      _).issueStart _ _ _).replaceEntity _ _, hstart _ _ _ _⟩
  · exact ⟨_, _, ((((requested_pushRequest .UpdateBatchingOptionsRequest).issue _ _ _).issueStart
      _ _ _).setSession _).replaceEntity _ _, hstart _ _ _ _⟩
  · exact ⟨_, _, ((requested_pushRequest .UpdateBatchingOptionsRequest).issue _ _ _).replaceEntity
      _ _, rfl⟩

/-! ### Answers -/

/-- No other request than those about sessions waits for an answer. -/
def Idle (s : LocationAPIClientBase) : Prop :=
  ∀ t, t ≠ .SESSION → (s.mRequestQueues t).mQueue = []

theorem popQueue_eq {k : RequestType} (h : (s.mRequestQueues k).mQueue = []) :
    s.popQueue k = (none, s) := by
  have hq : (s.mRequestQueues k).pop = (none, s.mRequestQueues k) := by
    cases hk : s.mRequestQueues k with
    | mk mSession mSessionArrayPtr mQueue =>
      rw [hk] at h
      obtain rfl : mQueue = [] := h
      rfl
  simp only [popQueue, hq, setQueue, Function.update_eq_self]

theorem getRequestOfQueue_eq (h : s.Idle) (session : BitVec 32) :
    s.getRequestOfQueue session = (none, s) := by
  unfold getRequestOfQueue
  split
  · exact popQueue_eq (h _ (by decide))
  · split
    · exact popQueue_eq (h _ (by decide))
    · rfl

/-- An answer whose session is not in the dictionary has no effect. -/
theorem onResponseCb_unknown (h : s.Idle) (error : LocationError) {session : BitVec 32}
    (hs : s.mSessionBiDict.hasSession session = false) : s.onResponseCb error session = s := by
  unfold onResponseCb getRequestBySession
  rw [getRequestOfQueue_eq h]
  simp [hs]

/-- An answer finds no request if none waits. -/
theorem onResponseCb_nil (h : s.Idle) (error : LocationError) (session : BitVec 32)
    (hq : s.sessionQueue = []) : s.onResponseCb error session = s := by
  unfold onResponseCb getRequestBySession
  rw [getRequestOfQueue_eq h]
  dsimp only
  by_cases hs : s.mSessionBiDict.hasSession session = true
  · rw [if_pos hs, popQueue_eq hq]
  · rw [if_neg hs]

/-- An answer whose session is in the dictionary runs the callback of the request at the front. -/
structure CalledBack (s t : LocationAPIClientBase) (request : ClientRequest)
    (error : LocationError) : Prop where
  accepted_eq : t.accepted = s.accepted
  session_eq : t.sessionQueue = s.sessionQueue.tail
  queues_eq : ∀ k, k ≠ .SESSION → (t.mRequestQueues k).mQueue = (s.mRequestQueues k).mQueue
  callbacks_eq : t.callbacks = s.callbacks ++ [(request, error)]

theorem onResponseCb_front (h : s.Idle) (error : LocationError) {session : BitVec 32}
    (hs : s.mSessionBiDict.hasSession session = true) {request : ClientRequest}
    {rest : List ClientRequest} (hq : s.sessionQueue = request :: rest) :
    CalledBack s (s.onResponseCb error session) request error := by
  have hpop : s.getRequestBySession session =
      (some request, s.setQueue .SESSION (s.mRequestQueues .SESSION).pop.2) := by
    unfold getRequestBySession
    rw [getRequestOfQueue_eq h]
    dsimp only
    rw [if_pos hs, popQueue, RequestQueue.fst_pop,
      show (s.mRequestQueues .SESSION).mQueue = request :: rest from hq]
    rfl
  have hbase : CalledBack s ((s.setQueue .SESSION (s.mRequestQueues .SESSION).pop.2).callback
      request error) request error := by
    refine ⟨rfl, ?_, fun k hk => ?_, rfl⟩
    · simp [sessionQueue, callback, setQueue]
    · simp [callback, setQueue, hk]
  unfold onResponseCb
  rw [hpop]
  dsimp only
  rcases onResponse_cases (s := s.setQueue .SESSION (s.mRequestQueues .SESSION).pop.2) request
    error session with heq | heq
  · rw [heq]
    exact hbase
  · rw [heq]
    unfold removeSession
    split
    · exact ⟨hbase.accepted_eq, hbase.session_eq, hbase.queues_eq, hbase.callbacks_eq⟩
    · exact hbase

/-- The answer belongs to the request at the front and its session is in the dictionary; or there is
no request for the call, and the answer does not reach the queue. -/
def AtFront (s : LocationAPIClientBase) (call : IssuedCall) : Prop :=
  match call.request with
  | some request =>
    s.mSessionBiDict.hasSession call.session = true ∧ s.sessionQueue.head? = some request
  | none => s.mSessionBiDict.hasSession call.session = false ∨ s.sessionQueue = []

/-- A session that is started is not rejected, and an answer comes when its request is at the
front. -/
def Matched (s : LocationAPIClientBase) : SessionEvent → Prop
  | .locAPIStartSession id _ _ session =>
    s.mLocationAPI = true → s.mSessionBiDict.hasId id = false → session ≠ 0
  | .locAPIUpdateSessionOptions id sessionMode _ session =>
    s.mLocationAPI = true → s.mSessionBiDict.hasId id = true →
      switches (s.mSessionBiDict.getExtById id).1 sessionMode = true → session ≠ 0
  | .answer call _ => s.AtFront call
  | _ => True

/-- The answers are dispatched right and the other queues are empty. -/
structure Settled (s : LocationAPIClientBase) : Prop extends Dispatched s where
  idle : s.Idle

/-! ### Steps -/

theorem Settled.of_issued (hs : s.Settled) (h : Issued s t []) : t.Settled := by
  have hq : t.sessionQueue = s.sessionQueue := h.queues_eq .SESSION
  refine ⟨⟨?_, ?_, ?_⟩, fun k hk => (h.queues_eq k).trans (hs.idle k hk)⟩
  · rw [h.callbacks_eq, h.answered_eq, hs.callbacks_eq]
  · rw [h.accepted_eq, h.callbacks_eq, hq]
    exact hs.accepted_perm
  · rw [hq, h.outstanding_eq, List.append_nil]
    exact hs.queue_perm

variable {request : ClientRequest} {calls : List IssuedCall}

theorem Settled.of_requested (hs : s.Settled) (h : Requested s t request calls)
    (hc : requestsOf calls = [request]) : t.Settled := by
  refine ⟨⟨?_, ?_, ?_⟩, fun k hk => (h.queues_eq k hk).trans (hs.idle k hk)⟩
  · rw [h.callbacks_eq, h.answered_eq, hs.callbacks_eq]
  · rw [h.accepted_eq, h.callbacks_eq, h.session_eq, ← List.append_assoc]
    exact hs.accepted_perm.append_right _
  · rw [h.session_eq, h.outstanding_eq, requestsOf, List.filterMap_append]
    exact hs.queue_perm.append (.of_eq hc.symm)

theorem Settled.of_plain (hs : s.Settled) (h : Plain s t) : t.Settled := by
  rcases h with h | ⟨request, calls, h, hc⟩
  · exact hs.of_issued h
  · exact hs.of_requested h hc

/-- A call without a request is given, and a request without a call made: the queue does not hold
the requests of the calls any more. -/
theorem requestsOf_of_dispatched (hs : s.Dispatched) (h : Requested s t request calls)
    (ht : t.Dispatched) : requestsOf calls = [request] := by
  have hp := ht.queue_perm
  rw [h.session_eq, h.outstanding_eq, requestsOf, List.filterMap_append] at hp
  have hp' : (requestsOf s.outstanding ++ [request]).Perm
      (requestsOf s.outstanding ++ requestsOf calls) := (hs.queue_perm.append_right _).symm.trans hp
  exact (List.singleton_perm.1 ((List.perm_append_left_iff _).1 hp')).symm

theorem startSession_dispatch (hs : s.Settled) (id sessionMode : BitVec 32)
    (options : TrackingOptions) (session : BitVec 32) :
    (Matched s (.locAPIStartSession id sessionMode options session) →
        (s.locAPIStartSession id sessionMode options session).2.Settled) ∧
      ((s.locAPIStartSession id sessionMode options session).2.Dispatched →
        Matched s (.locAPIStartSession id sessionMode options session)) := by
  by_cases hok : s.mLocationAPI = true ∧ s.mSessionBiDict.hasId id = false
  · obtain ⟨hapi, hid⟩ := hok
    obtain ⟨request, calls, hr, hc⟩ :=
      requested_startSession sessionMode options session hapi hid
    exact ⟨fun h => hs.of_requested hr (hc.2 (h hapi hid)),
      fun h _ _ => hc.1 (requestsOf_of_dispatched hs.toDispatched hr h)⟩
  · rw [startSession_refused sessionMode options session hok]
    exact ⟨fun _ => hs, fun _ hapi hid => absurd ⟨hapi, hid⟩ hok⟩

theorem updateSession_dispatch (hs : s.Settled) (id sessionMode : BitVec 32)
    (options : TrackingOptions) (session : BitVec 32) :
    (Matched s (.locAPIUpdateSessionOptions id sessionMode options session) →
        (s.locAPIUpdateSessionOptions id sessionMode options session).2.Settled) ∧
      ((s.locAPIUpdateSessionOptions id sessionMode options session).2.Dispatched →
        Matched s (.locAPIUpdateSessionOptions id sessionMode options session)) := by
  by_cases hok : s.mLocationAPI = true ∧ s.mSessionBiDict.hasId id = true
  · obtain ⟨hapi, hid⟩ := hok
    obtain ⟨request, calls, hr, hc⟩ :=
      requested_updateSession sessionMode options session hapi hid
    exact ⟨fun h => hs.of_requested hr (hc.2 (h hapi hid)),
      fun h _ _ => hc.1 (requestsOf_of_dispatched hs.toDispatched hr h)⟩
  · rw [updateSession_refused sessionMode options session hok]
    exact ⟨fun _ => hs, fun _ hapi hid => absurd ⟨hapi, hid⟩ hok⟩

/-- The requests of the calls that are left. -/
theorem requestsOf_erase {call : IssuedCall} {calls : List IssuedCall} (h : call ∈ calls) :
    (requestsOf calls).Perm (call.request.toList ++ requestsOf (calls.erase call)) := by
  have hp := (List.perm_cons_erase h).filterMap (·.request)
  refine hp.trans ?_
  rw [List.filterMap_cons]
  cases call.request <;> exact .refl _

theorem settled_answer (hs : s.Settled) {call : IssuedCall} (hcall : call ∈ s.outstanding)
    (error : LocationError) (h : s.AtFront call) : (s.answer call error).Settled := by
  have hperm := hs.queue_perm.trans (requestsOf_erase hcall)
  unfold AtFront at h
  cases hr : call.request with
  | none =>
    rw [hr] at h hperm
    have hsame : s.onResponseCb error call.session = s := by
      rcases h with h | h
      · exact onResponseCb_unknown hs.idle error h
      · exact onResponseCb_nil hs.idle error _ h
    unfold answer
    rw [hsame, hr]
    exact ⟨⟨hs.callbacks_eq.trans (List.append_nil _).symm, hs.accepted_perm, hperm⟩, hs.idle⟩
  | some request =>
    rw [hr] at h hperm
    obtain ⟨rest, hq⟩ := List.head?_eq_some_iff.1 h.2
    have hc := onResponseCb_front hs.idle error h.1 hq
    have haccepted := hs.accepted_perm
    rw [hq] at hperm haccepted
    refine ⟨⟨?_, ?_, ?_⟩, fun k hk => (hc.queues_eq k hk).trans (hs.idle k hk)⟩
    · show (s.onResponseCb error call.session).callbacks = s.answered ++ _
      rw [hc.callbacks_eq, hs.callbacks_eq, hr]
      rfl
    · show (s.onResponseCb error call.session).accepted.Perm
        ((s.onResponseCb error call.session).callbacks.map Prod.fst ++
          (s.onResponseCb error call.session).sessionQueue)
      rw [hc.accepted_eq, hc.callbacks_eq, hc.session_eq, hq, List.map_append, List.append_assoc]
      exact haccepted
    · show (s.onResponseCb error call.session).sessionQueue.Perm _
      rw [hc.session_eq, hq]
      exact hperm.cons_inv

/-- An answer that does not find its request at the front runs a wrong callback or none. -/
theorem atFront_of_answer (hs : s.Settled) {call : IssuedCall} (error : LocationError)
    (h : (s.answer call error).Dispatched) : s.AtFront call := by
  have heq : (s.onResponseCb error call.session).callbacks =
      s.callbacks ++ (call.request.map fun request => (request, error)).toList := by
    rw [hs.callbacks_eq]
    exact h.callbacks_eq
  unfold AtFront
  cases hq : s.sessionQueue with
  | nil =>
    rw [onResponseCb_nil hs.idle error _ hq] at heq
    cases hr : call.request with
    | none => exact .inr rfl
    | some request => simp [hr] at heq
  | cons front rest =>
    cases hd : s.mSessionBiDict.hasSession call.session with
    | false =>
      rw [onResponseCb_unknown hs.idle error hd] at heq
      cases hr : call.request with
      | none => exact .inl rfl
      | some request => simp [hr] at heq
    | true =>
      rw [(onResponseCb_front hs.idle error hd hq).callbacks_eq] at heq
      cases hr : call.request with
      | none => simp [hr] at heq
      | some request =>
        obtain rfl : front = request := by simpa [hr] using heq
        exact ⟨rfl, rfl⟩

/-! ### Runs -/

theorem settled_initial (created : Bool) : (initial.locAPISetCallbacks created).Settled :=
  ⟨⟨rfl, .refl _, .refl _⟩, fun _ _ => rfl⟩

theorem settled_step (hs : s.Settled) {e : SessionEvent} (he : Matched s e)
    (h : s.dispatchStep e = some t) : t.Settled := by
  cases e with
  | locAPIStartSession id sessionMode options session =>
    obtain rfl := Option.some.inj h
    exact (startSession_dispatch hs id sessionMode options session).1 he
  | locAPIStopSession id =>
    obtain rfl := Option.some.inj h
    exact hs.of_plain plain_stopSession
  | locAPIUpdateSessionOptions id sessionMode options session =>
    obtain rfl := Option.some.inj h
    exact (updateSession_dispatch hs id sessionMode options session).1 he
  | locAPIGetBatchedLocations id count =>
    obtain rfl := Option.some.inj h
    exact hs.of_plain (plain_getBatchedLocations count)
  | answer call error =>
    simp only [dispatchStep] at h
    split at h
    · rename_i hcall
      obtain rfl := Option.some.inj h
      exact settled_answer hs hcall error he
    · cases h

theorem matched_of_dispatched (hs : s.Settled) {e : SessionEvent}
    (h : s.dispatchStep e = some t) (ht : t.Dispatched) : Matched s e := by
  cases e with
  | locAPIStartSession id sessionMode options session =>
    obtain rfl := Option.some.inj h
    exact (startSession_dispatch hs id sessionMode options session).2 ht
  | locAPIStopSession id => trivial
  | locAPIUpdateSessionOptions id sessionMode options session =>
    obtain rfl := Option.some.inj h
    exact (updateSession_dispatch hs id sessionMode options session).2 ht
  | locAPIGetBatchedLocations id count => trivial
  | answer call error =>
    simp only [dispatchStep] at h
    split at h
    · obtain rfl := Option.some.inj h
      exact atFront_of_answer hs error ht
    · cases h

/-- Every answer is dispatched right, in every state of a run, exactly if no session that is
started is rejected and each answer finds its request at the front and its session in the
dictionary. -/
theorem dispatch_iff (created : Bool) (es : List SessionEvent) (s : LocationAPIClientBase) :
    (dispatchSystem created).Always Dispatched es s ↔ (dispatchSystem created).Run Matched es s :=
  System.always_iff_run (J := Settled) (settled_initial created) (fun _ => Settled.toDispatched)
    (fun _ _ _ hs he hst => settled_step hs he (System.ofPartial_step.1 hst))
    fun _ _ _ hs he hst ht => he (matched_of_dispatched hs (System.ofPartial_step.1 hst) ht)

/-- A tracking session and a batching session are started; the answer about batching comes first. -/
def batchingFirst : List SessionEvent :=
  let tracking : ClientRequest := ⟨.StartTrackingRequest, 0⟩
  let batching : ClientRequest := ⟨.StartBatchingRequest, 1⟩
  [.locAPIStartSession 1 SESSION_MODE_ON_FIX .zero 5,
    .locAPIStartSession 2 SESSION_MODE_ON_FULL .zero 6,
    .answer ⟨.startBatching (batchOptions SESSION_MODE_ON_FULL .zero), 6, batching⟩
      .GENERAL_FAILURE,
    .answer ⟨.startTracking .zero, 5, tracking⟩ .SUCCESS]

/-- The request to start tracking is told that it has failed, and the one to start batching that it
has succeeded. -/
theorem batching_first_misdispatched :
    ∃ s, (dispatchSystem true).Run System.Free batchingFirst s ∧ s.outstanding = [] ∧
      s.callbacks = [(⟨.StartTrackingRequest, 0⟩, .GENERAL_FAILURE),
        (⟨.StartBatchingRequest, 1⟩, .SUCCESS)] ∧
      s.answered = [(⟨.StartBatchingRequest, 1⟩, .GENERAL_FAILURE),
        (⟨.StartTrackingRequest, 0⟩, .SUCCESS)] ∧
      ¬ s.Dispatched := by
  refine ⟨_, System.run_foldlM rfl, rfl, rfl, rfl, fun h => ?_⟩
  exact absurd h.callbacks_eq (by decide)

end LocationAPIClientBase

end GpsHal
