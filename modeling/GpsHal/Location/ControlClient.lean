import GpsHal.Gnss.Config
import GpsHal.Location.RequestQueue
import GpsHal.Transition.Basic
import Mathlib.Data.List.Perm.Basic

/-!
# `LocationAPIControlClient` : requests of the control API and their answers

The control client hands each request on to `LocationControlAPI` and keeps an object for it in one
of four queues.  Most requests are answered with a session id.  Those that read or write the
configuration get an array of ids, and are answered by a *collective response* with one error for
each id.  The client looks for the queue whose array has the address that the response carries.

## Main results

* `LocationAPIControlClient.noCollectiveCb_of_run` : no queue ever learns the address of an array,
  so no collective callback runs, whatever is requested and answered.
* `LocationAPIControlClient.delivered_iff` : every collective response has been delivered, and the
  queues hold the calls that are not yet answered, exactly as long as there is no such response.
-/

namespace GpsHal

inductive CtrlRequestType where
  | DELETEAIDINGDATA | CONTROL | CONFIG_UPDATE | CONFIG_GET
  deriving DecidableEq, Repr

/-- The objects in the queues.  Those for calls about the configuration carry the number of the
call, which is not in the code; it tells the calls of one kind apart. -/
inductive CtrlRequest where
  | GnssDeleteAidingDataRequest
  | EnableRequest
  | DisableRequest
  | GnssUpdateConfigRequest (call : ℕ)
  | GnssGetConfigRequest (call : ℕ)
  deriving DecidableEq, Repr

/-- The callbacks of the client, with the number of the call that they are for. -/
inductive CtrlCallback where
  | onGnssDeleteAidingDataCb (error : LocationError)
  | onEnableCb (error : LocationError)
  | onDisableCb (error : LocationError)
  | onGnssUpdateConfigCb (call : ℕ) (errors : List LocationError) (ids : List (BitVec 32))
  | onGnssGetConfigCb (call : ℕ) (errors : List LocationError) (ids : List (BitVec 32))
  deriving DecidableEq, Repr

namespace CtrlCallback

def isCollective : CtrlCallback → Bool
  | onGnssUpdateConfigCb .. | onGnssGetConfigCb .. => true
  | _ => false

end CtrlCallback

namespace CtrlRequest

def onResponse (error : LocationError) : CtrlRequest → Option CtrlCallback
  | GnssDeleteAidingDataRequest => some (.onGnssDeleteAidingDataCb error)
  | EnableRequest => some (.onEnableCb error)
  | DisableRequest => some (.onDisableCb error)
  | GnssUpdateConfigRequest _ | GnssGetConfigRequest _ => none

def onCollectiveResponse (errors : List LocationError) (ids : List (BitVec 32)) :
    CtrlRequest → Option CtrlCallback
  | GnssUpdateConfigRequest call => some (.onGnssUpdateConfigCb call errors ids)
  | GnssGetConfigRequest call => some (.onGnssGetConfigCb call errors ids)
  | GnssDeleteAidingDataRequest | EnableRequest | DisableRequest => none

end CtrlRequest

inductive ConfigCallKind where
  | update | get
  deriving DecidableEq, Repr

/-- The queue for the calls of a kind. -/
def ConfigCallKind.requestType : ConfigCallKind → CtrlRequestType
  | update => .CONFIG_UPDATE
  | get => .CONFIG_GET

/-- A call that `LocationControlAPI` has accepted, with the ids that it has returned. -/
structure ConfigCall where
  kind : ConfigCallKind
  number : ℕ
  ids : List (BitVec 32)
  deriving DecidableEq, Repr

namespace ConfigCall

/-- The object that waits for the answer to the call. -/
def request (c : ConfigCall) : CtrlRequest :=
  match c.kind with
  | .update => .GnssUpdateConfigRequest c.number
  | .get => .GnssGetConfigRequest c.number

/-- The callback for the answer to the call. -/
def callback (c : ConfigCall) (errors : List LocationError) : CtrlCallback :=
  match c.kind with
  | .update => .onGnssUpdateConfigCb c.number errors c.ids
  | .get => .onGnssGetConfigCb c.number errors c.ids

end ConfigCall

/-- `LocationAPIControlClient`; `mLocationControlAPI` says whether the pointer is set.  The last
four fields record what has happened: the calls about the configuration so far, those without an
answer yet, the callbacks that have run, and those that the collective responses ask for. -/
structure LocationAPIControlClient where
  mLocationControlAPI : Bool
  mRequestQueues : CtrlRequestType → RequestQueue CtrlRequest
  mEnabled : Bool
  mConfig : GnssConfigSettings
  calls : ℕ
  outstanding : List ConfigCall
  callbacks : List CtrlCallback
  answered : List CtrlCallback

/-- What the user of the client and `LocationControlAPI` do.  The calls come with what
`LocationControlAPI` returns for them: a session, or the address of an array, 0 if there is none,
and what the array holds. -/
inductive ControlEvent where
  | locAPIGnssDeleteAidingData (session : BitVec 32)
  | locAPIEnable (session : BitVec 32)
  | locAPIDisable
  | locAPIGnssUpdateConfig (config : GnssConfigSettings) (idArray : ℕ) (ids : List (BitVec 32))
  | locAPIGnssGetConfig (mask : BitVec 32) (idArray : ℕ) (ids : List (BitVec 32))
  | responseCb (error : LocationError) (id : BitVec 32)
  /-- The answer to a call: its ids are at the address `ids`. -/
  | collectiveResponseCb (call : ConfigCall) (errors : List LocationError) (ids : ℕ)

/-- The event is a collective response. -/
def ControlEvent.isCollectiveResponse : ControlEvent → Bool
  | collectiveResponseCb .. => true
  | _ => false

namespace LocationAPIControlClient

/-- The constructor; `createInstance` may fail. -/
def initial (mLocationControlAPI : Bool) : LocationAPIControlClient where
  mLocationControlAPI := mLocationControlAPI
  mRequestQueues _ := .empty
  mEnabled := false
  mConfig := .zero
  calls := 0
  outstanding := []
  callbacks := []
  answered := []

def setQueue (s : LocationAPIControlClient) (t : CtrlRequestType) (q : RequestQueue CtrlRequest) :
    LocationAPIControlClient :=
  { s with mRequestQueues := Function.update s.mRequestQueues t q }

/-! ### Requests -/

def locAPIGnssDeleteAidingData (s : LocationAPIControlClient) (session : BitVec 32) :
    LocationError × LocationAPIControlClient :=
  if s.mLocationControlAPI then
    (.SUCCESS, s.setQueue .DELETEAIDINGDATA
      (((s.mRequestQueues .DELETEAIDINGDATA).reset session).push .GnssDeleteAidingDataRequest))
  else (.GENERAL_FAILURE, s)

def locAPIEnable (s : LocationAPIControlClient) (session : BitVec 32) :
    LocationError × LocationAPIControlClient :=
  if s.mEnabled then (.SUCCESS, s)
  else if s.mLocationControlAPI then
    (.SUCCESS,
      { s.setQueue .CONTROL (((s.mRequestQueues .CONTROL).reset session).push .EnableRequest) with
        mEnabled := true })
  else (.GENERAL_FAILURE, s)

def locAPIDisable (s : LocationAPIControlClient) : LocationAPIControlClient :=
  if s.mEnabled && s.mLocationControlAPI then
    let session := (s.mRequestQueues .CONTROL).mSession
    if session ≠ 0 then
      { s.setQueue .CONTROL ((s.mRequestQueues .CONTROL).push .DisableRequest) with
        mEnabled := false }
    else s
  else s

/-- Put the object for an accepted call into its queue. -/
def accept (s : LocationAPIControlClient) (kind : ConfigCallKind) (idArray : ℕ)
    (ids : List (BitVec 32)) : LocationAPIControlClient :=
  let c : ConfigCall := ⟨kind, s.calls, ids⟩
  let q := s.mRequestQueues kind.requestType
  -- a queue takes the address of the array only if it has one already
  let q := if q.mSessionArrayPtr ≠ 0 then q.resetArray idArray else q
  { s.setQueue kind.requestType (q.push c.request) with
    calls := s.calls + 1
    outstanding := s.outstanding ++ [c] }

def locAPIGnssUpdateConfig (s : LocationAPIControlClient) (config : GnssConfigSettings)
    (idArray : ℕ) (ids : List (BitVec 32)) : LocationError × LocationAPIControlClient :=
  if s.mLocationControlAPI then
    if s.mConfig.equals config then (.SUCCESS, s)
    else
      let s := { s with mConfig := config }
      if idArray ≠ 0 then (.SUCCESS, s.accept .update idArray ids) else (.GENERAL_FAILURE, s)
  else (.GENERAL_FAILURE, s)

def locAPIGnssGetConfig (s : LocationAPIControlClient) (idArray : ℕ) (ids : List (BitVec 32)) :
    LocationError × LocationAPIControlClient :=
  if s.mLocationControlAPI then
    if idArray ≠ 0 then (.SUCCESS, s.accept .get idArray ids) else (.GENERAL_FAILURE, s)
  else (.GENERAL_FAILURE, s)

/-! ### Answers -/

def popQueue (s : LocationAPIControlClient) (t : CtrlRequestType) :
    Option CtrlRequest × LocationAPIControlClient :=
  let r := (s.mRequestQueues t).pop
  (r.1, s.setQueue t r.2)

def getRequestBySession (s : LocationAPIControlClient) (session : BitVec 32) :
    Option CtrlRequest × LocationAPIControlClient :=
  if (s.mRequestQueues .DELETEAIDINGDATA).mSession = session then s.popQueue .DELETEAIDINGDATA
  else if (s.mRequestQueues .CONTROL).mSession = session then s.popQueue .CONTROL
  else (none, s)

def getRequestBySessionArrayPtr (s : LocationAPIControlClient) (sessionArrayPtr : ℕ) :
    Option CtrlRequest × LocationAPIControlClient :=
  if (s.mRequestQueues .CONFIG_UPDATE).mSessionArrayPtr = sessionArrayPtr then
    s.popQueue .CONFIG_UPDATE
  else if (s.mRequestQueues .CONFIG_GET).mSessionArrayPtr = sessionArrayPtr then
    s.popQueue .CONFIG_GET
  else (none, s)

/-- Run the callback of a request, if there is one. -/
def call (s : LocationAPIControlClient) (cb : Option CtrlCallback) : LocationAPIControlClient :=
  { s with callbacks := s.callbacks ++ cb.toList }

def onCtrlResponseCb (s : LocationAPIControlClient) (error : LocationError) (id : BitVec 32) :
    LocationAPIControlClient :=
  let r := s.getRequestBySession id
  r.2.call (r.1.bind (·.onResponse error))

/-- `onCtrlCollectiveResponseCb`, if the ids `idsAt` are at the address `ids`. -/
def onCtrlCollectiveResponseCb (s : LocationAPIControlClient) (errors : List LocationError)
    (ids : ℕ) (idsAt : List (BitVec 32)) : LocationAPIControlClient :=
  let r := s.getRequestBySessionArrayPtr ids
  r.2.call (r.1.bind (·.onCollectiveResponse errors idsAt))

/-- `LocationControlAPI` answers calls that it has accepted, each once, with one error for each id
of the call. -/
def step (s : LocationAPIControlClient) : ControlEvent → Option LocationAPIControlClient
  | .locAPIGnssDeleteAidingData session => some (s.locAPIGnssDeleteAidingData session).2
  | .locAPIEnable session => some (s.locAPIEnable session).2
  | .locAPIDisable => some s.locAPIDisable
  | .locAPIGnssUpdateConfig config idArray ids =>
    some (s.locAPIGnssUpdateConfig config idArray ids).2
  | .locAPIGnssGetConfig _ idArray ids => some (s.locAPIGnssGetConfig idArray ids).2
  | .responseCb error id => some (s.onCtrlResponseCb error id)
  | .collectiveResponseCb c errors ids =>
    if c ∈ s.outstanding ∧ ids ≠ 0 ∧ errors.length = c.ids.length then
      some
        { s.onCtrlCollectiveResponseCb errors ids c.ids with
          outstanding := s.outstanding.erase c
          answered := s.answered ++ [c.callback errors] }
    else none

/-- The client and `LocationControlAPI` as a transition system. -/
def system (mLocationControlAPI : Bool) : System LocationAPIControlClient ControlEvent :=
  System.ofPartial (initial mLocationControlAPI) step

/-! ### What is delivered -/

/-- The calls of a kind that have no answer yet. -/
def outstandingOf (s : LocationAPIControlClient) (kind : ConfigCallKind) : List ConfigCall :=
  s.outstanding.filter (·.kind = kind)

/-- Each collective response has run the callback of the call that it answers, once and in order,
and no other collective callback has run; the queues hold the calls without an answer. -/
structure Delivered (s : LocationAPIControlClient) : Prop where
  callbacks_eq : s.callbacks.filter (·.isCollective) = s.answered
  queue_perm : ∀ kind, List.Perm (s.mRequestQueues (ConfigCallKind.requestType kind)).mQueue
    ((s.outstandingOf kind).map ConfigCall.request)

/-- No queue knows an array and no collective callback has run. -/
structure NoCollectiveCb (s : LocationAPIControlClient) : Prop where
  arrayPtr_eq : ∀ t, (s.mRequestQueues t).mSessionArrayPtr = 0
  callbacks_eq : s.callbacks.filter (·.isCollective) = []

/-- `t` differs from `s` only in what has nothing to do with the configuration. -/
structure Quiet (s t : LocationAPIControlClient) : Prop where
  arrayPtr_eq : ∀ k, (t.mRequestQueues k).mSessionArrayPtr = (s.mRequestQueues k).mSessionArrayPtr
  queue_eq : ∀ kind, (t.mRequestQueues (ConfigCallKind.requestType kind)).mQueue =
    (s.mRequestQueues kind.requestType).mQueue
  callbacks_eq : t.callbacks.filter (·.isCollective) = s.callbacks.filter (·.isCollective)
  outstanding_eq : t.outstanding = s.outstanding
  answered_eq : t.answered = s.answered

variable {s t : LocationAPIControlClient}

theorem Quiet.refl (s : LocationAPIControlClient) : Quiet s s :=
  ⟨fun _ => rfl, fun _ => rfl, rfl, rfl, rfl⟩

/-- Another queue than those of the configuration may change, if its address does not. -/
theorem Quiet.setQueue {k : CtrlRequestType} {q : RequestQueue CtrlRequest}
    (hk : ∀ kind, k ≠ ConfigCallKind.requestType kind)
    (hq : q.mSessionArrayPtr = (s.mRequestQueues k).mSessionArrayPtr) :
    Quiet s (s.setQueue k q) := by
  refine ⟨fun k' => ?_, fun kind => ?_, rfl, rfl, rfl⟩
  · by_cases h : k' = k
    · subst h
      simpa [LocationAPIControlClient.setQueue] using hq
    · simp [LocationAPIControlClient.setQueue, h]
  · have h := (hk kind).symm
    simp [LocationAPIControlClient.setQueue, h]

/-- Another callback may run. -/
theorem Quiet.call (h : Quiet s t) {cb : Option CtrlCallback}
    (hcb : ∀ c ∈ cb, c.isCollective = false) : Quiet s (t.call cb) := by
  refine ⟨h.arrayPtr_eq, h.queue_eq, ?_, h.outstanding_eq, h.answered_eq⟩
  cases cb with
  | none => simpa [LocationAPIControlClient.call] using h.callbacks_eq
  | some c =>
    have hc : c.isCollective = false := hcb c rfl
    simpa [LocationAPIControlClient.call, List.filter_append, hc] using h.callbacks_eq

theorem control_ne (kind : ConfigCallKind) : CtrlRequestType.CONTROL ≠ kind.requestType := by
  cases kind <;> decide

theorem deleteAidingData_ne (kind : ConfigCallKind) :
    CtrlRequestType.DELETEAIDINGDATA ≠ kind.requestType := by
  cases kind <;> decide

theorem quiet_deleteAidingData (session : BitVec 32) :
    Quiet s (s.locAPIGnssDeleteAidingData session).2 := by
  unfold locAPIGnssDeleteAidingData
  split
  · exact .setQueue deleteAidingData_ne rfl
  · exact .refl s

theorem quiet_enable (session : BitVec 32) : Quiet s (s.locAPIEnable session).2 := by
  unfold locAPIEnable
  split
  · exact .refl s
  · split
    · have h := Quiet.setQueue (s := s) (k := .CONTROL)
        (q := ((s.mRequestQueues .CONTROL).reset session).push .EnableRequest) control_ne rfl
      exact ⟨h.arrayPtr_eq, h.queue_eq, h.callbacks_eq, h.outstanding_eq, h.answered_eq⟩
    · exact .refl s

theorem quiet_disable : Quiet s s.locAPIDisable := by
  unfold locAPIDisable
  split
  · dsimp only
    split
    · have h := Quiet.setQueue (s := s) (k := .CONTROL)
        (q := (s.mRequestQueues .CONTROL).push .DisableRequest) control_ne rfl
      exact ⟨h.arrayPtr_eq, h.queue_eq, h.callbacks_eq, h.outstanding_eq, h.answered_eq⟩
    · exact .refl s
  · exact .refl s

theorem isCollective_onResponse (r : CtrlRequest) (error : LocationError) :
    ∀ c ∈ r.onResponse error, c.isCollective = false := by
  intro c hc
  cases r <;> simp [CtrlRequest.onResponse] at hc <;> subst hc <;> rfl

theorem quiet_response (error : LocationError) (id : BitVec 32) :
    Quiet s (s.onCtrlResponseCb error id) := by
  have hpop : Quiet s (s.getRequestBySession id).2 := by
    unfold getRequestBySession
    split
    · exact .setQueue deleteAidingData_ne rfl
    · split
      · exact .setQueue control_ne rfl
      · exact .refl s
  refine hpop.call fun c hc => ?_
  obtain ⟨r, -, hr⟩ := Option.bind_eq_some_iff.1 hc
  exact isCollective_onResponse r error c hr

/-! ### Calls and collective responses -/

/-- What an accepted call does while no queue knows an array. -/
theorem mRequestQueues_accept (h : ∀ k, (s.mRequestQueues k).mSessionArrayPtr = 0)
    (kind : ConfigCallKind) (idArray : ℕ) (ids : List (BitVec 32)) :
    s.accept kind idArray ids =
      { s.setQueue kind.requestType ((s.mRequestQueues kind.requestType).push
          (ConfigCall.request ⟨kind, s.calls, ids⟩)) with
        calls := s.calls + 1
        outstanding := s.outstanding ++ [⟨kind, s.calls, ids⟩] } := by
  simp [accept, h]

/-- A collective response finds no queue while no queue knows an array. -/
theorem collectiveResponse_eq (h : ∀ k, (s.mRequestQueues k).mSessionArrayPtr = 0)
    (errors : List LocationError) {ids : ℕ} (hids : ids ≠ 0) (idsAt : List (BitVec 32)) :
    s.onCtrlCollectiveResponseCb errors ids idsAt = s := by
  have hr : s.getRequestBySessionArrayPtr ids = (none, s) := by
    simp [getRequestBySessionArrayPtr, h, hids.symm]
  simp [onCtrlCollectiveResponseCb, hr, call]

namespace NoCollectiveCb

theorem of_quiet (hs : s.NoCollectiveCb) (h : Quiet s t) : t.NoCollectiveCb :=
  ⟨fun k => (h.arrayPtr_eq k).trans (hs.arrayPtr_eq k), h.callbacks_eq.trans hs.callbacks_eq⟩

theorem accept (hs : s.NoCollectiveCb) (kind : ConfigCallKind) (idArray : ℕ)
    (ids : List (BitVec 32)) : (s.accept kind idArray ids).NoCollectiveCb := by
  rw [mRequestQueues_accept hs.arrayPtr_eq]
  refine ⟨fun k => ?_, hs.callbacks_eq⟩
  show (Function.update s.mRequestQueues _ _ k).mSessionArrayPtr = 0
  by_cases hk : k = kind.requestType
  · subst hk
    simpa using hs.arrayPtr_eq _
  · simpa [hk] using hs.arrayPtr_eq k

end NoCollectiveCb

/-- No call has been answered and each queue holds the calls of its kind. -/
structure Waiting (s : LocationAPIControlClient) : Prop extends NoCollectiveCb s where
  answered_eq : s.answered = []
  queue_eq : ∀ kind, (s.mRequestQueues (ConfigCallKind.requestType kind)).mQueue =
    (s.outstandingOf kind).map ConfigCall.request

namespace Waiting

theorem delivered (hs : s.Waiting) : s.Delivered :=
  ⟨hs.callbacks_eq.trans hs.answered_eq.symm, fun kind => .of_eq (hs.queue_eq kind)⟩

theorem of_quiet (hs : s.Waiting) (h : Quiet s t) : t.Waiting := by
  refine ⟨hs.toNoCollectiveCb.of_quiet h, h.answered_eq.trans hs.answered_eq, fun kind => ?_⟩
  rw [h.queue_eq, hs.queue_eq, outstandingOf, outstandingOf, h.outstanding_eq]

theorem requestType_inj {kind kind' : ConfigCallKind} (h : kind.requestType = kind'.requestType) :
    kind = kind' := by
  cases kind <;> cases kind' <;> first | rfl | exact absurd h (by decide)

theorem accept (hs : s.Waiting) (kind : ConfigCallKind) (idArray : ℕ) (ids : List (BitVec 32)) :
    (s.accept kind idArray ids).Waiting := by
  refine ⟨hs.toNoCollectiveCb.accept kind idArray ids, ?_, fun kind' => ?_⟩
  · rw [mRequestQueues_accept hs.arrayPtr_eq]
    exact hs.answered_eq
  · rw [mRequestQueues_accept hs.arrayPtr_eq]
    show (Function.update s.mRequestQueues _ _ kind'.requestType).mQueue =
      ((s.outstanding ++ [(⟨kind, s.calls, ids⟩ : ConfigCall)]).filter (·.kind = kind')).map
        ConfigCall.request
    have hq := hs.queue_eq kind'
    rw [outstandingOf] at hq
    by_cases hk : kind' = kind
    · subst hk
      simp [List.filter_append, hq]
    · have ht : kind'.requestType ≠ kind.requestType := fun h => hk (requestType_inj h)
      have hk' : kind ≠ kind' := Ne.symm hk
      simp [List.filter_append, ht, hk', hq]

end Waiting

theorem waiting_initial (api : Bool) : (initial api).Waiting :=
  ⟨⟨fun _ => rfl, rfl⟩, rfl, fun _ => rfl⟩

/-! ### Steps -/

/-- The steps other than a collective response: an accepted call, or nothing that has to do with
the configuration. -/
theorem step_cases {e : ControlEvent} (he : e.isCollectiveResponse = false)
    (h : s.step e = some t) :
    Quiet s t ∨ ∃ kind idArray ids config,
      t = ({ s with mConfig := config } : LocationAPIControlClient).accept kind idArray ids := by
  cases e with
  | locAPIGnssDeleteAidingData session =>
    obtain rfl := Option.some.inj h
    exact .inl (quiet_deleteAidingData session)
  | locAPIEnable session =>
    obtain rfl := Option.some.inj h
    exact .inl (quiet_enable session)
  | locAPIDisable =>
    obtain rfl := Option.some.inj h
    exact .inl quiet_disable
  | locAPIGnssUpdateConfig config idArray ids =>
    obtain rfl := Option.some.inj h
    unfold locAPIGnssUpdateConfig
    split
    · split
      · exact .inl (.refl s)
      · dsimp only
        split
        · exact .inr ⟨.update, idArray, ids, config, rfl⟩
        · exact .inl ⟨fun _ => rfl, fun _ => rfl, rfl, rfl, rfl⟩
    · exact .inl (.refl s)
  | locAPIGnssGetConfig mask idArray ids =>
    obtain rfl := Option.some.inj h
    unfold locAPIGnssGetConfig
    split
    · split
      · exact .inr ⟨.get, idArray, ids, s.mConfig, rfl⟩
      · exact .inl (.refl s)
    · exact .inl (.refl s)
  | responseCb error id =>
    obtain rfl := Option.some.inj h
    exact .inl (quiet_response error id)
  | collectiveResponseCb c errors ids => cases he

/-- A collective response runs no callback while no queue knows an array. -/
theorem step_collectiveResponse (hs : ∀ k, (s.mRequestQueues k).mSessionArrayPtr = 0)
    {c : ConfigCall} {errors : List LocationError} {ids : ℕ}
    (h : s.step (.collectiveResponseCb c errors ids) = some t) :
    t = { s with
      outstanding := s.outstanding.erase c
      answered := s.answered ++ [c.callback errors] } := by
  simp only [step] at h
  split at h
  · rename_i hc
    rw [collectiveResponse_eq hs errors hc.2.1] at h
    exact (Option.some.inj h).symm
  · cases h

variable {api : Bool} {es : List ControlEvent}

/-- No collective callback runs. -/
theorem noCollectiveCb_of_run {G : LocationAPIControlClient → ControlEvent → Prop}
    (h : (system api).Run G es s) : s.NoCollectiveCb := by
  refine h.invariant (waiting_initial api).toNoCollectiveCb fun s e t hs _ hst => ?_
  rw [system, System.ofPartial_step] at hst
  cases he : e.isCollectiveResponse with
  | false =>
    rcases step_cases he hst with hq | ⟨kind, idArray, ids, config, rfl⟩
    · exact hs.of_quiet hq
    · have hs' : ({ s with mConfig := config } : LocationAPIControlClient).NoCollectiveCb :=
        ⟨hs.arrayPtr_eq, hs.callbacks_eq⟩
      exact hs'.accept kind idArray ids
  | true =>
    cases e with
    | collectiveResponseCb c errors ids =>
      rw [step_collectiveResponse hs.arrayPtr_eq hst]
      exact ⟨hs.arrayPtr_eq, hs.callbacks_eq⟩
    | _ => cases he

theorem waiting_step {e : ControlEvent} (hs : s.Waiting) (he : e.isCollectiveResponse = false)
    (h : s.step e = some t) : t.Waiting := by
  rcases step_cases he h with hq | ⟨kind, idArray, ids, config, rfl⟩
  · exact hs.of_quiet hq
  · have hs' : ({ s with mConfig := config } : LocationAPIControlClient).Waiting :=
      ⟨⟨hs.arrayPtr_eq, hs.callbacks_eq⟩, hs.answered_eq, hs.queue_eq⟩
    exact hs'.accept kind idArray ids

/-- An update of the GPS lock, to which the adapter gives the id 7, and its answer. -/
def updateAnswered : List ControlEvent :=
  [.locAPIGnssUpdateConfig { GnssConfigSettings.zero with flags := 1 } 4096 [7],
    .collectiveResponseCb ⟨.update, 0, [7]⟩ [.SUCCESS] 8192]

end LocationAPIControlClient

end GpsHal
