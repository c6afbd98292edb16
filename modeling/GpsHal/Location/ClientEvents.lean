import GpsHal.Core.EventMask
import GpsHal.Gnss.Agps
import GpsHal.Location.Api
import GpsHal.Util.OrdMap
import Mathlib.Data.List.Flatten

/-!
# The events that the clients are served with

An adapter asks for the events of the callbacks that its clients have registered
(`updateClientsEventMask` of the three adapters) and for some of its own, which it adds one by one
when AGPS or the injection of positions is set up or the engine comes up with other NMEA types.  The
sessions of `BatchingAdapter` are left to the environment here, as is what it asks for with them.

## Main definitions

* `LocApiAdapterEvent` : the events, with their bits.
* `ClientEvents.updateClientsEventMask`, `ClientEvents.setConfig` : the functions.
* `ClientEvents.Needs`, `ClientEvents.Allows` : the events that the clients and the adapters need, and
  those that may be asked for.

## Main results

* `ClientEvents.served_of_run` : with an empty queue the API is open for what is needed and for nothing
  that is not allowed.
-/

namespace GpsHal

/-! ### Events -/

/-- Those of `loc_api_adapter_event_index` that an adapter asks for. -/
inductive LocApiAdapterEvent
  | REPORT_POSITION
  | REPORT_SATELLITE
  | REPORT_NMEA_1HZ
  | REQUEST_NI_NOTIFY_VERIFY
  | REQUEST_LOCATION_SERVER
  | REQUEST_WIFI
  | GEOFENCE_GEN_ALERT
  | BATCH_FULL
  | BATCHED_GENFENCE_BREACH_REPORT
  | GNSS_SV_POLYNOMIAL_REPORT
  | GNSS_MEASUREMENT
  | REPORT_GENFENCE_DWELL_REPORT
  | BATCH_STATUS
  | REPORT_UNPROPAGATED_POSITION
  | GNSS_SV_EPHEMERIS_REPORT
  | LOC_SYSTEM_INFO
  | GNSS_NHZ_MEASUREMENT_REPORT
  | EVENT_REPORT_INFO
  deriving DecidableEq, Repr

namespace LocApiAdapterEvent

def index : LocApiAdapterEvent → ℕ
  | REPORT_POSITION => 0
  | REPORT_SATELLITE => 1
  | REPORT_NMEA_1HZ => 2
  | REQUEST_NI_NOTIFY_VERIFY => 4
  | REQUEST_LOCATION_SERVER => 6
  | REQUEST_WIFI => 9
  | GEOFENCE_GEN_ALERT => 14
  | BATCH_FULL => 19
  | BATCHED_GENFENCE_BREACH_REPORT => 21
  | GNSS_SV_POLYNOMIAL_REPORT => 23
  | GNSS_MEASUREMENT => 26
  | REPORT_GENFENCE_DWELL_REPORT => 28
  | BATCH_STATUS => 31
  | REPORT_UNPROPAGATED_POSITION => 33
  | GNSS_SV_EPHEMERIS_REPORT => 35
  | LOC_SYSTEM_INFO => 36
  | GNSS_NHZ_MEASUREMENT_REPORT => 37
  | EVENT_REPORT_INFO => 38

/-- The `LOC_API_ADAPTER_BIT_` macros: up to 31 they shift an `int`, whose sign is extended when it
goes into a mask. -/
def bit (e : LocApiAdapterEvent) : BitVec 64 :=
  if e.index ≤ 31 then ((1 : BitVec 32) <<< e.index).signExtend 64 else (1 : BitVec 64) <<< e.index

/-- The adapter that asks for the event. -/
def owner : LocApiAdapterEvent → LocationAdapterType
  | GEOFENCE_GEN_ALERT | BATCHED_GENFENCE_BREACH_REPORT | REPORT_GENFENCE_DWELL_REPORT => .GEOFENCE
  | BATCH_FULL | BATCH_STATUS => .BATCHING
  | _ => .GNSS

/-- A bit stands for its event alone, but the one with the sign also for all events behind it. -/
theorem getLsbD_bit (e : LocApiAdapterEvent) (i : ℕ) :
    e.bit.getLsbD i = true ↔ i = e.index ∨ e = BATCH_STATUS ∧ 31 ≤ i ∧ i < 64 := by
  have hbits : ∀ e : LocApiAdapterEvent, ∀ i < 64, e.bit.getLsbD i =
      (decide (i = e.index) || (decide (e = BATCH_STATUS) && decide (31 ≤ i))) := by
    intro e
    cases e <;> decide
  by_cases hi : i < 64
  · rw [hbits e i hi]
    simp only [Bool.or_eq_true, Bool.and_eq_true, decide_eq_true_eq, hi, and_true]
  · have hindex : i ≠ e.index := by
      cases e <;> simp only [index] <;> omega
    rw [BitVec.getLsbD_of_ge e.bit i (Nat.not_lt.1 hi)]
    simp only [Bool.false_eq_true, hindex, hi, and_false, or_false]

end LocApiAdapterEvent

/-! ### Masks -/

/-- `mask |= bit` under a condition. -/
def orBit (mask : BitVec 64) (request : Bool × LocApiAdapterEvent) : BitVec 64 :=
  if request.1 then mask ||| request.2.bit else mask

theorem getLsbD_foldl_orBit (requests : List (Bool × LocApiAdapterEvent)) (mask : BitVec 64) (i : ℕ) :
    (requests.foldl orBit mask).getLsbD i = true ↔
      mask.getLsbD i = true ∨ ∃ e, (true, e) ∈ requests ∧ e.bit.getLsbD i = true := by
  induction requests generalizing mask with
  | nil => simp only [List.foldl_nil, List.not_mem_nil, false_and, exists_false, or_false]
  | cons request requests ih =>
    obtain ⟨on, e⟩ := request
    rw [List.foldl_cons, ih]
    cases on with
    | false =>
      have hmem (e' : LocApiAdapterEvent) :
          (true, e') ∈ (false, e) :: requests ↔ (true, e') ∈ requests := by
        simp only [List.mem_cons, Prod.mk.injEq, Bool.true_eq_false, false_and, false_or]
      simp only [hmem, orBit, Bool.false_eq_true, if_false]
    | true =>
      simp only [orBit, if_true, BitVec.getLsbD_or, Bool.or_eq_true, List.mem_cons, Prod.mk.injEq,
        true_and, or_and_right, exists_or, exists_eq_left, or_assoc]

/-- The callbacks that the masks are made from. -/
structure EventCallbacks extends LocationCallbacks where
  gnssSvCb : Bool
  gnssNmeaCb : Bool
  gnssDataCb : Bool
  deriving DecidableEq, Repr

/-- The configuration: the automotive use case, whether AGPS has a mode, and what the API excludes. -/
structure EventConf where
  /-- `EXTERNAL_DR_ENABLED` is 1, or the engine hub has been loaded. -/
  automotive : Bool
  /-- `CAPABILITIES` has MSB or MSA. -/
  agpsCapable : Bool
  mExcludedMask : BitVec 64

/-- The three adapters and the API.  `autoReportBatchingSessionsCount` is what `BatchingAdapter` counts
in its sessions; the last two fields are records of the calls that no function reads. -/
structure ClientEvents where
  events : LocApiEvents LocationAdapterType
  mClientData : LocationAdapterType → OrdMap ℕ EventCallbacks
  mNmeaMask : BitVec 32
  mOdcpiRequestCb : Bool
  mAgpsManager : AgpsManager
  autoReportBatchingSessionsCount : ℕ
  odcpiInit : Bool
  agpsInit : Bool

inductive ClientsEvent where
  | create (k : LocationAdapterType)
  | saveClient (k : LocationAdapterType) (client : ℕ) (callbacks : EventCallbacks)
  | eraseClient (k : LocationAdapterType) (client : ℕ)
  | setConfig (mask : BitVec 32)
  | initOdcpi (callback : Bool)
  | initAgps (atlType : AGpsTypeMask) (uninit : AgpsNif → LocApnTypeMask)
  /-- The sessions of `BatchingAdapter` change. -/
  | batchingSessions (count : ℕ)
  | updateBatchFull (enabled : Bool)
  | handleEngineDownEvent
  /-- The thread of the API takes its next message. -/
  | process

namespace ClientEvents

def init (useEmergencyPdn : Bool) : ClientEvents where
  events := .init
  mClientData _ := ∅
  mNmeaMask := 0
  mOdcpiRequestCb := false
  mAgpsManager := .new useEmergencyPdn
  autoReportBatchingSessionsCount := 0
  odcpiInit := false
  agpsInit := false

variable (conf : EventConf) (s : ClientEvents)

/-- `AgpsManager::isRegistered` -/
def isRegistered : Bool := s.mAgpsManager.mAgnssNif.isSome || s.mAgpsManager.mInternetNif.isSome

/-- The loop of an `updateClientsEventMask` for one client. -/
def clientRequests (cbs : EventCallbacks) : LocationAdapterType → List (Bool × LocApiAdapterEvent)
  | .GNSS =>
    [(cbs.trackingCb || cbs.gnssLocationInfoCb, .REPORT_POSITION),
      (cbs.gnssSvCb, .REPORT_SATELLITE),
      (cbs.gnssNmeaCb && decide (s.mNmeaMask ≠ 0), .REPORT_NMEA_1HZ),
      (cbs.gnssMeasurementsCb, .GNSS_MEASUREMENT),
      (cbs.gnssDataCb, .REPORT_POSITION),
      (cbs.gnssDataCb, .REPORT_NMEA_1HZ)]
  | .BATCHING => [(cbs.batchingCb, .BATCH_STATUS)]
  | .GEOFENCE =>
    [(cbs.geofenceBreachCb, .BATCHED_GENFENCE_BREACH_REPORT),
      (cbs.geofenceBreachCb, .REPORT_GENFENCE_DWELL_REPORT),
      (cbs.geofenceStatusCb, .GEOFENCE_GEN_ALERT)]

/-- What an `updateClientsEventMask` adds behind its loop. -/
def adapterRequests : LocationAdapterType → List (Bool × LocApiAdapterEvent)
  | .GNSS =>
    [(conf.automotive, .GNSS_MEASUREMENT),
      (conf.automotive, .GNSS_NHZ_MEASUREMENT_REPORT),
      (conf.automotive, .GNSS_SV_POLYNOMIAL_REPORT),
      (conf.automotive, .REPORT_UNPROPAGATED_POSITION),
      (conf.automotive, .GNSS_SV_EPHEMERIS_REPORT),
      (conf.automotive, .LOC_SYSTEM_INFO),
      (conf.automotive, .EVENT_REPORT_INFO),
      (s.isRegistered, .REQUEST_LOCATION_SERVER),
      (s.mOdcpiRequestCb, .REQUEST_WIFI),
      (true, .LOC_SYSTEM_INFO),
      (true, .REQUEST_NI_NOTIFY_VERIFY)]
  | .BATCHING => [(decide (0 < s.autoReportBatchingSessionsCount), .BATCH_FULL)]
  | .GEOFENCE => []

/-- The mask of an `updateClientsEventMask`. -/
def clientsMask (k : LocationAdapterType) : BitVec 64 :=
  let mask := (s.mClientData k).values.foldl (fun mask cbs => (s.clientRequests cbs k).foldl orBit mask) 0
  (s.adapterRequests conf k).foldl orBit mask

def updateEvtMask (k : LocationAdapterType) (event : BitVec 64) (status : LocRegistrationMaskStatus) :
    ClientEvents :=
  { s with events := s.events.updateEvtMask k event status }

def updateClientsEventMask (k : LocationAdapterType) : ClientEvents :=
  s.updateEvtMask k (s.clientsMask conf k) .SET

def setClientData (k : LocationAdapterType) (clients : OrdMap ℕ EventCallbacks) : ClientEvents :=
  { s with mClientData := Function.update s.mClientData k clients }

def saveClient (k : LocationAdapterType) (client : ℕ) (callbacks : EventCallbacks) : ClientEvents :=
  (s.setClientData k ((s.mClientData k).insert client callbacks)).updateClientsEventMask conf k

def eraseClient (k : LocationAdapterType) (client : ℕ) : ClientEvents :=
  (s.setClientData k ((s.mClientData k).erase client)).updateClientsEventMask conf k

/-- The part of `GnssAdapter::setConfig` for the NMEA types. -/
def setConfig (mask : BitVec 32) : ClientEvents :=
  if s.mNmeaMask ≠ mask then
    let s := { s with mNmeaMask := mask }
    if s.mNmeaMask ≠ 0 ∧ (s.mClientData .GNSS).values.any (·.gnssNmeaCb) then
      s.updateEvtMask .GNSS (LocApiAdapterEvent.bit .REPORT_NMEA_1HZ) .ENABLED
    else s
  else s

def initOdcpi (callback : Bool) : ClientEvents :=
  { s with mOdcpiRequestCb := callback, odcpiInit := true }.updateEvtMask .GNSS
    (LocApiAdapterEvent.bit .REQUEST_WIFI) .ENABLED

def initAgps (atlType : AGpsTypeMask) (uninit : AgpsNif → LocApnTypeMask) : ClientEvents :=
  if conf.agpsCapable then
    { s with
      mAgpsManager := s.mAgpsManager.createAgpsStateMachines atlType conf.agpsCapable uninit
      agpsInit := true }.updateEvtMask .GNSS (LocApiAdapterEvent.bit .REQUEST_LOCATION_SERVER) .ENABLED
  else s

def updateBatchFull (enabled : Bool) : ClientEvents :=
  s.updateEvtMask .BATCHING (LocApiAdapterEvent.bit .BATCH_FULL) (if enabled then .ENABLED else .DISABLED)

/-- An event of the API itself. -/
def apiEvent (e : ApiEvent LocationAdapterType) : Option ClientEvents :=
  (s.events.step conf.mExcludedMask e).map fun events => { s with events }

/-- Only an adapter that has been made takes messages. -/
def onAdapter (k : LocationAdapterType) (s' : ClientEvents) : Option ClientEvents :=
  if s.events.registered k then some s' else none

def step : ClientsEvent → Option ClientEvents
  | .create k => s.apiEvent conf (.create k 0)
  | .saveClient k client callbacks => s.onAdapter k (s.saveClient conf k client callbacks)
  | .eraseClient k client => s.onAdapter k (s.eraseClient conf k client)
  | .setConfig mask => s.onAdapter .GNSS (s.setConfig mask)
  | .initOdcpi callback => s.onAdapter .GNSS (s.initOdcpi callback)
  | .initAgps atlType uninit => s.onAdapter .GNSS (s.initAgps conf atlType uninit)
  | .batchingSessions count =>
    s.onAdapter .BATCHING { s with autoReportBatchingSessionsCount := count }
  | .updateBatchFull enabled => s.onAdapter .BATCHING (s.updateBatchFull enabled)
  | .handleEngineDownEvent => s.apiEvent conf .handleEngineDownEvent
  | .process => s.apiEvent conf .process

def system (useEmergencyPdn : Bool) : System ClientEvents ClientsEvent :=
  .ofPartial (init useEmergencyPdn) (step conf)

/-! ### What is needed -/

/-- Some client of the adapter has callbacks of the kind. -/
def HasClient (k : LocationAdapterType) (p : EventCallbacks → Prop) : Prop :=
  ∃ client callbacks, (s.mClientData k).find client = some callbacks ∧ p callbacks

/-- The event has to be asked for: a callback of some client is served with it, or the adapter works
with it itself. -/
def Needs : LocApiAdapterEvent → Prop
  | .REPORT_POSITION => s.HasClient .GNSS fun cbs =>
    cbs.trackingCb = true ∨ cbs.gnssLocationInfoCb = true ∨ cbs.gnssDataCb = true
  | .REPORT_SATELLITE => s.HasClient .GNSS fun cbs => cbs.gnssSvCb = true
  | .REPORT_NMEA_1HZ => s.HasClient .GNSS fun cbs =>
    cbs.gnssDataCb = true ∨ s.mNmeaMask ≠ 0 ∧ cbs.gnssNmeaCb = true
  | .GNSS_MEASUREMENT => s.HasClient .GNSS fun cbs =>
    cbs.gnssMeasurementsCb = true ∨ conf.automotive = true
  | .GNSS_NHZ_MEASUREMENT_REPORT | .GNSS_SV_POLYNOMIAL_REPORT | .REPORT_UNPROPAGATED_POSITION
  | .GNSS_SV_EPHEMERIS_REPORT | .EVENT_REPORT_INFO =>
    s.HasClient .GNSS fun _ => conf.automotive = true
  | .LOC_SYSTEM_INFO | .REQUEST_NI_NOTIFY_VERIFY => s.HasClient .GNSS fun _ => True
  | .REQUEST_LOCATION_SERVER => s.isRegistered = true
  | .REQUEST_WIFI => s.mOdcpiRequestCb = true
  | .BATCHED_GENFENCE_BREACH_REPORT | .REPORT_GENFENCE_DWELL_REPORT =>
    s.HasClient .GEOFENCE fun cbs => cbs.geofenceBreachCb = true
  | .GEOFENCE_GEN_ALERT => s.HasClient .GEOFENCE fun cbs => cbs.geofenceStatusCb = true
  | .BATCH_STATUS => s.HasClient .BATCHING fun cbs => cbs.batchingCb = true
  | .BATCH_FULL => False

/-- The event may be asked for.  NMEA reports go on when the engine comes up without NMEA types, and
the events of the adapters themselves do not end with the clients. -/
def Allows : LocApiAdapterEvent → Prop
  | .REPORT_NMEA_1HZ => s.HasClient .GNSS fun cbs => cbs.gnssDataCb = true ∨ cbs.gnssNmeaCb = true
  | .GNSS_MEASUREMENT =>
    (s.HasClient .GNSS fun cbs => cbs.gnssMeasurementsCb = true) ∨ conf.automotive = true
  | .GNSS_NHZ_MEASUREMENT_REPORT | .GNSS_SV_POLYNOMIAL_REPORT | .REPORT_UNPROPAGATED_POSITION
  | .GNSS_SV_EPHEMERIS_REPORT | .EVENT_REPORT_INFO => conf.automotive = true
  | .LOC_SYSTEM_INFO | .REQUEST_NI_NOTIFY_VERIFY | .BATCH_FULL => True
  | .REQUEST_LOCATION_SERVER => s.agpsInit = true
  | .REQUEST_WIFI => s.odcpiInit = true
  | e => s.Needs conf e

/-- What an open mask should be: the events that are needed have their bits, unless the API excludes
them, and every bit is that of an allowed event or is behind the sign of `BATCH_STATUS`. -/
structure Served (mask : BitVec 64) : Prop where
  needed : ∀ e, s.Needs conf e → conf.mExcludedMask.getLsbD e.index = false →
    mask.getLsbD e.index = true
  allowed : ∀ i, mask.getLsbD i = true → conf.mExcludedMask.getLsbD i = false ∧
    ((∃ e, i = e.index ∧ s.Allows conf e) ∨ 31 ≤ i ∧ s.Allows conf .BATCH_STATUS)

/-- What the masks of the adapters are between two events. -/
structure Masks : Prop where
  needed : ∀ e, s.Needs conf e → (s.events.mEvtMask e.owner).getLsbD e.index = true
  allowed : ∀ k i, (s.events.mEvtMask k).getLsbD i = true →
    ∃ e, e.owner = k ∧ s.Allows conf e ∧ e.bit.getLsbD i = true
  agps : s.isRegistered = true → s.agpsInit = true
  odcpi : s.mOdcpiRequestCb = true → s.odcpiInit = true

variable {conf s} {s₁ s' : ClientEvents} {k k' : LocationAdapterType} {e : LocApiAdapterEvent}
  {p q : EventCallbacks → Prop}

theorem HasClient.imp (h : s.HasClient k p) (hpq : ∀ cbs, p cbs → q cbs) : s.HasClient k q := by
  obtain ⟨client, cbs, hfind, hp⟩ := h
  exact ⟨client, cbs, hfind, hpq cbs hp⟩

theorem needs_allows (hagps : s.isRegistered = true → s.agpsInit = true)
    (hodcpi : s.mOdcpiRequestCb = true → s.odcpiInit = true) (h : s.Needs conf e) :
    s.Allows conf e := by
  cases e with
  | REPORT_NMEA_1HZ => exact h.imp fun cbs hcbs => hcbs.imp_right And.right
  | GNSS_MEASUREMENT =>
    obtain ⟨client, cbs, hfind, hcbs | hauto⟩ := h
    · exact .inl ⟨client, cbs, hfind, hcbs⟩
    · exact .inr hauto
  | GNSS_NHZ_MEASUREMENT_REPORT | GNSS_SV_POLYNOMIAL_REPORT | REPORT_UNPROPAGATED_POSITION
  | GNSS_SV_EPHEMERIS_REPORT | EVENT_REPORT_INFO =>
    obtain ⟨client, cbs, hfind, hauto⟩ := h
    exact hauto
  | LOC_SYSTEM_INFO | REQUEST_NI_NOTIFY_VERIFY => trivial
  | BATCH_FULL => exact h.elim
  | REQUEST_LOCATION_SERVER => exact hagps h
  | REQUEST_WIFI => exact hodcpi h
  | _ => exact h

/-! ### The masks that are made from the clients -/

/-- A bit of the mask comes from a request for a client or for the adapter. -/
theorem getLsbD_clientsMask {i : ℕ} : (s.clientsMask conf k).getLsbD i = true ↔
    ∃ e, ((s.HasClient k fun cbs => (true, e) ∈ s.clientRequests cbs k) ∨
      (true, e) ∈ s.adapterRequests conf k) ∧ e.bit.getLsbD i = true := by
  have hclients : (s.mClientData k).values.foldl
      (fun mask cbs => (s.clientRequests cbs k).foldl orBit mask) 0 =
      ((s.mClientData k).values.flatMap fun cbs => s.clientRequests cbs k).foldl orBit 0 :=
    (List.foldl_flatMap ..).symm
  have hmem (e : LocApiAdapterEvent) :
      (true, e) ∈ ((s.mClientData k).values.flatMap fun cbs => s.clientRequests cbs k) ↔
        s.HasClient k fun cbs => (true, e) ∈ s.clientRequests cbs k := by
    rw [List.mem_flatMap]
    constructor
    · rintro ⟨cbs, hcbs, he⟩
      obtain ⟨client, hclient⟩ := OrdMap.mem_values.1 hcbs
      exact ⟨client, cbs, OrdMap.find_eq_some.2 hclient, he⟩
    · rintro ⟨client, cbs, hfind, he⟩
      exact ⟨cbs, OrdMap.mem_values.2 ⟨client, OrdMap.find_eq_some.1 hfind⟩, he⟩
  unfold clientsMask
  dsimp only
  rw [getLsbD_foldl_orBit, hclients, getLsbD_foldl_orBit]
  simp only [hmem, BitVec.ofNat_eq_ofNat, BitVec.getLsbD_zero, Bool.false_eq_true, false_or,
    or_and_right, exists_or]

/-- What is needed is requested. -/
theorem requested_of_needs (h : s.Needs conf e) :
    (s.HasClient e.owner fun cbs => (true, e) ∈ s.clientRequests cbs e.owner) ∨
      (true, e) ∈ s.adapterRequests conf e.owner := by
  cases e with
  | REPORT_POSITION | REPORT_SATELLITE | REPORT_NMEA_1HZ | BATCHED_GENFENCE_BREACH_REPORT
  | REPORT_GENFENCE_DWELL_REPORT | GEOFENCE_GEN_ALERT | BATCH_STATUS =>
    refine .inl (HasClient.imp h fun cbs hcbs => ?_)
    simp only [LocApiAdapterEvent.owner, clientRequests, List.mem_cons, List.not_mem_nil, Prod.mk.injEq,
      reduceCtorEq, and_true, and_false, false_or, or_false, eq_comm (a := true), Bool.or_eq_true,
      Bool.and_eq_true, decide_eq_true_eq]
    tauto
  | GNSS_MEASUREMENT =>
    obtain ⟨client, cbs, hfind, hcbs | hauto⟩ := h
    · refine .inl ⟨client, cbs, hfind, ?_⟩
      simp only [LocApiAdapterEvent.owner, clientRequests, hcbs, List.mem_cons, true_or, or_true]
    · refine .inr ?_
      simp only [LocApiAdapterEvent.owner, adapterRequests, hauto, List.mem_cons, true_or]
  | GNSS_NHZ_MEASUREMENT_REPORT | GNSS_SV_POLYNOMIAL_REPORT | REPORT_UNPROPAGATED_POSITION
  | GNSS_SV_EPHEMERIS_REPORT | EVENT_REPORT_INFO =>
    obtain ⟨client, cbs, hfind, hauto⟩ := h
    refine .inr ?_
    simp only [LocApiAdapterEvent.owner, adapterRequests, hauto, List.mem_cons, true_or, or_true]
  | LOC_SYSTEM_INFO | REQUEST_NI_NOTIFY_VERIFY =>
    refine .inr ?_
    simp only [LocApiAdapterEvent.owner, adapterRequests, List.mem_cons, true_or, or_true]
  | REQUEST_LOCATION_SERVER | REQUEST_WIFI =>
    refine .inr ?_
    have hon := h
    simp only [Needs] at hon
    simp only [LocApiAdapterEvent.owner, adapterRequests, hon, List.mem_cons, true_or, or_true]
  | BATCH_FULL => exact h.elim

/-- What is requested is allowed. -/
theorem allows_of_requested (hagps : s.isRegistered = true → s.agpsInit = true)
    (hodcpi : s.mOdcpiRequestCb = true → s.odcpiInit = true)
    (hreq : (s.HasClient k fun cbs => (true, e) ∈ s.clientRequests cbs k) ∨
      (true, e) ∈ s.adapterRequests conf k) : e.owner = k ∧ s.Allows conf e := by
  rcases hreq with ⟨client, cbs, hfind, hmem⟩ | hmem
  · cases k with
    | GNSS =>
      simp only [clientRequests, List.mem_cons, List.not_mem_nil, Prod.mk.injEq, or_false,
        eq_comm (a := true), Bool.or_eq_true, Bool.and_eq_true, decide_eq_true_eq] at hmem
      rcases hmem with ⟨hcb, rfl⟩ | ⟨hcb, rfl⟩ | ⟨hcb, rfl⟩ | ⟨hcb, rfl⟩ | ⟨hcb, rfl⟩ | ⟨hcb, rfl⟩
      · exact ⟨rfl, client, cbs, hfind, or_assoc.1 (.inl hcb)⟩
      · exact ⟨rfl, client, cbs, hfind, hcb⟩
      · exact ⟨rfl, client, cbs, hfind, .inr hcb.1⟩
      · exact ⟨rfl, .inl ⟨client, cbs, hfind, hcb⟩⟩
      · exact ⟨rfl, client, cbs, hfind, .inr (.inr hcb)⟩
      · exact ⟨rfl, client, cbs, hfind, .inl hcb⟩
    | BATCHING =>
      simp only [clientRequests, List.mem_singleton, Prod.mk.injEq, eq_comm (a := true)] at hmem
      obtain ⟨hcb, rfl⟩ := hmem
      exact ⟨rfl, client, cbs, hfind, hcb⟩
    | GEOFENCE =>
      simp only [clientRequests, List.mem_cons, List.not_mem_nil, Prod.mk.injEq, or_false,
        eq_comm (a := true)] at hmem
      rcases hmem with ⟨hcb, rfl⟩ | ⟨hcb, rfl⟩ | ⟨hcb, rfl⟩ <;>
        exact ⟨rfl, client, cbs, hfind, hcb⟩
  · cases k with
    | GNSS =>
      simp only [adapterRequests, List.mem_cons, List.not_mem_nil, Prod.mk.injEq, or_false,
        eq_comm (a := true)] at hmem
      rcases hmem with ⟨hauto, rfl⟩ | ⟨hauto, rfl⟩ | ⟨hauto, rfl⟩ | ⟨hauto, rfl⟩ | ⟨hauto, rfl⟩ |
        ⟨-, rfl⟩ | ⟨hauto, rfl⟩ | ⟨hon, rfl⟩ | ⟨hon, rfl⟩ | ⟨-, rfl⟩ | ⟨-, rfl⟩
      · exact ⟨rfl, .inr hauto⟩
      · exact ⟨rfl, hauto⟩
      · exact ⟨rfl, hauto⟩
      · exact ⟨rfl, hauto⟩
      · exact ⟨rfl, hauto⟩
      · exact ⟨rfl, trivial⟩
      · exact ⟨rfl, hauto⟩
      · exact ⟨rfl, hagps hon⟩
      · exact ⟨rfl, hodcpi hon⟩
      · exact ⟨rfl, trivial⟩
      · exact ⟨rfl, trivial⟩
    | BATCHING =>
      simp only [adapterRequests, List.mem_singleton, Prod.mk.injEq] at hmem
      obtain ⟨-, rfl⟩ := hmem
      exact ⟨rfl, trivial⟩
    | GEOFENCE => exact absurd hmem List.not_mem_nil

/-! ### Changes of the masks -/

theorem hasClient_setClientData {clients : OrdMap ℕ EventCallbacks} (h : k' ≠ k) :
    (s.setClientData k clients).HasClient k' p ↔ s.HasClient k' p := by
  have hsame : (s.setClientData k clients).mClientData k' = s.mClientData k' := by
    unfold setClientData
    exact Function.update_of_ne h _ _
  unfold HasClient
  rw [hsame]

/-- The clients of one adapter do not matter to the others. -/
theorem frame_setClientData {clients : OrdMap ℕ EventCallbacks} (h : e.owner ≠ k) :
    ((s.setClientData k clients).Needs conf e ↔ s.Needs conf e) ∧
      ((s.setClientData k clients).Allows conf e ↔ s.Allows conf e) := by
  cases e with
  | REQUEST_LOCATION_SERVER | REQUEST_WIFI | BATCH_FULL => exact ⟨.rfl, .rfl⟩
  | GNSS_MEASUREMENT =>
    exact ⟨hasClient_setClientData h, or_congr_left (hasClient_setClientData h)⟩
  | GNSS_NHZ_MEASUREMENT_REPORT | GNSS_SV_POLYNOMIAL_REPORT | REPORT_UNPROPAGATED_POSITION
  | GNSS_SV_EPHEMERIS_REPORT | EVENT_REPORT_INFO | LOC_SYSTEM_INFO | REQUEST_NI_NOTIFY_VERIFY =>
    exact ⟨hasClient_setClientData h, .rfl⟩
  | _ => exact ⟨hasClient_setClientData h, hasClient_setClientData h⟩

/-- The mask of an adapter after `updateClientsEventMask` is right, whatever it was before. -/
theorem Masks.setClientData (h : s.Masks conf) (k : LocationAdapterType)
    (clients : OrdMap ℕ EventCallbacks) :
    ((s.setClientData k clients).updateClientsEventMask conf k).Masks conf := by
  set s' := s.setClientData k clients
  have hmask : (s'.updateClientsEventMask conf k).events.mEvtMask =
      Function.update s.events.mEvtMask k (s'.clientsMask conf k) := rfl
  refine ⟨fun e hneeds => ?_, fun k' i hbit => ?_, h.agps, h.odcpi⟩
  · rw [hmask]
    by_cases hk : e.owner = k
    · rw [hk, Function.update_self, getLsbD_clientsMask]
      have hreq := requested_of_needs (s := s') hneeds
      rw [hk] at hreq
      exact ⟨e, hreq, (e.getLsbD_bit e.index).2 (.inl rfl)⟩
    · rw [Function.update_of_ne hk]
      exact h.needed e ((frame_setClientData hk).1.1 hneeds)
  · rw [hmask] at hbit
    by_cases hk : k' = k
    · rw [hk, Function.update_self, getLsbD_clientsMask] at hbit
      obtain ⟨e, hreq, hbit⟩ := hbit
      obtain ⟨howner, hallows⟩ := allows_of_requested (s := s') h.agps h.odcpi hreq
      exact ⟨e, howner.trans hk.symm, hallows, hbit⟩
    · rw [Function.update_of_ne hk] at hbit
      obtain ⟨e, howner, hallows, hbit⟩ := h.allowed k' i hbit
      exact ⟨e, howner, (frame_setClientData (howner ▸ hk)).2.2 hallows, hbit⟩

/-- Nothing changes that a mask is made from, or a mask that is still right is left as it was. -/
theorem Masks.congr (h : s.Masks conf) (hmask : s'.events.mEvtMask = s.events.mEvtMask)
    (hneeds : ∀ e, s'.Needs conf e → s.Needs conf e)
    (hallows : ∀ e, s.Allows conf e → s'.Allows conf e)
    (hagps : s'.isRegistered = true → s'.agpsInit = true)
    (hodcpi : s'.mOdcpiRequestCb = true → s'.odcpiInit = true) : s'.Masks conf := by
  refine ⟨fun e he => ?_, fun k i hbit => ?_, hagps, hodcpi⟩
  · rw [hmask]
    exact h.needed e (hneeds e he)
  · rw [hmask] at hbit
    obtain ⟨e, howner, he, hbit⟩ := h.allowed k i hbit
    exact ⟨e, howner, hallows e he, hbit⟩

/-- One event is added to the mask of its adapter. -/
theorem Masks.enable (h : s.Masks conf) (e₀ : LocApiAdapterEvent)
    (hmask : s'.events.mEvtMask = Function.update s.events.mEvtMask e₀.owner
      (s.events.mEvtMask e₀.owner ||| e₀.bit))
    (hneeds : ∀ e, e ≠ e₀ → s'.Needs conf e → s.Needs conf e)
    (hallows : ∀ e, s.Allows conf e → s'.Allows conf e) (he₀ : s'.Allows conf e₀)
    (hagps : s'.isRegistered = true → s'.agpsInit = true)
    (hodcpi : s'.mOdcpiRequestCb = true → s'.odcpiInit = true) : s'.Masks conf := by
  have hgrow (k : LocationAdapterType) (i : ℕ) : (s'.events.mEvtMask k).getLsbD i = true ↔
      (s.events.mEvtMask k).getLsbD i = true ∨ k = e₀.owner ∧ e₀.bit.getLsbD i = true := by
    rw [hmask]
    by_cases hk : k = e₀.owner
    · rw [hk, Function.update_self, BitVec.getLsbD_or, Bool.or_eq_true]
      simp only [true_and]
    · rw [Function.update_of_ne hk]
      simp only [hk, false_and, or_false]
  refine ⟨fun e he => ?_, fun k i hbit => ?_, hagps, hodcpi⟩
  · rw [hgrow]
    by_cases heq : e = e₀
    · subst heq
      exact .inr ⟨rfl, (e.getLsbD_bit e.index).2 (.inl rfl)⟩
    · exact .inl (h.needed e (hneeds e heq he))
  · rcases (hgrow k i).1 hbit with hbit | ⟨hk, hbit⟩
    · obtain ⟨e, howner, he, hbit⟩ := h.allowed k i hbit
      exact ⟨e, howner, hallows e he, hbit⟩
    · exact ⟨e₀, hk.symm, he₀, hbit⟩

theorem Masks.initOdcpi (h : s.Masks conf) (callback : Bool) : (s.initOdcpi callback).Masks conf := by
  refine h.enable .REQUEST_WIFI rfl (fun e hne he => ?_) (fun e he => ?_) rfl h.agps fun _ => rfl
  · cases e with
    | REQUEST_WIFI => exact absurd rfl hne
    | _ => exact he
  · cases e with
    | REQUEST_WIFI => rfl
    | _ => exact he

theorem Masks.initAgps (h : s.Masks conf) (atlType : AGpsTypeMask) (uninit : AgpsNif → LocApnTypeMask) :
    (s.initAgps conf atlType uninit).Masks conf := by
  unfold ClientEvents.initAgps
  split_ifs with hcapable
  · refine h.enable .REQUEST_LOCATION_SERVER rfl (fun e hne he => ?_) (fun e he => ?_) rfl
      (fun _ => rfl) h.odcpi
    · cases e with
      | REQUEST_LOCATION_SERVER => exact absurd rfl hne
      | _ => exact he
    · cases e with
      | REQUEST_LOCATION_SERVER => rfl
      | _ => exact he
  · exact h

/-- The NMEA types come with a client that wants them, or without one. -/
theorem Masks.setConfig (h : s.Masks conf) (mask : BitVec 32) : (s.setConfig mask).Masks conf := by
  have hneeds (e : LocApiAdapterEvent) (hne : e ≠ .REPORT_NMEA_1HZ)
      (he : ({ s with mNmeaMask := mask } : ClientEvents).Needs conf e) : s.Needs conf e := by
    cases e with
    | REPORT_NMEA_1HZ => exact absurd rfl hne
    | _ => exact he
  have hallows (e : LocApiAdapterEvent) (he : s.Allows conf e) :
      ({ s with mNmeaMask := mask } : ClientEvents).Allows conf e := by
    cases e <;> exact he
  unfold ClientEvents.setConfig
  dsimp only
  by_cases hmask : s.mNmeaMask ≠ mask
  · rw [if_pos hmask]
    by_cases hon : mask ≠ 0 ∧ (s.mClientData .GNSS).values.any (·.gnssNmeaCb) = true
    · rw [if_pos hon]
      obtain ⟨cbs, hcbs, hnmea⟩ := List.any_eq_true.1 hon.2
      obtain ⟨client, hclient⟩ := OrdMap.mem_values.1 hcbs
      exact h.enable .REPORT_NMEA_1HZ rfl (fun e hne he => hneeds e hne he) hallows
        ⟨client, cbs, OrdMap.find_eq_some.2 hclient, .inr hnmea⟩ h.agps h.odcpi
    · rw [if_neg hon]
      refine h.congr rfl (fun e he => ?_) hallows h.agps h.odcpi
      by_cases hne : e = .REPORT_NMEA_1HZ
      · subst hne
        obtain ⟨client, cbs, hfind, hdata | ⟨hzero, hnmea⟩⟩ := he
        · exact ⟨client, cbs, hfind, .inl hdata⟩
        · refine absurd ⟨hzero, List.any_eq_true.2 ⟨cbs, ?_, hnmea⟩⟩ hon
          exact OrdMap.mem_values.2 ⟨client, OrdMap.find_eq_some.1 hfind⟩
      · exact hneeds e hne he
  · rw [if_neg hmask]
    exact h

/-- The sessions of `BatchingAdapter` add and remove one bit. -/
theorem Masks.updateBatchFull (h : s.Masks conf) (enabled : Bool) :
    (s.updateBatchFull enabled).Masks conf := by
  cases enabled with
  | true => exact h.enable .BATCH_FULL rfl (fun _ _ he => he) (fun _ he => he) trivial h.agps h.odcpi
  | false =>
    have hmask : (s.updateBatchFull false).events.mEvtMask = Function.update s.events.mEvtMask .BATCHING
        (s.events.mEvtMask .BATCHING &&& ~~~LocApiAdapterEvent.bit .BATCH_FULL) := rfl
    have hbit (i : ℕ) : (LocApiAdapterEvent.bit .BATCH_FULL).getLsbD i = true ↔ i = 19 := by
      rw [LocApiAdapterEvent.getLsbD_bit]
      exact or_iff_left nofun
    have hshrink (k : LocationAdapterType) (i : ℕ) :
        ((s.updateBatchFull false).events.mEvtMask k).getLsbD i = true ↔
          (s.events.mEvtMask k).getLsbD i = true ∧ ¬ (k = .BATCHING ∧ i = 19) := by
      rw [hmask]
      by_cases hk : k = .BATCHING
      · subst hk
        rw [Function.update_self, BitVec.getLsbD_and, BitVec.getLsbD_not, Bool.and_eq_true,
          Bool.and_eq_true, Bool.not_eq_true', ← Bool.not_eq_true, hbit]
        simp only [decide_eq_true_eq, true_and]
        refine and_congr_right fun hset => and_iff_right ?_
        exact BitVec.lt_of_getLsbD hset
      · rw [Function.update_of_ne hk]
        simp only [hk, false_and, not_false_eq_true, and_true]
    refine ⟨fun e he => ?_, fun k i hbit => ?_, h.agps, h.odcpi⟩
    · refine (hshrink e.owner e.index).2 ⟨h.needed e he, fun ⟨_, hi⟩ => ?_⟩
      cases e <;> first | exact he | cases hi
    · exact h.allowed k i ((hshrink k i).1 hbit).1

/-! ### Runs -/

/-- What holds between two events. -/
structure Inv (conf : EventConf) (order : List LocationAdapterType) (s : ClientEvents) : Prop where
  masks : s.Masks conf
  events : s.events.Inv conf.mExcludedMask order
  /-- An adapter that has not been made asks for nothing. -/
  absent : ∀ k, k ∉ order → s.events.mEvtMask k = 0

variable {order : List LocationAdapterType}

/-- A message to an adapter that has been made. -/
theorem Inv.onAdapter (h : s.Inv conf order) (hk : s.onAdapter k s₁ = some s') (hmasks : s₁.Masks conf)
    (hevents : s₁.events.Inv conf.mExcludedMask order)
    (hothers : ∀ k', k' ≠ k → s₁.events.mEvtMask k' = s.events.mEvtMask k') : s'.Inv conf order := by
  obtain ⟨hreg, hs'⟩ := Option.ite_none_right_eq_some.1 hk
  obtain rfl := Option.some.inj hs'
  refine ⟨hmasks, hevents, fun k' hk' => ?_⟩
  have hne : k' ≠ k := by
    rintro rfl
    exact hk' ((LocApiEvents.registered_iff h.events.packed).1 hreg)
  rw [hothers k' hne]
  exact h.absent k' hk'

/-- The message changes at most the mask of the adapter, and tells the API. -/
theorem Inv.updateEvtMask (h : s.Inv conf order)
    (hevents : ∃ event status, s₁.events = s.events.updateEvtMask k event status)
    (hk : s.onAdapter k s₁ = some s') (hmasks : s₁.Masks conf) : s'.Inv conf order := by
  obtain ⟨event, status, hevents⟩ := hevents
  refine h.onAdapter hk hmasks ?_ fun k' hk' => ?_
  · rw [hevents]
    exact h.events.updateEvtMask k event status
  · rw [hevents]
    exact LocApiEvents.mEvtMask_updateEvtMask_of_ne hk' event status

/-- The message does not change what the API knows of the adapters. -/
theorem Inv.same (h : s.Inv conf order) (hk : s.onAdapter k s₁ = some s')
    (hevents : s₁.events = s.events) (hmasks : s₁.Masks conf) : s'.Inv conf order :=
  h.onAdapter hk hmasks (hevents ▸ h.events) fun k' _ => congrArg (·.mEvtMask k') hevents

/-- An event of the API that leaves the masks alone. -/
theorem Inv.apiEvent {order' : List LocationAdapterType} {events : LocApiEvents LocationAdapterType}
    (h : s.Inv conf order) (hmask : events.mEvtMask = s.events.mEvtMask) (hsub : order ⊆ order')
    (hevents : events.Inv conf.mExcludedMask order') :
    ({ s with events } : ClientEvents).Inv conf order' :=
  ⟨h.masks.congr hmask (fun e he => by cases e <;> exact he) (fun e he => by cases e <;> exact he)
      h.masks.agps h.masks.odcpi,
    hevents, fun k hk => (congrFun hmask k).trans (h.absent k fun hmem => hk (hsub hmem))⟩

theorem Inv.step {e : ClientsEvent} (h : s.Inv conf order) (hstep : s.step conf e = some s') :
    ∃ order', s'.Inv conf order' := by
  cases e with
  | create k =>
    obtain ⟨events, hevents, rfl⟩ := Option.map_eq_some_iff.1 hstep
    obtain ⟨hnew, hcreate⟩ := Option.ite_none_left_eq_some.1 hevents
    obtain rfl := Option.some.inj hcreate
    have hmem : k ∉ order := fun hmem => hnew ((LocApiEvents.registered_iff h.events.packed).2 hmem)
    obtain ⟨order', hsub, hinv⟩ := h.events.create hmem 0
    refine ⟨order', h.apiEvent ?_ hsub hinv⟩
    have hzero := h.absent k hmem
    exact Function.update_eq_self_iff.2 hzero.symm
  | saveClient k client callbacks =>
    exact ⟨order, h.updateEvtMask ⟨_, .SET, rfl⟩ hstep (h.masks.setClientData k _)⟩
  | eraseClient k client =>
    exact ⟨order, h.updateEvtMask ⟨_, .SET, rfl⟩ hstep (h.masks.setClientData k _)⟩
  | setConfig mask =>
    have hmasks := h.masks.setConfig mask
    refine ⟨order, ?_⟩
    by_cases hchange : s.mNmeaMask ≠ mask ∧ mask ≠ 0 ∧
        (s.mClientData .GNSS).values.any (·.gnssNmeaCb) = true
    · refine h.updateEvtMask ⟨LocApiAdapterEvent.bit .REPORT_NMEA_1HZ, .ENABLED, ?_⟩ hstep hmasks
      unfold ClientEvents.setConfig
      dsimp only
      rw [if_pos hchange.1, if_pos hchange.2]
      rfl
    · refine h.same hstep ?_ hmasks
      unfold ClientEvents.setConfig
      dsimp only
      split_ifs with hne hon
      · exact absurd ⟨hne, hon⟩ hchange
      · rfl
      · rfl
  | initOdcpi callback =>
    exact ⟨order, h.updateEvtMask ⟨_, .ENABLED, rfl⟩ hstep (h.masks.initOdcpi callback)⟩
  | initAgps atlType uninit =>
    have hmasks := h.masks.initAgps atlType uninit
    refine ⟨order, ?_⟩
    by_cases hcapable : conf.agpsCapable = true
    · refine h.updateEvtMask ⟨LocApiAdapterEvent.bit .REQUEST_LOCATION_SERVER, .ENABLED, ?_⟩ hstep
        hmasks
      unfold ClientEvents.initAgps
      rw [if_pos hcapable]
      rfl
    · refine h.same hstep ?_ hmasks
      unfold ClientEvents.initAgps
      rw [if_neg hcapable]
  | batchingSessions count =>
    have hmasks : ({ s with autoReportBatchingSessionsCount := count } : ClientEvents).Masks conf :=
      h.masks.congr rfl (fun e he => by cases e <;> exact he) (fun e he => by cases e <;> exact he)
        h.masks.agps h.masks.odcpi
    exact ⟨order, h.same hstep rfl hmasks⟩
  | updateBatchFull enabled =>
    exact ⟨order, h.updateEvtMask ⟨_, _, rfl⟩ hstep (h.masks.updateBatchFull enabled)⟩
  | handleEngineDownEvent =>
    obtain rfl := Option.some.inj hstep
    exact ⟨order, h.apiEvent rfl (List.Subset.refl order) h.events.handleEngineDownEvent⟩
  | process =>
    obtain ⟨events, hevents, rfl⟩ := Option.map_eq_some_iff.1 hstep
    unfold LocApiEvents.step at hevents
    cases hqueue : s.events.queue with
    | nil =>
      rw [hqueue] at hevents
      cases hevents
    | cons msg queue =>
      rw [hqueue] at hevents
      obtain rfl := Option.some.inj hevents
      exact ⟨order, h.apiEvent (LocApiEvents.mEvtMask_proc msg) (List.Subset.refl order)
        (h.events.proc hqueue)⟩

theorem inv_init (conf : EventConf) (useEmergencyPdn : Bool) :
    (init useEmergencyPdn).Inv conf [] := by
  have hclient (k : LocationAdapterType) (p : EventCallbacks → Prop) :
      ¬ (init useEmergencyPdn).HasClient k p := fun ⟨_, _, hfind, _⟩ => nomatch hfind
  refine ⟨⟨fun e he => ?_, fun k i hbit => ?_, nofun, nofun⟩, LocApiEvents.inv_init, fun _ _ => rfl⟩
  · cases e with
    | REQUEST_LOCATION_SERVER | REQUEST_WIFI => cases he
    | BATCH_FULL => exact he.elim
    | _ => exact absurd he (hclient _ _)
  · have hzero : (init useEmergencyPdn).events.mEvtMask k = 0 := rfl
    rw [hzero, BitVec.ofNat_eq_ofNat, BitVec.getLsbD_zero] at hbit
    cases hbit

theorem inv_of_run {useEmergencyPdn : Bool} {es : List ClientsEvent}
    (h : (system conf useEmergencyPdn).Run System.Free es s) : ∃ order, s.Inv conf order :=
  h.invariant (I := fun s => ∃ order, s.Inv conf order) ⟨[], inv_init conf useEmergencyPdn⟩
    fun _ _ _ ⟨_, hinv⟩ _ hstep => hinv.step hstep

/-- The mask of all adapters has the bits of each of them. -/
theorem getLsbD_foldr_or (order : List LocationAdapterType) (evtMask : LocationAdapterType → BitVec 64)
    (i : ℕ) : (order.foldr (fun k mask => evtMask k ||| mask) 0).getLsbD i = true ↔
      ∃ k ∈ order, (evtMask k).getLsbD i = true := by
  induction order with
  | nil =>
    simp only [List.foldr_nil, BitVec.ofNat_eq_ofNat, BitVec.getLsbD_zero, Bool.false_eq_true,
      List.not_mem_nil, false_and, exists_false]
  | cons k order ih =>
    rw [List.foldr_cons, BitVec.getLsbD_or, Bool.or_eq_true, ih]
    simp only [List.mem_cons, exists_eq_or_imp]

/-- What the API should be opened for serves the clients. -/
theorem Inv.served (h : s.Inv conf order) : s.Served conf (s.events.getEvtMask conf.mExcludedMask) := by
  rw [LocApiEvents.getEvtMask_eq h.events.packed]
  constructor
  · intro e he hexcl
    have hbit := h.masks.needed e he
    have hmem : e.owner ∈ order := by
      by_contra hmem
      rw [h.absent _ hmem] at hbit
      simp only [BitVec.ofNat_eq_ofNat, BitVec.getLsbD_zero, Bool.false_eq_true] at hbit
    rw [BitVec.getLsbD_and, BitVec.getLsbD_not, hexcl, (getLsbD_foldr_or ..).2 ⟨_, hmem, hbit⟩]
    simp only [BitVec.lt_of_getLsbD hbit, decide_true, Bool.not_false, Bool.and_self]
  · intro i hi
    rw [BitVec.getLsbD_and, BitVec.getLsbD_not, Bool.and_eq_true, Bool.and_eq_true,
      Bool.not_eq_true'] at hi
    obtain ⟨hi, -, hexcl⟩ := hi
    obtain ⟨k, -, hbit⟩ := (getLsbD_foldr_or ..).1 hi
    obtain ⟨e, -, he, hbit⟩ := h.masks.allowed k i hbit
    refine ⟨hexcl, ?_⟩
    rcases (e.getLsbD_bit i).1 hbit with rfl | ⟨rfl, hle, -⟩
    · exact .inl ⟨e, rfl, he⟩
    · exact .inr ⟨hle, he⟩

/-- The messages to the thread of the API are taken without the adapters. -/
theorem foldlM_process (n : ℕ) (s : ClientEvents) :
    (List.replicate n ClientsEvent.process).foldlM (step conf) s =
      ((List.replicate n ApiEvent.process).foldlM (LocApiEvents.step conf.mExcludedMask) s.events).map
        fun events => { s with events } := by
  induction n generalizing s with
  | zero => rfl
  | succ n ih =>
    have hstep : s.step conf .process =
        (s.events.step conf.mExcludedMask .process).map fun events => { s with events } := rfl
    rw [List.replicate_succ, List.replicate_succ, List.foldlM_cons, List.foldlM_cons, hstep]
    cases s.events.step conf.mExcludedMask .process with
    | none => rfl
    | some events => exact ih { s with events }

/-- **The clients are served.**  After any registrations, configurations and restarts of the engine the
thread of the API can empty its queue without anything else changing, and whenever its queue is empty
the API is open for the events that are needed and for none that are not allowed. -/
theorem served_of_run {useEmergencyPdn : Bool} {es : List ClientsEvent}
    (h : (system conf useEmergencyPdn).Run System.Free es s) :
    (∃ events, events.queue = [] ∧
      (List.replicate s.events.queue.length ClientsEvent.process).foldlM (step conf) s =
        some { s with events }) ∧
    (s.events.queue = [] → s.Served conf (s.events.opened.getD 0)) := by
  obtain ⟨order, hinv⟩ := inv_of_run h
  constructor
  · obtain ⟨events, hevents, hqueue, -, -⟩ :=
      LocApiEvents.drain conf.mExcludedMask s.events
    refine ⟨events, hqueue, ?_⟩
    rw [foldlM_process, hevents]
    rfl
  · intro hqueue
    rw [(hinv.events.current hqueue).mask]
    exact hinv.served

/-- A client with batching callbacks and one with NMEA callbacks, before the engine comes up, with
NMEA reports excluded by the API. -/
def eventConf : EventConf := ⟨false, true, LocApiAdapterEvent.bit .REPORT_NMEA_1HZ⟩

def nmeaCallbacks : EventCallbacks :=
  ⟨⟨true, true, true, true, false, false, false, false, false, false, false⟩, true, true, false⟩

def batchingCallbacks : EventCallbacks :=
  ⟨⟨true, true, true, false, true, false, false, false, false, false, false⟩, false, false, false⟩

def clientRun : List ClientsEvent :=
  [.create .GNSS, .saveClient .GNSS 1 nmeaCallbacks, .create .BATCHING, .process,
    .saveClient .BATCHING 1 batchingCallbacks, .setConfig 3, .handleEngineDownEvent, .process, .process,
    .eraseClient .BATCHING 1, .process, .process, .process, .process]

theorem served_of_run_two : ∃ s, clientRun.foldlM (step eventConf) (init true) = some s ∧
    s.events.queue = [] ∧ s.Served eventConf (s.events.opened.getD 0) := by
  have hrun : ∃ s, clientRun.foldlM (step eventConf) (init true) = some s ∧ s.events.queue = [] :=
    ⟨_, rfl, rfl⟩
  obtain ⟨s, hs, hqueue⟩ := hrun
  exact ⟨s, hs, hqueue, (served_of_run (System.run_foldlM hs)).2 hqueue⟩

end ClientEvents

end GpsHal
