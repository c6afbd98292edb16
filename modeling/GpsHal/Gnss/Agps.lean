import GpsHal.Transition.Basic
import Mathlib.Data.Int.Notation
import Mathlib.Data.List.Basic

/-!
# `AgpsStateMachine` : data connections for assisted GPS

A state machine holds one data connection for the modem's ATL requests (`gnss/Agps.cpp`).  The
requests are subscribers, told apart by a connection handle; the framework opens and closes the
connection when it is told to.  This file is the translation of the state machine and of
`AgpsManager`, which owns two of them.

Everything a machine sends is recorded in its `trace`, together with the events it processed and
the state it processed them in, as `processAgpsEvent` logs them.

`deleteSubscriber` goes on comparing the rest of the list with the subscriber it has just deleted.
What it reads there is a parameter `freed` of the event, the value read when the comparison is
made with a given subscriber.

## Main definitions

* `AgpsStateMachine.apply` : one event of a machine, as its manager hands it over.
* `AgpsManager.apply` : the calls of the manager.
* `AgpsManager.apply_machines` : each call is at most one event of one machine.
-/

namespace GpsHal

/-! ### Types -/

/-- `AGpsExtType`, an `int8_t`. -/
abbrev AGpsExtType := ℤ

def LOC_AGPS_TYPE_INVALID : AGpsExtType := -1
def LOC_AGPS_TYPE_SUPL : AGpsExtType := 1
def LOC_AGPS_TYPE_WWAN_ANY : AGpsExtType := 3
def LOC_AGPS_TYPE_SUPL_ES : AGpsExtType := 5

abbrev LocApnTypeMask := BitVec 32

def LOC_APN_TYPE_MASK_SUPL : LocApnTypeMask := 0x10#32
def LOC_APN_TYPE_MASK_EMERGENCY : LocApnTypeMask := 0x200#32

def MAX_APN_LEN : ℕ := 100

/-- `AGpsTypeMask` -/
abbrev AGpsTypeMask := BitVec 32

def AGPS_ATL_TYPE_SUPL : AGpsTypeMask := 1#32
def AGPS_ATL_TYPE_SUPL_ES : AGpsTypeMask := 2#32
def AGPS_ATL_TYPE_WWAN : AGpsTypeMask := 4#32

inductive AgpsState where
  | invalid | released | pending | acquired | releasing
  deriving DecidableEq, Repr

inductive AgpsEvent where
  | subscribe | unsubscribe | granted | released | denied
  deriving DecidableEq, Repr

inductive AgpsNotificationType where
  | forAllSubscribers | forInactiveSubscribers | forActiveSubscribers
  deriving DecidableEq, Repr

structure AgpsSubscriber where
  mConnHandle : ℤ
  mWaitForCloseComplete : Bool
  mIsInactive : Bool
  mApnTypeMask : LocApnTypeMask
  deriving DecidableEq, Repr

/-- What a state machine does that can be seen from outside. -/
inductive AgpsTrace where
  /-- `LOC_GPS_REQUEST_AGPS_DATA_CONN` is sent to the framework. -/
  | requestDataConn (type : AGpsExtType) (apnTypeMask : LocApnTypeMask)
  /-- `LOC_GPS_RELEASE_AGPS_DATA_CONN` is sent to the framework. -/
  | releaseDataConn (type : AGpsExtType) (apnTypeMask : LocApnTypeMask)
  /-- `mAtlOpenStatusCb` -/
  | atlOpenStatus (handle : ℤ) (isSuccess : Bool) (apn : Option (List UInt8)) (apnLen : ℕ)
      (bearerType : ℤ) (agpsType : AGpsExtType) (mask : LocApnTypeMask)
  /-- `mAtlCloseStatusCb` -/
  | atlCloseStatus (handle : ℤ) (isSuccess : Bool)
  /-- The event is processed in the state. -/
  | processAgpsEvent (event : AgpsEvent) (state : AgpsState)
  deriving DecidableEq, Repr

structure AgpsStateMachine where
  mSubscriberList : List AgpsSubscriber
  mState : AgpsState
  mAgpsType : AGpsExtType
  mApnTypeMask : LocApnTypeMask
  mAPN : Option (List UInt8)
  mAPNLen : ℕ
  mBearer : ℤ
  /-- Everything that could be seen so far, oldest first. -/
  trace : List AgpsTrace
  deriving DecidableEq, Repr

/-! ### Subscribers -/

namespace AgpsSubscriber

def equals (x y : AgpsSubscriber) : Bool := x.mConnHandle == y.mConnHandle

/-- The entry is active: it does not wait for the connection to close. -/
abbrev Active (x : AgpsSubscriber) : Prop := x.mIsInactive = false

end AgpsSubscriber

/-- The subscribers that a notification is meant for. -/
def AgpsNotificationType.addresses (type : AgpsNotificationType) (x : AgpsSubscriber) : Bool :=
  match type with
  | forAllSubscribers => true
  | forInactiveSubscribers => x.mIsInactive
  | forActiveSubscribers => !x.mIsInactive

namespace AgpsStateMachine

/-- The constructor; `mApnTypeMask` is not initialised. -/
def new (agpsType : AGpsExtType) (apnTypeMask : LocApnTypeMask) : AgpsStateMachine :=
  ⟨[], .released, agpsType, apnTypeMask, none, 0, 0, []⟩

/-- `setAPN` : the name is a C string, so its bytes are those `strlen` counts. -/
def setAPN (m : AgpsStateMachine) (apn : Option (List UInt8)) (len : ℕ) : AgpsStateMachine :=
  match apn with
  | none => { m with mAPN := none, mAPNLen := 0 }
  | some s =>
    if len = 0 ∨ MAX_APN_LEN < len ∨ s.length ≠ len then { m with mAPN := none, mAPNLen := 0 }
    else { m with mAPN := some s, mAPNLen := len }

def transitionState (m : AgpsStateMachine) (newState : AgpsState) : AgpsStateMachine :=
  { m with mState := newState }

def getSubscriber (m : AgpsStateMachine) (connHandle : ℤ) : Option AgpsSubscriber :=
  m.mSubscriberList.find? fun x => x.mConnHandle == connHandle

def addSubscriber (m : AgpsStateMachine) (subscriberToAdd : AgpsSubscriber) : AgpsStateMachine :=
  if m.mSubscriberList.any fun x => x.equals subscriberToAdd then m
  else { m with mSubscriberList := m.mSubscriberList ++ [subscriberToAdd] }

/-- `deleteSubscriber` for a pointer to the first entry with the handle: that entry goes, and after
it those that compare equal to what is read from it then. -/
def deleteFrom (freed : AgpsSubscriber → ℤ) (connHandle : ℤ) :
    List AgpsSubscriber → List AgpsSubscriber
  | [] => []
  | x :: it =>
    if x.mConnHandle = connHandle then it.filter fun y => y.mConnHandle ≠ freed y
    else x :: deleteFrom freed connHandle it

/-- `mCurrentSubscriber->mIsInactive = true` for a pointer to the first entry with the handle. -/
def setInactive (connHandle : ℤ) : List AgpsSubscriber → List AgpsSubscriber
  | [] => []
  | x :: it =>
    if x.mConnHandle = connHandle then { x with mIsInactive := true } :: it
    else x :: setInactive connHandle it

def anyActiveSubscribers (m : AgpsStateMachine) : Bool :=
  m.mSubscriberList.any fun x => !x.mIsInactive

def dropAllSubscribers (m : AgpsStateMachine) : AgpsStateMachine := { m with mSubscriberList := [] }

/-! ### Notifications -/

def requestOrReleaseDataConn (m : AgpsStateMachine) (request : Bool) : AgpsStateMachine :=
  { m with trace := m.trace ++
      [if request = true then .requestDataConn m.mAgpsType m.mApnTypeMask
        else .releaseDataConn m.mAgpsType m.mApnTypeMask] }

/-- The callback that tells a subscriber of an event. -/
def notification (m : AgpsStateMachine) (event : AgpsEvent) (x : AgpsSubscriber) :
    List AgpsTrace :=
  match event with
  | .granted => [.atlOpenStatus x.mConnHandle true m.mAPN m.mAPNLen m.mBearer m.mAgpsType
      m.mApnTypeMask]
  | .denied => [.atlOpenStatus x.mConnHandle false m.mAPN m.mAPNLen m.mBearer m.mAgpsType
      m.mApnTypeMask]
  | .unsubscribe | .released => [.atlCloseStatus x.mConnHandle true]
  | .subscribe => []

/-- `notifyEventToSubscriber` without deletion. -/
def notifyEventToSubscriber (m : AgpsStateMachine) (event : AgpsEvent) (x : AgpsSubscriber) :
    AgpsStateMachine :=
  { m with trace := m.trace ++ m.notification event x }

/-- `notifyEventToSubscriber` with deletion, for an entry of the list. -/
def notifyAndDelete (m : AgpsStateMachine) (event : AgpsEvent) (x : AgpsSubscriber)
    (freed : AgpsSubscriber → ℤ) : AgpsStateMachine :=
  { m.notifyEventToSubscriber event x with
    mSubscriberList := deleteFrom freed x.mConnHandle m.mSubscriberList }

/-- The traversal of `notifyAllSubscribers` : what is left of the list and what is sent. -/
def notifyLoop (m : AgpsStateMachine) (event : AgpsEvent) (deletePostNotify : Bool)
    (type : AgpsNotificationType) : List AgpsSubscriber → List AgpsSubscriber × List AgpsTrace
  | [] => ([], [])
  | x :: it =>
    let rest := notifyLoop m event deletePostNotify type it
    if type.addresses x = true then
      (if deletePostNotify = true then rest.1 else x :: rest.1, m.notification event x ++ rest.2)
    else (x :: rest.1, rest.2)

def notifyAllSubscribers (m : AgpsStateMachine) (event : AgpsEvent) (deletePostNotify : Bool)
    (type : AgpsNotificationType) : AgpsStateMachine :=
  let visited := m.notifyLoop event deletePostNotify type m.mSubscriberList
  { m with mSubscriberList := visited.1, trace := m.trace ++ visited.2 }

/-! ### Processing the events -/

def processAgpsEventSubscribe (m : AgpsStateMachine) (current : AgpsSubscriber) :
    AgpsStateMachine :=
  match m.mState with
  | .released =>
    ((m.addSubscriber current).requestOrReleaseDataConn true).transitionState .pending
  | .pending => m.addSubscriber current
  | .acquired => (m.notifyEventToSubscriber .granted current).addSubscriber current
  | .releasing => m.addSubscriber current
  | .invalid => m

/-- The first part of an unsubscription: the subscriber becomes inactive when it waits for the
connection to close, and is notified and deleted when it does not. -/
def leaveOrWait (m : AgpsStateMachine) (current : AgpsSubscriber)
    (freed : AgpsSubscriber → ℤ) : AgpsStateMachine :=
  if current.mWaitForCloseComplete = true then
    { m with mSubscriberList := setInactive current.mConnHandle m.mSubscriberList }
  else m.notifyAndDelete .unsubscribe current freed

/-- `current` is an entry of the list. -/
def processAgpsEventUnsubscribe (m : AgpsStateMachine) (current : AgpsSubscriber)
    (freed : AgpsSubscriber → ℤ) : AgpsStateMachine :=
  match m.mState with
  | .released => m.notifyEventToSubscriber .unsubscribe current
  | .pending | .acquired =>
    let m := m.leaveOrWait current freed
    if m.mSubscriberList.isEmpty = true then
      (m.transitionState .released).requestOrReleaseDataConn false
    else if m.anyActiveSubscribers = false then
      (m.transitionState .releasing).requestOrReleaseDataConn false
    else m
  | .releasing =>
    let m := m.leaveOrWait current freed
    if m.mSubscriberList.isEmpty = true then m.transitionState .released else m
  | .invalid => m

def processAgpsEventGranted (m : AgpsStateMachine) : AgpsStateMachine :=
  match m.mState with
  | .released | .acquired | .releasing => m
  | .pending =>
    (m.transitionState .acquired).notifyAllSubscribers .granted false .forActiveSubscribers
  | .invalid => m

/-- The connection is closed: the inactive subscribers hear of it, and the active ones wait for a
new connection. -/
def closeReleasing (m : AgpsStateMachine) : AgpsStateMachine :=
  let m := m.notifyAllSubscribers .released true .forInactiveSubscribers
  if m.anyActiveSubscribers = true then
    (m.transitionState .pending).requestOrReleaseDataConn true
  else m.transitionState .released

def processAgpsEventReleased (m : AgpsStateMachine) : AgpsStateMachine :=
  match m.mState with
  | .released => m
  | .acquired =>
    (m.transitionState .released).notifyAllSubscribers .released true .forAllSubscribers
  | .releasing => m.closeReleasing
  | .pending => m
  | .invalid => m

def processAgpsEventDenied (m : AgpsStateMachine) : AgpsStateMachine :=
  match m.mState with
  | .released => m
  | .acquired => m
  | .releasing => m.closeReleasing
  | .pending =>
    (m.transitionState .released).notifyAllSubscribers .denied true .forAllSubscribers
  | .invalid => m

/-- The log line of `processAgpsEvent`. -/
def logEvent (m : AgpsStateMachine) (event : AgpsEvent) : AgpsStateMachine :=
  { m with trace := m.trace ++ [.processAgpsEvent event m.mState] }

/-! ### What the parts do to the list -/

section Lists

variable {m : AgpsStateMachine} {x y : AgpsSubscriber} {l : List AgpsSubscriber} {h : ℤ}
  {freed : AgpsSubscriber → ℤ} {event : AgpsEvent} {type : AgpsNotificationType}

/-- `addSubscriber` on the list. -/
theorem addSubscriber_list :
    (m.addSubscriber x).mSubscriberList =
      if ∃ y ∈ m.mSubscriberList, y.mConnHandle = x.mConnHandle then m.mSubscriberList
      else m.mSubscriberList ++ [x] := by
  by_cases hx : ∃ y ∈ m.mSubscriberList, y.mConnHandle = x.mConnHandle
  · rw [if_pos hx, addSubscriber, if_pos (by simpa [AgpsSubscriber.equals] using hx)]
  · rw [if_neg hx, addSubscriber, if_neg (by simpa [AgpsSubscriber.equals] using hx)]

theorem addSubscriber_eq :
    m.addSubscriber x = { m with mSubscriberList := (m.addSubscriber x).mSubscriberList } := by
  unfold addSubscriber
  split <;> rfl

theorem notifyLoop_eq (deletePostNotify : Bool) (l : List AgpsSubscriber) :
    m.notifyLoop event deletePostNotify type l =
      (if deletePostNotify = true then l.filter fun x => !type.addresses x else l,
        (l.filter type.addresses).flatMap (m.notification event)) := by
  induction l with
  | nil => cases deletePostNotify <;> rfl
  | cons x l ih =>
    rw [notifyLoop, ih]
    cases hx : type.addresses x <;> cases deletePostNotify <;> simp [hx]

theorem deleteFrom_sublist : (deleteFrom freed h l).Sublist l := by
  induction l with
  | nil => exact .slnil
  | cons x l ih =>
    unfold deleteFrom
    split
    · exact List.filter_sublist.trans (List.sublist_cons_self x l)
    · exact ih.cons_cons x

theorem setInactive_handles :
    (setInactive h l).map (·.mConnHandle) = l.map (·.mConnHandle) := by
  induction l with
  | nil => rfl
  | cons x l ih =>
    unfold setInactive
    split
    · rfl
    · simp [ih]

theorem getSubscriber_some (hx : m.getSubscriber h = some x) :
    x ∈ m.mSubscriberList ∧ x.mConnHandle = h :=
  ⟨List.mem_of_find?_eq_some hx, by simpa using List.find?_some hx⟩

theorem anyActiveSubscribers_iff :
    m.anyActiveSubscribers = true ↔ ∃ x ∈ m.mSubscriberList, x.Active := by
  simp [anyActiveSubscribers]

end Lists

end AgpsStateMachine

/-- What happens to one state machine. -/
inductive AgpsInput where
  /-- Type and mask are set and a new subscriber subscribes. -/
  | subscribe (type : AGpsExtType) (mask : LocApnTypeMask) (connHandle : ℤ) (wait : Bool)
  /-- The listed subscriber with the handle unsubscribes. -/
  | unsubscribe (connHandle : ℤ) (freed : AgpsSubscriber → ℤ)
  /-- Bearer and access point are set and the connection is granted. -/
  | granted (bearerType : ℤ) (apnName : Option (List UInt8)) (apnLen : ℕ)
  | denied
  | released
  | modemSSR

/-- One input of a state machine.  A handle that is not listed never reaches it. -/
def AgpsStateMachine.apply (m : AgpsStateMachine) : AgpsInput → AgpsStateMachine
  | .subscribe type mask connHandle wait =>
    ({ m with mAgpsType := type, mApnTypeMask := mask }.logEvent .subscribe).processAgpsEventSubscribe
      ⟨connHandle, wait, false, mask⟩
  | .unsubscribe connHandle freed =>
    match m.getSubscriber connHandle with
    | none => m
    | some current => (m.logEvent .unsubscribe).processAgpsEventUnsubscribe current freed
  | .granted bearerType apnName apnLen =>
    (({ m with mBearer := bearerType }.setAPN apnName apnLen).logEvent .granted).processAgpsEventGranted
  | .denied => (m.logEvent .denied).processAgpsEventDenied
  | .released => (m.logEvent .released).processAgpsEventReleased
  | .modemSSR => m.dropAllSubscribers

/-- One state machine on its own. -/
def AgpsStateMachine.system (agpsType : AGpsExtType) (apnTypeMask : LocApnTypeMask) :
    System AgpsStateMachine AgpsInput :=
  .ofFun (.new agpsType apnTypeMask) .apply

/-! ### The manager -/

/-- The two state machines of the manager. -/
inductive AgpsNif where
  | agnss | internet
  deriving DecidableEq, Repr

structure AgpsManager where
  mAgnssNif : Option AgpsStateMachine
  mInternetNif : Option AgpsStateMachine
  /-- `USE_EMERGENCY_PDN_FOR_EMERGENCY_SUPL` is not 0 in the configuration. -/
  useEmergencyPdn : Bool
  /-- The callbacks the manager made itself. -/
  trace : List AgpsTrace

/-- The calls of the manager. -/
inductive AgpsCall where
  | requestATL (connHandle : ℤ) (agpsType : AGpsExtType) (apnTypeMask : LocApnTypeMask)
  | releaseATL (connHandle : ℤ) (freed : AgpsSubscriber → ℤ)
  | reportAtlOpenSuccess (agpsType : AGpsExtType) (apnName : Option (List UInt8)) (apnLen : ℕ)
      (bearerType : ℤ)
  | reportAtlOpenFailed (agpsType : AGpsExtType)
  | reportAtlClosed (agpsType : AGpsExtType)
  | handleModemSSR

namespace AgpsManager

def nif (M : AgpsManager) : AgpsNif → Option AgpsStateMachine
  | .agnss => M.mAgnssNif
  | .internet => M.mInternetNif

def setNif (M : AgpsManager) (n : AgpsNif) (sm : AgpsStateMachine) : AgpsManager :=
  match n with
  | .agnss => { M with mAgnssNif := some sm }
  | .internet => { M with mInternetNif := some sm }

theorem nif_setNif (M : AgpsManager) (n n' : AgpsNif) (sm : AgpsStateMachine) :
    (M.setNif n sm).nif n' = if n' = n then some sm else M.nif n' := by
  cases n <;> cases n' <;> rfl

/-- The manager as it is constructed. -/
def new (useEmergencyPdn : Bool) : AgpsManager := ⟨none, none, useEmergencyPdn, []⟩

/-- `createAgpsStateMachines`, with what the uninitialised masks of the new machines are. -/
def createAgpsStateMachines (M : AgpsManager) (atlType : AGpsTypeMask) (agpsCapable : Bool)
    (uninit : AgpsNif → LocApnTypeMask) : AgpsManager :=
  let M := if M.mInternetNif = none ∧ atlType &&& AGPS_ATL_TYPE_WWAN ≠ 0 then
      M.setNif .internet (.new LOC_AGPS_TYPE_WWAN_ANY (uninit .internet))
    else M
  if agpsCapable = true ∧ M.mAgnssNif = none ∧ atlType &&& AGPS_ATL_TYPE_SUPL ≠ 0 ∧
      atlType &&& AGPS_ATL_TYPE_SUPL_ES ≠ 0 then
    M.setNif .agnss (.new LOC_AGPS_TYPE_SUPL (uninit .agnss))
  else M

/-- The switch of `getAgpsStateMachine`. -/
def nifOf (agpsType : AGpsExtType) : AgpsNif :=
  if agpsType = LOC_AGPS_TYPE_INVALID ∨ agpsType = LOC_AGPS_TYPE_SUPL ∨
    agpsType = LOC_AGPS_TYPE_SUPL_ES then .agnss else .internet

def getAgpsStateMachine (M : AgpsManager) (agpsType : AGpsExtType) : Option AgpsStateMachine :=
  M.nif (nifOf agpsType)

/-- Without an emergency PDN an emergency request becomes an ordinary one. -/
def effectiveRequest (M : AgpsManager) (agpsType : AGpsExtType) (apnTypeMask : LocApnTypeMask) :
    AGpsExtType × LocApnTypeMask :=
  if M.useEmergencyPdn = false ∧ agpsType = LOC_AGPS_TYPE_SUPL_ES then
    (LOC_AGPS_TYPE_SUPL, (apnTypeMask &&& ~~~LOC_APN_TYPE_MASK_EMERGENCY) ||| LOC_APN_TYPE_MASK_SUPL)
  else (agpsType, apnTypeMask)

def requestATL (M : AgpsManager) (connHandle : ℤ) (agpsType : AGpsExtType)
    (apnTypeMask : LocApnTypeMask) : AgpsManager :=
  let r := M.effectiveRequest agpsType apnTypeMask
  match M.getAgpsStateMachine r.1 with
  | none =>
    { M with trace := M.trace ++ [.atlOpenStatus connHandle false none 0 0 r.1 r.2] }
  | some sm => M.setNif (nifOf r.1) (sm.apply (.subscribe r.1 r.2 connHandle false))

/-- The search of `releaseATL` for the machine that lists a handle. -/
def holder (M : AgpsManager) (connHandle : ℤ) : Option AgpsNif :=
  let lists (sm : Option AgpsStateMachine) : Bool :=
    sm.any fun sm => (sm.getSubscriber connHandle).isSome
  if lists M.mAgnssNif = true then some .agnss
  else if lists M.mInternetNif = true then some .internet
  else none

def releaseATL (M : AgpsManager) (connHandle : ℤ) (freed : AgpsSubscriber → ℤ) : AgpsManager :=
  match M.holder connHandle with
  | none => M
  | some n =>
    match M.nif n with
    | none => M
    | some sm => M.setNif n (sm.apply (.unsubscribe connHandle freed))

/-- A report of the framework is handed to the machine for its type, which must be there. -/
def report (M : AgpsManager) (agpsType : AGpsExtType) (input : AgpsInput) : Option AgpsManager :=
  (M.getAgpsStateMachine agpsType).map fun sm => M.setNif (nifOf agpsType) (sm.apply input)

def reportAtlOpenSuccess (M : AgpsManager) (agpsType : AGpsExtType)
    (apnName : Option (List UInt8)) (apnLen : ℕ) (bearerType : ℤ) : Option AgpsManager :=
  M.report agpsType (.granted bearerType apnName apnLen)

def reportAtlOpenFailed (M : AgpsManager) (agpsType : AGpsExtType) : Option AgpsManager :=
  M.report agpsType .denied

def reportAtlClosed (M : AgpsManager) (agpsType : AGpsExtType) : Option AgpsManager :=
  M.report agpsType .released

def handleModemSSR (M : AgpsManager) : AgpsManager :=
  { M with
    mAgnssNif := M.mAgnssNif.map fun sm => sm.apply .modemSSR
    mInternetNif := M.mInternetNif.map fun sm => sm.apply .modemSSR }

/-- One call; `none` when it uses a machine that is not there. -/
def apply (M : AgpsManager) : AgpsCall → Option AgpsManager
  | .requestATL h type mask => some (M.requestATL h type mask)
  | .releaseATL h freed => some (M.releaseATL h freed)
  | .reportAtlOpenSuccess type apnName apnLen bearerType =>
    M.reportAtlOpenSuccess type apnName apnLen bearerType
  | .reportAtlOpenFailed type => M.reportAtlOpenFailed type
  | .reportAtlClosed type => M.reportAtlClosed type
  | .handleModemSSR => some M.handleModemSSR

/-- The input that a call is for a machine. -/
def inputFor (M : AgpsManager) (call : AgpsCall) (n : AgpsNif) : Option AgpsInput :=
  match call with
  | .requestATL h type mask =>
    let r := M.effectiveRequest type mask
    if n = nifOf r.1 then some (.subscribe r.1 r.2 h false) else none
  | .releaseATL h freed => if M.holder h = some n then some (.unsubscribe h freed) else none
  | .reportAtlOpenSuccess type apnName apnLen bearerType =>
    if n = nifOf type then some (.granted bearerType apnName apnLen) else none
  | .reportAtlOpenFailed type => if n = nifOf type then some .denied else none
  | .reportAtlClosed type => if n = nifOf type then some .released else none
  | .handleModemSSR => some .modemSSR

/-- The machine after an input that may not be for it. -/
def feed (input : Option AgpsInput) (sm : AgpsStateMachine) : AgpsStateMachine :=
  input.elim sm sm.apply

theorem nif_report {M M' : AgpsManager} {type : AGpsExtType} {input : AgpsInput}
    (h : M.report type input = some M') (n : AgpsNif) :
    M'.nif n = (M.nif n).map (feed (if n = nifOf type then some input else none)) := by
  obtain ⟨sm, hsm, rfl⟩ := Option.map_eq_some_iff.1 h
  rw [nif_setNif]
  split_ifs with hn
  · subst hn
    rw [show M.nif (nifOf type) = some sm from hsm]; rfl
  · cases M.nif n <;> rfl

/-- **Each call is at most one input of each machine.** -/
theorem apply_machines {M M' : AgpsManager} {call : AgpsCall} (h : M.apply call = some M')
    (n : AgpsNif) : M'.nif n = (M.nif n).map (feed (M.inputFor call n)) := by
  cases call with
  | requestATL handle type mask =>
    obtain rfl := Option.some.inj h
    simp only [requestATL, inputFor, getAgpsStateMachine]
    set r := M.effectiveRequest type mask
    cases hsm : M.nif (nifOf r.1) with
    | none =>
      by_cases hn : n = nifOf r.1
      · subst hn
        change M.nif _ = _
        rw [hsm]; rfl
      · rw [if_neg hn]
        change M.nif n = _
        cases M.nif n <;> rfl
    | some sm =>
      simp only [nif_setNif]
      split_ifs with hn
      · rw [hn, hsm]; rfl
      · cases M.nif n <;> rfl
  | releaseATL handle freed =>
    obtain rfl := Option.some.inj h
    simp only [releaseATL, inputFor]
    cases hh : M.holder handle with
    | none => cases M.nif n <;> rfl
    | some k =>
      cases hsm : M.nif k with
      | none =>
        simp only [hsm]
        by_cases hn : k = n
        · subst hn; rw [hsm]; rfl
        · rw [if_neg (by simpa using hn)]; cases M.nif n <;> rfl
      | some sm =>
        simp only [hsm, nif_setNif]
        by_cases hn : n = k
        · subst hn; rw [if_pos rfl, if_pos rfl, hsm]; rfl
        · rw [if_neg hn, if_neg (by simpa using Ne.symm hn)]; cases M.nif n <;> rfl
  | reportAtlOpenSuccess => exact nif_report h n
  | reportAtlOpenFailed => exact nif_report h n
  | reportAtlClosed => exact nif_report h n
  | handleModemSSR =>
    obtain rfl := Option.some.inj h
    cases n <;> rfl

/-- What has to be known of a new manager: its machines are the two that may be created. -/
structure Setup where
  useEmergencyPdn : Bool
  atlType : AGpsTypeMask
  agpsCapable : Bool
  /-- The masks of the machines before they are set. -/
  uninit : AgpsNif → LocApnTypeMask

/-- The manager whose machines have been created. -/
def Setup.manager (u : Setup) : AgpsManager :=
  (new u.useEmergencyPdn).createAgpsStateMachines u.atlType u.agpsCapable u.uninit

/-- The machines of the manager are as they were constructed. -/
def AllNew (M : AgpsManager) : Prop :=
  ∀ n sm, M.nif n = some sm → ∃ type mask, sm = .new type mask

theorem AllNew.setNif {M : AgpsManager} (h : M.AllNew) (n : AgpsNif) (type : AGpsExtType)
    (mask : LocApnTypeMask) : (M.setNif n (.new type mask)).AllNew := by
  intro n' sm hsm
  rw [nif_setNif] at hsm
  split_ifs at hsm
  · exact ⟨type, mask, (Option.some.inj hsm).symm⟩
  · exact h n' sm hsm

theorem Setup.allNew_manager (u : Setup) : u.manager.AllNew := by
  have hnew : (new u.useEmergencyPdn).AllNew := by rintro (_ | _) sm ⟨⟩
  unfold manager createAgpsStateMachines
  dsimp only
  split <;> split
  · exact (hnew.setNif _ _ _).setNif _ _ _
  · exact hnew.setNif _ _ _
  · exact hnew.setNif _ _ _
  · exact hnew

/-- The manager after its machines have been created. -/
def system (u : Setup) : System AgpsManager AgpsCall := .ofPartial u.manager apply

end AgpsManager

end GpsHal
