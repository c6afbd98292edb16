import GpsHal.Gnss.AgpsLifecycle
import GpsHal.Transition.Monitor

/-!
# The framework's view of a data connection

The framework is told to request and to release a data connection.  A request has ended when its
release is sent, when it is denied while it is pending and when the connection is closed while it
is held.  Requests and releases alternate in this sense in every run; but a release carries the
type and the access point mask of the last `requestATL`, which need not be those of the request it
ends.

## Main definitions

* `DataConn.next` : how a connection follows the trace of a state machine.
* `AgpsManager.Alternates`, `AgpsManager.Protocol` : the traces of both machines are followed to
  their ends, without and with a look at the type and the mask of the releases.
* `AgpsManager.Faithful` : the calls after which a release names its request.

## Main result

* `AgpsManager.framework_protocol_iff` : every run alternates, and the protocol holds throughout a
  run exactly when all its calls are faithful.
-/

namespace GpsHal

/-- The connection as the framework knows it: the request that has not ended, if there is one. -/
inductive DataConn where
  | ended
  | requested (type : AGpsExtType) (apnTypeMask : LocApnTypeMask)
  deriving DecidableEq, Repr

namespace DataConn

/-- The connection after one item of the trace; `none` is a breach of the protocol.  With `strict`
a release must name the request it ends. -/
def next (strict : Bool) : DataConn → AgpsTrace → Option DataConn
  | ended, .requestDataConn type mask => some (requested type mask)
  | requested _ _, .requestDataConn _ _ => none
  | ended, .releaseDataConn _ _ => none
  | requested type mask, .releaseDataConn type' mask' =>
    if strict = false ∨ (type' = type ∧ mask' = mask) then some ended else none
  | requested _ _, .processAgpsEvent .denied .pending => some ended
  | requested _ _, .processAgpsEvent .released .acquired => some ended
  | c, _ => some c

/-- The connection after a trace. -/
def follow (strict : Bool) (trace : List AgpsTrace) : Option DataConn :=
  Monitor.follow (next strict) ended trace

/-- A request has not ended. -/
def isOpen : DataConn → Bool
  | ended => false
  | requested _ _ => true

end DataConn

namespace AgpsStateMachine

/-- The trace of the machine has been followed up to `c`. -/
def Follows (strict : Bool) (m : AgpsStateMachine) (c : DataConn) : Prop :=
  DataConn.follow strict m.trace = some c

/-- The machine and the framework agree on whether there is a connection. -/
def InStep (strict : Bool) (m : AgpsStateMachine) : Prop :=
  ∃ c, m.Follows strict c ∧ c.isOpen = m.mState.connected

/-- When the unsubscription leaves no active subscriber on a connection, the type and the mask of
the machine are those of the request. -/
def Faithful (m : AgpsStateMachine) : AgpsInput → Prop
  | .unsubscribe connHandle freed =>
    ∀ current, m.getSubscriber connHandle = some current → m.mState.connected = true →
      (m.leaveOrWait current freed).anyActiveSubscribers = false →
        ∀ type mask, m.Follows true (.requested type mask) →
          m.mAgpsType = type ∧ m.mApnTypeMask = mask
  | _ => True

section Follow

variable {strict : Bool} {m m' : AgpsStateMachine} {c c' : DataConn} {x : AgpsSubscriber}
  {event : AgpsEvent} {freed : AgpsSubscriber → ℤ}

theorem Follows.append (h : m.Follows strict c) {l : List AgpsTrace}
    (ht : m'.trace = m.trace ++ l) :
    DataConn.follow strict m'.trace = Monitor.follow (DataConn.next strict) c l := by
  rw [ht]
  exact Monitor.follow_append h

/-- Items that leave the connection as it is. -/
theorem Follows.neutral (h : m.Follows strict c) {l : List AgpsTrace}
    (ht : m'.trace = m.trace ++ l) (hl : ∀ a ∈ l, DataConn.next strict c a = some c) :
    m'.Follows strict c :=
  (h.append ht).trans (Monitor.follow_silent hl)

theorem next_notification {a : AgpsTrace} (ha : a ∈ m.notification event x) :
    DataConn.next strict c a = some c := by
  cases event <;> simp only [notification, List.mem_singleton, List.not_mem_nil] at ha <;>
    subst ha <;> cases c <;> rfl

theorem Follows.notify (h : m.Follows strict c) :
    (m.notifyEventToSubscriber event x).Follows strict c :=
  h.neutral rfl fun _ => next_notification

theorem Follows.notifyAll (h : m.Follows strict c) {del : Bool} {type : AgpsNotificationType} :
    (m.notifyAllSubscribers event del type).Follows strict c := by
  refine h.neutral rfl fun a ha => ?_
  rw [notifyLoop_eq] at ha
  obtain ⟨x, -, hx⟩ := List.mem_flatMap.1 ha
  exact next_notification hx

theorem Follows.add (h : m.Follows strict c) : (m.addSubscriber x).Follows strict c := by
  rw [addSubscriber_eq]; exact h

theorem Follows.leave (h : m.Follows strict c) : (m.leaveOrWait x freed).Follows strict c := by
  unfold leaveOrWait
  split
  · exact h
  · exact h.neutral rfl fun _ => next_notification

theorem Follows.request (h : m.Follows strict .ended) :
    (m.requestOrReleaseDataConn true).Follows strict (.requested m.mAgpsType m.mApnTypeMask) := by
  rw [Follows, h.append rfl]; rfl

theorem Follows.release (type : AGpsExtType) (mask : LocApnTypeMask)
    (h : m.Follows strict (.requested type mask))
    (hf : strict = false ∨ m.mAgpsType = type ∧ m.mApnTypeMask = mask) :
    (m.requestOrReleaseDataConn false).Follows strict .ended := by
  have hnext : DataConn.next strict (.requested type mask)
      (.releaseDataConn m.mAgpsType m.mApnTypeMask) = some .ended := if_pos hf
  rw [Follows, h.append (l := [.releaseDataConn m.mAgpsType m.mApnTypeMask]) rfl,
    Monitor.follow_cons hnext, Monitor.follow_nil]

variable (event) in
/-- Processing an event ends a request in two cases. -/
theorem Follows.log (h : m.Follows strict c) (hc : c.isOpen = m.mState.connected) :
    (m.logEvent event).Follows strict
      (if event = .denied ∧ m.mState = .pending ∨ event = .released ∧ m.mState = .acquired then
        .ended else c) := by
  refine (h.append rfl).trans (Monitor.follow_cons ?_)
  cases c <;> cases event <;> cases hs : m.mState <;> simp [hs, DataConn.isOpen,
    AgpsState.connected, DataConn.next] at hc ⊢

/-! ### The events -/

@[simp] theorem logEvent_mState : (m.logEvent event).mState = m.mState := rfl

theorem leaveOrWait_logEvent :
    ((m.logEvent event).leaveOrWait x freed).anyActiveSubscribers =
      (m.leaveOrWait x freed).anyActiveSubscribers := by
  unfold leaveOrWait; split <;> rfl

theorem InStep.of_ended (h : m.Follows strict .ended) (hs : m.mState.connected = false) :
    m.InStep strict := ⟨_, h, hs.symm⟩

theorem Follows.inStep (h : m'.Follows strict c) (hc : c.isOpen = m.mState.connected)
    (hs : m'.mState = m.mState) : m'.InStep strict :=
  ⟨c, h, by rw [hs]; exact hc⟩

/-- A machine that has a connection follows a request, and one that has none does not. -/
theorem InStep.ended (h : m.InStep strict) (hs : m.mState.connected = false) :
    m.Follows strict .ended := by
  obtain ⟨c, hf, hc⟩ := h
  cases c with
  | ended => exact hf
  | requested => rw [hs] at hc; cases hc

theorem InStep.requested (h : m.InStep strict) (hs : m.mState.connected = true) :
    ∃ type mask, m.Follows strict (.requested type mask) := by
  obtain ⟨c, hf, hc⟩ := h
  cases c with
  | ended => rw [hs] at hc; cases hc
  | requested type mask => exact ⟨type, mask, hf⟩

theorem InStep.congr (h : m.InStep strict) (ht : m'.trace = m.trace) (hs : m'.mState = m.mState) :
    m'.InStep strict := by
  obtain ⟨c, hf, hc⟩ := h
  exact ⟨c, by rw [Follows, ht]; exact hf, by rw [hs]; exact hc⟩

variable (event) in
/-- Events other than the two that end a request leave the connection in step. -/
theorem InStep.log (h : m.InStep strict)
    (hne : ¬ (event = .denied ∧ m.mState = .pending ∨ event = .released ∧ m.mState = .acquired)) :
    (m.logEvent event).InStep strict := by
  obtain ⟨c, hf, hc⟩ := h
  have hlog := hf.log event hc
  rw [if_neg hne] at hlog
  exact ⟨c, hlog, hc⟩

theorem InStep.processSubscribe (h : m.InStep strict) :
    (m.processAgpsEventSubscribe x).InStep strict := by
  unfold processAgpsEventSubscribe
  cases hs : m.mState with
  | invalid => exact h
  | released =>
    exact ⟨_, Follows.request (h.ended (by rw [hs]; rfl)).add, rfl⟩
  | pending | acquired | releasing =>
    obtain ⟨c, hf, hc⟩ := h
    first
    | exact hf.add.inStep hc addSubscriber_mState
    | exact hf.notify.add.inStep hc addSubscriber_mState

@[simp] theorem leaveOrWait_mAgpsType : (m.leaveOrWait x freed).mAgpsType = m.mAgpsType := by
  unfold leaveOrWait; split <;> rfl

@[simp] theorem leaveOrWait_mApnTypeMask :
    (m.leaveOrWait x freed).mApnTypeMask = m.mApnTypeMask := by
  unfold leaveOrWait; split <;> rfl

theorem InStep.processUnsubscribe (h : m.InStep strict)
    (hf : strict = true → m.mState.connected = true →
      (m.leaveOrWait x freed).anyActiveSubscribers = false →
        ∀ type mask, m.Follows true (.requested type mask) →
          m.mAgpsType = type ∧ m.mApnTypeMask = mask) :
    (m.processAgpsEventUnsubscribe x freed).InStep strict := by
  cases hs : m.mState.connected with
  | true =>
    obtain ⟨type, mask, hfol⟩ := h.requested hs
    cases hact : (m.leaveOrWait x freed).anyActiveSubscribers with
    | true =>
      rw [processUnsubscribe_staying hs hact]
      exact ⟨_, hfol.leave, by rw [leaveOrWait_mState, hs]; rfl⟩
    | false =>
      obtain ⟨s, hsr, heq⟩ := processUnsubscribe_closing hs hact
      have hsc : s.connected = false := by rcases hsr with rfl | rfl <;> rfl
      rw [heq]
      refine .of_ended (Follows.release type mask hfol.leave ?_) hsc
      cases strict with
      | false => exact .inl rfl
      | true => exact .inr (by simpa [transitionState] using hf rfl hs hact type mask hfol)
  | false =>
    have hfol := h.ended hs
    unfold processAgpsEventUnsubscribe
    cases hst : m.mState with
    | pending | acquired => rw [hst] at hs; cases hs
    | invalid => exact h
    | released => exact .of_ended hfol.notify hs
    | releasing =>
      dsimp only
      split
      · exact .of_ended hfol.leave rfl
      · exact .of_ended hfol.leave (by rw [leaveOrWait_mState]; exact hs)

theorem InStep.processGranted (h : m.InStep strict) :
    m.processAgpsEventGranted.InStep strict := by
  unfold processAgpsEventGranted
  cases hs : m.mState with
  | invalid | released | acquired | releasing => exact h
  | pending =>
    obtain ⟨type, mask, hf⟩ := h.requested (by rw [hs]; rfl)
    exact ⟨_, Follows.notifyAll (m := m.transitionState .acquired) hf, rfl⟩

theorem Follows.closeReleasing (h : m.Follows strict .ended) : m.closeReleasing.InStep strict := by
  unfold AgpsStateMachine.closeReleasing
  have hn : (m.notifyAllSubscribers .released true .forInactiveSubscribers).Follows strict .ended :=
    h.notifyAll
  dsimp only
  split
  · exact ⟨_, Follows.request (m := transitionState _ .pending) hn, rfl⟩
  · exact .of_ended hn rfl

/-- A `RELEASED` ends the request when the connection was held. -/
theorem InStep.released (h : m.InStep strict) :
    ((m.logEvent .released).processAgpsEventReleased).InStep strict := by
  obtain ⟨c, hf, hc⟩ := h
  have hlog := hf.log .released hc
  unfold processAgpsEventReleased
  rw [logEvent_mState]
  cases hs : m.mState with
  | invalid | released | pending =>
    exact ⟨c, by simpa [hs] using hlog, hc⟩
  | acquired =>
    rw [if_pos (.inr ⟨rfl, hs⟩)] at hlog
    exact .of_ended (Follows.notifyAll (m := transitionState _ .released) hlog) rfl
  | releasing =>
    obtain rfl : c = .ended := by cases c <;> simp [hs, DataConn.isOpen, AgpsState.connected] at hc ⊢
    exact Follows.closeReleasing (by simpa using hlog)

/-- A `DENIED` ends the request when it was pending. -/
theorem InStep.denied (h : m.InStep strict) :
    ((m.logEvent .denied).processAgpsEventDenied).InStep strict := by
  obtain ⟨c, hf, hc⟩ := h
  have hlog := hf.log .denied hc
  unfold processAgpsEventDenied
  rw [logEvent_mState]
  cases hs : m.mState with
  | invalid | released | acquired =>
    exact ⟨c, by simpa [hs] using hlog, hc⟩
  | pending =>
    rw [if_pos (.inl ⟨rfl, hs⟩)] at hlog
    exact .of_ended (Follows.notifyAll (m := transitionState _ .released) hlog) rfl
  | releasing =>
    obtain rfl : c = .ended := by cases c <;> simp [hs, DataConn.isOpen, AgpsState.connected] at hc ⊢
    exact Follows.closeReleasing (by simpa using hlog)

theorem InStep.apply (h : m.InStep strict) {i : AgpsInput}
    (hi : strict = true → m.Faithful i) : (m.apply i).InStep strict := by
  cases i with
  | subscribe type mask handle wait =>
    exact InStep.processSubscribe (InStep.log _ (h.congr rfl rfl) (by simp))
  | unsubscribe handle freed =>
    unfold AgpsStateMachine.apply
    dsimp only
    cases hx : m.getSubscriber handle with
    | none => exact h
    | some x =>
      refine (h.log .unsubscribe (by simp)).processUnsubscribe ?_
      intro hstrict hs hclose type mask hf
      subst hstrict
      obtain ⟨c, hc, hopen⟩ := h
      have hlog := hc.log .unsubscribe hopen
      rw [if_neg (by simp)] at hlog
      obtain rfl : c = .requested type mask := Option.some.inj (hlog.symm.trans hf)
      refine hi rfl x hx hs ?_ type mask hc
      rw [← hclose, leaveOrWait_logEvent]
  | granted bearer apn len =>
    obtain ⟨hs, -, ht, -⟩ := setAPN_eq (m := { m with mBearer := bearer }) apn len
    exact InStep.processGranted (InStep.log _ (h.congr ht hs) (by simp))
  | denied => exact h.denied
  | released => exact h.released
  | modemSSR => exact h.congr rfl rfl

/-- An unfaithful release names another request than the one it ends. -/
theorem not_follow_of_not_faithful {i : AgpsInput} (hi : ¬ m.Faithful i) :
    DataConn.follow true (m.apply i).trace = none := by
  cases i with
  | unsubscribe handle freed =>
    simp only [Faithful, not_forall] at hi
    obtain ⟨x, hx, hs, hclose, type, mask, hf, hne⟩ := hi
    have hf' : ((m.logEvent .unsubscribe).leaveOrWait x freed).Follows true
        (.requested type mask) := by
      have hlog := hf.log .unsubscribe hs.symm
      rw [if_neg (by simp)] at hlog
      exact hlog.leave
    have hclose' : ((m.logEvent .unsubscribe).leaveOrWait x freed).anyActiveSubscribers = false := by
      rw [leaveOrWait_logEvent, hclose]
    obtain ⟨s, -, heq⟩ := processUnsubscribe_closing (m := m.logEvent .unsubscribe) hs hclose'
    have happly : m.apply (.unsubscribe handle freed) =
        (m.logEvent .unsubscribe).processAgpsEventUnsubscribe x freed := by
      simp only [AgpsStateMachine.apply, hx]
    have hnext : DataConn.next true (.requested type mask)
        (.releaseDataConn m.mAgpsType m.mApnTypeMask) = none := if_neg (by simpa using hne)
    rw [happly, heq, hf'.append (l := [.releaseDataConn m.mAgpsType m.mApnTypeMask]) (by
      simp [requestOrReleaseDataConn, transitionState, logEvent]), Monitor.follow_cons_none hnext]
  | subscribe | granted | denied | released | modemSSR => exact absurd trivial hi

end Follow

end AgpsStateMachine

/-! ### The manager -/

namespace AgpsManager

/-- Requests and releases alternate on both machines. -/
def Alternates (M : AgpsManager) : Prop :=
  ∀ n sm, M.nif n = some sm → (DataConn.follow false sm.trace).isSome = true

/-- Moreover each release names the request it ends. -/
def Protocol (M : AgpsManager) : Prop :=
  ∀ n sm, M.nif n = some sm → (DataConn.follow true sm.trace).isSome = true

/-- A call that makes a machine release its connection finds the type and the mask of the request
in the machine. -/
def Faithful (M : AgpsManager) (call : AgpsCall) : Prop :=
  ∀ n sm i, M.nif n = some sm → M.inputFor call n = some i → sm.Faithful i

/-- The invariant of the runs: both machines agree with the framework. -/
def InStep (strict : Bool) (M : AgpsManager) : Prop :=
  ∀ n sm, M.nif n = some sm → sm.InStep strict

section Runs

variable {strict : Bool} {u : Setup} {M M' : AgpsManager} {call : AgpsCall} {es : List AgpsCall}

theorem InStep.follow (h : M.InStep strict) {n : AgpsNif} {sm : AgpsStateMachine}
    (hsm : M.nif n = some sm) : (DataConn.follow strict sm.trace).isSome = true := by
  obtain ⟨c, hc, -⟩ := h n sm hsm
  rw [hc]; rfl

theorem inStep_init : u.manager.InStep strict := by
  intro n sm hsm
  obtain ⟨type, mask, rfl⟩ := u.allNew_manager n sm hsm
  exact ⟨.ended, rfl, rfl⟩

theorem InStep.apply (h : M.InStep strict) (hcall : strict = true → M.Faithful call)
    (happly : M.apply call = some M') : M'.InStep strict := by
  intro n sm' hsm'
  rw [apply_machines happly n] at hsm'
  obtain ⟨sm, hsm, rfl⟩ := Option.map_eq_some_iff.1 hsm'
  cases hi : M.inputFor call n with
  | none => exact h n sm hsm
  | some i => exact (h n sm hsm).apply fun hs => hcall hs n sm i hsm hi

/-- **The framework protocol.**  In every run requests and releases alternate.  The releases name
their requests throughout a run exactly when every call that makes a machine release its
connection finds the type and the mask of the request in it. -/
theorem framework_protocol_iff :
    ((system u).Run System.Free es M → M.Alternates) ∧
      ((system u).Always Protocol es M ↔ (system u).Run Faithful es M) := by
  constructor
  · intro h n sm
    exact (h.invariant (I := InStep false) inStep_init fun M call M' hM _ hst =>
      hM.apply (fun hs => nomatch hs) hst).follow
  · refine System.always_iff_run (J := InStep true) inStep_init (fun _ h n sm => h.follow)
      (fun M call M' hM hcall hst => hM.apply (fun _ => hcall) hst) ?_
    intro M call M' hM hcall hst hprot
    simp only [Faithful, not_forall] at hcall
    obtain ⟨n, sm, i, hsm, hi, hne⟩ := hcall
    have hsm' : M'.nif n = some (sm.apply i) := by
      rw [apply_machines hst n, hsm, hi]; rfl
    have hfollow := hprot n _ hsm'
    rw [AgpsStateMachine.not_follow_of_not_faithful hne] at hfollow
    cases hfollow

/-- A second request changes the mask of the open connection; when both clients have gone, the
release carries the mask of the second. -/
theorem framework_protocol_broken :
    ∃ M, (system ⟨true, 3#32, true, fun _ => 0⟩).Run System.Free
      [.requestATL 1 LOC_AGPS_TYPE_SUPL LOC_APN_TYPE_MASK_SUPL,
        .requestATL 2 LOC_AGPS_TYPE_SUPL_ES LOC_APN_TYPE_MASK_EMERGENCY,
        .releaseATL 1 fun _ => 1, .releaseATL 2 fun _ => 2] M ∧ ¬ M.Protocol := by
  have step {es M M'} (call : AgpsCall)
      (h : (system ⟨true, 3#32, true, fun _ => 0⟩).Run System.Free es M)
      (hst : M.apply call = some M') :
      (system ⟨true, 3#32, true, fun _ => 0⟩).Run System.Free (es ++ [call]) M' :=
    h.snoc trivial hst
  have h₁ := step (.requestATL 1 LOC_AGPS_TYPE_SUPL LOC_APN_TYPE_MASK_SUPL) .nil rfl
  have h₂ := step (.requestATL 2 LOC_AGPS_TYPE_SUPL_ES LOC_APN_TYPE_MASK_EMERGENCY) h₁ rfl
  have h₃ := step (.releaseATL 1 fun _ => 1) h₂ rfl
  refine ⟨_, step (.releaseATL 2 fun _ => 2) h₃ rfl, fun h => ?_⟩
  exact absurd (h .agnss _ rfl) (by decide)

end Runs

end AgpsManager

end GpsHal
