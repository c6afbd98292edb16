import GpsHal.Gnss.Agps

/-!
# The lifecycle of a data connection

A state machine is to be in its released state exactly when nobody subscribes to it, and while a
connection is requested or held somebody is to be using it.  Every event keeps this but one: a
modem restart drops the subscribers and leaves the state.

## Main results

* `AgpsStateMachine.Lifecycle.apply` : what one input keeps.
* `AgpsStateMachine.always_lifecycle_iff` : the lifecycle is kept throughout a run exactly when
  every modem restart finds the list empty.
-/

namespace GpsHal

/-- A connection is requested or held. -/
def AgpsState.connected : AgpsState → Bool
  | pending | acquired => true
  | invalid | released | releasing => false

namespace AgpsStateMachine

/-- The machine is released exactly when its list is empty, and it has an active subscriber while
a connection is pending or acquired. -/
structure Lifecycle (m : AgpsStateMachine) : Prop where
  released : m.mState = .released ↔ m.mSubscriberList = []
  active : m.mState = .pending ∨ m.mState = .acquired → ∃ x ∈ m.mSubscriberList, x.Active

/-- A modem restart finds nobody subscribed. -/
def SafeRestart (m : AgpsStateMachine) : AgpsInput → Prop
  | .modemSSR => m.mSubscriberList = []
  | _ => True

section Steps

variable {m : AgpsStateMachine} {x : AgpsSubscriber}

theorem Lifecycle.of_active (hs : m.mState = .pending ∨ m.mState = .acquired)
    (h : ∃ x ∈ m.mSubscriberList, x.Active) : m.Lifecycle := by
  refine ⟨⟨fun hr => ?_, fun hl => ?_⟩, fun _ => h⟩
  · rcases hs with hs | hs <;> rw [hs] at hr <;> cases hr
  · obtain ⟨x, hx, -⟩ := h
    rw [hl] at hx; cases hx

theorem Lifecycle.of_releasing (hs : m.mState = .releasing) (h : m.mSubscriberList ≠ []) :
    m.Lifecycle := by
  refine ⟨⟨fun hr => ?_, fun hl => absurd hl h⟩, fun hp => ?_⟩
  · rw [hs] at hr; cases hr
  · rw [hs] at hp; rcases hp with hp | hp <;> cases hp

theorem Lifecycle.of_released (hs : m.mState = .released) (h : m.mSubscriberList = []) :
    m.Lifecycle := by
  refine ⟨iff_of_true hs h, fun hp => ?_⟩
  rw [hs] at hp; rcases hp with hp | hp <;> cases hp

/-- Somebody is active after a subscription, if the subscriber was not listed or somebody was
active before. -/
theorem exists_active_addSubscriber
    (h : m.mSubscriberList = [] ∨ ∃ y ∈ m.mSubscriberList, y.Active) (hx : x.Active) :
    ∃ y ∈ (m.addSubscriber x).mSubscriberList, y.Active := by
  rw [addSubscriber_list]
  rcases h with h | ⟨y, hy, ha⟩
  · rw [h]; exact ⟨x, by simp, hx⟩
  · split
    · exact ⟨y, hy, ha⟩
    · exact ⟨y, List.mem_append_left _ hy, ha⟩

theorem addSubscriber_ne_nil : (m.addSubscriber x).mSubscriberList ≠ [] := by
  rw [addSubscriber_list]
  split
  · rename_i h
    obtain ⟨y, hy, -⟩ := h
    exact List.ne_nil_of_mem hy
  · simp

@[simp] theorem addSubscriber_mState : (m.addSubscriber x).mState = m.mState := by
  rw [addSubscriber_eq]

theorem Lifecycle.congr {m' : AgpsStateMachine} (h : m.Lifecycle) (hs : m'.mState = m.mState)
    (hl : m'.mSubscriberList = m.mSubscriberList) : m'.Lifecycle :=
  ⟨by rw [hs, hl]; exact h.released, by rw [hs, hl]; exact h.active⟩

theorem notifyAllSubscribers_list (event : AgpsEvent) {type : AgpsNotificationType}
    (deletePostNotify : Bool) :
    (m.notifyAllSubscribers event deletePostNotify type).mSubscriberList =
      if deletePostNotify = true then m.mSubscriberList.filter fun x => !type.addresses x
      else m.mSubscriberList := by
  rw [notifyAllSubscribers, notifyLoop_eq]

theorem notifyAllSubscribers_all (event : AgpsEvent) :
    (m.notifyAllSubscribers event true .forAllSubscribers).mSubscriberList = [] := by
  rw [notifyAllSubscribers_list]
  simp [AgpsNotificationType.addresses]

@[simp] theorem leaveOrWait_mState {freed : AgpsSubscriber → ℤ} :
    (m.leaveOrWait x freed).mState = m.mState := by
  unfold leaveOrWait
  split <;> rfl

/-! ### The events -/

section Unsubscribe

variable {freed : AgpsSubscriber → ℤ}

/-- Leaving a connection that nobody else uses releases it. -/
theorem processUnsubscribe_closing (hs : m.mState.connected = true)
    (hclose : (m.leaveOrWait x freed).anyActiveSubscribers = false) :
    ∃ s : AgpsState, (s = .released ∨ s = .releasing) ∧ m.processAgpsEventUnsubscribe x freed =
      ((m.leaveOrWait x freed).transitionState s).requestOrReleaseDataConn false := by
  have hproc : m.processAgpsEventUnsubscribe x freed =
      if (m.leaveOrWait x freed).mSubscriberList.isEmpty = true then
        ((m.leaveOrWait x freed).transitionState .released).requestOrReleaseDataConn false
      else ((m.leaveOrWait x freed).transitionState .releasing).requestOrReleaseDataConn false := by
    unfold processAgpsEventUnsubscribe
    cases hst : m.mState with
    | pending | acquired => simp only [hclose, if_true]
    | invalid | released | releasing => rw [hst] at hs; cases hs
  rw [hproc]
  split
  · exact ⟨.released, .inl rfl, rfl⟩
  · exact ⟨.releasing, .inr rfl, rfl⟩

/-- Leaving a connection that somebody else uses keeps it. -/
theorem processUnsubscribe_staying (hs : m.mState.connected = true)
    (hstay : (m.leaveOrWait x freed).anyActiveSubscribers = true) :
    m.processAgpsEventUnsubscribe x freed = m.leaveOrWait x freed := by
  have hne : ¬ (m.leaveOrWait x freed).mSubscriberList.isEmpty = true := by
    obtain ⟨y, hy, -⟩ := anyActiveSubscribers_iff.1 hstay
    rw [List.isEmpty_iff]
    exact List.ne_nil_of_mem hy
  unfold processAgpsEventUnsubscribe
  cases hst : m.mState with
  | pending | acquired => simp only [if_neg hne, hstay, Bool.true_eq_false, if_false]
  | invalid | released | releasing => rw [hst] at hs; cases hs

end Unsubscribe

theorem Lifecycle.processSubscribe (h : m.Lifecycle) (hx : x.Active) :
    (m.processAgpsEventSubscribe x).Lifecycle := by
  unfold processAgpsEventSubscribe
  cases hs : m.mState with
  | invalid => exact h
  | released =>
    exact .of_active (.inl rfl) (exists_active_addSubscriber (.inl (h.released.1 hs)) hx)
  | pending =>
    exact .of_active (.inl (by simpa using hs))
      (exists_active_addSubscriber (.inr (h.active (.inl hs))) hx)
  | acquired =>
    exact .of_active (.inr (addSubscriber_mState.trans hs))
      (exists_active_addSubscriber (.inr (h.active (.inr hs))) hx)
  | releasing => exact .of_releasing (by simpa using hs) addSubscriber_ne_nil

/-- After a subscriber has left, the machine goes where its list sends it. -/
theorem Lifecycle.processUnsubscribe (h : m.Lifecycle) (freed : AgpsSubscriber → ℤ) :
    (m.processAgpsEventUnsubscribe x freed).Lifecycle := by
  unfold processAgpsEventUnsubscribe
  cases hs : m.mState with
  | invalid => exact h
  | released => exact h.congr rfl rfl
  | pending | acquired =>
    simp only [List.isEmpty_iff]
    split_ifs with hnil hactive
    · exact .of_released rfl hnil
    · exact .of_releasing rfl hnil
    · exact .of_active (by simp [hs]) (anyActiveSubscribers_iff.1 (by simpa using hactive))
  | releasing =>
    simp only [List.isEmpty_iff]
    split_ifs with hnil
    · exact .of_released rfl hnil
    · exact .of_releasing (by simpa using hs) hnil

theorem Lifecycle.processGranted (h : m.Lifecycle) : m.processAgpsEventGranted.Lifecycle := by
  unfold processAgpsEventGranted
  cases hs : m.mState with
  | invalid | released | acquired | releasing => exact h
  | pending =>
    refine .of_active (.inr rfl) ?_
    rw [notifyAllSubscribers_list]
    exact h.active (.inl hs)

/-- Whoever is left when the inactive ones are deleted is active. -/
theorem lifecycle_closeReleasing : m.closeReleasing.Lifecycle := by
  unfold closeReleasing
  simp only
  split_ifs with hactive
  · exact .of_active (.inl rfl) (anyActiveSubscribers_iff.1 hactive)
  · refine .of_released rfl ?_
    rw [anyActiveSubscribers_iff] at hactive
    change (m.notifyAllSubscribers .released true .forInactiveSubscribers).mSubscriberList = []
    refine List.eq_nil_iff_forall_not_mem.2 fun x hx => hactive ⟨x, hx, ?_⟩
    rw [notifyAllSubscribers_list, if_pos rfl] at hx
    simpa [AgpsNotificationType.addresses] using (List.mem_filter.1 hx).2

theorem Lifecycle.processReleased (h : m.Lifecycle) : m.processAgpsEventReleased.Lifecycle := by
  unfold processAgpsEventReleased
  cases m.mState with
  | invalid | released | pending => exact h
  | acquired => exact .of_released rfl (notifyAllSubscribers_all _)
  | releasing => exact lifecycle_closeReleasing

theorem Lifecycle.processDenied (h : m.Lifecycle) : m.processAgpsEventDenied.Lifecycle := by
  unfold processAgpsEventDenied
  cases m.mState with
  | invalid | released | acquired => exact h
  | pending => exact .of_released rfl (notifyAllSubscribers_all _)
  | releasing => exact lifecycle_closeReleasing

theorem setAPN_eq (apn : Option (List UInt8)) (len : ℕ) :
    (m.setAPN apn len).mState = m.mState ∧
      (m.setAPN apn len).mSubscriberList = m.mSubscriberList ∧
      (m.setAPN apn len).trace = m.trace ∧ (m.setAPN apn len).mAgpsType = m.mAgpsType ∧
      (m.setAPN apn len).mApnTypeMask = m.mApnTypeMask := by
  unfold setAPN
  cases apn with
  | none => exact ⟨rfl, rfl, rfl, rfl, rfl⟩
  | some s => dsimp only; split <;> exact ⟨rfl, rfl, rfl, rfl, rfl⟩

theorem Lifecycle.apply (h : m.Lifecycle) {i : AgpsInput} (hi : m.SafeRestart i) :
    (m.apply i).Lifecycle := by
  cases i with
  | subscribe type mask handle wait => exact Lifecycle.processSubscribe (h.congr rfl rfl) rfl
  | unsubscribe handle freed =>
    unfold AgpsStateMachine.apply
    dsimp only
    split
    · exact h
    · exact Lifecycle.processUnsubscribe (m := m.logEvent .unsubscribe) (h.congr rfl rfl) freed
  | granted bearer apn len =>
    obtain ⟨hs, hl, -⟩ := setAPN_eq (m := { m with mBearer := bearer }) apn len
    exact Lifecycle.processGranted (h.congr hs hl)
  | denied => exact Lifecycle.processDenied (h.congr rfl rfl)
  | released => exact Lifecycle.processReleased (h.congr rfl rfl)
  | modemSSR => exact h.congr rfl (Eq.symm hi)

/-- A restart with subscribers leaves a connection that nobody uses. -/
theorem Lifecycle.not_modemSSR (h : m.Lifecycle) (hne : m.mSubscriberList ≠ []) :
    ¬ (m.apply .modemSSR).Lifecycle := fun h' =>
  hne (h.released.1 (h'.released.2 rfl))

end Steps

section Runs

variable {type : AGpsExtType} {mask : LocApnTypeMask} {es : List AgpsInput} {m : AgpsStateMachine}

theorem lifecycle_init : (new type mask).Lifecycle := .of_released rfl rfl

/-- **The lifecycle of a data connection.**  It is kept throughout a run exactly when every modem
restart in the run finds the subscriber list empty. -/
theorem always_lifecycle_iff :
    (system type mask).Always Lifecycle es m ↔ (system type mask).Run SafeRestart es m := by
  refine System.always_iff_run (J := Lifecycle) lifecycle_init (fun _ h => h) ?_ ?_
  · rintro m i _ h hi rfl
    exact h.apply hi
  · rintro m i _ h hi rfl
    cases i with
    | modemSSR => exact h.not_modemSSR hi
    | subscribe | unsubscribe | granted | denied | released => exact absurd trivial hi

/-- The modem restarts while a connection is held: the state stays acquired with nobody on it. -/
theorem lifecycle_broken :
    ∃ m, (system LOC_AGPS_TYPE_SUPL 0).Run System.Free
      [.subscribe LOC_AGPS_TYPE_SUPL LOC_APN_TYPE_MASK_SUPL 1 false, .granted 1 none 0, .modemSSR]
      m ∧ ¬ m.Lifecycle := by
  have h₁ : (system LOC_AGPS_TYPE_SUPL 0).Run System.Free
      [.subscribe LOC_AGPS_TYPE_SUPL LOC_APN_TYPE_MASK_SUPL 1 false] _ := .snoc .nil trivial rfl
  have h₂ := h₁.snoc (e := .granted 1 none 0) trivial rfl
  refine ⟨_, h₂.snoc trivial rfl, fun h => ?_⟩
  exact absurd (h.released.2 (by decide)) (by decide)

end Runs

end AgpsStateMachine

end GpsHal
