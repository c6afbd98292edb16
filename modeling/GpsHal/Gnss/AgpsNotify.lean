import GpsHal.Gnss.AgpsLifecycle
import GpsHal.Transition.Monitor
import Mathlib.Data.List.Nodup

/-!
# What a subscriber hears

A subscriber is told that the connection is open, that it could not be opened, or that it is
closed.  This file follows the notifications of each connection handle through the runs of one
state machine without modem restarts.

A handle that is still listed is not added again.  So a client that comes back while its old entry
waits for the connection to close is forgotten, and one that subscribes twice to a held connection
is told twice that it is open.

## Main definitions

* `AgpsStateMachine.Informed` : what one step owes the subscribers.
* `AgpsStateMachine.Orderly` : the inputs for which it is done.

## Main result

* `AgpsStateMachine.run_informed_iff` : all steps of a run do what they owe exactly when all its
  inputs are orderly.
-/

namespace GpsHal

namespace AgpsStateMachine

/-- Follow the notifications of one handle: whether it has been told that the connection is open
and not yet that it is closed.  Being told twice that it is open is refused. -/
def toldNext (handle : ℤ) (opened : Bool) : AgpsTrace → Option Bool
  | .atlOpenStatus h true _ _ _ _ _ =>
    if h = handle then (if opened = true then none else some true) else some opened
  | .atlCloseStatus h _ => if h = handle then some false else some opened
  | _ => some opened

/-- The handle has been told that the connection is open and not yet that it is closed. -/
def told (m : AgpsStateMachine) (handle : ℤ) : Option Bool :=
  Monitor.follow (toldNext handle) false m.trace

/-- The item is a notification of the handle. -/
def tells (handle : ℤ) : AgpsTrace → Bool
  | .atlOpenStatus h _ _ _ _ _ _ => h == handle
  | .atlCloseStatus h _ => h == handle
  | _ => false

/-- The item tells the handle that the connection is closed or could not be opened. -/
def tellsEnd (handle : ℤ) : AgpsTrace → Bool
  | .atlOpenStatus h isSuccess _ _ _ _ _ => h == handle && !isSuccess
  | .atlCloseStatus h _ => h == handle
  | _ => false

/-- The handles of the list. -/
def handles (m : AgpsStateMachine) : List ℤ := m.mSubscriberList.map (·.mConnHandle)

/-- What can be seen of a step from `m` to `m'`. -/
def news (m m' : AgpsStateMachine) : List AgpsTrace := m'.trace.drop m.trace.length

/-- The step under an input does what it owes the subscribers. -/
structure Informed (m : AgpsStateMachine) (i : AgpsInput) : Prop where
  /-- The handles stay distinct. -/
  distinct : (m.apply i).handles.Nodup
  /-- Nobody is told twice that the connection is open before it is told that it is closed. -/
  openOnce : ∀ h, (m.apply i).told h ≠ none
  /-- When a pending request is answered, every active subscriber is told exactly once. -/
  answered : (∃ bearer apn len, i = .granted bearer apn len) ∨ i = .denied →
    m.mState = .pending → ∀ x ∈ m.mSubscriberList, x.Active →
      (m.news (m.apply i)).countP (tells x.mConnHandle) = 1
  /-- Who leaves is told. -/
  leaves : ∀ h ∈ m.handles, h ∉ (m.apply i).handles →
    ∃ a ∈ m.news (m.apply i), tellsEnd h a = true
  /-- Who subscribes has an active entry. -/
  subscribed : ∀ type mask h wait, i = .subscribe type mask h wait →
    ∃ x ∈ (m.apply i).mSubscriberList, x.mConnHandle = h ∧ x.Active

/-- A subscription of a handle that is listed finds its entry active and the connection not held.
An unsubscription whose entry is deleted does not misread another entry for it. -/
def Orderly (m : AgpsStateMachine) : AgpsInput → Prop
  | .subscribe _ _ h _ =>
    ∀ x ∈ m.mSubscriberList, x.mConnHandle = h → x.Active ∧ m.mState ≠ .acquired
  | .unsubscribe h freed =>
    ∀ A x B, m.mSubscriberList = A ++ x :: B → x.mConnHandle = h →
      x.mWaitForCloseComplete = false → ∀ y ∈ B, y.mConnHandle ≠ freed y
  | _ => True

/-- One state machine without modem restarts. -/
def undisturbed (agpsType : AGpsExtType) (apnTypeMask : LocApnTypeMask) :
    System AgpsStateMachine AgpsInput :=
  ⟨.new agpsType apnTypeMask, fun m i m' => i ≠ .modemSSR ∧ m' = m.apply i⟩

/-- The invariant of the orderly runs. -/
structure Notified (m : AgpsStateMachine) : Prop where
  valid : m.mState ≠ .invalid
  lifecycle : m.Lifecycle
  distinct : m.handles.Nodup
  /-- Nobody is refused, and who has been told that the connection is open is listed, and was so
  when the connection was acquired. -/
  told : ∀ h, m.told h = some false ∨ m.told h = some true ∧
    (m.mState = .acquired ∨ m.mState = .releasing) ∧
    ∃ x ∈ m.mSubscriberList, x.mConnHandle = h ∧ (x.Active → m.mState = .acquired)
  /-- Who is active on a held connection has been told so. -/
  opened : m.mState = .acquired → ∀ x ∈ m.mSubscriberList, x.Active →
    m.told x.mConnHandle = some true

/-! ### Following the notifications -/

section Told

variable {m m' : AgpsStateMachine} {h : ℤ} {b : Bool} {l : List AgpsSubscriber}
  {out : List AgpsTrace}

theorem told_append (ht : m'.trace = m.trace ++ out) (hb : m.told h = some b) :
    m'.told h = Monitor.follow (toldNext h) b out := by
  rw [told, ht]
  exact Monitor.follow_append hb

/-- Items that notify nobody. -/
def Quiet (out : List AgpsTrace) : Prop := ∀ a ∈ out, ∀ h b, toldNext h b a = some b

theorem Quiet.told (hq : Quiet out) (ht : m'.trace = m.trace ++ out) (hb : m.told h = some b) :
    m'.told h = some b :=
  (told_append ht hb).trans (Monitor.follow_silent fun a ha => hq a ha h b)

theorem follow_granted (hnd : (l.map (·.mConnHandle)).Nodup)
    (hb : h ∈ l.map (·.mConnHandle) → b = false) :
    Monitor.follow (toldNext h) b (l.flatMap (m.notification .granted)) =
      some (if h ∈ l.map (·.mConnHandle) then true else b) := by
  induction l generalizing b with
  | nil => rfl
  | cons x l ih =>
    rw [List.map_cons, List.nodup_cons] at hnd
    rw [List.flatMap_cons]
    by_cases hx : x.mConnHandle = h
    · subst hx
      obtain rfl := hb (by simp)
      have hnext : toldNext x.mConnHandle false (.atlOpenStatus x.mConnHandle true m.mAPN m.mAPNLen
          m.mBearer m.mAgpsType m.mApnTypeMask) = some true := by simp [toldNext]
      refine (Monitor.follow_cons hnext).trans ((ih hnd.2 fun hm => absurd hm hnd.1).trans ?_)
      simp [hnd.1]
    · have hnext : toldNext h b (.atlOpenStatus x.mConnHandle true m.mAPN m.mAPNLen
          m.mBearer m.mAgpsType m.mApnTypeMask) = some b := by simp [toldNext, hx]
      refine (Monitor.follow_cons hnext).trans
        ((ih hnd.2 fun hm => hb (List.mem_cons_of_mem _ hm)).trans ?_)
      simp [Ne.symm hx]

theorem follow_closed (l : List AgpsSubscriber) :
    Monitor.follow (toldNext h) b (l.flatMap (m.notification .released)) =
      some (if h ∈ l.map (·.mConnHandle) then false else b) := by
  induction l generalizing b with
  | nil => rfl
  | cons x l ih =>
    rw [List.flatMap_cons]
    by_cases hx : x.mConnHandle = h
    · have hnext : toldNext h b (.atlCloseStatus x.mConnHandle true) = some false := by
        simp [toldNext, hx]
      refine (Monitor.follow_cons hnext).trans (ih.trans ?_)
      simp [hx]
    · have hnext : toldNext h b (.atlCloseStatus x.mConnHandle true) = some b := by
        simp [toldNext, hx]
      refine (Monitor.follow_cons hnext).trans (ih.trans ?_)
      simp [Ne.symm hx]

theorem quiet_denied : Quiet (l.flatMap (m.notification .denied)) := by
  intro a ha h b
  obtain ⟨x, -, hx⟩ := List.mem_flatMap.1 ha
  obtain rfl := List.mem_singleton.1 hx
  rfl

/-- A traversal notifies each of the handles it addresses as often as the list has it. -/
theorem countP_tells (event : AgpsEvent) (he : event ≠ .subscribe) (l : List AgpsSubscriber) :
    (l.flatMap (m.notification event)).countP (tells h) = (l.map (·.mConnHandle)).count h := by
  induction l with
  | nil => rfl
  | cons x l ih =>
    have hone : (m.notification event x).countP (tells h) =
        if x.mConnHandle = h then 1 else 0 := by
      cases event <;> first | exact absurd rfl he | simp [notification, tells, List.countP_cons]
    rw [List.flatMap_cons, List.countP_append, ih, hone, List.map_cons, List.count_cons]
    simp only [beq_iff_eq]
    exact Nat.add_comm _ _

/-- The last word of a traversal that deletes. -/
theorem exists_tellsEnd {event : AgpsEvent} (he : event = .released ∨ event = .denied)
    (hx : h ∈ l.map (·.mConnHandle)) :
    ∃ a ∈ l.flatMap (m.notification event), tellsEnd h a = true := by
  obtain ⟨x, hxl, rfl⟩ := List.mem_map.1 hx
  rcases he with rfl | rfl
  · exact ⟨_, List.mem_flatMap.2 ⟨x, hxl, List.mem_singleton_self _⟩, by simp [tellsEnd]⟩
  · exact ⟨_, List.mem_flatMap.2 ⟨x, hxl, List.mem_singleton_self _⟩, by simp [tellsEnd]⟩

end Told

/-! ### Keeping the invariant -/

section Steps

variable {m m' : AgpsStateMachine} {h : ℤ} {x : AgpsSubscriber} {out : List AgpsTrace}

theorem Notified.told_false (hn : m.Notified) (hs : m.mState = .pending ∨ m.mState = .released)
    (h : ℤ) : m.told h = some false := by
  rcases hn.told h with ht | ⟨-, hs', -⟩
  · exact ht
  · rcases hs with hs | hs <;> rw [hs] at hs' <;> rcases hs' with hs' | hs' <;> cases hs'

/-- Between connections nobody has been told that there is one. -/
theorem Notified.of_false (hs : m'.mState = .pending ∨ m'.mState = .released)
    (hlc : m'.Lifecycle) (hnd : m'.handles.Nodup) (ht : ∀ h, m'.told h = some false) :
    m'.Notified := by
  refine ⟨fun hv => ?_, hlc, hnd, fun h => .inl (ht h), fun ha => ?_⟩
  · rcases hs with hs | hs <;> rw [hs] at hv <;> cases hv
  · rcases hs with hs | hs <;> rw [hs] at ha <;> cases ha

variable (out) in
/-- A step that notifies nobody and keeps the entries. -/
theorem Notified.quiet (hn : m.Notified) (hq : Quiet out) (ht : m'.trace = m.trace ++ out)
    (hlc : m'.Lifecycle) (hnd : m'.handles.Nodup) (hs : m'.mState = m.mState)
    (hsub : ∀ x ∈ m.mSubscriberList, x ∈ m'.mSubscriberList)
    (hacq : m.mState = .acquired → m'.mSubscriberList = m.mSubscriberList) : m'.Notified := by
  refine ⟨hs ▸ hn.valid, hlc, hnd, fun h => ?_, fun ha x hx hact => ?_⟩
  · rcases hn.told h with hf | ⟨hopen, hst, x, hx, hxh, hxa⟩
    · exact .inl (hq.told ht hf)
    · exact .inr ⟨hq.told ht hopen, hs ▸ hst, x, hsub x hx, hxh, hs ▸ hxa⟩
  · rw [hs] at ha
    rw [hacq ha] at hx
    exact hq.told ht (hn.opened ha x hx hact)

theorem Notified.congr (hn : m.Notified) (ht : m'.trace = m.trace) (hs : m'.mState = m.mState)
    (hl : m'.mSubscriberList = m.mSubscriberList) : m'.Notified :=
  hn.quiet [] (fun _ ha => nomatch ha) (by simpa using ht) (hn.lifecycle.congr hs hl)
    (by simpa [handles, hl] using hn.distinct) hs (fun _ hx => hl ▸ hx) fun _ => hl

theorem Notified.logEvent (hn : m.Notified) (event : AgpsEvent) : (m.logEvent event).Notified :=
  hn.quiet [.processAgpsEvent event m.mState]
    (fun a ha _ _ => by obtain rfl := List.mem_singleton.1 ha; rfl) rfl
    (hn.lifecycle.congr rfl rfl) hn.distinct rfl (fun _ hx => hx) fun _ => rfl

/-- A step from `m` to `m'` that shows `out`, keeps the invariant and tells who leaves. -/
structure Serves (m m' : AgpsStateMachine) (out : List AgpsTrace) : Prop where
  notified : m'.Notified
  trace : m'.trace = m.trace ++ out
  leaves : ∀ h ∈ m.handles, h ∉ m'.handles → ∃ a ∈ out, tellsEnd h a = true

theorem Notified.serves_self (hn : m.Notified) : Serves m m [] :=
  ⟨hn, (List.append_nil _).symm, fun _ h h' => absurd h h'⟩

/-- Serving depends on the trace and the handles before the step only. -/
theorem Serves.of_same {m₁ : AgpsStateMachine} (hs : Serves m₁ m' out) (ht : m₁.trace = m.trace)
    (hh : m₁.handles = m.handles) : Serves m m' out :=
  ⟨hs.notified, ht ▸ hs.trace, hh ▸ hs.leaves⟩

theorem Serves.of_log {event : AgpsEvent} (hs : Serves (m.logEvent event) m' out) :
    Serves m m' (.processAgpsEvent event m.mState :: out) := by
  refine ⟨hs.notified, by rw [hs.trace]; simp [AgpsStateMachine.logEvent], fun h hh hh' => ?_⟩
  obtain ⟨a, ha, hta⟩ := hs.leaves h hh hh'
  exact ⟨a, List.mem_cons_of_mem _ ha, hta⟩

/-! ### Subscriptions -/

theorem mem_addSubscriber_of_mem {y : AgpsSubscriber} (hy : y ∈ m.mSubscriberList) :
    y ∈ (m.addSubscriber x).mSubscriberList := by
  rw [addSubscriber_list]
  split
  · exact hy
  · exact List.mem_append_left _ hy

theorem nodup_addSubscriber (hnd : m.handles.Nodup) : (m.addSubscriber x).handles.Nodup := by
  rw [handles, addSubscriber_list]
  split
  · exact hnd
  · rename_i hx
    rw [List.map_append, List.nodup_append]
    refine ⟨hnd, by simp, fun k hk k' hk' hkk => hx ?_⟩
    obtain rfl : k' = x.mConnHandle := by simpa using hk'
    subst hkk
    simpa using hk

theorem exists_addSubscriber
    (hact : ∀ y ∈ m.mSubscriberList, y.mConnHandle = x.mConnHandle → y.Active) (hx : x.Active) :
    ∃ y ∈ (m.addSubscriber x).mSubscriberList, y.mConnHandle = x.mConnHandle ∧ y.Active := by
  rw [addSubscriber_list]
  split
  · rename_i hy
    obtain ⟨y, hy, hyx⟩ := hy
    exact ⟨y, hy, hyx, hact y hy hyx⟩
  · exact ⟨x, by simp, rfl, hx⟩

/-- Every state but the invalid one adds the subscriber. -/
theorem processSubscribe_list (hv : m.mState ≠ .invalid) :
    (m.processAgpsEventSubscribe x).mSubscriberList = (m.addSubscriber x).mSubscriberList := by
  unfold processAgpsEventSubscribe
  cases hs : m.mState with
  | invalid => exact absurd hs hv
  | released | pending | releasing => rfl
  | acquired => rw [addSubscriber_list, addSubscriber_list]; rfl

theorem Notified.serves_subscribe (hn : m.Notified) (hx : x.Active)
    (ho : ∀ y ∈ m.mSubscriberList, y.mConnHandle = x.mConnHandle → m.mState ≠ .acquired) :
    ∃ out, Serves m (m.processAgpsEventSubscribe x) out := by
  have hlist := processSubscribe_list (x := x) hn.valid
  have hlc := hn.lifecycle.processSubscribe hx
  have hnd : (m.processAgpsEventSubscribe x).handles.Nodup := by
    rw [handles, hlist]; exact nodup_addSubscriber hn.distinct
  have hsub : ∀ y ∈ m.mSubscriberList, y ∈ (m.processAgpsEventSubscribe x).mSubscriberList :=
    fun y hy => hlist ▸ mem_addSubscriber_of_mem hy
  have hleaves : ∀ h ∈ m.handles, h ∉ (m.processAgpsEventSubscribe x).handles → False := by
    intro h hh hh'
    obtain ⟨y, hy, rfl⟩ := List.mem_map.1 hh
    exact hh' (List.mem_map.2 ⟨y, hsub y hy, rfl⟩)
  -- the subscriber is only told something when the connection is held
  by_cases hacq : m.mState = .acquired
  · have hproc : m.processAgpsEventSubscribe x =
        (m.notifyEventToSubscriber .granted x).addSubscriber x := by
      simp [processAgpsEventSubscribe, hacq]
    have hfresh : ∀ y ∈ m.mSubscriberList, y.mConnHandle ≠ x.mConnHandle :=
      fun y hy hyx => ho y hy hyx hacq
    have ht : (m.processAgpsEventSubscribe x).trace = m.trace ++ m.notification .granted x := by
      rw [hproc, addSubscriber_eq]; rfl
    have hst : (m.processAgpsEventSubscribe x).mState = .acquired := by
      rw [hproc, addSubscriber_mState]; exact hacq
    have hl : (m.processAgpsEventSubscribe x).mSubscriberList = m.mSubscriberList ++ [x] := by
      rw [hlist, addSubscriber_list, if_neg (by simpa using hfresh)]
    have hother : ∀ {h b}, h ≠ x.mConnHandle → m.told h = some b →
        (m.processAgpsEventSubscribe x).told h = some b := by
      intro h b hh hb
      refine (told_append ht hb).trans (Monitor.follow_cons ?_)
      simp [toldNext, Ne.symm hh]
    have hself : (m.processAgpsEventSubscribe x).told x.mConnHandle = some true := by
      have hb : m.told x.mConnHandle = some false := by
        rcases hn.told x.mConnHandle with hb | ⟨-, -, y, hy, hyx, -⟩
        · exact hb
        · exact absurd hyx (hfresh y hy)
      refine (told_append ht hb).trans (Monitor.follow_cons ?_)
      simp [toldNext]
    refine ⟨_, ⟨by simp [hst], hlc, hnd, fun h => ?_, fun _ y hy hya => ?_⟩, ht,
      fun h hh hh' => (hleaves h hh hh').elim⟩
    · by_cases hh : h = x.mConnHandle
      · subst hh
        exact .inr ⟨hself, .inl hst, x, by simp [hl], rfl, fun _ => hst⟩
      · rcases hn.told h with hf | ⟨hopen, -, y, hy, hyh, -⟩
        · exact .inl (hother hh hf)
        · exact .inr ⟨hother hh hopen, .inl hst, y, hsub y hy, hyh, fun _ => hst⟩
    · rw [hl, List.mem_append, List.mem_singleton] at hy
      rcases hy with hy | rfl
      · exact hother (hfresh y hy) (hn.opened hacq y hy hya)
      · exact hself
  · by_cases hrel : m.mState = .released
    · have hproc : m.processAgpsEventSubscribe x =
          ((m.addSubscriber x).requestOrReleaseDataConn true).transitionState .pending := by
        simp [processAgpsEventSubscribe, hrel]
      have ht : (m.processAgpsEventSubscribe x).trace =
          m.trace ++ [.requestDataConn m.mAgpsType m.mApnTypeMask] := by
        rw [hproc, addSubscriber_eq]; rfl
      have hq : Quiet [.requestDataConn m.mAgpsType m.mApnTypeMask] :=
        fun a ha h b => by obtain rfl := List.mem_singleton.1 ha; rfl
      exact ⟨_, .of_false (.inl (by rw [hproc]; rfl)) hlc hnd fun h =>
        hq.told ht (hn.told_false (.inr hrel) h), ht, fun h hh hh' => (hleaves h hh hh').elim⟩
    · have hproc : m.processAgpsEventSubscribe x = m.addSubscriber x := by
        cases hs : m.mState with
        | acquired => exact absurd hs hacq
        | released => exact absurd hs hrel
        | invalid => exact absurd hs hn.valid
        | pending | releasing => simp [processAgpsEventSubscribe, hs]
      have ht : (m.processAgpsEventSubscribe x).trace = m.trace ++ [] := by
        rw [hproc, addSubscriber_eq, List.append_nil]
      exact ⟨[], hn.quiet [] (fun _ ha => nomatch ha) ht hlc hnd (by rw [hproc, addSubscriber_mState])
        hsub fun ha => absurd ha hacq, ht, fun h hh hh' => (hleaves h hh hh').elim⟩

/-! ### Answers of the framework -/

theorem Notified.serves_granted (hn : m.Notified) :
    ∃ out, Serves m m.processAgpsEventGranted out ∧ (m.mState = .pending →
      ∀ x ∈ m.mSubscriberList, x.Active → out.countP (tells x.mConnHandle) = 1) := by
  by_cases hp : m.mState = .pending
  · have hproc : m.processAgpsEventGranted =
        (m.transitionState .acquired).notifyAllSubscribers .granted false
          .forActiveSubscribers := by
      simp [processAgpsEventGranted, hp]
    set active := m.mSubscriberList.filter (AgpsNotificationType.addresses .forActiveSubscribers)
      with hactive
    have hmem : ∀ y, y ∈ active ↔ y ∈ m.mSubscriberList ∧ y.Active := by
      simp [hactive, AgpsNotificationType.addresses]
    have hnd : (active.map (·.mConnHandle)).Nodup := hn.distinct.sublist (List.filter_sublist.map _)
    have ht : m.processAgpsEventGranted.trace = m.trace ++ active.flatMap (m.notification .granted) := by
      rw [hproc, notifyAllSubscribers, notifyLoop_eq]; rfl
    have hl : m.processAgpsEventGranted.mSubscriberList = m.mSubscriberList := by
      rw [hproc, notifyAllSubscribers_list]; rfl
    have hst : m.processAgpsEventGranted.mState = .acquired := by rw [hproc]; rfl
    have htold : ∀ h, m.processAgpsEventGranted.told h =
        some (if h ∈ active.map (·.mConnHandle) then true else false) := fun h =>
      (told_append ht (hn.told_false (.inl hp) h)).trans (follow_granted hnd fun _ => rfl)
    have hin : ∀ y ∈ m.mSubscriberList, y.Active → y.mConnHandle ∈ active.map (·.mConnHandle) :=
      fun y hy hya => List.mem_map.2 ⟨y, (hmem y).2 ⟨hy, hya⟩, rfl⟩
    refine ⟨_, ⟨⟨by simp [hst], hn.lifecycle.processGranted, by simpa [handles, hl] using hn.distinct,
      fun h => ?_, fun _ y hy hya => ?_⟩, ht, fun h hh hh' => ?_⟩, fun _ y hy hya => ?_⟩
    · by_cases hh : h ∈ active.map (·.mConnHandle)
      · obtain ⟨y, hy, rfl⟩ := List.mem_map.1 hh
        exact .inr ⟨by rw [htold, if_pos hh], .inl hst, y, hl ▸ ((hmem y).1 hy).1, rfl,
          fun _ => hst⟩
      · exact .inl (by rw [htold, if_neg hh])
    · rw [htold, if_pos (hin y (hl ▸ hy) hya)]
    · exact absurd (by simpa [handles, hl] using hh) hh'
    · rw [countP_tells _ (by simp)]
      exact List.count_eq_one_of_mem hnd (hin y hy hya)
  · have hproc : m.processAgpsEventGranted = m := by
      cases hs : m.mState with
      | pending => exact absurd hs hp
      | invalid | released | acquired | releasing => simp [processAgpsEventGranted, hs]
    rw [hproc]
    exact ⟨[], hn.serves_self, fun h => absurd h hp⟩

/-- The whole list is told and deleted, and nobody has been told that a connection is open. -/
theorem Notified.serves_deleteAll (hn : m.Notified) {event : AgpsEvent}
    (he : event = .released ∨ event = .denied ∧ m.mState = .pending) :
    Serves m ((m.transitionState .released).notifyAllSubscribers event true .forAllSubscribers)
      (m.mSubscriberList.flatMap (m.notification event)) := by
  have hall : m.mSubscriberList.filter (AgpsNotificationType.addresses .forAllSubscribers) =
      m.mSubscriberList := by simp [AgpsNotificationType.addresses]
  have ht : ((m.transitionState .released).notifyAllSubscribers event true
      .forAllSubscribers).trace = m.trace ++ m.mSubscriberList.flatMap (m.notification event) := by
    rw [notifyAllSubscribers, notifyLoop_eq]
    exact congrArg (fun l => m.trace ++ List.flatMap (m.notification event) l) hall
  have hl := notifyAllSubscribers_all (m := m.transitionState .released) event
  refine ⟨.of_false (.inr rfl) (.of_released rfl hl) (by rw [handles, hl]; exact .nil) fun h => ?_,
    ht, fun h hh _ => exists_tellsEnd (he.imp_right (·.1)) hh⟩
  rcases he with rfl | ⟨rfl, hp⟩
  · rcases hn.told h with hf | ⟨ho, -, y, hy, rfl, -⟩
    · exact (told_append ht hf).trans ((follow_closed _).trans (by simp))
    · exact (told_append ht ho).trans ((follow_closed _).trans
        (by rw [if_pos (List.mem_map.2 ⟨y, hy, rfl⟩)]))
  · exact quiet_denied.told ht (hn.told_false (.inl hp) h)

theorem Notified.serves_closeReleasing (hn : m.Notified) (hs : m.mState = .releasing) :
    ∃ out, Serves m m.closeReleasing out := by
  set inactive := m.mSubscriberList.filter
    (AgpsNotificationType.addresses .forInactiveSubscribers) with hinactive
  set more : List AgpsTrace := if m.closeReleasing.mState = .pending then
    [.requestDataConn m.mAgpsType m.mApnTypeMask] else [] with hmore
  have hl : m.closeReleasing.mSubscriberList = m.mSubscriberList.filter fun y =>
      !AgpsNotificationType.addresses .forInactiveSubscribers y := by
    rw [← if_pos (rfl : true = true) (α := List AgpsSubscriber) (t := m.mSubscriberList.filter _)
      (e := m.mSubscriberList), ← notifyAllSubscribers_list .released]
    unfold closeReleasing
    dsimp only
    split <;> rfl
  have ht : m.closeReleasing.trace =
      m.trace ++ (inactive.flatMap (m.notification .released) ++ more) := by
    have htn : (m.notifyAllSubscribers .released true .forInactiveSubscribers).trace =
        m.trace ++ inactive.flatMap (m.notification .released) := by
      rw [notifyAllSubscribers, notifyLoop_eq]
    rw [← List.append_assoc, ← htn, hmore]
    unfold closeReleasing
    dsimp only
    split
    · rfl
    · simp [transitionState]
  have hstate : m.closeReleasing.mState = .pending ∨ m.closeReleasing.mState = .released := by
    unfold closeReleasing
    dsimp only
    split
    · exact .inl rfl
    · exact .inr rfl
  have hq : Quiet more := by
    intro a ha h b
    rw [hmore] at ha
    split at ha
    · obtain rfl := List.mem_singleton.1 ha; rfl
    · cases ha
  refine ⟨_, .of_false hstate lifecycle_closeReleasing ?_ fun h => ?_, ht, fun h hh hh' => ?_⟩
  · rw [handles, hl]
    exact hn.distinct.sublist (List.filter_sublist.map _)
  · have hsilent : Monitor.follow (toldNext h) false more = some false :=
      Monitor.follow_silent fun a ha => hq a ha h false
    rcases hn.told h with hf | ⟨ho, -, y, hy, rfl, hya⟩
    · refine (told_append ht hf).trans ((Monitor.follow_append (follow_closed _)).trans ?_)
      simpa using hsilent
    · -- who has been told so is waiting for this close
      have hyin : y ∈ inactive := by
        rw [hinactive, List.mem_filter]
        refine ⟨hy, ?_⟩
        by_contra hne
        have := hya (by simpa [AgpsNotificationType.addresses] using hne)
        rw [hs] at this; cases this
      refine (told_append ht ho).trans ((Monitor.follow_append (follow_closed _)).trans ?_)
      rw [if_pos (List.mem_map.2 ⟨y, hyin, rfl⟩)]
      exact hsilent
  · obtain ⟨y, hy, rfl⟩ := List.mem_map.1 hh
    have hyin : y ∈ inactive := by
      by_contra hne
      refine hh' (List.mem_map.2 ⟨y, ?_, rfl⟩)
      rw [hl, List.mem_filter]
      exact ⟨hy, by simpa [hinactive, hy] using hne⟩
    obtain ⟨a, ha, hta⟩ := exists_tellsEnd (m := m) (.inl rfl)
      (List.mem_map.2 ⟨y, hyin, rfl⟩)
    exact ⟨a, List.mem_append_left _ ha, hta⟩

theorem Notified.serves_denied (hn : m.Notified) :
    ∃ out, Serves m m.processAgpsEventDenied out ∧ (m.mState = .pending →
      ∀ x ∈ m.mSubscriberList, out.countP (tells x.mConnHandle) = 1) := by
  cases hs : m.mState with
  | pending =>
    have hproc : m.processAgpsEventDenied =
        (m.transitionState .released).notifyAllSubscribers .denied true .forAllSubscribers := by
      simp [processAgpsEventDenied, hs]
    rw [hproc]
    refine ⟨_, hn.serves_deleteAll (.inr ⟨rfl, hs⟩), fun _ y hy => ?_⟩
    rw [countP_tells _ (by simp)]
    exact List.count_eq_one_of_mem hn.distinct (List.mem_map.2 ⟨y, hy, rfl⟩)
  | releasing =>
    have hproc : m.processAgpsEventDenied = m.closeReleasing := by
      simp [processAgpsEventDenied, hs]
    obtain ⟨out, hout⟩ := hn.serves_closeReleasing hs
    exact ⟨out, hproc ▸ hout, nofun⟩
  | invalid | released | acquired =>
    have hproc : m.processAgpsEventDenied = m := by simp [processAgpsEventDenied, hs]
    exact ⟨[], hproc.symm ▸ hn.serves_self, nofun⟩

theorem Notified.serves_released (hn : m.Notified) :
    ∃ out, Serves m m.processAgpsEventReleased out := by
  cases hs : m.mState with
  | acquired =>
    have hproc : m.processAgpsEventReleased =
        (m.transitionState .released).notifyAllSubscribers .released true .forAllSubscribers := by
      simp [processAgpsEventReleased, hs]
    exact ⟨_, hproc ▸ hn.serves_deleteAll (.inl rfl)⟩
  | releasing =>
    have hproc : m.processAgpsEventReleased = m.closeReleasing := by
      simp [processAgpsEventReleased, hs]
    exact hproc ▸ hn.serves_closeReleasing hs
  | invalid | released | pending =>
    have hproc : m.processAgpsEventReleased = m := by simp [processAgpsEventReleased, hs]
    exact ⟨[], hproc.symm ▸ hn.serves_self⟩

/-! ### Unsubscriptions -/

/-- Deleting a listed entry takes nothing else when nothing else is misread for it. -/
theorem deleteFrom_eq {freed : AgpsSubscriber → ℤ} {l : List AgpsSubscriber}
    (hnd : (l.map (·.mConnHandle)).Nodup) (hx : x ∈ l)
    (ho : ∀ A B, l = A ++ x :: B → ∀ y ∈ B, y.mConnHandle ≠ freed y) :
    deleteFrom freed x.mConnHandle l = l.filter fun y => y.mConnHandle ≠ x.mConnHandle := by
  induction l with
  | nil => cases hx
  | cons z l ih =>
    rw [List.map_cons, List.nodup_cons] at hnd
    have hne : ∀ y ∈ l, y.mConnHandle ≠ z.mConnHandle :=
      fun y hy hyz => hnd.1 (List.mem_map.2 ⟨y, hy, hyz⟩)
    rcases List.mem_cons.1 hx with rfl | hxl
    · rw [deleteFrom, if_pos rfl, List.filter_cons_of_neg (by simp),
        List.filter_eq_self.2 fun y hy => decide_eq_true (ho [] l rfl y hy),
        List.filter_eq_self.2 fun y hy => decide_eq_true (hne y hy)]
    · have hzx : z.mConnHandle ≠ x.mConnHandle := (hne x hxl).symm
      rw [deleteFrom, if_neg hzx, List.filter_cons_of_pos (by simpa using hzx),
        ih hnd.2 hxl fun A B hAB => ho (z :: A) B (by rw [hAB]; rfl)]

theorem mem_setInactive {l : List AgpsSubscriber} {y : AgpsSubscriber} :
    (y.Active → y ∈ setInactive h l → y ∈ l) ∧
      (y.mConnHandle ≠ h → y ∈ l → y ∈ setInactive h l) := by
  induction l with
  | nil => simp [setInactive]
  | cons z l ih =>
    unfold setInactive
    split
    · rename_i hz
      refine ⟨fun hy hm => ?_, fun hy hm => ?_⟩
      · rcases List.mem_cons.1 hm with rfl | hm
        · cases hy
        · exact List.mem_cons_of_mem _ hm
      · rcases List.mem_cons.1 hm with rfl | hm
        · exact absurd hz hy
        · exact List.mem_cons_of_mem _ hm
    · refine ⟨fun hy hm => ?_, fun hy hm => ?_⟩
      · exact (List.mem_cons.1 hm).elim (fun e => e ▸ List.mem_cons_self)
          fun hm => List.mem_cons_of_mem _ (ih.1 hy hm)
      · exact (List.mem_cons.1 hm).elim (fun e => e ▸ List.mem_cons_self)
          fun hm => List.mem_cons_of_mem _ (ih.2 hy hm)

/-- What the first part of an unsubscription does: the entry waits, or it is told and goes. -/
structure Leaves (m m' : AgpsStateMachine) (x : AgpsSubscriber) (out : List AgpsTrace) : Prop where
  trace : m'.trace = m.trace ++ out
  distinct : m'.handles.Nodup
  /-- Active entries are old ones. -/
  old : ∀ y ∈ m'.mSubscriberList, y.Active → y ∈ m.mSubscriberList
  /-- Other entries stay. -/
  others : ∀ y ∈ m.mSubscriberList, y.mConnHandle ≠ x.mConnHandle → y ∈ m'.mSubscriberList
  told : ∀ h b, h ≠ x.mConnHandle → Monitor.follow (toldNext h) b out = some b
  self : out = [] ∧ x.mConnHandle ∈ m'.handles ∨
    x.mConnHandle ∉ m'.handles ∧
      (∀ b, Monitor.follow (toldNext x.mConnHandle) b out = some false) ∧
        ∃ a ∈ out, tellsEnd x.mConnHandle a = true

theorem Notified.leaveOrWait (hn : m.Notified) {freed : AgpsSubscriber → ℤ}
    (hx : x ∈ m.mSubscriberList)
    (ho : x.mWaitForCloseComplete = false → ∀ A B, m.mSubscriberList = A ++ x :: B →
      ∀ y ∈ B, y.mConnHandle ≠ freed y) :
    ∃ out, Leaves m (m.leaveOrWait x freed) x out := by
  cases hw : x.mWaitForCloseComplete with
  | true =>
    have hproc : m.leaveOrWait x freed =
        { m with mSubscriberList := setInactive x.mConnHandle m.mSubscriberList } := if_pos hw
    rw [hproc]
    have hh : ({ m with mSubscriberList := setInactive x.mConnHandle m.mSubscriberList } :
        AgpsStateMachine).handles = m.handles := setInactive_handles
    exact ⟨[], (List.append_nil _).symm, hh ▸ hn.distinct, fun y hy hya => mem_setInactive.1 hya hy,
      fun y hy hyx => mem_setInactive.2 hyx hy, fun _ _ _ => rfl,
      .inl ⟨rfl, hh ▸ List.mem_map.2 ⟨x, hx, rfl⟩⟩⟩
  | false =>
    have hproc : m.leaveOrWait x freed = m.notifyAndDelete .unsubscribe x freed :=
      if_neg (by simp [hw])
    have hl : (m.leaveOrWait x freed).mSubscriberList =
        m.mSubscriberList.filter fun y => y.mConnHandle ≠ x.mConnHandle := by
      rw [hproc]
      exact deleteFrom_eq hn.distinct hx (ho hw)
    refine ⟨[.atlCloseStatus x.mConnHandle true], by rw [hproc]; rfl, ?_, ?_, ?_, ?_,
      .inr ⟨?_, ?_, ?_⟩⟩
    · rw [handles, hl]
      exact hn.distinct.sublist (List.filter_sublist.map _)
    · exact fun y hy _ => (List.mem_filter.1 (hl ▸ hy)).1
    · exact fun y hy hyx => hl ▸ List.mem_filter.2 ⟨hy, decide_eq_true hyx⟩
    · exact fun h b hh => Monitor.follow_cons (by simp [toldNext, Ne.symm hh])
    · rw [handles, hl]; simp
    · exact fun b => Monitor.follow_cons (by simp [toldNext])
    · exact ⟨_, List.mem_singleton_self _, by simp [tellsEnd]⟩

/-- The rest of an unsubscription sets the state and may speak to the framework. -/
theorem Notified.serves_leave (hn : m.Notified) {m₁ : AgpsStateMachine} {more : List AgpsTrace}
    (hleave : Leaves m m₁ x out) (hl : m'.mSubscriberList = m₁.mSubscriberList)
    (ht : m'.trace = m₁.trace ++ more) (hq : Quiet more) (hlc : m'.Lifecycle)
    (hst : m'.mState = .released ∨ m'.mState = m.mState ∨
      m'.mState = .releasing ∧ ∀ y ∈ m'.mSubscriberList, ¬ y.Active) :
    Serves m m' (out ++ more) := by
  have ht' : m'.trace = m.trace ++ (out ++ more) := by rw [ht, hleave.trace, List.append_assoc]
  have hh : m'.handles = m₁.handles := by rw [handles, hl]; rfl
  have htold : ∀ {h b b'}, m.told h = some b → Monitor.follow (toldNext h) b out = some b' →
      m'.told h = some b' := fun hb hf =>
    (told_append ht' hb).trans ((Monitor.follow_append hf).trans
      (Monitor.follow_silent fun a ha => hq a ha _ _))
  -- who has been told of the connection and is listed still waits for its close
  have hlisted : ∀ {h}, m.told h = some true → h ∈ m'.handles →
      (m'.mState = .acquired ∨ m'.mState = .releasing) ∧
        ∃ y ∈ m'.mSubscriberList, y.mConnHandle = h ∧ (y.Active → m'.mState = .acquired) := by
    intro h ho hh'
    obtain ⟨y, hy, rfl⟩ := List.mem_map.1 hh'
    rcases hn.told y.mConnHandle with hf | ⟨-, hs, z, hz, hzy, hza⟩
    · rw [hf] at ho; cases ho
    have hya : y.Active → m.mState = .acquired := by
      intro hact
      obtain rfl : z = y := List.inj_on_of_nodup_map hn.distinct hz (hleave.old y (hl ▸ hy) hact) hzy
      exact hza hact
    rcases hst with hr | hsame | ⟨hr, hnone⟩
    · rw [hlc.released.1 hr] at hy; cases hy
    · rw [hsame]; exact ⟨hs, y, hy, rfl, hya⟩
    · exact ⟨.inr hr, y, hy, rfl, fun hact => absurd hact (hnone y hy)⟩
  have hkeep : ∀ h, h ∈ m.handles → h ≠ x.mConnHandle → h ∈ m'.handles := by
    intro h hm hne
    obtain ⟨y, hy, rfl⟩ := List.mem_map.1 hm
    rw [hh]
    exact List.mem_map.2 ⟨y, hleave.others y hy hne, rfl⟩
  refine ⟨⟨fun hv => ?_, hlc, hh ▸ hleave.distinct, fun h => ?_, fun ha y hy hact => ?_⟩, ht',
    fun h hm hm' => ?_⟩
  · rcases hst with hr | hsame | ⟨hr, -⟩
    · rw [hr] at hv; cases hv
    · exact hn.valid (hsame ▸ hv)
    · rw [hr] at hv; cases hv
  · rcases hn.told h with hf | ⟨ho, -, y, hy, hyh, -⟩
    · refine .inl (htold hf ?_)
      by_cases hhx : h = x.mConnHandle
      · subst hhx
        rcases hleave.self with ⟨rfl, -⟩ | ⟨-, hself, -⟩
        · rfl
        · exact hself false
      · exact hleave.told h false hhx
    · by_cases hhx : h = x.mConnHandle
      · subst hhx
        rcases hleave.self with ⟨rfl, hm⟩ | ⟨-, hself, -⟩
        · exact .inr ⟨htold ho rfl, hlisted ho (hh ▸ hm)⟩
        · exact .inl (htold ho (hself true))
      · exact .inr ⟨htold ho (hleave.told h true hhx),
          hlisted ho (hkeep h (List.mem_map.2 ⟨y, hy, hyh⟩) hhx)⟩
  · have hacq : m.mState = .acquired := by
      rcases hst with hr | hsame | ⟨hr, -⟩
      · rw [hr] at ha; cases ha
      · exact hsame ▸ ha
      · rw [hr] at ha; cases ha
    have ho := hn.opened hacq y (hleave.old y (hl ▸ hy) hact) hact
    by_cases hyx : y.mConnHandle = x.mConnHandle
    · rcases hleave.self with ⟨rfl, -⟩ | ⟨hgone, -⟩
      · exact htold ho rfl
      · exact absurd (hyx ▸ List.mem_map.2 ⟨y, hl ▸ hy, rfl⟩) hgone
    · exact htold ho (hleave.told _ true hyx)
  · by_cases hhx : h = x.mConnHandle
    · subst hhx
      rcases hleave.self with ⟨-, hm₁⟩ | ⟨-, -, a, ha, hta⟩
      · exact absurd (hh ▸ hm₁) hm'
      · exact ⟨a, List.mem_append_left _ ha, hta⟩
    · exact absurd (hkeep h hm hhx) hm'

theorem quiet_release {type : AGpsExtType} {mask : LocApnTypeMask} :
    Quiet [.releaseDataConn type mask] :=
  fun a ha h b => by obtain rfl := List.mem_singleton.1 ha; rfl

theorem Notified.serves_unsubscribe (hn : m.Notified) (freed : AgpsSubscriber → ℤ)
    (hx : x ∈ m.mSubscriberList)
    (ho : x.mWaitForCloseComplete = false → ∀ A B, m.mSubscriberList = A ++ x :: B →
      ∀ y ∈ B, y.mConnHandle ≠ freed y) :
    ∃ out, Serves m (m.processAgpsEventUnsubscribe x freed) out := by
  obtain ⟨out, hleave⟩ := hn.leaveOrWait hx ho
  have hlc := hn.lifecycle.processUnsubscribe (x := x) freed
  have hne : m.mState ≠ .released := fun hr => by
    rw [hn.lifecycle.released.1 hr] at hx; cases hx
  cases hc : m.mState.connected with
  | true =>
    cases hact : (m.leaveOrWait x freed).anyActiveSubscribers with
    | true =>
      rw [processUnsubscribe_staying hc hact] at hlc ⊢
      exact ⟨_, hn.serves_leave hleave rfl (List.append_nil _).symm (fun _ ha => nomatch ha) hlc
        (.inr (.inl leaveOrWait_mState))⟩
    | false =>
      have hnone : ∀ y ∈ (m.leaveOrWait x freed).mSubscriberList, ¬ y.Active := fun y hy hya => by
        rw [anyActiveSubscribers_iff.2 ⟨y, hy, hya⟩] at hact; cases hact
      obtain ⟨s, hs, heq⟩ := processUnsubscribe_closing hc hact
      rw [heq] at hlc ⊢
      refine ⟨_, hn.serves_leave hleave rfl rfl quiet_release hlc ?_⟩
      rcases hs with rfl | rfl
      · exact .inl rfl
      · exact .inr (.inr ⟨rfl, hnone⟩)
  | false =>
    have hrel : m.mState = .releasing := by
      cases hs : m.mState with
      | releasing => rfl
      | released => exact absurd hs hne
      | invalid => exact absurd hs hn.valid
      | pending | acquired => rw [hs] at hc; cases hc
    have hproc : m.processAgpsEventUnsubscribe x freed =
        if (m.leaveOrWait x freed).mSubscriberList.isEmpty = true then
          (m.leaveOrWait x freed).transitionState .released else m.leaveOrWait x freed := by
      simp only [processAgpsEventUnsubscribe, hrel]
    rw [hproc] at hlc ⊢
    split at hlc
    · rename_i hnil
      rw [if_pos hnil]
      exact ⟨_, hn.serves_leave hleave rfl (List.append_nil _).symm (fun _ ha => nomatch ha) hlc
        (.inl rfl)⟩
    · rename_i hnil
      rw [if_neg hnil]
      exact ⟨_, hn.serves_leave hleave rfl (List.append_nil _).symm (fun _ ha => nomatch ha) hlc
        (.inr (.inl leaveOrWait_mState))⟩

/-- **One orderly step** serves the subscribers and keeps the invariant. -/
theorem Notified.step (hn : m.Notified) {i : AgpsInput} (hi : i ≠ .modemSSR) (ho : m.Orderly i) :
    (m.apply i).Notified ∧ m.Informed i := by
  have conclude : ∀ {out}, Serves m (m.apply i) out →
      ((∃ bearer apn len, i = .granted bearer apn len) ∨ i = .denied → m.mState = .pending →
        ∀ y ∈ m.mSubscriberList, y.Active → out.countP (tells y.mConnHandle) = 1) →
      (∀ type mask h wait, i = .subscribe type mask h wait →
        ∃ y ∈ (m.apply i).mSubscriberList, y.mConnHandle = h ∧ y.Active) →
      (m.apply i).Notified ∧ m.Informed i := by
    intro out hs hans hsub
    have hnews : m.news (m.apply i) = out := by rw [news, hs.trace, List.drop_left]
    refine ⟨hs.notified, hs.notified.distinct, fun h => ?_, hnews ▸ hans, hnews ▸ hs.leaves, hsub⟩
    rcases hs.notified.told h with ht | ⟨ht, -⟩ <;> simp [ht]
  cases i with
  | subscribe type mask handle wait =>
    have hn' : ({ m with mAgpsType := type, mApnTypeMask := mask } : AgpsStateMachine).Notified :=
      hn.congr rfl rfl rfl
    obtain ⟨out, hs⟩ := (hn'.logEvent .subscribe).serves_subscribe
      (x := ⟨handle, wait, false, mask⟩) rfl fun y hy hyx => (ho y hy hyx).2
    refine conclude (hs.of_log.of_same rfl rfl)
      (fun ha => by rcases ha with ⟨_, _, _, h⟩ | h <;> cases h) ?_
    rintro _ _ _ _ ⟨⟩
    change ∃ y ∈ (processAgpsEventSubscribe _ _).mSubscriberList, _
    rw [processSubscribe_list (hn'.logEvent .subscribe).valid]
    exact exists_addSubscriber (fun y hy hyx => (ho y hy hyx).1) rfl
  | unsubscribe handle freed =>
    obtain ⟨out, hs⟩ : ∃ out, Serves m (m.apply (.unsubscribe handle freed)) out := by
      unfold AgpsStateMachine.apply
      dsimp only
      cases hx : m.getSubscriber handle with
      | none => exact ⟨[], hn.serves_self⟩
      | some x =>
        obtain ⟨hxl, hxh⟩ := getSubscriber_some hx
        obtain ⟨out, hs⟩ := (hn.logEvent .unsubscribe).serves_unsubscribe freed hxl
          fun hw A B hAB => ho A x B hAB hxh hw
        exact ⟨_, hs.of_log⟩
    exact conclude hs (fun ha => by rcases ha with ⟨_, _, _, h⟩ | h <;> cases h)
      fun _ _ _ _ h => nomatch h
  | granted bearer apn len =>
    obtain ⟨hst, hl, ht, -⟩ := setAPN_eq (m := { m with mBearer := bearer }) apn len
    have hn' := hn.congr ht hst hl
    obtain ⟨out, hs, hans⟩ := (hn'.logEvent .granted).serves_granted
    refine conclude (hs.of_log.of_same ht (by rw [handles, hl]; rfl)) (fun _ hp y hy hya => ?_)
      fun _ _ _ _ h => nomatch h
    rw [List.countP_cons_of_neg (by simp [tells])]
    have hy' : y ∈ (({ m with mBearer := bearer } : AgpsStateMachine).setAPN apn
        len).mSubscriberList := by rw [hl]; exact hy
    exact hans (hst.trans hp) y hy' hya
  | denied =>
    obtain ⟨out, hs, hans⟩ := (hn.logEvent .denied).serves_denied
    refine conclude hs.of_log (fun _ hp y hy hya => ?_) fun _ _ _ _ h => nomatch h
    rw [List.countP_cons_of_neg (by simp [tells])]
    exact hans hp y hy
  | released =>
    obtain ⟨out, hs⟩ := (hn.logEvent .released).serves_released
    exact conclude hs.of_log (fun ha => by rcases ha with ⟨_, _, _, h⟩ | h <;> cases h)
      fun _ _ _ _ h => nomatch h
  | modemSSR => exact absurd rfl hi

/-! ### What disorderly inputs do -/

/-- A subscription of a listed handle changes nothing in the list. -/
theorem addSubscriber_listed {y : AgpsSubscriber} (hy : y ∈ m.mSubscriberList)
    (hyx : y.mConnHandle = x.mConnHandle) :
    (m.addSubscriber x).mSubscriberList = m.mSubscriberList := by
  rw [addSubscriber_list, if_pos ⟨y, hy, hyx⟩]

/-- An unsubscription acts on the list by its first part only, and may speak to the framework. -/
theorem processUnsubscribe_shape (freed : AgpsSubscriber → ℤ) (hr : m.mState ≠ .released)
    (hv : m.mState ≠ .invalid) :
    ∃ more, (more = [] ∨ ∃ type mask, more = [AgpsTrace.releaseDataConn type mask]) ∧
      (m.processAgpsEventUnsubscribe x freed).trace = (m.leaveOrWait x freed).trace ++ more ∧
      (m.processAgpsEventUnsubscribe x freed).mSubscriberList =
        (m.leaveOrWait x freed).mSubscriberList := by
  cases hc : m.mState.connected with
  | true =>
    cases hact : (m.leaveOrWait x freed).anyActiveSubscribers with
    | true =>
      rw [processUnsubscribe_staying hc hact]
      exact ⟨[], .inl rfl, (List.append_nil _).symm, rfl⟩
    | false =>
      obtain ⟨s, -, heq⟩ := processUnsubscribe_closing hc hact
      rw [heq]
      exact ⟨_, .inr ⟨_, _, rfl⟩, rfl, rfl⟩
  | false =>
    refine ⟨[], .inl rfl, ?_⟩
    unfold processAgpsEventUnsubscribe
    cases hs : m.mState with
    | released => exact absurd hs hr
    | invalid => exact absurd hs hv
    | pending | acquired => rw [hs] at hc; cases hc
    | releasing =>
      dsimp only
      split <;> exact ⟨(List.append_nil _).symm, rfl⟩

/-- An entry that is misread for the deleted one goes too. -/
theorem not_mem_deleteFrom {freed : AgpsSubscriber → ℤ} {l A B : List AgpsSubscriber}
    {y : AgpsSubscriber} (hnd : (l.map (·.mConnHandle)).Nodup) (hl : l = A ++ x :: B) (hy : y ∈ B)
    (hyf : y.mConnHandle = freed y) :
    y.mConnHandle ∉ (deleteFrom freed x.mConnHandle l).map (·.mConnHandle) := by
  subst hl
  intro hm
  obtain ⟨z, hz, hzy⟩ := List.mem_map.1 hm
  have hzl := deleteFrom_sublist.subset hz
  obtain rfl := List.inj_on_of_nodup_map hnd hzl (by simp [hy]) hzy
  clear hzy hm hzl
  induction A with
  | nil =>
    rw [List.nil_append, deleteFrom, if_pos rfl] at hz
    simpa [hyf] using (List.mem_filter.1 hz).2
  | cons w A ih =>
    rw [List.cons_append, List.map_cons, List.nodup_cons] at hnd
    have hwx : w.mConnHandle ≠ x.mConnHandle :=
      fun h => hnd.1 (h ▸ List.mem_map.2 ⟨x, by simp, rfl⟩)
    rw [List.cons_append, deleteFrom, if_neg hwx] at hz
    rcases List.mem_cons.1 hz with rfl | hz
    · exact hnd.1 (List.mem_map.2 ⟨z, by simp [hy], rfl⟩)
    · exact ih hnd.2 hz

theorem Notified.orderly_of_informed (hn : m.Notified) {i : AgpsInput} (hi : m.Informed i) :
    m.Orderly i := by
  cases i with
  | subscribe type mask handle wait =>
    rintro y hy rfl
    have hlist : (m.apply (.subscribe type mask y.mConnHandle wait)).mSubscriberList =
        m.mSubscriberList := by
      have hproc := processSubscribe_list (x := ⟨y.mConnHandle, wait, false, mask⟩)
        (m := ({ m with mAgpsType := type, mApnTypeMask := mask } : AgpsStateMachine).logEvent
          .subscribe) hn.valid
      exact hproc.trans (addSubscriber_listed (y := y) hy rfl)
    have hact : y.Active := by
      obtain ⟨z, hz, hzy, hza⟩ := hi.subscribed type mask _ wait rfl
      rw [hlist] at hz
      exact List.inj_on_of_nodup_map hn.distinct hz hy hzy ▸ hza
    refine ⟨hact, fun hacq => hi.openOnce y.mConnHandle ?_⟩
    -- it has been told before, and is told again
    have ht : (m.apply (.subscribe type mask y.mConnHandle wait)).trace =
        m.trace ++ [.processAgpsEvent .subscribe m.mState, .atlOpenStatus y.mConnHandle true m.mAPN
          m.mAPNLen m.mBearer type mask] := by
      change (processAgpsEventSubscribe _ _).trace = _
      rw [processAgpsEventSubscribe]
      simp only [AgpsStateMachine.logEvent, hacq]
      rw [addSubscriber_eq]
      simp [notifyEventToSubscriber, notification]
    refine (told_append ht (hn.opened hacq y hy hact)).trans ?_
    have hsilent : toldNext y.mConnHandle true (.processAgpsEvent .subscribe m.mState) =
        some true := rfl
    rw [Monitor.follow_cons hsilent]
    exact Monitor.follow_cons_none (by simp [toldNext])
  | unsubscribe handle freed =>
    rintro A x B hAB rfl hw y hy hyf
    have hnd : ((A ++ x :: B).map (·.mConnHandle)).Nodup := hAB ▸ hn.distinct
    have hxl : x ∈ m.mSubscriberList := by rw [hAB]; simp
    have hyl : y ∈ m.mSubscriberList := by rw [hAB]; simp [hy]
    have hyx : y.mConnHandle ≠ x.mConnHandle := by
      intro h
      rw [List.map_append, List.map_cons, List.nodup_append] at hnd
      exact (List.nodup_cons.1 hnd.2.1).1 (h ▸ List.mem_map.2 ⟨y, hy, rfl⟩)
    have hget : m.getSubscriber x.mConnHandle = some x := by
      cases hz : m.getSubscriber x.mConnHandle with
      | none => exact absurd (List.find?_eq_none.1 hz x hxl) (by simp)
      | some z =>
        obtain ⟨hzl, hzx⟩ := getSubscriber_some hz
        exact congrArg some (List.inj_on_of_nodup_map hn.distinct hzl hxl hzx)
    have happly : m.apply (.unsubscribe x.mConnHandle freed) =
        (m.logEvent .unsubscribe).processAgpsEventUnsubscribe x freed := by
      simp only [AgpsStateMachine.apply, hget]
    have hrel : m.mState ≠ .released := fun hr => by
      rw [hn.lifecycle.released.1 hr] at hxl; cases hxl
    have hleave : (m.logEvent .unsubscribe).leaveOrWait x freed =
        (m.logEvent .unsubscribe).notifyAndDelete .unsubscribe x freed := if_neg (by simp [hw])
    obtain ⟨more, hmore, ht, hl⟩ := processUnsubscribe_shape (m := m.logEvent .unsubscribe) (x := x)
      freed hrel hn.valid
    rw [hleave] at ht hl
    have hgone : y.mConnHandle ∉ (m.apply (.unsubscribe x.mConnHandle freed)).handles := by
      rw [handles, happly, hl]
      exact not_mem_deleteFrom hn.distinct hAB hy hyf
    have ht' : (m.apply (.unsubscribe x.mConnHandle freed)).trace = m.trace ++
        ([.processAgpsEvent .unsubscribe m.mState, .atlCloseStatus x.mConnHandle true] ++ more) := by
      rw [happly, ht]
      simp [notifyAndDelete, notifyEventToSubscriber, notification, AgpsStateMachine.logEvent]
    obtain ⟨a, ha, hta⟩ := hi.leaves _ (List.mem_map.2 ⟨y, hyl, rfl⟩) hgone
    rw [news, ht', List.drop_left, List.mem_append, List.mem_cons, List.mem_singleton] at ha
    -- only the one who unsubscribes is told
    rcases ha with (rfl | rfl) | ha
    · cases hta
    · exact hyx (Eq.symm (by simpa [tellsEnd] using hta))
    · rcases hmore with rfl | ⟨t, k, rfl⟩
      · cases ha
      · obtain rfl := List.mem_singleton.1 ha
        cases hta
  | granted | denied | released | modemSSR => trivial

end Steps

section Runs

variable {type : AGpsExtType} {mask : LocApnTypeMask} {es : List AgpsInput} {m : AgpsStateMachine}

/-- **What a subscriber hears.**  All steps of a run do what they owe the subscribers exactly when
all its inputs are orderly. -/
theorem run_informed_iff :
    (undisturbed type mask).Run Informed es m ↔ (undisturbed type mask).Run Orderly es m := by
  refine System.run_congr (J := Notified) ?_ ?_ ?_
  · exact .of_false (.inr rfl) lifecycle_init .nil fun _ => rfl
  · rintro m i _ hn ho ⟨hi, rfl⟩
    exact (hn.step hi ho).1
  · rintro m i _ hn ⟨hi, rfl⟩
    exact ⟨hn.orderly_of_informed, fun ho => (hn.step hi ho).2⟩

/-- A client waits for the close of its connection while another uses it, and subscribes again:
its entry stays inactive. -/
theorem informed_broken :
    ∃ m, (undisturbed LOC_AGPS_TYPE_SUPL 0).Run System.Free
      [.subscribe 1 0 7 true, .subscribe 1 0 8 false, .unsubscribe 7 fun _ => 7] m ∧
        ¬ m.Informed (.subscribe 1 0 7 true) := by
  have h₁ : (undisturbed LOC_AGPS_TYPE_SUPL 0).Run System.Free [.subscribe 1 0 7 true] _ :=
    .snoc .nil trivial ⟨nofun, rfl⟩
  have h₂ := h₁.snoc (e := .subscribe 1 0 8 false) trivial ⟨nofun, rfl⟩
  refine ⟨_, h₂.snoc trivial ⟨nofun, rfl⟩, fun h => ?_⟩
  obtain ⟨x, hx, hh, hact⟩ := h.subscribed 1 0 7 true rfl
  revert x
  decide

end Runs

end AgpsStateMachine

end GpsHal
