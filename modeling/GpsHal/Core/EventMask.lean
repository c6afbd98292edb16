import GpsHal.Core.AdapterRegistry
import GpsHal.Transition.Basic
import Mathlib.Logic.Function.Basic

/-!
# The events that the location API is opened for

Each adapter keeps a mask of the events that it wants.  The API is opened for the events of all of
them by messages to a thread of its own, which looks at the masks when it takes a message, and the
adapters come, go and change their masks in between.

## Main definitions

* `LocApiEvents` : the adapters with their masks, the queue of the thread, and the mask of the last
  `open`.
* `LocApiEvents.step`, `LocApiEvents.system` : the adapters, the engine and the thread in any order.

## Main results

* `LocApiEvents.current_of_run` : with an empty queue the API is open for what the adapters want.
* `LocApiEvents.drain` : the thread can always empty the queue, and only `opened` changes by that.
-/

namespace GpsHal

/-- `loc_registration_mask_status` -/
inductive LocRegistrationMaskStatus
  | ENABLED
  | DISABLED
  | SET
  deriving DecidableEq, Repr

/-- The messages that open or close the API. -/
inductive ApiThreadMsg (α : Type)
  | registry (msg : LocApiMsg α)
  | LocSsrMsg
  deriving DecidableEq, Repr

/-- `opened` is the mask of the last call of `open`, or `none` when `close` was called after it. -/
structure LocApiEvents (α : Type) where
  api : LocApiBase α
  mEvtMask : α → BitVec 64
  queue : List (ApiThreadMsg α)
  opened : Option (BitVec 64)

/-- What an adapter, the engine or the thread does next. -/
inductive ApiEvent (α : Type)
  | create (adapter : α) (mask : BitVec 64)
  | destroy (adapter : α)
  | updateEvtMask (adapter : α) (event : BitVec 64) (status : LocRegistrationMaskStatus)
  | handleEngineDownEvent
  | process

namespace LocApiEvents

variable {α : Type}

def init : LocApiEvents α := ⟨LocApiBase.init, fun _ => 0, [], none⟩

def sendMsg (s : LocApiEvents α) (msg : ApiThreadMsg α) : LocApiEvents α :=
  { s with queue := s.queue ++ [msg] }

/-- A call on the API sends its messages to the thread. -/
def call (s : LocApiEvents α) (f : LocApiBase α → LocApiBase α) : LocApiEvents α :=
  let api := f { s.api with msgs := [] }
  { s with api := { api with msgs := [] }, queue := s.queue ++ api.msgs.map .registry }

def handleEngineDownEvent (s : LocApiEvents α) : LocApiEvents α := s.sendMsg .LocSsrMsg

variable (mExcludedMask : BitVec 64)

def getEvtMask (s : LocApiEvents α) : BitVec 64 := s.api.getEvtMask s.mEvtMask mExcludedMask

/-- `proc` of a message. -/
def proc (s : LocApiEvents α) : ApiThreadMsg α → LocApiEvents α
  | .registry (.LocOpenMsg _) => { s with opened := some (s.getEvtMask mExcludedMask) }
  | .registry .LocCloseMsg => { s with opened := none }
  | .LocSsrMsg => { s with opened := some (s.getEvtMask mExcludedMask) }

section

variable [DecidableEq α]

def setEvtMask (s : LocApiEvents α) (adapter : α) (mask : BitVec 64) : LocApiEvents α :=
  { s with mEvtMask := Function.update s.mEvtMask adapter mask }

/-- The constructor of `LocAdapterBase`. -/
def create (s : LocApiEvents α) (adapter : α) (mask : BitVec 64) : LocApiEvents α :=
  (s.setEvtMask adapter mask).call (·.addAdapter adapter)

/-- The destructor of `LocAdapterBase`. -/
def destroy (s : LocApiEvents α) (adapter : α) : LocApiEvents α := s.call (·.removeAdapter adapter)

/-- `LocAdapterBase::updateEvtMask` -/
def updateEvtMask (s : LocApiEvents α) (adapter : α) (event : BitVec 64) :
    LocRegistrationMaskStatus → LocApiEvents α
  | .ENABLED => (s.setEvtMask adapter (s.mEvtMask adapter ||| event)).sendMsg
    (.registry (.LocOpenMsg none))
  | .DISABLED => (s.setEvtMask adapter (s.mEvtMask adapter &&& ~~~event)).sendMsg
    (.registry (.LocOpenMsg none))
  | .SET => (s.setEvtMask adapter event).sendMsg (.registry (.LocOpenMsg none))

/-- The adapter stands in the array. -/
def registered (s : LocApiEvents α) (adapter : α) : Bool :=
  s.api.mLocAdapters.any fun slot => slot = some adapter

/-- A constructor does not run for an adapter that is there. -/
def step (s : LocApiEvents α) : ApiEvent α → Option (LocApiEvents α)
  | .create adapter mask => if s.registered adapter then none else some (s.create adapter mask)
  | .destroy adapter => some (s.destroy adapter)
  | .updateEvtMask adapter event status => some (s.updateEvtMask adapter event status)
  | .handleEngineDownEvent => some s.handleEngineDownEvent
  | .process =>
    match s.queue with
    | [] => none
    | msg :: queue => some ({ s with queue }.proc mExcludedMask msg)

def system : System (LocApiEvents α) (ApiEvent α) := .ofPartial init (step mExcludedMask)

end

/-! ### Keeping up -/

/-- The API is open for what the adapters want; it may be closed when there are none. -/
structure Current (order : List α) (s : LocApiEvents α) : Prop where
  mask : s.opened.getD 0 = s.getEvtMask mExcludedMask
  closed : s.opened = none → order = []

/-- What holds between two events: a change that the API has not been told is followed by a message in
the queue, and the last message closes the API only if no adapter is left. -/
structure Inv (order : List α) (s : LocApiEvents α) : Prop where
  packed : s.api.Packed order
  closing : s.queue.getLast? = some (.registry .LocCloseMsg) → order = []
  current : s.queue = [] → s.Current mExcludedMask order

variable {mExcludedMask} {order : List α} {s : LocApiEvents α} {msg : ApiThreadMsg α}

theorem getEvtMask_eq (h : s.api.Packed order) : s.getEvtMask mExcludedMask =
    order.foldr (fun adapter mask => s.mEvtMask adapter ||| mask) 0 &&& ~~~mExcludedMask :=
  getEvtMask_of_packed h (List.Perm.refl order) s.mEvtMask mExcludedMask

theorem getEvtMask_nil (h : s.api.Packed []) : s.getEvtMask mExcludedMask = 0 := by
  rw [getEvtMask_eq h]
  exact BitVec.zero_and

/-- With a message behind all others, only that message matters. -/
theorem Inv.concat {queue : List (ApiThreadMsg α)} (hpacked : s.api.Packed order)
    (hqueue : s.queue = queue ++ [msg]) (hmsg : msg = .registry .LocCloseMsg → order = []) :
    s.Inv mExcludedMask order := by
  refine ⟨hpacked, fun hlast => hmsg ?_, fun hnil => ?_⟩
  · rw [hqueue, List.getLast?_concat] at hlast
    exact Option.some.inj hlast
  · rw [hqueue] at hnil
    exact absurd hnil (List.concat_ne_nil msg queue)

theorem inv_init : (init : LocApiEvents α).Inv mExcludedMask [] :=
  ⟨LocApiBase.packed_init, nofun,
    fun _ => ⟨(getEvtMask_nil LocApiBase.packed_init).symm, fun _ => rfl⟩⟩

theorem Inv.handleEngineDownEvent (h : s.Inv mExcludedMask order) :
    s.handleEngineDownEvent.Inv mExcludedMask order :=
  .concat h.packed rfl nofun

/-- A message makes the API current, except that a close forgets the adapters. -/
theorem current_proc (hpacked : s.api.Packed order)
    (hmsg : msg = .registry .LocCloseMsg → order = []) :
    (s.proc mExcludedMask msg).Current mExcludedMask order := by
  cases msg with
  | registry msg =>
    cases msg with
    | LocOpenMsg mAdapter => exact ⟨rfl, nofun⟩
    | LocCloseMsg =>
      have horder := hmsg rfl
      subst horder
      exact ⟨(getEvtMask_nil hpacked).symm, fun _ => rfl⟩
  | LocSsrMsg => exact ⟨rfl, nofun⟩

@[simp] theorem queue_proc (msg : ApiThreadMsg α) : (s.proc mExcludedMask msg).queue = s.queue := by
  rcases msg with msg | _
  · cases msg <;> rfl
  · rfl

@[simp] theorem api_proc (msg : ApiThreadMsg α) : (s.proc mExcludedMask msg).api = s.api := by
  rcases msg with msg | _
  · cases msg <;> rfl
  · rfl

@[simp] theorem mEvtMask_proc (msg : ApiThreadMsg α) :
    (s.proc mExcludedMask msg).mEvtMask = s.mEvtMask := by
  rcases msg with msg | _
  · cases msg <;> rfl
  · rfl

theorem Inv.proc {queue : List (ApiThreadMsg α)} (h : s.Inv mExcludedMask order)
    (hqueue : s.queue = msg :: queue) :
    ({ s with queue }.proc mExcludedMask msg).Inv mExcludedMask order := by
  have hclosing := h.closing
  rw [hqueue] at hclosing
  refine ⟨?_, fun hlast => hclosing ?_, fun hnil => ?_⟩
  · rw [api_proc]
    exact h.packed
  · rw [queue_proc] at hlast
    rw [List.getLast?_cons, hlast]
    rfl
  · rw [queue_proc] at hnil
    refine current_proc h.packed fun hmsg => hclosing ?_
    subst hnil
    rw [hmsg]
    rfl

variable [DecidableEq α] {a : α}

theorem registered_iff (h : s.api.Packed order) : s.registered a = true ↔ a ∈ order := by
  unfold registered
  rw [h.eq, List.any_eq_true]
  simp only [decide_eq_true_eq, exists_eq_right, List.mem_append, List.mem_map, Option.some.injEq,
    List.mem_replicate, reduceCtorEq, and_false, or_false]

omit [DecidableEq α] in
/-- The array does not depend on the messages that have been sent. -/
theorem packed_msgs {api : LocApiBase α} (h : api.Packed order) (msgs : List (LocApiMsg α)) :
    ({ api with msgs } : LocApiBase α).Packed order := ⟨h.le, h.eq⟩

omit [DecidableEq α] in
/-- The masks of adapters that are not in the array do not matter. -/
theorem Inv.congr {s' : LocApiEvents α} (h : s.Inv mExcludedMask order)
    (hpacked : s'.api.Packed order) (hqueue : s'.queue = s.queue) (hopened : s'.opened = s.opened)
    (hmask : ∀ a ∈ order, s'.mEvtMask a = s.mEvtMask a) : s'.Inv mExcludedMask order := by
  refine ⟨hpacked, fun hlast => h.closing (hqueue ▸ hlast), fun hnil => ?_⟩
  have hcurrent := h.current (hqueue ▸ hnil)
  refine ⟨?_, fun hnone => hcurrent.closed (hopened ▸ hnone)⟩
  rw [hopened, hcurrent.mask, getEvtMask_eq h.packed, getEvtMask_eq hpacked]
  congr 1
  exact List.foldr_ext _ _ _ fun a ha rest => congrArg (· ||| rest) (hmask a ha).symm

omit [DecidableEq α] in
/-- A call that does nothing sends nothing. -/
theorem call_same {f : LocApiBase α → LocApiBase α} (hpacked : s.api.Packed order)
    (h : f { s.api with msgs := [] } = { s.api with msgs := [] }) :
    (s.call f).api.Packed order ∧ (s.call f).queue = s.queue := by
  have hqueue : (s.call f).queue = s.queue ++ (f { s.api with msgs := [] }).msgs.map .registry := rfl
  constructor
  · refine packed_msgs ?_ []
    rw [h]
    exact packed_msgs hpacked []
  · rw [hqueue, h]
    exact List.append_nil s.queue

omit [DecidableEq α] in
theorem queue_call {f : LocApiBase α → LocApiBase α} {msgs : List (LocApiMsg α)}
    (h : (f { s.api with msgs := [] }).msgs = msgs) :
    (s.call f).queue = s.queue ++ msgs.map .registry := by
  rw [← h]
  rfl

theorem addAdapter_full {api : LocApiBase α} (h : api.Packed order) (hmem : a ∉ order)
    (hfull : ¬ order.length < MAX_ADAPTERS) : api.addAdapter a = api := by
  have hloop : LocApiBase.addLoop a MAX_ADAPTERS ([] : List α).length api = _ :=
    LocApiBase.addLoop_spec (l := []) h List.not_mem_nil rfl
  rw [List.length_nil, List.nil_append, if_neg hmem, if_neg hfull] at hloop
  exact hloop

/-- A new adapter is put behind the others and the API is opened for it, or the array is full and
nothing happens but that the adapter has a mask. -/
theorem Inv.create (h : s.Inv mExcludedMask order) (hmem : a ∉ order) (mask : BitVec 64) :
    ∃ order', order ⊆ order' ∧ (s.create a mask).Inv mExcludedMask order' := by
  have hpacked := packed_msgs h.packed []
  by_cases hroom : order.length < MAX_ADAPTERS
  · obtain ⟨hadd, hmsgs⟩ := (LocApiBase.addAdapter_spec hpacked).2 hmem hroom
    exact ⟨order ++ [a], List.subset_append_left order [a],
      .concat (packed_msgs hadd []) (queue_call (s := s.setEvtMask a mask) hmsgs) nofun⟩
  · obtain ⟨hsame, hqueue⟩ := call_same (s := s.setEvtMask a mask) h.packed
      (addAdapter_full hpacked hmem hroom)
    refine ⟨order, List.Subset.refl order, h.congr hsame hqueue rfl fun b hb => ?_⟩
    exact Function.update_of_ne (fun heq : b = a => hmem (heq ▸ hb)) mask s.mEvtMask

/-- The API is closed when the last adapter goes, and opened again when another one does. -/
theorem Inv.destroy (h : s.Inv mExcludedMask order) (a : α) :
    ∃ order', (s.destroy a).Inv mExcludedMask order' := by
  have hpacked := packed_msgs h.packed []
  by_cases hmem : a ∈ order
  · obtain ⟨order', hperm, hremove, hmsgs⟩ := (LocApiBase.removeAdapter_spec hpacked).2 hmem
    refine ⟨order', .concat (packed_msgs hremove []) (queue_call hmsgs) fun hclose => ?_⟩
    by_cases hlast : order.erase a = []
    · rw [hlast] at hperm
      exact hperm.eq_nil
    · rw [if_neg hlast] at hclose
      cases hclose
  · obtain ⟨hsame, hqueue⟩ := call_same h.packed ((LocApiBase.removeAdapter_spec hpacked).1 hmem)
    exact ⟨order, h.congr hsame hqueue rfl fun _ _ => rfl⟩

theorem mEvtMask_updateEvtMask_of_ne {b : α} (h : b ≠ a) (event : BitVec 64)
    (status : LocRegistrationMaskStatus) :
    (s.updateEvtMask a event status).mEvtMask b = s.mEvtMask b := by
  cases status <;> exact Function.update_of_ne h _ s.mEvtMask

theorem Inv.updateEvtMask (h : s.Inv mExcludedMask order) (a : α) (event : BitVec 64)
    (status : LocRegistrationMaskStatus) :
    (s.updateEvtMask a event status).Inv mExcludedMask order := by
  have hqueue : (s.updateEvtMask a event status).queue = s.queue ++ [.registry (.LocOpenMsg none)] := by
    cases status <;> rfl
  have hpacked : (s.updateEvtMask a event status).api.Packed order := by
    cases status <;> exact h.packed
  exact .concat hpacked hqueue nofun

theorem Inv.step {s' : LocApiEvents α} {e : ApiEvent α} (h : s.Inv mExcludedMask order)
    (hstep : s.step mExcludedMask e = some s') : ∃ order', s'.Inv mExcludedMask order' := by
  cases e with
  | create a mask =>
    obtain ⟨hnew, hs'⟩ := Option.ite_none_left_eq_some.1 hstep
    obtain rfl := Option.some.inj hs'
    obtain ⟨order', -, hinv⟩ := h.create (fun hmem => hnew ((registered_iff h.packed).2 hmem)) mask
    exact ⟨order', hinv⟩
  | destroy a =>
    obtain rfl := Option.some.inj hstep
    exact h.destroy a
  | updateEvtMask a event status =>
    obtain rfl := Option.some.inj hstep
    exact ⟨order, h.updateEvtMask a event status⟩
  | handleEngineDownEvent =>
    obtain rfl := Option.some.inj hstep
    exact ⟨order, h.handleEngineDownEvent⟩
  | process =>
    unfold LocApiEvents.step at hstep
    cases hqueue : s.queue with
    | nil =>
      rw [hqueue] at hstep
      cases hstep
    | cons msg queue =>
      rw [hqueue] at hstep
      obtain rfl := Option.some.inj hstep
      exact ⟨order, h.proc hqueue⟩

theorem inv_of_run {es : List (ApiEvent α)} (h : (system mExcludedMask).Run System.Free es s) :
    ∃ order, s.Inv mExcludedMask order :=
  h.invariant (I := fun s => ∃ order, s.Inv mExcludedMask order) ⟨[], inv_init⟩
    fun _ _ _ ⟨_, hinv⟩ _ hstep => hinv.step hstep

/-- **With an empty queue the API is open for what the adapters in the array want**, whatever they,
the engine and the thread have done in any order. -/
theorem current_of_run {es : List (ApiEvent α)} (h : (system mExcludedMask).Run System.Free es s)
    (hqueue : s.queue = []) : ∃ order, s.api.Packed order ∧ s.Current mExcludedMask order := by
  obtain ⟨order, hinv⟩ := inv_of_run h
  exact ⟨order, hinv.packed, hinv.current hqueue⟩

variable (mExcludedMask) in
/-- The thread takes the messages that are there, and nothing else changes. -/
theorem drain (s : LocApiEvents α) : ∃ s', (List.replicate s.queue.length ApiEvent.process).foldlM
    (step mExcludedMask) s = some s' ∧ s'.queue = [] ∧ s'.api = s.api ∧ s'.mEvtMask = s.mEvtMask := by
  generalize hqueue : s.queue = queue
  induction queue generalizing s with
  | nil => exact ⟨s, rfl, hqueue, rfl, rfl⟩
  | cons msg queue ih =>
    obtain ⟨s', hs', hempty, hapi, hmask⟩ := ih ({ s with queue }.proc mExcludedMask msg)
      (queue_proc msg)
    refine ⟨s', ?_, hempty, hapi.trans (api_proc msg), hmask.trans (mEvtMask_proc msg)⟩
    have hstep : s.step mExcludedMask .process =
        some ({ s with queue }.proc mExcludedMask msg) := by
      unfold step
      rw [hqueue]
    rw [List.length_cons, List.replicate_succ, List.foldlM_cons, hstep]
    exact hs'

end LocApiEvents

end GpsHal
