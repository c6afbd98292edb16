import GpsHal.Location.Api

/-!
# `LocationAPI::destroy` : the handshake with the adapters

Which adapters `destroy` asks to remove a client is read off the callbacks that were registered
last, but an adapter holds every client that was ever registered with it.  A client whose callbacks
no longer concern one of its adapters is not removed there.

Everything is stated for one client at a time, by what concerns it in the state, its `ClientView`.

## Main definitions

* `LocationAPI.view` : the part of the state that concerns one client.
* `LocationAPI.Handshake` : every adapter has been asked, and the callback has run once when all of
  them have completed, and not before.
* `LocationAPI.Concerned` : the condition on a `destroy`.

## Main results

* `LocationAPI.destroy_handshake_iff` : the handshake is kept throughout a run exactly when every
  `destroy` in it finds all adapters that hold the client among those its callbacks concern.
-/

namespace GpsHal

variable {C : Type*} [DecidableEq C]

/-- What a message does to the client, if it is about it: `true` adds and `false` removes it. -/
def AdapterMsg.concerns (c : C) : AdapterMsg C → Option Bool
  | .addClient client _ => if client = c then some true else none
  | .removeClient client => if client = c then some false else none

/-- What concerns one client. -/
@[ext]
structure ClientView where
  callbacks : Option LocationCallbacks
  wait : Option LocationAPIDestroyCbData
  life : ClientLife
  entry : LocationAdapterType → Option LocationCallbacks
  /-- The messages of an adapter about the client. -/
  msgs : LocationAdapterType → List Bool

namespace ClientView

variable (v : ClientView) (k : LocationAdapterType)

/-- The adapter holds the client once it has taken the messages sent so far. -/
def holds : Bool := (v.msgs k).getLast?.getD (v.entry k).isSome

/-- The adapter has taken all messages about the client and does not hold it. -/
def Completed : Prop := v.msgs k = [] ∧ v.entry k = none

/-- The last message to the adapter, and only this, asks it to remove the client. -/
def Asked : Prop := ∃ n, v.msgs k = List.replicate n true ++ [false]

/-- What a client and its adapters have come to. -/
inductive Good (v : ClientView) : Prop
  | unused (hlife : v.life = .unused) (hwait : v.wait = none) (hdone : ∀ k, v.Completed k)
  | live (callbacks : LocationCallbacks) (hlife : v.life = .live)
      (hcallbacks : v.callbacks = some callbacks) (hwait : v.wait = none)
      (hmsgs : ∀ k, ∃ n, v.msgs k = List.replicate n true)
  /-- Destroyed without a callback. -/
  | silent (hlife : v.life = .destroyed false 0) (hwait : v.wait = none)
      (hmsgs : ∀ k, v.Completed k ∨ v.Asked k)
  /-- Destroyed, and some adapter has not completed. -/
  | waiting (hlife : v.life = .destroyed true 0)
      (hwait : v.wait = some ⟨LocationAPI.waitMask fun k => !(v.msgs k).isEmpty⟩)
      (hmsgs : ∀ k, v.Completed k ∨ v.Asked k) (hsome : ∃ k, ¬ v.Completed k)
  | called (hlife : v.life = .destroyed true 1) (hwait : v.wait = none)
      (hdone : ∀ k, v.Completed k)

/-- The adapter reports that it has removed the client. -/
def complete : ClientView :=
  match v.wait with
  | none => v
  | some d =>
    let waitAdapterMask := d.waitAdapterMask &&& ~~~k.bit
    if waitAdapterMask = 0 then { v with wait := none, life := v.life.called }
    else { v with wait := some ⟨waitAdapterMask⟩ }

/-- The adapter has taken a message about the client. -/
def take (callbacks : Option LocationCallbacks) (rest : List Bool) : ClientView :=
  { v with
    entry := Function.update v.entry k callbacks
    msgs := Function.update v.msgs k rest }

/-- The client is destroyed, and the adapters for which `wait` holds are asked to remove it. -/
def destroy (wait : LocationAdapterType → Bool) (withCb : Bool) : ClientView :=
  let needToWait := wait .GNSS || wait .BATCHING || wait .GEOFENCE
  { callbacks := none
    wait := if withCb && needToWait then some ⟨LocationAPI.waitMask wait⟩ else v.wait
    life := .destroyed withCb (if withCb && !needToWait then 1 else 0)
    entry := v.entry
    msgs := fun k => v.msgs k ++ if wait k then [false] else [] }

variable {v k}

theorem Completed.holds (h : v.Completed k) : v.holds k = false := by
  rw [ClientView.holds, h.1, h.2]
  rfl

theorem Asked.holds (h : v.Asked k) : v.holds k = false := by
  obtain ⟨n, hn⟩ := h
  rw [ClientView.holds, hn, List.getLast?_append]
  rfl

theorem Asked.not_completed (h : v.Asked k) : ¬ v.Completed k := by
  obtain ⟨n, hn⟩ := h
  rintro ⟨h0, -⟩
  simp [h0] at hn

/-- An adapter that holds the client no more and has only been told to add it has no messages. -/
theorem completed_of_not_holds {n : ℕ} (hmsgs : v.msgs k = List.replicate n true)
    (h : v.holds k = false) : v.Completed k := by
  cases n with
  | zero =>
    have hnil : v.msgs k = [] := hmsgs
    rw [holds, hnil] at h
    exact ⟨hnil, by simpa using h⟩
  | succ n =>
    rw [holds, hmsgs, List.replicate_succ', List.getLast?_append] at h
    exact absurd h (by simp)

end ClientView

namespace LocationAPI

open LocationAdapterType

variable (s : LocationAPI C)

/-- What concerns the client `c`. -/
def view (c : C) : ClientView where
  callbacks := s.clientData c
  wait := s.destroyClientData c
  life := s.life c
  entry k := (s.adapter k).mClientData c
  msgs k := (s.adapter k).queue.filterMap (AdapterMsg.concerns c)

open Classical in
/-- For every client that has been destroyed, all adapters that hold it have been asked to remove
it, and the callback has run once if all adapters have completed, and not at all before. -/
def Handshake : Prop :=
  ∀ c withCb calls, s.life c = .destroyed withCb calls →
    (∀ k, (s.view c).holds k = false) ∧
      calls = if withCb = true ∧ ∀ k, (s.view c).Completed k then 1 else 0

/-- A `destroy` finds every adapter that holds the client among those that its callbacks
concern. -/
def Concerned : LocationApiEvent C → Prop
  | .destroy client _ => ∀ k, (s.view client).holds k = true →
      ∃ callbacks, s.clientData client = some callbacks ∧ callbacks.isClientOf k = true
  | _ => True

/-! ### The mask of adapters -/

variable {s}

theorem waitMask_clear (wait : LocationAdapterType → Bool) (k : LocationAdapterType) :
    waitMask wait &&& ~~~k.bit = waitMask (Function.update wait k false) := by
  have hmask : ∀ g b f g' b' f' : Bool, ∀ k : LocationAdapterType,
      g' = (g && k ≠ GNSS) → b' = (b && k ≠ BATCHING) → f' = (f && k ≠ GEOFENCE) →
        ((if g then bit GNSS else 0) ||| (if b then bit BATCHING else 0) |||
            (if f then bit GEOFENCE else 0) : BitVec 16) &&& ~~~k.bit =
          (if g' then bit GNSS else 0) ||| (if b' then bit BATCHING else 0) |||
            (if f' then bit GEOFENCE else 0) := by
    rintro g b f _ _ _ k rfl rfl rfl
    cases k <;> revert g b f <;> decide
  refine hmask _ _ _ _ _ _ k ?_ ?_ ?_ <;> cases k <;> simp [Function.update]

theorem waitMask_eq_zero (wait : LocationAdapterType → Bool) :
    waitMask wait = 0 ↔ ∀ k, wait k = false := by
  have hmask : ∀ g b f : Bool,
      ((if g then bit GNSS else 0) ||| (if b then bit BATCHING else 0) |||
        (if f then bit GEOFENCE else 0) = (0 : BitVec 16)) ↔ g = false ∧ b = false ∧ f = false := by
    decide
  rw [waitMask, hmask]
  constructor
  · rintro ⟨hg, hb, hf⟩ k
    cases k <;> assumption
  · intro h
    exact ⟨h _, h _, h _⟩

/-! ### What each operation does to the view of a client -/

section View

variable {c client : C} {k : LocationAdapterType} {callbacks : Option LocationCallbacks}
  {available : LocationAdapterType → Bool}

@[simp] theorem view_load : (s.load available k).view c = s.view c := by
  unfold load
  split <;> rfl

theorem view_setQueue (queue : List (AdapterMsg C)) :
    (s.setQueue k queue).view c = { s.view c with
      msgs := Function.update (s.view c).msgs k (queue.filterMap (AdapterMsg.concerns c)) } := by
  ext1
  case entry =>
    funext k'
    by_cases hk : k' = k
    · subst hk
      simp [view, setQueue]
    · simp [view, setQueue, hk]
  case msgs =>
    funext k'
    by_cases hk : k' = k
    · subst hk
      simp [view, setQueue]
    · simp [view, setQueue, hk]
  all_goals rfl

theorem view_sendMsg (m : AdapterMsg C) :
    (s.sendMsg k m).view c = { s.view c with
      msgs := Function.update (s.view c).msgs k
        ((s.view c).msgs k ++ (m.concerns c).toList) } := by
  rw [sendMsg, view_setQueue, List.filterMap_append]
  rfl

theorem view_sendMsg_of_ne {m : AdapterMsg C} (h : m.concerns c = none) :
    (s.sendMsg k m).view c = s.view c := by
  rw [view_sendMsg, h, Option.toList_none, List.append_nil, Function.update_eq_self]

theorem view_setEntry_self : (s.setEntry k c callbacks).view c =
    { s.view c with entry := Function.update (s.view c).entry k callbacks } := by
  ext1
  case entry =>
    funext k'
    by_cases hk : k' = k
    · subst hk
      simp [view, setEntry]
    · simp [view, setEntry, hk]
  case msgs =>
    funext k'
    by_cases hk : k' = k
    · subst hk
      simp [view, setEntry]
    · simp [view, setEntry, hk]
  all_goals rfl

theorem view_setEntry_of_ne (h : c ≠ client) :
    (s.setEntry k client callbacks).view c = s.view c := by
  ext1
  case entry =>
    funext k'
    by_cases hk : k' = k
    · subst hk
      simp [view, setEntry, h]
    · simp [view, setEntry, hk]
  case msgs =>
    funext k'
    by_cases hk : k' = k
    · subst hk
      simp [view, setEntry]
    · simp [view, setEntry, hk]
  all_goals rfl

theorem view_setLife (life : ClientLife) :
    (s.setLife c life).view c = { s.view c with life := life } := by
  ext1 <;> simp [view, setLife]

theorem view_setLife_of_ne (h : c ≠ client) (life : ClientLife) :
    (s.setLife client life).view c = s.view c := by
  ext1 <;> simp [view, setLife, h]

theorem view_setDestroyClientData (d : Option LocationAPIDestroyCbData) :
    (s.setDestroyClientData c d).view c = { s.view c with wait := d } := by
  ext1 <;> simp [view, setDestroyClientData]

theorem view_setDestroyClientData_of_ne (h : c ≠ client) (d : Option LocationAPIDestroyCbData) :
    (s.setDestroyClientData client d).view c = s.view c := by
  ext1 <;> simp [view, setDestroyClientData, h]

theorem view_setClientData : (s.setClientData c callbacks).view c =
    { s.view c with callbacks := callbacks } := by
  ext1 <;> simp [view, setClientData]

theorem view_setClientData_of_ne (h : c ≠ client) :
    (s.setClientData client callbacks).view c = s.view c := by
  ext1 <;> simp [view, setClientData, h]

theorem view_invokeDestroyCb : (s.invokeDestroyCb c).view c =
    { s.view c with life := (s.view c).life.called } := view_setLife _

theorem view_onRemoveClientCompleteCb_self : (s.onRemoveClientCompleteCb c k).view c =
    (s.view c).complete k := by
  unfold onRemoveClientCompleteCb ClientView.complete
  have hwait : (s.view c).wait = s.destroyClientData c := rfl
  rw [hwait]
  cases s.destroyClientData c with
  | none => rfl
  | some d =>
    simp only
    split
    · rw [view_invokeDestroyCb, view_setDestroyClientData]
    · rw [view_setDestroyClientData]

theorem view_onRemoveClientCompleteCb_of_ne (h : c ≠ client) :
    (s.onRemoveClientCompleteCb client k).view c = s.view c := by
  unfold onRemoveClientCompleteCb
  split
  · rfl
  · simp only
    split
    · rw [invokeDestroyCb, view_setLife_of_ne h, view_setDestroyClientData_of_ne h]
    · rw [view_setDestroyClientData_of_ne h]

/-- Between two views the adapters have only been asked to add the client. -/
structure Grows (v v' : ClientView) : Prop where
  callbacks : v'.callbacks = v.callbacks
  wait : v'.wait = v.wait
  life : v'.life = v.life
  entry : v'.entry = v.entry
  msgs : ∀ k, ∃ n, v'.msgs k = v.msgs k ++ List.replicate n true

theorem Grows.refl (v : ClientView) : Grows v v := ⟨rfl, rfl, rfl, rfl, fun _ => ⟨0, by simp⟩⟩

theorem Grows.trans {v₁ v₂ v₃ : ClientView} (h : Grows v₁ v₂) (h' : Grows v₂ v₃) :
    Grows v₁ v₃ := by
  refine ⟨h'.callbacks.trans h.callbacks, h'.wait.trans h.wait, h'.life.trans h.life,
    h'.entry.trans h.entry, fun k => ?_⟩
  obtain ⟨n, hn⟩ := h.msgs k
  obtain ⟨n', hn'⟩ := h'.msgs k
  exact ⟨n + n', by rw [hn', hn, List.append_assoc, List.replicate_append_replicate]⟩

variable {cbs : LocationCallbacks}

variable (s c available cbs) in
theorem grows_addClient (k : LocationAdapterType) :
    Grows (s.view c) ((s.addClient available c cbs k).view c) := by
  unfold addClient
  split
  · simp only
    split
    · rw [view_sendMsg, view_load]
      refine ⟨rfl, rfl, rfl, rfl, fun k' => ?_⟩
      by_cases hk : k' = k
      · subst hk
        exact ⟨1, by simp [AdapterMsg.concerns]⟩
      · exact ⟨0, by simp [hk]⟩
    · rw [view_load]
      exact .refl _
  · exact .refl _

theorem view_addClient_of_ne (h : c ≠ client) (k : LocationAdapterType) :
    (s.addClient available client cbs k).view c = s.view c := by
  unfold addClient
  split
  · simp only
    split
    · rw [view_sendMsg_of_ne (by simp [AdapterMsg.concerns, h.symm]), view_load]
    · rw [view_load]
  · rfl

variable (s c available cbs) in
theorem grows_foldl (ks : List LocationAdapterType) :
    Grows (s.view c) ((ks.foldl (addClient available c cbs) s).view c) := by
  induction ks generalizing s with
  | nil => exact .refl _
  | cons k ks ih => exact (grows_addClient s c available cbs k).trans (ih _)

theorem grows_setCallbacks : Grows { s.view c with callbacks := some cbs }
    ((s.setCallbacks available c cbs).view c) := by
  obtain ⟨-, hwait, hlife, hentry, hmsgs⟩ :=
    grows_foldl s c available cbs [GNSS, BATCHING, GEOFENCE]
  rw [setCallbacks, view_setClientData]
  exact ⟨rfl, hwait, hlife, hentry, hmsgs⟩

theorem view_foldl_addClient_of_ne (h : c ≠ client) (ks : List LocationAdapterType) :
    (ks.foldl (addClient available client cbs) s).view c = s.view c := by
  induction ks generalizing s with
  | nil => rfl
  | cons k ks ih => rw [List.foldl_cons, ih, view_addClient_of_ne h]

theorem view_setCallbacks_of_ne (h : c ≠ client) :
    (s.setCallbacks available client cbs).view c = s.view c := by
  rw [setCallbacks, view_setClientData_of_ne h, view_foldl_addClient_of_ne h]

theorem view_removeClient_self (wait : LocationAdapterType → Bool) :
    (removeClient c wait s k).view c = { s.view c with
      msgs := Function.update (s.view c).msgs k
        ((s.view c).msgs k ++ if wait k then [false] else []) } := by
  unfold removeClient
  split
  · rw [view_sendMsg]
    simp [AdapterMsg.concerns]
  · simp

theorem view_removeClient_of_ne (h : c ≠ client) (wait : LocationAdapterType → Bool) :
    (removeClient client wait s k).view c = s.view c := by
  unfold removeClient
  split
  · exact view_sendMsg_of_ne (by simp [AdapterMsg.concerns, h.symm])
  · rfl

theorem view_foldl_removeClient_of_ne (h : c ≠ client) (wait : LocationAdapterType → Bool)
    (ks : List LocationAdapterType) :
    (ks.foldl (removeClient client wait) s).view c = s.view c := by
  induction ks generalizing s with
  | nil => rfl
  | cons k ks ih => rw [List.foldl_cons, ih, view_removeClient_of_ne h]

theorem view_foldl_removeClient_self (wait : LocationAdapterType → Bool) :
    ([GNSS, BATCHING, GEOFENCE].foldl (removeClient c wait) s).view c = { s.view c with
      msgs := fun k => (s.view c).msgs k ++ if wait k then [false] else [] } := by
  simp only [List.foldl_cons, List.foldl_nil, view_removeClient_self]
  congr 1
  funext k
  cases k <;> simp

theorem view_destroy_self (hcbs : s.clientData c = some cbs) (withCb : Bool) :
    (s.destroy c withCb).view c = (s.view c).destroy (s.removeFrom cbs) withCb := by
  simp only [destroy, hcbs, ClientView.destroy]
  cases withCb with
  | false =>
    simp only [Bool.false_and, Bool.false_eq_true, if_false, view_setClientData,
      view_foldl_removeClient_self, view_setLife]
  | true =>
    cases h : s.removeFrom cbs GNSS || s.removeFrom cbs BATCHING || s.removeFrom cbs GEOFENCE with
    | false =>
      simp only [Bool.and_false, Bool.false_eq_true, if_false, Bool.not_false, Bool.and_true,
        if_true, view_invokeDestroyCb, view_setClientData, view_foldl_removeClient_self,
        view_setLife]
      rfl
    | true =>
      simp only [Bool.and_true, Bool.not_true, Bool.and_false, Bool.false_eq_true, if_false,
        if_true, view_setClientData, view_foldl_removeClient_self, view_setDestroyClientData, view_setLife]

theorem view_destroy_of_ne (h : c ≠ client) (withCb : Bool) :
    (s.destroy client withCb).view c = s.view c := by
  unfold destroy
  split
  · rfl
  · simp only
    split <;> split <;>
      simp only [invokeDestroyCb, view_setLife_of_ne h, view_setClientData_of_ne h,
        view_foldl_removeClient_of_ne h, view_setDestroyClientData_of_ne h]

theorem view_proc {m : AdapterMsg C} {queue : List (AdapterMsg C)}
    (hq : (s.adapter k).queue = m :: queue) :
    (m.concerns c = none ∧ ((s.setQueue k queue).proc k m).view c = s.view c) ∨
      (∃ rest callbacks, (s.view c).msgs k = true :: rest ∧
        ((s.setQueue k queue).proc k m).view c = (s.view c).take k (some callbacks) rest) ∨
      ∃ rest, (s.view c).msgs k = false :: rest ∧
        ((s.setQueue k queue).proc k m).view c = ((s.view c).take k none rest).complete k := by
  have hmsgs : (s.view c).msgs k =
      (m.concerns c).toList ++ queue.filterMap (AdapterMsg.concerns c) := by
    simp only [view, hq]
    cases h : m.concerns c <;> simp [h]
  have hrest : (m.concerns c).toList = [] → (s.setQueue k queue).view c = s.view c := by
    intro hnone
    rw [hnone, List.nil_append] at hmsgs
    rw [view_setQueue, ← hmsgs, Function.update_eq_self]
  cases m with
  | addClient client callbacks =>
    by_cases hc : c = client
    · subst hc
      refine .inr (.inl ⟨queue.filterMap (AdapterMsg.concerns c), callbacks, ?_, ?_⟩)
      · simpa [AdapterMsg.concerns] using hmsgs
      · rw [proc, view_setEntry_self, view_setQueue]
        rfl
    · have hnone : AdapterMsg.concerns c (.addClient client callbacks) = none :=
        if_neg fun h => hc h.symm
      refine .inl ⟨hnone, ?_⟩
      rw [proc, view_setEntry_of_ne hc, hrest (by rw [hnone]; rfl)]
  | removeClient client =>
    by_cases hc : c = client
    · subst hc
      refine .inr (.inr ⟨queue.filterMap (AdapterMsg.concerns c), ?_, ?_⟩)
      · simpa [AdapterMsg.concerns] using hmsgs
      · rw [proc, view_onRemoveClientCompleteCb_self, view_setEntry_self, view_setQueue]
        rfl
    · have hnone : AdapterMsg.concerns c (.removeClient client) = none :=
        if_neg fun h => hc h.symm
      refine .inl ⟨hnone, ?_⟩
      rw [proc, view_onRemoveClientCompleteCb_of_ne hc, view_setEntry_of_ne hc,
        hrest (by rw [hnone]; rfl)]

end View

/-! ### One step for one client -/

section Steps

variable {v : ClientView} {k k' : LocationAdapterType} {callbacks : Option LocationCallbacks}
  {cbs : LocationCallbacks} {rest : List Bool}

theorem completed_take_of_ne (hk : k' ≠ k) :
    (v.take k callbacks rest).Completed k' ↔ v.Completed k' := by
  simp [ClientView.Completed, ClientView.take, hk]

theorem asked_take_of_ne (hk : k' ≠ k) :
    (v.take k callbacks rest).Asked k' ↔ v.Asked k' := by
  simp [ClientView.Asked, ClientView.take, hk]

/-- An adapter that has been asked takes a message to add the client. -/
theorem asked_take_add (h : v.Asked k) (hmsgs : v.msgs k = true :: rest) :
    (v.take k callbacks rest).Asked k := by
  obtain ⟨n, hn⟩ := h
  rw [hmsgs] at hn
  cases n with
  | zero => simp at hn
  | succ n =>
    rw [List.replicate_succ, List.cons_append] at hn
    exact ⟨n, by simpa [ClientView.take] using List.cons.inj hn |>.2⟩

/-- An adapter that has been asked takes the message to remove the client. -/
theorem completed_take_remove (h : v.Asked k) (hmsgs : v.msgs k = false :: rest) :
    (v.take k none rest).Completed k := by
  obtain ⟨n, hn⟩ := h
  rw [hmsgs] at hn
  cases n with
  | zero =>
    have hrest : rest = [] := by simpa using hn
    exact ⟨by simp [ClientView.take, hrest], by simp [ClientView.take]⟩
  | succ n => simp [List.replicate_succ] at hn

theorem not_completed_of_msgs {b : Bool} (hmsgs : v.msgs k = b :: rest) : ¬ v.Completed k := by
  rintro ⟨h, -⟩
  simp [h] at hmsgs

theorem asked_of_msgs {b : Bool} (h : v.Completed k ∨ v.Asked k) (hmsgs : v.msgs k = b :: rest) :
    v.Asked k := h.resolve_left (not_completed_of_msgs hmsgs)

theorem done_take_add (h : ∀ k, v.Completed k ∨ v.Asked k) (hmsgs : v.msgs k = true :: rest)
    (k' : LocationAdapterType) :
    (v.take k callbacks rest).Completed k' ∨ (v.take k callbacks rest).Asked k' := by
  by_cases hk : k' = k
  · subst hk
    exact .inr (asked_take_add (asked_of_msgs (h k') hmsgs) hmsgs)
  · exact (h k').imp (completed_take_of_ne hk).2 (asked_take_of_ne hk).2

theorem done_take_remove (h : ∀ k, v.Completed k ∨ v.Asked k) (hmsgs : v.msgs k = false :: rest)
    (k' : LocationAdapterType) :
    (v.take k none rest).Completed k' ∨ (v.take k none rest).Asked k' := by
  by_cases hk : k' = k
  · subst hk
    exact .inl (completed_take_remove (asked_of_msgs (h k') hmsgs) hmsgs)
  · exact (h k').imp (completed_take_of_ne hk).2 (asked_take_of_ne hk).2

/-- An adapter has messages to take exactly if it has not completed. -/
theorem isEmpty_msgs_iff (h : v.Completed k ∨ v.Asked k) :
    (v.msgs k).isEmpty = true ↔ v.Completed k := by
  rw [List.isEmpty_iff]
  refine ⟨fun hnil => h.resolve_right ?_, fun h => h.1⟩
  rintro ⟨n, hn⟩
  simp [hnil] at hn

theorem good_take_add (h : v.Good) (hmsgs : v.msgs k = true :: rest) :
    (v.take k (some cbs) rest).Good := by
  cases h with
  | unused hlife hwait hdone => exact absurd (hdone k) (not_completed_of_msgs hmsgs)
  | live callbacks hlife hcallbacks hwait hadds =>
    refine .live callbacks hlife hcallbacks hwait fun k' => ?_
    by_cases hk : k' = k
    · subst hk
      obtain ⟨n, hn⟩ := hadds k'
      rw [hmsgs] at hn
      cases n with
      | zero => simp at hn
      | succ n => exact ⟨n, by simpa [ClientView.take] using (List.cons.inj hn).2⟩
    · obtain ⟨n, hn⟩ := hadds k'
      exact ⟨n, by simpa [ClientView.take, hk] using hn⟩
  | silent hlife hwait hdone => exact .silent hlife hwait (done_take_add hdone hmsgs)
  | waiting hlife hwait hdone hsome =>
    have hdone' : ∀ k', (v.take k (some cbs) rest).Completed k' ∨
        (v.take k (some cbs) rest).Asked k' := done_take_add hdone hmsgs
    have hasked : (v.take k (some cbs) rest).Asked k :=
      asked_take_add (asked_of_msgs (hdone k) hmsgs) hmsgs
    refine .waiting hlife ?_ hdone' ⟨k, hasked.not_completed⟩
    have hmask : (fun k' => !((v.take k (some cbs) rest).msgs k').isEmpty) =
        fun k' => !(v.msgs k').isEmpty := by
      funext k'
      by_cases hk : k' = k
      · subst hk
        have hempty : ((v.take k' (some cbs) rest).msgs k').isEmpty = false := by
          rw [← Bool.not_eq_true, isEmpty_msgs_iff (.inr hasked)]
          exact hasked.not_completed
        simp [hempty, hmsgs]
      · simp [ClientView.take, hk]
    rw [hmask]
    exact hwait
  | called hlife hwait hdone => exact absurd (hdone k) (not_completed_of_msgs hmsgs)

theorem good_take_remove (h : v.Good) (hmsgs : v.msgs k = false :: rest) :
    ((v.take k none rest).complete k).Good := by
  cases h with
  | unused hlife hwait hdone => exact absurd (hdone k) (not_completed_of_msgs hmsgs)
  | live callbacks hlife hcallbacks hwait hadds =>
    obtain ⟨n, hn⟩ := hadds k
    rw [hmsgs] at hn
    cases n <;> simp [List.replicate_succ] at hn
  | silent hlife hwait hdone =>
    have hsame : (v.take k none rest).complete k = v.take k none rest := by
      simp [ClientView.complete, ClientView.take, hwait]
    rw [hsame]
    exact .silent hlife hwait (done_take_remove hdone hmsgs)
  | waiting hlife hwait hdone hsome =>
    have hdone' := done_take_remove hdone hmsgs
    have hcomplete : (v.take k none rest).Completed k :=
      completed_take_remove (asked_of_msgs (hdone k) hmsgs) hmsgs
    -- the adapter that has completed is taken out of the mask
    have hmask : Function.update (fun k' => !(v.msgs k').isEmpty) k false =
        fun k' => !((v.take k none rest).msgs k').isEmpty := by
      funext k'
      by_cases hk : k' = k
      · subst hk
        simp [hcomplete.1]
      · simp [ClientView.take, hk]
    have hzero : waitMask (fun k' => !((v.take k none rest).msgs k').isEmpty) = 0 ↔
        ∀ k', (v.take k none rest).Completed k' := by
      rw [waitMask_eq_zero]
      refine forall_congr' fun k' => ?_
      rw [Bool.not_eq_false', isEmpty_msgs_iff (hdone' k')]
    have hwait' : (v.take k none rest).wait = some ⟨waitMask fun k => !(v.msgs k).isEmpty⟩ := hwait
    unfold ClientView.complete
    rw [hwait']
    simp only [waitMask_clear, hmask]
    split
    · rename_i hz
      exact .called (by simp [ClientView.take, hlife, ClientLife.called]) rfl (hzero.1 hz)
    · rename_i hz
      refine .waiting hlife rfl hdone' ?_
      by_contra hall
      exact hz (hzero.2 fun k' => by_contra fun h => hall ⟨k', h⟩)
  | called hlife hwait hdone => exact absurd (hdone k) (not_completed_of_msgs hmsgs)

theorem callbacks_of_live (h : v.Good) (hlive : v.life = .live) :
    ∃ callbacks, v.callbacks = some callbacks := by
  cases h with
  | live callbacks _ hcallbacks => exact ⟨callbacks, hcallbacks⟩
  | unused hlife | silent hlife | waiting hlife | called hlife => simp [hlife] at hlive

/-- A new object, or one whose callback has run and that is created again. -/
theorem good_create {v' : ClientView} (h : v.Good) (hfree : v.life.isFree = true)
    (hgrows : Grows { v with callbacks := some cbs } v') :
    ClientView.Good { v' with life := .live } := by
  have hdone : v.wait = none ∧ ∀ k, v.Completed k := by
    cases h with
    | unused hlife hwait hdone => exact ⟨hwait, hdone⟩
    | live _ hlife => simp [hlife, ClientLife.isFree] at hfree
    | silent hlife => simp [hlife, ClientLife.isFree] at hfree
    | waiting hlife => simp [hlife, ClientLife.isFree] at hfree
    | called hlife hwait hdone => exact ⟨hwait, hdone⟩
  refine .live cbs rfl hgrows.callbacks (hgrows.wait.trans hdone.1) fun k => ?_
  obtain ⟨n, hn⟩ := hgrows.msgs k
  exact ⟨n, by simpa [(hdone.2 k).1] using hn⟩

theorem good_update {v' : ClientView} (h : v.Good) (hlive : v.life = .live)
    (hgrows : Grows { v with callbacks := some cbs } v') : v'.Good := by
  cases h with
  | live callbacks hlife hcallbacks hwait hmsgs =>
    refine .live cbs (hgrows.life.trans hlive) hgrows.callbacks (hgrows.wait.trans hwait)
      fun k => ?_
    obtain ⟨n, hn⟩ := hgrows.msgs k
    obtain ⟨n', hn'⟩ := hmsgs k
    exact ⟨n' + n, by rw [hn]; simp [hn', List.replicate_append_replicate]⟩
  | unused hlife | silent hlife | waiting hlife | called hlife => simp [hlife] at hlive

/-- A client is destroyed: if all adapters that hold it are asked, it is on its way. -/
theorem good_destroy (h : v.Good) (hlive : v.life = .live) {wait : LocationAdapterType → Bool}
    (hall : ∀ k, v.holds k = true → wait k = true) (withCb : Bool) :
    (v.destroy wait withCb).Good := by
  cases h with
  | live callbacks hlife hcallbacks hwait hmsgs =>
    have hdone : ∀ k, wait k = false → (v.destroy wait withCb).Completed k := by
      intro k hk
      obtain ⟨n, hn⟩ := hmsgs k
      have hc : v.Completed k := by
        refine ClientView.completed_of_not_holds hn ?_
        rw [← Bool.not_eq_true]
        exact fun hh => by simp [hall k hh] at hk
      exact ⟨by simp [ClientView.destroy, hk, hc.1], hc.2⟩
    have hasked : ∀ k, wait k = true → (v.destroy wait withCb).Asked k := by
      intro k hk
      obtain ⟨n, hn⟩ := hmsgs k
      exact ⟨n, by simp [ClientView.destroy, hk, hn]⟩
    have hmsgs' : ∀ k, (v.destroy wait withCb).Completed k ∨ (v.destroy wait withCb).Asked k := by
      intro k
      cases hk : wait k with
      | false => exact .inl (hdone k hk)
      | true => exact .inr (hasked k hk)
    cases withCb with
    | false => exact .silent rfl hwait hmsgs'
    | true =>
      cases hneed : wait GNSS || wait BATCHING || wait GEOFENCE with
      | false =>
        have hnone : ∀ k, wait k = false := by
          simp only [Bool.or_eq_false_iff] at hneed
          intro k
          cases k
          · exact hneed.1.1
          · exact hneed.1.2
          · exact hneed.2
        exact .called (by simp [ClientView.destroy, hneed])
          (by simpa [ClientView.destroy, hneed] using hwait) fun k => hdone k (hnone k)
      | true =>
        obtain ⟨k, hk⟩ : ∃ k, wait k = true := by
          simp only [Bool.or_eq_true] at hneed
          rcases hneed with (h | h) | h
          · exact ⟨_, h⟩
          · exact ⟨_, h⟩
          · exact ⟨_, h⟩
        refine .waiting (by simp [ClientView.destroy, hneed]) ?_ hmsgs'
          ⟨k, (hasked k hk).not_completed⟩
        have hmask : (fun k => !((v.destroy wait true).msgs k).isEmpty) = wait := by
          funext k
          cases hk : wait k with
          | false => simp [(hdone k hk).1]
          | true => simp [ClientView.destroy, hk]
        rw [hmask]
        simp [ClientView.destroy, hneed]
  | unused hlife | silent hlife | waiting hlife | called hlife => simp [hlife] at hlive

end Steps

/-! ### Adapters that are not loaded -/

section Idle

variable {s s' s₁ s₂ : LocationAPI C} {available : LocationAdapterType → Bool}
  {client : C} {cbs : LocationCallbacks} {k : LocationAdapterType}

/-- An adapter that is not loaded has no clients and no messages. -/
def Idle (s : LocationAPI C) : Prop :=
  ∀ k, s.interface k ≠ .loaded → s.adapter k = ⟨fun _ => none, []⟩

/-- Nothing is loaded, and the adapters that are not loaded are left alone. -/
structure Quiet (s s' : LocationAPI C) : Prop where
  interface : s'.interface = s.interface
  adapter : ∀ k, s.interface k ≠ .loaded → s'.adapter k = s.adapter k

omit [DecidableEq C] in
theorem Quiet.trans (h : Quiet s s₁) (h' : Quiet s₁ s₂) : Quiet s s₂ :=
  ⟨h'.interface.trans h.interface, fun k hk =>
    (h'.adapter k (by rw [h.interface]; exact hk)).trans (h.adapter k hk)⟩

omit [DecidableEq C] in
theorem Quiet.idle (h : Quiet s s') (hs : s.Idle) : s'.Idle := by
  intro k hk
  rw [h.interface] at hk
  exact (h.adapter k hk).trans (hs k hk)

omit [DecidableEq C] in
theorem Idle.loaded_of_queue (h : s.Idle) (hq : (s.adapter k).queue ≠ []) :
    s.interface k = .loaded := by
  by_contra hk
  exact hq (by rw [h k hk])

theorem Idle.loaded_of_holds {c : C} (h : s.Idle) (hc : (s.view c).holds k = true) :
    s.interface k = .loaded := by
  by_contra hk
  have hempty := h k hk
  have hfalse : (s.view c).holds k = false := by simp [ClientView.holds, view, hempty]
  simp [hfalse] at hc

omit [DecidableEq C] in
theorem quiet_setQueue (hk : s.interface k = .loaded) (queue : List (AdapterMsg C)) :
    Quiet s (s.setQueue k queue) := by
  refine ⟨rfl, fun k' hk' => Function.update_of_ne ?_ _ _⟩
  rintro rfl
  exact hk' hk

theorem quiet_setEntry (hk : s.interface k = .loaded) (callbacks : Option LocationCallbacks) :
    Quiet s (s.setEntry k client callbacks) := by
  refine ⟨rfl, fun k' hk' => Function.update_of_ne ?_ _ _⟩
  rintro rfl
  exact hk' hk

theorem quiet_onRemoveClientCompleteCb : Quiet s (s.onRemoveClientCompleteCb client k) := by
  unfold onRemoveClientCompleteCb
  split
  · exact ⟨rfl, fun _ _ => rfl⟩
  · simp only
    split <;> exact ⟨rfl, fun _ _ => rfl⟩

theorem quiet_proc (hk : s.interface k = .loaded) (m : AdapterMsg C) : Quiet s (s.proc k m) := by
  cases m with
  | addClient client callbacks => exact quiet_setEntry hk _
  | removeClient client => exact (quiet_setEntry hk _).trans quiet_onRemoveClientCompleteCb

omit [DecidableEq C] in
theorem quiet_foldl_removeClient {wait : LocationAdapterType → Bool}
    (hwait : ∀ k, wait k = true → s.interface k = .loaded) (ks : List LocationAdapterType) :
    Quiet s (ks.foldl (removeClient client wait) s) := by
  induction ks generalizing s with
  | nil => exact ⟨rfl, fun _ _ => rfl⟩
  | cons k ks ih =>
    have h : Quiet s (removeClient client wait s k) := by
      unfold removeClient
      split
      · rename_i hk
        exact quiet_setQueue (hwait k hk) _
      · exact ⟨rfl, fun _ _ => rfl⟩
    exact h.trans (ih fun k hk => by rw [h.interface]; exact hwait k hk)

theorem quiet_destroy (withCb : Bool) : Quiet s (s.destroy client withCb) := by
  unfold destroy
  split
  · exact ⟨rfl, fun _ _ => rfl⟩
  · rename_i callbacks _
    have hwait : ∀ k, s.removeFrom callbacks k = true → s.interface k = .loaded := by
      intro k hk
      simpa using (Bool.and_eq_true_iff.1 hk).2
    have hremove : ∀ s₁ : LocationAPI C, Quiet s s₁ →
        Quiet s ([GNSS, BATCHING, GEOFENCE].foldl (removeClient client (s.removeFrom callbacks))
          s₁) := by
      intro s₁ h
      exact h.trans (quiet_foldl_removeClient (fun k hk => by rw [h.interface]; exact hwait k hk) _)
    simp only
    generalize hs₁ : (if withCb && (s.removeFrom callbacks GNSS || s.removeFrom callbacks BATCHING ||
      s.removeFrom callbacks GEOFENCE) then _ else _) = s₁
    have hq : Quiet s s₁ := by
      rw [← hs₁]
      split <;> exact ⟨rfl, fun _ _ => rfl⟩
    have h := hremove s₁ hq
    split <;> exact ⟨h.interface, h.adapter⟩

omit [DecidableEq C] in
theorem Idle.addClient (h : s.Idle) (k : LocationAdapterType) :
    (s.addClient available client cbs k).Idle := by
  have hload : (s.load available k).Idle ∧ ∀ k', (s.load available k).interface k' ≠ .loaded →
      s.interface k' ≠ .loaded := by
    unfold load
    split
    · rename_i hk
      have hne : ∀ k', Function.update s.interface k (if available k then .loaded else .loadFailed)
          k' ≠ .loaded → s.interface k' ≠ .loaded := by
        intro k' hk'
        by_cases hkk : k' = k
        · subst hkk
          rw [hk]
          decide
        · rwa [Function.update_of_ne hkk] at hk'
      exact ⟨fun k' hk' => h k' (hne k' hk'), hne⟩
    · exact ⟨h, fun _ hk => hk⟩
  unfold LocationAPI.addClient
  split
  · simp only
    split
    · rename_i hk
      exact (quiet_setQueue hk _).idle hload.1
    · exact hload.1
  · exact h

theorem Idle.setCallbacks (h : s.Idle) : (s.setCallbacks available client cbs).Idle :=
  ((h.addClient GNSS).addClient BATCHING).addClient GEOFENCE

end Idle

/-! ### Every run -/

section Runs

variable {s s' : LocationAPI C} {available : LocationAdapterType → Bool}
  {e : LocationApiEvent C} {es : List (LocationApiEvent C)}

/-- What is kept by the steps that satisfy `Concerned`. -/
structure Sound (s : LocationAPI C) : Prop where
  good : ∀ c, (s.view c).Good
  idle : s.Idle

theorem Sound.initial : (initial : LocationAPI C).Sound :=
  ⟨fun _ => .unused rfl rfl fun _ => ⟨rfl, rfl⟩, fun _ _ => rfl⟩

theorem Sound.handshake (h : s.Sound) : s.Handshake := by
  intro c withCb calls hlife
  have hlife' : (s.view c).life = .destroyed withCb calls := hlife
  have hholds : ∀ k, (s.view c).Completed k ∨ (s.view c).Asked k → (s.view c).holds k = false :=
    fun k hk => hk.elim (fun h => h.holds) fun h => h.holds
  cases h.good c with
  | unused hl | live _ hl => simp [hl] at hlife'
  | silent hl hwait hmsgs =>
    obtain ⟨rfl, rfl⟩ : withCb = false ∧ calls = 0 := by simpa [hl, eq_comm] using hlife'
    exact ⟨fun k => hholds k (hmsgs k), by simp⟩
  | waiting hl hwait hmsgs hsome =>
    obtain ⟨rfl, rfl⟩ : withCb = true ∧ calls = 0 := by simpa [hl, eq_comm] using hlife'
    refine ⟨fun k => hholds k (hmsgs k), ?_⟩
    obtain ⟨k, hk⟩ := hsome
    rw [if_neg fun h => hk (h.2 k)]
  | called hl hwait hdone =>
    obtain ⟨rfl, rfl⟩ : withCb = true ∧ calls = 1 := by simpa [hl, eq_comm] using hlife'
    exact ⟨fun k => hholds k (.inl (hdone k)), by rw [if_pos ⟨rfl, hdone⟩]⟩

theorem Sound.step (h : s.Sound) (hc : s.Concerned e) (hst : step available s e = some s') :
    s'.Sound := by
  cases e with
  | createInstance client cbs =>
    simp only [LocationAPI.step, Option.ite_none_right_eq_some, Option.some.injEq] at hst
    obtain ⟨hfree, rfl⟩ := hst
    unfold createInstance
    split
    · refine ⟨fun c => ?_, h.idle.setCallbacks⟩
      by_cases hcc : c = client
      · subst hcc
        rw [view_setLife]
        exact good_create (h.good c) hfree grows_setCallbacks
      · rw [view_setLife_of_ne hcc, view_setCallbacks_of_ne hcc]
        exact h.good c
    · exact h
  | updateCallbacks client cbs =>
    simp only [LocationAPI.step, Option.ite_none_right_eq_some, Option.some.injEq] at hst
    obtain ⟨hlive, rfl⟩ := hst
    unfold updateCallbacks
    split
    · refine ⟨fun c => ?_, h.idle.setCallbacks⟩
      by_cases hcc : c = client
      · subst hcc
        exact good_update (h.good c) hlive grows_setCallbacks
      · rw [view_setCallbacks_of_ne hcc]
        exact h.good c
    · exact h
  | destroy client withCb =>
    simp only [LocationAPI.step, Option.ite_none_right_eq_some, Option.some.injEq] at hst
    obtain ⟨hlive, rfl⟩ := hst
    refine ⟨fun c => ?_, (quiet_destroy withCb).idle h.idle⟩
    by_cases hcc : c = client
    · subst hcc
      obtain ⟨cbs, hcbs⟩ := callbacks_of_live (h.good c) hlive
      rw [view_destroy_self hcbs]
      refine good_destroy (h.good c) hlive (fun k hk => ?_) withCb
      obtain ⟨cbs', hcbs', hclient⟩ := hc k hk
      obtain rfl : cbs = cbs' := Option.some.inj (hcbs.symm.trans hcbs')
      rw [removeFrom, hclient, h.idle.loaded_of_holds hk]
      rfl
    · rw [view_destroy_of_ne hcc]
      exact h.good c
  | process k =>
    simp only [LocationAPI.step] at hst
    split at hst
    · cases hst
    · rename_i m queue hq
      obtain rfl := Option.some.inj hst
      have hk : s.interface k = .loaded := h.idle.loaded_of_queue (by simp [hq])
      have hk' : (s.setQueue k queue).interface k = .loaded := hk
      have hproc : Quiet (s.setQueue k queue) ((s.setQueue k queue).proc k m) := quiet_proc hk' m
      refine ⟨fun c => ?_, hproc.idle ((quiet_setQueue hk queue).idle h.idle)⟩
      obtain ⟨-, hview⟩ | ⟨rest, cbs, hmsgs, hview⟩ | ⟨rest, hmsgs, hview⟩ :=
        view_proc (c := c) hq
      · rw [hview]
        exact h.good c
      · rw [hview]
        exact good_take_add (h.good c) hmsgs
      · rw [hview]
        exact good_take_remove (h.good c) hmsgs

/-- A `destroy` that does not satisfy `Concerned` leaves an adapter with the client. -/
theorem Sound.not_handshake (h : s.Sound) (hc : ¬ s.Concerned e)
    (hst : LocationAPI.step available s e = some s') : ¬ s'.Handshake := by
  cases e with
  | createInstance | updateCallbacks | process => exact absurd trivial hc
  | destroy client withCb =>
    simp only [LocationAPI.step, Option.ite_none_right_eq_some, Option.some.injEq] at hst
    obtain ⟨hlive, rfl⟩ := hst
    obtain ⟨cbs, hcbs⟩ := callbacks_of_live (h.good client) hlive
    obtain ⟨k, hk⟩ := not_forall.1 hc
    obtain ⟨hholds, hclient⟩ := Classical.not_imp.1 hk
    have hnot : s.removeFrom cbs k = false := by
      rw [removeFrom, Bool.and_eq_false_iff]
      refine .inl ?_
      rw [← Bool.not_eq_true]
      exact fun hcl => hclient ⟨cbs, hcbs, hcl⟩
    have hview := view_destroy_self (s := s) hcbs withCb
    intro hand
    have hlife : (s.destroy client withCb).life client =
        ((s.view client).destroy (s.removeFrom cbs) withCb).life := by
      rw [← hview]
      rfl
    have hfalse := (hand client _ _ hlife).1 k
    rw [hview] at hfalse
    have hsame : ((s.view client).destroy (s.removeFrom cbs) withCb).holds k =
        (s.view client).holds k := by
      simp [ClientView.holds, ClientView.destroy, hnot]
    rw [hsame, hholds] at hfalse
    exact Bool.noConfusion hfalse

/-- **The handshake of `destroy`.**  A run keeps the handshake throughout exactly when every
`destroy` in it finds all adapters that hold the client among those that its callbacks concern. -/
theorem destroy_handshake_iff :
    (system C available).Always Handshake es s ↔ (system C available).Run Concerned es s :=
  System.always_iff_run (J := Sound) .initial (fun _ h => h.handshake)
    (fun _ _ _ h hc hst => h.step hc hst) fun _ _ _ h hc hst => h.not_handshake hc hst

/-- The callbacks with only the mandatory ones set. -/
def mandatoryCallbacks : LocationCallbacks :=
  ⟨true, true, true, false, false, false, false, false, false, false, false⟩

/-- A client for tracking that gives up its tracking callback and is destroyed. -/
def shrinkingClient : List (LocationApiEvent ℕ) :=
  [.createInstance 1 { mandatoryCallbacks with trackingCb := true },
    .updateCallbacks 1 mandatoryCallbacks, .destroy 1 true]

/-- Its callback runs at once, and the GNSS adapter keeps the client. -/
theorem shrinkingClient_kept :
    ∃ s, (system ℕ fun _ => true).Run System.Free shrinkingClient s ∧ ¬ s.Handshake := by
  have h₁ : (system ℕ fun _ => true).Run System.Free
      [.createInstance 1 { mandatoryCallbacks with trackingCb := true }] _ :=
    .snoc .nil trivial rfl
  have h₂ : (system ℕ fun _ => true).Run System.Free
      [.createInstance 1 { mandatoryCallbacks with trackingCb := true },
        .updateCallbacks 1 mandatoryCallbacks] _ := h₁.snoc trivial rfl
  refine ⟨_, h₂.snoc trivial rfl, fun h => ?_⟩
  exact Bool.noConfusion ((h 1 true 1 rfl).1 .GNSS)

end Runs

end LocationAPI

end GpsHal
