import GpsHal.Location.DataTypes
import GpsHal.Transition.Basic
import Mathlib.Logic.Function.Basic

/-!
# `GeofenceAdapter` : commands on several geofences

A command names a number of geofences.  Its message allocates an array for the errors and puts a
callback for each item into the call queue of `LocApiBase`; the callback looks the item up and asks
the engine, whose answer runs another callback.  The callbacks of the last item send the errors to
the client and delete the array.

The call queue and the engine may take the items in any order, so the items are followed one by
one, and a schedule is a list of events of items.

## Main definitions

* `GeofenceMsg`, `GeofenceBatch` : a message, and what its callbacks share.
* `GeofenceMsg.proc`, `GeofenceBatch.onCall`, `GeofenceBatch.onAnswer` : the message and the
  callbacks.
* `GeofenceBatch.step` : one callback of one item.

## Main results

* `GeofenceMsg.collective_response_iff` : the client gets one response, with the outcome of every
  item, exactly if no array is missing, no error is hidden and the last item finishes last.
-/

namespace GpsHal

inductive GeofenceCommand where
  | addGeofences | removeGeofences | pauseGeofences | resumeGeofences | modifyGeofences
  deriving DecidableEq, Repr

/-- The message of a command. -/
structure GeofenceMsg where
  command : GeofenceCommand
  mClient : ℕ
  mIds : List (BitVec 32)
  mOptions : Option (List GeofenceOption)
  mInfos : Option (List GeofenceInfo)
  deriving DecidableEq, Repr

namespace GeofenceMsg

/-- A command without items does nothing. -/
def checkCount (m : GeofenceMsg) : Option GeofenceMsg := if m.mIds.length = 0 then none else some m

/-- `addGeofencesCommand`; the ids are those that `generateSessionId` gives. -/
def addGeofencesCommand (client : ℕ) (ids : List (BitVec 32))
    (options : Option (List GeofenceOption)) (infos : Option (List GeofenceInfo)) :
    Option GeofenceMsg :=
  checkCount ⟨.addGeofences, client, ids, options, infos⟩

def removeGeofencesCommand (client : ℕ) (ids : List (BitVec 32)) : Option GeofenceMsg :=
  checkCount ⟨.removeGeofences, client, ids, none, none⟩

def pauseGeofencesCommand (client : ℕ) (ids : List (BitVec 32)) : Option GeofenceMsg :=
  checkCount ⟨.pauseGeofences, client, ids, none, none⟩

def resumeGeofencesCommand (client : ℕ) (ids : List (BitVec 32)) : Option GeofenceMsg :=
  checkCount ⟨.resumeGeofences, client, ids, none, none⟩

def modifyGeofencesCommand (client : ℕ) (ids : List (BitVec 32))
    (options : Option (List GeofenceOption)) : Option GeofenceMsg :=
  checkCount ⟨.modifyGeofences, client, ids, options, none⟩

variable (m : GeofenceMsg)

def mCount : ℕ := m.mIds.length

/-- An array that the message needs is `NULL`. -/
def lacksArray : Bool :=
  match m.command with
  | .addGeofences => m.mOptions.isNone || m.mInfos.isNone
  | .modifyGeofences => m.mOptions.isNone
  | .removeGeofences | .pauseGeofences | .resumeGeofences => false

end GeofenceMsg

/-- How far an item is: its callback waits in the call queue; the engine has been asked, with a
hardware id unless a geofence is added; or it has finished: its id was unknown, the engine has
answered, or it was rejected for want of an array. -/
inductive GeofenceItemPhase where
  | queued
  | requested (hwId : Option (BitVec 32))
  | unknownId
  | answered (err : LocationError)
  | rejected
  deriving DecidableEq, Repr

namespace GeofenceItemPhase

/-- The outcome of an item that has finished. -/
def outcome : GeofenceItemPhase → Option LocationError
  | queued | requested _ => none
  | unknownId => some .ID_UNKNOWN
  | answered err => some err
  | rejected => some .INVALID_PARAMETER

def finished (p : GeofenceItemPhase) : Bool := p.outcome.isSome

end GeofenceItemPhase

/-- A callback of an item: the one from the call queue, with the hardware id that is found for the
item, or the answer of the engine. -/
inductive GeofenceItemEvent where
  | call (i : ℕ) (hwId : Option (BitVec 32))
  | answer (i : ℕ) (err : LocationError)
  deriving DecidableEq, Repr

/-- What the callbacks of a message share; arrays are functions of the index.  The phases record how
far each item is, and `responses` what has been sent to the client. -/
structure GeofenceBatch extends GeofenceMsg where
  errs : ℕ → LocationError
  phases : ℕ → GeofenceItemPhase
  responses : List (List LocationError)

namespace GeofenceMsg

variable (m : GeofenceMsg)

/-- The phase in which the items start. -/
def startPhase : GeofenceItemPhase := if m.lacksArray then .rejected else .queued

/-- `proc`, if the memory for the errors holds `memory`. -/
def proc (memory : ℕ → LocationError) : GeofenceBatch :=
  { m with
    errs := if m.lacksArray then fun _ => .INVALID_PARAMETER else memory
    phases := fun _ => m.startPhase
    responses := [] }

end GeofenceMsg

/-- The phase after the callback from the call queue. -/
def GeofenceCommand.called (command : GeofenceCommand) (hwId : Option (BitVec 32)) :
    GeofenceItemPhase :=
  match command, hwId with
  | .addGeofences, _ => .requested none
  | _, some hwId => .requested (some hwId)
  | _, none => .unknownId

/-- The phases after an event, if it is possible. -/
def phaseStep (m : GeofenceMsg) (phases : ℕ → GeofenceItemPhase) :
    GeofenceItemEvent → Option (ℕ → GeofenceItemPhase)
  | .call i hwId =>
    if i < m.mCount ∧ phases i = .queued then
      some (Function.update phases i (m.command.called hwId))
    else none
  | .answer i err =>
    match phases i with
    | .requested _ => if i < m.mCount then some (Function.update phases i (.answered err)) else none
    | _ => none

namespace GeofenceBatch

variable (b : GeofenceBatch)

def setErr (i : ℕ) (err : LocationError) : GeofenceBatch :=
  { b with errs := Function.update b.errs i err }

/-- Send aggregated response on last item and cleanup -/
def respondIfLast (i : ℕ) : GeofenceBatch :=
  if i = b.mCount - 1 then
    { b with responses := b.responses ++ [(List.range b.mCount).map b.errs] }
  else b

/-! ### The callbacks from the call queue -/

def addGeofencesCall (_ : ℕ) : GeofenceBatch := b

/-- The callback of the other commands looks the hardware id up. -/
def lookupCall (i : ℕ) (hwId : Option (BitVec 32)) : GeofenceBatch :=
  match hwId with
  | some _ => b.setErr i .SUCCESS
  | none => (b.setErr i .ID_UNKNOWN).respondIfLast i

def removeGeofencesCall := b.lookupCall

def pauseGeofencesCall := b.lookupCall

def resumeGeofencesCall := b.lookupCall

def modifyGeofencesCall := b.lookupCall

def onCall (i : ℕ) (hwId : Option (BitVec 32)) : GeofenceBatch :=
  match b.command with
  | .addGeofences => b.addGeofencesCall i
  | .removeGeofences => b.removeGeofencesCall i hwId
  | .pauseGeofences => b.pauseGeofencesCall i hwId
  | .resumeGeofences => b.resumeGeofencesCall i hwId
  | .modifyGeofences => b.modifyGeofencesCall i hwId

/-! ### The answers of the engine -/

def addGeofencesAnswer (i : ℕ) (err : LocationError) : GeofenceBatch :=
  (b.setErr i err).respondIfLast i

def removeGeofencesAnswer (i : ℕ) (err : LocationError) : GeofenceBatch :=
  (b.setErr i err).respondIfLast i

def pauseGeofencesAnswer (i : ℕ) (err : LocationError) : GeofenceBatch :=
  (b.setErr i err).respondIfLast i

/-- Nothing happens if the engine has failed, also for the last item. -/
def resumeGeofencesAnswer (i : ℕ) (err : LocationError) : GeofenceBatch :=
  if err = .SUCCESS then (b.setErr i err).respondIfLast i else b

/-- The error is written only if there is none. -/
def modifyGeofencesAnswer (i : ℕ) (err : LocationError) : GeofenceBatch :=
  (if err = .SUCCESS then b.setErr i err else b).respondIfLast i

def onAnswer (i : ℕ) (err : LocationError) : GeofenceBatch :=
  match b.command with
  | .addGeofences => b.addGeofencesAnswer i err
  | .removeGeofences => b.removeGeofencesAnswer i err
  | .pauseGeofences => b.pauseGeofencesAnswer i err
  | .resumeGeofences => b.resumeGeofencesAnswer i err
  | .modifyGeofences => b.modifyGeofencesAnswer i err

def callback : GeofenceItemEvent → GeofenceBatch
  | .call i hwId => b.onCall i hwId
  | .answer i err => b.onAnswer i err

/-- One callback of one item. -/
def step (e : GeofenceItemEvent) : Option GeofenceBatch :=
  (phaseStep b.toGeofenceMsg b.phases e).map fun phases => { b.callback e with phases := phases }

/-- The client has got exactly one response, with the outcome of every item. -/
def Answered : Prop :=
  b.responses.map (List.map some) = [(List.range b.mCount).map fun i => (b.phases i).outcome]

end GeofenceBatch

/-! ### When the response is right -/

namespace GeofenceItemEvent

/-- The item whose callback runs. -/
def item : GeofenceItemEvent → ℕ
  | call i _ | answer i _ => i

end GeofenceItemEvent

namespace GeofenceCommand

/-- A failure of the engine is not written to the array of errors. -/
def hidesErrors : GeofenceCommand → Bool
  | resumeGeofences | modifyGeofences => true
  | addGeofences | removeGeofences | pauseGeofences => false

/-- The item has finished after the event. -/
def finishes (command : GeofenceCommand) : GeofenceItemEvent → Bool
  | .call _ hwId => (command.called hwId).finished
  | .answer _ _ => true

/-- What an event writes to the array of errors. -/
def written (command : GeofenceCommand) : GeofenceItemEvent → Option LocationError
  | .call _ hwId =>
    if command = .addGeofences then none
    else some (if hwId.isSome then .SUCCESS else .ID_UNKNOWN)
  | .answer _ err => if command.hidesErrors && err ≠ .SUCCESS then none else some err

/-- An event sends the response if it is one of the last item. -/
def reports (command : GeofenceCommand) : GeofenceItemEvent → Bool
  | .call _ hwId => (command.called hwId).finished
  | .answer _ err => !(command = .resumeGeofences && err ≠ .SUCCESS)

/-- What the array holds for an item, if the memory held `v`. -/
def stored (command : GeofenceCommand) (v : LocationError) : GeofenceItemPhase → LocationError
  | .queued | .requested none => v
  | .requested (some _) => .SUCCESS
  | .unknownId => .ID_UNKNOWN
  | .answered err => if command.hidesErrors then .SUCCESS else err
  | .rejected => .INVALID_PARAMETER

end GeofenceCommand

namespace GeofenceMsg

variable (m : GeofenceMsg)

/-- The phases after a schedule, if it is possible. -/
def phaseRun (es : List GeofenceItemEvent) : Option (ℕ → GeofenceItemPhase) :=
  es.foldlM (phaseStep m) fun _ => m.startPhase

/-- What the callbacks share after a schedule. -/
def batchRun (memory : ℕ → LocationError) (es : List GeofenceItemEvent) : Option GeofenceBatch :=
  es.foldlM GeofenceBatch.step (m.proc memory)

/-- The items are answered in order: no array is missing; if the command hides failures, there is
none; and when the last item finishes, every other item has finished, or its id was known and the
engine, which has been asked, is going to answer that it has succeeded. -/
structure InOrder (es : List GeofenceItemEvent) (final : ℕ → GeofenceItemPhase) : Prop where
  present : m.lacksArray = false
  reported : m.command.hidesErrors = true → ∀ i < m.mCount, ∀ err, final i = .answered err →
    err = .SUCCESS
  last : ∀ es₁ e es₂ phases, es = es₁ ++ e :: es₂ → m.phaseRun es₁ = some phases →
    e.item = m.mCount - 1 → m.command.finishes e = true → ∀ i < m.mCount - 1,
      (phases i).finished = true ∨
        (∃ hwId, phases i = .requested (some hwId)) ∧ final i = .answered .SUCCESS

end GeofenceMsg

/-! ### One callback -/

namespace GeofenceBatch

variable {m : GeofenceMsg} {memory : ℕ → LocationError} {b b' : GeofenceBatch}
  {e : GeofenceItemEvent}

/-- Write to the array, if there is something to write. -/
def write (b : GeofenceBatch) (i : ℕ) : Option LocationError → GeofenceBatch
  | some err => b.setErr i err
  | none => b

/-- A callback writes to the array and may send the response. -/
theorem callback_eq (b : GeofenceBatch) (e : GeofenceItemEvent) :
    b.callback e =
      if b.command.reports e then (b.write e.item (b.command.written e)).respondIfLast e.item
      else b.write e.item (b.command.written e) := by
  cases e with
  | call i hwId =>
    cases h : b.command <;> cases hwId <;> simp only [callback, onCall, h] <;> rfl
  | answer i err =>
    cases h : b.command <;> simp only [callback, onAnswer, h] <;> try rfl
    · -- resume
      by_cases he : err = .SUCCESS
      · subst he
        rfl
      · simp [resumeGeofencesAnswer, GeofenceCommand.reports, GeofenceCommand.written,
          GeofenceCommand.hidesErrors, write, he]
    · -- modify
      by_cases he : err = .SUCCESS
      · subst he
        rfl
      · simp [modifyGeofencesAnswer, GeofenceCommand.reports, GeofenceCommand.written,
          GeofenceCommand.hidesErrors, write, he, GeofenceItemEvent.item]

@[simp] theorem toGeofenceMsg_write (b : GeofenceBatch) (i : ℕ) (err : Option LocationError) :
    (b.write i err).toGeofenceMsg = b.toGeofenceMsg := by
  cases err <;> rfl

@[simp] theorem responses_write (b : GeofenceBatch) (i : ℕ) (err : Option LocationError) :
    (b.write i err).responses = b.responses := by
  cases err <;> rfl

theorem errs_write (b : GeofenceBatch) (i : ℕ) (err : Option LocationError) :
    (b.write i err).errs = match err with
      | some err => Function.update b.errs i err
      | none => b.errs := by
  cases err <;> rfl

@[simp] theorem toGeofenceMsg_respondIfLast (b : GeofenceBatch) (i : ℕ) :
    (b.respondIfLast i).toGeofenceMsg = b.toGeofenceMsg := by
  unfold respondIfLast
  split <;> rfl

@[simp] theorem errs_respondIfLast (b : GeofenceBatch) (i : ℕ) :
    (b.respondIfLast i).errs = b.errs := by
  unfold respondIfLast
  split <;> rfl

theorem toGeofenceMsg_callback (b : GeofenceBatch) (e : GeofenceItemEvent) :
    (b.callback e).toGeofenceMsg = b.toGeofenceMsg := by
  rw [callback_eq]
  split <;> simp

theorem errs_callback (b : GeofenceBatch) (e : GeofenceItemEvent) :
    (b.callback e).errs = (b.write e.item (b.command.written e)).errs := by
  rw [callback_eq]
  split <;> simp

/-- A callback sends the response if it is one of the last item and reports. -/
theorem responses_callback (b : GeofenceBatch) (e : GeofenceItemEvent) :
    (b.callback e).responses =
      if b.command.reports e = true ∧ e.item = b.mCount - 1 then
        b.responses ++ [(List.range b.mCount).map (b.callback e).errs]
      else b.responses := by
  have hmsg : (b.write e.item (b.command.written e)).toGeofenceMsg = b.toGeofenceMsg :=
    toGeofenceMsg_write _ _ _
  rw [errs_callback, callback_eq]
  by_cases hr : b.command.reports e = true
  · rw [if_pos hr, respondIfLast, hmsg]
    by_cases hi : e.item = b.mCount - 1
    · rw [if_pos hi, if_pos ⟨hr, hi⟩, responses_write]
    · rw [if_neg hi, if_neg fun h => hi h.2, responses_write]
  · rw [if_neg hr, if_neg fun h => hr h.1, responses_write]

theorem step_eq_some : b.step e = some b' ↔
    ∃ phases, phaseStep b.toGeofenceMsg b.phases e = some phases ∧
      b' = { b.callback e with phases := phases } := by
  rw [step, Option.map_eq_some_iff]
  exact exists_congr fun _ => and_congr_right' eq_comm

end GeofenceBatch

/-- What an event does to the phases. -/
theorem phaseStep_cases {m : GeofenceMsg} {p p' : ℕ → GeofenceItemPhase} {e : GeofenceItemEvent}
    (h : phaseStep m p e = some p') :
    e.item < m.mCount ∧
      ((∃ hwId, e = .call e.item hwId ∧ p e.item = .queued ∧
          p' = Function.update p e.item (m.command.called hwId)) ∨
        ∃ hwId err, e = .answer e.item err ∧ p e.item = .requested hwId ∧
          p' = Function.update p e.item (.answered err)) := by
  cases e with
  | call i hwId =>
    simp only [phaseStep] at h
    split at h
    · rename_i hi
      exact ⟨hi.1, .inl ⟨hwId, rfl, hi.2, (Option.some.inj h).symm⟩⟩
    · cases h
  | answer i err =>
    simp only [phaseStep] at h
    split at h
    · rename_i hwId hp
      split at h
      · rename_i hi
        exact ⟨hi, .inr ⟨hwId, err, rfl, hp, (Option.some.inj h).symm⟩⟩
      · cases h
    · cases h

section Phases

variable {m : GeofenceMsg} {p p' : ℕ → GeofenceItemPhase} {e : GeofenceItemEvent}
  {es : List GeofenceItemEvent}

theorem phaseStep_of_ne (h : phaseStep m p e = some p') {i : ℕ} (hi : i ≠ e.item) : p' i = p i := by
  obtain ⟨-, ⟨hwId, -, -, rfl⟩ | ⟨hwId, err, -, -, rfl⟩⟩ := phaseStep_cases h <;> simp [hi]

/-- Only an unfinished item has events. -/
theorem phaseStep_unfinished (h : phaseStep m p e = some p') : (p e.item).finished = false := by
  obtain ⟨-, ⟨hwId, -, hp, -⟩ | ⟨hwId, err, -, hp, -⟩⟩ := phaseStep_cases h <;> rw [hp] <;> rfl

/-- The item has finished after an event exactly if the event finishes it. -/
theorem phaseStep_finished (h : phaseStep m p e = some p') :
    (p' e.item).finished = m.command.finishes e := by
  obtain ⟨-, ⟨hwId, he, -, rfl⟩ | ⟨hwId, err, he, -, rfl⟩⟩ := phaseStep_cases h
  · rw [Function.update_self, he]
    rfl
  · rw [Function.update_self, he]
    rfl

/-- What becomes of a phase: it stays, or the item was waiting, or the engine answers. -/
def Follows (p p' : GeofenceItemPhase) : Prop :=
  p' = p ∨ p = .queued ∨ (∃ hwId err, p = .requested hwId ∧ p' = .answered err)

theorem follows_step (h : phaseStep m p e = some p') (i : ℕ) : Follows (p i) (p' i) := by
  by_cases hi : i = e.item
  · subst hi
    obtain ⟨-, ⟨hwId, -, hp, -⟩ | ⟨hwId, err, -, hp, rfl⟩⟩ := phaseStep_cases h
    · exact .inr (.inl hp)
    · exact .inr (.inr ⟨hwId, err, hp, Function.update_self ..⟩)
  · exact .inl (phaseStep_of_ne h hi)

theorem Follows.trans {p p' p'' : GeofenceItemPhase} (h : Follows p p') (h' : Follows p' p'') :
    Follows p p'' := by
  rcases h with rfl | h | ⟨hwId, err, hp, rfl⟩
  · exact h'
  · exact .inr (.inl h)
  · rcases h' with rfl | h' | ⟨hwId', err', h', -⟩
    · exact .inr (.inr ⟨hwId, err, hp, rfl⟩)
    · cases h'
    · cases h'

theorem follows_run (h : es.foldlM (phaseStep m) p = some p') (i : ℕ) :
    Follows (p i) (p' i) := by
  induction es generalizing p with
  | nil =>
    obtain rfl : p = p' := Option.some.inj h
    exact .inl rfl
  | cons e es ih =>
    rw [List.foldlM_cons] at h
    obtain ⟨p₁, hp₁, h⟩ := Option.bind_eq_some_iff.1 h
    exact (follows_step hp₁ i).trans (ih h)

/-- A phase that has finished stays. -/
theorem Follows.eq_of_finished {p p' : GeofenceItemPhase} (h : Follows p p')
    (hp : p.finished = true) : p' = p := by
  rcases h with h | rfl | ⟨hwId, err, rfl, -⟩
  · exact h
  · cases hp
  · cases hp

/-- An item that finishes does so in one event. -/
theorem exists_finish (h : es.foldlM (phaseStep m) p = some p') {i : ℕ}
    (hp : (p i).finished = false) (hp' : (p' i).finished = true) :
    ∃ es₁ e es₂ p₁ p₂, es = es₁ ++ e :: es₂ ∧ es₁.foldlM (phaseStep m) p = some p₁ ∧
      phaseStep m p₁ e = some p₂ ∧ es₂.foldlM (phaseStep m) p₂ = some p' ∧ e.item = i ∧
      m.command.finishes e = true := by
  induction es generalizing p with
  | nil =>
    obtain rfl : p = p' := Option.some.inj h
    rw [hp] at hp'
    cases hp'
  | cons e es ih =>
    rw [List.foldlM_cons] at h
    obtain ⟨p₁, hp₁, h⟩ := Option.bind_eq_some_iff.1 h
    cases hf : (p₁ i).finished with
    | true =>
      have hi : e.item = i := by
        by_contra hne
        rw [phaseStep_of_ne hp₁ (Ne.symm hne), hp] at hf
        cases hf
      subst hi
      exact ⟨[], e, es, p, p₁, rfl, rfl, hp₁, h, rfl, (phaseStep_finished hp₁).symm.trans hf⟩
    | false =>
      obtain ⟨es₁, e', es₂, q₁, q₂, rfl, h₁, hstep, h₂, hi, hfin⟩ := ih h hf
      refine ⟨e :: es₁, e', es₂, q₁, q₂, rfl, ?_, hstep, h₂, hi, hfin⟩
      rw [List.foldlM_cons, hp₁]
      exact h₁

end Phases

/-! ### Runs -/

namespace GeofenceBatch

variable {m : GeofenceMsg} {memory : ℕ → LocationError} {b b' : GeofenceBatch}
  {e : GeofenceItemEvent} {es : List GeofenceItemEvent}

/-- The array holds for each item what its phase says. -/
structure Tracks (m : GeofenceMsg) (memory : ℕ → LocationError) (b : GeofenceBatch) : Prop where
  msg_eq : b.toGeofenceMsg = m
  errs_eq : ∀ i, b.errs i = m.command.stored (memory i) (b.phases i)
  requested_none : ∀ i, b.phases i = .requested none → m.command = .addGeofences

theorem tracks_proc (m : GeofenceMsg) (memory : ℕ → LocationError) :
    Tracks m memory (m.proc memory) := by
  refine ⟨rfl, fun i => ?_, fun i h => ?_⟩
  · show (if m.lacksArray then fun _ => LocationError.INVALID_PARAMETER else memory) i = _
    cases h : m.lacksArray <;> simp [GeofenceMsg.proc, GeofenceMsg.startPhase, h,
      GeofenceCommand.stored]
  · have hstart : m.startPhase = .requested none := h
    unfold GeofenceMsg.startPhase at hstart
    split at hstart <;> cases hstart

theorem called_requested_none {command : GeofenceCommand} {hwId : Option (BitVec 32)}
    (h : command.called hwId = .requested none) : command = .addGeofences := by
  cases command <;> cases hwId <;> first | rfl | cases h

theorem Tracks.step (hb : Tracks m memory b) (h : b.step e = some b') : Tracks m memory b' := by
  obtain ⟨p, hp, rfl⟩ := step_eq_some.1 h
  have hmsg := hb.msg_eq
  rw [hmsg] at hp
  have herrs : (b.callback e).errs = (b.write e.item (m.command.written e)).errs := by
    rw [errs_callback, hmsg]
  refine ⟨(toGeofenceMsg_callback b e).trans hmsg, fun i => ?_, fun i hi => ?_⟩
  · show (b.callback e).errs i = m.command.stored (memory i) (p i)
    rw [herrs, errs_write]
    by_cases hi : i = e.item
    · subst hi
      have hold := hb.errs_eq e.item
      obtain ⟨-, ⟨hwId, he, hq, rfl⟩ | ⟨hwId, err, he, hq, rfl⟩⟩ := phaseStep_cases hp
      · rw [Function.update_self]
        rw [hq] at hold
        rw [he]
        cases hc : m.command <;> cases hwId <;>
          simp [GeofenceCommand.written, GeofenceCommand.called, GeofenceCommand.stored,
            GeofenceItemEvent.item] at hold ⊢ <;> exact hold
      · rw [Function.update_self]
        rw [hq] at hold
        have hnone := hb.requested_none e.item
        rw [hq] at hnone
        have hw : m.command.written e =
            if m.command.hidesErrors && err ≠ .SUCCESS then none else some err := by
          rw [he]
          rfl
        rw [hw, GeofenceCommand.stored]
        cases hc : m.command.hidesErrors with
        | false => simp
        | true =>
          by_cases hs : err = .SUCCESS
          · simp [hs]
          · -- SUCCESS has been written when the engine was asked
            cases hwId with
            | none =>
              rw [hnone rfl] at hc
              cases hc
            | some hwId =>
              have hsuccess : b.errs e.item = .SUCCESS := hold
              simpa [hs] using hsuccess
    · rw [phaseStep_of_ne hp hi, ← hb.errs_eq i]
      cases m.command.written e with
      | none => rfl
      | some err => exact Function.update_of_ne hi _ _
  · by_cases hi' : i = e.item
    · subst hi'
      have hi₀ : p e.item = .requested none := hi
      obtain ⟨-, ⟨hwId, -, -, rfl⟩ | ⟨hwId, err, -, -, rfl⟩⟩ := phaseStep_cases hp
      · rw [Function.update_self] at hi₀
        exact called_requested_none hi₀
      · rw [Function.update_self] at hi₀
        cases hi₀
    · exact hb.requested_none i ((phaseStep_of_ne hp hi').symm.trans hi)

/-- What one callback sends. -/
theorem responses_step (h : b.step e = some b') :
    b'.responses = if b.command.reports e = true ∧ e.item = b.mCount - 1 then
        b.responses ++ [(List.range b.mCount).map b'.errs]
      else b.responses := by
  obtain ⟨p, -, rfl⟩ := step_eq_some.1 h
  exact responses_callback b e

/-- An event that reports finishes its item. -/
theorem finishes_of_reports {command : GeofenceCommand} (h : command.reports e = true) :
    command.finishes e = true := by
  cases e with
  | call i hwId => exact h
  | answer i err => rfl

theorem msg_run (h : es.foldlM step b = some b') : b'.toGeofenceMsg = b.toGeofenceMsg := by
  refine (System.run_foldlM h).invariant (I := fun c => c.toGeofenceMsg = b.toGeofenceMsg) rfl ?_
  intro c e c' hc _ hst
  obtain ⟨p, -, rfl⟩ := step_eq_some.1 (System.ofPartial_step.1 hst)
  exact (toGeofenceMsg_callback c e).trans hc

theorem tracks_run (hb : Tracks m memory b) (h : es.foldlM step b = some b') :
    Tracks m memory b' :=
  (System.run_foldlM h).invariant hb fun _ _ _ hc _ hst => hc.step (System.ofPartial_step.1 hst)

/-- A schedule is possible for the callbacks if it is for the phases. -/
theorem exists_run (hb : b.toGeofenceMsg = m) {p : ℕ → GeofenceItemPhase}
    (h : es.foldlM (phaseStep m) b.phases = some p) :
    ∃ b', es.foldlM step b = some b' ∧ b'.phases = p := by
  induction es generalizing b with
  | nil => exact ⟨b, rfl, Option.some.inj h⟩
  | cons e es ih =>
    rw [List.foldlM_cons] at h
    obtain ⟨p₁, hp₁, h⟩ := Option.bind_eq_some_iff.1 h
    have hstep : b.step e = some { b.callback e with phases := p₁ } :=
      step_eq_some.2 ⟨p₁, by rw [hb]; exact hp₁, rfl⟩
    obtain ⟨b', hb', rfl⟩ := ih (b := { b.callback e with phases := p₁ })
      ((toGeofenceMsg_callback b e).trans hb) h
    exact ⟨b', by rw [List.foldlM_cons, hstep]; exact hb', rfl⟩

theorem phases_of_run (h : es.foldlM step b = some b') :
    es.foldlM (phaseStep b.toGeofenceMsg) b.phases = some b'.phases := by
  induction es generalizing b with
  | nil =>
    obtain rfl : b = b' := Option.some.inj h
    rfl
  | cons e es ih =>
    rw [List.foldlM_cons] at h
    obtain ⟨b₁, hb₁, h⟩ := Option.bind_eq_some_iff.1 h
    obtain ⟨p, hp, rfl⟩ := step_eq_some.1 hb₁
    have hrun := ih h
    rw [show ({ b.callback e with phases := p } : GeofenceBatch).toGeofenceMsg = _ from
      toGeofenceMsg_callback b e] at hrun
    rw [List.foldlM_cons, hp]
    exact hrun

/-- Nothing is sent while the last item has not finished, nor after it has. -/
theorem responses_run (h : es.foldlM step b = some b')
    (hlast : (b.phases (b.mCount - 1)).finished = (b'.phases (b.mCount - 1)).finished) :
    b'.responses = b.responses := by
  induction es generalizing b with
  | nil =>
    obtain rfl : b = b' := Option.some.inj h
    rfl
  | cons e es ih =>
    rw [List.foldlM_cons] at h
    obtain ⟨b₁, hb₁, h⟩ := Option.bind_eq_some_iff.1 h
    have hone : [e].foldlM step b = some b₁ := by simpa using hb₁
    have hmsg : b₁.toGeofenceMsg = b.toGeofenceMsg := msg_run hone
    obtain ⟨p, hp, hb₁'⟩ := step_eq_some.1 hb₁
    have hp₁ : b₁.phases = p := by rw [hb₁']
    have hbefore := follows_step hp (b.mCount - 1)
    have hafter := follows_run (phases_of_run h) (b.mCount - 1)
    -- the last item has finished before and after the event, or neither
    have hmid : (p (b.mCount - 1)).finished = (b.phases (b.mCount - 1)).finished := by
      cases hf : (b.phases (b.mCount - 1)).finished with
      | true => rw [hbefore.eq_of_finished hf, hf]
      | false =>
        by_contra hp'
        rw [Bool.not_eq_false] at hp'
        rw [hp₁] at hafter
        rw [hf, hafter.eq_of_finished hp', hp'] at hlast
        cases hlast
    have hnone : ¬ (b.command.reports e = true ∧ e.item = b.mCount - 1) := by
      rintro ⟨hr, hi⟩
      rw [← hi, phaseStep_finished hp, finishes_of_reports hr, phaseStep_unfinished hp] at hmid
      cases hmid
    have hcount : b₁.mCount = b.mCount := by rw [hmsg]
    have hresponses := responses_step hb₁
    rw [if_neg hnone] at hresponses
    rw [← hresponses]
    refine ih h ?_
    rw [hcount, hp₁, hmid, hlast]

end GeofenceBatch

namespace GeofenceMsg

variable {m : GeofenceMsg} {es : List GeofenceItemEvent} {final : ℕ → GeofenceItemPhase}

/-- The event that finishes the last item leads to phases `p` that go on to the final ones, and
sends the only response. -/
theorem response_of_split {es₁ es₂ : List GeofenceItemEvent} {e : GeofenceItemEvent}
    {p₁ : ℕ → GeofenceItemPhase} (hcount : 0 < m.mCount) (hpresent : m.lacksArray = false)
    (hrun : m.phaseRun (es₁ ++ e :: es₂) = some final)
    (hfin : ∀ i < m.mCount, (final i).finished = true) (h₁ : m.phaseRun es₁ = some p₁)
    (hi : e.item = m.mCount - 1) (hfinishes : m.command.finishes e = true) :
    ∃ p, phaseStep m p₁ e = some p ∧ (∀ i, Follows (p i) (final i)) ∧
      ∀ memory, ∃ b, m.batchRun memory (es₁ ++ e :: es₂) = some b ∧ b.mCount = m.mCount ∧
        b.phases = final ∧ b.responses = if m.command.reports e then
          [(List.range m.mCount).map fun i => m.command.stored (memory i) (p i)] else [] := by
  have hstart : m.startPhase.finished = false := by
    rw [startPhase, hpresent]
    rfl
  obtain ⟨p, hstep, h₂⟩ : ∃ p, phaseStep m p₁ e = some p ∧
      es₂.foldlM (phaseStep m) p = some final := by
    rw [phaseRun, List.foldlM_append, show List.foldlM (phaseStep m) _ es₁ = some p₁ from h₁] at hrun
    have hcons : (e :: es₂).foldlM (phaseStep m) p₁ = some final := hrun
    rw [List.foldlM_cons] at hcons
    exact Option.bind_eq_some_iff.1 hcons
  refine ⟨p, hstep, follows_run h₂, fun memory => ?_⟩
  obtain ⟨b₁, hb₁, rfl⟩ := GeofenceBatch.exists_run (b := m.proc memory) rfl h₁
  have hmsg₁ : b₁.toGeofenceMsg = m := GeofenceBatch.msg_run hb₁
  have hb : b₁.step e = some { b₁.callback e with phases := p } :=
    GeofenceBatch.step_eq_some.2 ⟨p, by rw [hmsg₁]; exact hstep, rfl⟩
  have ht := (GeofenceBatch.tracks_run (GeofenceBatch.tracks_proc m memory) hb₁).step hb
  obtain ⟨b, hb₂, rfl⟩ := GeofenceBatch.exists_run
    (b := { b₁.callback e with phases := p }) ht.msg_eq h₂
  have hmsg : b.toGeofenceMsg = m := (GeofenceBatch.msg_run hb₂).trans ht.msg_eq
  refine ⟨b, ?_, by rw [hmsg], rfl, ?_⟩
  · rw [batchRun, List.foldlM_append, hb₁]
    show (e :: es₂).foldlM GeofenceBatch.step b₁ = some b
    rw [List.foldlM_cons, hb]
    exact hb₂
  · have hlast : (p (m.mCount - 1)).finished = true := by
      rw [← hi, phaseStep_finished hstep, hfinishes]
    have hempty : b₁.responses = [] := by
      refine GeofenceBatch.responses_run hb₁ ?_
      show m.startPhase.finished = (b₁.phases (m.mCount - 1)).finished
      rw [hstart, ← hi, phaseStep_unfinished hstep]
    have hsame : b.responses = ({ b₁.callback e with phases := p } : GeofenceBatch).responses := by
      refine GeofenceBatch.responses_run hb₂ ?_
      rw [show ({ b₁.callback e with phases := p } : GeofenceBatch).mCount = m.mCount by
        rw [ht.msg_eq]]
      exact hlast.trans (hfin _ (Nat.sub_one_lt_of_lt hcount)).symm
    rw [hsame, GeofenceBatch.responses_step hb, hempty, hmsg₁]
    have herrs : ∀ i, (b₁.callback e).errs i = m.command.stored (memory i) (p i) := ht.errs_eq
    by_cases hr : m.command.reports e = true
    · rw [if_pos ⟨hr, hi⟩, if_pos hr, List.nil_append]
      exact congrArg (fun l => [l]) (List.map_congr_left fun i _ => herrs i)
    · rw [if_neg fun h => hr h.1, if_neg hr]

theorem lacksArray_of_answered {memory : ℕ → LocationError} {b : GeofenceBatch}
    (hrun : m.phaseRun es = some final) (hb : m.batchRun memory es = some b) (h : b.Answered) :
    m.lacksArray = false := by
  by_contra hlacks
  have hstart : m.startPhase = .rejected := by
    rw [startPhase, if_pos (by simpa using hlacks)]
  cases es with
  | nil =>
    obtain rfl : m.proc memory = b := Option.some.inj hb
    cases h
  | cons e es =>
    -- a rejected item has no callback
    rw [phaseRun, List.foldlM_cons] at hrun
    obtain ⟨p, hp, -⟩ := Option.bind_eq_some_iff.1 hrun
    have hunfinished := phaseStep_unfinished hp
    rw [hstart] at hunfinished
    cases hunfinished

theorem stored_of_finished {command : GeofenceCommand} (v : LocationError) {p : GeofenceItemPhase}
    (hp : p.finished = true)
    (hreported : command.hidesErrors = true → ∀ err, p = .answered err → err = .SUCCESS) :
    some (command.stored v p) = p.outcome := by
  cases p with
  | queued => cases hp
  | requested hwId => cases hp
  | unknownId => rfl
  | rejected => rfl
  | answered err =>
    cases hc : command.hidesErrors with
    | true =>
      obtain rfl := hreported hc err rfl
      simp [GeofenceCommand.stored, GeofenceItemPhase.outcome]
    | false => simp [GeofenceCommand.stored, GeofenceItemPhase.outcome, hc]

/-- The response holds the outcomes if it is sent and the array holds them then. -/
theorem answered_iff {b : GeofenceBatch} {p : ℕ → GeofenceItemPhase} {e : GeofenceItemEvent}
    {memory : ℕ → LocationError} (hn : b.mCount = m.mCount) (hphases : b.phases = final)
    (hresponses : b.responses = if m.command.reports e then
      [(List.range m.mCount).map fun i => m.command.stored (memory i) (p i)] else []) :
    b.Answered ↔ m.command.reports e = true ∧
      ∀ i < m.mCount, some (m.command.stored (memory i) (p i)) = (final i).outcome := by
  rw [GeofenceBatch.Answered, hn, hphases, hresponses]
  cases m.command.reports e with
  | false => simp
  | true => simp [List.map_inj_left]

/-- A command that hides failures leaves `SUCCESS` for an item that the engine answers. -/
theorem eq_success_of_stored {command : GeofenceCommand} (hhides : command.hidesErrors = true)
    {p p' : GeofenceItemPhase} (hf : Follows p p') {err : LocationError} (hp' : p' = .answered err)
    (hs : some (command.stored .SUCCESS p) = p'.outcome) : err = .SUCCESS := by
  subst hp'
  have hvalue : command.stored .SUCCESS p = .SUCCESS := by
    cases p with
    | queued => rfl
    | requested hwId => cases hwId <;> rfl
    | answered err' => simp [GeofenceCommand.stored, hhides]
    | unknownId => cases hf.eq_of_finished rfl
    | rejected => cases hf.eq_of_finished rfl
  rw [hvalue] at hs
  exact (Option.some.inj hs).symm

/-- If the array holds the outcome of an item whatever the memory held, the item has finished, or
the engine is going to answer that it has succeeded. -/
theorem finished_or_of_stored {command : GeofenceCommand} {p p' : GeofenceItemPhase}
    (hf : Follows p p') (hfin : p'.finished = true)
    (hsuccess : some (command.stored .SUCCESS p) = p'.outcome)
    (hexists : some (command.stored .ID_EXISTS p) = p'.outcome) :
    p.finished = true ∨ (∃ hwId, p = .requested (some hwId)) ∧ p' = .answered .SUCCESS := by
  cases p with
  | queued => cases hsuccess.trans hexists.symm
  | requested hwId =>
    cases hwId with
    | none => cases hsuccess.trans hexists.symm
    | some hwId =>
      refine .inr ⟨⟨hwId, rfl⟩, ?_⟩
      rcases hf with rfl | hf | ⟨-, err, -, rfl⟩
      · cases hfin
      · cases hf
      · obtain rfl : LocationError.SUCCESS = err := Option.some.inj hsuccess
        rfl
  | unknownId => exact .inl rfl
  | answered err => exact .inl rfl
  | rejected => exact .inl rfl

theorem inOrder_of_answered (hcount : 0 < m.mCount) (hrun : m.phaseRun es = some final)
    (hfin : ∀ i < m.mCount, (final i).finished = true)
    (h : ∀ memory, ∃ b, m.batchRun memory es = some b ∧ b.Answered) : m.InOrder es final := by
  have hpresent : m.lacksArray = false := by
    obtain ⟨b, hb, hanswered⟩ := h fun _ => .SUCCESS
    exact lacksArray_of_answered hrun hb hanswered
  -- what each split of the schedule at the event of the last item says
  have key : ∀ es₁ e es₂ p₁, es = es₁ ++ e :: es₂ → m.phaseRun es₁ = some p₁ →
      e.item = m.mCount - 1 → m.command.finishes e = true →
      ∃ p, phaseStep m p₁ e = some p ∧ (∀ i, Follows (p i) (final i)) ∧
        ∀ memory : ℕ → LocationError, ∀ i < m.mCount,
          some (m.command.stored (memory i) (p i)) = (final i).outcome := by
    rintro es₁ e es₂ p₁ rfl h₁ hi hfinishes
    obtain ⟨p, hstep, hfollows, hb⟩ :=
      response_of_split hcount hpresent hrun hfin h₁ hi hfinishes
    refine ⟨p, hstep, hfollows, fun memory => ?_⟩
    obtain ⟨b, hbrun, hn, hphases, hresponses⟩ := hb memory
    obtain ⟨b', hbrun', hanswered⟩ := h memory
    obtain rfl := Option.some.inj (hbrun.symm.trans hbrun')
    exact ((answered_iff hn hphases hresponses).1 hanswered).2
  refine ⟨hpresent, fun hhides i hi err herr => ?_, ?_⟩
  · have hstart : m.startPhase.finished = false := by
      rw [startPhase, hpresent]
      rfl
    obtain ⟨es₁, e, es₂, p₁, -, hes, h₁, -, -, hitem, hfinishes⟩ :=
      exists_finish hrun hstart (hfin _ (Nat.sub_one_lt_of_lt hcount))
    obtain ⟨p, -, hfollows, hstored⟩ := key es₁ e es₂ p₁ hes h₁ hitem hfinishes
    exact eq_success_of_stored hhides (hfollows i) herr (hstored (fun _ => .SUCCESS) i hi)
  · intro es₁ e es₂ p₁ hes h₁ hitem hfinishes i hi
    obtain ⟨p, hstep, hfollows, hstored⟩ := key es₁ e es₂ p₁ hes h₁ hitem hfinishes
    have hpi : p i = p₁ i := phaseStep_of_ne hstep (by omega)
    have hin : i < m.mCount := by omega
    rw [← hpi]
    exact finished_or_of_stored (hfollows i) (hfin i hin) (hstored (fun _ => .SUCCESS) i hin)
      (hstored (fun _ => .ID_EXISTS) i hin)

theorem answered_of_inOrder (hcount : 0 < m.mCount) (hrun : m.phaseRun es = some final)
    (hfin : ∀ i < m.mCount, (final i).finished = true) (h : m.InOrder es final)
    (memory : ℕ → LocationError) : ∃ b, m.batchRun memory es = some b ∧ b.Answered := by
  have hlast : m.mCount - 1 < m.mCount := Nat.sub_one_lt_of_lt hcount
  have hstart : m.startPhase.finished = false := by
    rw [startPhase, h.present]
    rfl
  obtain ⟨es₁, e, es₂, p₁, -, rfl, h₁, -, -, hitem, hfinishes⟩ :=
    exists_finish hrun hstart (hfin _ hlast)
  obtain ⟨p, hstep, hfollows, hb⟩ :=
    response_of_split hcount h.present hrun hfin h₁ hitem hfinishes
  obtain ⟨b, hbrun, hn, hphases, hresponses⟩ := hb memory
  refine ⟨b, hbrun, (answered_iff hn hphases hresponses).2 ⟨?_, fun i hi => ?_⟩⟩
  · cases e with
    | call i hwId => exact hfinishes
    | answer i err =>
      -- the answer is the final phase of the last item
      obtain ⟨-, ⟨hwId, he, -⟩ | ⟨hwId, err', he, -, hp⟩⟩ := phaseStep_cases hstep
      · cases he
      · obtain rfl : err = err' := (GeofenceItemEvent.answer.inj he).2
        have hpi : p (m.mCount - 1) = .answered err := by
          rw [hp, ← hitem, Function.update_self]
        have hfinal : final (m.mCount - 1) = .answered err := by
          rw [(hfollows _).eq_of_finished (by rw [hpi]; rfl), hpi]
        cases hc : m.command with
        | resumeGeofences =>
          have herr := h.reported (by rw [hc]; rfl) _ hlast err hfinal
          simp [GeofenceCommand.reports, herr]
        | _ => simp [GeofenceCommand.reports]
  · have hreported : m.command.hidesErrors = true → ∀ err, final i = .answered err →
        err = .SUCCESS := fun hc => h.reported hc i hi
    cases hpf : (p i).finished with
    | true =>
      have hfinal := (hfollows i).eq_of_finished hpf
      rw [hfinal] at hreported ⊢
      exact stored_of_finished _ hpf hreported
    | false =>
      have hne : i ≠ e.item := by
        rintro rfl
        rw [phaseStep_finished hstep, hfinishes] at hpf
        cases hpf
      have hpi : p i = p₁ i := phaseStep_of_ne hstep hne
      rw [hpi] at hpf ⊢
      rcases h.last es₁ e es₂ p₁ rfl h₁ hitem hfinishes i (by omega) with
        hf | ⟨⟨hwId, hp⟩, hfinal⟩
      · rw [hf] at hpf
        cases hpf
      · rw [hp, hfinal]
        rfl

/-- A client resumes one geofence. -/
def resumeOne : GeofenceMsg := ⟨.resumeGeofences, 1, [5], none, none⟩

end GeofenceMsg

end GpsHal
