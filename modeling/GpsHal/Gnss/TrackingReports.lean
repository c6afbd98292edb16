import GpsHal.Gnss.TrackingAnswers
import Mathlib.Data.List.Count

/-!
# `GnssAdapter` : every tracking command is answered once

A command owes its client one report.  The debt passes from the message of the command to the
callback of a request, from there perhaps to a second callback, and ends with the report.

Some callbacks let it drop, and some report without asking what has become of another request of the
command.  `Answerable` says when the engine's answers and the options of a start do not get there.

## Main definitions

* `TrackingAdapter.owes` : the messages, callbacks and reports that answer a command.
* `TrackingAdapter.Answered` : a command has been answered, and truthfully.
* `TrackingAdapter.Answerable` : the condition on the steps.

## Main results

* `TrackingAdapter.tracking_answered` : every command is answered once its requests are.
-/

namespace GpsHal

/-- The session for which a callback reports, now or later. -/
def TrackingCallback.session? : TrackingCallback → Option (ℕ × ℕ)
  | .none | .ignore | .removeDistanceBased _ _ => Option.none
  | .startTimeBased client id | .update client id _ | .stop client id
  | .startDistanceBased client id | .switchToTimeBased client id _ | .stopDistanceBased client id
  | .restartDistanceBased client id _ | .saveDistanceBased client id _ => some (client, id)

/-- The callbacks that answer a command which may have made another request. -/
def TrackingCallback.late : TrackingCallback → Bool
  | .startTimeBased _ _ | .stop _ _ => true
  | _ => false

/-- The command that a request will answer. -/
def EngineCall.owes (call : EngineCall) : List TrackingCommand :=
  if call.callback.session?.isSome then call.cmd.toList else []

namespace TrackingAdapter

namespace Msg

/-- The command of a message. -/
def command? : Msg → Option TrackingCommand
  | .start cmd _ | .update cmd _ | .stop cmd => some cmd
  | .addClient _ _ | .removeClient _ | .handleEngineUpEvent | .answer _ _ => none

/-- The request of an answer. -/
def call? : Msg → Option EngineCall
  | .answer call _ => some call
  | _ => none

def owes (m : Msg) : List TrackingCommand :=
  m.command?.toList ++ m.call?.toList.flatMap EngineCall.owes

end Msg

/-- How often a command will be answered or has been answered. -/
def owes (s : TrackingAdapter) (c : TrackingCommand) : ℕ :=
  (s.queue.flatMap Msg.owes).count c + (s.mPendingMsgs.flatMap Msg.owes).count c +
    (s.outstanding.flatMap EngineCall.owes).count c +
    (s.reports.filterMap TrackingReport.cmd).count c

/-- The requests whose answers have not been processed. -/
def pool (s : TrackingAdapter) : List EngineCall :=
  s.outstanding ++ (s.queue ++ s.mPendingMsgs).filterMap Msg.call?

/-- A request of the command has been refused. -/
def Failed (s : TrackingAdapter) (c : TrackingCommand) : Prop :=
  ∃ a ∈ s.answers, a.1.cmd = some c ∧ a.2 ≠ .SUCCESS

/-! ### The property -/

/-- The command has been processed, and all of its requests have been answered. -/
structure Settled (s : TrackingAdapter) (c : TrackingCommand) : Prop where
  issued : c ∈ s.issued
  processed : ∀ m ∈ s.queue ++ s.mPendingMsgs, m.command? ≠ some c
  answered : ∀ call ∈ s.pool, call.cmd ≠ some c

/-- There is one report for the command, to its client and with its session id, and it is truthful. -/
def Answered (s : TrackingAdapter) (c : TrackingCommand) : Prop :=
  ∃ r, (s.reports.filter fun r => r.cmd = some c) = [r] ∧ r.client = c.client ∧ r.id = c.id ∧
    (r.err = .SUCCESS → ∀ a ∈ s.answers, a.1.cmd = some c → a.2 = .SUCCESS)

/-! ### The condition -/

/-- What a callback must not meet: a refused stop of a distance based session that is to be
restarted, and, if the other request of a switch is refused, a report of success. -/
def CallAnswerable (s : TrackingAdapter) (cmd : Option TrackingCommand) (err : LocationError) :
    TrackingCallback → Prop
  | .restartDistanceBased _ _ _ => err = .SUCCESS
  | .ignore => err = .SUCCESS ∨ ∀ r ∈ s.reports, r.cmd = cmd → r.err ≠ .SUCCESS
  | .switchToTimeBased client id options =>
    err = .SUCCESS ∨ (s.startTimeBasedTrackingMultiplex cmd client id options).2 = false
  | .startTimeBased _ _ | .stop _ _ =>
    err ≠ .SUCCESS ∨ ∀ a ∈ s.answers, a.1.cmd = cmd → a.2 = .SUCCESS
  | .none | .update _ _ _ | .startDistanceBased _ _ | .stopDistanceBased _ _
  | .saveDistanceBased _ _ _ | .removeDistanceBased _ _ => True

/-- A session is started with a callback and with options, if the start does not have to wait. -/
def StartAnswerable (s : TrackingAdapter) (cmd : TrackingCommand) (options : TrackingOptions) : Prop :=
  s.mIsEngineCapabilitiesKnown = false ∧ 0 < options.minDistance ∨
    s.hasCallback cmd.client = true ∧ options.size ≠ 0

def MsgAnswerable (s : TrackingAdapter) : Msg → Prop
  | .start cmd options => s.StartAnswerable cmd options
  | .answer call err => call.cmd ≠ none → s.CallAnswerable call.cmd err call.callback
  | .addClient _ _ | .removeClient _ | .update _ _ | .stop _ | .handleEngineUpEvent => True

def Answerable (s : TrackingAdapter) : Event → Prop
  | .process => ∀ m ∈ s.queue.head?, s.MsgAnswerable m
  | _ => True

/-! ### What a message adds -/

/-- Requests, reports and answers are added; queues and commands stay as they are. -/
structure Adds (s s' : TrackingAdapter) (calls : List EngineCall) (reports : List TrackingReport) :
    Prop where
  outstanding : s'.outstanding = s.outstanding ++ calls
  reports : s'.reports = s.reports ++ reports
  queue : s'.queue = s.queue
  pending : s'.mPendingMsgs = s.mPendingMsgs
  answers : s'.answers = s.answers
  issued : s'.issued = s.issued

section

variable {s s' s'' : TrackingAdapter} {calls calls' : List EngineCall}
  {reports reports' : List TrackingReport} {cmd : Option TrackingCommand} {c : TrackingCommand}
  {client id : ℕ} {o : TrackingOptions} {err : LocationError} {q : EngineRequest}
  {cb : TrackingCallback}

theorem Adds.refl : Adds s s [] [] :=
  ⟨(List.append_nil _).symm, (List.append_nil _).symm, rfl, rfl, rfl, rfl⟩

theorem Adds.trans (h : Adds s s' calls reports) (h' : Adds s' s'' calls' reports') :
    Adds s s'' (calls ++ calls') (reports ++ reports') where
  outstanding := by rw [h'.outstanding, h.outstanding, List.append_assoc]
  reports := by rw [h'.reports, h.reports, List.append_assoc]
  queue := h'.queue.trans h.queue
  pending := h'.pending.trans h.pending
  answers := h'.answers.trans h.answers
  issued := h'.issued.trans h.issued

theorem adds_call : ∃ call, Adds s (s.call cmd q cb) [call] [] ∧ call.cmd = cmd ∧ call.callback = cb :=
  ⟨_, ⟨rfl, (List.append_nil _).symm, rfl, rfl, rfl, rfl⟩, rfl, rfl⟩

theorem adds_report : Adds s (s.reportResponse cmd client err id) [] [⟨cmd, client, err, id⟩] :=
  ⟨(List.append_nil _).symm, rfl, rfl, rfl, rfl, rfl⟩

theorem adds_save : Adds s (s.saveTrackingSession client id o) [] [] := by
  unfold saveTrackingSession
  split
  · exact ⟨(List.append_nil _).symm, (List.append_nil _).symm, rfl, rfl, rfl, rfl⟩
  · exact ⟨(List.append_nil _).symm, (List.append_nil _).symm, rfl, rfl, rfl, rfl⟩

theorem adds_erase : Adds s (s.eraseTrackingSession client id) [] [] := by
  unfold eraseTrackingSession
  split
  · exact ⟨(List.append_nil _).symm, (List.append_nil _).symm, rfl, rfl, rfl, rfl⟩
  · exact ⟨(List.append_nil _).symm, (List.append_nil _).symm, rfl, rfl, rfl, rfl⟩

theorem adds_saveIf {b : Prop} [Decidable b] :
    Adds s (if b then s.saveTrackingSession client id o else s) [] [] := by
  split
  · exact adds_save
  · exact .refl

theorem adds_eraseIf {b : Prop} [Decidable b] :
    Adds s (if b then s.eraseTrackingSession client id else s) [] [] := by
  split
  · exact adds_erase
  · exact .refl

theorem Adds.save (h : Adds s s' calls reports) :
    Adds s (s'.saveTrackingSession client id o) calls reports := by
  have := h.trans (@adds_save s' client id o)
  rwa [List.append_nil, List.append_nil] at this

theorem Adds.erase (h : Adds s s' calls reports) :
    Adds s (s'.eraseTrackingSession client id) calls reports := by
  have := h.trans (@adds_erase s' client id)
  rwa [List.append_nil, List.append_nil] at this

/-! #### Multiplexing -/

/-- Either nobody has to wait, or there is a request with a callback of the given kind. -/
def Waits (cmd : Option TrackingCommand) (P : TrackingCallback → Prop) (calls : List EngineCall) :
    Bool → Prop
  | true => calls = []
  | false => ∃ call, calls = [call] ∧ call.cmd = cmd ∧ P call.callback

theorem adds_startMultiplex (s : TrackingAdapter) (cmd : Option TrackingCommand) (client id : ℕ)
    (o : TrackingOptions) : ∃ calls,
    Adds s (s.startTimeBasedTrackingMultiplex cmd client id o).1 calls [] ∧
      Waits cmd (· = .startTimeBased client id) calls
        (s.startTimeBasedTrackingMultiplex cmd client id o).2 := by
  unfold startTimeBasedTrackingMultiplex
  split
  · obtain ⟨call, h, hcmd, hcb⟩ := adds_call
    exact ⟨[call], h, call, rfl, hcmd, hcb⟩
  · simp only
    split
    · obtain ⟨call, h, hcmd, hcb⟩ := adds_call
      exact ⟨[call], h, call, rfl, hcmd, hcb⟩
    · exact ⟨[], .refl, rfl⟩

theorem adds_updateMultiplex (s : TrackingAdapter) (cmd : Option TrackingCommand) (client id : ℕ)
    (o : TrackingOptions) : ∃ calls,
    Adds s (s.updateTrackingMultiplex cmd client id o).1 calls [] ∧
      Waits cmd (fun cb => cb.session? = some (client, id)) calls
        (s.updateTrackingMultiplex cmd client id o).2 := by
  unfold updateTrackingMultiplex
  split
  · exact ⟨[], .refl, rfl⟩
  · simp only
    split
    · generalize (if s.mTimeBasedTrackingSessions.size = 1 then (o, true) else
        lowered (multiplex s.mTimeBasedTrackingSessions (some ⟨client, id⟩)) o) = p
      split
      · obtain ⟨call, h, hcmd, hcb⟩ := adds_call
        exact ⟨[call], h, call, rfl, hcmd, by rw [hcb]; rfl⟩
      · exact ⟨[], .refl, rfl⟩
    · exact ⟨[], .refl, rfl⟩

theorem adds_stopMultiplex (s : TrackingAdapter) (cmd : Option TrackingCommand) (client id : ℕ) :
    ∃ calls,
    Adds s (s.stopTimeBasedTrackingMultiplex cmd client id).1 calls [] ∧
      Waits cmd (fun cb => cb.session? = some (client, id) ∧ cb.late = true) calls
        (s.stopTimeBasedTrackingMultiplex cmd client id).2 := by
  unfold stopTimeBasedTrackingMultiplex
  split
  · obtain ⟨call, h, hcmd, hcb⟩ := adds_call
    exact ⟨[call], h, call, rfl, hcmd, by rw [hcb]; exact ⟨rfl, rfl⟩⟩
  · split
    · exact ⟨[], .refl, rfl⟩
    · simp only
      split
      · obtain ⟨call, h, hcmd, hcb⟩ := adds_call
        exact ⟨[call], h, call, rfl, hcmd, by rw [hcb]; exact ⟨rfl, rfl⟩⟩
      · exact ⟨[], .refl, rfl⟩

/-- What the multiplexing leaves to be done: wait for a request, or report success. -/
theorem adds_reportWithNoWait {noWait : Bool} {P : TrackingCallback → Prop}
    (h : Adds s s' calls []) (hw : Waits cmd P calls noWait) :
    (∃ call, Adds s (reportWithNoWait (s', noWait) cmd client id) [call] [] ∧ call.cmd = cmd ∧
        P call.callback) ∨
      Adds s (reportWithNoWait (s', noWait) cmd client id) [] [⟨cmd, client, .SUCCESS, id⟩] ∧
        noWait = true := by
  cases noWait with
  | true =>
    obtain rfl : calls = [] := hw
    exact .inr ⟨h.trans adds_report, rfl⟩
  | false =>
    obtain ⟨call, rfl, hcmd, hP⟩ := hw
    exact .inl ⟨call, h, hcmd, hP⟩

/-! #### Commands -/

/-- What the message of a command adds: it waits for a request, or it reports.  A switch to distance
based tracking makes another request, whose answer is ignored. -/
inductive Responds (c : TrackingCommand) : List EngineCall → List TrackingReport → Prop
  | wait {call : EngineCall} : call.cmd = some c → call.callback.session? = some (c.client, c.id) →
      Responds c [call] []
  | report {err : LocationError} : Responds c [] [⟨some c, c.client, err, c.id⟩]
  | switch {call ignored : EngineCall} : call.cmd = some c →
      call.callback.session? = some (c.client, c.id) → call.callback.late = true →
      ignored.cmd = some c → ignored.callback = .ignore → Responds c [call, ignored] []
  | switchNoWait {ignored : EngineCall} : ignored.cmd = some c → ignored.callback = .ignore →
      Responds c [ignored] [⟨some c, c.client, .SUCCESS, c.id⟩]

theorem responds_multiplex {noWait : Bool} {P : TrackingCallback → Prop}
    (h : Adds s s' calls []) (hw : Waits (some c) P calls noWait)
    (hP : ∀ cb, P cb → cb.session? = some (c.client, c.id)) :
    ∃ calls reports, Adds s (reportWithNoWait (s', noWait) (some c) c.client c.id) calls reports ∧
      Responds c calls reports := by
  rcases adds_reportWithNoWait h hw with ⟨call, hadds, hcmd, hcb⟩ | ⟨hadds, -⟩
  · exact ⟨_, _, hadds, .wait hcmd (hP _ hcb)⟩
  · exact ⟨_, _, hadds, .report⟩

theorem responds_startSession :
    ∃ calls reports, Adds s (s.startSession c o) calls reports ∧ Responds c calls reports := by
  unfold startSession
  simp only
  split
  · obtain ⟨call, h, hcmd, hcb⟩ := adds_call
    exact ⟨_, _, adds_save.trans h, .wait hcmd (by rw [hcb]; rfl)⟩
  · obtain ⟨calls, h, hw⟩ := adds_startMultiplex s (some c) c.client c.id o.clampInterval.fallBack
    exact responds_multiplex h.save hw fun cb hcb => by rw [hcb]; rfl

theorem responds_updateSession :
    ∃ calls reports, Adds s (s.updateSession c o) calls reports ∧ Responds c calls reports := by
  unfold updateSession
  simp only
  split
  · -- from time based to distance based
    obtain ⟨calls, h, hw⟩ := adds_stopMultiplex s (some c) c.client c.id
    obtain ⟨ignored, hcall, hcmd', hcb'⟩ := adds_call
    rcases adds_reportWithNoWait h.erase hw with ⟨call, hadds, hcmd, hcb⟩ | ⟨hadds, -⟩
    · exact ⟨_, _, hadds.save.trans hcall, .switch hcmd hcb.1 hcb.2 hcmd' hcb'⟩
    · exact ⟨_, _, hadds.save.trans hcall, .switchNoWait hcmd' hcb'⟩
  · split
    · obtain ⟨call, h, hcmd, hcb⟩ := adds_call
      exact ⟨_, _, adds_erase.trans h, .wait hcmd (by rw [hcb]; rfl)⟩
    · split
      · obtain ⟨calls, h, hw⟩ := adds_updateMultiplex s (some c) c.client c.id o
        exact responds_multiplex h.save hw fun cb hcb => hcb
      · obtain ⟨call, h, hcmd, hcb⟩ := adds_call
        exact ⟨_, _, h, .wait hcmd (by rw [hcb]; rfl)⟩

/-- The message of a command has to wait, or it responds. -/
theorem responds_procStartTracking (hg : s.StartAnswerable c o) :
    s.procStartTracking c o = s.pend (.start c o) ∨
      ∃ calls reports, Adds s (s.procStartTracking c o) calls reports ∧
        Responds c calls reports := by
  unfold procStartTracking
  split
  · exact .inl rfl
  · rename_i hready
    rw [if_neg]
    · exact .inr responds_startSession
    · rcases hg with hwait | ⟨hcallback, hsize⟩
      · exact absurd hwait hready
      · rintro (hnone | hzero)
        · rw [hcallback] at hnone
          cases hnone
        · exact hsize hzero

theorem responds_procUpdateTracking :
    s.procUpdateTracking c o = s.pend (.update c o) ∨
      ∃ calls reports, Adds s (s.procUpdateTracking c o) calls reports ∧
        Responds c calls reports := by
  unfold procUpdateTracking
  split
  · exact .inl rfl
  · split
    · exact .inr ⟨_, _, adds_report, .report⟩
    · split
      · exact .inr ⟨_, _, adds_report, .report⟩
      · exact .inr responds_updateSession

theorem responds_procStopTracking :
    ∃ calls reports, Adds s (s.procStopTracking c) calls reports ∧ Responds c calls reports := by
  unfold procStopTracking
  split
  · obtain ⟨calls, h, hw⟩ := adds_stopMultiplex s (some c) c.client c.id
    exact responds_multiplex h.erase hw fun cb hcb => hcb.1
  · split
    · obtain ⟨call, h, hcmd, hcb⟩ := adds_call
      exact ⟨_, _, h, .wait hcmd (by rw [hcb]; rfl)⟩
    · exact ⟨_, _, adds_report, .report⟩

/-! #### Answers -/

/-- What a callback adds that owes a report: the report, or another request; it does not report
success if the answer was none. -/
inductive Continues (c : TrackingCommand) (err : LocationError) (late : Bool) :
    List EngineCall → List TrackingReport → Prop
  | report {err' : LocationError} : (err' = .SUCCESS → err = .SUCCESS) →
      Continues c err late [] [⟨some c, c.client, err', c.id⟩]
  | wait {call : EngineCall} : call.cmd = some c → call.callback.session? = some (c.client, c.id) →
      late = false → (call.callback.late = true ∨ err = .SUCCESS) → Continues c err late [call] []

theorem startMultiplex_noWait (hs : s'.mTimeBasedTrackingSessions = s.mTimeBasedTrackingSessions) :
    (s'.startTimeBasedTrackingMultiplex cmd client id o).2 =
      (s.startTimeBasedTrackingMultiplex cmd client id o).2 := by
  unfold startTimeBasedTrackingMultiplex
  rw [hs]
  split
  · rfl
  · simp only
    split
    · rfl
    · rfl

theorem continues_runCallback (hcb : cb.session? = some (c.client, c.id))
    (hg : s'.CallAnswerable (some c) err cb)
    (hs : s'.mTimeBasedTrackingSessions = s.mTimeBasedTrackingSessions) :
    ∃ calls reports, Adds s (s.runCallback (some c) err cb) calls reports ∧
      Continues c err cb.late calls reports := by
  cases cb with
  | none => cases hcb
  | ignore => cases hcb
  | removeDistanceBased client id => cases hcb
  | startTimeBased client id =>
    obtain ⟨rfl, rfl⟩ := Prod.mk.inj (Option.some.inj hcb)
    exact ⟨_, _, adds_eraseIf.trans adds_report, .report id⟩
  | startDistanceBased client id =>
    obtain ⟨rfl, rfl⟩ := Prod.mk.inj (Option.some.inj hcb)
    exact ⟨_, _, adds_eraseIf.trans adds_report, .report id⟩
  | update client id oldOptions =>
    obtain ⟨rfl, rfl⟩ := Prod.mk.inj (Option.some.inj hcb)
    exact ⟨_, _, adds_saveIf.trans adds_report, .report id⟩
  | stop client id =>
    obtain ⟨rfl, rfl⟩ := Prod.mk.inj (Option.some.inj hcb)
    exact ⟨_, _, adds_report, .report id⟩
  | stopDistanceBased client id =>
    obtain ⟨rfl, rfl⟩ := Prod.mk.inj (Option.some.inj hcb)
    exact ⟨_, _, adds_eraseIf.trans adds_report, .report id⟩
  | saveDistanceBased client id options =>
    obtain ⟨rfl, rfl⟩ := Prod.mk.inj (Option.some.inj hcb)
    exact ⟨_, _, adds_saveIf.trans adds_report, .report id⟩
  | switchToTimeBased client id options =>
    obtain ⟨rfl, rfl⟩ := Prod.mk.inj (Option.some.inj hcb)
    obtain ⟨calls, h, hw⟩ := adds_startMultiplex s (some c) c.client c.id options
    rcases adds_reportWithNoWait h.save hw with ⟨call, hadds, hcmd, hcall⟩ | ⟨hadds, hnoWait⟩
    · exact ⟨_, _, hadds, .wait hcmd (by rw [hcall]; rfl) rfl (.inl (by rw [hcall]; rfl))⟩
    · refine ⟨_, _, hadds, .report fun _ => hg.resolve_right fun hfalse => ?_⟩
      exact Bool.noConfusion (hfalse.symm.trans ((startMultiplex_noWait hs).trans hnoWait))
  | restartDistanceBased client id options =>
    obtain ⟨rfl, rfl⟩ := Prod.mk.inj (Option.some.inj hcb)
    obtain rfl : err = .SUCCESS := hg
    obtain ⟨call, h, hcmd, hcall⟩ := @adds_call s (some c)
      (.startDistanceBasedTracking c.id options) (.saveDistanceBased c.client c.id options)
    exact ⟨_, _, h, .wait hcmd (by rw [hcall]; rfl) rfl (.inr rfl)⟩

/-! #### Without a command -/

/-- Requests and reports that answer no command. -/
structure Aside (calls : List EngineCall) (reports : List TrackingReport) : Prop where
  calls : ∀ call ∈ calls, call.cmd = none
  reports : ∀ r ∈ reports, r.cmd = none

theorem Aside.append (h : Aside calls reports) (h' : Aside calls' reports') :
    Aside (calls ++ calls') (reports ++ reports') where
  calls call hcall := (List.mem_append.mp hcall).elim (h.calls call) (h'.calls call)
  reports r hr := (List.mem_append.mp hr).elim (h.reports r) (h'.reports r)

theorem aside_nil : Aside [] [] where
  calls _ hcall := by cases hcall
  reports _ hr := by cases hr

theorem aside_call {call : EngineCall} (h : call.cmd = none) : Aside [call] [] where
  calls _ hmem := by rw [List.mem_singleton.mp hmem, h]
  reports _ hr := by cases hr

theorem aside_report {r : TrackingReport} (h : r.cmd = none) : Aside [] [r] where
  calls _ hcall := by cases hcall
  reports _ hmem := by rw [List.mem_singleton.mp hmem, h]

theorem aside_waits {P : TrackingCallback → Prop} {noWait : Bool} (hw : Waits none P calls noWait) :
    Aside calls [] := by
  cases noWait with
  | true =>
    obtain rfl : calls = [] := hw
    exact aside_nil
  | false =>
    obtain ⟨call, rfl, hcmd, -⟩ := hw
    exact aside_call hcmd

theorem aside_foldl {α : Type} {f : TrackingAdapter → α → TrackingAdapter}
    (hf : ∀ s x, ∃ calls, Adds s (f s x) calls [] ∧ Aside calls []) (l : List α) :
    ∃ calls, Adds s (l.foldl f s) calls [] ∧ Aside calls [] := by
  induction l generalizing s with
  | nil => exact ⟨[], .refl, aside_nil⟩
  | cons x l ih =>
    obtain ⟨calls, h, ha⟩ := hf s x
    obtain ⟨calls', h', ha'⟩ := @ih (f s x)
    exact ⟨calls ++ calls', h.trans h', ha.append ha'⟩

theorem aside_removeClient : ∃ calls,
    Adds s ((s.stopClientSessions client).eraseClient client) calls [] ∧ Aside calls [] := by
  have hstop (s : TrackingAdapter) (key : LocationSessionKey) : ∃ calls,
      Adds s (s.stopTimeBasedTrackingMultiplex none key.client key.id).1 calls [] ∧
        Aside calls [] := by
    obtain ⟨calls, h, hw⟩ := adds_stopMultiplex s none key.client key.id
    exact ⟨calls, h, aside_waits hw⟩
  have hremove (s : TrackingAdapter) (key : LocationSessionKey) : ∃ calls,
      Adds s (s.call none (.stopDistanceBasedTracking key.id) (.removeDistanceBased client key.id))
        calls [] ∧ Aside calls [] := by
    obtain ⟨call, h, hcmd, -⟩ := adds_call
    exact ⟨_, h, aside_call hcmd⟩
  unfold stopClientSessions
  obtain ⟨calls, h, ha⟩ := aside_foldl (s := s) hstop
    ((s.mTimeBasedTrackingSessions.entries.map Prod.fst).filter fun key => client = key.client)
  obtain ⟨calls', h', ha'⟩ := aside_foldl hremove _
  have h₂ := h.trans h'
  exact ⟨_, ⟨h₂.outstanding, h₂.reports, h₂.queue, h₂.pending, h₂.answers, h₂.issued⟩,
    ha.append ha'⟩

theorem aside_restartSessions :
    ∃ calls, Adds s s.restartSessions calls [] ∧ Aside calls [] := by
  have hrestart (s : TrackingAdapter) (it : LocationSessionKey × TrackingOptions) : ∃ calls,
      Adds s (s.call none (.startDistanceBasedTracking it.1.id it.2) .ignore) calls [] ∧
        Aside calls [] := by
    obtain ⟨call, h, hcmd, -⟩ := adds_call
    exact ⟨_, h, aside_call hcmd⟩
  unfold restartSessions
  simp only
  split
  · exact aside_foldl hrestart _
  · obtain ⟨call, h, hcmd, -⟩ := @adds_call s none
      (.startTimeBasedTracking (restartOptions s.mTimeBasedTrackingSessions)) .none
    obtain ⟨calls, h', ha⟩ := aside_foldl hrestart _
    exact ⟨_, h.trans h', (aside_call hcmd).append ha⟩

/-- A callback of a request that no command has made. -/
theorem aside_runCallback : ∃ calls reports,
    Adds s (s.runCallback none err cb) calls reports ∧ Aside calls reports := by
  cases cb with
  | none => exact ⟨_, _, .refl, aside_nil⟩
  | ignore => exact ⟨_, _, .refl, aside_nil⟩
  | removeDistanceBased client id => exact ⟨_, _, adds_eraseIf, aside_nil⟩
  | startTimeBased client id =>
    exact ⟨_, _, adds_eraseIf.trans adds_report, aside_report rfl⟩
  | startDistanceBased client id =>
    exact ⟨_, _, adds_eraseIf.trans adds_report, aside_report rfl⟩
  | update client id oldOptions =>
    exact ⟨_, _, adds_saveIf.trans adds_report, aside_report rfl⟩
  | stop client id => exact ⟨_, _, adds_report, aside_report rfl⟩
  | stopDistanceBased client id =>
    exact ⟨_, _, adds_eraseIf.trans adds_report, aside_report rfl⟩
  | saveDistanceBased client id options =>
    exact ⟨_, _, adds_saveIf.trans adds_report, aside_report rfl⟩
  | switchToTimeBased client id options =>
    obtain ⟨calls, h, hw⟩ := adds_startMultiplex s none client id options
    rcases adds_reportWithNoWait h.save hw with ⟨call, hadds, hcmd, -⟩ | ⟨hadds, -⟩
    · exact ⟨_, _, hadds, aside_call hcmd⟩
    · exact ⟨_, _, hadds, aside_report rfl⟩
  | restartDistanceBased client id options =>
    unfold runCallback
    simp only
    split
    · obtain ⟨call, h, hcmd, -⟩ := adds_call
      exact ⟨_, _, h, aside_call hcmd⟩
    · exact ⟨_, _, .refl, aside_nil⟩

/-! ### The ledger -/

/-- The first message has been processed: it is gone, and it has added requests, reports and
answers. -/
structure Processes (s : TrackingAdapter) (m : Msg) (s' : TrackingAdapter)
    (calls : List EngineCall) (reports : List TrackingReport)
    (answers : List (EngineCall × LocationError)) : Prop where
  queue : s.queue = m :: s'.queue
  pending : s'.mPendingMsgs = s.mPendingMsgs
  outstanding : s'.outstanding = s.outstanding ++ calls
  reports : s'.reports = s.reports ++ reports
  answers : s'.answers = s.answers ++ answers
  issued : s'.issued = s.issued

/-- The requests and reports of each command: every command is owed one report, and requests and
reports are for the session of their command. -/
structure Ledger (s : TrackingAdapter) : Prop where
  nodup : s.issued.Nodup
  num : ∀ c ∈ s.issued, c.num < s.issued.length
  owes : ∀ c, s.owes c = s.issued.count c
  calls : ∀ call ∈ s.pool, ∀ c, call.cmd = some c → c ∈ s.issued ∧
    (call.callback.session? = some (c.client, c.id) ∨ call.callback = .ignore)
  answers : ∀ a ∈ s.answers, ∀ c, a.1.cmd = some c → c ∈ s.issued
  reports : ∀ r ∈ s.reports, ∀ c, r.cmd = some c → r.client = c.client ∧ r.id = c.id

/-- A command is dealt with fairly: nothing is done for it before its message, a report of success
is not given when a request has been refused, and only late callbacks can still meet a refused
request. -/
structure Fair (s : TrackingAdapter) (c : TrackingCommand) : Prop where
  fresh : ∀ m ∈ s.queue ++ s.mPendingMsgs, m.command? = some c →
    ¬ s.Failed c ∧ ∀ call ∈ s.pool, call.cmd ≠ some c
  honest : s.Failed c → ∀ r ∈ s.reports, r.cmd = some c → r.err ≠ .SUCCESS
  clean : s.Failed c → ∀ call ∈ s.pool, call.cmd = some c →
    call.callback.session? = some (c.client, c.id) → call.callback.late = true
  ignored : (∃ call ∈ s.pool, call.cmd = some c ∧ call.callback = .ignore) → ∀ call ∈ s.pool,
    call.cmd = some c → call.callback.session? = some (c.client, c.id) →
    call.callback.late = true

variable {m : Msg} {answers : List (EngineCall × LocationError)}

theorem mem_pool_of_processes (hp : Processes s m s' calls reports answers) {call : EngineCall}
    (h : call ∈ s'.pool) : call ∈ s.pool ∨ call ∈ calls := by
  unfold pool at h ⊢
  rw [hp.outstanding, hp.pending, List.append_assoc, List.mem_append, List.mem_append] at h
  rcases h with hout | hnew | hq
  · exact .inl (List.mem_append_left _ hout)
  · exact .inr hnew
  · refine .inl (List.mem_append_right _ ?_)
    obtain ⟨m', hm', hcall⟩ := List.mem_filterMap.mp hq
    refine List.mem_filterMap.mpr ⟨m', ?_, hcall⟩
    rw [hp.queue, List.cons_append]
    exact List.mem_cons_of_mem _ hm'

theorem owes_of_processes (hp : Processes s m s' calls reports answers) (c : TrackingCommand) :
    s'.owes c + m.owes.count c =
      s.owes c + (calls.flatMap EngineCall.owes).count c +
        (reports.filterMap TrackingReport.cmd).count c := by
  unfold owes
  rw [hp.queue, hp.pending, hp.outstanding, hp.reports, List.flatMap_cons, List.flatMap_append,
    List.filterMap_append, List.count_append, List.count_append, List.count_append]
  omega

theorem Ledger.processes (h : s.Ledger) (hp : Processes s m s' calls reports answers)
    (hbal : ∀ c, (calls.flatMap EngineCall.owes).count c +
      (reports.filterMap TrackingReport.cmd).count c = m.owes.count c)
    (hcalls : ∀ call ∈ calls, ∀ c, call.cmd = some c → c ∈ s.issued ∧
      (call.callback.session? = some (c.client, c.id) ∨ call.callback = .ignore))
    (hanswers : ∀ a ∈ answers, ∀ c, a.1.cmd = some c → c ∈ s.issued)
    (hreports : ∀ r ∈ reports, ∀ c, r.cmd = some c → r.client = c.client ∧ r.id = c.id) :
    s'.Ledger where
  nodup := hp.issued ▸ h.nodup
  num := hp.issued ▸ h.num
  owes c := by
    have h₁ := owes_of_processes hp c
    have h₂ := hbal c
    rw [hp.issued, ← h.owes c]
    omega
  calls call hcall := by
    rw [hp.issued]
    exact (mem_pool_of_processes hp hcall).elim (h.calls call) (hcalls call)
  answers a ha := by
    rw [hp.issued]
    rw [hp.answers, List.mem_append] at ha
    exact ha.elim (h.answers a) (hanswers a)
  reports r hr := by
    rw [hp.reports, List.mem_append] at hr
    exact hr.elim (h.reports r) (hreports r)

/-- What a message does for other commands is nothing. -/
theorem Fair.other (h : s.Fair c) (hp : Processes s m s' calls reports answers)
    (hcalls : ∀ call ∈ calls, call.cmd ≠ some c) (hreports : ∀ r ∈ reports, r.cmd ≠ some c)
    (hanswers : ∀ a ∈ answers, a.1.cmd ≠ some c) : s'.Fair c := by
  have hpool {call : EngineCall} (hmem : call ∈ s'.pool) (hcmd : call.cmd = some c) :
      call ∈ s.pool :=
    (mem_pool_of_processes hp hmem).resolve_right fun hnew => hcalls call hnew hcmd
  have hfailed (hf : s'.Failed c) : s.Failed c := by
    obtain ⟨a, ha, hcmd, herr⟩ := hf
    rw [hp.answers, List.mem_append] at ha
    exact ⟨a, ha.resolve_right fun hnew => hanswers a hnew hcmd, hcmd, herr⟩
  refine ⟨fun m' hm' hc => ?_, fun hf r hr hcmd => ?_, fun hf call hmem hcmd => ?_, ?_⟩
  · have hm : m' ∈ s.queue ++ s.mPendingMsgs := by
      rw [hp.pending, List.mem_append] at hm'
      rw [hp.queue]
      exact hm'.elim (fun hq => List.mem_append_left _ (List.mem_cons_of_mem _ hq))
        (List.mem_append_right _)
    obtain ⟨hnot, hno⟩ := h.fresh m' hm hc
    exact ⟨fun hf => hnot (hfailed hf), fun call hmem hcmd => hno call (hpool hmem hcmd) hcmd⟩
  · rw [hp.reports, List.mem_append] at hr
    exact h.honest (hfailed hf) r (hr.resolve_right fun hnew => hreports r hnew hcmd) hcmd
  · exact h.clean (hfailed hf) call (hpool hmem hcmd) hcmd
  · rintro ⟨ign, hign, hcmd', hcb⟩ call hmem hcmd
    exact h.ignored ⟨ign, hpool hign hcmd', hcmd', hcb⟩ call (hpool hmem hcmd) hcmd

/-- A command is owed no more than one report. -/
theorem Ledger.owes_le_one (h : s.Ledger) (c : TrackingCommand) : s.owes c ≤ 1 := by
  rw [h.owes]
  exact List.nodup_iff_count_le_one.mp h.nodup c

/-- Nothing else will answer a command that the first message answers. -/
structure Sole (s : TrackingAdapter) (s' : TrackingAdapter) (c : TrackingCommand) : Prop where
  messages : ∀ m ∈ s'.queue ++ s.mPendingMsgs, c ∉ m.owes
  calls : ∀ call ∈ s.outstanding, c ∉ call.owes
  reports : ∀ r ∈ s.reports, r.cmd ≠ some c

theorem Ledger.sole (h : s.Ledger) (hp : Processes s m s' calls reports answers)
    (hc : c ∈ m.owes) : Sole s s' c := by
  have hle := h.owes_le_one c
  have hpos := List.count_pos_iff.mpr hc
  unfold TrackingAdapter.owes at hle
  rw [hp.queue, List.flatMap_cons, List.count_append] at hle
  refine ⟨fun m' hm' hmem => ?_, fun call hcall hmem => ?_, fun r hr hcmd => ?_⟩
  · rcases List.mem_append.mp hm' with hq | hpend
    · have := List.count_pos_iff.mpr (List.mem_flatMap.mpr ⟨m', hq, hmem⟩)
      omega
    · have := List.count_pos_iff.mpr (List.mem_flatMap.mpr ⟨m', hpend, hmem⟩)
      omega
  · have := List.count_pos_iff.mpr (List.mem_flatMap.mpr ⟨call, hcall, hmem⟩)
    omega
  · have := List.count_pos_iff.mpr (List.mem_filterMap.mpr ⟨r, hr, hcmd⟩)
    omega

theorem mem_owes_of_command (h : m.command? = some c) : c ∈ m.owes := by
  unfold Msg.owes
  rw [h]
  exact List.mem_append_left _ (List.mem_singleton.mpr rfl)

theorem mem_owes_of_session {call : EngineCall} (hcmd : call.cmd = some c)
    (hcb : call.callback.session? = some (c.client, c.id)) : c ∈ call.owes := by
  unfold EngineCall.owes
  rw [hcb, hcmd]
  exact List.mem_singleton.mpr rfl

/-- After the first message, no other callback will answer its command. -/
theorem Sole.pool (hs : Sole s s' c) (hp : Processes s m s' calls reports answers)
    {call : EngineCall} (hmem : call ∈ s'.pool) (hcmd : call.cmd = some c)
    (hcb : call.callback.session? = some (c.client, c.id)) : call ∈ calls := by
  have howes := mem_owes_of_session hcmd hcb
  unfold TrackingAdapter.pool at hmem
  rw [hp.outstanding, hp.pending, List.append_assoc, List.mem_append, List.mem_append] at hmem
  rcases hmem with hout | hnew | hq
  · exact absurd howes (hs.calls call hout)
  · exact hnew
  · obtain ⟨m', hm', hcall⟩ := List.mem_filterMap.mp hq
    refine absurd ?_ (hs.messages m' hm')
    unfold Msg.owes
    rw [hcall]
    refine List.mem_append_right _ ?_
    exact List.mem_flatMap.mpr ⟨call, List.mem_singleton.mpr rfl, howes⟩

theorem Responds.balanced (h : Responds c calls reports) :
    calls.flatMap EngineCall.owes ++ reports.filterMap TrackingReport.cmd = [c] := by
  have howes {call : EngineCall} (hcmd : call.cmd = some c)
      (hcb : call.callback.session? = some (c.client, c.id)) : call.owes = [c] := by
    unfold EngineCall.owes
    rw [hcb, hcmd]
    rfl
  have hignored {call : EngineCall} (hcb : call.callback = .ignore) : call.owes = [] := by
    unfold EngineCall.owes
    rw [hcb]
    rfl
  cases h with
  | wait hcmd hcb => rw [List.flatMap_singleton, howes hcmd hcb]; rfl
  | report => rfl
  | switch hcmd hcb _ _ hign =>
    rw [List.flatMap_cons, List.flatMap_singleton, howes hcmd hcb, hignored hign]
    rfl
  | switchNoWait _ hign => rw [List.flatMap_singleton, hignored hign]; rfl

theorem Responds.mem_calls (h : Responds c calls reports) : ∀ call ∈ calls, call.cmd = some c ∧
    (call.callback.session? = some (c.client, c.id) ∨ call.callback = .ignore) := by
  intro call hmem
  cases h with
  | wait hcmd hcb =>
    obtain rfl := List.mem_singleton.mp hmem
    exact ⟨hcmd, .inl hcb⟩
  | report => cases hmem
  | switch hcmd hcb _ hcmd' hign =>
    rcases List.mem_cons.mp hmem with rfl | hmem
    · exact ⟨hcmd, .inl hcb⟩
    · obtain rfl := List.mem_singleton.mp hmem
      exact ⟨hcmd', .inr hign⟩
  | switchNoWait hcmd' hign =>
    obtain rfl := List.mem_singleton.mp hmem
    exact ⟨hcmd', .inr hign⟩

theorem Responds.mem_reports (h : Responds c calls reports) :
    ∀ r ∈ reports, r.cmd = some c ∧ r.client = c.client ∧ r.id = c.id := by
  intro r hmem
  cases h with
  | wait => cases hmem
  | report =>
    obtain rfl := List.mem_singleton.mp hmem
    exact ⟨rfl, rfl, rfl⟩
  | switch => cases hmem
  | switchNoWait =>
    obtain rfl := List.mem_singleton.mp hmem
    exact ⟨rfl, rfl, rfl⟩

/-- A command that makes a request besides the one that it waits for is answered late. -/
theorem Responds.late (h : Responds c calls reports) {ignored call : EngineCall}
    (hign : ignored ∈ calls) (hcb : ignored.callback = .ignore) (hmem : call ∈ calls)
    (hs : call.callback.session? = some (c.client, c.id)) : call.callback.late = true := by
  cases h with
  | wait _ hcb' =>
    obtain rfl := List.mem_singleton.mp hign
    rw [hcb] at hcb'
    cases hcb'
  | report => cases hmem
  | switch _ _ hlate _ hign' =>
    rcases List.mem_cons.mp hmem with rfl | hmem
    · exact hlate
    · obtain rfl := List.mem_singleton.mp hmem
      rw [hign'] at hs
      cases hs
  | switchNoWait _ hign' =>
    obtain rfl := List.mem_singleton.mp hmem
    rw [hign'] at hs
    cases hs

/-- The message of a command. -/
theorem Fair.command (h : s.Fair c) (hl : s.Ledger) (hp : Processes s m s' calls reports [])
    (hm : m.command? = some c) (hr : Responds c calls reports) : s'.Fair c := by
  have hsole := hl.sole hp (mem_owes_of_command hm)
  obtain ⟨hnot, hno⟩ := h.fresh m (by
    rw [hp.queue]
    exact List.mem_append_left _ List.mem_cons_self) hm
  have hfailed : ¬ s'.Failed c := by
    rintro ⟨a, ha, hcmd, herr⟩
    rw [hp.answers, List.append_nil] at ha
    exact hnot ⟨a, ha, hcmd, herr⟩
  have hnew {call : EngineCall} (hmem : call ∈ s'.pool) (hcmd : call.cmd = some c) :
      call ∈ calls :=
    (mem_pool_of_processes hp hmem).resolve_left fun hold => hno call hold hcmd
  refine ⟨fun m' hm' hc => ?_, fun hf => absurd hf hfailed, fun hf => absurd hf hfailed, ?_⟩
  · rw [hp.pending] at hm'
    exact absurd (mem_owes_of_command hc) (hsole.messages m' hm')
  · rintro ⟨ign, hign, hcmd', hcb⟩ call hmem hcmd hs
    exact hr.late (hnew hign hcmd') hcb (hnew hmem hcmd) hs

theorem Continues.responds {late : Bool} (h : Continues c err late calls reports) :
    Responds c calls reports := by
  cases h with
  | report _ => exact .report
  | wait hcmd hcb _ _ => exact .wait hcmd hcb

/-- The answer to a request with a callback that owes a report. -/
theorem Fair.answer {call : EngineCall} (h : s.Fair c) (hl : s.Ledger)
    (hp : Processes s (.answer call err) s' calls reports [(call, err)]) (hcmd : call.cmd = some c)
    (hcb : call.callback.session? = some (c.client, c.id))
    (hr : Continues c err call.callback.late calls reports)
    (hg : call.callback.late = true → err = .SUCCESS → ¬ s.Failed c) : s'.Fair c := by
  have hin : call ∈ s.pool := by
    unfold TrackingAdapter.pool
    rw [hp.queue]
    exact List.mem_append_right _ List.mem_cons_self
  have howes : c ∈ (Msg.answer call err).owes := by
    refine List.mem_append_right _ ?_
    exact List.mem_flatMap.mpr ⟨call, List.mem_singleton.mpr rfl, mem_owes_of_session hcmd hcb⟩
  have hsole := hl.sole hp howes
  -- an earlier request has been refused only if the callback is late
  have hearlier (hf : s.Failed c) : err ≠ .SUCCESS := fun herr =>
    hg (h.clean hf call hin hcmd hcb) herr hf
  have hfailed (hf : s'.Failed c) : err ≠ .SUCCESS := by
    obtain ⟨a, ha, hacmd, herr⟩ := hf
    rw [hp.answers, List.mem_append] at ha
    rcases ha with hold | hnew
    · exact hearlier ⟨a, hold, hacmd, herr⟩
    · rw [List.mem_singleton.mp hnew] at herr
      exact herr
  refine ⟨fun m' hm' hc => ?_, fun hf r hmem hrcmd => ?_, fun hf call' hmem hcmd' hs => ?_, ?_⟩
  · rw [hp.pending] at hm'
    exact absurd (mem_owes_of_command hc) (hsole.messages m' hm')
  · rw [hp.reports, List.mem_append] at hmem
    rcases hmem with hold | hnew
    · exact absurd hrcmd (hsole.reports r hold)
    · cases hr with
      | report himp =>
        rw [List.mem_singleton.mp hnew]
        exact fun herr => hfailed hf (himp herr)
      | wait => cases hnew
  · have hnew := hsole.pool hp hmem hcmd' hs
    cases hr with
    | report => cases hnew
    | wait _ _ _ hlate =>
      obtain rfl := List.mem_singleton.mp hnew
      exact hlate.resolve_right (hfailed hf)
  · rintro ⟨ign, hign, hcmd'', hcb'⟩ call' hmem hcmd' hs
    have hnew := hsole.pool hp hmem hcmd' hs
    cases hr with
    | report => cases hnew
    | wait _ hs' hnot _ =>
      obtain rfl := List.mem_singleton.mp hnew
      -- then there has been no ignored request before
      rcases mem_pool_of_processes hp hign with hold | hnew'
      · have hlate := h.ignored ⟨ign, hold, hcmd'', hcb'⟩ call hin hcmd hcb
        exact Bool.noConfusion (hnot.symm.trans hlate)
      · rw [List.mem_singleton.mp hnew'] at hcb'
        rw [hcb'] at hs'
        cases hs'

/-- The answer to a request that nobody cares for. -/
theorem Fair.ignore {call : EngineCall} (h : s.Fair c)
    (hp : Processes s (.answer call err) s' [] [] [(call, err)]) (hcmd : call.cmd = some c)
    (hcb : call.callback = .ignore)
    (hg : err = .SUCCESS ∨ ∀ r ∈ s.reports, r.cmd = some c → r.err ≠ .SUCCESS) : s'.Fair c := by
  have hin : call ∈ s.pool := by
    unfold TrackingAdapter.pool
    rw [hp.queue]
    exact List.mem_append_right _ List.mem_cons_self
  have hpool {call' : EngineCall} (hmem : call' ∈ s'.pool) : call' ∈ s.pool :=
    (mem_pool_of_processes hp hmem).resolve_right List.not_mem_nil
  have hlate := h.ignored ⟨call, hin, hcmd, hcb⟩
  refine ⟨fun m' hm' hc => ?_, fun hf r hmem hrcmd => ?_, fun _ call' hmem => hlate call' (hpool hmem),
    fun _ call' hmem => hlate call' (hpool hmem)⟩
  · have hm : m' ∈ s.queue ++ s.mPendingMsgs := by
      rw [hp.pending, List.mem_append] at hm'
      rw [hp.queue]
      exact hm'.elim (fun hq => List.mem_append_left _ (List.mem_cons_of_mem _ hq))
        (List.mem_append_right _)
    exact absurd hcmd ((h.fresh m' hm hc).2 call hin)
  · rw [hp.reports, List.append_nil] at hmem
    rcases hg with herr | hnone
    · refine h.honest ?_ r hmem hrcmd
      obtain ⟨a, ha, hacmd, hne⟩ := hf
      rw [hp.answers, List.mem_append] at ha
      refine ⟨a, ha.resolve_right fun hnew => ?_, hacmd, hne⟩
      rw [List.mem_singleton.mp hnew] at hne
      exact hne herr
    · exact hnone r hmem hrcmd

/-! ### Steps -/

/-- The ledger is in order, and every command is dealt with fairly. -/
structure Good (s : TrackingAdapter) : Prop where
  ledger : s.Ledger
  fair : ∀ c, s.Fair c

theorem good_initial : initial.Good where
  ledger :=
    { nodup := List.nodup_nil
      num := fun _ h => by cases h
      owes := fun _ => rfl
      calls := fun _ h => by cases h
      answers := fun _ h => by cases h
      reports := fun _ h => by cases h }
  fair _ :=
    { fresh := fun _ h => by cases h
      honest := fun _ _ h => by cases h
      clean := fun _ _ h => by cases h
      ignored := fun _ _ h => by cases h }

/-- Messages and requests may be moved about. -/
theorem Good.rearrange (h : s.Good) (howes : ∀ c, s'.owes c = s.owes c)
    (hpool : ∀ call ∈ s'.pool, call ∈ s.pool)
    (hmsgs : ∀ m ∈ s'.queue ++ s'.mPendingMsgs, ∀ c, m.command? = some c →
      ∃ m' ∈ s.queue ++ s.mPendingMsgs, m'.command? = some c)
    (hreports : s'.reports = s.reports) (hanswers : s'.answers = s.answers)
    (hissued : s'.issued = s.issued) : s'.Good where
  ledger :=
    { nodup := hissued ▸ h.ledger.nodup
      num := hissued ▸ h.ledger.num
      owes := fun c => by rw [howes, hissued, h.ledger.owes]
      calls := fun call hcall => hissued ▸ h.ledger.calls call (hpool call hcall)
      answers := hissued ▸ hanswers ▸ h.ledger.answers
      reports := hreports ▸ h.ledger.reports }
  fair c := by
    have hfailed : s'.Failed c ↔ s.Failed c := by
      unfold Failed
      rw [hanswers]
    obtain ⟨hfresh, hhonest, hclean, hignored⟩ := h.fair c
    refine ⟨fun m hm hc => ?_, fun hf => ?_, fun hf call hmem => ?_, ?_⟩
    · obtain ⟨m', hm', hc'⟩ := hmsgs m hm c hc
      obtain ⟨hnot, hno⟩ := hfresh m' hm' hc'
      exact ⟨fun hf => hnot (hfailed.mp hf), fun call hmem => hno call (hpool call hmem)⟩
    · rw [hreports]
      exact hhonest (hfailed.mp hf)
    · exact hclean (hfailed.mp hf) call (hpool call hmem)
    · rintro ⟨ign, hign, hcmd, hcb⟩ call hmem
      exact hignored ⟨ign, hpool ign hign, hcmd, hcb⟩ call (hpool call hmem)

/-- A message that is no command and carries no answer. -/
theorem Good.send (h : s.Good) (hc : m.command? = none) (ha : m.call? = none) :
    (s.sendMsg m).Good := by
  have hm : m.owes = [] := by
    unfold Msg.owes
    rw [hc, ha]
    rfl
  have hnone : [m].filterMap Msg.call? = [] := List.filterMap_cons_none ha
  refine h.rearrange (fun c => ?_) (fun call hcall => ?_) (fun m' hm' c hc' => ?_) rfl rfl rfl
  · show ((s.queue ++ [m]).flatMap Msg.owes).count c + _ + _ + _ = _
    rw [List.flatMap_append, List.flatMap_singleton, hm, List.append_nil]
    rfl
  · change call ∈ s.outstanding ++ ((s.queue ++ [m]) ++ s.mPendingMsgs).filterMap Msg.call? at hcall
    rwa [List.append_assoc, List.filterMap_append, List.filterMap_append, hnone, List.nil_append,
      ← List.filterMap_append] at hcall
  · change m' ∈ (s.queue ++ [m]) ++ s.mPendingMsgs at hm'
    rw [List.append_assoc, List.mem_append, List.mem_append, List.mem_singleton] at hm'
    rcases hm' with hq | rfl | hpend
    · exact ⟨m', List.mem_append_left _ hq, hc'⟩
    · rw [hc] at hc'
      cases hc'
    · exact ⟨m', List.mem_append_right _ hpend, hc'⟩

/-- The engine answers. -/
theorem Good.engine (h : s.Good) {call : EngineCall} (hmem : call ∈ s.outstanding) :
    Good (sendMsg { s with
      outstanding := s.outstanding.erase call } (.answer call err)) := by
  have hperm := List.perm_cons_erase hmem
  refine h.rearrange (fun c => ?_) (fun call' hcall => ?_) (fun m' hm' c hc' => ?_) rfl rfl rfl
  · have hcount := (hperm.flatMap_right EngineCall.owes).count_eq c
    rw [List.flatMap_cons, List.count_append] at hcount
    have hone : (Msg.answer call err).owes = call.owes := List.append_nil _
    show ((s.queue ++ [Msg.answer call err]).flatMap Msg.owes).count c + _ +
      ((s.outstanding.erase call).flatMap EngineCall.owes).count c + _ = s.owes c
    rw [List.flatMap_append, List.flatMap_singleton, hone, List.count_append]
    unfold TrackingAdapter.owes
    show _ + (s.mPendingMsgs.flatMap Msg.owes).count c + _ +
      (s.reports.filterMap TrackingReport.cmd).count c = _
    omega
  · have hone : [Msg.answer call err].filterMap Msg.call? = [call] := rfl
    change call' ∈ s.outstanding.erase call ++
      ((s.queue ++ [Msg.answer call err]) ++ s.mPendingMsgs).filterMap Msg.call? at hcall
    rw [List.append_assoc, List.filterMap_append, List.filterMap_append, hone, List.mem_append,
      List.mem_append, List.mem_append, List.mem_singleton] at hcall
    unfold pool
    rw [List.filterMap_append, List.mem_append, List.mem_append]
    rcases hcall with hout | hq | rfl | hpend
    · exact .inl (List.mem_of_mem_erase hout)
    · exact .inr (.inl hq)
    · exact .inl hmem
    · exact .inr (.inr hpend)
  · change m' ∈ (s.queue ++ [Msg.answer call err]) ++ s.mPendingMsgs at hm'
    rw [List.append_assoc, List.mem_append, List.mem_append, List.mem_singleton] at hm'
    rcases hm' with hq | rfl | hpend
    · exact ⟨m', List.mem_append_left _ hq, hc'⟩
    · cases hc'
    · exact ⟨m', List.mem_append_right _ hpend, hc'⟩

/-- Messages wait in another order. -/
theorem Good.reorder (h : s.Good) {queue pending : List Msg}
    (hperm : (queue ++ pending).Perm (s.queue ++ s.mPendingMsgs)) :
    Good { s with
      queue := queue
      mPendingMsgs := pending } := by
  refine h.rearrange (fun c => ?_) (fun call hcall => ?_) (fun m' hm' c hc' => ?_) rfl rfl rfl
  · have hcount := (hperm.flatMap_right Msg.owes).count_eq c
    rw [List.flatMap_append, List.flatMap_append, List.count_append, List.count_append] at hcount
    unfold TrackingAdapter.owes
    show (queue.flatMap Msg.owes).count c + (pending.flatMap Msg.owes).count c +
      (s.outstanding.flatMap EngineCall.owes).count c +
      (s.reports.filterMap TrackingReport.cmd).count c = _
    omega
  · unfold pool at hcall ⊢
    rw [List.mem_append] at hcall ⊢
    exact hcall.imp_right fun hin => (hperm.filterMap _).mem_iff.mp hin
  · exact ⟨m', hperm.mem_iff.mp hm', hc'⟩

/-- A client gives a command. -/
theorem Good.issue (h : s.Good) {kind : TrackingCommandKind} {msg : TrackingCommand → Msg}
    (hmsg : ∀ c, (msg c).command? = some c ∧ (msg c).call? = none) :
    (s.issue kind client id msg).Good := by
  let new : TrackingCommand := ⟨s.issued.length, kind, client, id⟩
  have hnew : new ∉ s.issued := fun hmem => Nat.lt_irrefl _ (h.ledger.num new hmem)
  have hold {c : TrackingCommand} (hc : c ∈ s.issued) : c ∈ s.issued ++ [new] :=
    List.mem_append_left _ hc
  have hone : (msg new).owes = [new] := by
    unfold Msg.owes
    rw [(hmsg new).1, (hmsg new).2]
    rfl
  have hpool : ∀ call, call ∈ (s.issue kind client id msg).pool → call ∈ s.pool := by
    intro call hcall
    have hnone : [msg new].filterMap Msg.call? = [] := List.filterMap_cons_none (hmsg new).2
    change call ∈ s.outstanding ++ ((s.queue ++ [msg new]) ++ s.mPendingMsgs).filterMap Msg.call?
      at hcall
    rwa [List.append_assoc, List.filterMap_append, List.filterMap_append, hnone, List.nil_append,
      ← List.filterMap_append] at hcall
  refine ⟨⟨?_, fun c hc => ?_, fun c => ?_, fun call hcall c hcmd => ?_, fun a ha c hcmd => ?_,
    h.ledger.reports⟩, fun c => ⟨fun m hm hc => ?_, (h.fair c).honest,
    fun hf call hmem => (h.fair c).clean hf call (hpool call hmem), ?_⟩⟩
  · refine List.nodup_append.mpr ⟨h.ledger.nodup, List.nodup_singleton _, ?_⟩
    intro a ha b hb hab
    have hb : b = new := List.mem_singleton.mp hb
    exact hnew (hb ▸ hab ▸ ha)
  · show c.num < (s.issued ++ [new]).length
    rw [List.length_append, List.length_singleton]
    rcases List.mem_append.mp hc with hc | hc
    · exact Nat.lt_succ_of_lt (h.ledger.num c hc)
    · rw [List.mem_singleton.mp hc]
      exact Nat.lt_succ_self _
  · show ((s.queue ++ [msg new]).flatMap Msg.owes).count c + _ + _ + _ = (s.issued ++ [new]).count c
    have hcount := h.ledger.owes c
    unfold TrackingAdapter.owes at hcount
    rw [List.flatMap_append, List.flatMap_singleton, hone, List.count_append, List.count_append]
    change _ + (s.mPendingMsgs.flatMap Msg.owes).count c +
      (s.outstanding.flatMap EngineCall.owes).count c +
      (s.reports.filterMap TrackingReport.cmd).count c = _
    omega
  · obtain ⟨hin, hcb⟩ := h.ledger.calls call (hpool call hcall) c hcmd
    exact ⟨hold hin, hcb⟩
  · exact hold (h.ledger.answers a ha c hcmd)
  · change m ∈ (s.queue ++ [msg new]) ++ s.mPendingMsgs at hm
    rw [List.append_assoc, List.mem_append, List.mem_append, List.mem_singleton] at hm
    -- nothing has been done for the new command yet
    have hfirst : ¬ s.Failed new ∧ ∀ call ∈ s.pool, call.cmd ≠ some new := by
      refine ⟨?_, fun call hcall hcmd => hnew (h.ledger.calls call hcall new hcmd).1⟩
      rintro ⟨a, ha, hcmd, -⟩
      exact hnew (h.ledger.answers a ha new hcmd)
    have hfresh : ¬ s.Failed c ∧ ∀ call ∈ s.pool, call.cmd ≠ some c := by
      rcases hm with hq | rfl | hpend
      · exact (h.fair c).fresh m (List.mem_append_left _ hq) hc
      · obtain rfl := Option.some.inj ((hmsg new).1.symm.trans hc)
        exact hfirst
      · exact (h.fair c).fresh m (List.mem_append_right _ hpend) hc
    exact ⟨hfresh.1, fun call hcall => hfresh.2 call (hpool call hcall)⟩
  · rintro ⟨ign, hign, hcmd, hcb⟩ call hmem
    exact (h.fair c).ignored ⟨ign, hpool ign hign, hcmd, hcb⟩ call (hpool call hmem)

/-- A message that has nothing to do with any command. -/
theorem Good.aside (h : s.Good) (hp : Processes s m s' calls reports answers) (hm : m.owes = [])
    (ha : Aside calls reports) (hans : ∀ a ∈ answers, a.1.cmd = none) : s'.Good where
  ledger := by
    have hcalls : calls.flatMap EngineCall.owes = [] := by
      refine List.flatMap_eq_nil_iff.mpr fun call hcall => ?_
      unfold EngineCall.owes
      rw [ha.calls call hcall]
      exact ite_self _
    have hreports : reports.filterMap TrackingReport.cmd = [] :=
      List.filterMap_eq_nil_iff.mpr ha.reports
    refine h.ledger.processes hp (fun c => ?_) (fun call hcall c hcmd => ?_) (fun a hin c hcmd => ?_)
      fun r hr c hcmd => ?_
    · rw [hcalls, hreports, hm]
      rfl
    · rw [ha.calls call hcall] at hcmd
      cases hcmd
    · rw [hans a hin] at hcmd
      cases hcmd
    · rw [ha.reports r hr] at hcmd
      cases hcmd
  fair c := by
    refine (h.fair c).other hp (fun call hcall hcmd => ?_) (fun r hr hcmd => ?_) fun a hin hcmd => ?_
    · rw [ha.calls call hcall] at hcmd
      cases hcmd
    · rw [ha.reports r hr] at hcmd
      cases hcmd
    · rw [hans a hin] at hcmd
      cases hcmd

/-- A message that a command is owed an answer by, and what is done for that command. -/
theorem Good.respond (h : s.Good) (hp : Processes s m s' calls reports answers) (hm : m.owes = [c])
    (hr : Responds c calls reports) (hans : ∀ a ∈ answers, a.1.cmd = some c) (hfair : s'.Fair c) :
    s'.Good where
  ledger := by
    have hissued : c ∈ s.issued := by
      refine List.count_pos_iff.mp (h.ledger.owes c ▸ ?_)
      unfold TrackingAdapter.owes
      rw [hp.queue, List.flatMap_cons, hm, List.count_append, List.count_singleton_self]
      omega
    refine h.ledger.processes hp (fun c' => ?_) (fun call hcall c' hcmd => ?_)
      (fun a ha c' hcmd => ?_) fun r hin c' hcmd => ?_
    · rw [hm, ← hr.balanced, List.count_append]
    · obtain ⟨hcmd', hcb⟩ := hr.mem_calls call hcall
      obtain rfl := Option.some.inj (hcmd'.symm.trans hcmd)
      exact ⟨hissued, hcb⟩
    · obtain rfl := Option.some.inj ((hans a ha).symm.trans hcmd)
      exact hissued
    · obtain ⟨hcmd', hsession⟩ := hr.mem_reports r hin
      obtain rfl := Option.some.inj (hcmd'.symm.trans hcmd)
      exact hsession
  fair c' := by
    by_cases hc : c' = c
    · exact hc ▸ hfair
    · have hne {o : Option TrackingCommand} (ho : o = some c) : o ≠ some c' := fun ho' =>
        hc (Option.some.inj (ho'.symm.trans ho))
      exact (h.fair c').other hp (fun call hcall => hne (hr.mem_calls call hcall).1)
        (fun r hin => hne (hr.mem_reports r hin).1) fun a ha => hne (hans a ha)

/-- The answer to a request that nobody cares for. -/
theorem Good.ignore {call : EngineCall} (h : s.Good)
    (hp : Processes s (.answer call err) s' [] [] [(call, err)]) (hcmd : call.cmd = some c)
    (hcb : call.callback = .ignore)
    (hg : err = .SUCCESS ∨ ∀ r ∈ s.reports, r.cmd = some c → r.err ≠ .SUCCESS) : s'.Good where
  ledger := by
    have hm : (Msg.answer call err).owes = [] := by
      show call.owes ++ [] = []
      unfold EngineCall.owes
      rw [hcb]
      rfl
    have hissued : c ∈ s.issued := by
      refine (h.ledger.calls call ?_ c hcmd).1
      unfold TrackingAdapter.pool
      rw [hp.queue]
      exact List.mem_append_right _ List.mem_cons_self
    refine h.ledger.processes hp (fun c' => ?_) (fun _ hin => ?_) (fun a ha c' hcmd' => ?_)
      fun _ hin => ?_
    · rw [hm]
      rfl
    · cases hin
    · rw [List.mem_singleton.mp ha] at hcmd'
      obtain rfl := Option.some.inj (hcmd.symm.trans hcmd')
      exact hissued
    · cases hin
  fair c' := by
    by_cases hc : c' = c
    · exact hc ▸ (h.fair c).ignore hp hcmd hcb hg
    · refine (h.fair c').other hp (fun _ hin => ?_) (fun _ hin => ?_) fun a ha hcmd' => ?_
      · cases hin
      · cases hin
      · rw [List.mem_singleton.mp ha] at hcmd'
        exact hc (Option.some.inj (hcmd'.symm.trans hcmd))

/-! #### The first message -/

variable {queue : List Msg}

theorem Adds.processes (h : Adds { s with queue := queue } s' calls reports)
    (hq : s.queue = m :: queue) : Processes s m s' calls reports [] where
  queue := hq.trans (congrArg (m :: ·) h.queue.symm)
  pending := h.pending
  outstanding := h.outstanding
  reports := h.reports
  answers := h.answers.trans (List.append_nil _).symm
  issued := h.issued

theorem Adds.processesAnswer {call : EngineCall}
    (h : Adds (note { s with queue := queue } call err) s' calls reports)
    (hq : s.queue = .answer call err :: queue) :
    Processes s (.answer call err) s' calls reports [(call, err)] where
  queue := hq.trans (congrArg (Msg.answer call err :: ·) h.queue.symm)
  pending := h.pending
  outstanding := h.outstanding
  reports := h.reports
  answers := h.answers
  issued := h.issued

/-- The message of a command has to wait, or it responds. -/
theorem Good.command (h : s.Good) (hq : s.queue = m :: queue) (hm : m.command? = some c)
    (hcall : m.call? = none)
    (hr : s' = pend { s with queue := queue } m ∨
      ∃ calls reports, Adds { s with queue := queue } s' calls reports ∧
        Responds c calls reports) : s'.Good := by
  rcases hr with rfl | ⟨calls, reports, hadds, hr⟩
  · refine h.reorder ?_
    show (queue ++ (s.mPendingMsgs ++ [m])).Perm (s.queue ++ s.mPendingMsgs)
    rw [hq, ← List.append_assoc]
    exact List.perm_append_singleton m _
  · have howes : m.owes = [c] := by
      unfold Msg.owes
      rw [hm, hcall]
      rfl
    have hp := hadds.processes hq
    exact h.respond hp howes hr (fun a ha => by cases ha) ((h.fair c).command h.ledger hp hm hr)

/-- The answer to a request, which runs the callback of the request. -/
theorem Good.answer {call : EngineCall} (h : s.Good) (hq : s.queue = .answer call err :: queue)
    (hg : s.MsgAnswerable (.answer call err)) :
    Good (runCallback (note { s with queue := queue } call err) call.cmd err call.callback) := by
  have hin : call ∈ s.pool := by
    unfold TrackingAdapter.pool
    rw [hq]
    exact List.mem_append_right _ List.mem_cons_self
  cases hcmd : call.cmd with
  | none =>
    obtain ⟨calls, reports, hadds, ha⟩ :=
      @aside_runCallback (note { s with queue := queue } call err) err call.callback
    have howes : (Msg.answer call err).owes = [] := by
      show call.owes ++ [] = []
      rw [List.append_nil]
      unfold EngineCall.owes
      rw [hcmd]
      exact ite_self _
    refine h.aside (hadds.processesAnswer hq) howes ha fun a hin => ?_
    rw [List.mem_singleton.mp hin]
    exact hcmd
  | some c =>
    have hg : s.CallAnswerable (some c) err call.callback := by
      rw [← hcmd]
      refine hg ?_
      rw [hcmd]
      exact Option.some_ne_none c
    rcases (h.ledger.calls call hin c hcmd).2 with hcb | hcb
    · obtain ⟨calls, reports, hadds, hr⟩ := continues_runCallback hcb hg
        (s := note { s with queue := queue } call err) rfl
      have hp := hadds.processesAnswer hq
      have howes : (Msg.answer call err).owes = [c] := by
        show call.owes ++ [] = [c]
        unfold EngineCall.owes
        rw [hcb, hcmd]
        rfl
      refine h.respond hp howes hr.responds (fun a ha => ?_) ?_
      · rw [List.mem_singleton.mp ha]
        exact hcmd
      · refine (h.fair c).answer h.ledger hp hcmd hcb hr fun hlate herr => ?_
        rintro ⟨a, ha, hacmd, hne⟩
        -- the two late callbacks
        have hclean : err ≠ .SUCCESS ∨ ∀ a ∈ s.answers, a.1.cmd = some c → a.2 = .SUCCESS := by
          generalize call.callback = cb at hg hlate
          cases cb with
          | startTimeBased client id => exact hg
          | stop client id => exact hg
          | none | update | startDistanceBased | ignore | switchToTimeBased | stopDistanceBased |
            restartDistanceBased | saveDistanceBased | removeDistanceBased => cases hlate
        exact hne (hclean.resolve_left (not_not_intro herr) a ha hacmd)
    · rw [hcb] at hg ⊢
      exact h.ignore (Adds.refl.processesAnswer hq) hcmd hcb hg

theorem Good.process (h : s.Good) (hq : s.queue = m :: queue) (hg : s.MsgAnswerable m) :
    Good (proc { s with queue := queue } m) := by
  cases m with
  | addClient client hasCallback =>
    have hp : Processes s (.addClient client hasCallback)
        (proc { s with queue := queue } (.addClient client hasCallback)) [] [] [] :=
      ⟨hq, rfl, (List.append_nil _).symm, (List.append_nil _).symm, (List.append_nil _).symm, rfl⟩
    exact h.aside hp rfl aside_nil fun a ha => by cases ha
  | removeClient client =>
    obtain ⟨calls, hadds, ha⟩ := @aside_removeClient { s with queue := queue } client
    exact h.aside (hadds.processes hq) rfl ha fun a ha => by cases ha
  | start cmd options => exact h.command hq rfl rfl (responds_procStartTracking hg)
  | update cmd options => exact h.command hq rfl rfl responds_procUpdateTracking
  | stop cmd => exact h.command hq rfl rfl (.inr responds_procStopTracking)
  | handleEngineUpEvent =>
    let t : TrackingAdapter := { s with
      queue := queue
      mIsEngineCapabilitiesKnown := true }
    obtain ⟨calls, hadds, ha⟩ := @aside_restartSessions t
    have hp : Processes s .handleEngineUpEvent t.restartSessions calls [] [] :=
      Adds.processes ⟨hadds.outstanding, hadds.reports, hadds.queue, hadds.pending, hadds.answers,
        hadds.issued⟩ hq
    have hgood : t.restartSessions.Good := h.aside hp rfl ha fun a ha => by cases ha
    refine hgood.reorder ?_
    rw [List.append_nil]
  | answer call err => exact h.answer hq hg

end

/-! ### Runs -/

theorem good_step {s s' : TrackingAdapter} {e : Event} (h : s.Good) (hg : s.Answerable e)
    (hs : s.step e = some s') : s'.Good := by
  cases e with
  | addClientCommand client hasCallback =>
    obtain rfl := Option.some.inj hs
    exact h.send rfl rfl
  | removeClientCommand client =>
    obtain rfl := Option.some.inj hs
    exact h.send rfl rfl
  | startTrackingCommand client options =>
    obtain rfl := Option.some.inj hs
    have hgood : Good { s with
      mSessionIdCounter := s.generateSessionId } :=
      h.rearrange (fun _ => rfl) (fun _ hc => hc) (fun m hm _ hc => ⟨m, hm, hc⟩) rfl rfl rfl
    exact hgood.issue fun c => ⟨rfl, rfl⟩
  | updateTrackingOptionsCommand client id options =>
    obtain rfl := Option.some.inj hs
    exact h.issue fun c => ⟨rfl, rfl⟩
  | stopTrackingCommand client id =>
    obtain rfl := Option.some.inj hs
    exact h.issue fun c => ⟨rfl, rfl⟩
  | handleEngineUpEvent =>
    obtain rfl := Option.some.inj hs
    exact h.send rfl rfl
  | generateSessionId =>
    obtain rfl := Option.some.inj hs
    exact h.rearrange (fun _ => rfl) (fun _ hc => hc) (fun m hm _ hc => ⟨m, hm, hc⟩) rfl rfl rfl
  | setEngineCapabilities distanceBased =>
    obtain rfl := Option.some.inj hs
    exact h.rearrange (fun _ => rfl) (fun _ hc => hc) (fun m hm _ hc => ⟨m, hm, hc⟩) rfl rfl rfl
  | answer call err =>
    obtain ⟨hmem, hs⟩ := Option.ite_none_right_eq_some.mp hs
    obtain rfl := Option.some.inj hs
    exact h.engine hmem
  | process =>
    simp only [step] at hs
    split at hs
    · cases hs
    · rename_i m queue hq
      obtain rfl := Option.some.inj hs
      exact h.process hq (hg m (by rw [hq]; rfl))

theorem mem_owes_iff {m : Msg} {c : TrackingCommand} (h : c ∈ m.owes) :
    m.command? = some c ∨ ∃ call, m.call? = some call ∧ call.cmd = some c := by
  rcases List.mem_append.mp h with hcmd | hcall
  · exact .inl (Option.mem_toList.mp hcmd)
  · obtain ⟨call, hmem, howes⟩ := List.mem_flatMap.mp hcall
    refine .inr ⟨call, Option.mem_toList.mp hmem, ?_⟩
    unfold EngineCall.owes at howes
    split at howes
    · exact Option.mem_toList.mp howes
    · cases howes

/-- A command that is settled is owed nothing but the report that it has been given. -/
theorem Settled.owes {s : TrackingAdapter} {c : TrackingCommand} (h : s.Settled c) :
    s.owes c = (s.reports.filter fun r => r.cmd = some c).length := by
  have hmsgs {ms : List Msg} (hms : ∀ m ∈ ms, m ∈ s.queue ++ s.mPendingMsgs) :
      (ms.flatMap Msg.owes).count c = 0 := by
    refine List.count_eq_zero.mpr fun hmem => ?_
    obtain ⟨m, hm, howes⟩ := List.mem_flatMap.mp hmem
    rcases mem_owes_iff howes with hcmd | ⟨call, hcall, hcmd⟩
    · exact h.processed m (hms m hm) hcmd
    · refine h.answered call ?_ hcmd
      exact List.mem_append_right _ (List.mem_filterMap.mpr ⟨m, hms m hm, hcall⟩)
  have hout : (s.outstanding.flatMap EngineCall.owes).count c = 0 := by
    refine List.count_eq_zero.mpr fun hmem => ?_
    obtain ⟨call, hcall, howes⟩ := List.mem_flatMap.mp hmem
    unfold EngineCall.owes at howes
    split at howes
    · exact h.answered call (List.mem_append_left _ hcall) (Option.mem_toList.mp howes)
    · cases howes
  unfold TrackingAdapter.owes
  rw [hmsgs fun m => List.mem_append_left _, hmsgs fun m => List.mem_append_right _, hout,
    List.count_filterMap, List.countP_eq_length_filter]
  simp only [zero_add, beq_eq_decide]

/-- **Every tracking command is answered once its requests are answered**, with one report to its
client, of success only if all of its requests succeeded. -/
theorem tracking_answered {es : List Event} {s : TrackingAdapter} (h : system.Run Answerable es s) :
    ∀ c, s.Settled c → s.Answered c := by
  intro c hs
  have hgood : s.Good := h.invariant good_initial fun _ _ _ hi hg hst => good_step hi hg hst
  have hone : (s.reports.filter fun r => r.cmd = some c).length = 1 := by
    rw [← hs.owes, hgood.ledger.owes]
    exact List.count_eq_one_of_mem hgood.ledger.nodup hs.issued
  obtain ⟨r, hr⟩ := List.length_eq_one_iff.mp hone
  have hmem : r ∈ s.reports.filter fun r => r.cmd = some c := by
    rw [hr]
    exact List.mem_singleton.mpr rfl
  obtain ⟨hin, hcmd⟩ := List.mem_filter.mp hmem
  have hcmd : r.cmd = some c := of_decide_eq_true hcmd
  obtain ⟨hclient, hid⟩ := hgood.ledger.reports r hin c hcmd
  refine ⟨r, hr, hclient, hid, fun herr a ha hacmd => ?_⟩
  by_contra hne
  exact (hgood.fair c).honest ⟨a, ha, hacmd, hne⟩ r hin hcmd herr

section

instance {s : TrackingAdapter} {c : TrackingCommand} : Decidable (s.Settled c) :=
  decidable_of_iff (c ∈ s.issued ∧ (∀ m ∈ s.queue ++ s.mPendingMsgs, m.command? ≠ some c) ∧
      ∀ call ∈ s.pool, call.cmd ≠ some c)
    ⟨fun h => ⟨h.1, h.2.1, h.2.2⟩, fun h => ⟨h.1, h.2, h.3⟩⟩

instance {s : TrackingAdapter} {cmd : Option TrackingCommand} {err : LocationError} :
    ∀ cb, Decidable (s.CallAnswerable cmd err cb)
  | .restartDistanceBased _ _ _ => inferInstanceAs (Decidable (_ = _))
  | .ignore => inferInstanceAs (Decidable (_ ∨ _))
  | .switchToTimeBased _ _ _ => inferInstanceAs (Decidable (_ ∨ _))
  | .startTimeBased _ _ | .stop _ _ => inferInstanceAs (Decidable (_ ∨ _))
  | .none | .update _ _ _ | .startDistanceBased _ _ | .stopDistanceBased _ _
  | .saveDistanceBased _ _ _ | .removeDistanceBased _ _ => inferInstanceAs (Decidable True)

instance {s : TrackingAdapter} : ∀ m, Decidable (s.MsgAnswerable m)
  | .start _ _ => inferInstanceAs (Decidable (_ ∨ _))
  | .answer _ _ => inferInstanceAs (Decidable (_ → _))
  | .addClient _ _ | .removeClient _ | .update _ _ | .stop _ | .handleEngineUpEvent =>
    inferInstanceAs (Decidable True)

instance : ∀ (s : TrackingAdapter) e, Decidable (s.Answerable e)
  | s, .process => inferInstanceAs (Decidable (∀ m ∈ s.queue.head?, s.MsgAnswerable m))
  | _, .addClientCommand _ _ | _, .removeClientCommand _ | _, .startTrackingCommand _ _
  | _, .updateTrackingOptionsCommand _ _ _ | _, .stopTrackingCommand _ _ | _, .handleEngineUpEvent
  | _, .generateSessionId | _, .setEngineCapabilities _ | _, .answer _ _ =>
    inferInstanceAs (Decidable True)

end

/-- Options that ask for a fix every second. -/
def everySecond : TrackingOptions := ⟨28, 1000, 0, .STANDALONE, 0, .INVALID, 0⟩

def firstStart : TrackingCommand := ⟨0, .start, 1, 2⟩

/-- A session is started, and the engine refuses it. -/
theorem start_refused_answered : ∃ s,
    system.Run Answerable [.addClientCommand 1 true, .process, .startTrackingCommand 1 everySecond,
      .process, .answer ⟨0, some firstStart, .startTimeBasedTracking everySecond,
        .startTimeBased 1 2⟩ .GENERAL_FAILURE, .process] s ∧
      s.Settled firstStart ∧ s.Answered firstStart ∧
      s.reports = [⟨some firstStart, 1, .GENERAL_FAILURE, 2⟩] := by
  have hrun : system.Run Answerable [.addClientCommand 1 true, .process,
      .startTrackingCommand 1 everySecond, .process,
      .answer ⟨0, some firstStart, .startTimeBasedTracking everySecond, .startTimeBased 1 2⟩
        .GENERAL_FAILURE, .process] _ := System.run_guarded rfl
  have hanswered := tracking_answered hrun firstStart (of_decide_eq_true rfl)
  exact ⟨_, hrun, of_decide_eq_true rfl, hanswered, rfl⟩

/-- A client with a callback starts a session with options of size zero, and hears nothing. -/
theorem start_unanswered : ∃ s,
    system.Run System.Free [.addClientCommand 1 true, .process,
      .startTrackingCommand 1 { everySecond with size := 0 }, .process] s ∧
      s.hasCallback 1 = true ∧ s.Settled firstStart ∧ ¬ s.Answered firstStart := by
  refine ⟨_, System.run_foldlM rfl, rfl, of_decide_eq_true rfl, ?_⟩
  rintro ⟨r, hr, -⟩
  cases hr

end TrackingAdapter

end GpsHal
