import GpsHal.Gnss.NiSession
import Mathlib.Data.BitVec
import Mathlib.Tactic.Common

/-!
# What becomes of network initiated requests

Every request that has been accepted is answered or discarded once, in every run that keeps the
condition on its steps.

## Main definitions

* `GnssAdapterNi.Inv` : the invariant, in parts for the requests, for their sessions, for what becomes of
  them and for the message thread.

## Main results

* `GnssAdapterNi.Inv.step` : a step that keeps the condition keeps the invariant.
* `GnssAdapterNi.settled_of_run` : what becomes of the requests in every run.
-/

namespace GpsHal

namespace NiThread

/-- The outcomes that the thread still has to bring about. -/
def debt (thread : NiThread) : ℕ := thread.early.toNat + thread.owed.toList.length

theorem early_of_isNew {thread : NiThread} (h : thread.isNew = true) : thread.early = true := by
  cases thread <;> simp_all [isNew, early]

end NiThread

theorem NiTask.lacks_of_creates {task : NiTask} (h : task.creates = none) :
    task.lacksTime = none ∧ task.lacksID = none := by
  cases task <;> simp_all [creates, lacksTime, lacksID]

namespace GnssAdapterNi

variable (s : GnssAdapterNi)

/-! ### The invariant -/

/-- The response is one that the request `n` may be answered with, or `IGNORE` where it is to be
discarded. -/
def Justified (n : ℕ) (resp : GnssNiResponse) : Prop := ∃ req, s.requests[n]? = some req ∧
  if resp = .IGNORE then n ∈ s.overruled ∧ req.niClass = .other else (req.id, resp) ∈ s.given

/-- The requests have different ids, and all of them have a thread but the one that is being stored. -/
structure RequestsInv : Prop where
  ids : ∀ (n : ℕ) (req : NiRequest), s.requests[n]? = some req → req.id.toNat = n + 1
  counter : s.reqIDCounter.toNat + s.task.lacksID.toList.length = s.requests.length
  later : ∀ n, s.requests.length ≤ n → s.threads n = .unborn
  unborn : ∀ n < s.requests.length, s.threads n = .unborn → s.task.creates = some n

/-- The session of the class `c` is that of the request whose thread has not left it, with its time and
its id; a response in it is one for that request. -/
structure SessionInv (c : NiClass) : Prop where
  held : ∀ n, (s.session c).rawRequest = some n ↔
    ∃ req, s.requests[n]? = some req ∧ req.niClass = c ∧ (s.threads n).early
  received : (s.session c).respRecvd →
    ∃ n, (s.session c).rawRequest = some n ∧ s.Justified n (s.session c).resp
  time : ∀ (n : ℕ) (req : NiRequest), s.requests[n]? = some req → req.niClass = c →
    (s.threads n).isNew → s.task.lacksTime ≠ some n → (s.session c).respTimeLeft = req.respTime
  waiting : ∀ (n : ℕ) (req : NiRequest) (respTimeLeft : BitVec 32), s.requests[n]? = some req →
    req.niClass = c → s.threads n = .waiting respTimeLeft → respTimeLeft = req.respTime
  id : ∀ (n : ℕ) (req : NiRequest), s.requests[n]? = some req → req.niClass = c →
    (s.threads n).early → s.task.lacksID ≠ some n → (s.session c).reqID = req.id

/-- What is still to become of a request. -/
def debt (n : ℕ) : ℕ := (s.threads n).debt + s.queued.countP (·.rawRequest = n)

structure OutcomesInv : Prop where
  owed : ∀ n answer, (s.threads n).owed = some answer → answer.thread = n ∧ s.Right answer
  queued : ∀ answer ∈ s.queued, s.Right answer
  sent : ∀ answer ∈ s.sent, s.Right answer
  one : ∀ n < s.requests.length, s.outcomes n + s.debt n = 1
  discarded : ∀ n ∈ s.discarded, n ∈ s.overruled ∧ ∃ req, s.requests[n]? = some req ∧ req.niClass = .other
  told : ∀ n id, (n, id) ∈ s.notified → ∃ req, s.requests[n]? = some req ∧ req.id = id

/-- The response has been given, by a client that does not respond `IGNORE`. -/
def Given (r : ClientResponse) : Prop := (r.id, r.response) ∈ s.given ∧ r.response ≠ .IGNORE

/-- The session of the class `c` is that of the request that the response is for. -/
def Matches (c : NiClass) (r : ClientResponse) : Prop := ∀ (n : ℕ) (req : NiRequest),
  (s.session c).rawRequest = some n → s.requests[n]? = some req → req.id = r.id

/-- The response is for no request of the class `c` that its thread has not left. -/
def Passed (c : NiClass) (r : ClientResponse) : Prop := ∀ (n : ℕ) (req : NiRequest),
  s.requests[n]? = some req → req.niClass = c → req.id = r.id → (s.threads n).early = false

/-- The request `n` is the last one and has no thread. -/
def Making (n : ℕ) (notify : NiNotification) : Prop := n + 1 = s.requests.length ∧
  s.threads n = .unborn ∧ ∃ req, s.requests[n]? = some req ∧ req.niClass = notify.niClass ∧
    req.respTime = notify.respTime

/-- The session id is that of the request `n`. -/
def HasID (n : ℕ) (sessionId : BitVec 32) : Prop := ∃ req, s.requests[n]? = some req ∧ req.id = sessionId

/-- What the message thread relies on before a statement. -/
def TaskInv : NiTask → Prop
  | .idle | .checkRaw _ | .discard none | .ignore none | .report _ true => True
  | .checkEs notify | .storeRaw notify => (s.session notify.niClass).rawRequest = none
  | .storeID n notify | .readID n notify => s.Making n notify
  | .storeTime n notify sessionId => s.Making n notify ∧ s.HasID n sessionId
  | .create n sessionId => n + 1 = s.requests.length ∧ s.threads n = .unborn ∧ s.HasID n sessionId
  | .callback n sessionId => s.HasID n sessionId
  | .discard (some r) | .ignore (some r) => s.Given r ∧ s.Matches .emergency r
  | .findEsID r => s.Given r
  | .findEsRaw r => s.Given r ∧ s.Matches .emergency r
  | .findID r => s.Given r ∧ s.Passed .emergency r
  | .findRaw r => s.Given r ∧ s.Passed .emergency r ∧ s.Matches .other r
  | .store c r => s.Given r ∧ s.Matches c r
  | .report r false => r.client ∈ s.callbacks → ∀ c, s.Passed c r

structure Inv : Prop where
  requests : s.RequestsInv
  sessions : ∀ c, s.SessionInv c
  outcomes : s.OutcomesInv
  task : s.TaskInv s.task

variable {s}

theorem inv_init : Inv init where
  requests := by constructor <;> simp [init, NiTask.lacksID]
  sessions c := by constructor <;> simp [init]
  outcomes := by constructor <;> simp [init, NiThread.owed]
  task := trivial

/-! ### Parts of a state -/

theorem getElem?_concat_iff {requests : List NiRequest} {new req : NiRequest} {n : ℕ} :
    (requests ++ [new])[n]? = some req ↔
      requests[n]? = some req ∨ n = requests.length ∧ new = req := by
  rcases lt_trichotomy n requests.length with hn | rfl | hn
  · rw [List.getElem?_append_left hn]
    simp [hn.ne]
  · simp
  · rw [List.getElem?_eq_none (by simp; omega), List.getElem?_eq_none hn.le]
    simp [hn.ne']

theorem toNat_add_one {counter : BitVec 32} (h : counter.toNat + 1 < 2 ^ 32) :
    (counter + 1).toNat = counter.toNat + 1 := by
  bv_omega

theorem Right.mono {s' : GnssAdapterNi} {answer : NiAnswer} (h : s.Right answer)
    (hreq : ∀ (n : ℕ) (req : NiRequest), s.requests[n]? = some req → s'.requests[n]? = some req)
    (hgiven : s.given ⊆ s'.given) : s'.Right answer := by
  obtain ⟨req, hn, hraw, hexpired⟩ := h
  refine ⟨req, hreq _ _ hn, hraw, ?_⟩
  cases he : answer.expired with
  | some respTimeLeft => simpa [he] using hexpired
  | none => exact hgiven (by simpa [he] using hexpired)

/-- A session keeps its invariant when it and its requests stay as they are. -/
theorem SessionInv.transfer {s' : GnssAdapterNi} {c : NiClass} (h : s.SessionInv c)
    (hs : s'.session c = s.session c)
    (hreq : ∀ (n : ℕ) (req : NiRequest), req.niClass = c →
      (s'.requests[n]? = some req ↔ s.requests[n]? = some req))
    (hjust : ∀ n resp, s.Justified n resp → s'.Justified n resp)
    (hthreads : ∀ (n : ℕ) (req : NiRequest), s.requests[n]? = some req → req.niClass = c →
      s'.threads n = s.threads n ∧
        (s'.task.lacksTime ≠ some n → s.task.lacksTime ≠ some n) ∧
        (s'.task.lacksID ≠ some n → s.task.lacksID ≠ some n)) : s'.SessionInv c where
  held n := by
    rw [hs, h.held]
    refine exists_congr fun req => ⟨?_, ?_⟩
    · rintro ⟨hn, hc, he⟩
      exact ⟨(hreq n req hc).2 hn, hc, by rwa [(hthreads n req hn hc).1]⟩
    · rintro ⟨hn, hc, he⟩
      have hn' := (hreq n req hc).1 hn
      exact ⟨hn', hc, by rwa [(hthreads n req hn' hc).1] at he⟩
  received hr := by
    rw [hs] at hr ⊢
    obtain ⟨n, hn, hj⟩ := h.received hr
    exact ⟨n, hn, hjust _ _ hj⟩
  time n req hn hc hnew hl := by
    have hn' := (hreq n req hc).1 hn
    obtain ⟨ht, htime, -⟩ := hthreads n req hn' hc
    rw [hs]
    exact h.time n req hn' hc (ht ▸ hnew) (htime hl)
  waiting n req respTimeLeft hn hc hw := by
    have hn' := (hreq n req hc).1 hn
    exact h.waiting n req respTimeLeft hn' hc ((hthreads n req hn' hc).1 ▸ hw)
  id n req hn hc he hl := by
    have hn' := (hreq n req hc).1 hn
    obtain ⟨ht, -, hid⟩ := hthreads n req hn' hc
    rw [hs]
    exact h.id n req hn' hc (ht ▸ he) (hid hl)

/-! ### Steps that forget nothing

`Onward` says of a step what the message thread can rely on when it is not its own: requests stay and
threads only leave sessions. -/

structure Onward (s s' : GnssAdapterNi) : Prop where
  callbacks : s'.callbacks = s.callbacks
  requests : s'.requests = s.requests
  given : s'.given = s.given
  rawRequest : ∀ c n, (s'.session c).rawRequest = some n → (s.session c).rawRequest = some n
  early : ∀ n, (s'.threads n).early = true → (s.threads n).early = true
  unborn : ∀ n, s.threads n = .unborn → s'.threads n = .unborn

namespace Onward

variable {s' : GnssAdapterNi} (h : Onward s s') {c : NiClass} {r : ClientResponse}
include h

theorem rawRequest_none (hn : (s.session c).rawRequest = none) : (s'.session c).rawRequest = none := by
  by_contra hne
  obtain ⟨n, hn'⟩ := Option.ne_none_iff_exists'.1 hne
  simp [h.rawRequest c n hn'] at hn

theorem isGiven (hr : s.Given r) : s'.Given r := by simpa [Given, h.given] using hr

theorem isMatching (hr : s.Matches c r) : s'.Matches c r := fun n req hn hreq =>
  hr n req (h.rawRequest c n hn) (h.requests ▸ hreq)

theorem isPassed (hr : s.Passed c r) : s'.Passed c r := fun n req hreq hc hid => by
  by_contra hne
  have hearly := h.early n (by simpa using hne)
  simp [hr n req (h.requests ▸ hreq) hc hid] at hearly

theorem hasID {n : ℕ} {sessionId : BitVec 32} (hn : s.HasID n sessionId) : s'.HasID n sessionId := by
  simpa [HasID, h.requests] using hn

theorem isMaking {n : ℕ} {notify : NiNotification} (hn : s.Making n notify) : s'.Making n notify := by
  obtain ⟨hlast, hunborn, hreq⟩ := hn
  exact ⟨h.requests ▸ hlast, h.unborn n hunborn, h.requests ▸ hreq⟩

theorem taskInv {task : NiTask} (ht : s.TaskInv task) : s'.TaskInv task := by
  match task, ht with
  | .idle, _ | .checkRaw _, _ | .discard none, _ | .ignore none, _ | .report _ true, _ => trivial
  | .checkEs _, ht | .storeRaw _, ht => exact h.rawRequest_none ht
  | .storeID .., ht | .readID .., ht => exact h.isMaking ht
  | .storeTime .., ht => exact ⟨h.isMaking ht.1, h.hasID ht.2⟩
  | .create n _, ht => exact ⟨h.requests ▸ ht.1, h.unborn n ht.2.1, h.hasID ht.2.2⟩
  | .callback .., ht => exact h.hasID ht
  | .discard (some _), ht | .ignore (some _), ht | .findEsRaw _, ht | .store .., ht =>
    exact ⟨h.isGiven ht.1, h.isMatching ht.2⟩
  | .findEsID _, ht => exact h.isGiven ht
  | .findID _, ht => exact ⟨h.isGiven ht.1, h.isPassed ht.2⟩
  | .findRaw _, ht => exact ⟨h.isGiven ht.1, h.isPassed ht.2.1, h.isMatching ht.2.2⟩
  | .report r false, ht => exact fun hr c => h.isPassed (ht (h.callbacks ▸ hr) c)

end Onward

/-! ### Steps of the thread of a request -/

/-- What the thread of the request `n` leaves as it is. -/
structure ThreadStep (s s' : GnssAdapterNi) (n : ℕ) (c : NiClass) (session : NiSession)
    (thread : NiThread) : Prop where
  callbacks : s'.callbacks = s.callbacks
  session : s'.session = Function.update s.session c session
  reqIDCounter : s'.reqIDCounter = s.reqIDCounter
  task : s'.task = s.task
  threads : s'.threads = Function.update s.threads n thread
  requests : s'.requests = s.requests
  notified : s'.notified = s.notified
  given : s'.given = s.given
  overruled : s'.overruled = s.overruled
  sent : s'.sent = s.sent

theorem threadStep_setThread (n : ℕ) (c : NiClass) (session : NiSession) (thread : NiThread) :
    ThreadStep s ((s.setSession c session).setThread n thread) n c session thread := by
  constructor <;> rfl

namespace ThreadStep

variable {s' : GnssAdapterNi} {n : ℕ} {c : NiClass} {session : NiSession} {thread : NiThread}
  (h : ThreadStep s s' n c session thread)
include h

theorem session_self : s'.session c = session := by rw [h.session, Function.update_self]

theorem session_of_ne {d : NiClass} (hd : d ≠ c) : s'.session d = s.session d := by
  rw [h.session, Function.update_of_ne hd]

theorem threads_self : s'.threads n = thread := by rw [h.threads, Function.update_self]

theorem threads_of_ne {m : ℕ} (hm : m ≠ n) : s'.threads m = s.threads m := by
  rw [h.threads, Function.update_of_ne hm]

theorem onward (hn : s.threads n ≠ .unborn)
    (hraw : ∀ m, session.rawRequest = some m → (s.session c).rawRequest = some m)
    (hearly : thread.early = true → (s.threads n).early = true) : Onward s s' where
  callbacks := h.callbacks
  requests := h.requests
  given := h.given
  rawRequest d m hm := by
    by_cases hd : d = c
    · subst hd
      exact hraw m (h.session_self ▸ hm)
    · rwa [h.session_of_ne hd] at hm
  early m hm := by
    by_cases hmn : m = n
    · subst hmn
      exact hearly (h.threads_self ▸ hm)
    · rwa [h.threads_of_ne hmn] at hm
  unborn m hm := by
    have hmn : m ≠ n := fun hmn => hn (hmn ▸ hm)
    rwa [h.threads_of_ne hmn]

theorem right {answer : NiAnswer} (ha : s.Right answer) : s'.Right answer :=
  ha.mono (fun _ _ => by simp [h.requests]) (by simp [h.given])

theorem justified {m : ℕ} {resp : GnssNiResponse} (hj : s.Justified m resp) : s'.Justified m resp := by
  simpa [Justified, h.requests, h.given, h.overruled] using hj

theorem requestsInv (hi : s.RequestsInv) (hn : n < s.requests.length) (ht : thread ≠ .unborn) :
    s'.RequestsInv where
  ids := h.requests ▸ hi.ids
  counter := by rw [h.reqIDCounter, h.task, h.requests]; exact hi.counter
  later m hm := by
    rw [h.requests] at hm
    rw [h.threads_of_ne (by omega)]
    exact hi.later m hm
  unborn m hm hu := by
    have hmn : m ≠ n := by
      rintro rfl
      exact ht (h.threads_self ▸ hu)
    rw [h.task]
    exact hi.unborn m (h.requests ▸ hm) (h.threads_of_ne hmn ▸ hu)

/-- The sessions of the other class. -/
theorem sessionInv_of_ne {d : NiClass} {req : NiRequest} (hi : s.SessionInv d)
    (hn : s.requests[n]? = some req) (hc : req.niClass = c) (hd : d ≠ c) : s'.SessionInv d := by
  refine hi.transfer (h.session_of_ne hd) (by simp [h.requests]) (fun _ _ => h.justified) ?_
  intro m req' hm hc'
  have hmn : m ≠ n := by
    rintro rfl
    obtain rfl : req = req' := Option.some.inj (hn.symm.trans hm)
    exact hd (hc'.symm.trans hc)
  exact ⟨h.threads_of_ne hmn, by rw [h.task]; exact id, by rw [h.task]; exact id⟩

/-- The session when its thread stays in it, or has left it before. -/
theorem sessionInv_stay {req : NiRequest} (hi : s.SessionInv c) (hn : s.requests[n]? = some req)
    (hraw : session.rawRequest = (s.session c).rawRequest)
    (hrecv : session.respRecvd = (s.session c).respRecvd) (hresp : session.resp = (s.session c).resp)
    (htime : session.respTimeLeft = (s.session c).respTimeLeft ∨ ¬ s.TimeStored c)
    (hid : session.reqID = (s.session c).reqID ∨ ¬ s.IDStored c)
    (hearly : thread.early = (s.threads n).early) (hnew : thread.isNew = false)
    (hwait : ∀ respTimeLeft, thread = .waiting respTimeLeft → respTimeLeft = req.respTime) :
    s'.SessionInv c := by
  have early_eq (m : ℕ) : (s'.threads m).early = (s.threads m).early := by
    by_cases hmn : m = n
    · rw [hmn, h.threads_self, hearly]
    · rw [h.threads_of_ne hmn]
  refine ⟨fun m => ?_, fun hr => ?_, fun m req' hm hc' hnew' hl => ?_,
    fun m req' respTimeLeft hm hc' hw => ?_, fun m req' hm hc' he hl => ?_⟩
  · rw [h.session_self, hraw, hi.held, h.requests, early_eq]
  · rw [h.session_self] at hr ⊢
    obtain ⟨m, hm, hj⟩ := hi.received (hrecv ▸ hr)
    exact ⟨m, hraw ▸ hm, hresp ▸ h.justified hj⟩
  · have hmn : m ≠ n := by
      rintro rfl
      simp [h.threads_self, hnew] at hnew'
    rw [h.requests] at hm
    rw [h.threads_of_ne hmn] at hnew'
    rw [h.task] at hl
    rw [h.session_self]
    rcases htime with htime | htime
    · rw [htime]
      exact hi.time m req' hm hc' hnew' hl
    · exact absurd ⟨m, req', hm, hc', hnew', hl⟩ htime
  · rw [h.requests] at hm
    by_cases hmn : m = n
    · subst hmn
      obtain rfl : req = req' := Option.some.inj (hn.symm.trans hm)
      exact hwait _ (h.threads_self ▸ hw)
    · exact hi.waiting m req' respTimeLeft hm hc' (h.threads_of_ne hmn ▸ hw)
  · rw [h.requests] at hm
    rw [early_eq] at he
    rw [h.task] at hl
    rw [h.session_self]
    rcases hid with hid | hid
    · rw [hid]
      exact hi.id m req' hm hc' he hl
    · exact absurd ⟨m, (hi.held m).2 ⟨req', hm, hc', he⟩, hl⟩ hid

/-- The session when its thread leaves it. -/
theorem sessionInv_leave (hi : s.SessionInv c) (hn : (s.session c).rawRequest = some n)
    (hraw : session.rawRequest = none) (hrecv : session.respRecvd = false)
    (hearly : thread.early = false) :
    s'.SessionInv c := by
  -- no other thread is in the session
  have ne_of_early {m : ℕ} (he : (s'.threads m).early = true) : m ≠ n := by
    rintro rfl
    simp [h.threads_self, hearly] at he
  have eq_of_held {m : ℕ} {req : NiRequest} (hm : s.requests[m]? = some req) (hc : req.niClass = c)
      (he : (s.threads m).early = true) : m = n :=
    Option.some.inj (((hi.held m).2 ⟨req, hm, hc, he⟩).symm.trans hn)
  have not_early {m : ℕ} {req : NiRequest} (hm : s'.requests[m]? = some req) (hc : req.niClass = c) :
      (s'.threads m).early ≠ true := by
    intro he
    have hmn := ne_of_early he
    rw [h.requests] at hm
    rw [h.threads_of_ne hmn] at he
    exact hmn (eq_of_held hm hc he)
  refine ⟨fun m => ?_, fun hr => ?_, fun m req hm hc hnew _ => ?_,
    fun m req respTimeLeft hm hc hw => ?_, fun m req hm hc he _ => ?_⟩
  · simp only [h.session_self, hraw, reduceCtorEq, false_iff]
    rintro ⟨req, hm, hc, he⟩
    exact not_early hm hc he
  · simp [h.session_self, hrecv] at hr
  · exact absurd (NiThread.early_of_isNew hnew) (not_early hm hc)
  · exact absurd (by rw [hw, NiThread.early]) (not_early hm hc)
  · exact absurd he (not_early hm hc)

/-- What becomes of the requests when a thread goes on: it makes up for each outcome that it does not
owe any more. -/
theorem outcomesInv (hi : s.OutcomesInv)
    (howed : ∀ answer, thread.owed = some answer → answer.thread = n ∧ s.Right answer)
    (hqueued : ∀ answer ∈ s'.queued, s.Right answer)
    (hdiscarded : ∀ m ∈ s'.discarded, m ∈ s.discarded ∨
      m ∈ s.overruled ∧ ∃ req, s.requests[m]? = some req ∧ req.niClass = .other)
    (hne : ∀ m ≠ n, s'.queued.countP (·.rawRequest = m) = s.queued.countP (·.rawRequest = m) ∧
      s'.discarded.count m = s.discarded.count m)
    (hself : thread.debt + s'.queued.countP (·.rawRequest = n) + s'.discarded.count n =
      (s.threads n).debt + s.queued.countP (·.rawRequest = n) + s.discarded.count n) :
    s'.OutcomesInv where
  owed m answer hm := by
    by_cases hmn : m = n
    · subst hmn
      exact (howed answer (h.threads_self ▸ hm)).imp_right h.right
    · exact (hi.owed m answer (h.threads_of_ne hmn ▸ hm)).imp_right h.right
  queued answer ha := h.right (hqueued answer ha)
  sent answer ha := h.right (hi.sent answer (h.sent ▸ ha))
  one m hm := by
    have hone := hi.one m (h.requests ▸ hm)
    simp only [outcomes, GnssAdapterNi.debt, h.sent] at hone ⊢
    by_cases hmn : m = n
    · subst hmn
      rw [h.threads_self]
      omega
    · rw [h.threads_of_ne hmn, (hne m hmn).1, (hne m hmn).2]
      exact hone
  discarded m hm := by
    rw [h.requests, h.overruled]
    rcases hdiscarded m hm with hm | hm
    · exact hi.discarded m hm
    · exact hm
  told := by rw [h.requests, h.notified]; exact hi.told

end ThreadStep

/-- The thread of a request that it has not left goes out of the session with what the request is
answered with. -/
theorem leave_step {n : ℕ} {c : NiClass} (hraw : (s.session c).rawRequest = some n)
    (resp : GnssNiResponse) (expired : Option (BitVec 32)) :
    ThreadStep s (s.leave n c resp expired) n c
      { s.session c with respRecvd := false, rawRequest := none, resp := resp }
      (.resettingTime (if resp = .IGNORE then none else some ⟨n, n, resp, expired⟩)) ∧
    (s.leave n c resp expired).queued = s.queued ∧
    (s.leave n c resp expired).discarded = s.discarded ++ if resp = .IGNORE then [n] else [] := by
  unfold leave
  rw [hraw]
  by_cases hr : resp = .IGNORE
  · simp only [hr, ne_eq, not_true_eq_false, if_false, if_true]
    exact ⟨by constructor <;> rfl, rfl, trivial⟩
  · simp only [ne_eq, hr, not_false_eq_true, if_true, if_false, List.append_nil]
    exact ⟨by constructor <;> rfl, rfl, rfl⟩

theorem Inv.sessions_of_thread {s' : GnssAdapterNi} {n : ℕ} {req : NiRequest} {session : NiSession}
    {thread : NiThread} (hi : s.Inv) (hn : s.requests[n]? = some req)
    (h : ThreadStep s s' n req.niClass session thread) (hc : s'.SessionInv req.niClass) (c : NiClass) :
    s'.SessionInv c := by
  by_cases hd : c = req.niClass
  · exact hd ▸ hc
  · exact h.sessionInv_of_ne (hi.sessions c) hn rfl hd

theorem Inv.leave {n : ℕ} {req : NiRequest} (hi : s.Inv) (hn : s.requests[n]? = some req)
    (hborn : s.threads n ≠ .unborn) (hearly : (s.threads n).early = true) {resp : GnssNiResponse}
    {expired : Option (BitVec 32)}
    (hresp : if resp = .IGNORE then n ∈ s.overruled ∧ req.niClass = .other
      else s.Right ⟨n, n, resp, expired⟩) : (s.leave n req.niClass resp expired).Inv := by
  have hraw : (s.session req.niClass).rawRequest = some n :=
    ((hi.sessions _).held n).2 ⟨req, hn, rfl, hearly⟩
  obtain ⟨h, hqueued, hdiscarded⟩ := leave_step hraw resp expired
  have hlt : n < s.requests.length := (List.getElem?_eq_some_iff.1 hn).1
  have hdebt : (s.threads n).debt = 1 := by
    cases ht : s.threads n <;> simp_all [NiThread.debt, NiThread.early, NiThread.owed]
  refine ⟨h.requestsInv hi.requests hlt (by simp), ?_, ?_, ?_⟩
  · exact hi.sessions_of_thread hn h (h.sessionInv_leave (hi.sessions _) hraw rfl rfl rfl)
  · by_cases hr : resp = .IGNORE
    · subst hr
      simp only [if_true] at h hresp hdiscarded
      refine h.outcomesInv hi.outcomes (by simp [NiThread.owed]) ?_ ?_ ?_ ?_
      · rw [hqueued]
        exact hi.outcomes.queued
      · intro m hm
        rw [hdiscarded, List.mem_append, List.mem_singleton] at hm
        rcases hm with hm | rfl
        · exact .inl hm
        · exact .inr ⟨hresp.1, req, hn, hresp.2⟩
      · intro m hm
        rw [hqueued, hdiscarded]
        simp [hm.symm]
      · rw [hqueued, hdiscarded, hdebt]
        simp [NiThread.debt, NiThread.early, NiThread.owed]
        omega
    · simp only [hr, if_false, List.append_nil] at h hresp hdiscarded
      refine h.outcomesInv hi.outcomes ?_ ?_ ?_ ?_ ?_
      · intro answer ha
        obtain rfl := Option.some.inj ha
        exact ⟨rfl, hresp⟩
      · rw [hqueued]
        exact hi.outcomes.queued
      · intro m hm
        exact .inl (hdiscarded ▸ hm)
      · intro m _
        rw [hqueued, hdiscarded]
        exact ⟨rfl, rfl⟩
      · rw [hqueued, hdiscarded, hdebt]
        simp [NiThread.debt, NiThread.early, NiThread.owed]
  · rw [h.task]
    exact (h.onward hborn (by simp) (by simp [NiThread.early])).taskInv hi.task

/-- The invariant when a thread does not leave the session, and hands nothing over. -/
theorem Inv.stay {s' : GnssAdapterNi} {n : ℕ} {req : NiRequest} {session : NiSession}
    {thread : NiThread} (hi : s.Inv) (hn : s.requests[n]? = some req)
    (h : ThreadStep s s' n req.niClass session thread) (hborn : s.threads n ≠ .unborn)
    (hraw : session.rawRequest = (s.session req.niClass).rawRequest)
    (hrecv : session.respRecvd = (s.session req.niClass).respRecvd)
    (hresp : session.resp = (s.session req.niClass).resp)
    (htime : session.respTimeLeft = (s.session req.niClass).respTimeLeft ∨ ¬ s.TimeStored req.niClass)
    (hid : session.reqID = (s.session req.niClass).reqID ∨ ¬ s.IDStored req.niClass)
    (hearly : thread.early = (s.threads n).early) (hnew : thread.isNew = false)
    (hwait : ∀ respTimeLeft, thread = .waiting respTimeLeft → respTimeLeft = req.respTime)
    (houtcomes : s'.OutcomesInv) : s'.Inv where
  requests := by
    refine h.requestsInv hi.requests (List.getElem?_eq_some_iff.1 hn).1 ?_
    rintro rfl
    simp [NiThread.isNew] at hnew
  sessions := hi.sessions_of_thread hn h
    (h.sessionInv_stay (hi.sessions _) hn hraw hrecv hresp htime hid hearly hnew hwait)
  outcomes := houtcomes
  task := by
    rw [h.task]
    exact (h.onward hborn (fun _ hm => hraw ▸ hm) (fun he => hearly ▸ he)).taskInv hi.task

/-- What becomes of the requests when a thread hands nothing over. -/
theorem ThreadStep.outcomesInv_of_owed {s' : GnssAdapterNi} {n : ℕ} {c : NiClass} {session : NiSession}
    {thread : NiThread} (h : ThreadStep s s' n c session thread) (hi : s.OutcomesInv)
    (hqueued : s'.queued = s.queued) (hdiscarded : s'.discarded = s.discarded)
    (hearly : thread.early = (s.threads n).early) (howed : thread.owed = (s.threads n).owed) :
    s'.OutcomesInv := by
  refine h.outcomesInv hi (fun answer ha => hi.owed n answer (howed ▸ ha)) (hqueued ▸ hi.queued)
    (fun m hm => .inl (hdiscarded ▸ hm)) (fun m _ => ?_) ?_
  · rw [hqueued, hdiscarded]
    exact ⟨rfl, rfl⟩
  · rw [hqueued, hdiscarded, NiThread.debt, NiThread.debt, hearly, howed]

/-- The response that the session of a request has received is one that it may be answered with. -/
theorem Inv.received {n : ℕ} {req : NiRequest} (hi : s.Inv) (hn : s.requests[n]? = some req)
    (hearly : (s.threads n).early = true) (hrecv : (s.session req.niClass).respRecvd = true) :
    if (s.session req.niClass).resp = .IGNORE then n ∈ s.overruled ∧ req.niClass = .other
      else s.Right ⟨n, n, (s.session req.niClass).resp, none⟩ := by
  obtain ⟨m, hm, hj⟩ := (hi.sessions _).received hrecv
  obtain rfl : m = n :=
    Option.some.inj (hm.symm.trans (((hi.sessions _).held n).2 ⟨req, hn, rfl, hearly⟩))
  obtain ⟨req', hn', hj⟩ := hj
  obtain rfl : req = req' := Option.some.inj (hn.symm.trans hn')
  split_ifs at hj ⊢ with hr
  · exact hj
  · exact ⟨req, hn, rfl, hj⟩

/-- A thread that has been created finds the time of its request. -/
theorem Inv.time {n : ℕ} {req : NiRequest} (hi : s.Inv) (hn : s.requests[n]? = some req)
    (ht : s.threads n = .starting) : (s.session req.niClass).respTimeLeft = req.respTime := by
  refine (hi.sessions _).time n req hn rfl (by simp [ht, NiThread.isNew]) fun hl => ?_
  have hunborn : s.threads n = .unborn := by
    have htask := hi.task
    revert htask
    cases hs : s.task <;> simp_all [NiTask.lacksTime, TaskInv, Making]
  simp [hunborn] at ht

theorem Inv.thread {s' : GnssAdapterNi} {n : ℕ} {timedOut : Bool} (hi : s.Inv)
    (hk : ∀ req ∈ s.requests[n]?, s.ThreadKeeps req.niClass (s.threads n))
    (h : s.step (.thread n timedOut) = some s') : s'.Inv := by
  obtain ⟨req, hn, h⟩ := Option.bind_eq_some_iff.1 h
  have hk := hk req hn
  unfold niThreadProc at h
  cases ht : s.threads n with
  | unborn => simp [ht] at h
  | ended => simp [ht] at h
  | starting =>
    have hearly : (s.threads n).early = true := by rw [ht, NiThread.early]
    rw [ht] at h
    dsimp only at h
    split_ifs at h with hrecv
    · obtain rfl := Option.some.inj h
      exact hi.leave hn (by simp [ht]) hearly (hi.received hn hearly hrecv)
    · obtain rfl := Option.some.inj h
      have hs : ThreadStep s (s.setThread n (.waiting (s.session req.niClass).respTimeLeft)) n req.niClass
          (s.session req.niClass) (.waiting (s.session req.niClass).respTimeLeft) := by
        constructor <;> first | rfl | exact (Function.update_eq_self ..).symm
      refine hi.stay hn hs (by simp [ht]) rfl rfl rfl (.inl rfl) (.inl rfl) (by simp [ht, NiThread.early])
        rfl ?_ (hs.outcomesInv_of_owed hi.outcomes rfl rfl (by simp [ht, NiThread.early])
          (by simp [ht, NiThread.owed]))
      intro respTimeLeft hw
      exact (NiThread.waiting.inj hw).symm.trans (hi.time hn ht)
  | waiting respTimeLeft =>
    have hearly : (s.threads n).early = true := by rw [ht, NiThread.early]
    rw [ht] at h
    dsimp only at h
    split_ifs at h with htime hrecv
    · obtain rfl := Option.some.inj h
      refine hi.leave hn (by simp [ht]) hearly ?_
      simp only [reduceCtorEq, if_false]
      exact ⟨req, hn, rfl, rfl, (hi.sessions _).waiting n req respTimeLeft hn rfl ht⟩
    · obtain rfl := Option.some.inj h
      exact hi.leave hn (by simp [ht]) hearly (hi.received hn hearly hrecv)
    · obtain rfl := Option.some.inj h
      exact hi
  | resettingTime answer =>
    rw [ht] at h hk
    obtain rfl := Option.some.inj h
    refine hi.stay hn (threadStep_setThread ..) (by simp [ht]) rfl rfl rfl (.inr hk) (.inl rfl)
      (by simp [ht, NiThread.early]) rfl (by simp) ?_
    exact (threadStep_setThread ..).outcomesInv_of_owed hi.outcomes rfl rfl (by simp [ht, NiThread.early])
      (by simp [ht, NiThread.owed])
  | resettingID answer =>
    rw [ht] at h hk
    obtain rfl := Option.some.inj h
    refine hi.stay hn (threadStep_setThread ..) (by simp [ht]) rfl rfl rfl (.inl rfl) (.inr hk)
      (by simp [ht, NiThread.early]) rfl (by simp) ?_
    exact (threadStep_setThread ..).outcomesInv_of_owed hi.outcomes rfl rfl (by simp [ht, NiThread.early])
      (by simp [ht, NiThread.owed])
  | sending answer =>
    rw [ht] at h
    obtain rfl := Option.some.inj h
    have hs : ThreadStep s { s.setThread n .ended with queued := s.queued ++ answer.toList } n req.niClass
        (s.session req.niClass) .ended := by
      constructor <;> first | rfl | exact (Function.update_eq_self ..).symm
    refine hi.stay hn hs (by simp [ht]) rfl rfl rfl (.inl rfl) (.inl rfl) (by simp [ht, NiThread.early])
      rfl (by simp) ?_
    have howed (a : NiAnswer) (ha : answer = some a) : a.thread = n ∧ s.Right a :=
      hi.outcomes.owed n a (by rw [ht, NiThread.owed, ha])
    -- what is handed over is for the request of the thread
    have hcount (m : ℕ) : answer.toList.countP (·.rawRequest = m) = if m = n then answer.toList.length else 0 := by
      cases ha : answer with
      | none => simp
      | some a =>
        obtain ⟨hthread, req', -, hraw, -⟩ := howed a ha
        simp [hraw, hthread, List.countP_singleton, eq_comm]
    refine hs.outcomesInv hi.outcomes (by simp [NiThread.owed]) ?_ (fun m hm => .inl hm) ?_ ?_
    · intro a ha
      rcases List.mem_append.1 ha with ha | ha
      · exact hi.outcomes.queued a ha
      · exact (howed a (Option.mem_toList.1 ha)).2
    · intro m hm
      simp [List.countP_append, hcount, hm, setThread]
    · simp [List.countP_append, hcount, ht, setThread, NiThread.debt, NiThread.early, NiThread.owed]
      omega

/-! ### Steps of the message thread -/

/-- A session keeps its invariant when its request stays and the threads stay where they are. -/
theorem SessionInv.set {s' : GnssAdapterNi} {c : NiClass} (h : s.SessionInv c)
    (hthreads : s'.threads = s.threads) (hrequests : s'.requests = s.requests)
    (hraw : (s'.session c).rawRequest = (s.session c).rawRequest)
    (hrecv : (s'.session c).respRecvd →
      ∃ n, (s.session c).rawRequest = some n ∧ s'.Justified n (s'.session c).resp)
    (htime : ∀ (n : ℕ) (req : NiRequest), s.requests[n]? = some req → req.niClass = c →
      (s.threads n).isNew → s'.task.lacksTime ≠ some n → (s'.session c).respTimeLeft = req.respTime)
    (hid : ∀ (n : ℕ) (req : NiRequest), s.requests[n]? = some req → req.niClass = c →
      (s.threads n).early → s'.task.lacksID ≠ some n → (s'.session c).reqID = req.id) :
    s'.SessionInv c where
  held n := by rw [hraw, h.held, hrequests, hthreads]
  received hr := by rw [hraw]; exact hrecv hr
  time := by rw [hrequests, hthreads]; exact htime
  waiting := by rw [hrequests, hthreads]; exact h.waiting
  id := by rw [hrequests, hthreads]; exact hid

theorem OutcomesInv.frame {s' : GnssAdapterNi} (h : s.OutcomesInv) (hthreads : s'.threads = s.threads)
    (hrequests : s'.requests = s.requests) (hgiven : s.given ⊆ s'.given)
    (hoverruled : s.overruled ⊆ s'.overruled) (hqueued : s'.queued = s.queued) (hsent : s'.sent = s.sent)
    (hdiscarded : s'.discarded = s.discarded) (hnotified : s'.notified = s.notified) :
    s'.OutcomesInv := by
  have right {answer : NiAnswer} (ha : s.Right answer) : s'.Right answer :=
    ha.mono (fun _ _ => by simp [hrequests]) hgiven
  refine ⟨?_, ?_, ?_, ?_, ?_, ?_⟩
  · rw [hthreads]
    exact fun n answer ha => (h.owed n answer ha).imp_right right
  · rw [hqueued]
    exact fun answer ha => right (h.queued answer ha)
  · rw [hsent]
    exact fun answer ha => right (h.sent answer ha)
  · simpa [outcomes, debt, hrequests, hthreads, hqueued, hsent, hdiscarded] using h.one
  · rw [hdiscarded, hrequests]
    exact fun n hn => (h.discarded n hn).imp_left fun hn => hoverruled hn
  · rw [hnotified, hrequests]
    exact h.told

/-- A step that writes no session and no thread. -/
theorem Inv.frame {s' : GnssAdapterNi} (hi : s.Inv) (hsession : s'.session = s.session)
    (hcounter : s'.reqIDCounter = s.reqIDCounter) (hthreads : s'.threads = s.threads)
    (hrequests : s'.requests = s.requests) (hgiven : s.given ⊆ s'.given)
    (hoverruled : s'.overruled = s.overruled) (hcreates : s'.task.creates = s.task.creates)
    (htime : s'.task.lacksTime = s.task.lacksTime) (hid : s'.task.lacksID = s.task.lacksID)
    (houtcomes : s'.OutcomesInv) (htask : s'.TaskInv s'.task) : s'.Inv where
  requests := by
    obtain ⟨ids, counter, later, unborn⟩ := hi.requests
    constructor
    · rwa [hrequests]
    · rwa [hcounter, hid, hrequests]
    · rwa [hrequests, hthreads]
    · rwa [hrequests, hthreads, hcreates]
  sessions c := by
    refine (hi.sessions c).transfer (by rw [hsession]) (by simp [hrequests]) ?_ ?_
    · rintro n resp ⟨req, hn, hj⟩
      refine ⟨req, hrequests ▸ hn, ?_⟩
      split_ifs at hj ⊢
      · rwa [hoverruled]
      · exact hgiven hj
    · intro n _ _ _
      rw [hthreads, htime, hid]
      exact ⟨rfl, fun h => h, fun h => h⟩
  outcomes := houtcomes
  task := htask

theorem onward_goTo (task : NiTask) : Onward s (s.goTo task) := by
  constructor <;> intros <;> first | rfl | assumption

/-- A statement that only reads. -/
theorem Inv.reads {task : NiTask} (hi : s.Inv) (hcreates : task.creates = s.task.creates)
    (htime : task.lacksTime = s.task.lacksTime) (hid : task.lacksID = s.task.lacksID)
    (htask : s.TaskInv task) : (s.goTo task).Inv :=
  hi.frame rfl rfl rfl rfl (List.Subset.refl _) rfl hcreates htime hid
    (hi.outcomes.frame rfl rfl (List.Subset.refl _) (List.Subset.refl _) rfl rfl rfl rfl)
    ((onward_goTo task).taskInv htask)

section Find

variable {c : NiClass} {r : ClientResponse} (hi : s.Inv)
include hi

/-- The id in a session is that of its request. -/
theorem Inv.isMatching (hl : s.task.lacksID = none) (hid : r.id = (s.session c).reqID) : s.Matches c r := by
  intro n req hraw hn
  obtain ⟨req', hn', hc, he⟩ := ((hi.sessions c).held n).1 hraw
  obtain rfl : req = req' := Option.some.inj (hn.symm.trans hn')
  exact ((hi.sessions c).id n req hn hc he (by simp [hl])).symm.trans hid.symm

theorem Inv.isPassed_of_ne (hl : s.task.lacksID = none) (hid : r.id ≠ (s.session c).reqID) :
    s.Passed c r := by
  intro n req hn hc hr
  by_contra he
  have hid' := (hi.sessions c).id n req hn hc (by simpa using he) (by simp [hl])
  exact hid (hr.symm.trans hid'.symm)

theorem Inv.isPassed_of_none (hraw : (s.session c).rawRequest = none) : s.Passed c r := by
  intro n req hn hc _
  by_contra he
  have hraw' := ((hi.sessions c).held n).2 ⟨req, hn, hc, by simpa using he⟩
  simp [hraw] at hraw'

end Find

/-! The request that is being stored. -/

section Making

variable {n : ℕ} {notify : NiNotification} (hi : s.Inv) (hm : s.Making n notify)
include hi hm

/-- It is the one that the session has been left to. -/
theorem Inv.eq_of_making {m : ℕ} {req : NiRequest} (hreq : s.requests[m]? = some req)
    (hc : req.niClass = notify.niClass) (he : (s.threads m).early = true) : m = n := by
  obtain ⟨-, hunborn, req', hn, hc', -⟩ := hm
  have hraw := ((hi.sessions notify.niClass).held m).2 ⟨req, hreq, hc, he⟩
  have hraw' := ((hi.sessions notify.niClass).held n).2 ⟨req', hn, hc', by rw [hunborn, NiThread.early]⟩
  exact Option.some.inj (hraw.symm.trans hraw')

omit hi in
theorem ne_of_making {c : NiClass} (hc : c ≠ notify.niClass) {m : ℕ} {req : NiRequest}
    (hreq : s.requests[m]? = some req) (hc' : req.niClass = c) : m ≠ n := by
  rintro rfl
  obtain ⟨-, -, req', hn, hc'', -⟩ := hm
  obtain rfl : req = req' := Option.some.inj (hreq.symm.trans hn)
  exact hc (hc'.symm.trans hc'')

theorem Inv.storeID (ht : s.task = .storeID n notify) {created : Bool} {s' : GnssAdapterNi}
    (h : s.taskStep created = some s') : s'.Inv := by
  simp only [taskStep, ht] at h
  obtain rfl := Option.some.inj h
  obtain ⟨hlast, hunborn, req, hn, hc, -⟩ := id hm
  -- the counter goes on to the id of the request
  have hid := hi.requests.ids n req hn
  have hnext : (s.reqIDCounter + 1).toNat = n + 1 := by
    have hcounter := hi.requests.counter
    have hlt := req.id.isLt
    simp only [ht, NiTask.lacksID, Option.toList_some, List.length_singleton] at hcounter
    rw [toNat_add_one (by omega)]
    omega
  have hreqID : s.reqIDCounter + 1 = req.id := BitVec.eq_of_toNat_eq (hnext.trans hid.symm)
  refine ⟨⟨hi.requests.ids, ?_, hi.requests.later, ?_⟩, fun c => ?_, ?_, hm⟩
  · exact hnext.trans hlast
  · have hunborn' := hi.requests.unborn
    rwa [ht] at hunborn'
  · by_cases hd : c = notify.niClass
    · subst hd
      refine (hi.sessions _).set rfl rfl ?_ ?_ ?_ ?_
      · simp [setSession, goTo]
      · simp only [setSession, goTo, Function.update_self]
        exact (hi.sessions _).received
      · simpa [setSession, goTo, ht, NiTask.lacksTime] using (hi.sessions _).time
      · intro m req' hm' hc' he _
        obtain rfl := hi.eq_of_making hm hm' hc' he
        obtain rfl : req = req' := Option.some.inj (hn.symm.trans hm')
        simpa [setSession, goTo] using hreqID
    · refine (hi.sessions c).transfer (by simp [setSession, goTo, hd]) (fun _ _ _ => Iff.rfl)
        (fun _ _ hj => hj) fun m req' hm' hc' => ⟨rfl, ?_, fun _ => ?_⟩
      · rw [ht]
        exact fun hl => hl
      · rw [ht]
        simpa [NiTask.lacksID] using (ne_of_making hm hd hm' hc').symm
  · exact hi.outcomes.frame rfl rfl (List.Subset.refl _) (List.Subset.refl _) rfl rfl rfl rfl

theorem Inv.storeTime {sessionId : BitVec 32} (hid : s.HasID n sessionId)
    (ht : s.task = .storeTime n notify sessionId) {created : Bool} {s' : GnssAdapterNi}
    (h : s.taskStep created = some s') : s'.Inv := by
  simp only [taskStep, ht] at h
  obtain rfl := Option.some.inj h
  obtain ⟨hlast, hunborn, req, hn, hc, htime⟩ := id hm
  refine ⟨⟨hi.requests.ids, ?_, hi.requests.later, ?_⟩, fun c => ?_, ?_, hlast, hunborn, hid⟩
  · have hcounter := hi.requests.counter
    rwa [ht] at hcounter
  · have hunborn' := hi.requests.unborn
    rwa [ht] at hunborn'
  · by_cases hd : c = notify.niClass
    · subst hd
      refine (hi.sessions _).set rfl rfl ?_ ?_ ?_ ?_
      · simp [setSession, goTo]
      · simp only [setSession, goTo, Function.update_self]
        exact (hi.sessions _).received
      · intro m req' hm' hc' hnew _
        obtain rfl := hi.eq_of_making hm hm' hc' (NiThread.early_of_isNew hnew)
        obtain rfl : req = req' := Option.some.inj (hn.symm.trans hm')
        simpa [setSession, goTo] using htime.symm
      · simpa [setSession, goTo, ht, NiTask.lacksID] using (hi.sessions _).id
    · refine (hi.sessions c).transfer (by simp [setSession, goTo, hd]) (fun _ _ _ => Iff.rfl)
        (fun _ _ hj => hj) fun m req' hm' hc' => ⟨rfl, fun _ => ?_, ?_⟩
      · rw [ht]
        simpa [NiTask.lacksTime] using (ne_of_making hm hd hm' hc').symm
      · rw [ht]
        exact fun hl => hl
  · exact hi.outcomes.frame rfl rfl (List.Subset.refl _) (List.Subset.refl _) rfl rfl rfl rfl

end Making

theorem Inv.create {n : ℕ} {sessionId : BitVec 32} (hi : s.Inv) (ht : s.task = .create n sessionId)
    {s' : GnssAdapterNi} (h : s.taskStep true = some s') : s'.Inv := by
  simp only [taskStep, ht, if_true] at h
  obtain rfl := Option.some.inj h
  obtain ⟨hlast, hunborn, hid⟩ : s.TaskInv (.create n sessionId) := ht ▸ hi.task
  have threads_eq (m : ℕ) (hm : m ≠ n) :
      ((s.setThread n .starting).goTo (.callback n sessionId)).threads m = s.threads m := by
    simp [setThread, goTo, hm]
  have threads_self : ((s.setThread n .starting).goTo (.callback n sessionId)).threads n = .starting := by
    simp [setThread, goTo]
  have early_eq (m : ℕ) : (((s.setThread n .starting).goTo (.callback n sessionId)).threads m).early =
      (s.threads m).early := by
    by_cases hm : m = n
    · rw [hm, threads_self, hunborn, NiThread.early, NiThread.early]
    · rw [threads_eq m hm]
  have owed_eq (m : ℕ) : (((s.setThread n .starting).goTo (.callback n sessionId)).threads m).owed =
      (s.threads m).owed := by
    by_cases hm : m = n
    · rw [hm, threads_self, hunborn, NiThread.owed, NiThread.owed]
    · rw [threads_eq m hm]
  refine ⟨⟨hi.requests.ids, ?_, fun m hm => ?_, fun m hm hu => ?_⟩, fun c => ⟨fun m => ?_,
    (hi.sessions c).received, fun m req hm hc hnew _ => ?_, fun m req respTimeLeft hm hc hw => ?_,
    fun m req hm hc he _ => ?_⟩, ?_, hid⟩
  · have hcounter := hi.requests.counter
    rwa [ht] at hcounter
  · have hm' : s.requests.length ≤ m := hm
    rw [threads_eq m (by omega)]
    exact hi.requests.later m hm'
  · by_cases hmn : m = n
    · rw [hmn, threads_self] at hu
      cases hu
    · rw [threads_eq m hmn] at hu
      have hcreates := hi.requests.unborn m hm hu
      rw [ht, NiTask.creates] at hcreates
      exact absurd (Option.some.inj hcreates).symm hmn
  · rw [early_eq]
    exact (hi.sessions c).held m
  · refine (hi.sessions c).time m req hm hc ?_ (by simp [ht, NiTask.lacksTime])
    by_cases hmn : m = n
    · rw [hmn, hunborn, NiThread.isNew]
    · rwa [threads_eq m hmn] at hnew
  · by_cases hmn : m = n
    · rw [hmn, threads_self] at hw
      cases hw
    · exact (hi.sessions c).waiting m req respTimeLeft hm hc (threads_eq m hmn ▸ hw)
  · exact (hi.sessions c).id m req hm hc (early_eq m ▸ he) (by simp [ht, NiTask.lacksID])
  · obtain ⟨owed, queued, sent, one, discarded, told⟩ := hi.outcomes
    refine ⟨fun m answer ha => owed m answer (owed_eq m ▸ ha), queued, sent, fun m hm => ?_, discarded, told⟩
    rw [← one m hm]
    simp only [debt, NiThread.debt, early_eq, owed_eq]
    rfl

/-- A response is stored for a request that is still waiting. -/
theorem Inv.respond {c : NiClass} {n : ℕ} {resp : GnssNiResponse} (hi : s.Inv) (overruled : List ℕ)
    (task : NiTask) (hs : s.task.creates = none) (hcreates : task.creates = none)
    (hraw : (s.session c).rawRequest = some n) (hoverruled : s.overruled ⊆ overruled)
    (hj : ∃ req, s.requests[n]? = some req ∧
      if resp = .IGNORE then n ∈ overruled ∧ req.niClass = .other else (req.id, resp) ∈ s.given)
    (htask : s.TaskInv task) :
    Inv { (s.setSession c { s.session c with
        resp := resp
        respRecvd := true }).goTo task with overruled := overruled } := by
  obtain ⟨hstime, hsid⟩ := NiTask.lacks_of_creates hs
  obtain ⟨htime, hid⟩ := NiTask.lacks_of_creates hcreates
  refine ⟨⟨hi.requests.ids, ?_, hi.requests.later, ?_⟩, fun d => ?_, ?_, ?_⟩
  · simpa [setSession, goTo, hid, hsid] using hi.requests.counter
  · simpa [setSession, goTo, hcreates, hs] using hi.requests.unborn
  · by_cases hd : d = c
    · subst hd
      refine (hi.sessions d).set rfl rfl ?_ (fun _ => ⟨n, hraw, ?_⟩) ?_ ?_
      · simp [setSession, goTo]
      · simp only [setSession, goTo, Function.update_self]
        exact hj
      · simpa [setSession, goTo, htime, hstime] using (hi.sessions d).time
      · simpa [setSession, goTo, hid, hsid] using (hi.sessions d).id
    · refine (hi.sessions d).transfer (by simp [setSession, goTo, hd]) (fun _ _ _ => Iff.rfl) ?_ ?_
      · rintro m resp' ⟨req, hreq, hm⟩
        refine ⟨req, hreq, ?_⟩
        split_ifs at hm ⊢
        · exact hm.imp_left fun hm => hoverruled hm
        · exact hm
      · simp [setSession, goTo, hstime, hsid]
  · exact hi.outcomes.frame rfl rfl (List.Subset.refl _) hoverruled rfl rfl rfl rfl
  · have honward : Onward s { (s.setSession c { s.session c with
        resp := resp
        respRecvd := true }).goTo task with overruled := overruled } := by
      refine ⟨rfl, rfl, rfl, fun d m hm => ?_, fun m hm => hm, fun m hm => hm⟩
      by_cases hd : d = c
      · subst hd
        simpa [setSession, goTo] using hm
      · simpa [setSession, goTo, hd] using hm
    exact honward.taskInv htask

theorem Inv.store {c : NiClass} {r : ClientResponse} (hi : s.Inv) (ht : s.task = .store c r)
    (hk : (s.session c).rawRequest ≠ none) {created : Bool} {s' : GnssAdapterNi}
    (h : s.taskStep created = some s') : s'.Inv := by
  simp only [taskStep, ht] at h
  obtain rfl := Option.some.inj h
  obtain ⟨⟨hgiven, hresp⟩, hmatches⟩ : s.TaskInv (.store c r) := ht ▸ hi.task
  obtain ⟨n, hraw⟩ := Option.ne_none_iff_exists'.1 hk
  obtain ⟨req, hn, -, -⟩ := ((hi.sessions c).held n).1 hraw
  refine hi.respond s.overruled (.report r true) (by rw [ht]; rfl) rfl hraw (List.Subset.refl _)
    ⟨req, hn, ?_⟩ trivial
  rw [if_neg hresp, hmatches n req hraw hn]
  exact hgiven

theorem Inv.ignore {next : Option ClientResponse} (hi : s.Inv) (ht : s.task = .ignore next)
    (hk : (s.session .other).rawRequest ≠ none) {created : Bool} {s' : GnssAdapterNi}
    (h : s.taskStep created = some s') : s'.Inv := by
  obtain ⟨n, hraw⟩ := Option.ne_none_iff_exists'.1 hk
  simp only [taskStep, ht] at h
  obtain rfl := Option.some.inj h
  obtain ⟨req, hn, hc, -⟩ := ((hi.sessions .other).held n).1 hraw
  refine hi.respond _ (afterDiscard next) (by rw [ht]; rfl) ?_ hraw (by simp) ⟨req, hn, by simp [hc, hraw]⟩ ?_
  · cases next <;> rfl
  · have htask := hi.task
    rw [ht] at htask
    cases next with
    | none => trivial
    | some r => exact htask

/-- Answers are for requests that have been accepted. -/
theorem Inv.outcomes_of_length_le {n : ℕ} (hi : s.Inv) (hn : s.requests.length ≤ n) :
    s.outcomes n = 0 ∧ s.debt n = 1 := by
  have hnone : s.requests[n]? = none := List.getElem?_eq_none hn
  have right {answer : NiAnswer} (ha : s.Right answer) : answer.rawRequest ≠ n := by
    rintro rfl
    obtain ⟨req, hreq, hraw, -⟩ := ha
    simp [← hraw, hnone] at hreq
  have hsent : s.sent.countP (·.rawRequest = n) = 0 :=
    List.countP_eq_zero.2 fun answer ha => by simpa using right (hi.outcomes.sent answer ha)
  have hqueued : s.queued.countP (·.rawRequest = n) = 0 :=
    List.countP_eq_zero.2 fun answer ha => by simpa using right (hi.outcomes.queued answer ha)
  have hdiscarded : s.discarded.count n = 0 := List.count_eq_zero.2 fun hd => by
    obtain ⟨-, req, hreq, -⟩ := hi.outcomes.discarded n hd
    simp [hnone] at hreq
  have hunborn := hi.requests.later n hn
  constructor
  · rw [GnssAdapterNi.outcomes, hsent, hdiscarded]
  · rw [debt, hqueued, hunborn]
    rfl

/-- What becomes of the requests when one is added. -/
theorem Inv.outcomes_concat {s' : GnssAdapterNi} {new : NiRequest} (hi : s.Inv)
    (hrequests : s'.requests = s.requests ++ [new]) (hthreads : s'.threads = s.threads)
    (hgiven : s'.given = s.given) (hoverruled : s'.overruled = s.overruled)
    (hqueued : s'.queued = s.queued) (hsent : s'.sent = s.sent)
    (hdiscarded : s'.discarded = s.discarded) (hnotified : s'.notified = s.notified) :
    s'.OutcomesInv := by
  have old {m : ℕ} {req : NiRequest} (hm : s.requests[m]? = some req) : s'.requests[m]? = some req := by
    rw [hrequests]
    exact getElem?_concat_iff.2 (.inl hm)
  have right {answer : NiAnswer} (ha : s.Right answer) : s'.Right answer :=
    ha.mono (fun _ _ => old) (by rw [hgiven]; exact List.Subset.refl _)
  obtain ⟨owed, queued, sent, one, discarded, told⟩ := hi.outcomes
  refine ⟨?_, ?_, ?_, fun m hm => ?_, ?_, ?_⟩
  · rw [hthreads]
    exact fun m answer ha => (owed m answer ha).imp_right right
  · rw [hqueued]
    exact fun answer ha => right (queued answer ha)
  · rw [hsent]
    exact fun answer ha => right (sent answer ha)
  · simp only [GnssAdapterNi.outcomes, debt, hthreads, hqueued, hsent, hdiscarded]
    rcases Nat.lt_succ_iff_lt_or_eq.1 (by simpa [hrequests] using hm) with hm | rfl
    · exact one m hm
    · obtain ⟨hout, hdebt⟩ := hi.outcomes_of_length_le (le_refl _)
      exact (congrArg₂ (· + ·) hout hdebt).trans (Nat.zero_add 1)
  · rw [hdiscarded, hoverruled]
    exact fun m hm => (discarded m hm).imp_right fun ⟨req, hreq, hc⟩ => ⟨req, old hreq, hc⟩
  · rw [hnotified]
    exact fun m id hm => (told m id hm).imp fun req hreq => hreq.imp_left old

theorem Inv.storeRaw {notify : NiNotification} (hi : s.Inv) (ht : s.task = .storeRaw notify)
    (hdata : notify.data = true) (hcounter : s.reqIDCounter ≠ BitVec.allOnes 32) {created : Bool}
    {s' : GnssAdapterNi} (h : s.taskStep created = some s') : s'.Inv := by
  simp only [taskStep, ht, hdata, if_true] at h
  obtain rfl := Option.some.inj h
  have hnone : (s.session notify.niClass).rawRequest = none := by
    have htask := hi.task
    rwa [ht] at htask
  have hlacks : s.task.lacksTime = none ∧ s.task.lacksID = none := by rw [ht]; exact ⟨rfl, rfl⟩
  have hlength : s.reqIDCounter.toNat = s.requests.length := by
    have hcounter := hi.requests.counter
    rwa [hlacks.2] at hcounter
  have hnext : (s.reqIDCounter + 1).toNat = s.requests.length + 1 := by
    rw [← hlength]
    refine toNat_add_one ?_
    have hlt := s.reqIDCounter.isLt
    have hne : s.reqIDCounter.toNat ≠ 2 ^ 32 - 1 := fun he =>
      hcounter (BitVec.eq_of_toNat_eq (he.trans (BitVec.toNat_allOnes ..).symm))
    omega
  have hunborn := hi.requests.later _ (le_refl _)
  -- no request before is in the session
  have not_early {m : ℕ} {req : NiRequest} (hm : s.requests[m]? = some req)
      (hc : req.niClass = notify.niClass) : (s.threads m).early ≠ true := fun he => by
    have hraw := ((hi.sessions _).held m).2 ⟨req, hm, hc, he⟩
    simp [hnone] at hraw
  have old {m : ℕ} {req : NiRequest} (hm : s.requests[m]? = some req) :
      (s.requests ++ [⟨notify.niClass, s.reqIDCounter + 1, notify.respTime⟩])[m]? = some req :=
    getElem?_concat_iff.2 (.inl hm)
  refine ⟨⟨?_, ?_, ?_, ?_⟩, fun c => ?_, ?_, ?_⟩
  · intro m req hm
    rcases getElem?_concat_iff.1 hm with hm | ⟨rfl, rfl⟩
    · exact hi.requests.ids m req hm
    · exact hnext
  · simpa [goTo, setSession, NiTask.lacksID] using hlength
  · intro m hm
    refine hi.requests.later m ?_
    simp at hm
    omega
  · intro m hm hu
    rcases Nat.lt_succ_iff_lt_or_eq.1 (by simpa using hm) with hm | rfl
    · have hcreates := hi.requests.unborn m hm hu
      simp [ht, NiTask.creates] at hcreates
    · rfl
  · by_cases hd : c = notify.niClass
    · subst hd
      refine ⟨fun m => ?_, fun hr => ?_, fun m req hm hc hn hl => ?_, fun m req respTimeLeft hm hc hw => ?_,
        fun m req hm hc he hl => ?_⟩
      · simp only [goTo, setSession, Function.update_self, Option.some.injEq]
        constructor
        · rintro rfl
          exact ⟨_, getElem?_concat_iff.2 (.inr ⟨rfl, rfl⟩), rfl, by rw [hunborn, NiThread.early]⟩
        · rintro ⟨req, hm, hc, he⟩
          rcases getElem?_concat_iff.1 hm with hm | ⟨rfl, -⟩
          · exact absurd he (not_early hm hc)
          · rfl
      · simp only [goTo, setSession, Function.update_self] at hr
        obtain ⟨m, hm, -⟩ := (hi.sessions _).received hr
        simp [hnone] at hm
      · rcases getElem?_concat_iff.1 hm with hm | ⟨rfl, -⟩
        · exact absurd (NiThread.early_of_isNew hn) (not_early hm hc)
        · simp [goTo, NiTask.lacksTime] at hl
      · rcases getElem?_concat_iff.1 hm with hm | ⟨rfl, -⟩
        · exact (hi.sessions _).waiting m req respTimeLeft hm hc hw
        · have hw' : s.threads s.requests.length = .waiting respTimeLeft := hw
          simp [hunborn] at hw'
      · rcases getElem?_concat_iff.1 hm with hm | ⟨rfl, -⟩
        · exact absurd he (not_early hm hc)
        · simp [goTo, NiTask.lacksID] at hl
    · refine (hi.sessions c).transfer (by simp [goTo, setSession, hd]) (fun m req hc => ⟨fun hm => ?_, old⟩)
        ?_ (fun m _ _ _ => ⟨rfl, by simp [hlacks], by simp [hlacks]⟩)
      · rcases getElem?_concat_iff.1 hm with hm | ⟨-, rfl⟩
        · exact hm
        · exact absurd hc.symm hd
      · rintro m resp ⟨req, hm, hj⟩
        exact ⟨req, old hm, hj⟩
  · exact hi.outcomes_concat rfl rfl rfl rfl rfl rfl rfl rfl
  · exact ⟨by simp, hunborn, _, getElem?_concat_iff.2 (.inr ⟨rfl, rfl⟩), rfl, rfl⟩

theorem Inv.message {created : Bool} {s' : GnssAdapterNi} (hi : s.Inv)
    (hk : s.TaskKeeps created s.task)
    (h : s.taskStep created = some s') : s'.Inv := by
  have htask := hi.task
  cases ht : s.task with
  | idle => simp [taskStep, ht] at h
  | checkRaw notify =>
    simp only [taskStep, ht] at h
    split_ifs at h with hraw hc <;> obtain rfl := Option.some.inj h <;>
      refine hi.reads (by rw [ht]; rfl) (by rw [ht]; rfl) (by rw [ht]; rfl) ?_
    · trivial
    · simpa [TaskInv] using hraw
    · simpa [TaskInv] using hraw
  | checkEs notify =>
    rw [ht] at htask
    simp only [taskStep, ht] at h
    split_ifs at h <;> obtain rfl := Option.some.inj h <;>
      refine hi.reads (by rw [ht]; rfl) (by rw [ht]; rfl) (by rw [ht]; rfl) ?_
    · trivial
    · exact htask
  | storeRaw notify =>
    rw [ht] at hk
    exact hi.storeRaw ht hk.1 hk.2 h
  | storeID n notify =>
    rw [ht] at htask
    exact hi.storeID htask ht h
  | readID n notify =>
    rw [ht] at htask
    simp only [taskStep, ht] at h
    obtain rfl := Option.some.inj h
    refine hi.reads (by rw [ht]; rfl) (by rw [ht]; rfl) (by rw [ht]; rfl) ⟨htask, ?_⟩
    obtain ⟨-, hunborn, req, hn, hc, -⟩ := htask
    have hid := (hi.sessions notify.niClass).id n req hn hc (by rw [hunborn, NiThread.early])
      (by simp [ht, NiTask.lacksID])
    exact ⟨req, hn, hid.symm⟩
  | storeTime n notify sessionId =>
    rw [ht] at htask
    exact hi.storeTime htask.1 htask.2 ht h
  | create n sessionId =>
    rw [ht] at hk
    obtain rfl : created = true := hk
    exact hi.create ht h
  | callback n sessionId =>
    rw [ht] at htask
    simp only [taskStep, ht] at h
    obtain rfl := Option.some.inj h
    refine hi.frame rfl rfl rfl rfl (List.Subset.refl _) rfl (by rw [ht]; rfl) (by rw [ht]; rfl)
      (by rw [ht]; rfl) ?_ trivial
    obtain ⟨owed, queued, sent, one, discarded, told⟩ := hi.outcomes
    refine ⟨owed, queued, sent, one, discarded, fun m id hm => ?_⟩
    rcases List.mem_append.1 hm with hm | hm
    · exact told m id hm
    · obtain ⟨rfl, rfl⟩ := Prod.mk.inj (List.mem_singleton.1 hm)
      exact htask
  | discard next =>
    rw [ht] at htask
    simp only [taskStep, ht] at h
    cases next <;> split_ifs at h <;> obtain rfl := Option.some.inj h <;>
      exact hi.reads (by rw [ht]; rfl) (by rw [ht]; rfl) (by rw [ht]; rfl) htask
  | ignore next =>
    rw [ht] at hk
    exact hi.ignore ht hk h
  | findEsID r =>
    rw [ht] at htask
    simp only [taskStep, ht] at h
    split_ifs at h with hid <;> obtain rfl := Option.some.inj h <;>
      refine hi.reads (by rw [ht]; rfl) (by rw [ht]; rfl) (by rw [ht]; rfl) ⟨htask, ?_⟩
    · exact hi.isMatching (by rw [ht]; rfl) hid
    · exact hi.isPassed_of_ne (by rw [ht]; rfl) hid
  | findEsRaw r =>
    rw [ht] at htask
    simp only [taskStep, ht] at h
    split_ifs at h with hraw hresp <;> obtain rfl := Option.some.inj h <;>
      refine hi.reads (by rw [ht]; rfl) (by rw [ht]; rfl) (by rw [ht]; rfl) ?_
    · exact htask
    · exact htask
    · exact ⟨htask.1, hi.isPassed_of_none (by simpa using hraw)⟩
  | findID r =>
    rw [ht] at htask
    simp only [taskStep, ht] at h
    split_ifs at h with hid <;> obtain rfl := Option.some.inj h <;>
      refine hi.reads (by rw [ht]; rfl) (by rw [ht]; rfl) (by rw [ht]; rfl) ?_
    · exact ⟨htask.1, htask.2, hi.isMatching (by rw [ht]; rfl) hid⟩
    · rintro - (_ | _)
      · exact htask.2
      · exact hi.isPassed_of_ne (by rw [ht]; rfl) hid
  | findRaw r =>
    rw [ht] at htask
    simp only [taskStep, ht] at h
    split_ifs at h with hraw <;> obtain rfl := Option.some.inj h <;>
      refine hi.reads (by rw [ht]; rfl) (by rw [ht]; rfl) (by rw [ht]; rfl) ?_
    · exact ⟨htask.1, htask.2.2⟩
    · rintro - (_ | _)
      · exact htask.2.1
      · exact hi.isPassed_of_none (by simpa using hraw)
  | store c r =>
    rw [ht] at hk
    exact hi.store ht hk h
  | report r known =>
    simp only [taskStep, ht] at h
    obtain rfl := Option.some.inj h
    exact hi.frame rfl rfl rfl rfl (List.Subset.refl _) rfl (by rw [ht]; rfl) (by rw [ht]; rfl)
      (by rw [ht]; rfl) (hi.outcomes.frame rfl rfl (List.Subset.refl _) (List.Subset.refl _) rfl rfl rfl rfl)
      trivial

/-! ### Steps and runs -/

/-- The thread of the messages takes no message before it has finished the one before. -/
theorem eq_of_idle {s' s'' : GnssAdapterNi} (h : (if s.task = .idle then some s'' else none) = some s') :
    s.task = .idle ∧ s'' = s' := by
  split_ifs at h with ht
  exact ⟨ht, Option.some.inj h⟩

theorem Inv.informNiResponse {s' : GnssAdapterNi} (hi : s.Inv) (ht : s.task = .idle)
    (h : s.informNiResponse = some s') : s'.Inv := by
  unfold GnssAdapterNi.informNiResponse at h
  cases hq : s.queued with
  | nil => simp [hq] at h
  | cons answer queued =>
    rw [hq] at h
    obtain rfl := Option.some.inj h
    refine hi.frame rfl rfl rfl rfl (List.Subset.refl _) rfl rfl rfl rfl ?_ (by rw [ht]; trivial)
    obtain ⟨owed, right, sent, one, discarded, told⟩ := hi.outcomes
    rw [hq] at right
    refine ⟨owed, fun a ha => right a (.tail _ ha), fun a ha => ?_, fun n hn => ?_, discarded, told⟩
    · rcases List.mem_append.1 ha with ha | ha
      · exact sent a ha
      · exact List.mem_singleton.1 ha ▸ right answer (.head _)
    · -- the answer goes over from what is owed to what has been sent
      have hone := one n hn
      simp only [GnssAdapterNi.outcomes, debt, hq, List.countP_cons, List.countP_append, List.countP_nil] at hone ⊢
      omega

theorem Inv.step {e : NiEvent} {s' : GnssAdapterNi} (hi : s.Inv) (hk : s.Keeps e)
    (h : s.step e = some s') : s'.Inv := by
  cases e with
  | addClient client =>
    obtain ⟨ht, rfl⟩ := eq_of_idle h
    exact hi.frame rfl rfl rfl rfl (List.Subset.refl _) rfl rfl rfl rfl
      (hi.outcomes.frame rfl rfl (List.Subset.refl _) (List.Subset.refl _) rfl rfl rfl rfl)
      (by rw [ht]; trivial)
  | removeClient client =>
    obtain ⟨ht, rfl⟩ := eq_of_idle h
    exact hi.frame rfl rfl rfl rfl (List.Subset.refl _) rfl rfl rfl rfl
      (hi.outcomes.frame rfl rfl (List.Subset.refl _) (List.Subset.refl _) rfl rfl rfl rfl)
      (by rw [ht]; trivial)
  | requestNiNotify notify bInformNiAccept =>
    obtain ⟨ht, rfl⟩ := eq_of_idle h
    unfold requestNiNotify
    split_ifs
    · exact hi.reads (by rw [ht]; rfl) (by rw [ht]; rfl) (by rw [ht]; rfl) trivial
    · exact hi.reads (by rw [ht]; rfl) (by rw [ht]; rfl) (by rw [ht]; rfl) trivial
    · exact hi
  | gnssNiResponseCommand r =>
    obtain ⟨ht, rfl⟩ := eq_of_idle h
    unfold gnssNiResponseCommand
    split_ifs with hr
    · have hgiven : s.given ⊆ s.given ++ [(r.id, r.response)] := List.subset_append_left ..
      exact hi.frame rfl rfl rfl rfl hgiven rfl (by rw [ht]; rfl) (by rw [ht]; rfl) (by rw [ht]; rfl)
        (hi.outcomes.frame rfl rfl hgiven (List.Subset.refl _) rfl rfl rfl rfl) ⟨by simp, hk⟩
    · exact hi.reads (by rw [ht]; rfl) (by rw [ht]; rfl) (by rw [ht]; rfl) fun hr' => absurd hr' hr
  | informNiResponse =>
    obtain ⟨ht, h⟩ : s.task = .idle ∧ s.informNiResponse = some s' := by
      have h' : (if s.task = .idle then s.informNiResponse else none) = some s' := h
      split_ifs at h' with ht
      exact ⟨ht, h'⟩
    exact hi.informNiResponse ht h
  | task created => exact hi.message hk h
  | thread n timedOut => exact hi.thread hk h

theorem inv_of_run {es : List NiEvent} (h : system.Run Keeps es s) : s.Inv :=
  h.invariant inv_init fun _ _ _ hi hk hst => hi.step hk hst

/-- A request whose thread has left the session, and of which nothing is on its way, has been answered or
discarded. -/
theorem Inv.outcomes_of_not_pending {n : ℕ} (hi : s.Inv) (hn : n < s.requests.length)
    (hearly : (s.threads n).early = false) (hp : ¬ s.Pending n) : s.outcomes n = 1 := by
  have hone := hi.outcomes.one n hn
  obtain ⟨howed, hqueued⟩ := not_or.1 hp
  have hcount : s.queued.countP (·.rawRequest = n) = 0 :=
    List.countP_eq_zero.2 fun answer ha hr => hqueued ⟨answer, ha, by simpa using hr⟩
  simp only [ne_eq, not_not] at howed
  simpa [debt, NiThread.debt, hearly, howed, hcount] using hone

theorem left_leave (n : ℕ) (c : NiClass) (resp : GnssNiResponse) (expired : Option (BitVec 32)) :
    ((s.leave n c resp expired).threads n).left = 3 := by
  unfold leave
  split
  · simp [setThread, NiThread.left]
  · split_ifs <;> simp [setThread, NiThread.left]

/-- A thread that has been created and has not ended goes on. -/
theorem Inv.goesOn {n : ℕ} (hi : s.Inv) (hborn : s.threads n ≠ .unborn) (hended : s.threads n ≠ .ended) :
    ∃ s', s.step (.thread n true) = some s' ∧ (s'.threads n).left < (s.threads n).left := by
  have hn : n < s.requests.length := by
    by_contra hn
    exact hborn (hi.requests.later n (not_lt.1 hn))
  have hstep : s.step (.thread n true) = s.niThreadProc n (s.requests[n]).niClass true := by
    simp [GnssAdapterNi.step, List.getElem?_eq_getElem hn]
  rw [hstep]
  unfold niThreadProc
  cases ht : s.threads n with
  | unborn => exact absurd ht hborn
  | ended => exact absurd ht hended
  | starting =>
    dsimp only
    split_ifs
    · exact ⟨_, rfl, by rw [left_leave]; decide⟩
    · exact ⟨_, rfl, by simp [setThread, NiThread.left]⟩
  | waiting respTimeLeft => exact ⟨_, rfl, by rw [left_leave]; exact Nat.lt_succ_self 3⟩
  | resettingTime answer => exact ⟨_, rfl, by simp [setThread, NiThread.left]⟩
  | resettingID answer => exact ⟨_, rfl, by simp [setThread, NiThread.left]⟩
  | sending answer => exact ⟨_, rfl, by simp [setThread, NiThread.left]⟩

theorem Inv.settled (hi : s.Inv) : s.Settled where
  atMostOnce n := by
    by_cases hn : n < s.requests.length
    · have hone := hi.outcomes.one n hn
      omega
    · rw [(hi.outcomes_of_length_le (not_lt.1 hn)).1]
      exact Nat.zero_le 1
  once n ht hp := by
    have hn : n < s.requests.length := by
      by_contra hn
      simp [hi.requests.later n (not_lt.1 hn)] at ht
    exact hi.outcomes_of_not_pending hn (by rw [ht, NiThread.early]) hp
  goesOn n hborn hended := hi.goesOn hborn hended
  born ht n hn hu := by
    have hcreates := hi.requests.unborn n hn hu
    simp [ht, NiTask.creates] at hcreates
  right := hi.outcomes.sent
  overruled := hi.outcomes.discarded
  told := hi.outcomes.told
  distinct n m req req' hn hm hid := by
    have hn' := hi.requests.ids n req hn
    have hm' := hi.requests.ids m req' hm
    rw [hid] at hn'
    omega

theorem Inv.answered {e : NiEvent} (hi : s.Inv) (hk : s.Keeps e) : s.Answered e := by
  cases e with
  | task created =>
    intro r ht n req hn hid
    have htask := hi.task
    have hk' : s.TaskKeeps created s.task := hk
    rw [ht] at hk'
    rw [ht] at htask
    obtain ⟨hp, hearly⟩ := hk' n req hn hid
    refine hi.outcomes_of_not_pending (List.getElem?_eq_some_iff.1 hn).1 ?_ hp
    rcases hearly with hr | hearly
    · exact htask hr req.niClass n req hn rfl hid
    · exact hearly
  | _ => trivial

/-- **In every run that keeps the condition, each request is answered once or discarded for an emergency
one, with what has been given for it, and its client is never told that its id is not known.** -/
theorem settled_of_run {es : List NiEvent} (h : system.Run Keeps es s) :
    s.Settled ∧ ∀ e, s.Keeps e → s.Answered e :=
  ⟨(inv_of_run h).settled, fun _ hk => (inv_of_run h).answered hk⟩

/-- A request waits for its response when an emergency request comes and is accepted. -/
def emergencyRun : List NiEvent :=
  [.addClient 7, .requestNiNotify ⟨.other, true, 30⟩ false] ++ List.replicate 8 (.task true) ++
    [.thread 0 false, .requestNiNotify ⟨.emergency, true, 0⟩ true] ++ List.replicate 7 (.task true) ++
    [.gnssNiResponseCommand ⟨7, 2, .ACCEPT⟩] ++ List.replicate 6 (.task true) ++
    List.replicate 4 (.thread 0 false) ++ List.replicate 4 (.thread 1 false) ++ [.informNiResponse]

theorem settled_of_run_emergency : ∃ s, system.Run Keeps emergencyRun s ∧
    s.sent = [⟨1, 1, .ACCEPT, none⟩] ∧ s.discarded = [0] ∧ s.Settled := by
  have hrun : system.Run Keeps emergencyRun _ := System.run_guarded rfl
  exact ⟨_, hrun, rfl, rfl, (settled_of_run hrun).1⟩

end GnssAdapterNi

end GpsHal
