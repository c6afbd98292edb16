import GpsHal.Transition.Basic

/-!
# Sessions of network initiated requests

The modem asks whether a network initiated request may be served.  A request is kept in a session, of
which there is one for emergency requests and one for the others, and a thread waits for the response
of a client and hands it to the thread of the adapter's messages, which sends it
(`gnss/GnssAdapter.cpp`).  The thread leaves the session to the next request before it has reset it.

## Main definitions

* `GnssAdapterNi.step` : a statement of the thread of the adapter's messages, or of the thread of a
  request; what is done with the mutex of the session is one step.
* `GnssAdapterNi.Keeps` : the condition on each step.
* `GnssAdapterNi.Settled` : what becomes of the requests that have been accepted.
* `GnssAdapterNi.Answered` : what a client is told that responds.
-/

namespace GpsHal

inductive GnssNiResponse
  | ACCEPT
  | DENY
  | NO_RESPONSE
  | IGNORE
  deriving DecidableEq, Repr

/-- Whether a request is of the type `GNSS_NI_TYPE_EMERGENCY_SUPL`, whose session is `sessionEs`. -/
inductive NiClass
  | emergency
  | other
  deriving DecidableEq, Repr

/-- A request from the modem.  The data may be missing. -/
structure NiNotification where
  niClass : NiClass
  data : Bool
  timeout : BitVec 32
  deriving DecidableEq, Repr

/-- The response of a client. -/
structure ClientResponse where
  client : ℕ
  id : BitVec 32
  response : GnssNiResponse
  deriving DecidableEq, Repr

/-- The data of a request is its number. -/
structure NiSession where
  respTimeLeft : BitVec 32
  respRecvd : Bool
  rawRequest : Option ℕ
  reqID : BitVec 32
  resp : GnssNiResponse
  deriving DecidableEq, Repr

/-- A request that has been accepted, with the id and the time that it is given. -/
structure NiRequest where
  niClass : NiClass
  id : BitVec 32
  respTime : BitVec 32
  deriving DecidableEq, Repr

/-- What a thread has to be sent: which thread, the data and the response, and the time if it has
passed. -/
structure NiAnswer where
  thread : ℕ
  rawRequest : ℕ
  resp : GnssNiResponse
  expired : Option (BitVec 32)
  deriving DecidableEq, Repr

/-- Where the thread of a request is, with what it has to be sent once it has left the session. -/
inductive NiThread
  | unborn
  | starting
  | waiting (respTimeLeft : BitVec 32)
  | resettingTime (answer : Option NiAnswer)
  | resettingID (answer : Option NiAnswer)
  | sending (answer : Option NiAnswer)
  | ended
  deriving DecidableEq, Repr

/-- Where the thread of the adapter's messages is: before which statement of `requestNiNotify`, of the
discard that `next` may follow, or of `gnssNiResponseCommand`. -/
inductive NiTask
  | idle
  | checkRaw (notify : NiNotification)
  | checkEs (notify : NiNotification)
  | storeRaw (notify : NiNotification)
  | storeID (n : ℕ) (notify : NiNotification)
  | readID (n : ℕ) (notify : NiNotification)
  | storeTime (n : ℕ) (notify : NiNotification) (sessionId : BitVec 32)
  | create (n : ℕ) (sessionId : BitVec 32)
  | callback (n : ℕ) (sessionId : BitVec 32)
  | discard (next : Option ClientResponse)
  | ignore (next : Option ClientResponse)
  | findEsID (r : ClientResponse)
  | findEsRaw (r : ClientResponse)
  | findID (r : ClientResponse)
  | findRaw (r : ClientResponse)
  | store (c : NiClass) (r : ClientResponse)
  | report (r : ClientResponse) (known : Bool)
  deriving DecidableEq, Repr

/-- The sessions, the threads and the clients with a callback for requests.  `requests` are those that
have been accepted, `notified` the ids that a client has been told of them, `given` the responses of
clients, `overruled` the requests that are to be discarded for an emergency one, `queued` the messages of
the threads, `sent` what the modem has been sent for them, `discarded` the requests whose data a thread
has freed, and `reports` the answers to clients. -/
structure GnssAdapterNi where
  callbacks : List ℕ
  session : NiClass → NiSession
  reqIDCounter : BitVec 32
  task : NiTask
  threads : ℕ → NiThread
  requests : List NiRequest
  notified : List (ℕ × BitVec 32)
  given : List (BitVec 32 × GnssNiResponse)
  overruled : List ℕ
  queued : List NiAnswer
  sent : List NiAnswer
  discarded : List ℕ
  reports : List (ClientResponse × Bool)

inductive NiEvent
  | addClient (client : ℕ)
  | removeClient (client : ℕ)
  | requestNiNotify (notify : NiNotification) (bInformNiAccept : Bool)
  | gnssNiResponseCommand (r : ClientResponse)
  | informNiResponse
  | task (created : Bool)
  | thread (n : ℕ) (timedOut : Bool)
  deriving DecidableEq, Repr

def LOC_NI_NO_RESPONSE_TIME : BitVec 32 := 20

/-- The time for the response to a request. -/
def NiNotification.respTime (notify : NiNotification) : BitVec 32 :=
  5 + if notify.timeout ≠ 0 then notify.timeout else LOC_NI_NO_RESPONSE_TIME

namespace GnssAdapterNi

def init : GnssAdapterNi where
  callbacks := []
  session _ := ⟨0, false, none, 0, .ACCEPT⟩
  reqIDCounter := 0
  task := .idle
  threads _ := .unborn
  requests := []
  notified := []
  given := []
  overruled := []
  queued := []
  sent := []
  discarded := []
  reports := []

variable (s : GnssAdapterNi)

def goTo (task : NiTask) : GnssAdapterNi := { s with task := task }

def setSession (c : NiClass) (session : NiSession) : GnssAdapterNi :=
  { s with session := Function.update s.session c session }

def setThread (n : ℕ) (thread : NiThread) : GnssAdapterNi :=
  { s with threads := Function.update s.threads n thread }

/-! ### The thread of a request -/

/-- The end of the critical section of the thread `n`, which has waited for `expired` if it has not
received a response. -/
def leave (n : ℕ) (c : NiClass) (resp : GnssNiResponse) (expired : Option (BitVec 32)) :
    GnssAdapterNi :=
  let session : NiSession :=
    { s.session c with
      respRecvd := false
      rawRequest := none
      resp := resp }
  match (s.session c).rawRequest with
  | none => (s.setSession c session).setThread n (.resettingTime none)
  | some rawRequest =>
    if resp ≠ .IGNORE then
      (s.setSession c session).setThread n (.resettingTime (some ⟨n, rawRequest, resp, expired⟩))
    else
      { (s.setSession c session).setThread n (.resettingTime none) with
        discarded := s.discarded ++ [rawRequest] }

/-- A step of `niThreadProc` for a request of the class `c`. -/
def niThreadProc (n : ℕ) (c : NiClass) (timedOut : Bool) : Option GnssAdapterNi :=
  match s.threads n with
  | .unborn | .ended => none
  | .starting =>
    if (s.session c).respRecvd then some (s.leave n c (s.session c).resp none)
    else some (s.setThread n (.waiting (s.session c).respTimeLeft))
  | .waiting respTimeLeft =>
    if timedOut then some (s.leave n c .NO_RESPONSE (some respTimeLeft))
    else if (s.session c).respRecvd then some (s.leave n c (s.session c).resp none)
    else some s
  | .resettingTime answer =>
    some ((s.setSession c { s.session c with respTimeLeft := 0 }).setThread n (.resettingID answer))
  | .resettingID answer =>
    some ((s.setSession c { s.session c with reqID := 0 }).setThread n (.sending answer))
  | .sending answer => some { s.setThread n .ended with queued := s.queued ++ answer.toList }

/-! ### The thread of the messages -/

/-- What the discard of a request that is no emergency is followed by. -/
def afterDiscard : Option ClientResponse → NiTask
  | none => .idle
  | some r => .store .emergency r

/-- The next statement.  `created` says whether a thread can be created. -/
def taskStep (created : Bool) : Option GnssAdapterNi :=
  match s.task with
  | .idle => none
  | .checkRaw notify =>
    if (s.session notify.niClass).rawRequest ≠ none then some (s.goTo .idle)
    else if notify.niClass = .emergency then some (s.goTo (.storeRaw notify))
    else some (s.goTo (.checkEs notify))
  | .checkEs notify =>
    if (s.session .emergency).rawRequest ≠ none then some (s.goTo .idle)
    else some (s.goTo (.storeRaw notify))
  | .storeRaw notify =>
    let n := s.requests.length
    let c := notify.niClass
    some { (s.setSession c { s.session c with
        rawRequest := if notify.data then some n else none }).goTo (.storeID n notify) with
      requests := s.requests ++ [⟨c, s.reqIDCounter + 1, notify.respTime⟩] }
  | .storeID n notify =>
    let c := notify.niClass
    some { (s.setSession c { s.session c with reqID := s.reqIDCounter + 1 }).goTo
        (.readID n notify) with
      reqIDCounter := s.reqIDCounter + 1 }
  | .readID n notify => some (s.goTo (.storeTime n notify (s.session notify.niClass).reqID))
  | .storeTime n notify sessionId =>
    let c := notify.niClass
    some ((s.setSession c { s.session c with respTimeLeft := notify.respTime }).goTo
      (.create n sessionId))
  | .create n sessionId =>
    if created then some ((s.setThread n .starting).goTo (.callback n sessionId))
    else some (s.goTo (.callback n sessionId))
  | .callback n sessionId =>
    some { s.goTo .idle with notified := s.notified ++ [(n, sessionId)] }
  | .discard next =>
    if (s.session .other).rawRequest ≠ none then some (s.goTo (.ignore next))
    else some (s.goTo (afterDiscard next))
  | .ignore next =>
    some { (s.setSession .other { s.session .other with
        resp := .IGNORE
        respRecvd := true }).goTo (afterDiscard next) with
      overruled := s.overruled ++ (s.session .other).rawRequest.toList }
  | .findEsID r =>
    if r.id = (s.session .emergency).reqID then some (s.goTo (.findEsRaw r))
    else some (s.goTo (.findID r))
  | .findEsRaw r =>
    if (s.session .emergency).rawRequest ≠ none then
      some (s.goTo (if r.response = .ACCEPT then .discard (some r) else .store .emergency r))
    else some (s.goTo (.findID r))
  | .findID r =>
    if r.id = (s.session .other).reqID then some (s.goTo (.findRaw r))
    else some (s.goTo (.report r false))
  | .findRaw r =>
    if (s.session .other).rawRequest ≠ none then some (s.goTo (.store .other r))
    else some (s.goTo (.report r false))
  | .store c r =>
    some ((s.setSession c { s.session c with
      resp := r.response
      respRecvd := true }).goTo (.report r true))
  | .report r known => some { s.goTo .idle with reports := s.reports ++ [(r, known)] }

/-- The start of `requestNiNotify`.  Without a callback an emergency request is accepted at once, if
that is what it asks for, and the others are not accepted. -/
def requestNiNotify (notify : NiNotification) (bInformNiAccept : Bool) : GnssAdapterNi :=
  if s.callbacks ≠ [] then s.goTo (.checkRaw notify)
  else if notify.niClass = .emergency ∧ bInformNiAccept then s.goTo (.discard none)
  else s

/-- The start of `gnssNiResponseCommand`. -/
def gnssNiResponseCommand (r : ClientResponse) : GnssAdapterNi :=
  if r.client ∈ s.callbacks then
    { s.goTo (.findEsID r) with given := s.given ++ [(r.id, r.response)] }
  else s.goTo (.report r false)

/-- The message of a thread. -/
def informNiResponse : Option GnssAdapterNi :=
  match s.queued with
  | [] => none
  | answer :: queued => some { s with queued := queued, sent := s.sent ++ [answer] }

/-- A step.  A message is taken when the one before has been processed. -/
def step : NiEvent → Option GnssAdapterNi
  | .addClient client =>
    if s.task = .idle then some { s with callbacks := s.callbacks ++ [client] } else none
  | .removeClient client =>
    if s.task = .idle then some { s with callbacks := s.callbacks.filter (· ≠ client) } else none
  | .requestNiNotify notify bInformNiAccept =>
    if s.task = .idle then some (s.requestNiNotify notify bInformNiAccept) else none
  | .gnssNiResponseCommand r =>
    if s.task = .idle then some (s.gnssNiResponseCommand r) else none
  | .informNiResponse => if s.task = .idle then s.informNiResponse else none
  | .task created => s.taskStep created
  | .thread n timedOut => s.requests[n]?.bind fun req => s.niThreadProc n req.niClass timedOut

def system : System GnssAdapterNi NiEvent := .ofPartial init step

end GnssAdapterNi

namespace NiThread

/-- How many steps are left at most, if no response comes. -/
def left : NiThread → ℕ
  | unborn => 6
  | starting => 5
  | waiting _ => 4
  | resettingTime _ => 3
  | resettingID _ => 2
  | sending _ => 1
  | ended => 0

/-- The thread has not read the time of its request yet. -/
def isNew : NiThread → Bool
  | unborn | starting => true
  | waiting _ | resettingTime _ | resettingID _ | sending _ | ended => false

/-- The thread has not left the session yet. -/
def early : NiThread → Bool
  | unborn | starting | waiting _ => true
  | resettingTime _ | resettingID _ | sending _ | ended => false

/-- The answer that the thread still has to hand over. -/
def owed : NiThread → Option NiAnswer
  | resettingTime answer | resettingID answer | sending answer => answer
  | unborn | starting | waiting _ | ended => none

end NiThread

namespace NiTask

/-- The request whose thread has not been created yet. -/
def creates : NiTask → Option ℕ
  | storeID n _ | readID n _ | storeTime n .. | create n _ => some n
  | _ => none

/-- The request whose time has not been stored yet. -/
def lacksTime : NiTask → Option ℕ
  | storeID n _ | readID n _ | storeTime n .. => some n
  | _ => none

/-- The request whose id has not been stored yet. -/
def lacksID : NiTask → Option ℕ
  | storeID n _ => some n
  | _ => none

end NiTask

namespace GnssAdapterNi

variable (s : GnssAdapterNi)

/-! ### What becomes of requests -/

/-- How often a request has been answered or discarded. -/
def outcomes (n : ℕ) : ℕ := s.sent.countP (·.rawRequest = n) + s.discarded.count n

/-- The answer to the request is on its way to the modem. -/
def Pending (n : ℕ) : Prop :=
  (s.threads n).owed ≠ none ∨ ∃ answer ∈ s.queued, answer.rawRequest = n

/-- The answer of a thread is for its own request: a response that a client has given with its id, or
none when its own time has passed. -/
def Right (answer : NiAnswer) : Prop := ∃ req, s.requests[answer.thread]? = some req ∧
  answer.rawRequest = answer.thread ∧
  match answer.expired with
  | some respTimeLeft => answer.resp = .NO_RESPONSE ∧ respTimeLeft = req.respTime
  | none => (req.id, answer.resp) ∈ s.given

/-- What becomes of the requests that have been accepted: none is answered twice, and each once when
its thread has ended, which is not far, and no message of it is left; what is sent is right, what is
discarded is no emergency and has been overruled by one; and clients are told the right ids. -/
structure Settled : Prop where
  atMostOnce : ∀ n, s.outcomes n ≤ 1
  once : ∀ n, s.threads n = .ended → ¬ s.Pending n → s.outcomes n = 1
  goesOn : ∀ n, s.threads n ≠ .unborn → s.threads n ≠ .ended → ∃ s', s.step (.thread n true) = some s' ∧
    (s'.threads n).left < (s.threads n).left
  born : s.task = .idle → ∀ n < s.requests.length, s.threads n ≠ .unborn
  right : ∀ answer ∈ s.sent, s.Right answer
  overruled : ∀ n ∈ s.discarded, n ∈ s.overruled ∧ ∃ req, s.requests[n]? = some req ∧ req.niClass = .other
  told : ∀ n id, (n, id) ∈ s.notified → ∃ req, s.requests[n]? = some req ∧ req.id = id
  distinct : ∀ (n m : ℕ) (req req' : NiRequest), s.requests[n]? = some req → s.requests[m]? = some req' →
    req.id = req'.id → n = m

/-- A client is told that an id is not known only if all requests with that id have been answered or
discarded. -/
def Answered : NiEvent → Prop
  | .task _ => ∀ r, s.task = .report r false → ∀ n (req : NiRequest), s.requests[n]? = some req →
      req.id = r.id → s.outcomes n = 1
  | .addClient _ | .removeClient _ | .requestNiNotify .. | .gnssNiResponseCommand _ |
    .informNiResponse | .thread .. => True

/-! ### The condition on a step -/

/-- The time in the session is that of a request whose thread has not read it yet. -/
def TimeStored (c : NiClass) : Prop := ∃ m req, s.requests[m]? = some req ∧ req.niClass = c ∧
  (s.threads m).isNew ∧ s.task.lacksTime ≠ some m

/-- The id in the session is that of the request that it has been left to. -/
def IDStored (c : NiClass) : Prop := ∃ m, (s.session c).rawRequest = some m ∧ s.task.lacksID ≠ some m

/-- The condition on a step of a thread: it does not reset what has been stored for the request after its
own. -/
def ThreadKeeps (c : NiClass) : NiThread → Prop
  | .resettingTime _ => ¬ s.TimeStored c
  | .resettingID _ => ¬ s.IDStored c
  | .unborn | .starting | .waiting _ | .sending _ | .ended => True

/-- The condition on a statement of the message thread.  A request has data; the counter does not wrap;
a thread can be created; a response is stored for a request that is still waiting; and when an id is
found not to be known, no answer to a request with that id is on its way, and the request of a client
that has no callback has been left by its thread. -/
def TaskKeeps (created : Bool) : NiTask → Prop
  | .storeRaw notify => notify.data = true ∧ s.reqIDCounter ≠ BitVec.allOnes 32
  | .create .. => created = true
  | .ignore _ => (s.session .other).rawRequest ≠ none
  | .store c _ => (s.session c).rawRequest ≠ none
  | .report r false => ∀ n (req : NiRequest), s.requests[n]? = some req → req.id = r.id →
      ¬ s.Pending n ∧ (r.client ∈ s.callbacks ∨ (s.threads n).early = false)
  | .report _ true | .idle | .checkRaw _ | .checkEs _ | .storeID .. | .readID .. | .storeTime .. | .callback .. |
    .discard _ | .findEsID _ | .findEsRaw _ | .findID _ | .findRaw _ => True

/-- The condition on a step.  No client responds `IGNORE`. -/
def Keeps : NiEvent → Prop
  | .gnssNiResponseCommand r => r.response ≠ .IGNORE
  | .task created => s.TaskKeeps created s.task
  | .thread n _ => ∀ req ∈ s.requests[n]?, s.ThreadKeeps req.niClass (s.threads n)
  | .addClient _ | .removeClient _ | .requestNiNotify .. | .informNiResponse => True

/-! The condition can be tested: the requests are finitely many. -/

theorem forall_request_iff {P : ℕ → NiRequest → Prop} :
    (∀ n (req : NiRequest), s.requests[n]? = some req → P n req) ↔
      ∀ n < s.requests.length, ∀ req ∈ s.requests[n]?, P n req :=
  ⟨fun h n _ => h n, fun h n req hn => h n (List.getElem?_eq_some_iff.1 hn).1 req hn⟩

theorem exists_request_iff {P : ℕ → NiRequest → Prop} :
    (∃ n req, s.requests[n]? = some req ∧ P n req) ↔
      ∃ n < s.requests.length, ∃ req ∈ s.requests[n]?, P n req :=
  ⟨fun ⟨n, req, hn, hp⟩ => ⟨n, (List.getElem?_eq_some_iff.1 hn).1, req, hn, hp⟩,
    fun ⟨n, _, req, hn, hp⟩ => ⟨n, req, hn, hp⟩⟩

instance (n : ℕ) : Decidable (s.Pending n) := inferInstanceAs (Decidable (_ ∨ _))

instance (c : NiClass) : Decidable (s.TimeStored c) := decidable_of_iff _ s.exists_request_iff.symm

instance (c : NiClass) : Decidable (s.IDStored c) :=
  inferInstanceAs (Decidable (∃ m ∈ (s.session c).rawRequest, s.task.lacksID ≠ some m))

instance (c : NiClass) : DecidablePred (s.ThreadKeeps c)
  | .resettingTime _ => inferInstanceAs (Decidable (¬ s.TimeStored c))
  | .resettingID _ => inferInstanceAs (Decidable (¬ s.IDStored c))
  | .unborn | .starting | .waiting _ | .sending _ | .ended => inferInstanceAs (Decidable True)

instance (created : Bool) : DecidablePred (s.TaskKeeps created)
  | .storeRaw _ => inferInstanceAs (Decidable (_ ∧ _))
  | .create .. => inferInstanceAs (Decidable (created = true))
  | .ignore _ => inferInstanceAs (Decidable ((s.session .other).rawRequest ≠ none))
  | .store c _ => inferInstanceAs (Decidable ((s.session c).rawRequest ≠ none))
  | .report _ false => decidable_of_iff _ s.forall_request_iff.symm
  | .report _ true | .idle | .checkRaw _ | .checkEs _ | .storeID .. | .readID .. | .storeTime .. | .callback .. |
    .discard _ | .findEsID _ | .findEsRaw _ | .findID _ | .findRaw _ => inferInstanceAs (Decidable True)

instance : DecidablePred s.Keeps
  | .gnssNiResponseCommand r => inferInstanceAs (Decidable (r.response ≠ .IGNORE))
  | .task created => inferInstanceAs (Decidable (s.TaskKeeps created s.task))
  | .thread n _ =>
    inferInstanceAs (Decidable (∀ req ∈ s.requests[n]?, s.ThreadKeeps req.niClass (s.threads n)))
  | .addClient _ | .removeClient _ | .requestNiNotify .. | .informNiResponse =>
    inferInstanceAs (Decidable True)

end GnssAdapterNi

end GpsHal
