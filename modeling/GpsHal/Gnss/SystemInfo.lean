import GpsHal.Transition.Basic
import GpsHal.Transition.Replica
import GpsHal.Util.LeapSecond
import GpsHal.Util.OrdMap

/-!
# `GnssAdapter` : location system information

The modem reports about leap seconds piece by piece.  The adapter collects the pieces in `mLocSystemInfo`,
and passes each report to the clients with a callback; a client that sets its callback gets what has been
collected (`gnss/GnssAdapter.cpp`).

## Main definitions

* `SystemInfoReport.save` : a report is copied to the master copy.
* `SystemKnown` : what a report or the master copy says, as a monoid in which the later information wins.
* `SystemInfoAdapter.system` : clients and reports in any order.

## Main results

* `save_encode` : copying a report is the multiplication of the monoid.
* `SystemInfoAdapter.replica_of_run` : clients that collect in the same way have the master copy.
-/

namespace GpsHal

def LEAP_SECOND_SYS_INFO_CURRENT_LEAP_SECONDS_BIT : BitVec 32 := 1 <<< 0

/-- `LocationSystemInfo` with the field that the time of a position does not need. -/
structure SystemInfoReport extends LocationSystemInfo where
  leapSecondCurrent : BitVec 8
  deriving DecidableEq, Repr

namespace SystemInfoReport

def zero : SystemInfoReport := ⟨⟨0, 0, ⟨0, 0⟩, 0, 0⟩, 0⟩

/-- The first part of `reportLocationSystemInfo` : a report is copied to the master copy `dst`. -/
def save (dst src : SystemInfoReport) : SystemInfoReport :=
  if src.systemInfoMask &&& LOCATION_SYS_INFO_LEAP_SECOND ≠ 0 then
    let dst := { dst with systemInfoMask := dst.systemInfoMask ||| LOCATION_SYS_INFO_LEAP_SECOND }
    let dst := if src.leapSecondInfoMask &&& LEAP_SECOND_SYS_INFO_CURRENT_LEAP_SECONDS_BIT ≠ 0 then
      { dst with
        leapSecondInfoMask := dst.leapSecondInfoMask ||| LEAP_SECOND_SYS_INFO_CURRENT_LEAP_SECONDS_BIT
        leapSecondCurrent := src.leapSecondCurrent }
    else dst
    if src.leapSecondInfoMask &&& LEAP_SECOND_SYS_INFO_LEAP_SECOND_CHANGE_BIT ≠ 0 then
      { dst with
        leapSecondInfoMask := dst.leapSecondInfoMask ||| LEAP_SECOND_SYS_INFO_LEAP_SECOND_CHANGE_BIT
        gpsTimestampLsChange := src.gpsTimestampLsChange
        leapSecondsBeforeChange := src.leapSecondsBeforeChange
        leapSecondsAfterChange := src.leapSecondsAfterChange }
    else dst
  else dst

end SystemInfoReport

/-! ### What is known -/

/-- `LeapSecondChangeInfo` -/
structure LeapSecondChange where
  gpsTimestampLsChange : WeekTime
  leapSecondsBeforeChange : BitVec 8
  leapSecondsAfterChange : BitVec 8
  deriving DecidableEq, Repr

structure LeapSecondKnown where
  current : Option (BitVec 8)
  change : Option LeapSecondChange
  deriving DecidableEq, Repr

/-- What a report says: nothing, or something about leap seconds. -/
@[ext] structure SystemKnown where
  leapSecond : Option LeapSecondKnown
  deriving DecidableEq, Repr

namespace SystemKnown

def current (a : SystemKnown) : Option (BitVec 8) := a.leapSecond.bind (·.current)
def change (a : SystemKnown) : Option LeapSecondChange := a.leapSecond.bind (·.change)

/-- The later information wins, and is completed by the earlier one. -/
def override (a b : SystemKnown) : SystemKnown :=
  match b.leapSecond with
  | none => a
  | some d => ⟨some ⟨d.current.or a.current, d.change.or a.change⟩⟩

instance : Monoid SystemKnown where
  mul := override
  one := ⟨none⟩
  mul_assoc a b c := by
    obtain ⟨_ | c⟩ := c
    · rfl
    change override (override a b) ⟨some c⟩ = override a (override b ⟨some c⟩)
    obtain ⟨_ | b⟩ := b
    · simp only [override, current, change, Option.bind_none, Option.or_none]
    · simp only [override, current, change, Option.bind_some, Option.or_assoc]
  one_mul a := by
    obtain ⟨_ | a⟩ := a
    · rfl
    change override ⟨none⟩ ⟨some a⟩ = ⟨some a⟩
    simp only [override, current, change, Option.bind_none, Option.or_none]
  mul_one a := rfl

theorem isIdempotentElem (a : SystemKnown) : IsIdempotentElem a := by
  obtain ⟨_ | a⟩ := a
  · rfl
  change override ⟨some a⟩ ⟨some a⟩ = ⟨some a⟩
  simp only [override, current, change, Option.bind_some, Option.or_self]

/-- The master copy with this information. -/
def encode (a : SystemKnown) : SystemInfoReport :=
  let change := a.change.getD ⟨⟨0, 0⟩, 0, 0⟩
  { systemInfoMask := if a.leapSecond.isSome then LOCATION_SYS_INFO_LEAP_SECOND else 0
    leapSecondInfoMask :=
      (if a.current.isSome then LEAP_SECOND_SYS_INFO_CURRENT_LEAP_SECONDS_BIT else 0) |||
        (if a.change.isSome then LEAP_SECOND_SYS_INFO_LEAP_SECOND_CHANGE_BIT else 0)
    gpsTimestampLsChange := change.gpsTimestampLsChange
    leapSecondsBeforeChange := change.leapSecondsBeforeChange
    leapSecondsAfterChange := change.leapSecondsAfterChange
    leapSecondCurrent := a.current.getD 0 }

end SystemKnown

/-- What a report says. -/
def SystemInfoReport.decode (r : SystemInfoReport) : SystemKnown :=
  if r.systemInfoMask &&& LOCATION_SYS_INFO_LEAP_SECOND ≠ 0 then
    ⟨some {
      current := if r.leapSecondInfoMask &&& LEAP_SECOND_SYS_INFO_CURRENT_LEAP_SECONDS_BIT ≠ 0 then
        some r.leapSecondCurrent else none
      change := if r.leapSecondInfoMask &&& LEAP_SECOND_SYS_INFO_LEAP_SECOND_CHANGE_BIT ≠ 0 then
        some ⟨r.gpsTimestampLsChange, r.leapSecondsBeforeChange, r.leapSecondsAfterChange⟩ else none }⟩
  else ⟨none⟩

namespace SystemKnown

theorem decode_encode (a : SystemKnown) : a.encode.decode = a := by
  obtain ⟨_ | ⟨_ | current, _ | change⟩⟩ := a <;>
    simp [encode, SystemInfoReport.decode, SystemKnown.current, SystemKnown.change,
      LOCATION_SYS_INFO_LEAP_SECOND, LEAP_SECOND_SYS_INFO_CURRENT_LEAP_SECONDS_BIT,
      LEAP_SECOND_SYS_INFO_LEAP_SECOND_CHANGE_BIT]

/-- **Copying a report** is the multiplication of what is known. -/
theorem save_encode (a : SystemKnown) (src : SystemInfoReport) :
    a.encode.save src = (a * src.decode).encode := by
  change a.encode.save src = (override a src.decode).encode
  unfold SystemInfoReport.decode SystemInfoReport.save
  split
  · split <;> split <;> obtain ⟨_ | ⟨_ | current, _ | change⟩⟩ := a <;>
      simp [encode, override, SystemKnown.current, SystemKnown.change,
      LOCATION_SYS_INFO_LEAP_SECOND, LEAP_SECOND_SYS_INFO_CURRENT_LEAP_SECONDS_BIT,
      LEAP_SECOND_SYS_INFO_LEAP_SECOND_CHANGE_BIT]
  · rfl

theorem systemInfoMask_encode (a : SystemKnown) : a.encode.systemInfoMask = 0 ↔ a = 1 := by
  change a.encode.systemInfoMask = 0 ↔ a = ⟨none⟩
  obtain ⟨_ | a⟩ := a <;> simp [encode, LOCATION_SYS_INFO_LEAP_SECOND]

theorem foldl_save (a : SystemKnown) (reports : List SystemInfoReport) :
    reports.foldl SystemInfoReport.save a.encode = (reports.foldl (fun a r => a * r.decode) a).encode := by
  induction reports generalizing a with
  | nil => rfl
  | cons r reports ih => rw [List.foldl_cons, List.foldl_cons, save_encode, ih]

theorem current_mul (a b : SystemKnown) : (a * b).current = b.current.or a.current := by
  change (override a b).current = _
  obtain ⟨_ | b⟩ := b <;> rfl

theorem change_mul (a b : SystemKnown) : (a * b).change = b.change.or a.change := by
  change (override a b).change = _
  obtain ⟨_ | b⟩ := b <;> rfl

/-- Something that the later information overrides is known from the last report that has it. -/
theorem foldl_eq_findSome? {α : Type} {f : SystemKnown → Option α} (h₁ : f 1 = none)
    (hmul : ∀ a b, f (a * b) = (f b).or (f a)) (reports : List SystemInfoReport) :
    f (reports.foldl (fun a r => a * r.decode) 1) = reports.reverse.findSome? fun r => f r.decode := by
  induction reports using List.reverseRecOn with
  | nil => exact h₁
  | append_singleton reports r ih =>
    rw [List.foldl_append, List.foldl_cons, List.foldl_nil, hmul, ih, List.reverse_append,
      List.reverse_singleton, List.singleton_append, List.findSome?_cons]
    cases f r.decode <;> rfl

end SystemKnown

/-! ### The adapter -/

/-- `mClientData` has for each client whether `locationSystemInfoCb` is set.  The last field is a record of
the calls of the callbacks. -/
structure SystemInfoAdapter where
  mLocSystemInfo : SystemInfoReport
  mClientData : OrdMap ℕ Bool
  calls : List (ℕ × SystemInfoReport)

inductive SystemInfoEvent
  | addClient (client : ℕ) (locationSystemInfoCb : Bool)
  | eraseClient (client : ℕ)
  | reportLocationSystemInfo (locationSystemInfo : SystemInfoReport)

/-- The reports of a run. -/
def SystemInfoEvent.report? : SystemInfoEvent → Option SystemInfoReport
  | reportLocationSystemInfo locationSystemInfo => some locationSystemInfo
  | _ => none

namespace SystemInfoAdapter

def init : SystemInfoAdapter := ⟨.zero, ∅, []⟩

variable (s : SystemInfoAdapter)

/-- The calls of `notifyClientOfCachedLocationSystemInfo`. -/
def notifyClientOfCachedLocationSystemInfo (client : ℕ) (locationSystemInfoCb : Bool) :
    List (ℕ × SystemInfoReport) :=
  if s.mLocSystemInfo.systemInfoMask ≠ 0 then
    let notifyClientOfSystemInfo := locationSystemInfoCb &&
      match s.mClientData.find client with
      | some oldCb => !oldCb
      | none => true
    if notifyClientOfSystemInfo then [(client, s.mLocSystemInfo)] else []
  else []

/-- `reportLocationSystemInfo` -/
def reportLocationSystemInfo (locationSystemInfo : SystemInfoReport) : SystemInfoAdapter :=
  { s with
    mLocSystemInfo := s.mLocSystemInfo.save locationSystemInfo
    calls := s.calls ++ if locationSystemInfo.systemInfoMask ≠ 0 then
      s.mClientData.entries.flatMap fun e => if e.2 then [(e.1, locationSystemInfo)] else [] else [] }

def step : SystemInfoEvent → SystemInfoAdapter
  | .addClient client locationSystemInfoCb =>
    { s with
      calls := s.calls ++ s.notifyClientOfCachedLocationSystemInfo client locationSystemInfoCb
      mClientData := s.mClientData.insert client locationSystemInfoCb }
  | .eraseClient client => { s with mClientData := s.mClientData.erase client }
  | .reportLocationSystemInfo locationSystemInfo => s.reportLocationSystemInfo locationSystemInfo

def system : System SystemInfoAdapter SystemInfoEvent := .ofFun init step

/-- The callback of the client is set. -/
def listens (client : ℕ) : Bool := (s.mClientData.find client).getD false

/-- What the client has been told. -/
def told (client : ℕ) : List SystemInfoReport := (s.calls.filter (·.1 = client)).map Prod.snd

/-- What the client knows, if it collects as the adapter does. -/
def collected (client : ℕ) : SystemInfoReport := (s.told client).foldl .save .zero

/-- The clients who listen have what the adapter has collected, and the others have a part of it. -/
def Collects : Prop :=
  ∃ (value : SystemKnown) (view : ℕ → SystemKnown), s.mLocSystemInfo = value.encode ∧
    (∀ k, s.collected k = (view k).encode) ∧ Replicated value s.listens view

variable {s} {s' : SystemInfoAdapter}

theorem collected_append (s' : SystemInfoAdapter) {calls : List (ℕ × SystemInfoReport)}
    (h : s'.calls = s.calls ++ calls) (k : ℕ) :
    s'.collected k = ((calls.filter (·.1 = k)).map Prod.snd).foldl .save (s.collected k) := by
  rw [collected, told, h, List.filter_append, List.map_append, List.foldl_append]
  rfl

theorem notifyClient_eq (client : ℕ) (locationSystemInfoCb : Bool) :
    s.notifyClientOfCachedLocationSystemInfo client locationSystemInfoCb =
      if s.mLocSystemInfo.systemInfoMask ≠ 0 ∧ locationSystemInfoCb = true ∧ s.listens client = false then
        [(client, s.mLocSystemInfo)] else [] := by
  unfold notifyClientOfCachedLocationSystemInfo listens
  cases s.mClientData.find client with
  | none => cases locationSystemInfoCb <;> simp
  | some oldCb => cases locationSystemInfoCb <;> cases oldCb <;> simp

theorem told_report (locationSystemInfo : SystemInfoReport) (k : ℕ) :
    ((s.mClientData.entries.flatMap fun e => if e.2 then [(e.1, locationSystemInfo)] else []).filter
      (·.1 = k)).map Prod.snd = if s.listens k then [locationSystemInfo] else [] := by
  have hkey : ∀ e : ℕ × Bool, ∀ b ∈ (if e.2 then [(e.1, locationSystemInfo)] else []), b.1 = e.1 := by
    intro e b hb
    split at hb
    · rw [List.mem_singleton.1 hb]
    · exact absurd hb List.not_mem_nil
  rw [OrdMap.filter_flatMap_key hkey, listens]
  cases s.mClientData.find k with
  | none => rfl
  | some cb => cases cb <;> rfl

/-! #### Steps -/

theorem listens_insert (client : ℕ) (cb : Bool) (hs' : s'.mClientData = s.mClientData.insert client cb) :
    s'.listens = Function.update s.listens client cb := by
  funext k
  rw [listens, hs', OrdMap.find_insert, Function.update_apply]
  split <;> rfl

theorem listens_erase (client : ℕ) (hs' : s'.mClientData = s.mClientData.erase client) :
    s'.listens = Function.update s.listens client false := by
  funext k
  rw [listens, hs', OrdMap.find_erase, Function.update_apply]
  split <;> rfl

theorem Collects.addClient (h : s.Collects) (client : ℕ) (cb : Bool) :
    (s.step (.addClient client cb)).Collects := by
  obtain ⟨value, view, hvalue, hview, hrep⟩ := h
  have hlistens : (s.step (.addClient client cb)).listens = Function.update s.listens client cb :=
    listens_insert client cb rfl
  have hcollected (k : ℕ) := collected_append (s.step (.addClient client cb)) rfl k
  cases cb with
  | false =>
    refine ⟨value, view, hvalue, fun k => ?_, hlistens ▸ hrep.unsubscribe client⟩
    rw [hcollected, notifyClient_eq, if_neg (by simp)]
    exact hview k
  | true =>
    refine ⟨value, _, hvalue, fun k => ?_,
      hlistens ▸ hrep.subscribe client SystemKnown.isIdempotentElem⟩
    rw [hcollected, notifyClient_eq, Function.update_apply, hvalue]
    by_cases hk : k = client
    · subst hk
      rw [if_pos rfl]
      by_cases htold : s.listens k = true ∨ value = 1
      · -- nothing is told, as the client has been told before, or there is nothing to tell
        have hview' : (if s.listens k = true then view k else view k * value) = view k := by
          split
          · rfl
          · rw [htold.resolve_left ‹_›, mul_one]
        rw [hview', if_neg]
        · exact hview k
        · rintro ⟨hmask, -, hlisten⟩
          rcases htold with hlisten' | hone
          · rw [hlisten] at hlisten'
            exact absurd hlisten' (by decide)
          · exact hmask ((SystemKnown.systemInfoMask_encode value).2 hone)
      · obtain ⟨hlisten, hone⟩ := not_or.1 htold
        have hmask := (SystemKnown.systemInfoMask_encode value).not.2 hone
        rw [if_neg hlisten, if_pos ⟨hmask, rfl, Bool.eq_false_iff.2 hlisten⟩]
        simp only [List.filter_cons, List.filter_nil, decide_true, if_true, List.map_cons, List.map_nil,
          List.foldl_cons, List.foldl_nil]
        rw [hview, SystemKnown.save_encode, SystemKnown.decode_encode]
    · rw [if_neg hk, List.filter_eq_nil_iff.2]
      · exact hview k
      · intro call hcall
        split at hcall
        · rw [List.mem_singleton.1 hcall]
          simpa using Ne.symm hk
        · exact absurd hcall List.not_mem_nil

theorem Collects.eraseClient (h : s.Collects) (client : ℕ) : (s.step (.eraseClient client)).Collects := by
  obtain ⟨value, view, hvalue, hview, hrep⟩ := h
  have hlistens : (s.step (.eraseClient client)).listens = Function.update s.listens client false :=
    listens_erase client rfl
  exact ⟨value, view, hvalue, hview, hlistens ▸ hrep.unsubscribe client⟩

theorem Collects.report (h : s.Collects) (locationSystemInfo : SystemInfoReport) :
    (s.reportLocationSystemInfo locationSystemInfo).Collects := by
  obtain ⟨value, view, hvalue, hview, hrep⟩ := h
  refine ⟨value * locationSystemInfo.decode, _, ?_, fun k => ?_,
    hrep.publish SystemKnown.isIdempotentElem locationSystemInfo.decode⟩
  · exact (congrArg (·.save locationSystemInfo) hvalue).trans (SystemKnown.save_encode value _)
  · rw [collected_append _ rfl, hview]
    by_cases hmask : locationSystemInfo.systemInfoMask ≠ 0
    · rw [if_pos hmask, told_report]
      split
      · exact SystemKnown.save_encode (view k) _
      · rfl
    · -- a report without a mask says nothing
      have hnothing : locationSystemInfo.decode = 1 := by
        rw [not_ne_iff] at hmask
        rw [SystemInfoReport.decode, hmask]
        rfl
      rw [if_neg hmask, hnothing, mul_one, ite_self]
      rfl

theorem Collects.step (h : s.Collects) (e : SystemInfoEvent) : (s.step e).Collects := by
  cases e with
  | addClient client cb => exact h.addClient client cb
  | eraseClient client => exact h.eraseClient client
  | reportLocationSystemInfo locationSystemInfo => exact h.report locationSystemInfo

/-! #### Runs -/

theorem collects_of_run {es : List SystemInfoEvent} (h : system.Run System.Free es s) : s.Collects :=
  h.invariant ⟨1, _, rfl, fun _ => rfl, .init⟩ fun s e s' hs _ hstep => by
    subst hstep
    exact hs.step e

theorem mLocSystemInfo_of_run {es : List SystemInfoEvent} (h : system.Run System.Free es s) :
    s.mLocSystemInfo = (es.filterMap SystemInfoEvent.report?).foldl .save .zero := by
  induction h with
  | nil => rfl
  | @snoc es s s' e _ _ hstep ih =>
    subst hstep
    rw [List.filterMap_append, List.foldl_append, ← ih]
    cases e <;> rfl

/-- **The collected information.**  The master copy has, of the two kinds of information, what the last
report with it has said; a client whose callback is set has the master copy if it collects what it has
been told as the adapter does, and has never been told anything that the master copy does not have. -/
theorem replica_of_run {es : List SystemInfoEvent} (h : system.Run System.Free es s) :
    (s.mLocSystemInfo.decode.current =
      (es.filterMap SystemInfoEvent.report?).reverse.findSome? fun r => r.decode.current) ∧
    (s.mLocSystemInfo.decode.change =
      (es.filterMap SystemInfoEvent.report?).reverse.findSome? fun r => r.decode.change) ∧
    (∀ k, s.mClientData.find k = some true → s.collected k = s.mLocSystemInfo) ∧
    ∀ k, (s.collected k).save s.mLocSystemInfo = s.mLocSystemInfo := by
  have hmaster := mLocSystemInfo_of_run h
  obtain ⟨value, view, hvalue, hview, hrep⟩ := collects_of_run h
  refine ⟨?_, ?_, fun k hk => ?_, fun k => ?_⟩
  · rw [hmaster]
    change (List.foldl _ (SystemKnown.encode 1) _).decode.current = _
    rw [SystemKnown.foldl_save, SystemKnown.decode_encode,
      SystemKnown.foldl_eq_findSome? rfl SystemKnown.current_mul]
  · rw [hmaster]
    change (List.foldl _ (SystemKnown.encode 1) _).decode.change = _
    rw [SystemKnown.foldl_save, SystemKnown.decode_encode,
      SystemKnown.foldl_eq_findSome? rfl SystemKnown.change_mul]
  · rw [hview, hvalue, hrep.current k (congrArg (·.getD false) hk)]
  · rw [hview, hvalue, SystemKnown.save_encode, SystemKnown.decode_encode, hrep.behind]

/-- A client is removed and misses a report, and gets it with the master copy when it is back. -/
theorem replica_of_run_back :
    let current : SystemInfoReport := ⟨⟨1, 1, ⟨0, 0⟩, 0, 0⟩, 18⟩
    let change : SystemInfoReport := ⟨⟨1, 2, ⟨1930, 17000⟩, 17, 18⟩, 0⟩
    let es : List SystemInfoEvent := [.addClient 1 true, .reportLocationSystemInfo current, .eraseClient 1,
      .reportLocationSystemInfo change, .addClient 1 true]
    (es.foldl step init).collected 1 = ⟨⟨1, 3, ⟨1930, 17000⟩, 17, 18⟩, 18⟩ := by
  intro current change es
  have hrun : system.Run System.Free es (es.foldl step init) :=
    System.run_foldl ⟨trivial, trivial, trivial, trivial, trivial, trivial⟩
  exact ((replica_of_run hrun).2.2.1 1 (by decide)).trans (by decide)

end SystemInfoAdapter

end GpsHal
