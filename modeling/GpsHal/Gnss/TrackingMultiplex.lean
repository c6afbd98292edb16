import GpsHal.Gnss.Tracking
import GpsHal.Util.FirstLeast

/-!
# The time based sessions are multiplexed

Whenever there is a time based session, the options last sent to the engine should have the least
interval and the least power mode of all of them, as those that a restart computes from scratch.

The incremental paths take short cuts that lose a part of the pair.  When a new session has a
smaller interval only, the options sent are those of the fastest session, with its own power mode.
When an updated session was the least one and is no longer, nothing is sent.  And the sessions of a
client that is removed are stopped but not erased.

## Main definitions

* `Least`, `Agrees` : the pair that has to be sent.
* `StartKeeps`, `UpdateKeeps`, `RemovalKeeps` : when a path computes this pair.
* `GnssTracking.Keeps` : the steps all of whose paths do.

## Main results

* `GnssTracking.multiplex_agrees` : in a run of such steps the engine has the least pair.
* `GnssTracking.multiplex_disagrees` : a run of three starts after which it has not.
-/

namespace GpsHal

/-! ### The least pair -/

section Pair

variable {V : Set TrackingOptions} {o v : TrackingOptions}

/-- The options have the least interval and the least power mode. -/
structure Least (V : Set TrackingOptions) (o : TrackingOptions) : Prop where
  minInterval : IsLeast (TrackingOptions.minInterval '' V) o.minInterval
  powerMode : IsLeast (TrackingOptions.powerMode '' V) o.powerMode

/-- When there are sessions, the options last sent are the least ones. -/
def Agrees (V : Set TrackingOptions) (last : Option TrackingOptions) : Prop :=
  V.Nonempty → ∃ o, last = some o ∧ Least V o

/-- The options have a smaller interval than every session. -/
def Faster (V : Set TrackingOptions) (o : TrackingOptions) : Prop :=
  ∀ v ∈ V, o.minInterval < v.minInterval

/-- The options have a smaller power mode than every session. -/
def Stronger (V : Set TrackingOptions) (o : TrackingOptions) : Prop :=
  ∀ v ∈ V, o.powerMode < v.powerMode

/-- The options lower one part of the pair. -/
def Lowers (V : Set TrackingOptions) (o : TrackingOptions) : Prop := Faster V o ∨ Stronger V o

section Order

variable {α : Type*} [LinearOrder α] {s : Set α} {a b : α}

theorem isLeast_insert_of_le (h : IsLeast s b) (ha : b ≤ a) : IsLeast (insert a s) b := by
  have hmin := h.insert a
  rwa [min_eq_right ha] at hmin

theorem isLeast_insert_of_forall_lt (h : ∀ b ∈ s, a < b) : IsLeast (insert a s) a :=
  ⟨.inl rfl, fun _ hb => hb.elim ge_of_eq fun hb => (h _ hb).le⟩

/-- A member that is not the only least one may be left out. -/
theorem isLeast_of_insert (h : IsLeast (insert a s) b) (ha : ∃ c ∈ s, c ≤ a) : IsLeast s b := by
  obtain ⟨c, hc, hca⟩ := ha
  refine ⟨?_, fun x hx => h.2 (.inr hx)⟩
  rcases h.1 with rfl | hb
  · exact le_antisymm (h.2 (.inr hc)) hca ▸ hc
  · exact hb

end Order

theorem Least.insert_of_not_lowers (h : Least V v) (ho : ¬ Lowers V o) : Least (insert o V) v := by
  simp only [Lowers, Faster, Stronger, not_or, not_forall, not_lt] at ho
  obtain ⟨⟨x, hx, hxo⟩, y, hy, hyo⟩ := ho
  constructor
  · rw [Set.image_insert_eq]
    exact isLeast_insert_of_le h.minInterval
      ((h.minInterval.2 (Set.mem_image_of_mem _ hx)).trans hxo)
  · rw [Set.image_insert_eq]
    exact isLeast_insert_of_le h.powerMode ((h.powerMode.2 (Set.mem_image_of_mem _ hy)).trans hyo)

theorem Least.of_insert (h : Least (insert o V) v) (ho : ¬ Lowers V o) : Least V v := by
  simp only [Lowers, Faster, Stronger, not_or, not_forall, not_lt] at ho
  obtain ⟨⟨x, hx, hxo⟩, y, hy, hyo⟩ := ho
  constructor
  · exact isLeast_of_insert (Set.image_insert_eq ▸ h.minInterval)
      ⟨_, Set.mem_image_of_mem _ hx, hxo⟩
  · exact isLeast_of_insert (Set.image_insert_eq ▸ h.powerMode)
      ⟨_, Set.mem_image_of_mem _ hy, hyo⟩

theorem least_singleton (o : TrackingOptions) : Least {o} o := by
  constructor <;> rw [Set.image_singleton] <;> exact isLeast_singleton

end Pair

/-! ### The loops -/

/-- The options of a session: they have a size and a power mode. -/
structure TrackingOptions.Valid (o : TrackingOptions) : Prop where
  size : o.size ≠ 0
  powerMode : o.powerMode ≠ .INVALID

/-- Of the sessions with the smallest interval the first one has the smallest power mode. -/
def FastestIsStrongest (sessions : TrackingOptionsMap) : Prop :=
  ∀ m, FirstLeast TrackingOptions.minInterval sessions.values m →
    ∀ v ∈ sessions.vals, m.powerMode ≤ v.powerMode

section Loops

variable {R S : TrackingOptionsMap} {key : LocationSessionKey} {o : TrackingOptions}

/-- What the loop of the multiplex functions finds in the sessions `R`. -/
structure Multiplexed (R : TrackingOptionsMap) (m : TrackingOptions × GnssPowerMode) : Prop where
  fastest : FirstLeast TrackingOptions.minInterval R.values m.1
  powerMode : IsLeast (TrackingOptions.powerMode '' R.vals) m.2

theorem isLeast_of_firstLeast {α : Type*} [LinearOrder α] {f : TrackingOptions → α}
    (h : FirstLeast f R.values o) : IsLeast (f '' R.vals) (f o) := by
  have hset : {v | v ∈ R.values} = R.vals := Set.ext fun _ => OrdMap.mem_values
  exact hset ▸ h.isLeast

theorem multiplexed_foldl (hne : R.isEmpty = false) (hvalid : ∀ v ∈ R.vals, v.Valid) :
    Multiplexed R (R.entries.foldl multiplexStep (.zero, .INVALID)) := by
  have hnil : R.values ≠ [] := by
    simpa [OrdMap.values, OrdMap.isEmpty] using hne
  have hloop : R.entries.foldl multiplexStep (.zero, .INVALID) =
      (R.values.foldl (keepLeast (fun o => o.size = 0) TrackingOptions.minInterval) .zero,
        (R.values.map TrackingOptions.powerMode).foldl (keepLeast (· = .INVALID) id) .INVALID) := by
    rw [List.foldl_map, ← foldl_prod_mk, OrdMap.values, List.foldl_map]
    rfl
  rw [hloop]
  constructor
  · exact firstLeast_foldl _ rfl hnil fun v hv => (hvalid v (OrdMap.mem_values.1 hv)).size
  · have hmodes : FirstLeast id (R.values.map TrackingOptions.powerMode) _ :=
      firstLeast_foldl (· = .INVALID) rfl (by simpa using hnil) fun p hp => by
        obtain ⟨v, hv, rfl⟩ := List.mem_map.1 hp
        exact (hvalid v (OrdMap.mem_values.1 hv)).powerMode
    have hset : id '' {p | p ∈ R.values.map TrackingOptions.powerMode} =
        TrackingOptions.powerMode '' R.vals := by
      ext p
      simp [OrdMap.mem_values]
    exact hset ▸ hmodes.isLeast

theorem multiplex_none : multiplex S none = S.entries.foldl multiplexStep (.zero, .INVALID) := by
  simp [multiplex]

/-- Leaving out a session is looking at the others. -/
theorem multiplex_some : multiplex S (some key) =
    (S.erase key).entries.foldl multiplexStep (.zero, .INVALID) := by
  simp only [multiplex, OrdMap.erase, List.foldl_filter, Option.some.injEq, decide_not]
  refine List.foldl_ext _ _ _ fun m it _ => ?_
  by_cases h : it.1 = key <;> simp [h]

/-- A restart sends the least pair. -/
theorem least_restartOptions (hne : S.isEmpty = false) (hvalid : ∀ v ∈ S.vals, v.Valid) :
    Least S.vals (restartOptions S) := by
  have hnil : S.values ≠ [] := by
    simpa [OrdMap.values, OrdMap.isEmpty] using hne
  have hsize : ∀ v ∈ S.values, ¬ v.size = 0 := fun v hv => (hvalid v (OrdMap.mem_values.1 hv)).size
  have hloop : S.entries.foldl restartStep (.zero, .zero) =
      (S.values.foldl (keepLeast (fun o => o.size = 0) TrackingOptions.minInterval) .zero,
        S.values.foldl (keepLeast (fun o => o.size = 0) TrackingOptions.powerMode) .zero) := by
    rw [← foldl_prod_mk, OrdMap.values, List.foldl_map]
    refine List.foldl_ext _ _ _ fun m it hit => ?_
    have hmode := (hvalid it.2 ⟨it.1, hit⟩).powerMode
    simp [restartStep, keepLeast, hmode]
  have hfast := firstLeast_foldl (fun o : TrackingOptions => o.size = 0)
    (f := TrackingOptions.minInterval) (a := .zero) rfl hnil hsize
  have hstrong := firstLeast_foldl (fun o : TrackingOptions => o.size = 0)
    (f := TrackingOptions.powerMode) (a := .zero) rfl hnil hsize
  have hmin := isLeast_of_firstLeast hfast
  have hpower := isLeast_of_firstLeast hstrong
  rw [restartOptions, hloop]
  exact ⟨hmin, hpower⟩

section Lowered

variable {m : TrackingOptions × GnssPowerMode}

theorem Multiplexed.faster_iff (h : Multiplexed R m) :
    o.minInterval < m.1.minInterval ↔ Faster R.vals o := by
  refine ⟨fun hlt v hv => ?_, fun hall => hall m.1 (OrdMap.mem_values.1 h.fastest.mem)⟩
  exact hlt.trans_le (h.fastest.le (OrdMap.mem_values.2 hv))

theorem Multiplexed.stronger_iff (h : Multiplexed R m) :
    o.powerMode < m.2 ↔ Stronger R.vals o := by
  refine ⟨fun hlt v hv => ?_, fun hall => ?_⟩
  · exact hlt.trans_le (h.powerMode.2 (Set.mem_image_of_mem _ hv))
  · obtain ⟨v, hv, hvm⟩ := h.powerMode.1
    exact hvm ▸ hall v hv

theorem lowered_minInterval : (lowered m o).1.minInterval =
    if o.minInterval < m.1.minInterval then o.minInterval else m.1.minInterval := by
  unfold lowered
  simp only [decide_eq_true_eq]
  split_ifs <;> rfl

theorem lowered_powerMode : (lowered m o).1.powerMode =
    if o.powerMode < m.2 then o.powerMode else m.1.powerMode := by
  unfold lowered
  simp only [decide_eq_true_eq]
  split_ifs <;> rfl

/-- The flag of the incremental paths: something is smaller than in all other sessions. -/
theorem lowered_snd (h : Multiplexed R m) : (lowered m o).2 = true ↔ Lowers R.vals o := by
  simp only [lowered, Bool.or_eq_true, decide_eq_true_eq, h.faster_iff, h.stronger_iff, Lowers]

/-- The options that the incremental paths send are the least ones, unless only the interval was
lowered and the fastest of the other sessions has not the smallest power mode. -/
theorem least_lowered (h : Multiplexed R m) (hl : Lowers R.vals o)
    (hstrong : Faster R.vals o → ¬ Stronger R.vals o → FastestIsStrongest R) :
    Least (insert o R.vals) (lowered m o).1 := by
  constructor
  · rw [lowered_minInterval, Set.image_insert_eq]
    split_ifs with hlt
    · refine isLeast_insert_of_forall_lt ?_
      rintro _ ⟨v, hv, rfl⟩
      exact h.faster_iff.1 hlt v hv
    · exact isLeast_insert_of_le (isLeast_of_firstLeast h.fastest) (not_lt.1 hlt)
  · rw [lowered_powerMode, Set.image_insert_eq]
    split_ifs with hlt
    · refine isLeast_insert_of_forall_lt ?_
      rintro _ ⟨v, hv, rfl⟩
      exact h.stronger_iff.1 hlt v hv
    · -- only the interval is lower, so the power mode sent is that of the fastest session
      have hnot : ¬ Stronger R.vals o := fun hs => hlt (h.stronger_iff.2 hs)
      have hbest := hstrong (hl.resolve_right hnot) hnot m.1 h.fastest
      have hm : m.1 ∈ R.vals := OrdMap.mem_values.1 h.fastest.mem
      have heq : m.1.powerMode = m.2 := by
        refine le_antisymm ?_ (h.powerMode.2 (Set.mem_image_of_mem _ hm))
        obtain ⟨v, hv, hvm⟩ := h.powerMode.1
        exact hvm ▸ hbest v hv
      rw [heq]
      exact isLeast_insert_of_le h.powerMode (not_lt.1 hlt)

end Lowered

end Loops

/-! ### The paths -/

/-- A session that is started gets a new id; and when it lowers the interval only, the fastest of
the sessions has the smallest power mode. -/
structure StartKeeps (sessions : TrackingOptionsMap) (key : LocationSessionKey)
    (o : TrackingOptions) : Prop where
  fresh : sessions.find key = none
  strong : Faster sessions.vals o → ¬ Stronger sessions.vals o → FastestIsStrongest sessions

/-- A session is updated with the same interval and power mode; or the new options lower a part of
the pair if the old ones did, and when they lower the interval only, the fastest of the other
sessions has the smallest power mode. -/
def UpdateKeeps (sessions : TrackingOptionsMap) (key : LocationSessionKey)
    (o : TrackingOptions) : Prop :=
  ∀ old, sessions.find key = some old →
    old.minInterval = o.minInterval ∧ old.powerMode = o.powerMode ∨
      (Lowers (sessions.erase key).vals old → Lowers (sessions.erase key).vals o) ∧
        (Faster (sessions.erase key).vals o → ¬ Stronger (sessions.erase key).vals o →
          FastestIsStrongest (sessions.erase key))

/-- Each session of a client that is removed is the only one, or lowers no part of the pair. -/
def RemovalKeeps (sessions : TrackingOptionsMap) (client : ℕ) : Prop :=
  ∀ key old, sessions.find key = some old → client = key.client →
    (sessions.erase key).isEmpty = true ∨ ¬ Lowers (sessions.erase key).vals old

namespace GnssTracking

/-- The engine has the least pair of the time based sessions. -/
def Multiplexes (s : GnssTracking) : Prop := Agrees s.mTimeBasedTrackingSessions.vals s.lastSent

section Frame

variable (s : GnssTracking) (q : EngineRequest) (r : List TrackingResponse) (client id : ℕ)
  (o : TrackingOptions) (err : LocationError) (p : GnssTracking × Bool)

@[simp] theorem request_sessions :
    (s.request q r).mTimeBasedTrackingSessions = s.mTimeBasedTrackingSessions := rfl

theorem lastSent_request : (s.request q r).lastSent = q.timeBased?.or s.lastSent := by
  unfold lastSent request
  rw [List.findSome?_cons]
  cases q.timeBased? <;> rfl

@[simp] theorem reportWithNoWait_sessions :
    (reportWithNoWait p client id).mTimeBasedTrackingSessions =
      p.1.mTimeBasedTrackingSessions := by
  unfold reportWithNoWait; split <;> rfl

@[simp] theorem reportWithNoWait_lastSent :
    (reportWithNoWait p client id).lastSent = p.1.lastSent := by
  unfold reportWithNoWait; split <;> rfl

@[simp] theorem saveTrackingSession_lastSent :
    (s.saveTrackingSession client id o).lastSent = s.lastSent := by
  unfold saveTrackingSession; split <;> rfl

@[simp] theorem eraseTrackingSession_lastSent :
    (s.eraseTrackingSession client id).lastSent = s.lastSent := by
  unfold eraseTrackingSession; split <;> rfl

variable {s client id o}

theorem saveTrackingSession_timeBased
    (h : ¬ (0 < o.minDistance ∧ s.isMessageSupported = true)) :
    (s.saveTrackingSession client id o).mTimeBasedTrackingSessions =
      s.mTimeBasedTrackingSessions.insert ⟨client, id⟩ o := by
  rw [saveTrackingSession, if_neg h]

theorem saveTrackingSession_distanceBased
    (h : 0 < o.minDistance ∧ s.isMessageSupported = true) :
    (s.saveTrackingSession client id o).mTimeBasedTrackingSessions =
      s.mTimeBasedTrackingSessions := by
  rw [saveTrackingSession, if_pos h]

theorem eraseTrackingSession_timeBased (h : s.isTimeBasedTrackingSession client id = true) :
    (s.eraseTrackingSession client id).mTimeBasedTrackingSessions =
      s.mTimeBasedTrackingSessions.erase ⟨client, id⟩ := by
  rw [eraseTrackingSession, if_pos h]

theorem eraseTrackingSession_distanceBased (h : s.isTimeBasedTrackingSession client id = false) :
    (s.eraseTrackingSession client id).mTimeBasedTrackingSessions =
      s.mTimeBasedTrackingSessions := by
  rw [eraseTrackingSession, if_neg (by simp [h])]

end Frame

section Paths

variable {s : GnssTracking} {client id : ℕ} {o old : TrackingOptions}

/-- The options of the saved sessions are valid. -/
def SessionsValid (s : GnssTracking) : Prop := ∀ v ∈ s.mTimeBasedTrackingSessions.vals, v.Valid

theorem SessionsValid.erase (h : s.SessionsValid) (key : LocationSessionKey) :
    ∀ v ∈ (s.mTimeBasedTrackingSessions.erase key).vals, v.Valid := by
  rintro v ⟨k, hk⟩
  exact h v ⟨k, (OrdMap.mem_entries_erase.1 hk).2⟩

/-- Starting a session. -/
theorem agrees_start (h : s.Multiplexes) (hv : s.SessionsValid)
    (hk : StartKeeps s.mTimeBasedTrackingSessions ⟨client, id⟩ o) :
    Agrees (insert o s.mTimeBasedTrackingSessions.vals)
      (s.startTimeBasedTrackingMultiplex client id o).1.lastSent := by
  intro _
  unfold startTimeBasedTrackingMultiplex
  by_cases hempty : s.mTimeBasedTrackingSessions.isEmpty = true
  · rw [if_pos hempty, OrdMap.vals_eq_empty.2 hempty]
    exact ⟨o, rfl, by simpa using least_singleton o⟩
  · rw [if_neg hempty]
    have hm := multiplexed_foldl (by simpa using hempty) hv
    rw [← multiplex_none] at hm
    dsimp only
    split_ifs with hsend
    · exact ⟨_, rfl, least_lowered hm ((lowered_snd hm).1 hsend) hk.strong⟩
    · have hne : s.mTimeBasedTrackingSessions.vals.Nonempty := by
        rw [Set.nonempty_iff_ne_empty, ne_eq, OrdMap.vals_eq_empty]
        exact hempty
      obtain ⟨last, hlast, hleast⟩ := h hne
      exact ⟨last, hlast, hleast.insert_of_not_lowers fun hl => hsend ((lowered_snd hm).2 hl)⟩

/-- Updating a session. -/
theorem agrees_update (h : s.Multiplexes) (hv : s.SessionsValid)
    (hfind : s.mTimeBasedTrackingSessions.find ⟨client, id⟩ = some old)
    (hk : UpdateKeeps s.mTimeBasedTrackingSessions ⟨client, id⟩ o) :
    Agrees (insert o (s.mTimeBasedTrackingSessions.erase ⟨client, id⟩).vals)
      (s.updateTrackingMultiplex client id o).1.lastSent := by
  intro _
  set R := s.mTimeBasedTrackingSessions.erase ⟨client, id⟩ with hR
  have hvals := OrdMap.vals_of_find hfind
  obtain ⟨last, hlast, hleast⟩ := h (hvals ▸ Set.insert_nonempty _ _)
  rw [hvals] at hleast
  unfold updateTrackingMultiplex
  rw [hfind]
  dsimp only
  by_cases hchanged : old.minInterval ≠ o.minInterval ∨ old.powerMode ≠ o.powerMode
  · rw [if_pos hchanged]
    obtain ⟨hlower, hstrong⟩ := (hk old hfind).resolve_left (by tauto)
    by_cases hsize : s.mTimeBasedTrackingSessions.size = 1
    · -- it is the only session
      have hempty := OrdMap.vals_eq_empty.2 ((OrdMap.size_eq_one hfind).1 hsize)
      rw [if_pos hsize, if_pos rfl, hR, hempty]
      exact ⟨o, rfl, by simpa using least_singleton o⟩
    · have hne : R.isEmpty = false := by
        simpa using fun hempty => hsize ((OrdMap.size_eq_one hfind).2 hempty)
      have hm := multiplexed_foldl hne (hv.erase ⟨client, id⟩)
      rw [hR, ← multiplex_some] at hm
      rw [if_neg hsize]
      split_ifs with hsend
      · exact ⟨_, rfl, least_lowered hm ((lowered_snd hm).1 hsend) hstrong⟩
      · have hnot : ¬ Lowers R.vals o := fun hl => hsend ((lowered_snd hm).2 hl)
        exact ⟨last, hlast, (hleast.of_insert fun hl => hnot (hlower hl)).insert_of_not_lowers hnot⟩
  · rw [if_neg hchanged]
    simp only [not_or, not_not] at hchanged
    refine ⟨last, hlast, ?_, ?_⟩
    · rw [Set.image_insert_eq, ← hchanged.1, ← Set.image_insert_eq]
      exact hleast.minInterval
    · rw [Set.image_insert_eq, ← hchanged.2, ← Set.image_insert_eq]
      exact hleast.powerMode

/-- Stopping a session. -/
theorem agrees_stop (h : s.Multiplexes) (hv : s.SessionsValid)
    (hfind : s.mTimeBasedTrackingSessions.find ⟨client, id⟩ = some old) :
    Agrees (s.mTimeBasedTrackingSessions.erase ⟨client, id⟩).vals
      (s.stopTimeBasedTrackingMultiplex client id).1.lastSent := by
  intro hnonempty
  set R := s.mTimeBasedTrackingSessions.erase ⟨client, id⟩ with hR
  have hempty : R.isEmpty = false := by
    rw [Set.nonempty_iff_ne_empty, ne_eq, OrdMap.vals_eq_empty] at hnonempty
    simpa using hnonempty
  have hsize : s.mTimeBasedTrackingSessions.size ≠ 1 := fun hsize => by
    rw [(OrdMap.size_eq_one hfind).1 hsize] at hempty
    cases hempty
  have hvals := OrdMap.vals_of_find hfind
  obtain ⟨last, hlast, hleast⟩ := h (hvals ▸ Set.insert_nonempty _ _)
  rw [hvals] at hleast
  have hm := multiplexed_foldl hempty (hv.erase ⟨client, id⟩)
  rw [hR, ← multiplex_some] at hm
  unfold stopTimeBasedTrackingMultiplex
  rw [if_neg hsize, hfind]
  dsimp only
  split_ifs with hsend
  · have hfast := isLeast_of_firstLeast hm.fastest
    exact ⟨_, rfl, hfast, hm.powerMode⟩
  · rw [hm.faster_iff, hm.stronger_iff] at hsend
    exact ⟨last, hlast, hleast.of_insert hsend⟩

end Paths

/-! ### Valid options -/

end GnssTracking

theorem TrackingOptions.Valid.clampInterval {o : TrackingOptions} (h : o.Valid) :
    o.clampInterval.Valid := by
  unfold TrackingOptions.clampInterval
  split_ifs
  · exact ⟨h.size, h.powerMode⟩
  · exact h

theorem TrackingOptions.Valid.fallBack {o : TrackingOptions} (h : o.Valid) : o.fallBack.Valid := by
  unfold TrackingOptions.fallBack
  split_ifs
  · exact ⟨h.size, nofun⟩
  · exact h

/-- The options of a response are valid. -/
def TrackingResponse.Valid : TrackingResponse → Prop
  | .startTimeBased _ _ options | .startDistanceBased _ _ options
  | .saveAndReport _ _ options => options.Valid
  | .report _ _ | .erase _ _ | .eraseAndReport _ _ => True

/-- The power mode of a message is valid; its size has not been checked. -/
def TrackingMsg.Valid : TrackingMsg → Prop
  | .startTracking _ _ options | .updateTracking _ _ options => options.powerMode ≠ .INVALID
  | .response r => r.Valid
  | .addClient _ _ | .removeClient _ | .stopTracking _ _ | .handleEngineUpEvent => True

namespace GnssTracking

/-- All options in the adapter are valid. -/
structure Sane (s : GnssTracking) : Prop where
  sessions : s.SessionsValid
  queue : ∀ msg ∈ s.queue, msg.Valid
  pending : ∀ msg ∈ s.mPendingMsgs, msg.Valid
  outstanding : ∀ r ∈ s.outstanding, r.Valid

section Sane

variable {s : GnssTracking} {client id : ℕ} {o : TrackingOptions}

theorem Sane.request (h : s.Sane) (q : EngineRequest) {r : List TrackingResponse}
    (hr : ∀ x ∈ r, x.Valid) : (s.request q r).Sane :=
  ⟨h.sessions, h.queue, h.pending, fun x hx => (List.mem_append.1 hx).elim (h.outstanding x) (hr x)⟩

/-- A request whose response is only reported, or ends a session. -/
theorem Sane.requestOne (h : s.Sane) (q : EngineRequest) {r : TrackingResponse} (hr : r.Valid) :
    (s.request q [r]).Sane :=
  h.request q fun _ hx => List.mem_singleton.1 hx ▸ hr

theorem Sane.report (h : s.Sane) (err : LocationError) : (s.reportResponse client err id).Sane :=
  ⟨h.sessions, h.queue, h.pending, h.outstanding⟩

theorem Sane.reportWithNoWait {p : GnssTracking × Bool} (h : p.1.Sane) :
    (reportWithNoWait p client id).Sane := by
  unfold GnssTracking.reportWithNoWait
  split_ifs
  · exact h.report _
  · exact h

theorem Sane.save (h : s.Sane) (ho : o.Valid) : (s.saveTrackingSession client id o).Sane := by
  unfold saveTrackingSession
  split_ifs
  · exact ⟨h.sessions, h.queue, h.pending, h.outstanding⟩
  · refine ⟨fun v hv => ?_, h.queue, h.pending, h.outstanding⟩
    replace hv : v ∈ (s.mTimeBasedTrackingSessions.insert ⟨client, id⟩ o).vals := hv
    rw [OrdMap.vals_insert] at hv
    rcases hv with rfl | hv
    · exact ho
    · exact h.sessions.erase _ v hv

theorem Sane.erase (h : s.Sane) : (s.eraseTrackingSession client id).Sane := by
  unfold eraseTrackingSession
  split_ifs
  · exact ⟨h.sessions.erase _, h.queue, h.pending, h.outstanding⟩
  · exact ⟨h.sessions, h.queue, h.pending, h.outstanding⟩

theorem Sane.startMultiplex (h : s.Sane) :
    (s.startTimeBasedTrackingMultiplex client id o).1.Sane := by
  unfold startTimeBasedTrackingMultiplex
  dsimp only
  split_ifs
  · exact h.requestOne _ trivial
  · exact h.requestOne _ trivial
  · exact h

theorem Sane.updateMultiplex (h : s.Sane) : (s.updateTrackingMultiplex client id o).1.Sane := by
  have hsend : ∀ p : TrackingOptions × Bool, (if p.2 = true then
      (s.startTimeBasedTracking client id p.1, false) else (s, true)).1.Sane := fun p => by
    split_ifs
    · exact h.requestOne _ trivial
    · exact h
  unfold updateTrackingMultiplex
  cases s.mTimeBasedTrackingSessions.find ⟨client, id⟩ with
  | none => exact h
  | some old =>
    dsimp only
    by_cases hchanged : old.minInterval ≠ o.minInterval ∨ old.powerMode ≠ o.powerMode
    · rw [if_pos hchanged]
      exact hsend _
    · rw [if_neg hchanged]
      exact h

theorem Sane.stopMultiplex (h : s.Sane) : (s.stopTimeBasedTrackingMultiplex client id).1.Sane := by
  unfold stopTimeBasedTrackingMultiplex
  split_ifs
  · exact h.requestOne _ trivial
  · split
    · exact h
    · dsimp only
      split_ifs
      · exact h.requestOne _ trivial
      · exact h

theorem Sane.pend (h : s.Sane) {msg : TrackingMsg} (hm : msg.Valid) :
    ({ s with mPendingMsgs := s.mPendingMsgs ++ [msg] } : GnssTracking).Sane :=
  ⟨h.sessions, h.queue, fun m hmem => (List.mem_append.1 hmem).elim (h.pending m) fun hmem =>
    List.mem_singleton.1 hmem ▸ hm, h.outstanding⟩

theorem Sane.procStartTracking (h : s.Sane) (ho : o.powerMode ≠ .INVALID) :
    (s.procStartTracking client id o).Sane := by
  unfold GnssTracking.procStartTracking
  dsimp only
  split_ifs with hpend hskip hdistance
  · exact h.pend ho
  · exact h
  · have hvalid : o.Valid := ⟨fun hsize => hskip (.inr hsize), ho⟩
    exact (h.save hvalid.clampInterval).requestOne _ trivial
  · have hvalid : o.Valid := ⟨fun hsize => hskip (.inr hsize), ho⟩
    exact (h.startMultiplex.save hvalid.clampInterval.fallBack).reportWithNoWait

theorem Sane.updateSession (h : s.Sane) (ho : o.Valid) : (s.updateSession client id o).Sane := by
  unfold GnssTracking.updateSession
  dsimp only
  split_ifs
  · exact (Sane.save (Sane.reportWithNoWait h.stopMultiplex.erase) ho).request _ nofun
  · exact h.erase.requestOne _ ho
  · exact (h.updateMultiplex.save ho).reportWithNoWait
  · exact h.requestOne _ ho

theorem Sane.procUpdateTracking (h : s.Sane) (ho : o.powerMode ≠ .INVALID) :
    (s.procUpdateTracking client id o).Sane := by
  unfold GnssTracking.procUpdateTracking
  split_ifs with hpend hunknown hsize
  · exact h.pend ho
  · exact h.report _
  · exact h.report _
  · have hvalid : o.Valid := ⟨hsize, ho⟩
    exact h.updateSession hvalid.fallBack.clampInterval

theorem Sane.procStopTracking (h : s.Sane) : (s.procStopTracking client id).Sane := by
  unfold GnssTracking.procStopTracking
  dsimp only
  split_ifs
  · exact h.stopMultiplex.erase.reportWithNoWait
  · exact h.requestOne _ trivial
  · exact h.report _

theorem Sane.stopClientSessions (h : s.Sane) : (s.stopClientSessions client).Sane := by
  unfold GnssTracking.stopClientSessions
  refine List.foldlRecOn _ _ ?_ fun s hs key _ => hs.requestOne _ trivial
  exact List.foldlRecOn _ _ h fun s hs key _ => hs.stopMultiplex

theorem Sane.restartSessions (h : s.Sane) : s.restartSessions.Sane := by
  unfold GnssTracking.restartSessions
  refine List.foldlRecOn _ _ ?_ fun s hs it _ => hs.request _ nofun
  split_ifs
  · exact h
  · exact h.request _ nofun

theorem Sane.procEngineUp (h : s.Sane) : s.procEngineUp.Sane := by
  have hr : ({ s with mIsEngineCapabilitiesKnown := true } : GnssTracking).restartSessions.Sane :=
    Sane.restartSessions ⟨h.sessions, h.queue, h.pending, h.outstanding⟩
  exact ⟨hr.sessions, fun m hm => (List.mem_append.1 hm).elim (hr.queue m) (hr.pending m), nofun,
    hr.outstanding⟩

theorem Sane.procResponse (h : s.Sane) {r : TrackingResponse} (hr : r.Valid) :
    (s.procResponse r).Sane := by
  cases r with
  | report => exact h.report _
  | erase => exact h.erase
  | eraseAndReport => exact h.erase.report _
  | startTimeBased => exact (h.startMultiplex.save hr).reportWithNoWait
  | startDistanceBased => exact h.requestOne _ hr
  | saveAndReport => exact (h.save hr).report _

theorem Sane.proc (h : s.Sane) {msg : TrackingMsg} (hm : msg.Valid) : (s.proc msg).Sane := by
  cases msg with
  | addClient => exact ⟨h.sessions, h.queue, h.pending, h.outstanding⟩
  | removeClient client =>
    have hs : (s.stopClientSessions client).Sane := h.stopClientSessions
    exact ⟨hs.sessions, hs.queue, hs.pending, hs.outstanding⟩
  | startTracking => exact h.procStartTracking hm
  | updateTracking => exact h.procUpdateTracking hm
  | stopTracking => exact h.procStopTracking
  | handleEngineUpEvent => exact h.procEngineUp
  | response => exact h.procResponse hm

end Sane

/-! ### The messages -/

/-- When a message keeps the engine at the least pair. -/
def MsgKeeps (s : GnssTracking) : TrackingMsg → Prop
  | .startTracking client id o =>
    -- the message is not held back, and not rejected, and not distance based
    ¬ (s.mIsEngineCapabilitiesKnown = false ∧ 0 < o.minDistance) → s.hasCallback client = true →
      o.size ≠ 0 → ¬ (0 < o.minDistance ∧ s.isMessageSupported = true) →
      StartKeeps s.mTimeBasedTrackingSessions ⟨client, id⟩ o.clampInterval.fallBack
  | .updateTracking client id o =>
    ¬ (s.mIsEngineCapabilitiesKnown = false ∧ 0 < o.minDistance) → o.size ≠ 0 →
      s.isTimeBasedTrackingSession client id = true →
      (0 < o.minDistance → s.isMessageSupported = true) ∧
        (o.minDistance = 0 → s.isDistanceBasedTrackingSession client id = false ∧
          UpdateKeeps s.mTimeBasedTrackingSessions ⟨client, id⟩ o.fallBack.clampInterval)
  | .removeClient client => RemovalKeeps s.mTimeBasedTrackingSessions client
  | .response (.erase client id) | .response (.eraseAndReport client id) =>
    s.isTimeBasedTrackingSession client id = false
  | .response (.startTimeBased client id o) =>
    o.minDistance = 0 ∧ StartKeeps s.mTimeBasedTrackingSessions ⟨client, id⟩ o
  | .response (.saveAndReport _ _ o) => 0 < o.minDistance ∧ s.isMessageSupported = true
  | .addClient _ _ | .stopTracking _ _ | .handleEngineUpEvent | .response (.report _ _)
  | .response (.startDistanceBased _ _ _) => True

/-- The commands have a valid power mode, and the messages keep the engine at the least pair. -/
def Keeps (s : GnssTracking) : TrackingEvent → Prop
  | .startTrackingCommand _ o | .updateTrackingOptionsCommand _ _ o => o.powerMode ≠ .INVALID
  | .process => ∀ msg queue, s.queue = msg :: queue → s.MsgKeeps msg
  | _ => True

section Messages

variable {s : GnssTracking} {client id : ℕ} {o : TrackingOptions}

@[simp] theorem minDistance_clampInterval : o.clampInterval.minDistance = o.minDistance := by
  unfold TrackingOptions.clampInterval; split_ifs <;> rfl

@[simp] theorem minDistance_fallBack : o.fallBack.minDistance = o.minDistance := by
  unfold TrackingOptions.fallBack; split_ifs <;> rfl

theorem find_of_timeBased (h : s.isTimeBasedTrackingSession client id = true) :
    ∃ old, s.mTimeBasedTrackingSessions.find ⟨client, id⟩ = some old :=
  Option.isSome_iff_exists.1 h

/-- The multiplex functions leave the sessions and what is supported. -/
theorem startMultiplex_frame :
    (s.startTimeBasedTrackingMultiplex client id o).1.mTimeBasedTrackingSessions =
        s.mTimeBasedTrackingSessions ∧
      (s.startTimeBasedTrackingMultiplex client id o).1.isMessageSupported =
        s.isMessageSupported := by
  unfold startTimeBasedTrackingMultiplex
  dsimp only
  split_ifs <;> exact ⟨rfl, rfl⟩

/-- A session is started and saved as a time based one. -/
theorem multiplexes_start (h : s.Multiplexes) (hv : s.SessionsValid)
    (hk : StartKeeps s.mTimeBasedTrackingSessions ⟨client, id⟩ o)
    (htime : ¬ (0 < o.minDistance ∧ s.isMessageSupported = true)) :
    let p := s.startTimeBasedTrackingMultiplex client id o
    (reportWithNoWait (p.1.saveTrackingSession client id o, p.2) client id).Multiplexes := by
  intro p
  have hsame : p.1.mTimeBasedTrackingSessions = s.mTimeBasedTrackingSessions :=
    startMultiplex_frame.1
  have hsupported : p.1.isMessageSupported = s.isMessageSupported := startMultiplex_frame.2
  have hsave : (p.1.saveTrackingSession client id o).mTimeBasedTrackingSessions =
      p.1.mTimeBasedTrackingSessions.insert ⟨client, id⟩ o :=
    saveTrackingSession_timeBased (by rwa [hsupported])
  rw [Multiplexes, reportWithNoWait_sessions, reportWithNoWait_lastSent,
    saveTrackingSession_lastSent, hsave, hsame, OrdMap.vals_insert, OrdMap.erase_of_find hk.fresh]
  exact agrees_start h hv hk

theorem updateMultiplex_frame :
    (s.updateTrackingMultiplex client id o).1.mTimeBasedTrackingSessions =
        s.mTimeBasedTrackingSessions ∧
      (s.updateTrackingMultiplex client id o).1.isMessageSupported = s.isMessageSupported := by
  have hsend : ∀ p : TrackingOptions × Bool, (if p.2 = true then
      (s.startTimeBasedTracking client id p.1, false) else (s, true)).1.mTimeBasedTrackingSessions =
        s.mTimeBasedTrackingSessions ∧ (if p.2 = true then
      (s.startTimeBasedTracking client id p.1, false) else (s, true)).1.isMessageSupported =
        s.isMessageSupported := fun p => by
    split_ifs <;> exact ⟨rfl, rfl⟩
  unfold updateTrackingMultiplex
  cases s.mTimeBasedTrackingSessions.find ⟨client, id⟩ with
  | none => exact ⟨rfl, rfl⟩
  | some old =>
    dsimp only
    by_cases hchanged : old.minInterval ≠ o.minInterval ∨ old.powerMode ≠ o.powerMode
    · rw [if_pos hchanged]
      exact hsend _
    · rw [if_neg hchanged]
      exact ⟨rfl, rfl⟩

theorem stopMultiplex_frame :
    (s.stopTimeBasedTrackingMultiplex client id).1.mTimeBasedTrackingSessions =
        s.mTimeBasedTrackingSessions ∧
      (s.stopTimeBasedTrackingMultiplex client id).1.isMessageSupported =
        s.isMessageSupported := by
  unfold stopTimeBasedTrackingMultiplex
  split_ifs
  · exact ⟨rfl, rfl⟩
  · split
    · exact ⟨rfl, rfl⟩
    · dsimp only
      split_ifs <;> exact ⟨rfl, rfl⟩

/-- A session is stopped and erased. -/
theorem multiplexes_stop (h : s.Multiplexes) (hv : s.SessionsValid)
    (htime : s.isTimeBasedTrackingSession client id = true) :
    let p := s.stopTimeBasedTrackingMultiplex client id
    (reportWithNoWait (p.1.eraseTrackingSession client id, p.2) client id).Multiplexes := by
  intro p
  obtain ⟨old, hfind⟩ := find_of_timeBased htime
  have hsame : p.1.mTimeBasedTrackingSessions = s.mTimeBasedTrackingSessions :=
    stopMultiplex_frame.1
  have htime' : p.1.isTimeBasedTrackingSession client id = true := by
    rwa [isTimeBasedTrackingSession, hsame]
  rw [Multiplexes, reportWithNoWait_sessions, reportWithNoWait_lastSent,
    eraseTrackingSession_lastSent, eraseTrackingSession_timeBased htime', hsame]
  exact agrees_stop h hv hfind

/-- A session stays time based. -/
theorem multiplexes_update (h : s.Multiplexes) (hv : s.SessionsValid)
    (htime : s.isTimeBasedTrackingSession client id = true) (hdist : o.minDistance = 0)
    (hk : UpdateKeeps s.mTimeBasedTrackingSessions ⟨client, id⟩ o) :
    let p := s.updateTrackingMultiplex client id o
    (reportWithNoWait (p.1.saveTrackingSession client id o, p.2) client id).Multiplexes := by
  intro p
  obtain ⟨old, hfind⟩ := find_of_timeBased htime
  have hsame : p.1.mTimeBasedTrackingSessions = s.mTimeBasedTrackingSessions :=
    updateMultiplex_frame.1
  have hsave : (p.1.saveTrackingSession client id o).mTimeBasedTrackingSessions =
      p.1.mTimeBasedTrackingSessions.insert ⟨client, id⟩ o :=
    saveTrackingSession_timeBased (by simp [hdist])
  rw [Multiplexes, reportWithNoWait_sessions, reportWithNoWait_lastSent,
    saveTrackingSession_lastSent, hsave, hsame, OrdMap.vals_insert]
  exact agrees_update h hv hfind hk

/-- Other requests change neither the sessions nor the options last sent. -/
theorem Multiplexes.request (h : s.Multiplexes) {q : EngineRequest} (r : List TrackingResponse)
    (hq : q.timeBased? = none) : (s.request q r).Multiplexes := by
  rw [Multiplexes, lastSent_request, hq]
  exact h

/-- A session becomes distance based. -/
theorem Multiplexes.save (h : s.Multiplexes)
    (hdist : 0 < o.minDistance ∧ s.isMessageSupported = true) :
    (s.saveTrackingSession client id o).Multiplexes := by
  rw [Multiplexes, saveTrackingSession_lastSent, saveTrackingSession_distanceBased hdist]
  exact h

theorem Multiplexes.erase (h : s.Multiplexes)
    (hdist : s.isTimeBasedTrackingSession client id = false) :
    (s.eraseTrackingSession client id).Multiplexes := by
  rw [Multiplexes, eraseTrackingSession_lastSent, eraseTrackingSession_distanceBased hdist]
  exact h

theorem Multiplexes.procStartTracking (h : s.Multiplexes) (hv : s.SessionsValid)
    (hk : s.MsgKeeps (.startTracking client id o)) : (s.procStartTracking client id o).Multiplexes := by
  unfold GnssTracking.procStartTracking
  dsimp only
  split_ifs with hpend hskip hdist
  · exact h
  · exact h
  · exact (h.save hdist).request _ rfl
  · simp only [not_or, Bool.not_eq_false] at hskip
    rw [minDistance_clampInterval] at hdist
    exact multiplexes_start h hv (hk hpend hskip.1 hskip.2 hdist) (by simpa using hdist)

theorem supported_erase : (s.eraseTrackingSession client id).isMessageSupported =
    s.isMessageSupported := by
  unfold eraseTrackingSession; split_ifs <;> rfl

theorem supported_reportWithNoWait {p : GnssTracking × Bool} :
    (reportWithNoWait p client id).isMessageSupported = p.1.isMessageSupported := by
  unfold reportWithNoWait; split_ifs <;> rfl

theorem Multiplexes.updateSession (h : s.Multiplexes) (hv : s.SessionsValid)
    (hk : s.isTimeBasedTrackingSession client id = true →
      (0 < o.minDistance → s.isMessageSupported = true) ∧
        (o.minDistance = 0 → s.isDistanceBasedTrackingSession client id = false ∧
          UpdateKeeps s.mTimeBasedTrackingSessions ⟨client, id⟩ o)) :
    (s.updateSession client id o).Multiplexes := by
  unfold GnssTracking.updateSession
  dsimp only
  split_ifs with htoDistance htoTime htime
  · have hstop := multiplexes_stop h hv htoDistance.1
    refine (hstop.save ⟨htoDistance.2, ?_⟩).request _ rfl
    rw [supported_reportWithNoWait, supported_erase, stopMultiplex_frame.2]
    exact (hk htoDistance.1).1 htoDistance.2
  · have hnot : s.isTimeBasedTrackingSession client id = false := by
      by_contra htime
      rw [Bool.not_eq_false] at htime
      rw [((hk htime).2 htoTime.2).1] at htoTime
      exact nomatch htoTime.1
    exact (h.erase hnot).request _ rfl
  · have hzero : o.minDistance = 0 := by
      by_contra hpos
      exact htoDistance ⟨htime, Nat.pos_of_ne_zero hpos⟩
    exact multiplexes_update h hv htime hzero ((hk htime).2 hzero).2
  · exact h.request _ rfl

theorem Multiplexes.procUpdateTracking (h : s.Multiplexes) (hv : s.SessionsValid)
    (hk : s.MsgKeeps (.updateTracking client id o)) :
    (s.procUpdateTracking client id o).Multiplexes := by
  unfold GnssTracking.procUpdateTracking
  split_ifs with hpend hunknown hsize
  · exact h
  · exact h
  · exact h
  · refine Multiplexes.updateSession h hv fun htime => ?_
    simpa using hk hpend hsize htime

theorem Multiplexes.procStopTracking (h : s.Multiplexes) (hv : s.SessionsValid) :
    (s.procStopTracking client id).Multiplexes := by
  unfold GnssTracking.procStopTracking
  dsimp only
  split_ifs with htime
  · exact multiplexes_stop h hv htime
  · exact h.request _ rfl
  · exact h

/-- Stopping a session of a client that is removed sends nothing, or stops the engine. -/
theorem stopMultiplex_removal (hv : s.SessionsValid)
    (hk : ∀ old, s.mTimeBasedTrackingSessions.find ⟨client, id⟩ = some old →
      (s.mTimeBasedTrackingSessions.erase ⟨client, id⟩).isEmpty = true ∨
        ¬ Lowers (s.mTimeBasedTrackingSessions.erase ⟨client, id⟩).vals old) :
    (s.stopTimeBasedTrackingMultiplex client id).1.lastSent = s.lastSent := by
  unfold stopTimeBasedTrackingMultiplex
  split_ifs with hsize
  · rw [stopTracking, lastSent_request]
    rfl
  · cases hfind : s.mTimeBasedTrackingSessions.find ⟨client, id⟩ with
    | none => rfl
    | some old =>
      have hempty : (s.mTimeBasedTrackingSessions.erase ⟨client, id⟩).isEmpty = false := by
        simpa using fun he => hsize ((OrdMap.size_eq_one hfind).2 he)
      have hnot := (hk old hfind).resolve_left (by simp [hempty])
      have hm := multiplexed_foldl hempty (hv.erase ⟨client, id⟩)
      rw [← multiplex_some] at hm
      dsimp only
      rw [if_neg]
      rw [hm.faster_iff, hm.stronger_iff]
      exact hnot

theorem Multiplexes.stopClientSessions (h : s.Multiplexes) (hv : s.SessionsValid)
    (hk : RemovalKeeps s.mTimeBasedTrackingSessions client) :
    (s.stopClientSessions client).Multiplexes := by
  unfold GnssTracking.stopClientSessions
  refine List.foldlRecOn _ _ ?_ fun s hs key _ => hs.request _ rfl
  -- no time based session is erased, and nothing is sent
  have hloop := List.foldlRecOn
    ((s.mTimeBasedTrackingSessions.entries.map Prod.fst).filter fun key => client = key.client)
    (fun (t : GnssTracking) key => (t.stopTimeBasedTrackingMultiplex key.client key.id).1)
    (motive := fun t : GnssTracking => t.mTimeBasedTrackingSessions = s.mTimeBasedTrackingSessions ∧
      t.lastSent = s.lastSent) ⟨rfl, rfl⟩ fun t ht key hkey => by
        obtain ⟨hsame, hlast⟩ := ht
        refine ⟨stopMultiplex_frame.1.trans hsame, ?_⟩
        rw [stopMultiplex_removal (by rwa [SessionsValid, hsame]) fun old hfind => ?_, hlast]
        rw [hsame] at hfind ⊢
        exact hk _ old hfind (by simpa using (List.mem_filter.1 hkey).2)
  rw [Multiplexes, hloop.1, hloop.2]
  exact h

theorem Multiplexes.restartSessions (hv : s.SessionsValid) : s.restartSessions.Multiplexes := by
  unfold GnssTracking.restartSessions
  refine List.foldlRecOn _ _ ?_ fun s hs it _ => hs.request _ rfl
  split_ifs with hempty
  · intro hne
    rw [OrdMap.vals_eq_empty.2 hempty] at hne
    exact absurd hne Set.not_nonempty_empty
  · exact fun _ => ⟨_, rfl, least_restartOptions (by simpa using hempty) hv⟩

theorem Multiplexes.procResponse (h : s.Multiplexes) (hv : s.SessionsValid) {r : TrackingResponse}
    (hk : s.MsgKeeps (.response r)) : (s.procResponse r).Multiplexes := by
  cases r with
  | report => exact h
  | erase => exact h.erase hk
  | eraseAndReport => exact h.erase hk
  | startTimeBased client id o => exact multiplexes_start h hv hk.2 (by simp [hk.1])
  | startDistanceBased => exact h.request _ rfl
  | saveAndReport => exact h.save hk

/-- A message that meets its condition leaves the engine at the least pair. -/
theorem Multiplexes.proc (h : s.Multiplexes) (hv : s.SessionsValid) {msg : TrackingMsg}
    (hk : s.MsgKeeps msg) : (s.proc msg).Multiplexes := by
  cases msg with
  | addClient => exact h
  | removeClient client => exact Multiplexes.stopClientSessions h hv hk
  | startTracking => exact h.procStartTracking hv hk
  | updateTracking => exact h.procUpdateTracking hv hk
  | stopTracking => exact h.procStopTracking hv
  | handleEngineUpEvent =>
    exact Multiplexes.restartSessions (s := { s with mIsEngineCapabilitiesKnown := true }) hv
  | response => exact h.procResponse hv hk

end Messages

/-! ### Runs -/

section Runs

variable {s s' : GnssTracking} {e : TrackingEvent}

theorem Sane.sendMsg (h : s.Sane) (msg : TrackingMsg) (hm : msg.Valid) : (s.sendMsg msg).Sane :=
  ⟨h.sessions, fun m hmem => (List.mem_append.1 hmem).elim (h.queue m) fun hmem =>
    List.mem_singleton.1 hmem ▸ hm, h.pending, h.outstanding⟩

theorem keeps_step (hs : s.Sane) (h : s.Multiplexes) (hk : s.Keeps e) (hst : s.step e = some s') :
    s'.Sane ∧ s'.Multiplexes := by
  cases e with
  | addClientCommand | removeClientCommand | stopTrackingCommand | handleEngineUpEvent =>
    obtain rfl := Option.some.inj hst
    exact ⟨hs.sendMsg _ trivial, h⟩
  | startTrackingCommand client o =>
    obtain rfl := Option.some.inj hst
    have hs₀ : ({ s with mSessionIdCounter := s.generateSessionId } : GnssTracking).Sane :=
      ⟨hs.sessions, hs.queue, hs.pending, hs.outstanding⟩
    exact ⟨hs₀.sendMsg (.startTracking client _ o) hk, h⟩
  | updateTrackingOptionsCommand =>
    obtain rfl := Option.some.inj hst
    exact ⟨hs.sendMsg (.updateTracking _ _ _) hk, h⟩
  | generateSessionId | setEngineCapabilities =>
    obtain rfl := Option.some.inj hst
    exact ⟨⟨hs.sessions, hs.queue, hs.pending, hs.outstanding⟩, h⟩
  | returnToSender r =>
    simp only [step, Option.ite_none_right_eq_some] at hst
    obtain ⟨hmem, hst⟩ := hst
    obtain rfl := Option.some.inj hst
    have hs₀ : ({ s with outstanding := s.outstanding.erase r } : GnssTracking).Sane :=
      ⟨hs.sessions, hs.queue, hs.pending, fun x hx => hs.outstanding x (List.mem_of_mem_erase hx)⟩
    exact ⟨hs₀.sendMsg (.response r) (hs.outstanding r hmem), h⟩
  | process =>
    cases hqueue : s.queue with
    | nil => simp [step, hqueue] at hst
    | cons msg queue =>
      simp only [step, hqueue] at hst
      obtain rfl := Option.some.inj hst
      have hs₀ : ({ s with queue := queue } : GnssTracking).Sane :=
        ⟨hs.sessions, fun m hm => hs.queue m (hqueue ▸ List.mem_cons_of_mem msg hm), hs.pending,
          hs.outstanding⟩
      have hk₀ : ({ s with queue := queue } : GnssTracking).MsgKeeps msg := by
        have hmsg := hk msg queue hqueue
        cases msg with
        | response r => cases r <;> exact hmsg
        | _ => exact hmsg
      exact ⟨hs₀.proc (hs.queue msg (hqueue ▸ List.mem_cons_self)),
        Multiplexes.proc (s := { s with queue := queue }) h hs₀.sessions hk₀⟩

/-- **The time based sessions are multiplexed.**  In a run of steps that keep the pair, whenever
there is a time based session, the options last sent to the engine have the least interval and the
least power mode of all of them, as the options that a restart computes from scratch. -/
theorem multiplex_agrees {es : List TrackingEvent} (h : system.Run Keeps es s)
    (hne : s.mTimeBasedTrackingSessions.vals.Nonempty) :
    ∃ o, s.lastSent = some o ∧ Least s.mTimeBasedTrackingSessions.vals o ∧
      o.minInterval = (restartOptions s.mTimeBasedTrackingSessions).minInterval ∧
      o.powerMode = (restartOptions s.mTimeBasedTrackingSessions).powerMode := by
  have hinv : s.Sane ∧ s.Multiplexes := h.invariant (I := fun s => s.Sane ∧ s.Multiplexes)
    ⟨⟨fun v ⟨_, hv⟩ => (nomatch hv), nofun, nofun, nofun⟩, fun ⟨v, _, hv⟩ => (nomatch hv)⟩
    fun _ _ _ h hk hst => keeps_step h.1 h.2 hk hst
  obtain ⟨o, hlast, hleast⟩ := hinv.2 hne
  have hrestart := least_restartOptions (S := s.mTimeBasedTrackingSessions) (by
    rw [Set.nonempty_iff_ne_empty, ne_eq, OrdMap.vals_eq_empty] at hne
    simpa using hne) hinv.1.sessions
  exact ⟨o, hlast, hleast, hleast.minInterval.unique hrestart.minInterval,
    hleast.powerMode.unique hrestart.powerMode⟩

/-- Options for time based tracking. -/
def timeBased (minInterval : ℕ) (powerMode : GnssPowerMode) : TrackingOptions :=
  ⟨TrackingOptions.sizeof, minInterval, 0, .STANDALONE, 0, powerMode, 0⟩

/-- A client starts two sessions, of which the second lowers nothing. -/
theorem multiplex_agrees_two :
    ∃ s, system.Run Keeps
        [.addClientCommand 0 true, .process, .startTrackingCommand 0 (timeBased 1000 .M1), .process,
          .startTrackingCommand 0 (timeBased 2000 .M2), .process] s ∧
      ∃ o, s.lastSent = some o ∧ Least s.mTimeBasedTrackingSessions.vals o ∧
        o.minInterval = (restartOptions s.mTimeBasedTrackingSessions).minInterval ∧
        o.powerMode = (restartOptions s.mTimeBasedTrackingSessions).powerMode := by
  have h₁ : system.Run Keeps [.addClientCommand 0 true] _ := .snoc .nil trivial rfl
  have h₂ := h₁.snoc (e := TrackingEvent.process) (fun msg queue hq => by cases hq; trivial) rfl
  have h₃ := h₂.snoc (e := TrackingEvent.startTrackingCommand 0 (timeBased 1000 .M1)) nofun rfl
  have h₄ := h₃.snoc (e := TrackingEvent.process) (fun msg queue hq => by
    cases hq
    exact fun _ _ _ _ => ⟨rfl, fun _ hnot => absurd (fun v ⟨_, hv⟩ => nomatch hv) hnot⟩) rfl
  have h₅ := h₄.snoc (e := TrackingEvent.startTrackingCommand 0 (timeBased 2000 .M2)) nofun rfl
  have h₆ := h₅.snoc (e := TrackingEvent.process) (fun msg queue hq => by
    cases hq
    refine fun _ _ _ _ => ⟨rfl, fun hfast => absurd (hfast (timeBased 1000 .M1) ?_) (by decide)⟩
    exact ⟨⟨0, 2⟩, List.mem_cons_self⟩) rfl
  exact ⟨_, h₆, multiplex_agrees h₆ ⟨_, ⟨0, 2⟩, List.mem_cons_self⟩⟩

/-- The third session has the smallest interval.  The options sent have the power mode of the first
one, which is not the smallest. -/
theorem multiplex_disagrees :
    ∃ s, system.Run System.Free
        [.addClientCommand 0 true, .process, .startTrackingCommand 0 (timeBased 1000 .M2), .process,
          .startTrackingCommand 0 (timeBased 2000 .M1), .process,
          .startTrackingCommand 0 (timeBased 500 .M3), .process] s ∧
      ¬ s.Multiplexes := by
  have h₁ : system.Run System.Free [.addClientCommand 0 true] _ := .snoc .nil trivial rfl
  have h₂ := h₁.snoc (e := TrackingEvent.process) trivial rfl
  have h₃ := h₂.snoc (e := TrackingEvent.startTrackingCommand 0 (timeBased 1000 .M2)) trivial rfl
  have h₄ := h₃.snoc (e := TrackingEvent.process) trivial rfl
  have h₅ := h₄.snoc (e := TrackingEvent.startTrackingCommand 0 (timeBased 2000 .M1)) trivial rfl
  have h₆ := h₅.snoc (e := TrackingEvent.process) trivial rfl
  have h₇ := h₆.snoc (e := TrackingEvent.startTrackingCommand 0 (timeBased 500 .M3)) trivial rfl
  refine ⟨_, h₇.snoc (e := TrackingEvent.process) trivial rfl, fun h => ?_⟩
  obtain ⟨o, hlast, hleast⟩ := h ⟨timeBased 2000 .M1, ⟨0, 3⟩, by decide⟩
  have hle := hleast.powerMode.2 ⟨timeBased 2000 .M1, ⟨⟨0, 3⟩, by decide⟩, rfl⟩
  cases hlast
  exact absurd hle (by decide)

end Runs

end GnssTracking

end GpsHal
