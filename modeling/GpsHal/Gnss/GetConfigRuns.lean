import GpsHal.Gnss.GetConfig

/-!
# `GnssAdapter` : the answers to `gnssGetConfigCommand`

Every command is answered once, with its own ids and in the order of the bits, whether its message had
to wait for the engine or not; and the arrays of ids are exactly those of the messages that wait.  The
client that keeps the pointer it was given finds it in the answer only if the message has not been
copied in between.

## Main results

* `GetConfigAdapter.errs_eq` : the errors of a message.
* `GetConfigAdapter.generatedIds_nodup` : the ids differ until the counter has gone round.
* `GetConfigAdapter.accounted_of_run` : the commands and the arrays after every run.
-/

namespace GpsHal

namespace GetConfigAdapter

variable {s : GetConfigAdapter} {m : MsgGnssGetConfig} {H H' : List MsgGnssGetConfig}

/-! ### Ids -/

/-- The id that is given out as number `n`, the first one being number 1. -/
def idOf (n : ℕ) : BitVec 32 := BitVec.ofNat 32 (n % 0xFFFFFFFE + 1)

theorem idOf_toNat (n : ℕ) : (idOf n).toNat = n % 0xFFFFFFFE + 1 := by
  rw [idOf, BitVec.toNat_ofNat]
  omega

theorem idOf_succ (n : ℕ) : (if idOf n + 1 = 0xFFFFFFFF then 1 else idOf n + 1) = idOf (n + 1) := by
  have hn := idOf_toNat n
  have hadd : (idOf n + 1).toNat = n % 0xFFFFFFFE + 2 := by
    rw [BitVec.toNat_add, hn]
    simp only [BitVec.ofNat_eq_ofNat, BitVec.toNat_ofNat]
    omega
  apply BitVec.eq_of_toNat_eq
  rw [idOf_toNat]
  split
  · rename_i h
    have : (idOf n + 1).toNat = 0xFFFFFFFF := by rw [h]; rfl
    simp only [BitVec.ofNat_eq_ofNat, BitVec.toNat_ofNat]
    omega
  · rename_i h
    have : (idOf n + 1).toNat ≠ 0xFFFFFFFF := fun h' => h (BitVec.eq_of_toNat_eq h')
    omega

/-- The counter has given out these ids. -/
structure Counted (s : GetConfigAdapter) : Prop where
  ids : s.generatedIds = (List.range s.generatedIds.length).map fun i => idOf (i + 1)
  counter : s.mSessionIdCounter = idOf s.generatedIds.length

theorem Counted.generateSessionId (h : s.Counted) : s.generateSessionId.1.Counted := by
  have hnext : s.generateSessionId.2 = idOf (s.generatedIds.length + 1) := by
    rw [GetConfigAdapter.generateSessionId, h.counter]
    exact idOf_succ _
  have hids : s.generateSessionId.1.generatedIds = s.generatedIds ++ [s.generateSessionId.2] := rfl
  have hlen : s.generateSessionId.1.generatedIds.length = s.generatedIds.length + 1 := by
    rw [hids, List.length_append]
    rfl
  constructor
  · rw [hlen, List.range_succ, List.map_append, ← h.ids, hids, hnext]
    rfl
  · rw [hlen]
    exact hnext

theorem Counted.generateIds (h : s.Counted) (count : ℕ) : (generateIds count s).1.Counted := by
  induction count generalizing s with
  | zero => exact h
  | succ count ih => exact ih h.generateSessionId

/-- Until the counter has gone round, no id is given out twice. -/
theorem generatedIds_nodup (h : s.Counted) (hlen : s.generatedIds.length ≤ 0xFFFFFFFE) :
    s.generatedIds.Nodup := by
  rw [h.ids]
  refine List.Nodup.map_on (fun i hi j hj hij => ?_) List.nodup_range
  have hij' := congrArg BitVec.toNat hij
  rw [idOf_toNat, idOf_toNat] at hij'
  rw [List.mem_range] at hi hj
  omega

/-- What `generateIds` changes. -/
theorem generateIds_eq (count : ℕ) (s : GetConfigAdapter) : ∃ counter,
    (generateIds count s).1 = { s with
      mSessionIdCounter := counter
      generatedIds := s.generatedIds ++ (generateIds count s).2 } := by
  induction count generalizing s with
  | zero => exact ⟨s.mSessionIdCounter, by simp [generateIds]⟩
  | succ count ih =>
    obtain ⟨counter, heq⟩ := ih s.generateSessionId.1
    refine ⟨counter, ?_⟩
    have hstep : (generateIds (count + 1) s).1 = (generateIds count s.generateSessionId.1).1 := rfl
    rw [hstep, heq]
    simp [generateIds, generateSessionId]

theorem generateIds_length (count : ℕ) (s : GetConfigAdapter) :
    (generateIds count s).2.length = count := by
  induction count generalizing s with
  | zero => rfl
  | succ count ih => simp [generateIds, ih]

/-! ### The errors of a message -/

theorem settings_eq (supported : Bool) : settings supported =
    (List.range 12).map fun bit => (1#32 <<< bit, outcome supported bit) := by
  cases supported <;> decide

/-- While there is room, the errors of the requested settings are written one after another. -/
theorem foldl_writeErr {l : List (BitVec 32 × LocationError)} {errs : List LocationError}
    (hroom : errs.length + (l.filter fun x => hasFlag m.mConfigMask x.1).length ≤ m.mCount) :
    l.foldl (writeErr m) errs = errs ++ (l.filter fun x => hasFlag m.mConfigMask x.1).map (·.2) := by
  induction l generalizing errs with
  | nil => simp
  | cons x l ih =>
    rw [List.foldl_cons, writeErr]
    rw [List.filter_cons] at hroom ⊢
    cases hx : hasFlag m.mConfigMask x.1 with
    | false =>
      rw [hx] at hroom
      simpa using ih hroom
    | true =>
      rw [hx, if_pos rfl, List.length_cons] at hroom
      have hlt : errs.length < m.mCount := by omega
      simp only [hlt, decide_true, Bool.and_true, if_true, List.map_cons]
      rw [ih (by rw [List.length_append, List.length_singleton]; omega), List.append_assoc]
      rfl

theorem filter_settings (flags : BitVec 32) (supported : Bool) :
    ((settings supported).filter fun x => hasFlag flags x.1).map (·.2) =
      ((List.range 12).filter flags.getLsbD).map (outcome supported) := by
  have hflag : (List.range 12).filter (fun bit => hasFlag flags (1#32 <<< bit)) =
      (List.range 12).filter flags.getLsbD := by
    refine List.filter_congr fun bit hbit => ?_
    rw [List.mem_range] at hbit
    exact hasFlag_bit flags _ bit (by omega) rfl
  rw [settings_eq, List.filter_map, List.map_map, ← hflag]
  rfl

theorem errs_eq (supported : Bool) (hm : m.mCount = (requestedBits m.mConfigMask).length) :
    (settings supported).foldl (writeErr m) [] =
      ((List.range 12).filter m.mConfigMask.getLsbD).map (outcome supported) := by
  have hsub : ((List.range 12).filter m.mConfigMask.getLsbD).Sublist (requestedBits m.mConfigMask) :=
    (List.range_sublist.2 (by omega)).filter _
  have hlen := congrArg List.length (filter_settings m.mConfigMask supported)
  rw [List.length_map, List.length_map] at hlen
  rw [foldl_writeErr, List.nil_append, filter_settings]
  rw [hlen, List.length_nil, Nat.zero_add, hm]
  exact hsub.length_le

/-- With bits that have a meaning only, there is an error for each id. -/
theorem errs_length {flags : BitVec 32} (h : flags.toNat < 0x1000) :
    (List.range 12).filter flags.getLsbD = requestedBits flags := by
  have hsplit : List.range 32 = List.range 12 ++ (List.range 20).map (12 + ·) := rfl
  have hnone : ((List.range 20).map (12 + ·)).filter flags.getLsbD = [] := by
    rw [List.filter_eq_nil_iff]
    intro bit hbit
    obtain ⟨i, -, rfl⟩ := List.mem_map.1 hbit
    rw [BitVec.getLsbD, Nat.testBit_lt_two_pow]
    · simp
    · have hpow : 2 ^ 12 ≤ 2 ^ (12 + i) := Nat.pow_le_pow_right (by omega) (by omega)
      omega
  rw [requestedBits, hsplit, List.filter_append, hnone, List.append_nil]

/-! ### Commands and arrays -/

/-- The numbers of the arrays come from the counter of the allocations. -/
structure Allocated (s : GetConfigAdapter) : Prop where
  arrays : ∀ array, s.arrays array ≠ none → array < s.allocated
  commands : ∀ c ∈ s.commands, c.array < s.allocated

theorem Accounted.perm (h : s.Accounted H) (hp : H.Perm H') : s.Accounted H' where
  once := (((hp.symm.append_right _).map _).trans h.once)
  waits m hm := h.waits m (hp.mem_iff.2 hm)
  owner array ha := (h.owner array ha).imp fun _ hm => ⟨hp.mem_iff.1 hm.1, hm.2⟩
  distinct := (hp.map _).nodup_iff.1 h.distinct
  freedOnce := h.freedOnce
  answered := h.answered
  requests := h.requests
  idsLength := h.idsLength
  generated := h.generated

theorem Accounted.lt_allocated (h : s.Accounted H) (ha : s.Allocated) (hm : m ∈ H) :
    m.mIds < s.allocated := by
  obtain ⟨c, -, -, harr⟩ := h.waits m hm
  exact ha.arrays _ (by rw [harr]; exact Option.some_ne_none _)

/-- A command with a new array. -/
theorem Accounted.issue {configMask : BitVec 32} {ids : List (BitVec 32)} (h : s.Accounted H)
    (ha : s.Allocated) (hids : ids.length = (requestedBits configMask).length)
    (hgen : (s.commands.flatMap (·.ids) ++ ids).Sublist s.generatedIds) :
    (s.issue configMask ids.length ids).Accounted
      (H ++ [⟨configMask, s.allocated, ids.length, s.commands.length, false⟩]) := by
  set new : MsgGnssGetConfig := ⟨configMask, s.allocated, ids.length, s.commands.length, false⟩
  have hold : ∀ {n : ℕ} {c}, s.commands[n]? = some c →
      (s.commands ++ [GetConfigCommand.mk configMask s.allocated ids])[n]? = some c := by
    intro n c hc
    rw [List.getElem?_append_left (List.getElem?_eq_some_iff.1 hc).1, hc]
  constructor
  case once =>
    have hmsgs : (H ++ [new] ++ s.answers.map (·.msg)).Perm (H ++ s.answers.map (·.msg) ++ [new]) := by
      rw [List.append_assoc, List.append_assoc]
      exact List.perm_append_comm.append_left H
    refine (hmsgs.map _).trans ?_
    rw [List.map_append, show (s.issue configMask ids.length ids).commands.length =
      s.commands.length + 1 from List.length_append, List.range_succ]
    exact h.once.append_right _
  case waits =>
    intro m hm
    rcases List.mem_append.1 hm with hm | hm
    · obtain ⟨c, hc, hcar, harr⟩ := h.waits m hm
      refine ⟨c, hold hc, hcar, ?_⟩
      have hne : m.mIds ≠ s.allocated := (h.lt_allocated ha hm).ne
      show Function.update s.arrays s.allocated (some ids) m.mIds = _
      rw [Function.update_of_ne hne, harr]
    · obtain rfl := List.mem_singleton.1 hm
      refine ⟨⟨configMask, s.allocated, ids⟩, List.getElem?_concat_length, ⟨rfl, rfl, iff_of_true rfl rfl⟩, ?_⟩
      exact Function.update_self ..
  case owner =>
    intro array harr
    by_cases hnew : array = s.allocated
    · exact ⟨_, List.mem_append_right _ (List.mem_singleton_self _), hnew.symm⟩
    · have hold' : s.arrays array ≠ none := by
        rwa [show (s.issue configMask ids.length ids).arrays array = s.arrays array from
          Function.update_of_ne hnew ..] at harr
      exact (h.owner array hold').imp fun _ hm => ⟨List.mem_append_left _ hm.1, hm.2⟩
  case distinct =>
    rw [List.map_append, List.nodup_append]
    refine ⟨h.distinct, List.nodup_singleton _, ?_⟩
    intro i hi j hj
    obtain ⟨m, hm, rfl⟩ := List.mem_map.1 hi
    obtain rfl := List.mem_singleton.1 hj
    exact (h.lt_allocated ha hm).ne
  case freedOnce => exact h.freedOnce
  case answered =>
    intro a hm
    obtain ⟨c, hc, hrest⟩ := h.answered a hm
    exact ⟨c, hold hc, hrest⟩
  case requests => exact h.requests
  case idsLength =>
    intro c hc
    rcases List.mem_append.1 hc with hc | hc
    · exact h.idsLength c hc
    · obtain rfl := List.mem_singleton.1 hc
      exact hids
  case generated =>
    have heq : (s.commands ++ [GetConfigCommand.mk configMask s.allocated ids]).flatMap (·.ids) =
        s.commands.flatMap (·.ids) ++ ids := by
      simp
    exact heq ▸ hgen

theorem Allocated.alloc (ha : s.Allocated) (ids : List (BitVec 32)) : (s.alloc ids).Allocated := by
  refine ⟨fun array harr => ?_, fun c hc => (ha.commands c hc).trans (Nat.lt_succ_self _)⟩
  by_cases hnew : array = s.allocated
  · rw [hnew]
    exact Nat.lt_succ_self _
  · rw [show (s.alloc ids).arrays array = s.arrays array from Function.update_of_ne hnew ..] at harr
    exact (ha.arrays array harr).trans (Nat.lt_succ_self _)

theorem Allocated.free (ha : s.Allocated) (array : ℕ) : (s.free array).Allocated := by
  refine ⟨fun other harr => ?_, ha.commands⟩
  by_cases hfreed : other = array
  · exact absurd (hfreed ▸ Function.update_self ..) harr
  · exact ha.arrays other fun hnone => harr ((Function.update_of_ne hfreed ..).trans hnone)

theorem Allocated.issue {configMask : BitVec 32} {count : ℕ} {ids : List (BitVec 32)}
    (ha : s.Allocated) : (s.issue configMask count ids).Allocated := by
  refine ⟨(ha.alloc ids).arrays, fun c hc => ?_⟩
  rcases List.mem_append.1 hc with hc | hc
  · exact (ha.commands c hc).trans (Nat.lt_succ_self _)
  · obtain rfl := List.mem_singleton.1 hc
    exact Nat.lt_succ_self _

/-- A message that is answered. -/
theorem Accounted.answer (h : s.Accounted (m :: H)) (hknown : s.mIsEngineCapabilitiesKnown = true) :
    ((s.procGetConfig m).free m.mIds).Accounted H := by
  obtain ⟨c, hc, hcar, harr⟩ := h.waits m List.mem_cons_self
  have hcount : m.mCount = (requestedBits m.mConfigMask).length := by
    rw [hcar.count, hcar.configMask]
    exact h.idsLength c (List.mem_of_getElem? hc)
  have hnotin : m.mIds ∉ H.map (·.mIds) := (List.nodup_cons.1 h.distinct).1
  rw [procGetConfig, if_pos hknown]
  constructor
  case once =>
    refine List.Perm.trans (List.Perm.map _ ?_) h.once
    simp only [free, List.map_append, List.map_cons, List.map_nil]
    rw [← List.append_assoc]
    exact List.perm_append_singleton _ _
  case waits =>
    intro m' hm'
    obtain ⟨c', hc', hcar', harr'⟩ := h.waits m' (List.mem_cons_of_mem _ hm')
    refine ⟨c', hc', hcar', ?_⟩
    have hne : m'.mIds ≠ m.mIds := fun heq => hnotin (heq ▸ List.mem_map_of_mem hm')
    exact (Function.update_of_ne hne ..).trans harr'
  case owner =>
    intro array ha
    have hne : array ≠ m.mIds := by
      rintro rfl
      exact ha (Function.update_self ..)
    have hold : s.arrays array ≠ none := fun hnone => ha ((Function.update_of_ne hne ..).trans hnone)
    obtain ⟨m', hm', hids⟩ := h.owner array hold
    rcases List.mem_cons.1 hm' with rfl | hm'
    · exact absurd hids.symm hne
    · exact ⟨m', hm', hids⟩
  case distinct => exact (List.nodup_cons.1 h.distinct).2
  case freedOnce =>
    have hne : s.arrays m.mIds ≠ none := by rw [harr]; exact Option.some_ne_none _
    exact (if_neg hne).trans h.freedOnce
  case answered =>
    intro a hm
    rcases List.mem_append.1 hm with hm | hm
    · exact h.answered a hm
    · obtain rfl := List.mem_singleton.1 hm
      refine ⟨c, hc, hcar, harr, ?_⟩
      rw [← hcar.configMask]
      exact errs_eq s.supported hcount
  case requests =>
    have hbit := hasFlag_bit m.mConfigMask GNSS_CONFIG_FLAGS_BLACKLISTED_SV_IDS_BIT 10 (by omega) rfl
    simp only [free, List.countP_append, List.countP_singleton, hbit, h.requests]
    split <;> rfl
  case idsLength => exact h.idsLength
  case generated => exact h.generated

/-- A message that is kept until the engine is up. -/
theorem Accounted.keep (h : s.Accounted (m :: H)) (ha : s.Allocated)
    (hknown : ¬ s.mIsEngineCapabilitiesKnown = true) :
    ((s.procGetConfig m).free m.mIds).Accounted
      ({ m with mIds := s.allocated, copied := true } :: H) := by
  obtain ⟨c, hc, hcar, harr⟩ := h.waits m List.mem_cons_self
  have hnotin : m.mIds ∉ H.map (·.mIds) := (List.nodup_cons.1 h.distinct).1
  have hlt : m.mIds < s.allocated := h.lt_allocated ha List.mem_cons_self
  have hlt' : ∀ {m'}, m' ∈ H → m'.mIds < s.allocated := fun hm' =>
    h.lt_allocated ha (List.mem_cons_of_mem _ hm')
  rw [procGetConfig, if_neg hknown]
  constructor
  case once => exact h.once
  case waits =>
    intro m' hm'
    rcases List.mem_cons.1 hm' with rfl | hm'
    · have harray : s.allocated ≠ c.array := (ha.commands c (List.mem_of_getElem? hc)).ne'
      refine ⟨c, hc, ⟨hcar.configMask, hcar.count, by simp [harray]⟩, ?_⟩
      refine (Function.update_of_ne hlt.ne' ..).trans ((Function.update_self ..).trans ?_)
      rw [harr]
      rfl
    · obtain ⟨c', hc', hcar', harr'⟩ := h.waits m' (List.mem_cons_of_mem _ hm')
      refine ⟨c', hc', hcar', ?_⟩
      have hne : m'.mIds ≠ m.mIds := fun heq => hnotin (heq ▸ List.mem_map_of_mem hm')
      exact (Function.update_of_ne hne ..).trans ((Function.update_of_ne (hlt' hm').ne ..).trans harr')
  case owner =>
    intro array harray
    have hne : array ≠ m.mIds := by
      rintro rfl
      exact harray (Function.update_self ..)
    by_cases hnew : array = s.allocated
    · exact ⟨_, List.mem_cons_self, hnew.symm⟩
    · have hold : s.arrays array ≠ none := fun hnone => harray
        ((Function.update_of_ne hne ..).trans ((Function.update_of_ne hnew ..).trans hnone))
      obtain ⟨m', hm', hids⟩ := h.owner array hold
      rcases List.mem_cons.1 hm' with rfl | hm'
      · exact absurd hids.symm hne
      · exact ⟨m', List.mem_cons_of_mem _ hm', hids⟩
  case distinct =>
    refine List.nodup_cons.2 ⟨fun hmem => ?_, (List.nodup_cons.1 h.distinct).2⟩
    obtain ⟨m', hm', heq⟩ := List.mem_map.1 hmem
    exact absurd heq (hlt' hm').ne
  case freedOnce =>
    have harr' : Function.update s.arrays s.allocated (some ((s.arrays m.mIds).getD [])) m.mIds ≠ none := by
      rw [Function.update_of_ne hlt.ne, harr]
      exact Option.some_ne_none _
    exact (if_neg harr').trans h.freedOnce
  case answered => exact h.answered
  case requests => exact h.requests
  case idsLength => exact h.idsLength
  case generated => exact h.generated

/-! ### Runs -/

/-- **Invariant.** -/
structure Inv (s : GetConfigAdapter) : Prop where
  accounted : s.Accounted s.held
  allocated : s.Allocated
  counted : s.Counted
  pending : s.mIsEngineCapabilitiesKnown = true → s.mPendingMsgs = []

theorem Inv.init : Inv init where
  accounted := by
    constructor <;> simp [GetConfigAdapter.init, held]
  allocated := by
    constructor <;> simp [GetConfigAdapter.init]
  counted := ⟨rfl, rfl⟩
  pending _ := rfl

/-- More ids have been given out. -/
theorem Accounted.generated_mono (h : s.Accounted H) (counter : BitVec 32) (ids : List (BitVec 32)) :
    { s with mSessionIdCounter := counter, generatedIds := s.generatedIds ++ ids }.Accounted H :=
  ⟨h.once, h.waits, h.owner, h.distinct, h.freedOnce, h.answered, h.requests, h.idsLength,
    h.generated.trans (List.sublist_append_left _ _)⟩

/-- The lists of messages do not matter besides. -/
theorem Accounted.requeue (h : s.Accounted H) (known supported : Bool) (queue : List GetConfigMsg)
    (pending : List MsgGnssGetConfig) :
    { s with
      mIsEngineCapabilitiesKnown := known
      supported
      queue
      mPendingMsgs := pending }.Accounted H :=
  ⟨h.once, h.waits, h.owner, h.distinct, h.freedOnce, h.answered, h.requests, h.idsLength, h.generated⟩

theorem Inv.generateSessionId (h : Inv s) : Inv s.generateSessionId.1 where
  accounted := h.accounted.generated_mono _ _
  allocated := ⟨h.allocated.arrays, h.allocated.commands⟩
  counted := h.counted.generateSessionId
  pending := h.pending

theorem Inv.gnssGetConfigCommand (h : Inv s) (configMask : BitVec 32) :
    Inv (s.gnssGetConfigCommand configMask) := by
  rw [GetConfigAdapter.gnssGetConfigCommand]
  split
  swap
  · exact h
  obtain ⟨counter, heq⟩ := generateIds_eq (ConfigAdapter.countFlags 32 configMask) s
  have hlen := generateIds_length (ConfigAdapter.countFlags 32 configMask) s
  have hcounted := h.counted.generateIds (ConfigAdapter.countFlags 32 configMask)
  have hids : ConfigAdapter.countFlags 32 configMask = (requestedBits configMask).length :=
    ConfigAdapter.countFlags_eq 32 configMask
  revert heq hlen hcounted
  generalize generateIds (ConfigAdapter.countFlags 32 configMask) s = r
  obtain ⟨s', ids⟩ := r
  intro heq hlen hcounted
  dsimp only at heq hlen hcounted ⊢
  subst heq
  have hold := h.accounted.generated_mono counter ids
  have halloc : { s with
      mSessionIdCounter := counter
      generatedIds := s.generatedIds ++ ids }.Allocated := ⟨h.allocated.arrays, h.allocated.commands⟩
  rw [← hlen] at hids ⊢
  have hnew := hold.issue halloc hids (h.accounted.generated.append_right ids)
  refine ⟨?_, halloc.issue, ⟨hcounted.ids, hcounted.counter⟩, h.pending⟩
  convert hnew using 1
  simp [held, issue, sendMsg, alloc, getConfig?]

theorem Inv.handleEngineUpEvent (h : Inv s) (supported : Bool) :
    Inv (s.sendMsg (.MsgHandleEngineUpEvent supported)) := by
  have hheld : (s.sendMsg (.MsgHandleEngineUpEvent supported)).held = s.held := by
    simp [held, sendMsg, getConfig?]
  refine ⟨?_, ⟨h.allocated.arrays, h.allocated.commands⟩, ⟨h.counted.ids, h.counted.counter⟩, h.pending⟩
  rw [hheld]
  exact h.accounted.requeue _ _ _ _

/-- The messages that were kept are sent again. -/
theorem held_procEngineUp (supported : Bool) (queue : List GetConfigMsg)
    (hq : s.queue = .MsgHandleEngineUpEvent supported :: queue) :
    s.held.Perm ({ s with queue }.procEngineUp supported).held := by
  have hkept : (s.mPendingMsgs.map GetConfigMsg.MsgGnssGetConfig).filterMap getConfig? =
      s.mPendingMsgs := by
    rw [List.filterMap_map]
    exact List.filterMap_some
  simp only [held, procEngineUp, hq, List.filterMap_append, List.filterMap_cons,
    getConfig?, hkept, List.nil_append]
  exact List.perm_append_comm

theorem Inv.procEngineUp (h : Inv s) {supported : Bool} {queue : List GetConfigMsg}
    (hq : s.queue = .MsgHandleEngineUpEvent supported :: queue) :
    Inv ({ s with queue }.procEngineUp supported) where
  accounted := (h.accounted.perm (held_procEngineUp supported queue hq)).requeue true supported _ []
  allocated := ⟨h.allocated.arrays, h.allocated.commands⟩
  counted := ⟨h.counted.ids, h.counted.counter⟩
  pending _ := rfl

theorem Inv.procGetConfig (h : Inv s) {queue : List GetConfigMsg}
    (hq : s.queue = .MsgGnssGetConfig m :: queue) :
    Inv (({ s with queue }.procGetConfig m).free m.mIds) := by
  have hheld : s.held.Perm (m :: { s with queue }.held) := by
    simp only [held, hq, List.filterMap_cons, getConfig?]
    exact List.perm_middle
  have hnow : { s with queue }.Accounted (m :: { s with queue }.held) :=
    (h.accounted.perm hheld).requeue _ _ queue _
  have halloc : { s with queue }.Allocated := ⟨h.allocated.arrays, h.allocated.commands⟩
  have hcounted : { s with queue }.Counted := ⟨h.counted.ids, h.counted.counter⟩
  by_cases hknown : s.mIsEngineCapabilitiesKnown = true
  · have hanswer := hnow.answer hknown
    have hfree := halloc.free (m.mIds)
    rw [GetConfigAdapter.procGetConfig, if_pos hknown] at hanswer ⊢
    exact ⟨hanswer, ⟨hfree.arrays, hfree.commands⟩, ⟨hcounted.ids, hcounted.counter⟩, h.pending⟩
  · have hkeep := hnow.keep halloc hknown
    have hfree := (halloc.alloc ((s.arrays m.mIds).getD [])).free (m.mIds)
    rw [GetConfigAdapter.procGetConfig, if_neg hknown] at hkeep ⊢
    refine ⟨hkeep.perm ?_, ⟨hfree.arrays, hfree.commands⟩, ⟨hcounted.ids, hcounted.counter⟩,
      fun hk => absurd hk hknown⟩
    simp only [held, free, alloc, List.append_assoc]
    exact List.perm_middle.symm

theorem Inv.step {e : GetConfigEvent} {s' : GetConfigAdapter} (h : Inv s) (hstep : s.step e = some s') :
    Inv s' := by
  cases e with
  | gnssGetConfigCommand configMask =>
    obtain rfl := Option.some.inj hstep
    exact h.gnssGetConfigCommand configMask
  | handleEngineUpEvent supported =>
    obtain rfl := Option.some.inj hstep
    exact h.handleEngineUpEvent supported
  | generateSessionId =>
    obtain rfl := Option.some.inj hstep
    exact h.generateSessionId
  | process =>
    rw [GetConfigAdapter.step] at hstep
    cases hq : s.queue with
    | nil => simp [hq] at hstep
    | cons msg queue =>
      rw [hq] at hstep
      cases msg with
      | MsgGnssGetConfig m =>
        obtain rfl := Option.some.inj hstep
        exact h.procGetConfig hq
      | MsgHandleEngineUpEvent supported =>
        obtain rfl := Option.some.inj hstep
        exact h.procEngineUp hq

theorem inv_of_run {es : List GetConfigEvent} (h : system.Run System.Free es s) : Inv s :=
  h.invariant Inv.init fun _ _ _ hI _ hstep => hI.step hstep

/-- **The answers to `gnssGetConfigCommand`.**  For every order of commands, ids given out to other
commands, engine restarts and messages, the commands are accounted for; when the engine is known and
the thread has nothing left to do, each of them has been answered once and no array is allocated; the
ids are pairwise different until the counter has gone round; and an answer whose mask has only bits
with a meaning holds an error for each id. -/
theorem accounted_of_run {es : List GetConfigEvent} (h : system.Run System.Free es s) :
    s.Accounted s.held ∧
      (s.mIsEngineCapabilitiesKnown = true → s.queue = [] →
        (s.answers.map (·.msg.command)).Perm (List.range s.commands.length) ∧
          ∀ array, s.arrays array = none) ∧
      (s.generatedIds.length ≤ 0xFFFFFFFE → (s.commands.flatMap (·.ids)).Nodup) ∧
      ∀ a ∈ s.answers, a.msg.mConfigMask.toNat < 0x1000 →
        a.errs = (requestedBits a.msg.mConfigMask).map (outcome a.supported) := by
  have hinv := inv_of_run h
  refine ⟨hinv.accounted, fun hknown hq => ?_, fun hlen => ?_, fun a hm hmask => ?_⟩
  · have hheld : s.held = [] := by
      rw [held, hinv.pending hknown, hq]
      rfl
    have hacc := hheld ▸ hinv.accounted
    refine ⟨by simpa [Function.comp_def] using hacc.once, fun array => ?_⟩
    by_contra harr
    obtain ⟨m, hm, -⟩ := hacc.owner array harr
    exact List.not_mem_nil hm
  · exact hinv.accounted.generated.nodup (generatedIds_nodup hinv.counted hlen)
  · obtain ⟨c, -, hcar, -, herrs⟩ := hinv.accounted.answered a hm
    rw [herrs, ← hcar.configMask, errs_length hmask]

/-- A command that has to wait for the engine, and one that does not. -/
def twoCommands : List GetConfigEvent :=
  [.gnssGetConfigCommand 0x401, .process, .generateSessionId, .handleEngineUpEvent true, .process,
    .gnssGetConfigCommand 0x200, .process, .process]

theorem accounted_of_run_twoCommands : ∃ s,
    system.Run System.Free twoCommands s ∧
      s.answers.map (fun a => (a.msg.copied, a.ids, a.errs)) =
        [(true, some [2, 3], [.NOT_SUPPORTED, .SUCCESS]), (false, some [5], [.NOT_SUPPORTED])] ∧
      s.Accounted s.held := by
  have hrun : system.Run System.Free twoCommands _ := System.run_foldlM rfl
  exact ⟨_, hrun, by decide, (accounted_of_run hrun).1⟩

end GetConfigAdapter

end GpsHal
