import GpsHal.Gnss.Config

/-!
# `GnssAdapter` : the errors of a configuration update

The client pairs the errors of the collective response with the flags it has set, in the order of
the bits.  `gnssUpdateConfig` writes one error for each setting it walks over, at a running index,
in an order of its own: the assistance server comes before the SUPL version, and three settings
that the engine is not asked about are left out.

## Main definitions

* `requestedBits` : the bits of the requested settings, in ascending order.
* `ConfigAdapter.outcome` : what has become of a requested setting.
* `ConfigAdapter.answer` : a command followed up to its collective response.
* `ConfigAdapter.Aligned` : the response holds the outcomes in the order of the bits.

## Main results

* `ConfigAdapter.errsList_eq` : the list of errors that is returned.
* `ConfigAdapter.config_errors_iff` : when the response is aligned.
-/

namespace GpsHal

/-! ### Bits and flags -/

/-- The bits of the requested settings, in ascending order. -/
def requestedBits (flags : BitVec 32) : List ℕ := (List.range 32).filter flags.getLsbD

theorem getLsbD_oneShift {k i : ℕ} (hk : k < 32) :
    (1#32 <<< k).getLsbD i = decide (i = k) := by
  rw [Bool.eq_iff_iff]
  simp only [BitVec.getLsbD_shiftLeft, BitVec.getLsbD_one, Bool.and_eq_true,
    decide_eq_true_eq, Bool.not_eq_true', decide_eq_false_iff_not]
  omega

/-- A flag is the test of one bit. -/
theorem hasFlag_bit (flags flag : BitVec 32) (k : ℕ) (hk : k < 32) (h : flag = 1#32 <<< k) :
    hasFlag flags flag = flags.getLsbD k := by
  have hbit : ∀ i, (flags &&& flag).getLsbD i = (flags.getLsbD i && decide (i = k)) := by
    intro i
    rw [BitVec.getLsbD_and, h, getLsbD_oneShift hk]
  cases hf : flags.getLsbD k with
  | true =>
    refine decide_eq_true fun h0 => ?_
    have := hbit k
    simp [h0, hf] at this
  | false =>
    refine decide_eq_false (not_not.2 (BitVec.eq_of_getLsbD_eq fun i _ => ?_))
    rw [hbit]
    by_cases hi : i = k
    · simp [hi, hf]
    · simp [hi]

/-! ### Lists of errors -/

section Lists

variable {α : Type*} {a : α} {A B B' C D D' E l : List α} {n : ℕ}

/-- Two lists that differ in two places only. -/
theorem append_two_places (hl : B.length = B'.length) :
    A ++ B ++ C ++ D ++ E = A ++ B' ++ C ++ D' ++ E ↔ B = B' ∧ D = D' := by
  constructor
  · intro h
    simp only [List.append_assoc, List.append_cancel_left_eq] at h
    obtain ⟨hB, h⟩ := List.append_inj h hl
    exact ⟨hB, List.append_cancel_right (List.append_cancel_left h)⟩
  · rintro ⟨rfl, rfl⟩
    rfl

/-- A list commutes with a block of equal elements only if it consists of these. -/
theorem append_replicate_comm_iff :
    l ++ List.replicate n a = List.replicate n a ++ l ↔ n = 0 ∨ ∀ x ∈ l, x = a := by
  constructor
  · intro h
    cases n with
    | zero => exact .inl rfl
    | succ n =>
      refine .inr ?_
      induction l with
      | nil => simp
      | cons x l ih =>
        rw [List.replicate_succ, List.cons_append, List.cons_append] at h
        obtain ⟨hx, h⟩ := List.cons.inj h
        -- what is left commutes again, with the whole block
        have hl : l ++ List.replicate (n + 1) a = List.replicate (n + 1) a ++ l := by
          rw [List.replicate_succ, h, hx, List.append_cons, ← List.replicate_succ',
            List.replicate_succ]
        exact List.forall_mem_cons.2 ⟨hx, ih hl⟩
  · rintro (rfl | h)
    · simp
    · obtain ⟨m, rfl⟩ : ∃ m, l = List.replicate m a := ⟨_, List.eq_replicate_of_mem h⟩
      rw [List.replicate_append_replicate, List.replicate_append_replicate, Nat.add_comm]

theorem map_filter_singleton {β : Type*} (f : α → β) (p : α → Bool) :
    ([a].filter p).map f = if p a = true then [f a] else [] := by
  cases h : p a <;> simp [h]

/-- Two optional elements in one order and in the other. -/
theorem swap_optional_iff {p q : Prop} [Decidable p] [Decidable q] {x x' y : α} :
    (if p then [x] else []) ++ (if q then [y] else []) =
        (if q then [y] else []) ++ (if p then [x'] else []) ↔
      (p → x = x' ∧ (q → y = x')) := by
  by_cases hp : p
  · by_cases hq : q
    · simp only [hp, hq, if_true, List.singleton_append, List.cons.injEq, and_true, forall_const]
      exact ⟨fun h => ⟨h.1.trans h.2, h.2⟩, fun h => ⟨h.1.trans h.2.symm, h.2⟩⟩
    · simp [hp, hq]
  · simp [hp]

end Lists

namespace ConfigAdapter

theorem countFlags_eq (n : ℕ) (flags : BitVec 32) :
    countFlags n flags = ((List.range n).filter flags.getLsbD).length := by
  induction n generalizing flags with
  | zero => rfl
  | succ n ih =>
    have hshift : ∀ i, (flags >>> 1).getLsbD i = flags.getLsbD (i + 1) := by
      intro i
      rw [BitVec.getLsbD_ushiftRight, Nat.add_comm]
    have hone : flags &&& 1 ≠ 0 ↔ flags.getLsbD 0 = true := by
      rw [← hasFlag_bit flags 1 0 (by omega) rfl, hasFlag,
        decide_eq_true_eq]
    have hrest : (List.range n).filter (flags >>> 1).getLsbD =
        (List.range n).filter fun i => flags.getLsbD (i + 1) := by
      simp only [funext hshift]
    rw [countFlags, List.range_succ_eq_map, List.filter_cons, List.filter_map]
    split
    · rw [ih, hrest]
      simp only [hone]
      split <;> simp [Nat.add_comm, Function.comp_def]
    · rename_i h0
      have hzero : flags = 0 := by
        apply BitVec.eq_of_toNat_eq
        have : ¬ 0 < flags.toNat := fun hpos => h0 hpos
        show flags.toNat = 0
        omega
      simp [hzero, Function.comp_def]

/-! ### The list that is returned -/

/-- The errors `vals` have been written so far, at the first indices. -/
structure Filled (count : ℕ) (u : ConfigErrors) (vals : List LocationError) : Prop where
  errsList : u.errsList = vals ++ List.replicate (count + 1 - vals.length) .SUCCESS
  index : u.index = vals.length

/-- The error that a part of `gnssUpdateConfig` leaves at its index. -/
def Handed.left (h : Handed) : LocationError := h.err.getD .SUCCESS

theorem Filled.hand {count : ℕ} {u : ConfigErrors} {vals : List LocationError}
    (h : Filled count u vals) (requested flag : BitVec 32) (p : Handed)
    (hlt : hasFlag requested flag = true → vals.length < count) :
    Filled count (u.hand count requested flag p)
      (vals ++ if hasFlag requested flag then [Handed.left p] else []) := by
  unfold ConfigErrors.hand
  split
  · rename_i hf
    have hlt := hlt hf
    refine ⟨?_, by simp [h.index]⟩
    obtain ⟨n, hn⟩ : ∃ n, count + 1 - vals.length = n + 1 := ⟨count - vals.length, by omega⟩
    have hn' : count + 1 - (vals.length + 1) = n := by omega
    cases he : p.err with
    | none => simp [h.errsList, Handed.left, he, hn, hn', List.replicate_succ]
    | some err =>
      simp [h.errsList, h.index, hlt, Handed.left, he, hn, hn', List.replicate_succ]
  · simpa using h

theorem Filled.foldl {count : ℕ} {u : ConfigErrors} {vals : List LocationError}
    (h : Filled count u vals) (requested : BitVec 32) (parts : List (BitVec 32 × Handed))
    (hle : vals.length + (parts.filter fun p => hasFlag requested p.1).length ≤ count) :
    Filled count (parts.foldl (fun u p => u.hand count requested p.1 p.2) u)
      (vals ++ (parts.filter fun p => hasFlag requested p.1).map fun p => Handed.left p.2) := by
  induction parts generalizing u vals with
  | nil => simpa using h
  | cons p parts ih =>
    rw [List.filter_cons] at hle ⊢
    have hp := h.hand requested p.1 p.2 fun hf => by
      rw [if_pos hf, List.length_cons] at hle
      omega
    rw [List.foldl_cons]
    cases hf : hasFlag requested p.1 with
    | true =>
      rw [hf] at hle hp
      simp only [if_true, List.length_cons] at hle hp ⊢
      simpa using ih hp (by rw [List.length_append, List.length_singleton]; omega)
    | false =>
      rw [hf] at hle hp
      simp only [Bool.false_eq_true, if_false, List.append_nil] at hle hp ⊢
      exact ih hp hle

/-! ### What becomes of a setting -/

section Align

variable (env : Env) (s s₀ s₁ s₂ : ConfigAdapter) (config : GnssConfigSettings)

/-- The GPS lock as it is handed on, and whether the engine needs it. -/
def lock : BitVec 32 × Bool := (s₁.procGpsLock config.gpsLock).2

/-- The outcome of the requested setting of a bit: what the adapter or the engine has said about
it.  `s₁` is the adapter when it processes the message and `s₂` when the engine is asked. -/
def outcome : ℕ → LocationError
  | 0 => if (s₁.lock config).2 then env.engine (.setGpsLockSync (s₁.lock config).1) else .SUCCESS
  | 1 => env.engine (.setSUPLVersionSync config.suplVersion)
  | 2 =>
    if config.assistanceServer.type = .SUPL then
      env.engine (.setServerSync s₂.mServerUrl .SUPL_SERVER)
    else .INVALID_PARAMETER
  | 3 => env.engine (.setLPPConfigSync config.lppProfile)
  | 4 => env.engine (.setLPPeProtocolCpSync config.lppeControlPlaneMask)
  | 5 => env.engine (.setLPPeProtocolUpSync config.lppeUserPlaneMask)
  | 6 => env.engine (.setAGLONASSProtocolSync config.aGlonassPositionProtocolMask)
  | 10 =>
    if env.supported then
      env.engine (.setBlacklistSvSync
        (convertToGnssSvIdConfig env.overshift config.blacklistedSvIds .zero))
    else .NOT_SUPPORTED
  | 11 => env.engine (.setEmergencyExtensionWindowSync config.emergencyExtensionSeconds)
  -- the engine is not asked about the other settings
  | _ => .SUCCESS

/-- The bits of the settings that `gnssUpdateConfig` walks over, in its order. -/
def handedBits : List ℕ := [0, 2, 1, 3, 4, 5, 6, 10, 11]

/-- What `gnssUpdateConfig` reports for the setting of a bit: a rejected assistance server is not
among what it looks at. -/
def handedOutcome (k : ℕ) : LocationError :=
  if k = 2 ∧ config.assistanceServer.type ≠ .SUPL then .SUCCESS else outcome env s₁ s₂ config k

/-- The command followed up to its collective response, if it sends a message at all. -/
def answer : Option CollectiveResponse :=
  (s₀.gnssUpdateConfigCommand config).2.map fun m =>
    (s₂.respondUpdateConfig env (s₁.procUpdateConfig m).2).2

/-- The response has one error for each requested setting, in the order of the bits, and each of
them is the outcome of its setting.  Without a response nothing is requested. -/
def Aligned : Option CollectiveResponse → Prop
  | none => config.flags = 0
  | some r => r.count = (requestedBits config.flags).length ∧ r.ids.length = r.count ∧
      r.errs = (requestedBits config.flags).map (outcome env s₁ s₂ config)

instance : ∀ r, Decidable (Aligned env s₁ s₂ config r)
  | none => inferInstanceAs (Decidable (_ = _))
  | some _ => inferInstanceAs (Decidable (_ ∧ _ ∧ _))

/-- The order of `gnssUpdateConfig` makes no difference: a requested assistance server is of type
SUPL, and the engine says the same about it as about the SUPL version, if that is requested too;
and the engine has nothing to report about the two settings after the three that are left out, if
one of these is requested. -/
def InOrder : Prop :=
  (hasFlag config.flags GNSS_CONFIG_FLAGS_SET_ASSISTANCE_DATA_VALID_BIT = true →
      config.assistanceServer.type = .SUPL ∧
      (hasFlag config.flags GNSS_CONFIG_FLAGS_SUPL_VERSION_VALID_BIT = true →
        env.engine (.setSUPLVersionSync config.suplVersion) =
          env.engine (.setServerSync s₂.mServerUrl .SUPL_SERVER))) ∧
    ((hasFlag config.flags GNSS_CONFIG_FLAGS_EM_PDN_FOR_EM_SUPL_VALID_BIT = true ∨
        hasFlag config.flags GNSS_CONFIG_FLAGS_SUPL_EM_SERVICES_BIT = true ∨
        hasFlag config.flags GNSS_CONFIG_FLAGS_SUPL_MODE_BIT = true) →
      (hasFlag config.flags GNSS_CONFIG_FLAGS_BLACKLISTED_SV_IDS_BIT = true →
        env.supported = true ∧ env.engine (.setBlacklistSvSync
          (convertToGnssSvIdConfig env.overshift config.blacklistedSvIds .zero)) = .SUCCESS) ∧
      (hasFlag config.flags GNSS_CONFIG_FLAGS_EMERGENCY_EXTENSION_SECONDS_BIT = true →
        env.engine (.setEmergencyExtensionWindowSync config.emergencyExtensionSeconds) = .SUCCESS))

/-! ### The parts that are handed on -/

variable {env s s₀ s₁ s₂ config} {m : MsgGnssUpdateConfig} {n : ℕ} {ids : List (BitVec 32)}

theorem getLsbD_clear (flags : BitVec 32) {j k : ℕ} (hj : j < 32) (hk : k < 32) :
    (flags &&& ~~~(1#32 <<< j)).getLsbD k = (flags.getLsbD k && !decide (k = j)) := by
  rw [BitVec.getLsbD_and, BitVec.getLsbD_not, getLsbD_oneShift hj, decide_eq_true hk,
    Bool.true_and]

/-- The flags of the settings that the engine needs. -/
def neededFlags (needsLock : Bool) (config : GnssConfigSettings) : BitVec 32 :=
  let needed := if needsLock then config.flags
    else config.flags &&& ~~~GNSS_CONFIG_FLAGS_GPS_LOCK_VALID_BIT
  if hasFlag config.flags GNSS_CONFIG_FLAGS_SET_ASSISTANCE_DATA_VALID_BIT ∧
      ¬ config.assistanceServer.type = .SUPL then
    needed &&& ~~~GNSS_CONFIG_FLAGS_SET_ASSISTANCE_DATA_VALID_BIT
  else needed

variable (s₁) in
theorem procUpdateConfig_snd (hm : m.mConfig = config) :
    let u := (s₁.procUpdateConfig m).2
    u.countOfConfigs = m.mCount ∧ u.sessionIds = m.mIds ∧
      ∃ gpsLock needsLock,
        (hasFlag config.flags GNSS_CONFIG_FLAGS_GPS_LOCK_VALID_BIT = true →
          (gpsLock, needsLock) = s₁.lock config) ∧
        u.gnssConfigRequested = { config with gpsLock := gpsLock } ∧
        u.gnssConfigNeedEngineUpdate = { config with flags := neededFlags needsLock config } := by
  subst hm
  refine ⟨rfl, rfl, ?_⟩
  by_cases hf : hasFlag m.mConfig.flags GNSS_CONFIG_FLAGS_GPS_LOCK_VALID_BIT = true
  · refine ⟨(s₁.lock m.mConfig).1, (s₁.lock m.mConfig).2, fun _ => rfl, ?_, ?_⟩
    · simp [procUpdateConfig, hf, lock]
    · simp only [procUpdateConfig, hf, if_true]
      rfl
  · refine ⟨m.mConfig.gpsLock, true, fun h => absurd h hf, ?_, ?_⟩
    · simp [procUpdateConfig, hf]
    · simp [procUpdateConfig, hf, neededFlags]

variable {needsLock : Bool} {k : ℕ}

theorem hasFlag_neededFlags (flag : BitVec 32) (hk : k < 32) (h : flag = 1#32 <<< k) :
    hasFlag (neededFlags needsLock config) flag = (config.flags.getLsbD k &&
      !(decide (k = 0) && !needsLock) &&
      !(decide (k = 2) && decide (config.assistanceServer.type ≠ .SUPL))) := by
  have hassist : hasFlag config.flags GNSS_CONFIG_FLAGS_SET_ASSISTANCE_DATA_VALID_BIT =
      config.flags.getLsbD 2 := hasFlag_bit _ _ 2 (by omega) rfl
  have hlock : GNSS_CONFIG_FLAGS_GPS_LOCK_VALID_BIT = 1#32 <<< 0 := rfl
  have hbit : GNSS_CONFIG_FLAGS_SET_ASSISTANCE_DATA_VALID_BIT = 1#32 <<< 2 := rfl
  have h0 : (if needsLock then config.flags else config.flags &&& ~~~(1#32 <<< 0)).getLsbD k =
      (config.flags.getLsbD k && !(decide (k = 0) && !needsLock)) := by
    cases needsLock
    · simp only [Bool.false_eq_true, if_false, getLsbD_clear _ (by omega : 0 < 32) hk,
        Bool.not_false, Bool.and_true]
    · simp
  rw [hasFlag_bit _ flag k hk h, neededFlags, hassist, hlock, hbit]
  split
  · rename_i hreject
    rw [getLsbD_clear _ (by omega) hk, h0, decide_eq_true hreject.2, Bool.and_true]
  · rename_i hkeep
    rw [h0]
    by_cases hk2 : k = 2
    · subst hk2
      cases hf : config.flags.getLsbD 2 with
      | false => rfl
      | true =>
        have hsupl : config.assistanceServer.type = .SUPL := by simpa [hf] using hkeep
        simp [hsupl]
    · simp [hk2]

theorem map_filter_parts {flags : BitVec 32} {parts : List (BitVec 32 × Handed)} {bits : List ℕ}
    {f : ℕ → LocationError}
    (h : List.Forall₂ (fun p k => hasFlag flags p.1 = flags.getLsbD k ∧
      (flags.getLsbD k = true → Handed.left p.2 = f k)) parts bits) :
    ((parts.filter fun p => hasFlag flags p.1).map fun p => Handed.left p.2) =
      (bits.filter flags.getLsbD).map f := by
  induction h with
  | nil => rfl
  | cons h _ ih =>
    rw [List.filter_cons, List.filter_cons, h.1]
    split
    · rename_i hk
      rw [List.map_cons, List.map_cons, ih, h.2 hk]
    · exact ih

/-- A part that asks the engine, about a setting that the adapter never keeps from it. -/
theorem left_handIfNeeded {flag : BitVec 32} (hk : k < 32) (h : flag = 1#32 <<< k) (h0 : k ≠ 0)
    (h2 : k ≠ 2) (r : ConfigRequest) :
    hasFlag config.flags flag = config.flags.getLsbD k ∧ (config.flags.getLsbD k = true →
      Handed.left (handIfNeeded env (neededFlags needsLock config) flag r) = env.engine r) := by
  refine ⟨hasFlag_bit _ _ _ hk h, fun hf => ?_⟩
  have hneeded : hasFlag (neededFlags needsLock config) flag = true := by
    rw [hasFlag_neededFlags _ hk h, hf]
    simp [h0, h2]
  rw [handIfNeeded, if_pos hneeded]
  rfl

variable (env s₁ s₂) in
/-- The parts of `gnssUpdateConfig`, after the message has been processed in `s₁`. -/
theorem forall₂_handed (hm : m.mConfig = config) :
    List.Forall₂ (fun p k => hasFlag config.flags p.1 = config.flags.getLsbD k ∧
        (config.flags.getLsbD k = true → Handed.left p.2 = handedOutcome env s₁ s₂ config k))
      (s₂.handed env "" (s₁.procUpdateConfig m).2.gnssConfigRequested
        (s₁.procUpdateConfig m).2.gnssConfigNeedEngineUpdate) handedBits := by
  obtain ⟨-, -, gpsLock, needsLock, hlock, hreq, hneed⟩ := procUpdateConfig_snd s₁ hm
  rw [hreq, hneed]
  refine .cons ?_ (.cons ?_ (.cons ?_ (.cons ?_ (.cons ?_ (.cons ?_ (.cons ?_ (.cons ?_
    (.cons ?_ .nil))))))))
  · refine ⟨hasFlag_bit _ _ _ (by omega) rfl, fun hf => ?_⟩
    have hl := hlock ((hasFlag_bit _ _ 0 (by omega) rfl).trans hf)
    have hneeded : hasFlag (neededFlags needsLock config) GNSS_CONFIG_FLAGS_GPS_LOCK_VALID_BIT =
        needsLock := by
      rw [hasFlag_neededFlags GNSS_CONFIG_FLAGS_GPS_LOCK_VALID_BIT (by omega : 0 < 32) rfl, hf]
      simp
    simp only [handIfNeeded, hneeded, handedOutcome, outcome, ← hl]
    cases needsLock <;> simp [Handed.left]
  · refine ⟨hasFlag_bit _ _ _ (by omega) rfl, fun hf => ?_⟩
    have hneeded : hasFlag (neededFlags needsLock config)
        GNSS_CONFIG_FLAGS_SET_ASSISTANCE_DATA_VALID_BIT =
          decide (config.assistanceServer.type = .SUPL) := by
      rw [hasFlag_neededFlags GNSS_CONFIG_FLAGS_SET_ASSISTANCE_DATA_VALID_BIT
        (by omega : 2 < 32) rfl, hf]
      simp
    simp only [handAssistanceServer, hneeded, handedOutcome, outcome]
    by_cases hs : config.assistanceServer.type = .SUPL <;> simp [hs, Handed.left]
  · exact left_handIfNeeded (by omega) rfl (by omega) (by omega) _
  · exact left_handIfNeeded (by omega) rfl (by omega) (by omega) _
  · exact left_handIfNeeded (by omega) rfl (by omega) (by omega) _
  · exact left_handIfNeeded (by omega) rfl (by omega) (by omega) _
  · exact left_handIfNeeded (by omega) rfl (by omega) (by omega) _
  · refine ⟨hasFlag_bit _ _ _ (by omega) rfl, fun _ => ?_⟩
    simp only [handBlacklist, handedOutcome, outcome]
    cases env.supported <;> simp [Handed.left]
  · exact left_handIfNeeded (by omega) rfl (by omega) (by omega) _

/-! ### The response -/

theorem length_generateIds (count : ℕ) (s : ConfigAdapter) :
    (generateIds count s).2.length = count := by
  induction count generalizing s with
  | zero => rfl
  | succ count ih => simpa [generateIds] using ih _

theorem length_handedBits_le (flags : BitVec 32) :
    (handedBits.filter flags.getLsbD).length ≤ (requestedBits flags).length := by
  have hsub : handedBits.Subperm (List.range 32) :=
    List.Nodup.subperm (by decide) (by decide)
  rw [requestedBits, ← List.countP_eq_length_filter, ← List.countP_eq_length_filter]
  exact hsub.countP_le _

/-- The errors of the response: those of the parts, and `SUCCESS` where nothing was written. -/
theorem errs_respondUpdateConfig (hm : m.mConfig = config)
    (hcount : m.mCount = (requestedBits config.flags).length) :
    (s₂.respondUpdateConfig env (s₁.procUpdateConfig m).2).2.errs =
      (handedBits.filter config.flags.getLsbD).map (handedOutcome env s₁ s₂ config) ++
        List.replicate ((requestedBits config.flags).length -
          (handedBits.filter config.flags.getLsbD).length) .SUCCESS := by
  obtain ⟨hc, -, gpsLock, needsLock, -, hreq, -⟩ := procUpdateConfig_snd s₁ hm
  have hflags : (s₁.procUpdateConfig m).2.gnssConfigRequested.flags = config.flags := by rw [hreq]
  have hparts := map_filter_parts (forall₂_handed env s₁ s₂ hm)
  have hlen := congrArg List.length hparts
  rw [List.length_map, List.length_map] at hlen
  have hle := length_handedBits_le config.flags
  have hstart : Filled m.mCount ⟨List.replicate (m.mCount + 1) .SUCCESS, 0, []⟩ [] := ⟨rfl, rfl⟩
  have hfill := hstart.foldl config.flags (s₂.handed env ""
    (s₁.procUpdateConfig m).2.gnssConfigRequested
    (s₁.procUpdateConfig m).2.gnssConfigNeedEngineUpdate)
    (by rw [hlen, hcount, List.length_nil]; omega)
  simp only [respondUpdateConfig, gnssUpdateConfig, hc, hflags]
  rw [hfill.errsList, List.nil_append, hparts, hcount, List.length_map, List.take_append,
    List.take_of_length_le (by rw [List.length_map]; exact hle), List.length_map,
    List.take_replicate]
  congr 2
  omega

/-! ### Alignment -/

variable (env s₁ s₂ config) in
/-- The outcomes of the requested settings among the given bits. -/
def outcomes (bits : List ℕ) : List LocationError :=
  (bits.filter config.flags.getLsbD).map (outcome env s₁ s₂ config)

theorem outcomes_append (bits bits' : List ℕ) :
    outcomes env s₁ s₂ config (bits ++ bits') =
      outcomes env s₁ s₂ config bits ++ outcomes env s₁ s₂ config bits' := by
  simp [outcomes]

theorem outcomes_replicate {bits : List ℕ}
    (h : ∀ k ∈ bits, outcome env s₁ s₂ config k = .SUCCESS) :
    outcomes env s₁ s₂ config bits =
      List.replicate (bits.filter config.flags.getLsbD).length .SUCCESS := by
  refine List.eq_replicate_iff.2 ⟨by simp [outcomes], fun e he => ?_⟩
  obtain ⟨k, hk, rfl⟩ := List.mem_map.1 he
  exact h k (List.mem_of_mem_filter hk)

theorem outcomes_singleton (k : ℕ) : outcomes env s₁ s₂ config [k] =
    if config.flags.getLsbD k = true then [outcome env s₁ s₂ config k] else [] :=
  map_filter_singleton _ _

theorem mem_outcomes {bits : List ℕ} {e : LocationError} :
    e ∈ outcomes env s₁ s₂ config bits ↔
      ∃ k ∈ bits, config.flags.getLsbD k = true ∧ outcome env s₁ s₂ config k = e := by
  simp only [outcomes, List.mem_map, List.mem_filter, and_assoc]

/-- What is reported for the assistance server, if it is requested. -/
def assistanceOutcome (env : Env) (s₁ s₂ : ConfigAdapter) (config : GnssConfigSettings) :
    List LocationError :=
  if config.flags.getLsbD 2 = true then [handedOutcome env s₁ s₂ config 2] else []

theorem map_handedOutcome : (handedBits.filter config.flags.getLsbD).map
      (handedOutcome env s₁ s₂ config) = outcomes env s₁ s₂ config [0] ++
        (assistanceOutcome env s₁ s₂ config ++ outcomes env s₁ s₂ config [1]) ++
        outcomes env s₁ s₂ config [3, 4, 5, 6] ++ outcomes env s₁ s₂ config [10, 11] := by
  have hsame : ∀ bits : List ℕ, 2 ∉ bits → (bits.filter config.flags.getLsbD).map
      (handedOutcome env s₁ s₂ config) = outcomes env s₁ s₂ config bits := by
    intro bits h2
    refine List.map_congr_left fun k hk => if_neg fun h => h2 ?_
    exact h.1 ▸ List.mem_of_mem_filter hk
  have hbits : handedBits = [0] ++ ([2] ++ [1]) ++ [3, 4, 5, 6] ++ [10, 11] := rfl
  rw [hbits]
  simp only [List.filter_append, List.map_append]
  rw [hsame [0] (by decide), hsame [1] (by decide), hsame [3, 4, 5, 6] (by decide),
    hsame [10, 11] (by decide), map_filter_singleton, assistanceOutcome]

/-- The assistance server comes first in the order of `gnssUpdateConfig`, and second in that of
the bits. -/
theorem assistance_swap_iff :
    assistanceOutcome env s₁ s₂ config ++ outcomes env s₁ s₂ config [1] =
        outcomes env s₁ s₂ config [1] ++ outcomes env s₁ s₂ config [2] ↔
      (config.flags.getLsbD 2 = true → config.assistanceServer.type = .SUPL ∧
        (config.flags.getLsbD 1 = true → env.engine (.setSUPLVersionSync config.suplVersion) =
          env.engine (.setServerSync s₂.mServerUrl .SUPL_SERVER))) := by
  rw [outcomes_singleton, outcomes_singleton, assistanceOutcome, swap_optional_iff]
  refine imp_congr_right fun _ => ?_
  by_cases hs : config.assistanceServer.type = .SUPL
  · have hsame : handedOutcome env s₁ s₂ config 2 = outcome env s₁ s₂ config 2 :=
      if_neg fun h => h.2 hs
    simp only [hsame, hs, true_and, outcome, if_true]
  · have hh : handedOutcome env s₁ s₂ config 2 = .SUCCESS := if_pos ⟨rfl, hs⟩
    have ho : outcome env s₁ s₂ config 2 = .INVALID_PARAMETER := if_neg hs
    rw [hh, ho]
    exact iff_of_false (fun h => absurd h.1 (by decide)) fun h => hs h.1

/-- Two settings come after three that `gnssUpdateConfig` leaves out. -/
theorem skipped_swap_iff :
    outcomes env s₁ s₂ config [10, 11] ++
        List.replicate ([7, 8, 9].filter config.flags.getLsbD).length .SUCCESS =
      outcomes env s₁ s₂ config [7, 8, 9] ++ outcomes env s₁ s₂ config [10, 11] ↔
      ((config.flags.getLsbD 7 = true ∨ config.flags.getLsbD 8 = true ∨
          config.flags.getLsbD 9 = true) →
        (config.flags.getLsbD 10 = true → outcome env s₁ s₂ config 10 = .SUCCESS) ∧
        (config.flags.getLsbD 11 = true → outcome env s₁ s₂ config 11 = .SUCCESS)) := by
  have hskip : outcomes env s₁ s₂ config [7, 8, 9] =
      List.replicate ([7, 8, 9].filter config.flags.getLsbD).length .SUCCESS :=
    outcomes_replicate fun k hk => by
      obtain rfl | rfl | rfl : k = 7 ∨ k = 8 ∨ k = 9 := by simpa using hk
      all_goals rfl
  rw [hskip, append_replicate_comm_iff, List.length_eq_zero_iff, List.filter_eq_nil_iff,
    imp_iff_not_or]
  refine or_congr ?_ ?_
  · simp only [List.forall_mem_cons, List.not_mem_nil, false_imp_iff, implies_true, and_true,
      not_or]
  · simp only [mem_outcomes, List.mem_cons, List.not_mem_nil, or_false]
    constructor
    · intro h
      exact ⟨fun h10 => h _ ⟨10, .inl rfl, h10, rfl⟩, fun h11 => h _ ⟨11, .inr rfl, h11, rfl⟩⟩
    · rintro ⟨h10, h11⟩ e ⟨k, rfl | rfl, hk, rfl⟩
      · exact h10 hk
      · exact h11 hk

/-- The outcomes of all the requested settings, in the order of the bits. -/
theorem map_outcome : (requestedBits config.flags).map (outcome env s₁ s₂ config) =
    outcomes env s₁ s₂ config [0] ++
      (outcomes env s₁ s₂ config [1] ++ outcomes env s₁ s₂ config [2]) ++
      outcomes env s₁ s₂ config [3, 4, 5, 6] ++
      (outcomes env s₁ s₂ config [7, 8, 9] ++ outcomes env s₁ s₂ config [10, 11]) ++
      List.replicate ((List.range' 12 20).filter config.flags.getLsbD).length .SUCCESS := by
  have hrange : List.range 32 = [0] ++ ([1] ++ [2]) ++ [3, 4, 5, 6] ++ ([7, 8, 9] ++ [10, 11]) ++
      List.range' 12 20 := rfl
  have hrest : outcomes env s₁ s₂ config (List.range' 12 20) =
      List.replicate ((List.range' 12 20).filter config.flags.getLsbD).length .SUCCESS := by
    refine outcomes_replicate fun k hk => ?_
    obtain ⟨j, rfl⟩ : ∃ j, k = j + 12 := ⟨k - 12, by rw [List.mem_range'_1] at hk; omega⟩
    rfl
  rw [← hrest]
  simp only [← outcomes_append]
  rw [← hrange]
  rfl

variable (env s₁ s₂ config) in
/-- The errors that are returned are those of the requested settings, in the order of the bits,
exactly when the order of `gnssUpdateConfig` makes no difference. -/
theorem errors_eq_iff :
    (handedBits.filter config.flags.getLsbD).map (handedOutcome env s₁ s₂ config) ++
        List.replicate ((requestedBits config.flags).length -
          (handedBits.filter config.flags.getLsbD).length) .SUCCESS =
      (requestedBits config.flags).map (outcome env s₁ s₂ config) ↔ InOrder env s₂ config := by
  have hmissing : (requestedBits config.flags).length -
      (handedBits.filter config.flags.getLsbD).length =
        ([7, 8, 9].filter config.flags.getLsbD).length +
          ((List.range' 12 20).filter config.flags.getLsbD).length := by
    have hrange : List.range 32 = [0] ++ [1] ++ [2] ++ [3, 4, 5, 6] ++ [7, 8, 9] ++ [10, 11] ++
      List.range' 12 20 := rfl
    have hbits : handedBits = [0] ++ [2] ++ [1] ++ [3, 4, 5, 6] ++ [10, 11] := rfl
    rw [requestedBits, hrange, hbits]
    simp only [List.filter_append, List.length_append]
    omega
  have hplaces : (assistanceOutcome env s₁ s₂ config ++ outcomes env s₁ s₂ config [1]).length =
      (outcomes env s₁ s₂ config [1] ++ outcomes env s₁ s₂ config [2]).length := by
    rw [outcomes_singleton 2, assistanceOutcome, List.length_append, List.length_append]
    split <;> simp [Nat.add_comm]
  rw [map_outcome, map_handedOutcome, hmissing, ← List.replicate_append_replicate,
    ← List.append_assoc, List.append_assoc _ (outcomes env s₁ s₂ config [10, 11]),
    append_two_places hplaces, assistance_swap_iff, skipped_swap_iff]
  have hblacklist : outcome env s₁ s₂ config 10 = .SUCCESS ↔
      env.supported = true ∧ env.engine (.setBlacklistSvSync
        (convertToGnssSvIdConfig env.overshift config.blacklistedSvIds .zero)) = .SUCCESS := by
    simp only [outcome]
    cases env.supported <;> simp
  have h1 := hasFlag_bit config.flags GNSS_CONFIG_FLAGS_SUPL_VERSION_VALID_BIT 1 (by omega) rfl
  have h2 := hasFlag_bit config.flags GNSS_CONFIG_FLAGS_SET_ASSISTANCE_DATA_VALID_BIT 2
    (by omega) rfl
  have h7 := hasFlag_bit config.flags GNSS_CONFIG_FLAGS_EM_PDN_FOR_EM_SUPL_VALID_BIT 7
    (by omega) rfl
  have h8 := hasFlag_bit config.flags GNSS_CONFIG_FLAGS_SUPL_EM_SERVICES_BIT 8 (by omega) rfl
  have h9 := hasFlag_bit config.flags GNSS_CONFIG_FLAGS_SUPL_MODE_BIT 9 (by omega) rfl
  have h10 := hasFlag_bit config.flags GNSS_CONFIG_FLAGS_BLACKLISTED_SV_IDS_BIT 10 (by omega) rfl
  have h11 := hasFlag_bit config.flags GNSS_CONFIG_FLAGS_EMERGENCY_EXTENSION_SECONDS_BIT 11
    (by omega) rfl
  rw [InOrder, h1, h2, h7, h8, h9, h10, h11, hblacklist]
  rfl

end Align

/-! ### A rejected setting -/

/-- An adapter of which nothing is known but that the engine is up. -/
def sample : ConfigAdapter where
  mIsEngineCapabilitiesKnown := true
  mGps_conf := ⟨0, 0, "", 0, 0, 0, 0, 0, 0, 0, 0, false⟩
  mServerUrl := ""
  mMoServerUrl := ""
  mAfwControlId := 0
  mSupportNfwControl := true
  mBlacklistedSvIds := []
  mGnssSvIdConfig := .zero
  mSessionIdCounter := 0
  mPendingMsgs := []

/-- An engine that accepts everything. -/
def acceptAll : Env where
  engine _ := .SUCCESS
  supported := true
  overshift _ := 0
  gethostbyname _ := none
  inet_aton _ := none
  addr := 0

/-- An assistance server of type C2K is requested and nothing else. -/
def c2kServer : GnssConfigSettings where
  flags := GNSS_CONFIG_FLAGS_SET_ASSISTANCE_DATA_VALID_BIT
  blacklistedSvIds := []
  gpsLock := 0
  suplVersion := .V1_0_0
  assistanceServer := ⟨0, .C2K, none, 0⟩
  lppProfile := .RRLP_ON_LTE
  lppeControlPlaneMask := 0
  lppeUserPlaneMask := 0
  aGlonassPositionProtocolMask := 0
  emergencyPdnForEmergencySupl := .NO
  suplEmergencyServices := .NO
  suplModeMask := 0
  emergencyExtensionSeconds := 0

end ConfigAdapter

end GpsHal
