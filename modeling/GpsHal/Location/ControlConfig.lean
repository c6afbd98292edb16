import GpsHal.Location.ControlClient

/-!
# `LocationAPIControlClient` : submitting a configuration

`locAPIGnssUpdateConfig` compares the configuration with the one of the call before, and leaves out
a call that would change nothing.  What it compares with is written before `LocationControlAPI` is
asked.

## Main definitions

* `ConfigClient` : the control client with the last configuration that has been accepted.
* `ConfigClient.Atomic` : what a call is to do.

## Main results

* `ConfigClient.atomic_iff` : the runs in which every call does so are those in which everything
  that is submitted is accepted.
-/

namespace GpsHal

namespace GnssConfigSettings

theorem equals_self (c : GnssConfigSettings) : c.equals c = true := by
  simp [equals, GnssConfigSetAssistanceServer.equals]

end GnssConfigSettings

/-- The client, and the configuration of the last call that `LocationControlAPI` has accepted. -/
structure ConfigClient where
  client : LocationAPIControlClient
  accepted : Option GnssConfigSettings

namespace ConfigClient

variable (s : ConfigClient)

/-- `LocationControlAPI` accepts the configuration: the call is counted. -/
def Accepts (config : GnssConfigSettings) (idArray : ℕ) (ids : List (BitVec 32)) : Prop :=
  (s.client.locAPIGnssUpdateConfig config idArray ids).2.calls = s.client.calls + 1

instance (config : GnssConfigSettings) (idArray : ℕ) (ids : List (BitVec 32)) :
    Decidable (s.Accepts config idArray ids) := inferInstanceAs (Decidable (_ = _))

def step (e : ControlEvent) : Option ConfigClient :=
  (s.client.step e).map fun client =>
    { client := client
      accepted :=
        match e with
        | .locAPIGnssUpdateConfig config idArray ids =>
          if s.Accepts config idArray ids then some config else s.accepted
        | .locAPIGnssDeleteAidingData _ | .locAPIEnable _ | .locAPIDisable |
          .locAPIGnssGetConfig .. | .responseCb .. | .collectiveResponseCb .. => s.accepted }

def system (mLocationControlAPI : Bool) : System ConfigClient ControlEvent :=
  .ofPartial ⟨LocationAPIControlClient.initial mLocationControlAPI, none⟩ step

/-- A call succeeds only if its configuration is accepted or is that of the last accepted call, and
a call that fails leaves the configuration that it was compared with, so that the same call is
submitted again. -/
def Atomic : ControlEvent → Prop
  | .locAPIGnssUpdateConfig config idArray ids =>
    let r := s.client.locAPIGnssUpdateConfig config idArray ids
    (r.1 = .SUCCESS → s.Accepts config idArray ids ∨
      ∃ c, s.accepted = some c ∧ c.equals config = true) ∧
    (r.1 ≠ .SUCCESS → r.2.mConfig = s.client.mConfig ∧
      (s.client.mLocationControlAPI = true → ∀ idArray' ids', idArray' ≠ 0 →
        (r.2.locAPIGnssUpdateConfig config idArray' ids').2.calls = r.2.calls + 1))
  | .locAPIGnssDeleteAidingData _ | .locAPIEnable _ | .locAPIDisable | .locAPIGnssGetConfig .. |
    .responseCb .. | .collectiveResponseCb .. => True

/-- The condition on a call: it is accepted if it is submitted, and if it is left out, one has been
accepted before. -/
def Keeps : ControlEvent → Prop
  | .locAPIGnssUpdateConfig config idArray _ => s.client.mLocationControlAPI = true →
      if s.client.mConfig.equals config then s.accepted.isSome = true else idArray ≠ 0
  | .locAPIGnssDeleteAidingData _ | .locAPIEnable _ | .locAPIDisable | .locAPIGnssGetConfig .. |
    .responseCb .. | .collectiveResponseCb .. => True

/-- The configuration of the last accepted call is the one that the next is compared with. -/
def Current : Prop := ∀ c, s.accepted = some c → s.client.mConfig = c

/-! ### One call -/

section Call

variable {s} {config : GnssConfigSettings} {idArray : ℕ} {ids : List (BitVec 32)}

theorem update_refused (h : s.client.mLocationControlAPI = false) :
    s.client.locAPIGnssUpdateConfig config idArray ids = (.GENERAL_FAILURE, s.client) := by
  unfold LocationAPIControlClient.locAPIGnssUpdateConfig
  rw [if_neg (by simp [h])]

theorem update_left_out (h : s.client.mLocationControlAPI = true)
    (heq : s.client.mConfig.equals config = true) :
    s.client.locAPIGnssUpdateConfig config idArray ids = (.SUCCESS, s.client) := by
  unfold LocationAPIControlClient.locAPIGnssUpdateConfig
  rw [if_pos h, if_pos heq]

theorem update_submitted (client : LocationAPIControlClient)
    (h : client.mLocationControlAPI = true) (hne : client.mConfig.equals config = false) :
    client.locAPIGnssUpdateConfig config idArray ids =
      if idArray ≠ 0 then
        (.SUCCESS, LocationAPIControlClient.accept { client with mConfig := config } .update idArray
          ids)
      else (.GENERAL_FAILURE, { client with mConfig := config }) := by
  unfold LocationAPIControlClient.locAPIGnssUpdateConfig
  rw [if_pos h, if_neg (by simp [hne])]

theorem accepts_iff : s.Accepts config idArray ids ↔ s.client.mLocationControlAPI = true ∧
    s.client.mConfig.equals config = false ∧ idArray ≠ 0 := by
  unfold Accepts
  cases hapi : s.client.mLocationControlAPI with
  | false =>
    rw [update_refused hapi]
    simp
  | true =>
    cases heq : s.client.mConfig.equals config with
    | true =>
      rw [update_left_out hapi heq]
      simp
    | false =>
      rw [update_submitted s.client hapi heq]
      by_cases hid : idArray = 0
      · simp [hid]
      · rw [if_pos hid]
        simp [hid, LocationAPIControlClient.accept]

/-- A call does what it is to do exactly if it meets its condition. -/
theorem Current.atomic_iff_keeps (h : s.Current) (e : ControlEvent) : s.Atomic e ↔ s.Keeps e := by
  cases e with
  | locAPIGnssUpdateConfig config idArray ids =>
    simp only [Atomic, Keeps, accepts_iff]
    cases hapi : s.client.mLocationControlAPI with
    | false =>
      rw [update_refused hapi]
      simp
    | true =>
      cases heq : s.client.mConfig.equals config with
      | true =>
        -- left out: it succeeds, and nothing is accepted
        rw [update_left_out hapi heq]
        cases haccepted : s.accepted with
        | none => simp
        | some c =>
          have hc : c.equals config = true := h c haccepted ▸ heq
          simp [hc]
      | false =>
        rw [update_submitted s.client hapi heq]
        by_cases hid : idArray = 0
        · -- refused: the configuration that has been written is another one
          have hne : config ≠ s.client.mConfig := by
            rintro rfl
            rw [GnssConfigSettings.equals_self] at heq
            cases heq
          simp [hid, hne]
        · rw [if_pos hid]
          simp [hid]
  | _ => exact Iff.rfl

end Call

/-! ### Runs -/

section Runs

variable {s} {s' : ConfigClient} {e : ControlEvent} {es : List ControlEvent}

theorem mConfig_accept (client : LocationAPIControlClient) (kind : ConfigCallKind) (idArray : ℕ)
    (ids : List (BitVec 32)) : (client.accept kind idArray ids).mConfig = client.mConfig := rfl

theorem mConfig_call (client : LocationAPIControlClient) (cb : Option CtrlCallback) :
    (client.call cb).mConfig = client.mConfig := rfl

theorem mConfig_getRequestBySession (client : LocationAPIControlClient) (session : BitVec 32) :
    (client.getRequestBySession session).2.mConfig = client.mConfig := by
  unfold LocationAPIControlClient.getRequestBySession
  split_ifs <;> rfl

theorem mConfig_getRequestBySessionArrayPtr (client : LocationAPIControlClient) (ptr : ℕ) :
    (client.getRequestBySessionArrayPtr ptr).2.mConfig = client.mConfig := by
  unfold LocationAPIControlClient.getRequestBySessionArrayPtr
  split_ifs <;> rfl

/-- The other events leave the configuration alone. -/
theorem mConfig_step {client client' : LocationAPIControlClient}
    (he : ∀ config idArray ids, e ≠ .locAPIGnssUpdateConfig config idArray ids)
    (hstep : client.step e = some client') : client'.mConfig = client.mConfig := by
  cases e with
  | locAPIGnssDeleteAidingData session =>
    obtain rfl := Option.some.inj hstep
    unfold LocationAPIControlClient.locAPIGnssDeleteAidingData
    split_ifs <;> rfl
  | locAPIEnable session =>
    obtain rfl := Option.some.inj hstep
    unfold LocationAPIControlClient.locAPIEnable
    split_ifs <;> rfl
  | locAPIDisable =>
    obtain rfl := Option.some.inj hstep
    unfold LocationAPIControlClient.locAPIDisable
    dsimp only
    split_ifs <;> rfl
  | locAPIGnssUpdateConfig config idArray ids => exact absurd rfl (he config idArray ids)
  | locAPIGnssGetConfig mask idArray ids =>
    obtain rfl := Option.some.inj hstep
    unfold LocationAPIControlClient.locAPIGnssGetConfig
    split_ifs <;> rfl
  | responseCb error id =>
    obtain rfl := Option.some.inj hstep
    exact mConfig_getRequestBySession client id
  | collectiveResponseCb c errors ids =>
    simp only [LocationAPIControlClient.step, Option.ite_none_right_eq_some, Option.some.injEq]
      at hstep
    obtain ⟨-, rfl⟩ := hstep
    exact mConfig_getRequestBySessionArrayPtr client ids

theorem Current.step (h : s.Current) (hkeeps : s.Keeps e) (hstep : s.step e = some s') :
    s'.Current := by
  obtain ⟨client, hclient, rfl⟩ := Option.map_eq_some_iff.1 hstep
  cases e with
  | locAPIGnssUpdateConfig config idArray ids =>
    obtain rfl := Option.some.inj hclient
    intro c hc
    simp only [accepts_iff] at hc
    cases hapi : s.client.mLocationControlAPI with
    | false =>
      rw [update_refused hapi]
      rw [if_neg (by simp [hapi])] at hc
      exact h c hc
    | true =>
      have hkeeps := hkeeps hapi
      cases heq : s.client.mConfig.equals config with
      | true =>
        rw [update_left_out hapi heq]
        rw [if_neg (by simp [heq])] at hc
        exact h c hc
      | false =>
        rw [if_neg (by simp [heq])] at hkeeps
        rw [if_pos ⟨hapi, heq, hkeeps⟩] at hc
        rw [update_submitted s.client hapi heq, if_pos hkeeps]
        exact Option.some.inj hc
  | _ =>
    intro c hc
    exact (mConfig_step (fun _ _ _ he => by cases he) hclient).trans (h c hc)

/-- **Submitting a configuration.**  Every call of a run succeeds only with an accepted
configuration and fails without a trace exactly if everything that is submitted is accepted, and no
call is left out before the first of them. -/
theorem atomic_iff (mLocationControlAPI : Bool) :
    (system mLocationControlAPI).Run Atomic es s ↔ (system mLocationControlAPI).Run Keeps es s := by
  refine System.run_congr (J := Current) ?_ (fun _ _ _ h hkeeps hstep => h.step hkeeps hstep)
    fun _ e _ h _ => h.atomic_iff_keeps e
  intro c hc
  cases hc

/-- A configuration that is refused, and then passed again: the second call succeeds. -/
theorem refused_twice :
    ∃ s, (system true).Run System.Free
        [.locAPIGnssUpdateConfig { GnssConfigSettings.zero with gpsLock := 1 } 0 []] s ∧
      (s.client.locAPIGnssUpdateConfig { GnssConfigSettings.zero with gpsLock := 1 } 7 [1]).1 =
        .SUCCESS ∧
      s.accepted = none ∧
      ¬ s.Atomic (.locAPIGnssUpdateConfig { GnssConfigSettings.zero with gpsLock := 1 } 7 [1]) := by
  have haccepted : ∀ c, (none : Option GnssConfigSettings) ≠ some c := by
    intro c hc
    cases hc
  refine ⟨_, System.run_foldlM rfl, rfl, rfl, fun h => ?_⟩
  obtain haccepts | hlast := h.1 rfl
  · exact absurd haccepts (by decide)
  · obtain ⟨c, hc, -⟩ := hlast
    exact haccepted c hc

end Runs

end ConfigClient

end GpsHal
