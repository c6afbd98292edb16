import GpsHal.Gnss.GpsLock

/-!
# The SUPL server, across updates and restarts of the engine

The SUPL server is kept twice: as the URL that the engine is sent, and as `SUPL_HOST` and
`SUPL_PORT`, which `setConfig` makes the URL from again whenever the engine comes up.  The two fit
together as long as the host of an update fits into `SUPL_HOST`, and is there at all.

## Main definitions

* `SuplAdapter` : the adapter of `GpsHal.Gnss.GpsLock`, with what becomes of the SUPL server.
* `SuplAdapter.Replayed` : the engine has the server of the last update, and a restart keeps it.

## Main results

* `suplUrls_apiRequests` : what a message sends is the URL as it is when the message is processed.
* `suplUrl_truncate` : which hosts have the same URL once they have been shortened.
* `replayed_iff` : which updates the server survives.
-/

namespace GpsHal

namespace ConfigAdapter

/-! ### The URL of a host that has been shortened -/

theorem length_truncate (size : ℕ) (s : String) :
    (truncate size s).length = min (size - 1) s.length := by
  rw [truncate, String.length_ofList, List.length_take, String.length_toList]

theorem truncate_of_lt {size : ℕ} {s : String} (h : s.length < size) : truncate size s = s := by
  rw [← String.length_toList] at h
  rw [truncate, List.take_of_length_le (by omega), String.ofList_toList]

theorem length_port (port : BitVec 32) : (toString port.toNat).length ≤ 10 :=
  (Nat.length_repr_le_iff (by omega)).mpr (by have := port.isLt; omega)

/-- A host that is that long is a host. -/
theorem suplUrl_of_long {host : String} (h : 5 ≤ host.length) (port : BitVec 32) :
    suplUrl (some host) port =
      if port.toInt > 0 then some (truncate MAX_URL_LEN (host ++ ":" ++ toString port.toNat))
      else none := by
  have hhost : ¬ (host.toList = [] ∨ host.toList.map Char.toLower = ['n', 'o', 'n', 'e']) := by
    rw [← String.length_toList] at h
    rintro (hempty | hnone)
    · rw [hempty, List.length_nil] at h
      omega
    · rw [← List.length_map Char.toLower, hnone] at h
      exact absurd h (by decide)
  exact if_neg hhost

/-- The host that `SUPL_HOST` keeps has the URL of the one that it was copied from, if it has all
of it.  A URL of the rest of a host is shorter. -/
theorem suplUrl_truncate (host : String) {port : BitVec 32} {url : String}
    (hurl : suplUrl (some host) port = some url) :
    suplUrl (some (truncate LOC_MAX_PARAM_STRING host)) port = some url ↔
      host.length < LOC_MAX_PARAM_STRING := by
  constructor
  · intro h
    by_contra hlong
    have hhost : 172 ≤ host.length := Nat.not_lt.mp hlong
    have hlen : (truncate LOC_MAX_PARAM_STRING host).length = 171 := by
      rw [length_truncate]
      exact Nat.min_eq_left (Nat.le_of_succ_le hhost)
    rw [suplUrl_of_long (by omega)] at h hurl
    split at h
    · rename_i hport
      rw [if_pos hport] at hurl
      have heq := congrArg String.length (Option.some.inj (h.trans hurl.symm))
      rw [length_truncate, length_truncate] at heq
      simp only [String.length_append, hlen] at heq
      have hcolon : ":".length = 1 := rfl
      have hdigits := length_port port
      simp only [MAX_URL_LEN, hcolon] at heq
      omega
    · cases h
  · intro h
    rw [truncate_of_lt h, hurl]

end ConfigAdapter

open ConfigAdapter (suplUrl truncate MAX_URL_LEN LOC_MAX_PARAM_STRING)

/-- The update is one of the SUPL server. -/
def MsgGnssUpdateConfig.setsServer (m : MsgGnssUpdateConfig) : Bool :=
  hasFlag m.mConfig.flags GNSS_CONFIG_FLAGS_SET_ASSISTANCE_DATA_VALID_BIT &&
    decide (m.mConfig.assistanceServer.type = .SUPL)

/-- The message sends the URL of the SUPL server to the engine. -/
def LockApiMsg.handsServer : LockApiMsg → Bool
  | .setGpsLock _ => false
  | .setConfig _ requested =>
    hasFlag requested.flags GNSS_CONFIG_FLAGS_SET_ASSISTANCE_DATA_VALID_BIT &&
      decide (requested.assistanceServer.type = .SUPL)
  | .updateConfig u =>
    hasFlag u.gnssConfigRequested.flags GNSS_CONFIG_FLAGS_SET_ASSISTANCE_DATA_VALID_BIT &&
      (hasFlag u.gnssConfigNeedEngineUpdate.flags GNSS_CONFIG_FLAGS_SET_ASSISTANCE_DATA_VALID_BIT &&
        decide (u.gnssConfigNeedEngineUpdate.assistanceServer.type = .SUPL))

/-- The variables of the SUPL server, and whether updates of it are processed. -/
structure SuplServer where
  mServerUrl : String
  SUPL_HOST : String
  SUPL_PORT : BitVec 32
  AGPS_CONFIG_INJECT : Bool
  mIsEngineCapabilitiesKnown : Bool
  deriving DecidableEq, Repr

/-- What the configuration says the URL is, if it names a server. -/
def SuplServer.rendering (v : SuplServer) : Option String := suplUrl (some v.SUPL_HOST) v.SUPL_PORT

def ConfigAdapter.supl (c : ConfigAdapter) : SuplServer where
  mServerUrl := c.mServerUrl
  SUPL_HOST := c.mGps_conf.SUPL_HOST
  SUPL_PORT := c.mGps_conf.SUPL_PORT
  AGPS_CONFIG_INJECT := c.mGps_conf.AGPS_CONFIG_INJECT
  mIsEngineCapabilitiesKnown := c.mIsEngineCapabilitiesKnown

namespace LockAdapter

/-- The host and port that processing the next message of the adapter takes from an update. -/
def nextServer (s : LockAdapter) : Option (Option String × BitVec 32) :=
  match s.msgs.head? with
  | some (.updateConfig m) =>
    let server := m.mConfig.assistanceServer
    if s.mIsEngineCapabilitiesKnown ∧ m.setsServer ∧ s.mGps_conf.AGPS_CONFIG_INJECT ∧
        (suplUrl server.hostName server.port).isSome then
      some (server.hostName, server.port)
    else none
  | _ => none

/-- What the engine is asked by a message of `LocApiBase`. -/
def apiRequests (env : ConfigAdapter.Env) (s : LockAdapter) : LockApiMsg → List ConfigRequest
  | .setGpsLock gpsLock => [.setGpsLockSync gpsLock]
  | .setConfig oldMoServerUrl requested =>
    (s.toConfigAdapter.gnssUpdateConfig env oldMoServerUrl requested requested 0).requests
  | .updateConfig u =>
    (s.toConfigAdapter.gnssUpdateConfig env "" u.gnssConfigRequested
      u.gnssConfigNeedEngineUpdate u.countOfConfigs).requests

/-- The SUPL URLs among what the engine is asked. -/
def suplUrls (requests : List ConfigRequest) : List String :=
  requests.filterMap fun
    | .setServerSync url .SUPL_SERVER => some url
    | _ => none

end LockAdapter

/-- The adapter, and what becomes of the SUPL server. -/
structure SuplAdapter extends LockAdapter where
  /-- The hosts and ports that have been taken from updates, oldest first. -/
  updates : List (Option String × BitVec 32)
  /-- The SUPL URLs that the engine has been sent, oldest first. -/
  urls : List String
  deriving DecidableEq, Repr

namespace SuplAdapter

open LockAdapter (suplUrls)

section Model

variable (conv : LocApiConversions) (confLock : BitVec 32) (env : ConfigAdapter.Env)

/-- The server that a step takes from an update. -/
def newUpdate (s : SuplAdapter) : LockAdapter.Input → List (Option String × BitVec 32)
  | .proc => s.nextServer.toList
  | _ => []

/-- The SUPL URLs that a step sends. -/
def newUrls (s : SuplAdapter) : LockAdapter.Input → List String
  | .procApi => s.apiMsgs.head?.toList.flatMap fun m => suplUrls (s.apiRequests env m)
  | _ => []

/-- The steps are those of the adapter. -/
def step (s : SuplAdapter) (e : LockAdapter.Input) : Option SuplAdapter :=
  (s.toLockAdapter.step conv confLock env e).map fun t =>
    { toLockAdapter := t
      updates := s.updates ++ s.newUpdate e
      urls := s.urls ++ s.newUrls env e }

def init (c : ConfigAdapter) : SuplAdapter := ⟨LockAdapter.init c, [], []⟩

/-- The adapter as a transition system. -/
def system (c : ConfigAdapter) : System SuplAdapter LockAdapter.Input :=
  .ofPartial (init c) (step conv confLock env)

/-- `LocApiBase` has sent the URL on. -/
def Settled (s : SuplAdapter) : Prop := ∀ m ∈ s.apiMsgs, m.handsServer = false

/-- The engine has the server of the last update, the stored URL is the one of the configuration
once the engine has come up, and no host has been read that was not there. -/
structure Replayed (s : SuplAdapter) : Prop where
  sent : ∀ p, s.updates.getLast? = some p → s.Settled → s.urls.getLast? = suplUrl p.1 p.2
  stored : s.mIsEngineCapabilitiesKnown = true → s.updates ≠ [] ∨ s.supl.rendering ≠ none →
    s.supl.rendering = some s.mServerUrl
  host : ∀ p ∈ s.updates, p.1 ≠ none

/-- A server that is taken from an update has a host, and one that fits into `SUPL_HOST`. -/
def HostFits (s : SuplAdapter) (e : LockAdapter.Input) : Prop :=
  ∀ p ∈ s.newUpdate e, ∃ host, p.1 = some host ∧ host.length < LOC_MAX_PARAM_STRING

end Model

/-! ### What the engine is sent -/

section Requests

variable {env : ConfigAdapter.Env}

theorem suplUrls_append (l l' : List ConfigRequest) :
    suplUrls (l ++ l') = suplUrls l ++ suplUrls l' := List.filterMap_append

theorem suplUrls_hand (u : ConfigAdapter.ConfigErrors) (count : ℕ) (requested flag : BitVec 32)
    (h : ConfigAdapter.Handed) :
    suplUrls (u.hand count requested flag h).requests =
      suplUrls u.requests ++ if hasFlag requested flag then suplUrls h.requests else [] := by
  unfold ConfigAdapter.ConfigErrors.hand
  split
  · exact suplUrls_append _ _
  · rw [List.append_nil]

theorem suplUrls_handIfNeeded (needed flag : BitVec 32) {r : ConfigRequest}
    (h : suplUrls [r] = []) :
    suplUrls (ConfigAdapter.handIfNeeded env needed flag r).requests = [] := by
  unfold ConfigAdapter.handIfNeeded
  split
  · exact h
  · rfl

theorem suplUrls_handC2K (server : GnssConfigSetAssistanceServer) :
    suplUrls (ConfigAdapter.handC2K env server).requests = [] := by
  unfold ConfigAdapter.handC2K
  simp only
  split
  · rfl
  · split <;> rfl

theorem suplUrls_handBlacklist (ids : List GnssSvIdSource) :
    suplUrls (ConfigAdapter.handBlacklist env ids).requests = [] := by
  unfold ConfigAdapter.handBlacklist
  split <;> rfl

/-- The second server is no SUPL server, whether it is sent or not. -/
theorem suplUrls_handAssistanceServer (c : ConfigAdapter) (oldMoServerUrl : String)
    (need : GnssConfigSettings) :
    suplUrls (c.handAssistanceServer env oldMoServerUrl need).requests =
      if hasFlag need.flags GNSS_CONFIG_FLAGS_SET_ASSISTANCE_DATA_VALID_BIT &&
        decide (need.assistanceServer.type = .SUPL) then [c.mServerUrl] else [] := by
  unfold ConfigAdapter.handAssistanceServer
  by_cases hflag : hasFlag need.flags GNSS_CONFIG_FLAGS_SET_ASSISTANCE_DATA_VALID_BIT = true
  · by_cases htype : need.assistanceServer.type = .SUPL
    · rw [if_pos hflag, if_pos htype, hflag, decide_eq_true htype]
      show suplUrls (_ :: _) = _
      split <;> rfl
    · rw [if_pos hflag, if_neg htype, decide_eq_false htype, Bool.and_false]
      split
      · exact suplUrls_handC2K _
      · rfl
  · rw [if_neg hflag, Bool.eq_false_of_not_eq_true hflag]
    rfl

theorem suplUrls_gnssUpdateConfig (c : ConfigAdapter) (oldMoServerUrl : String)
    (requested need : GnssConfigSettings) (count : ℕ) :
    suplUrls (c.gnssUpdateConfig env oldMoServerUrl requested need count).requests =
      if hasFlag requested.flags GNSS_CONFIG_FLAGS_SET_ASSISTANCE_DATA_VALID_BIT &&
        (hasFlag need.flags GNSS_CONFIG_FLAGS_SET_ASSISTANCE_DATA_VALID_BIT &&
          decide (need.assistanceServer.type = .SUPL)) then [c.mServerUrl] else [] := by
  have hother : ∀ flag r, suplUrls [r] = [] →
      suplUrls (ConfigAdapter.handIfNeeded env need.flags flag r).requests = [] :=
    fun flag _ h => suplUrls_handIfNeeded need.flags flag h
  unfold ConfigAdapter.gnssUpdateConfig ConfigAdapter.handed
  simp only [List.foldl_cons, List.foldl_nil, suplUrls_hand, suplUrls_handAssistanceServer,
    suplUrls_handBlacklist]
  rw [hother _ _ rfl, hother _ _ rfl, hother _ _ rfl, hother _ _ rfl, hother _ _ rfl,
    hother _ _ rfl, hother _ _ rfl]
  simp only [ite_self, List.append_nil]
  cases hasFlag requested.flags GNSS_CONFIG_FLAGS_SET_ASSISTANCE_DATA_VALID_BIT
  · rfl
  · rw [if_pos rfl, Bool.true_and]
    rfl

/-- What a message sends is the URL as it is when the message is processed. -/
theorem suplUrls_apiRequests (s : LockAdapter) (m : LockApiMsg) :
    suplUrls (s.apiRequests env m) = if m.handsServer then [s.mServerUrl] else [] := by
  cases m with
  | setGpsLock gpsLock => rfl
  | setConfig oldMoServerUrl requested =>
    refine (suplUrls_gnssUpdateConfig _ _ _ _ _).trans ?_
    rw [← Bool.and_assoc, Bool.and_self]
    rfl
  | updateConfig u => exact suplUrls_gnssUpdateConfig _ _ _ _ _

end Requests

/-! ### What the messages do to the server -/

theorem supl_writeConf (c : ConfigAdapter) (flags flag : BitVec 32) {f : GpsConf → GpsConf}
    (hf : ∀ g, (f g).SUPL_HOST = g.SUPL_HOST ∧ (f g).SUPL_PORT = g.SUPL_PORT ∧
      (f g).AGPS_CONFIG_INJECT = g.AGPS_CONFIG_INJECT) :
    (c.writeConf flags flag f).supl = c.supl := by
  unfold ConfigAdapter.writeConf
  split
  · obtain ⟨hhost, hport, hinject⟩ := hf c.mGps_conf
    simp only [ConfigAdapter.supl, hhost, hport, hinject]
  · rfl

theorem supl_setSuplHostServer {c : ConfigAdapter} {server : Option String} {port : BitVec 32}
    {url : String} (hinject : c.mGps_conf.AGPS_CONFIG_INJECT = true)
    (hurl : suplUrl server port = some url) :
    (c.setSuplHostServer server port).supl = { c.supl with
      mServerUrl := url
      SUPL_HOST := (server.map (truncate LOC_MAX_PARAM_STRING)).getD c.mGps_conf.SUPL_HOST
      SUPL_PORT := port } := by
  unfold ConfigAdapter.setSuplHostServer
  rw [if_pos hinject, hurl]
  rfl

theorem setSuplHostServer_none {c : ConfigAdapter} {server : Option String} {port : BitVec 32}
    (hurl : suplUrl server port = none) : c.setSuplHostServer server port = c := by
  unfold ConfigAdapter.setSuplHostServer
  split
  · rw [hurl]
  · rfl

/-- What `setSuplHostServer` makes of the server depends on the server only. -/
theorem supl_setSuplHostServer_congr {c c₁ : ConfigAdapter} (h : c₁.supl = c.supl)
    (server : Option String) (port : BitVec 32) :
    (c₁.setSuplHostServer server port).supl = (c.setSuplHostServer server port).supl := by
  have hinject : c₁.mGps_conf.AGPS_CONFIG_INJECT = c.mGps_conf.AGPS_CONFIG_INJECT :=
    congrArg SuplServer.AGPS_CONFIG_INJECT h
  have hhost : c₁.mGps_conf.SUPL_HOST = c.mGps_conf.SUPL_HOST := congrArg SuplServer.SUPL_HOST h
  by_cases hon : c.mGps_conf.AGPS_CONFIG_INJECT = true
  · cases hurl : suplUrl server port with
    | none => rw [setSuplHostServer_none hurl, setSuplHostServer_none hurl, h]
    | some url =>
      rw [supl_setSuplHostServer (hinject.trans hon) hurl, supl_setSuplHostServer hon hurl, h, hhost]
  · have hoff : ¬ c₁.mGps_conf.AGPS_CONFIG_INJECT = true := fun hon' => hon (hinject.symm.trans hon')
    unfold ConfigAdapter.setSuplHostServer
    rw [if_neg hon, if_neg hoff, h]

/-- An update leaves the server alone unless it is one of the server. -/
theorem supl_procUpdateConfig (c : ConfigAdapter) (m : MsgGnssUpdateConfig) :
    (c.procUpdateConfig m).1.supl =
      if m.setsServer then
        (c.setSuplHostServer m.mConfig.assistanceServer.hostName
          m.mConfig.assistanceServer.port).supl
      else c.supl := by
  have hlock : (if hasFlag m.mConfig.flags GNSS_CONFIG_FLAGS_GPS_LOCK_VALID_BIT
      then c.procGpsLock m.mConfig.gpsLock else (c, m.mConfig.gpsLock, true)).1.supl = c.supl := by
    split
    · rw [LockAdapter.procGpsLock_fst]
      rfl
    · rfl
  unfold ConfigAdapter.procUpdateConfig MsgGnssUpdateConfig.setsServer
  simp only [Bool.and_eq_true, decide_eq_true_eq]
  iterate 7 refine Eq.trans (supl_writeConf _ _ _ fun _ => ⟨rfl, rfl, rfl⟩) ?_
  split
  · refine supl_setSuplHostServer_congr ?_ _ _
    exact Eq.trans (supl_writeConf _ _ _ fun _ => ⟨rfl, rfl, rfl⟩) hlock
  · exact Eq.trans (supl_writeConf _ _ _ fun _ => ⟨rfl, rfl, rfl⟩) hlock

/-- The engine is sent the server with every update of it, also with one that is not accepted. -/
theorem handsServer_procUpdateConfig (c : ConfigAdapter) (m : MsgGnssUpdateConfig) :
    (LockApiMsg.updateConfig (c.procUpdateConfig m).2).handsServer = m.setsServer := by
  obtain ⟨-, -, gpsLock, needsLock, -, hreq, hneed⟩ := c.procUpdateConfig_snd (m := m) rfl
  have hbit : hasFlag m.mConfig.flags GNSS_CONFIG_FLAGS_SET_ASSISTANCE_DATA_VALID_BIT =
      m.mConfig.flags.getLsbD 2 := hasFlag_bit _ _ 2 (by omega) rfl
  rw [LockApiMsg.handsServer, hreq, hneed]
  simp only [ConfigAdapter.hasFlag_neededFlags GNSS_CONFIG_FLAGS_SET_ASSISTANCE_DATA_VALID_BIT
    (by omega : 2 < 32) rfl, MsgGnssUpdateConfig.setsServer, hbit]
  by_cases htype : m.mConfig.assistanceServer.type = .SUPL
  · simp [htype]
  · simp [htype]

/-! ### The invariant -/

end SuplAdapter

/-- What holds of the variables of the server after `updates`. -/
structure SuplServer.Serves (v : SuplServer) (updates : List (Option String × BitVec 32)) :
    Prop where
  inject : v.AGPS_CONFIG_INJECT = true
  fits : v.SUPL_HOST.length < LOC_MAX_PARAM_STRING
  known : updates ≠ [] → v.mIsEngineCapabilitiesKnown = true
  rendered : v.mIsEngineCapabilitiesKnown = true → updates ≠ [] ∨ v.rendering ≠ none →
    v.rendering = some v.mServerUrl
  last : ∀ p, updates.getLast? = some p → suplUrl p.1 p.2 = some v.mServerUrl
  host : ∀ p ∈ updates, p.1 ≠ none

namespace SuplServer.Serves

variable {v : SuplServer} {updates : List (Option String × BitVec 32)}

/-- An update whose host fits is what the configuration holds then. -/
theorem update (h : v.Serves updates) (hknown : v.mIsEngineCapabilitiesKnown = true)
    {host : String} {port : BitVec 32} {url : String} (hurl : suplUrl (some host) port = some url)
    (hfits : host.length < LOC_MAX_PARAM_STRING) :
    Serves { v with
      mServerUrl := url
      SUPL_HOST := truncate LOC_MAX_PARAM_STRING host
      SUPL_PORT := port } (updates ++ [(some host, port)]) := by
  rw [ConfigAdapter.truncate_of_lt hfits]
  refine ⟨h.inject, hfits, fun _ => hknown, fun _ _ => hurl, fun p hp => ?_, fun p hp => ?_⟩
  · rw [List.getLast?_concat] at hp
    obtain rfl := Option.some.inj hp
    exact hurl
  · rcases List.mem_append.mp hp with hp | hp
    · exact h.host p hp
    · obtain rfl := List.mem_singleton.mp hp
      exact Option.some_ne_none host

/-- When the engine comes up, the URL that is made again is the one that there was. -/
theorem engineUp (h : v.Serves updates) {url : String} (hurl : v.rendering = some url) :
    Serves { v with
      mServerUrl := url
      SUPL_HOST := truncate LOC_MAX_PARAM_STRING v.SUPL_HOST
      mIsEngineCapabilitiesKnown := true } updates := by
  rw [ConfigAdapter.truncate_of_lt h.fits]
  refine ⟨h.inject, h.fits, fun _ => rfl, fun _ _ => hurl, fun p hp => ?_, h.host⟩
  have hne : updates ≠ [] := by
    rintro rfl
    cases hp
  have hsame : some url = some v.mServerUrl := hurl.symm.trans (h.rendered (h.known hne) (.inl hne))
  exact (h.last p hp).trans hsame.symm

/-- A configuration without a server leaves the URL alone. -/
theorem engineUp_none (h : v.Serves updates) (hnone : v.rendering = none) :
    Serves { v with mIsEngineCapabilitiesKnown := true } updates := by
  refine ⟨h.inject, h.fits, fun _ => rfl, fun _ hserver => ?_, h.last, h.host⟩
  rcases hserver with hne | hserver
  · have hurl := h.rendered (h.known hne) (.inl hne)
    rw [hnone] at hurl
    cases hurl
  · exact absurd hnone hserver

end SuplServer.Serves

namespace SuplAdapter

/-- The URL of the server is the last that has been sent, unless a message is to send it. -/
structure Serves (s : SuplAdapter) : Prop where
  server : s.supl.Serves s.updates
  sent : s.mIsEngineCapabilitiesKnown = true → s.Settled → s.urls.getLast? = some s.mServerUrl

theorem Serves.replayed {s : SuplAdapter} (h : s.Serves) : s.Replayed := by
  refine ⟨fun p hp hset => ?_, h.server.rendered, h.server.host⟩
  have hne : s.updates ≠ [] := fun hempty => by rw [hempty] at hp; cases hp
  rw [h.sent (h.server.known hne) hset]
  exact (h.server.last p hp).symm

/-- A step that leaves the server alone, and the messages that there are. -/
structure Keeps (s t : LockAdapter) : Prop where
  supl : t.supl = s.supl
  apiMsgs : ∀ m ∈ s.apiMsgs, m ∈ t.apiMsgs

theorem Serves.keeps {s : SuplAdapter} (h : s.Serves) {t : LockAdapter}
    (hk : Keeps s.toLockAdapter t) : Serves ⟨t, s.updates, s.urls⟩ := by
  refine ⟨?_, fun hknown hset => ?_⟩
  · show t.supl.Serves s.updates
    rw [hk.supl]
    exact h.server
  · have hk' : t.mIsEngineCapabilitiesKnown = s.mIsEngineCapabilitiesKnown :=
      congrArg SuplServer.mIsEngineCapabilitiesKnown hk.supl
    have hurl : t.mServerUrl = s.mServerUrl := congrArg SuplServer.mServerUrl hk.supl
    show s.urls.getLast? = some t.mServerUrl
    rw [hurl]
    exact h.sent (hk'.symm.trans hknown) fun m hm => hset m (hk.apiMsgs m hm)

/-- Where the URL is to be sent, what has been sent does not matter. -/
theorem Serves.of_hands {t : LockAdapter} {updates : List (Option String × BitVec 32)}
    {urls : List String} (h : t.supl.Serves updates) {m : LockApiMsg} (hm : m ∈ t.apiMsgs)
    (hhands : m.handsServer = true) : Serves ⟨t, updates, urls⟩ := by
  refine ⟨h, fun _ hset => ?_⟩
  have hnot : m.handsServer = false := hset m hm
  rw [hhands] at hnot
  cases hnot

/-! ### The steps -/

section Steps

variable {conv : LocApiConversions} {confLock : BitVec 32} {env : ConfigAdapter.Env}
variable {s : SuplAdapter} {t : LockAdapter}

/-- The message takes no server from an update. -/
theorem Serves.procUpdateConfig (h : s.Serves) (m : MsgGnssUpdateConfig)
    (hserver : ¬ (s.mIsEngineCapabilitiesKnown = true ∧ m.setsServer = true ∧
      (suplUrl m.mConfig.assistanceServer.hostName m.mConfig.assistanceServer.port).isSome = true)) :
    Serves ⟨s.toLockAdapter.procUpdateConfig m, s.updates, s.urls⟩ := by
  refine h.keeps ?_
  unfold LockAdapter.procUpdateConfig ConfigAdapter.proc
  by_cases hknown : s.mIsEngineCapabilitiesKnown = true
  · rw [if_pos hknown]
    have hsupl : (s.toConfigAdapter.procUpdateConfig m).1.supl = s.supl := by
      rw [supl_procUpdateConfig]
      split
      · rename_i hsets
        cases hurl : suplUrl m.mConfig.assistanceServer.hostName m.mConfig.assistanceServer.port with
        | none => rw [setSuplHostServer_none hurl]
        | some url => exact absurd ⟨hknown, hsets, by rw [hurl]; rfl⟩ hserver
      · rfl
    simp only
    split <;> exact ⟨hsupl, fun m hm => List.mem_append_left _ hm⟩
  · -- the message is kept for later
    rw [if_neg hknown]
    exact ⟨rfl, fun _ hm => hm⟩

/-- The message takes its server from an update. -/
theorem procUpdateConfig_supl (hinject : s.mGps_conf.AGPS_CONFIG_INJECT = true)
    {m : MsgGnssUpdateConfig} (hknown : s.mIsEngineCapabilitiesKnown = true)
    (hsets : m.setsServer = true) {url : String}
    (hurl : suplUrl m.mConfig.assistanceServer.hostName m.mConfig.assistanceServer.port =
      some url) :
    (s.toLockAdapter.procUpdateConfig m).supl = { s.supl with
      mServerUrl := url
      SUPL_HOST := (m.mConfig.assistanceServer.hostName.map
        (truncate LOC_MAX_PARAM_STRING)).getD s.mGps_conf.SUPL_HOST
      SUPL_PORT := m.mConfig.assistanceServer.port } ∧
    ∃ u, .updateConfig u ∈ (s.toLockAdapter.procUpdateConfig m).apiMsgs ∧
      (LockApiMsg.updateConfig u).handsServer = true := by
  have hsupl := supl_procUpdateConfig s.toConfigAdapter m
  rw [if_pos hsets, supl_setSuplHostServer hinject hurl] at hsupl
  have hhands := handsServer_procUpdateConfig s.toConfigAdapter m
  rw [hsets] at hhands
  unfold LockAdapter.procUpdateConfig ConfigAdapter.proc
  rw [hknown, if_pos rfl]
  simp only
  split <;> exact ⟨hsupl, _, List.mem_append_right _ (List.mem_singleton.mpr rfl), hhands⟩

/-- `setConfig` sends the server. -/
theorem handsServer_setConfig {c : ConfigAdapter} (hinject : c.mGps_conf.AGPS_CONFIG_INJECT = true)
    (oldMoServerUrl : String) :
    (LockApiMsg.setConfig oldMoServerUrl (LockAdapter.configRequested conv c)).handsServer =
      true := by
  have hflag : hasFlag (LockAdapter.configRequested conv c).flags
      GNSS_CONFIG_FLAGS_SET_ASSISTANCE_DATA_VALID_BIT = true := by
    rw [hasFlag_bit _ GNSS_CONFIG_FLAGS_SET_ASSISTANCE_DATA_VALID_BIT 2 (by omega) rfl]
    unfold LockAdapter.configRequested
    simp only [hinject, if_true]
    split <;> split <;> simp only [BitVec.getLsbD_or] <;> rfl
  have htype : (LockAdapter.configRequested conv c).assistanceServer.type = .SUPL := by
    unfold LockAdapter.configRequested
    simp only
    split <;> split <;> split <;> rfl
  rw [LockApiMsg.handsServer, hflag, htype]
  rfl

theorem Serves.procEngineUp (h : s.Serves) :
    Serves ⟨s.toLockAdapter.procEngineUp conv, s.updates, s.urls⟩ := by
  have hinject : s.mGps_conf.AGPS_CONFIG_INJECT = true := h.server.inject
  let c : ConfigAdapter := { s.toConfigAdapter with mIsEngineCapabilitiesKnown := true }
  have hsupl : (c.setSuplHostServer (some s.mGps_conf.SUPL_HOST) s.mGps_conf.SUPL_PORT).supl.Serves
      s.updates := by
    cases hurl : suplUrl (some s.mGps_conf.SUPL_HOST) s.mGps_conf.SUPL_PORT with
    | none =>
      rw [setSuplHostServer_none hurl]
      exact h.server.engineUp_none hurl
    | some url =>
      rw [supl_setSuplHostServer (c := c) hinject hurl]
      exact h.server.engineUp hurl
  refine Serves.of_hands hsupl (List.mem_append_right _ (List.mem_singleton.mpr rfl)) ?_
  exact handsServer_setConfig hsupl.inject _

/-- The next message takes a server from an update. -/
theorem nextServer_eq_some {p : Option String × BitVec 32} (hp : s.nextServer = some p) :
    ∃ m ms url, s.msgs = .updateConfig m :: ms ∧ s.mIsEngineCapabilitiesKnown = true ∧
      m.setsServer = true ∧ suplUrl p.1 p.2 = some url ∧
      p = (m.mConfig.assistanceServer.hostName, m.mConfig.assistanceServer.port) := by
  unfold LockAdapter.nextServer at hp
  split at hp
  · rename_i m hhead
    obtain ⟨ms, hms⟩ := List.head?_eq_some_iff.mp hhead
    simp only at hp
    split at hp
    · rename_i hserver
      obtain ⟨hknown, hsets, -, hurl⟩ := hserver
      obtain rfl := Option.some.inj hp
      obtain ⟨url, hurl⟩ := Option.isSome_iff_exists.mp hurl
      exact ⟨m, ms, url, hms, hknown, hsets, hurl, rfl⟩
    · cases hp
  · cases hp

/-- A message that takes its server from an update. -/
theorem Serves.proc_some (h : s.Serves) {p : Option String × BitVec 32}
    (hp : s.nextServer = some p) (hst : s.toLockAdapter.proc conv confLock = some t) :
    ∃ url, suplUrl p.1 p.2 = some url ∧
      t.supl = { s.supl with
        mServerUrl := url
        SUPL_HOST := (p.1.map (truncate LOC_MAX_PARAM_STRING)).getD s.mGps_conf.SUPL_HOST
        SUPL_PORT := p.2 } ∧
      s.mIsEngineCapabilitiesKnown = true ∧
      ∃ u, .updateConfig u ∈ t.apiMsgs ∧ (LockApiMsg.updateConfig u).handsServer = true := by
  obtain ⟨m, ms, url, hms, hknown, hsets, hurl, rfl⟩ := nextServer_eq_some hp
  unfold LockAdapter.proc at hst
  rw [hms] at hst
  obtain rfl := Option.some.inj hst
  let s₁ : SuplAdapter := { s with msgs := ms }
  obtain ⟨hsupl, hhands⟩ := procUpdateConfig_supl (s := s₁) h.server.inject hknown hsets hurl
  exact ⟨url, hurl, hsupl, hknown, hhands⟩

/-- Every other message. -/
theorem Serves.proc_none (h : s.Serves) (hnone : s.nextServer = none)
    (hst : s.toLockAdapter.proc conv confLock = some t) : Serves ⟨t, s.updates, s.urls⟩ := by
  unfold LockAdapter.proc at hst
  cases hms : s.msgs with
  | nil => rw [hms] at hst; cases hst
  | cons m ms =>
    rw [hms] at hst
    obtain rfl := Option.some.inj hst
    let s₁ : SuplAdapter := { s with msgs := ms }
    have h₁ : s₁.Serves := h.keeps ⟨rfl, fun _ hm => hm⟩
    cases m with
    | readConfig =>
      refine h₁.keeps ?_
      show Keeps _ (LockAdapter.procReadConfig confLock _)
      unfold LockAdapter.procReadConfig
      split <;> exact ⟨rfl, fun _ hm => hm⟩
    | engineUp => exact h₁.procEngineUp
    | enable mSessionId mTechType =>
      refine h₁.keeps ?_
      show Keeps _ (LockAdapter.procEnable _ mSessionId mTechType)
      unfold LockAdapter.procEnable
      split
      · exact ⟨rfl, fun _ hm => hm⟩
      · split
        · exact ⟨rfl, fun _ hm => hm⟩
        · simp only
          split <;> exact ⟨rfl, fun _ hm => List.mem_append_left _ hm⟩
    | disable mSessionId =>
      refine h₁.keeps ?_
      show Keeps _ (LockAdapter.procDisable _ mSessionId)
      unfold LockAdapter.procDisable
      split
      · exact ⟨rfl, fun _ hm => hm⟩
      · simp only
        split <;> exact ⟨rfl, fun _ hm => List.mem_append_left _ hm⟩
    | controlNfwLocationAccess mEnable =>
      exact h₁.keeps ⟨rfl, fun _ hm => List.mem_append_left _ hm⟩
    | updateConfig m =>
      refine h₁.procUpdateConfig m fun ⟨hknown, hsets, hurl⟩ => ?_
      unfold LockAdapter.nextServer at hnone
      rw [hms] at hnone
      simp only [List.head?_cons] at hnone
      rw [if_pos ⟨hknown, hsets, h.server.inject, hurl⟩] at hnone
      cases hnone

theorem Serves.proc (h : s.Serves) (hfits : s.HostFits .proc)
    (hst : s.toLockAdapter.proc conv confLock = some t) :
    Serves ⟨t, s.updates ++ s.nextServer.toList, s.urls⟩ := by
  cases hp : s.nextServer with
  | none =>
    rw [Option.toList_none, List.append_nil]
    exact h.proc_none hp hst
  | some p =>
    obtain ⟨url, hurl, hsupl, hknown, u, hu, hhands⟩ := h.proc_some hp hst
    obtain ⟨host, hhost, hlen⟩ := hfits p (by rw [newUpdate, hp]; exact List.mem_singleton.mpr rfl)
    obtain ⟨server, port⟩ := p
    obtain rfl : server = some host := hhost
    refine Serves.of_hands ?_ hu hhands
    rw [hsupl]
    exact h.server.update hknown hurl hlen

/-- A host that is not there has been read; one that does not fit is not the one of the URL. -/
theorem Serves.not_replayed (h : s.Serves) (hfits : ¬ s.HostFits .proc)
    (hst : s.toLockAdapter.proc conv confLock = some t) :
    ¬ Replayed ⟨t, s.updates ++ s.nextServer.toList, s.urls⟩ := by
  intro hr
  refine hfits fun p hmem => ?_
  have hp : s.nextServer = some p := Option.mem_toList.mp hmem
  obtain ⟨url, hurl, hsupl, hknown, -⟩ := h.proc_some hp hst
  have hupdates : p ∈ s.updates ++ s.nextServer.toList := List.mem_append_right _ hmem
  obtain ⟨host, hhost⟩ := Option.ne_none_iff_exists'.mp (hr.host p hupdates)
  obtain ⟨server, port⟩ := p
  obtain rfl : server = some host := hhost
  have hk : t.mIsEngineCapabilitiesKnown = true :=
    (congrArg SuplServer.mIsEngineCapabilitiesKnown hsupl).trans hknown
  have hstored := hr.stored hk (.inl (List.ne_nil_of_mem hupdates))
  have hstored : t.supl.rendering = some t.supl.mServerUrl := hstored
  rw [hsupl] at hstored
  exact ⟨host, rfl, (ConfigAdapter.suplUrl_truncate host hurl).mp hstored⟩

/-- `LocApiBase` sends the URL as it is now. -/
theorem Serves.procApi (h : s.Serves) (hst : s.toLockAdapter.procApi env = some t) :
    Serves ⟨t, s.updates, s.urls ++ s.newUrls env .procApi⟩ := by
  unfold LockAdapter.procApi at hst
  cases hms : s.apiMsgs with
  | nil => rw [hms] at hst; cases hst
  | cons m ms =>
    rw [hms] at hst
    obtain rfl := Option.some.inj hst
    have hkeep : (LockAdapter.procApiMsg env { s.toLockAdapter with apiMsgs := ms } m).supl =
        s.supl ∧ (LockAdapter.procApiMsg env { s.toLockAdapter with apiMsgs := ms } m).apiMsgs =
        ms := by
      cases m with
      | setGpsLock gpsLock => exact ⟨rfl, rfl⟩
      | setConfig oldMoServerUrl requested =>
        refine ⟨?_, rfl⟩
        show (ConfigAdapter.afterUpdateConfig env _ requested).supl = _
        unfold ConfigAdapter.afterUpdateConfig
        split <;> rfl
      | updateConfig u =>
        refine ⟨?_, rfl⟩
        show (ConfigAdapter.afterUpdateConfig env _ u.gnssConfigRequested).supl = _
        unfold ConfigAdapter.afterUpdateConfig
        split <;> rfl
    obtain ⟨hsupl, happ⟩ := hkeep
    have hurls : s.newUrls env .procApi = if m.handsServer then [s.mServerUrl] else [] := by
      rw [← suplUrls_apiRequests s.toLockAdapter m, newUrls, hms]
      exact List.append_nil _
    refine ⟨?_, fun hknown hset => ?_⟩
    · show SuplServer.Serves (ConfigAdapter.supl _) s.updates
      rw [hsupl]
      exact h.server
    · have hk : s.mIsEngineCapabilitiesKnown = true :=
        (congrArg SuplServer.mIsEngineCapabilitiesKnown hsupl).symm.trans hknown
      have hurl := congrArg SuplServer.mServerUrl hsupl
      refine Eq.trans ?_ (congrArg some hurl.symm)
      show (s.urls ++ s.newUrls env .procApi).getLast? = some s.mServerUrl
      rw [hurls]
      by_cases hhands : m.handsServer = true
      · rw [if_pos hhands, List.getLast?_concat]
      · rw [if_neg hhands, List.append_nil]
        refine h.sent hk fun x hx => ?_
        rw [hms] at hx
        rcases List.mem_cons.mp hx with rfl | hx
        · exact Bool.eq_false_of_not_eq_true hhands
        · exact hset x (happ.symm ▸ hx)

theorem supl_generateIds (count : ℕ) (c : ConfigAdapter) :
    (ConfigAdapter.generateIds count c).1.supl = c.supl := by
  induction count generalizing c with
  | zero => rfl
  | succ count ih => exact ih _

theorem Serves.step {s' : SuplAdapter} {e : LockAdapter.Input} (h : s.Serves)
    (hfits : s.HostFits e) (hst : s.step conv confLock env e = some s') : s'.Serves := by
  obtain ⟨t, ht, rfl⟩ := Option.map_eq_some_iff.mp hst
  have hcommand (hk : Keeps s.toLockAdapter t) :
      Serves ⟨t, s.updates ++ [], s.urls ++ []⟩ := by
    rw [List.append_nil, List.append_nil]
    exact h.keeps hk
  cases e with
  | enableCommand techType =>
    obtain rfl := Option.some.inj ht
    exact hcommand ⟨rfl, fun _ hm => hm⟩
  | disableCommand id =>
    obtain rfl := Option.some.inj ht
    exact hcommand ⟨rfl, fun _ hm => hm⟩
  | nfwControlCommand enable =>
    obtain rfl := Option.some.inj ht
    refine hcommand ?_
    unfold LockAdapter.nfwControlCommand
    split <;> exact ⟨rfl, fun _ hm => hm⟩
  | gnssUpdateConfigCommand config =>
    obtain rfl := Option.some.inj ht
    refine hcommand ?_
    unfold LockAdapter.gnssUpdateConfigCommand ConfigAdapter.gnssUpdateConfigCommand
    simp only
    by_cases hcount : ConfigAdapter.countFlags 32 config.flags > 0
    · rw [if_pos hcount]
      exact ⟨supl_generateIds _ _, fun _ hm => hm⟩
    · rw [if_neg hcount]
      exact ⟨rfl, fun _ hm => hm⟩
  | handleEngineUpEvent =>
    obtain rfl := Option.some.inj ht
    exact hcommand ⟨rfl, fun _ hm => hm⟩
  | generateSessionId =>
    obtain rfl := Option.some.inj ht
    exact hcommand ⟨rfl, fun _ hm => hm⟩
  | proc =>
    have hproc := h.proc hfits ht
    show Serves ⟨t, _, s.urls ++ []⟩
    rw [List.append_nil]
    exact hproc
  | procApi =>
    have happ := h.procApi ht
    show Serves ⟨t, s.updates ++ [], _⟩
    rw [List.append_nil]
    exact happ

theorem serves_init {c : ConfigAdapter} (hinject : c.mGps_conf.AGPS_CONFIG_INJECT = true)
    (hhost : c.mGps_conf.SUPL_HOST.length < LOC_MAX_PARAM_STRING) : (init c).Serves :=
  ⟨⟨hinject, hhost, fun h => absurd rfl h, nofun, nofun, nofun⟩, nofun⟩

/-- **SUPL server.**  The server survives exactly the runs in which every server that is taken from
an update has a host, and one that fits into `SUPL_HOST`. -/
theorem replayed_iff {c : ConfigAdapter} (hinject : c.mGps_conf.AGPS_CONFIG_INJECT = true)
    (hhost : c.mGps_conf.SUPL_HOST.length < LOC_MAX_PARAM_STRING) (es : List LockAdapter.Input) :
    (system conv confLock env c).Always Replayed es s ↔
      (system conv confLock env c).Run HostFits es s := by
  refine System.always_iff_run (serves_init hinject hhost) (fun _ h => h.replayed)
    (fun _ _ _ h hfits hst => h.step hfits hst) fun s e s' h hfits hst => ?_
  obtain ⟨t, ht, rfl⟩ := Option.map_eq_some_iff.mp hst
  cases e with
  | proc =>
    show ¬ Replayed ⟨t, _, s.urls ++ []⟩
    rw [List.append_nil]
    exact h.not_replayed hfits ht
  | enableCommand _ | disableCommand _ | nfwControlCommand _ | gnssUpdateConfigCommand _
  | handleEngineUpEvent | generateSessionId | procApi => exact absurd nofun hfits

end Steps

/-! ### Runs on fixed inputs -/

/-- An adapter that takes its SUPL server from the updates. -/
def suplAdapter : ConfigAdapter :=
  { LockAdapter.plainAdapter with
    mGps_conf := { LockAdapter.plainAdapter.mGps_conf with AGPS_CONFIG_INJECT := true } }

/-- An update of the SUPL server. -/
def serverUpdate (hostName : Option String) (port : BitVec 32) : GnssConfigSettings :=
  { GnssConfigSettings.zero with
    flags := GNSS_CONFIG_FLAGS_SET_ASSISTANCE_DATA_VALID_BIT
    assistanceServer := ⟨0, .SUPL, hostName, port⟩ }

instance (s : SuplAdapter) (e : LockAdapter.Input) : Decidable (s.HostFits e) :=
  decidable_of_iff (∀ p ∈ s.newUpdate e, ∃ host ∈ p.1, host.length < LOC_MAX_PARAM_STRING)
    Iff.rfl

/-- The server is updated, an update of it is refused, and the engine restarts. -/
theorem replayed_restart :
    ∃ s, (system LockAdapter.plainConversions 0 LockAdapter.acceptingEnv suplAdapter).Always
        Replayed [.handleEngineUpEvent, .proc, .proc, .proc,
          .gnssUpdateConfigCommand (serverUpdate (some "supl.google.com") 7275),
          .gnssUpdateConfigCommand (serverUpdate (some "localhost") 0), .proc, .procApi, .procApi,
          .proc, .handleEngineUpEvent, .proc, .proc, .procApi, .procApi] s ∧
      s.apiMsgs = [] ∧ s.urls.getLast? = some "supl.google.com:7275" :=
  ⟨_, (replayed_iff rfl (by decide) _).mpr (System.run_guarded rfl), rfl, rfl⟩

/-- An update without a host reads the host all the same. -/
theorem no_host_is_read :
    ∃ s, (system LockAdapter.plainConversions 0 LockAdapter.acceptingEnv suplAdapter).Run
        System.Free [.handleEngineUpEvent, .proc, .proc, .proc,
          .gnssUpdateConfigCommand (serverUpdate none 7275), .proc] s ∧
      s.updates = [(none, 7275)] ∧ ¬ s.Replayed :=
  ⟨_, System.run_foldlM rfl, rfl, fun h => h.host _ (List.mem_singleton.mpr rfl) rfl⟩

end SuplAdapter

end GpsHal
