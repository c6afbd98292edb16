import GpsHal.Core.DebugNmea
import GpsHal.Gnss.SystemInfo
import GpsHal.Transition.Basic
import GpsHal.Util.NmeaGsvBuffer
import GpsHal.Util.NmeaPosSentences
import GpsHal.Util.OrdMap

/-!
# `GnssAdapter` : NMEA sentences for the framework

If the application processor provides the sentences, the adapter generates them for every position and
every satellite report as long as a session runs, joins them to one text and hands it to the clients.  A
`GnssAPIClient` splits the text into lines again, and calls the framework with each of them
(`gnss/GnssAdapter.cpp`, `android/2.0/location_api/GnssAPIClient.cpp`).  What the modem sends goes the same
way if it is not consumed before.

## Main definitions

* `getlines`, `NmeaClient.onGnssNmeaCb` : the lines of a text, and the calls of the framework.
* `NmeaSource.sentences`, `NmeaSource.text` : what a report is to deliver, and the text it is joined to.
* `NmeaStream.system` : clients, sessions and reports in any order.

## Main results

* `getlines_flatten` : lines that are joined are found again.
* `NmeaStream.delivered_of_run` : the framework gets every sentence, one by one and in order.
-/

namespace GpsHal

def NMEA_PROVIDER_AP : BitVec 32 := 0

def LOC_GPS_LOCATION_HAS_ACCURACY : BitVec 16 := 0x0010
def LOC_POS_TECH_MASK_HYBRID : BitVec 32 := 0x00000080

inductive LocSessStatus
  | LOC_SESS_SUCCESS
  | LOC_SESS_INTERMEDIATE
  | LOC_SESS_FAILURE
  deriving DecidableEq, Repr

/-- The parts of `ContextBase::mGps_conf` that are used, and the datum. -/
structure NmeaConfig where
  NMEA_PROVIDER : BitVec 32
  INTERMEDIATE_POS : BitVec 32
  ACCURACY_THRES : BitVec 32
  datum_type : BitVec 32
  deriving DecidableEq, Repr

/-- A position as it comes to `reportPosition`. -/
structure NmeaPosition where
  report : PosReport
  status : LocSessStatus
  techMask : BitVec 32
  /-- `initEngHubProxy()` -/
  engineHub : Bool
  /-- The accuracy exceeds `ACCURACY_THRES`. -/
  inaccurate : Bool
  /-- Latitude and longitude are 0, and there is no horizontal reliability. -/
  blank_fix : Bool

/-- `LocApiBase::needReport` -/
def NmeaPosition.needReport (p : NmeaPosition) (conf : NmeaConfig) : Bool :=
  match p.status with
  | .LOC_SESS_SUCCESS =>
    (LOC_POS_TECH_MASK_SATELLITE ||| LOC_POS_TECH_MASK_SENSORS ||| LOC_POS_TECH_MASK_HYBRID) &&&
      p.techMask ≠ 0
  | .LOC_SESS_INTERMEDIATE =>
    conf.INTERMEDIATE_POS = 1 &&
      !(p.report.has LOC_GPS_LOCATION_HAS_ACCURACY && conf.ACCURACY_THRES ≠ 0 && p.inaccurate)
  | .LOC_SESS_FAILURE => false

/-- `needReportForGnssClient` -/
def NmeaPosition.needReportForGnssClient (p : NmeaPosition) (conf : NmeaConfig) : Bool :=
  p.engineHub || p.needReport conf

/-- `generate_nmea` -/
def NmeaPosition.generate_nmea (p : NmeaPosition) (conf : NmeaConfig) : Bool :=
  p.needReportForGnssClient conf && p.status ≠ .LOC_SESS_FAILURE && !p.blank_fix

/-! ### The client -/

/-- The loop of `getline`, with the part of a line that has been read. -/
def getlines : List Char → List Char → List (List Char)
  | each, [] => if each = [] then [] else [each ++ [LF]]
  | each, c :: rest => if c = LF then (each ++ [LF]) :: getlines [] rest else getlines (each ++ [c]) rest

/-- A text up to its first NUL. -/
def cText (text : List Char) : List Char := text.takeWhile (· ≠ Char.ofNat 0)

/-- A call `gnssNmeaCb` of the framework, through the interface of version 2.0 or the older one. -/
structure NmeaCall where
  client : ℕ
  version_2_0 : Bool
  nmeaString : List Char
  deriving DecidableEq, Repr

/-- A client, with whether it has set the callback and which interfaces the framework has given it. -/
structure NmeaClient where
  gnssNmeaCb : Bool
  mGnssCbIface : Bool
  mGnssCbIface_2_0 : Bool
  deriving DecidableEq, Repr

namespace NmeaClient

variable (c : NmeaClient)

/-- `onGnssNmeaCb` -/
def onGnssNmeaCb (client : ℕ) (nmea : List Char) : List NmeaCall :=
  if c.mGnssCbIface || c.mGnssCbIface_2_0 then
    (getlines [] (cText nmea)).map fun each => ⟨client, c.mGnssCbIface_2_0, each⟩
  else []

/-- The framework listens to the client. -/
def listens : Bool := c.gnssNmeaCb && (c.mGnssCbIface || c.mGnssCbIface_2_0)

end NmeaClient

/-! ### The adapter -/

/-- A report: a position with the `mLocSystemInfo` of that time, satellites after they have been marked,
or a text of the modem. -/
inductive NmeaSource
  | position (p : NmeaPosition) (systemInfo : LocationSystemInfo)
  | sv (svNotify : GnssSvNotification)
  | modem (nmea : List Char)

namespace NmeaSource

variable (conf : NmeaConfig)

/-- What the framework is to get. -/
def sentences : NmeaSource → List (List Char)
  | position p systemInfo =>
    (p.report.loc_nmea_generate_pos systemInfo conf.datum_type (p.generate_nmea conf)).sentences
  | sv svNotify => (generateAllGsv svNotify .empty).2
  | modem nmea => getlines [] (cText nmea)

/-- The text that `reportNmea` is called with: the sentences are joined. -/
def text : NmeaSource → List Char
  | modem nmea => nmea
  | source => (source.sentences conf).flatten

end NmeaSource

/-- The last two fields are records: the calls of the framework, and the reports with the clients that
listened to them. -/
structure NmeaStream where
  mClientData : OrdMap ℕ NmeaClient
  mLocSystemInfo : SystemInfoReport
  /-- `!mTimeBasedTrackingSessions.empty()` -/
  tracking : Bool
  calls : List NmeaCall
  reports : List (NmeaSource × OrdMap ℕ NmeaClient)

inductive NmeaEvent
  | updateClient (client : ℕ) (c : NmeaClient)
  | removeClient (client : ℕ)
  | sessions (tracking : Bool)
  | reportLocationSystemInfo (locationSystemInfo : SystemInfoReport)
  | reportPosition (p : NmeaPosition)
  | reportSv (svNotify : GnssSvNotification)
  /-- With whether `setNmeaString` has consumed it. -/
  | reportNmeaEvent (nmea : List Char) (consumed : Bool)

namespace NmeaStream

def init : NmeaStream := ⟨∅, .zero, false, [], []⟩

variable (conf : NmeaConfig) (s : NmeaStream)

/-- The clients that the framework listens to. -/
def listeners : OrdMap ℕ NmeaClient := s.mClientData.filter NmeaClient.listens

/-- `reportNmea` : the calls of the framework. -/
def reportNmea (nmea : List Char) : List NmeaCall :=
  s.mClientData.entries.flatMap fun e => if e.2.gnssNmeaCb then e.2.onGnssNmeaCb e.1 nmea else []

def report (source : NmeaSource) : NmeaStream :=
  { s with
    calls := s.calls ++ s.reportNmea (source.text conf)
    reports := s.reports ++ [(source, s.listeners)] }

/-- The application processor generates sentences now. -/
def generates : Bool := conf.NMEA_PROVIDER = NMEA_PROVIDER_AP && s.tracking

def step : NmeaEvent → NmeaStream
  | .updateClient client c => { s with mClientData := s.mClientData.insert client c }
  | .removeClient client => { s with mClientData := s.mClientData.erase client }
  | .sessions tracking => { s with tracking }
  | .reportLocationSystemInfo locationSystemInfo =>
    { s with mLocSystemInfo := s.mLocSystemInfo.save locationSystemInfo }
  | .reportPosition p =>
    if s.generates conf then s.report conf (.position p s.mLocSystemInfo.toLocationSystemInfo) else s
  | .reportSv svNotify => if s.generates conf then s.report conf (.sv svNotify) else s
  | .reportNmeaEvent nmea consumed =>
    -- what the modem provides is dropped, unless it is for debugging
    if conf.NMEA_PROVIDER = NMEA_PROVIDER_AP && !loc_nmea_is_debug (nmea.map byte) then s
    else if consumed then s else s.report conf (.modem nmea)

def system : System NmeaStream NmeaEvent := .ofFun init (step conf)

/-- The altitudes of a position are less than `2 ^ 128` m, or not finite. -/
def Printable : NmeaStream → NmeaEvent → Prop
  | _, .reportPosition p => p.report.separation.Small ∧ p.report.offsetAltitude.Small
  | _, _ => True

/-- What the framework has been told for a client. -/
def told (client : ℕ) : List (List Char) := (s.calls.filter (·.client = client)).map (·.nmeaString)

end NmeaStream

/-! ### Lines -/

theorem getlines_line {text : List Char} (h : ∀ c ∈ text, c ≠ LF) (each rest : List Char) :
    getlines each (text ++ LF :: rest) = (each ++ text ++ [LF]) :: getlines [] rest := by
  induction text generalizing each with
  | nil => simp [getlines]
  | cons c text ih =>
    obtain ⟨hc, htext⟩ := List.forall_mem_cons.1 h
    rw [List.cons_append, getlines, if_neg hc, ih htext]
    simp

/-- Lines that are joined are found again. -/
theorem getlines_flatten {lines : List (List Char)} (h : ∀ line ∈ lines, NmeaLine line) :
    getlines [] lines.flatten = lines := by
  induction lines with
  | nil => rfl
  | cons line lines ih =>
    obtain ⟨⟨text, rfl, htext⟩, hlines⟩ := List.forall_mem_cons.1 h
    rw [List.flatten_cons, List.append_assoc, List.singleton_append,
      getlines_line fun c hc => (htext c hc).1, ih hlines, List.nil_append]

theorem cText_flatten {lines : List (List Char)} (h : ∀ line ∈ lines, NmeaLine line) :
    cText lines.flatten = lines.flatten := by
  refine List.takeWhile_eq_self_iff.2 fun c hc => decide_eq_true ?_
  obtain ⟨line, hline, hc⟩ := List.mem_flatten.1 hc
  obtain ⟨text, rfl, htext⟩ := h line hline
  rcases List.mem_append.1 hc with hc | hc
  · exact (htext c hc).2
  · rw [List.mem_singleton.1 hc]
    decide

/-! ### The sentences are lines -/

theorem count_gsvBlock (svIdOffset : BitVec 32) (sv : GnssSv) : (gsvBlock svIdOffset sv).count LF = 0 := by
  have hstrength : (gsvStrength sv).count LF = 0 := by
    rw [gsvStrength]
    split
    · exact count_formatD notNumeric_LF _ _
    · rfl
  have hcomma : ',' ≠ LF := by decide
  simp [gsvBlock, gsvPosition, count_formatD notNumeric_LF, hstrength, hcomma]

theorem count_gsvBody {m : loc_nmea_sv_meta} (htalker : m.talker.count LF = 0) (hid : m.signalId < 16)
    (sentenceCount sentenceNumber : ℕ) (svs : List (ℕ × GnssSv)) :
    (gsvBody m sentenceCount sentenceNumber svs).count LF = 0 := by
  have hblocks : (svs.flatMap fun p => gsvBlock m.svIdOffset p.2).count LF = 0 := by
    refine List.count_eq_zero.2 fun hmem => ?_
    obtain ⟨p, -, hmem⟩ := List.mem_flatMap.1 hmem
    exact List.count_eq_zero.1 (count_gsvBlock m.svIdOffset p.2) hmem
  have hsignal : ∀ id < 16, (gsvSignal id).count LF = 0 := by decide +kernel
  have htext : gsvBody m sentenceCount sentenceNumber svs =
      m.talker ++ ['G', 'S', 'V', ','] ++ formatD 1 sentenceCount ++ ',' ::
        (formatD 1 sentenceNumber ++ ',' :: formatD 2 m.svCount) ++
          (svs.flatMap fun p => gsvBlock m.svIdOffset p.2) ++ gsvSignal m.signalId := rfl
  have hcomma : ',' ≠ LF := by decide
  have hkind : ['G', 'S', 'V', ','].count LF = 0 := by decide
  rw [htext]
  simp only [List.count_append, List.count_cons_of_ne hcomma, htalker, hkind,
    count_formatD notNumeric_LF, hblocks, hsignal _ hid]

theorem nmeaLine_of_mem_gsvSentences {svNotify : GnssSvNotification} {s : GsvSentence}
    (h : s ∈ loc_nmea_generate_sv svNotify) : NmeaLine (nmeaSentence s.text.tail) := by
  refine nmeaLine_nmeaSentence (plain_of_mem_gsvSentences h) ?_
  rw [loc_nmea_generate_sv_eq] at h
  obtain ⟨group, -, hs⟩ := List.mem_flatMap.1 h
  obtain ⟨i, -, rfl⟩ := List.mem_map.1 hs
  have htalker : (talkerOf group.1).count LF = 0 := by cases group.1 <;> decide
  exact count_gsvBody (m := gsvMeta svNotify group) htalker (convert_signalType_to_signalId_lt _) _ _ _

/-! ### What a report delivers -/

/-- Nothing of a text is lost, though an end of line may be added. -/
theorem flatten_getlines (each text : List Char) :
    (getlines each text).flatten = each ++ text ∨ (getlines each text).flatten = each ++ text ++ [LF] := by
  induction text generalizing each with
  | nil =>
    rw [getlines]
    split
    next heach => exact .inl (by rw [heach]; rfl)
    next => exact .inr (by simp)
  | cons c text ih =>
    rw [getlines]
    split
    next hc =>
      subst hc
      rcases ih [] with hrest | hrest <;> rw [List.flatten_cons, hrest] <;> simp
    next =>
      have hrest := ih (each ++ [c])
      rwa [List.append_assoc, List.singleton_append] at hrest

theorem nmeaLine_of_mem_getlines {each text line : List Char}
    (heach : ∀ c ∈ each, c ≠ LF ∧ c ≠ Char.ofNat 0) (htext : ∀ c ∈ text, c ≠ Char.ofNat 0)
    (h : line ∈ getlines each text) : NmeaLine line := by
  induction text generalizing each with
  | nil =>
    rw [getlines] at h
    split at h
    next => exact absurd h List.not_mem_nil
    next => exact ⟨each, List.mem_singleton.1 h, heach⟩
  | cons c text ih =>
    obtain ⟨hc, htext⟩ := List.forall_mem_cons.1 htext
    rw [getlines] at h
    split at h
    next =>
      rcases List.mem_cons.1 h with rfl | h
      · exact ⟨each, rfl, heach⟩
      · exact ih (fun _ hmem => absurd hmem List.not_mem_nil) htext h
    next hLF =>
      refine ih (fun c' hc' => ?_) htext h
      rcases List.mem_append.1 hc' with hc' | hc'
      · exact heach c' hc'
      · rw [List.mem_singleton.1 hc']
        exact ⟨hLF, hc⟩

namespace NmeaSource

variable (conf : NmeaConfig)

/-- The report can be printed. -/
def Printable : NmeaSource → Prop
  | position p _ => p.report.separation.Small ∧ p.report.offsetAltitude.Small
  | _ => True

/-- What the sentences of a report say. -/
def Content : NmeaSource → List (List Char) → Prop
  | position p _, sentences =>
    if p.generate_nmea conf then
      List.Forall₂ (PosReport.Matches p.report.talker) (p.report.finalPattern conf.datum_type) sentences
    else List.Forall₂ (PosReport.Matches ['G', 'P']) PosReport.blankTexts sentences
  | sv svNotify, sentences =>
    sentences = (loc_nmea_generate_sv svNotify).map (fun s => nmeaSentence s.text.tail) ∧
      ∀ sentence ∈ sentences, NmeaSentence sentence
  | modem nmea, sentences =>
    sentences.flatten = cText nmea ∨ sentences.flatten = cText nmea ++ [LF]

/-- The sentences of a report are lines with its content. -/
structure Complete (source : NmeaSource) : Prop where
  line : ∀ sentence ∈ source.sentences conf, NmeaLine sentence
  content : source.Content conf (source.sentences conf)

variable {conf}

theorem nmeaLine_of_matches {talker sentence : List Char} {pattern sentences : List (List Char)}
    (h : List.Forall₂ (PosReport.Matches talker) pattern sentences) (hmem : sentence ∈ sentences) :
    NmeaLine sentence := by
  induction h with
  | nil => exact absurd hmem List.not_mem_nil
  | cons hmatches _ ih =>
    rcases List.mem_cons.1 hmem with rfl | hmem
    · exact hmatches.line
    · exact ih hmem

theorem complete_position {p : NmeaPosition} {systemInfo : LocationSystemInfo}
    (h : (position p systemInfo).Printable) : (position p systemInfo).Complete conf := by
  have hcontent : (position p systemInfo).Content conf ((position p systemInfo).sentences conf) := by
    unfold Content sentences PosReport.loc_nmea_generate_pos
    dsimp only
    split
    · exact (p.report.generateFinal_matches systemInfo conf.datum_type h.1 h.2).2
    · exact PosReport.generateBlank_matches.2
  refine ⟨fun sentence hmem => ?_, hcontent⟩
  unfold Content at hcontent
  dsimp only at hcontent
  split at hcontent
  · exact nmeaLine_of_matches hcontent hmem
  · exact nmeaLine_of_matches hcontent hmem

theorem complete_sv (svNotify : GnssSvNotification) : (sv svNotify).Complete conf := by
  obtain ⟨-, hsentences⟩ := generateAllGsv_eq svNotify (b := .empty)
    fun call hcall => absurd hcall List.not_mem_nil
  refine ⟨fun sentence hmem => ?_, hsentences, fun sentence hmem => ?_⟩ <;>
  · change sentence ∈ (generateAllGsv svNotify .empty).2 at hmem
    rw [hsentences] at hmem
    obtain ⟨s, hs, rfl⟩ := List.mem_map.1 hmem
    first
    | exact nmeaLine_of_mem_gsvSentences hs
    | exact ⟨_, plain_of_mem_gsvSentences hs, rfl⟩

theorem complete_modem (nmea : List Char) : (modem nmea).Complete conf where
  line sentence hmem := by
    refine nmeaLine_of_mem_getlines (fun c hc => absurd hc List.not_mem_nil) (fun c hc => ?_) hmem
    have hc' := List.mem_takeWhile_imp hc
    exact of_decide_eq_true hc'
  content := flatten_getlines [] (cText nmea)

theorem complete {source : NmeaSource} (h : source.Printable) : source.Complete conf := by
  cases source with
  | position p systemInfo => exact complete_position h
  | sv svNotify => exact complete_sv svNotify
  | modem nmea => exact complete_modem nmea

/-- **The text and back**: the lines of the text are the sentences that have been joined. -/
theorem getlines_text {source : NmeaSource} (h : source.Complete conf) :
    getlines [] (cText (source.text conf)) = source.sentences conf := by
  cases source with
  | modem nmea => rfl
  | position p systemInfo =>
    exact (congrArg (getlines []) (cText_flatten h.line)).trans (getlines_flatten h.line)
  | sv svNotify =>
    exact (congrArg (getlines []) (cText_flatten h.line)).trans (getlines_flatten h.line)

end NmeaSource

/-! ### Runs -/

namespace NmeaStream

variable {conf : NmeaConfig} {s s' : NmeaStream}

/-- The calls for the sentences of a report. -/
def callsOf (conf : NmeaConfig) (r : NmeaSource × OrdMap ℕ NmeaClient) : List NmeaCall :=
  r.2.entries.flatMap fun l => (r.1.sentences conf).map fun each => ⟨l.1, l.2.mGnssCbIface_2_0, each⟩

theorem reportNmea_text {source : NmeaSource} (h : source.Complete conf) :
    s.reportNmea (source.text conf) = callsOf conf (source, s.listeners) := by
  have hlines := NmeaSource.getlines_text h
  rw [callsOf, listeners, OrdMap.filter, ← flatMap_ite_nil]
  refine List.flatMap_congr fun e _ => ?_
  obtain ⟨client, c⟩ := e
  rw [NmeaClient.onGnssNmeaCb, hlines, NmeaClient.listens]
  cases c.gnssNmeaCb <;> rfl

theorem told_callsOf (r : NmeaSource × OrdMap ℕ NmeaClient) (k : ℕ) :
    ((callsOf conf r).filter (·.client = k)).map (·.nmeaString) =
      if (r.2.find k).isSome then r.1.sentences conf else [] := by
  have hkey : ∀ l : ℕ × NmeaClient, ∀ call ∈ (r.1.sentences conf).map fun each =>
      (⟨l.1, l.2.mGnssCbIface_2_0, each⟩ : NmeaCall), call.client = l.1 := by
    intro l call hcall
    obtain ⟨each, -, rfl⟩ := List.mem_map.1 hcall
    rfl
  rw [callsOf, OrdMap.filter_flatMap_key hkey]
  cases r.2.find k with
  | none => rfl
  | some c => simp [Function.comp_def]

/-- What has been called so far is what the reports are to deliver. -/
structure Delivered (conf : NmeaConfig) (s : NmeaStream) : Prop where
  calls : s.calls = s.reports.flatMap (callsOf conf)
  complete : ∀ r ∈ s.reports, r.1.Complete conf

theorem Delivered.report (h : s.Delivered conf) {source : NmeaSource} (hsource : source.Complete conf) :
    (s.report conf source).Delivered conf where
  calls := by
    change s.calls ++ s.reportNmea (source.text conf) =
      (s.reports ++ [(source, s.listeners)]).flatMap (callsOf conf)
    rw [h.calls, reportNmea_text hsource, List.flatMap_append, List.flatMap_singleton]
  complete := List.forall_mem_append.2 ⟨h.complete, List.forall_mem_singleton.2 hsource⟩

theorem Delivered.step (h : s.Delivered conf) {e : NmeaEvent} (he : Printable s e) :
    (s.step conf e).Delivered conf := by
  cases e with
  | updateClient client c => exact ⟨h.calls, h.complete⟩
  | removeClient client => exact ⟨h.calls, h.complete⟩
  | sessions tracking => exact ⟨h.calls, h.complete⟩
  | reportLocationSystemInfo locationSystemInfo => exact ⟨h.calls, h.complete⟩
  | reportPosition p =>
    rw [NmeaStream.step]
    split
    · exact h.report (NmeaSource.complete_position he)
    · exact h
  | reportSv svNotify =>
    rw [NmeaStream.step]
    split
    · exact h.report (NmeaSource.complete_sv svNotify)
    · exact h
  | reportNmeaEvent nmea consumed =>
    rw [NmeaStream.step]
    split
    · exact h
    · split
      · exact h
      · exact h.report (NmeaSource.complete_modem nmea)

/-- **The sentences for the framework.**  In every order of clients, sessions and reports, the framework is
called with the sentences of each report, one by one and in order, for each client that listens to it,
and is called for nothing else.  The sentences are complete lines. -/
theorem delivered_of_run {es : List NmeaEvent} (h : (system conf).Run Printable es s) :
    s.calls = s.reports.flatMap (callsOf conf) ∧
    (∀ k, s.told k = s.reports.flatMap fun r => if (r.2.find k).isSome then r.1.sentences conf else []) ∧
    ∀ r ∈ s.reports, r.1.Complete conf := by
  have hdelivered : s.Delivered conf := h.invariant ⟨rfl, fun r hr => absurd hr List.not_mem_nil⟩
    fun s e s' hs he hstep => by
      subst hstep
      exact hs.step he
  refine ⟨hdelivered.calls, fun k => ?_, hdelivered.complete⟩
  rw [told, hdelivered.calls, List.filter_flatMap, List.map_flatMap]
  exact List.flatMap_congr fun r _ => told_callsOf r k

/-- A session ends between two blank positions, and what the modem provides is dropped. -/
theorem delivered_of_run_two :
    let conf : NmeaConfig := ⟨NMEA_PROVIDER_AP, 0, 0, LOC_GNSS_DATUM_WGS84⟩
    let p : NmeaPosition := ⟨PosReport.sampleReport, .LOC_SESS_SUCCESS, 1, false, false, true⟩
    let es : List NmeaEvent := [.sessions true, .updateClient 1 ⟨true, true, false⟩,
      .reportNmeaEvent ['a', LF] false, .updateClient 2 ⟨true, false, false⟩, .reportPosition p,
      .sessions false, .reportPosition p]
    let s := es.foldl (step conf) init
    s.told 1 = PosReport.generateBlank.sentences ∧ s.told 2 = [] := by
  intro conf p es s
  have hrun : (system conf).Run Printable es s := System.run_foldl
    ⟨trivial, trivial, trivial, trivial, ⟨by decide, by decide⟩, trivial, ⟨by decide, by decide⟩, trivial⟩
  obtain ⟨-, htold, -⟩ := delivered_of_run hrun
  have hreports : s.reports = [(.position p ⟨0, 0, ⟨0, 0⟩, 0, 0⟩, s.listeners)] := rfl
  have hlistens : (s.listeners.find 1).isSome = true ∧ (s.listeners.find 2).isSome = false := by decide
  have hblank : p.generate_nmea conf = false := by decide
  rw [htold, htold, hreports, List.flatMap_singleton, List.flatMap_singleton, hlistens.1, hlistens.2,
    NmeaSource.sentences, hblank]
  exact ⟨rfl, rfl⟩

end NmeaStream

end GpsHal
