import GpsHal.Util.NmeaGsa

/-!
# NMEA sentences : satellites in view, in the sentence buffer

The GSV sentences as they are printed into the buffer, with a checksum, and pushed.  They are the
sentences of `loc_nmea_generate_sv`, each of them complete.

## Main definitions

* `putSentencesInto` : the loop of `loc_nmea_generate_GSV`.
* `generateAllGsv` : the sentences of `loc_nmea_generate_sv`.

## Main results

* `putSentencesInto_eq` : what the loop pushes.
* `generateAll_wellFormed` : all GSA and GSV sentences are complete and well formed.
-/

namespace GpsHal

/-! ### Generating -/

/-- The pieces of a satellite, the strength only if there is one. -/
def putBlockInto (m : loc_nmea_sv_meta) (b : SentenceBuffer) (sv : GnssSv) :
    Except SentenceBuffer SentenceBuffer :=
  (b.putChecked (gsvPosition m.svIdOffset sv)).bind fun b =>
    if sv.cN0Dbhz.isSome then b.putChecked (gsvStrength sv) else .ok b

/-- The inner loop of `loc_nmea_generate_GSV`, with the number of satellites in the sentence. -/
def putBlocksInto (m : loc_nmea_sv_meta) (b : SentenceBuffer) (i : ℕ) :
    List (ℕ × GnssSv) → Except SentenceBuffer (SentenceBuffer × List (ℕ × GnssSv))
  | [] => .ok (b, [])
  | (k, sv) :: rest =>
    if i < 4 then
      if m.shows sv then (putBlockInto m b sv).bind fun b => putBlocksInto m b (i + 1) rest
      else putBlocksInto m b i rest
    else .ok (b, (k, sv) :: rest)

/-- The outer loop, with the number of sentences left.  A sentence that is cut off ends it. -/
def putSentencesInto (bufSize : ℕ) (m : loc_nmea_sv_meta) (sentenceCount : ℕ) :
    ℕ → ℕ → List (ℕ × GnssSv) → SentenceBuffer → SentenceBuffer × List (List Char)
  | 0, _, _, b => (b, [])
  | left + 1, sentenceNumber, rest, b =>
    match ((b.start bufSize).putChecked
        (gsvHeader m.talker sentenceCount sentenceNumber m.svCount)).bind
          fun b => putBlocksInto m b 0 rest with
    | .error b => (b, [])
    | .ok (b, rest) =>
      -- the signal id is not checked
      let b := loc_nmea_put_checksum (b.put (gsvSignal m.signalId)) bufSize
      let r := putSentencesInto bufSize m sentenceCount left (sentenceNumber + 1) rest b
      (r.1, b.text :: r.2)

/-- `loc_nmea_generate_GSV`, with what it pushes. -/
def loc_nmea_generate_GSV_into (svNotify : GnssSvNotification) (bufSize : ℕ) (b : SentenceBuffer)
    (m : loc_nmea_sv_meta) : SentenceBuffer × List (List Char) :=
  if m.svCount ≤ 0 then (b, [])
  else
    let sentenceCount := m.svCount / 4 + (if m.svCount % 4 ≠ 0 then 1 else 0)
    putSentencesInto bufSize m sentenceCount sentenceCount 1 ((List.range svNotify.gnssSvs.length).zip
      svNotify.gnssSvs) b

/-- The GSV sentences of `loc_nmea_generate_sv`, which share a buffer. -/
def generateAllGsv (svNotify : GnssSvNotification) (b : SentenceBuffer) :
    SentenceBuffer × List (List Char) :=
  let sv_cache_info := svNotify.gnssSvs.foldl loc_sv_cache_info.count .zero
  gsvGroups.foldl (fun r group =>
    match loc_nmea_sv_meta_init sv_cache_info group.1 group.2 with
    | some m =>
      let r' := loc_nmea_generate_GSV_into svNotify NMEA_SENTENCE_MAX_LENGTH r.1 m
      (r'.1, r.2 ++ r'.2)
    | none => r) (b, [])

/-! ### Plain texts -/

theorem plain_gsvBlock (svIdOffset : BitVec 32) (sv : GnssSv) : Plain (gsvBlock svIdOffset sv) := by
  have hstrength : Plain (gsvStrength sv) := by
    unfold gsvStrength
    split
    · exact plain_formatD _ _
    · decide
  exact plain_append (plain_cons (by decide) (plain_append (plain_formatD _ _)
    (plain_cons (by decide) (plain_append (plain_formatD _ _)
      (plain_cons (by decide) (plain_append (plain_formatD _ _) (by decide))))))) hstrength

theorem plain_gsvSignal {signalId : ℕ} (h : signalId < 16) : Plain (gsvSignal signalId) := by
  revert h
  revert signalId
  decide +kernel

theorem plain_tail_gsvHeader {talker : List Char} (h : Plain talker)
    (sentenceCount sentenceNumber svCount : ℕ) :
    Plain (gsvHeader talker sentenceCount sentenceNumber svCount).tail := by
  unfold gsvHeader
  exact plain_append (plain_append (plain_append h (by decide)) (plain_formatD _ _))
    (plain_cons (by decide) (plain_append (plain_formatD _ _)
      (plain_cons (by decide) (plain_formatD _ _))))

/-! ### What is generated -/

section

variable {m : loc_nmea_sv_meta} {bufSize : ℕ}

/-- A block of a satellite that has room. -/
theorem putBlockInto_eq {b : SentenceBuffer} {text : List Char} (hfits : b.Fits bufSize text)
    {sv : GnssSv} (hroom : text.length + (gsvBlock m.svIdOffset sv).length < bufSize) :
    ∃ b', putBlockInto m b sv = .ok b' ∧
      b'.Fits bufSize (text ++ gsvBlock m.svIdOffset sv) := by
  unfold putBlockInto
  unfold gsvBlock at hroom ⊢
  rw [List.length_append] at hroom
  have hput := (hfits.put (gsvPosition m.svIdOffset sv) (by omega)).1
  rw [hfits.putChecked _ (by omega)]
  unfold gsvStrength at hroom ⊢
  cases hstrength : sv.cN0Dbhz with
  | none =>
    rw [List.append_nil]
    exact ⟨_, rfl, hput⟩
  | some cN0Dbhz =>
    rw [hstrength] at hroom
    have hroom' : (text ++ gsvPosition m.svIdOffset sv).length +
        (formatD 2 cN0Dbhz.toInt).length < bufSize := by
      rw [List.length_append]
      exact (Nat.add_assoc _ _ _).trans_lt hroom
    refine ⟨_, hput.putChecked _ hroom', ?_⟩
    rw [← List.append_assoc]
    exact (hput.put _ hroom').1

/-- The inner loop prints what `putBlocks` does. -/
theorem putBlocksInto_eq {svs rest : List (ℕ × GnssSv)} {b : SentenceBuffer} {text text' : List Char}
    {blocks blocks' : List ℕ} (hfits : b.Fits bufSize text)
    (h : putBlocks bufSize m text blocks svs = some (text', blocks', rest)) :
    ∃ b', putBlocksInto m b blocks.length svs = .ok (b', rest) ∧ b'.Fits bufSize text' := by
  induction svs generalizing b text blocks with
  | nil =>
    cases h
    exact ⟨b, rfl, hfits⟩
  | cons p svs ih =>
    obtain ⟨k, sv⟩ := p
    unfold putBlocks at h
    unfold putBlocksInto
    have hassoc : text ++ gsvPosition m.svIdOffset sv ++ gsvStrength sv =
        text ++ gsvBlock m.svIdOffset sv := List.append_assoc _ _ _
    dsimp only at h
    rw [hassoc] at h
    split_ifs at h with hlt hshows hposition hstrength
    · rw [if_pos hlt, if_pos hshows]
      rw [List.length_append] at hstrength
      obtain ⟨b', hb', hfits'⟩ := putBlockInto_eq hfits (not_le.1 hstrength)
      obtain ⟨b'', hb'', hfits''⟩ := ih hfits' h
      refine ⟨b'', ?_, hfits''⟩
      rw [List.length_append, List.length_singleton] at hb''
      rw [hb']
      exact hb''
    · rw [if_pos hlt, if_neg hshows]
      exact ih hfits h
    · rw [if_neg hlt]
      cases h
      exact ⟨b, rfl, hfits⟩

/-- The sentence that shows the given satellites, without its dollar sign. -/
def gsvBody (m : loc_nmea_sv_meta) (sentenceCount sentenceNumber : ℕ) (svs : List (ℕ × GnssSv)) :
    List Char :=
  (gsvSentence m sentenceCount sentenceNumber svs).text.tail

theorem text_gsvSentence (sentenceCount sentenceNumber : ℕ) (svs : List (ℕ × GnssSv)) :
    (gsvSentence m sentenceCount sentenceNumber svs).text =
      '$' :: gsvBody m sentenceCount sentenceNumber svs := rfl

theorem plain_gsvBody (hplain : Plain m.talker) (hid : m.signalId < 16)
    (sentenceCount sentenceNumber : ℕ) (svs : List (ℕ × GnssSv)) :
    Plain (gsvBody m sentenceCount sentenceNumber svs) := by
  refine plain_append (plain_append (plain_tail_gsvHeader hplain _ _ _) ?_) (plain_gsvSignal hid)
  intro c hc
  obtain ⟨p, -, hc⟩ := List.mem_flatMap.1 hc
  exact plain_gsvBlock m.svIdOffset p.2 c hc

/-- The first sentence shows the first four satellites, and the others what the blocks have left. -/
theorem putSentences_cons (hm : SvIdFits m.svIdOffset) (ht : m.talker.length = 2)
    (hid : m.signalId < 16) (hcount : m.svCount < 1000) {sentenceCount : ℕ}
    (hsc : sentenceCount < 100) {left number : ℕ} (hleft : number + (left + 1) ≤ sentenceCount + 1)
    {svs rest : List (ℕ × GnssSv)} {text : List Char} {blocks : List ℕ}
    (heq : putBlocks NMEA_SENTENCE_MAX_LENGTH m (gsvHeader m.talker sentenceCount number m.svCount) []
      svs = some (text, blocks, rest)) :
    putSentences NMEA_SENTENCE_MAX_LENGTH m sentenceCount (left + 1) number svs =
      gsvSentence m sentenceCount number ((m.shown svs).take 4) ::
        putSentences NMEA_SENTENCE_MAX_LENGTH m sentenceCount left (number + 1) rest := by
  have hmax : NMEA_SENTENCE_MAX_LENGTH = 200 := rfl
  have hheader := length_gsvHeader_le ht hsc (show number < 100 by omega) hcount
  have hrest : (putSentences NMEA_SENTENCE_MAX_LENGTH m sentenceCount (left + 1) number svs).tail =
      putSentences NMEA_SENTENCE_MAX_LENGTH m sentenceCount left (number + 1) rest := by
    rw [putSentences]
    dsimp only
    rw [if_neg (by rw [hmax]; omega), heq]
    rfl
  rw [← hrest, putSentences_eq hm ht hid hcount hsc (left + 1) number hleft svs,
    List.range_succ_eq_map]
  rfl

/-- The outer loop pushes the sentences of `putSentences`, each of them complete. -/
theorem putSentencesInto_eq (hm : SvIdFits m.svIdOffset) (ht : m.talker.length = 2)
    (hid : m.signalId < 16) (hcount : m.svCount < 1000) {sentenceCount : ℕ}
    (hsc : sentenceCount < 100) (left number : ℕ) (hleft : number + left ≤ sentenceCount + 1)
    (svs : List (ℕ × GnssSv)) {b : SentenceBuffer}
    (hsafe : ∀ call ∈ b.calls, call.Safe NMEA_SENTENCE_MAX_LENGTH) :
    (∀ call ∈ (putSentencesInto NMEA_SENTENCE_MAX_LENGTH m sentenceCount left number svs b).1.calls,
      call.Safe NMEA_SENTENCE_MAX_LENGTH) ∧
    (putSentencesInto NMEA_SENTENCE_MAX_LENGTH m sentenceCount left number svs b).2 =
      (putSentences NMEA_SENTENCE_MAX_LENGTH m sentenceCount left number svs).map
        fun s => nmeaSentence s.text.tail := by
  induction left generalizing number svs b with
  | zero => exact ⟨hsafe, rfl⟩
  | succ left ih =>
    have hnumber : number < 100 := by omega
    have hheader := length_gsvHeader_le ht hsc hnumber hcount
    have hmax : NMEA_SENTENCE_MAX_LENGTH = 200 := rfl
    have hroom : (gsvHeader m.talker sentenceCount number m.svCount).length +
        43 * (4 - ([] : List ℕ).length) < NMEA_SENTENCE_MAX_LENGTH := by
      rw [hmax, List.length_nil]
      omega
    obtain ⟨rest, heq, -⟩ := putBlocks_eq hm svs _ [] hroom
    have hflat := length_flatMap_gsvBlock_le hm ((m.shown svs).take 4)
    have htake := List.length_take_le 4 (m.shown svs)
    have hsignal := length_gsvSignal hid
    rw [List.length_nil, Nat.sub_zero, List.nil_append] at heq
    -- the header and the blocks have room
    have hstart := SentenceBuffer.fits_start (by rw [hmax]; decide) hsafe
    have hput := (hstart.put (gsvHeader m.talker sentenceCount number m.svCount) (by
      rw [hmax, List.length_nil]
      omega)).1
    rw [List.nil_append] at hput
    obtain ⟨b', hb', hfits⟩ := putBlocksInto_eq hput heq
    -- and so have the signal and the checksum
    obtain ⟨hfits', htext⟩ := hfits.put (gsvSignal m.signalId) (by
      rw [List.length_append, hmax]
      omega)
    have hbody : gsvHeader m.talker sentenceCount number m.svCount ++
        ((m.shown svs).take 4).flatMap (fun p => gsvBlock m.svIdOffset p.2) ++
          gsvSignal m.signalId = '$' :: gsvBody m sentenceCount number ((m.shown svs).take 4) := rfl
    have hlength := congrArg List.length hbody
    rw [List.length_append, List.length_append, List.length_cons] at hlength
    rw [hbody] at hfits' htext
    obtain ⟨hpushed, hsafe'⟩ := hfits'.checksum htext (by
      rw [hmax]
      omega)
    obtain ⟨ihsafe, ihpushed⟩ := ih (number + 1) (by omega) rest hsafe'
    have hfirst := putSentences_cons hm ht hid hcount hsc hleft heq
    have hstep : putSentencesInto NMEA_SENTENCE_MAX_LENGTH m sentenceCount (left + 1) number svs b =
        let b := loc_nmea_put_checksum (b'.put (gsvSignal m.signalId)) NMEA_SENTENCE_MAX_LENGTH
        let r := putSentencesInto NMEA_SENTENCE_MAX_LENGTH m sentenceCount left (number + 1) rest b
        (r.1, b.text :: r.2) := by
      have hblocks : ((b.start NMEA_SENTENCE_MAX_LENGTH).putChecked
          (gsvHeader m.talker sentenceCount number m.svCount)).bind
            (fun b => putBlocksInto m b 0 svs) = .ok (b', rest) := by
        rw [hstart.putChecked _ (by rw [hmax, List.length_nil]; omega)]
        exact hb'
      rw [putSentencesInto, hblocks]
    rw [hstep, hfirst, List.map_cons, text_gsvSentence, List.tail_cons]
    refine ⟨ihsafe, ?_⟩
    dsimp only
    rw [ihpushed, hpushed]

/-- A group of sentences. -/
theorem loc_nmea_generate_GSV_into_eq {svNotify : GnssSvNotification} (hm : SvIdFits m.svIdOffset)
    (ht : m.talker.length = 2) (hid : m.signalId < 16) (hcount : m.svCount ≤ GNSS_SV_MAX)
    {b : SentenceBuffer} (hsafe : ∀ call ∈ b.calls, call.Safe NMEA_SENTENCE_MAX_LENGTH) :
    (∀ call ∈ (loc_nmea_generate_GSV_into svNotify NMEA_SENTENCE_MAX_LENGTH b m).1.calls,
      call.Safe NMEA_SENTENCE_MAX_LENGTH) ∧
    (loc_nmea_generate_GSV_into svNotify NMEA_SENTENCE_MAX_LENGTH b m).2 =
      (loc_nmea_generate_GSV svNotify NMEA_SENTENCE_MAX_LENGTH m).map
        fun s => nmeaSentence s.text.tail := by
  have hmax : GNSS_SV_MAX = 176 := rfl
  unfold loc_nmea_generate_GSV_into loc_nmea_generate_GSV
  by_cases hnone : m.svCount ≤ 0
  · rw [if_pos hnone, if_pos hnone]
    exact ⟨hsafe, rfl⟩
  · rw [if_neg hnone, if_neg hnone]
    exact putSentencesInto_eq hm ht hid (by omega) (gsvSentenceCount_lt hcount) _ _
      (Nat.add_comm _ _).le _ hsafe

end

/-! ### All sentences -/

/-- The sentence of a constellation, if satellites of it were used. -/
def gsaSentences (c : loc_sv_used_masks) (dops : Option (CFloat × CFloat × CFloat))
    (svType : GnssSvType) : List (List Char) :=
  match loc_nmea_gsa_meta_init c svType with
  | some m => if m.svUsedList.length = 0 then [] else [nmeaSentence (m.body dops)]
  | none => []

/-- A loop over constellations or groups, each of which keeps the calls safe and pushes its
sentences. -/
theorem foldl_push {α : Type} {f : SentenceBuffer × List (List Char) → α →
    SentenceBuffer × List (List Char)} {bufSize : ℕ} (out : α → List (List Char)) (l : List α)
    (hf : ∀ a ∈ l, ∀ r, (∀ call ∈ r.1.calls, call.Safe bufSize) →
      (∀ call ∈ (f r a).1.calls, call.Safe bufSize) ∧ (f r a).2 = r.2 ++ out a)
    (r : SentenceBuffer × List (List Char)) (hsafe : ∀ call ∈ r.1.calls, call.Safe bufSize) :
    (∀ call ∈ (l.foldl f r).1.calls, call.Safe bufSize) ∧ (l.foldl f r).2 = r.2 ++ l.flatMap out := by
  induction l generalizing r with
  | nil => exact ⟨hsafe, (List.append_nil _).symm⟩
  | cons a l ih =>
    obtain ⟨hsafe', hout⟩ := hf a List.mem_cons_self r hsafe
    obtain ⟨hsafe'', hout'⟩ := ih (fun a' ha' => hf a' (List.mem_cons_of_mem _ ha')) (f r a) hsafe'
    refine ⟨hsafe'', ?_⟩
    rw [List.foldl_cons, hout', hout, List.flatMap_cons, List.append_assoc]

theorem generateAllGsa_eq (c : loc_sv_used_masks) (dops : Option (CFloat × CFloat × CFloat))
    {b : SentenceBuffer} (hsafe : ∀ call ∈ b.calls, call.Safe NMEA_SENTENCE_MAX_LENGTH) :
    (∀ call ∈ (generateAllGsa c dops b).1.calls, call.Safe NMEA_SENTENCE_MAX_LENGTH) ∧
      (generateAllGsa c dops b).2 = gsaTypes.flatMap (gsaSentences c dops) := by
  rw [← List.nil_append (gsaTypes.flatMap _)]
  refine foldl_push (gsaSentences c dops) gsaTypes (fun svType _ r hsafe => ?_) (b, []) hsafe
  unfold gsaSentences
  cases hinit : loc_nmea_gsa_meta_init c svType with
  | none => exact ⟨hsafe, (List.append_nil _).symm⟩
  | some m =>
    obtain ⟨hsafe', hpushed⟩ := (listed_of_init hinit).generate dops hsafe
    exact ⟨hsafe', congrArg (r.2 ++ ·) hpushed⟩

/-- The sentences of a group, complete. -/
def gsvPushed (svNotify : GnssSvNotification) (group : GnssSvType × GnssSignalTypeMask) :
    List (List Char) :=
  (loc_nmea_generate_GSV svNotify NMEA_SENTENCE_MAX_LENGTH (gsvMeta svNotify group)).map
    fun s => nmeaSentence s.text.tail

theorem generateAllGsv_eq (svNotify : GnssSvNotification) {b : SentenceBuffer}
    (hsafe : ∀ call ∈ b.calls, call.Safe NMEA_SENTENCE_MAX_LENGTH) :
    (∀ call ∈ (generateAllGsv svNotify b).1.calls, call.Safe NMEA_SENTENCE_MAX_LENGTH) ∧
      (generateAllGsv svNotify b).2 =
        (loc_nmea_generate_sv svNotify).map fun s => nmeaSentence s.text.tail := by
  have hinit : ∀ group ∈ gsvGroups, loc_nmea_sv_meta_init
      (svNotify.gnssSvs.foldl loc_sv_cache_info.count .zero) group.1 group.2 =
        some (gsvMeta svNotify group) := by
    intro group hgroup
    rw [loc_nmea_sv_meta_init_eq _ hgroup, svCountOf_foldl _ _ hgroup]
    have hzero : ∀ g ∈ gsvGroups, svCountOf .zero g = 0 := by decide
    rw [hzero group hgroup, Nat.zero_add]
    rfl
  have hout : (loc_nmea_generate_sv svNotify).map (fun s => nmeaSentence s.text.tail) =
      gsvGroups.flatMap (gsvPushed svNotify) := by
    unfold loc_nmea_generate_sv
    dsimp only
    rw [List.map_flatMap]
    refine List.flatMap_congr fun group hgroup => ?_
    rw [hinit group hgroup]
    rfl
  rw [hout, ← List.nil_append (gsvGroups.flatMap _)]
  refine foldl_push (gsvPushed svNotify) gsvGroups (fun group hgroup r hsafe => ?_) (b, []) hsafe
  rw [hinit group hgroup]
  obtain ⟨hsafe', hpushed⟩ := @loc_nmea_generate_GSV_into_eq (gsvMeta svNotify group) svNotify
    (svIdFits_svIdOffsetOf _) (talkerOf_length hgroup) (convert_signalType_to_signalId_lt _)
    (List.countP_le_length.trans svNotify.count_le) r.1 hsafe
  exact ⟨hsafe', congrArg (r.2 ++ ·) hpushed⟩

/-- A sentence that is listed is plain behind its dollar sign. -/
theorem plain_of_mem_gsvSentences {svNotify : GnssSvNotification} {s : GsvSentence}
    (h : s ∈ loc_nmea_generate_sv svNotify) : Plain s.text.tail := by
  rw [loc_nmea_generate_sv_eq] at h
  obtain ⟨group, -, hs⟩ := List.mem_flatMap.1 h
  obtain ⟨i, -, rfl⟩ := List.mem_map.1 hs
  have htalker : Plain (talkerOf group.1) := by cases group.1 <;> decide
  exact plain_gsvBody htalker (convert_signalType_to_signalId_lt _) _ _ _

/-- The buffer may be empty or hold an old sentence, as long as the calls before were safe: all calls
are, and what is pushed are complete sentences. -/
theorem generateAll_wellFormed (c : loc_sv_used_masks)
    (dops : Option (CFloat × CFloat × CFloat)) (svNotify : GnssSvNotification) (text : List Char) :
    let b : SentenceBuffer := ⟨text, 0, NMEA_SENTENCE_MAX_LENGTH, []⟩
    (∀ r ∈ [generateAllGsa c dops b, generateAllGsv svNotify b],
      NmeaOutcome NMEA_SENTENCE_MAX_LENGTH r) ∧
    (generateAllGsa c dops b).2 = gsaTypes.flatMap (gsaSentences c dops) ∧
    (generateAllGsv svNotify b).2 =
      (loc_nmea_generate_sv svNotify).map fun s => nmeaSentence s.text.tail := by
  intro b
  have hsafe : ∀ call ∈ b.calls, call.Safe NMEA_SENTENCE_MAX_LENGTH := by
    intro call hcall
    cases hcall
  obtain ⟨hgsaSafe, hgsa⟩ := generateAllGsa_eq c dops hsafe
  obtain ⟨hgsvSafe, hgsv⟩ := generateAllGsv_eq svNotify hsafe
  refine ⟨fun r hr => ?_, hgsa, hgsv⟩
  rcases List.mem_cons.1 hr with rfl | hr
  · refine ⟨hgsaSafe, fun sentence hsentence => ?_⟩
    rw [hgsa] at hsentence
    obtain ⟨svType, -, hsentence⟩ := List.mem_flatMap.1 hsentence
    unfold gsaSentences at hsentence
    split at hsentence
    · rename_i m hinit
      split_ifs at hsentence
      · cases hsentence
      · rw [List.mem_singleton.1 hsentence]
        exact ⟨_, loc_nmea_gsa_meta.plain_body (listed_of_init hinit) dops, rfl⟩
    · cases hsentence
  · obtain rfl := List.mem_singleton.1 hr
    refine ⟨hgsvSafe, fun sentence hsentence => ?_⟩
    rw [hgsv] at hsentence
    obtain ⟨s, hs, rfl⟩ := List.mem_map.1 hsentence
    exact ⟨_, plain_of_mem_gsvSentences hs, rfl⟩

end GpsHal
