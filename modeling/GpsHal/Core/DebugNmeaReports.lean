import GpsHal.Core.DebugNmea

/-!
# `SystemStatus::setNmeaString`

A debug sentence is parsed by the parser of its type, and the record is stored in the reports that it
is for.  The parser may not have read the record, for the sentence has too few fields, and it is stored
all the same.

## Main definitions

* `SystemStatusReports` : the reports that debug sentences set.
* `SystemStatus.setNmeaString` : the code.
* `DebugNmea.Handled` : what is expected of it.
* `DebugNmea.Complete` : the condition on the sentence.

## Main results

* `SystemStatusNmeaBase.tokenize_eq` : the fields of a sentence.
* `DebugNmea.handled_iff` : the sentences that are handled as expected.
-/

namespace GpsHal

/-! ### Fields -/

theorem idxOf_append_cons {α : Type} [BEq α] [LawfulBEq α] {a : α} {before after : List α}
    (h : a ∉ before) : (before ++ a :: after).idxOf a = before.length := by
  rw [List.idxOf_append_of_notMem h, List.idxOf_cons_self, Nat.add_zero]

theorem drop_append_cons {α : Type} {a : α} {before after : List α} :
    (before ++ a :: after).drop (before.length + 1) = after :=
  List.drop_length_add_append 1

theorem takeWhile_append_cons {α : Type} [DecidableEq α] {a : α} {before after : List α}
    (h : a ∉ before) : (before ++ a :: after).takeWhile (· ≠ a) = before := by
  rw [List.takeWhile_append_of_pos fun b hb => ?_]
  · simp
  · exact decide_eq_true fun hba => h (hba ▸ hb)

namespace SystemStatusNmeaBase

/-- The loop finds what the commas end. -/
theorem tokenize_eq (parser : List UInt8) :
    tokenize parser = (parser.splitOn (byte ',')).dropLast := by
  induction parser using tokenize.induct with
  | case1 parser hcomma ih =>
    obtain ⟨before, after, rfl, hbefore⟩ := List.eq_append_cons_of_mem hcomma
    rw [idxOf_append_cons hbefore] at ih
    rw [tokenize, dif_pos hcomma, idxOf_append_cons hbefore, ih, drop_append_cons, List.take_left,
      List.splitOn_append_cons_self_of_not_mem hbefore, List.dropLast_cons_of_ne_nil]
    exact List.splitOn_ne_nil _ _
  | case2 parser hcomma =>
    rw [tokenize, dif_neg hcomma, List.splitOn_eq_singleton hcomma]
    rfl

/-- The fields of a debug sentence are those before the asterisk, and what commas end behind it. -/
theorem mField_eq {before after : List UInt8} (hbefore : byte '*' ∉ before)
    (hdebug : loc_nmea_is_debug (before ++ byte '*' :: after)) :
    mField (before ++ byte '*' :: after) =
      before.splitOn (byte ',') ++ (after.splitOn (byte ',')).dropLast := by
  have hset : (before ++ byte '*' :: after).set before.length (byte ',') =
      before ++ byte ',' :: after := by
    rw [List.set_append_right _ _ le_rfl, Nat.sub_self, List.set_cons_zero]
  unfold mField
  rw [hdebug, idxOf_append_cons hbefore, hset, tokenize_eq, List.splitOn_append_cons_self,
    List.dropLast_append_of_ne_nil (List.splitOn_ne_nil _ _)]
  simp

theorem mField_of_notMem {data : List UInt8} (h : byte '*' ∉ data) : mField data = [] := by
  unfold mField
  rw [if_neg h, ite_self]

theorem dropLast_splitOn_eq_nil_iff (after : List UInt8) :
    (after.splitOn (byte ',')).dropLast = [] ↔ byte ',' ∉ after := by
  constructor
  · intro h hcomma
    obtain ⟨first, rest, rfl, hfirst⟩ := List.eq_append_cons_of_mem hcomma
    rw [List.splitOn_append_cons_self_of_not_mem hfirst,
      List.dropLast_cons_of_ne_nil (List.splitOn_ne_nil _ _)] at h
    cases h
  · intro h
    rw [List.splitOn_eq_singleton h]
    rfl

end SystemStatusNmeaBase

/-! ### Reports -/

/-- The reports that debug sentences set. -/
structure SystemStatusReports where
  mTimeAndClock : List (SystemStatusItem SystemStatusTimeAndClock)
  mXoState : List (SystemStatusItem SystemStatusXoState)
  mRfAndParams : List (SystemStatusItem SystemStatusRfAndParams)
  mErrRecovery : List (SystemStatusItem SystemStatusErrRecovery)
  mInjectedPosition : List (SystemStatusItem SystemStatusInjectedPosition)
  mBestPosition : List (SystemStatusItem SystemStatusBestPosition)
  mXtra : List (SystemStatusItem SystemStatusXtra)
  mEphemeris : List (SystemStatusItem SystemStatusEphemeris)
  mSvHealth : List (SystemStatusItem SystemStatusSvHealth)
  mPdr : List (SystemStatusItem SystemStatusPdr)
  mNavData : List (SystemStatusItem SystemStatusNavData)
  mPositionFailure : List (SystemStatusItem SystemStatusPositionFailure)

/-- The reports when `SystemStatus` is constructed. -/
def SystemStatusReports.clear : SystemStatusReports := ⟨[], [], [], [], [], [], [], [], [], [], [], []⟩

/-- `setIteminReport` for a report that is made from a record at some time. -/
def ReportKind.record (k : ReportKind) (now : Timespec) (report : List (SystemStatusItem k.Item))
    (carried : k.Item) : Option (List (SystemStatusItem k.Item)) :=
  (k.setIteminReport report ⟨now, now, carried⟩).map Prod.fst

theorem ReportKind.isSome_record (k : ReportKind) (hcollate : ∀ a b, (k.collate a b).isSome)
    (now : Timespec) (report : List (SystemStatusItem k.Item)) (carried : k.Item) :
    (k.record now report carried).isSome := by
  unfold record setIteminReport
  cases report.getLast? with
  | none => rfl
  | some back =>
    obtain ⟨c, hc⟩ := Option.isSome_iff_exists.1 (hcollate carried back.carried)
    simp only [hc, Option.map_some]
    split_ifs <;> rfl

theorem ReportKind.record_nil (k : ReportKind) (now : Timespec) (carried : k.Item) :
    k.record now [] carried = some [⟨now, now, carried⟩] := rfl

/-- What `setNmeaString` does with the record; `now` are the times at which the reports are made. -/
def DebugSentence.store (now : ℕ → Timespec) (mCache : SystemStatusReports) :
    (s : DebugSentence) → s.Record → Option SystemStatusReports
  | .PQWM1, s => do
    let mTimeAndClock ←
      SystemStatusTimeAndClock.kind.record (now 0) mCache.mTimeAndClock s.timeAndClock
    let mXoState ← SystemStatusXoState.kind.record (now 1) mCache.mXoState s.xoState
    let mRfAndParams ← SystemStatusRfAndParams.kind.record (now 2) mCache.mRfAndParams s.rfAndParams
    let mErrRecovery ← SystemStatusErrRecovery.kind.record (now 3) mCache.mErrRecovery s.errRecovery
    some { mCache with
      mTimeAndClock := mTimeAndClock
      mXoState := mXoState
      mRfAndParams := mRfAndParams
      mErrRecovery := mErrRecovery }
  | .PQWP1, s =>
    (SystemStatusInjectedPosition.kind.record (now 0) mCache.mInjectedPosition s).map
      fun report => { mCache with mInjectedPosition := report }
  | .PQWP2, s =>
    (SystemStatusBestPosition.kind.record (now 0) mCache.mBestPosition { s with mValid := true }).map
      fun report => { mCache with mBestPosition := report }
  | .PQWP3, s =>
    (SystemStatusXtra.kind.record (now 0) mCache.mXtra s).map
      fun report => { mCache with mXtra := report }
  | .PQWP4, s =>
    (SystemStatusEphemeris.kind.record (now 0) mCache.mEphemeris s).map
      fun report => { mCache with mEphemeris := report }
  | .PQWP5, s =>
    (SystemStatusSvHealth.kind.record (now 0) mCache.mSvHealth s).map
      fun report => { mCache with mSvHealth := report }
  | .PQWP6, s =>
    (SystemStatusPdr.kind.record (now 0) mCache.mPdr s).map
      fun report => { mCache with mPdr := report }
  | .PQWP7, s =>
    (SystemStatusNavData.kind.record (now 0) mCache.mNavData s).map
      fun report => { mCache with mNavData := report }
  | .PQWS1, s =>
    (SystemStatusPositionFailure.kind.record (now 0) mCache.mPositionFailure s).map
      fun report => { mCache with mPositionFailure := report }

namespace DebugSentence

theorem isSome_store (now : ℕ → Timespec) (mCache : SystemStatusReports) (s : DebugSentence)
    (record : s.Record) : (s.store now mCache record).isSome := by
  cases s with
  | PQWM1 =>
    obtain ⟨clock, hclock⟩ := Option.isSome_iff_exists.1
      (SystemStatusTimeAndClock.kind.isSome_record (fun _ _ => rfl) (now 0) mCache.mTimeAndClock
        record.timeAndClock)
    obtain ⟨xo, hxo⟩ := Option.isSome_iff_exists.1
      (SystemStatusXoState.kind.isSome_record (fun _ _ => rfl) (now 1) mCache.mXoState
        record.xoState)
    obtain ⟨rf, hrf⟩ := Option.isSome_iff_exists.1
      (SystemStatusRfAndParams.kind.isSome_record (fun _ _ => rfl) (now 2) mCache.mRfAndParams
        record.rfAndParams)
    obtain ⟨err, herr⟩ := Option.isSome_iff_exists.1
      (SystemStatusErrRecovery.kind.isSome_record (fun _ _ => rfl) (now 3) mCache.mErrRecovery
        record.errRecovery)
    simp only [store, hclock, hxo, hrf, herr, Option.bind_eq_bind, Option.bind_some,
      Option.isSome_some]
  | _ =>
    refine Option.isSome_map.trans (ReportKind.isSome_record _ ?_ _ _ _)
    intro _ _
    rfl

/-- A report is added to those of a new `SystemStatus`. -/
theorem store_clear_ne (now : ℕ → Timespec) (s : DebugSentence) (record : s.Record) :
    s.store now .clear record ≠ some .clear := by
  cases s with
  | PQWM1 =>
    intro h
    have hclock := congrArg (Option.map (·.mTimeAndClock)) h
    cases hclock
  | _ =>
    intro h
    cases h

end DebugSentence

/-! ### Sentences -/

/-- The types in the order in which they are compared. -/
def DebugSentence.all : List DebugSentence :=
  [.PQWM1, .PQWP1, .PQWP2, .PQWP3, .PQWP4, .PQWP5, .PQWP6, .PQWP7, .PQWS1]

/-- The first type whose talker the sentence begins with. -/
def DebugSentence.ofData (data : List UInt8) : Option DebugSentence :=
  all.find? fun s => data.take DEBUG_NMEA_MINSIZE == s.talker

/-- `SystemStatus::setNmeaString` for a string with its length.  `memory` is what the records are
before they have been cleared; a read outside of the fields is `none`. -/
def SystemStatus.setNmeaString (libc : Libc CDouble CFloat) (memory : (s : DebugSentence) → s.Record)
    (now : ℕ → Timespec) (mCache : SystemStatusReports) (data : List UInt8) :
    Option (SystemStatusReports × Bool) :=
  if !loc_nmea_is_debug data then some (mCache, false)
  else
    match DebugSentence.ofData data with
    | none => some (mCache, true)
    | some s => do
      let record ← s.parser libc (SystemStatusNmeaBase.mField data) (memory s)
      (s.store now mCache record).map fun mCache => (mCache, true)

namespace DebugNmea

open SystemStatus SystemStatusNmeaBase

variable (data : List UInt8)

/-- The comma-separated fields before the first asterisk. -/
def fields : List (List UInt8) := (data.takeWhile (· ≠ byte '*')).splitOn (byte ',')

/-- The type whose parser the sentence is given to. -/
def parsedAs : Option DebugSentence :=
  if loc_nmea_is_debug data then DebugSentence.ofData data else none

/-- What is expected of a sentence that a parser is given: its fields are those before the asterisk,
no parser reads outside of them or a record that is not initialised, and with too few fields or
without an asterisk all reports are left alone. -/
structure Handled : Prop where
  tokens : ∀ s, parsedAs data = some s → byte '*' ∈ data → mField data = fields data
  inFields : ∀ libc memory now mCache, (setNmeaString libc memory now mCache data).isSome
  initialised : ∀ libc memory memory' now mCache,
    setNmeaString libc memory now mCache data = setNmeaString libc memory' now mCache data
  unchanged : ∀ s, parsedAs data = some s → (fields data).length < s.eMax ∨ byte '*' ∉ data →
    ∀ libc memory now mCache, setNmeaString libc memory now mCache data = some (mCache, true)

/-- There is an asterisk, no comma is behind it, and there are enough fields before it. -/
structure Complete (s : DebugSentence) : Prop where
  asterisk : byte '*' ∈ data
  comma : byte ',' ∉ data.dropWhile (· ≠ byte '*')
  enough : s.eMax ≤ (fields data).length

variable {data} {libc : Libc CDouble CFloat} {memory memory' : (s : DebugSentence) → s.Record}
  {now : ℕ → Timespec} {mCache : SystemStatusReports} {s : DebugSentence}

theorem setNmeaString_of_none (h : parsedAs data = none) :
    setNmeaString libc memory now mCache data = some (mCache, loc_nmea_is_debug data) := by
  unfold setNmeaString
  unfold parsedAs at h
  cases hdebug : loc_nmea_is_debug data with
  | false => rfl
  | true =>
    rw [hdebug, if_pos rfl] at h
    simp [h]

theorem setNmeaString_of_some (h : parsedAs data = some s) :
    setNmeaString libc memory now mCache data =
      (s.parser libc (mField data) (memory s)).bind fun record =>
        (s.store now mCache record).map fun mCache => (mCache, true) := by
  unfold setNmeaString
  unfold parsedAs at h
  split_ifs at h with hdebug
  simp only [hdebug, h, Bool.not_true, Bool.false_eq_true, if_false, Option.bind_eq_bind]

theorem isDebug_of_parsedAs (h : parsedAs data = some s) : loc_nmea_is_debug data := by
  unfold parsedAs at h
  split_ifs at h with hdebug
  exact hdebug

/-- The fields are those before the asterisk unless there is a comma behind it. -/
theorem mField_eq_fields_iff (h : parsedAs data = some s) (hasterisk : byte '*' ∈ data) :
    mField data = fields data ↔ byte ',' ∉ data.dropWhile (· ≠ byte '*') := by
  have hdebug := isDebug_of_parsedAs h
  obtain ⟨before, after, rfl, hbefore⟩ := List.eq_append_cons_of_mem hasterisk
  have hdrop : (before ++ byte '*' :: after).dropWhile (· ≠ byte '*') = byte '*' :: after := by
    rw [List.dropWhile_append_of_pos fun b hb => ?_]
    · simp
    · exact decide_eq_true fun hba => hbefore (hba ▸ hb)
  unfold fields
  rw [mField_eq hbefore hdebug, takeWhile_append_cons hbefore, hdrop, List.append_right_eq_self,
    dropLast_splitOn_eq_nil_iff, List.mem_cons, not_or]
  exact ⟨fun hafter => ⟨by decide, hafter⟩, And.right⟩

/-- With too few fields the record is stored that the parser was left with. -/
theorem setNmeaString_short (h : parsedAs data = some s) (hshort : (mField data).length < s.eMax) :
    setNmeaString libc memory now mCache data =
      (s.store now mCache (s.kept (memory s))).map fun mCache => (mCache, true) := by
  rw [setNmeaString_of_some h, DebugSentence.parser_short hshort]
  rfl

theorem isSome_setNmeaString (h : parsedAs data = some s) :
    (setNmeaString libc memory now mCache data).isSome := by
  rcases lt_or_ge (mField data).length s.eMax with hshort | hlong
  · rw [setNmeaString_short h hshort]
    exact Option.isSome_map.trans (DebugSentence.isSome_store _ _ _ _)
  · obtain ⟨record, hrecord⟩ := DebugSentence.exists_parser_eq libc hlong
    rw [setNmeaString_of_some h, hrecord]
    exact Option.isSome_map.trans (DebugSentence.isSome_store _ _ _ _)

theorem Complete.handled (h : parsedAs data = some s) (hcomplete : Complete data s) :
    Handled data where
  tokens _ _ hasterisk := (mField_eq_fields_iff h hasterisk).2 hcomplete.comma
  inFields _ _ _ _ := isSome_setNmeaString h
  initialised libc memory memory' now mCache := by
    have hlong : s.eMax ≤ (mField data).length := by
      rw [(mField_eq_fields_iff h hcomplete.asterisk).2 hcomplete.comma]
      exact hcomplete.enough
    obtain ⟨record, hrecord⟩ := DebugSentence.exists_parser_eq libc hlong
    rw [setNmeaString_of_some h, setNmeaString_of_some h, hrecord, hrecord]
  unchanged s' h' hshort := by
    obtain rfl : s = s' := Option.some.inj (h.symm.trans h')
    rcases hshort with hshort | hasterisk
    · exact absurd hcomplete.enough (not_le.2 hshort)
    · exact absurd hcomplete.asterisk hasterisk

theorem handled_of_none (h : parsedAs data = none) : Handled data where
  tokens s h' := by
    rw [h] at h'
    cases h'
  inFields _ _ _ _ := by
    rw [setNmeaString_of_none h]
    rfl
  initialised _ _ _ _ _ := by rw [setNmeaString_of_none h, setNmeaString_of_none h]
  unchanged s h' := by
    rw [h] at h'
    cases h'

/-- Memory that holds zeros. -/
def clearedMemory : (s : DebugSentence) → s.Record
  | .PQWM1 => .cleared
  | .PQWP1 => ⟨0, .zero _ _, .zero _ _, .zero _ _, .zero _ _, .zero _ _, 0⟩
  | .PQWP2 => ⟨false, .zero _ _, .zero _ _, .zero _ _, .zero _ _, .zero _ _⟩
  | .PQWP3 => ⟨0, 0, 0, 0, 0, 0, 0, 0, 0, 0, 0, 0, 0⟩
  | .PQWP4 => ⟨0, 0, 0, 0, 0⟩
  | .PQWP5 => ⟨0, 0, 0, 0, 0, 0, 0, 0, 0, 0, 0, 0, 0, 0, 0, 0, 0, 0⟩
  | .PQWP6 => ⟨0⟩
  | .PQWP7 => ⟨List.replicate 148 ⟨0, 0, 0⟩, List.length_replicate⟩
  | .PQWS1 => ⟨0, 0⟩

/-- A sentence with too few fields adds a report to those of a new `SystemStatus`. -/
theorem setNmeaString_short_ne (h : parsedAs data = some s)
    (hshort : (mField data).length < s.eMax) :
    setNmeaString libc memory now .clear data ≠ some (.clear, true) := by
  rw [setNmeaString_short h hshort]
  intro hclear
  obtain ⟨mCache, hstore, hcache⟩ := Option.map_eq_some_iff.1 hclear
  obtain rfl : mCache = .clear := congrArg Prod.fst hcache
  exact DebugSentence.store_clear_ne now s _ hstore

theorem Handled.complete (h : parsedAs data = some s) (hhandled : Handled data) :
    Complete data s := by
  let libc : Libc CDouble CFloat := ⟨fun _ => .zero _ _, fun _ => .zero _ _, fun _ => .zero _ _⟩
  have hasterisk : byte '*' ∈ data := by
    by_contra hasterisk
    refine setNmeaString_short_ne h ?_ (hhandled.unchanged s h (.inr hasterisk) libc clearedMemory
      (fun _ => ⟨0, 0⟩) .clear)
    rw [mField_of_notMem hasterisk]
    cases s <;> decide
  have htokens := hhandled.tokens s h hasterisk
  refine ⟨hasterisk, (mField_eq_fields_iff h hasterisk).1 htokens, ?_⟩
  by_contra henough
  have hshort : (fields data).length < s.eMax := not_le.1 henough
  refine setNmeaString_short_ne h ?_ (hhandled.unchanged s h (.inl hshort) libc clearedMemory
    (fun _ => ⟨0, 0⟩) .clear)
  rwa [htokens]

/-- A string is handled as expected if no parser is given it, or the sentence is complete. -/
theorem handled_iff (data : List UInt8) :
    Handled data ↔ ∀ s, parsedAs data = some s → Complete data s := by
  constructor
  · intro hhandled s h
    exact hhandled.complete h
  · intro hcomplete
    cases h : parsedAs data with
    | none => exact handled_of_none h
    | some s => exact (hcomplete s h).handled h

/-- The fix information of a sentence without it is whatever was in memory. -/
theorem PQWP6_uninitialised :
    (∀ (libc : Libc CDouble CFloat) (memory : (s : DebugSentence) → s.Record) (now : ℕ → Timespec),
      setNmeaString libc memory now .clear (cstring "$PQWP6*3D") =
        some ({ SystemStatusReports.clear with mPdr := [⟨now 0, now 0, memory .PQWP6⟩] }, true)) ∧
      ¬ Handled (cstring "$PQWP6*3D") := by
  have hparsed : parsedAs (cstring "$PQWP6*3D") = some .PQWP6 := by decide
  have hfields : mField (cstring "$PQWP6*3D") = fields (cstring "$PQWP6*3D") :=
    (mField_eq_fields_iff hparsed (by decide)).2 (by decide)
  have hshort : (fields (cstring "$PQWP6*3D")).length < DebugSentence.PQWP6.eMax := by decide
  refine ⟨fun libc memory now => ?_, fun hhandled => ?_⟩
  · rw [setNmeaString_short hparsed (by rwa [hfields])]
    rfl
  · exact absurd (hhandled.complete hparsed).enough (not_le.2 hshort)

end DebugNmea

end GpsHal
