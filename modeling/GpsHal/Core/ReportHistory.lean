import GpsHal.Core.NetworkInfo
import GpsHal.Util.Timer
import Mathlib.Data.List.Chain

/-!
# `SystemStatus::setIteminReport` : the history of the reports of one kind

`SystemStatus` keeps the last reports of each kind in a vector.  A new report is collated with the
last one and compared with it; if they are equal it is dropped and only its time is kept.  What
collating and comparing are is a matter of the kind.

## Main definitions

* `ReportKind` : the reports of a kind, with `equals` and `collate`.
* `ReportKind.setIteminReport` : the code.
* `ReportCache.Sound` : what is expected of the vector.
* `ReportCache.DropsEqual` : what is expected of a report that is dropped.
* `ReportCache.Keeps` : the condition on a report.

## Main results

* `ReportKind.run_history_iff` : when all is as expected in a run.
-/

namespace GpsHal

/-- A kind of reports.  Two reports are the same in all carried fields if `equals` has compared them
to be equal and they agree in the fields that are left out of it. -/
structure ReportKind where
  Item : Type
  /-- `equals`, for the stored report and the new one. -/
  equals : Item → Item → Bool
  /-- `collate`, for the new report and the stored one; `none` is an access outside an array. -/
  collate : Item → Item → Option Item
  /-- All carried fields are equal. -/
  same : Item → Item → Bool
  /-- The fields that `equals` does not look at are equal. -/
  leftOut : Item → Item → Bool
  same_eq : ∀ a b, same a b = (equals a b && leftOut a b)

/-- A report with the members of `SystemStatusItemBase`. -/
structure SystemStatusItem (α : Type) where
  mUtcTime : Timespec
  mUtcReported : Timespec
  carried : α

namespace ReportKind

variable (k : ReportKind)

/-- `push_back`, and the oldest report goes when there are too many. -/
def push (report : List (SystemStatusItem k.Item)) (s : SystemStatusItem k.Item) :
    List (SystemStatusItem k.Item) :=
  if maxItem < (report ++ [s]).length then (report ++ [s]).tail else report ++ [s]

def setIteminReport (report : List (SystemStatusItem k.Item)) (s : SystemStatusItem k.Item) :
    Option (List (SystemStatusItem k.Item) × Bool) :=
  match report.getLast? with
  | none => some (k.push report s, true)
  | some back =>
    (k.collate s.carried back.carried).map fun carried =>
      if k.equals back.carried carried then
        -- there is no change - just update reported timestamp
        (report.dropLast ++ [{ back with mUtcReported := s.mUtcReported }], false)
      else (k.push report { s with carried := carried }, true)

end ReportKind

/-- The vector of a kind, and what has been put into it so far, as it was when it came. -/
structure ReportCache (k : ReportKind) where
  report : List (SystemStatusItem k.Item)
  accepted : List k.Item

namespace ReportCache

variable {k : ReportKind} (c : ReportCache k)

/-- A report arrives. -/
def step (s : SystemStatusItem k.Item) : Option (ReportCache k) :=
  (k.setIteminReport c.report s).map fun r =>
    { report := r.1
      accepted :=
        if r.2 then c.accepted ++ (r.1.getLast?.map (·.carried)).toList else c.accepted }

def system (k : ReportKind) : System (ReportCache k) (SystemStatusItem k.Item) :=
  .ofPartial ⟨[], []⟩ step

/-- What is expected of the vector: it holds the last of the accepted reports, in their order, and
no two adjacent ones are the same. -/
structure Sound : Prop where
  size : c.report.length ≤ maxItem
  newest : c.report.map (·.carried) = c.accepted.drop (c.accepted.length - maxItem)
  distinct : (c.report.map (·.carried)).IsChain fun a b => k.same a b = false

/-- A report is dropped only if it is the same as the last one, once it has been collated; only its
time is kept. -/
def DropsEqual (s : SystemStatusItem k.Item) : Prop :=
  ∀ report, k.setIteminReport c.report s = some (report, false) →
    ∃ back carried, c.report.getLast? = some back ∧
      k.collate s.carried back.carried = some carried ∧ k.same back.carried carried = true ∧
        report = c.report.dropLast ++ [{ back with mUtcReported := s.mUtcReported }]

/-- The condition on a report: if it equals the last one, it agrees with it in the fields that are
left out as well. -/
def Keeps (s : SystemStatusItem k.Item) : Prop :=
  ∀ back carried, c.report.getLast? = some back →
    k.collate s.carried back.carried = some carried →
      k.equals back.carried carried = true → k.leftOut back.carried carried = true

/-! ### One report -/

section Step

variable {c} {c' : ReportCache k} {s : SystemStatusItem k.Item}

/-- `push` keeps the last reports. -/
theorem push_eq {report : List (SystemStatusItem k.Item)} (h : report.length ≤ maxItem) :
    k.push report s = (report ++ [s]).drop ((report ++ [s]).length - maxItem) := by
  unfold ReportKind.push
  rw [List.length_append, List.length_singleton]
  split_ifs with hfull
  · have hone : report.length + 1 - maxItem = 1 := by omega
    rw [hone, List.drop_one]
  · have hzero : report.length + 1 - maxItem = 0 := by omega
    rw [hzero, List.drop_zero]

/-- A report that is put into the vector. -/
theorem Sound.push (h : c.Sound)
    (hnew : ∀ back, c.report.getLast? = some back → k.same back.carried s.carried = false) :
    ReportCache.Sound ⟨k.push c.report s, c.accepted ++ [s.carried]⟩ := by
  have hlength : c.report.length = c.accepted.length - (c.accepted.length - maxItem) := by
    rw [← List.length_map (f := SystemStatusItem.carried), h.newest, List.length_drop]
  have hsize := h.size
  refine ⟨?_, ?_, ?_⟩
  · rw [push_eq hsize, List.length_drop]
    omega
  · change (k.push c.report s).map _ = _
    rw [push_eq hsize, List.map_drop, List.map_append, h.newest, List.map_singleton,
      List.length_append, List.length_append, List.length_singleton, List.length_singleton]
    by_cases hfull : maxItem ≤ c.accepted.length
    · have hone : c.report.length + 1 - maxItem = 1 := by omega
      have hnext : c.accepted.length + 1 - maxItem = c.accepted.length - maxItem + 1 := by omega
      rw [hone, hnext, ← List.drop_drop, List.drop_append_of_le_length (Nat.sub_le _ _)]
    · have hzero : c.report.length + 1 - maxItem = 0 := by omega
      have hzero' : c.accepted.length - maxItem = 0 := by omega
      have hnext : c.accepted.length + 1 - maxItem = 0 := by omega
      rw [hzero, hzero', hnext, List.drop_zero, List.drop_zero, List.drop_zero]
  · change ((k.push c.report s).map _).IsChain _
    rw [push_eq hsize, List.map_drop, List.map_append, List.map_singleton]
    refine List.IsChain.drop (List.isChain_append.2 ⟨h.distinct, .singleton _, ?_⟩) _
    intro a ha b hb
    rw [List.getLast?_map] at ha
    obtain ⟨back, hback, rfl⟩ := Option.map_eq_some_iff.1 ha
    obtain rfl : s.carried = b := Option.some.inj hb
    exact hnew back hback

theorem getLast?_push (report : List (SystemStatusItem k.Item)) (s : SystemStatusItem k.Item) :
    (k.push report s).getLast? = some s := by
  unfold ReportKind.push
  split_ifs with hfull
  · rw [List.getLast?_tail, if_neg, List.getLast?_concat]
    simp only [List.length_append, List.length_singleton] at hfull ⊢
    unfold maxItem at hfull
    omega
  · exact List.getLast?_concat

/-- A report whose time is changed. -/
theorem Sound.dropped {back : SystemStatusItem k.Item} (h : c.Sound)
    (hback : c.report.getLast? = some back) (time : Timespec) :
    ReportCache.Sound
      ⟨c.report.dropLast ++ [{ back with mUtcReported := time }], c.accepted⟩ := by
  have hmap : (c.report.dropLast ++ [{ back with mUtcReported := time }]).map
      SystemStatusItem.carried = c.report.map SystemStatusItem.carried := by
    obtain ⟨report, hreport⟩ := List.getLast?_eq_some_iff.1 hback
    rw [hreport, List.dropLast_concat, List.map_append, List.map_append]
    rfl
  refine ⟨?_, hmap.trans h.newest, by rw [hmap]; exact h.distinct⟩
  rw [← List.length_map (f := SystemStatusItem.carried), hmap, List.length_map]
  exact h.size

/-- What a report can do. -/
theorem setIteminReport_cases {report : List (SystemStatusItem k.Item)}
    {r : List (SystemStatusItem k.Item) × Bool} (hr : k.setIteminReport report s = some r) :
    (∃ carried, r = (k.push report { s with carried := carried }, true) ∧
        ∀ back, report.getLast? = some back → k.equals back.carried carried = false) ∨
      ∃ back carried, report.getLast? = some back ∧
        k.collate s.carried back.carried = some carried ∧ k.equals back.carried carried = true ∧
          r = (report.dropLast ++ [{ back with mUtcReported := s.mUtcReported }], false) := by
  unfold ReportKind.setIteminReport at hr
  cases hlast : report.getLast? with
  | none =>
    rw [hlast] at hr
    exact .inl ⟨s.carried, (Option.some.inj hr).symm, fun back hback => by cases hback⟩
  | some back =>
    rw [hlast] at hr
    obtain ⟨carried, hcollate, rfl⟩ := Option.map_eq_some_iff.1 hr
    cases hequals : k.equals back.carried carried with
    | true => exact .inr ⟨back, carried, rfl, hcollate, hequals, by rw [if_pos rfl]⟩
    | false =>
      refine .inl ⟨carried, by rw [if_neg Bool.false_ne_true], fun back' hback' => ?_⟩
      rw [← Option.some.inj hback', hequals]

theorem Sound.step (h : c.Sound) (hstep : c.step s = some c') : c'.Sound := by
  obtain ⟨r, hr, rfl⟩ := Option.map_eq_some_iff.1 hstep
  rcases setIteminReport_cases hr with ⟨carried, rfl, hnew⟩ | ⟨back, carried, hback, -, -, rfl⟩
  · simp only [if_true, getLast?_push, Option.map_some, Option.toList_some]
    refine h.push fun back hback => ?_
    rw [k.same_eq, hnew back hback, Bool.false_and]
  · exact h.dropped hback s.mUtcReported

/-- A report is dropped as it should exactly if it meets its condition. -/
theorem dropsEqual_iff : c.DropsEqual s ↔ c.Keeps s := by
  constructor
  · intro h back carried hback hcollate hequals
    have hdropped : k.setIteminReport c.report s =
        some (c.report.dropLast ++ [{ back with mUtcReported := s.mUtcReported }], false) := by
      unfold ReportKind.setIteminReport
      simp only [hback, hcollate, Option.map_some, hequals, if_true]
    obtain ⟨back', carried', hback', hcollate', hsame, -⟩ := h _ hdropped
    obtain rfl : back = back' := Option.some.inj (hback.symm.trans hback')
    obtain rfl : carried = carried' := Option.some.inj (hcollate.symm.trans hcollate')
    rw [k.same_eq, hequals, Bool.true_and] at hsame
    exact hsame
  · intro h report hreport
    rcases setIteminReport_cases hreport with ⟨carried, heq, -⟩ |
      ⟨back, carried, hback, hcollate, hequals, heq⟩
    · cases heq
    · refine ⟨back, carried, hback, hcollate, ?_, congrArg Prod.fst heq⟩
      rw [k.same_eq, hequals, h back carried hback hcollate hequals]
      rfl

end Step

/-- What is expected of a report, and of the vector before and after it. -/
def Right (s : SystemStatusItem k.Item) : Prop :=
  c.Sound ∧ c.DropsEqual s ∧ ∀ c', c.step s = some c' → c'.Sound

/-- **The history of a kind.**  In any run all is as expected exactly if every report meets its
condition. -/
theorem run_history_iff {c : ReportCache k} {es : List (SystemStatusItem k.Item)} :
    (system k).Run Right es c ↔ (system k).Run Keeps es c := by
  refine System.run_congr (J := Sound) ⟨Nat.zero_le _, rfl, .nil⟩
    (fun _ _ _ h _ hstep => h.step hstep) fun c s _ h _ => ?_
  exact ⟨fun hright => dropsEqual_iff.1 hright.2.1,
    fun hkeeps => ⟨h, dropsEqual_iff.2 hkeeps, fun _ hstep => h.step hstep⟩⟩

end ReportCache

end GpsHal
