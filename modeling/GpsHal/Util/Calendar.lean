import Mathlib.Data.Int.Order.Basic
import Mathlib.Data.List.Lex

/-!
# Calendar

A position on a line of consecutive blocks lies in one block at some offset, and later positions
have a later block or, in the same one, a larger offset.  The days of the Gregorian calendar are such
positions twice : in the years of a cycle of 400 years, and then in the months of the year.

## Main definitions

* `locate` : the block and the offset of a position.
* `civilDate` : the date of a day, counted from January 1st 1970.

## Main results

* `locate_lt_locate` : later positions.
* `fields_civilDate_lt` : later days have later dates.
-/

namespace GpsHal

/-! ### Blocks -/

/-- The block in which a position lies, and the offset in it, for consecutive blocks of the given
lengths.  What is after the last block is an offset behind it. -/
def locate : List ℕ → ℕ → ℕ × ℕ
  | [], d => (0, d)
  | l :: ls, d => if d < l then (0, d) else Prod.map (· + 1) id (locate ls (d - l))

/-- Later positions are in a later block, or further in the same one. -/
theorem locate_lt_locate (ls : List ℕ) {d d' : ℕ} (h : d < d') :
    (locate ls d).1 < (locate ls d').1 ∨
      (locate ls d).1 = (locate ls d').1 ∧ (locate ls d).2 < (locate ls d').2 := by
  induction ls generalizing d d' with
  | nil => exact .inr ⟨rfl, h⟩
  | cons l ls ih =>
    simp only [locate]
    split_ifs with hd hd'
    · exact .inr ⟨rfl, h⟩
    · exact .inl (Nat.succ_pos _)
    · omega
    · have := ih (show d - l < d' - l by omega)
      simpa [Prod.map] using this

/-- A position that is not after the last block is in one of them. -/
theorem locate_fst_lt (ls : List ℕ) {d : ℕ} (h : d < ls.foldr (· + ·) 0) :
    (locate ls d).1 < ls.length := by
  induction ls generalizing d with
  | nil => simp at h
  | cons l ls ih =>
    simp only [locate]
    split_ifs with hd
    · simp
    · have := ih (show d - l < ls.foldr (· + ·) 0 by simp at h; omega)
      simpa [Prod.map] using this

/-! ### Dates -/

def isLeapYear (year : ℤ) : Bool := year % 4 = 0 && (year % 100 ≠ 0 || year % 400 = 0)

def yearLength (year : ℤ) : ℕ := if isLeapYear year then 366 else 365

def monthLengths (year : ℤ) : List ℕ :=
  [31, if isLeapYear year then 29 else 28, 31, 30, 31, 30, 31, 31, 30, 31, 30, 31]

/-- The years of a cycle, from 1970 on. -/
def cycleYears : List ℕ := (List.range 400).map fun y : ℕ => yearLength (1970 + y)

/-- A date, its month and its day counted from 0. -/
structure CivilDate where
  year : ℤ
  month : ℕ
  day : ℕ
  deriving DecidableEq, Repr

/-- The date of a day of a year. -/
def CivilDate.ofYear (year : ℤ) (day : ℕ) : CivilDate :=
  let month := locate (monthLengths year) day
  ⟨year, month.1, month.2⟩

/-- The date of a day, day 0 being January 1st 1970.  The calendar repeats every 146097 days. -/
def civilDate (days : ℤ) : CivilDate :=
  let year := locate cycleYears (days % 146097).toNat
  CivilDate.ofYear (1970 + 400 * (days / 146097) + year.1) year.2

example : civilDate 17166 = ⟨2016, 11, 30⟩ := by decide

namespace CivilDate

/-- The date as a list of numbers, the year first. -/
def fields (date : CivilDate) : List ℤ := [date.year, date.month, date.day]

theorem fields_ofYear_lt (year : ℤ) {day day' : ℕ} (h : day < day') :
    (ofYear year day).fields < (ofYear year day').fields := by
  refine List.cons_lt_cons_iff.2 (.inr ⟨rfl, ?_⟩)
  rcases locate_lt_locate (monthLengths year) h with hmonth | ⟨hmonth, hday⟩
  · exact List.cons_lt_cons_iff.2 (.inl (Int.ofNat_lt.2 hmonth))
  · refine List.cons_lt_cons_iff.2 (.inr ⟨congrArg _ hmonth, ?_⟩)
    exact List.cons_lt_cons_iff.2 (.inl (Int.ofNat_lt.2 hday))

end CivilDate

theorem sum_cycleYears : cycleYears.foldr (· + ·) 0 = 146097 := by decide +kernel

theorem length_cycleYears : cycleYears.length = 400 := by
  simp only [cycleYears, List.length_map, List.length_range]

theorem year_lt_400 (days : ℤ) : (locate cycleYears (days % 146097).toNat).1 < 400 := by
  rw [← length_cycleYears]
  refine locate_fst_lt cycleYears ?_
  rw [sum_cycleYears]
  omega

theorem le_year_civilDate {days : ℤ} (h : 0 ≤ days) : 1970 ≤ (civilDate days).year := by
  change 1970 ≤ 1970 + 400 * (days / 146097) + _
  omega

/-- Later days have later dates. -/
theorem fields_civilDate_lt {days days' : ℤ} (h : days < days') :
    (civilDate days).fields < (civilDate days').fields := by
  have hyear := year_lt_400 days
  have hyear' := year_lt_400 days'
  by_cases hcycle : days / 146097 = days' / 146097
  · have hoffset : (days % 146097).toNat < (days' % 146097).toNat := by omega
    rcases locate_lt_locate cycleYears hoffset with hlt | ⟨heq, hday⟩
    · refine List.cons_lt_cons_iff.2 (.inl ?_)
      change 1970 + 400 * (days / 146097) + _ < 1970 + 400 * (days' / 146097) + _
      omega
    · unfold civilDate
      dsimp only
      rw [← hcycle, ← heq]
      exact CivilDate.fields_ofYear_lt _ hday
  · refine List.cons_lt_cons_iff.2 (.inl ?_)
    change 1970 + 400 * (days / 146097) + _ < 1970 + 400 * (days' / 146097) + _
    omega

end GpsHal
