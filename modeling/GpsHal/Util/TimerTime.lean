import GpsHal.Util.Timer

/-!
# `LocTimer` : the times of timers

A timer is started for a number of milliseconds, which are added to the time of the boot clock, and
the heap compares the times of two timers by their difference in an `int`.  The clock counts
nanoseconds in 63 bits, so that the seconds never leave a `time_t`.

## Main definitions

* `TimerTime` : a time with normalised nanoseconds.
* `LocTimer.start`, `loc_timer_start` : the time that is stored.
* `TimerTime.Arithmetic` : what is expected of the stored times and of their comparison.

## Main results

* `TimerTime.nanoseconds_start` : the stored time is the sum.
* `TimerTime.ranks_iff` : two times compare as they should unless their seconds are `2 ^ 31` apart.
* `TimerTime.arithmetic_iff` : the timeouts and the sets of times for which all is as expected.
-/

namespace GpsHal

namespace Timespec

/-- The carry of the nanoseconds into the seconds. -/
def carry (tv_sec tv_nsec : ℕ) : Timespec :=
  if 1000000000 ≤ tv_nsec then ⟨tv_sec + tv_nsec / 1000000000, tv_nsec % 1000000000⟩
  else ⟨tv_sec, tv_nsec⟩

theorem tv_nsec_carry_lt (tv_sec tv_nsec : ℕ) : (carry tv_sec tv_nsec).tv_nsec < 1000000000 := by
  unfold carry
  split_ifs with hcarry
  · exact Nat.mod_lt _ (by decide)
  · exact not_le.1 hcarry

theorem carry_sum (tv_sec tv_nsec : ℕ) :
    (carry tv_sec tv_nsec).tv_sec * 1000000000 + (carry tv_sec tv_nsec).tv_nsec =
      tv_sec * 1000000000 + tv_nsec := by
  unfold carry
  split_ifs with hcarry
  · dsimp only
    omega
  · rfl

end Timespec

theorem futureTime_eq (now : Timespec) (timeOutInMs : UInt32) :
    futureTime now timeOutInMs = .carry (now.tv_sec + timeOutInMs.toNat / 1000)
      (now.tv_nsec + timeOutInMs.toNat % 1000 * 1000000) := rfl

/-- A time with normalised nanoseconds. -/
structure TimerTime where
  time : Timespec
  normal : time.tv_nsec < 1000000000

namespace TimerTime

variable {a b c now : TimerTime}

/-- The time in nanoseconds. -/
def nanoseconds (a : TimerTime) : ℕ := a.time.tv_sec * 1000000000 + a.time.tv_nsec

theorem nanoseconds_injective : Function.Injective nanoseconds := by
  rintro ⟨⟨sec, nsec⟩, hnormal⟩ ⟨⟨sec', nsec'⟩, hnormal'⟩ h
  simp only [nanoseconds] at h hnormal hnormal'
  obtain rfl : sec = sec' := by omega
  obtain rfl : nsec = nsec' := by omega
  rfl

/-- The times are less than `2 ^ 31` seconds apart. -/
def Near (a b : TimerTime) : Prop :=
  a.nanoseconds < b.nanoseconds + 2147483648000000000 ∧
    b.nanoseconds < a.nanoseconds + 2147483648000000000

theorem Near.refl (a : TimerTime) : a.Near a := by
  unfold Near
  omega

theorem Near.symm (h : a.Near b) : b.Near a := ⟨h.2, h.1⟩

/-- The seconds of the times are `2 ^ 31` apart, the later time being the second one. -/
def Overflows (a b : TimerTime) : Prop := b.time.tv_sec = a.time.tv_sec + 2147483648

instance (a b : TimerTime) : Decidable (a.Overflows b) := inferInstanceAs (Decidable (_ = _))

/-- The comparison of the heap. -/
def ranks (a b : TimerTime) : ℤ := rankTimes a.time b.time

end TimerTime

/-- The time that `LocTimer::start` stores. -/
def LocTimer.start (now : TimerTime) (timeOutInMs : UInt32) : TimerTime where
  time := futureTime now.time timeOutInMs
  normal := by
    rw [futureTime_eq]
    exact Timespec.tv_nsec_carry_lt _ _

/-- The time that is stored for `loc_timer_start`, whose timeout goes through an `unsigned int`. -/
def loc_timer_start (now : TimerTime) (msec : UInt64) : TimerTime :=
  LocTimer.start now msec.toUInt32

namespace TimerTime

section Start

variable {now : TimerTime}

theorem nanoseconds_start (now : TimerTime) (timeOutInMs : UInt32) :
    (LocTimer.start now timeOutInMs).nanoseconds =
      now.nanoseconds + timeOutInMs.toNat * 1000000 := by
  unfold nanoseconds LocTimer.start
  dsimp only
  rw [futureTime_eq, Timespec.carry_sum]
  omega

theorem nanoseconds_loc_timer_start_iff (now : TimerTime) (msec : UInt64) :
    (loc_timer_start now msec).nanoseconds = now.nanoseconds + msec.toNat * 1000000 ↔
      msec.toNat < 4294967296 := by
  unfold loc_timer_start
  rw [nanoseconds_start, UInt64.toNat_toUInt32]
  omega

end Start

/-! ### Comparing two times -/

section Compare

variable {a b c : TimerTime}

/-- In the range of an `int` nothing is lost. -/
theorem toInt_of_lt {n : ℤ} (hlow : -2147483648 ≤ n) (hhigh : n < 2147483648) : toInt n = n := by
  unfold toInt
  rw [Int.bmod_eq_of_le]
  · omega
  · omega

/-- The difference in seconds, and the one in nanoseconds if it is 0. -/
theorem ranks_eq (hnear : a.Near b) (hover : ¬ a.Overflows b) :
    a.ranks b = if (b.time.tv_sec : ℤ) - a.time.tv_sec = 0
      then (b.time.tv_nsec : ℤ) - a.time.tv_nsec else (b.time.tv_sec : ℤ) - a.time.tv_sec := by
  have ha := a.normal
  have hb := b.normal
  unfold Near nanoseconds at hnear
  unfold Overflows at hover
  unfold ranks rankTimes
  rw [toInt_of_lt (by omega) (by omega), toInt_of_lt (by omega) (by omega)]

theorem ranks_of_overflows (hover : a.Overflows b) : a.ranks b = -2147483648 := by
  unfold Overflows at hover
  have hdiff : (b.time.tv_sec : ℤ) - a.time.tv_sec = 2147483648 := by omega
  unfold ranks rankTimes
  rw [hdiff]
  rfl

/-- The sign of the comparison is that of the order of the times. -/
def RanksRight (a b : TimerTime) : Prop :=
  (0 < a.ranks b ↔ a.nanoseconds < b.nanoseconds) ∧ (a.ranks b = 0 ↔ a = b) ∧
    (a.ranks b < 0 ↔ b.nanoseconds < a.nanoseconds)

/-- **The comparison** of two near times is right unless it overflows. -/
theorem ranks_iff (hnear : a.Near b) : a.RanksRight b ↔ ¬ a.Overflows b := by
  have ha := a.normal
  have hb := b.normal
  have heq : a = b ↔ a.nanoseconds = b.nanoseconds := nanoseconds_injective.eq_iff.symm
  unfold RanksRight
  constructor
  · intro h hover
    rw [ranks_of_overflows hover] at h
    unfold Overflows nanoseconds at *
    omega
  · intro hover
    rw [ranks_eq hnear hover, heq]
    unfold nanoseconds
    split_ifs with hsec
    · omega
    · omega

end Compare

/-! ### Sets of times -/

section Sets

variable {S : Set TimerTime}

/-- Two times are near whenever they are taken from the set. -/
def AllNear (S : Set TimerTime) : Prop := ∀ a ∈ S, ∀ b ∈ S, a.Near b

/-- The heap may be filled with such times: the comparison is a ranking. -/
def Ranked (S : Set TimerTime) : Prop :=
  ∃ R : Ranking S, ∀ a b : S, R.ranks a b = a.1.ranks b.1

theorem not_outRanks_iff {a b : TimerTime} (h : a.RanksRight b) :
    ¬ 0 < a.ranks b ↔ b.nanoseconds ≤ a.nanoseconds := by
  rw [h.1, not_lt]

theorem ranked_of_ranksRight (h : ∀ a ∈ S, ∀ b ∈ S, a.RanksRight b) : Ranked S := by
  refine ⟨⟨fun a b => a.1.ranks b.1, fun a b => ?_, ?_⟩, fun _ _ => rfl⟩
  · rw [not_outRanks_iff (h a a.2 b b.2), not_outRanks_iff (h b b.2 a a.2)]
    exact le_total _ _
  · intro a b c hab hbc
    rw [not_outRanks_iff (h a a.2 b b.2)] at hab
    rw [not_outRanks_iff (h b b.2 c c.2)] at hbc
    rw [not_outRanks_iff (h a a.2 c c.2)]
    exact hbc.trans hab

/-- What is expected of the times: those that are stored, for the two kinds of timeouts, and the
comparison of those in a set. -/
structure Arithmetic (now : TimerTime) (timeOutInMs : UInt32) (msec : UInt64)
    (S : Set TimerTime) : Prop where
  start : (LocTimer.start now timeOutInMs).nanoseconds =
    now.nanoseconds + timeOutInMs.toNat * 1000000
  loc_timer_start : (loc_timer_start now msec).nanoseconds =
    now.nanoseconds + msec.toNat * 1000000
  ranks : ∀ a ∈ S, ∀ b ∈ S, a.Near b → a.RanksRight b
  ranked : AllNear S → Ranked S

/-- **Times of timers.**  All is as expected exactly if the 64-bit timeout fits into 32 bits, and no
two near times of the set have seconds that are `2 ^ 31` apart. -/
theorem arithmetic_iff (now : TimerTime) (timeOutInMs : UInt32) (msec : UInt64)
    (S : Set TimerTime) :
    Arithmetic now timeOutInMs msec S ↔
      msec.toNat < 4294967296 ∧ ∀ a ∈ S, ∀ b ∈ S, a.Near b → ¬ a.Overflows b := by
  constructor
  · intro h
    exact ⟨(nanoseconds_loc_timer_start_iff now msec).1 h.loc_timer_start,
      fun a ha b hb hnear => (ranks_iff hnear).1 (h.ranks a ha b hb hnear)⟩
  · rintro ⟨hmsec, hover⟩
    have hranks : ∀ a ∈ S, ∀ b ∈ S, a.Near b → a.RanksRight b :=
      fun a ha b hb hnear => (ranks_iff hnear).2 (hover a ha b hb hnear)
    exact ⟨nanoseconds_start now timeOutInMs, (nanoseconds_loc_timer_start_iff now msec).2 hmsec,
      hranks, fun hnear => ranked_of_ranksRight fun a ha b hb =>
        hranks a ha b hb (hnear a ha b hb)⟩

/-- A timeout of `2 ^ 32` ms is one of 0 ms, and of two times that are a nanosecond less than
`2 ^ 31` s apart the earlier one ranks lower. -/
theorem timeout_truncated :
    let now : TimerTime := ⟨⟨5, 0⟩, by decide⟩
    let early : TimerTime := ⟨⟨0, 1⟩, by decide⟩
    let late : TimerTime := ⟨⟨2147483648, 0⟩, by decide⟩
    loc_timer_start now 4294967296 = now ∧ early.Near late ∧ early.ranks late = -2147483648 ∧
      ¬ Arithmetic now 0 4294967296 {early, late} := by
  intro now early late
  have hmsec : (4294967296 : UInt64).toUInt32 = 0 := by decide
  have hstart : loc_timer_start now 4294967296 = now := by
    unfold loc_timer_start
    rw [hmsec]
    exact nanoseconds_injective (by decide)
  have hnear : early.Near late := ⟨by decide, by decide⟩
  refine ⟨hstart, hnear, ranks_of_overflows (by decide), fun h => ?_⟩
  have hlt := (nanoseconds_loc_timer_start_iff now 4294967296).1 h.loc_timer_start
  exact Nat.lt_irrefl _ hlt

end Sets

end TimerTime

end GpsHal
