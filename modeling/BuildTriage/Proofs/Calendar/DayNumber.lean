import BuildTriage.Calendar.Date
import Mathlib.Algebra.BigOperators.Intervals
import Mathlib.Algebra.Order.BigOperators.Group.Finset
import Mathlib.Tactic.Lemma

/-!
# Counting days

The days of the calendar are numbered without gaps: `Date.dayNumber` counts them from 1 January of
the year 1, which has the number 1, forward and backward over all years. The number is a sum, of the
days of the years before, of the months before and of the month itself, and knows nothing of the day
after a date or the day before. That these have the next number and the one before it
(`dayNumber_next`, `dayNumber_previous`) says that the calendar rolls over where it should, and a
date is told by its number (`dayNumber_injective`).
-/

namespace BuildTriage

/-! ## Years and months -/

/-- How many days the years from the year 1 on have before `year`; a negative number for the years
before the year 1. Every fourth year has a day more, but of the centuries only every fourth. -/
def daysBeforeYear (year : Int) : Int :=
  365 * (year - 1) + (year - 1) / 4 - (year - 1) / 100 + (year - 1) / 400

/-- How many days the year has before the month. -/
def daysBeforeMonth (year : Int) (month : Nat) : Nat :=
  ∑ m ∈ Finset.Ico 1 month, daysInMonth year m

lemma daysBeforeMonth_one (year : Int) : daysBeforeMonth year 1 = 0 := by
  simp [daysBeforeMonth]

lemma daysBeforeMonth_succ (year : Int) {month : Nat} (h : 1 ≤ month) :
    daysBeforeMonth year (month + 1) = daysBeforeMonth year month + daysInMonth year month :=
  Finset.sum_Ico_succ_top h _

lemma daysBeforeMonth_mono (year : Int) {month month' : Nat} (h : month ≤ month') :
    daysBeforeMonth year month ≤ daysBeforeMonth year month' :=
  Finset.sum_le_sum_of_subset (Finset.Ico_subset_Ico_right h)

lemma daysBeforeMonth_thirteen (year : Int) :
    daysBeforeMonth year 13 = if isLeapYear year then 366 else 365 := by
  simp only [daysBeforeMonth, Finset.sum_Ico_succ_top, Nat.reduceLeDiff, Finset.Ico_self,
    Finset.sum_empty, daysInMonth]
  split <;> rfl

/-- A year is as long as its months. -/
lemma daysBeforeYear_succ (year : Int) :
    daysBeforeYear (year + 1) = daysBeforeYear year + daysBeforeMonth year 13 := by
  rw [daysBeforeMonth_thirteen, daysBeforeYear, daysBeforeYear]
  by_cases hleap : isLeapYear year = true
  · rw [if_pos hleap]
    simp only [isLeapYear, Bool.and_eq_true, Bool.or_eq_true, decide_eq_true_eq] at hleap
    omega
  · rw [if_neg hleap]
    simp only [isLeapYear, Bool.and_eq_true, Bool.or_eq_true, decide_eq_true_eq] at hleap
    omega

/-- The epoch, in days after 1 January of the year 1. -/
example : daysBeforeYear 1970 = 719162 := by decide

lemma daysBeforeYear_le {year year' : Int} (h : year ≤ year') :
    daysBeforeYear year ≤ daysBeforeYear year' := by
  rw [daysBeforeYear, daysBeforeYear]
  omega

namespace Date

/-! ## The number of a day -/

/-- The number of the day within its year, from 1. -/
def dayOfYear (d : Date) : Nat :=
  daysBeforeMonth d.year d.month + d.day

/-- The number of the day, where 1 January of the year 1 has the number 1. -/
def dayNumber (d : Date) : Int :=
  daysBeforeYear d.year + d.dayOfYear

lemma dayOfYear_le (d : Date) : d.dayOfYear ≤ daysBeforeMonth d.year (d.month + 1) := by
  rw [daysBeforeMonth_succ d.year d.month_pos]
  exact Nat.add_le_add_left d.day_le _

/-- The day has a number among those of its year. -/
lemma dayNumber_bounds (d : Date) :
    daysBeforeYear d.year < d.dayNumber ∧ d.dayNumber ≤ daysBeforeYear (d.year + 1) := by
  have hpos := d.day_pos
  have hle : d.dayOfYear ≤ daysBeforeMonth d.year 13 :=
    d.dayOfYear_le.trans (daysBeforeMonth_mono d.year (Nat.succ_le_succ d.month_le))
  rw [daysBeforeYear_succ, dayNumber]
  constructor
  · rw [dayOfYear]
    omega
  · omega

/-- The day after a date has the next number. -/
theorem dayNumber_next (d : Date) : d.next.dayNumber = d.dayNumber + 1 := by
  have hday := d.day_le
  have hmonth := d.month_le
  have hsucc := daysBeforeMonth_succ d.year d.month_pos
  unfold next
  split
  · simp only [dayNumber, dayOfYear]
    omega
  · split
    · simp only [dayNumber, dayOfYear, hsucc]
      omega
    · have hlast : d.month + 1 = 13 := by omega
      rw [hlast] at hsucc
      simp only [dayNumber, dayOfYear, daysBeforeYear_succ, daysBeforeMonth_one, hsucc]
      omega

/-- The day before a date has the number before. -/
theorem dayNumber_previous (d : Date) : d.previous.dayNumber = d.dayNumber - 1 := by
  have hday := d.day_pos
  have hmonth := d.month_pos
  unfold previous
  split
  · simp only [dayNumber, dayOfYear]
    omega
  · split
    · have hsucc := daysBeforeMonth_succ d.year (by omega : 1 ≤ d.month - 1)
      rw [Nat.sub_add_cancel hmonth] at hsucc
      simp only [dayNumber, dayOfYear, hsucc]
      omega
    · have hfirst : d.month = 1 := by omega
      have hyear := daysBeforeYear_succ (d.year - 1)
      have hmonths : daysBeforeMonth (d.year - 1) 13 = daysBeforeMonth (d.year - 1) 12 + 31 :=
        daysBeforeMonth_succ (d.year - 1) (by decide)
      rw [Int.sub_add_cancel] at hyear
      simp only [dayNumber, dayOfYear, hfirst, daysBeforeMonth_one]
      omega

/-! ## A date from its number -/

lemma eq_of_parts {d d' : Date} (hyear : d.year = d'.year) (hmonth : d.month = d'.month)
    (hday : d.day = d'.day) : d = d' := by
  cases d
  cases d'
  cases hyear
  cases hmonth
  cases hday
  rfl

lemma dayNumber_lt_of_year_lt {d d' : Date} (h : d.year < d'.year) :
    d.dayNumber < d'.dayNumber :=
  d.dayNumber_bounds.2.trans_lt ((daysBeforeYear_le h).trans_lt d'.dayNumber_bounds.1)

lemma dayOfYear_lt_of_month_lt {d d' : Date} (hyear : d.year = d'.year) (h : d.month < d'.month) :
    d.dayOfYear < d'.dayOfYear := by
  have hle := d.dayOfYear_le.trans (daysBeforeMonth_mono d.year h)
  have hpos := d'.day_pos
  calc d.dayOfYear
    _ ≤ daysBeforeMonth d'.year d'.month := hyear ▸ hle
    _ < daysBeforeMonth d'.year d'.month + d'.day := by omega

/-- A date is told by its number. -/
theorem dayNumber_injective : Function.Injective dayNumber := by
  intro d d' h
  have hyear : d.year = d'.year := by
    rcases Int.lt_trichotomy d.year d'.year with hlt | heq | hgt
    · exact absurd h (dayNumber_lt_of_year_lt hlt).ne
    · exact heq
    · exact absurd h (dayNumber_lt_of_year_lt hgt).ne'
  have hdays : d.dayOfYear = d'.dayOfYear := by
    rw [dayNumber, dayNumber, hyear] at h
    omega
  have hmonth : d.month = d'.month := by
    rcases Nat.lt_trichotomy d.month d'.month with hlt | heq | hgt
    · exact absurd hdays (dayOfYear_lt_of_month_lt hyear hlt).ne
    · exact heq
    · exact absurd hdays (dayOfYear_lt_of_month_lt hyear.symm hgt).ne'
  have hday : d.day = d'.day := by
    rw [dayOfYear, dayOfYear, hyear, hmonth] at hdays
    omega
  exact eq_of_parts hyear hmonth hday

end Date

end BuildTriage
