/-!
# Dates

The proleptic Gregorian calendar: the rule of leap years holds for all years, also for those before
the calendar was in use and for the year 0 and the negative years before it.
-/

namespace BuildTriage

/-- Whether the year has a 29 February. -/
def isLeapYear (year : Int) : Bool :=
  year % 4 = 0 && (year % 100 ≠ 0 || year % 400 = 0)

/-- How many days the month has in the year. -/
def daysInMonth (year : Int) (month : Nat) : Nat :=
  match month with
  | 2 => if isLeapYear year then 29 else 28
  | 4 | 6 | 9 | 11 => 30
  | _ => 31

/-- Every month has at least 28 days. -/
theorem le_daysInMonth (year : Int) (month : Nat) : 28 ≤ daysInMonth year month := by
  unfold daysInMonth
  split <;> (try split) <;> omega

/-- A day of the calendar. -/
structure Date where
  year : Int
  month : Nat
  day : Nat
  month_pos : 1 ≤ month := by omega
  month_le : month ≤ 12 := by omega
  day_pos : 1 ≤ day := by omega
  day_le : day ≤ daysInMonth year month
deriving DecidableEq, Repr

namespace Date

/-- The date with the given year, month and day, if there is one. -/
def ofParts? (year : Int) (month day : Nat) : Option Date :=
  if h : (1 ≤ month ∧ month ≤ 12) ∧ 1 ≤ day ∧ day ≤ daysInMonth year month then
    some ⟨year, month, day, h.1.1, h.1.2, h.2.1, h.2.2⟩
  else none

/-- The day after. -/
def next (d : Date) : Date :=
  if h : d.day < daysInMonth d.year d.month then
    ⟨d.year, d.month, d.day + 1, d.month_pos, d.month_le, by omega, h⟩
  else if h : d.month < 12 then
    ⟨d.year, d.month + 1, 1, by omega, h, by omega,
      Nat.le_trans (by decide) (le_daysInMonth d.year (d.month + 1))⟩
  else
    ⟨d.year + 1, 1, 1, by decide, by decide, by decide,
      Nat.le_trans (by decide) (le_daysInMonth _ 1)⟩

/-- The day before. -/
def previous (d : Date) : Date :=
  if h : 1 < d.day then
    ⟨d.year, d.month, d.day - 1, d.month_pos, d.month_le, by omega,
      Nat.le_trans (Nat.sub_le ..) d.day_le⟩
  else if h : 1 < d.month then
    ⟨d.year, d.month - 1, daysInMonth d.year (d.month - 1), by omega,
      Nat.le_trans (Nat.sub_le ..) d.month_le,
      Nat.le_trans (by decide) (le_daysInMonth d.year (d.month - 1)), Nat.le_refl _⟩
  else ⟨d.year - 1, 12, 31, by decide, by decide, by decide, by simp [daysInMonth]⟩

/-- The quarter of the year, from 1 to 4. -/
def quarter (d : Date) : Nat :=
  (d.month - 1) / 3 + 1

end Date

end BuildTriage
