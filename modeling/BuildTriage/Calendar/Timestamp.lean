import BuildTriage.Calendar.Date
import BuildTriage.Text.Digits

/-!
# Times

A timestamp is a date with a time of day, in UTC. A local time is the same on the clock of a place
that is ahead of UTC by a number of minutes. Both lie in the years that a timestamp can hold. A leap
second is a second numbered 60; it can stand at the end of any minute.
-/

namespace BuildTriage

/-- A time of day. -/
structure Clock where
  hour : Nat
  minute : Nat
  second : Nat
  nano : Nat
  hour_lt : hour < 24
  minute_lt : minute < 60
  second_le : second ≤ 60
  nano_lt : nano < 1000000000
deriving DecidableEq, Repr

namespace Clock

/-- The time of day with the given parts, if there is one. -/
def ofParts? (hour minute second nano : Nat) : Option Clock :=
  if h : (hour < 24 ∧ minute < 60) ∧ second ≤ 60 ∧ nano < 1000000000 then
    some ⟨hour, minute, second, nano, h.1.1, h.1.2, h.2.1, h.2.2⟩
  else none

/-- The minutes since midnight. -/
def minuteOfDay (c : Clock) : Nat :=
  c.hour * 60 + c.minute

/-- The same second of another minute, counted from midnight and beyond a day from the next one. -/
def atMinute (c : Clock) (m : Nat) : Clock :=
  ⟨m % 1440 / 60, m % 60, c.second, c.nano, by omega, by omega, c.second_le, c.nano_lt⟩

end Clock

/-- The first year that a time can lie in. -/
def minYear : Int := -262143

/-- The last year that a time can lie in. -/
def maxYear : Int := 262142

/-- A time in UTC. -/
structure Timestamp where
  date : Date
  clock : Clock
  minYear_le : minYear ≤ date.year
  le_maxYear : date.year ≤ maxYear
deriving DecidableEq, Repr

/-- A time on the clock of a place that is `offset` minutes ahead of UTC. -/
structure LocalTime where
  date : Date
  clock : Clock
  offset : Int
  minYear_le : minYear ≤ date.year
  le_maxYear : date.year ≤ maxYear
  lt_offset : -1440 < offset
  offset_lt : offset < 1440
deriving DecidableEq, Repr

namespace LocalTime

/-- The local time with the given parts, if there is one. -/
def ofParts? (date : Date) (clock : Clock) (offset : Int) : Option LocalTime :=
  if h : (minYear ≤ date.year ∧ date.year ≤ maxYear) ∧ -1440 < offset ∧ offset < 1440 then
    some ⟨date, clock, offset, h.1.1, h.1.2, h.2.1, h.2.2⟩
  else none

/-- The minute of the day in UTC, counted from midnight of the local date. -/
def utcMinute (t : LocalTime) : Int :=
  t.clock.minuteOfDay - t.offset

/-- The date in UTC. -/
def utcDate (t : LocalTime) : Date :=
  if t.utcMinute < 0 then t.date.previous
  else if t.utcMinute < 1440 then t.date
  else t.date.next

/-- The time of day in UTC. -/
def utcClock (t : LocalTime) : Clock :=
  t.clock.atMinute (t.utcMinute + 1440).toNat

/-- The time in UTC, if a timestamp can hold its year. -/
def toUtc? (t : LocalTime) : Option Timestamp :=
  if h : minYear ≤ t.utcDate.year ∧ t.utcDate.year ≤ maxYear then
    some ⟨t.utcDate, t.utcClock, h.1, h.2⟩
  else none

end LocalTime

end BuildTriage
