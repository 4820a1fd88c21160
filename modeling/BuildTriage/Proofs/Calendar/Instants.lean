import BuildTriage.Proofs.Calendar.DayNumber
import BuildTriage.Proofs.Calendar.TimeText

/-!
# Local times and instants

A local time with its offset stands for an instant, a minute in UTC and a second and nanosecond in
it. Minutes can be counted by the numbers of days, so the offset is taken off by one subtraction,
`LocalTime.utcMinutes`. The calculation in the calendar, which looks only whether the day before or
the day after is meant, comes to the same date and time of day (`LocalTime.utcDate_dayNumber`,
`LocalTime.utcClock_minuteOfDay`), and so local times of one instant become one timestamp
(`eq_of_instant_eq`).

The second 60 of a minute is an instant of its own, after the second 59 and before the next minute.
-/

namespace BuildTriage

open Text (paddedDecimal decimalValue digitValue)

/-! ## Instants -/

/-- A point in time. -/
structure Instant where
  /-- The minute in UTC, counted from the start of the day with the number 0. -/
  minute : Int
  second : Nat
  nano : Nat
deriving DecidableEq, Repr

/-- The minutes from the start of the day with the number 0, in UTC. -/
def LocalTime.utcMinutes (t : LocalTime) : Int :=
  1440 * t.date.dayNumber + t.clock.minuteOfDay - t.offset

/-- The instant that the local time stands for. -/
def LocalTime.instant (t : LocalTime) : Instant :=
  ⟨t.utcMinutes, t.clock.second, t.clock.nano⟩

lemma Clock.minuteOfDay_lt (c : Clock) : c.minuteOfDay < 1440 := by
  have hhour := c.hour_lt
  have hminute := c.minute_lt
  rw [minuteOfDay]
  omega

lemma Clock.minuteOfDay_atMinute (c : Clock) (m : Nat) : (c.atMinute m).minuteOfDay = m % 1440 := by
  simp only [minuteOfDay, atMinute]
  omega

/-- A time of day is told by its minute, its second and its nanosecond. -/
lemma Clock.eq_of_minuteOfDay {c c' : Clock} (hminute : c.minuteOfDay = c'.minuteOfDay)
    (hsecond : c.second = c'.second) (hnano : c.nano = c'.nano) : c = c' := by
  obtain ⟨hour, minute, second, nano, _, _, _, _⟩ := c
  obtain ⟨hour', minute', second', nano', _, _, _, _⟩ := c'
  simp only [minuteOfDay] at hminute
  simp only [Clock.mk.injEq]
  exact ⟨by omega, by omega, hsecond, hnano⟩

namespace LocalTime

variable (t : LocalTime)

/-- The date in UTC is that of the day in which the instant lies. -/
lemma utcDate_dayNumber : t.utcDate.dayNumber = t.utcMinutes / 1440 := by
  have hclock := t.clock.minuteOfDay_lt
  have hlow := t.lt_offset
  have hhigh := t.offset_lt
  rw [utcDate, utcMinutes, utcMinute]
  split
  · rw [Date.dayNumber_previous]
    omega
  · split
    · omega
    · rw [Date.dayNumber_next]
      omega

lemma utcClock_minuteOfDay : (t.utcClock.minuteOfDay : Int) = t.utcMinutes % 1440 := by
  have hlow := t.lt_offset
  have hhigh := t.offset_lt
  rw [utcClock, Clock.minuteOfDay_atMinute, utcMinutes, utcMinute]
  omega

/-- The date in UTC is the only one with the number of that day. -/
lemma eq_utcDate {d : Date} (h : d.dayNumber = t.utcMinutes / 1440) : d = t.utcDate :=
  Date.dayNumber_injective (h.trans t.utcDate_dayNumber.symm)

variable {t}

lemma toUtc?_eq_some {time : Timestamp} (h : t.toUtc? = some time) :
    time.date = t.utcDate ∧ time.clock = t.utcClock := by
  unfold toUtc? at h
  split at h
  · obtain rfl := Option.some.inj h
    exact ⟨rfl, rfl⟩
  · cases h

/-- Local times of one instant are one time in UTC. -/
lemma eq_of_instant_eq {t' : LocalTime} {time time' : Timestamp} (h : t.toUtc? = some time)
    (h' : t'.toUtc? = some time') (hinstant : t.instant = t'.instant) : time = time' := by
  obtain ⟨hdate, hclock⟩ := toUtc?_eq_some h
  obtain ⟨hdate', hclock'⟩ := toUtc?_eq_some h'
  obtain ⟨hminutes, hsecond, hnano⟩ := Instant.mk.inj hinstant
  have hutcDate : t.utcDate = t'.utcDate := by
    apply eq_utcDate
    rw [utcDate_dayNumber, hminutes]
  have hutcClock : t.utcClock = t'.utcClock := by
    refine Clock.eq_of_minuteOfDay ?_ hsecond hnano
    have hminute := t.utcClock_minuteOfDay
    rw [hminutes, ← t'.utcClock_minuteOfDay] at hminute
    omega
  obtain ⟨date, clock, _, _⟩ := time
  obtain ⟨date', clock', _, _⟩ := time'
  simp only at hdate hclock hdate' hclock'
  simp only [Timestamp.mk.injEq]
  exact ⟨by rw [hdate, hdate', hutcDate], by rw [hclock, hclock', hutcClock]⟩

end LocalTime

/-! ## The texts of local times -/

namespace Rfc3339

/-- An offset with its sign, two digits of hours, and two of minutes. -/
def offsetText (offset : Int) : List Char :=
  (if offset < 0 then '-' else '+')
    :: (paddedDecimal 2 (offset.natAbs / 60) ++ ':' :: paddedDecimal 2 (offset.natAbs % 60))

/-- The text of a local time with its offset. -/
def localText (t : LocalTime) : List Char :=
  dateText t.date ++ 'T' :: (clockText t.clock ++ offsetText t.offset)

lemma twoDigits_paddedDecimal {n : Nat} (h : n < 100) (rest : List Char) :
    twoDigits (paddedDecimal 2 n ++ rest) = .ok (n, rest) := by
  have hlength : (paddedDecimal 2 n).length = 2 := Text.length_paddedDecimal (by decide) h
  have hvalue := Text.decimalValue_paddedDecimal 2 n
  have hdigits : ∀ c ∈ paddedDecimal 2 n, c.isDigit = true :=
    fun _ => Text.isDigit_of_mem_paddedDecimal
  obtain ⟨a, b, hab⟩ := List.length_eq_two.1 hlength
  rw [hab] at hvalue hdigits ⊢
  have hvalue : 10 * digitValue a + digitValue b = n := by simpa [decimalValue] using hvalue
  simp [twoDigits, hdigits a, hdigits b, hvalue]

lemma offsetAmount_append {hours minutes : Nat} (hhours : hours < 100) (hminutes : minutes < 60) :
    offsetAmount (paddedDecimal 2 hours ++ ':' :: paddedDecimal 2 minutes)
      = .ok (hours * 60 + minutes, []) := by
  obtain ⟨c, s, hcons, hdigit⟩ := exists_paddedDecimal_append_eq_cons 2 minutes []
  have hread := twoDigits_paddedDecimal (by omega : minutes < 100) []
  rw [List.append_nil] at hcons hread
  have hcolon : c ≠ ':' := by
    rintro rfl
    cases hdigit
  have hskip : (':' :: c :: s).dropWhile (fun c => c = ':' || Text.isWhiteSpace c) = c :: s := by
    rw [List.dropWhile_cons_of_pos (by decide), List.dropWhile_cons_of_neg]
    simp [hcolon, isWhiteSpace_of_isDigit hdigit]
  rw [hcons] at hread ⊢
  simp only [offsetAmount, offsetMinutes, twoDigits_paddedDecimal hhours, bind, Except.bind, pure,
    Except.pure, hskip, hread, List.isEmpty_cons, Bool.false_eq_true, if_false, if_pos hminutes]

lemma offset_offsetText {o : Int} (hlow : -1440 < o) (hhigh : o < 1440) :
    offset (offsetText o) = .ok (o, []) := by
  have hamount := offsetAmount_append (by omega : o.natAbs / 60 < 100)
    (Nat.mod_lt o.natAbs (by decide : 0 < 60))
  have habs : o.natAbs / 60 * 60 + o.natAbs % 60 = o.natAbs := Nat.div_add_mod' _ _
  by_cases hneg : o < 0
  · have hvalue : -(o.natAbs : Int) = o := by omega
    rw [offsetText, if_pos hneg, offset, if_neg (by simp), hamount]
    simp only [bind, Except.bind, pure, Except.pure, habs, hvalue]
    rfl
  · have hvalue : (o.natAbs : Int) = o := by omega
    rw [offsetText, if_neg hneg, offset, if_neg (by simp), hamount]
    simp only [bind, Except.bind, pure, Except.pure, habs, hvalue]
    rfl

/-- A local time is read where it was written with its offset. -/
theorem readLocal_localText (t : LocalTime) : readLocal (localText t) = .ok t := by
  have hoffset := offset_offsetText t.lt_offset t.offset_lt
  rw [localText]
  by_cases hneg : t.offset < 0
  · rw [offsetText, if_pos hneg] at hoffset ⊢
    exact readLocal_append t (by decide) (by decide) (by decide) hoffset
  · rw [offsetText, if_neg hneg] at hoffset ⊢
    exact readLocal_append t (by decide) (by decide) (by decide) hoffset

end Rfc3339

end BuildTriage
