import BuildTriage.Calendar.Rfc3339
import BuildTriage.Proofs.Text.Numbers
import BuildTriage.Proofs.Text.Trimming
import Mathlib.Algebra.Group.Int.Defs

/-!
# Reading the text of a time

The text of a timestamp is read as the timestamp (`Timestamp.parse_text`), also where its year takes
a sign, its second is a leap second, or its fraction has three, six or nine digits. Each part of the
reader is followed over the part of the text that it reads, in front of an arbitrary rest in which
no number goes on.
-/

namespace BuildTriage

open Text (EndsNumber paddedDecimal decimalValue trimStart endsNumber_cons trimStart_cons)

namespace Rfc3339

/-! ## White space -/

lemma isWhiteSpace_of_isDigit {c : Char} (h : c.isDigit = true) : Text.isWhiteSpace c = false := by
  have hrange : 48 ≤ c.toNat ∧ c.toNat ≤ 57 := by
    simp only [Char.isDigit, Bool.and_eq_true, decide_eq_true_eq, ge_iff_le,
      UInt32.le_iff_toNat_le] at h
    exact h
  rw [Text.isWhiteSpace, Text.inRanges, List.any_eq_false]
  intro r hr
  have houtside : ∀ r ∈ Text.whiteSpaceRanges, r.2 < 48 ∨ 57 < r.1 := by decide
  have hoff := houtside r hr
  simp only [Bool.and_eq_true, decide_eq_true_eq]
  omega

/-- A number that was written begins with a digit. -/
lemma exists_paddedDecimal_append_eq_cons (width n : Nat) (rest : List Char) :
    ∃ c s, paddedDecimal width n ++ rest = c :: s ∧ c.isDigit = true := by
  obtain ⟨c, digits, hcons⟩ := List.exists_cons_of_ne_nil (Text.paddedDecimal_ne_nil width n)
  have hmem : c ∈ paddedDecimal width n := hcons ▸ List.mem_cons_self
  exact ⟨c, digits ++ rest, by rw [hcons, List.cons_append],
    Text.isDigit_of_mem_paddedDecimal hmem⟩

lemma trimStart_paddedDecimal (width n : Nat) (rest : List Char) :
    trimStart (paddedDecimal width n ++ rest) = paddedDecimal width n ++ rest := by
  obtain ⟨c, s, hcons, hdigit⟩ := exists_paddedDecimal_append_eq_cons width n rest
  rw [hcons, trimStart_cons (isWhiteSpace_of_isDigit hdigit)]

/-! ## Numbers -/

/-- A number is read where it was written, if it has no more digits than are allowed. -/
lemma number_append {width : Nat} {digits rest : List Char} (hne : digits ≠ [])
    (hdigits : ∀ c ∈ digits, c.isDigit = true) (hwidth : digits.length ≤ width)
    (hrest : EndsNumber rest) :
    number width (digits ++ rest) = .ok (decimalValue digits, rest) := by
  have htake : (digits ++ rest).take width = digits ++ rest.take (width - digits.length) := by
    rw [List.take_append, List.take_of_length_le hwidth]
  have hend : EndsNumber (rest.take (width - digits.length)) := by
    intro c hc
    exact hrest c (by
      rw [List.head?_take] at hc
      split at hc
      · cases hc
      · exact hc)
  rw [number, htake, Text.takeWhile_isDigit_append hdigits hend, List.drop_left]
  simp [hne]

/-- A number of two digits is read where it was written, if it lies between the bounds. -/
lemma numberWithin_paddedDecimal {low high n : Nat} (hn : low ≤ n ∧ n ≤ high) (hlt : n < 100)
    {rest : List Char} (hrest : EndsNumber rest) :
    numberWithin low high (paddedDecimal 2 n ++ rest) = .ok (n, rest) := by
  have hlength : (paddedDecimal 2 n).length = 2 := Text.length_paddedDecimal (by decide) hlt
  have hread := number_append (Text.paddedDecimal_ne_nil 2 n)
    (fun _ => Text.isDigit_of_mem_paddedDecimal) hlength.le hrest
  rw [numberWithin, trimStart_paddedDecimal, hread]
  simp [hn, bind, Except.bind, pure, Except.pure]

lemma length_paddedDecimal_le {width n : Nat} (hwidth : 0 < width) (h : n < 10 ^ width) :
    (paddedDecimal width n).length ≤ width :=
  (Text.length_paddedDecimal hwidth h).le

/-! ## Date -/

lemma mark_cons {c : Char} (h : Text.isWhiteSpace c = false) (s : List Char) :
    mark c (c :: s) = .ok s := by
  simp [mark, trimStart_cons h]

/-- A year without a sign has four digits at most. -/
lemma year_of_unsigned {n : Nat} (h : n ≤ 9999) {rest : List Char} (hrest : EndsNumber rest) :
    year (paddedDecimal 4 n ++ rest) = .ok ((n : Int), rest) := by
  have hwidth : (paddedDecimal 4 n).length ≤ 4 :=
    length_paddedDecimal_le (by decide) (by omega)
  have hread := number_append (Text.paddedDecimal_ne_nil 4 n)
    (fun _ => Text.isDigit_of_mem_paddedDecimal) hwidth hrest
  have hrange : -Nat.pow 2 31 ≤ (n : Int) ∧ (n : Int) < Nat.pow 2 31 := by
    simp only [Nat.pow_eq]
    omega
  obtain ⟨c, s, hcons, hdigit⟩ := exists_paddedDecimal_append_eq_cons 4 n rest
  rw [hcons] at hread ⊢
  rw [year, trimStart_cons (isWhiteSpace_of_isDigit hdigit)]
  split
  · next hminus =>
    rw [(List.cons.inj hminus).1] at hdigit
    cases hdigit
  · next hplus =>
    rw [(List.cons.inj hplus).1] at hdigit
    cases hdigit
  · simp only [hread, bind, Except.bind, pure, Except.pure, Text.decimalValue_paddedDecimal]
    exact if_pos hrange

/-- A year after a sign may have any number of digits. -/
lemma year_of_signed {y : Int} (hrange : -2 ^ 31 ≤ y ∧ y < 2 ^ 31) {rest : List Char}
    (hrest : EndsNumber rest) :
    year ((if y < 0 then '-' else '+') :: (paddedDecimal 4 y.natAbs ++ rest)) = .ok (y, rest) := by
  have hread := number_append (Text.paddedDecimal_ne_nil 4 y.natAbs)
    (fun _ => Text.isDigit_of_mem_paddedDecimal)
    (List.length_append ▸ Nat.le_add_right _ rest.length) hrest
  rw [Text.decimalValue_paddedDecimal] at hread
  have hin : -Nat.pow 2 31 ≤ y ∧ y < Nat.pow 2 31 := by
    simp only [Nat.pow_eq]
    omega
  split
  · have habs : -(y.natAbs : Int) = y := by omega
    rw [year, trimStart_cons (by decide)]
    simp only [hread, bind, Except.bind, pure, Except.pure, habs]
    exact if_pos hin
  · have habs : (y.natAbs : Int) = y := by omega
    rw [year, trimStart_cons (by decide)]
    simp only [hread, bind, Except.bind, pure, Except.pure, habs]
    exact if_pos hin

/-- A year that a timestamp can hold is read where it was written. -/
lemma year_yearText {y : Int} (hlow : minYear ≤ y) (hhigh : y ≤ maxYear) {rest : List Char}
    (hrest : EndsNumber rest) : year (yearText y ++ rest) = .ok (y, rest) := by
  simp only [minYear, maxYear] at hlow hhigh
  by_cases hplain : 0 ≤ y ∧ y ≤ 9999
  · have habs : (y.natAbs : Int) = y := by omega
    rw [yearText, if_pos hplain, year_of_unsigned (by omega) hrest, habs]
  · rw [yearText, if_neg hplain, List.cons_append, year_of_signed (by omega) hrest]

lemma daysInMonth_le (year : Int) (month : Nat) : daysInMonth year month ≤ 31 := by
  unfold daysInMonth
  split <;> (try split) <;> omega

lemma endsNumber_dash (s : List Char) : EndsNumber ('-' :: s) :=
  endsNumber_cons (by decide) s

lemma endsNumber_colon (s : List Char) : EndsNumber (':' :: s) :=
  endsNumber_cons (by decide) s

lemma dateParts_dateText (d : Date) (hlow : minYear ≤ d.year) (hhigh : d.year ≤ maxYear)
    {rest : List Char} (hrest : EndsNumber rest) :
    dateParts (dateText d ++ rest) = .ok ((d.year, d.month, d.day), rest) := by
  have hday := d.day_le.trans (daysInMonth_le d.year d.month)
  have hmonth := d.month_le
  have htext : dateText d ++ rest = yearText d.year ++ '-' :: (paddedDecimal 2 d.month
      ++ '-' :: (paddedDecimal 2 d.day ++ rest)) := by
    simp [dateText]
  have hmark := mark_cons (show Text.isWhiteSpace '-' = false by decide)
  have hreadMonth := fun s => numberWithin_paddedDecimal ⟨d.month_pos, d.month_le⟩ (by omega)
    (endsNumber_dash s)
  have hreadDay := numberWithin_paddedDecimal ⟨d.day_pos, hday⟩ (by omega) hrest
  rw [htext, dateParts, year_yearText hlow hhigh (endsNumber_dash _)]
  simp only [bind, Except.bind, pure, Except.pure, hmark, hreadMonth, hreadDay]

/-! ## Time of day -/

/-- A fraction is left out, or it is written with three, six or nine digits. -/
lemma fractionText_cases {nano : Nat} (h : nano < 1000000000) :
    nano = 0 ∧ fractionText nano = [] ∨
      ∃ width n, 0 < width ∧ width ≤ 9 ∧ n < 10 ^ width ∧ n * 10 ^ (9 - width) = nano ∧
        fractionText nano = '.' :: paddedDecimal width n := by
  unfold fractionText
  split
  · next hzero => exact .inl ⟨hzero, rfl⟩
  · refine .inr ?_
    split
    · exact ⟨3, _, by decide, by decide, by omega, by omega, rfl⟩
    · split
      · exact ⟨6, _, by decide, by decide, by omega, by omega, rfl⟩
      · exact ⟨9, _, by decide, by decide, by omega, by omega, rfl⟩

lemma endsNumber_fractionText {nano : Nat} (h : nano < 1000000000) {c : Char}
    (hdigit : c.isDigit = false) (rest : List Char) :
    EndsNumber (fractionText nano ++ c :: rest) := by
  obtain ⟨-, htext⟩ | ⟨width, n, -, -, -, -, htext⟩ := fractionText_cases h
  · rw [htext]
    exact endsNumber_cons hdigit rest
  · rw [htext]
    exact endsNumber_cons (by decide) _

/-- The digits of a fraction stand for nanoseconds by their places. -/
lemma fraction_point {width n : Nat} (hpos : 0 < width) (hwidth : width ≤ 9) (h : n < 10 ^ width)
    {rest : List Char} (hrest : EndsNumber rest) :
    fraction ('.' :: (paddedDecimal width n ++ rest)) = .ok (n * 10 ^ (9 - width), rest) := by
  have hlength := Text.length_paddedDecimal hpos h
  have hread := number_append (Text.paddedDecimal_ne_nil width n)
    (fun _ => Text.isDigit_of_mem_paddedDecimal) (hlength.le.trans hwidth) hrest
  have hdone : rest.dropWhile Char.isDigit = rest := by
    simpa using Text.dropWhile_isDigit_append (List.forall_mem_nil _) hrest
  have hplaces : (paddedDecimal width n ++ rest).length - rest.length = width := by
    rw [List.length_append, hlength]
    omega
  simp only [fraction, hread, bind, Except.bind, pure, Except.pure, hdone, hplaces,
    Text.decimalValue_paddedDecimal, Nat.pow_eq]

lemma fraction_of_ne {c : Char} (h : c ≠ '.') (s : List Char) :
    fraction (c :: s) = .ok (0, c :: s) := by
  unfold fraction
  split
  · next hpoint => exact absurd (List.cons.inj hpoint).1 h
  · rfl

lemma fraction_fractionText {nano : Nat} (h : nano < 1000000000) {c : Char}
    (hdigit : c.isDigit = false) (hpoint : c ≠ '.') (rest : List Char) :
    fraction (fractionText nano ++ c :: rest) = .ok (nano, c :: rest) := by
  have hrest : EndsNumber (c :: rest) := endsNumber_cons hdigit rest
  obtain ⟨hzero, htext⟩ | ⟨width, n, hpos, hwidth, hn, hnano, htext⟩ := fractionText_cases h
  · rw [htext, hzero]
    exact fraction_of_ne hpoint rest
  · rw [htext, List.cons_append, fraction_point hpos hwidth hn hrest, hnano]

lemma clockParts_clockText (t : Clock) {c : Char} (hdigit : c.isDigit = false) (hpoint : c ≠ '.')
    (rest : List Char) :
    clockParts (clockText t ++ c :: rest)
      = .ok ((t.hour, t.minute, t.second, t.nano), c :: rest) := by
  have hhour := t.hour_lt
  have hminute := t.minute_lt
  have hsecond := t.second_le
  have htext : clockText t ++ c :: rest
      = paddedDecimal 2 t.hour ++ ':' :: (paddedDecimal 2 t.minute
          ++ ':' :: (paddedDecimal 2 t.second ++ (fractionText t.nano ++ c :: rest))) := by
    simp [clockText]
  have hmark := mark_cons (show Text.isWhiteSpace ':' = false by decide)
  have hreadMinute := fun s => numberWithin_paddedDecimal
    (⟨Nat.zero_le _, by omega⟩ : 0 ≤ t.minute ∧ t.minute ≤ 59) (by omega) (endsNumber_colon s)
  have hreadSecond := numberWithin_paddedDecimal ⟨Nat.zero_le _, hsecond⟩ (by omega)
    (endsNumber_fractionText t.nano_lt hdigit rest)
  rw [htext, clockParts, numberWithin_paddedDecimal ⟨Nat.zero_le _, by omega⟩ (by omega)
    (endsNumber_colon _)]
  simp only [bind, Except.bind, pure, Except.pure, hmark, hreadMinute, hreadSecond,
    fraction_fractionText t.nano_lt hdigit hpoint]

end Rfc3339

/-! ## Whole times -/

/-- A time on the clock of a place at UTC. -/
def Timestamp.toLocal (t : Timestamp) : LocalTime :=
  ⟨t.date, t.clock, 0, t.minYear_le, t.le_maxYear, by decide, by decide⟩

lemma Timestamp.toUtc?_toLocal (t : Timestamp) : t.toLocal.toUtc? = some t := by
  have hhour := t.clock.hour_lt
  have hminute := t.clock.minute_lt
  have hmin : t.toLocal.utcMinute = t.clock.minuteOfDay := Int.sub_zero _
  have hdate : t.toLocal.utcDate = t.date := by
    rw [LocalTime.utcDate, hmin, Clock.minuteOfDay, if_neg (by omega), if_pos (by omega)]
    rfl
  have hclock : t.toLocal.utcClock = t.clock := by
    have hminutes : ((t.clock.minuteOfDay : Int) + 1440).toNat
        = t.clock.hour * 60 + t.clock.minute + 1440 := by
      rw [Clock.minuteOfDay]
      omega
    rw [LocalTime.utcClock, hmin, hminutes]
    show t.clock.atMinute (t.clock.hour * 60 + t.clock.minute + 1440) = t.clock
    obtain ⟨date, ⟨hour, minute, second, nano, _, _, _, _⟩, _, _⟩ := t
    simp only [Clock.atMinute, Clock.mk.injEq, and_true]
    omega
  simp only [LocalTime.toUtc?, hdate, hclock]
  exact dif_pos ⟨t.minYear_le, t.le_maxYear⟩

namespace Rfc3339

lemma assemble?_parts (t : LocalTime) :
    assemble? (t.date.year, t.date.month, t.date.day)
        (t.clock.hour, t.clock.minute, t.clock.second, t.clock.nano) t.offset
      = some t := by
  have hdate : Date.ofParts? t.date.year t.date.month t.date.day = some t.date :=
    dif_pos ⟨⟨t.date.month_pos, t.date.month_le⟩, t.date.day_pos, t.date.day_le⟩
  have hclock : Clock.ofParts? t.clock.hour t.clock.minute t.clock.second t.clock.nano
      = some t.clock :=
    dif_pos ⟨⟨t.clock.hour_lt, t.clock.minute_lt⟩, t.clock.second_le, t.clock.nano_lt⟩
  have hlocal : LocalTime.ofParts? t.date t.clock t.offset = some t :=
    dif_pos ⟨⟨t.minYear_le, t.le_maxYear⟩, t.lt_offset, t.offset_lt⟩
  simp [assemble?, hdate, hclock, hlocal]

/-- A local time is read where its date and its time of day were written before its offset. -/
lemma readLocal_append (t : LocalTime) {c : Char} {s : List Char} (hdigit : c.isDigit = false)
    (hpoint : c ≠ '.') (hblank : Text.isWhiteSpace c = false)
    (hoffset : offset (c :: s) = .ok (t.offset, [])) :
    readLocal (dateText t.date ++ 'T' :: (clockText t.clock ++ c :: s)) = .ok t := by
  have hdate := dateParts_dateText t.date t.minYear_le t.le_maxYear
    (endsNumber_cons (by decide) (clockText t.clock ++ c :: s) : EndsNumber ('T' :: _))
  have hseparator : ∀ s, separator ('T' :: s) = .ok s := fun _ => rfl
  have hclock := clockParts_clockText t.clock hdigit hpoint s
  rw [readLocal, hdate]
  simp only [bind, Except.bind, pure, Except.pure, hseparator, hclock, trimStart_cons hblank,
    hoffset, assemble?_parts]
  rfl

/-- The text of a time is read as the local time at UTC. -/
lemma readLocal_text (t : Timestamp) : readLocal (text t) = .ok t.toLocal := by
  have htext : text t = dateText t.date ++ 'T' :: (clockText t.clock ++ 'Z' :: []) := by
    simp [text]
  rw [htext]
  exact readLocal_append t.toLocal (by decide) (by decide) (by decide) rfl

end Rfc3339

/-- **The text of a time is read as the time.** -/
theorem Timestamp.parse_text (t : Timestamp) : Timestamp.parse t.text = .ok t := by
  rw [Timestamp.parse, Timestamp.text, String.toList_ofList, Rfc3339.read, Rfc3339.readLocal_text]
  simp only [bind, Except.bind, Timestamp.toUtc?_toLocal]
  rfl

end BuildTriage
