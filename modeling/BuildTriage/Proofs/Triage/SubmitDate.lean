import BuildTriage.Proofs.Calendar.Instants
import BuildTriage.Triage.Summary

/-!
# When a build was submitted

A submit time is given as text, on the clock of some place, and archived as the year, the month and
the quarter of its date in UTC. Which date that is follows from counting minutes and days: the
offset is taken off the local time, and the day in which the minute lies has one date
(`submit_fields_of_utc_date`). What the reader and the calendar do on the way, part by part, is
known from `Rfc3339.readLocal_localText` and `LocalTime.utcDate_dayNumber`.
-/

namespace BuildTriage

/-- The text was accepted as the submit time of the build. -/
def Build.SubmittedAt (b : Build) (text : String) : Prop :=
  ∃ time, Timestamp.parse text = .ok time ∧ b.submitTime = some time

/-- The submit fields of the summary are those of the date. -/
structure Summary.SubmittedOn (s : Summary) (d : Date) : Prop where
  year : s.submitYear = some d.year
  month : s.submitMonth = some d.month
  /-- The quarter is the one of the four that holds the month. -/
  quarter : ∃ q, s.submitQuarter = some q ∧ 3 * (q - 1) < d.month ∧ d.month ≤ 3 * q ∧
    1 ≤ q ∧ q ≤ 4

lemma Date.quarter_bounds (d : Date) :
    3 * (d.quarter - 1) < d.month ∧ d.month ≤ 3 * d.quarter ∧ 1 ≤ d.quarter ∧ d.quarter ≤ 4 := by
  have hlow := d.month_pos
  have hhigh := d.month_le
  rw [quarter]
  omega

/-- A text that is accepted as a time is read as a local time, and that is moved to UTC. -/
lemma Timestamp.exists_of_parse {text : String} {time : Timestamp}
    (h : Timestamp.parse text = .ok time) :
    ∃ t, Rfc3339.readLocal text.toList = .ok t ∧ t.toUtc? = some time := by
  rw [parse, Rfc3339.read] at h
  cases hread : Rfc3339.readLocal text.toList with
  | error e =>
    rw [hread] at h
    cases h
  | ok t =>
    simp only [hread, bind, Except.bind] at h
    split at h
    · next time' htime =>
      cases h
      exact ⟨t, rfl, htime⟩
    · cases h

lemma Build.SubmittedAt.exists_local {b : Build} {text : String} (h : b.SubmittedAt text) :
    ∃ t time, Rfc3339.readLocal text.toList = .ok t ∧ t.toUtc? = some time ∧
      b.submitTime = some time := by
  obtain ⟨time, hparse, hsubmit⟩ := h
  obtain ⟨t, hread, htime⟩ := Timestamp.exists_of_parse hparse
  exact ⟨t, time, hread, htime, hsubmit⟩

/-- The submit fields of a build depend on the date of its submit time alone. -/
lemma Build.summarize_submittedOn {b : Build} {time : Timestamp} (h : b.submitTime = some time)
    (build alignment : ScanResult) : (b.summarize build alignment).SubmittedOn time.date where
  year := by rw [Build.summarize, h]; rfl
  month := by rw [Build.summarize, h]; rfl
  quarter := ⟨time.date.quarter, by rw [Build.summarize, h]; rfl, time.date.quarter_bounds⟩

/-- **The submit fields are those of the date in UTC.** All three are absent exactly if there is no
submit time. The text of every local time with its offset is read as it, whatever the sign of the
year and of the offset. If a text was accepted, then there is one date with the number of the day in
which the local time lies once its offset is subtracted, and the fields are the year, the month and
the quarter of this date. So two texts for the same instant give the same fields. -/
theorem submit_fields_of_utc_date :
    (∀ (b : Build) (build alignment : ScanResult),
      let s := b.summarize build alignment
      (s.submitYear = none ↔ b.submitTime = none) ∧ (s.submitMonth = none ↔ b.submitTime = none) ∧
        (s.submitQuarter = none ↔ b.submitTime = none)) ∧
      (∀ t : LocalTime, Rfc3339.readLocal (Rfc3339.localText t) = .ok t) ∧
      (∀ (b : Build) (text : String), b.SubmittedAt text →
        ∃ t, Rfc3339.readLocal text.toList = .ok t ∧
          (∃! d : Date, d.dayNumber = t.utcMinutes / 1440) ∧
          ∀ d : Date, d.dayNumber = t.utcMinutes / 1440 →
            ∀ build alignment, (b.summarize build alignment).SubmittedOn d) ∧
      ∀ (b b' : Build) (text text' : String) (t t' : LocalTime),
        b.SubmittedAt text → b'.SubmittedAt text' →
          Rfc3339.readLocal text.toList = .ok t → Rfc3339.readLocal text'.toList = .ok t' →
            t.instant = t'.instant → ∀ build alignment build' alignment',
              let s := b.summarize build alignment
              let s' := b'.summarize build' alignment'
              s.submitYear = s'.submitYear ∧ s.submitMonth = s'.submitMonth ∧
                s.submitQuarter = s'.submitQuarter := by
  refine ⟨fun b build alignment => ?_, Rfc3339.readLocal_localText, fun b text h => ?_,
    fun b b' text text' t t' h h' hread hread' hinstant build alignment build' alignment' => ?_⟩
  · simp [Build.summarize]
  · obtain ⟨t, time, hread, htime, hsubmit⟩ := h.exists_local
    refine ⟨t, hread, ⟨t.utcDate, t.utcDate_dayNumber, fun d => t.eq_utcDate⟩, ?_⟩
    intro d hd build alignment
    obtain rfl := t.eq_utcDate hd
    rw [← (LocalTime.toUtc?_eq_some htime).1]
    exact Build.summarize_submittedOn hsubmit build alignment
  · obtain ⟨u, time, hu, htime, hsubmit⟩ := h.exists_local
    obtain ⟨u', time', hu', htime', hsubmit'⟩ := h'.exists_local
    obtain rfl : u = t := Except.ok.inj (hu.symm.trans hread)
    obtain rfl : u' = t' := Except.ok.inj (hu'.symm.trans hread')
    have htimes : time = time' := LocalTime.eq_of_instant_eq htime htime' hinstant
    simp only [Build.summarize, hsubmit, hsubmit', htimes, and_self]

/-- A leap second in the last minute of the year 9999 in UTC, on a clock where the year 10000 has
begun, and on one where it is still afternoon. -/
theorem submit_fields_of_utc_date_at_turn_of_year :
    let text := "+10000-01-01T00:29:60+00:30"
    let text' := "9999-12-31 14:59:60 -09:00"
    let clock : Clock := ⟨0, 29, 60, 0, by decide, by decide, by decide, by decide⟩
    let t : LocalTime := ⟨⟨10000, 1, 1, by decide, by decide, by decide, by decide⟩, clock, 30,
      by decide, by decide, by decide, by decide⟩
    let d : Date := ⟨9999, 12, 31, by decide, by decide, by decide, by decide⟩
    let time : Timestamp := ⟨d, ⟨23, 59, 60, 0, by decide, by decide, by decide, by decide⟩,
      by decide, by decide⟩
    let b : Build := { id := "1", status := .failed, buildType := "MVN", submitTime := some time }
    let b' : Build := { id := "2", status := .success, buildType := "NPM", submitTime := some time }
    let s := b.summarize unreadLog unreadLog
    let s' := b'.summarize unreadLog unreadLog
    b.SubmittedAt text ∧ b'.SubmittedAt text' ∧ Rfc3339.readLocal text.toList = .ok t ∧
      d.dayNumber = t.utcMinutes / 1440 ∧ s.SubmittedOn d ∧
      (∃ t', Rfc3339.readLocal text'.toList = .ok t' ∧ t'.offset = -540 ∧
        t.instant = t'.instant) ∧
      s.submitYear = s'.submitYear ∧ s.submitMonth = s'.submitMonth ∧
        s.submitQuarter = s'.submitQuarter := by
  intro text text' clock t d time b b' s s'
  let t' : LocalTime := ⟨d, ⟨14, 59, 60, 0, by decide, by decide, by decide, by decide⟩, -540,
    by decide, by decide, by decide, by decide⟩
  have htext : b.SubmittedAt text := ⟨time, by decide +kernel, rfl⟩
  have htext' : b'.SubmittedAt text' := ⟨time, by decide +kernel, rfl⟩
  have hread : Rfc3339.readLocal text.toList = .ok t := by decide +kernel
  have hread' : Rfc3339.readLocal text'.toList = .ok t' := by decide +kernel
  have hday : d.dayNumber = t.utcMinutes / 1440 := by decide +kernel
  have hinstant : t.instant = t'.instant := by decide +kernel
  obtain ⟨-, -, hfields, hsame⟩ := submit_fields_of_utc_date
  obtain ⟨u, hu, -, hsubmitted⟩ := hfields b text htext
  obtain rfl : u = t := Except.ok.inj (hu.symm.trans hread)
  exact ⟨htext, htext', hread, hday, hsubmitted d hday unreadLog unreadLog,
    ⟨t', hread', rfl, hinstant⟩,
    hsame b b' text text' _ t' htext htext' hread hread' hinstant unreadLog unreadLog unreadLog
      unreadLog⟩

end BuildTriage
