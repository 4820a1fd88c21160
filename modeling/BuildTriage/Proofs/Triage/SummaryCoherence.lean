import BuildTriage.Proofs.Triage.Correction

/-!
# What the fields of a summary have to do with each other

Four fields of a summary come from the verdict on the logs: the two statuses, the group of the
error and its message. They are filled in on separate branches, one for each kind of reported
status, and still they fit together in every summary, as `Summary.Coherent` spells out. A reader of
the archive can rely on it without the logs: a system error always has a group, a failure has one
only where it became a system error, and what cannot be told is never a reason to change a status.

Part of that is how the fields are filled in, and `summarize_of_systemError`, `summarize_of_failed`
and `summarize_of_not_judged` say how for each kind of status. The rest is owed to the table, where
the rules that take system errors back are on the build system, and no rule is on the group that
stands for no rule.
-/

namespace BuildTriage

/-- The statuses, the group and the message of a summary fit together. -/
structure Summary.Coherent (s : Summary) : Prop where
  /-- There is a group exactly if there is a message. -/
  group_isSome_iff : s.errorGroup.isSome ↔ s.errorMessage.isSome
  systemError_group : s.nominalStatus = .systemError → s.errorGroup.isSome
  /-- A system error stays one, unless it is put down to the build system as a failure. -/
  systemError_status : s.nominalStatus = .systemError →
    s.status = .systemError ∨ s.status = .failed ∧ s.errorGroup = some .buildSystem
  /-- A failure has a group exactly if it became a system error. -/
  failed_group_isSome_iff : s.nominalStatus = .failed →
    (s.errorGroup.isSome ↔ s.status = .systemError)
  failed_group : s.nominalStatus = .failed →
    ∀ group, s.errorGroup = some group → group = .repository
  failed_status : s.nominalStatus = .failed → s.status = .failed ∨ s.status = .systemError
  /-- Builds that ended in another way are left alone. -/
  not_judged : s.nominalStatus ≠ .systemError → s.nominalStatus ≠ .failed →
    s.errorGroup = none ∧ s.status = s.nominalStatus
  /-- Where nothing can be told, a system error stays a system error, and the message says so. -/
  undetermined : s.errorGroup = some .undetermined →
    s.nominalStatus = .systemError ∧ s.status = .systemError ∧ s.errorMessage = some "N.D."

variable {build alignment : ScanResult}

/-! ## The fields by the reported status -/

/-- No verdict corrects a status other than a system error or a failure. -/
lemma corrected_of_not_judged {status : BuildStatus} (hsystem : status ≠ .systemError)
    (hfailed : status ≠ .failed) (v : Verdict) : status.corrected v = status := by
  cases status with
  | systemError => exact absurd rfl hsystem
  | failed => exact absurd rfl hfailed
  | success | noRebuildRequired | rejected | rejectedFailedDependencies | cancelled => rfl

section Fields

variable {b : Build} (build alignment)

lemma summarize_of_systemError (h : b.status = .systemError) :
    let s := b.summarize build alignment
    let v := judge build alignment
    s.status = (if v.previouslyMarked then .failed else .systemError) ∧
      s.errorGroup = some v.group ∧ s.errorMessage = some v.message := by
  simp [Build.summarize, ofLogs_status, ofLogs_verdict, BuildStatus.corrected, h]

lemma summarize_of_failed (h : b.status = .failed) :
    let s := b.summarize build alignment
    let v := judge build alignment
    v.group = .repository ∧ s.status = .systemError ∧ s.errorGroup = some .repository ∨
      v.group ≠ .repository ∧ s.status = .failed ∧ s.errorGroup = none := by
  by_cases hgroup : (judge build alignment).group = .repository
  · simp [Build.summarize, ofLogs_status, ofLogs_verdict, BuildStatus.corrected, h, hgroup]
  · simp [Build.summarize, ofLogs_status, ofLogs_verdict, BuildStatus.corrected, h, hgroup]

lemma summarize_of_not_judged (hsystem : b.status ≠ .systemError) (hfailed : b.status ≠ .failed) :
    let s := b.summarize build alignment
    s.status = b.status ∧ s.errorGroup = none := by
  have hcorrected := corrected_of_not_judged hsystem hfailed (judge build alignment)
  simp [Build.summarize, ofLogs_status, ofLogs_verdict, hcorrected, hsystem, hfailed]

/-- A group that is not that of a reported system error is the repository. -/
lemma summarize_group_eq_repository (hsystem : b.status ≠ .systemError) {group : FailureGroup}
    (hsome : (b.summarize build alignment).errorGroup = some group) : group = .repository := by
  by_cases hfailed : b.status = .failed
  · obtain ⟨-, -, hgroup⟩ | ⟨-, -, hgroup⟩ := summarize_of_failed build alignment hfailed
    · rw [hgroup] at hsome
      exact (Option.some.inj hsome).symm
    · rw [hgroup] at hsome
      cases hsome
  · obtain ⟨-, hgroup⟩ := summarize_of_not_judged build alignment hsystem hfailed
    rw [hgroup] at hsome
    cases hsome

end Fields

/-- The one verdict that tells nothing. -/
lemma judge_eq_notDetermined (h : (judge build alignment).group = .undetermined) :
    judge build alignment = .notDetermined := by
  rw [judge_group_eq_undetermined_iff] at h
  rw [judge, h]

/-- **Every summary is coherent.** Whatever the build and whatever its two logs, the summary keeps
the reported status, and its corrected status, its group and its message fit with that one and with
each other. -/
theorem summarize_coherent (b : Build) (build alignment : ScanResult) :
    (b.summarize build alignment).nominalStatus = b.status ∧
      (b.summarize build alignment).Coherent := by
  refine ⟨rfl, ?_⟩
  constructor
  case group_isSome_iff => simp [Build.summarize]
  case systemError_group =>
    intro h
    obtain ⟨-, hgroup, -⟩ := summarize_of_systemError build alignment h
    rw [hgroup, Option.isSome_some]
  case systemError_status =>
    intro h
    obtain ⟨hstatus, hgroup, -⟩ := summarize_of_systemError build alignment h
    rw [hstatus, hgroup]
    by_cases hmarked : (judge build alignment).previouslyMarked = true
    · exact .inr ⟨if_pos hmarked, congrArg some (judge_group_eq_buildSystem hmarked)⟩
    · exact .inl (if_neg hmarked)
  case failed_group_isSome_iff =>
    intro h
    obtain ⟨-, hstatus, hgroup⟩ | ⟨-, hstatus, hgroup⟩ := summarize_of_failed build alignment h
    · simp [hstatus, hgroup]
    · simp [hstatus, hgroup]
  case failed_group =>
    intro (h : b.status = .failed) group hsome
    exact summarize_group_eq_repository build alignment (by rw [h]; decide) hsome
  case failed_status =>
    intro h
    obtain ⟨-, hstatus, -⟩ | ⟨-, hstatus, -⟩ := summarize_of_failed build alignment h
    · exact .inr hstatus
    · exact .inl hstatus
  case not_judged =>
    intro hsystem hfailed
    exact (summarize_of_not_judged build alignment hsystem hfailed).symm
  case undetermined =>
    intro hsome
    by_cases hsystem : b.status = .systemError
    · obtain ⟨hstatus, hgroup, hmessage⟩ := summarize_of_systemError build alignment hsystem
      rw [hgroup] at hsome
      have hjudge := judge_eq_notDetermined (Option.some.inj hsome)
      rw [hstatus, hmessage, hjudge]
      exact ⟨hsystem, rfl, rfl⟩
    · cases summarize_group_eq_repository build alignment hsystem hsome

end BuildTriage
