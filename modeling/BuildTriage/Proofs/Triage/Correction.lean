import BuildTriage.Proofs.Triage.Priority
import BuildTriage.Triage.Summary

/-!
# Correcting a status

A verdict corrects a status in two opposite ways: it takes a system error back if the user caused
it, and makes a system error of a failure that the repository caused. A verdict that did both would
turn the status over each time a build is archived (`forall_corrected_corrected_iff`). No verdict on
logs does: what the user caused is put down to the build system, by whichever rule
(`judge_group_ne_repository`). So archiving a build again leaves the status that it was given the
first time, which is what `status_stable` says.
-/

namespace BuildTriage

variable {build alignment : ScanResult}

/-! ## One verdict -/

/-- Correcting a status by one verdict twice is correcting it once, for all statuses, exactly if the
verdict does not both take back system errors and make them. -/
lemma forall_corrected_corrected_iff (v : Verdict) :
    (∀ status : BuildStatus, (status.corrected v).corrected v = status.corrected v) ↔
      ¬(v.previouslyMarked = true ∧ v.group = .repository) := by
  constructor
  · rintro hstable ⟨hmarked, hgroup⟩
    have hfailed := hstable .failed
    simp [BuildStatus.corrected, hmarked, hgroup] at hfailed
  · intro hverdict status
    cases status with
    | systemError =>
      by_cases hmarked : v.previouslyMarked = true
      · have hgroup : v.group ≠ .repository := fun hgroup => hverdict ⟨hmarked, hgroup⟩
        simp [BuildStatus.corrected, hmarked, hgroup]
      · simp [BuildStatus.corrected, hmarked]
    | failed =>
      by_cases hgroup : v.group = .repository
      · have hmarked : ¬v.previouslyMarked = true := fun hmarked => hverdict ⟨hmarked, hgroup⟩
        simp [BuildStatus.corrected, hmarked, hgroup]
      · simp [BuildStatus.corrected, hgroup]
    | success | noRebuildRequired | rejected | rejectedFailedDependencies | cancelled => rfl

/-- A verdict that takes a system error back is on the build system. -/
lemma judge_group_eq_buildSystem (h : (judge build alignment).previouslyMarked = true) :
    (judge build alignment).group = .buildSystem := by
  obtain ⟨chosen, hchosen, hmarked⟩ := exists_marked_of_judge h
  obtain ⟨hmem, -⟩ := firstRule?_eq_some hchosen
  rw [judge, hchosen]
  exact (Rule.of_previouslyMarked chosen hmem hmarked).1

/-- A verdict that takes a system error back is not on the repository. -/
lemma judge_group_ne_repository (h : (judge build alignment).previouslyMarked = true) :
    (judge build alignment).group ≠ .repository := by
  rw [judge_group_eq_buildSystem h]
  decide

/-! ## The outcome of a build -/

/-- The status of an outcome is the one that the verdict corrects it to, also where the verdict is
neither asked for nor recorded. -/
lemma ofLogs_status (status : BuildStatus) (build alignment : ScanResult) :
    (Outcome.ofLogs status build alignment).status = status.corrected (judge build alignment) := by
  cases status with
  | systemError => rfl
  | failed =>
    by_cases hgroup : (judge build alignment).group = .repository
    · simp [Outcome.ofLogs, hgroup]
    · simp [Outcome.ofLogs, BuildStatus.corrected, hgroup]
  | success | noRebuildRequired | rejected | rejectedFailedDependencies | cancelled => rfl

/-- The verdict is recorded for a system error, and for a failure that the repository caused. -/
lemma ofLogs_verdict (status : BuildStatus) (build alignment : ScanResult) :
    (Outcome.ofLogs status build alignment).verdict
      = if status = .systemError ∨ status = .failed ∧ (judge build alignment).group = .repository
        then some (judge build alignment) else none := by
  cases status with
  | systemError => rfl
  | failed =>
    by_cases hgroup : (judge build alignment).group = .repository
    · simp [Outcome.ofLogs, hgroup]
    · simp [Outcome.ofLogs, hgroup]
  | success | noRebuildRequired | rejected | rejectedFailedDependencies | cancelled => rfl

/-- A verdict corrects a status by its group and by whether it takes system errors back. -/
lemma corrected_congr {v v' : Verdict} (hgroup : v.group = v'.group)
    (hmarked : v.previouslyMarked = v'.previouslyMarked) (status : BuildStatus) :
    status.corrected v = status.corrected v' := by
  cases status with
  | systemError => rw [BuildStatus.corrected, BuildStatus.corrected, hmarked]
  | failed => rw [BuildStatus.corrected, BuildStatus.corrected, hgroup]
  | success | noRebuildRequired | rejected | rejectedFailedDependencies | cancelled => rfl

/-- The status that a build has after it was archived some times, with the same two logs. -/
def BuildStatus.rearchived (build alignment : ScanResult) : Nat → BuildStatus → BuildStatus
  | 0, status => status
  | times + 1, status =>
    rearchived build alignment times (Outcome.ofLogs status build alignment).status

/-- **The correction of a status is stable.** The status of an outcome is the reported status as the
verdict on the logs corrects it, whether the verdict is asked for or not. Under the corrected status
the same logs give the corrected status again. So a build that is archived again, however often, has
the status that it was given the first time. -/
theorem status_stable (status : BuildStatus) (build alignment : ScanResult) :
    let corrected := (Outcome.ofLogs status build alignment).status
    corrected = status.corrected (judge build alignment) ∧
      (Outcome.ofLogs corrected build alignment).status = corrected ∧
      (∀ times, status.rearchived build alignment (times + 1) = corrected) ∧
      ∀ b : Build,
        ({ b with status := corrected }.summarize build alignment).status = corrected := by
  intro corrected
  have hverdict : ¬((judge build alignment).previouslyMarked = true ∧
      (judge build alignment).group = .repository) :=
    fun h => judge_group_ne_repository h.1 h.2
  have htwice : (Outcome.ofLogs corrected build alignment).status = corrected := by
    simp only [corrected, ofLogs_status]
    exact (forall_corrected_corrected_iff _).2 hverdict status
  have hrun : ∀ times, corrected.rearchived build alignment times = corrected := by
    intro times
    induction times with
    | zero => rfl
    | succ times ih => rw [BuildStatus.rearchived, htwice, ih]
  exact ⟨ofLogs_status status build alignment, htwice, hrun, fun _ => htwice⟩

end BuildTriage
