import BuildTriage.Proofs.Triage.Catalogue
import BuildTriage.Proofs.Triage.Evidence
import Mathlib.Data.List.Find

/-!
# When the alignment log matters

Several rules ask for the alignment log, but each of them asks first whether the build log holds the
system error of the alignment. Where it does not, the alignment log can be any log at all, and the
verdict and the outcome are the same: `verdict_ignores_alignment`.

That is seen from the syntax of the predicates. `Predicate.guarded` checks that each question for
the alignment log stands beside one for a given signature of the build log, and a predicate that
passes tells no two alignment logs apart without that signature.
-/

namespace BuildTriage

variable {build : ScanResult} {signature : String}

namespace Predicate

mutual

/-- Whether the predicate asks for the alignment log only beside asking whether the build log holds
the signature, as far as its syntax shows. -/
def guarded (signature : String) : Predicate → Bool
  | .build _ => true
  | .alignment _ | .alignmentEmpty => false
  | .all parts => someNeeds signature parts || allGuarded signature parts
  | .any parts => allGuarded signature parts

/-- Whether all of the predicates are guarded by the signature. -/
def allGuarded (signature : String) : List Predicate → Bool
  | [] => true
  | p :: rest => p.guarded signature && allGuarded signature rest

end

lemma allGuarded_eq (signature : String) (parts : List Predicate) :
    allGuarded signature parts = parts.all (guarded signature) := by
  induction parts with
  | nil => rfl
  | cons p rest ih => rw [allGuarded, ih, List.all_cons]

lemma guarded_of_allGuarded {parts : List Predicate} (h : allGuarded signature parts = true) :
    ∀ p ∈ parts, p.guarded signature = true := by
  rwa [allGuarded_eq, List.all_eq_true] at h

/-- Without the signature in the build log, a predicate that is guarded by it holds for all
alignment logs or for none. -/
theorem holds_eq_of_guarded (hbuild : build.contains signature = false) (p : Predicate)
    (hguarded : p.guarded signature = true) (alignment alignment' : ScanResult) :
    p.holds build alignment = p.holds build alignment' := by
  induction p with
  | build other => rfl
  | alignment other | alignmentEmpty =>
    rw [guarded] at hguarded
    cases hguarded
  | all parts ih =>
    rw [guarded, Bool.or_eq_true] at hguarded
    rcases hguarded with hneeds | hall
    · -- One part needs the signature, so the predicate holds for neither log.
      have hfalse (a : ScanResult) : (all parts).holds build a = false := by
        rw [Bool.eq_false_iff, holds]
        intro hholds
        rw [contains_of_someNeeds parts hneeds hholds] at hbuild
        cases hbuild
      rw [hfalse, hfalse]
    · rw [Bool.eq_iff_iff, holds_all_iff, holds_all_iff]
      refine forall₂_congr fun q hq => ?_
      rw [ih q hq (guarded_of_allGuarded hall q hq)]
  | any parts ih =>
    rw [guarded] at hguarded
    rw [Bool.eq_iff_iff, holds_any_iff, holds_any_iff]
    refine exists_congr fun q => and_congr_right fun hq => ?_
    rw [ih q hq (guarded_of_allGuarded hguarded q hq)]

end Predicate

/-- Every rule of the table is guarded by the system error of the alignment. -/
lemma Rule.guarded_of_mem :
    ∀ r ∈ table, r.predicate.guarded Signature.alignmentSystemError = true := by
  decide +kernel

/-- **The alignment log matters only after a system error of the alignment.** If the build log does
not hold that error, then any two alignment logs whatsoever give the same verdict, from the same
rule, and for every reported status the same outcome. -/
theorem verdict_ignores_alignment (build : ScanResult)
    (hbuild : build.contains Signature.alignmentSystemError = false)
    (alignment alignment' : ScanResult) :
    firstRule? build alignment = firstRule? build alignment' ∧
      judge build alignment = judge build alignment' ∧
      ∀ status : BuildStatus,
        Outcome.ofLogs status build alignment = Outcome.ofLogs status build alignment' := by
  have happlies : ∀ r ∈ Rule.table, r.applies build alignment = r.applies build alignment' :=
    fun r hr => r.predicate.holds_eq_of_guarded hbuild (Rule.guarded_of_mem r hr) _ _
  have hrule : firstRule? build alignment = firstRule? build alignment' :=
    List.find?_congr happlies
  have hjudge : judge build alignment = judge build alignment' := by
    rw [judge, judge, hrule]
  refine ⟨hrule, hjudge, fun status => ?_⟩
  cases status with
  | systemError | failed => simp only [Outcome.ofLogs, hjudge]
  | success | noRebuildRequired | rejected | rejectedFailedDependencies | cancelled => rfl

/-- A build whose repository could not be set up, with no alignment log and with one that is full of
evidence. -/
theorem verdict_ignores_alignment_with_evidence :
    let result := ScanResult.ofLines Signature.catalogue 0
    let build := result ["Failed to setup repository or repository group for this build",
      "Indy request failed: Connect to indy"]
    let alignment := result ["Failed to obtain versions", "No such file or directory",
      "mvn --file=pom.xml", "Could not find the groupId in the pom.xml"]
    build.contains Signature.alignmentSystemError = false ∧
      unreadLog.contains Signature.versionsNotObtained = false ∧
      alignment.contains Signature.versionsNotObtained = true ∧
      judge build unreadLog = judge build alignment ∧
      Outcome.ofLogs .failed build unreadLog = Outcome.ofLogs .failed build alignment := by
  intro result build alignment
  have hregistered : ∀ signature ∈ [Signature.alignmentSystemError, Signature.versionsNotObtained],
      .literal signature ∈ Signature.registrations := by decide +kernel
  simp only [List.forall_mem_cons] at hregistered
  obtain ⟨herror, hversions, -⟩ := hregistered
  have hbuild : build.contains Signature.alignmentSystemError = false :=
    (Signature.contains_ofLines herror).trans (by decide +kernel)
  have hunread : unreadLog.contains Signature.versionsNotObtained = false := by
    rw [unreadLog, ScanResult.unread_eq_ofLines]
    exact Signature.contains_ofLines hversions
  have halignment : alignment.contains Signature.versionsNotObtained = true :=
    (Signature.contains_ofLines hversions).trans (by decide +kernel)
  obtain ⟨-, hjudge, houtcome⟩ := verdict_ignores_alignment build hbuild unreadLog alignment
  exact ⟨hbuild, hunread, halignment, hjudge, houtcome .failed⟩

end BuildTriage
