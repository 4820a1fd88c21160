import BuildTriage.Calendar.Rfc3339
import BuildTriage.Triage.Outcome

/-!
# Summaries of builds

What is known of a build beforehand and what its two logs tell make up the summary that is archived.
The logs of some builds need not be read, and the tails of logs are kept for few builds only.
-/

namespace BuildTriage

/-- What is known of a finished build apart from its logs. -/
structure Build where
  id : String
  status : BuildStatus
  isTemporary : Bool := false
  /-- The kind of build that was configured, such as `MVN`. -/
  buildType : String
  submitTime : Option Timestamp := none
deriving DecidableEq, Repr

/-- How much of the tails of the logs is kept, in bytes: nothing unless the build is temporary and
did not succeed. -/
def Build.tailLimit (b : Build) (max : Nat) : Nat :=
  if b.isTemporary ∧ b.status ≠ .success then max else 0

/-- Whether the logs of builds with this status are read. -/
def BuildStatus.needsLogs : BuildStatus → Bool
  | noRebuildRequired | rejectedFailedDependencies => false
  | _ => true

/-- The kind of build that is reported when another tool is run from within it. -/
def wrappedBuildType : String := "MVN-WRAPPED-NPM"

/-- What is archived of a build. -/
structure Summary where
  buildId : String
  /-- The status that was reported. -/
  nominalStatus : BuildStatus
  /-- The status as the verdict corrects it. -/
  status : BuildStatus
  buildType : String
  isTemporary : Bool
  /-- Whether the sources were changed by the alignment. -/
  autoAlign : Bool
  brewPullActive : Bool
  errorGroup : Option FailureGroup
  errorMessage : Option String
  submitYear : Option Int
  submitMonth : Option Nat
  submitQuarter : Option Nat
  buildTail : String
  alignmentTail : String
deriving DecidableEq, Repr

/-- The summary of a build with its build log and its alignment log. -/
def Build.summarize (b : Build) (build alignment : ScanResult) : Summary :=
  let outcome := Outcome.ofLogs b.status build alignment
  let date := b.submitTime.map Timestamp.date
  { buildId := b.id
    nominalStatus := b.status
    status := outcome.status
    buildType := if build.contains Signature.frontendPlugin then wrappedBuildType else b.buildType
    isTemporary := b.isTemporary
    autoAlign := !alignment.contains Signature.manipulationDisabled
      && !alignment.contains Signature.manipulationDisabledCamelCase
    brewPullActive := alignment.contains Signature.brewPullActive
    errorGroup := outcome.verdict.map Verdict.group
    errorMessage := outcome.verdict.map Verdict.message
    submitYear := date.map Date.year
    submitMonth := date.map Date.month
    submitQuarter := date.map Date.quarter
    buildTail := build.trimmedTail
    alignmentTail := alignment.trimmedTail }

end BuildTriage
