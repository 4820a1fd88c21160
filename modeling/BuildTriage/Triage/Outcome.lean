import BuildTriage.Triage.RuleTable
import BuildTriage.Triage.Status

/-!
# The outcome of a build

The first rule that applies to the two logs of a build gives the verdict on it. The verdict may
correct the status that was reported: a system error that the user caused is a plain failure, and a
plain failure that the repository caused is a system error.
-/

namespace BuildTriage

/-- The first rule that applies to the logs. -/
def firstRule? (build alignment : ScanResult) : Option Rule :=
  Rule.table.find? fun r => r.applies build alignment

/-- The positions in the table of all rules that apply to the logs. -/
def applicableRules (build alignment : ScanResult) : List Nat :=
  (List.range Rule.table.length).filter fun i =>
    (Rule.table[i]?).any fun r => r.applies build alignment

/-- The verdict on a build by its logs. -/
def judge (build alignment : ScanResult) : Verdict :=
  match firstRule? build alignment with
  | some r => r.verdict build
  | none => .notDetermined

/-- The status of a build on which there is a verdict. -/
def BuildStatus.corrected (status : BuildStatus) (v : Verdict) : BuildStatus :=
  match status with
  | .systemError => if v.previouslyMarked then .failed else .systemError
  | .failed => if v.group = .repository then .systemError else .failed
  | status => status

/-- What became of a build. -/
structure Outcome where
  status : BuildStatus
  /-- The verdict, if one is recorded. -/
  verdict : Option Verdict
deriving DecidableEq, Repr

/-- Whether the verdict on a build with the status is asked for at all. -/
def BuildStatus.isJudged (status : BuildStatus) : Bool :=
  status = .systemError || status = .failed

/-- What became of a build with the reported status. The verdict on a system error is always
recorded, the one on a failure only if it corrects the status, and on other builds there is none. -/
def Outcome.ofLogs (status : BuildStatus) (build alignment : ScanResult) : Outcome :=
  match status with
  | .systemError =>
    let v := judge build alignment
    { status := status.corrected v, verdict := some v }
  | .failed =>
    let v := judge build alignment
    if v.group = .repository then { status := status.corrected v, verdict := some v }
    else { status := status, verdict := none }
  | status => { status := status, verdict := none }

end BuildTriage
