import BuildTriage.Triage.Predicate
import BuildTriage.Triage.Verdict

/-!
# Rules

A rule gives a verdict on the builds whose logs fulfil its predicate.
-/

namespace BuildTriage

/-- The words of a verdict. -/
inductive Wording where
  | fixed (text : String)
  /-- What the build log reported for the signature. -/
  | captured (signature : String)
deriving DecidableEq, Repr

namespace Wording

/-- The words for a build log. A signature that the log does not hold stands for itself. -/
def message (build : ScanResult) : Wording → String
  | fixed text => text
  | captured signature => (build.captured? signature).getD signature

/-- The wording for a reader. -/
def describe : Wording → String
  | fixed text => text
  | captured signature => "<captured " ++ Text.quoted signature ++ ">"

end Wording

/-- A verdict on the builds whose logs fulfil a predicate. -/
structure Rule where
  predicate : Predicate
  group : FailureGroup
  wording : Wording
  previouslyMarked : Bool := false

namespace Rule

/-- Whether the rule applies to the two logs. -/
def applies (r : Rule) (build alignment : ScanResult) : Bool :=
  r.predicate.holds build alignment

/-- The verdict that the rule gives. -/
def verdict (r : Rule) (build : ScanResult) : Verdict :=
  { group := r.group
    message := r.wording.message build
    previouslyMarked := r.previouslyMarked }

end Rule

end BuildTriage
