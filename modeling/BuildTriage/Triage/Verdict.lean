/-!
# Verdicts

A verdict says which part of the infrastructure a failure is put down to, and in which words.
-/

namespace BuildTriage

/-- What a failure is put down to. -/
inductive FailureGroup where
  /-- The build system itself. -/
  | buildSystem
  /-- The cloud platform under it. -/
  | platform
  /-- The artifact repository. -/
  | repository
  /-- Nothing in the logs tells. -/
  | undetermined
deriving DecidableEq, Repr

namespace FailureGroup

/-- All groups. -/
def all : List FailureGroup :=
  [buildSystem, platform, repository, undetermined]

/-- The name under which the group is reported. -/
def name : FailureGroup → String
  | buildSystem => "PNC"
  | platform => "PSI"
  | repository => "INDY"
  | undetermined => "ND"

/-- The group with exactly this name. -/
def ofName? (name : String) : Option FailureGroup :=
  all.find? fun group => group.name = name

end FailureGroup

/-- What a failure is put down to, and in which words. -/
structure Verdict where
  group : FailureGroup
  message : String
  /-- Whether the user caused the failure, though it used to be reported as a system error. -/
  previouslyMarked : Bool := false
deriving DecidableEq, Repr

/-- The verdict on logs that tell nothing. -/
def Verdict.notDetermined : Verdict :=
  { group := .undetermined, message := "N.D." }

end BuildTriage
