import BuildTriage.Text.UpperCase
import BuildTriage.Text.WhiteSpace

/-!
# How a build ended

The build system reports one of seven statuses by name. A name is read with white space around it,
in any case, and with hyphens for its underscores.
-/

namespace BuildTriage

/-- How a build ended. -/
inductive BuildStatus where
  | success
  | failed
  | noRebuildRequired
  | rejected
  | rejectedFailedDependencies
  | cancelled
  | systemError
deriving DecidableEq, Repr

/-- The text that is no status, as it was given. -/
structure UnknownStatus where
  text : String
deriving DecidableEq, Repr

def UnknownStatus.message (e : UnknownStatus) : String :=
  "unknown build status: " ++ e.text

namespace BuildStatus

/-- All statuses. -/
def all : List BuildStatus :=
  [success, failed, noRebuildRequired, rejected, rejectedFailedDependencies, cancelled, systemError]

/-- The name under which the build system reports the status. -/
def name : BuildStatus → String
  | success => "SUCCESS"
  | failed => "FAILED"
  | noRebuildRequired => "NO_REBUILD_REQUIRED"
  | rejected => "REJECTED"
  | rejectedFailedDependencies => "REJECTED_FAILED_DEPENDENCIES"
  | cancelled => "CANCELLED"
  | systemError => "SYSTEM_ERROR"

/-- The name of the status in diagnostics. -/
def label : BuildStatus → String
  | success => "Success"
  | failed => "Failed"
  | noRebuildRequired => "NoRebuildRequired"
  | rejected => "Rejected"
  | rejectedFailedDependencies => "RejectedFailedDependencies"
  | cancelled => "Cancelled"
  | systemError => "SystemError"

/-- The name that a text spells. -/
def spelledName (text : List Char) : List Char :=
  ((Text.trim text).flatMap Text.upperAscii).map fun c => if c = '-' then '_' else c

/-- The status with exactly this name. -/
def ofName? (name : String) : Option BuildStatus :=
  all.find? fun status => status.name = name

/-- The status that a text names. -/
def parse (text : String) : Except UnknownStatus BuildStatus :=
  match ofName? (String.ofList (spelledName text.toList)) with
  | some status => .ok status
  | none => .error ⟨text⟩

end BuildStatus

end BuildTriage
