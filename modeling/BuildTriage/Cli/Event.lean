import BuildTriage.Cli.LogFilter
import BuildTriage.Log.Source
import BuildTriage.Triage.Summary

/-!
# Events

What the program tells about its work: the patterns found in a log, the end of each scan, the
verdict and the summary.
-/

namespace BuildTriage

/-- Something that happened while the program ran. -/
inductive Event where
  /-- A pattern was found in a log. -/
  | found (pattern captured : String)
  /-- Reading a log failed; what was read of it counts. -/
  | readFailed (lines : Nat)
  | scanned (lines : Nat)
  /-- The logs of a build were not read. -/
  | notScanned (status : BuildStatus)
  /-- The verdict was given by the rule at a position, or by none. -/
  | judged (rule : Option Nat)
  | summarized (id : String)
deriving DecidableEq, Repr

namespace Event

def level : Event → LogLevel
  | found .. | judged _ | notScanned _ => .debug
  | readFailed _ => .warn
  | scanned _ | summarized _ => .info

/-- The part of the program that tells of the event. -/
def target : Event → String
  | found .. => "buildsift_logs::scanner"
  | readFailed _ | scanned _ => "buildsift_logs::source"
  | notScanned _ => "buildsift::commands"
  | judged _ => "buildsift_triage::categorizer"
  | summarized _ => "buildsift_triage::archive"

/-- The names of what the event carries. -/
def fields : Event → List String
  | found .. => ["message", "pattern", "captured", "line"]
  | readFailed _ => ["message", "error", "lines"]
  | scanned _ => ["message", "lines"]
  | notScanned _ => ["message", "status"]
  | judged (some _) => ["message", "rule", "group"]
  | judged none => ["message"]
  | summarized _ => ["message", "build", "nominal", "status"]

/-- The event in words. -/
def message : Event → String
  | found pattern captured => "found " ++ Text.quoted pattern ++ ": " ++ captured
  | readFailed lines => "reading failed after " ++ String.ofList (Text.decimal lines) ++ " lines"
  | scanned lines => "scanned " ++ String.ofList (Text.decimal lines) ++ " lines"
  | notScanned status => "logs are not read for status " ++ status.name
  | judged (some rule) => "rule " ++ String.ofList (Text.decimal rule) ++ " applies"
  | judged none => "no rule applies"
  | summarized id => "summarized build " ++ id

/-- The events of the scan of a source. -/
def ofScan (source : ByteSource) (r : ScanResult) : List Event :=
  r.matched.map (fun (pattern, captured) => found pattern captured)
    ++ (if source.failed then [readFailed r.lines] else []) ++ [scanned r.lines]

/-- The events of summarizing a build. -/
def ofSummary (b : Build) (build alignment : ScanResult) : List Event :=
  (if b.status.isJudged then
    [judged (Rule.table.findIdx? fun r => r.applies build alignment)]
  else []) ++ [summarized b.id]

end Event

/-- The events that a filter shows. -/
def LogFilter.select (f : LogFilter) (events : List Event) : List Event :=
  events.filter fun e => f.shows e.level e.target e.fields

end BuildTriage
