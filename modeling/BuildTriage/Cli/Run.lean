import BuildTriage.Cli.Arguments
import BuildTriage.Cli.Config
import BuildTriage.Cli.Event
import BuildTriage.Cli.FileTree
import BuildTriage.Text.Utf8
import BuildTriage.Triage.JsonForm

/-!
# Running a command

A run reads the configuration, chooses the filter of events, and carries out the command. It either
fails with a reason, and then prints nothing, or prints one report. The only thing it looks at
besides the command line is its surroundings: what stands under a path, where the configuration lies
by default, and a variable that may hold a filter.
-/

namespace BuildTriage

/-- What a run finds around it. -/
structure Surroundings where
  opened : String → Opened
  /-- Where the configuration is looked for if no other is named. -/
  configPath : Option String := none
  filterVariable : Option String := none

/-- Why a command line could not be carried out. -/
inductive RunError where
  | configUnreadable (path : String) (reason : PathError)
  | configInvalid (path : String)
  | filterInvalid
  | logUnopened (path : String) (reason : PathError)
deriving DecidableEq, Repr

def RunError.message : RunError → String
  | configUnreadable path reason => "Failed to read config file " ++ path ++ ": " ++ reason.message
  | configInvalid path => "Invalid config file " ++ path
  | filterInvalid => "invalid filter directive"
  | logUnopened path reason => "Failed to open log " ++ path ++ ": " ++ reason.message

/-- What a run that succeeds prints, and the events that are shown. -/
structure Report where
  output : String
  events : List Event
deriving DecidableEq, Repr

namespace Opened

/-- The text of a file. -/
def text : Opened → Except PathError String
  | .file bytes =>
    match Text.Utf8.decode? bytes with
    | some chars => .ok (String.ofList chars)
    | none => .error .notUtf8
  | .directory => .error .isDirectory
  | .failed reason => .error reason

/-- The bytes of a log. A directory can be opened, but reading it fails at once. -/
def source : Opened → Except PathError ByteSource
  | .file bytes => .ok (.ofBytes bytes)
  | .directory => .ok { chunks := [], failed := true }
  | .failed reason => .error reason

end Opened

namespace Surroundings

/-- Reads the configuration under a path. -/
def configAt (s : Surroundings) (path : String) : Except RunError Config :=
  match (s.opened path).text with
  | .error reason => .error (.configUnreadable path reason)
  | .ok text =>
    match Config.parse? text with
    | some config => .ok config
    | none => .error (.configInvalid path)

/-- Reads the configuration that is named, or the default one if there is such a file. -/
def config (s : Surroundings) (named : Option String) : Except RunError Config :=
  match named, s.configPath with
  | some path, _ => s.configAt path
  | none, some path =>
    match s.opened path with
    | .file _ => s.configAt path
    | _ => .ok {}
  | none, none => .ok {}

/-- The text of the filter: a fixed one when asked to tell much, that of the variable unless it is
blank, and otherwise the one that is configured. -/
def filterText (s : Surroundings) (verbose : Bool) (config : Config) : String :=
  if verbose then "debug"
  else
    match s.filterVariable with
    | some text => if (Text.trim text.toList).isEmpty then config.logFilter else text
    | none => config.logFilter

/-- Scans the log under a path for all signatures. -/
def scanLog (s : Surroundings) (path : String) (limit : Nat) :
    Except RunError (ScanResult × List Event) :=
  match (s.opened path).source with
  | .error reason => .error (.logUnopened path reason)
  | .ok source =>
    let r := ((signatureScan limit).readFramed source {}).finish
    .ok (r, Event.ofScan source r)

/-- Scans a log that may be left out. -/
def scanOptional (s : Surroundings) (path : Option String) (limit : Nat) :
    Except RunError (ScanResult × List Event) :=
  match path with
  | some path => s.scanLog path limit
  | none => .ok (unreadLog, [])

end Surroundings

/-- The report on one scan. -/
def ScanResult.toJson (r : ScanResult) : Json.Value :=
  .object
    [("empty", .bool r.isBlank),
     ("lines", .integer r.lines),
     ("matches", .array (r.matched.map fun (pattern, captured) =>
        .object [("pattern", .text pattern), ("captured", .text captured)])),
     ("trimmed_tail", .text r.trimmedTail)]

/-- A value as it is printed. -/
def printed (v : Json.Value) : String :=
  v.toText .indented ++ "\n"

/-- A text with blanks before it, or after it, up to a width. -/
def padded (before : Bool) (width : Nat) (text : String) : String :=
  let blanks := String.ofList (List.replicate (width - text.length) ' ')
  if before then blanks ++ text else text ++ blanks

/-- One rule of the table on a line. -/
def ruleLine (position : Nat) (r : Rule) : String :=
  padded true 2 (String.ofList (Text.decimal position)) ++ "  " ++ padded false 4 r.group.name
    ++ "  " ++ r.predicate.describe ++ "  =>  " ++ r.wording.describe
    ++ (if r.previouslyMarked then " (previously marked)" else "") ++ "\n"

namespace Command

/-- The summary of a build and what happened on the way. -/
def summarize (s : Surroundings) (config : Config) (r : Request) :
    Except RunError (Summary × List Event) :=
  if r.build.status.needsLogs then do
    let limit := r.build.tailLimit (r.maxTail.getD config.maxTail)
    let (build, buildEvents) ← s.scanOptional r.buildLog limit
    let (alignment, alignmentEvents) ← s.scanOptional r.alignmentLog limit
    return (r.build.summarize build alignment,
      buildEvents ++ alignmentEvents ++ Event.ofSummary r.build build alignment)
  else
    .ok (r.build.summarize unreadLog unreadLog,
      .notScanned r.build.status :: Event.ofSummary r.build unreadLog unreadLog)

/-- What a command prints and what happened on the way. -/
def execute (s : Surroundings) (config : Config) : Command → Except RunError (String × List Event)
  | .scan log maxTail => do
    let (r, events) ← s.scanLog log (maxTail.getD config.maxTail)
    return (printed r.toJson, events)
  | .categorize request => do
    let (summary, events) ← summarize s config request
    return (printed summary.toJson, events)
  | .rules =>
    .ok (String.join (Rule.table.zipIdx.map fun (r, position) => ruleLine position r), [])

end Command

/-- Carries out an invocation. -/
def Invocation.run (i : Invocation) (s : Surroundings) : Except RunError Report := do
  let config ← s.config i.config
  match LogFilter.parse? (s.filterText i.verbose config) with
  | none => throw .filterInvalid
  | some filter => do
    let (output, events) ← i.command.execute s config
    return { output := output, events := filter.select events }

/-- The paths that an invocation may look at, besides the default configuration. -/
def Invocation.paths (i : Invocation) : List String :=
  i.config.toList ++
    match i.command with
    | .scan log _ => [log]
    | .categorize r => r.buildLog.toList ++ r.alignmentLog.toList
    | .rules => []

/-- How the program ends: its exit code and what it has printed. -/
structure Ending where
  code : UInt32
  output : String := ""
  /-- What goes to the standard error, line by line. -/
  diagnostics : List String := []
deriving DecidableEq, Repr

/-- An event as it is shown. -/
def Event.line (e : Event) : String :=
  e.level.name ++ " " ++ e.target ++ ": " ++ e.message

/-- The program, given its arguments and what it finds around it. -/
def ending (args : List String) (s : Surroundings) : Ending :=
  match Invocation.parse? args with
  | none =>
    { code := 2
      diagnostics :=
        ["usage: buildsift [--config PATH] [--verbose] COMMAND",
         "commands: scan LOG, categorize --status STATUS, rules"] }
  | some i =>
    match i.run s with
    | .error e => { code := 1, diagnostics := ["Error: " ++ e.message] }
    | .ok report =>
      { code := 0, output := report.output, diagnostics := report.events.map Event.line }

end BuildTriage
