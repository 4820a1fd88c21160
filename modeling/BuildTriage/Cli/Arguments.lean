import BuildTriage.Triage.Summary

/-!
# Command line arguments

A command line names one of three commands. Options stand before or after the name: `--config` and
`--verbose` at either place, all others after it. An option has its value attached by `=` or in the
next argument, which then does not begin with a hyphen unless it is one. No option is given twice at
one place. After `--` nothing is an option.
-/

namespace BuildTriage

/-- What is given at one place, before or after the name of the command. -/
structure Given where
  /-- The options with their values; an option without a value has an empty one. -/
  options : List (String × String) := []
  operands : List String := []
deriving DecidableEq, Repr

namespace Given

/-- The value given for an option. -/
def value? (g : Given) (name : String) : Option String :=
  g.options.lookup name

/-- Whether an option is given. -/
def has (g : Given) (name : String) : Bool :=
  (g.value? name).isSome

/-- Adds an option that is not given yet. -/
def add (g : Given) (name value : String) : Option Given :=
  if g.has name then none else some { g with options := g.options ++ [(name, value)] }

/-- Whether an argument can be the value of the option before it. -/
def isValue (arg : String) : Bool :=
  arg = "-" || arg.toList.head? ≠ some '-'

/-- Reads arguments. `known` are the options, each with whether it has a value. Where a command is
to come, its name ends the reading; the arguments from there on are returned. -/
def read (known : List (String × Bool)) (untilCommand : Bool) (g : Given) :
    List String → Option (Given × List String)
  | [] => some (g, [])
  | arg :: rest =>
    if arg = "--" then
      if untilCommand then none else some ({ g with operands := g.operands ++ rest }, [])
    else if arg = "-v" then
      match g.add "verbose" "" with
      | some g => read known untilCommand g rest
      | none => none
    else if "--".toList.isPrefixOf arg.toList then
      let text := arg.toList.drop 2
      let name := String.ofList (text.takeWhile (· ≠ '='))
      let attached := (text.dropWhile (· ≠ '=')).tail?
      match known.lookup name, attached, rest with
      | some false, none, rest =>
        match g.add name "" with
        | some g => read known untilCommand g rest
        | none => none
      | some true, some value, rest =>
        match g.add name (String.ofList value) with
        | some g => read known untilCommand g rest
        | none => none
      | some true, none, value :: rest =>
        if isValue value then
          match g.add name value with
          | some g => read known untilCommand g rest
          | none => none
        else none
      | _, _, _ => none
    else if !isValue arg then none
    else if untilCommand then some (g, arg :: rest)
    else read known untilCommand { g with operands := g.operands ++ [arg] } rest

end Given

/-- What the command `categorize` is asked. -/
structure Request where
  build : Build
  buildLog : Option String := none
  alignmentLog : Option String := none
  /-- How much of the tails of the logs is kept, if it is not as configured. -/
  maxTail : Option Nat := none
deriving DecidableEq, Repr

/-- What is to be done. -/
inductive Command where
  /-- Scan one log. -/
  | scan (log : String) (maxTail : Option Nat)
  /-- Summarize a build. -/
  | categorize (request : Request)
  /-- List the rules. -/
  | rules
deriving DecidableEq, Repr

/-- A command with the options of all commands. -/
structure Invocation where
  command : Command
  config : Option String := none
  verbose : Bool := false
deriving DecidableEq, Repr

namespace Invocation

/-- The options that stand before and after the name of a command. -/
def commonOptions : List (String × Bool) :=
  [("config", true), ("verbose", false)]

/-- A number of bytes. -/
def size? (text : String) : Option Nat :=
  let digits := if text.toList.head? = some '+' then text.toList.tail else text.toList
  let n := Text.decimalValue digits
  if !digits.isEmpty && digits.all Char.isDigit && n < Nat.pow 2 64 then some n else none

/-- The path of a file. -/
def path? (text : String) : Option String :=
  if text.isEmpty then none else some text

/-- The value of an option that may be left out. -/
def optional {α : Type} (g : Given) (name : String) (read : String → Option α) :
    Option (Option α) :=
  match g.value? name with
  | none => some none
  | some text => (read text).map some

/-- Reads what follows the name `scan`. -/
def scan? (g : Given) : Option Command := do
  let maxTail ← optional g "trim-size" size?
  match g.operands with
  | [log] => return .scan (← path? log) maxTail
  | _ => none

/-- Reads what follows the name `categorize`. -/
def categorize? (g : Given) : Option Command := do
  let status ← (BuildStatus.parse (← g.value? "status")).toOption
  let submitTime ← optional g "submit-time" fun text => (Timestamp.parse text).toOption
  let buildLog ← optional g "build-log" path?
  let alignmentLog ← optional g "alignment-log" path?
  let maxTail ← optional g "trim-size" size?
  let build : Build :=
    { id := (g.value? "id").getD "0"
      status := status
      isTemporary := g.has "temporary"
      buildType := (g.value? "build-type").getD "MVN"
      submitTime := submitTime }
  if g.operands.isEmpty then
    return .categorize
      { build := build, buildLog := buildLog, alignmentLog := alignmentLog, maxTail := maxTail }
  else none

/-- The options of a command, and how what follows its name is read. -/
def command? : String → Option (List (String × Bool) × (Given → Option Command))
  | "scan" => some ([("trim-size", true)], scan?)
  | "categorize" =>
    some
      ([("status", true), ("build-log", true), ("alignment-log", true), ("id", true),
        ("temporary", false), ("build-type", true), ("submit-time", true), ("trim-size", true)],
       categorize?)
  | "rules" => some ([], fun g => if g.operands.isEmpty then some .rules else none)
  | _ => none

/-- Reads a command line. Of two configurations the one after the name of the command counts. -/
def parse? (args : List String) : Option Invocation := do
  let (before, rest) ← Given.read commonOptions true {} args
  let (options, read) ← command? (← rest.head?)
  let (after, _) ← Given.read (commonOptions ++ options) false {} rest.tail
  let configBefore ← optional before "config" path?
  let configAfter ← optional after "config" path?
  return {
    command := ← read after
    config := configAfter <|> configBefore
    verbose := before.has "verbose" || after.has "verbose" }

end Invocation

end BuildTriage
