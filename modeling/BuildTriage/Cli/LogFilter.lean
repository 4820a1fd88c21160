import BuildTriage.Regex.Parser
import BuildTriage.Text.Digits
import BuildTriage.Text.WhiteSpace
import BuildTriage.Text.WordCharacter

/-!
# Filters of events

Events tell what the program does while it does it. An event has a level, a target and fields; a
filter decides which events are shown. It is written as directives with commas between them. A
directive is a level, a target, or a target, `=` and a level; before the `=` there may be a span in
brackets, with fields in braces.

A directive speaks of the events whose target begins with its target and which have its fields. Of
several the most particular decides, and the last of those that are equally so. Events stand in no
span, so a directive with a span speaks of none of them.
-/

namespace BuildTriage

/-- How much an event matters; as a level of a filter, up to which level events are shown. -/
inductive LogLevel where
  | error
  | warn
  | info
  | debug
  | trace
deriving DecidableEq, Repr

namespace LogLevel

/-- The number of the level; events that matter less have a greater one. -/
def rank : LogLevel → Nat
  | error => 1
  | warn => 2
  | info => 3
  | debug => 4
  | trace => 5

def name : LogLevel → String
  | error => "ERROR"
  | warn => "WARN"
  | info => "INFO"
  | debug => "DEBUG"
  | trace => "TRACE"

/-- All levels. -/
def all : List LogLevel := [error, warn, info, debug, trace]

end LogLevel

/-- One directive of a filter. -/
structure LogDirective where
  target : Option String := none
  /-- Whether the directive names a span. -/
  inSpan : Bool := false
  fields : List String := []
  /-- Whether the directive asks for the value of a field. -/
  asksValue : Bool := false
  /-- The number of the level up to which events are shown; with 0 none is. -/
  rank : Nat := LogLevel.trace.rank
deriving DecidableEq, Repr

namespace LogDirective

/-- The number of the level that a text stands for: its name in any case, or its number. The empty
text stands for errors. -/
def levelRank? (text : List Char) : Option Nat :=
  let digits := if text.head? = some '+' then text.tail else text
  let number :=
    if !digits.isEmpty && digits.all Char.isDigit && Text.decimalValue digits ≤ 5 then
      some (Text.decimalValue digits)
    else none
  let word := String.ofList (text.map Char.toUpper)
  number <|>
    if text.isEmpty then some LogLevel.error.rank
    else if word = "OFF" then some 0
    else (LogLevel.all.find? fun level => level.name = word).map LogLevel.rank

/-- Drops bytes off the front of a text, unless that would split a character. -/
def dropBytes? : (bytes : Nat) → List Char → Option (List Char)
  | 0, s => some s
  | _, [] => none
  | bytes + 1, c :: s =>
    if c.utf8Size ≤ bytes + 1 then dropBytes? (bytes + 1 - c.utf8Size) s else none

/-- The part of a text between two byte positions. -/
def slice? (s : List Char) (start stop : Nat) : Option (List Char) := do
  let fromStart ← dropBytes? start s
  let fromStop ← dropBytes? stop s
  return fromStart.take (fromStart.length - fromStop.length)

/-- Whether a directive may begin with the character; a bracket apart. -/
def startsDirective (c : Char) : Bool :=
  c = '-' || c = ':' || Text.isWordCharacter c

/-- The directive that is a level or a target. -/
def ofWord (word : List Char) : LogDirective :=
  match levelRank? word with
  | some rank => { rank := rank }
  | none => { target := some (String.ofList word) }

/-- Adds the level that is written after `=`. The empty text stands for all levels. -/
def withLevel (d : LogDirective) (text : List Char) : Option LogDirective :=
  if text.isEmpty then some { d with rank := LogLevel.trace.rank }
  else (levelRank? text).map fun rank => { d with rank := rank }

/-- Adds a field with or without a value. A value is a truth value, a number or a regular
expression. -/
def withField (d : LogDirective) (text : List Char) : Option LogDirective :=
  let name := text.takeWhile (· ≠ '=')
  let value := (text.drop (name.length + 1)).takeWhile (· ≠ '=')
  if text.isEmpty then none
  else if name.length = text.length then
    some { d with fields := d.fields ++ [String.ofList name] }
  else if (Regex.parse? value).isSome then
    some { d with fields := d.fields ++ [String.ofList name], asksValue := true }
  else none

/-- What is being read. Positions are those of the bytes at which a part begins. -/
inductive Phase where
  | start
  | word (start : Nat)
  | span (start : Nat)
  | field (start : Nat)
  | afterFields
  | afterSpan
  | level (start : Nat)
deriving DecidableEq, Repr

/-- Reads one character at a byte position. The parts are cut out of `whole`. -/
def step (whole : List Char) (position : Nat) (c : Char) :
    Phase × LogDirective → Option (Phase × LogDirective)
  | (.start, d) =>
    if c = '[' then some (.span (position + 1), d)
    else if startsDirective c then some (.word position, d)
    else none
  | (.word start, d) =>
    if c = '=' then do
      let target ← slice? whole start position
      return (.level (position + 1), { d with target := some (String.ofList target) })
    else if c = '[' then do
      let target ← slice? whole start position
      return (.span (position + 1), { d with target := some (String.ofList target) })
    else some (.word start, d)
  | (.span start, d) =>
    if c = ']' then some (.afterSpan, { d with inSpan := true })
    else if c = '\x7b' then some (.field (position + 1), { d with inSpan := start < position })
    else some (.span start, d)
  | (.field start, d) =>
    if c = '\x7d' then do
      let text ← slice? whole start position
      return (.afterFields, ← d.withField text)
    else some (.field start, d)
  | (.afterFields, d) => if c = ']' then some (.afterSpan, d) else none
  | (.afterSpan, d) => if c = '=' then some (.level (position + 1), d) else none
  | (.level start, d) => some (.level start, d)

/-- Reads characters from a byte position on. -/
def steps (whole : List Char) (position : Nat) (state : Phase × LogDirective) :
    List Char → Option (Phase × LogDirective)
  | [] => some state
  | c :: rest =>
    match step whole position c state with
    | some state => steps whole (position + c.utf8Size) state rest
    | none => none

/-- Reads a directive. White space around it is passed over to find its parts, but these are cut out
of the text as it stands: white space before the text shifts them, and white space after it belongs
to the last. -/
def parse? (text : List Char) : Option LogDirective := do
  match ← steps text 0 (.start, {}) (Text.trim text) with
  | (.word start, _) => ofWord (← dropBytes? start text)
  | (.level start, d) => d.withLevel (← dropBytes? start text)
  | (.afterSpan, d) => some d
  | _ => none

/-- Whether the directive decides on events outside of spans, given their target and fields. -/
def covers (d : LogDirective) (target : String) (fields : List String) : Bool :=
  !d.inSpan && !d.asksValue
    && (d.target.getD "").toList.isPrefixOf target.toList
    && d.fields.all fun f => fields.contains f

/-- How particular a directive is: one with a longer target is more so than any with a shorter one
or none, and then one with more fields. -/
def isAtLeastAs (d e : LogDirective) : Bool :=
  let size (d : LogDirective) : Nat := d.target.elim 0 fun t => t.utf8ByteSize + 1
  size e < size d || (size e = size d && e.fields.length ≤ d.fields.length)

end LogDirective

/-- A filter of events. -/
structure LogFilter where
  directives : List LogDirective
deriving DecidableEq, Repr

namespace LogFilter

/-- The pieces of a text between commas. -/
def pieces (text : List Char) : List (List Char) :=
  text.splitOn ','

/-- Reads a filter. One without a directive shows errors. -/
def parse? (text : String) : Option LogFilter := do
  let written := (pieces text.toList).filter fun piece => !piece.isEmpty
  let directives ← written.mapM LogDirective.parse?
  return ⟨if directives.isEmpty then [{ rank := LogLevel.error.rank }] else directives⟩

/-- The directive that decides on events with a target and fields. -/
def deciding? (f : LogFilter) (target : String) (fields : List String) : Option LogDirective :=
  (f.directives.filter fun d => d.covers target fields).foldl
    (fun best d =>
      match best with
      | some b => if d.isAtLeastAs b then some d else some b
      | none => some d)
    none

/-- Whether an event is shown. -/
def shows (f : LogFilter) (level : LogLevel) (target : String) (fields : List String) : Bool :=
  match f.deciding? target fields with
  | some d => level.rank ≤ d.rank
  | none => false

end LogFilter

end BuildTriage
