import BuildTriage.Regex.Match
import BuildTriage.Regex.Parser
import BuildTriage.Text.Quoted
import BuildTriage.Text.Search

/-!
# Patterns of lines

A pattern is a literal, which a line matches by holding it, or a regular expression `p`, which a
line matches by matching `^.*(p).*$`; the text reported is then what the group matched. Since the
first star is greedy, that is the match of `p` with the last possible start. A pattern is known by
its own text, which is its id.
-/

namespace BuildTriage

/-- What a pattern's text means. -/
inductive PatternKind where
  | literal
  | regex
deriving DecidableEq, Repr

def PatternKind.name : PatternKind → String
  | .literal => "Literal"
  | .regex => "Regex"

/-- Why a pattern could not be registered. -/
inductive PatternError where
  | invalidRegex (pattern : String)
  | duplicate (id : String)
deriving DecidableEq, Repr

/-- What a user is told, with the engine's own diagnosis of an expression after a colon where one is
given. -/
def PatternError.message (e : PatternError) (diagnosis : Option String := none) : String :=
  match e with
  | .invalidRegex pattern =>
    "invalid regex pattern " ++ Text.quoted pattern ++ (diagnosis.elim "" fun text => ": " ++ text)
  | .duplicate id => "pattern registered twice: " ++ Text.quoted id

/-- A pattern of lines. -/
inductive Pattern where
  | literal (text : String)
  /-- `probe` is the expression itself, `whole` the one for a whole line around it. -/
  | regex (source : String) (probe whole : Regex)
deriving DecidableEq, Repr

namespace Pattern

/-- The pattern of a whole line around the pattern `p`. -/
def wholeLine (p : List Char) : List Char :=
  "^.*(".toList ++ p ++ ").*$".toList

/-- The regular expression with the given text. -/
def ofRegex (source : String) (engine : Regex.Engine := .standard) :
    Except PatternError Pattern :=
  match Regex.parse? source.toList engine, Regex.parse? (wholeLine source.toList) engine with
  | some probe, some whole => .ok (.regex source probe whole)
  | _, _ => .error (.invalidRegex source)

/-- The text of the pattern, by which it is known. -/
def id : Pattern → String
  | literal text => text
  | regex source .. => source

def kind : Pattern → PatternKind
  | literal _ => .literal
  | regex .. => .regex

/-- The part of a text between two positions. -/
def slice (text : List Char) (start stop : Nat) : String :=
  String.ofList ((text.drop start).take (stop - start))

/-- What an expression for a whole line captured as its first group. -/
def capture? (whole : Regex) (line : List Char) : Option String := do
  let m ← whole.match? line
  let (start, stop) ← m.group? 1
  return slice line start stop

/-- What the pattern reports for a line that matches it. The expression for the whole line decides;
the expression itself only sorts out lines that it cannot match. -/
def find? (p : Pattern) (line : List Char) : Option String :=
  match p with
  | literal text => if Text.occursIn text.toList line then some text else none
  | regex _ probe whole => if probe.isMatch line then capture? whole line else none

/-- The pattern's kind and id for a reader of diagnostics. -/
def describe (p : Pattern) : String :=
  "LinePattern \x7b kind: " ++ p.kind.name ++ ", pattern: " ++ Text.quoted p.id ++ " \x7d"

end Pattern

end BuildTriage
