import BuildTriage.Log.PatternSet
import BuildTriage.Log.TailWindow

/-!
# Scanning a log

A scan reads a log line by line, once. For each pattern it keeps what the first matching line
reported; it counts the lines, notes whether any was not empty, and keeps the tail. Patterns can be
registered while a scan goes on; they apply to the lines after that.
-/

namespace BuildTriage

/-- A scan of a log, as far as it has come. -/
structure Scan where
  patterns : PatternSet
  /-- For each pattern, in order, what its first matching line reported. -/
  found : List (Option String)
  /-- How many patterns are not found yet. -/
  pending : Nat
  tail : TailWindow
  /-- Whether every line so far was empty. -/
  isBlank : Bool := true
  /-- How many lines were read. -/
  lines : Nat := 0

/-- What a scan reported for the pattern with the id. -/
def capturedIn (patterns : PatternSet) (found : List (Option String)) (id : String) :
    Option String := do
  let position ← patterns.position? id
  let state ← found[position]?
  state

/-- The ids of the patterns found with what they reported, in the order of registration. -/
def matchesIn (patterns : PatternSet) (found : List (Option String)) : List (String × String) :=
  (patterns.patterns.zip found).filterMap fun (p, state) => state.map fun text => (p.id, text)

namespace Scan

/-- The scan that has read nothing. -/
def start (patterns : PatternSet) (limit : Nat) : Scan :=
  { patterns := patterns
    found := patterns.patterns.map fun _ => none
    pending := patterns.size
    tail := .ofLimit limit }

/-- The scan with one more pattern to look for. -/
def withPattern (s : Scan) (patterns : PatternSet) : Scan :=
  { s with patterns := patterns, found := s.found ++ [none], pending := s.pending + 1 }

/-- Registers a literal for the lines to come. -/
def insertLiteral (s : Scan) (text : String) : Except PatternError Scan := do
  return s.withPattern (← s.patterns.insertLiteral text)

/-- Registers a regular expression for the lines to come. -/
def insertRegex (s : Scan) (source : String) : Except PatternError Scan := do
  return s.withPattern (← s.patterns.insertRegex source)

/-- Tests the patterns that are not found yet on a line, counting down those that are pending. -/
def look (line : List Char) : List Pattern → List (Option String) → (pending : Nat) →
    List (Option String) × Nat
  | p :: ps, none :: found, pending =>
    let state := p.find? line
    let (found, pending) := look line ps found (if state.isSome then pending - 1 else pending)
    (state :: found, pending)
  | _ :: ps, some text :: found, pending =>
    let (found, pending) := look line ps found pending
    (some text :: found, pending)
  | _, found, pending => (found, pending)

/-- Reads one line. When no pattern is pending none is tested. -/
def line (s : Scan) (line : String) : Scan :=
  let s := { s with
    lines := s.lines + 1
    isBlank := s.isBlank && line.isEmpty
    tail := s.tail.push line }
  if s.pending = 0 then s
  else
    let (found, pending) := look line.toList s.patterns.patterns s.found s.pending
    { s with found := found, pending := pending }

/-- Reads lines in order. -/
def readLines (s : Scan) (lines : List String) : Scan :=
  lines.foldl line s

/-- Whether the pattern with the id matched a line. -/
def contains (s : Scan) (id : String) : Bool :=
  (capturedIn s.patterns s.found id).isSome

/-- What the first line that matched the pattern reported. -/
def captured? (s : Scan) (id : String) : Option String :=
  capturedIn s.patterns s.found id

/-- The patterns found with what they reported, in the order of registration. -/
def matched (s : Scan) : List (String × String) :=
  matchesIn s.patterns s.found

end Scan

/-- What a finished scan has to say. -/
structure ScanResult where
  patterns : PatternSet
  found : List (Option String)
  isBlank : Bool
  trimmedTail : String
  lines : Nat

/-- Ends a scan. -/
def Scan.finish (s : Scan) : ScanResult :=
  { patterns := s.patterns
    found := s.found
    isBlank := s.isBlank
    trimmedTail := s.tail.text
    lines := s.lines }

namespace ScanResult

/-- The result for a log that was not read. -/
def unread (patterns : PatternSet) : ScanResult :=
  (Scan.start patterns 0).finish

/-- Whether the pattern with the id matched a line. -/
def contains (r : ScanResult) (id : String) : Bool :=
  (capturedIn r.patterns r.found id).isSome

/-- What the first line that matched the pattern reported. -/
def captured? (r : ScanResult) (id : String) : Option String :=
  capturedIn r.patterns r.found id

/-- The patterns found with what they reported, in the order of registration. -/
def matched (r : ScanResult) : List (String × String) :=
  matchesIn r.patterns r.found

end ScanResult

end BuildTriage
