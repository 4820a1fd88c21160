import BuildTriage.Log.Pattern
import Std.Data.HashMap

/-!
# Sets of patterns

A pattern set holds patterns in the order of their registration, no two with the same id, and an
index from ids to positions. A registration that fails leaves the set as it was; of several patterns
registered together, those before the first that fails stay registered.
-/

namespace BuildTriage

/-- Patterns in the order of their registration, with an index from ids to positions. -/
structure PatternSet where
  patterns : List Pattern := []
  index : Std.HashMap String Nat := {}

namespace PatternSet

/-- The set without a pattern. -/
def empty : PatternSet := {}

/-- How many patterns are registered. -/
def size (s : PatternSet) : Nat :=
  s.patterns.length

def isEmpty (s : PatternSet) : Bool :=
  s.patterns.isEmpty

/-- The ids in the order of registration. -/
def ids (s : PatternSet) : List String :=
  s.patterns.map Pattern.id

/-- The position of the pattern with the id. -/
def position? (s : PatternSet) (id : String) : Option Nat :=
  s.index[id]?

/-- The pattern at a position. -/
def get? (s : PatternSet) (position : Nat) : Option Pattern :=
  s.patterns[position]?

def contains (s : PatternSet) (id : String) : Bool :=
  s.index.contains id

/-- Registers a pattern whose id is new. -/
def insert (s : PatternSet) (p : Pattern) : Except PatternError PatternSet :=
  if s.index.contains p.id then .error (.duplicate p.id)
  else .ok ⟨s.patterns ++ [p], s.index.insert p.id s.patterns.length⟩

/-- Registers a literal. -/
def insertLiteral (s : PatternSet) (text : String) : Except PatternError PatternSet :=
  s.insert (.literal text)

/-- Registers a regular expression. Whether it is well-formed is decided before whether it is
new. -/
def insertRegex (s : PatternSet) (source : String) : Except PatternError PatternSet := do
  s.insert (← Pattern.ofRegex source)

/-- Registers texts one after the other up to the first failure, which is returned with the set. -/
def insertAll (insertOne : PatternSet → String → Except PatternError PatternSet) (s : PatternSet) :
    List String → PatternSet × Option PatternError
  | [] => (s, none)
  | text :: rest =>
    match insertOne s text with
    | .ok s => insertAll insertOne s rest
    | .error e => (s, some e)

/-- Registers literals up to the first failure. -/
def insertLiterals (s : PatternSet) (texts : List String) : PatternSet × Option PatternError :=
  s.insertAll insertLiteral texts

/-- Registers regular expressions up to the first failure. -/
def insertRegexes (s : PatternSet) (sources : List String) : PatternSet × Option PatternError :=
  s.insertAll insertRegex sources

/-- The set of some literals and then some regular expressions. -/
def ofTexts (literals regexes : List String) : PatternSet × Option PatternError :=
  match empty.insertLiterals literals with
  | (s, some e) => (s, some e)
  | (s, none) => s.insertRegexes regexes

/-- The patterns for a reader of diagnostics. -/
def describe (s : PatternSet) : String :=
  "[" ++ ", ".intercalate (s.patterns.map Pattern.describe) ++ "]"

end PatternSet

end BuildTriage
