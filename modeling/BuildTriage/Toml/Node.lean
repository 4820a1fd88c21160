/-!
# TOML documents

A document is a tree of tables. How a table came about decides what may be added to it later: a
table that was opened by a header or written inline is complete, while one that only stands on the
way to another can still be opened or extended.
-/

namespace BuildTriage.Toml

/-- How a table came about. -/
inductive Origin where
  /-- Opened by a header of its own. -/
  | header
  /-- On the way to a table that was opened by a header. -/
  | implied
  /-- On the way to a dotted key. -/
  | dotted
  /-- Written between braces as a value. -/
  | written
deriving DecidableEq, Repr

/-- A part of a document. -/
inductive Node where
  | text (s : String)
  | integer (i : Int)
  | boolean (b : Bool)
  /-- A number that is no integer, as it is written. -/
  | decimal (literal : String)
  /-- A date, a time or both, as it is written. -/
  | time (literal : String)
  | array (items : List Node)
  | table (origin : Origin) (entries : List (String × Node))
  /-- Tables that were opened by headers in double brackets, the last first. -/
  | tables (items : List (List (String × Node)))

/-- The contents of a table, in the order in which they were added. -/
abbrev Entries := List (String × Node)

namespace Entries

/-- The entries with another value for a key that is there. -/
def replace (es : Entries) (key : String) (n : Node) : Entries :=
  es.map fun e => if e.1 = key then (key, n) else e

/-- Adds a value under a dotted key, given by its parts. The tables on the way must be open to such
keys, and the last of them must have come about by one. -/
def insert (es : Entries) (key : List String) (n : Node) : Option Entries :=
  match key with
  | [] => none
  | [name] => if (es.lookup name).isSome then none else some (es ++ [(name, n)])
  | name :: rest =>
    match es.lookup name with
    | none => do
      let sub ← insert [] rest n
      return es ++ [(name, .table .dotted sub)]
    | some (.table .dotted sub) => do
      let sub ← insert sub rest n
      return es.replace name (.table .dotted sub)
    | some (.table .implied sub) =>
      if rest.length = 1 then none
      else do
        let sub ← insert sub rest n
        return es.replace name (.table .implied sub)
    | some (.tables (last :: before)) =>
      if rest.length = 1 then none
      else do
        let last ← insert last rest n
        return es.replace name (.tables (last :: before))
    | some _ => none

/-- Changes the table at a path of headers. Tables missing on the way are implied, and of several
tables under one name the last is meant. -/
def update (es : Entries) (path : List String) (change : Entries → Option Entries) :
    Option Entries :=
  match path with
  | [] => change es
  | name :: rest =>
    match es.lookup name with
    | none => do
      let sub ← update [] rest change
      return es ++ [(name, .table .implied sub)]
    | some (.table .written _) => none
    | some (.table origin sub) => do
      let sub ← update sub rest change
      return es.replace name (.table origin sub)
    | some (.tables (last :: before)) => do
      let last ← update last rest change
      return es.replace name (.tables (last :: before))
    | some _ => none

/-- Opens a table by its header. -/
def openTable (es : Entries) (name : String) : Option Entries :=
  match es.lookup name with
  | none => some (es ++ [(name, .table .header [])])
  | some (.table .implied sub) => some (es.replace name (.table .header sub))
  | some _ => none

/-- Opens one more table under a name by its header in double brackets. -/
def openTables (es : Entries) (name : String) : Option Entries :=
  match es.lookup name with
  | none => some (es ++ [(name, .tables [[]])])
  | some (.tables items) => some (es.replace name (.tables ([] :: items)))
  | some _ => none

end Entries

end BuildTriage.Toml
