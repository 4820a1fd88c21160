import BuildTriage.Toml.Scalar

/-!
# Reading TOML documents

A document is a row of statements, one on a line: a key with its value, or the header of a table.
Keys have fewer than eighty parts, and arrays and inline tables are nested less than eighty deep.
-/

namespace BuildTriage.Toml

/-- The limit on the parts of a key and on the nesting of values. -/
def depthLimit : Nat := 80

/-- Whether the character may stand in a key without quotes. -/
def isKeyChar (c : Char) : Bool :=
  c.isAlphanum || c = '_' || c = '-'

/-- Reads one part of a key. -/
def readKeyPart (s : List Char) : Option (String × List Char) :=
  match s with
  | '"' :: s => readBasic [] s
  | '\'' :: s => readLiteral [] s
  | s =>
    let name := s.takeWhile isKeyChar
    if name.isEmpty then none else some (String.ofList name, s.dropWhile isKeyChar)

/-- Reads the parts of a key up to the first that no point follows, at most `fuel` of them. -/
def readKeyParts : (fuel : Nat) → List Char → Option (List String × List Char)
  | 0, _ => none
  | fuel + 1, s => do
    let (name, s) ← readKeyPart (skipBlanks s)
    match skipBlanks s with
    | '.' :: s =>
      let (rest, s) ← readKeyParts fuel s
      return (name :: rest, s)
    | s => return ([name], s)

/-- Reads a key, with the white space around it. -/
def readKey (s : List Char) : Option (List String × List Char) :=
  readKeyParts (depthLimit - 1) s

mutual

/-- Reads a value within arrays and inline tables that leave room for `depth` more. No text takes
more calls than twice its length. -/
def readValue : (fuel depth : Nat) → List Char → Option (Node × List Char)
  | 0, _, _ => none
  | fuel + 1, depth, s =>
    match s with
    | '"' :: _ | '\'' :: _ => (readText s).map fun (t, s) => (.text t, s)
    | '[' :: s =>
      if depth = 0 then none
      else do
        let (items, s) ← readItems fuel (depth - 1) [] s
        return (.array items, s)
    | '\x7b' :: s =>
      if depth = 0 then none
      else
        match skipBlanks s with
        | '\x7d' :: s => some (.table .written [], s)
        | s => do
          let (es, s) ← readEntries fuel (depth - 1) [] s
          return (.table .written es, s)
    | s => readScalar s

/-- Reads the items of an array up to its closing bracket, after those found before, which are held
last first. -/
def readItems : (fuel depth : Nat) → (found : List Node) → List Char →
    Option (List Node × List Char)
  | 0, _, _, _ => none
  | fuel + 1, depth, found, s =>
    match skipLines false s with
    | none => none
    | some (']' :: s) => some (found.reverse, s)
    | some s =>
      match readValue fuel depth s with
      | none => none
      | some (n, s) =>
        match skipLines false s with
        | some (',' :: s) => readItems fuel depth (n :: found) s
        | some (']' :: s) => some ((n :: found).reverse, s)
        | _ => none

/-- Reads the entries of an inline table up to its closing brace, after those found before. -/
def readEntries : (fuel depth : Nat) → (found : Entries) → List Char →
    Option (Entries × List Char)
  | 0, _, _, _ => none
  | fuel + 1, depth, found, s =>
    match readKey s with
    | some (key, '=' :: s) =>
      match readValue fuel depth (skipBlanks s) with
      | none => none
      | some (n, s) =>
        match found.insert key n with
        | none => none
        | some found =>
          match skipBlanks s with
          | ',' :: s => readEntries fuel depth found s
          | '\x7d' :: s => some (found, s)
          | _ => none
    | _ => none

end

/-- A document as far as it is read. -/
structure Reader where
  root : Entries := []
  /-- The path of the table to which the next keys belong. -/
  path : List String := []

namespace Reader

/-- Adds a value to the table that is open. -/
def insert (r : Reader) (key : List String) (n : Node) : Option Reader := do
  let root ← r.root.update r.path fun es => es.insert key n
  return { r with root := root }

/-- Opens a table by its header. -/
def openWith (r : Reader) (change : Entries → String → Option Entries) (path : List String) :
    Option Reader := do
  let name ← path.getLast?
  let root ← r.root.update path.dropLast fun es => change es name
  return ⟨root, path⟩

/-- Reads one statement from its first character on. -/
def statement (r : Reader) (s : List Char) : Option (Reader × List Char) := do
  match s with
  | '#' :: _ => return (r, s)
  | '[' :: '[' :: s =>
    match ← readKey s with
    | (path, ']' :: ']' :: s) => return (← r.openWith Entries.openTables path, s)
    | _ => none
  | '[' :: s =>
    match ← readKey s with
    | (path, ']' :: s) => return (← r.openWith Entries.openTable path, s)
    | _ => none
  | s =>
    match ← readKey s with
    | (key, '=' :: s) =>
      let (n, s) ← readValue (2 * s.length + 2) (depthLimit - 1) (skipBlanks s)
      return (← r.insert key n, s)
    | _ => none

/-- Reads the statements of a document. Each takes at least one character. -/
def statements (r : Reader) : (fuel : Nat) → List Char → Option Entries
  | 0, _ => none
  | fuel + 1, s =>
    match skipBlanks s with
    | [] => some r.root
    | s =>
      match readNewline s with
      | some s => statements r fuel s
      | none =>
        match r.statement s with
        | none => none
        | some (r, s) =>
          match readLineEnd s with
          | some s => statements r fuel s
          | none => none

end Reader

/-- The root table of a document. A byte order mark may stand before it. -/
def parse? (text : String) : Option Entries :=
  let s := text.toList
  let s := if s.head? = some '\ufeff' then s.tail else s
  ({} : Reader).statements (s.length + 1) s

end BuildTriage.Toml
