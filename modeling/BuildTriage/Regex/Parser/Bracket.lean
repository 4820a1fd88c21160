import BuildTriage.Regex.Parser.Atom

/-!
# Classes in brackets

A class in brackets is the union of characters, ranges, named classes and nested classes, possibly
negated. Inside it `&&`, `--` and `~~` take the intersection, the difference and the symmetric
difference with what follows them, all three binding alike and from left to right. A closing bracket
that stands first is a member, and so are hyphens that stand first or last. The reader keeps the
classes and operators that are open on a stack.
-/

namespace BuildTriage.Regex

/-- The operators between the parts of a class. -/
inductive SetOperator where
  | inter
  | diff
  | symmDiff
deriving DecidableEq, Repr

/-- What the operator makes of two sets. -/
def SetOperator.apply : SetOperator → CharSet → CharSet → CharSet
  | .inter => CharSet.inter
  | .diff => CharSet.diff
  | .symmDiff => CharSet.symmDiff

/-- The classes with a name between `[:` and `:]`. -/
def asciiClass? : String → Option CharSet
  | "alnum" => some ⟨[(48, 57), (65, 90), (97, 122)]⟩
  | "alpha" => some ⟨[(65, 90), (97, 122)]⟩
  | "ascii" => some ⟨[(0, 127)]⟩
  | "blank" => some ⟨[(9, 9), (32, 32)]⟩
  | "cntrl" => some ⟨[(0, 31), (127, 127)]⟩
  | "digit" => some ⟨[(48, 57)]⟩
  | "graph" => some ⟨[(33, 126)]⟩
  | "lower" => some ⟨[(97, 122)]⟩
  | "print" => some ⟨[(32, 126)]⟩
  | "punct" => some ⟨[(33, 47), (58, 64), (91, 96), (123, 126)]⟩
  | "space" => some ⟨[(9, 13), (32, 32)]⟩
  | "upper" => some ⟨[(65, 90)]⟩
  | "word" => some ⟨[(48, 57), (65, 90), (95, 95), (97, 122)]⟩
  | "xdigit" => some ⟨[(48, 57), (65, 70), (97, 102)]⟩
  | _ => none

/-- A set and how deep the classes in its text are nested. -/
structure NestedSet where
  set : CharSet
  depth : Nat
deriving DecidableEq, Repr

/-- The members of a class read so far. -/
structure Members where
  set : CharSet := .none
  count : Nat := 0
  depth : Nat := 0
deriving DecidableEq, Repr

/-- The members with one more. -/
def Members.add (members : Members) (item : NestedSet) : Members :=
  ⟨members.set.union item.set, members.count + 1, max members.depth item.depth⟩

/-- The members as one set; two or more of them are a level of their own. -/
def Members.close (members : Members) : NestedSet :=
  ⟨members.set, if 2 ≤ members.count then members.depth + 1 else members.depth⟩

/-- What is open while a class is read: a class with the members of the one around it, or an
operator with its left side. -/
inductive BracketFrame where
  | opened (around : Members) (negated : Bool)
  | operator (op : SetOperator) (left : NestedSet)
deriving DecidableEq, Repr

/-- Completes an operator that is open with its right side. -/
def closeOperator (flags : Flags) (right : NestedSet) :
    List BracketFrame → NestedSet × List BracketFrame
  | .operator op left :: stack =>
    (⟨op.apply (flags.fold left.set) (flags.fold right.set), max left.depth right.depth + 1⟩, stack)
  | stack => (right, stack)

/-- The name between `[:` and `:]`, whether it is negated, and what follows. -/
def readAsciiClass : List Char → Option (Bool × CharSet × List Char)
  | ':' :: '^' :: rest => named true rest
  | ':' :: rest => named false rest
  | _ => none
where
  named (negated : Bool) (text : List Char) : Option (Bool × CharSet × List Char) :=
    match text.dropWhile (· != ':') with
    | ':' :: ']' :: rest => do
      let set ← asciiClass? (String.ofList (text.takeWhile (· != ':')))
      return (negated, set, rest)
    | _ => none

/-- Opens a class: a caret negates it, and hyphens and then a closing bracket that stand first are
members. -/
def openClass (flags : Flags) (text : List Char) : Option (Bool × Members × List Char) := do
  let (negated, text) ← readCaret (← nonEmpty (flags.skip text))
  let (members, text) ← readHyphens (text.length + 1) {} text
  let (members, text) ← readBracket members text
  return (negated, members, text)
where
  readCaret : List Char → Option (Bool × List Char)
    | '^' :: rest => (nonEmpty (flags.skip rest)).map fun rest => (true, rest)
    | text => some (false, text)
  readHyphens : Nat → Members → List Char → Option (Members × List Char)
    | fuel + 1, members, '-' :: rest => do
      readHyphens fuel (members.add ⟨.single '-', 0⟩) (← nonEmpty (flags.skip rest))
    | _, members, text => some (members, text)
  readBracket (members : Members) : List Char → Option (Members × List Char)
    | ']' :: rest =>
      if members.count = 0 then
        (nonEmpty (flags.skip rest)).map fun rest => (members.add ⟨.single ']', 0⟩, rest)
      else some (members, ']' :: rest)
    | text => some (members, text)

/-- The first character after the one that `text` starts with, blanks and the sign that opens a
comment left out where the flags skip them. -/
def peekPast (flags : Flags) : List Char → Option Char
  | [] => none
  | _ :: rest =>
    if !flags.ignoreSpace then rest.head?
    else (look false rest).or rest.head?
where
  look : Bool → List Char → Option Char
    | _, [] => none
    | inComment, c :: rest =>
      if Text.isWhiteSpace c then look inComment rest
      else if !inComment && c == '#' then look true rest
      else some c

/-- Reads an atom inside brackets, where only a backslash has a meaning. -/
def readMember (flags : Flags) : List Char → Option (Atom × List Char)
  | [] => none
  | '\\' :: rest => readEscape flags rest
  | c :: rest => some (.literal c false, rest)

/-- The character of an atom that stands in a class. -/
def classLiteral? (flags : Flags) : Atom → Option Char
  | .literal c _ => if flags.unicode || c.toNat < 128 then some c else none
  | _ => none

/-- The set of an atom that stands in a class by itself. -/
def memberSet? (engine : Engine) (flags : Flags) : Atom → Option CharSet
  | .named cls negated =>
    let set := flags.named cls negated
    if flags.admits set then some set else none
  | .property name negated => flags.property? engine name negated
  | atom => (classLiteral? flags atom).map CharSet.single

/-- Reads a member of a class: an atom, or a range between two characters. -/
def readRange (engine : Engine) (flags : Flags) (text : List Char) :
    Option (CharSet × List Char) := do
  let (first, text) ← readMember flags text
  readFrom first (flags.skip text)
where
  readFrom (first : Atom) : List Char → Option (CharSet × List Char)
    | [] => none
    | '-' :: rest =>
      let next := peekPast flags ('-' :: rest)
      if next = some ']' ∨ next = some '-' then do
        return (← memberSet? engine flags first, '-' :: rest)
      else do
        let (last, rest) ← readMember flags (flags.skip rest)
        let lo ← classLiteral? flags first
        let hi ← classLiteral? flags last
        if lo.toNat ≤ hi.toNat then return (⟨[(lo.toNat, hi.toNat)]⟩, rest) else none
    | text => do return (← memberSet? engine flags first, text)

/-- The set of a class that is closed: cases folded, then negated. -/
def closeClass? (flags : Flags) (negated : Bool) (set : CharSet) : Option CharSet :=
  let set := flags.negateIf negated (flags.fold set)
  if flags.admits set then some set else none

/-- Reads the rest of a class whose open parts are on the stack. -/
def readClassFrom (engine : Engine) (flags : Flags) : (fuel : Nat) → List BracketFrame → Members →
    List Char → Option (NestedSet × List Char)
  | 0, _, _, _ => none
  | fuel + 1, stack, members, text =>
    let operator (op : SetOperator) (rest : List Char) :=
      let (left, stack) := closeOperator flags members.close stack
      readClassFrom engine flags fuel (.operator op left :: stack) {} rest
    match flags.skip text with
    | [] => none
    | '&' :: '&' :: rest => operator .inter rest
    | '-' :: '-' :: rest => operator .diff rest
    | '~' :: '~' :: rest => operator .symmDiff rest
    | '[' :: rest =>
      match readAsciiClass rest with
      | some (negated, set, rest) => do
        let set ← closeClass? flags negated set
        readClassFrom engine flags fuel stack (members.add ⟨set, 0⟩) rest
      | none => do
        let (negated, inner, rest) ← openClass flags rest
        readClassFrom engine flags fuel (.opened members negated :: stack) inner rest
    | ']' :: rest => do
      let (whole, stack) := closeOperator flags members.close stack
      match stack with
      | .opened around negated :: stack =>
        let set ← closeClass? flags negated whole.set
        let item : NestedSet := ⟨set, whole.depth + 1⟩
        if stack.isEmpty then return (item, rest)
        else readClassFrom engine flags fuel stack (around.add item) rest
      | _ => none
    | text => do
      let (set, rest) ← readRange engine flags text
      readClassFrom engine flags fuel stack (members.add ⟨set, 0⟩) rest

/-- Reads a class from what follows its opening bracket. -/
def readClass (engine : Engine) (flags : Flags) (text : List Char) :
    Option (NestedSet × List Char) := do
  let (negated, members, rest) ← openClass flags text
  readClassFrom engine flags (rest.length + 1) [.opened {} negated] members rest

end BuildTriage.Regex
