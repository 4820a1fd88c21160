import BuildTriage.Regex.Parser.Bracket
import BuildTriage.Text.Letter

/-!
# Reading a pattern

A pattern is read from left to right. What has been read of the innermost open group is held as the
branches before the last bar and the items after it; the groups around it wait on a stack, each with
the flags to go back to. A repetition sign applies to the last item, and there has to be one.

Patterns whose parts are nested more than 250 levels deep are refused, and so are those that the
engine finds too large.
-/

namespace BuildTriage.Regex

/-- Part of a pattern that has been read. -/
structure Item where
  regex : Regex
  /-- How deep the parts are nested. -/
  depth : Nat := 0
  /-- Whether a repetition sign may follow: not after flags. -/
  repeatable : Bool := true
deriving DecidableEq, Repr

/-- The items one after the other, of which the last one read comes first. -/
def Item.concat : List Item → Item
  | [] => { regex := .empty }
  | [item] => { item with repeatable := true }
  | items =>
    { regex := seqAll (items.reverse.map (·.regex))
      depth := (items.map (·.depth)).foldl max 0 + 1 }

/-- What has been read inside a group, the latest first: branches that a bar has ended, and the
items after the last bar. -/
structure Level where
  branches : List Item := []
  items : List Item := []
deriving DecidableEq, Repr

/-- The level as a choice between its branches. -/
def Level.close (level : Level) : Item :=
  match level.branches with
  | [] => Item.concat level.items
  | branches =>
    let all := Item.concat level.items :: branches
    { regex := altAll (all.reverse.map (·.regex))
      depth := (all.map (·.depth)).foldl max 0 + 1 }

/-- A group that is open: what was read before it, its number if it captures, and the flags to go
back to after it. -/
structure OpenGroup where
  around : Level
  capture : Option Nat
  flags : Flags
deriving DecidableEq, Repr

/-- The state of the reader. -/
structure ParseState where
  flags : Flags := {}
  level : Level := {}
  stack : List OpenGroup := []
  /-- How many capturing groups were opened. -/
  groups : Nat := 0
  names : List (List Char) := []
deriving DecidableEq, Repr

namespace ParseState

/-- The state after one more item. -/
def push (s : ParseState) (item : Item) : ParseState :=
  { s with level := { s.level with items := item :: s.level.items } }

/-- The state inside a new group. -/
def enter (s : ParseState) (capture : Option Nat) (flags : Flags) : ParseState :=
  { s with
    flags := flags
    level := {}
    stack := ⟨s.level, capture, s.flags⟩ :: s.stack }

/-- The state inside a new capturing group, which gets the next number. -/
def enterCapture (s : ParseState) : ParseState :=
  { s.enter (some (s.groups + 1)) s.flags with groups := s.groups + 1 }

/-- The state after the innermost group, if one is open. -/
def leave (s : ParseState) : Option ParseState :=
  match s.stack with
  | [] => none
  | g :: stack =>
    let inner := s.level.close
    let regex := match g.capture with
      | some k => group k inner.regex
      | none => inner.regex
    some ({ s with flags := g.flags, level := g.around, stack := stack }.push
      { regex := regex, depth := inner.depth + 1 })

/-- The state after a bar. -/
def bar (s : ParseState) : ParseState :=
  { s with level := { branches := Item.concat s.level.items :: s.level.branches, items := [] } }

/-- The state in which the last item is repeated, if there is one that can be. -/
def repeatLast (s : ParseState) (min : Nat) (max : Option Nat) (greedy : Bool) :
    Option ParseState :=
  match s.level.items with
  | item :: items =>
    if item.repeatable then
      some { s with level := { s.level with items :=
        { regex := item.regex.repeated min max (greedy != s.flags.swapGreed)
          depth := item.depth + 1 } :: items } }
    else none
  | [] => none

end ParseState

/-- Whether `c` may stand in the name of a group, as its first character or a later one. -/
def isNameChar (first : Bool) (c : Char) : Bool :=
  if first then c == '_' || Text.isAlphabetic c
  else c == '_' || c == '.' || c == '[' || c == ']' || Text.isAlphanumeric c

/-- Reads the name of a group up to its closing angle bracket. -/
def readName (first : Bool) (name : List Char) : List Char → Option (List Char × List Char)
  | [] => none
  | '>' :: rest => if name.isEmpty then none else some (name.reverse, rest)
  | c :: rest => if isNameChar first c then readName false (c :: name) rest else none

/-- Reads what follows an opening parenthesis. -/
def readGroup (s : ParseState) (text : List Char) : Option (ParseState × List Char) :=
  match s.flags.skip text with
  | '?' :: rest => special rest
  | text => some (s.enterCapture, text)
where
  special : List Char → Option (ParseState × List Char)
    | 'P' :: '<' :: rest => named rest
    | '=' :: _ => none
    | '!' :: _ => none
    | '<' :: '=' :: _ => none
    | '<' :: '!' :: _ => none
    | '<' :: rest => named rest
    | rest => flagged rest
  named (rest : List Char) : Option (ParseState × List Char) := do
    let (name, rest) ← readName true [] rest
    if s.names.contains name then none
    else return ({ s.enterCapture with names := name :: s.names }, rest)
  flagged (rest : List Char) : Option (ParseState × List Char) := do
    let (items, stop, rest) ← readFlags [] rest
    let flags := s.flags.apply items
    if stop = ':' then return (s.enter none flags, rest)
    else if items.isEmpty then none
    else return ({ s with flags := flags }.push { regex := .empty, repeatable := false }, rest)

/-- Reads a decimal number, which blanks may surround. -/
def readCount (flags : Flags) (text : List Char) : List Char × List Char :=
  let (digits, rest) := go (text.length + 1) [] (text.dropWhile Text.isWhiteSpace)
  (digits, trail (rest.length + 1) rest)
where
  go : Nat → List Char → List Char → List Char × List Char
    | fuel + 1, digits, c :: rest =>
      if c.isDigit then go fuel (c :: digits) (flags.skip rest) else (digits.reverse, c :: rest)
    | _, digits, text => (digits.reverse, text)
  trail : Nat → List Char → List Char
    | fuel + 1, c :: rest => if Text.isWhiteSpace c then trail fuel (flags.skip rest) else c :: rest
    | _, text => text

/-- The value of decimal digits, if there are any and it is below 2³². -/
def countValue? (digits : List Char) : Option Nat :=
  let n := Text.decimalValue digits
  if digits.isEmpty ∨ Nat.pow 2 32 ≤ n then none else some n

/-- Reads what follows an opening brace: the bounds of a repetition. -/
def readBounds (flags : Flags) (text : List Char) : Option (Nat × Option Nat × List Char) := do
  let (digits, text) := readCount flags (← nonEmpty (flags.skip text))
  match text with
  | ',' :: rest => readMax digits (← nonEmpty (flags.skip rest))
  | '\x7d' :: rest =>
    let n ← countValue? digits
    return (n, some n, rest)
  | _ => none
where
  readMax (minDigits : List Char) : List Char → Option (Nat × Option Nat × List Char)
    | '\x7d' :: rest => do return (← countValue? minDigits, none, rest)
    | text => do
      let min ← countValue? minDigits
      let (digits, text) := readCount flags text
      let max ← countValue? digits
      match text with
      | '\x7d' :: rest => if min ≤ max then return (min, some max, rest) else none
      | _ => none

/-- A question mark after a repetition sign makes it lazy. -/
def readLazy : List Char → Bool × List Char
  | '?' :: rest => (false, rest)
  | text => (true, text)

/-- Reads the rest of a pattern. -/
def parseFrom (engine : Engine) : (fuel : Nat) → ParseState → List Char → Option ParseState
  | 0, _, _ => none
  | fuel + 1, s, text =>
    let repetition (min : Nat) (max : Option Nat) (text : List Char) : Option ParseState := do
      let (greedy, rest) := readLazy text
      parseFrom engine fuel (← s.repeatLast min max greedy) rest
    match s.flags.skip text with
    | [] => if s.stack.isEmpty then some s else none
    | '(' :: rest => do
      let (s, rest) ← readGroup s rest
      parseFrom engine fuel s rest
    | ')' :: rest => do parseFrom engine fuel (← s.leave) rest
    | '|' :: rest => parseFrom engine fuel s.bar rest
    | '[' :: rest => do
      let (item, rest) ← readClass engine s.flags rest
      parseFrom engine fuel (s.push { regex := .chars item.set, depth := item.depth }) rest
    | '?' :: rest => repetition 0 (some 1) rest
    | '*' :: rest => repetition 0 none rest
    | '+' :: rest => repetition 1 none rest
    | '\x7b' :: rest => do
      let (min, max, rest) ← readBounds s.flags rest
      repetition min max (s.flags.skip rest)
    | text => do
      let (atom, rest) ← readAtom s.flags text
      parseFrom engine fuel (s.push { regex := ← atom.toRegex? engine s.flags }) rest

/-- The deepest nesting that is accepted. -/
def maxDepth : Nat := 250

/-- The expression that a pattern denotes, if it is well-formed and the engine does not find it too
large. -/
def parse? (pattern : List Char) (engine : Engine := .standard) : Option Regex := do
  let s ← parseFrom engine (pattern.length + 1) {} pattern
  let whole := s.level.close
  if whole.depth ≤ maxDepth ∧ engine.fits whole.regex then some whole.regex else none

end BuildTriage.Regex
