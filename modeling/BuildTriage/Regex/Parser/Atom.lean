import BuildTriage.Regex.Engine
import BuildTriage.Regex.Parser.Flags
import BuildTriage.Text.DecimalDigit
import BuildTriage.Text.Digits

/-!
# Atoms of a pattern

An atom is a single character, possibly written by an escape, the dot, an assertion, one of the
classes of digits, white space and word characters, or the class of the characters with a property,
which the engine has to know. Escapes that are not listed here are errors: references to groups, and
letters without a meaning.
-/

namespace BuildTriage.Regex

/-- The classes that have a letter of their own. -/
inductive NamedClass where
  | digit
  | space
  | word
deriving DecidableEq, Repr

/-- An atom as written. -/
inductive Atom where
  /-- A character; `asByte` tells that it was written as a byte of two hexadecimal digits. -/
  | literal (c : Char) (asByte : Bool)
  | dot
  | textStart
  | textEnd
  | lineStart
  | lineEnd
  | word (edge : WordEdge)
  | named (cls : NamedClass) (negated : Bool)
  /-- The characters with a property, which is given as it is written. -/
  | property (name : List Char) (negated : Bool)
deriving DecidableEq, Repr

/-- The characters that have a meaning of their own in a pattern. -/
def isMeta (c : Char) : Bool :=
  "\\.+*?()|[]\x7b\x7d^$#&-~".toList.contains c

/-- Whether a backslash before `c` makes it stand for itself: all ASCII characters but letters,
digits and angle brackets. -/
def isEscapable (c : Char) : Bool :=
  isMeta c || (c.toNat < 128 && !c.isAlphanum && c != '<' && c != '>')

/-- Reads `count` hexadecimal digits. -/
def readHexDigits (flags : Flags) : (count : Nat) → (value : Nat) → List Char →
    Option (Nat × List Char)
  | 0, value, rest => some (value, rest)
  | count + 1, value, text =>
    match text with
    | [] => none
    | c :: rest => do
      let d ← Text.hexValue? c
      readHexDigits flags count (value * 16 + d) (flags.skip rest)

/-- Reads hexadecimal digits up to a closing brace; `value` is that of the digits read so far, if
there were any. -/
def readBracedHex (flags : Flags) : (fuel : Nat) → (value : Option Nat) → List Char →
    Option (Nat × List Char)
  | 0, _, _ => none
  | fuel + 1, value, text =>
    match text with
    | [] => none
    | '\x7d' :: rest => value.map fun n => (n, flags.skip rest)
    | c :: rest => do
      let d ← Text.hexValue? c
      readBracedHex flags fuel (some (value.getD 0 * 16 + d)) (flags.skip rest)

/-- Reads the character of an escape whose plain form has `count` digits. -/
def readHex (flags : Flags) (count : Nat) (text : List Char) : Option (Char × List Char) := do
  let (n, rest) ← readCode text
  let c ← Text.charOfCode? n
  return (c, rest)
where
  readCode : List Char → Option (Nat × List Char)
    | '\x7b' :: rest => readBracedHex flags (rest.length + 1) none (flags.skip rest)
    | text => readHexDigits flags count 0 text

/-- Reads the digits of an escape, which blanks may stand before, as an atom. -/
def readHexAtom (flags : Flags) (count : Nat) (text : List Char) : Option (Atom × List Char) :=
  match flags.skip text with
  | [] => none
  | text =>
    let asByte := count == 2 && text.head? != some '\x7b'
    (readHex flags count text).map fun (d, rest) => (Atom.literal d asByte, rest)

/-- Reads letters and hyphens up to the first other character. -/
def readEdgeName (flags : Flags) : (fuel : Nat) → (name : List Char) → List Char →
    List Char × List Char
  | 0, name, text => (name.reverse, text)
  | fuel + 1, name, text =>
    match text with
    | [] => (name.reverse, [])
    | c :: rest =>
      if c.isAlpha || c == '-' then readEdgeName flags fuel (c :: name) (flags.skip rest)
      else (name.reverse, c :: rest)

/-- The edge of a word that has the name. -/
def WordEdge.ofName? : String → Option WordEdge
  | "start" => some .start
  | "end" => some .stop
  | "start-half" => some .startHalf
  | "end-half" => some .stopHalf
  | _ => none

/-- What stands after `\\b`: the name of an edge in braces, or something that does not belong to
it, a counted repetition among others. -/
def readWordEdge (flags : Flags) (text : List Char) : Option (WordEdge × List Char) :=
  match text with
  | '\x7b' :: rest =>
    match flags.skip rest with
    | [] => none
    | c :: inner =>
      if !(c.isAlpha || c == '-') then some (.boundary, text)
      else
        match readEdgeName flags (inner.length + 2) [] (c :: inner) with
        | (name, '\x7d' :: rest) =>
          (WordEdge.ofName? (String.ofList name)).map fun edge => (edge, rest)
        | _ => none
  | text => some (.boundary, text)

/-- Reads the text of a property up to a closing brace. The characters read so far are held last
first. -/
def readPropertyText (flags : Flags) : (fuel : Nat) → (name : List Char) → List Char →
    Option (List Char × List Char)
  | 0, _, _ => none
  | fuel + 1, name, text =>
    match text with
    | [] => none
    | '\x7d' :: rest => some (name.reverse, rest)
    | c :: rest => readPropertyText flags fuel (c :: name) (flags.skip rest)

/-- Reads what follows `\\p`: one character, or a text in braces. -/
def readProperty (flags : Flags) (text : List Char) : Option (List Char × List Char) :=
  match flags.skip text with
  | [] => none
  | '\x7b' :: rest => readPropertyText flags (rest.length + 1) [] (flags.skip rest)
  | '\\' :: _ => none
  | c :: rest => some ([c], rest)

/-- Reads what follows a backslash. -/
def readEscape (flags : Flags) : List Char → Option (Atom × List Char)
  | [] => none
  | c :: rest =>
    let plain (atom : Atom) := some (atom, rest)
    match c with
    | 'x' => readHexAtom flags 2 rest
    | 'u' => readHexAtom flags 4 rest
    | 'U' => readHexAtom flags 8 rest
    | 'p' => (readProperty flags rest).map fun (name, rest) => (.property name false, rest)
    | 'P' => (readProperty flags rest).map fun (name, rest) => (.property name true, rest)
    | 'd' => plain (.named .digit false)
    | 'D' => plain (.named .digit true)
    | 's' => plain (.named .space false)
    | 'S' => plain (.named .space true)
    | 'w' => plain (.named .word false)
    | 'W' => plain (.named .word true)
    | 'a' => plain (.literal '\x07' false)
    | 'f' => plain (.literal '\x0c' false)
    | 't' => plain (.literal '\t' false)
    | 'n' => plain (.literal '\n' false)
    | 'r' => plain (.literal '\r' false)
    | 'v' => plain (.literal '\x0b' false)
    | 'A' => plain .textStart
    | 'z' => plain .textEnd
    | 'b' => (readWordEdge flags rest).map fun (edge, rest) => (.word edge, rest)
    | 'B' => plain (.word .noBoundary)
    | '<' => plain (.word .start)
    | '>' => plain (.word .stop)
    | c => if isEscapable c then plain (.literal c false) else none

/-- Reads one atom outside brackets. -/
def readAtom (flags : Flags) : List Char → Option (Atom × List Char)
  | [] => none
  | '\\' :: rest => readEscape flags rest
  | '.' :: rest => some (.dot, rest)
  | '^' :: rest => some (.lineStart, rest)
  | '$' :: rest => some (.lineEnd, rest)
  | c :: rest => some (.literal c false, rest)

/-- The last code point that a set may hold: without the flag for all scripts sets are sets of
bytes. -/
def Flags.lastCode (flags : Flags) : Nat :=
  if flags.unicode then 0x10FFFF else 0xFF

/-- The set with the characters that differ by case alone, where the flags ask for them. -/
def Flags.fold (flags : Flags) (set : CharSet) : CharSet :=
  if !flags.caseInsensitive then set
  else if flags.unicode then set.foldCase
  else set.foldAsciiCase

/-- The set, or its complement. -/
def Flags.negateIf (flags : Flags) (negated : Bool) (set : CharSet) : CharSet :=
  if negated then set.complement flags.lastCode else set

/-- A set of bytes can be matched in a text only if it keeps to ASCII. -/
def Flags.admits (flags : Flags) (set : CharSet) : Bool :=
  flags.unicode || set.isAscii

/-- The characters of a class with a letter. -/
def NamedClass.set (cls : NamedClass) (ascii : Bool) : CharSet :=
  match cls, ascii with
  | .digit, true => ⟨[(48, 57)]⟩
  | .space, true => ⟨[(9, 13), (32, 32)]⟩
  | .word, true => ⟨[(48, 57), (65, 90), (95, 95), (97, 122)]⟩
  | .digit, false => ⟨Text.decimalDigitRanges⟩
  | .space, false => ⟨Text.whiteSpaceRanges⟩
  | .word, false => ⟨Text.wordCharacterRanges⟩

/-- The set of a named class under the flags. -/
def Flags.named (flags : Flags) (cls : NamedClass) (negated : Bool) : CharSet :=
  flags.negateIf negated (cls.set (!flags.unicode))

/-- The set of a property under the flags, if the engine knows the property. Sets of bytes have
none. -/
def Flags.property? (flags : Flags) (engine : Engine) (name : List Char) (negated : Bool) :
    Option CharSet :=
  if flags.unicode then
    (engine.property? name).map fun set => flags.negateIf negated (flags.fold set)
  else none

/-- Whether a literal can be matched in a text: a byte that is no ASCII character cannot. -/
def Flags.admitsLiteral (flags : Flags) (c : Char) (asByte : Bool) : Bool :=
  flags.unicode || !asByte || c.toNat < 128

/-- The expression of an atom. -/
def Atom.toRegex? (engine : Engine) (flags : Flags) : Atom → Option Regex
  | .literal c asByte =>
    if flags.admitsLiteral c asByte then some (.chars (flags.fold (.single c))) else none
  | .dot =>
    if !flags.unicode then none
    else if flags.dotAll then some (.chars .all)
    else if flags.crlf then some (.chars .notLineBreak)
    else some (.chars .notNewline)
  | .textStart => some (.assert .textStart)
  | .textEnd => some (.assert .textEnd)
  | .lineStart =>
    some (.assert (if flags.multiLine then .lineStart flags.crlf else .textStart))
  | .lineEnd => some (.assert (if flags.multiLine then .lineEnd flags.crlf else .textEnd))
  | .word edge => some (.assert (.word edge (!flags.unicode)))
  | .named cls negated =>
    let set := flags.named cls negated
    if flags.admits set then some (.chars set) else none
  | .property name negated => (flags.property? engine name negated).map .chars

end BuildTriage.Regex
