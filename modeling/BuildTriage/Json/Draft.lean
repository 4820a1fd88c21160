import BuildTriage.Json.Numeral

/-!
# JSON text as far as it is well-formed

A JSON text is read into a draft, a tree that holds everything up to the first fault of the text. A
fault stands in the tree as `broken`, and nothing follows it. So whoever reads the tree from left to
right learns what the text says before its fault, and then of the fault.

Numbers are kept as they are written. A text with a surrogate that has no partner is marked as such,
since it is a fault only for those who want to know its characters. The key of a member is any
value, for the same reason.
-/

namespace BuildTriage.Json

/-- A JSON text up to its first fault. -/
inductive Draft where
  | null
  | bool (b : Bool)
  | number (n : Numeral)
  /-- A text; without its characters if it holds a surrogate without a partner. -/
  | text (content : Option String)
  | array (items : List Draft)
  | object (members : List (Draft × Draft))
  | broken

/-- One part of a text between quotes: a character, or the 16-bit code of an escape. -/
inductive TextUnit where
  | char (c : Char)
  | code (n : Nat)
deriving DecidableEq, Repr

namespace Draft

/-- Whether the character is white space between the parts of a text. -/
def isBlank (c : Char) : Bool :=
  c = ' ' || c = '\n' || c = '\t' || c = '\r'

/-- The text without white space at its start. -/
def skipBlanks (s : List Char) : List Char :=
  s.dropWhile isBlank

/-- The value of four hexadecimal digits. -/
def hexCode? (a b c d : Char) : Option Nat :=
  Text.valueIn? 16 [a, b, c, d]

/-- The character for which a letter after a backslash stands. -/
def escaped? (c : Char) : Option Char :=
  match c with
  | '"' => some '"'
  | '\\' => some '\\'
  | '/' => some '/'
  | 'b' => some '\x08'
  | 'f' => some '\x0c'
  | 'n' => some '\n'
  | 'r' => some '\r'
  | 't' => some '\t'
  | _ => none

/-- Reads the rest of a text up to its closing quote, after the units found before, which are held
last first. -/
def readUnits (found : List TextUnit) : List Char → Option (List TextUnit × List Char)
  | [] => none
  | '"' :: rest => some (found.reverse, rest)
  | '\\' :: 'u' :: a :: b :: c :: d :: rest =>
    match hexCode? a b c d with
    | some n => readUnits (.code n :: found) rest
    | none => none
  | '\\' :: c :: rest =>
    match escaped? c with
    | some c => readUnits (.char c :: found) rest
    | none => none
  | c :: rest =>
    if c.toNat < 0x20 ∨ c = '\\' then none else readUnits (.char c :: found) rest

/-- The characters of the units after those found before, which are held last first. Two surrogates
make up one character; there is none for a surrogate alone. -/
def joinUnits (found : List Char) : List TextUnit → Option (List Char)
  | [] => some found.reverse
  | .char c :: rest => joinUnits (c :: found) rest
  | .code high :: .code low :: rest =>
    if 0xD800 ≤ high ∧ high < 0xDC00 ∧ 0xDC00 ≤ low ∧ low < 0xE000 then
      joinUnits (Char.ofNat (0x10000 + (high - 0xD800) * 0x400 + (low - 0xDC00)) :: found) rest
    else if 0xD800 ≤ high ∧ high < 0xE000 then none
    else joinUnits (Char.ofNat high :: found) (.code low :: rest)
  | .code n :: rest =>
    if 0xD800 ≤ n ∧ n < 0xE000 then none else joinUnits (Char.ofNat n :: found) rest

/-- Reads one or more digits. -/
def readDigits (s : List Char) : Option (List Char × List Char) :=
  let (digits, rest) := Text.spanDigits s
  if digits.isEmpty then none else some (digits, rest)

/-- Reads the digits before the point: a zero stands alone. -/
def readWhole (s : List Char) : Option (List Char × List Char) := do
  let (digits, rest) ← readDigits s
  if 1 < digits.length ∧ digits.head? = some '0' then none else some (digits, rest)

/-- Reads a fraction, if one follows. -/
def readFraction : List Char → Option (Option (List Char) × List Char)
  | '.' :: s => do
    let (digits, rest) ← readDigits s
    return (some digits, rest)
  | s => some (none, s)

/-- Reads an exponent, if one follows. -/
def readExponent (s : List Char) : Option (Option (Bool × List Char) × List Char) :=
  match s with
  | c :: rest =>
    if c = 'e' ∨ c = 'E' then do
      let (negative, rest) :=
        match rest with
        | '-' :: rest => (true, rest)
        | '+' :: rest => (false, rest)
        | rest => (false, rest)
      let (digits, rest) ← readDigits rest
      return (some (negative, digits), rest)
    else some (none, s)
  | [] => some (none, [])

/-- Reads a number after its sign. -/
def readNumber (negative : Bool) (s : List Char) : Option (Draft × List Char) := do
  let (whole, s) ← readWhole s
  let (fraction, s) ← readFraction s
  let (exponent, s) ← readExponent s
  return (.number ⟨negative, whole, fraction, exponent⟩, s)

/-- Reads a word that stands for a value. -/
def readWord (word : String) (v : Draft) (s : List Char) : Option (Draft × List Char) :=
  if word.toList.isPrefixOf s then some (v, s.drop word.length) else none

/-- Reads a value that is neither an array nor an object. -/
def readScalar (s : List Char) : Option (Draft × List Char) :=
  match s with
  | [] => none
  | '"' :: s => do
    let (units, s) ← readUnits [] s
    return (.text ((joinUnits [] units).map String.ofList), s)
  | '-' :: s => readNumber true s
  | 'n' :: _ => readWord "null" .null s
  | 't' :: _ => readWord "true" (.bool true) s
  | 'f' :: _ => readWord "false" (.bool false) s
  | s => readNumber false s

mutual

/-- Reads a value after white space. The text after it is returned if the value is well-formed. No
text takes more calls than twice its length. -/
def readValue : (fuel : Nat) → List Char → Draft × Option (List Char)
  | 0, _ => (.broken, none)
  | fuel + 1, s =>
    match skipBlanks s with
    | '[' :: s =>
      match skipBlanks s with
      | ']' :: s => (.array [], some s)
      | s =>
        let (items, rest) := readItems fuel [] s
        (.array items, rest)
    | '\x7b' :: s =>
      match skipBlanks s with
      | '\x7d' :: s => (.object [], some s)
      | s =>
        let (members, rest) := readMembers fuel [] s
        (.object members, rest)
    | s =>
      match readScalar s with
      | some (v, rest) => (v, some rest)
      | none => (.broken, none)

/-- Reads the items of an array up to its closing bracket, after those found before, which are held
last first. -/
def readItems : (fuel : Nat) → (found : List Draft) → List Char → List Draft × Option (List Char)
  | 0, found, _ => ((.broken :: found).reverse, none)
  | fuel + 1, found, s =>
    match readValue fuel s with
    | (v, none) => ((v :: found).reverse, none)
    | (v, some s) =>
      match skipBlanks s with
      | ',' :: s => readItems fuel (v :: found) s
      | ']' :: s => ((v :: found).reverse, some s)
      | _ => ((.broken :: v :: found).reverse, none)

/-- Reads the members of an object up to its closing brace, after those found before, which are held
last first. -/
def readMembers : (fuel : Nat) → (found : List (Draft × Draft)) → List Char →
    List (Draft × Draft) × Option (List Char)
  | 0, found, _ => (((.broken, .broken) :: found).reverse, none)
  | fuel + 1, found, s =>
    match readValue fuel s with
    | (key, none) => (((key, .broken) :: found).reverse, none)
    | (key, some s) =>
      match skipBlanks s with
      | ':' :: s =>
        match readValue fuel s with
        | (v, none) => (((key, v) :: found).reverse, none)
        | (v, some s) =>
          match skipBlanks s with
          | ',' :: s => readMembers fuel ((key, v) :: found) s
          | '\x7d' :: s => (((key, v) :: found).reverse, some s)
          | _ => (((.broken, .broken) :: (key, v) :: found).reverse, none)
      | _ => (((key, .broken) :: found).reverse, none)

end

mutual

/-- Whether the value is well-formed, with keys that are texts; surrogates may be alone. -/
def isWhole : Draft → Bool
  | .null | .bool _ | .number _ | .text _ => true
  | .array items => allWhole items
  | .object members => membersWhole members
  | .broken => false

/-- Whether the items are well-formed. -/
def allWhole : List Draft → Bool
  | [] => true
  | v :: rest => v.isWhole && allWhole rest

/-- Whether the members are well-formed. -/
def membersWhole : List (Draft × Draft) → Bool
  | [] => true
  | (.text _, v) :: rest => v.isWhole && membersWhole rest
  | _ :: _ => false

end

/-- A whole text as one value. The second part tells whether the text is blank after it. -/
def ofText (s : List Char) : Draft × Bool :=
  match readValue (2 * s.length + 2) s with
  | (v, some rest) => (v, (skipBlanks rest).isEmpty)
  | (v, none) => (v, false)

end Draft

end BuildTriage.Json
