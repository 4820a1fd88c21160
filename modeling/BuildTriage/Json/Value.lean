import BuildTriage.Text.Digits

/-!
# JSON values and their text

A value is written in one of two layouts: compact, without white space, or indented, with every item
and member on a line of its own, indented by two blanks for each array or object around it.
-/

namespace BuildTriage.Json

/-- A JSON value. All its numbers are integers, and an object keeps the order of its members. -/
inductive Value where
  | null
  | bool (b : Bool)
  | integer (i : Int)
  | text (s : String)
  | array (items : List Value)
  | object (members : List (String × Value))

/-- Where white space is written. -/
inductive Layout where
  | compact
  | indented
deriving DecidableEq, Repr

/-- What stands before an item or member within `depth` arrays and objects. -/
def Layout.lineBreak (depth : Nat) : Layout → List Char
  | compact => []
  | indented => '\n' :: List.replicate (2 * depth) ' '

/-- What stands after the colon of a member. -/
def Layout.gap : Layout → List Char
  | compact => []
  | indented => [' ']

/-- A hexadecimal digit, in lower case. -/
def hexDigit (n : Nat) : Char :=
  Nat.digitChar n

/-- What stands for a character in a text: an escape for the quote, the backslash and the control
characters, and otherwise the character. -/
def escapedChar (c : Char) : List Char :=
  match c with
  | '"' => ['\\', '"']
  | '\\' => ['\\', '\\']
  | '\x08' => ['\\', 'b']
  | '\t' => ['\\', 't']
  | '\n' => ['\\', 'n']
  | '\x0c' => ['\\', 'f']
  | '\r' => ['\\', 'r']
  | c =>
    if c.toNat < 0x20 then
      ['\\', 'u', '0', '0', hexDigit (c.toNat / 16), hexDigit (c.toNat % 16)]
    else [c]

/-- A text between quotes. -/
def quotedText (s : String) : List Char :=
  '"' :: (s.toList.flatMap escapedChar ++ ['"'])

namespace Value

mutual

/-- The text of a value within `depth` arrays and objects. -/
def render (l : Layout) (depth : Nat) : Value → List Char
  | .null => "null".toList
  | .bool true => "true".toList
  | .bool false => "false".toList
  | .integer i => Text.integer i
  | .text s => quotedText s
  | .array [] => ['[', ']']
  | .array (v :: rest) =>
    '[' :: (l.lineBreak (depth + 1) ++ render l (depth + 1) v ++ renderItems l (depth + 1) rest
      ++ l.lineBreak depth ++ [']'])
  | .object [] => ['\x7b', '\x7d']
  | .object ((name, v) :: rest) =>
    '\x7b' :: (l.lineBreak (depth + 1) ++ quotedText name ++ ':' :: l.gap
      ++ render l (depth + 1) v ++ renderMembers l (depth + 1) rest
      ++ l.lineBreak depth ++ ['\x7d'])

/-- The text of the items after the first. -/
def renderItems (l : Layout) (depth : Nat) : List Value → List Char
  | [] => []
  | v :: rest => ',' :: (l.lineBreak depth ++ render l depth v ++ renderItems l depth rest)

/-- The text of the members after the first. -/
def renderMembers (l : Layout) (depth : Nat) : List (String × Value) → List Char
  | [] => []
  | (name, v) :: rest =>
    ',' :: (l.lineBreak depth ++ quotedText name ++ ':' :: l.gap ++ render l depth v
      ++ renderMembers l depth rest)

end

/-- The text of a value in a layout. -/
def toText (v : Value) (l : Layout) : String :=
  String.ofList (v.render l 0)

end Value

end BuildTriage.Json
