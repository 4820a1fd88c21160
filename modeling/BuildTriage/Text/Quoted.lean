import BuildTriage.Text.GraphemeExtend
import BuildTriage.Text.Unprintable

/-!
# Quoted text

A text is shown between double quotes, so that its ends and its odd characters can be seen. A quote
and a backslash get a backslash; tab, line feed, carriage return and NUL have escapes of one
letter; characters without a printed form and those that join the one before them are written by
their code point in hexadecimal; everything else stands as it is.
-/

namespace BuildTriage.Text

/-- The code point of `c` as an escape: braces around its hexadecimal digits. -/
def codePointEscape (c : Char) : List Char :=
  '\\' :: 'u' :: '\x7b' :: (Nat.toDigits 16 c.toNat ++ ['\x7d'])

/-- What stands for `c` between the quotes. -/
def quotedChar (c : Char) : List Char :=
  match c with
  | '"' => ['\\', '"']
  | '\\' => ['\\', '\\']
  | '\t' => ['\\', 't']
  | '\n' => ['\\', 'n']
  | '\r' => ['\\', 'r']
  | '\x00' => ['\\', '0']
  | c => if isGraphemeExtend c || isUnprintable c then codePointEscape c else [c]

/-- The text between double quotes. -/
def quoted (text : String) : String :=
  String.ofList ('"' :: (text.toList.flatMap quotedChar ++ ['"']))

end BuildTriage.Text
