import BuildTriage.Text.Digits

/-!
# Blanks, comments and texts of TOML documents

The parts of a document are read off the front of a list of characters; what does not begin with the
part asked for is refused. Control characters other than the tab stand nowhere, not even in
comments.
-/

namespace BuildTriage.Toml

/-- Whether the character is white space within a line. -/
def isBlank (c : Char) : Bool :=
  c = ' ' || c = '\t'

/-- Whether the character may stand within a line. -/
def isPrinted (c : Char) : Bool :=
  c = '\t' || (0x20 ≤ c.toNat && c.toNat ≠ 0x7F)

/-- The text without white space at its start. -/
def skipBlanks (s : List Char) : List Char :=
  s.dropWhile isBlank

/-- Reads the end of a line. -/
def readNewline : List Char → Option (List Char)
  | '\n' :: s => some s
  | '\r' :: '\n' :: s => some s
  | _ => none

/-- Reads what may follow a statement: white space, a comment, and the end of the line or of the
document. -/
def readLineEnd (s : List Char) : Option (List Char) :=
  let s := skipBlanks s
  let s := if s.head? = some '#' then s.dropWhile isPrinted else s
  if s.isEmpty then some [] else readNewline s

/-- Skips white space, line ends and comments, as they may stand within an array. -/
def skipLines (inComment : Bool) : List Char → Option (List Char)
  | [] => if inComment then none else some []
  | '\n' :: s => skipLines false s
  | '\r' :: '\n' :: s => skipLines false s
  | c :: s =>
    if inComment then if isPrinted c then skipLines true s else none
    else if isBlank c then skipLines false s
    else if c = '#' then skipLines true s
    else some (c :: s)

/-- The character with the code point that the digits spell, if there is one. -/
def codePoint? (digits : List Char) : Option Char :=
  (Text.valueIn? 16 digits).bind Text.charOfCode?

/-- Reads an escape after its backslash. -/
def readEscape : List Char → Option (Char × List Char)
  | 'b' :: s => some ('\x08', s)
  | 't' :: s => some ('\t', s)
  | 'n' :: s => some ('\n', s)
  | 'f' :: s => some ('\x0c', s)
  | 'r' :: s => some ('\r', s)
  | '"' :: s => some ('"', s)
  | '\\' :: s => some ('\\', s)
  | 'u' :: s => if s.length < 4 then none else (codePoint? (s.take 4)).map (·, s.drop 4)
  | 'U' :: s => if s.length < 8 then none else (codePoint? (s.take 8)).map (·, s.drop 8)
  | _ => none

theorem readEscape_length_lt {s rest : List Char} {c : Char} (h : readEscape s = some (c, rest)) :
    rest.length < s.length := by
  unfold readEscape at h
  split at h <;> (try split at h) <;>
    simp only [Option.map_eq_some_iff, Option.some.injEq, Prod.mk.injEq, reduceCtorEq] at h
  all_goals
    first
    | (obtain ⟨-, rfl⟩ := h; simp)
    | (obtain ⟨-, -, -, rfl⟩ := h; simp only [List.length_cons, List.length_drop]; omega)

/-- Reads a text on one line up to its closing quote, after the characters found before, which are
held last first. -/
def readBasic (found : List Char) (s : List Char) : Option (String × List Char) :=
  match s with
  | [] => none
  | '"' :: s => some (String.ofList found.reverse, s)
  | '\\' :: s =>
    match h : readEscape s with
    | some (c, rest) =>
      have := readEscape_length_lt h
      readBasic (c :: found) rest
    | none => none
  | c :: s => if isPrinted c then readBasic (c :: found) s else none
termination_by s.length

/-- Reads a text without escapes on one line up to its closing quote. -/
def readLiteral (found : List Char) : List Char → Option (String × List Char)
  | [] => none
  | '\'' :: s => some (String.ofList found.reverse, s)
  | c :: s => if isPrinted c then readLiteral (c :: found) s else none

/-- The end of a text of several lines: up to two quotes more than the three that close it belong to
the text. -/
def closeLines (quote : Char) (found : List Char) (s : List Char) : String × List Char :=
  let extra := (s.take 2).takeWhile (· = quote)
  (String.ofList (extra ++ found).reverse, s.drop extra.length)

/-- Reads a text of several lines up to its closing quotes. A backslash at the end of a line joins
the line to the next character that is not white space; `joining` holds from there on. -/
def readBasicLines (joining : Bool) (found : List Char) (s : List Char) :
    Option (String × List Char) :=
  match s with
  | [] => none
  | '\r' :: '\n' :: s => readBasicLines joining (if joining then found else '\n' :: found) s
  | '\n' :: s => readBasicLines joining (if joining then found else '\n' :: found) s
  | '"' :: '"' :: '"' :: s => some (closeLines '"' found s)
  | '"' :: s => readBasicLines false ('"' :: found) s
  | '\\' :: s =>
    if (readNewline (skipBlanks s)).isSome then readBasicLines true found s
    else
      match h : readEscape s with
      | some (c, rest) =>
        have := readEscape_length_lt h
        readBasicLines false (c :: found) rest
      | none => none
  | c :: s =>
    if joining && isBlank c then readBasicLines true found s
    else if isPrinted c then readBasicLines false (c :: found) s
    else none
termination_by s.length

/-- Reads a text of several lines without escapes up to its closing quotes. -/
def readLiteralLines (found : List Char) : List Char → Option (String × List Char)
  | [] => none
  | '\r' :: '\n' :: s => readLiteralLines ('\n' :: found) s
  | '\n' :: s => readLiteralLines ('\n' :: found) s
  | '\'' :: '\'' :: '\'' :: s => some (closeLines '\'' found s)
  | c :: s => if isPrinted c then readLiteralLines (c :: found) s else none

/-- The text without a line end at its start. -/
def skipFirstNewline (s : List Char) : List Char :=
  (readNewline s).getD s

/-- Reads a text in any of the four kinds of quotes. -/
def readText : List Char → Option (String × List Char)
  | '"' :: '"' :: '"' :: s => readBasicLines false [] (skipFirstNewline s)
  | '"' :: s => readBasic [] s
  | '\'' :: '\'' :: '\'' :: s => readLiteralLines [] (skipFirstNewline s)
  | '\'' :: s => readLiteral [] s
  | _ => none

end BuildTriage.Toml
