import BuildTriage.Regex.Basic
import BuildTriage.Text.WhiteSpace

/-!
# Flags of a pattern

Flags change how the text after them is read: letters in both cases, lines, what the dot matches,
which repetitions are greedy, ASCII or all scripts, and whether blanks and comments are skipped. A
group of flags such as `i-s` sets those before the hyphen and clears those after it.
-/

namespace BuildTriage.Regex

/-- The letters that stand for flags. -/
inductive Flag where
  | caseInsensitive
  | multiLine
  | dotAll
  | swapGreed
  | unicode
  | crlf
  | ignoreSpace
deriving DecidableEq, Repr

/-- The flag of a letter. -/
def Flag.ofLetter? : Char → Option Flag
  | 'i' => some .caseInsensitive
  | 'm' => some .multiLine
  | 's' => some .dotAll
  | 'U' => some .swapGreed
  | 'u' => some .unicode
  | 'R' => some .crlf
  | 'x' => some .ignoreSpace
  | _ => none

/-- The flags in force at a place in a pattern. -/
structure Flags where
  caseInsensitive : Bool := false
  multiLine : Bool := false
  dotAll : Bool := false
  swapGreed : Bool := false
  unicode : Bool := true
  crlf : Bool := false
  ignoreSpace : Bool := false
deriving DecidableEq, Repr

namespace Flags

/-- The flags with one of them set or cleared. -/
def put (flags : Flags) (flag : Flag) (on : Bool) : Flags :=
  match flag with
  | .caseInsensitive => { flags with caseInsensitive := on }
  | .multiLine => { flags with multiLine := on }
  | .dotAll => { flags with dotAll := on }
  | .swapGreed => { flags with swapGreed := on }
  | .unicode => { flags with unicode := on }
  | .crlf => { flags with crlf := on }
  | .ignoreSpace => { flags with ignoreSpace := on }

/-- Skips white space and comments, which run from `#` to the end of the line. -/
def skipBlanks (inComment : Bool) : List Char → List Char
  | [] => []
  | c :: rest =>
    if inComment then skipBlanks (c != '\n') rest
    else if Text.isWhiteSpace c then skipBlanks false rest
    else if c == '#' then skipBlanks true rest
    else c :: rest

/-- Skips what the flags say is not part of the pattern. -/
def skip (flags : Flags) (text : List Char) : List Char :=
  if flags.ignoreSpace then skipBlanks false text else text

end Flags

/-- The rest of a pattern, if it is not at its end. -/
def nonEmpty (text : List Char) : Option (List Char) :=
  if text.isEmpty then none else some text

/-- One item between `(?` and the closing character: a flag, or the hyphen before the cleared
ones. -/
inductive FlagItem where
  | flag (flag : Flag)
  | hyphen
deriving DecidableEq, Repr

/-- Reads flags up to a colon or a closing parenthesis, which is returned with them. No item may
stand twice, and the hyphen may not stand last. The items read so far are held last first. -/
def readFlags (items : List FlagItem) : List Char → Option (List FlagItem × Char × List Char)
  | [] => none
  | c :: rest =>
    if c == ':' || c == ')' then
      if items.head? = some .hyphen then none else some (items.reverse, c, rest)
    else if c == '-' then
      if items.contains .hyphen then none else readFlags (.hyphen :: items) rest
    else do
      let flag ← Flag.ofLetter? c
      if items.contains (.flag flag) then none else readFlags (.flag flag :: items) rest

/-- The flags after the items, those before a hyphen set and those after it cleared. -/
def Flags.apply (flags : Flags) (items : List FlagItem) : Flags :=
  (items.foldl (fun (flags, on) item =>
    match item with
    | .hyphen => (flags, false)
    | .flag flag => (flags.put flag on, on)) (flags, true)).1

end BuildTriage.Regex
