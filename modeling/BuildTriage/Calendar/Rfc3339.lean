import BuildTriage.Calendar.Timestamp
import BuildTriage.Text.WhiteSpace

/-!
# Times as text

Times are written as RFC 3339 has them: date, `T`, time of day with as many groups of three digits
after the second as it needs, `Z`. A year outside 0, …, 9999 is written with its sign.

Reading is more generous. White space may stand before the text, after it, between the parts of the
date and between those of the time of day. `T` may be small or one blank. The offset is `UTC` or `Z`
in any case, or a sign with two digits of hours and, after colons and white space or nothing, two
digits of minutes, which may be left out. Digits after the ninth of a fraction are dropped. The
parts are checked one by one as they are read; what a part says about another, such as a day that
the month does not have, is checked at the end.
-/

namespace BuildTriage

open Text (trimStart decimalValue digitValue spanDigits paddedDecimal)

/-- Why a text is no time. -/
inductive TimeError where
  | outOfRange
  /-- No timestamp can hold the time once it is moved to UTC. -/
  | impossible
  | invalid
  | premature
  | trailing
deriving DecidableEq, Repr

def TimeError.message : TimeError → String
  | outOfRange => "input is out of range"
  | impossible => "no possible date and time matching input"
  | invalid => "input contains invalid characters"
  | premature => "premature end of input"
  | trailing => "trailing input"

namespace Rfc3339

/-- Reads a number of at most `width` digits. -/
def number (width : Nat) (s : List Char) : Except TimeError (Nat × List Char) :=
  let digits := (s.take width).takeWhile Char.isDigit
  if s.isEmpty then .error .premature
  else if digits.isEmpty then .error .invalid
  else .ok (decimalValue digits, s.drop digits.length)

/-- Reads a number of at most two digits between two bounds, after white space. -/
def numberWithin (low high : Nat) (s : List Char) : Except TimeError (Nat × List Char) := do
  let (n, s) ← number 2 (trimStart s)
  if low ≤ n ∧ n ≤ high then return (n, s) else throw .outOfRange

/-- Reads a year after white space: at most four digits, or a sign and any number of them. A year
that takes more than 32 bits is out of range at once. -/
def year (s : List Char) : Except TimeError (Int × List Char) := do
  let (y, s) ← (match trimStart s with
    | '-' :: s => do
      let (n, s) ← number s.length s
      pure (-(n : Int), s)
    | '+' :: s => do
      let (n, s) ← number s.length s
      pure ((n : Int), s)
    | s => do
      let (n, s) ← number 4 s
      pure ((n : Int), s) : Except TimeError (Int × List Char))
  if -Nat.pow 2 31 ≤ y ∧ y < Nat.pow 2 31 then return (y, s) else throw .outOfRange

/-- Reads the mark between two numbers, after white space. -/
def mark (c : Char) (s : List Char) : Except TimeError (List Char) :=
  match trimStart s with
  | [] => .error .premature
  | d :: s => if d = c then .ok s else .error .invalid

/-- Reads what stands between date and time of day. -/
def separator : List Char → Except TimeError (List Char)
  | [] => .error .premature
  | c :: s => if c = 'T' ∨ c = 't' ∨ c = ' ' then .ok s else .error .invalid

/-- Reads the fraction of a second in nanoseconds, if there is one. -/
def fraction : List Char → Except TimeError (Nat × List Char)
  | '.' :: s => do
    let (n, rest) ← number 9 s
    return (n * Nat.pow 10 (9 - (s.length - rest.length)), rest.dropWhile Char.isDigit)
  | s => .ok (0, s)

/-- Reads two digits. -/
def twoDigits : List Char → Except TimeError (Nat × List Char)
  | a :: b :: s =>
    if a.isDigit && b.isDigit then .ok (10 * digitValue a + digitValue b, s) else .error .invalid
  | [a] => if a.toNat < 128 then .error .premature else .error .invalid
  | [] => .error .premature

/-- Reads the minutes of an offset; at the end of the text there are none. -/
def offsetMinutes (s : List Char) : Except TimeError (Nat × List Char) := do
  if s.isEmpty then return (0, [])
  let (n, s) ← twoDigits s
  if n < 60 then return (n, s) else throw .outOfRange

/-- Reads hours and minutes of an offset. -/
def offsetAmount (s : List Char) : Except TimeError (Nat × List Char) := do
  let (hours, s) ← twoDigits s
  let (minutes, s) ← offsetMinutes (s.dropWhile fun c => c = ':' || Text.isWhiteSpace c)
  return (hours * 60 + minutes, s)

/-- Reads an offset in minutes. -/
def offset (s : List Char) : Except TimeError (Int × List Char) :=
  if (s.take 3).map Char.toUpper = ['U', 'T', 'C'] then .ok (0, s.drop 3)
  else
    match s with
    | [] => .error .premature
    | c :: s =>
      if c = 'Z' ∨ c = 'z' then .ok (0, s)
      else if c = '+' then do
        let (n, s) ← offsetAmount s
        return ((n : Int), s)
      else if c = '-' ∨ c = '\u2212' then do
        let (n, s) ← offsetAmount s
        return (-(n : Int), s)
      else .error .invalid

/-- Reads the parts of a date as far as they are in range one by one. -/
def dateParts (s : List Char) : Except TimeError ((Int × Nat × Nat) × List Char) := do
  let (y, s) ← year s
  let s ← mark '-' s
  let (month, s) ← numberWithin 1 12 s
  let s ← mark '-' s
  let (day, s) ← numberWithin 1 31 s
  return ((y, month, day), s)

/-- Reads the parts of a time of day. -/
def clockParts (s : List Char) : Except TimeError ((Nat × Nat × Nat × Nat) × List Char) := do
  let (hour, s) ← numberWithin 0 23 s
  let s ← mark ':' s
  let (minute, s) ← numberWithin 0 59 s
  let s ← mark ':' s
  let (second, s) ← numberWithin 0 60 s
  let (nano, s) ← fraction s
  return ((hour, minute, second, nano), s)

/-- The date, the time of day and the offset of the given parts, if they fit together. -/
def assemble? (date : Int × Nat × Nat) (clock : Nat × Nat × Nat × Nat) (offset : Int) :
    Option LocalTime := do
  let (y, month, day) := date
  let (hour, minute, second, nano) := clock
  LocalTime.ofParts? (← Date.ofParts? y month day) (← Clock.ofParts? hour minute second nano) offset

/-- Reads a whole text as a local time. -/
def readLocal (s : List Char) : Except TimeError LocalTime := do
  let (date, s) ← dateParts s
  let s ← separator s
  let (clock, s) ← clockParts s
  let (offset, s) ← offset (trimStart s)
  unless (trimStart s).isEmpty do throw .trailing
  match assemble? date clock offset with
  | some t => return t
  | none => throw .outOfRange

/-- Reads a whole text as a time. -/
def read (s : List Char) : Except TimeError Timestamp := do
  match (← readLocal s).toUtc? with
  | some t => return t
  | none => throw .impossible

/-- Four digits for a year of four digits, and otherwise a sign and four digits or more. -/
def yearText (y : Int) : List Char :=
  if 0 ≤ y ∧ y ≤ 9999 then paddedDecimal 4 y.natAbs
  else (if y < 0 then '-' else '+') :: paddedDecimal 4 y.natAbs

/-- Nothing, or a point and three, six or nine digits. -/
def fractionText (nano : Nat) : List Char :=
  if nano = 0 then []
  else if nano % 1000000 = 0 then '.' :: paddedDecimal 3 (nano / 1000000)
  else if nano % 1000 = 0 then '.' :: paddedDecimal 6 (nano / 1000)
  else '.' :: paddedDecimal 9 nano

def dateText (d : Date) : List Char :=
  yearText d.year ++ '-' :: paddedDecimal 2 d.month ++ '-' :: paddedDecimal 2 d.day

def clockText (c : Clock) : List Char :=
  paddedDecimal 2 c.hour ++ ':' :: paddedDecimal 2 c.minute ++ ':' :: paddedDecimal 2 c.second
    ++ fractionText c.nano

/-- The text of a time. -/
def text (t : Timestamp) : List Char :=
  dateText t.date ++ 'T' :: clockText t.clock ++ ['Z']

end Rfc3339

namespace Timestamp

/-- The time that a text stands for. -/
def parse (text : String) : Except TimeError Timestamp :=
  Rfc3339.read text.toList

/-- The text of the time. -/
def text (t : Timestamp) : String :=
  String.ofList (Rfc3339.text t)

end Timestamp

end BuildTriage
