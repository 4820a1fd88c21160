import BuildTriage.Calendar.Date
import BuildTriage.Text.Digits
import BuildTriage.Toml.Node
import BuildTriage.Toml.Text

/-!
# Numbers, truth values and times of TOML documents

Digits may be parted by single underscores. An integer has to fit into a signed 64-bit word; a
number with a fraction or an exponent must not be too large for a double, unless it is negative.
-/

namespace BuildTriage.Toml

/-- Reads the digits that follow a first digit; an underscore may stand before each of them. -/
def moreDigits (isDigit : Char → Bool) (found : List Char) : List Char → List Char × List Char
  | '_' :: c :: s =>
    if isDigit c then moreDigits isDigit (c :: found) s else (found.reverse, '_' :: c :: s)
  | c :: s => if isDigit c then moreDigits isDigit (c :: found) s else (found.reverse, c :: s)
  | [] => (found.reverse, [])

/-- Reads one or more digits, of which the first may be zero. -/
def readDigits (isDigit : Char → Bool) : List Char → Option (List Char × List Char)
  | c :: s => if isDigit c then some (moreDigits isDigit [c] s) else none
  | [] => none

/-- Reads a number without a sign: a zero stands alone. -/
def readUnsigned : List Char → Option (List Char × List Char)
  | '0' :: s => some (['0'], s)
  | s => readDigits Char.isDigit s

/-- Reads a sign, if there is one, and tells whether it is a minus. -/
def readSign : List Char → Bool × List Char
  | '-' :: s => (true, s)
  | '+' :: s => (false, s)
  | s => (false, s)

/-- Reads an integer in another base after the mark of the base. -/
def readInBase (base : Nat) (isDigit : Char → Bool) (s : List Char) :
    Option (Node × List Char) := do
  let (digits, s) ← readDigits isDigit s
  let n ← Text.valueIn? base digits
  if n < Nat.pow 2 63 then some (.integer n, s) else none

/-- Reads an integer. -/
def readInteger : List Char → Option (Node × List Char)
  | '0' :: 'x' :: s => readInBase 16 (fun c => (Text.hexValue? c).isSome) s
  | '0' :: 'o' :: s => readInBase 8 (fun c => '0' ≤ c && c ≤ '7') s
  | '0' :: 'b' :: s => readInBase 2 (fun c => c = '0' || c = '1') s
  | s => do
    let (negative, s) := readSign s
    let (digits, s) ← readUnsigned s
    let n := Text.decimalValue digits
    if negative then if n ≤ Nat.pow 2 63 then some (.integer (-n), s) else none
    else if n < Nat.pow 2 63 then some (.integer n, s) else none

/-- Whether `digits * 10 ^ exponent` is too large for a double: it is not less than the number
halfway between the greatest double and the next power of two. -/
def exceedsDouble (digits : List Char) (exponent : Int) : Bool :=
  let digits := digits.dropWhile (· = '0')
  let places := digits.length + exponent
  if digits.isEmpty || places < 300 then false
  else if 400 < places then true
  else
    let n := Text.decimalValue digits
    match exponent with
    | .ofNat e => Nat.pow 2 1024 - Nat.pow 2 970 ≤ n * Nat.pow 10 e
    | .negSucc e => (Nat.pow 2 1024 - Nat.pow 2 970) * Nat.pow 10 (e + 1) ≤ n

/-- Reads an exponent, if one follows. -/
def readExponent (s : List Char) : Option (Option Int × List Char) :=
  match s with
  | c :: rest =>
    if c = 'e' ∨ c = 'E' then do
      let (negative, rest) := readSign rest
      let (digits, rest) ← readDigits Char.isDigit rest
      let n : Int := Text.decimalValue digits
      return (some (if negative then -n else n), rest)
    else some (none, s)
  | [] => some (none, [])

/-- Reads a fraction, if one follows. -/
def readFraction : List Char → Option (Option (List Char) × List Char)
  | '.' :: s => do
    let (digits, s) ← readDigits Char.isDigit s
    return (some digits, s)
  | s => some (none, s)

/-- What was read of a text, given the rest of it. -/
def consumed (s rest : List Char) : String :=
  String.ofList (s.take (s.length - rest.length))

/-- Reads a number with a fraction or an exponent. -/
def readDecimal (s : List Char) : Option (Node × List Char) := do
  let (negative, rest) := readSign s
  let (whole, rest) ← readUnsigned rest
  let (fraction, rest) ← readFraction rest
  let (exponent, rest) ← readExponent rest
  if fraction.isNone && exponent.isNone then none
  else
    let decimals := fraction.getD []
    if !negative && exceedsDouble (whole ++ decimals) (exponent.getD 0 - decimals.length) then none
    else some (.decimal (consumed s rest), rest)

/-- Reads a word. -/
def readWord (word : String) (n : Node) (s : List Char) : Option (Node × List Char) :=
  if word.toList.isPrefixOf s then some (n, s.drop word.length) else none

/-- Reads what is no number, or infinite. -/
def readSpecial (s : List Char) : Option (Node × List Char) :=
  let (_, rest) := readSign s
  let rest := rest.drop 3
  if ["inf", "nan"].any fun word => word.toList.isPrefixOf (readSign s).2 then
    some (.decimal (consumed s rest), rest)
  else none

/-- Reads a number of exactly `count` digits between two bounds. -/
def readCount (count low high : Nat) (s : List Char) : Option (Nat × List Char) :=
  let digits := s.take count
  let n := Text.decimalValue digits
  if digits.length = count ∧ digits.all Char.isDigit ∧ low ≤ n ∧ n ≤ high then
    some (n, s.drop count)
  else none

/-- Reads one character. -/
def readMark (mark : Char) : List Char → Option (List Char)
  | [] => none
  | c :: s => if c = mark then some s else none

/-- Reads a date. -/
def readDate (s : List Char) : Option (List Char) := do
  let (year, s) ← readCount 4 0 9999 s
  let s ← readMark '-' s
  let (month, s) ← readCount 2 1 12 s
  let s ← readMark '-' s
  let (_, s) ← readCount 2 1 (daysInMonth year month) s
  return s

/-- Reads a time of day. -/
def readClock (s : List Char) : Option (List Char) := do
  let (_, s) ← readCount 2 0 23 s
  let s ← readMark ':' s
  let (_, s) ← readCount 2 0 59 s
  let s ← readMark ':' s
  let (_, s) ← readCount 2 0 60 s
  match s with
  | '.' :: rest =>
    let (digits, after) := Text.spanDigits rest
    return if digits.isEmpty then s else after
  | s => return s

/-- Reads an offset, if one follows. -/
def readOffset (s : List Char) : Option (List Char) :=
  match s with
  | [] => some []
  | c :: rest =>
    if c = 'Z' ∨ c = 'z' then some rest
    else if c = '+' ∨ c = '-' then do
      let (_, rest) ← readCount 2 0 23 rest
      let rest ← readMark ':' rest
      let (_, rest) ← readCount 2 0 59 rest
      return rest
    else some s

/-- Reads the time of day after a date, if one follows. -/
def readClockAfterDate (s : List Char) : Option (List Char) :=
  match s with
  | [] => some []
  | c :: rest =>
    if c = 'T' ∨ c = 't' ∨ c = ' ' then
      match readClock rest with
      | some rest => readOffset rest
      | none => some s
    else some s

/-- Reads a date, a time of day or both. -/
def readTime (s : List Char) : Option (Node × List Char) := do
  let rest ← (readDate s >>= readClockAfterDate) <|> readClock s
  return (.time (consumed s rest), rest)

/-- Reads a number, a truth value or a time. -/
def readScalar (s : List Char) : Option (Node × List Char) :=
  match s with
  | 't' :: _ => readWord "true" (.boolean true) s
  | 'f' :: _ => readWord "false" (.boolean false) s
  | _ => readTime s <|> readDecimal s <|> readSpecial s <|> readInteger s

end BuildTriage.Toml
