import BuildTriage.Text.Digits

/-!
# Shortest decimals

A double stands for all reals that round to it. Its shortest decimal is the one with the fewest
digits among these reals; of several with as few digits it is the nearest, and of two equally near
the even one.
-/

namespace BuildTriage.Text

/-- A decimal: its digits, the first of which is not zero, and how many of them stand before the
point; none or fewer than none means zeros after the point. -/
structure Decimal where
  digits : List Char
  point : Int
deriving DecidableEq, Repr

/-- A positive double as `mantissa * 2 ^ exponent`. The double below it is half as far away as the
one above where `narrow` holds. -/
structure Binary where
  mantissa : Nat
  exponent : Int
  narrow : Bool

/-- The parts of the absolute value of a finite double. -/
def Binary.ofFloat (x : Float) : Binary :=
  let bits := x.toBits.toNat % Nat.pow 2 63
  let fraction := bits % Nat.pow 2 52
  match bits / Nat.pow 2 52 with
  | 0 => ⟨fraction, -1074, false⟩
  | e + 1 => ⟨Nat.pow 2 52 + fraction, (e : Int) - 1074, fraction = 0 && 0 < e⟩

/-- A ratio of natural numbers, `numerator / denominator * base ^ exponent` for the given base. -/
def scaled (numerator denominator base : Nat) (exponent : Int) : Nat × Nat :=
  match exponent with
  | .ofNat e => (numerator * Nat.pow base e, denominator)
  | .negSucc e => (numerator, denominator * Nat.pow base (e + 1))

/-- How many digits stand before the point of the ratio, looking at most `fuel` places behind it. -/
def pointOf (numerator denominator : Nat) : (fuel : Nat) → Int
  | 0 => 0
  | fuel + 1 =>
    if denominator ≤ numerator then (decimal (numerator / denominator)).length
    else pointOf (numerator * 10) denominator fuel - 1

/-- The multiple of `10 ^ place` that rounds to the double, the nearest one if there are several. -/
def Binary.onGrid? (b : Binary) (place : Int) : Option Nat :=
  -- In quarters of the last binary place the value is `4 * mantissa`.
  let (numerator, denominator) := scaled 1 4 2 b.exponent
  let (numerator, denominator) := scaled numerator denominator 10 (-place)
  let value := 4 * b.mantissa * numerator
  let low := (4 * b.mantissa - if b.narrow then 1 else 2) * numerator
  let high := (4 * b.mantissa + 2) * numerator
  let rounds (n : Nat) : Bool :=
    if b.mantissa % 2 = 0 then low ≤ n * denominator && n * denominator ≤ high
    else low < n * denominator && n * denominator < high
  let below := value / denominator
  let above := below + 1
  let gapBelow := value - below * denominator
  let gapAbove := above * denominator - value
  if rounds below && rounds above then
    if gapBelow < gapAbove || (gapBelow = gapAbove && below % 2 = 0) then some below else some above
  else if rounds below then some below
  else if rounds above then some above
  else none

/-- The first grid with a multiple that rounds to the double, from `digits` digits on. -/
def Binary.search (b : Binary) (point : Int) (digits : Nat) : (fuel : Nat) → Decimal
  | 0 => ⟨['0'], 1⟩
  | fuel + 1 =>
    match b.onGrid? (point - digits) with
    | some n =>
      let text := decimal n
      ⟨(text.reverse.dropWhile (· = '0')).reverse, point - digits + text.length⟩
    | none => b.search point (digits + 1) fuel

/-- The shortest decimal of the absolute value of a finite double that is not zero. -/
def shortestDecimal (x : Float) : Decimal :=
  let b := Binary.ofFloat x
  let (numerator, denominator) := scaled b.mantissa 1 2 b.exponent
  b.search (pointOf numerator denominator 400) 1 17

/-- The text of a finite double: positional with a point if the point stands within sixteen digits
or no more than four zeros follow it before the first digit, and otherwise with a power of ten. -/
def doubleText (x : Float) : List Char :=
  let magnitude :=
    if x == 0 then ['0', '.', '0']
    else
      let d := shortestDecimal x
      let count : Int := d.digits.length
      if count ≤ d.point ∧ d.point ≤ 16 then
        d.digits ++ List.replicate (d.point - count).toNat '0' ++ ['.', '0']
      else if 0 < d.point ∧ d.point ≤ 16 then
        d.digits.take d.point.toNat ++ '.' :: d.digits.drop d.point.toNat
      else if -5 < d.point ∧ d.point ≤ 0 then
        ['0', '.'] ++ List.replicate (-d.point).toNat '0' ++ d.digits
      else
        let power := 'e' :: integer (d.point - 1)
        match d.digits with
        | [] => power
        | [c] => c :: power
        | c :: rest => c :: '.' :: (rest ++ power)
  if x.toBits.toNat < Nat.pow 2 63 then magnitude else '-' :: magnitude

end BuildTriage.Text
