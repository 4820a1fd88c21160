import BuildTriage.Text.ShortestDecimal

/-!
# JSON numbers

A number without fraction and exponent is an integer if it lies in the range of 64-bit words,
unsigned or, after a minus sign, signed. All other numbers are doubles, and so is a zero after a
minus sign. The digits that fit into a 64-bit word are scaled by one power of ten, and digits beyond
them only count as places. A number too large for a double has no value.
-/

namespace BuildTriage.Json

/-- A number as it is written. -/
structure Numeral where
  negative : Bool
  whole : List Char
  fraction : Option (List Char) := none
  /-- Whether the exponent is negative, and its digits. -/
  exponent : Option (Bool × List Char) := none
deriving DecidableEq, Repr

/-- What a number stands for. -/
inductive Number where
  | integer (i : Int)
  | double (x : Float)

/-- Appends digits to a number as long as it stays below `2 ^ 64`; returns it with the digits
left. -/
def appendDigits (value : Nat) : List Char → Nat × List Char
  | [] => (value, [])
  | c :: rest =>
    let next := 10 * value + Text.digitValue c
    if next < Nat.pow 2 64 then appendDigits next rest else (value, c :: rest)

/-- The power of ten as a double. -/
def powerOfTen (e : Nat) : Float :=
  Float.ofScientific 1 false e

/-- Divides by a power of ten, at most `10 ^ 308` at a time. -/
def divideByPower (x : Float) (e : Nat) : Float :=
  if e ≤ 308 then x / powerOfTen e
  else if x == 0 then x
  else divideByPower (x / powerOfTen 308) (e - 308)
termination_by e

/-- The double nearest to the significand, scaled by a power of ten. -/
def scaledDouble? (significand : Nat) (exponent : Int) : Option Float :=
  let x := significand.toUInt64.toFloat
  match exponent with
  | .negSucc e => some (divideByPower x (e + 1))
  | .ofNat e =>
    if 308 < e then if significand = 0 then some x else none
    else
      let x := x * powerOfTen e
      if x.isInf then none else some x

namespace Numeral

/-- The exponent that is written. -/
def writtenExponent (n : Numeral) : Int :=
  match n.exponent with
  | none => 0
  | some (negative, digits) =>
    if negative then -Text.decimalValue digits else Text.decimalValue digits

/-- The absolute value of the number as a double. An exponent of more than 31 bits makes it zero or
too large, whatever the digits. -/
def magnitude? (n : Numeral) : Option Float :=
  let (significand, left) := appendDigits 0 n.whole
  let (significand, places) :=
    match n.fraction with
    | none => (significand, (left.length : Int))
    | some digits =>
      let (extended, unread) := appendDigits significand digits
      (extended, (left.length : Int) - (digits.length - unread.length))
  if Nat.pow 2 31 ≤ n.writtenExponent.natAbs then
    if n.writtenExponent < 0 ∨ significand = 0 then some 0 else none
  else scaledDouble? significand (places + n.writtenExponent)

/-- What the number stands for. -/
def value? (n : Numeral) : Option Number :=
  let asDouble := n.magnitude?.map fun x => Number.double (if n.negative then -x else x)
  match n.fraction, n.exponent with
  | none, none =>
    let i := Text.decimalValue n.whole
    if !n.negative ∧ i < Nat.pow 2 64 then some (.integer i)
    else if n.negative ∧ 0 < i ∧ i ≤ Nat.pow 2 63 then some (.integer (-i))
    else asDouble
  | _, _ => asDouble

end Numeral

end BuildTriage.Json
