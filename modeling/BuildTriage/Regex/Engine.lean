import BuildTriage.Regex.Basic
import BuildTriage.Regex.Property

/-!
# What an engine brings

The grammar of patterns leaves two things to the engine that compiles them. It has tables of the
characters with a property, by which a pattern can ask for them, and it refuses an expression whose
compiled form exceeds a limit in bytes. Whatever holds of patterns should hold for every engine. The
standard one, which the programs use, has the tables of this library. It compiles nothing, and so
the size it gives an expression is only an estimate.
-/

namespace BuildTriage

namespace Regex

/-- What an engine decides about patterns besides their grammar. -/
structure Engine where
  /-- The characters with a property, which is given as it is written in a pattern: `L` or `Greek`,
  or with a value such as `sc=Greek`. -/
  property? : List Char → Option CharSet
  /-- Whether the compiled form of the expression keeps to the limit on its size. -/
  fits : Regex → Bool

/-- Whether the expression matches the empty text only. -/
def readsNothing : Regex → Bool
  | .empty | .assert _ | .mark _ => true
  | .chars _ => false
  | .cat a b | .alt a b => a.readsNothing && b.readsNothing
  | .rep body .. => body.readsNothing

/-- An estimate of the bytes that a compiled form of the expression takes: about one state of 32
bytes for each byte that is read, for each copy of a counted repetition. What reads nothing need not
be repeated. -/
def weight : Regex → Nat
  | .empty => 32
  | .chars set =>
    match set.ranges with
    | [(lo, hi)] =>
      if lo = hi then
        32 * (if lo < 0x80 then 1 else if lo < 0x800 then 2 else if lo < 0x10000 then 3 else 4)
      else if hi < 0x80 then 32 else 512
    | ranges => if set.isAscii then 32 + 8 * ranges.length else 512 + 64 * ranges.length
  | .assert _ => 32
  | .mark _ => 32
  | .cat a b => a.weight + b.weight
  | .alt a b => a.weight + b.weight + 68
  | .rep body min max _ =>
    body.weight * (if body.readsNothing then 1 else max.getD (Nat.max 1 min)) + 32

namespace Engine

/-- The limit on the size of a compiled form, in bytes. -/
def sizeLimit : Nat := 10 * Nat.pow 2 20

/-- The engine that the programs use. Its tables are those of `propertySet?`, and the size of a
compiled form is only estimated. -/
def standard : Engine where
  property? := propertySet?
  fits r := r.weight ≤ sizeLimit

end Engine

end Regex

end BuildTriage
