import BuildTriage.Regex.CharSet
import BuildTriage.Text.WordCharacter

/-!
# Regular expressions

A regular expression reads characters, asserts something about the position it has come to, or
puts a mark there; the rest is sequence, choice and repetition. A choice prefers its left branch.
A repetition is greedy, preferring to go on, or lazy, preferring to stop. Marks stand at the two
ends of the numbered groups: `2 * k` opens the group `k` and `2 * k + 1` closes it.
-/

namespace BuildTriage

/-- The sides of a word that an assertion can ask for. -/
inductive WordEdge where
  | boundary
  | noBoundary
  | start
  | stop
  | startHalf
  | stopHalf
deriving DecidableEq, Repr

/-- A condition on a position in a text, which depends on the characters around it alone. -/
inductive Assertion where
  | textStart
  | textEnd
  /-- The start of a line; with `crlf`, a carriage return or the pair with a line feed ends one. -/
  | lineStart (crlf : Bool)
  | lineEnd (crlf : Bool)
  /-- An edge of a word, whose characters are ASCII letters, digits and underscores alone with
  `ascii`, and those of all scripts without. -/
  | word (edge : WordEdge) (ascii : Bool)
deriving DecidableEq, Repr

namespace Assertion

/-- Whether `c` belongs to a word. -/
def isWord (ascii : Bool) (c : Char) : Bool :=
  if ascii then c.isAlphanum || c == '_' else Text.isWordCharacter c

/-- Whether the assertion holds between the character `before` a position and the one `after` it. -/
def holds (before after : Option Char) : Assertion → Bool
  | .textStart => before.isNone
  | .textEnd => after.isNone
  | .lineStart false => before.all (· == '\n')
  | .lineEnd false => after.all (· == '\n')
  | .lineStart true =>
    before.all fun b => b == '\n' || (b == '\r' && after != some '\n')
  | .lineEnd true =>
    after.all fun a => a == '\r' || (a == '\n' && before != some '\r')
  | .word edge ascii =>
    let left := before.any (isWord ascii)
    let right := after.any (isWord ascii)
    match edge with
    | .boundary => left != right
    | .noBoundary => left == right
    | .start => !left && right
    | .stop => left && !right
    | .startHalf => !left
    | .stopHalf => !right

end Assertion

/-- A regular expression. -/
inductive Regex where
  /-- Matches the empty text. -/
  | empty
  /-- Matches one character of the set. -/
  | chars (set : Regex.CharSet)
  /-- Matches the empty text where the assertion holds. -/
  | assert (assertion : Assertion)
  /-- Matches the empty text and marks the position. -/
  | mark (slot : Nat)
  | cat (first second : Regex)
  /-- Matches what either branch matches, the first branch preferred. -/
  | alt (first second : Regex)
  /-- Matches `body` at least `min` times, and at most `max` times if `max` is given. If it is not,
  iterations that are not required have to read something. -/
  | rep (body : Regex) (min : Nat) (max : Option Nat) (greedy : Bool)
deriving DecidableEq, Repr

namespace Regex

/-- The first expression and then the second, where nothing is added to an empty first. -/
def seq : Regex → Regex → Regex
  | .empty, b => b
  | a, b => .cat a b

/-- The expressions one after the other. -/
def seqAll : List Regex → Regex
  | [] => .empty
  | [a] => a
  | a :: rest => .cat a (seqAll rest)

/-- The branches, the earlier ones preferred. -/
def altAll : List Regex → Regex
  | [] => .empty
  | [a] => a
  | a :: rest => .alt a (altAll rest)

/-- The expression between the marks of the group `k`. -/
def group (k : Nat) (body : Regex) : Regex :=
  .cat (.mark (2 * k)) (.cat body (.mark (2 * k + 1)))

/-- Whether the expression may match without reading anything. -/
def canBeEmpty : Regex → Bool
  | .empty | .assert _ | .mark _ => true
  | .chars _ => false
  | .cat a b => a.canBeEmpty && b.canBeEmpty
  | .alt a b => a.canBeEmpty || b.canBeEmpty
  | .rep body min .. => min == 0 || body.canBeEmpty

/-- The expression repeated. The star of something that may read nothing stands for no iteration, or
for a first one, which then may read nothing, and further ones: `(x+)?`. -/
def repeated (body : Regex) (min : Nat) (max : Option Nat) (greedy : Bool) : Regex :=
  if min = 0 ∧ max = none ∧ body.canBeEmpty then
    .rep (.rep body 1 none greedy) 0 (some 1) greedy
  else .rep body min max greedy

/-- Any text, as short as possible. -/
def skipAny : Regex :=
  .rep (.chars .all) 0 none false

end Regex

end BuildTriage
