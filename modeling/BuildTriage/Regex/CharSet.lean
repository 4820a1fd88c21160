import BuildTriage.Text.CaseFolding
import BuildTriage.Text.Ranges

/-!
# Sets of characters

A set of characters is a list of closed intervals of code points. The operations return lists in
ascending order whose intervals neither overlap nor touch, which is what `complement` relies on.
-/

namespace BuildTriage.Regex

/-- A set of characters, as closed intervals of code points. -/
structure CharSet where
  ranges : List (Nat × Nat)
deriving DecidableEq, Repr

namespace CharSet

/-- Whether `c` is in the set. -/
def contains (s : CharSet) (c : Char) : Bool :=
  Text.inRanges s.ranges c

/-- The set with no character. -/
def none : CharSet := ⟨[]⟩

/-- The set of one character. -/
def single (c : Char) : CharSet := ⟨[(c.toNat, c.toNat)]⟩

/-- Every character. -/
def all : CharSet := ⟨[(0, 0x10FFFF)]⟩

/-- Every character but the line feed. -/
def notNewline : CharSet := ⟨[(0, 9), (11, 0x10FFFF)]⟩

/-- Every character but the line feed and the carriage return. -/
def notLineBreak : CharSet := ⟨[(0, 9), (11, 12), (14, 0x10FFFF)]⟩

/-- Puts an interval that starts no earlier than those before it, held last first. -/
def push (ranges : List (Nat × Nat)) (r : Nat × Nat) : List (Nat × Nat) :=
  match ranges with
  | [] => [r]
  | (lo, hi) :: rest =>
    if r.1 ≤ hi + 1 then (lo, max hi r.2) :: rest else r :: (lo, hi) :: rest

/-- The set of the given intervals, put in order. -/
def ofRanges (ranges : List (Nat × Nat)) : CharSet :=
  ⟨((ranges.mergeSort fun a b => a.1 ≤ b.1).foldl push []).reverse⟩

/-- The characters of either set. -/
def union (s t : CharSet) : CharSet :=
  ofRanges (s.ranges ++ t.ranges)

/-- The intervals up to `last` that lie between the given ones, the first one starting at `next`. -/
def gaps (last : Nat) : (next : Nat) → List (Nat × Nat) → List (Nat × Nat)
  | next, [] => if next ≤ last then [(next, last)] else []
  | next, (lo, hi) :: rest =>
    if next < lo then (next, lo - 1) :: gaps last (hi + 1) rest else gaps last (hi + 1) rest

/-- The code points up to `last` that are not in the set. -/
def complement (last : Nat) (s : CharSet) : CharSet :=
  ⟨gaps last 0 s.ranges⟩

/-- The characters of both sets. -/
def inter (s t : CharSet) : CharSet :=
  ((s.complement 0x10FFFF).union (t.complement 0x10FFFF)).complement 0x10FFFF

/-- The characters of the first set that are not in the second. -/
def diff (s t : CharSet) : CharSet :=
  s.inter (t.complement 0x10FFFF)

/-- The characters of exactly one of the sets. -/
def symmDiff (s t : CharSet) : CharSet :=
  (s.diff t).union (t.diff s)

/-- Whether the code point is in the set. -/
def hasCodePoint (s : CharSet) (n : Nat) : Bool :=
  s.ranges.any fun r => r.1 ≤ n && n ≤ r.2

/-- The set with every character that differs from one of its characters by case alone. -/
def foldCase (s : CharSet) : CharSet :=
  let folded := s.union (ofRanges ((Text.caseFoldings.filter fun p => s.hasCodePoint p.1).map
    fun p => (p.2, p.2)))
  folded.union (ofRanges ((Text.caseFoldings.filter fun p => folded.hasCodePoint p.2).map
    fun p => (p.1, p.1)))

/-- The set with the ASCII letters that differ from one of its letters by case alone. -/
def foldAsciiCase (s : CharSet) : CharSet :=
  let pairs := (List.range 26).map fun k => (65 + k, 97 + k)
  s.union (ofRanges (pairs.flatMap fun p =>
    (if s.hasCodePoint p.1 then [(p.2, p.2)] else [])
      ++ (if s.hasCodePoint p.2 then [(p.1, p.1)] else [])))

/-- Whether all characters of the set are ASCII. -/
def isAscii (s : CharSet) : Bool :=
  s.ranges.all fun r => r.2 < 128

end CharSet

end BuildTriage.Regex
