import BuildTriage.Regex.Basic

/-!
# Matching by preference

At one position an expression offers a list of steps, the preferred ones first: it accepts there, or
it reads a character of some set and goes on as another expression. `Regex.steps` computes this list
from the structure of the expression. The iterations that a bounded repetition may make but need not
are options within one another, and each of them may read nothing. In a repetition without a bound
they have to read something; if the last iteration required reads nothing, none follows.

A match is found in one pass over the text. The pass holds the expressions that the characters read
so far have led to, in order of preference, each with the marks passed on the way to it. At each
position everything after the first accepting step is dropped, since the accepting one is preferred
to it; of two equal expressions the later one is dropped, since it can only repeat what the earlier
one does. The last match that was accepted is then the preferred one of all.
-/

namespace BuildTriage.Regex

/-- What an expression can do at one position, with the marks that it passes there. -/
inductive Step where
  /-- The expression has matched. -/
  | accept (marks : List Nat)
  /-- A character of `set` is read, and `next` remains to be matched. -/
  | read (marks : List Nat) (set : CharSet) (next : Regex)
deriving DecidableEq, Repr

namespace Step

/-- The step, after further marks. -/
def after (marks : List Nat) : Step → Step
  | accept ms => accept (marks ++ ms)
  | read ms set next => read (marks ++ ms) set next

def isAccept : Step → Bool
  | accept _ => true
  | read .. => false

/-- The steps of a sequence whose first part offers the given step, whose second part is `second`
and offers `then_` where the first part accepts. -/
def followedBy (second : Regex) (then_ : List Step) : Step → List Step
  | accept ms => then_.map (after ms)
  | read ms set next => [read ms set (next.seq second)]

/-- The steps of `xs` and then those of `ys`. Where `xs` accepts, `ys` cannot add an acceptance. -/
def join (xs ys : List Step) : List Step :=
  xs ++ if xs.any isAccept then ys.filter (!·.isAccept) else ys

end Step

/-- The steps of something that may be left out: it is preferred if `greedy`. -/
def Step.optional (greedy : Bool) (offers : List Step) : List Step :=
  if greedy then join offers [.accept []] else join [.accept []] offers

/-- The steps of at most `max` iterations of a body, from those of the body. Each iteration may be
left out together with those after it. -/
def boundedSteps (body : Regex) (offers : List Step) (greedy : Bool) : (max : Nat) → List Step
  | 0 => [.accept []]
  | max + 1 =>
    Step.optional greedy (offers.flatMap (Step.followedBy (.rep body 0 (some max) greedy)
      (if offers.any Step.isAccept then boundedSteps body offers greedy max else [])))

/-- The steps of any number of further iterations, each of which reads something. -/
def furtherSteps (body : Regex) (offers : List Step) (greedy : Bool) : List Step :=
  Step.optional greedy (offers.flatMap (Step.followedBy (.rep body 0 none greedy) []))

/-- The steps of a repetition. -/
def repSteps (body : Regex) (offers : List Step) (greedy : Bool) :
    (min : Nat) → (max : Option Nat) → List Step
  | 0, some max => boundedSteps body offers greedy max
  | 0, none => furtherSteps body offers greedy
  | min + 1, max =>
    let max := max.map (· - 1)
    offers.flatMap (Step.followedBy (.rep body min max greedy)
      (if min = 0 ∧ max = none then [.accept []]
      else if offers.any Step.isAccept then repSteps body offers greedy min max
      else []))

/-- The steps of an expression between the character `before` a position and the one `after` it, in
order of preference. The steps of a second part are worked out only where the first part accepts. -/
def steps (before after : Option Char) : Regex → List Step
  | .empty => [.accept []]
  | .chars set => [.read [] set .empty]
  | .assert a => if a.holds before after then [.accept []] else []
  | .mark slot => [.accept [slot]]
  | .cat a b =>
    let offers := steps before after a
    offers.flatMap (Step.followedBy b
      (if offers.any Step.isAccept then steps before after b else []))
  | .alt a b => Step.join (steps before after a) (steps before after b)
  | .rep body min max greedy => repSteps body (steps before after body) greedy min max

/-- An expression that remains to be matched, and the marks passed before it, the latest first. -/
structure Thread where
  regex : Regex
  marks : List (Nat × Nat)
deriving DecidableEq, Repr

/-- The end of a match, and the marks passed on the way to it, the latest first. -/
structure Match where
  stop : Nat
  marks : List (Nat × Nat)
deriving DecidableEq, Repr

/-- The span between the last marks of the group `k`, if both were passed. -/
def Match.group? (m : Match) (k : Nat) : Option (Nat × Nat) := do
  return (← m.marks.lookup (2 * k), ← m.marks.lookup (2 * k + 1))

/-- The marks with further ones at the position `pos`. -/
def addMarks (pos : Nat) (slots : List Nat) (marks : List (Nat × Nat)) : List (Nat × Nat) :=
  slots.foldl (fun marks slot => (slot, pos) :: marks) marks

/-- Follows steps in order: the threads that read the character `next`, up to the first acceptance,
and the match accepted, if any. -/
def follow (pos : Nat) (next : Option Char) (marks : List (Nat × Nat)) :
    List Step → List Thread × Option Match
  | [] => ([], none)
  | .accept ms :: _ => ([], some ⟨pos, addMarks pos ms marks⟩)
  | .read ms set regex :: rest =>
    let (threads, found) := follow pos next marks rest
    if next.any set.contains then (⟨regex, addMarks pos ms marks⟩ :: threads, found)
    else (threads, found)

/-- Follows the steps of threads in order. -/
def followAll (pos : Nat) (before next : Option Char) : List Thread → List Thread × Option Match
  | [] => ([], none)
  | t :: rest =>
    match follow pos next t.marks (steps before next t.regex) with
    | (threads, some m) => (threads, some m)
    | (threads, none) =>
      let (more, found) := followAll pos before next rest
      (threads ++ more, found)

/-- The threads, of several with one expression only the first. -/
def distinct : List Thread → List Thread
  | [] => []
  | t :: rest => t :: (distinct rest).filter fun u => u.regex != t.regex

/-- The pass over the rest of a text, from the position `pos` on, which is `before`'s right. -/
def runFrom (pos : Nat) (before : Option Char) (threads : List Thread) (best : Option Match) :
    List Char → Option Match
  | [] => (followAll pos before none threads).2.or best
  | c :: rest =>
    let (next, found) := followAll pos before (some c) threads
    let best := found.or best
    if next.isEmpty then best else runFrom (pos + 1) (some c) (distinct next) best rest

/-- The preferred match that starts where the text starts. -/
def match? (r : Regex) (text : List Char) : Option Match :=
  runFrom 0 none [⟨r, []⟩] none text

/-- Whether the expression matches some part of the text. -/
def isMatch (r : Regex) (text : List Char) : Bool :=
  (match? (.cat skipAny r) text).isSome

end BuildTriage.Regex
