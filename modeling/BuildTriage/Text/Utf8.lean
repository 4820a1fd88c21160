/-!
# Reading UTF-8

Bytes are read one at a time by a machine that holds the sequence it is in the middle of. A sequence
that cannot go on is given up as one malformed part, and the byte that ended it is read afresh, so
each malformed part is as long as a well-formed sequence could have made it. `decodeLossy` puts the
replacement character for each malformed part; `decode?` accepts no malformed part.
-/

namespace BuildTriage.Text.Utf8

/-- What is held between two bytes: nothing, or a sequence begun. In a sequence `value` has the bits
read so far, `more` continuation bytes follow the next one, and the next one lies in
`low`, …, `high`. -/
inductive State where
  | ground
  | within (value : Nat) (more : Nat) (low high : UInt8)
deriving DecidableEq, Repr

/-- One part of the decoded text: a character, or a malformed part. -/
abbrev Part := Option Char

/-- The first byte of a sequence. Overlong forms, surrogates and values past the last code point are
kept out by the bounds on the second byte. -/
def State.start (b : UInt8) : List Part × State :=
  if b < 0x80 then ([some (Char.ofNat b.toNat)], .ground)
  else if b < 0xC2 then ([none], .ground)
  else if b < 0xE0 then ([], .within (b.toNat - 0xC0) 0 0x80 0xBF)
  else if b = 0xE0 then ([], .within 0 1 0xA0 0xBF)
  else if b = 0xED then ([], .within 0xD 1 0x80 0x9F)
  else if b < 0xF0 then ([], .within (b.toNat - 0xE0) 1 0x80 0xBF)
  else if b = 0xF0 then ([], .within 0 2 0x90 0xBF)
  else if b < 0xF4 then ([], .within (b.toNat - 0xF0) 2 0x80 0xBF)
  else if b = 0xF4 then ([], .within 4 2 0x80 0x8F)
  else ([none], .ground)

/-- Reads one byte: the parts that it completes and the state after it. -/
def State.step (state : State) (b : UInt8) : List Part × State :=
  match state with
  | .ground => State.start b
  | .within value more low high =>
    if low ≤ b ∧ b ≤ high then
      let value := value * 64 + (b.toNat - 0x80)
      match more with
      | 0 => ([some (Char.ofNat value)], .ground)
      | more + 1 => ([], .within value more 0x80 0xBF)
    else
      let (parts, next) := State.start b
      (none :: parts, next)

/-- The end of the input: a sequence left open is a malformed part. -/
def State.finish : State → List Part
  | .ground => []
  | .within .. => [none]

/-- The parts of the text from a given state on. -/
def State.parts (state : State) : List UInt8 → List Part
  | [] => state.finish
  | b :: rest =>
    let (parts, next) := state.step b
    parts ++ next.parts rest

/-- Reads one byte after the parts found so far, which are held last first. -/
def State.read (found : List Part × State) (b : UInt8) : List Part × State :=
  let (parts, next) := found.2.step b
  (parts.reverse ++ found.1, next)

/-- The parts of the text, gathered in one pass over the bytes. -/
def parts (bytes : List UInt8) : List Part :=
  let (found, state) := bytes.foldl State.read ([], .ground)
  (state.finish.reverse ++ found).reverse

theorem foldl_read (bytes : List UInt8) (found : List Part) (state : State) :
    (bytes.foldl State.read (found, state)).1.reverse
        ++ (bytes.foldl State.read (found, state)).2.finish
      = found.reverse ++ state.parts bytes := by
  induction bytes generalizing found state with
  | nil => simp [State.parts]
  | cons b rest ih => simp [State.parts, State.read, ih]

/-- The pass over the bytes yields the parts from the ground state on. -/
theorem parts_eq (bytes : List UInt8) : parts bytes = State.ground.parts bytes := by
  simpa [parts] using foldl_read bytes [] .ground

/-- The text with the replacement character U+FFFD for each malformed part. -/
def decodeLossy (bytes : List UInt8) : List Char :=
  (parts bytes).map fun part => part.getD '\ufffd'

/-- The text, if no part of the bytes is malformed. -/
def decode? (bytes : List UInt8) : Option (List Char) :=
  (parts bytes).mapM id

end BuildTriage.Text.Utf8
