import BuildTriage.Text.Search

/-!
# The tail of a log

A tail window keeps the last lines of a log whose lengths add up to no more than a limit, line feeds
not counted. The first line that holds the error marker starts the window afresh; later ones are
lines like any other. The lines are held in two lists, the older ones oldest first and the newer
ones newest first, so that both ends are at hand.
-/

namespace BuildTriage

/-- What marks the line from which on a log is interesting. -/
def errorMarker : String := "Caught exception:"

/-- The last lines of a log, up to a limit on their total length in bytes. -/
structure TailWindow where
  /-- The limit; with 0 no line is kept. -/
  limit : Nat
  older : List String := []
  newer : List String := []
  /-- The total length of the lines. -/
  size : Nat := 0
  /-- Whether a line with the marker was seen. -/
  markerSeen : Bool := false
deriving DecidableEq, Repr

namespace TailWindow

/-- The window without a line. -/
def ofLimit (limit : Nat) : TailWindow :=
  { limit := limit }

/-- The lines kept, oldest first. -/
def lines (w : TailWindow) : List String :=
  w.older ++ w.newer.reverse

def isEnabled (w : TailWindow) : Bool :=
  0 < w.limit

/-- Drops lines from the front of a list of total length `size` while that exceeds the limit. -/
def evict (limit : Nat) : (size : Nat) → List String → Nat × List String
  | size, [] => (size, [])
  | size, line :: rest =>
    if limit < size then evict limit (size - line.utf8ByteSize) rest else (size, line :: rest)

/-- Drops the oldest lines while the total length exceeds the limit. -/
def shrink (w : TailWindow) : TailWindow :=
  let (size, older) := evict w.limit w.size w.older
  if w.limit < size then
    let (size, lines) := evict w.limit size w.newer.reverse
    { w with size := size, older := lines, newer := [] }
  else { w with size := size, older := older }

/-- Whether the line holds the error marker. -/
def hasMarker (line : String) : Bool :=
  Text.occursIn errorMarker.toList line.toList

/-- Adds a line to a window that is enabled. -/
def add (w : TailWindow) (line : String) : TailWindow :=
  shrink { w with size := w.size + line.utf8ByteSize, newer := line :: w.newer }

/-- Adds a line. -/
def push (w : TailWindow) (line : String) : TailWindow :=
  if w.limit = 0 then w
  else if !w.markerSeen && hasMarker line then
    add { w with older := [], newer := [], size := 0, markerSeen := true } line
  else w.add line

/-- The lines kept, joined by line feeds. -/
def text (w : TailWindow) : String :=
  "\n".intercalate w.lines

/-- How many lines are kept. -/
def length (w : TailWindow) : Nat :=
  w.lines.length

end TailWindow

end BuildTriage
