import BuildTriage.Log.Framer
import BuildTriage.Log.Scan

/-!
# Where lines come from

A log is read from a source of bytes, which serves them in chunks and then ends or fails, or from a
stream of lines, which ends at its first failure. Whatever was read before a failure counts; a line
that a failure leaves without its line feed does not.
-/

namespace BuildTriage

/-- Bytes in chunks, at the end of which the source ends or fails. -/
structure ByteSource where
  chunks : List (List UInt8)
  failed : Bool := false
deriving DecidableEq, Repr

namespace ByteSource

/-- The source of some bytes that does not fail. -/
def ofBytes (bytes : List UInt8) : ByteSource :=
  { chunks := [bytes] }

/-- All bytes that the source serves. -/
def bytes (source : ByteSource) : List UInt8 :=
  source.chunks.flatten

/-- The lines of the source, read whole. -/
def lines (source : ByteSource) : List String :=
  (if source.failed then (cutLines source.bytes).1 else rawLines source.bytes).map decodeLine

/-- The lines that a framer takes off the bytes it holds, off the chunks as they come, and at the
end. -/
def framedLines (source : ByteSource) (framer : Framer) : List String :=
  let (found, framer) := source.chunks.foldl
    (fun (found, framer) chunk =>
      let (new, framer) := (Framer.feed framer chunk).drain
      (found ++ new, framer))
    framer.drain
  if source.failed then found else found ++ framer.drainAtEnd.1

end ByteSource

/-- The lines of a stream up to its first failure. -/
def streamLines {ε : Type} : List (Except ε String) → List String
  | .ok line :: rest => line :: streamLines rest
  | _ => []

namespace Scan

/-- Reads the lines of a source of bytes. -/
def readSource (s : Scan) (source : ByteSource) : Scan :=
  s.readLines source.lines

/-- Reads the lines of a stream. -/
def readStream {ε : Type} (s : Scan) (items : List (Except ε String)) : Scan :=
  s.readLines (streamLines items)

/-- Reads the lines that a framer takes off a source of bytes. -/
def readFramed (s : Scan) (source : ByteSource) (framer : Framer) : Scan :=
  s.readLines (source.framedLines framer)

end Scan

end BuildTriage
