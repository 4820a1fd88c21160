import BuildTriage.Text.Utf8

/-!
# Lines of a log

A log is a sequence of bytes; the line feed ends a raw line. A raw line is read as text by dropping
one carriage return at its end and replacing what is not UTF-8.
-/

namespace BuildTriage

/-- The byte that ends a raw line. -/
def newline : UInt8 := 0x0A

/-- The byte that may stand before a line feed and does not belong to the line. -/
def carriageReturn : UInt8 := 0x0D

/-- The raw line without a carriage return at its end. -/
def dropReturn (raw : List UInt8) : List UInt8 :=
  if raw.getLast? = some carriageReturn then raw.dropLast else raw

/-- The text of a raw line. -/
def decodeLine (raw : List UInt8) : String :=
  String.ofList (Text.Utf8.decodeLossy (dropReturn raw))

/-- Reads one byte after the raw lines that are complete and the bytes after them, both held last
first. -/
def cutStep (cut : List (List UInt8) × List UInt8) (b : UInt8) : List (List UInt8) × List UInt8 :=
  if b = newline then (cut.2.reverse :: cut.1, []) else (cut.1, b :: cut.2)

/-- The raw lines that a line feed ends, and the bytes after the last line feed. -/
def cutLines (bytes : List UInt8) : List (List UInt8) × List UInt8 :=
  let (lines, rest) := bytes.foldl cutStep ([], [])
  (lines.reverse, rest.reverse)

/-- The raw lines of a whole log; bytes after the last line feed are a line as well. -/
def rawLines (bytes : List UInt8) : List (List UInt8) :=
  let (lines, rest) := cutLines bytes
  if rest.isEmpty then lines else lines ++ [rest]

end BuildTriage
