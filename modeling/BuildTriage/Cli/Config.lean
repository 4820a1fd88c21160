import BuildTriage.Toml.Document

/-!
# The configuration

A configuration is a TOML document with two keys, both of which may be left out. Other keys are not
looked at.
-/

namespace BuildTriage

/-- What can be configured. -/
structure Config where
  /-- How much of the tail of a log is kept, in bytes. -/
  maxTail : Nat := 1000000
  /-- Which events are shown, if nothing else says so. -/
  logFilter : String := "warn"
deriving DecidableEq, Repr

namespace Config

/-- The size given by a value. -/
def size? : Toml.Node → Option Nat
  | .integer (.ofNat n) => some n
  | _ => none

/-- The text given by a value. -/
def text? : Toml.Node → Option String
  | .text s => some s
  | _ => none

/-- The configuration written in a document. -/
def parse? (document : String) : Option Config := do
  let entries ← Toml.parse? document
  let standard : Config := {}
  let maxTail ←
    match entries.lookup "trimmed_log_max_size" with
    | some n => size? n
    | none => some standard.maxTail
  let logFilter ←
    match entries.lookup "log_level" with
    | some n => text? n
    | none => some standard.logFilter
  return { maxTail := maxTail, logFilter := logFilter }

end Config

end BuildTriage
