import BuildTriage.Json.Draft
import BuildTriage.Text.Quoted

/-!
# Reading values from JSON

A decoder reads a value from a draft, or finds the first fault, from left to right: a draft that is
broken before anything else is wrong with it is malformed.

A record is read from an object, whose members may come in any order and of which those that are no
fields are skipped, or from an array of all fields in order. A `RecordDecoder` knows the fields and
makes a record of them; it is put together field by field.
-/

namespace BuildTriage.Json

/-- Why a text is not the JSON form of a value. -/
inductive Fault where
  /-- The text is no JSON, or holds something where no value of the kind can stand. -/
  | malformed
  | invalidType (found expected : String)
  | invalidValue (i : Int) (expected : String)
  | invalidLength (length : Nat) (expected : String)
  | missingField (name : String)
  | duplicateField (name : String)
  | unknownVariant (name : String) (known : List String)
  /-- A text that its own reader refuses, with the message of that reader. -/
  | refused (message : String)
deriving DecidableEq, Repr

/-- The message of a fault other than a malformed text. -/
def Fault.message : Fault → String
  | malformed => "malformed"
  | invalidType found expected => "invalid type: " ++ found ++ ", expected " ++ expected
  | invalidValue i expected =>
    "invalid value: integer `" ++ String.ofList (Text.integer i) ++ "`, expected " ++ expected
  | invalidLength length expected =>
    "invalid length " ++ String.ofList (Text.decimal length) ++ ", expected " ++ expected
  | missingField name => "missing field `" ++ name ++ "`"
  | duplicateField name => "duplicate field `" ++ name ++ "`"
  | unknownVariant name known =>
    "unknown variant `" ++ name ++ "`, expected one of "
      ++ ", ".intercalate (known.map fun v => "`" ++ v ++ "`")
  | refused message => message

/-- A number in the words of a message. -/
def Number.describe : Number → String
  | integer i => "integer `" ++ String.ofList (Text.integer i) ++ "`"
  | double x => "floating point `" ++ String.ofList (Text.doubleText x) ++ "`"

/-- A value in the words of a message, if it is well-formed as far as it has to be read to tell. -/
def Draft.describe? : Draft → Option String
  | null => some "null"
  | bool b => some ("boolean `" ++ (if b then "true" else "false") ++ "`")
  | number n => n.value?.map Number.describe
  | text content => content.map fun s => "string " ++ Text.quoted s
  | array _ => some "sequence"
  | object _ => some "map"
  | broken => none

/-- Reads a value from a draft. -/
abbrev Decoder (α : Type) := Draft → Except Fault α

/-- The fault of a draft that is of another kind than expected. -/
def mismatch {α : Type} (expected : String) : Decoder α := fun d =>
  match d.describe? with
  | some found => .error (.invalidType found expected)
  | none => .error .malformed

namespace Decoder

def text : Decoder String
  | .text (some s) => .ok s
  | d => mismatch "a string" d

def bool : Decoder Bool
  | .bool b => .ok b
  | d => mismatch "a boolean" d

/-- Reads an integer between two bounds. -/
def integerWithin (low high : Int) (expected : String) : Decoder Int := fun d =>
  match d with
  | .number n =>
    match n.value? with
    | some (.integer i) =>
      if low ≤ i ∧ i ≤ high then .ok i else .error (.invalidValue i expected)
    | _ => mismatch expected d
  | d => mismatch expected d

/-- Reads an integer that a signed 32-bit word can hold. -/
def int32 : Decoder Int :=
  integerWithin (-Nat.pow 2 31) (Nat.pow 2 31 - 1) "i32"

/-- Reads an integer that an unsigned 32-bit word can hold. -/
def nat32 : Decoder Nat := fun d =>
  (integerWithin 0 (Nat.pow 2 32 - 1) "u32" d).map Int.toNat

/-- Reads null, or a value. -/
def optional {α : Type} (decode : Decoder α) : Decoder (Option α)
  | .null => .ok none
  | d => (decode d).map some

/-- Reads a text that stands for a value by rules of its own. -/
def parsed {α ε : Type} (parse : String → Except ε α) (message : ε → String) (expected : String) :
    Decoder α
  | .text (some s) =>
    match parse s with
    | .ok v => .ok v
    | .error e => .error (.refused (message e))
  | d => mismatch expected d

/-- Finds the value with a name. -/
def variantNamed {α : Type} (variants : List (String × α)) (name : String) : Except Fault α :=
  match variants.lookup name with
  | some v => .ok v
  | none => .error (.unknownVariant name (variants.map Prod.fst))

/-- Reads one of several values by its name, given as a text or as the key of an object whose only
member is null. -/
def variant {α : Type} (variants : List (String × α)) : Decoder α
  | .text (some name) => variantNamed variants name
  | .object ((.text (some name), content) :: rest) => do
    let v ← variantNamed variants name
    match content with
    | .null => pure ()
    | content => mismatch "unit" content
    if rest.isEmpty then return v else throw .malformed
  | .object ((key, _) :: _) => mismatch "variant identifier" key
  | _ => .error .malformed

end Decoder

/-- How a record is read from its fields. -/
structure RecordDecoder (α : Type) where
  /-- The fields in order, each with what can be wrong with it. -/
  fields : List (String × Decoder Unit)
  /-- The record, given what stands for each field. -/
  build : (String → Option Draft) → Except Fault α

namespace RecordDecoder

/-- The record without a field. -/
protected def pure {α : Type} (a : α) : RecordDecoder α :=
  ⟨[], fun _ => .ok a⟩

/-- A record that makes a function out of some fields, and its argument out of the fields that
follow. -/
protected def seq {α β : Type} (f : RecordDecoder (α → β)) (a : RecordDecoder α) :
    RecordDecoder β :=
  ⟨f.fields ++ a.fields, fun content => do return (← f.build content) (← a.build content)⟩

instance : Applicative RecordDecoder where
  pure := RecordDecoder.pure
  seq f a := f.seq (a ())

/-- A field that has to be there. -/
def field {α : Type} (name : String) (decode : Decoder α) : RecordDecoder α where
  fields := [(name, fun d => (decode d).map fun _ => ())]
  build content :=
    match content name with
    | some d => decode d
    | none => .error (.missingField name)

/-- A field that may be null or left out. -/
def optionalField {α : Type} (name : String) (decode : Decoder α) : RecordDecoder (Option α) where
  fields := [(name, fun d => (Decoder.optional decode d).map fun _ => ())]
  build content :=
    match content name with
    | some d => Decoder.optional decode d
    | none => .ok none

/-- Checks members from left to right, and finds the contents of the fields among them. Members
found before are given. -/
def members (fields : List (String × Decoder Unit)) (found : List (String × Draft)) :
    List (Draft × Draft) → Except Fault (List (String × Draft))
  | [] => .ok found
  | (.text (some name), content) :: rest =>
    match fields.lookup name with
    | some check =>
      if (found.lookup name).isSome then .error (.duplicateField name)
      else
        match check content with
        | .ok () => members fields ((name, content) :: found) rest
        | .error e => .error e
    | none => if content.isWhole then members fields found rest else .error .malformed
  | _ :: _ => .error .malformed

/-- Checks items from left to right against the fields. `position` fields have been read. -/
def items (expected : String) (position : Nat) :
    List (String × Decoder Unit) → List Draft → Except Fault (List (String × Draft))
  | [], [] => .ok []
  | [], _ :: _ => .error .malformed
  | _ :: _, [] => .error (.invalidLength position expected)
  | (name, check) :: fields, content :: rest =>
    match check content with
    | .ok () => (items expected (position + 1) fields rest).map ((name, content) :: ·)
    | .error e => .error e

/-- Reads a record of the type with the given name. -/
def decoder {α : Type} (r : RecordDecoder α) (typeName : String) : Decoder α
  | .object content => do
    let found ← members r.fields [] content
    r.build fun name => found.lookup name
  | .array content => do
    let expected := "struct " ++ typeName ++ " with " ++ String.ofList (Text.decimal r.fields.length)
      ++ " elements"
    let found ← items expected 0 r.fields content
    r.build fun name => found.lookup name
  | d => mismatch ("struct " ++ typeName) d

end RecordDecoder

/-- Reads a whole text. -/
def decodeText {α : Type} (decode : Decoder α) (text : String) : Except Fault α := do
  let (d, isClean) := Draft.ofText text.toList
  let v ← decode d
  if isClean then return v else throw .malformed

end BuildTriage.Json
