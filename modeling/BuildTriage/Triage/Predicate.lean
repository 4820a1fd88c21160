import BuildTriage.Triage.Signature

/-!
# Predicates on the logs of a build

A build has two logs, its own and that of the alignment of its sources. A predicate combines what
their scans found with "and" and "or".
-/

namespace BuildTriage

/-- A condition on the build log and the alignment log. -/
inductive Predicate where
  /-- The build log holds the signature. -/
  | build (signature : String)
  /-- The alignment log holds the signature. -/
  | alignment (signature : String)
  /-- The alignment log has no line, or only empty ones. -/
  | alignmentEmpty
  | all (parts : List Predicate)
  | any (parts : List Predicate)

namespace Predicate

mutual

/-- Whether the predicate holds for the two scans. -/
def holds (build alignment : ScanResult) : Predicate → Bool
  | .build signature => build.contains signature
  | .alignment signature => alignment.contains signature
  | .alignmentEmpty => alignment.isBlank
  | .all parts => allHold build alignment parts
  | .any parts => anyHolds build alignment parts

/-- Whether all of the predicates hold. -/
def allHold (build alignment : ScanResult) : List Predicate → Bool
  | [] => true
  | p :: rest => p.holds build alignment && allHold build alignment rest

/-- Whether one of the predicates holds. -/
def anyHolds (build alignment : ScanResult) : List Predicate → Bool
  | [] => false
  | p :: rest => p.holds build alignment || anyHolds build alignment rest

end

mutual

/-- The signatures that the predicate names, from left to right. -/
def signatures : Predicate → List String
  | .build signature | .alignment signature => [signature]
  | .alignmentEmpty => []
  | .all parts | .any parts => signaturesOfAll parts

/-- The signatures that the predicates name, from left to right. -/
def signaturesOfAll : List Predicate → List String
  | [] => []
  | p :: rest => p.signatures ++ signaturesOfAll rest

end

mutual

/-- The predicate as text. -/
def text : Predicate → List Char
  | .build signature => "build[".toList ++ (Text.quoted signature).toList ++ [']']
  | .alignment signature => "alignment[".toList ++ (Text.quoted signature).toList ++ [']']
  | .alignmentEmpty => "alignment.empty".toList
  | .all parts => '(' :: (joined " && ".toList parts ++ [')'])
  | .any parts => '(' :: (joined " || ".toList parts ++ [')'])

/-- The predicates as text, with a joint between each two. -/
def joined (joint : List Char) : List Predicate → List Char
  | [] => []
  | p :: rest => p.text ++ joinedAfter joint rest

/-- The predicates as text, each after a joint. -/
def joinedAfter (joint : List Char) : List Predicate → List Char
  | [] => []
  | p :: rest => joint ++ p.text ++ joinedAfter joint rest

end

/-- The predicate for a reader. -/
def describe (p : Predicate) : String :=
  String.ofList p.text

theorem allHold_eq (build alignment : ScanResult) (parts : List Predicate) :
    allHold build alignment parts = parts.all (holds build alignment) := by
  induction parts with
  | nil => rfl
  | cons p rest ih => simp [allHold, ih]

theorem anyHolds_eq (build alignment : ScanResult) (parts : List Predicate) :
    anyHolds build alignment parts = parts.any (holds build alignment) := by
  induction parts with
  | nil => rfl
  | cons p rest ih => simp [anyHolds, ih]

theorem signaturesOfAll_eq (parts : List Predicate) :
    signaturesOfAll parts = parts.flatMap signatures := by
  induction parts with
  | nil => rfl
  | cons p rest ih => simp [signaturesOfAll, ih]

end Predicate

end BuildTriage
