import BuildTriage.Json.Decode
import BuildTriage.Json.Value
import BuildTriage.Triage.Summary

/-!
# The JSON form of builds, verdicts and summaries

A status and a group are written as their names, a time as its text, and a record as an object of
its fields, in which what is absent is null.
-/

namespace BuildTriage

open Json (Decoder RecordDecoder Value)
open Json.RecordDecoder (field optionalField)

namespace BuildStatus

def toJson (s : BuildStatus) : Value :=
  .text s.name

def decoder : Decoder BuildStatus :=
  Decoder.variant (all.map fun s => (s.name, s))

end BuildStatus

namespace FailureGroup

def toJson (g : FailureGroup) : Value :=
  .text g.name

def decoder : Decoder FailureGroup :=
  Decoder.variant (all.map fun g => (g.name, g))

end FailureGroup

namespace Timestamp

def toJson (t : Timestamp) : Value :=
  .text t.text

def decoder : Decoder Timestamp :=
  Decoder.parsed parse TimeError.message "an RFC 3339 formatted date and time string"

end Timestamp

/-- The form of a value that may be absent. -/
def optionalJson {α : Type} (toJson : α → Value) : Option α → Value
  | some a => toJson a
  | none => .null

namespace Verdict

def toJson (v : Verdict) : Value :=
  .object
    [("group", v.group.toJson),
     ("message", .text v.message),
     ("previously_marked_system_error", .bool v.previouslyMarked)]

def decoder : Decoder Verdict :=
  RecordDecoder.decoder
    (Verdict.mk
      <$> field "group" FailureGroup.decoder
      <*> field "message" Decoder.text
      <*> field "previously_marked_system_error" Decoder.bool)
    "DetectedCategory"

end Verdict

namespace Build

def toJson (b : Build) : Value :=
  .object
    [("id", .text b.id),
     ("status", b.status.toJson),
     ("temporary_build", .bool b.isTemporary),
     ("build_type", .text b.buildType),
     ("submit_time", optionalJson Timestamp.toJson b.submitTime)]

def decoder : Decoder Build :=
  RecordDecoder.decoder
    (Build.mk
      <$> field "id" Decoder.text
      <*> field "status" BuildStatus.decoder
      <*> field "temporary_build" Decoder.bool
      <*> field "build_type" Decoder.text
      <*> optionalField "submit_time" Timestamp.decoder)
    "BuildInfo"

end Build

namespace Summary

def toJson (s : Summary) : Value :=
  .object
    [("build_id", .text s.buildId),
     ("nominal_status", s.nominalStatus.toJson),
     ("status", s.status.toJson),
     ("build_type", .text s.buildType),
     ("temporary_build", .bool s.isTemporary),
     ("auto_align", .bool s.autoAlign),
     ("brew_pull_active", .bool s.brewPullActive),
     ("categorized_error_group", optionalJson FailureGroup.toJson s.errorGroup),
     ("categorized_error_message", optionalJson Value.text s.errorMessage),
     ("submit_year", optionalJson Value.integer s.submitYear),
     ("submit_month", optionalJson (fun n : Nat => Value.integer n) s.submitMonth),
     ("submit_quarter", optionalJson (fun n : Nat => Value.integer n) s.submitQuarter),
     ("trimmed_build_log", .text s.buildTail),
     ("trimmed_alignment_log", .text s.alignmentTail)]

def decoder : Decoder Summary :=
  RecordDecoder.decoder
    (Summary.mk
      <$> field "build_id" Decoder.text
      <*> field "nominal_status" BuildStatus.decoder
      <*> field "status" BuildStatus.decoder
      <*> field "build_type" Decoder.text
      <*> field "temporary_build" Decoder.bool
      <*> field "auto_align" Decoder.bool
      <*> field "brew_pull_active" Decoder.bool
      <*> optionalField "categorized_error_group" FailureGroup.decoder
      <*> optionalField "categorized_error_message" Decoder.text
      <*> optionalField "submit_year" Decoder.int32
      <*> optionalField "submit_month" Decoder.nat32
      <*> optionalField "submit_quarter" Decoder.nat32
      <*> field "trimmed_build_log" Decoder.text
      <*> field "trimmed_alignment_log" Decoder.text)
    "ArchiveSummary"

end Summary

end BuildTriage
