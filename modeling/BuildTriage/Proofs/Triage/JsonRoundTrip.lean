import BuildTriage.Proofs.Calendar.TimeText
import BuildTriage.Proofs.Json.Records
import BuildTriage.Triage.JsonForm

/-!
# The JSON form loses nothing

What is written of a status, a failure group, a verdict, a build or a summary is read back as it
was, in either layout, and what is accepted in any other shape settles after it has been written
once (`json_lossless`). The numbers of a summary must fit into the words that they are read into,
which holds of every summary that was read and of every summary of a build.
-/

namespace BuildTriage

open Json (Decoder RecordDecoder Value Layout decodeText)
open Json.Draft (ofValue)
open Json.RecordDecoder (ReadsBack readsBack_field readsBack_optionalField Yields
  yields_optionalField yields_seq yields_map)

/-- The JSON form of the valid values of a type loses nothing. -/
structure Json.Lossless {α : Type} (valid : α → Prop) (toJson : α → Value) (decode : Decoder α) :
    Prop where
  /-- A value is read back from its text, in either layout. -/
  read_write : ∀ a, valid a → ∀ l : Layout, decodeText decode ((toJson a).toText l) = .ok a
  /-- What was read from an accepted text, of whatever shape, is accepted where it is written, and
  written as the same text again. -/
  settles : ∀ text a, decodeText decode text = .ok a → ∀ l : Layout,
    ∃ b, decodeText decode ((toJson a).toText l) = .ok b
      ∧ ∀ l' : Layout, (toJson b).toText l' = (toJson a).toText l'

namespace Json

/-- The form loses nothing if each valid value is read back from its draft, and only valid values
are ever read. -/
lemma lossless_of_ofValue {α : Type} {valid : α → Prop} {toJson : α → Value} {decode : Decoder α}
    (hread : ∀ a, valid a → decode (ofValue (toJson a)) = .ok a)
    (hvalid : ∀ d a, decode d = .ok a → valid a) : Lossless valid toJson decode where
  read_write a ha l := by rw [decodeText_toText, hread a ha]
  settles text a h l := by
    obtain ⟨d, hd⟩ := exists_of_decodeText_eq_ok h
    exact ⟨a, by rw [decodeText_toText, hread a (hvalid d a hd)], fun _ => rfl⟩

end Json

/-! ## Names and times -/

lemma BuildStatus.decoder_toJson (s : BuildStatus) :
    BuildStatus.decoder (ofValue s.toJson) = .ok s := by
  refine Decoder.variant_ofValue ?_
  cases s <;> decide

lemma FailureGroup.decoder_toJson (g : FailureGroup) :
    FailureGroup.decoder (ofValue g.toJson) = .ok g := by
  refine Decoder.variant_ofValue ?_
  cases g <;> decide

lemma Timestamp.decoder_toJson (t : Timestamp) : Timestamp.decoder (ofValue t.toJson) = .ok t := by
  simp only [Timestamp.decoder, Timestamp.toJson, ofValue, Decoder.parsed, t.parse_text]

/-! ## Records -/

/-- A field that may be absent is read back if what is present is never written as null. -/
lemma readsBack_optionalJson {α : Type} {decode : Decoder α} (name : String) (toJson : α → Value)
    (o : Option α) (hread : ∀ a ∈ o, decode (ofValue (toJson a)) = .ok a)
    (hnull : ∀ a, toJson a ≠ .null) :
    ReadsBack (RecordDecoder.optionalField name decode) [(name, optionalJson toJson o)] o := by
  refine readsBack_optionalField name ?_
  cases o with
  | none => rfl
  | some a =>
    have ha := hread a rfl
    have hne := hnull a
    cases h : toJson a <;> simp_all [optionalJson, Decoder.optional, ofValue, Except.map]

lemma Verdict.decoder_toJson (v : Verdict) : Verdict.decoder (ofValue v.toJson) = .ok v := by
  have hread := (readsBack_field "group" v.group.decoder_toJson).map Verdict.mk
    |>.seq (readsBack_field "message" (Decoder.text_ofValue v.message))
    |>.seq (readsBack_field "previously_marked_system_error"
      (Decoder.bool_ofValue v.previouslyMarked))
  exact hread.decoder (by simp) "DetectedCategory"

lemma Build.decoder_toJson (b : Build) : Build.decoder (ofValue b.toJson) = .ok b := by
  have hread := (readsBack_field "id" (Decoder.text_ofValue b.id)).map Build.mk
    |>.seq (readsBack_field "status" b.status.decoder_toJson)
    |>.seq (readsBack_field "temporary_build" (Decoder.bool_ofValue b.isTemporary))
    |>.seq (readsBack_field "build_type" (Decoder.text_ofValue b.buildType))
    |>.seq (readsBack_optionalJson "submit_time" Timestamp.toJson b.submitTime
      (fun t _ => t.decoder_toJson) (by simp [Timestamp.toJson]))
  exact hread.decoder (by simp) "BuildInfo"

/-- The numbers of the summary fit into the words that hold them: a signed word of 32 bits for the
year, and unsigned ones for month and quarter. -/
structure Summary.InRange (s : Summary) : Prop where
  year : ∀ y ∈ s.submitYear, -2 ^ 31 ≤ y ∧ y < 2 ^ 31
  month : ∀ n ∈ s.submitMonth, n < 2 ^ 32
  quarter : ∀ n ∈ s.submitQuarter, n < 2 ^ 32

lemma Summary.decoder_toJson {s : Summary} (h : s.InRange) :
    Summary.decoder (ofValue s.toJson) = .ok s := by
  have hread := (readsBack_field "build_id" (Decoder.text_ofValue s.buildId)).map Summary.mk
    |>.seq (readsBack_field "nominal_status" s.nominalStatus.decoder_toJson)
    |>.seq (readsBack_field "status" s.status.decoder_toJson)
    |>.seq (readsBack_field "build_type" (Decoder.text_ofValue s.buildType))
    |>.seq (readsBack_field "temporary_build" (Decoder.bool_ofValue s.isTemporary))
    |>.seq (readsBack_field "auto_align" (Decoder.bool_ofValue s.autoAlign))
    |>.seq (readsBack_field "brew_pull_active" (Decoder.bool_ofValue s.brewPullActive))
    |>.seq (readsBack_optionalJson "categorized_error_group" FailureGroup.toJson s.errorGroup
      (fun g _ => g.decoder_toJson) (by simp [FailureGroup.toJson]))
    |>.seq (readsBack_optionalJson "categorized_error_message" Value.text s.errorMessage
      (fun m _ => Decoder.text_ofValue m) (by simp))
    |>.seq (readsBack_optionalJson "submit_year" Value.integer s.submitYear
      (fun y hy => Decoder.int32_ofValue (h.year y hy).1 (h.year y hy).2) (by simp))
    |>.seq (readsBack_optionalJson "submit_month" (fun n : Nat => Value.integer n) s.submitMonth
      (fun n hn => Decoder.nat32_ofValue (h.month n hn)) (by simp))
    |>.seq (readsBack_optionalJson "submit_quarter" (fun n : Nat => Value.integer n) s.submitQuarter
      (fun n hn => Decoder.nat32_ofValue (h.quarter n hn)) (by simp))
    |>.seq (readsBack_field "trimmed_build_log" (Decoder.text_ofValue s.buildTail))
    |>.seq (readsBack_field "trimmed_alignment_log" (Decoder.text_ofValue s.alignmentTail))
  simp only [List.cons_append, List.nil_append] at hread
  exact hread.decoder (by simp) "ArchiveSummary"

/-- A summary that was read is in range. -/
lemma Summary.inRange_of_decoder {d : Json.Draft} {s : Summary} (h : Summary.decoder d = .ok s) :
    s.InRange := by
  have hyear := yields_optionalField "submit_year" @Decoder.int32_range
  have hmonth := yields_optionalField "submit_month" @Decoder.nat32_lt
  have hquarter := yields_optionalField "submit_quarter" @Decoder.nat32_lt
  refine Yields.of_decoder ?_ h
  refine yields_seq <| yields_seq <| hquarter.seq <| hmonth.seq <| hyear.seq ?_
  refine yields_seq <| yields_seq <| yields_seq <| yields_seq <| yields_seq <| yields_seq <|
    yields_seq <| yields_seq <| yields_map ?_
  intro _ _ _ _ _ _ _ _ _ _ hyear _ hmonth _ hquarter _ _
  exact ⟨hyear, hmonth, hquarter⟩

/-- The summary of a build is in range, since its numbers come from a date. -/
lemma Build.summarize_inRange (b : Build) (build alignment : ScanResult) :
    (b.summarize build alignment).InRange := by
  cases htime : b.submitTime with
  | none => constructor <;> simp [Build.summarize, htime]
  | some t =>
    have hyear := And.intro t.minYear_le t.le_maxYear
    have hmonth := t.date.month_le
    simp only [minYear, maxYear] at hyear
    constructor <;> simp only [Build.summarize, htime, Option.map_some, Option.mem_def,
      Option.some.injEq, forall_eq', Date.quarter] <;> omega

/-- **The JSON form loses nothing.** Statuses, failure groups, verdicts, builds and summaries are
read back from what is written of them, and every text that is accepted as one of them settles after
it has been written once. -/
theorem json_lossless :
    Json.Lossless (fun _ => True) BuildStatus.toJson BuildStatus.decoder
      ∧ Json.Lossless (fun _ => True) FailureGroup.toJson FailureGroup.decoder
      ∧ Json.Lossless (fun _ => True) Verdict.toJson Verdict.decoder
      ∧ Json.Lossless (fun _ => True) Build.toJson Build.decoder
      ∧ Json.Lossless Summary.InRange Summary.toJson Summary.decoder :=
  ⟨Json.lossless_of_ofValue (fun s _ => s.decoder_toJson) fun _ _ _ => trivial,
    Json.lossless_of_ofValue (fun g _ => g.decoder_toJson) fun _ _ _ => trivial,
    Json.lossless_of_ofValue (fun v _ => v.decoder_toJson) fun _ _ _ => trivial,
    Json.lossless_of_ofValue (fun b _ => b.decoder_toJson) fun _ _ _ => trivial,
    Json.lossless_of_ofValue (fun _ => Summary.decoder_toJson)
      fun _ _ => Summary.inRange_of_decoder⟩

/-- An object with a single null member settles as the name of the member. -/
example : decodeText BuildStatus.decoder "\x7b\"FAILED\" : null\x7d" = .ok .failed := by
  decide +kernel

end BuildTriage
