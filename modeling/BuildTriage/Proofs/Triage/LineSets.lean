import BuildTriage.Proofs.Triage.Catalogue
import BuildTriage.Proofs.Triage.Correction
import BuildTriage.Proofs.Triage.Evidence

/-!
# The order of lines

The verdict on a build depends on which lines its logs hold, and neither on their order nor on how
often they occur. There is one exception, and it is in the words: a rule that reports what a regular
expression matched reports the first match, and of several matches another one can come first in
another order. `verdict_of_same_lines` states both, for logs that are scanned for all signatures.
-/

namespace BuildTriage

variable {build build' alignment alignment' : ScanResult}

/-! ## Results in which the same patterns were found -/

lemma chosenIndex?_congr (hbuild : ∀ id, build.contains id = build'.contains id)
    (halignment : ∀ id, alignment.contains id = alignment'.contains id)
    (hblank : alignment.isBlank = alignment'.isBlank) :
    chosenIndex? build alignment = chosenIndex? build' alignment' := by
  have happlies : (fun r : Rule => r.applies build alignment)
      = fun r => r.applies build' alignment' := by
    funext r
    exact r.predicate.holds_congr hbuild halignment hblank
  rw [chosenIndex?, chosenIndex?, happlies]

/-- Where the same rule is chosen, the verdicts differ in their words alone. -/
lemma judge_eq_withMessage (hrule : firstRule? build alignment = firstRule? build' alignment') :
    judge build' alignment'
      = { judge build alignment with message := (judge build' alignment').message } := by
  cases hchosen : firstRule? build alignment with
  | none => rw [judge, judge, ← hrule, hchosen]
  | some r =>
    rw [judge, judge, ← hrule, hchosen]
    rfl

/-! ## The words of a rule -/

/-- The words of a rule are fixed unless they are what a regular expression matched. -/
lemma message_ofLines_of_not_regex {w : Wording}
    (hw : ∀ signature ∈ Signature.regexes, w ≠ .captured signature) (limit limit' : Nat)
    (lines lines' : List String) :
    w.message (.ofLines Signature.catalogue limit lines)
      = w.message (.ofLines Signature.catalogue limit' lines') := by
  cases w with
  | fixed text => rfl
  | captured signature =>
    have hregex : signature ∉ Signature.regexes := fun hmem => hw signature hmem rfl
    have hself (limit : Nat) (lines : List String) :
        (Wording.captured signature).message (.ofLines Signature.catalogue limit lines)
          = signature := by
      rw [Wording.message]
      cases hcaptured : (ScanResult.ofLines Signature.catalogue limit lines).captured? signature with
      | none => rfl
      | some text => exact Signature.eq_of_captured?_ofLines hregex hcaptured
    rw [hself, hself]

/-! ## Logs with the same lines -/

/-- **The verdict depends on which lines occur.** Let two build logs hold the same lines, and two
alignment logs as well, in whatever order and number, all scanned for the signatures of the
catalogue. Then the rule that is chosen, if any, is the same, and so are the group of the verdict,
whether it takes system errors back, and for every reported status the status of the outcome and
whether a verdict is recorded. The words are the same too, unless the rule reports what a regular
expression matched. -/
theorem verdict_of_same_lines (m m' n n' : Nat)
    {buildLines buildLines' alignmentLines alignmentLines' : List String}
    (hbuild : ∀ text, text ∈ buildLines ↔ text ∈ buildLines')
    (halignment : ∀ text, text ∈ alignmentLines ↔ text ∈ alignmentLines') :
    let build := ScanResult.ofLines Signature.catalogue m buildLines
    let build' := ScanResult.ofLines Signature.catalogue m' buildLines'
    let alignment := ScanResult.ofLines Signature.catalogue n alignmentLines
    let alignment' := ScanResult.ofLines Signature.catalogue n' alignmentLines'
    chosenIndex? build alignment = chosenIndex? build' alignment' ∧
      firstRule? build alignment = firstRule? build' alignment' ∧
      (judge build alignment).group = (judge build' alignment').group ∧
      (judge build alignment).previouslyMarked = (judge build' alignment').previouslyMarked ∧
      (∀ status : BuildStatus,
        (Outcome.ofLogs status build alignment).status
            = (Outcome.ofLogs status build' alignment').status ∧
          (Outcome.ofLogs status build alignment).verdict.isSome
            = (Outcome.ofLogs status build' alignment').verdict.isSome) ∧
      ((∀ signature ∈ Signature.regexes,
          (firstRule? build alignment).map Rule.wording ≠ some (.captured signature)) →
        (judge build alignment).message = (judge build' alignment').message) := by
  intro build build' alignment alignment'
  have hconsistent := Signature.catalogue_consistent
  have hindex : chosenIndex? build alignment = chosenIndex? build' alignment' :=
    chosenIndex?_congr (ScanResult.contains_ofLines_congr hconsistent hbuild)
      (ScanResult.contains_ofLines_congr hconsistent halignment)
      (ScanResult.isBlank_ofLines_congr hconsistent halignment)
  have hrule : firstRule? build alignment = firstRule? build' alignment' := by
    rw [firstRule?_eq_chosenIndex?_bind, firstRule?_eq_chosenIndex?_bind, hindex]
  have hjudge := judge_eq_withMessage hrule
  have hgroup : (judge build alignment).group = (judge build' alignment').group := by
    rw [hjudge]
  have hmarked : (judge build alignment).previouslyMarked
      = (judge build' alignment').previouslyMarked := by
    rw [hjudge]
  refine ⟨hindex, hrule, hgroup, hmarked, fun status => ⟨?_, ?_⟩, fun hregex => ?_⟩
  · rw [ofLogs_status, ofLogs_status]
    exact corrected_congr hgroup hmarked status
  · rw [ofLogs_verdict, ofLogs_verdict, hgroup]
    split <;> rfl
  · cases hchosen : firstRule? build alignment with
    | none => rw [judge, judge, ← hrule, hchosen]
    | some r =>
      have hwording : ∀ signature ∈ Signature.regexes, r.wording ≠ .captured signature := by
        intro signature hsignature heq
        apply hregex signature hsignature
        rw [hchosen, Option.map_some, heq]
      rw [judge, judge, ← hrule, hchosen]
      exact message_ofLines_of_not_regex hwording m m' buildLines buildLines'

/-- The rule that is chosen is on the first signature, of those of the leading rules, for which
anything was reported. -/
lemma firstRule?_of_captured {front : List String} {back : List Rule} {signature text : String}
    (hrules : Rule.capturedRules = front.map .reported ++ .reported signature :: back)
    (hfront : ∀ other ∈ front, build.captured? other = none)
    (hcaptured : build.captured? signature = some text) (alignment : ScanResult) :
    firstRule? build alignment = some (.reported signature) := by
  have happlies (other : String) :
      (Rule.reported other).applies build alignment = (build.captured? other).isSome := rfl
  have hnone : (front.map Rule.reported).find? (fun r => r.applies build alignment) = none := by
    rw [List.find?_eq_none]
    intro r hr
    obtain ⟨other, hother, rfl⟩ := List.mem_map.1 hr
    rw [happlies, hfront other hother]
    exact Bool.false_ne_true
  have hsignature : (Rule.reported signature).applies build alignment = true := by
    rw [happlies, hcaptured, Option.isSome_some]
  rw [firstRule?, Rule.table_eq_platform_append, hrules, List.append_assoc, List.append_assoc,
    List.find?_append, hnone, Option.none_or]
  exact List.find?_cons_of_pos hsignature

/-- Reports of two failures and a failed authorization, in two orders. The rule on the former is the
same for both orders, but its words are those of the report that comes first; with the latter, the
rule on it is chosen and its words are the same as well. -/
theorem verdict_of_same_lines_in_other_order :
    let buildLines := ["Exception trying to GET https://paas1/healthz/ready", "",
      "Exception trying to GET https://paas2/healthz/ready"]
    let buildLines' := ["Exception trying to GET https://paas2/healthz/ready",
      "Exception trying to GET https://paas1/healthz/ready", "",
      "Exception trying to GET https://paas1/healthz/ready"]
    let denied := "Unauthorized to access resource"
    let alignmentLines := ["", "Aligning"]
    let alignmentLines' := ["Aligning", "", "Aligning"]
    let result := ScanResult.ofLines Signature.catalogue 0
    (∀ text, text ∈ buildLines ↔ text ∈ buildLines') ∧
      (∀ text, text ∈ alignmentLines ↔ text ∈ alignmentLines') ∧
      (firstRule? (result buildLines) (result alignmentLines)
          = firstRule? (result buildLines') (result alignmentLines') ∧
        (judge (result buildLines) (result alignmentLines)).message
          = "Exception trying to GET https://paas1/healthz/ready" ∧
        (judge (result buildLines') (result alignmentLines')).message
          = "Exception trying to GET https://paas2/healthz/ready") ∧
      (judge (result (denied :: buildLines)) (result alignmentLines)).message
        = (judge (result (denied :: buildLines')) (result alignmentLines')).message := by
  intro buildLines buildLines' denied alignmentLines alignmentLines' result
  have hbuild : ∀ text, text ∈ buildLines ↔ text ∈ buildLines' := by
    intro text
    simp only [buildLines, buildLines', List.mem_cons, List.not_mem_nil, or_false]
    tauto
  have halignment : ∀ text, text ∈ alignmentLines ↔ text ∈ alignmentLines' := by
    intro text
    simp only [alignmentLines, alignmentLines', List.mem_cons, List.not_mem_nil, or_false]
    tauto
  have hdenied : ∀ text, text ∈ denied :: buildLines ↔ text ∈ denied :: buildLines' :=
    fun text => List.mem_cons.trans ((or_congr_right (hbuild text)).trans List.mem_cons.symm)
  have hregistered : ∀ r ∈ [Registration.literal Signature.unauthorized,
      .literal Signature.quotaExceeded, .regex Signature.healthProbeFailed],
      r ∈ Signature.registrations := by decide +kernel
  simp only [List.forall_mem_cons] at hregistered
  obtain ⟨hunauthorized, hquota, hhealth, -⟩ := hregistered
  have hmessage (lines : List String) (text : String) (alignment : ScanResult)
      (hreported : [Registration.literal Signature.unauthorized,
          .literal Signature.quotaExceeded, .regex Signature.healthProbeFailed].map
          (fun r => r.pattern?.bind fun p => lines.findSome? fun text => p.find? text.toList)
        = [none, none, some text]) : (judge (result lines) alignment).message = text := by
    simp only [List.map_cons, List.map_nil, List.cons.injEq, and_true] at hreported
    have hnone : ∀ other ∈ [Signature.unauthorized, Signature.quotaExceeded],
        (result lines).captured? other = none :=
      List.forall_mem_cons.2 ⟨(Signature.captured?_ofLines hunauthorized).trans hreported.1,
        List.forall_mem_singleton.2 ((Signature.captured?_ofLines hquota).trans hreported.2.1)⟩
    have hsome : (result lines).captured? Signature.healthProbeFailed = some text :=
      (Signature.captured?_ofLines hhealth).trans hreported.2.2
    rw [judge, firstRule?_of_captured rfl hnone hsome alignment]
    show ((result lines).captured? Signature.healthProbeFailed).getD _ = text
    rw [hsome, Option.getD_some]
  have hfixed : ∀ signature ∈ Signature.regexes,
      (firstRule? (result (denied :: buildLines)) (result alignmentLines)).map Rule.wording
        ≠ some (.captured signature) := by
    have hcaptured : (result (denied :: buildLines)).captured? Signature.unauthorized
        = some Signature.unauthorized :=
      (Signature.captured?_ofLines hunauthorized).trans (by decide +kernel)
    rw [firstRule?_of_captured rfl (List.forall_mem_nil _) hcaptured]
    decide +kernel
  obtain ⟨-, hrule, -⟩ := verdict_of_same_lines 0 0 0 0 hbuild halignment
  obtain ⟨-, -, -, -, -, hsame⟩ := verdict_of_same_lines 0 0 0 0 hdenied halignment
  refine ⟨hbuild, halignment, ⟨hrule, ?_, ?_⟩, hsame hfixed⟩
  · exact hmessage buildLines _ _ (by decide +kernel)
  · exact hmessage buildLines' _ _ (by decide +kernel)

end BuildTriage
