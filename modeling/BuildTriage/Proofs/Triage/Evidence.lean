import BuildTriage.Proofs.Log.Occurrence
import BuildTriage.Proofs.Triage.Priority

/-!
# More evidence

Predicates ask what the logs hold, and hardly ever what they do not hold: only a blank alignment log
can cease to be one when lines are added. So where the alignment log has something to say, a
predicate that holds for two logs holds for all that have further lines in them
(`Predicate.holds_mono`), and the rule that is chosen then stands no later in the table.
`chosenIndex?_of_more_lines` says so of logs with lines inserted anywhere.
-/

namespace BuildTriage

/-! ## Induction over predicates -/

/-- A property holds for all predicates if it holds for the simple ones, and for those with parts
where it holds for each part. -/
@[elab_as_elim, induction_eliminator]
theorem Predicate.induction {motive : Predicate → Prop}
    (build : ∀ signature, motive (.build signature))
    (alignment : ∀ signature, motive (.alignment signature))
    (alignmentEmpty : motive .alignmentEmpty)
    (all : ∀ parts, (∀ p ∈ parts, motive p) → motive (.all parts))
    (any : ∀ parts, (∀ p ∈ parts, motive p) → motive (.any parts)) : ∀ p, motive p
  | .build signature => build signature
  | .alignment signature => alignment signature
  | .alignmentEmpty => alignmentEmpty
  | .all parts =>
    all parts fun p _ => Predicate.induction build alignment alignmentEmpty all any p
  | .any parts =>
    any parts fun p _ => Predicate.induction build alignment alignmentEmpty all any p

variable {build build' alignment alignment' : ScanResult}

namespace Predicate

lemma holds_all_iff (parts : List Predicate) :
    (all parts).holds build alignment = true ↔ ∀ p ∈ parts, p.holds build alignment = true := by
  rw [holds, allHold_eq, List.all_eq_true]

lemma holds_any_iff (parts : List Predicate) :
    (any parts).holds build alignment = true ↔ ∃ p ∈ parts, p.holds build alignment = true := by
  rw [holds, anyHolds_eq, List.any_eq_true]

end Predicate

/-! ## More is found -/

/-- Every pattern that the one result has found the other has found as well. -/
def ScanResult.FoundIn (r more : ScanResult) : Prop :=
  ∀ id, r.contains id = true → more.contains id = true

/-- A predicate that holds keeps holding when more is found, unless the alignment log ceases to be
blank. -/
theorem Predicate.holds_mono (hbuild : build.FoundIn build')
    (halignment : alignment.FoundIn alignment')
    (hblank : alignment.isBlank = true → alignment'.isBlank = true) (p : Predicate)
    (hp : p.holds build alignment = true) : p.holds build' alignment' = true := by
  induction p with
  | build signature => exact hbuild signature hp
  | alignment signature => exact halignment signature hp
  | alignmentEmpty => exact hblank hp
  | all parts ih =>
    rw [holds_all_iff] at hp ⊢
    exact fun q hq => ih q hq (hp q hq)
  | any parts ih =>
    rw [holds_any_iff] at hp ⊢
    obtain ⟨q, hq, hholds⟩ := hp
    exact ⟨q, hq, ih q hq hholds⟩

/-- A predicate does not tell logs apart in which the same patterns were found. -/
theorem Predicate.holds_congr (hbuild : ∀ id, build.contains id = build'.contains id)
    (halignment : ∀ id, alignment.contains id = alignment'.contains id)
    (hblank : alignment.isBlank = alignment'.isBlank) (p : Predicate) :
    p.holds build alignment = p.holds build' alignment' := by
  rw [Bool.eq_iff_iff]
  constructor
  · exact p.holds_mono (fun id => (hbuild id).symm.trans) (fun id => (halignment id).symm.trans)
      hblank.symm.trans
  · exact p.holds_mono (fun id => (hbuild id).trans) (fun id => (halignment id).trans) hblank.trans

/-! ## The position of the rule that is chosen -/

/-- The position in the table of the rule that gives the verdict. -/
def chosenIndex? (build alignment : ScanResult) : Option Nat :=
  Rule.table.findIdx? fun r => r.applies build alignment

lemma firstRule?_eq_chosenIndex?_bind (build alignment : ScanResult) :
    firstRule? build alignment
      = (chosenIndex? build alignment).bind fun i => Rule.table[i]? :=
  List.find?_eq_bind_findIdx?_getElem?

/-- If every predicate that holds for some logs holds for others too, the rule chosen for these
stands no later. -/
lemma exists_chosenIndex?_le
    (h : ∀ p : Predicate, p.holds build alignment = true → p.holds build' alignment' = true)
    {i : Nat} (hi : chosenIndex? build alignment = some i) :
    ∃ j ≤ i, chosenIndex? build' alignment' = some j :=
  List.findIdx?_eq_some_le_of_findIdx?_eq_some (fun r _ => h r.predicate) hi

/-- A verdict tells something exactly if some rule is chosen. -/
lemma judge_group_ne_undetermined_iff (build alignment : ScanResult) :
    (judge build alignment).group ≠ .undetermined ↔
      ∃ i, chosenIndex? build alignment = some i := by
  rw [ne_eq, judge_group_eq_undetermined_iff, ← ne_eq, ← Option.isSome_iff_ne_none,
    ← Option.isSome_iff_exists, firstRule?, chosenIndex?, List.isSome_find?, List.findIdx?_isSome]

/-! ## Logs with more lines -/

variable {registrations : List Registration} {lines more : List String} {limit limit' : Nat}

lemma ScanResult.ofLines_foundIn (hlines : lines ⊆ more) :
    (ofLines (.ofRegistrations registrations) limit lines).FoundIn
      (ofLines (.ofRegistrations registrations) limit' more) :=
  fun _ => contains_ofLines_mono (PatternSet.ofRegistrations_consistent registrations) hlines

/-- A log that is not blank, or that is left as it is, does not cease to be blank. -/
lemma ScanResult.isBlank_ofLines_of_sublist
    (h : more = lines ∨ (∃ text ∈ lines, text ≠ "") ∧ lines.Sublist more)
    (hblank : (ofLines (.ofRegistrations registrations) limit lines).isBlank = true) :
    (ofLines (.ofRegistrations registrations) limit' more).isBlank = true := by
  have hconsistent := PatternSet.ofRegistrations_consistent registrations
  rcases h with rfl | ⟨⟨text, htext, hne⟩, -⟩
  · rwa [isBlank_ofLines hconsistent] at hblank ⊢
  · rw [isBlank_ofLines_eq_false hconsistent htext hne] at hblank
    cases hblank

/-- **More lines never lower the priority of the verdict.** Let lines be inserted anywhere into a
build log, and into its alignment log too if that has a line that is not empty, all logs being
scanned for the same patterns. Then every predicate that held holds. So the rule that is chosen
stands no later in the table than the one that was, and a verdict that told something still tells
something. -/
theorem chosenIndex?_of_more_lines (registrations : List Registration) (m m' n n' : Nat)
    {buildLines buildLines' alignmentLines alignmentLines' : List String}
    (hbuild : buildLines.Sublist buildLines')
    (halignment : alignmentLines' = alignmentLines ∨
      (∃ text ∈ alignmentLines, text ≠ "") ∧ alignmentLines.Sublist alignmentLines') :
    let patterns := PatternSet.ofRegistrations registrations
    let build := ScanResult.ofLines patterns m buildLines
    let build' := ScanResult.ofLines patterns m' buildLines'
    let alignment := ScanResult.ofLines patterns n alignmentLines
    let alignment' := ScanResult.ofLines patterns n' alignmentLines'
    (∀ p : Predicate, p.holds build alignment = true → p.holds build' alignment' = true) ∧
      (∀ i, chosenIndex? build alignment = some i →
        ∃ j ≤ i, chosenIndex? build' alignment' = some j) ∧
      ((judge build alignment).group ≠ .undetermined →
        (judge build' alignment').group ≠ .undetermined) := by
  intro patterns build build' alignment alignment'
  have hsubset : alignmentLines ⊆ alignmentLines' := by
    rcases halignment with rfl | ⟨-, hsublist⟩
    · exact List.Subset.refl _
    · exact hsublist.subset
  have hholds (p : Predicate) (hp : p.holds build alignment = true) :
      p.holds build' alignment' = true :=
    p.holds_mono (ScanResult.ofLines_foundIn hbuild.subset) (ScanResult.ofLines_foundIn hsubset)
      (ScanResult.isBlank_ofLines_of_sublist halignment) hp
  have hindex : ∀ i, chosenIndex? build alignment = some i →
      ∃ j ≤ i, chosenIndex? build' alignment' = some j :=
    fun i hi => exists_chosenIndex?_le hholds hi
  refine ⟨hholds, hindex, ?_⟩
  rw [judge_group_ne_undetermined_iff, judge_group_ne_undetermined_iff]
  rintro ⟨i, hi⟩
  obtain ⟨j, -, hj⟩ := hindex i hi
  exact ⟨j, hj⟩

/-- An alignment that failed, and the same one with the line inserted that tells why. The general
rule for such alignments is the one at position 35. -/
theorem chosenIndex?_of_more_lines_after_alignment_error :
    let registrations := [Registration.literal Signature.alignmentSystemError,
      .literal Signature.versionsNotObtained]
    let buildLines := ["[ERROR] Repour completed with system error"]
    let buildLines' := ["", "[ERROR] Repour completed with system error", "Build finished"]
    let alignmentLines := ["Aligning", ""]
    let alignmentLines' := ["Aligning", "Failed to obtain versions", ""]
    let patterns := PatternSet.ofRegistrations registrations
    let build := ScanResult.ofLines patterns 0 buildLines
    let build' := ScanResult.ofLines patterns 0 buildLines'
    let alignment := ScanResult.ofLines patterns 0 alignmentLines
    let alignment' := ScanResult.ofLines patterns 0 alignmentLines'
    buildLines.Sublist buildLines' ∧
      (∃ text ∈ alignmentLines, text ≠ "") ∧ alignmentLines.Sublist alignmentLines' ∧
      chosenIndex? build alignment = some 35 ∧
      (∃ j ≤ 35, chosenIndex? build' alignment' = some j) ∧
      (judge build' alignment').group ≠ .undetermined := by
  intro registrations buildLines buildLines' alignmentLines alignmentLines' patterns build build'
    alignment alignment'
  have hsublist : buildLines.Sublist buildLines' := by decide
  have hline : ∃ text ∈ alignmentLines, text ≠ "" := by decide
  have hsublist' : alignmentLines.Sublist alignmentLines' := by decide
  have hbuild : ∀ id, build.contains id = decide (id ∈ [Signature.alignmentSystemError]) :=
    (run_tracks (ε := Empty) registrations 0 [.lines buildLines]).contains_eq_decide
      (by decide +kernel)
  have halignment : ∀ id, alignment.contains id = decide (id ∈ []) :=
    (run_tracks (ε := Empty) registrations 0 [.lines alignmentLines]).contains_eq_decide
      (by decide +kernel)
  have hblank : alignment.isBlank = false :=
    (run_tracks (ε := Empty) registrations 0 [.lines alignmentLines]).isBlank_eq
  have hindex : chosenIndex? build alignment = some 35 := by
    simp only [chosenIndex?, Rule.table, Rule.capturedRules, Rule.platformRules,
      Rule.alignmentRules, List.cons_append, List.nil_append, List.findIdx?_cons, Rule.applies,
      Rule.reported, Rule.fixed, Rule.marked, Rule.manipulationOff, Predicate.holds,
      Predicate.allHold, Predicate.anyHolds, hbuild, halignment, hblank]
    rfl
  obtain ⟨-, hle, hgroup⟩ :=
    chosenIndex?_of_more_lines registrations 0 0 0 0 hsublist (.inr ⟨hline, hsublist'⟩)
  have htold : (judge build alignment).group ≠ .undetermined :=
    (judge_group_ne_undetermined_iff build alignment).2 ⟨35, hindex⟩
  exact ⟨hsublist, hline, hsublist', hindex, hle 35 hindex, hgroup htold⟩

end BuildTriage
