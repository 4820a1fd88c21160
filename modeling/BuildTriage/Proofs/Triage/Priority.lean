import BuildTriage.Proofs.Log.History
import BuildTriage.Triage.Outcome

/-!
# Which rule gives the verdict

Many rules of the table can apply to the same logs, and the first of them gives the verdict.
Failures of the platform stand before all others, and the failures that the user caused stand behind
the general failures of the alignment. So no evidence against the infrastructure is masked:
`platform_evidence_not_masked` says that the verdict is on the platform as soon as one rule on the
platform applies, and what the logs cannot hold where a system error is taken back.

The argument about the order is one lemma, `front_not_applies`: if the rule that is chosen has a
property that no rule in the front part of the table has, then no rule of the front part applies.
What has to be known of the 65 rules are four facts, each decided over the table.
-/

namespace BuildTriage

variable {build alignment : ScanResult}

/-! ## Signatures that a predicate needs -/

namespace Predicate

mutual

/-- Whether the predicate can only hold for builds whose log holds the signature, as far as its
syntax shows. -/
def needs (signature : String) : Predicate → Bool
  | .build other => other = signature
  | .alignment _ | .alignmentEmpty => false
  | .all parts => someNeeds signature parts
  | .any parts => allNeed signature parts

/-- Whether one of the predicates needs the signature. -/
def someNeeds (signature : String) : List Predicate → Bool
  | [] => false
  | p :: rest => p.needs signature || someNeeds signature rest

/-- Whether all of the predicates need the signature. -/
def allNeed (signature : String) : List Predicate → Bool
  | [] => true
  | p :: rest => p.needs signature && allNeed signature rest

end

mutual

/-- A predicate that needs a signature does not hold without it. -/
theorem contains_of_needs {signature : String} :
    ∀ p : Predicate, p.needs signature = true → p.holds build alignment = true →
      build.contains signature = true
  | .build other, hneeds, hholds => by
    rw [needs, decide_eq_true_eq] at hneeds
    rwa [holds, hneeds] at hholds
  | .alignment _, hneeds, _ | .alignmentEmpty, hneeds, _ => by
    rw [needs] at hneeds
    cases hneeds
  | .all parts, hneeds, hholds => by
    rw [needs] at hneeds
    rw [holds] at hholds
    exact contains_of_someNeeds parts hneeds hholds
  | .any parts, hneeds, hholds => by
    rw [needs] at hneeds
    rw [holds] at hholds
    exact contains_of_allNeed parts hneeds hholds

theorem contains_of_someNeeds {signature : String} :
    ∀ parts : List Predicate, someNeeds signature parts = true →
      allHold build alignment parts = true → build.contains signature = true
  | [], hneeds, _ => by
    rw [someNeeds] at hneeds
    cases hneeds
  | p :: rest, hneeds, hholds => by
    rw [someNeeds, Bool.or_eq_true] at hneeds
    rw [allHold, Bool.and_eq_true] at hholds
    rcases hneeds with hp | hrest
    · exact contains_of_needs p hp hholds.1
    · exact contains_of_someNeeds rest hrest hholds.2

theorem contains_of_allNeed {signature : String} :
    ∀ parts : List Predicate, allNeed signature parts = true →
      anyHolds build alignment parts = true → build.contains signature = true
  | [], _, hholds => by
    rw [anyHolds] at hholds
    cases hholds
  | p :: rest, hneeds, hholds => by
    rw [allNeed, Bool.and_eq_true] at hneeds
    rw [anyHolds, Bool.or_eq_true] at hholds
    rcases hholds with hp | hrest
    · exact contains_of_needs p hneeds.1 hp
    · exact contains_of_allNeed rest hneeds.2 hrest

end

end Predicate

/-! ## The rule that is chosen -/

lemma firstRule?_eq_some {r : Rule} (h : firstRule? build alignment = some r) :
    r ∈ Rule.table ∧ r.applies build alignment = true :=
  ⟨List.mem_of_find?_eq_some h, by simpa using List.find?_some h⟩

/-- A verdict is that of the rule that is chosen, or that nothing can be told. -/
lemma judge_cases (build alignment : ScanResult) :
    (firstRule? build alignment = none ∧ judge build alignment = .notDetermined) ∨
      ∃ r, firstRule? build alignment = some r ∧ judge build alignment = r.verdict build := by
  cases h : firstRule? build alignment with
  | none => exact .inl ⟨rfl, by rw [judge, h]⟩
  | some r => exact .inr ⟨r, rfl, by rw [judge, h]⟩

/-- If a rule of the front part of the table applies, one of the front part is chosen. -/
lemma firstRule?_mem_front {front back : List Rule} (htable : Rule.table = front ++ back)
    {r : Rule} (hr : r ∈ front) (happlies : r.applies build alignment = true) :
    ∃ chosen ∈ front, firstRule? build alignment = some chosen := by
  have hfound : (front.find? fun r => r.applies build alignment).isSome = true := by
    rw [List.find?_isSome]
    exact ⟨r, hr, happlies⟩
  obtain ⟨chosen, hchosen⟩ := Option.isSome_iff_exists.1 hfound
  refine ⟨chosen, List.mem_of_find?_eq_some hchosen, ?_⟩
  rw [firstRule?, htable, List.find?_append, hchosen, Option.some_or]

/-- If the rule that is chosen has a property that no rule of the front part has, then no rule of
the front part applies. -/
lemma front_not_applies {front back : List Rule} (htable : Rule.table = front ++ back)
    {Q : Rule → Prop} (hfront : ∀ r ∈ front, ¬Q r) {chosen : Rule}
    (hchosen : firstRule? build alignment = some chosen) (hQ : Q chosen) :
    ∀ r ∈ front, r.applies build alignment = false := by
  intro r hr
  by_contra happlies
  obtain ⟨other, hother, hfirst⟩ :=
    firstRule?_mem_front htable hr (by simpa using happlies)
  rw [hchosen] at hfirst
  obtain rfl := Option.some.inj hfirst
  exact hfront chosen hother hQ

/-! ## The order of the table -/

namespace Rule

/-- The rules before those that the user's failures belong to. -/
def beforeMarked : List Rule :=
  capturedRules ++ platformRules ++ alignmentRules.take 5

/-- The rules behind those on the platform. -/
def afterPlatform : List Rule :=
  alignmentRules ++ buildSystemRules ++ engineRules ++ repositoryRules

lemma table_eq_platform_append : table = (capturedRules ++ platformRules) ++ afterPlatform := by
  simp only [table, afterPlatform, List.append_assoc]

lemma table_eq_beforeMarked_append : table = beforeMarked ++ table.drop beforeMarked.length :=
  (List.take_append_drop beforeMarked.length table).symm

lemma platform_of_mem_front : ∀ r ∈ capturedRules ++ platformRules, r.group = .platform := by
  decide

lemma not_platform_of_mem_afterPlatform : ∀ r ∈ afterPlatform, ¬r.group = .platform := by
  decide

lemma not_marked_of_mem_beforeMarked : ∀ r ∈ beforeMarked, ¬r.previouslyMarked = true := by
  decide

lemma group_ne_undetermined_of_mem : ∀ r ∈ table, r.group ≠ .undetermined := by
  decide

/-- What the user caused is put down to the build system, and shows up as a system error of the
alignment. -/
lemma of_previouslyMarked : ∀ r ∈ table, r.previouslyMarked = true →
    r.group = .buildSystem ∧ r.predicate.needs Signature.alignmentSystemError = true := by
  decide +kernel

lemma exists_eq_reported_of_mem : ∀ r ∈ capturedRules, ∃ signature, r = reported signature := by
  simp [capturedRules, reported]

/-- Where no rule of some rules applies, the build log holds no signature that one of them is on. -/
lemma build_not_contains {rules : List Rule}
    (hrules : ∀ r ∈ rules, r.applies build alignment = false) {signature : String}
    (hsignature : .build signature ∈ rules.map predicate) :
    build.contains signature = false := by
  obtain ⟨r, hr, hpredicate⟩ := List.mem_map.1 hsignature
  have happlies := hrules r hr
  rwa [applies, hpredicate, Predicate.holds] at happlies

/-- After an alignment that failed, where no rule of some rules applies, the alignment log holds no
signature that one of them is on. -/
lemma alignment_not_contains {rules : List Rule}
    (hrules : ∀ r ∈ rules, r.applies build alignment = false)
    (hbuild : build.contains Signature.alignmentSystemError = true) {signature : String}
    (hsignature : .all [.build Signature.alignmentSystemError, .alignment signature]
      ∈ rules.map predicate) :
    alignment.contains signature = false := by
  obtain ⟨r, hr, hpredicate⟩ := List.mem_map.1 hsignature
  have happlies := hrules r hr
  simpa [applies, hpredicate, Predicate.holds, Predicate.allHold, hbuild] using happlies

end Rule

/-! ## What a system error is taken back for -/

lemma ofLogs_systemError_eq_failed_iff (build alignment : ScanResult) :
    (Outcome.ofLogs .systemError build alignment).status = .failed ↔
      (judge build alignment).previouslyMarked = true := by
  simp [Outcome.ofLogs, BuildStatus.corrected]

/-- A verdict that takes a system error back comes from a rule that is marked so. -/
lemma exists_marked_of_judge (h : (judge build alignment).previouslyMarked = true) :
    ∃ r, firstRule? build alignment = some r ∧ r.previouslyMarked = true := by
  rcases judge_cases build alignment with ⟨-, hjudge⟩ | ⟨r, hr, hjudge⟩
  · rw [hjudge] at h
    cases h
  · rw [hjudge] at h
    exact ⟨r, hr, h⟩

/-- A verdict tells nothing exactly if no rule applies. -/
lemma judge_group_eq_undetermined_iff (build alignment : ScanResult) :
    (judge build alignment).group = .undetermined ↔ firstRule? build alignment = none := by
  rcases judge_cases build alignment with ⟨hnone, hjudge⟩ | ⟨r, hr, hjudge⟩
  · rw [hjudge]
    exact iff_of_true rfl hnone
  · have hgroup : r.group ≠ .undetermined :=
      Rule.group_ne_undetermined_of_mem r (firstRule?_eq_some hr).1
    rw [hjudge, hr]
    exact iff_of_false hgroup (Option.some_ne_none r)

/-- The verdict is on the platform exactly if a rule on the platform applies. -/
lemma judge_group_eq_platform_iff (build alignment : ScanResult) :
    (judge build alignment).group = .platform ↔
      ∃ r ∈ Rule.table, r.group = .platform ∧ r.applies build alignment = true := by
  constructor
  · intro hgroup
    rcases judge_cases build alignment with ⟨-, hjudge⟩ | ⟨r, hr, hjudge⟩
    · rw [hjudge] at hgroup
      cases hgroup
    · rw [hjudge] at hgroup
      obtain ⟨hmem, happlies⟩ := firstRule?_eq_some hr
      exact ⟨r, hmem, hgroup, happlies⟩
  · rintro ⟨r, hmem, hgroup, happlies⟩
    rw [Rule.table_eq_platform_append] at hmem
    have hfront : r ∈ Rule.capturedRules ++ Rule.platformRules :=
      (List.mem_append.1 hmem).resolve_right fun hback =>
        Rule.not_platform_of_mem_afterPlatform r hback hgroup
    obtain ⟨chosen, hchosen, hfirst⟩ :=
      firstRule?_mem_front Rule.table_eq_platform_append hfront happlies
    rw [judge, hfirst]
    exact Rule.platform_of_mem_front chosen hchosen

/-- **Evidence against the infrastructure is never masked.** The verdict is on the platform exactly
if some rule on the platform applies. And a system error is only taken back if the build log holds
the system error of the alignment, and none of the signatures of the 19 leading rules, nor that of a
conflict over the quota, nor that of a lost build agent, and if the alignment log holds none of the
signatures that put the failure down to the repository or to the dependency analysis. -/
theorem platform_evidence_not_masked (build alignment : ScanResult) :
    ((judge build alignment).group = .platform ↔
        ∃ r ∈ Rule.table, r.group = .platform ∧ r.applies build alignment = true) ∧
      ((Outcome.ofLogs .systemError build alignment).status = .failed →
        build.contains Signature.alignmentSystemError = true ∧
          (∀ r ∈ Rule.table.take 19, ∀ signature ∈ r.predicate.signatures,
            build.contains signature = false) ∧
          build.contains Signature.quotaConflict = false ∧
          build.contains Signature.buildAgentGone = false ∧
          alignment.contains Signature.versionsNotObtained = false ∧
          alignment.contains Signature.analysisRequestFailed = false ∧
          alignment.contains Signature.analysisSilent = false) := by
  refine ⟨judge_group_eq_platform_iff build alignment, fun hfailed => ?_⟩
  rw [ofLogs_systemError_eq_failed_iff] at hfailed
  obtain ⟨chosen, hchosen, hmarked⟩ := exists_marked_of_judge hfailed
  obtain ⟨hmem, happlies⟩ := firstRule?_eq_some hchosen
  have hbuild : build.contains Signature.alignmentSystemError = true :=
    Predicate.contains_of_needs _ (Rule.of_previouslyMarked chosen hmem hmarked).2 happlies
  have hbefore : ∀ r ∈ Rule.beforeMarked, r.applies build alignment = false :=
    front_not_applies Rule.table_eq_beforeMarked_append Rule.not_marked_of_mem_beforeMarked hchosen
      hmarked
  have hleading : ∀ r ∈ Rule.table.take 19, ∀ signature ∈ r.predicate.signatures,
      build.contains signature = false := by
    intro r hr signature hsignature
    obtain ⟨reported, rfl⟩ := Rule.exists_eq_reported_of_mem r hr
    obtain rfl : signature = reported := by
      simpa [Rule.reported, Predicate.signatures] using hsignature
    have hmem : .reported signature ∈ Rule.beforeMarked :=
      List.mem_append_left _ (List.mem_append_left _ hr)
    exact Rule.build_not_contains hbefore (List.mem_map_of_mem hmem)
  refine ⟨hbuild, hleading, ?_, ?_, ?_, ?_, ?_⟩
  · exact Rule.build_not_contains hbefore
      (by simp [Rule.beforeMarked, Rule.platformRules, Rule.fixed])
  · exact Rule.build_not_contains hbefore
      (by simp [Rule.beforeMarked, Rule.platformRules, Rule.fixed])
  · exact Rule.alignment_not_contains hbefore hbuild
      (by simp [Rule.beforeMarked, Rule.alignmentRules, Rule.fixed])
  · exact Rule.alignment_not_contains hbefore hbuild
      (by simp [Rule.beforeMarked, Rule.alignmentRules, Rule.fixed])
  · exact Rule.alignment_not_contains hbefore hbuild
      (by simp [Rule.beforeMarked, Rule.alignmentRules, Rule.fixed])

/-- A system error that is taken back since the user turned the changes to the sources off, though
the alignment log holds more than that. -/
theorem platform_evidence_not_masked_of_user_error :
    let shared := [Registration.literal Signature.alignmentSystemError,
      .literal Signature.groupIdNotFound, .literal Signature.manipulationDisabledCamelCase,
      .literal Signature.readTimedOut, .literal Signature.versionsNotObtained]
    let buildLines : List (ScanStep Empty) := [.line "[ERROR] Repour completed with system error"]
    let alignmentLines : List (ScanStep Empty) := [.line "mvn -DmanipulationDisable=true",
      .line "Read timed out", .line "Could not find the groupId in the pom.xml"]
    let start := Scan.start (.ofRegistrations shared) 0
    let build := (start.run buildLines).finish
    let alignment := (start.run alignmentLines).finish
    (Outcome.ofLogs .systemError build alignment).status = .failed ∧
      build.contains Signature.alignmentSystemError = true ∧
      build.contains Signature.buildAgentGone = false ∧
      alignment.contains Signature.readTimedOut = true ∧
      alignment.contains Signature.versionsNotObtained = false := by
  intro shared buildLines alignmentLines start build alignment
  have hbuild : ∀ id, build.contains id = decide (id ∈ [Signature.alignmentSystemError]) :=
    (run_tracks shared 0 buildLines).contains_eq_decide (by decide +kernel)
  have halignment : ∀ id, alignment.contains id = decide (id ∈ [Signature.groupIdNotFound,
      Signature.manipulationDisabledCamelCase, Signature.readTimedOut]) :=
    (run_tracks shared 0 alignmentLines).contains_eq_decide (by decide +kernel)
  have hblank : alignment.isBlank = false := (run_tracks shared 0 alignmentLines).isBlank_eq
  have hfirst : (firstRule? build alignment).map Rule.previouslyMarked = some true := by
    simp only [firstRule?, Rule.table, Rule.capturedRules, Rule.platformRules, Rule.alignmentRules,
      List.cons_append, List.nil_append, List.find?_cons, Rule.applies, Rule.reported, Rule.fixed,
      Rule.marked, Rule.manipulationOff, Predicate.holds, Predicate.allHold, Predicate.anyHolds,
      hbuild, halignment, hblank]
    rfl
  have hfailed : (Outcome.ofLogs .systemError build alignment).status = .failed := by
    obtain ⟨chosen, hchosen, hmarked⟩ := Option.map_eq_some_iff.1 hfirst
    rw [ofLogs_systemError_eq_failed_iff, judge, hchosen]
    exact hmarked
  obtain ⟨-, hevidence⟩ := platform_evidence_not_masked build alignment
  obtain ⟨hsystem, -, -, hagent, hversions, -, -⟩ := hevidence hfailed
  exact ⟨hfailed, hsystem, hagent, by rw [halignment]; decide, hversions⟩

end BuildTriage
