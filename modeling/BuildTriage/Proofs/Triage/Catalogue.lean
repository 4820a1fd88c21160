import BuildTriage.Proofs.Log.Occurrence
import BuildTriage.Triage.Signature
import Mathlib.Tactic.FinCases

/-!
# The catalogue holds every signature

A signature that could not be registered would never be found, and the rules on it would never
apply. All of them are registered: the signatures are distinct and the regular expressions among
them well-formed, so that no registration fails (`ofTexts_signatures`). The catalogue is then the
set that their registrations make (`catalogue_eq`), with the pattern of each signature, in order
(`catalogue_patterns`). So what a scan for the catalogue reports of a signature can be read off the
signature and the lines (`captured?_ofLines`).
-/

namespace BuildTriage

namespace Signature

/-! ## The registration of all signatures -/

/-- The registrations of all signatures. -/
def registrations : List Registration :=
  literals.map .literal ++ regexes.map .regex

lemma nodup : (literals ++ regexes).Nodup := by
  decide +kernel

lemma regexes_wellFormed :
    ∀ source ∈ regexes, (Registration.regex source).pattern?.isSome = true := by
  -- Read as characters, which need not be decoded for every character that is read.
  have hparse : ∀ source ∈ regexes, ∃ text, source = String.ofList text ∧
      (Regex.parse? text).isSome = true ∧
      (Regex.parse? (Pattern.wholeLine text)).isSome = true := by
    intro source hsource
    fin_cases hsource
    all_goals exact ⟨_, rfl, by decide +kernel⟩
  intro source hsource
  obtain ⟨text, rfl, hprobe, hwhole⟩ := hparse source hsource
  obtain ⟨probe, hprobe⟩ := Option.isSome_iff_exists.1 hprobe
  obtain ⟨whole, hwhole⟩ := Option.isSome_iff_exists.1 hwhole
  rw [Registration.pattern?, Pattern.ofRegex, String.toList_ofList, hprobe, hwhole]
  rfl

/-- All signatures are registered, and no registration fails. -/
lemma ofTexts_signatures :
    let t := PatternSet.ofRegistrations registrations
    PatternSet.ofTexts literals regexes = (t, none) ∧ t.ids = literals ++ regexes ∧
      t.patterns = registrations.filterMap Registration.pattern? := by
  have hliterals : ∀ text ∈ literals, (Registration.literal text).pattern?.isSome = true :=
    fun _ _ => rfl
  obtain ⟨hinsert, hids, hpatterns⟩ :=
    PatternSet.empty_consistent.insertAll_of_fresh .literal (fun _ => rfl) hliterals
      (List.nodup_append.1 nodup).1
  have hconsistent := PatternSet.ofRegistrations_consistent (literals.map .literal)
  have hfresh : (PatternSet.ids (.ofRegistrations (literals.map .literal)) ++ regexes).Nodup := by
    rw [PatternSet.ofRegistrations, hids]
    exact nodup
  obtain ⟨hinsert', hids', hpatterns'⟩ :=
    hconsistent.insertAll_of_fresh .regex (fun _ => rfl) regexes_wellFormed hfresh
  rw [PatternSet.ofRegistrations, registrations, List.foldl_append, ← PatternSet.ofRegistrations]
  refine ⟨?_, ?_, ?_⟩
  · have hfirst : PatternSet.empty.insertLiterals literals
        = (.ofRegistrations (literals.map .literal), none) := hinsert
    rw [PatternSet.ofTexts, hfirst]
    exact hinsert'
  · rw [hids', PatternSet.ofRegistrations, hids]
    rfl
  · rw [hpatterns', PatternSet.ofRegistrations, hpatterns, List.filterMap_append]
    rfl

lemma catalogue_eq : catalogue = .ofRegistrations registrations := by
  rw [catalogue, ofTexts_signatures.1]

lemma catalogue_consistent : catalogue.Consistent := by
  rw [catalogue_eq]
  exact PatternSet.ofRegistrations_consistent registrations

lemma catalogue_patterns : catalogue.patterns = registrations.filterMap Registration.pattern? := by
  rw [catalogue_eq]
  exact ofTexts_signatures.2.2

/-- The ids that a scan for the catalogue can find are the signatures. -/
lemma catalogue_ids : catalogue.ids = literals ++ regexes := by
  rw [catalogue_eq]
  exact ofTexts_signatures.2.1

lemma exists_pattern_of_mem {r : Registration} (hr : r ∈ registrations) :
    ∃ p ∈ catalogue.patterns, r.pattern? = some p := by
  have hwell : r.pattern?.isSome = true := by
    rcases List.mem_append.1 hr with hliteral | hregex
    · obtain ⟨text, -, rfl⟩ := List.mem_map.1 hliteral
      rfl
    · obtain ⟨source, hsource, rfl⟩ := List.mem_map.1 hregex
      exact regexes_wellFormed source hsource
  obtain ⟨p, hp⟩ := Option.isSome_iff_exists.1 hwell
  refine ⟨p, ?_, hp⟩
  rw [catalogue_patterns, List.mem_filterMap]
  exact ⟨r, hr, hp⟩

/-- A signature that is a literal is looked for as one. -/
lemma literal_mem_catalogue {signature : String} (h : signature ∈ literals) :
    .literal signature ∈ catalogue.patterns := by
  have hr : .literal signature ∈ registrations := List.mem_append_left _ (List.mem_map_of_mem h)
  obtain ⟨p, hmem, hp⟩ := exists_pattern_of_mem hr
  obtain rfl := Option.some.inj hp
  exact hmem

/-! ## Scans for all signatures -/

variable {lines : List String} {limit : Nat}

/-- A signature is reported as its pattern reports it for the first line that it matches. -/
lemma captured?_ofLines {r : Registration} (hr : r ∈ registrations) :
    (ScanResult.ofLines catalogue limit lines).captured? r.text
      = r.pattern?.bind fun p => lines.findSome? fun text => p.find? text.toList := by
  obtain ⟨p, hmem, hp⟩ := exists_pattern_of_mem hr
  rw [hp, ← Registration.id_of_pattern? hp, ScanResult.captured?_ofLines catalogue_consistent hmem]
  rfl

lemma contains_ofLines {r : Registration} (hr : r ∈ registrations) :
    (ScanResult.ofLines catalogue limit lines).contains r.text
      = (r.pattern?.bind fun p => lines.findSome? fun text => p.find? text.toList).isSome :=
  congrArg Option.isSome (captured?_ofLines hr)

/-- A text that is no regular expression of the catalogue reports itself, if anything. -/
lemma eq_of_captured?_ofLines {signature text : String} (hregex : signature ∉ regexes)
    (h : (ScanResult.ofLines catalogue limit lines).captured? signature = some text) :
    text = signature := by
  by_cases hliteral : signature ∈ literals
  · exact ScanResult.eq_of_captured?_ofLines catalogue_consistent (literal_mem_catalogue hliteral) h
  · have hid : signature ∉ catalogue.ids := by
      rw [catalogue_ids, List.mem_append]
      exact not_or.2 ⟨hliteral, hregex⟩
    rw [ScanResult.captured?_ofLines_eq_none catalogue_consistent hid] at h
    cases h

end Signature

end BuildTriage
