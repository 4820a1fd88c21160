import BuildTriage.Proofs.Triage.GapSignatures
import BuildTriage.Proofs.Triage.Priority
import Mathlib.Tactic.FinCases

/-!
# The words of a verdict

A verdict is given in the words of the rule that is chosen. These are fixed, or they are what the
build log reported for a signature, which then is a part of the first line that the signature
matches. A rule of the latter kind would have to fall back on the text of the signature if nothing
was reported for it, but none does: its predicate needs the signature, so that something was reported
wherever the rule applies (`Rule.isGrounded`). And no rule says "N.D.", which is what a verdict says
where no rule applies: the fixed words are others, and a report is too long to be that
(`Signature.ne_notDetermined_of_captured?_ofLines`). `judge_message_founded` puts these together.
-/

namespace BuildTriage

open Regex

/-! ## Reports are parts of lines -/

namespace Pattern

lemma toList_slice_infix (text : List Char) (start stop : Nat) :
    (slice text start stop).toList <:+: text := by
  rw [slice, String.toList_ofList]
  exact (List.take_prefix _ _).isInfix.trans (List.drop_suffix _ _).isInfix

lemma toList_infix_of_capture? {whole : Regex} {line : List Char} {text : String}
    (h : capture? whole line = some text) : text.toList <:+: line := by
  obtain ⟨m, -, h⟩ := Option.bind_eq_some_iff.1 h
  obtain ⟨⟨start, stop⟩, -, h⟩ := Option.bind_eq_some_iff.1 h
  cases h
  exact toList_slice_infix line start stop

/-- What a pattern reports for a line is a contiguous part of it. -/
lemma toList_infix_of_find? {p : Pattern} {line : List Char} {text : String}
    (h : p.find? line = some text) : text.toList <:+: line := by
  cases p with
  | literal needle =>
    rw [find?] at h
    split at h
    · next hoccurs =>
      cases h
      exact (Text.occursIn_iff _ _).1 hoccurs
    · cases h
  | regex source probe whole =>
    rw [find?] at h
    split at h
    · exact toList_infix_of_capture? h
    · cases h

/-- A report for a pattern with a gap is as long as the two parts of the pattern together, if not
longer. -/
lemma length_le_of_find?_gap {a b : List Glyph} {p : Pattern} {line : List Char} {text : String}
    (hp : ofRegex (String.ofList (gapPattern a b)) = .ok p) (h : p.find? line = some text) :
    a.length + b.length ≤ text.length := by
  obtain ⟨probe, hprobe, -, rfl⟩ := exists_of_ofRegex_eq_ok hp
  rw [String.toList_ofList] at hprobe
  obtain ⟨rfl, -⟩ := parse?_gapPattern_eq_some_iff.1 hprobe
  rw [find?_regex_inLine] at h
  obtain ⟨start, m, hreport, rfl⟩ := reports_of_capture? h
  obtain ⟨-, t, hb, hle, rfl⟩ := of_mem_runs_gap hreport.within hreport.mem.1
  have hstop : t + b.length ≤ line.length := hb.add_length_le
  show a.length + b.length ≤ (slice line start (t + b.length)).length
  rw [slice, String.length_ofList, List.length_take, List.length_drop]
  omega

end Pattern

/-- The text is what the pattern with the id reports for the first of the lines that it matches, and
it is a contiguous part of that line. -/
def QuotedFrom (patterns : PatternSet) (lines : List String) (id text : String) : Prop :=
  ∃ p ∈ patterns.patterns, p.id = id ∧
    ∃ before line after, lines = before ++ line :: after ∧
      (∀ other ∈ before, p.find? other.toList = none) ∧
      p.find? line.toList = some text ∧ text.toList <:+: line.toList

/-- What a scan has captured is quoted from the log. -/
lemma ScanResult.quotedFrom_of_captured?_ofLines {s : PatternSet} (hs : s.Consistent) {limit : Nat}
    {lines : List String} {id text : String} (h : (ofLines s limit lines).captured? id = some text) :
    QuotedFrom s lines id text := by
  have hid : id ∈ s.ids := by
    by_contra hid
    rw [captured?_ofLines_eq_none hs hid] at h
    cases h
  obtain ⟨p, hp, rfl⟩ := List.mem_map.1 hid
  rw [captured?_ofLines hs hp, List.findSome?_eq_some_iff] at h
  obtain ⟨before, line, after, hlines, hfind, hbefore⟩ := h
  exact ⟨p, hp, rfl, before, line, after, hlines, hbefore, hfind, p.toList_infix_of_find? hfind⟩

/-! ## The reports of signatures -/

namespace Signature

variable {limit : Nat} {lines : List String} {signature text : String}

lemma six_lt_length_of_mem_regexes : ∀ source ∈ regexes, 6 < source.length := by
  -- Counted as characters, which need not be decoded then.
  have hlong : ∀ source ∈ regexes, ∃ text, source = String.ofList text ∧ 6 < text.length := by
    intro source hsource
    fin_cases hsource
    all_goals exact ⟨_, rfl, by decide⟩
  intro source hsource
  obtain ⟨text, rfl, htext⟩ := hlong source hsource
  rwa [String.length_ofList]

/-- A report for a signature that is a regular expression is hardly shorter than its pattern. -/
lemma length_le_of_captured?_ofLines (hregex : signature ∈ regexes)
    (h : (ScanResult.ofLines catalogue limit lines).captured? signature = some text) :
    signature.length ≤ text.length + 2 := by
  have hr : .regex signature ∈ registrations := List.mem_append_right _ (List.mem_map_of_mem hregex)
  obtain ⟨a, b, rfl, p, hp⟩ := exists_gapPattern_eq signature hregex
  have hpattern : (Registration.regex (String.ofList (gapPattern a b))).pattern? = some p := by
    rw [Registration.pattern?, hp]
    rfl
  have hcaptured : some text = lines.findSome? fun text => p.find? text.toList := by
    have hreport := h.symm.trans (captured?_ofLines hr)
    rwa [hpattern, Option.bind_some] at hreport
  obtain ⟨line, -, hfind⟩ := List.exists_of_findSome?_eq_some hcaptured.symm
  have hlength := Pattern.length_le_of_find?_gap hp hfind
  have hsource : (gapPattern a b).length = a.length + b.length + 2 := by
    rw [gapPattern, List.length_append, List.length_cons, List.length_cons, List.length_map,
      List.length_map]
    omega
  rw [String.length_ofList, hsource]
  exact Nat.add_le_add_right hlength 2

/-- Nothing that is reported for a signature says that nothing can be told. -/
lemma ne_notDetermined_of_captured?_ofLines
    (h : (ScanResult.ofLines catalogue limit lines).captured? signature = some text) :
    text ≠ "N.D." := by
  rintro rfl
  by_cases hregex : signature ∈ regexes
  · have hlength : signature.length ≤ 6 := length_le_of_captured?_ofLines hregex h
    exact Nat.not_lt_of_le hlength (six_lt_length_of_mem_regexes signature hregex)
  · have hself := eq_of_captured?_ofLines hregex h
    have hids : signature ∉ catalogue.ids := by
      rw [catalogue_ids, ← hself]
      decide +kernel
    rw [ScanResult.captured?_ofLines_eq_none catalogue_consistent hids] at h
    cases h

end Signature

/-! ## The words of the rules -/

namespace Rule

/-- Whether the words of the rule are other than those for logs that tell nothing, if they are fixed,
and are those of a signature that its predicate needs, if they are not. -/
def isGrounded (r : Rule) : Bool :=
  match r.wording with
  | .fixed text => text ≠ "N.D."
  | .captured signature => r.predicate.needs signature

lemma isGrounded_of_mem : ∀ r ∈ table, r.isGrounded = true := by
  decide +kernel

variable {r : Rule} {build alignment : ScanResult}

lemma ne_notDetermined_of_fixed (hr : r ∈ table) {text : String} (hw : r.wording = .fixed text) :
    text ≠ "N.D." := by
  have hgrounded := isGrounded_of_mem r hr
  rw [isGrounded, hw] at hgrounded
  exact of_decide_eq_true hgrounded

/-- A rule that reports what was captured for a signature applies only where something was, and its
message is that. -/
lemma captured?_eq_message (hr : r ∈ table) (happlies : r.applies build alignment = true)
    {signature : String} (hw : r.wording = .captured signature) :
    build.captured? signature = some (r.verdict build).message := by
  have hgrounded := isGrounded_of_mem r hr
  rw [isGrounded, hw] at hgrounded
  have hcontains : build.contains signature = true :=
    r.predicate.contains_of_needs hgrounded happlies
  obtain ⟨text, htext⟩ := Option.isSome_iff_exists.1 hcontains
  have hcaptured : build.captured? signature = some text := htext
  rw [verdict, hw, Wording.message, hcaptured, Option.getD_some]

/-- The rule applies, and none that stands before it in the table does. -/
def FirstApplies (r : Rule) (build alignment : ScanResult) : Prop :=
  r.applies build alignment = true ∧ ∃ before after, table = before ++ r :: after ∧
    ∀ other ∈ before, other.applies build alignment = false

end Rule

/-! ## The words of the verdict -/

section FirstRule

variable {build alignment : ScanResult} {r : Rule}

lemma firstRule?_eq_some_iff :
    firstRule? build alignment = some r ↔ r.FirstApplies build alignment := by
  simp [firstRule?, List.find?_eq_some_iff_append, Rule.FirstApplies]

lemma firstRule?_eq_none_iff :
    firstRule? build alignment = none ↔ ∀ r ∈ Rule.table, r.applies build alignment = false := by
  simp [firstRule?]

lemma judge_eq_verdict (hr : firstRule? build alignment = some r) :
    judge build alignment = r.verdict build := by
  rw [judge, hr]

/-- If the first rule that applies reports what was captured for a signature, then something was. -/
lemma captured?_eq_judge_message (hr : firstRule? build alignment = some r) {signature : String}
    (hw : r.wording = .captured signature) :
    build.captured? signature = some (judge build alignment).message := by
  obtain ⟨hmem, happlies⟩ := firstRule?_eq_some hr
  rw [judge_eq_verdict hr]
  exact Rule.captured?_eq_message hmem happlies hw

end FirstRule

/-- The verdict on a scan for all signatures says that nothing can be told only where that is so. -/
lemma judge_message_eq_notDetermined_iff (limit : Nat) (lines : List String)
    (alignment : ScanResult) :
    (judge (.ofLines Signature.catalogue limit lines) alignment).message = "N.D." ↔
      firstRule? (.ofLines Signature.catalogue limit lines) alignment = none := by
  rcases judge_cases (.ofLines Signature.catalogue limit lines) alignment with
    ⟨hnone, hjudge⟩ | ⟨r, hr, hjudge⟩
  · exact iff_of_true (congrArg Verdict.message hjudge) hnone
  · obtain ⟨hmem, happlies⟩ := firstRule?_eq_some hr
    rw [hjudge, hr]
    refine iff_of_false ?_ (Option.some_ne_none r)
    cases hw : r.wording with
    | fixed text =>
      rw [Rule.verdict, hw]
      exact Rule.ne_notDetermined_of_fixed hmem hw
    | captured signature =>
      apply Signature.ne_notDetermined_of_captured?_ofLines
      exact Rule.captured?_eq_message hmem happlies hw

/-- Where the words of the verdict on two scans come from, the build log having some lines. -/
structure MessageFounded (buildLines : List String) (build alignment : ScanResult) : Prop where
  /-- The verdict says "N.D." exactly if no rule of the table applies. -/
  notDetermined_iff : (judge build alignment).message = "N.D." ↔
    ∀ r ∈ Rule.table, r.applies build alignment = false
  /-- Exactly then it tells nothing. -/
  undetermined_iff : (judge build alignment).group = .undetermined ↔
    ∀ r ∈ Rule.table, r.applies build alignment = false
  /-- Otherwise there is a first rule that applies. -/
  exists_first : (judge build alignment).message ≠ "N.D." →
    ∃ r : Rule, r.FirstApplies build alignment
  /-- If the first rule that applies has fixed words, the verdict has them. -/
  fixed : ∀ (r : Rule) text, r.FirstApplies build alignment → r.wording = .fixed text →
    (judge build alignment).message = text
  /-- If it reports what was captured for a signature, then something was. -/
  captured : ∀ (r : Rule) signature, r.FirstApplies build alignment →
    r.wording = .captured signature →
      build.captured? signature = some (judge build alignment).message
  /-- And this is a part of the first line of the build log that the signature matches. -/
  quoted : ∀ (r : Rule) signature, r.FirstApplies build alignment →
    r.wording = .captured signature →
      QuotedFrom Signature.catalogue buildLines signature (judge build alignment).message

/-- **The words of a verdict are founded.** Let the two logs of a build be scanned for all
signatures. The verdict says "N.D." exactly if no rule of the table applies, and exactly then it
tells nothing. Otherwise it speaks in the words of the first rule that applies: the fixed words, if
it has some, and if it reports what was captured for a signature, then something was, and it is a
contiguous part of the first line of the build log that the signature matches. -/
theorem judge_message_founded (m n : Nat) (buildLines alignmentLines : List String) :
    MessageFounded buildLines (.ofLines Signature.catalogue m buildLines)
      (.ofLines Signature.catalogue n alignmentLines) where
  notDetermined_iff :=
    (judge_message_eq_notDetermined_iff m buildLines _).trans firstRule?_eq_none_iff
  undetermined_iff := (judge_group_eq_undetermined_iff _ _).trans firstRule?_eq_none_iff
  exists_first hmessage := by
    rw [ne_eq, judge_message_eq_notDetermined_iff] at hmessage
    obtain ⟨r, hr⟩ := Option.ne_none_iff_exists'.1 hmessage
    exact ⟨r, firstRule?_eq_some_iff.1 hr⟩
  fixed r text hr hw := by
    rw [judge_eq_verdict (firstRule?_eq_some_iff.2 hr), Rule.verdict, hw, Wording.message]
  captured r signature hr hw := captured?_eq_judge_message (firstRule?_eq_some_iff.2 hr) hw
  quoted r signature hr hw := by
    apply ScanResult.quotedFrom_of_captured?_ofLines Signature.catalogue_consistent
    exact captured?_eq_judge_message (firstRule?_eq_some_iff.2 hr) hw

end BuildTriage
