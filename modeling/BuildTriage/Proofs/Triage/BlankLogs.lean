import BuildTriage.Proofs.Log.Sources
import BuildTriage.Proofs.Text.Lossy
import BuildTriage.Proofs.Triage.LineSets
import BuildTriage.Triage.Summary

/-!
# Logs that say nothing

A log may be missing, or empty, or have lines that are all empty. It makes no difference to the
summary of a build, whichever of its two logs it is: `summarize_of_blank_log`. Only the tail of the
log differs, since a tail keeps its line feeds.

A summary looks at a scan in three ways: at what was captured for each signature, at whether the log
is blank, and at the tail. Two scans with `SameFindings` agree in the first two, and then the
summaries agree apart from the tails (`summarize_congr`). No signature is found in an empty line
(`Signature.find?_nil`), so a scan of empty lines has the findings of one that read nothing.
-/

namespace BuildTriage

/-! ## Results with the same findings -/

/-- Two results report the same for every id, and none or both of their logs are blank. -/
structure ScanResult.SameFindings (r r' : ScanResult) : Prop where
  captured?_eq : ∀ id, r.captured? id = r'.captured? id
  isBlank_eq : r.isBlank = r'.isBlank

namespace ScanResult.SameFindings

variable {r r' : ScanResult}

lemma refl (r : ScanResult) : r.SameFindings r :=
  ⟨fun _ => rfl, rfl⟩

lemma contains_eq (h : r.SameFindings r') (id : String) : r.contains id = r'.contains id :=
  congrArg Option.isSome (h.captured?_eq id)

end ScanResult.SameFindings

section Congruence

variable {build build' alignment alignment' : ScanResult}

/-- The verdict depends on the findings alone. -/
lemma judge_congr (hbuild : build.SameFindings build')
    (halignment : alignment.SameFindings alignment') :
    judge build alignment = judge build' alignment' := by
  have hindex : chosenIndex? build alignment = chosenIndex? build' alignment' :=
    chosenIndex?_congr hbuild.contains_eq halignment.contains_eq halignment.isBlank_eq
  have hmessage (w : Wording) : w.message build = w.message build' := by
    cases w with
    | fixed text => rfl
    | captured signature => rw [Wording.message, Wording.message, hbuild.captured?_eq]
  rw [judge, judge, firstRule?_eq_chosenIndex?_bind, firstRule?_eq_chosenIndex?_bind, hindex]
  split
  · rw [Rule.verdict, Rule.verdict, hmessage]
  · rfl

lemma ofLogs_congr (hbuild : build.SameFindings build')
    (halignment : alignment.SameFindings alignment') (status : BuildStatus) :
    Outcome.ofLogs status build alignment = Outcome.ofLogs status build' alignment' := by
  have hjudge := judge_congr hbuild halignment
  cases status with
  | systemError | failed => simp only [Outcome.ofLogs, hjudge]
  | success | noRebuildRequired | rejected | rejectedFailedDependencies | cancelled => rfl

/-- The summary depends on the findings and the tails alone. -/
lemma summarize_congr (hbuild : build.SameFindings build')
    (halignment : alignment.SameFindings alignment') (b : Build) :
    b.summarize build alignment
      = { b.summarize build' alignment' with
          buildTail := build.trimmedTail, alignmentTail := alignment.trimmedTail } := by
  simp only [Build.summarize, ofLogs_congr hbuild halignment, hbuild.contains_eq,
    halignment.contains_eq]

end Congruence

/-! ## Empty lines -/

/-- An empty line holds no signature: a literal is longer, and no expression matches in it. -/
lemma Signature.find?_nil : ∀ p ∈ Signature.catalogue.patterns, p.find? [] = none := by
  have hliterals : ∀ text ∈ Signature.literals, text ≠ "" := by decide +kernel
  have hregexes : ∀ source ∈ Signature.regexes, ∃ text, source = String.ofList text ∧
      (Regex.parse? text).any (fun probe => probe.isMatch []) = false := by
    intro source hsource
    fin_cases hsource
    all_goals exact ⟨_, rfl, by decide +kernel⟩
  rw [Signature.catalogue_patterns]
  simp only [List.mem_filterMap, forall_exists_index, and_imp]
  intro p r hr hp
  rcases List.mem_append.1 hr with hliteral | hregex
  · obtain ⟨text, htext, rfl⟩ := List.mem_map.1 hliteral
    obtain rfl := Option.some.inj hp
    simp [Pattern.find?, Text.occursIn, hliterals text htext]
  · obtain ⟨source, hsource, rfl⟩ := List.mem_map.1 hregex
    obtain ⟨text, rfl, hnone⟩ := hregexes source hsource
    simp only [Registration.pattern?, Pattern.ofRegex, String.toList_ofList] at hp
    split at hp
    · next probe whole hprobe hwhole =>
      obtain rfl := Option.some.inj hp
      rw [hprobe, Option.any_some] at hnone
      simp [Pattern.find?, hnone]
    · cases hp

/-- In empty lines nothing is found. -/
lemma captured?_ofLines_of_blank {lines : List String} (hblank : ∀ text ∈ lines, text = "")
    (limit : Nat) (id : String) :
    (ScanResult.ofLines Signature.catalogue limit lines).captured? id = none := by
  have hconsistent := Signature.catalogue_consistent
  by_cases hid : id ∈ Signature.catalogue.ids
  · obtain ⟨p, hp, rfl⟩ := List.mem_map.1 hid
    rw [ScanResult.captured?_ofLines hconsistent hp, List.findSome?_eq_none_iff]
    intro text htext
    rw [hblank text htext]
    exact Signature.find?_nil p hp
  · exact ScanResult.captured?_ofLines_eq_none hconsistent hid

/-- A scan of empty lines has the findings of one that read nothing. -/
lemma sameFindings_of_blank {lines : List String} (hblank : ∀ text ∈ lines, text = "")
    (limit : Nat) :
    (ScanResult.ofLines Signature.catalogue limit lines).SameFindings unreadLog where
  captured?_eq id := by
    have hunread : unreadLog.captured? id = none :=
      captured?_ofLines_of_blank (List.forall_mem_nil _) 0 id
    rw [captured?_ofLines_of_blank hblank, hunread]
  isBlank_eq := by
    rw [ScanResult.isBlank_ofLines Signature.catalogue_consistent]
    show lines.all String.isEmpty = true
    simpa using hblank

/-! ## Sources of empty lines -/

lemma decodeLossy_eq_nil_iff (bytes : List UInt8) :
    Text.Utf8.decodeLossy bytes = [] ↔ bytes = [] := by
  constructor
  · intro h
    obtain ⟨segments, hparts, hbytes⟩ := Text.Utf8.State.parts_segments bytes
    rw [Text.Utf8.decodeLossy, Text.Utf8.parts_eq, hparts, List.map_map, List.map_eq_nil_iff] at h
    rw [hbytes, h, List.flatMap_nil]
  · rintro rfl
    rfl

/-- A raw line reads as the empty line if it is empty or a carriage return alone. -/
lemma decodeLine_eq_empty_iff (raw : List UInt8) :
    decodeLine raw = "" ↔ raw = [] ∨ raw = [carriageReturn] := by
  have hempty : decodeLine raw = "" ↔ dropReturn raw = [] := by
    rw [decodeLine, String.ofList_eq_empty_iff, decodeLossy_eq_nil_iff]
  rw [hempty, dropReturn]
  split
  · next hlast =>
    obtain ⟨front, rfl⟩ := List.getLast?_eq_some_iff.1 hlast
    simp
  · next hlast =>
    constructor
    · exact .inl
    · rintro (rfl | rfl)
      · rfl
      · exact absurd rfl hlast

namespace ByteSource

/-- The lines of a source, read whole, are the first of its pieces, if not all. -/
lemma lines_isPrefix_pieces (source : ByteSource) :
    source.lines <+: (pieces source.bytes).map decodeLine := by
  rw [lines_eq]
  refine List.IsPrefix.map decodeLine ?_
  split
  · exact endedPieces_isPrefix _
  · exact List.prefix_refl _

/-- The lines framed of a source are the first of its pieces, each cut at the limit, if not all. -/
lemma framedLines_isPrefix_linesUpTo (source : ByteSource) (n : Nat) :
    source.framedLines (.ofMaxLength n) <+: linesUpTo (max n 1) source.bytes := by
  rw [framedLines_eq source (Framer.ofMaxLength_sound n)]
  split
  · exact (settledPieces_isPrefix _ _).map _
  · exact List.prefix_refl _

/-- The two ways to read a source of raw lines that are empty or a carriage return alone give empty
lines, whether the source ends or fails. -/
lemma eq_empty_of_blank {source : ByteSource}
    (hblank : ∀ raw ∈ pieces source.bytes, raw = [] ∨ raw = [carriageReturn]) (n : Nat) :
    (∀ text ∈ source.lines, text = "") ∧
      ∀ text ∈ source.framedLines (.ofMaxLength n), text = "" := by
  constructor
  · intro text htext
    obtain ⟨raw, hraw, rfl⟩ := List.mem_map.1 (source.lines_isPrefix_pieces.subset htext)
    exact (decodeLine_eq_empty_iff raw).2 (hblank raw hraw)
  · intro text htext
    obtain ⟨raw, hraw, rfl⟩ :=
      List.mem_map.1 ((source.framedLines_isPrefix_linesUpTo n).subset htext)
    have hlength : raw.length ≤ max n 1 := by
      rcases hblank raw hraw with rfl | rfl
      · exact Nat.zero_le _
      · exact Nat.le_max_right n 1
    rw [List.take_of_length_le hlength]
    exact (decodeLine_eq_empty_iff raw).2 (hblank raw hraw)

/-- A source without a byte has no line. -/
lemma eq_nil_of_bytes_eq_nil {source : ByteSource} (h : source.bytes = []) (n : Nat) :
    source.lines = [] ∧ source.framedLines (.ofMaxLength n) = [] := by
  have hlines := source.lines_isPrefix_pieces
  have hframed := source.framedLines_isPrefix_linesUpTo n
  rw [h, pieces_nil, List.map_nil, List.prefix_nil] at hlines
  rw [h, linesUpTo_nil, List.prefix_nil] at hframed
  exact ⟨hlines, hframed⟩

end ByteSource

/-! ## Summaries -/

variable {ε : Type}

/-- Steps that register nothing read the lines that they deliver. -/
lemma Scan.run_eq_readLines (s : Scan) {steps : List (ScanStep ε)}
    (hsteps : ∀ r, ScanStep.register r ∉ steps) : s.run steps = s.readLines (delivered steps) := by
  induction steps generalizing s with
  | nil => rfl
  | cons step rest ih =>
    have hstep : s.step step = s.readLines step.delivered :=
      s.step_eq_readLines fun r heq => hsteps r (heq ▸ List.mem_cons_self)
    have hrest := ih (s.step step) fun r hr => hsteps r (List.mem_cons_of_mem _ hr)
    rw [run, List.foldl_cons, ← run, hrest, hstep, readLines, readLines, ← List.foldl_append]
    rfl

/-- **Missing, empty and blank logs are the same evidence.** Let one log of a build be scanned for
all signatures in any way that delivers no line but empty ones, and let the other log be anything.
Then the summary is the one for a log that was not read, except for the tail of the log; and if no
line is delivered at all, it is that summary. A source delivers no line if it has no byte, and none
but empty ones if its raw lines are empty or a carriage return alone, however it is read. -/
theorem summarize_of_blank_log (b : Build) (other : ScanResult) (limit : Nat) :
    (∀ steps : List (ScanStep ε), (∀ r, ScanStep.register r ∉ steps) →
      (∀ text ∈ delivered steps, text = "") →
        let r := ((signatureScan limit).run steps).finish
        b.summarize r other
            = { b.summarize unreadLog other with buildTail := r.trimmedTail } ∧
          b.summarize other r
            = { b.summarize other unreadLog with alignmentTail := r.trimmedTail } ∧
          (delivered steps = [] →
            b.summarize r other = b.summarize unreadLog other ∧
              b.summarize other r = b.summarize other unreadLog)) ∧
      ∀ (source : ByteSource) (n : Nat),
        (source.bytes = [] →
          delivered [ScanStep.whole (ε := ε) source,
            .framed source (.ofMaxLength n) (Framer.ofMaxLength_sound n)] = []) ∧
        ((∀ raw ∈ pieces source.bytes, raw = [] ∨ raw = [carriageReturn]) →
          ∀ text ∈ delivered [ScanStep.whole (ε := ε) source,
            .framed source (.ofMaxLength n) (Framer.ofMaxLength_sound n)], text = "") := by
  refine ⟨fun steps hsteps hblank => ?_, fun source n => ⟨fun hbytes => ?_, fun hblank => ?_⟩⟩
  · have hr : ((signatureScan limit).run steps).finish
        = .ofLines Signature.catalogue limit (delivered steps) := by
      rw [Scan.run_eq_readLines _ hsteps]
      rfl
    rw [hr]
    have hfindings := sameFindings_of_blank hblank limit
    have hother := ScanResult.SameFindings.refl other
    refine ⟨summarize_congr hfindings hother b, summarize_congr hother hfindings b, fun hnil => ?_⟩
    rw [hnil]
    exact ⟨rfl, rfl⟩
  · obtain ⟨hlines, hframed⟩ := ByteSource.eq_nil_of_bytes_eq_nil hbytes n
    simp [delivered, ScanStep.delivered_whole, ScanStep.delivered_framed, hlines, hframed]
  · obtain ⟨hlines, hframed⟩ := ByteSource.eq_empty_of_blank hblank n
    simpa [delivered, ScanStep.delivered_whole, ScanStep.delivered_framed, or_imp, forall_and]
      using ⟨hlines, hframed⟩

/-- A system error whose alignment log holds a carriage return and three line feeds. The summary
says what it says without that log, and keeps two line feeds of it. -/
theorem summarize_of_blank_log_with_tail :
    let b : Build :=
      { id := "7", status := .systemError, isTemporary := true, buildType := "MVN" }
    let build := ScanResult.ofLines Signature.catalogue 0 ["Repour completed with system error"]
    let source : ByteSource := ⟨[[carriageReturn], [newline, newline], [newline]], false⟩
    let steps : List (ScanStep Empty) :=
      [.framed source (.ofMaxLength 0) (Framer.ofMaxLength_sound 0)]
    let r := ((signatureScan 10).run steps).finish
    (∀ r, ScanStep.register r ∉ steps) ∧
      (∀ raw ∈ pieces source.bytes, raw = [] ∨ raw = [carriageReturn]) ∧
      delivered steps = ["", "", ""] ∧ r.trimmedTail = "\n\n" ∧
      b.summarize build r
        = { b.summarize build unreadLog with alignmentTail := r.trimmedTail } := by
  intro b build source steps r
  have hsteps : ∀ r, ScanStep.register r ∉ steps := by
    intro r hr
    cases List.mem_singleton.1 hr
  have hblank : ∀ raw ∈ pieces source.bytes, raw = [] ∨ raw = [carriageReturn] := by decide
  obtain ⟨hsummary, hsource⟩ := summarize_of_blank_log (ε := Empty) b build 10
  have hempty : ∀ text ∈ delivered steps, text = "" := by
    intro text htext
    exact (hsource source 0).2 hblank text (List.mem_append_right _ htext)
  have hdelivered : delivered steps = ["", "", ""] := by decide
  have htail : r.trimmedTail = "\n\n" := by
    have hr : r = .ofLines Signature.catalogue 10 ["", "", ""] := by
      rw [← hdelivered]
      exact congrArg Scan.finish (Scan.run_eq_readLines _ hsteps)
    rw [hr, ScanResult.trimmedTail_ofLines]
    decide +kernel
  exact ⟨hsteps, hblank, hdelivered, htail, (hsummary steps hsteps hempty).2.1⟩

end BuildTriage
