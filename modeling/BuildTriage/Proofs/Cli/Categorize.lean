import BuildTriage.Cli.Run
import BuildTriage.Proofs.Log.Occurrence
import BuildTriage.Proofs.Log.Sources
import BuildTriage.Proofs.Triage.JsonRoundTrip

/-!
# Summarizing a build from the command line

The command `categorize` either prints one summary or prints nothing and fails, and the summary that
is read back from what it prints is the one of the build and of the bytes of its logs
(`ending_categorize`). What the run reads is stated apart from how it reads it: the scan of a log by
the bytes under its path, and the size of the tails by the flag, the document of the configuration
and the standard size, in this order.
-/

namespace BuildTriage

open Json (decodeText)

/-! ## What the run reads -/

/-- The bytes that can be read: those of a file, and none of a directory. -/
def Opened.bytes : Opened → List UInt8
  | .file bytes => bytes
  | .directory | .failed _ => []

/-- The size of the tails that the document of a configuration gives, if it gives one. -/
def Config.writtenTail? (document : String) : Option Nat := do
  Config.size? (← (← Toml.parse? document).lookup "trimmed_log_max_size")

namespace Surroundings

/-- Whether nothing can be opened under the path. -/
def CannotOpen (s : Surroundings) (path : String) : Prop :=
  ∃ reason, s.opened path = .failed reason

/-- The scan of the bytes of a log, with lines cut at one mebibyte; a log that is left out was not
read. -/
def logScan (s : Surroundings) (limit : Nat) : Option String → ScanResult
  | some path => .ofLines Signature.catalogue limit (linesUpTo (1024 * 1024) (s.opened path).bytes)
  | none => unreadLog

/-- The document of the configuration that is named, or else of the default one, if there is such a
document. -/
def configDocument? (s : Surroundings) (named : Option String) : Option String :=
  (named <|> s.configPath).bind fun path => (s.opened path).text.toOption

end Surroundings

namespace Request

/-- The paths of the logs that are named. -/
def logs (r : Request) : List String :=
  r.buildLog.toList ++ r.alignmentLog.toList

/-- How much of the tails of the logs is kept: as much as the flag says, else the configuration,
else the standard size, and nothing unless the build is temporary and did not succeed. -/
def tailLimit (r : Request) (s : Surroundings) (named : Option String) : Nat :=
  if r.build.isTemporary = true ∧ r.build.status ≠ .success then
    (r.maxTail <|> (s.configDocument? named).bind Config.writtenTail?).getD 1000000
  else 0

end Request

/-- The arguments ask for the summary of a build, and the configuration and the filter of events are
valid. -/
structure Categorizes (args : List String) (s : Surroundings) (i : Invocation) (r : Request)
    (config : Config) : Prop where
  parsed : Invocation.parse? args = some i
  command : i.command = .categorize r
  configured : s.config i.config = .ok config
  filtered : (LogFilter.parse? (s.filterText i.verbose config)).isSome = true

/-! ## The size of the tails -/

lemma Config.maxTail_of_parse? {document : String} {config : Config}
    (h : Config.parse? document = some config) :
    config.maxTail = (Config.writtenTail? document).getD 1000000 := by
  unfold Config.parse? at h
  unfold Config.writtenTail?
  obtain ⟨entries, hentries, h⟩ := Option.bind_eq_some_iff.1 h
  cases hsize : entries.lookup "trimmed_log_max_size" with
  | none =>
    simp only [hentries, hsize, Option.bind_eq_bind, Option.bind_some, Option.bind_none,
      Option.getD_none] at h ⊢
    split at h
    · obtain ⟨filter, -, hfilter⟩ := Option.bind_eq_some_iff.1 h
      cases hfilter
      rfl
    · cases h
      rfl
  | some n =>
    simp only [hentries, hsize, Option.bind_eq_bind, Option.bind_some] at h ⊢
    obtain ⟨size, hmax, h⟩ := Option.bind_eq_some_iff.1 h
    rw [hmax, Option.getD_some]
    split at h
    · obtain ⟨filter, -, hfilter⟩ := Option.bind_eq_some_iff.1 h
      cases hfilter
      rfl
    · cases h
      rfl

namespace Surroundings

variable {s : Surroundings}

lemma maxTail_of_configAt {path : String} {config : Config} (h : s.configAt path = .ok config) :
    config.maxTail = ((s.opened path).text.toOption.bind Config.writtenTail?).getD 1000000 := by
  unfold configAt at h
  split at h
  · cases h
  · next text htext =>
    split at h
    · next config hparse =>
      cases h
      rw [htext]
      exact Config.maxTail_of_parse? hparse
    · cases h

lemma maxTail_of_config {named : Option String} {config : Config}
    (h : s.config named = .ok config) :
    config.maxTail = ((s.configDocument? named).bind Config.writtenTail?).getD 1000000 := by
  unfold Surroundings.config at h
  split at h
  · exact maxTail_of_configAt h
  · next path hpath =>
    rw [configDocument?, hpath]
    split at h
    · exact maxTail_of_configAt h
    · next hfile =>
      cases h
      cases hopened : s.opened path with
      | file bytes => exact absurd hopened (hfile bytes)
      | directory | failed => simp [hopened, Opened.text, Except.toOption]
  · next hpath =>
    cases h
    rw [configDocument?, hpath]
    rfl

/-! ## Scans -/

/-- A log that can be opened is scanned as its bytes say. -/
lemma scanLog_eq_ok {path : String} (h : ¬s.CannotOpen path) (limit : Nat) :
    ∃ events, s.scanLog path limit = .ok (s.logScan limit (some path), events) := by
  have hscan : ∀ {source : ByteSource} {bytes : List UInt8},
      source.framedLines (.ofMaxLength (1024 * 1024)) = linesUpTo (1024 * 1024) bytes →
        ((signatureScan limit).readFramed source {}).finish
          = .ofLines Signature.catalogue limit (linesUpTo (1024 * 1024) bytes) := by
    intro source bytes hlines
    rw [← hlines]
    rfl
  unfold scanLog
  cases hopened : s.opened path with
  | failed reason => exact absurd ⟨reason, hopened⟩ h
  | file bytes =>
    have hlines : (ByteSource.ofBytes bytes).framedLines (.ofMaxLength (1024 * 1024))
        = linesUpTo (1024 * 1024) bytes := by
      rw [ByteSource.framedLines_eq_of_not_failed rfl]
      simp [ByteSource.bytes, ByteSource.ofBytes]
    refine ⟨Event.ofScan (.ofBytes bytes) (s.logScan limit (some path)), ?_⟩
    simp only [Opened.source, logScan, hopened, Opened.bytes, hscan hlines]
  | directory =>
    have hlines : (⟨[], true⟩ : ByteSource).framedLines (.ofMaxLength (1024 * 1024))
        = linesUpTo (1024 * 1024) [] := by
      rw [ByteSource.framedLines_eq_of_failed rfl, linesUpTo_nil]
      exact settledLinesUpTo_of_not_mem List.not_mem_nil (Nat.zero_le _)
    refine ⟨Event.ofScan ⟨[], true⟩ (s.logScan limit (some path)), ?_⟩
    simp only [Opened.source, logScan, hopened, Opened.bytes, hscan hlines]

lemma scanLog_eq_error {path : String} (h : s.CannotOpen path) (limit : Nat) :
    ∃ e, s.scanLog path limit = .error e := by
  obtain ⟨reason, hopened⟩ := h
  exact ⟨.logUnopened path reason, by simp only [scanLog, hopened, Opened.source]⟩

lemma scanOptional_eq_ok {log : Option String} (h : ∀ path ∈ log, ¬s.CannotOpen path)
    (limit : Nat) : ∃ events, s.scanOptional log limit = .ok (s.logScan limit log, events) := by
  cases log with
  | none => exact ⟨[], rfl⟩
  | some path => exact scanLog_eq_ok (h path rfl) limit

lemma scanOptional_eq_error {log : Option String} (h : ∃ path ∈ log, s.CannotOpen path)
    (limit : Nat) : ∃ e, s.scanOptional log limit = .error e := by
  obtain ⟨path, rfl, hpath⟩ := h
  exact scanLog_eq_error hpath limit

end Surroundings

/-! ## Runs -/

section Run

variable {args : List String} {s : Surroundings} {i : Invocation} {r : Request} {config : Config}

/-- The size of the tails that a run keeps is the one that is asked for. -/
lemma Categorizes.tailLimit_eq (h : Categorizes args s i r config) :
    r.build.tailLimit (r.maxTail.getD config.maxTail) = r.tailLimit s i.config := by
  have hsize : r.maxTail.getD config.maxTail
      = (r.maxTail <|> (s.configDocument? i.config).bind Config.writtenTail?).getD 1000000 := by
    rw [Surroundings.maxTail_of_config h.configured]
    cases r.maxTail <;> rfl
  rw [Build.tailLimit, Request.tailLimit, hsize]

lemma Categorizes.ending_of_error (h : Categorizes args s i r config) {e : RunError}
    (hsummary : Command.summarize s config r = .error e) :
    (ending args s).code = 1 ∧ (ending args s).output = "" := by
  obtain ⟨filter, hfilter⟩ := Option.isSome_iff_exists.1 h.filtered
  have hrun : i.run s = .error e := by
    simp only [Invocation.run, h.configured, hfilter, h.command, Command.execute, hsummary, bind,
      Except.bind]
  simp only [ending, h.parsed, hrun, and_self]

lemma Categorizes.ending_of_ok (h : Categorizes args s i r config) {summary : Summary}
    {events : List Event} (hsummary : Command.summarize s config r = .ok (summary, events)) :
    (ending args s).code = 0 ∧ (ending args s).output = printed summary.toJson := by
  obtain ⟨filter, hfilter⟩ := Option.isSome_iff_exists.1 h.filtered
  have hrun : i.run s = .ok ⟨printed summary.toJson, filter.select events⟩ := by
    simp only [Invocation.run, h.configured, hfilter, h.command, Command.execute, hsummary, bind,
      Except.bind, pure, Except.pure]
  simp only [ending, h.parsed, hrun, and_self]

/-- What is printed of the summary of a build is read back as the summary. -/
lemma decodeText_printed_summary (b : Build) (build alignment : ScanResult) :
    decodeText Summary.decoder (printed (b.summarize build alignment).toJson)
      = .ok (b.summarize build alignment) := by
  have hbreak : ∀ c ∈ "\n".toList, Json.Draft.isBlank c = true :=
    List.all_eq_true.1 (by decide)
  rw [printed, Json.decodeText_toText_append _ _ _ hbreak,
    Summary.decoder_toJson (b.summarize_inRange build alignment)]

/-- A build whose logs are not read is summarized without them. -/
lemma Categorizes.ending_of_not_needsLogs (h : Categorizes args s i r config)
    (hneeds : r.build.status.needsLogs = false) :
    (ending args s).code = 0 ∧
      (ending args s).output = printed (r.build.summarize unreadLog unreadLog).toJson :=
  h.ending_of_ok (by rw [Command.summarize, if_neg (by simp [hneeds])])

/-- A run fails if it needs the logs and cannot open one of them. -/
lemma Categorizes.ending_of_cannotOpen (h : Categorizes args s i r config)
    (hneeds : r.build.status.needsLogs = true) (hopen : ∃ path ∈ r.logs, s.CannotOpen path) :
    (ending args s).code = 1 ∧ (ending args s).output = "" := by
  suffices hsummary : ∃ e, Command.summarize s config r = .error e by
    obtain ⟨e, he⟩ := hsummary
    exact h.ending_of_error he
  have hlimit := h.tailLimit_eq
  by_cases hbuild : ∃ path ∈ r.buildLog, s.CannotOpen path
  · obtain ⟨e, he⟩ := Surroundings.scanOptional_eq_error hbuild (r.tailLimit s i.config)
    refine ⟨e, ?_⟩
    simp only [Command.summarize, hneeds, if_true, hlimit, he, bind, Except.bind]
  · have halignment : ∃ path ∈ r.alignmentLog, s.CannotOpen path := by
      obtain ⟨path, hpath, hcannot⟩ := hopen
      rcases List.mem_append.1 hpath with hmem | hmem
      · exact absurd ⟨path, Option.mem_toList.1 hmem, hcannot⟩ hbuild
      · exact ⟨path, Option.mem_toList.1 hmem, hcannot⟩
    have hcan : ∀ path ∈ r.buildLog, ¬s.CannotOpen path := fun path hpath hcannot =>
      hbuild ⟨path, hpath, hcannot⟩
    obtain ⟨events, hevents⟩ := Surroundings.scanOptional_eq_ok hcan (r.tailLimit s i.config)
    obtain ⟨e, he⟩ := Surroundings.scanOptional_eq_error halignment (r.tailLimit s i.config)
    refine ⟨e, ?_⟩
    simp only [Command.summarize, hneeds, if_true, hlimit, hevents, he, bind, Except.bind]

/-- A run that needs the logs summarizes them if it can open them. -/
lemma Categorizes.ending_of_canOpen (h : Categorizes args s i r config)
    (hneeds : r.build.status.needsLogs = true) (hopen : ∀ path ∈ r.logs, ¬s.CannotOpen path) :
    (ending args s).code = 0 ∧
      (ending args s).output = printed (r.build.summarize
        (s.logScan (r.tailLimit s i.config) r.buildLog)
        (s.logScan (r.tailLimit s i.config) r.alignmentLog)).toJson := by
  have hlimit := h.tailLimit_eq
  obtain ⟨buildEvents, hbuild⟩ := Surroundings.scanOptional_eq_ok (fun path hpath =>
    hopen path (List.mem_append_left _ (Option.mem_toList.2 hpath))) (r.tailLimit s i.config)
  obtain ⟨alignmentEvents, halignment⟩ := Surroundings.scanOptional_eq_ok (fun path hpath =>
    hopen path (List.mem_append_right _ (Option.mem_toList.2 hpath))) (r.tailLimit s i.config)
  have hsummary : Command.summarize s config r
      = .ok (r.build.summarize (s.logScan (r.tailLimit s i.config) r.buildLog)
          (s.logScan (r.tailLimit s i.config) r.alignmentLog),
        buildEvents ++ alignmentEvents ++ Event.ofSummary r.build
          (s.logScan (r.tailLimit s i.config) r.buildLog)
          (s.logScan (r.tailLimit s i.config) r.alignmentLog)) := by
    simp only [Command.summarize, hneeds, if_true, hlimit, hbuild, halignment, bind, Except.bind,
      pure, Except.pure]
  exact h.ending_of_ok hsummary

/-- Nothing is kept of a log if the tails have no size. -/
lemma trimmedTail_logScan_zero (s : Surroundings) (log : Option String) :
    (s.logScan 0 log).trimmedTail = "" := by
  have hempty : (TailWindow.ofLimit 0).text = "" := by decide +kernel
  cases log with
  | none => exact hempty
  | some path =>
    rw [Surroundings.logScan, ScanResult.trimmedTail_ofLines, TailWindow.ofLines,
      TailWindow.foldl_push_of_limit_eq_zero rfl]
    exact hempty

/-- **The command is all or nothing, and prints what the logs say.** If the status needs no logs,
the run succeeds and prints the summary without them, which depends on the build alone. Otherwise it
fails and prints nothing just where a named log cannot be opened, and in all other cases succeeds
and prints one text, which is read back as the summary of the build with the scans of the bytes of
its logs. Their tails have the size that is asked for if the build is temporary and did not succeed,
and are empty if not. -/
theorem ending_categorize (h : Categorizes args s i r config) :
    let limit := r.tailLimit s i.config
    let build := s.logScan limit r.buildLog
    let alignment := s.logScan limit r.alignmentLog
    (r.build.status.needsLogs = false →
      (ending args s).code = 0 ∧
        decodeText Summary.decoder (ending args s).output
          = .ok (r.build.summarize unreadLog unreadLog) ∧
        ∀ args' s' i' r' config', Categorizes args' s' i' r' config' → r'.build = r.build →
          (ending args' s').code = 0 ∧ (ending args' s').output = (ending args s).output) ∧
    (r.build.status.needsLogs = true →
      ((ending args s).code = 1 ∧ (ending args s).output = "" ↔
          ∃ path ∈ r.logs, s.CannotOpen path) ∧
        ((∀ path ∈ r.logs, ¬s.CannotOpen path) →
          (ending args s).code = 0 ∧
            decodeText Summary.decoder (ending args s).output
              = .ok (r.build.summarize build alignment)) ∧
        (¬(r.build.isTemporary = true ∧ r.build.status ≠ .success) →
          (r.build.summarize build alignment).buildTail = "" ∧
            (r.build.summarize build alignment).alignmentTail = "")) := by
  intro limit build alignment
  refine ⟨fun hneeds => ?_, fun hneeds => ⟨⟨fun hend => ?_, h.ending_of_cannotOpen hneeds⟩,
    fun hopen => ?_, fun hkept => ?_⟩⟩
  · obtain ⟨hcode, houtput⟩ := h.ending_of_not_needsLogs hneeds
    refine ⟨hcode, ?_, fun args' s' i' r' config' h' hbuild => ?_⟩
    · rw [houtput, decodeText_printed_summary]
    · rw [houtput, ← hbuild]
      exact h'.ending_of_not_needsLogs (hbuild ▸ hneeds)
  · by_contra hnone
    have hopen : ∀ path ∈ r.logs, ¬s.CannotOpen path := fun path hpath hcannot =>
      hnone ⟨path, hpath, hcannot⟩
    rw [(h.ending_of_canOpen hneeds hopen).1] at hend
    exact absurd hend.1 (by decide)
  · obtain ⟨hcode, houtput⟩ := h.ending_of_canOpen hneeds hopen
    exact ⟨hcode, by rw [houtput, decodeText_printed_summary]⟩
  · have hlimit : limit = 0 := if_neg hkept
    simp only [build, alignment, hlimit]
    exact ⟨trimmedTail_logScan_zero s r.buildLog, trimmedTail_logScan_zero s r.alignmentLog⟩

end Run

/-- A temporary build that failed, with one log of two lines, of which two bytes are kept. -/
theorem ending_categorize_keeps_two_bytes :
    let args :=
      ["categorize", "--status", "FAILED", "--build-log=b", "--trim-size", "2", "--temporary"]
    let s : Surroundings :=
      { opened := fun path =>
          if path = "b" then .file [0x61, 0x62, newline, 0x63, newline] else .failed .notFound }
    let r : Request :=
      { build := { id := "0", status := .failed, isTemporary := true, buildType := "MVN" }
        buildLog := some "b"
        maxTail := some 2 }
    let summary := r.build.summarize (.ofLines Signature.catalogue 2 ["ab", "c"]) unreadLog
    Categorizes args s ⟨.categorize r, none, false⟩ r {} ∧
      r.build.status.needsLogs = true ∧ (∀ path ∈ r.logs, ¬s.CannotOpen path) ∧
      (ending args s).code = 0 ∧ decodeText Summary.decoder (ending args s).output = .ok summary ∧
      summary.buildTail = "c" := by
  intro args s r summary
  have h : Categorizes args s ⟨.categorize r, none, false⟩ r {} :=
    ⟨by decide +kernel, rfl, rfl, by decide +kernel⟩
  have hopen : ∀ path ∈ r.logs, ¬s.CannotOpen path := by
    rintro path hpath ⟨reason, hreason⟩
    rw [List.mem_singleton.1 hpath] at hreason
    cases hreason
  obtain ⟨hcode, houtput⟩ := ((ending_categorize h).2 rfl).2.1 hopen
  have htail : summary.buildTail = "c" := by
    show (ScanResult.ofLines Signature.catalogue 2 ["ab", "c"]).trimmedTail = "c"
    rw [ScanResult.trimmedTail_ofLines]
    decide +kernel
  exact ⟨h, rfl, hopen, hcode, houtput, htail⟩

end BuildTriage
