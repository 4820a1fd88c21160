import BuildTriage.Proofs.Log.Registration
import BuildTriage.Proofs.Log.Sources

/-!
# What a scan reports

A scan looks a pattern up by its id, keeps what patterns reported in a list beside the patterns, and
stops testing when a counter says that nothing is left to find. What it answers is simpler: for a
registered pattern, what the pattern reports for the first line read after its registration for
which it reports anything. `run_reports` says so of every run of a scan, whatever registrations
succeed or fail in it and from whatever sources its lines come.

The lines are those that the steps have to deliver (`ScanStep.delivered`). They are told from the
texts and the bytes of a step, without the readers; that each reader delivers them is
`Scan.step_eq_readLines`. The answers are stated over `watched`, which keeps each registered pattern
with the lines delivered since. The invariant `Tracks` ties a scan to it: what was found is what the
watched patterns report, and the counter counts those that report nothing. One line keeps it
(`Tracks.line`), one step keeps it (`Tracks.step`), and so a run does (`run_tracks`).
-/

namespace BuildTriage

/-! ## Steps of a scan -/

/-- What is done to a scan: a text is registered, or lines are read from some source. A framer may
have been fed before. -/
inductive ScanStep (ε : Type) where
  | register (r : Registration)
  | line (text : String)
  | lines (texts : List String)
  | whole (source : ByteSource)
  | stream (items : List (Except ε String))
  | framed (source : ByteSource) (framer : Framer) (sound : framer.Sound)

variable {ε : Type}

/-- The lines that a step has to deliver to the scan: of a source that is read whole its pieces, or
those that a line feed ends if it fails; of a stream what comes before its first failure; and of a
source that is framed the pieces of the bytes ahead, or the settled ones if it fails, each cut at
the limit. -/
def ScanStep.delivered : ScanStep ε → List String
  | .register _ => []
  | .line text => [text]
  | .lines texts => texts
  | .whole source =>
    (if source.failed then endedPieces source.bytes else pieces source.bytes).map decodeLine
  | .stream items => (items.takeWhile Except.isOk).filterMap Except.toOption
  | .framed source framer _ =>
    (if source.failed then settledPieces framer.maxLength (framer.ahead source.bytes)
      else pieces (framer.ahead source.bytes)).map
        fun piece => decodeLine (piece.take framer.maxLength)

/-- The lines that some steps deliver. -/
def delivered (steps : List (ScanStep ε)) : List String :=
  steps.flatMap ScanStep.delivered

namespace Scan

/-- Registers a text. -/
def register (s : Scan) : Registration → Except PatternError Scan
  | .literal text => s.insertLiteral text
  | .regex source => s.insertRegex source

/-- The scan after a step. A registration that fails leaves it as it was. -/
def step (s : Scan) : ScanStep ε → Scan
  | .register r =>
    match s.register r with
    | .ok t => t
    | .error _ => s
  | .line text => s.line text
  | .lines texts => s.readLines texts
  | .whole source => s.readSource source
  | .stream items => s.readStream items
  | .framed source framer _ => s.readFramed source framer

/-- The scan after some steps. -/
def run (s : Scan) (steps : List (ScanStep ε)) : Scan :=
  steps.foldl step s

end Scan

/-- A stream is read up to its first failure. -/
lemma streamLines_eq (items : List (Except ε String)) :
    streamLines items = (items.takeWhile Except.isOk).filterMap Except.toOption := by
  induction items with
  | nil => rfl
  | cons item rest ih =>
    cases item with
    | error e => rfl
    | ok text =>
      rw [streamLines, ih]
      rfl

namespace ScanStep

lemma delivered_whole (source : ByteSource) : (whole (ε := ε) source).delivered = source.lines :=
  source.lines_eq.symm

lemma delivered_stream (items : List (Except ε String)) :
    (stream items).delivered = streamLines items :=
  (streamLines_eq items).symm

lemma delivered_framed (source : ByteSource) {framer : Framer} (sound : framer.Sound) :
    (framed (ε := ε) source framer sound).delivered = source.framedLines framer := by
  rw [source.framedLines_eq sound, delivered]
  split <;> rfl

end ScanStep

/-- A step that registers nothing reads the lines that it has to deliver. -/
lemma Scan.step_eq_readLines (s : Scan) {step : ScanStep ε} (hstep : ∀ r, step ≠ .register r) :
    s.step step = s.readLines step.delivered := by
  cases step with
  | register r => exact absurd rfl (hstep r)
  | line text | lines texts => rfl
  | whole source => rw [ScanStep.delivered_whole, Scan.step, readSource]
  | stream items => rw [ScanStep.delivered_stream, Scan.step, readStream]
  | framed source framer sound => rw [ScanStep.delivered_framed, Scan.step, readFramed]

/-! ## Patterns and the lines read since their registration -/

/-- A registered pattern with the lines read since its registration. -/
structure Watched where
  pattern : Pattern
  since : List String

namespace Watched

/-- What the pattern reports for the first of the lines for which it reports anything. -/
def report (w : Watched) : Option String :=
  w.since.findSome? fun text => w.pattern.find? text.toList

/-- The pattern after more lines were read. -/
def after (w : Watched) (texts : List String) : Watched :=
  { w with since := w.since ++ texts }

@[simp] lemma after_nil (w : Watched) : w.after [] = w := by
  simp [after]

lemma after_append (w : Watched) (texts more : List String) :
    w.after (texts ++ more) = (w.after texts).after more := by
  simp only [after, List.append_assoc]

lemma report_after (w : Watched) (text : String) :
    (w.after [text]).report = w.report.or (w.pattern.find? text.toList) := by
  simp [report, after, List.findSome?_append]

end Watched

/-- The ids of the watched patterns. -/
def watchedIds (ws : List Watched) : List String :=
  ws.map fun w => w.pattern.id

/-- Watches the patterns through a step. A text whose pattern is malformed or has the id of a
watched one is not watched. -/
def watchStep (ws : List Watched) : ScanStep ε → List Watched
  | .register r =>
    match r.pattern? with
    | some p => if p.id ∈ watchedIds ws then ws else ws ++ [⟨p, []⟩]
    | none => ws
  | step => ws.map (Watched.after · step.delivered)

/-- The patterns that are registered, in order, with the lines read since: those of the set that the
scan starts with, and those that the steps register. -/
def watched (shared : List Registration) (steps : List (ScanStep ε)) : List Watched :=
  (shared.map ScanStep.register ++ steps).foldl watchStep []

lemma watchStep_register_cases (ws : List Watched) (r : Registration) :
    watchStep ws (.register (ε := ε) r) = ws ∨
      ∃ p, watchStep ws (.register (ε := ε) r) = ws ++ [⟨p, []⟩] := by
  simp only [watchStep]
  split
  · split
    · exact .inl rfl
    · exact .inr ⟨_, rfl⟩
  · exact .inl rfl

/-- A watched pattern stays watched, and the lines of the step are read since as well. -/
lemma after_mem_watchStep {ws : List Watched} {w : Watched} (hw : w ∈ ws) (step : ScanStep ε) :
    w.after step.delivered ∈ watchStep ws step := by
  cases step with
  | register r =>
    rw [ScanStep.delivered, Watched.after_nil]
    rcases watchStep_register_cases (ε := ε) ws r with heq | ⟨p, heq⟩ <;> rw [heq]
    · exact hw
    · exact List.mem_append_left _ hw
  | line | lines | whole | stream | framed => exact List.mem_map_of_mem hw

lemma after_mem_foldl_watchStep {ws : List Watched} {w : Watched} (hw : w ∈ ws)
    (steps : List (ScanStep ε)) : w.after (delivered steps) ∈ steps.foldl watchStep ws := by
  induction steps generalizing ws w with
  | nil => simpa [delivered] using hw
  | cons step rest ih =>
    have hrest := ih (after_mem_watchStep hw step)
    rw [← Watched.after_append] at hrest
    exact hrest

/-- The lines read since a registration are the last ones delivered. -/
lemma since_suffix_of_mem_foldl_watchStep {ws : List Watched} {read : List String}
    (h : ∀ w ∈ ws, w.since <:+ read) (steps : List (ScanStep ε)) :
    ∀ w ∈ steps.foldl watchStep ws, w.since <:+ read ++ delivered steps := by
  induction steps generalizing ws read with
  | nil => simpa [delivered] using h
  | cons step rest ih =>
    have hstep : ∀ w ∈ watchStep ws step, w.since <:+ read ++ step.delivered := by
      intro w hw
      cases step with
      | register r =>
        rw [ScanStep.delivered, List.append_nil]
        rcases watchStep_register_cases (ε := ε) ws r with heq | ⟨p, heq⟩ <;> rw [heq] at hw
        · exact h w hw
        · rcases List.mem_append.1 hw with hold | hnew
          · exact h w hold
          · rw [List.mem_singleton.1 hnew]
            exact List.nil_suffix
      | line | lines | whole | stream | framed =>
        obtain ⟨v, hv, rfl⟩ := List.mem_map.1 hw
        exact List.suffix_append_self_iff.2 (h v hv)
    have hrest := ih hstep
    rw [List.append_assoc] at hrest
    exact hrest

lemma since_suffix_of_mem_watched {shared : List Registration} {steps : List (ScanStep ε)}
    {w : Watched} (hw : w ∈ watched shared steps) : w.since <:+ delivered steps := by
  have hnil : ∀ v ∈ ([] : List Watched), v.since <:+ [] := List.forall_mem_nil _
  have hall := since_suffix_of_mem_foldl_watchStep hnil (shared.map ScanStep.register ++ steps) w hw
  have hshared : delivered (shared.map (ScanStep.register (ε := ε))) = [] := by
    simp [delivered, ScanStep.delivered]
  rwa [List.nil_append, delivered, List.flatMap_append, ← delivered, ← delivered, hshared,
    List.nil_append] at hall

/-- A text that is registered by a step, its id being new, is watched from then on. -/
lemma mem_watched_of_register (shared : List Registration) (before after : List (ScanStep ε))
    {r : Registration} {p : Pattern} (hp : r.pattern? = some p)
    (hid : p.id ∉ watchedIds (watched shared before)) :
    ⟨p, delivered after⟩ ∈ watched shared (before ++ .register r :: after) := by
  have hnew : (⟨p, []⟩ : Watched) ∈ watchStep (watched shared before) (.register (ε := ε) r) := by
    simp only [watchStep, hp, if_neg hid]
    exact List.mem_append_right _ (List.mem_singleton_self _)
  have hmem := after_mem_foldl_watchStep hnew after
  rw [watched, ← List.append_assoc, List.foldl_append, List.foldl_cons, ← watched]
  simpa [Watched.after] using hmem

/-! ## The invariant -/

/-- A scan that has read some lines keeps what the watched patterns report. -/
structure Tracks (ws : List Watched) (read : List String) (s : Scan) : Prop where
  consistent : s.patterns.Consistent
  patterns_eq : s.patterns.patterns = ws.map Watched.pattern
  found_eq : s.found = ws.map Watched.report
  pending_eq : s.pending = s.found.countP Option.isNone
  lines_eq : s.lines = read.length
  isBlank_eq : s.isBlank = read.all String.isEmpty

/-- Testing what is not found yet brings the reports up to date and counts down those that come. The
counter may count `other` patterns as well. -/
lemma look_watched (text : String) (ws : List Watched) (other : Nat) :
    Scan.look text.toList (ws.map Watched.pattern) (ws.map Watched.report)
        ((ws.map Watched.report).countP Option.isNone + other)
      = ((ws.map (Watched.after · [text])).map Watched.report,
        ((ws.map (Watched.after · [text])).map Watched.report).countP Option.isNone + other) := by
  induction ws generalizing other with
  | nil => simp [Scan.look]
  | cons w ws ih =>
    have hafter := w.report_after text
    simp only [List.map_cons]
    cases hreport : w.report with
    | some found =>
      rw [hreport, Option.some_or] at hafter
      simp only [Scan.look, hafter, List.countP_cons, Option.isNone_some, Bool.false_eq_true,
        if_false, Nat.add_zero, ih]
    | none =>
      rw [hreport, Option.none_or] at hafter
      cases hfind : w.pattern.find? text.toList with
      | some found =>
        simp only [Scan.look, hafter, hfind, List.countP_cons, Option.isNone_none,
          Option.isNone_some, Option.isSome_some, Bool.false_eq_true, if_false, if_true]
        rw [show (ws.map Watched.report).countP Option.isNone + 1 + other - 1
          = (ws.map Watched.report).countP Option.isNone + other from by omega, ih]
        rfl
      | none =>
        simp only [Scan.look, hafter, hfind, List.countP_cons, Option.isNone_none,
          Option.isSome_none, Bool.false_eq_true, if_false, if_true]
        rw [show (ws.map Watched.report).countP Option.isNone + 1 + other
          = (ws.map Watched.report).countP Option.isNone + (other + 1) from by omega, ih]
        simp only [Prod.mk.injEq, true_and]
        omega

lemma pattern_map_after (ws : List Watched) (texts : List String) :
    (ws.map (Watched.after · texts)).map Watched.pattern = ws.map Watched.pattern := by
  rw [List.map_map]
  rfl

/-- Once every watched pattern has reported something, a line changes no report. -/
lemma report_map_after_of_countP_eq_zero {ws : List Watched}
    (h : (ws.map Watched.report).countP Option.isNone = 0) (text : String) :
    (ws.map (Watched.after · [text])).map Watched.report = ws.map Watched.report := by
  rw [List.map_map]
  refine List.map_congr_left fun w hw => ?_
  have hsome := List.countP_eq_zero.1 h w.report (List.mem_map_of_mem hw)
  rw [Function.comp_apply, Watched.report_after]
  cases hreport : w.report with
  | none => simp [hreport] at hsome
  | some found => rfl

lemma Scan.register_eq (s : Scan) (r : Registration) :
    s.register r = (s.patterns.register r).map s.withPattern := by
  cases r with
  | literal text =>
    rw [register, insertLiteral, PatternSet.register]
    cases s.patterns.insertLiteral text <;> rfl
  | regex source =>
    rw [register, insertRegex, PatternSet.register]
    cases s.patterns.insertRegex source <;> rfl

namespace Tracks

variable {ws : List Watched} {read : List String} {s : Scan}

lemma ids_eq (h : Tracks ws read s) : s.patterns.ids = watchedIds ws := by
  rw [PatternSet.ids, h.patterns_eq, List.map_map, watchedIds]
  rfl

lemma register (h : Tracks ws read s) (r : Registration) :
    Tracks (watchStep (ε := ε) ws (.register r)) read (s.step (ε := ε) (.register r)) := by
  rw [Scan.step, Scan.register_eq]
  rcases h.consistent.register_cases r with
    ⟨p, t, hp, hid, ht, hpatterns, hconsistent⟩ | ⟨e, he, hid⟩
  · rw [ht]
    simp only [watchStep, hp, if_neg (h.ids_eq ▸ hid)]
    refine ⟨hconsistent, ?_, ?_, ?_, h.lines_eq, h.isBlank_eq⟩
    · simp only [Except.map, Scan.withPattern, hpatterns, h.patterns_eq, List.map_append,
        List.map_singleton]
    · simp only [Except.map, Scan.withPattern, h.found_eq, List.map_append, List.map_singleton]
      rfl
    · simp only [Except.map, Scan.withPattern, h.pending_eq, List.countP_append,
        List.countP_singleton, Option.isNone_none, if_true]
  · rw [he]
    have hwatch : watchStep (ε := ε) ws (.register r) = ws := by
      cases hp : r.pattern? with
      | none => simp only [watchStep, hp]
      | some p => simp only [watchStep, hp, if_pos (h.ids_eq ▸ hid p hp)]
    rw [hwatch]
    exact h

/-- Reading a line keeps the invariant, also where nothing is left to find and no pattern is
tested. -/
lemma line (h : Tracks ws read s) (text : String) :
    Tracks (ws.map (Watched.after · [text])) (read ++ [text]) (s.line text) := by
  have hlines : s.lines + 1 = (read ++ [text]).length := by simp [h.lines_eq]
  have hblank : (s.isBlank && text.isEmpty) = (read ++ [text]).all String.isEmpty := by
    simp [h.isBlank_eq]
  have hpatterns : s.patterns.patterns
      = (ws.map (Watched.after · [text])).map Watched.pattern := by
    rw [pattern_map_after, h.patterns_eq]
  by_cases hpending : s.pending = 0
  · have hzero : (ws.map Watched.report).countP Option.isNone = 0 := by
      rw [← h.found_eq, ← h.pending_eq, hpending]
    have hfound := report_map_after_of_countP_eq_zero hzero text
    rw [Scan.line]
    simp only [if_pos hpending]
    exact ⟨h.consistent, hpatterns, by rw [hfound, h.found_eq], h.pending_eq, hlines, hblank⟩
  · have hlook := look_watched text ws 0
    rw [Nat.add_zero, ← h.patterns_eq, ← h.found_eq, ← h.pending_eq] at hlook
    rw [Scan.line]
    simp only [if_neg hpending, hlook]
    exact ⟨h.consistent, hpatterns, rfl, rfl, hlines, hblank⟩

lemma readLines (h : Tracks ws read s) (texts : List String) :
    Tracks (ws.map (Watched.after · texts)) (read ++ texts) (s.readLines texts) := by
  induction texts generalizing ws read s with
  | nil => simpa [Scan.readLines] using h
  | cons text rest ih =>
    have hrest := ih (h.line text)
    rw [List.map_map, List.append_assoc, List.singleton_append] at hrest
    have hafter : (Watched.after · rest) ∘ (Watched.after · [text])
        = (Watched.after · (text :: rest)) := by
      funext w
      exact (w.after_append [text] rest).symm
    rw [hafter] at hrest
    exact hrest

lemma step (h : Tracks ws read s) (step : ScanStep ε) :
    Tracks (watchStep ws step) (read ++ step.delivered) (s.step step) := by
  cases step with
  | register r =>
    rw [ScanStep.delivered, List.append_nil]
    exact h.register r
  | line | lines | whole | stream | framed =>
    rw [s.step_eq_readLines fun _ h => by cases h]
    exact h.readLines _

lemma run (h : Tracks ws read s) (steps : List (ScanStep ε)) :
    Tracks (steps.foldl watchStep ws) (read ++ delivered steps) (s.run steps) := by
  induction steps generalizing ws read s with
  | nil => simpa [delivered, Scan.run] using h
  | cons step rest ih =>
    have hrest := ih (h.step step)
    rw [List.append_assoc] at hrest
    exact hrest

end Tracks

/-! ## The start of a scan -/

/-- The patterns of a set, no line having been read since their registration. -/
def PatternSet.unread (s : PatternSet) : List Watched :=
  s.patterns.map fun p => ⟨p, []⟩

lemma PatternSet.Consistent.watchStep_unread {s : PatternSet} (h : s.Consistent)
    (r : Registration) :
    watchStep (ε := ε) s.unread (.register r) = (s.registered r).unread := by
  have hids : watchedIds s.unread = s.ids := by
    rw [watchedIds, unread, List.map_map, ids]
    rfl
  rw [PatternSet.registered]
  rcases h.register_cases r with ⟨p, t, hp, hid, ht, hpatterns, -⟩ | ⟨e, he, hid⟩
  · simp only [watchStep, hp, if_neg (hids ▸ hid), ht]
    rw [unread, unread, hpatterns, List.map_append, List.map_singleton]
  · rw [he]
    cases hp : r.pattern? with
    | none => simp only [watchStep, hp]
    | some p => simp only [watchStep, hp, if_pos (hids ▸ hid p hp)]

/-- Registering texts with a set watches its patterns. -/
lemma PatternSet.Consistent.foldl_watchStep_unread {s : PatternSet} (h : s.Consistent)
    (registrations : List Registration) :
    (registrations.map ScanStep.register).foldl (watchStep (ε := ε)) s.unread
      = (registrations.foldl PatternSet.registered s).unread := by
  induction registrations generalizing s with
  | nil => rfl
  | cons r rest ih =>
    rw [List.map_cons, List.foldl_cons, List.foldl_cons, h.watchStep_unread, ih (h.registered r)]

lemma watched_eq (shared : List Registration) (steps : List (ScanStep ε)) :
    watched shared steps = steps.foldl watchStep (PatternSet.ofRegistrations shared).unread := by
  have hstart : PatternSet.empty.unread = [] := rfl
  rw [watched, List.foldl_append, ← hstart, PatternSet.empty_consistent.foldl_watchStep_unread,
    PatternSet.ofRegistrations]

lemma PatternSet.Consistent.start_tracks {s : PatternSet} (h : s.Consistent) (limit : Nat) :
    Tracks s.unread [] (Scan.start s limit) := by
  refine ⟨h, ?_, ?_, ?_, rfl, rfl⟩
  · rw [unread, List.map_map]
    exact (List.map_id _).symm
  · rw [unread, List.map_map]
    rfl
  · simp only [Scan.start, size]
    rw [List.countP_map]
    exact (List.countP_eq_length.2 fun _ _ => rfl).symm

/-- A run of a scan keeps what the watched patterns report. -/
lemma run_tracks (shared : List Registration) (limit : Nat) (steps : List (ScanStep ε)) :
    Tracks (watched shared steps) (delivered steps)
      ((Scan.start (.ofRegistrations shared) limit).run steps) := by
  have hstart := (PatternSet.ofRegistrations_consistent shared).start_tracks limit
  rw [watched_eq, ← List.nil_append (delivered steps)]
  exact hstart.run steps

/-! ## The answers -/

/-- The answers of a scan over the watched patterns that has read some lines. -/
structure Scan.Reports (s : Scan) (ws : List Watched) (read : List String) : Prop where
  /-- A registered pattern is answered by what it reports for the first line, of those read since
  its registration, for which it reports anything. -/
  captured?_eq : ∀ w ∈ ws, s.captured? w.pattern.id
    = w.since.findSome? fun text => w.pattern.find? text.toList
  /-- An id that is not registered is not found. -/
  captured?_eq_none : ∀ id, id ∉ watchedIds ws → s.captured? id = none
  contains_iff : ∀ id, s.contains id = true ↔ ∃ text, s.captured? id = some text
  /-- The patterns found are listed in the order of registration with what they reported. -/
  matched_eq : s.matched = (watchedIds ws).filterMap fun id =>
    (s.captured? id).map fun text => (id, text)
  /-- No pattern is registered twice, so none is listed twice. -/
  nodup : (watchedIds ws).Nodup
  lines_eq : s.lines = read.length
  isBlank_iff : s.isBlank = true ↔ ∀ text ∈ read, text = ""

namespace Tracks

variable {ws : List Watched} {read : List String} {s : Scan}

lemma nodup (h : Tracks ws read s) : (watchedIds ws).Nodup := by
  rw [← h.ids_eq]
  exact h.consistent.nodup

lemma captured?_eq (h : Tracks ws read s) {w : Watched} (hw : w ∈ ws) :
    s.captured? w.pattern.id = w.report := by
  obtain ⟨k, hk, rfl⟩ := List.getElem_of_mem hw
  have hposition : s.patterns.position? ws[k].pattern.id = some k := by
    rw [h.consistent.position?_eq, h.ids_eq, List.idxOf?_eq_some_iff]
    have hlength : k < (watchedIds ws).length := by simpa [watchedIds] using hk
    have hid : (watchedIds ws)[k] = ws[k].pattern.id := List.getElem_map _
    refine ⟨hlength, hid, fun j hj heq => ?_⟩
    rw [← hid, h.nodup.getElem_inj_iff] at heq
    omega
  simp [Scan.captured?, capturedIn, hposition, h.found_eq, hk]

lemma captured?_eq_none (h : Tracks ws read s) {id : String} (hid : id ∉ watchedIds ws) :
    s.captured? id = none := by
  have hposition : s.patterns.position? id = none := by
    rw [h.consistent.position?_eq, h.ids_eq, List.idxOf?_eq_none_iff]
    exact hid
  simp [Scan.captured?, capturedIn, hposition]

/-- The ids found are those of the watched patterns that report something. -/
lemma contains_iff_mem (h : Tracks ws read s) (id : String) :
    s.contains id = true ↔ id ∈ watchedIds (ws.filter fun w => w.report.isSome) := by
  rw [Scan.contains, ← Scan.captured?, watchedIds, List.mem_map]
  constructor
  · intro hcontains
    have hid : id ∈ watchedIds ws := by
      by_contra hid
      rw [h.captured?_eq_none hid] at hcontains
      cases hcontains
    obtain ⟨w, hw, rfl⟩ := List.mem_map.1 hid
    rw [h.captured?_eq hw] at hcontains
    exact ⟨w, List.mem_filter.2 ⟨hw, hcontains⟩, rfl⟩
  · rintro ⟨w, hw, rfl⟩
    obtain ⟨hw, hreport⟩ := List.mem_filter.1 hw
    rwa [h.captured?_eq hw]

/-- Once it is known which watched patterns report something, so is which ids are found. -/
lemma contains_eq_decide (h : Tracks ws read s) {ids : List String}
    (hids : watchedIds (ws.filter fun w => w.report.isSome) = ids) (id : String) :
    s.contains id = decide (id ∈ ids) := by
  rw [Bool.eq_iff_iff, decide_eq_true_eq, ← hids]
  exact h.contains_iff_mem id

lemma matched_eq (h : Tracks ws read s) :
    s.matched = (watchedIds ws).filterMap fun id =>
      (s.captured? id).map fun text => (id, text) := by
  rw [Scan.matched, matchesIn, h.patterns_eq, h.found_eq, watchedIds, List.zip_map',
    List.filterMap_map, List.filterMap_map]
  refine List.filterMap_congr fun w hw => ?_
  simp only [Function.comp_apply, h.captured?_eq hw]

lemma reports (h : Tracks ws read s) : s.Reports ws read where
  captured?_eq w hw := h.captured?_eq hw
  captured?_eq_none id hid := h.captured?_eq_none hid
  contains_iff id := by
    rw [Scan.contains, Option.isSome_iff_exists]
    rfl
  matched_eq := h.matched_eq
  nodup := h.nodup
  lines_eq := h.lines_eq
  isBlank_iff := by
    simp [h.isBlank_eq]

end Tracks

/-- **What a scan reports.** Let a scan start over the set that some registrations make, and let any
steps follow. Then each registered pattern is answered by what it reports for the first line, of
those read since its registration, for which it reports anything: of all lines, if it belongs to the
set, and of those that follow, if a step registers it. Every other id is not found, the patterns
found are listed in order with their answers, and lines and emptiness are those of the lines that
the steps have to deliver. The end of the scan keeps all answers. No answer depends on what else is
registered: it is the same in any two runs in which the same lines follow the pattern's
registration. -/
theorem run_reports (shared : List Registration) (limit : Nat) (steps : List (ScanStep ε)) :
    let s := (Scan.start (.ofRegistrations shared) limit).run steps
    s.Reports (watched shared steps) (delivered steps) ∧
      (∀ p ∈ (PatternSet.ofRegistrations shared).patterns,
        s.captured? p.id = (delivered steps).findSome? fun text => p.find? text.toList) ∧
      (∀ before r after p, steps = before ++ .register r :: after → r.pattern? = some p →
        p.id ∉ watchedIds (watched shared before) →
          s.captured? p.id = (delivered after).findSome? fun text => p.find? text.toList) ∧
      ((∀ id, s.finish.captured? id = s.captured? id ∧ s.finish.contains id = s.contains id) ∧
        s.finish.matched = s.matched ∧ s.finish.lines = s.lines ∧
        s.finish.isBlank = s.isBlank) ∧
      ∀ (shared' : List Registration) (limit' : Nat) (steps' : List (ScanStep ε)),
        ∀ w ∈ watched shared steps, w ∈ watched shared' steps' →
          ((Scan.start (.ofRegistrations shared') limit').run steps').captured? w.pattern.id
            = s.captured? w.pattern.id := by
  have htracks := run_tracks shared limit steps
  refine ⟨htracks.reports, fun p hp => ?_, ?_, ⟨fun id => ⟨rfl, rfl⟩, rfl, rfl, rfl⟩, ?_⟩
  · have hunread : (⟨p, []⟩ : Watched) ∈ (PatternSet.ofRegistrations shared).unread :=
      List.mem_map_of_mem hp
    have hmem := after_mem_foldl_watchStep hunread steps
    rw [← watched_eq] at hmem
    exact htracks.captured?_eq hmem
  · rintro before r after p rfl hp hid
    exact htracks.captured?_eq (mem_watched_of_register shared before after hp hid)
  · intro shared' limit' steps' w hw hw'
    rw [htracks.captured?_eq hw, (run_tracks shared' limit' steps').captured?_eq hw']

end BuildTriage
