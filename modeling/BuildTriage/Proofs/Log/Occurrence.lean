import BuildTriage.Proofs.Log.History
import BuildTriage.Proofs.Log.Tail

/-!
# What occurs in a log

The result for a log that was scanned from its first line to its last says of a pattern what the
first line reported that the pattern matches. So whether a pattern is found depends on which lines
occur in the log, and neither on their order nor on how often they occur (`contains_ofLines_congr`),
and every pattern that is found stays found in a log with more lines (`contains_ofLines_mono`). What
is reported depends on the order as well, but not for a literal, which reports itself
(`eq_of_captured?_ofLines`).
-/

namespace BuildTriage

/-- The result of scanning the lines of a log for the patterns of a set. -/
def ScanResult.ofLines (patterns : PatternSet) (limit : Nat) (lines : List String) : ScanResult :=
  ((Scan.start patterns limit).readLines lines).finish

variable {s : PatternSet} {lines more : List String} {limit limit' : Nat}

/-- A scan of a log watches each pattern of the set through all lines. -/
lemma PatternSet.Consistent.readLines_tracks (h : s.Consistent) (limit : Nat)
    (lines : List String) :
    Tracks (s.patterns.map fun p => ⟨p, lines⟩) lines ((Scan.start s limit).readLines lines) := by
  have htracks := (h.start_tracks limit).readLines lines
  rw [PatternSet.unread, List.map_map, List.nil_append] at htracks
  exact htracks

/-- Reading lines pushes them into the tail. -/
lemma Scan.readLines_tail (s : Scan) (lines : List String) :
    (s.readLines lines).tail = lines.foldl TailWindow.push s.tail := by
  induction lines generalizing s with
  | nil => rfl
  | cons text rest ih =>
    have hline : (s.line text).tail = s.tail.push text := by
      simp only [line]
      split <;> rfl
    rw [readLines, List.foldl_cons, ← readLines, ih, hline, List.foldl_cons]

namespace ScanResult

lemma trimmedTail_ofLines (s : PatternSet) (limit : Nat) (lines : List String) :
    (ofLines s limit lines).trimmedTail = (TailWindow.ofLines limit lines).text :=
  congrArg TailWindow.text ((Scan.start s limit).readLines_tail lines)

/-- A log that was not read is like one without a line. -/
lemma unread_eq_ofLines (s : PatternSet) : unread s = ofLines s 0 [] :=
  rfl

/-- A pattern of the set reports what it reports for the first line that it matches. -/
lemma captured?_ofLines (h : s.Consistent) {p : Pattern} (hp : p ∈ s.patterns) :
    (ofLines s limit lines).captured? p.id
      = lines.findSome? fun text => p.find? text.toList := by
  have hwatched : (⟨p, lines⟩ : Watched) ∈ s.patterns.map fun p => ⟨p, lines⟩ :=
    List.mem_map_of_mem hp
  exact (h.readLines_tracks limit lines).captured?_eq hwatched

lemma captured?_ofLines_eq_none (h : s.Consistent) {id : String} (hid : id ∉ s.ids) :
    (ofLines s limit lines).captured? id = none := by
  have htracks := h.readLines_tracks limit lines
  have hids : s.ids = watchedIds (s.patterns.map fun p => ⟨p, lines⟩) := by
    rw [watchedIds, List.map_map, PatternSet.ids]
    rfl
  exact htracks.captured?_eq_none (hids ▸ hid)

/-- An id is found exactly if it is that of a pattern that some line matches. -/
lemma contains_ofLines_iff (h : s.Consistent) (id : String) :
    (ofLines s limit lines).contains id = true ↔
      ∃ p ∈ s.patterns, p.id = id ∧ ∃ text ∈ lines, (p.find? text.toList).isSome = true := by
  have hmem := (h.readLines_tracks limit lines).contains_iff_mem id
  have hreport (p : Pattern) : (Watched.report ⟨p, lines⟩).isSome = true ↔
      ∃ text ∈ lines, (p.find? text.toList).isSome = true := by
    rw [Watched.report, List.findSome?_isSome_iff]
  rw [watchedIds, List.filter_map, List.map_map, List.mem_map] at hmem
  refine hmem.trans ?_
  constructor
  · rintro ⟨p, hp, hid⟩
    obtain ⟨hp, hsome⟩ := List.mem_filter.1 hp
    exact ⟨p, hp, hid, (hreport p).1 hsome⟩
  · rintro ⟨p, hp, hid, hline⟩
    exact ⟨p, List.mem_filter.2 ⟨hp, (hreport p).2 hline⟩, hid⟩

lemma isBlank_ofLines (h : s.Consistent) :
    (ofLines s limit lines).isBlank = lines.all String.isEmpty :=
  (h.readLines_tracks limit lines).isBlank_eq

lemma isBlank_ofLines_eq_false (h : s.Consistent) {text : String} (htext : text ∈ lines)
    (hne : text ≠ "") : (ofLines s limit lines).isBlank = false := by
  rw [isBlank_ofLines h, List.all_eq_false]
  exact ⟨text, htext, by simpa using hne⟩

/-- What is found in a log is found in every log that has its lines among others. -/
lemma contains_ofLines_mono (h : s.Consistent) (hlines : lines ⊆ more) {id : String}
    (hid : (ofLines s limit lines).contains id = true) :
    (ofLines s limit' more).contains id = true := by
  rw [contains_ofLines_iff h] at hid ⊢
  obtain ⟨p, hp, hpid, text, htext, hfind⟩ := hid
  exact ⟨p, hp, hpid, text, hlines htext, hfind⟩

/-- Two logs with the same lines, in whatever order and number, have the same patterns found. -/
lemma contains_ofLines_congr (h : s.Consistent) (hlines : ∀ text, text ∈ lines ↔ text ∈ more)
    (id : String) :
    (ofLines s limit lines).contains id = (ofLines s limit' more).contains id := by
  rw [Bool.eq_iff_iff]
  constructor
  · exact contains_ofLines_mono h fun text => (hlines text).1
  · exact contains_ofLines_mono h fun text => (hlines text).2

lemma isBlank_ofLines_congr (h : s.Consistent) (hlines : ∀ text, text ∈ lines ↔ text ∈ more) :
    (ofLines s limit lines).isBlank = (ofLines s limit' more).isBlank := by
  rw [isBlank_ofLines h, isBlank_ofLines h, Bool.eq_iff_iff, List.all_eq_true, List.all_eq_true]
  simp only [hlines]

/-- A literal reports itself, if anything. -/
lemma eq_of_captured?_ofLines (h : s.Consistent) {text found : String}
    (htext : .literal text ∈ s.patterns)
    (hfound : (ofLines s limit lines).captured? text = some found) : found = text := by
  rw [show text = (Pattern.literal text).id from rfl, captured?_ofLines h htext] at hfound
  obtain ⟨line, -, hline⟩ := List.exists_of_findSome?_eq_some hfound
  simp only [Pattern.find?] at hline
  split at hline
  · exact (Option.some.inj hline).symm
  · cases hline

end ScanResult

end BuildTriage
