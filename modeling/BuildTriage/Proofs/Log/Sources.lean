import BuildTriage.Log.Source
import BuildTriage.Proofs.Log.Framing
import Mathlib.Data.List.Infix

/-!
# Two ways to read a source

A source of bytes can be read line by line as a whole, or a framer can take lines off its chunks as
they come. The framer cuts long lines, so the two differ on these; where no line exceeds the limit
they give the same lines, whether the source ends or fails. `readFramed_eq_readSource` says so of
scans.

Reading the chunks is a run of the framer (`framedLines_reads`). The lines it gives are therefore
those of the bytes ahead of the framer: all of them if the source ends, and the settled ones if it
fails (`framedLines_eq`). Where no line exceeds the limit these are the lines that a line feed ends.
-/

namespace BuildTriage

/-! ## Runs of bytes without a line feed -/

/-- No run of bytes without a line feed is longer than the limit. -/
def ShortRuns (limit : Nat) (bytes : List UInt8) : Prop :=
  ∀ run, run <:+: bytes → newline ∉ run → run.length ≤ limit

instance (limit : Nat) (bytes : List UInt8) : Decidable (ShortRuns limit bytes) :=
  decidable_of_iff
    (∀ tail ∈ bytes.tails, ∀ run ∈ tail.inits, newline ∉ run → run.length ≤ limit) <| by
    simp only [List.mem_tails, List.mem_inits, ShortRuns]
    constructor
    · intro h run hrun
      obtain ⟨tail, hprefix, hsuffix⟩ := List.infix_iff_prefix_suffix.1 hrun
      exact h tail hsuffix run hprefix
    · intro h tail hsuffix run hprefix
      exact h run (List.infix_iff_prefix_suffix.2 ⟨tail, hprefix, hsuffix⟩)

lemma ShortRuns.mono {limit : Nat} {bytes part : List UInt8} (h : ShortRuns limit bytes)
    (hpart : part <:+: bytes) : ShortRuns limit part :=
  fun run hrun => h run (hrun.trans hpart)

/-- Where no line exceeds the limit, cutting the lines changes none. -/
lemma ShortRuns.map_take {limit : Nat} {bytes : List UInt8} (h : ShortRuns limit bytes)
    {raws : List (List UInt8)} (hraws : ∀ raw ∈ raws, raw ∈ pieces bytes) :
    raws.map (fun raw => decodeLine (raw.take limit)) = raws.map decodeLine := by
  refine List.map_congr_left fun raw hraw => ?_
  obtain ⟨hpart, hnewline⟩ := infix_of_mem_pieces (hraws raw hraw)
  rw [List.take_of_length_le (h raw hpart hnewline)]

/-- Where no line exceeds the limit, none is settled before its line feed. -/
lemma ShortRuns.settledPieces_eq {limit : Nat} {bytes : List UInt8} (h : ShortRuns limit bytes) :
    settledPieces limit bytes = endedPieces bytes := by
  have hopen : (bytes.splitOn newline).getLast?.filter (limit < ·.length) = none := by
    rw [Option.filter_eq_none_iff]
    intro last hlast hlong
    have hlong : limit < last.length := of_decide_eq_true hlong
    have hpieces : pieces bytes = bytes.splitOn newline := by
      rw [pieces, if_neg]
      intro hnil
      rw [hlast, Option.some_inj] at hnil
      simp [hnil] at hlong
    obtain ⟨hpart, hnewline⟩ := infix_of_mem_pieces (hpieces ▸ List.mem_of_getLast? hlast)
    exact Nat.not_lt.2 (h last hpart hnewline) hlong
  rw [settledPieces, hopen, Option.toList_none, List.append_nil]

/-! ## Framing a source -/

namespace ByteSource

/-- Taking the lines off the chunks as they come is a run on all bytes. -/
lemma foldl_drain_reads (chunks : List (List UInt8)) (found : List String) {f : Framer}
    (hsound : f.Sound) (hdrained : f.Drained) :
    ∃ lines g, chunks.foldl (fun (found, framer) chunk =>
        let (new, framer) := (Framer.feed framer chunk).drain
        (found ++ new, framer)) (found, f) = (found ++ lines, g) ∧
      Framer.Reads f chunks.flatten lines g ∧ g.Drained := by
  induction chunks generalizing found f with
  | nil => exact ⟨[], f, by simp, .done, hdrained⟩
  | cons chunk chunks ih =>
    obtain ⟨hreads, hdrain⟩ := Framer.drain_reads (hsound.feed chunk)
    obtain ⟨lines, g, hfold, hrest, hg⟩ :=
      ih (found ++ (f.feed chunk).drain.1) (hreads.sound (hsound.feed chunk)) hdrain
    refine ⟨(f.feed chunk).drain.1 ++ lines, g, ?_, ?_, hg⟩
    · rw [List.foldl_cons, hfold, List.append_assoc]
    · exact .feed chunk (hreads.trans hrest)

/-- The lines framed are those of a run on the bytes, and at the end those still to come. -/
lemma framedLines_reads (source : ByteSource) {f : Framer} (hsound : f.Sound) :
    ∃ lines g, Framer.Reads f source.bytes lines g ∧ g.Drained ∧
      source.framedLines f = if source.failed then lines else lines ++ g.outlook [] := by
  obtain ⟨hreads, hdrain⟩ := Framer.drain_reads hsound
  obtain ⟨lines, g, hfold, hrest, hdrained⟩ :=
    foldl_drain_reads source.chunks f.drain.1 (hreads.sound hsound) hdrain
  have hall : Framer.Reads f source.bytes (f.drain.1 ++ lines) g := hreads.trans hrest
  refine ⟨f.drain.1 ++ lines, g, hall, hdrained, ?_⟩
  rw [framedLines, hfold]
  simp only [Framer.drainAtEnd_eq (hall.sound hsound)]

/-- Framing a source gives the lines of the bytes ahead of the framer, each cut at the limit: all of
them if the source ends, and those that are settled if it fails. -/
lemma framedLines_eq (source : ByteSource) {f : Framer} (hsound : f.Sound) :
    source.framedLines f = if source.failed
      then settledLinesUpTo f.maxLength (f.ahead source.bytes)
      else linesUpTo f.maxLength (f.ahead source.bytes) := by
  obtain ⟨lines, g, hreads, hdrained, hlines⟩ := source.framedLines_reads hsound
  rw [hlines]
  split
  · have hsettled := hreads.split_ahead (settledLinesUpTo_splits f.maxLength) []
    rw [← hreads.maxLength_eq, hdrained.settledLinesUpTo_ahead_nil, List.append_nil,
      List.append_nil] at hsettled
    rw [← hreads.maxLength_eq, hsettled]
  · rw [← hreads.outlook_append, List.append_nil, Framer.outlook]

/-- Framing a source that ends gives its pieces, each cut at the limit. -/
lemma framedLines_eq_of_not_failed {source : ByteSource} (h : source.failed = false) (n : Nat) :
    source.framedLines (.ofMaxLength n) = linesUpTo (max n 1) source.bytes := by
  rw [framedLines_eq source (Framer.ofMaxLength_sound n), if_neg (by simp [h])]
  rfl

/-- Framing a source that fails gives its settled pieces, each cut at the limit. -/
lemma framedLines_eq_of_failed {source : ByteSource} (h : source.failed = true) (n : Nat) :
    source.framedLines (.ofMaxLength n) = settledLinesUpTo (max n 1) source.bytes := by
  rw [framedLines_eq source (Framer.ofMaxLength_sound n), if_pos h]
  rfl

/-- Reading a source whole gives its pieces if it ends, and those that a line feed ends if it
fails. -/
lemma lines_eq (source : ByteSource) :
    source.lines = (if source.failed then endedPieces source.bytes
      else pieces source.bytes).map decodeLine := by
  rw [lines, cutLines_fst, rawLines_eq_pieces]

lemma lines_eq_of_not_failed {source : ByteSource} (h : source.failed = false) :
    source.lines = (pieces source.bytes).map decodeLine := by
  rw [lines_eq, if_neg (by simp [h])]

lemma lines_eq_of_failed {source : ByteSource} (h : source.failed = true) :
    source.lines = (endedPieces source.bytes).map decodeLine := by
  rw [lines_eq, if_pos h]

/-- The two ways to read a source in which no line exceeds the limit give the same lines. -/
lemma framedLines_eq_lines (source : ByteSource) {n : Nat}
    (hshort : ShortRuns (max n 1) source.bytes) :
    source.framedLines (.ofMaxLength n) = source.lines := by
  cases hfailed : source.failed with
  | false =>
    rw [framedLines_eq_of_not_failed hfailed, lines_eq_of_not_failed hfailed, linesUpTo,
      hshort.map_take fun _ hraw => hraw]
  | true =>
    rw [framedLines_eq_of_failed hfailed, lines_eq_of_failed hfailed, settledLinesUpTo,
      hshort.settledPieces_eq, hshort.map_take fun _ hraw => (endedPieces_isPrefix _).subset hraw]

end ByteSource

/-! ## Scans of a source -/

namespace Scan

lemma readLines_lines (s : Scan) (lines : List String) :
    (s.readLines lines).lines = s.lines + lines.length := by
  induction lines generalizing s with
  | nil => rfl
  | cons text rest ih =>
    have hline : (s.line text).lines = s.lines + 1 := by
      simp only [line]
      split <;> rfl
    have hrest := ih (s.line text)
    rw [readLines, List.foldl_cons, ← readLines, hrest, hline, List.length_cons]
    omega

/-- **The two ways to read a source agree.** A scan that reads the source whole and one that reads
what a framer takes off its chunks end in the same state and have read the same number of lines, if
the source has no run of bytes without a line feed that is longer than the framer's limit. The
chunks are arbitrary, and the source may end or fail after the last of them. -/
theorem readFramed_eq_readSource (s : Scan) (source : ByteSource) (n : Nat)
    (hshort : ShortRuns (max n 1) source.bytes) :
    s.readFramed source (.ofMaxLength n) = s.readSource source ∧
      (s.readFramed source (.ofMaxLength n)).lines - s.lines = source.lines.length ∧
      (s.readSource source).lines - s.lines = source.lines.length := by
  have heq : s.readFramed source (.ofMaxLength n) = s.readSource source := by
    rw [readFramed, readSource, source.framedLines_eq_lines hshort]
  have hcount : (s.readSource source).lines - s.lines = source.lines.length := by
    rw [readSource, readLines_lines]
    omega
  exact ⟨heq, heq ▸ hcount, hcount⟩

/-- A failing source whose lines just reach the limit, with a carriage return cut off from its line
feed and an unterminated line that is lost. -/
theorem readFramed_failing_source :
    let source : ByteSource := ⟨[[0x61, 0x62, carriageReturn], [newline, newline, 0x63]], true⟩
    let s := Scan.start .empty 10
    ShortRuns (max 3 1) source.bytes ∧
      (s.readFramed source (.ofMaxLength 3) = s.readSource source ∧
        (s.readFramed source (.ofMaxLength 3)).lines - s.lines = source.lines.length ∧
        (s.readSource source).lines - s.lines = source.lines.length) ∧
      source.lines = ["ab", ""] := by
  refine ⟨by decide, readFramed_eq_readSource _ _ 3 (by decide), by decide⟩

end Scan

end BuildTriage
