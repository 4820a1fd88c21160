import BuildTriage.Proofs.Log.Occurrence

/-!
# How long the text of a tail is

The limit of a tail window is on the lengths of the lines that it keeps, and line feeds do not
count. The text of the window has a line feed between any two lines, though, so it is longer than
the lines are (`utf8ByteSize_text`). A line that is not empty pays for its own line feed: without
empty lines the text is shorter than twice the limit. An empty line has no length, so it is never
dropped for the lines after it that are empty as well, and a run of them is kept as a whole
(`ofLines_replicate_empty`). The limit alone is therefore no bound on the text, unless it is zero
and there is no tail (`tail_text_bounded_iff`).
-/

namespace BuildTriage

/-- A line that is not empty has a byte at least. -/
lemma length_le_totalSize_add_count (lines : List String) :
    lines.length ≤ totalSize lines + lines.count "" := by
  induction lines with
  | nil => exact Nat.zero_le _
  | cons line rest ih =>
    rw [List.length_cons, totalSize]
    by_cases hempty : line = ""
    · rw [hempty, List.count_cons_self]
      omega
    · have hbyte : line.utf8ByteSize ≠ 0 := by
        rwa [Ne, String.utf8ByteSize_eq_zero_iff]
      rw [List.count_cons_of_ne hempty]
      omega

lemma totalSize_replicate_empty (n : Nat) : totalSize (List.replicate n "") = 0 := by
  induction n with
  | zero => rfl
  | succ n ih => rw [List.replicate_succ, totalSize, ih, String.utf8ByteSize_empty]

/-- Lines that fit all together are all kept. -/
lemma LongestWithin.eq_of_fits {limit : Nat} {lines kept : List String}
    (h : LongestWithin limit lines kept) (hfits : totalSize lines ≤ limit) : kept = lines :=
  h.suffix.eq_of_length_le (h.longest lines (List.suffix_refl _) hfits).length_le

namespace TailWindow

/-- The text has the bytes of its lines and a line feed between any two of them. -/
lemma utf8ByteSize_text (w : TailWindow) :
    w.text.utf8ByteSize = totalSize w.lines + (w.lines.length - 1) := by
  rw [text]
  induction w.lines with
  | nil => rfl
  | cons line rest ih =>
    cases rest with
    | nil => simp [totalSize]
    | cons next rest =>
      have hfeed : ("\n" : String).utf8ByteSize = 1 := by decide
      have htotal : totalSize (line :: next :: rest)
          = line.utf8ByteSize + totalSize (next :: rest) := rfl
      rw [String.intercalate_cons_cons, String.utf8ByteSize_append, String.utf8ByteSize_append, ih,
        htotal, hfeed]
      simp only [List.length_cons]
      omega

variable {limit : Nat}

lemma totalSize_lines_ofLines_le (limit : Nat) (pushed : List String) :
    totalSize (ofLines limit pushed).lines ≤ limit := by
  rcases Nat.eq_zero_or_pos limit with rfl | hpos
  · rw [ofLines, foldl_push_of_limit_eq_zero rfl]
    exact Nat.le_refl 0
  · exact (ofLines_keeps hpos pushed).longest.fits

/-- Empty lines are kept, however many there are. -/
lemma ofLines_replicate_empty (hpos : 0 < limit) (n : Nat) :
    (ofLines limit (List.replicate n "")).lines = List.replicate n "" := by
  have hmarker : ¬∃ line ∈ List.replicate n "", errorMarker.toList <:+: line.toList := by
    rintro ⟨line, hline, hmarker⟩
    rw [List.eq_of_mem_replicate hline] at hmarker
    exact absurd (List.infix_nil.1 hmarker) (by decide)
  have hlongest := (ofLines_keeps hpos (List.replicate n "")).longest
  rw [fromMarker_of_forall hmarker] at hlongest
  exact hlongest.eq_of_fits (by simp [totalSize_replicate_empty])

lemma utf8ByteSize_text_replicate_empty (hpos : 0 < limit) (n : Nat) :
    (ofLines limit (List.replicate (n + 1) "")).text.utf8ByteSize = n := by
  rw [utf8ByteSize_text, ofLines_replicate_empty hpos, totalSize_replicate_empty,
    List.length_replicate]
  omega

end TailWindow

namespace Scan

variable {limit : Nat} {patterns : PatternSet}

/-- The tail of a scan depends on the lines alone, and not on the patterns. -/
lemma tail_readLines (patterns : PatternSet) (limit : Nat) (lines : List String) :
    ((start patterns limit).readLines lines).tail = TailWindow.ofLines limit lines :=
  readLines_tail (start patterns limit) lines

/-- **The limit bounds the text of the tail up to the empty lines, and only up to them.** However
far a scan has come, the text of its tail has at most twice the limit in bytes and one byte for each
empty line that is kept; and these empty lines are in the text, with a line feed between any two. A
bound that holds for all logs exists exactly if the limit is zero, where no tail is kept. -/
theorem tail_text_bounded_iff (patterns : PatternSet) (limit : Nat) :
    (∀ lines : List String,
      let tail := ((start patterns limit).readLines lines).tail
      tail.text.utf8ByteSize ≤ 2 * limit + tail.lines.count "" ∧
        tail.lines.count "" ≤ tail.text.utf8ByteSize + 1) ∧
      ((∃ bound, ∀ lines : List String,
          ((start patterns limit).readLines lines).tail.text.utf8ByteSize ≤ bound) ↔
        limit = 0) := by
  simp only [tail_readLines]
  refine ⟨fun lines => ?_, ?_, ?_⟩
  · have hfits := TailWindow.totalSize_lines_ofLines_le limit lines
    have hsize := (TailWindow.ofLines limit lines).utf8ByteSize_text
    have hlength := length_le_totalSize_add_count (TailWindow.ofLines limit lines).lines
    have hcount := (TailWindow.ofLines limit lines).lines.count_le_length (a := "")
    omega
  · rintro ⟨bound, hbound⟩
    by_contra hlimit
    have htoo := hbound (List.replicate (bound + 2) "")
    rw [TailWindow.utf8ByteSize_text_replicate_empty (Nat.pos_of_ne_zero hlimit)] at htoo
    omega
  · rintro rfl
    refine ⟨0, fun lines => ?_⟩
    rw [TailWindow.ofLines, TailWindow.foldl_push_of_limit_eq_zero rfl]
    exact Nat.le_refl 0

/-- With a limit of one byte, a log of empty lines has a tail as long as the log. -/
theorem tail_text_unbounded :
    ¬∀ limit : Nat, ∃ bound : Nat, ∀ (patterns : PatternSet) (lines : List String),
      ((start patterns limit).readLines lines).tail.text.utf8ByteSize ≤ bound := by
  intro hall
  obtain ⟨bound, hbound⟩ := hall 1
  have htoo := hbound .empty (List.replicate (bound + 2) "")
  rw [tail_readLines, TailWindow.utf8ByteSize_text_replicate_empty Nat.one_pos] at htoo
  omega

end Scan

end BuildTriage
