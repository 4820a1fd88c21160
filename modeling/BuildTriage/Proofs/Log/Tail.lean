import BuildTriage.Log.TailWindow
import Mathlib.Data.List.Infix
import Mathlib.Data.List.TakeWhile
import Mathlib.Tactic.Lemma

/-!
# What a tail window keeps

A tail window drops lines while they are pushed, and starts afresh once, at the first line with the
error marker. What it holds in the end is one choice made on all lines: of those from the marker on
(`fromMarker`) it keeps the longest suffix whose total length is within the limit
(`LongestWithin`). `ofLines_keeps_longest` is the statement.

A line that was dropped never has to come back: a suffix of the lines that fits after one more line
is a suffix that fitted before it, with the line at its end (`LongestWithin.append`). So dropping
from what is held gives the same as dropping from all lines, and the invariant `Keeps` goes through
one push (`Keeps.push`) and through a run of them (`Keeps.foldl_push`).
-/

namespace BuildTriage

/-! ## The longest suffix within a limit -/

/-- The total length of some lines, in bytes of UTF-8 and without line feeds. -/
def totalSize : List String → Nat
  | [] => 0
  | line :: rest => line.utf8ByteSize + totalSize rest

lemma totalSize_append (lines more : List String) :
    totalSize (lines ++ more) = totalSize lines + totalSize more := by
  induction lines with
  | nil => simp [totalSize]
  | cons line rest ih =>
    rw [List.cons_append, totalSize, ih, totalSize]
    omega

/-- Of all suffixes of the lines whose total length is within the limit, `kept` is the longest. -/
structure LongestWithin (limit : Nat) (lines kept : List String) : Prop where
  suffix : kept <:+ lines
  fits : totalSize kept ≤ limit
  longest : ∀ other, other <:+ lines → totalSize other ≤ limit → other <:+ kept

namespace LongestWithin

variable {limit : Nat} {lines kept : List String}

lemma nil (limit : Nat) : LongestWithin limit [] [] where
  suffix := List.suffix_refl _
  fits := Nat.zero_le _
  longest _ hother _ := hother

lemma of_fits (h : totalSize lines ≤ limit) : LongestWithin limit lines lines where
  suffix := List.suffix_refl _
  fits := h
  longest _ hother _ := hother

/-- Where the lines do not fit, the first one is not kept. -/
lemma cons {line : String} (hlong : limit < totalSize (line :: lines))
    (h : LongestWithin limit lines kept) : LongestWithin limit (line :: lines) kept where
  suffix := h.suffix.trans (List.suffix_cons line lines)
  fits := h.fits
  longest := by
    intro other hother hfits
    rcases List.suffix_cons_iff.1 hother with rfl | hrest
    · omega
    · exact h.longest other hrest hfits

/-- After one more line it is enough to choose among what was kept before it. -/
lemma append {line : String} {kept' : List String} (h : LongestWithin limit lines kept)
    (hmore : LongestWithin limit (kept ++ [line]) kept') :
    LongestWithin limit (lines ++ [line]) kept' where
  suffix := hmore.suffix.trans (List.suffix_append_self_iff.2 h.suffix)
  fits := hmore.fits
  longest := by
    intro other hother hfits
    rcases List.suffix_concat_iff.1 hother with rfl | ⟨front, rfl, hfront⟩
    · exact List.nil_suffix
    · have hfront_fits : totalSize front ≤ limit := by
        rw [totalSize_append] at hfits
        omega
      have hkept : front <:+ kept := h.longest front hfront hfront_fits
      exact hmore.longest _ (List.suffix_append_self_iff.2 hkept) hfits

end LongestWithin

/-! ## The lines from the marker on -/

/-- The lines from the first one that holds the error marker on, and all lines if none does. -/
def fromMarker (lines : List String) : List String :=
  if ∃ line ∈ lines, errorMarker.toList <:+: line.toList then
    lines.dropWhile fun line => ¬errorMarker.toList <:+: line.toList
  else lines

lemma fromMarker_of_forall {lines : List String}
    (h : ¬∃ line ∈ lines, errorMarker.toList <:+: line.toList) : fromMarker lines = lines :=
  if_neg h

/-- The first line with the marker is the first one that counts. -/
lemma fromMarker_append_marker {lines : List String}
    (h : ¬∃ line ∈ lines, errorMarker.toList <:+: line.toList) {line : String}
    (hline : errorMarker.toList <:+: line.toList) : fromMarker (lines ++ [line]) = [line] := by
  have hbefore : ∀ text ∈ lines, decide (¬errorMarker.toList <:+: text.toList) = true := by
    intro text htext
    exact decide_eq_true fun hmarker => h ⟨text, htext, hmarker⟩
  rw [fromMarker, if_pos ⟨line, by simp, hline⟩, List.dropWhile_append_of_pos hbefore]
  simp [hline]

/-- A line counts in addition to those before it, unless it is the first one with the marker. -/
lemma fromMarker_append_singleton {lines : List String} {line : String}
    (h : (∃ text ∈ lines, errorMarker.toList <:+: text.toList) ∨
      ¬errorMarker.toList <:+: line.toList) :
    fromMarker (lines ++ [line]) = fromMarker lines ++ [line] := by
  by_cases hseen : ∃ text ∈ lines, errorMarker.toList <:+: text.toList
  · obtain ⟨text, htext, hmarker⟩ := hseen
    have hne : lines.dropWhile (fun line => ¬errorMarker.toList <:+: line.toList) ≠ [] := by
      intro hnil
      have hall := List.dropWhile_eq_nil_iff.1 hnil text htext
      exact of_decide_eq_true hall hmarker
    rw [fromMarker, if_pos ⟨text, List.mem_append_left _ htext, hmarker⟩, List.dropWhile_append,
      if_neg (by simpa using hne), fromMarker, if_pos ⟨text, htext, hmarker⟩]
  · have hline : ¬errorMarker.toList <:+: line.toList := h.resolve_left hseen
    have hnone : ¬∃ text ∈ lines ++ [line], errorMarker.toList <:+: text.toList := by
      rintro ⟨text, htext, hmarker⟩
      rcases List.mem_append.1 htext with hold | hnew
      · exact hseen ⟨text, hold, hmarker⟩
      · rw [List.mem_singleton.1 hnew] at hmarker
        exact hline hmarker
    rw [fromMarker_of_forall hnone, fromMarker_of_forall hseen]

namespace TailWindow

lemma hasMarker_iff (line : String) :
    hasMarker line = true ↔ errorMarker.toList <:+: line.toList :=
  Text.occursIn_iff _ _

/-! ## Dropping the oldest lines -/

/-- Dropping stops as soon as what is left fits, so the longest suffix that fits is left, and the
size that is given with it is its own. -/
lemma evict_longest (limit : Nat) (lines : List String) :
    LongestWithin limit lines (evict limit (totalSize lines) lines).2 ∧
      (evict limit (totalSize lines) lines).1
        = totalSize (evict limit (totalSize lines) lines).2 := by
  induction lines with
  | nil => exact ⟨.nil limit, rfl⟩
  | cons line rest ih =>
    by_cases hlong : limit < totalSize (line :: rest)
    · have hsize : totalSize (line :: rest) - line.utf8ByteSize = totalSize rest := by
        rw [totalSize]
        omega
      rw [evict, if_pos hlong, hsize]
      exact ⟨ih.1.cons hlong, ih.2⟩
    · rw [evict, if_neg hlong]
      exact ⟨.of_fits (by omega), rfl⟩

/-- Dropping from a list goes on in its second part only where the first was not enough. -/
lemma evict_append (limit size : Nat) (older more : List String) :
    evict limit size (older ++ more)
      = if limit < (evict limit size older).1 then evict limit (evict limit size older).1 more
        else ((evict limit size older).1, (evict limit size older).2 ++ more) := by
  induction older generalizing size with
  | nil =>
    rw [List.nil_append, evict]
    split
    · rfl
    · next hfits =>
      cases more with
      | nil => rfl
      | cons line rest => rw [evict, if_neg hfits, List.nil_append]
  | cons line rest ih =>
    by_cases hlong : limit < size
    · simp only [List.cons_append, evict, if_pos hlong, ih]
    · simp only [List.cons_append, evict, if_neg hlong]

/-- The two lists of a window are dropped from as if they were one. -/
lemma shrink_eq (w : TailWindow) :
    (w.shrink.size, w.shrink.lines) = evict w.limit w.size w.lines := by
  have happend := evict_append w.limit w.size w.older w.newer.reverse
  rw [lines, lines, happend]
  simp only [shrink]
  split <;> simp

@[simp] lemma shrink_limit (w : TailWindow) : w.shrink.limit = w.limit := by
  simp only [shrink]
  split <;> rfl

@[simp] lemma shrink_markerSeen (w : TailWindow) : w.shrink.markerSeen = w.markerSeen := by
  simp only [shrink]
  split <;> rfl

/-! ## Pushing lines -/

/-- A window that some lines were pushed into keeps the longest suffix that fits of those that
count. -/
structure Keeps (limit : Nat) (pushed : List String) (w : TailWindow) : Prop where
  limit_eq : w.limit = limit
  size_eq : w.size = totalSize w.lines
  markerSeen_iff : w.markerSeen = true ↔ ∃ line ∈ pushed, errorMarker.toList <:+: line.toList
  longest : LongestWithin limit (fromMarker pushed) w.lines

variable {limit : Nat} {pushed : List String} {w : TailWindow}

lemma ofLimit_keeps (limit : Nat) : Keeps limit [] (ofLimit limit) where
  limit_eq := rfl
  size_eq := rfl
  markerSeen_iff := by simp [ofLimit]
  longest := by simpa [fromMarker, ofLimit, lines] using LongestWithin.nil limit

/-- A line that is added comes last, and the oldest lines are dropped as far as need be. -/
lemma add_longest (hsize : w.size = totalSize w.lines) (line : String) :
    LongestWithin w.limit (w.lines ++ [line]) (w.add line).lines ∧
      (w.add line).size = totalSize (w.add line).lines := by
  let grown : TailWindow :=
    { w with size := w.size + line.utf8ByteSize, newer := line :: w.newer }
  have hlines : grown.lines = w.lines ++ [line] := by
    simp [grown, lines]
  have hgrown : grown.size = totalSize (w.lines ++ [line]) := by
    simp [grown, hsize, totalSize_append, totalSize]
  have hshrink : ((w.add line).size, (w.add line).lines)
      = evict w.limit (totalSize (w.lines ++ [line])) (w.lines ++ [line]) := by
    rw [← hgrown, ← hlines]
    exact grown.shrink_eq
  obtain ⟨hlongest, hevicted⟩ := evict_longest w.limit (w.lines ++ [line])
  rw [← hshrink] at hlongest hevicted
  exact ⟨hlongest, hevicted⟩

/-- A push keeps the invariant. At the first line with the marker all lines held are given up; they
do not count any more, and the new line is the first that does. -/
lemma Keeps.push (h : Keeps limit pushed w) (hpos : 0 < limit) (line : String) :
    Keeps limit (pushed ++ [line]) (w.push line) := by
  have hlimit : w.limit ≠ 0 := by
    have := h.limit_eq
    omega
  rw [TailWindow.push, if_neg hlimit]
  by_cases hreset : w.markerSeen = false ∧ errorMarker.toList <:+: line.toList
  · obtain ⟨hseen, hmarker⟩ := hreset
    have hnone : ¬∃ text ∈ pushed, errorMarker.toList <:+: text.toList := by
      rw [← h.markerSeen_iff, hseen]
      exact Bool.false_ne_true
    have hif : (!w.markerSeen && hasMarker line) = true := by
      rw [hseen, (hasMarker_iff line).2 hmarker]
      rfl
    obtain ⟨hlongest, hsize⟩ := add_longest
      (w := { w with older := [], newer := [], size := 0, markerSeen := true }) rfl line
    rw [if_pos hif]
    refine ⟨by simp [add, h.limit_eq], hsize, ?_, ?_⟩
    · simp [add, hmarker]
    · rw [fromMarker_append_marker hnone hmarker, ← h.limit_eq]
      exact hlongest
  · have hif : ¬(!w.markerSeen && hasMarker line) = true := by
      simpa [hasMarker_iff] using hreset
    have hcounts : (∃ text ∈ pushed, errorMarker.toList <:+: text.toList) ∨
        ¬errorMarker.toList <:+: line.toList := by
      rw [← h.markerSeen_iff]
      by_cases hseen : w.markerSeen = true
      · exact .inl hseen
      · exact .inr fun hmarker => hreset ⟨by simpa using hseen, hmarker⟩
    obtain ⟨hlongest, hsize⟩ := add_longest h.size_eq line
    rw [if_neg hif]
    refine ⟨by simp [add, h.limit_eq], hsize, ?_, ?_⟩
    · simp only [add, shrink_markerSeen, h.markerSeen_iff, List.mem_append, List.mem_singleton,
        or_and_right, exists_or, exists_eq_left]
      refine ⟨.inl, fun hany => ?_⟩
      rcases hany with hold | hmarker
      · exact hold
      · exact hcounts.resolve_right (not_not.2 hmarker)
    · rw [fromMarker_append_singleton hcounts]
      exact h.longest.append (h.limit_eq ▸ hlongest)

/-- A run of pushes keeps the invariant. -/
lemma Keeps.foldl_push (h : Keeps limit pushed w) (hpos : 0 < limit) (more : List String) :
    Keeps limit (pushed ++ more) (more.foldl TailWindow.push w) := by
  induction more generalizing pushed w with
  | nil => simpa using h
  | cons line rest ih =>
    have hrest := ih (h.push hpos line)
    rw [List.append_assoc] at hrest
    exact hrest

/-- The window after some lines were pushed into an empty one. -/
def ofLines (limit : Nat) (pushed : List String) : TailWindow :=
  pushed.foldl push (ofLimit limit)

lemma ofLines_keeps (hpos : 0 < limit) (pushed : List String) :
    Keeps limit pushed (ofLines limit pushed) :=
  (ofLimit_keeps limit).foldl_push hpos pushed

/-- A window that is not enabled stays as it is. -/
lemma foldl_push_of_limit_eq_zero (hlimit : w.limit = 0) (more : List String) :
    more.foldl push w = w := by
  induction more with
  | nil => rfl
  | cons line rest ih => rw [List.foldl_cons, push, if_pos hlimit, ih]

/-- **A tail window keeps the longest suffix that fits.** Whatever lines are pushed into a window
with a limit above zero, it holds exactly the longest suffix, of those from the first line with the
error marker on, or of all lines if none has it, whose total length in bytes is within the limit.
The text of the window is these lines joined by line feeds. A window with the limit zero never holds
a line, its text is empty, and it does not notice the marker. -/
theorem ofLines_keeps_longest (limit : Nat) (pushed : List String) :
    (0 < limit → LongestWithin limit (fromMarker pushed) (ofLines limit pushed).lines) ∧
      (ofLines limit pushed).text.toList
        = ['\n'].intercalate ((ofLines limit pushed).lines.map String.toList) ∧
      (limit = 0 → (ofLines limit pushed).lines = [] ∧ (ofLines limit pushed).text = "" ∧
        (ofLines limit pushed).markerSeen = false) := by
  refine ⟨fun hpos => (ofLines_keeps hpos pushed).longest, ?_, ?_⟩
  · rw [text, String.toList_intercalate]
    rfl
  · rintro rfl
    rw [ofLines, foldl_push_of_limit_eq_zero rfl]
    exact ⟨rfl, rfl, rfl⟩

/-- A window that starts afresh at a line too long for it, and keeps an empty line where the limit
is reached; a later marker is like any other text. A window that is not enabled holds nothing. -/
theorem ofLines_keeps_empty_line_at_limit :
    let pushed := ["ab", "Caught exception: x", "abc", "", "Caught exception:", "", "ab", "", "cde"]
    (0 < 5 ∧ LongestWithin 5 (fromMarker pushed) (ofLines 5 pushed).lines) ∧
      fromMarker pushed
        = ["Caught exception: x", "abc", "", "Caught exception:", "", "ab", "", "cde"] ∧
      (ofLines 5 pushed).lines = ["", "ab", "", "cde"] ∧
      (ofLines 0 pushed).lines = [] ∧ (ofLines 0 pushed).markerSeen = false := by
  intro pushed
  obtain ⟨-, -, hdisabled⟩ := ofLines_keeps_longest 0 pushed
  obtain ⟨hlines, -, hseen⟩ := hdisabled rfl
  exact ⟨⟨by decide, (ofLines_keeps_longest 5 pushed).1 (by decide)⟩, by decide, by decide, hlines,
    hseen⟩

end TailWindow

end BuildTriage
