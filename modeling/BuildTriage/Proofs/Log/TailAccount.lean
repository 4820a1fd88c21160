import BuildTriage.Proofs.Log.TailText
import Mathlib.Data.Nat.PSub

/-!
# The size of a tail window

A tail window keeps the total length of its lines as a number of its own, which is set back when the
window starts afresh, counted up by each line that is pushed and counted down by each line that is
dropped. The number is exact: after any pushes it is the sum of the lengths of the lines held, and
it is within the limit. So a line that is dropped is never longer than what it is taken off, and
there is always a line to drop as long as the limit is exceeded.

The last two are stated with a window that checks both and keeps its lines in one list, oldest
first: `pushCounting?` gets through any pushes, and holds in the end what the window holds
(`ofLines_size_exact`). What carries the argument is that the size is exact where dropping begins,
which a push keeps for the next one (`push_size`).
-/

namespace BuildTriage

namespace TailWindow

/-! ## Dropping lines with checks -/

/-- Drops lines from the front as `evict` does, but has no result if the length of a line is more
than the size that it is taken off, or if the size exceeds the limit and no line is left. -/
def evictCounting? (limit : Nat) : (size : Nat) → List String → Option (Nat × List String)
  | size, [] => if limit < size then none else some (size, [])
  | size, line :: rest =>
    if limit < size then do
      let left ← size.psub line.utf8ByteSize
      evictCounting? limit left rest
    else some (size, line :: rest)

/-- If the size is that of the lines, dropping gets through. -/
lemma evictCounting?_eq_evict (limit : Nat) (lines : List String) :
    evictCounting? limit (totalSize lines) lines = some (evict limit (totalSize lines) lines) := by
  induction lines with
  | nil => exact if_neg (Nat.not_lt_zero limit)
  | cons line rest ih =>
    by_cases hlong : limit < totalSize (line :: rest)
    · -- The line is one of those summed up, so taking its length off leaves the sum of the others.
      have hleft : (totalSize (line :: rest)).psub line.utf8ByteSize = some (totalSize rest) :=
        Nat.psub_eq_some.2 (Nat.add_comm _ _)
      have hsub : totalSize (line :: rest) - line.utf8ByteSize = totalSize rest :=
        Nat.add_sub_cancel_left _ _
      rw [evictCounting?, if_pos hlong, hleft, evict, if_pos hlong, hsub]
      exact ih
    · rw [evictCounting?, if_neg hlong, evict, if_neg hlong]

/-! ## One list of lines -/

variable {w : TailWindow}

/-- The window with its lines in one list. -/
def gathered (w : TailWindow) : TailWindow :=
  { w with older := w.lines, newer := [] }

@[simp] lemma lines_gathered (w : TailWindow) : w.gathered.lines = w.lines := by
  simp [gathered, lines]

/-- Drops the oldest lines as `shrink` does and gathers the others, but has no result if
`evictCounting?` has none. -/
def shrinkCounting? (w : TailWindow) : Option TailWindow := do
  let (size, lines) ← evictCounting? w.limit w.size w.lines
  return { w with size := size, older := lines, newer := [] }

/-- It makes no difference to dropping whether the lines are in one list. -/
lemma shrinkCounting?_gathered (w : TailWindow) :
    w.gathered.shrinkCounting? = w.shrinkCounting? := by
  rw [shrinkCounting?, lines_gathered]
  rfl

lemma shrinkCounting?_eq_shrink (h : w.size = totalSize w.lines) :
    w.shrinkCounting? = some w.shrink.gathered := by
  have hevict : evictCounting? w.limit w.size w.lines = some (w.shrink.size, w.shrink.lines) := by
    rw [shrink_eq, h, evictCounting?_eq_evict]
  rw [shrinkCounting?, hevict, gathered, shrink_limit, shrink_markerSeen]
  rfl

/-! ## Pushing lines with checks -/

/-- The window that a line is added to: an empty one if the line is the first with the marker. -/
def restarted (w : TailWindow) (line : String) : TailWindow :=
  if !w.markerSeen && hasMarker line then
    { w with older := [], newer := [], size := 0, markerSeen := true }
  else w

/-- The window with a line added and none dropped yet. -/
def grown (w : TailWindow) (line : String) : TailWindow :=
  let w := w.restarted line
  { w with size := w.size + line.utf8ByteSize, newer := line :: w.newer }

/-- Pushes a line as `push` does and gathers the lines, but has no result if dropping has none. -/
def pushCounting? (w : TailWindow) (line : String) : Option TailWindow :=
  if w.limit = 0 then some w else (w.grown line).shrinkCounting?

/-- A line that is pushed is added, and then lines are dropped as far as need be. -/
lemma push_eq_shrink (hlimit : w.limit ≠ 0) (line : String) :
    w.push line = (w.grown line).shrink := by
  rw [push, if_neg hlimit, grown, restarted]
  split <;> rfl

lemma gathered_grown_gathered (w : TailWindow) (line : String) :
    (w.gathered.grown line).gathered = (w.grown line).gathered := by
  have hmarker : w.gathered.markerSeen = w.markerSeen := rfl
  rw [grown, grown, restarted, restarted, hmarker]
  split <;> simp [gathered, lines]

/-- What is added to the lines is added to the size. -/
lemma grown_size (h : w.size = totalSize w.lines) (line : String) :
    (w.grown line).size = totalSize (w.grown line).lines := by
  have hrestarted : (w.restarted line).size = totalSize (w.restarted line).lines := by
    rw [restarted]
    split
    · rfl
    · exact h
  have hlines : (w.grown line).lines = (w.restarted line).lines ++ [line] := by
    simp [grown, lines]
  rw [hlines, totalSize_append, ← hrestarted]
  rfl

/-- A push keeps the size exact. -/
lemma push_size (h : w.size = totalSize w.lines) (line : String) :
    (w.push line).size = totalSize (w.push line).lines := by
  by_cases hlimit : w.limit = 0
  · rwa [push, if_pos hlimit]
  · have hevicted := (evict_longest (w.grown line).limit (w.grown line).lines).2
    rw [← grown_size h, ← shrink_eq] at hevicted
    rwa [push_eq_shrink hlimit]

/-- A push with checks gets through, and does what a push does. -/
lemma pushCounting?_gathered (h : w.size = totalSize w.lines) (line : String) :
    w.gathered.pushCounting? line = some (w.push line).gathered := by
  by_cases hlimit : w.limit = 0
  · have hgathered : w.gathered.limit = 0 := hlimit
    rw [pushCounting?, if_pos hgathered, push, if_pos hlimit]
  · have hgathered : w.gathered.limit ≠ 0 := hlimit
    calc w.gathered.pushCounting? line
      _ = (w.gathered.grown line).shrinkCounting? := if_neg hgathered
      _ = (w.grown line).shrinkCounting? := by
        rw [← shrinkCounting?_gathered, gathered_grown_gathered, shrinkCounting?_gathered]
      _ = some (w.grown line).shrink.gathered := shrinkCounting?_eq_shrink (grown_size h line)
      _ = some (w.push line).gathered := by rw [push_eq_shrink hlimit]

/-! ## Any pushes -/

lemma foldl_push_size (h : w.size = totalSize w.lines) (more : List String) :
    (more.foldl push w).size = totalSize (more.foldl push w).lines := by
  induction more generalizing w with
  | nil => exact h
  | cons line rest ih => exact ih (push_size h line)

lemma foldlM_pushCounting?_gathered (h : w.size = totalSize w.lines) (more : List String) :
    more.foldlM pushCounting? w.gathered = some (more.foldl push w).gathered := by
  induction more generalizing w with
  | nil => rfl
  | cons line rest ih =>
    rw [List.foldlM_cons, pushCounting?_gathered h line]
    exact ih (push_size h line)

lemma ofLines_markerSeen_iff (limit : Nat) (pushed : List String) :
    (ofLines limit pushed).markerSeen = true ↔
      0 < limit ∧ ∃ line ∈ pushed, errorMarker.toList <:+: line.toList := by
  rcases Nat.eq_zero_or_pos limit with rfl | hpos
  · rw [ofLines, foldl_push_of_limit_eq_zero rfl]
    simp [ofLimit]
  · rw [(ofLines_keeps hpos pushed).markerSeen_iff, and_iff_right hpos]

/-- **The size of a tail window is exact.** Whatever lines are pushed into a window with whatever
limit, its size is the total length of the lines that it holds, and within the limit. On the way no
line is dropped that is longer than the size it is taken off, and none is to be dropped where there
is none. The window has noticed the marker exactly if it is enabled and one of the lines has it. And
its text is as long as the lines and the line feeds between them. -/
theorem ofLines_size_exact (limit : Nat) (pushed : List String) :
    (ofLines limit pushed).size = totalSize (ofLines limit pushed).lines ∧
      (ofLines limit pushed).size ≤ limit ∧
      pushed.foldlM pushCounting? (ofLimit limit) = some (ofLines limit pushed).gathered ∧
      ((ofLines limit pushed).markerSeen = true ↔
        0 < limit ∧ ∃ line ∈ pushed, errorMarker.toList <:+: line.toList) ∧
      (ofLines limit pushed).text.utf8ByteSize
        = if (ofLines limit pushed).length = 0 then 0
          else (ofLines limit pushed).size + ((ofLines limit pushed).length - 1) := by
  have hnew : (ofLimit limit).size = totalSize (ofLimit limit).lines := rfl
  have hsize : (ofLines limit pushed).size = totalSize (ofLines limit pushed).lines :=
    foldl_push_size hnew pushed
  have hfits : totalSize (ofLines limit pushed).lines ≤ limit :=
    totalSize_lines_ofLines_le limit pushed
  refine ⟨hsize, hsize ▸ hfits, foldlM_pushCounting?_gathered hnew pushed,
    ofLines_markerSeen_iff limit pushed, ?_⟩
  rw [utf8ByteSize_text, hsize, length]
  split
  · next hnone => rw [List.length_eq_zero_iff.1 hnone, totalSize, List.length_nil]
  · rfl

end TailWindow

end BuildTriage
