import BuildTriage.Log.Line
import Mathlib.Data.List.TakeWhile
import Mathlib.Tactic.Lemma

/-!
# The pieces of a log

What a log means as a sequence of raw lines, without any reading: `pieces` splits the bytes at the
line feeds and drops a last piece that is empty. The readers of this library are compared with it.
`pieces_eq_cons` is an equation along the pieces: the first one runs up to the first line feed, and
the others are the pieces of what `afterNewline` leaves. `rawLines_eq_pieces` ties them to the lines
of a source that is read whole.

A source that fails leaves a piece open. The pieces before it are the `endedPieces`; a reader that
cuts lines at a limit can give an open one as well, if it exceeds the limit, and so gives the
`settledPieces`. `Splits` is what the lines of all pieces and those of the settled ones have in
common.
-/

namespace BuildTriage

/-- What stands between the line feeds of a log, at the end only if it is not empty. -/
def pieces (bytes : List UInt8) : List (List UInt8) :=
  if (bytes.splitOn newline).getLast? = some [] then (bytes.splitOn newline).dropLast
  else bytes.splitOn newline

/-- The pieces that a line feed ends. -/
def endedPieces (bytes : List UInt8) : List (List UInt8) :=
  (bytes.splitOn newline).dropLast

/-- The pieces whose first `limit` bytes nothing that follows can change: those that a line feed
ends, and what stands behind the last line feed if it is longer than that. -/
def settledPieces (limit : Nat) (bytes : List UInt8) : List (List UInt8) :=
  endedPieces bytes ++ ((bytes.splitOn newline).getLast?.filter (limit < ·.length)).toList

/-- What stands after the first line feed. -/
def afterNewline (bytes : List UInt8) : List UInt8 :=
  (bytes.dropWhile (· != newline)).tail

/-- The texts of the pieces, each piece cut at `limit` bytes. -/
def linesUpTo (limit : Nat) (bytes : List UInt8) : List String :=
  (pieces bytes).map fun piece => decodeLine (piece.take limit)

/-- The texts of the settled pieces, each piece cut at `limit` bytes. -/
def settledLinesUpTo (limit : Nat) (bytes : List UInt8) : List String :=
  (settledPieces limit bytes).map fun piece => decodeLine (piece.take limit)

/-! ## Bytes before and after a line feed -/

lemma exists_append_newline {bytes : List UInt8} (h : newline ∈ bytes) :
    ∃ front rest, newline ∉ front ∧ bytes = front ++ newline :: rest := by
  obtain ⟨front, rest, hbytes, hfront⟩ := List.eq_append_cons_of_mem h
  exact ⟨front, rest, hfront, hbytes⟩

lemma bne_newline_of_not_mem {front : List UInt8} (h : newline ∉ front) :
    ∀ b ∈ front, (b != newline) = true := by
  intro b hb
  have hne : b ≠ newline := fun heq => h (heq ▸ hb)
  simpa using hne

lemma takeWhile_append {front : List UInt8} (h : newline ∉ front) (rest : List UInt8) :
    (front ++ rest).takeWhile (· != newline) = front ++ rest.takeWhile (· != newline) :=
  List.takeWhile_append_of_pos (bne_newline_of_not_mem h)

lemma afterNewline_append {front : List UInt8} (h : newline ∉ front) (rest : List UInt8) :
    afterNewline (front ++ rest) = afterNewline rest := by
  rw [afterNewline, List.dropWhile_append_of_pos (bne_newline_of_not_mem h), afterNewline]

@[simp] lemma afterNewline_nil : afterNewline [] = [] := rfl

@[simp] lemma afterNewline_newline (rest : List UInt8) :
    afterNewline (newline :: rest) = rest := by
  simp [afterNewline]

/-! ## Pieces -/

@[simp] lemma pieces_nil : pieces [] = [] := by
  simp [pieces, List.splitOn_eq_singleton]

lemma pieces_of_not_mem {bytes : List UInt8} (h : newline ∉ bytes) (hne : bytes ≠ []) :
    pieces bytes = [bytes] := by
  rw [pieces, List.splitOn_eq_singleton h, if_neg (by simpa using hne)]

lemma pieces_append_newline {front : List UInt8} (h : newline ∉ front) (rest : List UInt8) :
    pieces (front ++ newline :: rest) = front :: pieces rest := by
  have hrest : rest.splitOn newline ≠ [] := List.splitOn_ne_nil newline rest
  rw [pieces, List.splitOn_append_cons_self_of_not_mem h, List.getLast?_cons_of_ne_nil hrest,
    List.dropLast_cons_of_ne_nil hrest, pieces]
  split <;> rfl

/-- The first piece runs up to the first line feed; the others are those of the rest. -/
lemma pieces_eq_cons {bytes : List UInt8} (hne : bytes ≠ []) :
    pieces bytes = bytes.takeWhile (· != newline) :: pieces (afterNewline bytes) := by
  by_cases h : newline ∈ bytes
  · obtain ⟨front, rest, hfront, rfl⟩ := exists_append_newline h
    rw [pieces_append_newline hfront, takeWhile_append hfront, afterNewline_append hfront]
    simp
  · have htake := takeWhile_append h []
    have hafter := afterNewline_append h []
    simp only [List.append_nil, List.takeWhile_nil, afterNewline_nil] at htake hafter
    rw [pieces_of_not_mem h hne, htake, hafter, pieces_nil]

example : pieces [0x61, newline, newline, 0x62] = [[0x61], [], [0x62]] := by decide

lemma length_afterNewline_lt {bytes : List UInt8} (hne : bytes ≠ []) :
    (afterNewline bytes).length < bytes.length := by
  have hle := (List.dropWhile_sublist (l := bytes) (· != newline)).length_le
  have hpos := List.length_pos_iff.2 hne
  rw [afterNewline, List.length_tail]
  omega

lemma afterNewline_suffix (bytes : List UInt8) : afterNewline bytes <:+ bytes :=
  (List.tail_suffix _).trans (List.dropWhile_suffix _)

/-- Induction along the pieces of a log. -/
lemma pieces_induction {P : List UInt8 → Prop} (nil : P [])
    (cons : ∀ bytes, bytes ≠ [] → P (afterNewline bytes) → P bytes) (bytes : List UInt8) :
    P bytes := by
  induction hlen : bytes.length using Nat.strongRecOn generalizing bytes with
  | _ n ih =>
    by_cases hne : bytes = []
    · exact hne ▸ nil
    · exact cons bytes hne (ih _ (hlen ▸ length_afterNewline_lt hne) _ rfl)

/-- A piece stands in the log without a line feed in it. -/
lemma infix_of_mem_pieces {bytes piece : List UInt8} (h : piece ∈ pieces bytes) :
    piece <:+: bytes ∧ newline ∉ piece := by
  induction bytes using pieces_induction with
  | nil => simp at h
  | cons bytes hne ih =>
    rw [pieces_eq_cons hne, List.mem_cons] at h
    rcases h with rfl | hrest
    · refine ⟨(List.takeWhile_prefix _).isInfix, fun hmem => ?_⟩
      simpa using List.mem_takeWhile_imp hmem
    · obtain ⟨hpart, hnewline⟩ := ih hrest
      exact ⟨hpart.trans (afterNewline_suffix bytes).isInfix, hnewline⟩

/-! ## Settled pieces -/

lemma endedPieces_isPrefix (bytes : List UInt8) : endedPieces bytes <+: pieces bytes := by
  rw [pieces]
  split
  · exact List.prefix_refl _
  · exact List.dropLast_prefix _

/-- The settled pieces are the first pieces, if not all. -/
lemma settledPieces_isPrefix (limit : Nat) (bytes : List UInt8) :
    settledPieces limit bytes <+: pieces bytes := by
  obtain ⟨front, last, hsplit⟩ : ∃ front last, bytes.splitOn newline = front ++ [last] :=
    ⟨_, _, (List.dropLast_concat_getLast (List.splitOn_ne_nil newline bytes)).symm⟩
  rw [settledPieces, endedPieces, pieces, hsplit, List.dropLast_concat, List.getLast?_concat]
  by_cases hnil : last = []
  · simp [hnil, Option.filter_some]
  · rw [if_neg (by simpa using hnil), Option.filter_some]
    refine (List.prefix_append_right_inj _).2 ?_
    split
    · exact List.prefix_refl _
    · exact List.nil_prefix

lemma settledPieces_of_not_mem {bytes : List UInt8} (h : newline ∉ bytes) (limit : Nat) :
    settledPieces limit bytes = if limit < bytes.length then [bytes] else [] := by
  rw [settledPieces, endedPieces, List.splitOn_eq_singleton h]
  split
  · next hlong => simp [hlong]
  · next hshort => simpa using hshort

lemma settledPieces_append_newline {front : List UInt8} (h : newline ∉ front) (limit : Nat)
    (rest : List UInt8) :
    settledPieces limit (front ++ newline :: rest) = front :: settledPieces limit rest := by
  have hrest : rest.splitOn newline ≠ [] := List.splitOn_ne_nil newline rest
  rw [settledPieces, endedPieces, List.splitOn_append_cons_self_of_not_mem h,
    List.getLast?_cons_of_ne_nil hrest, List.dropLast_cons_of_ne_nil hrest, List.cons_append,
    settledPieces, endedPieces]

example : settledPieces 2 [0x61, newline, 0x62, 0x63, 0x64] = [[0x61], [0x62, 0x63, 0x64]] ∧
    settledPieces 3 [0x61, newline, 0x62, 0x63, 0x64] = [[0x61]] := by decide

/-! ## Cut pieces -/

/-- What it takes to tell lines from bytes, each line being cut at the limit. The line at the start
comes first if a line feed ends it, and then the lines of the rest come; and so it is if the line is
longer than the limit, however it goes on. -/
structure Splits (limit : Nat) (split : List UInt8 → List String) : Prop where
  append_newline : ∀ {front : List UInt8}, newline ∉ front → ∀ rest,
    split (front ++ newline :: rest) = decodeLine (front.take limit) :: split rest
  append_of_lt : ∀ {front : List UInt8}, newline ∉ front → limit < front.length → ∀ rest,
    split (front ++ rest) = decodeLine (front.take limit) :: split (afterNewline rest)

@[simp] lemma linesUpTo_nil (limit : Nat) : linesUpTo limit [] = [] := by
  simp [linesUpTo]

/-- How a long line is treated follows from how one is that nothing follows. -/
lemma Splits.of_append_newline {limit : Nat} {split : List UInt8 → List String}
    (hnil : split [] = [])
    (hnewline : ∀ {front : List UInt8}, newline ∉ front → ∀ rest,
      split (front ++ newline :: rest) = decodeLine (front.take limit) :: split rest)
    (hlast : ∀ {front : List UInt8}, newline ∉ front → limit < front.length →
      split front = [decodeLine (front.take limit)]) :
    Splits limit split where
  append_newline := hnewline
  append_of_lt {front} hfront hlong rest := by
    have hcut : ∀ tail, (front ++ tail).take limit = front.take limit :=
      fun tail => List.take_append_of_le_length (Nat.le_of_lt hlong)
    by_cases h : newline ∈ rest
    · obtain ⟨tail, rest, htail, rfl⟩ := exists_append_newline h
      have hwhole : newline ∉ front ++ tail := by simp [hfront, htail]
      rw [← List.append_assoc, hnewline hwhole, hcut, afterNewline_append htail,
        afterNewline_newline]
    · have hwhole : newline ∉ front ++ rest := by simp [hfront, h]
      have hlonger : limit < (front ++ rest).length := by
        rw [List.length_append]
        exact Nat.lt_add_right _ hlong
      have hafter := afterNewline_append h []
      rw [List.append_nil, afterNewline_nil] at hafter
      rw [hlast hwhole hlonger, hcut, hafter, hnil]

lemma linesUpTo_splits (limit : Nat) : Splits limit (linesUpTo limit) := by
  refine .of_append_newline (linesUpTo_nil limit) (fun hfront rest => ?_) fun hfront hlong => ?_
  · rw [linesUpTo, pieces_append_newline hfront, List.map_cons, linesUpTo]
  · have hne := List.ne_nil_of_length_pos (Nat.lt_of_le_of_lt (Nat.zero_le limit) hlong)
    rw [linesUpTo, pieces_of_not_mem hfront hne, List.map_singleton]

lemma settledLinesUpTo_of_not_mem {bytes : List UInt8} (h : newline ∉ bytes) {limit : Nat}
    (hshort : bytes.length ≤ limit) : settledLinesUpTo limit bytes = [] := by
  rw [settledLinesUpTo, settledPieces_of_not_mem h, if_neg (Nat.not_lt.2 hshort), List.map_nil]

lemma settledLinesUpTo_splits (limit : Nat) : Splits limit (settledLinesUpTo limit) := by
  refine .of_append_newline ?_ (fun hfront rest => ?_) fun hfront hlong => ?_
  · exact settledLinesUpTo_of_not_mem List.not_mem_nil (Nat.zero_le limit)
  · rw [settledLinesUpTo, settledPieces_append_newline hfront, List.map_cons, settledLinesUpTo]
  · rw [settledLinesUpTo, settledPieces_of_not_mem hfront, if_pos hlong, List.map_singleton]

/-! ## Reading a source whole -/

/-- Reading on from bytes `held` of an unfinished line, held last first, splits what follows as if
these stood before it. -/
lemma foldl_cutStep (bytes : List UInt8) (found : List (List UInt8)) (held : List UInt8) :
    (bytes.foldl cutStep (found, held)).1.reverse ++ [(bytes.foldl cutStep (found, held)).2.reverse]
      = found.reverse ++ bytes.splitOnPPrepend (· == newline) held := by
  induction bytes generalizing found held with
  | nil => simp
  | cons b rest ih =>
    rw [List.foldl_cons, cutStep]
    by_cases hb : b = newline
    · rw [if_pos hb, ih, List.splitOnPPrepend_cons_pos (by simpa using hb)]
      simp
    · rw [if_neg hb, ih, List.splitOnPPrepend_cons_neg (by simpa using hb)]

/-- The complete raw lines and the bytes after them are what stands between the line feeds. -/
lemma cutLines_append (bytes : List UInt8) :
    (cutLines bytes).1 ++ [(cutLines bytes).2] = bytes.splitOn newline := by
  have h := foldl_cutStep bytes [] []
  simpa [cutLines, List.splitOn_eq_splitOnP] using h

/-- The raw lines of a log that is read whole are its pieces. -/
lemma rawLines_eq_pieces (bytes : List UInt8) : rawLines bytes = pieces bytes := by
  rw [pieces, ← cutLines_append, rawLines]
  by_cases h : (cutLines bytes).2 = []
  · simp [h]
  · simp [h]

/-- The complete raw lines of a log are the pieces that a line feed ends. -/
lemma cutLines_fst (bytes : List UInt8) : (cutLines bytes).1 = endedPieces bytes := by
  rw [endedPieces, ← cutLines_append, List.dropLast_concat]

end BuildTriage
